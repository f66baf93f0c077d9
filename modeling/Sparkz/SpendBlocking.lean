import Sparkz.ClaimEndings

namespace Sparkz

open Interleaving

/-!
# Spends that the asset context blocks

`processSpend` claims its operation first and compares the saved asset context
with the current one afterwards.  A claim that takes over a row from a failed
preflight has written by then, and the blocked answer does not take that back.
-/

/-! ## The answer of a blocked spend -/

/-- How the error of a blocked spend begins. -/
def assetContextBlock : String :=
  "Spend recovery is blocked because the original asset context no longer matches: "

/-- The spend was not continued because its asset context has changed. -/
def ReliableSpendExecutionResult.IsBlocked
    (result : ReliableSpendExecutionResult) :
    Prop :=
  ∃ mismatch, result.error = some (assetContextBlock ++ mismatch)

/-- A text that differs from the blocked error at some byte. -/
def IsOtherText (text : String) : Prop :=
  (text.toByteArray.data.toList.zip
      assetContextBlock.toByteArray.data.toList).any
    (fun pair => pair.1 != pair.2) = true

instance (text : String) : Decidable (IsOtherText text) :=
  inferInstanceAs (Decidable (_ = true))

/-- Two lists that differ where both have an element. -/
private theorem any_zip_append {α : Type} [BEq α] [LawfulBEq α]
    {left right : List α}
    (differ :
      (left.zip right).any (fun pair => pair.1 != pair.2) = true)
    (leftRest rightRest : List α) :
    ((left ++ leftRest).zip (right ++ rightRest)).any
        (fun pair => pair.1 != pair.2) = true := by
  obtain ⟨pair, member, differs⟩ := List.any_eq_true.mp differ
  refine List.any_eq_true.mpr ⟨pair, ?_, differs⟩
  obtain ⟨index, inBounds, isPair⟩ := List.mem_iff_getElem.mp member
  rw [List.length_zip] at inBounds
  refine List.mem_iff_getElem.mpr ⟨index, ?_, ?_⟩
  · rw [List.length_zip, List.length_append, List.length_append]
    omega
  · rw [← isPair, List.getElem_zip, List.getElem_zip,
      List.getElem_append_left, List.getElem_append_left]

/-- A text that has differed differs however it goes on. -/
theorem IsOtherText.append
    {text : String}
    (isOther : IsOtherText text)
    (rest : String) :
    IsOtherText (text ++ rest) := by
  have differs :=
    any_zip_append isOther rest.toByteArray.data.toList []
  unfold IsOtherText
  rw [String.toByteArray_append, ByteArray.data_append,
    Array.toList_append]
  simpa using differs

/-- Another text is not the error of a blocked spend. -/
theorem IsOtherText.ne_block
    {text : String}
    (isOther : IsOtherText text)
    (mismatch : String) :
    text ≠ assetContextBlock ++ mismatch := by
  intro same
  have differs :=
    any_zip_append isOther [] mismatch.toByteArray.data.toList
  rw [List.append_nil, ← Array.toList_append, ← ByteArray.data_append,
    ← String.toByteArray_append, ← same] at differs
  obtain ⟨pair, member, apart⟩ := List.any_eq_true.mp differs
  obtain ⟨index, inBounds, rfl⟩ := List.mem_iff_getElem.mp member
  simp only [List.getElem_zip, bne_self_eq_false] at apart
  cases apart

/-! ## What else a spend answers -/

/-- A call whose answers are not those of a blocked spend. -/
abbrev AnswersOtherwise (body : Call ReliableSpendExecutionResult) :
    Prop :=
  body.Returns fun result => ¬ result.IsBlocked

/-- A result with another error is not a blocked one. -/
theorem answersText
    {result : ReliableSpendExecutionResult}
    {error : String}
    (isError : result.error = some error)
    (isOther : IsOtherText error) :
    AnswersOtherwise (pure result) := by
  rintro ⟨mismatch, blocked⟩
  rw [isError] at blocked
  exact isOther.ne_block mismatch (Option.some.inj blocked)

/-- A result without an error is not a blocked one. -/
theorem answersSuccess
    {result : ReliableSpendExecutionResult}
    (noError : result.error = none) :
    AnswersOtherwise (pure result) := by
  rintro ⟨mismatch, blocked⟩
  rw [noError] at blocked
  cases blocked

section Answers

variable {platform : Platform} {spend : ClaimedSpend}
  {operation : OperationView}
  {request replay : SpendOperationRequest}
  {movementOutcome : MovementOutcome}

theorem recordAndProjectSpend_answers {txHash : TransactionHash} :
    AnswersOtherwise
      (recordAndProjectSpend operation replay txHash
        movementOutcome) := by
  refine .bind _ fun _ => .bind _ ?_
  rintro (failure | _)
  · exact .bind _ fun _ =>
      answersText rfl (.append (by decide) _)
  · refine .bind _ fun _ => .bind _ ?_
    rintro (failure | projected)
    · exact answersText rfl (.append (by decide) _)
    · exact answersSuccess rfl

theorem verifyAndProjectSpend_answers
    {txHash : TransactionHash}
    {verifyEvidence : Option (Call SpendEvidenceResult)} :
    AnswersOtherwise
      (verifyAndProjectSpend operation replay txHash movementOutcome
        verifyEvidence) := by
  unfold verifyAndProjectSpend
  split
  · exact answersText rfl (by decide)
  · refine .bind _ ?_
    rintro (failure | failure | evidence)
    · exact .bind _ fun _ =>
        answersText rfl (.append (by decide) _)
    · dsimp only
      split
      · exact .bind _ fun _ =>
          answersText rfl (.append (by decide) _)
      · refine .bind _ ?_
        rintro (storeFailure | failedOperation)
        · exact answersText rfl (.append (by decide) _)
        · refine .ofIte ?_ ?_
          · exact answersText rfl
              (.append (.append (.append (by decide) _) _) _)
          · exact answersText rfl
              (.append (.append (.append (by decide) _) _) _)
    · refine .bind _ ?_
      rintro (failure | confirmedOperation)
      · exact answersText rfl (.append (by decide) _)
      · exact recordAndProjectSpend_answers

theorem projectSpendOperation_answers
    {verifyEvidence : Option (Call SpendEvidenceResult)} :
    AnswersOtherwise
      (projectSpendOperation operation request verifyEvidence) := by
  refine .bind _ fun _ => ?_
  dsimp only
  split
  · unfold failedSpendResult
    split
    · exact answersText rfl (by decide)
    · exact answersText rfl (by decide)
  · exact answersSuccess rfl
  · split
    · exact answersText rfl (by decide)
    · split
      · exact verifyAndProjectSpend_answers
      · exact recordAndProjectSpend_answers

theorem spendOutcomeUnknown_answers
    {diagnostic : Option TransactionDiagnostic} :
    AnswersOtherwise (spendOutcomeUnknown spend diagnostic) :=
  .bind _ fun _ => answersText rfl (.append (by decide) _)

theorem spendSubmissionFailed_answers {failure : Failure} :
    AnswersOtherwise
      (spendSubmissionFailed platform spend failure) := by
  unfold spendSubmissionFailed
  split
  · exact spendOutcomeUnknown_answers
  · split
    · exact .bind _ fun _ =>
        answersText rfl (.append (by decide) _)
    · split
      · refine .bind _ ?_
        rintro (failure | evidence)
        · exact spendOutcomeUnknown_answers
        · exact projectSpendOperation_answers
      · exact spendOutcomeUnknown_answers

theorem executeClaimedSpend_answers :
    AnswersOtherwise (executeClaimedSpend platform spend) := by
  refine .bind _ ?_
  rintro (failure | _)
  · exact .bind _ fun _ =>
      answersText rfl (.append (by decide) _)
  · refine .bind _ ?_
    rintro (failure | tx)
    · exact spendSubmissionFailed_answers
    · refine .bind _ ?_
      rintro (failure | submitted)
      · exact .bind _ fun _ => answersText rfl (by decide)
      · exact projectSpendOperation_answers

theorem spendContextUnavailable_answers
    {operationKey : String}
    {uid : JsString}
    {failure : Failure} :
    AnswersOtherwise
      (spendContextUnavailable platform request operationKey uid
        failure) := by
  refine .bind _ ?_
  rintro (storeFailure | _ | existing)
  · exact answersText rfl (.append (by decide) _)
  · exact answersText rfl (.append (by decide) _)
  · dsimp only
    split
    · exact answersText rfl (.append (by decide) _)
    · split
      · exact answersText rfl (by decide)
      · exact answersText rfl (.append (by decide) _)

theorem settlementContextRejected_answers
    {operationKey : String}
    {failure : Failure} :
    AnswersOtherwise
      (settlementContextRejected request operationKey failure) := by
  refine .bind _ ?_
  rintro (storeFailure | _ | existing)
  · exact .bind _ fun _ =>
      answersText rfl (.append (by decide) _)
  · exact .bind _ fun _ =>
      answersText rfl (.append (by decide) _)
  · exact answersText rfl (.append (by decide) _)

end Answers

/-! ## What a blocked spend leaves -/

/-- Looking up the row that a statement was applied to. -/
theorem Database.operation_mapOperation
    {database : Database}
    {operationKey : String}
    {stored : TokenOperation}
    (isStored : database.operation operationKey = some stored)
    (write : OperationWrite) :
    (database.mapOperation operationKey write).operation operationKey =
      some (stored.after write) := by
  have keepsKey :
      ∀ row : TokenOperation,
        (if row.operationKey = operationKey then row.after write
          else row).operationKey = row.operationKey := by
    intro row
    split
    · exact (TokenOperation.evolves_after row write).operationKey
    · rfl
  have isKey : stored.operationKey = operationKey := by
    simpa using List.find?_some isStored
  unfold Database.operation at isStored ⊢
  simp only [Database.mapOperation, List.find?_map]
  have sameSearch :
      ((fun row : TokenOperation => row.operationKey == operationKey) ∘
          fun row =>
            if row.operationKey = operationKey then row.after write
            else row) =
        fun row => row.operationKey == operationKey := by
    funext row
    simp only [Function.comp_apply, keepsKey]
  rw [sameSearch, isStored, Option.map_some, if_pos isKey]

section Leaves

variable {platform : Platform} {signer : TreasurySigner}
  {request : SpendOperationRequest} {spend : ClaimedSpend}
  {result : ReliableSpendExecutionResult}
  {stored : TokenOperation} {operationKey : String}
  {thread : Nat} {allowed : Choice → Prop}
  {before after : Database}

/-- How the tables stand when a call has left one stored operation. -/
inductive Database.HoldsAfterBlock
    (stored : TokenOperation)
    (operationKey : String)
    (after : Database) :
    Prop where
  | takenOver
      (isReclaimable : stored.isReclaimable = true)
      (held :
        after.operation operationKey = some (stored.set .reclaim))
  | kept
      (notReclaimable : stored.isReclaimable = false)
      (held : after.operation operationKey = some stored)

theorem ClaimedSpend.sampler_keepsRows :
    ∀ sample ∈ spend.sampler platform, Issues Op.keepsRows sample := by
  intro sample isSampler
  unfold ClaimedSpend.sampler at isSampler
  split at isSampler
  · cases isSampler
  · cases isSampler
    exact .bind (.ofChain trivial) fun _ => .ofPure

/-- Once claimed, a spend that is blocked has written what the claim has. -/
theorem claimAndExecuteSpend_of_blocked
    (isStored : before.operation spend.operationKey = some stored)
    (ends :
      (claimAndExecuteSpend platform spend).Ends
        (answering thread allowed) before (.ok result) after)
    (blocked : result.IsBlocked) :
    after.HoldsAfterBlock stored spend.operationKey := by
  unfold claimAndExecuteSpend at ends
  obtain ⟨claimed, _, attempted, rest⟩ := Program.ends_bind_ok.mp ends
  obtain ⟨_, ⟨⟩, claimEnds⟩ := Program.ends_attempt.mp attempted
  match claimed, claimEnds, rest with
  | .error failure, _, rest =>
      have answered :
          AnswersOtherwise
            (pure
              (claimAndExecuteSpend.unclaimed spend failure.message)) :=
        answersText rfl (.append (by decide) _)
      exact (answered.of_ends rest blocked).elim
  | .ok (.legacyRecord _), _, rest =>
      have answered :
          AnswersOtherwise
            (pure
              (claimAndExecuteSpend.unclaimed spend
                "Cannot read properties of undefined (reading 'intent_context')")) :=
        answersText rfl (.append (by decide) _)
      exact (answered.of_ends rest blocked).elim
  | .ok (.operation row acquired), claimEnds, rest =>
      obtain ⟨_, finds⟩ :=
        TokenOperations.claim_of_ends
          ClaimedSpend.sampler_keepsRows
          (canonicalTokenAmount_ofCents _) isStored claimEnds
      replace rest :
          (continueClaimedSpend platform spend row acquired).Ends
            (answering thread allowed) _ (.ok result) after :=
        rest
      unfold continueClaimedSpend at rest
      split at rest
      · obtain ⟨_, rfl⟩ := Program.ends_done.mp rest
        cases finds with
        | takenOver isReclaimable written =>
            refine .takenOver isReclaimable ?_
            rw [Database.operation_of_rows written]
            exact Database.operation_mapOperation isStored .reclaim
        | kept notReclaimable unchanged =>
            refine .kept notReclaimable ?_
            exact
              (Database.operation_of_rows unchanged _).trans isStored
      · have answered :
            AnswersOtherwise
              (if acquired then executeClaimedSpend platform spend
                else
                  projectSpendOperation row.view spend.request
                    (replayEvidence platform spend row)) :=
          .ofIte executeClaimedSpend_answers
            projectSpendOperation_answers
        exact (answered.of_ends rest blocked).elim

theorem spendAssetContext_keepsRows :
    Issues Op.keepsRows (spendAssetContext signer) := by
  refine .bind ?_ fun _ => .bind ?_ fun _ => .ofPure
  · refine .bind (.ofService trivial) fun environment => ?_
    split
    · exact .ofPure
    · exact .ofThrow
  · refine .ofIte .ofThrow (.bind (.ofService trivial) fun _ =>
      .bind (.attempt (.ofChain trivial)) ?_)
    rintro (failure | network)
    · exact .ofThrow
    · refine .ofIte .ofThrow (.bind (.attempt (.ofChain trivial)) ?_)
      rintro (failure | address)
      · exact .ofThrow
      · exact .ofPure

theorem executeSpend_of_blocked
    {uid : JsString}
    {amount : TokenAmount}
    (isStored : before.operation operationKey = some stored)
    (ends :
      (executeSpend platform signer request operationKey uid
        amount).Ends (answering thread allowed) before (.ok result)
        after)
    (blocked : result.IsBlocked) :
    after.HoldsAfterBlock stored operationKey := by
  unfold executeSpend at ends
  obtain ⟨context, known, attempted, rest⟩ :=
    Program.ends_bind_ok.mp ends
  obtain ⟨_, ⟨⟩, contextEnds⟩ := Program.ends_attempt.mp attempted
  have knownRows := rows_of_ends spendAssetContext_keepsRows contextEnds
  have stillStored : known.operation operationKey = some stored :=
    (Database.operation_of_rows knownRows _).trans isStored
  match context, rest with
  | .error failure, rest =>
      have answered :=
        spendContextUnavailable_answers.of_ends rest
      exact (answered blocked).elim
  | .ok (treasuryAddress, assetContext), rest =>
      exact claimAndExecuteSpend_of_blocked stillStored rest blocked

/-- A settlement writes its reservation, and no operation. -/
theorem persistSettlementContext_keeps
    {id : String}
    {deliveredKwh : JsNumber} :
    Issues (Op.Keeps Database.operations)
      (SpendReservations.persistSettlementContext id deliveredKwh) := by
  refine .bind .ofOrThrow fun parts => .ofWrite ?_
  intro database value next applied
  simp only [Change.apply, Database.rewriteReservation] at applied
  split at applied
  · cases applied
  · obtain ⟨_, _, isNext⟩ := Except.bind_eq_ok applied
    cases isNext
    rfl

theorem settleAndExecuteSpend_of_blocked
    {uid : JsString}
    {amount : TokenAmount}
    (isStored : before.operation operationKey = some stored)
    (ends :
      (settleAndExecuteSpend platform signer request operationKey uid
        amount).Ends (answering thread allowed) before (.ok result)
        after)
    (blocked : result.IsBlocked) :
    after.HoldsAfterBlock stored operationKey := by
  unfold settleAndExecuteSpend at ends
  split at ends
  · exact executeSpend_of_blocked isStored ends blocked
  · split at ends
    · have answered :
          AnswersOtherwise
            (settlementFailure request operationKey
              "SETTLEMENT_CONTEXT_RESERVATION_MISMATCH"
              (settlementContextDiagnostic
                "SETTLEMENT_CONTEXT_RESERVATION_MISMATCH")) :=
        .bind _ fun _ => answersText rfl (by decide)
      exact (answered.of_ends ends blocked).elim
    · obtain ⟨persisted, settled, attempted, rest⟩ :=
        Program.ends_bind_ok.mp ends
      obtain ⟨_, ⟨⟩, persists⟩ := Program.ends_attempt.mp attempted
      have sameOperations : settled.operations = before.operations :=
        observed_of_ends (fun _ => rfl) persistSettlementContext_keeps
          persists
      have stillStored : settled.operation operationKey = some stored := by
        unfold Database.operation at isStored ⊢
        rw [sameOperations, isStored]
      match persisted, rest with
      | .error failure, rest =>
          have answered :=
            settlementContextRejected_answers.of_ends rest
          exact (answered blocked).elim
      | .ok _, rest =>
          exact executeSpend_of_blocked stillStored rest blocked

/-- A blocked `processSpend` leaves its row as it was, or has taken it over. -/
theorem processSpend_of_blocked
    (isKey : spendKey platform request = .ok operationKey)
    (isStored : before.operation operationKey = some stored)
    (ends :
      (processSpend platform signer request).Ends
        (answering thread allowed) before (.ok result) after)
    (blocked : result.IsBlocked) :
    after.HoldsAfterBlock stored operationKey := by
  unfold processSpend at ends
  split at ends
  · have answered :
        AnswersOtherwise
          (pure
            (refusedSpend request
              "Invalid spend request (amount must be positive and use at most 2 decimal places)")) :=
      answersText rfl (by decide)
    exact (answered.of_ends ends blocked).elim
  · simp only [isKey] at ends
    split at ends
    · cases (Program.ends_fail.mp ends).1
    obtain ⟨_, _, noted, rest⟩ := Program.ends_bind_ok.mp ends
    have notedRows :=
      rows_of_ends (.ofNote trivial : Issues Op.keepsRows _) noted
    obtain ⟨returned, settled, settles, rest⟩ :=
      Program.ends_bind_ok.mp rest
    obtain ⟨_, _, responded, returns⟩ := Program.ends_bind_ok.mp rest
    have respondedRows :=
      rows_of_ends (.ofNote trivial : Issues Op.keepsRows _) responded
    obtain ⟨⟨⟩, rfl⟩ := Program.ends_done.mp returns
    have holds :=
      settleAndExecuteSpend_of_blocked
        ((Database.operation_of_rows notedRows _).trans isStored) settles
        blocked
    have sameRow :=
      Database.operation_of_rows respondedRows operationKey
    cases holds with
    | takenOver isReclaimable held =>
        exact .takenOver isReclaimable (sameRow.trans held)
    | kept notReclaimable held =>
        exact .kept notReclaimable (sameRow.trans held)

/--
The row of a blocked spend is exactly what it was, unless it had failed before
its broadcast: such a row is taken over before the contexts are compared.
-/
theorem blockedSpend_keepsRow
    (isKey : spendKey platform request = .ok operationKey)
    (isStored : before.operation operationKey = some stored)
    (ends :
      (processSpend platform signer request).Ends
        (answering thread allowed) before (.ok result) after)
    (blocked : result.IsBlocked) :
    after.operation operationKey = some stored ↔
      stored.isReclaimable = false := by
  constructor
  · intro unchanged
    cases processSpend_of_blocked isKey isStored ends blocked with
    | takenOver isReclaimable held =>
        have same : stored.set .reclaim = stored :=
          Option.some.inj (held.symm.trans unchanged)
        have isSubmitting : stored.status = .submitting := by
          rw [← same]
          rfl
        simp [TokenOperation.isReclaimable, isSubmitting] at isReclaimable
    | kept notReclaimable _ =>
        exact notReclaimable
  · intro notReclaimable
    cases processSpend_of_blocked isKey isStored ends blocked with
    | takenOver isReclaimable _ =>
        rw [notReclaimable] at isReclaimable
        cases isReclaimable
    | kept _ held =>
        exact held

end Leaves

/-! ## A signer that changes between two requests -/

/-- A request for one token under a reservation. -/
def reservedSpend : SpendOperationRequest where
  userAddress := "0xuser"
  amount := .ofCents 100
  sessionId := none
  uid := some (jsString "uid")
  providerId := none
  operationKey := some "key"
  idempotencyKey := none
  reservationId := some (jsString "reservation")
  settlementContext := none

/-- The row that the request had claimed under another signer. -/
def oldSignerRow
    (status : OperationStatus)
    (movementOutcome : MovementOutcome)
    (errorMessage : Option String) :
    TokenOperation :=
  let spend : ClaimedSpend :=
    { request := reservedSpend
      operationKey := "key"
      uid := jsString "uid"
      amount := ⟨100⟩
      signer := ⟨true⟩
      treasuryAddress := "0xtreasury"
      assetContext := ⟨"0xtoken", "1", some "0xtreasury", "0xold"⟩ }
  { (spend.claim .sample).row ⟨100⟩ with
    status := status
    movementOutcome := movementOutcome
    errorMessage := errorMessage }

/-- A chain whose treasury signer is a new one. -/
def newSigner : Choice where
  fault := .none
  chain := fun request =>
    match request with
    | .network => .ok 1
    | .signerAddress => .ok "0xnew"
    | _ => .error ⟨"", false, false⟩
  service := fun request =>
    match request with
    | .environment => ⟨some "0xtreasury", some "0xtoken", none⟩
    | request => Choice.databaseOnly.service request

/-- The tables with one operation. -/
def Database.storing (row : TokenOperation) : Database :=
  { Database.empty with operations := [row] }

/-- What a call that is alone returns is one of its endings. -/
theorem ends_of_alone {α : Type}
    {body : Call α}
    {database : Database}
    (isAlone : database.IsAlone 0)
    {choice : Choice}
    (noFault : choice.fault = .none) :
    body.Ends (answering 0 fun _ => True) database
      (body.solo (alone 0 choice) database).1
      (body.solo (alone 0 choice) database).2 := by
  have fits := alone_fits true 0 choice noFault
  refine Program.solo_ends (fun op before isGood => ?_) body isAlone
  obtain ⟨chosen, responded⟩ := fits.answers op before isGood
  exact ⟨⟨chosen, trivial, responded⟩, fits.stays op before isGood⟩

/-- A request that finds its row under the new signer is blocked. -/
theorem ends_of_newSigner
    {row : TokenOperation}
    (blocks :
      ((processSpend .sample ⟨true⟩ reservedSpend).solo
          (alone 0 newSigner) (.storing row)).1.map (·.error) =
        .ok
          (some
            (assetContextBlock ++
              "signer changed from 0xold to 0xnew"))) :
    ∃ result after,
      (processSpend .sample ⟨true⟩ reservedSpend).Ends
          (answering 0 fun _ => True) (.storing row) (.ok result)
          after ∧
        result.IsBlocked := by
  obtain ⟨result, returned, isError⟩ := Except.map_eq_ok blocks
  have ends :=
    @ends_of_alone _ (processSpend .sample ⟨true⟩ reservedSpend)
      (.storing row) (fun _ => Or.inl rfl) newSigner rfl
  rw [returned] at ends
  exact ⟨result, _, ends, _, isError⟩

/-- The row of an unresolved spend is left as it is. -/
theorem unresolvedSpend_isKept :
    ∃ result after,
      (processSpend .sample ⟨true⟩ reservedSpend).Ends
          (answering 0 fun _ => True)
          (.storing (oldSignerRow .unknown .unknown none))
          (.ok result) after ∧
        result.IsBlocked ∧
        after.operation "key" =
          some (oldSignerRow .unknown .unknown none) := by
  obtain ⟨result, after, ends, blocked⟩ :=
    @ends_of_newSigner (oldSignerRow .unknown .unknown none)
      (by decide +kernel)
  exact
    ⟨result, after, ends, blocked,
      (blockedSpend_keepsRow rfl rfl ends blocked).mpr rfl⟩

/-- A row whose preflight has failed does not survive a blocked request. -/
theorem failedPreflight_isTakenOver :
    ∃ result after,
      (processSpend .sample ⟨true⟩ reservedSpend).Ends
          (answering 0 fun _ => True)
          (.storing (oldSignerRow .failed .noMovement (some "PREFLIGHT:x")))
          (.ok result) after ∧
        result.IsBlocked ∧
        (oldSignerRow .failed .noMovement
            (some "PREFLIGHT:x")).isReclaimable = true ∧
        after.operation "key" =
          some (oldSignerRow .submitting .unknown none) ∧
        after.operation "key" ≠
          some
            (oldSignerRow .failed .noMovement (some "PREFLIGHT:x")) := by
  obtain ⟨result, after, ends, blocked⟩ :=
    @ends_of_newSigner
      (oldSignerRow .failed .noMovement (some "PREFLIGHT:x"))
      (by decide +kernel)
  have isReclaimable :
      (oldSignerRow .failed .noMovement
        (some "PREFLIGHT:x")).isReclaimable = true := by
    decide +kernel
  refine ⟨result, after, ends, blocked, isReclaimable, ?_⟩
  cases processSpend_of_blocked rfl rfl ends blocked with
  | takenOver _ held =>
      refine ⟨held, fun unchanged => ?_⟩
      cases held.symm.trans unchanged
  | kept notReclaimable _ =>
      rw [isReclaimable] at notReclaimable
      cases notReclaimable

end Sparkz
