import Sparkz.ExecutorConformance
import Sparkz.SpendFootprint

namespace Sparkz

open Interleaving

/-!
# What a spend issues

`processSpend` is followed from its claim to its projection.  The operation it
continues is the row that its claim has found or inserted, and the hash it
continues with is the one that was saved for that row.
-/

/-! ## Projection -/

section Projection

variable {platform : Platform} {past : Past}
  {operation : OperationView}
  {request replay : SpendOperationRequest}

/-- A replay is about the wallet of its operation. -/
theorem replayRequest_userAddress
    (request : SpendOperationRequest)
    (hasWallet : operation.walletAddress ≠ "") :
    (replayRequest operation request).userAddress =
      operation.walletAddress := by
  have kept :
      orNull (some operation.walletAddress) =
        some operation.walletAddress :=
    orNull_eq_some.mpr ⟨rfl, hasWallet⟩
  show orText (some operation.walletAddress) request.userAddress = _
  unfold orText
  rw [kept]
  rfl

theorem recordAndProjectSpend_conforms
    {txHash : TransactionHash}
    {movementOutcome : MovementOutcome}
    (projects : Projects .spend operation txHash past)
    (sameWallet : replay.userAddress = operation.walletAddress) :
    (recordAndProjectSpend operation replay txHash
      movementOutcome).ConformsFrom (executorProtocol platform)
      past := by
  have mayConfirm :
      ∀ {reached : Past},
        past ⊆ reached →
        ∃ operationType view hash,
          view.operationKey = operation.operationKey ∧
            Projects operationType view hash reached :=
    fun grown => ⟨.spend, operation, txHash, rfl, projects.subset grown⟩
  refine Program.ConformsFrom.bind note_conforms fun _ noted isNoted _ =>
    Program.ConformsFrom.bindAttempt
      (recordSpend_conforms ?_) fun result reached grown _ => ?_
  · intro reached user amount hash balance later isHash canonical
    rw [canonicalTransactionHash_text] at isHash
    cases isHash
    exact
      ⟨operation.amount, .ofColumn canonical,
        Or.inr
          ⟨operation, projects.subset (List.Subset.trans isNoted later),
            rfl, congrArg lowerText sameWallet.symm, fun _ => rfl, rfl⟩⟩
  · have sinceStart := List.Subset.trans isNoted grown
    rcases result with failure | _
    · exact
        Program.ConformsFrom.bindAttempt
          (updateOrFind_conforms rfl fun later after =>
            mayConfirm (List.Subset.trans sinceStart after))
          fun _ _ _ _ => trivial
    · refine Program.ConformsFrom.bind note_conforms
        fun _ later after _ =>
          Program.ConformsFrom.bindAttempt
            (settle_conforms rfl fun last afterwards =>
              Or.inl
                (mayConfirm
                  (List.Subset.trans sinceStart
                    (List.Subset.trans after afterwards)))) ?_
      rintro (failure | projected) _ _ _ <;> trivial

theorem spendEvidencePending_conforms
    {movementOutcome : MovementOutcome}
    {savedError resultError : String}
    {requiresReview : Bool}
    {diagnostic : TransactionDiagnostic} :
    (spendEvidencePending operation replay movementOutcome savedError
      resultError requiresReview diagnostic).ConformsFrom
      (executorProtocol platform) past :=
  Program.ConformsFrom.bindAttempt markUnknown_conforms
    fun _ _ _ _ => trivial

theorem spendEvidenceRejected_conforms
    {failure : SpendEvidenceFailure} :
    (spendEvidenceRejected operation replay failure).ConformsFrom
      (executorProtocol platform) past := by
  refine Program.ConformsFrom.bindAttempt markFailed_conforms ?_
  rintro (storeFailure | failed) reached _ _
  · trivial
  · exact Program.Follows.ofIte .ofPure .ofPure reached

theorem verifyAndProjectSpend_conforms
    {txHash : TransactionHash}
    {movementOutcome : MovementOutcome}
    {verifyEvidence : Option (Call SpendEvidenceResult)}
    (isHash : operation.txHash = some txHash)
    (viewed : Viewed .spend operation past)
    (sameWallet : replay.userAddress = operation.walletAddress)
    (verifies :
      ∀ verify ∈ verifyEvidence,
        VerifiesFrom platform (operation.movement .spend txHash) past
          verify) :
    (verifyAndProjectSpend operation replay txHash movementOutcome
      verifyEvidence).ConformsFrom (executorProtocol platform)
      past := by
  cases verifyEvidence with
  | none =>
      trivial
  | some verify =>
      refine Program.ConformsFrom.bindAttempt
        (verifies verify rfl past (List.Subset.refl past)) ?_
      rintro (failure | failure | evidence) reached grown proven
      · exact spendEvidencePending_conforms
      · dsimp only
        split
        · exact spendEvidencePending_conforms
        · exact spendEvidenceRejected_conforms
      · have projects : Projects .spend operation txHash reached :=
          ⟨isHash, viewed.subset grown, .proven (proven evidence rfl)⟩
        refine Program.ConformsFrom.bindAttempt
          (updateOrFind_conforms rfl fun later after =>
            ⟨.spend, operation, txHash, rfl, projects.subset after⟩) ?_
        rintro (failure | confirmed) later after _
        · trivial
        · exact
            recordAndProjectSpend_conforms (projects.subset after)
              sameWallet

/-- A projection records what was seen saved, and verified or confirmed. -/
theorem projectSpendOperation_conforms
    {verifyEvidence : Option (Call SpendEvidenceResult)}
    (viewed : Viewed .spend operation past)
    (hasWallet : operation.walletAddress ≠ "")
    (trusted :
      ∀ hash,
        operation.txHash = some hash →
        operation.status = .confirmed →
        Trusted .spend operation hash past)
    (verifies :
      ∀ hash,
        operation.txHash = some hash →
        ∀ verify ∈ verifyEvidence,
          VerifiesFrom platform (operation.movement .spend hash) past
            verify) :
    (projectSpendOperation operation request
      verifyEvidence).ConformsFrom (executorProtocol platform)
      past := by
  have sameWallet :=
    replayRequest_userAddress request hasWallet
  unfold projectSpendOperation Program.ConformsFrom
  rw [Program.obeys_bind, obeys_note]
  refine ⟨trivial, ?_⟩
  have grown :
      past ⊆ ⟨.note (.projecting .spend operation), ()⟩ :: past :=
    List.subset_cons_self _ _
  dsimp only
  split
  · trivial
  · trivial
  · rename_i notFailed notProjected
    split
    · trivial
    · rename_i txHash isHash
      split
      · exact
          verifyAndProjectSpend_conforms isHash (viewed.subset grown)
            sameWallet fun verify isVerify reached later =>
              verifies txHash isHash verify isVerify reached
                (List.Subset.trans grown later)
      · rename_i notWaiting
        refine recordAndProjectSpend_conforms
          ⟨isHash, viewed.subset grown, ?_⟩ sameWallet
        cases isStatus : operation.status with
        | submitting =>
            exact .submitting List.mem_cons_self isStatus
        | confirmed =>
            exact (trusted txHash isHash isStatus).subset grown
        | failed =>
            exact absurd isStatus notFailed
        | projected =>
            exact absurd isStatus notProjected
        | submitted =>
            exact absurd (Or.inl isStatus) notWaiting
        | unknown =>
            exact absurd (Or.inr isStatus) notWaiting

end Projection

/-! ## The claimed spend -/

/-- The call has claimed the row of this spend. -/
def ClaimedSpend.Owned (spend : ClaimedSpend) (past : Past) : Prop :=
  ∃ row,
    SawRow spend.operationKey row past ∧
      row.operationType = .spend ∧
      lowerText row.walletAddress =
        lowerText spend.request.userAddress ∧
      row.amount = spend.amount

section Claimed

variable {platform : Platform} {past : Past} {spend : ClaimedSpend}

theorem ClaimedSpend.Owned.subset
    {reached : Past}
    (owned : spend.Owned past)
    (grown : past ⊆ reached) :
    spend.Owned reached :=
  owned.imp fun _ seen => ⟨seen.1.subset grown, seen.2⟩

/-- The operation in memory is the claimed row with its saved hash. -/
theorem ClaimedSpend.Owned.viewed
    {status : OperationStatus}
    {txHash : TransactionHash}
    {movementOutcome : Option MovementOutcome}
    {diagnostic : Option TransactionDiagnostic}
    (owned : spend.Owned past)
    (sawHash : SawHash spend.operationKey txHash past) :
    Viewed .spend
      { spend.operation status txHash with
        movementOutcome := movementOutcome
        diagnosticContext := diagnostic } past where
  row :=
    owned.imp fun _ seen =>
      ⟨seen.1, seen.2.1, seen.2.2.1, fun _ => seen.2.2.2⟩
  hash := by
    rintro hash ⟨⟩
    exact sawHash

/-- The evidence of a claimed spend is about its own transfer. -/
theorem ClaimedSpend.evidence_proves
    (spend : ClaimedSpend)
    (status : OperationStatus)
    {txHash : TransactionHash} :
    (spend.evidence txHash).Proves
      ((spend.operation status txHash).movement .spend txHash) :=
  ⟨rfl, rfl, fun _ => rfl⟩

/-- What the encoders throw leads to no hash. -/
theorem submitSpend_submits
    {signer : TreasurySigner}
    {userAddress treasuryAddress : String}
    {amount : JsNumber}
    {operationKey : String}
    {assetContext : TokenAssetContext}
    (plainly : platform.EncodesPlainly) :
    (submitSpend platform signer userAddress treasuryAddress amount
      operationKey assetContext).Obeys (executorProtocol platform) past
      (Submits operationKey) := by
  have refused :
      ∀ message : String,
        (throwFailure (.error message) :
          Call TransactionReliabilityResult).Obeys
          (executorProtocol platform) past (Submits operationKey) := by
    intro message
    refine submits_of_hashless ?_
    rintro diagnostic ⟨⟩
  unfold submitSpend
  split
  · exact refused _
  split
  · exact refused _
  rename_i canonicalAmount _ _
  rw [Program.obeys_bind, obeys_orThrow]
  cases isData : platform.encodeTransferFrom userAddress treasuryAddress
      canonicalAmount.baseUnits with
  | error failure =>
      exact
        submits_of_hashless
          (plainly.transferFrom _ _ _ failure isData)
  | ok data =>
      exact prepareAndBroadcastTransaction_submits rfl rfl

theorem preflightSpend_isQuiet
    {signer : TreasurySigner}
    {userAddress treasuryAddress : String}
    {amount : TokenAmount}
    {assetContext : TokenAssetContext} :
    Issues Op.isQuiet
      (preflightSpend signer userAddress treasuryAddress amount
        assetContext) := by
  unfold preflightSpend
  split
  · exact .ofThrow
  · refine .bind (.recover (.ofChain rfl) fun _ => .ofThrow)
      fun allowance =>
        .bind (.recover (.ofChain rfl) fun _ => .ofThrow)
          fun balance => ?_
    split
    · exact .ofThrow
    · split
      · exact .ofThrow
      · refine .recover (.ofChain rfl) fun failure => ?_
        split <;> exact .ofThrow

theorem spendOutcomeUnknown_conforms
    {diagnostic : Option TransactionDiagnostic} :
    (spendOutcomeUnknown spend diagnostic).ConformsFrom
      (executorProtocol platform) past :=
  Program.ConformsFrom.bindAttempt markUnknown_conforms
    fun _ _ _ _ => trivial

theorem spendSubmissionFailed_conforms
    {failure : Failure}
    (owned : spend.Owned past)
    (hasWallet : spend.request.userAddress ≠ "")
    (thrown :
      ∀ diagnostic hash,
        failure = .reliability diagnostic →
        diagnostic.savedHash = some hash →
        SawHash spend.operationKey hash past) :
    (spendSubmissionFailed platform spend failure).ConformsFrom
      (executorProtocol platform) past := by
  unfold spendSubmissionFailed
  split
  · exact spendOutcomeUnknown_conforms
  · rename_i diagnostic isDiagnostic
    have isFailure : failure = .reliability diagnostic := by
      unfold reliabilityDiagnostic at isDiagnostic
      split at isDiagnostic
      · cases isDiagnostic
        rfl
      · cases isDiagnostic
    split
    · exact
        Program.ConformsFrom.bindAttempt markPreflightFailed_conforms
          fun _ _ _ _ => trivial
    · split
      · rename_i savedHash isSaved _
        have sawHash := thrown diagnostic savedHash isFailure isSaved
        refine Program.ConformsFrom.bindAttempt
          verifySpendEvidence_notes ?_
        rintro (failure | evidence) reached grown noted
        · exact spendOutcomeUnknown_conforms
        · refine projectSpendOperation_conforms
            ((owned.subset grown).viewed (sawHash.subset grown))
            hasWallet ?_ ?_
          · rintro hash ⟨⟩ ⟨⟩
          · rintro hash ⟨⟩ verify ⟨⟩
            exact
              verifiesFrom_pure (noted evidence rfl)
                (spend.evidence_proves .unknown)
      · exact spendOutcomeUnknown_conforms

theorem projectSubmittedSpend_conforms
    {tx : TransactionReliabilityResult}
    (owned : spend.Owned past)
    (hasWallet : spend.request.userAddress ≠ "")
    (sawHash : SawHash spend.operationKey tx.txHash past) :
    (projectSubmittedSpend platform spend tx).ConformsFrom
      (executorProtocol platform) past := by
  refine Program.ConformsFrom.bindAttempt markSubmitted_conforms ?_
  rintro (failure | marked) reached grown _
  · exact
      Program.ConformsFrom.bindAttempt markUnknown_conforms
        fun _ _ _ _ => trivial
  · refine projectSpendOperation_conforms
      ((owned.subset grown).viewed (sawHash.subset grown)) hasWallet
      ?_ ?_
    · rintro hash ⟨⟩ ⟨⟩
    · rintro hash ⟨⟩ verify ⟨⟩
      exact
        verifiesFrom_verifySpendEvidence
          (spend.evidence_proves .submitted)

/-- What a spend does with the row it has acquired. -/
theorem executeClaimedSpend_conforms
    (plainly : platform.EncodesPlainly)
    (owned : spend.Owned past)
    (hasWallet : spend.request.userAddress ≠ "") :
    (executeClaimedSpend platform spend).ConformsFrom
      (executorProtocol platform) past := by
  refine Program.ConformsFrom.bindAttempt
    (follows_of_quiet preflightSpend_isQuiet past) ?_
  rintro (failure | _) checked sinceChecked _
  · exact
      Program.ConformsFrom.bindAttempt markPreflightFailed_conforms
        fun _ _ _ _ => trivial
  · refine Program.ConformsFrom.bindAttempt
      (submitSpend_submits plainly) ?_
    rintro (failure | tx) reached sinceSent submits
    · exact
        spendSubmissionFailed_conforms
          (owned.subset (List.Subset.trans sinceChecked sinceSent)) hasWallet
          fun diagnostic hash isFailure =>
            submits.thrown diagnostic hash (congrArg _ isFailure)
    · exact
        projectSubmittedSpend_conforms
          (owned.subset (List.Subset.trans sinceChecked sinceSent)) hasWallet
          (submits.returned tx rfl)

end Claimed

/-! ## The whole spend -/

/-- An empty text has no letters to lower. -/
theorem ne_empty_of_lowerText
    {text other : String}
    (same : lowerText text = lowerText other)
    (hasText : other ≠ "") :
    text ≠ "" := by
  rintro rfl
  apply hasText
  have isEmpty : (lowerText other).toList = [] := by
    rw [← same]
    rfl
  unfold lowerText at isEmpty
  rw [String.toList_ofList, List.map_eq_nil_iff] at isEmpty
  exact String.toList_eq_nil_iff.mp isEmpty

section Execution

variable {platform : Platform} {past : Past} {spend : ClaimedSpend}
  {request : SpendOperationRequest} {signer : TreasurySigner}

/-- The evidence of a replay is about the row that was read. -/
theorem replayEvidence_verifies
    {row : TokenOperation}
    {hash : TransactionHash}
    (isHash : row.txHash = some hash) :
    ∀ verify ∈ replayEvidence platform spend row,
      VerifiesFrom platform (row.view.movement .spend hash) past
        verify := by
  intro verify isVerify
  unfold replayEvidence at isVerify
  split at isVerify
  · rename_i txHash isSaved _
    rw [isHash] at isSaved
    cases isSaved
    cases isVerify
    exact verifiesFrom_verifySpendEvidence ⟨rfl, rfl, fun _ => rfl⟩
  · cases isVerify

theorem claimAndExecuteSpend_conforms
    (plainly : platform.EncodesPlainly)
    (hasWallet : spend.request.userAddress ≠ "") :
    (claimAndExecuteSpend platform spend).ConformsFrom
      (executorProtocol platform) past := by
  refine Program.ConformsFrom.bindAttempt (claim_conforms ?_) ?_
  · intro sample isSample past
    unfold ClaimedSpend.sampler at isSample
    split at isSample
    · cases isSample
    · cases isSample
      unfold readTokenBalance
      rw [Program.obeys_bind, obeys_chain]
      exact ⟨rfl, fun _ => trivial, fun _ => trivial⟩
  rintro (failure | claimed) reached _ ends
  · trivial
  have saw := ends claimed rfl
  cases saw with
  | @existing _ row _ member isType isWallet =>
      have isSpend : row.operationType = .spend := isType
      dsimp only
      unfold continueClaimedSpend
      split
      · trivial
      · refine projectSpendOperation_conforms
          (isSpend ▸ viewed_of_read member)
          (ne_empty_of_lowerText isWallet hasWallet) ?_ ?_
        · intro hash isHash isConfirmed
          exact isSpend ▸ trusted_of_read member isHash isConfirmed
        · intro hash isHash
          exact replayEvidence_verifies isHash
  | @acquired _ row acquired amount canonical saw isType isWallet
      isAmount =>
      have sameAmount : some spend.amount = some amount :=
        (canonicalTokenAmount_ofCents spend.amount.units).symm.trans
          canonical
      have owned : spend.Owned reached := by
        cases sameAmount
        refine ⟨row, saw, isType, isWallet, isAmount ?_⟩
        rintro ⟨⟩
      dsimp only
      unfold continueClaimedSpend
      split
      · trivial
      · exact executeClaimedSpend_conforms plainly owned hasWallet
  | legacy =>
      trivial

theorem spendAssetContext_isQuiet :
    Issues Op.isQuiet (spendAssetContext signer) := by
  refine .bind ?_ fun treasuryAddress =>
    .bind getTokenAssetContext_isQuiet fun _ => .ofPure
  exact getTreasuryAddress_isQuiet

theorem spendContextUnavailable_isQuiet
    {operationKey : String}
    {uid : JsString}
    {failure : Failure} :
    Issues Op.isQuiet
      (spendContextUnavailable platform request operationKey uid
        failure) := by
  refine .bind (.attempt (.ofRead trivial)) ?_
  rintro (_ | _ | existing)
  · exact .ofPure
  · exact .ofPure
  · dsimp only
    split
    · exact .ofPure
    · split <;> exact .ofPure

theorem executeSpend_conforms
    {operationKey : String}
    {uid : JsString}
    {amount : TokenAmount}
    (plainly : platform.EncodesPlainly)
    (hasWallet : request.userAddress ≠ "") :
    (executeSpend platform signer request operationKey uid
      amount).ConformsFrom (executorProtocol platform) past := by
  refine Program.ConformsFrom.bindAttempt
    (follows_of_quiet spendAssetContext_isQuiet past) ?_
  rintro (failure | ⟨treasuryAddress, assetContext⟩) reached _ _
  · exact follows_of_quiet spendContextUnavailable_isQuiet reached
  · exact claimAndExecuteSpend_conforms plainly hasWallet

theorem settlementContextRejected_isQuiet
    {operationKey : String}
    {failure : Failure} :
    Issues Op.isQuiet
      (settlementContextRejected request operationKey failure) := by
  have refused :
      ∀ {message : String} {diagnostic : TransactionDiagnostic},
        Issues Op.isQuiet
          (settlementFailure request operationKey message diagnostic) :=
    .bind (.ofNote trivial) fun _ => .ofPure
  refine .bind (.attempt (.ofRead trivial)) ?_
  rintro (_ | _ | existing)
  · exact refused
  · exact refused
  · exact .ofPure

theorem settleAndExecuteSpend_follows
    {operationKey : String}
    {uid : JsString}
    {amount : TokenAmount}
    (plainly : platform.EncodesPlainly)
    (hasWallet : request.userAddress ≠ "") :
    (settleAndExecuteSpend platform signer request operationKey uid
      amount).Follows (executorProtocol platform) := by
  intro past
  unfold settleAndExecuteSpend
  split
  · exact executeSpend_conforms plainly hasWallet
  · split
    · exact
        Program.ConformsFrom.bind note_conforms fun _ _ _ _ => trivial
    · refine Program.ConformsFrom.bindAttempt
        persistSettlementContext_conforms ?_
      rintro (failure | _) reached _ _
      · exact follows_of_quiet settlementContextRejected_isQuiet reached
      · exact executeSpend_conforms plainly hasWallet

/-- `processSpend` conforms, whatever was done before. -/
theorem processSpend_follows (plainly : platform.EncodesPlainly) :
    (processSpend platform signer request).Follows
      (executorProtocol platform) := by
  unfold processSpend
  split
  · exact .ofPure
  · rename_i amount prepared
    split
    · exact .ofPure
    · split
      · exact follows_of_quiet .ofThrow
      · exact
          .bind (fun _ => note_conforms) fun _ =>
            .bind
              (settleAndExecuteSpend_follows plainly
                (prepareSpend_eq_some.mp prepared).2.2)
              fun _ => .bind (fun _ => note_conforms) fun _ => .ofPure

/-- So does the approval that may come in between. -/
theorem processSpendWithAutoApproval_follows
    {auditEvent : String}
    (plainly : platform.EncodesPlainly) :
    (processSpendWithAutoApproval platform signer auditEvent
      request).Follows (executorProtocol platform) := by
  unfold processSpendWithAutoApproval
  split
  · exact .ofPure
  · refine .bind (processSpend_follows plainly) fun result => ?_
    split
    · refine .bind (fun _ => service_conforms) fun environment => ?_
      split
      · exact .ofPure
      · refine .bind (.attempt
          (.bind approveUserForSpendingViaFunding_conforms fun _ =>
            processSpend_follows plainly)) ?_
        rintro (failure | approved)
        · exact .bind (fun _ => service_conforms) fun _ => .ofPure
        · exact .ofPure
    · exact .ofPure

end Execution

end Sparkz
