import Sparkz.SpendEndpoint
import Sparkz.SpendFootprint
import Sparkz.StoreRuns

namespace Sparkz

open Interleaving

/-!
# The operation that a manual spend creates

A `POST /spend` that inserts an operation has found none, so the row is what
its body says, with empty identifiers stored as absent ones.
-/

variable {inserts : TokenOperation → Prop}

/-! ## What the endpoint inserts -/

theorem createAndStoreSpendReceipt_issues
    {platform : Platform}
    {TOKEN_CONTRACT_ADDRESS : String}
    {input : SpendReceiptRequest} :
    Issues (Op.insertsOnly inserts)
      (createAndStoreSpendReceipt platform TOKEN_CONTRACT_ADDRESS
        input) := by
  have finds :
      ∀ txHash spelled,
        Issues (Op.insertsOnly inserts) (findReceipt txHash spelled) := by
    intro txHash spelled
    have looksUp :
        ∀ hash,
          Issues (Op.insertsOnly inserts)
            (SpendReceipts.findByTxHash hash) :=
      fun hash =>
        .bind .ofOrThrow fun _ => .bind (.ofRead trivial) fun _ =>
          .ofOrThrow
    refine .bind (looksUp _) ?_
    rintro (_ | record)
    · exact .ofIte (looksUp _) .ofPure
    · exact .ofPure
  have networks : Issues (Op.insertsOnly inserts) getAuthoritativeChainId := by
    refine .bind (.attempt (.ofChain trivial)) ?_
    rintro (failure | network)
    · exact .ofThrow
    · refine .bind (.ofService trivial) fun environment => ?_
      split
      · exact .ofPure
      · split
        · exact .ofThrow
        · exact .ofIte .ofThrow .ofPure
  refine .bind ?_ fun expected => .bind (finds _ _) ?_
  · refine .bind .ofOrThrow fun amount => .bind .ofOrThrow fun hash =>
      .bind networks fun chainId => .ofIte .ofThrow ?_
    split
    · exact .ofThrow
    · split
      · exact .ofThrow
      · exact .bind (.ofChain trivial) fun _ => .ofPure
  · rintro (_ | existing)
    · refine .bind (.ofService trivial) fun issuedAt =>
        .bind (.ofService trivial) fun randomUUID =>
          .bind .ofOrThrow fun payload =>
            .bind (.bind (.ofChain trivial) fun _ =>
              .bind (.ofChain trivial) fun _ => .ofPure) fun signed =>
              .bind (.attempt (.ofWrite trivial)) ?_
      rintro (error | stored)
      · refine .bind (.ofService trivial) fun _ =>
          .bind (.attempt (finds _ _)) ?_
        rintro (raceError | _ | raced)
        · exact .ofThrow
        · exact .ofThrow
        · exact .ofOrThrow
      · exact .bind (.ofService trivial) fun _ => .ofPure
    · exact .ofOrThrow

section Endpoint

variable {platform : Platform}
  {signer : TreasurySigner}
  {TOKEN_CONTRACT_ADDRESS : String}
  {body : SpendBody}
  {admitted : AdmittedSpend}
  {existing : Option TokenOperation}
  {identity : SpendIdentity}

theorem AdmittedSpend.execute_issues
    (own :
      ∀ operationKey,
        spendKey platform admitted.request = .ok operationKey →
        ∀ row,
          SpendOperationRequest.Inserts platform
              { admitted.request with
                operationKey := some operationKey } row →
          inserts row) :
    Issues (Op.insertsOnly inserts)
      (admitted.execute platform signer TOKEN_CONTRACT_ADDRESS) := by
  refine .bind (processSpendWithAutoApproval_issues own) ?_
  rintro (result | ⟨result, failure⟩)
  · refine .ofIte (.bind (.attempt createAndStoreSpendReceipt_issues) ?_)
      (.bind (.ofService trivial) fun _ => .ofPure)
    rintro (failure | receipt)
    · refine .ofIte .ofPure ?_
      split
      · exact .ofPure
      · exact .ofThrow
    · exact .bind (.ofService trivial) fun _ => .ofPure
  · exact .bind (.ofService trivial) fun _ => .ofPure

/-- The wallet of a request: the saved one, or the managed one. -/
def SpendBody.userAddress
    (platform : Platform)
    (body : SpendBody)
    (existing : Option TokenOperation) :
    String :=
  orText (existing.map (·.walletAddress))
    (platform.getManagedWalletAddress body.normalizedUid)

theorem SpendBody.continueWith_issues
    (own :
      ∀ amountValue operationKey,
        identity.amount = some amountValue →
        spendKey platform
            (body.admitted identity amountValue
              (body.userAddress platform existing)).request =
          .ok operationKey →
        ∀ row,
          SpendOperationRequest.Inserts platform
              { (body.admitted identity amountValue
                  (body.userAddress platform existing)).request with
                operationKey := some operationKey } row →
          inserts row) :
    Issues (Op.insertsOnly inserts)
      (body.continueWith platform signer TOKEN_CONTRACT_ADDRESS existing
        identity) := by
  have refuses :
      ∀ message,
        Issues (Op.insertsOnly inserts)
          (SpendBody.refuse identity message) :=
    fun _ => .bind (.ofService trivial) fun _ => .ofPure
  unfold SpendBody.continueWith
  split
  · exact refuses _
  · rename_i amountValue isAmount
    have executes :
        Issues (Op.insertsOnly inserts)
          ((body.admitted identity amountValue
            (body.userAddress platform existing)).execute platform
              signer TOKEN_CONTRACT_ADDRESS) :=
      AdmittedSpend.execute_issues fun operationKey isKey =>
        own amountValue operationKey isAmount isKey
    split
    · exact refuses _
    · refine .ofIte .ofPure (.bind (.ofService trivial) fun config =>
        .bind .ofOrThrow fun _ => ?_)
      cases existing with
      | some row =>
          exact executes
      | none =>
          refine .bind (.ofIte .ofThrow (.bind (.ofChain trivial)
            fun units => .bind (.ofRead trivial) fun reserved =>
              .ofIte .ofPure .ofPure)) ?_
          rintro (_ | response)
          · exact executes
          · exact .ofPure

/-- What a body says about itself, before anything is saved. -/
def SpendBody.ownIdentity (body : SpendBody) : SpendIdentity where
  amount := body.amount.getPositiveAmount
  sessionId := body.sessionId.string?
  providerId := body.providerId.string?

/-- The admission of a body whose key has no operation yet. -/
def SpendBody.newSpend
    (platform : Platform)
    (body : SpendBody)
    (amountValue : JsNumber) :
    AdmittedSpend :=
  body.admitted body.ownIdentity amountValue
    (platform.getManagedWalletAddress body.normalizedUid)

/-- What an accepted body with a new idempotency key claims. -/
structure SpendBody.Claims
    (platform : Platform)
    (body : SpendBody)
    (amountValue : JsNumber)
    (spend : ClaimedSpend) :
    Prop where
  isNew : body.encodedOperationKey = none
  amount : body.amount.getPositiveAmount = some amountValue
  operationKey :
    spendKey platform (body.newSpend platform amountValue).request =
      .ok spend.operationKey
  executes :
    spend.Executes platform
      { (body.newSpend platform amountValue).request with
        operationKey := some spend.operationKey }

/-- The operation of an accepted body with a new idempotency key. -/
def SpendBody.Creates
    (platform : Platform)
    (body : SpendBody)
    (row : TokenOperation) :
    Prop :=
  ∃ amountValue spend,
    body.Claims platform amountValue spend ∧
      row = (spend.claim platform).row spend.amount

/-- A request that resolves its key keeps it. -/
theorem spendKey_again
    {request : SpendOperationRequest}
    {operationKey again : String}
    (isAgain :
      spendKey platform
          { request with operationKey := some operationKey } =
        .ok again) :
    again = operationKey := by
  unfold spendKey at isAgain
  split at isAgain
  · cases isAgain
  · split at isAgain
    · cases isAgain
    · exact (Except.ok.inj isAgain).symm

theorem SpendBody.creates_of_inserts
    {amountValue : JsNumber}
    {operationKey : String}
    {row : TokenOperation}
    (isNew : body.encodedOperationKey = none)
    (isAmount : body.amount.getPositiveAmount = some amountValue)
    (isKey :
      spendKey platform (body.newSpend platform amountValue).request =
        .ok operationKey)
    (insertsRow :
      SpendOperationRequest.Inserts platform
        { (body.newSpend platform amountValue).request with
          operationKey := some operationKey } row) :
    body.Creates platform row := by
  obtain ⟨spend, executes, rfl⟩ := insertsRow
  obtain rfl := spendKey_again executes.operationKey
  exact ⟨amountValue, spend, ⟨isNew, isAmount, isKey, executes⟩, rfl⟩

/-- The key that a request claims is the one its body asks for. -/
theorem SpendBody.requestedOperationKey_of_spendKey
    {amountValue : JsNumber}
    {userAddress operationKey : String}
    (isKey :
      spendKey platform
          (body.admitted identity amountValue userAddress).request =
        .ok operationKey) :
    body.requestedOperationKey platform = some operationKey := by
  unfold spendKey at isKey
  split at isKey
  · cases isKey
  · split at isKey
    · cases isKey
    · simp only [SpendBody.admitted, AdmittedSpend.request] at isKey
      unfold SpendBody.requestedOperationKey
      cases byOperation : body.encodedOperationKey with
      | some own =>
          rw [byOperation] at isKey
          exact congrArg some (Except.ok.inj isKey)
      | none =>
          cases byIdempotency : body.encodedIdempotencyKey with
          | some key =>
              rw [byOperation, byIdempotency] at isKey
              exact congrArg some (Except.ok.inj isKey)
          | none =>
              rw [byOperation, byIdempotency] at isKey
              cases isKey

/-- What a request may insert, given what it has read. -/
def SpendBody.protocol (platform : Platform) (body : SpendBody) :
    Protocol sparkz
  | past, .write (.insertOperation row) =>
      body.Creates platform row ∨
        ∃ existing,
          ⟨.read (.operation row.operationKey), .ok (some existing)⟩ ∈
            past
  | _, _ => True

/-- A footprint that creates operations only conforms. -/
theorem SpendBody.obeys_of_creates {α : Type}
    {call : Call α}
    (issues : Issues (Op.insertsOnly (body.Creates platform)) call)
    (past : Past) :
    call.Obeys (body.protocol platform) past fun _ _ => True := by
  refine ((issues past).embed fun reached op _ allowed => ?_).weaken
    fun _ _ _ => trivial
  cases op with
  | write change =>
      cases change with
      | insertOperation row =>
          exact Or.inl allowed
      | _ =>
          trivial
  | _ =>
      trivial

/-- The same, for operations whose key has been read with a row. -/
theorem SpendBody.obeys_of_existing {α : Type}
    {call : Call α}
    {operationKey : String}
    {row : TokenOperation}
    {past : Past}
    (issues :
      Issues (Op.insertsOnly (·.operationKey = operationKey)) call)
    (wasRead :
      ⟨.read (.operation operationKey), .ok (some row)⟩ ∈ past) :
    call.Obeys (body.protocol platform) past fun _ _ => True := by
  refine ((issues past).embed fun reached op extended allowed =>
    ?_).weaken fun _ _ _ => trivial
  cases op with
  | write change =>
      cases change with
      | insertOperation inserted =>
          have sameKey : inserted.operationKey = operationKey := allowed
          refine Or.inr ⟨row, ?_⟩
          rw [sameKey]
          exact extended.subset wasRead
      | _ =>
          trivial
  | _ =>
      trivial

/-- What the lookup of the requested key has found. -/
def SpendBody.Looked
    (platform : Platform)
    (body : SpendBody)
    (past : Past) :
    Option TokenOperation → Prop
  | none => body.encodedOperationKey = none
  | some existing =>
      ∃ operationKey,
        body.requestedOperationKey platform = some operationKey ∧
          ⟨.read (.operation operationKey), .ok (some existing)⟩ ∈ past

theorem SpendBody.findExisting_obeys :
    (body.findExisting platform).Obeys (body.protocol platform) []
      fun result past =>
        ∀ found,
          result = .ok (.ok found) →
          body.Looked platform past found := by
  have isNew :
      body.encodedOperationKey.isSome = false →
      body.encodedOperationKey = none := by
    simp
  unfold SpendBody.findExisting
  cases requested : body.requestedOperationKey platform with
  | none =>
      intro found isFound
      cases isFound
      unfold SpendBody.requestedOperationKey at requested
      split at requested
      · cases requested
      · cases requested
      · rename_i notOperation _
        exact notOperation
  | some operationKey =>
      dsimp only [TokenOperations.findByKey]
      rw [Program.obeys_bind, Program.obeys_attempt, obeys_read]
      refine ⟨trivial, ?_, ?_⟩
      · rintro (_ | existing)
        · by_cases hasKey : body.encodedOperationKey.isSome = true
          · simp only [hasKey, if_true]
            intro found isFound
            cases isFound
          · simp only [hasKey]
            intro found isFound
            cases isFound
            exact isNew (Bool.not_eq_true _ ▸ hasKey)
        · intro found isFound
          cases isFound
          exact ⟨operationKey, requested, List.mem_cons_self⟩
      · intro error found isFound
        cases isFound

/-- A request with a new key creates its own operation only. -/
theorem SpendBody.continueWith_creates
    (isNew : body.encodedOperationKey = none)
    (past : Past) :
    (body.continueWith platform signer TOKEN_CONTRACT_ADDRESS none
      body.ownIdentity).Obeys (body.protocol platform) past
      fun _ _ => True := by
  refine SpendBody.obeys_of_creates (SpendBody.continueWith_issues ?_) past
  intro amountValue operationKey isAmount isKey row insertsRow
  exact SpendBody.creates_of_inserts isNew isAmount isKey insertsRow

/-- A request that has found its operation claims the same key. -/
theorem SpendBody.continueWith_replays
    {row : TokenOperation}
    {operationKey : String}
    {past : Past}
    (requested :
      body.requestedOperationKey platform = some operationKey)
    (wasRead :
      ⟨.read (.operation operationKey), .ok (some row)⟩ ∈ past) :
    (body.continueWith platform signer TOKEN_CONTRACT_ADDRESS (some row)
      identity).Obeys (body.protocol platform) past
      fun _ _ => True := by
  refine
    SpendBody.obeys_of_existing (SpendBody.continueWith_issues ?_)
      wasRead
  rintro amountValue key isAmount isKey inserted ⟨spend, executes, rfl⟩
  have sameKey := SpendBody.requestedOperationKey_of_spendKey isKey
  rw [requested] at sameKey
  show spend.operationKey = operationKey
  rw [spendKey_again executes.operationKey]
  exact (Option.some.inj sameKey).symm

theorem SpendBody.lookUpAndContinue_obeys :
    (body.lookUpAndContinue platform signer TOKEN_CONTRACT_ADDRESS).Obeys
      (body.protocol platform) [] fun _ _ => True := by
  unfold SpendBody.lookUpAndContinue
  rw [Program.obeys_bind]
  refine SpendBody.findExisting_obeys.weaken ?_
  rintro (failure | response | existing) past looked
  · trivial
  · trivial
  · have lookedUp := looked existing rfl
    cases existing with
    | none =>
        exact SpendBody.continueWith_creates lookedUp past
    | some row =>
        obtain ⟨operationKey, requested, wasRead⟩ := lookedUp
        dsimp only
        split
        · trivial
        · exact SpendBody.continueWith_replays requested wasRead

theorem SpendBody.handle_obeys :
    (body.handle platform signer TOKEN_CONTRACT_ADDRESS).Obeys
      (body.protocol platform) [] fun _ _ => True := by
  unfold SpendBody.handle
  split
  · trivial
  · generalize body.normalizedUid = uid
    split
    · refine SpendBody.obeys_of_creates ?_ []
      exact .bind (.ofService trivial) fun _ => .ofPure
    · exact SpendBody.lookUpAndContinue_obeys

/-- `POST /spend` inserts the operation of a new key, or finds one. -/
theorem SpendBody.post_obeys :
    (body.post platform signer TOKEN_CONTRACT_ADDRESS).Obeys
      (body.protocol platform) [] fun _ _ => True := by
  unfold SpendBody.post
  rw [Program.obeys_bind, Program.obeys_attempt]
  refine SpendBody.handle_obeys.weaken ?_
  rintro (failure | response) reached _
  · exact ⟨trivial, fun _ => trivial⟩
  · trivial

end Endpoint

end Sparkz
