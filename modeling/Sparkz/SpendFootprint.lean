import Sparkz.ApprovalConformance
import Sparkz.SpendAutoApproval

namespace Sparkz

open Interleaving

/-!
# The operations that a spend inserts

`processSpend` inserts an operation in one place only, where it claims one.
The footprints below follow the whole function to say so.
-/

/-- Insert only such operations. -/
def Op.insertsOnly (inserts : TokenOperation → Prop) : Op → Prop
  | .write (.insertOperation row) => inserts row
  | _ => True

/-- What inserts some operations inserts any wider kind of them. -/
theorem Op.insertsOnly_of_implies
    {narrow wide : TokenOperation → Prop}
    (implies : ∀ row, narrow row → wide row)
    (op : Op)
    (isNarrow : op.insertsOnly narrow) :
    op.insertsOnly wide := by
  unfold Op.insertsOnly at isNarrow ⊢
  split at isNarrow
  · exact implies _ isNarrow
  · trivial

/-- A valid request has a positive canonical amount and a wallet. -/
theorem prepareSpend_eq_some
    {request : SpendOperationRequest}
    {amount : TokenAmount} :
    prepareSpend request = some amount ↔
      canonicalTokenAmount request.amount = some amount ∧
        0 < amount.units ∧
        request.userAddress ≠ "" := by
  unfold prepareSpend
  cases canonicalTokenAmount request.amount with
  | none =>
      simp
  | some canonical =>
      dsimp only
      by_cases valid :
          canonical.units > 0 ∧ request.userAddress ≠ ""
      · rw [if_pos valid]
        constructor
        · rintro ⟨⟩
          exact ⟨rfl, valid⟩
        · exact And.left
      · rw [if_neg valid]
        constructor
        · rintro ⟨⟩
        · rintro ⟨⟨⟩, isValid⟩
          exact absurd isValid valid

/-- A spend that `processSpend` claims for a request. -/
structure ClaimedSpend.Executes
    (platform : Platform)
    (request : SpendOperationRequest)
    (spend : ClaimedSpend) :
    Prop where
  amount : prepareSpend request = some spend.amount
  operationKey : spendKey platform request = .ok spend.operationKey
  uid : spend.uid = request.uid.getD []
  isRequest :
    spend.request =
      { request with operationKey := some spend.operationKey }

/-- The row of a spend that `processSpend` claims for a request. -/
def SpendOperationRequest.Inserts
    (platform : Platform)
    (request : SpendOperationRequest)
    (row : TokenOperation) :
    Prop :=
  ∃ spend : ClaimedSpend,
    spend.Executes platform request ∧
      row = (spend.claim platform).row spend.amount

variable {inserts : TokenOperation → Prop}

/-! ## Store functions -/

section Store

open TokenOperations

theorem updateOrFind_issues
    {operationKey : String}
    {operationWrite : OperationWrite} :
    Issues (Op.insertsOnly inserts)
      (updateOrFind operationKey operationWrite) := by
  refine .bind (.ofWrite trivial) ?_
  rintro (_ | record)
  · exact .ofRead trivial
  · exact .ofPure

theorem markSubmitted_issues {operationKey txHash : String} :
    Issues (Op.insertsOnly inserts)
      (markSubmitted operationKey txHash) := by
  refine .bind .ofOrThrow fun hash => .bind (.ofWrite trivial) ?_
  rintro (_ | record)
  · refine .bind (.ofRead trivial) ?_
    rintro (_ | current)
    · exact .ofThrow
    · dsimp only
      split
      · exact .ofPure
      · split
        · exact .ofThrow
        · refine .bind (.ofWrite trivial) ?_
          rintro (_ | updated) <;> exact .ofPure
  · exact .ofPure

theorem settle_issues
    {operationKey : String}
    {operationWrite : OperationWrite} :
    Issues (Op.insertsOnly inserts)
      (settle operationKey operationWrite) := by
  refine .ofTransaction (.bind (.ofRead trivial) ?_) trivial
  rintro (_ | candidate)
  · exact .ofPure
  · have locked :
        Issues (Op.insertsOnly inserts)
          (do
            lock (.operation operationKey)
            write (.settleOperation operationKey operationWrite)) :=
      .bind (.ofLock trivial) fun _ => .ofWrite trivial
    dsimp only
    split
    · exact .bind (.ofLock trivial) fun _ => locked
    · exact locked

theorem checkManualCapacity_issues
    {data : ClaimRequest}
    {amount : TokenAmount}
    {sampler : Option (Call JsNumber)}
    (samples :
      ∀ sample ∈ sampler, Issues (Op.insertsOnly inserts) sample) :
    Issues (Op.insertsOnly inserts)
      (checkManualCapacity data amount sampler) := by
  unfold checkManualCapacity
  split
  · refine .bind (samples _ rfl) fun sampled =>
      .bind (.ofNote trivial) fun _ => ?_
    split
    · exact .ofThrow
    · refine .bind (.ofRead trivial) fun holds =>
        .bind (.ofRead trivial) fun unresolvedManual => ?_
      split
      · exact .ofThrow
      · exact .ofPure
  · exact .ofPure

theorem claimExisting_issues
    {data : ClaimRequest}
    {amount : TokenAmount}
    {sampler : Option (Call JsNumber)}
    {existing : TokenOperation}
    (samples :
      ∀ sample ∈ sampler, Issues (Op.insertsOnly inserts) sample) :
    Issues (Op.insertsOnly inserts)
      (claimExisting data amount sampler existing) := by
  refine .bind .ofOrThrow fun _ => ?_
  split
  · refine .bind (checkManualCapacity_issues samples) fun _ =>
      .bind (.ofWrite trivial) ?_
    rintro (_ | reclaimed)
    · exact .ofThrow
    · exact .ofPure
  · exact .ofPure

theorem claimChargingSession_issues {data : ClaimRequest} :
    Issues (Op.insertsOnly inserts) (claimChargingSession data) := by
  unfold claimChargingSession
  split
  · refine .bind (.ofLock trivial) fun _ => .bind (.ofRead trivial) ?_
    rintro (_ | other)
    · exact .ofPure
    · exact .ofThrow
  · exact .ofPure

theorem findLegacyAward_issues {data : ClaimRequest} {legacyKey : String} :
    Issues (Op.insertsOnly inserts) (findLegacyAward data legacyKey) := by
  refine .bind (.ofRead trivial) ?_
  rintro (_ | legacy)
  · exact .ofPure
  · dsimp only
    split
    · exact .ofThrow
    · refine .bind (.ofRead trivial) ?_
      rintro (_ | legacyUser)
      · exact .ofThrow
      · dsimp only
        split
        · exact .ofThrow
        · exact .ofPure

theorem claimLegacy_issues {data : ClaimRequest} :
    Issues (Op.insertsOnly inserts) (claimLegacy data) := by
  unfold claimLegacy
  split
  · refine .bind (.bind (.ofLock trivial) fun _ =>
      .bind (.ofRead trivial) ?_) fun _ => findLegacyAward_issues
    rintro (_ | other)
    · exact .ofPure
    · exact .ofThrow
  · exact .ofPure

/-- A claim inserts its own row. -/
theorem claim_issues
    {data : ClaimRequest}
    {sampler : Option (Call JsNumber)}
    (samples :
      ∀ sample ∈ sampler, Issues (Op.insertsOnly inserts) sample)
    (own :
      ∀ amount,
        canonicalTokenAmount data.amount = some amount →
        inserts (data.row amount)) :
    Issues (Op.insertsOnly inserts) (claim data sampler) := by
  unfold claim
  split
  · exact .ofThrow
  · rename_i amount canonical
    have locked :
        Issues (Op.insertsOnly inserts)
          (claimLocked data amount sampler) := by
      refine .bind (.ofLock trivial) fun _ => .bind (.ofRead trivial) ?_
      rintro (_ | existing)
      · refine .bind claimChargingSession_issues fun _ =>
          .bind claimLegacy_issues ?_
        rintro (_ | legacy)
        · exact
            .bind (checkManualCapacity_issues samples) fun _ =>
              .bind (.ofWrite (own amount canonical)) fun _ => .ofPure
        · exact .ofPure
      · exact claimExisting_issues samples
    refine .ofTransaction ?_ trivial
    dsimp only
    split
    · exact .bind (.ofLock trivial) fun _ => locked
    · exact locked

end Store

/-! ## The ledger -/

theorem balanceWrite_issues {userId walletAddress : String} :
    Issues (Op.insertsOnly inserts)
      (balanceWrite userId walletAddress) := by
  refine .bind (.ofRead trivial) ?_
  rintro (_ | balance) <;> exact .ofPure

theorem spendUser_issues {data : RecordSpendRequest} :
    Issues (Op.insertsOnly inserts) (spendUser data) := by
  have created :
      ∀ hasExistingUid : Option User,
        Issues (Op.insertsOnly inserts)
          (do
            let id ← service .newId
            return ProjectionUser.created
              { id := id
                uid :=
                  orText (data.uid.map JsString.encoded)
                    ("wallet-" ++ data.userWallet)
                walletAddress := data.userWallet
                walletName := none
                isActive := hasExistingUid.isNone }) :=
    fun _ => .bind (.ofService trivial) fun _ => .ofPure
  unfold spendUser
  cases JsString.orNull data.uid with
  | none =>
      refine .bind (.ofRead trivial) ?_
      rintro (_ | user)
      · exact created none
      · exact .ofPure
  | some uid =>
      refine .bind (.ofRead trivial) ?_
      rintro (_ | user)
      · exact .bind (.ofRead trivial) created
      · exact .ofPure

theorem checkRecordedSpend_issues
    {data : RecordSpendRequest}
    {amount : TokenAmount}
    {existing : Spend} :
    Issues (Op.insertsOnly inserts)
      (checkRecordedSpend data amount existing) := by
  unfold checkRecordedSpend
  split
  · exact .ofThrow
  · refine .bind (.ofRead trivial) fun user => ?_
    split
    · split
      · exact .ofThrow
      · exact .ofPure
    · exact .ofPure

theorem recordSpend_issues {data : RecordSpendRequest} :
    Issues (Op.insertsOnly inserts) (recordSpend data) := by
  refine .bind .ofOrThrow fun hash => ?_
  split
  · exact .ofThrow
  · rename_i amount _
    refine .ofTransaction ?_ trivial
    have locked :
        Issues (Op.insertsOnly inserts)
          (projectLockedSpend data amount hash) := by
      refine .bind (.ofLock trivial) fun _ =>
        .bind (.ofLock trivial) fun _ =>
          .bind (.ofRead trivial) fun found =>
            .bind .ofOrThrow ?_
      rintro (_ | existing)
      · exact
          .bind spendUser_issues fun user =>
            .bind balanceWrite_issues fun balance =>
              .bind (.ofWrite trivial) fun _ => .ofPure
      · exact checkRecordedSpend_issues
    unfold projectSpend
    split
    · exact .bind (.ofLock trivial) fun _ => locked
    · exact locked

/-! ## The treasury -/

theorem getTokenAssetContext_issues
    {signer : TreasurySigner}
    {treasuryAddress : Option String} :
    Issues (Op.insertsOnly inserts)
      (getTokenAssetContext signer treasuryAddress) := by
  unfold getTokenAssetContext
  split
  · exact .ofThrow
  · refine .bind (.ofService trivial) fun environment =>
      .bind (.attempt (.ofChain trivial)) ?_
    rintro (failure | network)
    · exact .ofThrow
    · dsimp only
      split
      · exact .ofThrow
      · refine .bind (.attempt (.ofChain trivial)) ?_
        rintro (failure | address)
        · exact .ofThrow
        · exact .ofPure

theorem verifySpendEvidence_issues
    {platform : Platform}
    {input : SpendEvidenceRequest} :
    Issues (Op.insertsOnly inserts)
      (verifySpendEvidence platform input) := by
  refine .bind ?_ fun result => .bind (.ofNote trivial) fun _ => .ofPure
  unfold readSpendEvidence
  split
  · exact .ofPure
  · refine .bind (.attempt (.ofChain trivial)) ?_
    rintro (failure | network)
    · exact .ofPure
    · refine .bind (.attempt (.ofChain trivial)) ?_
      rintro (failure | found)
      · exact .ofPure
      · dsimp only
        split
        · exact .ofPure
        · refine .bind (.attempt (.ofChain trivial)) ?_
          rintro (failure | receipt) <;> exact .ofPure

theorem reviewLease_issues {α : Type}
    {operationKey : String}
    {diagnostic : TransactionDiagnostic} :
    Issues (Op.insertsOnly inserts)
      (reviewLease operationKey diagnostic : Call α) :=
  .bind (.attempt (.ofWrite trivial)) fun _ => .ofThrow

theorem prepareTransaction_issues
    {platform : Platform}
    {request : TreasuryTransactionRequest}
    {signerAddress : String}
    {nonce : Nat} :
    Issues (Op.insertsOnly inserts)
      (prepareTransaction platform request signerAddress nonce) := by
  refine .bind (.recover (.ofChain trivial) fun _ => .ofThrow)
    fun fees => ?_
  split
  · exact .ofThrow
  · refine .bind (.recover (.ofChain trivial) fun failure => ?_)
      fun gasLimit =>
        .bind (.recover (.ofChain trivial) fun _ => .ofThrow)
          fun rawTransaction => ?_
    · split <;> exact .ofThrow
    · dsimp only
      split
      · exact .ofThrow
      · exact .ofPure

theorem treasuryPrepare_issues
    {data : TreasuryTransactionPreparationRequest}
    (readsNonce :
      Issues (Op.insertsOnly inserts) data.getPendingNonce)
    (prepares :
      ∀ nonce, Issues (Op.insertsOnly inserts) (data.prepare nonce)) :
    Issues (Op.insertsOnly inserts)
      (TreasuryTransactions.prepare data) := by
  refine .ofTransaction (.bind (.attempt (.ofLock trivial)) ?_) trivial
  rintro (failure | _)
  · exact .ofThrow
  · refine .bind (.ofRead trivial) ?_
    rintro (_ | existing)
    · refine .bind readsNonce fun reading =>
        .bind (.ofNote trivial) fun _ => ?_
      split
      · exact .ofThrow
      · refine .bind (.ofRead trivial) ?_
        rintro (_ | unresolved)
        · refine .bind (.ofRead trivial) fun maxNonce => ?_
          dsimp only
          split
          · refine .bind (prepares _) fun prepared =>
              .bind .ofOrThrow fun hash => ?_
            split
            · exact .ofThrow
            · exact .bind (.ofWrite trivial) fun _ => .ofPure
          · exact .ofThrow
        · exact .bind (.ofService trivial) fun _ => .ofThrow
    · dsimp only
      split
      · exact .ofPure
      · exact .ofThrow

theorem prepareAndBroadcastTransaction_issues
    {platform : Platform}
    {request : TreasuryTransactionRequest} :
    Issues (Op.insertsOnly inserts)
      (prepareAndBroadcastTransaction platform request) := by
  unfold prepareAndBroadcastTransaction
  split
  · exact .ofThrow
  · refine .bind ?_ fun signerAddress => .bind (.recover ?_ fun _ =>
      .ofThrow) fun prepared => ?_
    · refine .bind (.attempt (.ofChain trivial)) ?_
      rintro (failure | address)
      · exact .ofThrow
      · dsimp only
        split
        · exact .ofThrow
        · exact .ofPure
    · exact
        treasuryPrepare_issues
          (.recover (.ofChain trivial) fun _ => .ofThrow)
          fun _ => prepareTransaction_issues
    · unfold broadcastPrepared
      split
      · refine .bind (.attempt (.ofChain trivial)) ?_
        rintro (failure | responseHash)
        · exact reviewLease_issues
        · dsimp only
          split
          · exact reviewLease_issues
          · refine .bind (.attempt (.bind .ofOrThrow fun _ =>
              .ofWrite trivial)) ?_
            rintro (failure | _)
            · exact reviewLease_issues
            · exact .ofPure
      · split
        · exact reviewLease_issues
        · exact .ofPure

/-! ## The executor -/

section Executor

variable {platform : Platform}
  {operation : OperationView}
  {request replay : SpendOperationRequest}
  {spend : ClaimedSpend}

theorem recordAndProjectSpend_issues
    {txHash : TransactionHash}
    {movementOutcome : MovementOutcome} :
    Issues (Op.insertsOnly inserts)
      (recordAndProjectSpend operation replay txHash
        movementOutcome) := by
  refine .bind (.ofNote trivial) fun _ =>
    .bind (.attempt recordSpend_issues) ?_
  rintro (failure | _)
  · exact .bind (.attempt updateOrFind_issues) fun _ => .ofPure
  · refine .bind (.ofNote trivial) fun _ =>
      .bind (.attempt settle_issues) ?_
    rintro (failure | projected) <;> exact .ofPure

theorem spendEvidencePending_issues
    {movementOutcome : MovementOutcome}
    {savedError resultError : String}
    {requiresReview : Bool}
    {diagnostic : TransactionDiagnostic} :
    Issues (Op.insertsOnly inserts)
      (spendEvidencePending operation replay movementOutcome savedError
        resultError requiresReview diagnostic) :=
  .bind (.attempt updateOrFind_issues) fun _ => .ofPure

theorem spendEvidenceRejected_issues {failure : SpendEvidenceFailure} :
    Issues (Op.insertsOnly inserts)
      (spendEvidenceRejected operation replay failure) := by
  refine .bind (.attempt settle_issues) ?_
  rintro (storeFailure | failed)
  · exact .ofPure
  · exact .ofIte .ofPure .ofPure

theorem verifyAndProjectSpend_issues
    {txHash : TransactionHash}
    {movementOutcome : MovementOutcome}
    {verifyEvidence : Option (Call SpendEvidenceResult)}
    (verifies :
      ∀ verify ∈ verifyEvidence,
        Issues (Op.insertsOnly inserts) verify) :
    Issues (Op.insertsOnly inserts)
      (verifyAndProjectSpend operation replay txHash movementOutcome
        verifyEvidence) := by
  cases verifyEvidence with
  | none =>
      exact .ofPure
  | some verify =>
      refine .bind (.attempt (verifies verify rfl)) ?_
      rintro (failure | failure | evidence)
      · exact spendEvidencePending_issues
      · dsimp only
        split
        · exact spendEvidencePending_issues
        · exact spendEvidenceRejected_issues
      · refine .bind (.attempt updateOrFind_issues) ?_
        rintro (failure | confirmed)
        · exact .ofPure
        · exact recordAndProjectSpend_issues

theorem projectSpendOperation_issues
    {verifyEvidence : Option (Call SpendEvidenceResult)}
    (verifies :
      ∀ verify ∈ verifyEvidence,
        Issues (Op.insertsOnly inserts) verify) :
    Issues (Op.insertsOnly inserts)
      (projectSpendOperation operation request verifyEvidence) := by
  refine .bind (.ofNote trivial) fun _ => ?_
  dsimp only
  split
  · exact .ofPure
  · exact .ofPure
  · split
    · exact .ofPure
    · split
      · exact verifyAndProjectSpend_issues verifies
      · exact recordAndProjectSpend_issues

theorem submitSpend_issues
    {signer : TreasurySigner}
    {userAddress treasuryAddress : String}
    {amount : JsNumber}
    {operationKey : String}
    {assetContext : TokenAssetContext} :
    Issues (Op.insertsOnly inserts)
      (submitSpend platform signer userAddress treasuryAddress amount
        operationKey assetContext) := by
  unfold submitSpend
  split
  · exact .ofThrow
  · split
    · exact .ofThrow
    · exact
        .bind .ofOrThrow fun _ => prepareAndBroadcastTransaction_issues

theorem preflightSpend_issues
    {signer : TreasurySigner}
    {userAddress treasuryAddress : String}
    {amount : TokenAmount}
    {assetContext : TokenAssetContext} :
    Issues (Op.insertsOnly inserts)
      (preflightSpend signer userAddress treasuryAddress amount
        assetContext) := by
  unfold preflightSpend
  split
  · exact .ofThrow
  · refine .bind (.recover (.ofChain trivial) fun _ => .ofThrow)
      fun allowance =>
        .bind (.recover (.ofChain trivial) fun _ => .ofThrow)
          fun balance => ?_
    split
    · exact .ofThrow
    · split
      · exact .ofThrow
      · refine .recover (.ofChain trivial) fun failure => ?_
        split <;> exact .ofThrow

theorem spendOutcomeUnknown_issues
    {diagnostic : Option TransactionDiagnostic} :
    Issues (Op.insertsOnly inserts)
      (spendOutcomeUnknown spend diagnostic) :=
  .bind (.attempt updateOrFind_issues) fun _ => .ofPure

theorem spendSubmissionFailed_issues {failure : Failure} :
    Issues (Op.insertsOnly inserts)
      (spendSubmissionFailed platform spend failure) := by
  unfold spendSubmissionFailed
  split
  · exact spendOutcomeUnknown_issues
  · split
    · exact .bind (.attempt updateOrFind_issues) fun _ => .ofPure
    · split
      · refine .bind (.attempt verifySpendEvidence_issues) ?_
        rintro (failure | evidence)
        · exact spendOutcomeUnknown_issues
        · refine projectSpendOperation_issues fun verify isVerify => ?_
          cases isVerify
          exact .ofPure
      · exact spendOutcomeUnknown_issues

theorem projectSubmittedSpend_issues
    {tx : TransactionReliabilityResult} :
    Issues (Op.insertsOnly inserts)
      (projectSubmittedSpend platform spend tx) := by
  refine .bind (.attempt markSubmitted_issues) ?_
  rintro (failure | _)
  · exact .bind (.attempt updateOrFind_issues) fun _ => .ofPure
  · refine projectSpendOperation_issues fun verify isVerify => ?_
    cases isVerify
    exact verifySpendEvidence_issues

theorem executeClaimedSpend_issues :
    Issues (Op.insertsOnly inserts)
      (executeClaimedSpend platform spend) := by
  refine .bind (.attempt preflightSpend_issues) ?_
  rintro (failure | _)
  · exact .bind (.attempt updateOrFind_issues) fun _ => .ofPure
  · refine .bind (.attempt submitSpend_issues) ?_
    rintro (failure | tx)
    · exact spendSubmissionFailed_issues
    · exact projectSubmittedSpend_issues

theorem claimAndExecuteSpend_issues
    (own : inserts ((spend.claim platform).row spend.amount)) :
    Issues (Op.insertsOnly inserts)
      (claimAndExecuteSpend platform spend) := by
  refine .bind (.attempt (claim_issues ?_ ?_)) ?_
  · intro sample isSample
    unfold ClaimedSpend.sampler at isSample
    split at isSample
    · cases isSample
    · cases isSample
      exact .bind (.ofChain trivial) fun _ => .ofPure
  · intro amount canonical
    have isAmount : some spend.amount = some amount :=
      (canonicalTokenAmount_ofCents spend.amount.units).symm.trans
        canonical
    cases isAmount
    exact own
  · rintro (failure | ⟨row, acquired⟩ | legacy)
    · exact .ofPure
    · dsimp only
      unfold continueClaimedSpend
      split
      · exact .ofPure
      · split
        · exact executeClaimedSpend_issues
        · refine projectSpendOperation_issues fun verify isVerify => ?_
          unfold replayEvidence at isVerify
          split at isVerify
          · cases isVerify
            exact verifySpendEvidence_issues
          · cases isVerify
    · exact .ofPure

theorem executeSpend_issues
    {signer : TreasurySigner}
    {operationKey : String}
    {uid : JsString}
    {amount : TokenAmount}
    (own :
      ∀ treasuryAddress assetContext,
        inserts
          ((ClaimedSpend.claim platform
            { request := request
              operationKey := operationKey
              uid := uid
              amount := amount
              signer := signer
              treasuryAddress := treasuryAddress
              assetContext := assetContext }).row amount)) :
    Issues (Op.insertsOnly inserts)
      (executeSpend platform signer request operationKey uid
        amount) := by
  refine .bind (.attempt (.bind ?_ fun _ =>
    .bind getTokenAssetContext_issues fun _ => .ofPure)) ?_
  · refine .bind (.ofService trivial) fun environment => ?_
    split
    · exact .ofPure
    · exact .ofThrow
  · rintro (failure | ⟨treasuryAddress, assetContext⟩)
    · refine .bind (.attempt (.ofRead trivial)) ?_
      rintro (_ | _ | existing)
      · exact .ofPure
      · exact .ofPure
      · dsimp only
        split
        · exact .ofPure
        · split <;> exact .ofPure
    · exact
        claimAndExecuteSpend_issues (own treasuryAddress assetContext)

theorem settlementFailure_issues
    {operationKey message : String}
    {diagnostic : TransactionDiagnostic} :
    Issues (Op.insertsOnly inserts)
      (settlementFailure request operationKey message diagnostic) :=
  .bind (.ofNote trivial) fun _ => .ofPure

/-- `processSpend` inserts the operation of its own request only. -/
theorem processSpend_issues {signer : TreasurySigner} :
    Issues (Op.insertsOnly (request.Inserts platform))
      (processSpend platform signer request) := by
  unfold processSpend
  split
  · exact .ofPure
  · rename_i amount prepared
    split
    · exact .ofPure
    · rename_i operationKey isKey
      have executes :
          Issues (Op.insertsOnly (request.Inserts platform))
            (executeSpend platform signer
              { request with operationKey := some operationKey }
              operationKey (request.uid.getD []) amount) :=
        executeSpend_issues fun treasuryAddress assetContext =>
          ⟨_, ⟨prepared, isKey, rfl, rfl⟩, rfl⟩
      split
      · exact .ofThrow
      refine .bind (.ofNote trivial) fun _ => .bind ?_ fun result =>
        .bind (.ofNote trivial) fun _ => .ofPure
      unfold settleAndExecuteSpend
      split
      · exact executes
      · split
        · exact settlementFailure_issues
        · refine .bind (.attempt (.bind .ofOrThrow fun _ =>
            .ofWrite trivial)) ?_
          rintro (failure | _)
          · refine .bind (.attempt (.ofRead trivial)) ?_
            rintro (_ | _ | existing)
            · exact settlementFailure_issues
            · exact settlementFailure_issues
            · exact .ofPure
          · exact executes

/-- An approval inserts no operation. -/
theorem approveUserForSpendingViaFunding_issues
    {signer : TreasurySigner}
    {uid : JsString}
    {treasuryAddress : String}
    {requiredAmount : Option JsNumber} :
    Issues (Op.insertsOnly inserts)
      (approveUserForSpendingViaFunding platform signer uid
        treasuryAddress requiredAmount) := by
  refine approveUserForSpendingViaFunding_follows ?_ fun _ _ =>
    prepareAndBroadcastTransaction_issues
  intro past op isFunding
  unfold Op.insertsOnly
  split
  · cases isFunding
  · trivial

/-- The same, for the approval that may come in between. -/
theorem processSpendWithAutoApproval_issues
    {signer : TreasurySigner}
    {auditEvent : String}
    (own :
      ∀ operationKey,
        spendKey platform request = .ok operationKey →
        ∀ row,
          SpendOperationRequest.Inserts platform
              { request with operationKey := some operationKey } row →
          inserts row) :
    Issues (Op.insertsOnly inserts)
      (processSpendWithAutoApproval platform signer auditEvent
        request) := by
  unfold processSpendWithAutoApproval
  split
  · exact .ofPure
  · rename_i operationKey isKey
    have processes :
        Issues (Op.insertsOnly inserts)
          (processSpend platform signer
            { request with operationKey := some operationKey }) :=
      processSpend_issues.weaken
        (Op.insertsOnly_of_implies (own operationKey isKey))
    refine .bind processes fun result => ?_
    split
    · refine .bind (.ofService trivial) fun environment => ?_
      split
      · exact .ofPure
      · refine .bind (.attempt
          (.bind approveUserForSpendingViaFunding_issues fun _ =>
            processes)) ?_
        rintro (failure | approved)
        · exact .bind (.ofService trivial) fun _ => .ofPure
        · exact .ofPure
    · exact .ofPure

end Executor

end Sparkz
