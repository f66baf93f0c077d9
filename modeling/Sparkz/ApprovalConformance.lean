import Sparkz.ApprovalFunding
import Sparkz.ExecutorConformance
import Sparkz.FundingCalls

namespace Sparkz

open Interleaving

/-!
# Following the approval of a wallet

Besides its funding transfer, the function changes only preparations and sends
nothing for the treasury.  It follows every protocol that permits this and that
the coordinator follows.
-/

section Parts

variable {approval : WalletApproval} {preparation : ApprovalPreparation}

theorem durableStateWriteFailed_issues {α : Type}
    {statement : Call α}
    (issues : Issues Op.isFunding statement) :
    Issues Op.isFunding (durableStateWriteFailed statement) := by
  refine .bind (.attempt issues) ?_
  rintro (failure | value) <;> exact .ofPure

/-! ## Reads -/

theorem missingGas_issues : Issues Op.isFunding (missingGas approval) := by
  refine .bind (.ofChain rfl) fun nativeBalance =>
    .bind (.bind (.ofChain rfl) fun gasLimit =>
      .bind (.ofChain rfl) fun feeData => ?_) fun gasTarget => ?_
  · exact .ofIte .ofThrow .ofPure
  · exact .ofIte .ofPure .ofPure

theorem readFundingProof_issues {fundingHash : TransactionHash} :
    Issues Op.isFunding (readFundingProof approval fundingHash) :=
  .bind (.ofChain rfl) fun _ =>
    .bind (.ofChain rfl) fun _ =>
      .bind (.ofChain rfl) fun _ =>
        .bind (.ofChain rfl) fun _ =>
          .ofIte .ofPure (.ofIte .ofPure .ofPure)

theorem proveUnknownFundingOnlyPreparation_issues :
    Issues Op.isFunding
      (proveUnknownFundingOnlyPreparation approval preparation) := by
  unfold proveUnknownFundingOnlyPreparation
  split
  · refine .bind (.attempt readFundingProof_issues) ?_
    rintro (failure | verdict) <;> exact .ofPure
  · exact .ofPure

theorem reconcileOriginalNativeTransfer_issues
    {tx : TransactionReliabilityResult} :
    Issues Op.isFunding (reconcileOriginalNativeTransfer tx) := by
  refine .bind (.attempt (.bind (.ofChain rfl) fun transaction =>
    .bind (.ofChain rfl) fun receipt => .ofPure)) ?_
  rintro (failure | ⟨_ | transaction, _ | receipt⟩)
  · exact .ofThrow
  · exact .ofThrow
  · exact .ofThrow
  · exact .ofThrow
  · exact .ofIte .ofThrow (.ofIte .ofThrow .ofPure)

/-! ## The preparation -/

theorem recoverUnknownPreparation_issues :
    Issues Op.isFunding
      (recoverUnknownPreparation approval preparation) := by
  refine .bind proveUnknownFundingOnlyPreparation_issues ?_
  rintro (_ | reason)
  · refine .bind (ApprovalPreparations.updateOrFind_issues rfl) ?_
    rintro (_ | recovered)
    · refine .bind (.ofRead trivial) fun current => ?_
      split
      · exact .ofPure
      · exact .ofThrow
    · exact .ofPure
  · exact .ofThrow

theorem usablePreparation_issues :
    Issues Op.isFunding (usablePreparation approval) := by
  refine .bind (ApprovalPreparations.lockedChange_issues rfl) ?_
  rintro ⟨record, acquired⟩
  exact
    .ofIte .ofPure
      (.ofIte
        (.bind recoverUnknownPreparation_issues fun _ =>
          .ofIte .ofThrow .ofPure)
        (.bind .ofPure fun _ => .ofIte .ofThrow .ofPure))

theorem claimTopUp_issues :
    Issues Op.isFunding (claimTopUp approval preparation) := by
  refine .ofIte .ofPure (.bind missingGas_issues ?_)
  rintro (_ | missing)
  · exact .ofPure
  · refine .bind (.ofService trivial) fun newId =>
      .bind (ApprovalPreparations.lockedChange_issues rfl) ?_
    rintro ⟨record, acquired⟩
    exact .ofIte .ofThrow .ofPure

/-! ## The funding -/

theorem fundingSubmissionFailed_issues {α : Type}
    {fundingOperationKey : String}
    {txHash : Option TransactionHash}
    {failure : Failure} :
    Issues Op.isFunding
      (fundingSubmissionFailed approval preparation fundingOperationKey
        txHash failure : Call α) :=
  .ofIte
    (.bind
      (durableStateWriteFailed_issues
        (ApprovalPreparations.updateOrFind_issues rfl))
      fun _ => .ofThrow)
    (.bind
      (durableStateWriteFailed_issues
        ApprovalPreparations.markUnknown_issues)
      fun _ => .ofThrow)

theorem waitForSuccess_issues {notConfirmed txHash : String} :
    Issues Op.isFunding (waitForSuccess notConfirmed txHash) := by
  refine .bind (.attempt (.ofChain rfl)) ?_
  rintro (failure | receipt)
  · exact .ofPure
  · exact .ofIte .ofPure .ofPure

theorem confirmFunding_issues
    {fundingOperationKey : String}
    {fundingResult : TransactionReliabilityResult} :
    Issues Op.isFunding
      (confirmFunding approval fundingOperationKey fundingResult) := by
  refine .bind waitForSuccess_issues ?_
  rintro (_ | failure)
  · exact .ofPure
  · exact
      .bind
        (durableStateWriteFailed_issues
          ApprovalPreparations.markUnknown_issues)
        fun _ => .ofThrow

theorem fundingGas_issues {attemptValue : Option Nat} :
    Issues Op.isFunding (fundingGas approval attemptValue) := by
  rcases attemptValue with _ | _ | value
  · exact missingGas_issues
  · exact .ofThrow
  · exact .ofPure

theorem saveFunding_issues
    {fundingOperationKey : String}
    {fundingResult : TransactionReliabilityResult} :
    Issues Op.isFunding
      (saveFunding approval fundingOperationKey fundingResult) :=
  .ofIte
    (.bind reconcileOriginalNativeTransfer_issues fun _ =>
      ApprovalPreparations.markFundingSubmitted_issues)
    ApprovalPreparations.markFundingSubmitted_issues

theorem markWalletFunded_issues :
    Issues Op.isFunding (markWalletFunded approval preparation) := by
  refine .bind
    (.attempt (ApprovalPreparations.updateOrFind_issues rfl)) ?_
  rintro (failure | marked)
  · exact .ofThrow
  · exact .ofPure

/-! ## The approval transaction -/

theorem approvalOutcomeUnknown_issues {α : Type}
    {saved thrown : String}
    {txHash : Option String}
    {diagnostic : TransactionDiagnostic}
    {failure : Failure} :
    Issues Op.isFunding
      (approvalOutcomeUnknown approval saved thrown txHash diagnostic
        failure : Call α) :=
  .bind
    (durableStateWriteFailed_issues
      ApprovalPreparations.markUnknown_issues)
    fun _ => .ofThrow

theorem submitApproval_issues :
    Issues Op.isFunding (submitApproval approval) := by
  refine .bind (.attempt (.ofChain rfl)) ?_
  rintro (failure | txHash)
  · exact approvalOutcomeUnknown_issues
  · refine .bind
      (.attempt ApprovalPreparations.markApprovalSubmitted_issues) ?_
    rintro (failure | marked)
    · exact approvalOutcomeUnknown_issues
    · exact .ofPure

theorem confirmApproval_issues {txHash : String} :
    Issues Op.isFunding (confirmApproval approval txHash) := by
  refine .bind waitForSuccess_issues ?_
  rintro (_ | failure)
  · refine .bind
      (.attempt (ApprovalPreparations.updateOrFind_issues rfl)) ?_
    rintro (failure | marked)
    · exact .ofThrow
    · exact .ofPure
  · exact approvalOutcomeUnknown_issues

theorem approveTreasury_issues :
    Issues Op.isFunding (approveTreasury approval) := by
  refine .bind (ApprovalPreparations.lockedChange_issues rfl) ?_
  rintro ⟨retained, acquired⟩
  exact
    .ofIte .ofThrow
      (.bind submitApproval_issues fun _ => confirmApproval_issues)

end Parts

/-! ## The whole function -/

section Follows

variable {permits : Protocol sparkz} {platform : Platform}
  {signer : TreasurySigner} {approval : WalletApproval}
  (own : ∀ past op, op.isFunding → permits past op)

include own

/-- A part that sends nothing follows what permits its operations. -/
theorem follows_of_funding {α : Type}
    {body : Call α}
    (issues : Issues Op.isFunding body) :
    body.Follows permits :=
  fun past =>
    ((issues past).embed fun reached op _ => own reached op).weaken
      fun _ _ _ => trivial

variable
  (sends :
    ∀ request : TreasuryTransactionRequest,
      request.FundsWallet →
      (prepareAndBroadcastTransaction platform request).Follows permits)

include sends

theorem submitFunding_follows
    {preparation : ApprovalPreparation}
    {fundingOperationKey : String}
    {gasAmount : Nat} :
    (submitFunding platform signer approval preparation
      fundingOperationKey gasAmount).Follows permits := by
  refine .bind (.attempt (sends _ ⟨rfl, rfl⟩)) ?_
  rintro (failure | fundingResult)
  · exact follows_of_funding own fundingSubmissionFailed_issues
  · refine .bind (.attempt (follows_of_funding own saveFunding_issues)) ?_
    rintro (failure | saved)
    · exact follows_of_funding own fundingSubmissionFailed_issues
    · exact .ofPure

theorem fundWallet_follows
    {attempt : FundingAttempt} :
    (fundWallet platform signer approval attempt).Follows permits := by
  have marks :
      (markWalletFunded approval attempt.preparation).Follows permits :=
    follows_of_funding own markWalletFunded_issues
  refine .bind (follows_of_funding own fundingGas_issues) ?_
  rintro (_ | gasAmount)
  · exact marks
  · exact
      .bind (submitFunding_follows own sends) fun fundingResult =>
        .ofIte
          (.bind (follows_of_funding own confirmFunding_issues)
            fun _ => marks)
          marks

theorem prepareApproval_follows :
    (prepareApproval platform signer approval).Follows permits := by
  have approves : (approveTreasury approval).Follows permits :=
    follows_of_funding own approveTreasury_issues
  exact
    .bind (follows_of_funding own usablePreparation_issues) fun _ =>
      .bind (follows_of_funding own claimTopUp_issues) fun attempt =>
        .ofIte
          (.bind (fundWallet_follows own sends) fun _ => approves)
          approves

/-- The function follows what permits its own operations and its transfer. -/
theorem approveUserForSpendingViaFunding_follows
    {uid : JsString}
    {treasuryAddress : String}
    {requiredAmount : Option JsNumber} :
    (approveUserForSpendingViaFunding platform signer uid treasuryAddress
      requiredAmount).Follows permits := by
  have asset :
      Issues Op.isFunding
        (getTokenAssetContext signer (some treasuryAddress)) := by
    refine getTokenAssetContext_isQuiet.weaken fun op quiet => ?_
    cases op with
    | write change =>
        exact quiet.elim
    | chain request =>
        exact quiet
    | _ =>
        trivial
  refine .ofIte .ofFail ?_
  refine .bind (follows_of_funding own asset) fun context =>
    .bind (follows_of_funding own .ofOrThrow) fun required =>
      .bind (follows_of_funding own (.ofChain rfl))
        fun currentAllowance => .ofIte .ofPure ?_
  exact prepareApproval_follows own sends

end Follows

/-- The function follows the protocol of an executor. -/
theorem approveUserForSpendingViaFunding_conforms
    {platform : Platform}
    {signer : TreasurySigner}
    {uid : JsString}
    {treasuryAddress : String}
    {requiredAmount : Option JsNumber} :
    (approveUserForSpendingViaFunding platform signer uid treasuryAddress
      requiredAmount).Follows (executorProtocol platform) := by
  refine approveUserForSpendingViaFunding_follows ?_ ?_
  · intro past op isFunding
    cases op with
    | write change =>
        cases change <;> first
          | exact ⟨Or.inr isFunding, trivial⟩
          | cases isFunding
    | chain request =>
        exact
          @executorProtocol_of_isQuiet platform past (.chain request)
            isFunding
    | _ =>
        trivial
  · intro request funds past
    exact
      (prepareAndBroadcastTransaction_obeys (Or.inr funds)).weaken
        fun _ _ _ => trivial

end Sparkz
