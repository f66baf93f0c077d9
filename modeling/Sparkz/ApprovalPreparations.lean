import Sparkz.System

namespace Sparkz

/-!
# Claiming and marking approval preparations

The statements that take the lock of a preparation, or lock its row, are one
change each.  `markFundingSubmitted` reads the row before its statement, and
another call may come between the two.
-/

namespace ApprovalPreparations

/-- Issue a statement, and read the row when it has found none to update. -/
def updateOrFind
    (operationKey : String)
    (update : ApprovalWrite) :
    Call (Option ApprovalPreparation) := do
  match ← write (.updateApproval operationKey update) with
  | some record => return some record
  | none => read (.approval operationKey)

/-- `ApprovalPreparations.claim`. -/
def claim
    (data : ApprovalClaimRequest) :
    Call (ApprovalPreparation × Bool) :=
  transaction do
    lock (.approval data.operationKey)
    write (.claimApproval data)

/-- Whether `markFundingSubmitted` refuses to replace the saved hash. -/
def refusesFundingHash
    (hash : TransactionHash)
    (options : FundingSubmittedOptions)
    (current : ApprovalPreparation) :
    Bool :=
  current.fundingTxHash.any (· != hash) &&
    (options.attemptKey.isNone ||
      current.fundingAttemptKey != options.attemptKey)

/-- `ApprovalPreparations.markFundingSubmitted`. -/
def markFundingSubmitted
    (operationKey txHash : String)
    (options : FundingSubmittedOptions) :
    Call (Option ApprovalPreparation) := do
  let hash ←
    orThrow
      (requireCanonicalTransactionHash txHash "funding transaction hash")
  let current ← read (.approval operationKey)
  if current.any (refusesFundingHash hash options) then
    throwFailure (.error "APPROVAL_FUNDING_TX_HASH_MISMATCH")
  else
    updateOrFind operationKey (.markFundingSubmitted hash options)

/-- `ApprovalPreparations.markFundingPreflightFailed`. -/
def markFundingPreflightFailed
    (operationKey error : String)
    (diagnostic : DiagnosticArgument) :
    Call (Option ApprovalPreparation) :=
  updateOrFind operationKey (.markFundingPreflightFailed error diagnostic)

/-- `ApprovalPreparations.markFunded`. -/
def markFunded
    (operationKey : String) :
    Call (Option ApprovalPreparation) :=
  updateOrFind operationKey .markFunded

/-- `ApprovalPreparations.claimFundingTopUp`. -/
def claimFundingTopUp
    (operationKey fundingAttemptKey : String)
    (fundingAttemptValue : Nat) :
    Call (ApprovalPreparation × Bool) :=
  transaction do
    lock (.approval operationKey)
    write
      (.claimFundingTopUp operationKey fundingAttemptKey
        fundingAttemptValue)

/-- `ApprovalPreparations.recoverFundedAfterReadOnlyProof`. -/
def recoverFundedAfterReadOnlyProof
    (operationKey : String) :
    Call (Option ApprovalPreparation) :=
  updateOrFind operationKey .recoverFunded

/-- `ApprovalPreparations.claimApprovalSubmission`. -/
def claimApprovalSubmission
    (operationKey : String) :
    Call (ApprovalPreparation × Bool) :=
  transaction do
    lock (.approval operationKey)
    write (.claimApprovalSubmission operationKey)

/-- `ApprovalPreparations.markApprovalSubmitted`. -/
def markApprovalSubmitted
    (operationKey txHash : String) :
    Call (Option ApprovalPreparation) := do
  let hash ←
    orThrow
      (requireCanonicalTransactionHash txHash "approval transaction hash")
  updateOrFind operationKey (.markApprovalSubmitted hash)

/-- `ApprovalPreparations.markApproved`. -/
def markApproved
    (operationKey : String) :
    Call (Option ApprovalPreparation) :=
  updateOrFind operationKey .markApproved

/-- `ApprovalPreparations.markUnknown`. -/
def markUnknown
    (operationKey error : String)
    (options : FundingUnknownOptions) :
    Call (Option ApprovalPreparation) :=
  write (.markApprovalUnknown operationKey error options)

end ApprovalPreparations

/-- The statements that callbacks of a preparation issue alone. -/
def ApprovalWrite.isCallback : ApprovalWrite → Bool
  | .markFundingSubmitted _ _ | .markFundingPreflightFailed _ _
  | .markFunded | .recoverFunded | .markApprovalSubmitted _
  | .markApproved => true
  | _ => false

/-- The changes that calls on preparations make. -/
def Change.isFundingChange : Change → Bool
  | .claimApproval _ | .claimFundingTopUp _ _ _
  | .claimApprovalSubmission _ | .markApprovalUnknown _ _ _ => true
  | .updateApproval _ write => write.isCallback
  | _ => false

end Sparkz
