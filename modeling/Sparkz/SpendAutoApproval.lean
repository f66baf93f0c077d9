import Sparkz.ApprovalFunding
import Sparkz.SpendExecutor

namespace Sparkz

/-!
# Spending with an approval on demand

A spend that the chain refuses for want of an allowance is tried once more,
with the same operation key, after the managed wallet has approved it.
-/

/-- What `processSpendWithAutoApproval` returns. -/
inductive ApiSpendExecutionResult where
  | executed : ReliableSpendExecutionResult → ApiSpendExecutionResult
  /-- The approval failed after this result, with this error. -/
  | approvalFailed :
      ReliableSpendExecutionResult →
      Failure →
      ApiSpendExecutionResult
  deriving DecidableEq

/-- A failed spend that an allowance may help. -/
def ReliableSpendExecutionResult.wantsApproval
    (result : ReliableSpendExecutionResult) :
    Bool :=
  !(result.success || result.pending == some true ||
    result.requiresReview == some true || result.txHash.isSome ||
    result.preflightFailure != some true ||
    result.preflightApprovalEligible == some false)

/-- The approval, and the spend after it. -/
def approveAndProcessSpend
    (platform : Platform)
    (signer : TreasurySigner)
    (request : SpendOperationRequest)
    (treasuryAddress : String) :
    Call ReliableSpendExecutionResult := do
  approveUserForSpendingViaFunding platform signer (request.uid.getD [])
    treasuryAddress (some request.amount)
  processSpend platform signer request

/-- `processSpendWithAutoApproval(input)`. -/
def processSpendWithAutoApproval
    (platform : Platform)
    (signer : TreasurySigner)
    (auditEvent : String)
    (input : SpendOperationRequest) :
    Call ApiSpendExecutionResult :=
  match spendKey platform input with
  | .error message => pure (.executed (refusedSpend input message))
  | .ok operationKey => do
      let request := { input with operationKey := some operationKey }
      let result ← processSpend platform signer request
      if result.wantsApproval then
        match orNull (← service .environment).TREASURY_ADDRESS with
        | none => return .executed result
        | some treasuryAddress =>
            match ← (approveAndProcessSpend platform signer request
                treasuryAddress).attempt with
            | .ok approvedResult => return .executed approvedResult
            | .error failure =>
                service (.auditLog auditEvent request.userAddress)
                return .approvalFailed result failure
      else
        return .executed result

end Sparkz
