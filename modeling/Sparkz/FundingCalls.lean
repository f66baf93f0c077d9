import Sparkz.ApprovalPreparations
import Sparkz.CallFootprint
import Sparkz.StoreCalls

namespace Sparkz

open Interleaving

/-!
# Calls that fund and approve managed wallets

They run beside every other store call, since a funding attempt is a lease of
the same treasury signer.
-/

/-- One call on approval preparations, or any other store call. -/
inductive FundingCall where
  | store : StoreCall → FundingCall
  | claim : ApprovalClaimRequest → FundingCall
  | claimFundingTopUp :
      (operationKey fundingAttemptKey : String) →
      (fundingAttemptValue : Nat) →
      FundingCall
  | markFundingSubmitted :
      (operationKey txHash : String) →
      FundingSubmittedOptions →
      FundingCall
  | markFundingPreflightFailed :
      (operationKey error : String) →
      DiagnosticArgument →
      FundingCall
  | markFunded : (operationKey : String) → FundingCall
  | recoverFundedAfterReadOnlyProof :
      (operationKey : String) →
      FundingCall
  | claimApprovalSubmission : (operationKey : String) → FundingCall
  | markApprovalSubmitted :
      (operationKey txHash : String) →
      FundingCall
  | markApproved : (operationKey : String) → FundingCall
  | markUnknown :
      (operationKey error : String) →
      FundingUnknownOptions →
      FundingCall

namespace FundingCall

/-- The program of a call. -/
def run (platform : Platform) : FundingCall → Call Unit
  | .store call => call.run platform
  | .claim data => StoreCall.discard (ApprovalPreparations.claim data)
  | .claimFundingTopUp operationKey fundingAttemptKey
      fundingAttemptValue =>
      StoreCall.discard
        (ApprovalPreparations.claimFundingTopUp operationKey
          fundingAttemptKey fundingAttemptValue)
  | .markFundingSubmitted operationKey txHash options =>
      StoreCall.discard
        (ApprovalPreparations.markFundingSubmitted operationKey txHash
          options)
  | .markFundingPreflightFailed operationKey error diagnostic =>
      StoreCall.discard
        (ApprovalPreparations.markFundingPreflightFailed operationKey
          error diagnostic)
  | .markFunded operationKey =>
      StoreCall.discard (ApprovalPreparations.markFunded operationKey)
  | .recoverFundedAfterReadOnlyProof operationKey =>
      StoreCall.discard
        (ApprovalPreparations.recoverFundedAfterReadOnlyProof
          operationKey)
  | .claimApprovalSubmission operationKey =>
      StoreCall.discard
        (ApprovalPreparations.claimApprovalSubmission operationKey)
  | .markApprovalSubmitted operationKey txHash =>
      StoreCall.discard
        (ApprovalPreparations.markApprovalSubmitted operationKey txHash)
  | .markApproved operationKey =>
      StoreCall.discard (ApprovalPreparations.markApproved operationKey)
  | .markUnknown operationKey error options =>
      StoreCall.discard
        (ApprovalPreparations.markUnknown operationKey error options)

end FundingCall

/-- What a function on preparations issues: it changes nothing else. -/
def Op.isFunding : Op → Prop
  | .write change => change.isFundingChange = true
  | .chain request => request.broadcasts = false
  | _ => True

/-- The protocol of a call on preparations. -/
abbrev fundingOnly : Protocol sparkz :=
  fun _ op => op.isFunding

namespace ApprovalPreparations

variable {operationKey : String}

theorem updateOrFind_issues
    {update : ApprovalWrite}
    (isCallback : update.isCallback = true) :
    Issues Op.isFunding (updateOrFind operationKey update) := by
  refine .bind (.ofWrite isCallback) ?_
  rintro (_ | record)
  · exact .ofRead trivial
  · exact .ofPure

/-- A change under the lock of its preparation. -/
theorem lockedChange_issues
    {change : Change}
    (isFundingChange : change.isFundingChange = true) :
    Issues Op.isFunding (transaction do
      lock (.approval operationKey)
      write change) :=
  .ofTransaction
    (.bind (.ofLock trivial) fun _ => .ofWrite isFundingChange) trivial

theorem markFundingSubmitted_issues
    {txHash : String}
    {options : FundingSubmittedOptions} :
    Issues Op.isFunding
      (markFundingSubmitted operationKey txHash options) := by
  refine .bind .ofOrThrow fun hash => .bind (.ofRead trivial)
    fun current => ?_
  split
  · exact .ofThrow
  · exact updateOrFind_issues rfl

theorem markApprovalSubmitted_issues {txHash : String} :
    Issues Op.isFunding (markApprovalSubmitted operationKey txHash) :=
  .bind .ofOrThrow fun _ => updateOrFind_issues rfl

theorem markUnknown_issues
    {error : String}
    {options : FundingUnknownOptions} :
    Issues Op.isFunding (markUnknown operationKey error options) :=
  .ofWrite rfl

end ApprovalPreparations

namespace FundingCall

/-- What a call may issue. -/
def protocol : FundingCall → Protocol sparkz
  | .store call => call.protocol
  | _ => fundingOnly

/-- What a call has done when it ends, where it matters. -/
def Finished :
    FundingCall → Except Failure Unit → Past → Prop
  | .store call, result, past => call.Finished result past
  | _, _, _ => True

/-- A call conforms to its protocol. -/
theorem run_obeys (platform : Platform) (call : FundingCall) :
    (call.run platform).Obeys call.protocol [] call.Finished := by
  cases call with
  | store call =>
      exact call.run_obeys platform
  | claim data =>
      exact
        StoreCall.discard_obeys (ApprovalPreparations.claim data)
          (ApprovalPreparations.lockedChange_issues rfl [])
  | claimFundingTopUp operationKey fundingAttemptKey value =>
      exact
        StoreCall.discard_obeys
          (ApprovalPreparations.claimFundingTopUp operationKey
            fundingAttemptKey value)
          (ApprovalPreparations.lockedChange_issues rfl [])
  | claimApprovalSubmission operationKey =>
      exact
        StoreCall.discard_obeys
          (ApprovalPreparations.claimApprovalSubmission operationKey)
          (ApprovalPreparations.lockedChange_issues rfl [])
  | markFundingSubmitted operationKey txHash options =>
      exact
        StoreCall.discard_obeys _
          (ApprovalPreparations.markFundingSubmitted_issues [])
  | markApprovalSubmitted operationKey txHash =>
      exact
        StoreCall.discard_obeys _
          (ApprovalPreparations.markApprovalSubmitted_issues [])
  | markUnknown operationKey error options =>
      exact
        StoreCall.discard_obeys _
          (ApprovalPreparations.markUnknown_issues [])
  | markFundingPreflightFailed operationKey error diagnostic =>
      exact
        StoreCall.discard_obeys (ApprovalPreparations.updateOrFind _ _)
          (ApprovalPreparations.updateOrFind_issues rfl [])
  | markFunded operationKey =>
      exact
        StoreCall.discard_obeys (ApprovalPreparations.updateOrFind _ _)
          (ApprovalPreparations.updateOrFind_issues rfl [])
  | recoverFundedAfterReadOnlyProof operationKey =>
      exact
        StoreCall.discard_obeys (ApprovalPreparations.updateOrFind _ _)
          (ApprovalPreparations.updateOrFind_issues rfl [])
  | markApproved operationKey =>
      exact
        StoreCall.discard_obeys (ApprovalPreparations.updateOrFind _ _)
          (ApprovalPreparations.updateOrFind_issues rfl [])

/-- Calls before their first operation. -/
abbrev start
    (platform : Platform)
    (shared : Database)
    (calls : Nat → FundingCall) :
    Config sparkz Failure Database :=
  .initial shared fun thread => (calls thread).run platform

end FundingCall

/-- A store function other than those above changes no preparation alone. -/
theorem StoreWrites.notApprovalChange
    {past : Past}
    {change : Change}
    (writes : StoreWrites past change) :
    change.isApprovalChange = false := by
  cases writes with
  | claim writes =>
      cases writes <;> rfl
  | reserve writes =>
      obtain ⟨_, _, _, _, _, _, rfl⟩ := writes
      rfl
  | recordAward writes =>
      obtain ⟨_, _, _, _, _, _, _, rfl⟩ := writes
      rfl
  | recordSpend writes =>
      obtain ⟨_, _, _, _, _, _, _, rfl⟩ := writes
      rfl
  | _ =>
      rfl

/-- A lease that is saved names the row it is for. -/
theorem StoreWrites.lease_target
    {past : Past}
    {lease : TreasuryLease}
    (writes : StoreWrites past (.persistPreparation lease)) :
    lease.targetOperationKey = some lease.targetKey := by
  generalize isChange : Change.persistPreparation lease = change at writes
  cases writes with
  | prepare allocation =>
      cases isChange
      exact congrArg some (orText_again _ _).symm
  | claim writes =>
      cases writes <;> cases isChange
  | reserve writes =>
      obtain ⟨_, _, _, _, _, _, rfl⟩ := writes
      cases isChange
  | recordAward writes =>
      obtain ⟨_, _, _, _, _, _, _, rfl⟩ := writes
      cases isChange
  | recordSpend writes =>
      obtain ⟨_, _, _, _, _, _, _, rfl⟩ := writes
      cases isChange
  | _ =>
      cases isChange

end Sparkz
