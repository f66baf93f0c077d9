import Sparkz.TreasuryLease

namespace Sparkz

/-!
# Approval preparations

A managed wallet is funded with gas and approves the treasury.  One row follows
both transactions.  The funding may be repeated, so the row also names the
attempt that its funding fields belong to.
-/

inductive ApprovalStatus where
  | funding
  | funded
  | approving
  | approved
  | unknown
  | failed
  deriving Repr, DecidableEq

/-- The text of a status. -/
def ApprovalStatus.text : ApprovalStatus → String
  | .funding => "funding"
  | .funded => "funded"
  | .approving => "approving"
  | .approved => "approved"
  | .unknown => "unknown"
  | .failed => "failed"

/-- A row of `approval_preparations`. -/
structure ApprovalPreparation where
  operationKey : String
  walletAddress : String
  tokenContractAddress : String
  chainId : String
  treasuryAddress : String
  status : ApprovalStatus
  fundingTxHash : Option TransactionHash
  fundingTxNonce : Option Nat
  fundingTxContext : Option PreparedTransactionContext
  fundingAttemptKey : Option String
  fundingAttemptValue : Option Nat
  approvalTxHash : Option TransactionHash
  diagnosticContext : Option TransactionDiagnostic
  errorMessage : Option String
  deriving DecidableEq

/-! ## The lease of a funding attempt -/

/-- `updateApprovalFundingParent`, for the parent of a lease. -/
def ApprovalPreparation.afterLease
    (parent : ApprovalPreparation)
    (lease : TreasuryLease)
    (write : LeaseWrite) :
    ApprovalPreparation :=
  if (parent.status = .funding ∨ parent.status = .unknown) ∧
      orNull parent.fundingAttemptKey = some lease.operationKey ∧
      parent.fundingTxHash = some lease.txHash then
    match write with
    | .markSubmitted => parent
    | .markUnknown diagnostic errorMessage =>
        { parent with
          status := .unknown
          diagnosticContext := some diagnostic
          errorMessage := some (sliceText errorMessage 500) }
    | .markFailed diagnostic errorMessage =>
        { parent with
          status := .failed
          diagnosticContext := some diagnostic
          errorMessage := some (sliceText errorMessage 500) }
  else
    parent

/-- The funding attempt that `prepare` records on its parent. -/
def ApprovalPreparation.funded
    (parent : ApprovalPreparation)
    (lease : TreasuryLease) :
    ApprovalPreparation :=
  { parent with
    fundingTxHash := some lease.txHash
    fundingTxNonce := some lease.nonce
    fundingTxContext := some lease.txContext
    fundingAttemptKey := some lease.operationKey
    fundingAttemptValue := some lease.txContext.value
    status := .funding
    errorMessage := none }

/-- Why `prepare` can not record a funding attempt on this parent. -/
def ApprovalPreparation.refusal
    (parent : ApprovalPreparation)
    (lease : TreasuryLease) :
    Option StoreError :=
  if parent.status ≠ .funding ∧ parent.status ≠ .funded ∧
      parent.status ≠ .unknown then
    some (.preparation "APPROVAL_PREPARATION_TERMINAL_STATE")
  else if truthy parent.fundingAttemptKey ∧
      parent.fundingAttemptKey ≠ some lease.operationKey then
    some (.preparation "APPROVAL_FUNDING_ATTEMPT_MISMATCH")
  else if parent.fundingTxHash.isSome ∧
      parent.fundingTxHash ≠ some lease.txHash ∧
      parent.fundingAttemptKey ≠ some lease.operationKey then
    some (.preparation "APPROVAL_FUNDING_TX_HASH_MISMATCH")
  else
    none

/-! ## The statements that update a row -/

/-- The arguments of `ApprovalPreparations.claim`. -/
structure ApprovalClaimRequest where
  operationKey : String
  walletAddress : String
  tokenContractAddress : String
  chainId : String
  treasuryAddress : String
  deriving Repr, DecidableEq

/-- The options of `markFundingSubmitted`. -/
structure FundingSubmittedOptions where
  nonce : Option Nat
  context : Option PreparedTransactionContext
  diagnostic : DiagnosticArgument
  attemptKey : Option String
  deriving DecidableEq

/-- The options of `ApprovalPreparations.markUnknown`. -/
structure FundingUnknownOptions where
  fundingTxHash : Option String
  fundingAttemptKey : Option String
  clearFundingHash : Bool
  diagnostic : DiagnosticArgument
  deriving DecidableEq

/-- One `update` of one row of `approval_preparations`. -/
inductive ApprovalWrite where
  /-- `claim`, for a row that failed before its broadcast. -/
  | reclaim
  | markFundingSubmitted :
      TransactionHash →
      FundingSubmittedOptions →
      ApprovalWrite
  | markFundingPreflightFailed :
      (error : String) →
      DiagnosticArgument →
      ApprovalWrite
  | markFunded
  | claimFundingTopUp :
      (fundingAttemptKey : String) →
      (fundingAttemptValue : Nat) →
      ApprovalWrite
  | recoverFunded
  | claimApprovalSubmission
  | markApprovalSubmitted : TransactionHash → ApprovalWrite
  | markApproved
  | markUnknown :
      (error : String) →
      (fundingTxHash : Option TransactionHash) →
      (clearFundingHash : Bool) →
      DiagnosticArgument →
      ApprovalWrite
  deriving DecidableEq

namespace ApprovalPreparation

/-- The `where` clause of a statement, beyond the operation key. -/
def admits (row : ApprovalPreparation) : ApprovalWrite → Bool
  | .reclaim => row.status == .failed
  | .markFundingSubmitted _ _ => row.status == .funding
  | .markFundingPreflightFailed _ _ =>
      row.fundingTxHash.isNone &&
        (row.status == .funding || row.status == .failed)
  | .markFunded => row.status == .funding || row.status == .funded
  | .claimFundingTopUp _ _ =>
      row.status == .funded && row.approvalTxHash.isNone
  | .recoverFunded =>
      row.status == .unknown && row.fundingTxHash.isSome &&
        row.approvalTxHash.isNone
  | .claimApprovalSubmission => row.status == .funded
  | .markApprovalSubmitted _ => row.status == .approving
  | .markApproved =>
      row.status == .approving || row.status == .approved
  | .markUnknown _ _ _ _ =>
      row.status == .funding || row.status == .funded ||
        row.status == .approving || row.status == .unknown

/-- The columns that a statement assigns. -/
def set (row : ApprovalPreparation) :
    ApprovalWrite → ApprovalPreparation
  | .reclaim =>
      { row with
        status := .funding
        fundingAttemptKey := none
        fundingAttemptValue := none
        errorMessage := none }
  | .markFundingSubmitted hash options =>
      { row with
        fundingTxHash := some hash
        fundingTxNonce := options.nonce.or row.fundingTxNonce
        fundingTxContext := options.context.or row.fundingTxContext
        fundingAttemptKey := options.attemptKey.or row.fundingAttemptKey
        diagnosticContext :=
          options.diagnostic.over row.diagnosticContext
        status := .funding
        errorMessage := none }
  | .markFundingPreflightFailed error diagnostic =>
      { row with
        status := .failed
        errorMessage := some (sliceText error 500)
        fundingAttemptKey := none
        fundingAttemptValue := none
        diagnosticContext := diagnostic.over row.diagnosticContext }
  | .markFunded | .recoverFunded =>
      { row with
        status := .funded
        fundingAttemptKey := none
        fundingAttemptValue := none
        errorMessage := none }
  | .claimFundingTopUp fundingAttemptKey fundingAttemptValue =>
      { row with
        status := .funding
        fundingAttemptKey := some fundingAttemptKey
        fundingAttemptValue := some fundingAttemptValue
        errorMessage := none }
  | .claimApprovalSubmission =>
      { row with
        status := .approving
        errorMessage := none }
  | .markApprovalSubmitted hash =>
      { row with
        approvalTxHash := some hash
        status := .approving
        errorMessage := none }
  | .markApproved =>
      { row with
        status := .approved
        errorMessage := none }
  | .markUnknown error fundingTxHash clearFundingHash diagnostic =>
      { row with
        status := .unknown
        errorMessage := some (sliceText error 500)
        fundingTxHash :=
          match fundingTxHash with
          | some hash => some hash
          | none =>
              if clearFundingHash then none else row.fundingTxHash
        diagnosticContext := diagnostic.over row.diagnosticContext }

/-- The row after a statement; a row outside its condition stays. -/
def after
    (row : ApprovalPreparation)
    (write : ApprovalWrite) :
    ApprovalPreparation :=
  if row.admits write then row.set write else row

/-- The failure before a broadcast that `claim` may start again from. -/
def isReclaimable (row : ApprovalPreparation) : Bool :=
  row.status == .failed && row.fundingTxHash.isNone &&
    row.diagnosticContext.any fun diagnostic =>
      (diagnostic.stage == .prepare ||
        diagnostic.stage == .persistHash ||
        diagnostic.stage == .preflight ||
        diagnostic.stage == .assetContext) &&
      diagnostic.savedHash.isNone

/-- Whether a row was saved for the same wallet, asset and treasury. -/
def agrees
    (row : ApprovalPreparation)
    (data : ApprovalClaimRequest) :
    Bool :=
  lowerText row.walletAddress == lowerText data.walletAddress &&
    lowerText row.tokenContractAddress ==
      lowerText data.tokenContractAddress &&
    row.chainId == data.chainId &&
    lowerText row.treasuryAddress == lowerText data.treasuryAddress

end ApprovalPreparation

/-- The row that `ApprovalPreparations.claim` inserts. -/
def ApprovalClaimRequest.row
    (data : ApprovalClaimRequest) :
    ApprovalPreparation where
  operationKey := data.operationKey
  walletAddress := lowerText data.walletAddress
  tokenContractAddress := lowerText data.tokenContractAddress
  chainId := data.chainId
  treasuryAddress := lowerText data.treasuryAddress
  status := .funding
  fundingTxHash := none
  fundingTxNonce := none
  fundingTxContext := none
  fundingAttemptKey := none
  fundingAttemptValue := none
  approvalTxHash := none
  diagnosticContext := none
  errorMessage := none

end Sparkz
