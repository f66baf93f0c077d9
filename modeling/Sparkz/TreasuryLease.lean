import Sparkz.TokenOperationWrites

namespace Sparkz

/-!
# Treasury transaction leases

A lease is the durable claim on one nonce of one treasury signer.  It also
names the row that its transaction moves tokens or gas for.
-/

inductive TargetType where
  | tokenOperation
  | approvalFunding
  | standalone
  deriving Repr, DecidableEq

inductive LeaseStatus where
  | prepared
  | submitted
  | unknown
  | confirmed
  | failed
  deriving Repr, DecidableEq

/-- The text of a status, as error messages show it. -/
def LeaseStatus.text : LeaseStatus → String
  | .prepared => "prepared"
  | .submitted => "submitted"
  | .unknown => "unknown"
  | .confirmed => "confirmed"
  | .failed => "failed"

/-- `['prepared', 'submitted', 'unknown']`. -/
def LeaseStatus.isOpen : LeaseStatus → Bool
  | .prepared | .submitted | .unknown => true
  | .confirmed | .failed => false

/-- A row of `treasury_transaction_leases`. -/
structure TreasuryLease where
  operationKey : String
  targetOperationKey : Option String
  targetType : TargetType
  chainId : String
  signerAddress : String
  nonce : Nat
  txHash : TransactionHash
  txContext : PreparedTransactionContext
  status : LeaseStatus
  diagnosticContext : Option TransactionDiagnostic
  errorMessage : Option String
  deriving DecidableEq

/-- `existing.target_operation_key || operationKey`. -/
def TreasuryLease.targetKey (lease : TreasuryLease) : String :=
  orText lease.targetOperationKey lease.operationKey

/-- The access list of a context or of a request. -/
abbrev AccessList := Option (List (String × List String))

/-- `normaliseLeaseAccessList(value)`. -/
def normaliseLeaseAccessList
    (value : AccessList) :
    List (String × List String) :=
  (value.getD []).map fun entry =>
    (lowerText entry.1, entry.2.map lowerText)

/-- The parts of a preparation request that a lease must agree with. -/
structure TreasuryIntent where
  targetOperationKey : String
  targetType : TargetType
  chainId : String
  signerAddress : String
  toAddress : String
  data : Option String
  value : Option Nat
  accessList : AccessList
  deriving DecidableEq

/-- `treasuryIntentMatches(existing, requested)`. -/
def treasuryIntentMatches
    (existing : TreasuryLease)
    (requested : TreasuryIntent) :
    Bool :=
  let context := existing.txContext
  existing.targetType == requested.targetType &&
    existing.targetKey == requested.targetOperationKey &&
    existing.chainId == requested.chainId &&
    lowerText existing.signerAddress ==
      lowerText requested.signerAddress &&
    lowerText context.toAddress == lowerText requested.toAddress &&
    lowerText (orText context.data "0x") ==
      lowerText (orText requested.data "0x") &&
    context.value == requested.value.getD 0 &&
    normaliseLeaseAccessList context.accessList ==
      normaliseLeaseAccessList requested.accessList

/-- One `update` of one lease, with the condition on its status. -/
inductive LeaseWrite where
  | markSubmitted
  | markUnknown :
      TransactionDiagnostic →
      (errorMessage : String) →
      LeaseWrite
  | markFailed :
      TransactionDiagnostic →
      (errorMessage : String) →
      LeaseWrite
  deriving DecidableEq

/-- The lease after a statement; a closed lease is not found by it. -/
def TreasuryLease.after
    (lease : TreasuryLease)
    (write : LeaseWrite) :
    TreasuryLease :=
  if lease.status.isOpen then
    match write with
    | .markSubmitted =>
        { lease with status := .submitted, errorMessage := none }
    | .markUnknown diagnostic errorMessage =>
        { lease with
          status := .unknown
          diagnosticContext := some diagnostic
          errorMessage := some (sliceText errorMessage 500) }
    | .markFailed diagnostic errorMessage =>
        { lease with
          status := .failed
          diagnosticContext := some diagnostic
          errorMessage := some (sliceText errorMessage 500) }
  else
    lease

/-- What the same statement does to the lease's token operation. -/
def LeaseWrite.onOperation : LeaseWrite → OperationWrite
  | .markSubmitted => .leaseSubmitted
  | .markUnknown diagnostic errorMessage =>
      .leaseUnknown diagnostic errorMessage
  | .markFailed diagnostic errorMessage =>
      .leaseFailed diagnostic errorMessage

/-- Why `prepare` can not record its hash on this token operation. -/
def TokenOperation.refusal
    (row : TokenOperation)
    (hash : TransactionHash) :
    Option StoreError :=
  if !row.status.isOpen then
    some (.preparation "TOKEN_OPERATION_TERMINAL_STATE")
  else if row.txHash.isSome ∧ row.txHash ≠ some hash then
    some (.preparation "TOKEN_OPERATION_TX_HASH_MISMATCH")
  else
    none

/-- A row that accepts a hash satisfies the statement that saves it. -/
theorem TokenOperation.admits_of_not_refused
    {row : TokenOperation}
    {hash : TransactionHash}
    {nonce : Nat}
    {context : PreparedTransactionContext}
    (accepted : row.refusal hash = none) :
    row.admits (.prepared hash nonce context) = true := by
  unfold TokenOperation.refusal at accepted
  split at accepted
  · cases accepted
  rename_i notClosed
  split at accepted
  · cases accepted
  rename_i notOther
  simp only [Bool.not_eq_true', Bool.not_eq_false] at notClosed
  cases saved : row.txHash with
  | none =>
      simp [TokenOperation.admits, notClosed, saved]
  | some other =>
      have same : other = hash := by
        by_contra different
        exact notOther (by simp [saved, different])
      simp [TokenOperation.admits, notClosed, saved, same]

end Sparkz
