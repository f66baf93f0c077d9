import Sparkz.TransactionHash
import Sparkz.TokenAmount

namespace Sparkz

/-!
# Errors and the diagnostics they carry

A thrown value is one of the error classes the code distinguishes.  Transport
details that are only copied into a diagnostic for display are left out.
-/

/-- How a token movement ended, as far as the durable record knows. -/
inductive MovementOutcome where
  | unknown
  | confirmed
  | noMovement
  | review
  deriving Repr, DecidableEq

/-- Stable lifecycle stage of a financial transaction diagnostic. -/
inductive DiagnosticStage where
  | assetContext
  | preflight
  | prepare
  | persistHash
  | broadcast
  | receipt
  deriving Repr, DecidableEq

/-- Allow-listed category of a diagnostic. -/
inductive DiagnosticCategory where
  | rpcUnavailable
  | confirmationPending
  | databaseUnavailable
  | reviewRequired
  | preflight
  deriving Repr, DecidableEq

/-- Evidence about a failed financial operation. -/
structure TransactionDiagnostic where
  stage : DiagnosticStage
  category : Option DiagnosticCategory
  rpcMethod : Option String
  errorCode : String
  retryable : Bool
  savedHash : Option TransactionHash
  nonce : Option Nat
  deriving DecidableEq

/-- A diagnostic at or before durable hash persistence proves no broadcast. -/
def isPreBroadcastTransactionDiagnostic :
    Option TransactionDiagnostic → Bool
  | none => false
  | some diagnostic =>
      diagnostic.savedHash.isNone &&
        (diagnostic.stage == .assetContext ||
          diagnostic.stage == .preflight ||
          diagnostic.stage == .prepare ||
          diagnostic.stage == .persistHash)

/-- What a settlement error tells the caller besides its message. -/
structure RecoveryDetails where
  pending : Bool
  settlementPending : Bool
  spendPending : Bool
  preflightFailure : Bool
  retryable : Option Bool
  requiresReview : Bool
  reservationId : String
  txHash : Option TransactionHash
  movementOutcome : Option MovementOutcome
  financialStatus : String
  errorCode : Option String
  stage : Option String
  diagnostic : Option TransactionDiagnostic
  deriving DecidableEq

/-- The part of an approval in which it was left. -/
inductive ApprovalRecoveryStage where
  | funding
  | approval
  | preparation
  deriving Repr, DecidableEq

/-- `ApprovalRecoveryDetails`, with the options of the error. -/
structure ApprovalRecoveryDetails where
  stage : ApprovalRecoveryStage
  operationKey : String
  txHash : Option String
  /-- The hash of a transfer of gas, which moves no tokens. -/
  fundingTxHash : Option String
  diagnostic : Option TransactionDiagnostic
  durableStateWriteFailed : Bool
  cause : Option String
  movementOutcome : Option MovementOutcome
  pending : Bool
  requiresReview : Bool
  retryable : Bool
  preflightFailure : Bool
  deriving DecidableEq

/-- A thrown value, by the class that handlers look for. -/
inductive Failure where
  /-- `new Error(message)`. -/
  | error : String → Failure
  /--
  An error of the provider, with the way `isTransientRpcReadError` and
  `isUnavailableReadonlyError` classify it.
  -/
  | provider :
      (message : String) →
      (transient : Bool) →
      (unavailable : Bool) →
      Failure
  /-- `AwardChargingSessionCollisionError`. -/
  | chargingSessionCollision : (existingOperationKey : String) → Failure
  /-- `TreasuryTransactionPreparationError`. -/
  | preparation : String → Failure
  /-- `TransactionReliabilityError`. -/
  | reliability : TransactionDiagnostic → Failure
  /-- `KnownSpendPreflightFailure`. -/
  | knownPreflight : String → Failure
  /-- An error made by `makeTokenRecoveryError`. -/
  | recovery : String → RecoveryDetails → Failure
  /-- An error made by `approvalRecoveryError`. -/
  | approval : String → ApprovalRecoveryDetails → Failure
  /-- An error made by `makeConfigurationError`. -/
  | configuration : (code message : String) → Failure
  /-- An error made by `invalidStoredReceipt`, which requires review. -/
  | receiptConflict : (message : String) → TransactionHash → Failure
  /-- An error that carries `receiptPending`. -/
  | receiptPending : (message : String) → TransactionHash → Failure
  deriving DecidableEq

/-- An error raised by a statement or by a check inside a transaction. -/
inductive StoreError where
  | error : String → StoreError
  | preparation : String → StoreError
  deriving Repr, DecidableEq

/-- The thrown value. -/
def StoreError.failure : StoreError → Failure
  | .error message => .error message
  | .preparation message => .preparation message

/-- An error of the provider or the signer, as its classifiers see it. -/
structure ProviderError where
  message : String
  transient : Bool
  unavailable : Bool
  deriving Repr, DecidableEq

/-- The thrown value. -/
def ProviderError.failure (error : ProviderError) : Failure :=
  .provider error.message error.transient error.unavailable

/-- `err instanceof Error ? err.message : String(err)`. -/
def Failure.message : Failure → String
  | .error message
  | .provider message _ _
  | .preparation message
  | .knownPreflight message
  | .recovery message _
  | .approval message _
  | .configuration _ message
  | .receiptConflict message _
  | .receiptPending message _ => message
  | .chargingSessionCollision _ =>
      "AWARD_CHARGING_SESSION_COLLISION_REVIEW: another CDR key already owns this provider charging session; operator review is required and no replacement award was submitted"
  | .reliability diagnostic => diagnostic.errorCode

/-- Whether an error carries `requiresReview`. -/
def Failure.requiresReview : Failure → Bool
  | .recovery _ details => details.requiresReview
  | .approval _ details => details.requiresReview
  | .receiptConflict _ _ => true
  | _ => false

/-- `isTransientRpcReadError(error)`. -/
def Failure.isTransientRead : Failure → Bool
  | .provider _ transient _ => transient
  | _ => false

/-- `isUnavailableReadonlyError(error)`. -/
def Failure.isUnavailableReadonly : Failure → Bool
  | .provider _ _ unavailable => unavailable
  | _ => false

/-- The hash a text spells, or the error of the persistence boundary. -/
def requireCanonicalTransactionHash
    (value field : String) :
    Except Failure TransactionHash :=
  match canonicalTransactionHash value with
  | some hash => .ok hash
  | none =>
      .error <| .error <|
        "INVALID_TRANSACTION_HASH: " ++ field ++
          " must be a 0x-prefixed 32-byte hexadecimal hash"

/-- The value inside a mapped answer. -/
theorem Except.map_eq_ok {ε α β : Type}
    {answer : Except ε α}
    {transform : α → β}
    {value : β}
    (mapped : answer.map transform = .ok value) :
    ∃ original, answer = .ok original ∧ transform original = value := by
  cases answer with
  | error error =>
      cases mapped
  | ok original =>
      cases mapped
      exact ⟨original, rfl, rfl⟩

/-- Another error is still an error. -/
theorem Except.mapError_eq_ok {ε ε' α : Type}
    {change : ε → ε'}
    {answer : Except ε α}
    {value : α}
    (isValue : answer.mapError change = .ok value) :
    answer = .ok value := by
  cases answer with
  | error error =>
      cases isValue
  | ok other =>
      cases isValue
      rfl

/-- A sequence that succeeds has succeeded in both parts. -/
theorem Except.bind_eq_ok {ε α β : Type}
    {first : Except ε α}
    {rest : α → Except ε β}
    {value : β}
    (accepted : first >>= rest = .ok value) :
    ∃ middle, first = .ok middle ∧ rest middle = .ok value := by
  cases first with
  | error error =>
      cases accepted
  | ok middle =>
      exact ⟨middle, rfl, accepted⟩

end Sparkz
