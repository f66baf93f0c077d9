import Sparkz.System

namespace Sparkz

/-!
# Allocating treasury nonces

`prepare` signs under the lock of one chain and signer, and saves the lease and
the hash of its target in the same commit.  The signed bytes are returned to
the caller and are never stored.
-/

/-- A signed transaction before its hash is saved. -/
structure PreparedTreasuryTransaction where
  txHash : String
  rawTransaction : String
  context : PreparedTransactionContext
  deriving DecidableEq

/-- The arguments of `TreasuryTransactions.prepare`. -/
structure TreasuryTransactionPreparationRequest where
  operationKey : String
  targetOperationKey : Option String
  targetType : TargetType
  chainId : String
  signerAddress : String
  toAddress : String
  data : Option String
  value : Option Nat
  accessList : AccessList
  getPendingNonce : Call JsNumber
  prepare : (nonce : Nat) → Call PreparedTreasuryTransaction

/-- The result of `TreasuryTransactions.prepare`. -/
structure TreasuryPreparation where
  lease : TreasuryLease
  alreadyPrepared : Bool
  rawTransaction : Option String
  deriving DecidableEq

namespace TreasuryTransactionPreparationRequest

/-- `data.targetOperationKey || data.operationKey`. -/
def targetKey (data : TreasuryTransactionPreparationRequest) : String :=
  orText data.targetOperationKey data.operationKey

/-- What an existing lease must agree with. -/
def intent
    (data : TreasuryTransactionPreparationRequest) :
    TreasuryIntent where
  targetOperationKey := data.targetKey
  targetType := data.targetType
  chainId := data.chainId
  signerAddress := lowerText data.signerAddress
  toAddress := data.toAddress
  data := data.data
  value := data.value
  accessList := data.accessList

/-- The lease that a preparation inserts. -/
def lease
    (data : TreasuryTransactionPreparationRequest)
    (nonce : Nat)
    (hash : TransactionHash)
    (context : PreparedTransactionContext) :
    TreasuryLease where
  operationKey := data.operationKey
  targetOperationKey := some data.targetKey
  targetType := data.targetType
  chainId := data.chainId
  signerAddress := lowerText data.signerAddress
  nonce := nonce
  txHash := hash
  txContext := context
  status := .prepared
  diagnosticContext := none
  errorMessage := none

end TreasuryTransactionPreparationRequest

def TREASURY_NONCE_BUSY_WINDOW_MS : Int := 10000

namespace TreasuryTransactions

/-- The refusal to allocate past a lease whose outcome is open. -/
def unresolvedFailure
    (unresolved : TreasuryLease)
    (leaseAge : Option Int) :
    Failure :=
  if unresolved.status = .prepared ∧
      leaseAge.any
        (fun age => 0 ≤ age ∧ age ≤ TREASURY_NONCE_BUSY_WINDOW_MS) then
    .preparation
      ("TREASURY_NONCE_BUSY_RETRYABLE:" ++ unresolved.operationKey ++
        ":" ++ toString unresolved.nonce ++ ":prepared")
  else
    .preparation
      ("TREASURY_NONCE_GAP_REQUIRES_REVIEW:" ++
        unresolved.operationKey ++ ":" ++ toString unresolved.nonce ++
        ":" ++ unresolved.status.text)

/-- The nonce above the pending one and above every lease in force. -/
def nextNonce (pendingNonce : Nat) (maxNonce : Option Nat) : Nat :=
  match maxNonce with
  | none => max pendingNonce 0
  | some leasedNonce =>
      if leasedNonce < 2 ^ 53 then max pendingNonce (leasedNonce + 1)
      else pendingNonce

/-- Sign with a nonce, check the signed context, and save it. -/
def signAndSave
    (data : TreasuryTransactionPreparationRequest)
    (nonce : Nat) :
    Call TreasuryPreparation := do
  let prepared ← data.prepare nonce
  let hash ←
    orThrow
      (requireCanonicalTransactionHash prepared.txHash
        "prepared transaction hash")
  if prepared.context.nonce ≠ nonce ∨
      prepared.context.chainId ≠ data.chainId ∨
      lowerText prepared.context.signerAddress ≠
        lowerText data.signerAddress then
    throwFailure
      (.preparation "TREASURY_TRANSACTION_CONTEXT_MISMATCH")
  else
    let inserted ←
      write
        (.persistPreparation (data.lease nonce hash prepared.context))
    return {
      lease := inserted
      alreadyPrepared := false
      rawTransaction := some prepared.rawTransaction }

/-- Choose a nonce, unless an open lease stands in the way. -/
def allocate (data : TreasuryTransactionPreparationRequest) :
    Call TreasuryPreparation := do
  let reading ← data.getPendingNonce
  note (.pendingNonce reading)
  match reading.safeNatural? with
  | none =>
      throwFailure (.preparation "TREASURY_PENDING_NONCE_UNAVAILABLE")
  | some pendingNonce =>
      match ← read
          (.unresolvedLease data.chainId (lowerText data.signerAddress)
            pendingNonce) with
      | some unresolved =>
          throwFailure
            (unresolvedFailure unresolved (← service .leaseAge))
      | none =>
          let maxNonce ←
            read (.maxLeaseNonce data.chainId
              (lowerText data.signerAddress))
          let nonce := nextNonce pendingNonce maxNonce
          if nonce < 2 ^ 53 then signAndSave data nonce
          else
            throwFailure (.preparation "TREASURY_NONCE_UNAVAILABLE")

/-- `TreasuryTransactions.prepare`. -/
def prepare (data : TreasuryTransactionPreparationRequest) :
    Call TreasuryPreparation :=
  transaction do
    match ← (lock
        (.treasury data.chainId (lowerText data.signerAddress))).attempt
      with
    | .error _ =>
        throwFailure (.preparation "TREASURY_NONCE_LOCK_TIMEOUT")
    | .ok () =>
        match ← read (.lease data.operationKey) with
        | some existing =>
            if treasuryIntentMatches existing data.intent then
              return {
                lease := existing
                alreadyPrepared := true
                rawTransaction := none }
            else
              throwFailure
                (.preparation "TREASURY_TRANSACTION_INTENT_MISMATCH")
        | none => allocate data

/-- `TreasuryTransactions.markSubmitted`. -/
def markSubmitted (operationKey txHash : String) :
    Call (Option TreasuryLease) := do
  let hash ←
    orThrow
      (requireCanonicalTransactionHash txHash "transaction hash")
  write (.updateLease operationKey (some hash) .markSubmitted)

/-- `TreasuryTransactions.markUnknown`. -/
def markUnknown
    (operationKey : String)
    (diagnostic : TransactionDiagnostic)
    (errorMessage : String) :
    Call (Option TreasuryLease) :=
  write
    (.updateLease operationKey none
      (.markUnknown diagnostic errorMessage))

/-- `TreasuryTransactions.markFailed`. -/
def markFailed
    (operationKey : String)
    (diagnostic : TransactionDiagnostic)
    (errorMessage : String) :
    Call (Option TreasuryLease) :=
  write
    (.updateLease operationKey none
      (.markFailed diagnostic errorMessage))

end TreasuryTransactions

end Sparkz
