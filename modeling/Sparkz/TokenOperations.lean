import Sparkz.System

namespace Sparkz

/-!
# Claiming and marking token operations

`claim` is the only way into the table, and the `mark` functions are the
callbacks that move a row through its life.
-/

/-- The arguments of `TokenOperations.claim`. -/
structure ClaimRequest where
  operationKey : String
  operationType : OperationType
  requestFingerprint : String
  uid : JsString
  walletAddress : String
  amount : JsNumber
  sessionId : Option String
  providerId : Option String
  chargingSessionId : Option String
  reservationId : Option String
  intentContext : Option IntentContext
  legacyKey : Option String
  deriving DecidableEq

/-- The result of a claim: an operation, or an award from before the ledger. -/
inductive TokenOperationClaim where
  | operation :
      TokenOperation →
      (acquired : Bool) →
      TokenOperationClaim
  | legacyRecord : Award → TokenOperationClaim
  deriving DecidableEq

/-- `data.operationType === 'spend' && !data.reservationId`. -/
def ClaimRequest.isManualSpend (data : ClaimRequest) : Bool :=
  data.operationType == .spend && !truthy data.reservationId

/-- The row that a claim inserts. -/
def ClaimRequest.row
    (data : ClaimRequest)
    (amount : TokenAmount) :
    TokenOperation where
  operationKey := data.operationKey
  operationType := data.operationType
  legacyKey := orNull data.legacyKey
  requestFingerprint := data.requestFingerprint
  uid := data.uid.encoded
  walletAddress := data.walletAddress
  amount := amount
  sessionId := orNull data.sessionId
  providerId := orNull data.providerId
  chargingSessionId := orNull data.chargingSessionId
  reservationId := orNull data.reservationId
  intentContext := data.intentContext
  status := .submitting
  movementOutcome := .unknown
  txHash := none
  txNonce := none
  txContext := none
  diagnosticContext := none
  errorMessage := none

/-- `assertOperationIntent(existing, requested, compareAmount)`. -/
def assertOperationIntent
    (existing : TokenOperation)
    (data : ClaimRequest)
    (amount : TokenAmount)
    (compareAmount : Bool) :
    Except Failure Unit :=
  if existing.operationType = .award ∧
      truthy existing.chargingSessionId ∧
      existing.chargingSessionId ≠ data.chargingSessionId then
    .error <| .error
      "TOKEN_OPERATION_CHARGING_SESSION_MISMATCH: original CDR is bound to a different charging session identity; operator review is required"
  else if existing.operationType ≠ data.operationType ∨
      existing.requestFingerprint ≠ data.requestFingerprint ∨
      jsString existing.uid ≠ data.uid ∨
      lowerText existing.walletAddress ≠ lowerText data.walletAddress ∨
      (compareAmount ∧ existing.amount ≠ amount) then
    .error <| .error
      "TOKEN_OPERATION_INTENT_MISMATCH: retry financial intent differs from the original request"
  else
    .ok ()

/-- `checkManualCapacity()`, for a manual spend with a balance sampler. -/
def checkManualCapacity
    (data : ClaimRequest)
    (amount : TokenAmount)
    (getOnChainBalance : Option (Call JsNumber)) :
    Call Unit :=
  match data.isManualSpend, getOnChainBalance with
  | true, some sample => do
      let sampledBalance ← sample
      note (.balance sampledBalance)
      match truncateTokenAmount sampledBalance with
      | none =>
          throwFailure <| .error
            "SPEND_BALANCE_UNAVAILABLE: on-chain balance could not be read"
      | some balance =>
          let holds ← read (.reservationHolds data.walletAddress)
          let unresolvedManual ←
            read (.manualHolds data.walletAddress
              (some data.operationKey))
          if amount.units + (holds + unresolvedManual) > balance.units then
            throwFailure <| .error
              ("INSUFFICIENT_SPARKZ_AVAILABLE:" ++
                (JsNumber.ofUnits
                  (balance.units - (holds + unresolvedManual))).text)
  | _, _ => pure ()

namespace TokenOperations

/-- `TokenOperations.findByKey`. -/
def findByKey (operationKey : String) : Call (Option TokenOperation) :=
  read (.operation operationKey)

/-- The claim of a key that already has a row. -/
def claimExisting
    (data : ClaimRequest)
    (amount : TokenAmount)
    (getOnChainBalance : Option (Call JsNumber))
    (existing : TokenOperation) :
    Call TokenOperationClaim := do
  orThrow
    (assertOperationIntent existing data amount
      (data.operationType != .award))
  if existing.isReclaimable then
    checkManualCapacity data amount getOnChainBalance
    match ← write (.updateOperation data.operationKey .reclaim) with
    | some reclaimed => return .operation reclaimed true
    | none =>
        throwFailure <| .error
          "Cannot read properties of undefined (reading 'intent_context')"
  else
    return .operation existing false

/-- One award operation per physical charging session. -/
def claimChargingSession (data : ClaimRequest) : Call Unit :=
  match data.operationType, orNull data.providerId,
      orNull data.chargingSessionId with
  | .award, some providerId, some chargingSessionId => do
      lock (.awardChargingSession providerId chargingSessionId)
      match ← read (.otherAwardOfSession providerId chargingSessionId
          data.operationKey) with
      | some other =>
          throwFailure (.chargingSessionCollision other.operationKey)
      | none => pure ()
  | _, _, _ => pure ()

/-- One durable award claim per legacy key. -/
def claimLegacyKey (data : ClaimRequest) (legacyKey : String) :
    Call Unit := do
  lock (.awardLegacy legacyKey)
  match ← read (.otherAwardOfLegacyKey legacyKey data.operationKey) with
  | some other =>
      throwFailure <| .error
        ("LEGACY_DEDUP_KEY_COLLISION_REVIEW: existing durable claim " ++
          other.operationKey ++ " owns legacy key " ++ legacyKey)
  | none => pure ()

/-- An award recorded before the ledger existed, if it is this intent. -/
def findLegacyAward (data : ClaimRequest) (legacyKey : String) :
    Call (Option Award) := do
  match ← read (.awardOfDedupKey legacyKey) with
  | none => return none
  | some legacy =>
      if some legacy.sessionId ≠ data.sessionId ∨
          some legacy.providerId ≠ data.providerId then
        throwFailure <| .error
          "LEGACY_DEDUP_KEY_COLLISION_REVIEW: existing award does not match provider/session tuple"
      else
        match ← read (.user legacy.userId) with
        | some legacyUser =>
            if jsString legacyUser.uid ≠ data.uid ∨
                lowerText legacyUser.walletAddress ≠
                  lowerText data.walletAddress then
              throwFailure <| .error
                "LEGACY_DEDUP_KEY_COLLISION_REVIEW: existing award owner is not an exact intent match"
            else
              return some legacy
        | none =>
            throwFailure <| .error
              "LEGACY_DEDUP_KEY_COLLISION_REVIEW: existing award owner is not an exact intent match"

/-- The legacy checks of an award claim; nothing for other claims. -/
def claimLegacy (data : ClaimRequest) : Call (Option Award) :=
  match data.operationType, orNull data.legacyKey with
  | .award, some legacyKey => do
      claimLegacyKey data legacyKey
      findLegacyAward data legacyKey
  | _, _ => pure none

/-- The claim of a key that has no row yet. -/
def claimNew
    (data : ClaimRequest)
    (amount : TokenAmount)
    (getOnChainBalance : Option (Call JsNumber)) :
    Call TokenOperationClaim := do
  claimChargingSession data
  match ← claimLegacy data with
  | some legacy => return .legacyRecord legacy
  | none =>
      checkManualCapacity data amount getOnChainBalance
      let operation ← write (.insertOperation (data.row amount))
      return .operation operation true

/-- The claim once its wallet is locked: lock the key and read its row. -/
def claimLocked
    (data : ClaimRequest)
    (amount : TokenAmount)
    (getOnChainBalance : Option (Call JsNumber)) :
    Call TokenOperationClaim := do
  lock (.operation data.operationKey)
  match ← read (.operation data.operationKey) with
  | some existing => claimExisting data amount getOnChainBalance existing
  | none => claimNew data amount getOnChainBalance

/-- `TokenOperations.claim`. -/
def claim
    (data : ClaimRequest)
    (getOnChainBalance : Option (Call JsNumber)) :
    Call TokenOperationClaim :=
  match canonicalTokenAmount data.amount with
  | none => throwFailure (.error "UNSUPPORTED_TOKEN_PRECISION")
  | some amount =>
      transaction do
        if data.isManualSpend then
          lock (.wallet (lowerText data.walletAddress))
        claimLocked data amount getOnChainBalance

/-- `record || this.findByKey(operationKey)`. -/
def updateOrFind
    (operationKey : String)
    (operationWrite : OperationWrite) :
    Call (Option TokenOperation) := do
  match ← write (.updateOperation operationKey operationWrite) with
  | some record => return some record
  | none => findByKey operationKey

/-- `TokenOperations.markSubmitted`. -/
def markSubmitted (operationKey txHash : String) :
    Call TokenOperation := do
  let hash ←
    orThrow
      (requireCanonicalTransactionHash txHash "transaction hash")
  match ← write (.updateOperation operationKey (.markSubmitted hash)) with
  | some record => return record
  | none =>
      match ← findByKey operationKey with
      | none =>
          throwFailure <| .error
            ("Token operation " ++ operationKey ++
              " was not found while saving transaction hash")
      | some current =>
          match current.txHash with
          | none => return current
          | some saved =>
              if saved ≠ hash then
                throwFailure (.error "TOKEN_OPERATION_TX_HASH_MISMATCH")
              else
                match ← write
                    (.updateOperation operationKey
                      (.markSubmittedAgain hash)) with
                | some updated => return updated
                | none => return current

/-- `TokenOperations.markUnknown`. -/
def markUnknown
    (operationKey error : String)
    (diagnostic : DiagnosticArgument) :
    Call (Option TokenOperation) :=
  updateOrFind operationKey (.markUnknown error diagnostic)

/-- `TokenOperations.markConfirmed`. -/
def markConfirmed
    (operationKey : String)
    (errorMessage : Option String) :
    Call (Option TokenOperation) :=
  updateOrFind operationKey (.markConfirmed errorMessage)

/-- `TokenOperations.markProjectionError`. -/
def markProjectionError (operationKey error : String) :
    Call (Option TokenOperation) :=
  updateOrFind operationKey (.markProjectionError error)

/-- The locks that release a hold: the wallet first, then the operation. -/
def settle
    (operationKey : String)
    (operationWrite : OperationWrite) :
    Call (Option TokenOperation) :=
  transaction do
    match ← read (.operation operationKey) with
    | none => return none
    | some candidate =>
        if candidate.operationType = .spend then
          lock (.wallet (lowerText candidate.walletAddress))
        lock (.operation operationKey)
        write (.settleOperation operationKey operationWrite)

/-- `TokenOperations.markProjected`. -/
def markProjected (operationKey : String) :
    Call (Option TokenOperation) :=
  settle operationKey .markProjected

/-- `TokenOperations.markFailed`. -/
def markFailed
    (operationKey error : String)
    (movementOutcome : MovementOutcome)
    (diagnostic : DiagnosticArgument) :
    Call (Option TokenOperation) :=
  settle operationKey (.markFailed error movementOutcome diagnostic)

/-- `TokenOperations.markPreflightFailed`. -/
def markPreflightFailed
    (operationKey error : String)
    (diagnostic : DiagnosticArgument) :
    Call (Option TokenOperation) :=
  updateOrFind operationKey (.markPreflightFailed error diagnostic)

end TokenOperations

end Sparkz
