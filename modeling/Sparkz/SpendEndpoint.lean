import Sparkz.RequestBody
import Sparkz.AwardExecutor
import Sparkz.SpendAutoApproval
import Sparkz.SpendReceipts

namespace Sparkz

/-!
# `POST /spend`

A manual spend names its operation by its idempotency key.  When the operation
exists, the body is compared with it and the request goes on with what is
saved; otherwise the body alone says what is spent.
-/

/-- The body of `POST /spend`, less the label that is only echoed. -/
structure SpendBody where
  uid : BodyValue JsString
  amount : BodyValue JsString
  idempotencyKey : BodyValue JsString
  operationKey : BodyValue JsString
  sessionId : BodyValue JsString
  providerId : BodyValue JsString
  deriving DecidableEq

/-- What `POST /spend` answers. -/
inductive SpendResponse where
  /-- An answer with status 400. -/
  | invalid : (code message : String) → SpendResponse
  /-- `sendTokenOperationRecoveryUnavailable`. -/
  | recoveryUnavailable
  /-- `tokenCapError`. -/
  | capExceeded : (requestedAmount : JsNumber) → SpendResponse
  /-- `INSUFFICIENT_SPARKZ`. -/
  | insufficient :
      (requestedAmount onChainBalance : JsNumber) →
      (reservedBalance : TokenAmount) →
      SpendResponse
  | failed : ApiSpendExecutionResult → SpendResponse
  | receiptConflict :
      ReliableSpendExecutionResult →
      Failure →
      SpendResponse
  | receiptPending :
      ReliableSpendExecutionResult →
      Failure →
      SpendResponse
  | settled :
      ReliableSpendExecutionResult →
      SignedSpendReceipt →
      SpendResponse
  /-- The outer `catch`. -/
  | unhandled : Failure → SpendResponse
  deriving DecidableEq

/-- `isStableSpendKey(value)`. -/
def isStableSpendKey : BodyValue JsString → Bool
  | .text value => UnitTexts.trim value != []
  | _ => false

/-- What a request spends, as far as the body or the operation says it. -/
structure SpendIdentity where
  amount : Option JsNumber
  sessionId : Option JsString
  providerId : Option JsString
  deriving DecidableEq

/--
A request that goes on to `processSpendWithAutoApproval`.  Its keys are only
digested and stored, so they stand here as an encoder reads them.
-/
structure AdmittedSpend where
  uid : JsString
  userAddress : String
  amount : JsNumber
  sessionId : Option JsString
  providerId : Option JsString
  operationKey : Option String
  idempotencyKey : Option String
  deriving DecidableEq

namespace SpendBody

variable (platform : Platform)
  (body : SpendBody)

/-- `normalizeUid(String(uid || ''))`. -/
def normalizedUid : JsString :=
  normalizeUid body.uid.orEmptyText

/-- The operation key of a body, as an encoder reads it. -/
def encodedOperationKey : Option String :=
  body.operationKey.string?.map JsString.encoded

/-- The idempotency key of a body, as an encoder reads it. -/
def encodedIdempotencyKey : Option String :=
  body.idempotencyKey.string?.map JsString.encoded

/-- The checks of the two keys. -/
def checkKeys : Except SpendResponse Unit :=
  if (body.idempotencyKey ≠ .absent ∧
        isStableSpendKey body.idempotencyKey = false) ∨
      (body.operationKey ≠ .absent ∧
        isStableSpendKey body.operationKey = false) then
    .error <| .invalid "INVALID_OPERATION_KEY"
      "idempotencyKey and operationKey must be non-empty strings when provided"
  else if body.encodedOperationKey.any (fun operationKey =>
      !hasPrefix operationKey "spend:" &&
        !hasPrefix operationKey "request:") then
    .error <| .invalid "INVALID_OPERATION_KEY"
      "operationKey is only valid for an existing manual spend operation"
  else if isStableSpendKey body.idempotencyKey = false ∧
      isStableSpendKey body.operationKey = false then
    .error <| .invalid "IDEMPOTENCY_KEY_REQUIRED"
      "A stable non-empty idempotencyKey is required for a new manual spend; use a returned operationKey only to recover an existing spend"
  else
    .ok ()

/-- `requestedOperationKey`. -/
def requestedOperationKey : Option String :=
  match body.encodedOperationKey, body.encodedIdempotencyKey with
  | some operationKey, _ => some operationKey
  | none, some idempotencyKey =>
      some
        (spendOperationKey platform.digests body.normalizedUid.encoded
          idempotencyKey)
  | none, none => none

/-- Answer a mismatch unless a condition holds. -/
def compare (holds : Bool) (code message : String) :
    Except SpendResponse Unit :=
  if holds then .ok () else .error (.invalid code message)

/-- The amount that a body and the operation it has found agree on. -/
def compareStoredAmount (existing : TokenOperation) :
    Except SpendResponse JsNumber :=
  if body.amount = .absent then
    .ok existing.amount.value
  else
    match body.amount.getPositiveAmount with
    | none =>
        .error <| .invalid "INVALID_SPEND_REQUEST"
          "amount must be greater than 0 and use at most 2 decimal places"
    | some amountValue =>
        if canonicalTokenAmount amountValue = some existing.amount then
          .ok amountValue
        else
          .error <| .invalid "TOKEN_OPERATION_INTENT_MISMATCH"
            "amount differs from the original manual spend operation"

/-- The comparison of a body with the operation it has found. -/
def compareStoredIntent (existing : TokenOperation) :
    Except SpendResponse SpendIdentity := do
  compare (existing.operationType == .spend) "INVALID_OPERATION_KEY"
    "operationKey does not identify a manual spend operation"
  compare (jsString existing.uid == body.normalizedUid)
    "TOKEN_OPERATION_INTENT_MISMATCH"
    "operationKey belongs to a different contract identity"
  compare (existing.amount.units > 0) "TOKEN_OPERATION_REVIEW_REQUIRED"
    "stored spend amount is invalid and requires operator review"
  let amountValue ← body.compareStoredAmount existing
  let originalSessionId := (orNull existing.sessionId).map jsString
  let originalProviderId := (orNull existing.providerId).map jsString
  compare
    (body.sessionId.string?.isNone ||
      body.sessionId.string? == originalSessionId)
    "TOKEN_OPERATION_INTENT_MISMATCH"
    "sessionId differs from the original manual spend operation"
  compare
    (body.providerId.string?.isNone ||
      body.providerId.string? == originalProviderId)
    "TOKEN_OPERATION_INTENT_MISMATCH"
    "providerId differs from the original manual spend operation"
  compare
    (body.encodedIdempotencyKey.all fun idempotencyKey =>
      some
          (spendOperationKey platform.digests body.normalizedUid.encoded
            idempotencyKey) ==
        body.requestedOperationKey platform)
    "TOKEN_OPERATION_INTENT_MISMATCH"
    "idempotencyKey does not match operationKey"
  return {
    amount := some amountValue
    sessionId := originalSessionId
    providerId := originalProviderId }

/-- What a request spends: what its body says, or what is saved. -/
def identity :
    Option TokenOperation → Except SpendResponse SpendIdentity
  | none =>
      .ok {
        amount := body.amount.getPositiveAmount
        sessionId := body.sessionId.string?
        providerId := body.providerId.string? }
  | some existing => body.compareStoredIntent platform existing

/-- The operation of the requested key, or an answer. -/
def findExisting :
    Call (Except SpendResponse (Option TokenOperation)) := do
  match body.requestedOperationKey platform with
  | none => return .ok none
  | some requestedOperationKey =>
      match ← (TokenOperations.findByKey requestedOperationKey).attempt with
      | .error _ => return .error .recoveryUnavailable
      | .ok none =>
          if body.encodedOperationKey.isSome then
            return .error <| .invalid "OPERATION_NOT_FOUND"
              "operationKey must identify an existing manual spend operation"
          else
            return .ok none
      | .ok (some existing) => return .ok (some existing)

/-- A request that says too little, with its audit entry. -/
def refuse (identity : SpendIdentity) (message : String) :
    Call SpendResponse := do
  service
    (.auditLog "spend.validation_failed"
      (identity.sessionId.getD []).encoded)
  return .invalid "INVALID_SPEND_REQUEST" message

/-- The request as it is admitted for an amount and a wallet. -/
def admitted
    (identity : SpendIdentity)
    (amountValue : JsNumber)
    (userAddress : String) :
    AdmittedSpend where
  uid := body.normalizedUid
  userAddress := userAddress
  amount := amountValue
  sessionId := identity.sessionId
  providerId := identity.providerId
  operationKey := body.encodedOperationKey
  idempotencyKey := body.encodedIdempotencyKey

end SpendBody

/-- `onChainBalance - reservedBalance`, floored at zero, covers an amount. -/
def coversAmount
    (onChainBalance : JsNumber)
    (reservedBalance amount : TokenAmount) :
    Bool :=
  match onChainBalance with
  | .decimal shortest =>
      amount.units + reservedBalance.units ≤ shortest.flooredUnits ||
        amount.units == 0
  | .tiny _ | .negative _ => amount.units == 0
  | .large _ | .infinity | .notANumber => true

namespace AdmittedSpend

variable (platform : Platform)
  (signer : TreasurySigner)
  (TOKEN_CONTRACT_ADDRESS : String)
  (admitted : AdmittedSpend)

/-- The request that is handed to `processSpendWithAutoApproval`. -/
def request : SpendOperationRequest where
  userAddress := admitted.userAddress
  amount := admitted.amount
  sessionId := admitted.sessionId
  uid := some admitted.uid
  providerId := admitted.providerId
  operationKey := admitted.operationKey
  idempotencyKey := admitted.idempotencyKey
  reservationId := none
  settlementContext := none

/-- The balance check of a request that has no operation yet. -/
def checkBalance (amount : TokenAmount) : Call (Option SpendResponse) := do
  if !signer.provider then
    throwFailure (.error "Provider not available")
  else
    let units ←
      chain (.balanceOf TOKEN_CONTRACT_ADDRESS admitted.userAddress)
    let onChainBalance := platform.formatUnits units
    let reservedBalance : TokenAmount :=
      ⟨← read (.reservationHolds admitted.userAddress)⟩
    if coversAmount onChainBalance reservedBalance amount then
      return none
    else
      return some
        (.insufficient admitted.amount onChainBalance reservedBalance)

/-- The request for the receipt of a transfer of this spend. -/
def receiptRequest (amount : JsNumber) (txHash : Option TransactionHash) :
    SpendReceiptRequest where
  uid := admitted.uid
  walletAddress := admitted.userAddress
  amount := amount
  sessionId := admitted.sessionId
  providerId := admitted.providerId
  txHash := (txHash.map (·.text)).getD ""

/-- A spend has succeeded: create its receipt and answer. -/
def answerWithReceipt (result : ReliableSpendExecutionResult) :
    Call SpendResponse := do
  match ← (createAndStoreSpendReceipt platform TOKEN_CONTRACT_ADDRESS
      (admitted.receiptRequest result.amount result.txHash)).attempt with
  | .ok receipt =>
      service
        (.auditLog "spend.completed"
          ((result.txHash.map (·.text)).getD ""))
      return .settled result receipt
  | .error failure =>
      if failure.requiresReview then
        return .receiptConflict result failure
      else
        match failure with
        | .receiptPending _ _ => return .receiptPending result failure
        | _ => throwFailure failure

/-- Execute an admitted request and answer. -/
def execute : Call SpendResponse := do
  match ← processSpendWithAutoApproval platform signer
      "spend.auto_approval_failed" admitted.request with
  | .executed result =>
      if result.success then
        admitted.answerWithReceipt platform TOKEN_CONTRACT_ADDRESS result
      else
        service (.auditLog "spend.failed" admitted.userAddress)
        return .failed (.executed result)
  | .approvalFailed result failure =>
      service (.auditLog "spend.failed" admitted.userAddress)
      return .failed (.approvalFailed result failure)

end AdmittedSpend

namespace SpendBody

variable (platform : Platform)
  (signer : TreasurySigner)
  (TOKEN_CONTRACT_ADDRESS : String)
  (body : SpendBody)

/-- Resolve the wallet of a request, check its balance and execute it. -/
def admitAndExecute
    (existing : Option TokenOperation)
    (identity : SpendIdentity)
    (amountValue : JsNumber)
    (amount : TokenAmount) :
    Call SpendResponse := do
  if exceedsTokenOperationCap amountValue ∧ existing.isNone then
    return .capExceeded amountValue
  else
    orThrow
      ((← service (.walletConfig body.normalizedUid)).map fun _ => ())
    let userAddress :=
      orText (existing.map (·.walletAddress))
        (platform.getManagedWalletAddress body.normalizedUid)
    let admitted := body.admitted identity amountValue userAddress
    match existing with
    | some _ =>
        admitted.execute platform signer TOKEN_CONTRACT_ADDRESS
    | none =>
        match ← admitted.checkBalance platform signer
            TOKEN_CONTRACT_ADDRESS amount with
        | some response => return response
        | none =>
            admitted.execute platform signer TOKEN_CONTRACT_ADDRESS

/-- Go on with what a request spends, if that is an amount. -/
def continueWith
    (existing : Option TokenOperation)
    (identity : SpendIdentity) :
    Call SpendResponse := do
  match identity.amount with
  | none =>
      refuse identity
        "Missing or invalid fields: uid, amount (must be > 0 and use at most 2 decimal places)"
  | some amountValue =>
      match canonicalTokenAmount amountValue with
      | none =>
          refuse identity
            "Missing or invalid fields: uid, amount (must be > 0 and use at most 2 decimal places)"
      | some amount =>
          body.admitAndExecute platform signer TOKEN_CONTRACT_ADDRESS
            existing identity amountValue amount

/-- Look the operation up and go on from it. -/
def lookUpAndContinue : Call SpendResponse := do
  match ← body.findExisting platform with
  | .error response => return response
  | .ok existing =>
      match body.identity platform existing with
      | .error response => return response
      | .ok identity =>
          body.continueWith platform signer TOKEN_CONTRACT_ADDRESS
            existing identity

/-- The body of the `try` block. -/
def handle : Call SpendResponse := do
  match body.checkKeys with
  | .error response => return response
  | .ok () =>
      if body.normalizedUid = [] then
        refuse
          { amount := none
            sessionId := body.sessionId.string?
            providerId := body.providerId.string? }
          "Missing or invalid fields: uid, amount (must be > 0)"
      else
        body.lookUpAndContinue platform signer TOKEN_CONTRACT_ADDRESS

/-- `POST /spend`. -/
def post : Call SpendResponse := do
  match ← (body.handle platform signer TOKEN_CONTRACT_ADDRESS).attempt with
  | .ok response => return response
  | .error failure =>
      service (.auditLog "spend.unhandled_error" "/spend")
      return .unhandled failure

end SpendBody

end Sparkz
