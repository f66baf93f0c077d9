import Sparkz.RequestBody
import Sparkz.SpendReceipts
import Sparkz.TransactionReliability

namespace Sparkz

/-!
# `POST /spend/custodial-record`

A transfer that a wallet has made by itself is recorded here.  The chain has to
prove it; then its receipt is stored, and after that its spend.  What an
earlier request has stored is compared with the body first.
-/

/-- An optional identifier of a body, by what the code can see of it. -/
inductive ContextValue where
  /-- `undefined` or `null`. -/
  | missing
  | text (value : JsString)
  /-- A number or a boolean. -/
  | scalar (isTruthy : Bool) (rendered : String)
  /-- An array or an object; the driver stores another text than `String`. -/
  | compound (rendered stored : JsString)
  deriving DecidableEq

namespace ContextValue

/-- `normaliseOptionalContext(value)`. -/
def normaliseOptionalContext : ContextValue → Option JsString
  | .missing => none
  | .text value => some value
  | .scalar _ rendered => some (jsString rendered)
  | .compound rendered _ => some rendered

/-- `value || null`, as it is handed to the driver for a text column. -/
def orNullColumn : ContextValue → Option JsString
  | .missing => none
  | .text value => JsString.orNull (some value)
  | .scalar isTruthy rendered =>
      if isTruthy then JsString.orNull (some (jsString rendered))
      else none
  | .compound _ stored => JsString.orNull (some stored)

end ContextValue

/-- A field used as a condition. -/
def BodyValue.isTruthy : BodyValue JsString → Bool
  | .absent => false
  | .text value => value != []
  | .number value => value.text != "0" && value != .notANumber
  | .other isTruthy _ => isTruthy

/-- The body of `POST /spend/custodial-record`. -/
structure CustodialSpendBody where
  uid : BodyValue JsString
  walletAddress : BodyValue JsString
  amount : BodyValue JsString
  txHash : BodyValue JsString
  sessionId : ContextValue
  providerId : ContextValue
  deriving DecidableEq

/-- The status of an answer that is no success. -/
inductive RefusalStatus where
  | badRequest
  | conflict
  | internalServerError
  | serviceUnavailable
  deriving Repr, DecidableEq

/-- The number of a status. -/
def RefusalStatus.number : RefusalStatus → Nat
  | .badRequest => 400
  | .conflict => 409
  | .internalServerError => 500
  | .serviceUnavailable => 503

/-- What `POST /spend/custodial-record` answers. -/
inductive CustodialSpendResponse where
  | refused
      (status : RefusalStatus)
      (code : Option String)
      (message : String)
  /-- `SPEND_EVIDENCE_INVALID`. -/
  | evidenceInvalid (failure : SpendEvidenceFailure)
  /-- An answer with status 409 and the message of a receipt error. -/
  | receiptRefused (code : String) (failure : Failure)
  /-- An answer with status 202. -/
  | pending (code : Option String) (error : String)
  /-- An answer with status 200. -/
  | recorded
      (duplicate recoveredProjection : Bool)
      (message : String)
      (spendReceipt : SignedSpendReceipt)
  deriving DecidableEq

/-- The HTTP status of an answer. -/
def CustodialSpendResponse.statusCode : CustodialSpendResponse → Nat
  | .refused status _ _ => status.number
  | .evidenceInvalid failure =>
      if failure.pending then 202
      else if failure.code = .providerError then 503
      else 400
  | .receiptRefused _ _ => 409
  | .pending _ _ => 202
  | .recorded _ _ _ _ => 200

/-- `isCustodialProjectionIntentMismatch(err)`. -/
def isCustodialProjectionIntentMismatch (failure : Failure) : Bool :=
  includesText failure.message "SPEND_TX_HASH_INTENT_MISMATCH" ||
    includesText failure.message "SPEND_TX_HASH_OWNER_MISMATCH"

/-- `getTreasuryWalletAddress()`. -/
def getTreasuryWalletAddress (platform : Platform) :
    Call (Option String) := do
  let configured := orNull (← service .environment).TREASURY_ADDRESS
  match configured.bind platform.getAddress with
  | some address => return some address
  | none =>
      match ← (chain .signerAddress).attempt with
      | .ok address => return some address
      | .error _ => return none

namespace Spends

/-- `Spends.findByTxHash`. -/
def findByTxHash (txHash : String) : Call (Option Spend) := do
  let normalizedHash ←
    orThrow (requireCanonicalTransactionHash txHash "transaction hash")
  let found ← read (.spendsOfHash normalizedHash)
  orThrow (requireUnambiguousTransactionMatch "SPEND" found)

end Spends

/-- A request whose fields have all been read. -/
structure CustodialSpend where
  uid : JsString
  walletAddress : String
  amountValue : JsNumber
  amount : TokenAmount
  txHash : TransactionHash
  /-- The hash as the body spells it. -/
  spelledHash : String
  sessionId : ContextValue
  providerId : ContextValue
  deriving DecidableEq

/-- The fields of a body, or the target of an audit entry and an answer. -/
def CustodialSpendBody.spend
    (body : CustodialSpendBody)
    (platform : Platform) :
    Except (String × CustodialSpendResponse) CustodialSpend :=
  let invalid : Except (String × CustodialSpendResponse) CustodialSpend :=
    .error
      (body.txHash.orEmptyText.encoded,
        .refused .badRequest (some "INVALID_CUSTODIAL_SPEND")
          "Missing or invalid fields: uid, walletAddress, txHash, amount (must be > 0 and use at most 2 decimal places)")
  if normalizeUid body.uid.orEmptyText = [] ∨
      body.walletAddress.isTruthy = false then
    invalid
  else
    -- A hash and an address are ASCII, so nothing is replaced in them.
    match body.txHash.encoded.string?, body.amount.getPositiveAmount,
        body.amount.encoded.canonicalTokenAmount with
    | some spelledHash, some amountValue, some amount =>
        match canonicalTxHash spelledHash with
        | none => invalid
        | some txHash =>
            match body.walletAddress.encoded.string?.bind
                platform.getAddress with
            | none =>
                .error
                  (body.walletAddress.orEmptyText.encoded,
                    .refused .badRequest none "Invalid wallet address")
            | some walletAddress =>
                .ok {
                  uid := normalizeUid body.uid.orEmptyText
                  walletAddress := walletAddress
                  amountValue := amountValue
                  amount := amount
                  txHash := txHash
                  spelledHash := spelledHash
                  sessionId := body.sessionId
                  providerId := body.providerId }
    | _, _, _ => invalid

namespace CustodialSpend

variable (platform : Platform)
  (TOKEN_CONTRACT_ADDRESS : String)
  (spend : CustodialSpend)

/-- The request for the receipt of this transfer. -/
def receiptRequest : SpendReceiptRequest where
  uid := spend.uid
  walletAddress := spend.walletAddress
  amount := spend.amountValue
  sessionId := spend.sessionId.normaliseOptionalContext
  providerId := spend.providerId.normaliseOptionalContext
  txHash := spend.txHash.text

/-- The arguments of `recordSpend`, which writes its session to a column. -/
def recordRequest : RecordSpendRequest where
  userWallet := spend.walletAddress
  amount := spend.amountValue
  txHash := spend.txHash.text
  sessionId := spend.sessionId.orNullColumn
  uid := some spend.uid

/-- The transfer that the chain has to prove. -/
def evidenceRequest
    (chainId : Nat)
    (treasuryAddress tokenContractAddress : String) :
    SpendEvidenceRequest where
  tokenContractAddress := tokenContractAddress
  chainId := .bigint chainId
  sourceWallet := spend.walletAddress
  treasuryRecipient := treasuryAddress
  amountUnits := .bigint spend.amount.baseUnits
  txHash := spend.txHash.text

/-- A validation that has failed, with its audit entry. -/
def failValidation (target : String) (response : CustodialSpendResponse) :
    Call CustodialSpendResponse := do
  service (.auditLog "spend.custodial_validation_failed" target)
  return response

/-- The spend of the hash, looked up by both of its spellings. -/
def findSpend : Call (Option Spend) := do
  match ← Spends.findByTxHash spend.txHash.text with
  | some existing => return some existing
  | none =>
      if spend.spelledHash ≠ spend.txHash.text then
        Spends.findByTxHash spend.spelledHash
      else
        return none

/-- What earlier requests have stored for the hash. -/
def findExisting : Call (Option Spend × Option SpendReceipt) := do
  let existingSpend ← spend.findSpend
  let existingReceipt ← findReceipt spend.txHash spend.spelledHash
  return (existingSpend, existingReceipt)

/-- The receipt of the transfer; an error of review or delay is an answer. -/
def answerWithReceipt
    (pendingError : String)
    (answer : SignedSpendReceipt → Call CustodialSpendResponse) :
    Call CustodialSpendResponse := do
  match ← (createAndStoreSpendReceipt platform TOKEN_CONTRACT_ADDRESS
      spend.receiptRequest).attempt with
  | .ok spendReceipt => answer spendReceipt
  | .error failure =>
      if failure.requiresReview then
        return .receiptRefused "CUSTODIAL_RECEIPT_CONTEXT_MISMATCH" failure
      else
        match failure with
        | .receiptPending _ _ => return .pending none pendingError
        | _ => throwFailure failure

/-- The check of a spend that an earlier request has recorded. -/
def checkExisting (existing : Spend) : Except CustodialSpendResponse Unit :=
  if existing.amount ≠ spend.amount ∨
      lowerText existing.walletAddress ≠ lowerText spend.walletAddress ∨
      existing.sessionId.map jsString ≠
        spend.sessionId.normaliseOptionalContext then
    .error <| .refused .conflict (some "CUSTODIAL_TX_HASH_INTENT_MISMATCH")
      "Transaction hash is already bound to a different custodial spend intent"
  else if existing.userId = "" then
    .error <| .refused .conflict (some "CUSTODIAL_HISTORIC_CONTEXT_INCOMPLETE")
      "The historical custodial spend has no explicit owner context; operator review is required"
  else
    .ok ()

/-- The answer to a transfer whose spend is recorded. -/
def answerExisting
    (existing : Spend)
    (existingReceipt : Option SpendReceipt) :
    Call CustodialSpendResponse := do
  match spend.checkExisting existing with
  | .error response => return response
  | .ok () =>
      match ← (read
          (.userOfWallet spend.uid.encoded
            spend.walletAddress)).attempt with
      | .error _ =>
          return .pending (some "CUSTODIAL_OWNER_LOOKUP_PENDING")
            "The existing custodial spend owner could not be checked. Retry the same request shortly."
      | .ok owner =>
          if owner.map (·.id) ≠ some existing.userId then
            return .refused .conflict (some "CUSTODIAL_TX_HASH_INTENT_MISMATCH")
              "Transaction hash is already projected for a different eMAID owner"
          else if existingReceipt.isNone then
            return .refused .conflict
              (some "CUSTODIAL_HISTORIC_CONTEXT_INCOMPLETE")
              "A historical custodial spend exists without a receipt; operator review is required"
          else
            spend.answerWithReceipt platform TOKEN_CONTRACT_ADDRESS
              "The custodial spend is confirmed but its receipt is pending persistence."
              fun spendReceipt =>
                return .recorded true false
                  "Custodial spend already recorded" spendReceipt

/-- Record the spend of a transfer that has a receipt. -/
def project
    (recorded : Call CustodialSpendResponse) :
    Call CustodialSpendResponse := do
  match ← (recordSpend spend.recordRequest).attempt with
  | .ok () => recorded
  | .error failure =>
      if isCustodialProjectionIntentMismatch failure then
        return .refused .conflict (some "CUSTODIAL_TX_HASH_INTENT_MISMATCH")
          failure.message
      else
        return .pending none
          "The custodial transfer receipt is valid but its database projection is pending. Retry the exact request."

/-- The answer to a transfer that has a receipt, and no spend yet. -/
def recover : Call CustodialSpendResponse :=
  spend.answerWithReceipt platform TOKEN_CONTRACT_ADDRESS
    "The custodial spend receipt is pending validation or persistence."
    fun spendReceipt =>
      spend.project do
        return .recorded true true
          "Custodial spend projection recovered from its validated receipt"
          spendReceipt

/-- The answer to a transfer that nothing is stored for. -/
def recordNew : Call CustodialSpendResponse :=
  spend.answerWithReceipt platform TOKEN_CONTRACT_ADDRESS
    "The custodial transfer receipt is pending persistence. Retry the exact request."
    fun spendReceipt =>
      spend.project do
        service (.auditLog "spend.custodial_recorded" spend.txHash.text)
        return .recorded false false "Custodial spend recorded"
          spendReceipt

/-- The answer to a transfer that the chain has proved. -/
def answerProved : Call CustodialSpendResponse := do
  match ← spend.findExisting.attempt with
  | .error _ =>
      return .pending (some "CUSTODIAL_RECOVERY_LOOKUP_PENDING")
        "The confirmed custodial transfer could not be checked for an existing projection. Retry the same request shortly."
  | .ok (some existing, existingReceipt) =>
      spend.answerExisting platform TOKEN_CONTRACT_ADDRESS existing
        existingReceipt
  | .ok (none, some _) => spend.recover platform TOKEN_CONTRACT_ADDRESS
  | .ok (none, none) => spend.recordNew platform TOKEN_CONTRACT_ADDRESS

/-- Ask the chain for a proof of the transfer, or answer. -/
def prove : Call (Except CustodialSpendResponse Unit) := do
  match ← getAuthoritativeChainId.attempt with
  | .error failure =>
      let code :=
        match failure with
        | .configuration code _ => code
        | _ => "CHAIN_CONTEXT_UNAVAILABLE"
      return .error <| .refused .serviceUnavailable (some code)
        "The configured chain could not be verified. Operator review is required before recording this spend."
  | .ok chainId =>
      match orNull (← getTreasuryWalletAddress platform) with
      | none =>
          return .error <| .refused .serviceUnavailable (some "TREASURY_ADDRESS_UNAVAILABLE")
            "Configured treasury recipient is unavailable"
      | some treasuryAddress =>
          match platform.getAddress TOKEN_CONTRACT_ADDRESS with
          | none =>
              return .error <| .refused .serviceUnavailable (some "TOKEN_CONTRACT_INVALID")
                "Configured token contract address is invalid"
          | some tokenContractAddress =>
              match ← verifySpendEvidence platform
                  (spend.evidenceRequest chainId treasuryAddress
                    tokenContractAddress) with
              | .error failure => return .error (.evidenceInvalid failure)
              | .ok _ => return .ok ()

/-- The answer to a request whose fields have all been read. -/
def answer : Call CustodialSpendResponse := do
  let linked ← orThrow (← service (.linkedWallets spend.uid.encoded))
  if linked.any fun link =>
      lowerText link.walletAddress == lowerText spend.walletAddress then
    match ← spend.prove platform TOKEN_CONTRACT_ADDRESS with
    | .error response => return response
    | .ok () => spend.answerProved platform TOKEN_CONTRACT_ADDRESS
  else
    failValidation spend.walletAddress
      (.refused .badRequest none
        "Wallet address is not linked to this EMP contract")

end CustodialSpend

/-- The answer to an error that no step has answered. -/
def unhandledCustodialSpend (failure : Failure) : CustodialSpendResponse :=
  if failure.requiresReview then
    .receiptRefused "CUSTODIAL_REVIEW_REQUIRED" failure
  else
    let pending : CustodialSpendResponse :=
      .pending none
        "The custodial spend is recorded or confirmed but its receipt is pending persistence."
    let unavailable : CustodialSpendResponse :=
      .refused .internalServerError (some "CUSTODIAL_SPEND_UNAVAILABLE")
        "The custodial spend could not be completed. Please retry the same request shortly."
    match failure with
    | .receiptPending _ _ => pending
    | .recovery _ details =>
        if details.txHash.isSome then pending else unavailable
    | _ => unavailable

namespace CustodialSpendBody

variable (platform : Platform)
  (TOKEN_CONTRACT_ADDRESS : String)
  (body : CustodialSpendBody)

/-- The body of the `try` block. -/
def handle : Call CustodialSpendResponse :=
  match body.spend platform with
  | .error (target, response) =>
      CustodialSpend.failValidation target response
  | .ok spend => spend.answer platform TOKEN_CONTRACT_ADDRESS

/-- `POST /spend/custodial-record`. -/
def post : Call CustodialSpendResponse := do
  match ← (body.handle platform TOKEN_CONTRACT_ADDRESS).attempt with
  | .ok response => return response
  | .error failure =>
      service
        (.auditLog "spend.custodial_unhandled_error"
          "/spend/custodial-record")
      return unhandledCustodialSpend failure

end CustodialSpendBody

end Sparkz
