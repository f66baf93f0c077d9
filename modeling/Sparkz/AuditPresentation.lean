import Sparkz.AuditValues

namespace Sparkz

open Utf16 UnitTexts

/-!
# What operators see of an audit event

An audit event is shown through a category, a reason and a list of details.
Each detail is taken from a field that is named here, cleaned and cut; nothing
else of the metadata is rendered.
-/

/-- An audit event as the audit API returns it. -/
structure AuditPresentationEvent where
  eventType : AuditValue
  status : AuditValue
  targetType : AuditValue
  targetId : AuditValue
  metadata : AuditValue

structure AuditPresentationDetail where
  label : JsString
  value : JsString
  deriving DecidableEq

inductive AuditPresentationCategory where
  | identity
  | validation
  | alert
  | operational
  | authentication
  | activity
  deriving DecidableEq

structure AuditPresentation where
  category : AuditPresentationCategory
  reasonLabel : Option JsString
  reason : Option JsString
  guidance : Option JsString
  details : List AuditPresentationDetail
  deriving DecidableEq

/-! ## Texts that may be shown -/

/-- A text without control characters and outer blanks, cut; or nothing. -/
def cleaned (text : JsString) (maxLength : ℕ) : Option JsString :=
  if trim (withSpaces text) = [] then none
  else some ((trim (withSpaces text)).take maxLength)

def safeText (value : AuditValue) (maxLength : ℕ) : Option JsString :=
  match value with
  | .text shown => cleaned shown maxLength
  | .number (.finite x) =>
      cleaned (jsString (Double.finite x).shown.text) maxLength
  | _ => none

/-- `/^(?:\d+\.?\d*|\.\d+)$/.test(text)`. -/
def isUnsignedNumeric (text : JsString) : Bool :=
  let fraction := text.dropWhile (IsDigit ·)
  let hasWhole := text.takeWhile (IsDigit ·) ≠ []
  match fraction with
  | [] => hasWhole
  | point :: digits =>
      point = unitOf '.'.toNat && digits.all (IsDigit ·) &&
        (hasWhole || digits ≠ [])

/-- `/^-?(?:\d+\.?\d*|\.\d+)$/.test(text)`. -/
def isNumericText : JsString → Bool
  | [] => false
  | first :: rest =>
      if first = unitOf '-'.toNat then isUnsignedNumeric rest
      else isUnsignedNumeric (first :: rest)

def safeNumericText (value : AuditValue) : Option JsString :=
  (safeText value 80).filter isNumericText

def safeList : AuditValue → List JsString
  | .array items => items.filterMap (safeText · 100)
  | _ => []

def pushDetail
    (details : List AuditPresentationDetail)
    (label : JsString)
    (value : AuditValue) :
    List AuditPresentationDetail :=
  match safeText value 180 with
  | none => details
  | some text =>
      if details.any fun detail =>
          detail.label = label && detail.value = text then
        details
      else
        details ++ [{ label := label, value := text }]

/-- One `pushDetail` after another. -/
def pushDetails
    (details : List AuditPresentationDetail)
    (rows : List (JsString × AuditValue)) :
    List AuditPresentationDetail :=
  rows.foldl (fun shown row => pushDetail shown row.1 row.2) details

/-! ## Tokens of diagnostics -/

/-- `String(value)` of a text or a number. -/
def scalarText : AuditValue → Option JsString
  | .text shown => some shown
  | .number value => some (jsString value.shown.text)
  | _ => none

/-- `[A-Za-z0-9_.:-]`. -/
def IsTokenUnit (unit : CodeUnit) : Prop :=
  IsUpper unit ∨ IsLower unit ∨ IsDigit unit ∨
    unit ∈ jsString "_.:-"
  deriving Decidable

/-- `/^[A-Za-z0-9_.:-]{1,80}$/.test(text)`. -/
def isToken (text : JsString) : Bool :=
  1 ≤ text.length && text.length ≤ 80 && text.all (IsTokenUnit ·)

def safeDiagnosticToken (value : AuditValue) (maxLength : ℕ) :
    Option JsString :=
  (((scalarText value).map trim).filter isToken).map (·.take maxLength)

/-- `/^[A-Z][A-Z0-9_.-]{2,63}$/.test(text)`. -/
def isCode : JsString → Bool
  | [] => false
  | first :: rest =>
      IsUpper first && 2 ≤ rest.length && rest.length ≤ 63 &&
        rest.all fun unit =>
          IsUpper unit || IsDigit unit || unit ∈ jsString "_.-"

def safeDiagnosticCode (value : AuditValue) : Option JsString :=
  ((safeDiagnosticToken value 64).map upper).filter isCode

/-- The stages that are shown. -/
def diagnosticStages : List JsString :=
  ["asset_context", "preflight", "prepare", "persist_hash", "broadcast",
    "receipt", "projection", "recovery", "validation"]

-- No stage has a letter that is the lower case of a character outside ASCII.
def safeDiagnosticStage (value : AuditValue) : Option JsString :=
  match value with
  | .text shown =>
      if lower shown ∈ diagnosticStages then some (lower shown) else none
  | _ => none

/-- `/^0x[0-9a-fA-F]{64}$/.test(text)`. -/
def isHashText (text : JsString) : Bool :=
  text.take 2 = jsString "0x" && text.length = 66 &&
    (text.drop 2).all (IsHexadecimal ·)

def safeDiagnosticHash (value : AuditValue) : Option JsString :=
  match value with
  | .text shown =>
      if isHashText (trim shown) then some (lower (trim shown)) else none
  | _ => none

/-- The outcome of a failover entry, when it is one of the three known. -/
def failoverOutcome (value : AuditValue) : Option JsString :=
  match value with
  | .text shown =>
      if shown ∈ ([("success"), "failed", "null"] : List JsString) then
        some shown
      else
        none
  | _ => none

/-- `label:outcome` of one failover entry. -/
def failoverEntry (entry : AuditValue) : Option JsString :=
  entry.asRecord.bind fun record =>
    (safeDiagnosticToken (record.get "label") 40).bind fun label =>
      (failoverOutcome (record.get "outcome")).map fun outcome =>
        label ++ jsString ":" ++ outcome

def safeRpcFailover (value : AuditValue) : Option JsString :=
  match value with
  | .array items =>
      if items.filterMap failoverEntry = [] then none
      else some (joinWith ", " (items.filterMap failoverEntry))
  | _ => none

/-! ## Details -/

namespace AuditPresentationEvent

/-- The cleaned type of an event. -/
def type (event : AuditPresentationEvent) : JsString :=
  (safeText event.eventType 120).getD "unknown"

/-- The cleaned status of an event. -/
def statusText (event : AuditPresentationEvent) : JsString :=
  (safeText event.status 60).getD "unknown"

/-- The metadata of an event. -/
def data (event : AuditPresentationEvent) : MetadataRecord :=
  event.metadata.record

end AuditPresentationEvent

def reasonForValidation (value : AuditValue) : JsString :=
  if value.isText "token_amount_cap_exceeded" then
    "The requested token amount exceeds the configured operation cap."
  else if value.isText "missing_or_invalid_uid_or_amount" then
    "Required spend fields were missing or invalid."
  else if value.isText "missing_or_invalid_required_fields" then
    "Required custodial spend fields were missing or invalid."
  else if value.isText "invalid_wallet_address" then
    "The wallet address was invalid."
  else if value.isText "wallet_not_linked" then
    "The wallet is not linked to this eMAID."
  else if value.isText "wallet_identity_mismatch" then
    "The wallet does not match the requested eMAID."
  else if value.isText "missing_identity" then
    "The request did not contain the required eMAID identity."
  else
    "Request validation failed."

/-- What `identityDetails` leaves behind and returns. -/
structure IdentityDetails where
  details : List AuditPresentationDetail
  structuredError : Bool
  message : Option JsString

def identityDetails
    (details : List AuditPresentationDetail)
    (normalisation normalisationError : Option MetadataRecord) :
    IdentityDetails :=
  let normal := MetadataRecord.field normalisation
  let failed := MetadataRecord.field normalisationError
  let protocol :=
    (safeText (normal "protocol") 180).or (safeText (failed "protocol") 180)
  let sourceField := safeText (normal "sourceField") 180
  let sourceFields := safeList (failed "sourceFields")
  let emaid :=
    (safeText (normal "eMAID") 180).or (safeText (normal "emaid") 180)
  let code := safeText (failed "code") 80
  let message := safeText (failed "message") 500
  { details :=
      pushDetails details
        [("Protocol", .ofText? protocol),
          ("Source field used", .ofText? sourceField),
          -- An empty list joins to the empty text, which adds no detail.
          ("Source fields inspected", .text (joinWith ", " sourceFields)),
          ("Normalized eMAID", .ofText? emaid),
          ("Normalisation code", .ofText? code)]
    structuredError :=
      normalisationError.isSome &&
        (protocol.isSome || !sourceFields.isEmpty || code.isSome ||
          message.isSome)
    message := message }

/-- The fields of the metadata that identify what an event is about. -/
def correlationRows (data : MetadataRecord) : List (JsString × AuditValue) :=
  [("eMAID",
      data.firstOf ["eMAID", "emaid", "contractId", "contract_id"]),
    ("Amount",
      .ofText? (safeNumericText (data.firstOf ["amount", "requestedAmount"]))),
    ("Session", data.get "sessionId"),
    ("Provider", data.get "providerId"),
    ("Operation key", data.get "operationKey"),
    ("Reservation", data.get "reservationId"),
    ("Transaction hash",
      data.firstOf
        ["txHash", "transactionHash", "awardTxHash", "reservationTxHash"]),
    ("Funding transaction hash",
      .ofText?
        (safeDiagnosticHash
          (data.firstOf ["fundingTxHash", "funding_tx_hash"]))),
    ("Receipt", data.get "receiptId"),
    ("Stage", data.firstOf ["stage", "failureStage", "failure_stage"]),
    ("Movement outcome",
      data.firstOf ["movementOutcome", "movement_outcome"]),
    ("Error code",
      .ofText?
        (safeDiagnosticCode (data.firstOf ["errorCode", "error_code"])))]

/-- A status of HTTP that may be shown, or `null`. -/
def httpStatusValue (value : AuditValue) : AuditValue :=
  match value with
  | .number (.finite x) =>
      if x.den = 1 ∧ 100 ≤ x ∧ x ≤ 599 then value else .null
  | _ => .null

/-- `/^(?:0|[1-9]\d*)$/.test(text)`. -/
def isCount (text : JsString) : Bool :=
  text = jsString "0" ||
    (text.head?.any fun first => IsDigit first && first ≠ unitOf '0'.toNat) &&
      text.all (IsDigit ·)

/-- The nonce that may be shown, or `null`; reading it can throw. -/
def nonceValue (nonce : AuditValue) : Option AuditValue :=
  match nonce with
  | .undefined => some .null
  | _ =>
      nonce.shown.map fun text =>
        if isCount text then .text text else .null

/-- The fields of a diagnostic that may be shown. -/
def diagnosticRows (diagnostic : MetadataRecord) :
    Option (List (JsString × AuditValue)) :=
  (nonceValue (diagnostic.get "nonce")).map fun nonce =>
    [("Failure stage",
        .ofText? (safeDiagnosticStage (diagnostic.get "stage"))),
      ("RPC method",
        .ofText? (safeDiagnosticToken (diagnostic.get "rpcMethod") 80)),
      ("RPC code",
        .ofText?
          (safeDiagnosticToken
            (diagnostic.firstOf ["rpcCode", "providerCode"]) 32)),
      ("HTTP status", httpStatusValue (diagnostic.get "httpStatus")),
      ("Provider trace",
        .ofText?
          (safeDiagnosticToken
            (diagnostic.firstOf ["traceId", "requestId"]) 80)),
      ("RPC endpoint",
        .ofText?
          (safeDiagnosticToken
            (diagnostic.firstOf ["rpcEndpoint", "endpointLabel"]) 40)),
      ("RPC failover",
        .ofText?
          (safeRpcFailover (diagnostic.firstOf ["rpcFailover", "failover"]))),
      ("Saved transaction hash",
        .ofText? (safeDiagnosticHash (diagnostic.get "savedHash"))),
      ("Nonce", nonce)]

/-- The spellings under which a diagnostic is found, the preferred one first. -/
def diagnosticSpellings : List JsString :=
  ["diagnostic", "diagnostics", "diagnostic_context"]

/-- The details of a diagnostic, unless reading them throws. -/
def addDiagnosticDetails
    (details : List AuditPresentationDetail)
    (value : AuditValue) :
    Option (List AuditPresentationDetail) :=
  match value.asRecord with
  | none => some details
  | some diagnostic => (diagnosticRows diagnostic).map (pushDetails details)

/-- The details of an event behind others, unless reading them throws. -/
def addCorrelationDetails
    (details : List AuditPresentationDetail)
    (event : AuditPresentationEvent)
    (data : MetadataRecord) :
    Option (List AuditPresentationDetail) :=
  let targeted :=
    match safeText event.targetType 100, safeText event.targetId 180 with
    | some targetType, some targetId =>
        pushDetail details ("Target (" ++ targetType ++ ")") (.text targetId)
    | _, _ => details
  addDiagnosticDetails (pushDetails targeted (correlationRows data))
    (data.firstOf diagnosticSpellings)

end Sparkz
