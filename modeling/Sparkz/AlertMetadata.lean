import Sparkz.AuditPresentation

namespace Sparkz

open Utf16 UnitTexts InsertionMap

/-!
# The metadata of an alert

An alert is sent with a projection of the metadata of its event: the scalars
under the listed names, and those of one diagnostic under the listed names of
diagnostics.  A projection that is too long is replaced by a notice.
-/

/-- A scalar of JSON. -/
inductive AlertScalar where
  | null
  | boolean (flag : Bool)
  | number (value : ℚ)
  | text (value : JsString)
  deriving DecidableEq

/-- A value of the projection. -/
inductive AlertValue where
  | scalar (value : AlertScalar)
  | diagnostic (members : List (JsString × AlertScalar))
  deriving DecidableEq

/-- `SAFE_METADATA_KEYS`. -/
def safeMetadataKeys : List JsString :=
  ["amount", "requestedAmount", "eMAID", "emaid", "contractId",
    "contract_id", "sessionId", "providerId", "operationKey",
    "reservationId", "txHash", "transactionHash", "awardTxHash",
    "reservationTxHash", "fundingTxHash", "funding_tx_hash", "receiptId",
    "stage", "failureStage", "failure_stage", "movementOutcome",
    "movement_outcome", "errorCode", "error_code", "protocol",
    "sourceField", "energyDirection", "requestedAt"]

/-- `SAFE_DIAGNOSTIC_KEYS`. -/
def safeDiagnosticKeys : List JsString :=
  ["stage", "rpcMethod", "rpcCode", "providerCode", "httpStatus", "traceId",
    "requestId", "rpcEndpoint", "endpointLabel", "savedHash", "nonce",
    "retryable", "errorCode"]

def safeScalar : AuditValue → AlertScalar
  | .text shown => .text ((trim (withSpaces shown)).take 180)
  | .number (.finite x) => .number x
  | .boolean flag => .boolean flag
  | _ => .null

/-- The scalar that is set for a value: a null stands for a null only. -/
def reported (value : AuditValue) : Option AlertScalar :=
  match value with
  | .null => some .null
  | _ => if safeScalar value = .null then none else some (safeScalar value)

/-- The member that an entry of a diagnostic sets. -/
def diagnosticMember (entry : JsString × AuditValue) :
    Option (JsString × AlertScalar) :=
  if entry.1 ∈ safeDiagnosticKeys then
    (reported entry.2).map fun scalar => (entry.1, scalar)
  else
    none

def safeDiagnostic (value : AuditValue) :
    Option (List (JsString × AlertScalar)) :=
  value.asRecord.bind fun record =>
    let result := assign (record.entries.filterMap diagnosticMember)
    if result = [] then none else some result

/-- The member that an entry of the metadata sets. -/
def metadataMember (entry : JsString × AuditValue) :
    Option (JsString × AlertValue) :=
  if entry.1 ∈ diagnosticSpellings then
    (safeDiagnostic entry.2).map fun diagnostic =>
      ("diagnostic", .diagnostic diagnostic)
  else if entry.1 ∈ safeMetadataKeys then
    (reported entry.2).map fun scalar => (entry.1, .scalar scalar)
  else
    none

/-! ## JSON text -/

/-- The escape of a code unit that is not in a pair of surrogates. -/
def escapedUnit (unit : CodeUnit) : JsString :=
  if unit ∈ jsString "\"\\" then jsString "\\" ++ [unit]
  else if IsHigh unit ∨ IsLow unit then
    jsString ("\\u" ++ String.ofList (Nat.toDigits 16 unit.val))
  else [unit]

/-- The units of a text between its quotes. -/
def escapedUnits : JsString → JsString
  | high :: low :: rest =>
      if IsHigh high ∧ IsLow low then high :: low :: escapedUnits rest
      else escapedUnit high ++ escapedUnits (low :: rest)
  | [unit] => escapedUnit unit
  | [] => []

/-- `JSON.stringify(text)` of a text without control characters. -/
def quoted (text : JsString) : JsString :=
  jsString "\"" ++ escapedUnits text ++ jsString "\""

/-- The text of an object from the texts of its values. -/
def objectText (members : List (JsString × JsString)) : JsString :=
  jsString "\x7b" ++
    joinWith (jsString ",")
      (members.map fun member =>
        quoted member.1 ++ jsString ":" ++ member.2) ++
    jsString "\x7d"

def AlertScalar.json : AlertScalar → JsString
  | .null => "null"
  | .boolean true => "true"
  | .boolean false => "false"
  | .number x => jsString (Double.finite x).shown.text
  | .text shown => quoted shown

def AlertValue.json : AlertValue → JsString
  | .scalar value => value.json
  | .diagnostic members =>
      objectText (members.map fun member => (member.1, member.2.json))

/-- `JSON.stringify(result)`. -/
def stringifyMetadata (members : List (JsString × AlertValue)) : JsString :=
  objectText (members.map fun member => (member.1, member.2.json))

/-- `MAX_METADATA_LENGTH`. -/
def maxMetadataLength : ℕ := 8000

def safeMetadata (metadata : Option MetadataRecord) :
    List (JsString × AlertValue) :=
  let result :=
    assign ((metadata.getD []).entries.filterMap metadataMember)
  if (stringifyMetadata result).length ≤ maxMetadataLength then result
  else
    [("notice", .scalar (.text "Alert metadata truncated for privacy"))]

/-! ## The payload -/

/-- An audit event for which an alert is sent. -/
structure AdminAlertEvent where
  eventType : JsString
  actorType : JsString
  actorId : Option JsString
  targetType : Option JsString
  targetId : Option JsString
  status : JsString
  metadata : Option MetadataRecord

/-- What is sent of an alert. -/
structure AlertPayload where
  recipient : JsString
  subject : JsString
  eventType : JsString
  status : JsString
  actorType : JsString
  actorId : Option JsString
  targetType : Option JsString
  targetId : Option JsString
  metadata : List (JsString × AlertValue)
  createdAt : JsString

/-- `alertPayload(data, recipient)` at a time. -/
def alertPayload
    (data : AdminAlertEvent)
    (recipient createdAt : JsString) :
    AlertPayload where
  recipient := recipient
  subject :=
    jsString "NEVERFLAT " ++ data.status ++ jsString ": " ++ data.eventType
  eventType := data.eventType
  status := data.status
  actorType := data.actorType
  actorId := data.actorId.filter (· ≠ [])
  targetType := data.targetType.filter (· ≠ [])
  targetId := data.targetId.filter (· ≠ [])
  metadata := safeMetadata data.metadata
  createdAt := createdAt

end Sparkz
