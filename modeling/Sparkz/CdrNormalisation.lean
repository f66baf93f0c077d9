import Sparkz.AwardCalculation
import Sparkz.CdrEnergy
import Sparkz.CdrOwnership

namespace Sparkz

open JsonText

/-!
# Normalisation of charge detail records

`normaliseSession` and `validateAndNormaliseCdr` of `normaliser.ts`.  What
`new Date` makes of a text and the current time are parameters.
-/

/-- The dates of the runtime. -/
structure CdrClock where
  /-- `new Date(text)`. -/
  dateOf : String → JsDate
  /-- `Date.now()`. -/
  now : Int

/-- What the normaliser throws. -/
inductive CdrFailure where
  | identity : CdrNormalisationError → CdrFailure
  | failure : Failure → CdrFailure
  deriving DecidableEq

/-- `new Error(message)`. -/
def CdrFailure.error (message : String) : CdrFailure :=
  .failure (.error message)

/-! ## Values as texts -/

mutual

/-- `String(value)`, which fails on an object that hides `toString`. -/
def stringOf : CdrValue → Except CdrFailure String
  | .null => .ok "null"
  | .bool flag => .ok (toString flag)
  | .number number => .ok number.text
  | .text text => .ok text
  | .array items =>
      (stringsOf items).map fun texts => ",".intercalate texts
  | .object fields =>
      if (InsertionMap.get? "toString" fields).isSome then
        .error (.error "Cannot convert object to primitive value")
      else .ok "[object Object]"

/-- The items of an array as `join` writes them. -/
def stringsOf : List CdrValue → Except CdrFailure (List String)
  | [] => .ok []
  | .null :: items => (stringsOf items).map fun texts => "" :: texts
  | item :: items =>
      match stringOf item with
      | .error failure => .error failure
      | .ok text => (stringsOf items).map fun texts => text :: texts

end

/-- `String(value).trim().toLowerCase()`. -/
def conditionText (value : CdrValue) : Except CdrFailure String :=
  (stringOf value).map fun text => lowerText (trimText text)

/-- `first ?? second`. -/
def orElseNullish (first second : Option CdrValue) : Option CdrValue :=
  match first with
  | none | some .null => second
  | present => present

def stringValue
    (value : CdrValue)
    (fieldName : String) :
    Except CdrFailure String :=
  let nonBlank (text : String) :=
    if trimText text = "" then
      .error (.error (fieldName ++ " is required"))
    else .ok text
  match value with
  | .text text => nonBlank text
  | .number number => nonBlank number.text
  | _ => .error (.error (fieldName ++ " must be a scalar value"))

/-- The first of the values at some paths that is present. -/
def firstPresent
    (input : UnknownRecord)
    (paths : List (List String)) :
    Option (String × CdrValue) :=
  paths.findSome? (presentAt input)

/-! ## Kinds of records -/

def creditUnsupported : CdrFailure :=
  .error "credit/correction CDRs are unsupported by award logic"

/-- The credit flag, if it is there, is false. -/
def rejectCredit (credit : Option CdrValue) : Except CdrFailure Unit :=
  match credit with
  | none => .ok ()
  | some value =>
      if hasCdrValue credit then do
        let text ← conditionText value
        if text = "true" then throw creditUnsupported
        else if text ≠ "false" then
          throw (.error "credit flag must be boolean")
        else return ()
      else .ok ()

/-- A value that must be absent. -/
def rejectPresent (value : Option CdrValue) : Except CdrFailure Unit :=
  if hasCdrValue value then .error creditUnsupported else .ok ()

/-- A value that must not be one of these words. -/
def rejectWords
    (words : List String)
    (value : Option CdrValue) :
    Except CdrFailure Unit :=
  match value with
  | none => .ok ()
  | some present =>
      if hasCdrValue value then do
        let text ← conditionText present
        if text ∈ words then throw creditUnsupported else return ()
      else .ok ()

def rejectUnsupportedCdrKind
    (input : UnknownRecord) :
    Except CdrFailure Unit := do
  rejectCredit (input.read "credit")
  rejectPresent (input.read "credit_reference_id")
  rejectPresent
    (orElseNullish (input.read "correction_reference_id")
      (input.read "CorrectionReferenceID"))
  rejectWords ["true"]
    (orElseNullish (input.read "correction")
      (orElseNullish (input.read "Correction")
        (orElseNullish (input.read "is_correction")
          (input.read "isCorrection"))))
  rejectWords ["credit", "correction"]
    (orElseNullish (input.read "Operation Status")
      (orElseNullish (input.read "OperationStatus")
        (input.read "operation_status")))

/-! ## Dates -/

/-- A number of so many digits, and what follows it. -/
def readNumber
    (count : Nat)
    (characters : List Char) :
    Option (Nat × List Char) :=
  let digits := characters.take count
  if digits.length = count ∧ digits.all Char.isDigit then
    some (Nat.ofDigitChars 10 digits 0, characters.drop count)
  else none

/-- A number after a mark. -/
def readMarked
    (mark : Char)
    (count : Nat) :
    List Char → Option (Nat × List Char)
  | [] => none
  | first :: rest =>
      if first = mark then readNumber count rest else none

/-- What follows one to nine digits of a fraction, if there is one. -/
def skipFraction : List Char → Option (List Char)
  | '.' :: rest =>
      let digits := rest.takeWhile Char.isDigit
      if 1 ≤ digits.length ∧ digits.length ≤ 9 then
        some (rest.drop digits.length)
      else none
  | characters => some characters

/-- The seconds, if there are any, and what follows them. -/
def readSeconds (characters : List Char) : Option (Nat × List Char) :=
  match characters with
  | ':' :: _ => do
      let (second, rest) ← readMarked ':' 2 characters
      let rest ← skipFraction rest
      return (second, rest)
  | _ => some (0, characters)

/-- The hours and minutes of an offset. -/
def readOffset (characters : List Char) : Option (Nat × Nat) :=
  match characters with
  | ['Z'] => some (0, 0)
  | '+' :: rest | '-' :: rest => do
      let (hours, rest) ← readNumber 2 rest
      let (minutes, rest) ← readMarked ':' 2 rest
      if rest = [] then some (hours, minutes) else none
  | _ => none

/-- The numbers of a date and time with an offset. -/
structure TimestampParts where
  year : Nat
  month : Nat
  day : Nat
  hour : Nat
  minute : Nat
  second : Nat
  offsetHours : Nat
  offsetMinutes : Nat
  deriving DecidableEq

/-- `ISO8601_DATE_TIME_WITH_OFFSET`. -/
def readTimestamp (text : String) : Option TimestampParts := do
  let (year, rest) ← readNumber 4 text.toList
  let (month, rest) ← readMarked '-' 2 rest
  let (day, rest) ← readMarked '-' 2 rest
  let (hour, rest) ← readMarked 'T' 2 rest
  let (minute, rest) ← readMarked ':' 2 rest
  let (second, rest) ← readSeconds rest
  let (offsetHours, offsetMinutes) ← readOffset rest
  return { year, month, day, hour, minute, second, offsetHours,
           offsetMinutes }

/-- The days of a month. -/
def daysInMonth (year month : Nat) : Nat :=
  let leapYear :=
    year % 4 = 0 ∧ (year % 100 ≠ 0 ∨ year % 400 = 0)
  [31, if leapYear then 29 else 28, 31, 30, 31, 30, 31, 31, 30, 31, 30,
    31].getD (month - 1) 0

/-- A date of the calendar, and an offset that exists. -/
def TimestampParts.isValid (parts : TimestampParts) : Bool :=
  1 ≤ parts.month && parts.month ≤ 12 && 1 ≤ parts.day &&
    parts.day ≤ daysInMonth parts.year parts.month &&
    parts.hour ≤ 23 && parts.minute ≤ 59 && parts.second ≤ 59 &&
    parts.offsetHours ≤ 23 && parts.offsetMinutes ≤ 59

/-- A text of a number, which no date is. -/
def isSerialNumber (text : String) : Bool :=
  let (_, numeral) := splitSign text.toList
  let parts := numeral.splitOn '.'
  parts.length ≤ 2 &&
    parts.all fun part => part != [] && part.all Char.isDigit

section Sessions

variable (runtime : CalculationRuntime) (clock : CdrClock)

def parseDateValue
    (value : CdrValue)
    (fieldName : String) :
    Except CdrFailure Int :=
  let invalid (reason : String) : Except CdrFailure Int :=
    .error (.error ("Invalid " ++ fieldName ++ ": " ++ reason))
  let serial :=
    invalid
      ("Excel serial and numeric timestamps are unsupported; use an " ++
        "ISO8601 date-time with an explicit timezone offset (Z or ±HH:MM)")
  let parseText (text : String) :=
    if text = "" then invalid "timestamp is empty"
    else if isSerialNumber text then serial
    else
      match readTimestamp text with
      | none =>
          invalid
            ("timestamp must be ISO8601 with an explicit timezone offset " ++
              "(Z or ±HH:MM)")
      | some parts =>
          if parts.isValid then
            match clock.dateOf text with
            | none => invalid "invalid timestamp"
            | some date => .ok date
          else invalid "invalid calendar date or timezone offset"
  match value with
  | .number _ => serial
  | .text text => parseText (trimText text)
  | .bool flag => parseText (toString flag)
  | _ =>
      invalid
        ("timestamp must be an ISO8601 date-time with an explicit " ++
          "timezone offset")

/-- The zones that a record may give, in their order. -/
def timeZonePaths : List (List String) :=
  [["timeZone"], ["custom_data", "time_zone"],
    ["cdr_location", "time_zone"]]

/-- The canonical zone of a value. -/
def canonicalZoneOf
    (value : CdrValue)
    (source : String) :
    Except CdrFailure String :=
  match value with
  | .text text =>
      (canonicalizeIanaTimeZone runtime text source).mapError
        CdrFailure.failure
  | _ => .error (.error (source ++ " must be a valid IANA timezone identifier"))

/-- One more zone must be the one that was selected. -/
def selectZone
    (input : UnknownRecord)
    (selected : Option (String × String))
    (path : List String) :
    Except CdrFailure (Option (String × String)) :=
  match presentAt input path with
  | none => .ok selected
  | some (source, present) => do
      let value ← canonicalZoneOf runtime present source
      match selected with
      | none => return some (source, value)
      | some (first, chosen) =>
          if chosen ≠ value then
            throw
              (.error
                ("contradictory timezone overrides: " ++ first ++ " and " ++
                  source))
          else return selected

def resolveCdrTimeZone
    (input : UnknownRecord) :
    Except CdrFailure (Option (String × String)) :=
  timeZonePaths.foldlM (selectZone runtime input) none

def getProviderValue (input : UnknownRecord) : Option (String × CdrValue) :=
  firstPresent input
    [["ProviderID"], ["providerId"], ["provider"], ["HubProviderID"],
      ["provider_id"], ["custom_data", "provider_id"], ["party_id"]]

def getStartTimeValue (input : UnknownRecord) : Option (String × CdrValue) :=
  firstPresent input
    [["Session Start"], ["SessionStart"], ["Charging Start"],
      ["ChargingStart"], ["StartTime"], ["timestamp"], ["start_date_time"]]

def getEndTimeValue (input : UnknownRecord) : Option (String × CdrValue) :=
  firstPresent input
    [["Session End"], ["SessionEnd"], ["Charging End"], ["ChargingEnd"],
      ["EndTime"], ["end_date_time"]]

def getEnergyValue (input : UnknownRecord) : Option (String × CdrValue) :=
  firstPresent input
    [["Consumed Energy"], ["ConsumedEnergy"], ["Energy"],
      ["chargedEnergyKwh"], ["charged"], ["total_energy"]]

def getDirectionValue (input : UnknownRecord) : Option (String × CdrValue) :=
  firstPresent input
    [["EnergyDirection"], ["energyDirection"], ["energy_direction"]]

def getSessionValue (input : UnknownRecord) : Option (String × CdrValue) :=
  firstPresent input [["SessionID"], ["sessionId"], ["id"], ["session_id"]]

def getEvseValue (input : UnknownRecord) : Option (String × CdrValue) :=
  firstPresent input
    [["EVSEID"], ["EvseID"], ["evseId"], ["evse"],
      ["cdr_location", "evse_id"], ["cdr_location_evse_id"], ["evse_id"]]

/-- A field value as the energy parser sees it. -/
def CdrValue.body : Option (String × CdrValue) → BodyValue
  | none => .absent
  | some (_, .text text) => .text text
  | some (_, .number number) => .number number
  | some (_, .bool flag) => .other flag (toString flag)
  | some _ => .other true ""

/-- A value that has to be there, as a text. -/
def requiredString
    (value : Option (String × CdrValue))
    (fieldName : String) :
    Except CdrFailure String :=
  match value with
  | none => .error (.error (fieldName ++ " is required"))
  | some (_, present) => stringValue present fieldName

/-- A value that may be left out, as a text. -/
def optionalString
    (value : Option (String × CdrValue))
    (fieldName : String) :
    Except CdrFailure (Option String) :=
  match value with
  | none => .ok none
  | some (_, present) => (stringValue present fieldName).map some

/-- A date that may be left out. -/
def dateOr
    (value : Option (String × CdrValue))
    (fieldName : String)
    (fallback : Int) :
    Except CdrFailure Int :=
  match value with
  | none => .ok fallback
  | some (_, present) => parseDateValue clock present fieldName

/-- The metadata of a token, as its JSON text. -/
def NonOwningTokenMetadata.text
    (metadata : NonOwningTokenMetadata) :
    String :=
  let field (name : String) (value : Option String) :=
    (value.map fun text => (name, Json.text (ν := NumberText) text)).toList
  String.ofList
    (stableSerialize
      (.object
        (field "uid" metadata.uid ++ field "type" metadata.type ++
          field "countryCode" metadata.countryCode ++
          field "partyId" metadata.partyId ++
          field "variant" metadata.variant)))

/-- `first.getTime() < second.getTime()`. -/
def isBefore : JsDate → JsDate → Bool
  | some first, some second => first < second
  | _, _ => false

/-- An end time must not be before a start time. -/
def rejectReversed
    (startTime endTime : JsDate) :
    Except CdrFailure Unit :=
  if isBefore endTime startTime then
    .error (.error "end time must not be before start time")
  else .ok ()

def normaliseSession
    (raw : CdrValue) :
    Except CdrFailure NormalisedSession :=
  match recordOf (some raw) with
  | none => .error (.error "CDR request body must be a JSON object")
  | some input => do
      rejectUnsupportedCdrKind input
      let zone ← resolveCdrTimeZone runtime input
      let sessionId ← requiredString (getSessionValue input) "sessionId"
      let providerId ← requiredString (getProviderValue input) "providerId"
      let identity ← (resolveEmaid input).mapError CdrFailure.identity
      let evseId ← requiredString (getEvseValue input) "evseId"
      let startTime ←
        dateOr clock (getStartTimeValue input) "startTime" clock.now
      let endTime ← dateOr clock (getEndTimeValue input) "endTime" startTime
      rejectReversed (some startTime) (some endTime)
      let energy ←
        (normaliseEnergy (CdrValue.body (getEnergyValue input))
          (CdrValue.body (getDirectionValue input))).mapError
          CdrFailure.failure
      let wireSession := firstPresent input [["session_id"]]
      let wireId := firstPresent input [["id"]]
      let fromId :=
        (getSessionValue input).any (fun value => value.1 == "id") &&
          wireSession.isSome
      let reservationSessionId ←
        optionalString (if fromId then wireSession else none)
          "reservationSessionId"
      let cdrId ← optionalString (if fromId then wireId else none) "cdrId"
      let isOcpi := [CdrProtocol.ocpi, .mixed].contains identity.protocol
      let chargingSessionId ←
        optionalString
          (if isOcpi && wireId.isSome then wireSession else none)
          "chargingSessionId"
      return {
        sessionId
        providerId
        eMAID := some identity.eMAID
        emaid := some identity.eMAID
        protocol := some identity.protocol
        sourceField := some identity.sourceField
        tokenMetadata :=
          identity.tokenMetadata.map NonOwningTokenMetadata.text
        uid := identity.eMAID
        evseId
        startTime := some startTime
        endTime := some endTime
        energyKWh := energy.1
        energyDirection := energy.2
        cdrId
        reservationSessionId
        chargingSessionId
        timeZone := zone.map Prod.snd
        timeZoneSource := zone.map Prod.fst }

/-- A date that has to be there. -/
def requireDate
    (value : Option (String × CdrValue))
    (fieldName missing : String) :
    Except CdrFailure Unit :=
  match value with
  | none => .error (.error missing)
  | some (_, present) =>
      (parseDateValue clock present fieldName).map fun _ => ()

/-- An explicit direction is one of the two. -/
def requireDirection
    (value : Option (String × CdrValue)) :
    Except CdrFailure Unit :=
  match value with
  | none | some (_, .text "CHARGE") | some (_, .text "DISCHARGE") => .ok ()
  | some _ =>
      .error (.error "energy direction must be CHARGE or DISCHARGE")

def requireEnergy
    (value : Option (String × CdrValue)) :
    Except CdrFailure Unit :=
  match value with
  | none => .error (.error "energy is required (Energy or total_energy)")
  | some _ => .ok ()

def rejectNonFinite (energyKWh : JsNumber) : Except CdrFailure Unit :=
  if energyKWh.isFinite then .ok ()
  else .error (.error "energy must be a finite number")

/-- `validateAndNormaliseCdr(raw)`. -/
def validateAndNormaliseCdr
    (raw : CdrValue) :
    Except CdrFailure NormalisedSession :=
  match recordOf (some raw) with
  | none => .error (.error "CDR request body must be a JSON object")
  | some input => do
      rejectUnsupportedCdrKind input
      requireDate clock (getStartTimeValue input) "startTime"
        "start time is required (StartTime or start_date_time)"
      requireDate clock (getEndTimeValue input) "endTime"
        "end time is required (EndTime or end_date_time)"
      requireEnergy (getEnergyValue input)
      requireDirection (getDirectionValue input)
      let normalised ← normaliseSession runtime clock raw
      rejectNonFinite normalised.energyKWh
      rejectReversed normalised.startTime normalised.endTime
      return normalised

end Sessions

end Sparkz
