import Sparkz.AwardSession
import Sparkz.RewardPolicy

namespace Sparkz

/-!
# Calculating an award

`awardRules.ts` and `offPeakWindows.ts`.  The floating-point operations, the
zones that the runtime knows and the local time in them are parameters.
-/

open JsonText

/-- The numbers of the runtime. -/
structure NumberOperations where
  /-- `Number(text)`. -/
  ofText : String → JsNumber
  times : JsNumber → JsNumber → JsNumber
  plus : JsNumber → JsNumber → JsNumber
  floor : JsNumber → JsNumber
  /-- `first < second`. -/
  less : JsNumber → JsNumber → Bool
  /-- `first <= second`. -/
  atMost : JsNumber → JsNumber → Bool

/-- The parts of a local time, as the formatter writes them. -/
structure ZonedDateTimeParts where
  year : String
  month : String
  day : String
  hour : String
  minute : String
  second : String
  deriving DecidableEq

/-- What a calculation asks of its runtime. -/
structure CalculationRuntime where
  numbers : NumberOperations
  /-- The name that a formatter for the zone reports, unless it refuses it. -/
  reportedTimeZone : String → Option String
  /-- The local time of an instant in a zone. -/
  zonedParts : Int → String → ZonedDateTimeParts
  sha256 : String → String

def getCountryFromEVSEID (evseId : String) : Except Failure String :=
  match (trimText evseId).toList with
  | first :: second :: _ =>
      if first.isAlpha && second.isAlpha then
        .ok (upperText (String.ofList [first, second]))
      else .error (.error "Could not derive country from evseId")
  | _ => .error (.error "Could not derive country from evseId")

def DEFAULT_TIME_ZONES : List (String × String) :=
  [("DE", "Europe/Berlin"), ("ES", "Europe/Madrid"),
    ("RO", "Europe/Bucharest")]

structure ResolvedTimeZone where
  timeZone : Option String
  source : String
  deriving DecidableEq

section Calculation

variable (runtime : CalculationRuntime)

def canonicalizeIanaTimeZone
    (value source : String) :
    Except Failure String :=
  if value = "" ∨ trimText value ≠ value then
    .error
      (.error (source ++ " must be a valid IANA timezone identifier"))
  else
    match runtime.reportedTimeZone value with
    | some reported => .ok (orText (some reported) value)
    | none =>
        .error
          (.error
            (source ++ " must be a valid IANA timezone identifier: " ++
              value))

def resolveTimeZone
    (country : String)
    (explicitTimeZone explicitSource : Option String) :
    Except Failure ResolvedTimeZone :=
  match explicitTimeZone with
  | some explicit => do
      let source := explicitSource.getD "timeZone"
      let timeZone ← canonicalizeIanaTimeZone runtime explicit source
      return ⟨some timeZone, source⟩
  | none =>
      match InsertionMap.get? (upperText country) DEFAULT_TIME_ZONES with
      | some timeZone => .ok ⟨some timeZone, "country_default"⟩
      | none => .ok ⟨none, "unconfigured"⟩

def getZonedDateTimeParts
    (timestamp : JsDate)
    (timeZone : String) :
    Except Failure ZonedDateTimeParts :=
  match timestamp with
  | none =>
      .error
        (.error "Cannot calculate award from an invalid timestamp")
  | some instant => .ok (runtime.zonedParts instant timeZone)

/-- `parseTimeToMinutes(time)`; a missing part is not a number. -/
def parseTimeToMinutes (time : String) : JsNumber :=
  let parts :=
    (time.toList.splitOn ':').map fun part =>
      runtime.numbers.ofText (String.ofList part)
  let hours := parts[0]?.getD .notANumber
  let minutes := parts[1]?.getD .notANumber
  runtime.numbers.plus (runtime.numbers.times hours (.ofNat 60)) minutes

/-- Whether a window holds a local time, over midnight if it has to. -/
def TimeRange.holds (range : TimeRange) (minutes : JsNumber) : Bool :=
  let startMin := parseTimeToMinutes runtime range.start
  let endMin := parseTimeToMinutes runtime range.finish
  if runtime.numbers.less startMin endMin then
    runtime.numbers.atMost startMin minutes &&
      runtime.numbers.less minutes endMin
  else
    runtime.numbers.atMost startMin minutes ||
      runtime.numbers.less minutes endMin

/-- Whether one of the windows holds the local time. -/
def anyRangeHolds
    (ranges : List TimeRange)
    (localParts : ZonedDateTimeParts) :
    Bool :=
  let numbers := runtime.numbers
  let minutes :=
    numbers.plus
      (numbers.times (numbers.ofText localParts.hour) (.ofNat 60))
      (numbers.ofText localParts.minute)
  ranges.any fun range => range.holds runtime minutes

def isOffPeak
    (state : PolicyState)
    (country : String)
    (timestamp : JsDate)
    (explicitTimeZone : Option String) :
    Except Failure Bool := do
  let countryCode := upperText country
  let ranges := InsertionMap.get? countryCode state.getOffPeakWindows
  let resolved ←
    resolveTimeZone runtime countryCode explicitTimeZone none
  match ranges.getD [] with
  | [] => return false
  | range :: others =>
      match orNull resolved.timeZone with
      | none =>
          throw
            (.error
              ("No IANA timezone configured for country " ++ countryCode ++
                "; provide an explicit timeZone override"))
      | some timeZone =>
          let localParts ←
            getZonedDateTimeParts runtime timestamp timeZone
          return anyRangeHolds runtime (range :: others) localParts

def formatLocalDateTime
    (timestamp : JsDate)
    (timeZone : String) :
    Except Failure String := do
  let localParts ← getZonedDateTimeParts runtime timestamp timeZone
  return localParts.year ++ "-" ++ localParts.month ++ "-" ++
    localParts.day ++ "T" ++ localParts.hour ++ ":" ++
    localParts.minute ++ ":" ++ localParts.second

/-- What a snapshot keeps of a rule. -/
structure SnapshotRule where
  enabled : Bool
  tokensPerKWh : Rate
  deriving DecidableEq

/-- `snapshotValue`: the inputs of a calculation that it records. -/
structure SnapshotValue where
  version : String
  policyRevision : Option Nat
  policyUpdatedAt : Option String
  countryCode : String
  timeZone : Option String
  timeZoneSource : String
  offPeakWindows : List TimeRange
  offPeakCharging : SnapshotRule
  v2gDischarge : SnapshotRule
  deriving DecidableEq

/-- A value, or `null` where there is none. -/
def nullable {α : Type} (json : α → Json NumberText) :
    Option α → Json NumberText
  | none => .null
  | some value => json value

def SnapshotRule.json (rule : SnapshotRule) : Json NumberText :=
  .object
    [("enabled", .bool rule.enabled),
      ("tokensPerKWh", .number rule.tokensPerKWh.shown)]

def SnapshotValue.json (value : SnapshotValue) : Json NumberText :=
  .object
    [("version", .text value.version),
      ("policyRevision",
        nullable (fun revision => .number (.ofNat revision))
          value.policyRevision),
      ("policyUpdatedAt", nullable .text value.policyUpdatedAt),
      ("countryCode", .text value.countryCode),
      ("timeZone", nullable .text value.timeZone),
      ("timeZoneSource", .text value.timeZoneSource),
      ("offPeakWindows",
        .array (value.offPeakWindows.map TimeRange.json)),
      ("offPeakCharging", value.offPeakCharging.json),
      ("v2gDischarge", value.v2gDischarge.json)]

/-- `stableSerialize(snapshotValue)`. -/
def SnapshotValue.text (value : SnapshotValue) : String :=
  String.ofList (stableSerialize value.json)

/-- The snapshot of a calculation. -/
def snapshotValue
    (state : PolicyState)
    (config : AwardRuleConfig)
    (countryCode : String)
    (resolved : ResolvedTimeZone) :
    SnapshotValue where
  version := config.version
  policyRevision := state.policy.map fun policy => policy.revision
  policyUpdatedAt := state.policy.map fun policy => policy.updatedAt
  countryCode := countryCode
  timeZone := resolved.timeZone
  timeZoneSource := resolved.source
  offPeakWindows :=
    (InsertionMap.get? countryCode state.getOffPeakWindows).getD []
  offPeakCharging :=
    ⟨config.rules.offPeakCharging.enabled,
      config.rules.offPeakCharging.tokensPerKWh⟩
  v2gDischarge :=
    ⟨config.rules.v2gDischarge.enabled,
      config.rules.v2gDischarge.tokensPerKWh⟩

structure AwardCalculationContext where
  countryCode : String
  timeZone : Option String
  timeZoneSource : String
  localStartTime : Option String
  eligibilityBasis : String
  isOffPeak : Bool
  awardType : Option AwardType
  configurationSnapshot : String
  configurationFingerprint : String
  deriving DecidableEq

/-- The off-peak evaluation that a session needs. -/
def evaluatedOffPeak
    (state : PolicyState)
    (session : NormalisedSession)
    (config : AwardRuleConfig)
    (countryCode : String)
    (resolved : ResolvedTimeZone) :
    Except Failure Bool :=
  let ranges :=
    (InsertionMap.get? countryCode state.getOffPeakWindows).getD []
  let needsOffPeakEvaluation :=
    session.energyDirection == .charge &&
      config.rules.offPeakCharging.enabled && !ranges.isEmpty
  if needsOffPeakEvaluation then
    isOffPeak runtime state countryCode session.startTime
      resolved.timeZone
  else .ok false

/-- The local start time, in a zone that is known. -/
def localStartTimeIn
    (timestamp : JsDate)
    (resolved : ResolvedTimeZone) :
    Except Failure (Option String) :=
  match orNull resolved.timeZone with
  | some timeZone =>
      (formatLocalDateTime runtime timestamp timeZone).map some
  | none => .ok none

/-- `getAwardCalculationContext(session, rules = getRules())`. -/
def getAwardCalculationContext
    (state : PolicyState)
    (session : NormalisedSession)
    (rules : Option AwardRuleConfig) :
    Except Failure AwardCalculationContext := do
  let config := rules.getD state.getRules
  let countryCode ← getCountryFromEVSEID session.evseId
  let resolved ←
    resolveTimeZone runtime countryCode session.timeZone
      session.timeZoneSource
  let offPeak ←
    evaluatedOffPeak runtime state session config countryCode resolved
  let localStartTime ←
    localStartTimeIn runtime session.startTime resolved
  let eligibilityBasis :=
    if session.energyDirection = .discharge then "discharge"
    else "session_start"
  let awardType :=
    if session.energyDirection = .charge ∧
        config.rules.offPeakCharging.enabled ∧ offPeak then
      some .offPeakCharging
    else if session.energyDirection = .discharge ∧
        config.rules.v2gDischarge.enabled then
      some .v2gDischarge
    else none
  let configurationSnapshot :=
    (snapshotValue state config countryCode resolved).text
  return {
    countryCode
    timeZone := resolved.timeZone
    timeZoneSource := resolved.source
    localStartTime
    eligibilityBasis
    isOffPeak := offPeak
    awardType
    configurationSnapshot
    configurationFingerprint := runtime.sha256 configurationSnapshot }

/-- `getAwardType(session, rules = getRules())`. -/
def getAwardType
    (state : PolicyState)
    (session : NormalisedSession)
    (rules : Option AwardRuleConfig) :
    Except Failure (Option AwardType) :=
  let config := rules.getD state.getRules
  (getAwardCalculationContext runtime state session (some config)).map
    fun context =>
      if config.rules.offPeakCharging.enabled ∧
          session.energyDirection = .charge ∧ context.isOffPeak then
        some .offPeakCharging
      else if config.rules.v2gDischarge.enabled ∧
          session.energyDirection = .discharge then
        some .v2gDischarge
      else none

/-- `Math.floor(session.energyKWh * rule.tokensPerKWh)`. -/
def flooredTokens (energyKWh : JsNumber) (rate : Rate) : JsNumber :=
  runtime.numbers.floor
    (runtime.numbers.times energyKWh
      (runtime.numbers.ofText (String.ofList rate.shown.characters)))

/-- `calculateAwardTokens(session, rules = getRules())`. -/
def calculateAwardTokens
    (state : PolicyState)
    (session : NormalisedSession)
    (rules : Option AwardRuleConfig) :
    Except Failure JsNumber :=
  let config := rules.getD state.getRules
  (getAwardCalculationContext runtime state session (some config)).map
    fun context =>
      let afterOffPeak :=
        if config.rules.offPeakCharging.enabled ∧
            session.energyDirection = .charge ∧ context.isOffPeak then
          runtime.numbers.plus (.ofNat 0)
            (flooredTokens runtime session.energyKWh
              config.rules.offPeakCharging.tokensPerKWh)
        else .ofNat 0
      if config.rules.v2gDischarge.enabled ∧
          session.energyDirection = .discharge then
        runtime.numbers.plus afterOffPeak
          (flooredTokens runtime session.energyKWh
            config.rules.v2gDischarge.tokensPerKWh)
      else afterOffPeak

end Calculation

end Sparkz
