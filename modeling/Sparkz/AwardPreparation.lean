import Sparkz.AwardReproduction
import Sparkz.CdrNormalisation
import Sparkz.RewardPolicyValidation

namespace Sparkz

open JsonText

/-!
# Preparing an award

`prepareAward`, `getDeduplicationKey` and `formatLocalTime`.  A validated
policy is usable when none of them throws for a session whose zone is known,
and when the deduplication key is made of the session alone.
-/

namespace AwardPreparation

/-! ## Deduplication keys -/

/-- What every object inherits, as a text shows it. -/
def objectPrototype : List (String × String) :=
  [("constructor", "function Object() \x7b [native code] \x7d"),
    ("__proto__", "[object Object]")] ++
  ["__defineGetter__", "__defineSetter__", "__lookupGetter__",
    "__lookupSetter__", "hasOwnProperty", "isPrototypeOf",
    "propertyIsEnumerable", "toLocaleString", "toString", "valueOf"].map
    fun name => (name, "function " ++ name ++ "() \x7b [native code] \x7d")

/-- A part of a key: a text of the session, or something inherited. -/
inductive KeyPart where
  | text : String → KeyPart
  | inherited : String → KeyPart
  deriving DecidableEq

/-- What `join` makes of a part. -/
def KeyPart.shown : KeyPart → String
  | .text content => content
  | .inherited name =>
      (InsertionMap.get? name objectPrototype).getD ""

/-- `valuesByKey[key]`, where `key in valuesByKey`. -/
def keyPart
    (session : NormalisedSession)
    (key : String) :
    Except Failure KeyPart :=
  if key = "sessionId" then .ok (.text session.sessionId)
  else if key = "providerId" then .ok (.text session.providerId)
  else if (InsertionMap.get? key objectPrototype).isSome then
    .ok (.inherited key)
  else .error (.error ("Unknown deduplication key: " ++ key))

/-- `keyParts`. -/
def keyPartsOf
    (session : NormalisedSession)
    (rules : AwardRuleConfig) :
    Except Failure (List KeyPart) :=
  rules.idempotency.deduplicationKey.mapM (keyPart session)

/-- `keyParts.join('-')`. -/
def joinedParts (parts : List KeyPart) : String :=
  "-".intercalate (parts.map KeyPart.shown)

def getDeduplicationKey
    (state : PolicyState)
    (session : NormalisedSession)
    (rules : Option AwardRuleConfig) :
    Except Failure String :=
  (keyPartsOf session (rules.getD state.getRules)).map joinedParts

/-! ## Local times -/

/-- The local time of the server, where no zone is given. -/
structure ServerTime where
  hours : Int → Nat
  minutes : Int → Nat

/-- `String(value).padStart(2, '0')`. -/
def padTimePart (value : Nat) : String :=
  if value < 10 then "0" ++ toString value else toString value

section Preparation

variable (runtime : CalculationRuntime) (server : ServerTime)

def formatLocalTime
    (date : JsDate)
    (timeZone : Option String) :
    Except Failure String :=
  match timeZone with
  | some timeZone => do
      let canonicalTimeZone ←
        canonicalizeIanaTimeZone runtime timeZone "timeZone"
      let localParts ←
        getZonedDateTimeParts runtime date canonicalTimeZone
      return localParts.hour ++ ":" ++ localParts.minute
  | none =>
      match date with
      | none => .ok "NaN:NaN"
      | some instant =>
          .ok
            (padTimePart (server.hours instant) ++ ":" ++
              padTimePart (server.minutes instant))

/-- `prepareAward(session)`. -/
def prepareAward
    (state : PolicyState)
    (session : NormalisedSession) :
    Except Failure AwardResult := do
  let calculationContext ←
    getAwardCalculationContext runtime state session none
  let amount ← calculateAwardTokens runtime state session none
  let dedupKey ← getDeduplicationKey state session none
  let localTime ←
    formatLocalTime runtime server session.startTime
      (orNull calculationContext.timeZone)
  return {
    eligible := amount.isPositive
    amount
    uid := session.uid
    dedupKey
    metadata :=
      some {
        isOffPeak := calculationContext.isOffPeak
        countryCode := calculationContext.countryCode
        localTime
        energyDirection := session.energyDirection
        awardType := calculationContext.awardType.getD .offPeakCharging
        timeZone := calculationContext.timeZone
        timeZoneSource := some calculationContext.timeZoneSource
        localStartTime := calculationContext.localStartTime
        eligibilityBasis := some calculationContext.eligibilityBasis
        configurationSnapshot :=
          some calculationContext.configurationSnapshot
        configurationFingerprint :=
          some calculationContext.configurationFingerprint } }

end Preparation

/-! ## What the normaliser returns -/

section Usable

variable
  {runtime : CalculationRuntime}
  {clock : CdrClock}
  {server : ServerTime}
  {state : PolicyState}
  {session : NormalisedSession}
  {raw : CdrValue}

/-- A session that is normalised has its times and a normalised energy. -/
theorem measured_of_normaliseSession
    (normalised : normaliseSession runtime clock raw = .ok session) :
    ∃ startTime endTime energyValue direction,
      session.startTime = some startTime ∧
        session.endTime = some endTime ∧
        normaliseEnergy energyValue direction =
          .ok (session.energyKWh, session.energyDirection) := by
  unfold normaliseSession at normalised
  rcases isRecord : recordOf (some raw) with _ | input
  · rw [isRecord] at normalised
    cases normalised
  · rw [isRecord] at normalised
    obtain ⟨_, _, normalised⟩ := Except.bind_eq_ok normalised
    obtain ⟨_, _, normalised⟩ := Except.bind_eq_ok normalised
    obtain ⟨_, _, normalised⟩ := Except.bind_eq_ok normalised
    obtain ⟨_, _, normalised⟩ := Except.bind_eq_ok normalised
    obtain ⟨_, _, normalised⟩ := Except.bind_eq_ok normalised
    obtain ⟨_, _, normalised⟩ := Except.bind_eq_ok normalised
    obtain ⟨startTime, _, normalised⟩ := Except.bind_eq_ok normalised
    obtain ⟨endTime, _, normalised⟩ := Except.bind_eq_ok normalised
    obtain ⟨_, _, normalised⟩ := Except.bind_eq_ok normalised
    obtain ⟨energy, isEnergy, normalised⟩ := Except.bind_eq_ok normalised
    obtain ⟨_, _, normalised⟩ := Except.bind_eq_ok normalised
    obtain ⟨_, _, normalised⟩ := Except.bind_eq_ok normalised
    obtain ⟨_, _, normalised⟩ := Except.bind_eq_ok normalised
    rw [← Except.ok.inj normalised]
    exact
      ⟨startTime, endTime, _, _, rfl, rfl, Except.mapError_eq_ok isEnergy⟩

/-- A session that is normalised has a start time. -/
theorem startTime_of_normaliseSession
    (normalised : normaliseSession runtime clock raw = .ok session) :
    ∃ instant, session.startTime = some instant := by
  obtain ⟨startTime, _, _, _, isStart, _⟩ :=
    measured_of_normaliseSession normalised
  exact ⟨startTime, isStart⟩

/-- A validated session is a normalised one. -/
theorem normaliseSession_of_validate
    (validated :
      validateAndNormaliseCdr runtime clock raw = .ok session) :
    normaliseSession runtime clock raw = .ok session := by
  unfold validateAndNormaliseCdr at validated
  rcases isRecord : recordOf (some raw) with _ | input
  · rw [isRecord] at validated
    cases validated
  · rw [isRecord] at validated
    obtain ⟨_, _, validated⟩ := Except.bind_eq_ok validated
    obtain ⟨_, _, validated⟩ := Except.bind_eq_ok validated
    obtain ⟨_, _, validated⟩ := Except.bind_eq_ok validated
    obtain ⟨_, _, validated⟩ := Except.bind_eq_ok validated
    obtain ⟨_, _, validated⟩ := Except.bind_eq_ok validated
    obtain ⟨normalised, isNormalised, validated⟩ :=
      Except.bind_eq_ok validated
    obtain ⟨_, _, validated⟩ := Except.bind_eq_ok validated
    obtain ⟨_, _, validated⟩ := Except.bind_eq_ok validated
    rw [← Except.ok.inj validated]
    exact isNormalised

/-- The zone of the country of a session is known to the runtime. -/
structure HasZone
    (runtime : CalculationRuntime)
    (session : NormalisedSession)
    (country : String)
    (resolved : ResolvedTimeZone)
    (timeZone canonical : String) :
    Prop where
  isCountry : getCountryFromEVSEID session.evseId = .ok country
  isResolved :
    resolveTimeZone runtime country session.timeZone
      session.timeZoneSource = .ok resolved
  isZone : orNull resolved.timeZone = some timeZone
  isCanonical :
    canonicalizeIanaTimeZone runtime timeZone "timeZone" = .ok canonical

variable
  {country timeZone canonical : String}
  {resolved : ResolvedTimeZone}
  {instant : Int}
  {rules : Option AwardRuleConfig}

/-- A zone that was canonicalised is not empty. -/
theorem canonical_ne_empty
    {value source : String}
    (isCanonical :
      canonicalizeIanaTimeZone runtime value source = .ok canonical) :
    canonical ≠ "" := by
  unfold canonicalizeIanaTimeZone at isCanonical
  split_ifs at isCanonical with isBad
  rcases isReported : runtime.reportedTimeZone value with _ | reported
  · simp only [isReported] at isCanonical
    cases isCanonical
  · simp only [isReported] at isCanonical
    rw [← Except.ok.inj isCanonical]
    push Not at isBad
    rcases isText : orNull (some reported) with _ | text
    · rw [orText, isText]
      exact isBad.1
    · rw [orText, isText]
      exact (orNull_eq_some.mp isText).2

/-- A zone that was resolved is resolved again. -/
theorem HasZone.resolves
    (hasZone :
      HasZone runtime session country resolved timeZone canonical) :
    resolveTimeZone runtime (upperText country) resolved.timeZone none =
      .ok ⟨some canonical, "timeZone"⟩ := by
  rw [(orNull_eq_some.mp hasZone.isZone).1]
  unfold resolveTimeZone
  simp only [Option.getD_none, hasZone.isCanonical]
  rfl

/-- Whether a session with a known zone is off-peak is decided. -/
theorem isOffPeak_total
    (hasZone : HasZone runtime session country resolved timeZone canonical)
    (isStart : session.startTime = some instant) :
    ∃ offPeak,
      isOffPeak runtime state country session.startTime
        resolved.timeZone = .ok offPeak := by
  have isCanonical : orNull (some canonical) = some canonical :=
    orNull_eq_some.mpr ⟨rfl, canonical_ne_empty hasZone.isCanonical⟩
  rw [isStart]
  unfold isOffPeak
  simp only [hasZone.resolves, bind, Except.bind, isCanonical]
  rcases (InsertionMap.get? (upperText country)
      state.getOffPeakWindows).getD [] with _ | ⟨range, others⟩
  · exact ⟨_, rfl⟩
  · exact ⟨_, rfl⟩

/-- The context of a session with a known zone is calculated. -/
theorem context_total
    (hasZone : HasZone runtime session country resolved timeZone canonical)
    (isStart : session.startTime = some instant) :
    ∃ context,
      getAwardCalculationContext runtime state session rules =
          .ok context ∧
        context.timeZone = resolved.timeZone := by
  obtain ⟨offPeak, isOffPeak⟩ :=
    @isOffPeak_total _ state _ _ _ _ _ _ hasZone isStart
  have isEvaluated :
      ∃ evaluated,
        evaluatedOffPeak runtime state session
          (rules.getD state.getRules) country resolved = .ok evaluated := by
    unfold evaluatedOffPeak
    dsimp only
    split_ifs
    · exact ⟨offPeak, isOffPeak⟩
    · exact ⟨false, rfl⟩
  obtain ⟨evaluated, isEvaluated⟩ := isEvaluated
  have isLocal :
      ∃ localStartTime,
        localStartTimeIn runtime session.startTime resolved =
          .ok localStartTime := by
    unfold localStartTimeIn
    rw [hasZone.isZone, isStart]
    exact ⟨_, rfl⟩
  obtain ⟨localStartTime, isLocal⟩ := isLocal
  unfold getAwardCalculationContext
  simp only [hasZone.isCountry, hasZone.isResolved, isEvaluated, isLocal,
    bind, Except.bind]
  exact ⟨_, rfl, rfl⟩

/-! ## Usable policies -/

/-- A key that names one of the two values. -/
def IsKnownKey (key : String) : Prop :=
  key = "sessionId" ∨ key = "providerId"

/-- A key made of nothing but the session and the provider. -/
def IsBuiltFrom
    (session : NormalisedSession)
    (rules : AwardRuleConfig)
    (dedupKey : String) :
    Prop :=
  ∃ parts,
    keyPartsOf session rules = .ok parts ∧
      dedupKey = joinedParts parts ∧
      ∀ part ∈ parts,
        part = .text session.sessionId ∨ part = .text session.providerId

/-- A key part is a text of the session exactly when its key is known. -/
theorem keyPart_text_iff {key : String} :
    (∃ part, keyPart session key = .ok part ∧
        (part = .text session.sessionId ∨
          part = .text session.providerId)) ↔
      IsKnownKey key := by
  unfold keyPart IsKnownKey
  by_cases isSession : key = "sessionId"
  · simp [isSession]
  · by_cases isProvider : key = "providerId"
    · simp [isProvider]
    · simp only [isSession, isProvider, if_false, or_false, iff_false]
      rintro ⟨part, isPart, isText⟩
      split_ifs at isPart
      rw [← Except.ok.inj isPart] at isText
      rcases isText with isText | isText
      · cases isText
      · cases isText

/-- A key is built from the session exactly when all its parts are known. -/
theorem builtFrom_iff {rules : AwardRuleConfig} :
    (∃ dedupKey, IsBuiltFrom session rules dedupKey) ↔
      ∀ key ∈ rules.idempotency.deduplicationKey, IsKnownKey key := by
  unfold IsBuiltFrom keyPartsOf
  constructor
  · rintro ⟨_, parts, areParts, -, areTexts⟩
    rw [mapM_ok] at areParts
    generalize rules.idempotency.deduplicationKey = keys at areParts
    induction areParts with
    | nil =>
        simp
    | cons isPart _ inductionHypothesis =>
        rw [List.forall_mem_cons] at areTexts ⊢
        exact
          ⟨keyPart_text_iff.mp ⟨_, isPart, areTexts.1⟩,
            inductionHypothesis areTexts.2⟩
  · intro areKnown
    suffices someParts :
        ∃ parts,
          rules.idempotency.deduplicationKey.mapM (keyPart session) =
              .ok parts ∧
            ∀ part ∈ parts,
              part = .text session.sessionId ∨
                part = .text session.providerId by
      obtain ⟨parts, areParts, areTexts⟩ := someParts
      exact ⟨_, parts, areParts, rfl, areTexts⟩
    generalize rules.idempotency.deduplicationKey = keys at areKnown
    induction keys with
    | nil =>
        exact ⟨[], rfl, by simp⟩
    | cons key keys inductionHypothesis =>
        rw [List.forall_mem_cons] at areKnown
        obtain ⟨part, isPart, isText⟩ :=
          (@keyPart_text_iff session key).mpr areKnown.1
        obtain ⟨parts, areParts, areTexts⟩ :=
          inductionHypothesis areKnown.2
        refine ⟨part :: parts, ?_, ?_⟩
        · rw [List.mapM_cons, isPart, areParts]
          rfl
        · exact List.forall_mem_cons.mpr ⟨isText, areTexts⟩

/-- No consumer throws, and the key is built from the session alone. -/
structure IsUsable
    (runtime : CalculationRuntime)
    (server : ServerTime)
    (state : PolicyState)
    (session : NormalisedSession) :
    Prop where
  key :
    ∃ dedupKey,
      getDeduplicationKey state session none = .ok dedupKey ∧
        IsBuiltFrom session state.getRules dedupKey
  award : ∃ award, prepareAward runtime server state session = .ok award
  context :
    ∃ context,
      getAwardCalculationContext runtime state session none = .ok context

/-- With its context and its key an award is prepared. -/
theorem prepareAward_total
    {dedupKey : String}
    (hasZone : HasZone runtime session country resolved timeZone canonical)
    (isStart : session.startTime = some instant)
    (isKey : getDeduplicationKey state session none = .ok dedupKey) :
    ∃ award, prepareAward runtime server state session = .ok award := by
  obtain ⟨context, isContext, sameZone⟩ :=
    @context_total _ state _ _ _ _ _ _ none hasZone isStart
  obtain ⟨ownContext, isOwnContext, _⟩ :=
    @context_total _ state _ _ _ _ _ _ (some state.getRules) hasZone
      isStart
  have isAmount :
      ∃ amount,
        calculateAwardTokens runtime state session none = .ok amount := by
    unfold calculateAwardTokens
    simp only [Option.getD_none, isOwnContext, Except.map]
    exact ⟨_, rfl⟩
  obtain ⟨amount, isAmount⟩ := isAmount
  have isLocal :
      ∃ localTime,
        formatLocalTime runtime server session.startTime
          (orNull context.timeZone) = .ok localTime := by
    rw [sameZone, hasZone.isZone, isStart]
    unfold formatLocalTime
    simp only [hasZone.isCanonical]
    exact ⟨_, rfl⟩
  obtain ⟨localTime, isLocal⟩ := isLocal
  unfold prepareAward
  simp only [isContext, isAmount, isKey, isLocal, bind, Except.bind]
  exact ⟨_, rfl⟩

/--
A policy is usable for a session with a known zone exactly when every key part
names the session or the provider.
-/
theorem prepareAward_isUsable_iff
    (validated :
      validateAndNormaliseCdr runtime clock raw = .ok session)
    (hasZone :
      HasZone runtime session country resolved timeZone canonical) :
    IsUsable runtime server state session ↔
      ∀ key ∈ state.getRules.idempotency.deduplicationKey,
        IsKnownKey key := by
  obtain ⟨instant, isStart⟩ :=
    startTime_of_normaliseSession (normaliseSession_of_validate validated)
  rw [← @builtFrom_iff session]
  constructor
  · intro usable
    obtain ⟨dedupKey, _, isBuilt⟩ := usable.key
    exact ⟨dedupKey, isBuilt⟩
  · rintro ⟨dedupKey, isBuilt⟩
    have ⟨parts, areParts, isJoined, _⟩ := isBuilt
    have isKey :
        getDeduplicationKey state session none = .ok dedupKey := by
      rw [getDeduplicationKey, Option.getD_none, areParts, isJoined]
      rfl
    obtain ⟨context, isContext, _⟩ :=
      @context_total _ state _ _ _ _ _ _ none hasZone isStart
    exact
      ⟨⟨dedupKey, isKey, isBuilt⟩,
        prepareAward_total hasZone isStart isKey, context, isContext⟩

end Usable

/-! ## Keys that are accepted -/

/-- A charge in Germany as it is posted. -/
def germanCharge : CdrValue :=
  .object
    [("SessionID", .text "session"), ("ProviderID", .text "provider"),
      ("ContractID", .text "DE-8AA-C00000001"),
      ("EVSEID", .text "DE*ABC*E1"),
      ("StartTime", .text "2026-01-01T22:00:00Z"),
      ("EndTime", .text "2026-01-01T23:00:00Z"),
      ("Energy", .number (.ofNat 8))]

/-- The two dates of the charge. -/
def germanClock : CdrClock where
  dateOf text :=
    if text = "2026-01-01T22:00:00Z" then some 1767304800000
    else some 1767308400000
  now := 1767308400000

/-- The rules with other key parts. -/
def rulesWithKeys (keys : List String) : AwardRuleConfig :=
  { awardRulesConfig with
    idempotency :=
      { awardRulesConfig.idempotency with deduplicationKey := keys } }

/-- A state with these rules in force. -/
def stateWithKeys (keys : List String) : PolicyState :=
  ⟨none, some (rulesWithKeys keys), some []⟩

/-- The charge, normalised. -/
def germanSession : NormalisedSession :=
  { nightSession "session" with
    eMAID := some "DE-8AA-C00000001"
    emaid := some "DE-8AA-C00000001"
    protocol := some .oicp
    sourceField := some "ContractID" }

theorem germanCharge_normalises :
    validateAndNormaliseCdr nightRuntime germanClock germanCharge =
      .ok germanSession := by
  decide +kernel

/-- The zone of the charge is that of its country. -/
theorem germanSession_hasZone :
    HasZone nightRuntime germanSession "DE"
      ⟨some "Europe/Berlin", "country_default"⟩ "Europe/Berlin"
      "Europe/Berlin" :=
  ⟨by decide +kernel, by decide +kernel, by decide +kernel,
    by decide +kernel⟩

/-- The rules of the program are usable. -/
theorem germanCharge_isUsable :
    IsUsable nightRuntime ⟨fun _ => 23, fun _ => 0⟩
      (stateWithKeys ["sessionId", "providerId"]) germanSession :=
  (prepareAward_isUsable_iff germanCharge_normalises
    germanSession_hasZone).mpr (by simp [stateWithKeys, rulesWithKeys,
      PolicyState.getRules, IsKnownKey])

/--
A key that the validator accepts makes every award throw, and an inherited
name gives every session the same key.
-/
theorem acceptedKeys_areUnusable :
    validateAwardRules
        (.object (rulesWithKeys ["chargingSessionId"]).fields) =
      .ok (rulesWithKeys ["chargingSessionId"]) ∧
    prepareAward nightRuntime ⟨fun _ => 23, fun _ => 0⟩
        (stateWithKeys ["chargingSessionId"]) germanSession =
      .error
        (.error "Unknown deduplication key: chargingSessionId") ∧
    validateAwardRules (.object (rulesWithKeys ["toString"]).fields) =
      .ok (rulesWithKeys ["toString"]) ∧
    getDeduplicationKey (stateWithKeys ["toString"]) germanSession none =
      .ok "function toString() { [native code] }" ∧
    ¬ ∃ dedupKey,
      IsBuiltFrom germanSession (rulesWithKeys ["toString"])
        dedupKey := by
  refine
    ⟨by decide +kernel, by decide +kernel, by decide +kernel,
      by decide +kernel, ?_⟩
  rw [builtFrom_iff]
  simp [rulesWithKeys, IsKnownKey]

end AwardPreparation

end Sparkz
