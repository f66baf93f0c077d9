import Mathlib.Data.List.Perm.Basic
import Mathlib.Data.List.Forall2
import Sparkz.RewardPolicy
import Sparkz.Failure

namespace Sparkz

/-!
# Validation of reward policies

`validateAwardRules`, `validateOffPeakWindows` and `validatePatch`.  What they
accept they copy, and the order in which the fields of a document stand makes
no difference to what they accept.
-/

open JsonText

/-- A number of the runtime. -/
inductive NumberValue where
  | finite : NumberText → NumberValue
  /-- Infinite, or not a number. -/
  | nonFinite : NumberValue
  deriving DecidableEq

/-- An `unknown` value; a missing field is the absence of one. -/
abbrev Value := Json NumberValue

/-- `REWARD_POLICY_INVALID_${field.toUpperCase()}`. -/
def invalidField (field : String) : Failure :=
  .error ("REWARD_POLICY_INVALID_" ++ upperText field)

def MAX_OFF_PEAK_SLOTS : Nat := 6

def requireRecord
    (value : Option Value)
    (field : String) :
    Except Failure Value :=
  match value with
  | some (.object fields) => .ok (.object fields)
  | _ => .error (invalidField field)

def requireFiniteRate
    (value : Option Value)
    (field : String) :
    Except Failure Rate :=
  match value with
  | some (.number (.finite shown)) =>
      if notNegative : shown.characters.head? ≠ some '-' then
        .ok ⟨shown, notNegative⟩
      else .error (invalidField field)
  | _ => .error (invalidField field)

def requireBoolean
    (value : Option Value)
    (field : String) :
    Except Failure Bool :=
  match value with
  | some (.bool flag) => .ok flag
  | _ => .error (invalidField field)

/-- A text, or the error of the field that should be one. -/
def requireText
    (value : Option Value)
    (field : String) :
    Except Failure String :=
  match value with
  | some (.text text) => .ok text
  | _ => .error (invalidField field)

/-- A text that is not blank. -/
def requireNonBlank
    (value : Option Value)
    (field : String) :
    Except Failure String :=
  match value with
  | some (.text text) =>
      if trimText text = "" then .error (invalidField field) else .ok text
  | _ => .error (invalidField field)

/-- A list of texts that are not blank, and not an empty one. -/
def requireKeys
    (value : Option Value)
    (field : String) :
    Except Failure (List String) :=
  match value with
  | some (.array (first :: rest)) =>
      (first :: rest).mapM fun key => requireNonBlank (some key) field
  | _ => .error (invalidField field)

/-- `validateAwardRules(value)`. -/
def validateAwardRules (value : Value) : Except Failure AwardRuleConfig := do
  let source ← requireRecord (some value) "rules"
  let version ← requireNonBlank (source.field? "version") "version"
  let rules ← requireRecord (source.field? "rules") "rules"
  let offPeak ←
    requireRecord (rules.field? "offPeakCharging") "off_peak_charging"
  let v2g ← requireRecord (rules.field? "v2gDischarge") "v2g_discharge"
  let idempotency ←
    requireRecord (source.field? "idempotency") "idempotency"
  let deduplicationKey ←
    requireKeys (idempotency.field? "deduplicationKey") "idempotency"
  let description ←
    requireText (idempotency.field? "description") "idempotency"
  let offPeakDescription ←
    requireText (offPeak.field? "description") "description"
  let v2gDescription ←
    requireText (v2g.field? "description") "description"
  let offPeakEnabled ←
    requireBoolean (offPeak.field? "enabled") "off_peak_charging_enabled"
  let offPeakRate ←
    requireFiniteRate (offPeak.field? "tokensPerKWh")
      "off_peak_charging_rate"
  let v2gEnabled ←
    requireBoolean (v2g.field? "enabled") "v2g_discharge_enabled"
  let v2gRate ←
    requireFiniteRate (v2g.field? "tokensPerKWh") "v2g_discharge_rate"
  return {
    version
    rules :=
      { offPeakCharging := ⟨offPeakEnabled, offPeakRate, offPeakDescription⟩
        v2gDischarge := ⟨v2gEnabled, v2gRate, v2gDescription⟩ }
    idempotency := ⟨deduplicationKey, description⟩ }

/-- `/^(?:[01]\d|2[0-3]):[0-5]\d$/`. -/
def isClock (text : String) : Bool :=
  match text.toList with
  | [tens, ones, colon, minuteTens, minuteOnes] =>
      ((tens == '0' || tens == '1') && ones.isDigit ||
        tens == '2' && ['0', '1', '2', '3'].contains ones) &&
      colon == ':' &&
      ['0', '1', '2', '3', '4', '5'].contains minuteTens &&
      minuteOnes.isDigit
  | _ => false

/-- A text that `validClock` accepts. -/
def validClock (value : Option Value) : Option String :=
  match value with
  | some (.text text) => if isClock text then some text else none
  | _ => none

/-- `/^[A-Z]{2}$/`. -/
def isCountryCode (country : String) : Bool :=
  country.toList.length == 2 && country.toList.all Char.isUpper

/-- One window of a country. -/
def validateRange
    (country : String)
    (index : Nat)
    (range : Value) :
    Except Failure TimeRange := do
  let candidate ←
    requireRecord (some range)
      ("off_peak_window_" ++ country ++ "_" ++ toString index)
  match validClock (candidate.field? "start"),
      validClock (candidate.field? "end") with
  | some start, some finish => return ⟨start, finish⟩
  | _, _ =>
      throw
        (.error
          ("REWARD_POLICY_INVALID_OFF_PEAK_TIME:" ++ country ++ ":" ++
            toString index))

/-- The windows of a country, from an index on. -/
def validateRanges
    (country : String) :
    Nat → List Value → Except Failure (List TimeRange)
  | _, [] => .ok []
  | index, range :: ranges => do
      let first ← validateRange country index range
      let rest ← validateRanges country (index + 1) ranges
      return first :: rest

/-- The entry of one country. -/
def validateCountry
    (entry : String × Value) :
    Except Failure (String × List TimeRange) :=
  match entry.2 with
  | .array ranges =>
      if isCountryCode entry.1 ∧ ranges ≠ [] ∧
          ranges.length ≤ MAX_OFF_PEAK_SLOTS then
        (validateRanges entry.1 0 ranges).map fun windows =>
          (entry.1, windows)
      else
        .error
          (.error ("REWARD_POLICY_INVALID_OFF_PEAK_WINDOWS:" ++ entry.1))
  | _ =>
      .error
        (.error ("REWARD_POLICY_INVALID_OFF_PEAK_WINDOWS:" ++ entry.1))

/-- `validateOffPeakWindows(value)`. -/
def validateOffPeakWindows (value : Value) : Except Failure OffPeakConfig :=
  match value with
  | .object fields => fields.mapM validateCountry
  | _ => .error (invalidField "off_peak_windows")

/-- What an update asks for; a document that is left out is absent. -/
inductive PatchValue where
  | notRecord : PatchValue
  | record : (rules offPeakWindows : Option Value) → PatchValue

structure RewardPolicyPatch where
  rules : Option AwardRuleConfig
  offPeakWindows : Option OffPeakConfig
  deriving DecidableEq

/-- Validate a document, if there is one. -/
def validateSupplied
    {α : Type}
    (validate : Value → Except Failure α) :
    Option Value → Except Failure (Option α)
  | none => .ok none
  | some value => (validate value).map some

/-- `validatePatch(patch)`. -/
def validatePatch : PatchValue → Except Failure RewardPolicyPatch
  | .notRecord => .error (.error "REWARD_POLICY_INVALID_PATCH")
  | .record rules offPeakWindows => do
      let rules ← validateSupplied validateAwardRules rules
      let offPeakWindows ←
        validateSupplied validateOffPeakWindows offPeakWindows
      if rules.isNone && offPeakWindows.isNone then
        throw (.error "REWARD_POLICY_EMPTY_PATCH")
      return ⟨rules, offPeakWindows⟩

/-! ## Documents -/

def TokenRule.document (rule : TokenRule) : Value :=
  .object
    [("enabled", .bool rule.enabled),
      ("tokensPerKWh", .number (.finite rule.tokensPerKWh.shown)),
      ("description", .text rule.description)]

/-- The fields of the rules, as a column holds them. -/
def AwardRuleConfig.fields
    (config : AwardRuleConfig) :
    List (String × Value) :=
  [("version", .text config.version),
    ("rules",
      .object
        [("offPeakCharging", config.rules.offPeakCharging.document),
          ("v2gDischarge", config.rules.v2gDischarge.document)]),
    ("idempotency",
      .object
        [("deduplicationKey",
            .array (config.idempotency.deduplicationKey.map .text)),
          ("description", .text config.idempotency.description)])]

/-- The fields of the windows, as a column holds them. -/
def OffPeakConfig.fields (config : OffPeakConfig) : List (String × Value) :=
  config.map fun entry => (entry.1, .array (entry.2.map TimeRange.json))

/-! ## The order of fields makes no difference -/

section Canonical

variable (value : Option Value) (field : String)

/-- A reader that does not look below the top finds the same. -/
theorem requireRecord_canonical :
    requireRecord (value.map canonical) field =
      canonical <$> requireRecord value field := by
  cases value with
  | none =>
      rfl
  | some value =>
      cases value <;> rfl

theorem requireFiniteRate_canonical :
    requireFiniteRate (value.map canonical) field =
      requireFiniteRate value field := by
  cases value with
  | none =>
      rfl
  | some value =>
      cases value <;> rfl

theorem requireBoolean_canonical :
    requireBoolean (value.map canonical) field =
      requireBoolean value field := by
  cases value with
  | none =>
      rfl
  | some value =>
      cases value <;> rfl

theorem requireText_canonical :
    requireText (value.map canonical) field = requireText value field := by
  cases value with
  | none =>
      rfl
  | some value =>
      cases value <;> rfl

theorem requireNonBlank_canonical :
    requireNonBlank (value.map canonical) field =
      requireNonBlank value field := by
  cases value with
  | none =>
      rfl
  | some value =>
      cases value <;> rfl

theorem validClock_canonical :
    validClock (value.map canonical) = validClock value := by
  cases value with
  | none =>
      rfl
  | some value =>
      cases value <;> rfl

theorem requireKeys_canonical :
    requireKeys (value.map canonical) field = requireKeys value field := by
  cases value with
  | none =>
      rfl
  | some value =>
      cases value with
      | array items =>
          cases items with
          | nil =>
              rfl
          | cons first rest =>
              simp only [Option.map_some, canonical, canonicalItems_eq,
                List.map_cons, requireKeys]
              rw [← List.map_cons, List.mapM_map]
              congr 1
              funext key
              exact requireNonBlank_canonical (some key) field
      | _ =>
          rfl

end Canonical

/-- Rules are accepted, and read, whatever the order of their fields. -/
theorem validateAwardRules_canonical (value : Value) :
    validateAwardRules (canonical value) = validateAwardRules value := by
  have record := requireRecord_canonical (some value) "rules"
  rw [Option.map_some] at record
  simp only [validateAwardRules, record, bind_map_left, canonical_field?,
    requireRecord_canonical, requireNonBlank_canonical,
    requireKeys_canonical, requireText_canonical, requireBoolean_canonical,
    requireFiniteRate_canonical]

theorem validateRange_canonical
    (country : String)
    (index : Nat)
    (range : Value) :
    validateRange country index (canonical range) =
      validateRange country index range := by
  have record :=
    requireRecord_canonical (some range)
      ("off_peak_window_" ++ country ++ "_" ++ toString index)
  rw [Option.map_some] at record
  simp only [validateRange, record, bind_map_left, canonical_field?,
    validClock_canonical]

theorem validateRanges_canonical
    (country : String)
    (index : Nat)
    (ranges : List Value) :
    validateRanges country index (ranges.map canonical) =
      validateRanges country index ranges := by
  induction ranges generalizing index with
  | nil =>
      rfl
  | cons range ranges inductionHypothesis =>
      simp only [List.map_cons, validateRanges, validateRange_canonical,
        inductionHypothesis]

theorem validateCountry_canonical (entry : String × Value) :
    validateCountry (entry.1, canonical entry.2) =
      validateCountry entry := by
  obtain ⟨country, value⟩ := entry
  cases value with
  | array ranges =>
      simp [validateCountry, canonical, canonicalItems_eq,
        validateRanges_canonical]
  | _ =>
      rfl

/-! ## What is accepted is copied -/

theorem mapM_ok
    {α β : Type}
    {step : α → Except Failure β}
    {items : List α}
    {results : List β} :
    items.mapM step = .ok results ↔
      List.Forall₂ (fun item result => step item = .ok result) items
        results := by
  induction items generalizing results with
  | nil =>
      simp [pure, Except.pure, eq_comm]
  | cons item items inductionHypothesis =>
      rw [List.mapM_cons, List.forall₂_cons_left_iff]
      constructor
      · intro accepted
        obtain ⟨first, isFirst, accepted⟩ := Except.bind_eq_ok accepted
        obtain ⟨rest, isRest, returned⟩ := Except.bind_eq_ok accepted
        exact
          ⟨first, rest, isFirst, inductionHypothesis.mp isRest,
            (Except.ok.inj returned).symm⟩
      · rintro ⟨first, rest, isFirst, areRest, rfl⟩
        rw [isFirst, inductionHypothesis.mpr areRest]
        rfl

/-- Items that are accepted in one order are accepted in any other. -/
theorem mapM_perm
    {α β : Type}
    {step : α → Except Failure β}
    {items others : List α}
    {results : List β}
    (isPerm : others.Perm items)
    (accepted : items.mapM step = .ok results) :
    ∃ otherResults,
      others.mapM step = .ok otherResults ∧ otherResults.Perm results := by
  obtain ⟨otherResults, areResults, isResultPerm⟩ :=
    List.perm_comp_forall₂ isPerm (mapM_ok.mp accepted)
  exact ⟨otherResults, mapM_ok.mpr areResults, isResultPerm⟩

/-- Windows are accepted whatever the order of their countries. -/
theorem validateOffPeakWindows_perm
    {first second : Value}
    {config : OffPeakConfig}
    (same : canonical first = canonical second)
    (accepted : validateOffPeakWindows first = .ok config) :
    ∃ other,
      validateOffPeakWindows second = .ok other ∧ other.Perm config := by
  have canonicalEntries :
      ∀ fields : List (String × Value),
        (canonicalFields fields).mapM validateCountry =
          fields.mapM validateCountry := by
    intro fields
    rw [canonicalFields_eq, List.mapM_map]
    congr 1
    funext entry
    exact validateCountry_canonical entry
  cases first with
  | object fields =>
      cases second with
      | object others =>
          simp only [canonical, byKey, Json.object.injEq] at same
          have isPerm :
              (canonicalFields others).Perm (canonicalFields fields) :=
            (List.perm_insertionSort KeyOrder _).symm.trans
              (same ▸ List.perm_insertionSort KeyOrder _)
          have accepted : fields.mapM validateCountry = .ok config :=
            accepted
          rw [← canonicalEntries] at accepted
          obtain ⟨other, isOther, isOtherPerm⟩ :=
            mapM_perm isPerm accepted
          rw [canonicalEntries] at isOther
          exact ⟨other, isOther, isOtherPerm⟩
      | _ =>
          simp only [canonical, reduceCtorEq] at same
  | _ =>
      cases accepted

theorem requireText_copied
    {text copy field : String}
    (accepted : requireText (some (.text text)) field = .ok copy) :
    copy = text :=
  (Except.ok.inj accepted).symm

theorem requireNonBlank_copied
    {text copy field : String}
    (accepted : requireNonBlank (some (.text text)) field = .ok copy) :
    copy = text := by
  simp only [requireNonBlank] at accepted
  split at accepted
  · cases accepted
  · exact (Except.ok.inj accepted).symm

theorem requireBoolean_copied
    {flag copy : Bool}
    {field : String}
    (accepted : requireBoolean (some (.bool flag)) field = .ok copy) :
    copy = flag :=
  (Except.ok.inj accepted).symm

theorem requireFiniteRate_copied
    {rate copy : Rate}
    {field : String}
    (accepted :
      requireFiniteRate (some (.number (.finite rate.shown))) field =
        .ok copy) :
    copy = rate := by
  simp only [requireFiniteRate, rate.notNegative, ne_eq,
    not_false_eq_true, dif_pos] at accepted
  exact (Except.ok.inj accepted).symm

theorem requireKeys_copied
    {keys copies : List String}
    {field : String}
    (accepted :
      requireKeys (some (.array (keys.map .text))) field = .ok copies) :
    copies = keys := by
  cases keys with
  | nil =>
      cases accepted
  | cons first rest =>
      rw [List.map_cons] at accepted
      simp only [requireKeys] at accepted
      rw [← List.map_cons, List.mapM_map, mapM_ok] at accepted
      generalize first :: rest = texts at accepted
      induction accepted with
      | nil =>
          rfl
      | cons isFirst _ inductionHypothesis =>
          rw [requireNonBlank_copied isFirst, inductionHypothesis]

/-- Rules that are read back are the rules that were written. -/
theorem AwardRuleConfig.fields_copied
    {config copy : AwardRuleConfig}
    (accepted : validateAwardRules (.object config.fields) = .ok copy) :
    copy = config := by
  obtain ⟨source, isSource, accepted⟩ := Except.bind_eq_ok accepted
  cases isSource
  obtain ⟨version, isVersion, accepted⟩ := Except.bind_eq_ok accepted
  obtain ⟨rules, isRules, accepted⟩ := Except.bind_eq_ok accepted
  cases isRules
  obtain ⟨offPeak, isOffPeak, accepted⟩ := Except.bind_eq_ok accepted
  cases isOffPeak
  obtain ⟨v2g, isV2g, accepted⟩ := Except.bind_eq_ok accepted
  cases isV2g
  obtain ⟨idempotency, isIdempotency, accepted⟩ :=
    Except.bind_eq_ok accepted
  cases isIdempotency
  obtain ⟨keys, areKeys, accepted⟩ := Except.bind_eq_ok accepted
  obtain ⟨description, isDescription, accepted⟩ :=
    Except.bind_eq_ok accepted
  obtain ⟨offPeakText, isOffPeakText, accepted⟩ :=
    Except.bind_eq_ok accepted
  obtain ⟨v2gText, isV2gText, accepted⟩ := Except.bind_eq_ok accepted
  obtain ⟨offPeakFlag, isOffPeakFlag, accepted⟩ :=
    Except.bind_eq_ok accepted
  obtain ⟨offPeakRate, isOffPeakRate, accepted⟩ :=
    Except.bind_eq_ok accepted
  obtain ⟨v2gFlag, isV2gFlag, accepted⟩ := Except.bind_eq_ok accepted
  obtain ⟨v2gRate, isV2gRate, accepted⟩ := Except.bind_eq_ok accepted
  rw [← Except.ok.inj accepted]
  rw [requireNonBlank_copied isVersion, requireKeys_copied areKeys,
    requireText_copied isDescription, requireText_copied isOffPeakText,
    requireText_copied isV2gText, requireBoolean_copied isOffPeakFlag,
    requireBoolean_copied isV2gFlag, requireFiniteRate_copied isOffPeakRate,
    requireFiniteRate_copied isV2gRate]

theorem validateRange_copied
    {country : String}
    {index : Nat}
    {range copy : TimeRange}
    (accepted : validateRange country index range.json = .ok copy) :
    copy = range := by
  obtain ⟨candidate, isCandidate, accepted⟩ := Except.bind_eq_ok accepted
  cases isCandidate
  have starts :
      validClock (some (.text range.start)) =
        if isClock range.start then some range.start else none :=
    rfl
  have ends :
      validClock (some (.text range.finish)) =
        if isClock range.finish then some range.finish else none :=
    rfl
  have isRead :
      (match validClock (some (.text range.start)),
          validClock (some (.text range.finish)) with
        | some start, some finish => pure ⟨start, finish⟩
        | _, _ =>
            throw
              (.error
                ("REWARD_POLICY_INVALID_OFF_PEAK_TIME:" ++ country ++
                  ":" ++ toString index))) =
        (.ok copy : Except Failure TimeRange) :=
    accepted
  rw [starts, ends] at isRead
  by_cases startsWell : isClock range.start = true
  · by_cases endsWell : isClock range.finish = true
    · rw [if_pos startsWell, if_pos endsWell] at isRead
      exact (Except.ok.inj isRead).symm
    · rw [if_pos startsWell, if_neg endsWell] at isRead
      cases isRead
  · rw [if_neg startsWell] at isRead
    cases isRead

theorem validateRanges_copied
    {country : String}
    {index : Nat}
    {ranges copies : List TimeRange}
    (accepted :
      validateRanges country index (ranges.map TimeRange.json) =
        .ok copies) :
    copies = ranges := by
  induction ranges generalizing index copies with
  | nil =>
      exact (Except.ok.inj accepted).symm
  | cons range ranges inductionHypothesis =>
      obtain ⟨first, isFirst, accepted⟩ := Except.bind_eq_ok accepted
      obtain ⟨rest, isRest, returned⟩ := Except.bind_eq_ok accepted
      rw [← Except.ok.inj returned, validateRange_copied isFirst,
        inductionHypothesis isRest]

theorem validateCountry_copied
    {entry copy : String × List TimeRange}
    (accepted :
      validateCountry (entry.1, .array (entry.2.map TimeRange.json)) =
        .ok copy) :
    copy = entry := by
  simp only [validateCountry] at accepted
  split at accepted
  · obtain ⟨windows, isWindows, isEntry⟩ := Except.map_eq_ok accepted
    rw [← isEntry, validateRanges_copied isWindows]
  · cases accepted

/-- Windows that are read back are the windows that were written. -/
theorem OffPeakConfig.fields_copied
    {config copy : OffPeakConfig}
    (accepted :
      validateOffPeakWindows (.object (OffPeakConfig.fields config)) =
        .ok copy) :
    copy = config := by
  simp only [OffPeakConfig.fields, validateOffPeakWindows] at accepted
  rw [List.mapM_map, mapM_ok] at accepted
  induction accepted with
  | nil =>
      rfl
  | cons isEntry _ inductionHypothesis =>
      rw [validateCountry_copied isEntry, inductionHypothesis]

end Sparkz
