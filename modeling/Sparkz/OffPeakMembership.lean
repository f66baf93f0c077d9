import Sparkz.AwardExactness
import Sparkz.CircularArcs
import Sparkz.RewardPolicyValidation

namespace Sparkz

open BinaryRounding CircularArcs

/-!
# Off-peak membership

The windows of a country are arcs of the circle of the minutes of a day.  A
local time is off-peak when one of the arcs contains its minute, so that the
way in which the windows are written makes no difference.
-/

/-- The minutes of a day. -/
abbrev minutesPerDay : ℕ := 24 * 60

/-- The minute of the day that a clock shows. -/
def clockMinute (clock : String) : Fin minutesPerDay :=
  match clock.toList with
  | [hourTens, hourOnes, _, minuteTens, minuteOnes] =>
      Fin.ofNat minutesPerDay
        (60 * Nat.ofDigitChars 10 [hourTens, hourOnes] 0 +
          Nat.ofDigitChars 10 [minuteTens, minuteOnes] 0)
  | _ => 0

/-- The minutes from the start of a window to its end. -/
def TimeRange.arc (range : TimeRange) : Arc minutesPerDay where
  start := clockMinute range.start
  finish := clockMinute range.finish

/-- A number that is written with two digits. -/
def twoDigits (count : ℕ) : String :=
  String.ofList [Nat.digitChar (count / 10), Nat.digitChar (count % 10)]

/-- The parts show an hour and a minute. -/
structure ZonedDateTimeParts.IsAt
    (localParts : ZonedDateTimeParts)
    (hour : Fin 24)
    (minute : Fin 60) :
    Prop where
  hour : localParts.hour = twoDigits hour
  minute : localParts.minute = twoDigits minute

/-- The minute of the day of an hour and a minute. -/
def minuteOfDay (hour : Fin 24) (minute : Fin 60) : Fin minutesPerDay :=
  ⟨60 * hour + minute, by simp only [minutesPerDay]; omega⟩

/-! ## Reading clocks -/

section Clocks

variable {count other : ℕ} {clock : String}

/-- A small whole number is shown and read back. -/
theorem double_shown_natCast (small : count < 2 ^ 53) :
    (Double.finite (count : ℚ)).shown.double = .finite count := by
  rw [← ofRational_natCast small, double_ofRational (Nat.cast_nonneg _)]

/-- The minutes of an hour and a minute that are read as numbers. -/
theorem double_minutes
    {hour minute : JsNumber}
    (isHour : hour.double = .finite (count : ℚ))
    (isMinute : minute.double = .finite (other : ℚ))
    (fewHours : count < 100)
    (fewMinutes : other < 100) :
    (NumberOperations.ofDoubles.plus
        (NumberOperations.ofDoubles.times hour (.ofNat 60))
        minute).double =
      .finite ((60 * count + other : ℕ) : ℚ) := by
  have isSixty : (JsNumber.ofNat 60).double = .finite (60 : ℕ) := by
    decide +kernel
  have isProduct :
      (Double.finite (count : ℚ)).times (.finite (60 : ℕ)) =
        .finite ((60 * count : ℕ) : ℚ) := by
    rw [← ofRational_natCast (by omega : 60 * count < 2 ^ 53)]
    simp only [Double.times]
    rw [mul_comm]
    push_cast
    rfl
  have isSum :
      (Double.finite ((60 * count : ℕ) : ℚ)).plus (.finite (other : ℚ)) =
        .finite ((60 * count + other : ℕ) : ℚ) := by
    rw [← ofRational_natCast (by omega : 60 * count + other < 2 ^ 53)]
    simp only [Double.plus]
    push_cast
    rfl
  rw [ofDoubles_plus, ofDoubles_times, isHour, isSixty, isMinute, isProduct,
    double_shown_natCast (by omega), isSum,
    double_shown_natCast (by omega)]

/-- Two digits are read as their number. -/
theorem ofText_twoDigits (small : count < 100) :
    Double.ofText (twoDigits count) = .finite count := by
  have checked :
      ∀ count : Fin 100,
        Double.ofText (twoDigits count) = .finite (count.val : ℚ) := by
    decide +kernel
  exact checked ⟨count, small⟩

/-- The digits of a clock. -/
theorem digits_of_isClock (accepted : isClock clock = true) :
    ∃ hour < 24, ∃ minute < 60,
      clock.toList =
        (twoDigits hour).toList ++ ':' :: (twoDigits minute).toList := by
  unfold isClock at accepted
  split at accepted
  · rename_i tens ones colon minuteTens minuteOnes shape
    simp only [Bool.and_eq_true, Bool.or_eq_true, beq_iff_eq,
      List.contains_eq_mem, decide_eq_true_eq, List.mem_cons,
      List.not_mem_nil, or_false] at accepted
    obtain ⟨⟨⟨hours, rfl⟩, sixty⟩, isMinuteOnes⟩ := accepted
    have areHours :
        ∃ first < 10, ∃ second < 10,
          tens = Nat.digitChar first ∧ ones = Nat.digitChar second ∧
            10 * first + second < 24 := by
      rcases hours with ⟨rfl | rfl, isOnes⟩ | ⟨rfl, rfl | rfl | rfl | rfl⟩
      · obtain ⟨second, small, isSecond⟩ := exists_digitChar isOnes
        exact ⟨0, by decide, second, small, rfl, isSecond, by omega⟩
      · obtain ⟨second, small, isSecond⟩ := exists_digitChar isOnes
        exact ⟨1, by decide, second, small, rfl, isSecond, by omega⟩
      · exact ⟨2, by decide, 0, by decide, rfl, rfl, by decide⟩
      · exact ⟨2, by decide, 1, by decide, rfl, rfl, by decide⟩
      · exact ⟨2, by decide, 2, by decide, rfl, rfl, by decide⟩
      · exact ⟨2, by decide, 3, by decide, rfl, rfl, by decide⟩
    have isMinuteTens :
        ∃ third < 6, minuteTens = Nat.digitChar third := by
      rcases sixty with rfl | rfl | rfl | rfl | rfl | rfl
      · exact ⟨0, by decide, rfl⟩
      · exact ⟨1, by decide, rfl⟩
      · exact ⟨2, by decide, rfl⟩
      · exact ⟨3, by decide, rfl⟩
      · exact ⟨4, by decide, rfl⟩
      · exact ⟨5, by decide, rfl⟩
    obtain ⟨first, _, second, _, rfl, rfl, isHour⟩ := areHours
    obtain ⟨third, _, rfl⟩ := isMinuteTens
    obtain ⟨fourth, _, rfl⟩ := exists_digitChar isMinuteOnes
    refine
      ⟨10 * first + second, isHour, 10 * third + fourth, by omega, ?_⟩
    have hourTens : (10 * first + second) / 10 = first := by omega
    have hourOnes : (10 * first + second) % 10 = second := by omega
    have minuteTens : (10 * third + fourth) / 10 = third := by omega
    have minuteOnes : (10 * third + fourth) % 10 = fourth := by omega
    rw [shape, twoDigits, twoDigits, hourTens, hourOnes, minuteTens,
      minuteOnes, String.toList_ofList, String.toList_ofList]
    rfl
  · cases accepted

/-- A clock is read in two parts. -/
theorem clockParts_eq
    (isText :
      clock.toList =
        (twoDigits count).toList ++ ':' :: (twoDigits other).toList) :
    clock.toList.splitOn ':' =
      [(twoDigits count).toList, (twoDigits other).toList] := by
  rw [isText]
  simp [twoDigits, List.splitOn, List.splitOnP_cons_eq_if_modifyHead]

/-- A clock shows the minute of its two parts. -/
theorem clockMinute_eq
    (isHour : count < 24)
    (isMinute : other < 60)
    (isText :
      clock.toList =
        (twoDigits count).toList ++ ':' :: (twoDigits other).toList) :
    (clockMinute clock).val = 60 * count + other := by
  have hourTens : count / 10 < 10 := by omega
  have hourOnes : count % 10 < 10 := by omega
  have minuteTens : other / 10 < 10 := by omega
  have minuteOnes : other % 10 < 10 := by omega
  rw [clockMinute, isText]
  simp only [twoDigits, String.toList_ofList, List.cons_append,
    List.nil_append, Nat.ofDigitChars_cons, Nat.ofDigitChars_nil,
    Nat.toNat_digitChar_of_lt_ten hourTens,
    Nat.toNat_digitChar_of_lt_ten hourOnes,
    Nat.toNat_digitChar_of_lt_ten minuteTens,
    Nat.toNat_digitChar_of_lt_ten minuteOnes,
    Char.reduceToNat, Fin.val_ofNat, minutesPerDay]
  omega

/-- A window reads the minute that its clock shows. -/
theorem double_parseTimeToMinutes
    {runtime : CalculationRuntime}
    (accepted : isClock clock = true) :
    (parseTimeToMinutes runtime.withDoubles clock).double =
      .finite ((clockMinute clock).val : ℚ) := by
  obtain ⟨hour, isHour, minute, isMinute, isText⟩ :=
    digits_of_isClock accepted
  rw [clockMinute_eq isHour isMinute isText]
  unfold parseTimeToMinutes
  simp only [clockParts_eq isText, List.map_cons, List.map_nil,
    String.ofList_toList, List.getElem?_cons_zero,
    List.getElem?_cons_succ, Option.getD_some, withDoubles_numbers]
  apply double_minutes
  · rw [ofDoubles_ofText, ofText_twoDigits (by omega),
      double_shown_natCast (by omega)]
  · rw [ofDoubles_ofText, ofText_twoDigits (by omega),
      double_shown_natCast (by omega)]
  · omega
  · omega

/-! ## Windows -/

variable {runtime : CalculationRuntime} {range : TimeRange}

/-- Whole numbers are compared as doubles. -/
theorem less_natCast :
    (Double.finite (count : ℚ)).less (.finite (other : ℚ)) =
      decide (count < other) := by
  simp [Double.less]

theorem atMost_natCast :
    (Double.finite (count : ℚ)).atMost (.finite (other : ℚ)) =
      decide (count ≤ other) := by
  rw [Bool.eq_iff_iff]
  simp only [Double.atMost, less_natCast, Bool.or_eq_true,
    Bool.and_eq_true, decide_eq_true_eq, beq_iff_eq, bne_iff_ne,
    Double.finite.injEq, Nat.cast_inj, ne_eq, reduceCtorEq,
    not_false_eq_true, and_true]
  omega

/-- A window holds the minutes of its arc. -/
theorem holds_iff
    {minutes : JsNumber}
    {minute : Fin minutesPerDay}
    (isStart : isClock range.start = true)
    (isFinish : isClock range.finish = true)
    (isMinute : minutes.double = .finite (minute.val : ℚ)) :
    range.holds runtime.withDoubles minutes = true ↔
      minute ∈ range.arc.points := by
  rw [Arc.mem_points_iff_between]
  simp only [TimeRange.holds, withDoubles_numbers, ofDoubles_less,
    ofDoubles_atMost, double_parseTimeToMinutes isStart,
    double_parseTimeToMinutes isFinish, isMinute, less_natCast,
    atMost_natCast, decide_eq_true_eq, TimeRange.arc, Fin.lt_def,
    Fin.le_def]
  split_ifs <;> simp

/-- A range that is accepted has two clocks. -/
theorem clocks_of_validateRange
    {country : String}
    {index : ℕ}
    {value : Value}
    (accepted : validateRange country index value = .ok range) :
    isClock range.start = true ∧ isClock range.finish = true := by
  obtain ⟨candidate, _, accepted⟩ := Except.bind_eq_ok accepted
  have isRead :
      ∀ {clock : String} {field : Option Value},
        validClock field = some clock → isClock clock = true := by
    intro clock field isValid
    unfold validClock at isValid
    split at isValid
    · split_ifs at isValid with isClock
      rw [← Option.some.inj isValid]
      exact isClock
    · cases isValid
  revert accepted
  rcases starts : validClock (candidate.field? "start") with _ | start
  · intro accepted
    cases accepted
  · rcases ends : validClock (candidate.field? "end") with _ | finish
    · intro accepted
      cases accepted
    · intro accepted
      rw [← Except.ok.inj accepted]
      exact ⟨isRead starts, isRead ends⟩

/-- Every accepted window has two clocks. -/
theorem clocks_of_validateRanges
    {country : String}
    {index : ℕ}
    {values : List Value}
    {ranges : List TimeRange}
    (accepted : validateRanges country index values = .ok ranges) :
    ∀ range ∈ ranges,
      isClock range.start = true ∧ isClock range.finish = true := by
  induction values generalizing index ranges with
  | nil =>
      rw [← Except.ok.inj accepted]
      simp
  | cons value values inductionHypothesis =>
      obtain ⟨first, isFirst, accepted⟩ := Except.bind_eq_ok accepted
      obtain ⟨rest, isRest, accepted⟩ := Except.bind_eq_ok accepted
      rw [← Except.ok.inj accepted]
      intro range member
      rcases List.mem_cons.mp member with rfl | inRest
      · exact clocks_of_validateRange isFirst
      · exact inductionHypothesis isRest range inRest

/-- Every window of an accepted country has two clocks. -/
theorem clocks_of_validateCountry
    {given : String × Value}
    {entry : String × List TimeRange}
    (accepted : validateCountry given = .ok entry) :
    ∀ range ∈ entry.2,
      isClock range.start = true ∧ isClock range.finish = true := by
  unfold validateCountry at accepted
  split at accepted
  · split_ifs at accepted
    obtain ⟨windows, areWindows, isEntry⟩ := Except.map_eq_ok accepted
    rw [← isEntry]
    exact clocks_of_validateRanges areWindows
  · cases accepted

/-- A configuration all of whose windows have two clocks. -/
def OffPeakConfig.HasClocks (config : OffPeakConfig) : Prop :=
  ∀ entry ∈ config, ∀ range ∈ entry.2,
    isClock range.start = true ∧ isClock range.finish = true

theorem hasClocks_of_validate
    {value : Value}
    {config : OffPeakConfig}
    (accepted : validateOffPeakWindows value = .ok config) :
    OffPeakConfig.HasClocks config := by
  unfold validateOffPeakWindows at accepted
  split at accepted
  · rw [mapM_ok] at accepted
    intro entry member
    induction accepted with
    | nil =>
        cases member
    | cons isEntry _ inductionHypothesis =>
        rcases List.mem_cons.mp member with rfl | inRest
        · exact clocks_of_validateCountry isEntry
        · exact inductionHypothesis inRest
  · cases accepted

end Clocks

/-! ## The union of the windows -/

/-- The arcs of the windows of a country. -/
def OffPeakConfig.arcsOf
    (config : OffPeakConfig)
    (country : String) :
    List (Arc minutesPerDay) :=
  ((InsertionMap.get? (upperText country) config).getD []).map
    TimeRange.arc

section Membership

variable
  {runtime : CalculationRuntime}
  {state : PolicyState}
  {country : String}
  {timestamp : JsDate}
  {explicitTimeZone : Option String}
  {hour : Fin 24}
  {minute : Fin 60}

/-- A timestamp is this time in the zone of the country. -/
def IsLocalTime
    (runtime : CalculationRuntime)
    (country : String)
    (timestamp : JsDate)
    (explicitTimeZone : Option String)
    (hour : Fin 24)
    (minute : Fin 60) :
    Prop :=
  ∃ instant resolved timeZone,
    timestamp = some instant ∧
      resolveTimeZone runtime (upperText country) explicitTimeZone none =
        .ok resolved ∧
      orNull resolved.timeZone = some timeZone ∧
      (runtime.zonedParts instant timeZone).IsAt hour minute

/-- The local time is in some window when an arc contains its minute. -/
theorem anyRangeHolds_eq
    {ranges : List TimeRange}
    {localParts : ZonedDateTimeParts}
    (areClocks :
      ∀ range ∈ ranges,
        isClock range.start = true ∧ isClock range.finish = true)
    (isAt : localParts.IsAt hour minute) :
    anyRangeHolds runtime.withDoubles ranges localParts =
      decide
        (minuteOfDay hour minute ∈ covered (ranges.map TimeRange.arc)) := by
  have isMinute :=
    double_minutes
      (show ((Double.ofText localParts.hour).shown).double = _ by
        rw [isAt.hour, ofText_twoDigits (by omega),
          double_shown_natCast (by omega)])
      (show ((Double.ofText localParts.minute).shown).double = _ by
        rw [isAt.minute, ofText_twoDigits (by omega),
          double_shown_natCast (by omega)])
      (by omega) (by omega)
  rw [Bool.eq_iff_iff, decide_eq_true_iff]
  simp only [anyRangeHolds, withDoubles_numbers, List.any_eq_true,
    ofDoubles_ofText, covered, Set.mem_ofPred_eq, List.mem_map,
    exists_exists_and_eq_and]
  apply exists_congr
  intro range
  apply and_congr_right
  intro member
  exact
    holds_iff (areClocks range member).1 (areClocks range member).2 isMinute

/-- What a map returns is one of its entries. -/
theorem mem_of_get?
    {α : Type}
    {key : String}
    {found : α}
    {entries : List (String × α)}
    (isFound : InsertionMap.get? key entries = some found) :
    (key, found) ∈ entries := by
  induction entries with
  | nil =>
      cases isFound
  | cons entry entries inductionHypothesis =>
      unfold InsertionMap.get? at isFound
      split_ifs at isFound with isKey
      · rw [← isKey, ← Option.some.inj isFound]
        exact List.mem_cons_self
      · exact List.mem_cons_of_mem entry (inductionHypothesis isFound)

/-- The windows of a country have two clocks. -/
theorem OffPeakConfig.HasClocks.get
    {config : OffPeakConfig}
    (hasClocks : OffPeakConfig.HasClocks config) :
    ∀ range ∈ (InsertionMap.get? country config).getD [],
      isClock range.start = true ∧ isClock range.finish = true := by
  rcases isFound : InsertionMap.get? country config with _ | ranges
  · simp
  · exact hasClocks (country, ranges) (mem_of_get? isFound)

/-- Without windows nothing is off-peak, in whatever zone. -/
theorem isOffPeak_noWindows
    {resolved : ResolvedTimeZone}
    (isResolved :
      resolveTimeZone runtime (upperText country) explicitTimeZone none =
        .ok resolved)
    (isEmpty :
      (InsertionMap.get? (upperText country)
        state.getOffPeakWindows).getD [] = []) :
    isOffPeak runtime state country timestamp explicitTimeZone =
      .ok false := by
  simp only [isOffPeak, isResolved, isEmpty]
  rfl

/-- Off-peak is the union of the arcs of the windows. -/
theorem isOffPeak_eq
    (hasClocks : OffPeakConfig.HasClocks state.getOffPeakWindows)
    (isLocal :
      IsLocalTime runtime.withDoubles country timestamp explicitTimeZone
        hour minute) :
    isOffPeak runtime.withDoubles state country timestamp
        explicitTimeZone =
      .ok
        (decide
          (minuteOfDay hour minute ∈
            covered
              (OffPeakConfig.arcsOf state.getOffPeakWindows country))) := by
  obtain ⟨instant, resolved, timeZone, rfl, isResolved, isZone, isAt⟩ :=
    isLocal
  rcases isList :
      (InsertionMap.get? (upperText country)
        state.getOffPeakWindows).getD [] with _ | ⟨range, others⟩
  · rw [isOffPeak_noWindows isResolved isList]
    simp [OffPeakConfig.arcsOf, isList]
  · have areClocks :=
      @OffPeakConfig.HasClocks.get (upperText country) _ hasClocks
    rw [isList] at areClocks
    rw [OffPeakConfig.arcsOf, isList,
      ← @anyRangeHolds_eq runtime _ _ _ _ areClocks isAt]
    simp only [isOffPeak, isResolved, isList, bind, Except.bind, isZone]
    rfl

/--
A local time is off-peak exactly when its minute is on one of the arcs of the
accepted windows.  Windows that write the same arcs in another way give the
same answer, and where there are no windows the answer is no.
-/
theorem isOffPeak_isUnion
    {value : Value}
    {windows : OffPeakConfig}
    (accepted : validateOffPeakWindows value = .ok windows)
    (inForce : state.getOffPeakWindows = windows) :
    (∀ resolved,
      resolveTimeZone runtime.withDoubles (upperText country)
          explicitTimeZone none = .ok resolved →
        OffPeakConfig.arcsOf windows country = [] →
        isOffPeak runtime.withDoubles state country timestamp
          explicitTimeZone = .ok false) ∧
      ∀ hour minute,
        IsLocalTime runtime.withDoubles country timestamp
            explicitTimeZone hour minute →
          isOffPeak runtime.withDoubles state country timestamp
              explicitTimeZone =
            .ok
              (decide
                (minuteOfDay hour minute ∈
                  covered (OffPeakConfig.arcsOf windows country))) ∧
          ∀ (otherState : PolicyState) (otherValue : Value)
              (otherWindows : OffPeakConfig),
            validateOffPeakWindows otherValue = .ok otherWindows →
            otherState.getOffPeakWindows = otherWindows →
            Rearranged
              (OffPeakConfig.arcsOf windows country)
              (OffPeakConfig.arcsOf otherWindows country) →
            isOffPeak runtime.withDoubles otherState country timestamp
                explicitTimeZone =
              isOffPeak runtime.withDoubles state country timestamp
                explicitTimeZone := by
  subst inForce
  constructor
  · intro resolved isResolved isEmpty
    exact isOffPeak_noWindows isResolved (List.map_eq_nil_iff.mp isEmpty)
  · intro hour minute isLocal
    have isUnion := isOffPeak_eq (hasClocks_of_validate accepted) isLocal
    refine ⟨isUnion, ?_⟩
    rintro otherState otherValue _ otherAccepted rfl rearranged
    rw [isUnion,
      isOffPeak_eq (hasClocks_of_validate otherAccepted) isLocal]
    simp only [rearranged.mem_covered_iff]

end Membership

/-! ## The night in Germany -/

/-- One window, as an operator writes it. -/
def windowDocument (start finish : String) : Value :=
  .object [("start", .text start), ("end", .text finish)]

/-- The windows of Germany. -/
def germanWindows (documents : List Value) : Value :=
  .object [("DE", .array documents)]

/-- A state with these windows in force. -/
def windowState (ranges : List TimeRange) : PolicyState :=
  ⟨none, none, some [("DE", ranges)]⟩

/-- One window over midnight holds the hour that its two parts hold. -/
theorem night_isUnion :
    isOffPeak nightRuntime.withDoubles
        (windowState [⟨"22:00", "06:00"⟩]) "de" (some 1767304800000)
        none =
      .ok true ∧
    isOffPeak nightRuntime.withDoubles
        (windowState [⟨"22:00", "00:00"⟩, ⟨"00:00", "06:00"⟩]) "de"
        (some 1767304800000) none =
      isOffPeak nightRuntime.withDoubles
        (windowState [⟨"22:00", "06:00"⟩]) "de" (some 1767304800000)
        none := by
  have isLocal :
      IsLocalTime nightRuntime.withDoubles "de" (some 1767304800000) none
        23 0 :=
    ⟨1767304800000, ⟨some "Europe/Berlin", "country_default"⟩,
      "Europe/Berlin", rfl, by decide +kernel, by decide +kernel,
      ⟨by decide +kernel, by decide +kernel⟩⟩
  obtain ⟨isUnion, unchanged⟩ :=
    (@isOffPeak_isUnion _ (windowState [⟨"22:00", "06:00"⟩]) _ _ _
      (germanWindows [windowDocument "22:00" "06:00"]) _
      (by decide +kernel) rfl).2 23 0 isLocal
  constructor
  · rw [isUnion]
    decide +kernel
  · apply
      unchanged (windowState [⟨"22:00", "00:00"⟩, ⟨"00:00", "06:00"⟩])
        (germanWindows
          [windowDocument "22:00" "00:00", windowDocument "00:00" "06:00"])
        _ (by decide +kernel) rfl
    exact Rearranged.overZero (by decide +kernel) (by decide +kernel)

end Sparkz
