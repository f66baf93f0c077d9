import Sparkz.BinaryRounding

namespace DecimalNames

open BinaryRounding

/-!
# The shortest decimal of a number

A decimal names a number when it is rounded to it.  The shortest name is a
whole number of the greatest possible power of ten, and the nearest one.
-/

/-- The whole number of a power of ten that names a number. -/
def count? (round : ℚ → ℚ) (x : ℚ) (exponent : ℤ) : Option ℤ :=
  let quotient := x / 10 ^ exponent
  [roundHalfEven quotient, ⌊quotient⌋, ⌊quotient⌋ + 1].find? fun count =>
    round (count * 10 ^ exponent) = x

/-- The first name that is found, from coarse to fine. -/
def nameFrom (round : ℚ → ℚ) (x : ℚ) : ℕ → ℤ → Option (ℤ × ℤ)
  | 0, _ => none
  | tries + 1, exponent =>
      match count? round x exponent with
      | some count => some (count, exponent)
      | none => nameFrom round x tries (exponent - 1)

/-- The shortest name of a number, of some digits at most. -/
def shortest? (round : ℚ → ℚ) (digits : ℕ) (x : ℚ) : Option (ℤ × ℤ) :=
  nameFrom round x (digits + 1) (Int.log 10 x + 1)

/--
A decimal is the shortest name of a number: no whole number of a coarser power
of ten names it, and of its own power none that is nearer, or as near when the
decimal is odd.
-/
structure IsShortestName
    (round : ℚ → ℚ)
    (x : ℚ)
    (count exponent : ℤ) :
    Prop where
  nonneg : 0 ≤ count
  names : round (count * 10 ^ exponent) = x
  coarsest :
    ∀ other coarser : ℤ,
      0 ≤ other →
      exponent < coarser →
      round (other * 10 ^ coarser) ≠ x
  nearest :
    ∀ other : ℤ,
      0 ≤ other →
      other ≠ count →
      round (other * 10 ^ exponent) = x →
      |(count : ℚ) - x / 10 ^ exponent| <
          |(other : ℚ) - x / 10 ^ exponent| ∨
        |(count : ℚ) - x / 10 ^ exponent| =
            |(other : ℚ) - x / 10 ^ exponent| ∧
          Even count

section Search

variable {round : ℚ → ℚ} {x : ℚ} {count other exponent coarser : ℤ}
  {secondCount secondExponent : ℤ} {digits : ℕ}

/-- What is found names the number. -/
theorem names_of_count?
    (found : count? round x exponent = some count) :
    round (count * 10 ^ exponent) = x := by
  simpa using List.find?_some found

/-- What is found is next to the number. -/
theorem around_of_count?
    (found : count? round x exponent = some count) :
    count = ⌊x / 10 ^ exponent⌋ ∨ count = ⌊x / 10 ^ exponent⌋ + 1 := by
  have member := List.mem_of_find?_eq_some found
  simp only [List.mem_cons, List.not_mem_nil, or_false] at member
  rcases member with isNearest | isLow | isHigh
  · rw [isNearest]
    rcases @roundHalfEven_cases (x / 10 ^ exponent) with
      ⟨isLow, _⟩ | ⟨isHigh, _⟩
    · exact .inl isLow
    · exact .inr isHigh
  · exact .inl isLow
  · exact .inr isHigh

/-- What is found is not negative. -/
theorem nonneg_of_count?
    (positive : 0 < x)
    (found : count? round x exponent = some count) :
    0 ≤ count := by
  have isLow : 0 ≤ ⌊x / 10 ^ exponent⌋ := by
    apply Int.floor_nonneg.mpr
    positivity
  rcases around_of_count? found with rfl | rfl
  · exact isLow
  · omega

/-- The search goes from coarse to fine. -/
theorem nameFrom_eq_some
    {tries : ℕ}
    {start : ℤ}
    (found : nameFrom round x tries start = some (count, exponent)) :
    count? round x exponent = some count ∧
      ∀ coarser,
        exponent < coarser →
        coarser ≤ start →
        count? round x coarser = none := by
  induction tries generalizing start with
  | zero =>
      cases found
  | succ tries inductionHypothesis =>
      rcases isCount : count? round x start with _ | here
      · simp only [nameFrom, isCount] at found
        obtain ⟨isFound, noCoarser⟩ := inductionHypothesis found
        refine ⟨isFound, fun coarser above below => ?_⟩
        by_cases isStart : coarser = start
        · rw [isStart]
          exact isCount
        · exact noCoarser coarser above (by omega)
      · simp only [nameFrom, isCount, Option.some.injEq,
          Prod.mk.injEq] at found
        obtain ⟨rfl, rfl⟩ := found
        exact ⟨isCount, fun coarser above below => by omega⟩

/-- The search ends where there is a name. -/
theorem nameFrom_isSome
    {tries : ℕ}
    {start : ℤ}
    (above : exponent ≤ start)
    (below : start < exponent + tries)
    (isName : (count? round x exponent).isSome) :
    (nameFrom round x tries start).isSome := by
  induction tries generalizing start with
  | zero =>
      simp only [Nat.cast_zero, add_zero] at below
      omega
  | succ tries inductionHypothesis =>
      rcases isCount : count? round x start with _ | here
      · simp only [nameFrom, isCount]
        have notHere : exponent ≠ start := by
          rintro rfl
          rw [isCount] at isName
          cases isName
        push_cast at below
        exact inductionHypothesis (by omega) (by omega)
      · simp [nameFrom, isCount]

/-- The shortest name is a name. -/
theorem names_of_shortest?
    (found : shortest? round digits x = some (count, exponent)) :
    round (count * 10 ^ exponent) = x :=
  names_of_count? (nameFrom_eq_some found).1

/-- The shortest name is not negative. -/
theorem nonneg_of_shortest?
    (positive : 0 < x)
    (found : shortest? round digits x = some (count, exponent)) :
    0 ≤ count :=
  nonneg_of_count? positive (nameFrom_eq_some found).1

section Rounding

variable
  (isFixed : round x = x)
  (mono : ∀ {y z}, 0 ≤ y → y ≤ z → round y ≤ round z)
  (positive : 0 < x)

include isFixed mono positive

omit positive in
/-- What lies between a number and its name is a name. -/
theorem names_floor
    (nonneg : 0 ≤ other)
    (below : other ≤ ⌊x / 10 ^ exponent⌋)
    (names : round (other * 10 ^ exponent) = x) :
    round (⌊x / 10 ^ exponent⌋ * 10 ^ exponent) = x := by
  have isPower : (0 : ℚ) < 10 ^ exponent := by positivity
  have low := Int.floor_le (x / 10 ^ exponent)
  rw [le_div_iff₀ isPower] at low
  have isBelow : (other : ℚ) ≤ ⌊x / 10 ^ exponent⌋ := by
    exact_mod_cast below
  have nonnegOther : (0 : ℚ) ≤ other := by exact_mod_cast nonneg
  have ordered := mul_le_mul_of_nonneg_right isBelow isPower.le
  have fromName := mono (by positivity) ordered
  have toFixed := mono (ordered.trans' (by positivity)) low
  rw [names] at fromName
  rw [isFixed] at toFixed
  exact le_antisymm toFixed fromName

/-- What lies between a number and its name is a name, from above. -/
theorem names_next
    (above : ⌊x / 10 ^ exponent⌋ + 1 ≤ other)
    (names : round (other * 10 ^ exponent) = x) :
    round ((⌊x / 10 ^ exponent⌋ + 1 : ℤ) * 10 ^ exponent) = x := by
  have isPower : (0 : ℚ) < 10 ^ exponent := by positivity
  have high := Int.lt_floor_add_one (x / 10 ^ exponent)
  rw [div_lt_iff₀ isPower] at high
  have isAbove : ((⌊x / 10 ^ exponent⌋ + 1 : ℤ) : ℚ) ≤ other := by
    exact_mod_cast above
  have ordered := mul_le_mul_of_nonneg_right isAbove isPower.le
  push_cast at ordered ⊢
  have fromFixed := mono positive.le high.le
  have toName := mono (positive.le.trans high.le) ordered
  rw [names] at toName
  rw [isFixed] at fromFixed
  exact le_antisymm toName fromFixed

/-- Where some whole number names a number, one is found. -/
theorem count?_isSome
    (nonneg : 0 ≤ other)
    (names : round (other * 10 ^ exponent) = x) :
    (count? round x exponent).isSome := by
  rw [count?, List.find?_isSome]
  rcases le_or_gt other ⌊x / 10 ^ exponent⌋ with below | above
  · refine ⟨⌊x / 10 ^ exponent⌋, by simp, ?_⟩
    simpa using names_floor isFixed mono nonneg below names
  · refine ⟨⌊x / 10 ^ exponent⌋ + 1, by simp, ?_⟩
    simpa using
      names_next isFixed mono positive (Int.add_one_le_iff.mpr above) names

/-- The shortest name is not finer than any other name. -/
theorem coarsest_of_shortest?
    (found : shortest? round digits x = some (count, exponent))
    (nonneg : 0 ≤ other)
    (names : round (other * 10 ^ coarser) = x)
    (small : coarser ≤ Int.log 10 x + 1) :
    coarser ≤ exponent := by
  by_contra above
  have isSome := count?_isSome isFixed mono positive nonneg names
  rw [(nameFrom_eq_some found).2 coarser (by omega) small] at isSome
  cases isSome

/-- There is a shortest name where some name has few digits. -/
theorem shortest?_isSome
    (nonneg : 0 ≤ other)
    (names :
      round (other * 10 ^ (Int.log 10 x + 1 - digits)) = x) :
    (shortest? round digits x).isSome := by
  have isSome := count?_isSome isFixed mono positive nonneg names
  refine nameFrom_isSome ?_ ?_ isSome
  · omega
  · push_cast
    omega

/-- Of the names with one power of ten the nearest is found. -/
theorem nearest_of_count?
    (found : count? round x exponent = some count)
    (nonneg : 0 ≤ other)
    (differs : other ≠ count)
    (names : round (other * 10 ^ exponent) = x) :
    |(count : ℚ) - x / 10 ^ exponent| <
        |(other : ℚ) - x / 10 ^ exponent| ∨
      |(count : ℚ) - x / 10 ^ exponent| =
          |(other : ℚ) - x / 10 ^ exponent| ∧
        Even count := by
  have isName := names_of_count? found
  have isAround := around_of_count? found
  have low := Int.floor_le (x / 10 ^ exponent)
  have high := Int.lt_floor_add_one (x / 10 ^ exponent)
  by_cases nearestNames :
      round (roundHalfEven (x / 10 ^ exponent) * 10 ^ exponent) = x
  · obtain rfl : count = roundHalfEven (x / 10 ^ exponent) := by
      simp only [count?, List.find?_cons, nearestNames, decide_true,
        Option.some.injEq] at found
      exact found.symm
    exact roundHalfEven_nearest differs
  · left
    -- Only one of the two integers around the quotient names the number.
    rcases le_or_gt other ⌊x / 10 ^ exponent⌋ with below | above
    · have floorNames :=
        names_floor isFixed mono nonneg below names
      have isFloor : count = ⌊x / 10 ^ exponent⌋ := by
        have notNearest :
            roundHalfEven (x / 10 ^ exponent) ≠ ⌊x / 10 ^ exponent⌋ := by
          intro same
          rw [same] at nearestNames
          exact nearestNames floorNames
        simp only [count?, List.find?_cons, nearestNames, floorNames,
          decide_false, decide_true, Option.some.injEq] at found
        exact found.symm
      have isLess : (other : ℚ) + 1 ≤ ⌊x / 10 ^ exponent⌋ := by
        have less : other + 1 ≤ ⌊x / 10 ^ exponent⌋ := by omega
        exact_mod_cast less
      rw [isFloor, abs_sub_comm, abs_of_nonneg (by linarith),
        abs_sub_comm (other : ℚ), abs_of_nonneg (by linarith)]
      linarith
    · have nextNames :=
        names_next isFixed mono positive (by omega) names
      have isNext : count = ⌊x / 10 ^ exponent⌋ + 1 := by
        rcases isAround with isFloor | isNext
        · rcases @roundHalfEven_cases (x / 10 ^ exponent) with
            ⟨isLow, _⟩ | ⟨isHigh, _⟩
          · rw [isLow, ← isFloor] at nearestNames
            exact absurd isName nearestNames
          · rw [isHigh] at nearestNames
            exact absurd nextNames nearestNames
        · exact isNext
      have isMore : ((⌊x / 10 ^ exponent⌋ : ℚ) + 1) + 1 ≤ other := by
        have more : ⌊x / 10 ^ exponent⌋ + 1 + 1 ≤ other := by omega
        exact_mod_cast more
      rw [isNext]
      push_cast
      rw [abs_of_nonneg (by linarith), abs_of_nonneg (by linarith)]
      linarith

/-- What is found is the shortest name. -/
theorem isShortestName_of_shortest?
    (found : shortest? round digits x = some (count, exponent))
    (small :
      ∀ other coarser : ℤ,
        0 ≤ other →
        Int.log 10 x + 1 < coarser →
        round (other * 10 ^ coarser) ≠ x) :
    IsShortestName round x count exponent := by
  refine ⟨nonneg_of_shortest? positive found, names_of_shortest? found,
    ?_, ?_⟩
  · intro other coarser nonneg above names
    by_cases isCoarse : coarser ≤ Int.log 10 x + 1
    · have notCoarser :=
        coarsest_of_shortest? isFixed mono positive found nonneg names
          isCoarse
      omega
    · exact small other coarser nonneg (by omega) names
  · intro other nonneg differs names
    exact
      nearest_of_count? isFixed mono positive (nameFrom_eq_some found).1
        nonneg differs names

omit mono positive in
/-- A number has one shortest name. -/
theorem IsShortestName.unique
    (first : IsShortestName round x count exponent)
    (second : IsShortestName round x secondCount secondExponent) :
    count = secondCount ∧ exponent = secondExponent := by
  have sameExponent : exponent = secondExponent := by
    rcases lt_trichotomy exponent secondExponent with
      finer | same | coarser
    · exact
        absurd second.names (first.coarsest _ _ second.nonneg finer)
    · exact same
    · exact
        absurd first.names (second.coarsest _ _ first.nonneg coarser)
  subst sameExponent
  refine ⟨?_, rfl⟩
  by_contra differ
  have isPower : (0 : ℚ) < 10 ^ exponent := by positivity
  have firstNearest :=
    first.nearest _ second.nonneg (Ne.symm differ) second.names
  have secondNearest := second.nearest _ first.nonneg differ first.names
  rcases firstNearest with less | ⟨same, even⟩
  · rcases secondNearest with more | ⟨alsoSame, _⟩
    · exact lt_asymm less more
    · exact less.ne' alsoSame
  rcases secondNearest with more | ⟨_, alsoEven⟩
  · exact more.ne' same
  -- Between two even counts as near as each other lies a nearer one.
  obtain ⟨half, rfl⟩ := even
  obtain ⟨otherHalf, rfl⟩ := alsoEven
  have isMiddle : x / 10 ^ exponent = (half + otherHalf : ℤ) := by
    rcases abs_eq_abs.mp same with equal | opposite
    · push_cast at equal
      have sameHalf : (half : ℚ) = otherHalf := by linarith
      have : half = otherHalf := by exact_mod_cast sameHalf
      exact absurd (by rw [this]) differ
    · push_cast at opposite ⊢
      linarith
  have middleNames :
      round (((half + otherHalf : ℤ) : ℚ) * 10 ^ exponent) = x := by
    rw [← isMiddle, div_mul_cancel₀ _ isPower.ne', isFixed]
  have nonneg := first.nonneg
  have alsoNonneg := second.nonneg
  rcases first.nearest (half + otherHalf) (by omega) (by omega)
      middleNames with less | ⟨equal, _⟩
  · rw [isMiddle, sub_self, abs_zero] at less
    exact absurd less (abs_nonneg _).not_gt
  · rw [isMiddle, sub_self, abs_zero, abs_eq_zero, sub_eq_zero] at equal
    have equalInts : half + half = half + otherHalf := by
      exact_mod_cast equal
    omega

end Rounding

end Search

/-! ## Enough digits -/

section Format

variable {format : Format} {x : ℚ}

/--
A power of ten that is small beside a number of the format has a whole number
that names it.
-/
theorem exists_names
    {digits : ℕ}
    {exponent : ℤ}
    (represents : format.Represents x)
    (positive : 0 < x)
    (twoDigits : 2 ≤ format.precision)
    (enough : 2 ^ format.precision < 10 ^ digits)
    (small : (10 : ℚ) ^ exponent * 10 ^ digits ≤ x) :
    ∃ count : ℤ,
      0 ≤ count ∧ format.round (count * 10 ^ exponent) = x := by
  have isStep : 0 < format.step x := Format.step_pos
  have isPower : (0 : ℚ) < 10 ^ exponent := by positivity
  have low := Int.floor_le (x / 10 ^ exponent)
  have high := Int.lt_floor_add_one (x / 10 ^ exponent)
  rw [le_div_iff₀ isPower] at low
  rw [div_lt_iff₀ isPower] at high
  have nonneg : 0 ≤ ⌊x / 10 ^ exponent⌋ := by
    apply Int.floor_nonneg.mpr
    positivity
  have next := Format.add_step_le_power represents
  have isTop :
      (2 : ℚ) ^ (format.exponent x + format.precision) =
        2 ^ format.precision * format.step x := by
    rw [zpow_add₀ (by norm_num), mul_comm, zpow_natCast]
    rfl
  have enoughDigits : (2 : ℚ) ^ format.precision < 10 ^ digits := by
    exact_mod_cast enough
  have narrow : (10 : ℚ) ^ exponent < format.step x := by
    have below : (10 : ℚ) ^ exponent * 10 ^ digits <
        format.step x * 10 ^ digits := by
      calc
        (10 : ℚ) ^ exponent * 10 ^ digits ≤ x := small
        _ < 2 ^ format.precision * format.step x := by linarith
        _ ≤ format.step x * 10 ^ digits := by
          rw [mul_comm]
          exact mul_le_mul_of_nonneg_left enoughDigits.le isStep.le
    exact lt_of_mul_lt_mul_right below (by positivity)
  generalize isLow : (⌊x / 10 ^ exponent⌋ : ℚ) * 10 ^ exponent = lower
    at low
  have isHigh :
      ((⌊x / 10 ^ exponent⌋ + 1 : ℤ) : ℚ) * 10 ^ exponent =
        lower + 10 ^ exponent := by
    rw [← isLow]
    push_cast
    ring
  have below : x < lower + 10 ^ exponent := by
    rw [← isLow]
    linarith
  have upward :
      lower + 10 ^ exponent < x + format.step x / 2 →
        ∃ count : ℤ,
          0 ≤ count ∧ format.round (count * 10 ^ exponent) = x := by
    intro near
    refine ⟨⌊x / 10 ^ exponent⌋ + 1, by omega, ?_⟩
    rw [isHigh]
    exact
      Format.round_eq_of_above represents positive below.le near
  by_cases fine : (10 : ℚ) ^ exponent < 3 / 4 * format.step x
  · by_cases near : x < lower + format.step x / 4
    · refine ⟨⌊x / 10 ^ exponent⌋, nonneg, ?_⟩
      rw [isLow]
      exact Format.round_eq_of_quarter represents positive low near
    · exact upward (by linarith)
  · by_cases near : x < lower + format.step x / 2
    · refine ⟨⌊x / 10 ^ exponent⌋, nonneg, ?_⟩
      rw [isLow]
      -- The power of ten is so coarse that the number is not a power of two.
      have isHalfTop :
          (2 : ℚ) ^ (format.exponent x + format.precision - 1) =
            2 ^ (format.precision - 1) * format.step x := by
        obtain ⟨fewer, isPrecision⟩ :=
          Nat.exists_eq_add_one.mpr format.somePrecision
        have split :
            format.exponent x + format.precision - 1 =
              (fewer : ℤ) + format.exponent x := by
          rw [isPrecision]
          push_cast
          ring
        rw [split, zpow_add₀ (by norm_num), zpow_natCast, isPrecision]
        rfl
      have isDouble :
          (2 : ℚ) ^ format.precision =
            2 * 2 ^ (format.precision - 1) := by
        rw [← pow_succ', Nat.sub_add_cancel format.somePrecision]
      have atLeastTwo : (2 : ℚ) ≤ 2 ^ (format.precision - 1) := by
        calc
          (2 : ℚ) = 2 ^ 1 := (pow_one 2).symm
          _ ≤ 2 ^ (format.precision - 1) :=
            pow_le_pow_right₀ (by norm_num) (by omega)
      have large : 3 / 4 * format.step x * 2 ^ format.precision < x := by
        calc
          3 / 4 * format.step x * 2 ^ format.precision <
              3 / 4 * format.step x * 10 ^ digits :=
            mul_lt_mul_of_pos_left enoughDigits (by positivity)
          _ ≤ 10 ^ exponent * 10 ^ digits :=
            mul_le_mul_of_nonneg_right (not_lt.mp fine) (by positivity)
          _ ≤ x := small
      have power :
          (2 : ℚ) ^ (format.exponent x + format.precision - 1) ≤ lower := by
        rw [isHalfTop]
        rw [isDouble] at large
        have spare :=
          mul_le_mul_of_nonneg_right atLeastTwo isStep.le
        linarith
      have positiveLower : 0 < lower :=
        lt_of_lt_of_le (by positivity) power
      exact
        Format.round_eq_of_upper represents positiveLower low power near
    · exact upward (by linarith)

end Format

end DecimalNames
