import Sparkz.JsNumberTexts

namespace Sparkz

open BinaryRounding DecimalNames

/-!
# Cents and their numbers

An amount of cents becomes a number when it is divided by a hundred, or when
its decimal is read.  The number shows the cents again as long as their decimal
is the shortest name of the double nearest to it, as all cents below a bound
are.
-/

/--
The double nearest to some cents shows them: their decimal is plain, and it is
the shortest name of the double.
-/
structure AreShown (cents : ℕ) : Prop where
  plain : cents < 10 ^ 23
  shortest :
    ∃ count zeros : ℕ,
      cents = count * 10 ^ zeros ∧
        IsShortestName binary64.round (binary64.round (cents / 100)) count
          ((zeros : ℤ) - 2)

/--
Some cents survive their division: there are none, or their double does not
depend on whether their count is rounded first, and it shows them.
-/
def SurviveDivision (cents : ℕ) : Prop :=
  cents = 0 ∨
    binary64.round (binary64.round cents / 100) =
        binary64.round (cents / 100) ∧
      AreShown cents

section Decimals

variable {x : ℚ} {count cents : ℕ} {exponent : ℤ}

/-- A decimal of two digits at most is its cents. -/
theorem DecimalText.value_eq_cents
    {decimal : DecimalText}
    (short : decimal.fraction.length ≤ 2) :
    decimal.value = (decimal.flooredUnits : ℚ) / 100 := by
  rcases decimal with ⟨whole, _ | ⟨tenths, _ | ⟨hundredths, rest⟩⟩⟩
  · simp only [DecimalText.value, DecimalText.flooredUnits,
      DecimalText.cents, digitsValue, List.foldl_nil, List.length_nil]
    push_cast
    ring
  · simp only [DecimalText.value, DecimalText.flooredUnits,
      DecimalText.cents, digitsValue, List.foldl_cons, List.foldl_nil,
      List.length_singleton]
    push_cast
    ring
  · obtain rfl : rest = [] := by
      apply List.length_eq_zero_iff.mp
      simp only [List.length_cons] at short
      omega
    simp only [DecimalText.value, DecimalText.flooredUnits,
      DecimalText.cents, digitsValue, List.foldl_cons, List.foldl_nil,
      List.length_cons, List.length_nil]
    push_cast
    ring

/-- What is shown is an amount exactly when it is a plain decimal of cents. -/
theorem canonicalTokenAmount_ofDecimal :
    canonicalTokenAmount (.ofDecimal count exponent) = some ⟨cents⟩ ↔
      IsPlain ((count : ℚ) * 10 ^ exponent) ∧
        (count : ℚ) * 10 ^ exponent = cents / 100 := by
  constructor
  · intro canonical
    have truncated :=
      truncateTokenAmount_ofDecimal.mp (truncate_of_canonical canonical)
    refine ⟨truncated.1, ?_⟩
    rw [ofDecimal_of_plain truncated.1] at canonical
    simp only [canonicalTokenAmount, decimalParts] at canonical
    split at canonical
    · cases canonical
    · rename_i short
      cases canonical
      rw [← DecimalText.value_eq_cents (not_lt.mp short), value_plain]
  · rintro ⟨isPlain, isCents⟩
    rw [ofDecimal_eq_ofCents isPlain isCents,
      canonicalTokenAmount_ofCents]

/-- Cents are hundredths. -/
theorem hundredth_eq (cents : ℕ) :
    (cents : ℚ) * 10 ^ (-2 : ℤ) = cents / 100 := by
  norm_num
  ring

/-- Cents as a decimal with some zeros. -/
theorem cents_eq (zeros : ℕ) :
    ((count * 10 ^ zeros : ℕ) : ℚ) / 100 =
      ((count : ℤ) : ℚ) * 10 ^ ((zeros : ℤ) - 2) := by
  rw [zpow_sub₀ (by norm_num)]
  push_cast
  norm_num
  ring

/-- A positive double shows cents exactly when they are its shortest name. -/
theorem canonicalTokenAmount_shown_iff (isDouble : IsDouble x) :
    canonicalTokenAmount (Double.finite x).shown = some ⟨cents⟩ ↔
      binary64.round (cents / 100) = x ∧ AreShown cents := by
  obtain ⟨count, exponent, isShown⟩ := isDouble.isShown
  have isText : (Double.finite x).shown = .ofDecimal count exponent := by
    rw [← isShown.shown_ofRational isDouble isDouble.round_eq,
      ofRational_of_round isDouble isDouble.round_eq]
  rw [isText, canonicalTokenAmount_ofDecimal]
  constructor
  · rintro ⟨isPlain, isCents⟩
    have names : binary64.round (cents / 100) = x := by
      rw [← isCents]
      exact isShown.names
    have isCoarse : -2 ≤ exponent := by
      by_contra finer
      apply isShown.shortest.coarsest cents (-2) (Int.natCast_nonneg _)
        (by omega)
      rw [← names, ← hundredth_eq cents]
      push_cast
      rfl
    have whole : ((exponent + 2).toNat : ℤ) - 2 = exponent := by omega
    refine ⟨names, ?_, count, (exponent + 2).toNat, ?_, ?_⟩
    · have below := isPlain.2
      rw [isCents, div_lt_iff₀ (by norm_num)] at below
      have inCents : (cents : ℚ) < 10 ^ 23 := by linarith
      exact_mod_cast inCents
    · have same :
          (cents : ℚ) / 100 =
            ((count * 10 ^ (exponent + 2).toNat : ℕ) : ℚ) / 100 := by
        rw [cents_eq, whole, ← isCents, Int.cast_natCast]
      rw [div_left_inj' (by norm_num)] at same
      exact_mod_cast same
    · rw [names, whole]
      exact isShown.shortest
  · rintro ⟨names, isPlain, some, zeros, isCents, isShortest⟩
    rw [names] at isShortest
    obtain ⟨sameCount, sameExponent⟩ :=
      isShown.shortest.unique isDouble.round_eq isShortest
    have isValue : (count : ℚ) * 10 ^ exponent = cents / 100 := by
      rw [isCents, cents_eq, ← sameCount, ← sameExponent,
        Int.cast_natCast]
    refine ⟨?_, isValue⟩
    have positive := isShown.positive isDouble
    rw [isValue] at positive ⊢
    have someCents : (1 : ℚ) ≤ cents := by
      have isPositive : (0 : ℚ) < cents := by linarith
      exact_mod_cast isPositive
    constructor
    · linarith
    · have below : (cents : ℚ) < 10 ^ 23 := by exact_mod_cast isPlain
      linarith

end Decimals

/-! ## Dividing cents -/

section Division

variable {x : ℚ} {cents : ℕ}

/-- A number that is not too small is rounded to a positive double. -/
theorem isDouble_round
    (large : 1 / 128 ≤ x)
    (bounded : |binary64.round x| < 2 ^ 1024) :
    IsDouble (binary64.round x) := by
  have positive : 0 < x := by linarith
  have least : (2 : ℚ) ^ binary64.leastExponent ≤ x := by
    refine leastDouble_le (large.trans' ?_)
    norm_num
  have half := @Format.le_two_mul_round binary64 x positive least
  refine ⟨by linarith, Format.represents_round, ?_⟩
  exact (le_abs_self _).trans_lt bounded

/-- The double of a decimal shows it exactly when it is one of cents. -/
theorem canonicalTokenAmount_ofRational_iff
    (large : 1 / 128 ≤ x)
    (bounded : |binary64.round x| < 2 ^ 1024) :
    canonicalTokenAmount (Double.ofRational x).shown = some ⟨cents⟩ ↔
      binary64.round x = binary64.round (cents / 100) ∧
        AreShown cents := by
  rw [Double.ofRational, if_pos bounded,
    canonicalTokenAmount_shown_iff (isDouble_round large bounded),
    eq_comm]

/-- A great number shows no amount. -/
theorem canonicalTokenAmount_infinite
    (nonneg : 0 ≤ x)
    (unbounded : ¬ |binary64.round x| < 2 ^ 1024) :
    canonicalTokenAmount (Double.ofRational x).shown = none := by
  rw [Double.ofRational, if_neg unbounded]
  simp only [nonneg.not_gt, decide_false]
  rfl

/-- Plain decimals are not too great for a double. -/
theorem round_lt_of_plain (nonneg : 0 ≤ x) (plain : x ≤ 10 ^ 23) :
    |binary64.round x| < 2 ^ 1024 := by
  rw [abs_of_nonneg (Format.round_nonneg nonneg)]
  have represents : binary64.Represents (2 ^ (77 : ℤ)) :=
    Format.represents_zpow (by decide)
  have below :=
    Format.round_le_of_represents nonneg
      (plain.trans (by norm_num)) represents
  refine below.trans_lt ?_
  rw [← zpow_natCast]
  exact zpow_lt_zpow_right₀ (by norm_num) (by norm_num)

/-- The decimal of some cents shows them when it is read. -/
theorem canonicalTokenAmount_number_iff :
    canonicalTokenAmount (TokenAmount.number ⟨cents⟩) = some ⟨cents⟩ ↔
      cents = 0 ∨ AreShown cents := by
  rcases Nat.eq_zero_or_pos cents with rfl | positive
  · simp [TokenAmount.number, Double.ofRational, Double.shown,
      JsNumber.ofNat, canonicalTokenAmount, decimalParts,
      DecimalText.flooredUnits, DecimalText.cents]
  have some : (1 : ℚ) ≤ cents := by exact_mod_cast positive
  simp only [positive.ne', false_or]
  by_cases bounded : |binary64.round ((cents : ℚ) / 100)| < 2 ^ 1024
  · rw [TokenAmount.number,
      canonicalTokenAmount_ofRational_iff (by linarith) bounded]
    exact and_iff_right rfl
  · rw [TokenAmount.number,
      canonicalTokenAmount_infinite (by positivity) bounded]
    refine iff_of_false (by simp) fun areShown => bounded ?_
    have plain : (cents : ℚ) < 10 ^ 23 := by exact_mod_cast areShown.plain
    exact round_lt_of_plain (by positivity) (by linarith)

/-- A positive count is not rounded below one. -/
theorem one_le_round (some : 0 < cents) :
    (1 : ℚ) ≤ binary64.round cents := by
  have atLeast : (1 : ℚ) ≤ cents := by exact_mod_cast some
  have represents : binary64.Represents (2 ^ (0 : ℤ)) :=
    Format.represents_zpow (by decide)
  simpa using
    Format.le_round_of_represents (by norm_num) (by simpa using atLeast)
      represents

/-- The quotient of a count that is not too great for a double. -/
theorem Double.ofUnits_finite
    (bounded : |binary64.round (cents : ℚ)| < 2 ^ 1024) :
    Double.ofUnits cents =
        .ofRational (binary64.round cents / 100) ∧
      |binary64.round (binary64.round cents / 100)| < 2 ^ 1024 := by
  have nonneg : 0 ≤ binary64.round (cents : ℚ) :=
    Format.round_nonneg (Nat.cast_nonneg _)
  constructor
  · rw [Double.ofUnits, Double.ofRational, if_pos bounded]
  · have less :
        binary64.round (cents : ℚ) / 100 ≤ binary64.round cents :=
      div_le_self nonneg (by norm_num)
    have nonnegQuotient : 0 ≤ binary64.round (cents : ℚ) / 100 :=
      div_nonneg nonneg (by norm_num)
    have notMore :=
      Format.round_le_of_represents nonnegQuotient less
        Format.represents_round
    rw [abs_of_nonneg nonneg] at bounded
    rw [abs_of_nonneg (Format.round_nonneg nonnegQuotient)]
    exact notMore.trans_lt bounded

/-- Too many cents have an infinite quotient. -/
theorem Double.ofUnits_infinite
    (unbounded : ¬ |binary64.round (cents : ℚ)| < 2 ^ 1024) :
    Double.ofUnits cents = .ofRational cents := by
  rw [Double.ofUnits, Double.ofRational, if_neg unbounded]

@[simp] theorem Double.ofUnits_zero : Double.ofUnits 0 = .finite 0 := by
  simp [Double.ofUnits, Double.ofRational]

/-- The quotient of some cents shows them when they survive the division. -/
theorem canonicalTokenAmount_ofUnits_iff :
    canonicalTokenAmount (.ofUnits cents) = some ⟨cents⟩ ↔
      SurviveDivision cents := by
  unfold SurviveDivision JsNumber.ofUnits
  rcases Nat.eq_zero_or_pos cents with rfl | some
  · simp [Double.shown, JsNumber.ofNat, canonicalTokenAmount, decimalParts,
      DecimalText.flooredUnits, DecimalText.cents]
  simp only [some.ne', false_or]
  by_cases bounded : |binary64.round (cents : ℚ)| < 2 ^ 1024
  · obtain ⟨isQuotient, quotient⟩ := Double.ofUnits_finite bounded
    have atLeast := one_le_round some
    rw [isQuotient]
    exact
      canonicalTokenAmount_ofRational_iff (by linarith) quotient
  · rw [Double.ofUnits_infinite bounded,
      canonicalTokenAmount_infinite (by positivity) bounded]
    refine iff_of_false (by simp) fun survive => bounded ?_
    have plain : (cents : ℚ) < 10 ^ 23 := by
      exact_mod_cast survive.2.plain
    exact round_lt_of_plain (by positivity) plain.le

/-- A quotient is positive exactly when there are cents. -/
theorem Double.zero_less_ofUnits :
    (Double.finite 0).less (.ofUnits cents) = true ↔ 0 < cents := by
  rcases Nat.eq_zero_or_pos cents with rfl | some
  · simp [Double.less]
  refine iff_of_true ?_ some
  by_cases bounded : |binary64.round (cents : ℚ)| < 2 ^ 1024
  · obtain ⟨isQuotient, quotient⟩ := Double.ofUnits_finite bounded
    have atLeast := one_le_round some
    have isDouble := isDouble_round (by linarith) quotient
    rw [isQuotient, Double.ofRational, if_pos quotient]
    simpa [Double.less] using isDouble.positive
  · rw [Double.ofUnits_infinite bounded, Double.ofRational,
      if_neg bounded]
    have nonneg : ¬ (cents : ℚ) < 0 := not_lt.mpr (by positivity)
    simp [Double.less, nonneg]

end Division

/-! ## Cents below the bound -/

section Bounded

variable {cents : ℕ}

/-- Below this bound the doubles are closer than cents. -/
theorem near_of_cents
    (some : 0 < cents)
    (bounded : (cents : ℚ) / 100 < 2 ^ 46) :
    |binary64.round (cents / 100) - cents / 100| ≤ 1 / 256 := by
  have positive : (0 : ℚ) < cents := by exact_mod_cast some
  have isExponent : binary64.exponent ((cents : ℚ) / 100) ≤ -7 := by
    apply Format.exponent_le (by positivity) _ (by decide)
    rw [abs_of_pos (by positivity)]
    norm_num [binary64]
    linarith
  have isStep : binary64.step ((cents : ℚ) / 100) ≤ 2 ^ (-7 : ℤ) :=
    zpow_le_zpow_right₀ (by norm_num) isExponent
  have near := @Format.abs_round_sub_le binary64 ((cents : ℚ) / 100)
  norm_num at isStep
  linarith

/-- Cents below the bound are shown by their double. -/
theorem areShown_of_bounded
    (some : 0 < cents)
    (bounded : cents ≤ 2 ^ 45 * 100) :
    AreShown cents := by
  have positive : (0 : ℚ) < cents := by exact_mod_cast some
  have atLeast : (1 : ℚ) ≤ cents := by exact_mod_cast some
  have below : (cents : ℚ) / 100 ≤ 2 ^ 45 := by
    rw [div_le_iff₀ (by norm_num)]
    exact_mod_cast bounded
  have near := abs_le.mp (near_of_cents some (by linarith))
  have isDouble : IsDouble (binary64.round (cents / 100)) :=
    isDouble_round (by linarith)
      (round_lt_of_plain (by positivity) (by linarith))
  obtain ⟨count, exponent, isShown⟩ := isDouble.isShown
  obtain ⟨many, isMany⟩ :=
    isShown.multiple (congrArg binary64.round (hundredth_eq cents))
  rw [hundredth_eq] at isMany
  have manyNames := isShown.names
  rw [isMany] at manyNames
  have someMany : 0 < many := by
    have positiveMany := isShown.positive isDouble
    rw [isMany] at positiveMany
    have isPositive : (0 : ℚ) < many := by linarith
    exact_mod_cast isPositive
  have manyBelow : (many : ℚ) / 100 < 2 ^ 46 := by
    by_contra notBelow
    have represents : binary64.Represents (2 ^ (46 : ℤ)) :=
      Format.represents_zpow (by decide)
    have reached :=
      Format.le_round_of_represents (by positivity) (not_lt.mp notBelow)
        represents
    rw [manyNames] at reached
    linarith
  have manyNear := abs_le.mp (near_of_cents someMany manyBelow)
  rw [manyNames] at manyNear
  have same : many = cents := by
    have less : (many : ℚ) < cents + 1 := by linarith
    have more : (cents : ℚ) < many + 1 := by linarith
    have lessCast : many < cents + 1 := by exact_mod_cast less
    have moreCast : cents < many + 1 := by exact_mod_cast more
    omega
  rw [same] at isMany
  have isPlain : IsPlain ((count : ℚ) * 10 ^ exponent) := by
    rw [isMany]
    constructor
    · linarith
    · have power : (2 : ℚ) ^ 45 < 10 ^ 21 := by norm_num
      linarith
  have isText :
      (Double.finite (binary64.round (cents / 100))).shown =
        .ofDecimal count exponent := by
    rw [← isShown.shown_ofRational isDouble isDouble.round_eq,
      ofRational_of_round isDouble isDouble.round_eq]
  apply ((canonicalTokenAmount_shown_iff isDouble).mp _).2
  rw [isText, canonicalTokenAmount_ofDecimal]
  exact ⟨isPlain, isMany⟩

/-- The count of cents below the bound is a double. -/
theorem round_of_bounded (bounded : cents ≤ 2 ^ 45 * 100) :
    binary64.round (cents : ℚ) = cents := by
  have represents : binary64.Represents ((cents : ℤ) : ℚ) :=
    Format.represents_intCast
      (by rw [Nat.abs_cast]; norm_num [binary64]; omega) (by decide)
  have isFixed := Format.round_of_represents represents
  rwa [Int.cast_natCast] at isFixed

/-- Cents below the bound survive their division. -/
theorem survive_of_bounded (bounded : cents ≤ 2 ^ 45 * 100) :
    SurviveDivision cents := by
  rcases Nat.eq_zero_or_pos cents with isZero | some
  · exact .inl isZero
  · refine .inr ⟨?_, areShown_of_bounded some bounded⟩
    rw [round_of_bounded bounded]

/-- Cents below the bound are those of the fixed digits of their quotient. -/
theorem fixedUnits_of_bounded (bounded : cents ≤ 2 ^ 45 * 100) :
    (Double.ofUnits cents).fixedUnits = cents := by
  rcases Nat.eq_zero_or_pos cents with rfl | some
  · norm_num [Double.fixedUnits]
  have small : (cents : ℚ) ≤ 2 ^ 45 * 100 := by exact_mod_cast bounded
  have finite : |binary64.round (cents : ℚ)| < 2 ^ 1024 :=
    round_lt_of_plain (by positivity) (by linarith)
  obtain ⟨isQuotient, quotient⟩ := Double.ofUnits_finite finite
  rw [round_of_bounded bounded] at isQuotient quotient
  rw [isQuotient, Double.ofRational, if_pos quotient]
  have near := abs_le.mp (near_of_cents some (by linarith))
  rw [Double.fixedUnits, Nat.floor_eq_iff (by linarith)]
  constructor
  · linarith
  · linarith

/-- There are fixed digits exactly when there are cents. -/
theorem fixedUnits_pos_iff
    (finite : |binary64.round (cents : ℚ)| < 2 ^ 1024) :
    0 < (Double.ofUnits cents).fixedUnits ↔ 0 < cents := by
  rcases Nat.eq_zero_or_pos cents with rfl | some
  · norm_num [Double.fixedUnits]
  refine iff_of_true ?_ some
  obtain ⟨isQuotient, quotient⟩ := Double.ofUnits_finite finite
  have atLeast := one_le_round some
  rw [isQuotient, Double.ofRational, if_pos quotient, Double.fixedUnits,
    Nat.floor_pos]
  have represents : binary64.Represents (2 ^ (-7 : ℤ)) :=
    Format.represents_zpow (by decide)
  have reached :=
    Format.le_round_of_represents (by positivity)
      (show (2 : ℚ) ^ (-7 : ℤ) ≤ binary64.round cents / 100 by
        norm_num
        linarith)
      represents
  norm_num at reached
  linarith

end Bounded

end Sparkz
