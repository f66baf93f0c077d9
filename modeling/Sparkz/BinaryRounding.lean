import Mathlib.Algebra.Order.Archimedean.Basic
import Mathlib.Algebra.Order.Field.Power
import Mathlib.Algebra.Order.Floor.Ring
import Mathlib.Algebra.Order.Ring.Abs
import Mathlib.Data.Int.Log
import Mathlib.Data.Rat.Floor
import Mathlib.Tactic.Linarith
import Mathlib.Tactic.NormNum
import Mathlib.Tactic.Positivity
import Mathlib.Tactic.Ring

namespace BinaryRounding

/-!
# Rounding to a binary format

A binary format represents the multiples of a power of two, with a bounded
number of significant digits.  A rational number is rounded to the nearest of
them, and to the even one of two.
-/

/-! ## The nearest integer -/

/-- The nearest integer, and the even one of two. -/
def roundHalfEven (x : ℚ) : ℤ :=
  if x - ⌊x⌋ < 1 / 2 then ⌊x⌋
  else if 1 / 2 < x - ⌊x⌋ then ⌊x⌋ + 1
  else if Even ⌊x⌋ then ⌊x⌋
  else ⌊x⌋ + 1

section Integers

variable {x y : ℚ} {bound count other : ℤ}

/-- The nearest integer is one of the two around a number. -/
theorem roundHalfEven_cases :
    (roundHalfEven x = ⌊x⌋ ∧
        (x < ⌊x⌋ + 1 / 2 ∨ x = ⌊x⌋ + 1 / 2 ∧ Even ⌊x⌋)) ∨
      (roundHalfEven x = ⌊x⌋ + 1 ∧
        (⌊x⌋ + 1 / 2 < x ∨ x = ⌊x⌋ + 1 / 2 ∧ ¬ Even ⌊x⌋)) := by
  unfold roundHalfEven
  by_cases low : x - ⌊x⌋ < 1 / 2
  · exact .inl ⟨if_pos low, .inl (by linarith)⟩
  · rw [if_neg low]
    by_cases high : 1 / 2 < x - ⌊x⌋
    · exact .inr ⟨if_pos high, .inl (by linarith)⟩
    · rw [if_neg high]
      have middle : x = ⌊x⌋ + 1 / 2 := by linarith
      by_cases even : Even ⌊x⌋
      · exact .inl ⟨if_pos even, .inr ⟨middle, even⟩⟩
      · exact .inr ⟨if_neg even, .inr ⟨middle, even⟩⟩

/-- A number is rounded to a bound or above from half a step below it. -/
theorem le_roundHalfEven_iff :
    bound ≤ roundHalfEven x ↔
      (bound : ℚ) - 1 / 2 < x ∨ (bound : ℚ) - 1 / 2 = x ∧ Even bound := by
  have low := Int.floor_le x
  have high := Int.lt_floor_add_one x
  rcases lt_trichotomy bound (⌊x⌋ + 1) with below | same | above
  · have isBelow : (bound : ℚ) ≤ ⌊x⌋ := by
      exact_mod_cast Int.lt_add_one_iff.mp below
    have reached : (bound : ℚ) - 1 / 2 < x := by linarith
    rcases @roundHalfEven_cases x with ⟨isRound, _⟩ | ⟨isRound, _⟩
    · simp only [reached, true_or, iff_true]
      omega
    · simp only [reached, true_or, iff_true]
      omega
  · subst same
    push_cast
    rcases @roundHalfEven_cases x with
      ⟨isRound, less | ⟨middle, even⟩⟩ | ⟨isRound, more | ⟨middle, odd⟩⟩
    · rw [isRound]
      refine iff_of_false (by omega) ?_
      rintro (reached | ⟨reached, _⟩)
      · linarith
      · linarith
    · rw [isRound]
      refine iff_of_false (by omega) ?_
      rintro (reached | ⟨_, alsoEven⟩)
      · linarith
      · exact Int.not_even_iff_odd.mpr even.add_one alsoEven
    · rw [isRound]
      exact iff_of_true le_rfl (.inl (by linarith))
    · rw [isRound]
      refine iff_of_true le_rfl (.inr ⟨by linarith, ?_⟩)
      exact (Int.not_even_iff_odd.mp odd).add_one
  · have isAbove : (⌊x⌋ : ℚ) + 2 ≤ bound := by
      have next : ⌊x⌋ + 2 ≤ bound := by omega
      exact_mod_cast next
    refine iff_of_false ?_ ?_
    · rcases @roundHalfEven_cases x with ⟨isRound, _⟩ | ⟨isRound, _⟩
      · omega
      · omega
    · rintro (reached | ⟨reached, _⟩)
      · linarith
      · linarith

/-- Rounding respects the order. -/
theorem roundHalfEven_mono (least : x ≤ y) :
    roundHalfEven x ≤ roundHalfEven y := by
  rw [le_roundHalfEven_iff]
  rcases le_roundHalfEven_iff.mp (le_refl (roundHalfEven x)) with
    reached | ⟨reached, even⟩
  · exact .inl (lt_of_lt_of_le reached least)
  · rcases least.lt_or_eq with less | same
    · exact .inl (by linarith)
    · exact .inr ⟨reached.trans same, even⟩

/-- An integer is its own nearest integer. -/
@[simp] theorem roundHalfEven_intCast :
    roundHalfEven (count : ℚ) = count := by
  simp [roundHalfEven]

/-- Ties go to the same neighbour on both sides of zero. -/
theorem roundHalfEven_neg : roundHalfEven (-x) = -roundHalfEven x := by
  have reaches :
      ∀ bound : ℤ,
        bound ≤ roundHalfEven (-x) ↔ bound ≤ -roundHalfEven x := by
    intro bound
    have flipped :
        bound ≤ -roundHalfEven x ↔ ¬ -bound + 1 ≤ roundHalfEven x := by
      omega
    have parity : Even (-bound + 1) ↔ ¬ Even bound := by
      rw [Int.even_add_one, even_neg]
    rw [flipped, le_roundHalfEven_iff, le_roundHalfEven_iff, parity]
    push_cast
    constructor
    · rintro (above | ⟨middle, even⟩) (below | ⟨_, odd⟩)
      · linarith
      · linarith
      · linarith
      · exact odd even
    · intro notBelow
      push Not at notBelow
      obtain ⟨notLess, odd⟩ := notBelow
      rcases notLess.lt_or_eq with less | middle
      · exact Or.inl (by linarith)
      · exact Or.inr ⟨by linarith, odd (by linarith)⟩
  exact le_antisymm ((reaches _).mp le_rfl) ((reaches _).mpr le_rfl)

/-- The nearest integer is at most half a step away. -/
theorem abs_roundHalfEven_sub_le :
    |(roundHalfEven x : ℚ) - x| ≤ 1 / 2 := by
  have low := Int.floor_le x
  have high := Int.lt_floor_add_one x
  rw [abs_le]
  rcases @roundHalfEven_cases x with
    ⟨isRound, less | ⟨middle, _⟩⟩ | ⟨isRound, more | ⟨middle, _⟩⟩
  · rw [isRound]
    constructor <;> linarith
  · rw [isRound]
    constructor <;> linarith
  · rw [isRound]
    push_cast
    constructor <;> linarith
  · rw [isRound]
    push_cast
    constructor <;> linarith

/-- An integer closer than half a step is the nearest one. -/
theorem roundHalfEven_eq (near : |x - count| < 1 / 2) :
    roundHalfEven x = count := by
  obtain ⟨low, high⟩ := abs_lt.mp near
  apply le_antisymm
  · by_contra above
    have next : count + 1 ≤ roundHalfEven x := by omega
    rcases le_roundHalfEven_iff.mp next with reached | ⟨reached, _⟩
    · push_cast at reached
      linarith
    · push_cast at reached
      linarith
  · exact le_roundHalfEven_iff.mpr (.inl (by linarith))

/-- No integer is nearer than the nearest one, and of two it is even. -/
theorem roundHalfEven_nearest (differs : other ≠ roundHalfEven x) :
    |(roundHalfEven x : ℚ) - x| < |(other : ℚ) - x| ∨
      |(roundHalfEven x : ℚ) - x| = |(other : ℚ) - x| ∧
        Even (roundHalfEven x) := by
  have near := @abs_roundHalfEven_sub_le x
  by_cases closer : |(other : ℚ) - x| < 1 / 2
  · rw [abs_sub_comm] at closer
    exact absurd (roundHalfEven_eq closer).symm differs
  rcases (near.trans (not_lt.mp closer)).lt_or_eq with less | same
  · exact .inl less
  · refine .inr ⟨same, ?_⟩
    have isHalf : |(roundHalfEven x : ℚ) - x| = 1 / 2 :=
      le_antisymm near (same ▸ not_lt.mp closer)
    have low := Int.floor_le x
    have high := Int.lt_floor_add_one x
    rcases @roundHalfEven_cases x with
      ⟨isRound, less | ⟨_, even⟩⟩ | ⟨isRound, more | ⟨_, odd⟩⟩
    · rw [isRound, abs_sub_comm, abs_of_nonneg (by linarith)] at isHalf
      linarith
    · rw [isRound]
      exact even
    · rw [isRound] at isHalf
      push_cast at isHalf
      rw [abs_of_nonneg (by linarith)] at isHalf
      linarith
    · rw [isRound]
      exact (Int.not_even_iff_odd.mp odd).add_one

end Integers

/-! ## Formats -/

/-- A binary format without a greatest number. -/
structure Format where
  /-- The number of significant digits. -/
  precision : ℕ
  /-- The exponent of the least positive number. -/
  leastExponent : ℤ
  somePrecision : 0 < precision

namespace Format

variable (format : Format)

/-- The exponent of the distance between neighbours around a number. -/
def exponent (x : ℚ) : ℤ :=
  max (Int.log 2 |x| + 1 - format.precision) format.leastExponent

/-- The distance between neighbours around a number. -/
def step (x : ℚ) : ℚ :=
  2 ^ format.exponent x

/-- The nearest number of the format. -/
def round (x : ℚ) : ℚ :=
  roundHalfEven (x / format.step x) * format.step x

/-- The number belongs to the format. -/
def Represents (x : ℚ) : Prop :=
  ∃ count exponent : ℤ,
    |count| ≤ 2 ^ format.precision ∧
      format.leastExponent ≤ exponent ∧
      x = count * 2 ^ exponent

/-- A number comes within half a step of a bound, or is not below it. -/
def Reaches (x bound : ℚ) : Prop :=
  let count := ⌈bound / format.step x⌉
  (count : ℚ) - 1 / 2 < x / format.step x ∨
    (count : ℚ) - 1 / 2 = x / format.step x ∧ Even count

instance (x bound : ℚ) : Decidable (format.Reaches x bound) :=
  inferInstanceAs (Decidable (_ ∨ _))

/--
The distance between the numbers of the format just below a positive whole
number.
-/
def gapBelow (whole : ℕ) : ℚ :=
  2 ^ ((Nat.clog 2 whole : ℤ) - format.precision)

/--
A number lies above the middle between a whole number, or the first number of
the format above it, and the number of the format before that, or it is this
middle and the upper one of the two is the even one.
-/
def ComesUpTo (x : ℚ) (whole : ℕ) : Prop :=
  let count := ⌈whole / format.gapBelow whole⌉
  ((count : ℚ) - 1 / 2) * format.gapBelow whole < x ∨
    ((count : ℚ) - 1 / 2) * format.gapBelow whole = x ∧ Even count

instance (x : ℚ) (whole : ℕ) : Decidable (format.ComesUpTo x whole) :=
  inferInstanceAs (Decidable (_ ∨ _))

section Facts

variable {format : Format} {x y bound : ℚ} {count exponent : ℤ}
  {whole : ℕ}

theorem step_pos : 0 < format.step x := by
  unfold step
  positivity

/-- A number is rounded to a bound or above exactly if it reaches it. -/
theorem le_round_iff :
    bound ≤ format.round x ↔ format.Reaches x bound := by
  have positive : 0 < format.step x := step_pos
  rw [Reaches, ← le_roundHalfEven_iff, Int.ceil_le,
    div_le_iff₀ positive]
  rfl

/-- Rounding moves a number by at most half a step. -/
theorem abs_round_sub_le :
    |format.round x - x| ≤ format.step x / 2 := by
  have positive : 0 < format.step x := step_pos
  have split :
      format.round x - x =
        (roundHalfEven (x / format.step x) - x / format.step x) *
          format.step x := by
    rw [round, sub_mul, div_mul_cancel₀ _ positive.ne']
  rw [split, abs_mul, abs_of_pos positive]
  have near := @abs_roundHalfEven_sub_le (x / format.step x)
  calc
    |(roundHalfEven (x / format.step x) : ℚ) - x / format.step x| *
          format.step x ≤
        1 / 2 * format.step x :=
      mul_le_mul_of_nonneg_right near positive.le
    _ = format.step x / 2 := by ring

/-- A power of two is a whole number of lesser powers. -/
theorem zpow_eq_intCast_mul
    {lesser greater : ℤ}
    (ordered : lesser ≤ greater) :
    ((2 ^ (greater - lesser).toNat : ℤ) : ℚ) * 2 ^ lesser =
      2 ^ greater := by
  have split : (greater - lesser).toNat + lesser = greater := by omega
  push_cast
  rw [← zpow_natCast, ← zpow_add₀ (by norm_num), split]

/-- A number is less than the format's digits many steps. -/
theorem abs_div_step_lt :
    |x / format.step x| < 2 ^ format.precision := by
  have positive : 0 < format.step x := step_pos
  rw [abs_div, abs_of_pos positive, div_lt_iff₀ positive]
  have below :
      |x| < ((2 : ℕ) : ℚ) ^ (Int.log 2 |x| + 1) :=
    Int.lt_zpow_succ_log_self (by decide) |x|
  refine lt_of_lt_of_le below ?_
  rw [step, ← zpow_natCast (2 : ℚ), ← zpow_add₀ (by norm_num)]
  refine zpow_le_zpow_right₀ (by norm_num) ?_
  have atLeast := le_max_left (Int.log 2 |x| + 1 - format.precision)
    format.leastExponent
  unfold exponent
  omega

/-- What is rounded belongs to the format. -/
theorem represents_round : format.Represents (format.round x) := by
  refine
    ⟨roundHalfEven (x / format.step x), format.exponent x, ?_,
      le_max_right _ _, rfl⟩
  obtain ⟨low, high⟩ := abs_lt.mp (@abs_div_step_lt format x)
  have isHigh :
      x / format.step x ≤ ((2 ^ format.precision : ℤ) : ℚ) := by
    exact_mod_cast high.le
  have isLow :
      ((-2 ^ format.precision : ℤ) : ℚ) ≤ x / format.step x := by
    exact_mod_cast low.le
  have above := roundHalfEven_mono isHigh
  have below := roundHalfEven_mono isLow
  rw [roundHalfEven_intCast] at above below
  exact abs_le.mpr ⟨below, above⟩

/-- The digits of a number of the format may be one less. -/
theorem Represents.strict (represents : format.Represents x) :
    ∃ count exponent : ℤ,
      |count| < 2 ^ format.precision ∧
        format.leastExponent ≤ exponent ∧
        x = count * 2 ^ exponent := by
  obtain ⟨count, exponent, digits, least, rfl⟩ := represents
  rcases digits.lt_or_eq with less | full
  · exact ⟨count, exponent, less, least, rfl⟩
  · obtain ⟨fewer, isPrecision⟩ :=
      Nat.exists_eq_add_one.mpr format.somePrecision
    have isEven : (2 : ℤ) ∣ count := by
      rw [← dvd_abs, full, isPrecision]
      exact dvd_pow_self 2 (by omega)
    obtain ⟨half, rfl⟩ := isEven
    refine ⟨half, exponent + 1, ?_, by omega, ?_⟩
    · rw [abs_mul, abs_of_pos (by norm_num : (0 : ℤ) < 2)] at full
      have positive : (0 : ℤ) < 2 ^ format.precision := by positivity
      omega
    · rw [zpow_add_one₀ (by norm_num)]
      push_cast
      ring

/-- Where a number has few digits, its neighbours are close. -/
theorem exponent_le
    (notZero : x ≠ 0)
    (less : |x| < 2 ^ (exponent + format.precision))
    (least : format.leastExponent ≤ exponent) :
    format.exponent x ≤ exponent := by
  have isLog :
      Int.log 2 |x| < exponent + format.precision :=
    (Int.lt_zpow_iff_log_lt (by decide) (abs_pos.mpr notZero)).mp
      (by exact_mod_cast less)
  unfold Format.exponent
  omega

/-- A number of the format is a whole number of its own steps. -/
theorem Represents.multiple (represents : format.Represents x) :
    ∃ count : ℤ, x = count * format.step x := by
  by_cases isZero : x = 0
  · exact ⟨0, by simp [isZero]⟩
  · obtain ⟨count, exponent, digits, least, isValue⟩ := represents.strict
    have positive : (0 : ℚ) < 2 ^ exponent := by positivity
    have less : |x| < 2 ^ (exponent + format.precision) := by
      rw [isValue, abs_mul, abs_of_pos positive,
        zpow_add₀ (by norm_num), mul_comm, zpow_natCast]
      apply mul_lt_mul_of_pos_left _ positive
      exact_mod_cast digits
    have finer := exponent_le isZero less least
    refine
      ⟨count * 2 ^ (exponent - format.exponent x).toNat, ?_⟩
    have split := zpow_eq_intCast_mul finer
    push_cast at split ⊢
    rw [step, mul_assoc, split]
    exact isValue

/-- A whole number of steps stays what it is. -/
theorem round_of_multiple (isMultiple : x = count * format.step x) :
    format.round x = x := by
  have positive : 0 < format.step x := step_pos
  have quotient : x / format.step x = count := by
    rw [div_eq_iff positive.ne']
    exact isMultiple
  rw [round, quotient, roundHalfEven_intCast]
  exact isMultiple.symm

/-- A number of the format stays what it is. -/
theorem round_of_represents (represents : format.Represents x) :
    format.round x = x := by
  obtain ⟨count, isMultiple⟩ := represents.multiple
  exact round_of_multiple isMultiple

@[simp] theorem represents_zero : format.Represents 0 :=
  ⟨0, format.leastExponent, by simp, le_rfl, by simp⟩

@[simp] theorem round_zero : format.round 0 = 0 :=
  round_of_represents represents_zero

/-! ## The order -/

/-- Rounding does not pass a whole number of steps. -/
theorem round_le_of_multiple (least : x ≤ count * format.step x) :
    format.round x ≤ count * format.step x := by
  have positive : 0 < format.step x := step_pos
  apply mul_le_mul_of_nonneg_right _ positive.le
  have rounded :=
    roundHalfEven_mono ((div_le_iff₀ positive).mpr least)
  rw [roundHalfEven_intCast] at rounded
  exact_mod_cast rounded

/-- Rounding does not pass a whole number of steps from above. -/
theorem multiple_le_round (least : count * format.step x ≤ x) :
    count * format.step x ≤ format.round x := by
  have positive : 0 < format.step x := step_pos
  apply mul_le_mul_of_nonneg_right _ positive.le
  have rounded :=
    roundHalfEven_mono ((le_div_iff₀ positive).mpr least)
  rw [roundHalfEven_intCast] at rounded
  exact_mod_cast rounded

/-- What is not negative is not rounded below zero. -/
theorem round_nonneg (nonneg : 0 ≤ x) : 0 ≤ format.round x := by
  have least : ((0 : ℤ) : ℚ) * format.step x ≤ x := by simpa using nonneg
  simpa using multiple_le_round least

/-- What is not positive is not rounded above zero. -/
theorem round_nonpos (nonpos : x ≤ 0) : format.round x ≤ 0 := by
  have least : x ≤ ((0 : ℤ) : ℚ) * format.step x := by simpa using nonpos
  simpa using round_le_of_multiple least

/-- The format has the opposites of its numbers. -/
theorem Represents.neg (represents : format.Represents x) :
    format.Represents (-x) := by
  obtain ⟨count, exponent, digits, least, isValue⟩ := represents
  refine ⟨-count, exponent, ?_, least, ?_⟩
  · rwa [abs_neg]
  · rw [isValue]
    push_cast
    ring

/-- Rounding respects the sign. -/
theorem round_neg : format.round (-x) = -format.round x := by
  have sameStep : format.step (-x) = format.step x := by
    rw [step, step, exponent, exponent, abs_neg]
  rw [round, round, sameStep, neg_div, roundHalfEven_neg]
  push_cast
  ring

/-- Greater numbers have neighbours further apart. -/
theorem exponent_mono (positive : 0 < x) (least : x ≤ y) :
    format.exponent x ≤ format.exponent y := by
  have ordered : Int.log 2 |x| ≤ Int.log 2 |y| := by
    rw [abs_of_pos positive, abs_of_pos (positive.trans_le least)]
    exact Int.log_mono_right positive least
  unfold exponent
  omega

/-- Between numbers whose steps differ lies a power of two of both grids. -/
theorem power_between
    (positive : 0 < x)
    (least : x ≤ y)
    (finer : format.exponent x < format.exponent y) :
    ∃ power : ℤ,
      x ≤ 2 ^ power ∧ (2 : ℚ) ^ power ≤ y ∧
        format.exponent y ≤ power := by
  have positiveY := positive.trans_le least
  have lowX : format.leastExponent ≤ format.exponent x := le_max_right _ _
  have logX :
      Int.log 2 |x| + 1 - format.precision ≤ format.exponent x :=
    le_max_left _ _
  have somePrecision := format.somePrecision
  have isExponent :
      format.exponent y = Int.log 2 |y| + 1 - format.precision := by
    rcases max_choice (Int.log 2 |y| + 1 - format.precision)
        format.leastExponent with isLog | isLeast
    · exact isLog
    · have : format.exponent y = format.leastExponent := isLeast
      omega
  rw [abs_of_pos positive] at logX
  rw [abs_of_pos positiveY] at isExponent
  refine ⟨Int.log 2 y, ?_, ?_, by omega⟩
  · have above : x < ((2 : ℕ) : ℚ) ^ (Int.log 2 x + 1) :=
      Int.lt_zpow_succ_log_self (by decide) x
    refine above.le.trans ?_
    push_cast
    exact zpow_le_zpow_right₀ (by norm_num) (by omega)
  · exact_mod_cast Int.zpow_log_le_self (b := 2) (by decide) positiveY

/-- A power of two is a whole number of the steps of lesser numbers. -/
theorem power_multiple
    {power : ℤ}
    (coarser : format.exponent x ≤ power) :
    ∃ count : ℤ, (2 : ℚ) ^ power = count * format.step x :=
  ⟨_, (zpow_eq_intCast_mul coarser).symm⟩

/-- Rounding respects the order. -/
theorem round_mono (nonneg : 0 ≤ x) (least : x ≤ y) :
    format.round x ≤ format.round y := by
  rcases nonneg.eq_or_lt with isZero | positive
  · rw [← isZero, round_zero]
    exact round_nonneg (nonneg.trans least)
  · rcases (@exponent_mono format _ _ positive least).eq_or_lt with
      same | finer
    · have sameStep : format.step x = format.step y := by
        rw [step, step, same]
      have ordered :=
        roundHalfEven_mono
          (div_le_div_of_nonneg_right least
            (@step_pos format y).le)
      unfold round
      rw [sameStep]
      exact
        mul_le_mul_of_nonneg_right (by exact_mod_cast ordered)
          step_pos.le
    · obtain ⟨power, above, below, coarser⟩ :=
        power_between positive least finer
      obtain ⟨many, isMany⟩ :=
        @power_multiple format x _ (finer.le.trans coarser)
      obtain ⟨few, isFew⟩ :=
        @power_multiple format y _ coarser
      calc
        format.round x ≤ many * format.step x :=
          round_le_of_multiple (isMany ▸ above)
        _ = few * format.step y := isMany.symm.trans isFew
        _ ≤ format.round y := multiple_le_round (isFew ▸ below)

/-- Rounding does not pass a number of the format. -/
theorem round_le_of_represents
    (nonneg : 0 ≤ x)
    (least : x ≤ y)
    (represents : format.Represents y) :
    format.round x ≤ y :=
  round_of_represents represents ▸ round_mono nonneg least

/-- Rounding does not pass a number of the format from above. -/
theorem le_round_of_represents
    (nonneg : 0 ≤ x)
    (least : x ≤ y)
    (represents : format.Represents x) :
    x ≤ format.round y :=
  (round_of_represents represents).symm.trans_le
    (round_mono nonneg least)

/-! ## Numbers of the format -/

/-- Integers of few digits belong to the format. -/
theorem represents_intCast
    (digits : |count| ≤ 2 ^ format.precision)
    (least : format.leastExponent ≤ 0) :
    format.Represents count :=
  ⟨count, 0, digits, least, by simp⟩

/-- The step of a number between two powers of two. -/
theorem exponent_eq
    (low : 2 ^ (exponent + format.precision - 1) ≤ x)
    (high : x < 2 ^ (exponent + format.precision))
    (least : format.leastExponent ≤ exponent) :
    format.exponent x = exponent := by
  have positive : 0 < x := lt_of_lt_of_le (by positivity) low
  have isLog : Int.log 2 x = exponent + format.precision - 1 := by
    apply le_antisymm
    · have below :=
        (Int.lt_zpow_iff_log_lt (b := 2) (by decide) positive).mp
          (by exact_mod_cast high)
      omega
    · exact
        (Int.zpow_le_iff_le_log (b := 2) (by decide) positive).mp
          (by exact_mod_cast low)
  unfold Format.exponent
  rw [abs_of_pos positive, isLog]
  omega

/-- Powers of two belong to the format. -/
theorem represents_zpow (least : format.leastExponent ≤ exponent) :
    format.Represents (2 ^ exponent) :=
  ⟨1, exponent, by simpa using one_le_pow₀ (by norm_num : (1 : ℤ) ≤ 2),
    least, by simp⟩

/-- A positive whole number is above half of the power of two around it. -/
theorem half_power_lt (positive : 0 < whole) :
    (2 : ℚ) ^ ((Nat.clog 2 whole : ℤ) - 1) < whole := by
  rcases (show 1 ≤ whole from positive).eq_or_lt with one | several
  · rw [← one]
    norm_num
  · have some := Nat.clog_pos (by decide : 1 < 2) several
    have below := Nat.pow_pred_clog_lt_self (by decide : 1 < 2) several
    have isPower :
        (2 : ℚ) ^ ((Nat.clog 2 whole : ℤ) - 1) =
          (2 ^ (Nat.clog 2 whole).pred : ℕ) := by
      rw [show (Nat.clog 2 whole : ℤ) - 1 =
        ((Nat.clog 2 whole).pred : ℕ) by simp; omega]
      push_cast
      rw [zpow_natCast]
    rw [isPower]
    exact_mod_cast below

/--
A number is rounded to a whole number or above exactly if it comes up to it.
-/
theorem natCast_le_round_iff
    (nonneg : 0 ≤ x)
    (least : format.leastExponent ≤ -format.precision) :
    (whole : ℚ) ≤ format.round x ↔ format.ComesUpTo x whole := by
  rcases whole.eq_zero_or_pos with rfl | positive
  · refine iff_of_true (by simpa using round_nonneg nonneg) (.inl ?_)
    have isGap : 0 < format.gapBelow 0 := by
      unfold gapBelow
      positivity
    have isCount : ⌈((0 : ℕ) : ℚ) / format.gapBelow 0⌉ = 0 := by simp
    rw [isCount]
    push_cast
    linarith
  have isGap : 0 < format.gapBelow whole := by
    unfold gapBelow
    positivity
  have isPower :
      (2 : ℚ) ^ (Nat.clog 2 whole : ℤ) =
        2 ^ format.precision * format.gapBelow whole := by
    rw [gapBelow, ← zpow_natCast, ← zpow_add₀ (by norm_num)]
    congr 1
    omega
  have isHalf :
      (2 : ℚ) ^ ((Nat.clog 2 whole : ℤ) - 1) =
        2 ^ (format.precision - 1) * format.gapBelow whole := by
    have some := format.somePrecision
    rw [gapBelow, ← zpow_natCast, ← zpow_add₀ (by norm_num)]
    congr 1
    omega
  have above := half_power_lt positive
  have below : (whole : ℚ) ≤ 2 ^ (Nat.clog 2 whole : ℤ) := by
    rw [zpow_natCast]
    exact_mod_cast Nat.le_pow_clog (by decide : 1 < 2) whole
  -- A number is compared with the powers of two around the whole number.
  rcases lt_or_ge x (2 ^ ((Nat.clog 2 whole : ℤ) - 1)) with low | notLow
  · have isRound :
        format.round x ≤ 2 ^ ((Nat.clog 2 whole : ℤ) - 1) :=
      round_le_of_represents nonneg low.le
        (represents_zpow (by have := format.somePrecision; omega))
    have isCount :
        (2 ^ (format.precision - 1) : ℤ) + 1 ≤
          ⌈(whole : ℚ) / format.gapBelow whole⌉ := by
      rw [Int.add_one_le_iff, Int.lt_ceil, lt_div_iff₀ isGap]
      push_cast
      rwa [← isHalf]
    have counted :
        (2 : ℚ) ^ (format.precision - 1) + 1 ≤
          ⌈(whole : ℚ) / format.gapBelow whole⌉ := by
      exact_mod_cast isCount
    have reached :
        x < ((⌈(whole : ℚ) / format.gapBelow whole⌉ : ℚ) - 1 / 2) *
          format.gapBelow whole := by
      calc
        x < 2 ^ (format.precision - 1) * format.gapBelow whole :=
          isHalf ▸ low
        _ ≤ _ := mul_le_mul_of_nonneg_right (by linarith) isGap.le
    refine iff_of_false (by linarith) ?_
    rintro (beyond | ⟨same, _⟩)
    · exact lt_asymm reached beyond
    · exact reached.ne' same
  rcases lt_or_ge x (2 ^ (Nat.clog 2 whole : ℤ)) with high | notHigh
  · have isExponent :
        format.exponent x =
          (Nat.clog 2 whole : ℤ) - format.precision := by
      apply exponent_eq
      · rwa [sub_add_cancel]
      · rwa [sub_add_cancel]
      · omega
    have isStep : format.step x = format.gapBelow whole := by
      rw [step, isExponent, gapBelow]
    rw [le_round_iff, Reaches, ComesUpTo, isStep, lt_div_iff₀ isGap,
      eq_div_iff isGap.ne']
  · refine iff_of_true ?_ (.inl ?_)
    · refine below.trans ?_
      exact
        le_round_of_represents (by positivity) notHigh
          (represents_zpow (by omega))
    · have isCount :
          ⌈(whole : ℚ) / format.gapBelow whole⌉ ≤
            (2 ^ format.precision : ℤ) := by
        rw [Int.ceil_le, div_le_iff₀ isGap]
        push_cast
        rwa [← isPower]
      have counted :
          (⌈(whole : ℚ) / format.gapBelow whole⌉ : ℚ) ≤
            2 ^ format.precision := by
        exact_mod_cast isCount
      calc
        ((⌈(whole : ℚ) / format.gapBelow whole⌉ : ℚ) - 1 / 2) *
              format.gapBelow whole <
            2 ^ format.precision * format.gapBelow whole :=
          mul_lt_mul_of_pos_right (by linarith) isGap
        _ ≤ x := isPower ▸ notHigh

/--
A number is rounded to a power of two or above exactly from half a distance
below it.
-/
theorem power_le_round_iff
    {power : ℕ}
    (nonneg : 0 ≤ x)
    (least : format.leastExponent ≤ -format.precision) :
    2 ^ power ≤ format.round x ↔
      (2 : ℚ) ^ power - 2 ^ ((power : ℤ) - format.precision - 1) ≤ x := by
  have reached :=
    @natCast_le_round_iff format x (2 ^ power) nonneg least
  have isGap :
      format.gapBelow (2 ^ power) =
        2 ^ ((power : ℤ) - format.precision) := by
    rw [gapBelow, Nat.clog_pow 2 power (by decide)]
  have isPower :
      (2 : ℚ) ^ format.precision * 2 ^ ((power : ℤ) - format.precision) =
        2 ^ power := by
    rw [← zpow_natCast, ← zpow_add₀ (by norm_num), ← zpow_natCast]
    congr 1
    omega
  have isCount :
      ⌈((2 ^ power : ℕ) : ℚ) / format.gapBelow (2 ^ power)⌉ =
        2 ^ format.precision := by
    have isWhole :
        ((2 ^ power : ℕ) : ℚ) / format.gapBelow (2 ^ power) =
          ((2 ^ format.precision : ℤ) : ℚ) := by
      rw [isGap, div_eq_iff (by positivity)]
      push_cast
      exact isPower.symm
    rw [isWhole, Int.ceil_intCast]
  have isMiddle :
      ((2 : ℚ) ^ format.precision - 1 / 2) *
          2 ^ ((power : ℤ) - format.precision) =
        2 ^ power - 2 ^ ((power : ℤ) - format.precision - 1) := by
    rw [sub_mul, isPower,
      zpow_sub_one₀ (by norm_num) ((power : ℤ) - format.precision)]
    ring
  have isEven : Even (2 ^ format.precision : ℤ) :=
    (Int.even_pow' format.somePrecision.ne').mpr even_two
  rw [ComesUpTo, isCount, isGap] at reached
  push_cast at reached
  rw [reached, isMiddle, le_iff_lt_or_eq]
  simp only [isEven, and_true]

/-- A number close to a multiple of its step is rounded to it. -/
theorem round_eq
    (isExponent : format.exponent x = exponent)
    (near : |x / 2 ^ exponent - count| < 1 / 2) :
    format.round x = count * 2 ^ exponent := by
  rw [round, step, isExponent, roundHalfEven_eq near]

/-- The step of a number that is not too small is at most the number. -/
theorem step_le_self
    (positive : 0 < x)
    (large : 2 ^ format.leastExponent ≤ x) :
    format.step x ≤ x := by
  have power := Int.zpow_log_le_self (b := 2) (by decide) positive
  push_cast at power
  have isLog : format.leastExponent ≤ Int.log 2 x :=
    (Int.zpow_le_iff_le_log (b := 2) (by decide) positive).mp
      (by exact_mod_cast large)
  have somePrecision := format.somePrecision
  have isExponent : format.exponent x ≤ Int.log 2 x := by
    unfold exponent
    rw [abs_of_pos positive]
    omega
  exact (zpow_le_zpow_right₀ (by norm_num) isExponent).trans power

/-- Rounding keeps at least half of a number that is not too small. -/
theorem le_two_mul_round
    (positive : 0 < x)
    (large : 2 ^ format.leastExponent ≤ x) :
    x ≤ 2 * format.round x := by
  have near := (abs_le.mp (@abs_round_sub_le format x)).1
  have small := step_le_self positive large
  linarith

/-! ## What is rounded to a number -/

/-- A number of the format is a whole number of finer steps. -/
theorem Represents.multiple_of_finer
    (represents : format.Represents x)
    (finer : format.exponent y ≤ format.exponent x) :
    ∃ count : ℤ, x = count * format.step y := by
  obtain ⟨count, isMultiple⟩ := represents.multiple
  obtain ⟨many, isMany⟩ := power_multiple finer
  refine ⟨count * many, ?_⟩
  push_cast
  rw [mul_assoc, ← isMany]
  exact isMultiple

/-- What is closer than half of its own step is rounded to a number. -/
theorem round_eq_of_near
    (represents : format.Represents x)
    (finer : format.exponent y ≤ format.exponent x)
    (near : |y - x| < format.step y / 2) :
    format.round y = x := by
  have positive : 0 < format.step y := step_pos
  obtain ⟨count, isMultiple⟩ := represents.multiple_of_finer finer
  have isQuotient : x / format.step y = count := by
    rw [div_eq_iff positive.ne']
    exact isMultiple
  have close : |y / format.step y - count| < 1 / 2 := by
    rw [← isQuotient, ← sub_div, abs_div, abs_of_pos positive,
      div_lt_iff₀ positive]
    linarith
  rw [round, roundHalfEven_eq close]
  exact isMultiple.symm

/-- The next power of two is at least a step away. -/
theorem add_step_le_power
    (represents : format.Represents x) :
    x + format.step x ≤ 2 ^ (format.exponent x + format.precision) := by
  have isStep : 0 < format.step x := step_pos
  obtain ⟨count, isMultiple⟩ := represents.multiple
  have isQuotient : x / format.step x = count := by
    rw [div_eq_iff isStep.ne']
    exact isMultiple
  have few := @abs_div_step_lt format x
  rw [isQuotient] at few
  have below : count < 2 ^ format.precision := by
    exact_mod_cast lt_of_le_of_lt (le_abs_self _) few
  have next : ((count + 1 : ℤ) : ℚ) ≤ 2 ^ format.precision := by
    exact_mod_cast below
  calc
    x + format.step x = (count + 1 : ℤ) * format.step x := by
      push_cast
      linarith
    _ ≤ 2 ^ format.precision * format.step x :=
      mul_le_mul_of_nonneg_right next isStep.le
    _ = 2 ^ (format.exponent x + format.precision) := by
      rw [zpow_add₀ (by norm_num), mul_comm, zpow_natCast]
      rfl

/-- What is above a number by less than half a step is rounded to it. -/
theorem round_eq_of_above
    (represents : format.Represents x)
    (positive : 0 < x)
    (above : x ≤ y)
    (near : y < x + format.step x / 2) :
    format.round y = x := by
  have isStep : 0 < format.step x := step_pos
  have next := add_step_le_power represents
  have less : |y| < 2 ^ (format.exponent x + format.precision) := by
    rw [abs_of_pos (positive.trans_le above)]
    linarith
  have finer : format.exponent y ≤ format.exponent x :=
    exponent_le (positive.trans_le above).ne' less (le_max_right _ _)
  have same : format.exponent y = format.exponent x :=
    le_antisymm finer (exponent_mono positive above)
  apply round_eq_of_near represents finer
  rw [step, same, abs_of_nonneg (by linarith)]
  have isHalf : format.step x / 2 = 2 ^ format.exponent x / 2 := rfl
  linarith

/-- What is below a number by less than half of its own step. -/
theorem round_eq_of_below
    (represents : format.Represents x)
    (positive : 0 < y)
    (below : y ≤ x)
    (near : x < y + format.step y / 2) :
    format.round y = x := by
  apply round_eq_of_near represents (exponent_mono positive below)
  rw [abs_of_nonpos (by linarith)]
  linarith

/-- Numbers that are not less than half of another have similar steps. -/
theorem step_le_two_mul
    (positive : 0 < y)
    (half : x ≤ 2 * y)
    (below : y ≤ x) :
    format.step x ≤ 2 * format.step y := by
  have positiveX := positive.trans_le below
  have ordered : Int.log 2 |x| ≤ Int.log 2 |y| + 1 := by
    rw [abs_of_pos positive, abs_of_pos positiveX]
    have above : y < ((2 : ℕ) : ℚ) ^ (Int.log 2 y + 1) :=
      Int.lt_zpow_succ_log_self (by decide) y
    have less : x < ((2 : ℕ) : ℚ) ^ (Int.log 2 y + 1 + 1) := by
      rw [zpow_add_one₀ (by norm_num)]
      push_cast at above ⊢
      linarith
    have isLog :=
      (Int.lt_zpow_iff_log_lt (by decide) positiveX).mp less
    omega
  have isExponent : format.exponent x ≤ format.exponent y + 1 := by
    unfold exponent
    omega
  calc
    format.step x ≤ 2 ^ (format.exponent y + 1) :=
      zpow_le_zpow_right₀ (by norm_num) isExponent
    _ = 2 * format.step y := by
      rw [zpow_add_one₀ (by norm_num), mul_comm]
      rfl

/-- A number is at least one of its steps. -/
theorem Represents.step_le
    (represents : format.Represents x)
    (positive : 0 < x) :
    format.step x ≤ x := by
  have isStep : 0 < format.step x := step_pos
  obtain ⟨count, isMultiple⟩ := represents.multiple
  have some : 0 < (count : ℚ) := by
    by_contra none
    have nonpos :=
      mul_nonpos_of_nonpos_of_nonneg (not_lt.mp none) isStep.le
    exact (isMultiple.trans_le nonpos).not_gt positive
  have atLeast : (1 : ℚ) ≤ count := by
    exact_mod_cast some
  calc
    format.step x = 1 * format.step x := (one_mul _).symm
    _ ≤ count * format.step x :=
      mul_le_mul_of_nonneg_right atLeast isStep.le
    _ = x := isMultiple.symm

/-- What is below a number by less than a quarter of its step. -/
theorem round_eq_of_quarter
    (represents : format.Represents x)
    (positive : 0 < x)
    (below : y ≤ x)
    (near : x < y + format.step x / 4) :
    format.round y = x := by
  have isStep : 0 < format.step x := step_pos
  have atLeast := represents.step_le positive
  have positiveY : 0 < y := by linarith
  apply round_eq_of_below represents positiveY below
  have similar :=
    @step_le_two_mul format x y positiveY (by linarith) below
  linarith

/-- A number in the upper part of its binade shares its step with others. -/
theorem round_eq_of_upper
    (represents : format.Represents x)
    (positive : 0 < y)
    (below : y ≤ x)
    (power : 2 ^ (format.exponent x + format.precision - 1) ≤ y)
    (near : x < y + format.step x / 2) :
    format.round y = x := by
  apply round_eq_of_below represents positive below
  have isLog : format.exponent x + format.precision - 1 ≤ Int.log 2 y :=
    (Int.zpow_le_iff_le_log (by decide) positive).mp
      (by exact_mod_cast power)
  have coarser : format.exponent x ≤ format.exponent y := by
    unfold exponent at isLog ⊢
    rw [abs_of_pos positive]
    omega
  have sameStep : format.step x ≤ format.step y :=
    zpow_le_zpow_right₀ (by norm_num) coarser
  linarith

end Facts

end Format

end BinaryRounding
