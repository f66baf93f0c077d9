import Sparkz.AwardReproduction
import Sparkz.CdrEnergy

namespace Sparkz

open BinaryRounding

/-!
# The tokens of an award

An award floors the product of two numbers, each of which is only nearest to
the decimal that was written.  The floor is the one of the decimals as long as
the rounded product stays between the same two whole numbers.
-/

/-- The number operations of JavaScript. -/
def NumberOperations.ofDoubles : NumberOperations where
  ofText text := (Double.ofText text).shown
  times first second := (first.double.times second.double).shown
  plus first second := (first.double.plus second.double).shown
  floor number := number.double.floor.shown
  less first second := first.double.less second.double
  atMost first second := first.double.atMost second.double

/-- A runtime that calculates with doubles. -/
def CalculationRuntime.withDoubles
    (runtime : CalculationRuntime) :
    CalculationRuntime :=
  { runtime with numbers := .ofDoubles }

section Doubles

variable {first second : JsNumber} {text : String}

@[simp] theorem ofDoubles_ofText :
    NumberOperations.ofDoubles.ofText text =
      (Double.ofText text).shown := rfl

@[simp] theorem ofDoubles_times :
    NumberOperations.ofDoubles.times first second =
      (first.double.times second.double).shown := rfl

@[simp] theorem ofDoubles_plus :
    NumberOperations.ofDoubles.plus first second =
      (first.double.plus second.double).shown := rfl

@[simp] theorem ofDoubles_floor :
    NumberOperations.ofDoubles.floor first =
      first.double.floor.shown := rfl

@[simp] theorem ofDoubles_less :
    NumberOperations.ofDoubles.less first second =
      first.double.less second.double := rfl

@[simp] theorem ofDoubles_atMost :
    NumberOperations.ofDoubles.atMost first second =
      first.double.atMost second.double := rfl

@[simp] theorem withDoubles_numbers {runtime : CalculationRuntime} :
    runtime.withDoubles.numbers = .ofDoubles := rfl

end Doubles

/-- The rate of one kind of award. -/
def AwardRuleConfig.rateOf
    (config : AwardRuleConfig) :
    AwardType → Rate
  | .offPeakCharging => config.rules.offPeakCharging.tokensPerKWh
  | .v2gDischarge => config.rules.v2gDischarge.tokensPerKWh

/-- A rate was written as this decimal. -/
structure Rate.IsWrittenAs (rate : Rate) (decimal : ℚ) : Prop where
  nonneg : 0 ≤ decimal
  nearest :
    Double.ofText (String.ofList rate.shown.characters) =
      .ofRational decimal
  finite : (Double.ofRational decimal).isFinite = true

/--
The product of the doubles nearest to two decimals lies between the middle
below the whole part of the decimals' product and the middle below the next
whole number, each middle being half a distance of doubles below its number.
The product is not multiplied in doubles here, and it does not overflow.
-/
def IsFlooredExactly (energy rate : ℚ) : Prop :=
  let product := binary64.round energy * binary64.round rate
  binary64.ComesUpTo product ⌊energy * rate⌋₊ ∧
    ¬ binary64.ComesUpTo product (⌊energy * rate⌋₊ + 1) ∧
    product < 2 ^ 1024 - 2 ^ 970

instance (energy rate : ℚ) : Decidable (IsFlooredExactly energy rate) :=
  inferInstanceAs (Decidable (_ ∧ _))

/-! ## One award -/

/-- The tokens of an award of some kind. -/
def awardedTokens
    (runtime : CalculationRuntime)
    (config : AwardRuleConfig)
    (energyKWh : JsNumber) :
    Option AwardType → JsNumber
  | some type =>
      runtime.numbers.plus (.ofNat 0)
        (flooredTokens runtime energyKWh (config.rateOf type))
  | none => .ofNat 0

/-- The whole tokens of the product of two decimals. -/
def exactTokens (energy rate : ℚ) : Option AwardType → ℤ
  | some _ => ⌊energy * rate⌋
  | none => 0

section Tokens

variable {runtime : CalculationRuntime} {state : PolicyState}
  {session : NormalisedSession} {rules : Option AwardRuleConfig}
  {awardType : Option AwardType}
  {x energy decimal : ℚ} {rate : Rate}

/-- An award is one floored product, added to nothing. -/
theorem calculateAwardTokens_eq
    (awarded :
      getAwardType runtime state session rules = .ok awardType) :
    calculateAwardTokens runtime state session rules =
      .ok
        (awardedTokens runtime (rules.getD state.getRules)
          session.energyKWh awardType) := by
  unfold getAwardType at awarded
  obtain ⟨context, isContext, isType⟩ := Except.map_eq_ok awarded
  unfold calculateAwardTokens
  simp only [isContext, Except.map]
  congr 1
  rw [← isType]
  by_cases isCharge : session.energyDirection = .charge
  · simp only [isCharge, reduceCtorEq, and_false, if_false]
    by_cases isOffPeak :
        (rules.getD state.getRules).rules.offPeakCharging.enabled = true ∧
          True ∧ context.isOffPeak = true
    · rw [if_pos isOffPeak, if_pos isOffPeak]
      rfl
    · rw [if_neg isOffPeak, if_neg isOffPeak]
      rfl
  · have isDischarge : session.energyDirection = .discharge := by
      cases direction : session.energyDirection with
      | charge =>
          exact absurd direction isCharge
      | discharge =>
          rfl
    simp only [isDischarge, reduceCtorEq, false_and, and_false, if_false,
      and_true]
    by_cases isEnabled :
        (rules.getD state.getRules).rules.v2gDischarge.enabled = true
    · rw [if_pos isEnabled, if_pos isEnabled]
      rfl
    · rw [if_neg isEnabled, if_neg isEnabled]
      rfl

/-- The whole part of a double is a double. -/
theorem represents_floor
    (nonneg : 0 ≤ x)
    (represents : binary64.Represents x) :
    binary64.Represents (⌊x⌋ : ℚ) := by
  obtain ⟨count, exponent, digits, least, isValue⟩ := represents
  rcases le_total 0 exponent with whole | fractional
  · have isWhole : ((count * 2 ^ exponent.toNat : ℤ) : ℚ) = x := by
      rw [isValue]
      push_cast
      rw [← zpow_natCast, Int.toNat_of_nonneg whole]
    rw [← isWhole, Int.floor_intCast, isWhole, isValue]
    exact ⟨count, exponent, digits, least, rfl⟩
  · have nonnegFloor : 0 ≤ ⌊x⌋ := Int.floor_nonneg.mpr nonneg
    have bounded : (⌊x⌋ : ℚ) ≤ |count| := by
      refine (Int.floor_le x).trans ?_
      rw [isValue]
      have power : (2 : ℚ) ^ exponent ≤ 1 :=
        zpow_le_one_of_nonpos₀ (by norm_num) fractional
      have positive : (0 : ℚ) < 2 ^ exponent := by positivity
      calc
        (count : ℚ) * 2 ^ exponent ≤ |(count : ℚ)| * 2 ^ exponent :=
          mul_le_mul_of_nonneg_right (le_abs_self _) positive.le
        _ ≤ |(count : ℚ)| * 1 :=
          mul_le_mul_of_nonneg_left power (abs_nonneg _)
        _ = ((|count| : ℤ) : ℚ) := by
          rw [mul_one]
          push_cast
          rfl
    apply Format.represents_intCast
    · rw [abs_of_nonneg nonnegFloor]
      exact (by exact_mod_cast bounded : ⌊x⌋ ≤ |count|).trans digits
    · decide

/-- A finite nearest number is the rounded one. -/
theorem ofRational_of_isFinite
    (isFinite : (Double.ofRational x).isFinite = true) :
    Double.ofRational x = .finite (binary64.round x) ∧
      |binary64.round x| < 2 ^ 1024 := by
  by_cases small : |binary64.round x| < 2 ^ 1024
  · exact ⟨if_pos small, small⟩
  · rw [Double.ofRational, if_neg small] at isFinite
    cases isFinite

/-- A double that is shown is read back. -/
theorem IsExactDouble.read
    (nonneg : 0 ≤ x)
    (represents : binary64.Represents x)
    (bounded : |x| < 2 ^ 1024) :
    (Double.finite x).shown.double = .finite x :=
  double_shown nonneg represents ((le_abs_self x).trans_lt bounded)

/-- Adding a double to nothing gives that double. -/
theorem plus_zero_left
    (represents : binary64.Represents x)
    (bounded : |x| < 2 ^ 1024) :
    (Double.finite 0).plus (.finite x) = .finite x := by
  have isFixed := Format.round_of_represents represents
  simp only [Double.plus, zero_add]
  rw [Double.ofRational, isFixed, if_pos bounded]

theorem double_ofNat_zero : (JsNumber.ofNat 0).double = .finite 0 := by
  simp [JsNumber.ofNat, DecimalText.value, digitsValue,
    Double.ofRational]

/-- The floored product of two numbers, added to nothing. -/
theorem double_awardedTokens
    {config : AwardRuleConfig}
    {type : AwardType}
    (nonneg : 0 ≤ energy)
    (finite : (Double.ofRational energy).isFinite = true)
    (written : (config.rateOf type).IsWrittenAs decimal) :
    (awardedTokens runtime.withDoubles config
        (Double.ofRational energy).shown (some type)).double =
      (Double.ofRational
        (binary64.round energy * binary64.round decimal)).floor := by
  have nonnegEnergy : 0 ≤ binary64.round energy :=
    Format.round_nonneg nonneg
  have nonnegRate : 0 ≤ binary64.round decimal :=
    Format.round_nonneg written.nonneg
  have nonnegProduct :=
    mul_nonneg nonnegEnergy nonnegRate
  have isProduct :
      (((Double.ofRational energy).shown.double).times
          ((Double.ofText
            (String.ofList
              (config.rateOf type).shown.characters)).shown.double)) =
        .ofRational
          (binary64.round energy * binary64.round decimal) := by
    rw [written.nearest, double_ofRational nonneg,
      double_ofRational written.nonneg, (ofRational_of_isFinite finite).1,
      (ofRational_of_isFinite written.finite).1]
    rfl
  simp only [awardedTokens, flooredTokens, withDoubles_numbers,
    ofDoubles_plus, ofDoubles_floor, ofDoubles_times, ofDoubles_ofText]
  rw [isProduct, double_ofRational nonnegProduct]
  rw [double_ofNat_zero]
  by_cases small :
      |binary64.round (binary64.round energy * binary64.round decimal)| <
        2 ^ 1024
  · have nonnegRound :=
      @Format.round_nonneg binary64 _ nonnegProduct
    have isFloor : 0 ≤
        ⌊binary64.round
          (binary64.round energy * binary64.round decimal)⌋ :=
      Int.floor_nonneg.mpr nonnegRound
    have nonnegFloor :
        (0 : ℚ) ≤
          ⌊binary64.round
            (binary64.round energy * binary64.round decimal)⌋ := by
      exact_mod_cast isFloor
    have represents :=
      represents_floor nonnegRound Format.represents_round
    have bounded :
        |(⌊binary64.round
            (binary64.round energy * binary64.round decimal)⌋ : ℚ)| <
          2 ^ 1024 := by
      rw [abs_of_nonneg nonnegFloor]
      rw [abs_of_nonneg nonnegRound] at small
      exact (Int.floor_le _).trans_lt small
    rw [Double.ofRational, if_pos small]
    simp only [Double.floor]
    rw [IsExactDouble.read nonnegFloor represents bounded,
      plus_zero_left represents bounded,
      IsExactDouble.read nonnegFloor represents bounded]
  · rw [Double.ofRational, if_neg small]
    simp only [nonnegProduct.not_gt, decide_false]
    rfl

/-- The doubles end half a distance below the next power of two. -/
theorem round_lt_limit_iff (nonneg : 0 ≤ x) :
    binary64.round x < 2 ^ 1024 ↔ x < 2 ^ 1024 - 2 ^ 970 := by
  have reached :=
    @Format.power_le_round_iff binary64 x 1024 nonneg (by decide)
  have isHalf :
      (2 : ℚ) ^ (((1024 : ℕ) : ℤ) - binary64.precision - 1) =
        2 ^ 970 :=
    zpow_natCast 2 970
  rw [isHalf] at reached
  exact lt_iff_lt_of_le_iff_le reached

/-- The floor is the exact one when the exact product stays in place. -/
theorem floor_eq_exact_iff
    (nonneg : 0 ≤ energy)
    (nonnegRate : 0 ≤ decimal) :
    (Double.ofRational
        (binary64.round energy * binary64.round decimal)).floor =
        .finite (⌊energy * decimal⌋ : ℚ) ↔
      IsFlooredExactly energy decimal := by
  have nonnegProduct :=
    mul_nonneg (@Format.round_nonneg binary64 _ nonneg)
      (@Format.round_nonneg binary64 _ nonnegRate)
  have nonnegRound := @Format.round_nonneg binary64 _ nonnegProduct
  have isWhole : ⌊energy * decimal⌋ = (⌊energy * decimal⌋₊ : ℤ) :=
    (Int.natCast_floor_eq_floor (mul_nonneg nonneg nonnegRate)).symm
  unfold IsFlooredExactly
  dsimp only
  rw [← Format.natCast_le_round_iff nonnegProduct (by decide),
    ← Format.natCast_le_round_iff nonnegProduct (by decide),
    ← round_lt_limit_iff nonnegProduct, not_le, isWhole]
  by_cases small :
      |binary64.round (binary64.round energy * binary64.round decimal)| <
        2 ^ 1024
  · rw [Double.ofRational, if_pos small]
    rw [abs_of_nonneg nonnegRound] at small
    simp only [Double.floor, Double.finite.injEq, Int.cast_inj, small,
      and_true]
    rw [Int.floor_eq_iff]
    push_cast
    rfl
  · rw [Double.ofRational, if_neg small]
    rw [abs_of_nonneg nonnegRound] at small
    simp only [Double.floor, reduceCtorEq, small, and_false]

/--
The award of a session is the floor of the exact product exactly when the
product of the two nearest doubles keeps half a distance of doubles from the
whole numbers around it, and nothing when the session is not eligible.
-/
theorem calculateAwardTokens_isExact_iff
    {energyValue direction : BodyValue}
    (normalised :
      normaliseEnergy energyValue direction =
        .ok (session.energyKWh, session.energyDirection))
    (energyWritten : IsWrittenAs energyValue energy)
    (awarded :
      getAwardType runtime.withDoubles state session rules =
        .ok awardType)
    (rateWritten :
      ∀ type ∈ awardType,
        ((rules.getD state.getRules).rateOf type).IsWrittenAs decimal) :
    ∃ tokens,
      calculateAwardTokens runtime.withDoubles state session rules =
          .ok tokens ∧
        (tokens.double =
            .finite (exactTokens |energy| decimal awardType : ℤ) ↔
          awardType = none ∨ IsFlooredExactly |energy| decimal) := by
  obtain ⟨isEnergy, isFinite⟩ :=
    normaliseEnergy_written normalised energyWritten
  refine ⟨_, calculateAwardTokens_eq awarded, ?_⟩
  rcases awardType with _ | type
  · simp [awardedTokens, exactTokens, double_ofNat_zero]
  · have written := rateWritten type rfl
    rw [isEnergy,
      double_awardedTokens (abs_nonneg energy) isFinite written]
    simp only [reduceCtorEq, false_or, exactTokens]
    exact floor_eq_exact_iff (abs_nonneg energy) written.nonneg

end Tokens

/-! ## Ninety kilowatt hours -/

/-- A rate for runs on fixed inputs. -/
def sevenTenths : Rate :=
  ⟨⟨['0', '.', '7'], by simp, by simp [JsonText.isNumeric]⟩, by decide⟩

/-- A rate that is a double. -/
def oneHalf : Rate :=
  ⟨⟨['0', '.', '5'], by simp, by simp [JsonText.isNumeric]⟩, by decide⟩

/-- A discharge of ninety kilowatt hours. -/
def ninetySession : NormalisedSession :=
  { nightSession "session" with
    energyKWh := .ofNat 90
    energyDirection := .discharge }

/-- The rules that award a discharge at some rate. -/
def dischargeRules (rate : Rate) : AwardRuleConfig :=
  { awardRulesConfig with
    rules :=
      { awardRulesConfig.rules with
        v2gDischarge := ⟨true, rate, ""⟩ } }

/-- The session is the one that the body gives. -/
theorem ninetySession_isNormalised :
    normaliseEnergy (.number (.ofNat 90)) (.text "DISCHARGE") =
      .ok (ninetySession.energyKWh, ninetySession.energyDirection) := by
  decide +kernel

theorem ninetySession_isWritten :
    IsWrittenAs (.number (.ofNat 90)) 90 := by
  show (JsNumber.ofNat 90).double = _
  decide +kernel

/-- At a rate of a half the award is exact. -/
theorem ninetySession_atOneHalf :
    IsFlooredExactly 90 (1 / 2) ∧
      ∃ tokens,
        calculateAwardTokens nightRuntime.withDoubles
            ⟨none, none, none⟩ ninetySession
            (some (dischargeRules oneHalf)) =
          .ok tokens ∧
        tokens.double = .finite 45 := by
  have awarded :
      getAwardType nightRuntime.withDoubles ⟨none, none, none⟩
          ninetySession (some (dischargeRules oneHalf)) =
        .ok (some .v2gDischarge) := by
    decide +kernel
  have rateWritten :
      ∀ type ∈ some AwardType.v2gDischarge,
        ((dischargeRules oneHalf).rateOf type).IsWrittenAs (1 / 2) := by
    intro type isType
    rw [← Option.some.inj isType]
    exact ⟨by norm_num, by decide +kernel, by decide +kernel⟩
  have condition : IsFlooredExactly |(90 : ℚ)| (1 / 2) := by
    decide +kernel
  obtain ⟨tokens, isAwarded, exactness⟩ :=
    calculateAwardTokens_isExact_iff ninetySession_isNormalised
      ninetySession_isWritten awarded rateWritten
  have isExact := exactness.mpr (.inr condition)
  have sameTokens :
      exactTokens |(90 : ℚ)| (1 / 2) (some AwardType.v2gDischarge) =
        45 := by
    simp only [exactTokens]
    norm_num
  rw [sameTokens] at isExact
  refine ⟨?_, tokens, isAwarded, ?_⟩
  · rwa [abs_of_pos (show (0 : ℚ) < 90 by norm_num)] at condition
  · exact_mod_cast isExact

/-- At a rate of seven tenths one of the sixty-three tokens is lost. -/
theorem ninetySession_losesToken :
    IsWrittenAs (.number (.ofNat 90)) 90 ∧
      normaliseEnergy (.number (.ofNat 90)) (.text "DISCHARGE") =
        .ok (ninetySession.energyKWh, ninetySession.energyDirection) ∧
      sevenTenths.IsWrittenAs (7 / 10) ∧
      getAwardType nightRuntime.withDoubles ⟨none, none, none⟩
          ninetySession (some (dischargeRules sevenTenths)) =
        .ok (some .v2gDischarge) ∧
      calculateAwardTokens nightRuntime.withDoubles
          ⟨none, none, none⟩ ninetySession
          (some (dischargeRules sevenTenths)) =
        .ok (.ofNat 62) ∧
      ⌊(90 : ℚ) * (7 / 10)⌋ = 63 := by
  refine
    ⟨ninetySession_isWritten, ninetySession_isNormalised,
      ⟨by norm_num, by decide +kernel, by decide +kernel⟩,
      by decide +kernel, by decide +kernel, by norm_num⟩

end Sparkz
