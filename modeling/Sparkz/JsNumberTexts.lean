import Sparkz.TokenAmount
import Sparkz.TransactionHash

namespace Sparkz

open BinaryRounding DecimalNames

/-!
# A number and what it shows

What `String(n)` shows of a number is read back as that number, in either
notation.
-/

/-! ## Digits -/

section Digits

variable {scale count : ℕ} {digits others : List (Fin 10)}

theorem digitsValue_append :
    digitsValue (digits ++ others) =
      digitsValue digits * 10 ^ others.length + digitsValue others := by
  induction others using List.reverseRecOn with
  | nil =>
      simp [digitsValue]
  | append_singleton others digit inductionHypothesis =>
      rw [← List.append_assoc]
      unfold digitsValue at inductionHypothesis ⊢
      rw [List.foldl_concat, List.foldl_concat, inductionHypothesis,
        List.length_append, List.length_singleton, pow_succ]
      ring

theorem digitsValue_lt :
    digitsValue digits < 10 ^ digits.length := by
  induction digits using List.reverseRecOn with
  | nil =>
      simp [digitsValue]
  | append_singleton digits digit inductionHypothesis =>
      have small : digitsValue [digit] = digit.val := by
        simp [digitsValue]
      rw [digitsValue_append, List.length_append, List.length_singleton,
        small, pow_one, pow_succ]
      omega

@[simp] theorem length_lastDigits :
    (lastDigits scale count).length = scale := by
  induction scale generalizing count with
  | zero =>
      rfl
  | succ scale inductionHypothesis =>
      simp [lastDigits, inductionHypothesis]

/-- The last digits of a count write its remainder. -/
theorem digitsValue_lastDigits :
    digitsValue (lastDigits scale count) = count % 10 ^ scale := by
  induction scale generalizing count with
  | zero =>
      simp [lastDigits, digitsValue, Nat.mod_one]
  | succ scale inductionHypothesis =>
      have isLast :
          digitsValue [⟨count % 10, mod_ten_lt count⟩] = count % 10 := by
        simp [digitsValue]
      rw [lastDigits, digitsValue_append, inductionHypothesis, isLast,
        List.length_singleton, pow_one, pow_succ', Nat.mod_mul]
      ring

/-- Digits are the last digits of the number that they write. -/
theorem lastDigits_digitsValue :
    lastDigits digits.length (digitsValue digits) = digits := by
  induction digits using List.reverseRecOn with
  | nil =>
      rfl
  | append_singleton digits digit inductionHypothesis =>
      have isLast : digitsValue [digit] = digit.val := by
        simp [digitsValue]
      have small := digit.isLt
      have front :
          (digitsValue digits * 10 + digit.val) / 10 =
            digitsValue digits := by
        omega
      have last :
          (digitsValue digits * 10 + digit.val) % 10 = digit.val := by
        omega
      rw [List.length_append, List.length_singleton, digitsValue_append,
        isLast, List.length_singleton, pow_one, lastDigits, front,
        inductionHypothesis]
      simp only [last]

/-- Trimmed decimals of one value are the same. -/
theorem ShortestDecimal.eq_of_value
    {first second : ShortestDecimal}
    (same : first.value = second.value) :
    first = second := by
  wlog shorter : first.fraction.length ≤ second.fraction.length
  · exact (this same.symm (by omega)).symm
  · obtain ⟨⟨firstWhole, firstFraction⟩, firstTrimmed⟩ := first
    obtain ⟨⟨secondWhole, secondFraction⟩, secondTrimmed⟩ := second
    simp only [DecimalText.value] at same shorter
    obtain ⟨more, isMore⟩ := Nat.exists_eq_add_of_le shorter
    have firstSmall := @digitsValue_lt firstFraction
    have secondSmall := @digitsValue_lt secondFraction
    have scaled :
        firstWhole * 10 ^ secondFraction.length +
            digitsValue firstFraction * 10 ^ more =
          secondWhole * 10 ^ secondFraction.length +
            digitsValue secondFraction := by
      have isPower : (0 : ℚ) < 10 ^ firstFraction.length := by positivity
      have isMorePower : (0 : ℚ) < 10 ^ more := by positivity
      have inRationals :
          (firstWhole : ℚ) * (10 ^ firstFraction.length * 10 ^ more) +
              digitsValue firstFraction * 10 ^ more =
            secondWhole * (10 ^ firstFraction.length * 10 ^ more) +
              digitsValue secondFraction := by
        rw [isMore, pow_add] at same
        field_simp at same
        linarith
      rw [isMore, pow_add]
      exact_mod_cast inRationals
    have shifted :
        digitsValue firstFraction * 10 ^ more <
          10 ^ secondFraction.length := by
      rw [isMore, pow_add]
      exact
        Nat.mul_lt_mul_of_pos_right firstSmall
          (Nat.pow_pos (by decide))
    have positive : 0 < 10 ^ secondFraction.length :=
      Nat.pow_pos (by decide)
    have sameWhole : firstWhole = secondWhole := by
      have quotients :=
        congrArg (· / 10 ^ secondFraction.length) scaled
      simp only [Nat.mul_comm _ (10 ^ secondFraction.length),
        Nat.mul_add_div positive] at quotients
      rwa [Nat.div_eq_of_lt shifted, Nat.div_eq_of_lt secondSmall,
        Nat.add_zero, Nat.add_zero] at quotients
    have sameDigits :
        digitsValue firstFraction * 10 ^ more =
          digitsValue secondFraction := by
      rw [sameWhole] at scaled
      omega
    rcases more with _ | more
    · rw [pow_zero, mul_one] at sameDigits
      have sameFraction : firstFraction = secondFraction := by
        rw [← @lastDigits_digitsValue firstFraction, sameDigits,
          ← Nat.add_zero firstFraction.length, ← isMore]
        exact lastDigits_digitsValue
      subst sameWhole sameFraction
      rfl
    · exfalso
      apply secondTrimmed
      have isLast : digitsValue secondFraction % 10 = 0 := by
        rw [← sameDigits, pow_succ, ← mul_assoc]
        exact Nat.mul_mod_left _ _
      rw [← @lastDigits_digitsValue secondFraction, isMore,
        ← Nat.add_assoc, lastDigits, List.getLast?_concat]
      simp only [isLast]
      rfl

/-- A scaled count has the value that its scale says. -/
theorem value_ofScaled :
    (ShortestDecimal.ofScaled scale count).value =
      (count : ℚ) / 10 ^ scale := by
  induction scale generalizing count with
  | zero =>
      simp [ShortestDecimal.ofScaled, DecimalText.value, digitsValue]
  | succ scale inductionHypothesis =>
      by_cases isZero : count % 10 = 0
      · have split : (count : ℚ) = 10 * (count / 10 : ℕ) := by
          exact_mod_cast (Nat.mul_div_cancel' (by omega)).symm
        simp only [ShortestDecimal.ofScaled, isZero, dite_true]
        rw [inductionHypothesis, split, pow_succ']
        exact (mul_div_mul_left _ _ (by norm_num)).symm
      · simp only [ShortestDecimal.ofScaled, isZero, dite_false,
          DecimalText.value, digitsValue_lastDigits, length_lastDigits]
        have positive : (0 : ℚ) < 10 ^ (scale + 1) := by positivity
        rw [eq_div_iff positive.ne', add_mul, div_mul_cancel₀ _ positive.ne']
        exact_mod_cast Nat.div_add_mod' count (10 ^ (scale + 1))

/-- The first two fraction digits are the hundredths of a decimal. -/
theorem DecimalText.flooredUnits_bounds (decimal : DecimalText) :
    (decimal.flooredUnits : ℚ) ≤ decimal.value * 100 ∧
      decimal.value * 100 < decimal.flooredUnits + 1 := by
  obtain ⟨whole, fraction⟩ := decimal
  rcases fraction with _ | ⟨tenths, _ | ⟨hundredths, rest⟩⟩
  · simp only [flooredUnits, cents, value, digitsValue, List.foldl_nil,
      List.length_nil]
    push_cast
    constructor <;> linarith
  · simp only [flooredUnits, cents, value, digitsValue, List.foldl_cons,
      List.foldl_nil, List.length_singleton]
    push_cast
    constructor <;> linarith
  · have split :
        digitsValue (tenths :: hundredths :: rest) =
          (10 * tenths.val + hundredths.val) * 10 ^ rest.length +
            digitsValue rest := by
      have isPair :
          digitsValue [tenths, hundredths] =
            10 * tenths.val + hundredths.val := by
        simp [digitsValue]
      rw [← isPair, ← digitsValue_append]
      rfl
    have small : (digitsValue rest : ℚ) < 10 ^ rest.length := by
      exact_mod_cast @digitsValue_lt rest
    have positive : (0 : ℚ) < 10 ^ rest.length := by positivity
    have isValue :
        value ⟨whole, tenths :: hundredths :: rest⟩ * 100 =
          100 * whole + (10 * tenths.val + hundredths.val) +
            digitsValue rest / 10 ^ rest.length := by
      simp only [value, split, List.length_cons]
      push_cast
      field_simp
      ring
    have nonneg : (0 : ℚ) ≤ digitsValue rest / 10 ^ rest.length := by
      positivity
    have below : (digitsValue rest : ℚ) / 10 ^ rest.length < 1 :=
      (div_lt_one positive).mpr small
    rw [isValue]
    simp only [flooredUnits, cents]
    push_cast
    constructor <;> linarith

/-- The two-decimal floor of a decimal. -/
theorem DecimalText.flooredUnits_eq (decimal : DecimalText) :
    decimal.flooredUnits = ⌊decimal.value * 100⌋ := by
  obtain ⟨low, high⟩ := decimal.flooredUnits_bounds
  symm
  rw [Int.floor_eq_iff]
  exact ⟨by exact_mod_cast low, by exact_mod_cast high⟩

end Digits

/-! ## The notation with an exponent -/

/-- The characters of a number without sign and exponent. -/
structure IsMantissa (characters : List Char) (value : ℚ) : Prop where
  plain :
    ∀ character ∈ characters,
      character.isDigit = true ∨ character = '.'
  starts :
    ∃ first rest, characters = first :: rest ∧ first.isDigit = true
  reads : mantissaValue characters = some value

section Exponents

variable {count scale : ℕ} {power exponent : ℤ} {value : ℚ}
  {characters : List Char}

/-- Decimal parts are a mantissa. -/
theorem mantissaValue_of_parts
    {text : String}
    {parts : DecimalText}
    (isDecimal : decimalTextParts text = some parts) :
    mantissaValue text.toList = some parts.value := by
  unfold decimalTextParts at isDecimal
  split at isDecimal
  · rename_i whole shape
    split at isDecimal
    · rename_i digit digits isWhole
      cases isDecimal
      unfold mantissaValue
      rw [shape]
      simp [isWhole, DecimalText.value, digitsValue]
    · cases isDecimal
  · rename_i whole fraction shape
    split at isDecimal
    · rename_i digit digits tenths rest isWhole isFraction
      cases isDecimal
      unfold mantissaValue
      rw [shape]
      simp [isWhole, isFraction]
    · cases isDecimal
  · cases isDecimal

/-- The digits of a count without a point. -/
theorem isMantissa_count :
    IsMantissa (toString count).toList count := by
  have isText :
      (toString count).toList = Nat.toDigits 10 count := by
    simp [Nat.toString_eq_repr, Nat.toList_repr]
  have areDigits :
      ∀ character ∈ Nat.toDigits 10 count, character.isDigit = true :=
    fun _ member =>
      Nat.isDigit_of_mem_toDigits (by decide) (by decide) member
  obtain ⟨digit, digits, isRead, isValue⟩ := decimalDigits_toDigits count
  have noPoint : '.' ∉ Nat.toDigits 10 count := by
    intro isPoint
    have isDigit := areDigits '.' isPoint
    revert isDigit
    decide
  rw [isText]
  refine ⟨fun character member => .inl (areDigits character member), ?_, ?_⟩
  · rcases shape : Nat.toDigits 10 count with _ | ⟨first, rest⟩
    · exact absurd shape Nat.toDigits_ne_nil
    · refine ⟨first, rest, rfl, areDigits first ?_⟩
      rw [shape]
      exact List.mem_cons_self
  · unfold mantissaValue
    rw [List.splitOn_eq_singleton noPoint]
    simp [isRead, isValue]

/-- The digits of a count with a point. -/
theorem isMantissa_unsignedText (positive : 0 < scale) :
    IsMantissa (unsignedText scale count).toList
      ((count : ℚ) / 10 ^ scale) := by
  obtain ⟨parts, isParts, length, units⟩ :=
    @decimalTextParts_unsignedText scale count positive
  obtain ⟨_, isFraction, _, _⟩ :=
    decimalDigits_padZeros positive
      (Nat.mod_lt count (Nat.pow_pos (by decide : 0 < 10)))
  have areDigits :
      ∀ character ∈ Nat.toDigits 10 (count / 10 ^ scale),
        character.isDigit = true :=
    fun _ member =>
      Nat.isDigit_of_mem_toDigits (by decide) (by decide) member
  refine ⟨?_, ?_, ?_⟩
  · intro character member
    rw [unsignedText_toList, List.mem_append, List.mem_cons] at member
    rcases member with isWhole | isPoint | isRest
    · exact .inl (areDigits character isWhole)
    · exact .inr isPoint
    · exact .inl (isDigit_of_decimalDigits isFraction character isRest)
  · rw [unsignedText_toList]
    rcases shape : Nat.toDigits 10 (count / 10 ^ scale) with
      _ | ⟨first, rest⟩
    · exact absurd shape Nat.toDigits_ne_nil
    · refine ⟨first, _, rfl, areDigits first ?_⟩
      rw [shape]
      exact List.mem_cons_self
  · rw [mantissaValue_of_parts isParts]
    have isPower : (0 : ℚ) < 10 ^ scale := by positivity
    have isUnits :
        (parts.whole : ℚ) * 10 ^ scale + digitsValue parts.fraction =
          count := by
      exact_mod_cast units
    rw [DecimalText.value, length, ← isUnits, add_div,
      mul_div_cancel_right₀ _ isPower.ne']

/-- A mantissa with an exponent is read as their product. -/
theorem numeralValue_exponent
    (isMantissa : IsMantissa characters value)
    (negative : Bool)
    (count : ℕ) :
    numeralValue
        (characters ++
          'e' :: (if negative then '-' else '+') ::
            Nat.toDigits 10 count) =
      some (value * 10 ^ (if negative then -(count : ℤ) else count)) := by
  have notLetter :
      ∀ character ∈ characters,
        decide (character ∈ ['e', 'E']) = false := by
    intro character member
    rw [decide_eq_false_iff_not]
    intro isLetter
    simp only [List.mem_cons, List.not_mem_nil, or_false] at isLetter
    rcases isMantissa.plain character member with isDigit | rfl
    · rcases isLetter with rfl | rfl
      all_goals
        revert isDigit
        decide
    · revert isLetter
      decide
  have notLetterLater :
      ∀ character ∈
          (if negative then '-' else '+') :: Nat.toDigits 10 count,
        decide (character ∈ ['e', 'E']) = false := by
    intro character member
    rw [decide_eq_false_iff_not]
    intro isLetter
    simp only [List.mem_cons, List.not_mem_nil, or_false] at isLetter
    rcases List.mem_cons.mp member with isSign | isDigit
    · rw [isSign] at isLetter
      revert isLetter
      cases negative <;> decide
    · have isDigit :=
        Nat.isDigit_of_mem_toDigits (b := 10) (by decide) (by decide)
          isDigit
      rcases isLetter with rfl | rfl
      all_goals
        revert isDigit
        decide
  obtain ⟨digit, digits, isRead, isValue⟩ := decimalDigits_toDigits count
  have isExponent :
      exponentValue
          ((if negative then '-' else '+') :: Nat.toDigits 10 count) =
        some (if negative then -(count : ℤ) else count) := by
    cases negative <;>
      simp [exponentValue, exponentValue.unsigned, isRead, isValue]
  unfold numeralValue
  rw [List.splitOnP_append_cons_of_forall_mem notLetter 'e' (by decide),
    List.splitOnP_eq_singleton notLetterLater]
  simp [isMantissa.reads, isExponent]

/-- The characters of the notation with an exponent. -/
theorem exponentText_toList :
    ∃ (characters : List Char) (negative : Bool) (shown : ℕ),
      (exponentText count exponent).toList =
          characters ++
            'e' :: (if negative then '-' else '+') ::
              Nat.toDigits 10 shown ∧
        ∃ value,
          IsMantissa characters value ∧
            value * 10 ^ (if negative then -(shown : ℤ) else shown) =
              count * 10 ^ exponent := by
  generalize isScale : (Nat.toDigits 10 count).length - 1 = scale
  refine
    ⟨(if scale = 0 then toString count
        else unsignedText scale count).toList,
      decide (exponent + scale < 0), (exponent + scale).natAbs, ?_,
      count / 10 ^ scale, ?_, ?_⟩
  · unfold exponentText
    simp only [isScale]
    by_cases negative : exponent + scale < 0 <;>
      simp [negative, Nat.toString_eq_repr, Nat.toList_repr]
  · by_cases noScale : scale = 0
    · simp only [noScale, if_true, pow_zero, div_one]
      exact isMantissa_count
    · simp only [noScale, if_false]
      exact isMantissa_unsignedText (Nat.pos_of_ne_zero noScale)
  · have isShown :
        (if decide (exponent + scale < 0) = true then
            -((exponent + scale).natAbs : ℤ)
          else ((exponent + scale).natAbs : ℤ)) = exponent + scale := by
      by_cases negative : exponent + scale < 0
      · simp only [negative, decide_true, if_true]
        omega
      · simp only [negative, decide_false, Bool.false_eq_true, if_false]
        omega
    rw [isShown, zpow_add₀ (by norm_num), zpow_natCast]
    field_simp

/-- What is written with an exponent is read back. -/
theorem ofText_exponentText :
    Double.ofText (exponentText count exponent) =
      .ofRational (count * 10 ^ exponent) := by
  obtain ⟨characters, negative, shown, isText, value, isMantissa,
    isValue⟩ := @exponentText_toList count exponent
  obtain ⟨first, rest, isFirst, isDigit⟩ := isMantissa.starts
  have noBlank :
      ∀ character ∈ (exponentText count exponent).toList,
        isBlank character = false := by
    intro character member
    rw [isText, List.mem_append, List.mem_cons, List.mem_cons] at member
    rcases member with inMantissa | rfl | rfl | inExponent
    · rcases isMantissa.plain character inMantissa with isDigit | rfl
      · exact isBlank_of_isDigit isDigit
      · decide
    · decide
    · cases negative <;> decide
    · exact
        isBlank_of_isDigit
          (Nat.isDigit_of_mem_toDigits (by decide) (by decide) inExponent)
  have notSign : first ≠ '-' ∧ first ≠ '+' ∧ first ≠ 'I' := by
    refine ⟨?_, ?_, ?_⟩ <;>
      · rintro rfl
        revert isDigit
        decide
  have isUnsigned :
      Double.ofText.unsigned (exponentText count exponent).toList =
        .ofRational (count * 10 ^ exponent) := by
    have notInfinity :
        (exponentText count exponent).toList ≠ "Infinity".toList := by
      rw [isText, isFirst]
      intro same
      exact notSign.2.2 (List.cons.inj same).1
    unfold Double.ofText.unsigned
    rw [if_neg notInfinity, isText,
      numeralValue_exponent isMantissa negative shown, isValue]
  unfold Double.ofText
  rw [trimText_of_noBlank noBlank]
  split
  · rename_i isEmpty
    rw [isText, isFirst] at isEmpty
    cases isEmpty
  · rename_i shape
    rw [isText, isFirst] at shape
    exact absurd (List.cons.inj shape).1 notSign.1
  · rename_i shape
    rw [isText, isFirst] at shape
    exact absurd (List.cons.inj shape).1 notSign.2.1
  · exact isUnsigned

end Exponents

/-! ## Positive numbers -/

/-- A positive double. -/
structure IsDouble (x : ℚ) : Prop where
  positive : 0 < x
  represents : binary64.Represents x
  bounded : x < 2 ^ 1024

/-- A decimal is the shortest name of a positive double. -/
structure IsShown (x : ℚ) (count : ℕ) (exponent : ℤ) : Prop where
  shortest : IsShortestName binary64.round x count exponent
  shown : JsNumber.ofPositive x = .ofDecimal count exponent

section Positive

variable {x y : ℚ} {count other : ℕ} {exponent power : ℤ}

/-- The shortest name is a name. -/
theorem IsShown.names (isShown : IsShown x count exponent) :
    binary64.round (count * 10 ^ exponent) = x := by
  exact_mod_cast isShown.shortest.names

theorem IsDouble.round_eq (isDouble : IsDouble x) :
    binary64.round x = x :=
  Format.round_of_represents isDouble.represents

/-- A rational number that is rounded to a double. -/
theorem ofRational_of_round
    (isDouble : IsDouble x)
    (rounded : binary64.round y = x) :
    Double.ofRational y = .finite x := by
  have small : |binary64.round y| < 2 ^ 1024 := by
    rw [rounded, abs_of_pos isDouble.positive]
    exact isDouble.bounded
  rw [Double.ofRational, if_pos small, rounded]

/-- A positive double is at least the least one. -/
theorem IsDouble.least_le (isDouble : IsDouble x) :
    (2 : ℚ) ^ (-1074 : ℤ) ≤ x := by
  obtain ⟨count, exponent, digits, least, isValue⟩ :=
    isDouble.represents
  have isPower : (0 : ℚ) < 2 ^ exponent := by positivity
  have positive := isDouble.positive
  rw [isValue] at positive ⊢
  have some : (1 : ℚ) ≤ count := by
    have isPositive : (0 : ℚ) < count :=
      pos_of_mul_pos_left positive isPower.le
    exact_mod_cast isPositive
  calc
    (2 : ℚ) ^ (-1074 : ℤ) ≤ 2 ^ exponent :=
      zpow_le_zpow_right₀ (by norm_num) least
    _ = 1 * 2 ^ exponent := (one_mul _).symm
    _ ≤ count * 2 ^ exponent :=
      mul_le_mul_of_nonneg_right some isPower.le

/-- A number names no double that is much less. -/
theorem IsDouble.power_small
    (isDouble : IsDouble x)
    (names : binary64.round (other * 10 ^ power) = x)
    (large : (2 : ℚ) ^ (-1074 : ℤ) ≤ 10 ^ power) :
    power ≤ Int.log 10 x + 1 := by
  have isPower : (0 : ℚ) < 10 ^ power := by positivity
  have some : 1 ≤ other := by
    by_contra none
    obtain rfl : other = 0 := by omega
    rw [Nat.cast_zero, zero_mul, Format.round_zero] at names
    exact isDouble.positive.ne names
  have atLeast : (10 : ℚ) ^ power ≤ other * 10 ^ power := by
    calc
      (10 : ℚ) ^ power = 1 * 10 ^ power := (one_mul _).symm
      _ ≤ other * 10 ^ power :=
        mul_le_mul_of_nonneg_right (by exact_mod_cast some) isPower.le
  have half :=
    @Format.le_two_mul_round binary64 _ (isPower.trans_le atLeast)
      (large.trans atLeast)
  rw [names] at half
  have below : ((10 : ℕ) : ℚ) ^ (power - 1) ≤ x := by
    rw [zpow_sub_one₀ (by norm_num)]
    push_cast
    linarith [isDouble.positive]
  have isLog :=
    (Int.zpow_le_iff_le_log (by decide) isDouble.positive).mp below
  omega

/-- Seventeen digits name every double. -/
theorem IsDouble.isShown (isDouble : IsDouble x) :
    ∃ count exponent, IsShown x count exponent := by
  have isFixed := isDouble.round_eq
  have small :
      (10 : ℚ) ^ (Int.log 10 x + 1 - (17 : ℕ)) * 10 ^ 16 ≤ x := by
    calc
      (10 : ℚ) ^ (Int.log 10 x + 1 - (17 : ℕ)) * 10 ^ 16 =
          ((10 : ℕ) : ℚ) ^ Int.log 10 x := by
        rw [← zpow_natCast, ← zpow_add₀ (by norm_num)]
        push_cast
        congr 1
        ring
      _ ≤ x := Int.zpow_log_le_self (by decide) isDouble.positive
  obtain ⟨other, nonneg, names⟩ :=
    exists_names isDouble.represents isDouble.positive
      (by decide) (by decide) small
  have found :=
    shortest?_isSome isFixed Format.round_mono isDouble.positive nonneg
      names
  obtain ⟨⟨count, exponent⟩, isShortest⟩ :=
    Option.isSome_iff_exists.mp found
  have nonnegCount := nonneg_of_shortest? isDouble.positive isShortest
  refine ⟨count.toNat, exponent, ?_, ?_⟩
  · rw [Int.toNat_of_nonneg nonnegCount]
    refine
      isShortestName_of_shortest? isFixed Format.round_mono
        isDouble.positive isShortest ?_
    intro other coarser nonneg above names
    have atLeast : x ≤ 10 ^ coarser := by
      have below :
          x < ((10 : ℕ) : ℚ) ^ (Int.log 10 x + 1) :=
        Int.lt_zpow_succ_log_self (by decide) x
      push_cast at below
      refine below.le.trans ?_
      exact zpow_le_zpow_right₀ (by norm_num) (by omega)
    obtain ⟨many, rfl⟩ := Int.eq_ofNat_of_zero_le nonneg
    have small :=
      isDouble.power_small (by exact_mod_cast names)
        (isDouble.least_le.trans atLeast)
    omega
  · rw [JsNumber.ofPositive, isShortest]

/-- The value of a decimal in plain notation. -/
theorem value_plain :
    (ShortestDecimal.ofScaled (-exponent).toNat
        (count * 10 ^ exponent.toNat)).value =
      (count : ℚ) * 10 ^ exponent := by
  rw [value_ofScaled]
  push_cast
  rcases le_total 0 exponent with nonneg | nonpos
  · obtain ⟨power, rfl⟩ := Int.eq_ofNat_of_zero_le nonneg
    simp
  · obtain ⟨power, isPower⟩ := Int.eq_ofNat_of_zero_le (by omega :
      0 ≤ -exponent)
    obtain rfl : exponent = -(power : ℤ) := by omega
    simp [div_eq_mul_inv]

/-- A decimal is read back, in either notation. -/
theorem double_ofDecimal :
    (JsNumber.ofDecimal count exponent).double =
      .ofRational (count * 10 ^ exponent) := by
  unfold JsNumber.ofDecimal
  by_cases isTiny : (count : ℚ) * 10 ^ exponent < 1 / 10 ^ 6
  · rw [if_pos isTiny, double_tiny, ofText_exponentText]
  · rw [if_neg isTiny]
    by_cases isLarge : 10 ^ 21 ≤ (count : ℚ) * 10 ^ exponent
    · rw [if_pos isLarge, double_large, ofText_exponentText]
    · rw [if_neg isLarge, double_decimal, value_plain]

/-- What a positive double shows is read back as that double. -/
theorem IsDouble.double_ofPositive (isDouble : IsDouble x) :
    (JsNumber.ofPositive x).double = .finite x := by
  obtain ⟨count, exponent, isShown⟩ := isDouble.isShown
  rw [isShown.shown, double_ofDecimal]
  exact ofRational_of_round isDouble isShown.names

/-- What a number shows is read back as that number. -/
theorem double_shown
    (nonneg : 0 ≤ x)
    (represents : binary64.Represents x)
    (bounded : x < 2 ^ 1024) :
    (Double.finite x).shown.double = .finite x := by
  rcases nonneg.eq_or_lt with isZero | positive
  · rw [← isZero]
    simp [Double.shown, JsNumber.double, JsNumber.ofNat,
      DecimalText.value, digitsValue, Double.ofRational]
  · have notNegative : ¬ x < 0 := positive.le.not_gt
    rw [Double.shown, if_neg positive.ne', if_neg notNegative]
    exact IsDouble.double_ofPositive ⟨positive, represents, bounded⟩

/-- The number nearest to a rational one is read back. -/
theorem double_ofRational (nonneg : 0 ≤ x) :
    (Double.ofRational x).shown.double = .ofRational x := by
  have nonnegRound : 0 ≤ binary64.round x := Format.round_nonneg nonneg
  by_cases small : |binary64.round x| < 2 ^ 1024
  · rw [Double.ofRational, if_pos small]
    refine double_shown nonnegRound Format.represents_round ?_
    rw [abs_of_nonneg nonnegRound] at small
    exact small
  · rw [Double.ofRational, if_neg small]
    simp [nonneg.not_gt, Double.shown, JsNumber.double]

/-! ## Powers of ten and cents -/

section Shown

/-- What names a double is not finer than what the double shows. -/
theorem IsShown.multiple
    (isShown : IsShown x count exponent)
    (names : binary64.round (other * 10 ^ power) = x) :
    ∃ many : ℕ, (count : ℚ) * 10 ^ exponent = many * 10 ^ power := by
  have coarse : power ≤ exponent := by
    by_contra finer
    exact
      isShown.shortest.coarsest other power (Int.natCast_nonneg other)
        (by omega) (by exact_mod_cast names)
  refine ⟨count * 10 ^ (exponent - power).toNat, ?_⟩
  have split : ((exponent - power).toNat : ℤ) + power = exponent := by
    omega
  push_cast
  rw [mul_assoc, ← zpow_natCast (10 : ℚ), ← zpow_add₀ (by norm_num), split]

theorem IsShown.positive
    (isShown : IsShown x count exponent)
    (isDouble : IsDouble x) :
    (0 : ℚ) < count * 10 ^ exponent := by
  by_contra none
  have nonpos := @Format.round_nonpos binary64 _ (not_lt.mp none)
  rw [isShown.names] at nonpos
  exact nonpos.not_gt isDouble.positive

/-- A double shows at least a power of ten when it is one. -/
theorem IsShown.power_le_iff
    (isShown : IsShown x count exponent)
    (isDouble : IsDouble x) :
    10 ^ power ≤ (count : ℚ) * 10 ^ exponent ↔
      binary64.round (10 ^ power) ≤ x := by
  constructor
  · intro atLeast
    have ordered :=
      @Format.round_mono binary64 _ _ (by positivity) atLeast
    rwa [isShown.names] at ordered
  · intro atLeast
    by_contra less
    have ordered :=
      @Format.round_mono binary64 _ _ (isShown.positive isDouble).le
        (not_le.mp less).le
    rw [isShown.names] at ordered
    have names :
        binary64.round ((1 : ℕ) * 10 ^ power) = x := by
      rw [Nat.cast_one, one_mul]
      exact le_antisymm atLeast ordered
    obtain ⟨many, isMultiple⟩ := isShown.multiple names
    have positive := isShown.positive isDouble
    rw [isMultiple] at positive less
    have isPower : (0 : ℚ) < 10 ^ power := by positivity
    have some : (1 : ℚ) ≤ many := by
      have notZero : 0 < (many : ℚ) := by
        exact pos_of_mul_pos_left positive isPower.le
      exact_mod_cast notZero
    apply less
    calc
      (10 : ℚ) ^ power = 1 * 10 ^ power := (one_mul _).symm
      _ ≤ many * 10 ^ power :=
        mul_le_mul_of_nonneg_right some isPower.le

end Shown

/-- The decimals in plain notation. -/
def IsPlain (value : ℚ) : Prop :=
  1 / 10 ^ 6 ≤ value ∧ value < 10 ^ 21

/-- A plain decimal is shown as such. -/
theorem ofDecimal_of_plain
    (isPlain : IsPlain ((count : ℚ) * 10 ^ exponent)) :
    JsNumber.ofDecimal count exponent =
      .decimal
        (.ofScaled (-exponent).toNat (count * 10 ^ exponent.toNat)) := by
  rw [JsNumber.ofDecimal, if_neg isPlain.1.not_gt,
    if_neg isPlain.2.not_ge]

/-- Only plain decimals have decimal parts. -/
theorem isPlain_of_decimalParts
    {parts : DecimalText}
    (isDecimal :
      decimalParts (.ofDecimal count exponent) = some parts) :
    IsPlain ((count : ℚ) * 10 ^ exponent) := by
  unfold JsNumber.ofDecimal at isDecimal
  by_cases isTiny : (count : ℚ) * 10 ^ exponent < 1 / 10 ^ 6
  · rw [if_pos isTiny] at isDecimal
    cases isDecimal
  · rw [if_neg isTiny] at isDecimal
    by_cases isLarge : 10 ^ 21 ≤ (count : ℚ) * 10 ^ exponent
    · rw [if_pos isLarge] at isDecimal
      cases isDecimal
    · exact ⟨not_lt.mp isTiny, not_le.mp isLarge⟩

/-- The cents of what is shown are its two-decimal floor. -/
theorem truncateTokenAmount_ofDecimal
    {amount : TokenAmount} :
    truncateTokenAmount (.ofDecimal count exponent) = some amount ↔
      IsPlain ((count : ℚ) * 10 ^ exponent) ∧
        (amount.units : ℤ) = ⌊(count : ℚ) * 10 ^ exponent * 100⌋ := by
  unfold truncateTokenAmount
  rw [Option.map_eq_some_iff]
  constructor
  · rintro ⟨parts, isDecimal, rfl⟩
    have isPlain := isPlain_of_decimalParts isDecimal
    rw [ofDecimal_of_plain isPlain] at isDecimal
    cases isDecimal
    refine ⟨isPlain, ?_⟩
    rw [DecimalText.flooredUnits_eq, value_plain]
  · rintro ⟨isPlain, isFloor⟩
    rw [ofDecimal_of_plain isPlain]
    refine ⟨_, rfl, ?_⟩
    obtain ⟨units⟩ := amount
    rw [TokenAmount.mk.injEq, ← @Nat.cast_inj ℤ, isFloor,
      DecimalText.flooredUnits_eq, value_plain]

/-- The number of some cents shows them. -/
theorem ofCents_eq (cents : ℕ) :
    ∃ shortest,
      JsNumber.ofCents cents = .decimal shortest ∧
        shortest.value = (cents : ℚ) / 100 := by
  have split : (cents : ℚ) =
      100 * (cents / 100 : ℕ) + 10 * (cents / 10 % 10 : ℕ) +
        (cents % 10 : ℕ) := by
    have parts :
        cents = 100 * (cents / 100) + 10 * (cents / 10 % 10) +
          cents % 10 := by
      omega
    exact_mod_cast parts
  unfold JsNumber.ofCents
  by_cases noHundredths : Fin.ofNat 10 cents = 0
  · have hundredths : cents % 10 = 0 := congrArg Fin.val noHundredths
    rw [hundredths] at split
    by_cases noTenths : Fin.ofNat 10 (cents / 10) = 0
    · have tenths : cents / 10 % 10 = 0 := congrArg Fin.val noTenths
      rw [tenths] at split
      simp only [noHundredths, noTenths, dite_true]
      refine ⟨_, rfl, ?_⟩
      simp only [DecimalText.value, digitsValue, List.foldl_nil,
        List.length_nil]
      rw [split]
      push_cast
      ring
    · simp only [noHundredths, noTenths, dite_true, dite_false]
      refine ⟨_, rfl, ?_⟩
      simp only [DecimalText.value, digitsValue, List.foldl_cons,
        List.foldl_nil, List.length_singleton, Fin.ofNat]
      rw [split]
      push_cast
      ring
  · simp only [noHundredths, dite_false]
    refine ⟨_, rfl, ?_⟩
    simp only [DecimalText.value, digitsValue, List.foldl_cons,
      List.foldl_nil, List.length_cons, List.length_nil, Fin.ofNat]
    rw [split]
    push_cast
    ring

/-- A decimal of whole cents is shown as those cents. -/
theorem ofDecimal_eq_ofCents
    {cents : ℕ}
    (isPlain : IsPlain ((count : ℚ) * 10 ^ exponent))
    (isCents : (count : ℚ) * 10 ^ exponent = cents / 100) :
    JsNumber.ofDecimal count exponent = .ofCents cents := by
  obtain ⟨shortest, isShortest, value⟩ := ofCents_eq cents
  rw [ofDecimal_of_plain isPlain, isShortest]
  congr 1
  apply ShortestDecimal.eq_of_value
  rw [value_plain, isCents, value]

/-- A small whole number is a double. -/
theorem ofRational_natCast (small : count < 2 ^ 53) :
    Double.ofRational (count : ℚ) = .finite count := by
  have represents : binary64.Represents ((count : ℤ) : ℚ) := by
    apply Format.represents_intCast
    · rw [Nat.abs_cast]
      exact_mod_cast small.le
    · decide
  have isFixed := Format.round_of_represents represents
  rw [Int.cast_natCast] at isFixed
  have bounded : |(count : ℚ)| < 2 ^ 1024 := by
    rw [Nat.abs_cast]
    calc
      (count : ℚ) < 2 ^ 53 := by exact_mod_cast small
      _ ≤ 2 ^ 1024 := pow_le_pow_right₀ (by norm_num) (by norm_num)
  rw [Double.ofRational, isFixed, if_pos bounded]

/-- The least positive double is very small. -/
theorem leastDouble_le (large : 2 ^ (-70 : ℤ) ≤ x) :
    2 ^ (-1074 : ℤ) ≤ x :=
  (zpow_le_zpow_right₀ (by norm_num) (by norm_num)).trans large

/-- What is shown of a positive double. -/
theorem IsShown.shown_ofRational
    (isShown : IsShown x count exponent)
    (isDouble : IsDouble x)
    (rounded : binary64.round y = x) :
    (Double.ofRational y).shown = .ofDecimal count exponent := by
  have notNegative : ¬ x < 0 := isDouble.positive.le.not_gt
  rw [ofRational_of_round isDouble rounded, Double.shown,
    if_neg isDouble.positive.ne', if_neg notNegative, isShown.shown]

end Positive

end Sparkz
