import Sparkz.JsonReading
import Sparkz.NumberTexts

namespace Sparkz

open BinaryRounding DecimalNames JsonText

/-!
# Finite numbers in JSON

`JSON.stringify` writes a finite number as `String(n)` does, which is a numeral
of the JSON grammar, and `JSON.parse` reads it back as the same number.
-/

/-- A finite double; the two zeros are one. -/
structure FiniteNumber where
  value : ℚ
  represents : binary64.Represents value
  bounded : |value| < 2 ^ 1024

theorem FiniteNumber.ext
    {first second : FiniteNumber}
    (same : first.value = second.value) :
    first = second := by
  cases first
  cases second
  cases same
  rfl

/-! ## Numerals -/

section Numerals

variable {characters : List Char} {count scale : ℕ} {exponent : ℤ}

theorem areDigits_iff :
    areDigits characters = true ↔
      characters ≠ [] ∧
        ∀ character ∈ characters, character.isDigit = true := by
  simp [areDigits]

/-- Digits of a number have no redundant zero in front. -/
theorem toDigits_head (count : ℕ) :
    Nat.toDigits 10 count = ['0'] ∨
      (Nat.toDigits 10 count).head? ≠ some '0' := by
  induction count using Nat.strongRecOn with
  | _ count inductionHypothesis =>
      by_cases small : count < 10
      · have single :
            ∀ count < 10,
              Nat.toDigits 10 count = ['0'] ∨
                (Nat.toDigits 10 count).head? ≠ some '0' := by
          decide
        exact single count small
      · right
        have split :=
          Nat.toDigits_of_base_le (b := 10) (by decide) (not_lt.mp small)
        have notSingle : Nat.toDigits 10 (count / 10) ≠ ['0'] := by
          intro isZero
          have value :=
            congrArg (fun digits => Nat.ofDigitChars 10 digits 0) isZero
          simp only [Nat.ofDigitChars_ten_toDigits] at value
          have zero : count / 10 = 0 := value
          omega
        have notZero :=
          (inductionHypothesis (count / 10) (by omega)).resolve_left
            notSingle
        rw [split, List.head?_append_of_ne_nil _ Nat.toDigits_ne_nil]
        exact notZero

theorem isWhole_toDigits : isWhole (Nat.toDigits 10 count) = true := by
  have digits :
      areDigits (Nat.toDigits 10 count) = true :=
    areDigits_iff.mpr
      ⟨Nat.toDigits_ne_nil,
        fun _ member =>
          Nat.isDigit_of_mem_toDigits (by decide) (by decide) member⟩
  rw [isWhole, digits, Bool.true_and, Bool.or_eq_true, beq_iff_eq,
    bne_iff_ne]
  exact toDigits_head count

/-- A whole number is a numeral without a sign. -/
theorem isPlainNumeral_toDigits :
    isPlainNumeral (Nat.toDigits 10 count) = true := by
  have noPoint : '.' ∉ Nat.toDigits 10 count :=
    point_not_mem fun _ member =>
      Nat.isDigit_of_mem_toDigits (by decide) (by decide) member
  rw [isPlainNumeral, List.splitOn_eq_singleton noPoint]
  exact isWhole_toDigits

/-- Digits with a fraction are a numeral without a sign. -/
theorem isPlainNumeral_fraction
    (fractionDigits : areDigits characters = true) :
    isPlainNumeral (Nat.toDigits 10 count ++ '.' :: characters) = true := by
  have noPoint : '.' ∉ Nat.toDigits 10 count :=
    point_not_mem fun _ member =>
      Nat.isDigit_of_mem_toDigits (by decide) (by decide) member
  rw [isPlainNumeral, List.splitOn_append_cons_self_of_not_mem noPoint,
    List.splitOn_eq_singleton
      (point_not_mem (areDigits_iff.mp fractionDigits).2)]
  simp only [isWhole_toDigits, fractionDigits, Bool.and_true]

/-- A number without an exponent is a numeral without a sign. -/
theorem isPlainNumeral_text (decimal : DecimalText) :
    isPlainNumeral decimal.text.toList = true := by
  obtain ⟨whole, fraction⟩ := decimal
  by_cases noFraction : fraction = []
  · have isText :
        (DecimalText.text ⟨whole, fraction⟩).toList =
          Nat.toDigits 10 whole := by
      simp [DecimalText.text, noFraction, Nat.toString_eq_repr,
        Nat.toList_repr]
    rw [isText]
    exact isPlainNumeral_toDigits
  · rw [decimalText_toList noFraction]
    apply isPlainNumeral_fraction
    rw [areDigits_iff]
    refine ⟨by simpa using noFraction, fun character member => ?_⟩
    obtain ⟨digit, _, rfl⟩ := List.mem_map.mp member
    exact isDigit_digitChar digit

/-- The characters before an exponent are a numeral without a sign. -/
theorem isPlainNumeral_mantissa :
    isPlainNumeral
        (if scale = 0 then toString count
          else unsignedText scale count).toList = true := by
  by_cases noScale : scale = 0
  · rw [if_pos noScale, Nat.toString_eq_repr, Nat.toList_repr]
    exact isPlainNumeral_toDigits
  · have positive : 0 < scale := Nat.pos_of_ne_zero noScale
    obtain ⟨digits, isRead, length, _⟩ :=
      decimalDigits_padZeros positive
        (Nat.mod_lt count (Nat.pow_pos (by decide : 0 < 10)))
    rw [if_neg noScale, unsignedText_toList]
    apply isPlainNumeral_fraction
    rw [areDigits_iff]
    refine ⟨?_, isDigit_of_decimalDigits isRead⟩
    intro isEmpty
    rw [isEmpty] at isRead
    have noDigits : digits = [] := by
      simpa [decimalDigits] using isRead.symm
    rw [noDigits] at length
    exact noScale length.symm

/-- Digits and points hold no letter of an exponent. -/
theorem noExponent
    (plain :
      ∀ character ∈ characters,
        character.isDigit = true ∨ character = '.') :
    ∀ character ∈ characters,
      decide (character ∈ ['e', 'E']) = false := by
  intro character member
  rw [decide_eq_false_iff_not]
  intro isLetter
  simp only [List.mem_cons, List.not_mem_nil, or_false] at isLetter
  rcases plain character member with isDigit | rfl
  · rcases isLetter with rfl | rfl
    · exact absurd isDigit (by decide)
    · exact absurd isDigit (by decide)
  · rcases isLetter with impossible | impossible
    · exact absurd impossible (by decide)
    · exact absurd impossible (by decide)

/-- A number without an exponent is a numeral. -/
theorem isUnsignedNumeral_text (decimal : DecimalText) :
    isUnsignedNumeral decimal.text.toList = true := by
  rw [isUnsignedNumeral,
    List.splitOnP_eq_singleton (noExponent isMantissa_text.plain)]
  exact isPlainNumeral_text decimal

/-- A number with an exponent is a numeral. -/
theorem isUnsignedNumeral_exponentText :
    isUnsignedNumeral (exponentText count exponent).toList = true := by
  generalize isScale : (Nat.toDigits 10 count).length - 1 = scale
  have isText :
      (exponentText count exponent).toList =
        (if scale = 0 then toString count
            else unsignedText scale count).toList ++
          'e' :: (if exponent + scale < 0 then '-' else '+') ::
            Nat.toDigits 10 (exponent + scale).natAbs := by
    unfold exponentText
    simp only [isScale]
    by_cases negative : exponent + scale < 0 <;>
      simp [negative, Nat.toString_eq_repr, Nat.toList_repr]
  have isPlain :
      ∀ character ∈
          (if scale = 0 then toString count
            else unsignedText scale count).toList,
        character.isDigit = true ∨ character = '.' := by
    by_cases noScale : scale = 0
    · rw [if_pos noScale]
      exact isMantissa_count.plain
    · rw [if_neg noScale]
      exact (isMantissa_unsignedText (Nat.pos_of_ne_zero noScale)).plain
  have digits :
      areDigits (Nat.toDigits 10 (exponent + scale).natAbs) = true :=
    areDigits_iff.mpr
      ⟨Nat.toDigits_ne_nil,
        fun _ member =>
          Nat.isDigit_of_mem_toDigits (by decide) (by decide) member⟩
  have noLetter :
      ∀ character ∈
          (if exponent + scale < 0 then '-' else '+') ::
            Nat.toDigits 10 (exponent + scale).natAbs,
        decide (character ∈ ['e', 'E']) = false := by
    intro character member
    rcases List.mem_cons.mp member with rfl | isDigit
    · split <;> decide
    · exact
        noExponent
          (fun _ isMember =>
            .inl
              (Nat.isDigit_of_mem_toDigits (by decide) (by decide)
                isMember))
          character isDigit
  rw [isUnsignedNumeral, isText,
    List.splitOnP_append_cons_of_forall_mem (noExponent isPlain) 'e'
      (by decide),
    List.splitOnP_eq_singleton noLetter]
  simp only [isPlainNumeral_mantissa, Bool.true_and]
  by_cases negative : exponent + scale < 0
  · rw [if_pos negative]
    exact digits
  · rw [if_neg negative]
    exact digits

end Numerals

/-! ## What numbers show -/

section Shown

variable {x : ℚ} {text : String} {first : Char} {rest : List Char}

/-- A positive number begins with a digit, and is a numeral without a sign. -/
structure IsUnsignedText (text : String) : Prop where
  begins :
    ∃ first rest, text.toList = first :: rest ∧ first.isDigit = true
  numeral : isUnsignedNumeral text.toList = true

/-- A decimal in either notation is a numeral without a sign. -/
theorem isUnsignedText_ofDecimal {count : ℕ} {exponent : ℤ} :
    IsUnsignedText (JsNumber.ofDecimal count exponent).text := by
  have exponentStarts :
      ∃ first rest,
        (exponentText count exponent).toList = first :: rest ∧
          first.isDigit = true := by
    obtain ⟨characters, _, _, isText, _, isMantissa, _⟩ :=
      @exponentText_toList count exponent
    obtain ⟨first, rest, isFirst, isDigit⟩ := isMantissa.starts
    rw [isText, isFirst]
    exact ⟨first, _, rfl, isDigit⟩
  unfold JsNumber.ofDecimal
  by_cases isTiny : (count : ℚ) * 10 ^ exponent < 1 / 10 ^ 6
  · rw [if_pos isTiny]
    exact ⟨exponentStarts, isUnsignedNumeral_exponentText⟩
  · rw [if_neg isTiny]
    by_cases isLarge : 10 ^ 21 ≤ (count : ℚ) * 10 ^ exponent
    · rw [if_pos isLarge]
      exact ⟨exponentStarts, isUnsignedNumeral_exponentText⟩
    · rw [if_neg isLarge]
      exact ⟨isMantissa_text.starts, isUnsignedNumeral_text _⟩

/-- A number that is not negative is shown as a numeral without a sign. -/
theorem isUnsignedText_shown
    (nonneg : 0 ≤ x)
    (represents : binary64.Represents x)
    (bounded : x < 2 ^ 1024) :
    IsUnsignedText (Double.finite x).shown.text := by
  rcases nonneg.eq_or_lt with isZero | positive
  · have isShown : (Double.finite x).shown = .ofNat 0 := by
      rw [← isZero]
      simp [Double.shown]
    rw [isShown]
    exact ⟨isMantissa_text.starts, isUnsignedNumeral_text _⟩
  · obtain ⟨count, exponent, isShown⟩ :=
      IsDouble.isShown ⟨positive, represents, bounded⟩
    rw [Double.shown, if_neg positive.ne', if_neg positive.le.not_gt,
      isShown.shown]
    exact isUnsignedText_ofDecimal

/-- A numeral without a sign is one of the grammar. -/
theorem isNumeral_of_unsigned
    (isUnsigned : IsUnsignedText text) :
    isNumeral text.toList = true := by
  obtain ⟨first, rest, isFirst, isDigit⟩ := isUnsigned.begins
  have numeral := isUnsigned.numeral
  rw [isFirst] at numeral ⊢
  unfold isNumeral
  split
  · rename_i shape
    rw [(List.cons.inj shape).1] at isDigit
    exact absurd isDigit (by decide)
  · exact numeral

/-- The opposite of a positive number is shown with a sign. -/
theorem shown_neg (negative : x < 0) :
    (Double.finite x).shown.text =
      "-" ++ (Double.finite (-x)).shown.text := by
  have positive : 0 < -x := by linarith
  rw [Double.shown, if_neg negative.ne, if_pos negative, Double.shown,
    if_neg positive.ne', if_neg positive.le.not_gt]
  rfl

/-- A character of a number is not a blank. -/
theorem isBlank_of_isNumeric
    {character : Char}
    (numeric : isNumeric character = true) :
    isBlank character = false := by
  simp only [isNumeric, Bool.or_eq_true, beq_iff_eq] at numeric
  rcases numeric with (((isDigit | rfl) | rfl) | rfl) | rfl
  · exact isBlank_of_isDigit isDigit
  all_goals
    decide

/-- A sign in front is read as the opposite. -/
theorem ofText_neg
    (isUnsigned : IsUnsignedText text)
    (isText : IsNumberText text.toList) :
    Double.ofText ("-" ++ text) = (Double.ofText text).negate := by
  obtain ⟨first, rest, isFirst, isDigit⟩ := isUnsigned.begins
  have noBlank :
      ∀ character ∈ text.toList, isBlank character = false :=
    fun character member =>
      isBlank_of_isNumeric (isText.numeric character member)
  have notSign : first ≠ '+' ∧ first ≠ '-' := by
    refine ⟨?_, ?_⟩ <;>
      · rintro rfl
        exact absurd isDigit (by decide)
  have isNegative : ("-" ++ text).toList = '-' :: text.toList := by
    simp
  have noBlankNegative :
      ∀ character ∈ ("-" ++ text).toList, isBlank character = false := by
    intro character member
    rw [isNegative] at member
    rcases List.mem_cons.mp member with rfl | later
    · decide
    · exact noBlank character later
  rw [ofText_unsigned noBlank ⟨first, rest, isFirst, notSign⟩]
  unfold Double.ofText
  rw [trimText_of_noBlank noBlankNegative, isNegative]
  rfl

/-- Every finite number is shown as a numeral, and read back. -/
theorem finite_written
    (represents : binary64.Represents x)
    (bounded : |x| < 2 ^ 1024) :
    IsNumberText (Double.finite x).shown.text.toList ∧
      isNumeral (Double.finite x).shown.text.toList = true ∧
      Double.ofText (Double.finite x).shown.text = .finite x := by
  by_cases negative : x < 0
  · have nonneg : 0 ≤ -x := by linarith
    have isSmall : -x < 2 ^ 1024 := (neg_le_abs x).trans_lt bounded
    obtain ⟨_, isText, isRead⟩ :=
      shown_written nonneg represents.neg isSmall
    have isUnsigned := isUnsignedText_shown nonneg represents.neg isSmall
    have isNegative :
        ("-" ++ (Double.finite (-x)).shown.text).toList =
          '-' :: (Double.finite (-x)).shown.text.toList := by
      simp
    rw [shown_neg negative]
    refine ⟨?_, ?_, ?_⟩
    · rw [isNegative]
      refine ⟨List.cons_ne_nil _ _, fun character member => ?_⟩
      rcases List.mem_cons.mp member with rfl | later
      · decide
      · exact isText.numeric character later
    · rw [isNegative]
      exact isUnsigned.numeral
    · rw [ofText_neg isUnsigned isText, isRead]
      simp [Double.negate]
  · have nonneg : 0 ≤ x := not_lt.mp negative
    have isSmall : x < 2 ^ 1024 := (le_abs_self x).trans_lt bounded
    obtain ⟨_, isText, isRead⟩ := shown_written nonneg represents isSmall
    exact
      ⟨isText,
        isNumeral_of_unsigned
          (isUnsignedText_shown nonneg represents isSmall),
        isRead⟩

end Shown

/-! ## The numbers of JSON -/

/-- The finite number that a double is. -/
def finiteNumber? :
    (number : Double) → number.IsExact → Option FiniteNumber
  | .finite x, exact =>
      some
        { value := x
          represents := by
            cases exact with
            | finite represents _ => exact represents
          bounded := by
            cases exact with
            | finite _ bounded => exact bounded }
  | _, _ => none

/-- A finite number is the one of its double. -/
theorem finiteNumber?_eq
    {number : Double}
    {exact : number.IsExact}
    {finite : FiniteNumber}
    (isNumber : number = .finite finite.value) :
    finiteNumber? number exact = some finite := by
  subst isNumber
  rfl

/-- Finite numbers are written as `String(n)` and read by `Number(text)`. -/
def FiniteNumber.format : NumberFormat FiniteNumber where
  written number :=
    { characters := (Double.finite number.value).shown.text.toList
      nonempty := (finite_written number.represents number.bounded).1.1
      numeric := (finite_written number.represents number.bounded).1.2 }
  read characters :=
    finiteNumber? (Double.ofText (String.ofList characters)) isExact_ofText
  numeral number := (finite_written number.represents number.bounded).2.1
  read_written number := by
    apply finiteNumber?_eq
    rw [String.ofList_toList]
    exact (finite_written number.represents number.bounded).2.2

end Sparkz
