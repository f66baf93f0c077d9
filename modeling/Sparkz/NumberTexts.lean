import Sparkz.DecimalAmounts
import Sparkz.EnergyGrammar
import Sparkz.JsonText

namespace Sparkz

open BinaryRounding JsonText

/-!
# The text of a number in JSON

What `String(n)` writes of a number that is not negative is read back as that
number, so numbers with the same text are the same.
-/

/-- Digits, a point, an exponent and signs are the text of a number. -/
def JsNumber.numberText (number : JsNumber) : Option NumberText :=
  if written :
      number.text.toList ≠ [] ∧
        number.text.toList.all isNumeric = true then
    some
      ⟨number.text.toList, written.1, List.all_eq_true.mp written.2⟩
  else none

/-- What `JSON.stringify` makes of a number. -/
def JsNumber.json (number : JsNumber) : Json NumberText :=
  match number.isFinite, number.numberText with
  | true, some shown => .number shown
  | _, _ => .null

/-- A finite number that is not negative, as it is shown. -/
def JsNumber.IsShown (number : JsNumber) : Prop :=
  ∃ x : ℚ,
    0 ≤ x ∧ binary64.Represents x ∧ x < 2 ^ 1024 ∧
      number = (Double.finite x).shown

/-! ## Reading what is shown -/

section Reading

variable {text : String} {value x : ℚ} {decimal : DecimalText}

/-- A text without blanks and sign is read as it is. -/
theorem ofText_unsigned
    (noBlank : ∀ character ∈ text.toList, isBlank character = false)
    (begins :
      ∃ first rest,
        text.toList = first :: rest ∧ first ≠ '+' ∧ first ≠ '-') :
    Double.ofText text = Double.ofText.unsigned text.toList := by
  obtain ⟨first, rest, isFirst, notPlus, notMinus⟩ := begins
  unfold Double.ofText
  rw [trimText_of_noBlank noBlank]
  split
  · rename_i isEmpty
    rw [isFirst] at isEmpty
    cases isEmpty
  · rename_i shape
    rw [isFirst] at shape
    exact absurd (List.cons.inj shape).1 notMinus
  · rename_i shape
    rw [isFirst] at shape
    exact absurd (List.cons.inj shape).1 notPlus
  · rfl

/-- A text of digits and a point is read as its value. -/
theorem ofText_numeral
    (isNumeral : IsNumeral text.toList)
    (isValue : mantissaValue text.toList = some value) :
    Double.ofText text = .ofRational value := by
  have noBlank :
      ∀ character ∈ text.toList, isBlank character = false := by
    intro character member
    rcases isNumeral.plain character member with isDigit | rfl
    · exact isBlank_of_isDigit isDigit
    · decide
  obtain ⟨first, rest, isFirst, notPlus, notMinus, _⟩ := isNumeral.begins
  rw [ofText_unsigned noBlank ⟨first, rest, isFirst, notPlus, notMinus⟩]
  exact
    unsigned_of_numeral isNumeral
      ((numeralValue_of_numeral isNumeral).trans isValue)

/-- The characters of fraction digits. -/
theorem fraction_toList (digits : List (Fin 10)) :
    (String.join (digits.map fun digit => toString digit.val)).toList =
      digits.map fun digit => Nat.digitChar digit.val := by
  induction digits with
  | nil =>
      rfl
  | cons digit digits inductionHypothesis =>
      have isDigit :
          (toString digit.val).toList = [Nat.digitChar digit.val] := by
        rw [Nat.toString_eq_repr, Nat.toList_repr,
          Nat.toDigits_of_lt_base digit.isLt]
      rw [List.map_cons, String.join_cons, String.toList_append, isDigit,
        inductionHypothesis]
      rfl

/-- The characters of digits are digits. -/
theorem isDigit_digitChar (digit : Fin 10) :
    (Nat.digitChar digit.val).isDigit = true := by
  revert digit
  decide

/-- Digits are read back from their characters. -/
theorem decimalDigits_digitChar (digits : List (Fin 10)) :
    decimalDigits (digits.map fun digit => Nat.digitChar digit.val) =
      some digits := by
  have isRead : ∀ digit : Fin 10,
      digitOf (Nat.digitChar digit.val) = digit := by
    decide
  rw [decimalDigits_eq, if_pos]
  · rw [List.map_map]
    congr 1
    exact List.map_id'' isRead digits
  · rw [List.all_eq_true]
    intro character member
    obtain ⟨digit, _, rfl⟩ := List.mem_map.mp member
    exact isDigit_digitChar digit

/-- The characters of a decimal with a fraction. -/
theorem decimalText_toList
    {whole : ℕ}
    {fraction : List (Fin 10)}
    (someDigits : fraction ≠ []) :
    (DecimalText.text ⟨whole, fraction⟩).toList =
      Nat.toDigits 10 whole ++
        '.' :: fraction.map fun digit => Nat.digitChar digit.val := by
  rw [DecimalText.text, if_neg someDigits]
  simp only [String.toList_append, fraction_toList]
  rw [Nat.toString_eq_repr, Nat.toList_repr, List.append_assoc]
  rfl

/-- A decimal is written with digits and a point, and read as its value. -/
theorem isMantissa_text : IsMantissa decimal.text.toList decimal.value := by
  obtain ⟨whole, fraction⟩ := decimal
  by_cases noFraction : fraction = []
  · have isWhole := @isMantissa_count whole
    simpa [DecimalText.text, noFraction, DecimalText.value, digitsValue]
      using isWhole
  · have isText := @decimalText_toList whole fraction noFraction
    have wholeDigits :
        ∀ character ∈ Nat.toDigits 10 whole, character.isDigit = true :=
      fun _ member =>
        Nat.isDigit_of_mem_toDigits (by decide) (by decide) member
    have fractionDigits :
        ∀ character ∈ fraction.map fun digit => Nat.digitChar digit.val,
          character.isDigit = true := by
      intro character member
      obtain ⟨digit, _, rfl⟩ := List.mem_map.mp member
      exact isDigit_digitChar digit
    obtain ⟨digit, digits, isRead, isValue⟩ := decimalDigits_toDigits whole
    rw [isText]
    refine ⟨?_, ?_, ?_⟩
    · intro character member
      rcases List.mem_append.mp member with inWhole | inRest
      · exact .inl (wholeDigits character inWhole)
      · rcases List.mem_cons.mp inRest with isPoint | inFraction
        · exact .inr isPoint
        · exact .inl (fractionDigits character inFraction)
    · rcases shape : Nat.toDigits 10 whole with _ | ⟨first, rest⟩
      · exact absurd shape Nat.toDigits_ne_nil
      · refine ⟨first, _, rfl, wholeDigits first ?_⟩
        rw [shape]
        exact List.mem_cons_self
    · unfold mantissaValue
      rw [List.splitOn_append_cons_self_of_not_mem
          (point_not_mem wholeDigits),
        List.splitOn_eq_singleton (point_not_mem fractionDigits)]
      simp only [isRead, decimalDigits_digitChar]
      rw [if_neg (fun nothing => noFraction nothing.2)]
      rw [isValue]

/-- The text of a decimal is read as its value. -/
theorem ofText_decimal :
    Double.ofText decimal.text = .ofRational decimal.value :=
  ofText_numeral ⟨isMantissa_text.plain, isMantissa_text.starts⟩
    isMantissa_text.reads

/-! ## What a number shows -/

/-- The characters of the text of a number. -/
structure IsNumberText (characters : List Char) : Prop where
  nonempty : characters ≠ []
  numeric : ∀ character ∈ characters, isNumeric character = true

/-- Digits and points are characters of a number. -/
theorem isNumeric_of_mantissa
    {characters : List Char}
    (isMantissa : IsMantissa characters value) :
    IsNumberText characters := by
  obtain ⟨first, rest, isFirst, _⟩ := isMantissa.starts
  refine ⟨by simp [isFirst], fun character member => ?_⟩
  rcases isMantissa.plain character member with isDigit | rfl
  · simp [isNumeric, isDigit]
  · decide

/-- The notation with an exponent has the characters of a number. -/
theorem isNumberText_exponentText {count : ℕ} {exponent : ℤ} :
    IsNumberText (exponentText count exponent).toList := by
  obtain ⟨characters, negative, shown, isText, _, isMantissa, _⟩ :=
    @exponentText_toList count exponent
  rw [isText]
  refine ⟨by simp, fun character member => ?_⟩
  rcases List.mem_append.mp member with inMantissa | inRest
  · exact (isNumeric_of_mantissa isMantissa).numeric character inMantissa
  · rcases List.mem_cons.mp inRest with rfl | inRest
    · decide
    · rcases List.mem_cons.mp inRest with rfl | inDigits
      · cases negative <;> decide
      · have isDigit :=
          Nat.isDigit_of_mem_toDigits (b := 10) (by decide) (by decide)
            inDigits
        simp [isNumeric, isDigit]

/-- A decimal in either notation is a number in JSON, and is read back. -/
theorem ofDecimal_written {count : ℕ} {exponent : ℤ} :
    (JsNumber.ofDecimal count exponent).isFinite = true ∧
      IsNumberText (JsNumber.ofDecimal count exponent).text.toList ∧
      Double.ofText (JsNumber.ofDecimal count exponent).text =
        .ofRational (count * 10 ^ exponent) := by
  unfold JsNumber.ofDecimal
  by_cases isTiny : (count : ℚ) * 10 ^ exponent < 1 / 10 ^ 6
  · rw [if_pos isTiny]
    exact ⟨rfl, isNumberText_exponentText, ofText_exponentText⟩
  · rw [if_neg isTiny]
    by_cases isLarge : 10 ^ 21 ≤ (count : ℚ) * 10 ^ exponent
    · rw [if_pos isLarge]
      exact ⟨rfl, isNumberText_exponentText, ofText_exponentText⟩
    · rw [if_neg isLarge]
      refine ⟨rfl, isNumeric_of_mantissa isMantissa_text, ?_⟩
      exact ofText_decimal.trans (congrArg Double.ofRational value_plain)

/-- What a number shows is a number in JSON, and is read back. -/
theorem shown_written
    (nonneg : 0 ≤ x)
    (represents : binary64.Represents x)
    (bounded : x < 2 ^ 1024) :
    (Double.finite x).shown.isFinite = true ∧
      IsNumberText (Double.finite x).shown.text.toList ∧
      Double.ofText (Double.finite x).shown.text = .finite x := by
  rcases nonneg.eq_or_lt with isZero | positive
  · have isShown : (Double.finite x).shown = .ofNat 0 := by
      rw [← isZero]
      simp [Double.shown]
    rw [isShown]
    refine ⟨rfl, isNumeric_of_mantissa isMantissa_text, ?_⟩
    refine ofText_decimal.trans ?_
    rw [← isZero]
    simp [DecimalText.value, digitsValue, Double.ofRational]
  · have isDouble : IsDouble x := ⟨positive, represents, bounded⟩
    obtain ⟨count, exponent, isShown⟩ := isDouble.isShown
    have notNegative : ¬ x < 0 := positive.le.not_gt
    rw [Double.shown, if_neg positive.ne', if_neg notNegative,
      isShown.shown]
    obtain ⟨isFinite, isText, isRead⟩ := @ofDecimal_written count exponent
    exact
      ⟨isFinite, isText,
        isRead.trans (ofRational_of_round isDouble isShown.names)⟩

end Reading

/-! ## Numbers in JSON -/

section Json

variable {number other : JsNumber}

/-- A number that is shown is written as its own text. -/
theorem JsNumber.IsShown.json_eq (isShown : number.IsShown) :
    ∃ shown : NumberText,
      number.json = .number shown ∧
        shown.characters = number.text.toList := by
  obtain ⟨x, nonneg, represents, bounded, rfl⟩ := isShown
  obtain ⟨isFinite, ⟨nonempty, numeric⟩, _⟩ :=
    shown_written nonneg represents bounded
  refine ⟨⟨(Double.finite x).shown.text.toList, nonempty, numeric⟩, ?_, rfl⟩
  rw [JsNumber.json, JsNumber.numberText, 
    dif_pos ⟨nonempty, List.all_eq_true.mpr numeric⟩, isFinite]

/-- Numbers with the same text are the same. -/
theorem JsNumber.IsShown.text_injective
    (isShown : number.IsShown)
    (otherShown : other.IsShown)
    (same : number.text = other.text) :
    number = other := by
  obtain ⟨x, nonneg, represents, bounded, rfl⟩ := isShown
  obtain ⟨y, otherNonneg, otherRepresents, otherBounded, rfl⟩ := otherShown
  have isRead := (shown_written nonneg represents bounded).2.2
  have otherRead :=
    (shown_written otherNonneg otherRepresents otherBounded).2.2
  rw [← isRead, same, otherRead]

/-- Numbers are the same when they are the same in JSON. -/
theorem JsNumber.IsShown.json_injective
    (isShown : number.IsShown)
    (otherShown : other.IsShown)
    (same : number.json = other.json) :
    number = other := by
  obtain ⟨shown, isJson, isText⟩ := isShown.json_eq
  obtain ⟨otherText, isOtherJson, isOtherText⟩ := otherShown.json_eq
  apply isShown.text_injective otherShown
  apply String.toList_injective
  rw [isJson, isOtherJson, Json.number.injEq] at same
  rw [← isText, ← isOtherText, same]

end Json

end Sparkz
