import Sparkz.Text

namespace Sparkz

/-!
# Decimals and numbers

A JavaScript number enters the financial code through its shortest decimal
rendering, so the model keeps exactly what that rendering shows.  A decimal is
read from its digits, and written back as them.
-/

/-- A non-negative decimal text: whole part and fraction digits. -/
structure DecimalText where
  whole : Nat
  fraction : List (Fin 10)
  deriving Repr, DecidableEq

/-- A decimal text as `String(n)` writes it, without trailing zeros. -/
structure ShortestDecimal extends DecimalText where
  trimmed : fraction.getLast? ≠ some 0
  deriving DecidableEq

/-- A number, by what `String(n)` shows of it. -/
inductive JsNumber where
  | decimal : ShortestDecimal → JsNumber
  /-- Positive and rendered with a negative exponent, such as `1e-7`. -/
  | tiny : String → JsNumber
  /-- Positive and rendered with a positive exponent, such as `1e+21`. -/
  | large : String → JsNumber
  | negative : String → JsNumber
  | infinity : JsNumber
  | notANumber : JsNumber
  deriving DecidableEq

namespace DecimalText

/-- The first two fraction digits, padded with zeros. -/
def cents (text : DecimalText) : Nat :=
  match text.fraction with
  | [] => 0
  | [tenths] => 10 * tenths.val
  | tenths :: hundredths :: _ => 10 * tenths.val + hundredths.val

/-- `BigInt(whole) * 100n + BigInt((fraction + '00').slice(0, 2))`. -/
def flooredUnits (text : DecimalText) : Nat :=
  100 * text.whole + text.cents

/-- `${whole}.${fraction.slice(0, 3).padEnd(3, '0')}`. -/
def threeDecimals (text : DecimalText) : DecimalText where
  whole := text.whole
  fraction := ((text.fraction ++ [0, 0, 0]).take 3)

/-- `${whole}.${fraction || '0'}`. -/
def withFraction (text : DecimalText) : DecimalText where
  whole := text.whole
  fraction := if text.fraction = [] then [0] else text.fraction

/-- The text itself. -/
def text (decimal : DecimalText) : String :=
  if decimal.fraction = [] then toString decimal.whole
  else
    toString decimal.whole ++ "." ++
      String.join (decimal.fraction.map fun digit => toString digit.val)

end DecimalText

namespace JsNumber

/-- The number of a whole count. -/
def ofNat (count : Nat) : JsNumber :=
  .decimal ⟨⟨count, []⟩, by simp⟩

/-- The number that shows some cents. -/
def ofCents (cents : Nat) : JsNumber :=
  if someHundredths : Fin.ofNat 10 cents = 0 then
    if someTenths : Fin.ofNat 10 (cents / 10) = 0 then
      .decimal ⟨⟨cents / 100, []⟩, by simp⟩
    else
      .decimal
        ⟨⟨cents / 100, [Fin.ofNat 10 (cents / 10)]⟩,
          by simpa using someTenths⟩
  else
    .decimal
      ⟨⟨cents / 100,
          [Fin.ofNat 10 (cents / 10), Fin.ofNat 10 cents]⟩,
        by simpa using someHundredths⟩

/-- `String(n)`. -/
def text : JsNumber → String
  | .decimal shortest => shortest.toDecimalText.text
  | .tiny text | .large text | .negative text => text
  | .infinity => "Infinity"
  | .notANumber => "NaN"

/-- `Number.isFinite(n)`. -/
def isFinite : JsNumber → Bool
  | .infinity | .notANumber => false
  | _ => true

/-- `n > 0`. -/
def isPositive : JsNumber → Bool
  | .decimal shortest =>
      shortest.whole != 0 || shortest.fraction.any (· != 0)
  | .tiny _ | .large _ | .infinity => true
  | .negative _ | .notANumber => false

/-- `n` when it is a safe integer that is not negative. -/
def safeNatural? : JsNumber → Option Nat
  | .decimal shortest =>
      if shortest.fraction = [] ∧ shortest.whole < 2 ^ 53 then
        some shortest.whole
      else
        none
  | _ => none

end JsNumber

/-- The decimal parts of a number that renders as plain digits. -/
def decimalParts : JsNumber → Option DecimalText
  | .decimal decimal => some decimal.toDecimalText
  | _ => none

/-! ## Reading digits -/

/-- The digits of a decimal numeral, if it consists of digits only. -/
def decimalDigits (characters : List Char) : Option (List (Fin 10)) :=
  characters.mapM fun character =>
    if character.isDigit then
      some
        ⟨(character.toNat - '0'.toNat) % 10,
          Nat.mod_lt _ (by decide)⟩
    else
      none

/-- The number that decimal digits write. -/
def digitsValue (digits : List (Fin 10)) : Nat :=
  digits.foldl (fun value digit => 10 * value + digit.val) 0

/-- The parts of a text that matches `/^\d+(?:\.\d+)?$/`. -/
def decimalTextParts (text : String) : Option DecimalText :=
  match text.toList.splitOn '.' with
  | [whole] =>
      match decimalDigits whole with
      | some (digit :: digits) =>
          some ⟨digitsValue (digit :: digits), []⟩
      | _ => none
  | [whole, fraction] =>
      match decimalDigits whole, decimalDigits fraction with
      | some (digit :: digits), some (tenths :: rest) =>
          some ⟨digitsValue (digit :: digits), tenths :: rest⟩
      | _, _ => none
  | _ => none

theorem zero_lt_ten : 0 < 10 := by
  decide

/-- `text.padStart(length, '0')`. -/
def padZeros (length : Nat) (text : String) : String :=
  String.ofList
    (List.replicate (length - text.toList.length) '0' ++ text.toList)

/-- Digit characters are read as the digits they show. -/
theorem decimalDigits_of_digits
    {characters : List Char}
    (areDigits : ∀ character ∈ characters, character.isDigit = true) :
    ∃ digits,
      decimalDigits characters = some digits ∧
        digits.length = characters.length ∧
        digitsValue digits = Nat.ofDigitChars 10 characters 0 := by
  have generalised :
      ∀ start : Nat,
        ∃ digits,
          decimalDigits characters = some digits ∧
            digits.length = characters.length ∧
            digits.foldl (fun value digit => 10 * value + digit.val)
                start =
              Nat.ofDigitChars 10 characters start := by
    induction characters with
    | nil =>
        intro start
        exact ⟨[], rfl, rfl, rfl⟩
    | cons character rest inductionHypothesis =>
        intro start
        have isDigit := areDigits character List.mem_cons_self
        obtain ⟨digits, isRead, sameLength, value⟩ :=
          inductionHypothesis
            (fun other member =>
              areDigits other (List.mem_cons_of_mem _ member))
            (10 * start + (character.toNat - '0'.toNat))
        have small : character.toNat - '0'.toNat < 10 := by
          have bounds : 48 ≤ character.toNat ∧ character.toNat ≤ 57 := by
            simpa [Char.isDigit, UInt32.le_iff_toNat_le] using isDigit
          show character.toNat - 48 < 10
          omega
        refine
          ⟨⟨(character.toNat - '0'.toNat) % 10,
              Nat.mod_lt _ (by decide)⟩ :: digits, ?_, ?_, ?_⟩
        · unfold decimalDigits at isRead ⊢
          rw [List.mapM_cons, isRead]
          simp [isDigit]
        · simp [sameLength]
        · rw [List.foldl_cons, Nat.ofDigitChars_cons, ← value]
          simp only [Nat.mod_eq_of_lt small]
  exact generalised 0

/-- Only digits are read. -/
theorem isDigit_of_decimalDigits
    {characters : List Char}
    {digits : List (Fin 10)}
    (isRead : decimalDigits characters = some digits) :
    ∀ character ∈ characters, character.isDigit = true := by
  induction characters generalizing digits with
  | nil =>
      intro character impossible
      cases impossible
  | cons first rest inductionHypothesis =>
      unfold decimalDigits at isRead
      rw [List.mapM_cons] at isRead
      obtain ⟨digit, isFirst, isRead⟩ := Option.bind_eq_some_iff.mp isRead
      obtain ⟨others, isRest, _⟩ := Option.bind_eq_some_iff.mp isRead
      rw [Option.ite_none_right_eq_some] at isFirst
      intro character member
      rcases List.mem_cons.mp member with rfl | later
      · exact isFirst.1
      · exact inductionHypothesis isRest character later

/-- A digit writes a number below ten. -/
theorem exists_digitChar
    {character : Char}
    (isDigit : character.isDigit = true) :
    ∃ digit < 10, character = Nat.digitChar digit := by
  have range : 48 ≤ character.toNat ∧ character.toNat ≤ 57 := by
    simpa [Char.isDigit, UInt32.le_iff_toNat_le] using isDigit
  have small : character.toNat - 48 < 10 := by omega
  refine ⟨character.toNat - 48, small, ?_⟩
  apply Char.toNat_inj.mp
  rw [Nat.toNat_digitChar_of_lt_ten small]
  omega

/-- A digit is not a blank. -/
theorem isBlank_of_isDigit
    {character : Char}
    (isDigit : character.isDigit = true) :
    isBlank character = false := by
  have bounds : 48 ≤ character.toNat ∧ character.toNat ≤ 57 := by
    simpa [Char.isDigit, UInt32.le_iff_toNat_le] using isDigit
  have differs :
      ∀ other : Char, other.toNat < 48 → (character == other) = false := by
    intro other small
    rw [beq_eq_false_iff_ne]
    rintro rfl
    omega
  have notFar :
      [0xa0, 0x1680, 0x2028, 0x2029, 0x202f, 0x205f, 0x3000,
        0xfeff].contains character.toNat = false := by
    simp only [List.contains_eq_mem, decide_eq_false_iff_not,
      List.mem_cons, List.not_mem_nil, or_false]
    omega
  have notSpaced :
      (decide (0x2000 ≤ character.toNat) &&
        decide (character.toNat ≤ 0x200a)) = false := by
    rw [Bool.and_eq_false_iff]
    left
    rw [decide_eq_false_iff_not]
    omega
  unfold isBlank
  rw [notFar, notSpaced, differs ' ' (by decide),
    differs '\t' (by decide), differs '\n' (by decide),
    differs '\r' (by decide), differs '\x0b' (by decide),
    differs '\x0c' (by decide)]
  rfl

/-- The digits of a number are read as that number. -/
theorem decimalDigits_toDigits (count : Nat) :
    ∃ digit digits,
      decimalDigits (Nat.toDigits 10 count) = some (digit :: digits) ∧
        digitsValue (digit :: digits) = count := by
  obtain ⟨digits, isRead, sameLength, value⟩ :=
    decimalDigits_of_digits fun character member =>
      Nat.isDigit_of_mem_toDigits (b := 10) (n := count) (by decide)
        (by decide) member
  rw [Nat.ofDigitChars_ten_toDigits] at value
  cases digits with
  | nil =>
      have empty := List.length_eq_zero_iff.mp sameLength.symm
      exact absurd empty Nat.toDigits_ne_nil
  | cons digit digits =>
      exact ⟨digit, digits, isRead, value⟩

/-- Zeros in front of a number do not change it. -/
theorem decimalDigits_padZeros
    {scale count : Nat}
    (positive : 0 < scale)
    (short : count < 10 ^ scale) :
    ∃ digits,
      decimalDigits (padZeros scale (toString count)).toList =
          some digits ∧
        digits.length = scale ∧ digitsValue digits = count := by
  have characters :
      (padZeros scale (toString count)).toList =
        List.replicate (scale - (Nat.toDigits 10 count).length) '0' ++
          Nat.toDigits 10 count := by
    simp [padZeros, Nat.toString_eq_repr, Nat.toList_repr]
  have fits : (Nat.toDigits 10 count).length ≤ scale :=
    (Nat.length_toDigits_le_iff (by decide) positive).mpr short
  obtain ⟨digits, isRead, sameLength, value⟩ :=
    @decimalDigits_of_digits (padZeros scale (toString count)).toList <| by
      rw [characters]
      intro character member
      rcases List.mem_append.mp member with isZero | isDigit
      · rw [List.eq_of_mem_replicate isZero]
        decide
      · exact
          Nat.isDigit_of_mem_toDigits (b := 10) (by decide) (by decide)
            isDigit
  refine ⟨digits, isRead, ?_, ?_⟩
  · rw [sameLength, characters, List.length_append,
      List.length_replicate]
    omega
  · rw [value, characters, Nat.ofDigitChars_append,
      Nat.ofDigitChars_replicate_zero, Nat.mul_zero,
      Nat.ofDigitChars_ten_toDigits]

section Written

variable {scale : Nat} {absolute : Nat}

/-- The text of a decimal without its sign. -/
def unsignedText (scale absolute : Nat) : String :=
  toString (absolute / 10 ^ scale) ++ "." ++
    padZeros scale (toString (absolute % 10 ^ scale))

theorem unsignedText_toList :
    (unsignedText scale absolute).toList =
      Nat.toDigits 10 (absolute / 10 ^ scale) ++
        '.' :: (padZeros scale
          (toString (absolute % 10 ^ scale))).toList := by
  simp [unsignedText, Nat.toString_eq_repr, Nat.toList_repr]

/-- The unsigned text begins with a digit. -/
theorem unsignedText_notNegative :
    hasPrefix (unsignedText scale absolute) "-" = false := by
  cases whole : Nat.toDigits 10 (absolute / 10 ^ scale) with
  | nil =>
      exact absurd whole Nat.toDigits_ne_nil
  | cons first rest =>
      have isDigit : first.isDigit = true := by
        apply Nat.isDigit_of_mem_toDigits (b := 10)
          (n := absolute / 10 ^ scale) (by decide) (by decide)
        rw [whole]
        exact List.mem_cons_self
      have notSign : ('-' == first) = false := by
        rw [beq_eq_false_iff_ne]
        rintro rfl
        revert isDigit
        decide
      simp [hasPrefix, unsignedText_toList, whole, List.isPrefixOf, notSign]

/-- The unsigned text shows the whole part and all the digits after it. -/
theorem decimalTextParts_unsignedText (positive : 0 < scale) :
    ∃ parts,
      decimalTextParts (unsignedText scale absolute) = some parts ∧
        parts.fraction.length = scale ∧
        parts.whole * 10 ^ scale + digitsValue parts.fraction =
          absolute := by
  obtain ⟨first, rest, isWhole, whole⟩ :=
    decimalDigits_toDigits (absolute / 10 ^ scale)
  obtain ⟨digits, isFraction, sameLength, fraction⟩ :=
    decimalDigits_padZeros positive
      (Nat.mod_lt absolute (Nat.pow_pos (by decide : 0 < 10)))
  have noPoint :
      ∀ characters digits,
        decimalDigits characters = some digits → '.' ∉ characters := by
    intro characters digits isRead isPoint
    have isDigit := isDigit_of_decimalDigits isRead '.' isPoint
    revert isDigit
    decide
  have split :
      (unsignedText scale absolute).toList.splitOn '.' =
        [Nat.toDigits 10 (absolute / 10 ^ scale),
          (padZeros scale (toString (absolute % 10 ^ scale))).toList] := by
    rw [unsignedText_toList,
      List.splitOn_append_cons_self_of_not_mem (noPoint _ _ isWhole),
      List.splitOn_eq_singleton (noPoint _ _ isFraction)]
  cases digits with
  | nil =>
      rw [List.length_nil] at sameLength
      omega
  | cons tenths others =>
      refine
        ⟨⟨digitsValue (first :: rest), tenths :: others⟩, ?_, sameLength,
          ?_⟩
      · unfold decimalTextParts
        rw [split]
        simp only [isWhole, isFraction]
      · rw [whole, fraction]
        exact Nat.div_add_mod' absolute (10 ^ scale)

end Written

end Sparkz
