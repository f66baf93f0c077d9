import Sparkz.Failure
import Sparkz.JsNumberTexts
import Sparkz.SignedDecimals

namespace Sparkz

/-!
# Amounts of two decimals

`canonicalTokenAmount`, `truncateTokenAmount` and `decimalUnits`, down to the
texts that they write.  An amount is read from digits, keeps its cents exactly
and is written with two fraction digits, which every other reader reads as the
same cents.
-/

/-- Digits, and the digits behind a point, if there is one. -/
structure PlainDecimal where
  whole : List Char
  fraction : List Char
  wholeDigits :
    whole ≠ [] ∧ ∀ character ∈ whole, character.isDigit = true
  fractionDigits : ∀ character ∈ fraction, character.isDigit = true
  deriving DecidableEq

theorem digitOf_bound (character : Char) :
    (character.toNat - '0'.toNat) % 10 < 10 :=
  Nat.mod_lt _ (Nat.succ_pos 9)

/-- The digit that a character shows. -/
def digitOf (character : Char) : Fin 10 :=
  ⟨(character.toNat - '0'.toNat) % 10, digitOf_bound character⟩

namespace PlainDecimal

variable (decimal : PlainDecimal)

/-- The text, which has a point only before a digit. -/
def text : String :=
  String.ofList
    (if decimal.fraction = [] then decimal.whole
      else decimal.whole ++ '.' :: decimal.fraction)

/-- What the text shows. -/
def parts : DecimalText where
  whole := Nat.ofDigitChars 10 decimal.whole 0
  fraction := decimal.fraction.map digitOf

/-- The number that the text writes. -/
def value : ℚ :=
  decimal.parts.value

end PlainDecimal

/-- The parts of a text that matches `/^\d+(?:\.\d+)?$/`. -/
def plainDecimal (text : String) : Option PlainDecimal :=
  match text.toList.splitOn '.' with
  | [whole] =>
      if digits : whole ≠ [] ∧ whole.all Char.isDigit = true then
        some
          ⟨whole, [], ⟨digits.1, List.all_eq_true.mp digits.2⟩, by simp⟩
      else none
  | [whole, fraction] =>
      if digits :
          (whole ≠ [] ∧ whole.all Char.isDigit = true) ∧
            fraction ≠ [] ∧ fraction.all Char.isDigit = true then
        some
          ⟨whole, fraction,
            ⟨digits.1.1, List.all_eq_true.mp digits.1.2⟩,
            List.all_eq_true.mp digits.2.2⟩
      else none
  | _ => none

namespace TokenAmounts

/-- `{ units, decimal, value }`. -/
structure CanonicalTokenAmount where
  units : Nat
  decimal : String
  value : JsNumber
  deriving DecidableEq

/-- `decimalText(value)`. -/
def decimalText : BodyValue → Option String
  | .number number => if number.isFinite then some number.text else none
  | .text text =>
      if trimText text = "" then none else some (trimText text)
  | _ => none

/-- `whole.replace(/^0+(?=\d)/, '')`, for digits. -/
def withoutLeadingZeros : List Char → List Char
  | '0' :: next :: rest => withoutLeadingZeros (next :: rest)
  | characters => characters

/-- The digits of a value, without redundant zeros in front. -/
def decimalParts (value : BodyValue) : Option (List Char × List Char) := do
  let text ← decimalText value
  let decimal ← plainDecimal text
  return (withoutLeadingZeros decimal.whole, decimal.fraction)

/-- `(fraction + '00').slice(0, 2)`. -/
def hundredths (fraction : List Char) : List Char :=
  (fraction ++ ['0', '0']).take 2

/-- `Number(units) / 100`. -/
def centsNumber (units : Nat) : JsNumber :=
  match Double.ofRational units with
  | .finite x => (Double.ofRational (x / 100)).shown
  | other => other.shown

/-- The amount of the digits of a decimal. -/
def amountOf (parts : List Char × List Char) : CanonicalTokenAmount :=
  let units :=
    Nat.ofDigitChars 10 parts.1 0 * 100 +
      Nat.ofDigitChars 10 (hundredths parts.2) 0
  { units
    decimal := String.ofList (parts.1 ++ '.' :: hundredths parts.2)
    value := centsNumber units }

def canonicalTokenAmount
    (value : BodyValue) :
    Option CanonicalTokenAmount := do
  let parts ← decimalParts value
  if 2 < parts.2.length then none else some (amountOf parts)

def truncateTokenAmount
    (value : BodyValue) :
    Option CanonicalTokenAmount :=
  (decimalParts value).map amountOf

/-- `decimalUnits(value)`, of a stored decimal or `null`. -/
def decimalUnits (value : Option String) : Except Failure Nat :=
  match plainDecimal (trimText (value.getD "0")) with
  | none => .error (.error "INVALID_DECIMAL_AMOUNT")
  | some decimal =>
      if 2 < decimal.fraction.length then
        .error (.error "UNSUPPORTED_TOKEN_PRECISION")
      else
        .ok
          (Nat.ofDigitChars 10 decimal.whole 0 * 100 +
            Nat.ofDigitChars 10 (hundredths decimal.fraction) 0)

end TokenAmounts

/-! ## Reading decimals -/

section Reading

variable {decimal other : PlainDecimal} {text : String}

/-- Digits are read one by one. -/
theorem decimalDigits_eq
    {characters : List Char} :
    decimalDigits characters =
      if characters.all Char.isDigit = true then
        some (characters.map digitOf)
      else none := by
  by_cases areDigits : characters.all Char.isDigit = true
  · rw [if_pos areDigits]
    induction characters with
    | nil =>
        simp [decimalDigits]
    | cons first rest inductionHypothesis =>
        rw [List.all_cons, Bool.and_eq_true] at areDigits
        obtain ⟨isDigit, restDigits⟩ := areDigits
        have isRest := inductionHypothesis restDigits
        unfold decimalDigits at isRest ⊢
        rw [List.mapM_cons, isRest]
        simp [isDigit, digitOf]
  · rw [if_neg areDigits, Option.eq_none_iff_forall_not_mem]
    intro digits isRead
    exact
      areDigits (List.all_eq_true.mpr (isDigit_of_decimalDigits isRead))

/-- The number of digits is the number that their characters write. -/
theorem digitsValue_digitOf
    {characters : List Char}
    (areDigits : ∀ character ∈ characters, character.isDigit = true) :
    digitsValue (characters.map digitOf) =
      Nat.ofDigitChars 10 characters 0 := by
  obtain ⟨digits, isRead, _, value⟩ := decimalDigits_of_digits areDigits
  rw [decimalDigits_eq, if_pos (List.all_eq_true.mpr areDigits)] at isRead
  rw [Option.some.inj isRead, value]

/-- The digits of a decimal contain no point. -/
theorem point_not_mem
    {characters : List Char}
    (areDigits : ∀ character ∈ characters, character.isDigit = true) :
    '.' ∉ characters := by
  intro isPoint
  have isDigit := areDigits '.' isPoint
  revert isDigit
  decide

/-- A decimal is read from its text. -/
theorem plainDecimal_text : plainDecimal decimal.text = some decimal := by
  obtain ⟨whole, fraction, wholeDigits, fractionDigits⟩ := decimal
  have wholePoint := point_not_mem wholeDigits.2
  by_cases noFraction : fraction = []
  · subst noFraction
    have isSplit :
        (PlainDecimal.text ⟨whole, [], wholeDigits,
            fractionDigits⟩).toList.splitOn '.' = [whole] := by
      simp only [PlainDecimal.text, if_true, String.toList_ofList]
      exact List.splitOn_eq_singleton wholePoint
    simp only [plainDecimal, isSplit]
    exact dif_pos ⟨wholeDigits.1, List.all_eq_true.mpr wholeDigits.2⟩
  · have isSplit :
        (PlainDecimal.text ⟨whole, fraction, wholeDigits,
            fractionDigits⟩).toList.splitOn '.' = [whole, fraction] := by
      simp only [PlainDecimal.text, noFraction, if_false,
        String.toList_ofList]
      rw [List.splitOn_append_cons_self_of_not_mem wholePoint,
        List.splitOn_eq_singleton (point_not_mem fractionDigits)]
    simp only [plainDecimal, isSplit]
    exact
      dif_pos
        ⟨⟨wholeDigits.1, List.all_eq_true.mpr wholeDigits.2⟩, noFraction,
          List.all_eq_true.mpr fractionDigits⟩

/-- What is read is the text of the decimal. -/
theorem text_of_plainDecimal
    (isRead : plainDecimal text = some decimal) :
    text = decimal.text := by
  have joined :
      ['.'].intercalate (text.toList.splitOn '.') = text.toList :=
    List.intercalate_splitOn '.'
  unfold plainDecimal at isRead
  split at isRead
  · rename_i whole isSplit
    split_ifs at isRead with digits
    rw [isSplit] at joined
    rw [← Option.some.inj isRead, PlainDecimal.text, if_pos rfl]
    simpa using congrArg String.ofList joined.symm
  · rename_i whole fraction isSplit
    split_ifs at isRead with digits
    rw [isSplit] at joined
    rw [← Option.some.inj isRead, PlainDecimal.text,
      if_neg digits.2.1]
    simpa using congrArg String.ofList joined.symm
  · cases isRead

/-- The parts of a text are the parts of the decimal that it is. -/
theorem decimalTextParts_eq :
    decimalTextParts text = (plainDecimal text).map PlainDecimal.parts := by
  unfold decimalTextParts plainDecimal
  rcases text.toList.splitOn '.' with
    _ | ⟨whole, _ | ⟨fraction, _ | ⟨_, _⟩⟩⟩
  · rfl
  · simp only [decimalDigits_eq]
    by_cases areDigits : whole.all Char.isDigit = true
    · rcases whole with _ | ⟨first, rest⟩
      · simp
      · rw [if_pos areDigits, dif_pos ⟨List.cons_ne_nil _ _, areDigits⟩]
        simp only [List.map_cons, Option.map_some, PlainDecimal.parts,
          List.map_nil]
        rw [← digitsValue_digitOf (List.all_eq_true.mp areDigits),
          List.map_cons]
    · rw [if_neg areDigits, dif_neg fun digits => areDigits digits.2]
      rfl
  · simp only [decimalDigits_eq]
    by_cases areDigits : whole.all Char.isDigit = true
    · by_cases areTenths : fraction.all Char.isDigit = true
      · rcases whole with _ | ⟨first, rest⟩
        · simp
        · rcases fraction with _ | ⟨tenths, others⟩
          · simp
          · rw [if_pos areDigits, if_pos areTenths,
              dif_pos
                ⟨⟨List.cons_ne_nil _ _, areDigits⟩,
                  List.cons_ne_nil _ _, areTenths⟩]
            simp only [List.map_cons, Option.map_some,
              PlainDecimal.parts]
            rw [← digitsValue_digitOf (List.all_eq_true.mp areDigits),
              List.map_cons]
      · rw [if_neg areTenths, dif_neg fun digits => areTenths digits.2.2]
        split <;> simp_all
    · rw [if_neg areDigits, dif_neg fun digits => areDigits digits.1.2]
      rfl
  · rfl

end Reading

/-! ## Cents -/

namespace TokenAmounts

variable
  {decimal other : PlainDecimal}
  {value : BodyValue}
  {amount : CanonicalTokenAmount}
  {whole fraction : List Char}

/-- A digit counts what it shows. -/
theorem digitOf_val
    {character : Char}
    (isDigit : character.isDigit = true) :
    (digitOf character).val = character.toNat - 48 := by
  have bounds : 48 ≤ character.toNat ∧ character.toNat ≤ 57 := by
    simpa [Char.isDigit, UInt32.le_iff_toNat_le] using isDigit
  exact Nat.mod_eq_of_lt (show character.toNat - 48 < 10 by omega)

/-- The first two digits, padded with zeros, are the cents. -/
theorem ofDigitChars_hundredths
    (areDigits : ∀ character ∈ fraction, character.isDigit = true) :
    Nat.ofDigitChars 10 (hundredths fraction) 0 =
      DecimalText.cents ⟨0, fraction.map digitOf⟩ := by
  rcases fraction with _ | ⟨tenths, _ | ⟨hundredths, rest⟩⟩
  · rfl
  · have isTenths := digitOf_val (areDigits tenths (by simp))
    simp [TokenAmounts.hundredths, DecimalText.cents, isTenths,
      Nat.ofDigitChars_cons]
  · have isTenths := digitOf_val (areDigits tenths (by simp))
    have isHundredths := digitOf_val (areDigits hundredths (by simp))
    simp [TokenAmounts.hundredths, DecimalText.cents, isTenths,
      isHundredths, Nat.ofDigitChars_cons]

/-- Without a redundant zero nothing is removed. -/
theorem withoutLeadingZeros_eq_self
    (notZero : ∀ next rest, whole = '0' :: next :: rest → False) :
    withoutLeadingZeros whole = whole := by
  unfold withoutLeadingZeros
  split
  · rename_i next rest
    exact absurd rfl (notZero next rest)
  · rfl

/-- Zeros in front do not change a number. -/
theorem ofDigitChars_withoutLeadingZeros :
    Nat.ofDigitChars 10 (withoutLeadingZeros whole) 0 =
      Nat.ofDigitChars 10 whole 0 := by
  induction whole using withoutLeadingZeros.induct with
  | case1 next rest inductionHypothesis =>
      rw [withoutLeadingZeros, inductionHypothesis]
      simp [Nat.ofDigitChars_cons]
  | case2 characters notZero =>
      rw [withoutLeadingZeros_eq_self notZero]

/-- What is left are the last digits. -/
theorem withoutLeadingZeros_suffix :
    withoutLeadingZeros whole <:+ whole := by
  induction whole using withoutLeadingZeros.induct with
  | case1 next rest inductionHypothesis =>
      rw [withoutLeadingZeros]
      exact inductionHypothesis.trans (List.suffix_cons _ _)
  | case2 characters notZero =>
      rw [withoutLeadingZeros_eq_self notZero]

theorem withoutLeadingZeros_ne_nil (notEmpty : whole ≠ []) :
    withoutLeadingZeros whole ≠ [] := by
  induction whole using withoutLeadingZeros.induct with
  | case1 next rest inductionHypothesis =>
      rw [withoutLeadingZeros]
      exact inductionHypothesis (List.cons_ne_nil _ _)
  | case2 characters notZero =>
      rw [withoutLeadingZeros_eq_self notZero]
      exact notEmpty

/-- A zero is left in front only when it is the only digit. -/
theorem withoutLeadingZeros_head
    {rest : List Char}
    (isZero : withoutLeadingZeros whole = '0' :: rest) :
    rest = [] := by
  induction whole using withoutLeadingZeros.induct with
  | case1 next others inductionHypothesis =>
      rw [withoutLeadingZeros] at isZero
      exact inductionHypothesis isZero
  | case2 characters notZero =>
      rw [withoutLeadingZeros_eq_self notZero] at isZero
      rcases rest with _ | ⟨next, rest⟩
      · rfl
      · exact (notZero next rest isZero).elim

/-- Zeros are removed once. -/
theorem withoutLeadingZeros_again :
    withoutLeadingZeros (withoutLeadingZeros whole) =
      withoutLeadingZeros whole := by
  apply withoutLeadingZeros_eq_self
  intro next rest isZero
  cases withoutLeadingZeros_head isZero

/-- Two digits are all there is. -/
theorem length_hundredths : (hundredths fraction).length = 2 := by
  simp [hundredths]

theorem hundredths_again :
    hundredths (hundredths fraction) = hundredths fraction := by
  rw [hundredths, ← @length_hundredths fraction, List.take_left]

theorem isDigit_hundredths
    (areDigits : ∀ character ∈ fraction, character.isDigit = true) :
    ∀ character ∈ hundredths fraction, character.isDigit = true := by
  intro character member
  rcases List.mem_append.mp (List.mem_of_mem_take member) with
    isDigit | isZero
  · exact areDigits character isDigit
  · simp only [List.mem_cons, List.not_mem_nil, or_false] at isZero
    rcases isZero with rfl | rfl
    · decide
    · decide

/-- The decimal with its cents written out. -/
def written (decimal : PlainDecimal) : PlainDecimal where
  whole := withoutLeadingZeros decimal.whole
  fraction := hundredths decimal.fraction
  wholeDigits :=
    ⟨withoutLeadingZeros_ne_nil decimal.wholeDigits.1,
      fun character member =>
        decimal.wholeDigits.2 character
          (withoutLeadingZeros_suffix.subset member)⟩
  fractionDigits := isDigit_hundredths decimal.fractionDigits

/-- The amount of a decimal. -/
def decimalAmount (decimal : PlainDecimal) : CanonicalTokenAmount :=
  amountOf (withoutLeadingZeros decimal.whole, decimal.fraction)

/-- A decimal has no blanks. -/
theorem trimText_text : trimText decimal.text = decimal.text := by
  apply trimText_of_noBlank
  intro character member
  rw [PlainDecimal.text, String.toList_ofList] at member
  have isPart :
      character ∈ decimal.whole ∨ character = '.' ∨
        character ∈ decimal.fraction := by
    split_ifs at member
    · exact .inl member
    · simpa using member
  rcases isPart with isWhole | rfl | isFraction
  · exact isBlank_of_isDigit (decimal.wholeDigits.2 character isWhole)
  · decide
  · exact isBlank_of_isDigit (decimal.fractionDigits character isFraction)

/-- A decimal is not empty. -/
theorem text_ne_empty : decimal.text ≠ "" := by
  intro isEmpty
  have noCharacters : decimal.text.toList = [] := by
    rw [isEmpty]
    rfl
  rw [PlainDecimal.text, String.toList_ofList] at noCharacters
  split_ifs at noCharacters
  · exact decimal.wholeDigits.1 noCharacters
  · simp at noCharacters

/-- The text of a decimal is its own text. -/
theorem decimalText_text :
    decimalText (.text decimal.text) = some decimal.text := by
  simp only [decimalText, trimText_text, text_ne_empty, if_false]

/-- The cents of a decimal are its two-decimal floor. -/
theorem units_decimalAmount :
    (decimalAmount decimal).units = decimal.parts.flooredUnits := by
  have isCents := ofDigitChars_hundredths decimal.fractionDigits
  simp only [decimalAmount, amountOf, ofDigitChars_withoutLeadingZeros, isCents]
  simp only [DecimalText.flooredUnits, PlainDecimal.parts,
    DecimalText.cents]
  omega

/-- The cents are the floor of a hundred times the decimal. -/
theorem units_eq_floor :
    ((decimalAmount decimal).units : ℤ) = ⌊100 * decimal.value⌋ := by
  rw [units_decimalAmount, DecimalText.flooredUnits_eq, mul_comm]
  rfl

/-- With at most two fraction digits the floor is exact. -/
theorem units_eq
    (short : decimal.fraction.length ≤ 2) :
    ((decimalAmount decimal).units : ℚ) = 100 * decimal.value := by
  rw [units_decimalAmount, PlainDecimal.value, DecimalText.flooredUnits,
    DecimalText.value]
  have isShort : decimal.parts.fraction.length ≤ 2 := by
    simpa [PlainDecimal.parts] using short
  rcases isFraction : decimal.parts.fraction with
    _ | ⟨tenths, _ | ⟨hundredths, rest⟩⟩
  · simp [DecimalText.cents, isFraction, digitsValue]
  · simp only [DecimalText.cents, isFraction, digitsValue,
      List.foldl_cons, List.foldl_nil, List.length_singleton]
    push_cast
    ring
  · rw [isFraction] at isShort
    have noRest : rest = [] := by
      simpa using isShort
    subst noRest
    simp only [DecimalText.cents, isFraction, digitsValue,
      List.foldl_cons, List.foldl_nil, List.length_cons, List.length_nil]
    push_cast
    ring

/-- The amount writes its decimal with two fraction digits. -/
theorem decimal_eq_written :
    (decimalAmount decimal).decimal = (written decimal).text := by
  have someDigits : hundredths decimal.fraction ≠ [] := by
    intro noDigits
    have length := @length_hundredths decimal.fraction
    rw [noDigits] at length
    cases length
  rw [PlainDecimal.text, written, if_neg someDigits]
  rfl

/-- The written decimal has the same amount. -/
theorem decimalAmount_written :
    decimalAmount (written decimal) = decimalAmount decimal := by
  simp only [decimalAmount, amountOf, written, withoutLeadingZeros_again,
    hundredths_again]

/-! ## Accepted values -/

/-- The parts of a value that is a decimal. -/
theorem decimalParts_of_text
    (isText : decimalText value = some decimal.text) :
    decimalParts value =
      some (withoutLeadingZeros decimal.whole, decimal.fraction) := by
  rw [decimalParts, isText]
  simp only [Option.bind_eq_bind, Option.bind_some, plainDecimal_text]
  rfl

/-- Only decimals have parts. -/
theorem text_of_decimalParts
    {parts : List Char × List Char}
    (isParts : decimalParts value = some parts) :
    ∃ decimal : PlainDecimal, decimalText value = some decimal.text := by
  obtain ⟨text, isText, isParts⟩ := Option.bind_eq_some_iff.mp isParts
  obtain ⟨decimal, isDecimal, _⟩ := Option.bind_eq_some_iff.mp isParts
  exact ⟨decimal, text_of_plainDecimal isDecimal ▸ isText⟩

/-- The canonical amount of a decimal. -/
theorem canonicalTokenAmount_of_text
    (isText : decimalText value = some decimal.text)
    (short : decimal.fraction.length ≤ 2) :
    canonicalTokenAmount value = some (decimalAmount decimal) := by
  rw [canonicalTokenAmount, decimalParts_of_text isText]
  exact if_neg (Nat.not_lt.mpr short)

/-- Only decimals with at most two fraction digits are canonical. -/
theorem text_of_canonicalTokenAmount
    (isAmount : canonicalTokenAmount value = some amount) :
    ∃ decimal : PlainDecimal,
      decimalText value = some decimal.text ∧
        decimal.fraction.length ≤ 2 ∧
        amount = decimalAmount decimal := by
  obtain ⟨parts, isParts, isAmount⟩ := Option.bind_eq_some_iff.mp isAmount
  obtain ⟨decimal, isText⟩ := text_of_decimalParts isParts
  rw [decimalParts_of_text isText] at isParts
  split_ifs at isAmount with isLong
  rw [← Option.some.inj isParts] at isLong isAmount
  exact
    ⟨decimal, isText, Nat.not_lt.mp isLong,
      (Option.some.inj isAmount).symm⟩

theorem truncateTokenAmount_of_text
    (isText : decimalText value = some decimal.text) :
    truncateTokenAmount value = some (decimalAmount decimal) := by
  rw [truncateTokenAmount, decimalParts_of_text isText]
  rfl

/-- Only decimals are truncated. -/
theorem text_of_truncateTokenAmount
    (isAmount : truncateTokenAmount value = some amount) :
    ∃ decimal : PlainDecimal,
      decimalText value = some decimal.text ∧
        amount = decimalAmount decimal := by
  obtain ⟨parts, isParts, rfl⟩ := Option.map_eq_some_iff.mp isAmount
  obtain ⟨decimal, isText⟩ := text_of_decimalParts isParts
  rw [decimalParts_of_text isText] at isParts
  exact ⟨decimal, isText, by rw [← Option.some.inj isParts]; rfl⟩

/-- The stored units of a decimal. -/
theorem decimalUnits_text (short : decimal.fraction.length ≤ 2) :
    decimalUnits (some decimal.text) =
      .ok (decimalAmount decimal).units := by
  have isRead :
      plainDecimal (trimText ((some decimal.text).getD "0")) =
        some decimal := by
    rw [Option.getD_some, trimText_text, plainDecimal_text]
  unfold decimalUnits
  simp only [isRead, if_neg (Nat.not_lt.mpr short), decimalAmount,
    amountOf, ofDigitChars_withoutLeadingZeros]

/-! ## Amounts and their texts -/

/-- Digits without a redundant zero are the digits of their number. -/
theorem toDigits_ofDigitChars
    (areDigits : ∀ character ∈ whole, character.isDigit = true)
    (notEmpty : whole ≠ [])
    (single : ∀ rest, whole = '0' :: rest → rest = []) :
    Nat.toDigits 10 (Nat.ofDigitChars 10 whole 0) = whole := by
  induction whole using List.reverseRecOn with
  | nil =>
      exact absurd rfl notEmpty
  | append_singleton front last inductionHypothesis =>
      obtain ⟨digit, small, isLast⟩ :=
        exists_digitChar (areDigits last (by simp))
      by_cases noFront : front = []
      · rw [noFront, isLast, List.nil_append,
          Nat.ofDigitChars_cons_digitChar_of_lt_ten small]
        simp [Nat.toDigits_of_lt_base small]
      · have notZero : ∀ rest, front ≠ '0' :: rest := by
          intro rest isZero
          have tooShort := single (rest ++ [last]) (by rw [isZero]; rfl)
          simp at tooShort
        have isFront :=
          inductionHypothesis
            (fun character member =>
              areDigits character (List.mem_append_left _ member))
            noFront
            (fun rest isZero => absurd isZero (notZero rest))
        have positive : 0 < Nat.ofDigitChars 10 front 0 := by
          by_contra none
          have isZero : Nat.ofDigitChars 10 front 0 = 0 := by omega
          rw [isZero] at isFront
          exact notZero [] isFront.symm
        rw [Nat.ofDigitChars_append, isLast,
          Nat.ofDigitChars_cons_digitChar_of_lt_ten small,
          Nat.ofDigitChars_nil,
          ← Nat.toDigits_append_toDigits (by decide) positive small,
          isFront, Nat.toDigits_of_lt_base small]

/-- The cents are two digits. -/
theorem hundredths_eq
    (areDigits : ∀ character ∈ fraction, character.isDigit = true) :
    ∃ tenths < 10, ∃ rest < 10,
      hundredths fraction = [Nat.digitChar tenths, Nat.digitChar rest] ∧
        Nat.ofDigitChars 10 (hundredths fraction) 0 =
          10 * tenths + rest := by
  have areHundredths := isDigit_hundredths areDigits
  obtain ⟨first, second, isPair⟩ :=
    List.length_eq_two.mp (@length_hundredths fraction)
  rw [isPair] at areHundredths ⊢
  obtain ⟨tenths, fewTenths, isTenths⟩ :=
    exists_digitChar (areHundredths first (by simp))
  obtain ⟨rest, fewRest, isRest⟩ :=
    exists_digitChar (areHundredths second (by simp))
  refine ⟨tenths, fewTenths, rest, fewRest, by rw [isTenths, isRest], ?_⟩
  rw [isTenths, isRest,
    Nat.ofDigitChars_cons_digitChar_of_lt_ten fewTenths,
    Nat.ofDigitChars_cons_digitChar_of_lt_ten fewRest,
    Nat.ofDigitChars_nil, Nat.mul_zero, Nat.zero_add]

/-- Two digits are determined by the number that they write. -/
theorem hundredths_injective
    {others : List Char}
    (areDigits : ∀ character ∈ fraction, character.isDigit = true)
    (otherDigits : ∀ character ∈ others, character.isDigit = true)
    (same :
      Nat.ofDigitChars 10 (hundredths fraction) 0 =
        Nat.ofDigitChars 10 (hundredths others) 0) :
    hundredths fraction = hundredths others := by
  obtain ⟨tenths, fewTenths, rest, fewRest, isPair, isCents⟩ :=
    hundredths_eq areDigits
  obtain ⟨otherTenths, otherFewTenths, otherRest, otherFewRest,
    isOtherPair, isOtherCents⟩ := hundredths_eq otherDigits
  rw [isCents, isOtherCents] at same
  have sameTenths : tenths = otherTenths := by omega
  have sameRest : rest = otherRest := by omega
  rw [isPair, isOtherPair, sameTenths, sameRest]

/-- The whole part of an amount is written without redundant zeros. -/
theorem toDigits_whole :
    Nat.toDigits 10
        (Nat.ofDigitChars 10 (withoutLeadingZeros decimal.whole) 0) =
      withoutLeadingZeros decimal.whole :=
  toDigits_ofDigitChars (written decimal).wholeDigits.2
    (written decimal).wholeDigits.1
    (fun _ isZero => withoutLeadingZeros_head isZero)

/-- Amounts of the same cents have the same text, and only they do. -/
theorem decimal_eq_iff :
    (decimalAmount decimal).decimal = (decimalAmount other).decimal ↔
      (decimalAmount decimal).units = (decimalAmount other).units := by
  constructor
  · intro same
    rw [decimal_eq_written, decimal_eq_written] at same
    have sameWritten : written decimal = written other := by
      have isRead := @plainDecimal_text (written decimal)
      rw [same, plainDecimal_text] at isRead
      exact (Option.some.inj isRead).symm
    rw [← @decimalAmount_written decimal, sameWritten,
      decimalAmount_written]
  · intro same
    simp only [decimalAmount, amountOf] at same ⊢
    obtain ⟨tenths, fewTenths, rest, fewRest, _, isCents⟩ :=
      hundredths_eq decimal.fractionDigits
    obtain ⟨otherTenths, otherFewTenths, otherRest, otherFewRest, _,
      isOtherCents⟩ := hundredths_eq other.fractionDigits
    have sameCents :
        Nat.ofDigitChars 10 (hundredths decimal.fraction) 0 =
          Nat.ofDigitChars 10 (hundredths other.fraction) 0 := by
      omega
    have sameWhole :
        Nat.ofDigitChars 10 (withoutLeadingZeros decimal.whole) 0 =
          Nat.ofDigitChars 10 (withoutLeadingZeros other.whole) 0 := by
      omega
    have sameDigits :
        withoutLeadingZeros decimal.whole =
          withoutLeadingZeros other.whole := by
      rw [← toDigits_whole, sameWhole, toDigits_whole]
    rw [sameDigits,
      hundredths_injective decimal.fractionDigits other.fractionDigits
        sameCents]

end TokenAmounts

/-! ## Signed decimals -/

section Signed

variable
  {decimal : PlainDecimal}
  {value : BodyValue}
  {text : String}
  {scale : Nat}
  {units : Int}

/-- The number that a text with an optional sign writes. -/
def signedValue (text : String) : Option ℚ :=
  if hasPrefix text "-" then
    (plainDecimal (String.ofList (text.toList.drop 1))).map
      fun decimal => -decimal.value
  else (plainDecimal text).map PlainDecimal.value

/-- Padding with zeros scales the digits. -/
theorem fractionUnits_eq
    {fraction : List (Fin 10)}
    (short : fraction.length ≤ scale) :
    fractionUnits scale fraction =
      digitsValue fraction * 10 ^ (scale - fraction.length) := by
  have zeros :
      ∀ count,
        digitsValue (List.replicate count (Fin.mk 0 zero_lt_ten)) = 0 := by
    intro count
    induction count with
    | zero =>
        rfl
    | succ count inductionHypothesis =>
        rw [List.replicate_succ']
        rw [digitsValue_append, inductionHypothesis]
        simp [digitsValue]
  rw [fractionUnits, List.take_append, List.take_of_length_le short,
    List.take_replicate, digitsValue_append, zeros, List.length_replicate,
    Nat.add_zero, Nat.min_eq_left (Nat.sub_le _ _)]

/-- The units of a decimal are its value at a scale. -/
theorem units_of_parts
    {parts : DecimalText}
    (short : parts.fraction.length ≤ scale) :
    ((parts.whole * 10 ^ scale + fractionUnits scale parts.fraction : ℕ) :
        ℚ) = parts.value * 10 ^ scale := by
  rw [fractionUnits_eq short, DecimalText.value]
  have split :
      (10 : ℚ) ^ scale =
        10 ^ parts.fraction.length *
          10 ^ (scale - parts.fraction.length) := by
    rw [← pow_add, Nat.add_sub_cancel' short]
  have positive : (0 : ℚ) < 10 ^ parts.fraction.length := by positivity
  push_cast
  rw [split]
  field_simp

/-- What is parsed is the number that the text writes. -/
theorem signedValue_of_parseDecimalText
    (isParsed : parseDecimalText scale text = some units) :
    signedValue text = some ((units : ℚ) / 10 ^ scale) := by
  have positive : (0 : ℚ) < 10 ^ scale := by positivity
  unfold parseDecimalText at isParsed
  unfold signedValue
  simp only [decimalTextParts_eq] at isParsed
  by_cases negative : hasPrefix text "-" = true
  · simp only [negative, if_true] at isParsed ⊢
    rcases isPlain :
        plainDecimal (String.ofList (text.toList.drop 1)) with _ | decimal
    · rw [isPlain] at isParsed
      cases isParsed
    · rw [isPlain, Option.map_some] at isParsed
      simp only at isParsed
      split_ifs at isParsed with isLong
      have isUnits := units_of_parts (Nat.not_lt.mp isLong)
      rw [Option.map_some, ← Option.some.inj isParsed, PlainDecimal.value]
      congr 1
      rw [eq_div_iff positive.ne', neg_mul, ← isUnits]
      push_cast
      ring
  · simp only [negative, Bool.false_eq_true, if_false] at isParsed ⊢
    rcases isPlain : plainDecimal text with _ | decimal
    · rw [isPlain] at isParsed
      cases isParsed
    · rw [isPlain, Option.map_some] at isParsed
      simp only at isParsed
      split_ifs at isParsed with isLong
      have isUnits := units_of_parts (Nat.not_lt.mp isLong)
      rw [Option.map_some, ← Option.some.inj isParsed, PlainDecimal.value]
      congr 1
      rw [eq_div_iff positive.ne', ← isUnits]
      push_cast
      ring

/-- What is formatted writes the number that was parsed. -/
theorem signedValue_formatDecimal
    (positive : 0 < scale)
    (isParsed : parseDecimal value scale = some units) :
    ∃ number,
      signedValue (decimalText value) = some number ∧
        signedValue (formatDecimal units scale) = some number :=
  ⟨_, signedValue_of_parseDecimalText isParsed,
    signedValue_of_parseDecimalText
      (parseDecimalText_formatDecimal positive units)⟩

/-- A decimal has no sign. -/
theorem hasPrefix_text : hasPrefix decimal.text "-" = false := by
  obtain ⟨whole, fraction, ⟨notEmpty, wholeDigits⟩, fractionDigits⟩ :=
    decimal
  rcases whole with _ | ⟨first, rest⟩
  · exact absurd rfl notEmpty
  · have isDigit := wholeDigits first List.mem_cons_self
    have notSign : ('-' == first) = false := by
      rw [beq_eq_false_iff_ne]
      rintro rfl
      revert isDigit
      decide
    rw [hasPrefix, PlainDecimal.text, String.toList_ofList]
    split_ifs
    · simp [List.isPrefixOf, notSign]
    · simp [List.isPrefixOf, notSign]

/-- Both readers see the same text. -/
theorem decimalText_eq
    {text : String}
    (isText : TokenAmounts.decimalText value = some text) :
    decimalText value = text := by
  cases value with
  | text content =>
      simp only [TokenAmounts.decimalText] at isText
      split_ifs at isText
      exact Option.some.inj isText
  | number number =>
      simp only [TokenAmounts.decimalText] at isText
      split_ifs at isText with isFinite
      simp only [decimalText, isFinite, if_true]
      exact Option.some.inj isText
  | _ =>
      cases isText

/-- Every reader reads the same cents. -/
theorem parseDecimal_of_canonical
    {amount : TokenAmounts.CanonicalTokenAmount}
    (isAmount : TokenAmounts.canonicalTokenAmount value = some amount) :
    parseDecimal value 2 = some (amount.units : ℤ) := by
  obtain ⟨decimal, isText, short, rfl⟩ :=
    TokenAmounts.text_of_canonicalTokenAmount isAmount
  have notLong : ¬ 2 < decimal.parts.fraction.length := by
    simpa [PlainDecimal.parts] using short
  have isUnits := units_of_parts (Nat.not_lt.mp notLong)
  have isCents := TokenAmounts.units_eq short
  have same :
      decimal.parts.whole * 10 ^ 2 +
          fractionUnits 2 decimal.parts.fraction =
        (TokenAmounts.decimalAmount decimal).units := by
    have inRationals :
        ((decimal.parts.whole * 10 ^ 2 +
            fractionUnits 2 decimal.parts.fraction : ℕ) : ℚ) =
          (TokenAmounts.decimalAmount decimal).units := by
      rw [isUnits, isCents, PlainDecimal.value]
      ring
    exact_mod_cast inRationals
  rw [parseDecimal, decimalText_eq isText, parseDecimalText,
    hasPrefix_text]
  simp only [Bool.false_eq_true, if_false, decimalTextParts_eq,
    plainDecimal_text, Option.map_some, notLong, same]

end Signed

/-! ## The four readers -/

namespace TokenAmounts

/--
The amounts of two decimals are exact: what is accepted, the cents that are
read, the text that is written, and what the other readers make of it.
-/
theorem tokenAmounts_areExact :
    (∀ value,
      (∃ amount, canonicalTokenAmount value = some amount) ↔
        ∃ decimal : PlainDecimal,
          decimalText value = some decimal.text ∧
            decimal.fraction.length ≤ 2) ∧
    (∀ value (decimal : PlainDecimal) amount,
      decimalText value = some decimal.text →
      canonicalTokenAmount value = some amount →
        (amount.units : ℚ) = 100 * decimal.value ∧
          (∃ decimal : PlainDecimal,
            amount.decimal = decimal.text ∧
              decimal.fraction.length = 2 ∧
              ∀ rest, decimal.whole = '0' :: rest → rest = []) ∧
          canonicalTokenAmount (.text amount.decimal) = some amount ∧
          decimalUnits (some amount.decimal) = .ok amount.units) ∧
    (∀ value,
      (∃ amount, truncateTokenAmount value = some amount) ↔
        ∃ decimal : PlainDecimal,
          decimalText value = some decimal.text) ∧
    (∀ value (decimal : PlainDecimal) amount,
      decimalText value = some decimal.text →
      truncateTokenAmount value = some amount →
        (amount.units : ℤ) = ⌊100 * decimal.value⌋) ∧
    (∀ value first second,
      canonicalTokenAmount value = some first →
      truncateTokenAmount value = some second →
        first = second) ∧
    (∀ scale units, 0 < scale →
      parseDecimal (.text (formatDecimal units scale)) scale =
        some units) ∧
    (∀ value scale units, 0 < scale →
      parseDecimal value scale = some units →
        ∃ number,
          signedValue (Sparkz.decimalText value) = some number ∧
            signedValue (formatDecimal units scale) = some number) ∧
    ∀ value amount units,
      canonicalTokenAmount value = some amount →
      parseDecimal value 2 = some units →
        units = amount.units := by
  have same :
      ∀ {value : BodyValue} {first second : PlainDecimal},
        decimalText value = some first.text →
        decimalText value = some second.text →
        first = second := by
    intro value first second isFirst isSecond
    rw [isFirst] at isSecond
    apply Option.some.inj
    rw [← plainDecimal_text, ← plainDecimal_text,
      Option.some.inj isSecond]
  refine ⟨?_, ?_, ?_, ?_, ?_, ?_, ?_, ?_⟩
  · intro value
    constructor
    · rintro ⟨amount, isAmount⟩
      obtain ⟨decimal, isText, short, _⟩ :=
        text_of_canonicalTokenAmount isAmount
      exact ⟨decimal, isText, short⟩
    · rintro ⟨decimal, isText, short⟩
      exact ⟨_, canonicalTokenAmount_of_text isText short⟩
  · intro value decimal amount isText isAmount
    obtain ⟨read, isRead, short, rfl⟩ :=
      text_of_canonicalTokenAmount isAmount
    obtain rfl := same isText isRead
    have isShort : (written decimal).fraction.length ≤ 2 :=
      length_hundredths.le
    refine ⟨units_eq short, ?_, ?_, ?_⟩
    · exact
        ⟨written decimal, decimal_eq_written, length_hundredths,
          fun rest isZero => withoutLeadingZeros_head isZero⟩
    · rw [decimal_eq_written,
        canonicalTokenAmount_of_text decimalText_text isShort,
        decimalAmount_written]
    · rw [decimal_eq_written, decimalUnits_text isShort,
        decimalAmount_written]
  · intro value
    constructor
    · rintro ⟨amount, isAmount⟩
      obtain ⟨decimal, isText, _⟩ := text_of_truncateTokenAmount isAmount
      exact ⟨decimal, isText⟩
    · rintro ⟨decimal, isText⟩
      exact ⟨_, truncateTokenAmount_of_text isText⟩
  · intro value decimal amount isText isAmount
    obtain ⟨read, isRead, rfl⟩ := text_of_truncateTokenAmount isAmount
    obtain rfl := same isText isRead
    exact units_eq_floor
  · intro value first second isFirst isSecond
    obtain ⟨decimal, isText, _, rfl⟩ :=
      text_of_canonicalTokenAmount isFirst
    rw [truncateTokenAmount_of_text isText] at isSecond
    exact Option.some.inj isSecond
  · intro scale units positive
    exact parseDecimal_formatDecimal positive units
  · intro value scale units positive isParsed
    exact signedValue_formatDecimal positive isParsed
  · intro value amount units isAmount isParsed
    rw [parseDecimal_of_canonical isAmount] at isParsed
    exact (Option.some.inj isParsed).symm

end TokenAmounts

end Sparkz
