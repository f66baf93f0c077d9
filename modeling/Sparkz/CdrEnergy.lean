import Sparkz.AwardSession
import Sparkz.JsNumberTexts
import Sparkz.RequestBody

namespace Sparkz

open BinaryRounding

/-!
# The energy of a charge detail record

`parseEnergyValue` and what `normaliseSession` makes of its number.  In a text
every dot but the last one separates thousands; the number is the one nearest
to the decimal that is left.
-/

namespace Double

/-- `Number.isFinite(n)`. -/
def isFinite : Double → Bool
  | .finite _ => true
  | _ => false

/-- `Math.abs(n)`. -/
def absolute : Double → Double
  | .finite x => .finite |x|
  | .infinite _ => .infinite false
  | .notANumber => .notANumber

end Double

/-! ## The text of an energy -/

/-- The sign of a numeral, and what follows it. -/
def splitSign : List Char → List Char × List Char
  | '+' :: rest => (['+'], rest)
  | '-' :: rest => (['-'], rest)
  | characters => ([], characters)

/-- A first group of one to three digits, and groups of three after it. -/
def isGrouped (parts : List (List Char)) : Bool :=
  !parts.head?.any (fun part => part.length < 1 || 3 < part.length) &&
    !(parts.drop 1).dropLast.any fun part => part.length != 3

/-- `numericText`, when the text is in the strict numeric format. -/
def energyNumericText (text : String) : Option String :=
  let (sign, numeral) := splitSign (trimText text).toList
  let parts := numeral.splitOn '.'
  if parts.all fun part => part != [] && part.all Char.isDigit then
    if parts.length = 1 then some (String.ofList (sign ++ numeral))
    else if 2 < parts.length && !isGrouped parts then none
    else
      some
        (String.ofList
          (sign ++ parts.dropLast.flatten ++
            '.' :: parts.getLast?.getD []))
  else none

def invalidEnergy : Failure :=
  .error "energy must be a finite number (strict numeric format)"

/-- `parseEnergyValue(value)`. -/
def parseEnergyValue : BodyValue → Except Failure Double
  | .number number =>
      if number.double.isFinite then .ok number.double
      else .error (.error "energy must be a finite number")
  | .text text =>
      match energyNumericText text with
      | some numericText =>
          let result := Double.ofText numericText
          if result.isFinite then .ok result else .error invalidEnergy
      | none => .error invalidEnergy
  | .absent | .other _ _ => .error invalidEnergy

/-- The direction that a record gives, or that the sign of its energy does. -/
def energyDirectionOf
    (direction : BodyValue)
    (rawEnergyValue : Double) :
    Except Failure EnergyDirection :=
  match direction with
  | .absent =>
      .ok
        (if rawEnergyValue.less (.finite 0) then .discharge else .charge)
  | .text "CHARGE" =>
      if rawEnergyValue.less (.finite 0) then
        .error
          (.error "energy direction CHARGE conflicts with negative energy")
      else .ok .charge
  | .text "DISCHARGE" => .ok .discharge
  | _ => .error (.error "energy direction must be CHARGE or DISCHARGE")

/-- The energy and the direction of a normalised session. -/
def normaliseEnergy
    (energyValue direction : BodyValue) :
    Except Failure (JsNumber × EnergyDirection) := do
  let rawEnergyValue ←
    parseEnergyValue
      (if energyValue = .absent then .number (.ofNat 0) else energyValue)
  let energyDirection ← energyDirectionOf direction rawEnergyValue
  return (rawEnergyValue.absolute.shown, energyDirection)

/-! ## The decimal that was written -/

/-- The decimal of a numeral with an optional sign. -/
def signedNumeralValue (characters : List Char) : Option ℚ :=
  match splitSign characters with
  | (['-'], numeral) => (numeralValue numeral).map fun value => -value
  | (_, numeral) => numeralValue numeral

/--
The energy was written as this decimal.  A number of the body was written as
any decimal that it is nearest to.
-/
def IsWrittenAs (energyValue : BodyValue) (decimal : ℚ) : Prop :=
  match energyValue with
  | .number number => number.double = .ofRational decimal
  | .text text =>
      ∃ numericText,
        energyNumericText text = some numericText ∧
          signedNumeralValue numericText.toList = some decimal
  | .absent => decimal = 0
  | .other _ _ => False

section Energy

variable {text numericText : String} {decimal x : ℚ}
  {energyValue direction : BodyValue} {characters : List Char}

/-- The nearest number of an opposite is the opposite number. -/
theorem ofRational_neg (nonneg : 0 ≤ x) :
    (Double.ofRational (-x)).absolute = .ofRational x := by
  have isRound : 0 ≤ binary64.round x := Format.round_nonneg nonneg
  by_cases small : |binary64.round x| < 2 ^ 1024
  · have smallNeg : |binary64.round (-x)| < 2 ^ 1024 := by
      rw [Format.round_neg, abs_neg]
      exact small
    rw [Double.ofRational, Double.ofRational, if_pos small,
      if_pos smallNeg, Format.round_neg]
    simp only [Double.absolute, abs_neg, abs_of_nonneg isRound]
  · have largeNeg : ¬ |binary64.round (-x)| < 2 ^ 1024 := by
      rw [Format.round_neg, abs_neg]
      exact small
    rw [Double.ofRational, Double.ofRational, if_neg small,
      if_neg largeNeg]
    simp only [Double.absolute, nonneg.not_gt, decide_false]

theorem absolute_ofRational (nonneg : 0 ≤ x) :
    (Double.ofRational x).absolute = .ofRational x := by
  have isRound : 0 ≤ binary64.round x := Format.round_nonneg nonneg
  by_cases small : |binary64.round x| < 2 ^ 1024
  · rw [Double.ofRational, if_pos small]
    simp only [Double.absolute, abs_of_nonneg isRound]
  · rw [Double.ofRational, if_neg small]
    simp only [Double.absolute, nonneg.not_gt, decide_false]

/-- The size of the nearest number is the number nearest to the size. -/
theorem absolute_ofRational_abs :
    (Double.ofRational decimal).absolute = .ofRational |decimal| := by
  rcases le_total 0 decimal with nonneg | nonpos
  · rw [abs_of_nonneg nonneg, absolute_ofRational nonneg]
  · have split : decimal = -|decimal| := by
      rw [abs_of_nonpos nonpos, neg_neg]
    have opposite := ofRational_neg (abs_nonneg decimal)
    rwa [← split] at opposite

/-- A numeral has digits and dots, and begins with a digit. -/
structure IsNumeral (characters : List Char) : Prop where
  plain :
    ∀ character ∈ characters,
      character.isDigit = true ∨ character = '.'
  starts :
    ∃ first rest, characters = first :: rest ∧ first.isDigit = true

theorem splitSign_sign :
    (splitSign characters).1 = [] ∨
      (splitSign characters).1 = ['+'] ∨
      (splitSign characters).1 = ['-'] := by
  unfold splitSign
  split
  · exact Or.inr (Or.inl rfl)
  · exact Or.inr (Or.inr rfl)
  · exact Or.inl rfl

/-- The digits of the parts, the last of them behind a dot. -/
theorem isNumeral_of_parts
    {parts : List (List Char)}
    (areDigits :
      ∀ part ∈ parts,
        part ≠ [] ∧ ∀ character ∈ part, character.isDigit = true)
    (many : 2 ≤ parts.length) :
    IsNumeral (parts.dropLast.flatten ++ '.' :: parts.getLast?.getD []) := by
  rcases parts with _ | ⟨part, _ | ⟨next, rest⟩⟩
  · simp at many
  · simp at many
  · constructor
    · intro character member
      rcases List.mem_append.mp member with inFront | later
      · obtain ⟨group, isGroup, isIn⟩ := List.mem_flatten.mp inFront
        exact
          Or.inl
            ((areDigits group (List.mem_of_mem_dropLast isGroup)).2 _ isIn)
      · rcases List.mem_cons.mp later with rfl | isLast
        · exact Or.inr rfl
        · rw [List.getLast?_eq_some_getLast (by simp),
            Option.getD_some] at isLast
          exact
            Or.inl ((areDigits _ (List.getLast_mem (by simp))).2 _ isLast)
    · obtain ⟨notEmpty, digits⟩ := areDigits part List.mem_cons_self
      obtain ⟨first, others, rfl⟩ := List.exists_cons_of_ne_nil notEmpty
      exact
        ⟨first, _, by simp [List.dropLast_cons_of_ne_nil]; rfl,
          digits first List.mem_cons_self⟩

/-- A text in the strict format leaves a numeral behind its sign. -/
theorem energyNumericText_shape
    (isNumeric : energyNumericText text = some numericText) :
    ∃ sign numeral,
      numericText.toList = sign ++ numeral ∧
        (sign = [] ∨ sign = ['+'] ∨ sign = ['-']) ∧
        IsNumeral numeral := by
  unfold energyNumericText at isNumeric
  dsimp only at isNumeric
  have isSign := @splitSign_sign (trimText text).toList
  generalize (splitSign (trimText text).toList).1 = sign at *
  generalize (splitSign (trimText text).toList).2 = numeral at *
  split at isNumeric
  · rename_i areDigits
    have areDigits :
        ∀ part ∈ numeral.splitOn '.',
          part ≠ [] ∧ ∀ character ∈ part, character.isDigit = true := by
      simpa using areDigits
    split at isNumeric
    · rename_i isSingle
      obtain ⟨part, isPart⟩ := List.length_eq_one_iff.mp isSingle
      have isNumeral : part = numeral := by
        have joined :
            ['.'].intercalate (numeral.splitOn '.') = numeral :=
          List.intercalate_splitOn '.'
        rwa [isPart, List.intercalate_singleton] at joined
      rw [isPart, isNumeral] at areDigits
      obtain ⟨notEmpty, digits⟩ :=
        areDigits numeral (List.mem_singleton_self _)
      obtain ⟨first, rest, isFirst⟩ := List.exists_cons_of_ne_nil notEmpty
      cases isNumeric
      refine ⟨sign, numeral, by simp, isSign, ?_, ?_⟩
      · exact fun character member => Or.inl (digits character member)
      · exact
          ⟨first, rest, isFirst,
            digits first (isFirst ▸ List.mem_cons_self)⟩
    · rename_i notSingle
      split at isNumeric
      · cases isNumeric
      · cases isNumeric
        refine ⟨sign, _, by simp, isSign, isNumeral_of_parts areDigits ?_⟩
        have notEmpty : numeral.splitOn '.' ≠ [] :=
          List.splitOn_ne_nil _ _
        have positive := List.length_pos_iff.mpr notEmpty
        omega
  · cases isNumeric

/-- A numeral does not begin like a sign or an infinity. -/
theorem IsNumeral.begins (isNumeral : IsNumeral characters) :
    ∃ first rest,
      characters = first :: rest ∧
        first ≠ '+' ∧ first ≠ '-' ∧ first ≠ 'I' := by
  obtain ⟨first, rest, rfl, isDigit⟩ := isNumeral.starts
  refine ⟨first, rest, rfl, ?_, ?_, ?_⟩ <;>
    · rintro rfl
      revert isDigit
      decide

/-- The sign in front of a numeral is split off. -/
theorem splitSign_append
    {sign numeral : List Char}
    (isSign : sign = [] ∨ sign = ['+'] ∨ sign = ['-'])
    (isNumeral : IsNumeral numeral) :
    splitSign (sign ++ numeral) = (sign, numeral) := by
  obtain ⟨first, rest, rfl, notPlus, notMinus, _⟩ := isNumeral.begins
  rcases isSign with rfl | rfl | rfl
  · rw [List.nil_append]
    unfold splitSign
    split
    · rename_i shape
      exact absurd (List.cons.inj shape).1 notPlus
    · rename_i shape
      exact absurd (List.cons.inj shape).1 notMinus
    · rfl
  · rfl
  · rfl

/-- A numeral that stands alone is read as its value. -/
theorem unsigned_of_numeral
    {value : ℚ}
    (isNumeral : IsNumeral characters)
    (isValue : numeralValue characters = some value) :
    Double.ofText.unsigned characters = .ofRational value := by
  have notInfinity : characters ≠ "Infinity".toList := by
    obtain ⟨first, rest, rfl, _, _, notInfinite⟩ := isNumeral.begins
    intro same
    exact notInfinite (List.cons.inj same).1
  rw [Double.ofText.unsigned, if_neg notInfinity, isValue]

/-- The opposite of a nearest number is nearest to the opposite. -/
theorem negate_ofRational (nonneg : 0 ≤ x) :
    (Double.ofRational x).negate = .ofRational (-x) := by
  by_cases small : |binary64.round x| < 2 ^ 1024
  · have smallNeg : |binary64.round (-x)| < 2 ^ 1024 := by
      rw [Format.round_neg, abs_neg]
      exact small
    rw [Double.ofRational, Double.ofRational, if_pos small,
      if_pos smallNeg, Format.round_neg]
    rfl
  · have largeNeg : ¬ |binary64.round (-x)| < 2 ^ 1024 := by
      rw [Format.round_neg, abs_neg]
      exact small
    have positive : 0 < x := by
      rcases nonneg.eq_or_lt with isZero | positive
      · rw [← isZero, Format.round_zero, abs_zero] at small
        exact absurd (by positivity) small
      · exact positive
    rw [Double.ofRational, Double.ofRational, if_neg small,
      if_neg largeNeg]
    simp only [Double.negate, nonneg.not_gt, neg_neg_iff_pos.mpr positive,
      decide_false, decide_true, Bool.not_false]

theorem mantissaValue_nonneg
    {value : ℚ}
    (isValue : mantissaValue characters = some value) :
    0 ≤ value := by
  unfold mantissaValue at isValue
  split at isValue
  · split at isValue
    · cases isValue
      positivity
    · cases isValue
  · split at isValue
    · split at isValue
      · cases isValue
      · cases isValue
        unfold DecimalText.value
        positivity
    · cases isValue
  · cases isValue

theorem numeralValue_nonneg
    {value : ℚ}
    (isValue : numeralValue characters = some value) :
    0 ≤ value := by
  unfold numeralValue at isValue
  split at isValue
  · exact mantissaValue_nonneg isValue
  · obtain ⟨digits, isDigits, isValue⟩ :=
      Option.bind_eq_some_iff.mp isValue
    obtain ⟨power, _, isValue⟩ := Option.bind_eq_some_iff.mp isValue
    have nonneg := mantissaValue_nonneg isDigits
    cases isValue
    positivity
  · cases isValue

/-- What is read is nearest to what is written. -/
theorem ofText_numeric
    (isNumeric : energyNumericText text = some numericText)
    (isDecimal : signedNumeralValue numericText.toList = some decimal) :
    Double.ofText numericText = .ofRational decimal := by
  obtain ⟨sign, numeral, isText, isSign, isNumeral⟩ :=
    energyNumericText_shape isNumeric
  obtain ⟨first, rest, isFirst, notPlus, notMinus, _⟩ :=
    isNumeral.begins
  have noBlank :
      ∀ character ∈ numericText.toList, isBlank character = false := by
    intro character member
    rw [isText, List.mem_append] at member
    rcases member with inSign | inNumeral
    · rcases isSign with rfl | rfl | rfl
      · cases inSign
      · rw [List.mem_singleton.mp inSign]
        decide
      · rw [List.mem_singleton.mp inSign]
        decide
    · rcases isNumeral.plain character inNumeral with isDigit | rfl
      · exact isBlank_of_isDigit isDigit
      · decide
  unfold signedNumeralValue at isDecimal
  rw [isText, splitSign_append isSign isNumeral] at isDecimal
  unfold Double.ofText
  rw [trimText_of_noBlank noBlank, isText]
  rcases isSign with rfl | rfl | rfl
  · rw [← unsigned_of_numeral isNumeral isDecimal]
    rw [isFirst, List.nil_append]
    split
    · rename_i impossible
      cases impossible
    · rename_i shape
      exact absurd (List.cons.inj shape).1 notMinus
    · rename_i shape
      exact absurd (List.cons.inj shape).1 notPlus
    · rfl
  · exact unsigned_of_numeral isNumeral isDecimal
  · obtain ⟨value, isValue, rfl⟩ := Option.map_eq_some_iff.mp isDecimal
    rw [← negate_ofRational (numeralValue_nonneg isValue),
      ← unsigned_of_numeral isNumeral isValue]
    rfl

/-! ## The normalised energy -/

/-- A parsed energy is finite, and nearest in size to what was written. -/
theorem parseEnergyValue_written
    {rawEnergyValue : Double}
    (parsed :
      parseEnergyValue
          (if energyValue = .absent then .number (.ofNat 0)
            else energyValue) =
        .ok rawEnergyValue)
    (isWritten : IsWrittenAs energyValue decimal) :
    rawEnergyValue.isFinite = true ∧
      rawEnergyValue.absolute = .ofRational |decimal| := by
  rcases energyValue with _ | text | number | _
  · rw [if_pos rfl] at parsed
    have isZero : decimal = 0 := isWritten
    have isNumber : (JsNumber.ofNat 0).double = .ofRational 0 := by
      simp [JsNumber.ofNat, DecimalText.value, digitsValue]
    simp only [parseEnergyValue, isNumber] at parsed
    rw [isZero, ← absolute_ofRational_abs]
    split at parsed
    · rename_i isFinite
      cases parsed
      exact ⟨isFinite, rfl⟩
    · cases parsed
  · rw [if_neg (by simp)] at parsed
    obtain ⟨numericText, isNumeric, isDecimal⟩ := isWritten
    simp only [parseEnergyValue, isNumeric] at parsed
    split at parsed
    · rename_i isFinite
      cases parsed
      rw [ofText_numeric isNumeric isDecimal] at isFinite ⊢
      exact ⟨isFinite, absolute_ofRational_abs⟩
    · cases parsed
  · rw [if_neg (by simp)] at parsed
    have isNumber : number.double = .ofRational decimal := isWritten
    simp only [parseEnergyValue, isNumber] at parsed
    split at parsed
    · rename_i isFinite
      cases parsed
      exact ⟨isFinite, absolute_ofRational_abs⟩
    · cases parsed
  · cases isWritten

/-- The energy of a session is the number nearest to what was written. -/
theorem normaliseEnergy_written
    {energyKWh : JsNumber}
    {energyDirection : EnergyDirection}
    (normalised :
      normaliseEnergy energyValue direction =
        .ok (energyKWh, energyDirection))
    (isWritten : IsWrittenAs energyValue decimal) :
    energyKWh = (Double.ofRational |decimal|).shown ∧
      (Double.ofRational |decimal|).isFinite = true := by
  unfold normaliseEnergy at normalised
  obtain ⟨rawEnergyValue, isRaw, normalised⟩ :=
    Except.bind_eq_ok normalised
  obtain ⟨given, _, normalised⟩ := Except.bind_eq_ok normalised
  cases normalised
  obtain ⟨isFinite, isSize⟩ := parseEnergyValue_written isRaw isWritten
  rw [isSize]
  refine ⟨rfl, ?_⟩
  rw [← isSize]
  rcases rawEnergyValue with x | _ | _
  · rfl
  · cases isFinite
  · cases isFinite

/-! ## Doubles -/

/-- A finite number is one of the doubles. -/
inductive Double.IsExact : Double → Prop where
  | finite
      {x : ℚ}
      (represents : binary64.Represents x)
      (bounded : |x| < 2 ^ 1024) :
      Double.IsExact (.finite x)
  | infinite (negative : Bool) : Double.IsExact (.infinite negative)
  | notANumber : Double.IsExact .notANumber

theorem isExact_ofRational : (Double.ofRational x).IsExact := by
  by_cases small : |binary64.round x| < 2 ^ 1024
  · rw [Double.ofRational, if_pos small]
    exact .finite Format.represents_round small
  · rw [Double.ofRational, if_neg small]
    exact .infinite _

theorem isExact_negate
    {number : Double}
    (isExact : number.IsExact) :
    number.negate.IsExact := by
  cases isExact with
  | finite represents bounded =>
      refine .finite represents.neg ?_
      rwa [abs_neg]
  | infinite negative =>
      exact .infinite _
  | notANumber =>
      exact .notANumber

/-- What is read from a text is a double. -/
theorem isExact_ofText : (Double.ofText text).IsExact := by
  have unsigned :
      ∀ characters, (Double.ofText.unsigned characters).IsExact := by
    intro characters
    unfold Double.ofText.unsigned
    split
    · exact .infinite _
    · split
      · exact isExact_ofRational
      · exact .notANumber
  unfold Double.ofText
  split
  · refine .finite Format.represents_zero ?_
    rw [abs_zero]
    positivity
  · exact isExact_negate (unsigned _)
  · exact unsigned _
  · exact unsigned _

/-- What is shown is the text of a double. -/
theorem isExact_double {number : JsNumber} : number.double.IsExact := by
  rcases number with shortest | text | text | text | _ | _
  · rw [double_decimal]
    exact isExact_ofRational
  · rw [double_tiny]
    exact isExact_ofText
  · rw [double_large]
    exact isExact_ofText
  · rw [double_negative]
    exact isExact_ofText
  · rw [double_infinity]
    exact .infinite _
  · rw [double_notANumber]
    exact .notANumber

theorem isExact_parseEnergyValue
    {rawEnergyValue : Double}
    (parsed : parseEnergyValue energyValue = .ok rawEnergyValue) :
    rawEnergyValue.IsExact ∧ rawEnergyValue.isFinite = true := by
  rcases energyValue with _ | text | number | _
  · cases parsed
  · unfold parseEnergyValue at parsed
    dsimp only at parsed
    split at parsed
    · split at parsed
      · rename_i isFinite
        cases parsed
        exact ⟨isExact_ofText, isFinite⟩
      · cases parsed
    · cases parsed
  · unfold parseEnergyValue at parsed
    dsimp only at parsed
    split at parsed
    · rename_i isFinite
      cases parsed
      exact ⟨isExact_double, isFinite⟩
    · cases parsed
  · cases parsed

/-- Every normalised energy is what some double from zero on shows. -/
theorem normaliseEnergy_isExact
    {energyKWh : JsNumber}
    {energyDirection : EnergyDirection}
    (normalised :
      normaliseEnergy energyValue direction =
        .ok (energyKWh, energyDirection)) :
    ∃ x : ℚ,
      0 ≤ x ∧ binary64.Represents x ∧ x < 2 ^ 1024 ∧
        energyKWh = (Double.finite x).shown := by
  unfold normaliseEnergy at normalised
  obtain ⟨rawEnergyValue, isRaw, normalised⟩ :=
    Except.bind_eq_ok normalised
  obtain ⟨_, _, normalised⟩ := Except.bind_eq_ok normalised
  cases normalised
  obtain ⟨isExact, isFinite⟩ := isExact_parseEnergyValue isRaw
  cases isExact with
  | @finite x represents bounded =>
      refine ⟨|x|, abs_nonneg x, ?_, bounded, rfl⟩
      rcases abs_choice x with isSame | isOpposite
      · rw [isSame]
        exact represents
      · rw [isOpposite]
        exact represents.neg
  | infinite negative =>
      cases isFinite
  | notANumber =>
      cases isFinite

end Energy

end Sparkz
