import Sparkz.CdrEnergy

namespace Sparkz

/-!
# The texts that are energies

An energy text is a sign and groups of digits between dots.  The last dot is
the decimal point; with more than one dot the others separate thousands.
-/

/-- A sign, the groups of digits before the last one, and the last one. -/
structure EnergyText where
  sign : List Char
  front : List (List Char)
  last : List Char

namespace EnergyText

variable (energy : EnergyText)

/-- The text with all its dots. -/
def characters : List Char :=
  energy.sign ++ ['.'].intercalate (energy.front ++ [energy.last])

/-- The text without the dots before the last one. -/
def withoutThousands : List Char :=
  energy.sign ++
    if energy.front = [] then energy.last
    else energy.front.flatten ++ '.' :: energy.last

/-- The strict numeric format. -/
structure WellFormed : Prop where
  sign : energy.sign = [] ∨ energy.sign = ['+'] ∨ energy.sign = ['-']
  digits :
    ∀ group ∈ energy.front ++ [energy.last],
      group ≠ [] ∧ ∀ character ∈ group, character.isDigit = true
  first :
    2 ≤ energy.front.length →
    ∀ group ∈ energy.front.head?, group.length ≤ 3
  middle :
    2 ≤ energy.front.length →
    ∀ group ∈ energy.front.tail, group.length = 3

/-- The number of all digits, and the number of them behind the point. -/
def size : ℚ :=
  Nat.ofDigitChars 10 (energy.front.flatten ++ energy.last) 0 /
    10 ^ (if energy.front = [] then 0 else energy.last.length)

/-- The number that the text writes. -/
def value : ℚ :=
  if energy.sign = ['-'] then -energy.size else energy.size

end EnergyText

section Grammar

variable {energy : EnergyText} {text numericText : String}

/-! ## Accepting -/

theorem splitSign_join (characters : List Char) :
    (splitSign characters).1 ++ (splitSign characters).2 =
      characters := by
  unfold splitSign
  split <;> rfl

/-- Groups of digits between dots make a numeral. -/
theorem isNumeral_intercalate
    {groups : List (List Char)}
    (some : groups ≠ [])
    (digits :
      ∀ group ∈ groups,
        group ≠ [] ∧ ∀ character ∈ group, character.isDigit = true) :
    IsNumeral (['.'].intercalate groups) := by
  induction groups with
  | nil =>
      exact absurd rfl some
  | cons group rest inductionHypothesis =>
      obtain ⟨notEmpty, areDigits⟩ := digits group List.mem_cons_self
      obtain ⟨first, others, isGroup⟩ :=
        List.exists_cons_of_ne_nil notEmpty
      by_cases isLast : rest = []
      · rw [isLast, List.intercalate_singleton]
        constructor
        · intro character member
          exact Or.inl (areDigits character member)
        · refine ⟨first, others, isGroup, areDigits first ?_⟩
          rw [isGroup]
          exact List.mem_cons_self
      · have later :=
          inductionHypothesis isLast fun other member =>
            digits other (List.mem_cons_of_mem _ member)
        rw [List.intercalate_cons_of_ne_nil isLast]
        constructor
        · intro character member
          rcases List.mem_append.mp member with inFront | inRest
          · rcases List.mem_append.mp inFront with inGroup | isDot
            · exact Or.inl (areDigits character inGroup)
            · exact Or.inr (List.mem_singleton.mp isDot)
          · exact later.plain character inRest
        · refine ⟨first, _, by rw [isGroup]; rfl, areDigits first ?_⟩
          rw [isGroup]
          exact List.mem_cons_self

/-- The strict format of the parts of a text. -/
theorem isGrouped_iff
    {front : List (List Char)}
    {last : List Char}
    (digits : ∀ group ∈ front ++ [last], group ≠ [])
    (many : 2 ≤ front.length) :
    isGrouped (front ++ [last]) = true ↔
      (∀ group ∈ front.head?, group.length ≤ 3) ∧
        ∀ group ∈ front.tail, group.length = 3 := by
  rcases front with _ | ⟨first, middle⟩
  · simp at many
  · have notEmpty : first ≠ [] := digits first (by simp)
    have positive := List.length_pos_iff.mpr notEmpty
    have isMiddle :
        (((first :: middle) ++ [last]).drop 1).dropLast = middle := by
      simp
    have isFirst : ((first :: middle) ++ [last]).head? = some first := rfl
    unfold isGrouped
    rw [isMiddle, isFirst]
    simp only [Option.any_some, List.head?_cons, Option.mem_some_iff,
      forall_eq', List.tail_cons, Bool.and_eq_true, Bool.not_eq_true',
      Bool.or_eq_false_iff, decide_eq_false_iff_not, List.any_eq_false,
      bne_iff_ne, ne_eq, not_not]
    constructor
    · rintro ⟨⟨_, short⟩, equal⟩
      exact ⟨by omega, equal⟩
    · rintro ⟨short, equal⟩
      exact ⟨⟨by omega, by omega⟩, equal⟩

/-- A text whose parts are known is accepted when they are well formed. -/
theorem energyNumericText_of_parts
    (isSign :
      energy.sign = [] ∨ energy.sign = ['+'] ∨ energy.sign = ['-'])
    (isSplit :
      splitSign (trimText text).toList =
        (energy.sign,
          ['.'].intercalate (energy.front ++ [energy.last])))
    (areParts :
      (['.'].intercalate (energy.front ++ [energy.last])).splitOn '.' =
        energy.front ++ [energy.last]) :
    energyNumericText text = some numericText ↔
      energy.WellFormed ∧
        numericText = String.ofList energy.withoutThousands := by
  obtain ⟨sign, front, last⟩ := energy
  dsimp only at isSign isSplit areParts
  unfold energyNumericText
  rw [isSplit]
  dsimp only
  rw [areParts]
  have allDigits :
      ((front ++ [last]).all fun part =>
          part != [] && part.all Char.isDigit) = true ↔
        ∀ group ∈ front ++ [last],
          group ≠ [] ∧ ∀ character ∈ group, character.isDigit = true := by
    simp only [List.all_eq_true, Bool.and_eq_true, bne_iff_ne]
  by_cases areDigits :
      ∀ group ∈ front ++ [last],
        group ≠ [] ∧ ∀ character ∈ group, character.isDigit = true
  · rw [if_pos (allDigits.mpr areDigits)]
    by_cases isSingle : front = []
    · subst isSingle
      rw [if_pos (by simp), Option.some_inj]
      simp only [List.nil_append, List.intercalate_singleton,
        EnergyText.withoutThousands, if_true]
      constructor
      · intro same
        exact
          ⟨⟨isSign, areDigits, fun many => absurd many (by simp),
            fun many => absurd many (by simp)⟩, same.symm⟩
      · exact fun both => both.2.symm
    · have positive := List.length_pos_iff.mpr isSingle
      have notSingle : ¬ (front ++ [last]).length = 1 := by
        rw [List.length_append, List.length_singleton]
        omega
      have isText :
          sign ++ (front ++ [last]).dropLast.flatten ++
              '.' :: (front ++ [last]).getLast?.getD [] =
            EnergyText.withoutThousands ⟨sign, front, last⟩ := by
        simp [EnergyText.withoutThousands, isSingle]
      rw [if_neg notSingle, isText]
      by_cases many : 2 ≤ front.length
      · have grouped :=
          isGrouped_iff (fun group member => (areDigits group member).1)
            many
        by_cases isGroup : isGrouped (front ++ [last]) = true
        · rw [if_neg (by simp [isGroup]), Option.some_inj]
          obtain ⟨first, middle⟩ := grouped.mp isGroup
          constructor
          · intro same
            exact
              ⟨⟨isSign, areDigits, fun _ => first, fun _ => middle⟩,
                same.symm⟩
          · exact fun both => both.2.symm
        · rw [if_pos ?_]
          · simp only [reduceCtorEq, false_iff]
            rintro ⟨wellFormed, _⟩
            exact
              isGroup
                (grouped.mpr
                  ⟨wellFormed.first many, wellFormed.middle many⟩)
          · simp only [Bool.not_eq_true] at isGroup
            simp [isGroup]
            omega
      · rw [if_neg ?_, Option.some_inj]
        · constructor
          · intro same
            exact
              ⟨⟨isSign, areDigits, fun isMany => absurd isMany many,
                fun isMany => absurd isMany many⟩, same.symm⟩
          · exact fun both => both.2.symm
        · simp
          omega
  · rw [if_neg (mt allDigits.mp areDigits)]
    simp only [reduceCtorEq, false_iff]
    intro both
    exact areDigits both.1.digits

/-- A text in the strict format is well formed, and loses its thousands. -/
theorem energyNumericText_eq_some_iff :
    energyNumericText text = some numericText ↔
      ∃ energy : EnergyText,
        energy.WellFormed ∧
          (trimText text).toList = energy.characters ∧
          numericText = String.ofList energy.withoutThousands := by
  constructor
  · intro isNumeric
    rcases isSplit : splitSign (trimText text).toList with ⟨sign, numeral⟩
    have isSign := @splitSign_sign (trimText text).toList
    have isText := splitSign_join (trimText text).toList
    rw [isSplit] at isSign isText
    have some : numeral.splitOn '.' ≠ [] := List.splitOn_ne_nil _ _
    have areParts :
        numeral.splitOn '.' =
          (numeral.splitOn '.').dropLast ++
            [(numeral.splitOn '.').getLast some] :=
      (List.dropLast_append_getLast some).symm
    have joined :
        ['.'].intercalate
            ((numeral.splitOn '.').dropLast ++
              [(numeral.splitOn '.').getLast some]) =
          numeral := by
      rw [← areParts]
      exact List.intercalate_splitOn '.'
    obtain ⟨wellFormed, isResult⟩ :=
      (@energyNumericText_of_parts
        ⟨sign, (numeral.splitOn '.').dropLast,
          (numeral.splitOn '.').getLast some⟩
        text numericText isSign (by rw [isSplit, joined])
        (by rw [joined]; exact areParts)).mp isNumeric
    refine ⟨_, wellFormed, ?_, isResult⟩
    rw [EnergyText.characters, joined]
    exact isText.symm
  · rintro ⟨energy, wellFormed, isText, isResult⟩
    have isNumeral :=
      isNumeral_intercalate (by simp) wellFormed.digits
    refine
      (energyNumericText_of_parts wellFormed.sign ?_ ?_).mpr
        ⟨wellFormed, isResult⟩
    · rw [isText]
      exact splitSign_append wellFormed.sign isNumeral
    · apply List.splitOn_intercalate
      · intro group member isDot
        have isDigit := (wellFormed.digits group member).2 '.' isDot
        revert isDigit
        decide
      · simp

/-! ## The number -/

/-- A numeral has no exponent. -/
theorem numeralValue_of_numeral
    {characters : List Char}
    (isNumeral : IsNumeral characters) :
    numeralValue characters = mantissaValue characters := by
  have noExponent :
      ∀ character ∈ characters,
        decide (character ∈ ['e', 'E']) = false := by
    intro character member
    rw [decide_eq_false_iff_not]
    intro isLetter
    simp only [List.mem_cons, List.not_mem_nil, or_false] at isLetter
    rcases isNumeral.plain character member with isDigit | rfl
    · rcases isLetter with rfl | rfl <;>
        · revert isDigit
          decide
    · rcases isLetter with impossible | impossible <;>
        exact absurd impossible (by decide)
  unfold numeralValue
  rw [List.splitOnP_eq_singleton noExponent]

/-- Digits that are there have a first one. -/
theorem decimalDigits_of_group
    {group : List Char}
    (digits :
      group ≠ [] ∧ ∀ character ∈ group, character.isDigit = true) :
    ∃ digit rest,
      decimalDigits group = some (digit :: rest) ∧
        (digit :: rest).length = group.length ∧
        digitsValue (digit :: rest) = Nat.ofDigitChars 10 group 0 := by
  obtain ⟨read, isRead, sameLength, value⟩ :=
    decimalDigits_of_digits digits.2
  rcases read with _ | ⟨digit, rest⟩
  · exact absurd (List.length_eq_zero_iff.mp sameLength.symm) digits.1
  · exact ⟨digit, rest, isRead, sameLength, value⟩

/-- The mantissa of the digits without thousands is their size. -/
theorem EnergyText.WellFormed.mantissaValue_eq
    (wellFormed : energy.WellFormed) :
    mantissaValue
        (if energy.front = [] then energy.last
          else energy.front.flatten ++ '.' :: energy.last) =
      some energy.size := by
  have noDot :
      ∀ group : List Char,
        (∀ character ∈ group, character.isDigit = true) →
        '.' ∉ group := by
    intro group digits isDot
    have isDigit := digits '.' isDot
    revert isDigit
    decide
  have lastDigits := wellFormed.digits energy.last (by simp)
  obtain ⟨tenths, rest, isLast, sameLength, isFraction⟩ :=
    decimalDigits_of_group lastDigits
  by_cases isSingle : energy.front = []
  · rw [if_pos isSingle, mantissaValue,
      List.splitOn_eq_singleton (noDot _ lastDigits.2)]
    dsimp only
    rw [isLast]
    dsimp only
    rw [isFraction, EnergyText.size, isSingle]
    simp
  · have frontDigits :
        energy.front.flatten ≠ [] ∧
          ∀ character ∈ energy.front.flatten,
            character.isDigit = true := by
      obtain ⟨group, others, isFront⟩ :=
        List.exists_cons_of_ne_nil isSingle
      constructor
      · rw [isFront]
        have notEmpty :=
          (wellFormed.digits group (by simp [isFront])).1
        simp [notEmpty]
      · intro character member
        obtain ⟨other, isGroup, inGroup⟩ := List.mem_flatten.mp member
        exact
          (wellFormed.digits other (by simp [isGroup])).2 character inGroup
    obtain ⟨digit, others, isWhole, _, isValue⟩ :=
      decimalDigits_of_group frontDigits
    rw [if_neg isSingle, mantissaValue,
      List.splitOn_append_cons_self_of_not_mem (noDot _ frontDigits.2),
      List.splitOn_eq_singleton (noDot _ lastDigits.2)]
    dsimp only
    rw [isWhole, isLast]
    simp only [reduceCtorEq, and_self, if_false]
    have split :
        Nat.ofDigitChars 10 (energy.front.flatten ++ energy.last) 0 =
          10 ^ energy.last.length *
              Nat.ofDigitChars 10 energy.front.flatten 0 +
            Nat.ofDigitChars 10 energy.last 0 := by
      rw [Nat.ofDigitChars_append]
      exact Nat.ofDigitChars_eq_ofDigitChars_zero
    rw [DecimalText.value, EnergyText.size, if_neg isSingle, sameLength,
      isValue, isFraction, split]
    push_cast
    field_simp

/-- Without its thousands a well-formed text is still a numeral. -/
theorem EnergyText.WellFormed.isNumeral
    (wellFormed : energy.WellFormed) :
    IsNumeral
      (if energy.front = [] then energy.last
        else energy.front.flatten ++ '.' :: energy.last) := by
  by_cases isSingle : energy.front = []
  · rw [if_pos isSingle]
    have last :=
      isNumeral_intercalate (by simp) fun group member =>
        wellFormed.digits group
          (List.mem_append_right energy.front member)
    rwa [List.intercalate_singleton] at last
  · have positive := List.length_pos_iff.mpr isSingle
    have parts :=
      isNumeral_of_parts wellFormed.digits <| by
        rw [List.length_append, List.length_singleton]
        omega
    rw [if_neg isSingle]
    simpa using parts

/-- The number that the text without thousands writes. -/
theorem EnergyText.WellFormed.signedNumeralValue_eq
    (wellFormed : energy.WellFormed) :
    signedNumeralValue energy.withoutThousands = some energy.value := by
  have isNumeral := wellFormed.isNumeral
  unfold signedNumeralValue EnergyText.withoutThousands
  rw [splitSign_append wellFormed.sign isNumeral]
  have isSize := wellFormed.mantissaValue_eq
  rw [← numeralValue_of_numeral isNumeral] at isSize
  rcases wellFormed.sign with isSign | isSign | isSign
  · have isValue : energy.value = energy.size := by
      rw [EnergyText.value, isSign]
      exact if_neg (by decide)
    rw [isSign, isValue]
    exact isSize
  · have isValue : energy.value = energy.size := by
      rw [EnergyText.value, isSign]
      exact if_neg (by decide)
    rw [isSign, isValue]
    exact isSize
  · have isValue : energy.value = -energy.size := by
      rw [EnergyText.value, isSign]
      exact if_pos rfl
    rw [isSign, isValue]
    show Option.map (fun value => -value) (numeralValue _) = _
    rw [isSize, Option.map_some]

/-- Parsing accepts the well-formed texts of finite numbers. -/
theorem parseEnergyValue_text
    {result : Double} :
    parseEnergyValue (.text text) = .ok result ↔
      ∃ energy : EnergyText,
        energy.WellFormed ∧
          (trimText text).toList = energy.characters ∧
          result =
            Double.ofText (String.ofList energy.withoutThousands) ∧
          result = .ofRational energy.value ∧ result.isFinite = true := by
  unfold parseEnergyValue
  dsimp only
  constructor
  · intro accepted
    split at accepted
    · rename_i numericText isNumeric
      obtain ⟨energy, wellFormed, isText, rfl⟩ :=
        energyNumericText_eq_some_iff.mp isNumeric
      have isNumber :
          Double.ofText (String.ofList energy.withoutThousands) =
            .ofRational energy.value := by
        apply ofText_numeric isNumeric
        rw [String.toList_ofList]
        exact wellFormed.signedNumeralValue_eq
      split at accepted
      · rename_i isFinite
        rw [← Except.ok.inj accepted]
        exact ⟨energy, wellFormed, isText, rfl, isNumber, isFinite⟩
      · cases accepted
    · cases accepted
  · rintro ⟨energy, wellFormed, isText, isRead, _, isFinite⟩
    have isNumeric :=
      energyNumericText_eq_some_iff.mpr
        ⟨energy, wellFormed, isText, rfl⟩
    rw [isNumeric]
    dsimp only
    rw [← isRead, if_pos isFinite]

/-! ## Thousands -/

/-- One more digit in front of groups of three. -/
def addDigit (digit : Char) : List (List Char) → List (List Char)
  | [] => [[digit]]
  | group :: groups =>
      if group.length < 3 then (digit :: group) :: groups
      else [digit] :: group :: groups

/-- The groups of three digits, from the last one. -/
def thousands (digits : List Char) : List (List Char) :=
  digits.foldr addDigit []

/-- Groups of thousands: one to three digits, and three in each later one. -/
structure AreThousands
    (digits : List Char)
    (groups : List (List Char)) :
    Prop where
  joined : groups.flatten = digits
  notEmpty : ∀ group ∈ groups, group ≠ []
  first : ∀ group ∈ groups.head?, group.length ≤ 3
  later : ∀ group ∈ groups.tail, group.length = 3

theorem areThousands (digits : List Char) :
    AreThousands digits (thousands digits) := by
  induction digits with
  | nil =>
      constructor <;> simp [thousands]
  | cons digit digits inductionHypothesis =>
      obtain ⟨joined, notEmpty, first, later⟩ := inductionHypothesis
      have isNext :
          thousands (digit :: digits) =
            addDigit digit (thousands digits) := rfl
      rw [isNext]
      clear isNext
      generalize thousands digits = groups at *
      rcases groups with _ | ⟨group, groups⟩
      · rw [List.flatten_nil] at joined
        constructor <;> simp [addDigit, ← joined]
      · by_cases isShort : group.length < 3
        · simp only [addDigit, if_pos isShort]
          constructor
          · simp only [List.flatten_cons, List.cons_append] at joined ⊢
            rw [joined]
          · intro other member
            rcases List.mem_cons.mp member with rfl | isLater
            · simp
            · exact notEmpty other (List.mem_cons_of_mem _ isLater)
          · intro other isFirst
            simp only [List.head?_cons, Option.mem_some_iff] at isFirst
            rw [← isFirst, List.length_cons]
            omega
          · exact later
        · simp only [addDigit, if_neg isShort]
          have isFull : group.length ≤ 3 := first group (by simp)
          constructor
          · simp only [List.flatten_cons, List.cons_append,
              List.nil_append] at joined ⊢
            rw [joined]
          · intro other member
            rcases List.mem_cons.mp member with rfl | isLater
            · simp
            · exact notEmpty other isLater
          · intro other isFirst
            simp only [List.head?_cons, Option.mem_some_iff] at isFirst
            rw [← isFirst, List.length_singleton]
            omega
          · intro other isLater
            simp only [List.tail_cons, List.mem_cons] at isLater
            rcases isLater with rfl | isLater
            · omega
            · exact later other isLater

example :
    thousands ['1', '2', '3', '4', '5'] =
      [['1', '2'], ['3', '4', '5']] := by
  decide

/-- A decimal whose whole part is grouped loses the groups again. -/
theorem energyNumericText_of_groups
    {groups : List (List Char)}
    {fraction : List Char}
    (wellFormed : EnergyText.WellFormed ⟨[], groups, fraction⟩)
    (some : groups ≠ []) :
    energyNumericText
        (String.ofList (['.'].intercalate (groups ++ [fraction]))) =
      .some (String.ofList (groups.flatten ++ '.' :: fraction)) := by
  have isNumeral := isNumeral_intercalate (by simp) wellFormed.digits
  refine
    energyNumericText_eq_some_iff.mpr
      ⟨⟨[], groups, fraction⟩, wellFormed, ?_, ?_⟩
  · rw [trimText_of_noBlank, String.toList_ofList]
    · rfl
    · intro character member
      rw [String.toList_ofList] at member
      rcases isNumeral.plain character member with isDigit | rfl
      · exact isBlank_of_isDigit isDigit
      · decide
  · rw [EnergyText.withoutThousands, if_neg some]
    rfl

/-- Grouping the whole part of a decimal does not change its number. -/
theorem parseEnergyValue_thousands
    {whole fraction : List Char}
    (wholeDigits :
      whole ≠ [] ∧ ∀ digit ∈ whole, digit.isDigit = true)
    (fractionDigits :
      fraction ≠ [] ∧ ∀ digit ∈ fraction, digit.isDigit = true) :
    parseEnergyValue
        (.text
          (String.ofList
            (['.'].intercalate (thousands whole ++ [fraction])))) =
      parseEnergyValue
        (.text (String.ofList (whole ++ '.' :: fraction))) := by
  have grouped := areThousands whole
  have some : thousands whole ≠ [] := by
    intro none
    have joined := grouped.joined
    rw [none] at joined
    exact wholeDigits.1 joined.symm
  have isGrouped :
      EnergyText.WellFormed ⟨[], thousands whole, fraction⟩ := by
    refine
      ⟨Or.inl rfl, ?_, fun _ => grouped.first, fun _ => grouped.later⟩
    intro group member
    rcases List.mem_append.mp member with isGroup | isFraction
    · refine ⟨grouped.notEmpty group isGroup, ?_⟩
      intro character inGroup
      apply wholeDigits.2
      rw [← grouped.joined]
      exact List.mem_flatten.mpr ⟨group, isGroup, inGroup⟩
    · rw [List.mem_singleton.mp isFraction]
      exact fractionDigits
  have isPlain : EnergyText.WellFormed ⟨[], [whole], fraction⟩ := by
    refine
      ⟨Or.inl rfl, ?_, fun many => absurd many (by simp),
        fun many => absurd many (by simp)⟩
    intro group member
    rcases List.mem_pair.mp member with rfl | rfl
    · exact wholeDigits
    · exact fractionDigits
  have first := energyNumericText_of_groups isGrouped some
  have second := energyNumericText_of_groups isPlain (by simp)
  rw [grouped.joined] at first
  have isSame :
      ['.'].intercalate ([whole] ++ [fraction]) =
        whole ++ '.' :: fraction := by
    simp [List.intercalate_cons_of_ne_nil]
  rw [isSame, List.flatten_cons, List.flatten_nil,
    List.append_nil] at second
  unfold parseEnergyValue
  dsimp only
  rw [first, second]

/-- Every character of a well-formed text is a digit, a dot or a sign. -/
theorem EnergyText.WellFormed.mem_characters
    {character : Char}
    (wellFormed : energy.WellFormed)
    (member : character ∈ energy.characters) :
    character.isDigit = true ∨ character ∈ ['.', '+', '-'] := by
  rcases List.mem_append.mp member with inSign | inRest
  · rcases wellFormed.sign with isSign | isSign | isSign
    · rw [isSign] at inSign
      cases inSign
    · rw [isSign] at inSign
      rw [List.mem_singleton.mp inSign]
      simp
    · rw [isSign] at inSign
      rw [List.mem_singleton.mp inSign]
      simp
  · have isNumeral := isNumeral_intercalate (by simp) wellFormed.digits
    rcases isNumeral.plain character inRest with isDigit | rfl
    · exact Or.inl isDigit
    · simp

/--
Parsing an energy text accepts exactly the strict format of finite numbers, as
the number without the thousands.  Grouping a whole part in thousands changes
nothing, and no comma, exponent, space or empty group is accepted.
-/
theorem parseEnergyValue_isExact :
    (∀ text result,
      parseEnergyValue (.text text) = .ok result ↔
        ∃ energy : EnergyText,
          energy.WellFormed ∧
            (trimText text).toList = energy.characters ∧
            result =
              Double.ofText (String.ofList energy.withoutThousands) ∧
            result = .ofRational energy.value ∧
            result.isFinite = true) ∧
      (∀ whole fraction : List Char,
        (whole ≠ [] ∧ ∀ digit ∈ whole, digit.isDigit = true) →
        (fraction ≠ [] ∧ ∀ digit ∈ fraction, digit.isDigit = true) →
        AreThousands whole (thousands whole) ∧
          parseEnergyValue
              (.text
                (String.ofList
                  (['.'].intercalate (thousands whole ++ [fraction])))) =
            parseEnergyValue
              (.text (String.ofList (whole ++ '.' :: fraction)))) ∧
      ∀ text result,
        parseEnergyValue (.text text) = .ok result →
        (∀ character ∈ [',', 'e', 'E', ' '],
            character ∉ (trimText text).toList) ∧
          [] ∉
            (splitSign (trimText text).toList).2.splitOn '.' := by
  refine ⟨fun _ _ => parseEnergyValue_text, ?_, ?_⟩
  · intro whole fraction wholeDigits fractionDigits
    exact
      ⟨areThousands whole,
        parseEnergyValue_thousands wholeDigits fractionDigits⟩
  · intro text result accepted
    obtain ⟨energy, wellFormed, isText, _⟩ :=
      parseEnergyValue_text.mp accepted
    constructor
    · intro character excluded member
      rw [isText] at member
      have isAllowed := wellFormed.mem_characters member
      simp only [List.mem_cons, List.not_mem_nil, or_false] at excluded
      rcases excluded with rfl | rfl | rfl | rfl <;>
        · revert isAllowed
          simp
    · have isNumeral := isNumeral_intercalate (by simp) wellFormed.digits
      rw [isText, EnergyText.characters,
        splitSign_append wellFormed.sign isNumeral]
      dsimp only
      rw [List.splitOn_intercalate]
      · intro isEmpty
        exact (wellFormed.digits [] isEmpty).1 rfl
      · intro group member isDot
        have isDigit := (wellFormed.digits group member).2 '.' isDot
        revert isDigit
        decide
      · simp

end Grammar

end Sparkz
