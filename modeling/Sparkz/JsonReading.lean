import Sparkz.JsonOrder

namespace JsonText

/-!
# Reading JSON

A reader for JSON texts, with the blanks and escapes that the grammar allows.
What a writer makes of a tree is read back as that tree, whatever follows it.
-/

open Utf16

/-! ## Numerals -/

/-- Digits, at least one. -/
def areDigits (characters : List Char) : Bool :=
  characters != [] && characters.all Char.isDigit

/-- Digits without a redundant zero in front. -/
def isWhole (characters : List Char) : Bool :=
  areDigits characters &&
    (characters == ['0'] || characters.head? != some '0')

/-- A whole number, or one with a fraction. -/
def isPlainNumeral (characters : List Char) : Bool :=
  match characters.splitOn '.' with
  | [whole] => isWhole whole
  | [whole, fraction] => isWhole whole && areDigits fraction
  | _ => false

/-- An exponent, after its letter. -/
def isExponent : List Char → Bool
  | '+' :: digits | '-' :: digits => areDigits digits
  | digits => areDigits digits

/-- A number without a sign. -/
def isUnsignedNumeral (characters : List Char) : Bool :=
  match characters.splitOnP (fun character => character ∈ ['e', 'E']) with
  | [mantissa] => isPlainNumeral mantissa
  | [mantissa, exponent] => isPlainNumeral mantissa && isExponent exponent
  | _ => false

/-- A number of the grammar. -/
def isNumeral : List Char → Bool
  | '-' :: unsigned => isUnsignedNumeral unsigned
  | unsigned => isUnsignedNumeral unsigned

/-- Numbers that are written as numerals and read back from them. -/
structure NumberFormat (ν : Type) where
  written : ν → NumberText
  read : List Char → Option ν
  numeral : ∀ number, isNumeral (written number).characters = true
  read_written : ∀ number, read (written number).characters = some number

/-! ## Writing -/

section Writing

variable {ν τ : Type} [Utf16Text τ] (format : NumberFormat ν)

mutual

/-- `JSON.stringify(value)`. -/
def stringify : Json ν τ → List Char
  | .null => ['n', 'u', 'l', 'l']
  | .bool true => ['t', 'r', 'u', 'e']
  | .bool false => ['f', 'a', 'l', 's', 'e']
  | .number number => (format.written number).characters
  | .text text => quote text
  | .array items => '[' :: joined (stringifyItems items) ++ [']']
  | .object fields =>
      '{' :: joined ((stringifyFields fields).map fieldText) ++ ['}']

def stringifyItems : List (Json ν τ) → List (List Char)
  | [] => []
  | item :: items => stringify item :: stringifyItems items

def stringifyFields : List (τ × Json ν τ) → List (τ × List Char)
  | [] => []
  | (key, value) :: fields =>
      (key, stringify value) :: stringifyFields fields

end

theorem stringifyItems_eq (items : List (Json ν τ)) :
    stringifyItems format items = items.map (stringify format) := by
  induction items with
  | nil =>
      rfl
  | cons item items inductionHypothesis =>
      simp [stringifyItems, inductionHypothesis]

end Writing

/-! ## Reading trees -/

/-- The blanks between the parts of a text. -/
def isSpace (character : Char) : Bool :=
  character == ' ' || character == '\t' || character == '\n' ||
    character == '\r'

/-- A text without the blanks in front of it. -/
def skipSpace (characters : List Char) : List Char :=
  characters.dropWhile isSpace

/-- A character that carries a number on. -/
def continuesNumber (character : Char) : Bool :=
  isNumeric character || character == 'E'

section Reading

variable {ν τ : Type} [Utf16Text τ] [DecidableEq τ] (format : NumberFormat ν)

/-- A number, and what follows it. -/
def readNumber (characters : List Char) : Option (ν × List Char) :=
  let numeral := characters.takeWhile continuesNumber
  if isNumeral numeral then
    (format.read numeral).map fun number =>
      (number, characters.dropWhile continuesNumber)
  else none

/-- The fields of an object, where the last of a key counts. -/
def distinctFields (fields : List (τ × Json ν τ)) :
    List (τ × Json ν τ) :=
  fields.foldl
    (fun entries field =>
      InsertionMap.update field.1 (fun _ => field.2) entries) []

mutual

/-- A value, and what follows it. -/
def readValue : Nat → List Char → Option (Json ν τ × List Char)
  | 0, _ => none
  | fuel + 1, characters =>
      match skipSpace characters with
      | 'n' :: 'u' :: 'l' :: 'l' :: rest => some (.null, rest)
      | 't' :: 'r' :: 'u' :: 'e' :: rest => some (.bool true, rest)
      | 'f' :: 'a' :: 'l' :: 's' :: 'e' :: rest => some (.bool false, rest)
      | '"' :: rest =>
          (readText rest).map fun (text, after) => (.text text, after)
      | '[' :: rest =>
          match skipSpace rest with
          | ']' :: after => some (.array [], after)
          | _ =>
              (readItems fuel rest).map fun (items, after) =>
                (.array items, after)
      | '{' :: rest =>
          match skipSpace rest with
          | '}' :: after => some (.object [], after)
          | _ =>
              (readFields fuel rest).map fun (fields, after) =>
                (.object (distinctFields fields), after)
      | numeral =>
          (readNumber format numeral).map fun (number, after) =>
            (.number number, after)

/-- The items of a list that is not empty, up to its end. -/
def readItems : Nat → List Char → Option (List (Json ν τ) × List Char)
  | 0, _ => none
  | fuel + 1, characters => do
      let (item, rest) ← readValue fuel characters
      match skipSpace rest with
      | ',' :: later =>
          (readItems fuel later).map fun (items, after) =>
            (item :: items, after)
      | ']' :: after => some ([item], after)
      | _ => none

/-- The fields of an object that is not empty, up to its end. -/
def readFields :
    Nat → List Char → Option (List (τ × Json ν τ) × List Char)
  | 0, _ => none
  | fuel + 1, characters =>
      match skipSpace characters with
      | '"' :: quoted => do
          let (key, rest) ← readText quoted
          match skipSpace rest with
          | ':' :: shown => do
              let (value, rest) ← readValue fuel shown
              match skipSpace rest with
              | ',' :: later =>
                  (readFields fuel later).map fun (fields, after) =>
                    ((key, value) :: fields, after)
              | '}' :: after => some ([(key, value)], after)
              | _ => none
          | _ => none
      | _ => none

end

/-- `JSON.parse(text)`; nothing when it throws. -/
def parse (characters : List Char) : Option (Json ν τ) :=
  match readValue format (2 * characters.length + 1) characters with
  | some (value, rest) => if skipSpace rest = [] then some value else none
  | none => none

end Reading

/-! ## Trees are read back -/

section Trees

variable {ν τ : Type} {format : NumberFormat ν} {value : Json ν τ}
  {fuel : Nat} {rest characters : List Char}

/-- A character that a value may begin with. -/
def isStart (character : Char) : Bool :=
  isNumeric character ||
    ['n', 't', 'f', '"', '[', '{'].contains character

/-- What follows a value does not carry on a number. -/
def Ends (rest : List Char) : Prop :=
  ∀ character ∈ rest.head?, continuesNumber character = false

theorem ends_cons
    {character : Char}
    (isEnd : continuesNumber character = false) :
    Ends (character :: rest) := by
  intro first isFirst
  rw [List.head?_cons, Option.mem_some_iff] at isFirst
  exact isFirst ▸ isEnd

/-- A value does not begin with a blank. -/
theorem isSpace_of_isStart
    {character : Char}
    (starts : isStart character = true) :
    isSpace character = false := by
  by_contra isBlank
  rw [Bool.not_eq_false] at isBlank
  simp only [isSpace, Bool.or_eq_true, beq_iff_eq] at isBlank
  rcases isBlank with ((rfl | rfl) | rfl) | rfl
  all_goals
    revert starts
    decide

theorem skipSpace_cons
    {character : Char}
    (notSpace : isSpace character = false) :
    skipSpace (character :: rest) = character :: rest := by
  simp [skipSpace, notSpace]

/-- A value that is written begins like one. -/
theorem stringify_begins
    [Utf16Text τ]
    (format : NumberFormat ν)
    (value : Json ν τ) :
    ∃ first later,
      stringify format value = first :: later ∧ isStart first = true := by
  cases value with
  | null => exact ⟨_, _, rfl, by decide⟩
  | bool flag => cases flag <;> exact ⟨_, _, rfl, by decide⟩
  | number number =>
      rcases shape : (format.written number).characters with
        _ | ⟨first, later⟩
      · exact absurd shape (format.written number).nonempty
      · refine ⟨first, later, by rw [stringify, shape], ?_⟩
        have numeric :=
          (format.written number).numeric first (by simp [shape])
        simp [isStart, numeric]
  | text text => exact ⟨_, _, rfl, by decide⟩
  | array items => exact ⟨_, _, rfl, by decide⟩
  | object fields => exact ⟨_, _, rfl, by decide⟩

/-- The fields of an object begin with a quotation mark. -/
theorem joinedFields_begins
    [Utf16Text τ]
    (format : NumberFormat ν)
    (field : τ × Json ν τ)
    (fields : List (τ × Json ν τ)) :
    ∃ later,
      joined ((stringifyFields format (field :: fields)).map fieldText) =
        '"' :: later := by
  obtain ⟨key, value⟩ := field
  exact ⟨_, rfl⟩

/-- The fields of distinct keys are all kept. -/
theorem distinctFields_eq
    [DecidableEq τ]
    {fields : List (τ × Json ν τ)}
    (distinct : (fields.map Prod.fst).Nodup) :
    distinctFields fields = fields := by
  induction fields using List.reverseRecOn with
  | nil =>
      rfl
  | append_singleton front last inductionHypothesis =>
      rw [List.map_append, List.nodup_append] at distinct
      obtain ⟨distinctFront, _, apart⟩ := distinct
      have fresh : last.1 ∉ front.map Prod.fst := by
        intro member
        exact apart _ member last.1 (by simp) rfl
      have appended :
          ∀ entries : List (τ × Json ν τ),
            last.1 ∉ entries.map Prod.fst →
            InsertionMap.update last.1 (fun _ => last.2) entries =
              entries ++ [last] := by
        intro entries isFresh
        induction entries with
        | nil =>
            rfl
        | cons entry entries updateRest =>
            rw [List.map_cons, List.mem_cons, not_or] at isFresh
            have notFirst : ¬ entry.1 = last.1 :=
              fun same => isFresh.1 same.symm
            simp [InsertionMap.update, notFirst, updateRest isFresh.2]
      have isFront := inductionHypothesis distinctFront
      unfold distinctFields at isFront ⊢
      rw [List.foldl_concat, isFront, appended front fresh]

/-- A number is read as far as it goes. -/
theorem readNumber_written
    (number : ν)
    (ends : Ends rest) :
    readNumber format ((format.written number).characters ++ rest) =
      some (number, rest) := by
  have continues :
      ∀ character ∈ (format.written number).characters,
        continuesNumber character = true := by
    intro character member
    simp [continuesNumber, (format.written number).numeric character member]
  have stops : rest.takeWhile continuesNumber = [] := by
    rcases rest with _ | ⟨first, later⟩
    · rfl
    · simp [ends first rfl]
  have isTaken :
      ((format.written number).characters ++ rest).takeWhile
          continuesNumber =
        (format.written number).characters := by
    rw [List.takeWhile_append_of_pos continues, stops, List.append_nil]
  have isLeft :
      ((format.written number).characters ++ rest).dropWhile
          continuesNumber = rest := by
    rw [List.dropWhile_append_of_pos continues]
    rcases rest with _ | ⟨first, later⟩
    · rfl
    · simp [ends first rfl]
  simp only [readNumber, isTaken, isLeft, format.numeral, if_true,
    format.read_written, Option.map_some]

variable [Utf16Text τ] [DecidableEq τ]

/-- What begins with a character of a number is read as a number. -/
theorem readValue_number
    {first : Char}
    (numeric : isNumeric first = true) :
    readValue format (fuel + 1) (first :: rest) =
      (readNumber format (first :: rest)).map fun (number, after) =>
        ((.number number : Json ν τ), after) := by
  have notSpace :=
    @isSpace_of_isStart first (by simp [isStart, numeric])
  rw [readValue, skipSpace_cons notSpace]
  split
  all_goals
    first
    | rfl
    | rename_i shape
      rw [(List.cons.inj shape).1] at numeric
      exact absurd numeric (by decide)

/-- A value is read back from what is written of it. -/
def ReadBack (format : NumberFormat ν) (value : Json ν τ) : Prop :=
  ∀ fuel rest,
    2 * (stringify format value).length < fuel →
    Ends rest →
    readValue format fuel (stringify format value ++ rest) =
      some (value, rest)

theorem joined_cons_cons (first second : List Char)
    (texts : List (List Char)) :
    joined (first :: second :: texts) =
      first ++ ',' :: joined (second :: texts) := by
  simp [joined]

/-- The items of a list are read back up to its end. -/
theorem readItems_joined
    {item : Json ν τ}
    {items : List (Json ν τ)}
    (readBack : ∀ value ∈ item :: items, ReadBack format value)
    (enough :
      2 * (joined ((item :: items).map (stringify format))).length + 1 <
        fuel) :
    readItems format fuel
        (joined ((item :: items).map (stringify format)) ++
          ']' :: rest) =
      some (item :: items, rest) := by
  induction items generalizing item fuel with
  | nil =>
      rcases fuel with _ | fuel
      · omega
      · simp only [List.map_cons, List.map_nil, joined, List.flatMap_nil,
          List.append_nil] at enough ⊢
        have isItem :=
          readBack item List.mem_cons_self fuel (']' :: rest) (by omega)
            (ends_cons (by decide))
        rw [readItems, isItem]
        rfl
  | cons next items inductionHypothesis =>
      rcases fuel with _ | fuel
      · omega
      · simp only [List.map_cons, joined_cons_cons, List.length_append,
          List.length_cons] at enough
        have isItem :=
          readBack item List.mem_cons_self fuel
            (',' :: (joined ((next :: items).map (stringify format)) ++
              ']' :: rest))
            (by omega) (ends_cons (by decide))
        have isRest :=
          @inductionHypothesis fuel next
            (fun value member =>
              readBack value (List.mem_cons_of_mem _ member))
            (by simp only [List.map_cons]; omega)
        rw [List.map_cons, List.map_cons, joined_cons_cons,
          List.append_assoc, List.cons_append, ← List.map_cons, readItems,
          isItem]
        simp only [Option.bind_eq_bind, Option.bind_some,
          skipSpace_cons (show isSpace ',' = false by decide), isRest,
          Option.map_some]

/-- The fields of an object are read back up to its end. -/
theorem readFields_joined
    {field : τ × Json ν τ}
    {fields : List (τ × Json ν τ)}
    (readBack : ∀ entry ∈ field :: fields, ReadBack format entry.2)
    (enough :
      2 * (joined ((stringifyFields format (field :: fields)).map
            fieldText)).length + 1 <
        fuel) :
    readFields format fuel
        (joined ((stringifyFields format (field :: fields)).map
            fieldText) ++ '}' :: rest) =
      some (field :: fields, rest) := by
  induction fields generalizing field fuel with
  | nil =>
      rcases fuel with _ | fuel
      · omega
      · obtain ⟨key, value⟩ := field
        simp only [stringifyFields, List.map_cons, List.map_nil, joined,
          List.flatMap_nil, List.append_nil, fieldText, quote,
          List.cons_append, List.append_assoc, List.nil_append,
          List.length_cons, List.length_append] at enough ⊢
        have isValue :=
          readBack (key, value) List.mem_cons_self fuel ('}' :: rest)
            (by simp only; omega) (ends_cons (by decide))
        rw [readFields,
          skipSpace_cons (show isSpace '"' = false by decide)]
        simp only [readText_quoted, Option.bind_eq_bind, Option.bind_some,
          skipSpace_cons (show isSpace ':' = false by decide), isValue,
          skipSpace_cons (show isSpace '}' = false by decide)]
  | cons next fields inductionHypothesis =>
      rcases fuel with _ | fuel
      · omega
      · obtain ⟨key, value⟩ := field
        obtain ⟨nextKey, nextValue⟩ := next
        have isRest :=
          @inductionHypothesis fuel (nextKey, nextValue)
            (fun entry member =>
              readBack entry (List.mem_cons_of_mem _ member))
        generalize isLater :
          joined ((stringifyFields format
              ((nextKey, nextValue) :: fields)).map fieldText) =
            later at isRest
        have isJoined :
            joined ((stringifyFields format
                ((key, value) :: (nextKey, nextValue) :: fields)).map
                  fieldText) =
              fieldText (key, stringify format value) ++ ',' :: later := by
          rw [← isLater]
          simp only [stringifyFields, List.map_cons, joined_cons_cons]
        simp only [isJoined, fieldText, quote, List.cons_append,
          List.append_assoc, List.nil_append, List.length_cons,
          List.length_append] at enough ⊢
        have isValue :=
          readBack (key, value) List.mem_cons_self fuel
            (',' :: (later ++ '}' :: rest))
            (by simp only; omega) (ends_cons (by decide))
        rw [readFields,
          skipSpace_cons (show isSpace '"' = false by decide)]
        simp only [readText_quoted, Option.bind_eq_bind, Option.bind_some,
          skipSpace_cons (show isSpace ':' = false by decide), isValue,
          skipSpace_cons (show isSpace ',' = false by decide),
          isRest (by omega), Option.map_some]

/-- A list that is not empty is read item by item. -/
theorem readValue_items
    {first : Char}
    {later : List Char}
    {items : List (Json ν τ)}
    (starts : isStart first = true)
    (isItems :
      readItems format fuel (first :: later ++ characters) =
        some (items, rest)) :
    readValue format (fuel + 1) ('[' :: (first :: later ++ characters)) =
      some (.array items, rest) := by
  rw [readValue, skipSpace_cons (by decide)]
  simp only
  rw [List.cons_append, skipSpace_cons (isSpace_of_isStart starts)]
  split
  · rename_i shape
    rw [(List.cons.inj shape).1] at starts
    exact absurd starts (by decide)
  · rw [← List.cons_append, isItems]
    rfl

/-- An object that is not empty is read field by field. -/
theorem readValue_fields
    {later : List Char}
    {fields : List (τ × Json ν τ)}
    (isFields :
      readFields format fuel ('"' :: later ++ characters) =
        some (fields, rest)) :
    readValue format (fuel + 1) ('{' :: ('"' :: later ++ characters)) =
      some (.object (distinctFields fields), rest) := by
  rw [readValue, skipSpace_cons (by decide)]
  simp only
  rw [List.cons_append, skipSpace_cons (by decide)]
  rw [List.cons_append] at isFields
  rw [isFields]
  rfl

/-- A value of distinct keys is read back, whatever follows it. -/
theorem readValue_stringify (keyed : value.Keyed) :
    ReadBack format value := by
  induction value using Json.inductionOn with
  | null =>
      intro fuel rest enough _
      rcases fuel with _ | fuel
      · omega
      · rw [stringify, List.cons_append, readValue,
          skipSpace_cons (by decide)]
        rfl
  | bool flag =>
      intro fuel rest enough _
      rcases fuel with _ | fuel
      · omega
      · cases flag with
        | false =>
            rw [stringify, List.cons_append, readValue,
              skipSpace_cons (by decide)]
            rfl
        | true =>
            rw [stringify, List.cons_append, readValue,
              skipSpace_cons (by decide)]
            rfl
  | number number =>
      intro fuel rest enough ends
      rcases fuel with _ | fuel
      · omega
      · have isNumber := @readNumber_written _ format _ number ends
        rw [stringify]
        rcases shape : (format.written number).characters with
          _ | ⟨first, later⟩
        · exact absurd shape (format.written number).nonempty
        · rw [shape, List.cons_append] at isNumber
          rw [List.cons_append, readValue_number, isNumber]
          · rfl
          · exact (format.written number).numeric first (by simp [shape])
  | text text =>
      intro fuel rest enough _
      rcases fuel with _ | fuel
      · omega
      · simp only [stringify, quote, List.cons_append, List.append_assoc,
          List.nil_append]
        rw [readValue, skipSpace_cons (by decide)]
        simp only [readText_quoted, Option.map_some]
  | array items inductionHypothesis =>
      intro fuel rest enough _
      rcases keyed with _ | _ | _ | _ | keyed | _
      rcases fuel with _ | fuel
      · omega
      · rcases items with _ | ⟨item, items⟩
        · rfl
        · have readBack :
              ∀ value ∈ item :: items, ReadBack format value :=
            fun value member =>
              inductionHypothesis value member (keyed value member)
          obtain ⟨first, later, isFirst, starts⟩ :=
            stringify_begins format item
          simp only [stringify, stringifyItems_eq, List.cons_append,
            List.append_assoc, List.nil_append, List.length_cons,
            List.length_append] at enough ⊢
          have isItems :=
            @readItems_joined _ _ _ fuel rest _ _ _ _ readBack
              (by omega)
          rw [List.map_cons, joined, isFirst] at isItems ⊢
          exact readValue_items starts isItems
  | object fields inductionHypothesis =>
      intro fuel rest enough _
      rcases keyed with _ | _ | _ | _ | _ | ⟨distinct, keyed⟩
      rcases fuel with _ | fuel
      · omega
      · rcases fields with _ | ⟨field, fields⟩
        · rfl
        · have readBack :
              ∀ entry ∈ field :: fields, ReadBack format entry.2 :=
            fun entry member =>
              inductionHypothesis entry member (keyed entry member)
          simp only [stringify, List.cons_append, List.append_assoc,
            List.nil_append, List.length_cons,
            List.length_append] at enough ⊢
          have isFields :=
            @readFields_joined _ _ _ fuel rest _ _ _ _ readBack
              (by omega)
          obtain ⟨later, isLater⟩ := joinedFields_begins format field fields
          rw [isLater] at isFields ⊢
          rw [readValue_fields isFields, distinctFields_eq distinct]

/-- What is written of a value of distinct keys is parsed as that value. -/
theorem parse_stringify (keyed : value.Keyed) :
    parse format (stringify format value) = some value := by
  have nothing : Ends [] := by
    intro character impossible
    cases impossible
  have isRead :=
    @readValue_stringify _ _ format _ _ _ keyed
      (2 * (stringify format value).length + 1) [] (by omega) nothing
  rw [List.append_nil] at isRead
  unfold parse
  rw [isRead]
  rfl

end Trees

end JsonText
