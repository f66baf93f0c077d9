import Mathlib.Data.List.Lex
import Mathlib.Data.List.Sort
import Mathlib.Order.Fin.Basic
import Sparkz.InsertionMap
import Sparkz.JsonQuotes

namespace JsonText

/-!
# JSON trees and the text that shows them

Texts are quoted with the escapes of JSON, numbers stand for themselves and the
fields of an object are written in the order of their keys.  Such a text shows
its tree: two trees with the same text are the same up to the order of fields.
-/

/-- A character that the text of a number may hold. -/
def isNumeric (character : Char) : Bool :=
  character.isDigit || character == '.' || character == 'e' ||
    character == '+' || character == '-'

/-- A finite number, by its text. -/
structure NumberText where
  characters : List Char
  nonempty : characters ≠ []
  numeric : ∀ character ∈ characters, isNumeric character = true
  deriving DecidableEq

namespace NumberText

/-- A whole number, by its digits. -/
def ofNat (count : Nat) : NumberText where
  characters := Nat.toDigits 10 count
  nonempty := Nat.toDigits_ne_nil
  numeric := by
    intro character member
    have isDigit :=
      Nat.isDigit_of_mem_toDigits (b := 10) (by decide) (by decide) member
    simp [isNumeric, isDigit]

/-- Whole numbers have different digits. -/
theorem ofNat_injective
    {first second : Nat}
    (same : ofNat first = ofNat second) :
    first = second := by
  have sameDigits : Nat.toDigits 10 first = Nat.toDigits 10 second :=
    congrArg NumberText.characters same
  have values :=
    congrArg (fun digits => Nat.ofDigitChars 10 digits 0) sameDigits
  simpa only [Nat.ofDigitChars_ten_toDigits] using values

end NumberText

/-- A JSON value over a type of numbers and one of texts. -/
inductive Json (ν : Type) (τ : Type := String) where
  | null : Json ν τ
  | bool : Bool → Json ν τ
  | number : ν → Json ν τ
  | text : τ → Json ν τ
  | array : List (Json ν τ) → Json ν τ
  | object : List (τ × Json ν τ) → Json ν τ

variable {ν τ : Type}

/-- A property of all trees, from what it takes over their children. -/
@[elab_as_elim]
theorem Json.inductionOn
    {motive : Json ν τ → Prop}
    (value : Json ν τ)
    (null : motive .null)
    (bool : ∀ flag, motive (.bool flag))
    (number : ∀ shown, motive (.number shown))
    (text : ∀ shown, motive (.text shown))
    (array : ∀ items, (∀ item ∈ items, motive item) → motive (.array items))
    (object :
      ∀ fields, (∀ field ∈ fields, motive field.2) → motive (.object fields)) :
    motive value := by
  match value with
  | .null => exact null
  | .bool flag => exact bool flag
  | .number shown => exact number shown
  | .text shown => exact text shown
  | .array items =>
      exact
        array items fun item _ =>
          Json.inductionOn item null bool number text array object
  | .object fields =>
      exact
        object fields fun field _ =>
          Json.inductionOn field.2 null bool number text array object
termination_by sizeOf value
decreasing_by
  · rename_i member
    have smaller := List.sizeOf_lt_of_mem member
    simp only [Json.array.sizeOf_spec]
    omega
  · rename_i member
    have smaller := List.sizeOf_lt_of_mem member
    obtain ⟨key, child⟩ := field
    simp only [Prod.mk.sizeOf_spec] at smaller
    simp only [Json.object.sizeOf_spec]
    omega

/-! ## Trees -/

open Utf16

variable [Utf16Text τ]

/-- `texts.join(',')`. -/
def joined : List (List Char) → List Char
  | [] => []
  | first :: rest => first ++ rest.flatMap fun text => ',' :: text

/-- One field comes before another when the units of its key do. -/
def KeyOrder {α : Type} (first second : τ × α) : Prop :=
  Utf16Text.units first.1 ≤ Utf16Text.units second.1

instance {α : Type} : DecidableRel (@KeyOrder τ _ α) :=
  fun first second =>
    inferInstanceAs
      (Decidable
        (Utf16Text.units first.1 ≤ Utf16Text.units second.1))

/-- The fields in the order of their keys. -/
def byKey {α : Type} (fields : List (τ × α)) : List (τ × α) :=
  fields.insertionSort KeyOrder

/-- A field of an object. -/
def fieldText (field : τ × List Char) : List Char :=
  quote field.1 ++ ':' :: field.2

mutual

/-- The text of a tree, with the fields of its objects sorted by key. -/
def stableSerialize : Json NumberText τ → List Char
  | .null => ['n', 'u', 'l', 'l']
  | .bool true => ['t', 'r', 'u', 'e']
  | .bool false => ['f', 'a', 'l', 's', 'e']
  | .number shown => shown.characters
  | .text shown => quote shown
  | .array items => '[' :: joined (serializeItems items) ++ [']']
  | .object fields =>
      '{' :: joined ((byKey (serializeFields fields)).map fieldText) ++
        ['}']

def serializeItems : List (Json NumberText τ) → List (List Char)
  | [] => []
  | item :: items => stableSerialize item :: serializeItems items

def serializeFields : List (τ × Json NumberText τ) → List (τ × List Char)
  | [] => []
  | (key, value) :: fields =>
      (key, stableSerialize value) :: serializeFields fields

end

mutual

/-- The tree with the fields of its objects sorted by key. -/
def canonical : Json ν τ → Json ν τ
  | .null => .null
  | .bool flag => .bool flag
  | .number shown => .number shown
  | .text shown => .text shown
  | .array items => .array (canonicalItems items)
  | .object fields => .object (byKey (canonicalFields fields))

def canonicalItems : List (Json ν τ) → List (Json ν τ)
  | [] => []
  | item :: items => canonical item :: canonicalItems items

def canonicalFields : List (τ × Json ν τ) → List (τ × Json ν τ)
  | [] => []
  | (key, value) :: fields =>
      (key, canonical value) :: canonicalFields fields

end

theorem serializeItems_eq (items : List (Json NumberText τ)) :
    serializeItems items = items.map stableSerialize := by
  induction items with
  | nil =>
      rfl
  | cons item items inductionHypothesis =>
      simp [serializeItems, inductionHypothesis]

theorem serializeFields_eq (fields : List (τ × Json NumberText τ)) :
    serializeFields fields =
      fields.map fun field => (field.1, stableSerialize field.2) := by
  induction fields with
  | nil =>
      rfl
  | cons field fields inductionHypothesis =>
      simp [serializeFields, inductionHypothesis]

theorem canonicalItems_eq (items : List (Json ν τ)) :
    canonicalItems items = items.map canonical := by
  induction items with
  | nil =>
      rfl
  | cons item items inductionHypothesis =>
      simp [canonicalItems, inductionHypothesis]

theorem canonicalFields_eq (fields : List (τ × Json ν τ)) :
    canonicalFields fields =
      fields.map fun field => (field.1, canonical field.2) := by
  induction fields with
  | nil =>
      rfl
  | cons field fields inductionHypothesis =>
      simp [canonicalFields, inductionHypothesis]

/-- Sorting looks at the keys only. -/
theorem byKey_map
    {α β : Type}
    (change : α → β)
    (fields : List (τ × α)) :
    byKey (fields.map fun field => (field.1, change field.2)) =
      (byKey fields).map fun field => (field.1, change field.2) := by
  symm
  apply List.map_insertionSort
  intro first _ second _
  exact Iff.rfl

/-! ## Fields of an object -/

section Fields

variable [DecidableEq τ]

/-- `value[key]`. -/
def Json.field? (value : Json ν τ) (key : τ) : Option (Json ν τ) :=
  match value with
  | .object fields => InsertionMap.get? key fields
  | _ => none

/-- Inserting a field by its key finds the same values. -/
theorem get?_orderedInsert
    {α : Type}
    (key : τ)
    (field : τ × α)
    (fields : List (τ × α)) :
    InsertionMap.get? key (fields.orderedInsert KeyOrder field) =
      InsertionMap.get? key (field :: fields) := by
  induction fields with
  | nil =>
      rfl
  | cons first rest inductionHypothesis =>
      by_cases before : KeyOrder field first
      · rw [List.orderedInsert_cons_of_le _ _ before]
      · rw [List.orderedInsert_of_not_le _ _ before]
        have different : first.1 ≠ field.1 := by
          intro same
          exact before (le_of_eq (by rw [same]))
        simp only [InsertionMap.get?] at inductionHypothesis ⊢
        by_cases isFirst : first.1 = key
        · have other : field.1 ≠ key := isFirst ▸ different.symm
          simp [isFirst, other]
        · simp [isFirst, inductionHypothesis]

/-- Sorting the fields finds the same values. -/
theorem get?_byKey
    {α : Type}
    (key : τ)
    (fields : List (τ × α)) :
    InsertionMap.get? key (byKey fields) = InsertionMap.get? key fields := by
  induction fields with
  | nil =>
      rfl
  | cons field fields inductionHypothesis =>
      unfold byKey at inductionHypothesis ⊢
      rw [List.insertionSort_cons, get?_orderedInsert]
      simp only [InsertionMap.get?, inductionHypothesis]

omit [Utf16Text τ] in
theorem get?_map
    {α β : Type}
    (change : α → β)
    (key : τ)
    (fields : List (τ × α)) :
    InsertionMap.get? key
        (fields.map fun field => (field.1, change field.2)) =
      (InsertionMap.get? key fields).map change := by
  induction fields with
  | nil =>
      rfl
  | cons field fields inductionHypothesis =>
      by_cases isKey : field.1 = key
      · simp [InsertionMap.get?, isKey]
      · simp [InsertionMap.get?, isKey, inductionHypothesis]

/-- The order of fields does not matter to a lookup. -/
theorem canonical_field?
    (value : Json ν τ)
    (key : τ) :
    (canonical value).field? key = (value.field? key).map canonical := by
  cases value with
  | object fields =>
      simp only [canonical, Json.field?, canonicalFields_eq, get?_byKey,
        get?_map]
  | _ =>
      rfl

/-- Values that agree up to the order of fields agree in every field. -/
theorem field?_eq
    {first second : Json ν τ}
    (same : canonical first = canonical second)
    (key : τ) :
    (first.field? key).map canonical =
      (second.field? key).map canonical := by
  rw [← canonical_field?, same, canonical_field?]

end Fields

/-- The items of a list stay in their order. -/
theorem items_eq
    {first second : List (Json ν τ)}
    (same : canonical (.array first) = canonical (.array second)) :
    first.map canonical = second.map canonical := by
  simp only [canonical, canonicalItems_eq, Json.array.injEq] at same
  exact same

/-! ## The text determines the tree -/

/-- What follows a value does not carry on a number. -/
def Delimited (rest : List Char) : Prop :=
  ∀ character ∈ rest.head?, isNumeric character = false

/-- The value is determined by its text, whatever text follows it. -/
def Readable {α β : Type}
    (text : α → List Char)
    (view : α → β)
    (value : α) : Prop :=
  ∀ other rest others,
    Delimited rest →
    Delimited others →
    text value ++ rest = text other ++ others →
    view value = view other ∧ rest = others

section Joined

variable {α β : Type} {text : α → List Char} {view : α → β}
  {close : Char}

theorem delimited_cons
    {character : Char}
    (notNumeric : isNumeric character = false)
    (rest : List Char) :
    Delimited (character :: rest) := by
  intro first isFirst
  rw [List.head?_cons, Option.mem_some_iff] at isFirst
  exact isFirst ▸ notNumeric

/-- What follows an item of a list is a comma or the end of the list. -/
theorem delimited_items
    (notNumeric : isNumeric close = false)
    (items : List α)
    (rest : List Char) :
    Delimited
      ((items.map text).flatMap (fun shown => ',' :: shown) ++
        close :: rest) := by
  cases items with
  | nil =>
      exact delimited_cons notNumeric rest
  | cons item items =>
      exact delimited_cons (by decide) _

/-- The items after the first one are determined by their text. -/
theorem laterItems_readable
    (notNumeric : isNumeric close = false)
    (notComma : close ≠ ',')
    {items : List α}
    (readable : ∀ item ∈ items, Readable text view item)
    {others : List α}
    {rest otherRest : List Char}
    (same :
      (items.map text).flatMap (fun shown => ',' :: shown) ++
          close :: rest =
        (others.map text).flatMap (fun shown => ',' :: shown) ++
          close :: otherRest) :
    items.map view = others.map view ∧ rest = otherRest := by
  induction items generalizing others with
  | nil =>
      cases others with
      | nil =>
          simpa using same
      | cons other others =>
          simp [notComma] at same
  | cons item items inductionHypothesis =>
      cases others with
      | nil =>
          simp [Ne.symm notComma] at same
      | cons other others =>
          simp only [List.map_cons, List.flatMap_cons, List.cons_append,
            List.append_assoc, List.cons.injEq, true_and] at same
          obtain ⟨sameView, sameRest⟩ :=
            readable item List.mem_cons_self other _ _
              (delimited_items notNumeric items rest)
              (delimited_items notNumeric others otherRest) same
          obtain ⟨sameViews, sameEnd⟩ :=
            inductionHypothesis
              (fun later member =>
                readable later (List.mem_cons_of_mem _ member))
              sameRest
          exact ⟨by rw [List.map_cons, sameView, sameViews]; rfl, sameEnd⟩

/-- A joined list is determined by its text. -/
theorem joined_readable
    (notNumeric : isNumeric close = false)
    (notComma : close ≠ ',')
    (notClosed :
      ∀ (item : α) (rest others : List Char),
        text item ++ rest ≠ close :: others)
    {items : List α}
    (readable : ∀ item ∈ items, Readable text view item)
    {others : List α}
    {rest otherRest : List Char}
    (same :
      joined (items.map text) ++ close :: rest =
        joined (others.map text) ++ close :: otherRest) :
    items.map view = others.map view ∧ rest = otherRest := by
  cases items with
  | nil =>
      cases others with
      | nil =>
          simpa [joined] using same
      | cons other others =>
          simp only [List.map_nil, joined, List.nil_append, List.map_cons,
            List.append_assoc] at same
          exact absurd same.symm (notClosed other _ _)
  | cons item items =>
      cases others with
      | nil =>
          simp only [List.map_nil, joined, List.nil_append, List.map_cons,
            List.append_assoc] at same
          exact absurd same (notClosed item _ _)
      | cons other others =>
          simp only [joined, List.map_cons, List.append_assoc] at same
          obtain ⟨sameView, sameRest⟩ :=
            readable item List.mem_cons_self other _ _
              (delimited_items notNumeric items rest)
              (delimited_items notNumeric others otherRest) same
          obtain ⟨sameViews, sameEnd⟩ :=
            laterItems_readable notNumeric notComma
              (fun later member =>
                readable later (List.mem_cons_of_mem _ member))
              sameRest
          exact ⟨by rw [List.map_cons, sameView, sameViews]; rfl, sameEnd⟩

end Joined

/-- What a value is, as its first character shows. -/
inductive Kind where
  | null : Kind
  | bool : Bool → Kind
  | number : Kind
  | text : Kind
  | array : Kind
  | object : Kind
  deriving DecidableEq

def Json.kind : Json ν τ → Kind
  | .null => .null
  | .bool flag => .bool flag
  | .number _ => .number
  | .text _ => .text
  | .array _ => .array
  | .object _ => .object

def kindOf (first : Char) : Option Kind :=
  if isNumeric first then some .number
  else
    [('n', Kind.null), ('t', .bool true), ('f', .bool false),
      ('"', .text), ('[', .array), ('{', .object)].lookup first

/-- The first character of a text shows what it is the text of. -/
theorem stableSerialize_kind (value : Json NumberText τ) (rest : List Char) :
    (stableSerialize value ++ rest).head?.bind kindOf =
      some value.kind := by
  cases value with
  | number shown =>
      obtain ⟨characters, nonempty, numeric⟩ := shown
      cases characters with
      | nil =>
          exact absurd rfl nonempty
      | cons first remaining =>
          simp [stableSerialize, kindOf, numeric first, Json.kind]
  | bool flag =>
      cases flag with
      | false => rfl
      | true => rfl
  | null => rfl
  | text shown => rfl
  | array items => rfl
  | object fields => rfl

/-- Values with the same text are of the same kind. -/
theorem kind_eq
    {first second : Json NumberText τ}
    {rest others : List Char}
    (same :
      stableSerialize first ++ rest = stableSerialize second ++ others) :
    first.kind = second.kind := by
  have kinds := congrArg (fun text => text.head?.bind kindOf) same
  simp only [stableSerialize_kind, Option.some.injEq] at kinds
  exact kinds

/-- No value begins with the character that ends a list. -/
theorem not_closed
    {close : Char}
    (noKind : kindOf close = none)
    (value : Json NumberText τ)
    (rest others : List Char) :
    stableSerialize value ++ rest ≠ close :: others := by
  intro same
  have kinds := congrArg (fun text => text.head?.bind kindOf) same
  simp only [stableSerialize_kind, List.head?_cons, Option.bind_some,
    noKind] at kinds
  cases kinds

/-- A number goes on as long as its characters do. -/
theorem number_readable
    {first second : NumberText}
    {rest others : List Char}
    (delimited : Delimited rest)
    (otherDelimited : Delimited others)
    (same : first.characters ++ rest = second.characters ++ others) :
    first = second ∧ rest = others := by
  have taken :
      ∀ (shown : NumberText) (later : List Char),
        Delimited later →
        (shown.characters ++ later).takeWhile isNumeric =
          shown.characters := by
    intro shown later isDelimited
    rw [List.takeWhile_append_of_pos shown.numeric]
    have stops : later.takeWhile isNumeric = [] := by
      cases later with
      | nil => rfl
      | cons character remaining =>
          simp [isDelimited character rfl]
    rw [stops, List.append_nil]
  have sameCharacters : first.characters = second.characters := by
    rw [← taken first rest delimited, same, taken second others otherDelimited]
  rw [sameCharacters] at same
  refine ⟨?_, List.append_cancel_left same⟩
  cases first
  cases second
  cases sameCharacters
  rfl

/-- The text of a field shows its key and its value. -/
theorem field_readable
    {field : τ × Json NumberText τ}
    (readable : Readable stableSerialize canonical field.2) :
    Readable (fun entry => fieldText (entry.1, stableSerialize entry.2))
      (fun entry => (entry.1, canonical entry.2)) field := by
  intro other rest others delimited otherDelimited same
  simp only [fieldText, List.append_assoc, List.cons_append] at same
  obtain ⟨sameKey, sameValue⟩ := quote_readable same
  obtain ⟨sameView, sameRest⟩ :=
    readable other.2 rest others delimited otherDelimited
      (List.cons.inj sameValue).2
  exact ⟨Prod.ext sameKey sameView, sameRest⟩

theorem serializeObject_eq (fields : List (τ × Json NumberText τ)) :
    (byKey (serializeFields fields)).map fieldText =
      (byKey fields).map fun field =>
        fieldText (field.1, stableSerialize field.2) := by
  rw [serializeFields_eq, byKey_map, List.map_map]
  rfl

/-- The text of a value determines it up to the order of fields. -/
theorem stableSerialize_readable (value : Json NumberText τ) :
    Readable stableSerialize canonical value := by
  induction value using Json.inductionOn with
  | null =>
      intro other rest others delimited otherDelimited same
      have kinds := kind_eq same
      cases other with
      | null =>
          exact ⟨rfl, List.append_cancel_left same⟩
      | _ =>
          cases kinds
  | bool flag =>
      intro other rest others delimited otherDelimited same
      have kinds := kind_eq same
      cases other with
      | bool otherFlag =>
          cases kinds
          exact ⟨rfl, List.append_cancel_left same⟩
      | _ =>
          cases kinds
  | number shown =>
      intro other rest others delimited otherDelimited same
      have kinds := kind_eq same
      cases other with
      | number otherShown =>
          obtain ⟨sameNumber, sameRest⟩ :=
            number_readable delimited otherDelimited same
          exact ⟨by rw [sameNumber], sameRest⟩
      | _ =>
          cases kinds
  | text shown =>
      intro other rest others delimited otherDelimited same
      have kinds := kind_eq same
      cases other with
      | text otherShown =>
          obtain ⟨sameText, sameRest⟩ := quote_readable same
          exact ⟨by rw [sameText], sameRest⟩
      | _ =>
          cases kinds
  | array items inductionHypothesis =>
      intro other rest others delimited otherDelimited same
      have kinds := kind_eq same
      cases other with
      | array otherItems =>
          simp only [stableSerialize, serializeItems_eq, List.cons_append,
            List.append_assoc, List.nil_append, List.cons.injEq,
            true_and] at same
          obtain ⟨sameItems, sameRest⟩ :=
            joined_readable (by decide) (by decide)
              (not_closed (by decide)) inductionHypothesis same
          refine ⟨?_, sameRest⟩
          simp only [canonical, canonicalItems_eq, sameItems]
      | _ =>
          cases kinds
  | object fields inductionHypothesis =>
      intro other rest others delimited otherDelimited same
      have kinds := kind_eq same
      cases other with
      | object otherFields =>
          simp only [stableSerialize, serializeObject_eq, List.cons_append,
            List.append_assoc, List.nil_append, List.cons.injEq,
            true_and] at same
          have readable :
              ∀ field ∈ byKey fields,
                Readable
                  (fun entry =>
                    fieldText (entry.1, stableSerialize entry.2))
                  (fun entry => (entry.1, canonical entry.2)) field := by
            intro field member
            exact
              field_readable
                (inductionHypothesis field
                  ((List.mem_insertionSort _).mp member))
          obtain ⟨sameFields, sameRest⟩ :=
            joined_readable (by decide) (by decide)
              (fun field _ _ begins => by
                simp [fieldText, quote] at begins)
              readable same
          refine ⟨?_, sameRest⟩
          simp only [canonical, canonicalFields_eq, byKey_map, sameFields]
      | _ =>
          cases kinds

/-- Values with the same text are the same up to the order of fields. -/
theorem canonical_eq
    {first second : Json NumberText τ}
    (same : stableSerialize first = stableSerialize second) :
    canonical first = canonical second := by
  have nothing : Delimited [] := by
    intro character impossible
    cases impossible
  exact
    (stableSerialize_readable first second [] [] nothing nothing
      (by rw [same])).1

end JsonText
