import Sparkz.Text
import Sparkz.Utf16

namespace Sparkz

open Utf16

/-!
# Texts as the code holds them

A text of a request is a list of UTF-16 units, unpaired surrogates included.
Digests and the driver of the database encode it, and the replacement character
stands for an unpaired surrogate then; so a column holds characters only.
-/

/-- A text as the code holds it, unpaired surrogates included. -/
abbrev JsString := List CodeUnit

/-- The units of a text without unpaired surrogates. -/
def jsString (text : String) : JsString :=
  encode text.toList

namespace JsString

/-- The characters that an encoder reads from a text. -/
def encoded (text : JsString) : String :=
  String.ofList (decode text)

/-- A text without unpaired surrogates. -/
def IsWellFormed (text : JsString) : Prop :=
  toWellFormed text = text
  deriving Decidable

/-- An optional text used as a condition: absent and empty are both false. -/
def truthy : Option JsString → Bool
  | none => false
  | some text => text != []

/-- `text || null`. -/
def orNull (text : Option JsString) : Option JsString :=
  if truthy text then text else none

end JsString

/-- `text.slice(0, length)`, which may cut a pair, as it is stored. -/
def sliceText (text : String) (length : Nat) : String :=
  JsString.encoded ((jsString text).take length)

section Encoding

variable {first second : JsString}

theorem jsString_injective : Function.Injective jsString := by
  intro text other same
  exact String.toList_injective (encode_injective same)

/-- A text without unpaired surrogates is read as it is. -/
@[simp] theorem encoded_jsString (text : String) :
    (jsString text).encoded = text := by
  rw [JsString.encoded, jsString, decode_encode, String.ofList_toList]

/-- The text that an encoder reads is the one with replacements. -/
theorem jsString_encoded (text : JsString) :
    jsString text.encoded = toWellFormed text := by
  rw [jsString, JsString.encoded, String.toList_ofList, toWellFormed]

theorem encoded_eq_iff :
    first.encoded = second.encoded ↔
      toWellFormed first = toWellFormed second := by
  rw [toWellFormed_eq_iff, JsString.encoded, JsString.encoded,
    String.ofList_inj]

/-- A text survives its encoding exactly without unpaired surrogates. -/
theorem JsString.isWellFormed_iff :
    first.IsWellFormed ↔ jsString first.encoded = first := by
  rw [jsString_encoded]
  rfl

theorem isWellFormed_jsString (text : String) :
    (jsString text).IsWellFormed := by
  rw [JsString.isWellFormed_iff, encoded_jsString]

theorem jsString_eq_nil {text : String} : jsString text = [] ↔ text = "" := by
  constructor
  · intro isEmpty
    exact jsString_injective (isEmpty.trans (by rfl : [] = jsString ""))
  · rintro rfl
    rfl

/-- Only the empty text is read as one. -/
theorem encoded_eq_empty : first.encoded = "" ↔ first = [] := by
  constructor
  · intro isEmpty
    have isLength := @length_toWellFormed first
    rw [← jsString_encoded, jsString_eq_nil.mpr isEmpty,
      List.length_nil] at isLength
    exact List.length_eq_zero_iff.mp isLength.symm
  · rintro rfl
    rfl

end Encoding

/-! ## Optional texts -/

section Optional

variable {text : Option JsString}

theorem truthy_map_encoded :
    truthy (text.map JsString.encoded) = JsString.truthy text := by
  cases text with
  | none => rfl
  | some text =>
      rw [Bool.eq_iff_iff]
      simp [truthy, JsString.truthy, encoded_eq_empty]

/-- An empty text is dropped before or after its encoding. -/
theorem orNull_map_encoded :
    orNull (text.map JsString.encoded) =
      (JsString.orNull text).map JsString.encoded := by
  rw [orNull, JsString.orNull, truthy_map_encoded]
  split <;> rfl

/-- A text that is not empty is chosen over a fallback. -/
theorem orText_map_encoded
    {value : JsString}
    (isText : JsString.orNull text = some value)
    (fallback : String) :
    orText (text.map JsString.encoded) fallback = value.encoded := by
  rw [orText, orNull_map_encoded, isText]
  rfl

theorem JsString.orNull_map_jsString {text : Option String} :
    JsString.orNull (text.map jsString) =
      (Sparkz.orNull text).map jsString := by
  cases text with
  | none => rfl
  | some text =>
      by_cases empty : text = ""
      · subst empty
        rfl
      · have notNil : jsString text ≠ [] := jsString_eq_nil.not.mpr empty
        simp [JsString.orNull, Sparkz.orNull, JsString.truthy,
          Sparkz.truthy, empty, notNil]

theorem JsString.orNull_eq_some {value : JsString} :
    JsString.orNull text = some value ↔ text = some value ∧ value ≠ [] := by
  cases text with
  | none => simp [JsString.orNull, JsString.truthy]
  | some content =>
      by_cases empty : content = []
      · subst empty
        simp [JsString.orNull, JsString.truthy]
      · simp only [JsString.orNull, JsString.truthy, bne_iff_ne, ne_eq,
          empty, not_false_eq_true, if_true, Option.some.injEq]
        constructor
        · rintro rfl
          exact ⟨rfl, empty⟩
        · exact And.left

/-- A text is a condition exactly when `|| null` keeps it. -/
theorem JsString.truthy_iff :
    JsString.truthy text = true ↔
      ∃ value, JsString.orNull text = some value := by
  cases text with
  | none =>
      simp [JsString.truthy, JsString.orNull]
  | some content =>
      by_cases empty : content = []
      · simp [JsString.orNull, JsString.truthy, empty]
      · simp [JsString.orNull, JsString.truthy, empty]

/-- A stored text is read as it was exactly without unpaired surrogates. -/
theorem JsString.map_jsString_encoded_eq_iff :
    (text.map JsString.encoded).map jsString = text ↔
      ∀ value ∈ text, value.IsWellFormed := by
  cases text with
  | none => simp
  | some content => simp [JsString.isWellFormed_iff]

/-- A text that `|| null` has kept or dropped stays as it is. -/
theorem JsString.orNull_again (text : Option JsString) :
    JsString.orNull (JsString.orNull text) = JsString.orNull text := by
  cases isText : JsString.orNull text with
  | none => rfl
  | some value =>
      exact
        JsString.orNull_eq_some.mpr
          ⟨rfl, (JsString.orNull_eq_some.mp isText).2⟩

end Optional

end Sparkz
