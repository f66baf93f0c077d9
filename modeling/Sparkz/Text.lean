import Mathlib.Algebra.BigOperators.Group.List.Basic
import Mathlib.Algebra.Ring.Nat

namespace Sparkz

/-!
# Text as the code compares it

Addresses, keys and hashes are ASCII texts.  Every comparison of addresses in
the code and in its SQL goes through lower case, so the functions here work on
the characters one by one.
-/

/-- `toLowerCase()` and SQL `lower`, on the ASCII texts both are applied to. -/
def lowerText (text : String) : String :=
  String.ofList (text.toList.map Char.toLower)

/-- `text.toUpperCase()` of an ASCII text. -/
def upperText (text : String) : String :=
  String.ofList (text.toList.map Char.toUpper)

/-- `text.startsWith(mark)`. -/
def hasPrefix (text mark : String) : Bool :=
  mark.toList.isPrefixOf text.toList

/-- `text.includes(part)`. -/
def includesText (text part : String) : Bool :=
  text.toList.tails.any fun rest => part.toList.isPrefixOf rest

/-- `text.length`, in UTF-16 code units. -/
def codeUnits (text : String) : Nat :=
  (text.toList.map fun character =>
    if character.toNat < 0x10000 then 1 else 2).sum

/-- `text.split(':', 1)[0]`. -/
def beforeColon (text : String) : String :=
  String.ofList (text.toList.takeWhile (· != ':'))

/-- The white space and line ends that `trim()` removes. -/
def isBlank (character : Char) : Bool :=
  character == ' ' || character == '\t' || character == '\n' ||
    character == '\r' || character == '\x0b' || character == '\x0c' ||
    [0xa0, 0x1680, 0x2028, 0x2029, 0x202f, 0x205f, 0x3000, 0xfeff].contains
      character.toNat ||
    (0x2000 ≤ character.toNat && character.toNat ≤ 0x200a)

/-- `text.trim()`. -/
def trimText (text : String) : String :=
  String.ofList
    ((text.toList.dropWhile isBlank).reverse.dropWhile isBlank).reverse

/-- An optional text used as a condition: absent and empty are both false. -/
def truthy : Option String → Bool
  | none => false
  | some text => text != ""

/-- `text || null`. -/
def orNull (text : Option String) : Option String :=
  if truthy text then text else none

/-- `text || fallback`. -/
def orText (text : Option String) (fallback : String) : String :=
  (orNull text).getD fallback

/-- A text that begins with a mark does so in front of more text. -/
theorem hasPrefix_append (mark rest : String) :
    hasPrefix (mark ++ rest) mark = true := by
  simp [hasPrefix, List.isPrefixOf_iff_prefix]

@[simp] theorem orNull_none : orNull none = none :=
  rfl

/-- What is left after `|| null` is never empty. -/
theorem orNull_eq_some
    {text : Option String}
    {value : String} :
    orNull text = some value ↔
      text = some value ∧ value ≠ "" := by
  cases text with
  | none =>
      simp
  | some content =>
      by_cases empty : content = ""
      · subst empty
        simp [orNull, truthy]
      · simp only [orNull, truthy, bne_iff_ne, ne_eq, empty,
          not_false_eq_true, if_true, Option.some.injEq]
        constructor
        · rintro rfl
          exact ⟨rfl, empty⟩
        · exact And.left

/-- A text that `|| null` has kept or dropped stays as it is. -/
theorem orNull_again (text : Option String) :
    orNull (orNull text) = orNull text := by
  cases isText : orNull text with
  | none =>
      rfl
  | some value =>
      exact
        orNull_eq_some.mpr ⟨rfl, (orNull_eq_some.mp isText).2⟩

/-- What `||` has chosen over a fallback is chosen over it again. -/
theorem orText_again (text : Option String) (fallback : String) :
    orText (some (orText text fallback)) fallback =
      orText text fallback := by
  unfold orText
  cases isText : orNull text with
  | none =>
      by_cases empty : fallback = ""
      · subst empty
        rfl
      · have kept : orNull (some fallback) = some fallback :=
          orNull_eq_some.mpr ⟨rfl, empty⟩
        simp [kept]
  | some value =>
      have kept : orNull (some value) = some value :=
        orNull_eq_some.mpr ⟨rfl, (orNull_eq_some.mp isText).2⟩
      simp [kept]

/-- Lower case has no upper-case letters left. -/
theorem toLower_toLower (character : Char) :
    character.toLower.toLower = character.toLower := by
  by_cases upper : character.val ≥ 'A'.val ∧ character.val ≤ 'Z'.val
  · have lowered :
        ¬(character.toLower.val ≥ 'A'.val ∧
          character.toLower.val ≤ 'Z'.val) := by
      have isLower :
          character.toLower.val = character.val + ('a'.val - 'A'.val) := by
        delta Char.toLower
        simp only [upper, and_self, dite_true]
      rw [isLower]
      simp only [ge_iff_le, UInt32.le_iff_toNat_le, UInt32.toNat_add] at upper ⊢
      have first : 'A'.val.toNat = 65 := rfl
      have last : 'Z'.val.toNat = 90 := rfl
      have step : ('a'.val - 'A'.val).toNat = 32 := rfl
      omega
    generalize character.toLower = lower at lowered
    delta Char.toLower
    rw [dif_neg lowered]
  · have same : character.toLower = character := by
      delta Char.toLower
      rw [dif_neg upper]
    rw [same, same]

/-- Lower case is in lower case. -/
theorem lowerText_lowerText (text : String) :
    lowerText (lowerText text) = lowerText text := by
  have characters :
      (text.toList.map Char.toLower).map Char.toLower =
        text.toList.map Char.toLower := by
    rw [List.map_map]
    exact List.map_congr_left fun character _ => toLower_toLower character
  rw [lowerText, lowerText, String.toList_ofList, characters]

end Sparkz
