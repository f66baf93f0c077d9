import Sparkz.Text

namespace Sparkz

/-!
# Canonical transaction hashes

A transaction hash is the chain-level idempotency key, so a malformed one can
not be built.  Storage holds the lower-case spelling only.
-/

/-- The digits that a hash may contain. -/
def hexDigits : List Char :=
  "0123456789abcdefABCDEF".toList

/-- `/^0x[0-9a-fA-F]{64}$/`. -/
def matchesHashPattern (text : String) : Bool :=
  match text.toList with
  | '0' :: 'x' :: digits =>
      digits.length == 64 && digits.all hexDigits.contains
  | _ => false

/-- A transaction hash in its canonical lower-case spelling. -/
structure TransactionHash where
  text : String
  wellFormed : matchesHashPattern text = true
  canonical : lowerText text = text
  deriving DecidableEq

/-- Lower case keeps a hex digit a hex digit, and does so once and for all. -/
theorem lower_hexDigit :
    ∀ digit ∈ hexDigits,
      hexDigits.contains digit.toLower = true ∧
        digit.toLower.toLower = digit.toLower := by
  have checked :
      hexDigits.all (fun digit =>
        hexDigits.contains digit.toLower &&
          digit.toLower.toLower == digit.toLower) = true := by
    decide +kernel
  intro digit member
  have both := List.all_eq_true.mp checked digit member
  rw [Bool.and_eq_true, beq_iff_eq] at both
  exact both

/-- The lower-case spelling of a hash is a hash. -/
theorem matchesHashPattern_lower
    {text : String}
    (matched : matchesHashPattern text = true) :
    matchesHashPattern (lowerText text) = true := by
  unfold matchesHashPattern at matched
  split at matched
  · rename_i digits shape
    simp only [Bool.and_eq_true, beq_iff_eq, List.all_eq_true,
      List.contains_iff_mem] at matched
    simp only [matchesHashPattern, lowerText, String.toList_ofList,
      shape, List.map_cons]
    have zero : Char.toLower '0' = '0' := by decide
    have ex : Char.toLower 'x' = 'x' := by decide
    simp only [zero, ex, List.length_map, matched.1, beq_self_eq_true,
      Bool.true_and, List.all_eq_true, List.mem_map]
    rintro _ ⟨digit, member, rfl⟩
    exact (lower_hexDigit digit (matched.2 digit member)).1
  · cases matched

/-- Lower case changes a hash once only. -/
theorem lowerText_lower
    {text : String}
    (matched : matchesHashPattern text = true) :
    lowerText (lowerText text) = lowerText text := by
  unfold matchesHashPattern at matched
  split at matched
  · rename_i digits shape
    simp only [Bool.and_eq_true, beq_iff_eq, List.all_eq_true,
      List.contains_iff_mem] at matched
    have stable :
        digits.map (Char.toLower ∘ Char.toLower) =
          digits.map Char.toLower :=
      List.map_congr_left fun digit member =>
        (lower_hexDigit digit (matched.2 digit member)).2
    have ex : (Char.toLower 'x').toLower = Char.toLower 'x' := by
      decide
    have zero : (Char.toLower '0').toLower = Char.toLower '0' := by
      decide
    simp only [lowerText, String.toList_ofList, List.map_map, shape,
      List.map_cons, stable, ex, zero]
  · cases matched

/-- The canonical hash that a text spells, if it spells one. -/
@[irreducible]
def canonicalTransactionHash (value : String) : Option TransactionHash :=
  if matched : matchesHashPattern (trimText value) = true then
    some
      { text := lowerText (trimText value)
        wellFormed := matchesHashPattern_lower matched
        canonical := lowerText_lower matched }
  else
    none

/-- A text without blanks is not trimmed. -/
theorem trimText_of_noBlank
    {text : String}
    (noBlank : ∀ character ∈ text.toList, isBlank character = false) :
    trimText text = text := by
  have kept :
      ∀ characters : List Char,
        (∀ character ∈ characters, isBlank character = false) →
        characters.dropWhile isBlank = characters := by
    intro characters none
    cases characters with
    | nil =>
        rfl
    | cons first rest =>
        simp [none first List.mem_cons_self]
  unfold trimText
  rw [kept _ noBlank, kept, List.reverse_reverse, String.ofList_toList]
  intro character member
  exact noBlank character (List.mem_reverse.mp member)

/-- A hash has no blanks around it. -/
theorem trimText_of_matches
    {text : String}
    (matched : matchesHashPattern text = true) :
    trimText text = text := by
  apply trimText_of_noBlank
  unfold matchesHashPattern at matched
  split at matched
  · rename_i digits shape
    simp only [Bool.and_eq_true, List.all_eq_true,
      List.contains_iff_mem] at matched
    have digitsBlank :
        hexDigits.all (fun digit => !isBlank digit) = true := by
      decide
    intro character member
    rw [shape] at member
    rcases List.mem_cons.mp member with rfl | member
    · rfl
    rcases List.mem_cons.mp member with rfl | member
    · rfl
    have notBlank :=
      List.all_eq_true.mp digitsBlank character
        (matched.2 character member)
    simpa using notBlank
  · cases matched

/-- A hash is the canonical hash of its own text. -/
@[simp] theorem canonicalTransactionHash_text (hash : TransactionHash) :
    canonicalTransactionHash hash.text = some hash := by
  rcases hash with ⟨text, wellFormed, canonical⟩
  unfold canonicalTransactionHash
  have trimmed := trimText_of_matches wellFormed
  simp only [trimmed, wellFormed, dite_true, canonical]

end Sparkz
