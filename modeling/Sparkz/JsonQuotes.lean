import Sparkz.Utf16

namespace JsonText

/-!
# Quoted texts in JSON

A text stands between quotation marks, unit by unit.  Quotation marks, control
characters and unpaired surrogates are escaped, and a reader finds the units
again, whatever follows the closing mark.
-/

open Utf16

/-! ## Writing -/

/-- The characters with an escape of their own, and its mark. -/
def shortEscapes : List (Char × Char) :=
  [('"', '"'), ('\\', '\\'), ('\x08', 'b'), ('\t', 't'), ('\n', 'n'),
    ('\x0c', 'f'), ('\r', 'r')]

def hexDigit (digit : Nat) : Char :=
  if digit < 10 then Char.ofNat (48 + digit) else Char.ofNat (87 + digit)

/-- The four digits of a unit. -/
def hexDigits (unit : CodeUnit) : List Char :=
  [hexDigit (unit.val / 4096), hexDigit (unit.val / 256 % 16),
    hexDigit (unit.val / 16 % 16), hexDigit (unit.val % 16)]

/-- The escape of a unit by its digits. -/
def unicodeEscape (unit : CodeUnit) : List Char :=
  '\\' :: 'u' :: hexDigits unit

/-- A character between quotes. -/
def escapeCharacter (character : Char) : List Char :=
  match shortEscapes.lookup character with
  | some mark => ['\\', mark]
  | none =>
      if character.toNat < 32 then unicodeEscape (unitOf character.toNat)
      else [character]

/-- A unit between quotes that is not in a pair. -/
def escapeUnit (unit : CodeUnit) : List Char :=
  if IsHigh unit ∨ IsLow unit then unicodeEscape unit
  else escapeCharacter (Char.ofNat unit.val)

/-- Units between quotes. -/
def escapeUnits : List CodeUnit → List Char
  | first :: second :: rest =>
      if IsHigh first ∧ IsLow second then
        escapeCharacter (paired first second) ++ escapeUnits rest
      else escapeUnit first ++ escapeUnits (second :: rest)
  | [unit] => escapeUnit unit
  | [] => []

/-- `JSON.stringify(text)`. -/
def quote {τ : Type} [Utf16Text τ] (text : τ) : List Char :=
  '"' :: escapeUnits (Utf16Text.units text) ++ ['"']

/-! ## Reading -/

/-- The value of a hexadecimal digit. -/
def hexadecimal (character : Char) : Option Nat :=
  if '0' ≤ character ∧ character ≤ '9' then some (character.toNat - 48)
  else if 'a' ≤ character ∧ character ≤ 'f' then
    some (character.toNat - 87)
  else if 'A' ≤ character ∧ character ≤ 'F' then
    some (character.toNat - 55)
  else none

/-- The unit of four hexadecimal digits. -/
def hexadecimalUnit (digits : List Char) : Option CodeUnit :=
  (digits.mapM hexadecimal).map fun values =>
    unitOf (values.foldl (fun value digit => 16 * value + digit) 0)

/-- The character of an escape with a mark. -/
def escaped (mark : Char) : Option Char :=
  (('/', '/') :: shortEscapes.map Prod.swap).lookup mark

/-- The units up to the closing quotation mark, and what follows it. -/
def readUnits : List Char → Option (List CodeUnit × List Char)
  | [] => none
  | '"' :: rest => some ([], rest)
  | '\\' :: 'u' :: first :: second :: third :: fourth :: rest => do
      let unit ← hexadecimalUnit [first, second, third, fourth]
      let (units, after) ← readUnits rest
      return (unit :: units, after)
  | '\\' :: mark :: rest => do
      let character ← escaped mark
      let (units, after) ← readUnits rest
      return (encodeCharacter character ++ units, after)
  | character :: rest =>
      if character = '\\' ∨ character.toNat < 32 then none
      else do
        let (units, after) ← readUnits rest
        return (encodeCharacter character ++ units, after)

/-- A text after its opening quotation mark. -/
def readText {τ : Type} [Utf16Text τ] (characters : List Char) :
    Option (τ × List Char) :=
  (readUnits characters).map fun (units, after) =>
    (Utf16Text.ofUnits units, after)

/-! ## What is written is read back -/

section Quoted

variable {character : Char} {units others : List CodeUnit}
  {unit : CodeUnit} {rest otherRest : List Char}

/-- Units are put in front of the units that were read. -/
def inFront
    (units : List CodeUnit)
    (answer : Option (List CodeUnit × List Char)) :
    Option (List CodeUnit × List Char) :=
  answer.map fun (later, after) => (units ++ later, after)

theorem hexadecimal_hexDigit :
    ∀ digit < 16, hexadecimal (hexDigit digit) = some digit := by
  decide

/-- A unit is read from its four digits. -/
theorem hexadecimalUnit_hexDigits :
    hexadecimalUnit (hexDigits unit) = some unit := by
  have small := unit.isLt
  have first := hexadecimal_hexDigit (unit.val / 4096) (by omega)
  have second := hexadecimal_hexDigit (unit.val / 256 % 16) (by omega)
  have third := hexadecimal_hexDigit (unit.val / 16 % 16) (by omega)
  have fourth := hexadecimal_hexDigit (unit.val % 16) (by omega)
  have isValue :
      16 * (16 * (16 * (16 * 0 + unit.val / 4096) + unit.val / 256 % 16) +
          unit.val / 16 % 16) + unit.val % 16 =
        unit.val := by
    omega
  simp only [hexadecimalUnit, hexDigits, List.mapM_cons, List.mapM_nil,
    first, second, third, fourth, Option.pure_def, Option.bind_eq_bind,
    Option.bind_some, Option.map_some, List.foldl_cons, List.foldl_nil,
    isValue, unitOf, Option.some.injEq]
  exact Fin.ext (Nat.mod_eq_of_lt small)

/-- A unit that is escaped by its digits is read back. -/
theorem readUnits_unicodeEscape :
    readUnits (unicodeEscape unit ++ rest) =
      inFront [unit] (readUnits rest) := by
  have isUnit := @hexadecimalUnit_hexDigits unit
  unfold hexDigits at isUnit
  simp only [unicodeEscape, hexDigits, List.cons_append, List.nil_append,
    readUnits, isUnit]
  rcases readUnits rest with _ | ⟨later, after⟩
  · rfl
  · rfl

/-- An escaped character is read back as its units. -/
theorem readUnits_escapeCharacter :
    readUnits (escapeCharacter character ++ rest) =
      inFront (encodeCharacter character) (readUnits rest) := by
  by_cases short : ∃ mark, (character, mark) ∈ shortEscapes
  · obtain ⟨mark, member⟩ := short
    simp only [shortEscapes, List.mem_cons, Prod.mk.injEq,
      List.not_mem_nil, or_false] at member
    rcases member with ⟨rfl, rfl⟩ | ⟨rfl, rfl⟩ | ⟨rfl, rfl⟩ | ⟨rfl, rfl⟩ |
      ⟨rfl, rfl⟩ | ⟨rfl, rfl⟩ | ⟨rfl, rfl⟩
    all_goals
      rcases isRead : readUnits rest with _ | ⟨later, after⟩
      · simp [escapeCharacter, shortEscapes, List.lookup_cons, readUnits,
          isRead, inFront, escaped]
      · simp [escapeCharacter, shortEscapes, List.lookup_cons, readUnits,
          isRead, inFront, escaped]
  · have noShort : shortEscapes.lookup character = none := by
      rw [List.lookup_eq_none_iff]
      intro entry member
      rw [bne_iff_ne]
      intro same
      exact short ⟨entry.2, same ▸ member⟩
    have notQuote : character ≠ '"' := by
      intro isQuote
      exact short ⟨'"', by simp [isQuote, shortEscapes]⟩
    have notBackslash : character ≠ '\\' := by
      intro isBackslash
      exact short ⟨'\\', by simp [isBackslash, shortEscapes]⟩
    by_cases control : character.toNat < 32
    · have isCharacter :
          encodeCharacter character = [unitOf character.toNat] := by
        rw [encodeCharacter, if_pos (by omega)]
      simp only [escapeCharacter, noShort, control, if_true,
        readUnits_unicodeEscape, isCharacter]
    · simp only [escapeCharacter, noShort, control, if_false,
        List.cons_append, List.nil_append]
      rw [readUnits]
      · simp only [notBackslash, control, or_self, if_false]
        rcases readUnits rest with _ | ⟨later, after⟩
        · rfl
        · rfl
      · exact notQuote
      · intro first second third fourth later isBackslash
        exact absurd isBackslash notBackslash
      · intro mark later isBackslash
        exact absurd isBackslash notBackslash

theorem readUnits_escapeUnit :
    readUnits (escapeUnit unit ++ rest) =
      inFront [unit] (readUnits rest) := by
  unfold escapeUnit
  split
  · exact readUnits_unicodeEscape
  · rename_i notSurrogate
    rw [readUnits_escapeCharacter, encodeCharacter_ofNat notSurrogate]

/-- The units of a text are read up to its closing quotation mark. -/
theorem readUnits_quoted :
    readUnits (escapeUnits units ++ '"' :: rest) = some (units, rest) := by
  fun_induction escapeUnits units with
  | case1 first second units isPair inductionHypothesis =>
      rw [List.append_assoc, readUnits_escapeCharacter,
        inductionHypothesis, encodeCharacter_paired isPair.1 isPair.2]
      rfl
  | case2 first second units notPair inductionHypothesis =>
      rw [List.append_assoc, readUnits_escapeUnit, inductionHypothesis]
      rfl
  | case3 unit =>
      rw [readUnits_escapeUnit]
      rfl
  | case4 =>
      rfl

variable {τ : Type} [Utf16Text τ] {first second : τ}

/-- A text is read back. -/
theorem readText_quoted :
    readText (escapeUnits (Utf16Text.units first) ++ '"' :: rest) =
      some (first, rest) := by
  rw [readText, readUnits_quoted, Option.map_some]
  simp only [Utf16Text.ofUnits_units]

/-- What stands between quotes is determined, and so is what follows. -/
theorem quote_readable
    (same : quote first ++ rest = quote second ++ otherRest) :
    first = second ∧ rest = otherRest := by
  simp only [quote, List.cons_append, List.append_assoc,
    List.nil_append, List.cons.injEq, true_and] at same
  have isRead := congrArg (readText (τ := τ)) same
  rw [readText_quoted, readText_quoted] at isRead
  exact Prod.mk.inj (Option.some.inj isRead)

end Quoted

end JsonText
