import Mathlib.Data.List.Basic
import Mathlib.Data.String.Basic

/-!
# Texts in UTF-16

A text of a script is a list of code units.  Two surrogates, a high one before
a low one, are one character above the first 65536; a surrogate on its own is
no character, and an encoder writes the replacement character for it.
-/

namespace Utf16

/-- A code unit. -/
abbrev CodeUnit := Fin 65536

/-- The first unit of a pair. -/
def IsHigh (unit : CodeUnit) : Prop :=
  0xd800 ≤ unit.val ∧ unit.val < 0xdc00
  deriving Decidable

/-- The second unit of a pair. -/
def IsLow (unit : CodeUnit) : Prop :=
  0xdc00 ≤ unit.val ∧ unit.val < 0xe000
  deriving Decidable

/-- What is written for a surrogate on its own. -/
def replacementCharacter : Char := Char.ofNat 0xfffd

/-! ## Characters and units -/

/-- The unit of a small number. -/
def unitOf (count : Nat) : CodeUnit := Fin.ofNat 65536 count

/-- The units of a character. -/
def encodeCharacter (character : Char) : List CodeUnit :=
  if character.toNat < 0x10000 then [unitOf character.toNat]
  else
    [unitOf (0xd800 + (character.toNat - 0x10000) / 0x400),
      unitOf (0xdc00 + (character.toNat - 0x10000) % 0x400)]

/-- The units of a text. -/
def encode (characters : List Char) : List CodeUnit :=
  characters.flatMap encodeCharacter

/-- The character of a unit that is not in a pair. -/
def single (unit : CodeUnit) : Char :=
  if IsHigh unit ∨ IsLow unit then replacementCharacter
  else Char.ofNat unit.val

/-- The character of a pair. -/
def paired (high low : CodeUnit) : Char :=
  Char.ofNat
    (0x10000 + (high.val - 0xd800) * 0x400 + (low.val - 0xdc00))

/-- The characters that an encoder reads from a list of units. -/
def decode : List CodeUnit → List Char
  | first :: second :: rest =>
      if IsHigh first ∧ IsLow second then
        paired first second :: decode rest
      else single first :: decode (second :: rest)
  | [unit] => [single unit]
  | [] => []

/-- The text with the replacement character for every lone surrogate. -/
def toWellFormed (units : List CodeUnit) : List CodeUnit :=
  encode (decode units)

section Laws

variable {character : Char} {characters others : List Char}
  {unit first second : CodeUnit} {units rest : List CodeUnit}

theorem val_unitOf {count : Nat} (small : count < 65536) :
    (unitOf count).val = count :=
  Nat.mod_eq_of_lt small

/-- A character is not a surrogate and not too large. -/
theorem toNat_valid (character : Char) :
    character.toNat < 0xd800 ∨
      0xdfff < character.toNat ∧ character.toNat < 0x110000 :=
  character.valid

/-- A unit after the first of a pair that is not low stands on its own. -/
theorem decode_cons_of_not_low
    (notLow : ∀ next ∈ units.head?, ¬ IsLow next) :
    decode (unit :: units) = single unit :: decode units := by
  rcases units with _ | ⟨next, rest⟩
  · rfl
  · have isNext : ¬ IsLow next := notLow next rfl
    simp [decode, isNext]

/-- A unit that is not high stands on its own. -/
theorem decode_cons_of_not_high (notHigh : ¬ IsHigh unit) :
    decode (unit :: units) = single unit :: decode units := by
  rcases units with _ | ⟨next, rest⟩
  · rfl
  · simp [decode, notHigh]

/-- The units of a character are read back, whatever follows them. -/
theorem decode_encodeCharacter :
    decode (encodeCharacter character ++ rest) =
      character :: decode rest := by
  have isValid := toNat_valid character
  by_cases small : character.toNat < 0x10000
  · have isValue := val_unitOf small
    have notHigh : ¬ IsHigh (unitOf character.toNat) := by
      unfold IsHigh
      omega
    have notLow : ¬ IsLow (unitOf character.toNat) := by
      unfold IsLow
      omega
    simp only [encodeCharacter, small, if_true, List.cons_append,
      List.nil_append, decode_cons_of_not_high notHigh, single, notHigh,
      notLow, or_self, if_false, isValue, Char.ofNat_toNat]
  · have isHighValue :=
      @val_unitOf
        (0xd800 + (character.toNat - 0x10000) / 0x400)
        (by omega)
    have isLowValue :=
      @val_unitOf
        (0xdc00 + (character.toNat - 0x10000) % 0x400)
        (by omega)
    have isHigh :
        IsHigh
          (unitOf (0xd800 + (character.toNat - 0x10000) / 0x400)) := by
      unfold IsHigh
      omega
    have isLow :
        IsLow
          (unitOf (0xdc00 + (character.toNat - 0x10000) % 0x400)) := by
      unfold IsLow
      omega
    have isCharacter :
        0x10000 +
            (0xd800 + (character.toNat - 0x10000) / 0x400 - 0xd800) *
              0x400 +
            (0xdc00 + (character.toNat - 0x10000) % 0x400 - 0xdc00) =
          character.toNat := by
      omega
    simp only [encodeCharacter, small, if_false, List.cons_append,
      List.nil_append, decode, isHigh, isLow, and_self, if_true, paired,
      isHighValue, isLowValue, isCharacter, Char.ofNat_toNat]

/-- A text is read back from its units, whatever follows them. -/
theorem decode_encode_append :
    decode (encode characters ++ rest) = characters ++ decode rest := by
  induction characters with
  | nil =>
      rfl
  | cons character characters inductionHypothesis =>
      rw [encode, List.flatMap_cons, List.append_assoc,
        decode_encodeCharacter]
      exact congrArg (character :: ·) inductionHypothesis

/-- A text is read back from its units. -/
theorem decode_encode : decode (encode characters) = characters := by
  have isRead := @decode_encode_append characters []
  simpa [decode] using isRead

/-- A text is determined by its units. -/
theorem encode_injective : Function.Injective encode :=
  Function.LeftInverse.injective fun _ => decode_encode

/-- A text may be cut before a unit that is not the second of a pair. -/
theorem decode_append
    (notLow : ∀ next ∈ rest.head?, ¬ IsLow next) :
    decode (units ++ rest) = decode units ++ decode rest := by
  fun_induction decode units with
  | case1 first second units isPair inductionHypothesis =>
      simp only [List.cons_append, decode, isPair, and_self, if_true,
        inductionHypothesis]
  | case2 first second units notPair inductionHypothesis =>
      simp only [List.cons_append] at inductionHypothesis ⊢
      simp only [decode, notPair, if_false, inductionHypothesis]
  | case3 unit =>
      simp [decode_cons_of_not_low notLow]
  | case4 =>
      rfl

/-- The units of a character do not begin with a low surrogate. -/
theorem not_low_of_encode :
    ∀ next ∈ (encode (character :: characters) ++ rest).head?,
      ¬ IsLow next := by
  have isValid := toNat_valid character
  by_cases small : character.toNat < 0x10000
  · have isValue := val_unitOf small
    simp only [encode, List.flatMap_cons, encodeCharacter, small, if_true,
      List.cons_append, List.head?_cons, Option.mem_some_iff,
      forall_eq', IsLow, isValue]
    omega
  · have isValue :=
      @val_unitOf
        (0xd800 + (character.toNat - 0x10000) / 0x400)
        (by omega)
    simp only [encode, List.flatMap_cons, encodeCharacter, small, if_false,
      List.cons_append, List.head?_cons, Option.mem_some_iff,
      forall_eq', IsLow, isValue]
    omega

/-! ## The length of a text -/

theorem toNat_ofNat
    {count : Nat}
    (isValid : count.isValidChar) :
    (Char.ofNat count).toNat = count := by
  rw [Char.ofNat, dif_pos isValid]
  rfl

theorem length_encodeCharacter_pos :
    0 < (encodeCharacter character).length := by
  unfold encodeCharacter
  split <;> simp

theorem length_encode_cons :
    (encode (character :: characters)).length =
      (encodeCharacter character).length + (encode characters).length := by
  simp [encode]

/-- A unit on its own is read as a character of one unit. -/
theorem length_encode_single : (encodeCharacter (single unit)).length = 1 := by
  unfold single
  by_cases surrogate : IsHigh unit ∨ IsLow unit
  · rw [if_pos surrogate]
    rfl
  · rw [if_neg surrogate]
    unfold IsHigh IsLow at surrogate
    have isValid : unit.val.isValidChar := by
      unfold Nat.isValidChar
      omega
    have small : (Char.ofNat unit.val).toNat < 0x10000 := by
      rw [toNat_ofNat isValid]
      exact unit.isLt
    simp [encodeCharacter, small]

/-- A pair is read as a character of two units. -/
theorem length_encode_paired
    (isHigh : IsHigh first)
    (isLow : IsLow second) :
    (encodeCharacter (paired first second)).length = 2 := by
  unfold IsHigh at isHigh
  unfold IsLow at isLow
  have isValid :
      (0x10000 + (first.val - 0xd800) * 0x400 +
        (second.val - 0xdc00)).isValidChar := by
    unfold Nat.isValidChar
    omega
  have large : ¬ (paired first second).toNat < 0x10000 := by
    rw [paired, toNat_ofNat isValid]
    omega
  simp [encodeCharacter, large]

/-- Replacing lone surrogates does not change the length. -/
theorem length_toWellFormed :
    (toWellFormed units).length = units.length := by
  unfold toWellFormed
  fun_induction decode units with
  | case1 first second units isPair inductionHypothesis =>
      rw [length_encode_cons, length_encode_paired isPair.1 isPair.2,
        inductionHypothesis]
      simp only [List.length_cons]
      omega
  | case2 first second units notPair inductionHypothesis =>
      rw [length_encode_cons, length_encode_single, inductionHypothesis]
      simp only [List.length_cons]
      omega
  | case3 unit =>
      rw [length_encode_cons, length_encode_single]
      rfl
  | case4 =>
      rfl

/-- Replacing lone surrogates gives the same characters. -/
theorem toWellFormed_eq_iff :
    toWellFormed units = toWellFormed rest ↔ decode units = decode rest :=
  encode_injective.eq_iff

/-- The well-formed text of characters is theirs. -/
theorem toWellFormed_encode :
    toWellFormed (encode characters) = encode characters := by
  rw [toWellFormed, decode_encode]

/-- Texts of one length that begin another text are the same. -/
theorem append_cancel
    {more later : List Char}
    (sameLength : (encode characters).length = (encode others).length)
    (same : characters ++ more = others ++ later) :
    characters = others ∧ more = later := by
  induction characters generalizing others with
  | nil =>
      rcases others with _ | ⟨other, others⟩
      · exact ⟨rfl, same⟩
      · rw [length_encode_cons] at sameLength
        have positive := @length_encodeCharacter_pos other
        simp only [encode, List.flatMap_nil, List.length_nil] at sameLength
        omega
  | cons character characters inductionHypothesis =>
      rcases others with _ | ⟨other, others⟩
      · rw [length_encode_cons] at sameLength
        have positive := @length_encodeCharacter_pos character
        simp only [encode, List.flatMap_nil, List.length_nil] at sameLength
        omega
      · obtain ⟨isFirst, isRest⟩ := List.cons.inj same
        rw [length_encode_cons, length_encode_cons, isFirst] at sameLength
        obtain ⟨sameRest, sameLater⟩ :=
          inductionHypothesis (by omega) isRest
        exact ⟨by rw [isFirst, sameRest], sameLater⟩

/-- The units of a pair are read back. -/
theorem encodeCharacter_paired
    (isHigh : IsHigh first)
    (isLow : IsLow second) :
    encodeCharacter (paired first second) = [first, second] := by
  unfold IsHigh at isHigh
  unfold IsLow at isLow
  have isValid :
      (0x10000 + (first.val - 0xd800) * 0x400 +
        (second.val - 0xdc00)).isValidChar := by
    unfold Nat.isValidChar
    omega
  have isNumber := toNat_ofNat isValid
  have large : ¬ (paired first second).toNat < 0x10000 := by
    rw [paired, isNumber]
    omega
  rw [encodeCharacter, if_neg large, paired, isNumber]
  simp only [List.cons.injEq, and_true, Fin.ext_iff, unitOf,
    Fin.val_ofNat]
  omega

/-- The unit of a character that is no surrogate is read back. -/
theorem encodeCharacter_ofNat (notSurrogate : ¬ (IsHigh unit ∨ IsLow unit)) :
    encodeCharacter (Char.ofNat unit.val) = [unit] := by
  unfold IsHigh IsLow at notSurrogate
  have isValid : unit.val.isValidChar := by
    unfold Nat.isValidChar
    omega
  rw [encodeCharacter, toNat_ofNat isValid, if_pos unit.isLt]
  simp [unitOf]

end Laws

/-! ## Types of texts -/

/-- A type of texts that their units determine. -/
class Utf16Text (τ : Type) where
  units : τ → List CodeUnit
  ofUnits : List CodeUnit → τ
  ofUnits_units : ∀ text, ofUnits (units text) = text

instance : Utf16Text String where
  units text := encode text.toList
  ofUnits units := String.ofList (decode units)
  ofUnits_units text := by rw [decode_encode, String.ofList_toList]

instance : Utf16Text (List CodeUnit) where
  units := id
  ofUnits := id
  ofUnits_units _ := rfl

/-- Texts of the same units are the same. -/
theorem Utf16Text.units_injective {τ : Type} [Utf16Text τ] :
    Function.Injective (@Utf16Text.units τ _) :=
  Function.LeftInverse.injective ofUnits_units

end Utf16
