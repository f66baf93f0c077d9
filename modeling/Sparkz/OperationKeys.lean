import Sparkz.TokenOperation
import Sparkz.JsStrings

namespace Sparkz

open Utf16

/-!
# Keys of operations

An operation key is the digest of a pair of texts, each behind its length, so
the pair can be read back from what is digested.  Lengths count code units, and
`hash.update(text)` digests the characters that an encoder reads from them.
-/

/-- The tuple that an operation key digests. -/
def operationTuple (first second : JsString) : JsString :=
  jsString (toString first.length ++ ":") ++ first ++
    jsString (toString second.length ++ ":") ++ second

namespace JsString

variable (sha256 : String → String)

/-- `awardOperationKey(providerId, sessionId)`. -/
def awardOperationKey (providerId sessionId : JsString) : JsString :=
  jsString
    ("award:" ++ sha256 (encoded (operationTuple providerId sessionId)))

/-- `spendOperationKey(uid, idempotencyKey)`. -/
def spendOperationKey (uid idempotencyKey : JsString) : JsString :=
  jsString ("spend:" ++ sha256 (encoded (operationTuple uid idempotencyKey)))

/-- `reservationOperationKey(reservationId)`. -/
def reservationOperationKey (reservationId : JsString) : JsString :=
  jsString "reservation:" ++ reservationId

end JsString

/-! ## Pairs behind their lengths -/

section Pairs

variable {left right otherLeft otherRight : String}

/-- The length of a text is the number of its code units. -/
theorem codeUnits_eq (text : String) :
    codeUnits text = (encode text.toList).length := by
  unfold codeUnits
  induction text.toList with
  | nil =>
      rfl
  | cons character characters inductionHypothesis =>
      rw [List.map_cons, List.sum_cons, inductionHypothesis,
        length_encode_cons]
      congr 1
      unfold encodeCharacter
      split <;> rfl

/-- Digits in front of a colon are determined by what they begin. -/
theorem length_readable
    {count other : Nat}
    {rest others : List Char}
    (same :
      (toString count).toList ++ ':' :: rest =
        (toString other).toList ++ ':' :: others) :
    count = other ∧ rest = others := by
  simp only [Nat.toString_eq_repr, Nat.toList_repr] at same
  have notDigit :
      ∀ number : Nat, ':' ∉ Nat.toDigits 10 number := by
    intro number isDigit
    have impossible :=
      Nat.isDigit_of_mem_toDigits (b := 10) (by decide) (by decide) isDigit
    revert impossible
    decide
  have taken :
      ∀ (number : Nat) (later : List Char),
        (Nat.toDigits 10 number ++ ':' :: later).takeWhile (· != ':') =
          Nat.toDigits 10 number := by
    intro number later
    rw [List.takeWhile_append_of_pos]
    · simp
    · intro character member
      rw [bne_iff_ne]
      rintro rfl
      exact notDigit number member
  have sameDigits :
      Nat.toDigits 10 count = Nat.toDigits 10 other := by
    rw [← taken count rest, same, taken other others]
  have sameCount :=
    congrArg (fun digits => Nat.ofDigitChars 10 digits 0) sameDigits
  simp only [Nat.ofDigitChars_ten_toDigits] at sameCount
  rw [sameDigits] at same
  exact ⟨sameCount, (List.cons.inj (List.append_cancel_left same)).2⟩

theorem lengthDelimited_toList :
    (lengthDelimited left right).toList =
      (toString (codeUnits left)).toList ++
        ':' :: (left.toList ++
          ((toString (codeUnits right)).toList ++
            ':' :: right.toList)) := by
  simp only [lengthDelimited, String.toList_append, List.append_assoc]
  rfl

/-- The texts behind their lengths are read back. -/
theorem lengthDelimited_injective
    (same :
      lengthDelimited left right = lengthDelimited otherLeft otherRight) :
    left = otherLeft ∧ right = otherRight := by
  have sameText := congrArg String.toList same
  rw [lengthDelimited_toList, lengthDelimited_toList] at sameText
  obtain ⟨sameLength, afterLength⟩ := length_readable sameText
  rw [codeUnits_eq, codeUnits_eq] at sameLength
  obtain ⟨sameLeft, afterLeft⟩ := append_cancel sameLength afterLength
  obtain ⟨_, sameRight⟩ := length_readable afterLeft
  exact
    ⟨String.toList_injective sameLeft, String.toList_injective sameRight⟩

/-- An encoder reads the pair of what it reads of either text. -/
theorem encoded_operationTuple (first second : JsString) :
    (operationTuple first second).encoded =
      lengthDelimited first.encoded second.encoded := by
  have sameLength :
      ∀ text : JsString, codeUnits text.encoded = text.length := by
    intro text
    rw [codeUnits_eq, JsString.encoded, String.toList_ofList]
    exact length_toWellFormed
  have notLow :
      ∀ unit ∈
          (jsString (toString second.length ++ ":") ++ second).head?,
        ¬ IsLow unit := by
    rcases shape : (toString second.length ++ ":").toList with
      _ | ⟨first, rest⟩
    · simp at shape
    · rw [jsString, shape]
      exact not_low_of_encode
  apply String.toList_injective
  rw [lengthDelimited_toList, sameLength, sameLength]
  simp only [JsString.encoded, operationTuple, String.toList_ofList,
    List.append_assoc]
  rw [jsString, decode_encode_append, decode_append notLow, jsString,
    decode_encode_append]
  simp only [String.toList_append, List.append_assoc]
  rfl

end Pairs

/-! ## Keys -/

section Keys

variable {sha256 : String → String}
  {first second otherFirst otherSecond : JsString}

/-- Digests of tuples are the same when an encoder reads the same texts. -/
theorem digest_eq_iff
    (collisionFree : Function.Injective sha256) :
    sha256 (operationTuple first second).encoded =
        sha256 (operationTuple otherFirst otherSecond).encoded ↔
      toWellFormed first = toWellFormed otherFirst ∧
        toWellFormed second = toWellFormed otherSecond := by
  rw [collisionFree.eq_iff, encoded_operationTuple, encoded_operationTuple,
    ← encoded_eq_iff, ← encoded_eq_iff]
  constructor
  · exact lengthDelimited_injective
  · rintro ⟨sameFirst, sameSecond⟩
    rw [sameFirst, sameSecond]

/-- Two award keys are the same when an encoder reads the same texts. -/
theorem awardKey_eq_iff
    (collisionFree : Function.Injective sha256) :
    JsString.awardOperationKey sha256 first second =
        JsString.awardOperationKey sha256 otherFirst otherSecond ↔
      toWellFormed first = toWellFormed otherFirst ∧
        toWellFormed second = toWellFormed otherSecond := by
  rw [JsString.awardOperationKey, JsString.awardOperationKey,
    jsString_injective.eq_iff, String.append_right_inj,
    digest_eq_iff collisionFree]

/-- Two spend keys are the same when an encoder reads the same texts. -/
theorem spendKey_eq_iff
    (collisionFree : Function.Injective sha256) :
    JsString.spendOperationKey sha256 first second =
        JsString.spendOperationKey sha256 otherFirst otherSecond ↔
      toWellFormed first = toWellFormed otherFirst ∧
        toWellFormed second = toWellFormed otherSecond := by
  rw [JsString.spendOperationKey, JsString.spendOperationKey,
    jsString_injective.eq_iff, String.append_right_inj,
    digest_eq_iff collisionFree]

/-- A text begins with the unit of its first letter. -/
theorem head_jsString
    {mark text : String}
    {letter : Char}
    {rest : List Char}
    (isMark : mark.toList = letter :: rest)
    (small : letter.toNat < 0x10000) :
    (jsString (mark ++ text)).head? = some (unitOf letter.toNat) := by
  simp [jsString, isMark, encode, encodeCharacter, small]

/-- The first unit of a key names its family. -/
theorem awardKey_head :
    (JsString.awardOperationKey sha256 first second).head? =
      some (unitOf 'a'.toNat) :=
  head_jsString rfl (by decide)

theorem spendKey_head :
    (JsString.spendOperationKey sha256 first second).head? =
      some (unitOf 's'.toNat) :=
  head_jsString rfl (by decide)

theorem reservationKey_head :
    (JsString.reservationOperationKey first).head? =
      some (unitOf 'r'.toNat) :=
  rfl

end Keys

end Sparkz
