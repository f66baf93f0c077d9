import Sparkz.JsStrings
import Sparkz.TokenAmount
import Sparkz.UnitTexts

namespace Sparkz

/-!
# Fields of a request body

A body comes from JSON, so a field may be absent or of any type.  The code
asks a field for its type, its truth value and its text.
-/

/-- One field of a body, by what the code can see of it. -/
inductive BodyValue (τ : Type := String) where
  | absent
  | text (value : τ)
  | number (value : JsNumber)
  /-- `null`, a boolean, an array or an object. -/
  | other (isTruthy : Bool) (rendered : τ)
  deriving DecidableEq

/-- `canonicalTokenAmount(text)`. -/
def canonicalTokenAmountOfText (text : String) : Option TokenAmount :=
  match decimalTextParts (trimText text) with
  | none => none
  | some parts =>
      if parts.fraction.length > 2 then none
      else some ⟨parts.flooredUnits⟩

namespace BodyValue

/-- The text of a field that is a string. -/
def string? {τ : Type} : BodyValue τ → Option τ
  | .text value => some value
  | _ => none

/-- A field whose texts are read as an encoder reads them. -/
def encoded : BodyValue JsString → BodyValue
  | .absent => .absent
  | .text value => .text value.encoded
  | .number value => .number value
  | .other isTruthy rendered => .other isTruthy rendered.encoded

/-- `String(value || '')`. -/
def orEmptyText : BodyValue JsString → JsString
  | .absent => []
  | .text value => value
  | .number value =>
      if value.text = "0" ∨ value = .notANumber then []
      else jsString value.text
  | .other isTruthy rendered => if isTruthy then rendered else []

/-- `canonicalTokenAmount(value)`, for a value of any type. -/
def canonicalTokenAmount : BodyValue → Option TokenAmount
  | .text value => canonicalTokenAmountOfText value
  | .number value => Sparkz.canonicalTokenAmount value
  | .absent | .other _ _ => none

/-- `getPositiveAmount(value)`; an unpaired surrogate is never a digit. -/
def getPositiveAmount (value : BodyValue JsString) : Option JsNumber :=
  match value.encoded.canonicalTokenAmount with
  | some amount => if amount.units > 0 then some amount.value else none
  | none => none

end BodyValue

/-- `normalizeUid(value)`. -/
@[irreducible] def normalizeUid (value : JsString) : JsString :=
  let trimmed := UnitTexts.trim value
  if UnitTexts.startsWith (UnitTexts.lower trimmed) (jsString "uid=") then
    UnitTexts.trim (trimmed.drop 4)
  else
    trimmed

example :
    (BodyValue.text (jsString " 012.50 ")).getPositiveAmount =
      some (.ofCents 1250) := by
  decide +kernel

end Sparkz
