import Sparkz.JsArithmetic
import Sparkz.ObjectMembers
import Sparkz.OperationKeys
import Sparkz.UnitTexts

namespace Sparkz

open Utf16 UnitTexts

/-!
# Values of audit metadata

Metadata of an audit event is read as it comes: any value a script can build
from texts, numbers, lists and objects.  What a projection of texts and numbers
can see of a value is its content: the value itself when it is a scalar, and
only that it is something else when it is a list or an object.
-/

instance : Coe String JsString := ⟨jsString⟩

/-- A value of `unknown` type. -/
inductive AuditValue where
  | undefined
  | null
  | boolean (flag : Bool)
  | number (value : Double)
  | bigint (value : ℤ)
  | text (value : JsString)
  | array (items : List AuditValue)
  /-- An object by its members; of two with one name the later counts. -/
  | object (members : List (JsString × AuditValue))

/-- The members of an object that is not an array. -/
abbrev MetadataRecord := List (JsString × AuditValue)

namespace MetadataRecord

/-- `Object.entries(record)`, up to names that are array indices. -/
def entries (record : MetadataRecord) : List (JsString × AuditValue) :=
  InsertionMap.assign record

theorem entries_nodup (record : MetadataRecord) :
    (record.entries.map Prod.fst).Nodup :=
  InsertionMap.assign_nodup record

/-- `record[key]`. -/
def get (record : MetadataRecord) (key : JsString) : AuditValue :=
  (InsertionMap.get? key record.entries).getD .undefined

/-- `record?.[key]`. -/
def field (record : Option MetadataRecord) (key : JsString) : AuditValue :=
  (record.getD []).get key

end MetadataRecord

namespace AuditValue

/-- `value ?? …` goes on. -/
def isNullish : AuditValue → Bool
  | .undefined | .null => true
  | _ => false

/-- `value === text`. -/
def isText (value : AuditValue) (expected : JsString) : Bool :=
  match value with
  | .text shown => shown = expected
  | _ => false

/-- A text or `null`. -/
def ofText? : Option JsString → AuditValue
  | some shown => .text shown
  | none => .null

/-! ## `String(value)` -/

mutual

/--
`String(value)`, unless it throws: an object whose own `toString` is data has no
primitive value.
-/
def shown : AuditValue → Option JsString
  | .undefined => some "undefined"
  | .null => some "null"
  | .boolean true => some "true"
  | .boolean false => some "false"
  | .number value => some (jsString value.shown.text)
  | .bigint value => some (jsString (toString value))
  | .text value => some value
  | .array items => (shownItems items).map (joinWith (jsString ","))
  | .object members =>
      if jsString "toString" ∈ members.map Prod.fst then none
      else some "[object Object]"

/-- What `join` shows of the items of an array. -/
def shownItems : List AuditValue → Option (List JsString)
  | [] => some []
  | .undefined :: rest | .null :: rest => (shownItems rest).map ([] :: ·)
  | item :: rest =>
      (shown item).bind fun first => (shownItems rest).map (first :: ·)

end

/-! ## Records -/

/-- The record that a value is, if it is one. -/
def asRecord : AuditValue → Option MetadataRecord
  | .object members => some members
  | _ => none

/-- The record that a value is, or else the empty one. -/
def record (value : AuditValue) : MetadataRecord :=
  value.asRecord.getD []

/-! ## Content -/

/-- What a projection of scalars can see of a value. -/
def content : AuditValue → AuditValue
  | .array _ | .object _ | .bigint _ => .array []
  | scalar => scalar

/-- What such a projection can see of a list of values. -/
def listContent : AuditValue → AuditValue
  | .array items => .array (items.map content)
  | value => value.content

end AuditValue

/-- `record[first] ?? record[second] ?? …`. -/
def MetadataRecord.firstOf
    (record : MetadataRecord) :
    List JsString → AuditValue
  | [] => .undefined
  | [key] => record.get key
  | key :: rest =>
      if (record.get key).isNullish then record.firstOf rest
      else record.get key

end Sparkz
