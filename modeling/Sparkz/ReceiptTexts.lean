import Sparkz.FiniteNumbers
import Sparkz.SpendReceipts

namespace Sparkz

open BinaryRounding JsonText

/-!
# The canonical text of a receipt

`receipt.ts`, down to the text that is signed.  A payload is an object of
texts, numbers and nulls; a field may also be there with the value
`undefined`.  Two things do not reach the text: an own field `__proto__`, which
the assignment to a new object drops, and what a number is that is not finite.
-/

/-- The value of a field. -/
inductive ReceiptValue where
  | null
  | number (value : Double) (exact : value.IsExact)
  | text (value : JsString)

namespace ReceiptValue

/-- A number that JSON can write. -/
def finite (value : FiniteNumber) : ReceiptValue :=
  .number (.finite value.value)
    (.finite value.represents value.bounded)

/-- What `JSON.stringify` writes: `null` for a number that is not finite. -/
def json : ReceiptValue → Json FiniteNumber JsString
  | .null => .null
  | .number shown exact =>
      ((finiteNumber? shown exact).map Json.number).getD .null
  | .text shown => .text shown

/-- The value of a field that was read. -/
def ofJson? : Json FiniteNumber JsString → Option ReceiptValue
  | .null => some .null
  | .number value => some (finite value)
  | .text value => some (.text value)
  | .bool _ | .array _ | .object _ => none

/-- The value that a written field is read as. -/
def stored : ReceiptValue → ReceiptValue
  | .number (.infinite _) _ | .number .notANumber _ => .null
  | value => value

theorem ofJson?_json (value : ReceiptValue) :
    ofJson? value.json = some value.stored := by
  rcases value with _ | ⟨_ | _ | _, exact⟩ | _ <;> rfl

theorem json_stored (value : ReceiptValue) :
    value.stored.json = value.json := by
  rcases value with _ | ⟨_ | _ | _, _⟩ | _ <;> rfl

@[simp] theorem stored_stored (value : ReceiptValue) :
    value.stored.stored = value.stored := by
  rcases value with _ | ⟨_ | _ | _, _⟩ | _ <;> rfl

@[simp] theorem stored_finite (number : FiniteNumber) :
    (finite number).stored = finite number := rfl

theorem finite_inj {number other : FiniteNumber} :
    finite number = finite other ↔ number = other := by
  constructor
  · intro same
    exact
      FiniteNumber.ext
        (Double.finite.inj (ReceiptValue.number.inj same))
  · rintro rfl
    rfl

theorem keyed_json (value : ReceiptValue) : value.json.Keyed := by
  rcases value with _ | ⟨_ | _ | _, _⟩ | _
  all_goals first | exact .null | exact .number _ | exact .text _

end ReceiptValue

/-! ## The names of fields -/

/-- The name that an assignment gives to no field. -/
def protoName : JsString := jsString "__proto__"

/-- The array index that a name is. -/
def arrayIndex? (name : JsString) : Option ℕ :=
  let index := Nat.ofDigitChars 10 name.encoded.toList 0
  if name = jsString (toString index) ∧ index < 2 ^ 32 - 1 then
    some index
  else none

/-- Entries in the order of the array indices that they are. -/
def IndexOrder {α : Type} (first second : JsString × α) : Prop :=
  (arrayIndex? first.1).getD 0 ≤ (arrayIndex? second.1).getD 0

instance {α : Type} : DecidableRel (@IndexOrder α) :=
  fun _ _ => inferInstanceAs (Decidable (_ ≤ _))

/-- The order in which an object keeps what was assigned in another order. -/
def objectOrder {α : Type} (fields : List (JsString × α)) :
    List (JsString × α) :=
  (fields.filter fun field => (arrayIndex? field.1).isSome).insertionSort
      IndexOrder ++
    fields.filter fun field => !(arrayIndex? field.1).isSome

theorem perm_objectOrder {α : Type} (fields : List (JsString × α)) :
    (objectOrder fields).Perm fields := by
  unfold objectOrder
  exact
    ((List.perm_insertionSort _ _).append_right _).trans
      (List.filter_append_perm _ fields)

theorem map_objectOrder
    {α β : Type}
    (change : α → β)
    (fields : List (JsString × α)) :
    (objectOrder fields).map (fun field => (field.1, change field.2)) =
      objectOrder (fields.map fun field => (field.1, change field.2)) := by
  unfold objectOrder
  rw [List.map_append, List.filter_map, List.filter_map]
  congr 1
  exact
    List.map_insertionSort IndexOrder IndexOrder _ _
      fun _ _ _ _ => Iff.rfl

/-! ## Payloads -/

/-- A payload, as an object with fields that may be `undefined`. -/
structure ReceiptPayload where
  fields : List (JsString × Option ReceiptValue)
  distinct : (fields.map Prod.fst).Nodup

namespace ReceiptPayload

/-- `payload[name]`, when it is defined. -/
def value (payload : ReceiptPayload) (name : JsString) :
    Option ReceiptValue :=
  (InsertionMap.get? name payload.fields).join

/-- A field that is not `undefined`, once it is assigned to its name. -/
def definedField
    (field : JsString × Option ReceiptValue) :
    Option (JsString × ReceiptValue) :=
  if field.1 = protoName then none
  else field.2.map fun value => (field.1, value)

/-- `sortForCanonicalJson(payload)`. -/
def sortForCanonicalJson (payload : ReceiptPayload) :
    List (JsString × ReceiptValue) :=
  objectOrder ((byKey payload.fields).filterMap definedField)

/-- `canonicalizeReceiptPayload(payload)`. -/
def canonicalizeReceiptPayload (payload : ReceiptPayload) : String :=
  String.ofList
    (stringify FiniteNumber.format
      (.object
        (payload.sortForCanonicalJson.map fun field =>
          (field.1, field.2.json))))

/-- The payload that an object is, when its fields are those of a payload. -/
def ofFields? (fields : List (JsString × Json FiniteNumber JsString)) :
    Option ReceiptPayload := do
  let values ← fields.mapM fun field =>
    (ReceiptValue.ofJson? field.2).map fun value => (field.1, some value)
  if distinct : (values.map Prod.fst).Nodup then some ⟨values, distinct⟩
  else none

/-- `JSON.parse(text)`, when it is a payload and its numbers are finite. -/
def parse? (text : String) : Option ReceiptPayload :=
  match JsonText.parse FiniteNumber.format text.toList with
  | some (.object fields) => ofFields? fields
  | _ => none

/-- `payload[name]` as it is stored, which keeps no own `__proto__`. -/
def storedValue (payload : ReceiptPayload) (name : JsString) :
    Option ReceiptValue :=
  if name = protoName then none
  else (payload.value name).map ReceiptValue.stored

/--
Payloads that are equal in every defined field, but for `__proto__` and for
what is written as `null`.
-/
def Agrees (payload other : ReceiptPayload) : Prop :=
  ∀ name, payload.storedValue name = other.storedValue name

end ReceiptPayload

namespace ReceiptPayload

/-! ## The fields of a text -/

variable {payload other : ReceiptPayload}

/-- The fields that are stored, in the order of their names. -/
def definedFields (payload : ReceiptPayload) :
    List (JsString × ReceiptValue) :=
  ((byKey payload.fields).filterMap definedField).map fun field =>
    (field.1, field.2.stored)

theorem definedField_eq_some
    {name : JsString}
    {field : JsString × Option ReceiptValue}
    {value : ReceiptValue} :
    definedField field = some (name, value) ↔
      name ≠ protoName ∧ field = (name, some value) := by
  obtain ⟨key, shown⟩ := field
  unfold definedField
  by_cases isProto : key = protoName
  · rw [if_pos isProto]
    constructor
    · intro impossible
      cases impossible
    · rintro ⟨notProto, same⟩
      exact absurd ((Prod.mk.inj same).1 ▸ isProto) notProto
  · rw [if_neg isProto]
    cases shown with
    | none => simp
    | some shown =>
        simp only [Option.map_some, Option.some.injEq, Prod.mk.injEq]
        constructor
        · rintro ⟨rfl, rfl⟩
          exact ⟨isProto, rfl, rfl⟩
        · exact And.right

/-- The text of a payload is that of its defined fields. -/
theorem map_sortForCanonicalJson (payload : ReceiptPayload) :
    (payload.sortForCanonicalJson.map fun field =>
        (field.1, field.2.json)) =
      (objectOrder payload.definedFields).map fun field =>
        (field.1, field.2.json) := by
  rw [sortForCanonicalJson, definedFields, ← map_objectOrder, List.map_map]
  apply List.map_congr_left
  intro field _
  exact Prod.ext rfl (ReceiptValue.json_stored field.2).symm

theorem definedFields_names (payload : ReceiptPayload) :
    (payload.definedFields.map Prod.fst).Sublist
      ((byKey payload.fields).map Prod.fst) := by
  unfold definedFields
  rw [List.map_map]
  induction byKey payload.fields with
  | nil =>
      exact .slnil
  | cons field fields inductionHypothesis =>
      cases isDefined : definedField field with
      | none =>
          rw [List.filterMap_cons_none isDefined]
          exact inductionHypothesis.cons field.1
      | some found =>
          obtain ⟨name, value⟩ := found
          rw [List.filterMap_cons_some isDefined,
            (definedField_eq_some.mp isDefined).2]
          exact inductionHypothesis.cons_cons name

theorem definedFields_distinct (payload : ReceiptPayload) :
    (payload.definedFields.map Prod.fst).Nodup := by
  have sorted :=
    (List.perm_insertionSort KeyOrder payload.fields).map Prod.fst
  exact
    (sorted.nodup_iff.mpr payload.distinct).sublist
      payload.definedFields_names

/-- A name has a value exactly when there is a field with both. -/
theorem value_eq_some_iff {name : JsString} {value : ReceiptValue} :
    payload.value name = some value ↔
      (name, some value) ∈ payload.fields := by
  rw [InsertionMap.mem_iff_get? payload.distinct,
    ReceiptPayload.value, Option.join_eq_some_iff]

/-- The fields of the text are those that have a stored value. -/
theorem mem_definedFields {name : JsString} {value : ReceiptValue} :
    (name, value) ∈ payload.definedFields ↔
      payload.storedValue name = some value := by
  have stored :
      payload.storedValue name = some value ↔
        name ≠ protoName ∧
          ∃ shown,
            (name, some shown) ∈ payload.fields ∧
              shown.stored = value := by
    unfold storedValue
    by_cases isProto : name = protoName
    · simp [isProto]
    · simp only [isProto, if_false, Option.map_eq_some_iff, ne_eq,
        not_false_eq_true, true_and, value_eq_some_iff]
  rw [stored]
  unfold definedFields byKey
  simp only [List.mem_map, List.mem_filterMap, List.mem_insertionSort,
    Prod.mk.injEq, Prod.exists]
  constructor
  · rintro ⟨key, shown, ⟨first, second, member, isDefined⟩, rfl, rfl⟩
    obtain ⟨notProto, same⟩ := definedField_eq_some.mp isDefined
    exact ⟨notProto, shown, same ▸ member, rfl⟩
  · rintro ⟨notProto, shown, member, rfl⟩
    exact
      ⟨name, shown,
        ⟨name, some shown, member,
          definedField_eq_some.mpr ⟨notProto, rfl⟩⟩, rfl, rfl⟩

theorem definedFields_sorted (payload : ReceiptPayload) :
    payload.definedFields.Pairwise KeyOrder := by
  unfold definedFields
  rw [List.pairwise_map, List.pairwise_filterMap]
  apply (List.pairwise_insertionSort KeyOrder payload.fields).imp
  intro first second ordered _ isFirst _ isSecond
  rw [(definedField_eq_some.mp isFirst).2,
    (definedField_eq_some.mp isSecond).2] at ordered
  exact ordered

/-- Payloads that agree have the same fields, in the same order. -/
theorem definedFields_eq_of_agrees (agrees : payload.Agrees other) :
    payload.definedFields = other.definedFields := by
  have permuted :
      payload.definedFields.Perm other.definedFields := by
    rw [List.perm_ext_iff_of_nodup
      payload.definedFields_distinct.of_map
      other.definedFields_distinct.of_map]
    rintro ⟨name, value⟩
    rw [mem_definedFields, mem_definedFields, agrees name]
  apply List.Perm.eq_of_pairwise ?_ payload.definedFields_sorted
    other.definedFields_sorted permuted
  intro first second isFirst isSecond before after
  exact
    eq_of_key payload.definedFields_distinct isFirst
      (permuted.mem_iff.mpr isSecond)
      (KeyOrder.antisymm before after)

/-- Payloads with the same fields agree, in whatever order they are kept. -/
theorem agrees_of_perm
    (permuted : payload.definedFields.Perm other.definedFields) :
    payload.Agrees other := by
  intro name
  apply Option.ext
  intro value
  rw [← mem_definedFields, ← mem_definedFields, permuted.mem_iff]

/-- A field that is stored as it is. -/
def IsPlain (field : JsString × Option ReceiptValue) : Prop :=
  field.1 ≠ protoName ∧
    ∃ value, field.2 = some value ∧ value.stored = value

/-- Payloads of the same plain fields that agree have the same fields. -/
theorem fields_eq_of_agrees
    (sameNames :
      payload.fields.map Prod.fst = other.fields.map Prod.fst)
    (plain : ∀ field ∈ payload.fields, IsPlain field)
    (otherPlain : ∀ field ∈ other.fields, IsPlain field)
    (agrees : payload.Agrees other) :
    payload.fields = other.fields := by
  have found :
      ∀ {one another : ReceiptPayload},
        (∀ field ∈ one.fields, IsPlain field) →
        (∀ field ∈ another.fields, IsPlain field) →
        one.Agrees another →
        one.fields ⊆ another.fields := by
    rintro one another isPlain isOtherPlain same ⟨name, value⟩ member
    obtain ⟨notProto, value, rfl, asStored⟩ := isPlain _ member
    have isStored := same name
    simp only [storedValue, if_neg notProto,
      value_eq_some_iff.mpr member, Option.map_some, asStored] at isStored
    obtain ⟨shown, isShown, sameStored⟩ :=
      Option.map_eq_some_iff.mp isStored.symm
    have isMember := value_eq_some_iff.mp isShown
    obtain ⟨_, _, isSome, shownStored⟩ := isOtherPlain _ isMember
    rw [← Option.some.inj isSome, sameStored] at shownStored
    rwa [shownStored]
  apply eq_of_perm_of_keys sameNames payload.distinct
  rw [List.perm_ext_iff_of_nodup payload.distinct.of_map
    other.distinct.of_map]
  intro field
  exact
    ⟨fun member => found plain otherPlain agrees member, fun member =>
      found otherPlain plain (fun name => (agrees name).symm) member⟩

/-! ## The text of a payload -/

/-- The text of a payload is read as its tree. -/
theorem parse_canonicalizeReceiptPayload (payload : ReceiptPayload) :
    JsonText.parse FiniteNumber.format
        payload.canonicalizeReceiptPayload.toList =
      some
        (.object
          ((objectOrder payload.definedFields).map fun field =>
            (field.1, field.2.json))) := by
  rw [canonicalizeReceiptPayload, String.toList_ofList,
    map_sortForCanonicalJson]
  apply parse_stringify
  apply Json.Keyed.object
  · rw [List.map_map]
    exact
      ((perm_objectOrder payload.definedFields).map
        Prod.fst).nodup_iff.mpr payload.definedFields_distinct
  · intro field member
    obtain ⟨_, _, rfl⟩ := List.mem_map.mp member
    exact ReceiptValue.keyed_json _

/-- A field of a text is stored already. -/
theorem stored_of_mem
    (payload : ReceiptPayload)
    {field : JsString × ReceiptValue}
    (member : field ∈ payload.definedFields) :
    field.2.stored = field.2 := by
  obtain ⟨_, _, rfl⟩ := List.mem_map.mp member
  exact ReceiptValue.stored_stored _

/-- Stored values are read back from what is written of them. -/
theorem mapM_json
    {fields : List (JsString × ReceiptValue)}
    (areStored : ∀ field ∈ fields, field.2.stored = field.2) :
    (fields.map fun field => (field.1, field.2.json)).mapM
        (fun field =>
          (ReceiptValue.ofJson? field.2).map fun value =>
            (field.1, some value)) =
      some (fields.map fun field => (field.1, some field.2)) := by
  induction fields with
  | nil =>
      rfl
  | cons field fields inductionHypothesis =>
      rw [List.map_cons, List.mapM_cons,
        inductionHypothesis fun entry member =>
          areStored entry (List.mem_cons_of_mem _ member),
        ReceiptValue.ofJson?_json, areStored field List.mem_cons_self]
      rfl

/-- Two payloads have one text exactly when they agree. -/
theorem canonicalizeReceiptPayload_eq_iff :
    payload.canonicalizeReceiptPayload =
        other.canonicalizeReceiptPayload ↔
      payload.Agrees other := by
  constructor
  · intro same
    have sameTree :=
      payload.parse_canonicalizeReceiptPayload.symm.trans
        (same ▸ other.parse_canonicalizeReceiptPayload)
    have sameFields := Json.object.inj (Option.some.inj sameTree)
    apply agrees_of_perm
    have sameRead :=
      (mapM_json fun field member =>
          payload.stored_of_mem
            ((perm_objectOrder _).mem_iff.mp member)).symm.trans
        (sameFields ▸
          mapM_json fun field member =>
            other.stored_of_mem
              ((perm_objectOrder _).mem_iff.mp member))
    have sameOrder :
        objectOrder payload.definedFields =
          objectOrder other.definedFields := by
      refine List.map_injective_iff.mpr ?_ (Option.some.inj sameRead)
      intro first second sameField
      obtain ⟨sameName, sameValue⟩ := Prod.mk.inj sameField
      exact Prod.ext sameName (Option.some.inj sameValue)
    exact
      (perm_objectOrder _).symm.trans
        (sameOrder ▸ perm_objectOrder other.definedFields)
  · intro agrees
    rw [canonicalizeReceiptPayload, canonicalizeReceiptPayload,
      map_sortForCanonicalJson, map_sortForCanonicalJson,
      definedFields_eq_of_agrees agrees]

/-- The payload that is read from the text of a payload. -/
def written (payload : ReceiptPayload) : ReceiptPayload where
  fields :=
    (objectOrder payload.definedFields).map fun field =>
      (field.1, some field.2)
  distinct := by
    rw [List.map_map]
    exact
      ((perm_objectOrder payload.definedFields).map
        Prod.fst).nodup_iff.mpr payload.definedFields_distinct

theorem written_agrees (payload : ReceiptPayload) :
    payload.written.Agrees payload := by
  have isWritten :
      ∀ name value,
        payload.written.value name = some value ↔
          payload.storedValue name = some value := by
    intro name value
    rw [value_eq_some_iff, ← mem_definedFields]
    simp [written, (perm_objectOrder payload.definedFields).mem_iff]
  intro name
  apply Option.ext
  intro value
  rw [← isWritten]
  unfold storedValue
  by_cases isProto : name = protoName
  · have noField : payload.storedValue name = none := if_pos isProto
    rw [if_pos isProto, isWritten, noField]
  · rw [if_neg isProto, Option.map_eq_some_iff]
    constructor
    · rintro ⟨shown, isShown, rfl⟩
      have member := mem_definedFields.mpr ((isWritten _ _).mp isShown)
      rw [payload.stored_of_mem member]
      exact isShown
    · intro isShown
      have member := mem_definedFields.mpr ((isWritten _ _).mp isShown)
      exact ⟨value, isShown, payload.stored_of_mem member⟩

/-- A payload is read back from its text. -/
theorem parse?_canonicalizeReceiptPayload (payload : ReceiptPayload) :
    parse? payload.canonicalizeReceiptPayload = some payload.written := by
  unfold parse?
  rw [parse_canonicalizeReceiptPayload]
  show ofFields? _ = _
  unfold ofFields?
  rw [mapM_json fun field member =>
    payload.stored_of_mem ((perm_objectOrder _).mem_iff.mp member)]
  exact dif_pos payload.written.distinct

end ReceiptPayload

/-! ## Signing and verifying -/

/-- What the code takes from the library of the chain. -/
structure SigningLibrary (Key : Type) where
  /-- `ethers.getAddress(value)`; nothing when it throws. -/
  getAddress : String → Option String
  /-- `ethers.verifyMessage(message, signature)`; nothing when it throws. -/
  verifyMessage : (message signature : String) → Option String
  address : Key → String
  /-- `signer.signMessage(message)`. -/
  signMessage : Key → String → String
  /-- `ethers.Signature.from(signature)` does not throw. -/
  isSignature : String → Bool

/-- A signature shows its signer for its own message and for no other. -/
structure SigningLibrary.Ideal
    {Key : Type}
    (library : SigningLibrary Key) :
    Prop where
  verifies :
    ∀ key message other,
      library.verifyMessage message (library.signMessage key other) =
          some (library.address key) ↔
        message = other
  malformed :
    ∀ message signature,
      library.isSignature signature = false →
      library.verifyMessage message signature = none
  keyAddress :
    ∀ key, library.getAddress (library.address key) =
      some (library.address key)
  recovered :
    ∀ message signature address,
      library.verifyMessage message signature = some address →
      library.getAddress address = some address
  addressCase :
    ∀ value other address otherAddress,
      library.getAddress value = some address →
      library.getAddress other = some otherAddress →
      lowerText address = lowerText otherAddress →
      address = otherAddress

namespace ReceiptPayload

section Signing

variable {Key : Type} (library : SigningLibrary Key)

/-- What `signSpendReceipt(payload, signer)` returns beside its payload. -/
structure Signed where
  payload : ReceiptPayload
  signature : String
  signerAddress : String
  canonicalPayload : String

/-- `signSpendReceipt(payload, signer)`. -/
def signSpendReceipt (key : Key) (payload : ReceiptPayload) : Signed :=
  let canonicalPayload := payload.canonicalizeReceiptPayload
  { payload
    signature := library.signMessage key canonicalPayload
    signerAddress := library.address key
    canonicalPayload }

/-- `verifySpendReceiptAgainstTrustedSigner`. -/
def verifySpendReceiptAgainstTrustedSigner
    (payload : ReceiptPayload)
    (signature claimedSignerAddress trustedSignerAddress : String) :
    TrustedSpendReceiptVerification :=
  match library.getAddress trustedSignerAddress with
  | none =>
      .rejected .invalidTrustedSigner
        "configured receipt signer address is invalid" none
  | some trustedAddress =>
      match library.getAddress claimedSignerAddress with
      | none =>
          .rejected .invalidClaimedSigner
            "receipt signerAddress is invalid" none
      | some claimedAddress =>
          if lowerText claimedAddress ≠ lowerText trustedAddress then
            .rejected .signerMismatch
              "receipt signerAddress does not match the configured NEVERFLAT receipt signer"
              none
          else
            match
              library.verifyMessage payload.canonicalizeReceiptPayload
                signature with
            | none =>
                .rejected .invalidSignature
                  "receipt signature is malformed or cannot be recovered"
                  none
            | some recovered =>
                if lowerText recovered ≠ lowerText trustedAddress then
                  .rejected .invalidSignature
                    "receipt signature was not produced by the configured NEVERFLAT receipt signer"
                    (some recovered)
                else ⟨true, some recovered, none⟩

end Signing

/-! ## What a valid receipt says -/

section Valid

variable
  {Key : Type}
  {library : SigningLibrary Key}
  {key : Key}
  {payload signed : ReceiptPayload}
  {signature claimedSignerAddress trustedSignerAddress : String}

/-- What every receipt that is valid has passed. -/
theorem valid_verifySpendReceipt_iff :
    (verifySpendReceiptAgainstTrustedSigner library payload signature
        claimedSignerAddress trustedSignerAddress).valid = true ↔
      ∃ trustedAddress claimedAddress recovered,
        library.getAddress trustedSignerAddress = some trustedAddress ∧
        library.getAddress claimedSignerAddress = some claimedAddress ∧
        lowerText claimedAddress = lowerText trustedAddress ∧
        library.verifyMessage payload.canonicalizeReceiptPayload
          signature = some recovered ∧
        lowerText recovered = lowerText trustedAddress := by
  unfold verifySpendReceiptAgainstTrustedSigner
  rcases library.getAddress trustedSignerAddress with
    _ | trustedAddress
  · simp [TrustedSpendReceiptVerification.rejected]
  rcases library.getAddress claimedSignerAddress with
    _ | claimedAddress
  · simp [TrustedSpendReceiptVerification.rejected]
  by_cases sameSigner :
      lowerText claimedAddress = lowerText trustedAddress
  · rcases library.verifyMessage payload.canonicalizeReceiptPayload
        signature with
      _ | recovered
    · simp [TrustedSpendReceiptVerification.rejected, sameSigner]
    · by_cases produced :
          lowerText recovered = lowerText trustedAddress
      · simp [sameSigner, produced]
      · simp [TrustedSpendReceiptVerification.rejected, sameSigner,
          produced]
  · simp [TrustedSpendReceiptVerification.rejected, sameSigner]

/-- A text recovers the signer of a payload when it is that payload's text. -/
theorem recovers_iff
    (ideal : library.Ideal) :
    (∃ recovered,
        library.verifyMessage payload.canonicalizeReceiptPayload
            (signSpendReceipt library key signed).signature =
          some recovered ∧
        lowerText recovered = lowerText (library.address key)) ↔
      payload.Agrees signed := by
  rw [← canonicalizeReceiptPayload_eq_iff, ← ideal.verifies key]
  constructor
  · rintro ⟨recovered, isRecovered, sameAddress⟩
    have isAddress : recovered = library.address key :=
      ideal.addressCase recovered (library.address key) _ _
        (ideal.recovered _ _ _ isRecovered) (ideal.keyAddress key)
        sameAddress
    rw [← isAddress]
    exact isRecovered
  · intro isRecovered
    exact ⟨library.address key, isRecovered, rfl⟩

/-- A receipt of a key is valid for the payloads that agree with it. -/
theorem valid_signSpendReceipt_iff
    (ideal : library.Ideal)
    (configured :
      ∀ address,
        library.getAddress trustedSignerAddress = some address →
        address = library.address key) :
    (verifySpendReceiptAgainstTrustedSigner library payload
        (signSpendReceipt library key signed).signature
        claimedSignerAddress trustedSignerAddress).valid = true ↔
      (∃ trustedAddress claimedAddress,
        library.getAddress trustedSignerAddress = some trustedAddress ∧
        library.getAddress claimedSignerAddress = some claimedAddress ∧
        lowerText claimedAddress = lowerText trustedAddress) ∧
      payload.Agrees signed := by
  rw [valid_verifySpendReceipt_iff,
    ← @recovers_iff _ _ key _ signed ideal]
  constructor
  · rintro ⟨trustedAddress, claimedAddress, recovered, isTrusted,
      isClaimed, sameSigner, isRecovered, produced⟩
    have isKey := configured trustedAddress isTrusted
    rw [isKey] at produced
    exact
      ⟨⟨trustedAddress, claimedAddress, isTrusted, isClaimed,
        sameSigner⟩, recovered, isRecovered, produced⟩
  · rintro ⟨⟨trustedAddress, claimedAddress, isTrusted, isClaimed,
      sameSigner⟩, recovered, isRecovered, produced⟩
    have isKey := configured trustedAddress isTrusted
    rw [← isKey] at produced
    exact
      ⟨trustedAddress, claimedAddress, recovered, isTrusted, isClaimed,
        sameSigner, isRecovered, produced⟩

/-- A signature that is malformed is never valid. -/
theorem invalid_of_malformed
    (ideal : library.Ideal)
    (malformed : library.isSignature signature = false) :
    (verifySpendReceiptAgainstTrustedSigner library payload signature
      claimedSignerAddress trustedSignerAddress).valid = false := by
  rw [← Bool.not_eq_true, valid_verifySpendReceipt_iff]
  rintro ⟨_, _, recovered, _, _, _, isRecovered, _⟩
  rw [ideal.malformed _ _ malformed] at isRecovered
  cases isRecovered

end Valid

end ReceiptPayload

/-! ## Receipts of spends -/

/-- A chain id, as the number that it is. -/
def chainNumber (chainId : ℕ) (isSafe : chainId ≤ 2 ^ 53) :
    FiniteNumber where
  value := (chainId : ℤ)
  represents := by
    apply Format.represents_intCast
    · rw [Nat.abs_cast]
      exact_mod_cast isSafe
    · decide
  bounded := by
    have below : (chainId : ℤ) ≤ 2 ^ 53 := by exact_mod_cast isSafe
    rw [Int.cast_natCast, Nat.abs_cast]
    calc
      (chainId : ℚ) ≤ 2 ^ 53 := by exact_mod_cast below
      _ < 2 ^ 1024 := pow_lt_pow_right₀ one_lt_two (by norm_num)

/-- Two amounts with one text are the same. -/
theorem TokenAmount.decimal_injective :
    Function.Injective TokenAmount.decimal := by
  intro amount other same
  have oneDigit :
      ∀ digit : ℕ, (toString (digit % 10)).toList.length = 1 := by
    intro digit
    rw [Nat.toString_eq_repr, Nat.toList_repr,
      Nat.toDigits_of_lt_base (Nat.mod_lt digit (by decide))]
    rfl
  have sameCharacters := congrArg String.toList same
  simp only [TokenAmount.decimal, String.toList_append,
    List.append_assoc] at sameCharacters
  obtain ⟨sameWhole, samePair⟩ :=
    List.append_inj' sameCharacters
      (by simp only [List.length_append, oneDigit])
  obtain ⟨sameTenths, sameRest⟩ :=
    List.append_inj (List.append_cancel_left samePair)
      ((oneDigit _).trans (oneDigit _).symm)
  have isRead :
      ∀ {count shown : ℕ},
        (toString count).toList = (toString shown).toList →
        count = shown := by
    intro count shown sameDigits
    have sameValue :=
      congrArg (fun digits => Nat.ofDigitChars 10 digits 0) sameDigits
    simpa only [Nat.toString_eq_repr, Nat.toList_repr,
      Nat.ofDigitChars_ten_toDigits] using sameValue
  have isWhole := isRead sameWhole
  have isTenths := isRead sameTenths
  have isRest := isRead sameRest
  cases amount
  cases other
  simp only [TokenAmount.mk.injEq] at isWhole isTenths isRest ⊢
  omega

theorem chainNumber_inj
    {chainId otherId : ℕ}
    {isSafe : chainId ≤ 2 ^ 53}
    {isOtherSafe : otherId ≤ 2 ^ 53} :
    chainNumber chainId isSafe = chainNumber otherId isOtherSafe ↔
      chainId = otherId := by
  simp [chainNumber]

namespace SpendReceiptPayload

/-- A field that is a text or `null`. -/
def nullable : Option JsString → ReceiptValue
  | none => .null
  | some text => .text text

variable {payload other : SpendReceiptPayload}

/-- The object that is signed for a spend. -/
def document
    (payload : SpendReceiptPayload)
    (isSafe : payload.chainId ≤ 2 ^ 53) :
    ReceiptPayload where
  fields :=
    [(jsString "version", some (.text (jsString payload.version))),
      (jsString "receiptId", some (.text (jsString payload.receiptId))),
      (jsString "status", some (.text (jsString payload.status))),
      (jsString "contractId", some (.text payload.contractId)),
      (jsString "walletAddress",
        some (.text (jsString payload.walletAddress))),
      (jsString "amount", some (.text (jsString payload.amount.decimal))),
      (jsString "sessionId", some (nullable payload.sessionId)),
      (jsString "providerId", some (nullable payload.providerId)),
      (jsString "tokenTxHash",
        some (.text (jsString payload.tokenTxHash.text))),
      (jsString "tokenContractAddress",
        some (.text (jsString payload.tokenContractAddress))),
      (jsString "chainId",
        some (.finite (chainNumber payload.chainId isSafe))),
      (jsString "issuedAt", some (.text (jsString payload.issuedAt)))]
  distinct := by
    simp only [List.map_cons, List.map_nil]
    decide +kernel

theorem nullable_injective : Function.Injective nullable := by
  intro text other same
  cases text with
  | none =>
      cases other with
      | none => rfl
      | some otherText => cases same
  | some text =>
      cases other with
      | none => cases same
      | some otherText =>
          cases same
          rfl

theorem stored_nullable (text : Option JsString) :
    (nullable text).stored = nullable text := by
  cases text <;> rfl

theorem document_plain
    {isSafe : payload.chainId ≤ 2 ^ 53} :
    ∀ field ∈ (payload.document isSafe).fields,
      ReceiptPayload.IsPlain field := by
  have noProto :
      ∀ name ∈ (payload.document isSafe).fields.map Prod.fst,
        name ≠ protoName := by
    simp only [document, List.map_cons, List.map_nil]
    decide +kernel
  have plain :
      ∀ field ∈ (payload.document isSafe).fields,
        ∃ value, field.2 = some value ∧ value.stored = value := by
    simp only [document, List.forall_mem_cons, Option.some.injEq,
      exists_eq_left', stored_nullable, ReceiptValue.stored_finite,
      List.not_mem_nil, false_implies, implies_true, true_and, and_true]
    exact ⟨rfl, rfl, rfl, rfl, rfl, rfl, rfl, rfl, rfl⟩
  intro field member
  exact ⟨noProto _ (List.mem_map_of_mem member), plain field member⟩

/-- The text of a payload determines it. -/
theorem canonicalizeReceiptPayload_document
    {isSafe : payload.chainId ≤ 2 ^ 53}
    {isOtherSafe : other.chainId ≤ 2 ^ 53} :
    (payload.document isSafe).canonicalizeReceiptPayload =
        (other.document isOtherSafe).canonicalizeReceiptPayload ↔
      payload = other := by
  constructor
  · intro same
    have sameFields :=
      ReceiptPayload.fields_eq_of_agrees
        (by simp only [document, List.map_cons, List.map_nil])
        document_plain document_plain
        (ReceiptPayload.canonicalizeReceiptPayload_eq_iff.mp same)
    simp only [document, List.cons.injEq, Prod.mk.injEq, Option.some.injEq,
      ReceiptValue.text.injEq, jsString_injective.eq_iff, true_and,
      and_true, nullable_injective.eq_iff, ReceiptValue.finite_inj,
      chainNumber_inj, TokenAmount.decimal_injective.eq_iff] at sameFields
    obtain ⟨isVersion, isReceipt, isStatus, isContract, isWallet, isAmount,
      isSession, isProvider, isHash, isToken, isChain, isIssued⟩ :=
      sameFields
    rcases payload with
      ⟨_, _, _, _, _, _, _, _, hash, _, _, _⟩
    rcases other with
      ⟨_, _, _, _, _, _, _, _, otherHash, _, _, _⟩
    have sameHash : hash = otherHash := by
      cases hash
      cases otherHash
      congr 1
    simp only [SpendReceiptPayload.mk.injEq]
    exact
      ⟨isVersion, isReceipt, isStatus, isContract, isWallet, isAmount,
        isSession, isProvider, sameHash, isToken, isChain, isIssued⟩
  · rintro rfl
    rfl

/-- The receipts of spends are verified through their texts. -/
theorem verifySpendReceiptAgainstTrustedSigner_document
    {Key : Type}
    {library : SigningLibrary Key}
    {platform : Platform}
    {isSafe : payload.chainId ≤ 2 ^ 53}
    (sameAddresses : platform.getAddress = library.getAddress)
    (sameMessages :
      platform.verifyMessage payload =
        library.verifyMessage
          (payload.document isSafe).canonicalizeReceiptPayload)
    (signature claimedSignerAddress trustedSignerAddress : String) :
    verifySpendReceiptAgainstTrustedSigner platform payload signature
        claimedSignerAddress trustedSignerAddress =
      (payload.document isSafe).verifySpendReceiptAgainstTrustedSigner
        library signature claimedSignerAddress trustedSignerAddress := by
  unfold Sparkz.verifySpendReceiptAgainstTrustedSigner
    ReceiptPayload.verifySpendReceiptAgainstTrustedSigner
  rewrite [sameAddresses, sameMessages]
  rfl

end SpendReceiptPayload

/-- A text stands for the fields of a payload, and a signature for the text. -/
theorem receipts_bindFields
    {Key : Type}
    {library : SigningLibrary Key}
    (ideal : library.Ideal) :
    (∀ payload other : ReceiptPayload,
      payload.canonicalizeReceiptPayload =
          other.canonicalizeReceiptPayload ↔
        payload.Agrees other) ∧
    (∀ payload : ReceiptPayload,
      ∃ stored,
        ReceiptPayload.parse? payload.canonicalizeReceiptPayload =
          some stored ∧
        stored.canonicalizeReceiptPayload =
          payload.canonicalizeReceiptPayload) ∧
    (∀ (key : Key) (signed payload : ReceiptPayload)
        (claimedSignerAddress trustedSignerAddress : String),
      (∀ address,
        library.getAddress trustedSignerAddress = some address →
        address = library.address key) →
      ((payload.verifySpendReceiptAgainstTrustedSigner library
            (signed.signSpendReceipt library key).signature
            claimedSignerAddress trustedSignerAddress).valid = true ↔
        (∃ trustedAddress claimedAddress,
          library.getAddress trustedSignerAddress =
            some trustedAddress ∧
          library.getAddress claimedSignerAddress =
            some claimedAddress ∧
          lowerText claimedAddress = lowerText trustedAddress) ∧
        payload.Agrees signed) ∧
      ∀ name,
        payload.storedValue name ≠ signed.storedValue name →
        (payload.verifySpendReceiptAgainstTrustedSigner library
          (signed.signSpendReceipt library key).signature
          claimedSignerAddress trustedSignerAddress).valid = false) ∧
    ∀ (payload : ReceiptPayload)
      (signature claimedSignerAddress trustedSignerAddress : String),
      library.isSignature signature = false →
      (payload.verifySpendReceiptAgainstTrustedSigner library signature
        claimedSignerAddress trustedSignerAddress).valid = false := by
  refine ⟨fun payload other => ReceiptPayload.canonicalizeReceiptPayload_eq_iff,
    fun payload => ?_, ?_, ?_⟩
  · refine
      ⟨payload.written, payload.parse?_canonicalizeReceiptPayload, ?_⟩
    exact
      ReceiptPayload.canonicalizeReceiptPayload_eq_iff.mpr
        payload.written_agrees
  · intro key signed payload claimedSignerAddress trustedSignerAddress
      configured
    have isValid :=
      @ReceiptPayload.valid_signSpendReceipt_iff _ _ _ payload signed
        claimedSignerAddress _ ideal configured
    refine ⟨isValid, fun name differs => ?_⟩
    rw [← Bool.not_eq_true, isValid]
    rintro ⟨_, agrees⟩
    exact differs (agrees name)
  · intro payload signature claimedSignerAddress trustedSignerAddress
      malformed
    exact ReceiptPayload.invalid_of_malformed ideal malformed

/-! ## A signed receipt -/

/-- A receipt of five tokens. -/
def fiveTokens : ReceiptPayload where
  fields :=
    [(jsString "contractId", some (.text (jsString "contract-1"))),
      (jsString "amount", some (.text (jsString "5.00"))),
      (jsString "sessionId", some .null),
      (jsString "providerId", none),
      (jsString "chainId",
        some (.finite (chainNumber 31337 (by norm_num))))]
  distinct := by decide +kernel

/-- The same receipt with an amount that was not signed. -/
def sixTokens : ReceiptPayload where
  fields :=
    [(jsString "amount", some (.text (jsString "6.00"))),
      (jsString "chainId",
        some (.finite (chainNumber 31337 (by norm_num)))),
      (jsString "contractId", some (.text (jsString "contract-1"))),
      (jsString "sessionId", some .null)]
  distinct := by decide +kernel

/-- The receipt of five tokens with an infinite session and one more field. -/
def looseTokens : ReceiptPayload where
  fields :=
    [(jsString "contractId", some (.text (jsString "contract-1"))),
      (jsString "amount", some (.text (jsString "5.00"))),
      (jsString "sessionId",
        some (.number (.infinite false) (.infinite false))),
      (protoName, some (.text (jsString "changed"))),
      (jsString "chainId",
        some (.finite (chainNumber 31337 (by norm_num))))]
  distinct := by decide +kernel

example :
    fiveTokens.canonicalizeReceiptPayload =
      "\x7b\"amount\":\"5.00\",\"chainId\":31337,\"contractId\":\"contract-1\",\"sessionId\":null\x7d" := by
  decide +kernel

/-- The address of the private key one. -/
def firstAddress : String :=
  "0x7E5F4552091A69125d5DfCb7b8C2659029395Bdf"

/-- The signature of `fiveTokens` by that key. -/
def fiveTokensSignature : String :=
  "0x930a6950bb1368278ee6a0d43321be52d119df868503e76704454d765f013d0b543ea993d350f4fa9b97b93c3c0158a5512dae56d2617fa8c910667de979d9f71c"

/-- The address that this signature recovers for `sixTokens`. -/
def otherAddress : String :=
  "0x6787Ff41cc71447431711A9e5f6920DF783c357A"

/-- One key, with its signature of the receipt above. -/
def firstKey : SigningLibrary Unit where
  getAddress value :=
    if value = firstAddress ∨ value = lowerText firstAddress then
      some firstAddress
    else if value = otherAddress then some otherAddress
    else none
  signMessage _ message :=
    if message = fiveTokens.canonicalizeReceiptPayload then
      fiveTokensSignature
    else "signed " ++ message
  verifyMessage message signature :=
    if message = fiveTokens.canonicalizeReceiptPayload then
      if signature = fiveTokensSignature then some firstAddress
      else none
    else if signature = "signed " ++ message then some firstAddress
    else if signature = fiveTokensSignature then some otherAddress
    else none
  address _ := firstAddress
  isSignature signature :=
    signature = fiveTokensSignature ||
      "signed ".toList.isPrefixOf signature.toList

theorem signed_ne (message : String) :
    "signed " ++ message ≠ fiveTokensSignature := by
  intro same
  have sameHead :=
    congrArg (fun text : String => text.toList.head?) same
  simp [fiveTokensSignature] at sameHead

theorem firstKey_ideal : firstKey.Ideal where
  verifies key message other := by
    have otherThanFirst : otherAddress ≠ firstAddress := by decide
    by_cases isFive : message = fiveTokens.canonicalizeReceiptPayload
    · by_cases isOtherFive : other = fiveTokens.canonicalizeReceiptPayload
      · simp [firstKey, isFive, isOtherFive]
      · simp [firstKey, isFive, isOtherFive, signed_ne, Ne.symm isOtherFive]
    · by_cases isOtherFive : other = fiveTokens.canonicalizeReceiptPayload
      · simp [firstKey, isFive, isOtherFive, otherThanFirst,
          Ne.symm (signed_ne message)]
      · by_cases same : message = other
        · simp [firstKey, isOtherFive, same]
        · simp [firstKey, isFive, isOtherFive, signed_ne, same,
            Ne.symm same]
  malformed message signature isMalformed := by
    simp only [firstKey, Bool.or_eq_false_iff, decide_eq_false_iff_not]
      at isMalformed
    have notSigned : signature ≠ "signed " ++ message := by
      rintro rfl
      simp at isMalformed
    simp [firstKey, isMalformed.1, notSigned]
  keyAddress key := by
    simp [firstKey]
  recovered message signature address isRecovered := by
    have isAddress : address = firstAddress ∨ address = otherAddress := by
      simp only [firstKey] at isRecovered
      grind
    rcases isAddress with rfl | rfl
    · decide
    · decide
  addressCase value other address otherResult isValue isOther sameCase := by
    have known :
        ∀ text result,
          firstKey.getAddress text = some result →
          result = firstAddress ∨ result = otherAddress := by
      intro text result isResult
      simp only [firstKey] at isResult
      grind
    rcases known value address isValue with rfl | rfl
    · rcases known other otherResult isOther with rfl | rfl
      · rfl
      · exact absurd sameCase (by decide)
    · rcases known other otherResult isOther with rfl | rfl
      · exact absurd sameCase (by decide)
      · rfl

theorem firstKey_configured :
    ∀ address,
      firstKey.getAddress firstAddress = some address →
      address = firstKey.address () := by
  intro address isAddress
  simpa [firstKey, eq_comm] using isAddress

/-- The signed receipt is valid, and with another amount it is not. -/
theorem fiveTokens_valid :
    (fiveTokens.verifySpendReceiptAgainstTrustedSigner firstKey
        (fiveTokens.signSpendReceipt firstKey ()).signature
        (lowerText firstAddress) firstAddress).valid = true ∧
      (sixTokens.verifySpendReceiptAgainstTrustedSigner firstKey
        (fiveTokens.signSpendReceipt firstKey ()).signature
        (lowerText firstAddress) firstAddress).valid = false := by
  constructor
  · apply
      ((receipts_bindFields firstKey_ideal).2.2.1 () fiveTokens fiveTokens
        (lowerText firstAddress) firstAddress firstKey_configured).1.mpr
    exact
      ⟨⟨firstAddress, firstAddress, by decide, by decide, rfl⟩,
        fun name => rfl⟩
  · apply
      ((receipts_bindFields firstKey_ideal).2.2.1 () fiveTokens sixTokens
        (lowerText firstAddress) firstAddress firstKey_configured).2
        (jsString "amount")
    intro same
    have sameAmount : jsString "6.00" = jsString "5.00" :=
      ReceiptValue.text.inj (Option.some.inj same)
    exact absurd (jsString_injective sameAmount) (by decide)

/--
A signed `null` that is changed to an infinite number, and a field `__proto__`
that is added, leave the text and so the receipt valid.
-/
theorem looseTokens_valid :
    firstKey.Ideal ∧
      fiveTokens.value (jsString "sessionId") ≠
        looseTokens.value (jsString "sessionId") ∧
      fiveTokens.value protoName ≠ looseTokens.value protoName ∧
      fiveTokens.canonicalizeReceiptPayload =
        looseTokens.canonicalizeReceiptPayload ∧
      (looseTokens.verifySpendReceiptAgainstTrustedSigner firstKey
        (fiveTokens.signSpendReceipt firstKey ()).signature
        (lowerText firstAddress) firstAddress).valid = true := by
  refine ⟨firstKey_ideal, ?_, ?_, ?_, ?_⟩
  · intro same
    cases Option.some.inj same
  · intro same
    cases same
  · decide +kernel
  · decide +kernel

end Sparkz
