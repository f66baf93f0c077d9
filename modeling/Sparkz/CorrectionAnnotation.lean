import Sparkz.EvidenceRows
import Sparkz.JsStrings
import Sparkz.RewardPolicyValidation
import Sparkz.UnitTexts

namespace Sparkz

/-!
# Correction annotations

The requests of `parseAdminCorrectionAnnotationRequest` and the rows of the
annotation table.  Identifiers are kept in lower case and texts without blanks
around them, so that a repeated request has the spelling of the first one.  A
row holds what the driver has made of a text: the replacement character stands
where a request has an unpaired surrogate.
-/

open JsonText

/-! ## Errors -/

/-- `AdminEvidenceError`. -/
structure AdminEvidenceError where
  statusCode : Nat
  code : String
  message : String
  deriving Repr, DecidableEq

/-- What a call of the annotation endpoint throws. -/
inductive AnnotationFailure where
  | adminEvidence : AdminEvidenceError → AnnotationFailure
  /-- An error that the database has raised. -/
  | database : (message : String) → AnnotationFailure
  deriving Repr, DecidableEq

def invalidRequest (message : String) : AdminEvidenceError :=
  ⟨400, "INVALID_ANNOTATION_REQUEST", message⟩

/-! ## Safe texts -/

/-- `SAFE_TEXT_CONTROL_PATTERN.test(text)`. -/
def hasControlCharacter (text : JsString) : Bool :=
  text.any fun unit =>
    unit.val ≤ 0x8 || unit.val = 0xb || unit.val = 0xc ||
      (0xe ≤ unit.val && unit.val ≤ 0x1f) || unit.val = 0x7f

/-- `safeString(value, maxLength)` of a column. -/
def safeString (value : Option String) (maxLength : Nat) : Option String :=
  (value.map trimText).filter fun trimmed =>
    trimmed != "" && codeUnits trimmed ≤ maxLength &&
      !hasControlCharacter (jsString trimmed)

/-- A safe text is not empty. -/
theorem safeString_ne_empty
    {value : Option String}
    {maxLength : Nat}
    {text : String}
    (safe : safeString value maxLength = some text) :
    text ≠ "" := by
  rw [safeString, Option.filter_eq_some_iff] at safe
  have parts := safe.2
  simp only [Bool.and_eq_true, bne_iff_ne] at parts
  exact parts.1.1

/-! ## Identifiers -/

/-- Every character belongs to the set that stands at its place. -/
def matchesEach : List (List Char) → List Char → Bool
  | [], [] => true
  | set :: sets, character :: characters =>
      set.contains character && matchesEach sets characters
  | _, _ => false

/-- The places of an identifier with given first digits of two groups. -/
def uuidPlaces (version variant : List Char) : List (List Char) :=
  List.replicate 8 hexDigits ++ [['-']] ++ List.replicate 4 hexDigits ++
    [['-']] ++ version :: List.replicate 3 hexDigits ++ [['-']] ++
    variant :: List.replicate 3 hexDigits ++ [['-']] ++
    List.replicate 12 hexDigits

/-- A text that a `uuid` column can hold, as the driver spells it. -/
structure Uuid where
  text : String
  wellFormed :
    matchesEach (uuidPlaces hexDigits hexDigits) text.toList = true
  canonical : lowerText text = text

/-- Identifiers are the same when their texts are. -/
theorem Uuid.text_inj {first second : Uuid} :
    first.text = second.text ↔ first = second := by
  rcases first with ⟨first, _, _⟩
  rcases second with ⟨second, _, _⟩
  exact Uuid.mk.injEq .. ▸ Iff.rfl

instance : DecidableEq Uuid :=
  fun _ _ => decidable_of_iff _ Uuid.text_inj

/-- `UUID_PATTERN.test(text)`. -/
def matchesUuidPattern (text : String) : Bool :=
  matchesEach (uuidPlaces "12345".toList "89abAB".toList) text.toList

/-- The lower case of one set of characters lies in another. -/
def LowersInto (set lowerSet : List Char) : Prop :=
  ∀ character ∈ set,
    character.toLower ∈ lowerSet ∧
      character.toLower.toLower = character.toLower

/-- Lower case keeps a character at its place. -/
theorem matchesEach_lower
    {places lowerPlaces : List (List Char)}
    {characters : List Char}
    (lowers : List.Forall₂ LowersInto places lowerPlaces)
    (matched : matchesEach places characters = true) :
    matchesEach lowerPlaces (characters.map Char.toLower) = true ∧
      (characters.map Char.toLower).map Char.toLower =
        characters.map Char.toLower := by
  induction lowers generalizing characters with
  | nil =>
      cases characters with
      | nil =>
          exact ⟨rfl, rfl⟩
      | cons character rest =>
          cases matched
  | cons lowersFirst _ inductionHypothesis =>
      cases characters with
      | nil =>
          cases matched
      | cons character rest =>
          simp only [matchesEach, Bool.and_eq_true,
            List.contains_iff_mem] at matched
          obtain ⟨isIn, isLower⟩ := lowersFirst character matched.1
          obtain ⟨restMatched, restLower⟩ :=
            inductionHypothesis matched.2
          constructor
          · simp [matchesEach, isIn, restMatched]
          · simp only [List.map_cons, isLower, restLower]

theorem LowersInto.hexDigits
    {set : List Char}
    (areHex : set.all hexDigits.contains = true) :
    LowersInto set Sparkz.hexDigits := by
  intro character member
  have isHex :=
    List.contains_iff_mem.mp (List.all_eq_true.mp areHex character member)
  obtain ⟨staysHex, isLower⟩ := lower_hexDigit character isHex
  exact ⟨List.contains_iff_mem.mp staysHex, isLower⟩

/-- The places of a request's identifier admit lower case. -/
theorem uuidPlaces_lower :
    List.Forall₂ LowersInto (uuidPlaces "12345".toList "89abAB".toList)
      (uuidPlaces hexDigits hexDigits) := by
  have digit : LowersInto hexDigits hexDigits :=
    .hexDigits (by decide +kernel)
  have version : LowersInto "12345".toList hexDigits :=
    .hexDigits (by decide +kernel)
  have variant : LowersInto "89abAB".toList hexDigits :=
    .hexDigits (by decide +kernel)
  have dash : LowersInto ['-'] ['-'] := by
    simp [LowersInto]
  simp only [uuidPlaces, List.replicate, List.cons_append, List.nil_append,
    List.forall₂_cons, List.Forall₂.nil, digit, version, variant, dash,
    and_self]

/-- The identifier that a text spells, if it matches the pattern. -/
@[irreducible]
def uuid? (text : String) : Option Uuid :=
  if matched : matchesUuidPattern text = true then
    some
      { text := lowerText text
        wellFormed := by
          rw [lowerText, String.toList_ofList]
          exact (matchesEach_lower uuidPlaces_lower matched).1
        canonical := by
          simp only [lowerText, String.toList_ofList]
          rw [(matchesEach_lower uuidPlaces_lower matched).2] }
  else none

/-! ## Requests -/

/-- `AdminCorrectionAnnotationSubjectType`. -/
inductive AnnotationSubjectType where
  | tokenOperation
  | award
  | spend
  deriving Repr, DecidableEq

/-- `AdminCorrectionAnnotationReferenceType`. -/
inductive AnnotationReferenceType where
  | transaction
  | case
  deriving Repr, DecidableEq

/-- A reference of either type; that of a transaction is a canonical hash. -/
inductive AnnotationReference where
  | transaction : TransactionHash → AnnotationReference
  | case : JsString → AnnotationReference
  deriving DecidableEq

namespace AnnotationReference

/-- `request.referenceType`. -/
def type : AnnotationReference → AnnotationReferenceType
  | .transaction _ => .transaction
  | .case _ => .case

/-- `request.reference`. -/
def text : AnnotationReference → JsString
  | .transaction hash => jsString hash.text
  | .case text => text

end AnnotationReference

/-- `AdminCorrectionAnnotationRequest`. -/
structure AdminCorrectionAnnotationRequest where
  clientRequestId : Uuid
  subjectType : AnnotationSubjectType
  subjectId : Uuid
  reference : AnnotationReference
  reason : JsString
  deriving DecidableEq

/-- A body as its parser has read it. -/
abbrev AnnotationBody := Json NumberValue JsString

/-- `ensureUuid(value, field)`; no unpaired surrogate is a digit. -/
def ensureUuid
    (value : Option AnnotationBody)
    (field : String) :
    Except AdminEvidenceError Uuid :=
  match value with
  | some (.text text) =>
      match uuid? (JsString.encoded (UnitTexts.trim text)) with
      | some uuid => .ok uuid
      | none => .error (invalidRequest (field ++ " must be a UUID"))
  | _ => .error (invalidRequest (field ++ " must be a UUID"))

/-- `ensureAnnotationText(value, field, maxLength)`. -/
def ensureAnnotationText
    (value : Option AnnotationBody)
    (field : String)
    (maxLength : Nat) :
    Except AdminEvidenceError JsString :=
  match value with
  | some (.text value) =>
      let text := UnitTexts.trim value
      if text = [] ∨ maxLength < text.length ∨ hasControlCharacter text then
        .error <| invalidRequest <|
          field ++
            " is empty, too long, or contains unsupported control characters"
      else .ok text
  | _ => .error (invalidRequest (field ++ " must be a string"))

/-- The keys of a body. -/
def annotationKeys : List JsString :=
  ["clientRequestId", "subjectType", "subjectId", "referenceType",
    "reference", "reason"].map jsString

/-- The fields of a body that has exactly the six keys. -/
def requireAnnotationBody
    (value : Option AnnotationBody) :
    Except AdminEvidenceError AnnotationBody :=
  match value with
  | some (.object fields) =>
      if fields.any (fun field => !annotationKeys.contains field.1) ||
          annotationKeys.any
            (fun key => !(fields.map Prod.fst).contains key) then
        .error <| invalidRequest
          "Body must contain only clientRequestId, subjectType, subjectId, referenceType, reference, and reason"
      else .ok (.object fields)
  | _ => .error (invalidRequest "Body must be an object")

/-- The text of a field, to be compared with texts of the code. -/
def spelledText : Option AnnotationBody → Option String
  | some (.text text) => some text.encoded
  | _ => none

def requireSubjectType
    (value : Option AnnotationBody) :
    Except AdminEvidenceError AnnotationSubjectType :=
  match spelledText value with
  | some "token_operation" => .ok .tokenOperation
  | some "award" => .ok .award
  | some "spend" => .ok .spend
  | _ => .error (invalidRequest "subjectType is not supported")

def requireReferenceType
    (value : Option AnnotationBody) :
    Except AdminEvidenceError AnnotationReferenceType :=
  match spelledText value with
  | some "transaction" => .ok .transaction
  | some "case" => .ok .case
  | _ =>
      .error (invalidRequest "referenceType must be transaction or case")

/-- The reference of a type that a text stands for. -/
def requireReference
    (referenceType : AnnotationReferenceType)
    (reference : JsString) :
    Except AdminEvidenceError AnnotationReference :=
  match referenceType with
  | .case => .ok (.case reference)
  | .transaction =>
      match canonicalTransactionHash reference.encoded with
      | some hash => .ok (.transaction hash)
      | none =>
          .error <| invalidRequest
            "transaction reference must be a canonical 0x-prefixed 32-byte hash"

/-- `parseAdminCorrectionAnnotationRequest(value)`. -/
def parseAdminCorrectionAnnotationRequest
    (value : Option AnnotationBody) :
    Except AdminEvidenceError AdminCorrectionAnnotationRequest := do
  let body ← requireAnnotationBody value
  let field := fun name => body.field? (jsString name)
  let clientRequestId ←
    ensureUuid (field "clientRequestId") "clientRequestId"
  let subjectType ← requireSubjectType (field "subjectType")
  let referenceType ← requireReferenceType (field "referenceType")
  let text ← ensureAnnotationText (field "reference") "reference" 320
  let reference ← requireReference referenceType text
  let subjectId ← ensureUuid (field "subjectId") "subjectId"
  let reason ← ensureAnnotationText (field "reason") "reason" 2000
  return { clientRequestId, subjectType, subjectId, reference, reason }

/-! ## Rows -/

/-- What a stored reference was resolved by. -/
inductive ReferenceProvenance where
  | retainedOperation
  | retainedAward
  | retainedSpend
  | externalCase
  | unknown
  | conflictUnknown
  deriving Repr, DecidableEq

/-- The columns that an insert into the annotation table supplies. -/
structure AnnotationDraft where
  client_request_id : Uuid
  subject_type : AnnotationSubjectType
  subject_id : Uuid
  reference_type : AnnotationReferenceType
  reference_value : String
  reason : String
  actor_type : String
  actor_id : String
  reference_provenance : ReferenceProvenance
  reference_operation_key : Option String
  reference_chain_id : Option String
  reference_token_contract_address : Option String
  deriving DecidableEq

/-- A row; `created_at` as the date it stands for. -/
structure AnnotationRow extends AnnotationDraft where
  id : String
  created_at : Option Int
  deriving DecidableEq

/-- The columns of `admin_correction_annotations_actor_request_unique`. -/
def AnnotationDraft.key (draft : AnnotationDraft) : String × Uuid :=
  (draft.actor_id, draft.client_request_id)

/-- `sameAnnotationPayload(row, actorId, request)`. -/
def sameAnnotationPayload
    (row : AnnotationRow)
    (actorId : JsString)
    (request : AdminCorrectionAnnotationRequest) :
    Bool :=
  jsString row.actor_id == actorId &&
    lowerText row.client_request_id.text == request.clientRequestId.text &&
    row.subject_type == request.subjectType &&
    lowerText row.subject_id.text == request.subjectId.text &&
    row.reference_type == request.reference.type &&
    jsString row.reference_value == request.reference.text &&
    jsString row.reason == request.reason

/-- A row spells what a request of an actor asks to store. -/
structure AnnotationDraft.Holds
    (draft : AnnotationDraft)
    (actorId : JsString)
    (request : AdminCorrectionAnnotationRequest) :
    Prop where
  actorId : jsString draft.actor_id = actorId
  clientRequestId : draft.client_request_id = request.clientRequestId
  subjectType : draft.subject_type = request.subjectType
  subjectId : draft.subject_id = request.subjectId
  referenceType : draft.reference_type = request.reference.type
  reference : jsString draft.reference_value = request.reference.text
  reason : jsString draft.reason = request.reason

/-- Identifiers are compared by their texts, which are in lower case. -/
theorem Uuid.lower_eq_iff (first second : Uuid) :
    lowerText first.text = second.text ↔ first = second := by
  rw [first.canonical]
  constructor
  · intro same
    cases first
    cases second
    cases same
    rfl
  · rintro rfl
    rfl

/-- The comparison of the code decides whether a row holds a request. -/
theorem sameAnnotationPayload_iff
    {row : AnnotationRow}
    {actorId : JsString}
    {request : AdminCorrectionAnnotationRequest} :
    sameAnnotationPayload row actorId request = true ↔
      row.Holds actorId request := by
  simp only [sameAnnotationPayload, Bool.and_eq_true, beq_iff_eq,
    Uuid.lower_eq_iff]
  constructor
  · rintro ⟨⟨⟨⟨⟨⟨actor, identifier⟩, subject⟩, subjectId⟩, type⟩, text⟩,
      reason⟩
    exact ⟨actor, identifier, subject, subjectId, type, text, reason⟩
  · rintro ⟨actor, identifier, subject, subjectId, type, text, reason⟩
    exact
      ⟨⟨⟨⟨⟨⟨actor, identifier⟩, subject⟩, subjectId⟩, type⟩, text⟩, reason⟩

/-! ## Answers -/

/-- What the endpoint asks of its runtime and of the database. -/
structure AnnotationRuntime where
  /-- `date.toISOString()`. -/
  toISOString : Int → String
  /-- The hexadecimal SHA-256 digest of a text. -/
  sha256 : String → String
  /-- `hashtext(text)`. -/
  hashtext : String → Int

/-- `opaqueReference(value, namespace)`. -/
def opaqueReference
    (runtime : AnnotationRuntime)
    (value : Option String)
    (mark : String) :
    Option String :=
  (safeString value 320).map fun text =>
    mark ++ "_" ++ sliceText (runtime.sha256 text) 24

/-- The `resolvedReference` of an annotation. -/
structure AnnotationResolvedReference where
  provenance : ReferenceProvenance
  operationKey : Option String
  chainId : Option String
  tokenContractAddress : Option String
  deriving DecidableEq

/-- `AdminCorrectionAnnotation`. -/
structure AdminCorrectionAnnotation where
  id : String
  clientRequestId : String
  subjectType : AnnotationSubjectType
  subjectId : String
  referenceType : AnnotationReferenceType
  reference : String
  reason : String
  actorType : String
  actorId : String
  createdAt : String
  resolvedReference : AnnotationResolvedReference
  deriving DecidableEq

/-- `annotationFromRow(row)`. -/
def annotationFromRow
    (runtime : AnnotationRuntime)
    (row : AnnotationRow) :
    AdminCorrectionAnnotation where
  id := row.id
  clientRequestId := row.client_request_id.text
  subjectType := row.subject_type
  subjectId := row.subject_id.text
  referenceType := row.reference_type
  reference := row.reference_value
  reason := row.reason
  actorType := "admin_session"
  actorId := row.actor_id
  createdAt := runtime.toISOString (row.created_at.getD 0)
  resolvedReference :=
    { provenance := row.reference_provenance
      operationKey :=
        opaqueReference runtime (safeString row.reference_operation_key 240)
          "op"
      chainId := safeString row.reference_chain_id 80
      tokenContractAddress :=
        safeString row.reference_token_contract_address 42 }

/-- `AdminCorrectionAnnotationResponse`. -/
structure AdminCorrectionAnnotationResponse where
  status : String
  financial : Bool
  annotation : AdminCorrectionAnnotation
  deriving DecidableEq

def annotationResponse
    (runtime : AnnotationRuntime)
    (row : AnnotationRow) :
    AdminCorrectionAnnotationResponse :=
  ⟨"ok", false, annotationFromRow runtime row⟩

end Sparkz
