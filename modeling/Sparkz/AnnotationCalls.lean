import Sparkz.AnnotationEvidence
import Sparkz.InterleavingRun

namespace Sparkz

open Interleaving

/-!
# Calls of the annotation endpoint

`createAdminCorrectionAnnotation` after the body of its request was parsed: the
lock of the request, the replay of a stored annotation, and the insert of a new
one.  Other programs may change the evidence between any two of its statements.
-/

/-! ## Operations -/

/-- A statement on the annotation table. -/
inductive AnnotationStatement where
  /-- `hasTable('admin_correction_annotations')`. -/
  | hasTable
  /-- `select pg_advisory_xact_lock(hashtext(?))`. -/
  | lock : (key : String) → AnnotationStatement
  | existingAnnotationRow :
      (actorId : String) →
      (clientRequestId : Uuid) →
      AnnotationStatement
  | insert : AnnotationDraft → AnnotationStatement

def AnnotationStatement.Result : AnnotationStatement → Type
  | .hasTable => Bool
  | .lock _ => Unit
  | .existingAnnotationRow _ _ => Option AnnotationRow
  | .insert _ => AnnotationRow

/-- What a call issues, or another program does to the evidence. -/
inductive AnnotationOp where
  | query : AnnotationStatement → AnnotationOp
  | read : EvidenceQuery → AnnotationOp
  | commit
  | rollback
  /-- The caller of the endpoint receives a response. -/
  | deliver : AdminCorrectionAnnotationResponse → AnnotationOp
  /-- Another program writes the evidence tables. -/
  | change : (Evidence → Evidence) → AnnotationOp

def AnnotationOp.Answer : AnnotationOp → Type
  | .query statement => Except AnnotationFailure statement.Result
  | .read evidence => Except AnnotationFailure evidence.Result
  | .commit => Except AnnotationFailure Unit
  | .rollback | .deliver _ | .change _ => Unit

def annotationDatabase : Signature where
  Op := AnnotationOp
  Answer := AnnotationOp.Answer

abbrev AnnotationProgram := Program annotationDatabase AnnotationFailure

/-- Issue a statement that may fail. -/
def annotationQuery
    (statement : AnnotationStatement) :
    AnnotationProgram statement.Result :=
  .perform (.query statement) fun answer => .ofExcept answer

/-- Read the evidence tables. -/
def readEvidence (query : EvidenceQuery) : AnnotationProgram query.Result :=
  .perform (.read query) fun answer => .ofExcept answer

/-- Throw an error of the endpoint. -/
def orRefuse {α : Type} :
    Except AdminEvidenceError α → AnnotationProgram α
  | .ok value => .done value
  | .error error => .fail (.adminEvidence error)

/-! ## Subject and reference -/

/-- The user of a row, if it names one and there is a table of users. -/
def readUser
    (userId : Option String) :
    AnnotationProgram (Option UserRecord) :=
  match orNull userId with
  | none => .done none
  | some id => do
      match ← readEvidence .hasUsers with
      | false => .done none
      | true => readEvidence (.user id)

/-- What a selected row stands for. -/
def readReference
    (table : EvidenceTable)
    (row : EvidenceRecord) :
    AnnotationProgram ResolvedReference := do
  let user ← readUser row.user_id
  return resolvedReference table row user

def subjectSchemaUnavailable : AdminEvidenceError :=
  ⟨503, "ANNOTATION_SUBJECT_SCHEMA_UNAVAILABLE",
    "The selected evidence subject is temporarily unavailable"⟩

def subjectNotFound : AdminEvidenceError :=
  ⟨404, "ANNOTATION_SUBJECT_NOT_FOUND",
    "The selected evidence subject was not found"⟩

/-- `targetContext(trx, request)`. -/
def targetContext
    (request : AdminCorrectionAnnotationRequest) :
    AnnotationProgram ResolvedReference := do
  let table := tableForSubject request.subjectType
  match ← readEvidence (.hasTable table) with
  | false => .fail (.adminEvidence subjectSchemaUnavailable)
  | true => do
      match ← readEvidence (.withId table request.subjectId.text) with
      | none => .fail (.adminEvidence subjectNotFound)
      | some row => readReference table row

/-- The candidates that rows stand for, one after the other. -/
def readReferences
    (table : EvidenceTable) :
    List EvidenceRecord →
    AnnotationProgram (List ResolvedReference)
  | [] => .done []
  | row :: rows => do
      let candidate ← readReference table row
      let candidates ← readReferences table rows
      return candidate :: candidates

/-- The candidates of one table, and whether it has too many. -/
def tableCandidates
    (hash : TransactionHash)
    (table : EvidenceTable) :
    AnnotationProgram (List ResolvedReference × Bool) := do
  match ← readEvidence (.hasTable table) with
  | false => .done ([], false)
  | true => do
      let rows ← readEvidence (.withHash table hash)
      let candidates ←
        readReferences table (rows.take ADMIN_REFERENCE_CANDIDATE_LIMIT)
      let candidateOverflow :=
        decide (ADMIN_REFERENCE_CANDIDATE_LIMIT < rows.length)
      return (candidates, candidateOverflow)

/-- `transactionReference(trx, hash)`. -/
def transactionReference
    (hash : TransactionHash) :
    AnnotationProgram ResolvedReference := do
  let operations ← tableCandidates hash .tokenOperations
  let awards ← tableCandidates hash .awards
  let spends ← tableCandidates hash .spends
  orRefuse <|
    selectReference (operations.1 ++ awards.1 ++ spends.1)
      (operations.2 || awards.2 || spends.2)

/-- The reference of an external case. -/
def externalCase : ResolvedReference where
  provenance := .externalCase
  operationKey := none
  chainId := none
  tokenContractAddress := none
  uid := none
  walletAddress := none

/-- The reference of a request, which must not contradict its subject. -/
def resolveReference
    (request : AdminCorrectionAnnotationRequest)
    (target : ResolvedReference) :
    AnnotationProgram ResolvedReference :=
  match request.reference with
  | .case _ => .done externalCase
  | .transaction hash => do
      let resolved ← transactionReference hash
      orRefuse (referenceMatchesTarget target resolved)
      return resolved

/-! ## Creating an annotation -/

/-- The text, as bound, whose hash is the advisory lock of a request. -/
def annotationLockKey (actorId : String) (clientRequestId : Uuid) : String :=
  "admin-correction-annotation:" ++ actorId ++ ":" ++ clientRequestId.text

/-- The row that a request asks to insert, as the driver encodes it. -/
def annotationDraft
    (request : AdminCorrectionAnnotationRequest)
    (actorId : JsString)
    (resolved : ResolvedReference) :
    AnnotationDraft where
  client_request_id := request.clientRequestId
  subject_type := request.subjectType
  subject_id := request.subjectId
  reference_type := request.reference.type
  reference_value := request.reference.text.encoded
  reason := request.reason.encoded
  actor_type := "admin_session"
  actor_id := actorId.encoded
  reference_provenance := resolved.provenance
  reference_operation_key := resolved.operationKey
  reference_chain_id := resolved.chainId
  reference_token_contract_address := resolved.tokenContractAddress

/-- No text that a request of an actor stores has an unpaired surrogate. -/
structure AdminCorrectionAnnotationRequest.WellFormed
    (request : AdminCorrectionAnnotationRequest)
    (actorId : JsString) :
    Prop where
  actorId : actorId.IsWellFormed
  reference : request.reference.text.IsWellFormed
  reason : request.reason.IsWellFormed

/-- The database keeps a request as it is exactly if it is well formed. -/
theorem annotationDraft_holds_iff
    {request : AdminCorrectionAnnotationRequest}
    {actorId : JsString}
    {resolved : ResolvedReference} :
    (annotationDraft request actorId resolved).Holds actorId request ↔
      request.WellFormed actorId := by
  constructor
  · intro holds
    exact
      ⟨JsString.isWellFormed_iff.mpr holds.actorId,
        JsString.isWellFormed_iff.mpr holds.reference,
        JsString.isWellFormed_iff.mpr holds.reason⟩
  · intro wellFormed
    exact
      { actorId := JsString.isWellFormed_iff.mp wellFormed.actorId
        clientRequestId := rfl
        subjectType := rfl
        subjectId := rfl
        referenceType := rfl
        reference := JsString.isWellFormed_iff.mp wellFormed.reference
        reason := JsString.isWellFormed_iff.mp wellFormed.reason }

def annotationSchemaUnavailable : AdminEvidenceError :=
  ⟨503, "ANNOTATION_SCHEMA_UNAVAILABLE",
    "Correction annotations are temporarily unavailable; migration 025 is required"⟩

def annotationRequestConflict : AdminEvidenceError :=
  ⟨409, "ANNOTATION_REQUEST_CONFLICT",
    "clientRequestId was already used for a different annotation payload"⟩

/-- A new row for a request that no stored annotation has. -/
def annotationInsertion
    (request : AdminCorrectionAnnotationRequest)
    (safeActorId : JsString) :
    AnnotationProgram AnnotationRow := do
  let target ← targetContext request
  let resolved ← resolveReference request target
  annotationQuery (.insert (annotationDraft request safeActorId resolved))

/-- A stored annotation answers a request that it holds. -/
def annotationReplay
    (request : AdminCorrectionAnnotationRequest)
    (safeActorId : JsString)
    (prior : AnnotationRow) :
    AnnotationProgram AnnotationRow :=
  if sameAnnotationPayload prior safeActorId request then .done prior
  else .fail (.adminEvidence annotationRequestConflict)

/-- The callback of the transaction. -/
def annotationTransaction
    (request : AdminCorrectionAnnotationRequest)
    (safeActorId : JsString) :
    AnnotationProgram AnnotationRow := do
  annotationQuery
    (.lock (annotationLockKey safeActorId.encoded request.clientRequestId))
  match ←
      annotationQuery
        (.existingAnnotationRow safeActorId.encoded
          request.clientRequestId) with
  | some prior => annotationReplay request safeActorId prior
  | none => annotationInsertion request safeActorId

/-- Commit what a callback has returned, or roll back. -/
def endTransaction :
    Except AnnotationFailure AnnotationRow →
    AnnotationProgram AnnotationRow
  | .ok row =>
      .perform .commit fun committed => do
        .ofExcept committed
        return row
  | .error error =>
      .perform .rollback fun _ => .fail error

/-- `db.transaction(callback)`. -/
def annotationCommitted
    (callback : AnnotationProgram AnnotationRow) :
    AnnotationProgram AnnotationRow :=
  callback.attempt >>= endTransaction

/-- `createAdminCorrectionAnnotation(request, actorId)`, up to its response. -/
def createAdminCorrectionAnnotation
    (request : AdminCorrectionAnnotationRequest)
    (actorId : JsString) :
    AnnotationProgram AnnotationRow := do
  let safeActorId ←
    orRefuse (ensureAnnotationText (some (.text actorId)) "actorId" 160)
  match ← annotationQuery .hasTable with
  | false => .fail (.adminEvidence annotationSchemaUnavailable)
  | true => annotationCommitted (annotationTransaction request safeActorId)

/-! ## Threads -/

/-- A request to the endpoint, or a write of another program. -/
inductive AnnotationCall where
  | create :
      (body : Option AnnotationBody) →
      (adminIdentity : JsString) →
      AnnotationCall
  | change : (Evidence → Evidence) → AnnotationCall

/-- The caller receives the annotation of a row. -/
def deliverAnnotation
    (runtime : AnnotationRuntime)
    (row : AnnotationRow) :
    AnnotationProgram Unit :=
  .perform (.deliver (annotationResponse runtime row)) .done

/-- `POST /admin/correction-annotations` of an authenticated session. -/
def createAnnotationEndpoint
    (runtime : AnnotationRuntime)
    (body : Option AnnotationBody)
    (adminIdentity : JsString) :
    AnnotationProgram Unit := do
  let request ← orRefuse (parseAdminCorrectionAnnotationRequest body)
  let row ← createAdminCorrectionAnnotation request adminIdentity
  deliverAnnotation runtime row

def AnnotationCall.run
    (runtime : AnnotationRuntime) :
    AnnotationCall → AnnotationProgram Unit
  | .create body adminIdentity =>
      createAnnotationEndpoint runtime body adminIdentity
  | .change write => .perform (.change write) .done

end Sparkz
