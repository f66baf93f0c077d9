import Sparkz.AnnotationReads
import Sparkz.AnnotationStore
import Sparkz.InterleavingPast

namespace Sparkz

open Interleaving

/-!
# Annotations are append-only and idempotent

The advisory lock of a request is held from the lookup of its annotation to the
end of the transaction.  So a call that found no annotation inserts the first
one, and every later call of the same request finds it.
-/

/-! ## What a call asks for -/

/-- The parsed request and the safe actor of a call that has both. -/
def AnnotationCall.asks? :
    AnnotationCall → Option (AdminCorrectionAnnotationRequest × JsString)
  | .create body adminIdentity =>
      match parseAdminCorrectionAnnotationRequest body,
        ensureAnnotationText (some (.text adminIdentity)) "actorId" 160 with
      | .ok request, .ok safeActorId => some (request, safeActorId)
      | _, _ => none
  | .change _ => none

/-- No text that a call stores has an unpaired surrogate. -/
def AnnotationCall.WellFormed (call : AnnotationCall) : Prop :=
  ∀ request actorId,
    call.asks? = some (request, actorId) → request.WellFormed actorId

/-- The lookup of the annotation of a request, with its answer. -/
def lookup
    (request : AdminCorrectionAnnotationRequest)
    (actorId : JsString)
    (found : Option AnnotationRow) :
    Event annotationDatabase :=
  ⟨.query (.existingAnnotationRow actorId.encoded request.clientRequestId),
    .ok found⟩

/-! ## The stages of a transaction -/

/-- How far a call is in its transaction. -/
inductive AnnotationStage where
  | outside
  | locked : (key : String) → AnnotationStage
  /-- No annotation was found under a key. -/
  | absent : (key : String × Uuid) → AnnotationStage
  | inserted : (row : AnnotationRow) → AnnotationStage

/-- The stage of a call after its own events. -/
def stage : List (Event annotationDatabase) → AnnotationStage
  | [] => .outside
  | ⟨.query (.lock key), .ok _⟩ :: _ => .locked key
  | ⟨.query (.existingAnnotationRow actorId clientRequestId), .ok none⟩ :: _ =>
      .absent (actorId, clientRequestId)
  | ⟨.query (.insert _), .ok row⟩ :: _ => .inserted row
  | ⟨.commit, _⟩ :: _ | ⟨.rollback, _⟩ :: _ => .outside
  | _ :: earlier => stage earlier

/-- The row that a call has inserted and committed. -/
def saved : List (Event annotationDatabase) → Option AnnotationRow
  | [] => none
  | ⟨.commit, .ok _⟩ :: earlier =>
      match stage earlier with
      | .inserted row => some row
      | _ => saved earlier
  | _ :: earlier => saved earlier

/-- The lock under which the annotation of a key is inserted. -/
def AnnotationRuntime.lockOf
    (runtime : AnnotationRuntime)
    (key : String × Uuid) :
    Int :=
  runtime.hashtext (annotationLockKey key.1 key.2)

/-- What the database keeps for a call at a stage. -/
def AnnotationStage.Kept
    (runtime : AnnotationRuntime)
    (thread : Nat)
    (store : AnnotationStore) :
    AnnotationStage → Prop
  | .outside => store.pending thread = []
  | .locked key =>
      store.pending thread = [] ∧
        (thread, runtime.hashtext key) ∈ store.locks
  | .absent key =>
      store.pending thread = [] ∧
        (thread, runtime.lockOf key) ∈ store.locks
  | .inserted row =>
      store.pending thread = [row] ∧
        (thread, runtime.lockOf row.key) ∈ store.locks

/-! ## What one call may issue -/

/-- A row that a call may return. -/
def Returned
    (call : AnnotationCall)
    (past : List (Event annotationDatabase))
    (row : AnnotationRow) :
    Prop :=
  ∃ request actorId,
    call.asks? = some (request, actorId) ∧
      ((lookup request actorId (some row) ∈ past ∧
          row.Holds actorId request) ∨
        (lookup request actorId none ∈ past ∧ saved past = some row))

/-- A draft that a call may insert. -/
def Drafted
    (call : AnnotationCall)
    (past : List (Event annotationDatabase))
    (draft : AnnotationDraft) :
    Prop :=
  ∃ request actorId resolved,
    call.asks? = some (request, actorId) ∧
      draft = annotationDraft request actorId resolved ∧
      ∀ hash,
        request.reference = .transaction hash →
        ∀ evidence : Evidence, evidence.Explains past →
          evidence.Supports request hash

/-- A call looks up before it reads, and reads before it inserts. -/
def AnnotationCall.permits
    (runtime : AnnotationRuntime)
    (call : AnnotationCall) :
    Protocol annotationDatabase :=
  fun past op =>
    match op with
    | .query .hasTable => True
    | .query (.lock _) => stage past = .outside
    | .query (.existingAnnotationRow actorId clientRequestId) =>
        stage past = .locked (annotationLockKey actorId clientRequestId)
    | .read _ =>
        ∃ request actorId,
          call.asks? = some (request, actorId) ∧
            lookup request actorId none ∈ past
    | .query (.insert draft) =>
        stage past = .absent draft.key ∧ Drafted call past draft
    | .commit | .rollback => True
    | .deliver response =>
        ∃ row,
          Returned call past row ∧
            response = annotationResponse runtime row
    | .change write => call = .change write

/-- An error that a statement on the annotation table was answered with. -/
def Raised
    (past : List (Event annotationDatabase))
    (error : AnnotationFailure) :
    Prop :=
  (∃ statement,
    (⟨.query statement, .error error⟩ : Event annotationDatabase) ∈ past) ∨
    (⟨.commit, .error error⟩ : Event annotationDatabase) ∈ past

/-- How a call with a request ends, as its own events show. -/
def AnnotationCall.Ended
    (runtime : AnnotationRuntime)
    (call : AnnotationCall) :
    Except AnnotationFailure Unit → List (Event annotationDatabase) → Prop
  | .ok (), past =>
      ∀ request actorId,
        call.asks? = some (request, actorId) →
        ∃ row,
          Returned call past row ∧
            (⟨.deliver (annotationResponse runtime row), ()⟩ :
              Event annotationDatabase) ∈ past
  | .error error, past =>
      ∀ request actorId,
        call.asks? = some (request, actorId) →
          lookup request actorId none ∈ past ∨
          (∃ row,
            lookup request actorId (some row) ∈ past ∧
              ¬row.Holds actorId request ∧
              error = .adminEvidence annotationRequestConflict) ∨
          (⟨.query .hasTable, .ok false⟩ : Event annotationDatabase) ∈
            past ∨
          Raised past error

section Calls

variable {runtime : AnnotationRuntime} {call : AnnotationCall}
  {request : AdminCorrectionAnnotationRequest} {actorId : JsString}
  {past reached : List (Event annotationDatabase)}

/-- Reading the evidence leaves the stage of a call. -/
theorem stage_of_reads (extended : ExtendsBy readsOnly past reached) :
    stage reached = stage past := by
  induction extended with
  | none =>
      rfl
  | perform _ permitted answer inductionHypothesis =>
      obtain ⟨query, rfl⟩ := permitted
      exact inductionHypothesis

/-- What the callback of the transaction may return or throw. -/
def CallbackEnded
    (request : AdminCorrectionAnnotationRequest)
    (actorId : JsString) :
    Except AnnotationFailure AnnotationRow →
      List (Event annotationDatabase) → Prop
  | .ok row, past =>
      (lookup request actorId (some row) ∈ past ∧
          row.Holds actorId request) ∨
        (lookup request actorId none ∈ past ∧ stage past = .inserted row)
  | .error error, past =>
      lookup request actorId none ∈ past ∨
        (∃ row,
          lookup request actorId (some row) ∈ past ∧
            ¬row.Holds actorId request ∧
            error = .adminEvidence annotationRequestConflict) ∨
        Raised past error

/-- A call that found no annotation reads the evidence and inserts. -/
theorem annotationInsertion_obeys
    (asks : call.asks? = some (request, actorId))
    (isAbsent :
      stage past = .absent (actorId.encoded, request.clientRequestId))
    (found : lookup request actorId none ∈ past) :
    (annotationInsertion request actorId).Obeys (call.permits runtime) past
      (CallbackEnded request actorId) := by
  refine Program.obeys_bind_assoc.mpr (Program.obeys_bind.mpr ?_)
  have reading :
      ((targetContext request >>= resolveReference request).Obeys
        (call.permits runtime) past _) :=
    (reference_reads past).embed (by
      rintro reached op extended ⟨query, rfl⟩
      exact ⟨request, actorId, asks, extended.subset found⟩)
  refine reading.weaken ?_
  rintro result reached ⟨⟨grown, supports⟩, extended⟩
  cases result with
  | error error =>
      exact Or.inl (grown found)
  | ok resolved =>
      refine ⟨⟨?_, ?_⟩, fun answer => ?_⟩
      · rw [stage_of_reads extended, isAbsent]
        rfl
      · refine ⟨request, actorId, resolved, asks, rfl, ?_⟩
        intro hash isHash evidence explains
        exact supports resolved rfl evidence explains hash isHash
      · cases answer with
        | error error =>
            exact Or.inl (List.mem_cons_of_mem _ (grown found))
        | ok row =>
            exact Or.inr ⟨List.mem_cons_of_mem _ (grown found), rfl⟩

/-- The callback of a transaction keeps to the protocol of its call. -/
theorem annotationTransaction_obeys
    (asks : call.asks? = some (request, actorId))
    (isOutside : stage past = .outside) :
    (annotationTransaction request actorId).Obeys (call.permits runtime)
      past (CallbackEnded request actorId) := by
  refine ⟨isOutside, fun locked => ?_⟩
  cases locked with
  | error error =>
      exact Or.inr (Or.inr (Or.inl ⟨_, List.mem_cons_self⟩))
  | ok _ =>
      refine ⟨rfl, fun answer => ?_⟩
      cases answer with
      | error error =>
          exact Or.inr (Or.inr (Or.inl ⟨_, List.mem_cons_self⟩))
      | ok found =>
          cases found with
          | none =>
              exact annotationInsertion_obeys asks rfl List.mem_cons_self
          | some prior =>
              show Program.Obeys _ (if _ then _ else _) _ _
              split
              · rename_i same
                exact
                  Or.inl
                    ⟨List.mem_cons_self, sameAnnotationPayload_iff.mp same⟩
              · rename_i different
                refine Or.inr (Or.inl ⟨prior, List.mem_cons_self, ?_, rfl⟩)
                rw [← sameAnnotationPayload_iff]
                exact different

/-- What the transaction returns was found, or was saved. -/
theorem annotationCommitted_obeys
    (asks : call.asks? = some (request, actorId))
    (isOutside : stage past = .outside) :
    (annotationCommitted (annotationTransaction request actorId)).Obeys
      (call.permits runtime) past fun result reached =>
        match result with
        | .ok row => Returned call reached row
        | .error error =>
            CallbackEnded request actorId (.error error) reached := by
  show Program.Obeys _ (_ >>= _) _ _
  rw [Program.obeys_bind, Program.obeys_attempt]
  refine (annotationTransaction_obeys asks isOutside).weaken ?_
  intro result reached ended
  have ofThrown :
      ∀ (error : AnnotationFailure) (event : Event annotationDatabase),
        CallbackEnded request actorId (.error error) reached →
        CallbackEnded request actorId (.error error) (event :: reached) := by
    rintro error event
      (found | ⟨row, found, different, isConflict⟩ |
        ⟨statement, raised⟩ | raised)
    · exact Or.inl (List.mem_cons_of_mem _ found)
    · exact
        Or.inr (Or.inl
          ⟨row, List.mem_cons_of_mem _ found, different, isConflict⟩)
    · exact
        Or.inr (Or.inr (Or.inl
          ⟨statement, List.mem_cons_of_mem _ raised⟩))
    · exact Or.inr (Or.inr (Or.inr (List.mem_cons_of_mem _ raised)))
  cases result with
  | error error =>
      exact ⟨trivial, fun _ => ofThrown error _ ended⟩
  | ok row =>
      refine ⟨trivial, fun answer => ?_⟩
      cases answer with
      | error error =>
          exact Or.inr (Or.inr (Or.inr List.mem_cons_self))
      | ok _ =>
          refine ⟨request, actorId, asks, ?_⟩
          rcases ended with ⟨found, holds⟩ | ⟨found, isInserted⟩
          · exact Or.inl ⟨List.mem_cons_of_mem _ found, holds⟩
          · refine Or.inr ⟨List.mem_cons_of_mem _ found, ?_⟩
            show (match stage reached with
              | .inserted row => some row
              | _ => saved reached) = some row
            rw [isInserted]

/-- Every thread keeps to the protocol of its call. -/
theorem AnnotationCall.run_obeys (call : AnnotationCall) :
    (call.run runtime).Obeys (call.permits runtime) []
      (call.Ended runtime) := by
  cases call with
  | change write =>
      refine ⟨rfl, fun _ => ?_⟩
      intro request actorId impossible
      cases impossible
  | create body adminIdentity =>
      show Program.Obeys _ (orRefuse _ >>= _) _ _
      cases isRequest : parseAdminCorrectionAnnotationRequest body with
      | error error =>
          intro request actorId asks
          simp only [AnnotationCall.asks?, isRequest] at asks
          cases asks
      | ok request =>
          show Program.Obeys _ ((orRefuse _ >>= _) >>= _) _ _
          cases isActor :
              ensureAnnotationText (some (.text adminIdentity)) "actorId"
                160 with
          | error error =>
              intro request actorId asks
              simp only [AnnotationCall.asks?, isRequest, isActor] at asks
              cases asks
          | ok safeActorId =>
              have asks :
                  (AnnotationCall.create body adminIdentity).asks? =
                    some (request, safeActorId) := by
                simp only [AnnotationCall.asks?, isRequest, isActor]
              refine ⟨trivial, fun installed => ?_⟩
              cases installed with
              | error error =>
                  intro _ _ _
                  exact
                    Or.inr (Or.inr (Or.inr
                      (Or.inl ⟨_, List.mem_cons_self⟩)))
              | ok available =>
                  cases available with
                  | false =>
                      intro _ _ _
                      exact Or.inr (Or.inr (Or.inl List.mem_cons_self))
                  | true =>
                      show Program.Obeys _ (_ >>= _) _ _
                      rw [Program.obeys_bind]
                      refine
                        (annotationCommitted_obeys asks rfl).weaken ?_
                      intro result reached ended
                      cases result with
                      | error error =>
                          intro other otherActor alsoAsks
                          rw [asks] at alsoAsks
                          cases alsoAsks
                          rcases ended with found | conflict | raised
                          · exact Or.inl found
                          · exact Or.inr (Or.inl conflict)
                          · exact Or.inr (Or.inr (Or.inr raised))
                      | ok row =>
                          refine ⟨⟨row, ended, rfl⟩, fun _ => ?_⟩
                          intro other otherActor alsoAsks
                          refine ⟨row, ?_, List.mem_cons_self⟩
                          obtain ⟨request, actorId, asks, found⟩ := ended
                          refine ⟨request, actorId, asks, ?_⟩
                          rcases found with
                            ⟨found, holds⟩ | ⟨found, isSaved⟩
                          · exact
                              Or.inl ⟨List.mem_cons_of_mem _ found, holds⟩
                          · exact
                              Or.inr ⟨List.mem_cons_of_mem _ found, isSaved⟩

end Calls

/-! ## What a run keeps -/

section Runs

variable {runtime : AnnotationRuntime} {start : AnnotationStart}
  {calls : Nat → AnnotationCall} {config : AnnotationRun}

theorem conforming
    (runtime : AnnotationRuntime)
    (calls : Nat → AnnotationCall) :
    ∀ thread,
      ((calls thread).run runtime).Obeys ((calls thread).permits runtime) []
        ((calls thread).Ended runtime) :=
  fun thread => (calls thread).run_obeys

/-- A stage is kept by what other calls do. -/
theorem AnnotationStage.Kept.foreign
    {thread : Nat}
    {store next : AnnotationStore}
    {reachedStage : AnnotationStage}
    (kept : reachedStage.Kept runtime thread store)
    (samePending : next.pending thread = store.pending thread)
    (sameLocks :
      ∀ lock,
        (thread, lock) ∈ store.locks → (thread, lock) ∈ next.locks) :
    reachedStage.Kept runtime thread next := by
  cases reachedStage with
  | outside =>
      exact samePending.trans kept
  | locked key =>
      exact ⟨samePending.trans kept.1, sameLocks _ kept.2⟩
  | absent key =>
      exact ⟨samePending.trans kept.1, sameLocks _ kept.2⟩
  | inserted row =>
      exact ⟨samePending.trans kept.1, sameLocks _ kept.2⟩

/-- A call reaches its next stage by its own operation. -/
theorem AnnotationStage.Kept.own
    {thread : Nat}
    {call : AnnotationCall}
    {past : List (Event annotationDatabase)}
    {store next : AnnotationStore}
    {op : AnnotationOp}
    {answer : op.Answer}
    (kept : (stage past).Kept runtime thread store)
    (permitted : call.permits runtime past op)
    (responds : store.Responds runtime thread op answer next) :
    (stage (⟨op, answer⟩ :: past)).Kept runtime thread next := by
  cases responds with
  | failed statement error =>
      cases statement with
      | _ =>
          exact kept
  | hasTable =>
      exact kept
  | locked key free =>
      have isOutside : stage past = .outside := permitted
      rw [isOutside] at kept
      exact ⟨kept, List.mem_cons_self⟩
  | lookedUp actorId clientRequestId =>
      have isLocked :
          stage past =
            .locked (annotationLockKey actorId clientRequestId) :=
        permitted
      cases store.find? actorId clientRequestId with
      | none =>
          rw [isLocked] at kept
          exact kept
      | some row =>
          exact kept
  | inserted row isInstalled fresh =>
      have isAbsent : stage past = .absent row.key := permitted.1
      rw [isAbsent] at kept
      refine ⟨?_, kept.2⟩
      rw [AnnotationStore.pending_insert, kept.1]
  | unread query error =>
      exact kept
  | read order query =>
      exact kept
  | committed answer =>
      exact store.pending_release thread
  | dropped error =>
      exact store.pending_release thread
  | rolledBack =>
      exact store.pending_release thread
  | delivered response =>
      exact kept
  | changed write =>
      exact kept

/-- What a call holds in a run is kept for it. -/
theorem stage_kept
    (reached :
      Reachable (annotationSemantics runtime)
        (AnnotationRun.initial runtime start calls) config)
    {thread : Nat}
    {program : AnnotationProgram Unit}
    (running : config.threads thread = some program) :
    (stage (ownPast thread config.history)).Kept runtime thread
      config.shared := by
  refine
    reached.ownFact
      (fun thread past store => (stage past).Kept runtime thread store)
      ?_ ?_ ?_ ?_ running
  · intro thread
    show start.store.pending thread = []
    rw [AnnotationStore.pending, start.noneInserted]
    rfl
  · intro thread owner past store different kept
    exact
      kept.foreign (AnnotationStore.pending_release_foreign different)
        (fun lock => AnnotationStore.lock_release_foreign different)
  · intro before thread op rest choice answer next reached running answered
      kept
    exact
      kept.own (reached.permitted (conforming runtime calls) running)
        (AnnotationStore.responds answered)
  · intro before thread owner op program rest choice answer next different
      _ _ _ answered kept
    obtain ⟨samePending, sameLocks⟩ :=
      (AnnotationStore.responds answered).foreign different
    exact kept.foreign samePending sameLocks

/-- A row is inserted only under its lock. -/
theorem locked_of_inserting
    (reached :
      Reachable (annotationSemantics runtime)
        (AnnotationRun.initial runtime start calls) config)
    {thread : Nat}
    {draft : AnnotationDraft}
    {rest : Except AnnotationFailure AnnotationRow → AnnotationProgram Unit}
    (running :
      config.threads thread =
        some (.perform (.query (.insert draft)) rest)) :
    stage (ownPast thread config.history) = .absent draft.key ∧
      (thread, runtime.lockOf draft.key) ∈ config.shared.locks := by
  have permitted := reached.permitted (conforming runtime calls) running
  have kept := stage_kept reached running
  rw [permitted.1] at kept
  exact ⟨permitted.1, kept.2⟩

/-- Inserted rows are kept under the locks of their transactions. -/
theorem uncommitted_locked
    (reached :
      Reachable (annotationSemantics runtime)
        (AnnotationRun.initial runtime start calls) config) :
    ∀ entry ∈ config.shared.uncommitted,
      (entry.1, runtime.lockOf entry.2.key) ∈ config.shared.locks := by
  have released :
      ∀ {store : AnnotationStore} (thread : Nat),
        (∀ entry ∈ store.uncommitted,
          (entry.1, runtime.lockOf entry.2.key) ∈ store.locks) →
        ∀ entry ∈ (store.release thread).uncommitted,
          (entry.1, runtime.lockOf entry.2.key) ∈
            (store.release thread).locks := by
    intro store thread locked entry member
    obtain ⟨isEntry, foreign⟩ := List.mem_filter.mp member
    exact List.mem_filter.mpr ⟨locked entry isEntry, foreign⟩
  refine
    reached.invariant
      (fun store _ =>
        ∀ entry ∈ store.uncommitted,
          (entry.1, runtime.lockOf entry.2.key) ∈ store.locks)
      ?_ ?_ ?_
  · intro entry member
    have none : start.store.uncommitted = [] := start.noneInserted
    change entry ∈ start.store.uncommitted at member
    rw [none] at member
    cases member
  · intro store history thread locked
    exact released thread locked
  · intro before thread op rest choice answer next reached running answered
      _ locked
    cases AnnotationStore.responds answered with
    | locked key free =>
        intro entry member
        exact List.mem_cons_of_mem _ (locked entry member)
    | inserted row isInstalled fresh =>
        intro entry member
        rcases List.mem_cons.mp member with rfl | older
        · exact (locked_of_inserting reached running).2
        · exact locked entry older
    | committed _ =>
        exact released thread locked
    | dropped _ =>
        exact released thread locked
    | rolledBack =>
        exact released thread locked
    | _ =>
        exact locked

/-- Where a call found no annotation there is none until it inserts one. -/
theorem absent_key
    (reached :
      Reachable (annotationSemantics runtime)
        (AnnotationRun.initial runtime start calls) config)
    {thread : Nat}
    {program : AnnotationProgram Unit}
    (running : config.threads thread = some program) :
    ∀ key,
      stage (ownPast thread config.history) = .absent key →
        key ∉ config.shared.keys := by
  refine
    reached.ownFact
      (fun _ past store =>
        ∀ key, stage past = .absent key → key ∉ store.keys)
      ?_ ?_ ?_ ?_ running
  · intro thread key impossible
    cases impossible
  · intro thread owner past store different fresh key isAbsent member
    exact fresh key isAbsent (store.keys_release owner member)
  · intro before thread op rest choice answer next reached running answered
      fresh key isAbsent
    cases AnnotationStore.responds answered with
    | failed statement error =>
        cases statement with
        | _ =>
            exact fresh key isAbsent
    | hasTable =>
        exact fresh key isAbsent
    | locked key free =>
        cases isAbsent
    | lookedUp actorId clientRequestId =>
        cases isFound : before.shared.find? actorId clientRequestId with
        | some row =>
            rw [isFound] at isAbsent
            exact fresh key isAbsent
        | none =>
            rw [isFound] at isAbsent
            cases isAbsent
            have kept := stage_kept reached running
            have isLocked :=
              reached.permitted (conforming runtime calls) running
            have isStage :
                stage (ownPast thread before.history) =
                  .locked (annotationLockKey actorId clientRequestId) :=
              isLocked
            rw [isStage] at kept
            intro member
            obtain ⟨row, isRow, isKey⟩ := List.mem_map.mp member
            rcases List.mem_append.mp isRow with committed | inserted
            · exact
                AnnotationStore.find?_eq_none isFound
                  (List.mem_map.mpr ⟨row, committed, isKey⟩)
            · obtain ⟨entry, isEntry, isRow⟩ := List.mem_map.mp inserted
              have holdsLock := uncommitted_locked reached entry isEntry
              rw [isRow, isKey] at holdsLock
              have isOwn : entry.1 = thread :=
                before.shared.exclusive _ holdsLock _ kept.2 rfl
              have isPending : row ∈ before.shared.pending thread :=
                List.mem_map.mpr
                  ⟨entry,
                    List.mem_filter.mpr ⟨isEntry, beq_iff_eq.mpr isOwn⟩,
                    isRow⟩
              rw [kept.1] at isPending
              cases isPending
    | inserted row isInstalled fresh =>
        cases isAbsent
    | unread query error =>
        exact fresh key isAbsent
    | read order query =>
        exact fresh key isAbsent
    | committed _ =>
        cases isAbsent
    | dropped _ =>
        cases isAbsent
    | rolledBack =>
        cases isAbsent
    | delivered response =>
        exact fresh key isAbsent
    | changed write =>
        exact fresh key isAbsent
  · intro before thread owner op program rest choice answer next different
      reached running ownerRunning answered fresh key isAbsent member
    have old := fresh key isAbsent
    cases AnnotationStore.responds answered with
    | inserted row isInstalled _ =>
        have inserted : key ∈ row.key :: before.shared.keys := by
          have asFirst :
              (before.shared.rows ++
                row :: before.shared.uncommitted.map Prod.snd).Perm
                (row ::
                  (before.shared.rows ++
                    before.shared.uncommitted.map Prod.snd)) :=
            List.perm_middle
          exact (asFirst.map (·.key)).mem_iff.mp member
        rcases List.mem_cons.mp inserted with rfl | older
        · have ownerLock := (locked_of_inserting reached ownerRunning).2
          have kept := stage_kept reached running
          rw [isAbsent] at kept
          exact
            different
              (before.shared.exclusive _ ownerLock _ kept.2 rfl)
        · exact old older
    | committed _ =>
        exact old (before.shared.keys_commit owner member)
    | dropped _ =>
        exact old (before.shared.keys_release owner member)
    | rolledBack =>
        exact old (before.shared.keys_release owner member)
    | _ =>
        exact old member

/-- The evidence tables after the writes of a history. -/
def evidenceAfter
    (evidence : Evidence) :
    List (Entry annotationDatabase) → Evidence
  | [] => evidence
  | ⟨_, .change write, _⟩ :: earlier =>
      write (evidenceAfter evidence earlier)
  | _ :: earlier => evidenceAfter evidence earlier

/-- What an entry says about the entries before it. -/
def AnnotationEntry
    (evidence : Evidence)
    (calls : Nat → AnnotationCall) :
    Entry annotationDatabase → List (Entry annotationDatabase) → Prop
  | ⟨thread, .query (.insert draft), .ok row⟩, earlier =>
      row.toAnnotationDraft = draft ∧
        Drafted (calls thread) (ownPast thread earlier) draft
  | ⟨thread, .read query, answer⟩, earlier =>
      (∀ result,
        answer = .ok result →
          (evidenceAfter evidence earlier).Answers query result) ∧
        ∃ request actorId,
          (calls thread).asks? = some (request, actorId) ∧
            lookup request actorId none ∈ ownPast thread earlier
  | ⟨thread, .change write, _⟩, _ => calls thread = .change write
  | _, _ => True

/-- What an entry has shown of the table is still so. -/
def ShowsTable (store : AnnotationStore) :
    Entry annotationDatabase → Prop
  | ⟨_, .query .hasTable, .ok installed⟩ => installed = store.installed
  | ⟨_, .query (.existingAnnotationRow _ _), .ok (some row)⟩ =>
      row ∈ store.rows
  | _ => True

/-- A table that only grows shows what it has shown. -/
theorem ShowsTable.grow
    {store next : AnnotationStore}
    {entry : Entry annotationDatabase}
    (shown : ShowsTable store entry)
    (sameInstalled : next.installed = store.installed)
    (grown : store.rows ⊆ next.rows) :
    ShowsTable next entry := by
  unfold ShowsTable at shown ⊢
  split
  · exact shown.trans sameInstalled.symm
  · exact grown shown
  · trivial

/-- A row was there from the start, or some call has inserted it. -/
def Inserted
    (start : AnnotationStart)
    (history : List (Entry annotationDatabase))
    (row : AnnotationRow) :
    Prop :=
  row ∈ start.store.rows ∨
    ∃ thread,
      (⟨thread, .query (.insert row.toAnnotationDraft), .ok row⟩ :
        Entry annotationDatabase) ∈ history

theorem Inserted.later
    {history : List (Entry annotationDatabase)}
    {row : AnnotationRow}
    (inserted : Inserted start history row)
    (entry : Entry annotationDatabase) :
    Inserted start (entry :: history) row := by
  rcases inserted with old | ⟨thread, inserted⟩
  · exact Or.inl old
  · exact Or.inr ⟨thread, List.mem_cons_of_mem _ inserted⟩

/-- What the history says about the tables. -/
structure AnnotationInvariant
    (start : AnnotationStart)
    (calls : Nat → AnnotationCall)
    (store : AnnotationStore)
    (history : List (Entry annotationDatabase)) :
    Prop where
  evidence : store.evidence = evidenceAfter start.store.evidence history
  entries :
    EachEntry (AnnotationEntry start.store.evidence calls) history
  inserted :
    ∀ row ∈ store.rows ++ store.uncommitted.map Prod.snd,
      Inserted start history row
  shown : ∀ entry ∈ history, ShowsTable store entry

/-- Giving up a transaction changes nothing that the history tells of. -/
theorem AnnotationInvariant.release
    {store : AnnotationStore}
    {history : List (Entry annotationDatabase)}
    (holds : AnnotationInvariant start calls store history)
    (thread : Nat) :
    AnnotationInvariant start calls (store.release thread) history := by
  refine ⟨holds.evidence, holds.entries, ?_, ?_⟩
  · intro row member
    apply holds.inserted row
    rcases List.mem_append.mp member with old | inserted
    · exact List.mem_append_left _ old
    · apply List.mem_append_right
      obtain ⟨entry, isEntry, isRow⟩ := List.mem_map.mp inserted
      exact
        List.mem_map.mpr ⟨entry, List.mem_of_mem_filter isEntry, isRow⟩
  · intro entry member
    exact (holds.shown entry member).grow rfl (List.Subset.refl _)

theorem AnnotationInvariant.commit
    {store : AnnotationStore}
    {history : List (Entry annotationDatabase)}
    (holds : AnnotationInvariant start calls store history)
    (thread : Nat) :
    AnnotationInvariant start calls (store.commit thread) history := by
  refine ⟨holds.evidence, holds.entries, ?_, ?_⟩
  · intro row member
    apply holds.inserted row
    rcases List.mem_append.mp member with committed | inserted
    · exact AnnotationStore.mem_rows_commit committed
    · apply List.mem_append_right
      obtain ⟨entry, isEntry, isRow⟩ := List.mem_map.mp inserted
      exact
        List.mem_map.mpr ⟨entry, List.mem_of_mem_filter isEntry, isRow⟩
  · intro entry member
    exact
      (holds.shown entry member).grow rfl (List.subset_append_left _ _)

/-- An entry that leaves the tables leaves what the others tell of them. -/
theorem AnnotationInvariant.other
    {store : AnnotationStore}
    {history : List (Entry annotationDatabase)}
    {entry : Entry annotationDatabase}
    (holds : AnnotationInvariant start calls store history)
    (sameEvidence :
      evidenceAfter start.store.evidence (entry :: history) =
        evidenceAfter start.store.evidence history)
    (isEntry : AnnotationEntry start.store.evidence calls entry history)
    (isShown : ShowsTable store entry) :
    AnnotationInvariant start calls store (entry :: history) := by
  refine ⟨holds.evidence.trans sameEvidence.symm, ⟨isEntry, holds.entries⟩,
    ?_, ?_⟩
  · intro row member
    exact (holds.inserted row member).later entry
  · intro other member
    rcases List.mem_cons.mp member with rfl | older
    · exact isShown
    · exact holds.shown other older

theorem annotation_invariant
    (reached :
      Reachable (annotationSemantics runtime)
        (AnnotationRun.initial runtime start calls) config) :
    AnnotationInvariant start calls config.shared config.history := by
  refine
    reached.invariant (AnnotationInvariant start calls) ?_ ?_ ?_
  · refine ⟨rfl, trivial, ?_, ?_⟩
    · intro row member
      have none : start.store.uncommitted = [] := start.noneInserted
      change row ∈ start.store.rows ++ start.store.uncommitted.map Prod.snd
        at member
      rw [none, List.map_nil, List.append_nil] at member
      exact Or.inl member
    · intro entry member
      cases member
  · intro store history thread holds
    exact holds.release thread
  · intro before thread op rest choice answer next reached running answered
      _ holds
    have permitted := reached.permitted (conforming runtime calls) running
    cases AnnotationStore.responds answered with
    | failed statement error =>
        cases statement with
        | _ =>
            exact holds.other rfl trivial trivial
    | hasTable =>
        exact holds.other rfl trivial rfl
    | locked key free =>
        have isSame :
            AnnotationInvariant start calls
              (before.shared.takeLock thread (runtime.hashtext key) free)
              before.history := by
          refine ⟨holds.evidence, holds.entries, holds.inserted, ?_⟩
          intro entry member
          exact (holds.shown entry member).grow rfl (List.Subset.refl _)
        exact isSame.other rfl trivial trivial
    | lookedUp actorId clientRequestId =>
        refine holds.other rfl trivial ?_
        cases isFound : before.shared.find? actorId clientRequestId with
        | none =>
            trivial
        | some row =>
            exact List.mem_of_find?_eq_some isFound
    | inserted row isInstalled fresh =>
        refine ⟨holds.evidence, ⟨⟨rfl, permitted.2⟩, holds.entries⟩, ?_, ?_⟩
        · intro other member
          have asFirst :
              (before.shared.rows ++
                row :: before.shared.uncommitted.map Prod.snd).Perm
                (row ::
                  (before.shared.rows ++
                    before.shared.uncommitted.map Prod.snd)) :=
            List.perm_middle
          rcases List.mem_cons.mp (asFirst.mem_iff.mp member) with
            rfl | older
          · exact Or.inr ⟨thread, List.mem_cons_self⟩
          · exact (holds.inserted other older).later _
        · intro entry member
          rcases List.mem_cons.mp member with rfl | older
          · trivial
          · exact (holds.shown entry older).grow rfl (List.Subset.refl _)
    | unread query error =>
        refine holds.other rfl ⟨?_, permitted⟩ trivial
        intro result impossible
        cases impossible
    | read order query =>
        refine holds.other rfl ⟨?_, permitted⟩ trivial
        intro result isResult
        cases isResult
        rw [holds.evidence]
        exact ⟨order, rfl⟩
    | committed answer =>
        exact (holds.commit thread).other rfl trivial trivial
    | dropped error =>
        exact (holds.release thread).other rfl trivial trivial
    | rolledBack =>
        exact (holds.release thread).other rfl trivial trivial
    | delivered response =>
        exact holds.other rfl trivial trivial
    | changed write =>
        refine ⟨?_, ⟨permitted, holds.entries⟩, ?_, ?_⟩
        · show write before.shared.evidence = write _
          rw [holds.evidence]
        · intro row member
          exact (holds.inserted row member).later _
        · intro entry member
          rcases List.mem_cons.mp member with rfl | older
          · trivial
          · exact (holds.shown entry older).grow rfl (List.Subset.refl _)

end Runs

end Sparkz
