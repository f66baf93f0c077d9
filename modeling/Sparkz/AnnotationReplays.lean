import Sparkz.AnnotationRuns

namespace Sparkz

open Interleaving

/-!
# Repeated requests

A call that looks up a stored annotation returns it or refuses, without looking
at the evidence.  What a call returns is stored and stays stored.  A request
without unpaired surrogates is stored as it is, so that it finds itself again.
-/

section Pasts

variable {past : List (Event annotationDatabase)} {row : AnnotationRow}

/-- A stage after an insert remembers the insert. -/
theorem mem_of_inserted (isInserted : stage past = .inserted row) :
    ∃ draft,
      (⟨.query (.insert draft), .ok row⟩ : Event annotationDatabase) ∈
        past := by
  induction past with
  | nil =>
      cases isInserted
  | cons event earlier inductionHypothesis =>
      have ofEarlier :
          stage earlier = .inserted row →
          ∃ draft,
            (⟨.query (.insert draft), .ok row⟩ :
              Event annotationDatabase) ∈ event :: earlier := by
        intro isStage
        obtain ⟨draft, member⟩ := inductionHypothesis isStage
        exact ⟨draft, List.mem_cons_of_mem _ member⟩
      unfold stage at isInserted
      split at isInserted
      · cases isInserted
      · cases isInserted
      · cases isInserted
      · rename_i isInsert
        cases isInsert
        cases isInserted
        exact ⟨_, List.mem_cons_self⟩
      · cases isInserted
      · cases isInserted
      · rename_i isRest
        cases isRest
        exact ofEarlier isInserted

/-- What a call has saved it has inserted. -/
theorem mem_of_saved (isSaved : saved past = some row) :
    ∃ draft,
      (⟨.query (.insert draft), .ok row⟩ : Event annotationDatabase) ∈
        past := by
  induction past with
  | nil =>
      cases isSaved
  | cons event earlier inductionHypothesis =>
      have ofEarlier :
          (∃ draft,
            (⟨.query (.insert draft), .ok row⟩ :
              Event annotationDatabase) ∈ earlier) →
          ∃ draft,
            (⟨.query (.insert draft), .ok row⟩ :
              Event annotationDatabase) ∈ event :: earlier := by
        rintro ⟨draft, member⟩
        exact ⟨draft, List.mem_cons_of_mem _ member⟩
      unfold saved at isSaved
      split at isSaved
      · cases isSaved
      · rename_i isCommit
        cases isCommit
        apply ofEarlier
        split at isSaved
        · rename_i isStage
          cases isSaved
          exact mem_of_inserted isStage
        · exact inductionHypothesis isSaved
      · rename_i isRest
        cases isRest
        exact ofEarlier (inductionHypothesis isSaved)

end Pasts

section Runs

variable {runtime : AnnotationRuntime} {start : AnnotationStart}
  {calls : Nat → AnnotationCall} {config later : AnnotationRun}

/-- A step never takes a row from the table. -/
theorem rows_grow
    (reached : Reachable (annotationSemantics runtime) config later) :
    config.shared.rows <+: later.shared.rows := by
  refine
    reached.invariant
      (fun store _ => config.shared.rows <+: store.rows)
      List.prefix_rfl ?_ ?_
  · intro store history thread grown
    exact grown
  · intro before thread op rest choice answer next _ _ answered _ grown
    exact grown.trans (AnnotationStore.responds answered).rows

/-- A row that a call has saved is stored. -/
theorem saved_stored
    (reached :
      Reachable (annotationSemantics runtime)
        (AnnotationRun.initial runtime start calls) config)
    {thread : Nat}
    {program : AnnotationProgram Unit}
    (running : config.threads thread = some program) :
    ∀ row,
      saved (ownPast thread config.history) = some row →
        row ∈ config.shared.rows := by
  refine
    reached.ownFact
      (fun _ past store => ∀ row, saved past = some row → row ∈ store.rows)
      ?_ ?_ ?_ ?_ running
  · intro thread row impossible
    cases impossible
  · intro thread owner past store _ stored
    exact stored
  · intro before thread op rest choice answer next reached running answered
      stored row isSaved
    have responds := AnnotationStore.responds answered
    have ofEarlier :
        saved (ownPast thread before.history) = some row →
          row ∈ next.rows := by
      intro isEarlier
      exact responds.rows.subset (stored row isEarlier)
    unfold saved at isSaved
    split at isSaved
    · cases isSaved
    · rename_i isCommit
      cases isCommit
      split at isSaved
      · rename_i isStage
        cases isSaved
        have kept := stage_kept reached running
        rw [isStage] at kept
        cases responds with
        | committed _ =>
            show row ∈ before.shared.rows ++ before.shared.pending thread
            rw [kept.1]
            exact List.mem_append_right _ List.mem_cons_self
      · exact ofEarlier isSaved
    · rename_i isRest
      cases isRest
      exact ofEarlier isSaved
  · intro before thread owner op program rest choice answer next _ _ _ _
      answered stored row isSaved
    exact (AnnotationStore.responds answered).rows.subset (stored row isSaved)

/-- A request without unpaired surrogates is drafted as it is. -/
theorem Drafted.holds
    {call : AnnotationCall}
    {past : List (Event annotationDatabase)}
    {draft : AnnotationDraft}
    (drafted : Drafted call past draft)
    (wellFormed : call.WellFormed)
    {request : AdminCorrectionAnnotationRequest}
    {actorId : JsString}
    (asks : call.asks? = some (request, actorId)) :
    draft.Holds actorId request := by
  obtain ⟨other, otherActor, resolved, asksToo, rfl, _⟩ := drafted
  rw [asks] at asksToo
  cases asksToo
  exact annotationDraft_holds_iff.mpr (wellFormed request actorId asks)

/-- What a call returns is stored, and holds what the call asks for. -/
theorem returned_stored
    (wellFormed : ∀ thread, (calls thread).WellFormed)
    (reached :
      Reachable (annotationSemantics runtime)
        (AnnotationRun.initial runtime start calls) config)
    {thread : Nat}
    {program : AnnotationProgram Unit}
    (running : config.threads thread = some program)
    {row : AnnotationRow}
    (returned :
      Returned (calls thread) (ownPast thread config.history) row) :
    ∃ request actorId,
      (calls thread).asks? = some (request, actorId) ∧
        row ∈ config.shared.rows ∧ row.Holds actorId request := by
  obtain ⟨request, actorId, asks, found⟩ := returned
  have holds := annotation_invariant reached
  refine ⟨request, actorId, asks, ?_⟩
  rcases found with ⟨found, same⟩ | ⟨_, isSaved⟩
  · exact ⟨holds.shown _ (mem_ownPast.mp found), same⟩
  · refine ⟨saved_stored reached running row isSaved, ?_⟩
    obtain ⟨draft, inserted⟩ := mem_of_saved isSaved
    obtain ⟨_, _, _, isDraft, drafted⟩ :=
      holds.entries.of_mem (mem_ownPast.mp inserted)
    rw [isDraft]
    exact drafted.holds (wellFormed thread) asks

/-- Every response that was delivered shows a stored annotation. -/
theorem delivered_stored
    (wellFormed : ∀ thread, (calls thread).WellFormed)
    (reached :
      Reachable (annotationSemantics runtime)
        (AnnotationRun.initial runtime start calls) config) :
    ∀ thread response,
      (⟨thread, .deliver response, ()⟩ : Entry annotationDatabase) ∈
          config.history →
        ∃ request actorId row,
          (calls thread).asks? = some (request, actorId) ∧
            row ∈ config.shared.rows ∧ row.Holds actorId request ∧
            response = annotationResponse runtime row := by
  refine
    reached.invariant
      (fun store history =>
        ∀ thread response,
          (⟨thread, .deliver response, ()⟩ : Entry annotationDatabase) ∈
              history →
            ∃ request actorId row,
              (calls thread).asks? = some (request, actorId) ∧
                row ∈ store.rows ∧ row.Holds actorId request ∧
                response = annotationResponse runtime row)
      ?_ ?_ ?_
  · intro thread response member
    cases member
  · intro store history thread shown
    exact shown
  · intro before owner op rest choice answer next reached running answered
      _ shown thread response member
    have grown := (AnnotationStore.responds answered).rows
    rcases List.mem_cons.mp member with isNew | older
    · cases isNew
      obtain ⟨row, returned, isResponse⟩ :=
        reached.permitted (conforming runtime calls) running
      obtain ⟨request, actorId, asks, stored, holds⟩ :=
        returned_stored wellFormed reached running returned
      exact
        ⟨request, actorId, row, asks, grown.subset stored, holds,
          isResponse⟩
    · obtain ⟨request, actorId, row, asks, stored, holds, isResponse⟩ :=
        shown thread response older
      exact
        ⟨request, actorId, row, asks, grown.subset stored, holds,
          isResponse⟩

/-! ## A call of a stored request -/

/-- A call has not yet received the answer of its lookup. -/
def Unasked
    (request : AdminCorrectionAnnotationRequest)
    (actorId : JsString)
    (thread : Nat)
    (history : List (Entry annotationDatabase)) :
    Prop :=
  ∀ found, lookup request actorId found ∉ ownPast thread history

/-- A call that looks up a stored annotation finds that annotation. -/
theorem lookup_finds
    {thread : Nat}
    {request : AdminCorrectionAnnotationRequest}
    {actorId : JsString}
    {row : AnnotationRow}
    (unasked : Unasked request actorId thread config.history)
    (stored : row ∈ config.shared.rows)
    (isKey : row.key = (actorId.encoded, request.clientRequestId))
    (reached : Reachable (annotationSemantics runtime) config later) :
    row ∈ later.shared.rows ∧
      ∀ found,
        lookup request actorId found ∈ ownPast thread later.history →
          found = some row := by
  refine
    reached.invariant
      (fun store history =>
        row ∈ store.rows ∧
          ∀ found,
            lookup request actorId found ∈ ownPast thread history →
              found = some row)
      ?_ ?_ ?_
  · refine ⟨stored, ?_⟩
    intro found member
    exact absurd member (unasked found)
  · intro store history owner known
    exact known
  · intro before owner op rest choice answer next _ _ answered _
      ⟨stored, finds⟩
    have responds := AnnotationStore.responds answered
    refine ⟨responds.rows.subset stored, ?_⟩
    intro found member
    rcases List.mem_cons.mp (mem_ownPast.mp member) with isNew | older
    · generalize isAnswer : found = answered at isNew
      cases isNew
      cases responds with
      | lookedUp _ _ =>
          have isActor : row.actor_id = actorId.encoded :=
            congrArg Prod.fst isKey
          have isRequest :
              row.client_request_id = request.clientRequestId :=
            congrArg Prod.snd isKey
          rw [← AnnotationStore.find?_eq_some stored, isActor, isRequest]
    · exact finds found (mem_ownPast.mpr older)

/-- What a call of a stored annotation does after its lookup. -/
structure Replays
    (runtime : AnnotationRuntime)
    (row : AnnotationRow)
    (request : AdminCorrectionAnnotationRequest)
    (actorId : JsString)
    (thread : Nat)
    (later : AnnotationRun) :
    Prop where
  /-- It reads neither the subject nor the reference. -/
  noReads :
    ∀ query answer,
      (⟨thread, .read query, answer⟩ : Entry annotationDatabase) ∉
        later.history
  /-- It returns nothing but the stored annotation. -/
  returned :
    later.threads thread = some (.done ()) →
      row.Holds actorId request ∧
        (⟨thread, .deliver (annotationResponse runtime row), ()⟩ :
          Entry annotationDatabase) ∈ later.history
  /-- It refuses another payload, and otherwise throws database errors. -/
  thrown :
    ∀ error,
      later.threads thread = some (.fail error) →
        (¬row.Holds actorId request ∧
          error = .adminEvidence annotationRequestConflict) ∨
        Raised (ownPast thread later.history) error

theorem replays
    {thread : Nat}
    {request : AdminCorrectionAnnotationRequest}
    {actorId : JsString}
    {row : AnnotationRow}
    (asks : (calls thread).asks? = some (request, actorId))
    (unasked : Unasked request actorId thread config.history)
    (stored : row ∈ config.shared.rows)
    (isKey : row.key = (actorId.encoded, request.clientRequestId))
    (began :
      Reachable (annotationSemantics runtime)
        (AnnotationRun.initial runtime start calls) config)
    (reached : Reachable (annotationSemantics runtime) config later) :
    Replays runtime row request actorId thread later := by
  obtain ⟨storedLater, finds⟩ :=
    lookup_finds unasked stored isKey reached
  have wholeRun := began.trans reached
  have holds := annotation_invariant wholeRun
  refine ⟨?_, ?_, ?_⟩
  · intro query answer member
    obtain ⟨after, earlier, split, _, other, otherActor, asksToo,
      notFound⟩ := holds.entries.of_mem member
    rw [asks] at asksToo
    cases asksToo
    have isPast :
        lookup request actorId none ∈ ownPast thread later.history := by
      rw [split]
      apply mem_ownPast.mpr
      apply List.mem_append_right
      exact List.mem_cons_of_mem _ (mem_ownPast.mp notFound)
    cases finds none isPast
  · intro running
    have ended := wholeRun.obeysPast (conforming runtime calls) running
    obtain ⟨returnedRow, returned, delivered⟩ := ended request actorId asks
    obtain ⟨other, otherActor, asksToo, found⟩ := returned
    rw [asks] at asksToo
    cases asksToo
    rcases found with ⟨found, same⟩ | ⟨notFound, _⟩
    · cases finds _ found
      exact ⟨same, mem_ownPast.mp delivered⟩
    · cases finds _ notFound
  · intro error running
    have ended := wholeRun.obeysPast (conforming runtime calls) running
    rcases ended request actorId asks with
      notFound | ⟨other, found, different, isConflict⟩ | missing | raised
    · cases finds _ notFound
    · cases finds _ found
      exact Or.inl ⟨different, isConflict⟩
    · have notInstalled : false = later.shared.installed :=
        holds.shown _ (mem_ownPast.mp missing)
      rw [(later.shared.absent notInstalled.symm).1] at storedLater
      cases storedLater
    · exact Or.inr raised

/-! ## A call that is not disturbed -/

/-- An operation that is answered takes a call to what is left of it. -/
theorem advance
    {thread : Nat}
    {op : AnnotationOp}
    {rest : op.Answer → AnnotationProgram Unit}
    {answer : op.Answer}
    {next : AnnotationStore}
    (outside : AnnotationOutside)
    (running : config.threads thread = some (.perform op rest))
    (answered :
      config.shared.respond runtime thread op outside =
        some (answer, next)) :
    ∃ later,
      Reachable (annotationSemantics runtime) config later ∧
        later.shared = next ∧
        later.threads thread = some (rest answer) ∧
        later.history = ⟨thread, op, answer⟩ :: config.history := by
  refine
    ⟨_, ReachableWhen.start.step (Step.perform running answered)
      (fun _ _ => trivial), rfl, ?_, rfl⟩
  exact setThread_same _ _ _

/--
A call of a stored request that meets no error and no held lock returns the
stored annotation, or refuses when its payload is another one.
-/
theorem replay_completes
    {thread : Nat}
    {request : AdminCorrectionAnnotationRequest}
    {actorId : JsString}
    {row : AnnotationRow}
    (asks : (calls thread).asks? = some (request, actorId))
    (begins :
      config.threads thread = some ((calls thread).run runtime))
    (stored : row ∈ config.shared.rows)
    (isKey : row.key = (actorId.encoded, request.clientRequestId))
    (free :
      ¬config.shared.heldElsewhere thread (runtime.lockOf row.key)) :
    ∃ later,
      Reachable (annotationSemantics runtime) config later ∧
        ((row.Holds actorId request ∧
            later.threads thread = some (.done ()) ∧
            (⟨thread, .deliver (annotationResponse runtime row), ()⟩ :
              Entry annotationDatabase) ∈ later.history) ∨
          (¬row.Holds actorId request ∧
            later.threads thread =
              some
                (.fail (.adminEvidence annotationRequestConflict)))) := by
  have isInstalled : config.shared.installed = true := by
    rw [← Bool.not_eq_false]
    intro notInstalled
    rw [(config.shared.absent notInstalled).1] at stored
    cases stored
  cases isCall : calls thread with
  | change write =>
      rw [isCall] at asks
      cases asks
  | create body adminIdentity =>
      rw [isCall] at asks begins
      simp only [AnnotationCall.asks?] at asks
      split at asks
      · rename_i parsed safeActorId isRequest isActor
        cases asks
        simp only [AnnotationCall.run, createAnnotationEndpoint,
          createAdminCorrectionAnnotation, isRequest, isActor] at begins
        have isActorId : row.actor_id = actorId.encoded :=
          congrArg Prod.fst isKey
        have isRequestId :
            row.client_request_id = request.clientRequestId :=
          congrArg Prod.snd isKey
        have isFound :
            config.shared.find? actorId.encoded request.clientRequestId =
              some row := by
          rw [← isActorId, ← isRequestId]
          exact AnnotationStore.find?_eq_some stored
        rw [isKey] at free
        obtain ⟨first, reachedFirst, isFirst, running, _⟩ :=
          @advance runtime config thread (.query .hasTable) _
            (.ok config.shared.installed) config.shared
            (.answers id "" none) begins rfl
        rw [isInstalled] at running
        obtain ⟨second, reachedSecond, isSecond, running, _⟩ :=
          @advance runtime first thread (.query (.lock _)) _ (.ok ())
            (config.shared.takeLock thread _ free)
            (.answers id "" none) running (by
              rw [isFirst]
              simp only [AnnotationStore.respond, AnnotationStore.answer]
              exact dif_pos free)
        obtain ⟨third, reachedThird, isThird, running, _⟩ :=
          @advance runtime second thread
            (.query (.existingAnnotationRow _ _)) _ (.ok (some row))
            (config.shared.takeLock thread _ free)
            (.answers id "" none) running (by
              rw [isSecond, ← isFound]
              simp only [AnnotationStore.respond, AnnotationStore.answer]
              exact if_pos isInstalled)
        have continued :=
          (reachedFirst.trans reachedSecond).trans reachedThird
        change third.threads thread =
          some
            (((annotationReplay request actorId row).attempt >>=
              endTransaction) >>= deliverAnnotation runtime) at running
        by_cases same : sameAnnotationPayload row actorId request = true
        · simp only [annotationReplay, same, if_true] at running
          obtain ⟨fourth, reachedFourth, isFourth, running, _⟩ :=
            @advance runtime third thread .commit _ (.ok ())
              (third.shared.commit thread) (.answers id "" none) running
              rfl
          obtain ⟨last, reachedLast, _, running, isHistory⟩ :=
            @advance runtime fourth thread
              (.deliver (annotationResponse runtime row)) _ ()
              fourth.shared (.answers id "" none) running rfl
          refine
            ⟨last, (continued.trans reachedFourth).trans reachedLast,
              Or.inl ⟨sameAnnotationPayload_iff.mp same, running, ?_⟩⟩
          rw [isHistory]
          exact List.mem_cons_self
        · simp only [annotationReplay, same] at running
          obtain ⟨last, reachedLast, _, running, _⟩ :=
            @advance runtime third thread .rollback _ ()
              (third.shared.release thread) (.answers id "" none) running
              rfl
          refine
            ⟨last, continued.trans reachedLast, Or.inr ⟨?_, running⟩⟩
          rw [← sameAnnotationPayload_iff]
          exact same
      · cases asks

/-! ## The whole run -/

/-- A new row was inserted by a call, and holds what it asks for. -/
theorem inserted_by_call
    (wellFormed : ∀ thread, (calls thread).WellFormed)
    (reached :
      Reachable (annotationSemantics runtime)
        (AnnotationRun.initial runtime start calls) config)
    {row : AnnotationRow}
    (stored : row ∈ config.shared.rows)
    (isNew : row ∉ start.store.rows) :
    ∃ thread after earlier,
      config.history =
          after ++
            ⟨thread, .query (.insert row.toAnnotationDraft), .ok row⟩ ::
              earlier ∧
        Drafted (calls thread) (ownPast thread earlier)
          row.toAnnotationDraft ∧
        ∀ request actorId,
          (calls thread).asks? = some (request, actorId) →
            row.Holds actorId request := by
  have holds := annotation_invariant reached
  rcases holds.inserted row (List.mem_append_left _ stored) with
    old | ⟨thread, inserted⟩
  · exact absurd old isNew
  · obtain ⟨after, earlier, split, _, drafted⟩ :=
      holds.entries.of_mem inserted
    refine ⟨thread, after, earlier, split, drafted, ?_⟩
    intro request actorId asks
    exact drafted.holds (wellFormed thread) asks

/-- Only other programs write the evidence tables. -/
theorem evidence_unchanged
    (reached :
      Reachable (annotationSemantics runtime)
        (AnnotationRun.initial runtime start calls) config)
    {label : Option (Entry annotationDatabase)}
    {next : AnnotationRun}
    (step : Step (annotationSemantics runtime) config label next)
    (changed : next.shared.evidence ≠ config.shared.evidence) :
    ∃ thread write,
      label = some ⟨thread, .change write, ()⟩ ∧
        calls thread = .change write := by
  cases step with
  | stop thread =>
      exact absurd rfl changed
  | @perform thread op rest choice answer shared running answered =>
      cases AnnotationStore.responds answered with
      | changed write =>
          exact
            ⟨thread, write, rfl,
              reached.permitted (conforming runtime calls) running⟩
      | _ =>
          exact absurd rfl changed

/--
In every run, each actor and client request id have at most one annotation,
which is inserted under its lock and then stays as it is.  A new annotation
holds the payload of its call, if no call has an unpaired surrogate.  A call
whose annotation is stored returns it or refuses, whatever the evidence has
become; a new annotation of a transaction is supported by all retained rows of
its hash, as the call has read them; and no call writes the evidence.
-/
theorem annotations_appendOnly
    (wellFormed : ∀ thread, (calls thread).WellFormed)
    (reached :
      Reachable (annotationSemantics runtime)
        (AnnotationRun.initial runtime start calls) config) :
    (config.shared.rows.map (·.key)).Nodup ∧
      (∀ later,
        Reachable (annotationSemantics runtime) config later →
          config.shared.rows <+: later.shared.rows) ∧
      (∀ thread draft rest,
        config.threads thread =
            some (.perform (.query (.insert draft)) rest) →
          draft.key ∉ config.shared.keys) ∧
      (∀ thread response,
        (⟨thread, .deliver response, ()⟩ : Entry annotationDatabase) ∈
            config.history →
          ∃ request actorId row,
            (calls thread).asks? = some (request, actorId) ∧
              row ∈ config.shared.rows ∧ row.Holds actorId request ∧
              response = annotationResponse runtime row) ∧
      (∀ thread request actorId row,
        (calls thread).asks? = some (request, actorId) →
        row ∈ config.shared.rows →
        row.key = (actorId.encoded, request.clientRequestId) →
          (Unasked request actorId thread config.history →
            ∀ later,
              Reachable (annotationSemantics runtime) config later →
                Replays runtime row request actorId thread later) ∧
          (config.threads thread = some ((calls thread).run runtime) →
            ¬config.shared.heldElsewhere thread
                (runtime.lockOf row.key) →
            ∃ later,
              Reachable (annotationSemantics runtime) config later ∧
                ((row.Holds actorId request ∧
                    later.threads thread = some (.done ()) ∧
                    (⟨thread, .deliver (annotationResponse runtime row),
                      ()⟩ : Entry annotationDatabase) ∈ later.history) ∨
                  (¬row.Holds actorId request ∧
                    later.threads thread =
                      some
                        (.fail
                          (.adminEvidence
                            annotationRequestConflict)))))) ∧
      (∀ row ∈ config.shared.rows,
        row ∉ start.store.rows →
          ∃ thread after earlier,
            config.history =
                after ++
                  ⟨thread, .query (.insert row.toAnnotationDraft),
                    .ok row⟩ :: earlier ∧
              Drafted (calls thread) (ownPast thread earlier)
                row.toAnnotationDraft ∧
              ∀ request actorId,
                (calls thread).asks? = some (request, actorId) →
                  row.Holds actorId request) ∧
      (∀ after earlier thread query result,
        config.history =
            after ++ ⟨thread, .read query, .ok result⟩ :: earlier →
          (evidenceAfter start.store.evidence earlier).Answers query
            result) ∧
      ∀ label next,
        Step (annotationSemantics runtime) config label next →
          next.shared.evidence ≠ config.shared.evidence →
            ∃ thread write,
              label = some ⟨thread, .change write, ()⟩ ∧
                calls thread = .change write := by
  refine
    ⟨?_, fun later continued => rows_grow continued, ?_,
      delivered_stored wellFormed reached, ?_, ?_, ?_, ?_⟩
  · refine List.Sublist.nodup (List.Sublist.map _ ?_) config.shared.unique
    exact List.sublist_append_left _ _
  · intro thread draft rest running
    exact
      absent_key reached running _ (locked_of_inserting reached running).1
  · intro thread request actorId row asks stored isKey
    constructor
    · intro unasked later continued
      exact replays asks unasked stored isKey reached continued
    · intro begins free
      exact replay_completes asks begins stored isKey free
  · intro row stored isNew
    exact inserted_by_call wellFormed reached stored isNew
  · intro after earlier thread query result split
    have each := (annotation_invariant reached).entries
    rw [split] at each
    exact each.at.1 result rfl
  · intro label next step changed
    exact evidence_unchanged reached step changed

end Runs

/-! ## A repeated request and a changed one -/

def correctionRequestId : Uuid where
  text := "3f2b8c1e-7d40-4a6b-9c55-0e1f2a3b4c5d"
  wellFormed := by decide +kernel
  canonical := by decide +kernel

def correctedAwardId : Uuid where
  text := "8d1f0c52-6a34-4e8b-b0d9-2f7a5c3e1b60"
  wellFormed := by decide +kernel
  canonical := by decide +kernel

/-- An annotation whose award has since been deleted. -/
def storedCorrection : AnnotationRow where
  id := "c4a1e6b2-9f03-4d7c-8e52-1b6f0d3a7c84"
  client_request_id := correctionRequestId
  subject_type := .award
  subject_id := correctedAwardId
  reference_type := .case
  reference_value := "Case 7"
  reason := "Credited twice"
  actor_type := "admin_session"
  actor_id := "operator"
  reference_provenance := .externalCase
  reference_operation_key := none
  reference_chain_id := none
  reference_token_contract_address := none
  created_at := some 1790121600000

def emptyEvidence : Evidence where
  records _ := some []
  users := some []
  operationHashes := fun _ => Nat.zero_le _

def correctionStart : AnnotationStart where
  store :=
    { installed := true
      rows := [storedCorrection]
      uncommitted := []
      locks := []
      evidence := emptyEvidence
      unique := List.nodup_singleton _
      exclusive := by
        intro first member
        cases member
      absent := by
        intro notInstalled
        cases notInstalled }
  noneInserted := rfl
  noLocks := rfl

/-- A body with a client request id in a given letter case. -/
def correctionBody (clientRequestId : String) (reason : JsString) :
    Option AnnotationBody :=
  some <| .object
    [(jsString "clientRequestId", .text (jsString clientRequestId)),
      (jsString "subjectType", .text (jsString "award")),
      (jsString "subjectId", .text (jsString correctedAwardId.text)),
      (jsString "referenceType", .text (jsString "case")),
      (jsString "reference", .text (jsString "Case 7")),
      (jsString "reason", .text reason)]

/-- The request is repeated in capitals, and with another reason. -/
def repeatedCorrection : Nat → AnnotationCall
  | 0 =>
      .create
        (correctionBody " 3F2B8C1E-7D40-4A6B-9C55-0E1F2A3B4C5D"
          (jsString "Credited twice"))
        (jsString "operator ")
  | 1 =>
      .create (correctionBody correctionRequestId.text (jsString "Typo"))
        (jsString "operator")
  | _ => .change id

/-- The runtime, on what the requests ask of it. -/
def correctionRuntime : AnnotationRuntime where
  toISOString _ := "2026-09-23T00:00:00.000Z"
  sha256 _ := ""
  hashtext _ := 2115067983

def correctionRequest (reason : String) :
    AdminCorrectionAnnotationRequest where
  clientRequestId := correctionRequestId
  subjectType := .award
  subjectId := correctedAwardId
  reference := .case (jsString "Case 7")
  reason := jsString reason

/-- The repeated request returns the annotation, the changed one is refused. -/
theorem repeatedCorrection_replays :
    (∃ later,
      Reachable (annotationSemantics correctionRuntime)
          (AnnotationRun.initial correctionRuntime correctionStart
            repeatedCorrection) later ∧
        (⟨0, .deliver (annotationResponse correctionRuntime storedCorrection),
          ()⟩ : Entry annotationDatabase) ∈ later.history) ∧
      ∃ later,
        Reachable (annotationSemantics correctionRuntime)
            (AnnotationRun.initial correctionRuntime correctionStart
              repeatedCorrection) later ∧
          later.threads 1 =
            some (.fail (.adminEvidence annotationRequestConflict)) := by
  have repeats :
      (repeatedCorrection 0).asks? =
        some (correctionRequest "Credited twice", jsString "operator") := by
    decide +kernel
  have changes :
      (repeatedCorrection 1).asks? =
        some (correctionRequest "Typo", jsString "operator") := by
    decide +kernel
  have free :
      ∀ thread,
        ¬(AnnotationRun.initial correctionRuntime correctionStart
            repeatedCorrection).shared.heldElsewhere thread
          (correctionRuntime.lockOf storedCorrection.key) := by
    rintro thread ⟨entry, member, _⟩
    cases member
  have same :
      storedCorrection.Holds (jsString "operator")
        (correctionRequest "Credited twice") :=
    ⟨rfl, rfl, rfl, rfl, rfl, rfl, rfl⟩
  have different :
      ¬storedCorrection.Holds (jsString "operator")
        (correctionRequest "Typo") := by
    intro holds
    have sameReason := holds.reason
    revert sameReason
    decide
  have wellFormed : ∀ thread, (repeatedCorrection thread).WellFormed := by
    intro thread request actorId asks
    rcases thread with _ | _ | thread
    · rw [repeats] at asks
      cases asks
      exact
        ⟨isWellFormed_jsString _, isWellFormed_jsString _,
          isWellFormed_jsString _⟩
    · rw [changes] at asks
      cases asks
      exact
        ⟨isWellFormed_jsString _, isWellFormed_jsString _,
          isWellFormed_jsString _⟩
    · cases asks
  obtain ⟨_, _, _, _, replayed, _⟩ :=
    annotations_appendOnly wellFormed
      (.start :
        Reachable (annotationSemantics correctionRuntime)
          (AnnotationRun.initial correctionRuntime correctionStart
            repeatedCorrection) _)
  constructor
  · obtain ⟨later, reached, returned | ⟨refused, _⟩⟩ :=
      (replayed 0 _ _ storedCorrection repeats List.mem_cons_self rfl).2
        rfl (free 0)
    · exact ⟨later, reached, returned.2.2⟩
    · exact absurd same refused
  · obtain ⟨later, reached, ⟨holds, _⟩ | refused⟩ :=
      (replayed 1 _ _ storedCorrection changes List.mem_cons_self rfl).2
        rfl (free 1)
    · exact absurd holds different
    · exact ⟨later, reached, refused.2⟩

/-! ## A request with an unpaired surrogate -/

/-- The corrected award is retained. -/
def correctedEvidence : Evidence where
  records
    | .awards =>
        some
          [{ id := correctedAwardId.text
             operation_key := none
             uid := none
             user_id := none
             wallet_address := none
             tx_hash := none
             intent_context := none }]
    | _ => some []
  users := some []
  operationHashes := fun _ => Nat.zero_le _

def emptyTable : AnnotationStart where
  store :=
    { installed := true
      rows := []
      uncommitted := []
      locks := []
      evidence := correctedEvidence
      unique := List.nodup_nil
      exclusive := by
        intro first member
        cases member
      absent := fun _ => ⟨rfl, rfl⟩ }
  noneInserted := rfl
  noLocks := rfl

/-- Two calls of one request, whose reason ends in half of a pair. -/
def halvedCorrection : Nat → AnnotationCall
  | 0 | 1 =>
      .create
        (correctionBody correctionRequestId.text
          (jsString "Credited twice " ++ [Utf16.unitOf 0xd83d]))
        (jsString "operator")
  | _ => .change id

/-- The first call runs to its end, and then the second one. -/
def halvedRun : Option AnnotationRun :=
  (AnnotationRun.initial correctionRuntime emptyTable halvedCorrection).run?
    (annotationSemantics correctionRuntime) (fun _ _ => true)
    (List.replicate 8
        (0, .answers id storedCorrection.id storedCorrection.created_at) ++
      List.replicate 4 (1, .answers id "" none))

/-- The response that a call has delivered. -/
def deliveredBy
    (thread : Nat)
    (entry : Entry annotationDatabase) :
    Option AdminCorrectionAnnotationResponse :=
  match entry with
  | ⟨owner, .deliver response, _⟩ =>
      if owner = thread then some response else none
  | _ => none

/-- The error that a call has thrown. -/
def thrownBy (thread : Nat) (config : AnnotationRun) :
    Option AnnotationFailure :=
  match config.threads thread with
  | some (.fail error) => some error
  | _ => none

/-- The request is stored and answered, and its exact repeat is refused. -/
theorem halvedCorrection_conflicts :
    halvedCorrection 0 = halvedCorrection 1 ∧
      ∃ config response,
        Reachable (annotationSemantics correctionRuntime)
            (AnnotationRun.initial correctionRuntime emptyTable
              halvedCorrection) config ∧
          (⟨0, .deliver response, ()⟩ : Entry annotationDatabase) ∈
            config.history ∧
          config.threads 1 =
            some (.fail (.adminEvidence annotationRequestConflict)) := by
  refine ⟨rfl, ?_⟩
  have isRun :
      (halvedRun.any fun config =>
        (config.history.findSome? (deliveredBy 0)).isSome &&
          thrownBy 1 config ==
            some (.adminEvidence annotationRequestConflict)) = true := by
    decide +kernel
  obtain ⟨config, isConfig, ends⟩ := (Option.any_eq_true ..).mp isRun
  rw [Bool.and_eq_true, Option.isSome_iff_exists, beq_iff_eq] at ends
  obtain ⟨⟨response, isFound⟩, thrown⟩ := ends
  obtain ⟨entry, member, isEntry⟩ :=
    List.exists_of_findSome?_eq_some isFound
  refine
    ⟨config, response,
      Config.run?_sound (fun _ _ _ => trivial) .start isConfig, ?_, ?_⟩
  · unfold deliveredBy at isEntry
    split at isEntry
    · split at isEntry
      · rename_i isOwner
        cases isEntry
        cases isOwner
        exact member
      · cases isEntry
    · cases isEntry
  · unfold thrownBy at thrown
    split at thrown
    · rename_i isThread
      cases thrown
      exact isThread
    · cases thrown

end Sparkz
