import Sparkz.AnnotationCalls

namespace Sparkz

open Interleaving

/-!
# The annotation table under concurrent calls

The committed rows, what open transactions have inserted, the advisory locks
that they hold, and the evidence tables.  The unique index covers inserted rows
as well: an insert waits for a transaction that has inserted its key.
-/

/-- The database of the endpoint. -/
structure AnnotationStore where
  /-- Whether the migration of the table has run. -/
  installed : Bool
  rows : List AnnotationRow
  /-- The rows that open transactions have inserted. -/
  uncommitted : List (Nat × AnnotationRow)
  /-- The advisory locks that open transactions hold. -/
  locks : List (Nat × Int)
  evidence : Evidence
  unique :
    ((rows ++ uncommitted.map Prod.snd).map (·.key)).Nodup
  exclusive :
    ∀ first ∈ locks,
      ∀ second ∈ locks, first.2 = second.2 → first.1 = second.1
  absent : installed = false → rows = [] ∧ uncommitted = []

namespace AnnotationStore

/-- The keys of all rows, committed or not. -/
def keys (store : AnnotationStore) : List (String × Uuid) :=
  (store.rows ++ store.uncommitted.map Prod.snd).map (·.key)

/-- The rows that the transaction of a call has inserted. -/
def pending (thread : Nat) (store : AnnotationStore) :
    List AnnotationRow :=
  (store.uncommitted.filter fun entry => entry.1 == thread).map Prod.snd

/-- Inserted rows are those of one call and those of the others. -/
theorem pending_perm (thread : Nat) (store : AnnotationStore) :
    (store.pending thread ++
      (store.uncommitted.filter fun entry => !(entry.1 == thread)).map
        Prod.snd).Perm
      (store.uncommitted.map Prod.snd) := by
  rw [pending, ← List.map_append]
  exact (List.filter_append_perm _ _).map Prod.snd

/-- End the transaction of a call and drop what it has inserted. -/
def release (thread : Nat) (store : AnnotationStore) : AnnotationStore :=
  { store with
    uncommitted := store.uncommitted.filter fun entry => entry.1 != thread
    locks := store.locks.filter fun entry => entry.1 != thread
    unique := by
      refine List.Sublist.nodup (List.Sublist.map _ ?_) store.unique
      apply List.Sublist.append (List.Sublist.refl _)
      exact List.filter_sublist.map _
    exclusive := by
      intro first isFirst second isSecond
      exact
        store.exclusive first (List.mem_of_mem_filter isFirst) second
          (List.mem_of_mem_filter isSecond)
    absent := by
      intro notInstalled
      obtain ⟨noRows, noneInserted⟩ := store.absent notInstalled
      exact ⟨noRows, by rw [noneInserted]; rfl⟩ }

/-- End the transaction of a call and keep what it has inserted. -/
def commit (thread : Nat) (store : AnnotationStore) : AnnotationStore :=
  { store with
    rows := store.rows ++ store.pending thread
    uncommitted := store.uncommitted.filter fun entry => entry.1 != thread
    locks := store.locks.filter fun entry => entry.1 != thread
    unique := by
      rw [List.append_assoc]
      refine
        (List.Perm.nodup_iff (List.Perm.map _ ?_)).mpr store.unique
      exact (store.pending_perm thread).append_left _
    exclusive := (store.release thread).exclusive
    absent := by
      intro notInstalled
      obtain ⟨noRows, noneInserted⟩ := store.absent notInstalled
      simp [noRows, noneInserted, pending] }

/-- Keep a row for the transaction of a call. -/
def insert
    (thread : Nat)
    (row : AnnotationRow)
    (store : AnnotationStore)
    (isInstalled : store.installed = true)
    (fresh : row.key ∉ store.keys) :
    AnnotationStore :=
  { store with
    uncommitted := (thread, row) :: store.uncommitted
    unique := by
      have asFirst :
          (store.rows ++ row :: store.uncommitted.map Prod.snd).Perm
            (row :: (store.rows ++ store.uncommitted.map Prod.snd)) :=
        List.perm_middle
      rw [List.map_cons, (asFirst.map _).nodup_iff, List.map_cons,
        List.nodup_cons]
      exact ⟨fresh, store.unique⟩
    absent := by
      intro notInstalled
      rw [isInstalled] at notInstalled
      cases notInstalled }

/-- Another transaction holds the lock. -/
def heldElsewhere
    (thread : Nat)
    (lock : Int)
    (store : AnnotationStore) :
    Prop :=
  ∃ entry ∈ store.locks, entry.2 = lock ∧ entry.1 ≠ thread

instance (thread : Nat) (lock : Int) (store : AnnotationStore) :
    Decidable (store.heldElsewhere thread lock) :=
  inferInstanceAs (Decidable (∃ entry ∈ _, _))

/-- Take a lock that no other transaction holds. -/
def takeLock
    (thread : Nat)
    (lock : Int)
    (store : AnnotationStore)
    (free : ¬store.heldElsewhere thread lock) :
    AnnotationStore :=
  { store with
    locks := (thread, lock) :: store.locks
    exclusive := by
      have ofThread :
          ∀ entry ∈ store.locks, entry.2 = lock → entry.1 = thread := by
        intro entry member isLock
        by_contra different
        exact free ⟨entry, member, isLock, different⟩
      intro first isFirst second isSecond same
      rcases List.mem_cons.mp isFirst with rfl | firstOld
      · rcases List.mem_cons.mp isSecond with rfl | secondOld
        · rfl
        · exact (ofThread second secondOld same.symm).symm
      · rcases List.mem_cons.mp isSecond with rfl | secondOld
        · exact ofThread first firstOld same
        · exact store.exclusive first firstOld second secondOld same }

/-- The committed row of a key. -/
def find?
    (actorId : String)
    (clientRequestId : Uuid)
    (store : AnnotationStore) :
    Option AnnotationRow :=
  store.rows.find? fun row =>
    row.actor_id == actorId &&
      row.client_request_id == clientRequestId

end AnnotationStore

/-- What the database makes of an operation. -/
inductive AnnotationOutside where
  | fails : (message : String) → AnnotationOutside
  /-- A commit is accepted, but its answer does not arrive. -/
  | lost : (message : String) → AnnotationOutside
  | answers :
      (order : Nat → Nat) →
      (id : String) →
      (createdAt : Option Int) →
      AnnotationOutside

def uniqueViolation : AnnotationFailure :=
  .database
    "duplicate key value violates unique constraint \"admin_correction_annotations_actor_request_unique\""

namespace AnnotationStore

/-- The answer of a statement; `none` while it waits or has no table. -/
def answer
    (runtime : AnnotationRuntime)
    (thread : Nat)
    (id : String)
    (createdAt : Option Int)
    (store : AnnotationStore) :
    (statement : AnnotationStatement) →
      Option (Except AnnotationFailure statement.Result × AnnotationStore)
  | .hasTable => some (.ok store.installed, store)
  | .lock key =>
      if free : ¬store.heldElsewhere thread (runtime.hashtext key) then
        some (.ok (), store.takeLock thread (runtime.hashtext key) free)
      else none
  | .existingAnnotationRow actorId clientRequestId =>
      if store.installed = true then
        some (.ok (store.find? actorId clientRequestId), store)
      else none
  | .insert draft =>
      let row : AnnotationRow := { draft with id, created_at := createdAt }
      if isInstalled : store.installed = true then
        if fresh : row.key ∉ store.keys then
          some (.ok row, store.insert thread row isInstalled fresh)
        else if row.key ∈ store.rows.map (·.key) then
          some (.error uniqueViolation, store)
        else none
      else none

/-- How an operation of a call is answered. -/
def respond
    (runtime : AnnotationRuntime)
    (thread : Nat)
    (store : AnnotationStore) :
    (op : AnnotationOp) →
    AnnotationOutside →
    Option (op.Answer × AnnotationStore)
  | .query statement, .answers _ id createdAt =>
      store.answer runtime thread id createdAt statement
  | .query _, .fails message | .query _, .lost message =>
      some (.error (.database message), store)
  | .read query, .answers order _ _ =>
      some (.ok (store.evidence.answer order query), store)
  | .read _, .fails message | .read _, .lost message =>
      some (.error (.database message), store)
  | .commit, .answers _ _ _ => some (.ok (), store.commit thread)
  | .commit, .fails message =>
      some (.error (.database message), store.release thread)
  | .commit, .lost message =>
      some (.error (.database message), store.commit thread)
  | .rollback, _ => some ((), store.release thread)
  | .deliver _, _ => some ((), store)
  | .change write, _ =>
      some ((), { store with evidence := write store.evidence })

end AnnotationStore

/-! ## What a step does -/

/-- What an operation is answered with, and what it leaves. -/
inductive AnnotationStore.Responds
    (runtime : AnnotationRuntime)
    (thread : Nat)
    (store : AnnotationStore) :
    (op : AnnotationOp) → op.Answer → AnnotationStore → Prop where
  | failed (statement : AnnotationStatement) (error : AnnotationFailure) :
      Responds runtime thread store (.query statement) (.error error) store
  | hasTable :
      Responds runtime thread store (.query .hasTable) (.ok store.installed)
        store
  | locked
      (key : String)
      (free : ¬store.heldElsewhere thread (runtime.hashtext key)) :
      Responds runtime thread store (.query (.lock key)) (.ok ())
        (store.takeLock thread (runtime.hashtext key) free)
  | lookedUp (actorId : String) (clientRequestId : Uuid) :
      Responds runtime thread store
        (.query (.existingAnnotationRow actorId clientRequestId))
        (.ok (store.find? actorId clientRequestId)) store
  | inserted
      (row : AnnotationRow)
      (isInstalled : store.installed = true)
      (fresh : row.key ∉ store.keys) :
      Responds runtime thread store
        (.query (.insert row.toAnnotationDraft)) (.ok row)
        (store.insert thread row isInstalled fresh)
  | unread (query : EvidenceQuery) (error : AnnotationFailure) :
      Responds runtime thread store (.read query) (.error error) store
  | read (order : Nat → Nat) (query : EvidenceQuery) :
      Responds runtime thread store (.read query)
        (.ok (store.evidence.answer order query)) store
  | committed (answer : Except AnnotationFailure Unit) :
      Responds runtime thread store .commit answer (store.commit thread)
  | dropped (error : AnnotationFailure) :
      Responds runtime thread store .commit (.error error)
        (store.release thread)
  | rolledBack :
      Responds runtime thread store .rollback () (store.release thread)
  | delivered (response : AdminCorrectionAnnotationResponse) :
      Responds runtime thread store (.deliver response) () store
  | changed (write : Evidence → Evidence) :
      Responds runtime thread store (.change write) ()
        { store with evidence := write store.evidence }

/-- Every answer is of one of these kinds. -/
theorem AnnotationStore.responds
    {runtime : AnnotationRuntime}
    {thread : Nat}
    {store next : AnnotationStore}
    {op : AnnotationOp}
    {outside : AnnotationOutside}
    {answer : op.Answer}
    (answered :
      store.respond runtime thread op outside = some (answer, next)) :
    store.Responds runtime thread op answer next := by
  cases op with
  | query statement =>
      cases outside with
      | fails message =>
          cases answered
          exact .failed statement _
      | lost message =>
          cases answered
          exact .failed statement _
      | answers order id createdAt =>
          cases statement with
          | hasTable =>
              cases answered
              exact .hasTable
          | lock key =>
              simp only [respond, AnnotationStore.answer] at answered
              split at answered
              · rename_i free
                cases answered
                exact .locked key free
              · cases answered
          | existingAnnotationRow actorId clientRequestId =>
              simp only [respond, AnnotationStore.answer] at answered
              split at answered
              · cases answered
                exact .lookedUp actorId clientRequestId
              · cases answered
          | insert draft =>
              simp only [respond, AnnotationStore.answer] at answered
              split at answered
              · rename_i isInstalled
                split at answered
                · rename_i fresh
                  cases answered
                  exact
                    .inserted { draft with id, created_at := createdAt }
                      isInstalled fresh
                · split at answered
                  · cases answered
                    exact .failed _ _
                  · cases answered
              · cases answered
  | read query =>
      cases outside with
      | answers order id createdAt =>
          cases answered
          exact .read order query
      | _ =>
          cases answered
          exact .unread query _
  | commit =>
      cases outside with
      | fails message =>
          cases answered
          exact .dropped _
      | _ =>
          cases answered
          exact .committed _
  | rollback =>
      cases answered
      exact .rolledBack
  | deliver response =>
      cases answered
      exact .delivered response
  | change write =>
      cases answered
      exact .changed write

namespace AnnotationStore

variable {runtime : AnnotationRuntime} {thread owner : Nat}
  {store next : AnnotationStore} {op : AnnotationOp} {answer : op.Answer}

theorem pending_release (thread : Nat) (store : AnnotationStore) :
    (store.release thread).pending thread = [] := by
  simp [pending, release, List.filter_filter]

theorem pending_insert
    {row : AnnotationRow}
    (isInstalled : store.installed = true)
    (fresh : row.key ∉ store.keys) :
    (store.insert thread row isInstalled fresh).pending thread =
      row :: store.pending thread := by
  simp [pending, insert]

/-- The end of one transaction leaves what another has inserted. -/
theorem pending_release_foreign (different : owner ≠ thread) :
    (store.release owner).pending thread = store.pending thread := by
  simp only [pending, release, List.filter_filter]
  congr 1
  apply List.filter_congr
  intro entry _
  by_cases own : entry.1 = thread
  · simp [own, Ne.symm different]
  · simp [own]

theorem lock_release_foreign
    {lock : Int}
    (different : owner ≠ thread)
    (member : (thread, lock) ∈ store.locks) :
    (thread, lock) ∈ (store.release owner).locks := by
  apply List.mem_filter.mpr
  exact ⟨member, bne_iff_ne.mpr (Ne.symm different)⟩

/-- What one call does leaves what another holds. -/
theorem Responds.foreign
    (responds : store.Responds runtime owner op answer next)
    (different : owner ≠ thread) :
    next.pending thread = store.pending thread ∧
      ∀ lock,
        (thread, lock) ∈ store.locks → (thread, lock) ∈ next.locks := by
  cases responds with
  | locked key free =>
      exact ⟨rfl, fun lock member => List.mem_cons_of_mem _ member⟩
  | inserted row isInstalled fresh =>
      refine ⟨?_, fun lock member => member⟩
      simp [pending, insert, different]
  | committed _ =>
      exact
        ⟨pending_release_foreign different,
          fun lock member => lock_release_foreign different member⟩
  | dropped _ =>
      exact
        ⟨pending_release_foreign different,
          fun lock member => lock_release_foreign different member⟩
  | rolledBack =>
      exact
        ⟨pending_release_foreign different,
          fun lock member => lock_release_foreign different member⟩
  | _ =>
      exact ⟨rfl, fun lock member => member⟩

/-- Rows are only added to the table. -/
theorem Responds.rows
    (responds : store.Responds runtime thread op answer next) :
    store.rows <+: next.rows := by
  cases responds with
  | committed _ =>
      exact List.prefix_append _ _
  | _ =>
      exact List.prefix_rfl

/-- No row comes from anywhere but an insert. -/
theorem mem_rows_commit
    {row : AnnotationRow}
    (member : row ∈ (store.commit thread).rows) :
    row ∈ store.rows ++ store.uncommitted.map Prod.snd := by
  rcases List.mem_append.mp member with old | inserted
  · exact List.mem_append_left _ old
  · apply List.mem_append_right
    obtain ⟨entry, isEntry, isRow⟩ := List.mem_map.mp inserted
    exact List.mem_map.mpr ⟨entry, List.mem_of_mem_filter isEntry, isRow⟩

theorem keys_release (thread : Nat) (store : AnnotationStore) :
    (store.release thread).keys ⊆ store.keys := by
  apply List.map_subset
  intro row member
  rcases List.mem_append.mp member with old | inserted
  · exact List.mem_append_left _ old
  · apply List.mem_append_right
    obtain ⟨entry, isEntry, isRow⟩ := List.mem_map.mp inserted
    exact List.mem_map.mpr ⟨entry, List.mem_of_mem_filter isEntry, isRow⟩

theorem keys_commit (thread : Nat) (store : AnnotationStore) :
    (store.commit thread).keys ⊆ store.keys := by
  apply List.map_subset
  intro row member
  rcases List.mem_append.mp member with committed | inserted
  · exact mem_rows_commit committed
  · apply List.mem_append_right
    obtain ⟨entry, isEntry, isRow⟩ := List.mem_map.mp inserted
    exact List.mem_map.mpr ⟨entry, List.mem_of_mem_filter isEntry, isRow⟩

/-- A row of the table is the one that is found under its key. -/
theorem find?_eq_some
    {row : AnnotationRow}
    (member : row ∈ store.rows) :
    store.find? row.actor_id row.client_request_id = some row := by
  have distinct : (store.rows.map (·.key)).Nodup := by
    refine List.Sublist.nodup (List.Sublist.map _ ?_) store.unique
    exact List.sublist_append_left _ _
  unfold find?
  generalize store.rows = rows at member distinct
  induction rows with
  | nil =>
      cases member
  | cons first rest inductionHypothesis =>
      rw [List.map_cons, List.nodup_cons] at distinct
      by_cases same : first = row
      · subst same
        simp
      · have isLater : row ∈ rest :=
          (List.mem_cons.mp member).resolve_left (Ne.symm same)
        rw [List.find?_cons_of_neg]
        · exact inductionHypothesis isLater distinct.2
        · simp only [Bool.and_eq_true, beq_iff_eq]
          rintro ⟨sameActor, sameRequest⟩
          apply distinct.1
          refine List.mem_map.mpr ⟨row, isLater, ?_⟩
          exact Prod.ext sameActor.symm sameRequest.symm

/-- Where no row is found, none has the key. -/
theorem find?_eq_none
    {actorId : String}
    {clientRequestId : Uuid}
    (notFound : store.find? actorId clientRequestId = none) :
    (actorId, clientRequestId) ∉ store.rows.map (·.key) := by
  intro member
  obtain ⟨row, isRow, isKey⟩ := List.mem_map.mp member
  cases isKey
  rw [find?_eq_some isRow] at notFound
  cases notFound

end AnnotationStore

/-! ## Runs -/

/-- The calls of the endpoint on one database. -/
def annotationSemantics (runtime : AnnotationRuntime) :
    Semantics annotationDatabase AnnotationStore where
  Choice := AnnotationOutside
  respond := fun thread op outside store =>
    store.respond runtime thread op outside
  stop := fun thread store => store.release thread

/-- A state of the database, its calls and their history. -/
abbrev AnnotationRun :=
  Config annotationDatabase AnnotationFailure AnnotationStore

/-- A database before the first call, with any committed rows. -/
structure AnnotationStart where
  store : AnnotationStore
  noneInserted : store.uncommitted = []
  noLocks : store.locks = []

def AnnotationRun.initial
    (runtime : AnnotationRuntime)
    (start : AnnotationStart)
    (calls : Nat → AnnotationCall) :
    AnnotationRun :=
  Config.initial start.store fun thread => (calls thread).run runtime

end Sparkz
