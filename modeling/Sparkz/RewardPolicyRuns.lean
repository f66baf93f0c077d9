import Sparkz.InterleavingPast
import Sparkz.RewardPolicyStorage

namespace Sparkz

open Interleaving

/-!
# No policy update is lost

The row lock keeps the row that an update has read until the update commits or
gives up.  So the committed updates form one chain, each made of the policy
that the one before it has left.
-/

/-! ## What a transaction holds -/

/-- What a call has in its transaction. -/
inductive Held where
  | nothing
  | locked : (row : RewardPolicyRow) → Held
  | saved :
      (row : RewardPolicyRow) →
      (write : PolicyWrite) →
      (savedRow : RewardPolicyRow) →
      Held

/-- A row was saved in the transaction. -/
def Held.save
    (write : PolicyWrite)
    (savedRow : RewardPolicyRow) :
    Held → Held
  | .nothing => .nothing
  | .locked row | .saved row _ _ => .saved row write savedRow

/-- What a call holds after its own events. -/
def held : List (Event policyDatabase) → Held
  | [] => .nothing
  | ⟨.query .getForUpdate, .ok (some row)⟩ :: _ => .locked row
  | ⟨.query (.save write), .ok (some savedRow)⟩ :: earlier =>
      (held earlier).save write savedRow
  | ⟨.commit _, _⟩ :: _ | ⟨.rollback, _⟩ :: _ => .nothing
  | _ :: earlier => held earlier

/-- What a call holds is what the table keeps for it. -/
def Held.Kept
    (runtime : PolicyRuntime)
    (thread : Nat)
    (table : PolicyTable) :
    Held → Prop
  | .nothing => True
  | .locked row =>
      ∃ (stored : StoredPolicy) (form : Presentation runtime),
        table = ⟨some stored, some (thread, none)⟩ ∧
          row = stored.present form
  | .saved row write savedRow =>
      ∃ (stored : StoredPolicy) (form savedForm : Presentation runtime)
        (now : Int),
        table = ⟨some stored, some (thread, some (write.stored now))⟩ ∧
          row = stored.present form ∧
          savedRow = (write.stored now).present savedForm

section Table

variable {runtime : PolicyRuntime} {thread owner : Nat}
  {table next : PolicyTable} {holding : Held}

theorem PolicyTable.release_foreign
    {written : Option StoredPolicy}
    (isHeld : table.writer = some (thread, written))
    (different : owner ≠ thread) :
    table.release owner = table := by
  simp only [PolicyTable.release, isHeld, Ne.symm different, if_false]

theorem PolicyTable.commit_foreign
    {written : Option StoredPolicy}
    (isHeld : table.writer = some (thread, written))
    (different : owner ≠ thread) :
    table.commit owner = table := by
  have published : table.publish owner = table := by
    cases written with
    | none =>
        simp only [PolicyTable.publish, isHeld]
    | some stored =>
        simp only [PolicyTable.publish, isHeld, Ne.symm different,
          if_false]
  rw [PolicyTable.commit, published,
    PolicyTable.release_foreign isHeld different]

/-- While a transaction holds the row, no other call changes the table. -/
theorem PolicyTable.respond_foreign
    {op : PolicyOp}
    {outside : PolicyOutside runtime}
    {answer : op.Answer}
    {stored : StoredPolicy}
    {written : Option StoredPolicy}
    (isTable : table = ⟨some stored, some (thread, written)⟩)
    (different : owner ≠ thread)
    (answered : table.respond owner op outside = some (answer, next)) :
    next = table := by
  have isHeld : table.writer = some (thread, written) := by
    rw [isTable]
  cases op with
  | query statement =>
      cases outside with
      | fails error =>
          cases answered
          rfl
      | answers form now =>
          obtain ⟨result, isResult, same⟩ :=
            Option.map_eq_some_iff.mp answered
          cases same
          cases statement with
          | get =>
              cases isResult
              rfl
          | getForUpdate =>
              subst isTable
              cases isResult
          | save write =>
              simp only [PolicyTable.answer, isHeld, Ne.symm different,
                if_false, Option.some.injEq] at isResult
              rw [← isResult, isTable]
  | commit snapshot =>
      cases outside with
      | fails error =>
          cases answered
          exact PolicyTable.release_foreign isHeld different
      | answers form now =>
          cases answered
          exact PolicyTable.commit_foreign isHeld different
  | rollback =>
      cases answered
      exact PolicyTable.release_foreign isHeld different
  | deliver snapshot =>
      cases answered
      rfl

/-- What other calls do leaves what a call holds. -/
theorem Held.Kept.foreign
    {op : PolicyOp}
    {outside : PolicyOutside runtime}
    {answer : op.Answer}
    (kept : holding.Kept runtime thread table)
    (different : owner ≠ thread)
    (answered : table.respond owner op outside = some (answer, next)) :
    holding.Kept runtime thread next := by
  cases holding with
  | nothing =>
      trivial
  | locked row =>
      obtain ⟨stored, form, isTable, isRow⟩ := kept
      rw [PolicyTable.respond_foreign isTable different answered]
      exact ⟨stored, form, isTable, isRow⟩
  | saved row write savedRow =>
      obtain ⟨stored, form, savedForm, now, isTable, areRows⟩ := kept
      rw [PolicyTable.respond_foreign isTable different answered]
      exact ⟨stored, form, savedForm, now, isTable, areRows⟩

/-- A call that stops leaves what another call holds. -/
theorem Held.Kept.stop
    (kept : holding.Kept runtime thread table)
    (different : owner ≠ thread) :
    holding.Kept runtime thread (table.release owner) := by
  cases holding with
  | nothing =>
      trivial
  | locked row =>
      obtain ⟨stored, form, rfl, isRow⟩ := kept
      rw [PolicyTable.release_foreign rfl different]
      exact ⟨stored, form, rfl, isRow⟩
  | saved row write savedRow =>
      obtain ⟨stored, form, savedForm, now, rfl, areRows⟩ := kept
      rw [PolicyTable.release_foreign rfl different]
      exact ⟨stored, form, savedForm, now, rfl, areRows⟩

/-- A row that a transaction has saved is kept for it. -/
theorem Held.Kept.save
    {past : List (Event policyDatabase)}
    {write : PolicyWrite}
    {form : Presentation runtime}
    {now : Int}
    {result : Option RewardPolicyRow × PolicyTable}
    (kept : (held past).Kept runtime thread table)
    (isResult :
      table.answer thread form now (.save write) = some result) :
    (held (⟨.query (.save write), .ok result.1⟩ :: past)).Kept runtime
      thread result.2 := by
  have saved :
      ∀ (row : RewardPolicyRow) (stored : StoredPolicy)
        (firstForm : Presentation runtime)
        (written : Option StoredPolicy),
        table = ⟨some stored, some (thread, written)⟩ →
        row = stored.present firstForm →
        (∀ savedRow, (held past).save write savedRow =
          .saved row write savedRow) →
        (held (⟨.query (.save write), .ok result.1⟩ :: past)).Kept runtime
          thread result.2 := by
    intro row stored firstForm written isTable isRow isSaved
    subst isTable
    simp only [PolicyTable.answer, if_true, Option.some.injEq] at isResult
    subst isResult
    show ((held past).save write _).Kept runtime thread _
    rw [isSaved]
    exact ⟨stored, firstForm, form, now, rfl, isRow, rfl⟩
  cases holding : held past with
  | nothing =>
      obtain ⟨row, next⟩ := result
      cases row with
      | none =>
          show (held past).Kept runtime thread next
          rw [holding]
          trivial
      | some savedRow =>
          show ((held past).save write savedRow).Kept runtime thread next
          rw [holding]
          trivial
  | locked row =>
      rw [holding] at kept saved
      obtain ⟨stored, firstForm, isTable, isRow⟩ := kept
      exact saved row stored firstForm none isTable isRow fun _ => rfl
  | saved row earlier savedRow =>
      rw [holding] at kept saved
      obtain ⟨stored, firstForm, _, earlierNow, isTable, isRow, _⟩ := kept
      exact
        saved row stored firstForm (some (earlier.stored earlierNow))
          isTable isRow fun _ => rfl

/-- A call holds what its own operations leave it. -/
theorem Held.Kept.own
    {past : List (Event policyDatabase)}
    {op : PolicyOp}
    {outside : PolicyOutside runtime}
    {answer : op.Answer}
    (kept : (held past).Kept runtime thread table)
    (answered : table.respond thread op outside = some (answer, next)) :
    (held (⟨op, answer⟩ :: past)).Kept runtime thread next := by
  cases op with
  | query statement =>
      cases outside with
      | fails error =>
          cases answered
          cases statement with
          | _ =>
              exact kept
      | answers form now =>
          obtain ⟨result, isResult, same⟩ :=
            Option.map_eq_some_iff.mp answered
          cases same
          cases statement with
          | get =>
              cases isResult
              exact kept
          | getForUpdate =>
              obtain ⟨committed, writer⟩ := table
              cases committed with
              | none =>
                  cases isResult
                  exact kept
              | some stored =>
                  cases writer with
                  | none =>
                      cases isResult
                      exact ⟨stored, form, rfl, rfl⟩
                  | some holder =>
                      cases isResult
          | save write =>
              exact kept.save isResult
  | commit snapshot =>
      trivial
  | rollback =>
      trivial
  | deliver snapshot =>
      cases answered
      exact kept

end Table

/-! ## What one call does -/

/-- A call has saved what its update makes, and read it back. -/
def Prepared
    (runtime : PolicyRuntime)
    (update : RewardPolicyUpdate)
    (past : List (Event policyDatabase))
    (snapshot : PolicySnapshot) :
    Prop :=
  ∃ row write savedRow,
    held past = .saved row write savedRow ∧
      makeWrite runtime update row = .ok write ∧
      policyFromRow runtime savedRow = .ok snapshot

/-- A commit that the database has accepted. -/
def committed (snapshot : PolicySnapshot) : Event policyDatabase :=
  ⟨.commit snapshot, .ok ()⟩

/-- A call has not ended a transaction by a commit. -/
def Uncommitted (past : List (Event policyDatabase)) : Prop :=
  ∀ event ∈ past, ∀ snapshot, event.op ≠ .commit snapshot

/-- Only a prepared update is committed, once, and then delivered. -/
def PolicyCall.permits
    (runtime : PolicyRuntime)
    (call : PolicyCall) :
    Protocol policyDatabase :=
  fun past op =>
    match op with
    | .commit snapshot =>
        Uncommitted past ∧
          ∃ update,
            call = .update update ∧ Prepared runtime update past snapshot
    | .deliver snapshot =>
        match call with
        | .load =>
            ∃ row,
              (⟨.query .get, .ok (some row)⟩ : Event policyDatabase) ∈
                  past ∧
                policyFromRow runtime row = .ok snapshot
        | .update _ => committed snapshot ∈ past
    | _ => True

section Calls

variable {runtime : PolicyRuntime} {update : RewardPolicyUpdate}

theorem Uncommitted.nil : Uncommitted [] := by
  intro event impossible
  cases impossible

theorem Uncommitted.cons
    {past : List (Event policyDatabase)}
    {event : Event policyDatabase}
    (uncommitted : Uncommitted past)
    (isOther : ∀ snapshot, event.op ≠ .commit snapshot) :
    Uncommitted (event :: past) := by
  intro other member
  rcases List.mem_cons.mp member with rfl | earlier
  · exact isOther
  · exact uncommitted other earlier

/-- The transaction of an update prepares its snapshot before it returns. -/
theorem updateInTransaction_obeys :
    (updateInTransaction runtime update).Obeys
      ((PolicyCall.update update).permits runtime) [] fun result past =>
        Uncommitted past ∧
          ∀ snapshot,
            result = .ok snapshot → Prepared runtime update past snapshot := by
  have noSuccess :
      ∀ (error : Failure) (past : List (Event policyDatabase)),
        Uncommitted past →
        Uncommitted past ∧
          ∀ snapshot,
            (.error error : Except Failure PolicySnapshot) =
                .ok snapshot →
              Prepared runtime update past snapshot := by
    intro error past uncommitted
    refine ⟨uncommitted, ?_⟩
    intro snapshot impossible
    cases impossible
  refine ⟨trivial, fun answer => ?_⟩
  have read :
      Uncommitted
        [(⟨.query .getForUpdate, answer⟩ : Event policyDatabase)] := by
    apply Uncommitted.nil.cons
    intro snapshot impossible
    cases impossible
  cases answer with
  | error error =>
      exact noSuccess error _ read
  | ok found =>
      cases found with
      | none =>
          exact noSuccess _ _ read
      | some row =>
          show Program.Obeys _
            (Program.ofExcept (makeWrite runtime update row) >>= _) _ _
          rw [Program.obeys_bind, Program.obeys_ofExcept]
          cases isMade : makeWrite runtime update row with
          | error error =>
              exact noSuccess error _ read
          | ok write =>
              refine ⟨trivial, fun saved => ?_⟩
              have written :
                  Uncommitted
                    [(⟨.query (.save write), saved⟩ :
                        Event policyDatabase),
                      ⟨.query .getForUpdate, .ok (some row)⟩] := by
                apply read.cons
                intro snapshot impossible
                cases impossible
              cases saved with
              | error error =>
                  exact noSuccess error _ written
              | ok found =>
                  cases found with
                  | none =>
                      exact noSuccess _ _ written
                  | some savedRow =>
                      apply Program.obeys_ofExcept.mpr
                      refine ⟨written, ?_⟩
                      intro snapshot isRead
                      exact
                        ⟨row, write, savedRow, rfl, isMade, isRead⟩

/-- An update returns what it has committed, and commits nothing else. -/
theorem updatePolicy_obeys :
    (updatePolicy runtime update).Obeys
      ((PolicyCall.update update).permits runtime) [] fun result past =>
        match result with
        | .ok snapshot => committed snapshot ∈ past
        | .error _ => ∀ snapshot, committed snapshot ∉ past := by
  show Program.Obeys _ (_ >>= _) _ _
  rw [Program.obeys_bind, Program.obeys_attempt]
  refine updateInTransaction_obeys.weaken ?_
  rintro result past ⟨uncommitted, prepared⟩
  have noneAccepted :
      ∀ (event : Event policyDatabase) (snapshot : PolicySnapshot),
        event ≠ committed snapshot →
        committed snapshot ∉ event :: past := by
    intro event snapshot different member
    rcases List.mem_cons.mp member with same | earlier
    · exact different same.symm
    · exact uncommitted _ earlier snapshot rfl
  cases result with
  | ok snapshot =>
      refine
        ⟨⟨uncommitted, update, rfl, prepared snapshot rfl⟩, fun answer => ?_⟩
      cases answer with
      | ok _ =>
          exact List.mem_cons_self
      | error error =>
          intro other
          apply noneAccepted
          intro impossible
          cases impossible
  | error error =>
      refine ⟨trivial, fun answer other => ?_⟩
      apply noneAccepted
      intro impossible
      cases impossible

/-- A load returns what the row that it has read stands for. -/
theorem loadPolicy_obeys :
    (loadPolicy runtime).Obeys (PolicyCall.load.permits runtime) []
      fun result past =>
        Uncommitted past ∧
          ∀ snapshot,
            result = .ok snapshot →
            ∃ row,
              (⟨.query .get, .ok (some row)⟩ : Event policyDatabase) ∈
                  past ∧
                policyFromRow runtime row = .ok snapshot := by
  refine ⟨trivial, fun answer => ?_⟩
  have read :
      Uncommitted [(⟨.query .get, answer⟩ : Event policyDatabase)] := by
    apply Uncommitted.nil.cons
    intro snapshot impossible
    cases impossible
  cases answer with
  | error error =>
      refine ⟨read, ?_⟩
      intro snapshot impossible
      cases impossible
  | ok found =>
      cases found with
      | none =>
          refine ⟨read, ?_⟩
          intro snapshot impossible
          cases impossible
      | some row =>
          apply Program.obeys_ofExcept.mpr
          refine ⟨read, ?_⟩
          intro snapshot isRead
          exact ⟨row, List.mem_cons_self, isRead⟩

/-- How a call has ended, as its own events show. -/
def PolicyCall.Ended
    (call : PolicyCall) :
    Except Failure Unit → List (Event policyDatabase) → Prop
  | .ok (), past =>
      ∃ snapshot,
        (⟨.deliver snapshot, ()⟩ : Event policyDatabase) ∈ past ∧
          ∀ update, call = .update update → committed snapshot ∈ past
  | .error _, past => ∀ snapshot, committed snapshot ∉ past

/-- Every call of the repository conforms. -/
theorem PolicyCall.run_obeys (call : PolicyCall) :
    (call.run runtime).Obeys (call.permits runtime) [] call.Ended := by
  show Program.Obeys _ (call.snapshot runtime >>= _) _ _
  rw [Program.obeys_bind]
  cases call with
  | load =>
      refine loadPolicy_obeys.weaken ?_
      rintro result past ⟨uncommitted, isRead⟩
      cases result with
      | error error =>
          intro snapshot member
          exact uncommitted _ member snapshot rfl
      | ok snapshot =>
          refine ⟨isRead snapshot rfl, fun _ => ?_⟩
          refine ⟨snapshot, List.mem_cons_self, ?_⟩
          intro update impossible
          cases impossible
  | update change =>
      refine updatePolicy_obeys.weaken ?_
      intro result past ended
      cases result with
      | error error =>
          exact ended
      | ok snapshot =>
          refine ⟨ended, fun _ => ?_⟩
          refine ⟨snapshot, List.mem_cons_self, ?_⟩
          intro update _
          exact List.mem_cons_of_mem _ ended

end Calls

/-! ## The chain of updates -/

/-- The call and the snapshot of an update that has succeeded. -/
def successOf? : Entry policyDatabase → Option (Nat × PolicySnapshot)
  | ⟨thread, .commit snapshot, .ok ()⟩ => some (thread, snapshot)
  | _ => none

/-- The updates that have succeeded, the latest one first. -/
def successes
    (history : List (Entry policyDatabase)) :
    List (Nat × PolicySnapshot) :=
  history.filterMap successOf?

/-- The policy that the latest successful update has left. -/
def latestPolicy
    (initial : PolicySnapshot)
    (history : List (Entry policyDatabase)) :
    PolicySnapshot :=
  ((successes history).head?.map Prod.snd).getD initial

/--
One policy is what an update makes of another: its patch is made from that
policy, a document that the patch supplies is kept as it was validated, and the
others are kept as they were.
-/
def Supersedes
    (update : RewardPolicyUpdate)
    (previous next : PolicySnapshot) :
    Prop :=
  ∃ current patch validatedPatch,
    current.Same previous ∧
      update.patch current = .ok patch ∧
      validatePatch patch = .ok validatedPatch ∧
      next.revision = previous.revision + 1 ∧
      next.rules =
        (validatedPatch.rules.getD previous.rules).withRevision
          next.revision ∧
      next.offPeakWindows.Perm
        (validatedPatch.offPeakWindows.getD previous.offPeakWindows)

/-- What an entry says about the policies before it. -/
def PolicyEntry
    (runtime : PolicyRuntime)
    (initial : PolicySnapshot)
    (calls : Nat → PolicyCall) :
    Entry policyDatabase → List (Entry policyDatabase) → Prop
  | ⟨thread, .commit next, .ok ()⟩, earlier =>
      ∃ update,
        calls thread = .update update ∧
          Supersedes update (latestPolicy initial earlier) next
  | ⟨_, .query .get, .ok (some row)⟩, earlier =>
      ∃ read,
        policyFromRow runtime row = .ok read ∧
          read.Same (latestPolicy initial earlier)
  | _, _ => True

section Chain

variable {runtime : PolicyRuntime} {initial : PolicySnapshot}
  {calls : Nat → PolicyCall} {history : List (Entry policyDatabase)}

theorem successes_success
    (thread : Nat)
    (snapshot : PolicySnapshot)
    (history : List (Entry policyDatabase)) :
    successes (⟨thread, .commit snapshot, .ok ()⟩ :: history) =
      (thread, snapshot) :: successes history := by
  rfl

theorem successes_other
    {entry : Entry policyDatabase}
    (isOther : successOf? entry = none) :
    successes (entry :: history) = successes history := by
  unfold successes
  rw [List.filterMap_cons, isOther]

theorem latestPolicy_other
    {entry : Entry policyDatabase}
    (isOther : successOf? entry = none) :
    latestPolicy initial (entry :: history) =
      latestPolicy initial history := by
  unfold latestPolicy
  rw [successes_other isOther]

/-- An entry of a success is an accepted commit. -/
theorem successOf?_eq_some
    {entry : Entry policyDatabase}
    {success : Nat × PolicySnapshot}
    (isSuccess : successOf? entry = some success) :
    entry = ⟨success.1, .commit success.2, .ok ()⟩ := by
  obtain ⟨thread, op, answer⟩ := entry
  cases op with
  | commit snapshot =>
      cases answer with
      | ok _ =>
          cases isSuccess
          rfl
      | error error =>
          cases isSuccess
  | _ =>
      cases isSuccess

theorem mem_successes
    {thread : Nat}
    {snapshot : PolicySnapshot} :
    (thread, snapshot) ∈ successes history ↔
      committed snapshot ∈ ownPast thread history := by
  rw [mem_ownPast, successes, List.mem_filterMap]
  constructor
  · rintro ⟨entry, member, isSuccess⟩
    rw [successOf?_eq_some isSuccess] at member
    exact member
  · intro member
    exact ⟨_, member, rfl⟩

/-- The revisions count the updates from the first policy on. -/
theorem revisions_eq
    (each : EachEntry (PolicyEntry runtime initial calls) history) :
    (latestPolicy initial history).revision =
        initial.revision + (successes history).length ∧
      ((successes history).map fun success => success.2.revision) =
        (List.range' (initial.revision + 1)
          (successes history).length).reverse := by
  induction history with
  | nil =>
      exact ⟨rfl, rfl⟩
  | cons entry earlier inductionHypothesis =>
      obtain ⟨isLatest, areRevisions⟩ := inductionHypothesis each.2
      cases isSuccess : successOf? entry with
      | none =>
          rw [latestPolicy_other isSuccess, successes_other isSuccess]
          exact ⟨isLatest, areRevisions⟩
      | some success =>
          have isEntry := successOf?_eq_some isSuccess
          subst isEntry
          obtain ⟨update, _, _, _, _, _, _, _, isNext, _⟩ := each.1
          have isRevision :
              success.2.revision =
                initial.revision + ((successes earlier).length + 1) := by
            rw [isNext, isLatest, Nat.add_assoc]
          refine ⟨isRevision, ?_⟩
          rw [successes_success, List.map_cons, areRevisions,
            List.length_cons, List.range'_concat, List.reverse_append]
          simp [isRevision]
          omega

end Chain

/-! ## Every run -/

section Runs

variable {runtime : PolicyRuntime} {stored : StoredPolicy}
  {initial : PolicySnapshot} {calls : Nat → PolicyCall}
  {config : PolicyRun}

/-- What a call holds in a run is kept for it. -/
theorem held_kept
    (reached :
      Reachable (policySemantics runtime)
        (PolicyRun.initial runtime stored calls) config)
    {thread : Nat}
    {program : PolicyProgram Unit}
    (running : config.threads thread = some program) :
    (held (ownPast thread config.history)).Kept runtime thread
      config.shared := by
  refine
    reached.ownFact
      (fun thread past table => (held past).Kept runtime thread table)
      ?_ ?_ ?_ ?_ running
  · intro thread
    trivial
  · intro thread owner past table different kept
    exact kept.stop different
  · intro before thread op rest choice answer next _ _ answered kept
    exact kept.own answered
  · intro before thread owner op program rest choice answer next different
      _ _ _ answered kept
    exact kept.foreign different answered

/-- A prepared update makes its snapshot of the policy in the row. -/
theorem Prepared.supersedes
    {update : RewardPolicyUpdate}
    {thread : Nat}
    {past : List (Event policyDatabase)}
    {table : PolicyTable}
    {previous next : PolicySnapshot}
    (prepared : Prepared runtime update past next)
    (kept : (held past).Kept runtime thread table)
    {current : StoredPolicy}
    (isCurrent : table.committed = some current)
    (reads : current.ReadsAs runtime previous) :
    Supersedes update previous next ∧
      ∃ written,
        (table.commit thread).committed = some written ∧
          written.ReadsAs runtime next := by
  obtain ⟨row, write, savedRow, holding, isMade, isRead⟩ := prepared
  rw [holding] at kept
  obtain ⟨locked, form, savedForm, now, isTable, isRow, isSaved⟩ := kept
  subst isTable
  cases isCurrent
  subst isRow
  subst isSaved
  obtain ⟨read, isPolicy, isMade⟩ := Except.bind_eq_ok isMade
  obtain ⟨patch, isPatch, isMade⟩ := Except.bind_eq_ok isMade
  obtain ⟨validatedPatch, isValidated, isMade⟩ := Except.bind_eq_ok isMade
  obtain ⟨again, isAgain, same⟩ := reads form
  rw [isPolicy] at isAgain
  cases isAgain
  have isWrite := Except.ok.inj isMade
  subst isWrite
  obtain ⟨isRevision, areRules, areWindows⟩ :=
    PolicyWrite.stored_read isRead
  constructor
  · refine
      ⟨read, patch, validatedPatch, same, isPatch, isValidated, ?_, ?_, ?_⟩
    · rw [isRevision, ← same.revision]
      rfl
    · rw [areRules, isRevision, ← same.rules]
      rfl
    · refine areWindows.trans ?_
      show (validatedPatch.offPeakWindows.getD read.offPeakWindows).Perm _
      cases validatedPatch.offPeakWindows with
      | none =>
          exact same.offPeakWindows
      | some windows =>
          exact .refl windows
  · refine ⟨_, ?_, StoredPolicy.readsAs_of_read isRead⟩
    simp [PolicyTable.commit, PolicyTable.publish, PolicyTable.release]

/-- Giving up a lock leaves the committed row. -/
theorem release_committed (owner : Nat) (table : PolicyTable) :
    (table.release owner).committed = table.committed := by
  unfold PolicyTable.release
  split
  · split
    · rfl
    · rfl
  · rfl

/-- Only an accepted commit changes the committed row. -/
theorem respond_committed
    {table next : PolicyTable}
    {thread : Nat}
    {op : PolicyOp}
    {outside : PolicyOutside runtime}
    {answer : op.Answer}
    (answered : table.respond thread op outside = some (answer, next))
    (noSuccess : successOf? ⟨thread, op, answer⟩ = none) :
    next.committed = table.committed := by
  cases op with
  | query statement =>
      cases outside with
      | fails error =>
          cases answered
          rfl
      | answers form now =>
          obtain ⟨result, isResult, same⟩ :=
            Option.map_eq_some_iff.mp answered
          cases same
          cases statement with
          | get =>
              cases isResult
              rfl
          | getForUpdate =>
              simp only [PolicyTable.answer] at isResult
              split at isResult
              · cases isResult
                rfl
              · cases isResult
                rfl
              · cases isResult
          | save write =>
              simp only [PolicyTable.answer] at isResult
              split at isResult
              · split at isResult
                · cases isResult
                  rfl
                · cases isResult
                  rfl
              · cases isResult
                rfl
  | commit snapshot =>
      cases outside with
      | fails error =>
          cases answered
          exact release_committed thread table
      | answers form now =>
          cases answered
          cases noSuccess
  | rollback =>
      cases answered
      exact release_committed thread table
  | deliver snapshot =>
      cases answered
      rfl

/-- What the committed row is read as, and what the history has kept to. -/
def PolicyInvariant
    (runtime : PolicyRuntime)
    (initial : PolicySnapshot)
    (calls : Nat → PolicyCall)
    (table : PolicyTable)
    (history : List (Entry policyDatabase)) :
    Prop :=
  (∃ current,
    table.committed = some current ∧
      current.ReadsAs runtime (latestPolicy initial history)) ∧
    EachEntry (PolicyEntry runtime initial calls) history

/-- A load reads the policy of the committed row. -/
theorem policyEntry_of_other
    {table next : PolicyTable}
    {history : List (Entry policyDatabase)}
    {thread : Nat}
    {op : PolicyOp}
    {outside : PolicyOutside runtime}
    {answer : op.Answer}
    (holds : PolicyInvariant runtime initial calls table history)
    (answered : table.respond thread op outside = some (answer, next))
    (noSuccess : successOf? ⟨thread, op, answer⟩ = none) :
    PolicyEntry runtime initial calls ⟨thread, op, answer⟩ history := by
  obtain ⟨⟨current, isCurrent, reads⟩, _⟩ := holds
  cases op with
  | query statement =>
      cases outside with
      | fails error =>
          cases answered
          cases statement <;> trivial
      | answers form now =>
          obtain ⟨result, isResult, same⟩ :=
            Option.map_eq_some_iff.mp answered
          cases same
          cases statement with
          | get =>
              cases isResult
              simp only [isCurrent, Option.map_some]
              exact reads form
          | _ =>
              trivial
  | commit snapshot =>
      cases answer with
      | ok _ =>
          cases noSuccess
      | error error =>
          trivial
  | rollback =>
      trivial
  | deliver snapshot =>
      trivial

theorem policy_invariant
    (reads : stored.ReadsAs runtime initial)
    (reached :
      Reachable (policySemantics runtime)
        (PolicyRun.initial runtime stored calls) config) :
    PolicyInvariant runtime initial calls config.shared config.history := by
  have conforming :
      ∀ thread,
        ((calls thread).run runtime).Obeys
          ((calls thread).permits runtime) [] (calls thread).Ended :=
    fun thread => (calls thread).run_obeys
  refine
    reached.invariant (PolicyInvariant runtime initial calls) ?_ ?_ ?_
  · exact ⟨⟨stored, rfl, reads⟩, trivial⟩
  · rintro table history thread ⟨⟨current, isCurrent, reads⟩, each⟩
    refine ⟨⟨current, ?_, reads⟩, each⟩
    exact (release_committed thread table).trans isCurrent
  · intro before thread op rest choice answer next reached running answered
      _ holds
    cases isSuccess : successOf? ⟨thread, op, answer⟩ with
    | none =>
        obtain ⟨current, isCurrent, reads⟩ := holds.1
        refine
          ⟨⟨current, ?_, ?_⟩,
            policyEntry_of_other holds answered isSuccess, holds.2⟩
        · rw [respond_committed answered isSuccess, isCurrent]
        · rw [latestPolicy_other isSuccess]
          exact reads
    | some success =>
        have isEntry := successOf?_eq_some isSuccess
        cases isEntry
        obtain ⟨_, update, isUpdate, prepared⟩ :=
          reached.permitted conforming running
        obtain ⟨⟨current, isCurrent, reads⟩, each⟩ := holds
        obtain ⟨supersedes, written, isWritten, readsNext⟩ :=
          prepared.supersedes (held_kept reached running) isCurrent reads
        have isNext : next = before.shared.commit success.1 := by
          cases choice with
          | fails error =>
              cases answered
          | answers form now =>
              cases answered
              rfl
        subst isNext
        exact
          ⟨⟨written, isWritten, readsNext⟩,
            ⟨update, isUpdate, supersedes⟩, each⟩

/-- No call commits twice. -/
theorem successes_distinct
    (reached :
      Reachable (policySemantics runtime)
        (PolicyRun.initial runtime stored calls) config) :
    ((successes config.history).map Prod.fst).Nodup := by
  have conforming :
      ∀ thread,
        ((calls thread).run runtime).Obeys
          ((calls thread).permits runtime) [] (calls thread).Ended :=
    fun thread => (calls thread).run_obeys
  refine
    reached.invariant
      (fun _ history => ((successes history).map Prod.fst).Nodup)
      ?_ (fun _ distinct => distinct) ?_
  · exact List.nodup_nil
  intro before thread op rest choice answer next reached running _ _
    distinct
  cases isSuccess : successOf? ⟨thread, op, answer⟩ with
  | none =>
      rw [successes_other isSuccess]
      exact distinct
  | some success =>
      have isEntry := successOf?_eq_some isSuccess
      cases isEntry
      obtain ⟨uncommitted, _⟩ := reached.permitted conforming running
      rw [successes_success, List.map_cons, List.nodup_cons]
      refine ⟨?_, distinct⟩
      intro member
      obtain ⟨earlier, isEarlier, sameThread⟩ := List.mem_map.mp member
      rw [show earlier = (success.1, earlier.2) from
        Prod.ext sameThread rfl, mem_successes] at isEarlier
      exact uncommitted _ isEarlier earlier.2 rfl

/--
What a caller of the repository receives: a load, the policy of the latest
successful update when it read the row; an update, the policy it committed.
-/
def Delivers
    (initial : PolicySnapshot)
    (calls : Nat → PolicyCall)
    (history : List (Entry policyDatabase))
    (thread : Nat)
    (snapshot : PolicySnapshot) :
    Prop :=
  match calls thread with
  | .load =>
      ∃ later row earlier,
        history =
            later ++ ⟨thread, .query .get, .ok (some row)⟩ :: earlier ∧
          snapshot.Same (latestPolicy initial earlier)
  | .update _ => (thread, snapshot) ∈ successes history

/-- Whatever is delivered was read, or committed. -/
theorem delivered_each
    (reads : stored.ReadsAs runtime initial)
    (reached :
      Reachable (policySemantics runtime)
        (PolicyRun.initial runtime stored calls) config) :
    EachEntry
      (fun (entry : Entry policyDatabase) earlier =>
        ∀ thread snapshot,
          entry = ⟨thread, .deliver snapshot, ()⟩ →
            Delivers initial calls earlier thread snapshot)
      config.history := by
  have conforming :
      ∀ thread,
        ((calls thread).run runtime).Obeys
          ((calls thread).permits runtime) [] (calls thread).Ended :=
    fun thread => (calls thread).run_obeys
  refine
    reached.invariant (fun _ history => EachEntry _ history) ?_
      (fun _ each => each) ?_
  · trivial
  intro before thread op rest choice answer next reached running _ _ each
  refine ⟨?_, each⟩
  intro owner snapshot isDelivery
  cases isDelivery
  have permitted := reached.permitted conforming running
  unfold Delivers
  cases isCall : calls thread with
  | load =>
      simp only [isCall, PolicyCall.permits] at permitted
      obtain ⟨row, isRead, isPolicy⟩ := permitted
      obtain ⟨later, earlier, split, read, isAgain, same⟩ :=
        (policy_invariant reads reached).2.of_mem (mem_ownPast.mp isRead)
      rw [isPolicy] at isAgain
      cases isAgain
      exact ⟨later, row, earlier, split, same⟩
  | update change =>
      simp only [isCall, PolicyCall.permits] at permitted
      exact mem_successes.mpr permitted

/--
In every run, the successful updates form one chain from the first policy on,
the committed row is the policy of the latest one, loads return the policy of
the latest one, and nothing but a successful update changes the row.
-/
theorem policyUpdates_loseNothing
    {form : Presentation runtime}
    (valid : policyFromRow runtime (stored.present form) = .ok initial)
    (reached :
      Reachable (policySemantics runtime)
        (PolicyRun.initial runtime stored calls) config) :
    (latestPolicy initial config.history).revision =
        initial.revision + (successes config.history).length ∧
      ((successes config.history).map
        fun success => success.2.revision).Nodup ∧
      ((successes config.history).map Prod.fst).Nodup ∧
      (∃ current,
        config.shared.committed = some current ∧
          current.ReadsAs runtime (latestPolicy initial config.history)) ∧
      (∀ later earlier thread next,
        config.history =
            later ++ ⟨thread, .commit next, .ok ()⟩ :: earlier →
          ∃ update,
            calls thread = .update update ∧
              Supersedes update (latestPolicy initial earlier) next) ∧
      (∀ later earlier thread snapshot,
        config.history =
            later ++ ⟨thread, .deliver snapshot, ()⟩ :: earlier →
          Delivers initial calls earlier thread snapshot) ∧
      (∀ thread error,
        config.threads thread = some (.fail error) →
          thread ∉ (successes config.history).map Prod.fst) ∧
      ∀ label next,
        Step (policySemantics runtime) config label next →
          next.shared.committed ≠ config.shared.committed →
            ∃ thread snapshot,
              label = some ⟨thread, .commit snapshot, .ok ()⟩ := by
  have conforming :
      ∀ thread,
        ((calls thread).run runtime).Obeys
          ((calls thread).permits runtime) [] (calls thread).Ended :=
    fun thread => (calls thread).run_obeys
  have reads := StoredPolicy.readsAs_of_read valid
  obtain ⟨isRow, each⟩ := policy_invariant reads reached
  obtain ⟨isRevision, areRevisions⟩ := revisions_eq each
  refine ⟨isRevision, ?_, successes_distinct reached, isRow, ?_, ?_, ?_, ?_⟩
  · rw [areRevisions, List.nodup_reverse]
    exact List.nodup_range'
  · intro later earlier thread next split
    rw [split] at each
    exact each.at
  · intro later earlier thread snapshot split
    have delivered := delivered_each reads reached
    rw [split] at delivered
    exact delivered.at thread snapshot rfl
  · intro thread error running member
    obtain ⟨success, isSuccess, rfl⟩ := List.mem_map.mp member
    exact
      reached.obeysPast conforming running success.2
        (mem_successes.mp isSuccess)
  · intro label next step changed
    cases step with
    | @perform thread op rest choice answer shared running answered =>
        cases isSuccess : successOf? ⟨thread, op, answer⟩ with
        | none =>
            exact absurd (respond_committed answered isSuccess) changed
        | some success =>
            exact
              ⟨success.1, success.2,
                congrArg some (successOf?_eq_some isSuccess)⟩
    | stop thread =>
        exact absurd (release_committed thread _) changed

end Runs

/-! ## A schedule of two updates -/

/-- A runtime that gives the columns as they are stored. -/
def columnRuntime : PolicyRuntime where
  parse _ := none
  integerOf _ := none
  toISOString _ := "2026-09-23T00:00:00.000Z"

/-- The first policy of the migration, as it is stored. -/
def migratedPolicy : StoredPolicy :=
  PolicyWrite.stored
    { revision := 1
      rules := awardRulesConfig.withRevision 1
      offPeakWindows := getDefaultOffPeakWindows }
    1790121600000

def migratedSnapshot : PolicySnapshot where
  revision := 1
  updatedAt := "2026-09-23T00:00:00.000Z"
  rules := awardRulesConfig.withRevision 1
  offPeakWindows := getDefaultOffPeakWindows

/-- One call replaces the rules, another drops a country, a third loads. -/
def rulesAndWindows : Nat → PolicyCall
  | 0 =>
      .update <| .plain <| .record (some (.object awardRulesConfig.fields))
        none
  | 1 =>
      .update <| .callback fun current =>
        .ok <| .record none <| some <| .object <|
          OffPeakConfig.fields
            (current.offPeakWindows.filter (·.1 != "ES"))
  | _ => .load

/-- The second update waits for the first one. -/
def rulesThenWindows : Option PolicyRun :=
  (PolicyRun.initial columnRuntime migratedPolicy rulesAndWindows).run?
    (policySemantics columnRuntime) (fun _ _ => true)
    ([0, 2, 0, 0, 1, 0, 1, 1, 1, 2].map fun thread =>
      (thread, .answers (.plain columnRuntime) 1790121600000))

/-- Both updates count. -/
theorem rulesThenWindows_losesNothing :
    ∃ config,
      rulesThenWindows = some config ∧
        (latestPolicy migratedSnapshot config.history).revision = 3 := by
  have isRun :
      (rulesThenWindows.map
        fun config => (successes config.history).length) = some 2 := by
    decide +kernel
  obtain ⟨config, isRun, areTwo⟩ := Option.map_eq_some_iff.mp isRun
  have isRead :
      policyFromRow columnRuntime
          (migratedPolicy.present (.plain columnRuntime)) =
        .ok migratedSnapshot := by
    decide +kernel
  have counted :=
    (policyUpdates_loseNothing isRead
      (Config.run?_sound (fun _ _ _ => trivial) .start isRun)).1
  rw [areTwo] at counted
  exact ⟨config, isRun, counted⟩

end Sparkz
