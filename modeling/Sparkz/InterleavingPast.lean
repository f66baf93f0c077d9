import Sparkz.InterleavingRun

namespace Interleaving

/-!
# What a running call knows

The operations of one call are the projection of the global history to that
call.  A call that obeys a protocol on its own obeys it in every run, from its
own past, and what it derives from that past is a fact about the history.
-/

variable {S : Signature}

/-- The operations of one call, projected out of a history. -/
def ownPast (thread : Nat) : List (Entry S) → List (Event S)
  | [] => []
  | entry :: earlier =>
      if entry.thread = thread then
        ⟨entry.op, entry.answer⟩ :: ownPast thread earlier
      else
        ownPast thread earlier

@[simp] theorem ownPast_nil (thread : Nat) :
    ownPast thread ([] : List (Entry S)) = [] :=
  rfl

@[simp] theorem ownPast_own
    (thread : Nat)
    (op : S.Op)
    (answer : S.Answer op)
    (earlier : List (Entry S)) :
    ownPast thread (⟨thread, op, answer⟩ :: earlier) =
      ⟨op, answer⟩ :: ownPast thread earlier := by
  simp [ownPast]

theorem ownPast_foreign
    {thread owner : Nat}
    (foreign : owner ≠ thread)
    (op : S.Op)
    (answer : S.Answer op)
    (earlier : List (Entry S)) :
    ownPast thread (⟨owner, op, answer⟩ :: earlier) =
      ownPast thread earlier := by
  simp [ownPast, foreign]

/-- An event of a call's own past is an entry of the history. -/
theorem mem_ownPast
    {thread : Nat}
    {history : List (Entry S)}
    {event : Event S} :
    event ∈ ownPast thread history ↔
      ⟨thread, event.op, event.answer⟩ ∈ history := by
  induction history with
  | nil =>
      simp
  | cons entry earlier inductionHypothesis =>
      rcases entry with ⟨owner, op, answer⟩
      by_cases own : owner = thread
      · subst own
        simp only [ownPast_own, List.mem_cons, inductionHypothesis]
        constructor
        · rintro (rfl | member)
          · exact Or.inl rfl
          · exact Or.inr member
        · rintro (same | member)
          · rcases event with ⟨eventOp, eventAnswer⟩
            cases same
            exact Or.inl rfl
          · exact Or.inr member
      · rw [ownPast_foreign own, inductionHypothesis,
          List.mem_cons]
        constructor
        · exact Or.inr
        · rintro (same | member)
          · cases same
            exact absurd rfl own
          · exact member

/-! ## Facts about every entry of a history -/

/-- A relation between each entry and the entries before it. -/
def EachEntry
    (relation : Entry S → List (Entry S) → Prop) :
    List (Entry S) → Prop
  | [] => True
  | entry :: earlier =>
      relation entry earlier ∧ EachEntry relation earlier

/-- The relation holds at every position of the history. -/
theorem EachEntry.at
    {relation : Entry S → List (Entry S) → Prop}
    {later earlier : List (Entry S)}
    {entry : Entry S}
    (each : EachEntry relation (later ++ entry :: earlier)) :
    relation entry earlier := by
  induction later with
  | nil =>
      exact each.1
  | cons newest later inductionHypothesis =>
      exact inductionHypothesis each.2

/-- A relation at every position holds of each entry and a part before it. -/
theorem EachEntry.of_mem
    {relation : Entry S → List (Entry S) → Prop}
    {history : List (Entry S)}
    {entry : Entry S}
    (each : EachEntry relation history)
    (member : entry ∈ history) :
    ∃ later earlier,
      history = later ++ entry :: earlier ∧
        relation entry earlier := by
  obtain ⟨later, earlier, split⟩ := List.append_of_mem member
  subst split
  exact ⟨later, earlier, rfl, each.at⟩

/-! ## From one call to a run -/

namespace ReachableWhen

variable {ε σ : Type}
  {semantics : Semantics S σ}
  {meets : Config S ε σ → Entry S → Prop}
  {permits : Nat → Protocol S}
  {post :
    Nat → Except ε Unit → List (Event S) → Prop}
  {shared : σ} {calls : Nat → Program S ε Unit}
  {config : Config S ε σ}

/-- What is left of a call conforms from its own past. -/
theorem obeysPast
    (conforming :
      ∀ thread,
        (calls thread).Obeys (permits thread) []
          (post thread))
    (reached :
      ReachableWhen semantics meets (.initial shared calls) config)
    {thread : Nat}
    {program : Program S ε Unit}
    (running : config.threads thread = some program) :
    program.Obeys (permits thread)
      (ownPast thread config.history) (post thread) := by
  induction reached generalizing program with
  | start =>
      cases running
      exact conforming thread
  | step reached step met inductionHypothesis =>
      cases step with
      | @perform owner op rest choice answer shared ownerRunning _ =>
          change
            setThread _ owner (some (rest answer)) thread =
              some program at running
          show program.Obeys _
            (ownPast thread (⟨owner, op, answer⟩ :: _)) _
          by_cases own : owner = thread
          · subst own
            simp only [setThread_same, Option.some.injEq] at running
            subst running
            rw [ownPast_own]
            exact (inductionHypothesis ownerRunning).2 answer
          · rw [setThread_other _ (Ne.symm own)] at running
            rw [ownPast_foreign own]
            exact inductionHypothesis running
      | stop owner =>
          change setThread _ owner none thread = some program
            at running
          by_cases own : owner = thread
          · subst own
            simp at running
          · rw [setThread_other _ (Ne.symm own)] at running
            exact inductionHypothesis running

/-- An operation about to be issued is permitted by its call's own past. -/
theorem permitted
    (conforming :
      ∀ thread,
        (calls thread).Obeys (permits thread) []
          (post thread))
    (reached :
      ReachableWhen semantics meets (.initial shared calls) config)
    {thread : Nat} {op : S.Op}
    {rest : S.Answer op → Program S ε Unit}
    (running :
      config.threads thread = some (.perform op rest)) :
    permits thread (ownPast thread config.history) op :=
  (reached.obeysPast conforming running).1

/--
A fact that a call derives from its own past holds as long as the call runs,
when its own operations establish it and the other calls respect it.
-/
theorem ownFact
    (Fact : Nat → List (Event S) → σ → Prop)
    (atStart : ∀ thread, Fact thread [] shared)
    (atStop :
      ∀ {thread owner : Nat} {past shared},
        owner ≠ thread →
        Fact thread past shared →
        Fact thread past (semantics.stop owner shared))
    (atOwn :
      ∀ {before : Config S ε σ}
        {thread : Nat} {op : S.Op}
        {rest : S.Answer op → Program S ε Unit}
        {choice : semantics.Choice}
        {answer : S.Answer op} {next : σ},
        ReachableWhen semantics meets (.initial shared calls) before →
        before.threads thread = some (.perform op rest) →
        semantics.respond thread op choice before.shared =
          some (answer, next) →
        Fact thread (ownPast thread before.history) before.shared →
        Fact thread (⟨op, answer⟩ :: ownPast thread before.history)
          next)
    (atForeign :
      ∀ {before : Config S ε σ}
        {thread owner : Nat} {op : S.Op}
        {program : Program S ε Unit}
        {rest : S.Answer op → Program S ε Unit}
        {choice : semantics.Choice}
        {answer : S.Answer op} {next : σ},
        owner ≠ thread →
        ReachableWhen semantics meets (.initial shared calls) before →
        before.threads thread = some program →
        before.threads owner = some (.perform op rest) →
        semantics.respond owner op choice before.shared =
          some (answer, next) →
        Fact thread (ownPast thread before.history) before.shared →
        Fact thread (ownPast thread before.history) next)
    (reached :
      ReachableWhen semantics meets (.initial shared calls) config)
    {thread : Nat} {program : Program S ε Unit}
    (running : config.threads thread = some program) :
    Fact thread (ownPast thread config.history) config.shared := by
  induction reached generalizing program with
  | start =>
      exact atStart thread
  | step reached step met inductionHypothesis =>
      cases step with
      | @perform owner op rest choice answer next
          ownerRunning answered =>
          change
            setThread _ owner (some (rest answer)) thread =
              some program at running
          show
            Fact thread
              (ownPast thread (⟨owner, op, answer⟩ :: _)) next
          by_cases own : owner = thread
          · subst own
            rw [ownPast_own]
            exact
              atOwn reached ownerRunning answered
                (inductionHypothesis ownerRunning)
          · rw [setThread_other _ (Ne.symm own)] at running
            rw [ownPast_foreign own]
            exact
              atForeign own reached running ownerRunning answered
                (inductionHypothesis running)
      | stop owner =>
          change setThread _ owner none thread = some program
            at running
          by_cases own : owner = thread
          · subst own
            simp at running
          · rw [setThread_other _ (Ne.symm own)] at running
            exact atStop own (inductionHypothesis running)

end ReachableWhen

end Interleaving
