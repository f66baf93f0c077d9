import Sparkz.InterleavingConformance

namespace Interleaving

/-!
# Interleaved runs of many calls

Any number of calls share one state.  A step lets one call issue its next
operation, or stops one call for good.  The history keeps every operation with
its answer, newest first, so that a claim about "some earlier step" is a claim
about the tail of a list.

A property that holds at the start and survives each step holds throughout.
-/

/--
What operations do to the shared state.

`respond` receives a choice of the environment and fails when that choice does
not fit the operation, or when the operation has to wait.
-/
structure Semantics (S : Signature) (σ : Type) where
  Choice : Type
  respond :
    Nat →
    (op : S.Op) →
    Choice →
    σ →
    Option (S.Answer op × σ)
  stop : Nat → σ → σ

/-- One operation of one call, with the answer it received. -/
structure Entry (S : Signature) where
  thread : Nat
  op : S.Op
  answer : S.Answer op

/-- The shared state, what each call still has to do, and the history. -/
structure Config (S : Signature) (ε σ : Type) where
  shared : σ
  threads : Nat → Option (Program S ε Unit)
  history : List (Entry S)

variable {S : Signature} {ε σ : Type}

/-- Replace what one call still has to do. -/
def setThread
    (threads : Nat → Option (Program S ε Unit))
    (thread : Nat)
    (program : Option (Program S ε Unit)) :
    Nat → Option (Program S ε Unit) :=
  fun query =>
    if query = thread then program else threads query

@[simp] theorem setThread_same
    (threads : Nat → Option (Program S ε Unit))
    (thread : Nat)
    (program : Option (Program S ε Unit)) :
    setThread threads thread program thread = program := by
  simp [setThread]

theorem setThread_other
    (threads : Nat → Option (Program S ε Unit))
    {owner thread : Nat}
    (different : thread ≠ owner)
    (program : Option (Program S ε Unit)) :
    setThread threads owner program thread = threads thread := by
  simp [setThread, different]

/-- Before the run, every call has its whole program ahead of it. -/
def Config.initial
    (shared : σ)
    (calls : Nat → Program S ε Unit) :
    Config S ε σ where
  shared := shared
  threads := fun thread => some (calls thread)
  history := []

/--
One operation is answered, or one call stops and never continues.  The label
of a step is the entry it adds to the history, if it adds one.
-/
inductive Step
    (semantics : Semantics S σ) :
    Config S ε σ →
    Option (Entry S) →
    Config S ε σ →
    Prop where
  | perform
      {config : Config S ε σ}
      {thread : Nat}
      {op : S.Op}
      {rest : S.Answer op → Program S ε Unit}
      {choice : semantics.Choice}
      {answer : S.Answer op}
      {shared : σ}
      (running :
        config.threads thread = some (.perform op rest))
      (answered :
        semantics.respond thread op choice config.shared =
          some (answer, shared)) :
      Step semantics config (some ⟨thread, op, answer⟩)
        { shared := shared
          threads :=
            setThread config.threads thread (some (rest answer))
          history := ⟨thread, op, answer⟩ :: config.history }
  | stop
      (config : Config S ε σ)
      (thread : Nat) :
      Step semantics config none
        { shared := semantics.stop thread config.shared
          threads := setThread config.threads thread none
          history := config.history }

/--
The configurations that some finite run reaches, when every operation of the
run meets a condition on the configuration it is performed in.
-/
inductive ReachableWhen
    (semantics : Semantics S σ)
    (meets : Config S ε σ → Entry S → Prop)
    (start : Config S ε σ) :
    Config S ε σ → Prop where
  | start : ReachableWhen semantics meets start start
  | step
      {before after : Config S ε σ}
      {label : Option (Entry S)}
      (reached : ReachableWhen semantics meets start before)
      (step : Step semantics before label after)
      (met : ∀ entry, label = some entry → meets before entry) :
      ReachableWhen semantics meets start after

/-- The configurations that any finite run reaches. -/
abbrev Reachable
    (semantics : Semantics S σ)
    (start : Config S ε σ) :
    Config S ε σ → Prop :=
  ReachableWhen semantics (fun _ _ => True) start

namespace ReachableWhen

variable {semantics : Semantics S σ}
  {meets : Config S ε σ → Entry S → Prop}
  {start middle config : Config S ε σ}

/-- A run that meets a condition is a run. -/
theorem reachable
    (reached : ReachableWhen semantics meets start config) :
    Reachable semantics start config := by
  induction reached with
  | start =>
      exact .start
  | step _ step _ inductionHypothesis =>
      exact inductionHypothesis.step step fun _ _ => trivial

/-- A run continues where an earlier one has ended. -/
theorem trans
    (first : ReachableWhen semantics meets start middle)
    (second : ReachableWhen semantics meets middle config) :
    ReachableWhen semantics meets start config := by
  induction second with
  | start =>
      exact first
  | step _ step met inductionHypothesis =>
      exact inductionHypothesis.step step met

/-- A run that continues another only adds to its history. -/
theorem history_suffix
    (reached : ReachableWhen semantics meets start config) :
    start.history <:+ config.history := by
  induction reached with
  | start =>
      exact List.suffix_rfl
  | step _ step _ inductionHypothesis =>
      cases step with
      | perform running answered =>
          exact inductionHypothesis.trans (List.suffix_cons _ _)
      | stop thread =>
          exact inductionHypothesis

end ReachableWhen

namespace ReachableWhen

variable {semantics : Semantics S σ}
  {meets : Config S ε σ → Entry S → Prop}
  {start config : Config S ε σ}
  {shared : σ} {calls : Nat → Program S ε Unit}

/--
A property of the shared state and the history holds throughout a run when it
holds at its start, survives a stopped call, and survives every operation that
some call is about to perform.
-/
theorem invariant
    (Inv : σ → List (Entry S) → Prop)
    (atStart : Inv start.shared start.history)
    (atStop :
      ∀ {shared history} (thread : Nat),
        Inv shared history →
        Inv (semantics.stop thread shared) history)
    (atStep :
      ∀ {before : Config S ε σ}
        {thread : Nat} {op : S.Op}
        {rest : S.Answer op → Program S ε Unit}
        {choice : semantics.Choice}
        {answer : S.Answer op} {next : σ},
        ReachableWhen semantics meets start before →
        before.threads thread = some (.perform op rest) →
        semantics.respond thread op choice before.shared =
          some (answer, next) →
        meets before ⟨thread, op, answer⟩ →
        Inv before.shared before.history →
        Inv next (⟨thread, op, answer⟩ :: before.history))
    (reached : ReachableWhen semantics meets start config) :
    Inv config.shared config.history := by
  induction reached with
  | start =>
      exact atStart
  | step reached step met inductionHypothesis =>
      cases step with
      | perform running answered =>
          exact
            atStep reached running answered (met _ rfl)
              inductionHypothesis
      | stop thread =>
          exact atStop thread inductionHypothesis

end ReachableWhen

/-! ## Schedules that can be evaluated -/

/-- Let one call issue its next operation under a choice of the environment. -/
def Config.advance?
    (semantics : Semantics S σ)
    (thread : Nat)
    (choice : semantics.Choice)
    (config : Config S ε σ) :
    Option (Config S ε σ) :=
  match config.threads thread with
  | some (.perform op rest) =>
      match semantics.respond thread op choice config.shared with
      | some (answer, shared) =>
          some
            { shared := shared
              threads :=
                setThread config.threads thread
                  (some (rest answer))
              history :=
                ⟨thread, op, answer⟩ :: config.history }
      | none => none
  | _ => none

/-- A successful advance is a step, labelled by the newest entry. -/
theorem Config.advance?_sound
    {semantics : Semantics S σ}
    {thread : Nat}
    {choice : semantics.Choice}
    {before after : Config S ε σ}
    (accepted :
      before.advance? semantics thread choice = some after) :
    Step semantics before after.history.head? after := by
  unfold Config.advance? at accepted
  split at accepted
  · rename_i op rest running
    split at accepted
    · rename_i answer shared answered
      cases accepted
      exact .perform running answered
    · cases accepted
  · cases accepted

/-- Run a schedule of calls and choices; `none` when some step is impossible. -/
def Config.run?
    (semantics : Semantics S σ)
    (meets : Config S ε σ → Entry S → Bool) :
    List (Nat × semantics.Choice) →
    Config S ε σ →
    Option (Config S ε σ)
  | [], config => some config
  | (thread, choice) :: rest, config =>
      match config.advance? semantics thread choice with
      | some next =>
          if next.history.head?.all (meets config) then
            Config.run? semantics meets rest next
          else none
      | none => none

/-- Whatever a schedule reaches is reachable under the condition it checks. -/
theorem Config.run?_sound
    {semantics : Semantics S σ}
    {accepts : Config S ε σ → Entry S → Bool}
    {meets : Config S ε σ → Entry S → Prop}
    (checked :
      ∀ config entry, accepts config entry = true → meets config entry)
    {schedule : List (Nat × semantics.Choice)}
    {start before after : Config S ε σ}
    (reached : ReachableWhen semantics meets start before)
    (accepted :
      before.run? semantics accepts schedule = some after) :
    ReachableWhen semantics meets start after := by
  induction schedule generalizing before with
  | nil =>
      cases accepted
      exact reached
  | cons slot rest inductionHypothesis =>
      rcases slot with ⟨thread, choice⟩
      unfold Config.run? at accepted
      split at accepted
      · rename_i next advanced
        split at accepted
        · rename_i passed
          refine
            inductionHypothesis
              (reached.step (Config.advance?_sound advanced) ?_)
              accepted
          intro entry isLabel
          rw [isLabel] at passed
          exact checked _ _ passed
        · cases accepted
      · cases accepted

end Interleaving
