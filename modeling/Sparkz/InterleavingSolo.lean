import Sparkz.InterleavingRun

namespace Interleaving

/-!
# A call that nobody interrupts

When no other call runs, the answers to a call are a function of the shared
state.  Running the call is then a computation, and it is one of the
interleaved runs.
-/

/-- How operations are answered to a call that nobody interrupts. -/
abbrev Handler (S : Signature) (σ : Type) :=
  (op : S.Op) → σ → S.Answer op × σ

namespace Program

variable {S : Signature} {ε α β σ : Type}

/-- What a call returns or throws, and the state it leaves. -/
def solo (handler : Handler S σ) :
    Program S ε α → σ → Except ε α × σ
  | .done value, state => (.ok value, state)
  | .fail error, state => (.error error, state)
  | .perform op rest, state =>
      (rest (handler op state).1).solo handler (handler op state).2

variable {handler : Handler S σ} {state : σ}

@[simp] theorem solo_call {op : S.Op} :
    (call op : Program S ε _).solo handler state =
      (.ok (handler op state).1, (handler op state).2) :=
  rfl

/-- What follows a call runs on the state the call leaves. -/
@[simp] theorem solo_bind
    {program : Program S ε α}
    {next : α → Program S ε β} :
    (program >>= next).solo handler state =
      match program.solo handler state with
      | (.ok value, after) => (next value).solo handler after
      | (.error error, after) => (.error error, after) := by
  show (program.andThen next).solo handler state = _
  induction program generalizing state with
  | done value =>
      rfl
  | fail error =>
      rfl
  | perform op rest inductionHypothesis =>
      simp only [andThen, solo, inductionHypothesis]

/-- A `try` block leaves the state that its body leaves. -/
@[simp] theorem solo_attempt {program : Program S ε α} :
    (program.attempt : Program S ε (Except ε α)).solo handler state =
      (.ok (program.solo handler state).1,
        (program.solo handler state).2) := by
  induction program generalizing state with
  | done value =>
      rfl
  | fail error =>
      rfl
  | perform op rest inductionHypothesis =>
      simp only [attempt, solo, inductionHypothesis]

end Program

/-! ## A solo run is a run -/

section Runs

variable {S : Signature} {ε σ : Type}
  {semantics : Semantics S σ} {handler : Handler S σ}

/-- A handler gives answers that the semantics can give to one call. -/
structure Handler.Fits
    (handler : Handler S σ)
    (semantics : Semantics S σ)
    (thread : Nat)
    (alone : σ → Prop) :
    Prop where
  answers :
    ∀ op state,
      alone state →
      ∃ choice,
        semantics.respond thread op choice state =
          some (handler op state)
  stays :
    ∀ op state, alone state → alone (handler op state).2

/-- Some interleaved run performs the call and nothing else. -/
theorem Handler.Fits.reachable
    {thread : Nat}
    {alone : σ → Prop}
    (fits : handler.Fits semantics thread alone)
    {program : Program S ε Unit}
    {config : Config S ε σ}
    (running : config.threads thread = some program)
    (isAlone : alone config.shared) :
    ∃ last,
      Reachable semantics config last ∧
        last.shared = (program.solo handler config.shared).2 ∧
        last.threads thread =
          some
            (match (program.solo handler config.shared).1 with
            | .ok value => .done value
            | .error error => .fail error) ∧
        ∀ other,
          other ≠ thread →
          last.threads other = config.threads other := by
  induction program generalizing config with
  | done value =>
      exact ⟨config, .start, rfl, running, fun _ _ => rfl⟩
  | fail error =>
      exact ⟨config, .start, rfl, running, fun _ _ => rfl⟩
  | perform op rest inductionHypothesis =>
      obtain ⟨choice, answered⟩ :=
        fits.answers op config.shared isAlone
      obtain ⟨next, step, nextShared, nextThreads⟩ :
          ∃ next : Config S ε σ,
            Step semantics config
              (some ⟨thread, op, (handler op config.shared).1⟩) next ∧
            next.shared = (handler op config.shared).2 ∧
            next.threads =
              setThread config.threads thread
                (some (rest (handler op config.shared).1)) :=
        ⟨_, Step.perform running answered, rfl, rfl⟩
      have nextRunning :
          next.threads thread =
            some (rest (handler op config.shared).1) := by
        rw [nextThreads]
        exact setThread_same _ _ _
      have nextAlone : alone next.shared := by
        rw [nextShared]
        exact fits.stays op config.shared isAlone
      obtain ⟨last, reached, isShared, hasEnded, untouched⟩ :=
        inductionHypothesis _ nextRunning nextAlone
      rw [nextShared] at isShared hasEnded
      refine
        ⟨last,
          ReachableWhen.trans
            (ReachableWhen.start.step step fun _ _ => trivial)
            reached,
          isShared, hasEnded, fun other different => ?_⟩
      rw [untouched other different, nextThreads]
      exact setThread_other _ different _

end Runs

end Interleaving
