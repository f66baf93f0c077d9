import Sparkz.InterleavingSolo

namespace Interleaving

/-!
# How a call can end when nobody interrupts it

The answers to a call are not determined by the shared state alone: a statement
may fail, and a service may say one thing or another.  An ending of a call is
what it returns or throws, and the state it leaves, after some answers that
each of its operations can have been given.
-/

/-- Which answers an operation can be given, and the state they leave. -/
abbrev Answering (S : Signature) (σ : Type) :=
  (op : S.Op) → σ → S.Answer op → σ → Prop

namespace Program

variable {S : Signature} {ε α β σ : Type}

/-- What a call can return or throw, and the state it leaves then. -/
inductive Ends (answers : Answering S σ) :
    Program S ε α →
    σ →
    Except ε α →
    σ →
    Prop where
  | done {value : α} {state : σ} :
      Ends answers (.done value) state (.ok value) state
  | fail {error : ε} {state : σ} :
      Ends answers (.fail error) state (.error error) state
  | perform
      {op : S.Op}
      {rest : S.Answer op → Program S ε α}
      {state next last : σ}
      {answer : S.Answer op}
      {result : Except ε α}
      (answered : answers op state answer next)
      (continued : Ends answers (rest answer) next result last) :
      Ends answers (.perform op rest) state result last

variable {answers wider : Answering S σ} {state last : σ}

theorem ends_done {value : α} {result : Except ε α} :
    (.done value : Program S ε α).Ends answers state result last ↔
      result = .ok value ∧ last = state := by
  constructor
  · intro ends
    cases ends
    exact ⟨rfl, rfl⟩
  · rintro ⟨rfl, rfl⟩
    exact .done

theorem ends_fail {error : ε} {result : Except ε α} :
    (.fail error : Program S ε α).Ends answers state result last ↔
      result = .error error ∧ last = state := by
  constructor
  · intro ends
    cases ends
    exact ⟨rfl, rfl⟩
  · rintro ⟨rfl, rfl⟩
    exact .fail

theorem ends_perform
    {op : S.Op}
    {rest : S.Answer op → Program S ε α}
    {result : Except ε α} :
    (Program.perform op rest).Ends answers state result last ↔
      ∃ answer next,
        answers op state answer next ∧
          (rest answer).Ends answers next result last := by
  constructor
  · intro ends
    cases ends with
    | perform answered continued =>
        exact ⟨_, _, answered, continued⟩
  · rintro ⟨answer, next, answered, continued⟩
    exact .perform answered continued

theorem ends_call {op : S.Op} {result : Except ε (S.Answer op)} :
    (call op : Program S ε _).Ends answers state result last ↔
      ∃ answer, result = .ok answer ∧ answers op state answer last := by
  unfold call
  rw [ends_perform]
  constructor
  · rintro ⟨answer, next, answered, continued⟩
    obtain ⟨rfl, rfl⟩ := ends_done.mp continued
    exact ⟨answer, rfl, answered⟩
  · rintro ⟨answer, rfl, answered⟩
    exact ⟨answer, last, answered, .done⟩

theorem ends_ofExcept {answer result : Except ε α} :
    (ofExcept answer : Program S ε α).Ends answers state result last ↔
      result = answer ∧ last = state := by
  cases answer with
  | ok value =>
      exact ends_done
  | error error =>
      exact ends_fail

/-- A sequence ends with its rest, or where its first part throws. -/
theorem ends_bind
    {program : Program S ε α}
    {next : α → Program S ε β}
    {result : Except ε β} :
    (program >>= next).Ends answers state result last ↔
      (∃ value middle,
        program.Ends answers state (.ok value) middle ∧
          (next value).Ends answers middle result last) ∨
        ∃ error,
          result = .error error ∧
            program.Ends answers state (.error error) last := by
  show (program.andThen next).Ends answers state result last ↔ _
  induction program generalizing state with
  | done value =>
      simp only [andThen, ends_done, Except.ok.injEq, reduceCtorEq,
        false_and, and_false, exists_false, or_false]
      constructor
      · intro ends
        exact ⟨value, state, ⟨rfl, rfl⟩, ends⟩
      · rintro ⟨_, _, ⟨rfl, rfl⟩, ends⟩
        exact ends
  | fail error =>
      simp only [andThen, ends_fail, Except.error.injEq, reduceCtorEq,
        false_and, exists_false, false_or]
      constructor
      · rintro ⟨rfl, rfl⟩
        exact ⟨error, rfl, rfl, rfl⟩
      · rintro ⟨_, rfl, rfl, rfl⟩
        exact ⟨rfl, rfl⟩
  | perform op rest inductionHypothesis =>
      simp only [andThen, ends_perform, inductionHypothesis]
      constructor
      · rintro ⟨answer, next, answered,
          ⟨value, middle, first, second⟩ | ⟨error, rfl, first⟩⟩
        · exact
            Or.inl
              ⟨value, middle, ⟨answer, next, answered, first⟩, second⟩
        · exact Or.inr ⟨error, rfl, answer, next, answered, first⟩
      · rintro
          (⟨value, middle, ⟨answer, next, answered, first⟩, second⟩ |
            ⟨error, rfl, answer, next, answered, first⟩)
        · exact
            ⟨answer, next, answered,
              Or.inl ⟨value, middle, first, second⟩⟩
        · exact ⟨answer, next, answered, Or.inr ⟨error, rfl, first⟩⟩

/-- A sequence that returns has returned from both of its parts. -/
theorem ends_bind_ok
    {program : Program S ε α}
    {next : α → Program S ε β}
    {result : β} :
    (program >>= next).Ends answers state (.ok result) last ↔
      ∃ value middle,
        program.Ends answers state (.ok value) middle ∧
          (next value).Ends answers middle (.ok result) last := by
  rw [ends_bind]
  constructor
  · rintro (both | ⟨error, impossible, _⟩)
    · exact both
    · cases impossible
  · exact Or.inl

/-- A `try` block returns however its body ends. -/
theorem ends_attempt
    {program : Program S ε α}
    {result : Except ε (Except ε α)} :
    (program.attempt : Program S ε (Except ε α)).Ends answers state
        result last ↔
      ∃ ended,
        result = .ok ended ∧ program.Ends answers state ended last := by
  induction program generalizing state with
  | done value =>
      simp only [attempt, ends_done]
      constructor
      · rintro ⟨rfl, rfl⟩
        exact ⟨_, rfl, rfl, rfl⟩
      · rintro ⟨_, rfl, rfl, rfl⟩
        exact ⟨rfl, rfl⟩
  | fail error =>
      simp only [attempt, ends_done, ends_fail]
      constructor
      · rintro ⟨rfl, rfl⟩
        exact ⟨_, rfl, rfl, rfl⟩
      · rintro ⟨_, rfl, rfl, rfl⟩
        exact ⟨rfl, rfl⟩
  | perform op rest inductionHypothesis =>
      simp only [attempt, ends_perform, inductionHypothesis]
      constructor
      · rintro ⟨answer, next, answered, ended, rfl, ends⟩
        exact ⟨ended, rfl, answer, next, answered, ends⟩
      · rintro ⟨ended, rfl, answer, next, answered, ends⟩
        exact ⟨answer, next, answered, ended, rfl, ends⟩

/-- A call that is answered by a function ends as that function says. -/
theorem solo_ends
    {handler : Handler S σ}
    {good : σ → Prop}
    (fits :
      ∀ op before,
        good before →
        answers op before (handler op before).1 (handler op before).2 ∧
          good (handler op before).2)
    (program : Program S ε α)
    (isGood : good state) :
    program.Ends answers state (program.solo handler state).1
      (program.solo handler state).2 := by
  induction program generalizing state with
  | done value =>
      exact .done
  | fail error =>
      exact .fail
  | perform op rest inductionHypothesis =>
      have fit := fits op state isGood
      exact .perform fit.1 (inductionHypothesis _ fit.2)

end Program

/-! ## What every ending returns -/

namespace Program

variable {S : Signature} {ε α β σ : Type}

/-- Every value that a call can return has a property. -/
def Returns (post : α → Prop) : Program S ε α → Prop
  | .done value => post value
  | .fail _ => True
  | .perform _ rest => ∀ answer, (rest answer).Returns post

/-- However a call ends, the value it returns has the property. -/
theorem Returns.of_ends
    {answers : Answering S σ}
    {post : α → Prop}
    {program : Program S ε α}
    {state last : σ}
    {value : α}
    (returns : program.Returns post)
    (ends : program.Ends answers state (.ok value) last) :
    post value := by
  generalize isResult : (.ok value : Except ε α) = result at ends
  induction ends with
  | done =>
      cases isResult
      exact returns
  | fail =>
      cases isResult
  | perform _ _ inductionHypothesis =>
      exact inductionHypothesis (returns _) isResult

/-- A sequence returns what its rest returns. -/
theorem Returns.bind
    {post : β → Prop}
    (program : Program S ε α)
    {next : α → Program S ε β}
    (rest : ∀ value, (next value).Returns post) :
    (program >>= next).Returns post := by
  show (program.andThen next).Returns post
  induction program with
  | done value =>
      exact rest value
  | fail error =>
      trivial
  | perform op continued inductionHypothesis =>
      exact fun answer => inductionHypothesis answer

theorem Returns.ofIte
    {post : α → Prop}
    {condition : Prop}
    [Decidable condition]
    {program other : Program S ε α}
    (first : program.Returns post)
    (second : other.Returns post) :
    (if condition then program else other).Returns post := by
  split
  · exact first
  · exact second

end Program

/-! ## What a call can throw -/

namespace Program

variable {S : Signature} {ε α β σ : Type}

/-- However a call ends, the error it throws has a property. -/
def Throws
    (answers : Answering S σ)
    (post : ε → Prop)
    (program : Program S ε α) :
    Prop :=
  ∀ state error last,
    program.Ends answers state (.error error) last → post error

section Throws

variable {answers : Answering S σ} {post : ε → Prop}
  {program other : Program S ε α}

theorem throws_pure {value : α} :
    (pure value : Program S ε α).Throws answers post := by
  intro state error last ends
  obtain ⟨impossible, _⟩ := ends_done.mp ends
  cases impossible

theorem throws_fail {error : ε} (holds : post error) :
    (.fail error : Program S ε α).Throws answers post := by
  intro state thrown last ends
  obtain ⟨isError, _⟩ := ends_fail.mp ends
  cases isError
  exact holds

/-- A sequence throws what one of its parts throws. -/
theorem Throws.bind
    {next : α → Program S ε β}
    (first : program.Throws answers post)
    (rest : ∀ value, (next value).Throws answers post) :
    (program >>= next).Throws answers post := by
  intro state error last ends
  rcases ends_bind.mp ends with
    ⟨value, middle, _, ends⟩ | ⟨thrown, isError, ends⟩
  · exact rest value middle error last ends
  · cases isError
    exact first state error last ends

theorem Throws.ofIte
    {condition : Prop}
    [Decidable condition]
    (first : program.Throws answers post)
    (second : other.Throws answers post) :
    (if condition then program else other).Throws answers post := by
  split
  · exact first
  · exact second

end Throws

end Program

/-! ## An ending is reached by a run -/

/-- The answers of a semantics to one call, under the choices allowed. -/
def Semantics.answering
    {S : Signature} {σ : Type}
    (semantics : Semantics S σ)
    (thread : Nat)
    (allowed : semantics.Choice → Prop) :
    Answering S σ :=
  fun op state answer next =>
    ∃ choice,
      allowed choice ∧
        semantics.respond thread op choice state = some (answer, next)

/-! ## Calls and their own events -/

/-- Any answer is possible, and the call remembers its events, newest first. -/
def recorded {S : Signature} : Answering S (List (Event S)) :=
  fun op past answer next => next = ⟨op, answer⟩ :: past

/-- The answers of a script, which may look at all earlier events. -/
def scripted {S : Signature}
    (script : (op : S.Op) → List (Event S) → S.Answer op) :
    Handler S (List (Event S)) :=
  fun op past => (script op past, ⟨op, script op past⟩ :: past)

/-- A call whose answers are scripted ends with its recorded events. -/
theorem Program.solo_recorded
    {S : Signature} {ε α : Type}
    (script : (op : S.Op) → List (Event S) → S.Answer op)
    (program : Program S ε α)
    (past : List (Event S)) :
    program.Ends recorded past
      (program.solo (scripted script) past).1
      (program.solo (scripted script) past).2 := by
  induction program generalizing past with
  | done value =>
      exact .done
  | fail error =>
      exact .fail
  | perform op rest inductionHypothesis =>
      exact .perform rfl (inductionHypothesis _ _)

end Interleaving
