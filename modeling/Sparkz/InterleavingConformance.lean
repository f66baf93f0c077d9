import Sparkz.InterleavingProgram

namespace Interleaving

/-!
# Sequential conformance of one call

A protocol says what a call may issue next, given every operation it has
performed so far and the answers it received.  `Obeys` says that a program
never leaves its protocol, whatever answers it receives.  The judgment looks at
one call alone, so it is proved by following the code, with no interference to
consider.
-/

/-- One operation together with the answer it received. -/
structure Event (S : Signature) where
  op : S.Op
  answer : S.Answer op

/-- What a call may issue next; its past is listed newest event first. -/
abbrev Protocol (S : Signature) :=
  List (Event S) → S.Op → Prop

namespace Program

variable {S : Signature} {ε α β : Type}

/--
Every operation the program can issue from `past` is permitted, and `post`
holds of the result and of the past reached.
-/
def Obeys
    (permits : Protocol S) :
    Program S ε α →
    List (Event S) →
    (Except ε α → List (Event S) → Prop) →
    Prop
  | .done value, past, post => post (.ok value) past
  | .fail error, past, post => post (.error error) past
  | .perform op rest, past, post =>
      permits past op ∧
        ∀ answer,
          (rest answer).Obeys permits (⟨op, answer⟩ :: past) post

variable {permits : Protocol S} {past : List (Event S)}

/-- A conforming program still conforms under a weaker postcondition. -/
theorem Obeys.weaken
    {program : Program S ε α}
    {post weaker : Except ε α → List (Event S) → Prop}
    (obeys : program.Obeys permits past post)
    (implies :
      ∀ result reached,
        post result reached → weaker result reached) :
    program.Obeys permits past weaker := by
  induction program generalizing past with
  | done value =>
      exact implies _ _ obeys
  | fail error =>
      exact implies _ _ obeys
  | perform op rest inductionHypothesis =>
      exact
        ⟨obeys.1, fun answer =>
          inductionHypothesis answer (obeys.2 answer)⟩

/-- Every program conforms to a protocol that permits everything. -/
theorem obeys_anything
    (program : Program S ε α)
    (everything : ∀ past op, permits past op) :
    program.Obeys permits past fun _ _ => True := by
  induction program generalizing past with
  | done value =>
      trivial
  | fail error =>
      trivial
  | perform op rest inductionHypothesis =>
      exact
        ⟨everything past op, fun answer => inductionHypothesis answer⟩

/-- Sequencing conforms when the first part leads into a conforming rest. -/
theorem obeys_bind
    {program : Program S ε α}
    {next : α → Program S ε β}
    {post : Except ε β → List (Event S) → Prop} :
    (program >>= next).Obeys permits past post ↔
      program.Obeys permits past fun result reached =>
        match result with
        | .ok value => (next value).Obeys permits reached post
        | .error error => post (.error error) reached := by
  show (program.andThen next).Obeys permits past post ↔ _
  induction program generalizing past with
  | done value =>
      exact Iff.rfl
  | fail error =>
      exact Iff.rfl
  | perform op rest inductionHypothesis =>
      simp only [andThen, Obeys, inductionHypothesis]

/-- The order in which three parts are grouped makes no difference. -/
theorem obeys_bind_assoc {γ : Type}
    {program : Program S ε α}
    {next : α → Program S ε β}
    {last : β → Program S ε γ}
    {post : Except ε γ → List (Event S) → Prop} :
    (program >>= fun value => next value >>= last).Obeys permits past post ↔
      ((program >>= next) >>= last).Obeys permits past post := by
  simp only [obeys_bind]

/-- A handler conforms from every state in which the body can throw. -/
theorem obeys_recover
    {program : Program S ε α}
    {handler : ε → Program S ε α}
    {post : Except ε α → List (Event S) → Prop} :
    (program.recover handler).Obeys permits past post ↔
      program.Obeys permits past fun result reached =>
        match result with
        | .ok value => post (.ok value) reached
        | .error error =>
            (handler error).Obeys permits reached post := by
  induction program generalizing past with
  | done value =>
      exact Iff.rfl
  | fail error =>
      exact Iff.rfl
  | perform op rest inductionHypothesis =>
      simp only [recover, Obeys, inductionHypothesis]

/-- A `try` block returns whatever its body returned or threw. -/
theorem obeys_attempt
    {program : Program S ε α}
    {post :
      Except ε (Except ε α) → List (Event S) → Prop} :
    program.attempt.Obeys permits past post ↔
      program.Obeys permits past fun result reached =>
        post (.ok result) reached := by
  induction program generalizing past with
  | done value =>
      exact Iff.rfl
  | fail error =>
      exact Iff.rfl
  | perform op rest inductionHypothesis =>
      simp only [attempt, Obeys, inductionHypothesis]

@[simp] theorem obeys_pure
    {value : α}
    {post : Except ε α → List (Event S) → Prop} :
    (pure value : Program S ε α).Obeys permits past post ↔
      post (.ok value) past :=
  Iff.rfl

@[simp] theorem obeys_done
    {value : α}
    {post : Except ε α → List (Event S) → Prop} :
    (.done value : Program S ε α).Obeys permits past post ↔
      post (.ok value) past :=
  Iff.rfl

@[simp] theorem obeys_ofExcept
    {answer : Except ε α}
    {post : Except ε α → List (Event S) → Prop} :
    (ofExcept answer : Program S ε α).Obeys permits past post ↔
      post answer past := by
  cases answer <;> exact Iff.rfl

end Program

/-! ## Pasts that grow -/

variable {S : Signature}

/-- The pasts that permitted operations lead to. -/
inductive ExtendsBy
    (permits : Protocol S)
    (past : List (Event S)) :
    List (Event S) → Prop where
  | none : ExtendsBy permits past past
  | perform
      {reached : List (Event S)}
      {op : S.Op}
      (extended : ExtendsBy permits past reached)
      (permitted : permits reached op)
      (answer : S.Answer op) :
      ExtendsBy permits past (⟨op, answer⟩ :: reached)

namespace ExtendsBy

variable {permits weaker : Protocol S}
  {past reached last : List (Event S)}

theorem trans
    (first : ExtendsBy permits past reached)
    (second : ExtendsBy permits reached last) :
    ExtendsBy permits past last := by
  induction second with
  | none =>
      exact first
  | perform _ permitted answer inductionHypothesis =>
      exact inductionHypothesis.perform permitted answer

theorem weaken
    (extended : ExtendsBy permits past reached)
    (implies : ∀ past op, permits past op → weaker past op) :
    ExtendsBy weaker past reached := by
  induction extended with
  | none =>
      exact .none
  | perform _ permitted answer inductionHypothesis =>
      exact inductionHypothesis.perform (implies _ _ permitted) answer

/-- Nothing that was remembered is forgotten. -/
theorem subset (extended : ExtendsBy permits past reached) :
    past ⊆ reached := by
  induction extended with
  | none =>
      exact List.Subset.refl past
  | perform _ _ answer inductionHypothesis =>
      exact List.subset_cons_of_subset _ inductionHypothesis

end ExtendsBy

/--
A part of a call conforms inside a larger protocol when every operation it
may issue there is permitted.  Afterwards the past has grown by these only.
-/
theorem Program.Obeys.embed {ε α : Type}
    {own permits : Protocol S}
    {program : Program S ε α}
    {past : List (Event S)}
    {post : Except ε α → List (Event S) → Prop}
    (obeys : program.Obeys own past post)
    (allowed :
      ∀ reached op,
        ExtendsBy own past reached →
        own reached op →
        permits reached op) :
    program.Obeys permits past
      fun result reached =>
        post result reached ∧ ExtendsBy own past reached := by
  induction program generalizing past with
  | done value =>
      exact ⟨obeys, .none⟩
  | fail error =>
      exact ⟨obeys, .none⟩
  | perform op rest inductionHypothesis =>
      refine ⟨allowed past op .none obeys.1, fun answer => ?_⟩
      have first : ExtendsBy own past (⟨op, answer⟩ :: past) :=
        ExtendsBy.none.perform obeys.1 answer
      refine
        (inductionHypothesis answer (obeys.2 answer) ?_).weaken ?_
      · intro reached later extended
        exact allowed reached later (first.trans extended)
      · rintro result reached ⟨established, extended⟩
        exact ⟨established, first.trans extended⟩

end Interleaving
