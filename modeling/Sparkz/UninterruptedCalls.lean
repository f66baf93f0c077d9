import Sparkz.InterleavingEnding
import Sparkz.CallFootprint
import Sparkz.SoloCalls

namespace Sparkz

open Interleaving

/-!
# Calls that nobody interrupts, with faults

A call whose statements may fail, and whose surroundings answer as they like
within bounds.  What one operation leaves is said once here; what a whole call
leaves follows from the way its operations are put together.
-/

/-- The tables alone, without the locks on them. -/
def Database.rows (database : Database) : Database :=
  { database with locks := fun _ => none }

/-- A lock that is taken leaves the tables as they are. -/
theorem Database.rows_of_takeLock
    {database next : Database}
    {thread : Nat}
    {key : LockKey}
    (taken : database.takeLock thread key = some next) :
    next.rows = database.rows := by
  unfold Database.takeLock at taken
  split at taken <;> cases taken
  rfl

/-- A read looks at the tables only. -/
theorem Query.answer_rows (query : Query) (database : Database) :
    query.answer database.rows = query.answer database := by
  cases query <;> rfl

theorem Query.answer_of_rows
    {database other : Database}
    (same : database.rows = other.rows)
    (query : Query) :
    query.answer database = query.answer other := by
  rw [← query.answer_rows database, same, query.answer_rows]

/-- How one call can be answered while nobody else runs. -/
abbrev answering (thread : Nat) (allowed : Choice → Prop) :
    Answering sparkz Database :=
  (semantics true).answering thread allowed

/-! ## One operation -/

section Operations

variable {thread : Nat} {allowed : Choice → Prop}
  {database last : Database} {α : Type}

/-- An operation whose answer is an error throws that error. -/
theorem ends_issue {ε : Type} {answers : Answering sparkz Database}
    {failure : ε → Failure}
    {answer : Call (Except ε α)}
    {result : Except Failure α}
    (ends : (issue failure answer).Ends answers database result last) :
    (∃ reply,
        answer.Ends answers database (.ok reply) last ∧
          result = reply.mapError failure) ∨
      ∃ error,
        answer.Ends answers database (.error error) last ∧
          result = .error error := by
  unfold issue at ends
  rcases Program.ends_bind.mp ends with
    ⟨reply, middle, answered, rest⟩ | ⟨error, rfl, thrown⟩
  · cases reply with
    | ok value =>
        obtain ⟨rfl, rfl⟩ := Program.ends_done.mp rest
        exact Or.inl ⟨_, answered, rfl⟩
    | error error =>
        obtain ⟨rfl, rfl⟩ := Program.ends_fail.mp rest
        exact Or.inl ⟨_, answered, rfl⟩
  · exact Or.inr ⟨error, thrown, rfl⟩

/-- A read sees the tables as they are, or fails. -/
theorem ends_read
    {query : Query}
    {result : Except Failure query.Result}
    (ends :
      (read query).Ends (answering thread allowed) database result
        last) :
    last = database ∧
      (result = .ok (query.answer database) ∨
        ∃ message, result = .error (.error message)) := by
  unfold read at ends
  rcases ends_issue ends with ⟨reply, answered, rfl⟩ | ⟨_, thrown, _⟩
  · obtain ⟨_, ⟨⟩, choice, _, responded⟩ :=
      Program.ends_call.mp answered
    simp only [semantics, respond] at responded
    split at responded <;> cases responded
    · exact ⟨rfl, Or.inl rfl⟩
    · exact ⟨rfl, Or.inr ⟨_, rfl⟩⟩
    · exact ⟨rfl, Or.inr ⟨_, rfl⟩⟩
  · obtain ⟨_, impossible, _⟩ := Program.ends_call.mp thrown
    cases impossible

theorem ends_read_ok
    {query : Query}
    {value : query.Result}
    (ends :
      (read query).Ends (answering thread allowed) database (.ok value)
        last) :
    value = query.answer database ∧ last = database := by
  obtain ⟨unchanged, isAnswer | ⟨_, impossible⟩⟩ := ends_read ends
  · exact ⟨Except.ok.inj isAnswer, unchanged⟩
  · cases impossible

/-- A change takes effect, or not; an acknowledged one did. -/
theorem ends_write
    {change : Change}
    {result : Except Failure change.Result}
    (ends :
      (write change).Ends (answering thread allowed) database result
        last) :
    (∃ value after,
        change.apply database = .ok (value, after) ∧
          last.rows = after.rows ∧
          (result = .ok value ∨ ∃ error, result = .error error)) ∨
      last.rows = database.rows ∧ ∃ error, result = .error error := by
  unfold write at ends
  rcases ends_issue ends with ⟨reply, answered, rfl⟩ | ⟨_, thrown, _⟩
  · obtain ⟨_, ⟨⟩, choice, _, responded⟩ :=
      Program.ends_call.mp answered
    simp only [semantics, respond, if_true] at responded
    have committed :
        ((database.commit thread change).1 = reply ∨
            ∃ error, reply = .error error) ∧
            last = (database.commit thread change).2 ∨
          (∃ error, reply = .error error) ∧
            last = database.releaseLocks thread := by
      split at responded
      · have both := Option.some.inj responded
        rw [both]
        exact Or.inl ⟨Or.inl rfl, rfl⟩
      · cases responded
        exact Or.inr ⟨⟨_, rfl⟩, rfl⟩
      · cases responded
        exact Or.inl ⟨Or.inr ⟨_, rfl⟩, rfl⟩
    rcases committed with ⟨isReply, rfl⟩ | ⟨⟨error, rfl⟩, rfl⟩
    · unfold Database.commit at isReply ⊢
      cases applied : change.apply database with
      | ok both =>
          rcases both with ⟨value, after⟩
          rw [applied] at isReply
          refine Or.inl ⟨value, after, rfl, rfl, ?_⟩
          rcases isReply with rfl | ⟨error, rfl⟩
          · exact Or.inl rfl
          · exact Or.inr ⟨_, rfl⟩
      | error error =>
          rw [applied] at isReply
          refine Or.inr ⟨rfl, ?_⟩
          rcases isReply with rfl | ⟨error, rfl⟩ <;> exact ⟨_, rfl⟩
    · exact Or.inr ⟨rfl, _, rfl⟩
  · obtain ⟨_, impossible, _⟩ := Program.ends_call.mp thrown
    cases impossible

theorem ends_write_ok
    {change : Change}
    {value : change.Result}
    (ends :
      (write change).Ends (answering thread allowed) database
        (.ok value) last) :
    ∃ after,
      change.apply database = .ok (value, after) ∧
        last.rows = after.rows := by
  rcases ends_write ends with
    ⟨_, after, applied, sameRows, isResult | ⟨_, impossible⟩⟩ |
      ⟨_, _, impossible⟩
  · cases isResult
    exact ⟨after, applied, sameRows⟩
  · cases impossible
  · cases impossible

/-- A lock is taken, or not; the tables stay as they are. -/
theorem ends_lock
    {key : LockKey}
    {result : Except Failure Unit}
    (ends :
      (lock key).Ends (answering thread allowed) database result last) :
    last.rows = database.rows := by
  unfold lock at ends
  rcases ends_issue ends with ⟨reply, answered, rfl⟩ | ⟨_, thrown, _⟩
  · obtain ⟨_, ⟨⟩, choice, _, responded⟩ :=
      Program.ends_call.mp answered
    simp only [semantics, respond] at responded
    split at responded
    · obtain ⟨next, taken, both⟩ := Option.map_eq_some_iff.mp responded
      cases both
      exact Database.rows_of_takeLock taken
    · cases responded
      rfl
    · cases responded
      rfl
  · obtain ⟨_, impossible, _⟩ := Program.ends_call.mp thrown
    cases impossible

/-- The chain says what some allowed choice lets it say. -/
theorem ends_chain
    {request : ChainRequest}
    {result : Except Failure request.Reply}
    (ends :
      (chain request).Ends (answering thread allowed) database result
        last) :
    last = database ∧
      ∃ choice,
        allowed choice ∧
          result =
            (choice.chain request).mapError ProviderError.failure := by
  unfold chain at ends
  rcases ends_issue ends with ⟨reply, answered, rfl⟩ | ⟨_, thrown, _⟩
  · obtain ⟨_, ⟨⟩, choice, isAllowed, responded⟩ :=
      Program.ends_call.mp answered
    simp only [semantics, respond] at responded
    cases responded
    exact ⟨rfl, choice, isAllowed, rfl⟩
  · obtain ⟨_, impossible, _⟩ := Program.ends_call.mp thrown
    cases impossible

/-- Locks are given up; the tables stay as they are. -/
theorem ends_release
    {result : Except Failure Unit}
    (ends :
      release.Ends (answering thread allowed) database result last) :
    last.rows = database.rows ∧ result = .ok () := by
  obtain ⟨_, rfl, choice, _, responded⟩ := Program.ends_call.mp ends
  simp only [semantics, respond] at responded
  cases responded
  exact ⟨rfl, rfl⟩

/-- Returning the value of a check leaves everything as it is. -/
theorem ends_orThrow_ok
    {answer : Except Failure α}
    {value : α}
    (ends :
      (orThrow answer).Ends (answering thread allowed) database
        (.ok value) last) :
    answer = .ok value ∧ last = database := by
  obtain ⟨isAnswer, unchanged⟩ := Program.ends_ofExcept.mp ends
  exact ⟨isAnswer.symm, unchanged⟩

/-- A transaction that returns has returned from its body. -/
theorem ends_transaction_ok
    {body : Call α}
    {value : α}
    (ends :
      (transaction body).Ends (answering thread allowed) database
        (.ok value) last) :
    ∃ after,
      body.Ends (answering thread allowed) database (.ok value) after ∧
        last.rows = after.rows := by
  unfold transaction at ends
  obtain ⟨ended, middle, attempted, rest⟩ := Program.ends_bind_ok.mp ends
  obtain ⟨_, ⟨⟩, bodyEnds⟩ := Program.ends_attempt.mp attempted
  cases ended with
  | ok returned =>
      obtain ⟨_, after, released, returns⟩ := Program.ends_bind_ok.mp rest
      obtain ⟨⟨⟩, rfl⟩ := Program.ends_done.mp returns
      exact ⟨middle, bodyEnds, (ends_release released).1⟩
  | error failure =>
      obtain ⟨_, after, released, throws⟩ := Program.ends_bind_ok.mp rest
      obtain ⟨impossible, _⟩ := Program.ends_fail.mp throws
      cases impossible

end Operations

/-! ## Calls that keep a part of the tables -/

/-- A change that leaves what is observed of the tables. -/
def Change.Keeps {β : Type}
    (observe : Database → β)
    (change : Change) :
    Prop :=
  ∀ database value next,
    change.apply database = .ok (value, next) →
    observe next = observe database

/-- An operation that leaves what is observed of the tables. -/
def Op.Keeps {β : Type} (observe : Database → β) : Op → Prop
  | .write change => change.Keeps observe
  | _ => True

/-- An answered operation leaves what it keeps. -/
theorem observed_of_responded {β : Type}
    {observe : Database → β}
    (ofRows : ∀ database, observe database.rows = observe database)
    {lost : Bool}
    {thread : Nat}
    {choice : Choice}
    {op : Op}
    {answer : op.Answer}
    {database next : Database}
    (keeps : op.Keeps observe)
    (responded :
      respond lost thread op choice database = some (answer, next)) :
    observe next = observe database := by
  have effect : Effect lost database op answer next :=
    respond_effect responded
  refine
    effect.preserves
      (fun other => observe other = observe database) ?_ ?_ rfl
  · intro other locks same
    rw [← ofRows, ← same, ← ofRows other]
    rfl
  · intro change result after isWrite applied same
    subst isWrite
    exact (keeps _ _ _ applied).trans same

/-- A call leaves what each of its operations keeps. -/
theorem observed_of_ends {α β : Type}
    {observe : Database → β}
    (ofRows : ∀ database, observe database.rows = observe database)
    {thread : Nat}
    {allowed : Choice → Prop}
    {body : Call α}
    (issues : Issues (Op.Keeps observe) body)
    {database last : Database}
    {result : Except Failure α}
    (ends : body.Ends (answering thread allowed) database result last) :
    observe last = observe database := by
  have obeys := issues []
  clear issues
  generalize ([] : List (Event sparkz)) = past at obeys
  induction ends generalizing past with
  | done =>
      rfl
  | fail =>
      rfl
  | perform answered _ inductionHypothesis =>
      obtain ⟨choice, _, responded⟩ := answered
      rw [inductionHypothesis _ (obeys.2 _)]
      exact observed_of_responded ofRows obeys.1 responded

/-- An operation that leaves every table as it is. -/
def Op.keepsRows : Op → Prop
  | .write _ => False
  | _ => True

/-- A call without changes leaves every table as it is. -/
theorem rows_of_ends {α : Type}
    {thread : Nat}
    {allowed : Choice → Prop}
    {body : Call α}
    (issues : Issues Op.keepsRows body)
    {database last : Database}
    {result : Except Failure α}
    (ends : body.Ends (answering thread allowed) database result last) :
    last.rows = database.rows := by
  refine observed_of_ends (fun _ => rfl) (issues.weaken ?_) ends
  intro op keeps
  cases op with
  | write change =>
      exact keeps.elim
  | _ =>
      trivial

end Sparkz
