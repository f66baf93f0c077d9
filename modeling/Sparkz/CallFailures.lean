import Sparkz.UninterruptedCalls

namespace Sparkz

open Interleaving

/-!
# Which failures a call can throw

An error message of the database could be any text.  As long as it is not the
one in question, a call throws a failure only where its code says so.
-/

/-- No error of the database itself is this failure. -/
def Unlike (allowed : Choice → Prop) (failure : Failure) : Prop :=
  ∀ choice message,
    allowed choice →
    choice.fault = .refused message ∨ choice.fault = .replyLost message →
    .error message ≠ failure

/-- A call never throws this failure. -/
abbrev Avoids {α : Type}
    (thread : Nat)
    (allowed : Choice → Prop)
    (failure : Failure)
    (call : Call α) :
    Prop :=
  call.Throws (answering thread allowed) (· ≠ failure)

section Avoids

variable {thread : Nat} {allowed : Choice → Prop} {failure : Failure}
  {α : Type}

theorem avoids_read
    {query : Query}
    (unlike : Unlike allowed failure) :
    Avoids thread allowed failure (read query) := by
  intro database error last ends
  unfold read at ends
  rcases ends_issue ends with ⟨reply, answered, isError⟩ | ⟨_, thrown, _⟩
  · obtain ⟨_, ⟨⟩, choice, isAllowed, responded⟩ :=
      Program.ends_call.mp answered
    simp only [semantics, respond] at responded
    split at responded <;> cases responded
    · cases isError
    · rename_i message isFault
      cases isError
      exact unlike choice message isAllowed (Or.inl isFault)
    · rename_i message isFault
      cases isError
      exact unlike choice message isAllowed (Or.inr isFault)
  · obtain ⟨_, impossible, _⟩ := Program.ends_call.mp thrown
    cases impossible

theorem avoids_lock
    {key : LockKey}
    (unlike : Unlike allowed failure) :
    Avoids thread allowed failure (lock key) := by
  intro database error last ends
  unfold lock at ends
  rcases ends_issue ends with ⟨reply, answered, isError⟩ | ⟨_, thrown, _⟩
  · obtain ⟨_, ⟨⟩, choice, isAllowed, responded⟩ :=
      Program.ends_call.mp answered
    simp only [semantics, respond] at responded
    split at responded
    · obtain ⟨next, taken, both⟩ := Option.map_eq_some_iff.mp responded
      cases both
      cases isError
    · rename_i message isFault
      cases responded
      cases isError
      exact unlike choice message isAllowed (Or.inl isFault)
    · rename_i message isFault
      cases responded
      cases isError
      exact unlike choice message isAllowed (Or.inr isFault)
  · obtain ⟨_, impossible, _⟩ := Program.ends_call.mp thrown
    cases impossible

/-- A change throws its own errors, besides those of the database. -/
theorem avoids_write
    {change : Change}
    (unlike : Unlike allowed failure)
    (differs :
      ∀ database error,
        change.apply database = .error error →
        error.failure ≠ failure) :
    Avoids thread allowed failure (write change) := by
  intro database error last ends
  unfold write at ends
  rcases ends_issue ends with ⟨reply, answered, isError⟩ | ⟨_, thrown, _⟩
  · obtain ⟨_, ⟨⟩, choice, isAllowed, responded⟩ :=
      Program.ends_call.mp answered
    simp only [semantics, respond, if_true] at responded
    split at responded
    · have isReply := congrArg Prod.fst (Option.some.inj responded)
      unfold Database.commit at isReply
      rcases applied : change.apply database with refusal | ⟨value, next⟩
      · rw [applied] at isReply
        cases isReply
        cases isError
        exact differs database refusal applied
      · rw [applied] at isReply
        cases isReply
        cases isError
    · rename_i message isFault
      cases responded
      cases isError
      exact unlike choice message isAllowed (Or.inl isFault)
    · rename_i message isFault
      cases responded
      cases isError
      exact unlike choice message isAllowed (Or.inr isFault)
  · obtain ⟨_, impossible, _⟩ := Program.ends_call.mp thrown
    cases impossible

theorem avoids_note {entry : Note} :
    Avoids thread allowed failure (note entry) := by
  intro database error last ends
  obtain ⟨_, impossible, _⟩ := Program.ends_call.mp ends
  cases impossible

theorem avoids_service {request : ServiceRequest} :
    Avoids thread allowed failure (service request) := by
  intro database error last ends
  obtain ⟨_, impossible, _⟩ := Program.ends_call.mp ends
  cases impossible

theorem avoids_orThrow
    {answer : Except Failure α}
    (differs : answer ≠ .error failure) :
    Avoids thread allowed failure (orThrow answer) := by
  intro database error last ends isFailure
  obtain ⟨isAnswer, _⟩ := Program.ends_ofExcept.mp ends
  exact differs (isFailure ▸ isAnswer.symm)

/-- A transaction throws what its body throws. -/
theorem Avoids.transaction
    {body : Call α}
    (avoids : Avoids thread allowed failure body) :
    Avoids thread allowed failure (transaction body) := by
  intro database error last ends
  unfold Sparkz.transaction at ends
  rcases Program.ends_bind.mp ends with
    ⟨ended, middle, attempted, rest⟩ | ⟨thrown, _, attempted⟩
  · obtain ⟨_, ⟨⟩, bodyEnds⟩ := Program.ends_attempt.mp attempted
    rcases ended with refused | value
    · rcases Program.ends_bind.mp rest with
        ⟨_, after, _, throws⟩ | ⟨_, _, released⟩
      · obtain ⟨isError, _⟩ := Program.ends_fail.mp throws
        cases isError
        exact avoids database _ middle bodyEnds
      · cases (ends_release released).2
    · rcases Program.ends_bind.mp rest with
        ⟨_, after, _, returns⟩ | ⟨_, _, released⟩
      · obtain ⟨impossible, _⟩ := Program.ends_done.mp returns
        cases impossible
      · cases (ends_release released).2
  · obtain ⟨_, impossible, _⟩ := Program.ends_attempt.mp attempted
    cases impossible

end Avoids

end Sparkz
