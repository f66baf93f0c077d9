import Sparkz.InterleavingSolo
import Sparkz.CallEffects

namespace Sparkz

open Interleaving

/-!
# Calls that nobody interrupts

A transaction that holds the locks it needs behaves as if it were alone: every
lock is free, every statement takes effect, and every read sees what the
transaction started from.
-/

/-- A call holds a lock, whoever held it before. -/
def Database.withLock
    (database : Database)
    (thread : Nat)
    (key : LockKey) :
    Database :=
  { database with
    locks := fun query =>
      if query = key then some thread else database.locks query }

@[simp] theorem Database.withLock_ledger
    (database : Database)
    (thread : Nat)
    (key : LockKey) :
    (database.withLock thread key).ledger = database.ledger :=
  rfl

/-- The answers to a call that is alone and whose statements succeed. -/
def alone (thread : Nat) (choice : Choice) : Handler sparkz Database
  | .lock key, database => (.ok (), database.withLock thread key)
  | .release, database => ((), database.releaseLocks thread)
  | .read query, database => (.ok (query.answer database), database)
  | .write change, database => database.commit thread change
  | .chain request, database => (choice.chain request, database)
  | .service request, database => (choice.service request, database)
  | .note _, database => ((), database)

/-- No other call holds a lock. -/
def Database.IsAlone (thread : Nat) (database : Database) : Prop :=
  ∀ key, database.locks key = none ∨ database.locks key = some thread

theorem Database.IsAlone.releaseLocks
    {thread : Nat}
    {database : Database}
    (isAlone : database.IsAlone thread) :
    (database.releaseLocks thread).IsAlone thread := by
  intro key
  rcases isAlone key with free | own
  · exact Or.inl (by simp [Database.releaseLocks, free])
  · exact Or.inl (by simp [Database.releaseLocks, own])

theorem Database.IsAlone.commit
    {thread : Nat}
    {database : Database}
    (isAlone : database.IsAlone thread)
    (change : Change) :
    (database.commit thread change).2.IsAlone thread := by
  unfold Database.commit
  split
  · rename_i result next applied
    have kept := Change.apply_locks applied
    apply Database.IsAlone.releaseLocks
    intro key
    rw [kept]
    exact isAlone key
  · exact isAlone.releaseLocks

/-- The answers given to a call that is alone are answers of the service. -/
theorem alone_fits
    (lost : Bool)
    (thread : Nat)
    (choice : Choice)
    (noFault : choice.fault = .none) :
    (alone thread choice).Fits (semantics lost) thread
      (Database.IsAlone thread) where
  answers := by
    intro op database isAlone
    refine ⟨choice, ?_⟩
    cases op with
    | lock key =>
        simp [semantics, respond, noFault, Database.takeLock,
          isAlone key, alone, Database.withLock]
    | read query =>
        simp [semantics, respond, noFault, alone]
    | write change =>
        simp [semantics, respond, noFault, alone]
    | release =>
        rfl
    | chain request =>
        rfl
    | service request =>
        rfl
    | note note =>
        rfl
  stays := by
    intro op database isAlone
    cases op with
    | lock key =>
        intro query
        by_cases same : query = key
        · exact Or.inr (by simp [alone, Database.withLock, same])
        · simpa [alone, Database.withLock, same] using isAlone query
    | write change =>
        exact isAlone.commit change
    | release =>
        exact isAlone.releaseLocks
    | read query =>
        exact isAlone
    | chain request =>
        exact isAlone
    | service request =>
        exact isAlone
    | note note =>
        exact isAlone

/-! ## The operations of a call that is alone -/

section Operations

variable {thread : Nat} {choice : Choice} {database next : Database}

theorem solo_lock_bind {α : Type}
    (key : LockKey)
    (rest : Unit → Call α) :
    (lock key >>= rest).solo (alone thread choice) database =
      (rest ()).solo (alone thread choice)
        (database.withLock thread key) :=
  rfl

theorem solo_read_bind {α : Type}
    (query : Query)
    (rest : query.Result → Call α) :
    (read query >>= rest).solo (alone thread choice) database =
      (rest (query.answer database)).solo (alone thread choice)
        database :=
  rfl

/-- A check that passes is not seen; one that fails ends the call. -/
theorem solo_orThrow_bind {α β : Type}
    (answer : Except Failure α)
    (rest : α → Call β) :
    (orThrow answer >>= rest).solo (alone thread choice) database =
      match answer with
      | .ok value => (rest value).solo (alone thread choice) database
      | .error failure => (.error failure, database) := by
  cases answer <;> rfl

/-- An operation that is answered with an error throws. -/
theorem solo_issue {ε α : Type}
    {handler : Handler sparkz Database}
    (failure : ε → Failure)
    (answer : Call (Except ε α)) :
    (issue failure answer).solo handler database =
      match answer.solo handler database with
      | (.ok (.ok value), after) => (.ok value, after)
      | (.ok (.error error), after) => (.error (failure error), after)
      | (.error error, after) => (.error error, after) := by
  unfold issue
  rw [Program.solo_bind]
  rcases answer.solo handler database with ⟨result, after⟩
  cases result with
  | error error =>
      rfl
  | ok reply =>
      cases reply <;> rfl

theorem solo_chain (request : ChainRequest) :
    (chain request).solo (alone thread choice) database =
      ((choice.chain request).mapError ProviderError.failure,
        database) := by
  unfold chain
  rw [solo_issue, Program.solo_call]
  simp only [alone]
  cases choice.chain request <;> rfl

theorem solo_write (change : Change) :
    (write change).solo (alone thread choice) database =
      ((database.commit thread change).1.mapError StoreError.failure,
        (database.commit thread change).2) := by
  unfold write
  rw [solo_issue, Program.solo_call]
  simp only [alone]
  cases (database.commit thread change).1 <;> rfl

/-- A transaction that returns gives up the locks of its body. -/
theorem solo_transaction_eq_ok {α : Type}
    {body : Call α}
    {value : α}
    (ran :
      (transaction body).solo (alone thread choice) database =
        (.ok value, next)) :
    ∃ after,
      body.solo (alone thread choice) database = (.ok value, after) ∧
        next = after.releaseLocks thread := by
  unfold transaction at ran
  simp only [Program.solo_bind, Program.solo_attempt] at ran
  generalize body.solo (alone thread choice) database = ended at ran ⊢
  rcases ended with ⟨result, after⟩
  cases result with
  | error failure =>
      cases ran
  | ok returned =>
      cases ran
      exact ⟨after, rfl, rfl⟩

/-- A change that is acknowledged was applied. -/
theorem solo_write_eq_ok
    {change : Change}
    {result : change.Result}
    (ran :
      (write change).solo (alone thread choice) database =
        (.ok result, next)) :
    ∃ after,
      change.apply database = .ok (result, after) ∧
        next = after.releaseLocks thread := by
  rw [solo_write] at ran
  unfold Database.commit at ran
  split at ran
  · rename_i value after applied
    cases ran
    exact ⟨after, applied, rfl⟩
  · cases ran

end Operations

end Sparkz
