import Mathlib.Logic.Function.Basic

namespace Interleaving

/-!
# Programs that wait for answers

A concurrent call is a finite tree: it either has returned, has thrown, or
issues one operation and continues with whatever answer arrives.  Nothing is
said here about what an operation does.  The tree is what a scheduler may
interleave with other calls between any two operations.
-/

/-- The operations a call may issue and the type of answer each one awaits. -/
structure Signature where
  Op : Type
  Answer : Op → Type

/-- A call that issues operations, returns a value, or throws. -/
inductive Program (S : Signature) (ε α : Type) where
  | done : α → Program S ε α
  | fail : ε → Program S ε α
  | perform :
      (op : S.Op) →
      (S.Answer op → Program S ε α) →
      Program S ε α

namespace Program

variable {S : Signature} {ε α β : Type}

/-- Continue with the returned value; a thrown error skips the continuation. -/
def andThen :
    Program S ε α →
    (α → Program S ε β) →
    Program S ε β
  | .done value, next => next value
  | .fail error, _ => .fail error
  | .perform op rest, next =>
      .perform op fun answer => (rest answer).andThen next

instance : Monad (Program S ε) where
  pure := .done
  bind := andThen

/-- Run a handler when the program throws. -/
def recover :
    Program S ε α →
    (ε → Program S ε α) →
    Program S ε α
  | .done value, _ => .done value
  | .fail error, handler => handler error
  | .perform op rest, handler =>
      .perform op fun answer => (rest answer).recover handler

/-- Turn a thrown error into a value, as a `try` block does. -/
def attempt : Program S ε α → Program S ε (Except ε α)
  | .done value => .done (.ok value)
  | .fail error => .done (.error error)
  | .perform op rest =>
      .perform op fun answer => (rest answer).attempt

/-- Return the value of an answer that may be an error. -/
def ofExcept : Except ε α → Program S ε α
  | .ok value => .done value
  | .error error => .fail error

/-- Issue one operation and return its answer. -/
def call (op : S.Op) : Program S ε (S.Answer op) :=
  .perform op .done

end Program

end Interleaving
