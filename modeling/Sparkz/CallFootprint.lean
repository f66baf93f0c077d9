import Sparkz.CallConformance

namespace Sparkz

open Interleaving

/-!
# The footprint of a call

The operations a call can issue at all, whatever it has done before and
whatever it is answered.  A footprint is found by following the code, and it
is enough where the order of the operations does not matter.
-/

/-- Whether a request sends a transaction of the treasury. -/
def ChainRequest.broadcasts : ChainRequest → Bool
  | .broadcastTransaction _ _ => true
  | _ => false

/-- What writes nothing and sends nothing for the treasury. -/
def Op.isQuiet : Op → Prop
  | .write _ => False
  | .chain request => request.broadcasts = false
  | _ => True

/-- A call issues only allowed operations. -/
def Issues {α : Type} (allowed : Op → Prop) (body : Call α) : Prop :=
  ∀ past, body.Obeys (fun _ op => allowed op) past fun _ _ => True

namespace Issues

variable {α β : Type} {allowed wider : Op → Prop}
  {body : Call α} {next : α → Call β}

/-- A wider footprint is a footprint. -/
theorem weaken
    (issues : Issues allowed body)
    (implies : ∀ op, allowed op → wider op) :
    Issues wider body :=
  fun past =>
    ((issues past).embed fun _ op _ => implies op).weaken
      fun _ _ _ => trivial

theorem ofPure {value : α} : Issues allowed (pure value : Call α) :=
  fun _ => trivial

theorem ofThrow {failure : Failure} :
    Issues allowed (throwFailure failure : Call α) :=
  fun _ => trivial

theorem ofOrThrow {answer : Except Failure α} :
    Issues allowed (orThrow answer) := by
  intro past
  cases answer <;> trivial

theorem bind
    (first : Issues allowed body)
    (rest : ∀ value, Issues allowed (next value)) :
    Issues allowed (body >>= next) := by
  intro past
  rw [Program.obeys_bind]
  refine (first past).weaken ?_
  rintro (failure | value) reached _
  · trivial
  · exact rest value reached

theorem attempt (issues : Issues allowed body) :
    Issues allowed body.attempt := by
  intro past
  rw [Program.obeys_attempt]
  exact (issues past).weaken fun _ _ _ => trivial

theorem recover
    {handler : Failure → Call α}
    (issues : Issues allowed body)
    (handles : ∀ failure, Issues allowed (handler failure)) :
    Issues allowed (body.recover handler) := by
  intro past
  rw [Program.obeys_recover]
  refine (issues past).weaken ?_
  rintro (failure | value) reached _
  · exact handles failure reached
  · trivial

theorem ofIte
    {condition : Prop}
    [Decidable condition]
    {other : Call α}
    (first : Issues allowed body)
    (second : Issues allowed other) :
    Issues allowed (if condition then body else other) := by
  split
  · exact first
  · exact second

/-- One operation that is answered. -/
theorem ofCall
    {op : Op}
    (isAllowed : allowed op) :
    Issues allowed (Program.call (S := sparkz) op) :=
  fun _ => ⟨isAllowed, fun _ => trivial⟩

/-- One operation that throws when it is answered with an error. -/
theorem ofIssue {ε : Type}
    {failure : ε → Failure}
    {answer : Call (Except ε α)}
    (issues : Issues allowed answer) :
    Issues allowed (issue failure answer) := by
  refine issues.bind ?_
  rintro (error | value)
  · exact ofThrow
  · exact ofPure

theorem ofLock {key : LockKey} (isAllowed : allowed (.lock key)) :
    Issues allowed (lock key) :=
  ofIssue (ofCall isAllowed)

theorem ofRead {query : Query} (isAllowed : allowed (.read query)) :
    Issues allowed (read query) :=
  ofIssue (ofCall isAllowed)

theorem ofWrite {change : Change} (isAllowed : allowed (.write change)) :
    Issues allowed (write change) :=
  ofIssue (ofCall isAllowed)

theorem ofChain
    {request : ChainRequest}
    (isAllowed : allowed (.chain request)) :
    Issues allowed (chain request) :=
  ofIssue (ofCall isAllowed)

theorem ofService
    {request : ServiceRequest}
    (isAllowed : allowed (.service request)) :
    Issues allowed (service request) :=
  ofCall isAllowed

theorem ofNote {noted : Note} (isAllowed : allowed (.note noted)) :
    Issues allowed (note noted) :=
  ofCall isAllowed

/-- A transaction issues what its body issues, and gives its locks up. -/
theorem ofTransaction
    (issues : Issues allowed body)
    (releases : allowed .release) :
    Issues allowed (transaction body) := by
  refine issues.attempt.bind ?_
  rintro (failure | value)
  · exact bind (ofCall releases) fun _ => ofThrow
  · exact bind (ofCall releases) fun _ => ofPure

end Issues

end Sparkz
