import Mathlib.Data.List.Induction
import Mathlib.Logic.Function.Basic

/-!
# Fair locks

The calls of a lock stand in a queue.  A call joins at the end of the queue,
enters when it is first and nobody is inside, and leaves when it is inside.  So
calls enter one at a time and in the order in which they have joined.  The locks
of several keys share nothing.
-/

/-- The calls of a lock, and whether the first of them is inside. -/
structure FairLock (ι : Type) where
  queue : List ι
  inside : Bool
  deriving DecidableEq

namespace FairLock

variable {ι κ : Type} [DecidableEq ι] [DecidableEq κ]

/-- What a call does. -/
inductive Action (ι : Type) where
  | join (call : ι)
  | enter (call : ι)
  | leave (call : ι)

/-- No call has joined. -/
def empty : FairLock ι := ⟨[], false⟩

/-- The lock after an action; nothing when the action is not allowed. -/
def step (lock : FairLock ι) : Action ι → Option (FairLock ι)
  | .join call => some { lock with queue := lock.queue ++ [call] }
  | .enter call =>
      if lock.queue.head? = some call ∧ lock.inside = false then
        some { lock with inside := true }
      else none
  | .leave call =>
      if lock.queue.head? = some call ∧ lock.inside = true then
        some ⟨lock.queue.tail, false⟩
      else none

/-- The lock after actions, in their order. -/
def run (lock : FairLock ι) (actions : List (Action ι)) :
    Option (FairLock ι) :=
  actions.foldlM step lock

/-! ## The order of calls -/

/-- The calls that have joined, in their order. -/
def joined (actions : List (Action ι)) : List ι :=
  actions.filterMap fun
    | .join call => some call
    | _ => none

/-- The calls that have entered, in their order. -/
def entered (actions : List (Action ι)) : List ι :=
  actions.filterMap fun
    | .enter call => some call
    | _ => none

/-- The calls that have left, in their order. -/
def left (actions : List (Action ι)) : List ι :=
  actions.filterMap fun
    | .leave call => some call
    | _ => none

/-- The call that is inside. -/
def holder (lock : FairLock ι) : List ι :=
  if lock.inside then lock.queue.head?.toList else []

section Runs

variable {lock next : FairLock ι} {actions : List (Action ι)}
  {action : Action ι}

theorem run_concat :
    run lock (actions ++ [action]) =
      (run lock actions).bind fun middle => step middle action := by
  simp [run, List.foldlM_append]

/-- Where the calls of a run are. -/
structure Accounts (lock : FairLock ι) (actions : List (Action ι)) :
    Prop where
  queued : joined actions = left actions ++ lock.queue
  held : entered actions = left actions ++ lock.holder
  occupied : lock.inside = true → lock.queue ≠ []

/-- An action keeps the account. -/
theorem Accounts.step
    (accounts : Accounts lock actions)
    (stepped : lock.step action = some next) :
    Accounts next (actions ++ [action]) := by
  obtain ⟨queued, held, occupied⟩ := accounts
  cases action with
  | join call =>
      obtain rfl := Option.some.inj stepped
      constructor
      · simp only [joined, left] at queued ⊢
        simp [queued]
      · rcases isQueue : lock.queue with _ | ⟨first, rest⟩
        · have isFree : lock.inside = false := by
            by_contra isInside
            rw [Bool.not_eq_false] at isInside
            exact occupied isInside isQueue
          simpa [entered, left, holder, isFree] using held
        · simpa [entered, left, holder, isQueue] using held
      · simp
  | enter call =>
      simp only [FairLock.step] at stepped
      split_ifs at stepped with allowed
      obtain rfl := Option.some.inj stepped
      obtain ⟨isFirst, isFree⟩ := allowed
      constructor
      · simpa [joined, left] using queued
      · simpa [entered, left, holder, isFree, isFirst] using held
      · intro _ isEmpty
        rw [isEmpty] at isFirst
        cases isFirst
  | leave call =>
      simp only [FairLock.step] at stepped
      split_ifs at stepped with allowed
      obtain rfl := Option.some.inj stepped
      obtain ⟨isFirst, isInside⟩ := allowed
      obtain ⟨rest, isQueue⟩ := List.head?_eq_some_iff.mp isFirst
      constructor
      · simpa [joined, left, isQueue] using queued
      · simpa [entered, left, holder, isInside, isFirst] using held
      · simp

/-- Every run from the empty lock is accounted for. -/
theorem accounts_of_run
    (ran : run empty actions = some lock) :
    Accounts lock actions := by
  induction actions using List.reverseRecOn generalizing lock with
  | nil =>
      obtain rfl := Option.some.inj ran
      exact ⟨rfl, rfl, by simp [empty]⟩
  | append_singleton actions action inductionHypothesis =>
      rw [run_concat] at ran
      obtain ⟨middle, isMiddle, stepped⟩ := Option.bind_eq_some_iff.mp ran
      exact (inductionHypothesis isMiddle).step stepped

/-- Calls enter in the order in which they have joined. -/
theorem entered_prefix_joined
    (ran : run empty actions = some lock) :
    entered actions <+: joined actions := by
  obtain ⟨queued, held, _⟩ := accounts_of_run ran
  rw [queued, held, List.prefix_append_right_inj]
  unfold holder
  split_ifs
  · rcases lock.queue with _ | ⟨first, rest⟩
    · exact List.prefix_rfl
    · exact ⟨rest, rfl⟩
  · exact List.nil_prefix

end Runs

/-! ## Locks of several keys -/

/-- The locks after an action at a key. -/
def stepAt (locks : κ → FairLock ι) (event : κ × Action ι) :
    Option (κ → FairLock ι) :=
  ((locks event.1).step event.2).map (Function.update locks event.1)

/-- The locks after actions at several keys. -/
def runAt (locks : κ → FairLock ι) (events : List (κ × Action ι)) :
    Option (κ → FairLock ι) :=
  events.foldlM stepAt locks

theorem runAt_append
    {locks : κ → FairLock ι}
    {events others : List (κ × Action ι)} :
    runAt locks (events ++ others) =
      (runAt locks events).bind fun middle => runAt middle others := by
  simp [runAt, List.foldlM_append]

theorem runAt_cons
    {locks : κ → FairLock ι}
    {event : κ × Action ι}
    {events : List (κ × Action ι)} :
    runAt locks (event :: events) =
      (stepAt locks event).bind fun middle => runAt middle events :=
  rfl

/-- The actions at one key. -/
def actionsAt (key : κ) (events : List (κ × Action ι)) :
    List (Action ι) :=
  (events.filter fun event => event.1 = key).map Prod.snd

/-- The lock of a key does what its own actions make it do. -/
theorem run_of_runAt
    {locks next : κ → FairLock ι}
    {events : List (κ × Action ι)}
    (ran : runAt locks events = some next)
    (key : κ) :
    run (locks key) (actionsAt key events) = some (next key) := by
  induction events generalizing locks with
  | nil =>
      obtain rfl := Option.some.inj ran
      rfl
  | cons event events inductionHypothesis =>
      obtain ⟨middle, stepped, ranRest⟩ := Option.bind_eq_some_iff.mp ran
      obtain ⟨lock, isLock, rfl⟩ := Option.map_eq_some_iff.mp stepped
      have isRest := inductionHypothesis ranRest
      obtain ⟨other, action⟩ := event
      by_cases same : other = key
      · subst same
        rw [Function.update_self] at isRest
        simp only [actionsAt, List.filter_cons, decide_true, if_true,
          List.map_cons, run, List.foldlM_cons]
        rw [isLock]
        exact isRest
      · rw [Function.update_of_ne (Ne.symm same)] at isRest
        simpa [actionsAt, List.filter_cons, same] using isRest

end FairLock
