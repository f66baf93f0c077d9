import Mathlib.Data.List.Chain
import Mathlib.Data.List.Range
import Mathlib.Logic.Function.Basic

namespace Sparkz

/-!
# The lock of approval preparations

`withApprovalPreparationLock` keeps, for each key, the promise of the call that
has come last.  A call waits for the promise that it finds, and releases its own
when its work has settled.  A promise is named by the number of its call.
-/

/-- Where a call of `withApprovalPreparationLock` is. -/
inductive LockPhase (Value Error : Type) where
  /-- `await previous`, the promise of an earlier call. -/
  | waiting (previous : ℕ)
  /-- `work()` was called, and its promise is pending. -/
  | running
  /-- The promise of the work has resolved or is rejected. -/
  | settled (outcome : Except Error Value)
  /-- `release()` was called, and the caller has the outcome. -/
  | returned (outcome : Except Error Value)

/-- One call, by its key and where it is. -/
structure LockCall (Key Value Error : Type) where
  key : Key
  phase : LockPhase Value Error

/-- What can be seen of the calls. -/
inductive LockEntry (Key Value Error : Type) where
  | called (key : Key) (call : ℕ)
  | began (key : Key) (call : ℕ)
  | ended (key : Key) (call : ℕ) (outcome : Except Error Value)
  | answered (key : Key) (call : ℕ) (outcome : Except Error Value)
  deriving DecidableEq

/-- `approvalPreparationLocks`, the calls so far and what was seen of them. -/
structure ApprovalPreparationLocks (Key Value Error : Type) where
  locks : Key → Option ℕ
  calls : ℕ → Option (LockCall Key Value Error)
  count : ℕ
  log : List (LockEntry Key Value Error)

/-- What can happen next. -/
inductive LockEvent (Key Value Error : Type) where
  /-- A caller calls `withApprovalPreparationLock(key, work)`. -/
  | call (key : Key)
  /-- A call goes on after `await previous`. -/
  | resume (call : ℕ)
  /-- The promise of a call's work resolves or is rejected. -/
  | settle (call : ℕ) (outcome : Except Error Value)
  /-- A call goes on after `await work()`. -/
  | finish (call : ℕ)

namespace LockPhase

variable {Value Error : Type}

def isWaiting : LockPhase Value Error → Bool
  | .waiting _ => true
  | _ => false

def isReturned : LockPhase Value Error → Bool
  | .returned _ => true
  | _ => false

/-- `if (previous) await previous; … work()`. -/
def afterPrevious : Option ℕ → LockPhase Value Error
  | some previous => .waiting previous
  | none => .running

@[simp] theorem isReturned_afterPrevious (previous : Option ℕ) :
    (afterPrevious previous : LockPhase Value Error).isReturned = false := by
  cases previous <;> rfl

end LockPhase

namespace ApprovalPreparationLocks

section Steps

variable {Key Value Error : Type} [DecidableEq Key]

/-- `new Map()`, before the first call. -/
def start : ApprovalPreparationLocks Key Value Error where
  locks _ := none
  calls _ := none
  count := 0
  log := []

/-- The promise of a call has resolved. -/
def isReleased
    (state : ApprovalPreparationLocks Key Value Error)
    (call : ℕ) :
    Bool :=
  (state.calls call).any fun found => found.phase.isReturned

/-- A call goes on to another phase. -/
def setPhase
    (state : ApprovalPreparationLocks Key Value Error)
    (call : ℕ)
    (key : Key)
    (phase : LockPhase Value Error) :
    ApprovalPreparationLocks Key Value Error :=
  { state with
    calls := Function.update state.calls call (some ⟨key, phase⟩) }

/-- The part of a call up to its first `await`. -/
def enterCall
    (state : ApprovalPreparationLocks Key Value Error)
    (key : Key) :
    ApprovalPreparationLocks Key Value Error :=
  let previous := state.locks key
  let current := state.count
  { state.setPhase current key (.afterPrevious previous) with
    locks := Function.update state.locks key (some current)
    count := current + 1
    log :=
      state.log ++ .called key current ::
        if previous.isSome then [] else [.began key current] }

/-- The `finally` block of a call, and its answer. -/
def leaveCall
    (state : ApprovalPreparationLocks Key Value Error)
    (call : ℕ)
    (key : Key)
    (outcome : Except Error Value) :
    ApprovalPreparationLocks Key Value Error :=
  { state.setPhase call key (.returned outcome) with
    locks :=
      if state.locks key = some call then
        Function.update state.locks key none
      else state.locks
    log := state.log ++ [.answered key call outcome] }

/-- The state after an event; nothing when the event can not happen. -/
def step
    (state : ApprovalPreparationLocks Key Value Error) :
    LockEvent Key Value Error →
    Option (ApprovalPreparationLocks Key Value Error)
  | .call key => some (state.enterCall key)
  | .resume call =>
      match state.calls call with
      | some ⟨key, .waiting previous⟩ =>
          if state.isReleased previous then
            some
              { state.setPhase call key .running with
                log := state.log ++ [.began key call] }
          else none
      | _ => none
  | .settle call outcome =>
      match state.calls call with
      | some ⟨key, .running⟩ =>
          some
            { state.setPhase call key (.settled outcome) with
              log := state.log ++ [.ended key call outcome] }
      | _ => none
  | .finish call =>
      match state.calls call with
      | some ⟨key, .settled outcome⟩ =>
          some (state.leaveCall call key outcome)
      | _ => none

/-- The state after events, in their order. -/
def run
    (state : ApprovalPreparationLocks Key Value Error)
    (events : List (LockEvent Key Value Error)) :
    Option (ApprovalPreparationLocks Key Value Error) :=
  events.foldlM step state

end Steps

/-! ## What one event does -/

variable {Key Value Error : Type} [DecidableEq Key]
  {state next : ApprovalPreparationLocks Key Value Error}
  {event : LockEvent Key Value Error}
  {key other : Key} {call : ℕ} {outcome : Except Error Value}
  {phase later : LockPhase Value Error}

theorem step_resume :
    state.step (.resume call) = some next ↔
      ∃ key previous,
        state.calls call = some ⟨key, .waiting previous⟩ ∧
        state.isReleased previous = true ∧
        next =
          { state.setPhase call key .running with
            log := state.log ++ [.began key call] } := by
  constructor
  · intro stepped
    rcases isCall : state.calls call with _ | ⟨key, _ | _ | _ | _⟩
    case some.waiting previous =>
      simp only [step, isCall] at stepped
      split_ifs at stepped with released
      exact
        ⟨key, previous, rfl, released, (Option.some.inj stepped).symm⟩
    all_goals simp [step, isCall] at stepped
  · rintro ⟨key, previous, isCall, released, rfl⟩
    simp [step, isCall, released]

theorem step_settle :
    state.step (.settle call outcome) = some next ↔
      ∃ key,
        state.calls call = some ⟨key, .running⟩ ∧
        next =
          { state.setPhase call key (.settled outcome) with
            log := state.log ++ [.ended key call outcome] } := by
  constructor
  · intro stepped
    rcases isCall : state.calls call with _ | ⟨key, _ | _ | _ | _⟩
    case some.running =>
      simp only [step, isCall] at stepped
      exact ⟨key, rfl, (Option.some.inj stepped).symm⟩
    all_goals simp [step, isCall] at stepped
  · rintro ⟨key, isCall, rfl⟩
    simp [step, isCall]

theorem step_finish :
    state.step (.finish call) = some next ↔
      ∃ key outcome,
        state.calls call = some ⟨key, .settled outcome⟩ ∧
        next = state.leaveCall call key outcome := by
  constructor
  · intro stepped
    rcases isCall : state.calls call with _ | ⟨key, _ | _ | outcome | _⟩
    case some.settled =>
      simp only [step, isCall] at stepped
      exact ⟨key, outcome, rfl, (Option.some.inj stepped).symm⟩
    all_goals simp [step, isCall] at stepped
  · rintro ⟨key, outcome, isCall, rfl⟩
    simp [step, isCall]

/-! ## The calls that are pending -/

/-- A call of a key whose caller has no answer yet. -/
def isPending
    (state : ApprovalPreparationLocks Key Value Error)
    (key : Key)
    (call : ℕ) :
    Bool :=
  (state.calls call).any fun found =>
    decide (found.key = key) && !found.phase.isReturned

/-- The pending calls of a key, in the order of their arrival. -/
def pending
    (state : ApprovalPreparationLocks Key Value Error)
    (key : Key) :
    List ℕ :=
  (List.range state.count).filter (state.isPending key)

theorem isPending_iff :
    state.isPending key call = true ↔
      ∃ phase,
        state.calls call = some ⟨key, phase⟩ ∧
          phase.isReturned = false := by
  unfold isPending
  rcases state.calls call with _ | ⟨found, phase⟩
  · simp
  · simp only [Option.any_some, Bool.and_eq_true, decide_eq_true_eq,
      Bool.not_eq_true', Option.some.injEq, LockCall.mk.injEq]
    constructor
    · rintro ⟨rfl, notReturned⟩
      exact ⟨phase, ⟨rfl, rfl⟩, notReturned⟩
    · rintro ⟨_, ⟨rfl, rfl⟩, notReturned⟩
      exact ⟨rfl, notReturned⟩

theorem pending_nodup : (state.pending key).Nodup :=
  List.nodup_range.filter _

/-- What holds between events. -/
structure Chained (state : ApprovalPreparationLocks Key Value Error) :
    Prop where
  known : ∀ call, (state.calls call).isSome = true → call < state.count
  tail : ∀ key, state.locks key = (state.pending key).getLast?
  waits :
    ∀ key,
      (state.pending key).IsChain fun previous call =>
        state.calls call = some ⟨key, .waiting previous⟩
  first :
    ∀ key call previous,
      (state.pending key).head? = some call →
      state.calls call = some ⟨key, .waiting previous⟩ →
      state.isReleased previous = true

theorem Chained.mem_pending (chained : Chained state) :
    call ∈ state.pending key ↔
      ∃ phase,
        state.calls call = some ⟨key, phase⟩ ∧
          phase.isReturned = false := by
  rw [pending, List.mem_filter, isPending_iff, List.mem_range]
  constructor
  · rintro ⟨_, isPending⟩
    exact isPending
  · rintro ⟨phase, isCall, notReturned⟩
    exact
      ⟨chained.known call (by rw [isCall]; rfl), phase, isCall,
        notReturned⟩

/-- Behind the first one, every member of a chain has one before it. -/
theorem exists_rel_of_mem_tail
    {related : ℕ → ℕ → Prop}
    {members : List ℕ}
    (isChain : members.IsChain related)
    (member : call ∈ members.tail) :
    ∃ previous ∈ members, related previous call := by
  induction isChain with
  | nil => cases member
  | singleton => cases member
  | @cons_cons first second rest isRelated _ inductionHypothesis =>
      rcases List.mem_cons.mp member with rfl | later
      · exact ⟨first, List.mem_cons_self, isRelated⟩
      · obtain ⟨previous, isMember, relates⟩ := inductionHypothesis later
        exact ⟨previous, List.mem_cons_of_mem _ isMember, relates⟩

/-- A call that can go on is the first of its key. -/
theorem Chained.head_of_ready
    (chained : Chained state)
    (isCall : state.calls call = some ⟨key, phase⟩)
    (notReturned : phase.isReturned = false)
    (ready :
      ∀ previous,
        phase = .waiting previous → state.isReleased previous = true) :
    (state.pending key).head? = some call := by
  have isMember : call ∈ state.pending key :=
    chained.mem_pending.mpr ⟨phase, isCall, notReturned⟩
  have waits := chained.waits key
  rcases isPending : state.pending key with _ | ⟨first, rest⟩
  · rw [isPending] at isMember
    cases isMember
  · rw [isPending] at isMember
    rcases List.mem_cons.mp isMember with rfl | later
    · rfl
    · rw [isPending] at waits
      obtain ⟨previous, isBefore, isWaiting⟩ :=
        exists_rel_of_mem_tail waits later
      rw [← isPending, chained.mem_pending] at isBefore
      obtain ⟨earlier, isEarlier, notReleased⟩ := isBefore
      rw [isCall, Option.some.injEq, LockCall.mk.injEq] at isWaiting
      have released := ready previous isWaiting.2
      simp [isReleased, isEarlier, notReleased] at released

/-! ## The chain after an event -/

/-- The log is no part of the chain. -/
theorem Chained.withLog
    (chained : Chained state)
    (log : List (LockEntry Key Value Error)) :
    Chained { state with log := log } :=
  ⟨chained.known, chained.tail, chained.waits, chained.first⟩

omit [DecidableEq Key] in
@[simp] theorem calls_setPhase_self :
    (state.setPhase call key later).calls call = some ⟨key, later⟩ :=
  Function.update_self ..

omit [DecidableEq Key] in
theorem calls_setPhase_of_ne
    {different : ℕ}
    (isOther : different ≠ call) :
    (state.setPhase call key later).calls different =
      state.calls different :=
  Function.update_of_ne isOther ..

/-- A call that is not answered by going on stays pending. -/
theorem pending_setPhase
    (isCall : state.calls call = some ⟨key, phase⟩)
    (notReturned : phase.isReturned = false)
    (stays : later.isReturned = false) :
    (state.setPhase call key later).pending other =
      state.pending other := by
  apply List.filter_congr
  intro member _
  unfold isPending
  by_cases same : member = call
  · subst same
    simp [isCall, notReturned, stays]
  · rw [calls_setPhase_of_ne same]

omit [DecidableEq Key] in
theorem isReleased_setPhase
    (isCall : state.calls call = some ⟨key, phase⟩)
    (notReturned : phase.isReturned = false)
    {released : ℕ}
    (isReleased : state.isReleased released = true) :
    (state.setPhase call key later).isReleased released = true := by
  have isOther : released ≠ call := by
    rintro rfl
    simp [ApprovalPreparationLocks.isReleased, isCall, notReturned]
      at isReleased
  unfold ApprovalPreparationLocks.isReleased at isReleased ⊢
  rw [calls_setPhase_of_ne isOther]
  exact isReleased

/-- The first call of a key is not behind another one. -/
theorem ne_of_mem_tail
    (isFirst : (state.pending key).head? = some call)
    {behind : ℕ}
    (member : behind ∈ (state.pending key).tail) :
    behind ≠ call := by
  obtain ⟨rest, isPending⟩ := List.head?_eq_some_iff.mp isFirst
  have distinct : (state.pending key).Nodup := pending_nodup
  rw [isPending, List.nodup_cons] at distinct
  rw [isPending] at member
  rintro rfl
  exact distinct.1 member

theorem Chained.known_setPhase
    (chained : Chained state)
    (isCall : state.calls call = some ⟨key, phase⟩)
    (found : ℕ)
    (isFound :
      ((state.setPhase call key later).calls found).isSome = true) :
    found < state.count := by
  by_cases same : found = call
  · subst same
    exact chained.known found (by rw [isCall]; rfl)
  · rw [calls_setPhase_of_ne same] at isFound
    exact chained.known found isFound

/-- Calls behind the first one wait as before when the first one goes on. -/
theorem Chained.waits_setPhase
    (chained : Chained state)
    (isCall : state.calls call = some ⟨key, phase⟩)
    (isFirst : (state.pending key).head? = some call)
    (other : Key) :
    (state.pending other).IsChain fun previous waiting =>
      (state.setPhase call key later).calls waiting =
        some ⟨other, .waiting previous⟩ := by
  apply (chained.waits other).imp_of_mem_tail_imp
  intro previous waiting _ isBehind isWaiting
  have isOther : waiting ≠ call := by
    by_cases same : other = key
    · subst same
      exact ne_of_mem_tail isFirst isBehind
    · rintro rfl
      rw [isCall, Option.some.injEq, LockCall.mk.injEq] at isWaiting
      exact same isWaiting.1.symm
  rw [calls_setPhase_of_ne isOther]
  exact isWaiting

/-- The chain is kept when a call goes on and its work is not answered. -/
theorem Chained.setPhase
    (chained : Chained state)
    (isCall : state.calls call = some ⟨key, phase⟩)
    (notReturned : phase.isReturned = false)
    (isFirst : (state.pending key).head? = some call)
    (stays : later.isReturned = false)
    (goesOn : later.isWaiting = false) :
    Chained (state.setPhase call key later) := by
  constructor
  · exact chained.known_setPhase isCall
  · intro other
    rw [pending_setPhase isCall notReturned stays]
    exact chained.tail other
  · intro other
    rw [pending_setPhase isCall notReturned stays]
    exact chained.waits_setPhase isCall isFirst other
  · intro other found previous isHead isWaiting
    rw [pending_setPhase isCall notReturned stays] at isHead
    have isOther : found ≠ call := by
      rintro rfl
      rw [calls_setPhase_self, Option.some.injEq, LockCall.mk.injEq]
        at isWaiting
      rw [isWaiting.2] at goesOn
      cases goesOn
    rw [calls_setPhase_of_ne isOther] at isWaiting
    exact
      isReleased_setPhase isCall notReturned
        (chained.first other found previous isHead isWaiting)

/-- Only the call that is answered is no longer pending. -/
theorem pending_leaveCall :
    (state.leaveCall call key outcome).pending other =
      (state.pending other).filter (· ≠ call) := by
  unfold pending
  rw [List.filter_filter]
  apply List.filter_congr
  intro member _
  by_cases same : member = call
  · subst same
    simp [isPending, leaveCall, LockPhase.isReturned]
  · simp only [ne_eq, same, not_false_eq_true, decide_true,
      Bool.true_and]
    unfold isPending leaveCall
    rw [calls_setPhase_of_ne same]

/-- The calls of the key move up. -/
theorem pending_leaveCall_self
    (isFirst : (state.pending key).head? = some call) :
    (state.leaveCall call key outcome).pending key =
      (state.pending key).tail := by
  have behind :
      ∀ member ∈ (state.pending key).tail, member ≠ call :=
    fun _ member => ne_of_mem_tail isFirst member
  obtain ⟨rest, isPending⟩ := List.head?_eq_some_iff.mp isFirst
  rw [isPending, List.tail_cons] at behind
  rw [pending_leaveCall, isPending, List.tail_cons,
    List.filter_cons_of_neg (by simp), List.filter_eq_self]
  intro member isMember
  exact decide_eq_true (behind member isMember)

/-- The calls of other keys stay where they are. -/
theorem Chained.pending_leaveCall_of_ne
    (chained : Chained state)
    (isCall : state.calls call = some ⟨key, phase⟩)
    (isOther : other ≠ key) :
    (state.leaveCall call key outcome).pending other =
      state.pending other := by
  rw [pending_leaveCall, List.filter_eq_self]
  intro member isMember
  obtain ⟨found, isFound, _⟩ := chained.mem_pending.mp isMember
  apply decide_eq_true
  rintro rfl
  rw [isCall, Option.some.injEq, LockCall.mk.injEq] at isFound
  exact isOther isFound.1.symm

/-- The chain is kept when the first call of a key is answered. -/
theorem Chained.leaveCall
    (chained : Chained state)
    (isCall : state.calls call = some ⟨key, phase⟩)
    (notReturned : phase.isReturned = false)
    (isFirst : (state.pending key).head? = some call) :
    Chained (state.leaveCall call key outcome) := by
  obtain ⟨rest, isPending⟩ := List.head?_eq_some_iff.mp isFirst
  have isTail : (state.pending key).tail = rest := by
    rw [isPending, List.tail_cons]
  have isAnswered :
      (state.leaveCall call key outcome).isReleased call = true := by
    simp [isReleased, ApprovalPreparationLocks.leaveCall,
      LockPhase.isReturned]
  constructor
  · exact chained.known_setPhase isCall
  · intro other
    have known := chained.tail key
    have distinct : (state.pending key).Nodup := pending_nodup
    rw [isPending] at known distinct
    by_cases same : other = key
    · subst same
      rw [pending_leaveCall_self isFirst, isTail]
      rcases rest with _ | ⟨second, rest⟩
      · simp [ApprovalPreparationLocks.leaveCall, known]
      · have notLast : (second :: rest).getLast? ≠ some call := by
          intro isLast
          exact
            (List.nodup_cons.mp distinct).1 (List.mem_of_getLast? isLast)
        rw [List.getLast?_cons_cons] at known
        simp [ApprovalPreparationLocks.leaveCall, known, notLast]
    · rw [chained.pending_leaveCall_of_ne isCall same,
        ← chained.tail other]
      unfold ApprovalPreparationLocks.leaveCall
      dsimp only
      split_ifs
      · exact Function.update_of_ne same ..
      · rfl
  · intro other
    have waits :=
      @Chained.waits_setPhase _ _ _ _ _ _ _ _ (.returned outcome) chained
        isCall isFirst other
    by_cases same : other = key
    · subst same
      rw [pending_leaveCall_self isFirst]
      exact waits.tail
    · rw [chained.pending_leaveCall_of_ne isCall same]
      exact waits
  · intro other found previous isHead isWaiting
    have isOther : found ≠ call := by
      rintro rfl
      simp [ApprovalPreparationLocks.leaveCall] at isWaiting
    have wasWaiting :
        state.calls found = some ⟨other, .waiting previous⟩ := by
      rw [← isWaiting]
      exact (calls_setPhase_of_ne isOther).symm
    by_cases same : other = key
    · subst same
      rw [pending_leaveCall_self isFirst, isTail] at isHead
      have waits := chained.waits other
      obtain ⟨later, rfl⟩ := List.head?_eq_some_iff.mp isHead
      rw [isPending, List.isChain_cons_cons] at waits
      rw [waits.1, Option.some.injEq, LockCall.mk.injEq,
        LockPhase.waiting.injEq] at wasWaiting
      rw [← wasWaiting.2]
      exact isAnswered
    · rw [chained.pending_leaveCall_of_ne isCall same] at isHead
      exact
        isReleased_setPhase isCall notReturned
          (chained.first other found previous isHead wasWaiting)

/-! ## A call that arrives -/

/-- A call that arrives leaves the earlier ones as they are. -/
theorem calls_enterCall
    {earlier : ℕ}
    (isEarlier : earlier < state.count) :
    (state.enterCall key).calls earlier = state.calls earlier :=
  calls_setPhase_of_ne (Nat.ne_of_lt isEarlier)

/-- A call that arrives is the last pending one of its key. -/
theorem pending_enterCall :
    (state.enterCall key).pending other =
      if key = other then state.pending other ++ [state.count]
      else state.pending other := by
  have areEarlier :
      (List.range state.count).filter
          ((state.enterCall key).isPending other) =
        state.pending other := by
    apply List.filter_congr
    intro member isMember
    unfold isPending
    rw [calls_enterCall (List.mem_range.mp isMember)]
  have isLast :
      (state.enterCall key).isPending other state.count =
        decide (key = other) := by
    simp [isPending, enterCall]
  have isCount : (state.enterCall key).count = state.count + 1 := rfl
  rw [pending, isCount, List.range_succ, List.filter_append, areEarlier]
  by_cases same : key = other
  · subst same
    simp [isLast]
  · simp [isLast, same]

/-- The chain is kept when a call arrives. -/
theorem Chained.enterCall (chained : Chained state) :
    Chained (state.enterCall key) := by
  have areEarlier :
      ∀ {other member}, member ∈ state.pending other →
        (state.enterCall key).calls member = state.calls member := by
    intro other member isMember
    have isEarlier : member < state.count :=
      List.mem_range.mp (List.mem_filter.mp isMember).1
    exact calls_enterCall isEarlier
  constructor
  · intro found isFound
    by_cases same : found = state.count
    · subst same
      exact Nat.lt_succ_self _
    · unfold ApprovalPreparationLocks.enterCall at isFound
      rw [calls_setPhase_of_ne same] at isFound
      exact Nat.lt_succ_of_lt (chained.known found isFound)
  · intro other
    rw [pending_enterCall]
    by_cases same : key = other
    · subst same
      simp [ApprovalPreparationLocks.enterCall]
    · simp [ApprovalPreparationLocks.enterCall, same, Ne.symm same,
        chained.tail other]
  · intro other
    have waits :
        (state.pending other).IsChain fun previous waiting =>
          (state.enterCall key).calls waiting =
            some ⟨other, .waiting previous⟩ := by
      apply (chained.waits other).imp_of_mem_imp
      intro previous waiting _ isMember isWaiting
      rw [areEarlier isMember]
      exact isWaiting
    rw [pending_enterCall]
    split_ifs with same
    · subst same
      apply waits.append (.singleton _)
      intro last isLast waiting isArrived
      obtain rfl := Option.some.inj isArrived
      rw [← chained.tail key, Option.mem_def] at isLast
      simp [ApprovalPreparationLocks.enterCall, isLast,
        LockPhase.afterPrevious]
    · exact waits
  · intro other found previous isHead isWaiting
    have isOld : found ∈ state.pending other →
        (state.pending other).head? = some found →
        (state.enterCall key).isReleased previous = true := by
      intro isMember wasHead
      rw [areEarlier isMember] at isWaiting
      have released :=
        chained.first other found previous wasHead isWaiting
      have isKnown : (state.calls previous).isSome = true := by
        unfold isReleased at released
        rcases isPrevious : state.calls previous with _ | earlier
        · simp [isPrevious] at released
        · rfl
      unfold isReleased
      rw [calls_enterCall (chained.known previous isKnown)]
      exact released
    rw [pending_enterCall] at isHead
    split_ifs at isHead with same
    · subst same
      rcases isPending : state.pending key with _ | ⟨first, rest⟩
      · have isFree := chained.tail key
        rw [isPending, List.nil_append] at isHead
        rw [isPending] at isFree
        obtain rfl := Option.some.inj isHead
        simp [ApprovalPreparationLocks.enterCall, isFree,
          LockPhase.afterPrevious] at isWaiting
      · rw [isPending, List.cons_append] at isHead
        obtain rfl := Option.some.inj isHead
        exact isOld (by simp [isPending]) (by simp [isPending])
    · exact isOld (List.mem_of_head? isHead) isHead

/-! ## Whole runs -/

theorem chained_start :
    Chained (start : ApprovalPreparationLocks Key Value Error) := by
  constructor
  · intro call isFound
    cases isFound
  · intro key
    rfl
  · intro key
    exact .nil
  · intro key call previous isHead
    cases isHead

/-- A call that goes on is the first pending one of its key. -/
theorem Chained.first_of_resume
    (chained : Chained state)
    {previous : ℕ}
    (isCall : state.calls call = some ⟨key, .waiting previous⟩)
    (released : state.isReleased previous = true) :
    (state.pending key).head? = some call := by
  apply chained.head_of_ready isCall rfl
  intro found isFound
  obtain rfl := LockPhase.waiting.inj isFound
  exact released

theorem Chained.first_of_running
    (chained : Chained state)
    (isCall : state.calls call = some ⟨key, .running⟩) :
    (state.pending key).head? = some call := by
  apply chained.head_of_ready isCall rfl
  intro previous isWaiting
  cases isWaiting

theorem Chained.first_of_settled
    (chained : Chained state)
    (isCall : state.calls call = some ⟨key, .settled outcome⟩) :
    (state.pending key).head? = some call := by
  apply chained.head_of_ready isCall rfl
  intro previous isWaiting
  cases isWaiting

/-- Every event keeps the chain. -/
theorem Chained.step
    (chained : Chained state)
    (stepped : state.step event = some next) :
    Chained next := by
  cases event with
  | call key =>
      obtain rfl := Option.some.inj stepped
      exact chained.enterCall
  | resume call =>
      obtain ⟨key, previous, isCall, released, rfl⟩ :=
        step_resume.mp stepped
      exact
        (chained.setPhase isCall rfl
          (chained.first_of_resume isCall released) rfl rfl).withLog _
  | settle call outcome =>
      obtain ⟨key, isCall, rfl⟩ := step_settle.mp stepped
      exact
        (chained.setPhase isCall rfl (chained.first_of_running isCall) rfl
          rfl).withLog _
  | finish call =>
      obtain ⟨key, outcome, isCall, rfl⟩ := step_finish.mp stepped
      exact
        chained.leaveCall isCall rfl (chained.first_of_settled isCall)

/-- What holds at the start and after every event holds after a run. -/
theorem run_invariant
    (holds : ApprovalPreparationLocks Key Value Error → Prop)
    (kept :
      ∀ before event after,
        holds before →
        before.step event = some after →
        holds after)
    (atStart : holds state)
    {events : List (LockEvent Key Value Error)}
    (ran : state.run events = some next) :
    holds next := by
  induction events generalizing state with
  | nil =>
      obtain rfl := Option.some.inj ran
      exact atStart
  | cons event events inductionHypothesis =>
      obtain ⟨middle, stepped, ranRest⟩ := Option.bind_eq_some_iff.mp ran
      exact
        inductionHypothesis (kept state event middle atStart stepped)
          ranRest

end ApprovalPreparationLocks

end Sparkz
