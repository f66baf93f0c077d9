import Mathlib.Algebra.BigOperators.Group.Finset.Basic
import Sparkz.ApprovalPreparationLock
import Sparkz.FairLock

namespace Sparkz

/-!
# Fairness of the lock of approval preparations

What is seen of the calls of a key is a run of a fair lock.  With what the chain
of promises says of where each call is, this makes the lock a fair mutex that
keeps nothing for a key without pending calls.
-/

/-- The events that a call has before it. -/
def LockPhase.remaining {Value Error : Type} : LockPhase Value Error → ℕ
  | .waiting _ => 3
  | .running => 2
  | .settled _ => 1
  | .returned _ => 0

/-- A call arrives. -/
def LockEvent.isCall {Key Value Error : Type} :
    LockEvent Key Value Error → Bool
  | .call _ => true
  | _ => false

namespace ApprovalPreparationLocks

variable {Key Value Error : Type} [DecidableEq Key]
  {state next : ApprovalPreparationLocks Key Value Error}
  {event : LockEvent Key Value Error}
  {key other : Key} {call : ℕ} {outcome : Except Error Value}
  {phase later : LockPhase Value Error}

/-! ## The fair lock of each key -/

def hasBegun
    (state : ApprovalPreparationLocks Key Value Error)
    (call : ℕ) :
    Bool :=
  (state.calls call).any fun found => !found.phase.isWaiting

/-- The lock that the calls of a key see. -/
def lockAt
    (state : ApprovalPreparationLocks Key Value Error)
    (key : Key) :
    FairLock ℕ where
  queue := state.pending key
  inside := (state.pending key).head?.any state.hasBegun

/-- What an entry says of the lock of its key. -/
def action? :
    LockEntry Key Value Error → Option (Key × FairLock.Action ℕ)
  | .called key call => some (key, .join call)
  | .began key call => some (key, .enter call)
  | .ended .. => none
  | .answered key call _ => some (key, .leave call)

/-- The log of a run is a run of the fair locks. -/
def Refines (state : ApprovalPreparationLocks Key Value Error) : Prop :=
  FairLock.runAt (fun _ => FairLock.empty)
      (state.log.filterMap action?) =
    some state.lockAt

omit [DecidableEq Key] in
theorem hasBegun_setPhase_of_ne
    {different : ℕ}
    (isOther : different ≠ call) :
    (state.setPhase call key later).hasBegun different =
      state.hasBegun different := by
  unfold hasBegun
  rw [calls_setPhase_of_ne isOther]

/-- The first pending call of another key is another call. -/
theorem Chained.hasBegun_setPhase_first
    (chained : Chained state)
    (isCall : state.calls call = some ⟨key, phase⟩)
    (isOther : other ≠ key) :
    (state.pending other).head?.any
        (state.setPhase call key later).hasBegun =
      (state.pending other).head?.any state.hasBegun := by
  rcases isHead : (state.pending other).head? with _ | first
  · rfl
  · obtain ⟨found, isFound, _⟩ :=
      chained.mem_pending.mp (List.mem_of_head? isHead)
    have isDifferent : first ≠ call := by
      rintro rfl
      rw [isCall, Option.some.injEq, LockCall.mk.injEq] at isFound
      exact isOther isFound.1.symm
    simp only [Option.any_some, hasBegun_setPhase_of_ne isDifferent]

/-- A call that goes on is inside from then on. -/
theorem Chained.lockAt_setPhase
    (chained : Chained state)
    (later : LockPhase Value Error)
    (isCall : state.calls call = some ⟨key, phase⟩)
    (notReturned : phase.isReturned = false)
    (isFirst : (state.pending key).head? = some call)
    (stays : later.isReturned = false)
    (goesOn : later.isWaiting = false) :
    (state.setPhase call key later).lockAt =
      Function.update state.lockAt key ⟨state.pending key, true⟩ := by
  funext other
  by_cases same : other = key
  · subst same
    simp [lockAt, pending_setPhase isCall notReturned stays, isFirst,
      hasBegun, goesOn]
  · rw [Function.update_of_ne same]
    unfold lockAt
    rw [pending_setPhase isCall notReturned stays,
      chained.hasBegun_setPhase_first isCall same]

/-- A call that is answered leaves, and the next one is not inside yet. -/
theorem Chained.lockAt_leaveCall
    (chained : Chained state)
    (isCall : state.calls call = some ⟨key, phase⟩)
    (isFirst : (state.pending key).head? = some call) :
    (state.leaveCall call key outcome).lockAt =
      Function.update state.lockAt key
        ⟨(state.pending key).tail, false⟩ := by
  funext other
  by_cases same : other = key
  · subst same
    have waits := chained.waits other
    have behind :
        ∀ member ∈ (state.pending other).tail, member ≠ call :=
      fun _ member => ne_of_mem_tail isFirst member
    rw [Function.update_self]
    unfold lockAt
    rw [pending_leaveCall_self isFirst]
    obtain ⟨rest, isPending⟩ := List.head?_eq_some_iff.mp isFirst
    rw [isPending, List.tail_cons] at behind ⊢
    rcases rest with _ | ⟨second, rest⟩
    · rfl
    · rw [isPending, List.isChain_cons_cons] at waits
      have isOther : second ≠ call := behind second List.mem_cons_self
      have notBegun :
          (state.leaveCall call other outcome).hasBegun second =
            false := by
        unfold hasBegun ApprovalPreparationLocks.leaveCall
        rw [calls_setPhase_of_ne isOther, waits.1]
        rfl
      simp [notBegun]
  · rw [Function.update_of_ne same]
    unfold lockAt
    rw [chained.pending_leaveCall_of_ne isCall same]
    congr 1
    exact chained.hasBegun_setPhase_first isCall same

theorem hasBegun_enterCall
    {earlier : ℕ}
    (isMember : earlier ∈ state.pending other) :
    (state.enterCall key).hasBegun earlier = state.hasBegun earlier := by
  unfold hasBegun
  rw [calls_enterCall
    (List.mem_range.mp (List.mem_filter.mp isMember).1)]

/-- A call that arrives is inside when no other call of its key is pending. -/
theorem Chained.lockAt_enterCall
    (chained : Chained state) :
    (state.enterCall key).lockAt =
      Function.update state.lockAt key
        ⟨state.pending key ++ [state.count],
          (state.locks key).isNone || (state.lockAt key).inside⟩ := by
  funext other
  by_cases same : other = key
  · subst same
    have isTail := chained.tail other
    rw [Function.update_self]
    unfold lockAt
    rw [pending_enterCall, if_pos rfl]
    rcases isPending : state.pending other with _ | ⟨first, rest⟩
    · rw [isPending] at isTail
      simp [isTail, hasBegun, ApprovalPreparationLocks.enterCall,
        LockPhase.afterPrevious, LockPhase.isWaiting]
    · have isMember : first ∈ state.pending other := by
        simp [isPending]
      rw [isPending] at isTail
      simp [isTail, hasBegun_enterCall isMember]
  · rw [Function.update_of_ne same]
    unfold lockAt
    rw [pending_enterCall, if_neg (Ne.symm same)]
    rcases isHead : (state.pending other).head? with _ | first
    · rfl
    · simp [hasBegun_enterCall (List.mem_of_head? isHead)]

/-- The log of a run is a run of the fair locks, event by event. -/
theorem Refines.step
    (chained : Chained state)
    (refines : Refines state)
    (stepped : state.step event = some next) :
    Refines next := by
  unfold Refines at refines ⊢
  cases event with
  | call key =>
      obtain rfl := Option.some.inj stepped
      have isTail := chained.tail key
      have isJoined :
          FairLock.stepAt state.lockAt (key, .join state.count) =
            some
              (Function.update state.lockAt key
                ⟨state.pending key ++ [state.count],
                  (state.lockAt key).inside⟩) :=
        rfl
      rw [chained.lockAt_enterCall]
      simp only [enterCall, List.filterMap_append, FairLock.runAt_append,
        refines, Option.bind_some, List.filterMap_cons, action?,
        FairLock.runAt_cons, isJoined]
      rcases isPending : state.pending key with _ | ⟨first, rest⟩
      · -- Nobody is pending, so the call enters at once.
        have isFree : (state.lockAt key).inside = false := by
          simp [lockAt, isPending]
        rw [isPending] at isTail
        simp only [isTail, List.getLast?_nil, Option.isSome_none,
          Bool.false_eq_true, if_false, List.filterMap_cons, action?,
          FairLock.runAt_cons, isFree, Option.isNone_none]
        simp [FairLock.stepAt, FairLock.step, FairLock.runAt]
      · have isSaved : (state.locks key).isSome = true := by
          rw [isTail, isPending]
          simp
        have notFree : (state.locks key).isNone = false := by
          simpa [Option.isSome_iff_ne_none] using isSaved
        simp [isSaved, notFree, FairLock.runAt]
  | resume call =>
      obtain ⟨key, previous, isCall, released, rfl⟩ :=
        step_resume.mp stepped
      have isFirst := chained.first_of_resume isCall released
      have isLock :=
        chained.lockAt_setPhase .running isCall rfl isFirst rfl rfl
      have isFree : (state.lockAt key).inside = false := by
        simp [lockAt, isFirst, hasBegun, isCall, LockPhase.isWaiting]
      have isEntered :
          FairLock.stepAt state.lockAt (key, .enter call) =
            some
              (Function.update state.lockAt key
                ⟨state.pending key, true⟩) := by
        simp [FairLock.stepAt, FairLock.step, isFree]
        simp [lockAt, isFirst]
      rw [List.filterMap_append, FairLock.runAt_append, refines,
        Option.bind_some]
      simp only [List.filterMap_cons, List.filterMap_nil, action?,
        FairLock.runAt_cons, isEntered, Option.bind_some]
      exact congrArg some isLock.symm
  | settle call outcome =>
      obtain ⟨key, isCall, rfl⟩ := step_settle.mp stepped
      have isFirst := chained.first_of_running isCall
      have isLock :=
        chained.lockAt_setPhase (.settled outcome) isCall rfl isFirst rfl
          rfl
      have isSame :
          Function.update state.lockAt key ⟨state.pending key, true⟩ =
            state.lockAt := by
        rw [Function.update_eq_self_iff]
        simp [lockAt, isFirst, hasBegun, isCall, LockPhase.isWaiting]
      rw [List.filterMap_append]
      simp only [List.filterMap_cons, List.filterMap_nil, action?,
        List.append_nil, refines]
      exact congrArg some (isLock.trans isSame).symm
  | finish call =>
      obtain ⟨key, outcome, isCall, rfl⟩ := step_finish.mp stepped
      have isFirst := chained.first_of_settled isCall
      have isInside : (state.lockAt key).inside = true := by
        simp [lockAt, isFirst, hasBegun, isCall, LockPhase.isWaiting]
      have isLeft :
          FairLock.stepAt state.lockAt (key, .leave call) =
            some
              (Function.update state.lockAt key
                ⟨(state.pending key).tail, false⟩) := by
        simp only [FairLock.stepAt, FairLock.step, isInside]
        simp [lockAt, isFirst]
      rw [chained.lockAt_leaveCall isCall isFirst]
      simp only [leaveCall, List.filterMap_append, FairLock.runAt_append,
        refines, Option.bind_some, List.filterMap_cons,
        List.filterMap_nil, action?, FairLock.runAt_cons, isLeft]
      rfl

/-! ## The order of the callbacks -/

/-- The calls of a key, in the order of their arrival. -/
def calledAt (key : Key) (log : List (LockEntry Key Value Error)) :
    List ℕ :=
  log.filterMap fun
    | .called other call => if other = key then some call else none
    | _ => none

/-- The calls of a key whose callbacks were called, in their order. -/
def begunAt (key : Key) (log : List (LockEntry Key Value Error)) :
    List ℕ :=
  log.filterMap fun
    | .began other call => if other = key then some call else none
    | _ => none

/-- The calls of a key that were answered, in their order. -/
def answeredAt (key : Key) (log : List (LockEntry Key Value Error)) :
    List ℕ :=
  log.filterMap fun
    | .answered other call _ => if other = key then some call else none
    | _ => none

/-- What a log says of a key is what its lock has seen. -/
theorem actionsAt_log (key : Key)
    (log : List (LockEntry Key Value Error)) :
    FairLock.joined (FairLock.actionsAt key (log.filterMap action?)) =
        calledAt key log ∧
      FairLock.entered (FairLock.actionsAt key (log.filterMap action?)) =
        begunAt key log ∧
      FairLock.left (FairLock.actionsAt key (log.filterMap action?)) =
        answeredAt key log := by
  induction log with
  | nil =>
      exact ⟨rfl, rfl, rfl⟩
  | cons entry log inductionHypothesis =>
      simp only [calledAt, begunAt, answeredAt, FairLock.joined,
        FairLock.entered, FairLock.left, FairLock.actionsAt]
        at inductionHypothesis ⊢
      obtain ⟨areCalled, haveBegun, areAnswered⟩ := inductionHypothesis
      rcases entry with
        ⟨other, call⟩ | ⟨other, call⟩ | ⟨other, call, outcome⟩ |
          ⟨other, call, outcome⟩
      case ended =>
        exact ⟨areCalled, haveBegun, areAnswered⟩
      all_goals
        by_cases same : other = key
        · simp only [List.filterMap_cons, action?, List.filter_cons, same,
            decide_true, if_true, List.map_cons, areCalled, haveBegun,
            areAnswered, and_self]
        · simp only [List.filterMap_cons, action?, List.filter_cons, same,
            decide_false, Bool.false_eq_true, if_false, areCalled,
            haveBegun, areAnswered, and_self]

/-- Where the calls of a key are after a run. -/
theorem Refines.accounts (refines : Refines state) (key : Key) :
    calledAt key state.log =
        answeredAt key state.log ++ state.pending key ∧
      begunAt key state.log =
        answeredAt key state.log ++ (state.lockAt key).holder := by
  obtain ⟨areCalled, haveBegun, areAnswered⟩ :=
    actionsAt_log key state.log
  have accounts :=
    FairLock.accounts_of_run (FairLock.run_of_runAt refines key)
  have queued := accounts.queued
  have held := accounts.held
  rw [areCalled, areAnswered] at queued
  rw [haveBegun, areAnswered] at held
  exact ⟨queued, held⟩

/-- Callbacks are called in the order in which their calls have arrived. -/
theorem Refines.begun_prefix (refines : Refines state) (key : Key) :
    begunAt key state.log <+: calledAt key state.log := by
  obtain ⟨areCalled, haveBegun, _⟩ := actionsAt_log key state.log
  rw [← areCalled, ← haveBegun]
  exact
    FairLock.entered_prefix_joined (FairLock.run_of_runAt refines key)

/-! ## The numbers of the calls -/

/-- Calls are numbered in the order of their arrival. -/
def Numbered (state : ApprovalPreparationLocks Key Value Error) : Prop :=
  ∀ key, (calledAt key state.log).Sublist (List.range state.count)

theorem Numbered.step
    (numbered : Numbered state)
    (stepped : state.step event = some next) :
    Numbered next := by
  intro key
  have areNumbered := numbered key
  cases event with
  | call other =>
      obtain rfl := Option.some.inj stepped
      have isAdded :
          calledAt key (state.enterCall other).log =
            calledAt key state.log ++
              if other = key then [state.count] else [] := by
        unfold calledAt enterCall
        rw [List.filterMap_append]
        congr 1
        split_ifs <;> simp [*]
      have isCount : (state.enterCall other).count = state.count + 1 := rfl
      rw [isAdded, isCount, List.range_succ]
      apply areNumbered.append
      split_ifs
      · exact .refl _
      · exact List.nil_sublist _
  | resume call =>
      obtain ⟨_, _, _, _, rfl⟩ := step_resume.mp stepped
      simpa [calledAt, setPhase] using areNumbered
  | settle call outcome =>
      obtain ⟨_, _, rfl⟩ := step_settle.mp stepped
      simpa [calledAt, setPhase] using areNumbered
  | finish call =>
      obtain ⟨_, _, _, rfl⟩ := step_finish.mp stepped
      simpa [calledAt, leaveCall, setPhase] using areNumbered

/-- Every callback is called at most once. -/
theorem Numbered.nodup (numbered : Numbered state) (key : Key) :
    (calledAt key state.log).Nodup :=
  List.nodup_range.sublist (numbered key)

/-! ## The outcome of each call -/

/-- What was seen of the outcome of a call. -/
structure Recorded (state : ApprovalPreparationLocks Key Value Error) :
    Prop where
  settled :
    ∀ key call outcome,
      state.calls call = some ⟨key, .settled outcome⟩ →
      .ended key call outcome ∈ state.log
  answered :
    ∀ key call outcome,
      .answered key call outcome ∈ state.log →
      .ended key call outcome ∈ state.log
  ended :
    ∀ key call outcome,
      .ended key call outcome ∈ state.log →
      state.calls call = some ⟨key, .settled outcome⟩ ∨
        state.calls call = some ⟨key, .returned outcome⟩

omit [DecidableEq Key] in
/-- A call has one outcome. -/
theorem Recorded.outcome_unique
    (recorded : Recorded state)
    {first second : Except Error Value}
    (isFirst : .ended key call first ∈ state.log)
    (isSecond : .ended other call second ∈ state.log) :
    first = second := by
  rcases recorded.ended key call first isFirst with isCall | isCall
  all_goals
    rcases recorded.ended other call second isSecond with same | same
    all_goals
      rw [isCall, Option.some.injEq, LockCall.mk.injEq] at same
      cases same.2
      try rfl

omit [DecidableEq Key] in
theorem recorded_start :
    Recorded (start : ApprovalPreparationLocks Key Value Error) := by
  constructor
  · intro key call outcome isSettled
    cases isSettled
  · intro key call outcome isAnswered
    cases isAnswered
  · intro key call outcome isEnded
    cases isEnded

omit [DecidableEq Key] in
/-- What is recorded stays so when what is new about one call is. -/
theorem Recorded.goesOn
    (recorded : Recorded state)
    (call : ℕ)
    {entries : List (LockEntry Key Value Error)}
    (isLog : next.log = state.log ++ entries)
    (others :
      ∀ different,
        different ≠ call → next.calls different = state.calls different)
    (newSettled :
      ∀ key outcome,
        next.calls call = some ⟨key, .settled outcome⟩ →
        .ended key call outcome ∈ next.log)
    (newAnswered :
      ∀ key different outcome,
        .answered key different outcome ∈ entries →
        .ended key different outcome ∈ next.log)
    (newEnded :
      ∀ key different outcome,
        .ended key different outcome ∈ entries → different = call)
    (isEnded :
      ∀ key outcome,
        .ended key call outcome ∈ next.log →
        next.calls call = some ⟨key, .settled outcome⟩ ∨
          next.calls call = some ⟨key, .returned outcome⟩) :
    Recorded next := by
  constructor
  · intro key different outcome isSettled
    by_cases same : different = call
    · subst same
      exact newSettled key outcome isSettled
    · rw [others different same] at isSettled
      rw [isLog]
      exact
        List.mem_append_left _
          (recorded.settled key different outcome isSettled)
  · intro key different outcome isAnswered
    rw [isLog] at isAnswered
    rcases List.mem_append.mp isAnswered with isOld | isNew
    · rw [isLog]
      exact
        List.mem_append_left _
          (recorded.answered key different outcome isOld)
    · exact newAnswered key different outcome isNew
  · intro key different outcome wasEnded
    by_cases same : different = call
    · subst same
      exact isEnded key outcome wasEnded
    · rw [isLog] at wasEnded
      rcases List.mem_append.mp wasEnded with isOld | isNew
      · rw [others different same]
        exact recorded.ended key different outcome isOld
      · exact absurd (newEnded key different outcome isNew) same

theorem Recorded.step
    (chained : Chained state)
    (recorded : Recorded state)
    (stepped : state.step event = some next) :
    Recorded next := by
  cases event with
  | call key =>
      obtain rfl := Option.some.inj stepped
      have saysNothing :
          ∀ (other : Key) different (outcome : Except Error Value),
            .ended other different outcome ∈ (state.enterCall key).log →
            .ended other different outcome ∈ state.log := by
        intro other different outcome isEnded
        unfold enterCall at isEnded
        dsimp only at isEnded
        split_ifs at isEnded <;> simpa using isEnded
      refine
        recorded.goesOn state.count rfl
          (fun different isOther => calls_setPhase_of_ne isOther) ?_ ?_ ?_
          ?_
      · intro other outcome isSettled
        unfold enterCall at isSettled
        rcases isSaved : state.locks key with _ | previous
        all_goals
          simp [isSaved, LockPhase.afterPrevious] at isSettled
      · intro other different outcome isAnswered
        split_ifs at isAnswered <;> simp at isAnswered
      · intro other different outcome isEnded
        split_ifs at isEnded <;> simp at isEnded
      · intro other outcome isEnded
        have wasEnded := saysNothing other _ outcome isEnded
        have isKnown : (state.calls state.count).isSome = true := by
          rcases recorded.ended other _ outcome wasEnded with
            isCall | isCall
          all_goals
            rw [isCall]
            rfl
        exact absurd (chained.known _ isKnown) (Nat.lt_irrefl _)
  | resume call =>
      obtain ⟨key, previous, isCall, _, rfl⟩ := step_resume.mp stepped
      refine
        recorded.goesOn call rfl
          (fun different isOther => calls_setPhase_of_ne isOther) ?_ ?_ ?_
          ?_
      · intro other outcome isSettled
        simp at isSettled
      · intro other different outcome isAnswered
        simp at isAnswered
      · intro other different outcome isEnded
        simp at isEnded
      · intro other outcome isEnded
        have wasEnded : .ended other call outcome ∈ state.log := by
          simpa using isEnded
        simpa [isCall] using recorded.ended other call outcome wasEnded
  | settle call outcome =>
      obtain ⟨key, isCall, rfl⟩ := step_settle.mp stepped
      refine
        recorded.goesOn call rfl
          (fun different isOther => calls_setPhase_of_ne isOther) ?_ ?_ ?_
          ?_
      · intro other found isSettled
        simp at isSettled
        simp [isSettled]
      · intro other different found isAnswered
        simp at isAnswered
      · intro other different found isEnded
        simp at isEnded
        exact isEnded.2.1
      · intro other found isEnded
        rcases List.mem_append.mp isEnded with wasEnded | isNew
        · have impossible := recorded.ended other call found wasEnded
          simp [isCall] at impossible
        · simp at isNew
          simp [isNew]
  | finish call =>
      obtain ⟨key, outcome, isCall, rfl⟩ := step_finish.mp stepped
      refine
        recorded.goesOn call rfl
          (fun different isOther => calls_setPhase_of_ne isOther) ?_ ?_ ?_
          ?_
      · intro other found isSettled
        simp [leaveCall] at isSettled
      · intro other different found isAnswered
        simp at isAnswered
        obtain ⟨rfl, rfl, rfl⟩ := isAnswered
        exact
          List.mem_append_left _ (recorded.settled _ _ _ isCall)
      · intro other different found isEnded
        simp at isEnded
      · intro other found isEnded
        have wasEnded : .ended other call found ∈ state.log := by
          simpa [leaveCall] using isEnded
        simpa [isCall, leaveCall] using
          recorded.ended other call found wasEnded

/-! ## Calls wait for calls of their own key -/

/-- A call waits for an earlier call of its key. -/
def WaitsForOwnKey (state : ApprovalPreparationLocks Key Value Error) :
    Prop :=
  ∀ key call previous,
    state.calls call = some ⟨key, .waiting previous⟩ →
    previous < call ∧ ∃ phase, state.calls previous = some ⟨key, phase⟩

omit [DecidableEq Key] in
/-- Keys of calls stay, so calls go on waiting for calls of their key. -/
theorem WaitsForOwnKey.setPhase
    (waitsForOwnKey : WaitsForOwnKey state)
    (isCall : state.calls call = some ⟨key, phase⟩)
    (goesOn : later.isWaiting = false) :
    WaitsForOwnKey (state.setPhase call key later) := by
  intro other waiting previous isWaiting
  have isOther : waiting ≠ call := by
    rintro rfl
    rw [calls_setPhase_self, Option.some.injEq, LockCall.mk.injEq]
      at isWaiting
    rw [isWaiting.2] at goesOn
    cases goesOn
  rw [calls_setPhase_of_ne isOther] at isWaiting
  obtain ⟨isEarlier, found, isPrevious⟩ :=
    waitsForOwnKey other waiting previous isWaiting
  refine ⟨isEarlier, ?_⟩
  by_cases same : previous = call
  · subst same
    rw [isCall, Option.some.injEq, LockCall.mk.injEq] at isPrevious
    obtain ⟨rfl, _⟩ := isPrevious
    exact ⟨later, calls_setPhase_self⟩
  · rw [calls_setPhase_of_ne same]
    exact ⟨found, isPrevious⟩

theorem WaitsForOwnKey.step
    (chained : Chained state)
    (waitsForOwnKey : WaitsForOwnKey state)
    (stepped : state.step event = some next) :
    WaitsForOwnKey next := by
  cases event with
  | call key =>
      obtain rfl := Option.some.inj stepped
      intro other waiting previous isWaiting
      by_cases isNew : waiting = state.count
      · subst isNew
        rcases isSaved : state.locks key with _ | saved
        · simp [enterCall, isSaved, LockPhase.afterPrevious] at isWaiting
        · simp only [enterCall, calls_setPhase_self, isSaved,
            LockPhase.afterPrevious, Option.some.injEq,
            LockCall.mk.injEq, LockPhase.waiting.injEq] at isWaiting
          obtain ⟨rfl, rfl⟩ := isWaiting
          have isTail := chained.tail key
          rw [isSaved] at isTail
          have isMember := List.mem_of_getLast? isTail.symm
          have isEarlier : saved < state.count :=
            List.mem_range.mp (List.mem_filter.mp isMember).1
          obtain ⟨found, isFound, _⟩ := chained.mem_pending.mp isMember
          refine ⟨isEarlier, found, ?_⟩
          rw [calls_enterCall isEarlier]
          exact isFound
      · unfold enterCall at isWaiting
        rw [calls_setPhase_of_ne isNew] at isWaiting
        obtain ⟨isEarlier, found, isPrevious⟩ :=
          waitsForOwnKey other waiting previous isWaiting
        have isKnown : previous < state.count :=
          chained.known previous (by rw [isPrevious]; rfl)
        refine ⟨isEarlier, found, ?_⟩
        rw [calls_enterCall isKnown]
        exact isPrevious
  | resume call =>
      obtain ⟨key, previous, isCall, _, rfl⟩ := step_resume.mp stepped
      exact waitsForOwnKey.setPhase isCall rfl
  | settle call outcome =>
      obtain ⟨key, isCall, rfl⟩ := step_settle.mp stepped
      exact waitsForOwnKey.setPhase isCall rfl
  | finish call =>
      obtain ⟨key, outcome, isCall, rfl⟩ := step_finish.mp stepped
      exact waitsForOwnKey.setPhase isCall rfl

/-! ## Every call is answered -/

/-- An event of a call of a key, other than its arrival. -/
def CanGoOn
    (state : ApprovalPreparationLocks Key Value Error)
    (call : ℕ) :
    Prop :=
  (∃ next, state.step (.resume call) = some next) ∨
    (∀ outcome, ∃ next, state.step (.settle call outcome) = some next) ∨
    ∃ next, state.step (.finish call) = some next

/-- Where a call of a key is pending, the first of them can go on. -/
theorem Chained.canGoOn
    (chained : Chained state)
    (isFirst : (state.pending key).head? = some call) :
    CanGoOn state call := by
  obtain ⟨phase, isCall, notReturned⟩ :=
    chained.mem_pending.mp (List.mem_of_head? isFirst)
  cases phase with
  | waiting previous =>
      have released := chained.first key call previous isFirst isCall
      exact
        .inl ⟨_, step_resume.mpr ⟨key, previous, isCall, released, rfl⟩⟩
  | running =>
      refine .inr (.inl fun outcome => ?_)
      exact ⟨_, step_settle.mpr ⟨key, isCall, rfl⟩⟩
  | settled outcome =>
      exact
        .inr (.inr ⟨_, step_finish.mpr ⟨key, outcome, isCall, rfl⟩⟩)
  | returned outcome =>
      cases notReturned

/-- The events that all the calls so far have before them. -/
def remaining (state : ApprovalPreparationLocks Key Value Error) : ℕ :=
  ∑ call ∈ Finset.range state.count,
    (state.calls call).elim 0 fun found => found.phase.remaining

omit [DecidableEq Key] in
/-- Going on changes what one call has before it. -/
theorem remaining_setPhase
    (isKnown : call < state.count)
    (isCall : state.calls call = some ⟨key, phase⟩) :
    (state.setPhase call key later).remaining + phase.remaining =
      state.remaining + later.remaining := by
  have isMember : call ∈ Finset.range state.count :=
    Finset.mem_range.mpr isKnown
  have others :
      ∑ different ∈ (Finset.range state.count).erase call,
          ((state.setPhase call key later).calls different).elim 0
            (fun found => found.phase.remaining) =
        ∑ different ∈ (Finset.range state.count).erase call,
          (state.calls different).elim 0
            fun found => found.phase.remaining := by
    apply Finset.sum_congr rfl
    intro different isOther
    rw [calls_setPhase_of_ne (Finset.ne_of_mem_erase isOther)]
  have isCount : (state.setPhase call key later).count = state.count :=
    rfl
  unfold remaining
  rw [isCount, ← Finset.sum_erase_add _ _ isMember,
    ← Finset.sum_erase_add (Finset.range state.count) _ isMember, others]
  simp only [calls_setPhase_self, isCall, Option.elim_some]
  omega

/-- An event that is no arrival is one event fewer. -/
theorem remaining_step
    (chained : Chained state)
    (notCall : event.isCall = false)
    (stepped : state.step event = some next) :
    next.remaining + 1 = state.remaining := by
  have known :
      ∀ {call found}, state.calls call = some found →
        call < state.count := by
    intro call found isCall
    exact chained.known call (by rw [isCall]; rfl)
  cases event with
  | call key =>
      cases notCall
  | resume call =>
      obtain ⟨key, previous, isCall, _, rfl⟩ := step_resume.mp stepped
      have isLess :=
        @remaining_setPhase _ _ _ _ _ _ _ .running (known isCall) isCall
      simp only [LockPhase.remaining] at isLess
      exact Nat.add_right_cancel (m := 2) isLess
  | settle call outcome =>
      obtain ⟨key, isCall, rfl⟩ := step_settle.mp stepped
      have isLess :=
        @remaining_setPhase _ _ _ _ _ _ _ (.settled outcome) (known isCall)
          isCall
      simp only [LockPhase.remaining] at isLess
      exact Nat.add_right_cancel (m := 1) isLess
  | finish call =>
      obtain ⟨key, outcome, isCall, rfl⟩ := step_finish.mp stepped
      exact
        @remaining_setPhase _ _ _ _ _ _ _ (.returned outcome)
          (known isCall) isCall

/-- A run without arrivals uses up the events that were before its calls. -/
theorem remaining_run
    (chained : Chained state)
    {events : List (LockEvent Key Value Error)}
    (noCalls : ∀ event ∈ events, event.isCall = false)
    (ran : state.run events = some next) :
    next.remaining + events.length = state.remaining := by
  induction events generalizing state with
  | nil =>
      obtain rfl := Option.some.inj ran
      rfl
  | cons event events inductionHypothesis =>
      obtain ⟨middle, stepped, ranRest⟩ := Option.bind_eq_some_iff.mp ran
      have first :=
        remaining_step chained (noCalls event List.mem_cons_self) stepped
      have rest :=
        inductionHypothesis (chained.step stepped)
          (fun later member =>
            noCalls later (List.mem_cons_of_mem _ member))
          ranRest
      rw [List.length_cons]
      omega

/-- Calls have events before them exactly while some are pending. -/
theorem Chained.remaining_eq_zero_iff (chained : Chained state) :
    state.remaining = 0 ↔ ∀ key, state.pending key = [] := by
  unfold remaining
  rw [Finset.sum_eq_zero_iff]
  constructor
  · intro noneRemains key
    rw [List.eq_nil_iff_forall_not_mem]
    intro call isMember
    obtain ⟨phase, isCall, notReturned⟩ := chained.mem_pending.mp isMember
    have isKnown : call ∈ Finset.range state.count :=
      Finset.mem_range.mpr (chained.known call (by rw [isCall]; rfl))
    have nothing := noneRemains call isKnown
    rw [isCall, Option.elim_some] at nothing
    cases phase <;> simp_all [LockPhase.remaining, LockPhase.isReturned]
  · intro nonePending call _
    rcases isCall : state.calls call with _ | ⟨key, phase⟩
    · rfl
    · have notMember : call ∉ state.pending key := by
        rw [nonePending key]
        exact List.not_mem_nil
      rw [chained.mem_pending] at notMember
      cases phase with
      | returned outcome => rfl
      | _ => exact absurd ⟨_, isCall, rfl⟩ notMember

/-! ## Keys do not see each other -/

/-- The key that an event belongs to. -/
def eventKey
    (state : ApprovalPreparationLocks Key Value Error) :
    LockEvent Key Value Error →
    Option Key
  | .call key => some key
  | .resume call | .settle call _ | .finish call =>
      (state.calls call).map LockCall.key

/-- Two states in which a key looks the same. -/
structure SameAt
    (key : Key)
    (state next : ApprovalPreparationLocks Key Value Error) :
    Prop where
  locks : next.locks key = state.locks key
  pending : next.pending key = state.pending key
  calls :
    ∀ call phase,
      next.calls call = some ⟨key, phase⟩ ↔
        state.calls call = some ⟨key, phase⟩

omit [DecidableEq Key] in
theorem calls_setPhase_other
    (isCall : state.calls call = some ⟨key, phase⟩)
    (isOther : key ≠ other)
    (different : ℕ)
    (found : LockPhase Value Error) :
    (state.setPhase call key later).calls different =
        some ⟨other, found⟩ ↔
      state.calls different = some ⟨other, found⟩ := by
  by_cases same : different = call
  · subst same
    simp [isCall, isOther]
  · rw [calls_setPhase_of_ne same]

/-- An event of one key leaves every other key as it is. -/
theorem sameAt_step
    (chained : Chained state)
    (stepped : state.step event = some next)
    (isOther : state.eventKey event ≠ some other) :
    SameAt other state next := by
  cases event with
  | call key =>
      obtain rfl := Option.some.inj stepped
      have notKey : key ≠ other := fun same =>
        isOther (congrArg some same)
      constructor
      · exact Function.update_of_ne (Ne.symm notKey) ..
      · rw [pending_enterCall, if_neg notKey]
      · intro call phase
        by_cases isNew : call = state.count
        · subst isNew
          have notKnown : state.calls state.count = none := by
            rcases isFound : state.calls state.count with _ | found
            · rfl
            · have isKnown :=
                chained.known state.count (by rw [isFound]; rfl)
              exact absurd isKnown (Nat.lt_irrefl _)
          simp [enterCall, notKey, notKnown]
        · unfold enterCall
          rw [calls_setPhase_of_ne isNew]
  | resume call =>
      obtain ⟨key, previous, isCall, _, rfl⟩ := step_resume.mp stepped
      rw [eventKey, isCall, Option.map_some, Ne, Option.some.injEq]
        at isOther
      exact
        ⟨rfl, pending_setPhase isCall rfl rfl,
          calls_setPhase_other isCall isOther⟩
  | settle call outcome =>
      obtain ⟨key, isCall, rfl⟩ := step_settle.mp stepped
      rw [eventKey, isCall, Option.map_some, Ne, Option.some.injEq]
        at isOther
      exact
        ⟨rfl, pending_setPhase isCall rfl rfl,
          calls_setPhase_other isCall isOther⟩
  | finish call =>
      obtain ⟨key, outcome, isCall, rfl⟩ := step_finish.mp stepped
      rw [eventKey, isCall, Option.map_some, Ne, Option.some.injEq]
        at isOther
      refine
        ⟨?_, chained.pending_leaveCall_of_ne isCall (Ne.symm isOther),
          calls_setPhase_other isCall isOther⟩
      unfold leaveCall
      dsimp only
      split_ifs
      · exact Function.update_of_ne (Ne.symm isOther) ..
      · rfl

/-! ## A fair mutex that cleans up -/

/-- What is expected of the lock at every moment. -/
structure IsFairMutex
    (state : ApprovalPreparationLocks Key Value Error) :
    Prop where
  /-- The callbacks of a key do not overlap. -/
  exclusive :
    ∀ key first second,
      state.calls first = some ⟨key, .running⟩ →
      state.calls second = some ⟨key, .running⟩ →
      first = second
  /-- Callbacks are called in the order of arrival, at most once. -/
  ordered :
    ∀ key,
      begunAt key state.log <+: calledAt key state.log ∧
        (calledAt key state.log).Nodup
  /-- The calls that are no longer pending have run once, in order. -/
  answered :
    ∀ key,
      calledAt key state.log =
          answeredAt key state.log ++ state.pending key ∧
        answeredAt key state.log <+: begunAt key state.log
  /-- A caller gets the one outcome of its own callback. -/
  outcome :
    ∀ key call outcome,
      .answered key call outcome ∈ state.log →
      .ended key call outcome ∈ state.log ∧
        ∀ other, .ended key call other ∈ state.log → other = outcome
  /-- The first pending call of any key can go on. -/
  live :
    ∀ key,
      state.pending key ≠ [] →
      ∃ call ∈ state.pending key, CanGoOn state call
  /-- So every pending call is answered after finitely many events. -/
  finite :
    ∀ (events : List (LockEvent Key Value Error)) later,
      (∀ event ∈ events, event.isCall = false) →
      state.run events = some later →
      events.length ≤ state.remaining ∧
        (events.length = state.remaining ↔
          ∀ key, later.pending key = [])
  /-- A call waits for an earlier call of its own key. -/
  ownKey : WaitsForOwnKey state
  /-- An event of one key changes nothing of another one. -/
  independent :
    ∀ event next key,
      state.step event = some next →
      state.eventKey event ≠ some key →
      SameAt key state next
  /-- The map holds the last pending call of a key, and nothing else. -/
  clean : ∀ key, state.locks key = (state.pending key).getLast?

/-- What every event keeps. -/
structure Reached
    (state : ApprovalPreparationLocks Key Value Error) :
    Prop where
  chained : Chained state
  refines : Refines state
  numbered : Numbered state
  recorded : Recorded state
  waits : WaitsForOwnKey state

theorem reached_of_run
    {events : List (LockEvent Key Value Error)}
    (ran : start.run events = some state) :
    Reached state := by
  apply run_invariant Reached ?_ ?_ ran
  · intro before event after reached stepped
    exact
      ⟨reached.chained.step stepped,
        reached.refines.step reached.chained stepped,
        reached.numbered.step stepped,
        reached.recorded.step reached.chained stepped,
        reached.waits.step reached.chained stepped⟩
  · refine
      ⟨chained_start, rfl, fun key => List.Sublist.refl _, recorded_start,
        ?_⟩
    intro key call previous isWaiting
    cases isWaiting

/-- The lock is fair and cleans up, after every sequence of events. -/
theorem approvalPreparationLock_isFair
    {events : List (LockEvent Key Value Error)}
    (ran : start.run events = some state) :
    IsFairMutex state := by
  obtain ⟨chained, refines, numbered, recorded, waits⟩ :=
    reached_of_run ran
  constructor
  · intro key first second isFirst isSecond
    have firstHead := chained.first_of_running isFirst
    have secondHead := chained.first_of_running isSecond
    exact Option.some.inj (firstHead.symm.trans secondHead)
  · intro key
    exact ⟨refines.begun_prefix key, numbered.nodup key⟩
  · intro key
    obtain ⟨queued, held⟩ := refines.accounts key
    exact ⟨queued, held ▸ List.prefix_append _ _⟩
  · intro key call outcome isAnswered
    have isEnded := recorded.answered key call outcome isAnswered
    exact
      ⟨isEnded, fun other isOther =>
        recorded.outcome_unique isOther isEnded⟩
  · intro key somePending
    obtain ⟨call, isFirst⟩ :=
      Option.isSome_iff_exists.mp (List.isSome_head?.mpr somePending)
    exact ⟨call, List.mem_of_head? isFirst, chained.canGoOn isFirst⟩
  · intro more later noCalls ranMore
    have isSum := remaining_run chained noCalls ranMore
    have isChained : Chained later :=
      run_invariant Chained (fun _ _ _ holds => holds.step) chained
        ranMore
    rw [← isChained.remaining_eq_zero_iff]
    omega
  · exact waits
  · intro event next key stepped isOther
    exact sameAt_step chained stepped isOther
  · exact chained.tail

/-- Two calls of one key and one of another, the first of which is rejected. -/
def rejectedFirst : List (LockEvent String ℕ String) :=
  [.call "DE-1", .call "DE-1", .call "RO-2", .settle 2 (.ok 7),
    .settle 0 (.error "no gas"), .finish 0, .finish 2, .resume 1,
    .settle 1 (.ok 5), .finish 1]

/-- Each caller has its own outcome, and the map is empty. -/
theorem rejectedFirst_isFair :
    ∃ state,
      start.run rejectedFirst = some state ∧
        IsFairMutex state ∧
        begunAt "DE-1" state.log = [0, 1] ∧
        .answered "DE-1" 0 (.error "no gas") ∈ state.log ∧
        .answered "DE-1" 1 (.ok 5) ∈ state.log ∧
        state.locks "DE-1" = none ∧
        state.locks "RO-2" = none :=
  ⟨_, rfl, @approvalPreparationLock_isFair _ _ _ _ _ rejectedFirst rfl,
    by decide, by decide, by decide, rfl, rfl⟩

end ApprovalPreparationLocks

end Sparkz
