import Sparkz.DatabaseEffects
import Sparkz.TreasuryTransactionsConformance
import Sparkz.SpendReservationsConformance
import Sparkz.LedgerProjectionConformance

namespace Sparkz

open Interleaving

/-!
# Runs of calls that write through the store functions

Whatever the calls of a run are, they write to the database through the store
functions only.  What a call has read under a lock stays true as long as the
calls that do not hold the lock respect it.
-/

/-- The statements that the callbacks of an operation issue alone. -/
def OperationWrite.isCallback : OperationWrite → Bool
  | .markSubmitted _ | .markSubmittedAgain _ | .markUnknown _ _
  | .markConfirmed _ | .markProjectionError _
  | .markPreflightFailed _ _ => true
  | _ => false

/-- The statements that are issued under the lock of the operation. -/
def OperationWrite.isSettlement : OperationWrite → Bool
  | .markProjected | .markFailed _ _ _ => true
  | _ => false

/-- A write of some store function, given what its call has done before. -/
inductive StoreWrites (past : Past) : Change → Prop where
  | claim
      {data : ClaimRequest}
      {sampled : Bool}
      {change : Change}
      (writes : data.Writes sampled past change) :
      StoreWrites past change
  | mark
      {operationKey : String}
      {operationWrite : OperationWrite}
      (isCallback : operationWrite.isCallback = true) :
      StoreWrites past (.updateOperation operationKey operationWrite)
  | settle
      {operationKey : String}
      {operationWrite : OperationWrite}
      (isSettlement : operationWrite.isSettlement = true) :
      StoreWrites past (.settleOperation operationKey operationWrite)
  | prepare
      {data : TreasuryTransactionPreparationRequest}
      {signed : Nat → PreparedTreasuryTransaction → Past → Prop}
      (allocation : data.Allocation signed past) :
      StoreWrites past (.persistPreparation allocation.lease)
  | updateLease
      {operationKey : String}
      {hash : Option TransactionHash}
      {leaseWrite : LeaseWrite} :
      StoreWrites past (.updateLease operationKey hash leaseWrite)
  | reserve
      {data : ReserveRequest}
      {change : Change}
      (writes : data.Writes past change) :
      StoreWrites past change
  | claimForSettlement {uid sessionId providerId : String} :
      StoreWrites past (.claimForSettlement uid sessionId providerId)
  | persistSettlementContext {id : String} {parts : DecimalText} :
      StoreWrites past (.persistSettlementContext id parts)
  | complete
      {id : String}
      {deliveredKwh settledAmount : JsNumber}
      {txHash : Option TransactionHash} :
      StoreWrites past
        (.completeReservation id deliveredKwh settledAmount txHash)
  | retry {id error : String} :
      StoreWrites past (.retryReservation id error)
  | recordAward
      {data : RecordAwardRequest}
      {change : Change}
      (writes : data.Writes past change) :
      StoreWrites past change
  | recordSpend
      {data : RecordSpendRequest}
      {change : Change}
      (writes : data.Writes past change) :
      StoreWrites past change

section Run

variable {lost : Bool}
  {meets : Config sparkz Failure Database → Entry sparkz → Prop}
  {shared : Database}
  {calls : Nat → Call Unit}
  {config : Config sparkz Failure Database}

/-- Every write of a run is one of a store function. -/
def Disciplined
    (lost : Bool)
    (meets : Config sparkz Failure Database → Entry sparkz → Prop)
    (shared : Database)
    (calls : Nat → Call Unit) :
    Prop :=
  ∀ {config : Config sparkz Failure Database}
    {thread : Nat}
    {change : Change}
    {rest : Op.Answer (.write change) → Call Unit},
    ReachableWhen (semantics lost) meets (.initial shared calls)
      config →
    config.threads thread = some (.perform (.write change) rest) →
    StoreWrites (ownPast thread config.history) change

/-- Calls that conform to protocols of store writes make such runs. -/
theorem Disciplined.ofConforming
    {permits : Nat → Protocol sparkz}
    {post : Nat → Except Failure Unit → Past → Prop}
    (conforming :
      ∀ thread,
        (calls thread).Obeys (permits thread) [] (post thread))
    (writes :
      ∀ thread past change,
        permits thread past (.write change) →
        StoreWrites past change) :
    Disciplined lost meets shared calls :=
  fun reached running =>
    writes _ _ _ (reached.permitted conforming running)

/--
A property of the tables holds throughout a run when every change that is
applied preserves it.
-/
theorem tableInvariant
    (Property : Database → Prop)
    (ignoresLocks :
      ∀ database locks,
        Property database → Property (database.withLocks locks))
    (atStart : Property shared)
    (atChange :
      ∀ {before : Config sparkz Failure Database}
        {thread : Nat}
        {change : Change}
        {rest : Op.Answer (.write change) → Call Unit}
        {result : change.Result}
        {after : Database},
        ReachableWhen (semantics lost) meets (.initial shared calls)
          before →
        before.threads thread =
          some (.perform (.write change) rest) →
        change.apply before.shared = .ok (result, after) →
        Property before.shared →
        Property after)
    (reached :
      ReachableWhen (semantics lost) meets (.initial shared calls)
        config) :
    Property config.shared := by
  refine
    reached.invariant (fun database _ => Property database)
      atStart ?_ ?_
  · intro database history thread holds
    exact ignoresLocks _ _ holds
  · intro before thread op rest choice answer next reached running
      answered _ holds
    refine (respond_effect answered).preserves Property ignoresLocks ?_ holds
    rintro change result after rfl applied holds
    exact atChange reached running applied holds

/--
What a call has read under a lock it still holds is true of the tables, when
the calls that do not hold the lock cannot change it.
-/
theorem readFact
    {key : LockKey}
    {query : Query}
    (Property : query.Result → Database → Prop)
    (ignoresLocks :
      ∀ result database locks,
        Property result database →
        Property result (database.withLocks locks))
    (atRead :
      ∀ {before : Config sparkz Failure Database},
        ReachableWhen (semantics lost) meets (.initial shared calls)
          before →
        Property (query.answer before.shared) before.shared)
    (atForeign :
      ∀ {before : Config sparkz Failure Database}
        {owner : Nat}
        {change : Change}
        {rest : Op.Answer (.write change) → Call Unit}
        {result : query.Result}
        {written : change.Result}
        {after : Database},
        ReachableWhen (semantics lost) meets (.initial shared calls)
          before →
        before.threads owner = some (.perform (.write change) rest) →
        ¬ Holds key (ownPast owner before.history) →
        change.apply before.shared = .ok (written, after) →
        Property result before.shared →
        Property result after)
    (reached :
      ReachableWhen (semantics lost) meets (.initial shared calls)
        config)
    {thread : Nat} {program : Call Unit}
    (running : config.threads thread = some program)
    {result : query.Result}
    (readUnder :
      ReadUnder key query result (ownPast thread config.history)) :
    Property result config.shared := by
  refine
    reached.ownFact
      (fun _ past database =>
        ReadUnder key query result past → Property result database)
      ?_ ?_ ?_ ?_ running readUnder
  · intro thread impossible
    exact impossible.elim
  · intro thread owner past database _ holds readUnder
    exact ignoresLocks _ _ _ (holds readUnder)
  · intro before thread op rest choice answer next reached _ answered
      holds readUnder
    have effect := respond_effect answered
    rcases readUnder.2 with ⟨isRead, _⟩ | earlier
    · cases isRead
      cases effect with
      | quiet locks notTables =>
          cases notTables
      | read =>
          exact atRead reached
    · refine
        effect.preserves (Property result) (ignoresLocks result) ?_
          (holds earlier)
      rintro change written after rfl applied _
      cases readUnder.1
  · intro before thread owner op program rest choice answer next
      different reached running ownerRunning answered holds readUnder
    have notOwner :=
      readUnder.holds.exclusive reached running ownerRunning different
    refine
      (respond_effect answered).preserves (Property result)
        (ignoresLocks result) ?_ (holds readUnder)
    rintro change written after rfl applied holds
    exact atForeign reached ownerRunning notOwner applied holds

end Run

/-! ## The row that a claim has found -/

/-- Whether a change is about one token operation alone. -/
def Change.isOperationChange : Change → Bool
  | .insertOperation _ | .updateOperation _ _ | .settleOperation _ _ =>
      true
  | _ => false

/-- A token operation is written by a claim, a callback or a settlement. -/
theorem StoreWrites.operation_cases
    {past : Past}
    {change : Change}
    (writes : StoreWrites past change)
    (isOperationChange : change.isOperationChange = true) :
    (∃ (data : ClaimRequest) (sampled : Bool),
      data.Writes sampled past change) ∨
    (∃ operationKey write,
      change = .updateOperation operationKey write ∧
        write.isCallback = true) ∨
    (∃ operationKey write,
      change = .settleOperation operationKey write ∧
        write.isSettlement = true) := by
  cases writes with
  | claim writes =>
      exact Or.inl ⟨_, _, writes⟩
  | mark isCallback =>
      exact Or.inr (Or.inl ⟨_, _, rfl, isCallback⟩)
  | settle isSettlement =>
      exact Or.inr (Or.inr ⟨_, _, rfl, isSettlement⟩)
  | reserve writes =>
      obtain ⟨_, _, _, _, _, _, rfl⟩ := writes
      cases isOperationChange
  | recordAward writes =>
      obtain ⟨_, _, _, _, _, _, _, rfl⟩ := writes
      cases isOperationChange
  | recordSpend writes =>
      obtain ⟨_, _, _, _, _, _, _, rfl⟩ := writes
      cases isOperationChange
  | _ =>
      cases isOperationChange

/-- A row is inserted by a claim that has found its key new. -/
theorem StoreWrites.insert_cases
    {past : Past}
    {row : TokenOperation}
    (writes : StoreWrites past (.insertOperation row)) :
    ∃ (data : ClaimRequest) (sampled : Bool) (amount : TokenAmount),
      row = data.row amount ∧
        data.Admitted sampled amount past ∧
        data.Fresh past := by
  rcases writes.operation_cases rfl with
    ⟨data, sampled, writes⟩ | ⟨_, _, impossible, _⟩ |
      ⟨_, _, impossible, _⟩
  · cases writes with
    | insert admitted fresh =>
        exact ⟨_, _, _, rfl, admitted, fresh⟩
  · cases impossible
  · cases impossible

/-- A row is put back into use by a claim that holds its lock. -/
theorem StoreWrites.reclaim_cases
    {past : Past}
    {operationKey : String}
    (writes : StoreWrites past (.updateOperation operationKey .reclaim)) :
    ∃ (data : ClaimRequest) (sampled : Bool) (amount : TokenAmount)
        (row : TokenOperation),
      data.operationKey = operationKey ∧
        data.Admitted sampled amount past ∧
        data.Found amount row past ∧
        row.isReclaimable = true := by
  rcases writes.operation_cases rfl with
    ⟨data, sampled, writes⟩ | ⟨_, _, same, isCallback⟩ |
      ⟨_, _, impossible, _⟩
  · cases writes with
    | reclaim admitted found reclaimable =>
        exact ⟨_, _, _, _, rfl, admitted, found, reclaimable⟩
  · cases same
    cases isCallback
  · cases impossible

/-- Only an update puts a row back into use. -/
theorem Change.WritesRow.reclaim_cases
    {database : Database}
    {change : Change}
    {operationKey : String}
    (writesRow : change.WritesRow database operationKey .reclaim)
    {past : Past}
    (writes : StoreWrites past change) :
    change = .updateOperation operationKey .reclaim := by
  generalize isReclaim : OperationWrite.reclaim = write at writesRow
  cases writesRow with
  | update =>
      rfl
  | settle =>
      rcases writes.operation_cases rfl with
        ⟨_, _, writes⟩ | ⟨_, _, impossible, _⟩ |
          ⟨_, _, same, isSettlement⟩
      · cases writes
      · cases impossible
      · cases same
        subst isReclaim
        cases isSettlement
  | prepare isTarget =>
      cases isReclaim
  | @updateLease _ _ write lease found isTarget =>
      cases write <;> cases isReclaim

/-- A row that failed before its broadcast waits for a claim. -/
theorem TokenOperation.isReclaimable_set
    {row : TokenOperation}
    {write : OperationWrite}
    (reclaimable : row.isReclaimable = true)
    (admitted : row.admits write = true)
    (notReclaim : write ≠ .reclaim) :
    (row.set write).isReclaimable = true := by
  have shape := reclaimable
  simp only [isReclaimable, Bool.and_eq_true, beq_iff_eq,
    Option.isNone_iff_eq_none] at shape
  obtain ⟨⟨isFailed, noHash⟩, _⟩ := shape
  cases write with
  | reclaim =>
      exact absurd rfl notReclaim
  | markPreflightFailed error diagnostic =>
      simp [isReclaimable, set, noHash, hasPrefix_append]
  | _ =>
      simp [admits, isFailed, noHash, OperationStatus.isOpen] at admitted

section Run

variable {lost : Bool}
  {meets : Config sparkz Failure Database → Entry sparkz → Prop}
  {shared : Database}
  {calls : Nat → Call Unit}
  {config : Config sparkz Failure Database}

/--
A property of every single row holds throughout a run when claims insert rows
with it and every statement that admits a row keeps it.
-/
theorem rowInvariant
    (Property : TokenOperation → Prop)
    (disciplined : Disciplined lost meets shared calls)
    (atStart : ∀ row ∈ shared.operations, Property row)
    (atInsert :
      ∀ (data : ClaimRequest) (amount : TokenAmount),
        Property (data.row amount))
    (atSet :
      ∀ row write,
        TokenOperation.admits row write = true →
        Property row →
        Property (row.set write))
    (reached :
      ReachableWhen (semantics lost) meets (.initial shared calls)
        config) :
    ∀ row ∈ config.shared.operations, Property row := by
  refine
    tableInvariant
      (fun database => ∀ row ∈ database.operations, Property row)
      (fun _ _ => id) atStart ?_ reached
  intro before thread change rest result after reached running applied
    holds row member
  rcases (Change.operationsEffect applied).mem_cases member with
    isInsert | ⟨earlier, older, same | ⟨write, _, admitted, rfl⟩⟩
  · subst isInsert
    obtain ⟨data, _, amount, rfl, _, _⟩ :=
      (disciplined reached running).insert_cases
    exact atInsert data amount
  · exact same ▸ holds earlier older
  · exact atSet earlier write admitted (holds earlier older)

/-- Whatever puts a row back into use in a run is a store function. -/
def ReclaimsDisciplined
    (lost : Bool)
    (meets : Config sparkz Failure Database → Entry sparkz → Prop)
    (shared : Database)
    (calls : Nat → Call Unit) :
    Prop :=
  ∀ {config : Config sparkz Failure Database}
    {thread : Nat}
    {change : Change}
    {rest : Op.Answer (.write change) → Call Unit}
    {operationKey : String},
    ReachableWhen (semantics lost) meets (.initial shared calls)
      config →
    config.threads thread = some (.perform (.write change) rest) →
    change.WritesRow config.shared operationKey .reclaim →
    StoreWrites (ownPast thread config.history) change

theorem Disciplined.reclaims
    (disciplined : Disciplined lost meets shared calls) :
    ReclaimsDisciplined lost meets shared calls :=
  fun reached running _ => disciplined reached running

/--
A row that a call has found under the lock of its key is still there, and it
still waits for a claim if it did then.
-/
theorem foundRow_stays
    (disciplined : ReclaimsDisciplined lost meets shared calls)
    (reached :
      ReachableWhen (semantics lost) meets (.initial shared calls)
        config)
    {thread : Nat} {program : Call Unit}
    (running : config.threads thread = some program)
    {operationKey : String}
    {row : TokenOperation}
    (found :
      ReadUnder (.operation operationKey) (.operation operationKey)
        (some row) (ownPast thread config.history)) :
    ∃ current,
      config.shared.operation operationKey = some current ∧
        row.Evolves current ∧
        (row.isReclaimable = true → current.isReclaimable = true) := by
  refine
    readFact
      (fun result database =>
        ∀ row, result = some row →
          ∃ current,
            database.operation operationKey = some current ∧
              row.Evolves current ∧
              (row.isReclaimable = true →
                current.isReclaimable = true))
      ?_ ?_ ?_ reached running found row rfl
  · intro result database locks holds
    exact holds
  · intro before reached row isResult
    exact ⟨row, isResult, .refl row, id⟩
  · intro before owner change rest result written after reached
      ownerRunning notOwner applied holds row isResult
    obtain ⟨current, found, evolves, stays⟩ := holds row isResult
    obtain ⟨later, isLater, leaves⟩ :=
      (Change.operationsEffect applied).find_some found
    refine ⟨later, isLater, evolves.trans leaves.evolves, ?_⟩
    intro reclaimable
    rcases leaves with rfl | ⟨write, writesRow, admitted, rfl⟩
    · exact stays reclaimable
    refine
      TokenOperation.isReclaimable_set (stays reclaimable) admitted ?_
    rintro rfl
    -- only a claim that holds the lock of the key could have done this
    have writes := disciplined reached ownerRunning writesRow
    rw [(Database.operation_eq_some found).2] at writesRow
    rw [writesRow.reclaim_cases writes] at writes
    obtain ⟨data, _, _, _, rfl, _, otherFound, _⟩ :=
      writes.reclaim_cases
    exact notOwner otherFound.found.holds

/-- An operation that is there survives whatever is done. -/
theorem Effect.operation_stays
    {op : Op} {answer : op.Answer} {database next : Database}
    (effect : Effect lost database op answer next)
    {operationKey : String}
    {row : TokenOperation}
    (found :
      ∃ current,
        database.operation operationKey = some current ∧
          row.Evolves current) :
    ∃ current,
      next.operation operationKey = some current ∧
        row.Evolves current := by
  refine
    effect.preserves
      (fun database =>
        ∃ current,
          database.operation operationKey = some current ∧
            row.Evolves current)
      (fun _ _ => id) ?_ found
  rintro change result after rfl applied ⟨last, isLast, evolves⟩
  obtain ⟨later, isLater, leaves⟩ :=
    (Change.operationsEffect applied).find_some isLast
  exact ⟨later, isLater, evolves.trans leaves.evolves⟩

/-- A row that is there is there later. -/
theorem operation_stays
    {before : Config sparkz Failure Database}
    (continued : ReachableWhen (semantics lost) meets before config)
    {operationKey : String}
    {row : TokenOperation}
    (found : before.shared.operation operationKey = some row) :
    ∃ current,
      config.shared.operation operationKey = some current ∧
        row.Evolves current :=
  continued.invariant
    (fun shared _ =>
      ∃ current,
        shared.operation operationKey = some current ∧
          row.Evolves current)
    ⟨row, found, .refl row⟩ (fun _ => id)
    fun _ _ answered _ =>
      (respond_effect answered).operation_stays

/-- A row that any call has ever read is there. -/
theorem readRow_stays
    (reached :
      ReachableWhen (semantics lost) meets (.initial shared calls)
        config)
    {thread : Nat}
    {operationKey : String}
    {row : TokenOperation}
    (wasRead :
      ⟨.read (.operation operationKey), .ok (some row)⟩ ∈
        ownPast thread config.history) :
    ∃ current,
      config.shared.operation operationKey = some current ∧
        row.Evolves current := by
  refine
    reached.invariant
      (fun shared history =>
        ⟨.read (.operation operationKey), .ok (some row)⟩ ∈
          ownPast thread history →
        ∃ current,
          shared.operation operationKey = some current ∧
            row.Evolves current)
      (fun member => absurd member List.not_mem_nil)
      (fun _ => id) ?_ wasRead
  intro before owner op rest choice answer next _ _ answered _ stays
    member
  have effect := respond_effect answered
  by_cases own : owner = thread
  · subst own
    rw [ownPast_own] at member
    rcases List.mem_cons.mp member with newest | older
    · cases newest
      obtain ⟨isRow, rfl⟩ := respond_read answered
      exact ⟨row, isRow, .refl row⟩
    · exact effect.operation_stays (stays older)
  · rw [ownPast_foreign own] at member
    exact effect.operation_stays (stays member)

/-- Once a row is there, every read of a new call meets it. -/
theorem readsSince
    {before : Config sparkz Failure Database}
    {operationKey : String}
    {row : TokenOperation}
    (found : before.shared.operation operationKey = some row)
    {thread : Nat}
    (notStarted : ownPast thread before.history = [])
    (continued : ReachableWhen (semantics lost) meets before config)
    {query : Query}
    {result : query.Result}
    (wasRead :
      ⟨.read query, .ok result⟩ ∈ ownPast thread config.history) :
    ∃ database current,
      Database.operation database operationKey = some current ∧
        row.Evolves current ∧
        query.answer database = result := by
  refine
    continued.invariant
      (fun _ history =>
        ⟨.read query, .ok result⟩ ∈ ownPast thread history →
        ∃ database current,
          Database.operation database operationKey = some current ∧
            row.Evolves current ∧
            query.answer database = result)
      ?_ (fun _ => id) ?_ wasRead
  · rw [notStarted]
    exact fun member => absurd member List.not_mem_nil
  · intro before owner op rest choice answer next reached _ answered _
      reads member
    by_cases own : owner = thread
    · subst own
      rw [ownPast_own] at member
      rcases List.mem_cons.mp member with newest | older
      · cases newest
        obtain ⟨current, isCurrent, evolves⟩ :=
          operation_stays reached found
        exact
          ⟨_, current, isCurrent, evolves,
            (respond_read answered).1⟩
      · exact reads older
    · rw [ownPast_foreign own] at member
      exact reads member

end Run

end Sparkz
