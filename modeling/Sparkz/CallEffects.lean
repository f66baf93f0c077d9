import Sparkz.CallConformance

namespace Sparkz

open Interleaving

/-!
# What an operation does to the database

Only a write changes the tables, and it changes them all at once or not at all.
Only the call that took an advisory lock can give it up.
-/

/-! ## What most changes leave alone -/

namespace Database

/-- The ledger and the locks, which only their own changes touch. -/
def others (database : Database) : Ledger × (LockKey → Option Nat) :=
  (database.ledger, database.locks)

variable {database next : Database}

theorem insertOperation_others
    {row : TokenOperation}
    (inserted : database.insertOperation row = .ok next) :
    next.others = database.others := by
  unfold insertOperation at inserted
  split at inserted
  · cases inserted
  split at inserted
  · cases inserted
  · cases inserted
    rfl

theorem updateOperation_others
    {operationKey : String}
    {write : OperationWrite}
    {result : Option TokenOperation}
    (updated :
      database.updateOperation operationKey write =
        .ok (result, next)) :
    next.others = database.others := by
  unfold updateOperation at updated
  split at updated
  · cases updated
    rfl
  split at updated
  · split at updated
    · cases updated
    · cases updated
      rfl
  · cases updated
    rfl

theorem prepareTarget_others
    {lease : TreasuryLease}
    (prepared : database.prepareTarget lease = .ok next) :
    next.others = database.others := by
  unfold prepareTarget at prepared
  split at prepared
  · split at prepared
    · cases prepared
    split at prepared
    · cases prepared
    split at prepared
    · cases prepared
    · cases prepared
      rfl
  · split at prepared
    · cases prepared
    split at prepared
    · cases prepared
    · cases prepared
      rfl
  · cases prepared
    rfl

theorem persistPreparation_others
    {lease : TreasuryLease}
    (persisted : database.persistPreparation lease = .ok next) :
    next.others = database.others := by
  unfold persistPreparation at persisted
  split at persisted
  · cases persisted
  split at persisted
  · cases persisted
  · have kept := prepareTarget_others persisted
    exact kept

theorem mapLease_others
    (database : Database)
    (lease : TreasuryLease)
    (write : LeaseWrite) :
    (database.mapLease lease write).others = database.others := by
  unfold mapLease
  cases lease.targetType <;> rfl

theorem updateLease_others
    (database : Database)
    (operationKey : String)
    (hash : Option TransactionHash)
    (write : LeaseWrite) :
    (database.updateLease operationKey hash write).2.others =
      database.others := by
  unfold updateLease
  split
  · rfl
  split
  · rfl
  split
  · exact mapLease_others _ _ _
  · rfl

theorem insertReservation_others
    {row : SpendReservation}
    (inserted : database.insertReservation row = .ok next) :
    next.others = database.others := by
  unfold insertReservation at inserted
  split at inserted
  · cases inserted
  split at inserted
  · cases inserted
  · cases inserted
    rfl

theorem claimForSettlement_others
    (database : Database)
    (uid sessionId providerId : String) :
    (database.claimForSettlement uid sessionId providerId).2.others =
      database.others := by
  unfold claimForSettlement
  split
  · rfl
  split <;> rfl

theorem rewriteReservation_others
    {id : String}
    {rewrite : SpendReservation → Except StoreError SpendReservation}
    {result : SpendReservation}
    (rewritten :
      database.rewriteReservation id rewrite = .ok (result, next)) :
    next.others = database.others := by
  unfold rewriteReservation at rewritten
  split at rewritten
  · cases rewritten
  · rename_i row found
    cases accepted : rewrite row with
    | error error =>
        simp [accepted, bind, Except.bind] at rewritten
    | ok version =>
        simp only [accepted, bind, Except.bind, pure, Except.pure,
          Except.ok.injEq, Prod.mk.injEq] at rewritten
        rw [← rewritten.2]
        rfl

end Database

/-- Whether a change is about the approval preparations alone. -/
def Change.isApprovalChange : Change → Bool
  | .claimApproval _ | .updateApproval _ _ | .claimFundingTopUp _ _ _
  | .claimApprovalSubmission _ | .markApprovalUnknown _ _ _ => true
  | _ => false

/-- An update of an approval preparation leaves every other table alone. -/
theorem Database.updateApproval_others
    (database : Database)
    (operationKey : String)
    (write : ApprovalWrite) :
    (database.updateApproval operationKey write).2 =
      { database with
        approvals :=
          (database.updateApproval operationKey write).2.approvals } := by
  unfold Database.updateApproval
  split
  · rfl
  split <;> rfl

/-- A change about the preparations leaves every other table alone. -/
theorem Change.approval_others
    {database next : Database}
    {change : Change}
    {result : change.Result}
    (isApprovalChange : change.isApprovalChange = true)
    (applied : change.apply database = .ok (result, next)) :
    next = { database with approvals := next.approvals } := by
  cases change with
  | claimApproval data =>
      simp only [Change.apply, Database.claimApproval] at applied
      split at applied
      · cases applied
        rfl
      split at applied
      · cases applied
      split at applied <;> cases applied <;> rfl
  | updateApproval operationKey write =>
      obtain rfl := congrArg Prod.snd (Except.ok.inj applied)
      exact Database.updateApproval_others _ _ _
  | claimFundingTopUp operationKey fundingAttemptKey value =>
      simp only [Change.apply, Database.claimFundingTopUp] at applied
      split at applied
      · cases applied
      split at applied
      · split at applied
        · cases applied
          rfl
        · cases applied
      · cases applied
        rfl
  | claimApprovalSubmission operationKey =>
      simp only [Change.apply, Database.claimApprovalSubmission]
        at applied
      split at applied
      · cases applied
      split at applied <;> cases applied <;> rfl
  | markApprovalUnknown operationKey error options =>
      simp only [Change.apply, Database.markApprovalUnknown] at applied
      split at applied
      · cases applied
        rfl
      split at applied
      · cases applied
        rfl
      split at applied
      · obtain rfl := congrArg Prod.snd (Except.ok.inj applied)
        exact Database.updateApproval_others _ _ _
      split at applied
      · cases applied
      split at applied
      · cases applied
        rfl
      · obtain rfl := congrArg Prod.snd (Except.ok.inj applied)
        exact Database.updateApproval_others _ _ _
  | _ =>
      cases isApprovalChange

/-- A receipt is inserted only if the unique indexes accept it. -/
theorem Database.insertReceipt_eq_ok
    {database next : Database}
    {row : SpendReceipt}
    (inserted : database.insertReceipt row = .ok next) :
    next = { database with receipts := database.receipts ++ [row] } ∧
      ∀ other ∈ database.receipts,
        other.tokenTxHash ≠ row.tokenTxHash := by
  unfold Database.insertReceipt at inserted
  split at inserted
  · cases inserted
  split at inserted
  · cases inserted
  rename_i newHash
  cases inserted
  refine ⟨rfl, fun other member sameHash => newHash ?_⟩
  exact List.any_eq_true.mpr ⟨other, member, beq_iff_eq.mpr sameHash⟩

/-- Whether a change projects a movement into the ledger. -/
def Change.isLedgerChange : Change → Bool
  | .recordAward _ _ _ | .recordSpend _ _ _ => true
  | _ => false

/-- Only a projection touches the ledger, and no change touches the locks. -/
theorem Change.apply_others
    {database next : Database}
    {change : Change}
    {result : change.Result}
    (notLedger : change.isLedgerChange = false)
    (applied : change.apply database = .ok (result, next)) :
    next.others = database.others := by
  by_cases isApprovalChange : change.isApprovalChange = true
  · rw [Change.approval_others isApprovalChange applied]
    rfl
  cases change with
  | insertOperation row =>
      obtain ⟨inserted, accepted, same⟩ := Except.map_eq_ok applied
      cases same
      exact Database.insertOperation_others accepted
  | updateOperation operationKey write =>
      exact Database.updateOperation_others applied
  | settleOperation operationKey write =>
      cases applied
      rfl
  | persistPreparation lease =>
      obtain ⟨persisted, accepted, same⟩ := Except.map_eq_ok applied
      cases same
      exact Database.persistPreparation_others accepted
  | updateLease operationKey hash write =>
      obtain rfl := congrArg Prod.snd (Except.ok.inj applied)
      exact Database.updateLease_others _ _ _ _
  | insertReservation row =>
      obtain ⟨inserted, accepted, same⟩ := Except.map_eq_ok applied
      cases same
      exact Database.insertReservation_others accepted
  | claimForSettlement uid sessionId providerId =>
      obtain rfl := congrArg Prod.snd (Except.ok.inj applied)
      exact Database.claimForSettlement_others _ _ _ _
  | persistSettlementContext id parts =>
      exact Database.rewriteReservation_others applied
  | completeReservation id deliveredKwh settledAmount txHash =>
      exact Database.rewriteReservation_others applied
  | retryReservation id error =>
      cases applied
      rfl
  | insertReceipt row =>
      obtain ⟨_, inserted, same⟩ := Except.map_eq_ok applied
      cases same
      obtain ⟨rfl, _⟩ := Database.insertReceipt_eq_ok inserted
      rfl
  | _ =>
      first
        | exact absurd rfl isApprovalChange
        | cases notLedger

/-- A change never touches the locks. -/
theorem Change.apply_locks
    {database next : Database}
    {change : Change}
    {result : change.Result}
    (applied : change.apply database = .ok (result, next)) :
    next.locks = database.locks := by
  cases isLedgerChange : change.isLedgerChange with
  | false =>
      exact
        congrArg Prod.snd (Change.apply_others isLedgerChange applied)
  | true =>
      cases change with
      | recordAward user award balance =>
          obtain ⟨ledger, _, same⟩ := Except.map_eq_ok applied
          cases same
          rfl
      | recordSpend user spend balance =>
          obtain ⟨ledger, _, same⟩ := Except.map_eq_ok applied
          cases same
          rfl
      | _ =>
          cases isLedgerChange

namespace Database

variable {database next : Database} {thread owner : Nat}
  {key : LockKey}

/-- A call that gives up its locks keeps those of the others. -/
theorem releaseLocks_foreign
    (different : owner ≠ thread)
    (held : database.locks key = some thread) :
    (database.releaseLocks owner).locks key = some thread := by
  simp [releaseLocks, held, Ne.symm different]

/-- A lock that is taken leaves the locks of the others alone. -/
theorem takeLock_keeps
    {taken : LockKey}
    (accepted : database.takeLock owner taken = some next)
    (held : database.locks key = some thread) :
    next.locks key = some thread := by
  unfold takeLock at accepted
  split at accepted
  · rename_i free
    cases accepted
    by_cases same : key = taken
    · subst same
      simp only [held, reduceCtorEq, Option.some.injEq, false_or]
        at free
      simp [free]
    · simp [same, held]
  · cases accepted

/-- A lock that is taken is held. -/
theorem takeLock_takes
    (accepted : database.takeLock thread key = some next) :
    next.locks key = some thread := by
  unfold takeLock at accepted
  split at accepted
  · cases accepted
    simp
  · cases accepted

/-- The locks after a commit are those its call has not held. -/
theorem commit_locks
    (database : Database)
    (thread : Nat)
    (change : Change) :
    (database.commit thread change).2.locks =
      (database.releaseLocks thread).locks := by
  unfold commit
  split
  · rename_i result after applied
    simp only [releaseLocks, Change.apply_locks applied]
  · rfl

end Database

section Respond

variable {lost : Bool} {thread owner : Nat} {op : Op}
  {answer : op.Answer} {choice : Choice} {database next : Database}
  {key : LockKey}

/-- No other call can take a held lock away. -/
theorem respond_foreign_lock
    (answered :
      (semantics lost).respond owner op choice database =
        some (answer, next))
    (different : owner ≠ thread)
    (held : database.locks key = some thread) :
    next.locks key = some thread := by
  have kept := Database.releaseLocks_foreign different held
  cases op with
  | lock taken =>
      simp only [semantics, respond] at answered
      split at answered
      · obtain ⟨after, accepted, same⟩ :=
          Option.map_eq_some_iff.mp answered
        cases same
        exact Database.takeLock_keeps accepted held
      · cases answered
        exact held
      · cases answered
        exact held
  | release =>
      cases answered
      exact kept
  | read query =>
      simp only [semantics, respond] at answered
      split at answered <;> cases answered <;> exact held
  | write change =>
      simp only [semantics, respond] at answered
      split at answered
      · simp only [Option.some.injEq, Prod.ext_iff] at answered
        rw [← answered.2, Database.commit_locks]
        exact kept
      · cases answered
        exact kept
      · split at answered
        · cases answered
          rw [Database.commit_locks]
          exact kept
        · cases answered
  | chain request =>
      cases answered
      exact held
  | service request =>
      cases answered
      exact held
  | note noted =>
      cases answered
      exact held

/-- A held lock stays held until its call ends the transaction. -/
theorem respond_own_lock
    (answered :
      (semantics lost).respond thread op choice database =
        some (answer, next))
    (continues : op.endsTransaction = false)
    (held : database.locks key = some thread) :
    next.locks key = some thread := by
  cases op with
  | lock taken =>
      simp only [semantics, respond] at answered
      split at answered
      · obtain ⟨after, accepted, same⟩ :=
          Option.map_eq_some_iff.mp answered
        cases same
        exact Database.takeLock_keeps accepted held
      · cases answered
        exact held
      · cases answered
        exact held
  | release =>
      cases continues
  | read query =>
      simp only [semantics, respond] at answered
      split at answered <;> cases answered <;> exact held
  | write change =>
      cases continues
  | chain request =>
      cases answered
      exact held
  | service request =>
      cases answered
      exact held
  | note noted =>
      cases answered
      exact held

/-- A lock that is answered is held. -/
theorem respond_takes_lock
    (answered :
      (semantics lost).respond thread (.lock key) choice database =
        some (.ok (), next)) :
    next.locks key = some thread := by
  simp only [semantics, respond] at answered
  split at answered
  · obtain ⟨after, accepted, same⟩ :=
      Option.map_eq_some_iff.mp answered
    cases same
    exact Database.takeLock_takes accepted
  · cases answered
  · cases answered

/-- A read that is answered returns what is committed. -/
theorem respond_read
    {query : Query}
    {result : query.Result}
    (answered :
      (semantics lost).respond thread (.read query) choice database =
        some (.ok result, next)) :
    query.answer database = result ∧ next = database := by
  simp only [semantics, respond] at answered
  split at answered
  · cases answered
    exact ⟨rfl, rfl⟩
  · cases answered
  · cases answered

end Respond

/-! ## Tables -/

/-- The tables of a database, with other locks. -/
def Database.withLocks
    (database : Database)
    (locks : LockKey → Option Nat) :
    Database :=
  { database with locks := locks }

/-- Whether an operation reads or writes the tables. -/
def Op.isTableAccess : Op → Bool
  | .read _ | .write _ => true
  | _ => false

/-- Everything that an answered operation can have done. -/
inductive Effect (lost : Bool) (database : Database) :
    (op : Op) → op.Answer → Database → Prop where
  /-- Neither a read nor a write. -/
  | quiet
      {op : Op}
      {answer : op.Answer}
      (locks : LockKey → Option Nat)
      (notTables : op.isTableAccess = false) :
      Effect lost database op answer (database.withLocks locks)
  /-- A read returns what is committed. -/
  | read (query : Query) :
      Effect lost database (.read query) (.ok (query.answer database))
        database
  /-- A read is refused. -/
  | readRefused
      {query : Query}
      (error : StoreError) :
      Effect lost database (.read query) (.error error) database
  /-- A write is refused, and nothing has changed. -/
  | refused
      {change : Change}
      (error : StoreError)
      (locks : LockKey → Option Nat) :
      Effect lost database (.write change) (.error error)
        (database.withLocks locks)
  /-- A write is committed. -/
  | committed
      {change : Change}
      {result : change.Result}
      {after : Database}
      (locks : LockKey → Option Nat)
      (applied : change.apply database = .ok (result, after)) :
      Effect lost database (.write change) (.ok result)
        (after.withLocks locks)
  /-- A write is committed, but its call sees an error. -/
  | replyLost
      {change : Change}
      {result : change.Result}
      {after : Database}
      (error : StoreError)
      (locks : LockKey → Option Nat)
      (applied : change.apply database = .ok (result, after))
      (mayBeLost : lost = true) :
      Effect lost database (.write change) (.error error)
        (after.withLocks locks)

/-- Every answered operation has one of these effects. -/
theorem respond_effect
    {lost : Bool} {thread : Nat} {op : Op}
    {answer : op.Answer} {choice : Choice} {database next : Database}
    (answered :
      (semantics lost).respond thread op choice database =
        some (answer, next)) :
    Effect lost database op answer next := by
  have kept : database.withLocks database.locks = database := rfl
  cases op with
  | lock key =>
      simp only [semantics, respond] at answered
      split at answered
      · obtain ⟨after, accepted, isPair⟩ :=
          Option.map_eq_some_iff.mp answered
        cases isPair
        unfold Database.takeLock at accepted
        split at accepted
        · cases accepted
          exact .quiet _ rfl
        · cases accepted
      · cases answered
        exact kept ▸ .quiet _ rfl
      · cases answered
        exact kept ▸ .quiet _ rfl
  | release =>
      cases answered
      exact .quiet _ rfl
  | read query =>
      simp only [semantics, respond] at answered
      split at answered <;> cases answered
      · exact .read query
      · exact .readRefused _
      · exact .readRefused _
  | write change =>
      simp only [semantics, respond] at answered
      split at answered
      · unfold Database.commit at answered
        cases applied : change.apply database with
        | error error =>
            rw [applied] at answered
            cases answered
            exact .refused _ _
        | ok pair =>
            rcases pair with ⟨result, after⟩
            rw [applied] at answered
            cases answered
            exact .committed _ applied
      · cases answered
        exact .refused _ _
      · split at answered
        · rename_i mayBeLost
          cases answered
          unfold Database.commit
          cases applied : change.apply database with
          | error error =>
              exact .refused _ _
          | ok pair =>
              exact .replyLost _ _ applied mayBeLost
        · cases answered
  | chain request =>
      cases answered
      exact kept ▸ .quiet _ rfl
  | service request =>
      cases answered
      exact kept ▸ .quiet _ rfl
  | note noted =>
      cases answered
      exact kept ▸ .quiet _ rfl

/--
A property of the tables survives an operation when the change that the
operation may commit preserves it.
-/
theorem Effect.preserves
    (Property : Database → Prop)
    {lost : Bool} {op : Op} {answer : op.Answer}
    {database next : Database}
    (effect : Effect lost database op answer next)
    (ignoresLocks :
      ∀ database locks,
        Property database → Property (database.withLocks locks))
    (atChange :
      ∀ change result after,
        op = .write change →
        change.apply database = .ok (result, after) →
        Property database →
        Property after)
    (holds : Property database) :
    Property next := by
  cases effect with
  | quiet locks notTables =>
      exact ignoresLocks _ _ holds
  | read query =>
      exact holds
  | readRefused error =>
      exact holds
  | refused error locks =>
      exact ignoresLocks _ _ holds
  | committed locks applied =>
      exact ignoresLocks _ _ (atChange _ _ _ rfl applied holds)
  | replyLost error locks applied mayBeLost =>
      exact ignoresLocks _ _ (atChange _ _ _ rfl applied holds)

/-! ## Held locks in a run -/

/-- A running call owns every lock it has taken and not given up. -/
theorem Holds.owned
    {lost : Bool}
    {meets : Config sparkz Failure Database → Entry sparkz → Prop}
    {shared : Database}
    {calls : Nat → Call Unit}
    {config : Config sparkz Failure Database}
    (reached :
      ReachableWhen (semantics lost) meets (.initial shared calls)
        config)
    {thread : Nat} {program : Call Unit}
    (running : config.threads thread = some program)
    {key : LockKey}
    (holds : Holds key (ownPast thread config.history)) :
    config.shared.locks key = some thread := by
  refine
    reached.ownFact
      (fun thread past database =>
        ∀ key, Holds key past → database.locks key = some thread)
      ?_ ?_ ?_ ?_ running key holds
  · intro thread key held
    exact held.elim
  · intro thread owner past shared different owned key held
    exact Database.releaseLocks_foreign different (owned key held)
  · intro before thread op rest choice answer next _ _ answered
      owned key held
    rcases held.2 with taken | earlier
    · cases taken
      exact respond_takes_lock answered
    · exact
        respond_own_lock answered held.1
          (owned key earlier)
  · intro before thread owner op program rest choice answer next
      different _ _ _ answered owned key held
    exact
      respond_foreign_lock answered different
        (owned key held)

/-- Two running calls never hold the same lock. -/
theorem Holds.exclusive
    {lost : Bool}
    {meets : Config sparkz Failure Database → Entry sparkz → Prop}
    {shared : Database}
    {calls : Nat → Call Unit}
    {config : Config sparkz Failure Database}
    (reached :
      ReachableWhen (semantics lost) meets (.initial shared calls)
        config)
    {thread owner : Nat} {program other : Call Unit}
    (running : config.threads thread = some program)
    (ownerRunning : config.threads owner = some other)
    (different : owner ≠ thread)
    {key : LockKey}
    (holds : Holds key (ownPast thread config.history)) :
    ¬ Holds key (ownPast owner config.history) := by
  intro ownerHolds
  have owned := holds.owned reached running
  have ownerOwned := ownerHolds.owned reached ownerRunning
  rw [owned] at ownerOwned
  exact different (Option.some.inj ownerOwned).symm

end Sparkz
