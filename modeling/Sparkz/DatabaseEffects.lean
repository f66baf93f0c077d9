import Sparkz.CallEffects

namespace Sparkz

/-!
# What a change does to each table

One inversion for each table: a change appends one row that the unique indexes
accept, or it rewrites rows in place.  Every invariant of the tables is derived
from these.
-/

/-! ## Reservations -/

/-- The rows that a change puts in the place of a reservation. -/
inductive Change.RewritesReservation (database : Database) :
    Change → SpendReservation → SpendReservation → Prop where
  | claim
      {uid sessionId providerId : String}
      {row before : SpendReservation}
      (found :
        database.reservationOfSession uid sessionId providerId =
          some row)
      (isReserved : row.status = .reserved)
      (sameId : before.id = row.id) :
      RewritesReservation database
        (.claimForSettlement uid sessionId providerId) before
        before.claimForSettlement
  | persist
      {parts : DecimalText}
      {row before after : SpendReservation}
      (found : database.reservation before.id = some row)
      (accepted : row.persistSettlementContext parts = .ok after) :
      RewritesReservation database
        (.persistSettlementContext before.id parts) before after
  | complete
      {deliveredKwh settledAmount : JsNumber}
      {txHash : Option TransactionHash}
      {row before after : SpendReservation}
      (found : database.reservation before.id = some row)
      (accepted :
        row.complete deliveredKwh settledAmount txHash = .ok after) :
      RewritesReservation database
        (.completeReservation before.id deliveredKwh settledAmount
          txHash) before after
  | retry {error : String} {before : SpendReservation} :
      RewritesReservation database (.retryReservation before.id error)
        before (before.retry error)

/-- The database after a change to the reservations. -/
inductive ReservationsEffect (database : Database) (change : Change) :
    Database → Prop where
  /-- A row with a new id and a new session is appended. -/
  | inserted
      {row : SpendReservation}
      (isInsert : change = .insertReservation row)
      (newId :
        ∀ other ∈ database.reservations, other.id ≠ row.id)
      (newSession :
        ∀ other ∈ database.reservations,
          other.uid = row.uid →
          other.sessionId = row.sessionId →
          other.providerId ≠ row.providerId) :
      ReservationsEffect database change
        { database with reservations := database.reservations ++ [row] }
  /-- Rows are rewritten in place. -/
  | rewritten
      (rewrite : SpendReservation → SpendReservation)
      (each :
        ∀ row,
          rewrite row = row ∨
            change.RewritesReservation database row (rewrite row)) :
      ReservationsEffect database change
        { database with
          reservations := database.reservations.map rewrite }

namespace ReservationsEffect

variable {database next : Database} {change : Change}

/-- Nothing is rewritten. -/
theorem unchanged : ReservationsEffect database change database := by
  have mapped : ReservationsEffect database change
      { database with reservations := database.reservations.map id } :=
    .rewritten id fun _ => Or.inl rfl
  rwa [List.map_id] at mapped

theorem insertReservation
    {row : SpendReservation}
    (inserted : database.insertReservation row = .ok next) :
    ReservationsEffect database (.insertReservation row) next := by
  unfold Database.insertReservation at inserted
  split at inserted
  · cases inserted
  rename_i newId
  split at inserted
  · cases inserted
  rename_i newSession
  cases inserted
  refine .inserted rfl ?_ ?_
  · intro other member sameId
    exact newId (List.any_eq_true.mpr ⟨other, member, by simp [sameId]⟩)
  · intro other member sameUid sameSession sameProvider
    exact
      newSession
        (List.any_eq_true.mpr
          ⟨other, member, by
            simp [sameUid, sameSession, sameProvider]⟩)

theorem claimForSettlement {uid sessionId providerId : String} :
    ReservationsEffect database
      (.claimForSettlement uid sessionId providerId)
      (database.claimForSettlement uid sessionId providerId).2 := by
  unfold Database.claimForSettlement
  split
  · exact .unchanged
  rename_i row found
  split
  · rename_i isReserved
    refine .rewritten _ fun before => ?_
    split
    · rename_i sameId
      exact Or.inr (.claim found isReserved sameId)
    · exact Or.inl rfl
  · exact .unchanged

/-- A row is found, and a version of it takes the place of its id. -/
theorem rewriteReservation
    {id : String}
    {rewrite : SpendReservation → Except StoreError SpendReservation}
    {result : SpendReservation}
    (rewritten :
      database.rewriteReservation id rewrite = .ok (result, next))
    (isRewrite :
      ∀ {row before after : SpendReservation},
        before.id = id →
        database.reservation before.id = some row →
        rewrite row = .ok after →
        change.RewritesReservation database before after) :
    ReservationsEffect database change next := by
  unfold Database.rewriteReservation at rewritten
  split at rewritten
  · cases rewritten
  rename_i row found
  cases accepted : rewrite row with
  | error error =>
      simp [accepted, bind, Except.bind] at rewritten
  | ok version =>
      simp only [accepted, bind, Except.bind, pure, Except.pure,
        Except.ok.injEq, Prod.mk.injEq] at rewritten
      rw [← rewritten.2]
      refine .rewritten _ fun before => ?_
      split
      · rename_i isId
        exact Or.inr (isRewrite isId (isId ▸ found) accepted)
      · exact Or.inl rfl

end ReservationsEffect

/-- Whether a change is about the reservations. -/
def Change.isReservationChange : Change → Bool
  | .insertReservation _ | .claimForSettlement _ _ _
  | .persistSettlementContext _ _ | .completeReservation _ _ _ _
  | .retryReservation _ _ => true
  | _ => false

/-- A change about the reservations leaves every other table alone. -/
theorem Change.reservationsEffect
    {database next : Database}
    {change : Change}
    {result : change.Result}
    (applied : change.apply database = .ok (result, next))
    (isReservationChange : change.isReservationChange = true) :
    ReservationsEffect database change next := by
  cases change with
  | insertReservation row =>
      obtain ⟨inserted, accepted, same⟩ := Except.map_eq_ok applied
      cases same
      exact .insertReservation accepted
  | claimForSettlement uid sessionId providerId =>
      obtain rfl := congrArg Prod.snd (Except.ok.inj applied)
      exact .claimForSettlement
  | persistSettlementContext id parts =>
      refine ReservationsEffect.rewriteReservation applied ?_
      rintro row before after rfl found accepted
      exact .persist found accepted
  | completeReservation id deliveredKwh settledAmount txHash =>
      refine ReservationsEffect.rewriteReservation applied ?_
      rintro row before after rfl found accepted
      exact .complete found accepted
  | retryReservation id error =>
      cases applied
      refine .rewritten _ fun before => ?_
      split
      · rename_i isId
        subst isId
        exact Or.inr .retry
      · exact Or.inl rfl
  | _ =>
      cases isReservationChange

/-! ## Token operations -/

/-- The statements that a change applies to the row with a key. -/
inductive Change.WritesRow (database : Database) :
    Change → String → OperationWrite → Prop where
  | update {operationKey : String} {write : OperationWrite} :
      WritesRow database (.updateOperation operationKey write)
        operationKey write
  | settle {operationKey : String} {write : OperationWrite} :
      WritesRow database (.settleOperation operationKey write)
        operationKey write
  | prepare
      {lease : TreasuryLease}
      (isTarget : lease.targetType = .tokenOperation) :
      WritesRow database (.persistPreparation lease) lease.targetKey
        (.prepared lease.txHash lease.nonce lease.txContext)
  | updateLease
      {operationKey : String}
      {hash : Option TransactionHash}
      {write : LeaseWrite}
      {lease : TreasuryLease}
      (found : database.lease operationKey = some lease)
      (isTarget : lease.targetType = .tokenOperation) :
      WritesRow database (.updateLease operationKey hash write)
        lease.targetKey write.onOperation

/-- The operations after a change. -/
inductive OperationsEffect (database : Database) (change : Change) :
    List TokenOperation → Prop where
  /-- A row is appended. -/
  | inserted
      {row : TokenOperation}
      (isInsert : change = .insertOperation row) :
      OperationsEffect database change (database.operations ++ [row])
  /-- Rows are rewritten by statements that admit them. -/
  | rewritten
      (rewrite : TokenOperation → TokenOperation)
      (each :
        ∀ row,
          rewrite row = row ∨
            ∃ write,
              change.WritesRow database row.operationKey write ∧
                row.admits write = true ∧
                rewrite row = row.set write) :
      OperationsEffect database change
        (database.operations.map rewrite)

namespace OperationsEffect

variable {database : Database} {change : Change}

/-- Nothing is rewritten. -/
theorem unchanged :
    OperationsEffect database change database.operations := by
  have mapped : OperationsEffect database change
      (database.operations.map id) :=
    .rewritten id fun _ => Or.inl rfl
  rwa [List.map_id] at mapped

/-- One statement is applied to the row with a key. -/
theorem mapped
    {operationKey : String}
    {write : OperationWrite}
    (writesRow : change.WritesRow database operationKey write) :
    OperationsEffect database change
      (database.mapOperation operationKey write).operations := by
  refine .rewritten _ fun row => ?_
  split
  · rename_i isKey
    unfold TokenOperation.after
    split
    · rename_i admitted
      exact Or.inr ⟨write, isKey ▸ writesRow, admitted, rfl⟩
    · exact Or.inl rfl
  · exact Or.inl rfl

end OperationsEffect

section Operations

variable {database next : Database}

/-- A row is inserted only if the unique indexes accept it. -/
theorem Database.insertOperation_eq_ok
    {row : TokenOperation}
    (inserted : database.insertOperation row = .ok next) :
    next = { database with operations := database.operations ++ [row] } ∧
      (∀ other ∈ database.operations,
        other.operationKey ≠ row.operationKey) ∧
      (row.operationType = .award →
        row.providerId.isSome = true →
        row.chargingSessionId.isSome = true →
        ∀ other ∈ database.operations,
          other.operationType = .award →
          other.providerId = row.providerId →
          other.chargingSessionId ≠ row.chargingSessionId) := by
  unfold Database.insertOperation at inserted
  split at inserted
  · cases inserted
  rename_i newKey
  split at inserted
  · cases inserted
  rename_i newSession
  cases inserted
  refine ⟨rfl, ?_, ?_⟩
  · intro other member sameKey
    exact
      newKey (List.any_eq_true.mpr ⟨other, member, by simp [sameKey]⟩)
  · intro isAward hasProvider hasSession other member otherAward
      sameProvider sameSession
    refine newSession ?_
    simp only [isAward, beq_self_eq_true, hasProvider, hasSession,
      Bool.and_self, Bool.true_and]
    exact
      List.any_eq_true.mpr
        ⟨other, member, by simp [otherAward, sameProvider, sameSession]⟩

theorem operationsEffect_updateOperation
    {operationKey : String}
    {write : OperationWrite}
    {result : Option TokenOperation}
    (updated :
      database.updateOperation operationKey write =
        .ok (result, next)) :
    OperationsEffect database (.updateOperation operationKey write)
      next.operations := by
  unfold Database.updateOperation at updated
  split at updated
  · cases updated
    exact .unchanged
  split at updated
  · split at updated
    · cases updated
    · cases updated
      exact .mapped .update
  · cases updated
    exact .unchanged

theorem operationsEffect_persistPreparation
    {lease : TreasuryLease}
    (persisted : database.persistPreparation lease = .ok next) :
    OperationsEffect database (.persistPreparation lease)
      next.operations := by
  unfold Database.persistPreparation at persisted
  split at persisted
  · cases persisted
  split at persisted
  · cases persisted
  unfold Database.prepareTarget at persisted
  split at persisted
  · rename_i isTarget
    split at persisted
    · cases persisted
    split at persisted
    · cases persisted
    split at persisted
    · cases persisted
    · cases persisted
      exact .mapped (.prepare isTarget)
  · split at persisted
    · cases persisted
    split at persisted
    · cases persisted
    · cases persisted
      exact .unchanged
  · cases persisted
    exact .unchanged

theorem operationsEffect_updateLease
    {operationKey : String}
    {hash : Option TransactionHash}
    {write : LeaseWrite} :
    OperationsEffect database (.updateLease operationKey hash write)
      (database.updateLease operationKey hash write).2.operations := by
  unfold Database.updateLease
  split
  · exact .unchanged
  rename_i lease found
  split
  · exact .unchanged
  split
  · unfold Database.mapLease
    cases isTarget : lease.targetType with
    | tokenOperation =>
        exact .mapped (.updateLease found isTarget)
    | _ =>
        exact .unchanged
  · exact .unchanged

/-- What a change does to the operations. -/
theorem Change.operationsEffect
    {change : Change}
    {result : change.Result}
    (applied : change.apply database = .ok (result, next)) :
    OperationsEffect database change next.operations := by
  by_cases isApprovalChange : change.isApprovalChange = true
  · rw [Change.approval_others isApprovalChange applied]
    exact .unchanged
  by_cases isReservationChange : change.isReservationChange = true
  · cases Change.reservationsEffect applied isReservationChange <;>
      exact .unchanged
  cases change with
  | insertOperation row =>
      obtain ⟨inserted, accepted, same⟩ := Except.map_eq_ok applied
      cases same
      obtain ⟨rfl, _⟩ := Database.insertOperation_eq_ok accepted
      exact .inserted rfl
  | updateOperation operationKey write =>
      exact operationsEffect_updateOperation applied
  | settleOperation operationKey write =>
      cases applied
      exact .mapped .settle
  | persistPreparation lease =>
      obtain ⟨persisted, accepted, same⟩ := Except.map_eq_ok applied
      cases same
      exact operationsEffect_persistPreparation accepted
  | updateLease operationKey hash write =>
      obtain rfl := congrArg Prod.snd (Except.ok.inj applied)
      exact operationsEffect_updateLease
  | recordAward user award balance =>
      obtain ⟨ledger, _, same⟩ := Except.map_eq_ok applied
      cases same
      exact .unchanged
  | recordSpend user spend balance =>
      obtain ⟨ledger, _, same⟩ := Except.map_eq_ok applied
      cases same
      exact .unchanged
  | insertReceipt receipt =>
      obtain ⟨_, inserted, same⟩ := Except.map_eq_ok applied
      cases same
      obtain ⟨rfl, _⟩ := Database.insertReceipt_eq_ok inserted
      exact .unchanged
  | _ =>
      first
        | exact absurd rfl isReservationChange
        | exact absurd rfl isApprovalChange

/-- A version of a row that a change leaves in its place. -/
def Change.LeavesRow
    (change : Change)
    (database : Database)
    (row later : TokenOperation) :
    Prop :=
  later = row ∨
    ∃ write,
      change.WritesRow database row.operationKey write ∧
        row.admits write = true ∧
        later = row.set write

theorem Change.LeavesRow.evolves
    {change : Change}
    {row later : TokenOperation}
    (leaves : change.LeavesRow database row later) :
    row.Evolves later := by
  rcases leaves with rfl | ⟨write, _, admitted, rfl⟩
  · exact .refl _
  · exact TokenOperation.evolves_set admitted

namespace OperationsEffect

variable {change : Change} {operations : List TokenOperation}

/-- A row with a key keeps it, and becomes what the change makes of it. -/
theorem find_some
    (effect : OperationsEffect database change operations)
    {operationKey : String}
    {row : TokenOperation}
    (found : database.operation operationKey = some row) :
    ∃ later,
      operations.find? (·.operationKey == operationKey) = some later ∧
        change.LeavesRow database row later := by
  unfold Database.operation at found
  cases effect with
  | inserted isInsert =>
      exact
        ⟨row, by rw [List.find?_append, found]; rfl, Or.inl rfl⟩
  | rewritten rewrite each =>
      have sameKey :
          ((·.operationKey == operationKey) ∘ rewrite) =
            (·.operationKey == operationKey) := by
        funext other
        have evolves : other.Evolves (rewrite other) :=
          Change.LeavesRow.evolves (each other)
        simp only [Function.comp, evolves.operationKey]
      refine ⟨rewrite row, ?_, each row⟩
      rw [List.find?_map, sameKey, found]
      rfl

/-- A row of the table was inserted, or an earlier version was there. -/
theorem mem_cases
    (effect : OperationsEffect database change operations)
    {later : TokenOperation}
    (member : later ∈ operations) :
    change = .insertOperation later ∨
      ∃ row ∈ database.operations,
        change.LeavesRow database row later := by
  cases effect with
  | inserted isInsert =>
      rcases List.mem_append.mp member with older | newest
      · exact Or.inr ⟨later, older, Or.inl rfl⟩
      · rw [List.mem_singleton] at newest
        subst newest
        exact Or.inl isInsert
  | rewritten rewrite each =>
      obtain ⟨row, older, rfl⟩ := List.mem_map.mp member
      exact Or.inr ⟨row, older, each row⟩

end OperationsEffect

/-- The row with a key is one of the table and carries the key. -/
theorem Database.operation_eq_some
    {operationKey : String}
    {row : TokenOperation}
    (found : database.operation operationKey = some row) :
    row ∈ database.operations ∧ row.operationKey = operationKey :=
  ⟨List.mem_of_find?_eq_some found, by
    simpa using List.find?_some found⟩

end Operations

/-! ## Leases -/

section Leases

variable {database next : Database}

/-- What a change does to the leases. -/
inductive LeasesEffect (database : Database) (change : Change) :
    List TreasuryLease → Prop where
  | unchanged : LeasesEffect database change database.leases
  | inserted
      {lease : TreasuryLease}
      (isInsert : change = .persistPreparation lease) :
      LeasesEffect database change (database.leases ++ [lease])
  | updated
      {operationKey : String}
      {hash : Option TransactionHash}
      {write : LeaseWrite}
      (isUpdate : change = .updateLease operationKey hash write) :
      LeasesEffect database change
        (database.leases.map fun row =>
          if row.operationKey = operationKey then row.after write
          else row)

theorem leasesEffect_persistPreparation
    {lease : TreasuryLease}
    (persisted : database.persistPreparation lease = .ok next) :
    LeasesEffect database (.persistPreparation lease) next.leases := by
  unfold Database.persistPreparation at persisted
  split at persisted
  · cases persisted
  split at persisted
  · cases persisted
  unfold Database.prepareTarget at persisted
  cases isTarget : lease.targetType with
  | tokenOperation =>
      simp only [isTarget] at persisted
      split at persisted
      · cases persisted
      split at persisted
      · cases persisted
      split at persisted
      · cases persisted
      · cases persisted
        exact .inserted rfl
  | approvalFunding =>
      simp only [isTarget] at persisted
      split at persisted
      · cases persisted
      split at persisted
      · cases persisted
      · cases persisted
        exact .inserted rfl
  | standalone =>
      simp only [isTarget] at persisted
      cases persisted
      exact .inserted rfl

theorem leasesEffect_updateLease
    {operationKey : String}
    {hash : Option TransactionHash}
    {write : LeaseWrite} :
    LeasesEffect database (.updateLease operationKey hash write)
      (database.updateLease operationKey hash write).2.leases := by
  unfold Database.updateLease
  split
  · exact .unchanged
  rename_i lease found
  split
  · exact .unchanged
  split
  · have isKey : lease.operationKey = operationKey := by
      simpa using List.find?_some found
    unfold Database.mapLease
    cases lease.targetType <;>
      exact isKey ▸ .updated rfl
  · exact .unchanged

/-- What any change does to the leases. -/
theorem Change.leasesEffect
    {change : Change}
    {result : change.Result}
    (applied : change.apply database = .ok (result, next)) :
    LeasesEffect database change next.leases := by
  by_cases isApprovalChange : change.isApprovalChange = true
  · rw [Change.approval_others isApprovalChange applied]
    exact .unchanged
  by_cases isReservationChange : change.isReservationChange = true
  · cases Change.reservationsEffect applied isReservationChange <;>
      exact .unchanged
  cases change with
  | insertOperation inserted =>
      obtain ⟨_, accepted, same⟩ := Except.map_eq_ok applied
      cases same
      obtain ⟨rfl, _⟩ := Database.insertOperation_eq_ok accepted
      exact .unchanged
  | updateOperation target write =>
      simp only [Change.apply, Database.updateOperation] at applied
      split at applied
      · cases applied
        exact .unchanged
      split at applied
      · split at applied <;> cases applied
        exact .unchanged
      · cases applied
        exact .unchanged
  | settleOperation target write =>
      cases applied
      exact .unchanged
  | persistPreparation lease =>
      obtain ⟨_, accepted, same⟩ := Except.map_eq_ok applied
      cases same
      exact leasesEffect_persistPreparation accepted
  | updateLease target hash write =>
      obtain rfl := congrArg Prod.snd (Except.ok.inj applied)
      exact leasesEffect_updateLease
  | recordAward user award balance =>
      obtain ⟨ledger, _, same⟩ := Except.map_eq_ok applied
      cases same
      exact .unchanged
  | recordSpend user spend balance =>
      obtain ⟨ledger, _, same⟩ := Except.map_eq_ok applied
      cases same
      exact .unchanged
  | insertReceipt receipt =>
      obtain ⟨_, inserted, same⟩ := Except.map_eq_ok applied
      cases same
      obtain ⟨rfl, _⟩ := Database.insertReceipt_eq_ok inserted
      exact .unchanged
  | _ =>
      first
        | exact absurd rfl isReservationChange
        | exact absurd rfl isApprovalChange

/-- What a lease was allocated for, and what was signed for it. -/
structure TreasuryLease.SameIdentity (lease later : TreasuryLease) :
    Prop where
  operationKey : later.operationKey = lease.operationKey
  targetOperationKey :
    later.targetOperationKey = lease.targetOperationKey
  targetType : later.targetType = lease.targetType
  chainId : later.chainId = lease.chainId
  signerAddress : later.signerAddress = lease.signerAddress
  nonce : later.nonce = lease.nonce
  txHash : later.txHash = lease.txHash
  txContext : later.txContext = lease.txContext

theorem TreasuryLease.sameIdentity_after
    (lease : TreasuryLease)
    (write : LeaseWrite) :
    lease.SameIdentity (lease.after write) := by
  unfold TreasuryLease.after
  split
  · cases write <;> exact ⟨rfl, rfl, rfl, rfl, rfl, rfl, rfl, rfl⟩
  · exact ⟨rfl, rfl, rfl, rfl, rfl, rfl, rfl, rfl⟩

/-- A lease is never deleted and keeps its identity. -/
theorem LeasesEffect.lease_stays
    {change : Change}
    {leases : List TreasuryLease}
    (effect : LeasesEffect database change leases)
    {lease : TreasuryLease}
    (member : lease ∈ database.leases) :
    ∃ later ∈ leases, lease.SameIdentity later := by
  cases effect with
  | unchanged =>
      exact ⟨lease, member, rfl, rfl, rfl, rfl, rfl, rfl, rfl, rfl⟩
  | inserted isInsert =>
      exact
        ⟨lease, List.mem_append_left _ member, rfl, rfl, rfl, rfl, rfl,
          rfl, rfl, rfl⟩
  | updated isUpdate =>
      refine ⟨_, List.mem_map_of_mem member, ?_⟩
      split
      · exact lease.sameIdentity_after _
      · exact ⟨rfl, rfl, rfl, rfl, rfl, rfl, rfl, rfl⟩

end Leases

end Sparkz
