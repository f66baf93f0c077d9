import Sparkz.CountedTotals
import Sparkz.AwardClaims
import Sparkz.ReservationRuns

namespace Sparkz

/-!
# What a wallet holds

Reservations and manual spends hold amounts of one wallet.  Every change either
adds one of them, or puts a spend back into use, or leaves the total where it is
unless it releases a hold.
-/

open CountedTotal

/-- Everything that is held of a wallet, in cents. -/
def Database.held (database : Database) (wallet : String) : Nat :=
  database.reservationHolds wallet + database.manualHolds wallet none

/-- A statement that may release what a manual spend holds. -/
inductive OperationWrite.Releases : OperationWrite → Prop where
  | projected : Releases .markProjected
  | failed {error : String} {diagnostic : DiagnosticArgument} :
      Releases (.markFailed error .noMovement diagnostic)
  | preflight {error : String} {diagnostic : DiagnosticArgument} :
      Releases (.markPreflightFailed error diagnostic)
  | lease {diagnostic : TransactionDiagnostic} {error : String} :
      Releases (.leaseFailed diagnostic error)

/-- A change that may release a hold. -/
inductive Change.Releases : Change → Prop where
  /-- A reservation is completed. -/
  | completed
      {id : String}
      {deliveredKwh settledAmount : JsNumber}
      {txHash : Option TransactionHash} :
      Releases
        (.completeReservation id deliveredKwh settledAmount txHash)
  /-- A spend is projected, or nothing has moved for it. -/
  | updated
      {operationKey : String}
      {write : OperationWrite}
      (releases : write.Releases) :
      Releases (.updateOperation operationKey write)
  | settled
      {operationKey : String}
      {write : OperationWrite}
      (releases : write.Releases) :
      Releases (.settleOperation operationKey write)
  /-- The transaction of a spend has failed. -/
  | leaseFailed
      {operationKey error : String}
      {hash : Option TransactionHash}
      {diagnostic : TransactionDiagnostic} :
      Releases (.updateLease operationKey hash (.markFailed diagnostic error))

/-- A statement that releases is issued by a change that does. -/
theorem Change.WritesRow.releases
    {database : Database}
    {change : Change}
    {operationKey : String}
    {write : OperationWrite}
    (writesRow : change.WritesRow database operationKey write)
    (releases : write.Releases) :
    change.Releases := by
  cases writesRow with
  | update =>
      exact .updated releases
  | settle =>
      exact .settled releases
  | prepare isTarget =>
      cases releases
  | @updateLease _ _ leaseWrite _ _ _ =>
      cases leaseWrite with
      | markFailed diagnostic error =>
          exact .leaseFailed
      | _ =>
          cases releases

/-! ## What a statement does to a hold -/

/-- Nothing has moved for a row only when it has failed or is projected. -/
def TokenOperation.OutcomeFits (row : TokenOperation) : Prop :=
  row.movementOutcome = .noMovement →
  row.status = .failed ∨ row.status = .projected

namespace TokenOperation

variable {row : TokenOperation} {write : OperationWrite}
  {wallet : String} {exceptKey : Option String}

/-- An open row has not been found to have moved nothing. -/
theorem OutcomeFits.of_open
    (fits : row.OutcomeFits)
    (isOpen : row.status.isOpen = true) :
    row.movementOutcome ≠ .noMovement := by
  intro noMovement
  rcases fits noMovement with isFailed | isProjected
  · rw [isFailed] at isOpen
    cases isOpen
  · rw [isProjected] at isOpen
    cases isOpen

/-- Every statement that moves nothing closes the row. -/
theorem outcomeFits_set
    (fits : row.OutcomeFits)
    (admitted : row.admits write = true) :
    (row.set write).OutcomeFits := by
  cases write with
  | reclaim | markConfirmed error =>
      intro impossible
      cases impossible
  | markProjected =>
      exact fun _ => .inr rfl
  | markFailed error outcome diagnostic
  | markPreflightFailed error diagnostic
  | leaseFailed diagnostic error =>
      exact fun _ => .inl rfl
  | markProjectionError error =>
      simp only [admits, Bool.and_eq_true, Bool.or_eq_true, beq_iff_eq]
        at admitted
      intro noMovement
      rcases admitted.2 with isOpen | isConfirmed
      · exact absurd noMovement (fits.of_open isOpen)
      · rcases fits noMovement with isFailed | isProjected
        · rw [isConfirmed] at isFailed
          cases isFailed
        · rw [isConfirmed] at isProjected
          cases isProjected
  | markSubmitted hash | markSubmittedAgain hash
  | prepared hash nonce context | markUnknown error diagnostic
  | leaseSubmitted | leaseUnknown diagnostic error =>
      simp only [admits, Bool.and_eq_true] at admitted
      intro noMovement
      exact absurd noMovement (fits.of_open (by simp [admitted]))

/-- What decides whether a row of a manual spend holds its amount. -/
def isHolding (row : TokenOperation) : Bool :=
  row.status != .projected && row.movementOutcome != .noMovement &&
    (row.txHash.isSome || row.status == .submitting ||
      row.status == .submitted || row.status == .confirmed ||
      row.status == .unknown)

/-- Whether a row is a manual spend of a wallet. -/
def isManualOf
    (wallet : String)
    (exceptKey : Option String)
    (row : TokenOperation) :
    Bool :=
  row.operationType == .spend && row.reservationId.isNone &&
    Database.holdsReservation.sameWallet row.walletAddress wallet &&
    some row.operationKey != exceptKey

theorem holdsManual_eq :
    Database.holdsManual wallet exceptKey row =
      (row.isManualOf wallet exceptKey && row.isHolding) := by
  simp only [Database.holdsManual, isManualOf, isHolding, Bool.and_assoc]

/-- Later versions of a row are manual spends of the same wallet. -/
theorem isManualOf_evolves
    {later : TokenOperation}
    (evolves : row.Evolves later) :
    later.isManualOf wallet exceptKey =
      row.isManualOf wallet exceptKey := by
  simp only [isManualOf, evolves.operationType, evolves.reservationId,
    evolves.walletAddress, evolves.operationKey]

/-- A row that holds goes on to hold, unless it is released. -/
theorem isHolding_set
    (holds : row.isHolding = true)
    (admitted : row.admits write = true)
    (notReleased : ¬ write.Releases) :
    (row.set write).isHolding = true := by
  simp only [isHolding, Bool.and_eq_true, bne_iff_ne, ne_eq] at holds
  obtain ⟨⟨_, moves⟩, _⟩ := holds
  cases write with
  | markProjected =>
      exact absurd .projected notReleased
  | markPreflightFailed error diagnostic =>
      exact absurd .preflight notReleased
  | leaseFailed diagnostic error =>
      exact absurd .lease notReleased
  | markFailed error outcome diagnostic =>
      simp only [admits, Bool.and_eq_true] at admitted
      have outcomeMoves : outcome ≠ .noMovement := by
        rintro rfl
        exact notReleased .failed
      simp [isHolding, set, admitted, outcomeMoves]
  | _ =>
      simp [isHolding, set, moves]

/-- Only a reclaim makes a row hold that did not. -/
theorem isHolding_of_set
    (fits : row.OutcomeFits)
    (admitted : row.admits write = true)
    (notReclaim : write ≠ .reclaim)
    (holds : (row.set write).isHolding = true) :
    row.isHolding = true := by
  have ofOpen : row.status.isOpen = true → row.isHolding = true := by
    intro isOpen
    have moves := fits.of_open isOpen
    cases isStatus : row.status with
    | submitting | submitted | unknown =>
        simp [isHolding, isStatus, moves]
    | projected | failed | confirmed =>
        rw [isStatus] at isOpen
        cases isOpen
  have ofConfirmed :
      row.status = .confirmed → row.isHolding = true := by
    intro isConfirmed
    have moves : row.movementOutcome ≠ .noMovement := by
      intro noMovement
      rcases fits noMovement with isFailed | isProjected
      · rw [isConfirmed] at isFailed
        cases isFailed
      · rw [isConfirmed] at isProjected
        cases isProjected
    simp [isHolding, isConfirmed, moves]
  cases write with
  | reclaim =>
      exact absurd rfl notReclaim
  | markProjected | markPreflightFailed error diagnostic
  | leaseFailed diagnostic error =>
      simp [isHolding, set] at holds
  | markConfirmed error | markProjectionError error =>
      simp only [admits, Bool.and_eq_true, Bool.or_eq_true, beq_iff_eq]
        at admitted
      exact admitted.2.elim ofOpen ofConfirmed
  | _ =>
      simp only [admits, Bool.and_eq_true] at admitted
      exact ofOpen (by simp [admitted])

end TokenOperation

/-! ## What a change does to the holds of a wallet -/

namespace SpendReservation

variable {row later : SpendReservation} {wallet : String}

/-- A reservation that holds has held before. -/
theorem Proceeds.holds
    (proceeds : row.Proceeds later)
    (holds : Database.holdsReservation wallet later = true) :
    Database.holdsReservation wallet row = true := by
  cases isClosed : row.status.isTerminal with
  | true =>
      rw [proceeds.terminal isClosed] at holds
      exact holds
  | false =>
      simp only [Database.holdsReservation, Bool.and_eq_true,
        proceeds.walletAddress] at holds
      simp only [Database.holdsReservation, Bool.and_eq_true]
      exact ⟨holds.1, by simp [isClosed]⟩

/-- A row whose status is not closed goes on to hold. -/
theorem Proceeds.stillHolds
    (proceeds : row.Proceeds later)
    (isOpen : later.status.isTerminal = false)
    (holds : Database.holdsReservation wallet row = true) :
    Database.holdsReservation wallet later = true := by
  simp only [Database.holdsReservation, Bool.and_eq_true] at holds
  simp only [Database.holdsReservation, Bool.and_eq_true,
    proceeds.walletAddress]
  exact ⟨holds.1, by simp [isOpen]⟩

/-- Storing a context leaves the status alone. -/
theorem persistSettlementContext_status
    {parts : DecimalText}
    (persisted : row.persistSettlementContext parts = .ok later) :
    later.status = row.status := by
  unfold persistSettlementContext at persisted
  split at persisted
  · split at persisted <;> cases persisted
    rfl
  · split at persisted
    · split at persisted <;> cases persisted
      rfl
    · split at persisted <;> cases persisted
      rfl

end SpendReservation

namespace Database

variable {database next : Database}
  {change : Change}
  {result : change.Result}
  {wallet : String}
  {exceptKey : Option String}

/-- Only a completion closes a reservation. -/
theorem ReservationsSound.stillHolds
    {row later : SpendReservation}
    (sound : database.ReservationsSound)
    (member : row ∈ database.reservations)
    (rewritten : change.RewritesReservation database row later)
    (notReleased : ¬ change.Releases)
    (holds : holdsReservation wallet row = true) :
    holdsReservation wallet later = true := by
  have proceeds := (sound.rewrites member rewritten).2
  have isOpen : row.status.isTerminal = false := by
    simp only [holdsReservation, Bool.and_eq_true, Bool.not_eq_true']
      at holds
    exact holds.2
  cases rewritten with
  | claim found isReserved sameId =>
      exact proceeds.stillHolds rfl holds
  | persist found accepted =>
      obtain rfl := sound.eq_of_found member found
      refine proceeds.stillHolds ?_ holds
      rw [SpendReservation.persistSettlementContext_status accepted]
      exact isOpen
  | complete found accepted =>
      exact absurd .completed notReleased
  | retry =>
      refine proceeds.stillHolds ?_ holds
      rw [SpendReservation.retry, if_neg (by simp [isOpen])]
      rfl

/-- Without a release, the reservations hold no less. -/
theorem ReservationsSound.reservationHolds_le
    (sound : database.ReservationsSound)
    (applied : change.apply database = .ok (result, next))
    (notReleased : ¬ change.Releases) :
    database.reservationHolds wallet ≤ next.reservationHolds wallet := by
  cases isChange : change.isReservationChange with
  | false =>
      unfold reservationHolds
      rw [Change.reservations_others applied isChange]
  | true =>
      cases Change.reservationsEffect applied isChange with
      | inserted isInsert newId newSession =>
          refine le_trans ?_ (Nat.le_of_eq total_append_singleton.symm)
          exact Nat.le_add_right _ _
      | rewritten rewrite each =>
          refine le_total_map fun row member => ?_
          rcases each row with same | rewritten
          · rw [same]
          · exact
              share_le_share
                (sound.stillHolds member rewritten notReleased)
                (congrArg _
                  (sound.rewrites member rewritten).2.reservedAmount)

/-- Without a new row of the wallet, the reservations hold no more. -/
theorem ReservationsSound.le_reservationHolds
    (sound : database.ReservationsSound)
    (applied : change.apply database = .ok (result, next))
    (noInsert :
      ∀ row,
        change = .insertReservation row →
        lowerText row.walletAddress ≠ lowerText wallet) :
    next.reservationHolds wallet ≤ database.reservationHolds wallet := by
  cases isChange : change.isReservationChange with
  | false =>
      unfold reservationHolds
      rw [Change.reservations_others applied isChange]
  | true =>
      cases Change.reservationsEffect applied isChange with
      | @inserted row isInsert newId newSession =>
          refine le_trans (Nat.le_of_eq total_append_singleton) ?_
          have notHeld : holdsReservation wallet row = false := by
            simp [holdsReservation, holdsReservation.sameWallet,
              noInsert row isInsert]
          rw [share, notHeld]
          exact Nat.le_refl _
      | rewritten rewrite each =>
          refine total_map_le fun row member => ?_
          rcases each row with same | rewritten
          · rw [same]
          · have proceeds := (sound.rewrites member rewritten).2
            exact
              share_le_share proceeds.holds
                (congrArg _ proceeds.reservedAmount.symm)

/-- Without a release, the manual spends hold no less. -/
theorem manualHolds_le
    (applied : change.apply database = .ok (result, next))
    (notReleased : ¬ change.Releases) :
    database.manualHolds wallet exceptKey ≤
      next.manualHolds wallet exceptKey := by
  have effect := Change.operationsEffect applied
  unfold manualHolds
  generalize next.operations = operations at effect
  cases effect with
  | inserted isInsert =>
      refine le_trans ?_ (Nat.le_of_eq total_append_singleton.symm)
      exact Nat.le_add_right _ _
  | rewritten rewrite each =>
      refine le_total_map fun row member => ?_
      rcases each row with same | ⟨write, writesRow, admitted, isSet⟩
      · rw [same]
      · rw [isSet]
        have evolves := TokenOperation.evolves_set admitted
        refine share_le_share ?_ (congrArg _ evolves.amount)
        rw [TokenOperation.holdsManual_eq, TokenOperation.holdsManual_eq,
          TokenOperation.isManualOf_evolves evolves]
        intro holds
        rw [Bool.and_eq_true] at holds ⊢
        refine
          ⟨holds.1, TokenOperation.isHolding_set holds.2 admitted ?_⟩
        exact fun releases => notReleased (writesRow.releases releases)

/-- Without a claim on the wallet, the manual spends hold no more. -/
theorem le_manualHolds
    (fits : ∀ row ∈ database.operations, row.OutcomeFits)
    (applied : change.apply database = .ok (result, next))
    (noInsert :
      ∀ row,
        change = .insertOperation row →
        row.isManualOf wallet exceptKey = false)
    (noReclaim :
      ∀ row ∈ database.operations,
        change.WritesRow database row.operationKey .reclaim →
        row.isManualOf wallet exceptKey = false) :
    next.manualHolds wallet exceptKey ≤
      database.manualHolds wallet exceptKey := by
  have effect := Change.operationsEffect applied
  unfold manualHolds
  generalize next.operations = operations at effect
  cases effect with
  | @inserted row isInsert =>
      refine le_trans (Nat.le_of_eq total_append_singleton) ?_
      have notHeld : holdsManual wallet exceptKey row = false := by
        rw [TokenOperation.holdsManual_eq, noInsert row isInsert,
          Bool.false_and]
      rw [share, notHeld]
      exact Nat.le_refl _
  | rewritten rewrite each =>
      refine total_map_le fun row member => ?_
      rcases each row with same | ⟨write, writesRow, admitted, isSet⟩
      · rw [same]
      · rw [isSet]
        have evolves := TokenOperation.evolves_set admitted
        refine share_le_share ?_ (congrArg _ evolves.amount.symm)
        rw [TokenOperation.holdsManual_eq, TokenOperation.holdsManual_eq,
          TokenOperation.isManualOf_evolves evolves]
        intro holds
        rw [Bool.and_eq_true] at holds ⊢
        refine
          ⟨holds.1,
            TokenOperation.isHolding_of_set (fits row member) admitted ?_
              holds.2⟩
        rintro rfl
        rw [noReclaim row member writesRow] at holds
        exact absurd holds.1 Bool.false_ne_true

/-- A new reservation adds no more than its amount. -/
theorem holds_of_insertReservation
    {row : SpendReservation}
    (inserted : database.insertReservation row = .ok next) :
    next.reservationHolds wallet ≤
        row.reservedAmount.units + database.reservationHolds wallet ∧
      next.manualHolds wallet exceptKey =
        database.manualHolds wallet exceptKey := by
  unfold insertReservation at inserted
  split at inserted
  · cases inserted
  split at inserted
  · cases inserted
  cases inserted
  refine ⟨?_, rfl⟩
  refine le_trans (Nat.le_of_eq total_append_singleton) ?_
  rw [Nat.add_comm]
  exact Nat.add_le_add_right (share_le row) _

/-- A row with another key is a manual spend with or without an exception. -/
theorem share_le_share_except
    {operationKey : String}
    {row : TokenOperation}
    (otherKey : row.operationKey ≠ operationKey) :
    share (holdsManual wallet none) (·.amount.units) row ≤
      share (holdsManual wallet (some operationKey)) (·.amount.units)
        row := by
  unfold share
  split
  · rename_i holds
    rw [if_pos]
    simp only [holdsManual, Bool.and_eq_true] at holds ⊢
    simp [holds, otherKey]
  · exact Nat.zero_le _

/-- A new spend adds no more than its amount. -/
theorem holds_of_insertOperation
    {row : TokenOperation}
    (inserted : database.insertOperation row = .ok next) :
    next.reservationHolds wallet = database.reservationHolds wallet ∧
      next.manualHolds wallet none ≤
        row.amount.units +
          database.manualHolds wallet (some row.operationKey) := by
  obtain ⟨rfl, newKey, _⟩ := insertOperation_eq_ok inserted
  refine ⟨rfl, ?_⟩
  refine le_trans (Nat.le_of_eq total_append_singleton) ?_
  rw [Nat.add_comm]
  refine Nat.add_le_add (share_le row) ?_
  have kept :
      total (holdsManual wallet none) (·.amount.units)
          (database.operations.map fun other => other) ≤
        total (holdsManual wallet (some row.operationKey))
          (·.amount.units) database.operations :=
    total_map_le fun other member =>
      share_le_share_except (newKey other member)
  rwa [List.map_id'] at kept

/-- A spend that is claimed again adds no more than its amount. -/
theorem holds_of_reclaim
    {operationKey : String}
    {amount : TokenAmount}
    {result : Change.Result (.updateOperation operationKey .reclaim)}
    (distinct : database.operations.Pairwise TokenOperation.Distinct)
    (isAmount :
      ∀ row ∈ database.operations,
        row.operationKey = operationKey →
        row.amount = amount)
    (applied :
      (Change.updateOperation operationKey .reclaim).apply database =
        .ok (result, next)) :
    next.reservationHolds wallet = database.reservationHolds wallet ∧
      next.manualHolds wallet none ≤
        amount.units + database.manualHolds wallet (some operationKey) := by
  constructor
  · unfold reservationHolds
    rw [Change.reservations_others applied rfl]
  have effect := Change.operationsEffect applied
  unfold manualHolds
  generalize next.operations = operations at effect
  cases effect with
  | inserted isInsert =>
      cases isInsert
  | rewritten rewrite each =>
      have byKey :
          database.operations.Pairwise fun first second =>
            first.operationKey ≠ second.operationKey :=
        distinct.imp fun apart => apart.operationKey
      apply total_map_le_add byKey
      · intro row member (isKey : row.operationKey = operationKey)
        have evolves : row.Evolves (rewrite row) :=
          Change.LeavesRow.evolves (each row)
        refine (share_le _).trans (Nat.le_of_eq ?_)
        exact
          congrArg TokenAmount.units
            (evolves.amount.trans (isAmount row member isKey))
      · intro row member otherKey
        rcases each row with same | ⟨write, writesRow, _, _⟩
        · rw [same]
          exact share_le_share_except otherKey
        · generalize isKey : row.operationKey = key at writesRow
          cases writesRow with
          | update =>
              exact absurd isKey otherKey

/-- What a wallet holds shrinks only with a release. -/
theorem ReservationsSound.releases_of_held_lt
    (sound : database.ReservationsSound)
    (applied : change.apply database = .ok (result, next))
    (shrinks : next.held wallet < database.held wallet) :
    change.Releases := by
  by_contra notReleased
  have reserved :
      database.reservationHolds wallet ≤ next.reservationHolds wallet :=
    sound.reservationHolds_le applied notReleased
  have manual :
      database.manualHolds wallet none ≤ next.manualHolds wallet none :=
    manualHolds_le applied notReleased
  unfold held at shrinks
  omega

end Database

end Sparkz
