import Sparkz.WalletHolds

namespace Sparkz

open Interleaving

/-!
# The capacity of a wallet

Two functions admit what a wallet holds, each under the lock of the wallet and
against the balance that it sampled there.  Callbacks take no such lock, but
they only ever release a hold.
-/

/-! ## Who makes a wallet hold more -/

/-- The changes that a claim makes. -/
inductive Change.IsClaim : Change → Prop where
  | inserts {row : TokenOperation} : IsClaim (.insertOperation row)
  | reclaims {operationKey : String} :
      IsClaim (.updateOperation operationKey .reclaim)

namespace StoreCall

variable {call : StoreCall} {past : Past} {change : Change}

/-- Only a claim makes the changes of a claim. -/
theorem Writes.claim
    (writes : call.Writes past change)
    (isClaim : change.IsClaim) :
    ∃ data sampler,
      call = .claim data sampler ∧
        data.Writes sampler.isSome past change := by
  cases call with
  | claim data sampler =>
      exact ⟨data, sampler, rfl, writes⟩
  | markSubmitted operationKey txHash =>
      obtain ⟨_, _, rfl | rfl⟩ := writes <;> cases isClaim
  | prepare request =>
      obtain ⟨_, rfl⟩ := writes
      cases isClaim
  | leaseMarkSubmitted operationKey txHash
  | persistSettlementContext id deliveredKwh
  | complete id deliveredKwh settledAmount txHash =>
      obtain ⟨_, _, rfl⟩ := writes
      cases isClaim
  | reserve data sampler =>
      obtain ⟨_, _, _, _, _, _, rfl⟩ := writes
      cases isClaim
  | recordAward data | recordSpend data =>
      obtain ⟨_, _, _, _, _, _, _, rfl⟩ := writes
      cases isClaim
  | _ =>
      cases writes
      cases isClaim

/-- Only a reservation inserts a reservation. -/
theorem Writes.reserve
    {row : SpendReservation}
    (writes : call.Writes past (.insertReservation row)) :
    ∃ data sampler,
      call = .reserve data sampler ∧
        data.Writes past (.insertReservation row) := by
  generalize isChange : Change.insertReservation row = change at writes
  cases call with
  | reserve data sampler =>
      exact ⟨data, sampler, rfl, writes⟩
  | claim data sampler =>
      cases writes <;> cases isChange
  | markSubmitted operationKey txHash =>
      obtain ⟨_, _, rfl | rfl⟩ := writes <;> cases isChange
  | prepare request =>
      obtain ⟨_, rfl⟩ := writes
      cases isChange
  | leaseMarkSubmitted operationKey txHash
  | persistSettlementContext id deliveredKwh
  | complete id deliveredKwh settledAmount txHash =>
      obtain ⟨_, _, rfl⟩ := writes
      cases isChange
  | recordAward data | recordSpend data =>
      obtain ⟨_, _, _, _, _, _, _, rfl⟩ := writes
      cases isChange
  | _ =>
      cases writes
      cases isChange

end StoreCall

/-- A spend without a reservation is a manual one. -/
theorem isManualSpend_of_noReservation
    {data : ClaimRequest}
    (isSpend : data.operationType = .spend)
    (noReservation : orNull data.reservationId = none) :
    data.isManualSpend = true := by
  unfold orNull at noReservation
  split at noReservation
  · rename_i isTruthy
    rw [noReservation] at isTruthy
    cases isTruthy
  · rename_i notTruthy
    simp [ClaimRequest.isManualSpend, isSpend, notTruthy]

/-- Keys of spends say whether a reservation stands behind them. -/
def SpendKeysApart (calls : Nat → StoreCall) : Prop :=
  ∀ first second data other sampler otherSampler,
    calls first = .claim data sampler →
    calls second = .claim other otherSampler →
    data.operationKey = other.operationKey →
    data.isManualSpend = true →
    other.operationType = .spend →
    other.isManualSpend = true

/-- A row of the table was claimed by one of the calls. -/
def ClaimedBy (calls : Nat → StoreCall) (row : TokenOperation) : Prop :=
  ∃ thread data sampler,
    calls thread = .claim data sampler ∧
      data.operationKey = row.operationKey ∧
      data.operationType = row.operationType ∧
      orNull data.reservationId = row.reservationId

section Run

variable {lost : Bool}
  {platform : Platform}
  {calls : Nat → StoreCall}
  {config : Config sparkz Failure Database}
  {thread : Nat}
  {change : Change}
  {rest : Op.Answer (.write change) → Call Unit}
  {result : change.Result}
  {next : Database}
  {wallet : String}
  {exceptKey : Option String}

/-- A running write is one of its call. -/
theorem StoreCall.writes_of_running
    (reached :
      Reachable (semantics lost) (StoreCall.start platform .empty calls)
        config)
    (running :
      config.threads thread = some (.perform (.write change) rest)) :
    (calls thread).Writes (ownPast thread config.history) change :=
  StoreCall.protocol_write.mp
    (reached.permitted
      (fun thread => (calls thread).run_obeys platform) running)

/-- Every row was claimed by one of the calls. -/
theorem rowsClaimed
    (reached :
      Reachable (semantics lost) (StoreCall.start platform .empty calls)
        config) :
    ∀ row ∈ config.shared.operations, ClaimedBy calls row := by
  refine
    tableInvariant
      (fun database => ∀ row ∈ database.operations, ClaimedBy calls row)
      (fun _ _ claimed => claimed)
      (fun _ impossible => absurd impossible List.not_mem_nil) ?_ reached
  intro before owner change rest result after reachedBefore running
    applied claimed row member
  rcases (Change.operationsEffect applied).mem_cases member with
    rfl | ⟨earlier, older, leaves⟩
  · obtain ⟨data, sampler, isClaim, writes⟩ :=
      (StoreCall.writes_of_running reachedBefore running).claim .inserts
    cases writes with
    | insert admitted fresh =>
        exact ⟨owner, data, sampler, isClaim, rfl, rfl, rfl⟩
  · obtain ⟨claimer, data, sampler, isClaim, sameKey, sameType, same⟩ :=
      claimed earlier older
    have evolves := leaves.evolves
    exact
      ⟨claimer, data, sampler, isClaim,
        sameKey.trans evolves.operationKey.symm,
        sameType.trans evolves.operationType.symm,
        same.trans evolves.reservationId.symm⟩

/-- A claim found the row of its key that is in the table now. -/
theorem reclaimed_row
    (reached :
      Reachable (semantics lost) (StoreCall.start platform .empty calls)
        config)
    {program : Call Unit}
    (running : config.threads thread = some program)
    {data : ClaimRequest}
    {amount : TokenAmount}
    {found row : TokenOperation}
    (foundRow :
      data.Found amount found (ownPast thread config.history))
    (reclaimable : found.isReclaimable = true)
    (member : row ∈ config.shared.operations)
    (isKey : data.operationKey = row.operationKey) :
    row.isReclaimable = true ∧
      row.operationType = data.operationType ∧
      lowerText row.walletAddress = lowerText data.walletAddress ∧
      (data.operationType ≠ .award → row.amount = amount) := by
  obtain ⟨current, isCurrent, evolves, stays⟩ :=
    foundRow_stays
      (Disciplined.reclaims (StoreCall.disciplined platform calls))
      reached running foundRow.found
  have distinct :=
    distinct_of_reachable (StoreCall.disciplined platform calls) .nil
      reached
  rw [isKey, Database.operation_of_mem distinct member] at isCurrent
  cases isCurrent
  obtain ⟨isType, isWallet, isAmount⟩ := foundRow.sameIntent
  refine
    ⟨stays reclaimable, evolves.operationType.trans isType, ?_, ?_⟩
  · rw [evolves.walletAddress]
    exact isWallet
  · intro notAward
    rw [evolves.amount]
    exact isAmount notAward

/-- A manual spend is claimed under the lock of its wallet. -/
theorem holdsLock_of_claim
    (apart : SpendKeysApart calls)
    (reached :
      Reachable (semantics lost) (StoreCall.start platform .empty calls)
        config)
    (running :
      config.threads thread = some (.perform (.write change) rest))
    {row : TokenOperation}
    (isManual : row.isManualOf wallet exceptKey = true)
    (claims :
      change = .insertOperation row ∨
        row ∈ config.shared.operations ∧
          change.WritesRow config.shared row.operationKey .reclaim) :
    Holds (.wallet (lowerText wallet)) (ownPast thread config.history) := by
  have writes := StoreCall.writes_of_running reached running
  simp only [TokenOperation.isManualOf,
    Database.holdsReservation.sameWallet, Bool.and_eq_true, beq_iff_eq,
    Option.isNone_iff_eq_none] at isManual
  obtain ⟨⟨⟨isSpend, noReservation⟩, sameWallet⟩, _⟩ := isManual
  rw [← sameWallet]
  rcases claims with rfl | ⟨member, writesRow⟩
  · obtain ⟨data, sampler, _, writes⟩ := writes.claim .inserts
    cases writes with
    | insert admitted fresh =>
        exact
          admitted.walletHeld
            (isManualSpend_of_noReservation isSpend noReservation)
  · obtain rfl := writesRow.reclaim_cases writes.storeWrites
    obtain ⟨data, sampler, isClaim, writes⟩ := writes.claim .reclaims
    generalize isKey : row.operationKey = operationKey at writes
    cases writes with
    | reclaim admitted found reclaimable =>
        obtain ⟨_, sameType, isWallet, _⟩ :=
          reclaimed_row reached running found reclaimable member
            isKey.symm
        obtain ⟨claimer, other, otherSampler, isOther, otherKey,
          otherType, otherReservation⟩ := rowsClaimed reached row member
        have isManualSpend : data.isManualSpend = true :=
          apart claimer thread other data otherSampler sampler isOther
            isClaim (otherKey.trans isKey)
            (isManualSpend_of_noReservation (otherType.trans isSpend)
              (otherReservation.trans noReservation))
            (sameType.symm.trans isSpend)
        rw [isWallet]
        exact admitted.walletHeld isManualSpend

/-- A reservation is inserted under the lock of its wallet. -/
theorem holdsLock_of_reserve
    (reached :
      Reachable (semantics lost) (StoreCall.start platform .empty calls)
        config)
    (running :
      config.threads thread = some (.perform (.write change) rest))
    {row : SpendReservation}
    (isInsert : change = .insertReservation row)
    (sameWallet : lowerText row.walletAddress = lowerText wallet) :
    Holds (.wallet (lowerText wallet)) (ownPast thread config.history) := by
  subst isInsert
  obtain ⟨data, _, _, writes⟩ :=
    (StoreCall.writes_of_running reached running).reserve
  obtain ⟨_, _, _, _, _, within, isRow⟩ := writes
  obtain ⟨_, _, _, _, _, _, isRead, _⟩ := within
  cases isRow
  rw [← sameWallet]
  exact isRead.holds

/-- Every row that has moved nothing is closed. -/
theorem outcomesFit
    (reached :
      Reachable (semantics lost) (StoreCall.start platform .empty calls)
        config) :
    ∀ row ∈ config.shared.operations, row.OutcomeFits :=
  rowInvariant TokenOperation.OutcomeFits
    (StoreCall.disciplined platform calls)
    (fun _ impossible => absurd impossible List.not_mem_nil)
    (fun _ _ impossible => nomatch impossible)
    (fun _ _ admitted fits => TokenOperation.outcomeFits_set fits admitted)
    reached

/-- The reservations of a run are sound. -/
theorem StoreCall.reservationsSound
    (reached :
      Reachable (semantics lost) (StoreCall.start platform .empty calls)
        config) :
    config.shared.ReservationsSound :=
  reservationsSound_of_reachable
    (Disciplined.insertsSound (StoreCall.disciplined platform calls))
    .empty reached

/-- Without the lock of a wallet, nobody makes it hold more. -/
theorem holds_le_withoutLock
    (apart : SpendKeysApart calls)
    (reached :
      Reachable (semantics lost) (StoreCall.start platform .empty calls)
        config)
    (running :
      config.threads thread = some (.perform (.write change) rest))
    (applied : change.apply config.shared = .ok (result, next))
    (notHeld :
      ¬ Holds (.wallet (lowerText wallet))
        (ownPast thread config.history)) :
    next.reservationHolds wallet ≤
        config.shared.reservationHolds wallet ∧
      next.manualHolds wallet exceptKey ≤
        config.shared.manualHolds wallet exceptKey := by
  constructor
  · refine
      (StoreCall.reservationsSound reached).le_reservationHolds applied ?_
    intro row isInsert sameWallet
    exact
      notHeld (holdsLock_of_reserve reached running isInsert sameWallet)
  · refine
      Database.le_manualHolds (outcomesFit reached) applied ?_ ?_
    · intro row isInsert
      by_contra isManual
      exact
        notHeld
          (holdsLock_of_claim apart reached running
            (by simpa using isManual) (.inl isInsert))
    · intro row member writesRow
      by_contra isManual
      exact
        notHeld
          (holdsLock_of_claim apart reached running
            (by simpa using isManual) (.inr ⟨member, writesRow⟩))

/-- What was read of the reservations under the lock is still enough. -/
theorem reservationHolds_le_read
    (apart : SpendKeysApart calls)
    (reached :
      Reachable (semantics lost) (StoreCall.start platform .empty calls)
        config)
    {program : Call Unit}
    (running : config.threads thread = some program)
    {holds : Nat}
    (isRead :
      ReadUnder (.wallet (lowerText wallet)) (.reservationHolds wallet)
        holds (ownPast thread config.history)) :
    config.shared.reservationHolds wallet ≤ holds := by
  refine
    readFact
      (fun result database => database.reservationHolds wallet ≤ result)
      (fun _ _ _ enough => enough) (fun _ => Nat.le_refl _) ?_ reached
      running isRead
  intro before owner change rest result written after reachedBefore
    ownerRunning notOwner applied enough
  obtain ⟨noMore, _⟩ :=
    @holds_le_withoutLock lost platform calls before owner change rest
      written after wallet none apart reachedBefore ownerRunning applied
      notOwner
  exact noMore.trans enough

/-- What was read of the manual spends under the lock is still enough. -/
theorem manualHolds_le_read
    (apart : SpendKeysApart calls)
    (reached :
      Reachable (semantics lost) (StoreCall.start platform .empty calls)
        config)
    {program : Call Unit}
    (running : config.threads thread = some program)
    {manual : Nat}
    (isRead :
      ReadUnder (.wallet (lowerText wallet))
        (.manualHolds wallet exceptKey) manual
        (ownPast thread config.history)) :
    config.shared.manualHolds wallet exceptKey ≤ manual := by
  refine
    readFact
      (fun result database =>
        database.manualHolds wallet exceptKey ≤ result)
      (fun _ _ _ enough => enough) (fun _ => Nat.le_refl _) ?_ reached
      running isRead
  intro before owner change rest result written after reachedBefore
    ownerRunning notOwner applied enough
  exact
    (holds_le_withoutLock apart reachedBefore ownerRunning applied
      notOwner).2.trans enough

/-- The sampled balance covers what a wallet holds after a step. -/
def Covered (wallet : String) (next : Database) (past : Past) : Prop :=
  ∃ sampled balance,
    NotedUnder (.wallet (lowerText wallet)) (.balance sampled) past ∧
      truncateTokenAmount sampled = some balance ∧
      next.held wallet ≤ balance.units

/-- A reservation that is inserted is covered with all other holds. -/
theorem reserve_covered
    (apart : SpendKeysApart calls)
    (reached :
      Reachable (semantics lost) (StoreCall.start platform .empty calls)
        config)
    (running :
      config.threads thread = some (.perform (.write change) rest))
    (applied : change.apply config.shared = .ok (result, next))
    {data : ReserveRequest}
    {sampler : OutsideCall JsNumber}
    (isReserve : calls thread = .reserve data sampler) :
    Covered data.walletAddress next (ownPast thread config.history) := by
  have writes := StoreCall.writes_of_running reached running
  rw [isReserve] at writes
  obtain ⟨id, amount, _, _, _, within, rfl⟩ := writes
  obtain ⟨sampled, balance, holds, manual, noted, floored, readHolds,
    readManual, fits⟩ := within
  refine ⟨sampled, balance, noted, floored, le_trans ?_ fits⟩
  obtain ⟨_, inserted, same⟩ := Except.map_eq_ok applied
  cases same
  have reserved := reservationHolds_le_read apart reached running readHolds
  have spent := manualHolds_le_read apart reached running readManual
  obtain ⟨added, kept⟩ := Database.holds_of_insertReservation inserted
  rw [Database.held, kept, ← Nat.add_assoc]
  exact
    Nat.add_le_add (added.trans (Nat.add_le_add_left reserved _)) spent

/-- A manual spend that is admitted is covered with all other holds. -/
theorem claim_covered
    (apart : SpendKeysApart calls)
    (reached :
      Reachable (semantics lost) (StoreCall.start platform .empty calls)
        config)
    (running :
      config.threads thread = some (.perform (.write change) rest))
    (applied : change.apply config.shared = .ok (result, next))
    {data : ClaimRequest}
    {sampler : OutsideCall JsNumber}
    (isClaim : calls thread = .claim data (some sampler))
    (isManual : data.isManualSpend = true) :
    Covered data.walletAddress next (ownPast thread config.history) := by
  have writes := StoreCall.writes_of_running reached running
  rw [isClaim] at writes
  have notAward : data.operationType ≠ .award := by
    intro isAward
    rw [ClaimRequest.isManualSpend, isAward] at isManual
    cases isManual
  have covered :
      ∀ {amount : TokenAmount},
        data.Admitted true amount (ownPast thread config.history) →
        next.reservationHolds data.walletAddress =
            config.shared.reservationHolds data.walletAddress ∧
          next.manualHolds data.walletAddress none ≤
            amount.units +
              config.shared.manualHolds data.walletAddress
                (some data.operationKey) →
        Covered data.walletAddress next
          (ownPast thread config.history) := by
    rintro amount admitted ⟨kept, added⟩
    obtain ⟨sampled, balance, holds, manual, noted, floored, readHolds,
      readManual, fits⟩ := admitted.withinBalance isManual rfl
    refine ⟨sampled, balance, noted, floored, le_trans ?_ fits⟩
    have reserved :=
      reservationHolds_le_read apart reached running readHolds
    have spent := manualHolds_le_read apart reached running readManual
    rw [Database.held, kept, Nat.add_left_comm]
    exact
      Nat.add_le_add reserved
        (added.trans (Nat.add_le_add_left spent _))
  cases writes with
  | insert admitted fresh =>
      obtain ⟨_, inserted, same⟩ := Except.map_eq_ok applied
      cases same
      exact covered admitted (Database.holds_of_insertOperation inserted)
  | reclaim admitted found reclaimable =>
      refine
        covered admitted
          (Database.holds_of_reclaim
            (distinct_of_reachable
              (StoreCall.disciplined platform calls) .nil reached)
            ?_ applied)
      intro row member isKey
      exact
        (reclaimed_row reached running found reclaimable member
          isKey.symm).2.2.2 notAward

end Run

/--
In every run of store calls, a step that makes a wallet hold less completes a
reservation, projects a spend, or finds that nothing has moved for it.  A step
that makes it hold more runs under the lock of the wallet.  After a step of
`reserve`, and after a step of `claim` for a manual spend with a sampler,
everything that the wallet holds is within the balance sampled under that lock.
-/
theorem walletHolds_areCovered
    {lost : Bool}
    {platform : Platform}
    {calls : Nat → StoreCall}
    {config : Config sparkz Failure Database}
    {thread : Nat}
    {change : Change}
    {rest : Op.Answer (.write change) → Call Unit}
    {result : change.Result}
    {next : Database}
    (apart : SpendKeysApart calls)
    (reached :
      Reachable (semantics lost) (StoreCall.start platform .empty calls)
        config)
    (running :
      config.threads thread = some (.perform (.write change) rest))
    (applied : change.apply config.shared = .ok (result, next)) :
    (∀ wallet,
        next.held wallet < config.shared.held wallet →
        change.Releases) ∧
      (∀ wallet,
        config.shared.held wallet < next.held wallet →
        Holds (.wallet (lowerText wallet))
          (ownPast thread config.history)) ∧
      (∀ data sampler,
        calls thread = .reserve data sampler →
        Covered data.walletAddress next
          (ownPast thread config.history)) ∧
      ∀ data sampler,
        calls thread = .claim data (some sampler) →
        data.isManualSpend = true →
        Covered data.walletAddress next
          (ownPast thread config.history) := by
  refine ⟨?_, ?_, ?_, ?_⟩
  · intro wallet shrinks
    exact
      (StoreCall.reservationsSound reached).releases_of_held_lt applied
        shrinks
  · intro wallet grows
    by_contra notHeld
    obtain ⟨reserved, spent⟩ :=
      @holds_le_withoutLock lost platform calls config thread change rest
        result next wallet none apart reached running applied notHeld
    exact absurd (Nat.add_le_add reserved spent) (Nat.not_le_of_lt grows)
  · intro data sampler isReserve
    exact reserve_covered apart reached running applied isReserve
  · intro data sampler isClaim isManual
    exact claim_covered apart reached running applied isClaim isManual

/-! ## A reservation and a manual spend -/

/-- A manual spend of four tokens from the wallet of the session. -/
def manualSpend : ClaimRequest where
  operationKey := "spend"
  operationType := .spend
  requestFingerprint := "intent"
  uid := jsString "driver"
  walletAddress := "0xa1"
  amount := .ofNat 4
  sessionId := none
  providerId := none
  chargingSessionId := none
  reservationId := none
  intentContext := none
  legacyKey := none

/-- A session reserves five of ten tokens, and a spend asks for four. -/
def spendingCalls : Nat → StoreCall
  | 0 =>
      .reserve chargingReservation ⟨pure (.ofNat 10), fun _ => trivial⟩
  | _ => .claim manualSpend (some ⟨pure (.ofNat 10), fun _ => trivial⟩)

/-- The run up to the write of the spend. -/
def spendAdmitted : Option (Config sparkz Failure Database) :=
  (StoreCall.start .sample .empty spendingCalls).run? (semantics true)
    (fun _ _ => true)
    (StoreCall.inOrder [0, 0, 0, 0, 0, 0, 0, 0, 1, 1, 1, 1, 1, 1])

/-- The change that a call is about to make. -/
def pendingChange
    (config : Config sparkz Failure Database)
    (thread : Nat) :
    Option Change :=
  match config.threads thread with
  | some (.perform (.write change) _) => some change
  | _ => none

theorem running_of_pendingChange
    {config : Config sparkz Failure Database}
    {thread : Nat}
    {change : Change}
    (pending : pendingChange config thread = some change) :
    ∃ rest, config.threads thread = some (.perform (.write change) rest) := by
  unfold pendingChange at pending
  split at pending
  · rename_i isRunning
    cases pending
    exact ⟨_, isRunning⟩
  · cases pending

/-- What the wallet holds before and after the next write of a call. -/
def holdsAround
    (config : Config sparkz Failure Database)
    (thread : Nat)
    (wallet : String) :
    Option (Nat × Nat) :=
  (pendingChange config thread).bind fun change =>
    (change.apply config.shared).toOption.map fun step =>
      (config.shared.held wallet, step.2.held wallet)

/-- All calls spend from one wallet, and their keys stand for manual ones. -/
theorem spendingCalls_apart : SpendKeysApart spendingCalls := by
  intro first second data other sampler otherSampler _ isOther _ _ _
  cases second with
  | zero =>
      cases isOther
  | succ _ =>
      cases isOther
      rfl

/-- The spend is admitted beside the reservation, for nine of ten tokens. -/
theorem spendAdmitted_isCovered :
    ∃ config change result next,
      spendAdmitted = some config ∧
        pendingChange config 1 = some change ∧
        change.apply config.shared = .ok (result, next) ∧
        config.shared.held "0xA1" = 500 ∧
        next.held "0xA1" = 900 ∧
        Covered "0xa1" next (ownPast 1 config.history) := by
  have isShown :
      spendAdmitted.bind (holdsAround · 1 "0xA1") = some (500, 900) := by
    decide +kernel
  obtain ⟨config, isConfig, shown⟩ := Option.bind_eq_some_iff.mp isShown
  obtain ⟨change, pending, applies⟩ := Option.bind_eq_some_iff.mp shown
  obtain ⟨⟨result, next⟩, isOk, amounts⟩ :=
    Option.map_eq_some_iff.mp applies
  obtain ⟨before, after⟩ := Prod.mk.inj amounts
  obtain ⟨rest, running⟩ := running_of_pendingChange pending
  have applied : change.apply config.shared = .ok (result, next) := by
    cases isApplied : change.apply config.shared with
    | error error =>
        rw [isApplied] at isOk
        cases isOk
    | ok step =>
        rw [isApplied] at isOk
        cases isOk
        rfl
  obtain ⟨_, _, _, covered⟩ :=
    walletHolds_areCovered spendingCalls_apart
      (Config.run?_sound (fun _ _ _ => trivial) .start isConfig) running
      applied
  exact
    ⟨config, change, result, next, isConfig, pending, applied, before,
      after, covered manualSpend _ rfl rfl⟩

end Sparkz
