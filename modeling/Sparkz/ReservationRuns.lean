import Sparkz.CentNumbers
import Sparkz.SettlementDelivery
import Sparkz.TreasuryNonces

namespace Sparkz

open BinaryRounding Interleaving

/-!
# Reservations are settled once

A reservation is held until one call completes it, and then nothing changes it
any more.  The amounts of a completed reservation add up, whichever calls run
beside the one that has completed it.
-/

namespace SpendReservation

/-- What holds of every row: an open one has no settlement yet. -/
structure Sound (row : SpendReservation) : Prop where
  isOpen :
    row.status.isTerminal = false →
    row.settledAmount = none ∧ row.releasedAmount = none ∧
      row.txHash = none
  isClosed :
    row.status.isTerminal = true →
    ∃ settled released : TokenAmount,
      row.settledAmount = some settled ∧
        row.releasedAmount = some released ∧
        (row.reservedAmount.units ≤ 2 ^ 45 * 100 →
          settled.units + released.units = row.reservedAmount.units) ∧
        (row.reservedAmount.units < 10 ^ 20 →
          (row.status = .settled ↔ 0 < settled.units)) ∧
        row.deliveredKwh ≠ none
  delivery :
    row.deliveredKwh =
      row.settlementContext.map (·.normalizedThreeDecimal)

/-- A later version of a row: it moves forward, and a closed one stays. -/
structure Proceeds (row later : SpendReservation) : Prop where
  id : later.id = row.id
  uid : later.uid = row.uid
  walletAddress : later.walletAddress = row.walletAddress
  sessionId : later.sessionId = row.sessionId
  providerId : later.providerId = row.providerId
  reservedAmount : later.reservedAmount = row.reservedAmount
  authorizationTxHash :
    later.authorizationTxHash = row.authorizationTxHash
  authorizationAmount :
    later.authorizationAmount = row.authorizationAmount
  terminal : row.status.isTerminal = true → later = row
  reserved : later.status = .reserved → row.status = .reserved
  delivery :
    row.settlementContext ≠ none →
    later.settlementContext = row.settlementContext ∧
      later.deliveredKwh = row.deliveredKwh

/-- Two rows that may stand in one table. -/
structure Distinct (first second : SpendReservation) : Prop where
  id : first.id ≠ second.id
  session :
    first.uid = second.uid →
    first.sessionId = second.sessionId →
    first.providerId ≠ second.providerId

variable {row middle later next : SpendReservation}

theorem Proceeds.refl (row : SpendReservation) : row.Proceeds row :=
  ⟨rfl, rfl, rfl, rfl, rfl, rfl, rfl, rfl, fun _ => rfl,
    fun isReserved => isReserved, fun _ => ⟨rfl, rfl⟩⟩

theorem Proceeds.trans
    (first : row.Proceeds middle)
    (second : middle.Proceeds later) :
    row.Proceeds later where
  id := second.id.trans first.id
  uid := second.uid.trans first.uid
  walletAddress := second.walletAddress.trans first.walletAddress
  sessionId := second.sessionId.trans first.sessionId
  providerId := second.providerId.trans first.providerId
  reservedAmount := second.reservedAmount.trans first.reservedAmount
  authorizationTxHash :=
    second.authorizationTxHash.trans first.authorizationTxHash
  authorizationAmount :=
    second.authorizationAmount.trans first.authorizationAmount
  terminal := by
    intro isTerminal
    have same := first.terminal isTerminal
    subst same
    exact second.terminal isTerminal
  reserved := fun isReserved =>
    first.reserved (second.reserved isReserved)
  delivery := by
    intro isStored
    obtain ⟨sameContext, sameDelivered⟩ := first.delivery isStored
    obtain ⟨laterContext, laterDelivered⟩ :=
      second.delivery (sameContext ▸ isStored)
    exact
      ⟨laterContext.trans sameContext,
        laterDelivered.trans sameDelivered⟩

/-! ## What the statements do to a row -/

/-- Storing a context moves a row forward. -/
theorem persistSettlementContext_sound
    {parts : DecimalText}
    (sound : row.Sound)
    (persisted : row.persistSettlementContext parts = .ok next) :
    next.Sound ∧ row.Proceeds next := by
  unfold persistSettlementContext at persisted
  split at persisted
  · split at persisted
    · cases persisted
    · cases persisted
      exact ⟨sound, .refl row⟩
  · rename_i noContext
    split at persisted
    · split at persisted
      · cases persisted
      · cases persisted
        exact ⟨sound, .refl row⟩
    · rename_i notDelivered
      split at persisted
      · cases persisted
      cases persisted
      have isOpen : row.status.isTerminal = false := by
        by_contra isClosed
        obtain ⟨_, _, _, _, _, _, isDelivered⟩ :=
          sound.isClosed (by simpa using isClosed)
        exact isDelivered notDelivered
      refine ⟨⟨sound.isOpen, ?_, rfl⟩, ?_⟩
      · intro isClosed
        exact absurd (isOpen.symm.trans isClosed) Bool.false_ne_true
      · refine
          ⟨rfl, rfl, rfl, rfl, rfl, rfl, rfl, rfl, ?_,
            fun isReserved => isReserved,
            fun isStored => absurd noContext isStored⟩
        intro isClosed
        exact absurd (isOpen.symm.trans isClosed) Bool.false_ne_true

/-- A row is settled exactly when its column shows some cents. -/
theorem settled_iff
    {units : ℕ}
    (bounded : units < 10 ^ 20) :
    (if (Double.finite 0).less (.ofUnits units) then
        ReservationStatus.settled
      else .released) = .settled ↔
      0 < (Double.ofUnits units).fixedUnits := by
  have finite : |binary64.round (units : ℚ)| < 2 ^ 1024 := by
    have small : (units : ℚ) < 10 ^ 20 := by exact_mod_cast bounded
    exact round_lt_of_plain (by positivity) (by linarith)
  rw [fixedUnits_pos_iff finite, ← Double.zero_less_ofUnits]
  split
  · rename_i isPositive
    exact iff_of_true rfl isPositive
  · rename_i notPositive
    exact iff_of_false (by decide) notPositive

/-- A completion closes an open row with amounts that add up. -/
theorem complete_sound
    {deliveredKwh settledAmount : JsNumber}
    {txHash : Option TransactionHash}
    (sound : row.Sound)
    (completed :
      row.complete deliveredKwh settledAmount txHash = .ok next) :
    next.Sound ∧ row.Proceeds next := by
  unfold complete at completed
  split at completed
  · split at completed
    · cases completed
    · cases completed
      exact ⟨sound, .refl row⟩
  · rename_i notClosed
    have isOpen : row.status.isTerminal = false := by
      simpa using notClosed
    split at completed
    · cases completed
    · rename_i requested isRequested
      split at completed
      · cases completed
      · rename_i parts isParts
        split at completed
        · cases completed
        split at completed
        · cases completed
        · cases completed
          refine ⟨⟨?_, ?_, ?_⟩, ?_⟩
          · intro stillOpen
            dsimp only at stillOpen
            split at stillOpen
            · cases stillOpen
            · cases stillOpen
          · intro _
            refine ⟨_, _, rfl, rfl, ?_, ?_, Option.some_ne_none _⟩
            · intro bounded
              have isLess :=
                Nat.min_le_right requested.units row.reservedAmount.units
              dsimp only
              rw [fixedUnits_of_bounded (isLess.trans bounded),
                fixedUnits_of_bounded
                  ((Nat.sub_le _ _).trans bounded)]
              exact Nat.add_sub_cancel' isLess
            · intro bounded
              have isLess :=
                (Nat.min_le_right requested.units
                  row.reservedAmount.units).trans_lt bounded
              exact settled_iff isLess
          · have isDelivery := sound.delivery
            cases isContext : row.settlementContext with
            | none =>
                rw [isContext] at isDelivery
                simp only [isDelivery, Option.map_none, Option.getD_none,
                  Option.map_some, settlementContextOf]
            | some context =>
                rw [isContext] at isDelivery
                simp only [isDelivery, Option.map_some, Option.getD_some]
          · refine
              ⟨rfl, rfl, rfl, rfl, rfl, rfl, rfl, rfl, ?_, ?_, ?_⟩
            · intro isClosed
              exact absurd isClosed notClosed
            · intro isReserved
              dsimp only at isReserved
              split at isReserved
              · cases isReserved
              · cases isReserved
            · intro isStored
              have isDelivery := sound.delivery
              obtain ⟨context, isContext⟩ :=
                Option.ne_none_iff_exists'.mp isStored
              rw [isContext] at isDelivery
              simp only [isContext, isDelivery, Option.map_some,
                Option.getD_some, and_self]

/-- A failed attempt leaves an open row open. -/
theorem retry_sound
    {error : String}
    (sound : row.Sound) :
    (row.retry error).Sound ∧ row.Proceeds (row.retry error) := by
  unfold retry
  split
  · exact ⟨sound, .refl row⟩
  · rename_i notClosed
    have isOpen : row.status.isTerminal = false := by
      simpa using notClosed
    refine ⟨⟨fun _ => sound.isOpen isOpen, ?_, sound.delivery⟩, ?_⟩
    · intro impossible
      cases impossible
    · refine
        ⟨rfl, rfl, rfl, rfl, rfl, rfl, rfl, rfl, ?_, ?_,
          fun _ => ⟨rfl, rfl⟩⟩
      · intro isClosed
        exact absurd isClosed notClosed
      · intro impossible
        cases impossible

/-- A reserved row is claimed for its settlement. -/
theorem claimForSettlement_sound
    (sound : row.Sound)
    (isReserved : row.status = .reserved) :
    row.claimForSettlement.Sound ∧
      row.Proceeds row.claimForSettlement := by
  have isOpen : row.status.isTerminal = false := by
    rw [isReserved]
    rfl
  refine ⟨⟨fun _ => sound.isOpen isOpen, ?_, sound.delivery⟩, ?_⟩
  · intro impossible
    cases impossible
  · refine
      ⟨rfl, rfl, rfl, rfl, rfl, rfl, rfl, rfl, ?_, fun _ => isReserved,
        fun _ => ⟨rfl, rfl⟩⟩
    intro isClosed
    exact absurd (isOpen.symm.trans isClosed) Bool.false_ne_true

/-- A new row has no settlement. -/
theorem row_sound
    {data : ReserveRequest}
    {id : String}
    {amount : TokenAmount}
    {authorizationTxHash : Option TransactionHash}
    {authorizationAmount : Option TokenAmount} :
    (data.row id amount authorizationTxHash authorizationAmount).Sound := by
  refine ⟨fun _ => ⟨rfl, rfl, rfl⟩, ?_, rfl⟩
  intro impossible
  cases impossible

/-- Later versions of two rows are as distinct as the rows. -/
theorem Distinct.proceeds
    {first second laterFirst laterSecond : SpendReservation}
    (distinct : first.Distinct second)
    (firstProceeds : first.Proceeds laterFirst)
    (secondProceeds : second.Proceeds laterSecond) :
    laterFirst.Distinct laterSecond := by
  constructor
  · rw [firstProceeds.id, secondProceeds.id]
    exact distinct.id
  · rw [firstProceeds.uid, secondProceeds.uid, firstProceeds.sessionId,
      secondProceeds.sessionId, firstProceeds.providerId,
      secondProceeds.providerId]
    exact distinct.session

end SpendReservation

/-! ## Tables -/

/-- What holds of the table of reservations. -/
structure Database.ReservationsSound (database : Database) : Prop where
  distinct : database.reservations.Pairwise SpendReservation.Distinct
  sound : ∀ row ∈ database.reservations, row.Sound

/-- A preparation saves a lease and moves its target. -/
theorem Database.persistPreparation_reservations
    {database next : Database}
    {lease : TreasuryLease}
    (persisted : database.persistPreparation lease = .ok next) :
    next.reservations = database.reservations := by
  unfold persistPreparation at persisted
  split at persisted
  · cases persisted
  split at persisted
  · cases persisted
  unfold prepareTarget at persisted
  cases isTarget : lease.targetType with
  | tokenOperation =>
      simp only [isTarget] at persisted
      split at persisted
      · cases persisted
      split at persisted
      · cases persisted
      split at persisted <;> cases persisted
      rfl
  | approvalFunding =>
      simp only [isTarget] at persisted
      split at persisted
      · cases persisted
      split at persisted <;> cases persisted
      rfl
  | standalone =>
      simp only [isTarget] at persisted
      cases persisted
      rfl

/-- A callback of a lease moves the lease and its target. -/
theorem Database.updateLease_reservations
    {database : Database}
    {operationKey : String}
    {hash : Option TransactionHash}
    {write : LeaseWrite} :
    (database.updateLease operationKey hash write).2.reservations =
      database.reservations := by
  unfold updateLease
  split
  · rfl
  rename_i existing _
  split
  · rfl
  split
  · unfold mapLease
    cases existing.targetType <;> rfl
  · rfl

/-- Only changes about reservations touch their table. -/
theorem Change.reservations_others
    {database next : Database}
    {change : Change}
    {result : change.Result}
    (applied : change.apply database = .ok (result, next))
    (notReservationChange : change.isReservationChange = false) :
    next.reservations = database.reservations := by
  by_cases isApprovalChange : change.isApprovalChange = true
  · rw [Change.approval_others isApprovalChange applied]
  cases change with
  | insertOperation row =>
      obtain ⟨_, accepted, same⟩ := Except.map_eq_ok applied
      cases same
      obtain ⟨rfl, _⟩ := Database.insertOperation_eq_ok accepted
      rfl
  | updateOperation operationKey write =>
      simp only [Change.apply, Database.updateOperation] at applied
      split at applied
      · cases applied
        rfl
      split at applied
      · split at applied <;> cases applied
        rfl
      · cases applied
        rfl
  | settleOperation operationKey write =>
      cases applied
      rfl
  | persistPreparation lease =>
      obtain ⟨_, accepted, same⟩ := Except.map_eq_ok applied
      cases same
      exact Database.persistPreparation_reservations accepted
  | updateLease operationKey hash write =>
      obtain rfl := congrArg Prod.snd (Except.ok.inj applied)
      exact Database.updateLease_reservations
  | recordAward user award balance =>
      obtain ⟨_, _, same⟩ := Except.map_eq_ok applied
      cases same
      rfl
  | recordSpend user spend balance =>
      obtain ⟨_, _, same⟩ := Except.map_eq_ok applied
      cases same
      rfl
  | insertReceipt receipt =>
      obtain ⟨_, inserted, same⟩ := Except.map_eq_ok applied
      cases same
      obtain ⟨rfl, _⟩ := Database.insertReceipt_eq_ok inserted
      rfl
  | _ =>
      first
        | exact absurd rfl isApprovalChange
        | cases notReservationChange

namespace Database.ReservationsSound

variable {database next : Database} {row found : SpendReservation}

/-- The row of a table that is found by an id is the one that has it. -/
theorem eq_of_id
    (tableSound : database.ReservationsSound)
    (member : row ∈ database.reservations)
    (foundMember : found ∈ database.reservations)
    (sameId : row.id = found.id) :
    row = found := by
  have byId :
      database.reservations.Pairwise fun first second =>
        first.id ≠ second.id :=
    tableSound.distinct.imp fun distinct => distinct.id
  have : Std.Symm fun first second : SpendReservation =>
      first.id ≠ second.id :=
    ⟨fun _ _ different => different.symm⟩
  by_contra different
  exact byId.forall member foundMember different sameId

/-- The row with an id is the one that is found by it. -/
theorem eq_of_found
    (tableSound : database.ReservationsSound)
    (member : row ∈ database.reservations)
    (isFound : database.reservation row.id = some found) :
    row = found := by
  have sameId : found.id = row.id := by
    simpa using List.find?_some isFound
  exact
    tableSound.eq_of_id member (List.mem_of_find?_eq_some isFound)
      sameId.symm

/-- A row that a change rewrites stays sound and moves forward. -/
theorem rewrites
    {change : Change}
    {later : SpendReservation}
    (tableSound : database.ReservationsSound)
    (member : row ∈ database.reservations)
    (rewritten : change.RewritesReservation database row later) :
    later.Sound ∧ row.Proceeds later := by
  have sound := tableSound.sound row member
  cases rewritten with
  | claim found isReserved sameId =>
      have same :=
        tableSound.eq_of_id member (List.mem_of_find?_eq_some found)
          sameId
      exact
        SpendReservation.claimForSettlement_sound sound
          (same ▸ isReserved)
  | persist found accepted =>
      obtain rfl := tableSound.eq_of_found member found
      exact SpendReservation.persistSettlementContext_sound sound accepted
  | complete found accepted =>
      obtain rfl := tableSound.eq_of_found member found
      exact SpendReservation.complete_sound sound accepted
  | retry =>
      exact SpendReservation.retry_sound sound

/-- What one change does to a sound table. -/
theorem step
    {change : Change}
    {result : change.Result}
    (tableSound : database.ReservationsSound)
    (inserts :
      ∀ inserted, change = .insertReservation inserted → inserted.Sound)
    (applied : change.apply database = .ok (result, next)) :
    next.ReservationsSound ∧
      ∀ row ∈ database.reservations,
        ∃ later ∈ next.reservations, row.Proceeds later := by
  cases isChange : change.isReservationChange with
  | false =>
      have same := Change.reservations_others applied isChange
      constructor
      · constructor
        · rw [same]
          exact tableSound.distinct
        · rw [same]
          exact tableSound.sound
      · rw [same]
        exact fun row member => ⟨row, member, .refl row⟩
  | true =>
      cases Change.reservationsEffect applied isChange with
      | @inserted inserted isInsert newId newSession =>
          constructor
          · constructor
            · dsimp only
              rw [List.pairwise_append]
              refine
                ⟨tableSound.distinct, List.pairwise_singleton _ _, ?_⟩
              intro row member last isLast
              rw [List.mem_singleton] at isLast
              subst isLast
              exact ⟨newId row member, newSession row member⟩
            · intro row member
              rcases List.mem_append.mp member with older | newest
              · exact tableSound.sound row older
              · rw [List.mem_singleton] at newest
                subst newest
                exact inserts row isInsert
          · exact fun row member =>
              ⟨row, List.mem_append_left _ member, .refl row⟩
      | rewritten rewrite each =>
          have forward :
              ∀ row ∈ database.reservations,
                (rewrite row).Sound ∧ row.Proceeds (rewrite row) := by
            intro row member
            rcases each row with same | rewritten
            · rw [same]
              exact ⟨tableSound.sound row member, .refl row⟩
            · exact tableSound.rewrites member rewritten
          constructor
          · constructor
            · dsimp only
              rw [List.pairwise_map]
              refine tableSound.distinct.imp_of_mem ?_
              intro first second firstMember secondMember distinct
              exact
                distinct.proceeds (forward first firstMember).2
                  (forward second secondMember).2
            · intro later member
              obtain ⟨row, isRow, rfl⟩ := List.mem_map.mp member
              exact (forward row isRow).1
          · exact fun row member =>
              ⟨rewrite row, List.mem_map_of_mem member,
                (forward row member).2⟩

end Database.ReservationsSound

/-- A reservation that is inserted was asked for by its call. -/
theorem StoreWrites.inserts_sound
    {past : Past}
    {row : SpendReservation}
    (writes : StoreWrites past (.insertReservation row)) :
    row.Sound := by
  generalize isChange : Change.insertReservation row = change at writes
  cases writes with
  | reserve writes =>
      obtain ⟨_, _, _, _, _, _, rfl⟩ := writes
      cases isChange
      exact SpendReservation.row_sound
  | claim writes =>
      cases writes <;> cases isChange
  | recordAward writes =>
      obtain ⟨_, _, _, _, _, _, _, rfl⟩ := writes
      cases isChange
  | recordSpend writes =>
      obtain ⟨_, _, _, _, _, _, _, rfl⟩ := writes
      cases isChange
  | _ =>
      cases isChange

/-! ## Runs -/

/-- Every reservation that a run inserts is sound. -/
def InsertsSound
    (lost : Bool)
    (meets : Config sparkz Failure Database → Entry sparkz → Prop)
    (shared : Database)
    (calls : Nat → Call Unit) :
    Prop :=
  ∀ {config : Config sparkz Failure Database}
    {thread : Nat}
    {change : Change}
    {rest : Op.Answer (.write change) → Call Unit},
    ReachableWhen (semantics lost) meets (.initial shared calls)
      config →
    config.threads thread = some (.perform (.write change) rest) →
    ∀ inserted, change = .insertReservation inserted → inserted.Sound

section Run

variable {lost : Bool}
  {meets : Config sparkz Failure Database → Entry sparkz → Prop}
  {shared : Database}
  {calls : Nat → Call Unit}
  {config : Config sparkz Failure Database}

/-- The store functions insert sound reservations only. -/
theorem Disciplined.insertsSound
    (disciplined : Disciplined lost meets shared calls) :
    InsertsSound lost meets shared calls := by
  rintro config thread change rest reached running inserted rfl
  exact (disciplined reached running).inserts_sound

/-- Throughout a run, the table of reservations is sound. -/
theorem reservationsSound_of_reachable
    (inserts : InsertsSound lost meets shared calls)
    (atStart : shared.ReservationsSound)
    (reached :
      ReachableWhen (semantics lost) meets (.initial shared calls)
        config) :
    config.shared.ReservationsSound := by
  refine
    tableInvariant Database.ReservationsSound
      (fun _ _ sound => ⟨sound.distinct, sound.sound⟩) atStart ?_ reached
  intro before thread change rest result after reachedBefore running
    applied sound
  exact (sound.step (inserts reachedBefore running) applied).1

end Run

/-- A table without reservations is sound. -/
theorem Database.ReservationsSound.empty :
    Database.empty.ReservationsSound :=
  ⟨.nil, fun _ impossible => absurd impossible List.not_mem_nil⟩

namespace FundingCall

variable {lost : Bool}
  {platform : Platform}
  {calls : Nat → FundingCall}
  {middle last : Config sparkz Failure Database}

/-- Of all calls, only store calls insert reservations. -/
theorem insertsSound
    {meets : Config sparkz Failure Database → Entry sparkz → Prop}
    {shared : Database}
    (platform : Platform)
    (calls : Nat → FundingCall) :
    InsertsSound lost meets shared fun thread =>
      (calls thread).run platform := by
  rintro config thread change rest reached running inserted rfl
  have permitted :=
    reached.permitted
      (fun thread => (calls thread).run_obeys platform) running
  cases isCall : calls thread with
  | store call =>
      rw [isCall] at permitted
      exact
        (StoreCall.protocol_write.mp permitted).storeWrites.inserts_sound
  | _ =>
      rw [isCall] at permitted
      cases permitted

/-- A row stays in the table and moves forward. -/
theorem reservation_proceeds
    (reached :
      Reachable (semantics lost) (FundingCall.start platform .empty calls)
        middle)
    (continued : Reachable (semantics lost) middle last)
    {row : SpendReservation}
    (member : row ∈ middle.shared.reservations) :
    ∃ later ∈ last.shared.reservations, row.Proceeds later := by
  refine
    continued.invariant
      (fun shared _ =>
        ∃ later ∈ shared.reservations, row.Proceeds later)
      ⟨row, member, .refl row⟩ (fun _ present => present) ?_
  intro before owner op rest choice answer next reachedBefore running
    answered _ present
  refine
    (respond_effect answered).preserves
      (fun database =>
        ∃ later ∈ database.reservations, row.Proceeds later)
      (fun _ _ stays => stays) ?_ present
  rintro change written after rfl applied ⟨later, isLater, proceeds⟩
  have sound :=
    reservationsSound_of_reachable (insertsSound platform calls) .empty
      (reached.trans reachedBefore)
  obtain ⟨version, isVersion, moved⟩ :=
    (sound.step
      (insertsSound platform calls (reached.trans reachedBefore) running)
      applied).2 later isLater
  exact ⟨version, isVersion, proceeds.trans moved⟩

end FundingCall

/--
In every run of the calls there is at most one reservation of an id and of a
session.  An open one has no settlement; the settled and the released amount
of a closed one of at most 2^45 tokens add up to what it had reserved.  No row
is ever lost: it keeps what it was asked for and the delivery that was stored,
it is never reserved again, and once it is closed nothing changes it any more.
-/
theorem reservations_settleOnce
    {lost : Bool}
    {platform : Platform}
    {calls : Nat → FundingCall}
    {middle last : Config sparkz Failure Database}
    (reached :
      Reachable (semantics lost) (FundingCall.start platform .empty calls)
        middle)
    (continued : Reachable (semantics lost) middle last) :
    last.shared.reservations.Pairwise SpendReservation.Distinct ∧
      (∀ row ∈ last.shared.reservations, row.Sound) ∧
      ∀ row ∈ middle.shared.reservations,
        ∃ later ∈ last.shared.reservations, row.Proceeds later := by
  obtain ⟨distinct, sound⟩ :=
    reservationsSound_of_reachable
      (FundingCall.insertsSound platform calls) .empty
      (reached.trans continued)
  exact
    ⟨distinct, sound, fun row member =>
      FundingCall.reservation_proceeds reached continued member⟩

/-! ## A session that is completed twice -/

/-- A charging session reserves five tokens. -/
def chargingReservation : ReserveRequest where
  uid := "driver"
  walletAddress := "0xA1"
  sessionId := "session"
  providerId := "provider"
  amount := .ofNat 5
  onChainBalance := none
  authorizationTxHash := none
  authorizationAmount := none

/-- The session is claimed and completed, retried and completed again. -/
def reservationCalls : Nat → FundingCall
  | 0 =>
      .store
        (.reserve chargingReservation
          ⟨pure (.ofNat 10), fun _ => trivial⟩)
  | 1 => .store (.claimForSettlement "driver" "session" "provider")
  | 2 =>
      .store
        (.complete "" (.ofNat 3) (.ofNat 3)
          (some TransactionHash.sample.text))
  | 3 => .store (.retry "" "timeout")
  | _ =>
      .store
        (.complete "" (.ofNat 4) (.ofNat 4)
          (some TransactionHash.sample.text))

/-- The run up to the first completion. -/
def chargedOnce : Option (Config sparkz Failure Database) :=
  (FundingCall.start .sample .empty reservationCalls).run?
    (semantics true) (fun _ _ => true)
    (StoreCall.inOrder [0, 0, 0, 0, 0, 0, 0, 0, 1, 2, 2, 2, 2])

/-- The run with the second completion. -/
def chargedAgain : Option (Config sparkz Failure Database) :=
  chargedOnce.bind fun config =>
    config.run? (semantics true) (fun _ _ => true)
      (StoreCall.inOrder [3, 4, 4, 4, 4])

/-- The second completion changes nothing of the first one. -/
theorem chargedAgain_settlesOnce :
    ∃ middle last row,
      chargedOnce = some middle ∧
        chargedAgain = some last ∧
        (ownPast 4 last.history).length = 4 ∧
        row.settledAmount = some ⟨300⟩ ∧
        row.releasedAmount = some ⟨200⟩ ∧
        row ∈ middle.shared.reservations ∧
        row ∈ last.shared.reservations ∧
        last.shared.reservations.Pairwise SpendReservation.Distinct := by
  have isFirst :
      chargedOnce.map
          (fun config =>
            config.shared.reservations.map fun row =>
              (row.status, row.settledAmount, row.releasedAmount)) =
        some [(.settled, some ⟨300⟩, some ⟨200⟩)] := by
    decide +kernel
  have isSecond :
      chargedAgain.map (fun config => (ownPast 4 config.history).length) =
        some 4 := by
    decide +kernel
  obtain ⟨middle, isMiddle, shown⟩ := Option.map_eq_some_iff.mp isFirst
  obtain ⟨last, isLast, length⟩ := Option.map_eq_some_iff.mp isSecond
  have continued := isLast
  rw [chargedAgain, isMiddle, Option.bind_some] at continued
  obtain ⟨distinct, _, proceeds⟩ :=
    reservations_settleOnce
      (Config.run?_sound (fun _ _ _ => trivial) .start isMiddle)
      (Config.run?_sound (fun _ _ _ => trivial) .start continued)
  obtain ⟨row, isTable, shows⟩ := List.map_eq_singleton_iff.mp shown
  obtain ⟨isSettled, amounts⟩ := Prod.mk.inj shows
  obtain ⟨settled, released⟩ := Prod.mk.inj amounts
  have member : row ∈ middle.shared.reservations := by
    rw [isTable]
    exact List.mem_singleton_self row
  obtain ⟨later, isLater, moved⟩ := proceeds row member
  have same : later = row :=
    moved.terminal (by rw [isSettled]; rfl)
  exact
    ⟨middle, last, row, isMiddle, isLast, length, settled, released,
      member, same ▸ isLater, distinct⟩

end Sparkz
