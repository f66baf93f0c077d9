import Sparkz.TokenOperationsConformance
import Sparkz.SpendReservations

namespace Sparkz

open Interleaving

/-!
# What a reservation may write

`reserve` inserts a row only after it has compared the amount, under the lock of
the wallet, with the sampled balance and everything that is held against it.
-/

namespace ReserveRequest

/-- The lock of the wallet that a reservation holds from. -/
abbrev walletLock (data : ReserveRequest) : LockKey :=
  .wallet (lowerText data.walletAddress)

/-- The reserved amount fits into the balance that was sampled for it. -/
def WithinBalance
    (data : ReserveRequest)
    (amount : TokenAmount)
    (past : Past) :
    Prop :=
  ∃ sampled balance holds manual,
    NotedUnder data.walletLock (.balance sampled) past ∧
      truncateTokenAmount sampled = some balance ∧
      ReadUnder data.walletLock
        (.reservationHolds data.walletAddress) holds past ∧
      ReadUnder data.walletLock
        (.manualHolds data.walletAddress none) manual past ∧
      amount.units + (holds + manual) ≤ balance.units

/-- What `reserve` writes, and what it has read by then. -/
def Writes
    (data : ReserveRequest)
    (past : Past)
    (change : Change) :
    Prop :=
  ∃ id amount authorizationTxHash authorizationAmount,
    canonicalTokenAmount data.amount = some amount ∧
      data.WithinBalance amount past ∧
      change =
        .insertReservation
          (data.row id amount authorizationTxHash authorizationAmount)

end ReserveRequest

section Reserve

variable {data : ReserveRequest} {amount : TokenAmount}
  {asks : ChainRequest → Prop} {past : Past}
  {getOnChainBalance : Option (Call JsNumber)}

/-- The balance is sampled inside the transaction. -/
theorem onChainBalance_obeys
    (outside :
      ∀ sample, getOnChainBalance = some sample →
        AsksOutside asks sample) :
    (SpendReservations.onChainBalance data getOnChainBalance).Obeys
      (insideTransaction asks) past fun _ reached =>
        ExtendsBy (insideTransaction asks) past reached := by
  unfold SpendReservations.onChainBalance
  split
  · rename_i sample
    rw [Program.obeys_bind]
    refine ((outside sample rfl).inside past).weaken ?_
    rintro (failure | sampled) reached inside
    · exact inside
    · exact inside
  · exact .none

/-- The admission compares with everything that is held. -/
theorem insertAdmitted_obeys
    {authorizationAmount : Option TokenAmount}
    {held : Nat}
    (outside :
      ∀ sample, getOnChainBalance = some sample →
        AsksOutside asks sample)
    (canonical : canonicalTokenAmount data.amount = some amount)
    (isHeld :
      ReadUnder data.walletLock (.reservationHolds data.walletAddress)
        held past) :
    (SpendReservations.insertAdmitted data amount authorizationAmount held
      getOnChainBalance).Obeys
      (writesOnly asks data.Writes) past fun _ _ => True := by
  unfold SpendReservations.insertAdmitted
  rw [Program.obeys_bind]
  refine
    (obeys_writesOnly_of_inside (onChainBalance_obeys outside)).weaken ?_
  rintro (failure | sampled) sampledPast ⟨inside, _⟩
  · trivial
  have stillHeld := isHeld.extend inside
  have holdsLock := stillHeld.holds
  cases sampled with
  | none =>
      trivial
  | some sampledBalance =>
      dsimp only
      rw [Program.obeys_bind, obeys_note]
      refine ⟨trivial, ?_⟩
      dsimp only
      split
      · trivial
      · rename_i balance floored
        rw [Program.obeys_bind, obeys_read]
        refine ⟨trivial, fun manual => ?_, fun error => trivial⟩
        dsimp only
        split
        · trivial
        · rename_i fits
          rw [Program.obeys_bind, obeys_service]
          refine ⟨trivial, fun id => ?_⟩
          dsimp only
          rw [Program.obeys_bind, obeys_orThrow]
          split
          · rename_i authorizationTxHash _
            simp only [Program.obeys_bind, obeys_write,
              writesOnly_write, Program.obeys_pure, implies_true,
              and_true]
            refine
              ⟨id, amount, authorizationTxHash, authorizationAmount,
                canonical, ?_, rfl⟩
            refine
              ⟨sampledBalance, balance, held, manual, ?_, floored, ?_,
                ?_, Nat.le_of_not_lt fits⟩ <;>
              simp [Op.endsTransaction, stillHeld, holdsLock]
          · trivial

/-- `reserve` writes at most its row, under the lock of the wallet. -/
theorem reserve_obeys
    (outside :
      ∀ sample, getOnChainBalance = some sample →
        AsksOutside asks sample) :
    (SpendReservations.reserve data getOnChainBalance).Obeys
      (writesOnly asks data.Writes) past fun _ _ => True := by
  unfold SpendReservations.reserve
  rw [obeys_transaction]
  simp only [writesOnly_release, true_and]
  split
  · trivial
  rename_i amount canonical
  rw [Program.obeys_bind, obeys_orThrow]
  split
  · rename_i authorizationAmount _
    simp only [Program.obeys_bind, obeys_lock, obeys_read,
      writesOnly_lock, writesOnly_read, true_and, implies_true,
      and_true]
    intro found held
    cases found with
    | none =>
        refine insertAdmitted_obeys outside canonical ?_
        simp [Op.endsTransaction]
    | some existing =>
        dsimp only
        split <;> trivial
  · trivial

end Reserve

section Settle

variable {asks : ChainRequest → Prop} {past : Past}

/-- `claimForSettlement` issues its one statement. -/
theorem reservationClaimForSettlement_obeys
    {uid sessionId providerId : String} :
    (SpendReservations.claimForSettlement uid sessionId
      providerId).Obeys
      (writesOnly asks fun _ change =>
        change = .claimForSettlement uid sessionId providerId)
      past fun _ _ => True := by
  simp [SpendReservations.claimForSettlement]

/-- The statement of `persistSettlementContext`. -/
def PersistSettlementContextWrites
    (id : String)
    (deliveredKwh : JsNumber)
    (_ : Past)
    (change : Change) :
    Prop :=
  ∃ parts,
    boundedReading deliveredKwh = .ok parts ∧
      change = .persistSettlementContext id parts

/-- `persistSettlementContext` issues its statement for a bounded reading. -/
theorem persistSettlementContext_obeys
    {id : String}
    {deliveredKwh : JsNumber} :
    (SpendReservations.persistSettlementContext id deliveredKwh).Obeys
      (writesOnly asks (PersistSettlementContextWrites id deliveredKwh))
      past fun _ _ => True := by
  unfold SpendReservations.persistSettlementContext
  rw [Program.obeys_bind, obeys_orThrow]
  cases bounded : boundedReading deliveredKwh with
  | error failure =>
      trivial
  | ok parts =>
      simp [PersistSettlementContextWrites, bounded]

/-- The statement of `complete`. -/
def CompleteWrites
    (id : String)
    (deliveredKwh settledAmount : JsNumber)
    (txHash : Option String)
    (_ : Past)
    (change : Change) :
    Prop :=
  ∃ hash,
    optionalHash txHash "reservation transaction hash" = .ok hash ∧
      change = .completeReservation id deliveredKwh settledAmount hash

/-- `complete` issues its one statement. -/
theorem complete_obeys
    {id : String}
    {deliveredKwh settledAmount : JsNumber}
    {txHash : Option String} :
    (SpendReservations.complete id deliveredKwh settledAmount
      txHash).Obeys
      (writesOnly asks
        (CompleteWrites id deliveredKwh settledAmount txHash))
      past fun _ _ => True := by
  unfold SpendReservations.complete
  rw [Program.obeys_bind, obeys_orThrow]
  cases accepted :
      optionalHash txHash "reservation transaction hash" with
  | error failure =>
      trivial
  | ok hash =>
      simp only [obeys_transaction, Program.obeys_bind, obeys_read,
        writesOnly_read, writesOnly_release, true_and, implies_true,
        and_true]
      intro found
      cases found with
      | none =>
          trivial
      | some identity =>
          simp [Program.obeys_bind, CompleteWrites, accepted]

/-- `retry` issues its one statement. -/
theorem retry_obeys {id error : String} :
    (SpendReservations.retry id error).Obeys
      (writesOnly asks fun _ change =>
        change = .retryReservation id error)
      past fun _ _ => True := by
  simp [SpendReservations.retry]

end Settle

end Sparkz
