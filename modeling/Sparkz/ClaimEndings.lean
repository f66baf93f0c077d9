import Sparkz.SpendFootprint
import Sparkz.UninterruptedCalls

namespace Sparkz

open Interleaving

/-!
# How the claim of a stored operation ends

A claim of a key that has a row compares the two intents.  It takes the row
over when the row failed before its broadcast, and only reads it otherwise.
-/

/-- What a claim makes of a stored row: the row it returns, and the tables. -/
inductive ClaimRequest.Finds
    (data : ClaimRequest)
    (stored : TokenOperation)
    (before after : Database) :
    TokenOperation →
    (acquired : Bool) →
    Prop where
  | takenOver
      (isReclaimable : stored.isReclaimable = true)
      (written :
        after.rows =
          (before.mapOperation data.operationKey .reclaim).rows) :
      data.Finds stored before after (stored.set .reclaim) true
  | kept
      (notReclaimable : stored.isReclaimable = false)
      (unchanged : after.rows = before.rows) :
      data.Finds stored before after stored false

section Endings

variable {data : ClaimRequest} {amount : TokenAmount}
  {sampler : Option (Call JsNumber)}
  {stored row : TokenOperation} {acquired : Bool}
  {thread : Nat} {allowed : Choice → Prop}
  {before middle after : Database}

/-- The capacity check reads; the sampler must not write either. -/
theorem checkManualCapacity_keepsRows
    (samples : ∀ sample ∈ sampler, Issues Op.keepsRows sample) :
    Issues Op.keepsRows (checkManualCapacity data amount sampler) := by
  unfold checkManualCapacity
  split
  · refine .bind (samples _ rfl) fun sampled =>
      .bind (.ofNote trivial) fun _ => ?_
    split
    · exact .ofThrow
    · refine .bind (.ofRead trivial) fun holds =>
        .bind (.ofRead trivial) fun unresolvedManual => ?_
      exact .ofIte .ofThrow .ofPure
  · exact .ofPure

/-- A row is found again in tables that are the same. -/
theorem Database.operation_of_rows
    {database other : Database}
    (same : database.rows = other.rows)
    (operationKey : String) :
    database.operation operationKey = other.operation operationKey :=
  Query.answer_of_rows same (.operation operationKey)

/-- A statement on the tables does not look at the locks. -/
theorem Database.mapOperation_rows
    {database other : Database}
    (same : database.rows = other.rows)
    (operationKey : String)
    (write : OperationWrite) :
    (database.mapOperation operationKey write).rows =
      (other.mapOperation operationKey write).rows := by
  show database.rows.mapOperation operationKey write =
    other.rows.mapOperation operationKey write
  rw [same]

/-- Taking over a row always finds it. -/
theorem Database.updateOperation_reclaim
    {database : Database}
    {operationKey : String}
    (isStored : database.operation operationKey = some stored) :
    database.updateOperation operationKey .reclaim =
      .ok
        (some (stored.set .reclaim),
          database.mapOperation operationKey .reclaim) := by
  simp [Database.updateOperation, isStored, TokenOperation.admits,
    Database.hashCollides, Database.newHash]

theorem TokenOperations.claimExisting_of_ends
    (samples : ∀ sample ∈ sampler, Issues Op.keepsRows sample)
    (isStored : before.operation data.operationKey = some stored)
    (ends :
      (claimExisting data amount sampler stored).Ends
        (answering thread allowed) before
        (.ok (.operation row acquired)) after) :
    assertOperationIntent stored data amount
        (data.operationType != .award) = .ok () ∧
      data.Finds stored before after row acquired := by
  unfold TokenOperations.claimExisting at ends
  obtain ⟨_, _, asserted, rest⟩ := Program.ends_bind_ok.mp ends
  obtain ⟨intact, rfl⟩ := ends_orThrow_ok asserted
  refine ⟨intact, ?_⟩
  split at rest
  · rename_i isReclaimable
    obtain ⟨_, checked, capacity, rest⟩ := Program.ends_bind_ok.mp rest
    have checkedRows :=
      rows_of_ends (checkManualCapacity_keepsRows samples) capacity
    obtain ⟨reclaimed, written, isWritten, rest⟩ :=
      Program.ends_bind_ok.mp rest
    obtain ⟨next, applied, writtenRows⟩ := ends_write_ok isWritten
    have found : checked.operation data.operationKey = some stored :=
      (Database.operation_of_rows checkedRows _).trans isStored
    have isUpdate := Database.updateOperation_reclaim found
    cases (applied.symm.trans isUpdate : Except.ok _ = Except.ok _)
    obtain ⟨⟨⟩, rfl⟩ := Program.ends_done.mp rest
    exact
      .takenOver isReclaimable
        (writtenRows.trans (Database.mapOperation_rows checkedRows _ _))
  · rename_i notReclaimable
    obtain ⟨⟨⟩, rfl⟩ := Program.ends_done.mp rest
    exact .kept (Bool.eq_false_iff.mpr notReclaimable) rfl

/-- Locking the key of a stored row leads to that row. -/
theorem TokenOperations.claimLocked_of_ends
    (samples : ∀ sample ∈ sampler, Issues Op.keepsRows sample)
    (isStored : before.operation data.operationKey = some stored)
    (ends :
      (claimLocked data amount sampler).Ends (answering thread allowed)
        before (.ok (.operation row acquired)) after) :
    assertOperationIntent stored data amount
        (data.operationType != .award) = .ok () ∧
      data.Finds stored before after row acquired := by
  unfold TokenOperations.claimLocked at ends
  obtain ⟨_, _, isLocked, rest⟩ := Program.ends_bind_ok.mp ends
  have lockedRows := ends_lock isLocked
  obtain ⟨found, locked, isFound, rest⟩ := Program.ends_bind_ok.mp rest
  obtain ⟨isAnswer, rfl⟩ := ends_read_ok isFound
  have stillStored : locked.operation data.operationKey = some stored :=
    (Database.operation_of_rows lockedRows _).trans isStored
  have isExisting : found = some stored := isAnswer.trans stillStored
  subst isExisting
  obtain ⟨intact, finds⟩ := claimExisting_of_ends samples stillStored rest
  refine ⟨intact, ?_⟩
  cases finds with
  | takenOver isReclaimable written =>
      exact
        .takenOver isReclaimable
          (written.trans (Database.mapOperation_rows lockedRows _ _))
  | kept notReclaimable unchanged =>
      exact .kept notReclaimable (unchanged.trans lockedRows)

/-- The claim of a key that has a row. -/
theorem TokenOperations.claim_of_ends
    (samples : ∀ sample ∈ sampler, Issues Op.keepsRows sample)
    (isAmount : canonicalTokenAmount data.amount = some amount)
    (isStored : before.operation data.operationKey = some stored)
    (ends :
      (claim data sampler).Ends (answering thread allowed) before
        (.ok (.operation row acquired)) after) :
    assertOperationIntent stored data amount
        (data.operationType != .award) = .ok () ∧
      data.Finds stored before after row acquired := by
  unfold TokenOperations.claim at ends
  simp only [isAmount] at ends
  obtain ⟨last, ended, releasedRows⟩ := ends_transaction_ok ends
  have inLocked :
      ∃ locked : Database,
        locked.rows = before.rows ∧
          (claimLocked data amount sampler).Ends
            (answering thread allowed) locked
            (.ok (.operation row acquired)) last := by
    split at ended
    · obtain ⟨_, locked, isLocked, rest⟩ := Program.ends_bind_ok.mp ended
      exact ⟨locked, ends_lock isLocked, rest⟩
    · exact ⟨before, rfl, ended⟩
  obtain ⟨locked, lockedRows, rest⟩ := inLocked
  have stillStored : locked.operation data.operationKey = some stored :=
    (Database.operation_of_rows lockedRows _).trans isStored
  obtain ⟨intact, finds⟩ := claimLocked_of_ends samples stillStored rest
  refine ⟨intact, ?_⟩
  cases finds with
  | takenOver isReclaimable written =>
      refine .takenOver isReclaimable (releasedRows.trans ?_)
      exact written.trans (Database.mapOperation_rows lockedRows _ _)
  | kept notReclaimable unchanged =>
      exact
        .kept notReclaimable
          (releasedRows.trans (unchanged.trans lockedRows))

end Endings

end Sparkz
