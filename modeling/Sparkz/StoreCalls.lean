import Sparkz.StoreRuns

namespace Sparkz

open Interleaving

/-!
# Calls of the store functions

A store call is one call of one store function with any arguments.  Callbacks
may ask the chain and the services anything, but they do not touch the store.
-/

/-- A callback that only asks the chain and services. -/
structure OutsideCall (α : Type) where
  call : Call α
  outside : AsksOutside (fun _ => True) call

/-- A preparation request whose callbacks do not touch the store. -/
structure PreparationCall where
  data : TreasuryTransactionPreparationRequest
  readsNonce : AsksOutside (fun _ => True) data.getPendingNonce
  signs : ∀ nonce, AsksOutside (fun _ => True) (data.prepare nonce)

/-- One call of one store function. -/
inductive StoreCall where
  | claim : ClaimRequest → Option (OutsideCall JsNumber) → StoreCall
  | markSubmitted : (operationKey txHash : String) → StoreCall
  | markUnknown :
      (operationKey error : String) →
      DiagnosticArgument →
      StoreCall
  | markConfirmed :
      (operationKey : String) →
      (errorMessage : Option String) →
      StoreCall
  | markProjectionError : (operationKey error : String) → StoreCall
  | markProjected : (operationKey : String) → StoreCall
  | markFailed :
      (operationKey error : String) →
      MovementOutcome →
      DiagnosticArgument →
      StoreCall
  | markPreflightFailed :
      (operationKey error : String) →
      DiagnosticArgument →
      StoreCall
  | prepare : PreparationCall → StoreCall
  | leaseMarkSubmitted : (operationKey txHash : String) → StoreCall
  | leaseMarkUnknown :
      (operationKey : String) →
      TransactionDiagnostic →
      (errorMessage : String) →
      StoreCall
  | leaseMarkFailed :
      (operationKey : String) →
      TransactionDiagnostic →
      (errorMessage : String) →
      StoreCall
  | reserve : ReserveRequest → OutsideCall JsNumber → StoreCall
  | claimForSettlement :
      (uid sessionId providerId : String) →
      StoreCall
  | persistSettlementContext :
      (id : String) →
      (deliveredKwh : JsNumber) →
      StoreCall
  | complete :
      (id : String) →
      (deliveredKwh settledAmount : JsNumber) →
      (txHash : Option String) →
      StoreCall
  | retry : (id error : String) → StoreCall
  | recordAward : RecordAwardRequest → StoreCall
  | recordSpend : RecordSpendRequest → StoreCall

namespace StoreCall

/-- Run a call for its effects. -/
def discard {α : Type} (call : Call α) : Call Unit := do
  let _ ← call
  return ()

/-- The program of a store call. -/
def run (platform : Platform) : StoreCall → Call Unit
  | .claim data sampler =>
      discard (TokenOperations.claim data (sampler.map (·.call)))
  | .markSubmitted operationKey txHash =>
      discard (TokenOperations.markSubmitted operationKey txHash)
  | .markUnknown operationKey error diagnostic =>
      discard
        (TokenOperations.markUnknown operationKey error diagnostic)
  | .markConfirmed operationKey errorMessage =>
      discard (TokenOperations.markConfirmed operationKey errorMessage)
  | .markProjectionError operationKey error =>
      discard (TokenOperations.markProjectionError operationKey error)
  | .markProjected operationKey =>
      discard (TokenOperations.markProjected operationKey)
  | .markFailed operationKey error movementOutcome diagnostic =>
      discard
        (TokenOperations.markFailed operationKey error movementOutcome
          diagnostic)
  | .markPreflightFailed operationKey error diagnostic =>
      discard
        (TokenOperations.markPreflightFailed operationKey error
          diagnostic)
  | .prepare request => do
      let preparation ← TreasuryTransactions.prepare request.data
      note (.prepared preparation.lease preparation.alreadyPrepared)
  | .leaseMarkSubmitted operationKey txHash =>
      discard (TreasuryTransactions.markSubmitted operationKey txHash)
  | .leaseMarkUnknown operationKey diagnostic errorMessage =>
      discard
        (TreasuryTransactions.markUnknown operationKey diagnostic
          errorMessage)
  | .leaseMarkFailed operationKey diagnostic errorMessage =>
      discard
        (TreasuryTransactions.markFailed operationKey diagnostic
          errorMessage)
  | .reserve data sampler =>
      discard (SpendReservations.reserve data (some sampler.call))
  | .claimForSettlement uid sessionId providerId =>
      discard
        (SpendReservations.claimForSettlement uid sessionId providerId)
  | .persistSettlementContext id deliveredKwh =>
      discard
        (SpendReservations.persistSettlementContext id deliveredKwh)
  | .complete id deliveredKwh settledAmount txHash =>
      discard
        (SpendReservations.complete id deliveredKwh settledAmount
          txHash)
  | .retry id error => discard (SpendReservations.retry id error)
  | .recordAward data => discard (Sparkz.recordAward platform data)
  | .recordSpend data => discard (Sparkz.recordSpend data)

/-- What a store call may write, given what it has done before. -/
def Writes : StoreCall → Past → Change → Prop
  | .claim data sampler, past, change =>
      data.Writes sampler.isSome past change
  | .markSubmitted operationKey txHash, past, change =>
      MarkSubmittedWrites operationKey txHash past change
  | .markUnknown operationKey error diagnostic, _, change =>
      change =
        .updateOperation operationKey (.markUnknown error diagnostic)
  | .markConfirmed operationKey errorMessage, _, change =>
      change = .updateOperation operationKey (.markConfirmed errorMessage)
  | .markProjectionError operationKey error, _, change =>
      change = .updateOperation operationKey (.markProjectionError error)
  | .markProjected operationKey, _, change =>
      change = .settleOperation operationKey .markProjected
  | .markFailed operationKey error movementOutcome diagnostic, _,
      change =>
      change =
        .settleOperation operationKey
          (.markFailed error movementOutcome diagnostic)
  | .markPreflightFailed operationKey error diagnostic, _, change =>
      change =
        .updateOperation operationKey
          (.markPreflightFailed error diagnostic)
  | .prepare request, past, change =>
      ∃ allocation :
          request.data.Allocation (fun _ _ _ => True) past,
        change = .persistPreparation allocation.lease
  | .leaseMarkSubmitted operationKey txHash, past, change =>
      LeaseMarkSubmittedWrites operationKey txHash past change
  | .leaseMarkUnknown operationKey diagnostic errorMessage, _,
      change =>
      change =
        .updateLease operationKey none
          (.markUnknown diagnostic errorMessage)
  | .leaseMarkFailed operationKey diagnostic errorMessage, _,
      change =>
      change =
        .updateLease operationKey none
          (.markFailed diagnostic errorMessage)
  | .reserve data _, past, change => data.Writes past change
  | .claimForSettlement uid sessionId providerId, _, change =>
      change = .claimForSettlement uid sessionId providerId
  | .persistSettlementContext id deliveredKwh, past, change =>
      PersistSettlementContextWrites id deliveredKwh past change
  | .complete id deliveredKwh settledAmount txHash, past, change =>
      CompleteWrites id deliveredKwh settledAmount txHash past change
  | .retry id error, _, change => change = .retryReservation id error
  | .recordAward data, past, change => data.Writes past change
  | .recordSpend data, past, change => data.Writes past change

/-- Whatever a store call writes, some store function writes. -/
theorem Writes.storeWrites
    {call : StoreCall}
    {past : Past}
    {change : Change}
    (writes : call.Writes past change) :
    StoreWrites past change := by
  cases call with
  | claim data sampler =>
      exact .claim writes
  | markSubmitted operationKey txHash =>
      obtain ⟨hash, _, rfl | rfl⟩ := writes
      · exact .mark rfl
      · exact .mark rfl
  | prepare request =>
      obtain ⟨allocation, rfl⟩ := writes
      exact .prepare allocation
  | leaseMarkSubmitted operationKey txHash =>
      obtain ⟨hash, _, rfl⟩ := writes
      exact .updateLease
  | leaseMarkUnknown operationKey diagnostic errorMessage =>
      cases writes
      exact .updateLease
  | leaseMarkFailed operationKey diagnostic errorMessage =>
      cases writes
      exact .updateLease
  | markProjected operationKey =>
      cases writes
      exact .settle rfl
  | markFailed operationKey error movementOutcome diagnostic =>
      cases writes
      exact .settle rfl
  | reserve data sampler =>
      exact .reserve writes
  | claimForSettlement uid sessionId providerId =>
      cases writes
      exact .claimForSettlement
  | persistSettlementContext id deliveredKwh =>
      obtain ⟨parts, _, rfl⟩ := writes
      exact .persistSettlementContext
  | complete id deliveredKwh settledAmount txHash =>
      obtain ⟨hash, _, rfl⟩ := writes
      exact .complete
  | retry id error =>
      cases writes
      exact .retry
  | recordAward data =>
      exact .recordAward writes
  | recordSpend data =>
      exact .recordSpend writes
  | _ =>
      cases writes
      exact .mark rfl

/-- What a store call may issue. -/
def protocol : StoreCall → Protocol sparkz
  | .prepare request => fun past op =>
      match op with
      | .note (.prepared lease alreadyPrepared) =>
          ∃ preparation,
            preparation.lease = lease ∧
              preparation.alreadyPrepared = alreadyPrepared ∧
              request.data.Ends (fun _ _ _ => True) [] preparation past
      | op =>
          request.data.protocol (fun _ => True) (fun _ _ _ => True)
            past op
  | call => writesOnly (fun _ => True) call.Writes

/-- What a store call has done when it ends, where it matters. -/
def Finished :
    StoreCall → Except Failure Unit → Past → Prop
  | .claim data _, result, past =>
      (result = .ok () → ∃ claimed, data.Ends claimed past) ∧
        ∀ failure, result = .error failure → NoCommit [] past
  | .prepare request, result, past =>
      ∀ failure,
        result = .error failure →
        request.data.Fails [] failure past
  | .recordAward data, result, past =>
      ProjectionFinished data.Recorded [] result past
  | .recordSpend data, result, past =>
      ProjectionFinished data.Recorded [] result past
  | _, _, _ => True

section Conformance

variable {asks : ChainRequest → Prop}

/-- What a discarded result leaves is what the call has done. -/
theorem discard_obeys {α : Type}
    (body : Call α)
    {permits : Protocol sparkz}
    {past : Past}
    (obeys : body.Obeys permits past fun _ _ => True) :
    (discard body).Obeys permits past fun _ _ => True := by
  unfold discard
  rw [Program.obeys_bind]
  refine obeys.weaken ?_
  rintro (failure | value) reached _ <;> trivial

/-- A claim ends with what it has seen, or has written nothing. -/
theorem discardClaim_obeys
    (data : ClaimRequest)
    (sampler : Option (OutsideCall JsNumber)) :
    (discard (TokenOperations.claim data (sampler.map (·.call)))).Obeys
      (writesOnly (fun _ => True) (data.Writes sampler.isSome)) []
      fun result past =>
        (result = .ok () → ∃ claimed, data.Ends claimed past) ∧
          ∀ failure, result = .error failure → NoCommit [] past := by
  have obeys :
      (TokenOperations.claim data (sampler.map (·.call))).Obeys
        (writesOnly (fun _ => True)
          (data.Writes (sampler.map (·.call)).isSome)) [] _ :=
    claim_obeys fun sample isSample => by
      obtain ⟨outsideCall, _, rfl⟩ :=
        Option.map_eq_some_iff.mp isSample
      exact outsideCall.outside
  rw [Option.isSome_map] at obeys
  unfold discard
  rw [Program.obeys_bind]
  refine obeys.weaken ?_
  rintro (failure | claimed) reached ⟨ends, noCommit⟩
  · exact
      ⟨fun impossible => (nomatch impossible), fun _ _ =>
        noCommit failure rfl⟩
  · exact
      ⟨fun _ => ⟨claimed, ends claimed rfl⟩, fun _ impossible =>
        nomatch impossible⟩

/-- A preparation notes what it returns. -/
theorem notePreparation_obeys (request : PreparationCall) :
    Program.Obeys (protocol (.prepare request))
      (do
        let preparation ← TreasuryTransactions.prepare request.data
        note (.prepared preparation.lease preparation.alreadyPrepared))
      [] fun result past =>
        ∀ failure,
          result = .error failure →
          request.data.Fails [] failure past := by
  have prepared :
      (TreasuryTransactions.prepare request.data).Obeys
        (request.data.protocol (fun _ => True) fun _ _ _ => True) []
        _ :=
    TreasuryTransactionPreparationRequest.prepare_obeys
      request.readsNonce fun nonce past =>
        (request.signs nonce past).weaken fun _ _ _ _ _ => trivial
  have obeys :
      (TreasuryTransactions.prepare request.data).Obeys
        (protocol (.prepare request)) [] _ :=
    prepared.embed ?_
  · rw [Program.obeys_bind]
    refine obeys.weaken ?_
    rintro (failure | preparation) reached ⟨⟨ends, fails⟩, _⟩
    · intro other isFailure
      cases isFailure
      exact fails failure rfl
    · dsimp only
      rw [obeys_note]
      exact
        ⟨⟨preparation, rfl, rfl, ends preparation rfl⟩,
          fun _ impossible => nomatch impossible⟩
  · intro reached op _ permitted
    cases op with
    | note noted =>
        cases noted with
        | prepared lease alreadyPrepared =>
            exact False.elim permitted
        | _ =>
            exact permitted
    | _ =>
        exact permitted

/-- A projection has found or written its movement, or nothing. -/
theorem discardProjection_obeys {α : Type}
    (body : Call α)
    {permits : Protocol sparkz}
    {recorded : Past → Prop}
    (obeys :
      body.Obeys permits [] (ProjectionFinished recorded [])) :
    (discard body).Obeys permits []
      (ProjectionFinished recorded []) := by
  unfold discard
  rw [Program.obeys_bind]
  refine obeys.weaken ?_
  rintro (failure | value) reached finished
  · exact projectionFinished_of_failure (finished.2 failure rfl)
  · exact projectionFinished_of_value (finished.1 value rfl)

end Conformance

/-- A store call writes what its function writes. -/
theorem run_obeys_writesOnly
    (platform : Platform)
    (call : StoreCall)
    (notPrepare : ∀ request, call ≠ .prepare request) :
    (call.run platform).Obeys
      (writesOnly (fun _ => True) call.Writes) [] call.Finished := by
  cases call with
  | claim data sampler =>
      exact discardClaim_obeys data sampler
  | markSubmitted operationKey txHash =>
      exact
        discard_obeys (TokenOperations.markSubmitted operationKey txHash)
          markSubmitted_obeys
  | markUnknown operationKey error diagnostic =>
      exact discard_obeys (TokenOperations.updateOrFind _ _) updateOrFind_obeys
  | markConfirmed operationKey errorMessage =>
      exact discard_obeys (TokenOperations.updateOrFind _ _) updateOrFind_obeys
  | markProjectionError operationKey error =>
      exact discard_obeys (TokenOperations.updateOrFind _ _) updateOrFind_obeys
  | markPreflightFailed operationKey error diagnostic =>
      exact discard_obeys (TokenOperations.updateOrFind _ _) updateOrFind_obeys
  | markProjected operationKey =>
      exact discard_obeys (TokenOperations.settle _ _) settle_obeys
  | markFailed operationKey error movementOutcome diagnostic =>
      exact discard_obeys (TokenOperations.settle _ _) settle_obeys
  | prepare request =>
      exact absurd rfl (notPrepare request)
  | leaseMarkSubmitted operationKey txHash =>
      exact
        discard_obeys (TreasuryTransactions.markSubmitted operationKey txHash)
          leaseMarkSubmitted_obeys
  | leaseMarkUnknown operationKey diagnostic errorMessage =>
      exact
        discard_obeys
          (TreasuryTransactions.markUnknown
            operationKey diagnostic errorMessage)
          leaseMarkUnknown_obeys
  | leaseMarkFailed operationKey diagnostic errorMessage =>
      exact
        discard_obeys
          (TreasuryTransactions.markFailed
            operationKey diagnostic errorMessage)
          leaseMarkFailed_obeys
  | reserve data sampler =>
      exact
        discard_obeys
          (SpendReservations.reserve data (some sampler.call))
          (reserve_obeys fun sample isSample =>
            Option.some.inj isSample ▸ sampler.outside)
  | claimForSettlement uid sessionId providerId =>
      exact
        discard_obeys
          (SpendReservations.claimForSettlement uid sessionId providerId)
          reservationClaimForSettlement_obeys
  | persistSettlementContext id deliveredKwh =>
      exact
        discard_obeys
          (SpendReservations.persistSettlementContext id deliveredKwh)
          persistSettlementContext_obeys
  | complete id deliveredKwh settledAmount txHash =>
      exact
        discard_obeys
          (SpendReservations.complete id deliveredKwh settledAmount txHash)
          complete_obeys
  | retry id error =>
      exact
        discard_obeys (SpendReservations.retry id error)
          retry_obeys
  | recordAward data =>
      exact discardProjection_obeys _ recordAward_obeys
  | recordSpend data =>
      exact discardProjection_obeys _ recordSpend_obeys

/-- A store call conforms to its protocol. -/
theorem run_obeys (platform : Platform) (call : StoreCall) :
    (call.run platform).Obeys call.protocol [] call.Finished := by
  cases call with
  | prepare request =>
      exact notePreparation_obeys request
  | _ =>
      exact run_obeys_writesOnly platform _ nofun

/-- The protocol of a store call permits the writes of its function. -/
theorem protocol_write
    {call : StoreCall}
    {past : Past}
    {change : Change} :
    call.protocol past (.write change) ↔ call.Writes past change := by
  cases call <;> exact Iff.rfl

/-- Store calls before their first operation. -/
abbrev start
    (platform : Platform)
    (shared : Database)
    (calls : Nat → StoreCall) :
    Config sparkz Failure Database :=
  .initial shared fun thread => (calls thread).run platform

/-- Runs of store calls write through the store functions. -/
theorem disciplined
    {lost : Bool}
    {meets : Config sparkz Failure Database → Entry sparkz → Prop}
    {shared : Database}
    (platform : Platform)
    (calls : Nat → StoreCall) :
    Disciplined lost meets shared
      fun thread => (calls thread).run platform :=
  Disciplined.ofConforming
    (fun thread => run_obeys platform (calls thread))
    fun _ _ _ permitted => (protocol_write.mp permitted).storeWrites

/-- A schedule in which nothing outside the database answers. -/
def inOrder (threads : List Nat) : List (Nat × Choice) :=
  threads.map fun thread => (thread, .databaseOnly)

end StoreCall

end Sparkz
