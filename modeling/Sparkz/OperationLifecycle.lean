import Sparkz.StoreCalls

namespace Sparkz

open Interleaving

/-!
# The lifecycle of a token operation

Callbacks arrive late, twice, and in any order.  A row may then only move
forward: what is projected, confirmed or failed with a hash stays so.  Two
statements lack a part of the guard that this needs, and the runs below are
those in which neither meets a row that it would move back.
-/

/-- One version of a row stands for no less than an earlier one. -/
structure TokenOperation.Monotone (before after : TokenOperation) :
    Prop where
  projected :
    before.status = .projected → after.status = .projected
  confirmed :
    before.status = .confirmed →
    after.status = .confirmed ∨ after.status = .projected
  failed :
    before.status = .failed →
    before.txHash.isSome = true →
    after.status = .failed ∧
      after.movementOutcome = before.movementOutcome
  txHash :
    ∀ hash, before.txHash = some hash → after.txHash = some hash
  movementOutcome :
    before.movementOutcome = .confirmed →
    after.movementOutcome = .confirmed

/-- What holds of every row: only a closed row with a hash is confirmed. -/
structure TokenOperation.Confirmable (row : TokenOperation) : Prop where
  status : row.status = .confirmed → row.txHash.isSome = true
  movementOutcome :
    row.movementOutcome = .confirmed →
    row.txHash.isSome = true ∧ row.status.isOpen = false

/--
A statement that moves a row back: `markPreflightFailed` has no condition on
the status, and `markProjected` derives the outcome from the amount alone.
-/
def TokenOperation.regresses (row : TokenOperation) :
    OperationWrite → Bool
  | .markPreflightFailed _ _ =>
      row.txHash.isNone && row.status == .projected
  | .markProjected =>
      row.status != .failed && row.movementOutcome == .confirmed &&
        row.amount.units == 0
  | _ => false

namespace TokenOperation

variable {row before middle after : TokenOperation}
  {write : OperationWrite}

theorem Monotone.refl (row : TokenOperation) : row.Monotone row :=
  ⟨id, Or.inl, fun isFailed _ => ⟨isFailed, rfl⟩, fun _ saved => saved,
    id⟩

theorem Monotone.trans
    (first : before.Monotone middle)
    (second : middle.Monotone after) :
    before.Monotone after where
  projected := second.projected ∘ first.projected
  confirmed := by
    intro isConfirmed
    rcases first.confirmed isConfirmed with still | isProjected
    · exact second.confirmed still
    · exact Or.inr (second.projected isProjected)
  failed := by
    intro isFailed hasHash
    obtain ⟨hash, saved⟩ := Option.isSome_iff_exists.mp hasHash
    have stillFailed := first.failed isFailed hasHash
    have stillSaved : middle.txHash.isSome = true := by
      rw [first.txHash hash saved]
      rfl
    have last := second.failed stillFailed.1 stillSaved
    exact ⟨last.1, last.2.trans stillFailed.2⟩
  txHash := fun hash saved => second.txHash hash (first.txHash hash saved)
  movementOutcome := second.movementOutcome ∘ first.movementOutcome

/-- A row of a new claim is not confirmed in any way. -/
theorem confirmable_row (data : ClaimRequest) (amount : TokenAmount) :
    (data.row amount).Confirmable := by
  constructor <;> intro impossible <;> cases impossible

/-- Every statement confirms only what has a hash. -/
theorem confirmable_set
    (confirmable : row.Confirmable)
    (admitted : row.admits write = true) :
    (row.set write).Confirmable := by
  have openUnconfirmed :
      row.status.isOpen = true → row.movementOutcome ≠ .confirmed := by
    intro isOpen isConfirmed
    rw [(confirmable.movementOutcome isConfirmed).2] at isOpen
    cases isOpen
  cases write with
  | reclaim =>
      constructor <;> intro impossible <;> cases impossible
  | markPreflightFailed error diagnostic =>
      constructor <;> intro impossible <;> cases impossible
  | leaseFailed diagnostic errorMessage =>
      constructor <;> intro impossible <;> cases impossible
  | markConfirmed errorMessage =>
      simp only [admits, Bool.and_eq_true] at admitted
      exact ⟨fun _ => admitted.1, fun _ => ⟨admitted.1, rfl⟩⟩
  | markProjectionError error =>
      simp only [admits, Bool.and_eq_true] at admitted
      exact ⟨fun _ => admitted.1, fun _ => ⟨admitted.1, rfl⟩⟩
  | markProjected =>
      refine
        ⟨fun impossible => (by cases impossible), fun isConfirmed => ?_⟩
      simp only [set] at isConfirmed
      split at isConfirmed
      · cases isConfirmed
      · rename_i positive
        simp only [admits, Bool.and_eq_true, Bool.or_eq_true,
          beq_iff_eq, positive, or_false] at admitted
        exact ⟨admitted.2, rfl⟩
  | markFailed error movementOutcome diagnostic =>
      simp only [admits, Bool.and_eq_true] at admitted
      exact
        ⟨fun impossible => (by cases impossible), fun _ =>
          ⟨admitted.1, rfl⟩⟩
  | markSubmitted hash =>
      simp only [admits, Bool.and_eq_true] at admitted
      exact
        ⟨fun impossible => (by cases impossible), fun isConfirmed =>
          absurd isConfirmed (openUnconfirmed admitted.2)⟩
  | markSubmittedAgain hash =>
      simp only [admits, Bool.and_eq_true] at admitted
      exact
        ⟨fun impossible => (by cases impossible), fun isConfirmed =>
          absurd isConfirmed (openUnconfirmed admitted.2)⟩
  | prepared hash nonce context =>
      simp only [admits, Bool.and_eq_true] at admitted
      exact
        ⟨fun impossible => (by cases impossible), fun isConfirmed =>
          absurd isConfirmed (openUnconfirmed admitted.1)⟩
  | markUnknown error diagnostic =>
      exact
        ⟨fun impossible => (by cases impossible), fun isConfirmed =>
          absurd isConfirmed (openUnconfirmed admitted)⟩
  | leaseSubmitted =>
      exact
        ⟨fun impossible => (by cases impossible), fun isConfirmed =>
          absurd isConfirmed (openUnconfirmed admitted)⟩
  | leaseUnknown diagnostic errorMessage =>
      exact
        ⟨fun impossible => (by cases impossible), fun isConfirmed =>
          absurd isConfirmed (openUnconfirmed admitted)⟩

/-- A statement that only finds open rows moves nothing back. -/
theorem monotone_of_open
    (confirmable : row.Confirmable)
    (evolves : row.Evolves after)
    (isOpen : row.status.isOpen = true) :
    row.Monotone after where
  projected := fun isProjected => by
    rw [isProjected] at isOpen
    cases isOpen
  confirmed := fun isConfirmed => by
    rw [isConfirmed] at isOpen
    cases isOpen
  failed := fun isFailed => by
    rw [isFailed] at isOpen
    cases isOpen
  txHash := evolves.txHash
  movementOutcome := fun isConfirmed => by
    rw [(confirmable.movementOutcome isConfirmed).2] at isOpen
    cases isOpen

/-- A row that failed before its broadcast has nothing to lose. -/
theorem monotone_reclaim
    (confirmable : row.Confirmable)
    (reclaimable : row.isReclaimable = true) :
    row.Monotone (row.set .reclaim) := by
  simp only [isReclaimable, Bool.and_eq_true, beq_iff_eq,
    Option.isNone_iff_eq_none] at reclaimable
  obtain ⟨⟨isFailed, noHash⟩, _⟩ := reclaimable
  constructor
  · simp [isFailed]
  · simp [isFailed]
  · simp [noHash]
  · simp [noHash]
  · intro isConfirmed
    simpa [noHash] using (confirmable.movementOutcome isConfirmed).1

/-- A row moves forward unless the statement is one that regresses it. -/
theorem monotone_set
    (confirmable : row.Confirmable)
    (admitted : row.admits write = true)
    (reclaimsFailed : write = .reclaim → row.isReclaimable = true)
    (forward : row.regresses write = false) :
    row.Monotone (row.set write) := by
  have evolves := evolves_set admitted
  cases write with
  | reclaim =>
      exact monotone_reclaim confirmable (reclaimsFailed rfl)
  | markPreflightFailed error diagnostic =>
      have noHash : row.txHash = none := by
        simpa [admits] using admitted
      constructor
      · intro isProjected
        simp [regresses, noHash, isProjected] at forward
      · intro isConfirmed
        simpa [noHash] using confirmable.status isConfirmed
      · simp [noHash]
      · simp [noHash]
      · intro isConfirmed
        simpa [noHash] using (confirmable.movementOutcome isConfirmed).1
  | markConfirmed errorMessage =>
      simp only [admits, Bool.and_eq_true, Bool.or_eq_true,
        beq_iff_eq] at admitted
      rcases admitted.2 with isOpen | isConfirmed
      · exact monotone_of_open confirmable evolves isOpen
      · constructor <;> simp [isConfirmed, set]
  | markProjectionError error =>
      simp only [admits, Bool.and_eq_true, Bool.or_eq_true,
        beq_iff_eq] at admitted
      rcases admitted.2 with isOpen | isConfirmed
      · exact monotone_of_open confirmable evolves isOpen
      · constructor <;> simp [isConfirmed, set]
  | markProjected =>
      simp only [admits, Bool.and_eq_true, bne_iff_ne, ne_eq]
        at admitted
      constructor
      · exact fun _ => rfl
      · exact fun _ => Or.inr rfl
      · exact fun isFailed => absurd isFailed admitted.1
      · exact fun _ saved => saved
      · intro isConfirmed
        have positive : row.amount.units ≠ 0 := by
          simpa [regresses, admitted.1, isConfirmed] using forward
        simp [set, positive]
  | markFailed error movementOutcome diagnostic =>
      simp only [admits, Bool.and_eq_true] at admitted
      exact monotone_of_open confirmable evolves admitted.2
  | leaseFailed diagnostic errorMessage =>
      simp only [admits, Bool.and_eq_true] at admitted
      exact monotone_of_open confirmable evolves admitted.2
  | markSubmitted hash =>
      simp only [admits, Bool.and_eq_true] at admitted
      exact monotone_of_open confirmable evolves admitted.2
  | markSubmittedAgain hash =>
      simp only [admits, Bool.and_eq_true] at admitted
      exact monotone_of_open confirmable evolves admitted.2
  | prepared hash nonce context =>
      simp only [admits, Bool.and_eq_true] at admitted
      exact monotone_of_open confirmable evolves admitted.1
  | markUnknown error diagnostic =>
      exact monotone_of_open confirmable evolves admitted
  | leaseSubmitted =>
      exact monotone_of_open confirmable evolves admitted
  | leaseUnknown diagnostic errorMessage =>
      exact monotone_of_open confirmable evolves admitted

end TokenOperation

/-! ## Runs -/

/-- A statement does not move its row back when it is issued. -/
def keepsForward
    (before : Config sparkz Failure Database)
    (entry : Entry sparkz) :
    Bool :=
  match entry.op with
  | .write (.updateOperation operationKey write)
  | .write (.settleOperation operationKey write) =>
      (before.shared.operation operationKey).all (!·.regresses write)
  | _ => true

section Run

variable {lost : Bool}
  {meets : Config sparkz Failure Database → Entry sparkz → Prop}
  {shared : Database}
  {calls : Nat → Call Unit}
  {config middle last : Config sparkz Failure Database}

/-- Throughout a run, only a closed row with a hash is confirmed. -/
theorem confirmable_of_reachable
    (disciplined : Disciplined lost meets shared calls)
    (atStart : ∀ row ∈ shared.operations, row.Confirmable)
    (reached :
      ReachableWhen (semantics lost) meets (.initial shared calls)
        config) :
    ∀ row ∈ config.shared.operations, row.Confirmable :=
  rowInvariant TokenOperation.Confirmable disciplined atStart
    TokenOperation.confirmable_row
    (fun _ _ admitted confirmable =>
      TokenOperation.confirmable_set confirmable admitted)
    reached

/-- A statement that is issued moves the row it finds forward. -/
theorem monotone_of_applied
    (disciplined : Disciplined lost meets shared calls)
    (atStart : ∀ row ∈ shared.operations, row.Confirmable)
    (reached :
      ReachableWhen (semantics lost) meets (.initial shared calls)
        config)
    {thread : Nat} {change : Change}
    {rest : Op.Answer (.write change) → Call Unit}
    (running :
      config.threads thread = some (.perform (.write change) rest))
    {answer : Op.Answer (.write change)}
    (forward : keepsForward config ⟨thread, .write change, answer⟩ = true)
    {result : change.Result} {after : Database}
    (applied : change.apply config.shared = .ok (result, after))
    {operationKey : String}
    {row : TokenOperation}
    (found : config.shared.operation operationKey = some row) :
    ∃ later,
      after.operation operationKey = some later ∧
        row.Monotone later := by
  obtain ⟨later, isLater, leaves⟩ :=
    (Change.operationsEffect applied).find_some found
  refine ⟨later, isLater, ?_⟩
  obtain ⟨member, isKey⟩ := Database.operation_eq_some found
  have writes := disciplined reached running
  rcases leaves with rfl | ⟨write, writesRow, admitted, rfl⟩
  · exact .refl _
  rw [isKey] at writesRow
  refine
    TokenOperation.monotone_set
      (confirmable_of_reachable disciplined atStart reached row member)
      admitted ?_ ?_
  · rintro rfl
    rw [writesRow.reclaim_cases writes] at writes
    obtain ⟨data, _, _, saved, rfl, _, otherFound, reclaimable⟩ :=
      writes.reclaim_cases
    obtain ⟨current, isCurrent, _, stays⟩ :=
      foundRow_stays disciplined.reclaims reached running
        otherFound.found
    rw [found] at isCurrent
    cases isCurrent
    exact stays reclaimable
  · cases writesRow with
    | update =>
        simpa [keepsForward, found] using forward
    | settle =>
        simpa [keepsForward, found] using forward
    | prepare isTarget =>
        rfl
    | @updateLease _ _ leaseWrite lease isLease isTarget =>
        cases leaseWrite <;> rfl

/-- The row with a key never moves back. -/
theorem monotone_of_continued
    (disciplined :
      Disciplined lost (fun before entry =>
        keepsForward before entry = true) shared calls)
    (atStart : ∀ row ∈ shared.operations, row.Confirmable)
    (reached :
      ReachableWhen (semantics lost)
        (fun before entry => keepsForward before entry = true)
        (.initial shared calls) middle)
    (continued :
      ReachableWhen (semantics lost)
        (fun before entry => keepsForward before entry = true)
        middle last)
    {operationKey : String}
    {row : TokenOperation}
    (found : middle.shared.operation operationKey = some row) :
    ∃ later,
      last.shared.operation operationKey = some later ∧
        row.Monotone later := by
  induction continued with
  | start =>
      exact ⟨row, found, .refl row⟩
  | step continued step met inductionHypothesis =>
      cases step with
      | perform running answered =>
          refine
            (respond_effect answered).preserves
              (fun database =>
                ∃ later,
                  database.operation operationKey = some later ∧
                    row.Monotone later)
              (fun _ _ => id) ?_ inductionHypothesis
          rintro change result after rfl applied
            ⟨later, isLater, monotone⟩
          obtain ⟨next, isNext, further⟩ :=
            monotone_of_applied disciplined atStart
              (reached.trans continued) running (met _ rfl) applied
              isLater
          exact ⟨next, isNext, monotone.trans further⟩
      | stop thread =>
          exact inductionHypothesis

end Run

/--
In a run of store calls in which no statement meets a row that it moves back,
no token operation ever moves back.
-/
theorem tokenOperation_neverMovesBack
    {lost : Bool}
    {platform : Platform}
    {calls : Nat → StoreCall}
    {middle last : Config sparkz Failure Database}
    (reached :
      ReachableWhen (semantics lost)
        (fun before entry => keepsForward before entry = true)
        (StoreCall.start platform .empty calls) middle)
    (continued :
      ReachableWhen (semantics lost)
        (fun before entry => keepsForward before entry = true)
        middle last)
    {operationKey : String}
    {row : TokenOperation}
    (found : middle.shared.operation operationKey = some row) :
    ∃ later,
      last.shared.operation operationKey = some later ∧
        row.Monotone later :=
  monotone_of_continued (StoreCall.disciplined platform calls)
    (fun _ member => absurd member List.not_mem_nil) reached continued
    found

/-! ## A stale failure of the preflight -/

/-- The claim of an award of nothing. -/
def zeroAwardClaim : ClaimRequest where
  operationKey := "award:1"
  operationType := .award
  requestFingerprint := "intent"
  uid := jsString "alice"
  walletAddress := "0xA1"
  amount := .ofNat 0
  sessionId := some "session"
  providerId := some "provider"
  chargingSessionId := none
  reservationId := none
  intentContext := none
  legacyKey := none

/-- An award of nothing is projected while an old request still fails. -/
def staleFailureCalls : Nat → StoreCall
  | 0 => .claim zeroAwardClaim none
  | 1 => .markProjected "award:1"
  | _ => .markPreflightFailed "award:1" "gone" none

/-- The run up to the claim. -/
def claimedZeroAward : Option (Config sparkz Failure Database) :=
  (StoreCall.start .sample .empty staleFailureCalls).run?
    (semantics false) keepsForward (StoreCall.inOrder [0, 0, 0, 0])

/-- The run up to the projection. -/
def projectedZeroAward : Option (Config sparkz Failure Database) :=
  claimedZeroAward.bind fun config =>
    config.run? (semantics false) keepsForward
      (StoreCall.inOrder [1, 1, 1, 1])

/-- The stale failure after it, which no condition holds back. -/
def failedZeroAward : Option (Config sparkz Failure Database) :=
  projectedZeroAward.bind fun config =>
    config.run? (semantics false) (fun _ _ => true)
      (StoreCall.inOrder [2])

/-- Between its claim and its projection the row only moves forward. -/
theorem projectedZeroAward_movesForward :
    ∃ config last later,
      claimedZeroAward = some config ∧
        projectedZeroAward = some last ∧
        last.shared.operation "award:1" = some later ∧
        (zeroAwardClaim.row ⟨0⟩).Monotone later := by
  have isRow :
      claimedZeroAward.bind (·.shared.operation "award:1") =
        some (zeroAwardClaim.row ⟨0⟩) := by
    decide +kernel
  obtain ⟨config, isConfig, found⟩ := Option.bind_eq_some_iff.mp isRow
  obtain ⟨last, isLast⟩ :=
    Option.isSome_iff_exists.mp
      (show projectedZeroAward.isSome = true by decide +kernel)
  have continued := isLast
  rw [projectedZeroAward, isConfig, Option.bind_some] at continued
  obtain ⟨later, isLater, monotone⟩ :=
    tokenOperation_neverMovesBack
      (Config.run?_sound (fun _ _ => id) .start isConfig)
      (Config.run?_sound (fun _ _ => id) .start continued) found
  exact ⟨config, last, later, isConfig, isLast, isLater, monotone⟩

/-- Without the condition, a stale failure moves a projected row back. -/
theorem stalePreflightFailure_movesBack :
    ¬ ∀ (platform : Platform) (calls : Nat → StoreCall)
        (middle last : Config sparkz Failure Database)
        (operationKey : String) (row : TokenOperation),
        Reachable (semantics false)
          (StoreCall.start platform .empty calls) middle →
        Reachable (semantics false) middle last →
        middle.shared.operation operationKey = some row →
        ∃ later,
          last.shared.operation operationKey = some later ∧
            row.Monotone later := by
  intro neverMovesBack
  have isProjected :
      (projectedZeroAward.bind (·.shared.operation "award:1")).map
        (·.status) = some .projected := by
    decide +kernel
  have isFailed :
      (failedZeroAward.bind (·.shared.operation "award:1")).map
        (·.status) = some .failed := by
    decide +kernel
  obtain ⟨row, isRow, projected⟩ := Option.map_eq_some_iff.mp isProjected
  obtain ⟨middle, isMiddle, found⟩ := Option.bind_eq_some_iff.mp isRow
  obtain ⟨later, isLater, failed⟩ := Option.map_eq_some_iff.mp isFailed
  obtain ⟨last, isLast, laterFound⟩ := Option.bind_eq_some_iff.mp isLater
  have claimed : ∃ config, claimedZeroAward = some config :=
    Option.isSome_iff_exists.mp (by decide +kernel)
  obtain ⟨config, isConfig⟩ := claimed
  have first := Config.run?_sound (fun _ _ => id) .start isConfig
  have second := isMiddle
  rw [projectedZeroAward, isConfig, Option.bind_some] at second
  have third := isLast
  rw [failedZeroAward, isMiddle, Option.bind_some] at third
  obtain ⟨_, isOther, monotone⟩ :=
    neverMovesBack .sample staleFailureCalls middle last "award:1" row
      (Config.run?_sound (fun _ _ => id) first second).reachable
      (Config.run?_sound (fun _ _ _ => trivial) .start third) found
  rw [laterFound] at isOther
  cases isOther
  rw [monotone.projected projected] at failed
  cases failed

end Sparkz
