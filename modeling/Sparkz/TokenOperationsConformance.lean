import Sparkz.CallConformance
import Sparkz.TokenOperations

namespace Sparkz

open Interleaving

/-!
# What claiming and marking may write

A claim writes at most once, and only after it has read, under the locks that
protect them, the rows that could stand against it.  A callback writes its own
statement and nothing else.
-/

/-- Whether a statement has found the row that it updates. -/
def Change.Wrote : (change : Change) → change.Result → Prop
  | .updateOperation _ _, none => False
  | _, _ => True

/-- A write that the database has acknowledged. -/
def IsCommit (event : Event sparkz) : Prop :=
  ∃ change result,
    event = ⟨.write change, .ok result⟩ ∧ change.Wrote result

/-- No write was acknowledged since an earlier past. -/
def NoCommit (past reached : Past) : Prop :=
  ∀ event ∈ reached, IsCommit event → event ∈ past

section NoCommit

variable {asks : ChainRequest → Prop} {past reached : Past}
  {event : Event sparkz}

theorem NoCommit.refl (past : Past) : NoCommit past past :=
  fun _ member _ => member

theorem NoCommit.trans
    {middle : Past}
    (first : NoCommit past middle)
    (second : NoCommit middle reached) :
    NoCommit past reached :=
  fun event member isCommit =>
    first event (second event member isCommit) isCommit

/-- An event that is no commit may follow. -/
theorem NoCommit.cons
    (noCommit : NoCommit past reached)
    (harmless : ¬ IsCommit event) :
    NoCommit past (event :: reached) := by
  intro other member isCommit
  rcases List.mem_cons.mp member with rfl | older
  · exact absurd isCommit harmless
  · exact noCommit other older isCommit

/-- A write that failed is no commit. -/
theorem not_isCommit_refused
    {change : Change}
    {error : StoreError} :
    ¬ IsCommit ⟨.write change, .error error⟩ := by
  rintro ⟨other, result, same, _⟩
  cases same

/-- A lock is no commit. -/
theorem not_isCommit_lock
    {key : LockKey}
    {answer : Except StoreError Unit} :
    ¬ IsCommit ⟨.lock key, answer⟩ := by
  rintro ⟨other, result, same, _⟩
  cases same

/-- A statement that found no row is no commit. -/
theorem not_isCommit_notFound
    {operationKey : String}
    {operationWrite : OperationWrite} :
    ¬ IsCommit
      ⟨.write (.updateOperation operationKey operationWrite),
        .ok none⟩ := by
  rintro ⟨other, result, same, wrote⟩
  cases same
  exact wrote

/-- Inside a transaction nothing is committed. -/
theorem NoCommit.of_insideTransaction
    (extended : ExtendsBy (insideTransaction asks) past reached) :
    NoCommit past reached := by
  induction extended with
  | none =>
      exact .refl past
  | perform _ inside answer inductionHypothesis =>
      refine inductionHypothesis.cons ?_
      rintro ⟨change, result, same, _⟩
      cases same
      cases inside

/-- Giving up the locks is no commit. -/
theorem NoCommit.release
    (noCommit : NoCommit past reached) :
    NoCommit past (⟨.release, ()⟩ :: reached) := by
  refine noCommit.cons ?_
  rintro ⟨change, result, same, _⟩
  cases same

end NoCommit

/-! ## Claims -/

namespace ClaimRequest

/-- The lock of the wallet that a claim spends from. -/
abbrev walletLock (data : ClaimRequest) : LockKey :=
  .wallet (lowerText data.walletAddress)

/-- The lock of the key that is claimed. -/
abbrev keyLock (data : ClaimRequest) : LockKey :=
  .operation data.operationKey

/-- The claimed amount fits into the balance that was sampled for it. -/
def WithinBalance
    (data : ClaimRequest)
    (amount : TokenAmount)
    (past : Past) :
    Prop :=
  ∃ sampled balance holds manual,
    NotedUnder data.walletLock (.balance sampled) past ∧
      truncateTokenAmount sampled = some balance ∧
      ReadUnder data.walletLock
        (.reservationHolds data.walletAddress) holds past ∧
      ReadUnder data.walletLock
        (.manualHolds data.walletAddress (some data.operationKey))
        manual past ∧
      amount.units + (holds + manual) ≤ balance.units

/-- The capacity side of an admission. -/
structure Admitted
    (data : ClaimRequest)
    (sampled : Bool)
    (amount : TokenAmount)
    (past : Past) :
    Prop where
  canonical : canonicalTokenAmount data.amount = some amount
  walletHeld :
    data.isManualSpend = true → Holds data.walletLock past
  withinBalance :
    data.isManualSpend = true →
    sampled = true →
    data.WithinBalance amount past

/-- No other award owns the physical session of the claim. -/
def NoSessionCollision (data : ClaimRequest) (past : Past) : Prop :=
  ∀ providerId chargingSessionId,
    data.operationType = .award →
    orNull data.providerId = some providerId →
    orNull data.chargingSessionId = some chargingSessionId →
    ReadUnder (.awardChargingSession providerId chargingSessionId)
      (.otherAwardOfSession providerId chargingSessionId
        data.operationKey) none past

/-- No other award owns the legacy key of the claim. -/
def NoLegacyCollision (data : ClaimRequest) (past : Past) : Prop :=
  ∀ legacyKey,
    data.operationType = .award →
    orNull data.legacyKey = some legacyKey →
    ReadUnder (.awardLegacy legacyKey)
      (.otherAwardOfLegacyKey legacyKey data.operationKey) none past

/-- The key is new, and no other award stands against the claim. -/
structure Fresh (data : ClaimRequest) (past : Past) : Prop where
  absent :
    ReadUnder data.keyLock (.operation data.operationKey) none past
  noSessionCollision : data.NoSessionCollision past
  noLegacyCollision : data.NoLegacyCollision past

/-- A new key stays new while the transaction goes on. -/
theorem Fresh.extend
    {asks : ChainRequest → Prop}
    {data : ClaimRequest}
    {past reached : Past}
    (fresh : data.Fresh past)
    (inside : ExtendsBy (insideTransaction asks) past reached) :
    data.Fresh reached where
  absent := fresh.absent.extend inside
  noSessionCollision :=
    fun providerId chargingSessionId isAward isProvider isSession =>
      (fresh.noSessionCollision providerId chargingSessionId isAward
        isProvider isSession).extend inside
  noLegacyCollision := fun legacyKey isAward isLegacy =>
    (fresh.noLegacyCollision legacyKey isAward isLegacy).extend inside

/-- The key has a row, and the claim has the same intent. -/
structure Found
    (data : ClaimRequest)
    (amount : TokenAmount)
    (row : TokenOperation)
    (past : Past) :
    Prop where
  found :
    ReadUnder data.keyLock (.operation data.operationKey) (some row)
      past
  intended :
    assertOperationIntent row data amount
      (data.operationType != .award) = .ok ()

/-- The row that was found is about the same movement. -/
theorem Found.sameIntent
    {data : ClaimRequest}
    {amount : TokenAmount}
    {row : TokenOperation}
    {past : Past}
    (found : data.Found amount row past) :
    row.operationType = data.operationType ∧
      lowerText row.walletAddress = lowerText data.walletAddress ∧
      (data.operationType ≠ .award → row.amount = amount) := by
  have intended := found.intended
  unfold assertOperationIntent at intended
  split at intended
  · cases intended
  split at intended
  · cases intended
  rename_i sameIntent
  simp only [not_or, not_not, not_and] at sameIntent
  obtain ⟨isType, _, _, isWallet, isAmount⟩ := sameIntent
  exact
    ⟨isType, isWallet, fun notAward =>
      isAmount (by simpa using notAward)⟩

/-- What a claim writes, and what it has read by then. -/
inductive Writes
    (data : ClaimRequest)
    (sampled : Bool)
    (past : Past) :
    Change → Prop where
  | insert
      {amount : TokenAmount}
      (admitted : data.Admitted sampled amount past)
      (fresh : data.Fresh past) :
      Writes data sampled past (.insertOperation (data.row amount))
  | reclaim
      {amount : TokenAmount}
      {row : TokenOperation}
      (admitted : data.Admitted sampled amount past)
      (found : data.Found amount row past)
      (reclaimable : row.isReclaimable = true) :
      Writes data sampled past
        (.updateOperation data.operationKey .reclaim)

/-- How a claim ends when it does not throw, and what it has seen by then. -/
inductive Ends (data : ClaimRequest) :
    TokenOperationClaim → Past → Prop where
  | existing
      {amount : TokenAmount}
      {row : TokenOperation}
      {past : Past}
      (found : data.Found amount row past)
      (notReclaimable : row.isReclaimable = false) :
      Ends data (.operation row false) (⟨.release, ()⟩ :: past)
  | reclaimed
      {amount : TokenAmount}
      {row reclaimed : TokenOperation}
      {past : Past}
      (found : data.Found amount row past) :
      Ends data (.operation reclaimed true)
        (⟨.release, ()⟩ ::
          ⟨.write (.updateOperation data.operationKey .reclaim),
            .ok (some reclaimed)⟩ :: past)
  | inserted
      {amount : TokenAmount}
      {row : TokenOperation}
      {past : Past}
      (canonical : canonicalTokenAmount data.amount = some amount)
      (fresh : data.Fresh past) :
      Ends data (.operation row true)
        (⟨.release, ()⟩ ::
          ⟨.write (.insertOperation (data.row amount)), .ok row⟩ ::
          past)
  | legacy
      {award : Award}
      {past : Past}
      (fresh : data.Fresh past) :
      Ends data (.legacyRecord award) (⟨.release, ()⟩ :: past)

/-- A claim that returns has found a row of its key, or none at all. -/
theorem Ends.found_or_fresh
    {data : ClaimRequest}
    {claimed : TokenOperationClaim}
    {reached : Past}
    (ends : data.Ends claimed reached) :
    ∃ past,
      past ⊆ reached ∧
        ((∃ amount row, data.Found amount row past) ∨
          data.Fresh past) := by
  cases ends with
  | existing found notReclaimable =>
      exact
        ⟨_, List.subset_cons_self _ _, Or.inl ⟨_, _, found⟩⟩
  | reclaimed found =>
      exact
        ⟨_, List.subset_cons_of_subset _ (List.subset_cons_self _ _),
          Or.inl ⟨_, _, found⟩⟩
  | inserted canonical fresh =>
      exact
        ⟨_, List.subset_cons_of_subset _ (List.subset_cons_self _ _),
          Or.inr fresh⟩
  | legacy fresh =>
      exact ⟨_, List.subset_cons_self _ _, Or.inr fresh⟩

end ClaimRequest

section Claim

variable {asks : ChainRequest → Prop} {data : ClaimRequest}
  {amount : TokenAmount} {past : Past}
  {getOnChainBalance : Option (Call JsNumber)}

/-- The capacity check compares with one sample inside the transaction. -/
theorem checkManualCapacity_obeys
    (outside :
      ∀ sample, getOnChainBalance = some sample → AsksOutside asks sample)
    (walletHeld :
      data.isManualSpend = true → Holds data.walletLock past) :
    (checkManualCapacity data amount getOnChainBalance).Obeys
      (insideTransaction asks) past fun result reached =>
        result = .ok () →
        data.isManualSpend = true →
        getOnChainBalance.isSome = true →
        data.WithinBalance amount reached := by
  unfold checkManualCapacity
  split
  · rename_i sample isManual
    rw [Program.obeys_bind]
    refine ((outside sample rfl).inside past).weaken ?_
    rintro (failure | sampledBalance) sampledPast inside
    · intro impossible
      cases impossible
    have stillHeld := (walletHeld isManual).extend inside
    dsimp only
    rw [Program.obeys_bind, obeys_note]
    refine ⟨insideTransaction_balance, ?_⟩
    dsimp only
    split
    · intro impossible
      cases impossible
    · rename_i balance floored
      simp only [Program.obeys_bind, obeys_read,
        insideTransaction_read, true_and]
      refine
        ⟨fun holds =>
          ⟨fun manual => ?_, fun _ impossible => by cases impossible⟩,
        fun _ impossible => by cases impossible⟩
      split
      · intro impossible
        cases impossible
      · rename_i fits
        intro _ _ _
        refine
          ⟨sampledBalance, balance, holds, manual, ?_, floored, ?_,
            ?_, Nat.le_of_not_lt fits⟩ <;>
          simp [Op.endsTransaction, stillHeld]
  · rename_i notSampled
    intro _ isManual isSampled
    obtain ⟨sample, isSome⟩ := Option.isSome_iff_exists.mp isSampled
    exact (notSampled sample isManual isSome).elim

/-- The session check reads under the lock of the session. -/
theorem claimChargingSession_obeys :
    (TokenOperations.claimChargingSession data).Obeys
      (insideTransaction asks) past fun result reached =>
        result = .ok () → data.NoSessionCollision reached := by
  unfold TokenOperations.claimChargingSession
  split
  · rename_i providerId chargingSessionId isAward isProvider isSession
    simp only [Program.obeys_bind, obeys_lock, obeys_read,
      insideTransaction_lock, insideTransaction_read, true_and]
    refine ⟨⟨fun found => ?_, fun _ impossible => by cases impossible⟩,
      fun _ impossible => by cases impossible⟩
    cases found with
    | some other =>
        intro impossible
        cases impossible
    | none =>
        intro _ otherProvider otherSession _ sameProvider sameSession
        rw [isProvider] at sameProvider
        rw [isSession] at sameSession
        cases sameProvider
        cases sameSession
        simp [Op.endsTransaction]
  · rename_i notBound
    intro _ providerId chargingSessionId isAward isProvider isSession
    exact (notBound _ _ isAward isProvider isSession).elim

/-- The owner of a legacy award is compared inside the transaction. -/
theorem findLegacyAward_obeys {legacyKey : String} :
    (TokenOperations.findLegacyAward data legacyKey).Obeys
      (insideTransaction asks) past fun _ _ => True := by
  unfold TokenOperations.findLegacyAward
  simp only [Program.obeys_bind, obeys_read, insideTransaction_read,
    true_and, implies_true, and_true]
  intro found
  cases found with
  | none =>
      trivial
  | some legacy =>
      dsimp only
      split
      · trivial
      · simp only [Program.obeys_bind, obeys_read,
          insideTransaction_read, true_and, implies_true, and_true]
        intro user
        cases user with
        | none =>
            trivial
        | some legacyUser =>
            dsimp only
            split <;> trivial

/-- The legacy checks read under the lock of the legacy key. -/
theorem claimLegacy_obeys :
    (TokenOperations.claimLegacy data).Obeys (insideTransaction asks) past
      fun result reached =>
        result.isOk = true → data.NoLegacyCollision reached := by
  unfold TokenOperations.claimLegacy TokenOperations.claimLegacyKey
  split
  · rename_i legacyKey isAward isLegacy
    simp only [Program.obeys_bind, obeys_lock, obeys_read,
      insideTransaction_lock, insideTransaction_read, true_and]
    refine ⟨⟨fun found => ?_, fun _ impossible => by cases impossible⟩,
      fun _ impossible => by cases impossible⟩
    cases found with
    | some other =>
        intro impossible
        cases impossible
    | none =>
        refine
          (findLegacyAward_obeys.embed
            fun _ _ _ inside => inside).weaken ?_
        intro result reached extended _ otherKey _ sameKey
        rw [isLegacy] at sameKey
        cases sameKey
        exact Under.extend (by simp [Op.endsTransaction]) extended.2
  · rename_i notLegacy
    intro _ legacyKey isAward isLegacy
    exact (notLegacy _ isAward isLegacy).elim

/-- What the body of a claim has done when it ends. -/
def ClaimRequest.Finished
    (data : ClaimRequest)
    (past : Past)
    (result : Except Failure TokenOperationClaim)
    (reached : Past) :
    Prop :=
  (∀ claimed,
    result = .ok claimed →
    data.Ends claimed (⟨.release, ()⟩ :: reached)) ∧
  ∀ failure, result = .error failure → NoCommit past reached

/-- A failure inside the transaction has written nothing. -/
theorem ClaimRequest.finished_of_failure
    {failure : Failure}
    {reached : Past}
    (noCommit : NoCommit past reached) :
    data.Finished past (.error failure) reached :=
  ⟨fun _ impossible => (nomatch impossible), fun _ _ => noCommit⟩

/-- A claim that ends has not failed. -/
theorem ClaimRequest.finished_of_ends
    {claimed : TokenOperationClaim}
    {reached : Past}
    (ends : data.Ends claimed (⟨.release, ()⟩ :: reached)) :
    data.Finished past (.ok claimed) reached := by
  refine
    ⟨fun other isResult => ?_, fun _ impossible =>
      nomatch impossible⟩
  cases isResult
  exact ends

/-- What a part of a transaction has done, the whole has done. -/
theorem ClaimRequest.Finished.since
    {earlier reached : Past}
    {result : Except Failure TokenOperationClaim}
    (finished : data.Finished past result reached)
    (inside : ExtendsBy (insideTransaction asks) earlier past) :
    data.Finished earlier result reached :=
  ⟨finished.1, fun failure isFailure =>
    (NoCommit.of_insideTransaction inside).trans
      (finished.2 failure isFailure)⟩

/-- The claim of a key that has a row writes a reclaim or nothing. -/
theorem claimExisting_obeys
    {existing : TokenOperation}
    (outside :
      ∀ sample, getOnChainBalance = some sample → AsksOutside asks sample)
    (canonical : canonicalTokenAmount data.amount = some amount)
    (walletHeld :
      data.isManualSpend = true → Holds data.walletLock past)
    (found :
      ReadUnder data.keyLock (.operation data.operationKey)
        (some existing) past) :
    (TokenOperations.claimExisting data amount getOnChainBalance
      existing).Obeys
      (writesOnly asks (data.Writes getOnChainBalance.isSome)) past
      (data.Finished past) := by
  unfold TokenOperations.claimExisting
  rw [Program.obeys_bind, obeys_orThrow]
  split
  · rename_i intended
    split
    · rename_i reclaimable
      rw [Program.obeys_bind]
      refine
        (obeys_writesOnly_of_inside
          (checkManualCapacity_obeys outside walletHeld)).weaken ?_
      rintro (failure | _) reached ⟨fits, inside⟩
      · exact
          ClaimRequest.finished_of_failure (.of_insideTransaction inside)
      have stillFound : data.Found amount existing reached :=
        ⟨found.extend inside, intended⟩
      simp only [Program.obeys_bind, obeys_write, writesOnly_write]
      refine ⟨?_, fun result => ?_, fun error => ?_⟩
      · exact
          .reclaim
            ⟨canonical, fun isManual =>
              (walletHeld isManual).extend inside, fits rfl⟩
            stillFound reclaimable
      · cases result with
        | some reclaimed =>
            exact ClaimRequest.finished_of_ends (.reclaimed stillFound)
        | none =>
            exact
              ClaimRequest.finished_of_failure
                ((NoCommit.of_insideTransaction inside).cons
                  not_isCommit_notFound)
      · exact
          ClaimRequest.finished_of_failure
            ((NoCommit.of_insideTransaction inside).cons
              not_isCommit_refused)
    · rename_i notReclaimable
      exact
        ClaimRequest.finished_of_ends
          (.existing ⟨found, intended⟩
            (Bool.eq_false_iff.mpr notReclaimable))
  · exact ClaimRequest.finished_of_failure (.refl past)

/-- The claim of a new key inserts its row, or nothing. -/
theorem claimNew_obeys
    (outside :
      ∀ sample, getOnChainBalance = some sample → AsksOutside asks sample)
    (canonical : canonicalTokenAmount data.amount = some amount)
    (walletHeld :
      data.isManualSpend = true → Holds data.walletLock past)
    (absent :
      ReadUnder data.keyLock (.operation data.operationKey) none past) :
    (TokenOperations.claimNew data amount getOnChainBalance).Obeys
      (writesOnly asks (data.Writes getOnChainBalance.isSome)) past
      (data.Finished past) := by
  unfold TokenOperations.claimNew
  rw [Program.obeys_bind]
  refine
    (obeys_writesOnly_of_inside claimChargingSession_obeys).weaken ?_
  rintro (failure | _) sessionPast ⟨noSession, sessionInside⟩
  · exact
      ClaimRequest.finished_of_failure
        (.of_insideTransaction sessionInside)
  dsimp only
  rw [Program.obeys_bind]
  refine (obeys_writesOnly_of_inside claimLegacy_obeys).weaken ?_
  rintro (failure | legacy) legacyPast ⟨noLegacy, legacyInside⟩
  · exact
      ClaimRequest.finished_of_failure
        (.of_insideTransaction (sessionInside.trans legacyInside))
  have inside := sessionInside.trans legacyInside
  have fresh : data.Fresh legacyPast :=
    { absent := absent.extend inside
      noSessionCollision := fun providerId chargingSessionId isAward
          isProvider isSession =>
        (noSession rfl providerId chargingSessionId isAward isProvider
          isSession).extend legacyInside
      noLegacyCollision := noLegacy rfl }
  cases legacy with
  | some award =>
      exact ClaimRequest.finished_of_ends (.legacy fresh)
  | none =>
      dsimp only
      rw [Program.obeys_bind]
      refine
        (obeys_writesOnly_of_inside
          (checkManualCapacity_obeys outside fun isManual =>
            (walletHeld isManual).extend inside)).weaken ?_
      rintro (failure | _) reached ⟨fits, capacityInside⟩
      · exact
          ClaimRequest.finished_of_failure
            (.of_insideTransaction (inside.trans capacityInside))
      have allInside := inside.trans capacityInside
      have stillFresh : data.Fresh reached := fresh.extend capacityInside
      simp only [Program.obeys_bind, obeys_write, writesOnly_write]
      refine ⟨?_, fun row => ?_, fun error => ?_⟩
      · exact
          .insert
            ⟨canonical, fun isManual =>
              (walletHeld isManual).extend allInside, fits rfl⟩
            stillFresh
      · exact
          ClaimRequest.finished_of_ends (.inserted canonical stillFresh)
      · exact
          ClaimRequest.finished_of_failure
            ((NoCommit.of_insideTransaction allInside).cons
              not_isCommit_refused)

/-- A claim locks its key and reads its row. -/
theorem claimLocked_obeys
    (outside :
      ∀ sample, getOnChainBalance = some sample → AsksOutside asks sample)
    (canonical : canonicalTokenAmount data.amount = some amount)
    (walletHeld :
      data.isManualSpend = true → Holds data.walletLock past) :
    (TokenOperations.claimLocked data amount getOnChainBalance).Obeys
      (writesOnly asks (data.Writes getOnChainBalance.isSome)) past
      (data.Finished past) := by
  have locked : ExtendsBy (insideTransaction asks) past
      (⟨.lock data.keyLock, .ok ()⟩ :: past) :=
    insideTransaction_cons .none trivial
  unfold TokenOperations.claimLocked
  simp only [Program.obeys_bind, obeys_lock, obeys_read,
    writesOnly_lock, writesOnly_read, true_and]
  refine ⟨⟨fun found => ?_, fun error => ?_⟩, fun error => ?_⟩
  · have read : ExtendsBy (insideTransaction asks) past
        (⟨.read (.operation data.operationKey), .ok found⟩ ::
          ⟨.lock data.keyLock, .ok ()⟩ :: past) :=
      insideTransaction_cons locked trivial
    cases found with
    | some existing =>
        refine
          (claimExisting_obeys outside canonical
            (fun isManual => (walletHeld isManual).extend read)
            ?_).weaken fun _ _ finished => finished.since read
        simp [Op.endsTransaction]
    | none =>
        refine
          (claimNew_obeys outside canonical
            (fun isManual => (walletHeld isManual).extend read)
            ?_).weaken fun _ _ finished => finished.since read
        simp [Op.endsTransaction]
  · exact
      ClaimRequest.finished_of_failure
        (.of_insideTransaction (insideTransaction_cons locked trivial))
  · exact
      ClaimRequest.finished_of_failure
        ((NoCommit.refl past).cons not_isCommit_lock)

/-- `claim` writes at most once, under its locks. -/
theorem claim_obeys
    (outside :
      ∀ sample, getOnChainBalance = some sample → AsksOutside asks sample) :
    (TokenOperations.claim data getOnChainBalance).Obeys
      (writesOnly asks (data.Writes getOnChainBalance.isSome)) past
      fun result reached =>
        (∀ claimed, result = .ok claimed → data.Ends claimed reached) ∧
          ∀ failure, result = .error failure → NoCommit past reached := by
  unfold TokenOperations.claim
  split
  · exact
      ⟨fun _ impossible => (nomatch impossible), fun _ _ =>
        .refl past⟩
  rename_i amount canonical
  rw [obeys_transaction]
  have released :
      ∀ result reached,
        data.Finished past result reached →
        writesOnly asks (data.Writes getOnChainBalance.isSome) reached
            .release ∧
          (∀ claimed,
            result = .ok claimed →
            data.Ends claimed (⟨.release, ()⟩ :: reached)) ∧
          ∀ failure,
            result = .error failure →
            NoCommit past (⟨.release, ()⟩ :: reached) :=
    fun result reached finished =>
      ⟨trivial, finished.1, fun failure isFailure =>
        (finished.2 failure isFailure).release⟩
  split
  · rename_i isManual
    have locked : ExtendsBy (insideTransaction asks) past
        (⟨.lock data.walletLock, .ok ()⟩ :: past) :=
      insideTransaction_cons .none trivial
    simp only [Program.obeys_bind, obeys_lock, writesOnly_lock,
      true_and]
    refine ⟨?_, fun error => ?_⟩
    · refine
        (claimLocked_obeys outside canonical fun _ => ?_).weaken
          fun result reached finished =>
            released result reached (finished.since locked)
      simp [Op.endsTransaction]
    · exact
        released _ _
          (ClaimRequest.finished_of_failure
            ((NoCommit.refl past).cons not_isCommit_lock))
  · rename_i notManual
    refine
      (claimLocked_obeys outside canonical fun isManual => ?_).weaken
        released
    exact absurd isManual notManual

end Claim

/-! ## Callbacks -/

section Mark

variable {asks : ChainRequest → Prop} {operationKey : String}
  {operationWrite : OperationWrite} {past : Past}

/-- A callback issues its one statement. -/
theorem updateOrFind_obeys :
    (TokenOperations.updateOrFind operationKey operationWrite).Obeys
      (writesOnly asks fun _ change =>
        change = .updateOperation operationKey operationWrite)
      past fun _ _ => True := by
  unfold TokenOperations.updateOrFind TokenOperations.findByKey
  simp only [Program.obeys_bind, obeys_write, writesOnly_write,
    true_and, implies_true, and_true]
  intro found
  cases found with
  | some record =>
      trivial
  | none =>
      simp

/-- The two statements of `markSubmitted`. -/
def MarkSubmittedWrites
    (operationKey txHash : String)
    (_ : Past)
    (change : Change) :
    Prop :=
  ∃ hash,
    canonicalTransactionHash txHash = some hash ∧
      (change = .updateOperation operationKey (.markSubmitted hash) ∨
        change =
          .updateOperation operationKey (.markSubmittedAgain hash))

/-- `markSubmitted` issues one of its two statements, or both. -/
theorem markSubmitted_obeys {txHash : String} :
    (TokenOperations.markSubmitted operationKey txHash).Obeys
      (writesOnly asks (MarkSubmittedWrites operationKey txHash))
      past fun _ _ => True := by
  unfold TokenOperations.markSubmitted TokenOperations.findByKey
    requireCanonicalTransactionHash
  cases canonical : canonicalTransactionHash txHash with
  | none =>
      trivial
  | some hash =>
      simp only [Program.obeys_bind, obeys_orThrow, obeys_write,
        writesOnly_write, implies_true, and_true]
      refine ⟨⟨hash, canonical, Or.inl rfl⟩, fun found => ?_⟩
      cases found with
      | some record =>
          trivial
      | none =>
          simp only [Program.obeys_bind, obeys_read, writesOnly_read,
            true_and, implies_true, and_true]
          intro current
          cases current with
          | none =>
              trivial
          | some current =>
              dsimp only
              split
              · trivial
              · split
                · trivial
                · simp only [Program.obeys_bind, obeys_write,
                    writesOnly_write, implies_true, and_true]
                  refine
                    ⟨⟨hash, canonical, Or.inr rfl⟩, fun updated => ?_⟩
                  cases updated <;> trivial

/-- `settle` issues its statement under the lock of the operation. -/
theorem settle_obeys :
    (TokenOperations.settle operationKey operationWrite).Obeys
      (writesOnly asks fun _ change =>
        change = .settleOperation operationKey operationWrite)
      past fun _ _ => True := by
  unfold TokenOperations.settle
  simp only [obeys_transaction, Program.obeys_bind, obeys_read,
    writesOnly_read, writesOnly_release, true_and, implies_true,
    and_true]
  intro found
  cases found with
  | none =>
      trivial
  | some candidate =>
      dsimp only
      split <;> simp [Program.obeys_bind]

end Mark

end Sparkz
