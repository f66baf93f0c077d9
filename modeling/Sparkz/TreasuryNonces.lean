import Sparkz.FundingCalls

namespace Sparkz

open Interleaving

/-!
# Nonces of the treasury

Whatever calls run beside one another, two leases of one signer never share a
nonce.  A nonce is allocated above every lease of its signer that has not
failed.  The callbacks of leases take no lock, but none of them takes a lease
back to a state in which an allocation would have to count it.
-/

/-- Two leases of one chain and one signer. -/
def TreasuryLease.SameSigner (lease other : TreasuryLease) : Prop :=
  lease.chainId = other.chainId ∧
    lowerText lease.signerAddress = lowerText other.signerAddress

/-- A lease and one that was saved after it. -/
structure TreasuryLease.Precedes (first second : TreasuryLease) :
    Prop where
  operationKey : first.operationKey ≠ second.operationKey
  nonce : first.SameSigner second → first.nonce ≠ second.nonce
  order :
    first.SameSigner second →
    first.status = .failed ∨ first.nonce < second.nonce

namespace TreasuryLease

variable {lease other : TreasuryLease} {write : LeaseWrite}

/-- Only an open lease is changed, so a failed one stays failed. -/
theorem after_failed (isFailed : lease.status = .failed) :
    lease.after write = lease := by
  simp [after, isFailed, LeaseStatus.isOpen]

/-- No callback makes a lease a prepared one. -/
theorem prepared_of_after
    (isPrepared : (lease.after write).status = .prepared) :
    lease.status = .prepared := by
  unfold after at isPrepared
  split at isPrepared
  · cases write <;> cases isPrepared
  · exact isPrepared

/-- Later versions of two leases are in the same order. -/
theorem Precedes.after
    {first second : TreasuryLease}
    {firstWrites secondWrites : Prop}
    [Decidable firstWrites]
    [Decidable secondWrites]
    (precedes : first.Precedes second) :
    (if firstWrites then first.after write else first).Precedes
      (if secondWrites then second.after write else second) := by
  have firstSame :
      first.SameIdentity
        (if firstWrites then first.after write else first) := by
    split
    · exact first.sameIdentity_after write
    · exact ⟨rfl, rfl, rfl, rfl, rfl, rfl, rfl, rfl⟩
  have secondSame :
      second.SameIdentity
        (if secondWrites then second.after write else second) := by
    split
    · exact second.sameIdentity_after write
    · exact ⟨rfl, rfl, rfl, rfl, rfl, rfl, rfl, rfl⟩
  have staysFailed :
      first.status = .failed →
      (if firstWrites then first.after write else first).status =
        .failed := by
    intro isFailed
    split
    · rw [after_failed isFailed]
      exact isFailed
    · exact isFailed
  constructor
  · rw [firstSame.operationKey, secondSame.operationKey]
    exact precedes.operationKey
  · rw [SameSigner, firstSame.chainId, firstSame.signerAddress,
      secondSame.chainId, secondSame.signerAddress, firstSame.nonce,
      secondSame.nonce]
    exact precedes.nonce
  · rw [SameSigner, firstSame.chainId, firstSame.signerAddress,
      secondSame.chainId, secondSame.signerAddress, firstSame.nonce,
      secondSame.nonce]
    intro sameSigner
    exact (precedes.order sameSigner).imp staysFailed id

end TreasuryLease

/-! ## What the queries of an allocation say -/

namespace Database

variable {database next : Database} {lease : TreasuryLease}

theorem mem_signerLeases {chainId signerAddress : String} :
    lease ∈ database.signerLeases chainId signerAddress ↔
      lease ∈ database.leases ∧ lease.chainId = chainId ∧
        lowerText lease.signerAddress = lowerText signerAddress := by
  simp [signerLeases]

/-- A lease that is saved has a new key, and a new nonce of its signer. -/
theorem persistPreparation_isNew
    (persisted : database.persistPreparation lease = .ok next) :
    (∀ other ∈ database.leases,
        other.operationKey ≠ lease.operationKey) ∧
      ∀ other ∈ database.leases,
        other.SameSigner lease → other.nonce ≠ lease.nonce := by
  unfold persistPreparation at persisted
  split at persisted
  · cases persisted
  rename_i newKey
  split at persisted
  · cases persisted
  rename_i newNonce
  constructor
  · intro other member sameKey
    exact
      newKey (List.any_eq_true.mpr ⟨other, member, by simp [sameKey]⟩)
  · intro other member sameSigner sameNonce
    exact
      newNonce
        (List.any_eq_true.mpr
          ⟨other, mem_signerLeases.mpr ⟨member, sameSigner⟩, by
            simp [sameNonce]⟩)

/-- A lease that is saved is appended. -/
theorem persistPreparation_leases
    (persisted : database.persistPreparation lease = .ok next) :
    next.leases = database.leases ++ [lease] := by
  unfold persistPreparation at persisted
  split at persisted
  · cases persisted
  split at persisted
  · cases persisted
  unfold prepareTarget at persisted
  cases isTarget : lease.targetType with
  | tokenOperation =>
      simp only [isTarget] at persisted
      split at persisted
      · cases persisted
      split at persisted
      · cases persisted
      split at persisted
      · cases persisted
      · cases persisted
        rfl
  | approvalFunding =>
      simp only [isTarget] at persisted
      split at persisted
      · cases persisted
      split at persisted
      · cases persisted
      · cases persisted
        rfl
  | standalone =>
      simp only [isTarget] at persisted
      cases persisted
      rfl

/-- Some lease is kept when the lowest nonce of a list is looked for. -/
theorem foldl_lowerNonce_isSome
    {leases : List TreasuryLease}
    {best : Option TreasuryLease}
    (isSome : best.isSome = true) :
    (leases.foldl lowerNonce best).isSome = true := by
  induction leases generalizing best with
  | nil =>
      exact isSome
  | cons first rest inductionHypothesis =>
      apply inductionHypothesis
      cases best with
      | none =>
          cases isSome
      | some found =>
          simp only [lowerNonce]
          split
          · rfl
          · rfl

/-- Without an unresolved lease, prepared leases are below the nonce. -/
theorem prepared_lt_of_unresolvedLease
    {chainId signerAddress : String}
    {pendingNonce : Nat}
    (noneUnresolved :
      database.unresolvedLease chainId signerAddress pendingNonce = none)
    (member : lease ∈ database.signerLeases chainId signerAddress)
    (isPrepared : lease.status = .prepared) :
    lease.nonce < pendingNonce := by
  by_contra notBelow
  have isListed :
      lease ∈
        (database.signerLeases chainId signerAddress).filter fun row =>
          (row.status == .prepared || row.status == .unknown) &&
            decide (pendingNonce ≤ row.nonce) := by
    rw [List.mem_filter]
    refine ⟨member, ?_⟩
    simp [isPrepared, Nat.le_of_not_lt notBelow]
  unfold unresolvedLease at noneUnresolved
  generalize
    (database.signerLeases chainId signerAddress).filter _ = unresolved
    at isListed noneUnresolved
  cases unresolved with
  | nil =>
      cases isListed
  | cons first rest =>
      have isSome :
          (rest.foldl lowerNonce (some first)).isSome = true :=
        foldl_lowerNonce_isSome rfl
      rw [List.foldl_cons] at noneUnresolved
      rw [show lowerNonce none first = some first from rfl] at noneUnresolved
      rw [noneUnresolved] at isSome
      cases isSome

/-- The largest nonce is not below that of a lease in force. -/
theorem le_maxLeaseNonce
    {chainId signerAddress : String}
    (member : lease ∈ database.signerLeases chainId signerAddress)
    (notFailed : lease.status ≠ .failed) :
    ∃ largest,
      database.maxLeaseNonce chainId signerAddress = some largest ∧
        (∃ greatest ∈ database.leases, greatest.nonce = largest) ∧
        lease.nonce ≤ largest := by
  have isListed :
      lease.nonce ∈
        ((database.signerLeases chainId signerAddress).filter
          (·.status != .failed)).map (·.nonce) :=
    List.mem_map_of_mem
      (List.mem_filter.mpr ⟨member, by simpa using notFailed⟩)
  cases isMax : database.maxLeaseNonce chainId signerAddress with
  | none =>
      rw [maxLeaseNonce, List.max?_eq_none_iff] at isMax
      rw [isMax] at isListed
      cases isListed
  | some largest =>
      obtain ⟨isNonce, isLargest⟩ := List.max?_eq_some_iff.mp isMax
      obtain ⟨greatest, isGreatest, same⟩ := List.mem_map.mp isNonce
      exact
        ⟨largest, rfl,
          ⟨greatest,
            (mem_signerLeases.mp (List.mem_filter.mp isGreatest).1).1,
            same⟩,
          isLargest _ isListed⟩

end Database

/-- The next nonce is above the largest one that is safe. -/
theorem TreasuryTransactions.lt_nextNonce
    {pendingNonce nonce largest : Nat}
    (notAbove : nonce ≤ largest)
    (safe : largest < 2 ^ 53) :
    nonce < nextNonce pendingNonce (some largest) := by
  simp only [nextNonce, safe, if_true]
  omega

/-- The next nonce is not below the pending one. -/
theorem TreasuryTransactions.le_nextNonce
    {pendingNonce : Nat}
    {largest : Option Nat} :
    pendingNonce ≤ nextNonce pendingNonce largest := by
  cases largest with
  | none =>
      exact Nat.le_max_left _ _
  | some leased =>
      simp only [nextNonce]
      split
      · exact Nat.le_max_left _ _
      · exact Nat.le_refl _

/-! ## Runs -/

section Run

variable {lost : Bool}
  {meets : Config sparkz Failure Database → Entry sparkz → Prop}
  {shared : Database}
  {calls : Nat → Call Unit}
  {config : Config sparkz Failure Database}

/-- Every lease that a run saves was allocated by the call that saves it. -/
def Allocates
    (lost : Bool)
    (meets : Config sparkz Failure Database → Entry sparkz → Prop)
    (shared : Database)
    (calls : Nat → Call Unit) :
    Prop :=
  ∀ {config : Config sparkz Failure Database}
    {thread : Nat}
    {lease : TreasuryLease}
    {rest : Op.Answer (.write (.persistPreparation lease)) → Call Unit},
    ReachableWhen (semantics lost) meets (.initial shared calls)
      config →
    config.threads thread =
      some (.perform (.write (.persistPreparation lease)) rest) →
    ∃ (data : TreasuryTransactionPreparationRequest)
        (signed : Nat → PreparedTreasuryTransaction → Past → Prop)
        (allocation :
          data.Allocation signed (ownPast thread config.history)),
      lease = allocation.lease

/-- Every nonce in the table is a safe integer. -/
theorem noncesSafe_of_reachable
    (allocates : Allocates lost meets shared calls)
    (atStart : ∀ lease ∈ shared.leases, lease.nonce < 2 ^ 53)
    (reached :
      ReachableWhen (semantics lost) meets (.initial shared calls)
        config) :
    ∀ lease ∈ config.shared.leases, lease.nonce < 2 ^ 53 := by
  refine
    tableInvariant
      (fun database => ∀ lease ∈ database.leases, lease.nonce < 2 ^ 53)
      (fun _ _ => id) atStart ?_ reached
  intro before thread change rest result after reachedBefore running
    applied safe lease member
  have effect := Change.leasesEffect applied
  generalize after.leases = leases at effect member
  cases effect with
  | unchanged =>
      exact safe lease member
  | inserted isInsert =>
      rcases List.mem_append.mp member with older | newest
      · exact safe lease older
      · rw [List.mem_singleton] at newest
        subst newest isInsert
        obtain ⟨data, _, allocation, rfl⟩ :=
          allocates reachedBefore running
        exact allocation.safe
  | @updated operationKey hash write isUpdate =>
      obtain ⟨earlier, older, rfl⟩ := List.mem_map.mp member
      split
      · rw [(earlier.sameIdentity_after write).nonce]
        exact safe earlier older
      · exact safe earlier older

/-- A fact about the leases of a signer that its lock protects. -/
theorem leaseFact
    (data : TreasuryTransactionPreparationRequest)
    (query : Query)
    (Property : query.Result → TreasuryLease → Prop)
    (allocates : Allocates lost meets shared calls)
    (atRead :
      ∀ {before : Config sparkz Failure Database},
        ReachableWhen (semantics lost) meets (.initial shared calls)
          before →
        ∀ lease ∈
            before.shared.signerLeases data.chainId
              (lowerText data.signerAddress),
          Property (query.answer before.shared) lease)
    (stays :
      ∀ result lease write,
        Property result lease →
        Property result (TreasuryLease.after lease write))
    (reached :
      ReachableWhen (semantics lost) meets (.initial shared calls)
        config)
    {thread : Nat} {program : Call Unit}
    (running : config.threads thread = some program)
    {result : query.Result}
    (readUnder :
      ReadUnder data.treasuryLock query result
        (ownPast thread config.history)) :
    ∀ lease ∈
        config.shared.signerLeases data.chainId
          (lowerText data.signerAddress),
      Property result lease := by
  refine
    readFact
      (fun result database =>
        ∀ lease ∈
            Database.signerLeases database data.chainId
              (lowerText data.signerAddress),
          Property result lease)
      (fun _ _ _ => id) (fun reachedBefore => atRead reachedBefore) ?_
      reached running readUnder
  intro before owner change rest result written after reachedBefore
    ownerRunning notOwner applied holds lease member
  rw [Database.mem_signerLeases] at member
  obtain ⟨isLease, sameChain, sameSigner⟩ := member
  have effect := Change.leasesEffect applied
  generalize after.leases = leases at effect isLease
  cases effect with
  | unchanged =>
      exact
        holds lease
          (Database.mem_signerLeases.mpr
            ⟨isLease, sameChain, sameSigner⟩)
  | @inserted inserted isInsert =>
      rcases List.mem_append.mp isLease with older | newest
      · exact
          holds lease
            (Database.mem_signerLeases.mpr
              ⟨older, sameChain, sameSigner⟩)
      · -- whoever saves a lease of this signer holds its lock
        rw [List.mem_singleton] at newest
        subst newest isInsert
        obtain ⟨other, _, allocation, rfl⟩ :=
          allocates reachedBefore ownerRunning
        have sameLock : other.treasuryLock = data.treasuryLock := by
          have isChain : other.chainId = data.chainId := sameChain
          have isSigner :
              lowerText (lowerText other.signerAddress) =
                lowerText (lowerText data.signerAddress) :=
            sameSigner
          rw [lowerText_lowerText, lowerText_lowerText] at isSigner
          rw [TreasuryTransactionPreparationRequest.treasuryLock,
            TreasuryTransactionPreparationRequest.treasuryLock, isChain,
            isSigner]
        exact absurd (sameLock ▸ allocation.unleased.holds) notOwner
  | @updated operationKey hash write isUpdate =>
      obtain ⟨earlier, older, rfl⟩ := List.mem_map.mp isLease
      split at sameChain
      · rename_i isKey
        have same := earlier.sameIdentity_after write
        rw [if_pos isKey, same.signerAddress] at sameSigner
        rw [same.chainId] at sameChain
        rw [if_pos isKey]
        exact
          stays result earlier write
            (holds earlier
              (Database.mem_signerLeases.mpr
                ⟨older, sameChain, sameSigner⟩))
      · rename_i notKey
        rw [if_neg notKey] at sameSigner ⊢
        exact
          holds earlier
            (Database.mem_signerLeases.mpr
              ⟨older, sameChain, sameSigner⟩)

/-- What an allocation knows of the leases of its signer when it saves. -/
theorem allocated_isAbove
    {signed : Nat → PreparedTreasuryTransaction → Past → Prop}
    {data : TreasuryTransactionPreparationRequest}
    (allocates : Allocates lost meets shared calls)
    (atStart : ∀ lease ∈ shared.leases, lease.nonce < 2 ^ 53)
    (reached :
      ReachableWhen (semantics lost) meets (.initial shared calls)
        config)
    {thread : Nat} {program : Call Unit}
    (running : config.threads thread = some program)
    (allocation :
      data.Allocation signed (ownPast thread config.history))
    {lease : TreasuryLease}
    (member : lease ∈ config.shared.leases)
    (sameSigner : lease.SameSigner allocation.lease) :
    (lease.status ≠ .failed →
        lease.nonce < allocation.lease.nonce) ∧
      (lease.status = .prepared →
        lease.nonce < allocation.pendingNonce) := by
  have isListed :
      lease ∈
        config.shared.signerLeases data.chainId
          (lowerText data.signerAddress) :=
    Database.mem_signerLeases.mpr ⟨member, sameSigner⟩
  constructor
  · intro notFailed
    obtain ⟨largest, isLargest, safe, notAbove⟩ :
        ∃ largest,
          allocation.maxNonce = some largest ∧ largest < 2 ^ 53 ∧
            lease.nonce ≤ largest := by
      refine
        leaseFact data
          (.maxLeaseNonce data.chainId (lowerText data.signerAddress))
          (fun result lease =>
            lease.status ≠ .failed →
            ∃ largest,
              result = some largest ∧ largest < 2 ^ 53 ∧
                lease.nonce ≤ largest)
          allocates ?_ ?_ reached running allocation.isMax lease isListed
          notFailed
      · intro before reachedBefore lease member notFailed
        obtain ⟨largest, isLargest, ⟨greatest, greatestMember, same⟩,
          notAbove⟩ := Database.le_maxLeaseNonce member notFailed
        refine ⟨largest, isLargest, ?_, notAbove⟩
        rw [← same]
        exact
          noncesSafe_of_reachable allocates atStart reachedBefore
            greatest greatestMember
      · intro result lease write holds notFailed
        rw [(lease.sameIdentity_after write).nonce]
        apply holds
        intro isFailed
        apply notFailed
        rw [TreasuryLease.after_failed isFailed]
        exact isFailed
    show lease.nonce < TreasuryTransactions.nextNonce _ _
    rw [isLargest]
    exact TreasuryTransactions.lt_nextNonce notAbove safe
  · refine
      leaseFact data
        (.unresolvedLease data.chainId (lowerText data.signerAddress)
          allocation.pendingNonce)
        (fun result lease =>
          result = none →
          lease.status = .prepared →
          lease.nonce < allocation.pendingNonce)
        allocates ?_ ?_ reached running allocation.noneUnresolved lease
        isListed rfl
    · intro before _ lease member isNone isPrepared
      exact
        Database.prepared_lt_of_unresolvedLease isNone member isPrepared
    · intro result lease write holds isNone isPrepared
      rw [(lease.sameIdentity_after write).nonce]
      exact holds isNone (TreasuryLease.prepared_of_after isPrepared)

/-- The leases of a run are in order. -/
theorem leasesOrdered_of_reachable
    (allocates : Allocates lost meets shared calls)
    (safeAtStart : ∀ lease ∈ shared.leases, lease.nonce < 2 ^ 53)
    (atStart : shared.leases.Pairwise TreasuryLease.Precedes)
    (reached :
      ReachableWhen (semantics lost) meets (.initial shared calls)
        config) :
    config.shared.leases.Pairwise TreasuryLease.Precedes := by
  refine
    tableInvariant
      (fun database =>
        database.leases.Pairwise TreasuryLease.Precedes)
      (fun _ _ => id) atStart ?_ reached
  intro before thread change rest result after reachedBefore running
    applied ordered
  have effect := Change.leasesEffect applied
  generalize after.leases = leases at effect
  cases effect with
  | unchanged =>
      exact ordered
  | inserted isInsert =>
      subst isInsert
      obtain ⟨next, persisted, _⟩ := Except.map_eq_ok applied
      obtain ⟨newKey, newNonce⟩ :=
        Database.persistPreparation_isNew persisted
      obtain ⟨data, _, allocation, rfl⟩ :=
        allocates reachedBefore running
      rw [List.pairwise_append]
      refine ⟨ordered, List.pairwise_singleton _ _, ?_⟩
      intro other member lease isLease
      rw [List.mem_singleton] at isLease
      subst isLease
      refine ⟨newKey other member, newNonce other member, ?_⟩
      intro sameSigner
      by_cases isFailed : other.status = .failed
      · exact .inl isFailed
      · exact
          .inr
            ((allocated_isAbove allocates safeAtStart reachedBefore
              running allocation member sameSigner).1 isFailed)
  | updated isUpdate =>
      rw [List.pairwise_map]
      exact ordered.imp fun precedes => precedes.after

end Run

/-! ## A key that has a lease -/

theorem TreasuryLease.SameIdentity.refl (lease : TreasuryLease) :
    lease.SameIdentity lease :=
  ⟨rfl, rfl, rfl, rfl, rfl, rfl, rfl, rfl⟩

theorem TreasuryLease.SameIdentity.trans
    {lease later last : TreasuryLease}
    (first : lease.SameIdentity later)
    (second : later.SameIdentity last) :
    lease.SameIdentity last :=
  ⟨second.operationKey.trans first.operationKey,
    second.targetOperationKey.trans first.targetOperationKey,
    second.targetType.trans first.targetType,
    second.chainId.trans first.chainId,
    second.signerAddress.trans first.signerAddress,
    second.nonce.trans first.nonce, second.txHash.trans first.txHash,
    second.txContext.trans first.txContext⟩

/-- In a table of distinct keys, a lease is found by its key. -/
theorem Database.lease_of_mem
    {database : Database}
    (ordered : database.leases.Pairwise TreasuryLease.Precedes)
    {lease : TreasuryLease}
    (member : lease ∈ database.leases) :
    database.lease lease.operationKey = some lease := by
  unfold Database.lease
  generalize database.leases = leases at ordered member
  induction leases with
  | nil =>
      cases member
  | cons first rest inductionHypothesis =>
      rw [List.pairwise_cons] at ordered
      rcases List.mem_cons.mp member with rfl | older
      · simp
      · have different := (ordered.1 lease older).operationKey
        rw [List.find?_cons_of_neg (by simpa using different)]
        exact inductionHypothesis ordered.2 older

/-- A lease that is saved was allocated by the call that saves it. -/
theorem StoreWrites.isAllocated
    {past : Past}
    {lease : TreasuryLease}
    (writes : StoreWrites past (.persistPreparation lease)) :
    ∃ (data : TreasuryTransactionPreparationRequest)
        (signed : Nat → PreparedTreasuryTransaction → Past → Prop)
        (allocation : data.Allocation signed past),
      lease = allocation.lease := by
  generalize isChange : Change.persistPreparation lease = change at writes
  cases writes with
  | prepare allocation =>
      cases isChange
      exact ⟨_, _, allocation, rfl⟩
  | claim writes =>
      cases writes <;> cases isChange
  | reserve writes =>
      obtain ⟨_, _, _, _, _, _, rfl⟩ := writes
      cases isChange
  | recordAward writes =>
      obtain ⟨_, _, _, _, _, _, _, rfl⟩ := writes
      cases isChange
  | recordSpend writes =>
      obtain ⟨_, _, _, _, _, _, _, rfl⟩ := writes
      cases isChange
  | _ =>
      cases isChange

namespace FundingCall

variable {lost : Bool}
  {platform : Platform}
  {calls : Nat → FundingCall}
  {middle last config : Config sparkz Failure Database}
  {thread : Nat}
  {request : PreparationCall}
  {lease : TreasuryLease}

/-- Store calls save only what they have allocated. -/
theorem allocates
    {meets : Config sparkz Failure Database → Entry sparkz → Prop}
    {shared : Database}
    (platform : Platform)
    (calls : Nat → FundingCall) :
    Allocates lost meets shared fun thread =>
      (calls thread).run platform := by
  intro config thread lease rest reached running
  have permitted :=
    reached.permitted
      (fun thread => (calls thread).run_obeys platform) running
  cases isCall : calls thread with
  | store call =>
      rw [isCall] at permitted
      exact (StoreCall.protocol_write.mp permitted).storeWrites.isAllocated
  | _ =>
      rw [isCall] at permitted
      cases permitted

/-- The leases of any run of the calls are in order. -/
theorem leasesOrdered
    (reached :
      Reachable (semantics lost) (FundingCall.start platform .empty calls)
        config) :
    config.shared.leases.Pairwise TreasuryLease.Precedes :=
  leasesOrdered_of_reachable (allocates platform calls)
    (fun _ member => absurd member List.not_mem_nil) List.Pairwise.nil
    reached

/-- A key that has a lease is read with this lease. -/
theorem leaseRead_since
    (reached :
      Reachable (semantics lost) (FundingCall.start platform .empty calls)
        middle)
    (continued : Reachable (semantics lost) middle last)
    (member : lease ∈ middle.shared.leases)
    (notStarted : ownPast thread middle.history = [])
    {result : Option TreasuryLease}
    (wasRead :
      ⟨.read (.lease lease.operationKey), .ok result⟩ ∈
        ownPast thread last.history) :
    ∃ returned, result = some returned ∧ lease.SameIdentity returned := by
  have invariant :
      (∃ later ∈ last.shared.leases, lease.SameIdentity later) ∧
        ∀ result,
          ⟨.read (.lease lease.operationKey), .ok result⟩ ∈
              ownPast thread last.history →
            ∃ returned,
              result = some returned ∧ lease.SameIdentity returned := by
    refine
      continued.invariant
        (fun shared history =>
          (∃ later ∈ shared.leases, lease.SameIdentity later) ∧
            ∀ result,
              ⟨.read (.lease lease.operationKey), .ok result⟩ ∈
                  ownPast thread history →
                ∃ returned,
                  result = some returned ∧ lease.SameIdentity returned)
        ⟨⟨lease, member, .refl lease⟩, ?_⟩ (fun _ => id) ?_
    · rw [notStarted]
      exact fun _ impossible => absurd impossible List.not_mem_nil
    intro before owner op rest choice answer next reachedBefore running
      answered _ holds
    obtain ⟨stays, reads⟩ := holds
    constructor
    · refine
        (respond_effect answered).preserves
          (fun database =>
            ∃ later ∈ database.leases, lease.SameIdentity later)
          (fun _ _ => id) ?_ stays
      intro change written after isWrite applied present
      obtain ⟨later, isLater, same⟩ := present
      obtain ⟨version, isVersion, sameVersion⟩ :=
        (Change.leasesEffect applied).lease_stays isLater
      exact ⟨version, isVersion, same.trans sameVersion⟩
    · intro result isRead
      by_cases own : owner = thread
      · subst own
        rw [ownPast_own] at isRead
        rcases List.mem_cons.mp isRead with newest | older
        · cases newest
          obtain ⟨later, isLater, same⟩ := stays
          obtain ⟨isResult, _⟩ := respond_read answered
          refine ⟨later, ?_, same⟩
          rw [← isResult]
          show Database.lease _ _ = _
          rw [← same.operationKey]
          exact
            Database.lease_of_mem
              (leasesOrdered (reached.trans reachedBefore)) isLater
        · exact reads result older
      · rw [ownPast_foreign own] at isRead
        exact reads result isRead
  exact invariant.2 result wasRead

/-- What a preparation may do for a key that has a lease. -/
structure OnlyReturns (lease : TreasuryLease) (event : Event sparkz) :
    Prop where
  asksNothing : ∀ asked, event.op ≠ .chain asked
  writesNothing : ∀ change, event.op ≠ .write change
  returned :
    ∀ found alreadyPrepared,
      event.op = .note (.prepared found alreadyPrepared) →
      alreadyPrepared = true ∧ lease.SameIdentity found

/-- What a preparation issues for a key that it can only read. -/
theorem onlyReturns_of_permitted
    {past : Past}
    {op : Op}
    {answer : op.Answer}
    (permitted : (StoreCall.prepare request).protocol past op)
    (reads :
      ∀ result,
        ⟨.read (.lease request.data.operationKey), .ok result⟩ ∈ past →
        ∃ returned,
          result = some returned ∧ lease.SameIdentity returned) :
    OnlyReturns lease ⟨op, answer⟩ := by
  have notUnleased :
      ∀ earlier, earlier ⊆ past → ¬ request.data.Unleased earlier := by
    intro earlier isEarlier unleased
    obtain ⟨_, impossible, _⟩ := reads none (isEarlier unleased.mem)
    cases impossible
  have here : ¬ request.data.Unleased past :=
    notUnleased past (List.Subset.refl past)
  constructor
  · rintro asked rfl
    exact here permitted.2
  · rintro change rfl
    obtain ⟨allocation, _⟩ := permitted
    exact here allocation.unleased
  · rintro found alreadyPrepared rfl
    obtain ⟨preparation, rfl, rfl, ends⟩ := permitted
    cases ends with
    | @existing found _ =>
        obtain ⟨returned, isReturned, same⟩ := reads (some found) (by simp)
        cases isReturned
        exact ⟨rfl, same⟩
    | allocated allocation =>
        refine absurd allocation.unleased (notUnleased _ ?_)
        intro event member
        exact
          List.mem_cons_of_mem _ (List.mem_cons_of_mem _ member)

/-- A preparation of a key that has a lease returns it, or refuses. -/
theorem preparation_onlyReturns
    (reached :
      Reachable (semantics lost) (FundingCall.start platform .empty calls)
        middle)
    (continued : Reachable (semantics lost) middle last)
    (isPrepare : calls thread = .store (.prepare request))
    (member : lease ∈ middle.shared.leases)
    (isKey : lease.operationKey = request.data.operationKey)
    (notStarted : ownPast thread middle.history = []) :
    ∀ event ∈ ownPast thread last.history, OnlyReturns lease event := by
  refine
    continued.invariant
      (fun _ history =>
        ∀ event ∈ ownPast thread history, OnlyReturns lease event)
      ?_ (fun _ => id) ?_
  · rw [notStarted]
    exact fun _ impossible => absurd impossible List.not_mem_nil
  intro before owner op rest choice answer next reachedBefore running
    answered _ holds event isEvent
  by_cases own : owner = thread
  · subst own
    rw [ownPast_own] at isEvent
    rcases List.mem_cons.mp isEvent with rfl | older
    · have permitted :=
        (reached.trans reachedBefore).permitted
          (fun thread => (calls thread).run_obeys platform) running
      rw [isPrepare] at permitted
      apply onlyReturns_of_permitted permitted
      intro result wasRead
      rw [← isKey] at wasRead
      exact
        leaseRead_since reached reachedBefore member notStarted wasRead
    · exact holds event older
  · rw [ownPast_foreign own] at isEvent
    exact holds event isEvent

end FundingCall

/--
In every run the leases are in order.  A new lease has a safe nonce that is
not below the pending nonce read in its call, above every lease of its signer
that has not failed; leases that are only prepared are below the pending
nonce.  A preparation of a key that has a lease asks nothing, writes nothing
and returns that lease.
-/
theorem treasuryNonces_areSafe
    {lost : Bool}
    {platform : Platform}
    {calls : Nat → FundingCall}
    {middle last : Config sparkz Failure Database}
    (reached :
      Reachable (semantics lost) (FundingCall.start platform .empty calls)
        middle)
    (continued : Reachable (semantics lost) middle last) :
    last.shared.leases.Pairwise TreasuryLease.Precedes ∧
      (∀ thread lease rest next,
        middle.threads thread =
          some (.perform (.write (.persistPreparation lease)) rest) →
        middle.shared.persistPreparation lease = .ok next →
        next.leases = middle.shared.leases ++ [lease] ∧
          lease.nonce < 2 ^ 53 ∧
          (∀ other ∈ middle.shared.leases,
            other.SameSigner lease →
            other.status ≠ .failed →
            other.nonce < lease.nonce) ∧
          ∃ reading pendingNonce,
            ⟨.note (.pendingNonce reading), ()⟩ ∈
                ownPast thread middle.history ∧
              reading.safeNatural? = some pendingNonce ∧
              pendingNonce ≤ lease.nonce ∧
              ∀ other ∈ middle.shared.leases,
                other.SameSigner lease →
                other.status = .prepared →
                other.nonce < pendingNonce) ∧
      ∀ thread request lease,
        calls thread = .store (.prepare request) →
        lease ∈ middle.shared.leases →
        lease.operationKey = request.data.operationKey →
        ownPast thread middle.history = [] →
        ∀ event ∈ ownPast thread last.history,
          FundingCall.OnlyReturns lease event := by
  refine
    ⟨FundingCall.leasesOrdered (reached.trans continued), ?_, ?_⟩
  · intro thread lease rest next running persisted
    obtain ⟨data, _, allocation, rfl⟩ :=
      FundingCall.allocates platform calls reached running
    have isAbove :
        ∀ other ∈ middle.shared.leases,
          other.SameSigner allocation.lease →
          (other.status ≠ .failed →
              other.nonce < allocation.lease.nonce) ∧
            (other.status = .prepared →
              other.nonce < allocation.pendingNonce) :=
      fun other member sameSigner =>
        allocated_isAbove (FundingCall.allocates platform calls)
          (fun _ impossible => absurd impossible List.not_mem_nil)
          reached running allocation member sameSigner
    exact
      ⟨Database.persistPreparation_leases persisted, allocation.safe,
        fun other member sameSigner =>
          (isAbove other member sameSigner).1,
        allocation.reading, allocation.pendingNonce,
        allocation.noted.mem, allocation.isPending,
        TreasuryTransactions.le_nextNonce,
        fun other member sameSigner =>
          (isAbove other member sameSigner).2⟩
  · intro thread request lease isPrepare member isKey notStarted
    exact
      FundingCall.preparation_onlyReturns reached continued isPrepare
        member isKey notStarted

/-! ## Two transactions of one signer -/

/-- A transaction of the treasury under a key. -/
def treasuryTransaction (operationKey : String) : PreparationCall where
  data := {
    operationKey := operationKey
    targetOperationKey := none
    targetType := .standalone
    chainId := "1"
    signerAddress := "0xA1"
    toAddress := "0xB1"
    data := none
    value := some 5
    accessList := none
    getPendingNonce := pure (.ofNat 7)
    prepare := fun nonce => pure {
      txHash := TransactionHash.sample.text
      rawTransaction := "0x"
      context := {
        chainId := "1"
        signerAddress := "0xA1"
        nonce := nonce
        toAddress := "0xB1"
        data := none
        value := 5
        gasLimit := none
        gasPrice := none
        maxFeePerGas := none
        maxPriorityFeePerGas := none
        type := none
        accessList := none } } }
  readsNonce := fun _ => trivial
  signs := fun _ _ => trivial

/-- A transaction is prepared and sent, and two more are prepared. -/
def treasuryCalls : Nat → FundingCall
  | 0 => .store (.prepare (treasuryTransaction "first"))
  | 1 =>
      .store
        (.leaseMarkSubmitted "first" TransactionHash.sample.text)
  | 2 => .store (.prepare (treasuryTransaction "second"))
  | _ => .store (.prepare (treasuryTransaction "first"))

/-- The run up to the second preparation. -/
def firstSent : Option (Config sparkz Failure Database) :=
  (FundingCall.start .sample .empty treasuryCalls).run? (semantics true)
    (fun _ _ => true)
    (StoreCall.inOrder [0, 0, 0, 0, 0, 0, 0, 0, 1])

/-- The run with the other two preparations. -/
def bothPrepared : Option (Config sparkz Failure Database) :=
  firstSent.bind fun config =>
    config.run? (semantics true) (fun _ _ => true)
      (StoreCall.inOrder [2, 2, 2, 2, 2, 2, 2, 2, 3, 3, 3, 3])

/-- The second transaction gets the next nonce, the first one no other. -/
theorem bothPrepared_areSafe :
    ∃ middle last,
      firstSent = some middle ∧
        bothPrepared = some last ∧
        last.shared.leases.map (·.nonce) = [7, 8] ∧
        last.shared.leases.Pairwise TreasuryLease.Precedes ∧
        (ownPast 3 last.history).length = 4 ∧
        ∃ lease ∈ middle.shared.leases,
          ∀ event ∈ ownPast 3 last.history,
            FundingCall.OnlyReturns lease event := by
  have isFirst :
      firstSent.map
          (fun config =>
            (config.shared.leases.map (·.operationKey),
              (ownPast 3 config.history).isEmpty)) =
        some (["first"], true) := by
    decide +kernel
  have isSecond :
      bothPrepared.map
          (fun config =>
            (config.shared.leases.map (·.nonce),
              (ownPast 3 config.history).length)) =
        some ([7, 8], 4) := by
    decide +kernel
  obtain ⟨middle, isMiddle, shown⟩ := Option.map_eq_some_iff.mp isFirst
  obtain ⟨last, isLast, allocated⟩ := Option.map_eq_some_iff.mp isSecond
  obtain ⟨keys, notStarted⟩ := Prod.mk.inj shown
  obtain ⟨nonces, length⟩ := Prod.mk.inj allocated
  have continued := isLast
  rw [bothPrepared, isMiddle, Option.bind_some] at continued
  obtain ⟨ordered, _, returns⟩ :=
    treasuryNonces_areSafe
      (Config.run?_sound (fun _ _ _ => trivial) .start isMiddle)
      (Config.run?_sound (fun _ _ _ => trivial) .start continued)
  obtain ⟨lease, isLease, isKey⟩ :
      ∃ lease ∈ middle.shared.leases, lease.operationKey = "first" := by
    have member : "first" ∈ middle.shared.leases.map (·.operationKey) := by
      rw [keys]
      exact List.mem_cons_self
    exact List.mem_map.mp member
  exact
    ⟨middle, last, isMiddle, isLast, nonces, ordered, length, lease,
      isLease,
      returns 3 (treasuryTransaction "first") lease rfl isLease isKey
        (List.isEmpty_iff.mp notStarted)⟩

end Sparkz
