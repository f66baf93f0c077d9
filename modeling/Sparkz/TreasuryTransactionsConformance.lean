import Sparkz.TokenOperationsConformance
import Sparkz.TreasuryTransactions

namespace Sparkz

open Interleaving

/-!
# What a nonce allocation may write

`prepare` asks for a nonce and a signature only after it has seen, under the
lock of its chain and signer, that its key has no lease.  It writes the lease
and its target in one statement, or nothing.
-/

namespace TreasuryTransactionPreparationRequest

variable (data : TreasuryTransactionPreparationRequest)

/-- The lock of the chain and signer. -/
abbrev treasuryLock : LockKey :=
  .treasury data.chainId (lowerText data.signerAddress)

/-- The key has no lease. -/
def Unleased (past : Past) : Prop :=
  ReadUnder data.treasuryLock (.lease data.operationKey) none past

/--
A nonce that `prepare` may allocate, what it was allocated from, and what was
signed with it.
-/
structure Allocation
    (signed : Nat → PreparedTreasuryTransaction → Past → Prop)
    (past : Past) where
  reading : JsNumber
  pendingNonce : Nat
  maxNonce : Option Nat
  prepared : PreparedTreasuryTransaction
  hash : TransactionHash
  unleased : data.Unleased past
  noted : NotedUnder data.treasuryLock (.pendingNonce reading) past
  isPending : reading.safeNatural? = some pendingNonce
  noneUnresolved :
    ReadUnder data.treasuryLock
      (.unresolvedLease data.chainId (lowerText data.signerAddress)
        pendingNonce) none past
  isMax :
    ReadUnder data.treasuryLock
      (.maxLeaseNonce data.chainId (lowerText data.signerAddress))
      maxNonce past
  safe :
    TreasuryTransactions.nextNonce pendingNonce maxNonce < 2 ^ 53
  isSigned :
    signed (TreasuryTransactions.nextNonce pendingNonce maxNonce)
      prepared past
  isHash : canonicalTransactionHash prepared.txHash = some hash
  contextNonce :
    prepared.context.nonce =
      TreasuryTransactions.nextNonce pendingNonce maxNonce
  contextChain : prepared.context.chainId = data.chainId
  contextSigner :
    lowerText prepared.context.signerAddress =
      lowerText data.signerAddress

namespace Allocation

variable {data}
  {signed : Nat → PreparedTreasuryTransaction → Past → Prop}
  {past : Past}

/-- The allocated nonce. -/
def nonce (allocation : data.Allocation signed past) : Nat :=
  TreasuryTransactions.nextNonce allocation.pendingNonce
    allocation.maxNonce

/-- The lease that the allocation inserts. -/
def lease (allocation : data.Allocation signed past) : TreasuryLease :=
  data.lease allocation.nonce allocation.hash
    allocation.prepared.context

end Allocation

/-- What a preparation may issue. -/
def protocol
    (asks : ChainRequest → Prop)
    (signed : Nat → PreparedTreasuryTransaction → Past → Prop) :
    Protocol sparkz
  | past, .write change =>
      ∃ allocation : data.Allocation signed past,
        change = .persistPreparation allocation.lease
  | past, .chain request => asks request ∧ data.Unleased past
  | _, .release => True
  | _, op => Op.Inside asks op

/-- How a preparation ends when it does not throw. -/
inductive Ends
    (signed : Nat → PreparedTreasuryTransaction → Past → Prop)
    (past : Past) :
    TreasuryPreparation → Past → Prop where
  | existing
      {lease : TreasuryLease}
      (matching : treasuryIntentMatches lease data.intent = true) :
      Ends signed past
        { lease := lease
          alreadyPrepared := true
          rawTransaction := none }
        (⟨.release, ()⟩ ::
          ⟨.read (.lease data.operationKey), .ok (some lease)⟩ ::
          ⟨.lock data.treasuryLock, .ok ()⟩ :: past)
  | allocated
      {reached : Past}
      {lease : TreasuryLease}
      (allocation : data.Allocation signed reached) :
      Ends signed past
        { lease := lease
          alreadyPrepared := false
          rawTransaction := some allocation.prepared.rawTransaction }
        (⟨.release, ()⟩ ::
          ⟨.write (.persistPreparation allocation.lease), .ok lease⟩ ::
          reached)

/-- How a preparation throws. -/
inductive Fails (past : Past) : Failure → Past → Prop where
  | mismatch {lease : TreasuryLease} :
      Fails past (.preparation "TREASURY_TRANSACTION_INTENT_MISMATCH")
        (⟨.release, ()⟩ ::
          ⟨.read (.lease data.operationKey), .ok (some lease)⟩ ::
          ⟨.lock data.treasuryLock, .ok ()⟩ :: past)
  | lockRefused (error : StoreError) :
      Fails past (.preparation "TREASURY_NONCE_LOCK_TIMEOUT")
        (⟨.release, ()⟩ :: ⟨.lock data.treasuryLock, .error error⟩ ::
          past)
  | readRefused (error : StoreError) :
      Fails past error.failure
        (⟨.release, ()⟩ ::
          ⟨.read (.lease data.operationKey), .error error⟩ ::
          ⟨.lock data.treasuryLock, .ok ()⟩ :: past)
  | unleased
      {failure : Failure}
      {reached : Past}
      (unleased :
        (⟨.read (.lease data.operationKey), .ok none⟩ :
          Event sparkz) ∈ reached)
      (noCommit : NoCommit past reached) :
      Fails past failure reached

end TreasuryTransactionPreparationRequest

section Prepare

variable {data : TreasuryTransactionPreparationRequest}
  {asks : ChainRequest → Prop}
  {signed : Nat → PreparedTreasuryTransaction → Past → Prop}
  {past : Past}

/-- What an allocation has done when it ends. -/
def TreasuryTransactionPreparationRequest.Finished
    (data : TreasuryTransactionPreparationRequest)
    (signed : Nat → PreparedTreasuryTransaction → Past → Prop)
    (start : Past)
    (result : Except Failure TreasuryPreparation)
    (reached : Past) :
    Prop :=
  (∀ preparation,
    result = .ok preparation →
    data.Ends signed start preparation (⟨.release, ()⟩ :: reached)) ∧
  ∀ failure,
    result = .error failure →
    data.Fails start failure (⟨.release, ()⟩ :: reached)

namespace TreasuryTransactionPreparationRequest

theorem finished_of_fails
    {failure : Failure}
    {start reached : Past}
    (fails : data.Fails start failure (⟨.release, ()⟩ :: reached)) :
    data.Finished signed start (.error failure) reached := by
  refine ⟨fun _ impossible => (nomatch impossible), ?_⟩
  intro other isFailure
  cases isFailure
  exact fails

theorem finished_of_ends
    {preparation : TreasuryPreparation}
    {start reached : Past}
    (ends :
      data.Ends signed start preparation (⟨.release, ()⟩ :: reached)) :
    data.Finished signed start (.ok preparation) reached := by
  refine ⟨?_, fun _ impossible => nomatch impossible⟩
  intro other isPreparation
  cases isPreparation
  exact ends

/-- After the key was seen without a lease, a failure writes nothing. -/
theorem finished_of_unleased
    {failure : Failure}
    {start reached : Past}
    (unleased :
      (⟨.read (.lease data.operationKey), .ok none⟩ :
        Event sparkz) ∈ reached)
    (noCommit : NoCommit start reached) :
    data.Finished signed start (.error failure) reached :=
  finished_of_fails
    (.unleased (List.mem_cons_of_mem _ unleased) noCommit.release)

/-- Inside the transaction, with its key seen without a lease. -/
theorem finished_inside
    {failure : Failure}
    {start reached : Past}
    (unleased : data.Unleased past)
    (began : NoCommit start past)
    (inside : ExtendsBy (insideTransaction asks) past reached) :
    data.Finished signed start (.error failure) reached :=
  finished_of_unleased (unleased.extend inside).mem
    (began.trans (.of_insideTransaction inside))

/-- A callback runs under the lock, and its key has no lease. -/
theorem obeys_callback {α : Type}
    {body : Call α}
    {post : Except Failure α → Past → Prop}
    (unleased : data.Unleased past)
    (outside : body.Obeys (outsideOnly asks) past post) :
    body.Obeys (data.protocol asks signed) past
      fun result reached =>
        post result reached ∧
          ExtendsBy (insideTransaction asks) past reached := by
  have isInside :
      ∀ past op, outsideOnly asks past op → Op.Inside asks op := by
    intro past op permitted
    cases op <;> first | exact permitted | trivial
  refine
    (outside.embed ?_).weaken fun _ _ established =>
      ⟨established.1, established.2.weaken isInside⟩
  intro reached op extended permitted
  cases op with
  | chain request =>
      exact ⟨permitted, unleased.extend (extended.weaken isInside)⟩
  | service request =>
      trivial
  | _ =>
      exact permitted.elim

/-- The signature, the check of its context, and the one write. -/
theorem signAndSave_obeys
    {start : Past}
    {reading : JsNumber}
    {pendingNonce : Nat}
    {maxNonce : Option Nat}
    (outside :
      ∀ nonce past,
        (data.prepare nonce).Obeys (outsideOnly asks) past
          fun result reached =>
            ∀ prepared,
              result = .ok prepared → signed nonce prepared reached)
    (unleased : data.Unleased past)
    (began : NoCommit start past)
    (noted : NotedUnder data.treasuryLock (.pendingNonce reading) past)
    (isPending : reading.safeNatural? = some pendingNonce)
    (noneUnresolved :
      ReadUnder data.treasuryLock
        (.unresolvedLease data.chainId (lowerText data.signerAddress)
          pendingNonce) none past)
    (isMax :
      ReadUnder data.treasuryLock
        (.maxLeaseNonce data.chainId (lowerText data.signerAddress))
        maxNonce past)
    (safe :
      TreasuryTransactions.nextNonce pendingNonce maxNonce < 2 ^ 53) :
    (TreasuryTransactions.signAndSave data
      (TreasuryTransactions.nextNonce pendingNonce maxNonce)).Obeys
      (data.protocol asks signed) past (data.Finished signed start) := by
  unfold TreasuryTransactions.signAndSave
  rw [Program.obeys_bind]
  refine (obeys_callback unleased (outside _ past)).weaken ?_
  rintro (failure | prepared) reached ⟨isSigned, inside⟩
  · exact finished_inside unleased began inside
  dsimp only
  rw [Program.obeys_bind, obeys_orThrow]
  unfold requireCanonicalTransactionHash
  cases isHash : canonicalTransactionHash prepared.txHash with
  | none =>
      exact finished_inside unleased began inside
  | some hash =>
      dsimp only
      split
      · exact finished_inside unleased began inside
      · rename_i matching
        push Not at matching
        let allocation : data.Allocation signed reached :=
          { reading := reading
            pendingNonce := pendingNonce
            maxNonce := maxNonce
            prepared := prepared
            hash := hash
            unleased := unleased.extend inside
            noted := noted.extend inside
            isPending := isPending
            noneUnresolved := noneUnresolved.extend inside
            isMax := isMax.extend inside
            safe := safe
            isSigned := isSigned prepared rfl
            isHash := isHash
            contextNonce := matching.1
            contextChain := matching.2.1
            contextSigner := matching.2.2 }
        simp only [Program.obeys_bind, obeys_write]
        refine ⟨⟨allocation, rfl⟩, fun lease => ?_, fun error => ?_⟩
        · exact finished_of_ends (.allocated allocation)
        · exact
            finished_of_unleased
              (List.mem_cons_of_mem _ (unleased.extend inside).mem)
              ((began.trans (.of_insideTransaction inside)).cons
                not_isCommit_refused)

/-- An allocation reads the leases of its signer under their lock. -/
theorem allocate_obeys
    {start : Past}
    (readsNonce : AsksOutside asks data.getPendingNonce)
    (signs :
      ∀ nonce past,
        (data.prepare nonce).Obeys (outsideOnly asks) past
          fun result reached =>
            ∀ prepared,
              result = .ok prepared → signed nonce prepared reached)
    (unleased : data.Unleased past)
    (began : NoCommit start past) :
    (TreasuryTransactions.allocate data).Obeys
      (data.protocol asks signed) past (data.Finished signed start) := by
  unfold TreasuryTransactions.allocate
  rw [Program.obeys_bind]
  refine (obeys_callback unleased (readsNonce past)).weaken ?_
  rintro (failure | reading) sampled ⟨_, inside⟩
  · exact finished_inside unleased began inside
  have stillUnleased := unleased.extend inside
  have stillBegan : NoCommit start sampled :=
    began.trans (.of_insideTransaction inside)
  have held := stillUnleased.holds
  have noted : ExtendsBy (insideTransaction asks) sampled
      (⟨.note (.pendingNonce reading), ()⟩ :: sampled) :=
    insideTransaction_cons .none trivial
  dsimp only
  rw [Program.obeys_bind, obeys_note]
  refine ⟨trivial, ?_⟩
  dsimp only
  split
  · exact finished_inside stillUnleased stillBegan noted
  rename_i pendingNonce isPending
  rw [Program.obeys_bind, obeys_read]
  refine ⟨trivial, fun unresolved => ?_, fun error =>
    finished_inside stillUnleased stillBegan
      (insideTransaction_cons noted trivial)⟩
  cases unresolved with
  | some lease =>
      dsimp only
      rw [Program.obeys_bind, obeys_service]
      refine ⟨trivial, fun age => ?_⟩
      exact
        finished_inside stillUnleased stillBegan
          (insideTransaction_cons
            (insideTransaction_cons noted trivial) trivial)
  | none =>
      have checked := insideTransaction_perform
        (.read (.unresolvedLease data.chainId
          (lowerText data.signerAddress) pendingNonce))
        (.ok none) noted trivial
      dsimp only
      rw [Program.obeys_bind, obeys_read]
      refine ⟨trivial, fun maxNonce => ?_, fun error =>
        finished_inside stillUnleased stillBegan
          (insideTransaction_cons checked trivial)⟩
      dsimp only
      split
      · rename_i safe
        refine
          signAndSave_obeys signs
            (stillUnleased.extend
              (insideTransaction_cons checked trivial))
            (stillBegan.trans
              (.of_insideTransaction
                (insideTransaction_cons checked trivial)))
            ?_ isPending ?_ ?_ safe <;>
          simp [Op.endsTransaction, held]
      · exact
          finished_inside stillUnleased stillBegan
            (insideTransaction_cons checked trivial)

/-- `prepare` conforms, however it ends. -/
theorem prepare_obeys
    (readsNonce : AsksOutside asks data.getPendingNonce)
    (signs :
      ∀ nonce past,
        (data.prepare nonce).Obeys (outsideOnly asks) past
          fun result reached =>
            ∀ prepared,
              result = .ok prepared → signed nonce prepared reached) :
    (TreasuryTransactions.prepare data).Obeys
      (data.protocol asks signed) past
      fun result reached =>
        (∀ preparation,
          result = .ok preparation →
          data.Ends signed past preparation reached) ∧
        ∀ failure,
          result = .error failure →
          data.Fails past failure reached := by
  unfold TreasuryTransactions.prepare
  rw [obeys_transaction]
  suffices conforms :
      Program.Obeys (data.protocol asks signed) _ past
        (data.Finished signed past) from
    conforms.weaken fun result reached finished => ⟨trivial, finished⟩
  rw [Program.obeys_bind, Program.obeys_attempt, obeys_lock]
  refine ⟨trivial, ?_, fun error => finished_of_fails (.lockRefused error)⟩
  dsimp only
  rw [Program.obeys_bind, obeys_read]
  refine ⟨trivial, fun found => ?_, fun error =>
    finished_of_fails (.readRefused error)⟩
  have locked : ExtendsBy (insideTransaction asks) past
      (⟨.lock data.treasuryLock, .ok ()⟩ :: past) :=
    insideTransaction_cons .none trivial
  cases found with
  | none =>
      refine
        allocate_obeys readsNonce signs ?_
          (.of_insideTransaction
            (insideTransaction_cons locked trivial))
      simp [Unleased, Op.endsTransaction]
  | some existing =>
      dsimp only
      split
      · rename_i matching
        exact finished_of_ends (.existing matching)
      · exact finished_of_fails .mismatch

end TreasuryTransactionPreparationRequest

end Prepare

/-! ## Callbacks -/

section Mark

variable {asks : ChainRequest → Prop} {operationKey : String}
  {past : Past}

/-- The statement of `markSubmitted`, on a lease. -/
def LeaseMarkSubmittedWrites
    (operationKey txHash : String)
    (_ : Past)
    (change : Change) :
    Prop :=
  ∃ hash,
    canonicalTransactionHash txHash = some hash ∧
      change = .updateLease operationKey (some hash) .markSubmitted

/-- `markSubmitted` issues its statement when the hash is one. -/
theorem leaseMarkSubmitted_obeys {txHash : String} :
    (TreasuryTransactions.markSubmitted operationKey txHash).Obeys
      (writesOnly asks (LeaseMarkSubmittedWrites operationKey txHash))
      past fun _ _ => True := by
  unfold TreasuryTransactions.markSubmitted
    requireCanonicalTransactionHash
  cases canonical : canonicalTransactionHash txHash with
  | none =>
      trivial
  | some hash =>
      simp [Program.obeys_bind, LeaseMarkSubmittedWrites, canonical]

/-- `markUnknown` issues its one statement. -/
theorem leaseMarkUnknown_obeys
    {diagnostic : TransactionDiagnostic}
    {errorMessage : String} :
    (TreasuryTransactions.markUnknown operationKey diagnostic
      errorMessage).Obeys
      (writesOnly asks fun _ change =>
        change =
          .updateLease operationKey none
            (.markUnknown diagnostic errorMessage))
      past fun _ _ => True := by
  simp [TreasuryTransactions.markUnknown]

/-- `markFailed` issues its one statement. -/
theorem leaseMarkFailed_obeys
    {diagnostic : TransactionDiagnostic}
    {errorMessage : String} :
    (TreasuryTransactions.markFailed operationKey diagnostic
      errorMessage).Obeys
      (writesOnly asks fun _ change =>
        change =
          .updateLease operationKey none
            (.markFailed diagnostic errorMessage))
      past fun _ _ => True := by
  simp [TreasuryTransactions.markFailed]

end Mark

end Sparkz
