import Sparkz.OneShotGrants
import Sparkz.PaymentCalls
import Sparkz.SpendBlocking
import Sparkz.SpendRetries
import Sparkz.TreasuryNonces

namespace Sparkz

open Interleaving

/-!
# Payments are sent once

Signed bytes are sent under a lease of their operation that the same call has
just saved, and the table has one lease for a key.  So no run sends two
transactions for one operation, and what was sent stays saved whichever call
is stopped.
-/

/-! ## Sending and saving -/

/-- The bytes of a transaction for this operation are sent. -/
def sendsFor (operationKey : String) (event : Event sparkz) : Bool :=
  match event.op with
  | .chain (.broadcastTransaction sentKey _) => sentKey == operationKey
  | _ => false

/-- A lease for this operation is saved, and its call has seen that. -/
def savesFor (operationKey : String) : Event sparkz → Bool
  | ⟨.write (.persistPreparation lease), .ok _⟩ =>
      lease.operationKey == operationKey
  | _ => false

/-- Bytes are sent right after their lease was saved. -/
theorem executorProtocol_usesGrants
    {platform : Platform}
    {operationKey : String} :
    UsesGrants (executorProtocol platform) (savesFor operationKey)
      (sendsFor operationKey) := by
  intro past op answer permitted isUse
  unfold sendsFor at isUse
  split at isUse
  · rename_i sentKey rawTransaction isBroadcast
    cases isBroadcast
    have isKey : sentKey = operationKey := by simpa using isUse
    cases permitted with
    | @saved lease stored earlier sameKey _ _ =>
        refine
          ⟨[⟨.release, ()⟩], _, earlier, rfl, ?_, rfl, ?_⟩
        · simp [savesFor, sameKey, isKey]
        · intro event isRelease
          rw [List.mem_singleton] at isRelease
          subst isRelease
          rfl
  · cases isUse

/-! ## What a lease has saved -/

section Leases

variable {database next : Database}

/-- A lease was just saved, or an earlier version of it was there. -/
theorem LeasesEffect.mem_cases
    {change : Change}
    {leases : List TreasuryLease}
    (effect : LeasesEffect database change leases)
    {lease : TreasuryLease}
    (member : lease ∈ leases) :
    change = .persistPreparation lease ∨
      ∃ earlier ∈ database.leases, earlier.SameIdentity lease := by
  cases effect with
  | unchanged =>
      exact Or.inr ⟨lease, member, .refl lease⟩
  | inserted isInsert =>
      rcases List.mem_append.mp member with older | newest
      · exact Or.inr ⟨lease, older, .refl lease⟩
      · rw [List.mem_singleton] at newest
        exact Or.inl (newest ▸ isInsert)
  | updated isUpdate =>
      obtain ⟨earlier, older, isLater⟩ := List.mem_map.mp member
      refine Or.inr ⟨earlier, older, ?_⟩
      split at isLater
      · exact isLater ▸ earlier.sameIdentity_after _
      · exact isLater ▸ .refl earlier

/-- Two versions of a lease pay for one target. -/
theorem TreasuryLease.SameIdentity.targetKey
    {lease later : TreasuryLease}
    (same : lease.SameIdentity later) :
    later.targetKey = lease.targetKey := by
  unfold TreasuryLease.targetKey
  rw [same.targetOperationKey, same.operationKey]

/-- The row of the operation names this hash. -/
def Database.RowSaved
    (database : Database)
    (operationKey : String)
    (txHash : TransactionHash) :
    Prop :=
  ∃ row,
    database.operation operationKey = some row ∧
      row.txHash = some txHash

/-- A preparation saves its hash on the operation that it is for. -/
theorem Database.persistPreparation_saves
    {lease : TreasuryLease}
    (persisted : database.persistPreparation lease = .ok next)
    (isOperation : lease.targetType = .tokenOperation) :
    next.RowSaved lease.targetKey lease.txHash := by
  unfold persistPreparation at persisted
  split at persisted
  · cases persisted
  split at persisted
  · cases persisted
  unfold prepareTarget at persisted
  simp only [isOperation] at persisted
  split at persisted
  · cases persisted
  rename_i row found
  split at persisted
  · cases persisted
  rename_i accepted
  split at persisted
  · cases persisted
  cases persisted
  refine ⟨_, operation_mapOperation found _, ?_⟩
  unfold TokenOperation.after
  rw [if_pos (TokenOperation.admits_of_not_refused accepted)]
  rfl

/-- Every lease of an operation has its hash on the row. -/
def Database.LeasesSaved (database : Database) : Prop :=
  ∀ lease ∈ database.leases,
    lease.targetType = .tokenOperation →
    database.RowSaved lease.targetKey lease.txHash

/-- No change takes a saved hash from a row, or a row from a lease. -/
theorem Database.LeasesSaved.step
    {change : Change}
    {result : change.Result}
    (saved : database.LeasesSaved)
    (applied : change.apply database = .ok (result, next)) :
    next.LeasesSaved := by
  intro lease member isOperation
  rcases (Change.leasesEffect applied).mem_cases member with
    isNew | ⟨earlier, older, same⟩
  · subst isNew
    obtain ⟨_, persisted, isPair⟩ := Except.map_eq_ok applied
    cases isPair
    exact persistPreparation_saves persisted isOperation
  · obtain ⟨row, found, isHash⟩ :=
      saved earlier older (same.targetType.symm.trans isOperation)
    obtain ⟨later, isLater, leaves⟩ :=
      (Change.operationsEffect applied).find_some found
    refine ⟨later, same.targetKey ▸ isLater, ?_⟩
    rw [same.txHash]
    exact leaves.evolves.txHash _ isHash

/-- A lease with this identity is in the table. -/
def Database.KeepsLease
    (database : Database)
    (lease : TreasuryLease) :
    Prop :=
  ∃ later ∈ database.leases, lease.SameIdentity later

/-- A lease that is in the table stays there. -/
theorem Effect.keepsLease
    {lost : Bool}
    {op : Op}
    {answer : op.Answer}
    (effect : Effect lost database op answer next)
    {lease : TreasuryLease}
    (keeps : database.KeepsLease lease) :
    next.KeepsLease lease := by
  refine
    effect.preserves (fun database => database.KeepsLease lease)
      (fun _ _ => id) ?_ keeps
  rintro change result after rfl applied ⟨later, isLater, same⟩
  obtain ⟨version, isVersion, sameVersion⟩ :=
    (Change.leasesEffect applied).lease_stays isLater
  exact ⟨version, isVersion, same.trans sameVersion⟩

/-- A preparation that was answered has saved its lease under a new key. -/
theorem Effect.savesLease
    {lost : Bool}
    {lease stored : TreasuryLease}
    (effect :
      Effect lost database (.write (.persistPreparation lease))
        (.ok stored) next) :
    next.KeepsLease lease ∧
      stored = lease ∧
      ∀ other ∈ database.leases,
        other.operationKey ≠ lease.operationKey := by
  cases effect with
  | quiet locks notTables =>
      cases notTables
  | committed locks applied =>
      obtain ⟨_, persisted, isPair⟩ := Except.map_eq_ok applied
      cases isPair
      have isAppended := Database.persistPreparation_leases persisted
      refine
        ⟨⟨lease, ?_, .refl lease⟩, rfl,
          (Database.persistPreparation_isNew persisted).1⟩
      exact
        isAppended ▸
          List.mem_append_right _ (List.mem_singleton_self lease)

end Leases

/-! ## Runs -/

section Run

variable {lost : Bool}
  {platform : Platform}
  {calls : Nat → PaymentCall}
  {config : Config sparkz Failure Database}

namespace PaymentCall

/-- Throughout a run, every lease of an operation has its hash on the row. -/
theorem leasesSaved
    (reached :
      Reachable (semantics lost) (start platform .empty calls) config) :
    config.shared.LeasesSaved := by
  refine
    tableInvariant Database.LeasesSaved (fun _ _ => id)
      (fun _ impossible => absurd impossible List.not_mem_nil) ?_ reached
  intro before thread change rest result after _ _ applied saved
  exact saved.step applied

/-- The lease of a preparation that was answered stays in the table. -/
theorem savedLease_stays
    (reached :
      Reachable (semantics lost) (start platform .empty calls) config)
    {thread : Nat}
    {lease stored : TreasuryLease}
    (wasSaved :
      ⟨.write (.persistPreparation lease), .ok stored⟩ ∈
        ownPast thread config.history) :
    config.shared.KeepsLease lease ∧ stored = lease := by
  refine
    reached.invariant
      (fun shared history =>
        ⟨.write (.persistPreparation lease), .ok stored⟩ ∈
          ownPast thread history →
        Database.KeepsLease shared lease ∧ stored = lease)
      (fun member => absurd member List.not_mem_nil)
      (fun _ => id) ?_ wasSaved
  intro before owner op rest choice answer next _ _ answered _ stays
    member
  have effect := respond_effect answered
  by_cases own : owner = thread
  · subst own
    rw [ownPast_own] at member
    rcases List.mem_cons.mp member with newest | older
    · cases newest
      obtain ⟨keeps, same, _⟩ := effect.savesLease
      exact ⟨keeps, same⟩
    · exact (stays older).imp_left effect.keepsLease
  · rw [ownPast_foreign own] at member
    exact (stays member).imp_left effect.keepsLease

/-- No run saves two leases for one key. -/
theorem saves_atMostOnce
    (operationKey : String)
    (reached :
      Reachable (semantics lost) (start platform .empty calls) config) :
    config.history.countP
        (fun entry => savesFor operationKey entry.event) ≤
      1 := by
  refine
    reached.countP_le_one
      (fun database =>
        ∃ lease,
          database.KeepsLease lease ∧ lease.operationKey = operationKey)
      _ rfl (fun _ => id) ?_
  intro thread op choice before after answer answered
  have effect := respond_effect answered
  constructor
  · rintro ⟨lease, keeps, isKey⟩
    exact ⟨lease, effect.keepsLease keeps, isKey⟩
  · intro isSaved
    unfold savesFor Entry.event at isSaved
    split at isSaved
    · rename_i lease stored isEvent
      cases isEvent
      have isKey : lease.operationKey = operationKey := by
        simpa using isSaved
      obtain ⟨keeps, _, isNew⟩ := effect.savesLease
      refine ⟨?_, lease, keeps, isKey⟩
      rintro ⟨other, ⟨later, isLater, same⟩, sameKey⟩
      exact
        isNew later isLater
          (same.operationKey.trans (sameKey.trans isKey.symm))
    · cases isSaved

/-- A run issues only what the executors may. -/
theorem permitted
    (plainly : platform.EncodesPlainly)
    (reached :
      Reachable (semantics lost) (start platform .empty calls) config)
    {thread : Nat}
    {op : Op}
    {rest : op.Answer → Call Unit}
    (running :
      config.threads thread = some (.perform op rest)) :
    executorProtocol platform (ownPast thread config.history) op := by
  have conforming :
      ∀ thread,
        ((calls thread).run platform).Obeys (executorProtocol platform) []
          fun _ _ => True :=
    fun thread => (calls thread).run_follows plainly []
  exact reached.permitted conforming running

end PaymentCall

/--
The lease of the key names the hash of these bytes.  It pays for the operation
of the key, whose row names the hash too, or it funds a managed wallet.
-/
def Database.Saved
    (database : Database)
    (platform : Platform)
    (operationKey rawTransaction : String) :
    Prop :=
  ∃ lease ∈ database.leases,
    lease.operationKey = operationKey ∧
      lease.txHash = platform.keccak256 rawTransaction ∧
      (lease.Targets operationKey ∧
          database.RowSaved operationKey lease.txHash ∨
        lease.FundsWallet)

namespace PaymentCall

/-- What a call has saved for these bytes is still in the tables. -/
theorem saved_of_savedFor
    (reached :
      Reachable (semantics lost) (start platform .empty calls) config)
    {thread : Nat}
    {operationKey rawTransaction : String}
    {past : Past}
    (savedFor : SavedFor platform operationKey rawTransaction past)
    (own : past ⊆ ownPast thread config.history) :
    config.shared.Saved platform operationKey rawTransaction := by
  cases savedFor with
  | @saved lease stored earlier isKey targets isHash =>
      obtain ⟨⟨later, isLater, same⟩, _⟩ :=
        savedLease_stays reached
          (own (List.mem_cons_of_mem _ List.mem_cons_self))
      refine
        ⟨later, isLater, same.operationKey.trans isKey,
          same.txHash.trans isHash.symm,
          targets.imp ?_ fun funds =>
            ⟨same.targetType.trans funds.targetType,
              same.txContext ▸ funds.data⟩⟩
      rintro ⟨isOperation, isTarget⟩
      have sameTarget := same.targetKey.trans isTarget
      have stillOperation := same.targetType.trans isOperation
      exact
        ⟨⟨stillOperation, sameTarget⟩,
          sameTarget ▸ leasesSaved reached later isLater stillOperation⟩

/-- What is stored beside the operations writes no row of them. -/
theorem not_isBeside_of_writesRow
    {database : Database}
    {change : Change}
    {operationKey : String}
    {write : OperationWrite}
    (writesRow : change.WritesRow database operationKey write) :
    ¬change.isBeside = true := by
  cases writesRow <;> rintro ⟨⟩

/-- Only claims put the rows of a run back into use. -/
theorem reclaimsDisciplined (plainly : platform.EncodesPlainly) :
    ReclaimsDisciplined lost (fun _ _ => True) .empty
      (fun thread => (calls thread).run platform) := by
  intro config thread change rest operationKey reached running writesRow
  rcases (permitted plainly reached running).written with
    writes | isBeside
  · exact writes
  · exact absurd isBeside (not_isBeside_of_writesRow writesRow)

end PaymentCall

/-- The state of a run in which no operation is paid for twice. -/
structure BroadcastsOnce
    (platform : Platform)
    (config : Config sparkz Failure Database) :
    Prop where
  /-- At most one transaction was sent under a key. -/
  once :
    ∀ operationKey,
      config.history.countP
          (fun entry => sendsFor operationKey entry.event) ≤
        1
  /-- The hash of what was sent is saved. -/
  sent :
    ∀ entry ∈ config.history,
      ∀ operationKey rawTransaction,
        entry.op =
          .chain (.broadcastTransaction operationKey rawTransaction) →
        config.shared.Saved platform operationKey rawTransaction
  /-- So is the hash of what is about to be sent. -/
  sends :
    ∀ thread operationKey rawTransaction rest,
      config.threads thread =
        some
          (.perform
            (.chain (.broadcastTransaction operationKey rawTransaction))
            rest) →
      config.shared.Saved platform operationKey rawTransaction
  /-- An operation that a claim starts anew was never paid for. -/
  reclaims :
    ∀ thread operationKey rest,
      config.threads thread =
        some
          (.perform
            (.write (.updateOperation operationKey .reclaim)) rest) →
      (∃ row,
        config.shared.operation operationKey = some row ∧
          row.isReclaimable = true) ∧
        ∀ lease ∈ config.shared.leases, ¬lease.Targets operationKey

/--
In every run of payment calls, however they are interleaved, stopped and left
without an answer of the database, at most one transaction is sent under a key.
Its hash is on the lease before it is sent and ever after.  It is on the row of
the operation too, unless the transaction sends gas to a managed wallet.  And a
claim starts an operation anew only if no lease pays for it.
-/
theorem payments_broadcastOnce
    (plainly : platform.EncodesPlainly)
    (reached :
      Reachable (semantics lost)
        (PaymentCall.start platform .empty calls) config) :
    BroadcastsOnce platform config := by
  have conforming :
      ∀ thread,
        ((calls thread).run platform).Obeys (executorProtocol platform) []
          fun _ _ => True :=
    fun thread => (calls thread).run_follows plainly []
  have sent :
      ∀ entry ∈ config.history,
        ∀ operationKey rawTransaction,
          entry.op =
            .chain
              (.broadcastTransaction operationKey rawTransaction) →
          config.shared.Saved platform operationKey rawTransaction := by
    rintro ⟨thread, op, answer⟩ member operationKey rawTransaction rfl
    have isOwn :
        ⟨.chain (.broadcastTransaction operationKey rawTransaction),
            answer⟩ ∈
          ownPast thread config.history :=
      mem_ownPast.mpr member
    obtain ⟨earlier, savedFor, own⟩ :=
      (reached.extendsBy conforming thread).permitted_before isOwn
    exact PaymentCall.saved_of_savedFor reached savedFor own
  refine
    { once := fun operationKey => ?_
      sent := sent
      sends := ?_
      reclaims := ?_ }
  · exact
      Nat.le_trans
        (reached.uses_le_grants conforming
          fun _ => executorProtocol_usesGrants)
        (PaymentCall.saves_atMostOnce operationKey reached)
  · intro thread operationKey rawTransaction rest running
    exact
      PaymentCall.saved_of_savedFor reached
        (PaymentCall.permitted plainly reached running)
        (List.Subset.refl _)
  · intro thread operationKey rest running
    rcases (PaymentCall.permitted plainly reached running).written with
      writes | impossible
    · obtain ⟨data, _, _, row, rfl, _, found, reclaimable⟩ :=
        writes.reclaim_cases
      obtain ⟨current, isCurrent, _, stays⟩ :=
        foundRow_stays (PaymentCall.reclaimsDisciplined plainly) reached
          running found.found
      have waits := stays reclaimable
      refine ⟨⟨current, isCurrent, waits⟩, ?_⟩
      rintro lease member ⟨isOperation, isTarget⟩
      -- a lease of the operation has its hash on the row
      obtain ⟨saved, isSaved, isHash⟩ :=
        PaymentCall.leasesSaved reached lease member isOperation
      rw [isTarget, isCurrent] at isSaved
      cases isSaved
      simp only [TokenOperation.isReclaimable, isHash, Bool.and_eq_true,
        Option.isNone_some] at waits
      exact Bool.false_ne_true waits.1.2
    · cases impossible

end Run

/-! ## A transaction whose answer is lost -/

/-- The chain lets everything pass and does not answer what is sent. -/
def timeoutChoice : Choice where
  fault := .none
  chain := fun request =>
    match request with
    | .network => .ok 80002
    | .signerAddress => .ok "0xsigner"
    | .pendingNonce _ => .ok (.ofNat 7)
    | .balanceOf _ _ | .allowance _ _ _ => .ok (10 * 10 ^ 18)
    | .staticTransferFrom _ _ _ => .ok ()
    | .estimateGas _ => .ok 100000
    | .feeData => .ok ⟨none, none, some 30⟩
    | .signTransaction _ _ => .ok "0x02f8"
    | .broadcastTransaction _ _ => .error ⟨"timeout", false, false⟩
    | _ => .error ⟨"", false, false⟩
  service := coveredChoice.service

/-- A client that asks for the same spend again and again. -/
def repeatedSpend (_ : Nat) : PaymentCall :=
  .postSpend ⟨true⟩ "0xtoken" (sessionSpend (jsString "session"))

/-- The first call sends and gets no further; the second one runs. -/
def sentAndRepeated : Option (Config sparkz Failure Database) :=
  (PaymentCall.start .sample .empty repeatedSpend).run? (semantics true)
    (fun _ _ => true)
    (List.replicate 34 (0, timeoutChoice) ++
      List.replicate 38 (1, timeoutChoice))

theorem Platform.sample_encodesPlainly :
    Platform.sample.EncodesPlainly := by
  constructor
  · intro recipient amount failure impossible
    cases impossible
  · intro source recipient amount failure impossible
    cases impossible

/-- The second call does not send the transaction of the first one again. -/
theorem repeatedSpend_isSentOnce :
    ∃ config,
      sentAndRepeated = some config ∧
        (config.history.countP fun entry =>
            sendsFor "spend:5:alice5:first" entry.event) =
          1 ∧
        (ownPast 1 config.history).length = 38 ∧
        BroadcastsOnce .sample config := by
  have shown :
      sentAndRepeated.map
          (fun config =>
            (config.history.countP fun entry =>
                sendsFor "spend:5:alice5:first" entry.event,
              (ownPast 1 config.history).length)) =
        some (1, 38) := by
    decide +kernel
  obtain ⟨config, isRun, shows⟩ := Option.map_eq_some_iff.mp shown
  obtain ⟨isSent, length⟩ := Prod.mk.inj shows
  exact
    ⟨config, isRun, isSent, length,
      payments_broadcastOnce Platform.sample_encodesPlainly
        (Config.run?_sound (fun _ _ _ => trivial) .start isRun)⟩

end Sparkz
