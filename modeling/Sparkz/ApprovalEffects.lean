import Sparkz.DatabaseEffects

namespace Sparkz

/-!
# What a change does to an approval preparation

Every change leaves a preparation as it is, issues one statement on it, or moves
it together with the lease of one of its funding attempts.
-/

/-- A statement on a preparation that a change about preparations issues. -/
inductive Change.WritesApproval
    (database : Database)
    (row : ApprovalPreparation) :
    Change → ApprovalWrite → Prop where
  | reclaim
      {data : ApprovalClaimRequest}
      (isKey : data.operationKey = row.operationKey)
      (reclaimable : row.isReclaimable = true) :
      WritesApproval database row (.claimApproval data) .reclaim
  | update {write : ApprovalWrite} :
      WritesApproval database row
        (.updateApproval row.operationKey write) write
  | topUp
      {fundingAttemptKey : String}
      {fundingAttemptValue : Nat}
      (evidence :
        ∀ hash,
          row.fundingTxHash = some hash →
          (database.priorFundingLease row.operationKey hash).isSome =
            true) :
      WritesApproval database row
        (.claimFundingTopUp row.operationKey fundingAttemptKey
          fundingAttemptValue)
        (.claimFundingTopUp fundingAttemptKey fundingAttemptValue)
  | submission :
      WritesApproval database row
        (.claimApprovalSubmission row.operationKey)
        .claimApprovalSubmission
  | unknown
      {error : String}
      {options : FundingUnknownOptions}
      {hash : Option TransactionHash}
      (attempt :
        options.fundingAttemptKey = none ∨
          row.fundingAttemptKey = options.fundingAttemptKey)
      (isHash :
        hash =
          (orNull options.fundingTxHash).bind canonicalTransactionHash)
      (named :
        hash = none → orNull options.fundingTxHash = none)
      (same :
        hash.isSome = true →
        row.fundingTxHash.isSome = true →
        row.fundingTxHash = hash) :
      WritesApproval database row
        (.markApprovalUnknown row.operationKey error options)
        (.markUnknown error hash options.clearFundingHash
          options.diagnostic)

/-- What becomes of a preparation when a change is applied. -/
inductive Change.LeavesApproval
    (database : Database)
    (row : ApprovalPreparation) :
    Change → ApprovalPreparation → Prop where
  | same {change : Change} : LeavesApproval database row change row
  | written
      {change : Change}
      {write : ApprovalWrite}
      (writes : change.WritesApproval database row write)
      (admitted : row.admits write = true) :
      LeavesApproval database row change (row.set write)
  | prepared
      {lease : TreasuryLease}
      (isFunding : lease.targetType = .approvalFunding)
      (isTarget : lease.targetKey = row.operationKey)
      (accepted : row.refusal lease = none) :
      LeavesApproval database row (.persistPreparation lease)
        (row.funded lease)
  | leased
      {operationKey : String}
      {hash : Option TransactionHash}
      {write : LeaseWrite}
      {lease : TreasuryLease}
      (found : database.lease operationKey = some lease)
      (isFunding : lease.targetType = .approvalFunding)
      (isTarget : lease.targetKey = row.operationKey) :
      LeavesApproval database row
        (.updateLease operationKey hash write)
        (row.afterLease lease write)

/-! ## Statements keep the key of a row -/

@[simp] theorem ApprovalPreparation.set_operationKey
    (row : ApprovalPreparation)
    (write : ApprovalWrite) :
    (row.set write).operationKey = row.operationKey := by
  cases write <;> rfl

@[simp] theorem ApprovalPreparation.after_operationKey
    (row : ApprovalPreparation)
    (write : ApprovalWrite) :
    (row.after write).operationKey = row.operationKey := by
  unfold ApprovalPreparation.after
  split
  · exact row.set_operationKey write
  · rfl

@[simp] theorem ApprovalPreparation.afterLease_operationKey
    (row : ApprovalPreparation)
    (lease : TreasuryLease)
    (write : LeaseWrite) :
    (row.afterLease lease write).operationKey = row.operationKey := by
  unfold ApprovalPreparation.afterLease
  split
  · cases write <;> rfl
  · rfl

theorem Database.approval_eq_some
    {database : Database}
    {operationKey : String}
    {row : ApprovalPreparation}
    (found : database.approval operationKey = some row) :
    row ∈ database.approvals ∧ row.operationKey = operationKey :=
  ⟨List.mem_of_find?_eq_some found, by
    simpa using List.find?_some found⟩

/-- A rewriting of rows that keeps keys is seen in every lookup. -/
theorem List.find?_operationKey_map
    {rows : List ApprovalPreparation}
    {rewrite : ApprovalPreparation → ApprovalPreparation}
    (sameKey :
      ∀ row, (rewrite row).operationKey = row.operationKey)
    (operationKey : String) :
    (rows.map rewrite).find? (·.operationKey == operationKey) =
      (rows.find? (·.operationKey == operationKey)).map rewrite := by
  have same :
      ((·.operationKey == operationKey) ∘ rewrite) =
        (·.operationKey == operationKey) := by
    funext row
    simp only [Function.comp, sameKey row]
  rw [List.find?_map, same]

/-- A statement on one preparation, seen in every lookup. -/
theorem Database.approval_mapApproval
    (database : Database)
    (operationKey other : String)
    (write : ApprovalWrite) :
    (database.mapApproval operationKey write).approval other =
      (database.approval other).map fun row =>
        if row.operationKey = operationKey then row.after write
        else row := by
  apply List.find?_operationKey_map
  intro row
  split
  · exact row.after_operationKey write
  · rfl

/-! ## The effect of a change -/

section Effects

variable {database next : Database}
  {operationKey : String} {row : ApprovalPreparation}

/-- One statement on one preparation leaves a row as it is or writes it. -/
theorem leavesApproval_of_map
    {change : Change}
    {target : String}
    {write : ApprovalWrite}
    {current : ApprovalPreparation}
    (found : database.approval operationKey = some row)
    (isCurrent : database.approval target = some current)
    (writes : change.WritesApproval database current write)
    (admitted : current.admits write = true) :
    ∃ later,
      (database.mapApproval target write).approval operationKey =
          some later ∧
        change.LeavesApproval database row later := by
  rw [Database.approval_mapApproval, found]
  refine ⟨_, rfl, ?_⟩
  dsimp only
  split
  · rename_i isTarget
    have isKey := (Database.approval_eq_some found).2
    rw [← isTarget, isKey, found] at isCurrent
    cases isCurrent
    rw [ApprovalPreparation.after, if_pos admitted]
    exact .written writes admitted
  · exact .same

/-- The same, for a statement that may not be admitted. -/
theorem leavesApproval_of_update
    {change : Change}
    {target : String}
    {write : ApprovalWrite}
    (found : database.approval operationKey = some row)
    (writes :
      ∀ current,
        database.approval target = some current →
        change.WritesApproval database current write) :
    ∃ later,
      (database.updateApproval target write).2.approval operationKey =
          some later ∧
        change.LeavesApproval database row later := by
  unfold Database.updateApproval
  split
  · exact ⟨row, found, .same⟩
  · rename_i current isCurrent
    split
    · rename_i admitted
      exact
        leavesApproval_of_map found isCurrent
          (writes current isCurrent) admitted
    · exact ⟨row, found, .same⟩

theorem leavesApproval_claimApproval
    {data : ApprovalClaimRequest}
    {result : ApprovalPreparation × Bool}
    (found : database.approval operationKey = some row)
    (applied : database.claimApproval data = .ok (result, next)) :
    ∃ later,
      next.approval operationKey = some later ∧
        (Change.claimApproval data).LeavesApproval database row
          later := by
  unfold Database.claimApproval at applied
  split at applied
  · cases applied
    refine ⟨row, ?_, .same⟩
    unfold Database.approval at found ⊢
    rw [List.find?_append, found]
    rfl
  · rename_i existing isExisting
    split at applied
    · cases applied
    split at applied
    · rename_i reclaimable
      cases applied
      refine leavesApproval_of_map found isExisting ?_ ?_
      · exact
          .reclaim (Database.approval_eq_some isExisting).2.symm
            reclaimable
      · simp only [ApprovalPreparation.isReclaimable,
          Bool.and_eq_true] at reclaimable
        exact reclaimable.1.1
    · cases applied
      exact ⟨row, found, .same⟩

theorem leavesApproval_claimFundingTopUp
    {target fundingAttemptKey : String}
    {fundingAttemptValue : Nat}
    {result : ApprovalPreparation × Bool}
    (found : database.approval operationKey = some row)
    (applied :
      database.claimFundingTopUp target fundingAttemptKey
          fundingAttemptValue =
        .ok (result, next)) :
    ∃ later,
      next.approval operationKey = some later ∧
        (Change.claimFundingTopUp target fundingAttemptKey
          fundingAttemptValue).LeavesApproval database row later := by
  simp only [Database.claimFundingTopUp] at applied
  split at applied
  · cases applied
  · rename_i current isCurrent
    have isKey := (Database.approval_eq_some isCurrent).2
    split at applied
    · rename_i admitted
      split at applied
      · rename_i evidence
        cases applied
        refine leavesApproval_of_map found isCurrent ?_ admitted
        subst isKey
        refine .topUp fun hash isHash => ?_
        simpa [isHash] using evidence
      · cases applied
    · cases applied
      exact ⟨row, found, .same⟩

theorem leavesApproval_claimApprovalSubmission
    {target : String}
    {result : ApprovalPreparation × Bool}
    (found : database.approval operationKey = some row)
    (applied :
      database.claimApprovalSubmission target = .ok (result, next)) :
    ∃ later,
      next.approval operationKey = some later ∧
        (Change.claimApprovalSubmission target).LeavesApproval database
          row later := by
  unfold Database.claimApprovalSubmission at applied
  split at applied
  · cases applied
  · rename_i current isCurrent
    have isKey := (Database.approval_eq_some isCurrent).2
    split at applied
    · rename_i admitted
      cases applied
      subst isKey
      exact leavesApproval_of_map found isCurrent .submission admitted
    · cases applied
      exact ⟨row, found, .same⟩

theorem leavesApproval_markApprovalUnknown
    {target error : String}
    {options : FundingUnknownOptions}
    {result : Option ApprovalPreparation}
    (found : database.approval operationKey = some row)
    (applied :
      database.markApprovalUnknown target error options =
        .ok (result, next)) :
    ∃ later,
      next.approval operationKey = some later ∧
        (Change.markApprovalUnknown target error options).LeavesApproval
          database row later := by
  simp only [Database.markApprovalUnknown] at applied
  split at applied
  · cases applied
    exact ⟨row, found, .same⟩
  rename_i current isCurrent
  have isKey := (Database.approval_eq_some isCurrent).2
  split at applied
  · cases applied
    exact ⟨row, found, .same⟩
  rename_i sameAttempt
  have attempt :
      options.fundingAttemptKey = none ∨
        current.fundingAttemptKey = options.fundingAttemptKey := by
    cases isAttempt : options.fundingAttemptKey with
    | none =>
        exact Or.inl rfl
    | some attemptKey =>
        rw [isAttempt] at sameAttempt
        simpa using sameAttempt
  split at applied
  · rename_i noHash
    obtain rfl := congrArg Prod.snd (Except.ok.inj applied)
    refine leavesApproval_of_update found fun other isOther => ?_
    rw [isCurrent] at isOther
    cases isOther
    subst isKey
    exact
      .unknown attempt (by rw [noHash]; rfl) (fun _ => noHash)
        (fun impossible => (by cases impossible))
  rename_i text isText
  split at applied
  · cases applied
  rename_i hash isHash
  split at applied
  · cases applied
    exact ⟨row, found, .same⟩
  · rename_i sameHash
    obtain rfl := congrArg Prod.snd (Except.ok.inj applied)
    refine leavesApproval_of_update found fun other isOther => ?_
    rw [isCurrent] at isOther
    cases isOther
    subst isKey
    refine
      .unknown attempt (by rw [isText]; exact isHash.symm)
        (fun impossible => (by cases impossible)) fun _ isSaved => ?_
    by_contra different
    exact sameHash ⟨isSaved, different⟩

/-- A status callback on a lease moves the parent of the lease. -/
theorem leavesApproval_updateLease
    {leaseKey : String}
    {hash : Option TransactionHash}
    {write : LeaseWrite}
    (found : database.approval operationKey = some row) :
    ∃ later,
      (database.updateLease leaseKey hash write).2.approval
          operationKey = some later ∧
        (Change.updateLease leaseKey hash write).LeavesApproval database
          row later := by
  unfold Database.updateLease
  split
  · exact ⟨row, found, .same⟩
  rename_i lease isLease
  split
  · exact ⟨row, found, .same⟩
  split
  · unfold Database.mapLease
    cases isTarget : lease.targetType with
    | approvalFunding =>
        refine
          ⟨if row.operationKey = lease.targetKey then
              row.afterLease lease write else row, ?_, ?_⟩
        · refine
            (List.find?_operationKey_map ?_ operationKey).trans ?_
          · intro other
            split
            · exact other.afterLease_operationKey lease write
            · rfl
          · unfold Database.approval at found
            rw [found]
            rfl
        · split
          · rename_i isKey
            exact .leased isLease isTarget isKey.symm
          · exact .same
    | _ =>
        exact ⟨row, found, .same⟩
  · exact ⟨row, found, .same⟩

/-- A preparation is recorded on its parent, which has accepted it. -/
theorem leavesApproval_persistPreparation
    {lease : TreasuryLease}
    (found : database.approval operationKey = some row)
    (persisted : database.persistPreparation lease = .ok next) :
    ∃ later,
      next.approval operationKey = some later ∧
        (Change.persistPreparation lease).LeavesApproval database row
          later := by
  unfold Database.persistPreparation at persisted
  split at persisted
  · cases persisted
  split at persisted
  · cases persisted
  unfold Database.prepareTarget at persisted
  cases isTarget : lease.targetType with
  | tokenOperation =>
      simp only [isTarget] at persisted
      split at persisted
      · cases persisted
      split at persisted
      · cases persisted
      split at persisted
      · cases persisted
      · cases persisted
        exact ⟨row, found, .same⟩
  | approvalFunding =>
      simp only [isTarget] at persisted
      split at persisted
      · cases persisted
      rename_i parent isParent
      split at persisted
      · cases persisted
      rename_i accepted
      cases persisted
      refine
        ⟨if row.operationKey = lease.targetKey then row.funded lease
          else row, ?_, ?_⟩
      · refine (List.find?_operationKey_map ?_ operationKey).trans ?_
        · intro other
          split <;> rfl
        · unfold Database.approval at found
          rw [found]
          rfl
      · split
        · rename_i isKey
          have sameRow : parent = row := by
            have isRow := found
            rw [← (Database.approval_eq_some found).2, isKey] at isRow
            exact Option.some.inj (isParent.symm.trans isRow)
          subst sameRow
          exact .prepared isTarget isKey.symm accepted
        · exact .same
  | standalone =>
      simp only [isTarget] at persisted
      cases persisted
      exact ⟨row, found, .same⟩

/-- What becomes of a preparation under any change. -/
theorem Change.leavesApproval
    {change : Change}
    {result : change.Result}
    (found : database.approval operationKey = some row)
    (applied : change.apply database = .ok (result, next)) :
    ∃ later,
      next.approval operationKey = some later ∧
        change.LeavesApproval database row later := by
  by_cases isReservationChange : change.isReservationChange = true
  · cases Change.reservationsEffect applied isReservationChange <;>
      exact ⟨row, found, .same⟩
  cases change with
  | insertOperation inserted =>
      obtain ⟨_, accepted, same⟩ := Except.map_eq_ok applied
      cases same
      obtain ⟨rfl, _⟩ := Database.insertOperation_eq_ok accepted
      exact ⟨row, found, .same⟩
  | updateOperation target write =>
      simp only [Change.apply, Database.updateOperation] at applied
      split at applied
      · cases applied
        exact ⟨row, found, .same⟩
      split at applied
      · split at applied <;> cases applied
        exact ⟨row, found, .same⟩
      · cases applied
        exact ⟨row, found, .same⟩
  | settleOperation target write =>
      cases applied
      exact ⟨row, found, .same⟩
  | persistPreparation lease =>
      obtain ⟨_, accepted, same⟩ := Except.map_eq_ok applied
      cases same
      exact leavesApproval_persistPreparation found accepted
  | updateLease target hash write =>
      obtain rfl := congrArg Prod.snd (Except.ok.inj applied)
      exact leavesApproval_updateLease found
  | claimApproval data =>
      exact leavesApproval_claimApproval found applied
  | updateApproval target write =>
      obtain rfl := congrArg Prod.snd (Except.ok.inj applied)
      refine leavesApproval_of_update found fun current isCurrent => ?_
      have isKey := (Database.approval_eq_some isCurrent).2
      subst isKey
      exact .update
  | claimFundingTopUp target fundingAttemptKey value =>
      exact leavesApproval_claimFundingTopUp found applied
  | claimApprovalSubmission target =>
      exact leavesApproval_claimApprovalSubmission found applied
  | markApprovalUnknown target error options =>
      exact leavesApproval_markApprovalUnknown found applied
  | recordAward user award balance =>
      obtain ⟨ledger, _, same⟩ := Except.map_eq_ok applied
      cases same
      exact ⟨row, found, .same⟩
  | recordSpend user spend balance =>
      obtain ⟨ledger, _, same⟩ := Except.map_eq_ok applied
      cases same
      exact ⟨row, found, .same⟩
  | insertReceipt receipt =>
      obtain ⟨_, inserted, same⟩ := Except.map_eq_ok applied
      cases same
      obtain ⟨rfl, _⟩ := Database.insertReceipt_eq_ok inserted
      exact ⟨row, found, .same⟩
  | _ =>
      exact absurd rfl isReservationChange

/-- A preparation that is saved rewrites approvals and keeps their keys. -/
theorem Database.approvals_of_persisted
    {lease : TreasuryLease}
    (persisted : database.persistPreparation lease = .ok next) :
    ∃ rewrite : ApprovalPreparation → ApprovalPreparation,
      (∀ row, (rewrite row).operationKey = row.operationKey) ∧
        next.approvals = database.approvals.map rewrite := by
  unfold Database.persistPreparation at persisted
  split at persisted
  · cases persisted
  split at persisted
  · cases persisted
  unfold Database.prepareTarget at persisted
  cases isTarget : lease.targetType with
  | tokenOperation =>
      simp only [isTarget] at persisted
      split at persisted
      · cases persisted
      split at persisted
      · cases persisted
      split at persisted
      · cases persisted
      · cases persisted
        exact ⟨id, fun _ => rfl, (List.map_id _).symm⟩
  | approvalFunding =>
      simp only [isTarget] at persisted
      split at persisted
      · cases persisted
      split at persisted
      · cases persisted
      · cases persisted
        refine ⟨_, fun row => ?_, rfl⟩
        split <;> rfl
  | standalone =>
      simp only [isTarget] at persisted
      cases persisted
      exact ⟨id, fun _ => rfl, (List.map_id _).symm⟩

/-- A callback of a lease does the same. -/
theorem Database.approvals_of_updateLease
    (database : Database)
    (leaseKey : String)
    (hash : Option TransactionHash)
    (write : LeaseWrite) :
    ∃ rewrite : ApprovalPreparation → ApprovalPreparation,
      (∀ row, (rewrite row).operationKey = row.operationKey) ∧
        (database.updateLease leaseKey hash write).2.approvals =
          database.approvals.map rewrite := by
  have same :
      ∃ rewrite : ApprovalPreparation → ApprovalPreparation,
        (∀ row, (rewrite row).operationKey = row.operationKey) ∧
          database.approvals = database.approvals.map rewrite :=
    ⟨id, fun _ => rfl, (List.map_id _).symm⟩
  unfold Database.updateLease
  split
  · exact same
  rename_i lease _
  split
  · exact same
  split
  · unfold Database.mapLease
    cases isTarget : lease.targetType with
    | approvalFunding =>
        refine ⟨_, fun row => ?_, rfl⟩
        split
        · exact row.afterLease_operationKey lease write
        · rfl
    | _ =>
        exact same
  · exact same

/-- A preparation that a change has brought is one that a claim inserts. -/
theorem Change.approval_inserted
    {change : Change}
    {result : change.Result}
    (applied : change.apply database = .ok (result, next))
    (missing : database.approval operationKey = none)
    (found : next.approval operationKey = some row) :
    ∃ data, change = .claimApproval data ∧ row = data.row := by
  have notSame : next.approvals ≠ database.approvals := by
    intro same
    unfold Database.approval at missing found
    rw [same, missing] at found
    cases found
  have notMapped :
      ∀ rewrite : ApprovalPreparation → ApprovalPreparation,
        (∀ row, (rewrite row).operationKey = row.operationKey) →
        next.approvals ≠ database.approvals.map rewrite := by
    intro rewrite sameKey same
    unfold Database.approval at missing found
    rw [same, List.find?_operationKey_map sameKey, missing] at found
    cases found
  have notWritten :
      ∀ target write,
        next.approvals ≠
          (database.mapApproval target write).approvals := by
    intro target write
    refine notMapped _ fun other => ?_
    split
    · exact other.after_operationKey write
    · rfl
  have notUpdated :
      ∀ target write,
        next.approvals ≠
          (database.updateApproval target write).2.approvals := by
    intro target write
    unfold Database.updateApproval
    split
    · exact notSame
    split
    · exact notWritten target write
    · exact notSame
  by_cases isReservationChange : change.isReservationChange = true
  · cases Change.reservationsEffect applied isReservationChange <;>
      exact absurd rfl notSame
  cases change with
  | insertOperation inserted =>
      obtain ⟨_, accepted, same⟩ := Except.map_eq_ok applied
      cases same
      obtain ⟨rfl, _⟩ := Database.insertOperation_eq_ok accepted
      exact absurd rfl notSame
  | updateOperation target write =>
      simp only [Change.apply, Database.updateOperation] at applied
      split at applied
      · cases applied
        exact absurd rfl notSame
      split at applied
      · split at applied <;> cases applied
        exact absurd rfl notSame
      · cases applied
        exact absurd rfl notSame
  | settleOperation target write =>
      cases applied
      exact absurd rfl notSame
  | persistPreparation lease =>
      obtain ⟨_, persisted, same⟩ := Except.map_eq_ok applied
      cases same
      obtain ⟨rewrite, sameKey, isMapped⟩ :=
        Database.approvals_of_persisted persisted
      exact absurd isMapped (notMapped rewrite sameKey)
  | updateLease target hash write =>
      obtain rfl := congrArg Prod.snd (Except.ok.inj applied)
      obtain ⟨rewrite, sameKey, isMapped⟩ :=
        database.approvals_of_updateLease target hash write
      exact absurd isMapped (notMapped rewrite sameKey)
  | claimApproval data =>
      simp only [Change.apply, Database.claimApproval] at applied
      split at applied
      · cases applied
        refine ⟨data, rfl, ?_⟩
        unfold Database.approval at missing found
        rw [List.find?_append, missing, Option.none_or] at found
        exact (List.mem_singleton.mp (List.mem_of_find?_eq_some found))
      split at applied
      · cases applied
      split at applied
      · cases applied
        exact absurd rfl (notWritten data.operationKey .reclaim)
      · cases applied
        exact absurd rfl notSame
  | updateApproval target write =>
      obtain rfl := congrArg Prod.snd (Except.ok.inj applied)
      exact absurd rfl (notUpdated target write)
  | claimFundingTopUp target fundingAttemptKey value =>
      simp only [Change.apply, Database.claimFundingTopUp] at applied
      split at applied
      · cases applied
      split at applied
      · split at applied
        · cases applied
          exact absurd rfl (notWritten target _)
        · cases applied
      · cases applied
        exact absurd rfl notSame
  | claimApprovalSubmission target =>
      simp only [Change.apply, Database.claimApprovalSubmission]
        at applied
      split at applied
      · cases applied
      split at applied
      · cases applied
        exact absurd rfl (notWritten target _)
      · cases applied
        exact absurd rfl notSame
  | markApprovalUnknown target error options =>
      simp only [Change.apply, Database.markApprovalUnknown] at applied
      split at applied
      · cases applied
        exact absurd rfl notSame
      split at applied
      · cases applied
        exact absurd rfl notSame
      split at applied
      · obtain rfl := congrArg Prod.snd (Except.ok.inj applied)
        exact absurd rfl (notUpdated target _)
      split at applied
      · cases applied
      split at applied
      · cases applied
        exact absurd rfl notSame
      · obtain rfl := congrArg Prod.snd (Except.ok.inj applied)
        exact absurd rfl (notUpdated target _)
  | recordAward user award balance =>
      obtain ⟨ledger, _, same⟩ := Except.map_eq_ok applied
      cases same
      exact absurd rfl notSame
  | recordSpend user spend balance =>
      obtain ⟨ledger, _, same⟩ := Except.map_eq_ok applied
      cases same
      exact absurd rfl notSame
  | insertReceipt receipt =>
      obtain ⟨_, inserted, same⟩ := Except.map_eq_ok applied
      cases same
      obtain ⟨rfl, _⟩ := Database.insertReceipt_eq_ok inserted
      exact absurd rfl notSame
  | _ =>
      exact absurd rfl isReservationChange

end Effects

end Sparkz
