import Sparkz.ApprovalEffects
import Sparkz.FundingCalls

namespace Sparkz

open Interleaving

/-!
# Callbacks of older funding attempts

A top-up replaces the funding attempt of a preparation, and callbacks of the
older attempt may still arrive.  `markUnknown` and the callbacks of a lease
compare their attempt with the one of the row.  `markFundingSubmitted` does not,
and the runs below are those in which it meets no other attempt.
-/

/-- A funding lease of the preparation with this hash is stored. -/
def Database.holdsFunding
    (database : Database)
    (operationKey : String)
    (hash : TransactionHash) :
    Bool :=
  (database.priorFundingLease operationKey hash).isSome

/-- A callback that carries another attempt than the row's current one. -/
inductive Change.IsStale
    (database : Database)
    (row : ApprovalPreparation) :
    Change → Prop where
  | submitted
      {hash : TransactionHash}
      {options : FundingSubmittedOptions}
      {attemptKey : String}
      (carries : options.attemptKey = some attemptKey)
      (stale : row.fundingAttemptKey ≠ some attemptKey) :
      IsStale database row
        (.updateApproval row.operationKey
          (.markFundingSubmitted hash options))
  | unknown
      {error : String}
      {options : FundingUnknownOptions}
      {attemptKey : String}
      (carries : options.fundingAttemptKey = some attemptKey)
      (stale : row.fundingAttemptKey ≠ some attemptKey) :
      IsStale database row
        (.markApprovalUnknown row.operationKey error options)
  | leased
      {leaseKey : String}
      {hash : Option TransactionHash}
      {write : LeaseWrite}
      {lease : TreasuryLease}
      (found : database.lease leaseKey = some lease)
      (isFunding : lease.targetType = .approvalFunding)
      (isTarget : lease.targetKey = row.operationKey)
      (stale : row.fundingAttemptKey ≠ some leaseKey) :
      IsStale database row (.updateLease leaseKey hash write)

/-- What one step of a run never does to a preparation. -/
structure ApprovalPreparation.KeepsAttempt
    (row later : ApprovalPreparation)
    (database : Database)
    (label : Option (Entry sparkz)) :
    Prop where
  /-- A callback of another attempt leaves the row unchanged. -/
  stale :
    ∀ thread change answer,
      label = some ⟨thread, .write change, answer⟩ →
      change.IsStale database row →
      later = row
  /-- One statement of one caller enters `approving`, from `funded`. -/
  approving :
    row.status ≠ .approving →
    later.status = .approving →
    row.status = .funded ∧
      ∃ thread answer,
        label =
            some
              ⟨thread,
                .write (.claimApprovalSubmission row.operationKey),
                answer⟩ ∧
          (answer = .ok (later, true) ∨
            ∃ error, answer = .error error)
  /-- A caller that is told so has entered it. -/
  acquired :
    ∀ thread record,
      label =
          some
            ⟨thread,
              .write (.claimApprovalSubmission row.operationKey),
              .ok (record, true)⟩ →
      row.status = .funded ∧ later.status = .approving
  approved : row.status = .approved → later.status = .approved
  /-- A hash is given up only when a stored lease holds it. -/
  replaced :
    ∀ hash,
      row.fundingTxHash = some hash →
      later.fundingTxHash ≠ some hash →
      database.holdsFunding row.operationKey hash = true

/-! ## Steps that keep the attempt -/

/-- `markFundingSubmitted` finds its own attempt, and hashes of leases. -/
def ApprovalPreparation.keepsSubmitted
    (row : ApprovalPreparation)
    (database : Database)
    (hash : TransactionHash)
    (options : FundingSubmittedOptions) :
    Bool :=
  row.status != .funding ||
    (options.attemptKey.isNone ||
        row.fundingAttemptKey == options.attemptKey) &&
      (row.fundingTxHash == some hash ||
        row.fundingTxHash.all
            (database.holdsFunding row.operationKey) &&
          (row.fundingAttemptKey.isNone ||
            database.holdsFunding row.operationKey hash))

/-- `markUnknown` gives an attempt no hash, and drops none, without a lease. -/
def ApprovalPreparation.keepsUnknown
    (row : ApprovalPreparation)
    (database : Database)
    (options : FundingUnknownOptions) :
    Bool :=
  match orNull options.fundingTxHash with
  | none =>
      !options.clearFundingHash ||
        row.fundingTxHash.all (database.holdsFunding row.operationKey)
  | some text =>
      (canonicalTransactionHash text).all fun hash =>
        row.fundingTxHash.isSome || row.fundingAttemptKey.isNone ||
          database.holdsFunding row.operationKey hash

/-- A change keeps the funding attempt of the row that it finds. -/
def Change.keepsFunding (database : Database) : Change → Bool
  | .updateApproval operationKey
      (.markFundingSubmitted hash options) =>
      (database.approval operationKey).all fun row =>
        row.keepsSubmitted database hash options
  | .markApprovalUnknown operationKey error options =>
      (database.approval operationKey).all fun row =>
        !row.admits
            (.markUnknown error none options.clearFundingHash
              options.diagnostic) ||
          options.fundingAttemptKey.isSome &&
            row.fundingAttemptKey != options.fundingAttemptKey ||
          row.keepsUnknown database options
  | _ => true

/-- A step keeps the funding attempt of the row that it finds. -/
def keepsFunding
    (before : Config sparkz Failure Database)
    (entry : Entry sparkz) :
    Bool :=
  match entry.op with
  | .write change => change.keepsFunding before.shared
  | _ => true

/-- The hash of an attempt in progress is the hash of a stored lease. -/
def ApprovalPreparation.Backed
    (row : ApprovalPreparation)
    (database : Database) :
    Prop :=
  row.fundingAttemptKey.isSome = true →
  ∀ hash,
    row.fundingTxHash = some hash →
    database.holdsFunding row.operationKey hash = true

/-! ## Stored leases -/

section Leases

variable {database next : Database}
  {operationKey : String} {hash : TransactionHash}

theorem Database.holdsFunding_iff :
    database.holdsFunding operationKey hash = true ↔
      ∃ lease ∈ database.leases,
        lease.targetOperationKey = some operationKey ∧
          lease.targetType = .approvalFunding ∧
          lease.txHash = hash := by
  simp [Database.holdsFunding, Database.priorFundingLease, and_assoc]

/-- A lease that is stored stays stored. -/
theorem holdsFunding_stays
    {change : Change}
    {result : change.Result}
    (applied : change.apply database = .ok (result, next))
    (held : database.holdsFunding operationKey hash = true) :
    next.holdsFunding operationKey hash = true := by
  obtain ⟨lease, member, isTarget, isFunding, isHash⟩ :=
    Database.holdsFunding_iff.mp held
  obtain ⟨later, laterMember, same⟩ :=
    (Change.leasesEffect applied).lease_stays member
  refine
    Database.holdsFunding_iff.mpr ⟨later, laterMember, ?_, ?_, ?_⟩
  · exact same.targetOperationKey.trans isTarget
  · exact same.targetType.trans isFunding
  · exact same.txHash.trans isHash

/-- A preparation that is saved stores its lease. -/
theorem holdsFunding_of_persisted
    {lease : TreasuryLease}
    (persisted : database.persistPreparation lease = .ok next)
    (isFunding : lease.targetType = .approvalFunding)
    (isTarget : lease.targetOperationKey = some operationKey) :
    next.holdsFunding operationKey lease.txHash = true := by
  refine
    Database.holdsFunding_iff.mpr
      ⟨lease, ?_, isTarget, isFunding, rfl⟩
  unfold Database.persistPreparation at persisted
  split at persisted
  · cases persisted
  split at persisted
  · cases persisted
  simp only [Database.prepareTarget, isFunding] at persisted
  split at persisted
  · cases persisted
  split at persisted
  · cases persisted
  · cases persisted
    exact List.mem_append_right _ (List.mem_singleton.mpr rfl)

end Leases

/-! ## What a statement does to an attempt -/

namespace ApprovalPreparation

variable {row : ApprovalPreparation} {write : ApprovalWrite}

/-- No statement finds an approved row and gives it another status. -/
theorem approved_set
    (admitted : row.admits write = true)
    (isApproved : row.status = .approved) :
    (row.set write).status = .approved := by
  cases write with
  | markApproved =>
      rfl
  | _ =>
      simp [admits, isApproved] at admitted

/-- One statement enters `approving`, and it finds `funded` rows only. -/
theorem approving_set
    (admitted : row.admits write = true)
    (notApproving : row.status ≠ .approving)
    (entered : (row.set write).status = .approving) :
    write = .claimApprovalSubmission ∧ row.status = .funded := by
  cases write with
  | claimApprovalSubmission =>
      exact ⟨rfl, by simpa [admits] using admitted⟩
  | markApprovalSubmitted hash =>
      exact absurd (by simpa [admits] using admitted) notApproving
  | _ =>
      cases entered

/-- Two statements change the hash of a row. -/
theorem set_fundingTxHash
    (changed : (row.set write).fundingTxHash ≠ row.fundingTxHash) :
    (∃ hash options, write = .markFundingSubmitted hash options) ∨
      ∃ error hash clearFundingHash diagnostic,
        write = .markUnknown error hash clearFundingHash diagnostic := by
  cases write with
  | markFundingSubmitted hash options =>
      exact Or.inl ⟨hash, options, rfl⟩
  | markUnknown error hash clearFundingHash diagnostic =>
      exact Or.inr ⟨error, hash, clearFundingHash, diagnostic, rfl⟩
  | _ =>
      exact absurd rfl changed

end ApprovalPreparation

/-! ## What a permitted change does to an attempt -/

section Written

variable {database : Database}
  {row : ApprovalPreparation}
  {change : Change}
  {write : ApprovalWrite}

/-- What the condition says of a submitted hash. -/
theorem keepsSubmitted_cases
    {hash : TransactionHash}
    {options : FundingSubmittedOptions}
    (found : database.approval row.operationKey = some row)
    (admitted :
      row.admits (.markFundingSubmitted hash options) = true)
    (kept :
      (Change.updateApproval row.operationKey
        (.markFundingSubmitted hash options)).keepsFunding database =
          true) :
    (options.attemptKey = none ∨
        row.fundingAttemptKey = options.attemptKey) ∧
      (row.fundingTxHash = some hash ∨
        (∀ saved,
            row.fundingTxHash = some saved →
            database.holdsFunding row.operationKey saved = true) ∧
          (row.fundingAttemptKey = none ∨
            database.holdsFunding row.operationKey hash = true)) := by
  have isFunding : row.status = .funding := by
    simpa [ApprovalPreparation.admits] using admitted
  simpa [Change.keepsFunding, found,
    ApprovalPreparation.keepsSubmitted, isFunding,
    Option.all_eq_true] using kept

/-- The attempt of a row after a submitted hash is its attempt before. -/
theorem attempt_of_submitted
    {options : FundingSubmittedOptions}
    (same :
      options.attemptKey = none ∨
        row.fundingAttemptKey = options.attemptKey) :
    options.attemptKey.or row.fundingAttemptKey =
      row.fundingAttemptKey := by
  rcases same with isNone | isSame
  · rw [isNone, Option.none_or]
  · rw [← isSame, Option.or_self]

/-- What the condition says of a failed funding. -/
theorem keepsUnknown_of_kept
    {error : String}
    {options : FundingUnknownOptions}
    {hash : Option TransactionHash}
    (found : database.approval row.operationKey = some row)
    (attempt :
      options.fundingAttemptKey = none ∨
        row.fundingAttemptKey = options.fundingAttemptKey)
    (admitted :
      row.admits
        (.markUnknown error hash options.clearFundingHash
          options.diagnostic) = true)
    (kept :
      (Change.markApprovalUnknown row.operationKey error
        options).keepsFunding database = true) :
    row.keepsUnknown database options = true := by
  have admittedAgain :
      row.admits
        (.markUnknown error none options.clearFundingHash
          options.diagnostic) = true :=
    admitted
  rcases attempt with isNone | isSame
  · simpa [Change.keepsFunding, found, admittedAgain, isNone]
      using kept
  · simpa [Change.keepsFunding, found, admittedAgain, isSame]
      using kept

/-- A hash that `markUnknown` gives to an attempt is held by a lease. -/
theorem holdsFunding_of_installed
    {options : FundingUnknownOptions}
    {hash : TransactionHash}
    (isHash :
      some hash =
        (orNull options.fundingTxHash).bind canonicalTransactionHash)
    (keeps : row.keepsUnknown database options = true)
    (noHash : row.fundingTxHash = none)
    (hasAttempt : row.fundingAttemptKey.isSome = true) :
    database.holdsFunding row.operationKey hash = true := by
  unfold ApprovalPreparation.keepsUnknown at keeps
  obtain ⟨attemptKey, isAttempt⟩ :=
    Option.isSome_iff_exists.mp hasAttempt
  cases isText : orNull options.fundingTxHash with
  | none =>
      rw [isText] at isHash
      cases isHash
  | some text =>
      rw [isText, Option.bind_some] at isHash
      simpa [isText, ← isHash, noHash, isAttempt] using keeps

/-- A hash that `markUnknown` drops is held by a lease. -/
theorem holdsFunding_of_dropped
    {options : FundingUnknownOptions}
    {hash : TransactionHash}
    (named : orNull options.fundingTxHash = none)
    (keeps : row.keepsUnknown database options = true)
    (clears : options.clearFundingHash = true)
    (saved : row.fundingTxHash = some hash) :
    database.holdsFunding row.operationKey hash = true := by
  simpa [ApprovalPreparation.keepsUnknown, named, clears, saved]
    using keeps

/-- The hash of the attempt is still the hash of a lease. -/
theorem backed_set
    (found : database.approval row.operationKey = some row)
    (writes : change.WritesApproval database row write)
    (admitted : row.admits write = true)
    (permitted : change.isFundingChange = true)
    (kept : change.keepsFunding database = true)
    (backed : row.Backed database) :
    (row.set write).Backed database := by
  cases writes with
  | reclaim isKey reclaimable =>
      intro impossible
      cases impossible
  | topUp evidence =>
      exact fun _ => evidence
  | submission =>
      exact backed
  | update =>
      cases write with
      | markFundingSubmitted hash options =>
          obtain ⟨sameAttempt, held⟩ :=
            keepsSubmitted_cases found admitted kept
          intro hasAttempt other isOther
          obtain rfl : hash = other := Option.some.inj isOther
          have hadAttempt : row.fundingAttemptKey.isSome = true := by
            have isAttempt := hasAttempt
            change
              (options.attemptKey.or row.fundingAttemptKey).isSome =
                true at isAttempt
            rwa [attempt_of_submitted sameAttempt] at isAttempt
          rcases held with isSaved | ⟨_, isNone | isHeld⟩
          · exact backed hadAttempt hash isSaved
          · rw [isNone] at hadAttempt
            cases hadAttempt
          · exact isHeld
      | markApprovalSubmitted hash =>
          exact backed
      | markApproved =>
          exact backed
      | markFundingPreflightFailed error diagnostic =>
          intro impossible
          cases impossible
      | markFunded =>
          intro impossible
          cases impossible
      | recoverFunded =>
          intro impossible
          cases impossible
      | _ =>
          cases permitted
  | @unknown error options hash attempt isHash named same =>
      have keeps := keepsUnknown_of_kept found attempt admitted kept
      intro hasAttempt other isOther
      cases hash with
      | none =>
          simp only [ApprovalPreparation.set] at isOther
          split at isOther
          · cases isOther
          · exact backed hasAttempt other isOther
      | some hash =>
          obtain rfl : hash = other := Option.some.inj isOther
          cases saved : row.fundingTxHash with
          | none =>
              have held :=
                holdsFunding_of_installed isHash keeps saved hasAttempt
              exact held
          | some current =>
              have isSame := same rfl (by rw [saved]; rfl)
              exact backed hasAttempt hash isSame

/-- The store functions issue no statement on a preparation alone. -/
theorem Change.WritesApproval.notStoreWrites
    {past : Past}
    (writes : change.WritesApproval database row write) :
    ¬ StoreWrites past change := by
  intro storeWrites
  have notApprovalChange := storeWrites.notApprovalChange
  cases writes <;> cases notApprovalChange

/-- A statement gives up a hash only when a lease holds it. -/
theorem replaced_set
    {hash : TransactionHash}
    (found : database.approval row.operationKey = some row)
    (writes : change.WritesApproval database row write)
    (admitted : row.admits write = true)
    (permitted : change.isFundingChange = true)
    (kept : change.keepsFunding database = true)
    (saved : row.fundingTxHash = some hash)
    (replaced : (row.set write).fundingTxHash ≠ some hash) :
    database.holdsFunding row.operationKey hash = true := by
  have changed :
      (row.set write).fundingTxHash ≠ row.fundingTxHash := by
    rw [saved]
    exact replaced
  rcases ApprovalPreparation.set_fundingTxHash changed with
    ⟨other, options, rfl⟩ | ⟨error, other, clears, diagnostic, rfl⟩
  · cases writes with
    | update =>
        obtain ⟨_, isSaved | ⟨allHeld, _⟩⟩ :=
          keepsSubmitted_cases found admitted kept
        · rw [saved] at isSaved
          exact absurd isSaved.symm replaced
        · exact allHeld hash saved
  · cases writes with
    | update =>
        cases permitted
    | unknown attempt isHash named same =>
        have keeps := keepsUnknown_of_kept found attempt admitted kept
        cases other with
        | some other =>
            have isSame := same rfl (by rw [saved]; rfl)
            rw [saved] at isSame
            exact absurd isSame.symm replaced
        | none =>
            simp only [ApprovalPreparation.set] at replaced
            split at replaced
            · rename_i isClear
              exact
                holdsFunding_of_dropped (named rfl) keeps isClear saved
            · exact absurd saved replaced

/-- A stale callback is not among the statements that are issued. -/
theorem notStale_of_writes
    (found : database.approval row.operationKey = some row)
    (writes : change.WritesApproval database row write)
    (admitted : row.admits write = true)
    (kept : change.keepsFunding database = true) :
    ¬ change.IsStale database row := by
  intro isStale
  cases isStale with
  | submitted carries stale =>
      cases writes with
      | update =>
          obtain ⟨isNone | isSame, _⟩ :=
            keepsSubmitted_cases found admitted kept
          · rw [carries] at isNone
            cases isNone
          · exact stale (isSame.trans carries)
  | unknown carries stale =>
      cases writes with
      | unknown attempt _ _ _ =>
          rcases attempt with isNone | isSame
          · rw [carries] at isNone
            cases isNone
          · exact stale (isSame.trans carries)
  | leased found isFunding isTarget stale =>
      cases writes

end Written

section Applied

variable {database next : Database}
  {row later : ApprovalPreparation}
  {change : Change}

/-- A preparation replaces the hash of its own attempt only. -/
theorem replaced_funded
    {lease : TreasuryLease}
    {hash : TransactionHash}
    (accepted : row.refusal lease = none)
    (backed : row.Backed database)
    (saved : row.fundingTxHash = some hash)
    (replaced : (row.funded lease).fundingTxHash ≠ some hash) :
    database.holdsFunding row.operationKey hash = true := by
  unfold ApprovalPreparation.refusal at accepted
  split at accepted
  · cases accepted
  split at accepted
  · cases accepted
  split at accepted
  · cases accepted
  rename_i notOther
  have isAttempt : row.fundingAttemptKey = some lease.operationKey := by
    by_contra different
    refine notOther ⟨by rw [saved]; rfl, ?_, different⟩
    rw [saved]
    exact fun same => replaced same.symm
  exact backed (by rw [isAttempt]; rfl) hash saved

/-- No preparation is recorded on an approved row. -/
theorem not_approved_of_accepted
    {lease : TreasuryLease}
    (accepted : row.refusal lease = none) :
    row.status ≠ .approved := by
  intro isApproved
  simp [ApprovalPreparation.refusal, isApproved] at accepted

/-- A callback of a lease keeps what is not about its own attempt. -/
theorem afterLease_cases
    (row : ApprovalPreparation)
    (lease : TreasuryLease)
    (write : LeaseWrite) :
    row.afterLease lease write = row ∨
      row.fundingAttemptKey = some lease.operationKey ∧
        (row.status = .funding ∨ row.status = .unknown) ∧
        (row.afterLease lease write).fundingAttemptKey =
          row.fundingAttemptKey ∧
        (row.afterLease lease write).fundingTxHash =
          row.fundingTxHash ∧
        ((row.afterLease lease write).status = row.status ∨
          (row.afterLease lease write).status = .unknown ∨
          (row.afterLease lease write).status = .failed) := by
  unfold ApprovalPreparation.afterLease
  split
  · rename_i current
    have isAttempt := (orNull_eq_some.mp current.2.1).1
    cases write with
    | markSubmitted =>
        exact Or.inl rfl
    | markUnknown diagnostic errorMessage =>
        exact
          Or.inr
            ⟨isAttempt, current.1, rfl, rfl, Or.inr (Or.inl rfl)⟩
    | markFailed diagnostic errorMessage =>
        exact
          Or.inr
            ⟨isAttempt, current.1, rfl, rfl, Or.inr (Or.inr rfl)⟩
  · exact Or.inl rfl

/-- What a claim of the submission answers, and what it leaves. -/
theorem claimApprovalSubmission_cases
    {operationKey : String}
    {result : ApprovalPreparation × Bool}
    (found : database.approval operationKey = some row)
    (applied :
      database.claimApprovalSubmission operationKey =
        .ok (result, next)) :
    row.status = .funded ∧
        result = (row.set .claimApprovalSubmission, true) ∧
        next.approval operationKey =
          some (row.set .claimApprovalSubmission) ∨
      result = (row, false) ∧ next = database := by
  unfold Database.claimApprovalSubmission at applied
  rw [found] at applied
  dsimp only at applied
  split at applied
  · rename_i admitted
    cases applied
    refine Or.inl ⟨?_, rfl, ?_⟩
    · simpa [ApprovalPreparation.admits] using admitted
    · rw [Database.approval_mapApproval, found, Option.map_some,
        if_pos (Database.approval_eq_some found).2,
        ApprovalPreparation.after, if_pos admitted]
  · cases applied
    exact Or.inr ⟨rfl, rfl⟩

/-- The hash of an attempt stays backed by the leases that are stored. -/
theorem ApprovalPreparation.Backed.stays
    {result : change.Result}
    (backed : row.Backed database)
    (applied : change.apply database = .ok (result, next)) :
    row.Backed next :=
  fun hasAttempt hash saved =>
    holdsFunding_stays applied (backed hasAttempt hash saved)

/-- What a change leaves of a backed row is backed. -/
theorem backed_of_leaves
    {past : Past}
    {result : change.Result}
    (found : database.approval row.operationKey = some row)
    (permitted :
      StoreWrites past change ∨ change.isFundingChange = true)
    (kept : change.keepsFunding database = true)
    (backed : row.Backed database)
    (applied : change.apply database = .ok (result, next))
    (leaves : change.LeavesApproval database row later) :
    later.Backed next := by
  cases leaves with
  | same =>
      exact backed.stays applied
  | written writes admitted =>
      have isFundingChange :=
        permitted.resolve_left writes.notStoreWrites
      have stillBacked :=
        backed_set found writes admitted isFundingChange kept backed
      exact stillBacked.stays applied
  | @prepared lease isFunding isTarget accepted =>
      intro _ hash isHash
      obtain rfl : lease.txHash = hash := Option.some.inj isHash
      obtain ⟨_, persisted, same⟩ := Except.map_eq_ok applied
      cases same
      refine holdsFunding_of_persisted persisted isFunding ?_
      rcases permitted with writes | impossible
      · exact writes.lease_target.trans (congrArg some isTarget)
      · cases impossible
  | @leased _ _ write lease isLease isFunding isTarget =>
      have stillBacked := backed.stays applied
      rcases afterLease_cases row lease write with
        same | ⟨_, _, sameAttempt, sameHash, _⟩
      · rw [same]
        exact stillBacked
      · intro hasAttempt hash saved
        rw [sameAttempt] at hasAttempt
        rw [sameHash] at saved
        rw [ApprovalPreparation.afterLease_operationKey]
        exact stillBacked hasAttempt hash saved

/-- A stale callback leaves the row that it finds as it is. -/
theorem same_of_stale
    (found : database.approval row.operationKey = some row)
    (kept : change.keepsFunding database = true)
    (leaves : change.LeavesApproval database row later)
    (isStale : change.IsStale database row) :
    later = row := by
  cases leaves with
  | same =>
      rfl
  | written writes admitted =>
      exact
        absurd isStale (notStale_of_writes found writes admitted kept)
  | prepared isFunding isTarget accepted =>
      cases isStale
  | @leased leaseKey _ write lease isLease isFunding isTarget =>
      rcases afterLease_cases row lease write with
        same | ⟨isAttempt, _⟩
      · exact same
      cases isStale with
      | leased isOther _ _ stale =>
          have isKey : lease.operationKey = leaseKey := by
            simpa using List.find?_some isLease
          exact absurd (isKey ▸ isAttempt) stale

/-- A change that enters `approving` claims the submission. -/
theorem entered_of_leaves
    {past : Past}
    (permitted :
      StoreWrites past change ∨ change.isFundingChange = true)
    (leaves : change.LeavesApproval database row later)
    (notApproving : row.status ≠ .approving)
    (entered : later.status = .approving) :
    row.status = .funded ∧
      change = .claimApprovalSubmission row.operationKey ∧
      later = row.set .claimApprovalSubmission := by
  cases leaves with
  | same =>
      exact absurd entered notApproving
  | @written _ write writes admitted =>
      have isFundingChange :=
        permitted.resolve_left writes.notStoreWrites
      obtain ⟨rfl, isFunded⟩ :=
        ApprovalPreparation.approving_set admitted notApproving entered
      cases writes with
      | update =>
          cases isFundingChange
      | submission =>
          exact ⟨isFunded, rfl, rfl⟩
  | prepared isFunding isTarget accepted =>
      cases entered
  | @leased _ _ write lease isLease isFunding isTarget =>
      rcases afterLease_cases row lease write with
        same | ⟨_, _, _, _, same | isUnknown | isFailed⟩
      · rw [same] at entered
        exact absurd entered notApproving
      · rw [same] at entered
        exact absurd entered notApproving
      · rw [isUnknown] at entered
        cases entered
      · rw [isFailed] at entered
        cases entered

/-- An approved row stays approved. -/
theorem approved_of_leaves
    (leaves : change.LeavesApproval database row later)
    (isApproved : row.status = .approved) :
    later.status = .approved := by
  cases leaves with
  | same =>
      exact isApproved
  | written writes admitted =>
      exact ApprovalPreparation.approved_set admitted isApproved
  | prepared isFunding isTarget accepted =>
      exact absurd isApproved (not_approved_of_accepted accepted)
  | @leased _ _ write lease isLease isFunding isTarget =>
      rcases afterLease_cases row lease write with
        same | ⟨_, isFunding | isUnknown, _⟩
      · rw [same]
        exact isApproved
      · rw [isApproved] at isFunding
        cases isFunding
      · rw [isApproved] at isUnknown
        cases isUnknown

/-- A hash is given up only when a stored lease holds it. -/
theorem replaced_of_leaves
    {past : Past}
    {hash : TransactionHash}
    (found : database.approval row.operationKey = some row)
    (permitted :
      StoreWrites past change ∨ change.isFundingChange = true)
    (kept : change.keepsFunding database = true)
    (backed : row.Backed database)
    (leaves : change.LeavesApproval database row later)
    (saved : row.fundingTxHash = some hash)
    (replaced : later.fundingTxHash ≠ some hash) :
    database.holdsFunding row.operationKey hash = true := by
  cases leaves with
  | same =>
      exact absurd saved replaced
  | written writes admitted =>
      have isFundingChange :=
        permitted.resolve_left writes.notStoreWrites
      exact
        replaced_set found writes admitted isFundingChange kept saved
          replaced
  | prepared isFunding isTarget accepted =>
      exact replaced_funded accepted backed saved replaced
  | @leased _ _ write lease isLease isFunding isTarget =>
      rcases afterLease_cases row lease write with
        same | ⟨_, _, _, sameHash, _⟩
      · rw [same] at replaced
        exact absurd saved replaced
      · rw [sameHash] at replaced
        exact absurd saved replaced

/-- A committed change keeps the attempt of every row. -/
theorem keepsAttempt_of_applied
    {past : Past}
    {thread : Nat}
    {answer : Op.Answer (.write change)}
    {result : change.Result}
    (found : database.approval row.operationKey = some row)
    (permitted :
      StoreWrites past change ∨ change.isFundingChange = true)
    (kept : change.keepsFunding database = true)
    (backed : row.Backed database)
    (applied : change.apply database = .ok (result, next))
    (answered :
      answer = .ok result ∨ ∃ error, answer = .error error) :
    ∃ later,
      next.approval row.operationKey = some later ∧
        row.KeepsAttempt later database
          (some ⟨thread, .write change, answer⟩) := by
  obtain ⟨later, isLater, leaves⟩ :=
    Change.leavesApproval found applied
  refine ⟨later, isLater, ?_, ?_, ?_, ?_, ?_⟩
  · rintro owner other otherAnswer isLabel isStale
    cases isLabel
    exact same_of_stale found kept leaves isStale
  · intro notApproving entered
    obtain ⟨isFunded, rfl, rfl⟩ :=
      entered_of_leaves permitted leaves notApproving entered
    refine ⟨isFunded, thread, answer, rfl, ?_⟩
    rcases answered with rfl | refused
    · rcases claimApprovalSubmission_cases found applied with
        ⟨_, rfl, _⟩ | ⟨_, rfl⟩
      · exact Or.inl rfl
      · rw [found] at isLater
        have same := Option.some.inj isLater
        exact absurd (same ▸ entered) notApproving
    · exact Or.inr refused
  · intro owner record isLabel
    cases isLabel
    rcases answered with isAnswer | ⟨error, impossible⟩
    · obtain rfl := Except.ok.inj isAnswer
      rcases claimApprovalSubmission_cases found applied with
        ⟨isFunded, _, isNext⟩ | ⟨impossible, _⟩
      · rw [isLater] at isNext
        have isSet := Option.some.inj isNext
        exact ⟨isFunded, isSet ▸ rfl⟩
      · cases impossible
    · cases impossible
  · exact approved_of_leaves leaves
  · intro hash saved replaced
    exact
      replaced_of_leaves found permitted kept backed leaves saved
        replaced

end Applied

/-! ## Runs -/

section Run

variable {lost : Bool}
  {platform : Platform}
  {calls : Nat → FundingCall}
  {config before after : Config sparkz Failure Database}

/-- What a call may write, a store function or a preparation writes. -/
theorem FundingCall.protocol_writes
    {call : FundingCall}
    {past : Past}
    {change : Change}
    (permitted : call.protocol past (.write change)) :
    StoreWrites past change ∨ change.isFundingChange = true := by
  cases call with
  | store call =>
      exact Or.inl (StoreCall.protocol_write.mp permitted).storeWrites
  | _ =>
      exact Or.inr permitted

/-- A change that a call of a run is about to make. -/
theorem permitted_of_running
    (reached :
      ReachableWhen (semantics lost)
        (fun before entry => keepsFunding before entry = true)
        (FundingCall.start platform .empty calls) before)
    {thread : Nat} {change : Change}
    {rest : Op.Answer (.write change) → Call Unit}
    (running :
      before.threads thread = some (.perform (.write change) rest)) :
    StoreWrites (ownPast thread before.history) change ∨
      change.isFundingChange = true :=
  FundingCall.protocol_writes
    (reached.permitted
      (fun thread => (calls thread).run_obeys platform) running)

/-- Throughout a run, the hash of an attempt is the hash of a lease. -/
theorem backed_of_reachable
    (reached :
      ReachableWhen (semantics lost)
        (fun before entry => keepsFunding before entry = true)
        (FundingCall.start platform .empty calls) config)
    {operationKey : String}
    {row : ApprovalPreparation}
    (found : config.shared.approval operationKey = some row) :
    row.Backed config.shared := by
  refine
    reached.invariant
      (fun database _ =>
        ∀ operationKey row,
          database.approval operationKey = some row →
          row.Backed database)
      ?_ ?_ ?_ operationKey row found
  · intro operationKey row impossible
    cases impossible
  · intro database history thread allBacked
    exact allBacked
  · intro before thread op rest choice answer next reached running
      answered kept allBacked
    refine
      (respond_effect answered).preserves
        (fun database =>
          ∀ operationKey row,
            database.approval operationKey = some row →
            row.Backed database)
        (fun _ _ => id) ?_ allBacked
    rintro change result after rfl applied _ operationKey later isLater
    cases found : before.shared.approval operationKey with
    | none =>
        obtain ⟨data, _, rfl⟩ :=
          Change.approval_inserted applied found isLater
        intro impossible
        cases impossible
    | some row =>
        obtain ⟨other, isOther, leaves⟩ :=
          Change.leavesApproval found applied
        rw [isLater] at isOther
        cases isOther
        have isKey := (Database.approval_eq_some found).2
        subst isKey
        exact
          backed_of_leaves found (permitted_of_running reached running)
            kept (allBacked _ row found) applied leaves

/-- A row that a step leaves as it is keeps its attempt. -/
theorem keepsAttempt_refl
    {row : ApprovalPreparation}
    {database : Database}
    {label : Option (Entry sparkz)}
    (notAcquired :
      ∀ thread record,
        label ≠
          some
            ⟨thread,
              .write (.claimApprovalSubmission row.operationKey),
              .ok (record, true)⟩) :
    row.KeepsAttempt row database label where
  stale := fun _ _ _ _ _ => rfl
  approving := fun notApproving entered => absurd entered notApproving
  acquired := fun thread record isLabel =>
    absurd isLabel (notAcquired thread record)
  approved := id
  replaced := fun _ saved replaced => absurd saved replaced

end Run

/--
In a run of calls on preparations and leases in which every statement keeps the
funding attempt of the row that it finds, no step damages a newer attempt.
-/
theorem fundingAttempt_isKept
    {lost : Bool}
    {platform : Platform}
    {calls : Nat → FundingCall}
    {before after : Config sparkz Failure Database}
    {label : Option (Entry sparkz)}
    (reached :
      ReachableWhen (semantics lost)
        (fun before entry => keepsFunding before entry = true)
        (FundingCall.start platform .empty calls) before)
    (step : Step (semantics lost) before label after)
    (kept :
      ∀ entry, label = some entry → keepsFunding before entry = true)
    {operationKey : String}
    {row : ApprovalPreparation}
    (found : before.shared.approval operationKey = some row) :
    ∃ later,
      after.shared.approval operationKey = some later ∧
        row.KeepsAttempt later before.shared label := by
  have isKey := (Database.approval_eq_some found).2
  subst isKey
  cases step with
  | stop thread =>
      refine ⟨row, found, keepsAttempt_refl ?_⟩
      intro owner record impossible
      cases impossible
  | @perform thread op rest choice answer shared running answered =>
      have effect := respond_effect answered
      cases effect with
      | quiet locks notTables =>
          refine ⟨row, found, keepsAttempt_refl ?_⟩
          rintro owner record isLabel
          cases isLabel
          cases notTables
      | read query =>
          refine ⟨row, found, keepsAttempt_refl ?_⟩
          intro owner record impossible
          cases impossible
      | readRefused error =>
          refine ⟨row, found, keepsAttempt_refl ?_⟩
          intro owner record impossible
          cases impossible
      | refused error locks =>
          refine ⟨row, found, keepsAttempt_refl ?_⟩
          intro owner record impossible
          cases impossible
      | committed locks applied =>
          obtain ⟨later, isLater, keeps⟩ :=
            keepsAttempt_of_applied found
              (permitted_of_running reached running) (kept _ rfl)
              (backed_of_reachable reached found) applied
              (Or.inl rfl)
          exact ⟨later, isLater, keeps⟩
      | replyLost error locks applied mayBeLost =>
          obtain ⟨later, isLater, keeps⟩ :=
            keepsAttempt_of_applied found
              (permitted_of_running reached running) (kept _ rfl)
              (backed_of_reachable reached found) applied
              (Or.inr ⟨error, rfl⟩)
          exact ⟨later, isLater, keeps⟩

/-! ## A stale submission -/

/-- The claim of an approval preparation. -/
def walletApproval : ApprovalClaimRequest where
  operationKey := "approval"
  walletAddress := "0xB1"
  tokenContractAddress := "0xC1"
  chainId := "1"
  treasuryAddress := "0xA1"

/-- The hash of its first funding. -/
def firstFundingHash : String :=
  "0x" ++ String.ofList (List.replicate 64 'a')

/-- The preparation of its first funding. -/
def firstFunding : PreparationCall where
  data := {
    operationKey := "first"
    targetOperationKey := some "approval"
    targetType := .approvalFunding
    chainId := "1"
    signerAddress := "0xA1"
    toAddress := "0xB1"
    data := none
    value := some 5
    accessList := none
    getPendingNonce := pure (.ofNat 0)
    prepare := fun nonce => pure {
      txHash := firstFundingHash
      rawTransaction := "0x"
      context := {
        chainId := "1"
        signerAddress := "0xA1"
        nonce := nonce
        toAddress := "0xB1"
        data := none
        value := 5
        gasLimit := none
        gasPrice := none
        maxFeePerGas := none
        maxPriorityFeePerGas := none
        type := none
        accessList := none } } }
  readsNonce := fun _ => trivial
  signs := fun _ _ => trivial

/-- A funding and a top-up, and two callbacks of the first attempt. -/
def topUpCalls : Nat → FundingCall
  | 0 => .claim walletApproval
  | 1 => .store (.prepare firstFunding)
  | 2 => .markFunded "approval"
  | 3 => .claimFundingTopUp "approval" "second" 7
  | 4 => .markUnknown "approval" "late" ⟨none, some "first", false, none⟩
  | _ =>
      .markFundingSubmitted "approval" firstFundingHash
        ⟨none, none, none, some "first"⟩

/-- The run up to the second attempt, which the submission has read. -/
def toppedUp : Option (Config sparkz Failure Database) :=
  (FundingCall.start .sample .empty topUpCalls).run? (semantics false)
    keepsFunding
    (StoreCall.inOrder [0, 0, 1, 1, 1, 1, 1, 1, 2, 3, 3, 5])

/-- The failure of the first attempt arrives. -/
def failedLate : Option (Config sparkz Failure Database) :=
  toppedUp.bind (·.advance? (semantics false) 4 .databaseOnly)

/-- The submission of the first attempt arrives. -/
def submittedLate : Option (Config sparkz Failure Database) :=
  toppedUp.bind (·.advance? (semantics false) 5 .databaseOnly)

/-- A failure of the first attempt leaves the second as it is. -/
theorem lateFailure_isHarmless :
    ∃ (before after : Config sparkz Failure Database)
      (row later : ApprovalPreparation),
      toppedUp = some before ∧
        failedLate = some after ∧
        row.fundingAttemptKey = some "second" ∧
        after.shared.approval "approval" = some later ∧
        row.KeepsAttempt later before.shared after.history.head? := by
  have isSecond :
      (toppedUp.bind (·.shared.approval "approval")).map
        (·.fundingAttemptKey) = some (some "second") := by
    decide +kernel
  have isLate : failedLate.isSome = true := by
    decide +kernel
  have isKept :
      toppedUp.all (fun before =>
        failedLate.all fun after =>
          after.history.head?.all (keepsFunding before)) = true := by
    decide +kernel
  obtain ⟨row, isRow, isAttempt⟩ := Option.map_eq_some_iff.mp isSecond
  obtain ⟨before, isBefore, found⟩ := Option.bind_eq_some_iff.mp isRow
  obtain ⟨after, isAfter⟩ := Option.isSome_iff_exists.mp isLate
  have step := isAfter
  rw [failedLate, isBefore, Option.bind_some] at step
  rw [isBefore, isAfter] at isKept
  obtain ⟨later, isLater, keeps⟩ :=
    fundingAttempt_isKept
      (Config.run?_sound (fun _ _ => id) .start isBefore)
      (Config.advance?_sound step)
      (fun entry isLabel => by simpa [isLabel] using isKept) found
  exact
    ⟨before, after, row, later, isBefore, isAfter, isAttempt, isLater,
      keeps⟩

/-- An entry in which the first attempt is submitted. -/
def submitsFirst (entry : Entry sparkz) : Bool :=
  match entry.op with
  | .write
      (.updateApproval operationKey
        (.markFundingSubmitted _ options)) =>
      operationKey == "approval" && options.attemptKey == some "first"
  | _ => false

/-- Such an entry carries the first attempt, whatever the row's is. -/
theorem stale_of_submitsFirst
    {entry : Entry sparkz}
    {database : Database}
    {row : ApprovalPreparation}
    (submits : submitsFirst entry = true)
    (isKey : row.operationKey = "approval")
    (isSecond : row.fundingAttemptKey = some "second") :
    ∃ thread change answer,
      entry = ⟨thread, .write change, answer⟩ ∧
        change.IsStale database row := by
  rcases entry with ⟨thread, op, answer⟩
  cases op with
  | write change =>
      cases change with
      | updateApproval operationKey write =>
          cases write with
          | markFundingSubmitted hash options =>
              simp only [submitsFirst, Bool.and_eq_true, beq_iff_eq]
                at submits
              obtain ⟨rfl, carries⟩ := submits
              refine ⟨thread, _, answer, rfl, ?_⟩
              rw [← isKey]
              refine .submitted carries ?_
              rw [isSecond]
              decide
          | _ =>
              cases submits
      | _ =>
          cases submits
  | _ =>
      cases submits

/-- Without the condition, a late submission takes over the second attempt. -/
theorem lateSubmission_damages :
    ¬ ∀ (platform : Platform) (calls : Nat → FundingCall)
        (before after : Config sparkz Failure Database)
        (label : Option (Entry sparkz))
        (operationKey : String) (row : ApprovalPreparation),
        Reachable (semantics false)
          (FundingCall.start platform .empty calls) before →
        Step (semantics false) before label after →
        before.shared.approval operationKey = some row →
        ∃ later,
          after.shared.approval operationKey = some later ∧
            row.KeepsAttempt later before.shared label := by
  intro isKept
  have isSecond :
      (toppedUp.bind (·.shared.approval "approval")).map
        (·.fundingAttemptKey) = some (some "second") := by
    decide +kernel
  have isFirst :
      (submittedLate.bind (·.shared.approval "approval")).map
        (·.fundingAttemptKey) = some (some "first") := by
    decide +kernel
  have isSubmission :
      submittedLate.all (fun after =>
        after.history.head?.any submitsFirst) = true := by
    decide +kernel
  obtain ⟨row, isRow, isAttempt⟩ := Option.map_eq_some_iff.mp isSecond
  obtain ⟨before, isBefore, found⟩ := Option.bind_eq_some_iff.mp isRow
  obtain ⟨last, isLast, damaged⟩ := Option.map_eq_some_iff.mp isFirst
  obtain ⟨after, isAfter, laterFound⟩ :=
    Option.bind_eq_some_iff.mp isLast
  have step := isAfter
  rw [submittedLate, isBefore, Option.bind_some] at step
  obtain ⟨later, isLater, keeps⟩ :=
    isKept .sample topUpCalls before after _ "approval" row
      (Config.run?_sound (fun _ _ => id) .start isBefore).reachable
      (Config.advance?_sound step) found
  rw [isAfter, Option.all_some, Option.any_eq_true] at isSubmission
  obtain ⟨entry, isLabel, submits⟩ := isSubmission
  obtain ⟨thread, change, answer, rfl, isStale⟩ :=
    stale_of_submitsFirst submits (Database.approval_eq_some found).2
      isAttempt
  have same : later = row :=
    keeps.stale thread change answer isLabel isStale
  rw [laterFound, same] at isLater
  cases isLater
  rw [isAttempt] at damaged
  exact absurd damaged (by decide)

end Sparkz
