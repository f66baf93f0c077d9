import Sparkz.RewardPolicyRepository

namespace Sparkz

open Interleaving JsonText

/-!
# The stored policy row

One row, locked by at most one transaction, with what that transaction has
written and not yet committed.  The driver may give a column in any form that
shows its document, and the policy read from the row is the same in all of
them.
-/

/-- A row of the table; both document columns hold objects. -/
structure StoredPolicy where
  revision : Int
  rules : List (String × Value)
  offPeakWindows : List (String × Value)
  updatedAt : Int

/-- A form in which the driver gives the columns of a row. -/
structure Presentation (runtime : PolicyRuntime) where
  revision : Int → RevisionColumn
  document : List (String × Value) → Value
  revisionShown :
    ∀ number, revisionNumber runtime (revision number) = some number
  documentShown :
    ∀ fields name,
      ∃ parsed,
        parseJson runtime (document fields) name = .ok parsed ∧
          canonical parsed = canonical (.object fields)

variable {runtime : PolicyRuntime}

/-- The columns as they are stored. -/
def Presentation.plain (runtime : PolicyRuntime) : Presentation runtime where
  revision := .number
  document := .object
  revisionShown := fun _ => rfl
  documentShown := fun _ _ => ⟨_, rfl, rfl⟩

/-- The row that the driver gives. -/
def StoredPolicy.present
    (stored : StoredPolicy)
    (form : Presentation runtime) :
    RewardPolicyRow where
  revision := form.revision stored.revision
  rules := form.document stored.rules
  off_peak_windows := form.document stored.offPeakWindows
  updated_at := some stored.updatedAt

/-- The row that a write leaves at an instant. -/
def PolicyWrite.stored (write : PolicyWrite) (now : Int) : StoredPolicy where
  revision := write.revision
  rules := write.rules.fields
  offPeakWindows := OffPeakConfig.fields write.offPeakWindows
  updatedAt := now

/-- The same policy, with its countries in any order. -/
structure PolicySnapshot.Same (first second : PolicySnapshot) : Prop where
  revision : first.revision = second.revision
  updatedAt : first.updatedAt = second.updatedAt
  rules : first.rules = second.rules
  offPeakWindows : first.offPeakWindows.Perm second.offPeakWindows

namespace PolicySnapshot.Same

variable {first second third : PolicySnapshot}

end PolicySnapshot.Same

/-- Every form of the row is read as one policy. -/
def StoredPolicy.ReadsAs
    (runtime : PolicyRuntime)
    (stored : StoredPolicy)
    (policy : PolicySnapshot) :
    Prop :=
  ∀ form : Presentation runtime,
    ∃ read,
      policyFromRow runtime (stored.present form) = .ok read ∧
        read.Same policy

/-- Forms of the same columns show the same revision. -/
theorem requireRevision_present
    (stored : StoredPolicy)
    (form other : Presentation runtime) :
    requireRevision runtime (form.revision stored.revision) =
      requireRevision runtime (other.revision stored.revision) := by
  simp only [requireRevision, form.revisionShown, other.revisionShown]

/-- An accepted revision is the number in the column. -/
theorem requireRevision_number
    {number revision : Nat}
    (accepted :
      requireRevision runtime (.number number) = .ok revision) :
    revision = number := by
  simp only [requireRevision, revisionNumber] at accepted
  split at accepted
  · rw [← Except.ok.inj accepted, Int.toNat_natCast]
  · cases accepted

/-- Forms of the same document are parsed into the same fields. -/
theorem parseJson_present
    (fields : List (String × Value))
    (name : String)
    (form other : Presentation runtime)
    {parsed : Value}
    (isParsed :
      parseJson runtime (form.document fields) name = .ok parsed) :
    ∃ otherParsed,
      parseJson runtime (other.document fields) name = .ok otherParsed ∧
        canonical parsed = canonical otherParsed := by
  obtain ⟨shown, isShown, sameShown⟩ := form.documentShown fields name
  obtain ⟨otherShown, isOtherShown, sameOther⟩ :=
    other.documentShown fields name
  rw [isShown] at isParsed
  cases isParsed
  exact ⟨otherShown, isOtherShown, sameShown.trans sameOther.symm⟩

/-- A row that is read in one form is read as the same policy in all. -/
theorem StoredPolicy.readsAs_of_read
    {stored : StoredPolicy}
    {form : Presentation runtime}
    {policy : PolicySnapshot}
    (isRead : policyFromRow runtime (stored.present form) = .ok policy) :
    stored.ReadsAs runtime policy := by
  intro other
  obtain ⟨revision, isRevision, isRead⟩ := Except.bind_eq_ok isRead
  obtain ⟨rulesValue, isRulesValue, isRead⟩ := Except.bind_eq_ok isRead
  obtain ⟨rules, isRules, isRead⟩ := Except.bind_eq_ok isRead
  obtain ⟨updatedAt, isUpdatedAt, isRead⟩ := Except.bind_eq_ok isRead
  obtain ⟨windowsValue, isWindowsValue, isRead⟩ :=
    Except.bind_eq_ok isRead
  obtain ⟨windows, isWindows, isRead⟩ := Except.bind_eq_ok isRead
  have isOtherRevision :
      requireRevision runtime (other.revision stored.revision) =
        .ok revision :=
    (requireRevision_present stored other form).trans isRevision
  obtain ⟨otherRules, isOtherRules, sameRules⟩ :=
    parseJson_present stored.rules "rules" form other isRulesValue
  obtain ⟨otherWindows, isOtherWindows, sameWindows⟩ :=
    parseJson_present stored.offPeakWindows "off_peak_windows" form other
      isWindowsValue
  have acceptedRules : validateAwardRules otherRules = .ok rules := by
    rw [← validateAwardRules_canonical, ← sameRules,
      validateAwardRules_canonical]
    exact isRules
  obtain ⟨otherConfig, acceptedWindows, isPerm⟩ :=
    validateOffPeakWindows_perm sameWindows isWindows
  cases isRead
  refine
    ⟨{ revision := revision
       updatedAt := updatedAt
       rules := rules.withRevision revision
       offPeakWindows := otherConfig }, ?_, ⟨rfl, rfl, rfl, isPerm⟩⟩
  have isTime :
      isoUpdatedAt runtime (stored.present other).updated_at =
        .ok updatedAt :=
    isUpdatedAt
  simp only [policyFromRow]
  simp only [StoredPolicy.present] at isTime ⊢
  rw [isOtherRevision, isOtherRules, isTime, isOtherWindows]
  show (validateAwardRules otherRules >>= _) = _
  rw [acceptedRules]
  show (validateOffPeakWindows otherWindows >>= _) = _
  rw [acceptedWindows]
  rfl

/-- What a row that was written is read as. -/
theorem PolicyWrite.stored_read
    {write : PolicyWrite}
    {now : Int}
    {form : Presentation runtime}
    {policy : PolicySnapshot}
    (isRead :
      policyFromRow runtime ((write.stored now).present form) =
        .ok policy) :
    policy.revision = write.revision ∧
      policy.rules = write.rules.withRevision write.revision ∧
      policy.offPeakWindows.Perm write.offPeakWindows := by
  obtain ⟨plain, isPlain, same⟩ :=
    StoredPolicy.readsAs_of_read isRead (Presentation.plain runtime)
  obtain ⟨revision, isRevision, isPlain⟩ := Except.bind_eq_ok isPlain
  obtain ⟨rulesValue, isRulesValue, isPlain⟩ := Except.bind_eq_ok isPlain
  cases isRulesValue
  obtain ⟨rules, isRules, isPlain⟩ := Except.bind_eq_ok isPlain
  obtain ⟨updatedAt, _, isPlain⟩ := Except.bind_eq_ok isPlain
  obtain ⟨windowsValue, isWindowsValue, isPlain⟩ :=
    Except.bind_eq_ok isPlain
  cases isWindowsValue
  obtain ⟨windows, isWindows, isPlain⟩ := Except.bind_eq_ok isPlain
  have sameRules := AwardRuleConfig.fields_copied isRules
  have sameWindows := OffPeakConfig.fields_copied isWindows
  have sameRevision : revision = write.revision :=
    requireRevision_number isRevision
  cases isPlain
  subst sameRules
  subst sameWindows
  subst sameRevision
  exact ⟨same.revision.symm, same.rules.symm, same.offPeakWindows.symm⟩

/-! ## The table under concurrent calls -/

/-- The row, and the transaction that holds its lock with what it wrote. -/
structure PolicyTable where
  committed : Option StoredPolicy
  writer : Option (Nat × Option StoredPolicy)

/-- What the database makes of an operation. -/
inductive PolicyOutside (runtime : PolicyRuntime) where
  | fails : Failure → PolicyOutside runtime
  | answers :
      (form : Presentation runtime) →
      (now : Int) →
      PolicyOutside runtime

namespace PolicyTable

/-- Give up the lock of a transaction, and what it has not committed. -/
def release (thread : Nat) (table : PolicyTable) : PolicyTable :=
  match table.writer with
  | some (holder, _) =>
      if holder = thread then { table with writer := none } else table
  | none => table

/-- Make what a transaction has written the committed row. -/
def publish (thread : Nat) (table : PolicyTable) : PolicyTable :=
  match table.writer with
  | some (holder, some written) =>
      if holder = thread then { table with committed := some written }
      else table
  | _ => table

/-- How a transaction ends whose commit the database accepts. -/
def commit (thread : Nat) (table : PolicyTable) : PolicyTable :=
  (table.publish thread).release thread

/-- The answer of a statement; `none` while it waits for the lock. -/
def answer
    (thread : Nat)
    (form : Presentation runtime)
    (now : Int)
    (table : PolicyTable) :
    PolicyStatement →
      Option (Option RewardPolicyRow × PolicyTable)
  | .get => some (table.committed.map (·.present form), table)
  | .getForUpdate =>
      match table.committed, table.writer with
      | none, _ => some (none, table)
      | some stored, none =>
          some
            (some (stored.present form),
              { table with writer := some (thread, none) })
      | some _, some _ => none
  | .save write =>
      match table.writer with
      | some (holder, written) =>
          if holder = thread then
            some
              (some ((write.stored now).present form),
                { table with
                  writer := some (holder, some (write.stored now)) })
          else some (none, { table with writer := some (holder, written) })
      | none => some (none, table)

/-- How an operation of a call is answered. -/
def respond
    (thread : Nat)
    (table : PolicyTable) :
    (op : PolicyOp) →
    PolicyOutside runtime →
    Option (op.Answer × PolicyTable)
  | .query statement, .answers form now =>
      (table.answer thread form now statement).map fun answered =>
        (.ok answered.1, answered.2)
  | .query _, .fails error => some (.error error, table)
  | .commit _, .answers _ _ => some (.ok (), table.commit thread)
  | .commit _, .fails error => some (.error error, table.release thread)
  | .rollback, _ => some ((), table.release thread)
  | .deliver _, _ => some ((), table)

end PolicyTable

/-- The calls of a repository on one table. -/
def policySemantics (runtime : PolicyRuntime) :
    Semantics policyDatabase PolicyTable where
  Choice := PolicyOutside runtime
  respond := fun thread op outside table => table.respond thread op outside
  stop := fun thread table => table.release thread

/-- A state of the table, its calls and their history. -/
abbrev PolicyRun := Config policyDatabase Failure PolicyTable

/-- The table before the first call. -/
def PolicyRun.initial
    (runtime : PolicyRuntime)
    (stored : StoredPolicy)
    (calls : Nat → PolicyCall) :
    PolicyRun :=
  Config.initial ⟨some stored, none⟩ fun thread =>
    (calls thread).run runtime

end Sparkz
