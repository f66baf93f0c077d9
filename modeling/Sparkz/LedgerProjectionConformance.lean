import Sparkz.TokenOperationsConformance
import Sparkz.LedgerProjection

namespace Sparkz

open Interleaving

/-!
# What a projection may write

`recordAward` and `recordSpend` write one movement with the balance of its user,
or find the movement already recorded, or throw and have written nothing.
-/

/-- The balance row that a projection updates has been seen. -/
def BalanceSeen
    (userId : String)
    (balance : BalanceWrite)
    (past : Past) :
    Prop :=
  balance = .update →
  ∃ row : Balance,
    (⟨.read (.balance userId), .ok (some row)⟩ : Event sparkz) ∈ past

/-- The choice between update and insert follows a read. -/
theorem balanceWrite_obeys
    {userId walletAddress : String}
    {asks : ChainRequest → Prop} {past : Past} :
    (balanceWrite userId walletAddress).Obeys (insideTransaction asks)
      past fun result reached =>
        ∀ balance,
          result = .ok balance → BalanceSeen userId balance reached := by
  unfold balanceWrite
  rw [Program.obeys_bind, obeys_read]
  refine ⟨trivial, fun found => ?_, fun error => ?_⟩
  · cases found with
    | some row =>
        intro balance isBalance _
        exact ⟨row, List.mem_cons_self⟩
    | none =>
        intro balance isBalance isUpdate
        cases isBalance
        cases isUpdate
  · intro balance isBalance
    cases isBalance

/-! ## Awards -/

namespace RecordAwardRequest

/-- What `recordAward` writes, and what it has read by then. -/
def Writes
    (data : RecordAwardRequest)
    (past : Past)
    (change : Change) :
    Prop :=
  ∃ user amount hash balance,
    canonicalTransactionHash data.txHash = some hash ∧
      canonicalTokenAmount data.amount = some amount ∧
      BalanceSeen user.id balance past ∧
      change =
        .recordAward user (data.award user.id amount hash) balance

/-- The award was found, or its write was acknowledged. -/
inductive Recorded (data : RecordAwardRequest) (past : Past) :
    Prop where
  | written
      {user : ProjectionUser}
      {amount : TokenAmount}
      {hash : TransactionHash}
      {balance : BalanceWrite}
      {award : Award}
      (isHash : canonicalTransactionHash data.txHash = some hash)
      (member :
        (⟨.write
            (.recordAward user (data.award user.id amount hash)
              balance), .ok award⟩ : Event sparkz) ∈ past) :
      Recorded data past
  | ofHash
      {hash : TransactionHash}
      {existing : Award}
      (isHash : canonicalTransactionHash data.txHash = some hash)
      (member :
        (⟨.read (.awardsOfHash hash), .ok [existing]⟩ :
          Event sparkz) ∈ past) :
      Recorded data past
  | ofDedupKey
      {existing : Award}
      (member :
        (⟨.read (.awardOfDedupKey data.dedupKey),
          .ok (some existing)⟩ : Event sparkz) ∈ past) :
      Recorded data past

theorem Recorded.subset
    {data : RecordAwardRequest}
    {past reached : Past}
    (included : past ⊆ reached)
    (recorded : data.Recorded past) :
    data.Recorded reached := by
  cases recorded with
  | written isHash member =>
      exact .written isHash (included member)
  | ofHash isHash member =>
      exact .ofHash isHash (included member)
  | ofDedupKey member =>
      exact .ofDedupKey (included member)

end RecordAwardRequest

/-- What a projection has done when it ends. -/
def ProjectionFinished {α : Type}
    (recorded : Past → Prop)
    (start : Past)
    (result : Except Failure α)
    (reached : Past) :
    Prop :=
  (∀ value, result = .ok value → recorded reached) ∧
    ∀ failure, result = .error failure → NoCommit start reached

section Finished

variable {α : Type} {recorded : Past → Prop} {start reached : Past}

theorem ProjectionFinished.release
    {result : Except Failure α}
    (finished : ProjectionFinished recorded start result reached)
    (recordedStays :
      recorded reached → recorded (⟨.release, ()⟩ :: reached)) :
    ProjectionFinished recorded start result
      (⟨.release, ()⟩ :: reached) :=
  ⟨fun value isValue => recordedStays (finished.1 value isValue),
    fun failure isFailure => (finished.2 failure isFailure).release⟩

theorem projectionFinished_of_failure
    {failure : Failure}
    (noCommit : NoCommit start reached) :
    ProjectionFinished (α := α) recorded start (.error failure)
      reached :=
  ⟨fun _ impossible => (nomatch impossible), fun _ _ => noCommit⟩

theorem projectionFinished_of_value
    {value : α}
    (holds : recorded reached) :
    ProjectionFinished recorded start (.ok value) reached :=
  ⟨fun _ _ => holds, fun _ impossible => nomatch impossible⟩

end Finished

section Award

variable {platform : Platform} {data : RecordAwardRequest}
  {asks : ChainRequest → Prop} {past : Past}

/-- The owner check writes nothing. -/
theorem requireAwardOwner_obeys
    {existing : Award}
    {mismatch : String} :
    (requireAwardOwner data existing mismatch).Obeys
      (insideTransaction asks) past fun _ _ => True := by
  unfold requireAwardOwner
  split
  · trivial
  · rw [Program.obeys_bind, obeys_read]
    refine ⟨trivial, fun owner => ?_, fun _ => trivial⟩
    cases owner with
    | none =>
        trivial
    | some owner =>
        dsimp only
        split <;> trivial

/-- The user is found, or a new one is made up. -/
theorem awardUser_obeys :
    (awardUser platform data).Obeys (insideTransaction asks) past
      fun _ _ => True := by
  unfold awardUser
  dsimp only
  split <;>
  · simp only [Program.obeys_bind, obeys_read, insideTransaction_read,
      true_and, implies_true, and_true]
    intro found
    cases found with
    | some user =>
        trivial
    | none =>
        simp [Program.obeys_bind]

/-- An award that is already recorded is checked, and nothing is written. -/
theorem checkRecordedAward_obeys
    {start : Past}
    {existing : Award}
    {intent owner : String}
    {mismatched : Prop} [Decidable mismatched]
    (noCommit : NoCommit start past)
    (recorded :
      ∀ reached,
        ExtendsBy (insideTransaction asks) past reached →
        data.Recorded reached) :
    Program.Obeys (writesOnly asks data.Writes)
      (if mismatched then
        throwFailure (.error intent)
      else do
        requireAwardOwner data existing owner
        return existing)
      past (ProjectionFinished data.Recorded start) := by
  split
  · exact projectionFinished_of_failure noCommit
  · rw [Program.obeys_bind]
    refine
      (obeys_writesOnly_of_inside requireAwardOwner_obeys).weaken ?_
    rintro (failure | _) reached ⟨_, inside⟩
    · exact
        projectionFinished_of_failure
          (noCommit.trans (.of_insideTransaction inside))
    · exact projectionFinished_of_value (recorded reached inside)

/-- A new award is written with the balance of its user. -/
theorem insertAward_obeys
    {start : Past}
    {amount : TokenAmount}
    {hash : TransactionHash}
    (isHash : canonicalTransactionHash data.txHash = some hash)
    (canonical : canonicalTokenAmount data.amount = some amount)
    (noCommit : NoCommit start past) :
    (insertAward platform data amount hash).Obeys
      (writesOnly asks data.Writes) past
      (ProjectionFinished data.Recorded start) := by
  unfold insertAward
  rw [Program.obeys_bind]
  refine (obeys_writesOnly_of_inside awardUser_obeys).weaken ?_
  rintro (failure | ⟨user, walletAddress⟩) userPast ⟨_, inside⟩
  · exact
      projectionFinished_of_failure
        (noCommit.trans (.of_insideTransaction inside))
  dsimp only
  rw [Program.obeys_bind]
  refine (obeys_writesOnly_of_inside balanceWrite_obeys).weaken ?_
  rintro (failure | balance) reached ⟨seen, balanceInside⟩
  · exact
      projectionFinished_of_failure
        (noCommit.trans
          (.of_insideTransaction (inside.trans balanceInside)))
  dsimp only
  rw [obeys_write]
  refine
    ⟨⟨user, amount, hash, balance, isHash, canonical,
      seen balance rfl, rfl⟩, fun award => ?_, fun error => ?_⟩
  · exact
      projectionFinished_of_value (.written isHash List.mem_cons_self)
  · exact
      projectionFinished_of_failure
        ((noCommit.trans
          (.of_insideTransaction (inside.trans balanceInside))).cons
          not_isCommit_refused)

/-- One row, no row, or the error of two rows that share a hash. -/
theorem requireUnambiguousTransactionMatch_cases {α : Type}
    (projection : String)
    (found : List α) :
    (found = [] ∧
        requireUnambiguousTransactionMatch projection found =
          .ok none) ∨
      (∃ only,
        found = [only] ∧
          requireUnambiguousTransactionMatch projection found =
            .ok (some only)) ∨
      ∃ failure,
        requireUnambiguousTransactionMatch projection found =
          .error failure := by
  rcases found with _ | ⟨only, _ | ⟨other, rest⟩⟩
  · exact Or.inl ⟨rfl, rfl⟩
  · exact Or.inr (Or.inl ⟨only, rfl, rfl⟩)
  · exact Or.inr (Or.inr ⟨_, rfl⟩)

/-- The transaction of `recordAward`. -/
theorem projectAward_obeys
    {amount : TokenAmount}
    {hash : TransactionHash}
    (isHash : canonicalTransactionHash data.txHash = some hash)
    (canonical : canonicalTokenAmount data.amount = some amount) :
    (projectAward platform data amount hash).Obeys
      (writesOnly asks data.Writes) past
      (ProjectionFinished data.Recorded past) := by
  unfold projectAward
  have refused :
      ∀ {failure : Failure} {reached : Past},
        ExtendsBy (insideTransaction asks) past reached →
        ProjectionFinished (α := Award) data.Recorded past
          (.error failure) reached :=
    fun inside =>
      projectionFinished_of_failure (.of_insideTransaction inside)
  simp only [Program.obeys_bind, obeys_lock, obeys_read, obeys_orThrow,
    writesOnly_lock, writesOnly_read, true_and]
  have start : ExtendsBy (insideTransaction asks) past past := .none
  have first := insideTransaction_perform
    (.lock (.usersActive data.normalised.uid)) (.ok ()) start trivial
  have second := insideTransaction_perform
    (.lock (.awardTx hash)) (.ok ()) first trivial
  have third := insideTransaction_perform
    (.lock (.awardDedup data.dedupKey)) (.ok ()) second trivial
  have fourth := insideTransaction_perform
    (.lock
      (.balanceUser data.normalised.uid
        (lowerText
          (orText data.intendedWalletAddress
            (platform.resolveUidToAddress data.normalised.uid)))))
    (.ok ()) third trivial
  refine ⟨⟨⟨⟨⟨fun found => ?_, fun _ =>
    refused (insideTransaction_cons fourth trivial)⟩, fun _ =>
    refused (insideTransaction_cons third trivial)⟩, fun _ =>
    refused (insideTransaction_cons second trivial)⟩, fun _ =>
    refused (insideTransaction_cons first trivial)⟩, fun _ =>
    refused (insideTransaction_cons start trivial)⟩
  have readHash := insideTransaction_perform
    (.read (.awardsOfHash hash)) (.ok found) fourth trivial
  rcases requireUnambiguousTransactionMatch_cases "AWARD" found with
    ⟨rfl, isMatch⟩ | ⟨existing, rfl, isMatch⟩ | ⟨failure, isMatch⟩
  · rw [isMatch]
    simp only [Program.obeys_bind, obeys_read, writesOnly_read, true_and]
    refine ⟨fun byDedupKey => ?_, fun _ =>
      refused (insideTransaction_cons readHash trivial)⟩
    have readDedup := insideTransaction_perform
      (.read (.awardOfDedupKey data.dedupKey)) (.ok byDedupKey)
      readHash trivial
    cases byDedupKey with
    | some existing =>
        refine
          checkRecordedAward_obeys (.of_insideTransaction readDedup)
            fun reached inside =>
              .ofDedupKey (inside.subset List.mem_cons_self)
    | none =>
        exact
          insertAward_obeys isHash canonical
            (.of_insideTransaction readDedup)
  · rw [isMatch]
    refine
      checkRecordedAward_obeys (.of_insideTransaction readHash)
        fun reached inside =>
          .ofHash isHash (inside.subset List.mem_cons_self)
  · rw [isMatch]
    exact refused readHash

/-- `recordAward` writes at most once. -/
theorem recordAward_obeys :
    (recordAward platform data).Obeys (writesOnly asks data.Writes) past
      (ProjectionFinished data.Recorded past) := by
  unfold recordAward requireCanonicalTransactionHash
  rw [Program.obeys_bind, obeys_orThrow]
  cases isHash : canonicalTransactionHash data.txHash with
  | none =>
      exact projectionFinished_of_failure (.refl past)
  | some hash =>
      dsimp only
      split
      · exact projectionFinished_of_failure (.refl past)
      · rename_i amount canonical
        rw [obeys_transaction]
        exact
          (projectAward_obeys isHash canonical).weaken
            fun result reached finished =>
              ⟨trivial, finished.release (.subset (List.subset_cons_self _ _))⟩

end Award

/-! ## Spends -/

namespace RecordSpendRequest

/-- What `recordSpend` writes, and what it has read by then. -/
def Writes
    (data : RecordSpendRequest)
    (past : Past)
    (change : Change) :
    Prop :=
  ∃ user amount hash balance,
    canonicalTransactionHash data.txHash = some hash ∧
      canonicalTokenAmount data.amount = some amount ∧
      BalanceSeen user.id balance past ∧
      change =
        .recordSpend user (data.spend user.id amount hash) balance

/-- The spend was found, or its write was acknowledged. -/
inductive Recorded (data : RecordSpendRequest) (past : Past) :
    Prop where
  | written
      {user : ProjectionUser}
      {amount : TokenAmount}
      {hash : TransactionHash}
      {balance : BalanceWrite}
      {spend : Spend}
      (isHash : canonicalTransactionHash data.txHash = some hash)
      (member :
        (⟨.write
            (.recordSpend user (data.spend user.id amount hash)
              balance), .ok spend⟩ : Event sparkz) ∈ past) :
      Recorded data past
  | ofHash
      {hash : TransactionHash}
      {existing : Spend}
      (isHash : canonicalTransactionHash data.txHash = some hash)
      (member :
        (⟨.read (.spendsOfHash hash), .ok [existing]⟩ :
          Event sparkz) ∈ past) :
      Recorded data past

theorem Recorded.subset
    {data : RecordSpendRequest}
    {past reached : Past}
    (included : past ⊆ reached)
    (recorded : data.Recorded past) :
    data.Recorded reached := by
  cases recorded with
  | written isHash member =>
      exact .written isHash (included member)
  | ofHash isHash member =>
      exact .ofHash isHash (included member)

end RecordSpendRequest

section Spend

variable {data : RecordSpendRequest} {asks : ChainRequest → Prop}
  {past : Past}

/-- The user is found, or a new one is made up. -/
theorem spendUser_obeys :
    (spendUser data).Obeys (insideTransaction asks) past
      fun _ _ => True := by
  unfold spendUser
  split
  · simp only [Program.obeys_bind, obeys_read, insideTransaction_read,
      true_and, implies_true, and_true]
    intro found
    cases found with
    | some user =>
        trivial
    | none =>
        simp [Program.obeys_bind]
  · simp only [Program.obeys_bind, obeys_read, insideTransaction_read,
      true_and, implies_true, and_true]
    intro found
    cases found with
    | some user =>
        trivial
    | none =>
        simp [Program.obeys_bind]

/-- A new spend is written with the balance of its user. -/
theorem insertSpend_obeys
    {start : Past}
    {amount : TokenAmount}
    {hash : TransactionHash}
    (isHash : canonicalTransactionHash data.txHash = some hash)
    (canonical : canonicalTokenAmount data.amount = some amount)
    (noCommit : NoCommit start past) :
    (insertSpend data amount hash).Obeys (writesOnly asks data.Writes)
      past (ProjectionFinished data.Recorded start) := by
  unfold insertSpend
  rw [Program.obeys_bind]
  refine (obeys_writesOnly_of_inside spendUser_obeys).weaken ?_
  rintro (failure | user) userPast ⟨_, inside⟩
  · exact
      projectionFinished_of_failure
        (noCommit.trans (.of_insideTransaction inside))
  dsimp only
  rw [Program.obeys_bind]
  refine (obeys_writesOnly_of_inside balanceWrite_obeys).weaken ?_
  rintro (failure | balance) reached ⟨seen, balanceInside⟩
  · exact
      projectionFinished_of_failure
        (noCommit.trans
          (.of_insideTransaction (inside.trans balanceInside)))
  dsimp only
  rw [Program.obeys_bind, obeys_write]
  refine
    ⟨⟨user, amount, hash, balance, isHash, canonical,
      seen balance rfl, rfl⟩, fun spend => ?_, fun error => ?_⟩
  · exact
      projectionFinished_of_value (.written isHash List.mem_cons_self)
  · exact
      projectionFinished_of_failure
        ((noCommit.trans
          (.of_insideTransaction (inside.trans balanceInside))).cons
          not_isCommit_refused)

/-- A spend that is already recorded is checked, and nothing is written. -/
theorem checkRecordedSpend_obeys
    {start : Past}
    {amount : TokenAmount}
    {existing : Spend}
    (noCommit : NoCommit start past)
    (recorded :
      ∀ reached,
        ExtendsBy (insideTransaction asks) past reached →
        data.Recorded reached) :
    (checkRecordedSpend data amount existing).Obeys
      (writesOnly asks data.Writes) past
      (ProjectionFinished data.Recorded start) := by
  unfold checkRecordedSpend
  split
  · exact projectionFinished_of_failure noCommit
  · rw [Program.obeys_bind, obeys_read]
    have inside :
        ∀ answer,
          ExtendsBy (insideTransaction asks) past
            (⟨.read (.user existing.userId), answer⟩ :: past) :=
      fun _ => insideTransaction_cons .none trivial
    refine ⟨trivial, fun user => ?_, fun error => ?_⟩
    · have stillNoCommit :=
        noCommit.trans (.of_insideTransaction (inside (.ok user)))
      dsimp only
      split
      · split
        · exact projectionFinished_of_failure stillNoCommit
        · exact projectionFinished_of_value (recorded _ (inside _))
      · exact projectionFinished_of_value (recorded _ (inside _))
    · exact
        projectionFinished_of_failure
          (noCommit.trans (.of_insideTransaction (inside _)))

/-- The transaction of `recordSpend`, once its uid is locked. -/
theorem projectLockedSpend_obeys
    {start : Past}
    {amount : TokenAmount}
    {hash : TransactionHash}
    (isHash : canonicalTransactionHash data.txHash = some hash)
    (canonical : canonicalTokenAmount data.amount = some amount)
    (inside : ExtendsBy (insideTransaction asks) start past) :
    (projectLockedSpend data amount hash).Obeys
      (writesOnly asks data.Writes) past
      (ProjectionFinished data.Recorded start) := by
  have refused :
      ∀ {failure : Failure} {reached : Past},
        ExtendsBy (insideTransaction asks) start reached →
        ProjectionFinished (α := Unit) data.Recorded start
          (.error failure) reached :=
    fun inside =>
      projectionFinished_of_failure (.of_insideTransaction inside)
  unfold projectLockedSpend
  simp only [Program.obeys_bind, obeys_lock, obeys_read,
    obeys_orThrow, writesOnly_lock, writesOnly_read, true_and]
  have first := insideTransaction_perform
    (.lock (.spendTx hash)) (.ok ()) inside trivial
  have second := insideTransaction_perform
    (.lock
      (.balanceUser (data.uid.getD []).encoded
        (lowerText data.userWallet)))
    (.ok ()) first trivial
  refine ⟨⟨⟨fun found => ?_, fun _ =>
    refused (insideTransaction_cons second trivial)⟩, fun _ =>
    refused (insideTransaction_cons first trivial)⟩, fun _ =>
    refused (insideTransaction_cons inside trivial)⟩
  have readHash := insideTransaction_perform
    (.read (.spendsOfHash hash)) (.ok found) second trivial
  rcases requireUnambiguousTransactionMatch_cases "SPEND" found with
    ⟨rfl, isMatch⟩ | ⟨existing, rfl, isMatch⟩ | ⟨failure, isMatch⟩
  · rw [isMatch]
    exact
      insertSpend_obeys isHash canonical
        (.of_insideTransaction readHash)
  · rw [isMatch]
    refine
      checkRecordedSpend_obeys (.of_insideTransaction readHash)
        fun reached extended =>
          .ofHash isHash (extended.subset List.mem_cons_self)
  · rw [isMatch]
    exact refused readHash

/-- The transaction of `recordSpend`. -/
theorem projectSpend_obeys
    {amount : TokenAmount}
    {hash : TransactionHash}
    (isHash : canonicalTransactionHash data.txHash = some hash)
    (canonical : canonicalTokenAmount data.amount = some amount) :
    (projectSpend data amount hash).Obeys
      (writesOnly asks data.Writes) past
      (ProjectionFinished data.Recorded past) := by
  unfold projectSpend
  split
  · rename_i uid _
    have locked :
        ∀ answer,
          ExtendsBy (insideTransaction asks) past
            (⟨.lock (.usersActive uid.encoded), answer⟩ :: past) :=
      fun _ => insideTransaction_cons .none trivial
    rw [Program.obeys_bind, obeys_lock]
    refine
      ⟨trivial,
        projectLockedSpend_obeys isHash canonical (locked _),
        fun _ => ?_⟩
    exact
      projectionFinished_of_failure (.of_insideTransaction (locked _))
  · exact projectLockedSpend_obeys isHash canonical .none

/-- `recordSpend` writes at most once. -/
theorem recordSpend_obeys :
    (recordSpend data).Obeys (writesOnly asks data.Writes) past
      (ProjectionFinished data.Recorded past) := by
  unfold recordSpend requireCanonicalTransactionHash
  rw [Program.obeys_bind, obeys_orThrow]
  cases isHash : canonicalTransactionHash data.txHash with
  | none =>
      exact projectionFinished_of_failure (.refl past)
  | some hash =>
      dsimp only
      split
      · exact projectionFinished_of_failure (.refl past)
      · rename_i amount canonical
        rw [obeys_transaction]
        exact
          (projectSpend_obeys isHash canonical).weaken
            fun result reached finished =>
              ⟨trivial,
                finished.release (.subset (List.subset_cons_self _ _))⟩

end Spend

end Sparkz
