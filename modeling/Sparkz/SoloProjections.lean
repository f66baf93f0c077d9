import Sparkz.SoloCalls
import Sparkz.LedgerProjection

namespace Sparkz

open Interleaving

/-!
# What a projection alone writes

Under the locks it takes, `recordAward` and `recordSpend` either find their
movement or insert it with its user and balance in one change.
-/

/-- The user of a projection is known, or new under the locked identifier. -/
def ProjectionUser.Resolves
    (uid : String)
    (ledger : Ledger) :
    ProjectionUser → Prop
  | .existing _ => True
  | .created row =>
      row.uid = uid ∧
        (row.isActive = true ↔
          ∀ other ∈ ledger.users, other.uid ≠ uid)

/-- What recording one movement does to the ledger. -/
inductive Ledger.Records (uid : String) (before : Ledger) :
    Ledger → Prop where
  | found : Records uid before before
  | award
      {after : Ledger}
      {user : ProjectionUser}
      {award : Award}
      {balance : BalanceWrite}
      (resolves : user.Resolves uid before)
      (committed : before.commitAward user award balance = .ok after) :
      Records uid before after
  | spend
      {after : Ledger}
      {user : ProjectionUser}
      {spend : Spend}
      {balance : BalanceWrite}
      (resolves : user.Resolves uid before)
      (committed : before.commitSpend user spend balance = .ok after) :
      Records uid before after

theorem Database.userOfUid_isNone
    {database : Database}
    {uid : String} :
    (database.userOfUid uid).isNone = true ↔
      ∀ other ∈ database.ledger.users, other.uid ≠ uid := by
  unfold Database.userOfUid
  simp

section Projections

variable {thread : Nat} {choice : Choice} {database next : Database}

theorem solo_balanceWrite (userId walletAddress : String) :
    ∃ balance,
      (balanceWrite userId walletAddress).solo (alone thread choice)
          database =
        (.ok balance, database) := by
  unfold balanceWrite
  rw [solo_read_bind]
  cases (Query.balance userId).answer database <;>
    exact ⟨_, rfl⟩

theorem solo_awardUser
    (platform : Platform)
    (data : RecordAwardRequest) :
    ∃ user walletAddress,
      (awardUser platform data).solo (alone thread choice) database =
          (.ok (user, walletAddress), database) ∧
        user.Resolves data.normalised.uid database.ledger := by
  unfold awardUser
  cases orNull data.intendedWalletAddress with
  | none =>
      rw [solo_read_bind]
      cases (Query.activeUser data.normalised.uid).answer database with
      | none =>
          exact ⟨_, _, rfl, rfl, Database.userOfUid_isNone⟩
      | some user =>
          exact ⟨_, _, rfl, trivial⟩
  | some wallet =>
      rw [solo_read_bind]
      cases
          (Query.userOfWallet data.normalised.uid wallet).answer
            database with
      | none =>
          exact ⟨_, _, rfl, rfl, Database.userOfUid_isNone⟩
      | some user =>
          exact ⟨_, _, rfl, trivial⟩

theorem solo_spendUser
    {data : RecordSpendRequest}
    {uid : JsString}
    (isUid : JsString.orNull data.uid = some uid) :
    ∃ user,
      (spendUser data).solo (alone thread choice) database =
          (.ok user, database) ∧
        user.Resolves uid.encoded database.ledger := by
  unfold spendUser
  simp only [isUid]
  rw [solo_read_bind]
  cases
      (Query.userOfWallet uid.encoded data.userWallet).answer
        database with
  | none =>
      exact
        ⟨_, rfl, orText_map_encoded isUid _,
          Database.userOfUid_isNone⟩
  | some user =>
      exact ⟨_, rfl, trivial⟩

theorem records_insertAward
    {platform : Platform}
    {data : RecordAwardRequest}
    {amount : TokenAmount}
    {hash : TransactionHash}
    {award : Award}
    (ran :
      (insertAward platform data amount hash).solo
          (alone thread choice) database =
        (.ok award, next)) :
    database.ledger.Records data.normalised.uid next.ledger := by
  obtain ⟨user, walletAddress, resolved, resolves⟩ :=
    @solo_awardUser thread choice database platform data
  obtain ⟨balance, chosen⟩ :=
    @solo_balanceWrite thread choice database user.id walletAddress
  unfold insertAward at ran
  simp only [Program.solo_bind, resolved, chosen] at ran
  obtain ⟨after, applied, rfl⟩ := solo_write_eq_ok ran
  obtain ⟨ledger, committed, same⟩ := Except.map_eq_ok applied
  cases same
  exact .award resolves committed

theorem records_insertSpend
    {data : RecordSpendRequest}
    {uid : JsString}
    (isUid : JsString.orNull data.uid = some uid)
    {amount : TokenAmount}
    {hash : TransactionHash}
    (ran :
      (insertSpend data amount hash).solo
          (alone thread choice) database =
        (.ok (), next)) :
    database.ledger.Records uid.encoded next.ledger := by
  obtain ⟨user, resolved, resolves⟩ :=
    @solo_spendUser thread choice database data uid isUid
  obtain ⟨balance, chosen⟩ :=
    @solo_balanceWrite thread choice database user.id data.userWallet
  unfold insertSpend at ran
  simp only [Program.solo_bind, resolved, chosen] at ran
  split at ran
  · rename_i spend after written
    cases ran
    obtain ⟨after, applied, rfl⟩ := solo_write_eq_ok written
    obtain ⟨ledger, committed, same⟩ := Except.map_eq_ok applied
    cases same
    exact .spend resolves committed
  · cases ran

/-- The owner check of a recorded award only reads. -/
theorem solo_requireAwardOwner
    (data : RecordAwardRequest)
    (existing : Award)
    (mismatch : String) :
    ((requireAwardOwner data existing mismatch).solo
      (alone thread choice) database).2 = database := by
  unfold requireAwardOwner
  split
  · rfl
  · rw [solo_read_bind]
    split
    · split <;> rfl
    · rfl

/-- The check of a recorded spend only reads. -/
theorem solo_checkRecordedSpend
    (data : RecordSpendRequest)
    (amount : TokenAmount)
    (existing : Spend) :
    ((checkRecordedSpend data amount existing).solo
      (alone thread choice) database).2 = database := by
  unfold checkRecordedSpend
  split
  · rfl
  · rw [solo_read_bind]
    split
    · split <;> rfl
    · rfl

/-- An award that is already recorded is checked and returned. -/
theorem ledger_of_ownedAward
    {data : RecordAwardRequest}
    {existing award : Award}
    {mismatch : String}
    (ran :
      (do
        requireAwardOwner data existing mismatch
        return existing : Call Award).solo
          (alone thread choice) database =
        (.ok award, next)) :
    next = database := by
  have unchanged :=
    @solo_requireAwardOwner thread choice database data existing mismatch
  rw [Program.solo_bind] at ran
  split at ran
  · rename_i checked
    rw [checked] at unchanged
    cases ran
    exact unchanged
  · cases ran

theorem records_projectAward
    {platform : Platform}
    {data : RecordAwardRequest}
    {amount : TokenAmount}
    {hash : TransactionHash}
    {award : Award}
    (ran :
      (projectAward platform data amount hash).solo
          (alone thread choice) database =
        (.ok award, next)) :
    database.ledger.Records data.normalised.uid next.ledger := by
  unfold projectAward at ran
  rw [solo_lock_bind, solo_lock_bind, solo_lock_bind, solo_lock_bind,
    solo_read_bind, solo_orThrow_bind] at ran
  split at ran
  · split at ran
    · split at ran
      · cases ran
      · cases ledger_of_ownedAward ran
        exact .found
    · rw [solo_read_bind] at ran
      split at ran
      · split at ran
        · cases ran
        · cases ledger_of_ownedAward ran
          exact .found
      · have inserted := records_insertAward ran
        exact inserted
  · cases ran

/-- What `recordAward` alone does to the ledger when it returns. -/
theorem records_recordAward
    {platform : Platform}
    {data : RecordAwardRequest}
    {award : Award}
    (ran :
      (recordAward platform data).solo (alone thread choice) database =
        (.ok award, next)) :
    database.ledger.Records data.normalised.uid next.ledger := by
  unfold recordAward at ran
  rw [solo_orThrow_bind] at ran
  split at ran
  · split at ran
    · cases ran
    · obtain ⟨after, projected, rfl⟩ := solo_transaction_eq_ok ran
      have recorded := records_projectAward projected
      exact recorded
  · cases ran

theorem records_projectLockedSpend
    {data : RecordSpendRequest}
    {uid : JsString}
    (isUid : JsString.orNull data.uid = some uid)
    {amount : TokenAmount}
    {hash : TransactionHash}
    (ran :
      (projectLockedSpend data amount hash).solo
          (alone thread choice) database =
        (.ok (), next)) :
    database.ledger.Records uid.encoded next.ledger := by
  unfold projectLockedSpend at ran
  rw [solo_lock_bind, solo_lock_bind, solo_read_bind,
    solo_orThrow_bind] at ran
  split at ran
  · split at ran
    · have unchanged := congrArg Prod.snd ran
      rw [solo_checkRecordedSpend] at unchanged
      cases unchanged
      exact .found
    · have inserted := records_insertSpend isUid ran
      exact inserted
  · cases ran

/-- What `recordSpend` alone does to the ledger when it returns. -/
theorem records_recordSpend
    {data : RecordSpendRequest}
    {uid : JsString}
    (isUid : JsString.orNull data.uid = some uid)
    (ran :
      (recordSpend data).solo (alone thread choice) database =
        (.ok (), next)) :
    database.ledger.Records uid.encoded next.ledger := by
  unfold recordSpend at ran
  rw [solo_orThrow_bind] at ran
  split at ran
  · split at ran
    · cases ran
    · obtain ⟨after, projected, rfl⟩ := solo_transaction_eq_ok ran
      unfold projectSpend at projected
      simp only [isUid] at projected
      rw [solo_lock_bind] at projected
      have recorded := records_projectLockedSpend isUid projected
      exact recorded
  · cases ran

end Projections

end Sparkz
