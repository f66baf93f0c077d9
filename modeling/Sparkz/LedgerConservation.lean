import Sparkz.AwardRecording

namespace Sparkz

open Interleaving

/-!
# The ledger is conserved

The balance row of a user is the sum of the movements of that user.  A
projection changes both in one commit, so the sums agree after every commit,
whatever other calls do in between.
-/

/-- What was awarded to a user, in cents. -/
def Ledger.awardedTo (ledger : Ledger) (userId : String) : ℕ :=
  ((ledger.awards.filter (·.userId = userId)).map (·.amount.units)).sum

/-- What was spent by a user, in cents. -/
def Ledger.spentBy (ledger : Ledger) (userId : String) : ℕ :=
  ((ledger.spends.filter (·.userId = userId)).map (·.amount.units)).sum

/-- A balance row is the sum of the movements of its user. -/
structure Ledger.Tallies (ledger : Ledger) (row : Balance) : Prop where
  awarded : row.totalAwarded = ledger.awardedTo row.userId
  spent : row.totalSpent = ledger.spentBy row.userId
  balance : row.balance = row.totalAwarded - row.totalSpent

/--
Every hash is projected once, and every user with a movement has one balance
row, which is the sum of the movements.
-/
structure Ledger.Conserved (ledger : Ledger) : Prop where
  awardHashes : (ledger.awards.map Award.txHash).Nodup
  spendHashes : (ledger.spends.map Spend.txHash).Nodup
  oneRow : (ledger.balances.map Balance.userId).Nodup
  tallies : ∀ row ∈ ledger.balances, ledger.Tallies row
  awardRows :
    ∀ award ∈ ledger.awards,
      ∃ row ∈ ledger.balances, row.userId = award.userId
  spendRows :
    ∀ spend ∈ ledger.spends,
      ∃ row ∈ ledger.balances, row.userId = spend.userId

/-! ## One balance row -/

/-- A row after amounts were awarded and spent. -/
def Balance.moved (awarded spent : ℕ) (row : Balance) : Balance :=
  { row with
    balance := row.balance + awarded - spent
    totalAwarded := row.totalAwarded + awarded
    totalSpent := row.totalSpent + spent }

theorem Balance.award_eq_moved (amount : TokenAmount) :
    Balance.award amount = Balance.moved amount.units 0 := by
  funext row
  simp [Balance.award, Balance.moved]

theorem Balance.spend_eq_moved (amount : TokenAmount) :
    Balance.spend amount = Balance.moved 0 amount.units := by
  funext row
  simp [Balance.spend, Balance.moved]

namespace Ledger

variable {ledger later next : Ledger}

/-- The movements of a user grow by some amounts, those of others not at all. -/
structure Moves
    (ledger later : Ledger)
    (userId : String)
    (awarded spent : ℕ) :
    Prop where
  sameBalances : later.balances = ledger.balances
  awardedTo :
    ∀ other,
      later.awardedTo other =
        ledger.awardedTo other + if other = userId then awarded else 0
  spentBy :
    ∀ other,
      later.spentBy other =
        ledger.spentBy other + if other = userId then spent else 0

/-- A user without a balance row has no movements. -/
theorem Conserved.nothing_of_noRow
    (conserved : ledger.Conserved)
    {userId : String}
    (noRow : ∀ row ∈ ledger.balances, row.userId ≠ userId) :
    ledger.awardedTo userId = 0 ∧ ledger.spentBy userId = 0 := by
  have noAward : ledger.awards.filter (·.userId = userId) = [] := by
    rw [List.filter_eq_nil_iff]
    intro award member isUser
    obtain ⟨row, isRow, same⟩ := conserved.awardRows award member
    exact noRow row isRow (same.trans (of_decide_eq_true isUser))
  have noSpend : ledger.spends.filter (·.userId = userId) = [] := by
    rw [List.filter_eq_nil_iff]
    intro spend member isUser
    obtain ⟨row, isRow, same⟩ := conserved.spendRows spend member
    exact noRow row isRow (same.trans (of_decide_eq_true isUser))
  simp [awardedTo, spentBy, noAward, noSpend]

/-- What writing a balance row does to the balances, and to nothing else. -/
theorem writeBalance_cases
    {userId : String}
    {write : BalanceWrite}
    {change : Balance → Balance}
    (accepted : later.writeBalance userId write change = .ok next) :
    (write = .update ∧
      next =
        { later with
          balances :=
            later.balances.map fun row =>
              if row.userId = userId then change row else row }) ∨
    ∃ walletAddress,
      (∀ row ∈ later.balances, row.userId ≠ userId) ∧
        next =
          { later with
            balances :=
              later.balances ++
                [change ⟨userId, walletAddress, 0, 0, 0⟩] } := by
  cases write with
  | update =>
      cases accepted
      exact Or.inl ⟨rfl, rfl⟩
  | insert walletAddress =>
      simp only [writeBalance] at accepted
      split at accepted
      · cases accepted
      · rename_i noneTaken
        cases accepted
        refine Or.inr ⟨walletAddress, ?_, rfl⟩
        intro row member same
        exact
          noneTaken
            (List.any_eq_true.mpr ⟨row, member, by simp [same]⟩)

/-- The balances after a movement: one row for each user, and its sum. -/
structure Balanced (ledger : Ledger) (userId : String) : Prop where
  oneRow : (ledger.balances.map Balance.userId).Nodup
  tallies : ∀ row ∈ ledger.balances, ledger.Tallies row
  hasRow : ∃ row ∈ ledger.balances, row.userId = userId

/-- A row that is moved with the movements of its user stays their sum. -/
theorem Tallies.moved
    {userId : String}
    {awarded spent : ℕ}
    (moves : ledger.Moves later userId awarded spent)
    {row : Balance}
    (tallies : ledger.Tallies row)
    (isUser : row.userId = userId) :
    later.Tallies (row.moved awarded spent) where
  awarded := by
    rw [moves.awardedTo]
    simp [Balance.moved, tallies.awarded, isUser]
  spent := by
    rw [moves.spentBy]
    simp [Balance.moved, tallies.spent, isUser]
  balance := by
    have before := tallies.balance
    simp only [Balance.moved]
    omega

theorem Tallies.others
    {userId : String}
    {awarded spent : ℕ}
    (moves : ledger.Moves later userId awarded spent)
    {row : Balance}
    (tallies : ledger.Tallies row)
    (notUser : row.userId ≠ userId) :
    later.Tallies row where
  awarded := by
    rw [moves.awardedTo, if_neg notUser]
    exact tallies.awarded
  spent := by
    rw [moves.spentBy, if_neg notUser]
    exact tallies.spent
  balance := tallies.balance

/-- The sums of the movements do not depend on the balance rows. -/
theorem Tallies.withBalances
    {row : Balance}
    (balances : List Balance)
    (tallies : ledger.Tallies row) :
    { ledger with balances := balances }.Tallies row :=
  ⟨tallies.awarded, tallies.spent, tallies.balance⟩

/-- Writing the balance of a movement brings the sums up to date. -/
theorem Conserved.balanced
    {userId : String}
    {awarded spent : ℕ}
    {write : BalanceWrite}
    (conserved : ledger.Conserved)
    (moves : ledger.Moves later userId awarded spent)
    (seen :
      write = .update → ∃ row ∈ ledger.balances, row.userId = userId)
    (accepted :
      later.writeBalance userId write (Balance.moved awarded spent) =
        .ok next) :
    next.awards = later.awards ∧ next.spends = later.spends ∧
      next.Balanced userId ∧
      ∀ row ∈ ledger.balances,
        ∃ kept ∈ next.balances, kept.userId = row.userId := by
  have keepsUser (row : Balance) :
      (if row.userId = userId then row.moved awarded spent
        else row).userId = row.userId := by
    split <;> rfl
  rcases writeBalance_cases accepted with
    ⟨isUpdate, rfl⟩ | ⟨walletAddress, noRow, rfl⟩
  · have sameIds :
        (later.balances.map fun row =>
            if row.userId = userId then row.moved awarded spent
            else row).map Balance.userId =
          ledger.balances.map Balance.userId := by
      rw [moves.sameBalances, List.map_map]
      exact List.map_congr_left fun row _ => keepsUser row
    have stays (row : Balance) (member : row ∈ ledger.balances) :
        ∃ kept ∈ later.balances.map fun row =>
            if row.userId = userId then row.moved awarded spent else row,
          kept.userId = row.userId := by
      rw [moves.sameBalances]
      exact ⟨_, List.mem_map_of_mem member, keepsUser row⟩
    obtain ⟨row, member, isUser⟩ := seen isUpdate
    obtain ⟨kept, keptMember, sameUser⟩ := stays row member
    refine ⟨rfl, rfl, ⟨?_, ?_, kept, keptMember, ?_⟩, stays⟩
    · exact sameIds ▸ conserved.oneRow
    · intro changed isChanged
      obtain ⟨original, isOriginal, rfl⟩ := List.mem_map.mp isChanged
      rw [moves.sameBalances] at isOriginal
      have tallied := conserved.tallies original isOriginal
      split
      · rename_i isUser
        exact (tallied.moved moves isUser).withBalances _
      · rename_i notUser
        exact (tallied.others moves notUser).withBalances _
    · exact sameUser.trans isUser
  · rw [moves.sameBalances] at noRow
    obtain ⟨noAwards, noSpends⟩ := conserved.nothing_of_noRow noRow
    have fresh : ledger.Tallies ⟨userId, walletAddress, 0, 0, 0⟩ :=
      ⟨noAwards.symm, noSpends.symm, rfl⟩
    refine ⟨rfl, rfl, ⟨?_, ?_, ?_⟩, ?_⟩
    · simp only [moves.sameBalances, List.map_append, List.nodup_append]
      refine ⟨conserved.oneRow, by simp, ?_⟩
      intro earlier member other single same
      obtain ⟨row, isRow, rfl⟩ := List.mem_map.mp member
      rw [List.map_singleton, List.mem_singleton] at single
      exact noRow row isRow (same.trans single)
    · intro row member
      rcases List.mem_append.mp member with earlier | added
      · rw [moves.sameBalances] at earlier
        exact
          ((conserved.tallies row earlier).others moves
            (noRow row earlier)).withBalances _
      · rw [List.mem_singleton.mp added]
        exact (fresh.moved moves rfl).withBalances _
    · exact ⟨_, List.mem_append_right _ (List.mem_singleton_self _), rfl⟩
    · intro row member
      rw [moves.sameBalances]
      exact ⟨row, List.mem_append_left _ member, rfl⟩

end Ledger

/-! ## One commit -/

namespace Ledger

variable {ledger later next : Ledger}
  {user : ProjectionUser} {balance : BalanceWrite}

/-- Inserting a user changes the users alone. -/
theorem insertUser_keeps (accepted : ledger.insertUser user = .ok next) :
    next = { ledger with users := next.users } := by
  cases user with
  | existing id =>
      simp only [insertUser] at accepted
      split at accepted
      · cases accepted
        rfl
      · cases accepted
  | created row =>
      obtain ⟨_, _, rfl⟩ := insertUser_eq_ok accepted
      rfl

/-- An award that is inserted has a new transaction hash. -/
theorem newHash_of_insertAward
    {award : Award}
    (accepted : ledger.insertAward award = .ok next) :
    ∀ other ∈ ledger.awards, other.txHash ≠ award.txHash := by
  unfold insertAward at accepted
  split at accepted
  · cases accepted
  split at accepted
  · cases accepted
  split at accepted
  · cases accepted
  · rename_i noneTaken
    intro other member same
    exact
      noneTaken (List.any_eq_true.mpr ⟨other, member, by simp [same]⟩)

/-- A spend that is inserted has a new transaction hash. -/
theorem newHash_of_insertSpend
    {spend : Spend}
    (accepted : ledger.insertSpend spend = .ok next) :
    ∀ other ∈ ledger.spends, other.txHash ≠ spend.txHash := by
  unfold insertSpend at accepted
  split at accepted
  · cases accepted
  · rename_i noneTaken
    intro other member same
    exact
      noneTaken (List.any_eq_true.mpr ⟨other, member, by simp [same]⟩)

/-- A new key is not among those that are there. -/
theorem nodup_concat
    {α β : Type}
    {key : α → β}
    {items : List α}
    {item : α}
    (distinct : (items.map key).Nodup)
    (newKey : ∀ other ∈ items, key other ≠ key item) :
    ((items ++ [item]).map key).Nodup := by
  rw [List.map_append, List.nodup_append]
  refine ⟨distinct, by simp, ?_⟩
  intro earlier member other single same
  obtain ⟨present, isPresent, rfl⟩ := List.mem_map.mp member
  rw [List.map_singleton, List.mem_singleton] at single
  exact newKey present isPresent (same.trans single)

/-- A ledger that has grown: it keeps its movements and its balance rows. -/
structure Extends (ledger later : Ledger) : Prop where
  awards : ledger.awards ⊆ later.awards
  spends : ledger.spends ⊆ later.spends
  rows :
    ∀ row ∈ ledger.balances,
      ∃ kept ∈ later.balances, kept.userId = row.userId

theorem Extends.refl (ledger : Ledger) : ledger.Extends ledger where
  awards := List.Subset.refl _
  spends := List.Subset.refl _
  rows := fun row member => ⟨row, member, rfl⟩

/-- A new award moves its amount to its user. -/
theorem moves_award (award : Award) (users : List User) :
    ledger.Moves
      { ledger with users := users, awards := ledger.awards ++ [award] }
      award.userId award.amount.units 0 where
  sameBalances := rfl
  awardedTo := by
    intro other
    simp only [awardedTo, List.filter_append, List.map_append,
      List.sum_append]
    by_cases isUser : award.userId = other
    · simp [isUser]
    · simp [isUser, Ne.symm isUser]
  spentBy := by
    intro other
    simp [spentBy]

/-- A new spend moves its amount from its user. -/
theorem moves_spend (spend : Spend) (users : List User) :
    ledger.Moves
      { ledger with users := users, spends := ledger.spends ++ [spend] }
      spend.userId 0 spend.amount.units where
  sameBalances := rfl
  awardedTo := by
    intro other
    simp [awardedTo]
  spentBy := by
    intro other
    simp only [spentBy, List.filter_append, List.map_append,
      List.sum_append]
    by_cases isUser : spend.userId = other
    · simp [isUser]
    · simp [isUser, Ne.symm isUser]

/-- Recording an award keeps the ledger conserved. -/
theorem Conserved.commitAward
    {award : Award}
    (conserved : ledger.Conserved)
    (own : award.userId = user.id)
    (seen :
      balance = .update → ∃ row ∈ ledger.balances, row.userId = user.id)
    (accepted : ledger.commitAward user award balance = .ok next) :
    next.Conserved ∧ ledger.Extends next := by
  unfold Ledger.commitAward at accepted
  obtain ⟨withUser, isUser, rest⟩ := Except.bind_eq_ok accepted
  obtain ⟨withAward, isAward, written⟩ := Except.bind_eq_ok rest
  have sameUser := insertUser_keeps isUser
  have newHash := newHash_of_insertAward isAward
  cases insertAward_eq_ok isAward
  rw [sameUser] at written newHash
  rw [Balance.award_eq_moved, ← own] at written
  rw [← own] at seen
  obtain ⟨sameAwards, sameSpends, balanced, stays⟩ :=
    conserved.balanced (moves_award award _) seen written
  refine
    ⟨⟨?_, ?_, balanced.oneRow, balanced.tallies, ?_, ?_⟩, ?_, ?_, stays⟩
  · rw [sameAwards]
    exact nodup_concat conserved.awardHashes newHash
  · rw [sameSpends]
    exact conserved.spendHashes
  · intro other member
    rw [sameAwards] at member
    rcases List.mem_append.mp member with earlier | added
    · obtain ⟨row, isRow, same⟩ := conserved.awardRows other earlier
      obtain ⟨kept, isKept, sameRow⟩ := stays row isRow
      exact ⟨kept, isKept, sameRow.trans same⟩
    · rw [List.mem_singleton.mp added]
      exact balanced.hasRow
  · intro spend member
    rw [sameSpends] at member
    obtain ⟨row, isRow, same⟩ := conserved.spendRows spend member
    obtain ⟨kept, isKept, sameRow⟩ := stays row isRow
    exact ⟨kept, isKept, sameRow.trans same⟩
  · rw [sameAwards]
    exact List.subset_append_left _ _
  · rw [sameSpends]
    exact List.Subset.refl _

/-- Recording a spend keeps the ledger conserved. -/
theorem Conserved.commitSpend
    {spend : Spend}
    (conserved : ledger.Conserved)
    (own : spend.userId = user.id)
    (seen :
      balance = .update → ∃ row ∈ ledger.balances, row.userId = user.id)
    (accepted : ledger.commitSpend user spend balance = .ok next) :
    next.Conserved ∧ ledger.Extends next := by
  unfold Ledger.commitSpend at accepted
  obtain ⟨withUser, isUser, rest⟩ := Except.bind_eq_ok accepted
  obtain ⟨withSpend, isSpend, written⟩ := Except.bind_eq_ok rest
  have sameUser := insertUser_keeps isUser
  have newHash := newHash_of_insertSpend isSpend
  cases insertSpend_eq_ok isSpend
  rw [sameUser] at written newHash
  rw [Balance.spend_eq_moved, ← own] at written
  rw [← own] at seen
  obtain ⟨sameAwards, sameSpends, balanced, stays⟩ :=
    conserved.balanced (moves_spend spend _) seen written
  refine
    ⟨⟨?_, ?_, balanced.oneRow, balanced.tallies, ?_, ?_⟩, ?_, ?_, stays⟩
  · rw [sameAwards]
    exact conserved.awardHashes
  · rw [sameSpends]
    exact nodup_concat conserved.spendHashes newHash
  · intro award member
    rw [sameAwards] at member
    obtain ⟨row, isRow, same⟩ := conserved.awardRows award member
    obtain ⟨kept, isKept, sameRow⟩ := stays row isRow
    exact ⟨kept, isKept, sameRow.trans same⟩
  · intro other member
    rw [sameSpends] at member
    rcases List.mem_append.mp member with earlier | added
    · obtain ⟨row, isRow, same⟩ := conserved.spendRows other earlier
      obtain ⟨kept, isKept, sameRow⟩ := stays row isRow
      exact ⟨kept, isKept, sameRow.trans same⟩
    · rw [List.mem_singleton.mp added]
      exact balanced.hasRow
  · rw [sameAwards]
    exact List.Subset.refl _
  · rw [sameSpends]
    exact List.subset_append_left _ _

end Ledger

end Sparkz
