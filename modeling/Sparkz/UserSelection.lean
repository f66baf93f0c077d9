import Mathlib.Data.List.Nodup
import Sparkz.SoloProjections
import Sparkz.UserWallets

namespace Sparkz

/-!
# Rows and selections

Each statement on `users` changes the rows of one contract.  What it does to the
selection of that contract is said next to it.
-/

/-- The active rows of a contract. -/
def activeRows (uid : String) (users : List User) : List User :=
  users.filter fun row => row.uid == uid && row.isActive

/-- Every contract that has rows has exactly one active row. -/
def OneActive (users : List User) : Prop :=
  ∀ row ∈ users, ∃ active, activeRows row.uid users = [active]

/-- The primary key of `users`. -/
def DistinctIds (users : List User) : Prop :=
  (users.map (·.id)).Nodup

namespace Ledger

/-- Rows of one contract may change; rows with a history stay. -/
structure Reselects (uid : String) (before after : Ledger) : Prop where
  distinct : DistinctIds after.users
  others :
    ∀ other,
      other ≠ uid →
      after.users.filter (·.uid == other) =
        before.users.filter (·.uid == other)
  history :
    ∀ userId,
      before.hasActivity userId = true →
      after.hasActivity userId = true
  keeps :
    ∀ row ∈ before.users,
      before.hasActivity row.id = true →
      ∃ later ∈ after.users,
        later.id = row.id ∧ later.uid = row.uid ∧
          later.walletAddress = row.walletAddress

namespace Reselects

variable {uid : String} {before middle after : Ledger}

theorem refl (distinct : DistinctIds before.users) :
    before.Reselects uid before where
  distinct := distinct
  others := fun _ _ => rfl
  history := fun _ active => active
  keeps := fun row member _ => ⟨row, member, rfl, rfl, rfl⟩

theorem trans
    (first : before.Reselects uid middle)
    (second : middle.Reselects uid after) :
    before.Reselects uid after where
  distinct := second.distinct
  others := fun other different => by
    rw [second.others other different, first.others other different]
  history := fun userId active =>
    second.history userId (first.history userId active)
  keeps := fun row member active => by
    obtain ⟨kept, keptMember, sameId, sameUid, sameWallet⟩ :=
      first.keeps row member active
    have keptActive : middle.hasActivity kept.id = true := by
      rw [sameId]
      exact first.history row.id active
    obtain ⟨later, laterMember, laterId, laterUid, laterWallet⟩ :=
      second.keeps kept keptMember keptActive
    exact
      ⟨later, laterMember, laterId.trans sameId,
        laterUid.trans sameUid, laterWallet.trans sameWallet⟩

/-- The active rows of the other contracts are the same. -/
theorem activeRows_other
    (reselects : before.Reselects uid after)
    {other : String}
    (different : other ≠ uid) :
    activeRows other after.users = activeRows other before.users := by
  have split (users : List User) :
      activeRows other users =
        (users.filter (·.uid == other)).filter (·.isActive) := by
    rw [List.filter_filter]
    unfold activeRows
    apply List.filter_congr
    intro row _
    exact Bool.and_comm _ _
  rw [split, split, reselects.others other different]

/-- It is enough to select an active row of the contract that changes. -/
theorem oneActive
    (reselects : before.Reselects uid after)
    (selected : OneActive before.users)
    (reselected :
      (∃ row ∈ after.users, row.uid = uid) →
      ∃ active, activeRows uid after.users = [active]) :
    OneActive after.users := by
  intro row member
  by_cases same : row.uid = uid
  · rw [same]
    exact reselected ⟨row, member, same⟩
  · have kept :
        row ∈ before.users.filter (·.uid == row.uid) := by
      rw [← reselects.others row.uid same]
      exact List.mem_filter.mpr ⟨member, beq_self_eq_true _⟩
    rw [reselects.activeRows_other same]
    exact selected row (List.mem_filter.mp kept).1

end Reselects

end Ledger

/-- A row is determined by its id. -/
theorem DistinctIds.eq_of_id
    {users : List User}
    (distinct : DistinctIds users)
    {first second : User}
    (firstMember : first ∈ users)
    (secondMember : second ∈ users)
    (sameId : first.id = second.id) :
    first = second :=
  List.inj_on_of_nodup_map distinct firstMember secondMember sameId

/-- A test that only one row passes selects that row. -/
theorem DistinctIds.filter_map_eq_singleton
    {users : List User}
    (distinct : DistinctIds users)
    {target : User}
    (member : target ∈ users)
    {change : User → User}
    {test : User → Bool}
    (passes : test (change target) = true)
    (others :
      ∀ row ∈ users, row.id ≠ target.id → test (change row) = false) :
    (users.map change).filter test = [change target] := by
  obtain ⟨older, newer, rfl⟩ := List.append_of_mem member
  unfold DistinctIds at distinct
  rw [List.map_append, List.map_cons, List.nodup_append] at distinct
  obtain ⟨_, tail, apart⟩ := distinct
  have olderNone : (older.map change).filter test = [] := by
    apply List.filter_eq_nil_iff.mpr
    intro changed changedMember
    obtain ⟨row, rowMember, rfl⟩ := List.mem_map.mp changedMember
    have different : row.id ≠ target.id :=
      apart row.id (List.mem_map_of_mem rowMember) target.id
        List.mem_cons_self
    rw [others row (List.mem_append_left _ rowMember) different]
    exact Bool.false_ne_true
  have newerNone : (newer.map change).filter test = [] := by
    apply List.filter_eq_nil_iff.mpr
    intro changed changedMember
    obtain ⟨row, rowMember, rfl⟩ := List.mem_map.mp changedMember
    have different : row.id ≠ target.id := by
      intro sameId
      apply (List.nodup_cons.mp tail).1
      rw [← sameId]
      exact List.mem_map_of_mem rowMember
    rw [others row
      (List.mem_append_right _ (List.mem_cons_of_mem _ rowMember))
      different]
    exact Bool.false_ne_true
  rw [List.map_append, List.map_cons, List.filter_append,
    List.filter_cons_of_pos passes, olderNone, newerNone]
  rfl

/-! ## The statements -/

namespace Ledger

variable {uid : String} {ledger next : Ledger}

/-- An update of the active column of one contract. -/
theorem reselects_map
    (distinct : DistinctIds ledger.users)
    {change : User → User}
    (same :
      ∀ row,
        (change row).id = row.id ∧ (change row).uid = row.uid ∧
          (change row).walletAddress = row.walletAddress)
    (untouched :
      ∀ row ∈ ledger.users, row.uid ≠ uid → change row = row) :
    ledger.Reselects uid
      { ledger with users := ledger.users.map change } where
  distinct := by
    have sameIds :
        (ledger.users.map change).map (·.id) =
          ledger.users.map (·.id) := by
      rw [List.map_map]
      exact List.map_congr_left fun row _ => (same row).1
    unfold DistinctIds
    rw [sameIds]
    exact distinct
  others := by
    intro other different
    have sameUid :
        ((·.uid == other) ∘ change) = (·.uid == other) := by
      funext row
      simp only [Function.comp, (same row).2.1]
    show (ledger.users.map change).filter (·.uid == other) = _
    rw [List.filter_map, sameUid]
    refine (List.map_congr_left fun row member => ?_).trans
      (List.map_id _)
    obtain ⟨member, isOther⟩ := List.mem_filter.mp member
    apply untouched row member
    rw [beq_iff_eq.mp isOther]
    exact different
  history := fun _ active => active
  keeps := fun row member _ =>
    ⟨change row, List.mem_map.mpr ⟨row, member, rfl⟩, same row⟩

theorem reselects_deactivateUid
    (distinct : DistinctIds ledger.users)
    (exceptId : Option String) :
    ledger.Reselects uid (ledger.deactivateUid uid exceptId) := by
  apply reselects_map distinct
  · intro row
    split <;> exact ⟨rfl, rfl, rfl⟩
  · intro row _ different
    exact if_neg fun both => different both.1

theorem reselects_deactivateRow
    (distinct : DistinctIds ledger.users)
    {target : User}
    (member : target ∈ ledger.users)
    (isUid : target.uid = uid) :
    ledger.Reselects uid (ledger.deactivateRow target.id) := by
  apply reselects_map distinct
  · intro row
    split <;> exact ⟨rfl, rfl, rfl⟩
  · intro row rowMember different
    apply if_neg
    intro sameId
    apply different
    rw [distinct.eq_of_id rowMember member sameId]
    exact isUid

theorem activateRow_eq_ok
    {target activated : User}
    (accepted : ledger.activateRow target = .ok (activated, next)) :
    (∀ other ∈ ledger.users,
      other.id ≠ target.id →
      other.uid = target.uid →
      other.isActive = false) ∧
    activated = { target with isActive := true } ∧
    next =
      { ledger with
        users :=
          ledger.users.map fun row =>
            if row.id = target.id then { row with isActive := true }
            else row } := by
  unfold activateRow at accepted
  split at accepted
  · cases accepted
  · rename_i noneActive
    cases accepted
    refine ⟨fun other member different sameUid => ?_, rfl, rfl⟩
    simp only [List.any_eq_true, Bool.and_eq_true, bne_iff_ne, ne_eq,
      beq_iff_eq, not_exists, not_and, and_imp] at noneActive
    exact Bool.eq_false_iff.mpr
      (noneActive other member different sameUid)

theorem reselects_activateRow
    (distinct : DistinctIds ledger.users)
    {target activated : User}
    (member : target ∈ ledger.users)
    (isUid : target.uid = uid)
    (accepted : ledger.activateRow target = .ok (activated, next)) :
    ledger.Reselects uid next ∧
      activeRows uid next.users = [activated] := by
  obtain ⟨noneActive, rfl, rfl⟩ := activateRow_eq_ok accepted
  constructor
  · apply reselects_map distinct
    · intro row
      split <;> exact ⟨rfl, rfl, rfl⟩
    · intro row rowMember different
      apply if_neg
      intro sameId
      apply different
      rw [distinct.eq_of_id rowMember member sameId]
      exact isUid
  · unfold activeRows
    refine
      (distinct.filter_map_eq_singleton member ?_ ?_).trans ?_
    · simp [isUid]
    · intro row rowMember different
      by_cases sameUid : row.uid = uid
      · have inactive :=
          noneActive row rowMember different (sameUid.trans isUid.symm)
        simp [different, inactive]
      · simp [different, sameUid]
    · simp

theorem insertUser_eq_ok
    {row : User}
    (accepted : ledger.insertUser (.created row) = .ok next) :
    (∀ other ∈ ledger.users, other.id ≠ row.id) ∧
    (row.isActive = true →
      ∀ other ∈ ledger.users,
        other.uid = row.uid → other.isActive = false) ∧
    next = { ledger with users := ledger.users ++ [row] } := by
  simp only [insertUser] at accepted
  split at accepted
  · cases accepted
  split at accepted
  · cases accepted
  split at accepted
  · cases accepted
  · rename_i fresh _ noneActive
    cases accepted
    refine ⟨?_, ?_, rfl⟩
    · simpa using fresh
    · intro isActive other member sameUid
      simp only [isActive, Bool.true_and, List.any_eq_true,
        Bool.and_eq_true, beq_iff_eq, not_exists, not_and] at noneActive
      exact Bool.eq_false_iff.mpr (noneActive other member sameUid)

theorem reselects_insertUser
    (distinct : DistinctIds ledger.users)
    {row : User}
    (isUid : row.uid = uid)
    (accepted : ledger.insertUser (.created row) = .ok next) :
    ledger.Reselects uid next := by
  obtain ⟨fresh, _, rfl⟩ := insertUser_eq_ok accepted
  refine ⟨?_, ?_, fun _ active => active, ?_⟩
  · unfold DistinctIds
    rw [List.map_append, List.nodup_append]
    refine ⟨distinct, List.nodup_singleton _, ?_⟩
    intro first firstMember second secondMember
    obtain ⟨other, member, rfl⟩ := List.mem_map.mp firstMember
    simp only [List.map_cons, List.map_nil, List.mem_singleton]
      at secondMember
    rw [secondMember]
    exact fresh other member
  · intro other different
    have apart : (row.uid == other) = false := by
      rw [isUid]
      exact beq_false_of_ne different.symm
    simp [List.filter_append, apart]
  · intro kept member _
    exact ⟨kept, List.mem_append_left _ member, rfl, rfl, rfl⟩

/-- An active row that is inserted is the active row. -/
theorem activeRows_insertUser
    {row : User}
    (isUid : row.uid = uid)
    (isActive : row.isActive = true)
    (accepted : ledger.insertUser (.created row) = .ok next) :
    activeRows uid next.users = [row] := by
  obtain ⟨_, noneActive, rfl⟩ := insertUser_eq_ok accepted
  have before : activeRows uid ledger.users = [] := by
    apply List.filter_eq_nil_iff.mpr
    intro other member both
    simp only [Bool.and_eq_true, beq_iff_eq] at both
    rw [noneActive isActive other member (both.1.trans isUid.symm)]
      at both
    exact Bool.false_ne_true both.2
  unfold activeRows at before ⊢
  rw [List.filter_append, before]
  simp [isUid, isActive]

/-- An inactive row that is inserted changes no selection. -/
theorem activeRows_insertInactive
    {row : User}
    (isInactive : row.isActive = false)
    (accepted : ledger.insertUser (.created row) = .ok next) :
    activeRows uid next.users = activeRows uid ledger.users := by
  obtain ⟨_, _, rfl⟩ := insertUser_eq_ok accepted
  unfold activeRows
  rw [List.filter_append]
  simp [isInactive]

theorem hasActivity_of_deleteRow
    {id : String}
    (idle : ledger.hasActivity id = false) :
    (ledger.deleteRow id).awards = ledger.awards ∧
      (ledger.deleteRow id).spends = ledger.spends ∧
      (ledger.deleteRow id).balances = ledger.balances := by
  simp only [hasActivity, Bool.or_eq_false_iff, List.any_eq_false,
    beq_iff_eq] at idle
  obtain ⟨⟨awards, spends⟩, balances⟩ := idle
  refine ⟨?_, ?_, ?_⟩
  · exact List.filter_eq_self.mpr fun row member =>
      bne_iff_ne.mpr (awards row member)
  · exact List.filter_eq_self.mpr fun row member =>
      bne_iff_ne.mpr (spends row member)
  · exact List.filter_eq_self.mpr fun row member =>
      bne_iff_ne.mpr (balances row member)

/-- Deleting a row without history removes that row and nothing else. -/
theorem reselects_deleteRow
    (distinct : DistinctIds ledger.users)
    {target : User}
    (member : target ∈ ledger.users)
    (isUid : target.uid = uid)
    (idle : ledger.hasActivity target.id = false) :
    ledger.Reselects uid (ledger.deleteRow target.id) := by
  obtain ⟨sameAwards, sameSpends, sameBalances⟩ :=
    hasActivity_of_deleteRow idle
  refine ⟨?_, ?_, ?_, ?_⟩
  · exact distinct.sublist (List.filter_sublist.map _)
  · intro other different
    show (ledger.users.filter _).filter _ = _
    rw [List.filter_filter]
    apply List.filter_congr
    intro row rowMember
    by_cases sameId : row.id = target.id
    · rw [distinct.eq_of_id rowMember member sameId, isUid]
      simp [different.symm]
    · simp [sameId]
  · intro userId active
    unfold hasActivity
    rw [sameAwards, sameSpends, sameBalances]
    exact active
  · intro row rowMember active
    refine ⟨row, List.mem_filter.mpr ⟨rowMember, ?_⟩, rfl, rfl, rfl⟩
    apply bne_iff_ne.mpr
    intro sameId
    rw [sameId, idle] at active
    exact Bool.false_ne_true active

/-- Deleting an inactive row changes no selection. -/
theorem activeRows_deleteRow
    (distinct : DistinctIds ledger.users)
    {target : User}
    (member : target ∈ ledger.users)
    (isInactive : target.isActive = false) :
    activeRows uid (ledger.deleteRow target.id).users =
      activeRows uid ledger.users := by
  unfold activeRows deleteRow
  rw [List.filter_filter]
  apply List.filter_congr
  intro row rowMember
  by_cases sameId : row.id = target.id
  · rw [distinct.eq_of_id rowMember member sameId, isInactive]
    simp
  · simp [sameId]

end Ledger

namespace ProjectionUser.Resolves

variable {uid : String} {ledger next : Ledger} {user : ProjectionUser}

theorem reselects
    (resolves : user.Resolves uid ledger)
    (distinct : DistinctIds ledger.users)
    (accepted : ledger.insertUser user = .ok next) :
    ledger.Reselects uid next := by
  cases user with
  | existing id =>
      simp only [Ledger.insertUser] at accepted
      split at accepted
      · cases accepted
        exact .refl distinct
      · cases accepted
  | created row =>
      exact Ledger.reselects_insertUser distinct resolves.1 accepted

/-- The first row of a contract is active, and no later one is. -/
theorem oneActive
    (resolves : user.Resolves uid ledger)
    (distinct : DistinctIds ledger.users)
    (accepted : ledger.insertUser user = .ok next)
    (selected : OneActive ledger.users) :
    OneActive next.users := by
  apply (resolves.reselects distinct accepted).oneActive selected
  cases user with
  | existing id =>
      simp only [Ledger.insertUser] at accepted
      split at accepted
      · cases accepted
        rintro ⟨row, member, rfl⟩
        exact selected row member
      · cases accepted
  | created row =>
      obtain ⟨isUid, isFirst⟩ := resolves
      intro _
      cases isActive : row.isActive with
      | true =>
          exact
            ⟨row, Ledger.activeRows_insertUser isUid isActive accepted⟩
      | false =>
          have hasRows : ∃ other ∈ ledger.users, other.uid = uid := by
            by_contra none
            push Not at none
            rw [isFirst.mpr none] at isActive
            cases isActive
          obtain ⟨other, member, rfl⟩ := hasRows
          rw [Ledger.activeRows_insertInactive isActive accepted]
          exact selected other member

end ProjectionUser.Resolves

/-! ## Projections -/

theorem Ledger.insertAward_eq_ok
    {ledger next : Ledger}
    {award : Award}
    (accepted : ledger.insertAward award = .ok next) :
    next = { ledger with awards := ledger.awards ++ [award] } := by
  unfold Ledger.insertAward at accepted
  split at accepted
  · cases accepted
  split at accepted
  · cases accepted
  split at accepted
  · cases accepted
  · cases accepted
    rfl

theorem Ledger.insertSpend_eq_ok
    {ledger next : Ledger}
    {spend : Spend}
    (accepted : ledger.insertSpend spend = .ok next) :
    next = { ledger with spends := ledger.spends ++ [spend] } := by
  unfold Ledger.insertSpend at accepted
  split at accepted
  · cases accepted
  · cases accepted
    rfl

namespace Ledger

variable {ledger next : Ledger} {balance : BalanceWrite}

/-- Writing a balance row keeps the users and every balance row. -/
theorem writeBalance_eq_ok
    {userId : String}
    {change : Balance → Balance}
    (accepted :
      ledger.writeBalance userId balance change = .ok next)
    (sameUser : ∀ row, (change row).userId = row.userId) :
    next.users = ledger.users ∧ next.awards = ledger.awards ∧
      next.spends = ledger.spends ∧
      ∀ row ∈ ledger.balances,
        ∃ later ∈ next.balances, later.userId = row.userId := by
  cases balance with
  | update =>
      cases accepted
      refine ⟨rfl, rfl, rfl, fun row member => ?_⟩
      refine ⟨_, List.mem_map_of_mem member, ?_⟩
      split
      · exact sameUser row
      · rfl
  | insert walletAddress =>
      simp only [writeBalance] at accepted
      split at accepted
      · cases accepted
      · cases accepted
        exact
          ⟨rfl, rfl, rfl, fun row member =>
            ⟨row, List.mem_append_left _ member, rfl⟩⟩

/-- A history only grows when rows are only added. -/
theorem hasActivity_grows
    (awards : ledger.awards ⊆ next.awards)
    (spends : ledger.spends ⊆ next.spends)
    (balances :
      ∀ row ∈ ledger.balances,
        ∃ later ∈ next.balances, later.userId = row.userId)
    {userId : String}
    (active : ledger.hasActivity userId = true) :
    next.hasActivity userId = true := by
  simp only [hasActivity, Bool.or_eq_true, List.any_eq_true,
    beq_iff_eq] at active ⊢
  rcases active with
    (⟨award, member, isUser⟩ | ⟨spend, member, isUser⟩) |
      ⟨row, member, isUser⟩
  · exact Or.inl (Or.inl ⟨award, awards member, isUser⟩)
  · exact Or.inl (Or.inr ⟨spend, spends member, isUser⟩)
  · obtain ⟨later, laterMember, sameUser⟩ := balances row member
    exact Or.inr ⟨later, laterMember, sameUser.trans isUser⟩

/-- A projection inserts its user and keeps every history. -/
theorem commitAward_eq_ok
    {user : ProjectionUser}
    {award : Award}
    (accepted : ledger.commitAward user award balance = .ok next) :
    ∃ withUser,
      ledger.insertUser user = .ok withUser ∧
        next.users = withUser.users ∧
        ∀ userId,
          withUser.hasActivity userId = true →
          next.hasActivity userId = true := by
  unfold commitAward at accepted
  obtain ⟨withUser, inserted, accepted⟩ :=
    Except.bind_eq_ok accepted
  obtain ⟨withAward, recorded, accepted⟩ :=
    Except.bind_eq_ok accepted
  cases insertAward_eq_ok recorded
  obtain ⟨sameUsers, sameAwards, sameSpends, keptBalances⟩ :=
    writeBalance_eq_ok accepted fun _ => rfl
  refine ⟨withUser, inserted, sameUsers, fun userId => ?_⟩
  apply hasActivity_grows
  · rw [sameAwards]
    exact List.subset_append_left _ _
  · rw [sameSpends]
    exact List.Subset.refl _
  · exact keptBalances

theorem commitSpend_eq_ok
    {user : ProjectionUser}
    {spend : Spend}
    (accepted : ledger.commitSpend user spend balance = .ok next) :
    ∃ withUser,
      ledger.insertUser user = .ok withUser ∧
        next.users = withUser.users ∧
        ∀ userId,
          withUser.hasActivity userId = true →
          next.hasActivity userId = true := by
  unfold commitSpend at accepted
  obtain ⟨withUser, inserted, accepted⟩ :=
    Except.bind_eq_ok accepted
  obtain ⟨withSpend, recorded, accepted⟩ :=
    Except.bind_eq_ok accepted
  cases insertSpend_eq_ok recorded
  obtain ⟨sameUsers, sameAwards, sameSpends, keptBalances⟩ :=
    writeBalance_eq_ok accepted fun _ => rfl
  refine ⟨withUser, inserted, sameUsers, fun userId => ?_⟩
  apply hasActivity_grows
  · rw [sameAwards]
    exact List.Subset.refl _
  · rw [sameSpends]
    exact List.subset_append_left _ _
  · exact keptBalances

/-- Recording a movement keeps one active row for its contract. -/
theorem Records.preserves
    {uid : String}
    (records : ledger.Records uid next)
    (distinct : DistinctIds ledger.users) :
    ledger.Reselects uid next ∧
      (OneActive ledger.users → OneActive next.users) := by
  have committed
      {user : ProjectionUser}
      {withUser : Ledger}
      (resolves : user.Resolves uid ledger)
      (inserted : ledger.insertUser user = .ok withUser)
      (sameUsers : next.users = withUser.users)
      (grows :
        ∀ userId,
          withUser.hasActivity userId = true →
          next.hasActivity userId = true) :
      ledger.Reselects uid next ∧
        (OneActive ledger.users → OneActive next.users) := by
    have first := resolves.reselects distinct inserted
    rw [sameUsers]
    refine
      ⟨first.trans ⟨?_, ?_, grows, ?_⟩,
        resolves.oneActive distinct inserted⟩
    · rw [sameUsers]
      exact first.distinct
    · intro other _
      rw [sameUsers]
    · intro row member _
      rw [sameUsers]
      exact ⟨row, member, rfl, rfl, rfl⟩
  cases records with
  | found =>
      exact ⟨.refl distinct, id⟩
  | award resolves accepted =>
      obtain ⟨withUser, inserted, sameUsers, grows⟩ :=
        commitAward_eq_ok accepted
      exact committed resolves inserted sameUsers grows
  | spend resolves accepted =>
      obtain ⟨withUser, inserted, sameUsers, grows⟩ :=
        commitSpend_eq_ok accepted
      exact committed resolves inserted sameUsers grows

end Ledger

end Sparkz
