import Mathlib.Logic.Relation
import Sparkz.UserSelection

namespace Sparkz

/-!
# One active wallet

However the wallets of a contract are created, selected, unlinked and deleted,
one of its rows is active, and rows with a history stay.
-/

/-! ## The calls -/

theorem Database.userOfWallet_eq_some
    {database : Database}
    {uid walletAddress : String}
    {row : User}
    (found : database.userOfWallet uid walletAddress = some row) :
    row ∈ database.ledger.users ∧ row.uid = uid ∧
      lowerText row.walletAddress = lowerText walletAddress := by
  refine ⟨List.mem_of_find?_eq_some found, ?_⟩
  have passes := List.find?_some found
  simpa using passes

namespace WalletTables

variable {platform : Platform} {newId uid walletAddress : String}
  {walletName : Option String} {tables next : WalletTables}

/-- The rows of `users`. -/
def users (tables : WalletTables) : List User :=
  tables.database.ledger.users

/-- What a call on one contract guarantees. -/
structure Preserves
    (uid : String)
    (tables next : WalletTables) :
    Prop where
  reselects :
    tables.database.ledger.Reselects uid next.database.ledger
  oneActive : OneActive tables.users → OneActive next.users

theorem ensureManagedWallet_selects
    {active : User}
    (distinct : DistinctIds tables.users)
    (accepted :
      tables.ensureManagedWallet platform newId uid =
        .ok (active, next)) :
    tables.database.ledger.Reselects uid next.database.ledger ∧
      activeRows uid next.users = [active] ∧
      lowerText active.walletAddress =
        lowerText (platform.getManagedWalletAddress (jsString uid)) := by
  have inactive :
      tables.database.ledger.Reselects uid
        (tables.database.ledger.deactivateUid uid none) :=
    Ledger.reselects_deactivateUid distinct none
  simp only [ensureManagedWallet] at accepted
  split at accepted
  · rename_i existing found
    obtain ⟨member, isUid, isManaged⟩ :=
      Database.userOfWallet_eq_some found
    obtain ⟨⟨activated, ledger⟩, selected, same⟩ :=
      Except.map_eq_ok accepted
    cases same
    obtain ⟨reselects, isActive⟩ :=
      Ledger.reselects_activateRow inactive.distinct member isUid
        selected
    obtain ⟨_, rfl, _⟩ := Ledger.activateRow_eq_ok selected
    exact ⟨inactive.trans reselects, isActive, isManaged⟩
  · obtain ⟨ledger, inserted, same⟩ := Except.map_eq_ok accepted
    cases same
    exact
      ⟨inactive.trans
          (Ledger.reselects_insertUser inactive.distinct rfl inserted),
        Ledger.activeRows_insertUser rfl rfl inserted, rfl⟩

theorem create_preserves
    {row : User}
    (distinct : DistinctIds tables.users)
    (accepted :
      tables.create newId uid walletAddress walletName =
        .ok (row, next)) :
    tables.Preserves uid next := by
  unfold create at accepted
  split at accepted
  · cases accepted
    exact ⟨.refl distinct, id⟩
  · obtain ⟨ledger, inserted, same⟩ := Except.map_eq_ok accepted
    cases same
    have resolves :
        ProjectionUser.Resolves uid tables.database.ledger
          (.created
            { id := newId
              uid := uid
              walletAddress := walletAddress
              walletName := orNull walletName
              isActive :=
                (tables.database.userOfUid uid).isNone }) :=
      ⟨rfl, Database.userOfUid_isNone⟩
    exact
      ⟨resolves.reselects distinct inserted,
        resolves.oneActive distinct inserted⟩

theorem addLinkedWallet_database
    (accepted :
      tables.addLinkedWallet uid walletAddress walletName = .ok next) :
    next.database = tables.database := by
  unfold addLinkedWallet at accepted
  split at accepted
  · cases accepted
    rfl
  split at accepted
  · cases accepted
  split at accepted
  · cases accepted
  · cases accepted
    rfl

theorem linkLinkedWallet_preserves
    {row : User}
    (distinct : DistinctIds tables.users)
    (accepted :
      tables.linkLinkedWallet newId uid walletAddress walletName =
        .ok (row, next)) :
    tables.Preserves uid next := by
  unfold linkLinkedWallet at accepted
  cases added : tables.addLinkedWallet uid walletAddress walletName with
  | error error =>
      rw [added] at accepted
      cases accepted
  | ok linked =>
      rw [added] at accepted
      have sameDatabase := addLinkedWallet_database added
      have sameUsers : linked.users = tables.users := by
        unfold users
        rw [sameDatabase]
      rw [← sameUsers] at distinct
      have preserves : linked.Preserves uid next :=
        create_preserves distinct accepted
      refine ⟨?_, ?_⟩
      · rw [← sameDatabase]
        exact preserves.reselects
      · rw [← sameUsers]
        exact preserves.oneActive

theorem activateWallet_preserves
    {row : User}
    (distinct : DistinctIds tables.users)
    (accepted :
      tables.activateWallet newId uid walletAddress walletName =
        .ok (row, next)) :
    tables.Preserves uid next := by
  unfold activateWallet at accepted
  split at accepted
  · rename_i existing found
    obtain ⟨member, isUid, _⟩ := Database.userOfWallet_eq_some found
    obtain ⟨⟨activated, ledger⟩, selected, same⟩ :=
      Except.map_eq_ok accepted
    cases same
    have inactive :
        tables.database.ledger.Reselects uid
          (tables.database.ledger.deactivateUid uid
            (some existing.id)) :=
      Ledger.reselects_deactivateUid distinct _
    have stays :
        existing ∈
          (tables.database.ledger.deactivateUid uid
            (some existing.id)).users :=
      List.mem_map.mpr ⟨existing, member, by simp⟩
    obtain ⟨reselects, isActive⟩ :=
      Ledger.reselects_activateRow inactive.distinct stays isUid
        selected
    have both := inactive.trans reselects
    exact
      ⟨both, fun before => both.oneActive before fun _ => ⟨_, isActive⟩⟩
  · obtain ⟨ledger, inserted, same⟩ := Except.map_eq_ok accepted
    cases same
    have inactive :
        tables.database.ledger.Reselects uid
          (tables.database.ledger.deactivateUid uid none) :=
      Ledger.reselects_deactivateUid distinct _
    have both :=
      inactive.trans
        (Ledger.reselects_insertUser inactive.distinct rfl inserted)
    have isActive := Ledger.activeRows_insertUser rfl rfl inserted
    exact
      ⟨both, fun before => both.oneActive before fun _ => ⟨_, isActive⟩⟩

/-- Retiring a row keeps it when it has a history. -/
theorem retire_reselects
    {existing : User}
    (distinct : DistinctIds tables.users)
    (member : existing ∈ tables.users)
    (isUid : existing.uid = uid) :
    tables.database.ledger.Reselects uid
      (tables.retire existing).2.database.ledger := by
  unfold retire
  split
  · split
    · exact Ledger.reselects_deactivateRow distinct member isUid
    · exact .refl distinct
  · rename_i idle
    exact
      Ledger.reselects_deleteRow distinct member isUid
        (Bool.eq_false_iff.mpr idle)

/-- Retiring an inactive row changes no selection. -/
theorem retire_inactive
    {existing : User}
    (distinct : DistinctIds tables.users)
    (member : existing ∈ tables.users)
    (isInactive : existing.isActive = false) :
    activeRows uid (tables.retire existing).2.users =
      activeRows uid tables.users := by
  unfold retire
  split
  · rw [if_neg (Bool.eq_false_iff.mp isInactive)]
  · exact Ledger.activeRows_deleteRow distinct member isInactive

/-- The deterministic wallet of a contract is its active row. -/
def ManagedActive
    (platform : Platform)
    (uid : String)
    (tables : WalletTables) :
    Prop :=
  ∃ active,
    activeRows uid tables.users = [active] ∧
      lowerText active.walletAddress =
        lowerText (platform.getManagedWalletAddress (jsString uid))

variable (newId tables) in
/-- A row that leaves the selection hands over to the managed wallet. -/
theorem retire_preserves
    {existing : User}
    (distinct : DistinctIds tables.users)
    (member : existing ∈ tables.users)
    (isUid : existing.uid = uid)
    (ended :
      existing.isActive = true ∧
          (∃ active,
            (tables.retire existing).2.ensureManagedWallet platform
              newId uid = .ok (active, next)) ∨
        existing.isActive = false ∧
          next = (tables.retire existing).2) :
    tables.Preserves uid next ∧
      (existing.isActive = true → ManagedActive platform uid next) := by
  have retired := retire_reselects distinct member isUid
  rcases ended with ⟨isActive, active, ensured⟩ | ⟨isInactive, rfl⟩
  · obtain ⟨reselects, selected, isManaged⟩ :=
      ensureManagedWallet_selects retired.distinct ensured
    have both := retired.trans reselects
    exact
      ⟨⟨both, fun before => both.oneActive before fun _ =>
          ⟨active, selected⟩⟩,
        fun _ => ⟨active, selected, isManaged⟩⟩
  · refine ⟨⟨retired, fun before => ?_⟩, fun isActive => ?_⟩
    · apply retired.oneActive before
      intro _
      obtain ⟨active, selected⟩ := before existing member
      rw [isUid] at selected
      refine ⟨active, ?_⟩
      have same :
          activeRows uid (tables.retire existing).2.users =
            activeRows uid tables.users :=
        retire_inactive distinct member isInactive
      exact same.trans selected
    · rw [isInactive] at isActive
      cases isActive

theorem deleteByUidAndWallet_preserves
    {deleted : Nat}
    (distinct : DistinctIds tables.users)
    (accepted :
      tables.deleteByUidAndWallet platform newId uid walletAddress =
        .ok (deleted, next)) :
    tables.Preserves uid next ∧
      ∀ existing,
        tables.database.userOfWallet uid walletAddress =
            some existing →
        existing.isActive = true →
        ManagedActive platform uid next := by
  simp only [deleteByUidAndWallet] at accepted
  split at accepted
  · rename_i absent
    cases accepted
    refine ⟨⟨.refl distinct, id⟩, fun existing found => ?_⟩
    rw [absent] at found
    cases found
  · rename_i existing found
    obtain ⟨member, isUid, _⟩ := Database.userOfWallet_eq_some found
    have preserved :
        tables.Preserves uid next ∧
          (existing.isActive = true →
            ManagedActive platform uid next) := by
      refine retire_preserves newId tables distinct member isUid ?_
      split at accepted
      · rename_i isActive
        obtain ⟨⟨active, after⟩, ensured, same⟩ :=
          Except.map_eq_ok accepted
        obtain rfl : after = next := congrArg Prod.snd same
        exact Or.inl ⟨isActive, active, ensured⟩
      · rename_i notActive
        have ended := congrArg Prod.snd (Except.ok.inj accepted)
        exact Or.inr ⟨Bool.eq_false_iff.mpr notActive, ended.symm⟩
    refine ⟨preserved.1, fun other otherFound => ?_⟩
    rw [found] at otherFound
    cases otherFound
    exact preserved.2

theorem unlinkLinkedWallet_preserves
    {unlinked : Unlinked}
    (distinct : DistinctIds tables.users)
    (accepted :
      tables.unlinkLinkedWallet platform newId uid walletAddress =
        .ok (unlinked, next)) :
    tables.Preserves uid next ∧
      ∀ existing,
        tables.database.userOfWallet uid walletAddress =
            some existing →
        existing.isActive = true →
        lowerText existing.walletAddress ≠
          lowerText (platform.getManagedWalletAddress (jsString uid)) →
        ManagedActive platform uid next := by
  simp only [unlinkLinkedWallet] at accepted
  split at accepted
  · rename_i absent
    cases accepted
    refine ⟨⟨.refl distinct, id⟩, fun existing found => ?_⟩
    cases absent.symm.trans found
  · rename_i existing found
    obtain ⟨member, isUid, _⟩ := Database.userOfWallet_eq_some found
    split at accepted
    · rename_i nothingToDo
      cases accepted
      refine ⟨⟨.refl distinct, id⟩, fun other otherFound => ?_⟩
      obtain rfl : existing = other :=
        Option.some.inj (found.symm.trans otherFound)
      intro isActive isExternal
      simp [isActive, isExternal] at nothingToDo
    · have preserved :
          tables.Preserves uid next ∧
            (existing.isActive = true →
              ManagedActive platform uid next) := by
        have retired :
            (tables.removeLink uid walletAddress).2.Preserves uid next ∧
              (existing.isActive = true →
                ManagedActive platform uid next) := by
          refine
            retire_preserves newId (tables.removeLink uid walletAddress).2
              distinct member isUid ?_
          split at accepted
          · rename_i isActive
            obtain ⟨⟨active, after⟩, ensured, same⟩ :=
              Except.map_eq_ok accepted
            obtain rfl : after = next := congrArg Prod.snd same
            exact Or.inl ⟨isActive, active, ensured⟩
          · rename_i notActive
            have ended := congrArg Prod.snd (Except.ok.inj accepted)
            exact
              Or.inr ⟨Bool.eq_false_iff.mpr notActive, ended.symm⟩
        exact ⟨⟨retired.1.reselects, retired.1.oneActive⟩, retired.2⟩
      refine ⟨preserved.1, fun other otherFound isActive _ => ?_⟩
      obtain rfl : existing = other :=
        Option.some.inj (found.symm.trans otherFound)
      exact preserved.2 isActive

end WalletTables

/-! ## Runs -/

theorem WalletCall.run.returned_eq_ok {α : Type}
    {answer : Except StoreError (α × WalletTables)}
    {next : WalletTables}
    (ran : WalletCall.run.returned answer = .ok next) :
    ∃ value, answer = .ok (value, next) := by
  cases answer with
  | error error =>
      cases ran
  | ok ended =>
      cases ran
      exact ⟨ended.1, rfl⟩

theorem WalletCall.run.projected_eq_ok {α : Type}
    {tables next : WalletTables}
    {ended : Except Failure α × Database}
    (ran : WalletCall.run.projected tables ended = .ok next) :
    ∃ value database,
      ended = (.ok value, database) ∧
        next = { tables with database := database } := by
  rcases ended with ⟨result, database⟩
  cases result with
  | error failure =>
      cases ran
  | ok value =>
      cases ran
      exact ⟨value, database, rfl, rfl⟩

/-- Some call on one contract keeps one active row for every contract. -/
theorem WalletStep.preserves
    {platform : Platform}
    {tables next : WalletTables}
    (step : WalletStep platform tables next)
    (distinct : DistinctIds tables.users) :
    ∃ uid, tables.Preserves uid next := by
  cases step with
  | thrown =>
      exact ⟨"", .refl distinct, id⟩
  | @returned _ newId call ran =>
      cases call with
      | create uid walletAddress walletName =>
          obtain ⟨row, accepted⟩ := WalletCall.run.returned_eq_ok ran
          exact ⟨uid, WalletTables.create_preserves distinct accepted⟩
      | linkLinkedWallet uid walletAddress walletName =>
          obtain ⟨row, accepted⟩ := WalletCall.run.returned_eq_ok ran
          exact
            ⟨uid,
              WalletTables.linkLinkedWallet_preserves distinct accepted⟩
      | activateWallet uid walletAddress walletName =>
          obtain ⟨row, accepted⟩ := WalletCall.run.returned_eq_ok ran
          exact
            ⟨uid,
              WalletTables.activateWallet_preserves distinct accepted⟩
      | deleteByUidAndWallet uid walletAddress =>
          obtain ⟨deleted, accepted⟩ :=
            WalletCall.run.returned_eq_ok ran
          exact
            ⟨uid,
              (WalletTables.deleteByUidAndWallet_preserves distinct
                accepted).1⟩
      | unlinkLinkedWallet uid walletAddress =>
          obtain ⟨unlinked, accepted⟩ :=
            WalletCall.run.returned_eq_ok ran
          exact
            ⟨uid,
              (WalletTables.unlinkLinkedWallet_preserves distinct
                accepted).1⟩
      | recordAward data =>
          obtain ⟨award, database, recorded, rfl⟩ :=
            WalletCall.run.projected_eq_ok ran
          obtain ⟨reselects, oneActive⟩ :=
            (records_recordAward recorded).preserves distinct
          exact ⟨data.normalised.uid, reselects, oneActive⟩
      | recordSpend data hasUid =>
          obtain ⟨_, database, recorded, rfl⟩ :=
            WalletCall.run.projected_eq_ok ran
          obtain ⟨uid, isUid⟩ := JsString.truthy_iff.mp hasUid
          obtain ⟨reselects, oneActive⟩ :=
            (records_recordSpend isUid recorded).preserves distinct
          exact ⟨uid.encoded, reselects, oneActive⟩

/-- The tables after any calls, one after the other. -/
abbrev WalletRun (platform : Platform) :
    WalletTables → WalletTables → Prop :=
  Relation.ReflTransGen (WalletStep platform)

/-- A row with a history is still there, for the same wallet. -/
def WalletTables.KeepsHistories (before after : WalletTables) : Prop :=
  ∀ row ∈ before.users,
    before.database.ledger.hasActivity row.id = true →
    ∃ later ∈ after.users,
      later.id = row.id ∧ later.uid = row.uid ∧
        later.walletAddress = row.walletAddress ∧
        after.database.ledger.hasActivity later.id = true

theorem WalletTables.Preserves.keepsHistories
    {uid : String}
    {before after : WalletTables}
    (preserves : before.Preserves uid after) :
    before.KeepsHistories after := by
  intro row member active
  obtain ⟨later, laterMember, sameId, sameUid, sameWallet⟩ :=
    preserves.reselects.keeps row member active
  refine ⟨later, laterMember, sameId, sameUid, sameWallet, ?_⟩
  rw [sameId]
  exact preserves.reselects.history row.id active

/-- Runs keep ids distinct, selections unique and histories in place. -/
theorem WalletRun.preserves
    {platform : Platform}
    {before after : WalletTables}
    (run : WalletRun platform before after)
    (distinct : DistinctIds before.users) :
    DistinctIds after.users ∧
      (OneActive before.users → OneActive after.users) ∧
      before.KeepsHistories after := by
  induction run with
  | refl =>
      exact
        ⟨distinct, id, fun row member active =>
          ⟨row, member, rfl, rfl, rfl, active⟩⟩
  | tail _ step inductionHypothesis =>
      obtain ⟨middleDistinct, oneActive, keeps⟩ := inductionHypothesis
      obtain ⟨uid, preserves⟩ := step.preserves middleDistinct
      refine
        ⟨preserves.reselects.distinct,
          fun selected => preserves.oneActive (oneActive selected), ?_⟩
      intro row member active
      obtain ⟨kept, keptMember, keptId, keptUid, keptWallet, keptActive⟩ :=
        keeps row member active
      obtain ⟨later, laterMember, sameId, sameUid, sameWallet, isActive⟩ :=
        preserves.keepsHistories kept keptMember keptActive
      exact
        ⟨later, laterMember, sameId.trans keptId,
          sameUid.trans keptUid, sameWallet.trans keptWallet, isActive⟩

/--
From tables in which every contract with rows has exactly one active row, every
run of wallet calls and projections leads to such tables again.  Rows with a
history stay, and once the active external wallet of a contract is unlinked or
deleted, the managed wallet is active.
-/
theorem exactlyOneActiveWallet
    {platform : Platform}
    {start middle last : WalletTables}
    (distinct : DistinctIds start.users)
    (selected : OneActive start.users)
    (reached : WalletRun platform start middle)
    (continued : WalletRun platform middle last) :
    OneActive last.users ∧
      middle.KeepsHistories last ∧
      ∀ newId uid walletAddress existing next,
        last.database.userOfWallet uid walletAddress = some existing →
        existing.isActive = true →
        lowerText existing.walletAddress ≠
          lowerText (platform.getManagedWalletAddress (jsString uid)) →
        (WalletCall.unlinkLinkedWallet uid walletAddress).run platform
              newId last = .ok next ∨
          (WalletCall.deleteByUidAndWallet uid walletAddress).run
              platform newId last = .ok next →
        next.ManagedActive platform uid := by
  obtain ⟨middleDistinct, toMiddle, _⟩ := reached.preserves distinct
  obtain ⟨lastDistinct, toLast, keeps⟩ :=
    continued.preserves middleDistinct
  refine ⟨toLast (toMiddle selected), keeps, ?_⟩
  intro newId uid walletAddress existing next found isActive isExternal ran
  rcases ran with ran | ran
  · obtain ⟨unlinked, accepted⟩ := WalletCall.run.returned_eq_ok ran
    exact
      (WalletTables.unlinkLinkedWallet_preserves lastDistinct
        accepted).2 existing found isActive isExternal
  · obtain ⟨deleted, accepted⟩ := WalletCall.run.returned_eq_ok ran
    exact
      (WalletTables.deleteByUidAndWallet_preserves lastDistinct
        accepted).2 existing found isActive

/-! ## An external wallet that is unlinked -/

/-- A contract with a history on its managed wallet, and these rows. -/
def aliceTables (users : List User) : WalletTables where
  database :=
    { Database.empty with
      ledger :=
        { Ledger.empty with
          users := users
          balances := [⟨"row:1", "alice", 500, 500, 0⟩] } }
  linkedWallets := []

/-- The managed wallet of the contract. -/
def aliceManaged (isActive : Bool) : User where
  id := "row:1"
  uid := "alice"
  walletAddress := "alice"
  walletName := none
  isActive := isActive

/-- An external wallet of the contract. -/
def aliceExternal : User where
  id := "row:2"
  uid := "alice"
  walletAddress := "0xB0"
  walletName := none
  isActive := true

/-- Unlinking a selected external wallet returns to the managed one. -/
theorem externalWallet_unlinked :
    OneActive (aliceTables [aliceManaged false, aliceExternal]).users ∧
      (aliceTables [aliceManaged true]).ManagedActive .sample
        "alice" := by
  have distinct : DistinctIds (aliceTables [aliceManaged true]).users := by
    unfold DistinctIds
    decide
  have selected : OneActive (aliceTables [aliceManaged true]).users := by
    intro row member
    rw [List.mem_singleton.mp member]
    exact ⟨aliceManaged true, rfl⟩
  have activated :
      WalletStep .sample (aliceTables [aliceManaged true])
        (aliceTables [aliceManaged false, aliceExternal]) :=
    @WalletStep.returned _ _ _ "row:2"
      (.activateWallet "alice" "0xB0" none) rfl
  obtain ⟨oneActive, _, afterwards⟩ :=
    exactlyOneActiveWallet distinct selected .refl (.single activated)
  refine ⟨oneActive, ?_⟩
  exact
    afterwards "row:3" "alice" "0xB0" aliceExternal _ rfl rfl
      (by decide +kernel) (Or.inl rfl)

end Sparkz
