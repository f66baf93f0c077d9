import Sparkz.UserWalletSelection

namespace Sparkz

/-!
# Linking and the effective wallet

Awards of a contract go to its effective wallet: the active row, or the
managed wallet when no row is active.  Linking inserts rows and naming edits
them.  Here is what these calls do to the effective wallet of any contract.
-/

/-- What `getUserWalletConfig` returns. -/
structure UserWalletConfig where
  walletAddress : String
  managedWalletAddress : String
  walletMode : WalletMode
  isRegistered : Bool
  deriving Repr, DecidableEq

/-- The wallet that a contract is paid on, and its mode. -/
def UserWalletConfig.effective (config : UserWalletConfig) : WalletConfig where
  walletAddress := config.walletAddress
  walletMode := config.walletMode

namespace WalletTables

/-- `getUserWalletConfig(uid)`. -/
def getUserWalletConfig
    (platform : Platform)
    (uid : String)
    (tables : WalletTables) :
    UserWalletConfig :=
  let managedWalletAddress := platform.getManagedWalletAddress (jsString uid)
  match tables.database.activeUser uid with
  | none =>
      { walletAddress := managedWalletAddress
        managedWalletAddress := managedWalletAddress
        walletMode := .managed
        isRegistered := false }
  | some existingUser =>
      { walletAddress := existingUser.walletAddress
        managedWalletAddress := managedWalletAddress
        walletMode :=
          if lowerText existingUser.walletAddress =
              lowerText managedWalletAddress then
            .managed
          else
            .custodial
        isRegistered := true }

/-- `Users.linkContractId`. -/
def linkContractId
    (tables : WalletTables)
    (newId uid walletAddress : String)
    (walletName : Option String) :
    Except StoreError (User × WalletTables) :=
  tables.create newId uid walletAddress (orNull walletName)

/-- `Users.updateWalletNameByAddress`. -/
def updateWalletNameByAddress
    (tables : WalletTables)
    (walletAddress : String)
    (walletName : Option String) :
    WalletTables :=
  tables.withLedger
    { tables.database.ledger with
      users :=
        tables.database.ledger.users.map fun row =>
          if lowerText row.walletAddress = lowerText walletAddress then
            { row with walletName := walletName }
          else row }

/-- `LinkedWallets.updateName`. -/
def updateLinkedName
    (tables : WalletTables)
    (uid walletAddress : String)
    (walletName : Option String) :
    WalletTables :=
  { tables with
    linkedWallets :=
      tables.linkedWallets.map fun link =>
        if link.uid = uid ∧
            lowerText link.walletAddress = lowerText walletAddress then
          { link with walletName := walletName }
        else link }

end WalletTables

/-! ## Steps -/

/-- A call that links a wallet to a contract, or names one. -/
inductive LinkCall where
  | create :
      (uid walletAddress : String) →
      (walletName : Option String) →
      LinkCall
  | linkContractId :
      (uid walletAddress : String) →
      (walletName : Option String) →
      LinkCall
  | linkLinkedWallet :
      (uid walletAddress : String) →
      (walletName : Option String) →
      LinkCall
  | updateWalletNameByAddress :
      (walletAddress : String) →
      (walletName : Option String) →
      LinkCall
  | updateLinkedName :
      (uid walletAddress : String) →
      (walletName : Option String) →
      LinkCall

/-- The tables after a call has returned; a call that throws leaves them. -/
def LinkCall.run
    (newId : String)
    (tables : WalletTables) :
    LinkCall → Except StoreError WalletTables
  | .create uid walletAddress walletName =>
      (tables.create newId uid walletAddress walletName).map Prod.snd
  | .linkContractId uid walletAddress walletName =>
      (tables.linkContractId newId uid walletAddress walletName).map
        Prod.snd
  | .linkLinkedWallet uid walletAddress walletName =>
      (tables.linkLinkedWallet newId uid walletAddress walletName).map
        Prod.snd
  | .updateWalletNameByAddress walletAddress walletName =>
      .ok (tables.updateWalletNameByAddress walletAddress walletName)
  | .updateLinkedName uid walletAddress walletName =>
      .ok (tables.updateLinkedName uid walletAddress walletName)

/-- The contract and the wallet that a call links, if it links any. -/
def LinkCall.links? : LinkCall → Option (String × String)
  | .create uid walletAddress _
  | .linkContractId uid walletAddress _
  | .linkLinkedWallet uid walletAddress _ => some (uid, walletAddress)
  | .updateWalletNameByAddress _ _ | .updateLinkedName _ _ _ => none

/-- The contract has a row already, or the wallet is its managed wallet. -/
def LinkCall.IsHarmless
    (platform : Platform)
    (tables : WalletTables)
    (call : LinkCall) :
    Prop :=
  ∀ uid walletAddress,
    call.links? = some (uid, walletAddress) →
    (tables.database.userOfUid uid).isSome = true ∨
      walletAddress = platform.getManagedWalletAddress (jsString uid)

/-- One call returns or throws. -/
inductive LinkStep :
    LinkCall → WalletTables → WalletTables → Prop where
  | returned
      {tables next : WalletTables}
      {newId : String}
      {call : LinkCall}
      (ran : call.run newId tables = .ok next) :
      LinkStep call tables next
  | thrown
      (call : LinkCall)
      (tables : WalletTables) :
      LinkStep call tables tables

/-- The tables after any harmless calls, one transaction after the other. -/
abbrev HarmlessLinkRun (platform : Platform) :
    WalletTables → WalletTables → Prop :=
  Relation.ReflTransGen fun tables next =>
    ∃ call : LinkCall,
      call.IsHarmless platform tables ∧ LinkStep call tables next

/-! ## What one call does -/

namespace WalletTables

variable {platform : Platform} {newId uid walletAddress : String}
  {walletName : Option String} {tables next : WalletTables}

/-- The effective wallet of a contract is read off its active row. -/
theorem effective_congr
    (sameAddress :
      (next.database.activeUser uid).map (·.walletAddress) =
        (tables.database.activeUser uid).map (·.walletAddress)) :
    (next.getUserWalletConfig platform uid).effective =
      (tables.getUserWalletConfig platform uid).effective := by
  unfold getUserWalletConfig
  cases before : tables.database.activeUser uid with
  | none =>
      rw [before] at sameAddress
      have after : next.database.activeUser uid = none := by
        simpa using sameAddress
      simp [after]
  | some row =>
      rw [before] at sameAddress
      obtain ⟨later, after, same⟩ := Option.map_eq_some_iff.mp sameAddress
      simp [after, same, UserWalletConfig.effective]

/-- Renaming rows keeps the effective wallet of every contract. -/
theorem effective_updateWalletNameByAddress :
    ((tables.updateWalletNameByAddress walletAddress
        walletName).getUserWalletConfig platform uid).effective =
      (tables.getUserWalletConfig platform uid).effective := by
  apply effective_congr
  have renamed :
      (tables.updateWalletNameByAddress walletAddress
          walletName).database.activeUser uid =
        (tables.database.activeUser uid).map fun row =>
          if lowerText row.walletAddress = lowerText walletAddress then
            { row with walletName := walletName }
          else row := by
    unfold Database.activeUser updateWalletNameByAddress withLedger
    rw [List.find?_map]
    congr 2
    funext row
    by_cases named :
        lowerText row.walletAddress = lowerText walletAddress
    · simp [named]
    · simp [named]
  rw [renamed, Option.map_map]
  congr 1
  funext row
  by_cases named : lowerText row.walletAddress = lowerText walletAddress
  · simp [named]
  · simp [named]

/-- A call that links a wallet finds its row, or inserts one. -/
theorem create_eq_ok
    {row : User}
    (accepted :
      tables.create newId uid walletAddress walletName =
        .ok (row, next)) :
    (next = tables ∧ (tables.database.userOfUid uid).isSome = true) ∨
      row.uid = uid ∧ row.walletAddress = walletAddress ∧
        row.isActive = (tables.database.userOfUid uid).isNone ∧
        next.database.ledger.users =
          tables.database.ledger.users ++ [row] := by
  unfold create at accepted
  split at accepted
  · rename_i found
    cases accepted
    refine Or.inl ⟨rfl, ?_⟩
    have member := List.mem_of_find?_eq_some found
    have matching := List.find?_some found
    simp only [Bool.and_eq_true, beq_iff_eq] at matching
    unfold Database.userOfUid
    rw [List.find?_isSome]
    exact ⟨row, member, by simp [matching.1]⟩
  · obtain ⟨ledger, inserted, same⟩ := Except.map_eq_ok accepted
    cases same
    obtain ⟨_, _, rfl⟩ := Ledger.insertUser_eq_ok inserted
    exact Or.inr ⟨rfl, rfl, rfl, rfl⟩

/-- No row of a contract is active when it has no row. -/
theorem activeUser_of_noUser
    (noRow : tables.database.userOfUid uid = none) :
    tables.database.activeUser uid = none := by
  unfold Database.userOfUid at noRow
  rw [List.find?_eq_none] at noRow
  unfold Database.activeUser
  rw [List.find?_eq_none]
  intro row member isActive
  simp only [Bool.and_eq_true] at isActive
  exact noRow row member isActive.1

/-- An inactive row that is inserted changes no effective wallet. -/
theorem effective_insertInactive
    {row : User}
    {other : String}
    (isInactive : row.uid = other → row.isActive = false)
    (inserted :
      next.database.ledger.users =
        tables.database.ledger.users ++ [row]) :
    (next.getUserWalletConfig platform other).effective =
      (tables.getUserWalletConfig platform other).effective := by
  apply effective_congr
  unfold Database.activeUser
  rw [inserted, List.find?_append]
  have skipped :
      List.find? (fun row => row.uid == other && row.isActive) [row] =
        none := by
    rw [List.find?_eq_none]
    intro only member isActive
    rw [List.mem_singleton.mp member] at isActive
    simp only [Bool.and_eq_true, beq_iff_eq] at isActive
    rw [isInactive isActive.1] at isActive
    cases isActive.2
  rw [skipped, Option.or_none]

/-- The first row of a contract becomes its effective wallet. -/
theorem getUserWalletConfig_insertFirst
    {row : User}
    (noRow : tables.database.userOfUid row.uid = none)
    (isActive : row.isActive = true)
    (inserted :
      next.database.ledger.users =
        tables.database.ledger.users ++ [row]) :
    (next.getUserWalletConfig platform row.uid).walletAddress =
        row.walletAddress ∧
      (lowerText row.walletAddress =
          lowerText (platform.getManagedWalletAddress (jsString row.uid)) →
        (next.getUserWalletConfig platform row.uid).walletMode =
          .managed) := by
  have selected : next.database.activeUser row.uid = some row := by
    have before := activeUser_of_noUser noRow
    unfold Database.activeUser at before ⊢
    rw [inserted, List.find?_append, before]
    simp [isActive]
  unfold getUserWalletConfig
  rw [selected]
  exact ⟨rfl, fun isManaged => if_pos isManaged⟩

/--
Linking keeps every effective wallet exactly when the contract has a row or the
wallet is its managed wallet.
-/
theorem create_keepsEffective_iff
    {row : User}
    (accepted :
      tables.create newId uid walletAddress walletName =
        .ok (row, next)) :
    (∀ other,
        (next.getUserWalletConfig platform other).effective =
          (tables.getUserWalletConfig platform other).effective) ↔
      (tables.database.userOfUid uid).isSome = true ∨
        walletAddress = platform.getManagedWalletAddress (jsString uid) := by
  rcases create_eq_ok accepted with
    ⟨rfl, hasRow⟩ | ⟨rfl, rfl, isActive, inserted⟩
  · simp [hasRow]
  cases found : tables.database.userOfUid row.uid with
  | some existing =>
      rw [found] at isActive
      simp only [Option.isSome_some, true_or, iff_true]
      intro other
      exact effective_insertInactive (fun _ => isActive) inserted
  | none =>
      rw [found] at isActive
      obtain ⟨address, mode⟩ :=
        @getUserWalletConfig_insertFirst platform _ _ _ found isActive
          inserted
      have before :
          (tables.getUserWalletConfig platform row.uid).effective =
            ⟨platform.getManagedWalletAddress (jsString row.uid),
              .managed⟩ := by
        unfold getUserWalletConfig
        rw [activeUser_of_noUser found]
        rfl
      simp only [Option.isSome_none, Bool.false_eq_true, false_or]
      constructor
      · intro keeps
        have same := keeps row.uid
        rw [before] at same
        rw [← address]
        exact congrArg WalletConfig.walletAddress same
      · intro isManaged other
        by_cases own : other = row.uid
        · subst own
          rw [before]
          have managed := mode (by rw [isManaged])
          unfold UserWalletConfig.effective
          rw [address, managed, isManaged]
        · exact
            effective_insertInactive (fun same => absurd same.symm own)
              inserted

theorem linkLinkedWallet_creates
    {row : User}
    (accepted :
      tables.linkLinkedWallet newId uid walletAddress walletName =
        .ok (row, next)) :
    ∃ linked : WalletTables,
      linked.database = tables.database ∧
        linked.create newId uid walletAddress walletName =
          .ok (row, next) := by
  obtain ⟨linked, added, created⟩ := Except.bind_eq_ok accepted
  exact ⟨linked, addLinkedWallet_database added, created⟩

end WalletTables

/-- A harmless call keeps every effective wallet. -/
theorem LinkStep.keepsEffective
    {platform : Platform}
    {call : LinkCall}
    {tables next : WalletTables}
    (step : LinkStep call tables next)
    (harmless : call.IsHarmless platform tables)
    (uid : String) :
    (next.getUserWalletConfig platform uid).effective =
      (tables.getUserWalletConfig platform uid).effective := by
  cases step with
  | thrown =>
      rfl
  | returned ran =>
      cases call with
      | create linkedUid walletAddress walletName =>
          obtain ⟨⟨row, after⟩, accepted, rfl⟩ := Except.map_eq_ok ran
          exact
            (WalletTables.create_keepsEffective_iff accepted).mpr
              (harmless linkedUid walletAddress rfl) uid
      | linkContractId linkedUid walletAddress walletName =>
          obtain ⟨⟨row, after⟩, accepted, rfl⟩ := Except.map_eq_ok ran
          exact
            (WalletTables.create_keepsEffective_iff accepted).mpr
              (harmless linkedUid walletAddress rfl) uid
      | linkLinkedWallet linkedUid walletAddress walletName =>
          obtain ⟨⟨row, after⟩, accepted, rfl⟩ := Except.map_eq_ok ran
          obtain ⟨linked, sameDatabase, created⟩ :=
            WalletTables.linkLinkedWallet_creates accepted
          have isHarmless := harmless linkedUid walletAddress rfl
          rw [← sameDatabase] at isHarmless
          have kept :=
            (@WalletTables.create_keepsEffective_iff platform _ _ _ _
              _ _ _ created).mpr isHarmless uid
          have sameBefore :
              (linked.getUserWalletConfig platform uid).effective =
                (tables.getUserWalletConfig platform uid).effective := by
            apply WalletTables.effective_congr
            rw [sameDatabase]
          exact kept.trans sameBefore
      | updateWalletNameByAddress walletAddress walletName =>
          cases ran
          exact WalletTables.effective_updateWalletNameByAddress
      | updateLinkedName linkedUid walletAddress walletName =>
          cases ran
          exact WalletTables.effective_congr rfl

/--
In every run of calls that link and name wallets, the effective wallet and the
mode of every contract stay the same, as long as each linked contract has a
row already or is linked to its managed wallet.
-/
theorem linking_keepsEffectiveWallet
    {platform : Platform}
    {start last : WalletTables}
    (run : HarmlessLinkRun platform start last)
    (uid : String) :
    (last.getUserWalletConfig platform uid).walletAddress =
        (start.getUserWalletConfig platform uid).walletAddress ∧
      (last.getUserWalletConfig platform uid).walletMode =
        (start.getUserWalletConfig platform uid).walletMode := by
  have kept :
      (last.getUserWalletConfig platform uid).effective =
        (start.getUserWalletConfig platform uid).effective := by
    induction run with
    | refl =>
        rfl
    | tail _ step inductionHypothesis =>
        obtain ⟨call, harmless, linked⟩ := step
        exact (linked.keepsEffective harmless uid).trans
          inductionHypothesis
  exact
    ⟨congrArg WalletConfig.walletAddress kept,
      congrArg WalletConfig.walletMode kept⟩

/-- Linking an external wallet to a contract with a row is such a run. -/
theorem externalWallet_linked :
    ((aliceTables
        [aliceManaged true,
          { aliceExternal with
            isActive := false }]).getUserWalletConfig .sample
        "alice").walletMode = .managed := by
  have linked :
      LinkStep (.create "alice" "0xB0" none)
        (aliceTables [aliceManaged true])
        (aliceTables
          [aliceManaged true, { aliceExternal with isActive := false }]) :=
    @LinkStep.returned _ _ "row:2" _ rfl
  have harmless :
      LinkCall.IsHarmless .sample (aliceTables [aliceManaged true])
        (.create "alice" "0xB0" none) := by
    intro uid walletAddress links
    cases links
    exact Or.inl rfl
  have run :
      HarmlessLinkRun .sample (aliceTables [aliceManaged true])
        (aliceTables
          [aliceManaged true,
            { aliceExternal with isActive := false }]) :=
    .single ⟨_, harmless, linked⟩
  obtain ⟨_, mode⟩ := linking_keepsEffectiveWallet run "alice"
  rw [mode]
  decide +kernel

/-- The first wallet that is linked to a contract becomes its wallet. -/
theorem firstLink_redirects :
    ∃ (call : LinkCall) (next : WalletTables),
      LinkStep call (aliceTables []) next ∧
        ((aliceTables []).getUserWalletConfig .sample
            "alice").walletAddress = "alice" ∧
        ((aliceTables []).getUserWalletConfig .sample
            "alice").walletMode = .managed ∧
        (next.getUserWalletConfig .sample "alice").walletAddress =
          "0xB0" ∧
        (next.getUserWalletConfig .sample "alice").walletMode =
          .custodial := by
  refine
    ⟨.linkLinkedWallet "alice" "0xB0" none, _,
      @LinkStep.returned _ _ "row:2" _ rfl, ?_, ?_, ?_, ?_⟩
  all_goals decide +kernel

end Sparkz
