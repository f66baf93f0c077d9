import Sparkz.SoloCalls
import Sparkz.LedgerProjection

namespace Sparkz

/-!
# The wallets of a contract

A contract identifier may have used several wallets.  Each of them is a row of
`users`, and one of the rows is the active wallet.  Every operation here is one
transaction under the lock of the identifier, so it is a function on the tables
that either returns or leaves them as they were.
-/

/-- The tables that the wallets of a contract are kept in. -/
structure WalletTables where
  database : Database
  linkedWallets : List LinkedWallet

/-- `MAX_LINKED_WALLETS_PER_UID`. -/
def maxLinkedWalletsPerUid : Nat :=
  5

namespace Ledger

variable (ledger : Ledger)

/-- Whether anything was ever projected for a user row. -/
def hasActivity (userId : String) : Bool :=
  ledger.awards.any (·.userId == userId) ||
    ledger.spends.any (·.userId == userId) ||
    ledger.balances.any (·.userId == userId)

/-- `update users set is_active = false where uid …`, except for one row. -/
def deactivateUid (uid : String) (exceptId : Option String) : Ledger :=
  { ledger with
    users :=
      ledger.users.map fun row =>
        if row.uid = uid ∧ some row.id ≠ exceptId then
          { row with isActive := false }
        else row }

/-- `update users set is_active = false where id …`. -/
def deactivateRow (id : String) : Ledger :=
  { ledger with
    users :=
      ledger.users.map fun row =>
        if row.id = id then { row with isActive := false } else row }

/-- `update users set is_active = true where id …`, with the index on it. -/
def activateRow (target : User) : Except StoreError (User × Ledger) :=
  if ledger.users.any fun other =>
      other.id != target.id && other.uid == target.uid &&
        other.isActive then
    .error (constraintViolation "users_uid_active_unique")
  else
    .ok
      ({ target with isActive := true },
        { ledger with
          users :=
            ledger.users.map fun row =>
              if row.id = target.id then { row with isActive := true }
              else row })

/-- `delete from users where id …`; the projections of the row follow. -/
def deleteRow (id : String) : Ledger where
  users := ledger.users.filter (·.id != id)
  awards := ledger.awards.filter (·.userId != id)
  spends := ledger.spends.filter (·.userId != id)
  balances := ledger.balances.filter (·.userId != id)

end Ledger

namespace WalletTables

variable (tables : WalletTables)

/-- Replace the projection tables. -/
def withLedger (ledger : Ledger) : WalletTables :=
  { tables with database := { tables.database with ledger := ledger } }

/-- `insert into users … returning *`. -/
def insertUser (row : User) : Except StoreError (User × WalletTables) :=
  (tables.database.ledger.insertUser (.created row)).map fun ledger =>
    (row, tables.withLedger ledger)

/-- `ensureManagedWalletInTransaction`. -/
def ensureManagedWallet
    (platform : Platform)
    (newId uid : String) :
    Except StoreError (User × WalletTables) :=
  let managed := platform.getManagedWalletAddress (jsString uid)
  let inactive :=
    tables.withLedger (tables.database.ledger.deactivateUid uid none)
  match inactive.database.userOfWallet uid managed with
  | some existing =>
      (inactive.database.ledger.activateRow existing).map
        fun (activated, ledger) => (activated, inactive.withLedger ledger)
  | none =>
      inactive.insertUser
        { id := newId
          uid := uid
          walletAddress := managed
          walletName := none
          isActive := true }

/-- `addLinkedWalletInTransaction`. -/
def addLinkedWallet
    (uid walletAddress : String)
    (walletName : Option String) :
    Except StoreError WalletTables :=
  if tables.linkedWallets.any fun link =>
      link.uid == uid &&
        lowerText link.walletAddress == lowerText walletAddress then
    .ok tables
  else if tables.linkedWallets.any fun link =>
      lowerText link.walletAddress == lowerText walletAddress then
    .error <| .error
      "This wallet address is already linked. Unlink it before linking it again."
  else if maxLinkedWalletsPerUid ≤
      (tables.linkedWallets.filter (·.uid == uid)).length then
    .error <| .error
      ("A maximum of " ++ toString maxLinkedWalletsPerUid ++
        " wallet addresses can be linked")
  else
    .ok
      { tables with
        linkedWallets :=
          tables.linkedWallets ++
            [{ uid := uid
               walletAddress := walletAddress
               walletName := orNull walletName }] }

/-- `Users.create`. -/
def create
    (newId uid walletAddress : String)
    (walletName : Option String) :
    Except StoreError (User × WalletTables) :=
  match tables.database.userOfWallet uid walletAddress with
  | some existing => .ok (existing, tables)
  | none =>
      tables.insertUser
        { id := newId
          uid := uid
          walletAddress := walletAddress
          walletName := orNull walletName
          isActive := (tables.database.userOfUid uid).isNone }

/-- `Users.linkLinkedWallet`. -/
def linkLinkedWallet
    (newId uid walletAddress : String)
    (walletName : Option String) :
    Except StoreError (User × WalletTables) := do
  let linked ← tables.addLinkedWallet uid walletAddress walletName
  linked.create newId uid walletAddress walletName

/-- `Users.activateWallet`. -/
def activateWallet
    (newId uid walletAddress : String)
    (walletName : Option String) :
    Except StoreError (User × WalletTables) :=
  match tables.database.userOfWallet uid walletAddress with
  | some existing =>
      ((tables.database.ledger.deactivateUid uid
          (some existing.id)).activateRow existing).map
        fun (activated, ledger) => (activated, tables.withLedger ledger)
  | none =>
      (tables.withLedger
        (tables.database.ledger.deactivateUid uid none)).insertUser
          { id := newId
            uid := uid
            walletAddress := walletAddress
            walletName := orNull walletName
            isActive := true }

/-- A row leaves the selection: with history it stays, else it is deleted. -/
def retire (existing : User) : Nat × WalletTables :=
  if tables.database.ledger.hasActivity existing.id then
    if existing.isActive then
      (0, tables.withLedger
        (tables.database.ledger.deactivateRow existing.id))
    else
      (0, tables)
  else
    (1, tables.withLedger
      (tables.database.ledger.deleteRow existing.id))

/-- `Users.deleteByUidAndWallet`. -/
def deleteByUidAndWallet
    (platform : Platform)
    (newId uid walletAddress : String) :
    Except StoreError (Nat × WalletTables) :=
  match tables.database.userOfWallet uid walletAddress with
  | none => .ok (0, tables)
  | some existing =>
      let (deleted, retired) := tables.retire existing
      if existing.isActive then
        (retired.ensureManagedWallet platform newId uid).map
          fun (_, next) => (deleted, next)
      else
        .ok (deleted, retired)

/-- Delete the links of a contract to a wallet, and count them. -/
def removeLink (uid walletAddress : String) : Nat × WalletTables :=
  let isLink (link : LinkedWallet) : Bool :=
    link.uid == uid &&
      lowerText link.walletAddress == lowerText walletAddress
  ((tables.linkedWallets.filter isLink).length,
    { tables with
      linkedWallets := tables.linkedWallets.filter (!isLink ·) })

/-- What `Users.unlinkLinkedWallet` returns. -/
structure Unlinked where
  removedLink : Nat
  deletedUser : Nat
  activeWallet : Option User
  deriving Repr, DecidableEq

/-- `Users.unlinkLinkedWallet`. -/
def unlinkLinkedWallet
    (platform : Platform)
    (newId uid walletAddress : String) :
    Except StoreError (Unlinked × WalletTables) :=
  let (removedLink, unlinked) := tables.removeLink uid walletAddress
  match unlinked.database.userOfWallet uid walletAddress with
  | none =>
      .ok
        ({ removedLink := removedLink
           deletedUser := 0
           activeWallet := unlinked.database.activeUser uid }, unlinked)
  | some existing =>
      let isManagedWallet :=
        lowerText existing.walletAddress ==
          lowerText (platform.getManagedWalletAddress (jsString uid))
      let shouldRepairLegacyActive :=
        existing.isActive && !isManagedWallet
      if removedLink == 0 && !shouldRepairLegacyActive then
        .ok
          ({ removedLink := 0
             deletedUser := 0
             activeWallet := unlinked.database.activeUser uid },
            unlinked)
      else
        let (deletedUser, retired) := unlinked.retire existing
        if existing.isActive then
          (retired.ensureManagedWallet platform newId uid).map
            fun (activeWallet, next) =>
              ({ removedLink := removedLink
                 deletedUser := deletedUser
                 activeWallet := some activeWallet }, next)
        else
          .ok
            ({ removedLink := removedLink
               deletedUser := deletedUser
               activeWallet := retired.database.activeUser uid },
              retired)

end WalletTables

/-! ## Steps -/

/-- A call that may insert, select or delete a wallet of a contract. -/
inductive WalletCall where
  | create :
      (uid walletAddress : String) →
      (walletName : Option String) →
      WalletCall
  | linkLinkedWallet :
      (uid walletAddress : String) →
      (walletName : Option String) →
      WalletCall
  | activateWallet :
      (uid walletAddress : String) →
      (walletName : Option String) →
      WalletCall
  | deleteByUidAndWallet : (uid walletAddress : String) → WalletCall
  | unlinkLinkedWallet : (uid walletAddress : String) → WalletCall
  | recordAward : RecordAwardRequest → WalletCall
  | recordSpend :
      (data : RecordSpendRequest) →
      (hasUid : JsString.truthy data.uid = true) →
      WalletCall

/-- The services of a projection: the database makes up the next row id. -/
def Choice.newId (newId : String) : Choice :=
  { Choice.databaseOnly with
    service := fun request =>
      match request with
      | .newId => newId
      | other => Choice.databaseOnly.service other }

/-- The tables after a call has returned, or nothing when it throws. -/
def WalletCall.run
    (platform : Platform)
    (newId : String)
    (tables : WalletTables) :
    WalletCall → Except Failure WalletTables
  | .create uid walletAddress walletName =>
      returned (tables.create newId uid walletAddress walletName)
  | .linkLinkedWallet uid walletAddress walletName =>
      returned
        (tables.linkLinkedWallet newId uid walletAddress walletName)
  | .activateWallet uid walletAddress walletName =>
      returned (tables.activateWallet newId uid walletAddress walletName)
  | .deleteByUidAndWallet uid walletAddress =>
      returned
        (tables.deleteByUidAndWallet platform newId uid walletAddress)
  | .unlinkLinkedWallet uid walletAddress =>
      returned
        (tables.unlinkLinkedWallet platform newId uid walletAddress)
  | .recordAward data =>
      projected ((Sparkz.recordAward platform data).solo
        (alone 0 (Choice.newId newId)) tables.database)
  | .recordSpend data _ =>
      projected ((Sparkz.recordSpend data).solo
        (alone 0 (Choice.newId newId)) tables.database)
where
  returned {α : Type} :
      Except StoreError (α × WalletTables) → Except Failure WalletTables
    | .ok (_, next) => .ok next
    | .error error => .error error.failure
  projected {α : Type} :
      Except Failure α × Database → Except Failure WalletTables
    | (.ok _, next) => .ok { tables with database := next }
    | (.error failure, _) => .error failure

/-- One call returns, or throws and has changed nothing. -/
inductive WalletStep (platform : Platform) :
    WalletTables → WalletTables → Prop where
  | returned
      {tables next : WalletTables}
      {newId : String}
      {call : WalletCall}
      (ran : call.run platform newId tables = .ok next) :
      WalletStep platform tables next
  | thrown (tables : WalletTables) :
      WalletStep platform tables tables

end Sparkz
