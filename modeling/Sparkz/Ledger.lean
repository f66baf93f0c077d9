import Sparkz.TokenOperation

namespace Sparkz

/-!
# The ledger projection

Awards, spends and balances mirror what happened on the chain.  The two commit
functions are what one projection transaction writes, with the unique indexes
of the tables it writes to.
-/

/-- A row of `users`. -/
structure User where
  id : String
  uid : String
  walletAddress : String
  walletName : Option String
  isActive : Bool
  deriving Repr, DecidableEq

/-- A row of `linked_wallet_links`. -/
structure LinkedWallet where
  uid : String
  walletAddress : String
  walletName : Option String
  deriving Repr, DecidableEq

/-- A row of `awards`. -/
structure Award where
  userId : String
  sessionId : String
  providerId : String
  dedupKey : String
  amount : TokenAmount
  cdrData : Option RawCdr
  txHash : TransactionHash
  awardType : Option AwardType
  isOffPeak : Bool
  countryCode : Option String
  localTime : Option String
  deriving DecidableEq

/-- A row of `spends`. -/
structure Spend where
  userId : String
  walletAddress : String
  amount : TokenAmount
  txHash : TransactionHash
  sessionId : Option String
  deriving DecidableEq

/-- A row of `balances`, in cents; the balance itself may be a deficit. -/
structure Balance where
  userId : String
  walletAddress : String
  balance : Int
  totalAwarded : Nat
  totalSpent : Nat
  deriving Repr, DecidableEq

/-- The projection tables. -/
structure Ledger where
  users : List User
  awards : List Award
  spends : List Spend
  balances : List Balance
  deriving DecidableEq

/-- Before the first projection. -/
def Ledger.empty : Ledger where
  users := []
  awards := []
  spends := []
  balances := []

/-- Whether a projection inserts its user or uses one it has read. -/
inductive ProjectionUser where
  | existing : (id : String) → ProjectionUser
  | created : User → ProjectionUser
  deriving Repr, DecidableEq

/-- The id that the projected rows refer to. -/
def ProjectionUser.id : ProjectionUser → String
  | .existing id => id
  | .created user => user.id

/-- Whether a projection updates the balance row or inserts one. -/
inductive BalanceWrite where
  | update
  | insert : (walletAddress : String) → BalanceWrite
  deriving Repr, DecidableEq

/-- The error of a statement that a unique index or a foreign key refuses. -/
def constraintViolation (constraint : String) : StoreError :=
  .error ("violates constraint " ++ constraint)

namespace Ledger

/-- `insert into users`, with the unique indexes on it. -/
def insertUser (ledger : Ledger) :
    ProjectionUser → Except StoreError Ledger
  | .existing id =>
      if ledger.users.any (·.id == id) then .ok ledger
      else .error (constraintViolation "user_id_foreign")
  | .created user =>
      if ledger.users.any (·.id == user.id) then
        .error (constraintViolation "users_pkey")
      else if ledger.users.any fun other =>
          other.uid == user.uid &&
            lowerText other.walletAddress ==
              lowerText user.walletAddress then
        .error (constraintViolation "users_uid_wallet_lower_unique")
      else if user.isActive && ledger.users.any fun other =>
          other.uid == user.uid && other.isActive then
        .error (constraintViolation "users_uid_active_unique")
      else
        .ok { ledger with users := ledger.users ++ [user] }

/-- `insert into awards`, with the unique indexes on it. -/
def insertAward (ledger : Ledger) (award : Award) :
    Except StoreError Ledger :=
  if ledger.awards.any (·.dedupKey == award.dedupKey) then
    .error (constraintViolation "awards_dedup_key_unique")
  else if ledger.awards.any fun other =>
      other.sessionId == award.sessionId &&
        other.providerId == award.providerId then
    .error (constraintViolation "awards_session_id_provider_id_unique")
  else if ledger.awards.any (·.txHash == award.txHash) then
    .error (constraintViolation "awards_tx_hash_lower_unique")
  else
    .ok { ledger with awards := ledger.awards ++ [award] }

/-- `insert into spends`, with the unique index on it. -/
def insertSpend (ledger : Ledger) (spend : Spend) :
    Except StoreError Ledger :=
  if ledger.spends.any (·.txHash == spend.txHash) then
    .error (constraintViolation "spends_tx_hash_lower_unique")
  else
    .ok { ledger with spends := ledger.spends ++ [spend] }

/-- Change the balance row of a user, or insert it. -/
def writeBalance
    (ledger : Ledger)
    (userId : String)
    (write : BalanceWrite)
    (change : Balance → Balance) :
    Except StoreError Ledger :=
  match write with
  | .update =>
      .ok
        { ledger with
          balances :=
            ledger.balances.map fun row =>
              if row.userId = userId then change row else row }
  | .insert walletAddress =>
      if ledger.balances.any (·.userId == userId) then
        .error (constraintViolation "balances_user_id_unique")
      else
        .ok
          { ledger with
            balances :=
              ledger.balances ++
                [change
                  { userId := userId
                    walletAddress := walletAddress
                    balance := 0
                    totalAwarded := 0
                    totalSpent := 0 }] }

end Ledger

/-- `balance + amount`, `total_awarded + amount`. -/
def Balance.award (amount : TokenAmount) (row : Balance) : Balance :=
  { row with
    balance := row.balance + amount.units
    totalAwarded := row.totalAwarded + amount.units }

/-- `balance - amount`, `total_spent + amount`. -/
def Balance.spend (amount : TokenAmount) (row : Balance) : Balance :=
  { row with
    balance := row.balance - amount.units
    totalSpent := row.totalSpent + amount.units }

namespace Ledger

/-- What the transaction of `recordAward` writes, all of it or nothing. -/
def commitAward
    (ledger : Ledger)
    (user : ProjectionUser)
    (award : Award)
    (balance : BalanceWrite) :
    Except StoreError Ledger := do
  let withUser ← ledger.insertUser user
  let withAward ← withUser.insertAward award
  withAward.writeBalance user.id balance (Balance.award award.amount)

/-- What the transaction of `recordSpend` writes, all of it or nothing. -/
def commitSpend
    (ledger : Ledger)
    (user : ProjectionUser)
    (spend : Spend)
    (balance : BalanceWrite) :
    Except StoreError Ledger := do
  let withUser ← ledger.insertUser user
  let withSpend ← withUser.insertSpend spend
  withSpend.writeBalance user.id balance (Balance.spend spend.amount)

end Ledger

end Sparkz
