import Sparkz.System
import Sparkz.Platform

namespace Sparkz

/-!
# Projecting a movement into the ledger

`recordAward` and `recordSpend` write the movement and the balance of its user
in one transaction, or return what an earlier call has written.
-/

/-- `requireUnambiguousTransactionMatch(matches, projection)`. -/
def requireUnambiguousTransactionMatch {α : Type}
    (projection : String) :
    List α →
    Except Failure (Option α)
  | [] => .ok none
  | [only] => .ok (some only)
  | _ =>
      .error <| .error
        (projection ++
          "_TX_HASH_AMBIGUOUS_REVIEW: multiple projections share this transaction hash")

/-- The arguments of `recordAward`. -/
structure RecordAwardRequest where
  normalised : NormalisedSession
  amount : JsNumber
  dedupKey : String
  txHash : String
  cdrData : Option RawCdr
  metadata : Option AwardMetadata
  intendedWalletAddress : Option String
  deriving DecidableEq

/-- The arguments of `recordSpend`. -/
structure RecordSpendRequest where
  userWallet : String
  amount : JsNumber
  txHash : String
  sessionId : Option JsString
  uid : Option JsString
  deriving DecidableEq

/-- The award row of a request. -/
def RecordAwardRequest.award
    (data : RecordAwardRequest)
    (userId : String)
    (amount : TokenAmount)
    (hash : TransactionHash) :
    Award where
  userId := userId
  sessionId := data.normalised.sessionId
  providerId := data.normalised.providerId
  dedupKey := data.dedupKey
  amount := amount
  cdrData := orNull data.cdrData
  txHash := hash
  awardType := data.metadata.map (·.awardType)
  isOffPeak := (data.metadata.map (·.isOffPeak)).getD false
  countryCode := orNull (data.metadata.map (·.countryCode))
  localTime := orNull (data.metadata.map (·.localTime))

/-- The spend row of a request. -/
def RecordSpendRequest.spend
    (data : RecordSpendRequest)
    (userId : String)
    (amount : TokenAmount)
    (hash : TransactionHash) :
    Spend where
  userId := userId
  walletAddress := data.userWallet
  amount := amount
  txHash := hash
  sessionId := (JsString.orNull data.sessionId).map JsString.encoded

/-- Whether the balance row of a user is updated or inserted. -/
def balanceWrite (userId walletAddress : String) : Call BalanceWrite := do
  match ← read (.balance userId) with
  | some _ => return .update
  | none => return .insert walletAddress

/-- The owner check on an award that is already recorded. -/
def requireAwardOwner
    (data : RecordAwardRequest)
    (existing : Award)
    (mismatch : String) :
    Call Unit :=
  match orNull data.intendedWalletAddress with
  | none => pure ()
  | some intended => do
      match ← read (.user existing.userId) with
      | some owner =>
          if owner.uid ≠ data.normalised.uid ∨
              lowerText owner.walletAddress ≠ lowerText intended then
            throwFailure (.error mismatch)
      | none => throwFailure (.error mismatch)

/-- The user that an award belongs to, read or about to be inserted. -/
def awardUser
    (platform : Platform)
    (data : RecordAwardRequest) :
    Call (ProjectionUser × String) := do
  let uid := data.normalised.uid
  let intended := orNull data.intendedWalletAddress
  let found ←
    match intended with
    | some wallet => read (.userOfWallet uid wallet)
    | none => read (.activeUser uid)
  match found with
  | some user =>
      return (.existing user.id,
        orText (some user.walletAddress)
          (intended.getD (platform.resolveUidToAddress uid)))
  | none =>
      let walletAddress :=
        intended.getD (platform.resolveUidToAddress uid)
      let hasExistingUid ← read (.userOfUid uid)
      let id ← service .newId
      return (.created
        { id := id
          uid := uid
          walletAddress := walletAddress
          walletName := none
          isActive := hasExistingUid.isNone }, walletAddress)

/-- The award of a new movement, with the balance of its user. -/
def insertAward
    (platform : Platform)
    (data : RecordAwardRequest)
    (amount : TokenAmount)
    (hash : TransactionHash) :
    Call Award := do
  let (user, walletAddress) ← awardUser platform data
  let balance ← balanceWrite user.id walletAddress
  write (.recordAward user (data.award user.id amount hash) balance)

/-- The transaction of `recordAward`, for a canonical hash and amount. -/
def projectAward
    (platform : Platform)
    (data : RecordAwardRequest)
    (amount : TokenAmount)
    (hash : TransactionHash) :
    Call Award := do
  let uid := data.normalised.uid
  let walletForLock :=
    lowerText
      (orText data.intendedWalletAddress
        (platform.resolveUidToAddress uid))
  lock (.usersActive uid)
  lock (.awardTx hash)
  lock (.awardDedup data.dedupKey)
  lock (.balanceUser uid walletForLock)
  let byTxHash ←
    orThrow
      (requireUnambiguousTransactionMatch "AWARD"
        (← read (.awardsOfHash hash)))
  match byTxHash with
  | some existing =>
      if existing.sessionId ≠ data.normalised.sessionId ∨
          existing.providerId ≠ data.normalised.providerId ∨
          existing.dedupKey ≠ data.dedupKey ∨
          existing.amount ≠ amount then
        throwFailure (.error "AWARD_TX_HASH_INTENT_MISMATCH")
      else
        requireAwardOwner data existing "AWARD_TX_HASH_OWNER_MISMATCH"
        return existing
  | none =>
      match ← read (.awardOfDedupKey data.dedupKey) with
      | some existing =>
          if existing.sessionId ≠ data.normalised.sessionId ∨
              existing.providerId ≠ data.normalised.providerId ∨
              existing.amount ≠ amount then
            throwFailure (.error "AWARD_DEDUP_INTENT_MISMATCH")
          else
            requireAwardOwner data existing "AWARD_DEDUP_OWNER_MISMATCH"
            return existing
      | none => insertAward platform data amount hash

/-- `recordAward`. -/
def recordAward (platform : Platform) (data : RecordAwardRequest) :
    Call Award := do
  let hash ←
    orThrow
      (requireCanonicalTransactionHash data.txHash "transaction hash")
  match canonicalTokenAmount data.amount with
  | none => throwFailure (.error "UNSUPPORTED_TOKEN_PRECISION")
  | some amount =>
      transaction (projectAward platform data amount hash)

/-- The user that a spend belongs to, read or about to be inserted. -/
def spendUser (data : RecordSpendRequest) : Call ProjectionUser := do
  let found ←
    match JsString.orNull data.uid with
    | some uid => read (.userOfWallet uid.encoded data.userWallet)
    | none => read (.firstUserOfWallet data.userWallet)
  match found with
  | some user => return .existing user.id
  | none =>
      let hasExistingUid ←
        match JsString.orNull data.uid with
        | some uid => read (.userOfUid uid.encoded)
        | none => pure none
      let id ← service .newId
      return .created
        { id := id
          uid :=
            orText (data.uid.map JsString.encoded)
              ("wallet-" ++ data.userWallet)
          walletAddress := data.userWallet
          walletName := none
          isActive := hasExistingUid.isNone }

/-- The check of a spend that is already recorded. -/
def checkRecordedSpend
    (data : RecordSpendRequest)
    (amount : TokenAmount)
    (existing : Spend) :
    Call Unit := do
  if existing.amount ≠ amount ∨
      lowerText existing.walletAddress ≠ lowerText data.userWallet ∨
      JsString.orNull data.sessionId ≠
        (orNull existing.sessionId).map jsString then
    throwFailure (.error "SPEND_TX_HASH_INTENT_MISMATCH")
  else
    let user ← read (.user existing.userId)
    match JsString.orNull data.uid with
    | some uid =>
        if user.map (fun row => jsString row.uid) ≠ some uid then
          throwFailure (.error "SPEND_TX_HASH_OWNER_MISMATCH")
    | none => pure ()

/-- The spend of a new movement, with the balance of its user. -/
def insertSpend
    (data : RecordSpendRequest)
    (amount : TokenAmount)
    (hash : TransactionHash) :
    Call Unit := do
  let user ← spendUser data
  let balance ← balanceWrite user.id data.userWallet
  let _ ←
    write (.recordSpend user (data.spend user.id amount hash) balance)
  return ()

/-- The transaction of `recordSpend`, once its uid is locked. -/
def projectLockedSpend
    (data : RecordSpendRequest)
    (amount : TokenAmount)
    (hash : TransactionHash) :
    Call Unit := do
  lock (.spendTx hash)
  lock
    (.balanceUser (data.uid.getD []).encoded
      (lowerText data.userWallet))
  let existingSpend ←
    orThrow
      (requireUnambiguousTransactionMatch "SPEND"
        (← read (.spendsOfHash hash)))
  match existingSpend with
  | some existing => checkRecordedSpend data amount existing
  | none => insertSpend data amount hash

/-- The transaction of `recordSpend`, for a canonical hash and amount. -/
def projectSpend
    (data : RecordSpendRequest)
    (amount : TokenAmount)
    (hash : TransactionHash) :
    Call Unit :=
  match JsString.orNull data.uid with
  | some uid => do
      lock (.usersActive uid.encoded)
      projectLockedSpend data amount hash
  | none => projectLockedSpend data amount hash

/-- `recordSpend`; what it returns is not used by its callers. -/
def recordSpend (data : RecordSpendRequest) : Call Unit := do
  let hash ←
    orThrow
      (requireCanonicalTransactionHash data.txHash "transaction hash")
  match canonicalTokenAmount data.amount with
  | none => throwFailure (.error "UNSUPPORTED_TOKEN_PRECISION")
  | some amount => transaction (projectSpend data amount hash)

end Sparkz
