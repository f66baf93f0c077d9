import Sparkz.ApprovalPreparation
import Sparkz.SpendReservation
import Sparkz.Ledger
import Sparkz.SpendReceipt

namespace Sparkz

/-!
# The shared database

A read sees committed rows only.  A transaction takes its advisory locks, reads,
and then applies everything it writes in one atomic change at its end.  A row
that the code locks with `for update` is read inside that change, since nobody
else can touch the row between the two.
-/

/-- The advisory locks, by the text they are derived from. -/
inductive LockKey where
  | wallet : (lowerAddress : String) → LockKey
  | operation : (operationKey : String) → LockKey
  | awardChargingSession :
      (providerId chargingSessionId : String) →
      LockKey
  | awardLegacy : (legacyKey : String) → LockKey
  | treasury : (chainId signerAddress : String) → LockKey
  | approval : (operationKey : String) → LockKey
  | usersActive : (uid : String) → LockKey
  | awardTx : TransactionHash → LockKey
  | awardDedup : (dedupKey : String) → LockKey
  | balanceUser : (uid lowerAddress : String) → LockKey
  | spendTx : TransactionHash → LockKey
  deriving DecidableEq

/-- The tables, and which call holds which advisory lock. -/
structure Database where
  operations : List TokenOperation
  leases : List TreasuryLease
  approvals : List ApprovalPreparation
  reservations : List SpendReservation
  ledger : Ledger
  receipts : List SpendReceipt
  locks : LockKey → Option Nat

/-- A database without operations, leases, reservations or projections. -/
def Database.empty : Database where
  operations := []
  leases := []
  approvals := []
  reservations := []
  ledger := Ledger.empty
  receipts := []
  locks := fun _ => none

namespace Database

variable (database : Database)

/-! ## Reads -/

/-- `where({ operation_key })`. -/
def operation (operationKey : String) : Option TokenOperation :=
  database.operations.find? (·.operationKey == operationKey)

/-- Another award of the same provider and physical charging session. -/
def otherAwardOfSession
    (providerId chargingSessionId operationKey : String) :
    Option TokenOperation :=
  database.operations.find? fun row =>
    row.operationType == .award &&
      row.providerId == some providerId &&
      row.chargingSessionId == some chargingSessionId &&
      row.operationKey != operationKey

/-- Another award claim that owns the same legacy key. -/
def otherAwardOfLegacyKey
    (legacyKey operationKey : String) :
    Option TokenOperation :=
  database.operations.find? fun row =>
    row.operationType == .award && row.legacyKey == some legacyKey &&
      row.operationKey != operationKey

/-- A reservation whose amount is held against its wallet. -/
def holdsReservation
    (wallet : String)
    (row : SpendReservation) :
    Bool :=
  sameWallet row.walletAddress wallet && !row.status.isTerminal
where
  sameWallet (left right : String) : Bool :=
    lowerText left == lowerText right

/-- The total of the active reservations of a wallet, in cents. -/
def reservationHolds (wallet : String) : Nat :=
  ((database.reservations.filter (holdsReservation wallet)).map
    (·.reservedAmount.units)).sum

/-- A manual spend of a wallet that has not been resolved. -/
def holdsManual
    (wallet : String)
    (exceptKey : Option String)
    (row : TokenOperation) :
    Bool :=
  row.operationType == .spend && row.reservationId.isNone &&
    holdsReservation.sameWallet row.walletAddress wallet &&
    some row.operationKey != exceptKey &&
    row.status != .projected &&
    row.movementOutcome != .noMovement &&
    (row.txHash.isSome || row.status == .submitting ||
      row.status == .submitted || row.status == .confirmed ||
      row.status == .unknown)

/-- The total of the unresolved manual spends of a wallet, in cents. -/
def manualHolds (wallet : String) (exceptKey : Option String) : Nat :=
  ((database.operations.filter (holdsManual wallet exceptKey)).map
    (·.amount.units)).sum

/-- `where({ operation_key })` on the leases. -/
def lease (operationKey : String) : Option TreasuryLease :=
  database.leases.find? (·.operationKey == operationKey)

/-- The leases of one chain and signer. -/
def signerLeases (chainId signerAddress : String) : List TreasuryLease :=
  database.leases.filter fun row =>
    row.chainId == chainId &&
      lowerText row.signerAddress == lowerText signerAddress

/-- The lease with the lowest nonce of two. -/
def lowerNonce
    (best : Option TreasuryLease)
    (row : TreasuryLease) :
    Option TreasuryLease :=
  match best with
  | none => some row
  | some found => if row.nonce < found.nonce then some row else best

/-- The first `prepared` or `unknown` lease at or above a nonce. -/
def unresolvedLease
    (chainId signerAddress : String)
    (pendingNonce : Nat) :
    Option TreasuryLease :=
  ((database.signerLeases chainId signerAddress).filter fun row =>
    (row.status == .prepared || row.status == .unknown) &&
      decide (pendingNonce ≤ row.nonce)).foldl lowerNonce none

/-- The largest nonce of the leases that have not failed. -/
def maxLeaseNonce (chainId signerAddress : String) : Option Nat :=
  (((database.signerLeases chainId signerAddress).filter
    (·.status != .failed)).map (·.nonce)).max?

/-- `where({ operation_key })` on the approval preparations. -/
def approval (operationKey : String) : Option ApprovalPreparation :=
  database.approvals.find? (·.operationKey == operationKey)

/-- The oldest lease that funded a preparation with a hash. -/
def priorFundingLease
    (operationKey : String)
    (hash : TransactionHash) :
    Option TreasuryLease :=
  database.leases.find? fun row =>
    row.targetOperationKey == some operationKey &&
      row.targetType == .approvalFunding && row.txHash == hash

/-- `where({ uid, session_id, provider_id })`. -/
def reservationOfSession
    (uid sessionId providerId : String) :
    Option SpendReservation :=
  database.reservations.find? fun row =>
    row.uid == uid && row.sessionId == sessionId &&
      row.providerId == providerId

/-- `where({ id })`. -/
def reservation (id : String) : Option SpendReservation :=
  database.reservations.find? (·.id == id)

/-- `where({ dedup_key })`. -/
def awardOfDedupKey (dedupKey : String) : Option Award :=
  database.ledger.awards.find? (·.dedupKey == dedupKey)

/-- `where lower(tx_hash) = lower(?) limit 2`, on the awards. -/
def awardsOfHash (hash : TransactionHash) : List Award :=
  (database.ledger.awards.filter (·.txHash == hash)).take 2

/-- `where lower(tx_hash) = lower(?) limit 2`, on the spends. -/
def spendsOfHash (hash : TransactionHash) : List Spend :=
  (database.ledger.spends.filter (·.txHash == hash)).take 2

/-- `where lower(token_tx_hash) = lower(?) limit 2`. -/
def receiptsOfHash (hash : TransactionHash) : List SpendReceipt :=
  (database.receipts.filter (·.tokenTxHash == hash)).take 2

/-- `where({ id })` on the users. -/
def user (id : String) : Option User :=
  database.ledger.users.find? (·.id == id)

/-- `where({ uid })` and the wallet in any letter case. -/
def userOfWallet (uid wallet : String) : Option User :=
  database.ledger.users.find? fun row =>
    row.uid == uid && lowerText row.walletAddress == lowerText wallet

/-- `where({ uid, is_active: true })`. -/
def activeUser (uid : String) : Option User :=
  database.ledger.users.find? fun row => row.uid == uid && row.isActive

/-- `where({ uid })`. -/
def userOfUid (uid : String) : Option User :=
  database.ledger.users.find? (·.uid == uid)

/-- The oldest user of a wallet; rows stand in order of creation. -/
def firstUserOfWallet (wallet : String) : Option User :=
  database.ledger.users.find? fun row =>
    lowerText row.walletAddress == lowerText wallet

/-- `where({ user_id })` on the balances. -/
def balance (userId : String) : Option Balance :=
  database.ledger.balances.find? (·.userId == userId)

/-! ## Changes -/

/-- Whether another operation already carries this hash. -/
def hashTaken
    (operationKey : String)
    (hash : TransactionHash) :
    Bool :=
  database.operations.any fun row =>
    row.operationKey != operationKey && row.txHash == some hash

/-- `insert into token_operations`, with the unique indexes on it. -/
def insertOperation (row : TokenOperation) : Except StoreError Database :=
  if database.operations.any (·.operationKey == row.operationKey) then
    .error (constraintViolation "token_operations_operation_key_unique")
  else if row.operationType == .award && row.providerId.isSome &&
      row.chargingSessionId.isSome &&
      database.operations.any fun other =>
        other.operationType == .award &&
          other.providerId == row.providerId &&
          other.chargingSessionId == row.chargingSessionId then
    .error
      (constraintViolation
        "token_operations_award_provider_charging_session_unique")
  else
    .ok { database with operations := database.operations ++ [row] }

/-- Apply a statement to the row with a key. -/
def mapOperation
    (operationKey : String)
    (write : OperationWrite) :
    Database :=
  { database with
    operations :=
      database.operations.map fun row =>
        if row.operationKey = operationKey then row.after write else row }

/-- The hash that a statement would put on a row that has none. -/
def newHash : OperationWrite → Option TransactionHash
  | .markSubmitted hash | .prepared hash _ _ => some hash
  | _ => none

/-- Whether a statement would break the unique index on hashes. -/
def hashCollides
    (operationKey : String)
    (write : OperationWrite) :
    Bool :=
  (newHash write).any fun hash => database.hashTaken operationKey hash

/-- `update … where operation_key … returning *`. -/
def updateOperation
    (operationKey : String)
    (write : OperationWrite) :
    Except StoreError (Option TokenOperation × Database) :=
  match database.operation operationKey with
  | none => .ok (none, database)
  | some row =>
      if row.admits write then
        if database.hashCollides operationKey write then
          .error (constraintViolation "token_operations_tx_hash_lower_unique")
        else
          .ok (some (row.set write),
            database.mapOperation operationKey write)
      else
        .ok (none, database)

/-- The same statement, followed by a read of the row it left. -/
def settleOperation
    (operationKey : String)
    (write : OperationWrite) :
    Option TokenOperation × Database :=
  let next := database.mapOperation operationKey write
  (next.operation operationKey, next)

/-- The target of a lease, checked and updated by `prepare`. -/
def prepareTarget (lease : TreasuryLease) : Except StoreError Database :=
  match lease.targetType with
  | .tokenOperation =>
      match database.operation lease.targetKey with
      | none => .error (.preparation "TOKEN_OPERATION_NOT_FOUND")
      | some row =>
          match row.refusal lease.txHash with
          | some error => .error error
          | none =>
              if database.hashTaken lease.targetKey lease.txHash then
                .error
                  (constraintViolation
                    "token_operations_tx_hash_lower_unique")
              else
                .ok <| database.mapOperation lease.targetKey
                  (.prepared lease.txHash lease.nonce lease.txContext)
  | .approvalFunding =>
      match database.approvals.find? (·.operationKey == lease.targetKey)
        with
      | none => .error (.preparation "APPROVAL_PREPARATION_NOT_FOUND")
      | some parent =>
          match parent.refusal lease with
          | some error => .error error
          | none =>
              .ok
                { database with
                  approvals :=
                    database.approvals.map fun row =>
                      if row.operationKey = lease.targetKey then
                        row.funded lease
                      else row }
  | .standalone => .ok database

/-- What `prepare` writes: the lease and its target, or nothing. -/
def persistPreparation
    (lease : TreasuryLease) :
    Except StoreError Database :=
  if database.leases.any (·.operationKey == lease.operationKey) then
    .error (constraintViolation "treasury_transaction_leases_operation_key_unique")
  else if (database.signerLeases lease.chainId lease.signerAddress).any
      (·.nonce == lease.nonce) then
    .error
      (constraintViolation "treasury_transaction_leases_signer_nonce_unique")
  else
    ({ database with
        leases := database.leases ++ [lease] } : Database).prepareTarget
      lease

/-- Apply a status callback to a lease and to the row it moves. -/
def mapLease (existing : TreasuryLease) (write : LeaseWrite) :
    Database :=
  let withLease : Database :=
    { database with
      leases :=
        database.leases.map fun row =>
          if row.operationKey = existing.operationKey then
            row.after write
          else row }
  match existing.targetType with
  | .tokenOperation =>
      withLease.mapOperation existing.targetKey write.onOperation
  | .approvalFunding =>
      { withLease with
        approvals :=
          withLease.approvals.map fun row =>
            if row.operationKey = existing.targetKey then
              row.afterLease existing write
            else row }
  | .standalone => withLease

/-- `TreasuryTransactions.markSubmitted`, `markUnknown` and `markFailed`. -/
def updateLease
    (operationKey : String)
    (hash : Option TransactionHash)
    (write : LeaseWrite) :
    Option TreasuryLease × Database :=
  match database.lease operationKey with
  | none => (none, database)
  | some existing =>
      if hash.any (· != existing.txHash) then (some existing, database)
      else if write = .markSubmitted ∨ existing.status.isOpen then
        (some (existing.after write), database.mapLease existing write)
      else
        (some existing, database)

/-- Apply a statement to the approval preparation with a key. -/
def mapApproval
    (operationKey : String)
    (write : ApprovalWrite) :
    Database :=
  { database with
    approvals :=
      database.approvals.map fun row =>
        if row.operationKey = operationKey then row.after write else row }

/-- `update … where operation_key … returning *`. -/
def updateApproval
    (operationKey : String)
    (write : ApprovalWrite) :
    Option ApprovalPreparation × Database :=
  match database.approval operationKey with
  | none => (none, database)
  | some row =>
      if row.admits write then
        (some (row.set write), database.mapApproval operationKey write)
      else
        (none, database)

/-- `ApprovalPreparations.claim`; the flag says whether it acquired. -/
def claimApproval
    (data : ApprovalClaimRequest) :
    Except StoreError ((ApprovalPreparation × Bool) × Database) :=
  match database.approval data.operationKey with
  | none =>
      .ok
        ((data.row, true),
          { database with
            approvals := database.approvals ++ [data.row] })
  | some existing =>
      if !existing.agrees data then
        .error <| .error
          "APPROVAL_PREPARATION_INTENT_MISMATCH: saved wallet, asset, chain, or treasury differs"
      else if existing.isReclaimable then
        .ok
          ((existing.set .reclaim, true),
            database.mapApproval data.operationKey .reclaim)
      else
        .ok ((existing, false), database)

/-- `ApprovalPreparations.claimFundingTopUp`. -/
def claimFundingTopUp
    (operationKey fundingAttemptKey : String)
    (fundingAttemptValue : Nat) :
    Except StoreError ((ApprovalPreparation × Bool) × Database) :=
  match database.approval operationKey with
  | none =>
      .error (.error ("APPROVAL_PREPARATION_MISSING: " ++ operationKey))
  | some current =>
      let write : ApprovalWrite :=
        .claimFundingTopUp fundingAttemptKey fundingAttemptValue
      if current.admits write then
        if current.fundingTxHash.all fun hash =>
            (database.priorFundingLease operationKey hash).isSome then
          .ok
            ((current.set write, true),
              database.mapApproval operationKey write)
        else
          .error (.error "APPROVAL_FUNDING_PRIOR_EVIDENCE_REQUIRED")
      else
        .ok ((current, false), database)

/-- `ApprovalPreparations.claimApprovalSubmission`. -/
def claimApprovalSubmission
    (operationKey : String) :
    Except StoreError ((ApprovalPreparation × Bool) × Database) :=
  match database.approval operationKey with
  | none =>
      .error (.error ("APPROVAL_PREPARATION_MISSING: " ++ operationKey))
  | some current =>
      if current.admits .claimApprovalSubmission then
        .ok
          ((current.set .claimApprovalSubmission, true),
            database.mapApproval operationKey .claimApprovalSubmission)
      else
        .ok ((current, false), database)

/-- `ApprovalPreparations.markUnknown`. -/
def markApprovalUnknown
    (operationKey error : String)
    (options : FundingUnknownOptions) :
    Except StoreError (Option ApprovalPreparation × Database) :=
  match database.approval operationKey with
  | none => .ok (none, database)
  | some current =>
      if options.fundingAttemptKey.isSome ∧
          current.fundingAttemptKey ≠ options.fundingAttemptKey then
        .ok (some current, database)
      else
        let update (hash : Option TransactionHash) :
            Option ApprovalPreparation × Database :=
          let (record, next) :=
            database.updateApproval operationKey
              (.markUnknown error hash options.clearFundingHash
                options.diagnostic)
          (record.or (some current), next)
        match orNull options.fundingTxHash with
        | none => .ok (update none)
        | some text =>
            match canonicalTransactionHash text with
            | none =>
                .error <| .error
                  "INVALID_TRANSACTION_HASH: funding transaction hash must be a 0x-prefixed 32-byte hexadecimal hash"
            | some hash =>
                if current.fundingTxHash.isSome ∧
                    current.fundingTxHash ≠ some hash then
                  .ok (some current, database)
                else
                  .ok (update (some hash))

/-- `insert into spend_reservations`, with the unique index on it. -/
def insertReservation
    (row : SpendReservation) :
    Except StoreError Database :=
  if database.reservations.any (·.id == row.id) then
    .error (constraintViolation "spend_reservations_pkey")
  else if database.reservations.any fun other =>
      other.uid == row.uid && other.sessionId == row.sessionId &&
        other.providerId == row.providerId then
    .error
      (constraintViolation
        "spend_reservations_uid_session_id_provider_id_unique")
  else
    .ok { database with reservations := database.reservations ++ [row] }

/-- Replace the reservation with an id by a version of it. -/
def mapReservation
    (id : String)
    (change : SpendReservation → SpendReservation) :
    Database :=
  { database with
    reservations :=
      database.reservations.map fun row =>
        if row.id = id then change row else row }

/-- `SpendReservations.claimForSettlement`. -/
def claimForSettlement
    (uid sessionId providerId : String) :
    Option SpendReservation × Database :=
  match database.reservationOfSession uid sessionId providerId with
  | none => (none, database)
  | some row =>
      if row.status = .reserved then
        (some row.claimForSettlement,
          database.mapReservation row.id
            SpendReservation.claimForSettlement)
      else
        (none, database)

/-- Lock a reservation, and replace it by what a function makes of it. -/
def rewriteReservation
    (id : String)
    (rewrite : SpendReservation → Except StoreError SpendReservation) :
    Except StoreError (SpendReservation × Database) :=
  match database.reservation id with
  | none => .error (.error ("Reservation " ++ id ++ " not found"))
  | some row => do
      let next ← rewrite row
      return (next, database.mapReservation id fun _ => next)

/-- `insert into spend_receipts`, with the unique indexes on it. -/
def insertReceipt (row : SpendReceipt) : Except StoreError Database :=
  if database.receipts.any (·.receiptId == row.receiptId) then
    .error (constraintViolation "spend_receipts_receipt_id_unique")
  else if database.receipts.any (·.tokenTxHash == row.tokenTxHash) then
    .error
      (constraintViolation "spend_receipts_token_tx_hash_lower_unique")
  else
    .ok { database with receipts := database.receipts ++ [row] }

end Database

end Sparkz
