import Sparkz.InterleavingPast
import Sparkz.Database
import Sparkz.SpendEvidence

namespace Sparkz

open Interleaving

/-!
# The operations of a financial call

A call of the service reads and writes the database, talks to the chain
provider and the treasury signer, and uses a few services around them.  Every
one of these is an operation that another call may overtake, and every one may
fail.  Notes mark the moments that statements about runs refer to; they are not
operations of the code.
-/

/-- One read of the database. -/
inductive Query where
  | operation : (operationKey : String) → Query
  | otherAwardOfSession :
      (providerId chargingSessionId operationKey : String) →
      Query
  | otherAwardOfLegacyKey : (legacyKey operationKey : String) → Query
  | reservationHolds : (wallet : String) → Query
  | manualHolds : (wallet : String) → (exceptKey : Option String) → Query
  | lease : (operationKey : String) → Query
  | unresolvedLease :
      (chainId signerAddress : String) →
      (pendingNonce : Nat) →
      Query
  | maxLeaseNonce : (chainId signerAddress : String) → Query
  | approval : (operationKey : String) → Query
  | reservationOfSession : (uid sessionId providerId : String) → Query
  | reservation : (id : String) → Query
  | awardOfDedupKey : (dedupKey : String) → Query
  | awardsOfHash : TransactionHash → Query
  | spendsOfHash : TransactionHash → Query
  | receiptsOfHash : TransactionHash → Query
  | user : (id : String) → Query
  | userOfWallet : (uid wallet : String) → Query
  | activeUser : (uid : String) → Query
  | userOfUid : (uid : String) → Query
  | firstUserOfWallet : (wallet : String) → Query
  | balance : (userId : String) → Query
  deriving DecidableEq

/-- What a read returns. -/
abbrev Query.Result : Query → Type
  | .operation _ | .otherAwardOfSession _ _ _
  | .otherAwardOfLegacyKey _ _ => Option TokenOperation
  | .reservationHolds _ | .manualHolds _ _ => Nat
  | .lease _ | .unresolvedLease _ _ _ => Option TreasuryLease
  | .maxLeaseNonce _ _ => Option Nat
  | .approval _ => Option ApprovalPreparation
  | .reservationOfSession _ _ _ | .reservation _ =>
      Option SpendReservation
  | .awardOfDedupKey _ => Option Award
  | .awardsOfHash _ => List Award
  | .spendsOfHash _ => List Spend
  | .receiptsOfHash _ => List SpendReceipt
  | .user _ | .userOfWallet _ _ | .activeUser _ | .userOfUid _
  | .firstUserOfWallet _ => Option User
  | .balance _ => Option Balance

/-- The committed answer to a read. -/
def Query.answer (database : Database) : (query : Query) → query.Result
  | .operation operationKey => database.operation operationKey
  | .otherAwardOfSession providerId chargingSessionId operationKey =>
      database.otherAwardOfSession providerId chargingSessionId
        operationKey
  | .otherAwardOfLegacyKey legacyKey operationKey =>
      database.otherAwardOfLegacyKey legacyKey operationKey
  | .reservationHolds wallet => database.reservationHolds wallet
  | .manualHolds wallet exceptKey =>
      database.manualHolds wallet exceptKey
  | .lease operationKey => database.lease operationKey
  | .unresolvedLease chainId signerAddress pendingNonce =>
      database.unresolvedLease chainId signerAddress pendingNonce
  | .maxLeaseNonce chainId signerAddress =>
      database.maxLeaseNonce chainId signerAddress
  | .approval operationKey => database.approval operationKey
  | .reservationOfSession uid sessionId providerId =>
      database.reservationOfSession uid sessionId providerId
  | .reservation id => database.reservation id
  | .awardOfDedupKey dedupKey => database.awardOfDedupKey dedupKey
  | .awardsOfHash hash => database.awardsOfHash hash
  | .spendsOfHash hash => database.spendsOfHash hash
  | .receiptsOfHash hash => database.receiptsOfHash hash
  | .user id => database.user id
  | .userOfWallet uid wallet => database.userOfWallet uid wallet
  | .activeUser uid => database.activeUser uid
  | .userOfUid uid => database.userOfUid uid
  | .firstUserOfWallet wallet => database.firstUserOfWallet wallet
  | .balance userId => database.balance userId

/-- Everything one transaction writes. -/
inductive Change where
  | insertOperation : TokenOperation → Change
  | updateOperation : (operationKey : String) → OperationWrite → Change
  | settleOperation : (operationKey : String) → OperationWrite → Change
  | persistPreparation : TreasuryLease → Change
  | updateLease :
      (operationKey : String) →
      Option TransactionHash →
      LeaseWrite →
      Change
  | claimApproval : ApprovalClaimRequest → Change
  | updateApproval : (operationKey : String) → ApprovalWrite → Change
  | claimFundingTopUp :
      (operationKey fundingAttemptKey : String) →
      (fundingAttemptValue : Nat) →
      Change
  | claimApprovalSubmission : (operationKey : String) → Change
  | markApprovalUnknown :
      (operationKey error : String) →
      FundingUnknownOptions →
      Change
  | insertReservation : SpendReservation → Change
  | claimForSettlement : (uid sessionId providerId : String) → Change
  | persistSettlementContext : (id : String) → DecimalText → Change
  | completeReservation :
      (id : String) →
      (deliveredKwh settledAmount : JsNumber) →
      Option TransactionHash →
      Change
  | retryReservation : (id error : String) → Change
  | recordAward : ProjectionUser → Award → BalanceWrite → Change
  | recordSpend : ProjectionUser → Spend → BalanceWrite → Change
  | insertReceipt : SpendReceipt → Change
  deriving DecidableEq

/-- What a transaction returns for its writes. -/
abbrev Change.Result : Change → Type
  | .insertOperation _ => TokenOperation
  | .updateOperation _ _ | .settleOperation _ _ => Option TokenOperation
  | .persistPreparation _ => TreasuryLease
  | .updateLease _ _ _ => Option TreasuryLease
  | .claimApproval _ | .claimFundingTopUp _ _ _
  | .claimApprovalSubmission _ => ApprovalPreparation × Bool
  | .updateApproval _ _ | .markApprovalUnknown _ _ _ =>
      Option ApprovalPreparation
  | .insertReservation _ | .persistSettlementContext _ _
  | .completeReservation _ _ _ _ => SpendReservation
  | .claimForSettlement _ _ _ => Option SpendReservation
  | .retryReservation _ _ => Unit
  | .recordAward _ _ _ => Award
  | .recordSpend _ _ _ => Spend
  | .insertReceipt _ => SpendReceipt

/-- Apply all writes of a transaction, or none of them. -/
def Change.apply
    (database : Database) :
    (change : Change) →
    Except StoreError (change.Result × Database)
  | .insertOperation row =>
      (database.insertOperation row).map fun next => (row, next)
  | .updateOperation operationKey write =>
      database.updateOperation operationKey write
  | .settleOperation operationKey write =>
      .ok (database.settleOperation operationKey write)
  | .persistPreparation lease =>
      (database.persistPreparation lease).map fun next => (lease, next)
  | .updateLease operationKey hash write =>
      .ok (database.updateLease operationKey hash write)
  | .claimApproval data => database.claimApproval data
  | .updateApproval operationKey write =>
      .ok (database.updateApproval operationKey write)
  | .claimFundingTopUp operationKey fundingAttemptKey
      fundingAttemptValue =>
      database.claimFundingTopUp operationKey fundingAttemptKey
        fundingAttemptValue
  | .claimApprovalSubmission operationKey =>
      database.claimApprovalSubmission operationKey
  | .markApprovalUnknown operationKey error options =>
      database.markApprovalUnknown operationKey error options
  | .insertReservation row =>
      (database.insertReservation row).map fun next => (row, next)
  | .claimForSettlement uid sessionId providerId =>
      .ok (database.claimForSettlement uid sessionId providerId)
  | .persistSettlementContext id parts =>
      database.rewriteReservation id
        (·.persistSettlementContext parts)
  | .completeReservation id deliveredKwh settledAmount txHash =>
      database.rewriteReservation id
        (·.complete deliveredKwh settledAmount txHash)
  | .retryReservation id error =>
      .ok ((), database.mapReservation id (·.retry error))
  | .recordAward user award balance =>
      (database.ledger.commitAward user award balance).map fun ledger =>
        (award, { database with ledger := ledger })
  | .recordSpend user spend balance =>
      (database.ledger.commitSpend user spend balance).map fun ledger =>
        (spend, { database with ledger := ledger })
  | .insertReceipt row =>
      (database.insertReceipt row).map fun next => (row, next)

/-! ## The chain and the services around it -/

/-- Fee data of the provider. -/
structure FeeData where
  maxFeePerGas : Option Nat
  maxPriorityFeePerGas : Option Nat
  gasPrice : Option Nat
  deriving Repr, DecidableEq

/-- A transaction that is estimated and signed. -/
structure TransactionRequest where
  toAddress : String
  data : String
  value : Nat
  nonce : Nat
  chainId : String
  accessList : AccessList
  type : Option Nat
  maxFeePerGas : Option Nat
  maxPriorityFeePerGas : Option Nat
  gasPrice : Option Nat
  gasLimit : Option Nat
  deriving Repr, DecidableEq

/-- A transfer of native currency, as the provider returns it. -/
structure NativeTransfer where
  hash : String
  sender : String
  toAddress : Option String
  value : Nat
  deriving Repr, DecidableEq

/--
A call to the provider or the signer.  The operation key of a signature and of
a broadcast says which operation they are for; it is not sent anywhere.
-/
inductive ChainRequest where
  | network
  | signerAddress
  | pendingNonce : (address : String) → ChainRequest
  | feeData
  | estimateGas : TransactionRequest → ChainRequest
  | signTransaction :
      (operationKey : String) →
      TransactionRequest →
      ChainRequest
  | broadcastTransaction :
      (operationKey rawTransaction : String) →
      ChainRequest
  | signMessage : SpendReceiptPayload → ChainRequest
  | allowance : (token owner spender : String) → ChainRequest
  | balanceOf : (token owner : String) → ChainRequest
  | staticTransferFrom :
      (source recipient : String) →
      (amountUnits : Nat) →
      ChainRequest
  | transaction : (txHash : String) → ChainRequest
  | receipt : (txHash : String) → ChainRequest
  | nativeBalance : (address : String) → ChainRequest
  /-- `provider.getTransactionCount(address, 'latest')`. -/
  | latestNonce : (address : String) → ChainRequest
  /-- `provider.getTransaction`, of a transfer of native currency. -/
  | nativeTransfer : (txHash : String) → ChainRequest
  /-- The gas that a wallet needs to approve the treasury. -/
  | estimateApprovalGas :
      (walletAddress token treasuryAddress : String) →
      ChainRequest
  /-- A managed wallet signs and sends its approval of the treasury. -/
  | sendApproval :
      (walletAddress token treasuryAddress : String) →
      ChainRequest
  | waitForTransaction : (txHash : String) → ChainRequest
  deriving DecidableEq

/-- What the provider or the signer returns. -/
abbrev ChainRequest.Reply : ChainRequest → Type
  | .network | .estimateGas _ | .allowance _ _ _ | .balanceOf _ _
  | .nativeBalance _ | .estimateApprovalGas _ _ _ => Nat
  | .signerAddress | .signTransaction _ _ | .broadcastTransaction _ _
  | .signMessage _ | .sendApproval _ _ _ => String
  | .pendingNonce _ | .latestNonce _ => JsNumber
  | .feeData => FeeData
  | .staticTransferFrom _ _ _ => Unit
  | .transaction _ => Option TransactionResponse
  | .receipt _ | .waitForTransaction _ => Option TransactionReceipt
  | .nativeTransfer _ => Option NativeTransfer

/-- The environment variables that a request reads. -/
structure Environment where
  TREASURY_ADDRESS : Option String
  TOKEN_CONTRACT_ADDRESS : Option String
  CHAIN_ID : Option String
  deriving Repr, DecidableEq

inductive WalletMode where
  | managed
  | custodial
  deriving Repr, DecidableEq

structure WalletConfig where
  walletAddress : String
  walletMode : WalletMode
  deriving Repr, DecidableEq

/-- What the reward rules make of a session under the policy in force. -/
structure AwardCalculation where
  amount : JsNumber
  dedupKey : String
  metadata : AwardMetadata
  deriving DecidableEq

/-- A call to a service around the financial core. -/
inductive ServiceRequest where
  | environment
  | leaseAge
  | newId
  | sampleBalance
  | walletConfig : (uid : JsString) → ServiceRequest
  | deduplicationCheck : (dedupKey : String) → ServiceRequest
  | calculateAward : NormalisedSession → ServiceRequest
  /-- `new Date().toISOString()`. -/
  | now
  /-- `LinkedWallets.findByUid`. -/
  | linkedWallets : (uid : String) → ServiceRequest
  /-- `safeAuditLog`, which never throws. -/
  | auditLog : (eventType targetId : String) → ServiceRequest
  deriving DecidableEq

/-- What a service returns. -/
abbrev ServiceRequest.Reply : ServiceRequest → Type
  | .environment => Environment
  | .leaseAge => Option Int
  | .newId | .now => String
  | .sampleBalance => Except Failure JsNumber
  | .walletConfig _ => Except Failure WalletConfig
  | .deduplicationCheck _ => Except Failure Bool
  | .calculateAward _ => Except Failure AwardCalculation
  | .linkedWallets _ => Except Failure (List LinkedWallet)
  | .auditLog _ _ => Unit

/-! ## Notes -/

/-- An operation as a projection function receives it. -/
structure OperationView where
  operationKey : String
  status : OperationStatus
  legacyKey : Option String
  uid : Option JsString
  txHash : Option TransactionHash
  amount : TokenAmount
  walletAddress : String
  sessionId : Option JsString
  intentContext : Option IntentContext
  movementOutcome : Option MovementOutcome
  diagnosticContext : Option TransactionDiagnostic
  deriving DecidableEq

/-- The stored row as a projection function receives it. -/
def TokenOperation.view (row : TokenOperation) : OperationView where
  operationKey := row.operationKey
  status := row.status
  legacyKey := row.legacyKey
  uid := some (jsString row.uid)
  txHash := row.txHash
  amount := row.amount
  walletAddress := row.walletAddress
  sessionId := row.sessionId.map jsString
  intentContext := row.intentContext
  movementOutcome := some row.movementOutcome
  diagnosticContext := row.diagnosticContext

/-- A movement as it is handed to `recordAward` or `recordSpend`. -/
structure RecordedMovement where
  operationKey : String
  operationType : OperationType
  txHash : TransactionHash
  amount : JsNumber
  walletAddress : String
  deriving DecidableEq

/-- A moment of a call that statements about runs refer to. -/
inductive Note where
  /-- A call of `processSpend` or `processAwardFromCDR` knows its key. -/
  | invoked : (operationKey : String) → Note
  /-- The same call returns, with this movement outcome. -/
  | responded :
      (operationKey : String) →
      Option MovementOutcome →
      Note
  /-- An admission compares its amount with this on-chain balance. -/
  | balance : JsNumber → Note
  /-- A preparation allocates its nonce from this pending nonce. -/
  | pendingNonce : JsNumber → Note
  /-- `TreasuryTransactions.prepare` returns. -/
  | prepared : TreasuryLease → (alreadyPrepared : Bool) → Note
  /-- `verifySpendEvidence` returns. -/
  | evidence : SpendEvidenceRequest → SpendEvidenceResult → Note
  /-- `projectSpendOperation` or `projectAwardOperation` is called. -/
  | projecting : OperationType → OperationView → Note
  /-- `recordSpend` or `recordAward` is called. -/
  | recording : RecordedMovement → Note
  /-- The same call has returned normally. -/
  | recorded : RecordedMovement → Note
  /-- `createAndStoreSpendReceipt` returns. -/
  | receipt : SignedSpendReceipt → Note
  /-- `settlementFailure` is evaluated in `processSpend`. -/
  | settlementFailure : (operationKey : String) → Note
  /-- An approval of a managed wallet starts, and nobody waits for it. -/
  | approving : (uid treasuryAddress : String) → Note
  deriving DecidableEq

/-! ## The signature and its meaning -/

/-- One operation of a call. -/
inductive Op where
  | lock : LockKey → Op
  | release
  | read : Query → Op
  | write : Change → Op
  | chain : ChainRequest → Op
  | service : ServiceRequest → Op
  | note : Note → Op

/-- What an operation is answered with. -/
abbrev Op.Answer : Op → Type
  | .lock _ => Except StoreError Unit
  | .release | .note _ => Unit
  | .read query => Except StoreError query.Result
  | .write change => Except StoreError change.Result
  | .chain request => Except ProviderError request.Reply
  | .service request => request.Reply

/-- The operations of the service. -/
abbrev sparkz : Signature where
  Op := Op
  Answer := Op.Answer

/-- What becomes of a statement on its way to the database and back. -/
inductive Fault where
  | none
  /-- The statement has no effect and the caller sees an error. -/
  | refused : (message : String) → Fault
  /-- The statement takes effect and the caller sees an error. -/
  | replyLost : (message : String) → Fault
  deriving DecidableEq

/-- What the environment decides at one step. -/
structure Choice where
  fault : Fault
  chain :
    (request : ChainRequest) → Except ProviderError request.Reply
  service : (request : ServiceRequest) → request.Reply

/-- Statements take effect, and nothing outside the database answers. -/
def Choice.databaseOnly : Choice where
  fault := .none
  chain := fun _ => .error ⟨"", false, false⟩
  service := fun request =>
    match request with
    | .environment => ⟨none, none, none⟩
    | .leaseAge => none
    | .newId | .now => ""
    | .auditLog _ _ => ()
    | .sampleBalance | .walletConfig _ | .deduplicationCheck _
    | .calculateAward _ | .linkedWallets _ =>
        .error (.error "")

namespace Database

/-- Give up every advisory lock of a call. -/
def releaseLocks (database : Database) (thread : Nat) : Database :=
  { database with
    locks := fun key =>
      if database.locks key = some thread then none
      else database.locks key }

/-- Take an advisory lock that is free or already one's own. -/
def takeLock
    (database : Database)
    (thread : Nat)
    (key : LockKey) :
    Option Database :=
  if database.locks key = none ∨ database.locks key = some thread then
    some
      { database with
        locks := fun query =>
          if query = key then some thread else database.locks query }
  else
    none

/-- The end of a transaction: its writes, and its locks are free. -/
def commit
    (database : Database)
    (thread : Nat)
    (change : Change) :
    Except StoreError change.Result × Database :=
  match change.apply database with
  | .ok (result, next) => (.ok result, next.releaseLocks thread)
  | .error error => (.error error, database.releaseLocks thread)

end Database

/--
The answer to one operation.  A lock that another call holds makes the
operation wait.  `replies` says whether the reply to a write may be lost.
-/
def respond
    (repliesMayBeLost : Bool)
    (thread : Nat) :
    (op : Op) →
    Choice →
    Database →
    Option (op.Answer × Database)
  | .lock key, choice, database =>
      match choice.fault with
      | .none =>
          (database.takeLock thread key).map fun next => (.ok (), next)
      | .refused message | .replyLost message =>
          some (.error (.error message), database)
  | .release, _, database => some ((), database.releaseLocks thread)
  | .read query, choice, database =>
      match choice.fault with
      | .none => some (.ok (query.answer database), database)
      | .refused message | .replyLost message =>
          some (.error (.error message), database)
  | .write change, choice, database =>
      match choice.fault with
      | .none => some (database.commit thread change)
      | .refused message =>
          some (.error (.error message), database.releaseLocks thread)
      | .replyLost message =>
          if repliesMayBeLost then
            some (.error (.error message),
              (database.commit thread change).2)
          else
            none
  | .chain request, choice, database =>
      some (choice.chain request, database)
  | .service request, choice, database =>
      some (choice.service request, database)
  | .note _, _, database => some ((), database)

/-- The service around one database; a stopped call loses its locks. -/
def semantics (repliesMayBeLost : Bool) : Semantics sparkz Database where
  Choice := Choice
  respond := respond repliesMayBeLost
  stop := fun thread database => database.releaseLocks thread

/-- A program of the service. -/
abbrev Call := Program sparkz Failure

/-! ## Issuing operations -/

/-- Issue an operation that throws when it is answered with an error. -/
def issue {ε α : Type}
    (failure : ε → Failure)
    (answer : Call (Except ε α)) :
    Call α := do
  match ← answer with
  | .ok value => return value
  | .error error => .fail (failure error)

/-- Take an advisory lock, or throw. -/
def lock (key : LockKey) : Call Unit :=
  issue StoreError.failure (Program.call (S := sparkz) (.lock key))

/-- End a transaction that has written nothing. -/
def release : Call Unit :=
  Program.call (S := sparkz) .release

/-- Read committed rows, or throw. -/
def read (query : Query) : Call query.Result :=
  issue StoreError.failure (Program.call (S := sparkz) (.read query))

/-- Commit a change, or throw. -/
def write (change : Change) : Call change.Result :=
  issue StoreError.failure (Program.call (S := sparkz) (.write change))

/-- Ask the provider or the signer, or throw. -/
def chain (request : ChainRequest) : Call request.Reply :=
  issue ProviderError.failure
    (Program.call (S := sparkz) (.chain request))

/-- Ask a service. -/
def service (request : ServiceRequest) : Call request.Reply :=
  Program.call (S := sparkz) (.service request)

/-- Leave a note. -/
def note (note : Note) : Call Unit :=
  Program.call (S := sparkz) (.note note)

/-- Return the value of a check, or throw its error. -/
def orThrow {α : Type} (answer : Except Failure α) : Call α :=
  Program.ofExcept answer

/-- Throw. -/
def throwFailure {α : Type} (failure : Failure) : Call α :=
  .fail failure

/-- A transaction: it gives its locks up however its body ends. -/
def transaction {α : Type} (body : Call α) : Call α := do
  match ← body.attempt with
  | .ok value =>
      release
      return value
  | .error failure =>
      release
      throwFailure failure

end Sparkz
