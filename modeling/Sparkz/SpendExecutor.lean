import Sparkz.TokenOperations
import Sparkz.SpendReservations
import Sparkz.LedgerProjection
import Sparkz.TransactionReliability

namespace Sparkz

/-!
# Executing a spend

`processSpend` claims the operation of its key, checks the wallet, sends the
transfer and projects it.  A request that does not acquire the operation only
continues with what is saved.
-/

/-- The physical record a settlement is based on. -/
structure SettlementRequest where
  reservationId : JsString
  deliveredKwh : JsNumber
  deriving DecidableEq

/-- A request to `processSpend`. -/
structure SpendOperationRequest where
  userAddress : String
  amount : JsNumber
  sessionId : Option JsString
  uid : Option JsString
  providerId : Option JsString
  operationKey : Option String
  idempotencyKey : Option String
  reservationId : Option JsString
  settlementContext : Option SettlementRequest
  deriving DecidableEq

/-- What `processSpend` returns. -/
structure ReliableSpendExecutionResult where
  success : Bool
  amount : JsNumber
  userAddress : String
  txHash : Option TransactionHash
  dbStored : Option Bool
  dbError : Option String
  error : Option String
  diagnostic : Option TransactionDiagnostic
  retryable : Option Bool
  operationKey : Option String
  operationStatus : Option OperationStatus
  pending : Option Bool
  requiresReview : Option Bool
  preflightFailure : Option Bool
  preflightApprovalEligible : Option Bool
  duplicate : Option Bool
  movementOutcome : Option MovementOutcome
  deriving DecidableEq

/-- A result that says no more than whom and how much it is about. -/
def spendResult
    (success : Bool)
    (amount : JsNumber)
    (userAddress : String) :
    ReliableSpendExecutionResult where
  success := success
  amount := amount
  userAddress := userAddress
  txHash := none
  dbStored := none
  dbError := none
  error := none
  diagnostic := none
  retryable := none
  operationKey := none
  operationStatus := none
  pending := none
  requiresReview := none
  preflightFailure := none
  preflightApprovalEligible := none
  duplicate := none
  movementOutcome := none

/-- A refused request. -/
def refusedSpend
    (request : SpendOperationRequest)
    (error : String) :
    ReliableSpendExecutionResult :=
  { spendResult false request.amount request.userAddress with
    error := some error }

/-- `prepareSpend(request)`: the amount of a valid request. -/
def prepareSpend (request : SpendOperationRequest) : Option TokenAmount :=
  match canonicalTokenAmount request.amount with
  | none => none
  | some amount =>
      if amount.units > 0 ∧ request.userAddress ≠ "" then some amount
      else none

/-- `isNonEmptyOperationKey(value)`. -/
def isNonEmptyOperationKey (value : String) : Bool :=
  trimText value != ""

/-- `pendingSpendResult(request, …)`. -/
def pendingSpendResult
    (request : SpendOperationRequest)
    (operationStatus : OperationStatus)
    (error : String)
    (txHash : Option TransactionHash)
    (requiresReview : Bool)
    (movementOutcome : Option MovementOutcome)
    (diagnostic : Option TransactionDiagnostic) :
    ReliableSpendExecutionResult :=
  { spendResult false request.amount request.userAddress with
    operationKey := request.operationKey
    txHash := txHash
    operationStatus := some operationStatus
    pending := some true
    requiresReview := some requiresReview
    movementOutcome := movementOutcome
    diagnostic := diagnostic
    error := some error }

/-- `preflightFailureResult(request, operationKey, …)`. -/
def preflightFailureResult
    (request : SpendOperationRequest)
    (operationKey error : String)
    (approvalEligible : Bool)
    (movementOutcome : MovementOutcome)
    (diagnostic : Option TransactionDiagnostic) :
    ReliableSpendExecutionResult :=
  let retryable :=
    match diagnostic with
    | some diagnostic => diagnostic.retryable
    | none => !approvalEligible
  { spendResult false request.amount request.userAddress with
    operationKey := some operationKey
    operationStatus := some .failed
    pending := some retryable
    preflightFailure := some true
    preflightApprovalEligible := some approvalEligible
    movementOutcome := some movementOutcome
    retryable := some retryable
    diagnostic := diagnostic
    error := some error }

/-! ## Evidence -/

/-- `evidencePending(failureCode)`. -/
def evidencePending : SpendEvidenceFailureCode → Bool
  | .receiptPending | .providerError | .transactionNotFound => true
  | _ => false

/-- `evidenceDiagnostic(failureCode, txHash, sourceFailure)`. -/
def evidenceDiagnostic
    (failureCode : SpendEvidenceFailureCode)
    (txHash : Option TransactionHash)
    (sourceFailure : Option SpendEvidenceFailure) :
    TransactionDiagnostic :=
  let pending := evidencePending failureCode
  let source := sourceFailure.bind (·.diagnostic)
  { stage := .receipt
    category :=
      some
        (if pending then .confirmationPending else .reviewRequired)
    rpcMethod :=
      some (orText (source.map (·.rpcMethod)) "spendEvidence.read")
    errorCode :=
      if failureCode = .providerError then "RECEIPT_READ_UNAVAILABLE"
      else failureCode.text
    retryable := (source.map (·.retryable)).getD pending
    savedHash := txHash
    nonce := none }

/-- The evidence a saved spend needs. -/
def spendEvidenceRequest
    (assetContext : TokenAssetContext)
    (treasuryAddress sourceWallet : String)
    (amount : TokenAmount)
    (txHash : TransactionHash) :
    SpendEvidenceRequest where
  tokenContractAddress := assetContext.tokenContractAddress
  chainId := .text assetContext.chainId
  sourceWallet := sourceWallet
  treasuryRecipient :=
    orText assetContext.treasuryAddress treasuryAddress
  amountUnits := .bigint amount.baseUnits
  txHash := txHash.text

/-! ## Projection -/

/-- The movement that `projectSpendOperation` hands to `recordSpend`. -/
def OperationView.spendMovement
    (operation : OperationView)
    (txHash : TransactionHash)
    (walletAddress : String) :
    RecordedMovement where
  operationKey := operation.operationKey
  operationType := .spend
  txHash := txHash
  amount := operation.amount.number
  walletAddress := walletAddress

/-- The request as the saved operation answers it. -/
def replayRequest
    (operation : OperationView)
    (request : SpendOperationRequest) :
    SpendOperationRequest :=
  { request with
    uid := JsString.orNull operation.uid <|> request.uid
    userAddress :=
      orText (some operation.walletAddress) request.userAddress
    amount := operation.amount.number
    sessionId :=
      JsString.orNull operation.sessionId <|> request.sessionId
    operationKey := some operation.operationKey }

/-- A result about the amount and wallet of a replayed request. -/
def replayResult
    (success : Bool)
    (operation : OperationView)
    (replay : SpendOperationRequest) :
    ReliableSpendExecutionResult :=
  { spendResult success operation.amount.number replay.userAddress with
    operationKey := some operation.operationKey
    txHash := operation.txHash }

/-- The end of a projection: the ledger first, then the operation. -/
def recordAndProjectSpend
    (operation : OperationView)
    (replay : SpendOperationRequest)
    (txHash : TransactionHash)
    (movementOutcome : MovementOutcome) :
    Call ReliableSpendExecutionResult := do
  let movement := operation.spendMovement txHash replay.userAddress
  note (.recording movement)
  match ← (recordSpend
      { userWallet := replay.userAddress
        amount := operation.amount.number
        txHash := txHash.text
        sessionId := replay.sessionId
        uid := replay.uid }).attempt with
  | .error failure =>
      let _ ←
        (TokenOperations.markProjectionError operation.operationKey
          failure.message).attempt
      return {
        pendingSpendResult replay .confirmed
          ("Spend transfer is confirmed, but database projection is pending: " ++
            failure.message)
          (some txHash) false (some movementOutcome) none with
        dbStored := some false
        dbError := some failure.message }
  | .ok () =>
      note (.recorded movement)
      match ← (TokenOperations.markProjected
          operation.operationKey).attempt with
      | .error failure =>
          return {
            pendingSpendResult replay .confirmed
              ("Spend transfer is confirmed, but operation completion is pending: " ++
                failure.message)
              (some txHash) false (some movementOutcome) none with
            dbStored := some true
            dbError := some failure.message }
      | .ok projectedOperation =>
          return {
            replayResult true operation replay with
            dbStored := some true
            operationStatus := some .projected
            movementOutcome :=
              some
                ((projectedOperation.map (·.movementOutcome)).getD
                  movementOutcome) }

/-- Chain evidence that is not there yet leaves the operation pending. -/
def spendEvidencePending
    (operation : OperationView)
    (replay : SpendOperationRequest)
    (movementOutcome : MovementOutcome)
    (savedError resultError : String)
    (requiresReview : Bool)
    (diagnostic : TransactionDiagnostic) :
    Call ReliableSpendExecutionResult := do
  let _ ←
    (TokenOperations.markUnknown operation.operationKey savedError
      (some (some diagnostic))).attempt
  return pendingSpendResult replay operation.status resultError
    operation.txHash requiresReview (some movementOutcome)
    (some diagnostic)

/-- Chain evidence that refutes the transfer ends the operation. -/
def spendEvidenceRejected
    (operation : OperationView)
    (replay : SpendOperationRequest)
    (failure : SpendEvidenceFailure) :
    Call ReliableSpendExecutionResult := do
  let diagnostic :=
    evidenceDiagnostic failure.code operation.txHash (some failure)
  let evidenceMovementOutcome : MovementOutcome :=
    if failure.code = .transactionFailed then .noMovement else .review
  match ← (TokenOperations.markFailed operation.operationKey
      ("Spend evidence rejected: " ++ failure.message)
      evidenceMovementOutcome (some (some diagnostic))).attempt with
  | .error storeFailure =>
      return pendingSpendResult replay operation.status
        ("Spend evidence was rejected, but durable failure state could not be saved: " ++
          storeFailure.message)
        operation.txHash true (some evidenceMovementOutcome)
        (some diagnostic)
  | .ok failedOperation =>
      let movementOutcome :=
        if evidenceMovementOutcome = .review then .review
        else
          (failedOperation.map (·.movementOutcome)).getD
            evidenceMovementOutcome
      if movementOutcome = .review then
        return pendingSpendResult replay .failed
          ("Spend transfer was not projected because chain evidence requires operator review (" ++
            failure.code.text ++ "): " ++ failure.message)
          operation.txHash true (some movementOutcome) (some diagnostic)
      else
        return {
          replayResult false operation replay with
          operationStatus := some .failed
          requiresReview := some false
          movementOutcome := some movementOutcome
          diagnostic := some diagnostic
          error :=
            some
              ("Spend transfer was not projected because chain evidence was rejected (" ++
                failure.code.text ++ "): " ++ failure.message) }

/-- Verify a submitted or unknown operation, then project it. -/
def verifyAndProjectSpend
    (operation : OperationView)
    (replay : SpendOperationRequest)
    (txHash : TransactionHash)
    (movementOutcome : MovementOutcome)
    (verifyEvidence : Option (Call SpendEvidenceResult)) :
    Call ReliableSpendExecutionResult :=
  match verifyEvidence with
  | none =>
      pure <| pendingSpendResult replay operation.status
        "Spend transaction is awaiting confirmation." operation.txHash
        false (some movementOutcome) operation.diagnosticContext
  | some verify => do
      match ← verify.attempt with
      | .error failure =>
          spendEvidencePending operation replay movementOutcome
            "Spend transaction confirmation is pending"
            ("Spend transaction confirmation is pending: " ++
              failure.message)
            false
            (evidenceDiagnostic .providerError operation.txHash none)
      | .ok (.error failure) =>
          if evidencePending failure.code then
            spendEvidencePending operation replay movementOutcome
              ("Spend transaction confirmation is pending: " ++
                failure.message)
              ("Spend transaction confirmation is pending: " ++
                failure.message)
              (failure.code == .transactionNotFound)
              (evidenceDiagnostic failure.code operation.txHash
                (some failure))
          else
            spendEvidenceRejected operation replay failure
      | .ok (.ok _) =>
          match ← (TokenOperations.markConfirmed operation.operationKey
              none).attempt with
          | .error failure =>
              return pendingSpendResult replay .submitted
                ("Spend was confirmed on-chain but confirmation state could not be saved: " ++
                  failure.message)
                operation.txHash false (some movementOutcome) none
          | .ok confirmedOperation =>
              recordAndProjectSpend operation replay txHash
                ((confirmedOperation.map (·.movementOutcome)).getD
                  .confirmed)

/-- A failed operation is answered from what it has saved. -/
def failedSpendResult
    (operation : OperationView)
    (replay : SpendOperationRequest)
    (movementOutcome : MovementOutcome) :
    ReliableSpendExecutionResult :=
  if operation.movementOutcome ≠ some .noMovement then
    pendingSpendResult replay .failed
      "Spend evidence or durable failure state requires operator review; no replacement transfer was submitted."
      operation.txHash true (some movementOutcome)
      operation.diagnosticContext
  else
    { replayResult false operation replay with
      operationStatus := some .failed
      requiresReview := some false
      movementOutcome := some movementOutcome
      diagnostic := operation.diagnosticContext
      error :=
        some
          "Spend operation is marked failed; no replacement transfer was submitted." }

/-- `projectSpendOperation(operation, request, verifyEvidence)`. -/
def projectSpendOperation
    (operation : OperationView)
    (request : SpendOperationRequest)
    (verifyEvidence : Option (Call SpendEvidenceResult)) :
    Call ReliableSpendExecutionResult := do
  note (.projecting .spend operation)
  let movementOutcome := operation.movementOutcome.getD .unknown
  let replay := replayRequest operation request
  match operation.status with
  | .failed => return failedSpendResult operation replay movementOutcome
  | .projected =>
      return {
        replayResult true operation replay with
        dbStored := some true
        duplicate := some true
        operationStatus := some .projected
        movementOutcome := some movementOutcome }
  | status =>
      match operation.txHash with
      | none =>
          return pendingSpendResult replay status
            "Spend submission is unresolved and requires operator review before retrying."
            none true (some movementOutcome) operation.diagnosticContext
      | some txHash =>
          if status = .submitted ∨ status = .unknown then
            verifyAndProjectSpend operation replay txHash movementOutcome
              verifyEvidence
          else
            -- `submitting` and `confirmed` go on without evidence.
            recordAndProjectSpend operation replay txHash movementOutcome

/-! ## Submission -/

/-- `submitSpend(treasurySigner, …)`. -/
def submitSpend
    (platform : Platform)
    (signer : TreasurySigner)
    (userAddress treasuryAddress : String)
    (amount : JsNumber)
    (operationKey : String)
    (assetContext : TokenAssetContext) :
    Call TransactionReliabilityResult := do
  match canonicalTokenAmount amount with
  | none => throwFailure (.error "UNSUPPORTED_TOKEN_PRECISION")
  | some canonicalAmount =>
      if canonicalAmount.units = 0 then
        throwFailure (.error "UNSUPPORTED_TOKEN_PRECISION")
      else
        let data ←
          orThrow
            (platform.encodeTransferFrom userAddress treasuryAddress
              canonicalAmount.baseUnits)
        prepareAndBroadcastTransaction platform
          { operationKey := operationKey
            targetOperationKey := none
            targetType := .tokenOperation
            signer := signer
            chainId := assetContext.chainId
            toAddress := assetContext.tokenContractAddress
            data := data
            value := 0
            accessList := none }

/-- A readonly check that could not be made. -/
def preflightUnavailable (failure : Failure) : Failure :=
  .error ("SPEND_PREFLIGHT_UNAVAILABLE: " ++ failure.message)

/-- `preflightSpend(treasurySigner, …)`. -/
def preflightSpend
    (signer : TreasurySigner)
    (userAddress treasuryAddress : String)
    (amount : TokenAmount)
    (assetContext : TokenAssetContext) :
    Call Unit := do
  if !signer.provider then
    throwFailure
      (.error "SPEND_PREFLIGHT_UNAVAILABLE: provider is required")
  else
    let amountUnits := amount.baseUnits
    let token := assetContext.tokenContractAddress
    let allowance ←
      (chain (.allowance token userAddress assetContext.signerAddress)).recover
        fun failure => throwFailure (preflightUnavailable failure)
    let balance ←
      (chain (.balanceOf token userAddress)).recover fun failure =>
        throwFailure (preflightUnavailable failure)
    if allowance < amountUnits then
      throwFailure <| .knownPreflight
        ("insufficient allowance for " ++ assetContext.signerAddress ++
          ": " ++ toString allowance ++ " < " ++ toString amountUnits)
    else if balance < amountUnits then
      throwFailure <| .knownPreflight
        ("transfer amount exceeds balance: " ++ toString balance ++
          " < " ++ toString amountUnits)
    else
      (chain
        (.staticTransferFrom userAddress treasuryAddress
          amountUnits)).recover fun failure =>
        if failure.isUnavailableReadonly then
          throwFailure (preflightUnavailable failure)
        else
          throwFailure <| .knownPreflight
            ("token transfer preflight reverted: " ++ failure.message)

/-- `err instanceof KnownSpendPreflightFailure`. -/
def isKnownPreflight : Failure → Bool
  | .knownPreflight _ => true
  | _ => false

/-- The diagnostic of a preflight read that could not be made. -/
def preflightReadDiagnostic (failure : Failure) :
    Option TransactionDiagnostic :=
  if !isKnownPreflight failure &&
      (includesText (lowerText failure.message)
          "spend_preflight_unavailable" ||
        includesText (lowerText failure.message)
          "provider is required") then
    some
      { diagnosticFor .preflight "RPC_READ_UNAVAILABLE" with
        rpcMethod := some "spend.preflight.read"
        retryable := true
        category := some .rpcUnavailable }
  else
    none

/-- Everything a claimed spend knows about itself. -/
structure ClaimedSpend where
  request : SpendOperationRequest
  operationKey : String
  uid : JsString
  amount : TokenAmount
  signer : TreasurySigner
  treasuryAddress : String
  assetContext : TokenAssetContext
  deriving DecidableEq

namespace ClaimedSpend

/--
The amount that the fingerprint, the preflight and the submission read from
`canonicalAmount.value`.  A spend without such an amount is not claimed.
-/
def sentAmount (spend : ClaimedSpend) : TokenAmount :=
  spend.amount.reread.getD spend.amount

/-- The in-memory operation of a spend that has just been sent. -/
def operation
    (spend : ClaimedSpend)
    (status : OperationStatus)
    (txHash : TransactionHash) :
    OperationView where
  operationKey := spend.operationKey
  status := status
  legacyKey := none
  uid := some spend.uid
  txHash := some txHash
  amount := spend.amount
  walletAddress := spend.request.userAddress
  sessionId := JsString.orNull spend.request.sessionId
  intentContext :=
    some
      { assetContext := some spend.assetContext.stored
        metadata := none
        recoverySnapshot := none }
  movementOutcome := none
  diagnosticContext := none

/-- The evidence for the transfer of this spend. -/
def evidence (spend : ClaimedSpend) (txHash : TransactionHash) :
    SpendEvidenceRequest :=
  spendEvidenceRequest spend.assetContext spend.treasuryAddress
    spend.request.userAddress spend.amount txHash

end ClaimedSpend

/-- The readonly checks failed: the claim is marked and may be retried. -/
def spendPreflightFailed (spend : ClaimedSpend) (failure : Failure) :
    Call ReliableSpendExecutionResult := do
  let diagnostic := preflightReadDiagnostic failure
  let failedOperation ←
    (TokenOperations.markPreflightFailed spend.operationKey
      failure.message (diagnostic.map some)).attempt
  let movementOutcome : MovementOutcome :=
    match failedOperation with
    | .ok (some row) => row.movementOutcome
    | _ => .unknown
  return preflightFailureResult spend.request spend.operationKey
    ("Spend preflight failed: " ++ failure.message)
    (isKnownPreflight failure) movementOutcome diagnostic

/-- Preparation failed before anything could have been sent. -/
def spendPreparationFailed
    (spend : ClaimedSpend)
    (diagnostic : TransactionDiagnostic) :
    Call ReliableSpendExecutionResult := do
  let _ ←
    (TokenOperations.markPreflightFailed spend.operationKey
      diagnostic.errorCode (some (some diagnostic))).attempt
  return preflightFailureResult spend.request spend.operationKey
    ("Spend transaction preparation failed and no movement was attempted: " ++
      diagnostic.errorCode)
    false .noMovement (some diagnostic)

/-- The outcome of the submission is not known. -/
def spendOutcomeUnknown
    (spend : ClaimedSpend)
    (diagnostic : Option TransactionDiagnostic) :
    Call ReliableSpendExecutionResult := do
  let message :=
    orText (diagnostic.map (·.errorCode)) "TRANSACTION_SUBMISSION_FAILED"
  let _ ←
    (TokenOperations.markUnknown spend.operationKey message
      (diagnostic.map some)).attempt
  return pendingSpendResult spend.request .unknown
    ("Spend submission outcome is unknown and requires operator review: " ++
      message)
    (diagnostic.bind (·.savedHash)) true (some .unknown) diagnostic

/--
`err instanceof TransactionReliabilityError ? err.diagnostic : undefined`.
-/
def reliabilityDiagnostic : Failure → Option TransactionDiagnostic
  | .reliability diagnostic => some diagnostic
  | _ => none

/-- The submission threw: classify the error by its diagnostic. -/
def spendSubmissionFailed
    (platform : Platform)
    (spend : ClaimedSpend)
    (failure : Failure) :
    Call ReliableSpendExecutionResult := do
  match reliabilityDiagnostic failure with
  | none => spendOutcomeUnknown spend none
  | some diagnostic =>
      if isPreBroadcastTransactionDiagnostic (some diagnostic) then
        spendPreparationFailed spend diagnostic
      else
        match diagnostic.savedHash, diagnostic.stage == .broadcast &&
            spend.signer.provider with
        | some savedHash, true =>
            match ← (verifySpendEvidence platform
                (spend.evidence savedHash)).attempt with
            | .ok evidence =>
                projectSpendOperation
                  { spend.operation .unknown savedHash with
                    movementOutcome := some .unknown
                    diagnosticContext := some diagnostic }
                  spend.request (some (pure evidence))
            | .error _ => spendOutcomeUnknown spend (some diagnostic)
        | _, _ => spendOutcomeUnknown spend (some diagnostic)

/-- The transfer was sent: save its hash and project it. -/
def projectSubmittedSpend
    (platform : Platform)
    (spend : ClaimedSpend)
    (tx : TransactionReliabilityResult) :
    Call ReliableSpendExecutionResult := do
  match ← (TokenOperations.markSubmitted spend.operationKey
      tx.txHash.text).attempt with
  | .error failure =>
      let _ ←
        (TokenOperations.markUnknown spend.operationKey
          ("Transaction hash could not be persisted: " ++
            failure.message) none).attempt
      return pendingSpendResult spend.request .unknown
        "Spend was submitted but its transaction hash could not be durably saved; operator review is required."
        (some tx.txHash) true (some .unknown) none
  | .ok _ =>
      projectSpendOperation (spend.operation .submitted tx.txHash)
        spend.request
        (some (verifySpendEvidence platform (spend.evidence tx.txHash)))

/-- The request acquired the operation: check, send and project. -/
def executeClaimedSpend (platform : Platform) (spend : ClaimedSpend) :
    Call ReliableSpendExecutionResult := do
  match ← (preflightSpend spend.signer spend.request.userAddress
      spend.treasuryAddress spend.sentAmount spend.assetContext).attempt with
  | .error failure => spendPreflightFailed spend failure
  | .ok () =>
      match ← (submitSpend platform spend.signer
          spend.request.userAddress spend.treasuryAddress
          spend.amount.value spend.operationKey
          spend.assetContext).attempt with
      | .error failure => spendSubmissionFailed platform spend failure
      | .ok tx => projectSubmittedSpend platform spend tx

/-- The evidence that a replayed operation is verified with. -/
def replayEvidence
    (platform : Platform)
    (spend : ClaimedSpend)
    (existing : TokenOperation) :
    Option (Call SpendEvidenceResult) :=
  match existing.txHash, spend.signer.provider with
  | some txHash, true =>
      some <| verifySpendEvidence platform <|
        spendEvidenceRequest spend.assetContext spend.treasuryAddress
          existing.walletAddress existing.amount txHash
  | _, _ => none

/-- `readTokenBalance(provider, …)`. -/
def readTokenBalance
    (platform : Platform)
    (tokenContractAddress walletAddress : String) :
    Call JsNumber := do
  let units ← chain (.balanceOf tokenContractAddress walletAddress)
  return platform.formatUnits units

/-- The claim that a spend makes. -/
def ClaimedSpend.claim
    (platform : Platform)
    (spend : ClaimedSpend) :
    ClaimRequest where
  operationKey := spend.operationKey
  operationType := .spend
  requestFingerprint :=
    spendIntentFingerprint platform.digests spend.uid
      spend.request.userAddress spend.sentAmount spend.request.sessionId
      spend.request.providerId spend.request.reservationId
  uid := spend.uid
  walletAddress := spend.request.userAddress
  amount := spend.amount.written
  sessionId :=
    (JsString.orNull spend.request.sessionId).map JsString.encoded
  providerId :=
    (JsString.orNull spend.request.providerId).map JsString.encoded
  chargingSessionId := none
  reservationId :=
    (JsString.orNull spend.request.reservationId).map JsString.encoded
  intentContext :=
    some
      { assetContext := some spend.assetContext.stored
        metadata := none
        recoverySnapshot := none }
  legacyKey := none

/-- The balance sampler of a spend without a reservation. -/
def ClaimedSpend.sampler
    (platform : Platform)
    (spend : ClaimedSpend) :
    Option (Call JsNumber) :=
  if JsString.truthy spend.request.reservationId then none
  else
    some
      (readTokenBalance platform spend.assetContext.tokenContractAddress
        spend.request.userAddress)

/-- Continue with the claimed row, acquired or not. -/
def continueClaimedSpend
    (platform : Platform)
    (spend : ClaimedSpend)
    (row : TokenOperation)
    (acquired : Bool) :
    Call ReliableSpendExecutionResult :=
  match assetContextMismatch row.intentContext spend.assetContext with
  | some mismatch =>
      pure
        { spendResult false row.amount.number row.walletAddress with
          operationKey := some spend.operationKey
          txHash := row.txHash
          operationStatus := some row.status
          pending := some true
          requiresReview := some true
          movementOutcome := some row.movementOutcome
          error :=
            some
              ("Spend recovery is blocked because the original asset context no longer matches: " ++
                mismatch) }
  | none =>
      if acquired then executeClaimedSpend platform spend
      else
        projectSpendOperation row.view spend.request
          (replayEvidence platform spend row)

/-- Claim the operation and continue; any error is an unclaimed operation. -/
def claimAndExecuteSpend (platform : Platform) (spend : ClaimedSpend) :
    Call ReliableSpendExecutionResult := do
  match ← (TokenOperations.claim (spend.claim platform)
      (spend.sampler platform)).attempt with
  | .error failure => return unclaimed failure.message
  | .ok (.legacyRecord _) =>
      return unclaimed
        "Cannot read properties of undefined (reading 'intent_context')"
  | .ok (.operation row acquired) =>
      continueClaimedSpend platform spend row acquired
where
  /-- The result of the outer `catch`. -/
  unclaimed (message : String) : ReliableSpendExecutionResult :=
    { spendResult false spend.request.amount spend.request.userAddress
        with
      operationKey := some spend.operationKey
      error :=
        some ("Spend operation could not be claimed: " ++ message) }

/-! ## Before the claim -/

/-- `spendRecoveryIntentMismatch(operation, request, uid)`, on a saved row. -/
def spendRecoveryIntentMismatch
    (platform : Platform)
    (operation : TokenOperation)
    (request : SpendOperationRequest)
    (uid : JsString) :
    Option String :=
  let chosen
      (requested : Option JsString)
      (saved : Option String) :
      Option JsString :=
    if requested.isNone then (orNull saved).map jsString else requested
  let differs
      (requested : Option JsString)
      (saved : Option String) :
      Bool :=
    requested.isSome &&
      (orNull saved).map jsString != JsString.orNull requested
  if operation.operationType ≠ .spend then
    some "operation key does not identify a spend operation"
  else if operation.uid ≠ "" ∧ jsString operation.uid ≠ uid then
    some "saved spend owner differs from the request eMAID"
  else if operation.walletAddress ≠ "" ∧ request.userAddress ≠ "" ∧
      lowerText operation.walletAddress ≠
        lowerText request.userAddress then
    some "saved spend wallet differs from the request wallet"
  else
    match canonicalTokenAmount request.amount with
    | none =>
        some
          "saved or requested spend amount is not an exact two-decimal value"
    | some requestedAmount =>
        if operation.amount ≠ requestedAmount then
          some "saved spend amount differs from the request"
        else if differs request.sessionId operation.sessionId then
          some "saved spend session differs from the request"
        else if differs request.providerId operation.providerId then
          some "saved spend provider differs from the request"
        else if differs request.reservationId operation.reservationId then
          some "saved spend reservation differs from the request"
        else if operation.requestFingerprint ≠ "" ∧
            spendIntentFingerprint platform.digests uid
                (orText (some operation.walletAddress)
                  request.userAddress)
                -- `processSpend` has read this amount before.
                (requestedAmount.reread.getD requestedAmount)
                (chosen request.sessionId operation.sessionId)
                (chosen request.providerId operation.providerId)
                (chosen request.reservationId operation.reservationId) ≠
              operation.requestFingerprint then
          some
            "saved spend fingerprint differs from the request financial intent"
        else
          none

/-- The asset context is not available: answer from the saved row, if any. -/
def spendContextUnavailable
    (platform : Platform)
    (request : SpendOperationRequest)
    (operationKey : String)
    (uid : JsString)
    (failure : Failure) :
    Call ReliableSpendExecutionResult := do
  match ← (TokenOperations.findByKey operationKey).attempt with
  | .ok (some existing) =>
      match spendRecoveryIntentMismatch platform existing request uid with
      | some mismatch =>
          return {
            spendResult false existing.amount.number
              existing.walletAddress with
            operationKey := some operationKey
            txHash := existing.txHash
            operationStatus := some existing.status
            requiresReview := some true
            movementOutcome := some existing.movementOutcome
            error :=
              some ("TOKEN_OPERATION_INTENT_MISMATCH: " ++ mismatch) }
      | none =>
          if existing.status = .failed ∧
              existing.movementOutcome = .noMovement then
            return {
              spendResult false existing.amount.number
                existing.walletAddress with
              operationKey := some operationKey
              txHash := existing.txHash
              operationStatus := some .failed
              requiresReview := some false
              movementOutcome := some existing.movementOutcome
              error :=
                some
                  "Spend operation is marked failed; no replacement transfer was submitted." }
          else
            return pendingSpendResult
              { request with
                amount := existing.amount.number
                userAddress := existing.walletAddress
                uid := some (jsString existing.uid) }
              existing.status
              ("Spend recovery could not verify the original asset context and remains pending: " ++
                failure.message)
              existing.txHash true (some existing.movementOutcome) none
  | _ =>
      return {
        spendResult false request.amount request.userAddress with
        operationKey := some operationKey
        error :=
          some
            ("Spend asset context unavailable: " ++ failure.message) }

/-- The asset context of a spend, with the treasury it was read for. -/
def spendAssetContext (signer : TreasurySigner) :
    Call (String × TokenAssetContext) := do
  let treasuryAddress ← getTreasuryAddress
  let assetContext ← getTokenAssetContext signer (some treasuryAddress)
  return (treasuryAddress, assetContext)

/-- Read the asset context, then claim. -/
def executeSpend
    (platform : Platform)
    (signer : TreasurySigner)
    (request : SpendOperationRequest)
    (operationKey : String)
    (uid : JsString)
    (amount : TokenAmount) :
    Call ReliableSpendExecutionResult := do
  match ← (spendAssetContext signer).attempt with
  | .error failure =>
      spendContextUnavailable platform request operationKey uid failure
  | .ok (treasuryAddress, assetContext) =>
      claimAndExecuteSpend platform
        { request := request
          operationKey := operationKey
          uid := uid
          amount := amount
          signer := signer
          treasuryAddress := treasuryAddress
          assetContext := assetContext }

/-- A diagnostic of the settlement context. -/
def settlementContextDiagnostic (errorCode : String) :
    TransactionDiagnostic :=
  { diagnosticFor .preflight errorCode with
    category := some .reviewRequired }

/-- `settlementFailure(message, diagnostic)`. -/
def settlementFailure
    (request : SpendOperationRequest)
    (operationKey message : String)
    (diagnostic : TransactionDiagnostic) :
    Call ReliableSpendExecutionResult := do
  note (.settlementFailure operationKey)
  return {
    spendResult false request.amount request.userAddress with
    operationKey := some operationKey
    operationStatus := some .failed
    pending := some false
    requiresReview := some true
    preflightFailure := some true
    preflightApprovalEligible := some false
    movementOutcome := some .noMovement
    retryable := some false
    diagnostic := some diagnostic
    error := some message }

/-- The settlement context could not be persisted. -/
def settlementContextRejected
    (request : SpendOperationRequest)
    (operationKey : String)
    (failure : Failure) :
    Call ReliableSpendExecutionResult := do
  match ← (TokenOperations.findByKey operationKey).attempt with
  | .ok (some existing) =>
      return {
        spendResult false existing.amount.number existing.walletAddress
          with
        operationKey := some operationKey
        txHash := existing.txHash
        operationStatus := some existing.status
        pending := some true
        requiresReview := some true
        movementOutcome := some existing.movementOutcome
        retryable := some false
        diagnostic :=
          some (settlementContextDiagnostic "SETTLEMENT_CONTEXT_MISMATCH")
        error :=
          some
            ("Spend settlement context does not match the original request: " ++
              failure.message) }
  | _ =>
      settlementFailure request operationKey
        ("Spend settlement context was not persisted; no movement was attempted: " ++
          failure.message)
        (settlementContextDiagnostic "SETTLEMENT_CONTEXT_MISMATCH")

/-- Persist the settlement context of a settlement, then execute. -/
def settleAndExecuteSpend
    (platform : Platform)
    (signer : TreasurySigner)
    (request : SpendOperationRequest)
    (operationKey : String)
    (uid : JsString)
    (amount : TokenAmount) :
    Call ReliableSpendExecutionResult :=
  match request.settlementContext with
  | none =>
      executeSpend platform signer request operationKey uid amount
  | some settlement => do
      if !JsString.truthy request.reservationId ||
          request.reservationId != some settlement.reservationId then
        settlementFailure request operationKey
          "SETTLEMENT_CONTEXT_RESERVATION_MISMATCH"
          (settlementContextDiagnostic
            "SETTLEMENT_CONTEXT_RESERVATION_MISMATCH")
      else
        match ← (SpendReservations.persistSettlementContext
            settlement.reservationId.encoded
            settlement.deliveredKwh).attempt
          with
        | .error failure =>
            settlementContextRejected request operationKey failure
        | .ok _ =>
            executeSpend platform signer request operationKey uid amount

/-- The operation key of a request, or the error that refuses it. -/
def spendKey (platform : Platform) (request : SpendOperationRequest) :
    Except String String :=
  if request.operationKey.any (!isNonEmptyOperationKey ·) then
    .error "INVALID_OPERATION_KEY: operationKey must be a non-empty string"
  else if request.idempotencyKey.any (!isNonEmptyOperationKey ·) then
    .error "INVALID_OPERATION_KEY: idempotencyKey must be a non-empty string"
  else
    match request.operationKey, request.idempotencyKey with
    | some operationKey, _ => .ok operationKey
    | none, some idempotencyKey =>
        .ok
          (spendOperationKey platform.digests
            (request.uid.getD []).encoded idempotencyKey)
    | none, none =>
        .error
          "SPEND_IDEMPOTENCY_KEY_REQUIRED: a stable idempotencyKey or internal operationKey is required before a spend can be attempted"

/-- `processSpend(request, treasurySigner)`. -/
def processSpend
    (platform : Platform)
    (signer : TreasurySigner)
    (request : SpendOperationRequest) :
    Call ReliableSpendExecutionResult :=
  match prepareSpend request with
  | none =>
      pure <| refusedSpend request
        "Invalid spend request (amount must be positive and use at most 2 decimal places)"
  | some amount =>
      match spendKey platform request with
      | .error message => pure (refusedSpend request message)
      | .ok operationKey =>
          match amount.reread with
          | none => throwFailure (.error "UNSUPPORTED_TOKEN_PRECISION")
          | some _ => do
              note (.invoked operationKey)
              let result ←
                settleAndExecuteSpend platform signer
                  { request with operationKey := some operationKey }
                  operationKey (request.uid.getD []) amount
              note (.responded operationKey result.movementOutcome)
              return result

end Sparkz
