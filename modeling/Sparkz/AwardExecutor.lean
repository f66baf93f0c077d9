import Sparkz.TokenOperations
import Sparkz.LedgerProjection
import Sparkz.TransactionReliability

namespace Sparkz

/-!
# Executing an award

`processAwardFromCDR` looks for a saved operation before it calculates an
amount of its own, then claims the operation, sends the transfer and projects
it.
-/

inductive AwardStage where
  | normalisation
  | calculation
  | validation
  | execution
  | complete
  deriving Repr, DecidableEq

/-- What `processAwardFromCDR` returns. -/
structure ExecutionResult where
  success : Bool
  dedupKey : String
  eligible : Bool
  amount : JsNumber
  uid : String
  txHash : Option TransactionHash
  dbStored : Option Bool
  dbError : Option String
  error : Option String
  operationStatus : Option String
  pending : Option Bool
  requiresReview : Option Bool
  diagnostic : Option TransactionDiagnostic
  preflightFailure : Option Bool
  movementOutcome : Option MovementOutcome
  retryable : Option Bool
  duplicate : Option Bool
  stage : AwardStage
  deriving DecidableEq

/-- The text of a status, as results show it. -/
def OperationStatus.text : OperationStatus → String
  | .submitting => "submitting"
  | .submitted => "submitted"
  | .confirmed => "confirmed"
  | .projected => "projected"
  | .unknown => "unknown"
  | .failed => "failed"

/-- `failedExecutionResult({})`. -/
def emptyExecutionResult : ExecutionResult where
  success := false
  dedupKey := ""
  eligible := false
  amount := .ofNat 0
  uid := ""
  txHash := none
  dbStored := none
  dbError := none
  error := none
  operationStatus := none
  pending := none
  requiresReview := none
  diagnostic := none
  preflightFailure := none
  movementOutcome := none
  retryable := none
  duplicate := none
  stage := .normalisation

/-- A failure that says which award it is about. -/
def failedAward
    (award : AwardResult)
    (stage : AwardStage)
    (error : String) :
    ExecutionResult :=
  { emptyExecutionResult with
    dedupKey := award.dedupKey
    eligible := award.eligible
    amount := award.amount
    uid := award.uid
    error := some error
    stage := stage }

/-- `pendingAwardResult(awardResult, …)`. -/
def pendingAwardResult
    (award : AwardResult)
    (operationStatus : OperationStatus)
    (error : String)
    (txHash : Option TransactionHash)
    (requiresReview : Bool)
    (diagnostic : Option TransactionDiagnostic) :
    ExecutionResult :=
  { failedAward award .execution error with
    txHash := txHash
    operationStatus := some operationStatus.text
    pending := some true
    requiresReview := some requiresReview
    diagnostic := diagnostic }

/-- `awardEvidenceDiagnostic(failureCode, txHash, sourceFailure)`. -/
def awardEvidenceDiagnostic
    (failureCode : SpendEvidenceFailureCode)
    (txHash : Option TransactionHash)
    (sourceFailure : Option SpendEvidenceFailure) :
    TransactionDiagnostic :=
  let pending :=
    failureCode == .receiptPending || failureCode == .providerError ||
      failureCode == .transactionNotFound
  let source := sourceFailure.bind (·.diagnostic)
  { stage := .receipt
    category :=
      some
        (if pending then .confirmationPending else .reviewRequired)
    rpcMethod :=
      some (orText (source.map (·.rpcMethod)) "spendEvidence.read")
    errorCode :=
      if failureCode = .providerError then "RECEIPT_READ_UNAVAILABLE"
      else failureCode.text
    retryable := (source.map (·.retryable)).getD pending
    savedHash := txHash
    nonce := none }

/-! ## Saved intents -/

/-- `prepareAward(session)`, under the policy in force. -/
def prepareAward (session : NormalisedSession) : Call AwardResult := do
  let calculation ← orThrow (← service (.calculateAward session))
  return {
    eligible := calculation.amount.isPositive
    amount := calculation.amount
    uid := session.uid
    dedupKey := calculation.dedupKey
    metadata := some calculation.metadata }

/-- `savedAwardMetadata(intentContext)`. -/
def savedAwardMetadata (intentContext : Option IntentContext) :
    Option AwardMetadata :=
  intentContext.bind IntentContext.metadata

/-- `parseAwardRecoverySnapshot(intentContext)`. -/
def parseAwardRecoverySnapshot
    (intentContext : Option IntentContext) :
    Except Failure (Option AwardRecoverySnapshot) :=
  match intentContext.bind IntentContext.recoverySnapshot with
  | none => .ok none
  | some value =>
      if value.version ≠ AWARD_RECOVERY_SNAPSHOT_VERSION then
        .error (snapshotInvalid "snapshot version is unsupported")
      else if !isSha256Hex value.fingerprint then
        .error (snapshotInvalid "snapshot fingerprint is invalid")
      else do
        let session ← deserialiseNormalisedSession value.normalisedSession
        let serialised ← serialiseNormalisedSession session
        return some { value with normalisedSession := serialised }

/-- `createAwardRecoverySnapshot(normalised, amount, walletAddress, rawCDR)`. -/
def createAwardRecoverySnapshot
    (platform : Platform)
    (normalised : NormalisedSession)
    (walletAddress : String)
    (rawCDR : RawCdr) :
    Except Failure AwardRecoverySnapshot := do
  let session ← serialiseNormalisedSession normalised
  return {
    version := AWARD_RECOVERY_SNAPSHOT_VERSION
    fingerprint :=
      awardIntentFingerprint platform.digests normalised walletAddress
    normalisedSession := session
    rawCDR := some rawCDR }

/-- The session and the wire record that a recovery works with. -/
structure RecoveryInput where
  normalised : NormalisedSession
  rawCDR : RawCdr
  deriving DecidableEq

/-- Check a saved wire record against the saved session. -/
def validateStoredRawCdr
    (platform : Platform)
    (operation : TokenOperation)
    (expectedFingerprint : String)
    (normalised : NormalisedSession)
    (rawCDR : RawCdr) :
    Except Failure Unit :=
  match platform.validateAndNormaliseCdr rawCDR with
  | .error _ =>
      .error
        (snapshotInvalid "original CDR snapshot cannot be validated")
  | .ok rawNormalised =>
      if awardIntentFingerprint platform.digests rawNormalised
              operation.walletAddress ≠ expectedFingerprint ∨
          rawNormalised.eMAID ≠ normalised.eMAID ∨
          rawNormalised.protocol ≠ normalised.protocol ∨
          rawNormalised.sourceField ≠ normalised.sourceField then
        .error
          (snapshotInvalid
            "original CDR snapshot differs from the canonical session")
      else
        .ok ()

/-- `validateStoredRecoverySnapshot(operation, snapshot, false)`. -/
def validateStoredRecoverySnapshot
    (platform : Platform)
    (operation : TokenOperation)
    (snapshot : AwardRecoverySnapshot) :
    Except Failure NormalisedSession := do
  if operation.uid ≠ "" ∧
      operation.uid ≠ snapshot.normalisedSession.uid then
    throw
      (snapshotInvalid "stored eMAID differs from the durable owner")
  let normalised ←
    deserialiseNormalisedSession snapshot.normalisedSession
  let expectedFingerprint :=
    awardIntentFingerprint platform.digests normalised
      operation.walletAddress
  if snapshot.fingerprint ≠ expectedFingerprint ∨
      operation.requestFingerprint ≠ expectedFingerprint then
    throw
      (snapshotInvalid
        "stored snapshot fingerprint differs from the durable award intent")
  match snapshot.rawCDR with
  | none => return normalised
  | some rawCDR =>
      validateStoredRawCdr platform operation expectedFingerprint
        normalised rawCDR
      return normalised

/-- `resolveRecoveryInput(operation, currentNormalised, currentRawCDR)`. -/
def resolveRecoveryInput
    (platform : Platform)
    (operation : TokenOperation)
    (current : RecoveryInput) :
    Except Failure RecoveryInput := do
  match ← parseAwardRecoverySnapshot operation.intentContext with
  | none => return current
  | some snapshot =>
      let saved := snapshot.normalisedSession.chargingSessionId
      if truthy saved ∧ saved ≠ current.normalised.chargingSessionId then
        throw <| .error
          "TOKEN_OPERATION_CHARGING_SESSION_MISMATCH: original CDR is bound to a different charging session identity; operator review is required"
      else
        let normalised ←
          validateStoredRecoverySnapshot platform operation snapshot
        return {
          normalised := normalised
          rawCDR := snapshot.rawCDR.getD current.rawCDR }

/-- `awardRecoveryIntentMismatch(operation, normalised, amount)`. -/
def awardRecoveryIntentMismatch
    (platform : Platform)
    (operation : TokenOperation)
    (normalised : NormalisedSession) :
    Option String :=
  if operation.operationType ≠ .award then
    some "operation key does not identify an award operation"
  else if operation.uid ≠ "" ∧ operation.uid ≠ normalised.uid then
    some "saved award owner differs from the CDR eMAID"
  else if truthy operation.chargingSessionId ∧
      operation.chargingSessionId ≠ normalised.chargingSessionId then
    some
      "original CDR is bound to a different charging session identity; operator review is required"
  else if operation.requestFingerprint ≠ "" ∧
      operation.walletAddress ≠ "" ∧
      awardIntentFingerprint platform.digests normalised
        operation.walletAddress ≠ operation.requestFingerprint then
    some "saved award fingerprint differs from the CDR financial intent"
  else
    none

/-! ## Projection -/

/-- Everything an award projection knows besides the operation. -/
structure AwardProjection where
  award : AwardResult
  recovery : RecoveryInput
  walletMode : WalletMode
  triggerManagedApproval : Bool
  requireFreshEvidence : Bool
  preverifiedEvidence : Option SpendEvidenceResult
  deriving DecidableEq

/-- The award as the saved operation answers it. -/
def replayAward (operation : OperationView) (award : AwardResult) :
    AwardResult :=
  { award with
    amount := operation.amount.number
    eligible := decide (0 < operation.amount.units)
    metadata :=
      savedAwardMetadata operation.intentContext <|> award.metadata }

/-- A successful result about a replayed award. -/
def completedAward (award : AwardResult) : ExecutionResult :=
  { emptyExecutionResult with
    success := true
    dedupKey := award.dedupKey
    eligible := award.eligible
    amount := award.amount
    uid := award.uid
    operationStatus := some OperationStatus.projected.text
    stage := .complete }

/-- The movement that `projectAwardOperation` hands to `recordAward`. -/
def OperationView.awardMovement
    (operation : OperationView)
    (txHash : TransactionHash) :
    RecordedMovement where
  operationKey := operation.operationKey
  operationType := .award
  txHash := txHash
  amount := operation.amount.number
  walletAddress := operation.walletAddress

/--
The approval that follows the first award of a managed wallet.  Nobody waits
for it, so it runs as a call of its own.
-/
def approveManagedWallet
    (projection : AwardProjection)
    (award : AwardResult) :
    Call Unit := do
  if projection.triggerManagedApproval ∧
      projection.walletMode = .managed then
    match ← getTreasuryAddress.attempt with
    | .ok treasuryAddress => note (.approving award.uid treasuryAddress)
    | .error _ => pure ()

/-- The end of a projection: the ledger first, then the operation. -/
def recordAndProjectAward
    (platform : Platform)
    (operation : OperationView)
    (projection : AwardProjection)
    (award : AwardResult)
    (txHash : TransactionHash) :
    Call ExecutionResult := do
  let movement := operation.awardMovement txHash
  note (.recording movement)
  match ← (recordAward platform
      { normalised := projection.recovery.normalised
        amount := operation.amount.number
        dedupKey := award.dedupKey
        txHash := txHash.text
        cdrData := some projection.recovery.rawCDR
        metadata := award.metadata
        intendedWalletAddress := some operation.walletAddress }).attempt
    with
  | .error failure =>
      let _ ←
        (TokenOperations.markProjectionError operation.operationKey
          failure.message).attempt
      return {
        pendingAwardResult award .confirmed
          ("Award transfer is confirmed, but database projection is pending: " ++
            failure.message)
          (some txHash) false none with
        dbStored := some false
        dbError := some failure.message }
  | .ok _ =>
      note (.recorded movement)
      match ← (TokenOperations.markProjected
          operation.operationKey).attempt with
      | .error failure =>
          return {
            pendingAwardResult award .confirmed
              ("Award transfer is confirmed, but operation completion is pending: " ++
                failure.message)
              (some txHash) false none with
            dbStored := some true
            dbError := some failure.message }
      | .ok _ =>
          approveManagedWallet projection award
          return {
            completedAward award with
            eligible := true
            txHash := some txHash
            dbStored := some true }

/-- Chain evidence that is not there yet leaves the operation pending. -/
def awardEvidencePending
    (operation : OperationView)
    (award : AwardResult)
    (savedError resultError : String)
    (requiresReview : Bool)
    (diagnostic : TransactionDiagnostic) :
    Call ExecutionResult := do
  let _ ←
    (TokenOperations.markUnknown operation.operationKey savedError
      (some (some diagnostic))).attempt
  return pendingAwardResult award operation.status resultError
    operation.txHash requiresReview (some diagnostic)

/-- Chain evidence that refutes the transfer ends the operation. -/
def awardEvidenceRejected
    (operation : OperationView)
    (award : AwardResult)
    (failure : SpendEvidenceFailure) :
    Call ExecutionResult := do
  let diagnostic :=
    awardEvidenceDiagnostic failure.code operation.txHash (some failure)
  let movementOutcome : MovementOutcome :=
    if failure.code = .transactionFailed then .noMovement else .review
  match ← (TokenOperations.markFailed operation.operationKey
      ("Award evidence rejected: " ++ failure.message)
      movementOutcome (some (some diagnostic))).attempt with
  | .error storeFailure =>
      return pendingAwardResult award operation.status
        ("Award evidence was rejected, but durable failure state could not be saved: " ++
          storeFailure.message)
        operation.txHash true (some diagnostic)
  | .ok _ =>
      if movementOutcome = .review then
        return pendingAwardResult award .failed
          ("Award transfer was not projected because chain evidence requires operator review (" ++
            failure.code.text ++ "): " ++ failure.message)
          operation.txHash true (some diagnostic)
      else
        return {
          failedAward award .execution
            ("Award transfer was not projected because chain evidence was rejected (" ++
              failure.code.text ++ "): " ++ failure.message) with
          txHash := operation.txHash
          operationStatus := some OperationStatus.failed.text
          requiresReview := some false
          diagnostic := some diagnostic }

/-- Verify an operation, then project it. -/
def verifyAndProjectAward
    (platform : Platform)
    (operation : OperationView)
    (projection : AwardProjection)
    (award : AwardResult)
    (txHash : TransactionHash)
    (verify : Call SpendEvidenceResult) :
    Call ExecutionResult := do
  let verified ←
    match projection.preverifiedEvidence with
    | some evidence => pure (.ok evidence)
    | none => verify.attempt
  match verified with
  | .error failure =>
      awardEvidencePending operation award
        "Award transaction confirmation is pending"
        ("Award transaction confirmation is pending: " ++
          failure.message)
        false
        (awardEvidenceDiagnostic .providerError operation.txHash none)
  | .ok (.error failure) =>
      if failure.code = .receiptPending ∨
          failure.code = .providerError ∨
          failure.code = .transactionNotFound then
        awardEvidencePending operation award
          ("Award transaction confirmation is pending: " ++
            failure.message)
          ("Award transaction confirmation is pending: " ++
            failure.message)
          (failure.code == .transactionNotFound)
          (awardEvidenceDiagnostic failure.code operation.txHash
            (some failure))
      else
        awardEvidenceRejected operation award failure
  | .ok (.ok _) =>
      match ← (TokenOperations.markConfirmed operation.operationKey
          none).attempt with
      | .error failure =>
          return pendingAwardResult award .submitted
            ("Award was confirmed on-chain but confirmation state could not be saved: " ++
              failure.message)
            operation.txHash false none
      | .ok _ =>
          recordAndProjectAward platform operation projection award txHash

/-- A failed operation is answered from what it has saved. -/
def failedAwardResult
    (operation : OperationView)
    (award : AwardResult) :
    ExecutionResult :=
  if operation.movementOutcome ≠ some .noMovement then
    pendingAwardResult award .failed
      "Award evidence or durable failure state requires operator review; no replacement transfer was submitted."
      operation.txHash true operation.diagnosticContext
  else
    { failedAward award .execution
        "Award operation is marked failed; no replacement transfer was submitted."
        with
      txHash := operation.txHash
      operationStatus := some OperationStatus.failed.text
      requiresReview := some false
      diagnostic := operation.diagnosticContext }

/-- An operation without a hash: a zero award is finished, others wait. -/
def projectHashlessAward
    (operation : OperationView)
    (award : AwardResult) :
    Call ExecutionResult := do
  if operation.amount.units = 0 then
    match ← (TokenOperations.markProjected
        operation.operationKey).attempt with
    | .error failure =>
        return pendingAwardResult award operation.status
          ("The zero-award decision is saved but completion is pending: " ++
            failure.message)
          none false none
    | .ok _ =>
        return {
          completedAward award with
          eligible := false
          amount := .ofNat 0
          duplicate := some (operation.status != .submitting) }
  else
    return pendingAwardResult award operation.status
      "Token award submission is unresolved and requires operator review before retrying."
      none true operation.diagnosticContext

/-- `projectAwardOperation(operation, awardResult, …)`. -/
def projectAwardOperation
    (platform : Platform)
    (operation : OperationView)
    (projection : AwardProjection)
    (verifyEvidence : Option (Call SpendEvidenceResult)) :
    Call ExecutionResult := do
  note (.projecting .award operation)
  let award := replayAward operation projection.award
  match operation.status with
  | .failed => return failedAwardResult operation award
  | .projected =>
      return {
        completedAward award with
        txHash := operation.txHash
        dbStored := some true
        duplicate := some true }
  | status =>
      match operation.txHash with
      | none => projectHashlessAward operation award
      | some txHash =>
          match verifyEvidence with
          | some verify =>
              if status = .submitted ∨ status = .unknown ∨
                  projection.requireFreshEvidence then
                verifyAndProjectAward platform operation projection award
                  txHash verify
              else
                -- `submitting` and `confirmed` go on without evidence.
                recordAndProjectAward platform operation projection award
                  txHash
          | none =>
              recordAndProjectAward platform operation projection award
                txHash

/-! ## Submission -/

/-- `submitAward(signer, to, amount, …)`. -/
def submitAward
    (platform : Platform)
    (signer : TreasurySigner)
    (recipient : String)
    (amount : JsNumber)
    (operationKey : String)
    (assetContext : TokenAssetContext) :
    Call TransactionReliabilityResult := do
  match canonicalTokenAmount amount with
  | none => throwFailure (.error "UNSUPPORTED_TOKEN_PRECISION")
  | some canonicalAmount =>
      if canonicalAmount.units = 0 then
        throwFailure (.error "UNSUPPORTED_TOKEN_PRECISION")
      else
        let data ←
          orThrow
            (platform.encodeTransfer recipient canonicalAmount.baseUnits)
        prepareAndBroadcastTransaction platform
          { operationKey := operationKey
            targetOperationKey := none
            targetType := .tokenOperation
            signer := signer
            chainId := assetContext.chainId
            toAddress := assetContext.tokenContractAddress
            data := data
            value := 0
            accessList := none }

/-- Everything a request knows when it claims an award. -/
structure ClaimedAward where
  operationKey : String
  signer : TreasurySigner
  normalised : NormalisedSession
  rawCDR : RawCdr
  award : AwardResult
  amount : TokenAmount
  userWalletAddress : String
  walletMode : WalletMode
  assetContext : TokenAssetContext
  recoverySnapshot : Option AwardRecoverySnapshot
  deriving DecidableEq

namespace ClaimedAward

/-- `claimIntentContext`. -/
def intentContext (claimed : ClaimedAward) : IntentContext where
  assetContext := some claimed.assetContext.stored
  metadata := claimed.award.metadata
  recoverySnapshot := claimed.recoverySnapshot

/-- The claim that an award makes. -/
def claim (platform : Platform) (claimed : ClaimedAward) :
    ClaimRequest where
  operationKey := claimed.operationKey
  operationType := .award
  requestFingerprint :=
    awardIntentFingerprint platform.digests claimed.normalised
      claimed.userWalletAddress
  uid := jsString claimed.normalised.uid
  walletAddress := claimed.userWalletAddress
  amount := claimed.amount.written
  sessionId := some claimed.normalised.sessionId
  providerId := some claimed.normalised.providerId
  chargingSessionId := claimed.normalised.chargingSessionId
  reservationId := none
  intentContext := some claimed.intentContext
  legacyKey := some claimed.award.dedupKey

/-- The in-memory operation of an award that has just been sent. -/
def operation
    (claimed : ClaimedAward)
    (status : OperationStatus)
    (txHash : TransactionHash)
    (diagnostic : Option TransactionDiagnostic) :
    OperationView where
  operationKey := claimed.operationKey
  status := status
  legacyKey := none
  uid := none
  txHash := some txHash
  amount := claimed.amount
  walletAddress := claimed.userWalletAddress
  sessionId := none
  intentContext := some claimed.intentContext
  movementOutcome := none
  diagnosticContext := diagnostic

/-- The evidence for a transfer of this award. -/
def evidence
    (claimed : ClaimedAward)
    (recipient : String)
    (amount : TokenAmount)
    (txHash : TransactionHash) :
    SpendEvidenceRequest where
  tokenContractAddress := claimed.assetContext.tokenContractAddress
  chainId := .text claimed.assetContext.chainId
  sourceWallet := claimed.assetContext.signerAddress
  treasuryRecipient := recipient
  amountUnits := .bigint amount.baseUnits
  txHash := txHash.text

/-- The projection of the award this request has sent. -/
def projection
    (claimed : ClaimedAward)
    (preverifiedEvidence : Option SpendEvidenceResult) :
    AwardProjection where
  award := claimed.award
  recovery := ⟨claimed.normalised, claimed.rawCDR⟩
  walletMode := claimed.walletMode
  triggerManagedApproval := true
  requireFreshEvidence := false
  preverifiedEvidence := preverifiedEvidence

end ClaimedAward

/-- Preparation failed before anything could have been sent. -/
def awardPreparationFailed
    (claimed : ClaimedAward)
    (diagnostic : TransactionDiagnostic) :
    Call ExecutionResult := do
  let _ ←
    (TokenOperations.markPreflightFailed claimed.operationKey
      diagnostic.errorCode (some (some diagnostic))).attempt
  return {
    pendingAwardResult claimed.award .failed
      ("Award transaction preparation failed and no movement was attempted: " ++
        diagnostic.errorCode)
      none false (some diagnostic) with
    pending := some diagnostic.retryable
    preflightFailure := some true
    movementOutcome := some .noMovement
    retryable := some diagnostic.retryable }

/-- The outcome of the submission is not known. -/
def awardOutcomeUnknown
    (claimed : ClaimedAward)
    (diagnostic : Option TransactionDiagnostic) :
    Call ExecutionResult := do
  let message :=
    orText (diagnostic.map (·.errorCode)) "CHAIN_OUTCOME_UNKNOWN"
  let _ ←
    (TokenOperations.markUnknown claimed.operationKey message
      (diagnostic.map some)).attempt
  return pendingAwardResult claimed.award .unknown
    ("Award submission outcome is unknown and requires operator review: " ++
      message)
    (diagnostic.bind (·.savedHash)) true diagnostic

/-- The submission threw: classify the error by its diagnostic. -/
def awardSubmissionFailed
    (platform : Platform)
    (claimed : ClaimedAward)
    (failure : Failure) :
    Call ExecutionResult := do
  match failure with
  | .reliability diagnostic =>
      if isPreBroadcastTransactionDiagnostic (some diagnostic) then
        awardPreparationFailed claimed diagnostic
      else
        match diagnostic.savedHash, diagnostic.stage == .broadcast &&
            claimed.signer.provider with
        | some savedHash, true =>
            match ← (verifySpendEvidence platform
                (claimed.evidence claimed.userWalletAddress
                  claimed.amount savedHash)).attempt with
            | .ok evidence =>
                projectAwardOperation platform
                  (claimed.operation .unknown savedHash (some diagnostic))
                  (claimed.projection (some evidence))
                  (some (pure evidence))
            | .error _ => awardOutcomeUnknown claimed (some diagnostic)
        | _, _ => awardOutcomeUnknown claimed (some diagnostic)
  | _ => awardOutcomeUnknown claimed none

/-- The transfer was sent: save its hash and project it. -/
def projectSubmittedAward
    (platform : Platform)
    (claimed : ClaimedAward)
    (tx : TransactionReliabilityResult) :
    Call ExecutionResult := do
  match ← (TokenOperations.markSubmitted claimed.operationKey
      tx.txHash.text).attempt with
  | .error failure =>
      let _ ←
        (TokenOperations.markUnknown claimed.operationKey
          ("Transaction hash could not be persisted: " ++
            failure.message) none).attempt
      return pendingAwardResult claimed.award .unknown
        "Award was submitted but its transaction hash could not be durably saved; operator review is required."
        (some tx.txHash) true none
  | .ok _ =>
      projectAwardOperation platform
        (claimed.operation .submitted tx.txHash none)
        (claimed.projection none)
        (some
          (verifySpendEvidence platform
            (claimed.evidence claimed.userWalletAddress claimed.amount
              tx.txHash)))

/-- The request acquired the operation: decide, send and project. -/
def executeClaimedAward (platform : Platform) (claimed : ClaimedAward) :
    Call ExecutionResult := do
  if !claimed.award.eligible then
    match ← (TokenOperations.markProjected
        claimed.operationKey).attempt with
    | .error failure =>
        return pendingAwardResult claimed.award .submitting
          ("The zero-award decision was saved as an intent but completion is pending: " ++
            failure.message)
          none false none
    | .ok _ =>
        return {
          completedAward claimed.award with
          eligible := false
          amount := .ofNat 0 }
  else
    match ← (submitAward platform claimed.signer
        claimed.userWalletAddress claimed.award.amount
        claimed.operationKey claimed.assetContext).attempt with
    | .error failure => awardSubmissionFailed platform claimed failure
    | .ok tx => projectSubmittedAward platform claimed tx

/-- The request did not acquire the operation: continue what is saved. -/
def replayClaimedAward
    (platform : Platform)
    (claimed : ClaimedAward)
    (existing : TokenOperation) :
    Call ExecutionResult :=
  match resolveRecoveryInput platform existing
      ⟨claimed.normalised, claimed.rawCDR⟩ with
  | .error failure =>
      pure
        { failedAward claimed.award .validation failure.message with
          eligible := decide (0 < existing.amount.units)
          amount := existing.amount.number
          uid := orText (some existing.uid) claimed.normalised.uid
          txHash := existing.txHash
          operationStatus := some existing.status.text
          requiresReview := some true }
  | .ok recovery =>
      projectAwardOperation platform existing.view
        { award := claimed.award
          recovery := recovery
          walletMode := claimed.walletMode
          triggerManagedApproval := false
          requireFreshEvidence := false
          preverifiedEvidence := none }
        (match existing.txHash, claimed.signer.provider with
        | some txHash, true =>
            some
              (verifySpendEvidence platform
                (claimed.evidence existing.walletAddress existing.amount
                  txHash))
        | _, _ => none)

/-- An award saved before the ledger existed is a duplicate. -/
def legacyAwardResult
    (claimed : ClaimedAward)
    (legacy : Award) :
    ExecutionResult :=
  { completedAward claimed.award with
    eligible := decide (0 < legacy.amount.units)
    amount := legacy.amount.number
    txHash := some legacy.txHash
    dbStored := some true
    duplicate := some true }

/-- The award of a blocked recovery, about the saved amount. -/
def blockedAwardResult
    (award : AwardResult)
    (operation : TokenOperation)
    (error : String) :
    ExecutionResult :=
  pendingAwardResult
    { award with
      amount := operation.amount.number
      eligible := decide (0 < operation.amount.units) }
    operation.status error operation.txHash true none

/-- Claim the operation and continue with what the claim returned. -/
def claimAndExecuteAward (platform : Platform) (claimed : ClaimedAward) :
    Call ExecutionResult := do
  match ← (TokenOperations.claim (claimed.claim platform) none).attempt
    with
  | .error (.chargingSessionCollision other) =>
      return {
        failedAward claimed.award .validation
          (Failure.chargingSessionCollision other).message with
        operationStatus := some "review"
        pending := some true
        requiresReview := some true }
  | .error failure =>
      return failedAward claimed.award .execution
        ("On-chain execution failed: " ++ failure.message)
  | .ok (.legacyRecord legacy) => return legacyAwardResult claimed legacy
  | .ok (.operation row acquired) =>
      match assetContextMismatch row.intentContext claimed.assetContext
        with
      | some mismatch =>
          return blockedAwardResult claimed.award row
            ("Award recovery is blocked because the original asset context no longer matches: " ++
              mismatch)
      | none =>
          if acquired then executeClaimedAward platform claimed
          else replayClaimedAward platform claimed row

/-! ## Before the claim -/

/-- A request after its lookup: the award it works with and its recovery. -/
structure AwardRequest where
  operationKey : String
  signer : TreasurySigner
  normalised : NormalisedSession
  rawCDR : RawCdr
  existing : Option TokenOperation
  award : AwardResult
  recovery : RecoveryInput
  deriving DecidableEq

/-- Check the precision, build the snapshot and claim. -/
def snapshotAndClaimAward
    (platform : Platform)
    (request : AwardRequest)
    (userWalletAddress : String)
    (walletMode : WalletMode)
    (assetContext : TokenAssetContext) :
    Call ExecutionResult :=
  match canonicalTokenAmount request.award.amount with
  | none =>
      pure <| failedAward request.award .validation
        "UNSUPPORTED_TOKEN_PRECISION: award amount cannot be represented at two-decimal storage precision"
  | some amount =>
      let claimed (snapshot : Option AwardRecoverySnapshot) :
          ClaimedAward :=
        { operationKey := request.operationKey
          signer := request.signer
          normalised := request.normalised
          rawCDR := request.rawCDR
          award := request.award
          amount := amount
          userWalletAddress := userWalletAddress
          walletMode := walletMode
          assetContext := assetContext
          recoverySnapshot := snapshot }
      match request.existing with
      | some _ => claimAndExecuteAward platform (claimed none)
      | none =>
          match createAwardRecoverySnapshot platform request.normalised
              userWalletAddress request.rawCDR with
          | .error failure =>
              pure <| failedAward request.award .validation
                ("Award recovery snapshot could not be saved: " ++
                  failure.message)
          | .ok snapshot =>
              claimAndExecuteAward platform (claimed (some snapshot))

/-- The asset context of an award. -/
def awardAssetContext (signer : TreasurySigner) :
    Call TokenAssetContext := do
  let treasuryAddress ← getTreasuryAddress
  getTokenAssetContext signer (some treasuryAddress)

/-- Read the asset context and compare it with a saved one. -/
def executeAward
    (platform : Platform)
    (request : AwardRequest)
    (userWalletAddress : String)
    (walletMode : WalletMode) :
    Call ExecutionResult := do
  match ← (awardAssetContext request.signer).attempt with
  | .error failure =>
      match request.existing with
      | some existing =>
          return blockedAwardResult request.award existing
            ("Award recovery could not verify the original asset context and remains pending: " ++
              failure.message)
      | none =>
          return failedAward request.award .execution
            ("Asset context unavailable: " ++ failure.message)
  | .ok assetContext =>
      match request.existing.bind fun existing =>
          (assetContextMismatch existing.intentContext assetContext).map
            fun mismatch => (existing, mismatch) with
      | some (existing, mismatch) =>
          return blockedAwardResult request.award existing
            ("Award recovery is blocked because the original asset context no longer matches: " ++
              mismatch)
      | none =>
          snapshotAndClaimAward platform request userWalletAddress
            walletMode assetContext

/-- The wallet mode of a saved owner; an unknown one is custodial. -/
def savedWalletMode (uid : String) : Call WalletMode := do
  match ← service (.walletConfig (jsString uid)) with
  | .ok config => return config.walletMode
  | .error _ => return .custodial

/-- A request for a saved operation: its intent must be the saved one. -/
def executeSavedAward
    (platform : Platform)
    (request : AwardRequest)
    (existing : TokenOperation) :
    Call ExecutionResult := do
  let walletMode ← savedWalletMode request.award.uid
  match awardRecoveryIntentMismatch platform existing request.normalised
    with
  | some mismatch =>
      return {
        failedAward request.award .validation
          ("TOKEN_OPERATION_INTENT_MISMATCH: " ++ mismatch) with
        eligible := decide (0 < existing.amount.units)
        amount := existing.amount.number
        uid := request.normalised.uid
        txHash := existing.txHash
        operationStatus := some existing.status.text
        requiresReview := some true }
  | none =>
      if existing.amount.units = 0 ∧ existing.txHash = none then
        projectAwardOperation platform existing.view
          { award := request.award
            recovery := request.recovery
            walletMode := walletMode
            triggerManagedApproval := false
            requireFreshEvidence := false
            preverifiedEvidence := none }
          none
      else
        executeAward platform request existing.walletAddress walletMode

/-- `exceedsTokenOperationCap(amount)`. -/
def exceedsTokenOperationCap : JsNumber → Bool
  | .decimal shortest =>
      decide (200 < shortest.whole) ||
        (shortest.whole == 200 && shortest.fraction != [])
  | .large _ => true
  | _ => false

/-- The deduplication check of a caller that has one. -/
def deduplicationRefusal
    (award : AwardResult)
    (hasDeduplicationCheck : Bool) :
    Call (Option ExecutionResult) := do
  if !hasDeduplicationCheck then
    return none
  else
    match ← service (.deduplicationCheck award.dedupKey) with
    | .ok true =>
        return some
          (failedAward award .validation
            "Session already processed (deduplication)")
    | .ok false => return none
    | .error failure =>
        return some
          (failedAward award .validation
            ("Deduplication check failed: " ++ failure.message))

/-- A request without a saved operation: cap, deduplication and wallet. -/
def executeNewAward
    (platform : Platform)
    (request : AwardRequest)
    (hasDeduplicationCheck : Bool) :
    Call ExecutionResult := do
  if exceedsTokenOperationCap request.award.amount then
    return failedAward request.award .validation
      "TOKEN_AMOUNT_CAP_EXCEEDED: award amount cannot exceed 200 SPARKZ"
  else
    match ← deduplicationRefusal request.award hasDeduplicationCheck with
    | some refusal => return refusal
    | none =>
        match ← service (.walletConfig (jsString request.award.uid)) with
        | .error failure =>
            return {
              failedAward request.award .validation
                ("Address resolution failed: " ++ failure.message) with
              eligible := true }
        | .ok config =>
            executeAward platform request config.walletAddress
              config.walletMode

/-- The award that a saved operation stands for. -/
def savedAwardResult
    (existing : TokenOperation)
    (normalised : NormalisedSession) :
    AwardResult where
  eligible := decide (0 < existing.amount.units)
  amount := existing.amount.number
  uid := orText (some existing.uid) normalised.uid
  dedupKey :=
    orText existing.legacyKey
      (normalised.sessionId ++ "-" ++ normalised.providerId)
  metadata := savedAwardMetadata existing.intentContext

/-- Look the operation up, then follow the saved or the new path. -/
def lookupAndExecuteAward
    (platform : Platform)
    (signer : TreasurySigner)
    (normalised : NormalisedSession)
    (rawCDR : RawCdr)
    (operationKey : String)
    (hasDeduplicationCheck : Bool) :
    Call ExecutionResult := do
  let fallbackKey := normalised.sessionId ++ "-" ++ normalised.providerId
  let request (existing : Option TokenOperation) (award : AwardResult)
      (recovery : RecoveryInput) : AwardRequest :=
    { operationKey := operationKey
      signer := signer
      normalised := normalised
      rawCDR := rawCDR
      existing := existing
      award := award
      recovery := recovery }
  match ← (TokenOperations.findByKey operationKey).attempt with
  | .error failure =>
      return {
        emptyExecutionResult with
        dedupKey := fallbackKey
        uid := normalised.uid
        error :=
          some
            ("Operation recovery lookup failed: " ++ failure.message)
        stage := .execution }
  | .ok (some existing) =>
      let award := savedAwardResult existing normalised
      match resolveRecoveryInput platform existing
          ⟨normalised, rawCDR⟩ with
      | .error failure =>
          return {
            failedAward award .validation failure.message with
            txHash := existing.txHash
            operationStatus := some existing.status.text
            requiresReview := some true }
      | .ok recovery =>
          executeSavedAward platform
            (request (some existing) award recovery) existing
  | .ok none =>
      match ← (prepareAward normalised).attempt with
      | .error failure =>
          return {
            emptyExecutionResult with
            dedupKey := if normalised.uid = "" then "" else fallbackKey
            uid := normalised.uid
            error := some ("Calculation failed: " ++ failure.message)
            stage := .calculation }
      | .ok award =>
          executeNewAward platform
            (request none award ⟨normalised, rawCDR⟩)
            hasDeduplicationCheck

/-- `processAwardFromCDR(rawCDR, treasurySigner, deduplicationCheck)`. -/
def processAwardFromCDR
    (platform : Platform)
    (signer : TreasurySigner)
    (rawCDR : RawCdr)
    (hasDeduplicationCheck : Bool) :
    Call ExecutionResult :=
  match platform.validateAndNormaliseCdr rawCDR with
  | .error failure =>
      pure
        { emptyExecutionResult with
          error := some ("Normalisation failed: " ++ failure.message) }
  | .ok normalised => do
      let operationKey :=
        awardOperationKey platform.digests normalised.providerId
          normalised.sessionId
      note (.invoked operationKey)
      let result ←
        (lookupAndExecuteAward platform signer normalised rawCDR
          operationKey hasDeduplicationCheck).recover fun failure =>
            pure
              { emptyExecutionResult with
                error :=
                  some ("Unexpected error: " ++ failure.message) }
      note (.responded operationKey result.movementOutcome)
      return result

end Sparkz
