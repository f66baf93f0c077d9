import Sparkz.ApprovalPreparations
import Sparkz.TransactionReliability

namespace Sparkz

/-!
# Funding and approving a managed wallet

`approveUserForSpendingViaFunding` sends gas to a managed wallet, which then
approves the treasury.  The lock of `withApprovalPreparationLock` only puts the
calls of one process in an order; here they are interleaved in every order.
-/

/-- A managed wallet that is to approve the treasury. -/
structure WalletApproval where
  walletAddress : String
  tokenContractAddress : String
  chainId : String
  treasuryAddress : String
  signerAddress : String
  preparationKey : String

namespace WalletApproval

/-- The arguments of `ApprovalPreparations.claim`. -/
def claimRequest (approval : WalletApproval) : ApprovalClaimRequest where
  operationKey := approval.preparationKey
  walletAddress := approval.walletAddress
  tokenContractAddress := approval.tokenContractAddress
  chainId := approval.chainId
  treasuryAddress := approval.treasuryAddress

/-- What `approvalRecoveryError` carries, before its options. -/
def recovery
    (approval : WalletApproval)
    (stage : ApprovalRecoveryStage) :
    ApprovalRecoveryDetails where
  stage := stage
  operationKey := approval.preparationKey
  txHash := none
  fundingTxHash := none
  diagnostic := none
  durableStateWriteFailed := false
  cause := none
  movementOutcome := none
  pending := true
  requiresReview := true
  retryable := false
  preflightFailure := false

end WalletApproval

/-- The details with the hash that a preparation has kept. -/
def ApprovalRecoveryDetails.retaining
    (details : ApprovalRecoveryDetails)
    (preparation : ApprovalPreparation) :
    ApprovalRecoveryDetails :=
  match preparation.approvalTxHash with
  | some hash => { details with txHash := some hash.text }
  | none =>
      { details with
        fundingTxHash := preparation.fundingTxHash.map (·.text) }

/-- `throw approvalRecoveryError(message, details, options)`. -/
def approvalRecoveryError {α : Type}
    (message : String)
    (details : ApprovalRecoveryDetails) :
    Call α :=
  throwFailure (.approval message details)

/-- Whether a statement that is only tried has failed. -/
def durableStateWriteFailed {α : Type} (statement : Call α) : Call Bool := do
  match ← statement.attempt with
  | .ok _ => return false
  | .error _ => return true

/-! ## What the chain shows -/

/-- `estimateManagedApprovalGasTarget`. -/
def estimateManagedApprovalGasTarget
    (approval : WalletApproval) :
    Call Nat := do
  let gasLimit ←
    chain
      (.estimateApprovalGas approval.walletAddress
        approval.tokenContractAddress approval.treasuryAddress)
  let feeData ← chain .feeData
  let feePerGas := (feeData.maxFeePerGas.or feeData.gasPrice).getD 0
  if feePerGas = 0 ∨ gasLimit = 0 then
    throwFailure <| .error
      "APPROVAL_GAS_ESTIMATE_UNAVAILABLE: chain did not return a usable gas estimate and fee quote"
  else
    return gasLimit * 2 * feePerGas

/-- The native currency that a wallet lacks for its approval, if any. -/
def missingGas (approval : WalletApproval) : Call (Option Nat) := do
  let nativeBalance ← chain (.nativeBalance approval.walletAddress)
  let gasTarget ← estimateManagedApprovalGasTarget approval
  if nativeBalance < gasTarget then
    return some (gasTarget - nativeBalance)
  else
    return none

/-- The reads of `proveUnknownFundingOnlyPreparation` and their verdict. -/
def readFundingProof
    (approval : WalletApproval)
    (fundingHash : TransactionHash) :
    Call (Option String) := do
  let fundingReceipt ← chain (.receipt fundingHash.text)
  let fundingTransaction ← chain (.nativeTransfer fundingHash.text)
  let latestNonce ← chain (.latestNonce approval.walletAddress)
  let pendingNonce ← chain (.pendingNonce approval.walletAddress)
  let expectedWallet := some (lowerText approval.walletAddress)
  let expectedTreasury := some (lowerText approval.signerAddress)
  let receiptMatches :=
    fundingReceipt.any fun receipt =>
      receipt.status == some 1 &&
        receipt.toAddress.map lowerText == expectedWallet &&
        receipt.sender.map lowerText == expectedTreasury
  let transactionMatches :=
    fundingTransaction.any fun transaction =>
      lowerText (trimText transaction.hash) == fundingHash.text &&
        transaction.toAddress.map lowerText == expectedWallet &&
        some (lowerText transaction.sender) == expectedTreasury &&
        decide (0 < transaction.value)
  if !receiptMatches || !transactionMatches then
    return some
      "funding transaction receipt or sender/recipient proof did not match"
  else if latestNonce ≠ .ofNat 0 ∨ pendingNonce ≠ .ofNat 0 then
    return some
      "managed wallet nonce is no longer zero; an approval or other wallet transaction may have broadcast"
  else
    return none

/-- `proveUnknownFundingOnlyPreparation`: the reason why nothing is proved. -/
def proveUnknownFundingOnlyPreparation
    (approval : WalletApproval)
    (preparation : ApprovalPreparation) :
    Call (Option String) := do
  match preparation.fundingTxHash, preparation.approvalTxHash with
  | some fundingHash, none =>
      match ← (readFundingProof approval fundingHash).attempt with
      | .ok verdict => return verdict
      | .error failure =>
          return some
            ("read-only recovery proof unavailable: " ++ failure.message)
  | _, _ =>
      return some
        "funding hash is missing or an approval hash is already present"

/-- `reconcileOriginalNativeTransfer`, for the funding of a wallet. -/
def reconcileOriginalNativeTransfer
    (tx : TransactionReliabilityResult) :
    Call Unit := do
  let label := "Managed-wallet approval gas funding original transaction "
  let refuse (reason : String) : Call Unit :=
    throwFailure (.error (label ++ reason))
  let reads := do
    let transaction ← chain (.nativeTransfer tx.txHash.text)
    let receipt ← chain (.receipt tx.txHash.text)
    return (transaction, receipt)
  match ← reads.attempt with
  | .error failure =>
      refuse
        ("evidence is unavailable; operator review is required: " ++
          failure.message)
  | .ok (some transaction, some receipt) =>
      if lowerText transaction.hash ≠ lowerText tx.txHash.text ∨
          lowerText transaction.sender ≠
            lowerText tx.context.signerAddress ∨
          transaction.toAddress.map lowerText ≠
            some (lowerText tx.context.toAddress) ∨
          transaction.value ≠ tx.context.value then
        refuse
          "intent does not match its saved signing context; operator review is required"
      else if receipt.status ≠ some 1 then
        refuse "failed on-chain; operator review is required"
      else
        return ()
  | .ok _ => refuse "is still pending; operator review is required"

/-! ## The preparation of a call -/

/-- A preparation that was left `unknown`, after the proof that it may go on. -/
def recoverUnknownPreparation
    (approval : WalletApproval)
    (preparation : ApprovalPreparation) :
    Call ApprovalPreparation := do
  match ← proveUnknownFundingOnlyPreparation approval preparation with
  | some reason =>
      approvalRecoveryError
        ("Approval preparation remains unresolved; operator review is required before another approval submission (" ++
          reason ++ ")")
        { (approval.recovery .preparation).retaining preparation with
          cause := some reason }
  | none =>
      match ← ApprovalPreparations.recoverFundedAfterReadOnlyProof
          approval.preparationKey with
      | some recovered => return recovered
      | none =>
          match (← read (.approval approval.preparationKey)).filter
              (·.status = .funded) with
          | some current => return current
          | none =>
              approvalRecoveryError
                "Read-only approval recovery proof passed, but the durable preparation state could not be advanced safely"
                { approval.recovery .preparation with
                  fundingTxHash :=
                    preparation.fundingTxHash.map (·.text) }

/-- The preparation that a call has claimed, or may continue. -/
def usablePreparation
    (approval : WalletApproval) :
    Call ApprovalPreparation := do
  let (record, acquired) ← ApprovalPreparations.claim approval.claimRequest
  if acquired then
    return record
  else
    let preparation ←
      if record.status = .unknown then
        recoverUnknownPreparation approval record
      else
        pure record
    let resumableFundingAttempt :=
      preparation.status = .funding ∧ truthy preparation.fundingAttemptKey
    if preparation.status ≠ .funded ∧ ¬resumableFundingAttempt then
      approvalRecoveryError
        ("Approval preparation is retained in " ++
          preparation.status.text ++ " state for " ++
          approval.preparationKey ++
          (match orNull preparation.errorMessage with
            | some error => " (" ++ error ++ ")"
            | none => ""))
        ((approval.recovery .preparation).retaining preparation)
    else
      return preparation

/-- A preparation with the key and the amount of its funding attempt. -/
structure FundingAttempt where
  preparation : ApprovalPreparation
  attemptKey : Option String
  attemptValue : Option Nat

/-- The attempt that a row names. -/
def ApprovalPreparation.attempt
    (preparation : ApprovalPreparation) :
    FundingAttempt where
  preparation := preparation
  attemptKey := orNull preparation.fundingAttemptKey
  attemptValue := preparation.fundingAttemptValue

/-- A funded wallet that lacks gas again is topped up under a new key. -/
def claimTopUp
    (approval : WalletApproval)
    (preparation : ApprovalPreparation) :
    Call FundingAttempt := do
  if preparation.status ≠ .funded then
    return preparation.attempt
  else
    match ← missingGas approval with
    | none => return preparation.attempt
    | some missing =>
        let fundingAttemptKey :=
          approval.preparationKey ++ ":topup:" ++ (← service .newId)
        let (record, acquired) ←
          ApprovalPreparations.claimFundingTopUp approval.preparationKey
            fundingAttemptKey missing
        if !acquired then
          approvalRecoveryError
            ("Managed-wallet approval gas is below the measured target, but another process owns the durable top-up attempt (" ++
              record.status.text ++ ")")
            { approval.recovery .funding with
              fundingTxHash :=
                (record.fundingTxHash <|> preparation.fundingTxHash).map
                  (·.text) }
        else
          return {
            preparation := record
            attemptKey :=
              some (orText record.fundingAttemptKey fundingAttemptKey)
            attemptValue := some (record.fundingAttemptValue.getD missing) }

/-! ## The funding transaction -/

/-- A funding attempt that has thrown is kept as failed or unknown. -/
def fundingSubmissionFailed {α : Type}
    (approval : WalletApproval)
    (preparation : ApprovalPreparation)
    (fundingOperationKey : String)
    (txHash : Option TransactionHash)
    (failure : Failure) :
    Call α := do
  let diagnostic :=
    match failure with
    | .reliability diagnostic => some diagnostic
    | _ => none
  let message := failure.message
  if isPreBroadcastTransactionDiagnostic diagnostic then
    let writeFailed ←
      durableStateWriteFailed
        (ApprovalPreparations.markFundingPreflightFailed
          approval.preparationKey message (diagnostic.map some))
    let retryable := diagnostic.any (·.retryable)
    approvalRecoveryError
      ("Funding preparation failed before broadcast; no movement was attempted: " ++
        message)
      { approval.recovery .funding with
        durableStateWriteFailed := writeFailed
        cause := some message
        movementOutcome := some .noMovement
        diagnostic := diagnostic
        pending := retryable
        requiresReview := false
        retryable := retryable
        preflightFailure := true }
  else
    let savedFundingHash :=
      (diagnostic.bind (·.savedHash) <|> txHash <|>
        preparation.fundingTxHash).map (·.text)
    let writeFailed ←
      durableStateWriteFailed
        (ApprovalPreparations.markUnknown approval.preparationKey
          ("funding submission requires review: " ++ message)
          { fundingTxHash := savedFundingHash
            fundingAttemptKey := some fundingOperationKey
            clearFundingHash := savedFundingHash.isNone
            diagnostic := diagnostic.map some })
    approvalRecoveryError
      ("Funding submission outcome is unknown and requires operator review: " ++
        message)
      { approval.recovery .funding with
        fundingTxHash := savedFundingHash
        diagnostic := diagnostic
        durableStateWriteFailed := writeFailed
        cause := some message }

/-- Save the hash of a transfer; one that was sent before is read first. -/
def saveFunding
    (approval : WalletApproval)
    (fundingOperationKey : String)
    (fundingResult : TransactionReliabilityResult) :
    Call (Option ApprovalPreparation) := do
  if fundingResult.alreadyPrepared then
    reconcileOriginalNativeTransfer fundingResult
  ApprovalPreparations.markFundingSubmitted approval.preparationKey
    fundingResult.txHash.text
    { nonce := some fundingResult.context.nonce
      context := some fundingResult.context
      diagnostic := none
      attemptKey := some fundingOperationKey }

/-- Send gas to the wallet, or find the transfer that was sent before. -/
def submitFunding
    (platform : Platform)
    (signer : TreasurySigner)
    (approval : WalletApproval)
    (preparation : ApprovalPreparation)
    (fundingOperationKey : String)
    (gasAmount : Nat) :
    Call TransactionReliabilityResult := do
  let failed {α : Type} :=
    @fundingSubmissionFailed α approval preparation fundingOperationKey
  match ← (prepareAndBroadcastTransaction platform
      { operationKey := fundingOperationKey
        targetOperationKey := some approval.preparationKey
        targetType := .approvalFunding
        signer := signer
        chainId := preparation.chainId
        toAddress := approval.walletAddress
        data := ""
        value := gasAmount
        accessList := none }).attempt with
  | .error failure => failed none failure
  | .ok fundingResult =>
      match ← (saveFunding approval fundingOperationKey
          fundingResult).attempt with
      | .error failure => failed (some fundingResult.txHash) failure
      | .ok _ => return fundingResult

/-- A mined transaction that has succeeded, or why it is not known to. -/
def waitForSuccess
    (notConfirmed txHash : String) :
    Call (Option Failure) := do
  match ← (chain (.waitForTransaction txHash)).attempt with
  | .error failure => return some failure
  | .ok receipt =>
      if receipt.any (·.status == some 1) then
        return none
      else
        return some (.error (notConfirmed ++ txHash))

/-- The diagnostic of a confirmation that could not be read. -/
def confirmationUnavailable
    (rpcMethod : String)
    (failure : Failure)
    (savedHash : Option TransactionHash)
    (nonce : Option Nat) :
    TransactionDiagnostic :=
  { diagnosticFor .receipt "RECEIPT_READ_UNAVAILABLE" with
    rpcMethod := some rpcMethod
    retryable := failure.isTransientRead
    category := some .confirmationPending
    savedHash := savedHash
    nonce := nonce }

/-- Wait for a new funding transfer. -/
def confirmFunding
    (approval : WalletApproval)
    (fundingOperationKey : String)
    (fundingResult : TransactionReliabilityResult) :
    Call Unit := do
  match ← waitForSuccess
      "Gas funding transaction was not confirmed successfully: "
      fundingResult.txHash.text with
  | none => return ()
  | some failure =>
      let diagnostic :=
        confirmationUnavailable "provider.waitForTransaction" failure
          (some fundingResult.txHash) (some fundingResult.context.nonce)
      let writeFailed ←
        durableStateWriteFailed
          (ApprovalPreparations.markUnknown approval.preparationKey
            ("funding confirmation outcome is unknown: " ++
              failure.message)
            { fundingTxHash := some fundingResult.txHash.text
              fundingAttemptKey := some fundingOperationKey
              clearFundingHash := false
              diagnostic := some (some diagnostic) })
      approvalRecoveryError
        ("Funding confirmation outcome is unknown and requires operator review: " ++
          failure.message)
        { approval.recovery .funding with
          fundingTxHash := some fundingResult.txHash.text
          diagnostic := some diagnostic
          durableStateWriteFailed := writeFailed
          cause := some failure.message }

/-- The gas that a funding attempt sends, if any. -/
def fundingGas
    (approval : WalletApproval)
    (attemptValue : Option Nat) :
    Call (Option Nat) := do
  match attemptValue with
  | some 0 =>
      approvalRecoveryError
        "Managed-wallet approval funding attempt has a non-positive durable amount; operator review is required"
        { approval.recovery .funding with
          cause := some "invalid funding_attempt_value" }
  | some value => return some value
  | none => missingGas approval

/-- Save that the wallet has its gas. -/
def markWalletFunded
    (approval : WalletApproval)
    (preparation : ApprovalPreparation) :
    Call Unit := do
  match ← (ApprovalPreparations.markFunded
      approval.preparationKey).attempt with
  | .ok _ => return ()
  | .error failure =>
      approvalRecoveryError
        ("Funding is confirmed but its durable preparation state could not be saved: " ++
          failure.message)
        { approval.recovery .funding with
          fundingTxHash := preparation.fundingTxHash.map (·.text)
          cause := some failure.message }

/-- The part of the function for a preparation in `funding`. -/
def fundWallet
    (platform : Platform)
    (signer : TreasurySigner)
    (approval : WalletApproval)
    (attempt : FundingAttempt) :
    Call Unit := do
  match ← fundingGas approval attempt.attemptValue with
  | none => markWalletFunded approval attempt.preparation
  | some gasAmount =>
      let fundingOperationKey :=
        attempt.attemptKey.getD
          (approval.preparationKey ++ ":funding:" ++ toString gasAmount)
      let fundingResult ←
        submitFunding platform signer approval attempt.preparation
          fundingOperationKey gasAmount
      if !fundingResult.alreadyPrepared then
        confirmFunding approval fundingOperationKey fundingResult
      markWalletFunded approval attempt.preparation

/-! ## The approval transaction -/

/-- An approval that may have been sent is kept as unknown. -/
def approvalOutcomeUnknown {α : Type}
    (approval : WalletApproval)
    (saved thrown : String)
    (txHash : Option String)
    (diagnostic : TransactionDiagnostic)
    (failure : Failure) :
    Call α := do
  let writeFailed ←
    durableStateWriteFailed
      (ApprovalPreparations.markUnknown approval.preparationKey
        (saved ++ failure.message)
        { fundingTxHash := none
          fundingAttemptKey := none
          clearFundingHash := false
          diagnostic := some (some diagnostic) })
  approvalRecoveryError (thrown ++ failure.message)
    { approval.recovery .approval with
      txHash := txHash
      diagnostic := some diagnostic
      durableStateWriteFailed := writeFailed
      cause := some failure.message }

/-- Send the approval of the wallet and save its hash. -/
def submitApproval (approval : WalletApproval) : Call String := do
  let unknown {α : Type} (txHash : Option String) :=
    @approvalOutcomeUnknown α approval
      "approval submission outcome is unknown: "
      "Approval submission outcome is unknown and requires operator review: "
      txHash
      { diagnosticFor .broadcast "APPROVAL_SUBMISSION_OUTCOME_UNKNOWN" with
        rpcMethod := some "signer.sendTransaction"
        category := some .reviewRequired
        savedHash := txHash.bind canonicalTransactionHash }
  match ← (chain
      (.sendApproval approval.walletAddress approval.tokenContractAddress
        approval.treasuryAddress)).attempt with
  | .error failure => unknown none failure
  | .ok txHash =>
      match ← (ApprovalPreparations.markApprovalSubmitted
          approval.preparationKey txHash).attempt with
      | .error failure => unknown (some txHash) failure
      | .ok _ => return txHash

/-- Wait for the approval and close the preparation. -/
def confirmApproval
    (approval : WalletApproval)
    (txHash : String) :
    Call Unit := do
  match ← waitForSuccess
      "Approval transaction was not confirmed successfully: " txHash with
  | some failure =>
      approvalOutcomeUnknown approval
        "approval confirmation outcome is unknown: "
        "Approval confirmation outcome is unknown and requires operator review: "
        (some txHash)
        (confirmationUnavailable "transaction.wait" failure
          (canonicalTransactionHash txHash) none)
        failure
  | none =>
      match ← (ApprovalPreparations.markApproved
          approval.preparationKey).attempt with
      | .ok _ => return ()
      | .error failure =>
          approvalRecoveryError
            ("Approval is confirmed but its durable preparation state could not be saved: " ++
              failure.message)
            { approval.recovery .approval with
              txHash := some txHash
              cause := some failure.message }

/-- The approval of a wallet that has its gas, by the call that acquires it. -/
def approveTreasury (approval : WalletApproval) : Call Unit := do
  let (retained, acquired) ←
    ApprovalPreparations.claimApprovalSubmission approval.preparationKey
  if !acquired then
    approvalRecoveryError
      ("Approval preparation is retained in " ++ retained.status.text ++
        " state for " ++ approval.preparationKey ++
        "; operator review is required before another submission")
      ((approval.recovery .approval).retaining retained)
  else
    let txHash ← submitApproval approval
    confirmApproval approval txHash

/-- The work under the lock, for a wallet whose allowance is too small. -/
def prepareApproval
    (platform : Platform)
    (signer : TreasurySigner)
    (approval : WalletApproval) :
    Call Unit := do
  let preparation ← usablePreparation approval
  let attempt ← claimTopUp approval preparation
  if attempt.preparation.status = .funding then
    fundWallet platform signer approval attempt
  approveTreasury approval

/-- The allowance that a call asks for, in base units. -/
def requiredAllowance (requiredAmount : Option JsNumber) : Except Failure Nat :=
  match requiredAmount with
  | none => .ok 1
  | some amount =>
      match canonicalTokenAmount amount with
      | some canonical => .ok canonical.baseUnits
      | none =>
          .error <| .error
            "UNSUPPORTED_TOKEN_PRECISION: approval amount must use at most 2 decimals"

/--
`approveUserForSpendingViaFunding(uid, treasurySigner, treasuryAddress,
requiredAmount)`.
-/
def approveUserForSpendingViaFunding
    (platform : Platform)
    (signer : TreasurySigner)
    (uid : JsString)
    (treasuryAddress : String)
    (requiredAmount : Option JsNumber) :
    Call Unit := do
  if !signer.provider then
    throwFailure (.error "Provider not available")
  else
    let walletAddress := platform.getManagedWalletAddress uid
    let asset ← getTokenAssetContext signer (some treasuryAddress)
    let lockKey :=
      lowerText walletAddress ++ ":" ++ asset.tokenContractAddress ++ ":" ++
        asset.chainId ++ ":" ++ lowerText treasuryAddress
    let required ← orThrow (requiredAllowance requiredAmount)
    let currentAllowance ←
      chain
        (.allowance asset.tokenContractAddress walletAddress
          treasuryAddress)
    if required ≤ currentAllowance then
      return ()
    else
      prepareApproval platform signer
        { walletAddress := walletAddress
          tokenContractAddress := asset.tokenContractAddress
          chainId := asset.chainId
          treasuryAddress := treasuryAddress
          signerAddress := asset.signerAddress
          preparationKey :=
            "approval:" ++ platform.digests.sha256 lockKey }

end Sparkz
