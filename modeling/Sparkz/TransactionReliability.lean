import Sparkz.TreasuryTransactions
import Sparkz.Platform

namespace Sparkz

/-!
# Prepare, save, broadcast

One treasury transaction is signed, its hash is saved, and only then its bytes
are sent.  A lease that was already prepared is never sent again.
-/

/-- The treasury signer, which may have no provider attached. -/
structure TreasurySigner where
  provider : Bool
  deriving Repr, DecidableEq

/-- The default of `TOKEN_CONTRACT_ADDRESS`. -/
def DEFAULT_TOKEN_CONTRACT_ADDRESS : String :=
  "0x605871D30DC278a036F09e2ace771df8a224624B"

/-- `getTreasuryAddress()`. -/
def getTreasuryAddress : Call String := do
  match orNull (← service .environment).TREASURY_ADDRESS with
  | some address => return address
  | none =>
      throwFailure <| .error
        "TREASURY_ADDRESS environment variable not configured. Set this to the Polygon address of the treasury wallet that holds SPARKZ tokens."

/-- `getTokenAssetContext(signer, configuredTreasuryAddress)`. -/
def getTokenAssetContext
    (signer : TreasurySigner)
    (configuredTreasuryAddress : Option String) :
    Call TokenAssetContext := do
  if !signer.provider then
    throwFailure <| .error
      "CHAIN_CONTEXT_UNAVAILABLE: signer provider is required to verify the configured chain"
  else
    let environment ← service .environment
    match ← (chain .network).attempt with
    | .error failure =>
        throwFailure
          (.error ("CHAIN_CONTEXT_UNAVAILABLE: " ++ failure.message))
    | .ok network =>
        let providerChainId := toString network
        if truthy environment.CHAIN_ID ∧
            environment.CHAIN_ID ≠ some providerChainId then
          throwFailure <| .error
            ("CONFIGURED_CHAIN_MISMATCH: configured chain " ++
              orText environment.CHAIN_ID "" ++
              " differs from provider chain " ++ providerChainId)
        else
          match ← (chain .signerAddress).attempt with
          | .error failure =>
              throwFailure
                (.error
                  ("SIGNER_ADDRESS_UNAVAILABLE: " ++ failure.message))
          | .ok address =>
              let signerAddress := lowerText address
              let treasuryAddress :=
                orText configuredTreasuryAddress
                  (orText environment.TREASURY_ADDRESS signerAddress)
              return {
                tokenContractAddress :=
                  lowerText
                    (orText environment.TOKEN_CONTRACT_ADDRESS
                      DEFAULT_TOKEN_CONTRACT_ADDRESS)
                chainId := providerChainId
                treasuryAddress :=
                  (orNull (some treasuryAddress)).map lowerText
                signerAddress := signerAddress }

/-- `verifySpendEvidence(input)`, without the note of its result. -/
def readSpendEvidence
    (platform : Platform)
    (input : SpendEvidenceRequest) :
    Call SpendEvidenceResult := do
  match expectedTransfer platform.getAddress input with
  | .error failure => return .error failure
  | .ok expected =>
      match ← (chain .network).attempt with
      | .error error =>
          return .error (providerFailure "chain-id lookup" "eth_chainId" error)
      | .ok network =>
          match ← (chain (.transaction expected.txHash)).attempt with
          | .error error =>
              return .error
                (providerFailure "transaction lookup"
                  "eth_getTransactionByHash" error)
          | .ok found =>
              match checkTransaction expected network found with
              | .error failure => return .error failure
              | .ok transaction =>
                  match ← (chain (.receipt expected.txHash)).attempt with
                  | .error error =>
                      return .error
                        (providerFailure "receipt lookup"
                          "eth_getTransactionReceipt" error)
                  | .ok receipt =>
                      return judgeReceipt platform.getAddress expected
                        transaction receipt
where
  /-- A failed read: `PROVIDER_ERROR` with the method that failed. -/
  providerFailure
      (lookup rpcMethod : String)
      (error : Failure) :
      SpendEvidenceFailure :=
    { code := .providerError
      message := lookup ++ " failed while verifying spend evidence"
      pending := false
      diagnostic :=
        some
          { rpcMethod := rpcMethod
            retryable := error.isTransientRead } }

/-- `verifySpendEvidence(input)`. -/
def verifySpendEvidence
    (platform : Platform)
    (input : SpendEvidenceRequest) :
    Call SpendEvidenceResult := do
  let result ← readSpendEvidence platform input
  note (.evidence input result)
  return result

/-- The arguments of `prepareAndBroadcastTransaction`. -/
structure TreasuryTransactionRequest where
  operationKey : String
  targetOperationKey : Option String
  targetType : TargetType
  signer : TreasurySigner
  chainId : String
  toAddress : String
  data : String
  value : Nat
  accessList : AccessList
  deriving DecidableEq

/-- The result of `prepareAndBroadcastTransaction`. -/
structure TransactionReliabilityResult where
  txHash : TransactionHash
  context : PreparedTransactionContext
  broadcasted : Bool
  alreadyPrepared : Bool
  deriving DecidableEq

/-- `diagnosticFor(stage, errorCode, …)`, before its options. -/
def diagnosticFor
    (stage : DiagnosticStage)
    (errorCode : String) :
    TransactionDiagnostic where
  stage := stage
  category := none
  rpcMethod := none
  errorCode := errorCode
  retryable := false
  savedHash := none
  nonce := none

/-- A read that preparation needs has failed. -/
def rpcReadUnavailable
    (rpcMethod : String)
    (nonce : Option Nat)
    (failure : Failure) :
    Failure :=
  .reliability
    { diagnosticFor .prepare "RPC_READ_UNAVAILABLE" with
      rpcMethod := some rpcMethod
      retryable := failure.isTransientRead
      category := some .rpcUnavailable
      nonce := nonce }

/-- The unsigned transaction of a request under the given fees. -/
def baseRequest
    (request : TreasuryTransactionRequest)
    (nonce : Nat)
    (fees : FeeData) :
    Option TransactionRequest :=
  let base : TransactionRequest :=
    { toAddress := request.toAddress
      data := orText (some request.data) "0x"
      value := request.value
      nonce := nonce
      chainId := request.chainId
      accessList := request.accessList
      type := none
      maxFeePerGas := none
      maxPriorityFeePerGas := none
      gasPrice := none
      gasLimit := none }
  match fees.maxFeePerGas, fees.maxPriorityFeePerGas, fees.gasPrice with
  | some maxFeePerGas, some maxPriorityFeePerGas, _ =>
      some
        { base with
          type := some 2
          maxFeePerGas := some maxFeePerGas
          maxPriorityFeePerGas := some maxPriorityFeePerGas }
  | _, _, some gasPrice => some { base with gasPrice := some gasPrice }
  | _, _, none => none

/-- An access list with checksummed addresses; nothing when one is invalid. -/
def checksummedAccessList
    (getAddress : String → Option String) :
    AccessList →
    Option AccessList
  | none => some none
  | some entries =>
      (entries.mapM fun entry =>
        (getAddress entry.1).map fun address => (address, entry.2)).map some

/-- `toContext(request, signerAddress, nonce, tx)`; nothing when it throws. -/
def toContext
    (platform : Platform)
    (request : TreasuryTransactionRequest)
    (signerAddress : String)
    (nonce : Nat)
    (tx : TransactionRequest) :
    Option PreparedTransactionContext := do
  let accessList ←
    checksummedAccessList platform.getAddress tx.accessList
  let toAddress ← platform.getAddress request.toAddress
  return {
    chainId := request.chainId
    signerAddress := signerAddress
    nonce := nonce
    toAddress := toAddress
    data := some tx.data
    value := request.value
    gasLimit := tx.gasLimit
    gasPrice := tx.gasPrice
    maxFeePerGas := tx.maxFeePerGas
    maxPriorityFeePerGas := tx.maxPriorityFeePerGas
    type := tx.type <|> tx.gasPrice.map fun _ => 0
    accessList := accessList }

/-- The `getPendingNonce` callback. -/
def getPendingNonce (signerAddress : String) : Call JsNumber :=
  (chain (.pendingNonce signerAddress)).recover fun failure =>
    throwFailure
      (rpcReadUnavailable "eth_getTransactionCount" none failure)

/-- Estimate the gas of a transaction, or throw the diagnostic. -/
def estimateGas (nonce : Nat) (base : TransactionRequest) : Call Nat :=
  (chain (.estimateGas base)).recover fun failure =>
    if failure.isTransientRead then
      throwFailure
        (rpcReadUnavailable "eth_estimateGas" (some nonce) failure)
    else
      throwFailure <| .reliability
        { diagnosticFor .prepare "TRANSACTION_ESTIMATE_REJECTED" with
          rpcMethod := some "eth_estimateGas"
          category := some .preflight
          nonce := some nonce }

/-- Sign a transaction, or throw the diagnostic. -/
def signTransaction
    (operationKey : String)
    (nonce : Nat)
    (tx : TransactionRequest) :
    Call String :=
  (chain (.signTransaction operationKey tx)).recover fun _ =>
    throwFailure <| .reliability
      { diagnosticFor .prepare "SIGN_TRANSACTION_FAILED" with
        rpcMethod := some "signTransaction"
        category := some .preflight
        nonce := some nonce }

/-- The `prepare` callback: fees, gas, signature, hash and context. -/
def prepareTransaction
    (platform : Platform)
    (request : TreasuryTransactionRequest)
    (signerAddress : String)
    (nonce : Nat) :
    Call PreparedTreasuryTransaction := do
  let fees ←
    (chain .feeData).recover fun failure =>
      throwFailure
        (rpcReadUnavailable "provider.getFeeData" (some nonce) failure)
  match baseRequest request nonce fees with
  | none =>
      throwFailure <| .reliability
        { diagnosticFor .prepare "FEE_DATA_UNAVAILABLE" with
          rpcMethod := some "provider.getFeeData"
          retryable := true
          category := some .rpcUnavailable
          nonce := some nonce }
  | some base =>
      let gasLimit ← estimateGas nonce base
      let tx := { base with gasLimit := some gasLimit }
      let rawTransaction ← signTransaction request.operationKey nonce tx
      match toContext platform request signerAddress nonce tx with
      | none =>
          throwFailure <| .reliability
            { diagnosticFor .prepare "SIGNING_CONTEXT_INVALID" with
              category := some .preflight
              nonce := some nonce }
      | some context =>
          return {
            txHash := (platform.keccak256 rawTransaction).text
            rawTransaction := rawTransaction
            context := context }

/-- Stage, retry advice, category and method of a coordinator outcome. -/
def coordinatorDiagnostic
    (preparationCode : String) :
    Option TransactionDiagnostic :=
  let coordinator (retryable : Bool) (category : DiagnosticCategory)
      (rpcMethod : Option String) : TransactionDiagnostic :=
    { diagnosticFor .prepare preparationCode with
      retryable := retryable
      category := some category
      rpcMethod := rpcMethod }
  if preparationCode = "TREASURY_NONCE_LOCK_TIMEOUT" then
    some (coordinator true .databaseUnavailable none)
  else if preparationCode = "TREASURY_NONCE_BUSY_RETRYABLE" then
    some (coordinator true .databaseUnavailable none)
  else if preparationCode = "TREASURY_PENDING_NONCE_UNAVAILABLE" then
    some
      (coordinator true .rpcUnavailable (some "eth_getTransactionCount"))
  else if preparationCode = "TREASURY_NONCE_UNAVAILABLE" then
    some (coordinator true .databaseUnavailable none)
  else if preparationCode = "TREASURY_NONCE_GAP_REQUIRES_REVIEW" then
    some (coordinator false .reviewRequired none)
  else
    none

/-- The codes of a preparation that can not succeed later. -/
def permanentPreparationCodes : List String :=
  ["TREASURY_TRANSACTION_INTENT_MISMATCH",
    "TREASURY_TRANSACTION_CONTEXT_MISMATCH",
    "TOKEN_OPERATION_NOT_FOUND",
    "TOKEN_OPERATION_TERMINAL_STATE",
    "TOKEN_OPERATION_TX_HASH_MISMATCH",
    "APPROVAL_PREPARATION_NOT_FOUND",
    "APPROVAL_PREPARATION_TERMINAL_STATE",
    "APPROVAL_FUNDING_ATTEMPT_MISMATCH",
    "APPROVAL_FUNDING_TX_HASH_MISMATCH"]

/-- The diagnostic of an error thrown by `TreasuryTransactions.prepare`. -/
def preparationDiagnostic : Failure → TransactionDiagnostic
  | .reliability diagnostic => diagnostic
  | .preparation message =>
      let code := sliceText (beforeColon message) 96
      match coordinatorDiagnostic code with
      | some diagnostic => diagnostic
      | none =>
          if permanentPreparationCodes.contains code then
            { diagnosticFor .persistHash code with
              category := some .reviewRequired }
          else
            { diagnosticFor .persistHash
                "TRANSACTION_HASH_PERSISTENCE_FAILED" with
              retryable := true
              category := some .databaseUnavailable }
  | _ =>
      { diagnosticFor .prepare "TRANSACTION_PREPARATION_FAILED" with
        retryable := true
        category := some .databaseUnavailable }

/-- The diagnostic of a transaction whose hash is saved. -/
def savedHashDiagnostic
    (stage : DiagnosticStage)
    (errorCode : String)
    (lease : TreasuryLease)
    (rpcMethod : Option String) :
    TransactionDiagnostic :=
  { diagnosticFor stage errorCode with
    rpcMethod := rpcMethod
    category := some .reviewRequired
    savedHash := some lease.txHash
    nonce := some lease.nonce }

/-- Move a lease to review, as far as the database allows, and throw. -/
def reviewLease {α : Type}
    (operationKey : String)
    (diagnostic : TransactionDiagnostic) :
    Call α := do
  let _ ←
    (TreasuryTransactions.markUnknown operationKey diagnostic
      diagnostic.errorCode).attempt
  throwFailure (.reliability diagnostic)

/-- Send the signed bytes of a fresh lease. -/
def broadcast
    (operationKey rawTransaction : String)
    (lease : TreasuryLease) :
    Call TransactionReliabilityResult := do
  let unknown {α : Type} : Call α :=
    reviewLease operationKey
      (savedHashDiagnostic .broadcast "CHAIN_OUTCOME_UNKNOWN" lease
        (some "eth_sendRawTransaction"))
  match ← (chain
      (.broadcastTransaction operationKey rawTransaction)).attempt with
  | .error _ => unknown
  | .ok responseHash =>
      if lowerText responseHash ≠ lowerText lease.txHash.text then
        reviewLease operationKey
          (savedHashDiagnostic .broadcast "BROADCAST_HASH_MISMATCH" lease
            (some "eth_sendRawTransaction"))
      else
        match ← (TreasuryTransactions.markSubmitted operationKey
            lease.txHash.text).attempt with
        | .error _ => unknown
        | .ok _ =>
            return {
              txHash := lease.txHash
              context := lease.txContext
              broadcasted := true
              alreadyPrepared := false }

/-- The preparation request of a treasury transaction. -/
def TreasuryTransactionRequest.preparation
    (platform : Platform)
    (request : TreasuryTransactionRequest)
    (signerAddress : String) :
    TreasuryTransactionPreparationRequest where
  operationKey := request.operationKey
  targetOperationKey := request.targetOperationKey
  targetType := request.targetType
  chainId := request.chainId
  signerAddress := signerAddress
  toAddress := request.toAddress
  data := some request.data
  value := some request.value
  accessList := request.accessList
  getPendingNonce := getPendingNonce signerAddress
  prepare := prepareTransaction platform request signerAddress

/-- Continue with what `prepare` returned. -/
def broadcastPrepared
    (request : TreasuryTransactionRequest)
    (prepared : TreasuryPreparation) :
    Call TransactionReliabilityResult :=
  match prepared.alreadyPrepared, prepared.rawTransaction with
  | false, some rawTransaction =>
      broadcast request.operationKey rawTransaction prepared.lease
  | _, _ =>
      if prepared.lease.status = .prepared then
        reviewLease request.operationKey
          (savedHashDiagnostic .persistHash
            "TRANSACTION_PREPARED_REVIEW_REQUIRED" prepared.lease none)
      else
        pure
          { txHash := prepared.lease.txHash
            context := prepared.lease.txContext
            broadcasted := false
            alreadyPrepared := true }

/-- The checksummed address of the signer, or the diagnostic. -/
def checksummedSigner (platform : Platform) : Call String := do
  let unavailable : Failure :=
    .reliability
      { diagnosticFor .prepare "SIGNER_ADDRESS_UNAVAILABLE" with
        rpcMethod := some "signer.getAddress"
        retryable := true
        category := some .rpcUnavailable }
  match ← (chain .signerAddress).attempt with
  | .error _ => throwFailure unavailable
  | .ok address =>
      match platform.getAddress address with
      | none => throwFailure unavailable
      | some checksummed => return checksummed

/-- `prepareAndBroadcastTransaction(request)`. -/
def prepareAndBroadcastTransaction
    (platform : Platform)
    (request : TreasuryTransactionRequest) :
    Call TransactionReliabilityResult := do
  if !request.signer.provider then
    throwFailure <| .reliability
      { diagnosticFor .assetContext "PROVIDER_REQUIRED" with
        retryable := true
        category := some .rpcUnavailable }
  else
    let signerAddress ← checksummedSigner platform
    let prepared ←
      (TreasuryTransactions.prepare
        (request.preparation platform signerAddress)).recover
        fun failure =>
          throwFailure (.reliability (preparationDiagnostic failure))
    broadcastPrepared request prepared

end Sparkz
