import Sparkz.LedgerProjection

namespace Sparkz

/-!
# Storing one receipt for one transfer

`createAndStoreSpendReceipt` looks for a receipt, signs one, inserts it, and
looks again when the insert has failed.  No transaction spans these steps.  A
receipt that is found is compared with the request before it is returned.
-/

/-! ## Verification -/

/-- `verifySpendReceiptAgainstTrustedSigner`. -/
def verifySpendReceiptAgainstTrustedSigner
    (platform : Platform)
    (payload : SpendReceiptPayload)
    (signature claimedSignerAddress trustedSignerAddress : String) :
    TrustedSpendReceiptVerification :=
  match platform.getAddress trustedSignerAddress with
  | none =>
      .rejected .invalidTrustedSigner
        "configured receipt signer address is invalid" none
  | some trustedAddress =>
      match platform.getAddress claimedSignerAddress with
      | none =>
          .rejected .invalidClaimedSigner
            "receipt signerAddress is invalid" none
      | some claimedAddress =>
          if lowerText claimedAddress ≠ lowerText trustedAddress then
            .rejected .signerMismatch
              "receipt signerAddress does not match the configured NEVERFLAT receipt signer"
              none
          else
            match platform.verifyMessage payload signature with
            | none =>
                .rejected .invalidSignature
                  "receipt signature is malformed or cannot be recovered"
                  none
            | some recovered =>
                if lowerText recovered ≠ lowerText trustedAddress then
                  .rejected .invalidSignature
                    "receipt signature was not produced by the configured NEVERFLAT receipt signer"
                    (some recovered)
                else
                  ⟨true, some recovered, none⟩

/-- What a request expects of its receipt. -/
structure ReceiptExpectation where
  uid : JsString
  walletAddress : String
  amount : TokenAmount
  sessionId : Option JsString
  providerId : Option JsString
  txHash : TransactionHash
  chainId : Nat
  tokenContractAddress : String
  trustedSignerAddress : String
  deriving DecidableEq

namespace ReceiptExpectation

/-- `invalidStoredReceipt(reason)`. -/
def invalidStoredReceipt
    (expected : ReceiptExpectation)
    (reason : String) :
    Failure :=
  .receiptConflict
    ("Stored spend receipt for " ++ expected.txHash.text ++
      " does not match the requested immutable intent: " ++ reason)
    expected.txHash

/-- Throw unless a condition holds. -/
def check
    (expected : ReceiptExpectation)
    (holds : Bool)
    (reason : String) :
    Except Failure Unit :=
  if holds then .ok ()
  else .error (expected.invalidStoredReceipt reason)

/-- An address of a stored receipt, or the error that it is none. -/
def address
    (expected : ReceiptExpectation)
    (platform : Platform)
    (value reason : String) :
    Except Failure String :=
  match platform.getAddress value with
  | some address => .ok address
  | none => .error (expected.invalidStoredReceipt reason)

/-- The checks on the payload of a stored receipt. -/
def validatePayload
    (expected : ReceiptExpectation)
    (platform : Platform)
    (payload : SpendReceiptPayload) :
    Except Failure Unit := do
  expected.check
    (payload.version == "1.0" && payload.status == "settled")
    "status or payload version is unsupported"
  expected.check (payload.contractId == expected.uid)
    "contract ID differs"
  let payloadWallet ←
    expected.address platform payload.walletAddress
      "wallet or token contract address is invalid"
  let payloadToken ←
    expected.address platform payload.tokenContractAddress
      "wallet or token contract address is invalid"
  expected.check
    (lowerText payloadWallet == lowerText expected.walletAddress)
    "wallet address differs"
  expected.check
    (lowerText payloadToken == lowerText expected.tokenContractAddress)
    "token contract differs"
  expected.check (payload.amount == expected.amount) "amount differs"
  expected.check (payload.sessionId == expected.sessionId)
    "session ID differs"
  expected.check (payload.providerId == expected.providerId)
    "provider ID differs"
  expected.check (payload.tokenTxHash == expected.txHash)
    "transaction hash differs"
  expected.check (payload.chainId == expected.chainId)
    "chain ID differs from the configured RPC network"

/-- The checks on the columns of a stored receipt. -/
def validateColumns
    (expected : ReceiptExpectation)
    (platform : Platform)
    (record : SpendReceipt) :
    Except Failure Unit := do
  expected.check (jsString record.uid == expected.uid)
    "database owner differs"
  expected.check
    (lowerText record.walletAddress ==
      lowerText expected.walletAddress)
    "database wallet differs"
  expected.check (record.amount == expected.amount)
    "database amount differs"
  expected.check (record.sessionId.map jsString == expected.sessionId)
    "database session ID differs"
  expected.check (record.providerId.map jsString == expected.providerId)
    "database provider ID differs"
  expected.check (record.tokenTxHash == expected.txHash)
    "database transaction hash differs"
  let recordToken ←
    expected.address platform record.tokenContractAddress
      "database token contract is invalid"
  expected.check
    (lowerText recordToken == lowerText expected.tokenContractAddress)
    "database token contract differs"
  expected.check (record.chainId == expected.chainId)
    "database chain ID differs"
  expected.check (record.signerAddress != "")
    "database signer is missing"
  expected.check
    (lowerText record.signerAddress ==
      lowerText expected.trustedSignerAddress)
    "database signer differs from the configured signer"

/-- `validateStoredReceipt(record)`. -/
def validateStoredReceipt
    (expected : ReceiptExpectation)
    (platform : Platform)
    (record : SpendReceipt) :
    Except Failure SignedSpendReceipt := do
  expected.validatePayload platform record.canonicalPayload
  expected.validateColumns platform record
  let trusted :=
    verifySpendReceiptAgainstTrustedSigner platform
      record.canonicalPayload record.signature record.signerAddress
      expected.trustedSignerAddress
  expected.check trusted.valid
    ((trusted.failure.map (·.message)).getD "signature is not trusted")
  return record.signed

end ReceiptExpectation

/-! ## The request -/

/-- The arguments of `createAndStoreSpendReceipt`. -/
structure SpendReceiptRequest where
  uid : JsString
  walletAddress : String
  amount : JsNumber
  sessionId : Option JsString
  providerId : Option JsString
  txHash : String
  deriving DecidableEq

/-- The value of a text of decimal digits. -/
def decimalDigits? (text : String) : Option Nat :=
  if text ≠ "" ∧ text.toList.all Char.isDigit = true then
    some
      (text.toList.foldl
        (fun value digit => 10 * value + (digit.toNat - 48)) 0)
  else
    none

/-- `getAuthoritativeChainId()`. -/
def getAuthoritativeChainId : Call Nat := do
  match ← (chain .network).attempt with
  | .error failure =>
      throwFailure
        (.configuration "CHAIN_CONTEXT_UNAVAILABLE"
          ("Unable to read the configured RPC network: " ++
            failure.message))
  | .ok providerChainId =>
      match (← service .environment).CHAIN_ID with
      | none => return providerChainId
      | some configuredChainId =>
          match decimalDigits? configuredChainId with
          | none =>
              throwFailure
                (.configuration "CONFIGURED_CHAIN_ID_INVALID"
                  "CHAIN_ID must be a non-negative integer")
          | some configured =>
              if configured ≠ providerChainId then
                throwFailure
                  (.configuration "CONFIGURED_CHAIN_MISMATCH"
                    ("Configured CHAIN_ID " ++ configuredChainId ++
                      " differs from RPC provider chain " ++
                      toString providerChainId))
              else
                return providerChainId

namespace SpendReceiptRequest

variable (input : SpendReceiptRequest)

/-- The positive amount of a request, in cents. -/
def cents : Except Failure TokenAmount :=
  match canonicalTokenAmount input.amount with
  | some amount =>
      if amount.units = 0 then
        .error <| .configuration "INVALID_TOKEN_AMOUNT"
          "Spend receipt amount must be positive and use at most 2 decimal places"
      else
        .ok amount
  | none =>
      .error <| .configuration "INVALID_TOKEN_AMOUNT"
        "Spend receipt amount must be positive and use at most 2 decimal places"

/-- The hash that a request spells. -/
def hash : Except Failure TransactionHash :=
  match canonicalTxHash input.txHash with
  | some hash => .ok hash
  | none =>
      .error <| .configuration "INVALID_TX_HASH"
        "Spend receipt transaction hash is malformed"

/-- What a request expects, from the chain and the signer of this moment. -/
def expectation
    (platform : Platform)
    (TOKEN_CONTRACT_ADDRESS : String) :
    Call ReceiptExpectation := do
  let amount ← orThrow input.cents
  let txHash ← orThrow input.hash
  let chainId ← getAuthoritativeChainId
  if chainId > 2 ^ 53 - 1 then
    throwFailure
      (.configuration "CHAIN_ID_UNSUPPORTED"
        "Receipt chain ID exceeds the supported JSON integer range")
  else
    match platform.getAddress TOKEN_CONTRACT_ADDRESS with
    | none =>
        throwFailure
          (.configuration "TOKEN_CONTRACT_INVALID"
            "Configured token contract address is invalid")
    | some tokenContractAddress =>
        match platform.getAddress input.walletAddress with
        | none => throwFailure (.error "invalid address")
        | some walletAddress =>
            let trustedSignerAddress ← chain .signerAddress
            return {
              uid := input.uid
              walletAddress := walletAddress
              amount := amount
              sessionId := input.sessionId
              providerId := input.providerId
              txHash := txHash
              chainId := chainId
              tokenContractAddress := tokenContractAddress
              trustedSignerAddress := trustedSignerAddress }

end SpendReceiptRequest

/-! ## Creating a receipt -/

/-- `receiptId`, from a seed that no two calls share. -/
def ReceiptExpectation.receiptId
    (expected : ReceiptExpectation)
    (platform : Platform)
    (issuedAt randomUUID : String) :
    String :=
  let receiptSeed :=
    String.intercalate "|"
      [expected.uid.encoded, lowerText expected.walletAddress,
        expected.amount.decimal, (expected.sessionId.getD []).encoded,
        (expected.providerId.getD []).encoded,
        lowerText expected.txHash.text, issuedAt, randomUUID]
  "spr_" ++ sliceText (platform.digests.sha256 receiptSeed) 24

/-- `createSpendReceiptPayload` of what a request expects. -/
def ReceiptExpectation.payload
    (expected : ReceiptExpectation)
    (platform : Platform)
    (issuedAt randomUUID : String) :
    Except Failure SpendReceiptPayload :=
  match platform.getAddress expected.walletAddress,
      platform.getAddress expected.tokenContractAddress with
  | some walletAddress, some tokenContractAddress =>
      .ok {
        version := "1.0"
        receiptId := expected.receiptId platform issuedAt randomUUID
        status := "settled"
        contractId := expected.uid
        walletAddress := walletAddress
        amount := expected.amount
        sessionId := JsString.orNull expected.sessionId
        providerId := JsString.orNull expected.providerId
        tokenTxHash := expected.txHash
        tokenContractAddress := tokenContractAddress
        chainId := expected.chainId
        issuedAt := issuedAt }
  | _, _ => .error (.error "invalid address")

/-- `signSpendReceipt(payload, treasurySigner)`. -/
def signSpendReceipt
    (payload : SpendReceiptPayload) :
    Call SignedSpendReceipt := do
  let signature ← chain (.signMessage payload)
  let signerAddress ← chain .signerAddress
  return {
    payload := payload
    signature := signature
    signerAddress := signerAddress
    canonicalPayload := payload }

namespace SpendReceipts

/-- `SpendReceipts.findByTxHash`. -/
def findByTxHash (tokenTxHash : String) : Call (Option SpendReceipt) := do
  let normalizedHash ←
    orThrow
      (requireCanonicalTransactionHash tokenTxHash
        "token transaction hash")
  let found ← read (.receiptsOfHash normalizedHash)
  orThrow (requireUnambiguousTransactionMatch "RECEIPT" found)

end SpendReceipts

/-- The receipt of a hash, looked up by both of its spellings. -/
def findReceipt
    (txHash : TransactionHash)
    (spelled : String) :
    Call (Option SpendReceipt) := do
  match ← SpendReceipts.findByTxHash txHash.text with
  | some record => return some record
  | none =>
      if spelled ≠ txHash.text then SpendReceipts.findByTxHash spelled
      else return none

/-- The error of a receipt that could not be stored. -/
def receiptPendingFailure
    (expected : ReceiptExpectation)
    (dbError : String) :
    Failure :=
  .receiptPending ("Spend receipt persistence pending: " ++ dbError)
    expected.txHash

/-- Insert a receipt, or return the one that another call has inserted. -/
def storeReceipt
    (platform : Platform)
    (expected : ReceiptExpectation)
    (spelled : String)
    (signed : SignedSpendReceipt) :
    Call SignedSpendReceipt := do
  match ← (write (.insertReceipt signed.row)).attempt with
  | .ok _ =>
      service
        (.auditLog "spend_receipt.created" signed.payload.receiptId)
      return signed
  | .error error =>
      service
        (.auditLog "spend_receipt.persistence_failed"
          signed.payload.tokenTxHash.text)
      match ← (findReceipt expected.txHash spelled).attempt with
      | .error raceError =>
          throwFailure
            (receiptPendingFailure expected
              (error.message ++ "; recovery lookup failed: " ++
                raceError.message))
      | .ok (some raced) =>
          orThrow (expected.validateStoredReceipt platform raced)
      | .ok none =>
          throwFailure (receiptPendingFailure expected error.message)

/-- `createAndStoreSpendReceipt(input)`. -/
def createAndStoreSpendReceipt
    (platform : Platform)
    (TOKEN_CONTRACT_ADDRESS : String)
    (input : SpendReceiptRequest) :
    Call SignedSpendReceipt := do
  let expected ← input.expectation platform TOKEN_CONTRACT_ADDRESS
  match ← findReceipt expected.txHash input.txHash with
  | some existing =>
      orThrow (expected.validateStoredReceipt platform existing)
  | none =>
      let issuedAt ← service .now
      let randomUUID ← service .newId
      let payload ← orThrow (expected.payload platform issuedAt randomUUID)
      let signed ← signSpendReceipt payload
      storeReceipt platform expected input.txHash signed

end Sparkz
