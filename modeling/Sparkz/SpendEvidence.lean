import Sparkz.Failure

namespace Sparkz

/-!
# Chain evidence for one transfer

`verifySpendEvidence` reads a transaction and its receipt and decides whether
they prove exactly one expected token transfer.  The decisions are pure and
stand here; the reads are issued by the program of the same name.
-/

inductive SpendEvidenceFailureCode where
  | invalidTxHash
  | invalidAddress
  | invalidAmount
  | invalidChainId
  | transactionNotFound
  | receiptPending
  | transactionFailed
  | transactionIdentityMismatch
  | receiptIdentityMismatch
  | wrongChain
  | wrongTokenContract
  | malformedCall
  | unsupportedTokenCall
  | wrongSender
  | wrongRecipient
  | wrongAmount
  | missingTransferEvent
  | malformedTransferLog
  | malformedReceipt
  | providerError
  deriving Repr, DecidableEq

/-- The code as it appears in messages and diagnostics. -/
def SpendEvidenceFailureCode.text : SpendEvidenceFailureCode → String
  | .invalidTxHash => "INVALID_TX_HASH"
  | .invalidAddress => "INVALID_ADDRESS"
  | .invalidAmount => "INVALID_AMOUNT"
  | .invalidChainId => "INVALID_CHAIN_ID"
  | .transactionNotFound => "TRANSACTION_NOT_FOUND"
  | .receiptPending => "RECEIPT_PENDING"
  | .transactionFailed => "TRANSACTION_FAILED"
  | .transactionIdentityMismatch => "TRANSACTION_IDENTITY_MISMATCH"
  | .receiptIdentityMismatch => "RECEIPT_IDENTITY_MISMATCH"
  | .wrongChain => "WRONG_CHAIN"
  | .wrongTokenContract => "WRONG_TOKEN_CONTRACT"
  | .malformedCall => "MALFORMED_CALL"
  | .unsupportedTokenCall => "UNSUPPORTED_TOKEN_CALL"
  | .wrongSender => "WRONG_SENDER"
  | .wrongRecipient => "WRONG_RECIPIENT"
  | .wrongAmount => "WRONG_AMOUNT"
  | .missingTransferEvent => "MISSING_TRANSFER_EVENT"
  | .malformedTransferLog => "MALFORMED_TRANSFER_LOG"
  | .malformedReceipt => "MALFORMED_RECEIPT"
  | .providerError => "PROVIDER_ERROR"

/-- How a failed chain read is reported. -/
structure EvidenceReadDiagnostic where
  rpcMethod : String
  retryable : Bool
  deriving Repr, DecidableEq

structure SpendEvidenceFailure where
  code : SpendEvidenceFailureCode
  message : String
  pending : Bool
  diagnostic : Option EvidenceReadDiagnostic
  deriving Repr, DecidableEq

/-- An integer as a caller may pass it. -/
inductive IntegerInput where
  | bigint (value : Int)
  | number (value : JsNumber)
  | text (value : String)
  /-- A value of another type, against the declared types. -/
  | other
  deriving DecidableEq

/-- The transfer that a transaction has to prove. -/
structure SpendEvidenceRequest where
  tokenContractAddress : String
  chainId : IntegerInput
  sourceWallet : String
  treasuryRecipient : String
  amountUnits : IntegerInput
  txHash : String
  deriving DecidableEq

inductive TransferMethod where
  | transfer
  | transferFrom
  deriving Repr, DecidableEq

structure SpendEvidenceProof where
  txHash : String
  chainId : Nat
  tokenContractAddress : String
  sourceWallet : String
  treasuryRecipient : String
  amountUnits : Nat
  transferMethod : TransferMethod
  transactionFrom : String
  blockNumber : Nat
  logIndex : Nat
  deriving Repr, DecidableEq

/-- `{ valid: true, proof }` or `{ valid: false, failure }`. -/
abbrev SpendEvidenceResult :=
  Except SpendEvidenceFailure SpendEvidenceProof

/-- What the token interface makes of some calldata. -/
inductive ParsedCall where
  | malformed
  | undecodable
  | transfer : (recipient : String) → (amount : Nat) → ParsedCall
  | transferFrom :
      (source recipient : String) →
      (amount : Nat) →
      ParsedCall
  /-- A transfer whose arguments throw when they are read. -/
  | invalidArguments
  | other : (name : String) → ParsedCall
  deriving Repr, DecidableEq

/-- A transaction as the provider returns it. -/
structure TransactionResponse where
  hash : String
  chainId : Option Nat
  toAddress : Option String
  sender : Option String
  call : ParsedCall
  deriving Repr, DecidableEq

/-- What the transfer interface makes of a log. -/
inductive ParsedLog where
  | malformed
  | transfer :
      (source recipient : String) →
      (value : Nat) →
      ParsedLog
  deriving Repr, DecidableEq

/-- A receipt log; `address` is absent when the log is not well formed. -/
structure ReceiptLog where
  address : Option String
  topic : Option String
  event : ParsedLog
  index : Option Nat
  deriving Repr, DecidableEq

/-- A receipt as the provider returns it. -/
structure TransactionReceipt where
  hash : String
  toAddress : Option String
  sender : Option String
  status : Option Nat
  blockNumber : Nat
  logs : List ReceiptLog
  deriving Repr, DecidableEq

/-- `ethers.id('Transfer(address,address,uint256)')`. -/
def TRANSFER_TOPIC : String :=
  "0xddf252ad1be2c89b69c2b068fc378daa952ba7f163c4a11628f55a4df523b3ef"

/-- `failure(code, message)`. -/
def evidenceFailure
    (code : SpendEvidenceFailureCode)
    (message : String) :
    SpendEvidenceFailure where
  code := code
  message := message
  pending := false
  diagnostic := none

/-- `canonicalAddress(value, fieldName)`. -/
def canonicalAddress
    (getAddress : String → Option String)
    (value : Option String)
    (fieldName : String) :
    Except SpendEvidenceFailure String :=
  match value.bind getAddress with
  | some address => .ok address
  | none =>
      .error <| evidenceFailure .invalidAddress
        (fieldName ++ " must be a valid Ethereum address")

/-- `BigInt(text)`, if the text matches `/^[0-9]+$/`. -/
def integerOfText (text : String) : Option Nat :=
  if text ≠ "" ∧ text.toList.all Char.isDigit then
    some <| text.toList.foldl
      (fun total digit => 10 * total + (digit.toNat - 48)) 0
  else
    none

/-- `value >= 0n ? value : …`. -/
def nonNegative : Int → Option Nat
  | .ofNat value => some value
  | .negSucc _ => none

/-- `Number.isSafeInteger(value) && value >= 0 ? BigInt(value) : …`. -/
def safeInteger : JsNumber → Option Nat
  | .decimal value =>
      if value.fraction = [] ∧ value.whole < 2 ^ 53 then
        some value.whole
      else
        none
  | _ => none

/-- `parseChainId(value)`. -/
def parseChainId (value : IntegerInput) :
    Except SpendEvidenceFailure Nat :=
  match value with
  | .bigint value =>
      orInvalid (nonNegative value) "chainId must be a non-negative integer"
  | .number value =>
      orInvalid (safeInteger value)
        "chainId must be a non-negative safe integer"
  | .text value =>
      orInvalid (integerOfText value)
        "chainId must be a non-negative integer"
  | .other =>
      orInvalid none "chainId must be a non-negative integer"
where
  /-- The number, or `INVALID_CHAIN_ID`. -/
  orInvalid
      (parsed : Option Nat)
      (message : String) :
      Except SpendEvidenceFailure Nat :=
    match parsed with
    | some value => .ok value
    | none => .error (evidenceFailure .invalidChainId message)

/-- `parseAmountUnits(value)`. -/
def parseAmountUnits (value : IntegerInput) :
    Except SpendEvidenceFailure Nat :=
  match value with
  | .bigint value =>
      orInvalid (nonNegative value)
        "amountUnits must be a non-negative integer string or bigint"
  | .text value => orInvalid (integerOfText value) inexact
  | .number _ | .other => orInvalid none inexact
where
  /-- The message for anything but a non-negative `bigint`. -/
  inexact : String :=
    "amountUnits must be an exact non-negative integer string or bigint; floating numbers are unsupported"
  /-- The number, or `INVALID_AMOUNT`. -/
  orInvalid
      (parsed : Option Nat)
      (message : String) :
      Except SpendEvidenceFailure Nat :=
    match parsed with
    | some value => .ok value
    | none => .error (evidenceFailure .invalidAmount message)

/-- A request whose fields have all been read. -/
structure ExpectedTransfer where
  txHash : String
  tokenContract : String
  sourceWallet : String
  treasuryRecipient : String
  chainId : Nat
  amount : Nat
  deriving Repr, DecidableEq

/-- The checks that are made before any chain read. -/
def expectedTransfer
    (getAddress : String → Option String)
    (input : SpendEvidenceRequest) :
    Except SpendEvidenceFailure ExpectedTransfer := do
  if !matchesHashPattern input.txHash then
    throw <| evidenceFailure .invalidTxHash
      "txHash must be a 32-byte 0x-prefixed transaction hash"
  let tokenContract ←
    canonicalAddress getAddress (some input.tokenContractAddress)
      "tokenContractAddress"
  let sourceWallet ←
    canonicalAddress getAddress (some input.sourceWallet) "sourceWallet"
  let treasuryRecipient ←
    canonicalAddress getAddress (some input.treasuryRecipient)
      "treasuryRecipient"
  let chainId ← parseChainId input.chainId
  let amount ← parseAmountUnits input.amountUnits
  return {
    txHash := lowerText input.txHash
    tokenContract := tokenContract
    sourceWallet := sourceWallet
    treasuryRecipient := treasuryRecipient
    chainId := chainId
    amount := amount }

/-- `left.toLowerCase() === right.toLowerCase()`. -/
def sameAddress (left right : String) : Bool :=
  lowerText left == lowerText right

/-- The checks on the network and the transaction, before the receipt. -/
def checkTransaction
    (expected : ExpectedTransfer)
    (chainId : Nat)
    (transaction : Option TransactionResponse) :
    Except SpendEvidenceFailure TransactionResponse := do
  if chainId ≠ expected.chainId then
    throw <| evidenceFailure .wrongChain
      ("transaction provider chain " ++ toString chainId ++
        " does not match expected chain " ++ toString expected.chainId)
  match transaction with
  | none =>
      throw <| evidenceFailure .transactionNotFound
        ("transaction " ++ expected.txHash ++ " was not found")
  | some transaction =>
      if lowerText transaction.hash ≠ expected.txHash then
        throw <| evidenceFailure .transactionIdentityMismatch
          ("provider returned transaction hash " ++
            orText (some transaction.hash) "missing" ++
            " for requested hash " ++ expected.txHash)
      match transaction.chainId with
      | some transactionChainId =>
          if transactionChainId ≠ 0 ∧
              transactionChainId ≠ expected.chainId then
            throw <| evidenceFailure .wrongChain
              ("transaction chain " ++ toString transactionChainId ++
                " does not match expected chain " ++
                toString expected.chainId)
      | none => pure ()
      if !((orNull transaction.toAddress).any
          (sameAddress · expected.tokenContract)) then
        throw <| evidenceFailure .wrongTokenContract
          ("transaction target " ++
            orText transaction.toAddress "null" ++
            " does not match expected token contract " ++
            expected.tokenContract)
      return transaction

/-- What the scan of the receipt logs has seen so far. -/
structure LogScan where
  sawTransferLog : Bool
  malformedTransferLog : Bool
  wrongSender : Bool
  wrongRecipient : Bool
  wrongAmount : Bool
  deriving Repr, DecidableEq

/-- The verdict once no log has matched. -/
def LogScan.verdict (scan : LogScan) : SpendEvidenceFailure :=
  if scan.malformedTransferLog then
    evidenceFailure .malformedTransferLog
      "token Transfer log is malformed or contains invalid arguments"
  else if !scan.sawTransferLog then
    evidenceFailure .missingTransferEvent
      "successful receipt contains no Transfer event from the expected token contract"
  else if scan.wrongSender then
    evidenceFailure .wrongSender
      "token Transfer event sender does not match expected source wallet"
  else if scan.wrongRecipient then
    evidenceFailure .wrongRecipient
      "token Transfer event recipient does not match expected treasury"
  else if scan.wrongAmount then
    evidenceFailure .wrongAmount
      "token Transfer event amount does not match expected amountUnits"
  else
    evidenceFailure .malformedTransferLog
      "token Transfer event could not be verified"

/-- Scan the logs for the expected transfer: its index, or the verdict. -/
def scanLogs
    (expected : ExpectedTransfer) :
    List ReceiptLog →
    (index : Nat) →
    LogScan →
    Except SpendEvidenceFailure Nat
  | [], _, scan => .error scan.verdict
  | log :: rest, index, scan =>
      match log.address with
      | none =>
          scanLogs expected rest (index + 1)
            { scan with malformedTransferLog := true }
      | some address =>
          if !sameAddress address expected.tokenContract ||
              !(log.topic.any fun topic =>
                lowerText topic == TRANSFER_TOPIC) then
            scanLogs expected rest (index + 1) scan
          else
            match log.event with
            | .malformed =>
                scanLogs expected rest (index + 1)
                  { scan with
                    sawTransferLog := true
                    malformedTransferLog := true }
            | .transfer source recipient value =>
                if sameAddress source expected.sourceWallet &&
                    sameAddress recipient expected.treasuryRecipient &&
                    value == expected.amount then
                  .ok (log.index.getD index)
                else
                  scanLogs expected rest (index + 1)
                    { scan with
                      sawTransferLog := true
                      wrongSender :=
                        scan.wrongSender ||
                          !sameAddress source expected.sourceWallet
                      wrongRecipient :=
                        scan.wrongRecipient ||
                          !sameAddress recipient
                            expected.treasuryRecipient
                      wrongAmount :=
                        scan.wrongAmount || value != expected.amount }

/-- The source, recipient, amount and method of a token call. -/
def tokenCall
    (transactionFrom : String) :
    ParsedCall →
    Except SpendEvidenceFailure
      (String × String × Nat × TransferMethod)
  | .malformed =>
      .error <| evidenceFailure .malformedCall
        "transaction calldata is not a valid ERC20 transfer or transferFrom call"
  | .undecodable =>
      .error <| evidenceFailure .malformedCall
        "transaction calldata is empty or undecodable"
  | .other name =>
      .error <| evidenceFailure .unsupportedTokenCall
        ("token call " ++ name ++ " is not transfer or transferFrom")
  | .invalidArguments =>
      .error <| evidenceFailure .malformedCall
        "ERC20 transfer calldata contains invalid arguments"
  | .transfer recipient amount =>
      .ok (transactionFrom, recipient, amount, .transfer)
  | .transferFrom source recipient amount =>
      .ok (source, recipient, amount, .transferFrom)

/-- The identity of a receipt: hash, target and sender. -/
def checkReceipt
    (getAddress : String → Option String)
    (expected : ExpectedTransfer)
    (transaction : TransactionResponse)
    (receipt : TransactionReceipt) :
    Except SpendEvidenceFailure String := do
  if lowerText receipt.hash ≠ expected.txHash then
    throw <| evidenceFailure .receiptIdentityMismatch
      ("provider returned receipt hash " ++
        orText (some receipt.hash) "missing" ++
        " for requested hash " ++ expected.txHash)
  if !((orNull receipt.toAddress).any
      (sameAddress · expected.tokenContract)) then
    throw <| evidenceFailure .wrongTokenContract
      ("receipt target " ++ orText receipt.toAddress "null" ++
        " does not match expected token contract " ++
        expected.tokenContract)
  let transactionFrom ←
    canonicalAddress getAddress transaction.sender "transaction.from"
  match canonicalAddress getAddress receipt.sender "receipt.from" with
  | .error failure =>
      throw <| evidenceFailure .receiptIdentityMismatch failure.message
  | .ok receiptFrom =>
      if !sameAddress receiptFrom transactionFrom then
        throw <| evidenceFailure .receiptIdentityMismatch
          ("receipt sender " ++ receiptFrom ++
            " does not match transaction sender " ++ transactionFrom)
      return transactionFrom

/-- The text of a receipt status. -/
def statusText (status : Option Nat) : String :=
  (status.map toString).getD "null"

/-- The verdict on a transaction and its receipt. -/
def judgeReceipt
    (getAddress : String → Option String)
    (expected : ExpectedTransfer)
    (transaction : TransactionResponse)
    (receipt : Option TransactionReceipt) :
    SpendEvidenceResult := do
  match receipt with
  | none =>
      throw
        { evidenceFailure .receiptPending
            ("transaction " ++ expected.txHash ++
              " has no mined receipt yet") with
          pending := true }
  | some receipt =>
      let transactionFrom ←
        checkReceipt getAddress expected transaction receipt
      if receipt.status = some 0 then
        throw <| evidenceFailure .transactionFailed
          ("transaction " ++ expected.txHash ++
            " mined with unsuccessful receipt status " ++
            statusText receipt.status)
      if receipt.status ≠ some 1 then
        throw <| evidenceFailure .malformedReceipt
          ("transaction " ++ expected.txHash ++
            " returned an invalid receipt status " ++
            statusText receipt.status)
      let (source, recipient, amount, method) ←
        tokenCall transactionFrom transaction.call
      if !sameAddress source expected.sourceWallet then
        throw <| evidenceFailure .wrongSender
          ("ERC20 call sender " ++ source ++
            " does not match expected source " ++ expected.sourceWallet)
      if !sameAddress recipient expected.treasuryRecipient then
        throw <| evidenceFailure .wrongRecipient
          ("ERC20 call recipient " ++ recipient ++
            " does not match expected treasury " ++
            expected.treasuryRecipient)
      if amount ≠ expected.amount then
        throw <| evidenceFailure .wrongAmount
          ("ERC20 call amount " ++ toString amount ++
            " does not match expected " ++ toString expected.amount)
      let logIndex ←
        scanLogs expected receipt.logs 0
          { sawTransferLog := false
            malformedTransferLog := false
            wrongSender := false
            wrongRecipient := false
            wrongAmount := false }
      return {
        txHash := expected.txHash
        chainId := expected.chainId
        tokenContractAddress := expected.tokenContract
        sourceWallet := expected.sourceWallet
        treasuryRecipient := expected.treasuryRecipient
        amountUnits := expected.amount
        transferMethod := method
        transactionFrom := transactionFrom
        blockNumber := receipt.blockNumber
        logIndex := logIndex }

end Sparkz
