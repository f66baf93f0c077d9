import Sparkz.Failure
import Sparkz.JsStrings

namespace Sparkz

/-!
# Spend receipts

A receipt is a signed statement that tokens have been spent.  The canonical
text of a payload lists its members in the order of their names, so a text and
its payload determine each other, and the payload stands for both here.  Its
amount is the two-decimal text of whole cents.
-/

/-- The content of a receipt. -/
structure SpendReceiptPayload where
  version : String
  receiptId : String
  status : String
  contractId : JsString
  walletAddress : String
  amount : TokenAmount
  sessionId : Option JsString
  providerId : Option JsString
  tokenTxHash : TransactionHash
  tokenContractAddress : String
  chainId : Nat
  issuedAt : String
  deriving DecidableEq

/-- A receipt as it is handed to a caller. -/
structure SignedSpendReceipt where
  payload : SpendReceiptPayload
  signature : String
  signerAddress : String
  canonicalPayload : SpendReceiptPayload
  deriving DecidableEq

/-- A row of `spend_receipts`. -/
structure SpendReceipt where
  receiptId : String
  uid : String
  walletAddress : String
  amount : TokenAmount
  sessionId : Option String
  providerId : Option String
  status : String
  tokenTxHash : TransactionHash
  tokenContractAddress : String
  chainId : Nat
  signerAddress : String
  canonicalPayload : SpendReceiptPayload
  signature : String
  issuedAt : String
  deriving DecidableEq

/-- The receipt that a row holds. -/
def SpendReceipt.signed (row : SpendReceipt) : SignedSpendReceipt where
  payload := row.canonicalPayload
  signature := row.signature
  signerAddress := row.signerAddress
  canonicalPayload := row.canonicalPayload

/-- The row that `SpendReceipts.create` inserts. -/
def SignedSpendReceipt.row (signed : SignedSpendReceipt) :
    SpendReceipt where
  receiptId := signed.payload.receiptId
  uid := signed.payload.contractId.encoded
  walletAddress := signed.payload.walletAddress
  amount := signed.payload.amount
  sessionId :=
    (JsString.orNull signed.payload.sessionId).map JsString.encoded
  providerId :=
    (JsString.orNull signed.payload.providerId).map JsString.encoded
  status := signed.payload.status
  tokenTxHash := signed.payload.tokenTxHash
  tokenContractAddress := signed.payload.tokenContractAddress
  chainId := signed.payload.chainId
  signerAddress := signed.signerAddress
  canonicalPayload := signed.canonicalPayload
  signature := signed.signature
  issuedAt := signed.payload.issuedAt

inductive TrustedSpendReceiptFailureCode where
  | invalidTrustedSigner
  | invalidClaimedSigner
  | signerMismatch
  | invalidSignature
  deriving Repr, DecidableEq

/-- Why a receipt is not trusted. -/
structure TrustedSpendReceiptFailure where
  code : TrustedSpendReceiptFailureCode
  message : String
  deriving Repr, DecidableEq

/-- The result of a verification against the configured signer. -/
structure TrustedSpendReceiptVerification where
  valid : Bool
  recoveredSignerAddress : Option String
  failure : Option TrustedSpendReceiptFailure
  deriving Repr, DecidableEq

/-- A verification that has failed. -/
def TrustedSpendReceiptVerification.rejected
    (code : TrustedSpendReceiptFailureCode)
    (message : String)
    (recoveredSignerAddress : Option String) :
    TrustedSpendReceiptVerification where
  valid := false
  recoveredSignerAddress := recoveredSignerAddress
  failure := some ⟨code, message⟩

/-- `canonicalTxHash(value)`, which does not trim its text. -/
def canonicalTxHash (value : String) : Option TransactionHash :=
  if matched : matchesHashPattern value = true then
    some
      { text := lowerText value
        wellFormed := matchesHashPattern_lower matched
        canonical := lowerText_lower matched }
  else
    none

/-- The persistence boundary reads the same hash from the text. -/
theorem canonicalTransactionHash_of_canonicalTxHash
    {value : String}
    {hash : TransactionHash}
    (isHash : canonicalTxHash value = some hash) :
    canonicalTransactionHash value = some hash := by
  unfold canonicalTxHash at isHash
  split at isHash
  · rename_i matched
    cases isHash
    unfold canonicalTransactionHash
    have trimmed := trimText_of_matches matched
    simp only [trimmed, matched, dite_true]
  · cases isHash

end Sparkz
