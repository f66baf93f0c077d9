import Sparkz.TokenOperation
import Sparkz.SpendEvidence
import Sparkz.SpendReceipt

namespace Sparkz

/-!
# The functions around the financial code

Hashing, ABI encoding and address handling come from libraries.  The record
validator and the wallet derivation are modules of their own.  All of them are
pure, and the financial code only passes their results on.
-/

/-- Pure functions that the financial code calls. -/
structure Platform where
  digests : Digests
  /-- `ethers.keccak256(rawTransaction)`. -/
  keccak256 : String → TransactionHash
  /-- `ethers.getAddress(value)`; nothing when it throws. -/
  getAddress : String → Option String
  /-- `Number(ethers.formatUnits(units, 18))`. -/
  formatUnits : Nat → JsNumber
  /-- `iface.encodeFunctionData('transfer', [to, amount])`. -/
  encodeTransfer : (recipient : String) → (amount : Nat) → Except Failure String
  /-- `iface.encodeFunctionData('transferFrom', [from, to, amount])`. -/
  encodeTransferFrom :
    (source recipient : String) →
    (amount : Nat) →
    Except Failure String
  /-- `resolveUidToAddress(uid)`. -/
  resolveUidToAddress : String → String
  /-- `getManagedWalletAddress(uid)`. -/
  getManagedWalletAddress : JsString → String
  /--
  `ethers.verifyMessage(canonicalizeReceiptPayload(payload), signature)`;
  nothing when it throws.
  -/
  verifyMessage :
    SpendReceiptPayload →
    (signature : String) →
    Option String
  /-- `validateAndNormaliseCdr(rawCDR)`. -/
  validateAndNormaliseCdr : RawCdr → Except Failure NormalisedSession

/-- A transaction hash for runs on fixed inputs. -/
def TransactionHash.sample : TransactionHash where
  text :=
    "0x4e3a3754410177e6937ef1f84bba68ea139e8d1a2258c5f85db9f1cd715a1bdd"
  wellFormed := by decide +kernel
  canonical := by decide +kernel

/-- A platform for runs on fixed inputs, in which one transaction is sent. -/
def Platform.sample : Platform where
  digests :=
    { sha256 := id
      tokenIntentFingerprint := fun intent =>
        match intent with
        | .award award => "award " ++ award.sessionId
        | .spend spend => "spend " ++ spend.uid.encoded }
  keccak256 := fun _ => .sample
  getAddress := some
  formatUnits := fun units => .ofCents (units / 10 ^ 16)
  encodeTransfer := fun recipient amount =>
    .ok ("transfer " ++ recipient ++ " " ++ toString amount)
  encodeTransferFrom := fun source recipient amount =>
    .ok
      ("transferFrom " ++ source ++ " " ++ recipient ++ " " ++
        toString amount)
  resolveUidToAddress := id
  getManagedWalletAddress := JsString.encoded
  verifyMessage := fun _ _ => none
  validateAndNormaliseCdr := fun _ => .error (.error "")

end Sparkz
