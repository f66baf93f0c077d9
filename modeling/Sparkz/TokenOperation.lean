import Sparkz.AwardSession
import Sparkz.JsStrings

namespace Sparkz

/-!
# Token operations

One row of `token_operations` is the durable record of one token movement.
Columns that no modelled function reads, such as time stamps, are left out.
-/

inductive OperationType where
  | award
  | spend
  deriving Repr, DecidableEq

inductive OperationStatus where
  | submitting
  | submitted
  | confirmed
  | projected
  | unknown
  | failed
  deriving Repr, DecidableEq

/-- `['submitting', 'submitted', 'unknown']`. -/
def OperationStatus.isOpen : OperationStatus → Bool
  | .submitting | .submitted | .unknown => true
  | .confirmed | .projected | .failed => false

/-- The asset and recipient configuration in force for a movement. -/
structure TokenAssetContext where
  tokenContractAddress : String
  chainId : String
  treasuryAddress : Option String
  signerAddress : String
  deriving Repr, DecidableEq

/--
An asset context read back from JSON, where every field may be missing.  The
treasury may also be an explicit `null`.
-/
structure StoredAssetContext where
  tokenContractAddress : Option String
  chainId : Option String
  treasuryAddress : Option (Option String)
  signerAddress : Option String
  deriving Repr, DecidableEq

/-- The JSON that a context is stored as. -/
def TokenAssetContext.stored
    (context : TokenAssetContext) :
    StoredAssetContext where
  tokenContractAddress := some context.tokenContractAddress
  chainId := some context.chainId
  treasuryAddress := some context.treasuryAddress
  signerAddress := some context.signerAddress

/-- The JSON column `intent_context`. -/
structure IntentContext where
  assetContext : Option StoredAssetContext
  metadata : Option AwardMetadata
  recoverySnapshot : Option AwardRecoverySnapshot
  deriving DecidableEq

/-- The fields of one signed transaction that are kept with its hash. -/
structure PreparedTransactionContext where
  chainId : String
  signerAddress : String
  nonce : Nat
  toAddress : String
  data : Option String
  value : Nat
  gasLimit : Option Nat
  gasPrice : Option Nat
  maxFeePerGas : Option Nat
  maxPriorityFeePerGas : Option Nat
  type : Option Nat
  accessList : Option (List (String × List String))
  deriving Repr, DecidableEq

/-- A row of `token_operations`. -/
structure TokenOperation where
  operationKey : String
  operationType : OperationType
  legacyKey : Option String
  requestFingerprint : String
  uid : String
  walletAddress : String
  amount : TokenAmount
  sessionId : Option String
  providerId : Option String
  chargingSessionId : Option String
  reservationId : Option String
  intentContext : Option IntentContext
  status : OperationStatus
  movementOutcome : MovementOutcome
  txHash : Option TransactionHash
  txNonce : Option Nat
  txContext : Option PreparedTransactionContext
  diagnosticContext : Option TransactionDiagnostic
  errorMessage : Option String
  deriving DecidableEq

/-! ## Asset contexts -/

/-- `asset.tokenContractAddress` and the like, with `''` counted as missing. -/
private def storedText (text : Option String) : Option String :=
  orNull (text.map lowerText)

/-- Why a stored context can not be continued under the current one. -/
def assetContextMismatch
    (intentContext : Option IntentContext)
    (current : TokenAssetContext) :
    Option String :=
  match intentContext.bind IntentContext.assetContext with
  | none =>
      some
        "original token asset context is unavailable; operator review is required"
  | some stored =>
      let currentTreasury := (orNull current.treasuryAddress).map lowerText
      match storedText stored.tokenContractAddress, stored.chainId,
          stored.treasuryAddress, storedText stored.signerAddress with
      | some storedContract, some storedChain, some treasury,
          some storedSigner =>
          let storedTreasury := treasury.map lowerText
          if storedContract ≠ lowerText current.tokenContractAddress then
            some
              ("token contract changed from " ++ storedContract ++
                " to " ++ current.tokenContractAddress)
          else if storedChain ≠ "" ∧ storedChain ≠ current.chainId then
            some
              ("chain changed from " ++ storedChain ++ " to " ++
                current.chainId)
          else if storedTreasury ≠ currentTreasury then
            some
              ("treasury changed from " ++ orText storedTreasury "none" ++
                " to " ++ orText currentTreasury "none")
          else if storedSigner ≠ lowerText current.signerAddress then
            some
              ("signer changed from " ++ storedSigner ++ " to " ++
                current.signerAddress)
          else
            none
      | _, _, _, _ =>
          some
            "original token asset context is incomplete; operator review is required"

/-! ## Intents and keys -/

/-- The fields that identify an award request. -/
structure AwardIntent where
  providerId : String
  sessionId : String
  uid : String
  walletAddress : String
  evseId : String
  startTime : JsDate
  endTime : JsDate
  energyKWh : JsNumber
  energyDirection : EnergyDirection
  cdrId : Option String
  reservationSessionId : Option String
  timeZone : Option String
  timeZoneSource : Option String
  deriving DecidableEq

/-- The fields that identify a spend request. -/
structure SpendIntent where
  uid : JsString
  walletAddress : String
  amount : TokenAmount
  sessionId : Option JsString
  providerId : Option JsString
  reservationId : Option JsString
  deriving DecidableEq

/-- What `tokenIntentFingerprint` digests. -/
inductive TokenIntent where
  | award : AwardIntent → TokenIntent
  | spend : SpendIntent → TokenIntent
  deriving DecidableEq

/-- The digests the code takes from `crypto`. -/
structure Digests where
  sha256 : String → String
  tokenIntentFingerprint : TokenIntent → String

/-- A length-delimited pair of texts. -/
def lengthDelimited (left right : String) : String :=
  toString (codeUnits left) ++ ":" ++ left ++
    toString (codeUnits right) ++ ":" ++ right

/-- `awardOperationKey(providerId, sessionId)`. -/
def awardOperationKey
    (digests : Digests)
    (providerId sessionId : String) :
    String :=
  "award:" ++ digests.sha256 (lengthDelimited providerId sessionId)

/-- `spendOperationKey(uid, idempotencyKey)`. -/
def spendOperationKey
    (digests : Digests)
    (uid idempotencyKey : String) :
    String :=
  "spend:" ++ digests.sha256 (lengthDelimited uid idempotencyKey)

/-- `reservationOperationKey(reservationId)`. -/
def reservationOperationKey (reservationId : String) : String :=
  "reservation:" ++ reservationId

/-- `awardIntentFingerprint`; the amount is not part of the intent. -/
def awardIntentFingerprint
    (digests : Digests)
    (session : NormalisedSession)
    (walletAddress : String) :
    String :=
  digests.tokenIntentFingerprint <| .award
    { providerId := session.providerId
      sessionId := session.sessionId
      uid := session.uid
      walletAddress := lowerText walletAddress
      evseId := session.evseId
      startTime := session.startTime
      endTime := session.endTime
      energyKWh := session.energyKWh
      energyDirection := session.energyDirection
      cdrId := orNull session.cdrId
      reservationSessionId := orNull session.reservationSessionId
      timeZone := orNull session.timeZone
      timeZoneSource := orNull session.timeZoneSource }

/-- `spendIntentFingerprint`, for an amount that is already canonical. -/
def spendIntentFingerprint
    (digests : Digests)
    (uid : JsString)
    (walletAddress : String)
    (amount : TokenAmount)
    (sessionId providerId reservationId : Option JsString) :
    String :=
  digests.tokenIntentFingerprint <| .spend
    { uid := uid
      walletAddress := lowerText walletAddress
      amount := amount
      sessionId := JsString.orNull sessionId
      providerId := JsString.orNull providerId
      reservationId := JsString.orNull reservationId }

end Sparkz
