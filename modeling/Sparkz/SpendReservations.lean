import Sparkz.System

namespace Sparkz

/-!
# Reserving and settling

`reserve` admits a new hold against the sampled balance of a wallet; the other
functions move a reservation towards its one settlement.
-/

/-- The arguments of `SpendReservations.reserve`. -/
structure ReserveRequest where
  uid : String
  walletAddress : String
  sessionId : String
  providerId : String
  amount : JsNumber
  onChainBalance : Option JsNumber
  authorizationTxHash : Option String
  authorizationAmount : Option JsNumber
  deriving DecidableEq

/-- The result of `SpendReservations.reserve`. -/
structure ReserveResult where
  reservation : SpendReservation
  availableBalance : TokenAmount
  existing : Bool
  deriving DecidableEq

/-- An optional authorization amount at storage precision. -/
def authorizationAmountOf
    (value : Option JsNumber) :
    Except Failure (Option TokenAmount) :=
  match value with
  | none => .ok none
  | some number =>
      match canonicalTokenAmount number with
      | some amount => .ok (some amount)
      | none =>
          .error <| .error
            "UNSUPPORTED_TOKEN_PRECISION: authorization amount must use at most 2 decimals"

/-- `value ? requireCanonicalTransactionHash(value) : null`. -/
def optionalHash
    (value : Option String)
    (field : String) :
    Except Failure (Option TransactionHash) :=
  match orNull value with
  | none => .ok none
  | some text => (requireCanonicalTransactionHash text field).map some

/-- The row that a reservation inserts. -/
def ReserveRequest.row
    (data : ReserveRequest)
    (id : String)
    (amount : TokenAmount)
    (authorizationTxHash : Option TransactionHash)
    (authorizationAmount : Option TokenAmount) :
    SpendReservation where
  id := id
  uid := data.uid
  walletAddress := data.walletAddress
  sessionId := data.sessionId
  providerId := data.providerId
  reservedAmount := amount
  settledAmount := none
  releasedAmount := none
  deliveredKwh := none
  settlementContext := none
  status := .reserved
  txHash := none
  errorMessage := none
  authorizationTxHash := authorizationTxHash
  authorizationAmount := authorizationAmount

namespace SpendReservations

/-- `SpendReservations.findBySession`. -/
def findBySession (uid sessionId providerId : String) :
    Call (Option SpendReservation) :=
  read (.reservationOfSession uid sessionId providerId)

/-- The balance a reservation is checked against. -/
def onChainBalance
    (data : ReserveRequest)
    (getOnChainBalance : Option (Call JsNumber)) :
    Call (Option JsNumber) :=
  match getOnChainBalance with
  | some sample => do return some (← sample)
  | none => return data.onChainBalance

/-- The admission of a new reservation, once its session is known to be new. -/
def insertAdmitted
    (data : ReserveRequest)
    (amount : TokenAmount)
    (authorizationAmount : Option TokenAmount)
    (held : Nat)
    (getOnChainBalance : Option (Call JsNumber)) :
    Call ReserveResult := do
  match ← onChainBalance data getOnChainBalance with
  | none =>
      throwFailure <| .error
        "SPEND_BALANCE_UNAVAILABLE: on-chain balance could not be read"
  | some sampledBalance =>
      note (.balance sampledBalance)
      match truncateTokenAmount sampledBalance with
      | none =>
          throwFailure <| .error
            "SPEND_BALANCE_UNAVAILABLE: on-chain balance could not be read"
      | some balance =>
          let unresolvedManual ←
            read (.manualHolds data.walletAddress none)
          let available := balance.units - (held + unresolvedManual)
          if amount.units + (held + unresolvedManual) > balance.units then
            throwFailure <| .error
              ("INSUFFICIENT_SPARKZ:" ++
                (JsNumber.ofUnits available).text)
          else
            let id ← service .newId
            let authorizationTxHash ←
              orThrow
                (optionalHash data.authorizationTxHash
                  "authorization transaction hash")
            let reservation ←
              write
                (.insertReservation
                  (data.row id amount authorizationTxHash
                    authorizationAmount))
            return {
              reservation := reservation
              availableBalance := ⟨available - amount.units⟩
              existing := false }

/-- `SpendReservations.reserve`. -/
def reserve
    (data : ReserveRequest)
    (getOnChainBalance : Option (Call JsNumber)) :
    Call ReserveResult :=
  transaction do
    match canonicalTokenAmount data.amount with
    | none =>
        throwFailure <| .error
          "UNSUPPORTED_TOKEN_PRECISION: reservation amount must use at most 2 decimals"
    | some amount =>
        let authorizationAmount ←
          orThrow (authorizationAmountOf data.authorizationAmount)
        lock (.wallet (lowerText data.walletAddress))
        let existing ←
          read
            (.reservationOfSession data.uid data.sessionId
              data.providerId)
        let held ← read (.reservationHolds data.walletAddress)
        match existing with
        | some existing =>
            if lowerText existing.walletAddress ≠
                  lowerText data.walletAddress ∨
                existing.reservedAmount ≠ amount then
              throwFailure <| .error
                "RESERVATION_INTENT_MISMATCH: retry does not match the original reservation amount or wallet"
            else
              return {
                reservation := existing
                availableBalance := ⟨0⟩
                existing := true }
        | none =>
            insertAdmitted data amount authorizationAmount held
              getOnChainBalance

/-- `SpendReservations.claimForSettlement`. -/
def claimForSettlement (uid sessionId providerId : String) :
    Call (Option SpendReservation) :=
  write (.claimForSettlement uid sessionId providerId)

/-- `SpendReservations.persistSettlementContext`. -/
def persistSettlementContext (id : String) (deliveredKwh : JsNumber) :
    Call SpendReservation := do
  let parts ← orThrow (boundedReading deliveredKwh)
  write (.persistSettlementContext id parts)

/-- `SpendReservations.complete`. -/
def complete
    (id : String)
    (deliveredKwh settledAmount : JsNumber)
    (txHash : Option String) :
    Call SpendReservation := do
  let hash ←
    orThrow (optionalHash txHash "reservation transaction hash")
  transaction do
    match ← read (.reservation id) with
    | none =>
        throwFailure (.error ("Reservation " ++ id ++ " not found"))
    | some identity =>
        lock (.wallet (lowerText identity.walletAddress))
        write (.completeReservation id deliveredKwh settledAmount hash)

/-- `SpendReservations.retry`. -/
def retry (id error : String) : Call Unit :=
  write (.retryReservation id error)

end SpendReservations

end Sparkz
