import Sparkz.Failure

namespace Sparkz

/-!
# Spend reservations

A reservation holds part of a wallet's balance for one charging session until
the final charge record settles it.  The functions here are what the settlement
writers do to one locked row.
-/

inductive ReservationStatus where
  | reserved
  | settling
  | settled
  | released
  deriving Repr, DecidableEq

/-- `status === 'settled' || status === 'released'`. -/
def ReservationStatus.isTerminal : ReservationStatus → Bool
  | .settled | .released => true
  | .reserved | .settling => false

/-- The immutable record of the energy that a settlement is based on. -/
structure SettlementContext where
  deliveredKwh : DecimalText
  normalizedThreeDecimal : DecimalText
  sourcePrecision : Nat
  deriving Repr, DecidableEq

/-- A row of `spend_reservations`. -/
structure SpendReservation where
  id : String
  uid : String
  walletAddress : String
  sessionId : String
  providerId : String
  reservedAmount : TokenAmount
  settledAmount : Option TokenAmount
  releasedAmount : Option TokenAmount
  deliveredKwh : Option DecimalText
  settlementContext : Option SettlementContext
  status : ReservationStatus
  txHash : Option TransactionHash
  errorMessage : Option String
  authorizationTxHash : Option TransactionHash
  authorizationAmount : Option TokenAmount
  deriving DecidableEq

/-- The settlement context of a reading that renders as plain digits. -/
def settlementContextOf (parts : DecimalText) : SettlementContext where
  deliveredKwh := parts.withFraction
  normalizedThreeDecimal := parts.threeDecimals
  sourcePrecision := parts.fraction.length

/-- The checks that `persistSettlementContext` makes on a reading. -/
def boundedReading : JsNumber → Except Failure DecimalText
  | .decimal shortest =>
      if shortest.fraction.length > 12 then
        .error <| .error
          "INVALID_SETTLEMENT_CONTEXT: deliveredKwh must be a bounded decimal value"
      else
        .ok shortest.toDecimalText
  | .tiny _ | .large _ =>
      .error <| .error
        "INVALID_SETTLEMENT_CONTEXT: deliveredKwh must be a bounded decimal value"
  | .negative _ | .infinity | .notANumber =>
      .error <| .error
        "INVALID_SETTLEMENT_CONTEXT: deliveredKwh must be a finite non-negative value"

/--
The column `delivered_kwh` is `numeric(20, 3)`, so it has seventeen digits
before the point.
-/
def numericOverflow : StoreError :=
  .error "numeric field overflow"

namespace SpendReservation

/-- `SpendReservations.persistSettlementContext`, on the locked row. -/
def persistSettlementContext
    (current : SpendReservation)
    (parts : DecimalText) :
    Except StoreError SpendReservation :=
  match current.settlementContext with
  | some existing =>
      if existing.deliveredKwh ≠ parts.withFraction then
        .error (.error "RESERVATION_SETTLEMENT_CONTEXT_MISMATCH")
      else
        .ok current
  | none =>
      match current.deliveredKwh with
      | some existing =>
          if existing.threeDecimals ≠ parts.threeDecimals then
            .error (.error "RESERVATION_SETTLEMENT_CONTEXT_MISMATCH")
          else
            .ok current
      | none =>
          if 10 ^ 17 ≤ parts.whole then
            .error numericOverflow
          else
            .ok
              { current with
                deliveredKwh := some parts.threeDecimals
                settlementContext := some (settlementContextOf parts) }

/-- Whether a row was settled with another reading than this one. -/
def contradicts
    (current : SpendReservation)
    (parts : DecimalText) :
    Bool :=
  match current.settlementContext with
  | some existing => existing.deliveredKwh != parts.withFraction
  | none =>
      match current.deliveredKwh with
      | some existing => existing.threeDecimals != parts.threeDecimals
      | none => false

/-- `SpendReservations.complete`, on the locked row. -/
def complete
    (current : SpendReservation)
    (deliveredKwh settledAmount : JsNumber)
    (txHash : Option TransactionHash) :
    Except StoreError SpendReservation :=
  if current.status.isTerminal then
    if txHash.isSome ∧ current.txHash.isSome ∧
        current.txHash ≠ txHash then
      .error (.error "RESERVATION_TX_HASH_MISMATCH")
    else
      .ok current
  else
    match canonicalTokenAmount settledAmount with
    | none => .error (.error "UNSUPPORTED_TOKEN_PRECISION")
    | some requestedSettled =>
        match decimalParts deliveredKwh with
        | none =>
            .error <| .error
              "INVALID_SETTLEMENT_CONTEXT: deliveredKwh must be a bounded decimal value"
        | some parts =>
            if current.contradicts parts then
              .error (.error "RESERVATION_SETTLEMENT_CONTEXT_MISMATCH")
            else if current.deliveredKwh = none ∧
                10 ^ 17 ≤ parts.whole then
              .error numericOverflow
            else
              let reserved := current.reservedAmount.units
              let settledUnits := min requestedSettled.units reserved
              let releasedUnits := reserved - settledUnits
              let boundedSettled := Double.ofUnits settledUnits
              .ok
                { current with
                  status :=
                    if (Double.finite 0).less boundedSettled then .settled
                    else .released
                  deliveredKwh :=
                    some
                      (current.deliveredKwh.getD parts.threeDecimals)
                  settlementContext :=
                    some
                      (current.settlementContext.getD
                        (settlementContextOf parts))
                  settledAmount := some ⟨boundedSettled.fixedUnits⟩
                  releasedAmount :=
                    some ⟨(Double.ofUnits releasedUnits).fixedUnits⟩
                  txHash := txHash <|> current.txHash }

/-- `SpendReservations.retry`, on the locked row. -/
def retry
    (current : SpendReservation)
    (error : String) :
    SpendReservation :=
  if current.status.isTerminal then current
  else
    { current with status := .settling, errorMessage := some error }

/-- `SpendReservations.claimForSettlement`, on a matching row. -/
def claimForSettlement (current : SpendReservation) : SpendReservation :=
  { current with status := .settling, errorMessage := none }

end SpendReservation

/-- An open reservation without a settlement context. -/
def openReservation : SpendReservation where
  id := "reservation"
  uid := "alice"
  walletAddress := "0xA1"
  sessionId := "session"
  providerId := "provider"
  reservedAmount := ⟨2000⟩
  settledAmount := none
  releasedAmount := none
  deliveredKwh := none
  settlementContext := none
  status := .settling
  txHash := none
  errorMessage := none
  authorizationTxHash := none
  authorizationAmount := none

/-- One SPARKZ redeems one kilowatt hour: what is settled and released. -/
def calculateReservationSettlement
    (reservedSparkz deliveredKwh : JsNumber) :
    Except Failure (JsNumber × JsNumber) :=
  match canonicalTokenAmount reservedSparkz with
  | none =>
      .error <| .error
        "reservedSparkz must be non-negative and use at most 2 decimal places"
  | some reserved =>
      match truncateTokenAmount deliveredKwh with
      | none => .error (.error "deliveredKwh must be non-negative")
      | some delivered =>
          let settledUnits := min reserved.units delivered.units
          let releasedUnits := reserved.units - settledUnits
          .ok (.ofUnits settledUnits, .ofUnits releasedUnits)

end Sparkz
