import Sparkz.Failure

namespace Sparkz

/-!
# Charging sessions and what an award keeps of them

The normalised session is what the reward rules see of a charge detail record.
A new award keeps a snapshot of it, so that a later request can finish the
original award and nothing else.
-/

/-- `new Date(…)`: a time stamp in milliseconds, or an invalid date. -/
abbrev JsDate := Option Int

inductive EnergyDirection where
  | charge
  | discharge
  deriving Repr, DecidableEq

inductive CdrProtocol where
  | ocpi
  | oicp
  | mixed
  | unknown
  deriving Repr, DecidableEq

/-- A normalised charging session. -/
structure NormalisedSession where
  sessionId : String
  providerId : String
  eMAID : Option String
  emaid : Option String
  protocol : Option CdrProtocol
  sourceField : Option String
  tokenMetadata : Option String
  uid : String
  evseId : String
  startTime : JsDate
  endTime : JsDate
  energyKWh : JsNumber
  energyDirection : EnergyDirection
  cdrId : Option String
  reservationSessionId : Option String
  chargingSessionId : Option String
  timeZone : Option String
  timeZoneSource : Option String
  deriving DecidableEq

/-- The wire record itself, kept as its JSON text. -/
abbrev RawCdr := String

inductive AwardType where
  | offPeakCharging
  | v2gDischarge
  deriving Repr, DecidableEq

/-- The policy context that an award is shown and recorded with. -/
structure AwardMetadata where
  isOffPeak : Bool
  countryCode : String
  localTime : String
  energyDirection : EnergyDirection
  awardType : AwardType
  timeZone : Option String
  timeZoneSource : Option String
  localStartTime : Option String
  eligibilityBasis : Option String
  configurationSnapshot : Option String
  configurationFingerprint : Option String
  deriving DecidableEq

/-- The award a request works with: its own calculation or a saved one. -/
structure AwardResult where
  eligible : Bool
  amount : JsNumber
  uid : String
  dedupKey : String
  metadata : Option AwardMetadata
  deriving DecidableEq

/-- The input snapshot stored with a new award claim. -/
structure AwardRecoverySnapshot where
  version : Nat
  fingerprint : String
  normalisedSession : NormalisedSession
  rawCDR : Option RawCdr
  deriving DecidableEq

def AWARD_RECOVERY_SNAPSHOT_VERSION : Nat := 1

/-- `snapshotInvalid(message)`. -/
def snapshotInvalid (message : String) : Failure :=
  .error ("TOKEN_OPERATION_RECOVERY_SNAPSHOT_INVALID: " ++ message)

/-- `Number.isFinite(n) && n >= 0`. -/
def JsNumber.isFiniteNonNegative : JsNumber → Bool
  | .decimal _ | .tiny _ | .large _ => true
  | _ => false

/-- The session as a snapshot stores it. -/
def serialiseNormalisedSession
    (session : NormalisedSession) :
    Except Failure NormalisedSession :=
  if session.startTime.isNone || session.endTime.isNone then
    .error (snapshotInvalid "normalised session dates are invalid")
  else
    let eMAID := (orNull session.eMAID <|> orNull session.emaid).getD
      session.uid
    if eMAID = "" ∨ session.uid ≠ eMAID then
      .error
        (snapshotInvalid
          "normalised session ownership identity is invalid")
    else if session.protocol.isNone then
      .error (snapshotInvalid "normalised session protocol is invalid")
    else if !truthy session.sourceField then
      .error
        (snapshotInvalid "normalised session source field is invalid")
    else if !session.energyKWh.isFiniteNonNegative then
      .error (snapshotInvalid "normalised session energy is invalid")
    else
      .ok
        { session with
          eMAID := some eMAID
          emaid := some eMAID
          tokenMetadata := orNull session.tokenMetadata
          cdrId := orNull session.cdrId
          reservationSessionId := orNull session.reservationSessionId
          chargingSessionId := orNull session.chargingSessionId
          timeZone := orNull session.timeZone
          timeZoneSource := orNull session.timeZoneSource }

/-- The first required text of a stored session that is missing. -/
def missingSessionText (session : NormalisedSession) : Option String :=
  if session.sessionId = "" then some "sessionId"
  else if session.providerId = "" then some "providerId"
  else if !truthy session.eMAID then some "eMAID"
  else if !truthy session.emaid then some "emaid"
  else if !truthy session.sourceField then some "sourceField"
  else if session.uid = "" then some "uid"
  else if session.evseId = "" then some "evseId"
  else none

/-- Read a stored session back, refusing one that was tampered with. -/
def deserialiseNormalisedSession
    (session : NormalisedSession) :
    Except Failure NormalisedSession :=
  match missingSessionText session with
  | some field =>
      .error
        (snapshotInvalid
          ("normalised session " ++ field ++ " is invalid"))
  | none =>
      if session.eMAID ≠ session.emaid ∨
          session.eMAID ≠ some session.uid then
        .error
          (snapshotInvalid
            "normalised session ownership aliases disagree")
      else if session.protocol.isNone then
        .error
          (snapshotInvalid "normalised session protocol is invalid")
      else
        match session.startTime, session.endTime with
        | some startTime, some endTime =>
            if endTime < startTime then
              .error
                (snapshotInvalid
                  "normalised session dates are invalid")
            else if !session.energyKWh.isFiniteNonNegative then
              .error
                (snapshotInvalid
                  "normalised session energy is invalid")
            else
              .ok
                { session with
                  emaid := session.eMAID
                  cdrId := orNull session.cdrId
                  reservationSessionId :=
                    orNull session.reservationSessionId
                  chargingSessionId := orNull session.chargingSessionId
                  timeZone := orNull session.timeZone
                  timeZoneSource := orNull session.timeZoneSource }
        | _, _ =>
            .error
              (snapshotInvalid "normalised session dates are invalid")

/-- `/^[0-9a-f]{64}$/`. -/
def isSha256Hex (text : String) : Bool :=
  text.toList.length == 64 &&
    text.toList.all "0123456789abcdef".toList.contains

end Sparkz
