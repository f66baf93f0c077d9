import Sparkz.AwardSession
import Sparkz.JsonText

namespace Sparkz

open JsonText

/-!
# The owner of a charge detail record

The identity part of `normaliser.ts`: which fields of a record may name the
contract of its owner, in which order they are read, and the errors of a
record that names none, or more than one.  A record is what `JSON.parse` makes
of the body of a request; an absent field is the absence of a value.
-/

/-- An `unknown` value of a record. -/
abbrev CdrValue := Json JsNumber

abbrev UnknownRecord := List (String × CdrValue)

/-- `record[name]`. -/
def UnknownRecord.read
    (record : UnknownRecord)
    (name : String) :
    Option CdrValue :=
  InsertionMap.get? name record

/-- The fields of a value, if `isRecord` holds of it. -/
def recordOf : Option CdrValue → Option UnknownRecord
  | some (.object fields) => some fields
  | _ => none

def hasCdrValue : Option CdrValue → Bool
  | none | some .null => false
  | some (.text text) => trimText text != ""
  | _ => true

/-- `Boolean(value)`. -/
def isTruthy : Option CdrValue → Bool
  | none | some .null => false
  | some (.bool flag) => flag
  | some (.number number) =>
      number != .ofNat 0 && number != .notANumber
  | some (.text text) => text != ""
  | _ => true

inductive CdrNormalisationErrorCode where
  | missingEmaid
  | uidOnly
  | conflictingIdentifiers
  | invalidEmaid
  deriving Repr, DecidableEq

structure CdrNormalisationError where
  code : CdrNormalisationErrorCode
  message : String
  protocol : CdrProtocol
  sourceFields : List String
  deriving DecidableEq

/-- `detectCdrProtocol(raw)`, for a record. -/
def detectCdrProtocol (raw : UnknownRecord) : CdrProtocol :=
  let hasSome (names : List String) :=
    names.any fun name => hasCdrValue (raw.read name)
  let hasOcpiStructure :=
    hasSome
      ["id", "country_code", "party_id", "session_id", "start_date_time",
        "end_date_time", "cdr_token", "cdr_token_contract_id",
        "cdr_location", "cdr_location_evse_id", "total_energy"]
  let hasOicpStructure :=
    hasSome
      ["Identification", "identification", "CPOPartnerSessionID",
        "EMPPartnerSessionID", "EvseID", "ChargingStart", "ChargingEnd",
        "ConsumedEnergy", "ContractID"]
  if hasOcpiStructure && hasOicpStructure then .mixed
  else if hasOcpiStructure then .ocpi
  else if hasOicpStructure then .oicp
  else if hasSome ["SessionID", "ProviderID", "EVSEID", "UID"] then .oicp
  else .unknown

structure EmaidCandidate where
  source : String
  value : String
  protocol : CdrProtocol
  deriving DecidableEq

section Candidates

variable (errorProtocol : CdrProtocol)

def addEmaidCandidate
    (candidates : List EmaidCandidate)
    (source : String)
    (value : Option CdrValue)
    (protocol : CdrProtocol) :
    Except CdrNormalisationError (List EmaidCandidate) :=
  if hasCdrValue value then
    match value with
    | some (.text text) =>
        if trimText text ≠ text then
          .error
            ⟨.invalidEmaid,
              "eMAID candidate " ++ source ++
                " must not have leading or trailing whitespace",
              errorProtocol, [source]⟩
        else if text = "" ∨ lowerText text = "null" then .ok candidates
        else .ok (candidates ++ [⟨source, text, protocol⟩])
    | _ =>
        .error
          ⟨.invalidEmaid,
            "eMAID candidate " ++ source ++
              " must be a string; numeric owner identifiers are unsupported",
            errorProtocol, [source]⟩
  else .ok candidates

/-- The three spellings of the owner in a part of an identification. -/
def addAliases
    (name : String)
    (record : UnknownRecord)
    (candidates : List EmaidCandidate) :
    Except CdrNormalisationError (List EmaidCandidate) := do
  let candidates ←
    addEmaidCandidate errorProtocol candidates (name ++ ".EvcoID")
      (record.read "EvcoID") .oicp
  let candidates ←
    addEmaidCandidate errorProtocol candidates (name ++ ".eMAID")
      (record.read "eMAID") .oicp
  addEmaidCandidate errorProtocol candidates (name ++ ".EMAID")
    (record.read "EMAID") .oicp

/-- The records of an identification that may name an owner. -/
def ownerVariants : List String :=
  ["RFIDIdentification", "QRCodeIdentification",
    "PlugAndChargeIdentification", "RemoteIdentification"]

def addVariant
    (name : String)
    (identification : UnknownRecord)
    (candidates : List EmaidCandidate)
    (variant : String) :
    Except CdrNormalisationError (List EmaidCandidate) :=
  match recordOf (identification.read variant) with
  | none => .ok candidates
  | some details =>
      addAliases errorProtocol (name ++ "." ++ variant) details candidates

def addIdentification
    (input : UnknownRecord)
    (candidates : List EmaidCandidate)
    (name : String) :
    Except CdrNormalisationError (List EmaidCandidate) :=
  match recordOf (input.read name) with
  | none => .ok candidates
  | some identification => do
      let candidates ←
        addAliases errorProtocol name identification candidates
      ownerVariants.foldlM (addVariant errorProtocol name identification)
        candidates

def addToken
    (input : UnknownRecord)
    (candidates : List EmaidCandidate) :
    Except CdrNormalisationError (List EmaidCandidate) :=
  match recordOf (input.read "cdr_token") with
  | none => .ok candidates
  | some token =>
      addEmaidCandidate errorProtocol candidates "cdr_token.contract_id"
        (token.read "contract_id") .ocpi

end Candidates

def collectEmaidCandidates
    (input : UnknownRecord)
    (detectedProtocol : CdrProtocol) :
    Except CdrNormalisationError (List EmaidCandidate) := do
  let candidates ← addToken detectedProtocol input []
  let candidates ←
    addEmaidCandidate detectedProtocol candidates "cdr_token_contract_id"
      (input.read "cdr_token_contract_id") .ocpi
  let candidates ←
    addEmaidCandidate detectedProtocol candidates "ContractID"
      (input.read "ContractID") .oicp
  ["Identification", "identification"].foldlM
    (addIdentification detectedProtocol input) candidates

/-- The records of an identification that may carry a token. -/
def tokenVariants : List String :=
  ownerVariants ++ ["RFIDMifareFamilyIdentification"]

/-- The name of a field, if it has a value. -/
def sourceIf (value : Option CdrValue) (source : String) : List String :=
  if hasCdrValue value then [source] else []

/-- The two spellings of a token UID in a part of an identification. -/
def uidSources (name : String) (record : UnknownRecord) : List String :=
  sourceIf (record.read "UID") (name ++ ".UID") ++
    sourceIf (record.read "uid") (name ++ ".uid")

def variantUidSources
    (name : String)
    (identification : UnknownRecord)
    (variant : String) :
    List String :=
  match recordOf (identification.read variant) with
  | none => []
  | some details => uidSources (name ++ "." ++ variant) details

def identificationUidSources
    (input : UnknownRecord)
    (name : String) :
    List String :=
  match recordOf (input.read name) with
  | none => []
  | some identification =>
      uidSources name identification ++
        tokenVariants.flatMap (variantUidSources name identification)

def tokenUidSources (input : UnknownRecord) : List String :=
  match recordOf (input.read "cdr_token") with
  | none => []
  | some token => sourceIf (token.read "uid") "cdr_token.uid"

def collectUidSourceFields (input : UnknownRecord) : List String :=
  sourceIf (input.read "UID") "UID" ++ sourceIf (input.read "uid") "uid" ++
    sourceIf (input.read "cdr_token_uid") "cdr_token_uid" ++
    tokenUidSources input ++
    ["Identification", "identification"].flatMap
      (identificationUidSources input)

/-! ## Token metadata -/

structure NonOwningTokenMetadata where
  uid : Option String
  type : Option String
  countryCode : Option String
  partyId : Option String
  variant : Option String
  deriving DecidableEq

/-- `firstString(values)`: the first value, when it is a text. -/
def firstString (values : List (Option CdrValue)) : Option String :=
  match values.find? hasCdrValue with
  | some (some (.text text)) => some text
  | _ => none

/-- The fields of the token that are read, absent without a token. -/
def tokenRead (input : UnknownRecord) (name : String) : Option CdrValue :=
  (recordOf (input.read "cdr_token")).bind fun token => token.read name

/-- What a variant adds, and whether it is the one that is reported. -/
def addTokenVariant
    (name : String)
    (identification : UnknownRecord)
    (metadata : NonOwningTokenMetadata)
    (variant : String) :
    NonOwningTokenMetadata :=
  match metadata.variant, recordOf (identification.read variant) with
  | none, some details =>
      let variantUid := firstString [details.read "UID"]
      { metadata with
        uid := metadata.uid <|> variantUid
        variant :=
          if variantUid.isSome || isTruthy (details.read "EvcoID") ||
              isTruthy (details.read "eMAID") ||
              isTruthy (details.read "EMAID") then
            some (name ++ "." ++ variant)
          else none }
  | _, _ => metadata

def addTokenIdentification
    (input : UnknownRecord)
    (metadata : NonOwningTokenMetadata)
    (name : String) :
    NonOwningTokenMetadata :=
  match recordOf (input.read name) with
  | none => metadata
  | some identification =>
      tokenVariants.foldl (addTokenVariant name identification) metadata

def collectTokenMetadata
    (input : UnknownRecord) :
    Option NonOwningTokenMetadata :=
  let fields : NonOwningTokenMetadata :=
    { uid :=
        firstString
          [tokenRead input "uid", input.read "cdr_token_uid",
            input.read "UID"]
      type :=
        firstString [tokenRead input "type", input.read "cdr_token_type"]
      countryCode :=
        firstString
          [tokenRead input "country_code",
            input.read "cdr_token_country_code"]
      partyId :=
        firstString
          [tokenRead input "party_id", input.read "cdr_token_party_id"]
      variant := none }
  let metadata :=
    ["Identification", "identification"].foldl
      (addTokenIdentification input) fields
  if metadata = ⟨none, none, none, none, none⟩ then none
  else some metadata

/-! ## Resolution -/

structure ResolvedEmaid where
  eMAID : String
  sourceField : String
  protocol : CdrProtocol
  tokenMetadata : Option NonOwningTokenMetadata
  deriving DecidableEq

/-- The error of a record without candidates. -/
def withoutCandidates
    (input : UnknownRecord)
    (protocol : CdrProtocol) :
    CdrNormalisationError :=
  let uidFields := collectUidSourceFields input
  if uidFields ≠ [] then
    ⟨.uidOnly,
      "eMAID is required for ownership; UID-only CDRs are rejected and may " ++
        "only be quarantined as non-owning token metadata",
      protocol, uidFields⟩
  else
    ⟨.missingEmaid,
      "eMAID/contract identity is required; provide OCPI " ++
        "cdr_token.contract_id or an OICP Identification.*.EvcoID",
      protocol, []⟩

/-- The protocol that is reported with an owner. -/
def reportedProtocol
    (protocol : CdrProtocol)
    (first : EmaidCandidate)
    (others : List EmaidCandidate) :
    CdrProtocol :=
  if others.any fun candidate => candidate.protocol != first.protocol then
    .mixed
  else if protocol = .unknown then first.protocol
  else protocol

def resolveEmaid
    (input : UnknownRecord) :
    Except CdrNormalisationError ResolvedEmaid := do
  let protocol := detectCdrProtocol input
  let candidates ← collectEmaidCandidates input protocol
  match candidates with
  | [] => throw (withoutCandidates input protocol)
  | first :: others =>
      match others.find? fun other => other.value != first.value with
      | some candidate =>
          throw
            ⟨.conflictingIdentifiers,
              "contradictory eMAID ownership aliases: " ++ first.source ++
                " and " ++ candidate.source,
              protocol,
              candidates.map EmaidCandidate.source⟩
      | none =>
          return ⟨first.value, first.source,
            reportedProtocol protocol first others,
            collectTokenMetadata input⟩

end Sparkz
