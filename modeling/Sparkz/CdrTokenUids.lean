import Sparkz.AwardPreparation
import Sparkz.Platform

namespace Sparkz

open JsonText

/-!
# Token UIDs do not own anything

Two records that differ only in the UIDs of tokens are normalised side by
side.  Either both are refused, or both give the same session, apart from the
metadata of the token.
-/

/-! ## Two runs -/

/-- Both runs succeed with related results, or both fail. -/
inductive SameOutcome
    {α β ε : Type}
    (related : α → β → Prop) :
    Except ε α → Except ε β → Prop
  | ok {value : α} {other : β} :
      related value other →
      SameOutcome related (.ok value) (.ok other)
  | error {failure otherFailure : ε} :
      SameOutcome related (.error failure) (.error otherFailure)

namespace SameOutcome

variable
  {α β γ δ ε ζ : Type}
  {related : α → β → Prop}
  {nextRelated : γ → δ → Prop}
  {outcome : Except ε α}
  {otherOutcome : Except ε β}

/-- Related results are passed on. -/
theorem bind
    {next : α → Except ε γ}
    {otherNext : β → Except ε δ}
    (same : SameOutcome related outcome otherOutcome)
    (nextSame :
      ∀ value other,
        related value other →
        SameOutcome nextRelated (next value) (otherNext other)) :
    SameOutcome nextRelated (outcome >>= next)
      (otherOutcome >>= otherNext) := by
  cases same with
  | ok areRelated =>
      exact nextSame _ _ areRelated
  | error =>
      exact .error

/-- A step that both runs share. -/
theorem bindShared
    {next : α → Except ε γ}
    {otherNext : α → Except ε δ}
    (nextSame :
      ∀ value,
        SameOutcome nextRelated (next value) (otherNext value)) :
    SameOutcome nextRelated (outcome >>= next)
      (outcome >>= otherNext) := by
  cases outcome with
  | ok value =>
      exact nextSame value
  | error failure =>
      exact .error

theorem mapError
    (shown : ε → ζ)
    (same : SameOutcome related outcome otherOutcome) :
    SameOutcome related (outcome.mapError shown)
      (otherOutcome.mapError shown) := by
  cases same with
  | ok areRelated =>
      exact .ok areRelated
  | error =>
      exact .error

/-- One run succeeds exactly when the other does. -/
theorem succeeds_iff
    (same : SameOutcome related outcome otherOutcome) :
    (∃ value, outcome = .ok value) ↔
      ∃ other, otherOutcome = .ok other := by
  cases same with
  | ok _ =>
      exact ⟨fun _ => ⟨_, rfl⟩, fun _ => ⟨_, rfl⟩⟩
  | error =>
      constructor
      · rintro ⟨_, isOk⟩
        cases isOk
      · rintro ⟨_, isOk⟩
        cases isOk

/-- The results of two runs that succeed are related. -/
theorem related_of_ok
    {value : α}
    {other : β}
    (same : SameOutcome related (.ok value : Except ε α) (.ok other)) :
    related value other := by
  cases same with
  | ok areRelated =>
      exact areRelated

end SameOutcome

/-- Steps that agree on the items of a list fold it alike. -/
theorem foldlM_congr
    {α β ε : Type}
    {items : List β}
    {step other : α → β → Except ε α}
    {start : α}
    (agree : ∀ value, ∀ item ∈ items, step value item = other value item) :
    items.foldlM step start = items.foldlM other start := by
  induction items generalizing start with
  | nil =>
      rfl
  | cons item items inductionHypothesis =>
      rw [List.foldlM_cons, List.foldlM_cons,
        agree start item List.mem_cons_self]
      congr 1
      funext value
      exact
        inductionHypothesis fun value item member =>
          agree value item (List.mem_cons_of_mem _ member)

/-! ## Records that differ at some paths -/

/-- What follows a name in some paths. -/
def under (name : String) (paths : List (List String)) :
    List (List String) :=
  paths.filterMap fun path =>
    if path.head? = some name then some path.tail else none

/-- Two values are equal apart from what stands at some paths. -/
inductive DifferOnlyAt :
    List (List String) → Option CdrValue → Option CdrValue → Prop
  | same (paths : List (List String)) (value : Option CdrValue) :
      DifferOnlyAt paths value value
  | fields {paths : List (List String)} {first second : UnknownRecord} :
      paths ≠ [] →
      (∀ name,
        [name] ∉ paths →
        DifferOnlyAt (under name paths) (first.read name)
          (second.read name)) →
      DifferOnlyAt paths (some (.object first)) (some (.object second))

/-- A path that neither meets nor contains one of these paths. -/
def isApart : List String → List (List String) → Bool
  | [], paths => paths == []
  | name :: rest, paths =>
      !paths.contains [name] && isApart rest (under name paths)

namespace DifferOnlyAt

variable
  {paths : List (List String)}
  {value other : Option CdrValue}
  {first second : UnknownRecord}

/-- Values that may differ nowhere are equal. -/
theorem eq_of_nil (differ : DifferOnlyAt [] value other) :
    value = other := by
  cases differ with
  | same =>
      rfl
  | fields notNil _ =>
      exact absurd rfl notNil

/-- Both values are there, or both are not. -/
theorem hasCdrValue_eq (differ : DifferOnlyAt paths value other) :
    hasCdrValue value = hasCdrValue other := by
  cases differ with
  | same =>
      rfl
  | fields _ _ =>
      rfl

/-- The fields of two records differ only below their names. -/
theorem read
    {name : String}
    (differ :
      DifferOnlyAt paths (some (.object first)) (some (.object second)))
    (notListed : [name] ∉ paths) :
    DifferOnlyAt (under name paths) (first.read name)
      (second.read name) := by
  cases differ with
  | same =>
      exact .same _ _
  | fields _ fieldsDiffer =>
      exact fieldsDiffer name notListed

/-- Values of the same kind have the same record, or related ones. -/
theorem recordOf_cases (differ : DifferOnlyAt paths value other) :
    recordOf value = none ∧ recordOf other = none ∨
      ∃ first second,
        recordOf value = some first ∧ recordOf other = some second ∧
          DifferOnlyAt paths (some (.object first))
            (some (.object second)) := by
  cases differ with
  | same =>
      cases isRecord : recordOf value with
      | none =>
          exact .inl ⟨rfl, rfl⟩
      | some record =>
          exact .inr ⟨record, record, rfl, rfl, .same _ _⟩
  | fields notNil fieldsDiffer =>
      exact .inr ⟨_, _, rfl, rfl, .fields notNil fieldsDiffer⟩

/-- What stands apart from the paths is the same. -/
theorem valueAt_eq
    {path : List String}
    (differ :
      DifferOnlyAt paths (some (.object first)) (some (.object second)))
    (apart : isApart path paths = true) :
    valueAt path first = valueAt path second := by
  induction path generalizing paths first second with
  | nil =>
      rfl
  | cons name rest inductionHypothesis =>
      simp only [isApart, Bool.and_eq_true, Bool.not_eq_true',
        List.contains_eq_mem, decide_eq_false_iff_not] at apart
      obtain ⟨notListed, restApart⟩ := apart
      have fieldsDiffer := differ.read notListed
      cases rest with
      | nil =>
          simp only [isApart, beq_iff_eq] at restApart
          rw [restApart] at fieldsDiffer
          exact fieldsDiffer.eq_of_nil
      | cons next rest =>
          simp only [valueAt]
          rcases fieldsDiffer.recordOf_cases with
            ⟨noFirst, noSecond⟩ |
              ⟨inner, otherInner, isInner, isOther, innerDiffer⟩
          · rw [noFirst, noSecond]
          · rw [isInner, isOther]
            exact inductionHypothesis innerDiffer restApart

theorem presentAt_eq
    {path : List String}
    (differ :
      DifferOnlyAt paths (some (.object first)) (some (.object second)))
    (apart : isApart path paths = true) :
    presentAt first path = presentAt second path := by
  rw [presentAt, presentAt, differ.valueAt_eq apart]

theorem firstPresent_eq
    {others : List (List String)}
    (differ :
      DifferOnlyAt paths (some (.object first)) (some (.object second)))
    (apart : others.all (isApart · paths) = true) :
    firstPresent first others = firstPresent second others := by
  induction others with
  | nil =>
      rfl
  | cons path others inductionHypothesis =>
      rw [List.all_cons, Bool.and_eq_true] at apart
      simp only [firstPresent, List.findSome?_cons]
      rw [differ.presentAt_eq apart.1]
      have sameRest := inductionHypothesis apart.2
      simp only [firstPresent] at sameRest
      rw [sameRest]

end DifferOnlyAt

/-! ## The owner -/

/-- The fields that only OCPI has. -/
def ocpiFields : List String :=
  ["id", "country_code", "party_id", "session_id", "start_date_time",
    "end_date_time", "cdr_token", "cdr_token_contract_id",
    "cdr_location", "cdr_location_evse_id", "total_energy"]

/-- The fields that only OICP has. -/
def oicpFields : List String :=
  ["Identification", "identification", "CPOPartnerSessionID",
    "EMPPartnerSessionID", "EvseID", "ChargingStart", "ChargingEnd",
    "ConsumedEnergy", "ContractID"]

/-- Some of these fields has a value. -/
def hasSomeField (record : UnknownRecord) (names : List String) : Bool :=
  names.any fun name => hasCdrValue (record.read name)

theorem detectCdrProtocol_eq (record : UnknownRecord) :
    detectCdrProtocol record =
      if hasSomeField record ocpiFields &&
          hasSomeField record oicpFields then .mixed
      else if hasSomeField record ocpiFields then .ocpi
      else if hasSomeField record oicpFields then .oicp
      else if hasSomeField record
          ["SessionID", "ProviderID", "EVSEID", "UID"] then .oicp
      else .unknown :=
  rfl

/-- A resolved owner without the metadata of its token. -/
def SameOwner (resolved other : ResolvedEmaid) : Prop :=
  resolved = { other with tokenMetadata := resolved.tokenMetadata }

/-- A session without the metadata of its token. -/
def SameApartFromToken (session other : NormalisedSession) : Prop :=
  session = { other with tokenMetadata := session.tokenMetadata }

section Owners

variable {first second : UnknownRecord} {protocol : CdrProtocol}

/-- The first field of a path has no value, so the path has none. -/
theorem hasCdrValue_valueAt
    {name : String}
    {rest : List String}
    (isAbsent : hasCdrValue (first.read name) = false) :
    hasCdrValue (valueAt (name :: rest) first) = false := by
  cases rest with
  | nil =>
      exact isAbsent
  | cons next rest =>
      have noRecord : recordOf (first.read name) = none := by
        generalize first.read name = value at isAbsent
        unfold recordOf
        split
        · cases isAbsent
        · rfl
      rw [valueAt, noRecord]
      · rfl
      · simp

/-- Every owner stands in a field that only one protocol has. -/
theorem ownerPositions_areStructural :
    ∀ position ∈ ownerPositions,
      ∃ name ∈ ocpiFields ++ oicpFields,
        ∃ rest, position.1 = name :: rest := by
  have structural :
      (ownerPositions.all fun position =>
        position.1.head?.any (ocpiFields ++ oicpFields).contains) =
          true := by
    decide
  intro position member
  have isStructural := List.all_eq_true.mp structural position member
  cases isPath : position.1 with
  | nil =>
      rw [isPath] at isStructural
      cases isStructural
  | cons name rest =>
      rw [isPath] at isStructural
      exact ⟨name, by simpa using isStructural, rest, rfl⟩

/-- Positions without values add nothing. -/
theorem foldlM_addAt_blank
    {positions : List (List String × CdrProtocol)}
    {candidates : List EmaidCandidate}
    (areBlank :
      ∀ position ∈ positions,
        hasCdrValue (valueAt position.1 first) = false) :
    positions.foldlM (addAt protocol first) candidates =
      .ok candidates := by
  induction positions with
  | nil =>
      rfl
  | cons position positions inductionHypothesis =>
      rw [List.foldlM_cons, addAt,
        addEmaidCandidate_absent (areBlank position List.mem_cons_self)]
      exact
        inductionHypothesis fun position member =>
          areBlank position (List.mem_cons_of_mem _ member)

/-- A record without the fields of a protocol names no owner. -/
theorem collect_withoutStructure
    (noOcpi : hasSomeField first ocpiFields = false)
    (noOicp : hasSomeField first oicpFields = false) :
    collectEmaidCandidates first protocol = .ok [] := by
  rw [collectEmaidCandidates_eq]
  apply foldlM_addAt_blank
  intro position member
  obtain ⟨name, inFields, rest, isPath⟩ :=
    ownerPositions_areStructural position member
  rw [isPath]
  apply hasCdrValue_valueAt
  rw [List.mem_append] at inFields
  rcases inFields with inOcpi | inOicp
  · exact Bool.eq_false_iff.mpr (List.any_eq_false.mp noOcpi name inOcpi)
  · exact Bool.eq_false_iff.mpr (List.any_eq_false.mp noOicp name inOicp)

variable
  (differ :
    DifferOnlyAt uidPaths (some (.object first)) (some (.object second)))

include differ

theorem hasSomeField_eq
    {names : List String}
    (notUids : ∀ name ∈ names, [name] ∉ uidPaths) :
    hasSomeField first names = hasSomeField second names := by
  have samePresence :
      ∀ name ∈ names,
        hasCdrValue (first.read name) = hasCdrValue (second.read name) :=
    fun name member => (differ.read (notUids name member)).hasCdrValue_eq
  unfold hasSomeField
  rw [Bool.eq_iff_iff, List.any_eq_true, List.any_eq_true]
  exact
    exists_congr fun name =>
      and_congr_right fun member => by rw [samePresence name member]

/-- The owners are collected from the same values. -/
theorem collectEmaidCandidates_same :
    collectEmaidCandidates first protocol =
      collectEmaidCandidates second protocol := by
  have areApart :
      (ownerPositions.all fun position => isApart position.1 uidPaths) =
        true := by
    decide
  rw [collectEmaidCandidates_eq, collectEmaidCandidates_eq]
  apply foldlM_congr
  intro candidates position member
  rw [addAt, addAt,
    differ.valueAt_eq (List.all_eq_true.mp areApart position member)]

/-- The protocol is the same, or neither record names an owner. -/
theorem detectCdrProtocol_cases :
    detectCdrProtocol first = detectCdrProtocol second ∨
      ∀ protocol,
        collectEmaidCandidates first protocol = .ok [] ∧
          collectEmaidCandidates second protocol = .ok [] := by
  have sameOcpi :
      hasSomeField first ocpiFields = hasSomeField second ocpiFields :=
    hasSomeField_eq differ (by decide)
  have sameOicp :
      hasSomeField first oicpFields = hasSomeField second oicpFields :=
    hasSomeField_eq differ (by decide)
  rw [detectCdrProtocol_eq, detectCdrProtocol_eq, ← sameOcpi, ← sameOicp]
  cases ocpi : hasSomeField first ocpiFields with
  | true =>
      left
      cases hasSomeField first oicpFields with
      | true =>
          rfl
      | false =>
          rfl
  | false =>
      cases oicp : hasSomeField first oicpFields with
      | true =>
          left
          rfl
      | false =>
          right
          intro protocol
          rw [← collectEmaidCandidates_same differ]
          exact
            ⟨collect_withoutStructure ocpi oicp,
              collect_withoutStructure ocpi oicp⟩

/-- The owner does not depend on the UIDs. -/
theorem resolveEmaid_same :
    SameOutcome SameOwner (resolveEmaid first) (resolveEmaid second) := by
  rcases detectCdrProtocol_cases differ with sameProtocol | noOwner
  · unfold resolveEmaid
    dsimp only
    rw [sameProtocol, collectEmaidCandidates_same differ]
    apply SameOutcome.bindShared
    intro candidates
    cases candidates with
    | nil =>
        exact .error
    | cons first others =>
        dsimp only
        cases others.find? fun other => other.value != first.value with
        | none =>
            exact .ok rfl
        | some conflicting =>
            exact .error
  · unfold resolveEmaid
    dsimp only
    rw [(noOwner _).1, (noOwner _).2]
    exact .error

end Owners

/-! ## The session -/

section Sessions

variable
  {runtime : CalculationRuntime}
  {clock : CdrClock}
  {first second : UnknownRecord}
  (differ :
    DifferOnlyAt uidPaths (some (.object first)) (some (.object second)))

include differ

/-- A field that is no UID and holds none. -/
theorem read_same
    {name : String}
    (apart : isApart [name] uidPaths = true) :
    first.read name = second.read name :=
  differ.valueAt_eq apart

theorem rejectUnsupportedCdrKind_same :
    rejectUnsupportedCdrKind first = rejectUnsupportedCdrKind second := by
  have sameRead :
      ∀ name ∈
          ["credit", "credit_reference_id", "correction_reference_id",
            "CorrectionReferenceID", "correction", "Correction",
            "is_correction", "isCorrection", "Operation Status",
            "OperationStatus", "operation_status"],
        first.read name = second.read name := by
    intro name member
    apply read_same differ
    revert name
    decide
  simp only [List.forall_mem_cons] at sameRead
  obtain ⟨credit, creditReference, correctionReference,
    correctionReferenceId, correction, upperCorrection, isCorrection,
    camelCorrection, spacedStatus, camelStatus, status, _⟩ := sameRead
  simp only [rejectUnsupportedCdrKind, credit, creditReference,
    correctionReference, correctionReferenceId, correction,
    upperCorrection, isCorrection, camelCorrection, spacedStatus,
    camelStatus, status]

theorem resolveCdrTimeZone_same :
    resolveCdrTimeZone runtime first =
      resolveCdrTimeZone runtime second := by
  have areApart :
      (timeZonePaths.all fun path => isApart path uidPaths) = true := by
    decide
  apply foldlM_congr
  intro selected path member
  rw [selectZone, selectZone,
    differ.presentAt_eq (List.all_eq_true.mp areApart path member)]

/-- The fields that a session is built from. -/
theorem sessionFields_same :
    getProviderValue first = getProviderValue second ∧
      getStartTimeValue first = getStartTimeValue second ∧
      getEndTimeValue first = getEndTimeValue second ∧
      getEnergyValue first = getEnergyValue second ∧
      getDirectionValue first = getDirectionValue second ∧
      getSessionValue first = getSessionValue second ∧
      getEvseValue first = getEvseValue second :=
  ⟨differ.firstPresent_eq (by decide),
    differ.firstPresent_eq (by decide),
    differ.firstPresent_eq (by decide),
    differ.firstPresent_eq (by decide),
    differ.firstPresent_eq (by decide),
    differ.firstPresent_eq (by decide),
    differ.firstPresent_eq (by decide)⟩

/-- Sessions are the same apart from their tokens. -/
theorem normaliseSession_same :
    SameOutcome SameApartFromToken
      (normaliseSession runtime clock (.object first))
      (normaliseSession runtime clock (.object second)) := by
  obtain ⟨provider, startTime, endTime, energy, direction, session,
    evse⟩ := sessionFields_same differ
  have wireSession :
      firstPresent first [["session_id"]] =
        firstPresent second [["session_id"]] :=
    differ.firstPresent_eq (by decide)
  have wireId :
      firstPresent first [["id"]] = firstPresent second [["id"]] :=
    differ.firstPresent_eq (by decide)
  simp only [normaliseSession, recordOf]
  rw [rejectUnsupportedCdrKind_same differ,
    resolveCdrTimeZone_same differ, provider, startTime, endTime, energy,
    direction, session, evse, wireSession, wireId]
  apply SameOutcome.bindShared
  intro _
  apply SameOutcome.bindShared
  intro zone
  apply SameOutcome.bindShared
  intro sessionId
  apply SameOutcome.bindShared
  intro providerId
  apply SameOutcome.bind ((resolveEmaid_same differ).mapError _)
  intro identity otherIdentity sameOwner
  rcases identity with ⟨eMAID, source, protocol, metadata⟩
  rcases otherIdentity with ⟨_, _, _, otherMetadata⟩
  simp only [SameOwner, ResolvedEmaid.mk.injEq, and_true] at sameOwner
  obtain ⟨rfl, rfl, rfl⟩ := sameOwner
  apply SameOutcome.bindShared
  intro evseId
  apply SameOutcome.bindShared
  intro startTime
  apply SameOutcome.bindShared
  intro endTime
  apply SameOutcome.bindShared
  intro _
  apply SameOutcome.bindShared
  intro energy
  apply SameOutcome.bindShared
  intro reservationSessionId
  apply SameOutcome.bindShared
  intro cdrId
  apply SameOutcome.bindShared
  intro chargingSessionId
  exact .ok rfl

/-- Records are accepted alike, and normalised to the same session. -/
theorem validateAndNormaliseCdr_same :
    SameOutcome SameApartFromToken
      (validateAndNormaliseCdr runtime clock (.object first))
      (validateAndNormaliseCdr runtime clock (.object second)) := by
  obtain ⟨_, startTime, endTime, energy, direction, _, _⟩ :=
    sessionFields_same differ
  unfold validateAndNormaliseCdr
  dsimp only [recordOf]
  rw [rejectUnsupportedCdrKind_same differ, startTime, endTime, energy,
    direction]
  apply SameOutcome.bindShared
  intro _
  apply SameOutcome.bindShared
  intro _
  apply SameOutcome.bindShared
  intro _
  apply SameOutcome.bindShared
  intro _
  apply SameOutcome.bindShared
  intro _
  apply SameOutcome.bind (normaliseSession_same differ)
  intro session other same
  have sameEnergy : session.energyKWh = other.energyKWh := by rw [same]
  have sameStart : session.startTime = other.startTime := by rw [same]
  have sameEnd : session.endTime = other.endTime := by rw [same]
  rw [sameEnergy, sameStart, sameEnd]
  apply SameOutcome.bindShared
  intro _
  apply SameOutcome.bindShared
  intro _
  exact .ok same

end Sessions

/--
Changing, adding or removing the UIDs of tokens does not decide whether a
record is accepted.  The sessions of two accepted records are the same apart
from the metadata of the token, and so are the key and the fingerprint of
their award.
-/
theorem validateAndNormaliseCdr_ignoresUids
    (runtime : CalculationRuntime)
    (clock : CdrClock)
    (digests : Digests)
    (first second : UnknownRecord)
    (differ :
      DifferOnlyAt uidPaths (some (.object first))
        (some (.object second))) :
    ((∃ session,
        validateAndNormaliseCdr runtime clock (.object first) =
          .ok session) ↔
      ∃ session,
        validateAndNormaliseCdr runtime clock (.object second) =
          .ok session) ∧
      ∀ session other,
        validateAndNormaliseCdr runtime clock (.object first) =
            .ok session →
        validateAndNormaliseCdr runtime clock (.object second) =
            .ok other →
        session =
            { other with tokenMetadata := session.tokenMetadata } ∧
          awardOperationKey digests session.providerId
              session.sessionId =
            awardOperationKey digests other.providerId
              other.sessionId ∧
          ∀ walletAddress,
            awardIntentFingerprint digests session walletAddress =
              awardIntentFingerprint digests other walletAddress := by
  have same :=
    @validateAndNormaliseCdr_same runtime clock first second differ
  refine ⟨same.succeeds_iff, ?_⟩
  intro session other isSession isOther
  rw [isSession, isOther] at same
  have isSame : session = _ := same.related_of_ok
  refine ⟨isSame, ?_, ?_⟩
  · rw [isSame]
  · intro walletAddress
    rw [isSame]
    rfl

/-! ## One card, with its UID in different places -/

/-- A field with a text, if there is one. -/
def textField (name : String) (text : Option String) : UnknownRecord :=
  (text.map fun shown => (name, Json.text shown)).toList

/-- A charge with a card, whose UID may be given in two places. -/
def cardCharge (uid tokenUid : Option String) : UnknownRecord :=
  textField "UID" uid ++
    [("cdr_token",
        .object
          (textField "uid" tokenUid ++
            [("contract_id", .text "DE-8AA-C00000001")])),
      ("SessionID", .text "session"), ("ProviderID", .text "provider"),
      ("EVSEID", .text "DE*ABC*E1"),
      ("StartTime", .text "2026-01-01T22:00:00Z"),
      ("EndTime", .text "2026-01-01T23:00:00Z"),
      ("Energy", .number (.ofNat 8))]

/-- A field with another name is read behind an optional one. -/
theorem read_textField_append
    {name other : String}
    {text : Option String}
    {record : UnknownRecord}
    (different : other ≠ name) :
    UnknownRecord.read (textField name text ++ record) other =
      record.read other := by
  cases text with
  | none =>
      rfl
  | some shown =>
      simp [textField, UnknownRecord.read, InsertionMap.get?,
        Ne.symm different]

/-- Charges with a card differ only in the UIDs. -/
theorem cardCharge_differ
    (uid tokenUid otherUid otherTokenUid : Option String) :
    DifferOnlyAt uidPaths (some (.object (cardCharge uid tokenUid)))
      (some (.object (cardCharge otherUid otherTokenUid))) := by
  apply DifferOnlyAt.fields (by decide)
  intro name notListed
  have notUid : name ≠ "UID" := by
    rintro rfl
    exact notListed (by decide)
  rw [cardCharge, cardCharge, read_textField_append notUid,
    read_textField_append notUid]
  by_cases isToken : name = "cdr_token"
  · subst isToken
    apply DifferOnlyAt.fields (by decide)
    intro inner notInner
    have notTokenUid : inner ≠ "uid" := by
      rintro rfl
      exact notInner (by decide)
    rw [read_textField_append notTokenUid,
      read_textField_append notTokenUid]
    exact .same _ _
  · simp only [UnknownRecord.read, InsertionMap.get?,
      Ne.symm isToken, if_false]
    exact .same _ _

/-- A card is charged to its contract wherever its UID is given. -/
theorem cardCharge_keepsOwner :
    ∃ session other,
      validateAndNormaliseCdr nightRuntime
          AwardPreparation.germanClock
          (.object (cardCharge (some "04A1") none)) =
        .ok session ∧
      validateAndNormaliseCdr nightRuntime
          AwardPreparation.germanClock
          (.object (cardCharge none (some "04B2"))) =
        .ok other ∧
      session.tokenMetadata ≠ other.tokenMetadata ∧
      session.eMAID = some "DE-8AA-C00000001" ∧
      other.eMAID = session.eMAID := by
  obtain ⟨_, sameSession⟩ :=
    validateAndNormaliseCdr_ignoresUids nightRuntime
          AwardPreparation.germanClock Platform.sample.digests
      _ _ (cardCharge_differ (some "04A1") none none (some "04B2"))
  have isFirst :
      (validateAndNormaliseCdr nightRuntime
          AwardPreparation.germanClock
          (.object (cardCharge (some "04A1") none))).map
          (fun session => (session.tokenMetadata, session.eMAID)) =
        .ok
          (some "\x7b\"uid\":\"04A1\"\x7d", some "DE-8AA-C00000001") := by
    decide +kernel
  have isSecond :
      (validateAndNormaliseCdr nightRuntime
          AwardPreparation.germanClock
          (.object (cardCharge none (some "04B2")))).map
          NormalisedSession.tokenMetadata =
        .ok (some "\x7b\"uid\":\"04B2\"\x7d") := by
    decide +kernel
  obtain ⟨session, isSession, shown⟩ := Except.map_eq_ok isFirst
  obtain ⟨other, isOther, otherShown⟩ := Except.map_eq_ok isSecond
  obtain ⟨metadata, owner⟩ := Prod.mk.inj shown
  obtain ⟨same, _⟩ := sameSession session other isSession isOther
  refine ⟨session, other, isSession, isOther, ?_, owner, ?_⟩
  · rw [metadata, otherShown]
    decide
  · rw [same]

end Sparkz
