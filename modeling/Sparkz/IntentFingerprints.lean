import Sparkz.AwardPreparation
import Sparkz.IsoDates
import Sparkz.JsonOrder
import Sparkz.NumberTexts
import Sparkz.OperationKeys

namespace Sparkz

open JsonText Utf16

/-!
# Keys and fingerprints of intents

A fingerprint is the digest of the canonical JSON text of an intent.  That text
writes an unpaired surrogate as an escape, where the text of a key leaves it to
the encoder of the digest.
-/

/-- `canonicalize(value)`. -/
def canonicalize {τ : Type} [Utf16Text τ] (value : Json NumberText τ) :
    String :=
  String.ofList (stableSerialize value)

/-- The text of a direction. -/
def EnergyDirection.text : EnergyDirection → String
  | .charge => "CHARGE"
  | .discharge => "DISCHARGE"

/-- A text or `null`. -/
def textOrNull {τ : Type} : Option τ → Json NumberText τ
  | none => .null
  | some text => .text text

/-- `date.toISOString()`, which throws for an invalid date. -/
def JsDate.json (date : JsDate) : Json NumberText :=
  textOrNull (date.map IsoDates.toISOString)

/-- What `awardIntentFingerprint` digests. -/
def AwardIntent.json (intent : AwardIntent) : Json NumberText :=
  .object
    [("providerId", .text intent.providerId),
      ("sessionId", .text intent.sessionId),
      ("uid", .text intent.uid),
      ("walletAddress", .text intent.walletAddress),
      ("evseId", .text intent.evseId),
      ("startTime", JsDate.json intent.startTime),
      ("endTime", JsDate.json intent.endTime),
      ("energyKWh", intent.energyKWh.json),
      ("energyDirection", .text intent.energyDirection.text),
      ("cdrId", textOrNull intent.cdrId),
      ("reservationSessionId", textOrNull intent.reservationSessionId),
      ("timeZone", textOrNull intent.timeZone),
      ("timeZoneSource", textOrNull intent.timeZoneSource)]

/-- What `spendIntentFingerprint` digests, with the text of the amount. -/
def spendIntentJson
    (uid : JsString)
    (walletAddress amount : String)
    (sessionId providerId reservationId : Option JsString) :
    Json NumberText JsString :=
  .object
    [(jsString "uid", .text uid),
      (jsString "walletAddress", .text (jsString walletAddress)),
      (jsString "amount", .text (jsString amount)),
      (jsString "sessionId", textOrNull sessionId),
      (jsString "providerId", textOrNull providerId),
      (jsString "reservationId", textOrNull reservationId)]

/-- The canonical text of an intent. -/
def TokenIntent.canonicalText : TokenIntent → String
  | .award intent => canonicalize intent.json
  | .spend intent =>
      canonicalize
        (spendIntentJson intent.uid intent.walletAddress
          intent.amount.decimal intent.sessionId intent.providerId
          intent.reservationId)

/-- The digests of a hash function. -/
def Digests.ofSha256 (sha256 : String → String) : Digests where
  sha256 := sha256
  tokenIntentFingerprint intent := sha256 intent.canonicalText

/-- The argument of `spendIntentFingerprint`. -/
structure SpendFingerprintInput where
  uid : JsString
  walletAddress : String
  amount : JsNumber
  sessionId : Option JsString
  providerId : Option JsString
  reservationId : Option JsString

/-- `spendIntentFingerprint(input)`. -/
def SpendFingerprintInput.spendIntentFingerprint
    (sha256 : String → String)
    (input : SpendFingerprintInput) :
    Except Failure String :=
  match TokenAmounts.canonicalTokenAmount (.number input.amount) with
  | none => .error (.error "UNSUPPORTED_TOKEN_PRECISION")
  | some amount =>
      .ok
        (sha256
          (canonicalize
            (spendIntentJson input.uid (lowerText input.walletAddress)
              amount.decimal (JsString.orNull input.sessionId)
              (JsString.orNull input.providerId)
              (JsString.orNull input.reservationId))))

/-! ## Sessions -/

/-- What the normaliser makes of the times and the energy of a record. -/
structure NormalisedSession.IsNormalised
    (session : NormalisedSession) :
    Prop where
  startTime : session.startTime.isSome
  endTime : session.endTime.isSome
  energyKWh : session.energyKWh.IsShown

/-- Sessions and wallets that agree in all that a fingerprint lists. -/
structure AwardAgrees
    (session other : NormalisedSession)
    (walletAddress otherWallet : String) :
    Prop where
  providerId : session.providerId = other.providerId
  sessionId : session.sessionId = other.sessionId
  uid : session.uid = other.uid
  walletAddress : lowerText walletAddress = lowerText otherWallet
  evseId : session.evseId = other.evseId
  startTime : session.startTime = other.startTime
  endTime : session.endTime = other.endTime
  energyKWh : session.energyKWh = other.energyKWh
  energyDirection : session.energyDirection = other.energyDirection
  cdrId : orNull session.cdrId = orNull other.cdrId
  reservationSessionId :
    orNull session.reservationSessionId =
      orNull other.reservationSessionId
  timeZone : orNull session.timeZone = orNull other.timeZone
  timeZoneSource :
    orNull session.timeZoneSource = orNull other.timeZoneSource

/-- Spend requests that agree in all that a fingerprint lists. -/
structure SpendAgrees
    (input other : SpendFingerprintInput)
    (units otherUnits : Nat) :
    Prop where
  uid : input.uid = other.uid
  walletAddress : lowerText input.walletAddress = lowerText other.walletAddress
  amount : units = otherUnits
  sessionId :
    JsString.orNull input.sessionId = JsString.orNull other.sessionId
  providerId :
    JsString.orNull input.providerId = JsString.orNull other.providerId
  reservationId :
    JsString.orNull input.reservationId =
      JsString.orNull other.reservationId

/-! ## Canonical texts -/

section Canonical

variable {τ : Type} [Utf16Text τ] {first second : Json NumberText τ}

/-- Values with the same canonical text are the same up to field order. -/
theorem canonicalize_eq_iff {value other : JsonValue NumberText τ} :
    canonicalize value.tree = canonicalize other.tree ↔
      Reordered value.tree other.tree := by
  rw [canonicalize, canonicalize, String.ofList_inj,
    stableSerialize_eq_iff]

/-- Digests are the same for values that are the same. -/
theorem canonical_of_digest
    {sha256 : String → String}
    (collisionFree : Function.Injective sha256)
    (same :
      sha256 (canonicalize first) = sha256 (canonicalize second)) :
    canonical first = canonical second :=
  canonical_eq (String.ofList_injective (collisionFree same))

@[simp] theorem canonical_textOrNull (text : Option τ) :
    canonical (textOrNull text) = textOrNull text := by
  cases text <;> rfl

@[simp] theorem canonical_number (number : JsNumber) :
    canonical number.json = number.json := by
  unfold JsNumber.json
  split <;> rfl

omit [Utf16Text τ] in
@[simp] theorem textOrNull_inj {text other : Option τ} :
    textOrNull text = textOrNull other ↔ text = other := by
  cases text <;> cases other <;> simp [textOrNull]

/-- A date is determined by its JSON. -/
@[simp] theorem dateJson_inj {date other : JsDate} :
    JsDate.json date = JsDate.json other ↔ date = other := by
  rw [JsDate.json, JsDate.json, textOrNull_inj]
  constructor
  · exact fun same =>
      Option.map_injective IsoDates.toISOString_injective same
  · exact congrArg _

@[simp] theorem canonical_dateJson (date : JsDate) :
    canonical (JsDate.json date) = JsDate.json date :=
  canonical_textOrNull _

@[simp] theorem directionText_inj {direction other : EnergyDirection} :
    direction.text = other.text ↔ direction = other := by
  cases direction <;> cases other <;> simp [EnergyDirection.text]

end Canonical

/-! ## Fingerprints of awards -/

section Awards

variable {sha256 : String → String}
  {session other : NormalisedSession}
  {walletAddress otherWallet : String}

/-- Intents with the same canonical tree are the same. -/
theorem awardIntent_eq
    {first second : AwardIntent}
    (isShown : first.energyKWh.IsShown)
    (otherShown : second.energyKWh.IsShown)
    (same : canonical first.json = canonical second.json) :
    first = second := by
  have fields :=
    canonicalFields_eq_of_same (by rfl) (by simp) same
  simp only [canonicalFields, canonical, canonical_textOrNull,
    canonical_number, canonical_dateJson, List.cons.injEq, Prod.mk.injEq,
    true_and, Json.text.injEq, textOrNull_inj, dateJson_inj,
    directionText_inj, and_true] at fields
  obtain ⟨providerId, sessionId, uid, walletAddress, evseId, startTime,
    endTime, energyKWh, energyDirection, cdrId, reservationSessionId,
    timeZone, timeZoneSource⟩ := fields
  have sameEnergy := isShown.json_injective otherShown energyKWh
  cases first
  cases second
  simp only [AwardIntent.mk.injEq]
  exact
    ⟨providerId, sessionId, uid, walletAddress, evseId, startTime, endTime,
      sameEnergy, energyDirection, cdrId, reservationSessionId, timeZone,
      timeZoneSource⟩

/-- Fingerprints of awards agree when all that they list agrees. -/
theorem awardIntentFingerprint_eq_iff
    (collisionFree : Function.Injective sha256)
    (normalised : session.IsNormalised)
    (otherNormalised : other.IsNormalised) :
    awardIntentFingerprint (.ofSha256 sha256) session walletAddress =
        awardIntentFingerprint (.ofSha256 sha256) other otherWallet ↔
      AwardAgrees session other walletAddress otherWallet := by
  constructor
  · intro same
    have sameIntent :=
      awardIntent_eq normalised.energyKWh otherNormalised.energyKWh
        (canonical_of_digest collisionFree same)
    simp only [AwardIntent.mk.injEq] at sameIntent
    obtain ⟨providerId, sessionId, uid, walletAddress, evseId, startTime,
      endTime, energyKWh, energyDirection, cdrId, reservationSessionId,
      timeZone, timeZoneSource⟩ := sameIntent
    exact
      { providerId, sessionId, uid, walletAddress, evseId, startTime,
        endTime, energyKWh, energyDirection, cdrId, reservationSessionId,
        timeZone, timeZoneSource }
  · intro agrees
    simp only [awardIntentFingerprint, agrees.providerId,
      agrees.sessionId, agrees.uid, agrees.walletAddress, agrees.evseId,
      agrees.startTime, agrees.endTime, agrees.energyKWh,
      agrees.energyDirection, agrees.cdrId, agrees.reservationSessionId,
      agrees.timeZone, agrees.timeZoneSource]

/-- The normaliser returns normalised sessions. -/
theorem isNormalised_of_normaliseSession
    {runtime : CalculationRuntime}
    {clock : CdrClock}
    {raw : CdrValue}
    (accepted : normaliseSession runtime clock raw = .ok session) :
    session.IsNormalised := by
  obtain ⟨startTime, endTime, _, _, isStart, isEnd, isEnergy⟩ :=
    AwardPreparation.measured_of_normaliseSession accepted
  exact
    { startTime := by rw [isStart]; rfl
      endTime := by rw [isEnd]; rfl
      energyKWh := normaliseEnergy_isExact isEnergy }

end Awards

/-! ## Fingerprints of spends -/

section Spends

variable {sha256 : String → String}
  {input other : SpendFingerprintInput}
  {amount otherAmount : TokenAmounts.CanonicalTokenAmount}
  {value : BodyValue}

/-- Amounts have the same text when their cents are the same. -/
theorem decimal_inj
    (isAmount : TokenAmounts.canonicalTokenAmount value = some amount)
    {otherValue : BodyValue}
    (isOther :
      TokenAmounts.canonicalTokenAmount otherValue = some otherAmount) :
    amount.decimal = otherAmount.decimal ↔
      amount.units = otherAmount.units := by
  obtain ⟨decimal, _, _, rfl⟩ :=
    TokenAmounts.text_of_canonicalTokenAmount isAmount
  obtain ⟨otherDecimal, _, _, rfl⟩ :=
    TokenAmounts.text_of_canonicalTokenAmount isOther
  exact TokenAmounts.decimal_eq_iff

/-- Fingerprints of spends agree when all that they list agrees. -/
theorem spendIntentFingerprint_eq_iff
    (collisionFree : Function.Injective sha256)
    (isAmount :
      TokenAmounts.canonicalTokenAmount (.number input.amount) =
        some amount)
    (isOther :
      TokenAmounts.canonicalTokenAmount (.number other.amount) =
        some otherAmount) :
    input.spendIntentFingerprint sha256 =
        other.spendIntentFingerprint sha256 ↔
      SpendAgrees input other amount.units otherAmount.units := by
  simp only [SpendFingerprintInput.spendIntentFingerprint, isAmount,
    isOther, Except.ok.injEq]
  constructor
  · intro same
    have fields :=
      canonicalFields_eq_of_same (by rfl)
        (by simp [jsString_injective.eq_iff])
        (canonical_of_digest collisionFree same)
    simp only [canonicalFields, canonical, canonical_textOrNull,
      List.cons.injEq, Prod.mk.injEq, true_and, Json.text.injEq,
      jsString_injective.eq_iff, textOrNull_inj, and_true,
      decimal_inj isAmount isOther] at fields
    obtain ⟨uid, walletAddress, amount, sessionId, providerId,
      reservationId⟩ := fields
    exact { uid, walletAddress, amount, sessionId, providerId,
            reservationId }
  · intro agrees
    rw [agrees.uid, agrees.walletAddress, agrees.sessionId,
      agrees.providerId, agrees.reservationId,
      (decimal_inj isAmount isOther).mpr agrees.amount]

end Spends

/-! ## What keys and fingerprints separate -/

section Separation

variable {sha256 : String → String}

/-- Two pairs of one key are the same pair. -/
def KeysSeparate
    (key : JsString → JsString → JsString)
    (first second otherFirst otherSecond : JsString) :
    Prop :=
  key first second = key otherFirst otherSecond →
    first = otherFirst ∧ second = otherSecond

/-- Two pairs are the same, or differ in more than unpaired surrogates. -/
def DifferInCharacters
    (first second otherFirst otherSecond : JsString) :
    Prop :=
  (first = otherFirst ∧ second = otherSecond) ∨
    toWellFormed first ≠ toWellFormed otherFirst ∨
    toWellFormed second ≠ toWellFormed otherSecond

/-- Different pairs without unpaired surrogates differ in characters. -/
theorem differInCharacters_jsString
    (first second otherFirst otherSecond : String) :
    DifferInCharacters (jsString first) (jsString second)
      (jsString otherFirst) (jsString otherSecond) := by
  unfold DifferInCharacters
  simp only [jsString, toWellFormed_encode]
  tauto

/-- A key that digests characters separates what differs in them. -/
theorem keysSeparate_iff
    {key : JsString → JsString → JsString}
    {first second otherFirst otherSecond : JsString}
    (isKey :
      key first second = key otherFirst otherSecond ↔
        toWellFormed first = toWellFormed otherFirst ∧
          toWellFormed second = toWellFormed otherSecond) :
    KeysSeparate key first second otherFirst otherSecond ↔
      DifferInCharacters first second otherFirst otherSecond := by
  unfold KeysSeparate DifferInCharacters
  rw [isKey]
  tauto

/--
Keys of operations separate pairs of texts that differ in characters, the
families of keys are disjoint, canonical texts separate JSON values, and
fingerprints separate awards and spends that differ in a listed field.
-/
theorem operationIntents_separate_iff
    (collisionFree : Function.Injective sha256) :
    (∀ provider session otherProvider otherSession,
        KeysSeparate (JsString.awardOperationKey sha256)
            provider session otherProvider otherSession ↔
          DifferInCharacters provider session otherProvider
            otherSession) ∧
      (∀ uid key otherUid otherKey,
        KeysSeparate (JsString.spendOperationKey sha256)
            uid key otherUid otherKey ↔
          DifferInCharacters uid key otherUid otherKey) ∧
      (∀ provider session uid key reservation,
        [JsString.awardOperationKey sha256 provider session,
          JsString.spendOperationKey sha256 uid key,
          JsString.reservationOperationKey reservation].Nodup) ∧
      (∀ value other : JsonValue NumberText JsString,
        canonicalize value.tree = canonicalize other.tree ↔
          Reordered value.tree other.tree) ∧
      (∀ (session other : NormalisedSession)
          (walletAddress otherWallet : String),
        session.IsNormalised →
        other.IsNormalised →
        (awardIntentFingerprint (.ofSha256 sha256) session walletAddress =
            awardIntentFingerprint (.ofSha256 sha256) other otherWallet ↔
          AwardAgrees session other walletAddress otherWallet)) ∧
      ∀ (input other : SpendFingerprintInput)
          (amount otherAmount : TokenAmounts.CanonicalTokenAmount),
        TokenAmounts.canonicalTokenAmount (.number input.amount) =
            some amount →
        TokenAmounts.canonicalTokenAmount (.number other.amount) =
            some otherAmount →
        (input.spendIntentFingerprint sha256 =
            other.spendIntentFingerprint sha256 ↔
          SpendAgrees input other amount.units otherAmount.units) := by
  refine ⟨?_, ?_, ?_, ?_, ?_, ?_⟩
  · intro provider session otherProvider otherSession
    exact keysSeparate_iff (awardKey_eq_iff collisionFree)
  · intro uid key otherUid otherKey
    exact keysSeparate_iff (spendKey_eq_iff collisionFree)
  · intro provider session uid key reservation
    have heads :
        ([JsString.awardOperationKey sha256 provider session,
          JsString.spendOperationKey sha256 uid key,
          JsString.reservationOperationKey reservation].map
            List.head?).Nodup := by
      simp only [List.map_cons, List.map_nil, awardKey_head, spendKey_head,
        reservationKey_head]
      decide
    exact heads.of_map _
  · intro value other
    exact canonicalize_eq_iff
  · intro session other walletAddress otherWallet normalised
      otherNormalised
    exact
      awardIntentFingerprint_eq_iff collisionFree normalised
        otherNormalised
  · intro input other amount otherAmount isAmount isOther
    exact spendIntentFingerprint_eq_iff collisionFree isAmount isOther

end Separation

/-- The digests of two tuples, and distinct texts for all others. -/
def referenceSha256 (text : String) : String :=
  if text = "7:prov-DE8:sess-001" then
    "65142e7d65ae9e4fa20debe1b1af97211762b66d86e0aaaf70b34f0ac58d4a88"
  else if text = "6:prov-D9:Esess-001" then
    "797daff0ea46d9a96fa973e189707040c795a770a84440fdf0f49291237706cd"
  else "sha256 of " ++ text

theorem referenceSha256_injective : Function.Injective referenceSha256 := by
  have different :
      ∀ (digest text : String),
        digest.toList.head? ≠ some 's' → digest ≠ "sha256 of " ++ text := by
    rintro digest text notLetter rfl
    exact notLetter (by simp)
  intro text other same
  unfold referenceSha256 at same
  split_ifs at same with isFirst isOtherFirst isOtherSecond isSecond
    isOtherFirst isOtherSecond isOtherFirst isOtherSecond
  · rw [isFirst, isOtherFirst]
  · exact absurd same (by decide)
  · exact absurd same (different _ _ (by decide))
  · exact absurd same (by decide)
  · rw [isSecond, isOtherSecond]
  · exact absurd same (different _ _ (by decide))
  · exact absurd same.symm (different _ _ (by decide))
  · exact absurd same.symm (different _ _ (by decide))
  · exact String.append_right_inj _ |>.mp same

/-- Moving a letter from one text to the other makes another key. -/
theorem movedLetter_separates :
    JsString.awardOperationKey referenceSha256
        (jsString "prov-DE") (jsString "sess-001") ≠
      JsString.awardOperationKey referenceSha256
        (jsString "prov-D") (jsString "Esess-001") := by
  intro same
  obtain ⟨separates, _⟩ :=
    operationIntents_separate_iff referenceSha256_injective
  obtain ⟨sameProvider, _⟩ :=
    (separates _ _ _ _).mpr (differInCharacters_jsString _ _ _ _) same
  have sameText := jsString_injective sameProvider
  revert sameText
  decide

/-- Two keys of a caller with one unpaired surrogate each are one key. -/
theorem unpairedSurrogates_collide :
    ¬ ∀ sha256 : String → String,
      Function.Injective sha256 →
        ∀ uid idempotencyKey otherUid otherKey,
          KeysSeparate (JsString.spendOperationKey sha256)
            uid idempotencyKey otherUid otherKey := by
  intro separate
  have isKey :
      JsString.spendOperationKey id (jsString "contract-1") [0xd800] =
        JsString.spendOperationKey id (jsString "contract-1") [0xdc00] := by
    rfl
  obtain ⟨_, sameKey⟩ := separate id Function.injective_id _ _ _ _ isKey
  revert sameKey
  decide

end Sparkz
