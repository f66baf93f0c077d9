import Sparkz.SpendCreations
import Sparkz.StoreCalls
import Sparkz.TrustedReceipts

namespace Sparkz

open Interleaving

/-!
# An exact retry of a manual spend

The body of an accepted spend is compared with the operation it has created in
three places: by the endpoint, by the claim and by the receipt.  All three
accept the same body again, unless it names an empty session or provider, or
one of its identifiers is stored with the replacement character.
-/

/-! ## What the retry meets -/

section Retry

variable (platform : Platform)
  (TOKEN_CONTRACT_ADDRESS : String)

/-- Two requests for one receipt, whatever else is asked for meanwhile. -/
structure SpendReceiptRequest.SameReceipt
    (first again : SpendReceiptRequest) :
    Prop where
  /-- Both return the same receipt. -/
  same :
    ∀ {lost : Bool}
      {chain : ReceiptChain}
      {calls : Nat → SpendReceiptRequest}
      {config : Config sparkz Failure Database}
      {thread other : Nat}
      {signed otherSigned : SignedSpendReceipt},
      chain.Ideal platform →
      chain.Runs lost platform TOKEN_CONTRACT_ADDRESS calls config →
      calls thread = first →
      calls other = again →
      ⟨thread, .note (.receipt signed), ()⟩ ∈ config.history →
      ⟨other, .note (.receipt otherSigned), ()⟩ ∈ config.history →
      signed = otherSigned
  /-- The second does not fail on a receipt that is right for the first. -/
  accepts :
    ∀ {lost : Bool}
      {chain : ReceiptChain}
      {calls : Nat → SpendReceiptRequest}
      {config : Config sparkz Failure Database}
      {other : Nat}
      {hash : TransactionHash}
      {row : SpendReceipt}
      {failure : Failure},
      chain.Ideal platform →
      chain.Runs lost platform TOKEN_CONTRACT_ADDRESS calls config →
      calls other = again →
      ⟨other, .read (.receiptsOfHash hash), .ok [row]⟩ ∈
        config.history →
      first.Intends platform TOKEN_CONTRACT_ADDRESS chain
        row.canonicalPayload →
      config.threads other ≠ some (.fail failure)

/-- The retry `again` of a request `first` is accepted on its operation. -/
structure SpendBody.AcceptsRetry
    (body : SpendBody)
    (first again : AdmittedSpend)
    (existing : TokenOperation) :
    Prop where
  /-- The comparison of the endpoint passes, and the request goes on. -/
  compared :
    ∃ identity,
      body.identity platform (some existing) = .ok identity ∧
        identity.amount = some again.amount ∧
        again =
          body.admitted identity again.amount
            (body.userAddress platform (some existing))
  operationKey :
    spendKey platform again.request = .ok existing.operationKey
  prepared : prepareSpend again.request = some existing.amount
  /-- The intent check of the claim passes. -/
  claimed :
    ∀ spend : ClaimedSpend,
      spend.Executes platform
        { again.request with
          operationKey := some existing.operationKey } →
      assertOperationIntent existing (spend.claim platform) spend.amount
          true =
        .ok ()
  /-- The receipt of a saved transfer is the same. -/
  receipt :
    ∀ hash : TransactionHash,
      (first.receiptRequest existing.amount.value
          (some hash)).SameReceipt platform TOKEN_CONTRACT_ADDRESS
        (again.receiptRequest existing.amount.value (some hash))

/-- The body finds its operation and is accepted on it. -/
def SpendBody.RetryAccepted
    (body : SpendBody)
    (database : Database) :
    Prop :=
  ∃ operationKey existing amountValue again,
    body.requestedOperationKey platform = some operationKey ∧
      database.operation operationKey = some existing ∧
      body.amount.getPositiveAmount = some amountValue ∧
      body.AcceptsRetry platform TOKEN_CONTRACT_ADDRESS
        (body.newSpend platform amountValue) again existing

end Retry

/-! ## The row that a body creates -/

section Creation

variable {platform : Platform}
  {TOKEN_CONTRACT_ADDRESS : String}
  {body : SpendBody}
  {amountValue : JsNumber}
  {spend : ClaimedSpend}
  {existing : TokenOperation}

theorem SpendBody.Claims.uid
    (claims : body.Claims platform amountValue spend) :
    spend.uid = body.normalizedUid :=
  claims.executes.uid

/-- The amount of a claimed spend is the canonical one, and positive. -/
theorem SpendBody.Claims.canonical
    (claims : body.Claims platform amountValue spend) :
    canonicalTokenAmount amountValue = some spend.amount ∧
      0 < spend.amount.units ∧
      platform.getManagedWalletAddress body.normalizedUid ≠ "" := by
  have valid := prepareSpend_eq_some.mp claims.executes.amount
  exact ⟨valid.1, valid.2.1, valid.2.2⟩

/-- A claimed spend carries what its body says. -/
theorem SpendBody.Claims.isRequest
    (claims : body.Claims platform amountValue spend) :
    spend.request =
      { (body.newSpend platform amountValue).request with
        operationKey := some spend.operationKey } :=
  claims.executes.isRequest

/-- What a retry of the body goes on with on its operation. -/
def SpendBody.again
    (platform : Platform)
    (body : SpendBody)
    (amountValue : JsNumber)
    (existing : TokenOperation) :
    AdmittedSpend :=
  body.admitted
    { amount := some amountValue
      sessionId := JsString.orNull body.sessionId.string?
      providerId := JsString.orNull body.providerId.string? }
    amountValue (body.userAddress platform (some existing))

/-- What is read back of an identifier that was stored. -/
def storedIdentifier (identifier : Option JsString) : Option JsString :=
  ((JsString.orNull identifier).map JsString.encoded).map jsString

/-- A text that names something, and that the database stores as it is. -/
def BodyValue.IsIdentifier (value : BodyValue JsString) : Prop :=
  ∀ text, value = .text text → text ≠ [] ∧ text.IsWellFormed

/-- An identifier passes the comparison when it is stored as it is. -/
theorem BodyValue.isIdentifier_iff
    {value : BodyValue JsString} :
    value.IsIdentifier ↔
      (value.string?.isNone ||
        value.string? == storedIdentifier value.string?) = true := by
  cases value with
  | text content =>
      by_cases empty : content = []
      · simp [IsIdentifier, string?, storedIdentifier, JsString.orNull,
          JsString.truthy, empty]
      · have isStored :
            storedIdentifier (some content) =
              some (jsString content.encoded) := by
          rw [storedIdentifier,
            JsString.orNull_eq_some.mpr ⟨rfl, empty⟩]
          rfl
        have isText :
            BodyValue.IsIdentifier (.text content) ↔
              content.IsWellFormed := by
          simp [IsIdentifier, empty]
        rw [isText, JsString.isWellFormed_iff, string?, isStored]
        simp only [Option.isNone_some, Bool.false_or, beq_iff_eq,
          Option.some.injEq]
        exact eq_comm
  | _ =>
      simp [IsIdentifier, string?]

/-- An identifier that passes the comparison is kept. -/
theorem BodyValue.IsIdentifier.stored
    {value : BodyValue JsString}
    (isIdentifier : value.IsIdentifier) :
    storedIdentifier value.string? = JsString.orNull value.string? := by
  cases value with
  | text content =>
      obtain ⟨notEmpty, wellFormed⟩ := isIdentifier content rfl
      simp [string?, storedIdentifier, JsString.orNull, JsString.truthy,
        notEmpty, JsString.isWellFormed_iff.mp wellFormed]
  | _ =>
      rfl

theorem BodyValue.IsIdentifier.wellFormed
    {value : BodyValue JsString}
    (isIdentifier : value.IsIdentifier) :
    ∀ text ∈ JsString.orNull value.string?, text.IsWellFormed := by
  rw [← JsString.map_jsString_encoded_eq_iff]
  exact isIdentifier.stored

/-- The identifiers of a body name something, and are stored as they are. -/
structure SpendBody.IsIdentified (body : SpendBody) : Prop where
  uid : body.normalizedUid.IsWellFormed
  sessionId : body.sessionId.IsIdentifier
  providerId : body.providerId.IsIdentifier

/-- The version of a created operation that a retry finds. -/
structure SpendBody.Found
    (platform : Platform)
    (body : SpendBody)
    (amountValue : JsNumber)
    (spend : ClaimedSpend)
    (existing : TokenOperation) :
    Prop where
  claims : body.Claims platform amountValue spend
  evolves :
    ((spend.claim platform).row spend.amount).Evolves existing

namespace SpendBody.Found

variable
  (found : body.Found platform amountValue spend existing)

include found

theorem sessionId :
    (orNull existing.sessionId).map jsString =
      storedIdentifier body.sessionId.string? := by
  rw [found.evolves.sessionId]
  show
    (orNull
        (orNull
          ((JsString.orNull spend.request.sessionId).map
            JsString.encoded))).map jsString =
      _
  rw [orNull_again, orNull_map_encoded, JsString.orNull_again,
    found.claims.isRequest]
  rfl

theorem providerId :
    (orNull existing.providerId).map jsString =
      storedIdentifier body.providerId.string? := by
  rw [found.evolves.providerId]
  show
    (orNull
        (orNull
          ((JsString.orNull spend.request.providerId).map
            JsString.encoded))).map jsString =
      _
  rw [orNull_again, orNull_map_encoded, JsString.orNull_again,
    found.claims.isRequest]
  rfl

theorem uid : existing.uid = body.normalizedUid.encoded :=
  found.evolves.uid.trans (congrArg JsString.encoded found.claims.uid)

theorem walletAddress :
    existing.walletAddress =
      platform.getManagedWalletAddress body.normalizedUid := by
  rw [found.evolves.walletAddress]
  show spend.request.userAddress = _
  rw [found.claims.isRequest]
  rfl

theorem amount : existing.amount = spend.amount :=
  found.evolves.amount

theorem operationKey : existing.operationKey = spend.operationKey :=
  found.evolves.operationKey

theorem requestFingerprint :
    existing.requestFingerprint =
      spendIntentFingerprint platform.digests body.normalizedUid
        (platform.getManagedWalletAddress body.normalizedUid)
        spend.sentAmount body.sessionId.string? body.providerId.string?
        none := by
  rw [found.evolves.requestFingerprint, ← found.claims.uid]
  show
    spendIntentFingerprint platform.digests spend.uid
        spend.request.userAddress spend.sentAmount
        spend.request.sessionId spend.request.providerId
        spend.request.reservationId =
      _
  rw [found.claims.isRequest, found.claims.uid]
  rfl

/-- The wallet of the retry is the one the operation was created for. -/
theorem userAddress :
    body.userAddress platform (some existing) =
      platform.getManagedWalletAddress body.normalizedUid := by
  unfold SpendBody.userAddress
  rw [Option.map_some, found.walletAddress]
  generalize platform.getManagedWalletAddress body.normalizedUid = wallet
  by_cases empty : wallet = ""
  · simp [orText, orNull, truthy, empty]
  · simp [orText, orNull, truthy, empty]

theorem requested :
    body.requestedOperationKey platform = some existing.operationKey := by
  rw [found.operationKey]
  exact
    SpendBody.requestedOperationKey_of_spendKey
      found.claims.operationKey

/-- The idempotency key of the body names the operation. -/
theorem idempotencyKey :
    (body.encodedIdempotencyKey.all fun idempotencyKey =>
      some
          (spendOperationKey platform.digests body.normalizedUid.encoded
            idempotencyKey) ==
        body.requestedOperationKey platform) =
      true := by
  unfold SpendBody.requestedOperationKey
  rw [found.claims.isNew]
  cases body.encodedIdempotencyKey with
  | none =>
      rfl
  | some idempotencyKey =>
      simp

/-- What the retry goes on with when the comparison passes. -/
theorem compareStoredIntent :
    body.compareStoredIntent platform existing =
      (do
        SpendBody.compare
          (jsString body.normalizedUid.encoded == body.normalizedUid)
          "TOKEN_OPERATION_INTENT_MISMATCH"
          "operationKey belongs to a different contract identity"
        SpendBody.compare
          (body.sessionId.string?.isNone ||
            body.sessionId.string? ==
              storedIdentifier body.sessionId.string?)
          "TOKEN_OPERATION_INTENT_MISMATCH"
          "sessionId differs from the original manual spend operation"
        SpendBody.compare
          (body.providerId.string?.isNone ||
            body.providerId.string? ==
              storedIdentifier body.providerId.string?)
          "TOKEN_OPERATION_INTENT_MISMATCH"
          "providerId differs from the original manual spend operation"
        return {
          amount := some amountValue
          sessionId := storedIdentifier body.sessionId.string?
          providerId := storedIdentifier body.providerId.string? }) := by
  obtain ⟨canonical, positive, _⟩ := found.claims.canonical
  have isSpend : (existing.operationType == .spend) = true := by
    rw [found.evolves.operationType]
    rfl
  have isAmount :
      body.compareStoredAmount existing = .ok amountValue := by
    unfold SpendBody.compareStoredAmount
    rw [if_neg, found.claims.amount]
    · dsimp only
      rw [if_pos (canonical.trans (congrArg some found.amount.symm))]
    · intro absent
      have impossible := found.claims.amount
      rw [absent] at impossible
      cases impossible
  unfold SpendBody.compareStoredIntent
  rw [isSpend, found.uid, found.amount, isAmount, found.sessionId,
    found.providerId, found.idempotencyKey]
  simp only [SpendBody.compare, positive, decide_true, if_true]
  rfl

/-- The comparison passes exactly for what is stored as it is. -/
theorem identity_eq_ok
    {identity : SpendIdentity} :
    body.identity platform (some existing) = .ok identity ↔
      body.IsIdentified ∧
        identity =
          { amount := some amountValue
            sessionId := JsString.orNull body.sessionId.string?
            providerId := JsString.orNull body.providerId.string? } := by
  have isIdentified :
      body.IsIdentified ↔
        (jsString body.normalizedUid.encoded == body.normalizedUid) =
            true ∧
          body.sessionId.IsIdentifier ∧
          body.providerId.IsIdentifier := by
    rw [beq_iff_eq, ← JsString.isWellFormed_iff]
    exact
      ⟨fun ⟨uid, sessionId, providerId⟩ => ⟨uid, sessionId, providerId⟩,
        fun ⟨uid, sessionId, providerId⟩ => ⟨uid, sessionId, providerId⟩⟩
  show body.compareStoredIntent platform existing = .ok identity ↔ _
  rw [found.compareStoredIntent, isIdentified]
  by_cases isUid :
      (jsString body.normalizedUid.encoded == body.normalizedUid) = true
  · by_cases isSession : body.sessionId.IsIdentifier
    · by_cases isProvider : body.providerId.IsIdentifier
      · rw [isUid, BodyValue.isIdentifier_iff.mp isSession,
          BodyValue.isIdentifier_iff.mp isProvider, isSession.stored,
          isProvider.stored]
        constructor
        · rintro ⟨⟩
          exact ⟨⟨rfl, isSession, isProvider⟩, rfl⟩
        · rintro ⟨_, rfl⟩
          rfl
      · have refused :=
          Bool.eq_false_iff.mpr (BodyValue.isIdentifier_iff.not.mp isProvider)
        rw [isUid, BodyValue.isIdentifier_iff.mp isSession, refused]
        constructor
        · rintro ⟨⟩
        · rintro ⟨⟨_, _, impossible⟩, _⟩
          exact absurd impossible isProvider
    · have refused :=
        Bool.eq_false_iff.mpr (BodyValue.isIdentifier_iff.not.mp isSession)
      rw [isUid, refused]
      constructor
      · rintro ⟨⟩
      · rintro ⟨⟨_, impossible, _⟩, _⟩
        exact absurd impossible isSession
  · rw [Bool.eq_false_iff.mpr isUid]
    constructor
    · rintro ⟨⟩
    · rintro ⟨⟨⟨⟩, _⟩, _⟩

/-- The request that the retry goes on with. -/
theorem again_request :
    (body.again platform amountValue existing).request =
      { (body.newSpend platform amountValue).request with
        sessionId := JsString.orNull body.sessionId.string?
        providerId := JsString.orNull body.providerId.string? } := by
  unfold SpendBody.again
  rw [found.userAddress]
  rfl

/-- The amount and wallet of the retry are those of the operation. -/
theorem prepared :
    prepareSpend (body.again platform amountValue existing).request =
      some existing.amount := by
  rw [found.again_request, found.amount]
  exact prepareSpend_eq_some.mpr found.claims.canonical

theorem operationKey_again :
    spendKey platform (body.again platform amountValue existing).request =
      .ok existing.operationKey := by
  rw [found.again_request, found.operationKey]
  exact found.claims.operationKey

/-- The claim of the retry has the intent of the operation. -/
theorem claimed
    (wellFormed : body.normalizedUid.IsWellFormed)
    {again : ClaimedSpend}
    (executes :
      again.Executes platform
        { (body.again platform amountValue existing).request with
          operationKey := some existing.operationKey }) :
    assertOperationIntent existing (again.claim platform) again.amount
        true =
      .ok () := by
  have isAmount : again.amount = existing.amount :=
    Option.some.inj (executes.amount.symm.trans found.prepared)
  have isRequest := executes.isRequest
  have isUid : again.uid = body.normalizedUid :=
    executes.uid.trans (by rw [found.again_request]; rfl)
  rw [found.again_request] at isRequest
  have isSpend : existing.operationType = .spend :=
    found.evolves.operationType
  have sameFingerprint :
      (again.claim platform).requestFingerprint =
        existing.requestFingerprint := by
    rw [found.requestFingerprint]
    show
      spendIntentFingerprint platform.digests again.uid
          again.request.userAddress again.sentAmount
          again.request.sessionId again.request.providerId
          again.request.reservationId =
        _
    have sameSent : again.sentAmount = spend.sentAmount := by
      rw [ClaimedSpend.sentAmount, ClaimedSpend.sentAmount, isAmount,
        found.amount]
    rw [isRequest, isUid, sameSent]
    simp only [spendIntentFingerprint, JsString.orNull_again]
    rfl
  have sameWallet :
      (again.claim platform).walletAddress = existing.walletAddress := by
    rw [found.walletAddress]
    show again.request.userAddress = _
    rw [isRequest]
    rfl
  have sameUid : (again.claim platform).uid = jsString existing.uid := by
    rw [found.uid, JsString.isWellFormed_iff.mp wellFormed]
    exact isUid
  unfold assertOperationIntent
  rw [if_neg, if_neg]
  · rw [sameFingerprint, sameWallet, sameUid, isAmount, isSpend]
    simp [ClaimedSpend.claim]
  · rw [isSpend]
    simp

/-- Both requests for the receipt intend the same payloads. -/
theorem intends_again
    {chain : ReceiptChain}
    {hash : TransactionHash}
    {payload : SpendReceiptPayload}
    (intends :
      ((body.newSpend platform amountValue).receiptRequest
          existing.amount.value (some hash)).Intends platform
        TOKEN_CONTRACT_ADDRESS chain payload) :
    ((body.again platform amountValue existing).receiptRequest
        existing.amount.value (some hash)).Intends platform
      TOKEN_CONTRACT_ADDRESS chain payload where
  owner := intends.owner
  wallet := by
    show
      platform.getAddress (body.userAddress platform (some existing)) =
        _
    rw [found.userAddress]
    exact intends.wallet
  amount := intends.amount
  session := by
    show
      payload.sessionId =
        JsString.orNull (JsString.orNull body.sessionId.string?)
    rw [JsString.orNull_again]
    exact intends.session
  provider := by
    show
      payload.providerId =
        JsString.orNull (JsString.orNull body.providerId.string?)
    rw [JsString.orNull_again]
    exact intends.provider
  hash := intends.hash
  chainId := intends.chainId
  token := intends.token

/-- The receipt of the operation is the same for both requests. -/
theorem sameReceipt
    (identified : body.IsIdentified)
    (hash : TransactionHash) :
    ((body.newSpend platform amountValue).receiptRequest
        existing.amount.value (some hash)).SameReceipt platform
      TOKEN_CONTRACT_ADDRESS
      ((body.again platform amountValue existing).receiptRequest
        existing.amount.value (some hash)) where
  same := by
    intro lost chain calls config thread other signed otherSigned ideal
      reached isFirst isAgain noted otherNoted
    refine returned_same ideal reached noted otherNoted ?_
    rw [isFirst, isAgain]
    rfl
  accepts := by
    intro lost chain calls config other hash row failure ideal reached
      isAgain wasRead intends
    refine notFailed_of_intended ideal reached wasRead ?_ ?_ ?_
    · rw [isAgain]
      exact ⟨JsString.orNull_again _, JsString.orNull_again _⟩
    · rw [isAgain]
      exact
        { uid := identified.uid
          sessionId := identified.sessionId.wellFormed
          providerId := identified.providerId.wellFormed }
    · rw [isAgain]
      exact found.intends_again intends

/-- With identifiers that are stored as they are, the retry is accepted. -/
theorem acceptsRetry (identified : body.IsIdentified) :
    body.AcceptsRetry platform TOKEN_CONTRACT_ADDRESS
      (body.newSpend platform amountValue)
      (body.again platform amountValue existing) existing where
  compared :=
    ⟨_, found.identity_eq_ok.mpr ⟨identified, rfl⟩, rfl, rfl⟩
  operationKey := found.operationKey_again
  prepared := found.prepared
  claimed := fun _ executes => found.claimed identified.uid executes
  receipt := found.sameReceipt identified

/-- The body is accepted again exactly when its identifiers are stored. -/
theorem retryAccepted_iff
    {database : Database}
    (isStored :
      database.operation existing.operationKey = some existing) :
    body.RetryAccepted platform TOKEN_CONTRACT_ADDRESS database ↔
      body.IsIdentified := by
  constructor
  · rintro ⟨operationKey, other, _, again, requested, isOther, _, accepted⟩
    have sameKey := found.requested.symm.trans requested
    cases sameKey
    have sameRow := isStored.symm.trans isOther
    cases sameRow
    obtain ⟨identity, passed, _⟩ := accepted.compared
    exact (found.identity_eq_ok.mp passed).1
  · intro identified
    exact
      ⟨existing.operationKey, existing, amountValue, _,
        found.requested, isStored, found.claims.amount,
        found.acceptsRetry identified⟩

end SpendBody.Found

end Creation

/-! ## Runs -/

section Run

variable {lost : Bool}
  {meets : Config sparkz Failure Database → Entry sparkz → Prop}
  {shared : Database}
  {calls : Nat → Call Unit}
  {before config : Config sparkz Failure Database}
  {platform : Platform}
  {signer : TreasurySigner}
  {TOKEN_CONTRACT_ADDRESS : String}
  {body : SpendBody}
  {thread : Nat}

/-- What a running `POST /spend` inserts is permitted by its own past. -/
theorem SpendBody.permitted_of_running
    (isPost :
      calls thread =
        StoreCall.discard
          (body.post platform signer TOKEN_CONTRACT_ADDRESS))
    (reached :
      ReachableWhen (semantics lost) meets (.initial shared calls)
        config)
    {op : Op}
    {rest : op.Answer → Call Unit}
    (running : config.threads thread = some (.perform op rest)) :
    body.protocol platform (ownPast thread config.history) op := by
  have conforming :
      ∀ owner,
        (calls owner).Obeys
          (fun past op =>
            owner = thread → body.protocol platform past op) []
          fun _ _ => True := by
    intro owner
    by_cases own : owner = thread
    · subst own
      rw [isPost]
      refine
        ((StoreCall.discard_obeys _ SpendBody.post_obeys).embed
          fun _ _ _ permitted _ => permitted).weaken
          fun _ _ _ => trivial
    · exact
        Program.obeys_anything _ fun _ _ isThread =>
          absurd isThread own
  have permitted := reached.permitted conforming running
  exact permitted rfl

/-- A row with a new key is found under its key. -/
theorem Database.operation_appended
    {database : Database}
    {row : TokenOperation}
    (newKey :
      ∀ other ∈ database.operations,
        other.operationKey ≠ row.operationKey) :
    Database.operation
        { database with operations := database.operations ++ [row] }
        row.operationKey =
      some row := by
  have notBefore :
      database.operations.find? (·.operationKey == row.operationKey) =
        none := by
    rw [List.find?_eq_none]
    intro other member
    simpa using newKey other member
  unfold Database.operation
  rw [List.find?_append, notBefore]
  simp

/-- The operation that a body has created is there, and is what it says. -/
theorem SpendBody.created_stays
    (isPost :
      calls thread =
        StoreCall.discard
          (body.post platform signer TOKEN_CONTRACT_ADDRESS))
    (reached :
      ReachableWhen (semantics lost) meets (.initial shared calls)
        config)
    {row result : TokenOperation}
    (created :
      ⟨thread, .write (.insertOperation row), .ok result⟩ ∈
        config.history) :
    body.Creates platform row ∧
      ∃ current,
        config.shared.operation row.operationKey = some current ∧
          row.Evolves current := by
  refine
    reached.invariant
      (fun shared history =>
        ⟨thread, .write (.insertOperation row), .ok result⟩ ∈ history →
        body.Creates platform row ∧
          ∃ current,
            shared.operation row.operationKey = some current ∧
              row.Evolves current)
      (fun member => absurd member List.not_mem_nil)
      (fun _ => id) ?_ created
  intro middle owner op rest choice answer next reachedMiddle running
    answered _ stays member
  have effect := respond_effect answered
  rcases List.mem_cons.mp member with newest | older
  · cases newest
    have permitted :=
      SpendBody.permitted_of_running isPost reachedMiddle running
    cases effect with
    | quiet locks notTables =>
        cases notTables
    | committed locks applied =>
        obtain ⟨inserted, isInserted, isPair⟩ :=
          Except.map_eq_ok applied
        cases isPair
        obtain ⟨isNext, newKey, _⟩ :=
          Database.insertOperation_eq_ok isInserted
        rcases permitted with creates | ⟨existing, wasRead⟩
        · refine ⟨creates, row, ?_, .refl row⟩
          rw [isNext]
          exact Database.operation_appended newKey
        · obtain ⟨current, isCurrent, _⟩ :=
            readRow_stays reachedMiddle wasRead
          obtain ⟨isMember, sameKey⟩ :=
            Database.operation_eq_some isCurrent
          exact absurd sameKey (newKey current isMember)
  · obtain ⟨creates, isThere⟩ := stays older
    exact ⟨creates, effect.operation_stays isThere⟩

/-- The operation that a body has created, at any later time. -/
theorem SpendBody.found_of_created
    (isPost :
      calls thread =
        StoreCall.discard
          (body.post platform signer TOKEN_CONTRACT_ADDRESS))
    (reached :
      ReachableWhen (semantics lost) meets (.initial shared calls)
        before)
    {row result : TokenOperation}
    (created :
      ⟨thread, .write (.insertOperation row), .ok result⟩ ∈
        before.history)
    (continued : ReachableWhen (semantics lost) meets before config) :
    ∃ amountValue spend existing,
      body.Found platform amountValue spend existing ∧
        config.shared.operation existing.operationKey =
          some existing := by
  obtain ⟨⟨amountValue, spend, claims, rfl⟩, current, isCurrent, evolves⟩ :=
    SpendBody.created_stays isPost reached created
  obtain ⟨later, isLater, evolvesLater⟩ :=
    operation_stays continued isCurrent
  refine
    ⟨amountValue, spend, later,
      ⟨claims, evolves.trans evolvesLater⟩, ?_⟩
  rw [(Database.operation_eq_some isLater).2]
  exact isLater

/--
Whatever has happened since a manual spend has created its operation, the
same body is accepted on it exactly when it names no empty session or
provider, and the database stores its identifiers as they are.
-/
theorem exactRetry_isAccepted_iff
    (isPost :
      calls thread =
        StoreCall.discard
          (body.post platform signer TOKEN_CONTRACT_ADDRESS))
    (reached :
      ReachableWhen (semantics lost) meets (.initial shared calls)
        before)
    {row result : TokenOperation}
    (created :
      ⟨thread, .write (.insertOperation row), .ok result⟩ ∈
        before.history)
    (continued : ReachableWhen (semantics lost) meets before config) :
    body.RetryAccepted platform TOKEN_CONTRACT_ADDRESS config.shared ↔
      body.IsIdentified := by
  obtain ⟨amountValue, spend, existing, found, isStored⟩ :=
    SpendBody.found_of_created isPost reached created continued
  exact found.retryAccepted_iff isStored

end Run

/-! ## A spend of five tokens -/

/-- A body that names a session, and no provider. -/
def sessionSpend (sessionId : JsString) : SpendBody where
  uid := .text (jsString "alice")
  amount := .text (jsString "5.00")
  idempotencyKey := .text (jsString "first")
  operationKey := .absent
  sessionId := .text sessionId
  providerId := .absent

theorem sessionSpend_uid (sessionId : JsString) :
    (sessionSpend sessionId).normalizedUid.IsWellFormed := by
  show (normalizeUid (jsString "alice")).IsWellFormed
  decide +kernel

/-- Its call, from a wallet whose balance covers it. -/
def sessionCall (sessionId : JsString) : Call Unit :=
  StoreCall.discard
    ((sessionSpend sessionId).post Platform.sample ⟨true⟩ "0xtoken")

/-- The chain and the services as the call needs them. -/
def coveredChoice : Choice where
  fault := .none
  chain := fun request =>
    match request with
    | .network => .ok 80002
    | .signerAddress => .ok "0xsigner"
    | .balanceOf _ _ => .ok (10 * 10 ^ 18)
    | _ => .error ⟨"", false, false⟩
  service := fun request =>
    match request with
    | .environment => ⟨some "0xtreasury", none, none⟩
    | .walletConfig uid => .ok ⟨uid.encoded, .managed⟩
    | request => Choice.databaseOnly.service request

/-- The run up to the insertion of the operation. -/
def sessionRun (sessionId : JsString) :
    Option (Config sparkz Failure Database) :=
  (Config.initial Database.empty fun _ => sessionCall sessionId).run?
    (semantics true) (fun _ _ => true) (List.replicate 17 (0, coveredChoice))

/-- Whether an entry is the insertion of an operation. -/
def isCreation : Entry sparkz → Bool
  | ⟨0, .write (.insertOperation _), .ok _⟩ => true
  | _ => false

/-- A run that has a creation is a run of the call, with its operation. -/
theorem created_of_run
    {sessionId : JsString}
    {config : Config sparkz Failure Database}
    (isRun : sessionRun sessionId = some config)
    (isCreated : config.history.any isCreation = true) :
    ReachableWhen (semantics true) (fun _ _ => True)
        (.initial .empty fun _ => sessionCall sessionId) config ∧
      ∃ row result,
        ⟨0, .write (.insertOperation row), .ok result⟩ ∈
          config.history := by
  constructor
  · exact Config.run?_sound (fun _ _ _ => trivial) .start isRun
  · obtain ⟨entry, member, isEntry⟩ := List.any_eq_true.mp isCreated
    unfold isCreation at isEntry
    split at isEntry
    · exact ⟨_, _, member⟩
    · cases isEntry

/-- A body that names its session is accepted again. -/
theorem namedSession_isAccepted :
    ∃ config,
      sessionRun (jsString "session") = some config ∧
        (sessionSpend (jsString "session")).RetryAccepted Platform.sample
          "0xtoken" config.shared := by
  have hasRun :
      ((sessionRun (jsString "session")).map fun config =>
        config.history.any isCreation) = some true := by
    decide +kernel
  obtain ⟨config, isRun, isCreated⟩ := Option.map_eq_some_iff.mp hasRun
  obtain ⟨reached, row, result, created⟩ :=
    created_of_run isRun isCreated
  refine
    ⟨config, isRun,
      (exactRetry_isAccepted_iff rfl reached created .start).mpr ?_⟩
  exact
    { uid := sessionSpend_uid _
      sessionId := by
        rintro text ⟨⟩
        exact ⟨by decide, isWellFormed_jsString "session"⟩
      providerId := by
        rintro text ⟨⟩ }

/-- The endpoint answers that the session of a body is another one. -/
def SpendBody.findsMismatch
    (body : SpendBody)
    (database : Database) :
    Prop :=
  ∃ existing,
    database.operation existing.operationKey = some existing ∧
      body.identity Platform.sample (some existing) =
        .error
          (.invalid "TOKEN_OPERATION_INTENT_MISMATCH"
            "sessionId differs from the original manual spend operation")

/-- In some run a body creates its operation, and is then refused. -/
def CreatesAndIsRefused (sessionId : JsString) : Prop :=
  ∃ config row result,
    ReachableWhen (semantics true) (fun _ _ => True)
        (.initial .empty fun _ => sessionCall sessionId) config ∧
      ⟨0, .write (.insertOperation row), .ok result⟩ ∈
        config.history ∧
      (sessionSpend sessionId).findsMismatch config.shared ∧
      ¬ (sessionSpend sessionId).RetryAccepted Platform.sample
        "0xtoken" config.shared

theorem createsAndIsRefused
    {sessionId : JsString}
    (hasRun :
      ((sessionRun sessionId).map fun config =>
        config.history.any isCreation) = some true)
    (notKept :
      (some sessionId == storedIdentifier (some sessionId)) = false) :
    CreatesAndIsRefused sessionId := by
  obtain ⟨config, isRun, isCreated⟩ := Option.map_eq_some_iff.mp hasRun
  obtain ⟨reached, row, result, created⟩ :=
    created_of_run isRun isCreated
  have isPost :
      sessionCall sessionId =
        StoreCall.discard
          ((sessionSpend sessionId).post Platform.sample ⟨true⟩
            "0xtoken") :=
    rfl
  obtain ⟨amountValue, spend, existing, found, isStored⟩ :=
    SpendBody.found_of_created isPost reached created .start
  refine ⟨config, row, result, reached, created, ?_, ?_⟩
  · refine ⟨existing, isStored, found.compareStoredIntent.trans ?_⟩
    have isUid :
        (jsString (sessionSpend sessionId).normalizedUid.encoded ==
          (sessionSpend sessionId).normalizedUid) = true :=
      beq_iff_eq.mpr (JsString.isWellFormed_iff.mp (sessionSpend_uid _))
    have isSession :
        ((sessionSpend sessionId).sessionId.string?.isNone ||
          (sessionSpend sessionId).sessionId.string? ==
            storedIdentifier
              (sessionSpend sessionId).sessionId.string?) = false :=
      notKept
    rw [isUid, isSession]
    rfl
  · rw [found.retryAccepted_iff isStored]
    intro identified
    have isIdentifier := BodyValue.isIdentifier_iff.mp identified.sessionId
    exact absurd (isIdentifier.symm.trans notKept) (by decide)

/-- An empty session is not kept, and neither is an unpaired surrogate. -/
theorem unkeptSession_isRefused :
    CreatesAndIsRefused [] ∧ CreatesAndIsRefused [0xd800] :=
  ⟨createsAndIsRefused (by decide +kernel) (by decide +kernel),
    createsAndIsRefused (by decide +kernel) (by decide +kernel)⟩

end Sparkz
