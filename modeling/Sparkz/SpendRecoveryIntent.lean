import Sparkz.SpendFootprint

namespace Sparkz

/-!
# The two intent checks of a spend retry

A retry is compared with the saved row in one of two places: by the claim, when
the asset context could be read, and by `spendRecoveryIntentMismatch` when it
could not.  The second check lets the row speak for what the retry omits.  Both
read what the row has kept, so the identifiers of its creation are taken to be
without unpaired surrogates, which the columns do not keep.
-/

/-! ## Intents -/

/-- The financial intent of a request, with its canonical amount read again. -/
def SpendOperationRequest.intent
    (request : SpendOperationRequest)
    (amount : TokenAmount) :
    SpendIntent where
  uid := request.uid.getD []
  walletAddress := lowerText request.userAddress
  amount := amount.reread.getD amount
  sessionId := JsString.orNull request.sessionId
  providerId := JsString.orNull request.providerId
  reservationId := JsString.orNull request.reservationId

/-- The financial intent that a row has saved. -/
def TokenOperation.savedIntent (row : TokenOperation) : SpendIntent where
  uid := jsString row.uid
  walletAddress := lowerText row.walletAddress
  amount := row.amount.reread.getD row.amount
  sessionId := (orNull row.sessionId).map jsString
  providerId := (orNull row.providerId).map jsString
  reservationId := (orNull row.reservationId).map jsString

/-- The request, with what it omits taken from a saved row. -/
def SpendOperationRequest.completedBy
    (request : SpendOperationRequest)
    (row : TokenOperation) :
    SpendOperationRequest :=
  { request with
    userAddress := orText (some request.userAddress) row.walletAddress
    sessionId := request.sessionId.or (row.sessionId.map jsString)
    providerId := request.providerId.or (row.providerId.map jsString)
    reservationId :=
      request.reservationId.or (row.reservationId.map jsString) }

/-- The identifiers of a request have no unpaired surrogates. -/
structure SpendOperationRequest.WellFormed
    (request : SpendOperationRequest) :
    Prop where
  uid : (request.uid.getD []).IsWellFormed
  sessionId : ∀ text ∈ request.sessionId, text.IsWellFormed
  providerId : ∀ text ∈ request.providerId, text.IsWellFormed
  reservationId : ∀ text ∈ request.reservationId, text.IsWellFormed

/-- A request leaves out something that the row has saved. -/
def SpendOperationRequest.OmitsSaved
    (request : SpendOperationRequest)
    (row : TokenOperation) :
    Prop :=
  request.userAddress = "" ∨
    (request.sessionId = none ∧ row.sessionId ≠ none) ∨
    (request.providerId = none ∧ row.providerId ≠ none) ∨
    (request.reservationId = none ∧ row.reservationId ≠ none)

/-- The claim that `processSpend` makes for a request accepts a stored row. -/
def SpendOperationRequest.ClaimAccepts
    (platform : Platform)
    (request : SpendOperationRequest)
    (row : TokenOperation) :
    Prop :=
  ∃ spend : ClaimedSpend,
    spend.Executes platform request ∧
      assertOperationIntent row (spend.claim platform) spend.amount
          ((spend.claim platform).operationType != .award) =
        .ok ()

/-- The fingerprint of an intent is not that of others compared with it. -/
def Digests.Distinguishes
    (digests : Digests)
    (saved : SpendIntent)
    (others : List SpendIntent) :
    Prop :=
  ∀ other ∈ others,
    digests.tokenIntentFingerprint (.spend other) =
      digests.tokenIntentFingerprint (.spend saved) →
    other = saved

/-- What a row keeps of the spend request that created it. -/
structure TokenOperation.IsSavedSpend
    (digests : Digests)
    (row : TokenOperation) :
    Prop where
  isSpend : row.operationType = .spend
  fingerprint :
    row.requestFingerprint =
      digests.tokenIntentFingerprint (.spend row.savedIntent)
  hasWallet : row.walletAddress ≠ ""
  positive : 0 < row.amount.units
  sessionId : orNull row.sessionId = row.sessionId
  providerId : orNull row.providerId = row.providerId
  reservationId : orNull row.reservationId = row.reservationId

section Checks

variable {platform : Platform} {row inserted : TokenOperation}
  {creation retry : SpendOperationRequest} {amount : TokenAmount}

/-- What is saved of an identifier without unpaired surrogates. -/
theorem orNull_saved
    {requested : Option JsString}
    (wellFormed : ∀ text ∈ requested, text.IsWellFormed) :
    ((JsString.orNull requested).map JsString.encoded).map jsString =
      JsString.orNull requested := by
  rw [← orNull_map_encoded, ← JsString.orNull_map_jsString,
    JsString.map_jsString_encoded_eq_iff.mpr wellFormed]

/-- A row that a spend has created keeps the intent of that spend. -/
theorem isSavedSpend_of_created
    (wellFormed : creation.WellFormed)
    (created : creation.Inserts platform inserted)
    (evolved : inserted.Evolves row) :
    row.IsSavedSpend platform.digests := by
  obtain ⟨spend, executes, rfl⟩ := created
  obtain ⟨_, positive, hasWallet⟩ :=
    prepareSpend_eq_some.mp executes.amount
  have isWallet : spend.request.userAddress = creation.userAddress := by
    rw [executes.isRequest]
  have isSaved :
      ∀ requested : Option JsString,
        orNull ((JsString.orNull requested).map JsString.encoded) =
          (JsString.orNull requested).map JsString.encoded := by
    intro requested
    rw [orNull_map_encoded, JsString.orNull_again]
  have savedUid : jsString row.uid = spend.uid := by
    rw [evolved.uid, executes.uid]
    show jsString spend.uid.encoded = _
    rw [executes.uid]
    exact JsString.isWellFormed_iff.mp wellFormed.uid
  have savedSession :
      row.sessionId =
        (JsString.orNull spend.request.sessionId).map
          JsString.encoded :=
    evolved.sessionId.trans (isSaved _)
  have savedProvider :
      row.providerId =
        (JsString.orNull spend.request.providerId).map
          JsString.encoded :=
    evolved.providerId.trans (isSaved _)
  have savedReservation :
      row.reservationId =
        (JsString.orNull spend.request.reservationId).map
          JsString.encoded :=
    evolved.reservationId.trans (isSaved _)
  have ownSession :
      ∀ text ∈ spend.request.sessionId, text.IsWellFormed := by
    rw [executes.isRequest]
    exact wellFormed.sessionId
  have ownProvider :
      ∀ text ∈ spend.request.providerId, text.IsWellFormed := by
    rw [executes.isRequest]
    exact wellFormed.providerId
  have ownReservation :
      ∀ text ∈ spend.request.reservationId, text.IsWellFormed := by
    rw [executes.isRequest]
    exact wellFormed.reservationId
  exact
    { isSpend := evolved.operationType
      fingerprint := by
        rw [evolved.requestFingerprint]
        simp only [TokenOperation.savedIntent, savedUid,
          evolved.walletAddress, evolved.amount, savedSession,
          savedProvider, savedReservation, isSaved,
          orNull_saved ownSession, orNull_saved ownProvider,
          orNull_saved ownReservation]
        rfl
      hasWallet := by
        rw [evolved.walletAddress]
        show spend.request.userAddress ≠ ""
        rw [isWallet]
        exact hasWallet
      positive := by
        rw [evolved.amount]
        exact positive
      sessionId := by rw [savedSession, isSaved]
      providerId := by rw [savedProvider, isSaved]
      reservationId := by rw [savedReservation, isSaved] }

/-- The claim accepts exactly the requests with the saved intent. -/
theorem claimAccepts_iff
    {operationKey : String}
    (saved : row.IsSavedSpend platform.digests)
    (isKey : spendKey platform retry = .ok operationKey)
    (noCollision :
      ∀ amount,
        canonicalTokenAmount retry.amount = some amount →
        platform.digests.tokenIntentFingerprint
            (.spend (retry.intent amount)) =
          platform.digests.tokenIntentFingerprint
            (.spend row.savedIntent) →
        retry.intent amount = row.savedIntent) :
    retry.ClaimAccepts platform row ↔
      prepareSpend retry = some row.amount ∧
        retry.intent row.amount = row.savedIntent := by
  have notAward : row.operationType ≠ .award := by
    rw [saved.isSpend]
    decide
  constructor
  · rintro ⟨spend, executes, accepted⟩
    have isCanonical := (prepareSpend_eq_some.mp executes.amount).1
    have isFingerprint :
        (spend.claim platform).requestFingerprint =
          platform.digests.tokenIntentFingerprint
            (.spend (retry.intent spend.amount)) := by
      simp only [ClaimedSpend.claim, spendIntentFingerprint,
        executes.isRequest, executes.uid]
      rfl
    unfold assertOperationIntent at accepted
    split at accepted
    · cases accepted
    · split at accepted
      · cases accepted
      · rename_i intact
        push Not at intact
        have sameAmount : row.amount = spend.amount :=
          intact.2.2.2.2 (by rfl)
        rw [sameAmount]
        refine ⟨executes.amount, ?_⟩
        apply noCollision spend.amount isCanonical
        rw [← isFingerprint, ← intact.2.1]
        exact saved.fingerprint
  · rintro ⟨prepared, sameIntent⟩
    let spend : ClaimedSpend :=
      { request := { retry with operationKey := some operationKey }
        operationKey := operationKey
        uid := retry.uid.getD []
        amount := row.amount
        signer := ⟨true⟩
        treasuryAddress := ""
        assetContext := ⟨"", "", none, ""⟩ }
    refine ⟨spend, ⟨prepared, isKey, rfl, rfl⟩, ?_⟩
    have sameFingerprint :
        row.requestFingerprint =
          (spend.claim platform).requestFingerprint := by
      rw [saved.fingerprint, ← sameIntent]
      rfl
    have sameUid : jsString row.uid = (spend.claim platform).uid :=
      (congrArg SpendIntent.uid sameIntent).symm
    have sameWallet :
        lowerText row.walletAddress =
          lowerText (spend.claim platform).walletAddress :=
      (congrArg SpendIntent.walletAddress sameIntent).symm
    have sameAmount : row.amount = spend.amount := rfl
    have sameType :
        row.operationType = (spend.claim platform).operationType :=
      saved.isSpend
    unfold assertOperationIntent
    rw [if_neg fun award => notAward award.1, if_neg]
    rintro (other | other | other | other | ⟨_, other⟩)
    · exact other sameType
    · exact other sameFingerprint
    · exact other sameUid
    · exact other sameWallet
    · exact other sameAmount

/-- A check in front of others is passed when it does not refuse. -/
theorem refuses_eq_none
    {condition : Prop}
    [Decidable condition]
    {message : String}
    {rest : Option String} :
    (if condition then some message else rest) = none ↔
      ¬ condition ∧ rest = none := by
  by_cases refused : condition <;> simp [refused]

/-- What is chosen between a request and a row is what completes it. -/
theorem orNull_chosen
    (requested : Option JsString)
    (saved : Option String) :
    JsString.orNull
        (if requested.isNone then (orNull saved).map jsString
          else requested) =
      JsString.orNull (requested.or (saved.map jsString)) := by
  cases requested with
  | none =>
      show
        JsString.orNull ((orNull saved).map jsString) =
          JsString.orNull (saved.map jsString)
      rw [JsString.orNull_map_jsString, JsString.orNull_map_jsString,
        orNull_again]
  | some text =>
      rfl

/-- A field that is completed to the saved one does not contradict it. -/
theorem not_contradicts
    {requested : Option JsString}
    {saved : Option String}
    (completed :
      JsString.orNull (requested.or (saved.map jsString)) =
        (orNull saved).map jsString) :
    ¬ (requested.isSome &&
        (orNull saved).map jsString != JsString.orNull requested) =
      true := by
  rw [Bool.and_eq_true, bne_iff_ne]
  rintro ⟨isNamed, differs⟩
  obtain ⟨text, rfl⟩ := Option.isSome_iff_exists.mp isNamed
  exact differs completed.symm

/-- A completed request names a wallet when the row does. -/
theorem completedBy_wallet
    (hasWallet : row.walletAddress ≠ "") :
    (retry.completedBy row).userAddress ≠ "" ∧
      (lowerText (retry.completedBy row).userAddress =
          lowerText row.walletAddress ↔
        ¬ (¬ row.walletAddress = "" ∧ ¬ retry.userAddress = "" ∧
          ¬ lowerText row.walletAddress =
            lowerText retry.userAddress)) := by
  by_cases omitted : retry.userAddress = ""
  · have isSaved :
        (retry.completedBy row).userAddress = row.walletAddress := by
      simp [SpendOperationRequest.completedBy, omitted, orText, orNull,
        truthy]
    rw [isSaved]
    exact ⟨hasWallet, by simp [omitted]⟩
  · have isOwn :
        (retry.completedBy row).userAddress = retry.userAddress := by
      simp [SpendOperationRequest.completedBy, omitted, orText, orNull,
        truthy]
    rw [isOwn]
    refine ⟨omitted, ?_⟩
    simp only [hasWallet, omitted, not_false_eq_true, true_and, not_not]
    exact eq_comm

/--
The recovery check accepts exactly the requests that the row completes to the
saved intent.
-/
theorem spendRecoveryIntentMismatch_eq_none
    (saved : row.IsSavedSpend platform.digests)
    (nonempty :
      platform.digests.tokenIntentFingerprint
        (.spend row.savedIntent) ≠ "")
    (noCollision :
      ∀ amount,
        canonicalTokenAmount retry.amount = some amount →
        platform.digests.tokenIntentFingerprint
            (.spend ((retry.completedBy row).intent amount)) =
          platform.digests.tokenIntentFingerprint
            (.spend row.savedIntent) →
        (retry.completedBy row).intent amount = row.savedIntent) :
    spendRecoveryIntentMismatch platform row retry
        (retry.uid.getD []) = none ↔
      prepareSpend (retry.completedBy row) = some row.amount ∧
        (retry.completedBy row).intent row.amount = row.savedIntent := by
  have hasFingerprint : row.requestFingerprint ≠ "" := by
    rw [saved.fingerprint]
    exact nonempty
  have savedWallet :
      orText (some row.walletAddress) retry.userAddress =
        row.walletAddress := by
    unfold orText
    rw [orNull_eq_some.mpr ⟨rfl, saved.hasWallet⟩]
    rfl
  unfold spendRecoveryIntentMismatch
  simp only [refuses_eq_none, saved.isSpend, ne_eq, not_true_eq_false,
    not_false_eq_true, true_and]
  cases isCanonical : canonicalTokenAmount retry.amount with
  | none =>
      simp only [reduceCtorEq, and_false, false_iff]
      rintro ⟨prepared, _⟩
      have canonical := (prepareSpend_eq_some.mp prepared).1
      rw [show (retry.completedBy row).amount = retry.amount from rfl,
        isCanonical] at canonical
      cases canonical
  | some requested =>
      simp only [refuses_eq_none, savedWallet, hasFingerprint,
        not_false_eq_true, true_and, and_true, not_not]
      obtain ⟨hasWallet, walletAgrees⟩ :=
        @completedBy_wallet row retry saved.hasWallet
      have mergedFingerprint :
          lowerText (retry.completedBy row).userAddress =
              lowerText row.walletAddress →
          spendIntentFingerprint platform.digests (retry.uid.getD [])
              row.walletAddress (requested.reread.getD requested)
              (if retry.sessionId.isNone then
                (orNull row.sessionId).map jsString
                else retry.sessionId)
              (if retry.providerId.isNone then
                (orNull row.providerId).map jsString
                else retry.providerId)
              (if retry.reservationId.isNone then
                (orNull row.reservationId).map jsString
                else retry.reservationId) =
            platform.digests.tokenIntentFingerprint
              (.spend ((retry.completedBy row).intent requested)) := by
        intro sameWallet
        simp only [spendIntentFingerprint, orNull_chosen,
          SpendOperationRequest.intent, ← sameWallet]
        rfl
      constructor
      · rintro ⟨_, sameWallet, sameAmount, _, _, _, sameFingerprint⟩
        replace sameWallet := walletAgrees.mpr sameWallet
        rw [sameAmount]
        refine ⟨?_, noCollision requested isCanonical ?_⟩
        · refine prepareSpend_eq_some.mpr ⟨isCanonical, ?_, hasWallet⟩
          rw [← sameAmount]
          exact saved.positive
        · rw [← mergedFingerprint sameWallet, sameFingerprint,
            saved.fingerprint]
      · rintro ⟨prepared, sameIntent⟩
        obtain rfl : requested = row.amount :=
          Option.some.inj
            (isCanonical.symm.trans
              (prepareSpend_eq_some.mp prepared).1)
        have sameUid : retry.uid.getD [] = jsString row.uid :=
          congrArg SpendIntent.uid sameIntent
        have sameWallet :
            lowerText (retry.completedBy row).userAddress =
              lowerText row.walletAddress :=
          congrArg SpendIntent.walletAddress sameIntent
        refine
          ⟨fun differs => differs.2 sameUid.symm,
            walletAgrees.mp sameWallet, rfl,
            not_contradicts (congrArg SpendIntent.sessionId sameIntent),
            not_contradicts (congrArg SpendIntent.providerId sameIntent),
            not_contradicts
              (congrArg SpendIntent.reservationId sameIntent), ?_⟩
        rw [mergedFingerprint sameWallet, sameIntent, saved.fingerprint]

/-- A request that omits nothing saved is completed to itself. -/
theorem completedBy_of_complete
    (complete : ¬ retry.OmitsSaved row) :
    retry.completedBy row = retry := by
  unfold SpendOperationRequest.OmitsSaved at complete
  push Not at complete
  obtain ⟨hasWallet, session, provider, reservation⟩ := complete
  have keeps :
      ∀ {requested : Option JsString} {saved : Option String},
        (requested = none → saved = none) →
        requested.or (saved.map jsString) = requested := by
    intro requested saved omitted
    cases requested with
    | none =>
        rw [omitted rfl]
        rfl
    | some text =>
        rfl
  have ownWallet :
      orText (some retry.userAddress) row.walletAddress =
        retry.userAddress := by
    unfold orText
    rw [orNull_eq_some.mpr ⟨rfl, hasWallet⟩]
    rfl
  unfold SpendOperationRequest.completedBy
  rw [ownWallet, keeps session, keeps provider, keeps reservation]

/-- A request with the saved intent omits nothing that is saved. -/
theorem complete_of_sameIntent
    (saved : row.IsSavedSpend platform.digests)
    (hasWallet : retry.userAddress ≠ "")
    (sameIntent : retry.intent amount = row.savedIntent) :
    ¬ retry.OmitsSaved row := by
  have nothingKept :
      ∀ {requested : Option JsString} {kept : Option String},
        JsString.orNull requested = (orNull kept).map jsString →
        orNull kept = kept →
        requested = none →
        kept = none := by
    rintro requested kept same isKept rfl
    rw [isKept] at same
    exact Option.map_eq_none_iff.mp same.symm
  rintro (noWallet | ⟨omitted, kept⟩ | ⟨omitted, kept⟩ | ⟨omitted, kept⟩)
  · exact hasWallet noWallet
  · exact
      kept
        (nothingKept (congrArg SpendIntent.sessionId sameIntent)
          saved.sessionId omitted)
  · exact
      kept
        (nothingKept (congrArg SpendIntent.providerId sameIntent)
          saved.providerId omitted)
  · exact
      kept
        (nothingKept (congrArg SpendIntent.reservationId sameIntent)
          saved.reservationId omitted)

/--
The recovery check accepts a retry exactly when the claim accepts it completed
by the saved row.  The claim accepts the retry itself exactly when it omits
nothing saved besides.
-/
theorem spendRetryChecks_agree
    (wellFormed : creation.WellFormed)
    (created : creation.Inserts platform inserted)
    (evolved : inserted.Evolves row)
    (isKey : spendKey platform retry = .ok row.operationKey)
    (distinct :
      ∀ amount,
        canonicalTokenAmount retry.amount = some amount →
        platform.digests.Distinguishes row.savedIntent
          [retry.intent amount,
            (retry.completedBy row).intent amount])
    (nonempty :
      platform.digests.tokenIntentFingerprint
        (.spend row.savedIntent) ≠ "") :
    (spendRecoveryIntentMismatch platform row retry
          (retry.uid.getD []) = none ↔
        (retry.completedBy row).ClaimAccepts platform row) ∧
      (retry.ClaimAccepts platform row ↔
        spendRecoveryIntentMismatch platform row retry
            (retry.uid.getD []) = none ∧
          ¬ retry.OmitsSaved row) := by
  have saved := isSavedSpend_of_created wellFormed created evolved
  have ownIntent :=
    claimAccepts_iff saved isKey fun amount canonical =>
      distinct amount canonical _ (by simp)
  have completedIntent :=
    @claimAccepts_iff _ _ (retry.completedBy row) _ saved isKey
      fun amount canonical =>
        distinct amount canonical _ (by simp)
  have recovered :=
    (spendRecoveryIntentMismatch_eq_none saved nonempty
      fun amount canonical =>
        distinct amount canonical _ (by simp)).trans
      completedIntent.symm
  refine ⟨recovered, ?_⟩
  rw [recovered]
  constructor
  · intro accepts
    obtain ⟨prepared, sameIntent⟩ := ownIntent.mp accepts
    have complete :=
      complete_of_sameIntent saved (prepareSpend_eq_some.mp prepared).2.2
        sameIntent
    rw [completedBy_of_complete complete]
    exact ⟨accepts, complete⟩
  · rintro ⟨accepts, complete⟩
    rw [completedBy_of_complete complete] at accepts
    exact accepts

end Checks

/-! ## A retry that leaves out its session -/

/-- A platform that digests the intents below as SHA-256 does. -/
def Platform.hashing : Platform :=
  { Platform.sample with
    digests :=
      { sha256 := id
        tokenIntentFingerprint := fun intent =>
          match intent with
          | .award award => award.sessionId
          | .spend spend =>
              if spend.sessionId = some (jsString "session") then
                "9c387b52888c7079f41c6e6e88ff0c72a8e4a8a49348a9e843d4506f41ef3670"
              else
                "5d1e7bccb7f22c7d6b1998c235268133ec2ab9b04d1cb139a3622057b719fd33" } }

/-- A spend of one token in a session, or without it. -/
def sessionSpendRequest (sessionId : Option JsString) :
    SpendOperationRequest where
  userAddress := "0xuser"
  amount := .ofCents 100
  sessionId := sessionId
  uid := some (jsString "uid")
  providerId := none
  operationKey := some "key"
  idempotencyKey := none
  reservationId := some (jsString "reservation")
  settlementContext := none

/-- The row that the request with a session inserts. -/
def sessionSpendRow : TokenOperation :=
  let spend : ClaimedSpend :=
    { request := sessionSpendRequest (some (jsString "session"))
      operationKey := "key"
      uid := jsString "uid"
      amount := ⟨100⟩
      signer := ⟨true⟩
      treasuryAddress := "0xtreasury"
      assetContext := ⟨"0xtoken", "1", some "0xtreasury", "0xsigner"⟩ }
  (spend.claim .hashing).row ⟨100⟩

theorem sessionSpendRow_isInserted :
    (sessionSpendRequest (some (jsString "session"))).Inserts .hashing
      sessionSpendRow :=
  ⟨_, ⟨by decide +kernel, rfl, rfl, rfl⟩, rfl⟩

theorem sessionSpend_wellFormed :
    (sessionSpendRequest (some (jsString "session"))).WellFormed where
  uid := isWellFormed_jsString "uid"
  sessionId := by
    rintro text ⟨⟩
    exact isWellFormed_jsString "session"
  providerId := by
    rintro text ⟨⟩
  reservationId := by
    rintro text ⟨⟩
    exact isWellFormed_jsString "reservation"

/-- The exact retry passes both checks. -/
theorem exactRetry_passesBoth :
    spendRecoveryIntentMismatch .hashing sessionSpendRow
          (sessionSpendRequest (some (jsString "session")))
          (jsString "uid") = none ∧
      (sessionSpendRequest (some (jsString "session"))).ClaimAccepts .hashing
        sessionSpendRow := by
  have passes :
      spendRecoveryIntentMismatch .hashing sessionSpendRow
          (sessionSpendRequest (some (jsString "session")))
          (jsString "uid") = none := by
    decide +kernel
  have agree :=
    @spendRetryChecks_agree _ _ _ _
      (sessionSpendRequest (some (jsString "session")))
      sessionSpend_wellFormed sessionSpendRow_isInserted
      (TokenOperation.Evolves.refl _) rfl
      (by
        intro amount canonical other member _
        cases
          (canonicalTokenAmount_ofCents 100).symm.trans canonical
        rcases List.mem_cons.mp member with rfl | member
        · rfl
        · cases List.mem_singleton.mp member
          rfl)
      (by decide)
  refine ⟨passes, agree.2.mpr ⟨passes, ?_⟩⟩
  simp [SpendOperationRequest.OmitsSaved, sessionSpendRequest,
    sessionSpendRow, ClaimRequest.row, ClaimedSpend.claim]
  rfl

/-- A retry without its session passes one check, and not the other. -/
theorem sessionlessRetry_passesOne :
    (sessionSpendRequest (some (jsString "session"))).Inserts .hashing
        sessionSpendRow ∧
      spendKey .hashing (sessionSpendRequest none) =
        .ok sessionSpendRow.operationKey ∧
      spendRecoveryIntentMismatch .hashing sessionSpendRow
          (sessionSpendRequest none) (jsString "uid") = none ∧
      ¬ (sessionSpendRequest none).ClaimAccepts .hashing
          sessionSpendRow := by
  refine
    ⟨sessionSpendRow_isInserted, rfl, by decide +kernel, fun accepts => ?_⟩
  have saved :=
    isSavedSpend_of_created sessionSpend_wellFormed
      sessionSpendRow_isInserted
      (TokenOperation.Evolves.refl _)
  have isKey :
      spendKey .hashing (sessionSpendRequest none) = .ok "key" := rfl
  have noCollision :
      ∀ amount,
        canonicalTokenAmount (sessionSpendRequest none).amount =
          some amount →
        Platform.hashing.digests.tokenIntentFingerprint
            (.spend ((sessionSpendRequest none).intent amount)) ≠
          Platform.hashing.digests.tokenIntentFingerprint
            (.spend sessionSpendRow.savedIntent) := by
    intro amount canonical
    cases (canonicalTokenAmount_ofCents 100).symm.trans canonical
    decide
  obtain ⟨_, sameIntent⟩ :=
    (claimAccepts_iff saved isKey fun amount canonical sameDigest =>
      absurd sameDigest (noCollision amount canonical)).mp accepts
  cases congrArg SpendIntent.sessionId sameIntent

end Sparkz
