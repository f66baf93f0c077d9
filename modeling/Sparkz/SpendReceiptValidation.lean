import Sparkz.SpendReceipts
import Sparkz.CallEffects

namespace Sparkz

/-!
# What the comparison with a stored receipt proves

A stored receipt that passes was signed for what the request expects.  It passes
again except for two kinds of identifiers: an empty one is stored as an absent
one, and an unpaired surrogate as the replacement character.
-/

/-- What does not change between two requests. -/
structure ReceiptChain where
  chainId : Nat
  signerAddress : String
  sign : SpendReceiptPayload → String

/-- How the libraries behave on addresses and on signatures of the signer. -/
structure ReceiptChain.Ideal
    (chain : ReceiptChain)
    (platform : Platform) :
    Prop where
  addressAgain :
    ∀ value address,
      platform.getAddress value = some address →
      platform.getAddress address = some address
  addressCase :
    ∀ value other address otherAddress,
      platform.getAddress value = some address →
      platform.getAddress other = some otherAddress →
      lowerText address = lowerText otherAddress →
      address = otherAddress
  noAddress : platform.getAddress "" = none
  signer :
    platform.getAddress chain.signerAddress = some chain.signerAddress
  verifies :
    ∀ payload,
      platform.verifyMessage payload (chain.sign payload) =
        some chain.signerAddress

namespace ReceiptExpectation

/-- An expectation that a request can have on a chain. -/
structure Valid
    (expected : ReceiptExpectation)
    (chain : ReceiptChain)
    (platform : Platform)
    (TOKEN_CONTRACT_ADDRESS : String) :
    Prop where
  wallet :
    ∃ value, platform.getAddress value = some expected.walletAddress
  token :
    platform.getAddress TOKEN_CONTRACT_ADDRESS =
      some expected.tokenContractAddress
  chainId : expected.chainId = chain.chainId
  signer : expected.trustedSignerAddress = chain.signerAddress

/-- An expectation as it is stored: an empty identifier is absent. -/
def stored (expected : ReceiptExpectation) : ReceiptExpectation :=
  { expected with
    sessionId := JsString.orNull expected.sessionId
    providerId := JsString.orNull expected.providerId }

/-- The identifiers of an expectation have no unpaired surrogates. -/
structure WellFormed (expected : ReceiptExpectation) : Prop where
  uid : expected.uid.IsWellFormed
  sessionId : ∀ text ∈ expected.sessionId, text.IsWellFormed
  providerId : ∀ text ∈ expected.providerId, text.IsWellFormed

/-- The receipt that the signer makes of an expectation. -/
def Signs
    (expected : ReceiptExpectation)
    (chain : ReceiptChain)
    (platform : Platform)
    (signed : SignedSpendReceipt) :
    Prop :=
  ∃ issuedAt randomUUID payload,
    expected.payload platform issuedAt randomUUID = .ok payload ∧
      signed =
        { payload := payload
          signature := chain.sign payload
          signerAddress := chain.signerAddress
          canonicalPayload := payload }

/-! ## The checks one by one -/

section Checks

variable {expected : ReceiptExpectation} {platform : Platform}
  {α : Type}

@[simp] theorem check_eq_ok
    {holds : Bool} {reason : String} {result : Unit} :
    expected.check holds reason = .ok result ↔ holds = true := by
  unfold check
  split
  · rename_i isTrue
    exact ⟨fun _ => isTrue, fun _ => rfl⟩
  · rename_i isFalse
    exact ⟨fun impossible => (by cases impossible), isFalse.elim⟩

@[simp] theorem check_bind_eq_ok
    {holds : Bool} {reason : String}
    {rest : Unit → Except Failure α} {value : α} :
    (expected.check holds reason >>= rest) = .ok value ↔
      holds = true ∧ rest () = .ok value := by
  unfold check
  split
  · rename_i isTrue
    exact ⟨fun same => ⟨isTrue, same⟩, And.right⟩
  · rename_i isFalse
    exact
      ⟨fun impossible => (by cases impossible), fun both =>
        (isFalse both.1).elim⟩

@[simp] theorem address_bind_eq_ok
    {text reason : String}
    {rest : String → Except Failure α} {value : α} :
    (expected.address platform text reason >>= rest) = .ok value ↔
      ∃ address,
        platform.getAddress text = some address ∧
          rest address = .ok value := by
  unfold address
  cases isAddress : platform.getAddress text with
  | none =>
      exact
        ⟨fun impossible => (by cases impossible), by
          rintro ⟨_, impossible, _⟩; cases impossible⟩
  | some found =>
      constructor
      · exact fun same => ⟨found, rfl, same⟩
      · rintro ⟨address, isFound, same⟩
        cases isFound
        exact same

/-- Every error of a part of the comparison requires review. -/
def Reviews (answer : Except Failure α) : Prop :=
  ∀ failure, answer = .error failure → failure.requiresReview = true

theorem Reviews.bind {β : Type}
    {first : Except Failure α}
    {rest : α → Except Failure β}
    (firstReviews : Reviews first)
    (restReviews : ∀ value, Reviews (rest value)) :
    Reviews (first >>= rest) := by
  intro failure thrown
  cases first with
  | error error =>
      cases thrown
      exact firstReviews _ rfl
  | ok value =>
      exact restReviews value failure thrown

theorem reviews_check (holds : Bool) (reason : String) :
    Reviews (expected.check holds reason) := by
  intro failure thrown
  unfold check at thrown
  split at thrown <;> cases thrown
  rfl

theorem reviews_address (text reason : String) :
    Reviews (expected.address platform text reason) := by
  intro failure thrown
  unfold address at thrown
  split at thrown <;> cases thrown
  rfl

/-- A stored receipt that does not pass is a matter of review. -/
theorem reviews_validateStoredReceipt (record : SpendReceipt) :
    Reviews (expected.validateStoredReceipt platform record) := by
  unfold validateStoredReceipt validatePayload validateColumns
  repeat'
    first
      | exact reviews_check _ _
      | exact reviews_address _ _
      | (refine Reviews.bind ?_ fun _ => ?_)
  intro failure thrown
  cases thrown

/-- What the checks on a payload establish. -/
theorem validatePayload_eq_ok
    {payload : SpendReceiptPayload} :
    expected.validatePayload platform payload = .ok () ↔
      (payload.version = "1.0" ∧ payload.status = "settled") ∧
        payload.contractId = expected.uid ∧
        ∃ payloadWallet,
          platform.getAddress payload.walletAddress =
              some payloadWallet ∧
            ∃ payloadToken,
              platform.getAddress payload.tokenContractAddress =
                  some payloadToken ∧
                lowerText payloadWallet =
                    lowerText expected.walletAddress ∧
                lowerText payloadToken =
                    lowerText expected.tokenContractAddress ∧
                payload.amount = expected.amount ∧
                payload.sessionId = expected.sessionId ∧
                payload.providerId = expected.providerId ∧
                payload.tokenTxHash = expected.txHash ∧
                payload.chainId = expected.chainId := by
  simp only [validatePayload, check_bind_eq_ok, address_bind_eq_ok,
    check_eq_ok, Bool.and_eq_true, beq_iff_eq]

/-- What the checks on the columns establish. -/
theorem validateColumns_eq_ok
    {record : SpendReceipt} :
    expected.validateColumns platform record = .ok () ↔
      jsString record.uid = expected.uid ∧
        lowerText record.walletAddress =
            lowerText expected.walletAddress ∧
        record.amount = expected.amount ∧
        record.sessionId.map jsString = expected.sessionId ∧
        record.providerId.map jsString = expected.providerId ∧
        record.tokenTxHash = expected.txHash ∧
        ∃ recordToken,
          platform.getAddress record.tokenContractAddress =
              some recordToken ∧
            lowerText recordToken =
                lowerText expected.tokenContractAddress ∧
            record.chainId = expected.chainId ∧
            record.signerAddress ≠ "" ∧
            lowerText record.signerAddress =
              lowerText expected.trustedSignerAddress := by
  simp only [validateColumns, check_bind_eq_ok, address_bind_eq_ok,
    check_eq_ok, beq_iff_eq, bne_iff_ne]

/-- A comparison that passes returns the stored receipt. -/
theorem validateStoredReceipt_eq_ok
    {record : SpendReceipt}
    {signed : SignedSpendReceipt} :
    expected.validateStoredReceipt platform record = .ok signed ↔
      expected.validatePayload platform record.canonicalPayload =
          .ok () ∧
        expected.validateColumns platform record = .ok () ∧
        (verifySpendReceiptAgainstTrustedSigner platform
            record.canonicalPayload record.signature
            record.signerAddress
            expected.trustedSignerAddress).valid = true ∧
        signed = record.signed := by
  unfold validateStoredReceipt
  constructor
  · intro passed
    obtain ⟨_, isPayload, passed⟩ := Except.bind_eq_ok passed
    obtain ⟨_, isColumns, passed⟩ := Except.bind_eq_ok passed
    rw [check_bind_eq_ok] at passed
    exact
      ⟨isPayload, isColumns, passed.1, (Except.ok.inj passed.2).symm⟩
  · rintro ⟨isPayload, isColumns, trusted, rfl⟩
    rw [isPayload, isColumns]
    exact check_bind_eq_ok.mpr ⟨trusted, rfl⟩

end Checks

/-! ## A receipt that the signer has made -/

section Signed

variable {expected other : ReceiptExpectation}
  {chain : ReceiptChain} {platform : Platform}
  {TOKEN_CONTRACT_ADDRESS : String}
  {signed : SignedSpendReceipt}

/-- An address of a valid expectation is its own address. -/
theorem Valid.walletAgain
    (valid :
      expected.Valid chain platform TOKEN_CONTRACT_ADDRESS)
    (ideal : chain.Ideal platform) :
    platform.getAddress expected.walletAddress =
      some expected.walletAddress := by
  obtain ⟨value, isWallet⟩ := valid.wallet
  exact ideal.addressAgain _ _ isWallet

theorem Valid.tokenAgain
    (valid :
      expected.Valid chain platform TOKEN_CONTRACT_ADDRESS)
    (ideal : chain.Ideal platform) :
    platform.getAddress expected.tokenContractAddress =
      some expected.tokenContractAddress :=
  ideal.addressAgain _ _ valid.token

/-- The payload of a valid expectation. -/
theorem Valid.payload_eq_ok
    (valid :
      expected.Valid chain platform TOKEN_CONTRACT_ADDRESS)
    (ideal : chain.Ideal platform)
    (issuedAt randomUUID : String) :
    expected.payload platform issuedAt randomUUID =
      .ok {
        version := "1.0"
        receiptId := expected.receiptId platform issuedAt randomUUID
        status := "settled"
        contractId := expected.uid
        walletAddress := expected.walletAddress
        amount := expected.amount
        sessionId := JsString.orNull expected.sessionId
        providerId := JsString.orNull expected.providerId
        tokenTxHash := expected.txHash
        tokenContractAddress := expected.tokenContractAddress
        chainId := expected.chainId
        issuedAt := issuedAt } := by
  simp only [payload, valid.walletAgain ideal, valid.tokenAgain ideal]

/-- The configured signer trusts what it has signed. -/
theorem verify_signed
    (ideal : chain.Ideal platform)
    (payload : SpendReceiptPayload) :
    (verifySpendReceiptAgainstTrustedSigner platform payload
      (chain.sign payload) chain.signerAddress
      chain.signerAddress).valid = true := by
  simp [verifySpendReceiptAgainstTrustedSigner, ideal.signer,
    ideal.verifies]

/-- A stored receipt passes for the expectation it was signed for. -/
theorem validate_signed
    (ideal : chain.Ideal platform)
    (valid :
      expected.Valid chain platform TOKEN_CONTRACT_ADDRESS)
    (otherValid :
      other.Valid chain platform TOKEN_CONTRACT_ADDRESS)
    (signs : other.Signs chain platform signed)
    (same : expected = other.stored)
    (wellFormed : expected.WellFormed) :
    expected.validateStoredReceipt platform signed.row = .ok signed := by
  obtain ⟨issuedAt, randomUUID, payload, isPayload, rfl⟩ := signs
  rw [otherValid.payload_eq_ok ideal] at isPayload
  obtain rfl := Except.ok.inj isPayload
  have isSigner : chain.signerAddress ≠ "" := by
    intro isEmpty
    have noSigner := ideal.signer
    rw [isEmpty, ideal.noAddress] at noSigner
    cases noSigner
  refine validateStoredReceipt_eq_ok.mpr ⟨?_, ?_, ?_, rfl⟩
  · rw [validatePayload_eq_ok, same]
    exact
      ⟨⟨rfl, rfl⟩, rfl, _, otherValid.walletAgain ideal, _,
        otherValid.tokenAgain ideal, rfl, rfl, rfl, rfl, rfl, rfl, rfl⟩
  · have sameUid := JsString.isWellFormed_iff.mp wellFormed.uid
    have sameSession :=
      JsString.map_jsString_encoded_eq_iff.mpr wellFormed.sessionId
    have sameProvider :=
      JsString.map_jsString_encoded_eq_iff.mpr wellFormed.providerId
    rw [same] at sameUid sameSession sameProvider
    rw [validateColumns_eq_ok, valid.signer, same]
    refine
      ⟨sameUid, rfl, rfl, ?_, ?_, rfl, _, otherValid.tokenAgain ideal,
        rfl, rfl, isSigner, rfl⟩
    · rw [← sameSession]
      simp only [SignedSpendReceipt.row, stored, JsString.orNull_again]
    · rw [← sameProvider]
      simp only [SignedSpendReceipt.row, stored, JsString.orNull_again]
  · rw [valid.signer]
    exact verify_signed ideal _

/-- A stored receipt that passes was signed for what is expected. -/
theorem stored_of_validate
    (ideal : chain.Ideal platform)
    (valid :
      expected.Valid chain platform TOKEN_CONTRACT_ADDRESS)
    (otherValid :
      other.Valid chain platform TOKEN_CONTRACT_ADDRESS)
    (signs : other.Signs chain platform signed)
    {returned : SignedSpendReceipt}
    (passed :
      expected.validateStoredReceipt platform signed.row =
        .ok returned) :
    expected = other.stored ∧ returned = signed := by
  obtain ⟨issuedAt, randomUUID, payload, isPayload, rfl⟩ := signs
  rw [otherValid.payload_eq_ok ideal] at isPayload
  obtain rfl := Except.ok.inj isPayload
  obtain ⟨payloadPassed, _, _, isReturned⟩ :=
    validateStoredReceipt_eq_ok.mp passed
  obtain ⟨_, sameUid, wallet, isWallet, token, isToken, sameWallet,
    sameToken, sameAmount, sameSession, sameProvider, sameHash,
    sameChain⟩ := validatePayload_eq_ok.mp payloadPassed
  obtain ⟨value, isExpectedWallet⟩ := valid.wallet
  have walletEq :=
    ideal.addressCase _ _ _ _ isWallet isExpectedWallet sameWallet
  have otherWallet : wallet = other.walletAddress :=
    Option.some.inj
      (isWallet.symm.trans (otherValid.walletAgain ideal))
  have tokenEq : expected.tokenContractAddress =
      other.tokenContractAddress := by
    have isOther := otherValid.token
    rw [valid.token] at isOther
    exact Option.some.inj isOther
  refine ⟨?_, isReturned⟩
  cases expected
  simp only [stored, ReceiptExpectation.mk.injEq]
  exact
    ⟨sameUid.symm, walletEq.symm.trans otherWallet,
      sameAmount.symm, sameSession.symm, sameProvider.symm,
      sameHash.symm, sameChain.symm, tokenEq,
      valid.signer.trans otherValid.signer.symm⟩

end Signed

end ReceiptExpectation

end Sparkz
