import Sparkz.SpendReceiptValidation

namespace Sparkz

open Interleaving

/-!
# What one call for a receipt has done

A call inserts what it has signed for its own request, returns what it has
inserted or found, and throws what the comparison with a found receipt throws.
-/

section Protocol

variable (platform : Platform)
  (TOKEN_CONTRACT_ADDRESS : String)
  (input : SpendReceiptRequest)

/-- What a call expects, given what the chain and the signer have said. -/
structure SpendReceiptRequest.Expects
    (past : Past)
    (expected : ReceiptExpectation) :
    Prop where
  uid : expected.uid = input.uid
  wallet :
    platform.getAddress input.walletAddress =
      some expected.walletAddress
  amount : input.cents = .ok expected.amount
  sessionId : expected.sessionId = input.sessionId
  providerId : expected.providerId = input.providerId
  txHash : input.hash = .ok expected.txHash
  network : ⟨.chain .network, .ok expected.chainId⟩ ∈ past
  token :
    platform.getAddress TOKEN_CONTRACT_ADDRESS =
      some expected.tokenContractAddress
  signer :
    ⟨.chain .signerAddress, .ok expected.trustedSignerAddress⟩ ∈ past

/-- What a call has signed. -/
structure ReceiptExpectation.Signed
    (expected : ReceiptExpectation)
    (past : Past)
    (signed : SignedSpendReceipt) :
    Prop where
  payload :
    ∃ issuedAt randomUUID,
      expected.payload platform issuedAt randomUUID =
        .ok signed.payload
  canonical : signed.canonicalPayload = signed.payload
  signature :
    ⟨.chain (.signMessage signed.payload), .ok signed.signature⟩ ∈ past
  signer : ⟨.chain .signerAddress, .ok signed.signerAddress⟩ ∈ past

/-- A lookup has found exactly this receipt. -/
def FoundReceipt
    (hash : TransactionHash)
    (row : SpendReceipt)
    (past : Past) :
    Prop :=
  ⟨.read (.receiptsOfHash hash), .ok [row]⟩ ∈ past

/-- No lookup has found a receipt. -/
def NoReceipt (past : Past) : Prop :=
  ∀ hash row, ¬ FoundReceipt hash row past

/-- What a call may write. -/
def SpendReceiptRequest.Inserts
    (past : Past)
    (row : SpendReceipt) :
    Prop :=
  ∃ expected signed,
    input.Expects platform TOKEN_CONTRACT_ADDRESS past expected ∧
      expected.Signed platform past signed ∧
      row = signed.row

/-- What a call may return. -/
def SpendReceiptRequest.Returns
    (past : Past)
    (signed : SignedSpendReceipt) :
    Prop :=
  ∃ expected,
    input.Expects platform TOKEN_CONTRACT_ADDRESS past expected ∧
      ((expected.Signed platform past signed ∧
          ∃ stored,
            ⟨.write (.insertReceipt signed.row), .ok stored⟩ ∈ past) ∨
        ∃ row,
          FoundReceipt expected.txHash row past ∧
            expected.validateStoredReceipt platform row = .ok signed)

/-- What a call may issue. -/
def SpendReceiptRequest.protocol : Protocol sparkz
  | _, .chain _ | _, .service _ => True
  | _, .read (.receiptsOfHash hash) => input.hash = .ok hash
  | past, .write (.insertReceipt row) =>
      input.Inserts platform TOKEN_CONTRACT_ADDRESS past row
  | past, .note (.receipt signed) =>
      input.Returns platform TOKEN_CONTRACT_ADDRESS past signed
  | _, _ => False

/-- A call throws what the comparison with a found receipt throws. -/
structure SpendReceiptRequest.Throws
    (failure : Failure)
    (past : Past) :
    Prop where
  found :
    ∀ hash row,
      FoundReceipt hash row past →
      ∃ expected,
        input.Expects platform TOKEN_CONTRACT_ADDRESS past expected ∧
          expected.txHash = hash ∧
          expected.validateStoredReceipt platform row = .error failure
  reviewed :
    failure.requiresReview = true →
    ∃ hash row, FoundReceipt hash row past

/-- The call that leaves its receipt as a note. -/
def SpendReceiptRequest.run : Call Unit := do
  let receipt ←
    createAndStoreSpendReceipt platform TOKEN_CONTRACT_ADDRESS input
  note (.receipt receipt)

end Protocol

section Conformance

variable {platform : Platform}
  {TOKEN_CONTRACT_ADDRESS : String}
  {input : SpendReceiptRequest}
  {past reached : Past}
  {expected : ReceiptExpectation}

/-- What a call expects it also expects later. -/
theorem SpendReceiptRequest.Expects.later
    (expects :
      input.Expects platform TOKEN_CONTRACT_ADDRESS past expected)
    (extended : past ⊆ reached) :
    input.Expects platform TOKEN_CONTRACT_ADDRESS reached expected :=
  { expects with
    network := extended expects.network
    signer := extended expects.signer }

/-- An event other than a lookup finds no receipt. -/
theorem NoReceipt.cons
    (none : NoReceipt past)
    {event : Event sparkz}
    (notFound :
      ∀ hash row,
        event ≠ ⟨.read (.receiptsOfHash hash), .ok [row]⟩) :
    NoReceipt (event :: past) := by
  intro hash row found
  rcases List.mem_cons.mp found with same | earlier
  · exact notFound hash row same.symm
  · exact none hash row earlier

/-- A call that has found nothing may throw what is no review. -/
theorem throws_of_noReceipt
    {failure : Failure}
    (none : NoReceipt past)
    (notReview : failure.requiresReview = false) :
    input.Throws platform TOKEN_CONTRACT_ADDRESS failure past where
  found := fun hash row found => absurd found (none hash row)
  reviewed := fun isReview => by
    rw [notReview] at isReview
    cases isReview

@[simp] theorem requiresReview_store (error : StoreError) :
    error.failure.requiresReview = false := by
  cases error <;> rfl

@[simp] theorem requiresReview_provider (error : ProviderError) :
    error.failure.requiresReview = false :=
  rfl

/-- A part of a call that ends before any receipt is found. -/
structure Unfound {α : Type}
    (past : Past)
    (value : α → Past → Prop)
    (result : Except Failure α)
    (reached : Past) :
    Prop where
  extended : past ⊆ reached
  noReceipt : NoReceipt reached
  value : ∀ returned, result = .ok returned → value returned reached
  failure :
    ∀ failure,
      result = .error failure →
      failure.requiresReview = false

theorem Unfound.ofValue {α : Type}
    {value : α → Past → Prop} {returned : α}
    (extended : past ⊆ reached)
    (none : NoReceipt reached)
    (holds : value returned reached) :
    Unfound past value (.ok returned) reached where
  extended := extended
  noReceipt := none
  value := by
    intro other same
    cases same
    exact holds
  failure := fun _ impossible => (by cases impossible)

theorem Unfound.ofFailure {α : Type}
    {value : α → Past → Prop} {failure : Failure}
    (extended : past ⊆ reached)
    (none : NoReceipt reached)
    (notReview : failure.requiresReview = false) :
    Unfound past value (.error failure) reached where
  extended := extended
  noReceipt := none
  value := fun _ impossible => (by cases impossible)
  failure := by
    intro other same
    cases same
    exact notReview

/-- What the chain says of itself is an answer of the chain. -/
theorem getAuthoritativeChainId_obeys
    (none : NoReceipt past) :
    getAuthoritativeChainId.Obeys
      (input.protocol platform TOKEN_CONTRACT_ADDRESS) past
      (Unfound past fun chainId reached =>
        ⟨.chain .network, .ok chainId⟩ ∈ reached) := by
  unfold getAuthoritativeChainId
  rw [Program.obeys_bind, Program.obeys_attempt, obeys_chain]
  refine ⟨trivial, fun chainId => ?_, fun error => ?_⟩
  · dsimp only
    rw [Program.obeys_bind, obeys_service]
    refine ⟨trivial, fun environment => ?_⟩
    have answered :
        NoReceipt
          (⟨.service .environment, environment⟩ ::
            ⟨.chain .network, .ok chainId⟩ :: past) :=
      (none.cons fun _ _ impossible => (by cases impossible)).cons
        fun _ _ impossible => (by cases impossible)
    have extended :
        past ⊆
          ⟨.service .environment, environment⟩ ::
            ⟨.chain .network, .ok chainId⟩ :: past :=
      fun _ member =>
        List.mem_cons_of_mem _ (List.mem_cons_of_mem _ member)
    dsimp only
    split
    · exact .ofValue extended answered (by simp)
    split
    · exact .ofFailure extended answered rfl
    split
    · exact .ofFailure extended answered rfl
    · exact .ofValue extended answered (by simp)
  · dsimp only
    exact
      .ofFailure (List.subset_cons_self _ _)
        (none.cons fun _ _ impossible => (by cases impossible)) rfl

/-- The checks on a request throw no review. -/
theorem requiresReview_cents
    {failure : Failure}
    (thrown : input.cents = .error failure) :
    failure.requiresReview = false := by
  unfold SpendReceiptRequest.cents at thrown
  split at thrown
  · split at thrown <;> cases thrown
    rfl
  · cases thrown
    rfl

theorem requiresReview_hash
    {failure : Failure}
    (thrown : input.hash = .error failure) :
    failure.requiresReview = false := by
  unfold SpendReceiptRequest.hash at thrown
  split at thrown <;> cases thrown
  rfl

/-- A call knows what it expects before it looks for a receipt. -/
theorem expectation_obeys
    (none : NoReceipt past) :
    (input.expectation platform TOKEN_CONTRACT_ADDRESS).Obeys
      (input.protocol platform TOKEN_CONTRACT_ADDRESS) past
      (Unfound past fun expected reached =>
        input.Expects platform TOKEN_CONTRACT_ADDRESS reached
          expected) := by
  unfold SpendReceiptRequest.expectation
  rw [Program.obeys_bind, obeys_orThrow]
  cases isAmount : input.cents with
  | error failure =>
      exact
        .ofFailure (List.Subset.refl _) none
          (requiresReview_cents isAmount)
  | ok amount =>
  dsimp only
  rw [Program.obeys_bind, obeys_orThrow]
  cases isHash : input.hash with
  | error failure =>
      exact
        .ofFailure (List.Subset.refl _) none
          (requiresReview_hash isHash)
  | ok txHash =>
  dsimp only
  rw [Program.obeys_bind]
  refine (getAuthoritativeChainId_obeys none).weaken ?_
  rintro (failure | chainId) reached answered
  · exact
      .ofFailure answered.extended answered.noReceipt
        (answered.failure failure rfl)
  dsimp only
  have isChain := answered.value chainId rfl
  split
  · exact .ofFailure answered.extended answered.noReceipt rfl
  split
  · exact .ofFailure answered.extended answered.noReceipt rfl
  rename_i token isToken
  split
  · exact .ofFailure answered.extended answered.noReceipt rfl
  rename_i wallet isWallet
  rw [Program.obeys_bind, obeys_chain]
  refine ⟨trivial, fun signer => ?_, fun error => ?_⟩
  · dsimp only
    refine
      .ofValue
        (fun _ member =>
          List.mem_cons_of_mem _ (answered.extended member))
        (answered.noReceipt.cons fun _ _ impossible =>
          (by cases impossible))
        ?_
    exact
      ⟨rfl, isWallet, isAmount, rfl, rfl, isHash,
        List.mem_cons_of_mem _ isChain, isToken, List.mem_cons_self⟩
  · exact
      .ofFailure
        (fun _ member =>
          List.mem_cons_of_mem _ (answered.extended member))
        (answered.noReceipt.cons fun _ _ impossible =>
          (by cases impossible))
        (requiresReview_provider error)

/-- What lookups of one hash have found. -/
def Looked
    (txHash : TransactionHash)
    (past : Past) :
    Except Failure (Option SpendReceipt) → Past → Prop
  | .ok (some row), reached =>
      past ⊆ reached ∧
        FoundReceipt txHash row reached ∧
        ∀ hash other,
          FoundReceipt hash other reached →
          hash = txHash ∧ other = row
  | .ok none, reached => past ⊆ reached ∧ NoReceipt reached
  | .error failure, reached =>
      past ⊆ reached ∧ NoReceipt reached ∧
        failure.requiresReview = false

/-- One lookup finds one receipt, none, or throws. -/
theorem findByTxHash_obeys
    {text : String}
    {txHash : TransactionHash}
    (isOwn : input.hash = .ok txHash)
    (isHash : canonicalTransactionHash text = some txHash)
    (none : NoReceipt past) :
    (SpendReceipts.findByTxHash text).Obeys
      (input.protocol platform TOKEN_CONTRACT_ADDRESS) past
      (Looked txHash past) := by
  unfold SpendReceipts.findByTxHash
  rw [Program.obeys_bind, obeys_orThrow]
  simp only [requireCanonicalTransactionHash, isHash]
  rw [Program.obeys_bind, obeys_read]
  refine ⟨isOwn, fun found => ?_, fun error => ?_⟩
  · dsimp only
    rw [obeys_orThrow]
    rcases found with _ | ⟨row, _ | ⟨other, rest⟩⟩
    · exact
        ⟨List.subset_cons_self _ _,
          none.cons fun _ _ impossible => (by cases impossible)⟩
    · refine
        ⟨List.subset_cons_self _ _, List.mem_cons_self,
          fun hash other found => ?_⟩
      rcases List.mem_cons.mp found with same | earlier
      · cases same
        exact ⟨rfl, rfl⟩
      · exact absurd earlier (none hash other)
    · exact
        ⟨List.subset_cons_self _ _,
          none.cons fun _ _ impossible => (by cases impossible), rfl⟩
  · exact
      ⟨List.subset_cons_self _ _,
        none.cons fun _ _ impossible => (by cases impossible),
        requiresReview_store error⟩

/-- The two lookups ask for the same hash. -/
theorem findReceipt_obeys
    {spelled : String}
    {txHash : TransactionHash}
    (isOwn : input.hash = .ok txHash)
    (isHash : canonicalTransactionHash spelled = some txHash)
    (none : NoReceipt past) :
    (findReceipt txHash spelled).Obeys
      (input.protocol platform TOKEN_CONTRACT_ADDRESS) past
      (Looked txHash past) := by
  unfold findReceipt
  rw [Program.obeys_bind]
  refine
    (findByTxHash_obeys isOwn (canonicalTransactionHash_text txHash)
      none).weaken ?_
  rintro (failure | _ | row) reached looked
  · exact looked
  · dsimp only
    split
    · refine (findByTxHash_obeys isOwn isHash looked.2).weaken ?_
      rintro (failure | _ | row) later again
      · exact ⟨List.Subset.trans looked.1 again.1, again.2⟩
      · exact ⟨List.Subset.trans looked.1 again.1, again.2⟩
      · exact ⟨List.Subset.trans looked.1 again.1, again.2⟩
    · exact looked
  · exact looked

/-- How a call ends. -/
def SpendReceiptRequest.Ends
    (platform : Platform)
    (TOKEN_CONTRACT_ADDRESS : String)
    (input : SpendReceiptRequest) :
    Except Failure SignedSpendReceipt → Past → Prop
  | .ok signed, past =>
      input.Returns platform TOKEN_CONTRACT_ADDRESS past signed
  | .error failure, past =>
      input.Throws platform TOKEN_CONTRACT_ADDRESS failure past

/-- A receipt that is found decides how the call ends. -/
theorem ends_of_found
    {row : SpendReceipt}
    (expects :
      input.Expects platform TOKEN_CONTRACT_ADDRESS past expected)
    (found : FoundReceipt expected.txHash row past)
    (only :
      ∀ hash other,
        FoundReceipt hash other past →
        hash = expected.txHash ∧ other = row) :
    input.Ends platform TOKEN_CONTRACT_ADDRESS
      (expected.validateStoredReceipt platform row) past := by
  cases compared : expected.validateStoredReceipt platform row with
  | ok signed =>
      exact ⟨expected, expects, Or.inr ⟨row, found, compared⟩⟩
  | error failure =>
      refine ⟨fun hash other isFound => ?_, fun _ => ⟨_, row, found⟩⟩
      obtain ⟨rfl, rfl⟩ := only hash other isFound
      exact ⟨expected, expects, rfl, compared⟩

/-- The hash of a request is what both of its spellings say. -/
theorem SpendReceiptRequest.Expects.spelled
    (expects :
      input.Expects platform TOKEN_CONTRACT_ADDRESS past expected) :
    canonicalTransactionHash input.txHash = some expected.txHash := by
  have isHash := expects.txHash
  unfold SpendReceiptRequest.hash at isHash
  split at isHash
  · rename_i hash isCanonical
    cases isHash
    exact canonicalTransactionHash_of_canonicalTxHash isCanonical
  · cases isHash

/-- A signed receipt is inserted, or another one is found instead. -/
theorem storeReceipt_obeys
    {signed : SignedSpendReceipt}
    (expects :
      input.Expects platform TOKEN_CONTRACT_ADDRESS past expected)
    (isSigned : expected.Signed platform past signed)
    (none : NoReceipt past) :
    (storeReceipt platform expected input.txHash signed).Obeys
      (input.protocol platform TOKEN_CONTRACT_ADDRESS) past
      (input.Ends platform TOKEN_CONTRACT_ADDRESS) := by
  unfold storeReceipt
  rw [Program.obeys_bind, Program.obeys_attempt, obeys_write]
  refine
    ⟨⟨expected, signed, expects, isSigned, rfl⟩, fun stored => ?_,
      fun error => ?_⟩
  · dsimp only
    rw [Program.obeys_bind, obeys_service]
    refine ⟨trivial, fun _ => ?_⟩
    have extended :
        ∀ event : Event sparkz,
          past ⊆
            event ::
              ⟨.write (.insertReceipt signed.row), .ok stored⟩ ::
                past :=
      fun _ _ member =>
        List.mem_cons_of_mem _ (List.mem_cons_of_mem _ member)
    refine ⟨expected, expects.later (extended _), Or.inl ⟨?_, stored, ?_⟩⟩
    · exact
        { isSigned with
          signature := extended _ isSigned.signature
          signer := extended _ isSigned.signer }
    · exact List.mem_cons_of_mem _ List.mem_cons_self
  · dsimp only
    rw [Program.obeys_bind, obeys_service]
    refine ⟨trivial, fun answer => ?_⟩
    have refused :
        NoReceipt
          (⟨.service
              (.auditLog "spend_receipt.persistence_failed"
                signed.payload.tokenTxHash.text), answer⟩ ::
            ⟨.write (.insertReceipt signed.row), .error error⟩ ::
            past) :=
      (none.cons fun _ _ impossible => (by cases impossible)).cons
        fun _ _ impossible => (by cases impossible)
    dsimp only
    rw [Program.obeys_bind, Program.obeys_attempt]
    refine
      (findReceipt_obeys expects.txHash expects.spelled refused).weaken ?_
    have extended :
        ∀ event : Event sparkz,
          past ⊆
            event ::
              ⟨.write (.insertReceipt signed.row), .error error⟩ ::
                past :=
      fun _ _ member =>
        List.mem_cons_of_mem _ (List.mem_cons_of_mem _ member)
    rintro (failure | _ | row) reached looked
    · exact throws_of_noReceipt looked.2.1 rfl
    · exact throws_of_noReceipt looked.2 rfl
    · dsimp only
      rw [obeys_orThrow]
      exact
        ends_of_found
          (expects.later (List.Subset.trans (extended _) looked.1))
          looked.2.1
          looked.2.2

/-- What a payload is refused for is no review. -/
theorem requiresReview_payload
    {issuedAt randomUUID : String}
    {failure : Failure}
    (thrown :
      expected.payload platform issuedAt randomUUID =
        .error failure) :
    failure.requiresReview = false := by
  unfold ReceiptExpectation.payload at thrown
  split at thrown <;> cases thrown
  rfl

/-- A call that has found no receipt signs one. -/
theorem signSpendReceipt_obeys
    {payload : SpendReceiptPayload}
    {issuedAt randomUUID : String}
    (isPayload :
      expected.payload platform issuedAt randomUUID = .ok payload)
    (none : NoReceipt past) :
    (signSpendReceipt payload).Obeys
      (input.protocol platform TOKEN_CONTRACT_ADDRESS) past
      (Unfound past fun signed reached =>
        expected.Signed platform reached signed) := by
  unfold signSpendReceipt
  rw [Program.obeys_bind, obeys_chain]
  refine ⟨trivial, fun signature => ?_, fun error => ?_⟩
  · have signed :
        NoReceipt
          (⟨.chain (.signMessage payload), .ok signature⟩ :: past) :=
      none.cons fun _ _ impossible => (by cases impossible)
    dsimp only
    rw [Program.obeys_bind, obeys_chain]
    refine ⟨trivial, fun signer => ?_, fun error => ?_⟩
    · refine
        .ofValue
          (fun _ member =>
            List.mem_cons_of_mem _ (List.mem_cons_of_mem _ member))
          (signed.cons fun _ _ impossible => (by cases impossible)) ?_
      exact
        ⟨⟨issuedAt, randomUUID, isPayload⟩, rfl,
          List.mem_cons_of_mem _ List.mem_cons_self,
          List.mem_cons_self⟩
    · exact
        .ofFailure
          (fun _ member =>
            List.mem_cons_of_mem _ (List.mem_cons_of_mem _ member))
          (signed.cons fun _ _ impossible => (by cases impossible))
          (requiresReview_provider error)
  · exact
      .ofFailure (List.subset_cons_self _ _)
        (none.cons fun _ _ impossible => (by cases impossible))
        (requiresReview_provider error)

/-- A call returns a stored receipt of its own, or throws. -/
theorem createAndStoreSpendReceipt_obeys :
    (createAndStoreSpendReceipt platform TOKEN_CONTRACT_ADDRESS
      input).Obeys
      (input.protocol platform TOKEN_CONTRACT_ADDRESS) []
      (input.Ends platform TOKEN_CONTRACT_ADDRESS) := by
  have nothing : NoReceipt [] :=
    fun _ _ impossible => (by cases impossible)
  unfold createAndStoreSpendReceipt
  rw [Program.obeys_bind]
  refine (expectation_obeys nothing).weaken ?_
  rintro (failure | expected) reached asked
  · exact
      throws_of_noReceipt asked.noReceipt (asked.failure failure rfl)
  dsimp only
  have expects := asked.value expected rfl
  rw [Program.obeys_bind]
  refine
    (findReceipt_obeys expects.txHash expects.spelled
      asked.noReceipt).weaken ?_
  rintro (failure | _ | row) searched looked
  · exact throws_of_noReceipt looked.2.1 looked.2.2
  · dsimp only
    rw [Program.obeys_bind, obeys_service]
    refine ⟨trivial, fun issuedAt => ?_⟩
    dsimp only
    rw [Program.obeys_bind, obeys_service]
    refine ⟨trivial, fun randomUUID => ?_⟩
    have stillNone :
        NoReceipt
          (⟨.service .newId, randomUUID⟩ ::
            ⟨.service .now, issuedAt⟩ :: searched) :=
      (looked.2.cons fun _ _ impossible => (by cases impossible)).cons
        fun _ _ impossible => (by cases impossible)
    have expectsNow :
        input.Expects platform TOKEN_CONTRACT_ADDRESS
          (⟨.service .newId, randomUUID⟩ ::
            ⟨.service .now, issuedAt⟩ :: searched)
          expected :=
      expects.later
        (List.Subset.trans looked.1 fun _ member =>
          List.mem_cons_of_mem _ (List.mem_cons_of_mem _ member))
    dsimp only
    rw [Program.obeys_bind, obeys_orThrow]
    cases isPayload : expected.payload platform issuedAt randomUUID with
    | error failure =>
        exact
          throws_of_noReceipt stillNone (requiresReview_payload isPayload)
    | ok payload =>
        dsimp only
        rw [Program.obeys_bind]
        refine (signSpendReceipt_obeys isPayload stillNone).weaken ?_
        rintro (failure | signed) signedPast signs
        · exact
            throws_of_noReceipt signs.noReceipt
              (signs.failure failure rfl)
        · exact
            storeReceipt_obeys (expectsNow.later signs.extended)
              (signs.value signed rfl) signs.noReceipt
  · dsimp only
    rw [obeys_orThrow]
    exact ends_of_found (expects.later looked.1) looked.2.1 looked.2.2

/-- What a call has done when it ends. -/
def SpendReceiptRequest.Finished
    (platform : Platform)
    (TOKEN_CONTRACT_ADDRESS : String)
    (input : SpendReceiptRequest) :
    Except Failure Unit → Past → Prop
  | .ok (), past => ∃ signed, ⟨.note (.receipt signed), ()⟩ ∈ past
  | .error failure, past =>
      input.Throws platform TOKEN_CONTRACT_ADDRESS failure past

/-- A call for a receipt conforms to its protocol. -/
theorem SpendReceiptRequest.run_obeys
    (platform : Platform)
    (TOKEN_CONTRACT_ADDRESS : String)
    (input : SpendReceiptRequest) :
    (input.run platform TOKEN_CONTRACT_ADDRESS).Obeys
      (input.protocol platform TOKEN_CONTRACT_ADDRESS) []
      (input.Finished platform TOKEN_CONTRACT_ADDRESS) := by
  unfold SpendReceiptRequest.run
  rw [Program.obeys_bind]
  refine createAndStoreSpendReceipt_obeys.weaken ?_
  rintro (failure | signed) reached ends
  · exact ends
  · dsimp only
    rw [obeys_note]
    exact ⟨ends, signed, List.mem_cons_self⟩

end Conformance

end Sparkz
