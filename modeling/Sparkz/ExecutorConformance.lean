import Sparkz.ExecutorProtocol

namespace Sparkz

open Interleaving

/-!
# The parts of an executor

Each store function, the evidence and the transaction coordinator are followed
once.  What the coordinator returns or throws names no hash that was not saved
for its operation.
-/

/-! ## Single operations -/

section Operations

variable {platform : Platform} {past : Past}

theorem note_conforms {noted : Note} :
    (note noted).ConformsFrom (executorProtocol platform) past :=
  obeys_note.mpr ⟨trivial, trivial⟩

theorem service_conforms {request : ServiceRequest} :
    (service request).ConformsFrom (executorProtocol platform) past :=
  obeys_service.mpr ⟨trivial, fun _ => trivial⟩

end Operations

/-! ## Stores -/

/-- What a claim has seen of the row that its caller goes on with. -/
inductive ClaimRequest.Saw (data : ClaimRequest) :
    TokenOperationClaim → Past → Prop where
  /-- The row was there, and the caller has not acquired it. -/
  | existing
      {past : Past}
      {row : TokenOperation}
      {readKey : String}
      (member : ⟨.read (.operation readKey), .ok (some row)⟩ ∈ past)
      (isType : row.operationType = data.operationType)
      (isWallet :
        lowerText row.walletAddress = lowerText data.walletAddress) :
      Saw data (.operation row false) past
  /-- The caller has inserted the row, or has taken it over. -/
  | acquired
      {past : Past}
      {row acquired : TokenOperation}
      {amount : TokenAmount}
      (canonical : canonicalTokenAmount data.amount = some amount)
      (saw : SawRow data.operationKey row past)
      (isType : row.operationType = data.operationType)
      (isWallet :
        lowerText row.walletAddress = lowerText data.walletAddress)
      (isAmount : data.operationType ≠ .award → row.amount = amount) :
      Saw data (.operation acquired true) past
  | legacy {past : Past} {award : Award} :
      Saw data (.legacyRecord award) past

theorem ClaimRequest.Saw.subset
    {data : ClaimRequest}
    {claimed : TokenOperationClaim}
    {past reached : Past}
    (saw : data.Saw claimed past)
    (grown : past ⊆ reached) :
    data.Saw claimed reached := by
  cases saw with
  | existing member isType isWallet =>
      exact .existing (grown member) isType isWallet
  | acquired canonical saw isType isWallet isAmount =>
      exact .acquired canonical (saw.subset grown) isType isWallet isAmount
  | legacy =>
      exact .legacy

/-- A row is taken over for the canonical amount of the claim. -/
theorem ClaimRequest.Writes.reclaim_cases
    {data : ClaimRequest}
    {sampled : Bool}
    {past : Past}
    {operationKey : String}
    (writes :
      data.Writes sampled past
        (.updateOperation operationKey .reclaim)) :
    ∃ amount row,
      canonicalTokenAmount data.amount = some amount ∧
        data.Found amount row past := by
  cases writes with
  | reclaim admitted found reclaimable =>
      exact ⟨_, _, admitted.canonical, found⟩

/-- The end of a claim, with the one statement that it has issued. -/
theorem ClaimRequest.saw_of_ends
    {data : ClaimRequest}
    {asks : ChainRequest → Prop}
    {sampled : Bool}
    {claimed : TokenOperationClaim}
    {past : Past}
    (ends : data.Ends claimed past)
    (extended :
      ExtendsBy (writesOnly asks (data.Writes sampled)) [] past) :
    data.Saw claimed past := by
  cases ends with
  | existing found notReclaimable =>
      exact
        .existing (List.mem_cons_of_mem _ found.found.mem)
          found.sameIntent.1 found.sameIntent.2.1
  | @reclaimed _ _ reclaimed before =>
      cases extended with
      | perform beforeRelease _ _ =>
          cases beforeRelease with
          | perform beforeWrite permitted _ =>
              obtain ⟨amount, row, canonical, found⟩ :=
                ClaimRequest.Writes.reclaim_cases permitted
              have saw : SawRow data.operationKey row before :=
                .wasRead found.found.mem (Or.inl rfl)
              exact
                .acquired canonical
                  (saw.subset fun _ member =>
                    List.mem_cons_of_mem _
                      (List.mem_cons_of_mem _ member))
                  found.sameIntent.1 found.sameIntent.2.1
                  found.sameIntent.2.2
  | inserted canonical fresh =>
      exact
        .acquired canonical
          (.inserted (List.mem_cons_of_mem _ List.mem_cons_self) rfl)
          rfl rfl fun _ => rfl
  | legacy fresh =>
      exact .legacy

section Stores

variable {platform : Platform} {past : Past}

theorem updateOrFind_conforms
    {operationKey : String}
    {operationWrite : OperationWrite}
    (isCallback : operationWrite.isCallback = true)
    (evidenced :
      ∀ reached,
        past ⊆ reached →
        (Change.updateOperation operationKey operationWrite).Evidenced
          reached) :
    (TokenOperations.updateOrFind operationKey
      operationWrite).ConformsFrom (executorProtocol platform) past := by
  refine obeys_of_store updateOrFind_obeys ?_ ?_
  · rintro reached change rfl
    exact .mark isCallback
  · rintro reached change grown rfl
    exact evidenced reached grown

theorem settle_conforms
    {operationKey : String}
    {operationWrite : OperationWrite}
    (isSettlement : operationWrite.isSettlement = true)
    (evidenced :
      ∀ reached,
        past ⊆ reached →
        (Change.settleOperation operationKey operationWrite).Evidenced
          reached) :
    (TokenOperations.settle operationKey
      operationWrite).ConformsFrom (executorProtocol platform) past := by
  refine obeys_of_store settle_obeys ?_ ?_
  · rintro reached change rfl
    exact .settle isSettlement
  · rintro reached change grown rfl
    exact evidenced reached grown

theorem markSubmitted_conforms {operationKey txHash : String} :
    (TokenOperations.markSubmitted operationKey txHash).ConformsFrom
      (executorProtocol platform) past := by
  refine obeys_of_store markSubmitted_obeys ?_ ?_
  · rintro reached change ⟨hash, _, rfl | rfl⟩
    · exact .mark rfl
    · exact .mark rfl
  · rintro reached change _ ⟨hash, _, rfl | rfl⟩ <;> trivial

theorem markUnknown_conforms
    {operationKey error : String}
    {diagnostic : DiagnosticArgument} :
    (TokenOperations.markUnknown operationKey error
      diagnostic).ConformsFrom (executorProtocol platform) past :=
  updateOrFind_conforms rfl fun _ _ => trivial

theorem markPreflightFailed_conforms
    {operationKey error : String}
    {diagnostic : DiagnosticArgument} :
    (TokenOperations.markPreflightFailed operationKey error
      diagnostic).ConformsFrom (executorProtocol platform) past :=
  updateOrFind_conforms rfl fun _ _ => trivial

theorem markFailed_conforms
    {operationKey error : String}
    {movementOutcome : MovementOutcome}
    {diagnostic : DiagnosticArgument} :
    (TokenOperations.markFailed operationKey error movementOutcome
      diagnostic).ConformsFrom (executorProtocol platform) past :=
  settle_conforms rfl fun _ _ => trivial

/-- A claim that returns knows the row that its caller goes on with. -/
theorem claim_conforms
    {data : ClaimRequest}
    {getOnChainBalance : Option (Call JsNumber)}
    (outside :
      ∀ sample,
        getOnChainBalance = some sample →
        AsksOutside (fun request => request.broadcasts = false)
          sample) :
    (TokenOperations.claim data getOnChainBalance).Obeys
      (executorProtocol platform) past fun result reached =>
        ∀ claimed, result = .ok claimed → data.Saw claimed reached := by
  have stores :
      (TokenOperations.claim data getOnChainBalance).ConformsFrom
        (executorProtocol platform) ([] ++ past) := by
    refine
      (obeys_of_store (claim_obeys outside) (fun _ _ => .claim)
        ?_).weaken fun _ _ _ => trivial
    rintro reached change _ writes
    cases writes <;> trivial
  refine
    (stores.recent (claim_obeys outside) .none).weaken ?_
  rintro result reached ⟨_, recent, rfl, ⟨ends, _⟩, extended⟩ claimed
    isClaimed
  exact
    (ClaimRequest.saw_of_ends (ends claimed isClaimed) extended).subset
      (List.subset_append_left _ _)

theorem persistSettlementContext_conforms
    {id : String}
    {deliveredKwh : JsNumber} :
    (SpendReservations.persistSettlementContext id
      deliveredKwh).ConformsFrom (executorProtocol platform) past := by
  refine obeys_of_store persistSettlementContext_obeys ?_ ?_
  · rintro reached change ⟨parts, _, rfl⟩
    exact .persistSettlementContext
  · rintro reached change _ ⟨parts, _, rfl⟩
    trivial

/-- A spend is recorded where its movement is known. -/
theorem recordSpend_conforms
    {data : RecordSpendRequest}
    (evidenced :
      ∀ reached user amount hash balance,
        past ⊆ reached →
        canonicalTransactionHash data.txHash = some hash →
        canonicalTokenAmount data.amount = some amount →
        (Change.recordSpend user (data.spend user.id amount hash)
          balance).Evidenced reached) :
    (recordSpend data).ConformsFrom (executorProtocol platform)
      past := by
  refine
    (obeys_of_store recordSpend_obeys (fun _ _ => .recordSpend)
      ?_).weaken fun _ _ _ => trivial
  rintro reached change grown ⟨user, amount, hash, balance, isHash,
    canonical, _, rfl⟩
  exact evidenced reached user amount hash balance grown isHash canonical

/-- An award is recorded where its movement is known. -/
theorem recordAward_conforms
    {data : RecordAwardRequest}
    (evidenced :
      ∀ reached user amount hash balance,
        past ⊆ reached →
        canonicalTransactionHash data.txHash = some hash →
        canonicalTokenAmount data.amount = some amount →
        (Change.recordAward user (data.award user.id amount hash)
          balance).Evidenced reached) :
    (recordAward platform data).ConformsFrom (executorProtocol platform)
      past := by
  refine
    (obeys_of_store recordAward_obeys (fun _ _ => .recordAward)
      ?_).weaken fun _ _ _ => trivial
  rintro reached change grown ⟨user, amount, hash, balance, isHash,
    canonical, _, rfl⟩
  exact evidenced reached user amount hash balance grown isHash canonical

end Stores

/-! ## Rows that were read -/

/-- A row is projected as it was read. -/
theorem viewed_of_read
    {past : Past}
    {readKey : String}
    {row : TokenOperation}
    (member : ⟨.read (.operation readKey), .ok (some row)⟩ ∈ past) :
    Viewed row.operationType row.view past where
  row := ⟨row, .wasRead member (Or.inr rfl), rfl, rfl, fun _ => rfl⟩
  hash := fun _ isHash => .ofRow (.wasRead member (Or.inr rfl)) isHash

/-- A confirmed row is trusted as it was read. -/
theorem trusted_of_read
    {past : Past}
    {readKey : String}
    {row : TokenOperation}
    {hash : TransactionHash}
    (member : ⟨.read (.operation readKey), .ok (some row)⟩ ∈ past)
    (isHash : row.view.txHash = some hash)
    (isConfirmed : row.view.status = .confirmed) :
    Trusted row.operationType row.view hash past := by
  have isSaved :
      row.movement? = some (row.view.movement row.operationType hash) := by
    unfold TokenOperation.movement?
    rw [show row.txHash = some hash from isHash]
    rfl
  exact
    .confirmed (.wasRead member (Or.inr rfl)) isConfirmed isSaved
      (.refl _)

/-! ## Evidence -/

section Evidence

variable {platform : Platform} {past : Past}

theorem readSpendEvidence_isQuiet {input : SpendEvidenceRequest} :
    Issues Op.isQuiet (readSpendEvidence platform input) := by
  unfold readSpendEvidence
  split
  · exact .ofPure
  · refine .bind (.attempt (.ofChain rfl)) ?_
    rintro (failure | network)
    · exact .ofPure
    · refine .bind (.attempt (.ofChain rfl)) ?_
      rintro (failure | found)
      · exact .ofPure
      · dsimp only
        split
        · exact .ofPure
        · refine .bind (.attempt (.ofChain rfl)) ?_
          rintro (failure | receipt) <;> exact .ofPure

/-- What is verified is noted. -/
theorem verifySpendEvidence_notes {input : SpendEvidenceRequest} :
    (verifySpendEvidence platform input).Obeys
      (executorProtocol platform) past fun result reached =>
        ∀ evidence,
          result = .ok evidence →
          ⟨.note (.evidence input evidence), ()⟩ ∈ reached := by
  unfold verifySpendEvidence
  rw [Program.obeys_bind]
  refine
    (follows_of_quiet readSpendEvidence_isQuiet past).weaken ?_
  rintro (failure | evidence) reached _
  · intro evidence impossible
    cases impossible
  · dsimp only
    rw [Program.obeys_bind, obeys_note]
    refine ⟨trivial, fun other isEvidence => ?_⟩
    cases isEvidence
    exact List.mem_cons_self

/-- A check that proves the movement whenever it finds it valid. -/
def VerifiesFrom
    (platform : Platform)
    (movement : TokenMovement)
    (past : Past)
    (verify : Call SpendEvidenceResult) :
    Prop :=
  ∀ reached,
    past ⊆ reached →
    verify.Obeys (executorProtocol platform) reached fun result later =>
      ∀ evidence,
        result = .ok (.ok evidence) →
        Proven movement later

/-- Reading the chain is such a check. -/
theorem verifiesFrom_verifySpendEvidence
    {movement : TokenMovement}
    {input : SpendEvidenceRequest}
    (proves : input.Proves movement) :
    VerifiesFrom platform movement past
      (verifySpendEvidence platform input) := by
  intro reached _
  refine verifySpendEvidence_notes.weaken ?_
  rintro result later noted evidence rfl
  exact ⟨input, evidence, noted _ rfl, proves⟩

/-- So is a result that the chain was read for before. -/
theorem verifiesFrom_pure
    {movement : TokenMovement}
    {input : SpendEvidenceRequest}
    {result : SpendEvidenceResult}
    (noted : ⟨.note (.evidence input result), ()⟩ ∈ past)
    (proves : input.Proves movement) :
    VerifiesFrom platform movement past (pure result) := by
  intro reached grown evidence isValid
  cases isValid
  exact ⟨input, evidence, grown noted, proves⟩

end Evidence

/-! ## The asset context -/

theorem getTreasuryAddress_isQuiet :
    Issues Op.isQuiet getTreasuryAddress := by
  refine .bind (.ofService trivial) fun environment => ?_
  split
  · exact .ofPure
  · exact .ofThrow

theorem getTokenAssetContext_isQuiet
    {signer : TreasurySigner}
    {treasuryAddress : Option String} :
    Issues Op.isQuiet
      (getTokenAssetContext signer treasuryAddress) := by
  unfold getTokenAssetContext
  split
  · exact .ofThrow
  · refine .bind (.ofService trivial) fun environment =>
      .bind (.attempt (.ofChain rfl)) ?_
    rintro (failure | network)
    · exact .ofThrow
    · dsimp only
      split
      · exact .ofThrow
      · refine .bind (.attempt (.ofChain rfl)) ?_
        rintro (failure | address)
        · exact .ofThrow
        · exact .ofPure

/-! ## The coordinator -/

/-- A failure that names no saved hash. -/
def Failure.IsHashless (failure : Failure) : Prop :=
  ∀ diagnostic,
    failure = .reliability diagnostic → diagnostic.savedHash = none

/-- The encoders throw errors of their library, never one of the coordinator. -/
structure Platform.EncodesPlainly (platform : Platform) : Prop where
  transfer :
    ∀ recipient amount failure,
      platform.encodeTransfer recipient amount = .error failure →
      failure.IsHashless
  transferFrom :
    ∀ source recipient amount failure,
      platform.encodeTransferFrom source recipient amount =
        .error failure →
      failure.IsHashless

section Hashless

variable {platform : Platform}

theorem StoreError.isHashless (error : StoreError) :
    error.failure.IsHashless := by
  intro diagnostic isReliability
  cases error <;> cases isReliability

/-- Whatever throws the errors of a store throws no hash. -/
theorem throwsHashless_issue {α : Type}
    {answer : Call (Except StoreError α)}
    (throwsOnly : answer.ThrowsOnly Failure.IsHashless) :
    (issue StoreError.failure answer).ThrowsOnly
      Failure.IsHashless := by
  refine Program.ThrowsOnly.bind throwsOnly ?_
  rintro (error | value)
  · exact error.isHashless
  · trivial

theorem throwsHashless_transaction {α : Type}
    {body : Call α}
    (throwsOnly : body.ThrowsOnly Failure.IsHashless) :
    (transaction body).ThrowsOnly Failure.IsHashless := by
  induction body with
  | done value =>
      exact fun _ => trivial
  | fail failure =>
      exact fun _ => throwsOnly
  | perform op rest inductionHypothesis =>
      exact fun answer => inductionHypothesis answer (throwsOnly answer)

theorem getPendingNonce_throwsHashless {signerAddress : String} :
    (getPendingNonce signerAddress).ThrowsOnly Failure.IsHashless := by
  refine Program.ThrowsOnly.recover _ fun failure => ?_
  rintro diagnostic ⟨⟩
  rfl

theorem prepareTransaction_throwsHashless
    {request : TreasuryTransactionRequest}
    {signerAddress : String}
    {nonce : Nat} :
    (prepareTransaction platform request signerAddress
      nonce).ThrowsOnly Failure.IsHashless := by
  refine Program.ThrowsOnly.bind
    (.recover _ fun failure => ?_) fun fees => ?_
  · rintro diagnostic ⟨⟩
    rfl
  split
  · rintro diagnostic ⟨⟩
    rfl
  refine Program.ThrowsOnly.bind (.recover _ fun failure => ?_)
    fun gasLimit =>
      Program.ThrowsOnly.bind (.recover _ fun failure => ?_)
        fun rawTransaction => ?_
  · split
    · rintro diagnostic ⟨⟩
      rfl
    · rintro diagnostic ⟨⟩
      rfl
  · rintro diagnostic ⟨⟩
    rfl
  · dsimp only
    split
    · rintro diagnostic ⟨⟩
      rfl
    · trivial

/-- A preparation throws no hash, when its callbacks throw none. -/
theorem prepare_throwsHashless
    {data : TreasuryTransactionPreparationRequest}
    (readsNonce :
      data.getPendingNonce.ThrowsOnly Failure.IsHashless)
    (signs :
      ∀ nonce, (data.prepare nonce).ThrowsOnly Failure.IsHashless) :
    (TreasuryTransactions.prepare data).ThrowsOnly
      Failure.IsHashless := by
  have thrown :
      ∀ message : String,
        (throwFailure (.preparation message) :
          Call TreasuryPreparation).ThrowsOnly Failure.IsHashless := by
    rintro message diagnostic ⟨⟩
  refine throwsHashless_transaction
    (Program.ThrowsOnly.bind (.attempt _) ?_)
  rintro (failure | _)
  · exact thrown _
  refine Program.ThrowsOnly.bind
    (throwsHashless_issue fun _ => trivial) ?_
  rintro (_ | existing)
  · refine Program.ThrowsOnly.bind readsNonce fun reading =>
      Program.ThrowsOnly.bind (fun _ => trivial) fun _ => ?_
    split
    · exact thrown _
    refine Program.ThrowsOnly.bind
      (throwsHashless_issue fun _ => trivial) ?_
    rintro (_ | unresolved)
    · refine Program.ThrowsOnly.bind
        (throwsHashless_issue fun _ => trivial) fun maxNonce => ?_
      dsimp only
      split
      · refine Program.ThrowsOnly.bind (signs _) fun prepared =>
          Program.ThrowsOnly.bind (.ofExcept ?_) fun hash => ?_
        · rintro failure isFailure diagnostic rfl
          unfold requireCanonicalTransactionHash at isFailure
          split at isFailure <;> cases isFailure
        · split
          · exact thrown _
          · exact
              Program.ThrowsOnly.bind
                (throwsHashless_issue fun _ => trivial)
                fun _ => trivial
      · exact thrown _
    · refine Program.ThrowsOnly.bind (fun _ => trivial) fun age => ?_
      rintro diagnostic isReliability
      unfold TreasuryTransactions.unresolvedFailure at isReliability
      split at isReliability <;> cases isReliability
  · dsimp only
    split
    · trivial
    · exact thrown _

/-- The diagnostic of a failed preparation names no hash either. -/
theorem preparationDiagnostic_savedHash
    {failure : Failure}
    (hashless : failure.IsHashless) :
    (preparationDiagnostic failure).savedHash = none := by
  have coordinated :
      ∀ {code diagnostic},
        coordinatorDiagnostic code = some diagnostic →
        diagnostic.savedHash = none := by
    intro code diagnostic isDiagnostic
    unfold coordinatorDiagnostic at isDiagnostic
    dsimp only at isDiagnostic
    repeat' split at isDiagnostic
    all_goals cases isDiagnostic
    all_goals rfl
  unfold preparationDiagnostic
  split
  · exact hashless _ rfl
  · dsimp only
    split
    · rename_i isDiagnostic
      exact coordinated isDiagnostic
    · split <;> rfl
  · rfl

end Hashless

/-- A request that sends gas to a managed wallet. -/
structure TreasuryTransactionRequest.FundsWallet
    (request : TreasuryTransactionRequest) :
    Prop where
  targetType : request.targetType = .approvalFunding
  data : request.data = ""

/-- A request is for the token operation of its key, or funds a wallet. -/
def TreasuryTransactionRequest.IsTargeted
    (request : TreasuryTransactionRequest) :
    Prop :=
  (request.targetType = .tokenOperation ∧
      request.targetOperationKey = none) ∨
    request.FundsWallet

/--
What a preparation leaves: a saved hash, for an operation also with its row,
and bytes only with their own hash.
-/
structure TreasuryPreparation.IsPrepared
    (platform : Platform)
    (request : TreasuryTransactionRequest)
    (preparation : TreasuryPreparation)
    (reached : Past) :
    Prop where
  sawHash :
    request.targetType = .tokenOperation →
    SawHash request.operationKey preparation.lease.txHash reached
  savedFor :
    ∀ rawTransaction,
      preparation.rawTransaction = some rawTransaction →
      SavedFor platform request.operationKey rawTransaction reached

/-- What a submission returns or throws names only a saved hash. -/
structure Submits
    (operationKey : String)
    (result : Except Failure TransactionReliabilityResult)
    (reached : Past) :
    Prop where
  returned :
    ∀ tx, result = .ok tx → SawHash operationKey tx.txHash reached
  thrown :
    ∀ diagnostic hash,
      result = .error (.reliability diagnostic) →
      diagnostic.savedHash = some hash →
      SawHash operationKey hash reached

section Coordinator

variable {platform : Platform} {past : Past}
  {operationKey : String} {targetsOperation : Prop}
  {request : TreasuryTransactionRequest}

theorem submits_of_hashless
    {failure : Failure}
    (hashless : failure.IsHashless) :
    Submits operationKey (.error failure) past where
  returned := fun _ impossible => by cases impossible
  thrown := by
    rintro diagnostic hash ⟨⟩ isSaved
    rw [hashless _ rfl] at isSaved
    cases isSaved

/-- What is signed carries the data of its request. -/
theorem baseRequest_data
    {nonce : Nat}
    {fees : FeeData}
    {base : TransactionRequest}
    (isBase : baseRequest request nonce fees = some base) :
    base.data = orText (some request.data) "0x" := by
  unfold baseRequest at isBase
  dsimp only at isBase
  split at isBase <;> cases isBase <;> rfl

theorem toContext_data
    {signerAddress : String}
    {nonce : Nat}
    {tx : TransactionRequest}
    {context : PreparedTransactionContext}
    (isContext :
      toContext platform request signerAddress nonce tx = some context) :
    context.data = some tx.data := by
  obtain ⟨accessList, _, isContext⟩ :=
    Option.bind_eq_some_iff.mp isContext
  obtain ⟨toAddress, _, isContext⟩ :=
    Option.bind_eq_some_iff.mp isContext
  cases isContext
  rfl

/-- A prepared transaction has its own hash and the data of its request. -/
structure PreparedTreasuryTransaction.IsSigned
    (platform : Platform)
    (request : TreasuryTransactionRequest)
    (prepared : PreparedTreasuryTransaction) :
    Prop where
  txHash :
    prepared.txHash = (platform.keccak256 prepared.rawTransaction).text
  data :
    prepared.context.data = some (orText (some request.data) "0x")

/-- The callbacks of a preparation sign the bytes of the request. -/
theorem prepareTransaction_signs
    {signerAddress : String}
    {nonce : Nat} :
    (prepareTransaction platform request signerAddress nonce).Obeys
      (outsideOnly fun request => request.broadcasts = false) past
      fun result _ =>
        ∀ prepared,
          result = .ok prepared →
          prepared.IsSigned platform request := by
  unfold prepareTransaction estimateGas signTransaction
  simp only [Program.obeys_bind, Program.obeys_recover, obeys_chain,
    obeys_throwFailure]
  refine ⟨rfl, fun fees => ?_, fun error _ impossible => by
    cases impossible⟩
  cases isBase : baseRequest request nonce fees with
  | none =>
      intro prepared impossible
      cases impossible
  | some base =>
      simp only [Program.obeys_bind, Program.obeys_recover, obeys_chain,
        obeys_throwFailure]
      refine ⟨rfl, fun gasLimit => ⟨rfl, fun rawTransaction => ?_,
        fun error _ impossible => by cases impossible⟩,
        fun error => ?_⟩
      · cases isContext :
          toContext platform request signerAddress nonce
            { base with gasLimit := some gasLimit } with
        | none =>
            intro prepared impossible
            cases impossible
        | some context =>
            intro prepared isPrepared
            cases isPrepared
            have sameData := baseRequest_data isBase
            exact
              ⟨rfl, (toContext_data isContext).trans
                (congrArg some sameData)⟩
      · split
        · intro prepared impossible
          cases impossible
        · intro prepared impossible
          cases impossible

theorem getPendingNonce_asksOutside {signerAddress : String} :
    AsksOutside (fun request => request.broadcasts = false)
      (getPendingNonce signerAddress) := by
  intro past
  unfold getPendingNonce
  rw [Program.obeys_recover, obeys_chain]
  exact ⟨rfl, fun _ => trivial, fun _ => trivial⟩

theorem prepare_conforms
    {signerAddress : String}
    (isTargeted : request.IsTargeted) :
    (TreasuryTransactions.prepare
      (request.preparation platform signerAddress)).Obeys
      (executorProtocol platform) past fun result reached =>
        (∀ preparation,
          result = .ok preparation →
          preparation.IsPrepared platform request reached) ∧
          ∀ failure, result = .error failure → failure.IsHashless := by
  have prepares :
      (TreasuryTransactions.prepare
        (request.preparation platform signerAddress)).Obeys
        ((request.preparation platform signerAddress).protocol
          (fun asked => asked.broadcasts = false)
          fun _ prepared _ => prepared.IsSigned platform request)
        past _ :=
    TreasuryTransactionPreparationRequest.prepare_obeys
      getPendingNonce_asksOutside fun nonce past =>
        prepareTransaction_signs
  have embedded :
      (TreasuryTransactions.prepare
        (request.preparation platform signerAddress)).Obeys
        (executorProtocol platform) past _ :=
    prepares.embed fun reached op _ permitted => by
      cases op with
      | write change =>
          obtain ⟨allocation, rfl⟩ := permitted
          exact ⟨Or.inl (.prepare allocation), trivial⟩
      | chain asked =>
          exact
            @executorProtocol_of_isQuiet platform reached (.chain asked)
              permitted.1
      | _ =>
          trivial
  refine
    (embedded.throwing
      (prepare_throwsHashless getPendingNonce_throwsHashless
        fun _ => prepareTransaction_throwsHashless)).weaken ?_
  rintro result reached ⟨⟨⟨ends, _⟩, _⟩, hashless⟩
  refine ⟨fun preparation isPreparation => ?_, hashless⟩
  have ownTarget :
      request.targetType = .tokenOperation →
      (request.preparation platform signerAddress).targetKey =
        request.operationKey := by
    intro isOperation
    rcases isTargeted with ⟨_, ownKey⟩ | funds
    · unfold TreasuryTransactionPreparationRequest.targetKey
      show orText request.targetOperationKey _ = _
      rw [ownKey]
      rfl
    · cases isOperation.symm.trans funds.targetType
  cases ends preparation isPreparation with
  | @existing lease matching =>
      have shape := matching
      simp only [treasuryIntentMatches, Bool.and_eq_true, beq_iff_eq]
        at shape
      have sameType := shape.1.1.1.1.1.1.1
      have sameTarget := shape.1.1.1.1.1.1.2
      exact
        ⟨fun isOperation =>
          .ofLease
            (List.mem_cons_of_mem _ List.mem_cons_self)
            ⟨sameType.trans isOperation,
              sameTarget.trans (ownTarget isOperation)⟩ rfl,
          fun _ impossible => by cases impossible⟩
  | @allocated before stored allocation =>
      have targets :
          request.targetType = .tokenOperation →
          allocation.lease.Targets request.operationKey :=
        fun isOperation =>
          ⟨isOperation, (orText_again _ _).trans (ownTarget isOperation)⟩
      refine
        ⟨fun isOperation =>
          .saved (List.mem_cons_of_mem _ List.mem_cons_self)
            (targets isOperation) rfl,
          ?_⟩
      rintro rawTransaction ⟨⟩
      have isFunding :
          request.FundsWallet → allocation.lease.FundsWallet :=
        fun funds =>
          ⟨funds.targetType, allocation.isSigned.data.trans
            (by rw [funds.data]; rfl)⟩
      refine
        .saved rfl (isTargeted.imp (fun own => targets own.1) isFunding)
          ?_
      have isHash := allocation.isHash
      rw [allocation.isSigned.txHash, canonicalTransactionHash_text]
        at isHash
      exact Option.some.inj isHash

/-- A lease that is moved to review is named by its own hash. -/
theorem reviewLease_submits
    {leaseKey : String}
    {stage : DiagnosticStage}
    {errorCode : String}
    {rpcMethod : Option String}
    {lease : TreasuryLease}
    (sawHash :
      targetsOperation → SawHash operationKey lease.txHash past) :
    (reviewLease leaseKey
      (savedHashDiagnostic stage errorCode lease rpcMethod) :
      Call TransactionReliabilityResult).Obeys
      (executorProtocol platform) past fun result reached =>
        targetsOperation → Submits operationKey result reached := by
  have marks :
      (TreasuryTransactions.markUnknown leaseKey
        (savedHashDiagnostic stage errorCode lease rpcMethod)
        errorCode).ConformsFrom (executorProtocol platform) past := by
    refine obeys_of_store leaseMarkUnknown_obeys ?_ ?_
    · rintro reached change rfl
      exact .updateLease
    · rintro reached change _ rfl
      trivial
  unfold reviewLease
  rw [Program.obeys_bind, Program.obeys_attempt]
  refine marks.grows.weaken fun _ reached established => ?_
  have throws :
      targetsOperation →
      Submits operationKey
        (.error
          (.reliability
            (savedHashDiagnostic stage errorCode lease rpcMethod)))
        reached := by
    intro targets
    refine ⟨?_, ?_⟩
    · rintro tx ⟨⟩
    · rintro diagnostic hash ⟨⟩ ⟨⟩
      exact (sawHash targets).subset established.2
  exact throws

/-- The bytes are sent once, right after their hash was saved. -/
theorem broadcast_submits
    {rawTransaction : String}
    {lease : TreasuryLease}
    (sawHash :
      targetsOperation → SawHash operationKey lease.txHash past)
    (savedFor : SavedFor platform operationKey rawTransaction past) :
    (broadcast operationKey rawTransaction lease).Obeys
      (executorProtocol platform) past fun result reached =>
        targetsOperation → Submits operationKey result reached := by
  have seenOnceSent :
      ∀ answer,
        targetsOperation →
        SawHash operationKey lease.txHash
          (⟨.chain (.broadcastTransaction operationKey rawTransaction),
            answer⟩ :: past) :=
    fun _ targets =>
      (sawHash targets).subset (List.subset_cons_self _ _)
  have marks :
      ∀ past,
        (TreasuryTransactions.markSubmitted operationKey
          lease.txHash.text).ConformsFrom (executorProtocol platform)
          past := by
    intro past
    refine obeys_of_store leaseMarkSubmitted_obeys ?_ ?_
    · rintro reached change ⟨hash, _, rfl⟩
      exact .updateLease
    · rintro reached change _ ⟨hash, _, rfl⟩
      trivial
  unfold broadcast
  rw [Program.obeys_bind, Program.obeys_attempt, obeys_chain]
  refine ⟨savedFor, fun responseHash => ?_, fun error => ?_⟩
  · dsimp only
    split
    · exact reviewLease_submits (seenOnceSent _)
    · rw [Program.obeys_bind, Program.obeys_attempt]
      refine (marks _).grows.weaken ?_
      rintro (failure | marked) reached ⟨_, grown⟩
      · exact
          reviewLease_submits fun targets =>
            (seenOnceSent _ targets).subset grown
      · refine fun targets => ⟨fun tx isTx => ?_, fun _ _ impossible =>
          by cases impossible⟩
        cases isTx
        exact (seenOnceSent _ targets).subset grown
  · exact reviewLease_submits (seenOnceSent _)

theorem broadcastPrepared_submits
    {preparation : TreasuryPreparation}
    (prepared : preparation.IsPrepared platform request past) :
    (broadcastPrepared request preparation).Obeys
      (executorProtocol platform) past fun result reached =>
        request.targetType = .tokenOperation →
        Submits request.operationKey result reached := by
  unfold broadcastPrepared
  split
  · rename_i rawTransaction _ isRaw
    exact
      broadcast_submits prepared.sawHash
        (prepared.savedFor rawTransaction isRaw)
  · split
    · exact reviewLease_submits prepared.sawHash
    · refine fun targets => ⟨fun tx isTx => ?_, fun _ _ impossible => by
        cases impossible⟩
      cases isTx
      exact prepared.sawHash targets

theorem checksummedSigner_isQuiet :
    Issues Op.isQuiet (checksummedSigner platform) := by
  refine .bind (.attempt (.ofChain rfl)) ?_
  rintro (failure | address)
  · exact .ofThrow
  · dsimp only
    split
    · exact .ofThrow
    · exact .ofPure

theorem checksummedSigner_throwsHashless :
    (checksummedSigner platform).ThrowsOnly Failure.IsHashless := by
  have unavailable :
      ∀ diagnostic : TransactionDiagnostic,
        diagnostic.savedHash = none →
        (throwFailure (.reliability diagnostic) :
          Call String).ThrowsOnly Failure.IsHashless := by
    rintro diagnostic noHash other ⟨⟩
    exact noHash
  refine Program.ThrowsOnly.bind (.attempt _) ?_
  rintro (failure | address)
  · exact unavailable _ rfl
  · dsimp only
    split
    · exact unavailable _ rfl
    · trivial

/-- What the coordinator sends, returns or throws is of its own operation. -/
theorem prepareAndBroadcastTransaction_obeys
    (isTargeted : request.IsTargeted) :
    (prepareAndBroadcastTransaction platform request).Obeys
      (executorProtocol platform) past fun result reached =>
        request.targetType = .tokenOperation →
        Submits request.operationKey result reached := by
  unfold prepareAndBroadcastTransaction
  split
  · refine fun _ => submits_of_hashless ?_
    rintro diagnostic ⟨⟩
    rfl
  rw [Program.obeys_bind]
  refine
    (Program.Obeys.throwing
      (follows_of_quiet checksummedSigner_isQuiet past)
      checksummedSigner_throwsHashless).weaken ?_
  rintro (failure | signerAddress) reached ⟨_, hashless⟩
  · exact fun _ => submits_of_hashless (hashless failure rfl)
  dsimp only
  rw [Program.obeys_bind, Program.obeys_recover]
  refine (prepare_conforms isTargeted).weaken ?_
  rintro (failure | preparation) prepared ⟨isPrepared, prepareHashless⟩
  · refine fun _ => submits_of_hashless ?_
    rintro diagnostic ⟨⟩
    exact
      preparationDiagnostic_savedHash (prepareHashless failure rfl)
  · exact broadcastPrepared_submits (isPrepared preparation rfl)

/-- The same, for a token operation that is paid under its own key. -/
theorem prepareAndBroadcastTransaction_submits
    (isOperation : request.targetType = .tokenOperation)
    (ownKey : request.targetOperationKey = none) :
    (prepareAndBroadcastTransaction platform request).Obeys
      (executorProtocol platform) past
      (Submits request.operationKey) :=
  (prepareAndBroadcastTransaction_obeys
    (Or.inl ⟨isOperation, ownKey⟩)).weaken
    fun _ _ submits => submits isOperation

end Coordinator

end Sparkz
