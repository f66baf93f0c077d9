import Sparkz.AwardExecutor
import Sparkz.ExecutorConformance

namespace Sparkz

open Interleaving

/-!
# What an award issues

`processAwardFromCDR` is followed from its lookup to its projection.  An award
without tokens is finished without a hash; every other one is projected like a
spend, from the row that was found or inserted.
-/

/-! ## Projection -/

section Projection

variable {platform : Platform} {past : Past}
  {operation : OperationView} {projection : AwardProjection}
  {award : AwardResult}

theorem approveManagedWallet_isQuiet :
    Issues Op.isQuiet (approveManagedWallet projection award) := by
  unfold approveManagedWallet
  split
  · refine .bind (.attempt getTreasuryAddress_isQuiet) ?_
    rintro (failure | treasuryAddress)
    · exact .ofPure
    · exact .ofNote trivial
  · exact .ofPure

theorem recordAndProjectAward_conforms
    {txHash : TransactionHash}
    (projects : Projects .award operation txHash past) :
    (recordAndProjectAward platform operation projection award
      txHash).ConformsFrom (executorProtocol platform) past := by
  have mayConfirm :
      ∀ {reached : Past},
        past ⊆ reached →
        ∃ operationType view hash,
          view.operationKey = operation.operationKey ∧
            Projects operationType view hash reached :=
    fun grown => ⟨.award, operation, txHash, rfl, projects.subset grown⟩
  refine Program.ConformsFrom.bind note_conforms fun _ noted isNoted _ =>
    Program.ConformsFrom.bindAttempt
      (recordAward_conforms ?_) fun result reached grown _ => ?_
  · intro reached user amount hash balance later isHash canonical
    rw [canonicalTransactionHash_text] at isHash
    cases isHash
    exact ⟨operation, projects.subset (List.Subset.trans isNoted later)⟩
  · have sinceStart := List.Subset.trans isNoted grown
    rcases result with failure | recorded
    · exact
        Program.ConformsFrom.bindAttempt
          (updateOrFind_conforms rfl fun later after =>
            mayConfirm (List.Subset.trans sinceStart after))
          fun _ _ _ _ => trivial
    · refine Program.ConformsFrom.bind note_conforms
        fun _ later after _ =>
          Program.ConformsFrom.bindAttempt
            (settle_conforms rfl fun last afterwards =>
              Or.inl
                (mayConfirm
                  (List.Subset.trans sinceStart
                    (List.Subset.trans after afterwards)))) ?_
      rintro (failure | projected) finished _ _
      · trivial
      · exact
          Program.ConformsFrom.bind
            (follows_of_quiet approveManagedWallet_isQuiet finished)
            fun _ _ _ _ => trivial

theorem awardEvidencePending_conforms
    {savedError resultError : String}
    {requiresReview : Bool}
    {diagnostic : TransactionDiagnostic} :
    (awardEvidencePending operation award savedError resultError
      requiresReview diagnostic).ConformsFrom
      (executorProtocol platform) past :=
  Program.ConformsFrom.bindAttempt markUnknown_conforms
    fun _ _ _ _ => trivial

theorem awardEvidenceRejected_conforms
    {failure : SpendEvidenceFailure} :
    (awardEvidenceRejected operation award failure).ConformsFrom
      (executorProtocol platform) past := by
  refine Program.ConformsFrom.bindAttempt markFailed_conforms ?_
  rintro (storeFailure | failed) reached _ _
  · trivial
  · exact Program.Follows.ofIte .ofPure .ofPure reached

/-- A check that was made before the projection, or is made in it. -/
structure AwardProjection.Verifies
    (platform : Platform)
    (projection : AwardProjection)
    (movement : TokenMovement)
    (verify : Call SpendEvidenceResult)
    (past : Past) :
    Prop where
  verify : VerifiesFrom platform movement past verify
  preverified :
    ∀ evidence,
      projection.preverifiedEvidence = some evidence →
      VerifiesFrom platform movement past (pure evidence)

theorem verifyAndProjectAward_conforms
    {txHash : TransactionHash}
    {verify : Call SpendEvidenceResult}
    (isHash : operation.txHash = some txHash)
    (viewed : Viewed .award operation past)
    (verifies :
      projection.Verifies platform (operation.movement .award txHash)
        verify past) :
    (verifyAndProjectAward platform operation projection award txHash
      verify).ConformsFrom (executorProtocol platform) past := by
  unfold verifyAndProjectAward
  extract_lets continues
  have conforms :
      ∀ verified reached,
        past ⊆ reached →
        (∀ evidence,
          verified = .ok (.ok evidence) →
          Proven (operation.movement .award txHash) reached) →
        (continues verified).ConformsFrom (executorProtocol platform)
          reached := by
    rintro (failure | failure | evidence) reached grown proven
    · exact awardEvidencePending_conforms
    · dsimp only [continues]
      split
      · exact awardEvidencePending_conforms
      · exact awardEvidenceRejected_conforms
    · have projects : Projects .award operation txHash reached :=
        ⟨isHash, viewed.subset grown, .proven (proven evidence rfl)⟩
      refine Program.ConformsFrom.bindAttempt
        (updateOrFind_conforms rfl fun later after =>
          ⟨.award, operation, txHash, rfl, projects.subset after⟩) ?_
      rintro (failure | confirmed) later after _
      · trivial
      · exact recordAndProjectAward_conforms (projects.subset after)
  split
  · rename_i evidence isPreverified
    refine conforms _ past (List.Subset.refl past) ?_
    intro valid isValid
    exact
      verifies.preverified _ isPreverified past (List.Subset.refl past)
        valid isValid
  · exact
      Program.ConformsFrom.bindAttempt
        (verifies.verify past (List.Subset.refl past)) conforms

theorem projectHashlessAward_conforms
    (viewed : Viewed .award operation past) :
    (projectHashlessAward operation award).ConformsFrom
      (executorProtocol platform) past := by
  obtain ⟨row, saw, isAward, _⟩ := viewed.row
  unfold projectHashlessAward
  split
  · refine Program.ConformsFrom.bindAttempt
      (settle_conforms rfl fun later after =>
        Or.inr ⟨row, saw.subset after, isAward⟩) ?_
    rintro (failure | projected) _ _ _ <;> trivial
  · trivial

/-- A projection records what was seen saved, and verified or confirmed. -/
theorem projectAwardOperation_conforms
    {verifyEvidence : Option (Call SpendEvidenceResult)}
    (viewed : Viewed .award operation past)
    (trusted :
      ∀ hash,
        operation.txHash = some hash →
        operation.status = .confirmed →
        Trusted .award operation hash past)
    (verifies :
      ∀ hash,
        operation.txHash = some hash →
        ∃ verify,
          verifyEvidence = some verify ∧
            projection.Verifies platform
              (operation.movement .award hash) verify past) :
    (projectAwardOperation platform operation projection
      verifyEvidence).ConformsFrom (executorProtocol platform)
      past := by
  unfold projectAwardOperation Program.ConformsFrom
  rw [Program.obeys_bind, obeys_note]
  refine ⟨trivial, ?_⟩
  have grown :
      past ⊆ ⟨.note (.projecting .award operation), ()⟩ :: past :=
    List.subset_cons_self _ _
  dsimp only
  split
  · trivial
  · trivial
  · rename_i notFailed notProjected
    split
    · exact projectHashlessAward_conforms (viewed.subset grown)
    · rename_i txHash isHash
      obtain ⟨verify, isVerify, checks⟩ := verifies txHash isHash
      rw [isVerify]
      dsimp only
      split
      · exact
          verifyAndProjectAward_conforms isHash (viewed.subset grown)
            ⟨fun reached later =>
                checks.verify reached (List.Subset.trans grown later),
              fun evidence isEvidence reached later =>
                checks.preverified evidence isEvidence reached
                  (List.Subset.trans grown later)⟩
      · rename_i notWaiting
        refine recordAndProjectAward_conforms
          ⟨isHash, viewed.subset grown, ?_⟩
        cases isStatus : operation.status with
        | submitting =>
            exact .submitting List.mem_cons_self isStatus
        | confirmed =>
            exact (trusted txHash isHash isStatus).subset grown
        | failed =>
            exact absurd isStatus notFailed
        | projected =>
            exact absurd isStatus notProjected
        | submitted =>
            exact absurd (Or.inl isStatus) notWaiting
        | unknown =>
            exact absurd (Or.inr (Or.inl isStatus)) notWaiting

end Projection

/-! ## The claimed award -/

/-- The call has claimed the row of this award. -/
def ClaimedAward.Owned (claimed : ClaimedAward) (past : Past) : Prop :=
  ∃ row,
    SawRow claimed.operationKey row past ∧
      row.operationType = .award ∧
      lowerText row.walletAddress = lowerText claimed.userWalletAddress

section Claimed

variable {platform : Platform} {past : Past} {claimed : ClaimedAward}

theorem ClaimedAward.Owned.subset
    {reached : Past}
    (owned : claimed.Owned past)
    (grown : past ⊆ reached) :
    claimed.Owned reached :=
  owned.imp fun _ seen => ⟨seen.1.subset grown, seen.2⟩

/-- The operation in memory is the claimed row with its saved hash. -/
theorem ClaimedAward.Owned.viewed
    {status : OperationStatus}
    {txHash : TransactionHash}
    {diagnostic : Option TransactionDiagnostic}
    (owned : claimed.Owned past)
    (sawHash : SawHash claimed.operationKey txHash past) :
    Viewed .award (claimed.operation status txHash diagnostic)
      past where
  row :=
    owned.imp fun _ seen =>
      ⟨seen.1, seen.2.1, seen.2.2, fun impossible => by
        cases impossible⟩
  hash := by
    rintro hash ⟨⟩
    exact sawHash

/-- The evidence of an award is about the wallet that it names. -/
theorem ClaimedAward.evidence_proves
    (claimed : ClaimedAward)
    (view : OperationView)
    {amount : TokenAmount}
    {txHash : TransactionHash} :
    (claimed.evidence view.walletAddress amount txHash).Proves
      (view.movement .award txHash) :=
  ⟨rfl, rfl, fun impossible => by cases impossible⟩

/-- What the encoders throw leads to no hash. -/
theorem submitAward_submits
    {signer : TreasurySigner}
    {recipient : String}
    {amount : JsNumber}
    {operationKey : String}
    {assetContext : TokenAssetContext}
    (plainly : platform.EncodesPlainly) :
    (submitAward platform signer recipient amount operationKey
      assetContext).Obeys (executorProtocol platform) past
      (Submits operationKey) := by
  have refused :
      ∀ message : String,
        (throwFailure (.error message) :
          Call TransactionReliabilityResult).Obeys
          (executorProtocol platform) past (Submits operationKey) := by
    intro message
    refine submits_of_hashless ?_
    rintro diagnostic ⟨⟩
  unfold submitAward
  split
  · exact refused _
  split
  · exact refused _
  rename_i canonicalAmount _ _
  rw [Program.obeys_bind, obeys_orThrow]
  cases isData : platform.encodeTransfer recipient
      canonicalAmount.baseUnits with
  | error failure =>
      exact
        submits_of_hashless (plainly.transfer _ _ failure isData)
  | ok data =>
      exact prepareAndBroadcastTransaction_submits rfl rfl

theorem awardOutcomeUnknown_conforms
    {diagnostic : Option TransactionDiagnostic} :
    (awardOutcomeUnknown claimed diagnostic).ConformsFrom
      (executorProtocol platform) past :=
  Program.ConformsFrom.bindAttempt markUnknown_conforms
    fun _ _ _ _ => trivial

theorem awardSubmissionFailed_conforms
    {failure : Failure}
    (owned : claimed.Owned past)
    (thrown :
      ∀ diagnostic hash,
        failure = .reliability diagnostic →
        diagnostic.savedHash = some hash →
        SawHash claimed.operationKey hash past) :
    (awardSubmissionFailed platform claimed failure).ConformsFrom
      (executorProtocol platform) past := by
  unfold awardSubmissionFailed
  split
  · rename_i diagnostic
    split
    · exact
        Program.ConformsFrom.bindAttempt markPreflightFailed_conforms
          fun _ _ _ _ => trivial
    · split
      · rename_i savedHash isSaved _
        have sawHash := thrown diagnostic savedHash rfl isSaved
        refine Program.ConformsFrom.bindAttempt
          verifySpendEvidence_notes ?_
        rintro (failure | evidence) reached grown noted
        · exact awardOutcomeUnknown_conforms
        · refine projectAwardOperation_conforms
            ((owned.subset grown).viewed (sawHash.subset grown)) ?_ ?_
          · rintro hash ⟨⟩ ⟨⟩
          · rintro hash ⟨⟩
            have proven : VerifiesFrom platform _ _ _ :=
              verifiesFrom_pure (noted evidence rfl)
                (claimed.evidence_proves
                  (claimed.operation .unknown savedHash
                    (some diagnostic)))
            refine ⟨_, rfl, proven, ?_⟩
            rintro other ⟨⟩
            exact proven
      · exact awardOutcomeUnknown_conforms
  · exact awardOutcomeUnknown_conforms

theorem projectSubmittedAward_conforms
    {tx : TransactionReliabilityResult}
    (owned : claimed.Owned past)
    (sawHash : SawHash claimed.operationKey tx.txHash past) :
    (projectSubmittedAward platform claimed tx).ConformsFrom
      (executorProtocol platform) past := by
  refine Program.ConformsFrom.bindAttempt markSubmitted_conforms ?_
  rintro (failure | marked) reached grown _
  · exact
      Program.ConformsFrom.bindAttempt markUnknown_conforms
        fun _ _ _ _ => trivial
  · refine projectAwardOperation_conforms
      ((owned.subset grown).viewed (sawHash.subset grown)) ?_ ?_
    · rintro hash ⟨⟩ ⟨⟩
    · rintro hash ⟨⟩
      refine ⟨_, rfl,
        verifiesFrom_verifySpendEvidence
          (claimed.evidence_proves
            (claimed.operation .submitted tx.txHash none)), ?_⟩
      rintro other ⟨⟩

/-- What an award does with the row it has acquired. -/
theorem executeClaimedAward_conforms
    (plainly : platform.EncodesPlainly)
    (owned : claimed.Owned past) :
    (executeClaimedAward platform claimed).ConformsFrom
      (executorProtocol platform) past := by
  unfold executeClaimedAward
  split
  · obtain ⟨row, saw, isAward, _⟩ := owned
    refine Program.ConformsFrom.bindAttempt
      (settle_conforms rfl fun later after =>
        Or.inr ⟨row, saw.subset after, isAward⟩) ?_
    rintro (failure | projected) _ _ _ <;> trivial
  · refine Program.ConformsFrom.bindAttempt
      (submitAward_submits plainly) ?_
    rintro (failure | tx) reached grown submits
    · exact
        awardSubmissionFailed_conforms (owned.subset grown)
          fun diagnostic hash isFailure =>
            submits.thrown diagnostic hash (congrArg _ isFailure)
    · exact
        projectSubmittedAward_conforms (owned.subset grown)
          (submits.returned tx rfl)

/-- A request that did not acquire the row projects it as it was read. -/
theorem replayClaimedAward_conforms
    {readKey : String}
    {row : TokenOperation}
    (hasProvider : claimed.signer.provider = true)
    (member : ⟨.read (.operation readKey), .ok (some row)⟩ ∈ past)
    (isAward : row.operationType = .award) :
    (replayClaimedAward platform claimed row).ConformsFrom
      (executorProtocol platform) past := by
  unfold replayClaimedAward
  split
  · trivial
  · refine projectAwardOperation_conforms
      (isAward ▸ viewed_of_read member) ?_ ?_
    · intro hash isHash isConfirmed
      exact isAward ▸ trusted_of_read member isHash isConfirmed
    · intro hash isHash
      have isSaved : row.txHash = some hash := isHash
      rw [isSaved, hasProvider]
      refine ⟨_, rfl,
        verifiesFrom_verifySpendEvidence
          (claimed.evidence_proves row.view), ?_⟩
      rintro other ⟨⟩

theorem claimAndExecuteAward_conforms
    (plainly : platform.EncodesPlainly)
    (hasProvider : claimed.signer.provider = true) :
    (claimAndExecuteAward platform claimed).ConformsFrom
      (executorProtocol platform) past := by
  refine Program.ConformsFrom.bindAttempt
    (claim_conforms fun _ impossible => by cases impossible) ?_
  intro result reached _ ends
  split
  · trivial
  · trivial
  · trivial
  · rename_i row acquired
    have saw := ends _ rfl
    split
    · trivial
    · cases saw with
      | existing member isType isWallet =>
          exact
            replayClaimedAward_conforms hasProvider member isType
      | acquired canonical saw isType isWallet isAmount =>
          exact
            executeClaimedAward_conforms plainly
              ⟨_, saw, isType, isWallet⟩

end Claimed

/-! ## The whole award -/

section Execution

variable {platform : Platform} {past : Past}
  {signer : TreasurySigner} {request : AwardRequest}

/-- Only a signer with a provider has an asset context. -/
theorem awardAssetContext_conforms :
    (awardAssetContext signer).Obeys (executorProtocol platform) past
      fun result _ =>
        ∀ assetContext,
          result = .ok assetContext → signer.provider = true := by
  cases hasProvider : signer.provider with
  | true =>
      refine
        (follows_of_quiet
          (.bind getTreasuryAddress_isQuiet fun _ =>
            getTokenAssetContext_isQuiet) past).weaken ?_
      exact fun _ _ _ _ _ => rfl
  | false =>
      unfold awardAssetContext
      rw [Program.obeys_bind]
      refine (follows_of_quiet getTreasuryAddress_isQuiet past).weaken ?_
      rintro (failure | treasuryAddress) reached _
      · intro assetContext impossible
        cases impossible
      · dsimp only
        unfold getTokenAssetContext
        rw [hasProvider]
        intro assetContext impossible
        cases impossible

theorem executeAward_conforms
    {userWalletAddress : String}
    {walletMode : WalletMode}
    (plainly : platform.EncodesPlainly) :
    (executeAward platform request userWalletAddress
      walletMode).ConformsFrom (executorProtocol platform) past := by
  refine Program.ConformsFrom.bindAttempt awardAssetContext_conforms ?_
  rintro (failure | assetContext) reached _ provided
  · dsimp only
    split <;> trivial
  · have hasProvider := provided assetContext rfl
    dsimp only
    split
    · trivial
    · unfold snapshotAndClaimAward
      split
      · trivial
      · dsimp only
        split
        · exact claimAndExecuteAward_conforms plainly hasProvider
        · split
          · trivial
          · exact claimAndExecuteAward_conforms plainly hasProvider

theorem executeSavedAward_conforms
    {readKey : String}
    {existing : TokenOperation}
    (plainly : platform.EncodesPlainly)
    (member : ⟨.read (.operation readKey), .ok (some existing)⟩ ∈ past) :
    (executeSavedAward platform request existing).ConformsFrom
      (executorProtocol platform) past := by
  have asks :
      (savedWalletMode request.award.uid).ConformsFrom
        (executorProtocol platform) past := by
    refine Program.ConformsFrom.bind service_conforms ?_
    rintro (failure | config) _ _ _ <;> trivial
  refine Program.ConformsFrom.bind asks fun walletMode reached grown _ => ?_
  split
  · trivial
  · rename_i accepted
    have isAward : existing.operationType = .award := by
      by_contra notAward
      unfold awardRecoveryIntentMismatch at accepted
      rw [if_pos notAward] at accepted
      cases accepted
    split
    · rename_i isZero
      refine projectAwardOperation_conforms
        (isAward ▸ viewed_of_read (grown member)) ?_ ?_
      · intro hash isHash
        cases isZero.2.symm.trans isHash
      · intro hash isHash
        cases isZero.2.symm.trans isHash
    · exact executeAward_conforms plainly

theorem executeNewAward_conforms
    {hasDeduplicationCheck : Bool}
    (plainly : platform.EncodesPlainly) :
    (executeNewAward platform request hasDeduplicationCheck).ConformsFrom
      (executorProtocol platform) past := by
  have refuses :
      (deduplicationRefusal request.award
        hasDeduplicationCheck).ConformsFrom
        (executorProtocol platform) past := by
    unfold deduplicationRefusal
    split
    · trivial
    · refine Program.ConformsFrom.bind service_conforms ?_
      intro checked reached _ _
      split <;> trivial
  unfold executeNewAward
  split
  · trivial
  · refine Program.ConformsFrom.bind refuses ?_
    rintro (_ | refusal) checked _ _
    · refine Program.ConformsFrom.bind service_conforms ?_
      rintro (failure | config) reached _ _
      · trivial
      · exact executeAward_conforms plainly
    · trivial

theorem lookupAndExecuteAward_conforms
    {normalised : NormalisedSession}
    {rawCDR : RawCdr}
    {operationKey : String}
    {hasDeduplicationCheck : Bool}
    (plainly : platform.EncodesPlainly) :
    (lookupAndExecuteAward platform signer normalised rawCDR operationKey
      hasDeduplicationCheck).ConformsFrom (executorProtocol platform)
      past := by
  have looks :
      (TokenOperations.findByKey operationKey).Obeys
        (executorProtocol platform) past fun result reached =>
          ∀ existing,
            result = .ok (some existing) →
            ⟨.read (.operation operationKey), .ok (some existing)⟩ ∈
              reached := by
    refine obeys_read.mpr ⟨trivial, ?_, ?_⟩
    · rintro result existing ⟨⟩
      exact List.mem_cons_self
    · rintro error existing ⟨⟩
  refine Program.ConformsFrom.bindAttempt looks ?_
  rintro (failure | _ | existing) reached _ wasRead
  · trivial
  · have prepares :
        (prepareAward normalised).ConformsFrom
          (executorProtocol platform) reached := by
      refine Program.ConformsFrom.bind service_conforms
        fun calculated asked _ _ => ?_
      have throws :
          (orThrow calculated).Follows (executorProtocol platform) :=
        .ofExcept
      exact throws.bind (fun _ => .ofPure) asked
    refine Program.ConformsFrom.bindAttempt prepares ?_
    rintro (failure | award) calculated _ _
    · trivial
    · exact executeNewAward_conforms plainly
  · dsimp only
    split
    · trivial
    · exact
        executeSavedAward_conforms plainly (wasRead existing rfl)

/-- `processAwardFromCDR` conforms, whatever was done before. -/
theorem processAwardFromCDR_follows
    {rawCDR : RawCdr}
    {hasDeduplicationCheck : Bool}
    (plainly : platform.EncodesPlainly) :
    (processAwardFromCDR platform signer rawCDR
      hasDeduplicationCheck).Follows (executorProtocol platform) := by
  unfold processAwardFromCDR
  split
  · exact .ofPure
  · exact
      .bind (fun _ => note_conforms) fun _ =>
        .bind
          (.recover (fun _ => lookupAndExecuteAward_conforms plainly)
            fun _ => .ofPure)
          fun _ => .bind (fun _ => note_conforms) fun _ => .ofPure

end Execution

end Sparkz
