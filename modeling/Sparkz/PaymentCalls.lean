import Sparkz.AwardConformance
import Sparkz.CustodialSpendEndpoint
import Sparkz.SpendConformance
import Sparkz.SpendEndpoint
import Sparkz.StoreCalls

namespace Sparkz

open Interleaving

/-!
# Calls that pay

A payment call is one request of a client, of a charging station or of the
settlement of a session, or the approval of a managed wallet.  The endpoints
put receipts and audit entries around their executor, and the custodial
endpoint records only a transfer that the chain has proved to the same request.
-/

/-- What an endpoint issues around its executor. -/
def Op.isEndpoint : Op → Prop
  | .write (.insertReceipt _) => True
  | op => op.isQuiet

section Endpoints

variable {platform : Platform}
  {TOKEN_CONTRACT_ADDRESS : String}

/-- A receipt, or a quiet operation, may be issued after anything. -/
theorem follows_of_endpoint {α : Type}
    {body : Call α}
    (issues : Issues Op.isEndpoint body) :
    body.Follows (executorProtocol platform) := by
  intro past
  refine
    ((issues past).embed fun reached op _ isEndpoint => ?_).weaken
      fun _ _ _ => trivial
  cases op with
  | write change =>
      cases change with
      | insertReceipt receipt =>
          exact ⟨Or.inr rfl, trivial⟩
      | _ =>
          exact isEndpoint.elim
  | _ =>
      exact executorProtocol_of_isQuiet isEndpoint

/-! ## Receipts -/

theorem getAuthoritativeChainId_isEndpoint :
    Issues Op.isEndpoint getAuthoritativeChainId := by
  refine .bind (.attempt (.ofChain rfl)) ?_
  rintro (failure | network)
  · exact .ofThrow
  · refine .bind (.ofService trivial) fun environment => ?_
    split
    · exact .ofPure
    · split
      · exact .ofThrow
      · exact .ofIte .ofThrow .ofPure

theorem findReceipt_isEndpoint
    {txHash : TransactionHash}
    {spelled : String} :
    Issues Op.isEndpoint (findReceipt txHash spelled) := by
  have looksUp :
      ∀ hash, Issues Op.isEndpoint (SpendReceipts.findByTxHash hash) :=
    fun hash =>
      .bind .ofOrThrow fun _ => .bind (.ofRead trivial) fun _ =>
        .ofOrThrow
  refine .bind (looksUp _) ?_
  rintro (_ | record)
  · exact .ofIte (looksUp _) .ofPure
  · exact .ofPure

theorem createAndStoreSpendReceipt_isEndpoint
    {input : SpendReceiptRequest} :
    Issues Op.isEndpoint
      (createAndStoreSpendReceipt platform TOKEN_CONTRACT_ADDRESS
        input) := by
  have expects :
      Issues Op.isEndpoint
        (input.expectation platform TOKEN_CONTRACT_ADDRESS) := by
    refine .bind .ofOrThrow fun amount => .bind .ofOrThrow fun hash =>
      .bind getAuthoritativeChainId_isEndpoint fun chainId =>
        .ofIte .ofThrow ?_
    split
    · exact .ofThrow
    · split
      · exact .ofThrow
      · exact .bind (.ofChain rfl) fun _ => .ofPure
  refine .bind expects fun expected =>
    .bind findReceipt_isEndpoint ?_
  rintro (_ | existing)
  · refine .bind (.ofService trivial) fun issuedAt =>
      .bind (.ofService trivial) fun randomUUID =>
        .bind .ofOrThrow fun payload =>
          .bind (.bind (.ofChain rfl) fun _ =>
            .bind (.ofChain rfl) fun _ => .ofPure) fun signed =>
            .bind (.attempt (.ofWrite trivial)) ?_
    rintro (error | stored)
    · refine .bind (.ofService trivial) fun _ =>
        .bind (.attempt findReceipt_isEndpoint) ?_
      rintro (raceError | _ | raced)
      · exact .ofThrow
      · exact .ofThrow
      · exact .ofOrThrow
    · exact .bind (.ofService trivial) fun _ => .ofPure
  · exact .ofOrThrow

/-! ## `POST /spend` -/

section Spend

variable {signer : TreasurySigner}
  {body : SpendBody}

theorem AdmittedSpend.execute_follows
    {admitted : AdmittedSpend}
    (plainly : platform.EncodesPlainly) :
    (admitted.execute platform signer TOKEN_CONTRACT_ADDRESS).Follows
      (executorProtocol platform) := by
  refine .bind (processSpendWithAutoApproval_follows plainly) ?_
  rintro (result | ⟨result, failure⟩)
  · refine .ofIte (follows_of_endpoint ?_)
      (.bind (fun _ => service_conforms) fun _ => .ofPure)
    refine .bind (.attempt createAndStoreSpendReceipt_isEndpoint) ?_
    rintro (failure | receipt)
    · refine .ofIte .ofPure ?_
      split
      · exact .ofPure
      · exact .ofThrow
    · exact .bind (.ofService trivial) fun _ => .ofPure
  · exact .bind (fun _ => service_conforms) fun _ => .ofPure

theorem SpendBody.admitAndExecute_follows
    {existing : Option TokenOperation}
    {identity : SpendIdentity}
    {amountValue : JsNumber}
    {amount : TokenAmount}
    (plainly : platform.EncodesPlainly) :
    (body.admitAndExecute platform signer TOKEN_CONTRACT_ADDRESS existing
      identity amountValue amount).Follows
      (executorProtocol platform) := by
  refine .ofIte .ofPure (.bind (fun _ => service_conforms) fun config =>
    .bind .ofExcept fun _ => ?_)
  cases existing with
  | some row =>
      exact AdmittedSpend.execute_follows plainly
  | none =>
      refine .bind (follows_of_endpoint (.ofIte .ofThrow
        (.bind (.ofChain rfl) fun units =>
          .bind (.ofRead trivial) fun reserved =>
            .ofIte .ofPure .ofPure))) ?_
      rintro (_ | response)
      · exact AdmittedSpend.execute_follows plainly
      · exact .ofPure

/-- `POST /spend` conforms, whatever was done before. -/
theorem SpendBody.post_follows (plainly : platform.EncodesPlainly) :
    (body.post platform signer TOKEN_CONTRACT_ADDRESS).Follows
      (executorProtocol platform) := by
  have refuses :
      ∀ identity message,
        (SpendBody.refuse identity message).Follows
          (executorProtocol platform) :=
    fun _ _ => .bind (fun _ => service_conforms) fun _ => .ofPure
  have continues :
      ∀ existing identity,
        (body.continueWith platform signer TOKEN_CONTRACT_ADDRESS
          existing identity).Follows (executorProtocol platform) := by
    intro existing identity
    unfold SpendBody.continueWith
    split
    · exact refuses _ _
    · split
      · exact refuses _ _
      · exact SpendBody.admitAndExecute_follows plainly
  have finds :
      (body.findExisting platform).Follows
        (executorProtocol platform) := by
    refine follows_of_endpoint ?_
    unfold SpendBody.findExisting
    split
    · exact .ofPure
    · refine .bind (.attempt (.ofRead trivial)) ?_
      rintro (failure | _ | existing)
      · exact .ofPure
      · exact .ofIte .ofPure .ofPure
      · exact .ofPure
  have handles :
      (body.handle platform signer TOKEN_CONTRACT_ADDRESS).Follows
        (executorProtocol platform) := by
    unfold SpendBody.handle
    split
    · exact .ofPure
    · refine .ofIte (refuses _ _) (.bind finds ?_)
      rintro (response | existing)
      · exact .ofPure
      · dsimp only
        split
        · exact .ofPure
        · exact continues _ _
  refine .bind (.attempt handles) ?_
  rintro (failure | response)
  · exact .bind (fun _ => service_conforms) fun _ => .ofPure
  · exact .ofPure

end Spend

/-! ## `POST /spend/custodial-record` -/

section Custodial

variable {spend : CustodialSpend}
  {past : Past}

/-- The movement that a custodial request reports. -/
def CustodialSpend.movement (spend : CustodialSpend) : TokenMovement where
  operationType := .spend
  walletAddress := spend.walletAddress
  amount := spend.amount
  txHash := spend.txHash

theorem getTreasuryWalletAddress_isEndpoint :
    Issues Op.isEndpoint (getTreasuryWalletAddress platform) := by
  refine .bind (.ofService trivial) fun environment => ?_
  dsimp only
  split
  · exact .ofPure
  · refine .bind (.attempt (.ofChain rfl)) ?_
    rintro (failure | address) <;> exact .ofPure

/-- A request goes on only with a movement that the chain has proved. -/
theorem CustodialSpend.prove_proves :
    (spend.prove platform TOKEN_CONTRACT_ADDRESS).Obeys
      (executorProtocol platform) past fun result reached =>
        result = .ok (.ok ()) →
        Proven spend.movement reached := by
  have refused :
      ∀ {response : CustodialSpendResponse} {reached : Past},
        Program.Obeys (executorProtocol platform)
          (pure (.error response) :
            Call (Except CustodialSpendResponse Unit))
          reached fun result later =>
            result = .ok (.ok ()) → Proven spend.movement later :=
    fun impossible => by cases impossible
  unfold CustodialSpend.prove
  rw [Program.obeys_bind, Program.obeys_attempt]
  refine
    (follows_of_endpoint getAuthoritativeChainId_isEndpoint past).weaken
      ?_
  rintro (failure | chainId) reached _
  · exact refused
  · dsimp only
    rw [Program.obeys_bind]
    refine
      (follows_of_endpoint getTreasuryWalletAddress_isEndpoint
        reached).weaken ?_
    rintro (failure | address) asked _
    · intro impossible
      cases impossible
    · dsimp only
      split
      · exact refused
      · split
        · exact refused
        · rw [Program.obeys_bind]
          refine verifySpendEvidence_notes.weaken ?_
          rintro (failure | failure | evidence) later noted
          · intro impossible
            cases impossible
          · exact refused
          · exact fun _ =>
              ⟨_, evidence, noted _ rfl, rfl, rfl, fun _ => rfl⟩

/-- The number that is recorded is the one of the proved cents. -/
theorem CustodialSpendBody.amountValue_of_spend
    {body : CustodialSpendBody}
    (isSpend : body.spend platform = .ok spend) :
    spend.amountValue = spend.amount.value := by
  unfold CustodialSpendBody.spend at isSpend
  split at isSpend
  · cases isSpend
  split at isSpend
  · rename_i isValue isAmount
    split at isSpend
    · cases isSpend
    · split at isSpend
      · cases isSpend
      · cases isSpend
        unfold BodyValue.getPositiveAmount at isValue
        rw [isAmount] at isValue
        exact
          (Option.some.inj (Option.ite_none_right_eq_some.mp isValue).2).symm
  · cases isSpend

/-- What was proved is recorded, once there is a receipt. -/
theorem CustodialSpend.project_conforms
    {recorded : Call CustodialSpendResponse}
    (isValue : spend.amountValue = spend.amount.value)
    (proven : Proven spend.movement past)
    (answers : recorded.Follows (executorProtocol platform)) :
    (spend.project recorded).ConformsFrom (executorProtocol platform)
      past := by
  refine Program.ConformsFrom.bindAttempt (recordSpend_conforms ?_) ?_
  · intro reached user amount hash balance later isHash canonical
    rw [show spend.recordRequest.txHash = spend.txHash.text from rfl,
      canonicalTransactionHash_text] at isHash
    cases isHash
    refine
      ⟨spend.amount, .ofUnits (isValue ▸ canonical), Or.inl ?_⟩
    exact proven.subset later
  · rintro (failure | ⟨⟩) reached _ _
    · exact Program.Follows.ofIte .ofPure .ofPure reached
    · exact answers reached

theorem CustodialSpend.answerWithReceipt_conforms
    {pendingError : String}
    {answer : SignedSpendReceipt → Call CustodialSpendResponse}
    (answers :
      ∀ signed reached,
        past ⊆ reached →
        (answer signed).ConformsFrom (executorProtocol platform)
          reached) :
    (spend.answerWithReceipt platform TOKEN_CONTRACT_ADDRESS pendingError
      answer).ConformsFrom (executorProtocol platform) past := by
  refine Program.ConformsFrom.bindAttempt
    (follows_of_endpoint createAndStoreSpendReceipt_isEndpoint past) ?_
  rintro (failure | signed) reached grown _
  · refine Program.Follows.ofIte .ofPure ?_ reached
    split
    · exact .ofPure
    · exact .ofFail
  · exact answers signed reached grown

theorem CustodialSpend.answerExisting_follows
    {existing : Spend}
    {existingReceipt : Option SpendReceipt} :
    (spend.answerExisting platform TOKEN_CONTRACT_ADDRESS existing
      existingReceipt).Follows (executorProtocol platform) := by
  unfold CustodialSpend.answerExisting
  split
  · exact .ofPure
  · refine .bind (.attempt (follows_of_endpoint (.ofRead trivial))) ?_
    rintro (failure | owner)
    · exact .ofPure
    · refine .ofIte .ofPure (.ofIte .ofPure ?_)
      exact fun past =>
        CustodialSpend.answerWithReceipt_conforms fun _ _ _ => trivial

theorem CustodialSpend.answerProved_conforms
    (isValue : spend.amountValue = spend.amount.value)
    (proven : Proven spend.movement past) :
    (spend.answerProved platform TOKEN_CONTRACT_ADDRESS).ConformsFrom
      (executorProtocol platform) past := by
  have looksUp :
      ∀ txHash,
        Issues Op.isEndpoint (Spends.findByTxHash txHash) :=
    fun txHash =>
      .bind .ofOrThrow fun _ => .bind (.ofRead trivial) fun _ =>
        .ofOrThrow
  have finds : Issues Op.isEndpoint spend.findExisting := by
    refine .bind (.bind (looksUp _) ?_) fun _ =>
      .bind findReceipt_isEndpoint fun _ => .ofPure
    rintro (_ | existing)
    · exact .ofIte (looksUp _) .ofPure
    · exact .ofPure
  refine Program.ConformsFrom.bindAttempt
    (follows_of_endpoint finds past) ?_
  rintro (failure | ⟨_ | existing, existingReceipt⟩) reached grown _
  · trivial
  · cases existingReceipt with
    | none =>
        exact
          CustodialSpend.answerWithReceipt_conforms
            fun signed later after =>
              CustodialSpend.project_conforms isValue
                (proven.subset (List.Subset.trans grown after))
                (.bind (fun _ => service_conforms) fun _ => .ofPure)
    | some receipt =>
        exact
          CustodialSpend.answerWithReceipt_conforms
            fun signed later after =>
              CustodialSpend.project_conforms isValue
                (proven.subset (List.Subset.trans grown after)) .ofPure
  · exact CustodialSpend.answerExisting_follows reached

/-- `POST /spend/custodial-record` conforms, whatever was done before. -/
theorem CustodialSpendBody.post_follows {body : CustodialSpendBody} :
    (body.post platform TOKEN_CONTRACT_ADDRESS).Follows
      (executorProtocol platform) := by
  have refuses :
      ∀ target response,
        (CustodialSpend.failValidation target response).Follows
          (executorProtocol platform) :=
    fun _ _ => .bind (fun _ => service_conforms) fun _ => .ofPure
  have handles :
      (body.handle platform TOKEN_CONTRACT_ADDRESS).Follows
        (executorProtocol platform) := by
    unfold CustodialSpendBody.handle
    split
    · exact refuses _ _
    · rename_i spend isSpend
      have isValue := CustodialSpendBody.amountValue_of_spend isSpend
      refine .bind (fun _ => service_conforms) fun links =>
        .bind .ofExcept fun linked => .ofIte ?_ (refuses _ _)
      intro past
      refine Program.ConformsFrom.bind CustodialSpend.prove_proves ?_
      rintro (response | ⟨⟩) reached _ proven
      · trivial
      · exact
          CustodialSpend.answerProved_conforms isValue (proven rfl)
  refine .bind (.attempt handles) ?_
  rintro (failure | response)
  · exact .bind (fun _ => service_conforms) fun _ => .ofPure
  · exact .ofPure

end Custodial

end Endpoints

/-! ## Payment calls -/

/-- A balance sampler that sends no transaction. -/
structure QuietSampler where
  call : Call JsNumber
  quiet :
    AsksOutside (fun request => request.broadcasts = false) call

/--
One request to an executor or an endpoint, the approval of a managed wallet
that an award starts beside itself, or a reservation call.
-/
inductive PaymentCall where
  | spend : TreasurySigner → SpendOperationRequest → PaymentCall
  | approvedSpend :
      TreasurySigner →
      (auditEvent : String) →
      SpendOperationRequest →
      PaymentCall
  | award :
      TreasurySigner →
      RawCdr →
      (hasDeduplicationCheck : Bool) →
      PaymentCall
  | postSpend :
      TreasurySigner →
      (TOKEN_CONTRACT_ADDRESS : String) →
      SpendBody →
      PaymentCall
  | custodialRecord :
      (TOKEN_CONTRACT_ADDRESS : String) →
      CustodialSpendBody →
      PaymentCall
  | approve :
      TreasurySigner →
      (uid : JsString) →
      (treasuryAddress : String) →
      (requiredAmount : Option JsNumber) →
      PaymentCall
  | reserve : ReserveRequest → QuietSampler → PaymentCall
  | claimForSettlement :
      (uid sessionId providerId : String) →
      PaymentCall
  | persistSettlementContext :
      (id : String) →
      (deliveredKwh : JsNumber) →
      PaymentCall
  | complete :
      (id : String) →
      (deliveredKwh settledAmount : JsNumber) →
      (txHash : Option String) →
      PaymentCall
  | retry : (id error : String) → PaymentCall

namespace PaymentCall

/-- The program of a payment call. -/
def run (platform : Platform) : PaymentCall → Call Unit
  | .spend signer request =>
      StoreCall.discard (processSpend platform signer request)
  | .approvedSpend signer auditEvent request =>
      StoreCall.discard
        (processSpendWithAutoApproval platform signer auditEvent request)
  | .award signer rawCDR hasDeduplicationCheck =>
      StoreCall.discard
        (processAwardFromCDR platform signer rawCDR
          hasDeduplicationCheck)
  | .postSpend signer TOKEN_CONTRACT_ADDRESS body =>
      StoreCall.discard (body.post platform signer TOKEN_CONTRACT_ADDRESS)
  | .custodialRecord TOKEN_CONTRACT_ADDRESS body =>
      StoreCall.discard (body.post platform TOKEN_CONTRACT_ADDRESS)
  | .approve signer uid treasuryAddress requiredAmount =>
      approveUserForSpendingViaFunding platform signer uid
        treasuryAddress requiredAmount
  | .reserve data sampler =>
      StoreCall.discard
        (SpendReservations.reserve data (some sampler.call))
  | .claimForSettlement uid sessionId providerId =>
      StoreCall.discard
        (SpendReservations.claimForSettlement uid sessionId providerId)
  | .persistSettlementContext id deliveredKwh =>
      StoreCall.discard
        (SpendReservations.persistSettlementContext id deliveredKwh)
  | .complete id deliveredKwh settledAmount txHash =>
      StoreCall.discard
        (SpendReservations.complete id deliveredKwh settledAmount txHash)
  | .retry id error =>
      StoreCall.discard (SpendReservations.retry id error)

/-- Every payment call follows the protocol of the executors. -/
theorem run_follows
    {platform : Platform}
    (plainly : platform.EncodesPlainly)
    (call : PaymentCall) :
    (call.run platform).Follows (executorProtocol platform) := by
  have discards :
      ∀ {α : Type} {body : Call α},
        body.Follows (executorProtocol platform) →
        (StoreCall.discard body).Follows (executorProtocol platform) :=
    fun follows => .bind follows fun _ => .ofPure
  cases call with
  | spend signer request =>
      exact discards (processSpend_follows plainly)
  | approvedSpend signer auditEvent request =>
      exact discards (processSpendWithAutoApproval_follows plainly)
  | award signer rawCDR hasDeduplicationCheck =>
      exact discards (processAwardFromCDR_follows plainly)
  | postSpend signer TOKEN_CONTRACT_ADDRESS body =>
      exact discards (SpendBody.post_follows plainly)
  | custodialRecord TOKEN_CONTRACT_ADDRESS body =>
      exact discards CustodialSpendBody.post_follows
  | approve signer uid treasuryAddress requiredAmount =>
      exact approveUserForSpendingViaFunding_conforms
  | reserve data sampler =>
      refine discards fun past =>
        obeys_of_store
          (reserve_obeys fun sample isSample =>
            Option.some.inj isSample ▸ sampler.quiet)
          (fun _ _ => .reserve) ?_
      rintro reached change _ ⟨_, _, _, _, _, _, rfl⟩
      trivial
  | claimForSettlement uid sessionId providerId =>
      refine discards fun past =>
        obeys_of_store reservationClaimForSettlement_obeys ?_ ?_
      · rintro reached change rfl
        exact .claimForSettlement
      · rintro reached change _ rfl
        trivial
  | persistSettlementContext id deliveredKwh =>
      refine discards fun past =>
        obeys_of_store persistSettlementContext_obeys ?_ ?_
      · rintro reached change ⟨parts, _, rfl⟩
        exact .persistSettlementContext
      · rintro reached change _ ⟨parts, _, rfl⟩
        trivial
  | complete id deliveredKwh settledAmount txHash =>
      refine discards fun past =>
        obeys_of_store complete_obeys ?_ ?_
      · rintro reached change ⟨hash, _, rfl⟩
        exact .complete
      · rintro reached change _ ⟨hash, _, rfl⟩
        trivial
  | retry id error =>
      refine discards fun past => obeys_of_store retry_obeys ?_ ?_
      · rintro reached change rfl
        exact .retry
      · rintro reached change _ rfl
        trivial

/-- Calls before their first operation. -/
abbrev start
    (platform : Platform)
    (shared : Database)
    (calls : Nat → PaymentCall) :
    Config sparkz Failure Database :=
  .initial shared fun thread => (calls thread).run platform

end PaymentCall

end Sparkz
