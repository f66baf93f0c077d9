import Sparkz.ApprovalPreparations
import Sparkz.InterleavingFollows
import Sparkz.CallFootprint
import Sparkz.StoreRuns
import Sparkz.TransactionReliability

namespace Sparkz

open Interleaving

/-!
# What an executor may issue

An executor sends signed bytes right after their hash was saved for its key.
It confirms, projects and records only a movement that it has seen saved, and
that was verified on the chain, read as confirmed, or handed to a projection
while its row was still `submitting`.
-/

/-! ## Movements -/

/-- A movement of tokens as a row, a projection or a ledger entry states it. -/
structure TokenMovement where
  operationType : OperationType
  walletAddress : String
  amount : TokenAmount
  txHash : TransactionHash

/--
Two statements of one movement.  A claim does not compare the amounts of
awards.
-/
structure TokenMovement.Agrees (movement other : TokenMovement) : Prop where
  operationType : movement.operationType = other.operationType
  walletAddress :
    lowerText movement.walletAddress = lowerText other.walletAddress
  amount :
    movement.operationType = .spend → movement.amount = other.amount
  txHash : movement.txHash = other.txHash

namespace TokenMovement.Agrees

variable {first second third : TokenMovement}

theorem refl (movement : TokenMovement) : movement.Agrees movement :=
  ⟨rfl, rfl, fun _ => rfl, rfl⟩

theorem symm (agrees : first.Agrees second) : second.Agrees first :=
  ⟨agrees.operationType.symm, agrees.walletAddress.symm,
    fun isSpend =>
      (agrees.amount (agrees.operationType.trans isSpend)).symm,
    agrees.txHash.symm⟩

theorem trans
    (agrees : first.Agrees second)
    (continues : second.Agrees third) :
    first.Agrees third :=
  ⟨agrees.operationType.trans continues.operationType,
    agrees.walletAddress.trans continues.walletAddress,
    fun isSpend =>
      (agrees.amount isSpend).trans
        (continues.amount (agrees.operationType.symm.trans isSpend)),
    agrees.txHash.trans continues.txHash⟩

end TokenMovement.Agrees

/-- The movement that a row has saved, once it has a hash. -/
def TokenOperation.movement? (row : TokenOperation) :
    Option TokenMovement :=
  row.txHash.map fun txHash =>
    { operationType := row.operationType
      walletAddress := row.walletAddress
      amount := row.amount
      txHash := txHash }

/-- The movement of an operation that is projected with a hash. -/
def OperationView.movement
    (view : OperationView)
    (operationType : OperationType)
    (txHash : TransactionHash) :
    TokenMovement where
  operationType := operationType
  walletAddress := view.walletAddress
  amount := view.amount
  txHash := txHash

/--
The amount that is recorded of a moved one.  It is read from a number, the
quotient of the cents or the value of a column, which shows other cents when
there are too many of them.
-/
inductive TokenAmount.RecordedAs (amount recorded : TokenAmount) : Prop where
  | ofUnits
      (isShown : canonicalTokenAmount amount.value = some recorded) :
      TokenAmount.RecordedAs amount recorded
  | ofColumn
      (isShown : canonicalTokenAmount amount.number = some recorded) :
      TokenAmount.RecordedAs amount recorded

/-- The movement of a row of the ledger, if it has moved this amount. -/
def Spend.movement (spend : Spend) (amount : TokenAmount) :
    TokenMovement where
  operationType := .spend
  walletAddress := spend.walletAddress
  amount := amount
  txHash := spend.txHash

/-- The wallet of the user in a transfer: spends leave it, awards reach it. -/
def SpendEvidenceRequest.wallet (input : SpendEvidenceRequest) :
    OperationType → String
  | .spend => input.sourceWallet
  | .award => input.treasuryRecipient

/-- Valid evidence for this request proves the movement. -/
structure SpendEvidenceRequest.Proves
    (input : SpendEvidenceRequest)
    (movement : TokenMovement) :
    Prop where
  txHash : input.txHash = movement.txHash.text
  wallet :
    lowerText (input.wallet movement.operationType) =
      lowerText movement.walletAddress
  amount :
    movement.operationType = .spend →
    input.amountUnits = .bigint movement.amount.baseUnits

/-- Evidence for a movement is evidence for every statement of it. -/
theorem SpendEvidenceRequest.Proves.agrees
    {input : SpendEvidenceRequest}
    {movement other : TokenMovement}
    (proves : input.Proves movement)
    (agrees : movement.Agrees other) :
    input.Proves other where
  txHash := agrees.txHash ▸ proves.txHash
  wallet := by
    rw [← agrees.operationType, ← agrees.walletAddress]
    exact proves.wallet
  amount := fun isSpend => by
    have isSpendToo := agrees.operationType.trans isSpend
    rw [← agrees.amount isSpendToo]
    exact proves.amount isSpendToo

/-! ## What a call has seen -/

/-- The lease pays for the token operation of this key. -/
def TreasuryLease.Targets
    (lease : TreasuryLease)
    (operationKey : String) :
    Prop :=
  lease.targetType = .tokenOperation ∧ lease.targetKey = operationKey

/--
The call has seen this row of the key: it has read it, or inserted it.  A row
is read under the key that it carries.
-/
inductive SawRow
    (operationKey : String)
    (row : TokenOperation)
    (past : Past) :
    Prop where
  | wasRead
      {readKey : String}
      (member : ⟨.read (.operation readKey), .ok (some row)⟩ ∈ past)
      (isKey : readKey = operationKey ∨ row.operationKey = operationKey) :
      SawRow operationKey row past
  | inserted
      {stored : TokenOperation}
      (member : ⟨.write (.insertOperation row), .ok stored⟩ ∈ past)
      (isKey : row.operationKey = operationKey) :
      SawRow operationKey row past

/-- The call has seen a hash saved for the operation of the key. -/
inductive SawHash
    (operationKey : String)
    (hash : TransactionHash)
    (past : Past) :
    Prop where
  | ofRow
      {row : TokenOperation}
      (saw : SawRow operationKey row past)
      (isHash : row.txHash = some hash) :
      SawHash operationKey hash past
  | ofLease
      {leaseKey : String}
      {lease : TreasuryLease}
      (wasRead : ⟨.read (.lease leaseKey), .ok (some lease)⟩ ∈ past)
      (targets : lease.Targets operationKey)
      (isHash : lease.txHash = hash) :
      SawHash operationKey hash past
  | saved
      {lease stored : TreasuryLease}
      (wasSaved :
        ⟨.write (.persistPreparation lease), .ok stored⟩ ∈ past)
      (targets : lease.Targets operationKey)
      (isHash : stored.txHash = hash) :
      SawHash operationKey hash past

/-- The call has verified this movement on the chain. -/
def Proven (movement : TokenMovement) (past : Past) : Prop :=
  ∃ input evidence,
    ⟨.note (.evidence input (.ok evidence)), ()⟩ ∈ past ∧
      input.Proves movement

/-- What is projected is what the call has seen saved. -/
structure Viewed
    (operationType : OperationType)
    (view : OperationView)
    (past : Past) :
    Prop where
  row :
    ∃ row,
      SawRow view.operationKey row past ∧
        row.operationType = operationType ∧
        lowerText row.walletAddress = lowerText view.walletAddress ∧
        (operationType = .spend → row.amount = view.amount)
  hash :
    ∀ hash,
      view.txHash = some hash →
      SawHash view.operationKey hash past

/-- Why the executor takes a movement for confirmed. -/
inductive Trusted
    (operationType : OperationType)
    (view : OperationView)
    (hash : TransactionHash)
    (past : Past) :
    Prop where
  | proven (isProven : Proven (view.movement operationType hash) past) :
      Trusted operationType view hash past
  /-- The row was seen as confirmed. -/
  | confirmed
      {row : TokenOperation}
      {saved : TokenMovement}
      (saw : SawRow view.operationKey row past)
      (isConfirmed : row.status = .confirmed)
      (isSaved : row.movement? = some saved)
      (agrees : saved.Agrees (view.movement operationType hash)) :
      Trusted operationType view hash past
  /-- The row has a hash, and its bytes may not have been sent yet. -/
  | submitting
      (noted : ⟨.note (.projecting operationType view), ()⟩ ∈ past)
      (isSubmitting : view.status = .submitting) :
      Trusted operationType view hash past

/-- The call may confirm, record and project this operation. -/
structure Projects
    (operationType : OperationType)
    (view : OperationView)
    (hash : TransactionHash)
    (past : Past) :
    Prop where
  isHash : view.txHash = some hash
  viewed : Viewed operationType view past
  trusted : Trusted operationType view hash past

section Subset

variable {operationKey : String} {row : TokenOperation}
  {hash : TransactionHash} {movement : TokenMovement}
  {operationType : OperationType} {view : OperationView}
  {past reached : Past}

theorem SawRow.subset
    (saw : SawRow operationKey row past)
    (grown : past ⊆ reached) :
    SawRow operationKey row reached := by
  cases saw with
  | wasRead member isKey =>
      exact .wasRead (grown member) isKey
  | inserted member isKey =>
      exact .inserted (grown member) isKey

theorem SawHash.subset
    (saw : SawHash operationKey hash past)
    (grown : past ⊆ reached) :
    SawHash operationKey hash reached := by
  cases saw with
  | ofRow saw isHash =>
      exact .ofRow (saw.subset grown) isHash
  | ofLease wasRead targets isHash =>
      exact .ofLease (grown wasRead) targets isHash
  | saved wasSaved targets isHash =>
      exact .saved (grown wasSaved) targets isHash

theorem Proven.subset
    (proven : Proven movement past)
    (grown : past ⊆ reached) :
    Proven movement reached := by
  obtain ⟨input, evidence, noted, proves⟩ := proven
  exact ⟨input, evidence, grown noted, proves⟩

theorem Viewed.subset
    (viewed : Viewed operationType view past)
    (grown : past ⊆ reached) :
    Viewed operationType view reached where
  row :=
    viewed.row.imp fun _ seen => ⟨seen.1.subset grown, seen.2⟩
  hash := fun hash isHash => (viewed.hash hash isHash).subset grown

theorem Trusted.subset
    (trusted : Trusted operationType view hash past)
    (grown : past ⊆ reached) :
    Trusted operationType view hash reached := by
  cases trusted with
  | proven isProven =>
      exact .proven (isProven.subset grown)
  | confirmed saw isConfirmed isSaved agrees =>
      exact .confirmed (saw.subset grown) isConfirmed isSaved agrees
  | submitting noted isSubmitting =>
      exact .submitting (grown noted) isSubmitting

theorem Projects.subset
    (projects : Projects operationType view hash past)
    (grown : past ⊆ reached) :
    Projects operationType view hash reached :=
  ⟨projects.isHash, projects.viewed.subset grown,
    projects.trusted.subset grown⟩

end Subset

/-! ## The protocol -/

/-- The lease pays for the gas of a managed wallet, with a call of nothing. -/
structure TreasuryLease.FundsWallet (lease : TreasuryLease) : Prop where
  targetType : lease.targetType = .approvalFunding
  data : lease.txContext.data = some "0x"

/-- The hash of these bytes was just saved for the key. -/
inductive SavedFor
    (platform : Platform)
    (operationKey rawTransaction : String) :
    Past → Prop where
  | saved
      {lease stored : TreasuryLease}
      {past : Past}
      (isKey : lease.operationKey = operationKey)
      (targets : lease.Targets operationKey ∨ lease.FundsWallet)
      (isHash : platform.keccak256 rawTransaction = lease.txHash) :
      SavedFor platform operationKey rawTransaction
        (⟨.release, ()⟩ ::
          ⟨.write (.persistPreparation lease), .ok stored⟩ :: past)

/-- What a change needs to have been seen, verified or read before. -/
def Change.Evidenced (past : Past) : Change → Prop
  | .updateOperation operationKey (.markConfirmed _)
  | .updateOperation operationKey (.markProjectionError _) =>
      ∃ operationType view hash,
        view.operationKey = operationKey ∧
          Projects operationType view hash past
  | .settleOperation operationKey .markProjected =>
      (∃ operationType view hash,
        view.operationKey = operationKey ∧
          Projects operationType view hash past) ∨
        ∃ row,
          SawRow operationKey row past ∧ row.operationType = .award
  | .recordSpend _ spend _ =>
      ∃ amount : TokenAmount,
        amount.RecordedAs spend.amount ∧
          (Proven (spend.movement amount) past ∨
            ∃ view,
              Projects .spend view spend.txHash past ∧
                (view.movement .spend spend.txHash).Agrees
                  (spend.movement amount))
  | .recordAward _ award _ =>
      ∃ view, Projects .award view award.txHash past
  | _ => True

/-- A receipt is stored, or a preparation changes, beside the operations. -/
def Change.isBeside : Change → Bool
  | .insertReceipt _ => true
  | change => change.isFundingChange

/-- A change of an executor: one of the stores, or one beside them. -/
structure Change.IsExecuted (past : Past) (change : Change) : Prop where
  written : StoreWrites past change ∨ change.isBeside = true
  evidenced : change.Evidenced past

/-- What an executor may issue. -/
def executorProtocol (platform : Platform) : Protocol sparkz
  | past, .write change => change.IsExecuted past
  | past, .chain (.broadcastTransaction operationKey rawTransaction) =>
      SavedFor platform operationKey rawTransaction past
  | _, _ => True

section Protocol

variable {platform : Platform} {past : Past}

/-- A quiet operation is permitted after anything. -/
theorem executorProtocol_of_isQuiet
    {op : Op}
    (quiet : op.isQuiet) :
    executorProtocol platform past op := by
  cases op with
  | write change =>
      exact quiet.elim
  | chain request =>
      cases request with
      | broadcastTransaction operationKey rawTransaction =>
          cases quiet
      | _ =>
          trivial
  | _ =>
      trivial

/-- A quiet part of a call may stand anywhere in an executor. -/
theorem follows_of_quiet {α : Type}
    {body : Call α}
    (quiet : Issues Op.isQuiet body) :
    body.Follows (executorProtocol platform) :=
  fun past =>
    ((quiet past).embed fun _ _ _ =>
      executorProtocol_of_isQuiet).weaken fun _ _ _ => trivial

/-- A store function may stand where its changes have their evidence. -/
theorem obeys_of_store {α : Type}
    {body : Call α}
    {writes : Past → Change → Prop}
    {post : Except Failure α → Past → Prop}
    (obeys :
      body.Obeys
        (writesOnly (fun request => request.broadcasts = false) writes)
        past post)
    (stores :
      ∀ reached change,
        writes reached change → StoreWrites reached change)
    (evidenced :
      ∀ reached change,
        past ⊆ reached →
        writes reached change →
        change.Evidenced reached) :
    body.Obeys (executorProtocol platform) past post := by
  refine
    (obeys.embed fun reached op extended permitted => ?_).weaken
      fun _ _ established => established.1
  cases op with
  | write change =>
      exact
        ⟨Or.inl (stores reached change permitted),
          evidenced reached change extended.subset permitted⟩
  | chain request =>
      exact
        @executorProtocol_of_isQuiet platform reached (.chain request)
          permitted
  | _ =>
      trivial

end Protocol

end Sparkz
