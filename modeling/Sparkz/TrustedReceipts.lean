import Mathlib.Data.List.Nodup
import Sparkz.SpendReceiptsConformance

namespace Sparkz

open Interleaving

/-!
# One trusted receipt for one transfer

Calls for receipts race for the unique index on the hash.  Whatever one of them
returns is stored and signed for its own request, and a call for another intent
than the stored one is refused.  A call for the same intent is accepted when its
identifiers have no unpaired surrogates: the columns hold characters only.
-/

/-! ## What a request intends -/

section Intent

variable (platform : Platform)
  (TOKEN_CONTRACT_ADDRESS : String)
  (chain : ReceiptChain)
  (input : SpendReceiptRequest)

/-- A payload says what a request says; an empty identifier is an absent one. -/
structure SpendReceiptRequest.Intends
    (payload : SpendReceiptPayload) :
    Prop where
  owner : payload.contractId = input.uid
  wallet :
    platform.getAddress input.walletAddress = some payload.walletAddress
  amount : canonicalTokenAmount input.amount = some payload.amount
  session : payload.sessionId = JsString.orNull input.sessionId
  provider : payload.providerId = JsString.orNull input.providerId
  hash : canonicalTxHash input.txHash = some payload.tokenTxHash
  chainId : payload.chainId = chain.chainId
  token :
    platform.getAddress TOKEN_CONTRACT_ADDRESS =
      some payload.tokenContractAddress

instance (payload : SpendReceiptPayload) :
    Decidable
      (input.Intends platform TOKEN_CONTRACT_ADDRESS chain payload) :=
  decidable_of_iff
    (payload.contractId = input.uid ∧
      platform.getAddress input.walletAddress =
        some payload.walletAddress ∧
      canonicalTokenAmount input.amount = some payload.amount ∧
      payload.sessionId = JsString.orNull input.sessionId ∧
      payload.providerId = JsString.orNull input.providerId ∧
      canonicalTxHash input.txHash = some payload.tokenTxHash ∧
      payload.chainId = chain.chainId ∧
      platform.getAddress TOKEN_CONTRACT_ADDRESS =
        some payload.tokenContractAddress)
    ⟨fun ⟨owner, wallet, amount, session, provider, hash, chainId, token⟩ =>
      ⟨owner, wallet, amount, session, provider, hash, chainId, token⟩,
      fun ⟨owner, wallet, amount, session, provider, hash, chainId, token⟩ =>
      ⟨owner, wallet, amount, session, provider, hash, chainId, token⟩⟩

/-- The identifiers of a request are absent or not empty. -/
def SpendReceiptRequest.Identified : Prop :=
  JsString.orNull input.sessionId = input.sessionId ∧
    JsString.orNull input.providerId = input.providerId

/-- The identifiers of a request have no unpaired surrogates. -/
structure SpendReceiptRequest.WellFormed : Prop where
  uid : input.uid.IsWellFormed
  sessionId : ∀ text ∈ input.sessionId, text.IsWellFormed
  providerId : ∀ text ∈ input.providerId, text.IsWellFormed

/-- What a request expects while the chain and the signer stay the same. -/
structure SpendReceiptRequest.Asks
    (expected : ReceiptExpectation) :
    Prop where
  uid : expected.uid = input.uid
  wallet :
    platform.getAddress input.walletAddress =
      some expected.walletAddress
  amount : input.cents = .ok expected.amount
  sessionId : expected.sessionId = input.sessionId
  providerId : expected.providerId = input.providerId
  txHash : input.hash = .ok expected.txHash
  chainId : expected.chainId = chain.chainId
  token :
    platform.getAddress TOKEN_CONTRACT_ADDRESS =
      some expected.tokenContractAddress
  signer : expected.trustedSignerAddress = chain.signerAddress

end Intent

/-- The chain and the signer answer as they always do. -/
def ReceiptChain.keepsAnswers
    (chain : ReceiptChain) :
    Entry sparkz → Bool
  | ⟨_, .chain .network, .ok chainId⟩ => chainId == chain.chainId
  | ⟨_, .chain .signerAddress, .ok signerAddress⟩ =>
      signerAddress == chain.signerAddress
  | ⟨_, .chain (.signMessage payload), .ok signature⟩ =>
      signature == chain.sign payload
  | _ => true

section Intents

variable {platform : Platform}
  {TOKEN_CONTRACT_ADDRESS : String}
  {chain : ReceiptChain}
  {input : SpendReceiptRequest}
  {expected other : ReceiptExpectation}
  {signed : SignedSpendReceipt}

theorem SpendReceiptRequest.Asks.valid
    (asks :
      input.Asks platform TOKEN_CONTRACT_ADDRESS chain expected) :
    expected.Valid chain platform TOKEN_CONTRACT_ADDRESS where
  wallet := ⟨_, asks.wallet⟩
  token := asks.token
  chainId := asks.chainId
  signer := asks.signer

theorem SpendReceiptRequest.Asks.wellFormed
    (asks :
      input.Asks platform TOKEN_CONTRACT_ADDRESS chain expected)
    (wellFormed : input.WellFormed) :
    expected.WellFormed where
  uid := asks.uid ▸ wellFormed.uid
  sessionId := asks.sessionId ▸ wellFormed.sessionId
  providerId := asks.providerId ▸ wellFormed.providerId

/-- The positive cents of a request are its canonical amount. -/
theorem SpendReceiptRequest.cents_eq_ok
    {amount : TokenAmount} :
    input.cents = .ok amount ↔
      canonicalTokenAmount input.amount = some amount ∧
        amount.units ≠ 0 := by
  unfold SpendReceiptRequest.cents
  cases canonicalTokenAmount input.amount with
  | none =>
      exact
        ⟨fun impossible => (by cases impossible), by
          rintro ⟨impossible, _⟩; cases impossible⟩
  | some cents =>
      dsimp only
      split
      · rename_i isZero
        constructor
        · intro impossible
          cases impossible
        · rintro ⟨isAmount, positive⟩
          cases isAmount
          exact absurd isZero positive
      · rename_i positive
        constructor
        · intro isAmount
          cases isAmount
          exact ⟨rfl, positive⟩
        · rintro ⟨isAmount, _⟩
          cases isAmount
          rfl

theorem SpendReceiptRequest.hash_eq_ok
    {hash : TransactionHash} :
    input.hash = .ok hash ↔
      canonicalTxHash input.txHash = some hash := by
  unfold SpendReceiptRequest.hash
  cases canonicalTxHash input.txHash with
  | none =>
      exact
        ⟨fun impossible => (by cases impossible), fun impossible =>
          (by cases impossible)⟩
  | some found =>
      simp

/-- What the signer makes of an expectation, in full. -/
theorem ReceiptExpectation.Signs.cases
    (signs : expected.Signs chain platform signed)
    (valid :
      expected.Valid chain platform TOKEN_CONTRACT_ADDRESS)
    (ideal : chain.Ideal platform) :
    signed.row.signed = signed ∧
      signed.row.tokenTxHash = expected.txHash ∧
      signed.payload.contractId = expected.uid ∧
      signed.payload.walletAddress = expected.walletAddress ∧
      signed.payload.amount = expected.amount ∧
      signed.payload.sessionId = JsString.orNull expected.sessionId ∧
      signed.payload.providerId = JsString.orNull expected.providerId ∧
      signed.payload.tokenTxHash = expected.txHash ∧
      signed.payload.chainId = expected.chainId ∧
      signed.payload.tokenContractAddress =
        expected.tokenContractAddress ∧
      signed.signature = chain.sign signed.payload ∧
      signed.signerAddress = chain.signerAddress := by
  obtain ⟨issuedAt, randomUUID, payload, isPayload, rfl⟩ := signs
  rw [valid.payload_eq_ok ideal] at isPayload
  obtain rfl := Except.ok.inj isPayload
  exact ⟨rfl, rfl, rfl, rfl, rfl, rfl, rfl, rfl, rfl, rfl, rfl, rfl⟩

/-- The payload of a stored receipt is the payload that was signed. -/
theorem ReceiptExpectation.Signs.canonicalPayload
    (signs : expected.Signs chain platform signed) :
    signed.row.canonicalPayload = signed.payload := by
  obtain ⟨_, _, _, _, rfl⟩ := signs
  rfl

/-- A request intends the receipts that store what it expects. -/
theorem intends_of_stored
    (ideal : chain.Ideal platform)
    (asks :
      input.Asks platform TOKEN_CONTRACT_ADDRESS chain expected)
    (valid : other.Valid chain platform TOKEN_CONTRACT_ADDRESS)
    (signs : other.Signs chain platform signed)
    (same : expected.stored = other.stored) :
    input.Intends platform TOKEN_CONTRACT_ADDRESS chain
      signed.payload := by
  obtain ⟨_, _, owner, wallet, amount, session, provider, hash, chainId,
    token, _, _⟩ := signs.cases valid ideal
  simp only [ReceiptExpectation.stored, ReceiptExpectation.mk.injEq]
    at same
  obtain ⟨sameUid, sameWallet, sameAmount, sameSession, sameProvider,
    sameHash, sameChain, sameToken, _⟩ := same
  constructor
  · rw [owner, ← sameUid, asks.uid]
  · rw [wallet, ← sameWallet, asks.wallet]
  · rw [amount, ← sameAmount]
    exact (SpendReceiptRequest.cents_eq_ok.mp asks.amount).1
  · rw [session, ← sameSession, asks.sessionId]
  · rw [provider, ← sameProvider, asks.providerId]
  · rw [hash, ← sameHash]
    exact SpendReceiptRequest.hash_eq_ok.mp asks.txHash
  · rw [chainId, ← sameChain, asks.chainId]
  · rw [token, ← sameToken, asks.token]

/-- A receipt that a request intends stores what it expects. -/
theorem stored_of_intends
    (ideal : chain.Ideal platform)
    (asks :
      input.Asks platform TOKEN_CONTRACT_ADDRESS chain expected)
    (valid : other.Valid chain platform TOKEN_CONTRACT_ADDRESS)
    (signs : other.Signs chain platform signed)
    (intends :
      input.Intends platform TOKEN_CONTRACT_ADDRESS chain
        signed.payload) :
    expected.stored = other.stored := by
  obtain ⟨_, _, owner, wallet, amount, session, provider, hash, chainId,
    token, _, _⟩ := signs.cases valid ideal
  have isAmount := (SpendReceiptRequest.cents_eq_ok.mp asks.amount).1
  have isHash := SpendReceiptRequest.hash_eq_ok.mp asks.txHash
  simp only [ReceiptExpectation.stored, ReceiptExpectation.mk.injEq]
  refine ⟨?_, ?_, ?_, ?_, ?_, ?_, ?_, ?_, ?_⟩
  · rw [asks.uid, ← intends.owner, owner]
  · have sameWallet := asks.wallet.symm.trans intends.wallet
    rw [Option.some.inj sameWallet, wallet]
  · have sameAmount := isAmount.symm.trans intends.amount
    rw [Option.some.inj sameAmount, amount]
  · rw [asks.sessionId, ← intends.session, session]
  · rw [asks.providerId, ← intends.provider, provider]
  · have sameHash := isHash.symm.trans intends.hash
    rw [Option.some.inj sameHash, hash]
  · rw [asks.chainId, ← intends.chainId, chainId]
  · have sameToken := asks.token.symm.trans intends.token
    rw [Option.some.inj sameToken, token]
  · exact asks.signer.trans valid.signer.symm

end Intents

/-! ## The table of receipts -/

/-- A table with one receipt for a hash answers it to every lookup. -/
theorem Database.receiptsOfHash_of_mem
    {database : Database}
    {row : SpendReceipt}
    (oneEach : (database.receipts.map (·.tokenTxHash)).Nodup)
    (member : row ∈ database.receipts) :
    database.receiptsOfHash row.tokenTxHash = [row] := by
  unfold Database.receiptsOfHash
  suffices
      database.receipts.filter (·.tokenTxHash == row.tokenTxHash) =
        [row] by
    rw [this]
    rfl
  generalize database.receipts = rows at oneEach member
  induction rows with
  | nil =>
      cases member
  | cons first rest inductionHypothesis =>
      rw [List.map_cons, List.nodup_cons] at oneEach
      rcases List.mem_cons.mp member with rfl | older
      · have noneLater :
            rest.filter (·.tokenTxHash == row.tokenTxHash) = [] := by
          rw [List.filter_eq_nil_iff]
          intro other later same
          exact
            oneEach.1
              (List.mem_map.mpr ⟨other, later, beq_iff_eq.mp same⟩)
        rw [List.filter_cons_of_pos (by simp), noneLater]
      · have different : first.tokenTxHash ≠ row.tokenTxHash := by
          intro same
          exact
            oneEach.1 (List.mem_map.mpr ⟨row, older, same.symm⟩)
        rw [List.filter_cons_of_neg (by simpa using different)]
        exact inductionHypothesis oneEach.2 older

/-- What a lookup answers is in the table. -/
theorem Database.mem_of_receiptsOfHash
    {database : Database}
    {hash : TransactionHash}
    {row : SpendReceipt}
    (member : row ∈ database.receiptsOfHash hash) :
    row ∈ database.receipts ∧ row.tokenTxHash = hash := by
  have found := List.mem_of_mem_take member
  rw [List.mem_filter] at found
  exact ⟨found.1, beq_iff_eq.mp found.2⟩

/-! ## Runs -/

section Run

variable {lost : Bool}
  {platform : Platform}
  {TOKEN_CONTRACT_ADDRESS : String}
  {chain : ReceiptChain}
  {calls : Nat → SpendReceiptRequest}
  {before config : Config sparkz Failure Database}

/-- Calls for receipts before their first operation. -/
abbrev SpendReceiptRequest.start
    (platform : Platform)
    (TOKEN_CONTRACT_ADDRESS : String)
    (calls : Nat → SpendReceiptRequest) :
    Config sparkz Failure Database :=
  .initial .empty fun thread =>
    (calls thread).run platform TOKEN_CONTRACT_ADDRESS

/-- The runs of calls for receipts on one chain and with one signer. -/
abbrev ReceiptChain.Runs
    (chain : ReceiptChain)
    (lost : Bool)
    (platform : Platform)
    (TOKEN_CONTRACT_ADDRESS : String)
    (calls : Nat → SpendReceiptRequest) :
    Config sparkz Failure Database → Prop :=
  ReachableWhen (semantics lost)
    (fun _ entry => chain.keepsAnswers entry = true)
    (SpendReceiptRequest.start platform TOKEN_CONTRACT_ADDRESS calls)

/-- The signer has made a receipt for the request of some call. -/
def SpendReceiptRequest.SignedFor
    (platform : Platform)
    (TOKEN_CONTRACT_ADDRESS : String)
    (chain : ReceiptChain)
    (input : SpendReceiptRequest)
    (row : SpendReceipt) :
    Prop :=
  ∃ expected signed,
    input.Asks platform TOKEN_CONTRACT_ADDRESS chain expected ∧
      expected.Signs chain platform signed ∧
      row = signed.row

/-- What holds of the table and the history throughout a run. -/
structure ReceiptInvariant
    (platform : Platform)
    (TOKEN_CONTRACT_ADDRESS : String)
    (chain : ReceiptChain)
    (calls : Nat → SpendReceiptRequest)
    (database : Database)
    (history : List (Entry sparkz)) :
    Prop where
  unchanged : ∀ entry ∈ history, chain.keepsAnswers entry = true
  oneEach : (database.receipts.map (·.tokenTxHash)).Nodup
  signed :
    ∀ row ∈ database.receipts,
      ∃ thread,
        (calls thread).SignedFor platform TOKEN_CONTRACT_ADDRESS chain
          row
  issued :
    ∀ thread row answer,
      ⟨thread, .write (.insertReceipt row), answer⟩ ∈ history →
      (calls thread).SignedFor platform TOKEN_CONTRACT_ADDRESS chain
        row
  wrote :
    ∀ thread row stored,
      ⟨thread, .write (.insertReceipt row), .ok stored⟩ ∈ history →
      row ∈ database.receipts
  found :
    ∀ thread hash row,
      ⟨thread, .read (.receiptsOfHash hash), .ok [row]⟩ ∈ history →
      row ∈ database.receipts ∧
        row.tokenTxHash = hash ∧
        (calls thread).hash = .ok hash

/-- What a call expects is settled by its request. -/
theorem SpendReceiptRequest.Expects.asks
    {thread : Nat}
    {history : List (Entry sparkz)}
    {expected : ReceiptExpectation}
    (unchanged : ∀ entry ∈ history, chain.keepsAnswers entry = true)
    (expects :
      (calls thread).Expects platform TOKEN_CONTRACT_ADDRESS
        (ownPast thread history) expected) :
    (calls thread).Asks platform TOKEN_CONTRACT_ADDRESS chain
      expected :=
  { expects with
    chainId :=
      beq_iff_eq.mp (unchanged _ (mem_ownPast.mp expects.network))
    signer :=
      beq_iff_eq.mp (unchanged _ (mem_ownPast.mp expects.signer)) }

/-- What a call has signed is signed by the one signer. -/
theorem ReceiptExpectation.Signed.signs
    {thread : Nat}
    {history : List (Entry sparkz)}
    {expected : ReceiptExpectation}
    {signed : SignedSpendReceipt}
    (unchanged : ∀ entry ∈ history, chain.keepsAnswers entry = true)
    (isSigned :
      expected.Signed platform (ownPast thread history) signed) :
    expected.Signs chain platform signed := by
  obtain ⟨issuedAt, randomUUID, isPayload⟩ := isSigned.payload
  refine ⟨issuedAt, randomUUID, signed.payload, isPayload, ?_⟩
  have isSignature : signed.signature = chain.sign signed.payload :=
    beq_iff_eq.mp (unchanged _ (mem_ownPast.mp isSigned.signature))
  have isSigner : signed.signerAddress = chain.signerAddress :=
    beq_iff_eq.mp (unchanged _ (mem_ownPast.mp isSigned.signer))
  have isCanonical := isSigned.canonical
  cases signed
  simp only at isSignature isSigner isCanonical
  simp only [isSignature, isSigner, isCanonical]

/-- What a call may write has been signed for its request. -/
theorem SpendReceiptRequest.Inserts.signedFor
    {thread : Nat}
    {history : List (Entry sparkz)}
    {row : SpendReceipt}
    (unchanged : ∀ entry ∈ history, chain.keepsAnswers entry = true)
    (inserts :
      (calls thread).Inserts platform TOKEN_CONTRACT_ADDRESS
        (ownPast thread history) row) :
    (calls thread).SignedFor platform TOKEN_CONTRACT_ADDRESS chain
      row := by
  obtain ⟨expected, signed, expects, isSigned, rfl⟩ := inserts
  exact
    ⟨expected, signed, expects.asks unchanged,
      isSigned.signs unchanged, rfl⟩

/-- The write that a call of a run is about to issue. -/
theorem insertReceipt_of_running
    (reached :
      chain.Runs lost platform TOKEN_CONTRACT_ADDRESS calls before)
    {thread : Nat} {change : Change}
    {rest : Op.Answer (.write change) → Call Unit}
    (running :
      before.threads thread = some (.perform (.write change) rest)) :
    ∃ row,
      change = .insertReceipt row ∧
        (calls thread).Inserts platform TOKEN_CONTRACT_ADDRESS
          (ownPast thread before.history) row := by
  have permitted :=
    reached.permitted
      (fun thread =>
        (calls thread).run_obeys platform TOKEN_CONTRACT_ADDRESS)
      running
  cases change with
  | insertReceipt row =>
      exact ⟨row, rfl, permitted⟩
  | _ =>
      cases permitted

/-- A committed receipt joins the table under a new hash. -/
theorem oneEach_append
    {database : Database}
    {row : SpendReceipt}
    (oneEach : (database.receipts.map (·.tokenTxHash)).Nodup)
    (fresh :
      ∀ other ∈ database.receipts,
        other.tokenTxHash ≠ row.tokenTxHash) :
    ((database.receipts ++ [row]).map (·.tokenTxHash)).Nodup := by
  rw [List.map_append, List.nodup_append]
  refine ⟨oneEach, by simp, ?_⟩
  intro hash older other newest
  obtain ⟨earlier, member, rfl⟩ := List.mem_map.mp older
  obtain rfl := List.mem_singleton.mp newest
  exact fresh earlier member

/-- The invariant after an entry, from what is new about the entry. -/
theorem ReceiptInvariant.extend
    {database next : Database}
    {history : List (Entry sparkz)}
    {entry : Entry sparkz}
    (invariant :
      ReceiptInvariant platform TOKEN_CONTRACT_ADDRESS chain calls
        database history)
    (unchanged : chain.keepsAnswers entry = true)
    (kept : database.receipts ⊆ next.receipts)
    (oneEach : (next.receipts.map (·.tokenTxHash)).Nodup)
    (signed :
      ∀ row ∈ next.receipts,
        row ∉ database.receipts →
        ∃ thread,
          (calls thread).SignedFor platform TOKEN_CONTRACT_ADDRESS
            chain row)
    (issued :
      ∀ thread row answer,
        entry = ⟨thread, .write (.insertReceipt row), answer⟩ →
        (calls thread).SignedFor platform TOKEN_CONTRACT_ADDRESS chain
          row)
    (wrote :
      ∀ thread row stored,
        entry = ⟨thread, .write (.insertReceipt row), .ok stored⟩ →
        row ∈ next.receipts)
    (found :
      ∀ thread hash row,
        entry = ⟨thread, .read (.receiptsOfHash hash), .ok [row]⟩ →
        row ∈ next.receipts ∧
          row.tokenTxHash = hash ∧
          (calls thread).hash = .ok hash) :
    ReceiptInvariant platform TOKEN_CONTRACT_ADDRESS chain calls next
      (entry :: history) where
  unchanged := by
    intro other member
    rcases List.mem_cons.mp member with rfl | earlier
    · exact unchanged
    · exact invariant.unchanged other earlier
  oneEach := oneEach
  signed := by
    intro row member
    by_cases older : row ∈ database.receipts
    · exact invariant.signed row older
    · exact signed row member older
  issued := by
    intro thread row answer member
    rcases List.mem_cons.mp member with same | earlier
    · exact issued thread row answer same.symm
    · exact invariant.issued thread row answer earlier
  wrote := by
    intro thread row stored member
    rcases List.mem_cons.mp member with same | earlier
    · exact wrote thread row stored same.symm
    · exact kept (invariant.wrote thread row stored earlier)
  found := by
    intro thread hash row member
    rcases List.mem_cons.mp member with same | earlier
    · exact found thread hash row same.symm
    · have isFound := invariant.found thread hash row earlier
      exact ⟨kept isFound.1, isFound.2⟩

/-- An inserted receipt keeps the invariant, whatever its call is told. -/
theorem ReceiptInvariant.insert
    {database next : Database}
    {history : List (Entry sparkz)}
    {thread : Nat}
    {row : SpendReceipt}
    {result : SpendReceipt}
    {answer : Op.Answer (.write (.insertReceipt row))}
    {locks : LockKey → Option Nat}
    (invariant :
      ReceiptInvariant platform TOKEN_CONTRACT_ADDRESS chain calls
        database history)
    (unchanged :
      chain.keepsAnswers
          ⟨thread, .write (.insertReceipt row), answer⟩ =
        true)
    (signedFor :
      (calls thread).SignedFor platform TOKEN_CONTRACT_ADDRESS chain
        row)
    (applied :
      (Change.insertReceipt row).apply database = .ok (result, next)) :
    ReceiptInvariant platform TOKEN_CONTRACT_ADDRESS chain calls
      (next.withLocks locks)
      (⟨thread, .write (.insertReceipt row), answer⟩ :: history) := by
  obtain ⟨_, inserted, same⟩ := Except.map_eq_ok applied
  cases same
  obtain ⟨rfl, fresh⟩ := Database.insertReceipt_eq_ok inserted
  refine
    invariant.extend unchanged (List.subset_append_left _ _)
      (oneEach_append invariant.oneEach fresh) ?_ ?_ ?_ ?_
  · intro other member newest
    rcases List.mem_append.mp member with older | isLast
    · exact absurd older newest
    · rw [List.mem_singleton.mp isLast]
      exact ⟨thread, signedFor⟩
  · intro owner other otherAnswer same
    cases same
    exact signedFor
  · intro owner other stored same
    cases same
    exact List.mem_append_right _ (List.mem_singleton.mpr rfl)
  · intro owner hash other same
    cases same

/-- The invariant holds throughout a run. -/
theorem receiptInvariant
    (reached :
      chain.Runs lost platform TOKEN_CONTRACT_ADDRESS calls config) :
    ReceiptInvariant platform TOKEN_CONTRACT_ADDRESS chain calls
      config.shared config.history := by
  refine
    reached.invariant
      (ReceiptInvariant platform TOKEN_CONTRACT_ADDRESS chain calls)
      ?_ ?_ ?_
  · constructor
    · intro entry impossible
      cases impossible
    · exact List.nodup_nil
    · intro row impossible
      cases impossible
    · intro thread row answer impossible
      cases impossible
    · intro thread row stored impossible
      cases impossible
    · intro thread hash row impossible
      cases impossible
  · intro database history thread invariant
    exact { invariant with }
  · intro before thread op rest choice answer next reached running
      answered met invariant
    have effect := respond_effect answered
    have older :
        ∀ row ∈ before.shared.receipts,
          row ∉ before.shared.receipts →
          ∃ thread,
            (calls thread).SignedFor platform TOKEN_CONTRACT_ADDRESS
              chain row :=
      fun row member newest => absurd member newest
    cases effect with
    | quiet locks notTables =>
        refine
          invariant.extend met (List.Subset.refl _) invariant.oneEach
            older ?_ ?_ ?_
        · intro owner row other same
          cases same
          cases notTables
        · intro owner row stored same
          cases same
          cases notTables
        · intro owner hash row same
          cases same
          cases notTables
    | read query =>
        refine
          invariant.extend met (List.Subset.refl _) invariant.oneEach
            older ?_ ?_ ?_
        · intro owner row other same
          cases same
        · intro owner row stored same
          cases same
        · intro owner hash row same
          have isQuery : query = .receiptsOfHash hash := by
            injection same with _ isOp _
            injection isOp
          subst isQuery
          injection same with isThread _ isAnswer
          have isFound :
              before.shared.receiptsOfHash hash = [row] :=
            Except.ok.inj isAnswer
          obtain ⟨member, isHash⟩ :=
            Database.mem_of_receiptsOfHash
              (isFound ▸ List.mem_singleton.mpr rfl)
          refine ⟨member, isHash, ?_⟩
          rw [← isThread]
          exact
            reached.permitted
              (fun thread =>
                (calls thread).run_obeys platform
                  TOKEN_CONTRACT_ADDRESS)
              running
    | readRefused error =>
        refine
          invariant.extend met (List.Subset.refl _) invariant.oneEach
            older ?_ ?_ ?_
        · intro owner row other same
          cases same
        · intro owner row stored same
          cases same
        · intro owner hash row same
          cases same
    | refused error locks =>
        obtain ⟨inserted, rfl, inserts⟩ :=
          insertReceipt_of_running reached running
        refine
          invariant.extend met (List.Subset.refl _) invariant.oneEach
            older ?_ ?_ ?_
        · intro owner row other same
          cases same
          exact inserts.signedFor invariant.unchanged
        · intro owner row stored same
          cases same
        · intro owner hash row same
          cases same
    | committed locks applied =>
        obtain ⟨inserted, rfl, inserts⟩ :=
          insertReceipt_of_running reached running
        exact
          invariant.insert met (inserts.signedFor invariant.unchanged)
            applied
    | replyLost error locks applied mayBeLost =>
        obtain ⟨inserted, rfl, inserts⟩ :=
          insertReceipt_of_running reached running
        exact
          invariant.insert met (inserts.signedFor invariant.unchanged)
            applied

/-- No step of a run takes a receipt away. -/
theorem receipts_kept
    (reached :
      chain.Runs lost platform TOKEN_CONTRACT_ADDRESS calls before)
    {thread : Nat} {op : Op}
    {rest : Op.Answer op → Call Unit}
    {answer : op.Answer} {next : Database}
    (running : before.threads thread = some (.perform op rest))
    (effect : Effect lost before.shared op answer next) :
    before.shared.receipts ⊆ next.receipts := by
  refine
    effect.preserves
      (fun database => before.shared.receipts ⊆ database.receipts)
      (fun _ _ => id) ?_ (List.Subset.refl _)
  rintro change result after rfl applied _
  obtain ⟨inserted, rfl, _⟩ := insertReceipt_of_running reached running
  obtain ⟨_, accepted, same⟩ := Except.map_eq_ok applied
  cases same
  obtain ⟨rfl, _⟩ := Database.insertReceipt_eq_ok accepted
  exact List.subset_append_left _ _

/-- A stored receipt is one that the signer has made for some request. -/
theorem ReceiptInvariant.made
    {database : Database}
    {history : List (Entry sparkz)}
    (invariant :
      ReceiptInvariant platform TOKEN_CONTRACT_ADDRESS chain calls
        database history)
    {row : SpendReceipt}
    (member : row ∈ database.receipts) :
    ∃ (other : ReceiptExpectation) (signed : SignedSpendReceipt),
      other.Valid chain platform TOKEN_CONTRACT_ADDRESS ∧
        other.Signs chain platform signed ∧
        row = signed.row := by
  obtain ⟨thread, other, signed, asks, signs, isRow⟩ :=
    invariant.signed row member
  exact ⟨other, signed, asks.valid, signs, isRow⟩

/-- A call has returned a stored receipt of what it expects. -/
def SpendReceiptRequest.HasReturned
    (platform : Platform)
    (TOKEN_CONTRACT_ADDRESS : String)
    (chain : ReceiptChain)
    (input : SpendReceiptRequest)
    (database : Database)
    (signed : SignedSpendReceipt) :
    Prop :=
  ∃ expected other : ReceiptExpectation,
    input.Asks platform TOKEN_CONTRACT_ADDRESS chain expected ∧
      other.Valid chain platform TOKEN_CONTRACT_ADDRESS ∧
      other.Signs chain platform signed ∧
      expected.stored = other.stored ∧
      signed.row ∈ database.receipts

/-- What a call may return, it may return rightly. -/
theorem SpendReceiptRequest.Returns.hasReturned
    {thread : Nat}
    {database : Database}
    {history : List (Entry sparkz)}
    {signed : SignedSpendReceipt}
    (ideal : chain.Ideal platform)
    (invariant :
      ReceiptInvariant platform TOKEN_CONTRACT_ADDRESS chain calls
        database history)
    (returns :
      (calls thread).Returns platform TOKEN_CONTRACT_ADDRESS
        (ownPast thread history) signed) :
    (calls thread).HasReturned platform TOKEN_CONTRACT_ADDRESS chain
      database signed := by
  obtain ⟨expected, expects, isOwn | isFound⟩ := returns
  · obtain ⟨isSigned, stored, wrote⟩ := isOwn
    have asks := expects.asks invariant.unchanged
    refine
      ⟨expected, expected, asks, asks.valid,
        isSigned.signs invariant.unchanged, rfl, ?_⟩
    exact invariant.wrote thread _ stored (mem_ownPast.mp wrote)
  · obtain ⟨row, found, passed⟩ := isFound
    have asks := expects.asks invariant.unchanged
    obtain ⟨member, _⟩ :=
      invariant.found thread _ row (mem_ownPast.mp found)
    obtain ⟨other, made, valid, signs, rfl⟩ := invariant.made member
    obtain ⟨same, rfl⟩ :=
      ReceiptExpectation.stored_of_validate ideal asks.valid valid signs
        passed
    refine ⟨expected, other, asks, valid, signs, ?_, member⟩
    rw [same]
    simp only [ReceiptExpectation.stored,
      JsString.orNull_again]

/-- Every receipt that a call of a run has returned is stored. -/
theorem hasReturned_of_note
    (ideal : chain.Ideal platform)
    (reached :
      chain.Runs lost platform TOKEN_CONTRACT_ADDRESS calls config)
    {thread : Nat} {signed : SignedSpendReceipt}
    (noted :
      ⟨thread, .note (.receipt signed), ()⟩ ∈ config.history) :
    (calls thread).HasReturned platform TOKEN_CONTRACT_ADDRESS chain
      config.shared signed := by
  refine
    reached.invariant
      (fun database history =>
        ∀ thread signed,
          ⟨thread, .note (.receipt signed), ()⟩ ∈ history →
          (calls thread).HasReturned platform TOKEN_CONTRACT_ADDRESS
            chain database signed)
      ?_ ?_ ?_ thread signed noted
  · intro thread signed impossible
    cases impossible
  · intro database history thread returned
    exact returned
  · intro before thread op rest choice answer next reached running
      answered met returned owner signed member
    have kept :=
      receipts_kept reached running (respond_effect answered)
    have stillReturned :
        (calls owner).HasReturned platform TOKEN_CONTRACT_ADDRESS
            chain before.shared signed →
          (calls owner).HasReturned platform TOKEN_CONTRACT_ADDRESS
            chain next signed := by
      rintro ⟨expected, other, asks, valid, signs, same, isStored⟩
      exact ⟨expected, other, asks, valid, signs, same, kept isStored⟩
    rcases List.mem_cons.mp member with same | earlier
    · cases same
      have returns :=
        reached.permitted
          (fun thread =>
            (calls thread).run_obeys platform TOKEN_CONTRACT_ADDRESS)
          running
      exact
        stillReturned
          (returns.hasReturned ideal (receiptInvariant reached))
    · exact stillReturned (returned owner signed earlier)

/-- A comparison passes when the request intends the receipt it found. -/
theorem validate_of_intends
    {thread : Nat}
    {database : Database}
    {history : List (Entry sparkz)}
    {expected : ReceiptExpectation}
    {row : SpendReceipt}
    (ideal : chain.Ideal platform)
    (invariant :
      ReceiptInvariant platform TOKEN_CONTRACT_ADDRESS chain calls
        database history)
    (asks :
      (calls thread).Asks platform TOKEN_CONTRACT_ADDRESS chain
        expected)
    (identified : (calls thread).Identified)
    (wellFormed : (calls thread).WellFormed)
    (member : row ∈ database.receipts)
    (intends :
      (calls thread).Intends platform TOKEN_CONTRACT_ADDRESS chain
        row.canonicalPayload) :
    ∃ signed,
      expected.validateStoredReceipt platform row = .ok signed := by
  obtain ⟨other, signed, valid, signs, rfl⟩ := invariant.made member
  rw [signs.canonicalPayload] at intends
  have same := stored_of_intends ideal asks valid signs intends
  have isExpected : expected = other.stored := by
    rw [← same]
    cases expected
    simp only [ReceiptExpectation.stored, ReceiptExpectation.mk.injEq,
      true_and, and_true]
    have sessionId := asks.sessionId
    have providerId := asks.providerId
    simp only at sessionId providerId
    rw [sessionId, providerId]
    exact ⟨identified.1.symm, identified.2.symm⟩
  exact
    ⟨signed,
      ReceiptExpectation.validate_signed ideal asks.valid valid signs
        isExpected (asks.wellFormed wellFormed)⟩

/-- A call that has ended in an error has thrown it. -/
theorem throws_of_failed
    (reached :
      chain.Runs lost platform TOKEN_CONTRACT_ADDRESS calls config)
    {thread : Nat} {failure : Failure}
    (failed : config.threads thread = some (.fail failure)) :
    (calls thread).Throws platform TOKEN_CONTRACT_ADDRESS failure
      (ownPast thread config.history) :=
  reached.obeysPast
    (fun thread =>
      (calls thread).run_obeys platform TOKEN_CONTRACT_ADDRESS)
    failed

/-- After a receipt is stored, every lookup of its hash answers it. -/
theorem lookups_of_stored
    (reached :
      chain.Runs lost platform TOKEN_CONTRACT_ADDRESS calls before)
    (continued :
      ReachableWhen (semantics lost)
        (fun _ entry => chain.keepsAnswers entry = true) before config) :
    before.shared.receipts ⊆ config.shared.receipts ∧
      ∃ newer,
        config.history = newer ++ before.history ∧
          ∀ thread row found,
            row ∈ before.shared.receipts →
            ⟨thread, .read (.receiptsOfHash row.tokenTxHash),
                .ok found⟩ ∈ newer →
            found = [row] := by
  induction continued with
  | start =>
      refine ⟨List.Subset.refl _, [], rfl, ?_⟩
      intro thread row found member impossible
      cases impossible
  | @step middle last label continued step met inductionHypothesis =>
      obtain ⟨kept, newer, isHistory, lookups⟩ := inductionHypothesis
      have reachedNow := reached.trans continued
      cases step with
      | stop thread =>
          exact ⟨kept, newer, isHistory, lookups⟩
      | @perform owner op rest choice answer next running answered =>
          have effect := respond_effect answered
          have oneEach := (receiptInvariant reachedNow).oneEach
          refine
            ⟨List.Subset.trans kept
                (receipts_kept reachedNow running effect),
              ⟨owner, op, answer⟩ :: newer, ?_, ?_⟩
          · exact congrArg (List.cons _) isHistory
          · intro thread row found member isNew
            rcases List.mem_cons.mp isNew with same | earlier
            · cases same
              cases effect with
              | quiet locks notTables =>
                  cases notTables
              | read query =>
                  exact
                    Database.receiptsOfHash_of_mem oneEach (kept member)
            · exact lookups thread row found member earlier

/-- What holds of the receipts at the end of a run that passes a point. -/
structure OneTrustedReceipt
    (platform : Platform)
    (TOKEN_CONTRACT_ADDRESS : String)
    (chain : ReceiptChain)
    (calls : Nat → SpendReceiptRequest)
    (before config : Config sparkz Failure Database) :
    Prop where
  /-- At most one receipt is ever stored for a hash. -/
  oneEach : (config.shared.receipts.map (·.tokenTxHash)).Nodup
  stays : ∀ row ∈ before.shared.receipts, row ∈ config.shared.receipts
  /-- A call that returns gives a receipt. -/
  returns :
    ∀ thread,
      config.threads thread = some (.done ()) →
      ∃ signed, ⟨thread, .note (.receipt signed), ()⟩ ∈ config.history
  /-- That receipt is stored, trusted, and what the call has asked for. -/
  returned :
    ∀ thread signed,
      ⟨thread, .note (.receipt signed), ()⟩ ∈ config.history →
      signed.row ∈ config.shared.receipts ∧
        signed.row.signed = signed ∧
        (verifySpendReceiptAgainstTrustedSigner platform signed.payload
          signed.signature signed.signerAddress
          chain.signerAddress).valid = true ∧
        (calls thread).Intends platform TOKEN_CONTRACT_ADDRESS chain
          signed.payload
  /-- Calls for one transfer return one receipt. -/
  same :
    ∀ thread signed other otherSigned,
      ⟨thread, .note (.receipt signed), ()⟩ ∈ config.history →
      ⟨other, .note (.receipt otherSigned), ()⟩ ∈ config.history →
      canonicalTxHash (calls thread).txHash =
        canonicalTxHash (calls other).txHash →
      signed = otherSigned
  /-- A lookup after a receipt is stored answers that receipt. -/
  lookups :
    ∃ newer,
      config.history = newer ++ before.history ∧
        ∀ thread row found,
          row ∈ before.shared.receipts →
          ⟨thread, .read (.receiptsOfHash row.tokenTxHash),
              .ok found⟩ ∈ newer →
          found = [row]
  /-- A call that finds the receipt it intends does not fail. -/
  agrees :
    ∀ thread hash row failure,
      ⟨thread, .read (.receiptsOfHash hash), .ok [row]⟩ ∈
        config.history →
      (calls thread).Identified →
      (calls thread).Intends platform TOKEN_CONTRACT_ADDRESS chain
        row.canonicalPayload →
      config.threads thread ≠ some (.fail failure)
  /-- A call that finds another intent ends in an error for review. -/
  differs :
    ∀ thread hash row,
      ⟨thread, .read (.receiptsOfHash hash), .ok [row]⟩ ∈
        config.history →
      ¬ (calls thread).Intends platform TOKEN_CONTRACT_ADDRESS chain
        row.canonicalPayload →
      config.threads thread ≠ some (.done ()) ∧
        ∀ failure,
          config.threads thread = some (.fail failure) →
          failure.requiresReview = true
  /-- A call for another intent than the stored one has stored nothing. -/
  storesNothing :
    ∀ thread row,
      row ∈ config.shared.receipts →
      canonicalTxHash (calls thread).txHash = some row.tokenTxHash →
      ¬ (calls thread).Intends platform TOKEN_CONTRACT_ADDRESS chain
        row.canonicalPayload →
      (∀ signed,
        ⟨thread, .note (.receipt signed), ()⟩ ∉ config.history) ∧
        ∀ other answer,
          ⟨thread, .write (.insertReceipt other), answer⟩ ∈
            config.history →
          other ∉ config.shared.receipts

/-- Two stored receipts of one hash are one. -/
theorem ReceiptInvariant.row_unique
    {database : Database}
    {history : List (Entry sparkz)}
    (invariant :
      ReceiptInvariant platform TOKEN_CONTRACT_ADDRESS chain calls
        database history)
    {row other : SpendReceipt}
    (member : row ∈ database.receipts)
    (otherMember : other ∈ database.receipts)
    (same : row.tokenTxHash = other.tokenTxHash) :
    row = other :=
  List.inj_on_of_nodup_map invariant.oneEach member otherMember same

/-- What a call has returned, in the terms of its request. -/
theorem SpendReceiptRequest.HasReturned.facts
    {thread : Nat}
    {database : Database}
    {signed : SignedSpendReceipt}
    (ideal : chain.Ideal platform)
    (returned :
      (calls thread).HasReturned platform TOKEN_CONTRACT_ADDRESS chain
        database signed) :
    signed.row ∈ database.receipts ∧
      signed.row.signed = signed ∧
      signed.row.canonicalPayload = signed.payload ∧
      signed.row.tokenTxHash = signed.payload.tokenTxHash ∧
      (verifySpendReceiptAgainstTrustedSigner platform signed.payload
        signed.signature signed.signerAddress
        chain.signerAddress).valid = true ∧
      (calls thread).Intends platform TOKEN_CONTRACT_ADDRESS chain
        signed.payload := by
  obtain ⟨expected, other, asks, valid, signs, same, isStored⟩ :=
    returned
  have intends := intends_of_stored ideal asks valid signs same
  obtain ⟨isRow, isHash, _, _, _, _, _, hash, _, _, signature, signer⟩ :=
    signs.cases valid ideal
  refine
    ⟨isStored, isRow, signs.canonicalPayload, isHash.trans hash.symm,
      ?_, intends⟩
  rw [signature, signer]
  exact ReceiptExpectation.verify_signed ideal signed.payload

/-- A receipt that a call has returned is the stored one of its hash. -/
theorem returned_row
    (ideal : chain.Ideal platform)
    (reached :
      chain.Runs lost platform TOKEN_CONTRACT_ADDRESS calls config)
    {thread : Nat}
    {signed : SignedSpendReceipt}
    {row : SpendReceipt}
    (noted :
      ⟨thread, .note (.receipt signed), ()⟩ ∈ config.history)
    (member : row ∈ config.shared.receipts)
    (isHash :
      canonicalTxHash (calls thread).txHash = some row.tokenTxHash) :
    signed.row = row := by
  obtain ⟨isStored, _, _, sameHash, _, intends⟩ :=
    (hasReturned_of_note ideal reached noted).facts ideal
  rw [intends.hash] at isHash
  exact
    (receiptInvariant reached).row_unique isStored member
      (sameHash.trans (Option.some.inj isHash))

/-- Calls for one transfer return one receipt. -/
theorem returned_same
    (ideal : chain.Ideal platform)
    (reached :
      chain.Runs lost platform TOKEN_CONTRACT_ADDRESS calls config)
    {thread other : Nat}
    {signed otherSigned : SignedSpendReceipt}
    (noted :
      ⟨thread, .note (.receipt signed), ()⟩ ∈ config.history)
    (otherNoted :
      ⟨other, .note (.receipt otherSigned), ()⟩ ∈ config.history)
    (sameHash :
      canonicalTxHash (calls thread).txHash =
        canonicalTxHash (calls other).txHash) :
    signed = otherSigned := by
  obtain ⟨_, isRow, _⟩ :=
    (hasReturned_of_note ideal reached noted).facts ideal
  obtain ⟨otherStored, otherRow, _, isHash, _, intends⟩ :=
    (hasReturned_of_note ideal reached otherNoted).facts ideal
  have sameRow :=
    returned_row ideal reached noted otherStored
      (by rw [sameHash, intends.hash, isHash])
  rw [← isRow, ← otherRow, sameRow]

/-- A call that finds the receipt it intends does not fail. -/
theorem notFailed_of_intended
    (ideal : chain.Ideal platform)
    (reached :
      chain.Runs lost platform TOKEN_CONTRACT_ADDRESS calls config)
    {thread : Nat}
    {hash : TransactionHash}
    {row : SpendReceipt}
    {failure : Failure}
    (found :
      ⟨thread, .read (.receiptsOfHash hash), .ok [row]⟩ ∈
        config.history)
    (identified : (calls thread).Identified)
    (wellFormed : (calls thread).WellFormed)
    (intends :
      (calls thread).Intends platform TOKEN_CONTRACT_ADDRESS chain
        row.canonicalPayload) :
    config.threads thread ≠ some (.fail failure) := by
  intro failed
  have invariant := receiptInvariant reached
  obtain ⟨expected, expects, _, thrown⟩ :=
    (throws_of_failed reached failed).found hash row
      (mem_ownPast.mpr found)
  obtain ⟨signed, passed⟩ :=
    validate_of_intends ideal invariant
      (expects.asks invariant.unchanged) identified wellFormed
      (invariant.found thread hash row found).1 intends
  rw [passed] at thrown
  cases thrown

end Run

/--
In every run of calls for receipts, with one chain, one signer and one token,
every transfer has one trusted receipt, and its intent does not change, as long
as the identifiers of the calls have no unpaired surrogates.
-/
theorem oneTrustedReceipt
    {lost : Bool}
    {platform : Platform}
    {TOKEN_CONTRACT_ADDRESS : String}
    {chain : ReceiptChain}
    (ideal : chain.Ideal platform)
    {calls : Nat → SpendReceiptRequest}
    (wellFormed : ∀ thread, (calls thread).WellFormed)
    {before config : Config sparkz Failure Database}
    (reached :
      chain.Runs lost platform TOKEN_CONTRACT_ADDRESS calls before)
    (continued :
      ReachableWhen (semantics lost)
        (fun _ entry => chain.keepsAnswers entry = true) before config) :
    OneTrustedReceipt platform TOKEN_CONTRACT_ADDRESS chain calls before
      config := by
  have reachedLast := reached.trans continued
  have invariant := receiptInvariant reachedLast
  have hasNoted :
      ∀ thread,
        config.threads thread = some (.done ()) →
        ∃ signed,
          (⟨.note (.receipt signed), ()⟩ : Event sparkz) ∈
            ownPast thread config.history := by
    intro thread isDone
    have ended :=
      reachedLast.obeysPast
        (fun thread =>
          (calls thread).run_obeys platform TOKEN_CONTRACT_ADDRESS)
        isDone
    exact ended
  have facts :=
    fun
      {thread : Nat}
      {signed : SignedSpendReceipt}
      (noted :
        ⟨thread, .note (.receipt signed), ()⟩ ∈ config.history) =>
      (hasReturned_of_note ideal reachedLast noted).facts ideal
  obtain ⟨kept, lookups⟩ := lookups_of_stored reached continued
  constructor
  · exact invariant.oneEach
  · exact kept
  · intro thread isDone
    obtain ⟨signed, noted⟩ := hasNoted thread isDone
    exact ⟨signed, mem_ownPast.mp noted⟩
  · intro thread signed noted
    obtain ⟨isStored, isRow, _, _, trusted, intends⟩ := facts noted
    exact ⟨isStored, isRow, trusted, intends⟩
  · intro thread signed other otherSigned
    exact returned_same ideal reachedLast
  · exact lookups
  · intro thread hash row failure found identified
    exact
      notFailed_of_intended ideal reachedLast found identified
        (wellFormed thread)
  · intro thread hash row found another
    obtain ⟨member, isHash, isOwn⟩ :=
      invariant.found thread hash row found
    constructor
    · intro isDone
      obtain ⟨signed, noted⟩ :=
        hasNoted thread isDone
      have isReturned := mem_ownPast.mp noted
      obtain ⟨_, _, samePayload, _, _, intends⟩ := facts isReturned
      have sameRow :=
        returned_row ideal reachedLast isReturned member
          (by
            rw [isHash]
            exact SpendReceiptRequest.hash_eq_ok.mp isOwn)
      refine another ?_
      rw [← sameRow, samePayload]
      exact intends
    · intro failure failed
      have throws := throws_of_failed reachedLast failed
      obtain ⟨expected, _, _, thrown⟩ :=
        throws.found hash row (mem_ownPast.mpr found)
      exact
        ReceiptExpectation.reviews_validateStoredReceipt row failure
          thrown
  · intro thread row member isHash another
    constructor
    · intro signed noted
      obtain ⟨_, _, samePayload, _, _, intends⟩ := facts noted
      have sameRow :=
        returned_row ideal reachedLast noted member isHash
      refine another ?_
      rw [← sameRow, samePayload]
      exact intends
    · intro other answer issued isStored
      obtain ⟨expected, signed, asks, signs, rfl⟩ :=
        invariant.issued thread other answer issued
      have signedCases := signs.cases asks.valid ideal
      have sameHash : signed.row.tokenTxHash = row.tokenTxHash := by
        rw [signedCases.2.1]
        have isOwn := SpendReceiptRequest.hash_eq_ok.mp asks.txHash
        exact Option.some.inj (isOwn.symm.trans isHash)
      have sameRow := invariant.row_unique isStored member sameHash
      refine another ?_
      rw [← sameRow]
      rw [signs.canonicalPayload]
      exact intends_of_stored ideal asks asks.valid signs rfl

/-! ## Two calls that race -/

/-- The addresses of the run, whose spelling has no letters. -/
def racingAddresses : List String :=
  ["0x1111111111111111111111111111111111111111",
    "0x2222222222222222222222222222222222222222",
    "0x3333333333333333333333333333333333333333"]

/-- The chain of the run. -/
def racingChain : ReceiptChain where
  chainId := 80002
  signerAddress := "0x1111111111111111111111111111111111111111"
  sign := fun payload => "signed " ++ payload.receiptId

/-- The libraries, on the addresses of the run. -/
def racingPlatform : Platform :=
  { Platform.sample with
    getAddress := fun value =>
      if value ∈ racingAddresses then some value else none
    verifyMessage := fun payload signature =>
      if signature = racingChain.sign payload then
        some racingChain.signerAddress
      else
        none }

/-- Both calls are about one transfer; one spells its hash in capitals. -/
def racingCalls (sessionId : JsString) (thread : Nat) :
    SpendReceiptRequest where
  uid := jsString "alice"
  walletAddress := "0x2222222222222222222222222222222222222222"
  amount := .ofNat 5
  sessionId := some sessionId
  providerId := none
  txHash :=
    "0x" ++
      String.ofList
        (List.replicate 64 (if thread = 0 then 'a' else 'A'))

/-- The chain, the signer and the clock answer as they always do. -/
def racingChoice (randomUUID : String) : Choice where
  fault := .none
  chain := fun request =>
    match request with
    | .network => .ok racingChain.chainId
    | .signerAddress => .ok racingChain.signerAddress
    | .signMessage payload => .ok (racingChain.sign payload)
    | _ => .error ⟨"", false, false⟩
  service := fun request =>
    match request with
    | .newId => randomUUID
    | request => Choice.databaseOnly.service request

/-- The start of a race: the second insert fails and finds the first. -/
def raced
    (sessionId : JsString)
    (lastSteps : Nat) :
    Option (Config sparkz Failure Database) :=
  (SpendReceiptRequest.start racingPlatform
    "0x3333333333333333333333333333333333333333"
    (racingCalls sessionId)).run?
    (semantics false) (fun _ entry => racingChain.keepsAnswers entry)
    (List.replicate 8 (0, racingChoice "a") ++
      List.replicate 9 (1, racingChoice "b") ++
      List.replicate 3 (0, racingChoice "a") ++
      List.replicate lastSteps (1, racingChoice "b"))

/-- Whether an entry is the return of a receipt. -/
def isReceiptNote (entry : Entry sparkz) : Bool :=
  match entry.op with
  | .note (.receipt _) => true
  | _ => false

/-- The libraries behave on the addresses of the run. -/
theorem racingChain_ideal : racingChain.Ideal racingPlatform where
  addressAgain := by
    intro value address isAddress
    simp only [racingPlatform] at isAddress ⊢
    split at isAddress
    · cases isAddress
      rename_i known
      rw [if_pos known]
    · cases isAddress
  addressCase := by
    intro value other address otherAddress isAddress isOther sameCase
    simp only [racingPlatform] at isAddress isOther
    split at isAddress
    · rename_i known
      cases isAddress
      split at isOther
      · rename_i otherKnown
        cases isOther
        have distinct :
            ∀ first ∈ racingAddresses, ∀ second ∈ racingAddresses,
              lowerText first = lowerText second → first = second := by
          decide +kernel
        exact distinct value known other otherKnown sameCase
      · cases isOther
    · cases isAddress
  noAddress := by decide +kernel
  signer := by decide +kernel
  verifies := by
    intro payload
    simp [racingPlatform]

theorem racingCalls_identified
    {sessionId : JsString}
    (notEmpty : sessionId ≠ [])
    (thread : Nat) :
    (racingCalls sessionId thread).Identified :=
  ⟨JsString.orNull_eq_some.mpr ⟨rfl, notEmpty⟩, rfl⟩

/-- The calls of a race have the identifiers that their session has. -/
theorem racingCalls_wellFormed
    {sessionId : JsString}
    (wellFormed : sessionId.IsWellFormed)
    (thread : Nat) :
    (racingCalls sessionId thread).WellFormed where
  uid := isWellFormed_jsString "alice"
  sessionId := by
    rintro text same
    cases same
    exact wellFormed
  providerId := by
    rintro text impossible
    cases impossible

/-- Two calls race for one transfer, and both return its one receipt. -/
theorem racingReceipts_agree :
    ∃ config,
      raced (jsString "session") 4 = some config ∧
        config.shared.receipts.length = 1 ∧
        config.history.countP isReceiptNote = 2 ∧
        OneTrustedReceipt racingPlatform
          "0x3333333333333333333333333333333333333333" racingChain
          (racingCalls (jsString "session"))
          (SpendReceiptRequest.start racingPlatform
            "0x3333333333333333333333333333333333333333"
            (racingCalls (jsString "session")))
          config := by
  have isRun :
      (raced (jsString "session") 4).map (fun config =>
        (config.shared.receipts.length,
          config.history.countP isReceiptNote)) = some (1, 2) := by
    decide +kernel
  obtain ⟨config, isConfig, counts⟩ := Option.map_eq_some_iff.mp isRun
  obtain ⟨oneReceipt, twoNotes⟩ := Prod.mk.inj counts
  refine ⟨config, isConfig, oneReceipt, twoNotes, ?_⟩
  exact
    oneTrustedReceipt racingChain_ideal
      (racingCalls_wellFormed (isWellFormed_jsString "session")) .start
      (Config.run?_sound (fun _ _ => id) .start isConfig)

/-- The one receipt that a lookup of a thread has found. -/
def foundBy (thread : Nat) :
    Entry sparkz → Option (TransactionHash × SpendReceipt)
  | ⟨owner, .read (.receiptsOfHash hash), .ok [row]⟩ =>
      if owner = thread then some (hash, row) else none
  | _ => none

theorem foundBy_eq_some
    {thread : Nat}
    {entry : Entry sparkz}
    {hash : TransactionHash}
    {row : SpendReceipt}
    (isFound : foundBy thread entry = some (hash, row)) :
    entry = ⟨thread, .read (.receiptsOfHash hash), .ok [row]⟩ := by
  unfold foundBy at isFound
  split at isFound
  · split at isFound
    · rename_i isOwner
      cases isFound
      rw [isOwner]
    · cases isFound
  · cases isFound

/-- The receipt over which a thread has failed. -/
def failedOver
    (thread : Nat)
    (config : Config sparkz Failure Database) :
    Option (TransactionHash × SpendReceipt) :=
  match config.threads thread with
  | some (.fail _) => config.history.findSome? (foundBy thread)
  | _ => none

theorem failedOver_eq_some
    {thread : Nat}
    {config : Config sparkz Failure Database}
    {hash : TransactionHash}
    {row : SpendReceipt}
    (isOver : failedOver thread config = some (hash, row)) :
    (∃ failure, config.threads thread = some (.fail failure)) ∧
      ⟨thread, .read (.receiptsOfHash hash), .ok [row]⟩ ∈
        config.history := by
  unfold failedOver at isOver
  split at isOver
  · rename_i failure isFailed
    obtain ⟨entry, member, isFound⟩ :=
      List.exists_of_findSome?_eq_some isOver
    rw [foundBy_eq_some isFound] at member
    exact ⟨⟨failure, isFailed⟩, member⟩
  · cases isOver

/--
Two calls race for one transfer with one unpaired surrogate as their session.
The second finds the receipt that both of them intend, and fails.
-/
theorem surrogateReceipts_disagree :
    racingChain.Ideal racingPlatform ∧
      (∀ thread, (racingCalls [0xd800] thread).Identified) ∧
      ∃ config,
        racingChain.Runs false racingPlatform
          "0x3333333333333333333333333333333333333333"
          (racingCalls [0xd800]) config ∧
        ¬ OneTrustedReceipt racingPlatform
          "0x3333333333333333333333333333333333333333" racingChain
          (racingCalls [0xd800])
          (SpendReceiptRequest.start racingPlatform
            "0x3333333333333333333333333333333333333333"
            (racingCalls [0xd800]))
          config := by
  refine
    ⟨racingChain_ideal, racingCalls_identified (by decide), ?_⟩
  have isRun :
      (((raced [0xd800] 3).bind (failedOver 1)).any fun found =>
        (racingCalls [0xd800] 1).Intends racingPlatform
          "0x3333333333333333333333333333333333333333" racingChain
          found.2.canonicalPayload) = true := by
    decide +kernel
  obtain ⟨⟨hash, row⟩, isOver, intends⟩ := (Option.any_eq_true ..).mp isRun
  obtain ⟨config, isConfig, isOver⟩ := Option.bind_eq_some_iff.mp isOver
  obtain ⟨⟨failure, failed⟩, found⟩ := failedOver_eq_some isOver
  refine
    ⟨config, Config.run?_sound (fun _ _ => id) .start isConfig,
      fun trusted => ?_⟩
  exact
    trusted.agrees 1 hash row failure found
      (racingCalls_identified (by decide) 1) (of_decide_eq_true intends)
      failed

end Sparkz
