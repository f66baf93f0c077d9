import Sparkz.Refusals
import Sparkz.SoloCalls
import Sparkz.TransactionReliability

namespace Sparkz

open Interleaving
open Refusals

/-!
# What chain evidence proves

`verifySpendEvidence` is a long chain of checks.  Here the transfer that it
looks for is described once, without order: what a well-formed request is,
when a receipt is identified, and when the two of them prove the transfer.
-/

/-! ## The request -/

/-- An input writes a non-negative integer exactly. -/
inductive IntegerInput.Writes : IntegerInput → Nat → Prop
  | bigint (value : Nat) :
      Writes (.bigint value) value
  | number
      (value : ShortestDecimal)
      (isInteger : value.fraction = [])
      (isSafe : value.whole < 2 ^ 53) :
      Writes (.number (.decimal value)) value.whole
  | text
      (text : String)
      (value : Nat)
      (isInteger : integerOfText text = some value) :
      Writes (.text text) value

/-- Whether an input is a JavaScript number. -/
def IntegerInput.isNumber : IntegerInput → Bool
  | .number _ => true
  | _ => false

/-- The inputs are well formed, and this is the transfer they ask for. -/
structure SpendEvidenceRequest.WellFormed
    (getAddress : String → Option String)
    (input : SpendEvidenceRequest)
    (expected : ExpectedTransfer) :
    Prop where
  hashPattern : matchesHashPattern input.txHash = true
  txHash : expected.txHash = lowerText input.txHash
  tokenContract :
    getAddress input.tokenContractAddress = some expected.tokenContract
  sourceWallet :
    getAddress input.sourceWallet = some expected.sourceWallet
  treasuryRecipient :
    getAddress input.treasuryRecipient = some expected.treasuryRecipient
  chainId : input.chainId.Writes expected.chainId
  amount : input.amountUnits.Writes expected.amount
  exactAmount : input.amountUnits.isNumber = false

/-! ## The transaction and its receipt -/

/-- A target is the token contract, in any letter case. -/
def ExpectedTransfer.IsTarget
    (expected : ExpectedTransfer)
    (target : Option String) :
    Prop :=
  ∃ address,
    orNull target = some address ∧
      sameAddress address expected.tokenContract = true

/-- The transaction is the one that was asked for, on the expected chain. -/
structure TransactionResponse.Identified
    (expected : ExpectedTransfer)
    (network : Nat)
    (transaction : TransactionResponse) :
    Prop where
  network : network = expected.chainId
  hash : lowerText transaction.hash = expected.txHash
  chainId :
    ∀ chainId : Nat,
      transaction.chainId = some chainId →
      chainId = 0 ∨ chainId = expected.chainId
  target : expected.IsTarget transaction.toAddress

/-- The receipt belongs to the transaction, which this address has sent. -/
structure TransactionReceipt.Identified
    (getAddress : String → Option String)
    (expected : ExpectedTransfer)
    (transaction : TransactionResponse)
    (receipt : TransactionReceipt)
    (sender : String) :
    Prop where
  hash : lowerText receipt.hash = expected.txHash
  target : expected.IsTarget receipt.toAddress
  transactionSender : transaction.sender.bind getAddress = some sender
  receiptSender :
    ∃ receiptSender,
      receipt.sender.bind getAddress = some receiptSender ∧
        sameAddress receiptSender sender = true

/-- A movement of tokens is the expected one. -/
structure ExpectedTransfer.IsMovement
    (expected : ExpectedTransfer)
    (source recipient : String)
    (amount : Nat) :
    Prop where
  source : sameAddress source expected.sourceWallet = true
  recipient : sameAddress recipient expected.treasuryRecipient = true
  amount : amount = expected.amount

/-- The calldata asks for the expected transfer. -/
inductive ParsedCall.Asks
    (expected : ExpectedTransfer)
    (sender : String) :
    ParsedCall → Prop
  | transfer
      {recipient : String}
      {amount : Nat}
      (movement : expected.IsMovement sender recipient amount) :
      Asks expected sender (.transfer recipient amount)
  | transferFrom
      {source recipient : String}
      {amount : Nat}
      (movement : expected.IsMovement source recipient amount) :
      Asks expected sender (.transferFrom source recipient amount)

/-- A log is a Transfer event of the token contract for the transfer. -/
structure ReceiptLog.Shows
    (expected : ExpectedTransfer)
    (log : ReceiptLog) :
    Prop where
  address :
    ∃ address,
      log.address = some address ∧
        sameAddress address expected.tokenContract = true
  topic :
    ∃ topic, log.topic = some topic ∧ lowerText topic = TRANSFER_TOPIC
  event :
    ∃ source recipient value,
      log.event = .transfer source recipient value ∧
        expected.IsMovement source recipient value

/-- The transaction and its receipt prove the expected transfer. -/
structure ExpectedTransfer.Proved
    (getAddress : String → Option String)
    (expected : ExpectedTransfer)
    (transaction : TransactionResponse)
    (receipt : TransactionReceipt)
    (sender : String) :
    Prop where
  identified :
    receipt.Identified getAddress expected transaction sender
  status : receipt.status = some 1
  call : transaction.call.Asks expected sender
  log : ∃ log ∈ receipt.logs, log.Shows expected

/-! ## The checks of the request -/

section Request

variable {getAddress : String → Option String}

theorem nonNegative_eq_some {value : Int} {number : Nat} :
    nonNegative value = some number ↔ value = (number : Int) := by
  cases value with
  | ofNat value =>
      exact Option.some_inj.trans Int.ofNat_inj.symm
  | negSucc value =>
      exact iff_of_false (by rintro ⟨⟩) (by rintro ⟨⟩)

theorem parseChainId_orInvalid_eq_ok
    {parsed : Option Nat}
    {message : String}
    {chainId : Nat} :
    parseChainId.orInvalid parsed message = .ok chainId ↔
      parsed = some chainId := by
  cases parsed with
  | none =>
      simp [parseChainId.orInvalid]
  | some value =>
      simp [parseChainId.orInvalid]

theorem parseAmountUnits_orInvalid_eq_ok
    {parsed : Option Nat}
    {message : String}
    {amount : Nat} :
    parseAmountUnits.orInvalid parsed message = .ok amount ↔
      parsed = some amount := by
  cases parsed with
  | none =>
      simp [parseAmountUnits.orInvalid]
  | some value =>
      simp [parseAmountUnits.orInvalid]

namespace IntegerInput

theorem writes_bigint {value : Int} {number : Nat} :
    (bigint value).Writes number ↔ nonNegative value = some number := by
  rw [nonNegative_eq_some]
  constructor
  · intro writes
    cases writes with
    | bigint number =>
        rfl
  · intro isNumber
    subst isNumber
    exact .bigint number

theorem writes_number {value : JsNumber} {integer : Nat} :
    (number value).Writes integer ↔ safeInteger value = some integer := by
  constructor
  · intro writes
    cases writes with
    | number decimal isInteger isSafe =>
        exact if_pos ⟨isInteger, isSafe⟩
  · intro isInteger
    cases value with
    | decimal decimal =>
        simp only [safeInteger, Option.ite_none_right_eq_some,
          Option.some.injEq] at isInteger
        obtain ⟨⟨isInteger, isSafe⟩, rfl⟩ := isInteger
        exact .number decimal isInteger isSafe
    | _ =>
        simp [safeInteger] at isInteger

theorem writes_text {value : String} {number : Nat} :
    (text value).Writes number ↔ integerOfText value = some number := by
  constructor
  · intro writes
    cases writes with
    | text _ _ isInteger =>
        exact isInteger
  · exact .text value number

theorem not_writes_other {number : Nat} :
    ¬ other.Writes number := by
  intro writes
  cases writes

end IntegerInput

theorem parseChainId_eq_ok {value : IntegerInput} {chainId : Nat} :
    parseChainId value = .ok chainId ↔ value.Writes chainId := by
  cases value with
  | bigint value =>
      exact parseChainId_orInvalid_eq_ok.trans
        IntegerInput.writes_bigint.symm
  | number value =>
      exact parseChainId_orInvalid_eq_ok.trans
        IntegerInput.writes_number.symm
  | text value =>
      exact parseChainId_orInvalid_eq_ok.trans
        IntegerInput.writes_text.symm
  | other =>
      simp [parseChainId, parseChainId_orInvalid_eq_ok,
        IntegerInput.not_writes_other]

theorem parseAmountUnits_eq_ok {value : IntegerInput} {amount : Nat} :
    parseAmountUnits value = .ok amount ↔
      value.Writes amount ∧ value.isNumber = false := by
  cases value with
  | bigint value =>
      simp [parseAmountUnits, parseAmountUnits_orInvalid_eq_ok,
        IntegerInput.writes_bigint, IntegerInput.isNumber]
  | number value =>
      simp [parseAmountUnits, parseAmountUnits_orInvalid_eq_ok,
        IntegerInput.isNumber]
  | text value =>
      simp [parseAmountUnits, parseAmountUnits_orInvalid_eq_ok,
        IntegerInput.writes_text, IntegerInput.isNumber]
  | other =>
      simp [parseAmountUnits, parseAmountUnits_orInvalid_eq_ok,
        IntegerInput.not_writes_other]

theorem canonicalAddress_eq_ok
    {value : Option String}
    {fieldName address : String} :
    canonicalAddress getAddress value fieldName = .ok address ↔
      value.bind getAddress = some address := by
  unfold canonicalAddress
  cases value.bind getAddress with
  | none =>
      simp
  | some found =>
      simp

/-- The request is accepted exactly when its fields are well formed. -/
theorem expectedTransfer_eq_ok
    {input : SpendEvidenceRequest}
    {expected : ExpectedTransfer} :
    expectedTransfer getAddress input = .ok expected ↔
      input.WellFormed getAddress expected := by
  simp only [expectedTransfer, throw_eq_error, error_bind, pure_eq_ok,
    ite_error_eq_ok, bind_eq_ok_iff, canonicalAddress_eq_ok,
    parseChainId_eq_ok, parseAmountUnits_eq_ok, Option.bind_some]
  constructor
  · rintro ⟨hashPattern, token, isToken, source, isSource, treasury,
      isTreasury, chainId, isChain, amount, ⟨isAmount, exactAmount⟩,
      isExpected⟩
    cases isExpected
    exact
      { hashPattern := by simpa using hashPattern
        txHash := rfl
        tokenContract := isToken
        sourceWallet := isSource
        treasuryRecipient := isTreasury
        chainId := isChain
        amount := isAmount
        exactAmount := exactAmount }
  · intro wellFormed
    refine
      ⟨by simp [wellFormed.hashPattern], _, wellFormed.tokenContract,
        _, wellFormed.sourceWallet, _, wellFormed.treasuryRecipient,
        _, wellFormed.chainId, _,
        ⟨wellFormed.amount, wellFormed.exactAmount⟩, ?_⟩
    rw [← wellFormed.txHash]

end Request

/-! ## The checks of the transaction and the receipt -/

section Evidence

variable {getAddress : String → Option String}
  {expected : ExpectedTransfer}

theorem not_isTarget_iff {target : Option String} :
    (!(orNull target).any (sameAddress · expected.tokenContract)) = true ↔
      ¬ expected.IsTarget target := by
  simp [ExpectedTransfer.IsTarget, Option.any_eq_false]

/-- The transaction passes exactly when it is the expected one. -/
theorem checkTransaction_eq_ok
    {network : Nat}
    {found : Option TransactionResponse}
    {transaction : TransactionResponse} :
    checkTransaction expected network found = .ok transaction ↔
      found = some transaction ∧
        transaction.Identified expected network := by
  cases found with
  | none =>
      simp [checkTransaction]
  | some found =>
      simp only [checkTransaction, throw_eq_error, error_bind,
        pure_eq_ok, ite_error_eq_ok, Option.some.injEq, ne_eq,
        not_not]
      cases stated : found.chainId with
      | none =>
          simp only [ite_error_eq_ok, not_isTarget_iff, not_not,
            Except.ok.injEq]
          constructor
          · rintro ⟨network, hash, target, rfl⟩
            exact ⟨rfl, network, hash, by simp [stated], target⟩
          · rintro ⟨rfl, identified⟩
            exact
              ⟨identified.network, identified.hash, identified.target,
                rfl⟩
      | some chainId =>
          simp only [ite_error_eq_ok, not_isTarget_iff, not_not,
            not_and_or, Except.ok.injEq]
          constructor
          · rintro ⟨network, hash, passes, target, rfl⟩
            refine ⟨rfl, network, hash, ?_, target⟩
            intro other isOther
            rw [stated] at isOther
            cases isOther
            exact passes
          · rintro ⟨rfl, identified⟩
            exact
              ⟨identified.network, identified.hash,
                identified.chainId chainId stated, identified.target,
                rfl⟩

/-- The receipt passes exactly when it belongs to the transaction. -/
theorem checkReceipt_eq_ok
    {transaction : TransactionResponse}
    {receipt : TransactionReceipt}
    {sender : String} :
    checkReceipt getAddress expected transaction receipt = .ok sender ↔
      receipt.Identified getAddress expected transaction sender := by
  simp only [checkReceipt, throw_eq_error, error_bind, pure_eq_ok,
    ite_error_eq_ok, bind_eq_ok_iff, canonicalAddress_eq_ok, ne_eq,
    not_isTarget_iff, not_not]
  cases isSender :
      canonicalAddress getAddress receipt.sender "receipt.from" with
  | error failure =>
      simp only [reduceCtorEq, and_false, exists_const, false_iff]
      intro identified
      obtain ⟨receiptSender, found, same⟩ := identified.receiptSender
      rw [canonicalAddress_eq_ok.mpr found] at isSender
      cases isSender
  | ok receiptFrom =>
      have found := canonicalAddress_eq_ok.mp isSender
      simp only [ite_error_eq_ok, Bool.not_eq_true', Bool.not_eq_false,
        Except.ok.injEq]
      constructor
      · rintro ⟨hash, target, sent, transactionSender, same, rfl⟩
        exact ⟨hash, target, transactionSender, receiptFrom, found, same⟩
      · intro identified
        obtain ⟨receiptSender, found', same⟩ := identified.receiptSender
        rw [found] at found'
        cases found'
        exact
          ⟨identified.hash, identified.target, sender,
            identified.transactionSender, same, rfl⟩

/-! ## The calldata and the logs -/

/-- The checks on the calldata pass exactly for the expected transfer. -/
theorem tokenCall_asks
    {sender : String}
    {call : ParsedCall} :
    (∃ source recipient amount method,
        tokenCall sender call = .ok (source, recipient, amount, method) ∧
          expected.IsMovement source recipient amount) ↔
      call.Asks expected sender := by
  constructor
  · rintro ⟨source, recipient, amount, method, isCall, movement⟩
    cases call with
    | transfer payee value =>
        cases isCall
        exact .transfer movement
    | transferFrom origin payee value =>
        cases isCall
        exact .transferFrom movement
    | _ =>
        simp [tokenCall] at isCall
  · intro asks
    cases asks with
    | transfer movement =>
        exact ⟨_, _, _, _, rfl, movement⟩
    | transferFrom movement =>
        exact ⟨_, _, _, _, rfl, movement⟩

/-- A log that does not show the transfer is scanned over. -/
theorem scanLogs_skips
    {log : ReceiptLog}
    {rest : List ReceiptLog}
    {index : Nat}
    {scan : LogScan}
    (foreign : ¬ log.Shows expected) :
    ∃ later,
      scanLogs expected (log :: rest) index scan =
        scanLogs expected rest (index + 1) later := by
  generalize scanned :
    scanLogs expected (log :: rest) index scan = answer
  unfold scanLogs at scanned
  cases isAddress : log.address with
  | none =>
      simp only [isAddress] at scanned
      exact ⟨_, scanned.symm⟩
  | some address =>
      simp only [isAddress] at scanned
      split at scanned
      · exact ⟨_, scanned.symm⟩
      · rename_i isOurs
        simp only [Bool.or_eq_true, Bool.not_eq_true', not_or,
          Bool.not_eq_false, Option.any_eq_true, beq_iff_eq] at isOurs
        obtain ⟨isToken, topic, isTopic, isTransfer⟩ := isOurs
        cases isEvent : log.event with
        | malformed =>
            simp only [isEvent] at scanned
            exact ⟨_, scanned.symm⟩
        | transfer source recipient value =>
            simp only [isEvent] at scanned
            split at scanned
            · rename_i moves
              simp only [Bool.and_eq_true, beq_iff_eq] at moves
              obtain ⟨⟨isSource, isRecipient⟩, isAmount⟩ := moves
              exact absurd
                ⟨⟨address, isAddress, isToken⟩,
                  ⟨topic, isTopic, isTransfer⟩,
                  ⟨source, recipient, value, isEvent,
                    ⟨isSource, isRecipient, isAmount⟩⟩⟩
                foreign
            · exact ⟨_, scanned.symm⟩

/-- A log that shows the transfer ends the scan. -/
theorem scanLogs_stops
    {log : ReceiptLog}
    {rest : List ReceiptLog}
    {index : Nat}
    {scan : LogScan}
    (shows : log.Shows expected) :
    scanLogs expected (log :: rest) index scan =
      .ok (log.index.getD index) := by
  obtain ⟨address, isAddress, isToken⟩ := shows.address
  obtain ⟨topic, isTopic, isTransfer⟩ := shows.topic
  obtain ⟨source, recipient, value, isEvent, movement⟩ := shows.event
  simp [scanLogs, isAddress, isToken, isTopic, isTransfer, isEvent,
    movement.source, movement.recipient, movement.amount]

/-- The scan finds an index exactly when some log shows the transfer. -/
theorem scanLogs_finds
    (logs : List ReceiptLog)
    (index : Nat)
    (scan : LogScan) :
    (∃ found, scanLogs expected logs index scan = .ok found) ↔
      ∃ log ∈ logs, log.Shows expected := by
  induction logs generalizing index scan with
  | nil =>
      simp [scanLogs]
  | cons log rest inductionHypothesis =>
      by_cases shows : log.Shows expected
      · have stops :
            scanLogs expected (log :: rest) index scan =
              .ok (log.index.getD index) :=
          scanLogs_stops shows
        constructor
        · intro _
          exact ⟨log, List.mem_cons_self, shows⟩
        · intro _
          exact ⟨_, stops⟩
      · obtain ⟨later, skips⟩ :=
          @scanLogs_skips _ log rest index scan shows
        rw [skips, inductionHypothesis]
        simp [shows]

/-! ## The verdict -/

/-- The verdict is a proof exactly when the transfer is proved. -/
theorem judgeReceipt_eq_ok
    {transaction : TransactionResponse}
    {found : Option TransactionReceipt} :
    (∃ proof,
        judgeReceipt getAddress expected transaction found = .ok proof) ↔
      ∃ receipt sender,
        found = some receipt ∧
          expected.Proved getAddress transaction receipt sender := by
  cases found with
  | none =>
      simp [judgeReceipt]
  | some receipt =>
      simp only [judgeReceipt, throw_eq_error, error_bind, pure_eq_ok,
        ite_error_eq_ok, bind_eq_ok_iff, checkReceipt_eq_ok, ne_eq,
        not_not, Option.some.injEq]
      constructor
      · rintro ⟨proof, sender, identified, -, status,
          ⟨source, recipient, amount, method⟩, isCall, isSource,
          isRecipient, isAmount, index, isLog, -⟩
        simp only [Bool.not_eq_true', Bool.not_eq_false]
          at isSource isRecipient
        have asks : transaction.call.Asks expected sender :=
          tokenCall_asks.mp
            ⟨source, recipient, amount, method, isCall,
              ⟨isSource, isRecipient, isAmount⟩⟩
        have shown : ∃ log ∈ receipt.logs, log.Shows expected :=
          (scanLogs_finds receipt.logs 0 _).mp ⟨index, isLog⟩
        exact ⟨receipt, sender, rfl, ⟨identified, status, asks, shown⟩⟩
      · rintro ⟨receipt, sender, rfl, proved⟩
        obtain ⟨source, recipient, amount, method, isCall, movement⟩ :=
          tokenCall_asks.mpr proved.call
        obtain ⟨index, isLog⟩ :=
          (scanLogs_finds receipt.logs 0 _).mpr proved.log
        refine
          ⟨_, sender, proved.identified, ?_, proved.status,
            (source, recipient, amount, method), isCall, ?_, ?_,
            movement.amount, index, isLog, rfl⟩
        · simp [proved.status]
        · simp [movement.source]
        · simp [movement.recipient]

/-! ## The one refusal that releases a hold -/

/-- A failure does not say that the transaction failed. -/
def SpendEvidenceFailure.IsOther (failure : SpendEvidenceFailure) : Prop :=
  failure.code ≠ .transactionFailed

/-- A failure says that the transaction was mined and failed. -/
def SpendEvidenceFailure.IsTransactionFailed
    (failure : SpendEvidenceFailure) :
    Prop :=
  failure.code = .transactionFailed

@[simp] theorem evidenceFailure_isOther
    {code : SpendEvidenceFailureCode}
    {message : String} :
    (evidenceFailure code message).IsOther ↔
      code ≠ .transactionFailed :=
  Iff.rfl

theorem canonicalAddress_refuses
    {value : Option String}
    {fieldName : String} :
    Refuses SpendEvidenceFailure.IsOther
      (canonicalAddress getAddress value fieldName) := by
  unfold canonicalAddress
  cases value.bind getAddress with
  | none =>
      simp
  | some address =>
      simp

theorem parseChainId_orInvalid_refuses
    (parsed : Option Nat)
    (message : String) :
    Refuses SpendEvidenceFailure.IsOther
      (parseChainId.orInvalid parsed message) := by
  cases parsed with
  | none =>
      simp [parseChainId.orInvalid]
  | some value =>
      simp [parseChainId.orInvalid]

theorem parseChainId_refuses {value : IntegerInput} :
    Refuses SpendEvidenceFailure.IsOther (parseChainId value) := by
  cases value with
  | other =>
      exact parseChainId_orInvalid_refuses none _
  | _ =>
      exact parseChainId_orInvalid_refuses _ _

theorem parseAmountUnits_orInvalid_refuses
    (parsed : Option Nat)
    (message : String) :
    Refuses SpendEvidenceFailure.IsOther
      (parseAmountUnits.orInvalid parsed message) := by
  cases parsed with
  | none =>
      simp [parseAmountUnits.orInvalid]
  | some value =>
      simp [parseAmountUnits.orInvalid]

theorem parseAmountUnits_refuses {value : IntegerInput} :
    Refuses SpendEvidenceFailure.IsOther (parseAmountUnits value) := by
  cases value with
  | bigint value =>
      exact parseAmountUnits_orInvalid_refuses _ _
  | text value =>
      exact parseAmountUnits_orInvalid_refuses _ _
  | _ =>
      exact parseAmountUnits_orInvalid_refuses none _

theorem expectedTransfer_refuses {input : SpendEvidenceRequest} :
    Refuses SpendEvidenceFailure.IsOther
      (expectedTransfer getAddress input) := by
  unfold expectedTransfer
  refine refuses_ite (fun _ => by simp) fun _ => ?_
  refine refuses_bind canonicalAddress_refuses fun _ _ => ?_
  refine refuses_bind canonicalAddress_refuses fun _ _ => ?_
  refine refuses_bind canonicalAddress_refuses fun _ _ => ?_
  refine refuses_bind parseChainId_refuses fun _ _ => ?_
  refine refuses_bind parseAmountUnits_refuses fun _ _ => ?_
  simp

theorem checkTransaction_refuses
    {network : Nat}
    {found : Option TransactionResponse} :
    Refuses SpendEvidenceFailure.IsOther
      (checkTransaction expected network found) := by
  unfold checkTransaction
  refine refuses_ite (fun _ => by simp) fun _ => ?_
  cases found with
  | none =>
      simp
  | some transaction =>
      refine refuses_ite (fun _ => by simp) fun _ => ?_
      cases transaction.chainId with
      | none =>
          exact refuses_ite (fun _ => by simp) fun _ => by simp
      | some chainId =>
          refine refuses_ite (fun _ => by simp) fun _ => ?_
          exact refuses_ite (fun _ => by simp) fun _ => by simp

theorem checkReceipt_refuses
    {transaction : TransactionResponse}
    {receipt : TransactionReceipt} :
    Refuses SpendEvidenceFailure.IsOther
      (checkReceipt getAddress expected transaction receipt) := by
  unfold checkReceipt
  refine refuses_ite (fun _ => by simp) fun _ => ?_
  refine refuses_ite (fun _ => by simp) fun _ => ?_
  refine refuses_bind canonicalAddress_refuses fun sender _ => ?_
  cases canonicalAddress getAddress receipt.sender "receipt.from" with
  | error failure =>
      simp
  | ok receiptFrom =>
      exact refuses_ite (fun _ => by simp) fun _ => by simp

theorem tokenCall_refuses
    {sender : String}
    {call : ParsedCall} :
    Refuses SpendEvidenceFailure.IsOther (tokenCall sender call) := by
  cases call <;> simp [tokenCall]

theorem verdict_isOther (scan : LogScan) : scan.verdict.IsOther := by
  unfold LogScan.verdict
  split_ifs <;> simp

theorem scanLogs_refuses
    (logs : List ReceiptLog)
    (index : Nat)
    (scan : LogScan) :
    Refuses SpendEvidenceFailure.IsOther
      (scanLogs expected logs index scan) := by
  induction logs generalizing index scan with
  | nil =>
      simpa [scanLogs] using verdict_isOther scan
  | cons log rest inductionHypothesis =>
      by_cases shows : log.Shows expected
      · rw [scanLogs_stops shows]
        simp
      · obtain ⟨later, skips⟩ :=
          @scanLogs_skips _ log rest index scan shows
        rw [skips]
        exact inductionHypothesis (index + 1) later

/-- A receipt with another status than 0 is never reported as failed. -/
theorem judgeReceipt_refuses
    {transaction : TransactionResponse}
    {receipt : TransactionReceipt}
    (notFailed : receipt.status ≠ some 0) :
    Refuses SpendEvidenceFailure.IsOther
      (judgeReceipt getAddress expected transaction (some receipt)) := by
  unfold judgeReceipt
  refine refuses_bind checkReceipt_refuses fun sender _ => ?_
  refine refuses_ite (fun failed => absurd failed notFailed) fun _ => ?_
  refine refuses_ite (fun _ => by simp) fun _ => ?_
  refine refuses_bind tokenCall_refuses fun call _ => ?_
  refine refuses_ite (fun _ => by simp) fun _ => ?_
  refine refuses_ite (fun _ => by simp) fun _ => ?_
  refine refuses_ite (fun _ => by simp) fun _ => ?_
  refine refuses_bind (scanLogs_refuses _ _ _) fun index _ => ?_
  simp

/-- Only an identified receipt with status 0 is reported as failed. -/
theorem judgeReceipt_failed
    {transaction : TransactionResponse}
    {found : Option TransactionReceipt} :
    (∃ failure,
        judgeReceipt getAddress expected transaction found =
            .error failure ∧
          failure.IsTransactionFailed) ↔
      ∃ receipt sender,
        found = some receipt ∧
          receipt.Identified getAddress expected transaction sender ∧
          receipt.status = some 0 := by
  constructor
  · rintro ⟨failure, refused, isFailed⟩
    cases found with
    | none =>
        cases refused
        cases isFailed
    | some receipt =>
        have failed : receipt.status = some 0 := by
          by_contra notFailed
          exact judgeReceipt_refuses notFailed failure refused isFailed
        cases checked :
            checkReceipt getAddress expected transaction receipt with
        | error other =>
            have same : other = failure := by
              simpa [judgeReceipt, checked] using refused
            exact absurd (same ▸ isFailed)
              (checkReceipt_refuses other checked)
        | ok sender =>
            exact
              ⟨receipt, sender, rfl, checkReceipt_eq_ok.mp checked,
                failed⟩
  · rintro ⟨receipt, sender, rfl, identified, failed⟩
    simp [judgeReceipt, checkReceipt_eq_ok.mpr identified, failed,
      SpendEvidenceFailure.IsTransactionFailed, evidenceFailure]

end Evidence

/-! ## The whole verification -/

/-- The chain answers with this transaction and this receipt. -/
structure Choice.Shows
    (choice : Choice)
    (expected : ExpectedTransfer)
    (transaction : TransactionResponse)
    (receipt : TransactionReceipt) :
    Prop where
  network :
    ∃ network : Nat,
      choice.chain .network = .ok network ∧
        transaction.Identified expected network
  transaction :
    choice.chain (.transaction expected.txHash) = .ok (some transaction)
  receipt : choice.chain (.receipt expected.txHash) = .ok (some receipt)

/-- The chain proves the transfer that a well-formed request asks for. -/
def Choice.ProvesTransfer
    (choice : Choice)
    (platform : Platform)
    (input : SpendEvidenceRequest) :
    Prop :=
  ∃ expected transaction receipt sender,
    input.WellFormed platform.getAddress expected ∧
      choice.Shows expected transaction receipt ∧
      expected.Proved platform.getAddress transaction receipt sender

/-- The chain shows that the transaction of the request was mined and failed. -/
def Choice.ShowsFailure
    (choice : Choice)
    (platform : Platform)
    (input : SpendEvidenceRequest) :
    Prop :=
  ∃ expected transaction receipt sender,
    input.WellFormed platform.getAddress expected ∧
      choice.Shows expected transaction receipt ∧
      receipt.Identified platform.getAddress expected transaction sender ∧
      receipt.status = some 0

section Verification

variable {platform : Platform} {choice : Choice} {thread : Nat}
  {database : Database} {input : SpendEvidenceRequest}

/-- A result says exactly what the chain shows. -/
structure SpendEvidenceResult.IsExact
    (platform : Platform)
    (choice : Choice)
    (input : SpendEvidenceRequest)
    (result : SpendEvidenceResult) :
    Prop where
  valid :
    (∃ proof, result = .ok proof) ↔ choice.ProvesTransfer platform input
  failed :
    (∃ failure,
        result = .error failure ∧
          failure.code = .transactionFailed) ↔
      choice.ShowsFailure platform input

/-- Another refusal is exact when the chain shows no transaction. -/
theorem isExact_of_unshown
    {failure : SpendEvidenceFailure}
    (isOther : failure.IsOther)
    (unshown :
      ∀ expected transaction receipt,
        input.WellFormed platform.getAddress expected →
        ¬ choice.Shows expected transaction receipt) :
    SpendEvidenceResult.IsExact platform choice input
      (.error failure) where
  valid := by
    constructor
    · rintro ⟨proof, impossible⟩
      cases impossible
    · rintro ⟨expected, transaction, receipt, sender, wellFormed,
        shows, -⟩
      exact absurd shows (unshown _ _ _ wellFormed)
  failed := by
    constructor
    · rintro ⟨other, same, isFailed⟩
      cases same
      exact absurd isFailed isOther
    · rintro ⟨expected, transaction, receipt, sender, wellFormed,
        shows, -⟩
      exact absurd shows (unshown _ _ _ wellFormed)

/-- A request asks for one transfer. -/
theorem SpendEvidenceRequest.WellFormed.unique
    {expected other : ExpectedTransfer}
    (wellFormed : input.WellFormed platform.getAddress expected)
    (alsoWellFormed : input.WellFormed platform.getAddress other) :
    expected = other := by
  have accepted := expectedTransfer_eq_ok.mpr wellFormed
  rw [expectedTransfer_eq_ok.mpr alsoWellFormed] at accepted
  exact (Except.ok.inj accepted).symm

/-- Once the transaction has passed, the receipt decides. -/
theorem isExact_judgeReceipt
    {expected : ExpectedTransfer}
    {transaction : TransactionResponse}
    {found : Option TransactionReceipt}
    {network : Nat}
    (wellFormed : input.WellFormed platform.getAddress expected)
    (isNetwork : choice.chain .network = .ok network)
    (isTransaction :
      choice.chain (.transaction expected.txHash) =
        .ok (some transaction))
    (identified : transaction.Identified expected network)
    (isReceipt : choice.chain (.receipt expected.txHash) = .ok found) :
    SpendEvidenceResult.IsExact platform choice input
      (judgeReceipt platform.getAddress expected transaction found) := by
  have shown :
      ∀ receipt,
        found = some receipt →
        choice.Shows expected transaction receipt := by
    rintro receipt rfl
    exact ⟨⟨network, isNetwork, identified⟩, isTransaction, isReceipt⟩
  have only :
      ∀ other transaction' receipt,
        input.WellFormed platform.getAddress other →
        choice.Shows other transaction' receipt →
        other = expected ∧ transaction' = transaction ∧
          found = some receipt := by
    intro other transaction' receipt alsoWellFormed shows
    have same := wellFormed.unique alsoWellFormed
    subst same
    have sameTransaction := shows.transaction
    rw [isTransaction] at sameTransaction
    have sameReceipt := shows.receipt
    rw [isReceipt] at sameReceipt
    cases sameTransaction
    cases sameReceipt
    exact ⟨rfl, rfl, rfl⟩
  constructor
  · rw [judgeReceipt_eq_ok]
    constructor
    · rintro ⟨receipt, sender, isFound, proved⟩
      exact
        ⟨expected, transaction, receipt, sender, wellFormed,
          shown receipt isFound, proved⟩
    · rintro ⟨other, transaction', receipt, sender, alsoWellFormed,
        shows, proved⟩
      obtain ⟨rfl, rfl, isFound⟩ := only _ _ _ alsoWellFormed shows
      exact ⟨receipt, sender, isFound, proved⟩
  · refine Iff.trans judgeReceipt_failed ?_
    constructor
    · rintro ⟨receipt, sender, isFound, proved⟩
      exact
        ⟨expected, transaction, receipt, sender, wellFormed,
          shown receipt isFound, proved⟩
    · rintro ⟨other, transaction', receipt, sender, alsoWellFormed,
        shows, proved⟩
      obtain ⟨rfl, rfl, isFound⟩ := only _ _ _ alsoWellFormed shows
      exact ⟨receipt, sender, isFound, proved⟩

/-- A guarded read of the chain goes on with the answer of the chain. -/
theorem solo_attemptChain_bind {α : Type}
    (request : ChainRequest)
    (rest : Except Failure request.Reply → Call α) :
    ((chain request).attempt >>= rest).solo (alone thread choice)
        database =
      (rest
          ((choice.chain request).mapError
            ProviderError.failure)).solo (alone thread choice)
        database := by
  rw [Program.solo_bind, Program.solo_attempt, solo_chain]

/-- A chain read that fails is reported as a provider error. -/
theorem providerFailure_isOther
    {lookup rpcMethod : String}
    {error : Failure} :
    (readSpendEvidence.providerFailure lookup rpcMethod error).IsOther := by
  simp [SpendEvidenceFailure.IsOther, readSpendEvidence.providerFailure]

/-- Reading the evidence always returns, with an exact result. -/
theorem readSpendEvidence_isExact :
    ∃ result,
      (readSpendEvidence platform input).solo (alone thread choice)
          database =
        (.ok result, database) ∧
      SpendEvidenceResult.IsExact platform choice input result := by
  unfold readSpendEvidence
  cases isExpected : expectedTransfer platform.getAddress input with
  | error failure =>
      refine ⟨_, rfl, isExact_of_unshown ?_ ?_⟩
      · exact expectedTransfer_refuses failure isExpected
      · intro expected _ _ wellFormed
        rw [expectedTransfer_eq_ok.mpr wellFormed] at isExpected
        cases isExpected
  | ok expected =>
      have wellFormed := expectedTransfer_eq_ok.mp isExpected
      simp only
      rw [solo_attemptChain_bind]
      cases isNetwork : choice.chain .network with
      | error failed =>
          refine ⟨_, rfl, isExact_of_unshown providerFailure_isOther ?_⟩
          intro other transaction receipt _ shows
          obtain ⟨network, found, -⟩ := shows.network
          rw [isNetwork] at found
          cases found
      | ok network =>
          simp only [Except.mapError]
          rw [solo_attemptChain_bind]
          cases isTransaction :
              choice.chain (.transaction expected.txHash) with
          | error failed =>
              refine
                ⟨_, rfl, isExact_of_unshown providerFailure_isOther ?_⟩
              intro other transaction receipt alsoWellFormed shows
              have found := shows.transaction
              rw [← wellFormed.unique alsoWellFormed,
                isTransaction] at found
              cases found
          | ok found =>
              simp only [Except.mapError]
              cases checked : checkTransaction expected network found with
              | error failure =>
                  refine ⟨_, rfl, isExact_of_unshown ?_ ?_⟩
                  · exact checkTransaction_refuses failure checked
                  · intro other transaction receipt alsoWellFormed shows
                    have same := wellFormed.unique alsoWellFormed
                    subst same
                    have isFound := shows.transaction
                    rw [isTransaction] at isFound
                    cases isFound
                    obtain ⟨shownNetwork, isShown, identified⟩ :=
                      shows.network
                    rw [isNetwork] at isShown
                    cases isShown
                    rw [checkTransaction_eq_ok.mpr ⟨rfl, identified⟩]
                      at checked
                    cases checked
              | ok transaction =>
                  obtain ⟨rfl, identified⟩ :=
                    checkTransaction_eq_ok.mp checked
                  simp only
                  rw [solo_attemptChain_bind]
                  cases isReceipt :
                      choice.chain (.receipt expected.txHash) with
                  | error failed =>
                      refine
                        ⟨_, rfl,
                          isExact_of_unshown providerFailure_isOther ?_⟩
                      intro other _ receipt alsoWellFormed shows
                      have found := shows.receipt
                      rw [← wellFormed.unique alsoWellFormed,
                        isReceipt] at found
                      cases found
                  | ok receipt =>
                      exact
                        ⟨_, rfl,
                          isExact_judgeReceipt wellFormed isNetwork
                            isTransaction identified isReceipt⟩

/--
Verification always returns.  It accepts exactly the transfers that the chain
proves, and it reports a failed transaction exactly for an identified receipt
with status 0.
-/
theorem spendEvidence_isExact
    (platform : Platform)
    (choice : Choice)
    (thread : Nat)
    (database : Database)
    (input : SpendEvidenceRequest) :
    ∃ result : SpendEvidenceResult,
      (verifySpendEvidence platform input).solo (alone thread choice)
          database =
        (.ok result, database) ∧
      ((∃ proof, result = .ok proof) ↔
        choice.ProvesTransfer platform input) ∧
      ((∃ failure,
          result = .error failure ∧
            failure.code = .transactionFailed) ↔
        choice.ShowsFailure platform input) := by
  obtain ⟨result, returns, isExact⟩ :=
    @readSpendEvidence_isExact platform choice thread database input
  refine ⟨result, ?_, isExact.valid, isExact.failed⟩
  unfold verifySpendEvidence
  rw [Program.solo_bind, returns]
  rfl

end Verification

end Sparkz
