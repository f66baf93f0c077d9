import Sparkz.CentNumbers
import Sparkz.PaymentRuns
import Sparkz.ProjectionRuns

namespace Sparkz

open Interleaving

/-!
# What the ledger rests on

A movement enters the ledger of a run in two ways only: some call has read the
chain and found it valid, or some call was handed its row while that was still
`submitting`, which is projected as it is saved.  The invariant is about the
rows, the reads of them and the ledger at once, since a call trusts a row that
it has read as confirmed.
-/

/-! ## Reasons for a movement -/

/-- Why a run takes a movement for made. -/
inductive Justified
    (history : List (Entry sparkz))
    (movement : TokenMovement) :
    Prop where
  /-- The chain was read, and shows it. -/
  | verified
      {thread : Nat}
      {input : SpendEvidenceRequest}
      {evidence : SpendEvidenceProof}
      (noted :
        ⟨thread, .note (.evidence input (.ok evidence)), ()⟩ ∈ history)
      (proves : input.Proves movement) :
      Justified history movement
  /-- Its row was projected before its bytes were known to be sent. -/
  | submitting
      {thread : Nat}
      {view : OperationView}
      (noted :
        ⟨thread, .note (.projecting movement.operationType view), ()⟩ ∈
          history)
      (isSubmitting : view.status = .submitting)
      (isHash : view.txHash = some movement.txHash) :
      Justified history movement

namespace Justified

variable {history later : List (Entry sparkz)}
  {movement other : TokenMovement}

/-- A reason for a movement is one for every statement of it. -/
theorem agrees
    (justified : Justified history movement)
    (agrees : movement.Agrees other) :
    Justified history other := by
  cases justified with
  | verified noted proves =>
      exact .verified noted (proves.agrees agrees)
  | submitting noted isSubmitting isHash =>
      exact
        .submitting (agrees.operationType ▸ noted) isSubmitting
          (agrees.txHash ▸ isHash)

/-- What justifies a movement is not forgotten. -/
theorem grows
    (justified : Justified history movement)
    (grown : history ⊆ later) :
    Justified later movement := by
  cases justified with
  | verified noted proves =>
      exact .verified (grown noted) proves
  | submitting noted isSubmitting isHash =>
      exact .submitting (grown noted) isSubmitting isHash

/-- What a call has verified justifies its movement. -/
theorem ofProven
    {thread : Nat}
    (proven : Proven movement (ownPast thread history)) :
    Justified history movement := by
  obtain ⟨input, evidence, noted, proves⟩ := proven
  exact .verified (mem_ownPast.mp noted) proves

end Justified

/-! ## Rows and their statements -/

namespace TokenOperation

variable {row current later : TokenOperation} {write : OperationWrite}

/-- The movement of the row is taken for made. -/
def claimsMovement (row : TokenOperation) : Prop :=
  row.status = .confirmed ∨
    row.status = .projected ∧ row.operationType = .spend

/-- There is a reason for what the row claims. -/
def Backed (history : List (Entry sparkz)) (row : TokenOperation) : Prop :=
  row.claimsMovement →
  ∀ movement,
    row.movement? = some movement →
    Justified history movement

/-- A saved movement stays as it was saved. -/
theorem Evolves.movement
    {movement : TokenMovement}
    (evolves : row.Evolves later)
    (isMovement : row.movement? = some movement) :
    later.movement? = some movement := by
  obtain ⟨hash, isHash, rfl⟩ := Option.map_eq_some_iff.mp isMovement
  unfold movement?
  rw [evolves.txHash hash isHash, evolves.operationType,
    evolves.walletAddress, evolves.amount]
  rfl

/-- Only a confirmation and a projection make a row claim its movement. -/
theorem claimsMovement_set
    (claims : (row.set write).claimsMovement) :
    (∃ error, write = .markConfirmed error) ∨
      (∃ error, write = .markProjectionError error) ∨
      write = .markProjected ∧ row.operationType = .spend := by
  cases write with
  | markConfirmed error =>
      exact Or.inl ⟨error, rfl⟩
  | markProjectionError error =>
      exact Or.inr (Or.inl ⟨error, rfl⟩)
  | markProjected =>
      rcases claims with impossible | ⟨_, isSpend⟩
      · cases impossible
      · exact Or.inr (Or.inr ⟨rfl, isSpend⟩)
  | _ =>
      rcases claims with impossible | ⟨impossible, _⟩ <;>
        cases impossible

end TokenOperation

/--
A call confirms a row, or projects it, with a reason of its own; an award is
projected without one when it has no tokens.
-/
theorem Change.WritesRow.claims_cases
    {database : Database}
    {change : Change}
    {operationKey : String}
    {write : OperationWrite}
    {past : Past}
    (writesRow : change.WritesRow database operationKey write)
    (executed : change.IsExecuted past)
    (claims :
      (∃ error, write = .markConfirmed error) ∨
        (∃ error, write = .markProjectionError error) ∨
        write = .markProjected) :
    (∃ operationType view hash,
      view.operationKey = operationKey ∧
        Projects operationType view hash past) ∨
      write = .markProjected ∧
        ∃ row,
          SawRow operationKey row past ∧
            row.operationType = .award := by
  obtain ⟨written, evidenced⟩ := executed
  cases writesRow with
  | update =>
      rcases claims with ⟨error, rfl⟩ | ⟨error, rfl⟩ | rfl
      · exact Or.inl evidenced
      · exact Or.inl evidenced
      · rcases written with writes | impossible
        · rcases writes.operation_cases rfl with
            ⟨_, _, writes⟩ | ⟨_, _, same, isCallback⟩ |
              ⟨_, _, impossible, _⟩
          · cases writes
          · cases same
            cases isCallback
          · cases impossible
        · cases impossible
  | settle =>
      rcases written with writes | impossible
      · rcases writes.operation_cases rfl with
          ⟨_, _, writes⟩ | ⟨_, _, impossible, _⟩ |
            ⟨_, _, same, isSettlement⟩
        · cases writes
        · cases impossible
        · cases same
          rcases claims with ⟨error, rfl⟩ | ⟨error, rfl⟩ | rfl
          · cases isSettlement
          · cases isSettlement
          · exact evidenced.imp_right fun hashless => ⟨rfl, hashless⟩
      · cases impossible
  | prepare isTarget =>
      rcases claims with ⟨error, impossible⟩ | ⟨error, impossible⟩ |
        impossible <;> cases impossible
  | @updateLease _ _ leaseWrite lease found isTarget =>
      cases leaseWrite <;>
        rcases claims with ⟨error, impossible⟩ | ⟨error, impossible⟩ |
          impossible <;> cases impossible

/-- The row of a key was just inserted, or an earlier version was there. -/
theorem OperationsEffect.find_cases
    {database : Database}
    {change : Change}
    {operations : List TokenOperation}
    (effect : OperationsEffect database change operations)
    {operationKey : String}
    {later : TokenOperation}
    (found :
      operations.find? (·.operationKey == operationKey) = some later) :
    change = .insertOperation later ∨
      ∃ row,
        database.operation operationKey = some row ∧
          change.LeavesRow database row later := by
  cases effect with
  | @inserted row isInsert =>
      rw [List.find?_append, Option.or_eq_some_iff] at found
      rcases found with older | ⟨_, newest⟩
      · exact Or.inr ⟨later, older, Or.inl rfl⟩
      · have isRow := List.mem_of_find?_eq_some newest
        rw [List.mem_singleton] at isRow
        exact Or.inl (isRow ▸ isInsert)
  | rewritten rewrite each =>
      have sameKey :
          ((·.operationKey == operationKey) ∘ rewrite) =
            (·.operationKey == operationKey) := by
        funext other
        have evolves : other.Evolves (rewrite other) :=
          Change.LeavesRow.evolves (each other)
        simp only [Function.comp, evolves.operationKey]
      rw [List.find?_map, sameKey] at found
      obtain ⟨row, isRow, rfl⟩ := Option.map_eq_some_iff.mp found
      exact Or.inr ⟨row, isRow, each row⟩

/-! ## What a call has seen of a row -/

section Seen

variable {lost : Bool}
  {platform : Platform}
  {calls : Nat → PaymentCall}
  {config : Config sparkz Failure Database}
  {thread : Nat}
  {operationKey : String}

namespace PaymentCall

/-- A row that was inserted is there. -/
theorem insertedRow_stays
    (reached :
      Reachable (semantics lost) (start platform .empty calls) config)
    {row stored : TokenOperation}
    (wasInserted :
      ⟨.write (.insertOperation row), .ok stored⟩ ∈
        ownPast thread config.history) :
    ∃ current,
      config.shared.operation row.operationKey = some current ∧
        row.Evolves current := by
  refine
    reached.invariant
      (fun shared history =>
        ⟨.write (.insertOperation row), .ok stored⟩ ∈
          ownPast thread history →
        ∃ current,
          Database.operation shared row.operationKey = some current ∧
            row.Evolves current)
      (fun member => absurd member List.not_mem_nil)
      (fun _ => id) ?_ wasInserted
  intro before owner op rest choice answer next _ _ answered _ stays
    member
  have effect := respond_effect answered
  by_cases own : owner = thread
  · subst own
    rw [ownPast_own] at member
    rcases List.mem_cons.mp member with newest | older
    · cases newest
      cases effect with
      | quiet locks notTables =>
          cases notTables
      | committed locks applied =>
          obtain ⟨inserted, isInserted, isPair⟩ :=
            Except.map_eq_ok applied
          cases isPair
          obtain ⟨isNext, newKey, _⟩ :=
            Database.insertOperation_eq_ok isInserted
          refine ⟨row, ?_, .refl row⟩
          rw [isNext]
          exact Database.operation_appended newKey
    · exact effect.operation_stays (stays older)
  · rw [ownPast_foreign own] at member
    exact effect.operation_stays (stays member)

/-- A lease that was read is there. -/
theorem readLease_stays
    (reached :
      Reachable (semantics lost) (start platform .empty calls) config)
    {leaseKey : String}
    {lease : TreasuryLease}
    (wasRead :
      ⟨.read (.lease leaseKey), .ok (some lease)⟩ ∈
        ownPast thread config.history) :
    config.shared.KeepsLease lease := by
  refine
    reached.invariant
      (fun shared history =>
        ⟨.read (.lease leaseKey), .ok (some lease)⟩ ∈
          ownPast thread history →
        Database.KeepsLease shared lease)
      (fun member => absurd member List.not_mem_nil)
      (fun _ => id) ?_ wasRead
  intro before owner op rest choice answer next _ _ answered _ stays
    member
  have effect := respond_effect answered
  by_cases own : owner = thread
  · subst own
    rw [ownPast_own] at member
    rcases List.mem_cons.mp member with newest | older
    · cases newest
      obtain ⟨isLease, rfl⟩ := respond_read answered
      exact
        ⟨lease, List.mem_of_find?_eq_some isLease, .refl lease⟩
    · exact effect.keepsLease (stays older)
  · rw [ownPast_foreign own] at member
    exact effect.keepsLease (stays member)

end PaymentCall

/-- A row that a call has seen of a key is the row of the key. -/
theorem SawRow.current
    (reached :
      Reachable (semantics lost) (PaymentCall.start platform .empty calls)
        config)
    {row : TokenOperation}
    (saw : SawRow operationKey row (ownPast thread config.history)) :
    ∃ current,
      config.shared.operation operationKey = some current ∧
        row.Evolves current := by
  cases saw with
  | @wasRead readKey member isKey =>
      obtain ⟨current, found, evolves⟩ := readRow_stays reached member
      have sameKey :=
        evolves.operationKey.symm.trans
          (Database.operation_eq_some found).2
      have isReadKey : readKey = operationKey :=
        isKey.elim id sameKey.symm.trans
      exact ⟨current, isReadKey ▸ found, evolves⟩
  | inserted member isKey =>
      exact isKey ▸ PaymentCall.insertedRow_stays reached member

/-- A hash that a call has seen saved for a key is on the row of the key. -/
theorem SawHash.onRow
    (reached :
      Reachable (semantics lost) (PaymentCall.start platform .empty calls)
        config)
    {hash : TransactionHash}
    (saw : SawHash operationKey hash (ownPast thread config.history)) :
    ∃ current,
      config.shared.operation operationKey = some current ∧
        current.txHash = some hash := by
  have ofLease :
      ∀ {lease : TreasuryLease},
        config.shared.KeepsLease lease →
        lease.Targets operationKey →
        ∃ current,
          config.shared.operation operationKey = some current ∧
            current.txHash = some lease.txHash := by
    rintro lease ⟨later, isLater, same⟩ ⟨isOperation, isTarget⟩
    obtain ⟨current, found, isHash⟩ :=
      PaymentCall.leasesSaved reached later isLater
        (same.targetType.trans isOperation)
    exact
      ⟨current, same.targetKey.trans isTarget ▸ found,
        isHash.trans (congrArg some same.txHash)⟩
  cases saw with
  | ofRow saw isHash =>
      obtain ⟨current, found, evolves⟩ := saw.current reached
      exact ⟨current, found, evolves.txHash hash isHash⟩
  | ofLease wasRead targets isHash =>
      exact
        isHash ▸
          ofLease (PaymentCall.readLease_stays reached wasRead) targets
  | saved wasSaved targets isHash =>
      obtain ⟨keeps, rfl⟩ :=
        PaymentCall.savedLease_stays reached wasSaved
      exact isHash ▸ ofLease keeps targets

end Seen

/-! ## The ledger after a change -/

section Ledger

variable {database next : Database}
  {change : Change}
  {result : change.Result}

/-- A spend of the ledger was just recorded, or was there. -/
theorem Change.spend_cases
    (applied : change.apply database = .ok (result, next))
    {spend : Spend}
    (member : spend ∈ next.ledger.spends) :
    spend ∈ database.ledger.spends ∨
      ∃ user balance, change = .recordSpend user spend balance := by
  cases isLedgerChange : change.isLedgerChange with
  | false =>
      have same :=
        congrArg Prod.fst (Change.apply_others isLedgerChange applied)
      exact Or.inl (congrArg Ledger.spends same ▸ member)
  | true =>
      cases change with
      | recordSpend user recorded balance =>
          obtain ⟨_, added⟩ := Change.recordSpend_eq_ok applied
          rw [added] at member
          rcases List.mem_append.mp member with older | newest
          · exact Or.inl older
          · rw [List.mem_singleton] at newest
            exact Or.inr ⟨user, balance, newest ▸ rfl⟩
      | recordAward user award balance =>
          obtain ⟨ledger, committed, same⟩ := Except.map_eq_ok applied
          cases same
          unfold Ledger.commitAward at committed
          obtain ⟨withUser, isUser, rest⟩ := Except.bind_eq_ok committed
          obtain ⟨withAward, isAward, balances⟩ := Except.bind_eq_ok rest
          obtain ⟨_, sameSpends⟩ := Ledger.movements_of_insertUser isUser
          cases Ledger.insertAward_eq_ok isAward
          obtain ⟨_, _, writtenSpends, _⟩ :=
            Ledger.writeBalance_eq_ok balances fun _ => rfl
          exact Or.inl (sameSpends ▸ writtenSpends ▸ member)
      | _ =>
          cases isLedgerChange

/-- An award of the ledger was just recorded, or was there. -/
theorem Change.award_cases
    (applied : change.apply database = .ok (result, next))
    {award : Award}
    (member : award ∈ next.ledger.awards) :
    award ∈ database.ledger.awards ∨
      ∃ user balance, change = .recordAward user award balance := by
  cases Change.awardsEffect applied with
  | kept same =>
      exact Or.inl (same ▸ member)
  | @added user recorded balance isRecord _ added =>
      rw [added] at member
      rcases List.mem_append.mp member with older | newest
      · exact Or.inl older
      · rw [List.mem_singleton] at newest
        exact Or.inr ⟨user, balance, newest ▸ isRecord⟩

end Ledger

/-! ## Runs -/

/-- What a call has read of a row had a reason. -/
def Entry.ReadBacked (history : List (Entry sparkz)) :
    Entry sparkz → Prop
  | ⟨_, .read (.operation _), .ok (some row)⟩ => row.Backed history
  | _ => True

/-- An award of the ledger is one of a row that claims its movement. -/
def Award.Backed
    (database : Database)
    (history : List (Entry sparkz))
    (award : Award) :
    Prop :=
  ∃ operationKey row movement,
    database.operation operationKey = some row ∧
      row.operationType = .award ∧
      row.movement? = some movement ∧
      movement.txHash = award.txHash ∧
      Justified history movement

/-- A bounded amount is recorded as it is. -/
theorem TokenAmount.RecordedAs.eq_of_bounded
    {amount recorded : TokenAmount}
    (recordedAs : amount.RecordedAs recorded)
    (bounded : amount.units ≤ 2 ^ 45 * 100) :
    recorded = amount := by
  cases recordedAs with
  | ofUnits isShown =>
      have survives :=
        canonicalTokenAmount_ofUnits_iff.mpr (survive_of_bounded bounded)
      exact Option.some.inj (isShown.symm.trans survives)
  | ofColumn isShown =>
      have shown :=
        canonicalTokenAmount_number_iff.mpr
          ((Nat.eq_zero_or_pos amount.units).imp_right fun positive =>
            areShown_of_bounded positive bounded)
      exact Option.some.inj (isShown.symm.trans shown)

/--
A spend of the ledger has a reason, for the amount that it records.  Up to the
bound this is its own amount.
-/
def Spend.Backed (spend : Spend) (history : List (Entry sparkz)) : Prop :=
  ∃ amount : TokenAmount,
    amount.RecordedAs spend.amount ∧
      (amount.units ≤ 2 ^ 45 * 100 → spend.amount = amount) ∧
      Justified history (spend.movement amount)

theorem Spend.Backed.ofRecorded
    {spend : Spend}
    {history : List (Entry sparkz)}
    {amount : TokenAmount}
    (recordedAs : amount.RecordedAs spend.amount)
    (justified : Justified history (spend.movement amount)) :
    spend.Backed history :=
  ⟨amount, recordedAs, recordedAs.eq_of_bounded, justified⟩

/-- Every row, every read of one and the ledger have their reasons. -/
structure EvidenceAccounted
    (database : Database)
    (history : List (Entry sparkz)) :
    Prop where
  rows :
    ∀ operationKey row,
      database.operation operationKey = some row →
      row.Backed history
  reads : ∀ entry ∈ history, Entry.ReadBacked history entry
  spends : ∀ spend ∈ database.ledger.spends, spend.Backed history
  awards : ∀ award ∈ database.ledger.awards, award.Backed database history

section Grows

variable {history later : List (Entry sparkz)}

theorem TokenOperation.Backed.grows
    {row : TokenOperation}
    (backed : row.Backed history)
    (grown : history ⊆ later) :
    row.Backed later :=
  fun claims movement isMovement =>
    (backed claims movement isMovement).grows grown

theorem Entry.ReadBacked.grows
    {entry : Entry sparkz}
    (backed : Entry.ReadBacked history entry)
    (grown : history ⊆ later) :
    Entry.ReadBacked later entry := by
  unfold Entry.ReadBacked at backed ⊢
  split at backed
  · exact backed.grows grown
  · trivial

/-- The tables are as they were, and more has happened. -/
theorem EvidenceAccounted.grows
    {database : Database}
    {entry : Entry sparkz}
    (accounted : EvidenceAccounted database history)
    (newest : Entry.ReadBacked history entry) :
    EvidenceAccounted database (entry :: history) := by
  have grown : history ⊆ entry :: history := List.subset_cons_self _ _
  refine
    { rows := fun operationKey row found =>
        (accounted.rows operationKey row found).grows grown
      reads := ?_
      spends := fun spend member =>
        (accounted.spends spend member).imp fun _ backed =>
          ⟨backed.1, backed.2.1, backed.2.2.grows grown⟩
      awards := ?_ }
  · intro other member
    rcases List.mem_cons.mp member with rfl | older
    · exact newest.grows grown
    · exact (accounted.reads other older).grows grown
  · intro award member
    obtain ⟨operationKey, row, movement, found, isAward, isMovement,
      sameHash, justified⟩ := accounted.awards award member
    exact
      ⟨operationKey, row, movement, found, isAward, isMovement, sameHash,
        justified.grows grown⟩

end Grows

section Run

variable {lost : Bool}
  {platform : Platform}
  {calls : Nat → PaymentCall}
  {config : Config sparkz Failure Database}

/-- What a call may project is saved on its row, and has a reason. -/
theorem Projects.justified
    (plainly : platform.EncodesPlainly)
    (reached :
      Reachable (semantics lost) (PaymentCall.start platform .empty calls)
        config)
    (accounted : EvidenceAccounted config.shared config.history)
    {thread : Nat}
    {operationType : OperationType}
    {view : OperationView}
    {hash : TransactionHash}
    (projects :
      Projects operationType view hash
        (ownPast thread config.history)) :
    ∃ current movement,
      config.shared.operation view.operationKey = some current ∧
        current.operationType = operationType ∧
        current.movement? = some movement ∧
        (view.movement operationType hash).Agrees movement ∧
        Justified config.history movement := by
  obtain ⟨row, saw, isType, sameWallet, sameAmount⟩ :=
    projects.viewed.row
  obtain ⟨current, found, evolves⟩ := saw.current reached
  obtain ⟨hashed, isHashed, isHash⟩ :=
    (projects.viewed.hash hash projects.isHash).onRow reached
  cases found.symm.trans isHashed
  have sameType := evolves.operationType.trans isType
  refine
    ⟨current, _, found, sameType,
      congrArg (Option.map _) isHash, ?_⟩
  have agrees :
      (view.movement operationType hash).Agrees
        { operationType := current.operationType
          walletAddress := current.walletAddress
          amount := current.amount
          txHash := hash } :=
    { operationType := sameType.symm
      walletAddress :=
        (evolves.walletAddress ▸ sameWallet).symm
      amount := fun isSpend =>
        (evolves.amount.trans (sameAmount isSpend)).symm
      txHash := rfl }
  refine ⟨agrees, ?_⟩
  cases projects.trusted with
  | proven isProven =>
      exact (Justified.ofProven isProven).agrees agrees
  | @confirmed seen saved sawSeen isConfirmed isSaved saysSo =>
      have justified : Justified config.history saved := by
        cases sawSeen with
        | wasRead member isKey =>
            exact
              accounted.reads _ (mem_ownPast.mp member)
                (Or.inl isConfirmed) saved isSaved
        | @inserted stored member isKey =>
            -- a row is inserted as `submitting`
            obtain ⟨earlier, executed, _⟩ :=
              (reached.extendsBy
                (fun thread => (calls thread).run_follows plainly [])
                thread).permitted_before member
            rcases Change.IsExecuted.written executed with
              writes | impossible
            · obtain ⟨data, _, amount, rfl, _, _⟩ := writes.insert_cases
              cases isConfirmed
            · cases impossible
      exact justified.agrees (saysSo.trans agrees)
  | submitting noted isSubmitting =>
      have justified :
          Justified config.history (view.movement operationType hash) :=
        .submitting (mem_ownPast.mp noted) isSubmitting projects.isHash
      exact justified.agrees agrees

/-- A statement that makes a row claim its movement has a reason. -/
theorem backed_of_set
    (plainly : platform.EncodesPlainly)
    (reached :
      Reachable (semantics lost) (PaymentCall.start platform .empty calls)
        config)
    (accounted : EvidenceAccounted config.shared config.history)
    {thread : Nat}
    {change : Change}
    {operationKey : String}
    {row : TokenOperation}
    {write : OperationWrite}
    (executed : change.IsExecuted (ownPast thread config.history))
    (found : config.shared.operation operationKey = some row)
    (writesRow : change.WritesRow config.shared operationKey write)
    (admitted : row.admits write = true) :
    (row.set write).Backed config.history := by
  intro claims movement isMovement
  have evolves := TokenOperation.evolves_set admitted
  -- only a confirmation or the projection of a spend claims a movement
  have isClaim := TokenOperation.claimsMovement_set claims
  rcases writesRow.claims_cases executed
      (isClaim.imp_right (Or.imp_right And.left)) with
    ⟨operationType, view, hash, rfl, projects⟩ |
      ⟨isProjected, seen, saw, isAward⟩
  · obtain ⟨current, saved, isCurrent, _, isSaved, _, justified⟩ :=
      projects.justified plainly reached accounted
    cases found.symm.trans isCurrent
    cases (evolves.movement isSaved).symm.trans isMovement
    exact justified
  · obtain ⟨current, isCurrent, evolved⟩ := saw.current reached
    cases found.symm.trans isCurrent
    subst isProjected
    rcases isClaim with ⟨error, impossible⟩ | ⟨error, impossible⟩ |
      ⟨_, isSpend⟩
    · cases impossible
    · cases impossible
    · cases isAward.symm.trans (evolved.operationType.symm.trans isSpend)

/-- A change of a call leaves every row, spend and award with its reason. -/
theorem EvidenceAccounted.change
    (plainly : platform.EncodesPlainly)
    (reached :
      Reachable (semantics lost) (PaymentCall.start platform .empty calls)
        config)
    (accounted : EvidenceAccounted config.shared config.history)
    {thread : Nat}
    {change : Change}
    {result : change.Result}
    {next : Database}
    (executed : change.IsExecuted (ownPast thread config.history))
    (applied : change.apply config.shared = .ok (result, next)) :
    EvidenceAccounted next config.history := by
  have effect := Change.operationsEffect applied
  refine
    { rows := ?_
      reads := accounted.reads
      spends := ?_
      awards := ?_ }
  · intro operationKey later isLater
    rcases effect.find_cases isLater with
      isInsert | ⟨row, found, rfl | ⟨write, writesRow, admitted, rfl⟩⟩
    · subst isInsert
      rcases executed.written with writes | impossible
      · obtain ⟨data, _, amount, rfl, _, _⟩ := writes.insert_cases
        rintro (impossible | ⟨impossible, _⟩) <;> cases impossible
      · cases impossible
    · exact accounted.rows operationKey later found
    · rw [(Database.operation_eq_some found).2] at writesRow
      exact
        backed_of_set plainly reached accounted executed found writesRow
          admitted
  · intro spend member
    rcases Change.spend_cases applied member with
      older | ⟨user, balance, rfl⟩
    · exact accounted.spends spend older
    · obtain ⟨amount, recorded, isProven | ⟨view, projects, agrees⟩⟩ :=
        executed.evidenced
      · exact .ofRecorded recorded (.ofProven isProven)
      · obtain ⟨_, _, _, _, _, sameMovement, justified⟩ :=
          projects.justified plainly reached accounted
        exact
          .ofRecorded recorded
            (justified.agrees (sameMovement.symm.trans agrees))
  · intro award member
    rcases Change.award_cases applied member with
      older | ⟨user, balance, rfl⟩
    · obtain ⟨operationKey, row, movement, found, isAward, isMovement,
        sameHash, justified⟩ := accounted.awards award older
      obtain ⟨later, isLater, leaves⟩ := effect.find_some found
      exact
        ⟨operationKey, later, movement, isLater,
          leaves.evolves.operationType.trans isAward,
          leaves.evolves.movement isMovement, sameHash, justified⟩
    · obtain ⟨view, projects⟩ := executed.evidenced
      obtain ⟨row, movement, found, isAward, isMovement, sameMovement,
        justified⟩ := projects.justified plainly reached accounted
      obtain ⟨later, isLater, leaves⟩ := effect.find_some found
      exact
        ⟨view.operationKey, later, movement, isLater,
          leaves.evolves.operationType.trans isAward,
          leaves.evolves.movement isMovement,
          sameMovement.txHash.symm, justified⟩

end Run

/-! ## A spend that nobody has verified -/

end Sparkz
