import Sparkz.NumberTexts
import Sparkz.ReservationSettlement
import Sparkz.SpendReservations

namespace Sparkz

open BinaryRounding

/-!
# The saved delivery of a reservation

The reading of a settlement is kept with its reservation as a text, and is read
back from it when the settlement is recovered.  Calls of the two writers follow
one another in any order, with any readings.
-/

/-- Where a saved delivery was found. -/
inductive SavedDeliverySource where
  | settlementContext
  | legacyDeliveredKwh
  | missing
  deriving DecidableEq

structure SavedSettlementDelivery where
  value : Option Double
  invalid : Bool
  source : SavedDeliverySource
  deriving DecidableEq

/-- The number of a saved text with at most twelve decimals. -/
def savedDelivery
    (saved : DecimalText)
    (source : SavedDeliverySource) :
    SavedSettlementDelivery :=
  let value := Double.ofText saved.text
  if saved.fraction.length ≤ 12 && value.isFinite &&
      !value.less (.finite 0) then
    ⟨some value, false, source⟩
  else
    ⟨none, true, source⟩

/-- `readSavedSettlementDelivery(reservation)`. -/
def SpendReservation.readSavedSettlementDelivery
    (reservation : SpendReservation) :
    SavedSettlementDelivery :=
  match reservation.settlementContext with
  | some context => savedDelivery context.deliveredKwh .settlementContext
  | none =>
      match reservation.deliveredKwh with
      | some legacy => savedDelivery legacy .legacyDeliveredKwh
      | none => ⟨none, false, .missing⟩

/-! ## Calls on one row -/

/-- A finite reading that is not negative. -/
abbrev Reading :=
  { number : JsNumber // number.IsShown }

/-- A call of one of the two writers, on the row of a reservation. -/
inductive SettlementCall where
  | persistSettlementContext : Reading → SettlementCall
  | complete :
      (deliveredKwh : Reading) →
      (settledAmount : JsNumber) →
      (txHash : Option String) →
      SettlementCall

namespace SettlementCall

/-- The reading that a call is given. -/
def reading : SettlementCall → Reading
  | .persistSettlementContext deliveredKwh => deliveredKwh
  | .complete deliveredKwh _ _ => deliveredKwh

/-- What a call makes of the locked row, or the error that it throws. -/
def apply (row : SpendReservation) :
    SettlementCall → Except Failure SpendReservation
  | .persistSettlementContext deliveredKwh => do
      let parts ← boundedReading deliveredKwh.val
      (row.persistSettlementContext parts).mapError StoreError.failure
  | .complete deliveredKwh settledAmount txHash => do
      let hash ← optionalHash txHash "reservation transaction hash"
      (row.complete deliveredKwh.val settledAmount hash).mapError
        StoreError.failure

/-- The row after a call; a call that throws leaves it as it is. -/
def after (row : SpendReservation) (call : SettlementCall) :
    SpendReservation :=
  match call.apply row with
  | .ok next => next
  | .error _ => row

/--
A completion passes every check but one on the length of its reading, and finds
no settlement context on an open reservation.
-/
def CompletesWithout
    (row : SpendReservation)
    (settledAmount : JsNumber)
    (txHash : Option String)
    (parts : DecimalText) :
    Prop :=
  row.status.isTerminal = false ∧
    row.settlementContext = none ∧
    row.contradicts parts = false ∧
    (canonicalTokenAmount settledAmount).isSome ∧
    (optionalHash txHash "reservation transaction hash").isOk

/-- The reading that a call would keep has at most twelve decimals. -/
def IsBounded (row : SpendReservation) (call : SettlementCall) : Prop :=
  ∀ deliveredKwh settledAmount txHash parts,
    call = .complete deliveredKwh settledAmount txHash →
    decimalParts deliveredKwh.val = some parts →
    CompletesWithout row settledAmount txHash parts →
    parts.fraction.length ≤ 12

end SettlementCall

/--
The rows that calls leave of a first one without a settlement context, with the
reading of the call that has stored one.
-/
inductive SettlementRun
    (meets : SpendReservation → SettlementCall → Prop)
    (first : SpendReservation) :
    SpendReservation → Option Reading → Prop where
  | first : SettlementRun meets first first none
  | call
      {row : SpendReservation}
      {stored : Option Reading}
      (run : SettlementRun meets first row stored)
      (call : SettlementCall)
      (met : meets row call) :
      SettlementRun meets first (call.after row)
        (if row.settlementContext = none ∧
            (call.after row).settlementContext ≠ none then
          some call.reading
        else stored)

/-! ## Texts of readings -/

section Texts

variable {first second : ShortestDecimal} {number : JsNumber}
  {row next : SpendReservation} {parts : DecimalText}

/-- Writing a fraction out does not change the value. -/
theorem DecimalText.value_withFraction (decimal : DecimalText) :
    decimal.withFraction.value = decimal.value := by
  obtain ⟨whole, _ | ⟨digit, digits⟩⟩ := decimal
  · simp [DecimalText.withFraction, DecimalText.value, digitsValue]
  · rfl

/-- What a bounded reading leaves is read back as the number. -/
theorem savedDelivery_withFraction
    {shortest : ShortestDecimal}
    (isShown : (JsNumber.decimal shortest).IsShown)
    (short : shortest.fraction.length ≤ 12)
    (source : SavedDeliverySource) :
    savedDelivery shortest.toDecimalText.withFraction source =
      ⟨some (JsNumber.decimal shortest).double, false, source⟩ := by
  have isText :
      Double.ofText shortest.toDecimalText.withFraction.text =
        (JsNumber.decimal shortest).double := by
    rw [ofText_decimal, DecimalText.value_withFraction]
    rfl
  have shortText :
      shortest.toDecimalText.withFraction.fraction.length ≤ 12 := by
    unfold DecimalText.withFraction
    split
    · exact Nat.le_of_ble_eq_true rfl
    · exact short
  obtain ⟨x, nonneg, represents, bounded, isNumber⟩ := isShown
  have isFinite : (JsNumber.decimal shortest).double = .finite x := by
    rw [isNumber]
    exact double_shown nonneg represents bounded
  unfold savedDelivery
  rw [isText, isFinite]
  simp [shortText, Double.isFinite, Double.less, nonneg]

end Texts

/-! ## A row with a settlement context -/

/-- A row keeps a reading: its context has the text of the number. -/
structure SpendReservation.Keeps
    (row : SpendReservation)
    (reading : Reading) :
    Prop where
  context :
    ∃ (context : SettlementContext) (shortest : ShortestDecimal),
      row.settlementContext = some context ∧
        reading.val = .decimal shortest ∧
        shortest.fraction.length ≤ 12 ∧
        context.deliveredKwh = shortest.toDecimalText.withFraction
  delivered : row.deliveredKwh ≠ none

/-- Two rows have the same delivery and the same context. -/
structure SpendReservation.SameDelivery
    (row later : SpendReservation) :
    Prop where
  deliveredKwh : later.deliveredKwh = row.deliveredKwh
  settlementContext : later.settlementContext = row.settlementContext

/-- Only a plain number has decimal parts. -/
theorem exists_decimal_of_parts
    {number : JsNumber}
    {parts : DecimalText}
    (isParts : decimalParts number = some parts) :
    ∃ shortest : ShortestDecimal,
      number = .decimal shortest ∧ parts = shortest.toDecimalText := by
  cases number with
  | decimal shortest =>
      cases isParts
      exact ⟨shortest, rfl, rfl⟩
  | _ =>
      cases isParts

section Rows

variable {row next : SpendReservation} {reading other : Reading}
  {call : SettlementCall} {parts : DecimalText}
  {settledAmount : JsNumber} {txHash : Option TransactionHash}

/-- What the writer of the context does to a row. -/
theorem persistSettlementContext_cases
    (persisted : row.persistSettlementContext parts = .ok next) :
    next = row ∧
        (∀ context, row.settlementContext = some context →
          context.deliveredKwh = parts.withFraction) ∨
      row.settlementContext = none ∧
        next.settlementContext = some (settlementContextOf parts) ∧
        next.deliveredKwh ≠ none := by
  unfold SpendReservation.persistSettlementContext at persisted
  split at persisted
  · rename_i existing isContext
    split at persisted
    · cases persisted
    · rename_i same
      cases persisted
      refine Or.inl ⟨rfl, fun context isSame => ?_⟩
      rw [isContext] at isSame
      cases isSame
      exact not_not.mp same
  · rename_i noContext
    split at persisted
    · split at persisted
      · cases persisted
      · cases persisted
        refine Or.inl ⟨rfl, fun context impossible => ?_⟩
        rw [noContext] at impossible
        cases impossible
    · split at persisted
      · cases persisted
      · cases persisted
        exact Or.inr ⟨noContext, rfl, Option.some_ne_none _⟩

/-- What a completion does to the delivery of a row. -/
theorem complete_cases
    {number : JsNumber}
    (completed :
      row.complete number settledAmount txHash = .ok next) :
    next = row ∧ row.status.isTerminal = true ∨
      ∃ parts,
        decimalParts number = some parts ∧
          row.status.isTerminal = false ∧
          (canonicalTokenAmount settledAmount).isSome ∧
          row.contradicts parts = false ∧
          next.deliveredKwh =
            some (row.deliveredKwh.getD parts.threeDecimals) ∧
          next.settlementContext =
            some (row.settlementContext.getD (settlementContextOf parts)) := by
  unfold SpendReservation.complete at completed
  split at completed
  · rename_i isTerminal
    split at completed
    · cases completed
    · cases completed
      exact Or.inl ⟨rfl, isTerminal⟩
  · rename_i isOpen
    split at completed
    · cases completed
    · rename_i requested isRequested
      split at completed
      · cases completed
      · rename_i parts isParts
        split at completed
        · cases completed
        · rename_i agrees
          split at completed
          · cases completed
          · cases completed
            exact
              Or.inr
                ⟨parts, isParts, Bool.eq_false_of_not_eq_true isOpen,
                  by rw [isRequested]; rfl,
                  Bool.eq_false_of_not_eq_true agrees, rfl, rfl⟩

end Rows

/-! ## One call -/

section Calls

variable {row next : SpendReservation} {reading other : Reading}
  {call : SettlementCall} {settledAmount : JsNumber}
  {txHash : Option String} {context : SettlementContext}

theorem mapError_eq_ok {α : Type}
    {result : Except StoreError α}
    {value : α} :
    result.mapError StoreError.failure = .ok value ↔
      result = .ok value := by
  cases result with
  | error error =>
      constructor <;> intro impossible <;> cases impossible
  | ok returned =>
      constructor <;> intro same <;> cases same <;> rfl

theorem SettlementCall.apply_persist :
    (persistSettlementContext reading).apply row = .ok next ↔
      ∃ parts,
        boundedReading reading.val = .ok parts ∧
          row.persistSettlementContext parts = .ok next := by
  constructor
  · intro applied
    obtain ⟨parts, bounded, persisted⟩ := Except.bind_eq_ok applied
    exact ⟨parts, bounded, mapError_eq_ok.mp persisted⟩
  · rintro ⟨parts, bounded, persisted⟩
    show (boundedReading reading.val >>= _) = _
    rw [bounded]
    exact mapError_eq_ok.mpr persisted

theorem SettlementCall.apply_complete :
    (complete reading settledAmount txHash).apply row = .ok next ↔
      ∃ hash,
        optionalHash txHash "reservation transaction hash" = .ok hash ∧
          row.complete reading.val settledAmount hash = .ok next := by
  constructor
  · intro applied
    obtain ⟨hash, isHash, completed⟩ := Except.bind_eq_ok applied
    exact ⟨hash, isHash, mapError_eq_ok.mp completed⟩
  · rintro ⟨hash, isHash, completed⟩
    show (optionalHash txHash _ >>= _) = _
    rw [isHash]
    exact mapError_eq_ok.mpr completed

/-- A call that throws leaves the row as it is. -/
theorem SettlementCall.after_of_error
    {failure : Failure}
    (refused : call.apply row = .error failure) :
    call.after row = row := by
  unfold after
  rw [refused]

theorem SettlementCall.after_of_ok
    (applied : call.apply row = .ok next) :
    call.after row = next := by
  unfold after
  rw [applied]

theorem SpendReservation.SameDelivery.refl
    (row : SpendReservation) :
    row.SameDelivery row :=
  ⟨rfl, rfl⟩

theorem SpendReservation.SameDelivery.trans
    {middle later : SpendReservation}
    (first : row.SameDelivery middle)
    (second : middle.SameDelivery later) :
    row.SameDelivery later :=
  ⟨second.deliveredKwh.trans first.deliveredKwh,
    second.settlementContext.trans first.settlementContext⟩

/-- A call leaves the delivery of a row that has a context. -/
theorem SettlementCall.sameDelivery
    (isContext : row.settlementContext = some context)
    (delivered : row.deliveredKwh ≠ none)
    (call : SettlementCall) :
    row.SameDelivery (call.after row) := by
  cases applied : call.apply row with
  | error failure =>
      rw [after_of_error applied]
      exact .refl row
  | ok next =>
      rw [after_of_ok applied]
      cases call with
      | persistSettlementContext reading =>
          obtain ⟨parts, _, persisted⟩ := apply_persist.mp applied
          rcases persistSettlementContext_cases persisted with
            ⟨rfl, _⟩ | ⟨noContext, _⟩
          · exact .refl next
          · rw [isContext] at noContext
            cases noContext
      | complete reading settledAmount txHash =>
          obtain ⟨hash, _, completed⟩ := apply_complete.mp applied
          rcases complete_cases completed with
            ⟨rfl, _⟩ | ⟨parts, _, _, _, _, isDelivered, isNext⟩
          · exact .refl next
          · obtain ⟨saved, isSaved⟩ :=
              Option.ne_none_iff_exists'.mp delivered
            rw [isSaved, Option.getD_some] at isDelivered
            rw [isContext, Option.getD_some] at isNext
            exact ⟨isDelivered.trans isSaved.symm,
              isNext.trans isContext.symm⟩

/-- A call that stores a context keeps its reading, if it is bounded. -/
theorem SettlementCall.keeps_of_stored
    (noContext : row.settlementContext = none)
    (bounded : call.IsBounded row)
    (applied : call.apply row = .ok next)
    (stored : next.settlementContext ≠ none) :
    next.Keeps call.reading := by
  cases call with
  | persistSettlementContext reading =>
      obtain ⟨parts, isReading, persisted⟩ := apply_persist.mp applied
      obtain ⟨shortest, isDecimal, short, rfl⟩ :=
        boundedReading_eq_ok_iff.mp isReading
      rcases persistSettlementContext_cases persisted with
        ⟨rfl, _⟩ | ⟨_, isContext, delivered⟩
      · exact absurd noContext stored
      · exact
          ⟨⟨_, shortest, isContext, isDecimal, short, rfl⟩, delivered⟩
  | complete reading settledAmount txHash =>
      obtain ⟨hash, isHash, completed⟩ := apply_complete.mp applied
      rcases complete_cases completed with
        ⟨rfl, _⟩ |
          ⟨parts, isParts, isOpen, isRequested, agrees, delivered,
            isContext⟩
      · exact absurd noContext stored
      · have short :=
          bounded reading settledAmount txHash parts rfl isParts
            ⟨isOpen, noContext, agrees, isRequested, by
              rw [isHash]; rfl⟩
        rw [noContext, Option.getD_none] at isContext
        obtain ⟨shortest, isDecimal, rfl⟩ :=
          exists_decimal_of_parts isParts
        refine
          ⟨⟨_, shortest, isContext, isDecimal, short, rfl⟩, ?_⟩
        rw [delivered]
        exact Option.some_ne_none _

end Calls

/-! ## What a kept reading decides -/

namespace SpendReservation.Keeps

variable {row : SpendReservation} {reading other : Reading}
  {settledAmount : JsNumber} {txHash : Option String}
  {hash : Option TransactionHash}

/-- A kept reading is read back. -/
theorem reads (keeps : row.Keeps reading) :
    row.readSavedSettlementDelivery =
      ⟨some reading.val.double, false, .settlementContext⟩ := by
  obtain ⟨context, shortest, isContext, isDecimal, short, isText⟩ :=
    keeps.context
  have isShown := reading.property
  rw [isDecimal] at isShown
  unfold SpendReservation.readSavedSettlementDelivery
  rw [isContext, isDecimal]
  dsimp only
  rw [isText]
  exact savedDelivery_withFraction isShown short _

end SpendReservation.Keeps

/-! ## Runs of calls -/

section Runs

variable {first row later : SpendReservation}
  {stored other : Option Reading}
  {meets : SpendReservation → SettlementCall → Prop}

/-- Once a row has a context, its delivery stays. -/
theorem SettlementRun.sameDelivery
    {context : SettlementContext}
    (isContext : row.settlementContext = some context)
    (delivered : row.deliveredKwh ≠ none)
    (run : SettlementRun meets row later other) :
    row.SameDelivery later := by
  induction run with
  | first =>
      exact .refl row
  | call _ call _ inductionHypothesis =>
      have kept := inductionHypothesis
      have stillContext := kept.settlementContext.trans isContext
      refine kept.trans (SettlementCall.sameDelivery stillContext ?_ call)
      rw [kept.deliveredKwh]
      exact delivered

/-- The row of a run has no context, or keeps the stored reading. -/
theorem SettlementRun.keeps
    (noContext : first.settlementContext = none)
    (run : SettlementRun SettlementCall.IsBounded first row stored) :
    row.settlementContext = none ∧ stored = none ∨
      ∃ reading, stored = some reading ∧ row.Keeps reading := by
  induction run with
  | first =>
      exact Or.inl ⟨noContext, rfl⟩
  | @call row stored _ call bounded inductionHypothesis =>
      rcases inductionHypothesis with
        ⟨without, rfl⟩ | ⟨reading, rfl, keeps⟩
      · cases applied : call.apply row with
        | error failure =>
            rw [SettlementCall.after_of_error applied]
            exact Or.inl ⟨without, if_neg fun both => both.2 without⟩
        | ok next =>
            rw [SettlementCall.after_of_ok applied]
            by_cases isStored : next.settlementContext = none
            · exact Or.inl ⟨isStored, if_neg fun both => both.2 isStored⟩
            · exact
                Or.inr
                  ⟨call.reading, if_pos ⟨without, isStored⟩,
                    SettlementCall.keeps_of_stored without bounded
                      applied isStored⟩
      · obtain ⟨context, shortest, isContext, rest⟩ := keeps.context
        have same :=
          SettlementCall.sameDelivery isContext keeps.delivered call
        have isNotNone : row.settlementContext ≠ none := by
          rw [isContext]
          exact Option.some_ne_none _
        refine
          Or.inr
            ⟨reading, if_neg fun both => isNotNone both.1,
              ⟨context, shortest, ?_, rest⟩, ?_⟩
        · exact same.settlementContext.trans isContext
        · rw [same.deliveredKwh]
          exact keeps.delivered

end Runs

/-! ## Thirteen decimals -/

end Sparkz
