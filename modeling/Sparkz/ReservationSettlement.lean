import Sparkz.CdrEnergy
import Sparkz.CentNumbers
import Sparkz.SpendReservation

namespace Sparkz

open BinaryRounding

/-!
# Settling a reservation with the energy of a record

The energy of a charge detail record reaches the settlement as a number.  Its
cents are taken from the text of that number, the settled and the released cents
are turned into numbers again, and the text is kept with the reservation.
-/

/-- `session.energyDirection === 'CHARGE' ? session.energyKWh : 0`. -/
def deliveredKwhOf
    (energyKWh : JsNumber)
    (energyDirection : EnergyDirection) :
    JsNumber :=
  if energyDirection = .charge then energyKWh else .ofNat 0

/-- The decimal that `String(n)` shows of a number that is not negative. -/
def JsNumber.decimalValue : JsNumber → ℚ
  | .decimal shortest => shortest.value
  | .tiny text | .large text => (numeralValue text.toList).getD 0
  | .negative _ | .infinity | .notANumber => 0

/-- The cents of a delivery, without what is finer than a cent. -/
def deliveredUnits (deliveredKwh : JsNumber) : ℕ :=
  ⌊deliveredKwh.decimalValue * 100⌋₊

/--
The settlement of a delivery is exact: the numbers that it returns are those of
the settled and of the released cents, and every row that has no delivery yet
takes its text.
-/
structure SettlesExactly
    (reserved : TokenAmount)
    (reservedSparkz deliveredKwh : JsNumber) :
    Prop where
  amounts :
    ∃ settledAmount releasedAmount settled released,
      calculateReservationSettlement reservedSparkz deliveredKwh =
          .ok (settledAmount, releasedAmount) ∧
        canonicalTokenAmount settledAmount = some ⟨settled⟩ ∧
        canonicalTokenAmount releasedAmount = some ⟨released⟩ ∧
        settled = min reserved.units (deliveredUnits deliveredKwh) ∧
        released = reserved.units - settled
  persisted :
    ∃ parts,
      boundedReading deliveredKwh = .ok parts ∧
        ∀ row : SpendReservation,
          row.settlementContext = none →
          row.deliveredKwh = none →
          ∃ next, row.persistSettlementContext parts = .ok next

/-! ## The exact settlement -/

section Settlement

variable {reservedSparkz deliveredKwh : JsNumber}
  {reserved : TokenAmount}

/-- The floor of a decimal is what its first two digits write. -/
theorem deliveredUnits_decimal (shortest : ShortestDecimal) :
    deliveredUnits (.decimal shortest) =
      shortest.toDecimalText.flooredUnits := by
  have isFloor := DecimalText.flooredUnits_eq shortest.toDecimalText
  unfold deliveredUnits JsNumber.decimalValue
  rw [← Int.toNat_natCast shortest.toDecimalText.flooredUnits, isFloor]
  exact (Int.floor_toNat _).symm

/-- What a plain reading settles and releases. -/
theorem calculateReservationSettlement_decimal
    (canonical : canonicalTokenAmount reservedSparkz = some reserved)
    (shortest : ShortestDecimal) :
    calculateReservationSettlement reservedSparkz (.decimal shortest) =
      .ok
        (.ofUnits
            (min reserved.units (deliveredUnits (.decimal shortest))),
          .ofUnits
            (reserved.units -
              min reserved.units
                (deliveredUnits (.decimal shortest)))) := by
  rw [deliveredUnits_decimal]
  simp only [calculateReservationSettlement, canonical,
    truncateTokenAmount, decimalParts, Option.map_some]

/-- Only a plain reading of few digits can be kept. -/
theorem boundedReading_eq_ok_iff {parts : DecimalText} :
    boundedReading deliveredKwh = .ok parts ↔
      ∃ shortest : ShortestDecimal,
        deliveredKwh = .decimal shortest ∧
          shortest.fraction.length ≤ 12 ∧
          parts = shortest.toDecimalText := by
  constructor
  · intro bounded
    cases deliveredKwh with
    | decimal shortest =>
        rw [boundedReading] at bounded
        by_cases long : shortest.fraction.length > 12
        · rw [if_pos long] at bounded
          cases bounded
        · rw [if_neg long] at bounded
          cases bounded
          exact ⟨shortest, rfl, not_lt.mp long, rfl⟩
    | _ =>
        cases bounded
  · rintro ⟨shortest, rfl, short, rfl⟩
    exact if_neg short.not_gt

/-- A row without a delivery takes a reading that its column has room for. -/
theorem persistSettlementContext_isOk_iff {parts : DecimalText} :
    (∀ row : SpendReservation,
        row.settlementContext = none →
        row.deliveredKwh = none →
        ∃ next, row.persistSettlementContext parts = .ok next) ↔
      parts.whole < 10 ^ 17 := by
  constructor
  · intro accepts
    obtain ⟨next, persisted⟩ := accepts openReservation rfl rfl
    by_contra large
    simp only [SpendReservation.persistSettlementContext, openReservation,
      not_lt.mp large, if_true, reduceCtorEq] at persisted
  · intro small row noContext notDelivered
    simp only [SpendReservation.persistSettlementContext, noContext,
      notDelivered, small.not_ge, if_false]
    exact ⟨_, rfl⟩

/--
A delivery is settled exactly when its number is shown without an exponent,
with at most seventeen digits before the point and twelve after it, and the
settled and the released cents survive their division, as all of a reservation
below the bound do.
-/
theorem settlesExactly_iff
    (canonical : canonicalTokenAmount reservedSparkz = some reserved) :
    (SettlesExactly reserved reservedSparkz deliveredKwh ↔
      ∃ shortest : ShortestDecimal,
        deliveredKwh = .decimal shortest ∧
          shortest.whole < 10 ^ 17 ∧
          shortest.fraction.length ≤ 12 ∧
          SurviveDivision
            (min reserved.units (deliveredUnits deliveredKwh)) ∧
          SurviveDivision
            (reserved.units -
              min reserved.units (deliveredUnits deliveredKwh))) ∧
      ∀ units ≤ 2 ^ 45 * 100, SurviveDivision units := by
  refine ⟨⟨?_, ?_⟩, fun units => survive_of_bounded⟩
  · rintro ⟨⟨settledAmount, releasedAmount, settled, released, isResult,
      isSettled, isReleased, rfl, rfl⟩, parts, isReading, persisted⟩
    obtain ⟨shortest, rfl, short, rfl⟩ :=
      boundedReading_eq_ok_iff.mp isReading
    rw [calculateReservationSettlement_decimal canonical] at isResult
    cases isResult
    exact
      ⟨shortest, rfl, persistSettlementContext_isOk_iff.mp persisted,
        short, canonicalTokenAmount_ofUnits_iff.mp isSettled,
        canonicalTokenAmount_ofUnits_iff.mp isReleased⟩
  · rintro ⟨shortest, rfl, small, short, settledBack, releasedBack⟩
    exact
      ⟨⟨_, _, _, _,
          calculateReservationSettlement_decimal canonical shortest,
          canonicalTokenAmount_ofUnits_iff.mpr settledBack,
          canonicalTokenAmount_ofUnits_iff.mpr releasedBack, rfl, rfl⟩,
        _, boundedReading_eq_ok_iff.mpr ⟨shortest, rfl, short, rfl⟩,
        persistSettlementContext_isOk_iff.mpr small⟩

end Settlement

/-- A part of twenty tokens is settled with an ordinary delivery. -/
theorem settlesExactly_ordinary :
    SettlesExactly ⟨2000⟩ (.ofCents 2000)
      (.decimal ⟨⟨10, [2, 5, 9]⟩, by decide⟩) := by
  obtain ⟨settles, survive⟩ :=
    settlesExactly_iff (canonicalTokenAmount_ofCents 2000)
  refine
    settles.mpr
      ⟨_, rfl, by decide, by decide, survive _ ?_, survive _ ?_⟩
  · exact (Nat.min_le_left _ _).trans (by norm_num)
  · exact (Nat.sub_le _ _).trans (by norm_num)

/-- A delivery below a millionth is accepted, and has no settlement. -/
theorem tinyDelivery_isRefused :
    ¬ ∀ (energyValue direction : BodyValue) (energyKWh : JsNumber)
        (energyDirection : EnergyDirection) (reservedSparkz : JsNumber)
        (reserved : TokenAmount),
        normaliseEnergy energyValue direction =
            .ok (energyKWh, energyDirection) →
          canonicalTokenAmount reservedSparkz = some reserved →
          SettlesExactly reserved reservedSparkz
            (deliveredKwhOf energyKWh energyDirection) := by
  intro settles
  have accepted :
      normaliseEnergy (.text "0.0000001") .absent =
        .ok (.tiny "1e-7", .charge) := by
    decide +kernel
  obtain ⟨_, parts, persisted⟩ :=
    settles _ _ _ _ (.ofCents 2000) ⟨2000⟩ accepted
      (canonicalTokenAmount_ofCents 2000)
  cases persisted.1

end Sparkz
