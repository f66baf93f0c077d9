import Sparkz.JsArithmetic

namespace Sparkz

/-!
# Numbers and token amounts

Amounts are whole cents from the moment they have passed
`canonicalTokenAmount`.  They become numbers again in two ways: by a division
of the cents, and by reading the decimal that the database keeps.
-/

/-- A token amount at the two-decimal storage boundary, in cents. -/
structure TokenAmount where
  units : Nat
  deriving Repr, DecidableEq

namespace Double

/-- `Number(units) / 100`. -/
def ofUnits (units : Nat) : Double :=
  match ofRational units with
  | .finite x => ofRational (x / 100)
  | other => other

/--
The cents of `n.toFixed(2)`, which takes the upper of two.  No column of amounts
holds one that is too large for a double.
-/
def fixedUnits : Double → Nat
  | .finite x => ⌊x * 100 + 1 / 2⌋₊
  | .infinite _ | .notANumber => 0

end Double

namespace JsNumber

/--
`Number(units) / 100`.  The units and the quotient are rounded to doubles, so
the number shows other cents when there are too many of them.
-/
def ofUnits (units : Nat) : JsNumber :=
  (Double.ofUnits units).shown

end JsNumber

/-- One exact two-decimal value, or nothing for a finer or odd number. -/
def canonicalTokenAmount (value : JsNumber) : Option TokenAmount :=
  match decimalParts value with
  | none => none
  | some parts =>
      if parts.fraction.length > 2 then none
      else some ⟨parts.flooredUnits⟩

/-- The exact two-decimal floor of an energy or balance value. -/
def truncateTokenAmount (value : JsNumber) : Option TokenAmount :=
  (decimalParts value).map fun parts => ⟨parts.flooredUnits⟩

namespace TokenAmount

/-- `amount.value`. -/
def value (amount : TokenAmount) : JsNumber :=
  .ofUnits amount.units

/-- `canonicalTokenAmount(amount.value)`. -/
def reread (amount : TokenAmount) : Option TokenAmount :=
  canonicalTokenAmount amount.value

/-- `Number(amount.decimal)`. -/
def number (amount : TokenAmount) : JsNumber :=
  (Double.ofRational (amount.units / 100)).shown

/-- `amount.decimal`, where an amount is read from it again. -/
def written (amount : TokenAmount) : JsNumber :=
  .ofCents amount.units

/-- `amount.decimal`. -/
def decimal (amount : TokenAmount) : String :=
  toString (amount.units / 100) ++ "." ++
    toString (amount.units / 10 % 10) ++ toString (amount.units % 10)

/-- `ethers.parseUnits(decimal, 18)`. -/
def baseUnits (amount : TokenAmount) : Nat :=
  amount.units * 10 ^ 16

end TokenAmount

/-- The number of some cents has those cents as its two-decimal floor. -/
theorem decimalParts_ofCents (units : Nat) :
    ∃ parts,
      decimalParts (.ofCents units) = some parts ∧
        parts.fraction.length ≤ 2 ∧
        parts.flooredUnits = units := by
  unfold JsNumber.ofCents
  split
  · rename_i noHundredths
    have hundredths : units % 10 = 0 :=
      congrArg Fin.val noHundredths
    split
    · rename_i noTenths
      have tenths : units / 10 % 10 = 0 :=
        congrArg Fin.val noTenths
      refine ⟨_, rfl, by simp, ?_⟩
      simp only [DecimalText.flooredUnits, DecimalText.cents]
      omega
    · refine ⟨_, rfl, by simp, ?_⟩
      simp only [DecimalText.flooredUnits, DecimalText.cents,
        Fin.ofNat]
      omega
  · refine ⟨_, rfl, by simp, ?_⟩
    simp only [DecimalText.flooredUnits, DecimalText.cents, Fin.ofNat]
    omega

/-- A stored amount survives the trip through its number. -/
@[simp] theorem canonicalTokenAmount_ofCents (units : Nat) :
    canonicalTokenAmount (.ofCents units) = some ⟨units⟩ := by
  obtain ⟨parts, rendered, short, floored⟩ :=
    decimalParts_ofCents units
  have notLong : ¬ parts.fraction.length > 2 := by omega
  simp [canonicalTokenAmount, rendered, notLong, floored]

/-- A stored amount survives truncation of its number. -/
@[simp] theorem truncateTokenAmount_ofCents (units : Nat) :
    truncateTokenAmount (.ofCents units) = some ⟨units⟩ := by
  obtain ⟨parts, rendered, _, floored⟩ := decimalParts_ofCents units
  simp [truncateTokenAmount, rendered, floored]

/-- A canonical amount is also the two-decimal floor of its number. -/
theorem truncate_of_canonical
    {value : JsNumber}
    {amount : TokenAmount}
    (canonical : canonicalTokenAmount value = some amount) :
    truncateTokenAmount value = some amount := by
  unfold canonicalTokenAmount at canonical
  split at canonical
  · cases canonical
  · rename_i parts rendered
    split at canonical
    · cases canonical
    · simpa [truncateTokenAmount, rendered] using canonical

end Sparkz
