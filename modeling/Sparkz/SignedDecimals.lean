import Sparkz.RequestBody
import Sparkz.TransactionHash

namespace Sparkz

/-!
# Signed decimals of the evidence report

Amounts are read from numbers or texts and written back as texts, so a running
total goes through its own text at every step.  Reading a written decimal gives
the same units again.
-/

/-- The text that an amount is read from. -/
def decimalText : BodyValue → String
  | .number value => if value.isFinite then value.text else ""
  | .text value => trimText value
  | _ => ""

/-- The units of `(fraction + '0'.repeat(scale)).slice(0, scale) || '0'`. -/
def fractionUnits (scale : Nat) (fraction : List (Fin 10)) : Nat :=
  digitsValue
    ((fraction ++ List.replicate scale (Fin.mk 0 zero_lt_ten)).take scale)

/-- `parseDecimal(text, scale)`, for a text without blanks around it. -/
def parseDecimalText (scale : Nat) (text : String) : Option Int :=
  let negative := hasPrefix text "-"
  let unsigned :=
    if negative then String.ofList (text.toList.drop 1) else text
  match decimalTextParts unsigned with
  | none => none
  | some parts =>
      if scale < parts.fraction.length then none
      else
        let units : Int :=
          (parts.whole * 10 ^ scale + fractionUnits scale parts.fraction :
            Nat)
        some (if negative then -units else units)

/-- `parseDecimal(value, scale)`. -/
def parseDecimal (value : BodyValue) (scale : Nat) : Option Int :=
  parseDecimalText scale (decimalText value)

/-- `formatDecimal(value, scale)`. -/
def formatDecimal (value : Int) (scale : Nat) : String :=
  let absolute := value.natAbs
  let divisor := 10 ^ scale
  (if value < 0 then "-" else "") ++ toString (absolute / divisor) ++
    "." ++ padZeros scale (toString (absolute % divisor))

/-! ## Round trip -/

section RoundTrip

variable {scale : Nat} {absolute : Nat}

theorem formatDecimal_eq (value : Int) (scale : Nat) :
    formatDecimal value scale =
      (if value < 0 then "-" else "") ++
        unsignedText scale value.natAbs := by
  simp [formatDecimal, unsignedText, String.append_assoc]

/-- What is written is read back. -/
theorem parseDecimalText_formatDecimal
    (positive : 0 < scale)
    (value : Int) :
    parseDecimalText scale (formatDecimal value scale) = some value := by
  obtain ⟨parts, isParts, length, units⟩ :=
    @decimalTextParts_unsignedText scale value.natAbs positive
  have kept : fractionUnits scale parts.fraction =
      digitsValue parts.fraction := by
    unfold fractionUnits
    rw [← length, List.take_left]
  have notLong : ¬ scale < parts.fraction.length := by
    omega
  by_cases negative : value < 0
  · have isNegative :
        hasPrefix (formatDecimal value scale) "-" = true := by
      rw [formatDecimal_eq, if_pos negative]
      exact hasPrefix_append _ _
    have unsigned :
        String.ofList ((formatDecimal value scale).toList.drop 1) =
          unsignedText scale value.natAbs := by
      rw [formatDecimal_eq, if_pos negative]
      simp
    unfold parseDecimalText
    simp only [isNegative, if_true, unsigned, isParts, notLong, if_false,
      kept, units]
    congr 1
    omega
  · have unsigned :
        formatDecimal value scale = unsignedText scale value.natAbs := by
      rw [formatDecimal_eq, if_neg negative]
      simp
    rw [unsigned]
    unfold parseDecimalText
    simp only [unsignedText_notNegative, Bool.false_eq_true, if_false,
      isParts, notLong, kept, units]
    congr 1
    omega

/-- A written decimal has no blanks around it. -/
theorem trimText_formatDecimal
    (positive : 0 < scale)
    (value : Int) :
    trimText (formatDecimal value scale) = formatDecimal value scale := by
  obtain ⟨_, _, isWhole, _⟩ :=
    decimalDigits_toDigits (value.natAbs / 10 ^ scale)
  obtain ⟨_, isFraction, _, _⟩ :=
    decimalDigits_padZeros positive
      (Nat.mod_lt value.natAbs (Nat.pow_pos (by decide : 0 < 10)))
  apply trimText_of_noBlank
  intro character member
  rw [formatDecimal_eq, String.toList_append, unsignedText_toList,
    List.mem_append, List.mem_append, List.mem_cons] at member
  rcases member with isSign | isWholeDigit | rfl | isFractionDigit
  · split at isSign
    · rw [show character = '-' by simpa using isSign]
      decide
    · simp at isSign
  · exact
      isBlank_of_isDigit (isDigit_of_decimalDigits isWhole _ isWholeDigit)
  · decide
  · exact
      isBlank_of_isDigit
        (isDigit_of_decimalDigits isFraction _ isFractionDigit)

/-- A written amount is read back. -/
theorem parseDecimal_formatDecimal
    (positive : 0 < scale)
    (value : Int) :
    parseDecimal (.text (formatDecimal value scale)) scale = some value := by
  have text :
      decimalText (.text (formatDecimal value scale)) =
        formatDecimal value scale :=
    trimText_formatDecimal positive value
  rw [parseDecimal, text, parseDecimalText_formatDecimal positive]

end RoundTrip

end Sparkz
