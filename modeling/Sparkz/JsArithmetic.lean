import Sparkz.DecimalNames
import Sparkz.Decimals

namespace Sparkz

open BinaryRounding DecimalNames

/-!
# Numbers of JavaScript

A number is a double, by its value.  `Number(text)` is the double nearest to
the decimal that a text writes, and `String(n)` is the shortest decimal that
names a double, so a number and what it shows determine each other.
-/

/-- The doubles, without their greatest exponent. -/
def binary64 : Format where
  precision := 53
  leastExponent := -1074
  somePrecision := by decide

/-- A number by its value; the two zeros are one. -/
inductive Double where
  | finite (value : ℚ)
  | infinite (negative : Bool)
  | notANumber
  deriving DecidableEq

/-! ## Arithmetic -/

namespace Double

/-- The double nearest to a rational number. -/
def ofRational (x : ℚ) : Double :=
  if |binary64.round x| < 2 ^ 1024 then .finite (binary64.round x)
  else .infinite (x < 0)

/-- `-n`. -/
def negate : Double → Double
  | .finite x => .finite (-x)
  | .infinite negative => .infinite (!negative)
  | .notANumber => .notANumber

/-- `n * m`. -/
def times : Double → Double → Double
  | .finite x, .finite y => ofRational (x * y)
  | .infinite first, .infinite second => .infinite (first != second)
  | .finite x, .infinite negative | .infinite negative, .finite x =>
      if x = 0 then .notANumber else .infinite (negative != (x < 0))
  | .notANumber, _ | _, .notANumber => .notANumber

/-- `n + m`. -/
def plus : Double → Double → Double
  | .finite x, .finite y => ofRational (x + y)
  | .infinite first, .infinite second =>
      if first = second then .infinite first else .notANumber
  | .finite _, .infinite negative | .infinite negative, .finite _ =>
      .infinite negative
  | .notANumber, _ | _, .notANumber => .notANumber

/-- `Math.floor(n)`. -/
def floor : Double → Double
  | .finite x => .finite ⌊x⌋
  | other => other

/-- `n < m`. -/
def less : Double → Double → Bool
  | .finite x, .finite y => x < y
  | .infinite first, .infinite second => first && !second
  | .finite _, .infinite negative => !negative
  | .infinite negative, .finite _ => negative
  | .notANumber, _ | _, .notANumber => false

/-- `n <= m`. -/
def atMost (first second : Double) : Bool :=
  first.less second || first == second && first != .notANumber

end Double

/-! ## `String(n)` -/

/-- A remainder is a digit. -/
theorem mod_ten_lt (count : ℕ) : count % 10 < 10 :=
  Nat.mod_lt _ (by decide)

/-- The last digits of a count, the first of them first. -/
def lastDigits : ℕ → ℕ → List (Fin 10)
  | 0, _ => []
  | scale + 1, count =>
      lastDigits scale (count / 10) ++ [⟨count % 10, mod_ten_lt count⟩]

/-- Whole numbers have no digits to trim. -/
theorem trimmed_whole :
    ([] : List (Fin 10)).getLast? ≠ some ⟨0, zero_lt_ten⟩ := by
  simp

/-- A last digit other than zero is not trimmed. -/
theorem trimmed_lastDigits
    {scale count : ℕ}
    (notZero : count % 10 ≠ 0) :
    (lastDigits (scale + 1) count).getLast? ≠
      some ⟨0, zero_lt_ten⟩ := by
  simpa [lastDigits] using notZero

/-- A count of some power of ten, written without trailing zeros. -/
def ShortestDecimal.ofScaled : ℕ → ℕ → ShortestDecimal
  | 0, count => ⟨⟨count, []⟩, trimmed_whole⟩
  | scale + 1, count =>
      if isZero : count % 10 = 0 then ofScaled scale (count / 10)
      else
        ⟨⟨count / 10 ^ (scale + 1), lastDigits (scale + 1) count⟩,
          trimmed_lastDigits isZero⟩

/-- A decimal in the notation with an exponent. -/
def exponentText (count : ℕ) (exponent : ℤ) : String :=
  let scale := (Nat.toDigits 10 count).length - 1
  let shown := exponent + scale
  (if scale = 0 then toString count else unsignedText scale count) ++
    "e" ++ (if shown < 0 then "-" else "+") ++ toString shown.natAbs

/-- A positive decimal, as it is shown. -/
def JsNumber.ofDecimal (count : ℕ) (exponent : ℤ) : JsNumber :=
  if (count : ℚ) * 10 ^ exponent < 1 / 10 ^ 6 then
    .tiny (exponentText count exponent)
  else if 10 ^ 21 ≤ (count : ℚ) * 10 ^ exponent then
    .large (exponentText count exponent)
  else
    .decimal
      (.ofScaled (-exponent).toNat (count * 10 ^ exponent.toNat))

/-- A positive number, as it is shown. -/
def JsNumber.ofPositive (x : ℚ) : JsNumber :=
  match shortest? binary64.round 17 x with
  | some (count, exponent) => .ofDecimal count.toNat exponent
  | none => .notANumber

/-- What `String(n)` shows of a number. -/
def Double.shown : Double → JsNumber
  | .finite x =>
      if x = 0 then .ofNat 0
      else if x < 0 then .negative ("-" ++ (JsNumber.ofPositive (-x)).text)
      else .ofPositive x
  | .infinite false => .infinity
  | .infinite true => .negative "-Infinity"
  | .notANumber => .notANumber

/-! ## `Number(text)` -/

/-- The number that decimal parts write. -/
def DecimalText.value (decimal : DecimalText) : ℚ :=
  decimal.whole +
    (digitsValue decimal.fraction : ℚ) / 10 ^ decimal.fraction.length

/-- The number of a text without an exponent. -/
def mantissaValue (characters : List Char) : Option ℚ :=
  match characters.splitOn '.' with
  | [whole] =>
      match decimalDigits whole with
      | some (digit :: digits) => some (digitsValue (digit :: digits))
      | _ => none
  | [whole, fraction] =>
      match decimalDigits whole, decimalDigits fraction with
      | some wholeDigits, some fractionDigits =>
          if wholeDigits = [] ∧ fractionDigits = [] then none
          else
            some
              (DecimalText.value ⟨digitsValue wholeDigits, fractionDigits⟩)
      | _, _ => none
  | _ => none

/-- The exponent that follows the letter. -/
def exponentValue : List Char → Option ℤ
  | '-' :: digits => (unsigned digits).map fun count => -count
  | '+' :: digits => unsigned digits
  | digits => unsigned digits
where
  /-- A whole number of at least one digit. -/
  unsigned (characters : List Char) : Option ℤ :=
    match decimalDigits characters with
    | some (digit :: digits) => some (digitsValue (digit :: digits))
    | _ => none

/-- The number of a text without a sign. -/
def numeralValue (characters : List Char) : Option ℚ :=
  match characters.splitOnP (fun character => character ∈ ['e', 'E']) with
  | [mantissa] => mantissaValue mantissa
  | [mantissa, exponent] => do
      let digits ← mantissaValue mantissa
      let power ← exponentValue exponent
      return digits * 10 ^ power
  | _ => none

/--
`Number(text)`, for a text in decimal notation.  The texts of the program are
never hexadecimal, octal or binary.
-/
def Double.ofText (text : String) : Double :=
  match (trimText text).toList with
  | [] => .finite 0
  | '-' :: rest => (unsigned rest).negate
  | '+' :: rest => unsigned rest
  | characters => unsigned characters
where
  /-- The number of the characters after the sign. -/
  unsigned (characters : List Char) : Double :=
    if characters = "Infinity".toList then .infinite false
    else
      match numeralValue characters with
      | some value => .ofRational value
      | none => .notANumber

/-- The number that is shown. -/
def JsNumber.double : JsNumber → Double
  | .decimal shortest => .ofRational shortest.value
  | .tiny text | .large text | .negative text => .ofText text
  | .infinity => .infinite false
  | .notANumber => .notANumber

section Shown

variable {text : String}

@[simp] theorem double_decimal {shortest : ShortestDecimal} :
    (JsNumber.decimal shortest).double = .ofRational shortest.value := rfl

@[simp] theorem double_tiny :
    (JsNumber.tiny text).double = .ofText text := rfl

@[simp] theorem double_large :
    (JsNumber.large text).double = .ofText text := rfl

@[simp] theorem double_negative :
    (JsNumber.negative text).double = .ofText text := rfl

@[simp] theorem double_notANumber :
    JsNumber.notANumber.double = .notANumber := rfl

@[simp] theorem double_infinity :
    JsNumber.infinity.double = .infinite false := rfl

end Shown

end Sparkz
