import Mathlib.Algebra.BigOperators.Group.List.Basic
import Mathlib.Algebra.Ring.Nat
import Mathlib.Data.List.Infix
import Mathlib.Data.List.Lex
import Mathlib.Order.Fin.Basic
import Sparkz.Utf16

/-!
# Working on texts by their code units

Scripts clean, cut and test texts unit by unit.  The functions here are those
of a text as a list of code units, whatever characters the units stand for.
-/

namespace UnitTexts

open Utf16

instance lawfulUnit : LawfulBEq CodeUnit := inferInstance

instance lawfulText : LawfulBEq (List CodeUnit) := inferInstance

/-- The control characters of ASCII. -/
def IsControl (unit : CodeUnit) : Prop :=
  unit.val ≤ 0x1f ∨ unit.val = 0x7f
  deriving Decidable

/-- The space. -/
def space : CodeUnit := unitOf 0x20

/-- A space in place of every control character. -/
def withSpaces (text : List CodeUnit) : List CodeUnit :=
  text.map fun unit => if IsControl unit then space else unit

/-- The white space and line ends that `trim()` removes. -/
def IsBlank (unit : CodeUnit) : Prop :=
  (0x9 ≤ unit.val ∧ unit.val ≤ 0xd) ∨
    (0x2000 ≤ unit.val ∧ unit.val ≤ 0x200a) ∨
    unit.val ∈
      [0x20, 0xa0, 0x1680, 0x2028, 0x2029, 0x202f, 0x205f, 0x3000, 0xfeff]
  deriving Decidable

/-- `text.trim()`. -/
def trim (text : List CodeUnit) : List CodeUnit :=
  ((text.dropWhile (IsBlank ·)).reverse.dropWhile (IsBlank ·)).reverse

/-- `text.includes(part)`. -/
def includes (text part : List CodeUnit) : Bool :=
  decide (part <:+: text)

/-- `text.startsWith(part)`. -/
def startsWith (text part : List CodeUnit) : Bool :=
  decide (part <+: text)

/-- `text.endsWith(part)`. -/
def endsWith (text part : List CodeUnit) : Bool :=
  decide (part <:+ text)

/-- The texts of a list behind one another, with a text in between. -/
def joinWith (between : List CodeUnit) (texts : List (List CodeUnit)) :
    List CodeUnit :=
  (texts.intersperse between).flatten

/-! ## Classes of ASCII characters -/

/-- A unit from one to another. -/
def Within (low high : ℕ) (unit : CodeUnit) : Prop :=
  low ≤ unit.val ∧ unit.val ≤ high
  deriving Decidable

/-- `[0-9]`. -/
def IsDigit (unit : CodeUnit) : Prop :=
  Within 0x30 0x39 unit
  deriving Decidable

/-- `[A-Z]`. -/
def IsUpper (unit : CodeUnit) : Prop :=
  Within 0x41 0x5a unit
  deriving Decidable

/-- `[a-z]`. -/
def IsLower (unit : CodeUnit) : Prop :=
  Within 0x61 0x7a unit
  deriving Decidable

/-- `[0-9a-fA-F]`. -/
def IsHexadecimal (unit : CodeUnit) : Prop :=
  IsDigit unit ∨ Within 0x41 0x46 unit ∨ Within 0x61 0x66 unit
  deriving Decidable

/-- `text.toLowerCase()`, as far as ASCII characters go. -/
def lower (text : List CodeUnit) : List CodeUnit :=
  text.map fun unit =>
    if IsUpper unit then unitOf (unit.val + 0x20) else unit

/-- `text.toUpperCase()`, as far as ASCII characters go. -/
def upper (text : List CodeUnit) : List CodeUnit :=
  text.map fun unit =>
    if IsLower unit then unitOf (unit.val - 0x20) else unit

/-! ## Texts without control characters -/

/-- No unit of a text is a control character of ASCII. -/
def IsClean (text : List CodeUnit) : Prop :=
  ∀ unit ∈ text, ¬ IsControl unit

instance (text : List CodeUnit) : Decidable (IsClean text) :=
  inferInstanceAs (Decidable (∀ unit ∈ text, ¬ IsControl unit))

section Clean

variable {text other : List CodeUnit}

theorem isClean_withSpaces (text : List CodeUnit) :
    IsClean (withSpaces text) := by
  intro unit member
  obtain ⟨original, _, rfl⟩ := List.mem_map.mp member
  split
  · decide
  · assumption

/-- What stays of a clean text is clean. -/
theorem IsClean.subset
    (clean : IsClean text)
    (within : other ⊆ text) :
    IsClean other :=
  fun unit member => clean unit (within member)

theorem trim_subset (text : List CodeUnit) : trim text ⊆ text := by
  intro unit member
  unfold trim at member
  rw [List.mem_reverse] at member
  have afterEnd :=
    List.mem_reverse.mp ((List.dropWhile_sublist _).subset member)
  exact (List.dropWhile_sublist _).subset afterEnd

theorem IsClean.trim (clean : IsClean text) : IsClean (trim text) :=
  clean.subset (trim_subset text)

theorem IsClean.take (clean : IsClean text) (count : ℕ) :
    IsClean (text.take count) :=
  clean.subset (List.take_subset count text)

theorem IsClean.append
    (clean : IsClean text)
    (otherClean : IsClean other) :
    IsClean (text ++ other) := by
  intro unit member
  rcases List.mem_append.mp member with inText | inOther
  · exact clean unit inText
  · exact otherClean unit inOther

end Clean

/-! ## Lengths -/

theorem length_joinWith
    (between : List CodeUnit)
    (texts : List (List CodeUnit)) :
    (joinWith between texts).length =
      (texts.map List.length).sum + between.length * (texts.length - 1) := by
  induction texts with
  | nil =>
      rfl
  | cons first rest inductionHypothesis =>
      cases rest with
      | nil =>
          simp [joinWith]
      | cons second others =>
          simp only [joinWith, List.intersperse_cons_cons,
            List.flatten_cons, List.length_append, List.map_cons,
            List.sum_cons, List.length_cons, Nat.add_sub_cancel]
            at inductionHypothesis ⊢
          rw [inductionHypothesis, Nat.mul_add]
          omega

end UnitTexts
