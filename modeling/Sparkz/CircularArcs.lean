import Mathlib.Algebra.Group.Fin.Basic
import Mathlib.Algebra.Ring.Nat
import Mathlib.Data.List.Perm.Basic
import Mathlib.Data.Set.Lattice
import Mathlib.Order.Fin.Basic

/-!
# Arcs of a circle of finitely many points

An arc starts at a point and is walked in steps until a point that it does not
contain; an arc that ends where it starts is the whole circle.  What a list of
arcs covers does not depend on how the arcs are written.
-/

namespace CircularArcs

variable {size : ℕ} [NeZero size]

/-- A start and an end on the circle. -/
structure Arc (size : ℕ) where
  start : Fin size
  finish : Fin size
  deriving DecidableEq

namespace Arc

variable {arc : Arc size} {point : Fin size}

/-- The number of points on the way from the start to the end. -/
def length (arc : Arc size) : ℕ :=
  if arc.start = arc.finish then size
  else (arc.finish - arc.start).val

/-- The points that are reached before the end. -/
def points (arc : Arc size) : Set (Fin size) :=
  {point |
    ∃ steps < arc.length, point = arc.start + Fin.ofNat size steps}

/-- A point is reached after as many steps as it is away from the start. -/
theorem mem_points_iff :
    point ∈ arc.points ↔ (point - arc.start).val < arc.length := by
  constructor
  · rintro ⟨steps, few, isReached⟩
    have bounded : arc.length ≤ size := by
      unfold length
      split
      · exact le_rfl
      · exact (arc.finish - arc.start).isLt.le
    rw [isReached, add_sub_cancel_left, Fin.val_ofNat,
      Nat.mod_eq_of_lt (few.trans_le bounded)]
    exact few
  · intro few
    refine ⟨_, few, ?_⟩
    rw [Fin.ofNat_val_eq_self, add_sub_cancel]

omit [NeZero size] in
/-- The distance from one point to another. -/
theorem val_sub
    (first second : Fin size) :
    (first - second).val =
      if second ≤ first then first.val - second.val
      else size + first.val - second.val := by
  by_cases notBelow : second ≤ first
  · rw [if_pos notBelow]
    exact Fin.sub_val_of_le notBelow
  · rw [if_neg notBelow]
    exact Fin.coe_sub_iff_lt.mpr (not_le.mp notBelow)

/-- An arc lies between its ends, or around them. -/
theorem mem_points_iff_between :
    point ∈ arc.points ↔
      if arc.start < arc.finish then
        arc.start ≤ point ∧ point < arc.finish
      else arc.start ≤ point ∨ point < arc.finish := by
  rw [mem_points_iff, length, val_sub, val_sub]
  have startSmall := arc.start.isLt
  have finishSmall := arc.finish.isLt
  have pointSmall := point.isLt
  simp only [Fin.le_def, Fin.lt_def, Fin.ext_iff]
  split_ifs <;> omega

instance : Decidable (point ∈ arc.points) :=
  decidable_of_iff _ mem_points_iff_between.symm

/-- An arc is split at a point in its interior. -/
theorem mem_points_split
    {middle : Fin size}
    (isInside : middle ∈ arc.points)
    (notStart : middle ≠ arc.start) :
    point ∈ arc.points ↔
      point ∈ points ⟨arc.start, middle⟩ ∨
        point ∈ points ⟨middle, arc.finish⟩ := by
  rw [mem_points_iff_between] at isInside
  rw [mem_points_iff_between, mem_points_iff_between,
    mem_points_iff_between]
  simp only [Fin.le_def, Fin.lt_def, ne_eq, Fin.ext_iff] at *
  split_ifs at * <;> omega

/-- An arc over the zero of the circle is split there. -/
theorem mem_points_overZero
    (isOver : arc.finish < arc.start)
    (notZero : arc.finish ≠ 0) :
    point ∈ arc.points ↔
      point ∈ points ⟨arc.start, 0⟩ ∨
        point ∈ points ⟨0, arc.finish⟩ := by
  have positive : (0 : Fin size) < arc.finish :=
    Fin.pos_iff_ne_zero.mpr notZero
  apply mem_points_split
  · rw [mem_points_iff_between, if_neg isOver.not_gt]
    exact .inr positive
  · exact (positive.trans isOver).ne

end Arc

/-- The points of some arc. -/
def covered (arcs : List (Arc size)) : Set (Fin size) :=
  {point | ∃ arc ∈ arcs, point ∈ arc.points}

/-- Two ways of writing the same arcs. -/
inductive Rearranged : List (Arc size) → List (Arc size) → Prop
  | reordered {arcs others : List (Arc size)} :
      arcs.Perm others → Rearranged arcs others
  | duplicated {arc : Arc size} {arcs : List (Arc size)} :
      arc ∈ arcs → Rearranged arcs (arc :: arcs)
  /-- Every point of the new arc is on some other arc already. -/
  | overlapped {arc : Arc size} {arcs : List (Arc size)} :
      arc.points ⊆ covered arcs → Rearranged arcs (arc :: arcs)
  | split
      {arc : Arc size}
      {arcs : List (Arc size)}
      {middle : Fin size} :
      middle ∈ arc.points →
      middle ≠ arc.start →
      Rearranged (arc :: arcs)
        (⟨arc.start, middle⟩ :: ⟨middle, arc.finish⟩ :: arcs)
  | overZero {arc : Arc size} {arcs : List (Arc size)} :
      arc.finish < arc.start →
      arc.finish ≠ 0 →
      Rearranged (arc :: arcs)
        (⟨arc.start, 0⟩ :: ⟨0, arc.finish⟩ :: arcs)
  | symm {arcs others : List (Arc size)} :
      Rearranged arcs others → Rearranged others arcs
  | trans {arcs others further : List (Arc size)} :
      Rearranged arcs others →
      Rearranged others further →
      Rearranged arcs further

variable
  {arcs others : List (Arc size)}
  {arc : Arc size}
  {point : Fin size}

instance : Decidable (point ∈ covered arcs) :=
  inferInstanceAs (Decidable (∃ arc ∈ arcs, point ∈ arc.points))

@[simp] theorem mem_covered_nil :
    point ∉ covered ([] : List (Arc size)) := by
  simp [covered]

@[simp] theorem mem_covered_cons :
    point ∈ covered (arc :: arcs) ↔
      point ∈ arc.points ∨ point ∈ covered arcs := by
  simp [covered]

/-- Arcs cover the same points however they are written. -/
theorem Rearranged.mem_covered_iff
    (rearranged : Rearranged arcs others) :
    point ∈ covered arcs ↔ point ∈ covered others := by
  induction rearranged with
  | reordered isPerm =>
      simp only [covered, Set.mem_ofPred_eq, isPerm.mem_iff]
  | duplicated isMember =>
      rw [mem_covered_cons]
      exact
        ⟨.inr, fun isEither =>
          isEither.elim (fun inside => ⟨_, isMember, inside⟩) id⟩
  | overlapped isCovered =>
      rw [mem_covered_cons]
      exact ⟨.inr, fun isEither => isEither.elim (@isCovered _) id⟩
  | split isInside notStart =>
      rw [mem_covered_cons, mem_covered_cons, mem_covered_cons,
        Arc.mem_points_split isInside notStart, or_assoc]
  | overZero isOver notZero =>
      rw [mem_covered_cons, mem_covered_cons, mem_covered_cons,
        Arc.mem_points_overZero isOver notZero, or_assoc]
  | symm _ inductionHypothesis =>
      exact inductionHypothesis.symm
  | trans _ _ firstHypothesis secondHypothesis =>
      exact firstHypothesis.trans secondHypothesis

end CircularArcs
