import Mathlib.Algebra.Ring.Nat
import Mathlib.Algebra.Order.BigOperators.Group.List
import Mathlib.Algebra.Order.Group.Nat

/-!
# Totals of the entries that count

A total over a list adds up the amounts of the entries that a condition counts.
It can only grow where an entry starts to count, and it can only shrink where
one stops.
-/

namespace CountedTotal

variable {α κ : Type*}
  {counts narrower : α → Bool}
  {amount : α → Nat}
  {entries : List α}
  {change : α → α}

/-- The sum of the amounts of the entries that count. -/
def total (counts : α → Bool) (amount : α → Nat) (entries : List α) :
    Nat :=
  ((entries.filter counts).map amount).sum

/-- What one entry adds to the total. -/
def share (counts : α → Bool) (amount : α → Nat) (entry : α) : Nat :=
  if counts entry then amount entry else 0

theorem share_le (entry : α) :
    share counts amount entry ≤ amount entry := by
  unfold share
  split
  · exact Nat.le_refl _
  · exact Nat.zero_le _

/-- An entry that counts whenever an equal one does adds no less. -/
theorem share_le_share
    {entry later : α}
    (stillCounts : counts entry = true → counts later = true)
    (sameAmount : amount later = amount entry) :
    share counts amount entry ≤ share counts amount later := by
  unfold share
  split
  · rename_i isCounted
    rw [if_pos (stillCounts isCounted), sameAmount]
  · exact Nat.zero_le _

/-- The total is the sum of the shares. -/
theorem total_eq_sum :
    total counts amount entries =
      (entries.map (share counts amount)).sum := by
  induction entries with
  | nil =>
      rfl
  | cons first rest inductionHypothesis =>
      rw [List.map_cons, List.sum_cons, ← inductionHypothesis]
      unfold total share
      cases isCounted : counts first with
      | true =>
          simp [isCounted]
      | false =>
          simp [isCounted]

/-- A new entry adds its share. -/
theorem total_append_singleton {entry : α} :
    total counts amount (entries ++ [entry]) =
      total counts amount entries + share counts amount entry := by
  simp [total_eq_sum]

/-- Where no share grows, the total does not grow. -/
theorem total_map_le
    (smaller :
      ∀ entry ∈ entries,
        share counts amount (change entry) ≤
          share narrower amount entry) :
    total counts amount (entries.map change) ≤
      total narrower amount entries := by
  rw [total_eq_sum, total_eq_sum, List.map_map]
  exact List.sum_le_sum smaller

/-- Where no share shrinks, the total does not shrink. -/
theorem le_total_map
    (larger :
      ∀ entry ∈ entries,
        share counts amount entry ≤ share counts amount (change entry)) :
    total counts amount entries ≤
      total counts amount (entries.map change) := by
  rw [total_eq_sum, total_eq_sum, List.map_map]
  exact List.sum_le_sum larger

/-- Only the entry with one key may add more than before. -/
theorem total_map_le_add
    [DecidableEq κ]
    {key : α → κ}
    {changed : κ}
    {bound : Nat}
    (distinct : entries.Pairwise fun first second =>
      key first ≠ key second)
    (atKey :
      ∀ entry ∈ entries,
        key entry = changed →
        share counts amount (change entry) ≤ bound)
    (elsewhere :
      ∀ entry ∈ entries,
        key entry ≠ changed →
        share counts amount (change entry) ≤
          share narrower amount entry) :
    total counts amount (entries.map change) ≤
      bound + total narrower amount entries := by
  rw [total_eq_sum, total_eq_sum, List.map_map]
  induction entries with
  | nil =>
      exact Nat.zero_le _
  | cons first rest inductionHypothesis =>
      rw [List.pairwise_cons] at distinct
      rw [List.map_cons, List.sum_cons, List.map_cons, List.sum_cons]
      by_cases isChanged : key first = changed
      · have smaller :
            (rest.map (share counts amount ∘ change)).sum ≤
              (rest.map (share narrower amount)).sum := by
          apply List.sum_le_sum
          intro later member
          refine elsewhere later (List.mem_cons_of_mem _ member) ?_
          intro sameKey
          exact distinct.1 later member (isChanged.trans sameKey.symm)
        have first_le :=
          atKey first List.mem_cons_self isChanged
        simp only [Function.comp] at first_le ⊢ smaller
        omega
      · have first_le :=
          elsewhere first List.mem_cons_self isChanged
        have rest_le :=
          inductionHypothesis distinct.2
            (fun later member =>
              atKey later (List.mem_cons_of_mem _ member))
            (fun later member =>
              elsewhere later (List.mem_cons_of_mem _ member))
        simp only [Function.comp] at first_le rest_le ⊢
        omega

end CountedTotal
