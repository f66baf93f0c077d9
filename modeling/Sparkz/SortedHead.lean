import Mathlib.Data.List.Sort

namespace SortedHead

/-!
# The head of a sorted list

Sorting by a relation that orders the elements of a list puts a least element
first.  The relation needs to be an order on these elements only, and where it
tells any two of them apart the head does not depend on their first order.
-/

variable {α : Type} {precedes : α → α → Prop} {items : List α}

/-- A relation that orders the elements of a list. -/
structure Orders (precedes : α → α → Prop) (items : List α) : Prop where
  total :
    ∀ left ∈ items, ∀ right ∈ items,
      precedes left right ∨ precedes right left
  trans :
    ∀ left ∈ items, ∀ middle ∈ items, ∀ right ∈ items,
      precedes left middle →
      precedes middle right →
      precedes left right
  antisymm :
    ∀ left ∈ items, ∀ right ∈ items,
      precedes left right →
      precedes right left →
      left = right

theorem Orders.subset
    {larger : List α}
    (orders : Orders precedes larger)
    (contained : items ⊆ larger) :
    Orders precedes items where
  total := by
    intro left isLeft right isRight
    exact orders.total left (contained isLeft) right (contained isRight)
  trans := by
    intro left isLeft middle isMiddle right isRight
    exact
      orders.trans left (contained isLeft) middle (contained isMiddle)
        right (contained isRight)
  antisymm := by
    intro left isLeft right isRight
    exact
      orders.antisymm left (contained isLeft) right (contained isRight)

variable [DecidableRel precedes]

theorem mem_of_head?_sort
    {first : α}
    (isFirst : (items.insertionSort precedes).head? = some first) :
    first ∈ items :=
  (List.mem_insertionSort precedes).mp (List.mem_of_head? isFirst)

theorem head?_sort_eq_none :
    (items.insertionSort precedes).head? = none ↔ items = [] := by
  rw [List.head?_eq_none_iff, ← List.length_eq_zero_iff,
    List.length_insertionSort, List.length_eq_zero_iff]

/-- The head stands before every other element. -/
theorem Orders.head_precedes
    (orders : Orders precedes items)
    {first : α}
    (isFirst : (items.insertionSort precedes).head? = some first) :
    ∀ item ∈ items, precedes first item := by
  -- Sorting works on the elements alone, so they are sorted as a subtype.
  let within : { item // item ∈ items } → { item // item ∈ items } → Prop :=
    fun left right => precedes left.val right.val
  have isTotal : Std.Total within :=
    ⟨fun left right =>
      orders.total left.val left.property right.val right.property⟩
  have isTrans : IsTrans _ within :=
    ⟨fun left middle right =>
      orders.trans left.val left.property middle.val middle.property
        right.val right.property⟩
  have attached :
      (items.attach.insertionSort within).map Subtype.val =
        items.insertionSort precedes := by
    rw [List.map_insertionSort (s := precedes) within Subtype.val _
      fun _ _ _ _ => Iff.rfl, List.attach_map_subtype_val]
  have pairwise :
      (items.insertionSort precedes).Pairwise precedes := by
    rw [← attached, List.pairwise_map]
    exact List.pairwise_insertionSort within items.attach
  intro item member
  have sortedMember := (List.mem_insertionSort precedes).mpr member
  cases sortedItems : items.insertionSort precedes with
  | nil =>
      simp [sortedItems] at isFirst
  | cons head rest =>
      rw [sortedItems] at isFirst pairwise sortedMember
      cases isFirst
      rcases List.mem_cons.mp sortedMember with rfl | later
      · exact (orders.total item member item member).elim id id
      · exact (List.pairwise_cons.mp pairwise).1 item later

/-- The head is the same whatever order the elements come in. -/
theorem Orders.head_perm
    (orders : Orders precedes items)
    {reordered : List α}
    (permuted : items.Perm reordered) :
    (items.insertionSort precedes).head? =
      (reordered.insertionSort precedes).head? := by
  have reorders : Orders precedes reordered :=
    orders.subset permuted.symm.subset
  cases isFirst : (items.insertionSort precedes).head? with
  | none =>
      have empty := head?_sort_eq_none.mp isFirst
      subst empty
      rw [List.nil_perm] at permuted
      subst permuted
      exact isFirst.symm
  | some first =>
      cases isOther : (reordered.insertionSort precedes).head? with
      | none =>
          have empty := head?_sort_eq_none.mp isOther
          subst empty
          rw [List.perm_nil] at permuted
          subst permuted
          simp at isFirst
      | some other =>
          have isMember := mem_of_head?_sort isFirst
          have otherMember := permuted.symm.subset (mem_of_head?_sort isOther)
          have same : first = other :=
            orders.antisymm first isMember other otherMember
              (orders.head_precedes isFirst other otherMember)
              (reorders.head_precedes isOther first
                (permuted.subset isMember))
          rw [same]

end SortedHead
