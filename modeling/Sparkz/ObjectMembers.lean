import Sparkz.InsertionMap

namespace InsertionMap

/-!
# Objects from their members

An object literal sets its members in turn, so a later member of the same name
replaces the value of an earlier one and keeps its place.
-/

variable {κ β γ : Type} [DecidableEq κ]

/-- The object that sets members in turn. -/
def assign (members : List (κ × β)) : List (κ × β) :=
  build (fun member => some member.1) (fun member _ => member.2) members

theorem assign_nodup (members : List (κ × β)) :
    ((assign members).map Prod.fst).Nodup :=
  build_nodup _ _ members

/-- The last member of a name is the one that counts. -/
theorem get?_assign (members : List (κ × β)) (key : κ) :
    get? key (assign members) =
      ((members.filter (·.1 = key)).getLast?).map Prod.snd := by
  unfold assign
  rw [get?_build]
  simp only [Option.some.injEq]
  induction members.filter (·.1 = key) using List.reverseRecOn with
  | nil =>
      rfl
  | append_singleton items item _ =>
      simp [folded]

/-- Where every key stands once, at most one entry has a given key. -/
theorem filter_key
    {entries : List (κ × β)}
    (distinct : (entries.map Prod.fst).Nodup)
    (key : κ) :
    entries.filter (·.1 = key) =
      ((get? key entries).map fun value => (key, value)).toList := by
  induction entries with
  | nil =>
      rfl
  | cons entry rest inductionHypothesis =>
      obtain ⟨first, value⟩ := entry
      rw [List.map_cons, List.nodup_cons] at distinct
      have known := inductionHypothesis distinct.2
      by_cases same : first = key
      · subst same
        have absent : get? first rest = none :=
          get?_eq_none.mpr distinct.1
        rw [absent] at known
        simp [get?, known]
      · simp [get?, same, known]

/-- Members picked one by one are found under the keys they had. -/
theorem get?_assign_filterMap
    {entries : List (κ × β)}
    (distinct : (entries.map Prod.fst).Nodup)
    (pick : κ × β → Option (κ × γ))
    {key : κ}
    (own :
      ∀ entry member,
        pick entry = some member → member.1 = key → entry.1 = key) :
    get? key (assign (entries.filterMap pick)) =
      (get? key entries).bind fun value =>
        ((pick (key, value)).filter (·.1 = key)).map Prod.snd := by
  have picked :
      (entries.filterMap pick).filter (·.1 = key) =
        (entries.filter (·.1 = key)).filterMap fun entry =>
          (pick entry).filter (·.1 = key) := by
    rw [List.filter_filterMap, List.filterMap_filter]
    apply List.filterMap_congr
    intro entry _
    cases isPicked : pick entry with
    | none =>
        simp
    | some member =>
        by_cases isKey : member.1 = key
        · simp [own entry member isPicked isKey]
        · simp [isKey]
  rw [get?_assign, picked, filter_key distinct]
  cases get? key entries with
  | none =>
      rfl
  | some value =>
      cases isPicked : (pick (key, value)).filter (·.1 = key) with
      | none =>
          simp [isPicked]
      | some member =>
          simp [isPicked]

theorem get?_map (change : β → γ) (entries : List (κ × β)) (key : κ) :
    get? key (entries.map fun entry => (entry.1, change entry.2)) =
      (get? key entries).map change := by
  induction entries with
  | nil =>
      rfl
  | cons entry rest inductionHypothesis =>
      simp only [List.map_cons, get?, inductionHypothesis]
      split
      · rfl
      · rfl

/-- Two maps with the same values have the same entries, in some order. -/
theorem perm_of_get?
    {left right : List (κ × β)}
    (leftDistinct : (left.map Prod.fst).Nodup)
    (rightDistinct : (right.map Prod.fst).Nodup)
    (same : ∀ key, get? key left = get? key right) :
    left.Perm right := by
  rw [List.perm_ext_iff_of_nodup leftDistinct.of_map rightDistinct.of_map]
  rintro ⟨key, value⟩
  rw [mem_iff_get? leftDistinct, mem_iff_get? rightDistinct, same key]

end InsertionMap
