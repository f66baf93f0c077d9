import Mathlib.Data.List.Induction
import Mathlib.Data.List.Nodup
import Mathlib.Data.List.Perm.Basic

namespace InsertionMap

/-!
# Maps that keep the order of insertion

A map is a list of entries in the order in which their keys were first set.
Building a map from a list of items folds the items of each key into the value
of that key, whatever stands between them.
-/

variable {κ α β γ : Type} [DecidableEq κ]

/-- `map.get(key)`. -/
def get? (key : κ) : List (κ × β) → Option β
  | [] => none
  | (first, value) :: rest =>
      if first = key then some value else get? key rest

/-- `map.set(key, change(map.get(key)))`. -/
def update
    (key : κ)
    (change : Option β → β) :
    List (κ × β) → List (κ × β)
  | [] => [(key, change none)]
  | (first, value) :: rest =>
      if first = key then
        (first, change (some value)) :: rest
      else
        (first, value) :: update key change rest

/-- Set the entry of each item in turn; an item may have no key. -/
def build
    (key : α → Option κ)
    (change : α → Option β → β)
    (items : List α) :
    List (κ × β) :=
  items.foldl
    (fun entries item =>
      match key item with
      | none => entries
      | some itemKey => update itemKey (change item) entries) []

/-- The value that items of one key leave. -/
def folded (change : α → Option β → β) (items : List α) : Option β :=
  items.foldl (fun value item => some (change item value)) none

/-- The items of each key, in their order. -/
def groupBy
    (key : α → Option κ)
    (items : List α) :
    List (κ × List α) :=
  build key (fun item group => group.getD [] ++ [item]) items

/-! ## One update -/

theorem keys_update
    (key : κ)
    (change : Option β → β)
    (entries : List (κ × β)) :
    (update key change entries).map Prod.fst =
      if key ∈ entries.map Prod.fst then entries.map Prod.fst
      else entries.map Prod.fst ++ [key] := by
  induction entries with
  | nil =>
      rfl
  | cons entry rest inductionHypothesis =>
      obtain ⟨first, value⟩ := entry
      by_cases same : first = key
      · simp [update, same]
      · have different : key ≠ first := Ne.symm same
        simp only [update, same, if_false, List.map_cons,
          inductionHypothesis, List.mem_cons, different, false_or]
        split
        · rfl
        · rfl

theorem update_nodup
    {key : κ}
    {change : Option β → β}
    {entries : List (κ × β)}
    (distinct : (entries.map Prod.fst).Nodup) :
    ((update key change entries).map Prod.fst).Nodup := by
  rw [keys_update]
  split
  · exact distinct
  · rename_i fresh
    rw [List.nodup_append]
    refine ⟨distinct, List.nodup_singleton _, ?_⟩
    intro present member other isKey
    rw [List.mem_singleton] at isKey
    rintro rfl
    exact fresh (isKey ▸ member)

/-- An update changes the value of its key and no other. -/
theorem get?_update
    (key query : κ)
    (change : Option β → β)
    (entries : List (κ × β)) :
    get? query (update key change entries) =
      if query = key then some (change (get? key entries))
      else get? query entries := by
  induction entries with
  | nil =>
      by_cases same : query = key
      · simp [update, get?, same]
      · simp [update, get?, same, Ne.symm same]
  | cons entry rest inductionHypothesis =>
      obtain ⟨first, value⟩ := entry
      by_cases isFirst : first = key
      · subst isFirst
        by_cases same : query = first
        · simp [update, get?, same]
        · simp [update, get?, same, Ne.symm same]
      · simp only [update, isFirst, if_false, get?, inductionHypothesis]
        by_cases isQuery : first = query
        · have other : query ≠ key := isQuery ▸ isFirst
          simp [isQuery, other]
        · simp [isQuery]

theorem get?_eq_none
    {key : κ}
    {entries : List (κ × β)} :
    get? key entries = none ↔ key ∉ entries.map Prod.fst := by
  induction entries with
  | nil =>
      simp [get?]
  | cons entry rest inductionHypothesis =>
      obtain ⟨first, value⟩ := entry
      by_cases same : first = key
      · simp [get?, same]
      · simp [get?, same, inductionHypothesis, Ne.symm same]

/-- Where every key stands once, its entry is what is found under it. -/
theorem mem_iff_get?
    {key : κ}
    {value : β}
    {entries : List (κ × β)}
    (distinct : (entries.map Prod.fst).Nodup) :
    (key, value) ∈ entries ↔ get? key entries = some value := by
  induction entries with
  | nil =>
      simp [get?]
  | cons entry rest inductionHypothesis =>
      obtain ⟨first, present⟩ := entry
      rw [List.map_cons, List.nodup_cons] at distinct
      have known := inductionHypothesis distinct.2
      by_cases same : first = key
      · subst same
        have absent : (first, value) ∉ rest := by
          intro member
          exact distinct.1 (List.mem_map.mpr ⟨_, member, rfl⟩)
        simp [get?, absent, eq_comm]
      · simp [get?, same, known, Ne.symm same]

/-! ## Whole maps -/

variable (key : α → Option κ) (change : α → Option β → β)

theorem build_concat (items : List α) (item : α) :
    build key change (items ++ [item]) =
      match key item with
      | none => build key change items
      | some itemKey =>
          update itemKey (change item) (build key change items) := by
  simp [build]

theorem build_nodup (items : List α) :
    ((build key change items).map Prod.fst).Nodup := by
  induction items using List.reverseRecOn with
  | nil =>
      exact List.nodup_nil
  | append_singleton items item inductionHypothesis =>
      rw [build_concat]
      cases key item with
      | none =>
          exact inductionHypothesis
      | some itemKey =>
          exact update_nodup inductionHypothesis

/-- The value of a key is what its own items leave. -/
theorem get?_build (items : List α) (query : κ) :
    get? query (build key change items) =
      folded change (items.filter (key · = some query)) := by
  induction items using List.reverseRecOn with
  | nil =>
      rfl
  | append_singleton items item inductionHypothesis =>
      rw [build_concat, List.filter_append]
      cases isKey : key item with
      | none =>
          simp [isKey, inductionHypothesis]
      | some itemKey =>
          simp only [get?_update, inductionHypothesis]
          by_cases same : query = itemKey
          · subst same
            simp [isKey, inductionHypothesis, folded]
          · simp [isKey, same, Ne.symm same]

theorem mem_build {items : List α} {query : κ} {value : β} :
    (query, value) ∈ build key change items ↔
      folded change (items.filter (key · = some query)) = some value := by
  rw [mem_iff_get? (build_nodup key change items), get?_build]

omit [DecidableEq κ] in
theorem folded_eq_none {items : List α} :
    folded change items = none ↔ items = [] := by
  induction items using List.reverseRecOn with
  | nil =>
      simp [folded]
  | append_singleton items item _ =>
      simp [folded]

/-- The keys are those of the items. -/
theorem mem_keys_build {items : List α} {query : κ} :
    query ∈ (build key change items).map Prod.fst ↔
      ∃ item ∈ items, key item = some query := by
  have found := get?_build key change items query
  rw [← not_iff_not, ← get?_eq_none, found, folded_eq_none,
    List.filter_eq_nil_iff]
  simp

/-- Items in another order are folded under the same keys. -/
theorem keys_build_perm
    {items reordered : List α}
    (permuted : items.Perm reordered) :
    ((build key change items).map Prod.fst).Perm
      ((build key change reordered).map Prod.fst) := by
  rw [List.perm_ext_iff_of_nodup (build_nodup key change items)
    (build_nodup key change reordered)]
  intro query
  rw [mem_keys_build, mem_keys_build]
  simp [permuted.mem_iff]

/-- The values are what the items of each key leave. -/
theorem build_values (items : List α) :
    (build key change items).map Prod.snd =
      ((build key change items).map Prod.fst).filterMap fun query =>
        folded change (items.filter (key · = some query)) := by
  rw [List.filterMap_map, ← List.filterMap_eq_map]
  apply List.filterMap_congr
  rintro ⟨query, value⟩ member
  exact ((mem_build key change).mp member).symm

theorem build_values_perm
    {items reordered : List α}
    (permuted : items.Perm reordered)
    (same :
      ∀ query,
        folded change (items.filter (key · = some query)) =
          folded change (reordered.filter (key · = some query))) :
    ((build key change items).map Prod.snd).Perm
      ((build key change reordered).map Prod.snd) := by
  rw [build_values, build_values]
  have values :
      (fun query => folded change (items.filter (key · = some query))) =
        fun query =>
          folded change (reordered.filter (key · = some query)) :=
    funext same
  rw [values]
  exact (keys_build_perm key change permuted).filterMap _

/-! ## Groups -/

/-- The group of a key holds its items and nothing else. -/
theorem folded_group (items : List α) :
    folded (fun item group => group.getD [] ++ [item]) items =
      if items = [] then none else some items := by
  induction items using List.reverseRecOn with
  | nil =>
      rfl
  | append_singleton items item inductionHypothesis =>
      have step :
          folded (fun item (group : Option (List α)) =>
              group.getD [] ++ [item]) (items ++ [item]) =
            some
              ((folded (fun item (group : Option (List α)) =>
                  group.getD [] ++ [item]) items).getD [] ++ [item]) := by
        simp [folded]
      rw [step, inductionHypothesis]
      by_cases empty : items = []
      · simp [empty]
      · simp [empty]

theorem groupBy_nodup (items : List α) :
    ((groupBy key items).map Prod.fst).Nodup :=
  build_nodup _ _ items

theorem mem_groupBy {items : List α} {query : κ} {group : List α} :
    (query, group) ∈ groupBy key items ↔
      group = items.filter (key · = some query) ∧ group ≠ [] := by
  unfold groupBy
  rw [mem_build, folded_group]
  constructor
  · intro found
    split at found
    · cases found
    · rename_i some
      cases found
      exact ⟨rfl, some⟩
  · rintro ⟨rfl, some⟩
    rw [if_neg some]

/-- Every group is what its key picks out of the items. -/
theorem groupBy_eq_map (items : List α) :
    groupBy key items =
      ((groupBy key items).map Prod.fst).map fun query =>
        (query, items.filter (key · = some query)) := by
  have same :
      (groupBy key items).map
          ((fun query => (query, items.filter (key · = some query))) ∘
            Prod.fst) =
        (groupBy key items).map id := by
    apply List.map_congr_left
    rintro ⟨query, group⟩ member
    rw [mem_groupBy] at member
    simp [member.1]
  rw [List.map_map, same, List.map_id]

theorem groupBy_flatMap
    (items : List α)
    (make : κ × List α → List γ) :
    (groupBy key items).flatMap make =
      ((groupBy key items).map Prod.fst).flatMap fun query =>
        make (query, items.filter (key · = some query)) := by
  conv_lhs => rw [groupBy_eq_map]
  rw [List.flatMap_map]

/-- What is made of every group is the same for items in another order. -/
theorem groupBy_flatMap_perm
    {items reordered : List α}
    {make remake : κ × List α → List γ}
    (permuted : items.Perm reordered)
    (same :
      ∀ query,
        (make (query, items.filter (key · = some query))).Perm
          (remake (query, reordered.filter (key · = some query)))) :
    ((groupBy key items).flatMap make).Perm
      ((groupBy key reordered).flatMap remake) := by
  rw [groupBy_flatMap, groupBy_flatMap]
  exact
    (keys_build_perm key _ permuted).flatMap fun query _ => same query

theorem groupBy_map_perm
    {items reordered : List α}
    {make remake : κ × List α → γ}
    (permuted : items.Perm reordered)
    (same :
      ∀ query,
        make (query, items.filter (key · = some query)) =
          remake (query, reordered.filter (key · = some query))) :
    ((groupBy key items).map make).Perm
      ((groupBy key reordered).map remake) := by
  have pointwise :
      ((groupBy key items).flatMap fun entry => [make entry]).Perm
        ((groupBy key reordered).flatMap fun entry => [remake entry]) :=
    groupBy_flatMap_perm key permuted fun query => by rw [same query]
  simpa only [List.map_eq_flatMap] using pointwise

omit [DecidableEq κ] in
/-- Where only one key yields anything, its entry yields everything. -/
theorem flatMap_of_key
    {query : κ}
    {value : β}
    {entries : List (κ × β)}
    {make : κ × β → List γ}
    (distinct : (entries.map Prod.fst).Nodup)
    (member : (query, value) ∈ entries)
    (elsewhere :
      ∀ entry ∈ entries, entry.1 ≠ query → make entry = []) :
    entries.flatMap make = make (query, value) := by
  induction entries with
  | nil =>
      cases member
  | cons entry rest inductionHypothesis =>
      rw [List.map_cons, List.nodup_cons] at distinct
      rw [List.flatMap_cons]
      rcases List.mem_cons.mp member with isFirst | later
      · subst isFirst
        have nothing : rest.flatMap make = [] := by
          rw [List.flatMap_eq_nil_iff]
          intro other isOther
          refine
            elsewhere other (List.mem_cons_of_mem _ isOther) ?_
          rintro rfl
          exact distinct.1 (List.mem_map.mpr ⟨_, isOther, rfl⟩)
        rw [nothing, List.append_nil]
      · have different : entry.1 ≠ query := by
          rintro rfl
          exact distinct.1 (List.mem_map.mpr ⟨_, later, rfl⟩)
        rw [elsewhere entry List.mem_cons_self different, List.nil_append]
        exact
          inductionHypothesis distinct.2 later fun other isOther =>
            elsewhere other (List.mem_cons_of_mem _ isOther)

end InsertionMap
