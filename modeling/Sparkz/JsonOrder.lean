import Sparkz.JsonText

namespace JsonText

/-!
# The order of fields

A tree stands for the same value in whatever order the fields of its objects
are written.  Sorting the fields picks one of these trees, so two trees have
the same text exactly when they differ in the order of fields alone.
-/

variable {ν τ : Type}

/-- No object of the tree has two fields of one key. -/
inductive Json.Keyed : Json ν τ → Prop where
  | null : Keyed .null
  | bool (flag : Bool) : Keyed (.bool flag)
  | number (shown : ν) : Keyed (.number shown)
  | text (shown : τ) : Keyed (.text shown)
  | array
      {items : List (Json ν τ)}
      (keyed : ∀ item ∈ items, Keyed item) :
      Keyed (.array items)
  | object
      {fields : List (τ × Json ν τ)}
      (distinct : (fields.map Prod.fst).Nodup)
      (keyed : ∀ field ∈ fields, Keyed field.2) :
      Keyed (.object fields)

/-- A JSON value: a tree whose objects have each key once. -/
structure JsonValue (ν : Type) (τ : Type := String) where
  tree : Json ν τ
  keyed : tree.Keyed

/-- Trees that are equal up to the order of the fields of their objects. -/
inductive Reordered : Json ν τ → Json ν τ → Prop where
  | refl (value : Json ν τ) : Reordered value value
  | trans
      {first second third : Json ν τ}
      (before : Reordered first second)
      (after : Reordered second third) :
      Reordered first third
  | order
      {fields others : List (τ × Json ν τ)}
      (permuted : fields.Perm others) :
      Reordered (.object fields) (.object others)
  | item
      {first second : Json ν τ}
      (before after : List (Json ν τ))
      (reordered : Reordered first second) :
      Reordered
        (.array (before ++ first :: after))
        (.array (before ++ second :: after))
  | field
      {first second : Json ν τ}
      (key : τ)
      (before after : List (τ × Json ν τ))
      (reordered : Reordered first second) :
      Reordered
        (.object (before ++ (key, first) :: after))
        (.object (before ++ (key, second) :: after))

/-! ## Entries of distinct keys -/

section Entries

variable {α : Type} {fields others : List (τ × α)}

/-- A key that is there once has one value. -/
theorem eq_of_key
    (distinct : (fields.map Prod.fst).Nodup)
    {first second : τ × α}
    (isFirst : first ∈ fields)
    (isSecond : second ∈ fields)
    (sameKey : first.1 = second.1) :
    first = second :=
  List.inj_on_of_nodup_map distinct isFirst isSecond sameKey

/-- Permuted entries of the same distinct keys in order are the same. -/
theorem eq_of_perm_of_keys
    (sameKeys : fields.map Prod.fst = others.map Prod.fst)
    (distinct : (fields.map Prod.fst).Nodup)
    (permuted : fields.Perm others) :
    fields = others := by
  induction fields generalizing others with
  | nil =>
      exact permuted.nil_eq
  | cons field fields inductionHypothesis =>
      rcases others with _ | ⟨other, others⟩
      · cases sameKeys
      · obtain ⟨sameKey, sameRest⟩ := List.cons.inj sameKeys
        obtain ⟨notLater, distinctRest⟩ := List.nodup_cons.mp distinct
        have isFirst : field = other := by
          rcases List.mem_cons.mp
              (permuted.mem_iff.mp List.mem_cons_self) with
            isOther | later
          · exact isOther
          · have isKey : field.1 ∈ others.map Prod.fst :=
              List.mem_map_of_mem later
            exact absurd (sameRest ▸ isKey) notLater
        subst isFirst
        rw [inductionHypothesis sameRest distinctRest permuted.cons_inv]

end Entries

/-! ## Sorting by key -/

open Utf16

section Sorting

variable [Utf16Text τ] {α : Type} {fields others : List (τ × α)}

instance : Std.Total (@KeyOrder τ _ α) where
  total first second :=
    le_total (Utf16Text.units first.1) (Utf16Text.units second.1)

instance : IsTrans (τ × α) KeyOrder where
  trans _ _ _ before after := le_trans before after

/-- Fields that come before each other have the same key. -/
theorem KeyOrder.antisymm
    {first second : τ × α}
    (before : KeyOrder first second)
    (after : KeyOrder second first) :
    first.1 = second.1 :=
  Utf16Text.units_injective (le_antisymm before after)

/-- Sorted fields stay where they are. -/
theorem byKey_byKey : byKey (byKey fields) = byKey fields :=
  (List.pairwise_insertionSort KeyOrder fields).insertionSort_eq

/-- The order in which fields of distinct keys are sorted does not matter. -/
theorem byKey_eq_of_perm
    (distinct : (fields.map Prod.fst).Nodup)
    (permuted : fields.Perm others) :
    byKey fields = byKey others := by
  apply @List.Perm.eq_of_pairwise _ KeyOrder
  · intro first second isFirst isSecond before after
    have inFields : first ∈ fields :=
      (List.mem_insertionSort _).mp isFirst
    have inOthers : second ∈ others :=
      (List.mem_insertionSort _).mp isSecond
    exact
      eq_of_key distinct inFields (permuted.mem_iff.mpr inOthers)
        (KeyOrder.antisymm before after)
  · exact List.pairwise_insertionSort KeyOrder fields
  · exact List.pairwise_insertionSort KeyOrder others
  · exact
      (List.perm_insertionSort KeyOrder fields).trans
        (permuted.trans (List.perm_insertionSort KeyOrder others).symm)

end Sorting

/-! ## Values that are equal up to the order of fields -/

variable {first second : Json ν τ}

namespace Reordered

theorem symm (reordered : Reordered first second) :
    Reordered second first := by
  induction reordered with
  | refl value =>
      exact .refl value
  | trans _ _ before after =>
      exact .trans after before
  | order permuted =>
      exact .order permuted.symm
  | item before after _ inductionHypothesis =>
      exact .item before after inductionHypothesis
  | field key before after _ inductionHypothesis =>
      exact .field key before after inductionHypothesis

/-- The items of a list are reordered one after the other. -/
theorem items
    {change : Json ν τ → Json ν τ}
    {items : List (Json ν τ)}
    (before : List (Json ν τ))
    (reordered : ∀ item ∈ items, Reordered item (change item)) :
    Reordered
      (.array (before ++ items))
      (.array (before ++ items.map change)) := by
  induction items generalizing before with
  | nil =>
      exact .refl _
  | cons item items inductionHypothesis =>
      have isFirst :=
        Reordered.item before items (reordered item List.mem_cons_self)
      have isRest :=
        inductionHypothesis (before ++ [change item]) fun later member =>
          reordered later (List.mem_cons_of_mem _ member)
      simp only [List.append_assoc, List.cons_append,
        List.nil_append] at isRest
      exact isFirst.trans isRest

/-- The values of an object are reordered one after the other. -/
theorem fields
    {change : Json ν τ → Json ν τ}
    {fields : List (τ × Json ν τ)}
    (before : List (τ × Json ν τ))
    (reordered :
      ∀ field ∈ fields, Reordered field.2 (change field.2)) :
    Reordered
      (.object (before ++ fields))
      (.object
        (before ++ fields.map fun field => (field.1, change field.2))) := by
  induction fields generalizing before with
  | nil =>
      exact .refl _
  | cons field fields inductionHypothesis =>
      obtain ⟨key, value⟩ := field
      have isFirst :=
        Reordered.field key before fields
          (reordered (key, value) List.mem_cons_self)
      have isRest :=
        inductionHypothesis (before ++ [(key, change value)])
          fun later member =>
            reordered later (List.mem_cons_of_mem _ member)
      simp only [List.append_assoc, List.cons_append,
        List.nil_append] at isRest
      exact isFirst.trans isRest

variable [Utf16Text τ]

/-- Sorting the fields reorders them. -/
theorem canonical (value : Json ν τ) :
    Reordered value (JsonText.canonical value) := by
  induction value using Json.inductionOn with
  | null =>
      exact .refl _
  | bool flag =>
      exact .refl _
  | number shown =>
      exact .refl _
  | text shown =>
      exact .refl _
  | array items inductionHypothesis =>
      have reordered := Reordered.items [] inductionHypothesis
      simpa [JsonText.canonical, canonicalItems_eq] using reordered
  | object fields inductionHypothesis =>
      have reordered := Reordered.fields [] inductionHypothesis
      rw [JsonText.canonical, canonicalFields_eq]
      exact
        reordered.trans
          (.order (List.perm_insertionSort KeyOrder _).symm)

/-- A reordered tree has each key once, and the same sorted tree. -/
theorem canonical_eq
    (reordered : Reordered first second)
    (keyed : first.Keyed) :
    second.Keyed ∧
      JsonText.canonical first = JsonText.canonical second := by
  induction reordered with
  | refl value =>
      exact ⟨keyed, rfl⟩
  | trans _ _ before after =>
      obtain ⟨isKeyed, sameFirst⟩ := before keyed
      obtain ⟨alsoKeyed, sameSecond⟩ := after isKeyed
      exact ⟨alsoKeyed, sameFirst.trans sameSecond⟩
  | order permuted =>
      rcases keyed with _ | _ | _ | _ | _ | ⟨distinct, keyed⟩
      refine ⟨.object ?_ fun field member => ?_, ?_⟩
      · exact (permuted.map Prod.fst).nodup_iff.mp distinct
      · exact keyed field (permuted.mem_iff.mpr member)
      · simp only [JsonText.canonical, canonicalFields_eq,
          Json.object.injEq]
        apply byKey_eq_of_perm
        · simpa [List.map_map, Function.comp_def] using distinct
        · exact permuted.map _
  | item before after _ inductionHypothesis =>
      rcases keyed with _ | _ | _ | _ | keyed | _
      obtain ⟨isKeyed, same⟩ :=
        inductionHypothesis (keyed _ (by simp))
      refine ⟨.array fun value member => ?_, ?_⟩
      · rcases List.mem_append.mp member with inBefore | inRest
        · exact keyed value (by simp [inBefore])
        · rcases List.mem_cons.mp inRest with rfl | inAfter
          · exact isKeyed
          · exact keyed value (by simp [inAfter])
      · simp only [JsonText.canonical, canonicalItems_eq, List.map_append,
          List.map_cons, same]
  | field key before after _ inductionHypothesis =>
      rcases keyed with _ | _ | _ | _ | _ | ⟨distinct, keyed⟩
      obtain ⟨isKeyed, same⟩ :=
        inductionHypothesis (keyed (key, _) (by simp))
      refine ⟨.object ?_ fun value member => ?_, ?_⟩
      · simpa using distinct
      · rcases List.mem_append.mp member with inBefore | inRest
        · exact keyed value (by simp [inBefore])
        · rcases List.mem_cons.mp inRest with rfl | inAfter
          · exact isKeyed
          · exact keyed value (by simp [inAfter])
      · simp only [JsonText.canonical, canonicalFields_eq,
          List.map_append, List.map_cons, same]

end Reordered

variable [Utf16Text τ]

/-- Sorted trees are the same exactly for values that are the same. -/
theorem canonical_eq_iff (keyed : first.Keyed) :
    canonical first = canonical second ↔ Reordered first second := by
  constructor
  · intro same
    have reordered := Reordered.canonical first
    rw [same] at reordered
    exact reordered.trans (Reordered.canonical second).symm
  · intro reordered
    exact (reordered.canonical_eq keyed).2

/-! ## Records -/

/-- Records of the same distinct keys in order agree value by value. -/
theorem canonicalFields_eq_of_same
    {fields others : List (τ × Json ν τ)}
    (sameKeys : fields.map Prod.fst = others.map Prod.fst)
    (distinct : (fields.map Prod.fst).Nodup)
    (same : canonical (.object fields) = canonical (.object others)) :
    canonicalFields fields = canonicalFields others := by
  have keys :
      ∀ entries : List (τ × Json ν τ),
        (canonicalFields entries).map Prod.fst = entries.map Prod.fst := by
    intro entries
    rw [canonicalFields_eq, List.map_map]
    rfl
  simp only [canonical, byKey, Json.object.injEq] at same
  apply eq_of_perm_of_keys
  · rw [keys, keys, sameKeys]
  · rw [keys]
    exact distinct
  · exact
      (List.perm_insertionSort KeyOrder _).symm.trans
        (same ▸ List.perm_insertionSort KeyOrder _)

/-! ## Texts of values -/

/-- A tree and its sorted tree have the same text. -/
theorem stableSerialize_canonical (value : Json NumberText τ) :
    stableSerialize (canonical value) = stableSerialize value := by
  induction value using Json.inductionOn with
  | null => rfl
  | bool flag => rfl
  | number shown => rfl
  | text shown => rfl
  | array items inductionHypothesis =>
      simp only [canonical, stableSerialize, canonicalItems_eq,
        serializeItems_eq, List.map_map]
      congr 3
      exact List.map_congr_left inductionHypothesis
  | object fields inductionHypothesis =>
      have sameTexts :
          serializeFields (canonicalFields fields) =
            serializeFields fields := by
        simp only [serializeFields_eq, canonicalFields_eq, List.map_map]
        apply List.map_congr_left
        intro field member
        exact Prod.ext rfl (inductionHypothesis field member)
      have sorted :
          serializeFields (byKey (canonicalFields fields)) =
            byKey (serializeFields (canonicalFields fields)) := by
        rw [serializeFields_eq, serializeFields_eq, byKey_map]
      simp only [canonical, stableSerialize, sorted, byKey_byKey,
        sameTexts]

/-- Two values have one text exactly when they are the same value. -/
theorem stableSerialize_eq_iff
    {value : JsonValue NumberText τ}
    {other : Json NumberText τ} :
    stableSerialize value.tree = stableSerialize other ↔
      Reordered value.tree other := by
  rw [← canonical_eq_iff value.keyed]
  constructor
  · exact canonical_eq
  · intro same
    rw [← stableSerialize_canonical, same, stableSerialize_canonical]

end JsonText
