import Mathlib
import Sparkz.EvidenceConflicts

namespace Sparkz

open InsertionMap
open SortedHead

/-!
# Evidence totals

Every transfer counts once, the totals of an asset are the sums of the rows
that count, and the report does not depend on the order in which the rows are
read.
-/

/-! ## Sums of the rows that count -/

/-- The units of the items of one direction. -/
def sumOf
    (direction : MovementDirection)
    (items : List (RawEvidenceRow × Int)) :
    Int :=
  ((items.filter (·.1.direction = direction)).map Prod.snd).sum

/-- The totals that some items should have. -/
def exactTotals
    (asset : AdminEvidenceAsset)
    (items : List (RawEvidenceRow × Int)) :
    AdminEvidenceTotalsByAsset where
  asset := asset
  awardedSparkz := formatDecimal (sumOf .issued items) 2
  spentSparkz := formatDecimal (sumOf .returned items) 2
  netIssuedSparkz :=
    formatDecimal (sumOf .issued items - sumOf .returned items) 2

theorem unitsOrZero_formatDecimal (value : Int) :
    unitsOrZero (formatDecimal value 2) = value := by
  rw [unitsOrZero, parseDecimal_formatDecimal (by decide)]
  rfl

theorem sumOf_concat
    (direction : MovementDirection)
    (items : List (RawEvidenceRow × Int))
    (item : RawEvidenceRow × Int) :
    sumOf direction (items ++ [item]) =
      sumOf direction items +
        if item.1.direction = direction then item.2 else 0 := by
  unfold sumOf
  by_cases same : item.1.direction = direction
  · simp [same]
  · simp [same]

/-- Adding an item to exact totals leaves exact totals. -/
theorem add_exactTotals
    (asset : AdminEvidenceAsset)
    (items : List (RawEvidenceRow × Int))
    (item : RawEvidenceRow × Int) :
    AdminEvidenceTotalsByAsset.add item.1 item.2
        (some (exactTotals asset items)) =
      exactTotals asset (items ++ [item]) := by
  unfold AdminEvidenceTotalsByAsset.add exactTotals
  simp only [Option.getD_some, unitsOrZero_formatDecimal, sumOf_concat]
  cases item.1.direction with
  | issued =>
      simp [unitsOrZero_formatDecimal]
  | returned =>
      simp [unitsOrZero_formatDecimal]

theorem add_none (row : RawEvidenceRow) (amount : Int) :
    AdminEvidenceTotalsByAsset.add row amount none =
      AdminEvidenceTotalsByAsset.add row amount
        (some (exactTotals row.asset [])) :=
  rfl

/-- The items of one asset leave their exact totals. -/
theorem folded_totals
    {items : List (RawEvidenceRow × Int)}
    {asset : AdminEvidenceAsset}
    (some : items ≠ [])
    (ofAsset : ∀ item ∈ items, item.1.asset = asset) :
    folded (fun item => AdminEvidenceTotalsByAsset.add item.1 item.2)
        items =
      .some (exactTotals asset items) := by
  induction items using List.reverseRecOn with
  | nil =>
      exact absurd rfl some
  | append_singleton items item inductionHypothesis =>
      have step :
          folded (fun item => AdminEvidenceTotalsByAsset.add item.1 item.2)
              (items ++ [item]) =
            .some
              (AdminEvidenceTotalsByAsset.add item.1 item.2
                (folded
                  (fun item => AdminEvidenceTotalsByAsset.add item.1 item.2)
                  items)) := by
        simp [folded]
      rw [step]
      by_cases empty : items = []
      · subst empty
        have isAsset : item.1.asset = asset :=
          ofAsset item (by simp)
        rw [folded, List.foldl_nil, add_none, add_exactTotals, isAsset]
      · rw [inductionHypothesis empty
          fun other isOther => ofAsset other (by simp [isOther]),
          add_exactTotals]

theorem sumOf_perm
    {direction : MovementDirection}
    {items reordered : List (RawEvidenceRow × Int)}
    (permuted : items.Perm reordered) :
    sumOf direction items = sumOf direction reordered :=
  ((permuted.filter _).map Prod.snd).sum_eq

section Totals

variable {rows reordered : List RawEvidenceRow}
  {windowStart windowEnd : Int}

/-- The items of the key of an item leave the totals of its asset. -/
theorem folded_of_mem
    {items : List (RawEvidenceRow × Int)}
    {item : RawEvidenceRow × Int}
    (member : item ∈ items) :
    folded (fun item => AdminEvidenceTotalsByAsset.add item.1 item.2)
        (items.filter fun other => some other.1.key = some item.1.key) =
      some
        (exactTotals item.1.asset
          (items.filter (·.1.asset = item.1.asset))) := by
  have sameItems :
      (items.filter fun other => some other.1.key = some item.1.key) =
        items.filter (·.1.asset = item.1.asset) := by
    apply List.filter_congr
    intro other _
    rw [decide_eq_decide, Option.some.injEq]
    exact RawEvidenceRow.key_inj
  rw [sameItems]
  apply folded_totals
  · apply List.ne_nil_of_mem (a := item)
    simp [member]
  · intro other isOther
    simpa using (List.mem_filter.mp isOther).2

/-- Every entry of the totals is that of an item. -/
theorem item_of_total
    {items : List (RawEvidenceRow × Int)}
    {key : String}
    {total : AdminEvidenceTotalsByAsset}
    (member :
      (key, total) ∈
        build (fun item => some item.1.key)
          (fun item => AdminEvidenceTotalsByAsset.add item.1 item.2)
          items) :
    ∃ item ∈ items,
      item.1.key = key ∧
        total =
          exactTotals item.1.asset
            (items.filter (·.1.asset = item.1.asset)) := by
  have left := (mem_build _ _).mp member
  have someItem :
      (items.filter fun item => some item.1.key = some key) ≠ [] := by
    intro empty
    rw [empty] at left
    cases left
  obtain ⟨item, isItem⟩ := List.exists_mem_of_ne_nil _ someItem
  have both := List.mem_filter.mp isItem
  have isKey : item.1.key = key := by
    simpa using both.2
  subst isKey
  rw [folded_of_mem both.1] at left
  exact ⟨item, both.1, rfl, (Option.some.inj left).symm⟩

theorem total_of_item
    {item : RawEvidenceRow × Int}
    (member : item ∈ countedRows windowStart windowEnd rows) :
    exactTotals item.1.asset
        ((countedRows windowStart windowEnd rows).filter
          (·.1.asset = item.1.asset)) ∈
      (sourceTotals rows windowStart windowEnd).totals := by
  refine List.mem_map.mpr ⟨(item.1.key, _), ?_, rfl⟩
  exact (mem_build _ _).mpr (folded_of_mem member)

/-- The totals of an asset are exact, and some row of the asset counts. -/
theorem totals_exact
    {total : AdminEvidenceTotalsByAsset}
    (member : total ∈ (sourceTotals rows windowStart windowEnd).totals) :
    total =
        exactTotals total.asset
          ((countedRows windowStart windowEnd rows).filter
            (·.1.asset = total.asset)) ∧
      ∃ item ∈ countedRows windowStart windowEnd rows,
        item.1.asset = total.asset := by
  obtain ⟨⟨key, value⟩, isEntry, rfl⟩ := List.mem_map.mp member
  obtain ⟨item, isItem, _, exact⟩ := item_of_total isEntry
  subst exact
  exact ⟨rfl, item, isItem, rfl⟩

/-- No asset has two totals. -/
theorem totals_nodup :
    ((sourceTotals rows windowStart windowEnd).totals.map
      (·.asset)).Nodup := by
  have distinct :=
    build_nodup
      (fun item : RawEvidenceRow × Int => some item.1.key)
      (fun item => AdminEvidenceTotalsByAsset.add item.1 item.2)
      (countedRows windowStart windowEnd rows)
  rw [sourceTotals]
  dsimp only
  rw [List.map_map]
  refine List.Nodup.map_on ?_ distinct.of_map
  rintro ⟨leftKey, left⟩ isLeft ⟨rightKey, right⟩ isRight sameAsset
  obtain ⟨leftItem, _, rfl, leftExact⟩ := item_of_total isLeft
  obtain ⟨rightItem, _, rfl, rightExact⟩ := item_of_total isRight
  have assets : leftItem.1.asset = rightItem.1.asset := by
    rw [leftExact, rightExact] at sameAsset
    exact sameAsset
  rw [RawEvidenceRow.key_inj.mpr assets, leftExact, rightExact, assets]

/-- The totals do not depend on the order of the rows. -/
theorem totals_perm
    (permuted : rows.Perm reordered) :
    (sourceTotals rows windowStart windowEnd).totals.Perm
      (sourceTotals reordered windowStart windowEnd).totals := by
  have counted :
      (countedRows windowStart windowEnd rows).Perm
        (countedRows windowStart windowEnd reordered) :=
    permuted.filterMap _
  refine build_values_perm _ _ counted ?_
  intro key
  cases isFirst :
      (countedRows windowStart windowEnd rows).filter
        fun item => some item.1.key = some key with
  | nil =>
      have empty := counted.filter fun item => some item.1.key = some key
      rw [isFirst, List.nil_perm] at empty
      rw [empty]
  | cons item rest =>
      have isItem :
          item ∈
            (countedRows windowStart windowEnd rows).filter
              fun item => some item.1.key = some key := by
        rw [isFirst]
        exact List.mem_cons_self
      have both := List.mem_filter.mp isItem
      have isKey : item.1.key = key := by
        simpa using both.2
      subst isKey
      rw [← isFirst, folded_of_mem both.1,
        folded_of_mem (counted.mem_iff.mp both.1)]
      have sameItems := counted.filter (·.1.asset = item.1.asset)
      simp only [exactTotals, sumOf_perm sameItems]

end Totals

/-! ## The order in which rows are read -/

section Order

variable {localeCompare : String → String → Int}
  {rows reordered : List RawEvidenceRow}

/-- `localeCompare` orders the ids of some rows. -/
abbrev OrdersIds
    (localeCompare : String → String → Int)
    (rows : List RawEvidenceRow) :
    Prop :=
  Orders (fun left right => localeCompare left right ≤ 0)
    (rows.map (·.id))

/-- Rows are ordered by rank and id, when their ids are. -/
theorem orders_compareRows
    (distinct : (rows.map (·.id)).Nodup)
    (orders : OrdersIds localeCompare rows) :
    Orders
      (fun left right => compareRows localeCompare left right ≤ 0)
      rows where
  total := by
    intro left isLeft right isRight
    have ids :=
      orders.total left.id (List.mem_map_of_mem isLeft) right.id
        (List.mem_map_of_mem isRight)
    unfold compareRows
    split
    · split
      · omega
      · omega
    · split
      · omega
      · exact ids
  trans := by
    intro left isLeft middle isMiddle right isRight first second
    have ids :=
      orders.trans left.id (List.mem_map_of_mem isLeft) middle.id
        (List.mem_map_of_mem isMiddle) right.id
        (List.mem_map_of_mem isRight)
    unfold compareRows at first second ⊢
    split at first
    · split at second
      · split
        · omega
        · omega
      · split
        · omega
        · omega
    · split at second
      · split
        · omega
        · omega
      · split
        · omega
        · exact ids first second
  antisymm := by
    intro left isLeft right isRight first second
    have ids :=
      orders.antisymm left.id (List.mem_map_of_mem isLeft) right.id
        (List.mem_map_of_mem isRight)
    unfold compareRows at first second
    split at first
    · split at second
      · omega
      · omega
    · split at second
      · omega
      · exact
          List.inj_on_of_nodup_map distinct isLeft isRight
            (ids first second)

variable
  (orders :
    Orders (fun left right => compareRows localeCompare left right ≤ 0)
      rows)
  (permuted : rows.Perm reordered)

include orders permuted in
theorem chosenRow?_perm :
    chosenRow? localeCompare rows = chosenRow? localeCompare reordered :=
  orders.head_perm permuted

include permuted in
theorem authoritativeConflict_perm :
    authoritativeConflict rows = authoritativeConflict reordered := by
  unfold authoritativeConflict
  rw [(permuted.filter _).length_eq]

include orders permuted in
theorem conflictingRows_perm :
    conflictingRows localeCompare rows =
      conflictingRows localeCompare reordered := by
  unfold conflictingRows
  rw [chosenRow?_perm orders permuted, permuted.length_eq, permuted.any_eq]

include orders permuted in
theorem semanticConflict_perm :
    semanticConflict localeCompare rows =
      semanticConflict localeCompare reordered := by
  unfold semanticConflict
  rw [authoritativeConflict_perm permuted,
    conflictingRows_perm orders permuted]

end Order

namespace HashEvidence

variable {localeCompare : String → String → Int}
  {group regrouped rows reordered : List RawEvidenceRow} {key : String}
  {hash : TransactionHash}

theorem knownRows_eq_nil :
    (ofRows group).knownRows = [] ↔
      ∀ row ∈ group, row.isKnown = false := by
  rw [List.eq_nil_iff_forall_not_mem]
  simp only [mem_knownRows, not_and, Bool.not_eq_true]

theorem unknownRows_eq_nil :
    (ofRows group).unknownRows = [] ↔
      ∀ row ∈ group, row.isKnown = true := by
  rw [List.eq_nil_iff_forall_not_mem]
  simp only [mem_unknownRows, not_and, Bool.not_eq_false]

variable
  (orders :
    Orders (fun left right => compareRows localeCompare left right ≤ 0)
      group)
  (permuted : group.Perm regrouped)

include permuted in
theorem multipleKnownAssets_perm :
    (ofRows group).multipleKnownAssets =
      (ofRows regrouped).multipleKnownAssets := by
  rw [Bool.eq_iff_iff, multipleKnownAssets_eq_true,
    multipleKnownAssets_eq_true]
  simp only [permuted.mem_iff]

include permuted in
theorem known_perm :
    (ofRows group).known = [] ↔ (ofRows regrouped).known = [] := by
  rw [known_eq_nil, known_eq_nil]
  simp only [permuted.mem_iff]

include permuted in
theorem unknownRows_perm :
    (ofRows group).unknownRows = [] ↔
      (ofRows regrouped).unknownRows = [] := by
  rw [unknownRows_eq_nil, unknownRows_eq_nil]
  simp only [permuted.mem_iff]

include permuted in
theorem knownRows_perm :
    (ofRows group).knownRows = [] ↔
      (ofRows regrouped).knownRows = [] := by
  rw [knownRows_eq_nil, knownRows_eq_nil]
  simp only [permuted.mem_iff]

include orders permuted in
theorem knownSemanticConflict_perm :
    (ofRows group).knownSemanticConflict localeCompare =
      (ofRows regrouped).knownSemanticConflict localeCompare := by
  have same :
      ∀ row : RawEvidenceRow,
        semanticConflict localeCompare (group.filter (·.key = row.key)) =
          semanticConflict localeCompare
            (regrouped.filter (·.key = row.key)) := by
    intro row
    exact
      semanticConflict_perm
        (orders.subset fun _ member => (List.mem_filter.mp member).1)
        (permuted.filter _)
  rw [Bool.eq_iff_iff, knownSemanticConflict_eq_true,
    knownSemanticConflict_eq_true]
  simp only [permuted.mem_iff, same]

include permuted in
theorem unknownMirror_perm :
    (ofRows group).unknownMirror = (ofRows regrouped).unknownMirror := by
  have sameUnknown := unknownRows_perm permuted
  have sameKnown := knownRows_perm permuted
  by_cases someUnknown : (ofRows group).unknownRows = []
  · simp [unknownMirror, someUnknown, sameUnknown.mp someUnknown]
  · by_cases someKnown : (ofRows group).knownRows = []
    · simp [unknownMirror, someKnown, sameKnown.mp someKnown]
    · rw [Bool.eq_iff_iff, unknownMirror_eq_true someUnknown someKnown,
        unknownMirror_eq_true (sameUnknown.not.mp someUnknown)
          (sameKnown.not.mp someKnown)]
      simp only [permuted.mem_iff]

include orders permuted in
theorem unknownAssetConflict_perm :
    (ofRows group).unknownAssetConflict localeCompare =
      (ofRows regrouped).unknownAssetConflict localeCompare := by
  have sameUnknown := unknownRows_perm permuted
  have sameKnown := knownRows_perm permuted
  unfold unknownAssetConflict
  rw [unknownMirror_perm permuted, multipleKnownAssets_perm permuted,
    knownSemanticConflict_perm orders permuted]
  simp only [ne_eq, sameUnknown, sameKnown]

/-- Two selections contribute the same to the report. -/
structure SameSelection (left right : EvidenceSelection) : Prop where
  rows : left.rows.Perm right.rows
  unknownAssetCount : left.unknownAssetCount = right.unknownAssetCount
  duplicateConflictCount :
    left.duplicateConflictCount = right.duplicateConflictCount

include orders permuted in
theorem groupConflict_perm :
    (ofRows group).groupConflict localeCompare
        (group.filter (·.key = key)) =
      (ofRows regrouped).groupConflict localeCompare
        (regrouped.filter (·.key = key)) := by
  rw [groupConflict_eq, groupConflict_eq,
    multipleKnownAssets_perm permuted,
    unknownAssetConflict_perm orders permuted,
    semanticConflict_perm
      (orders.subset fun _ member => (List.mem_filter.mp member).1)
      (permuted.filter _)]

include orders permuted in
/-- The rows of one asset contribute the same in another order. -/
theorem selectAsset_perm :
    SameSelection
      ((ofRows group).selectAsset localeCompare hash key
        (group.filter (·.key = key)))
      ((ofRows regrouped).selectAsset localeCompare hash key
        (regrouped.filter (·.key = key))) := by
  have filtered := permuted.filter (·.key = key)
  have chosen :=
    chosenRow?_perm
      (orders.subset fun _ member => (List.mem_filter.mp member).1)
      filtered
  unfold selectAsset
  simp only [@groupConflict_perm _ _ _ key orders permuted,
    unknownAssetConflict_perm orders permuted,
    unknownMirror_perm permuted, ne_eq, known_perm permuted, chosen]
  split
  · split
    · exact ⟨List.Perm.refl _, rfl, rfl⟩
    · exact ⟨filtered.map _, rfl, rfl⟩
  · split
    · exact ⟨List.Perm.refl _, rfl, rfl⟩
    · refine ⟨?_, rfl, rfl⟩
      dsimp only
      split
      · exact filtered.map _
      · exact List.Perm.refl _

include orders permuted in
/-- The rows of one hash contribute the same in another order. -/
theorem select_perm :
    SameSelection ((ofRows group).select localeCompare hash)
      ((ofRows regrouped).select localeCompare hash) := by
  have same :
      ∀ key,
        SameSelection
          ((ofRows group).selectAsset localeCompare hash key
            (group.filter fun row => some row.key = some key))
          ((ofRows regrouped).selectAsset localeCompare hash key
            (regrouped.filter fun row => some row.key = some key)) := by
    intro key
    simp only [Option.some.injEq]
    exact selectAsset_perm orders permuted
  constructor
  · rw [select_rows, select_rows]
    exact
      groupBy_flatMap_perm (fun row : RawEvidenceRow => some row.key)
        permuted fun key => (same key).rows
  · unfold select
    dsimp only
    rw [List.map_map, List.map_map]
    exact
      (groupBy_map_perm (fun row : RawEvidenceRow => some row.key)
        permuted fun key => (same key).unknownAssetCount).sum_eq
  · unfold select
    dsimp only
    rw [List.map_map, List.map_map]
    exact
      (groupBy_map_perm (fun row : RawEvidenceRow => some row.key)
        permuted fun key => (same key).duplicateConflictCount).sum_eq

end HashEvidence

/-! ## The report as a whole -/

/-- Two reports show the same rows and the same counts. -/
structure SameReport (left right : DedupedRows) : Prop where
  rows : left.rows.Perm right.rows
  invalidHashCount : left.invalidHashCount = right.invalidHashCount
  unknownMovementCount :
    left.unknownMovementCount = right.unknownMovementCount
  unknownAssetCount : left.unknownAssetCount = right.unknownAssetCount
  duplicateConflictCount :
    left.duplicateConflictCount = right.duplicateConflictCount

/-- The report does not depend on the order of the rows. -/
theorem dedupeRows_perm
    {localeCompare : String → String → Int}
    {input reordered : List RawEvidenceRow}
    (distinct : (input.map (·.id)).Nodup)
    (orders : OrdersIds localeCompare input)
    (permuted : input.Perm reordered) :
    SameReport (dedupeRows localeCompare input)
      (dedupeRows localeCompare reordered) := by
  have same :
      ∀ hash,
        HashEvidence.SameSelection
          ((HashEvidence.ofRows
            (input.filter (·.txHash = some hash))).select localeCompare
              hash)
          ((HashEvidence.ofRows
            (reordered.filter (·.txHash = some hash))).select
              localeCompare hash) := by
    intro hash
    exact
      HashEvidence.select_perm
        ((orders_compareRows distinct orders).subset
          fun _ member => (List.mem_filter.mp member).1)
        (permuted.filter _)
  have withoutHash := permuted.filter (·.txHash.isNone)
  have unknownAssets :
      ((byHash input).map fun entry =>
          ((HashEvidence.ofRows entry.2).select localeCompare
            entry.1).unknownAssetCount).sum =
        ((byHash reordered).map fun entry =>
          ((HashEvidence.ofRows entry.2).select localeCompare
            entry.1).unknownAssetCount).sum :=
    (groupBy_map_perm _ permuted
      fun hash => (same hash).unknownAssetCount).sum_eq
  constructor
  · unfold dedupeRows
    dsimp only
    rw [List.flatMap_map, List.flatMap_map]
    exact
      withoutHash.append
        (groupBy_flatMap_perm _ permuted fun hash => (same hash).rows)
  · exact withoutHash.countP_eq _
  · exact permuted.countP_eq _
  · unfold dedupeRows
    dsimp only
    rw [List.map_map, List.map_map, withoutHash.countP_eq]
    exact congrArg _ unknownAssets
  · unfold dedupeRows
    dsimp only
    rw [List.map_map, List.map_map]
    exact
      (groupBy_map_perm _ permuted
        fun hash => (same hash).duplicateConflictCount).sum_eq

section Report

variable {localeCompare : String → String → Int}
  {input : List RawEvidenceRow} {hash : TransactionHash}
  {windowStart windowEnd : Int}

theorem byHash_nodup : ((byHash input).map Prod.fst).Nodup :=
  groupBy_nodup (fun row : RawEvidenceRow => row.txHash) input

/-- The rows that the report shows for one hash, in their order. -/
theorem filter_dedupeRows :
    (dedupeRows localeCompare input).rows.filter
        (·.txHash = some hash) =
      ((HashEvidence.ofRows (rowsOf hash input)).select localeCompare
        hash).rows := by
  by_cases empty : rowsOf hash input = []
  · have nothing :
        ((HashEvidence.ofRows []).select localeCompare hash).rows = [] :=
      rfl
    rw [empty, nothing, List.filter_eq_nil_iff]
    intro row member isHash
    have selected :=
      mem_dedupeRows_ofHash.mp ⟨member, of_decide_eq_true isHash⟩
    rw [empty] at selected
    cases selected
  · have noHash :
        (input.filter (·.txHash.isNone)).filter
            (·.txHash = some hash) =
          [] := by
      rw [List.filter_eq_nil_iff]
      intro row member isHash
      have isNone := (List.mem_filter.mp member).2
      rw [of_decide_eq_true isHash] at isNone
      cases isNone
    have ofHash :
        ∀ {other : TransactionHash} {row : RawEvidenceRow},
          row ∈
              ((HashEvidence.ofRows (rowsOf other input)).select
                localeCompare other).rows →
            row.txHash = some other :=
      fun member => (mem_dedupeRows_ofHash.mpr member).2
    unfold dedupeRows
    dsimp only
    rw [List.filter_append, noHash, List.nil_append, List.flatMap_map,
      List.filter_flatMap,
      flatMap_of_key byHash_nodup (mem_byHash.mpr ⟨rfl, empty⟩)]
    · rw [List.filter_eq_self]
      intro row member
      exact decide_eq_true (ofHash member)
    · rintro ⟨other, rows⟩ isEntry different
      obtain ⟨rfl, _⟩ := mem_byHash.mp isEntry
      rw [List.filter_eq_nil_iff]
      intro row member isHash
      have same := (ofHash member).symm.trans (of_decide_eq_true isHash)
      cases same
      exact different rfl

/-- A transfer counts once at most. -/
theorem counted_once :
    (countedRows windowStart windowEnd
        (dedupeRows localeCompare input).rows).countP
        (·.1.txHash = some hash) ≤
      1 := by
  have confirmed :=
    @HashEvidence.confirmed_select localeCompare (rowsOf hash input)
      hash
  rw [← filter_dedupeRows, List.filter_filter,
    ← List.countP_eq_length_filter] at confirmed
  refine Nat.le_trans ?_ confirmed
  rw [countedRows, List.countP_filterMap]
  apply List.countP_mono_left
  intro row _ counts
  cases isCounted : row.counted? windowStart windowEnd with
  | none =>
      simp [isCounted] at counts
  | some amount =>
      have isConfirmed :=
        (RawEvidenceRow.counted?_eq_some_iff.mp isCounted).2.1
      have isHash : row.txHash = some hash := by
        simpa [isCounted] using counts
      simp [HashEvidence.isConfirmed, isConfirmed, isHash]

end Report

/-- Two sets of totals are the same. -/
structure SameTotals (left right : SourceTotals) : Prop where
  totals : left.totals.Perm right.totals
  issuedMovementCount :
    left.issuedMovementCount = right.issuedMovementCount
  returnedMovementCount :
    left.returnedMovementCount = right.returnedMovementCount
  confirmedMovementCount :
    left.confirmedMovementCount = right.confirmedMovementCount

/-- The rows of its asset conflict, or all rows of its hash do. -/
def InConflict
    (localeCompare : String → String → Int)
    (input : List RawEvidenceRow)
    (row : RawEvidenceRow) :
    Prop :=
  ∃ hash,
    row.txHash = some hash ∧
      (HashEvidence.ofRows (rowsOf hash input)).groupConflict localeCompare
          ((rowsOf hash input).filter (·.key = row.key)) =
        true

/-- What the report says about its rows and their totals. -/
structure ExactTotals
    (input : List RawEvidenceRow)
    (report : DedupedRows)
    (windowStart windowEnd : Int)
    (inConflict : RawEvidenceRow → Prop) :
    Prop where
  /-- A transfer counts once at most. -/
  countedOnce :
    ∀ hash : TransactionHash,
      (countedRows windowStart windowEnd report.rows).countP
          (·.1.txHash = some hash) ≤
        1
  /-- The totals of an asset are the sums of its rows that count. -/
  sums :
    ∀ total ∈ (sourceTotals report.rows windowStart windowEnd).totals,
      total =
        exactTotals total.asset
          ((countedRows windowStart windowEnd report.rows).filter
            (·.1.asset = total.asset))
  /-- The assets of the totals are those of the rows that count. -/
  assets :
    ∀ asset,
      asset ∈
          (sourceTotals report.rows windowStart windowEnd).totals.map
            (·.asset) ↔
        ∃ item ∈ countedRows windowStart windowEnd report.rows,
          item.1.asset = asset
  oneTotal :
    ((sourceTotals report.rows windowStart windowEnd).totals.map
      (·.asset)).Nodup
  issued :
    (sourceTotals report.rows windowStart
        windowEnd).issuedMovementCount =
      ((countedRows windowStart windowEnd report.rows).filter
        (·.1.direction = .issued)).length
  returned :
    (sourceTotals report.rows windowStart
        windowEnd).returnedMovementCount =
      ((countedRows windowStart windowEnd report.rows).filter
        (·.1.direction = .returned)).length
  confirmed :
    (sourceTotals report.rows windowStart
        windowEnd).confirmedMovementCount =
      (countedRows windowStart windowEnd report.rows).length
  withoutHash : ∀ row ∈ input, row.txHash = none → row ∈ report.rows
  conflicts :
    ∀ row ∈ input,
      inConflict row →
      ∃ selected ∈ report.rows,
        Retained row selected ∧ selected.movementOutcome = some .review

/--
The report counts every transfer once and exactly, and neither its rows nor its
totals depend on the order in which the rows are read.
-/
theorem evidenceTotals_exact
    {localeCompare : String → String → Int}
    {input : List RawEvidenceRow}
    (distinct : (input.map (·.id)).Nodup)
    (orders : OrdersIds localeCompare input)
    (windowStart windowEnd : Int) :
    ExactTotals input (dedupeRows localeCompare input) windowStart
        windowEnd (InConflict localeCompare input) ∧
      ∀ reordered,
        input.Perm reordered →
        SameReport (dedupeRows localeCompare input)
            (dedupeRows localeCompare reordered) ∧
          SameTotals
            (sourceTotals (dedupeRows localeCompare input).rows windowStart
              windowEnd)
            (sourceTotals (dedupeRows localeCompare reordered).rows
              windowStart windowEnd) := by
  constructor
  · refine
      { countedOnce := fun hash => counted_once
        sums := fun total member => (totals_exact member).1
        assets := ?_
        oneTotal := totals_nodup
        issued := ?_
        returned := ?_
        confirmed := rfl
        withoutHash := ?_
        conflicts := ?_ }
    · intro asset
      constructor
      · intro member
        obtain ⟨total, isTotal, rfl⟩ := List.mem_map.mp member
        exact (totals_exact isTotal).2
      · rintro ⟨item, isItem, rfl⟩
        exact List.mem_map.mpr ⟨_, total_of_item isItem, rfl⟩
    · exact List.countP_eq_length_filter
    · exact List.countP_eq_length_filter
    · intro row member noHash
      refine List.mem_append.mpr (Or.inl ?_)
      simp [member, noHash]
    · rintro row member ⟨hash, isHash, conflict⟩
      have inGroup : row ∈ rowsOf hash input := by
        simp [rowsOf, member, isHash]
      obtain ⟨selected, isSelected, retained, isReview⟩ :=
        @HashEvidence.retained_of_conflict _ _ _ hash inGroup conflict
      exact
        ⟨selected, (mem_dedupeRows_ofHash.mpr isSelected).1, retained,
          isReview⟩
  · intro reordered permuted
    have sameReport := dedupeRows_perm distinct orders permuted
    have counted :
        (countedRows windowStart windowEnd
            (dedupeRows localeCompare input).rows).Perm
          (countedRows windowStart windowEnd
            (dedupeRows localeCompare reordered).rows) :=
      sameReport.rows.filterMap _
    exact
      ⟨sameReport,
        { totals := totals_perm sameReport.rows
          issuedMovementCount := counted.countP_eq _
          returnedMovementCount := counted.countP_eq _
          confirmedMovementCount := counted.length_eq }⟩

/-- Another transaction hash for runs on fixed inputs. -/
def TransactionHash.otherSample : TransactionHash where
  text :=
    "0x9a1f3754410177e6937ef1f84bba68ea139e8d1a2258c5f85db9f1cd715a1b00"
  wellFormed := by decide +kernel
  canonical := by decide +kernel

/-- The rows of one hash, and another transfer. -/
def twoTransfers : List RawEvidenceRow :=
  { confirmedOperation with
      id := "operation-2"
      txHash := some .otherSample
      amount := .text "20.5"
      direction := .returned } ::
    conflictingMirrors

/-- A transfer that is returned counts against one that is issued. -/
theorem twoTransfers_exact :
    (sourceTotals (dedupeRows compareIds twoTransfers).rows 0 1).totals =
        [{ asset := confirmedOperation.asset
           awardedSparkz := "5.00"
           spentSparkz := "20.50"
           netIssuedSparkz := "-15.50" }] ∧
      ∀ reordered,
        twoTransfers.Perm reordered →
        (dedupeRows compareIds twoTransfers).rows.Perm
          (dedupeRows compareIds reordered).rows := by
  have orders : OrdersIds compareIds twoTransfers :=
    { total := by decide +kernel
      trans := by decide +kernel
      antisymm := by decide +kernel }
  refine ⟨by decide +kernel, ?_⟩
  intro reordered permuted
  exact
    ((evidenceTotals_exact (by decide +kernel) orders 0 1).2 reordered
      permuted).1.rows

end Sparkz
