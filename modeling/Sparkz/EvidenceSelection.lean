import Sparkz.EvidenceAssets

namespace Sparkz

open InsertionMap

/-!
# What one transaction hash contributes

Either the rows of a hash contradict each other in a way that reaches all their
assets, and all of them are kept for review, or one chosen row stands for them.
Only rows without an asset can then still be kept for review on their own.
-/

namespace RawEvidenceRow

variable {row : RawEvidenceRow} {rows group : List RawEvidenceRow}

/-- Rows of one key are rows of one asset. -/
theorem filter_key (row : RawEvidenceRow) (group : List RawEvidenceRow) :
    group.filter (·.key = row.key) =
      group.filter (·.asset = row.asset) := by
  apply List.filter_congr
  intro other _
  rw [decide_eq_decide]
  exact key_inj

/-- Rows that name no asset are rows of one key. -/
theorem filter_unknown
    (isUnknown : row.isKnown = false)
    (group : List RawEvidenceRow) :
    group.filter (·.key = row.key) = group.filter (!·.isKnown) := by
  apply List.filter_congr
  intro other _
  by_cases same : other.key = row.key
  · have isUnknownToo := isKnown_of_key same
    rw [isUnknown] at isUnknownToo
    simp [same, isUnknownToo]
  · cases isKnown : other.isKnown with
    | true =>
        simp [same]
    | false =>
        have sameAsset : other.asset = row.asset := by
          rw [asset_of_unknown isKnown, asset_of_unknown isUnknown]
        exact absurd (key_inj.mpr sameAsset) same

end RawEvidenceRow

namespace HashEvidence

variable {localeCompare : String → String → Int}
  {group rows : List RawEvidenceRow} {key : String} {row : RawEvidenceRow}
  {hash : TransactionHash}

/-! ## Groups of one hash -/

theorem mem_byAsset :
    (key, rows) ∈ (ofRows group).byAsset ↔
      rows = group.filter (·.key = key) ∧ rows ≠ [] := by
  simp only [ofRows, mem_groupBy, Option.some.injEq]

theorem byAsset_nodup :
    ((ofRows group).byAsset.map Prod.fst).Nodup :=
  groupBy_nodup (fun row : RawEvidenceRow => some row.key) group

/-- The group that a row is in. -/
theorem byAsset_of_mem (member : row ∈ group) :
    (row.key, group.filter (·.key = row.key)) ∈
      (ofRows group).byAsset := by
  rw [mem_byAsset]
  refine ⟨rfl, ?_⟩
  apply List.ne_nil_of_mem (a := row)
  simp [member]

/-- A group is the group of each of its rows. -/
theorem row_of_byAsset
    (member : (key, rows) ∈ (ofRows group).byAsset) :
    ∃ row ∈ group, row.key = key ∧ row ∈ rows := by
  obtain ⟨rfl, some⟩ := mem_byAsset.mp member
  obtain ⟨row, isRow⟩ := List.exists_mem_of_ne_nil _ some
  have both := List.mem_filter.mp isRow
  exact ⟨row, both.1, by simpa using both.2, isRow⟩

theorem mem_known :
    (key, rows) ∈ (ofRows group).known ↔
      (key, rows) ∈ (ofRows group).byAsset ∧ isUnknownKey key = false := by
  simp [known]

theorem mem_knownRows :
    row ∈ (ofRows group).knownRows ↔
      row ∈ group ∧ row.isKnown = true := by
  constructor
  · intro member
    obtain ⟨⟨key, rows⟩, isKnown, isRow⟩ := List.mem_flatMap.mp member
    obtain ⟨isGroup, notUnknown⟩ := mem_known.mp isKnown
    obtain ⟨rfl, _⟩ := mem_byAsset.mp isGroup
    have both := List.mem_filter.mp isRow
    have sameKey : row.key = key := by simpa using both.2
    subst sameKey
    rw [RawEvidenceRow.isUnknownKey_key] at notUnknown
    exact ⟨both.1, by simpa using notUnknown⟩
  · rintro ⟨member, isKnown⟩
    refine
      List.mem_flatMap.mpr
        ⟨_, mem_known.mpr ⟨byAsset_of_mem member, ?_⟩, ?_⟩
    · rw [RawEvidenceRow.isUnknownKey_key, isKnown]
      rfl
    · simp [member]

theorem mem_unknownRows :
    row ∈ (ofRows group).unknownRows ↔
      row ∈ group ∧ row.isKnown = false := by
  constructor
  · intro member
    obtain ⟨⟨key, rows⟩, isUnknown, isRow⟩ := List.mem_flatMap.mp member
    obtain ⟨isGroup, isUnknown⟩ := List.mem_filter.mp isUnknown
    obtain ⟨rfl, _⟩ := mem_byAsset.mp isGroup
    have both := List.mem_filter.mp isRow
    have sameKey : row.key = key := by simpa using both.2
    subst sameKey
    rw [RawEvidenceRow.isUnknownKey_key] at isUnknown
    exact ⟨both.1, by simpa using isUnknown⟩
  · rintro ⟨member, isUnknown⟩
    refine
      List.mem_flatMap.mpr
        ⟨_, List.mem_filter.mpr ⟨byAsset_of_mem member, ?_⟩, ?_⟩
    · rw [RawEvidenceRow.isUnknownKey_key, isUnknown]
      rfl
    · simp [member]

theorem known_eq_nil :
    (ofRows group).known = [] ↔ ∀ row ∈ group, row.isKnown = false := by
  constructor
  · intro empty row member
    cases isKnown : row.isKnown with
    | false =>
        rfl
    | true =>
        have inKnown := mem_knownRows.mpr ⟨member, isKnown⟩
        rw [knownRows, empty] at inKnown
        cases inKnown
  · intro none
    rw [List.eq_nil_iff_forall_not_mem]
    rintro ⟨key, rows⟩ isEntry
    obtain ⟨isGroup, notUnknown⟩ := mem_known.mp isEntry
    obtain ⟨row, member, rfl, _⟩ := row_of_byAsset isGroup
    rw [RawEvidenceRow.isUnknownKey_key, none row member] at notUnknown
    cases notUnknown

/-- Several known assets are two rows that name different ones. -/
theorem multipleKnownAssets_eq_true :
    (ofRows group).multipleKnownAssets = true ↔
      ∃ left ∈ group, ∃ right ∈ group,
        left.isKnown = true ∧ right.isKnown = true ∧
          left.asset ≠ right.asset := by
  have distinct : ((ofRows group).known.map Prod.fst).Nodup :=
    byAsset_nodup.sublist (List.filter_sublist.map Prod.fst)
  have isKnown :
      ∀ {row : RawEvidenceRow},
        isUnknownKey row.key = false → row.isKnown = true := by
    intro row notUnknown
    rw [RawEvidenceRow.isUnknownKey_key] at notUnknown
    simpa using notUnknown
  rw [multipleKnownAssets, decide_eq_true_eq]
  constructor
  · intro several
    cases entries : (ofRows group).known with
    | nil =>
        simp [entries] at several
    | cons first others =>
        cases others with
        | nil =>
            simp [entries] at several
        | cons second rest =>
            rw [entries] at distinct
            have isFirst : first ∈ (ofRows group).known := by
              simp [entries]
            have isSecond : second ∈ (ofRows group).known := by
              simp [entries]
            obtain ⟨firstGroup, firstKnown⟩ := mem_known.mp isFirst
            obtain ⟨secondGroup, secondKnown⟩ := mem_known.mp isSecond
            obtain ⟨left, isLeft, leftKey, _⟩ := row_of_byAsset firstGroup
            obtain ⟨right, isRight, rightKey, _⟩ :=
              row_of_byAsset secondGroup
            refine
              ⟨left, isLeft, right, isRight,
                isKnown (leftKey ▸ firstKnown),
                isKnown (rightKey ▸ secondKnown), ?_⟩
            intro sameAsset
            have sameKey := RawEvidenceRow.key_inj.mpr sameAsset
            rw [leftKey, rightKey] at sameKey
            simp [sameKey] at distinct
  · rintro ⟨left, isLeft, right, isRight, leftKnown, rightKnown, differ⟩
    have entry :
        ∀ {row : RawEvidenceRow},
          row ∈ group →
          row.isKnown = true →
          (row.key, group.filter (·.key = row.key)) ∈
            (ofRows group).known := by
      intro row member isKnown
      refine mem_known.mpr ⟨byAsset_of_mem member, ?_⟩
      rw [RawEvidenceRow.isUnknownKey_key, isKnown]
      rfl
    have isFirst := entry isLeft leftKnown
    have isSecond := entry isRight rightKnown
    have different : left.key ≠ right.key :=
      fun same => differ (RawEvidenceRow.key_inj.mp same)
    cases entries : (ofRows group).known with
    | nil =>
        rw [entries] at isFirst
        cases isFirst
    | cons first others =>
        cases others with
        | nil =>
            rw [entries, List.mem_singleton] at isFirst isSecond
            rw [← isFirst] at isSecond
            exact absurd (congrArg Prod.fst isSecond).symm different
        | cons second rest =>
            simp

/-- The rows of some known asset contradict each other. -/
theorem knownSemanticConflict_eq_true :
    (ofRows group).knownSemanticConflict localeCompare = true ↔
      ∃ row ∈ group,
        row.isKnown = true ∧
          semanticConflict localeCompare
              (group.filter (·.key = row.key)) =
            true := by
  rw [knownSemanticConflict, List.any_eq_true]
  constructor
  · rintro ⟨⟨key, rows⟩, isEntry, conflicts⟩
    obtain ⟨isGroup, notUnknown⟩ := mem_known.mp isEntry
    obtain ⟨row, member, rfl, _⟩ := row_of_byAsset isGroup
    obtain ⟨rfl, _⟩ := mem_byAsset.mp isGroup
    rw [RawEvidenceRow.isUnknownKey_key] at notUnknown
    exact ⟨row, member, by simpa using notUnknown, conflicts⟩
  · rintro ⟨row, member, isKnown, conflicts⟩
    refine
      ⟨_, mem_known.mpr ⟨byAsset_of_mem member, ?_⟩, conflicts⟩
    rw [RawEvidenceRow.isUnknownKey_key, isKnown]
    rfl

/-- Every row without an asset shows the movement of a known one. -/
theorem unknownMirror_eq_true
    (someUnknown : (ofRows group).unknownRows ≠ [])
    (someKnown : (ofRows group).knownRows ≠ []) :
    (ofRows group).unknownMirror = true ↔
      ∀ row ∈ group,
        row.isKnown = false →
        ∃ known ∈ group,
          known.isKnown = true ∧ sameMovement row known = true := by
  have condition :
      (ofRows group).unknownMirror =
        (ofRows group).unknownRows.all fun row =>
          (ofRows group).knownRows.any fun knownRow =>
            sameMovement row knownRow := by
    simp [unknownMirror, someUnknown, someKnown]
  rw [condition, List.all_eq_true]
  constructor
  · intro mirrors row member isUnknown
    obtain ⟨known, isKnown, same⟩ :=
      List.any_eq_true.mp
        (mirrors row (mem_unknownRows.mpr ⟨member, isUnknown⟩))
    obtain ⟨knownMember, isKnown⟩ := mem_knownRows.mp isKnown
    exact ⟨known, knownMember, isKnown, same⟩
  · intro mirrors row isUnknown
    obtain ⟨member, isUnknown⟩ := mem_unknownRows.mp isUnknown
    obtain ⟨known, knownMember, isKnown, same⟩ :=
      mirrors row member isUnknown
    exact
      List.any_eq_true.mpr
        ⟨known, mem_knownRows.mpr ⟨knownMember, isKnown⟩, same⟩

end HashEvidence

/-- What the report keeps of a row. -/
def Retained (row selected : RawEvidenceRow) : Prop :=
  selected = row ∨ selected = row.review ∨
    (row.isKnown = false ∧ selected = row.unresolved)

/-! ## Contradictions that reach every asset -/

/-- The rows of one hash contradict each other across their assets. -/
inductive ContradictionSeen
    (localeCompare : String → String → Int)
    (group : List RawEvidenceRow) :
    Prop where
  /-- Two rows name different assets. -/
  | assets
      {left right : RawEvidenceRow}
      (isLeft : left ∈ group)
      (isRight : right ∈ group)
      (leftKnown : left.isKnown = true)
      (rightKnown : right.isKnown = true)
      (different : left.asset ≠ right.asset)
  /-- The rows of one known asset contradict each other. -/
  | known
      {row : RawEvidenceRow}
      (member : row ∈ group)
      (isKnown : row.isKnown = true)
      (conflicts :
        semanticConflict localeCompare
            (group.filter (·.asset = row.asset)) =
          true)
  /-- A row without an asset mirrors none of the rows with one. -/
  | unmatched
      {row known : RawEvidenceRow}
      (member : row ∈ group)
      (isUnknown : row.isKnown = false)
      (knownMember : known ∈ group)
      (isKnown : known.isKnown = true)
      (different :
        ∀ mirror ∈ group,
          mirror.isKnown = true → sameMovement row mirror = false)
  /-- No row names an asset, and the rows contradict each other. -/
  | unknown
      (none : ∀ row ∈ group, row.isKnown = false)
      (conflicts : semanticConflict localeCompare group = true)

namespace HashEvidence

variable {localeCompare : String → String → Int}
  {group rows : List RawEvidenceRow} {key : String} {row : RawEvidenceRow}
  {hash : TransactionHash}

theorem groupConflict_eq
    (evidence : HashEvidence)
    (rows : List RawEvidenceRow) :
    evidence.groupConflict localeCompare rows =
      (evidence.multipleKnownAssets || semanticConflict localeCompare rows ||
        evidence.unknownAssetConflict localeCompare) := by
  unfold groupConflict semanticConflict
  cases evidence.multipleKnownAssets with
  | true =>
      simp
  | false =>
      cases conflictingRows localeCompare rows with
      | true =>
          simp
      | false =>
          simp

/-- Rows without an asset next to rows with one, in words of both. -/
theorem unknownAssetConflict_eq
    {unknown known : RawEvidenceRow}
    (unknownMember : unknown ∈ group)
    (isUnknown : unknown.isKnown = false)
    (knownMember : known ∈ group)
    (isKnown : known.isKnown = true) :
    (ofRows group).unknownAssetConflict localeCompare =
      (!(ofRows group).unknownMirror ||
        (ofRows group).multipleKnownAssets ||
        (ofRows group).knownSemanticConflict localeCompare) := by
  have someUnknown : (ofRows group).unknownRows ≠ [] :=
    List.ne_nil_of_mem (mem_unknownRows.mpr ⟨unknownMember, isUnknown⟩)
  have someKnown : (ofRows group).knownRows ≠ [] :=
    List.ne_nil_of_mem (mem_knownRows.mpr ⟨knownMember, isKnown⟩)
  simp [unknownAssetConflict, someUnknown, someKnown]

/-- A contradiction that is seen makes every group a conflict. -/
theorem groupConflict_of_seen
    (seen : ContradictionSeen localeCompare group)
    (member : (key, rows) ∈ (ofRows group).byAsset) :
    (ofRows group).groupConflict localeCompare rows = true := by
  rw [groupConflict_eq]
  obtain ⟨row, isRow, rfl, _⟩ := row_of_byAsset member
  obtain ⟨isRows, _⟩ := mem_byAsset.mp member
  cases several : (ofRows group).multipleKnownAssets with
  | true =>
      rfl
  | false =>
      rw [Bool.false_or, Bool.or_eq_true]
      have oneAsset :
          ∀ left ∈ group, ∀ right ∈ group,
            left.isKnown = true →
            right.isKnown = true →
            left.asset = right.asset := by
        intro left isLeft right isRight leftKnown rightKnown
        by_contra differ
        have isSeveral :=
          multipleKnownAssets_eq_true.mpr
            ⟨left, isLeft, right, isRight, leftKnown, rightKnown, differ⟩
        rw [several] at isSeveral
        cases isSeveral
      cases seen with
      | assets isLeft isRight leftKnown rightKnown different =>
          exact
            absurd (oneAsset _ isLeft _ isRight leftKnown rightKnown)
              different
      | @known known member isKnown conflicts =>
          cases rowKnown : row.isKnown with
          | true =>
              have sameAsset := oneAsset row isRow known member rowKnown isKnown
              left
              rw [isRows, RawEvidenceRow.filter_key, sameAsset]
              exact conflicts
          | false =>
              have knownConflict :
                  (ofRows group).knownSemanticConflict localeCompare =
                    true := by
                refine
                  knownSemanticConflict_eq_true.mpr
                    ⟨known, member, isKnown, ?_⟩
                rw [RawEvidenceRow.filter_key]
                exact conflicts
              right
              rw [unknownAssetConflict_eq isRow rowKnown member isKnown,
                knownConflict, Bool.or_true]
      | @unmatched other known member isUnknown knownMember isKnown
          different =>
          have noMirror : (ofRows group).unknownMirror = false := by
            rw [Bool.eq_false_iff]
            intro mirrors
            rw [unknownMirror_eq_true
              (List.ne_nil_of_mem (mem_unknownRows.mpr ⟨member, isUnknown⟩))
              (List.ne_nil_of_mem
                (mem_knownRows.mpr ⟨knownMember, isKnown⟩))] at mirrors
            obtain ⟨mirror, mirrorMember, mirrorKnown, same⟩ :=
              mirrors other member isUnknown
            rw [different mirror mirrorMember mirrorKnown] at same
            cases same
          right
          rw [unknownAssetConflict_eq member isUnknown knownMember isKnown,
            noMirror]
          rfl
      | unknown none conflicts =>
          have everyRow : group.filter (!·.isKnown) = group := by
            rw [List.filter_eq_self]
            intro other isOther
            simp [none other isOther]
          left
          rw [isRows, RawEvidenceRow.filter_unknown (none row isRow),
            everyRow]
          exact conflicts

/-- Without such a contradiction no part of it is found. -/
theorem no_conflict_of_unseen
    (unseen : ¬ ContradictionSeen localeCompare group) :
    (ofRows group).multipleKnownAssets = false ∧
      (ofRows group).unknownAssetConflict localeCompare = false ∧
      ∀ row ∈ group,
        row.isKnown = true →
        semanticConflict localeCompare
            (group.filter (·.asset = row.asset)) =
          false := by
  have oneAsset : (ofRows group).multipleKnownAssets = false := by
    rw [Bool.eq_false_iff]
    intro several
    obtain ⟨left, isLeft, right, isRight, leftKnown, rightKnown, differ⟩ :=
      multipleKnownAssets_eq_true.mp several
    exact unseen (.assets isLeft isRight leftKnown rightKnown differ)
  have knownAgree :
      ∀ row ∈ group,
        row.isKnown = true →
        semanticConflict localeCompare
            (group.filter (·.asset = row.asset)) =
          false := by
    intro row member isKnown
    rw [Bool.eq_false_iff]
    intro conflicts
    exact unseen (.known member isKnown conflicts)
  refine ⟨oneAsset, ?_, knownAgree⟩
  rw [Bool.eq_false_iff]
  intro conflicts
  have both := conflicts
  rw [unknownAssetConflict, Bool.and_eq_true, Bool.and_eq_true,
    decide_eq_true_eq, decide_eq_true_eq] at both
  obtain ⟨⟨someUnknown, someKnown⟩, _⟩ := both
  obtain ⟨unknown, isUnknownRow⟩ :=
    List.exists_mem_of_ne_nil _ someUnknown
  obtain ⟨known, isKnownRow⟩ := List.exists_mem_of_ne_nil _ someKnown
  obtain ⟨unknownMember, isUnknown⟩ := mem_unknownRows.mp isUnknownRow
  obtain ⟨knownMember, isKnown⟩ := mem_knownRows.mp isKnownRow
  have mirrors : (ofRows group).unknownMirror = true := by
    rw [unknownMirror_eq_true someUnknown someKnown]
    intro row member rowUnknown
    by_contra noMirror
    refine unseen (.unmatched member rowUnknown knownMember isKnown ?_)
    intro mirror mirrorMember mirrorKnown
    rw [Bool.eq_false_iff]
    intro same
    exact noMirror ⟨mirror, mirrorMember, mirrorKnown, same⟩
  have noConflict :
      (ofRows group).knownSemanticConflict localeCompare = false := by
    rw [Bool.eq_false_iff]
    intro found
    obtain ⟨row, member, rowKnown, found⟩ :=
      knownSemanticConflict_eq_true.mp found
    rw [RawEvidenceRow.filter_key, knownAgree row member rowKnown] at found
    cases found
  rw [unknownAssetConflict_eq unknownMember isUnknown knownMember isKnown,
    mirrors, oneAsset, noConflict] at conflicts
  cases conflicts

/-! ## Selected rows -/

theorem select_rows (evidence : HashEvidence) :
    (evidence.select localeCompare hash).rows =
      evidence.byAsset.flatMap fun entry =>
        (evidence.selectAsset localeCompare hash entry.1 entry.2).rows := by
  rw [select]
  dsimp only
  rw [List.flatMap_map]

theorem mem_select_warnings
    {evidence : HashEvidence}
    {warning : EvidenceWarning} :
    warning ∈ (evidence.select localeCompare hash).warnings ↔
      (evidence.multipleKnownAssets = true ∧
          warning = .multipleKnownAssets hash) ∨
        ∃ entry ∈ evidence.byAsset,
          warning ∈
            (evidence.selectAsset localeCompare hash entry.1
              entry.2).warnings := by
  rw [select]
  dsimp only
  rw [List.mem_append, List.flatMap_map, List.mem_flatMap]
  cases evidence.multipleKnownAssets with
  | true =>
      simp
  | false =>
      simp

/-- Every row of a conflict is kept for review. -/
theorem selectAsset_of_conflict
    {evidence : HashEvidence}
    (conflict : evidence.groupConflict localeCompare rows = true)
    (some : rows ≠ []) :
    (evidence.selectAsset localeCompare hash key rows).rows =
      if isUnknownKey key ∧ evidence.known ≠ [] then
        rows.map (·.unresolved)
      else rows.map (·.review) := by
  unfold selectAsset
  simp only [conflict, not_true_eq_false, and_false, if_true, if_false]
  split
  · rfl
  · cases chosen : chosenRow? localeCompare rows with
    | none =>
        exact absurd (SortedHead.head?_sort_eq_none.mp chosen) some
    | some row =>
        rfl

/-- A row of a conflict is kept for review. -/
theorem retained_of_conflict
    (member : row ∈ group)
    (conflict :
      (ofRows group).groupConflict localeCompare
          (group.filter (·.key = row.key)) =
        true) :
    ∃ selected ∈ ((ofRows group).select localeCompare hash).rows,
      Retained row selected ∧
        selected.movementOutcome = some .review := by
  have isGroup := byAsset_of_mem member
  have inGroup : row ∈ group.filter (·.key = row.key) := by
    simp [member]
  have selected :=
    @selectAsset_of_conflict _ _ row.key hash _ conflict
      (mem_byAsset.mp isGroup).2
  rw [select_rows]
  split at selected
  · rename_i beside
    have isUnknown : row.isKnown = false := by
      have mark := beside.1
      rw [RawEvidenceRow.isUnknownKey_key] at mark
      simpa using mark
    refine
      ⟨row.unresolved, List.mem_flatMap.mpr ⟨_, isGroup, ?_⟩,
        Or.inr (Or.inr ⟨isUnknown, rfl⟩), rfl⟩
    rw [selected]
    exact List.mem_map_of_mem inGroup
  · refine
      ⟨row.review, List.mem_flatMap.mpr ⟨_, isGroup, ?_⟩,
        Or.inr (Or.inl rfl), rfl⟩
    rw [selected]
    exact List.mem_map_of_mem inGroup

/-- All rows of a contradiction that is seen are kept for review. -/
theorem review_of_seen
    (seen : ContradictionSeen localeCompare group)
    (member : row ∈ ((ofRows group).select localeCompare hash).rows) :
    row.movementOutcome = some .review := by
  rw [select_rows] at member
  obtain ⟨⟨key, rows⟩, isGroup, isRow⟩ := List.mem_flatMap.mp member
  rw [selectAsset_of_conflict (groupConflict_of_seen seen isGroup)
    (mem_byAsset.mp isGroup).2] at isRow
  split at isRow
  · obtain ⟨_, _, rfl⟩ := List.mem_map.mp isRow
    rfl
  · obtain ⟨_, _, rfl⟩ := List.mem_map.mp isRow
    rfl

/-- Every warning of a hash is about that hash. -/
theorem excluded_of_selectAsset
    {evidence : HashEvidence}
    {warning : EvidenceWarning}
    (member :
      warning ∈
        (evidence.selectAsset localeCompare hash key rows).warnings) :
    warning.excluded? = some hash := by
  have ofConflict :
      ∀ {conflict : Bool},
        warning ∈
            (if conflict then
              [if authoritativeConflict rows then
                EvidenceWarning.multipleAuthoritative hash
              else .conflictingEvidence hash]
            else []) →
          warning.excluded? = some hash := by
    intro conflict isWarning
    cases conflict with
    | false =>
        cases isWarning
    | true =>
        rw [if_pos rfl, List.mem_singleton] at isWarning
        subst isWarning
        split
        · rfl
        · rfl
  unfold selectAsset at member
  dsimp only at member
  split at member
  · split at member
    · exact ofConflict member
    · rcases List.mem_append.mp member with isConflict | isUnresolved
      · exact ofConflict isConflict
      · rw [List.mem_singleton.mp isUnresolved]
        rfl
  · split at member
    · exact ofConflict member
    · exact ofConflict member

/-- A conflict is reported. -/
theorem warned_of_conflict
    {evidence : HashEvidence}
    (conflict : evidence.groupConflict localeCompare rows = true) :
    (evidence.selectAsset localeCompare hash key rows).warnings ≠ [] := by
  unfold selectAsset
  simp only [conflict, not_true_eq_false, and_false, if_true, if_false]
  split
  · simp
  · split
    · simp
    · simp

section Unseen

variable
  (unseen : ¬ ContradictionSeen localeCompare group)
  (member : (key, rows) ∈ (ofRows group).byAsset)

include unseen in
theorem groupConflict_of_unseen :
    (ofRows group).groupConflict localeCompare rows =
      semanticConflict localeCompare rows := by
  obtain ⟨oneAsset, noConflict, _⟩ := no_conflict_of_unseen unseen
  rw [groupConflict_eq, oneAsset, noConflict, Bool.false_or, Bool.or_false]

include unseen member in
/-- Only rows without an asset next to rows with one can still conflict. -/
theorem agree_of_unseen
    (leading : ¬ (isUnknownKey key = true ∧ (ofRows group).known ≠ [])) :
    semanticConflict localeCompare rows = false := by
  obtain ⟨_, _, knownAgree⟩ := no_conflict_of_unseen unseen
  obtain ⟨row, isRow, rfl, _⟩ := row_of_byAsset member
  obtain ⟨rfl, _⟩ := mem_byAsset.mp member
  rw [RawEvidenceRow.isUnknownKey_key] at leading
  cases isKnown : row.isKnown with
  | true =>
      rw [RawEvidenceRow.filter_key]
      exact knownAgree row isRow isKnown
  | false =>
      have noneKnown : (ofRows group).known = [] := by
        by_contra some
        exact leading ⟨by simp [isKnown], some⟩
      have none := known_eq_nil.mp noneKnown
      have everyRow : group.filter (!·.isKnown) = group := by
        rw [List.filter_eq_self]
        intro other isOther
        simp [none other isOther]
      rw [RawEvidenceRow.filter_unknown isKnown, everyRow,
        Bool.eq_false_iff]
      intro conflicts
      exact unseen (.unknown none conflicts)

include unseen member in
/-- Rows without an asset mirror the rows with one. -/
theorem unknownMirror_of_unseen
    (isUnknown : isUnknownKey key = true)
    (someKnown : (ofRows group).known ≠ []) :
    (ofRows group).unknownMirror = true := by
  obtain ⟨_, noConflict, _⟩ := no_conflict_of_unseen unseen
  obtain ⟨row, isRow, rfl, _⟩ := row_of_byAsset member
  rw [RawEvidenceRow.isUnknownKey_key] at isUnknown
  have rowUnknown : row.isKnown = false := by
    simpa using isUnknown
  obtain ⟨known, knownMember, isKnown⟩ :
      ∃ known ∈ group, known.isKnown = true := by
    by_contra none
    refine someKnown (known_eq_nil.mpr ?_)
    intro other isOther
    rw [Bool.eq_false_iff]
    intro isKnown
    exact none ⟨other, isOther, isKnown⟩
  rw [unknownAssetConflict_eq isRow rowUnknown knownMember isKnown]
    at noConflict
  simp only [Bool.or_eq_false_iff, Bool.not_eq_false'] at noConflict
  exact noConflict.1.1

include unseen member in
/-- What stands for the rows of one asset when nothing contradicts it. -/
theorem selectAsset_of_unseen :
    ((ofRows group).selectAsset localeCompare hash key rows).rows =
      if isUnknownKey key ∧ (ofRows group).known ≠ [] then
        if semanticConflict localeCompare rows then
          rows.map (·.unresolved)
        else []
      else (chosenRow? localeCompare rows).toList := by
  obtain ⟨_, noConflict, _⟩ := no_conflict_of_unseen unseen
  unfold selectAsset
  dsimp only
  rw [groupConflict_of_unseen unseen, noConflict]
  by_cases beside : isUnknownKey key = true ∧ (ofRows group).known ≠ []
  · have mirrors := unknownMirror_of_unseen unseen member beside.1 beside.2
    rw [if_pos beside, if_pos beside]
    cases semanticConflict localeCompare rows with
    | true =>
        simp
    | false =>
        simp [mirrors]
  · have agree := agree_of_unseen unseen member beside
    rw [if_neg beside, if_neg beside, agree]
    cases chosenRow? localeCompare rows with
    | none =>
        rfl
    | some chosen =>
        rfl

include unseen member in
/-- Only a conflict is reported when nothing else contradicts a hash. -/
theorem warnings_of_unseen
    (agree : semanticConflict localeCompare rows = false) :
    ((ofRows group).selectAsset localeCompare hash key rows).warnings =
      [] := by
  obtain ⟨_, noConflict, _⟩ := no_conflict_of_unseen unseen
  unfold selectAsset
  dsimp only
  rw [groupConflict_of_unseen unseen, noConflict, agree]
  by_cases beside : isUnknownKey key = true ∧ (ofRows group).known ≠ []
  · have mirrors := unknownMirror_of_unseen unseen member beside.1 beside.2
    rw [if_pos beside]
    simp [mirrors]
  · rw [if_neg beside]
    cases chosenRow? localeCompare rows with
    | none =>
        rfl
    | some chosen =>
        rfl

end Unseen

/-! ## One row counts at most -/

/-- The row is still confirmed. -/
def isConfirmed (row : RawEvidenceRow) : Bool :=
  row.movementOutcome == some .confirmed

@[simp] theorem isConfirmed_review (row : RawEvidenceRow) :
    isConfirmed row.review = false :=
  rfl

@[simp] theorem isConfirmed_unresolved (row : RawEvidenceRow) :
    isConfirmed row.unresolved = false :=
  rfl

section Unseen

variable
  (unseen : ¬ ContradictionSeen localeCompare group)
  (member : (key, rows) ∈ (ofRows group).byAsset)

include unseen member in
/-- Nothing that stands beside known assets is confirmed. -/
theorem confirmed_beside
    (beside : isUnknownKey key = true ∧ (ofRows group).known ≠ []) :
    ((ofRows group).selectAsset localeCompare hash key
          rows).rows.filter isConfirmed =
      [] := by
  rw [selectAsset_of_unseen unseen member, if_pos beside]
  split
  · simp
  · rfl

include unseen member in
/-- One row at most stands for the rows of one asset. -/
theorem confirmed_selectAsset :
    (((ofRows group).selectAsset localeCompare hash key
          rows).rows.filter isConfirmed).length ≤
      1 := by
  by_cases beside : isUnknownKey key = true ∧ (ofRows group).known ≠ []
  · rw [confirmed_beside unseen member beside]
    exact Nat.zero_le 1
  · rw [selectAsset_of_unseen unseen member, if_neg beside]
    refine Nat.le_trans (List.length_filter_le _ _) ?_
    cases chosenRow? localeCompare rows with
    | none =>
        exact Nat.zero_le 1
    | some chosen =>
        exact Nat.le_refl 1

end Unseen

/-- The rows of one hash that are still confirmed are at most one. -/
theorem confirmed_select :
    (((ofRows group).select localeCompare hash).rows.filter
        isConfirmed).length ≤
      1 := by
  by_cases seen : ContradictionSeen localeCompare group
  · have none :
        ((ofRows group).select localeCompare hash).rows.filter
            isConfirmed =
          [] := by
      rw [List.filter_eq_nil_iff]
      intro row member
      rw [isConfirmed, review_of_seen seen member]
      decide
    simp [none]
  · obtain ⟨oneAsset, _, _⟩ := no_conflict_of_unseen seen
    rw [select_rows, List.filter_flatMap]
    by_cases known : ∃ row ∈ group, row.isKnown = true
    · obtain ⟨row, isRow, isKnown⟩ := known
      have isGroup := byAsset_of_mem isRow
      have someKnown : (ofRows group).known ≠ [] := by
        intro none
        rw [known_eq_nil.mp none row isRow] at isKnown
        cases isKnown
      -- The only group of a known asset is the one of this row.
      rw [flatMap_of_key byAsset_nodup isGroup]
      · exact confirmed_selectAsset seen isGroup
      · rintro ⟨key, rows⟩ isEntry different
        refine confirmed_beside seen isEntry ⟨?_, someKnown⟩
        obtain ⟨other, isOther, rfl, _⟩ := row_of_byAsset isEntry
        rw [RawEvidenceRow.isUnknownKey_key]
        cases otherKnown : other.isKnown with
        | false =>
            rfl
        | true =>
            have several :=
              multipleKnownAssets_eq_true.mpr
                ⟨other, isOther, row, isRow, otherKnown, isKnown,
                  fun same => different (RawEvidenceRow.key_inj.mpr same)⟩
            rw [oneAsset] at several
            cases several
    · cases group with
      | nil =>
          exact Nat.zero_le 1
      | cons row rest =>
          have isRow : row ∈ row :: rest := List.mem_cons_self
          have isGroup := byAsset_of_mem isRow
          -- Rows without an asset form one group.
          rw [flatMap_of_key byAsset_nodup isGroup]
          · exact confirmed_selectAsset seen isGroup
          · rintro ⟨key, rows⟩ isEntry different
            obtain ⟨other, isOther, rfl, _⟩ := row_of_byAsset isEntry
            have noAsset :
                ∀ row' ∈ row :: rest, row'.isKnown = false := by
              intro row' isRow'
              rw [Bool.eq_false_iff]
              intro isKnown
              exact known ⟨row', isRow', isKnown⟩
            refine absurd (RawEvidenceRow.key_inj.mpr ?_) different
            rw [RawEvidenceRow.asset_of_unknown (noAsset other isOther),
              RawEvidenceRow.asset_of_unknown (noAsset row isRow)]

end HashEvidence

end Sparkz
