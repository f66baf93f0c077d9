import Sparkz.EvidenceSelection
import Sparkz.Platform

namespace Sparkz

open InsertionMap

/-!
# A transfer reported as excluded

A warning says that the movement of a hash is excluded from the confirmed
totals.  It is when the contradiction reaches every asset of the hash.  Rows
without an asset that contradict only each other leave the row of the known
asset confirmed, and rows that only the chosen row agrees with are not seen to
contradict each other.
-/

/-! ## Rows of one hash in the report -/

/-- The rows of one hash. -/
def rowsOf
    (hash : TransactionHash)
    (input : List RawEvidenceRow) :
    List RawEvidenceRow :=
  input.filter (·.txHash = some hash)

section Report

variable {localeCompare : String → String → Int}
  {input group : List RawEvidenceRow} {row : RawEvidenceRow}
  {hash : TransactionHash}

/-- Nothing is reported that is not retained from a row. -/
theorem HashEvidence.retained_of_select
    (member :
      row ∈
        ((HashEvidence.ofRows group).select localeCompare hash).rows) :
    ∃ origin ∈ group, Retained origin row := by
  rw [HashEvidence.select_rows] at member
  obtain ⟨⟨key, rows⟩, isGroup, isRow⟩ := List.mem_flatMap.mp member
  obtain ⟨rfl, _⟩ := HashEvidence.mem_byAsset.mp isGroup
  have inGroup :
      ∀ origin ∈ group.filter (·.key = key), origin ∈ group := by
    intro origin isOrigin
    exact (List.mem_filter.mp isOrigin).1
  unfold HashEvidence.selectAsset at isRow
  dsimp only at isRow
  split at isRow
  · split at isRow
    · cases isRow
    · rename_i beside _
      obtain ⟨origin, isOrigin, rfl⟩ := List.mem_map.mp isRow
      have sameKey : origin.key = key := by
        simpa using (List.mem_filter.mp isOrigin).2
      have mark := beside.1
      rw [← sameKey, RawEvidenceRow.isUnknownKey_key] at mark
      exact
        ⟨origin, inGroup origin isOrigin,
          Or.inr (Or.inr ⟨by simpa using mark, rfl⟩)⟩
  · split at isRow
    · cases isRow
    · rename_i chosen isChosen
      dsimp only at isRow
      split at isRow
      · obtain ⟨origin, isOrigin, rfl⟩ := List.mem_map.mp isRow
        exact ⟨origin, inGroup origin isOrigin, Or.inr (Or.inl rfl)⟩
      · rw [List.mem_singleton] at isRow
        subst isRow
        exact
          ⟨row, inGroup row (SortedHead.mem_of_head?_sort isChosen),
            Or.inl rfl⟩

theorem Retained.txHash
    {selected : RawEvidenceRow}
    (retained : Retained row selected) :
    selected.txHash = row.txHash := by
  rcases retained with rfl | rfl | ⟨_, rfl⟩
  · rfl
  · rfl
  · rfl

/-- What is retained of a row shows the same movement and owners. -/
theorem Retained.movement
    {selected : RawEvidenceRow}
    (retained : Retained row selected) :
    selected.direction = row.direction ∧ selected.amount = row.amount ∧
      selected.userId = row.userId ∧ selected.uid = row.uid ∧
      selected.walletAddress = row.walletAddress := by
  rcases retained with rfl | rfl | ⟨_, rfl⟩
  · exact ⟨rfl, rfl, rfl, rfl, rfl⟩
  · exact ⟨rfl, rfl, rfl, rfl, rfl⟩
  · exact ⟨rfl, rfl, rfl, rfl, rfl⟩

theorem mem_byHash :
    (hash, group) ∈ byHash input ↔
      group = rowsOf hash input ∧ group ≠ [] :=
  mem_groupBy _

/-- The rows that the report shows for one hash. -/
theorem mem_dedupeRows_ofHash :
    (row ∈ (dedupeRows localeCompare input).rows ∧
        row.txHash = some hash) ↔
      row ∈
        ((HashEvidence.ofRows (rowsOf hash input)).select localeCompare
          hash).rows := by
  have ofHash :
      ∀ {other : TransactionHash} {row : RawEvidenceRow},
        row ∈
            ((HashEvidence.ofRows (rowsOf other input)).select
              localeCompare other).rows →
          row.txHash = some other := by
    intro other row member
    obtain ⟨origin, isOrigin, retained⟩ :=
      HashEvidence.retained_of_select member
    rw [retained.txHash]
    simpa [rowsOf] using (List.mem_filter.mp isOrigin).2
  constructor
  · rintro ⟨member, isHash⟩
    rcases List.mem_append.mp member with withoutHash | selected
    · have noHash := (List.mem_filter.mp withoutHash).2
      rw [isHash] at noHash
      cases noHash
    · rw [List.flatMap_map] at selected
      obtain ⟨⟨other, rows⟩, isGroup, isRow⟩ :=
        List.mem_flatMap.mp selected
      obtain ⟨rfl, _⟩ := mem_byHash.mp isGroup
      have same := ofHash isRow
      rw [isHash] at same
      cases same
      exact isRow
  · intro member
    have some : rowsOf hash input ≠ [] := by
      obtain ⟨origin, isOrigin, _⟩ :=
        HashEvidence.retained_of_select member
      exact List.ne_nil_of_mem isOrigin
    refine ⟨?_, ofHash member⟩
    refine List.mem_append.mpr (Or.inr ?_)
    rw [List.flatMap_map]
    exact
      List.mem_flatMap.mpr ⟨_, mem_byHash.mpr ⟨rfl, some⟩, member⟩

/-- Every warning of a hash is about that hash. -/
theorem HashEvidence.excluded_of_select
    {evidence : HashEvidence}
    {warning : EvidenceWarning}
    (member :
      warning ∈ (evidence.select localeCompare hash).warnings) :
    warning.excluded? = some hash := by
  rcases HashEvidence.mem_select_warnings.mp member with
    ⟨_, rfl⟩ | ⟨entry, _, isWarning⟩
  · rfl
  · exact HashEvidence.excluded_of_selectAsset isWarning

theorem HashEvidence.select_nil :
    ((HashEvidence.ofRows []).select localeCompare hash).warnings = [] :=
  rfl

/-- The warnings that the report shows about one hash. -/
theorem excluded_dedupeRows :
    (∃ warning ∈ (dedupeRows localeCompare input).warnings,
        warning.excluded? = some hash) ↔
      ((HashEvidence.ofRows (rowsOf hash input)).select localeCompare
          hash).warnings ≠ [] := by
  constructor
  · rintro ⟨warning, member, about⟩
    rw [dedupeRows] at member
    dsimp only at member
    rw [List.mem_eraseDups, List.mem_append, List.mem_append,
      List.mem_append] at member
    rcases member with ((ofHash | missing) | unconfirmed) | unknown
    · rw [List.flatMap_map] at ofHash
      obtain ⟨⟨other, rows⟩, isGroup, isWarning⟩ :=
        List.mem_flatMap.mp ofHash
      obtain ⟨rfl, _⟩ := mem_byHash.mp isGroup
      have same := HashEvidence.excluded_of_select isWarning
      rw [about] at same
      cases same
      exact List.ne_nil_of_mem isWarning
    · split at missing
      · rw [List.mem_singleton.mp missing] at about
        cases about
      · cases missing
    · split at unconfirmed
      · rw [List.mem_singleton.mp unconfirmed] at about
        cases about
      · cases unconfirmed
    · split at unknown
      · rw [List.mem_singleton.mp unknown] at about
        cases about
      · cases unknown
  · intro warned
    obtain ⟨warning, isWarning⟩ := List.exists_mem_of_ne_nil _ warned
    have someRow : rowsOf hash input ≠ [] := by
      intro empty
      rw [empty, HashEvidence.select_nil] at isWarning
      cases isWarning
    refine
      ⟨warning, ?_, HashEvidence.excluded_of_select isWarning⟩
    rw [dedupeRows]
    dsimp only
    rw [List.mem_eraseDups, List.mem_append, List.mem_append,
      List.mem_append, List.flatMap_map]
    exact
      Or.inl <| Or.inl <| Or.inl <|
        List.mem_flatMap.mpr
          ⟨_, mem_byHash.mpr ⟨rfl, someRow⟩, isWarning⟩

end Report

/-! ## Disagreement -/

/-- Two rows of one hash cannot both be right. -/
inductive Disagree (left right : RawEvidenceRow) : Prop where
  | direction (different : left.direction ≠ right.direction)
  | amount (different : left.units ≠ right.units)
  | owner (different : knownOwnerMismatch left right = true)
  | asset
      (leftKnown : left.isKnown = true)
      (rightKnown : right.isKnown = true)
      (different : left.asset ≠ right.asset)

/-- Two rows of a list cannot both be right. -/
def SomeDisagree (group : List RawEvidenceRow) : Prop :=
  ∃ left ∈ group, ∃ right ∈ group, Disagree left right

/-- A hash that is reported as excluded, or should be, is excluded. -/
def ExcludedAsReported
    (localeCompare : String → String → Int)
    (input : List RawEvidenceRow)
    (hash : TransactionHash) :
    Prop :=
  ((∃ warning ∈ (dedupeRows localeCompare input).warnings,
        warning.excluded? = some hash) ∨
      SomeDisagree (rowsOf hash input)) →
    (∀ row ∈ (dedupeRows localeCompare input).rows,
        row.txHash = some hash →
        row.movementOutcome ≠ some .confirmed) ∧
      (∀ windowStart windowEnd,
        ∀ item ∈
          countedRows windowStart windowEnd
            (dedupeRows localeCompare input).rows,
          item.1.txHash ≠ some hash) ∧
      ∀ row ∈ rowsOf hash input,
        ∃ selected ∈ (dedupeRows localeCompare input).rows,
          Retained row selected

/--
The contradiction of a hash reaches every asset, or there is none, or its rows
without an asset contradict each other beside one row that is not confirmed.
-/
inductive ContradictionReachesAll
    (localeCompare : String → String → Int)
    (group : List RawEvidenceRow) :
    Prop where
  | seen (seen : ContradictionSeen localeCompare group)
  | none
      (looseAgree :
        semanticConflict localeCompare (group.filter (!·.isKnown)) =
          false)
      (agree : ¬ SomeDisagree group)
  | unconfirmed
      {chosen : RawEvidenceRow}
      (looseConflict :
        semanticConflict localeCompare (group.filter (!·.isKnown)) =
          true)
      (isChosen :
        chosenRow? localeCompare (group.filter (·.isKnown)) =
          some chosen)
      (notConfirmed : chosen.movementOutcome ≠ some .confirmed)
      (only : ∀ row ∈ group, row.isKnown = true → Retained row chosen)

section Condition

variable {localeCompare : String → String → Int}
  {input group : List RawEvidenceRow} {hash : TransactionHash}

/-- A row that counts is confirmed. -/
theorem confirmed_of_counted
    {windowStart windowEnd : Int}
    {rows : List RawEvidenceRow}
    {item : RawEvidenceRow × Int}
    (counted : item ∈ countedRows windowStart windowEnd rows) :
    item.1 ∈ rows ∧ item.1.movementOutcome = some .confirmed := by
  obtain ⟨row, member, isCounted⟩ := List.mem_filterMap.mp counted
  obtain ⟨amount, isAmount, rfl⟩ := Option.map_eq_some_iff.mp isCounted
  exact
    ⟨member, (RawEvidenceRow.counted?_eq_some_iff.mp isAmount).2.1⟩

/-- The claim is about the rows that one hash contributes. -/
theorem excludedAsReported_iff :
    ExcludedAsReported localeCompare input hash ↔
      (((HashEvidence.ofRows (rowsOf hash input)).select localeCompare
              hash).warnings ≠ [] ∨
          SomeDisagree (rowsOf hash input) →
        (∀ row ∈
            ((HashEvidence.ofRows (rowsOf hash input)).select
              localeCompare hash).rows,
          row.movementOutcome ≠ some .confirmed) ∧
        ∀ row ∈ rowsOf hash input,
          ∃ selected ∈
              ((HashEvidence.ofRows (rowsOf hash input)).select
                localeCompare hash).rows,
            Retained row selected) := by
  unfold ExcludedAsReported
  rw [excluded_dedupeRows]
  have sameOutcome :
      (∀ row ∈ (dedupeRows localeCompare input).rows,
          row.txHash = some hash →
          row.movementOutcome ≠ some .confirmed) ↔
        ∀ row ∈
            ((HashEvidence.ofRows (rowsOf hash input)).select
              localeCompare hash).rows,
          row.movementOutcome ≠ some .confirmed := by
    constructor
    · intro excluded row member
      have both := mem_dedupeRows_ofHash.mpr member
      exact excluded row both.1 both.2
    · intro excluded row member isHash
      exact excluded row (mem_dedupeRows_ofHash.mp ⟨member, isHash⟩)
  have sameRows :
      (∀ row ∈ rowsOf hash input,
          ∃ selected ∈ (dedupeRows localeCompare input).rows,
            Retained row selected) ↔
        ∀ row ∈ rowsOf hash input,
          ∃ selected ∈
              ((HashEvidence.ofRows (rowsOf hash input)).select
                localeCompare hash).rows,
            Retained row selected := by
    constructor
    · intro all row isRow
      obtain ⟨selected, member, retained⟩ := all row isRow
      have isHash : row.txHash = some hash := by
        simpa using (List.mem_filter.mp isRow).2
      rw [← retained.txHash] at isHash
      exact
        ⟨selected, mem_dedupeRows_ofHash.mp ⟨member, isHash⟩, retained⟩
    · intro all row isRow
      obtain ⟨selected, member, retained⟩ := all row isRow
      exact ⟨selected, (mem_dedupeRows_ofHash.mpr member).1, retained⟩
  rw [sameOutcome, sameRows]
  constructor
  · intro law reported
    obtain ⟨excluded, _, all⟩ := law reported
    exact ⟨excluded, all⟩
  · intro law reported
    obtain ⟨excluded, all⟩ := law reported
    refine ⟨excluded, ?_, all⟩
    intro windowStart windowEnd item counted isHash
    obtain ⟨member, confirmed⟩ := confirmed_of_counted counted
    exact
      excluded item.1 (mem_dedupeRows_ofHash.mp ⟨member, isHash⟩)
        confirmed

/-- All rows that name an asset name the same one. -/
theorem filter_key_of_unseen
    (unseen : ¬ ContradictionSeen localeCompare group)
    {row : RawEvidenceRow}
    (member : row ∈ group)
    (isKnown : row.isKnown = true) :
    group.filter (·.key = row.key) = group.filter (·.isKnown) := by
  apply List.filter_congr
  intro other isOther
  cases otherKnown : other.isKnown with
  | false =>
      rw [decide_eq_false_iff_not]
      intro sameKey
      have sameMark := RawEvidenceRow.isKnown_of_key sameKey
      rw [otherKnown, isKnown] at sameMark
      cases sameMark
  | true =>
      rw [decide_eq_true_eq, RawEvidenceRow.key_inj]
      by_contra different
      exact
        unseen (.assets isOther member otherKnown isKnown different)

/-- Without a contradiction across assets, the rows with and without one. -/
theorem mem_select_of_unseen
    (unseen : ¬ ContradictionSeen localeCompare group)
    {known : RawEvidenceRow}
    (knownMember : known ∈ group)
    (isKnown : known.isKnown = true)
    {row : RawEvidenceRow} :
    row ∈
        ((HashEvidence.ofRows group).select localeCompare hash).rows ↔
      chosenRow? localeCompare (group.filter (·.isKnown)) = some row ∨
        (semanticConflict localeCompare (group.filter (!·.isKnown)) =
            true ∧
          ∃ loose ∈ group,
            loose.isKnown = false ∧ row = loose.unresolved) := by
  have someKnown : (HashEvidence.ofRows group).known ≠ [] := by
    intro none
    rw [HashEvidence.known_eq_nil.mp none known knownMember] at isKnown
    cases isKnown
  rw [HashEvidence.select_rows]
  constructor
  · intro member
    obtain ⟨⟨key, rows⟩, isGroup, isRow⟩ := List.mem_flatMap.mp member
    rw [HashEvidence.selectAsset_of_unseen unseen isGroup] at isRow
    obtain ⟨first, isFirst, rfl, _⟩ :=
      HashEvidence.row_of_byAsset isGroup
    obtain ⟨rfl, _⟩ := HashEvidence.mem_byAsset.mp isGroup
    rw [RawEvidenceRow.isUnknownKey_key] at isRow
    cases firstKnown : first.isKnown with
    | true =>
        left
        rw [filter_key_of_unseen unseen isFirst firstKnown] at isRow
        simpa [firstKnown] using isRow
    | false =>
        right
        rw [RawEvidenceRow.filter_unknown firstKnown] at isRow
        simp only [firstKnown, Bool.not_false, true_and, someKnown, ne_eq,
          not_false_eq_true, if_true] at isRow
        split at isRow
        · rename_i conflicts
          obtain ⟨loose, isLoose, rfl⟩ := List.mem_map.mp isRow
          have both := List.mem_filter.mp isLoose
          exact ⟨conflicts, loose, both.1, by simpa using both.2, rfl⟩
        · cases isRow
  · rintro (isChosen | ⟨conflicts, loose, isLoose, looseUnknown, rfl⟩)
    · have isGroup := HashEvidence.byAsset_of_mem knownMember
      refine List.mem_flatMap.mpr ⟨_, isGroup, ?_⟩
      rw [HashEvidence.selectAsset_of_unseen unseen isGroup,
        RawEvidenceRow.isUnknownKey_key,
        filter_key_of_unseen unseen knownMember isKnown]
      simp [isKnown, isChosen]
    · have isGroup := HashEvidence.byAsset_of_mem isLoose
      refine List.mem_flatMap.mpr ⟨_, isGroup, ?_⟩
      rw [HashEvidence.selectAsset_of_unseen unseen isGroup,
        RawEvidenceRow.isUnknownKey_key,
        RawEvidenceRow.filter_unknown looseUnknown]
      simp only [looseUnknown, Bool.not_false, true_and, someKnown, ne_eq,
        not_false_eq_true, if_true, conflicts]
      exact
        List.mem_map.mpr ⟨loose, by simp [isLoose, looseUnknown], rfl⟩

theorem semanticConflict_nil :
    semanticConflict localeCompare [] = false :=
  rfl

/-- Whether anything is reported then. -/
theorem warned_of_unseen
    (unseen : ¬ ContradictionSeen localeCompare group) :
    ((HashEvidence.ofRows group).select localeCompare hash).warnings ≠
        [] ↔
      semanticConflict localeCompare (group.filter (!·.isKnown)) =
        true := by
  constructor
  · intro warned
    obtain ⟨warning, isWarning⟩ := List.exists_mem_of_ne_nil _ warned
    obtain ⟨oneAsset, _, _⟩ := HashEvidence.no_conflict_of_unseen unseen
    rcases HashEvidence.mem_select_warnings.mp isWarning with
      ⟨several, _⟩ | ⟨⟨key, rows⟩, isGroup, isWarning⟩
    · rw [oneAsset] at several
      cases several
    · have conflicts : semanticConflict localeCompare rows = true := by
        by_contra agree
        rw [Bool.not_eq_true] at agree
        rw [HashEvidence.warnings_of_unseen unseen isGroup agree]
          at isWarning
        cases isWarning
      have beside :
          isUnknownKey key = true ∧
            (HashEvidence.ofRows group).known ≠ [] := by
        by_contra leading
        rw [HashEvidence.agree_of_unseen unseen isGroup leading]
          at conflicts
        cases conflicts
      obtain ⟨row, isRow, rfl, _⟩ := HashEvidence.row_of_byAsset isGroup
      obtain ⟨rfl, _⟩ := HashEvidence.mem_byAsset.mp isGroup
      have isUnknown : row.isKnown = false := by
        have mark := beside.1
        rw [RawEvidenceRow.isUnknownKey_key] at mark
        simpa using mark
      rwa [RawEvidenceRow.filter_unknown isUnknown] at conflicts
  · intro conflicts
    have someLoose : group.filter (!·.isKnown) ≠ [] := by
      intro none
      rw [none, semanticConflict_nil] at conflicts
      cases conflicts
    obtain ⟨loose, isLoose⟩ := List.exists_mem_of_ne_nil _ someLoose
    obtain ⟨isRow, isUnknown⟩ := List.mem_filter.mp isLoose
    have looseUnknown : loose.isKnown = false := by
      simpa using isUnknown
    have isGroup := HashEvidence.byAsset_of_mem isRow
    rw [RawEvidenceRow.filter_unknown looseUnknown] at isGroup
    have warned :=
      @HashEvidence.warned_of_conflict _ _ loose.key hash _
        ((HashEvidence.groupConflict_of_unseen unseen).trans conflicts)
    obtain ⟨warning, isWarning⟩ := List.exists_mem_of_ne_nil _ warned
    exact
      List.ne_nil_of_mem
        (HashEvidence.mem_select_warnings.mpr
          (Or.inr ⟨_, isGroup, isWarning⟩))

/-- Without a contradiction and without an asset, one row stands for all. -/
theorem mem_select_of_unknown
    (unseen : ¬ ContradictionSeen localeCompare group)
    (none : ∀ row ∈ group, row.isKnown = false)
    {row : RawEvidenceRow} :
    row ∈
        ((HashEvidence.ofRows group).select localeCompare hash).rows ↔
      chosenRow? localeCompare group = some row := by
  have noneKnown := HashEvidence.known_eq_nil.mpr none
  have everyRow : group.filter (!·.isKnown) = group := by
    rw [List.filter_eq_self]
    intro other isOther
    simp [none other isOther]
  rw [HashEvidence.select_rows]
  constructor
  · intro member
    obtain ⟨⟨key, rows⟩, isGroup, isRow⟩ := List.mem_flatMap.mp member
    rw [HashEvidence.selectAsset_of_unseen unseen isGroup] at isRow
    obtain ⟨first, isFirst, rfl, _⟩ :=
      HashEvidence.row_of_byAsset isGroup
    obtain ⟨rfl, _⟩ := HashEvidence.mem_byAsset.mp isGroup
    rw [RawEvidenceRow.filter_unknown (none first isFirst),
      everyRow] at isRow
    simpa [noneKnown] using isRow
  · intro isChosen
    have isRow := SortedHead.mem_of_head?_sort isChosen
    have isGroup := HashEvidence.byAsset_of_mem isRow
    refine List.mem_flatMap.mpr ⟨_, isGroup, ?_⟩
    rw [HashEvidence.selectAsset_of_unseen unseen isGroup,
      RawEvidenceRow.filter_unknown (none row isRow), everyRow]
    simp [noneKnown, isChosen]

/-- Without any contradiction one row stands for all. -/
theorem select_of_agree
    (unseen : ¬ ContradictionSeen localeCompare group)
    (looseAgree :
      semanticConflict localeCompare (group.filter (!·.isKnown)) =
        false) :
    ∃ leading : List RawEvidenceRow,
      ∀ row,
        row ∈
            ((HashEvidence.ofRows group).select localeCompare hash).rows ↔
          chosenRow? localeCompare leading = some row := by
  by_cases known : ∃ row ∈ group, row.isKnown = true
  · obtain ⟨known, knownMember, isKnown⟩ := known
    refine ⟨group.filter (·.isKnown), ?_⟩
    intro row
    rw [mem_select_of_unseen unseen knownMember isKnown, looseAgree]
    simp
  · refine ⟨group, ?_⟩
    intro row
    refine mem_select_of_unknown unseen ?_
    intro other isOther
    rw [Bool.eq_false_iff]
    intro isKnown
    exact known ⟨other, isOther, isKnown⟩

/-- A row with an asset is not retained by one without. -/
theorem not_retained_unresolved
    {row loose : RawEvidenceRow}
    (isKnown : row.isKnown = true) :
    ¬ Retained row loose.unresolved := by
  have looseUnknown : loose.unresolved.isKnown = false := rfl
  rintro (same | same | ⟨isUnknown, _⟩)
  · rw [same, isKnown] at looseUnknown
    cases looseUnknown
  · rw [same] at looseUnknown
    have reviewKnown : row.review.isKnown = true := isKnown
    rw [reviewKnown] at looseUnknown
    cases looseUnknown
  · rw [isKnown] at isUnknown
    cases isUnknown

/-- Rows that one row retains all of agree. -/
theorem agree_of_retained
    {chosen left right : RawEvidenceRow}
    (leftRetained : Retained left chosen)
    (rightRetained : Retained right chosen)
    (oneAsset :
      left.isKnown = true →
      right.isKnown = true →
      left.asset = right.asset) :
    ¬ Disagree left right := by
  obtain ⟨leftDirection, leftAmount, leftUser, leftUid, leftWallet⟩ :=
    leftRetained.movement
  obtain ⟨rightDirection, rightAmount, rightUser, rightUid, rightWallet⟩ :=
    rightRetained.movement
  intro disagree
  cases disagree with
  | direction different =>
      exact different (leftDirection.symm.trans rightDirection)
  | amount different =>
      refine different ?_
      rw [RawEvidenceRow.units, RawEvidenceRow.units, ← leftAmount,
        ← rightAmount]
  | owner different =>
      rw [knownOwnerMismatch, ← leftUser, ← leftUid, ← leftWallet,
        ← rightUser, ← rightUid, ← rightWallet] at different
      simp [knownAndDifferent] at different
  | asset leftKnown rightKnown different =>
      exact different (oneAsset leftKnown rightKnown)

/-- Where one row stands for all, none of them disagree. -/
theorem agree_of_chosen
    (unseen : ¬ ContradictionSeen localeCompare group)
    {chosen : RawEvidenceRow}
    (all : ∀ row ∈ group, Retained row chosen) :
    ¬ SomeDisagree group := by
  rintro ⟨left, isLeft, right, isRight, disagree⟩
  refine
    agree_of_retained (all left isLeft) (all right isRight) ?_ disagree
  intro leftKnown rightKnown
  by_contra different
  exact unseen (.assets isLeft isRight leftKnown rightKnown different)

end Condition

/--
A transfer that is reported as excluded is excluded, and all its rows are
shown, exactly when its contradiction reaches every asset of its hash.
-/
theorem excludedAsReported_iff_reachesAll
    (localeCompare : String → String → Int)
    (input : List RawEvidenceRow)
    (hash : TransactionHash) :
    ExcludedAsReported localeCompare input hash ↔
      ContradictionReachesAll localeCompare (rowsOf hash input) := by
  rw [excludedAsReported_iff]
  generalize rowsOf hash input = group
  by_cases seen : ContradictionSeen localeCompare group
  · refine ⟨fun _ => .seen seen, fun _ _ => ⟨?_, ?_⟩⟩
    · intro row member
      rw [HashEvidence.review_of_seen seen member]
      decide
    · intro row member
      obtain ⟨selected, isSelected, retained, _⟩ :=
        @HashEvidence.retained_of_conflict _ _ _ hash member
          (HashEvidence.groupConflict_of_seen seen
            (HashEvidence.byAsset_of_mem member))
      exact ⟨selected, isSelected, retained⟩
  · rw [warned_of_unseen seen]
    cases loose :
        semanticConflict localeCompare (group.filter (!·.isKnown)) with
    | false =>
        obtain ⟨leading, selected⟩ :=
          @select_of_agree _ _ hash seen loose
        constructor
        · intro law
          refine .none loose ?_
          intro disagree
          have all := (law (Or.inr disagree)).2
          have someRow := disagree
          obtain ⟨left, isLeft, _⟩ := someRow
          obtain ⟨chosen, isChosen, _⟩ := all left isLeft
          refine @agree_of_chosen _ _ seen chosen ?_ disagree
          intro row member
          obtain ⟨other, isOther, retained⟩ := all row member
          have same :=
            ((selected chosen).mp isChosen).symm.trans
              ((selected other).mp isOther)
          cases same
          exact retained
        · intro reaches reported
          cases reaches with
          | seen isSeen =>
              exact absurd isSeen seen
          | none _ agree =>
              rcases reported with impossible | disagree
              · cases impossible
              · exact absurd disagree agree
          | unconfirmed looseConflict =>
              rw [loose] at looseConflict
              cases looseConflict
    | true =>
        obtain ⟨known, knownMember, isKnown⟩ :
            ∃ row ∈ group, row.isKnown = true := by
          by_contra none
          have noneKnown : ∀ row ∈ group, row.isKnown = false := by
            intro row member
            rw [Bool.eq_false_iff]
            intro isKnown
            exact none ⟨row, member, isKnown⟩
          have everyRow : group.filter (!·.isKnown) = group := by
            rw [List.filter_eq_self]
            intro other isOther
            simp [noneKnown other isOther]
          rw [everyRow] at loose
          exact seen (.unknown noneKnown loose)
        have selected :
            ∀ row,
              row ∈
                  ((HashEvidence.ofRows group).select localeCompare
                    hash).rows ↔
                chosenRow? localeCompare (group.filter (·.isKnown)) =
                    some row ∨
                  ∃ loose ∈ group,
                    loose.isKnown = false ∧ row = loose.unresolved := by
          intro row
          rw [mem_select_of_unseen seen knownMember isKnown, loose]
          simp
        constructor
        · intro law
          obtain ⟨notConfirmed, all⟩ := law (Or.inl rfl)
          have ofKnown :
              ∀ row ∈ group,
                row.isKnown = true →
                ∃ chosen,
                  chosenRow? localeCompare (group.filter (·.isKnown)) =
                      some chosen ∧
                    Retained row chosen := by
            intro row member rowKnown
            obtain ⟨chosen, isSelected, retained⟩ := all row member
            rcases (selected chosen).mp isSelected with
              isChosen | ⟨loose, _, _, rfl⟩
            · exact ⟨chosen, isChosen, retained⟩
            · exact absurd retained (not_retained_unresolved rowKnown)
          obtain ⟨chosen, isChosen, _⟩ := ofKnown known knownMember isKnown
          refine
            .unconfirmed loose isChosen
              (notConfirmed chosen ((selected chosen).mpr
                (Or.inl isChosen))) ?_
          intro row member rowKnown
          obtain ⟨other, isOther, retained⟩ := ofKnown row member rowKnown
          have same := isChosen.symm.trans isOther
          cases same
          exact retained
        · intro reaches _
          cases reaches with
          | seen isSeen =>
              exact absurd isSeen seen
          | none looseAgree =>
              rw [loose] at looseAgree
              cases looseAgree
          | @unconfirmed chosen _ isChosen notConfirmed only =>
              constructor
              · intro row member
                rcases (selected row).mp member with
                  isRow | ⟨loose, _, _, rfl⟩
                · have same := isChosen.symm.trans isRow
                  cases same
                  exact notConfirmed
                · intro impossible
                  cases impossible
              · intro row member
                cases rowKnown : row.isKnown with
                | true =>
                    exact
                      ⟨chosen, (selected chosen).mpr (Or.inl isChosen),
                        only row member rowKnown⟩
                | false =>
                    exact
                      ⟨row.unresolved,
                        (selected _).mpr
                          (Or.inr ⟨row, member, rowKnown, rfl⟩),
                        Or.inr (Or.inr ⟨rowKnown, rfl⟩)⟩

/-! ## Mirrors that contradict each other -/

/-- A confirmed operation whose owner is not known. -/
def confirmedOperation : RawEvidenceRow where
  source := .tokenOperation
  id := "operation-1"
  uid := none
  walletAddress := none
  userId := none
  amount := .text "5.00"
  movementOutcome := some .confirmed
  txHash := some .sample
  intentContext :=
    some ⟨some
      ⟨some "80002", some "0x00000000000000000000000000000000000000aa"⟩⟩
  activityAt := some 0
  direction := .issued
  rank := 3

/-- An award that mirrors it for one user, without naming an asset. -/
def mirroringAward (id userId : String) : RawEvidenceRow :=
  { confirmedOperation with
    source := .award
    id := id
    userId := some userId
    intentContext := none
    rank := 2 }

/-- `localeCompare` on identifiers of one letter case. -/
def compareIds (left right : String) : Int :=
  if left = right then 0 else if left < right then -1 else 1

/-- The operation with two awards that cannot both mirror it. -/
def conflictingMirrors : List RawEvidenceRow :=
  [confirmedOperation, mirroringAward "award-1" "user-1",
    mirroringAward "award-2" "user-2"]

/-- The warning is given, and the operation still counts. -/
theorem conflictingMirrors_stillCounted :
    ¬ ExcludedAsReported compareIds conflictingMirrors .sample := by
  intro law
  have warned :
      EvidenceWarning.unresolvedAsset .sample ∈
        (dedupeRows compareIds conflictingMirrors).warnings := by
    decide +kernel
  have isShown :
      confirmedOperation ∈
        (dedupeRows compareIds conflictingMirrors).rows := by
    decide +kernel
  exact
    (law (Or.inl ⟨_, warned, rfl⟩)).1 confirmedOperation isShown rfl rfl

end Sparkz
