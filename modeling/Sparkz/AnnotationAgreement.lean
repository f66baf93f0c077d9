import Sparkz.AnnotationEvidence
import Sparkz.EvidenceAssets

namespace Sparkz

open InsertionMap

/-!
# What an accepted reference shows

A reference is accepted only if no known owner or asset of its rows contradicts
another one or the subject.
-/

/-! ## Agreement -/

/-- No two known owners differ. -/
structure ResolvedReference.SameOwner
    (first second : ResolvedReference) :
    Prop where
  uid :
    ∀ {one other},
      first.uid = some one → second.uid = some other → one = other
  walletAddress :
    ∀ {one other},
      first.walletAddress = some one →
      second.walletAddress = some other →
      lowerText one = lowerText other

/-- The assets do not differ where both are known. -/
structure ResolvedReference.SameAsset
    (first second : ResolvedReference) :
    Prop where
  chainId :
    ∀ {one other},
      first.chainId = some one → second.chainId = some other → one = other
  tokenContractAddress :
    ∀ {one other},
      first.tokenContractAddress = some one →
      second.tokenContractAddress = some other →
      lowerText one = lowerText other

/--
The retained rows of a hash agree with each other and with the subject of a
request.
-/
structure Evidence.Supports
    (evidence : Evidence)
    (request : AdminCorrectionAnnotationRequest)
    (hash : TransactionHash) :
    Prop where
  someRetained : evidence.retained hash ≠ []
  owners :
    ∀ first ∈ evidence.retained hash,
      ∀ second ∈ evidence.retained hash, first.SameOwner second
  subject :
    ∃ target,
      evidence.target request = some target ∧
        ∀ row ∈ evidence.retained hash,
          target.SameOwner row ∧ target.SameAsset row

/-! ## Known texts -/

/-- A value is known when it is there and not empty. -/
theorem mem_knownTexts
    {values : List (Option String)}
    {text : String} :
    text ∈ knownTexts values ↔ some text ∈ values ∧ text ≠ "" := by
  rw [knownTexts, List.mem_eraseDups, List.mem_filterMap]
  constructor
  · rintro ⟨value, member, isText⟩
    obtain ⟨rfl, someText⟩ := orNull_eq_some.mp isText
    exact ⟨member, someText⟩
  · rintro ⟨member, someText⟩
    exact ⟨some text, member, orNull_eq_some.mpr ⟨rfl, someText⟩⟩

/-- Of at most one known text, each is the first. -/
theorem head?_of_mem
    {α : Type}
    {texts : List α}
    {text : α}
    (atMostOne : ¬1 < texts.length)
    (member : text ∈ texts) :
    texts.head? = some text := by
  cases texts with
  | nil =>
      cases member
  | cons first rest =>
      cases rest with
      | nil =>
          rw [List.mem_singleton.mp member]
          rfl
      | cons second rest =>
          simp at atMostOne

theorem lowerText_ne_empty
    {text : String}
    (someText : text ≠ "") :
    lowerText text ≠ "" := by
  intro empty
  apply someText
  have characters := congrArg String.toList empty
  rw [lowerText, String.toList_ofList] at characters
  exact String.toList_eq_nil_iff.mp (List.map_eq_nil_iff.mp characters)

/-! ## One known asset -/

/-- Items that replace each other leave the last of them. -/
theorem folded_last {α : Type} (items : List α) :
    folded (fun (item : α) _ => item) items = items.getLast? := by
  induction items using List.reverseRecOn with
  | nil =>
      rfl
  | append_singleton items item _ =>
      simp [folded]

/-- The only candidate with an asset is the only known asset. -/
theorem knownAssets_of_only
    {candidates : List ResolvedReference}
    {candidate : ResolvedReference}
    {assetKey : String}
    (member : candidate ∈ candidates)
    (isKey : candidate.assetKey? = some assetKey)
    (only :
      ∀ other ∈ candidates, other.assetKey? ≠ none → other = candidate) :
    knownAssets candidates = [candidate] := by
  have entries :
      ∀ entry ∈
        build ResolvedReference.assetKey? (fun candidate _ => candidate)
          candidates,
        entry = (assetKey, candidate) := by
    rintro ⟨query, value⟩ isEntry
    rw [mem_build, folded_last] at isEntry
    have isLast := List.mem_of_mem_getLast? isEntry
    obtain ⟨isCandidate, hasKey⟩ := List.mem_filter.mp isLast
    rw [decide_eq_true_eq] at hasKey
    have same : value = candidate := by
      apply only value isCandidate
      rw [hasKey]
      exact Option.some_ne_none query
    subst same
    rw [isKey] at hasKey
    cases hasKey
    rfl
  have distinct :=
    build_nodup ResolvedReference.assetKey? (fun candidate _ => candidate)
      candidates
  have found :=
    (mem_keys_build ResolvedReference.assetKey?
      (fun candidate _ => candidate)).mpr ⟨candidate, member, isKey⟩
  unfold knownAssets
  revert entries distinct found
  generalize
    build ResolvedReference.assetKey? (fun candidate _ => candidate)
      candidates = entries
  intro areEntries distinct found
  rw [List.eq_replicate_of_mem areEntries] at distinct found ⊢
  rw [List.map_replicate] at distinct found ⊢
  rw [List.nodup_replicate] at distinct
  have someEntry : entries.length ≠ 0 := by
    intro none
    rw [none] at found
    cases found
  have isOne : entries.length = 1 := by omega
  rw [isOne]
  rfl

/-! ## An accepted reference -/

/-- What a reference that was selected says about its candidates. -/
structure ResolvedReference.Covers
    (reference : ResolvedReference)
    (candidates : List ResolvedReference) :
    Prop where
  someCandidate : candidates ≠ []
  uid :
    ∀ candidate ∈ candidates,
      ∀ {text},
        candidate.uid = some text → text ≠ "" → reference.uid = some text
  walletAddress :
    ∀ candidate ∈ candidates,
      ∀ {text},
        candidate.walletAddress = some text → text ≠ "" →
          reference.walletAddress = some (lowerText text)
  asset :
    ∀ candidate ∈ candidates,
      candidate.assetKey? ≠ none →
      (∀ other ∈ candidates,
        other.assetKey? ≠ none → other = candidate) →
      reference.chainId = candidate.chainId ∧
        reference.tokenContractAddress = candidate.tokenContractAddress

/-- A candidate is known by its asset when both of its parts are. -/
theorem assetKey?_ne_none
    {candidate : ResolvedReference} :
    candidate.assetKey? ≠ none ↔
      ∃ chainId token,
        orNull candidate.chainId = some chainId ∧
          orNull candidate.tokenContractAddress = some token := by
  unfold ResolvedReference.assetKey?
  cases isChain : orNull candidate.chainId with
  | none =>
      simp
  | some chainId =>
      cases isToken : orNull candidate.tokenContractAddress with
      | none =>
          simp
      | some token =>
          simp

/-- A selected reference covers its candidates, which are not too many. -/
theorem selectReference_covers
    {candidates : List ResolvedReference}
    {candidateOverflow : Bool}
    {reference : ResolvedReference}
    (selects :
      selectReference candidates candidateOverflow = .ok reference) :
    candidateOverflow = false ∧ reference.Covers candidates := by
  have sameRows : (byRank candidates).Perm candidates :=
    List.perm_insertionSort _ candidates
  unfold selectReference at selects
  dsimp only at selects
  revert selects
  cases ranked : byRank candidates with
  | nil =>
      intro impossible
      cases impossible
  | cons first rest =>
      rw [ranked] at sameRows
      dsimp only
      intro selects
      cases candidateOverflow with
      | true =>
          cases selects
      | false =>
          simp only [Bool.false_eq_true, if_false] at selects
          split at selects
          · cases selects
          rename_i fewOwners
          rw [not_or] at fewOwners
          cases selects
          refine ⟨rfl, ⟨?_, ?_, ?_, ?_⟩⟩
          · rintro rfl
            exact absurd sameRows.eq_nil (List.cons_ne_nil _ _)
          · intro candidate member text isUid someText
            apply head?_of_mem fewOwners.1
            rw [mem_knownTexts]
            refine ⟨List.mem_map.mpr ⟨candidate, ?_, isUid⟩, someText⟩
            exact sameRows.mem_iff.mpr member
          · intro candidate member text isWallet someText
            apply head?_of_mem fewOwners.2
            rw [mem_knownTexts]
            refine
              ⟨List.mem_map.mpr ⟨candidate, sameRows.mem_iff.mpr member, ?_⟩,
                lowerText_ne_empty someText⟩
            rw [isWallet]
            rfl
          · intro candidate member known only
            obtain ⟨key, isKey⟩ := Option.ne_none_iff_exists'.mp known
            have oneAsset :=
              knownAssets_of_only (sameRows.mem_iff.mpr member) isKey
                (fun other isOther =>
                  only other (sameRows.mem_iff.mp isOther))
            obtain ⟨chainId, token, isChain, isToken⟩ :=
              assetKey?_ne_none.mp known
            simp only [oneAsset, List.length_singleton, lt_irrefl, if_false,
              List.head?_cons, Option.bind_some, isChain, isToken]
            exact
              ⟨(orNull_eq_some.mp isChain).1.symm,
                (orNull_eq_some.mp isToken).1.symm⟩

/-- An accepted reference contradicts neither owner nor asset. -/
theorem referenceMatchesTarget_ok
    {target reference : ResolvedReference}
    (accepted : referenceMatchesTarget target reference = .ok ()) :
    (truthy target.uid = true → truthy reference.uid = true →
      target.uid = reference.uid) ∧
    (truthy target.walletAddress = true →
      truthy reference.walletAddress = true →
      target.walletAddress.map lowerText =
        reference.walletAddress.map lowerText) ∧
    (truthy target.chainId = true → truthy reference.chainId = true →
      target.chainId = reference.chainId ∧
        target.tokenContractAddress.map lowerText =
          reference.tokenContractAddress.map lowerText) := by
  unfold referenceMatchesTarget at accepted
  split at accepted
  · cases accepted
  rename_i sameUid
  split at accepted
  · cases accepted
  rename_i sameWallet
  split at accepted
  · cases accepted
  rename_i sameAsset
  simp only [Bool.and_eq_true, Bool.or_eq_true, bne_iff_ne, not_and,
    not_or, not_not] at sameUid sameWallet sameAsset
  refine ⟨?_, ?_, ?_⟩
  · intro targetKnown referenceKnown
    exact sameUid ⟨targetKnown, referenceKnown⟩
  · intro targetKnown referenceKnown
    exact sameWallet ⟨targetKnown, referenceKnown⟩
  · intro targetKnown referenceKnown
    exact sameAsset ⟨targetKnown, referenceKnown⟩

/-! ## The rows of the tables -/

/-- What a row resolves to is not empty where it is known. -/
structure ResolvedReference.Shown (reference : ResolvedReference) : Prop where
  uid : ∀ {text}, reference.uid = some text → text ≠ ""
  walletAddress :
    ∀ {text}, reference.walletAddress = some text → text ≠ ""
  asset :
    (reference.chainId = none ∧ reference.tokenContractAddress = none) ∨
      ∃ chainId token,
        reference.chainId = some chainId ∧
          reference.tokenContractAddress = some token ∧
          chainId ≠ "" ∧ token ≠ ""

theorem or_safeString_ne_empty
    {first second : Option String}
    {maxLength : Nat}
    {text : String}
    (isText :
      (safeString first maxLength).or (safeString second maxLength) =
        some text) :
    text ≠ "" := by
  cases isFirst : safeString first maxLength with
  | none =>
      rw [isFirst, Option.none_or] at isText
      exact safeString_ne_empty isText
  | some content =>
      rw [isFirst, Option.some_or] at isText
      cases isText
      exact safeString_ne_empty isFirst

theorem resolvedReference_shown
    (table : EvidenceTable)
    (row : EvidenceRecord)
    (user : Option UserRecord) :
    (resolvedReference table row user).Shown := by
  refine ⟨or_safeString_ne_empty, or_safeString_ne_empty, ?_⟩
  rcases assetFromContext_cases row.intent_context with
    isUnknown | ⟨chainId, token, stored⟩
  · left
    simp only [resolvedReference, isUnknown]
    exact ⟨rfl, rfl⟩
  · right
    simp only [resolvedReference, stored.isAsset]
    exact
      ⟨chainId, token, rfl, rfl, stored.someDigit, stored.someCharacter⟩

namespace ResolvedReference.Shown

variable {reference : ResolvedReference}

theorem truthy_uid
    (shown : reference.Shown)
    {text : String}
    (isUid : reference.uid = some text) :
    truthy reference.uid = true := by
  rw [isUid]
  exact bne_iff_ne.mpr (shown.uid isUid)

theorem truthy_walletAddress
    (shown : reference.Shown)
    {text : String}
    (isWallet : reference.walletAddress = some text) :
    truthy reference.walletAddress = true := by
  rw [isWallet]
  exact bne_iff_ne.mpr (shown.walletAddress isWallet)

/-- A row that shows a part of its asset shows all of it. -/
theorem assetKey?_of_part
    (shown : reference.Shown)
    (part :
      reference.chainId ≠ none ∨ reference.tokenContractAddress ≠ none) :
    reference.assetKey? ≠ none ∧ truthy reference.chainId = true := by
  rcases shown.asset with
    ⟨noChain, noToken⟩ | ⟨chainId, token, isChain, isToken, shownChain,
      shownToken⟩
  · rw [noChain, noToken] at part
    simp at part
  · rw [assetKey?_ne_none, isChain]
    constructor
    · exact
        ⟨chainId, token, orNull_eq_some.mpr ⟨rfl, shownChain⟩,
          orNull_eq_some.mpr ⟨isToken, shownToken⟩⟩
    · exact bne_iff_ne.mpr shownChain

end ResolvedReference.Shown

namespace Evidence

variable {evidence : Evidence} {hash : TransactionHash}

theorem mem_retained
    {reference : ResolvedReference} :
    reference ∈ evidence.retained hash ↔
      ∃ table, reference ∈ evidence.retainedIn hash table := by
  simp only [retained, List.mem_append]
  constructor
  · rintro ((operation | award) | spend)
    · exact ⟨_, operation⟩
    · exact ⟨_, award⟩
    · exact ⟨_, spend⟩
  · rintro ⟨table, member⟩
    cases table with
    | tokenOperations =>
        exact Or.inl (Or.inl member)
    | awards =>
        exact Or.inl (Or.inr member)
    | spends =>
        exact Or.inr member

theorem shown_of_retained
    {reference : ResolvedReference}
    (member : reference ∈ evidence.retained hash) :
    reference.Shown := by
  obtain ⟨table, member⟩ := mem_retained.mp member
  obtain ⟨row, _, rfl⟩ := List.mem_map.mp member
  exact resolvedReference_shown table row _

/-- Only an operation shows an asset. -/
theorem operation_of_asset
    {reference : ResolvedReference}
    (member : reference ∈ evidence.retained hash)
    (known : reference.assetKey? ≠ none) :
    reference ∈ evidence.retainedIn hash .tokenOperations := by
  obtain ⟨table, member⟩ := mem_retained.mp member
  obtain ⟨row, isRow, rfl⟩ := List.mem_map.mp member
  obtain ⟨stored, _, rfl⟩ := List.mem_map.mp isRow
  cases table with
  | tokenOperations =>
      exact member
  | awards =>
      exact absurd rfl known
  | spends =>
      exact absurd rfl known

/-- No two operations have one hash, so no two rows of it show an asset. -/
theorem asset_unique
    {first second : ResolvedReference}
    (isFirst : first ∈ evidence.retained hash)
    (firstKnown : first.assetKey? ≠ none)
    (isSecond : second ∈ evidence.retained hash)
    (secondKnown : second.assetKey? ≠ none) :
    second = first := by
  have atMostOne :
      ¬1 < (evidence.retainedIn hash .tokenOperations).length := by
    rw [retainedIn, withHash, List.length_map, List.length_map]
    exact Nat.not_lt.mpr (evidence.operationHashes hash)
  have isHead := head?_of_mem atMostOne (operation_of_asset isFirst firstKnown)
  have isHeadToo :=
    head?_of_mem atMostOne (operation_of_asset isSecond secondKnown)
  rw [isHead] at isHeadToo
  exact (Option.some.inj isHeadToo).symm

/-- An accepted reference is supported by the rows it was selected from. -/
theorem supports_of_accepted
    {request : AdminCorrectionAnnotationRequest}
    {target reference : ResolvedReference}
    {candidates : List ResolvedReference}
    {candidateOverflow : Bool}
    (isTarget : evidence.target request = some target)
    (sameRows : candidates.Perm (evidence.retained hash))
    (selects :
      selectReference candidates candidateOverflow = .ok reference)
    (accepted : referenceMatchesTarget target reference = .ok ()) :
    evidence.Supports request hash := by
  obtain ⟨_, covers⟩ := selectReference_covers selects
  obtain ⟨sameUid, sameWallet, sameAsset⟩ :=
    referenceMatchesTarget_ok accepted
  have targetShown : target.Shown := by
    obtain ⟨row, _, rfl⟩ := Option.map_eq_some_iff.mp isTarget
    exact resolvedReference_shown _ row _
  have uidOf :
      ∀ row ∈ evidence.retained hash,
        ∀ {text}, row.uid = some text → reference.uid = some text := by
    intro row member text isUid
    exact
      covers.uid row (sameRows.mem_iff.mpr member) isUid
        ((shown_of_retained member).uid isUid)
  have walletOf :
      ∀ row ∈ evidence.retained hash,
        ∀ {text},
          row.walletAddress = some text →
            reference.walletAddress = some (lowerText text) := by
    intro row member text isWallet
    exact
      covers.walletAddress row (sameRows.mem_iff.mpr member) isWallet
        ((shown_of_retained member).walletAddress isWallet)
  refine ⟨?_, ?_, target, isTarget, ?_⟩
  · intro none
    rw [none] at sameRows
    exact covers.someCandidate sameRows.eq_nil
  · intro first isFirst second isSecond
    constructor
    · intro one other isOne isOther
      have same := (uidOf first isFirst isOne).symm.trans
        (uidOf second isSecond isOther)
      exact Option.some.inj same
    · intro one other isOne isOther
      have same := (walletOf first isFirst isOne).symm.trans
        (walletOf second isSecond isOther)
      exact Option.some.inj same
  · intro row member
    have rowShown := shown_of_retained member
    refine ⟨⟨?_, ?_⟩, ?_⟩
    · intro one other isOne isOther
      have isReference := uidOf row member isOther
      have known : truthy reference.uid = true := by
        rw [isReference]
        exact bne_iff_ne.mpr (rowShown.uid isOther)
      have same := sameUid (targetShown.truthy_uid isOne) known
      rw [isOne, isReference] at same
      exact Option.some.inj same
    · intro one other isOne isOther
      have isReference := walletOf row member isOther
      have known : truthy reference.walletAddress = true := by
        rw [isReference]
        exact
          bne_iff_ne.mpr
            (lowerText_ne_empty (rowShown.walletAddress isOther))
      have same := sameWallet (targetShown.truthy_walletAddress isOne) known
      rw [isOne, isReference, Option.map_some, Option.map_some,
        lowerText_lowerText] at same
      exact Option.some.inj same
    · have assets :
          (target.chainId ≠ none ∨ target.tokenContractAddress ≠ none) →
          (row.chainId ≠ none ∨ row.tokenContractAddress ≠ none) →
          target.chainId = row.chainId ∧
            target.tokenContractAddress.map lowerText =
              row.tokenContractAddress.map lowerText := by
        intro targetPart rowPart
        obtain ⟨_, targetKnown⟩ := targetShown.assetKey?_of_part targetPart
        obtain ⟨hasAsset, rowKnown⟩ := rowShown.assetKey?_of_part rowPart
        obtain ⟨isChain, isToken⟩ :=
          covers.asset row (sameRows.mem_iff.mpr member) hasAsset
            (fun other isOther otherKnown =>
              evidence.asset_unique member hasAsset
                (sameRows.mem_iff.mp isOther) otherKnown)
        rw [← isChain, ← isToken]
        exact sameAsset targetKnown (isChain ▸ rowKnown)
      constructor
      · intro one other isOne isOther
        have same :=
          (assets (.inl (by simp [isOne])) (.inl (by simp [isOther]))).1
        rw [isOne, isOther] at same
        exact Option.some.inj same
      · intro one other isOne isOther
        have same :=
          (assets (.inr (by simp [isOne])) (.inr (by simp [isOther]))).2
        rw [isOne, isOther] at same
        exact Option.some.inj same

end Evidence

end Sparkz
