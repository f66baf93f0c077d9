import Mathlib.Data.List.Basic
import Sparkz.EvidenceRows

namespace Sparkz

/-!
# Asset keys

The report keeps its groups and its totals under a text made of the asset.  Two
assets of rows have the same text only if they are the same.
-/

/-- The asset of a row whose context names none. -/
def AdminEvidenceAsset.unknown : AdminEvidenceAsset where
  chainId := none
  tokenContractAddress := none
  provenance := .legacyUnknown

/-- An asset that a context names is made of safe texts. -/
structure AdminEvidenceAsset.IsStored
    (asset : AdminEvidenceAsset)
    (chainId tokenContractAddress : String) :
    Prop where
  isAsset :
    asset =
      ⟨some chainId, some tokenContractAddress, .storedOperationContext⟩
  digits : ∀ character ∈ chainId.toList, character.isDigit = true
  someDigit : chainId ≠ ""
  noMark : '|' ∉ tokenContractAddress.toList
  someCharacter : tokenContractAddress ≠ ""

/-- The lower case of a token address contains no separator. -/
theorem noMark_of_isSafeTokenAddress
    {text : String}
    (safe : isSafeTokenAddress text = true) :
    '|' ∉ (lowerText text).toList ∧ lowerText text ≠ "" := by
  unfold isSafeTokenAddress at safe
  split at safe
  · rename_i mark digits shape
    simp only [Bool.and_eq_true, Bool.or_eq_true, beq_iff_eq,
      List.all_eq_true, List.contains_iff_mem] at safe
    obtain ⟨⟨isMark, _⟩, areDigits⟩ := safe
    have noDigit :
        hexDigits.all (fun digit => digit.toLower != '|') = true := by
      decide +kernel
    have characters :
        (lowerText text).toList =
          '0' :: mark.toLower :: digits.map Char.toLower := by
      simp only [lowerText, String.toList_ofList, shape, List.map_cons]
      rfl
    constructor
    · rw [characters]
      intro member
      rcases List.mem_cons.mp member with isZero | member
      · revert isZero
        decide
      rcases List.mem_cons.mp member with isSecond | member
      · rcases isMark with rfl | rfl
        · revert isSecond
          decide
        · revert isSecond
          decide
      · obtain ⟨digit, isDigit, lower⟩ := List.mem_map.mp member
        have different :=
          List.all_eq_true.mp noDigit digit (areDigits digit isDigit)
        simp [lower] at different
    · intro empty
      rw [empty] at characters
      simp at characters
  · cases safe

/-- A row names an asset made of safe texts, or it names none. -/
theorem assetFromContext_cases
    (intentContext : Option EvidenceContext) :
    assetFromContext intentContext = .unknown ∨
      ∃ chainId tokenContractAddress,
        (assetFromContext intentContext).IsStored chainId
          tokenContractAddress := by
  unfold assetFromContext
  dsimp only
  split
  · rename_i chainId token isChain isToken
    rw [Option.filter_eq_some_iff] at isChain
    obtain ⟨_, safeChain⟩ := isChain
    obtain ⟨text, isText, rfl⟩ := Option.map_eq_some_iff.mp isToken
    rw [Option.filter_eq_some_iff] at isText
    simp only [isSafeChainId, Bool.and_eq_true, decide_eq_true_eq,
      List.all_eq_true] at safeChain
    obtain ⟨noMark, someCharacter⟩ :=
      noMark_of_isSafeTokenAddress isText.2
    refine Or.inr ⟨chainId, lowerText text, ?_⟩
    refine ⟨rfl, safeChain.2, ?_, noMark, someCharacter⟩
    rintro rfl
    exact safeChain.1.1 rfl
  · exact Or.inl rfl

/-- The key of an asset that a context names. -/
theorem AdminEvidenceAsset.IsStored.key
    {asset : AdminEvidenceAsset}
    {chainId tokenContractAddress : String}
    (stored : asset.IsStored chainId tokenContractAddress) :
    assetKey asset =
      chainId ++ "|" ++ tokenContractAddress ++ "|" ++ "known" := by
  rw [stored.isAsset]
  simp [assetKey, orText, orNull, truthy, stored.someDigit,
    stored.someCharacter]

/-- A key begins with a digit when the asset is known. -/
theorem AdminEvidenceAsset.IsStored.isUnknownKey
    {asset : AdminEvidenceAsset}
    {chainId tokenContractAddress : String}
    (stored : asset.IsStored chainId tokenContractAddress) :
    isUnknownKey (assetKey asset) = false := by
  rw [stored.key]
  cases characters : chainId.toList with
  | nil =>
      exact absurd (String.toList_eq_nil_iff.mp characters) stored.someDigit
  | cons first rest =>
      have isDigit : first.isDigit = true := by
        apply stored.digits
        rw [characters]
        exact List.mem_cons_self
      have notMark : ('u' == first) = false := by
        rw [beq_eq_false_iff_ne]
        rintro rfl
        revert isDigit
        decide
      simp [Sparkz.isUnknownKey, hasPrefix, characters, List.isPrefixOf,
        notMark]

namespace RawEvidenceRow

variable {row left right : RawEvidenceRow}

/-- The row names its asset. -/
def isKnown (row : RawEvidenceRow) : Bool :=
  row.asset.provenance == .storedOperationContext

theorem isUnknownKey_key : isUnknownKey row.key = !row.isKnown := by
  rcases assetFromContext_cases row.intentContext with
    isUnknown | ⟨chainId, token, stored⟩
  · have isAsset : row.asset = .unknown := isUnknown
    rw [key, isKnown, isAsset]
    decide
  · have isAsset : row.asset = _ := stored.isAsset
    have notUnknown : isUnknownKey row.key = false := stored.isUnknownKey
    rw [notUnknown, isKnown, isAsset]
    rfl

/-- Rows that name no asset share one key. -/
theorem asset_of_unknown
    (isUnknown : row.isKnown = false) :
    row.asset = .unknown := by
  rcases assetFromContext_cases row.intentContext with
    isAsset | ⟨chainId, token, stored⟩
  · exact isAsset
  · have isAsset : row.asset = _ := stored.isAsset
    rw [isKnown, isAsset] at isUnknown
    cases isUnknown

theorem stored_of_known
    (isKnown : row.isKnown = true) :
    ∃ chainId tokenContractAddress,
      row.asset.IsStored chainId tokenContractAddress := by
  rcases assetFromContext_cases row.intentContext with
    isUnknown | stored
  · have isAsset : row.asset = .unknown := isUnknown
    rw [RawEvidenceRow.isKnown, isAsset] at isKnown
    cases isKnown
  · exact stored

/-- Rows with one key both name their asset or both do not. -/
theorem isKnown_of_key
    (same : left.key = right.key) :
    left.isKnown = right.isKnown := by
  have sameMark : isUnknownKey left.key = isUnknownKey right.key := by
    rw [same]
  rw [isUnknownKey_key, isUnknownKey_key] at sameMark
  simpa using sameMark

/-- Two rows have the same key exactly when they have the same asset. -/
theorem key_inj : left.key = right.key ↔ left.asset = right.asset := by
  constructor
  · intro same
    have sameMark := isKnown_of_key same
    cases leftKnown : left.isKnown with
    | false =>
        rw [leftKnown] at sameMark
        rw [asset_of_unknown leftKnown, asset_of_unknown sameMark.symm]
    | true =>
        rw [leftKnown] at sameMark
        obtain ⟨leftChain, leftToken, leftStored⟩ :=
          stored_of_known leftKnown
        obtain ⟨rightChain, rightToken, rightStored⟩ :=
          stored_of_known sameMark.symm
        have noMark : '|' ∉ leftChain.toList := by
          intro member
          have isDigit := leftStored.digits '|' member
          revert isDigit
          decide
        have characters :
            leftChain.toList ++ '|' :: leftToken.toList =
              rightChain.toList ++ '|' :: rightToken.toList := by
          have sameKey : assetKey left.asset = assetKey right.asset := same
          rw [leftStored.key, rightStored.key] at sameKey
          have full := congrArg String.toList sameKey
          simp only [String.toList_append] at full
          have inFront :=
            List.append_cancel_right (List.append_cancel_right full)
          simpa using inFront
        rw [List.append_cons_inj_of_notMem noMark leftStored.noMark]
          at characters
        rw [leftStored.isAsset, rightStored.isAsset,
          String.toList_inj.mp characters.1,
          String.toList_inj.mp characters.2.2]
  · intro same
    rw [key, key, same]

end RawEvidenceRow

end Sparkz
