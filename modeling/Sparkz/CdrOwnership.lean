import Sparkz.CdrIdentity
import Sparkz.Failure

namespace Sparkz

open JsonText

/-!
# Resolution of the owner

The owner of a record is read at thirty-three paths in a fixed order.  What
the resolution returns or refuses is a function of the values present there.
-/

/-- The value at a path of field names. -/
def valueAt : List String → UnknownRecord → Option CdrValue
  | [], _ => none
  | [name], record => record.read name
  | name :: rest, record =>
      (recordOf (record.read name)).bind (valueAt rest)

/-- A path as the errors show it. -/
def shownPath : List String → String
  | [] => ""
  | [name] => name
  | name :: rest => name ++ "." ++ shownPath rest

/-- The spellings of an owner below a path. -/
def aliasPaths (path : List String) : List (List String) :=
  ["EvcoID", "eMAID", "EMAID"].map fun spelling => path ++ [spelling]

/-- The paths of one identification. -/
def identificationPaths (name : String) : List (List String) :=
  aliasPaths [name] ++
    ownerVariants.flatMap fun variant => aliasPaths [name, variant]

/-- The owner positions in their fixed order, with their protocols. -/
def ownerPositions : List (List String × CdrProtocol) :=
  [(["cdr_token", "contract_id"], .ocpi),
    (["cdr_token_contract_id"], .ocpi),
    (["ContractID"], .oicp)] ++
  (["Identification", "identification"].flatMap identificationPaths).map
    fun path => (path, .oicp)

example : ownerPositions.length = 33 := rfl

/-- The value that is present at a path, with its name. -/
def presentAt
    (input : UnknownRecord)
    (path : List String) :
    Option (String × CdrValue) :=
  ((valueAt path input).filter fun value =>
    hasCdrValue (some value)).map fun value => (shownPath path, value)

/-- The values present in the owner positions, in order. -/
def presentOwners (input : UnknownRecord) : List (String × CdrValue) :=
  ownerPositions.filterMap fun position => presentAt input position.1

/-- A text without white space around it. -/
def IsTrimmedText (value : CdrValue) : Prop :=
  ∃ text, value = .text text ∧ trimText text = text

/-- The text null in any letter case. -/
def isNullText : CdrValue → Bool
  | .text text => lowerText text == "null"
  | _ => false

/-- The positions of the UID of a token. -/
def uidPaths : List (List String) :=
  [["UID"], ["uid"], ["cdr_token_uid"], ["cdr_token", "uid"]] ++
    ["Identification", "identification"].flatMap fun name =>
      [[name, "UID"], [name, "uid"]] ++
        tokenVariants.flatMap fun variant =>
          [[name, variant, "UID"], [name, variant, "uid"]]

/-! ## Collecting candidates -/

section Collecting

variable
  {input : UnknownRecord}
  {protocol : CdrProtocol}
  {positions : List (List String × CdrProtocol)}
  {position : List String × CdrProtocol}
  {candidates result : List EmaidCandidate}
  {source : String}
  {value : Option CdrValue}
  {error : CdrNormalisationError}

/-- Add what stands at one position. -/
def addAt
    (errorProtocol : CdrProtocol)
    (input : UnknownRecord)
    (candidates : List EmaidCandidate)
    (position : List String × CdrProtocol) :
    Except CdrNormalisationError (List EmaidCandidate) :=
  addEmaidCandidate errorProtocol candidates (shownPath position.1)
    (valueAt position.1 input) position.2

/-- An absent value adds nothing. -/
theorem addEmaidCandidate_absent
    {candidateProtocol : CdrProtocol}
    (isAbsent : hasCdrValue value = false) :
    addEmaidCandidate protocol candidates source value candidateProtocol =
      .ok candidates := by
  simp only [addEmaidCandidate, isAbsent, Bool.false_eq_true, if_false]

/-- Positions without values add nothing. -/
theorem foldlM_addAt_absent
    (areAbsent :
      ∀ position ∈ positions, valueAt position.1 input = none) :
    positions.foldlM (addAt protocol input) candidates =
      .ok candidates := by
  induction positions with
  | nil =>
      rfl
  | cons position positions inductionHypothesis =>
      have isAbsent := areAbsent position List.mem_cons_self
      rw [List.foldlM_cons, addAt, isAbsent,
        addEmaidCandidate_absent rfl]
      exact
        inductionHypothesis fun position member =>
          areAbsent position (List.mem_cons_of_mem _ member)

/-- The spellings below a record are read one after the other. -/
theorem addAliases_eq
    {name : String}
    {path : List String}
    {details : UnknownRecord}
    (shown :
      ∀ spelling,
        shownPath (path ++ [spelling]) = name ++ "." ++ spelling)
    (located :
      ∀ spelling,
        valueAt (path ++ [spelling]) input = details.read spelling) :
    addAliases protocol name details candidates =
      ((aliasPaths path).map fun path => (path, CdrProtocol.oicp)).foldlM
        (addAt protocol input) candidates := by
  have dotted :
      ∀ spelling,
        shownPath (path ++ [spelling]) = name ++ ("." ++ spelling) :=
    fun spelling => (shown spelling).trans (String.append_assoc ..)
  simp only [aliasPaths, List.map_cons, List.map_nil, List.foldlM_cons,
    List.foldlM_nil, addAt, dotted, located, bind_pure]
  rfl

/-- The spellings of a part that is no record add nothing. -/
theorem foldlM_aliases_absent
    {path : List String}
    (areAbsent :
      ∀ spelling, valueAt (path ++ [spelling]) input = none) :
    ((aliasPaths path).map fun path => (path, CdrProtocol.oicp)).foldlM
        (addAt protocol input) candidates =
      .ok candidates := by
  apply foldlM_addAt_absent
  intro position member
  simp only [aliasPaths, List.map_cons, List.map_nil, List.mem_cons,
    List.not_mem_nil, or_false] at member
  rcases member with rfl | rfl | rfl
  · exact areAbsent _
  · exact areAbsent _
  · exact areAbsent _

/-- One variant of an identification is read position by position. -/
theorem addVariant_eq
    {name variant : String}
    {identification : UnknownRecord}
    (isIdentification : recordOf (input.read name) = some identification) :
    addVariant protocol name identification candidates variant =
      ((aliasPaths [name, variant]).map fun path =>
          (path, CdrProtocol.oicp)).foldlM
        (addAt protocol input) candidates := by
  have located :
      ∀ spelling,
        valueAt ([name, variant] ++ [spelling]) input =
          (recordOf (identification.read variant)).bind fun details =>
            details.read spelling := by
    intro spelling
    simp only [List.cons_append, List.nil_append, valueAt,
      isIdentification, Option.bind_some]
  rcases isDetails : recordOf (identification.read variant) with
    _ | details
  · rw [addVariant, isDetails, foldlM_aliases_absent]
    intro spelling
    rw [located, isDetails]
    rfl
  · simp only [addVariant, isDetails]
    apply addAliases_eq
    · intro spelling
      simp only [List.cons_append, List.nil_append, shownPath,
        String.append_assoc]
    · intro spelling
      rw [located, isDetails]
      rfl

/-- One identification is read position by position. -/
theorem addIdentification_eq {name : String} :
    addIdentification protocol input candidates name =
      ((identificationPaths name).map fun path =>
          (path, CdrProtocol.oicp)).foldlM
        (addAt protocol input) candidates := by
  simp only [identificationPaths, ownerVariants, List.flatMap_cons,
    List.flatMap_nil, List.append_nil, List.map_append,
    List.foldlM_append]
  rcases isRecord : recordOf (input.read name) with _ | identification
  · have noAliases :
        ∀ (rest : List String) (candidates : List EmaidCandidate),
          ((aliasPaths (name :: rest)).map fun path =>
              (path, CdrProtocol.oicp)).foldlM
              (addAt protocol input) candidates =
            .ok candidates := by
      intro rest candidates
      apply foldlM_aliases_absent
      intro spelling
      rcases rest with _ | ⟨next, rest⟩
      · simp only [List.cons_append, List.nil_append, valueAt, isRecord,
          Option.bind_none]
      · simp only [List.cons_append, valueAt, isRecord, Option.bind_none]
    simp only [addIdentification, isRecord, noAliases, bind, Except.bind]
  · have isAliases :
        addAliases protocol name identification candidates =
          ((aliasPaths [name]).map fun path =>
              (path, CdrProtocol.oicp)).foldlM
            (addAt protocol input) candidates := by
      apply addAliases_eq
      · intro spelling
        rfl
      · intro spelling
        simp only [List.cons_append, List.nil_append, valueAt, isRecord,
          Option.bind_some]
    simp only [addIdentification, isRecord, isAliases, ownerVariants,
      List.foldlM_cons, List.foldlM_nil, bind_pure,
      addVariant_eq isRecord]

/-- The owner positions are read one after the other. -/
theorem collectEmaidCandidates_eq :
    collectEmaidCandidates input protocol =
      ownerPositions.foldlM (addAt protocol input) [] := by
  have isToken :
      addToken protocol input [] =
        addAt protocol input []
          (["cdr_token", "contract_id"], .ocpi) := by
    rcases isRecord : recordOf (input.read "cdr_token") with _ | token
    · simp only [addToken, addAt, valueAt, isRecord, Option.bind_none]
      rw [addEmaidCandidate_absent rfl]
    · simp only [addToken, addAt, valueAt, isRecord, Option.bind_some]
      rfl
  simp only [collectEmaidCandidates, isToken, ownerPositions,
    List.flatMap_cons, List.flatMap_nil, List.append_nil, List.map_append,
    List.foldlM_append, List.foldlM_cons, List.foldlM_nil,
    addIdentification_eq, bind_assoc, bind_pure]
  rfl

/-! ## What is collected -/

/-- What a position may hold. -/
def IsAcceptable (value : Option CdrValue) : Prop :=
  ∀ present,
    value = some present →
    hasCdrValue value = true →
    IsTrimmedText present

/-- The candidate that a value is. -/
def candidateOf
    (source : String)
    (protocol : CdrProtocol) :
    Option CdrValue → Option EmaidCandidate
  | some (.text text) =>
      if trimText text = "" ∨ lowerText text = "null" then none
      else some ⟨source, text, protocol⟩
  | _ => none

/-- A present value that is no text is not acceptable. -/
theorem not_acceptable
    {present : CdrValue}
    (isPresent : hasCdrValue (some present) = true)
    (notTrimmed : ¬ IsTrimmedText present) :
    ¬ IsAcceptable (some present) :=
  fun acceptable => notTrimmed (acceptable present rfl isPresent)

/-- A value that is not present is acceptable. -/
theorem acceptable_of_absent
    (isAbsent : hasCdrValue value = false) :
    IsAcceptable value := by
  intro present _ isPresent
  rw [isAbsent] at isPresent
  cases isPresent

/-- A step adds the candidate, or refuses the value. -/
theorem addEmaidCandidate_cases
    {candidateProtocol : CdrProtocol} :
    (IsAcceptable value ∧
        addEmaidCandidate protocol candidates source value
            candidateProtocol =
          .ok
            (candidates ++
              (candidateOf source candidateProtocol value).toList)) ∨
      ¬ IsAcceptable value ∧
        ∃ message,
          addEmaidCandidate protocol candidates source value
              candidateProtocol =
            .error ⟨.invalidEmaid, message, protocol, [source]⟩ := by
  have noText :
      ∀ present : CdrValue,
        hasCdrValue (some present) = true →
        (∀ text, present ≠ .text text) →
        ¬ IsAcceptable (some present) := by
    intro present isPresent notText
    apply not_acceptable isPresent
    intro isTrimmed
    obtain ⟨text, isText, _⟩ := isTrimmed
    exact notText text isText
  rcases value with _ | present
  · left
    rw [addEmaidCandidate_absent rfl]
    exact ⟨acceptable_of_absent rfl, by simp [candidateOf]⟩
  · cases present with
    | null =>
        left
        rw [addEmaidCandidate_absent rfl]
        exact ⟨acceptable_of_absent rfl, by simp [candidateOf]⟩
    | text text =>
        by_cases isBlank : trimText text = ""
        · have isAbsent : hasCdrValue (some (.text text)) = false := by
            simp [hasCdrValue, isBlank]
          left
          rw [addEmaidCandidate_absent isAbsent]
          exact
            ⟨acceptable_of_absent isAbsent, by
              simp [candidateOf, isBlank]⟩
        · have isPresent : hasCdrValue (some (.text text)) = true := by
            simp [hasCdrValue, isBlank]
          by_cases isTrimmed : trimText text = text
          · left
            constructor
            · intro present isText _
              exact ⟨text, (Option.some.inj isText).symm, isTrimmed⟩
            · have notEmpty : text ≠ "" := by
                rw [← isTrimmed]
                exact isBlank
              by_cases isNull : lowerText text = "null"
              · simp [addEmaidCandidate, candidateOf, isPresent,
                  isTrimmed, isNull]
              · simp [addEmaidCandidate, candidateOf, isPresent,
                  isTrimmed, isNull, notEmpty]
          · right
            constructor
            · apply not_acceptable isPresent
              rintro ⟨other, isOther, otherTrimmed⟩
              cases isOther
              exact isTrimmed otherTrimmed
            · simp only [addEmaidCandidate, isPresent, if_true, ne_eq,
                isTrimmed, not_false_eq_true]
              exact ⟨_, rfl⟩
    | bool flag =>
        exact .inr ⟨noText _ rfl (by simp), _, rfl⟩
    | number number =>
        exact .inr ⟨noText _ rfl (by simp), _, rfl⟩
    | array items =>
        exact .inr ⟨noText _ rfl (by simp), _, rfl⟩
    | object fields =>
        exact .inr ⟨noText _ rfl (by simp), _, rfl⟩

/-- The candidate of a position. -/
def candidateAt
    (input : UnknownRecord)
    (position : List String × CdrProtocol) :
    Option EmaidCandidate :=
  candidateOf (shownPath position.1) position.2
    (valueAt position.1 input)

/-- A whole run collects the candidates, or refuses some position. -/
theorem foldlM_addAt_cases :
    ((∀ position ∈ positions, IsAcceptable (valueAt position.1 input)) ∧
        positions.foldlM (addAt protocol input) candidates =
          .ok (candidates ++ positions.filterMap (candidateAt input))) ∨
      (∃ position ∈ positions,
          ¬ IsAcceptable (valueAt position.1 input)) ∧
        ∃ error,
          positions.foldlM (addAt protocol input) candidates =
              .error error ∧
            error.code = .invalidEmaid := by
  induction positions generalizing candidates with
  | nil =>
      left
      simp [pure, Except.pure]
  | cons position positions inductionHypothesis =>
      rw [List.foldlM_cons, addAt]
      rcases addEmaidCandidate_cases with
        ⟨acceptable, isAdded⟩ | ⟨notAcceptable, message, isRefused⟩
      · rw [isAdded]
        rcases inductionHypothesis with
          ⟨areAcceptable, areAdded⟩ | ⟨someRefused, error, areRefused⟩
        · left
          constructor
          · exact List.forall_mem_cons.mpr ⟨acceptable, areAcceptable⟩
          · refine areAdded.trans ?_
            rw [List.filterMap_cons, candidateAt, List.append_assoc]
            cases candidateOf (shownPath position.1) position.2
                (valueAt position.1 input) with
            | none =>
                rfl
            | some candidate =>
                rfl
        · right
          obtain ⟨refused, member, notAcceptable⟩ := someRefused
          exact
            ⟨⟨refused, List.mem_cons_of_mem _ member, notAcceptable⟩,
              error, areRefused⟩
      · right
        rw [isRefused]
        exact
          ⟨⟨position, List.mem_cons_self, notAcceptable⟩, _, rfl, rfl⟩

/-! ## What is present -/

/-- What a candidate shows of its position. -/
def EmaidCandidate.shown
    (candidate : EmaidCandidate) :
    String × CdrValue :=
  (candidate.source, .text candidate.value)

/-- A position is acceptable when what is present there is a text. -/
theorem isAcceptable_iff :
    IsAcceptable (valueAt position.1 input) ↔
      ∀ owner, presentAt input position.1 = some owner →
        IsTrimmedText owner.2 := by
  rcases isValue : valueAt position.1 input with _ | value
  · simp [IsAcceptable, presentAt, isValue]
  · by_cases isPresent : hasCdrValue (some value) = true
    · simp [IsAcceptable, presentAt, isValue, isPresent]
    · simp [IsAcceptable, presentAt, isValue, isPresent]

/-- The candidate of a position is what is present, unless it is null. -/
theorem candidateAt_shown
    (acceptable : IsAcceptable (valueAt position.1 input)) :
    (candidateAt input position).map EmaidCandidate.shown =
      (presentAt input position.1).filter fun owner =>
        !isNullText owner.2 := by
  unfold candidateAt presentAt
  rcases isValue : valueAt position.1 input with _ | value
  · rfl
  · rw [isValue] at acceptable
    by_cases isPresent : hasCdrValue (some value) = true
    · obtain ⟨text, rfl, _⟩ := acceptable value rfl isPresent
      have notBlank : trimText text ≠ "" := by
        simpa [hasCdrValue] using isPresent
      rw [Option.filter_some, if_pos isPresent, Option.map_some,
        Option.filter_some]
      by_cases isNull : lowerText text = "null"
      · simp [candidateOf, isNull, isNullText]
      · simp [candidateOf, isNull, isNullText, notBlank,
          EmaidCandidate.shown]
    · rw [Option.filter_some, if_neg isPresent]
      cases value with
      | text text =>
          have isBlank : trimText text = "" := by
            simpa [hasCdrValue] using isPresent
          simp [candidateOf, isBlank]
      | _ =>
          rfl

/-- All owners are texts without white space around them. -/
def ValidOwners (input : UnknownRecord) : Prop :=
  ∀ owner ∈ presentOwners input, IsTrimmedText owner.2

/-- The owners other than null. -/
def namedOwners (input : UnknownRecord) : List (String × CdrValue) :=
  (presentOwners input).filter fun owner => !isNullText owner.2

/-- Every position is acceptable when all owners are valid. -/
theorem validOwners_iff :
    ValidOwners input ↔
      ∀ position ∈ ownerPositions,
        IsAcceptable (valueAt position.1 input) := by
  simp only [ValidOwners, presentOwners, List.mem_filterMap,
    isAcceptable_iff]
  exact
    ⟨fun valid position member owner isOwner =>
      valid owner ⟨position, member, isOwner⟩,
    fun valid owner ⟨position, member, isOwner⟩ =>
      valid position member owner isOwner⟩

/-! ## Token UIDs -/

/-- The UIDs below a part of an identification are read at their paths. -/
theorem uidSources_eq
    {name : String}
    {path : List String}
    {details : UnknownRecord}
    (shown :
      ∀ spelling,
        shownPath (path ++ [spelling]) = name ++ ("." ++ spelling))
    (located :
      ∀ spelling,
        valueAt (path ++ [spelling]) input = details.read spelling) :
    [path ++ ["UID"], path ++ ["uid"]].flatMap
        (fun path => sourceIf (valueAt path input) (shownPath path)) =
      uidSources name details := by
  simp only [List.flatMap_cons, List.flatMap_nil, List.append_nil, shown,
    located]
  rfl

/-- The UIDs of one identification are read at their paths. -/
theorem identificationUidSources_eq {name : String} :
    identificationUidSources input name =
      ([[name, "UID"], [name, "uid"]] ++
        tokenVariants.flatMap fun variant =>
          [[name, variant, "UID"], [name, variant, "uid"]]).flatMap
        fun path => sourceIf (valueAt path input) (shownPath path) := by
  rcases isRecord : recordOf (input.read name) with _ | identification
  · have isAbsent :
        ∀ next rest, valueAt (name :: next :: rest) input = none := by
      intro next rest
      simp only [valueAt, isRecord, Option.bind_none]
    rw [identificationUidSources, isRecord]
    refine (List.flatMap_eq_nil_iff.mpr fun path member => ?_).symm
    have noSource : valueAt path input = none := by
      simp only [List.cons_append, List.nil_append, List.mem_cons,
        List.mem_flatMap, List.not_mem_nil, or_false] at member
      rcases member with rfl | rfl | ⟨variant, _, rfl | rfl⟩
      · exact isAbsent _ _
      · exact isAbsent _ _
      · exact isAbsent _ _
      · exact isAbsent _ _
    rw [noSource]
    rfl
  · have ofVariant :
        ∀ variant,
          variantUidSources name identification variant =
            [[name, variant, "UID"], [name, variant, "uid"]].flatMap
              fun path => sourceIf (valueAt path input)
                (shownPath path) := by
      intro variant
      rcases isDetails : recordOf (identification.read variant) with
        _ | details
      · simp [variantUidSources, isDetails, valueAt, isRecord, sourceIf,
          hasCdrValue]
      · rw [variantUidSources, isDetails]
        refine (@uidSources_eq _ _ [name, variant] _ ?_ ?_).symm
        · intro spelling
          simp only [List.cons_append, List.nil_append, shownPath,
            String.append_assoc]
        · intro spelling
          simp only [List.cons_append, List.nil_append, valueAt, isRecord,
            isDetails, Option.bind_some]
    have ofIdentification :
        [[name, "UID"], [name, "uid"]].flatMap
            (fun path => sourceIf (valueAt path input)
              (shownPath path)) =
          uidSources name identification := by
      refine @uidSources_eq _ _ [name] _ ?_ ?_
      · intro spelling
        simp only [List.cons_append, List.nil_append, shownPath,
          String.append_assoc]
      · intro spelling
        simp only [List.cons_append, List.nil_append, valueAt, isRecord,
          Option.bind_some]
    rw [identificationUidSources, isRecord, List.flatMap_append,
      ofIdentification, List.flatMap_assoc]
    exact
      congrArg (uidSources name identification ++ ·)
        (List.flatMap_congr fun variant _ => ofVariant variant)

/-- The UIDs of a record are read at their paths. -/
theorem collectUidSourceFields_eq :
    collectUidSourceFields input =
      uidPaths.flatMap fun path =>
        sourceIf (valueAt path input) (shownPath path) := by
  have ofToken :
      tokenUidSources input =
        sourceIf (valueAt ["cdr_token", "uid"] input)
          (shownPath ["cdr_token", "uid"]) := by
    rcases isRecord : recordOf (input.read "cdr_token") with _ | token
    · simp only [tokenUidSources, valueAt, isRecord, Option.bind_none]
      rfl
    · simp only [tokenUidSources, valueAt, isRecord, Option.bind_some]
      rfl
  rw [uidPaths, List.flatMap_append, List.flatMap_assoc,
    collectUidSourceFields, ofToken]
  simp only [identificationUidSources_eq, List.flatMap_cons,
    List.flatMap_nil, List.append_nil, List.append_assoc]
  rfl

/-- Some spelling of a token UID has a value. -/
def HasUid (input : UnknownRecord) : Prop :=
  ∃ path ∈ uidPaths, hasCdrValue (valueAt path input) = true

theorem collectUidSourceFields_ne_nil_iff :
    collectUidSourceFields input ≠ [] ↔ HasUid input := by
  rw [collectUidSourceFields_eq, ne_eq, List.flatMap_eq_nil_iff]
  push Not
  simp only [sourceIf, HasUid]
  exact
    exists_congr fun path =>
      and_congr_right fun _ => by
        split_ifs with isPresent <;> simp [isPresent]

/-- The candidates are the named owners, or some owner is refused. -/
theorem collect_cases :
    (ValidOwners input ∧
        ∃ candidates,
          collectEmaidCandidates input protocol = .ok candidates ∧
            candidates.map EmaidCandidate.shown = namedOwners input) ∨
      ¬ ValidOwners input ∧
        ∃ error,
          collectEmaidCandidates input protocol = .error error ∧
            error.code = .invalidEmaid := by
  rw [validOwners_iff, collectEmaidCandidates_eq]
  rcases @foldlM_addAt_cases input protocol ownerPositions [] with
    ⟨acceptable, isCollected⟩ | ⟨someRefused, error, isError⟩
  · refine .inl ⟨acceptable, _, isCollected, ?_⟩
    rw [List.nil_append, List.map_filterMap, namedOwners, presentOwners,
      List.filter_filterMap]
    apply List.filterMap_congr
    intro position member
    exact candidateAt_shown (acceptable position member)
  · refine .inr ⟨?_, error, isError⟩
    intro acceptable
    obtain ⟨position, member, notAcceptable⟩ := someRefused
    exact notAcceptable (acceptable position member)

end Collecting

/-! ## Resolution -/

section Resolution

variable
  {input other : UnknownRecord}
  {resolved : ResolvedEmaid}
  {error : CdrNormalisationError}

/-- Two owners other than null differ. -/
def HasConflict (input : UnknownRecord) : Prop :=
  ∃ first ∈ namedOwners input, ∃ second ∈ namedOwners input,
    first.2 ≠ second.2

/-- Two records name the same owners, at whatever positions. -/
def NameSameOwners (input other : UnknownRecord) : Prop :=
  ∀ value,
    (∃ owner ∈ namedOwners input, owner.2 = value) ↔
      ∃ owner ∈ namedOwners other, owner.2 = value

/-- What a resolution is, from the owners that are named. -/
inductive Resolves
    (input : UnknownRecord) :
    Except CdrNormalisationError ResolvedEmaid → Prop
  | invalid {error : CdrNormalisationError} :
      ¬ ValidOwners input →
      error.code = .invalidEmaid →
      Resolves input (.error error)
  | conflicting {error : CdrNormalisationError} :
      ValidOwners input →
      HasConflict input →
      error.code = .conflictingIdentifiers →
      Resolves input (.error error)
  | uidOnly {error : CdrNormalisationError} :
      ValidOwners input →
      namedOwners input = [] →
      HasUid input →
      error.code = .uidOnly →
      Resolves input (.error error)
  | missing {error : CdrNormalisationError} :
      ValidOwners input →
      namedOwners input = [] →
      ¬ HasUid input →
      error.code = .missingEmaid →
      Resolves input (.error error)
  | owner {resolved : ResolvedEmaid} {others : List (String × CdrValue)} :
      ValidOwners input →
      ¬ HasConflict input →
      namedOwners input =
        (resolved.sourceField, .text resolved.eMAID) :: others →
      Resolves input (.ok resolved)

/-- Every resolution is one of these. -/
theorem resolveEmaid_resolves : Resolves input (resolveEmaid input) := by
  rcases @collect_cases input (detectCdrProtocol input) with
    ⟨valid, candidates, isCollected, areNamed⟩ |
      ⟨notValid, error, isError, code⟩
  · unfold resolveEmaid
    simp only [isCollected, bind, Except.bind]
    rcases candidates with _ | ⟨first, others⟩
    · have noneNamed : namedOwners input = [] := areNamed.symm
      by_cases hasUid : HasUid input
      · apply Resolves.uidOnly valid noneNamed hasUid
        rw [withoutCandidates,
          if_pos (collectUidSourceFields_ne_nil_iff.mpr hasUid)]
      · apply Resolves.missing valid noneNamed hasUid
        rw [withoutCandidates,
          if_neg (collectUidSourceFields_ne_nil_iff.not.mpr hasUid)]
    · have firstNamed : first.shown ∈ namedOwners input := by
        rw [← areNamed]
        exact List.mem_cons_self
      rcases isFound :
          others.find? fun other => other.value != first.value with
        _ | candidate
      · simp only [isFound]
        have sameValue :
            ∀ owner ∈ namedOwners input, owner.2 = first.shown.2 := by
          intro owner member
          rw [← areNamed, List.map_cons] at member
          rcases List.mem_cons.mp member with rfl | inOthers
          · rfl
          · obtain ⟨other, isOther, rfl⟩ := List.mem_map.mp inOthers
            have same := List.find?_eq_none.mp isFound other isOther
            simp only [bne_iff_ne, ne_eq, not_not] at same
            rw [EmaidCandidate.shown, same]
            rfl
        refine .owner valid ?_ areNamed.symm
        rintro ⟨one, oneNamed, another, anotherNamed, differ⟩
        exact
          differ
            ((sameValue one oneNamed).trans
              (sameValue another anotherNamed).symm)
      · simp only [isFound]
        refine .conflicting valid ?_ rfl
        have differ : candidate.value ≠ first.value := by
          simpa using List.find?_some isFound
        have candidateNamed : candidate.shown ∈ namedOwners input := by
          rw [← areNamed]
          exact
            List.mem_cons_of_mem _
              (List.mem_map_of_mem (List.mem_of_find?_eq_some isFound))
        refine
          ⟨candidate.shown, candidateNamed, first.shown, firstNamed, ?_⟩
        intro same
        exact differ (Json.text.inj same)
  · unfold resolveEmaid
    simp only [isError, bind, Except.bind]
    exact .invalid notValid code

/-- Without named owners there is no conflict. -/
theorem noConflict_of_noneNamed (noneNamed : namedOwners input = []) :
    ¬ HasConflict input := by
  rintro ⟨first, isFirst, _⟩
  rw [noneNamed] at isFirst
  cases isFirst

/-- A resolved owner is the first one, and the only one. -/
theorem ok_of_resolves
    (isResolved : Resolves input (.ok resolved)) :
    ValidOwners input ∧ ¬ HasConflict input ∧
      (namedOwners input).head? =
        some (resolved.sourceField, .text resolved.eMAID) := by
  cases isResolved with
  | owner valid noConflict areNamed =>
      exact ⟨valid, noConflict, by rw [areNamed]; rfl⟩

/-- The owner of a record without conflicts is the only one. -/
theorem named_of_head
    {first owner : String × CdrValue}
    (noConflict : ¬ HasConflict input)
    (isFirst : (namedOwners input).head? = some first)
    (isNamed : owner ∈ namedOwners input) :
    owner.2 = first.2 := by
  by_contra differ
  exact
    noConflict
      ⟨owner, isNamed, first, List.mem_of_mem_head? isFirst, differ⟩

/-- The error of a record has the code of its first shortcoming. -/
theorem code_of_resolves
    (isError : Resolves input (.error error)) :
    (¬ ValidOwners input → error.code = .invalidEmaid) ∧
      (ValidOwners input → HasConflict input →
        error.code = .conflictingIdentifiers) ∧
      (ValidOwners input → ¬ HasConflict input → HasUid input →
        error.code = .uidOnly) ∧
      (ValidOwners input → ¬ HasConflict input → ¬ HasUid input →
        error.code = .missingEmaid) := by
  cases isError with
  | invalid notValid code =>
      exact
        ⟨fun _ => code, fun valid => absurd valid notValid,
          fun valid => absurd valid notValid,
          fun valid => absurd valid notValid⟩
  | conflicting valid conflict code =>
      exact
        ⟨fun notValid => absurd valid notValid, fun _ _ => code,
          fun _ noConflict => absurd conflict noConflict,
          fun _ noConflict => absurd conflict noConflict⟩
  | uidOnly valid noneNamed hasUid code =>
      exact
        ⟨fun notValid => absurd valid notValid,
          fun _ conflict =>
            absurd conflict (noConflict_of_noneNamed noneNamed),
          fun _ _ _ => code,
          fun _ _ noUid => absurd hasUid noUid⟩
  | missing valid noneNamed noUid code =>
      exact
        ⟨fun notValid => absurd valid notValid,
          fun _ conflict =>
            absurd conflict (noConflict_of_noneNamed noneNamed),
          fun _ _ hasUid => absurd hasUid noUid,
          fun _ _ _ => code⟩

/-- A record resolves when its owners are valid, named and the same. -/
theorem resolveEmaid_ok_iff :
    (∃ resolved, resolveEmaid input = .ok resolved) ↔
      ValidOwners input ∧ namedOwners input ≠ [] ∧
        ¬ HasConflict input := by
  constructor
  · rintro ⟨resolved, isResolved⟩
    obtain ⟨valid, noConflict, isFirst⟩ :=
      ok_of_resolves (isResolved ▸ resolveEmaid_resolves)
    refine ⟨valid, ?_, noConflict⟩
    intro noneNamed
    rw [noneNamed] at isFirst
    cases isFirst
  · rintro ⟨valid, someNamed, noConflict⟩
    have resolves := @resolveEmaid_resolves input
    generalize resolveEmaid input = answer at resolves
    cases resolves with
    | invalid notValid _ =>
        exact absurd valid notValid
    | conflicting _ conflict _ =>
        exact absurd conflict noConflict
    | uidOnly _ noneNamed _ _ =>
        exact absurd noneNamed someNamed
    | missing _ noneNamed _ _ =>
        exact absurd noneNamed someNamed
    | owner _ _ _ =>
        exact ⟨_, rfl⟩

/--
A record resolves exactly when all its owners are trimmed texts, some is not
null and no two others differ; the first one then names the owner.  Otherwise
the error says what is wrong first.  It does not matter which of the positions
repeat the owner.
-/
theorem resolveEmaid_isExact (input : UnknownRecord) :
    ((∃ resolved, resolveEmaid input = .ok resolved) ↔
        ValidOwners input ∧ namedOwners input ≠ [] ∧
          ¬ HasConflict input) ∧
      (∀ resolved, resolveEmaid input = .ok resolved →
        (namedOwners input).head? =
            some (resolved.sourceField, .text resolved.eMAID) ∧
          ∀ owner ∈ namedOwners input,
            owner.2 = .text resolved.eMAID) ∧
      (∀ error, resolveEmaid input = .error error →
        (¬ ValidOwners input → error.code = .invalidEmaid) ∧
          (ValidOwners input → HasConflict input →
            error.code = .conflictingIdentifiers) ∧
          (ValidOwners input → ¬ HasConflict input → HasUid input →
            error.code = .uidOnly) ∧
          (ValidOwners input → ¬ HasConflict input → ¬ HasUid input →
            error.code = .missingEmaid)) ∧
      ∀ other resolved,
        NameSameOwners input other →
        ValidOwners other →
        resolveEmaid input = .ok resolved →
        ∃ otherResolved,
          resolveEmaid other = .ok otherResolved ∧
            otherResolved.eMAID = resolved.eMAID := by
  refine ⟨resolveEmaid_ok_iff, ?_, ?_, ?_⟩
  · intro resolved isResolved
    obtain ⟨_, noConflict, isFirst⟩ :=
      ok_of_resolves (isResolved ▸ resolveEmaid_resolves)
    exact
      ⟨isFirst, fun owner isNamed =>
        named_of_head noConflict isFirst isNamed⟩
  · intro error isError
    exact code_of_resolves (isError ▸ resolveEmaid_resolves)
  · intro other resolved sameOwners otherValid isResolved
    obtain ⟨_, noConflict, isFirst⟩ :=
      ok_of_resolves (isResolved ▸ resolveEmaid_resolves)
    have onlyOwner :
        ∀ owner ∈ namedOwners other, owner.2 = .text resolved.eMAID := by
      intro owner isNamed
      obtain ⟨same, sameNamed, isSame⟩ :=
        (sameOwners owner.2).mpr ⟨owner, isNamed, rfl⟩
      rw [← isSame]
      exact named_of_head noConflict isFirst sameNamed
    obtain ⟨owner, ownerNamed, isOwner⟩ :=
      (sameOwners (.text resolved.eMAID)).mp
        ⟨_, List.mem_of_mem_head? isFirst, rfl⟩
    obtain ⟨otherResolved, isOther⟩ :=
      resolveEmaid_ok_iff.mpr
        ⟨otherValid, List.ne_nil_of_mem ownerNamed, by
          rintro ⟨first, isFirst, second, isSecond, differ⟩
          exact
            differ
              ((onlyOwner first isFirst).trans
                (onlyOwner second isSecond).symm)⟩
    obtain ⟨_, _, otherFirst⟩ :=
      ok_of_resolves (isOther ▸ resolveEmaid_resolves)
    have isSame :=
      onlyOwner _ (List.mem_of_mem_head? otherFirst)
    exact ⟨otherResolved, isOther, Json.text.inj isSame⟩

end Resolution

end Sparkz
