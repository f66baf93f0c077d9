import Sparkz.AuditReasons

namespace Sparkz

open Utf16 UnitTexts

/-!
# The texts of a presentation

Whatever an event holds, the details and the reason that are shown of it are
bounded and have no control characters.
-/

/-- A bounded text without control characters. -/
def Presentable (maxLength : ℕ) (text : JsString) : Prop :=
  IsClean text ∧ text.length ≤ maxLength
  deriving Decidable

theorem cleaned_presentable
    {text shown : JsString}
    {maxLength : ℕ}
    (isShown : cleaned text maxLength = some shown) :
    Presentable maxLength shown := by
  unfold cleaned at isShown
  split at isShown
  · cases isShown
  · cases isShown
    exact
      ⟨(isClean_withSpaces text).trim.take maxLength,
        List.length_take_le _ _⟩

theorem safeText_presentable
    {value : AuditValue}
    {maxLength : ℕ}
    {shown : JsString}
    (isShown : safeText value maxLength = some shown) :
    Presentable maxLength shown := by
  unfold safeText at isShown
  split at isShown
  · exact cleaned_presentable isShown
  · exact cleaned_presentable isShown
  · cases isShown

/-- A text of a choice is presentable when both texts are. -/
theorem presentable_ite
    {condition : Prop}
    [Decidable condition]
    {maxLength : ℕ}
    {first second : JsString}
    (firstPresentable : Presentable maxLength first)
    (secondPresentable : Presentable maxLength second) :
    Presentable maxLength (if condition then first else second) := by
  split
  · exact firstPresentable
  · exact secondPresentable

/-- A character of ASCII that is no control character. -/
def isPrinted (character : Char) : Bool :=
  0x20 ≤ character.toNat && character.toNat < 0x7f

/-- Fixed sentences are checked character by character. -/
theorem presentable_fixed
    {characters : List Char}
    {maxLength : ℕ}
    (printed :
      (characters.all isPrinted && characters.length ≤ maxLength) = true) :
    Presentable maxLength (jsString (String.ofList characters)) := by
  rw [Bool.and_eq_true, List.all_eq_true, decide_eq_true_iff] at printed
  have units :
      jsString (String.ofList characters) =
        characters.map fun character => unitOf character.toNat := by
    rw [jsString, String.toList_ofList, encode, List.map_eq_flatMap]
    apply List.flatMap_congr
    intro character member
    have isCharacter := printed.1 character member
    simp only [isPrinted, Bool.and_eq_true, decide_eq_true_eq]
      at isCharacter
    exact if_pos (isCharacter.2.trans (by decide))
  rw [units]
  refine ⟨?_, by rw [List.length_map]; exact printed.2⟩
  intro unit member
  obtain ⟨character, isMember, rfl⟩ := List.mem_map.mp member
  have isCharacter := printed.1 character isMember
  simp only [isPrinted, Bool.and_eq_true, decide_eq_true_eq] at isCharacter
  have small : character.toNat % 65536 = character.toNat :=
    Nat.mod_eq_of_lt (isCharacter.2.trans (by decide))
  simp only [IsControl, unitOf, Fin.ofNat, small]
  omega

/-! ## Details -/

section Details

variable {details : List AuditPresentationDetail}

/-- The values of details are presentable. -/
def DetailsPresentable (details : List AuditPresentationDetail) : Prop :=
  ∀ detail ∈ details, Presentable 180 detail.value

theorem detailsPresentable_nil : DetailsPresentable [] :=
  fun _ member => absurd member List.not_mem_nil

theorem pushDetail_presentable
    (presentable : DetailsPresentable details)
    (label : JsString)
    (value : AuditValue) :
    DetailsPresentable (pushDetail details label value) := by
  unfold pushDetail
  cases isText : safeText value 180 with
  | none =>
      exact presentable
  | some text =>
      dsimp only
      split
      · exact presentable
      · intro detail member
        rcases List.mem_append.mp member with earlier | added
        · exact presentable detail earlier
        · rw [List.mem_singleton.mp added]
          exact safeText_presentable isText

theorem pushDetails_presentable
    (presentable : DetailsPresentable details)
    (rows : List (JsString × AuditValue)) :
    DetailsPresentable (pushDetails details rows) := by
  unfold pushDetails
  induction rows generalizing details with
  | nil =>
      exact presentable
  | cons row rest inductionHypothesis =>
      exact
        inductionHypothesis (pushDetail_presentable presentable row.1 row.2)

theorem identityDetails_presentable
    (presentable : DetailsPresentable details)
    (normalisation normalisationError : Option MetadataRecord) :
    DetailsPresentable
      (identityDetails details normalisation normalisationError).details :=
  pushDetails_presentable presentable _

theorem addCorrelationDetails_presentable
    {event : AuditPresentationEvent}
    {data : MetadataRecord}
    {shown : List AuditPresentationDetail}
    (presentable : DetailsPresentable details)
    (added : addCorrelationDetails details event data = some shown) :
    DetailsPresentable shown := by
  unfold addCorrelationDetails at added
  have correlated
      {earlier : List AuditPresentationDetail}
      (earlierPresentable : DetailsPresentable earlier)
      (value : AuditValue)
      (diagnosed :
        addDiagnosticDetails (pushDetails earlier (correlationRows data))
          value = some shown) :
      DetailsPresentable shown := by
    have rows :=
      pushDetails_presentable earlierPresentable (correlationRows data)
    unfold addDiagnosticDetails at diagnosed
    split at diagnosed
    · cases diagnosed
      exact rows
    · obtain ⟨diagnostic, _, rfl⟩ := Option.map_eq_some_iff.mp diagnosed
      exact pushDetails_presentable rows diagnostic
  dsimp only at added
  split at added
  · exact correlated (pushDetail_presentable presentable _ _) _ added
  · exact correlated presentable _ added

end Details

/-! ## Reasons -/

/-- The details and the reason of a presentation are presentable. -/
structure AuditPresentation.IsPresentable
    (presentation : AuditPresentation) :
    Prop where
  details : DetailsPresentable presentation.details
  reason : ∀ text ∈ presentation.reason, Presentable 500 text

section Reasons

variable {details : List AuditPresentationDetail}

theorem explained_presentable
    {category : AuditPresentationCategory}
    {reasonLabel reason : JsString}
    {guidance : Option JsString}
    (presentable : DetailsPresentable details)
    (isReason : Presentable 500 reason) :
    (explained category reasonLabel reason guidance
      details).IsPresentable where
  details := presentable
  reason := by
    intro text member
    cases member
    exact isReason

/-- A reason without one is presentable. -/
theorem activity_presentable (presentable : DetailsPresentable details) :
    AuditPresentation.IsPresentable
      { category := .activity
        reasonLabel := none
        reason := none
        guidance := none
        details := details } where
  details := presentable
  reason := by
    intro text member
    cases member

/-- A presentation of a choice is presentable when both are. -/
theorem AuditPresentation.IsPresentable.ite
    {condition : Prop}
    [Decidable condition]
    {first second : AuditPresentation}
    (firstPresentable : first.IsPresentable)
    (secondPresentable : second.IsPresentable) :
    (if condition then first else second).IsPresentable := by
  split
  · exact firstPresentable
  · exact secondPresentable

set_option maxRecDepth 2000 in
theorem skippedReason_presentable (value : AuditValue) :
    Presentable 500 (skippedReason value) := by
  unfold skippedReason
  repeat' apply presentable_ite
  all_goals exact presentable_fixed (by decide)

set_option maxRecDepth 2000 in
theorem reasonForValidation_presentable (value : AuditValue) :
    Presentable 500 (reasonForValidation value) := by
  unfold reasonForValidation
  repeat' apply presentable_ite
  all_goals exact presentable_fixed (by decide)

set_option maxRecDepth 2000 in
/-- The name of an outcome has at most 60 units and stands in a sentence. -/
theorem movementSentence_presentable
    {movementOutcome : JsString}
    (outcome : Presentable 60 movementOutcome) :
    Presentable 500
      (jsString "The backend recorded a " ++ movementOutcome ++
        jsString " token movement outcome. Check the existing transaction and receipt before announcing completion.") := by
  have opening : Presentable 100 (jsString "The backend recorded a ") :=
    presentable_fixed (by decide)
  have ending :
      Presentable 200
        (jsString " token movement outcome. Check the existing transaction and receipt before announcing completion.") :=
    presentable_fixed (by decide)
  refine ⟨(opening.1.append outcome.1).append ending.1, ?_⟩
  rw [List.length_append, List.length_append]
  have lengths := And.intro opening.2 (And.intro outcome.2 ending.2)
  omega

set_option maxRecDepth 2000 in
theorem movementPresentation_presentable
    (data : MetadataRecord)
    {uncertain : AuditPresentation}
    (presentable : DetailsPresentable details)
    (uncertainPresentable : uncertain.IsPresentable) :
    (movementPresentation data details uncertain).IsPresentable := by
  unfold movementPresentation
  split
  · exact uncertainPresentable
  · rename_i movementOutcome isOutcome
    have outcome := safeText_presentable isOutcome
    refine .ite ?_ (.ite ?_ uncertainPresentable)
    · exact
        explained_presentable presentable
          (presentable_fixed (by decide))
    · exact
        explained_presentable presentable
          (movementSentence_presentable outcome)

set_option maxRecDepth 2000 in
theorem presentType_presentable
    (type status : JsString)
    (data : MetadataRecord)
    (presentable : DetailsPresentable details) :
    (presentType type status data details).IsPresentable := by
  unfold presentType
  repeat' apply AuditPresentation.IsPresentable.ite
  all_goals first
    | exact activity_presentable presentable
    | apply movementPresentation_presentable data presentable
    | skip
  all_goals apply explained_presentable presentable
  all_goals repeat' with_reducible apply presentable_ite
  all_goals first
    | with_reducible exact skippedReason_presentable _
    | with_reducible exact reasonForValidation_presentable _
    | exact presentable_fixed (by decide)

set_option maxRecDepth 2000 in
/-- Whatever an event holds, what is shown of it is presentable. -/
theorem presentAuditEvent_presentable
    {event : AuditPresentationEvent}
    {presentation : AuditPresentation}
    (presented : presentAuditEvent event = some presentation) :
    presentation.IsPresentable := by
  obtain ⟨shown, added, rfl⟩ := Option.map_eq_some_iff.mp presented
  have detailsPresentable :=
    addCorrelationDetails_presentable
      (identityDetails_presentable detailsPresentable_nil _ _) added
  split
  · refine explained_presentable detailsPresentable ?_
    cases isMessage :
        (identityDetails [] (event.data.get "normalisation").asRecord
          (event.data.get "normalisationError").asRecord).message with
    | none =>
        exact presentable_fixed (by decide)
    | some message =>
        exact safeText_presentable isMessage
  · exact presentType_presentable _ _ _ detailsPresentable

end Reasons

end Sparkz
