import Mathlib.Data.List.Find
import Sparkz.AlertDisclosure

namespace Sparkz

open Utf16 UnitTexts InsertionMap MetadataRecord AuditValue

/-!
# Raw errors stay out of presentations and alerts

Raw errors, addresses of providers and whole records stand in the metadata of
events under names that are not listed.  They change neither what operators see
nor what is sent, as long as they do not decide which of several objects is
looked into.
-/

/-! ## Members that are not listed -/

section Unlisted

variable {α : Type}
  {view : AuditValue → α}
  {keys : List JsString}
  {name key : JsString}
  {value other : AuditValue}
  {record : MetadataRecord}

/-- A member in front of a record is found under its own name only. -/
theorem get_cons_of_ne (different : key ≠ name) :
    MetadataRecord.get ((name, value) :: record) key = record.get key := by
  unfold MetadataRecord.get MetadataRecord.entries
  rw [get?_assign, get?_assign, List.filter_cons_of_neg]
  simpa using different.symm

/-- A member that stands once has the value that is found under its name. -/
theorem get_cons_self (fresh : name ∉ record.map Prod.fst) :
    MetadataRecord.get ((name, value) :: record) name = value := by
  have nothing : record.filter (·.1 = name) = [] := by
    rw [List.filter_eq_nil_iff]
    intro member isMember isName
    exact
      fresh
        (List.mem_map.mpr ⟨member, isMember, of_decide_eq_true isName⟩)
  unfold MetadataRecord.get MetadataRecord.entries
  rw [get?_assign, List.filter_cons_of_pos (by simp), nothing]
  rfl

theorem get_nil (key : JsString) :
    MetadataRecord.get [] key = .undefined :=
  rfl

/-- A member that is not listed does not matter. -/
theorem agreeOn_cons
    (unlisted : name ∉ keys) :
    AgreeOn view keys ((name, value) :: record) record := by
  intro key member
  have different : key ≠ name := by
    rintro rfl
    exact unlisted member
  rw [get_cons_of_ne different]

theorem MetadataRecord.AgreeOn.symm
    {left right : MetadataRecord}
    (agree : AgreeOn view keys left right) :
    AgreeOn view keys right left :=
  fun key member => (agree key member).symm

theorem diagnosticsAgree_refl (record : MetadataRecord) :
    DiagnosticsAgree record record where
  scalars := fun _ _ => rfl
  failover := fun _ _ => rfl
  nonce := rfl

/-- What is raw in a diagnostic is not read. -/
theorem diagnosticsAgree_cons
    (scalars : name ∉ diagnosticScalarKeys)
    (failover :
      name ∉ ([("rpcFailover" : JsString), "failover"] : List JsString))
    (nonce : jsString "nonce" ≠ name) :
    DiagnosticsAgree record ((name, value) :: record) where
  scalars := fun key member => (agreeOn_cons scalars key member).symm
  failover := fun key member => (agreeOn_cons failover key member).symm
  nonce := by rw [get_cons_of_ne nonce]

/-- The order of two members with different names does not matter. -/
theorem get_swap (different : name ≠ key) (query : JsString) :
    MetadataRecord.get [(name, value), (key, other)] query =
      MetadataRecord.get [(key, other), (name, value)] query := by
  by_cases isName : query = name
  · subst isName
    rw [get_first different, get_second different.symm]
  · by_cases isKey : query = key
    · subst isKey
      rw [get_second different, get_first different.symm]
    · rw [get_cons_of_ne isName, get_cons_of_ne isKey,
        get_cons_of_ne isKey, get_cons_of_ne isName]

end Unlisted

/-! ## Events -/

/-- An address with a key in it, as an unlisted field may hold it. -/
def rawAddress : AuditValue :=
  .text "https://rpc.example/v2/key"

/-- An event with some metadata. -/
def eventOf (metadata : MetadataRecord) : AuditPresentationEvent where
  eventType := .text "cdr.received"
  status := .text "success"
  targetType := .null
  targetId := .null
  metadata := .object metadata

/-- Events of one kind agree when their metadata do. -/
theorem agreesOnListed_eventOf
    {left right : MetadataRecord}
    (correlation : AgreeOn content correlationKeys left right)
    (reason : left.get "reason" = right.get "reason")
    (identity : IdentitiesAgree left right)
    (diagnostic :
      ∀ spelling ∈ diagnosticSpellings,
        DiagnosticsAgree (left.get spelling).record
          (right.get spelling).record) :
    AgreesOnListed (eventOf left) (eventOf right) where
  eventType := rfl
  status := rfl
  targetType := rfl
  targetId := rfl
  correlation := correlation
  reason := congrArg content reason
  identity := identity
  diagnostic := diagnostic

/-- Metadata with a diagnostic under its second spelling. -/
def diagnosedMetadata : MetadataRecord :=
  [("diagnostics", .object [("stage", .text "prepare")])]

/-- The names under which a presentation looks into the metadata. -/
def namesRead : List JsString :=
  "reason" :: "normalisation" :: "normalisationError" ::
    (correlationKeys ++ diagnosticSpellings)

section Events

variable {left right : MetadataRecord}

/-- Events with the same values under the names that are read agree. -/
theorem agreesOnListed_of_get
    (same : ∀ key ∈ namesRead, left.get key = right.get key) :
    AgreesOnListed (eventOf left) (eventOf right) := by
  have reason : left.get "reason" = right.get "reason" :=
    same _ (by simp [namesRead])
  have normalisation :
      left.get "normalisation" = right.get "normalisation" :=
    same _ (by simp [namesRead])
  have failure :
      left.get "normalisationError" = right.get "normalisationError" :=
    same _ (by simp [namesRead])
  have correlation : AgreeOn content correlationKeys left right := by
    intro key member
    rw [same key (by simp [namesRead, member])]
  have identity : IdentitiesAgree left right := by
    refine ⟨?_, ?_, ?_⟩
    · rw [normalisation]
      exact fun _ _ => rfl
    · rw [failure]
      exact fun _ _ => rfl
    · rw [failure]
  refine agreesOnListed_eventOf correlation reason identity ?_
  intro spelling member
  rw [same spelling (by simp [namesRead, member])]
  exact diagnosticsAgree_refl _

theorem sameContainers_of_get
    (same : ∀ key ∈ namesRead, left.get key = right.get key) :
    SameContainers (eventOf left) (eventOf right) where
  rejected :=
    congrArg (fun value => value.asRecord.isSome)
      (same "normalisationError" (by simp [namesRead]))
  spelling := by
    refine List.find?_congr ?_
    intro spelling member
    have found := same spelling (by simp [namesRead, member])
    exact congrArg (fun value => !value.isNullish) found

/-- A raw error is not under a name that is read. -/
theorem error_unread
    (first second : AuditValue)
    (record : MetadataRecord) :
    ∀ key ∈ namesRead,
      MetadataRecord.get (("error", first) :: record) key =
        MetadataRecord.get (("error", second) :: record) key := by
  have unread : jsString "error" ∉ namesRead := by decide
  intro key member
  have different : key ≠ jsString "error" := by
    rintro rfl
    exact unread member
  rw [get_cons_of_ne different, get_cons_of_ne different]

end Events

/-- The alert for an event with some metadata. -/
def alertOf (metadata : MetadataRecord) : AdminAlertEvent where
  eventType := "cdr.received"
  actorType := "system"
  actorId := none
  targetType := none
  targetId := none
  status := "warning"
  metadata := some metadata

/-! ## The two projections -/

/--
Events that agree on what is listed are presented alike and sent with the same
metadata, and every text of either projection is bounded and free of control
characters.
-/
theorem rawErrors_stayOut :
    (∀ left right : AuditPresentationEvent,
      AgreesOnListed left right →
      SameContainers left right →
      presentAuditEvent left = presentAuditEvent right) ∧
    (∀ (left right : AdminAlertEvent)
        (recipient otherRecipient createdAt otherTime : JsString),
      AlertsAgree (left.metadata.getD []) (right.metadata.getD []) →
      (left.metadata.getD []).lastSpelling =
        (right.metadata.getD []).lastSpelling →
      SameMetadata (alertPayload left recipient createdAt).metadata
        (alertPayload right otherRecipient otherTime).metadata) ∧
    (∀ (event : AuditPresentationEvent) (presentation : AuditPresentation),
      presentAuditEvent event = some presentation →
      presentation.IsPresentable) ∧
    (∀ (event : AdminAlertEvent) (recipient createdAt : JsString),
      MetadataPresentable
        (alertPayload event recipient createdAt).metadata) :=
  ⟨fun _ _ agree containers => presentAuditEvent_agree agree containers,
    fun _ _ _ _ _ _ agree spelling => safeMetadata_agree agree spelling,
    fun _ _ presented => presentAuditEvent_presentable presented,
    fun event _ _ => safeMetadata_presentable event.metadata⟩

/-- What is shown of the diagnostic. -/
def diagnosedPresentation : AuditPresentation where
  category := .activity
  reasonLabel := none
  reason := none
  guidance := none
  details := [{ label := "Failure stage", value := "prepare" }]

/-- An address in an error reaches neither operators nor mails. -/
theorem rawErrors_stayOut_address :
    presentAuditEvent (eventOf (("error", rawAddress) :: diagnosedMetadata)) =
        presentAuditEvent (eventOf (("error", .null) :: diagnosedMetadata)) ∧
      SameMetadata
        (alertPayload (alertOf (("error", rawAddress) :: diagnosedMetadata))
          "admin@example.com" "today").metadata
        (alertPayload (alertOf (("error", .null) :: diagnosedMetadata))
          "admin@example.com" "today").metadata ∧
      diagnosedPresentation.IsPresentable ∧
      MetadataPresentable
        (alertPayload (alertOf diagnosedMetadata) "admin@example.com"
          "today").metadata := by
  have agree :
      AlertsAgree (("error", rawAddress) :: diagnosedMetadata)
        (("error", .null) :: diagnosedMetadata) := by
    refine ⟨?_, ?_⟩
    · have fields (value : AuditValue) :
          AgreeOn content safeMetadataKeys
            (("error", value) :: diagnosedMetadata) diagnosedMetadata :=
        agreeOn_cons (by decide)
      exact fun key member =>
        (fields _ key member).trans (fields _ key member).symm
    · intro spelling member
      have found :=
        error_unread rawAddress .null diagnosedMetadata spelling
          (by simp [namesRead, member])
      rw [found]
      exact fun _ _ => rfl
  have presented :
      presentAuditEvent (eventOf diagnosedMetadata) =
        some diagnosedPresentation := by
    decide
  exact
    ⟨rawErrors_stayOut.1 _ _ (agreesOnListed_of_get (error_unread _ _ _))
        (sameContainers_of_get (error_unread _ _ _)),
      rawErrors_stayOut.2.1 _ _ _ _ _ _ agree (by decide),
      rawErrors_stayOut.2.2.1 _ _ presented,
      rawErrors_stayOut.2.2.2 _ _ _⟩

/-! ## Objects that are looked into -/

/-- Metadata of a record that was normalised. -/
def normalisedMetadata : MetadataRecord :=
  [("normalisation", .object [("protocol", .text "OCPP")])]

/-- The same with an error that holds nothing that is listed. -/
def rejectedMetadata : MetadataRecord :=
  ("normalisationError", .object [("raw", rawAddress)]) ::
    normalisedMetadata

/-- The same behind a diagnostic that holds nothing that is listed. -/
def hiddenMetadata : MetadataRecord :=
  ("diagnostic", .object [("url", rawAddress)]) :: diagnosedMetadata

/-- Metadata with two diagnostics. -/
def twiceDiagnosed : MetadataRecord :=
  [("diagnostic", .object [("stage", .text "prepare")]),
    ("diagnostics", .object [("stage", .text "receipt")])]

/-- The same two diagnostics in the other order. -/
def twiceReordered : MetadataRecord :=
  [("diagnostics", .object [("stage", .text "receipt")]),
    ("diagnostic", .object [("stage", .text "prepare")])]

/-- An error without listed fields adds nothing that is listed. -/
theorem normalised_agreesOnListed :
    AgreesOnListed (eventOf normalisedMetadata)
      (eventOf rejectedMetadata) := by
  have other {key : JsString} (different : key ≠ "normalisationError") :
      normalisedMetadata.get key = rejectedMetadata.get key :=
    (get_cons_of_ne different).symm
  have absent :
      (normalisedMetadata.get "normalisationError").record = [] := by
    rw [normalisedMetadata, get_cons_of_ne (by decide), get_nil]
    rfl
  have present :
      (rejectedMetadata.get "normalisationError").record =
        [(jsString "raw", rawAddress)] := by
    unfold rejectedMetadata
    rw [get_cons_self (by decide)]
    rfl
  have identity : IdentitiesAgree normalisedMetadata rejectedMetadata := by
    refine ⟨?_, ?_, ?_⟩
    · rw [other (by decide)]
      exact fun _ _ => rfl
    · rw [absent, present]
      exact fun key member =>
        (agreeOn_cons (by decide) key member).symm
    · rw [absent, present, get_cons_of_ne (by decide)]
  have correlation :
      AgreeOn content correlationKeys rejectedMetadata normalisedMetadata :=
    agreeOn_cons (by decide)
  have diagnostic (spelling : JsString)
      (member : spelling ∈ diagnosticSpellings) :
      DiagnosticsAgree (normalisedMetadata.get spelling).record
        (rejectedMetadata.get spelling).record := by
    have different : spelling ≠ jsString "normalisationError" := by
      rintro rfl
      revert member
      decide
    rw [other different]
    exact diagnosticsAgree_refl _
  exact
    agreesOnListed_eventOf correlation.symm (other (by decide))
      identity diagnostic

/-- A diagnostic without listed fields adds nothing that is listed. -/
theorem diagnosed_agreesOnListed :
    AgreesOnListed (eventOf diagnosedMetadata) (eventOf hiddenMetadata) := by
  have other {key : JsString} (different : key ≠ "diagnostic") :
      diagnosedMetadata.get key = hiddenMetadata.get key :=
    (get_cons_of_ne different).symm
  have absent : (diagnosedMetadata.get "diagnostic").record = [] := by
    rw [diagnosedMetadata, get_cons_of_ne (by decide), get_nil]
    rfl
  have present :
      (hiddenMetadata.get "diagnostic").record =
        [(jsString "url", rawAddress)] := by
    unfold hiddenMetadata
    rw [get_cons_self (by decide)]
    rfl
  have identity : IdentitiesAgree diagnosedMetadata hiddenMetadata := by
    refine ⟨?_, ?_, ?_⟩
    · rw [other (by decide)]
      exact fun _ _ => rfl
    · rw [other (by decide)]
      exact fun _ _ => rfl
    · rw [other (by decide)]
  have correlation :
      AgreeOn content correlationKeys hiddenMetadata diagnosedMetadata :=
    agreeOn_cons (by decide)
  have diagnostic (spelling : JsString)
      (_ : spelling ∈ diagnosticSpellings) :
      DiagnosticsAgree (diagnosedMetadata.get spelling).record
        (hiddenMetadata.get spelling).record := by
    by_cases isFirst : spelling = jsString "diagnostic"
    · rw [isFirst, absent, present]
      exact
        diagnosticsAgree_cons (by decide) (by decide +kernel)
          (by decide)
    · rw [other isFirst]
      exact diagnosticsAgree_refl _
  exact
    agreesOnListed_eventOf correlation.symm (other (by decide))
      identity diagnostic

/-- Two diagnostics in another order have the same fields. -/
theorem twiceDiagnosed_agrees :
    AlertsAgree twiceDiagnosed twiceReordered := by
  have same (key : JsString) :
      twiceDiagnosed.get key = twiceReordered.get key :=
    get_swap (by decide) key
  exact
    { fields := fun key _ => congrArg content (same key)
      diagnostic := by
        intro spelling _ key _
        rw [same spelling] }

/--
Agreement on the listed fields does not decide which object is looked into: an
error makes an event one about an identity, a diagnostic hides another, and of
two diagnostics the later one is sent.
-/
theorem listedFields_notEnough :
    (AgreesOnListed (eventOf normalisedMetadata)
        (eventOf rejectedMetadata) ∧
      presentAuditEvent (eventOf normalisedMetadata) ≠
        presentAuditEvent (eventOf rejectedMetadata)) ∧
    (AgreesOnListed (eventOf diagnosedMetadata) (eventOf hiddenMetadata) ∧
      presentAuditEvent (eventOf diagnosedMetadata) ≠
        presentAuditEvent (eventOf hiddenMetadata)) ∧
    (AlertsAgree twiceDiagnosed twiceReordered ∧
      ¬ SameMetadata (safeMetadata (some twiceDiagnosed))
          (safeMetadata (some twiceReordered))) := by
  refine
    ⟨⟨normalised_agreesOnListed, by decide⟩,
      ⟨diagnosed_agreesOnListed, by decide⟩,
      twiceDiagnosed_agrees, ?_⟩
  intro same
  have first :
      get? (jsString "diagnostic") (safeMetadata (some twiceDiagnosed)) =
        some (.diagnostic [("stage", .text "receipt")]) := by
    decide
  have second :
      get? (jsString "diagnostic") (safeMetadata (some twiceReordered)) =
        some (.diagnostic [("stage", .text "prepare")]) := by
    decide
  have found := same "diagnostic"
  rw [first, second] at found
  cases found with
  | some values =>
      cases values with
      | diagnostic permuted =>
          have equal := List.perm_singleton.mp permuted
          revert equal
          decide

end Sparkz
