import Sparkz.AlertMetadata
import Sparkz.AuditDisclosure
import Sparkz.AuditTexts

namespace Sparkz

open Utf16 UnitTexts InsertionMap MetadataRecord AuditValue

/-!
# What the metadata of an alert depends on

The projection that is sent is a function of the scalars under the listed
names.  It is an object: the order of its members is that of the event and says
nothing more.
-/

/-- Two values of a projection have the same members in some order. -/
inductive AlertValue.Same : AlertValue → AlertValue → Prop where
  | scalar (value : AlertScalar) : Same (.scalar value) (.scalar value)
  | diagnostic
      {left right : List (JsString × AlertScalar)}
      (permuted : left.Perm right) :
      Same (.diagnostic left) (.diagnostic right)

/-- Two projections are the same as objects. -/
def SameMetadata (left right : List (JsString × AlertValue)) : Prop :=
  ∀ key, Option.Rel AlertValue.Same (get? key left) (get? key right)

/-! ## Scalars -/

section Scalars

variable {left right : AuditValue}

theorem reported_content (value : AuditValue) :
    reported value.content = reported value := by
  cases value <;> rfl

/-- A text that is reported is presentable. -/
theorem reported_presentable
    {value : AuditValue}
    {text : JsString}
    (isReported : reported value = some (.text text)) :
    Presentable 180 text := by
  cases value with
  | text shown =>
      cases isReported
      exact
        ⟨(isClean_withSpaces shown).trim.take 180,
          List.length_take_le _ _⟩
  | number value =>
      cases value <;> simp [reported, safeScalar] at isReported
  | _ =>
      simp [reported, safeScalar] at isReported

end Scalars

/-! ## Diagnostics -/

section Diagnostics

/-- The members that a diagnostic reports. -/
def diagnosticMembers (record : MetadataRecord) :
    List (JsString × AlertScalar) :=
  assign (record.entries.filterMap diagnosticMember)

theorem diagnosticMembers_nodup (record : MetadataRecord) :
    ((diagnosticMembers record).map Prod.fst).Nodup :=
  assign_nodup _

/-- A diagnostic reports the scalars under its listed names. -/
theorem get?_diagnosticMembers (record : MetadataRecord) (key : JsString) :
    get? key (diagnosticMembers record) =
      if key ∈ safeDiagnosticKeys then reported (record.get key)
      else none := by
  have own (entry : JsString × AuditValue) (member : JsString × AlertScalar)
      (picked : diagnosticMember entry = some member)
      (isKey : member.1 = key) :
      entry.1 = key := by
    unfold diagnosticMember at picked
    split at picked
    · obtain ⟨scalar, _, rfl⟩ := Option.map_eq_some_iff.mp picked
      exact isKey
    · cases picked
  unfold diagnosticMembers MetadataRecord.get
  rw [get?_assign_filterMap record.entries_nodup _ own]
  cases get? key record.entries with
  | none =>
      simp [reported, safeScalar]
  | some value =>
      by_cases isSafe : key ∈ safeDiagnosticKeys
      · cases isReported : reported value with
        | none =>
            simp [diagnosticMember, isSafe, isReported]
        | some scalar =>
            simp [diagnosticMember, isSafe, isReported]
      · simp [diagnosticMember, isSafe]

/-- Diagnostics with the same listed scalars report the same members. -/
theorem diagnosticMembers_perm
    {left right : MetadataRecord}
    (agree : AgreeOn content safeDiagnosticKeys left right) :
    (diagnosticMembers left).Perm (diagnosticMembers right) := by
  refine
    perm_of_get? (diagnosticMembers_nodup _) (diagnosticMembers_nodup _) ?_
  intro key
  rw [get?_diagnosticMembers, get?_diagnosticMembers]
  split
  · rename_i isSafe
    rw [← reported_content, agree key isSafe, reported_content]
  · rfl

theorem safeDiagnostic_eq (value : AuditValue) :
    safeDiagnostic value =
      if diagnosticMembers value.record = [] then none
      else some (diagnosticMembers value.record) := by
  cases value with
  | object members =>
      rfl
  | _ =>
      rfl

/-- Values with the same listed scalars give the same diagnostic. -/
theorem safeDiagnostic_agree
    {left right : AuditValue}
    (agree : AgreeOn content safeDiagnosticKeys left.record right.record) :
    Option.Rel List.Perm (safeDiagnostic left) (safeDiagnostic right) := by
  have permuted := diagnosticMembers_perm agree
  rw [safeDiagnostic_eq, safeDiagnostic_eq]
  by_cases empty : diagnosticMembers right.record = []
  · have leftEmpty : diagnosticMembers left.record = [] := by
      rw [empty] at permuted
      exact permuted.eq_nil
    rw [if_pos empty, if_pos leftEmpty]
    exact .none
  · have leftReports : diagnosticMembers left.record ≠ [] := by
      intro leftEmpty
      rw [leftEmpty] at permuted
      exact empty permuted.symm.eq_nil
    rw [if_neg empty, if_neg leftReports]
    exact .some permuted

end Diagnostics

/-! ## Members of the metadata -/

section Members

/-- The members that metadata reports. -/
def metadataMembers (record : MetadataRecord) :
    List (JsString × AlertValue) :=
  assign (record.entries.filterMap metadataMember)

theorem metadataMembers_nodup (record : MetadataRecord) :
    ((metadataMembers record).map Prod.fst).Nodup :=
  assign_nodup _

/-- An entry is a diagnostic that reports something. -/
def reportsDiagnostic (entry : JsString × AuditValue) : Bool :=
  entry.1 ∈ diagnosticSpellings && (safeDiagnostic entry.2).isSome

/-- Of the spellings under which a diagnostic reports something, the last. -/
def MetadataRecord.lastSpelling (record : MetadataRecord) :
    Option JsString :=
  ((record.entries.filter reportsDiagnostic).getLast?).map Prod.fst

/-- No listed field is a spelling of the diagnostic. -/
theorem safeMetadataKeys_disjoint :
    ∀ key ∈ safeMetadataKeys, key ∉ diagnosticSpellings := by
  decide +kernel

/-- A listed field is reported under its own name. -/
theorem get?_metadataMembers
    (record : MetadataRecord)
    {key : JsString}
    (different : key ≠ jsString "diagnostic") :
    get? key (metadataMembers record) =
      if key ∈ safeMetadataKeys then
        (reported (record.get key)).map .scalar
      else none := by
  have own (entry : JsString × AuditValue) (member : JsString × AlertValue)
      (picked : metadataMember entry = some member)
      (isKey : member.1 = key) :
      entry.1 = key := by
    unfold metadataMember at picked
    split at picked
    · obtain ⟨members, _, rfl⟩ := Option.map_eq_some_iff.mp picked
      exact absurd isKey.symm different
    · split at picked
      · obtain ⟨scalar, _, rfl⟩ := Option.map_eq_some_iff.mp picked
        exact isKey
      · cases picked
  unfold metadataMembers MetadataRecord.get
  rw [get?_assign_filterMap record.entries_nodup _ own]
  cases get? key record.entries with
  | none =>
      simp [reported, safeScalar]
  | some value =>
      by_cases isSafe : key ∈ safeMetadataKeys
      · have field := safeMetadataKeys_disjoint key isSafe
        cases isReported : reported value with
        | none =>
            simp [metadataMember, field, isSafe, isReported]
        | some scalar =>
            simp [metadataMember, field, isSafe, isReported]
      · by_cases isSpelling : key ∈ diagnosticSpellings
        · cases isDiagnostic : safeDiagnostic value with
          | none =>
              simp [metadataMember, isSpelling, isSafe, isDiagnostic]
          | some members =>
              simp [metadataMember, isSpelling, isSafe, isDiagnostic,
                different.symm]
        · simp [metadataMember, isSpelling, isSafe]

/-- The diagnostic that is reported is the one of the last spelling. -/
theorem get?_metadataMembers_diagnostic (record : MetadataRecord) :
    get? (jsString "diagnostic") (metadataMembers record) =
      record.lastSpelling.bind fun spelling =>
        (safeDiagnostic (record.get spelling)).map .diagnostic := by
  have notField : jsString "diagnostic" ∉ safeMetadataKeys :=
    fun isField =>
      safeMetadataKeys_disjoint _ isField List.mem_cons_self
  have picked :
      (record.entries.filterMap metadataMember).filter
          (·.1 = jsString "diagnostic") =
        (record.entries.filter reportsDiagnostic).filterMap fun entry =>
          (safeDiagnostic entry.2).map fun members =>
            (jsString "diagnostic", AlertValue.diagnostic members) := by
    rw [List.filter_filterMap, List.filterMap_filter]
    apply List.filterMap_congr
    intro entry _
    by_cases isSpelling : entry.1 ∈ diagnosticSpellings
    · cases isDiagnostic : safeDiagnostic entry.2 with
      | none =>
          simp [metadataMember, isSpelling, isDiagnostic]
      | some members =>
          simp [metadataMember, reportsDiagnostic, isSpelling, isDiagnostic]
    · by_cases isSafe : entry.1 ∈ safeMetadataKeys
      · have different : entry.1 ≠ jsString "diagnostic" := by
          rintro isName
          exact notField (isName ▸ isSafe)
        cases isReported : reported entry.2 with
        | none =>
            simp [metadataMember, reportsDiagnostic, isSpelling, isSafe,
              isReported]
        | some scalar =>
            simp [metadataMember, reportsDiagnostic, isSpelling, isSafe,
              isReported, different]
      · simp [metadataMember, reportsDiagnostic, isSpelling, isSafe]
  unfold metadataMembers
  rw [get?_assign, picked]
  unfold MetadataRecord.lastSpelling
  rcases List.eq_nil_or_concat (record.entries.filter reportsDiagnostic) with
    nothing | ⟨earlier, last, isLast⟩
  · rw [nothing]
    rfl
  · have member : last ∈ record.entries.filter reportsDiagnostic := by
      rw [isLast]
      simp
    obtain ⟨present, reports⟩ := List.mem_filter.mp member
    have found : record.get last.1 = last.2 := by
      have isEntry :
          get? last.1 record.entries = some last.2 :=
        (mem_iff_get? record.entries_nodup).mp present
      rw [MetadataRecord.get, isEntry, Option.getD_some]
    obtain ⟨members, isDiagnostic⟩ :=
      Option.isSome_iff_exists.mp (Bool.and_eq_true_iff.mp reports).2
    rw [isLast]
    simp [List.filterMap_append, isDiagnostic, found]

end Members

/-! ## Projections -/

section Projections

variable {left right : MetadataRecord}

/-- Metadata of two events agree on the fields that are listed. -/
structure AlertsAgree (left right : MetadataRecord) : Prop where
  fields : AgreeOn content safeMetadataKeys left right
  diagnostic :
    ∀ spelling ∈ diagnosticSpellings,
      AgreeOn content safeDiagnosticKeys (left.get spelling).record
        (right.get spelling).record

theorem lastSpelling_mem
    {record : MetadataRecord}
    {spelling : JsString}
    (isLast : record.lastSpelling = some spelling) :
    spelling ∈ diagnosticSpellings := by
  obtain ⟨entry, isEntry, rfl⟩ := Option.map_eq_some_iff.mp isLast
  have member := List.mem_of_getLast? isEntry
  have reports := (List.mem_filter.mp member).2
  exact of_decide_eq_true (Bool.and_eq_true_iff.mp reports).1

theorem same_diagnostic
    {first second : Option (List (JsString × AlertScalar))}
    (permuted : Option.Rel List.Perm first second) :
    Option.Rel AlertValue.Same (first.map .diagnostic)
      (second.map .diagnostic) := by
  cases permuted with
  | none =>
      exact .none
  | some permuted =>
      exact .some (.diagnostic permuted)

theorem same_scalar (value : Option AlertScalar) :
    Option.Rel AlertValue.Same (value.map .scalar) (value.map .scalar) := by
  cases value with
  | none =>
      exact .none
  | some scalar =>
      exact .some (.scalar scalar)

/-- Metadata that agree report the same object. -/
theorem metadataMembers_agree
    (agree : AlertsAgree left right)
    (spelling : left.lastSpelling = right.lastSpelling) :
    SameMetadata (metadataMembers left) (metadataMembers right) := by
  intro key
  by_cases isDiagnostic : key = jsString "diagnostic"
  · subst isDiagnostic
    rw [get?_metadataMembers_diagnostic, get?_metadataMembers_diagnostic,
      spelling]
    cases isLast : right.lastSpelling with
    | none =>
        exact .none
    | some last =>
        exact
          same_diagnostic
            (safeDiagnostic_agree
              (agree.diagnostic last (lastSpelling_mem isLast)))
  · rw [get?_metadataMembers left isDiagnostic,
      get?_metadataMembers right isDiagnostic]
    split
    · rename_i isSafe
      rw [← reported_content, agree.fields key isSafe, reported_content]
      exact same_scalar _
    · exact .none

/-! ## Lengths of JSON texts -/

/-- The length of an object's text is one of the lengths of its values. -/
theorem length_objectText (members : List (JsString × JsString)) :
    (objectText members).length =
      2 +
        (((members.map fun member => (member.1, member.2.length)).map
            fun size => (quoted size.1).length + 1 + size.2).sum +
          (members.length - 1)) := by
  have comma : (jsString ",").length = 1 := by decide
  have colon : (jsString ":").length = 1 := by decide
  have opening : (jsString "\x7b").length = 1 := by decide
  have closing : (jsString "\x7d").length = 1 := by decide
  have parts :
      ((members.map fun member =>
          quoted member.1 ++ jsString ":" ++ member.2).map List.length) =
        (members.map fun member => (member.1, member.2.length)).map
          fun size => (quoted size.1).length + 1 + size.2 := by
    rw [List.map_map, List.map_map]
    apply List.map_congr_left
    intro member _
    simp only [Function.comp_apply, List.length_append, colon]
  rw [objectText, List.length_append, List.length_append, opening, closing,
    length_joinWith, parts, comma, List.length_map]
  omega

/-- Objects whose values have texts of the same lengths have such a text. -/
theorem length_objectText_perm
    {members others : List (JsString × JsString)}
    (sizes :
      (members.map fun member => (member.1, member.2.length)).Perm
        (others.map fun member => (member.1, member.2.length))) :
    (objectText members).length = (objectText others).length := by
  have count : members.length = others.length := by
    simpa using sizes.length_eq
  rw [length_objectText, length_objectText, count,
    (sizes.map fun size => (quoted size.1).length + 1 + size.2).sum_nat]

theorem AlertValue.Same.length_json
    {first second : AlertValue}
    (same : AlertValue.Same first second) :
    first.json.length = second.json.length := by
  cases same with
  | scalar value =>
      rfl
  | diagnostic permuted =>
      refine length_objectText_perm ?_
      rw [List.map_map, List.map_map]
      exact permuted.map _

/-- The same object has a text of the same length, in whatever order. -/
theorem SameMetadata.length_json
    {first second : List (JsString × AlertValue)}
    (firstDistinct : (first.map Prod.fst).Nodup)
    (secondDistinct : (second.map Prod.fst).Nodup)
    (same : SameMetadata first second) :
    (stringifyMetadata first).length = (stringifyMetadata second).length := by
  refine length_objectText_perm ?_
  rw [List.map_map, List.map_map]
  have keys (members : List (JsString × AlertValue)) :
      (members.map fun member => (member.1, member.2.json.length)).map
          Prod.fst =
        members.map Prod.fst := by
    rw [List.map_map]
    rfl
  refine perm_of_get? ?_ ?_ ?_
  · exact (keys first).symm ▸ firstDistinct
  · exact (keys second).symm ▸ secondDistinct
  · intro key
    have sizes (members : List (JsString × AlertValue)) :=
      get?_map (fun value : AlertValue => value.json.length) members key
    have found := same key
    refine (sizes first).trans (Eq.trans ?_ (sizes second).symm)
    cases isFirst : get? key first with
    | none =>
        rw [isFirst] at found
        cases isSecond : get? key second with
        | none =>
            rfl
        | some value =>
            rw [isSecond] at found
            cases found
    | some value =>
        rw [isFirst] at found
        cases isSecond : get? key second with
        | none =>
            rw [isSecond] at found
            cases found
        | some other =>
            rw [isSecond] at found
            cases found with
            | some values =>
                exact congrArg some values.length_json

theorem SameMetadata.refl (members : List (JsString × AlertValue)) :
    SameMetadata members members := by
  intro key
  cases get? key members with
  | none =>
      exact .none
  | some value =>
      cases value with
      | scalar scalar =>
          exact .some (.scalar scalar)
      | diagnostic members =>
          exact .some (.diagnostic (List.Perm.refl members))

theorem safeMetadata_eq (metadata : Option MetadataRecord) :
    safeMetadata metadata =
      if (stringifyMetadata
            (metadataMembers (metadata.getD []))).length ≤
          maxMetadataLength then
        metadataMembers (metadata.getD [])
      else
        [("notice",
          .scalar (.text "Alert metadata truncated for privacy"))] :=
  rfl

/-- Events that agree on what is listed are sent with the same metadata. -/
theorem safeMetadata_agree
    {first second : Option MetadataRecord}
    (agree : AlertsAgree (first.getD []) (second.getD []))
    (spelling :
      (first.getD []).lastSpelling = (second.getD []).lastSpelling) :
    SameMetadata (safeMetadata first) (safeMetadata second) := by
  have same := metadataMembers_agree agree spelling
  have length :=
    same.length_json (metadataMembers_nodup _) (metadataMembers_nodup _)
  rw [safeMetadata_eq, safeMetadata_eq, length]
  split
  · exact same
  · exact SameMetadata.refl _

end Projections

/-! ## Texts -/

/-- The texts of a scalar. -/
def AlertScalar.texts : AlertScalar → List JsString
  | .text shown => [shown]
  | _ => []

/-- The texts of a value of a projection. -/
def AlertValue.texts : AlertValue → List JsString
  | .scalar value => value.texts
  | .diagnostic members => members.flatMap fun member => member.2.texts

/-- Every text of a projection is presentable. -/
def MetadataPresentable (members : List (JsString × AlertValue)) : Prop :=
  ∀ member ∈ members, ∀ text ∈ member.2.texts, Presentable 180 text

section Texts

variable {record : MetadataRecord}

theorem reported_texts_presentable
    {value : AuditValue}
    {scalar : AlertScalar}
    (isReported : reported value = some scalar) :
    ∀ text ∈ scalar.texts, Presentable 180 text := by
  intro text member
  cases scalar with
  | text shown =>
      rw [List.mem_singleton.mp member]
      exact reported_presentable isReported
  | _ =>
      cases member

theorem diagnosticMembers_presentable :
    ∀ member ∈ diagnosticMembers record,
      ∀ text ∈ member.2.texts, Presentable 180 text := by
  rintro ⟨key, scalar⟩ member
  have found := (mem_iff_get? (diagnosticMembers_nodup record)).mp member
  rw [get?_diagnosticMembers] at found
  split at found
  · exact reported_texts_presentable found
  · cases found

theorem safeDiagnostic_presentable
    {value : AuditValue}
    {members : List (JsString × AlertScalar)}
    (isDiagnostic : safeDiagnostic value = some members) :
    ∀ member ∈ members, ∀ text ∈ member.2.texts, Presentable 180 text := by
  rw [safeDiagnostic_eq] at isDiagnostic
  split at isDiagnostic
  · cases isDiagnostic
  · cases isDiagnostic
    exact diagnosticMembers_presentable

/-- What metadata reports is presentable. -/
theorem metadataMembers_presentable :
    MetadataPresentable (metadataMembers record) := by
  rintro ⟨key, value⟩ member text inValue
  have found := (mem_iff_get? (metadataMembers_nodup record)).mp member
  by_cases isDiagnostic : key = jsString "diagnostic"
  · subst isDiagnostic
    rw [get?_metadataMembers_diagnostic] at found
    obtain ⟨spelling, _, reported⟩ := Option.bind_eq_some_iff.mp found
    obtain ⟨members, isReported, rfl⟩ := Option.map_eq_some_iff.mp reported
    obtain ⟨entry, isEntry, isText⟩ := List.mem_flatMap.mp inValue
    exact safeDiagnostic_presentable isReported entry isEntry text isText
  · rw [get?_metadataMembers record isDiagnostic] at found
    split at found
    · obtain ⟨scalar, isReported, rfl⟩ := Option.map_eq_some_iff.mp found
      exact reported_texts_presentable isReported text inValue
    · cases found

/-- Whatever an event holds, what is sent of it is presentable. -/
theorem safeMetadata_presentable (metadata : Option MetadataRecord) :
    MetadataPresentable (safeMetadata metadata) := by
  rw [safeMetadata_eq]
  split
  · exact metadataMembers_presentable
  · intro member isNotice text isText
    rw [List.mem_singleton.mp isNotice] at isText
    rw [List.mem_singleton.mp isText]
    exact presentable_fixed (by decide +kernel)

end Texts

end Sparkz
