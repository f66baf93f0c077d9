import Sparkz.AuditReasons

namespace Sparkz

open Utf16 UnitTexts

/-!
# What a presentation depends on

A presentation is a function of the contents of the fields that it names.  Two
events whose named fields have the same contents are shown alike, whatever
else their metadata holds.
-/

/-- What is read of a failover list: the label and outcome of its entries. -/
def AuditValue.failoverContent : AuditValue → AuditValue
  | .array items =>
      .array
        (items.map fun item =>
          .object
            [("label", (item.record.get "label").content),
              ("outcome", (item.record.get "outcome").content)])
  | value => value.content

/-- What is read of a nonce: its text, and whether it is there. -/
def AuditValue.nonceContent (value : AuditValue) :
    AuditValue × Option JsString :=
  (value.content, value.shown)

namespace MetadataRecord

/-- Two records look the same under some of their keys. -/
def AgreeOn
    {α : Type}
    (view : AuditValue → α)
    (keys : List JsString)
    (left right : MetadataRecord) :
    Prop :=
  ∀ key ∈ keys, view (left.get key) = view (right.get key)

variable {α : Type}
  {view : AuditValue → α}
  {keys some : List JsString}
  {left right : MetadataRecord}

theorem AgreeOn.mono
    (agree : AgreeOn view keys left right)
    (within : some ⊆ keys) :
    AgreeOn view some left right :=
  fun key member => agree key (within member)

/-- Records that agree on all of some keys choose among them alike. -/
theorem AgreeOn.firstOf
    (nullish :
      ∀ {first second : AuditValue},
        view first = view second → first.isNullish = second.isNullish)
    (agree : AgreeOn view keys left right) :
    view (left.firstOf keys) = view (right.firstOf keys) := by
  induction keys with
  | nil =>
      rfl
  | cons key rest inductionHypothesis =>
      have head := agree key List.mem_cons_self
      cases rest with
      | nil =>
          exact head
      | cons second others =>
          have tail :=
            inductionHypothesis (agree.mono (List.subset_cons_self _ _))
          simp only [MetadataRecord.firstOf, nullish head]
          split
          · exact tail
          · exact head

end MetadataRecord

open MetadataRecord AuditValue

/-! ## Functions of contents -/

section Contents

variable {α : Type} {left right value : AuditValue}

/-- A function that is the same on the content depends on the content only. -/
theorem eq_of_content
    {g : AuditValue → α}
    (reads : ∀ value, g value.content = g value)
    (same : left.content = right.content) :
    g left = g right := by
  rw [← reads left, same, reads right]

theorem isNullish_content (value : AuditValue) :
    value.content.isNullish = value.isNullish := by
  cases value <;> rfl

theorem isText_content (value : AuditValue) (expected : JsString) :
    value.content.isText expected = value.isText expected := by
  cases value <;> rfl

theorem safeText_content (value : AuditValue) (maxLength : ℕ) :
    safeText value.content maxLength = safeText value maxLength := by
  cases value <;> rfl

theorem scalarText_content (value : AuditValue) :
    scalarText value.content = scalarText value := by
  cases value <;> rfl

theorem safeNumericText_content (value : AuditValue) :
    safeNumericText value.content = safeNumericText value := by
  rw [safeNumericText, safeText_content, safeNumericText]

theorem safeDiagnosticToken_content (value : AuditValue) (maxLength : ℕ) :
    safeDiagnosticToken value.content maxLength =
      safeDiagnosticToken value maxLength := by
  rw [safeDiagnosticToken, scalarText_content, safeDiagnosticToken]

theorem safeText_agree
    (same : left.content = right.content)
    (maxLength : ℕ) :
    safeText left maxLength = safeText right maxLength := by
  rw [← safeText_content left, same, safeText_content]

theorem safeDiagnosticToken_agree
    (same : left.content = right.content)
    (maxLength : ℕ) :
    safeDiagnosticToken left maxLength =
      safeDiagnosticToken right maxLength := by
  rw [← safeDiagnosticToken_content left, same, safeDiagnosticToken_content]

theorem safeDiagnosticCode_content (value : AuditValue) :
    safeDiagnosticCode value.content = safeDiagnosticCode value := by
  rw [safeDiagnosticCode, safeDiagnosticToken_content, safeDiagnosticCode]

theorem safeDiagnosticStage_content (value : AuditValue) :
    safeDiagnosticStage value.content = safeDiagnosticStage value := by
  cases value <;> rfl

theorem safeDiagnosticHash_content (value : AuditValue) :
    safeDiagnosticHash value.content = safeDiagnosticHash value := by
  cases value <;> rfl

theorem failoverOutcome_content (value : AuditValue) :
    failoverOutcome value.content = failoverOutcome value := by
  cases value <;> rfl

theorem httpStatusValue_content (value : AuditValue) :
    httpStatusValue value.content = httpStatusValue value := by
  cases value <;> rfl

theorem reasonForValidation_content (value : AuditValue) :
    reasonForValidation value.content = reasonForValidation value := by
  simp only [reasonForValidation, isText_content]

theorem skippedReason_content (value : AuditValue) :
    skippedReason value.content = skippedReason value := by
  simp only [skippedReason, isText_content]

theorem nullish_of_content
    (same : left.content = right.content) :
    left.isNullish = right.isNullish :=
  eq_of_content isNullish_content same

/-- A list is read through the contents of its items. -/
theorem safeList_listContent (value : AuditValue) :
    safeList value.listContent = safeList value := by
  cases value with
  | array items =>
      simp only [listContent, safeList, List.filterMap_map]
      apply List.filterMap_congr
      intro item _
      exact safeText_content item 100
  | _ =>
      rfl

theorem nullish_of_failoverContent
    (same : left.failoverContent = right.failoverContent) :
    left.isNullish = right.isNullish := by
  have reads (value : AuditValue) :
      value.failoverContent.isNullish = value.isNullish := by
    cases value <;> rfl
  rw [← reads left, same, reads right]

theorem record_of_nullish
    {value : AuditValue}
    (nullish : value.isNullish = true) :
    value.record = [] := by
  cases value with
  | undefined =>
      rfl
  | null =>
      rfl
  | _ =>
      cases nullish

theorem record_object (members : MetadataRecord) :
    (AuditValue.object members).record = members :=
  rfl

theorem field_asRecord (value : AuditValue) (key : JsString) :
    MetadataRecord.field value.asRecord key = value.record.get key :=
  rfl

section Pairs

variable {first second : JsString} {one other : AuditValue}

/-- The values of a record of two different keys. -/
theorem get_second (names : first ≠ second) :
    MetadataRecord.get [(first, one), (second, other)] second = other := by
  simp [MetadataRecord.get, MetadataRecord.entries, InsertionMap.assign,
    InsertionMap.build, InsertionMap.update, InsertionMap.get?, names]

theorem get_first (names : first ≠ second) :
    MetadataRecord.get [(first, one), (second, other)] first = one := by
  simp [MetadataRecord.get, MetadataRecord.entries, InsertionMap.assign,
    InsertionMap.build, InsertionMap.update, InsertionMap.get?, names]

end Pairs

/-- An entry shows its label and outcome, which only objects have. -/
theorem failoverEntry_eq (entry : AuditValue) :
    failoverEntry entry =
      (safeDiagnosticToken (entry.record.get "label") 40).bind fun label =>
        (failoverOutcome (entry.record.get "outcome")).map fun outcome =>
          label ++ jsString ":" ++ outcome := by
  cases entry with
  | object members =>
      rfl
  | _ =>
      rfl

/-- A failover list is read through the contents of its entries. -/
theorem safeRpcFailover_failoverContent (value : AuditValue) :
    safeRpcFailover value.failoverContent = safeRpcFailover value := by
  cases value with
  | array items =>
      have names : jsString "label" ≠ jsString "outcome" := by decide
      have entries :
          (items.map fun item =>
              AuditValue.object
                [("label", (item.record.get "label").content),
                  ("outcome", (item.record.get "outcome").content)]
            ).filterMap failoverEntry =
            items.filterMap failoverEntry := by
        rw [List.filterMap_map]
        apply List.filterMap_congr
        intro item _
        rw [Function.comp_apply, failoverEntry_eq, failoverEntry_eq item,
          record_object, get_first names, get_second names,
          safeDiagnosticToken_content, failoverOutcome_content]
      simp only [failoverContent, safeRpcFailover, entries]
  | _ =>
      rfl

end Contents

/-! ## Details -/

section Details

variable {details : List AuditPresentationDetail}

/-- Rows by their labels and the contents of their values. -/
def rowContents (rows : List (JsString × AuditValue)) :
    List (JsString × AuditValue) :=
  rows.map fun row => (row.1, row.2.content)

theorem pushDetail_content (label : JsString) (value : AuditValue) :
    pushDetail details label value.content =
      pushDetail details label value := by
  rw [pushDetail, safeText_content, pushDetail]

theorem pushDetails_rowContents (rows : List (JsString × AuditValue)) :
    pushDetails details (rowContents rows) = pushDetails details rows := by
  simp only [pushDetails, rowContents, List.foldl_map, pushDetail_content]

/-- Details depend on the contents of the rows only. -/
theorem pushDetails_agree
    {left right : List (JsString × AuditValue)}
    (same : rowContents left = rowContents right) :
    pushDetails details left = pushDetails details right := by
  rw [← pushDetails_rowContents left, same, pushDetails_rowContents]

end Details

/-- The fields of the metadata that a presentation reads directly. -/
def correlationKeys : List JsString :=
  ["eMAID", "emaid", "contractId", "contract_id", "amount",
    "requestedAmount", "sessionId", "providerId", "operationKey",
    "reservationId", "txHash", "transactionHash", "awardTxHash",
    "reservationTxHash", "fundingTxHash", "funding_tx_hash", "receiptId",
    "stage", "failureStage", "failure_stage", "movementOutcome",
    "movement_outcome", "errorCode", "error_code"]

/-- The scalars of a diagnostic that a presentation reads. -/
def diagnosticScalarKeys : List JsString :=
  ["stage", "rpcMethod", "rpcCode", "providerCode", "httpStatus", "traceId",
    "requestId", "rpcEndpoint", "endpointLabel", "savedHash"]

section Rows

variable {left right : MetadataRecord}

theorem MetadataRecord.AgreeOn.content_firstOf
    {keys some : List JsString}
    (agree : AgreeOn content keys left right)
    (within : some ⊆ keys) :
    (left.firstOf some).content = (right.firstOf some).content :=
  (agree.mono within).firstOf nullish_of_content

/-- Records with the same correlation fields give the same rows. -/
theorem correlationRows_agree
    (agree : AgreeOn content correlationKeys left right) :
    rowContents (correlationRows left) =
      rowContents (correlationRows right) := by
  have first {some : List JsString} (within : some ⊆ correlationKeys) :
      (left.firstOf some).content = (right.firstOf some).content :=
    agree.content_firstOf within
  have amount :=
    eq_of_content safeNumericText_content
      (@first ["amount", "requestedAmount"] (by simp [correlationKeys]))
  have funding :=
    eq_of_content safeDiagnosticHash_content
      (@first ["fundingTxHash", "funding_tx_hash"]
        (by simp [correlationKeys]))
  have code :=
    eq_of_content safeDiagnosticCode_content
      (@first ["errorCode", "error_code"] (by simp [correlationKeys]))
  have emaid :=
    @first ["eMAID", "emaid", "contractId", "contract_id"]
      (by simp [correlationKeys])
  have hash :=
    @first ["txHash", "transactionHash", "awardTxHash", "reservationTxHash"]
      (by simp [correlationKeys])
  have stage :=
    @first ["stage", "failureStage", "failure_stage"]
      (by simp [correlationKeys])
  have outcome :=
    @first ["movementOutcome", "movement_outcome"]
      (by simp [correlationKeys])
  have session := agree "sessionId" (by simp [correlationKeys])
  have provider := agree "providerId" (by simp [correlationKeys])
  have operation := agree "operationKey" (by simp [correlationKeys])
  have reservation := agree "reservationId" (by simp [correlationKeys])
  have receipt := agree "receiptId" (by simp [correlationKeys])
  simp only [rowContents, correlationRows, List.map_cons, List.map_nil,
    amount, funding, code, emaid, hash, stage, outcome, session, provider,
    operation, reservation, receipt]

/-- What a presentation reads of a diagnostic is the same in two records. -/
structure DiagnosticsAgree (left right : MetadataRecord) : Prop where
  scalars : AgreeOn content diagnosticScalarKeys left right
  failover : AgreeOn failoverContent ["rpcFailover", "failover"] left right
  nonce :
    (left.get "nonce").nonceContent = (right.get "nonce").nonceContent

/-- Reading a nonce depends on its text and on whether it is there. -/
theorem nonceValue_agree
    {first second : AuditValue}
    (same : first.nonceContent = second.nonceContent) :
    nonceValue first = nonceValue second := by
  have contents := congrArg Prod.fst same
  have texts : first.shown = second.shown := congrArg Prod.snd same
  cases first with
  | undefined =>
      cases second with
      | undefined =>
          rfl
      | _ =>
          cases contents
  | _ =>
      cases second with
      | undefined =>
          cases contents
      | _ =>
          simp only [nonceValue, texts]

/-- Diagnostics that agree on what is read of them give the same rows. -/
theorem diagnosticRows_agree (agree : DiagnosticsAgree left right) :
    diagnosticRows left = diagnosticRows right := by
  have first {some : List JsString} (within : some ⊆ diagnosticScalarKeys) :
      (left.firstOf some).content = (right.firstOf some).content :=
    agree.scalars.content_firstOf within
  have token {some : List JsString} (maxLength : ℕ)
      (within : some ⊆ diagnosticScalarKeys) :
      safeDiagnosticToken (left.firstOf some) maxLength =
        safeDiagnosticToken (right.firstOf some) maxLength :=
    safeDiagnosticToken_agree (first within) maxLength
  have nonce := nonceValue_agree agree.nonce
  have stage :=
    eq_of_content safeDiagnosticStage_content
      (agree.scalars "stage" (by simp [diagnosticScalarKeys]))
  have method :=
    safeDiagnosticToken_agree
      (agree.scalars "rpcMethod" (by simp [diagnosticScalarKeys])) 80
  have code :=
    @token ["rpcCode", "providerCode"] 32 (by simp [diagnosticScalarKeys])
  have status :=
    eq_of_content httpStatusValue_content
      (agree.scalars "httpStatus" (by simp [diagnosticScalarKeys]))
  have trace :=
    @token ["traceId", "requestId"] 80 (by simp [diagnosticScalarKeys])
  have endpoint :=
    @token ["rpcEndpoint", "endpointLabel"] 40
      (by simp [diagnosticScalarKeys])
  have entries := agree.failover.firstOf nullish_of_failoverContent
  have failover :
      safeRpcFailover (left.firstOf ["rpcFailover", "failover"]) =
        safeRpcFailover (right.firstOf ["rpcFailover", "failover"]) := by
    rw [← safeRpcFailover_failoverContent, entries,
      safeRpcFailover_failoverContent]
  have hash :=
    eq_of_content safeDiagnosticHash_content
      (agree.scalars "savedHash" (by simp [diagnosticScalarKeys]))
  simp only [diagnosticRows, nonce, stage, method, code, status, trace,
    endpoint, failover, hash]

/-- A diagnostic has no details unless it is an object. -/
theorem addDiagnosticDetails_eq
    (details : List AuditPresentationDetail)
    (value : AuditValue) :
    addDiagnosticDetails details value =
      (diagnosticRows value.record).map (pushDetails details) := by
  cases value with
  | object members =>
      rfl
  | _ =>
      rfl

/-- What a presentation reads of the fields about the identity. -/
structure IdentitiesAgree (left right : MetadataRecord) : Prop where
  normalisation :
    AgreeOn content ["protocol", "sourceField", "eMAID", "emaid"]
      (left.get "normalisation").record (right.get "normalisation").record
  failure :
    AgreeOn content ["protocol", "code", "message"]
      (left.get "normalisationError").record
      (right.get "normalisationError").record
  sourceFields :
    ((left.get "normalisationError").record.get "sourceFields").listContent =
      ((right.get "normalisationError").record.get
        "sourceFields").listContent

/-- A rejected identity is one that was given as an object. -/
theorem identityDetails_agree
    (details : List AuditPresentationDetail)
    (agree : IdentitiesAgree left right)
    (failed :
      (left.get "normalisationError").asRecord.isSome =
        (right.get "normalisationError").asRecord.isSome) :
    identityDetails details (left.get "normalisation").asRecord
        (left.get "normalisationError").asRecord =
      identityDetails details (right.get "normalisation").asRecord
        (right.get "normalisationError").asRecord := by
  obtain ⟨normalisation, failure, sourceFields⟩ := agree
  have protocol := safeText_agree (normalisation "protocol" (by simp)) 180
  have sourceField :=
    safeText_agree (normalisation "sourceField" (by simp)) 180
  have emaid := safeText_agree (normalisation "eMAID" (by simp)) 180
  have lowerEmaid := safeText_agree (normalisation "emaid" (by simp)) 180
  have failedProtocol := safeText_agree (failure "protocol" (by simp)) 180
  have code := safeText_agree (failure "code" (by simp)) 80
  have message := safeText_agree (failure "message" (by simp)) 500
  have fields :
      safeList
          ((left.get "normalisationError").record.get "sourceFields") =
        safeList
          ((right.get "normalisationError").record.get "sourceFields") := by
    rw [← safeList_listContent, sourceFields, safeList_listContent]
  simp only [identityDetails, field_asRecord, protocol, sourceField,
    emaid, lowerEmaid, failedProtocol, code, message, fields, failed]

end Rows

/-! ## Presentations -/

/-- The spelling under which a diagnostic is looked for. -/
def MetadataRecord.diagnosticSpelling (data : MetadataRecord) :
    Option JsString :=
  diagnosticSpellings.find? fun spelling => !(data.get spelling).isNullish

/--
Two events agree on the fields that a presentation names, each taken with its
path: a field of an object that is not there has no content.
-/
structure AgreesOnListed (left right : AuditPresentationEvent) : Prop where
  eventType : left.eventType.content = right.eventType.content
  status : left.status.content = right.status.content
  targetType : left.targetType.content = right.targetType.content
  targetId : left.targetId.content = right.targetId.content
  correlation : AgreeOn content correlationKeys left.data right.data
  reason : (left.data.get "reason").content = (right.data.get "reason").content
  identity : IdentitiesAgree left.data right.data
  diagnostic :
    ∀ spelling ∈ diagnosticSpellings,
      DiagnosticsAgree (left.data.get spelling).record
        (right.data.get spelling).record

/--
Two events have the objects that a presentation looks into in the same places:
both report a rejected identity or neither does, and the diagnostic of both is
found under the same spelling.
-/
structure SameContainers (left right : AuditPresentationEvent) : Prop where
  rejected :
    (left.data.get "normalisationError").asRecord.isSome =
      (right.data.get "normalisationError").asRecord.isSome
  spelling : left.data.diagnosticSpelling = right.data.diagnosticSpelling

section Presentations

variable {left right : AuditPresentationEvent}

/-- The diagnostic is the one under its spelling. -/
theorem firstOf_eq_find
    (data : MetadataRecord)
    (spellings : List JsString) :
    (data.firstOf spellings).record =
      ((spellings.find? fun spelling =>
          !(data.get spelling).isNullish).map fun spelling =>
            (data.get spelling).record).getD [] := by
  induction spellings with
  | nil =>
      rfl
  | cons first rest inductionHypothesis =>
      cases isNullish : (data.get first).isNullish with
      | false =>
          have chosen : data.firstOf (first :: rest) = data.get first := by
            cases rest with
            | nil =>
                rfl
            | cons second others =>
                simp [MetadataRecord.firstOf, isNullish]
          rw [chosen, List.find?_cons_of_pos (by simp [isNullish])]
          rfl
      | true =>
          rw [List.find?_cons_of_neg (by simp [isNullish]),
            ← inductionHypothesis]
          cases rest with
          | nil =>
              exact record_of_nullish isNullish
          | cons second others =>
              simp [MetadataRecord.firstOf, isNullish]

/-- Diagnostics found under the same spelling agree on what is read of them. -/
theorem diagnosticRows_firstOf_agree
    {left right : MetadataRecord}
    (agree :
      ∀ spelling ∈ diagnosticSpellings,
        DiagnosticsAgree (left.get spelling).record
          (right.get spelling).record)
    (spelling : left.diagnosticSpelling = right.diagnosticSpelling) :
    diagnosticRows (left.firstOf diagnosticSpellings).record =
      diagnosticRows (right.firstOf diagnosticSpellings).record := by
  unfold MetadataRecord.diagnosticSpelling at spelling
  rw [firstOf_eq_find, firstOf_eq_find, spelling]
  cases found :
      diagnosticSpellings.find? fun spelling =>
        !(right.get spelling).isNullish with
  | none =>
      rfl
  | some chosen =>
      exact
        diagnosticRows_agree (agree chosen (List.mem_of_find?_eq_some found))

theorem addCorrelationDetails_agree
    (details : List AuditPresentationDetail)
    (agree : AgreesOnListed left right)
    (spelling : left.data.diagnosticSpelling = right.data.diagnosticSpelling) :
    addCorrelationDetails details left left.data =
      addCorrelationDetails details right right.data := by
  have targetType := safeText_agree agree.targetType 100
  have targetId := safeText_agree agree.targetId 180
  have rows (shown : List AuditPresentationDetail) :
      pushDetails shown (correlationRows left.data) =
        pushDetails shown (correlationRows right.data) :=
    pushDetails_agree (correlationRows_agree agree.correlation)
  have diagnostic := diagnosticRows_firstOf_agree agree.diagnostic spelling
  unfold addCorrelationDetails
  simp only [addDiagnosticDetails_eq, targetType, targetId, rows, diagnostic]

/-- The reason of a type depends on what is listed only. -/
theorem presentType_agree
    (type status : JsString)
    (details : List AuditPresentationDetail)
    (agree : AgreesOnListed left right) :
    presentType type status left.data details =
      presentType type status right.data details := by
  have outcome :=
    safeText_agree
      (agree.correlation.content_firstOf
        (show [jsString "movementOutcome", jsString "movement_outcome"] ⊆
            correlationKeys by
          simp [correlationKeys])) 60
  have movement (uncertain : AuditPresentation) :
      movementPresentation left.data details uncertain =
        movementPresentation right.data details uncertain := by
    simp only [movementPresentation, outcome]
  have skipped := eq_of_content skippedReason_content agree.reason
  have validation := eq_of_content reasonForValidation_content agree.reason
  simp only [presentType, movement, skipped, validation]

/-- Events that agree on what is listed are presented alike. -/
theorem presentAuditEvent_agree
    (agree : AgreesOnListed left right)
    (containers : SameContainers left right) :
    presentAuditEvent left = presentAuditEvent right := by
  have identity :=
    identityDetails_agree [] agree.identity containers.rejected
  have type : left.type = right.type := by
    rw [AuditPresentationEvent.type, safeText_agree agree.eventType,
      AuditPresentationEvent.type]
  have status : left.statusText = right.statusText := by
    rw [AuditPresentationEvent.statusText, safeText_agree agree.status,
      AuditPresentationEvent.statusText]
  have details (shown : List AuditPresentationDetail) :=
    addCorrelationDetails_agree shown agree containers.spelling
  have described (shown : List AuditPresentationDetail) :=
    presentType_agree right.type right.statusText shown agree
  simp only [presentAuditEvent, identity, type, status, details, described]

end Presentations

end Sparkz
