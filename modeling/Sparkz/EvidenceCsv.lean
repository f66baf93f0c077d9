import Sparkz.CommaSeparated
import Sparkz.EvidenceRows
import Sparkz.JsonText
import Sparkz.TokenAmount

namespace Sparkz

open CommaSeparated JsonText

/-!
# The evidence report as comma-separated values

`csvCell`, `csvRow` and `renderAdminEvidenceCsv`.  A spreadsheet that reads the
report gets one record for each row, and no cell that it would take for a
formula.
-/

namespace EvidenceCsv

/-! ## Cells -/

/-- An `unknown` value of a column. -/
inductive CsvValue where
  /-- `null` or `undefined`. -/
  | absent
  | text (content : String)
  | number (count : JsNumber)
  | flag (isSet : Bool)
  deriving DecidableEq

/-- A text or `null`. -/
def CsvValue.ofOption : Option String → CsvValue
  | none => .absent
  | some content => .text content

/-- `value === null || value === undefined ? '' : String(value)`. -/
def CsvValue.shown : CsvValue → String
  | .absent => ""
  | .text content => content
  | .number count => count.text
  | .flag isSet => toString isSet

/-- `text.trimStart()`. -/
def trimStart (text : String) : String :=
  String.ofList (text.toList.dropWhile isBlank)

/-- `/^[=+\-@]/`. -/
def isFormula (text : String) : Bool :=
  match text.toList with
  | [] => false
  | first :: _ => ['=', '+', '-', '@'].contains first

/-- The text with an apostrophe, if it would be taken for a formula. -/
def safeText (text : String) : String :=
  if isFormula (trimStart text) then "'" ++ text else text

def csvCell (value : CsvValue) : String :=
  let safe := safeText value.shown
  if safe.toList.all isPlain then safe
  else "\"" ++ String.ofList (safe.toList.flatMap escape) ++ "\""

def CSV_COLUMNS : List String :=
  ["generatedAt", "periodFrom", "periodTo", "observationAt", "basis",
    "subjectType", "subjectId", "operationKey", "operationType", "eMAID",
    "walletAddress", "amountSparkz", "status", "movementOutcome",
    "transactionHash", "chainId", "tokenContractAddress",
    "assetProvenance", "policySource", "policyRevision", "rulesVersion",
    "safePolicyFingerprint", "sessionId", "providerId", "reservationId",
    "createdAt", "submittedAt", "confirmedAt", "projectedAt",
    "activityAt", "activityAtSource", "exceptionCategory",
    "annotationCount", "summaryIssuedMovementCount",
    "summaryReturnedMovementCount", "summaryConfirmedMovementCount",
    "summaryExceptionCount", "summaryTotalsByAsset",
    "coverageTotalIsLowerBound", "coverageTruncated",
    "coverageUnknownMovementCount", "coverageInvalidHashCount",
    "coverageUnknownAssetCount", "coverageDuplicateConflictCount",
    "coverageWarnings"]

abbrev CsvValues := List (String × CsvValue)

/-- `values[column]`. -/
def CsvValues.read (values : CsvValues) (column : String) : CsvValue :=
  (InsertionMap.get? column values).getD .absent

def csvRow (values : CsvValues) : String :=
  ",".intercalate
    (CSV_COLUMNS.map fun column => csvCell (values.read column))

/-! ## Reports -/

/-- A total of one asset; its texts are whatever was stored. -/
structure AdminEvidenceTotalsByAsset where
  chainId : Option String
  tokenContractAddress : Option String
  provenance : String
  awardedSparkz : String
  spentSparkz : String
  netIssuedSparkz : String

structure EvidenceSummary where
  basis : String
  issuedMovementCount : JsNumber
  returnedMovementCount : JsNumber
  confirmedMovementCount : JsNumber
  exceptionCount : JsNumber
  totalsByAsset : List AdminEvidenceTotalsByAsset

structure EvidenceCoverage where
  totalIsLowerBound : Bool
  truncated : Bool
  unknownMovementCount : JsNumber
  invalidHashCount : JsNumber
  unknownAssetCount : JsNumber
  duplicateConflictCount : JsNumber
  warnings : List String

structure EvidencePeriod where
  start : String
  finish : String
  observationAt : String

/-- A row of the report, with all the fields that a record shows. -/
structure AdminEvidenceRow where
  subjectType : String
  subjectId : String
  operationKey : Option String
  operationType : String
  eMAID : Option String
  walletAddress : Option String
  amountSparkz : String
  status : Option String
  movementOutcome : Option String
  transactionHash : Option String
  chainId : Option String
  tokenContractAddress : Option String
  assetProvenance : String
  policySource : String
  policyRevision : Option JsNumber
  rulesVersion : Option String
  safePolicyFingerprint : Option String
  sessionId : Option String
  providerId : Option String
  reservationId : Option String
  createdAt : Option String
  submittedAt : Option String
  confirmedAt : Option String
  projectedAt : Option String
  activityAt : Option String
  activityAtSource : String
  exceptionCategory : Option String
  annotationCount : JsNumber

structure AdminEvidenceReportResponse where
  generatedAt : String
  period : EvidencePeriod
  summary : EvidenceSummary
  coverage : EvidenceCoverage
  rows : List AdminEvidenceRow

/-- A text or `null` as `JSON.stringify` writes it. -/
def jsonOption : Option String → List Char
  | none => ['n', 'u', 'l', 'l']
  | some content => quote content

def AdminEvidenceTotalsByAsset.json
    (totals : AdminEvidenceTotalsByAsset) :
    List Char :=
  '{' ::
    joined
      ([("chainId", jsonOption totals.chainId),
        ("tokenContractAddress", jsonOption totals.tokenContractAddress),
        ("provenance", quote totals.provenance),
        ("awardedSparkz", quote totals.awardedSparkz),
        ("spentSparkz", quote totals.spentSparkz),
        ("netIssuedSparkz", quote totals.netIssuedSparkz)].map
        fieldText) ++
    ['}']

/-- `JSON.stringify(report.summary.totalsByAsset)`. -/
def totalsText (totals : List AdminEvidenceTotalsByAsset) : String :=
  String.ofList
    ('[' :: joined (totals.map AdminEvidenceTotalsByAsset.json) ++ [']'])

/-- The columns that every record begins with. -/
def periodValues (report : AdminEvidenceReportResponse) : CsvValues :=
  [("generatedAt", .text report.generatedAt),
    ("periodFrom", .text report.period.start),
    ("periodTo", .text report.period.finish),
    ("observationAt", .text report.period.observationAt),
    ("basis", .text report.summary.basis)]

/-- The columns that every record ends with. -/
def summaryValues (report : AdminEvidenceReportResponse) : CsvValues :=
  [("summaryIssuedMovementCount",
      .number report.summary.issuedMovementCount),
    ("summaryReturnedMovementCount",
      .number report.summary.returnedMovementCount),
    ("summaryConfirmedMovementCount",
      .number report.summary.confirmedMovementCount),
    ("summaryExceptionCount", .number report.summary.exceptionCount),
    ("summaryTotalsByAsset",
      .text (totalsText report.summary.totalsByAsset)),
    ("coverageTotalIsLowerBound",
      .flag report.coverage.totalIsLowerBound),
    ("coverageTruncated", .flag report.coverage.truncated),
    ("coverageUnknownMovementCount",
      .number report.coverage.unknownMovementCount),
    ("coverageInvalidHashCount",
      .number report.coverage.invalidHashCount),
    ("coverageUnknownAssetCount",
      .number report.coverage.unknownAssetCount),
    ("coverageDuplicateConflictCount",
      .number report.coverage.duplicateConflictCount),
    ("coverageWarnings",
      .text (" | ".intercalate report.coverage.warnings))]

/-- The columns of a row. -/
def AdminEvidenceRow.values (row : AdminEvidenceRow) : CsvValues :=
  [("subjectType", .text row.subjectType),
    ("subjectId", .text row.subjectId),
    ("operationKey", .ofOption row.operationKey),
    ("operationType", .text row.operationType),
    ("eMAID", .ofOption row.eMAID),
    ("walletAddress", .ofOption row.walletAddress),
    ("amountSparkz", .text row.amountSparkz),
    ("status", .ofOption row.status),
    ("movementOutcome", .ofOption row.movementOutcome),
    ("transactionHash", .ofOption row.transactionHash),
    ("chainId", .ofOption row.chainId),
    ("tokenContractAddress", .ofOption row.tokenContractAddress),
    ("assetProvenance", .text row.assetProvenance),
    ("policySource", .text row.policySource),
    ("policyRevision",
      (row.policyRevision.map CsvValue.number).getD .absent),
    ("rulesVersion", .ofOption row.rulesVersion),
    ("safePolicyFingerprint", .ofOption row.safePolicyFingerprint),
    ("sessionId", .ofOption row.sessionId),
    ("providerId", .ofOption row.providerId),
    ("reservationId", .ofOption row.reservationId),
    ("createdAt", .ofOption row.createdAt),
    ("submittedAt", .ofOption row.submittedAt),
    ("confirmedAt", .ofOption row.confirmedAt),
    ("projectedAt", .ofOption row.projectedAt),
    ("activityAt", .ofOption row.activityAt),
    ("activityAtSource", .text row.activityAtSource),
    ("exceptionCategory", .ofOption row.exceptionCategory),
    ("annotationCount", .number row.annotationCount)]

/-- The values of the records: one for each row, or one without rows. -/
def recordValues (report : AdminEvidenceReportResponse) : List CsvValues :=
  match report.rows with
  | [] => [periodValues report ++ summaryValues report]
  | rows =>
      rows.map fun row =>
        periodValues report ++ row.values ++ summaryValues report

def renderAdminEvidenceCsv (report : AdminEvidenceReportResponse) : String :=
  let lines :=
    ",".intercalate CSV_COLUMNS :: (recordValues report).map csvRow
  "\r\n".intercalate lines ++ "\r\n"

/-- The records that a reader makes of a text. -/
def readRecords (text : String) : Option (List (List String)) :=
  (CommaSeparated.read text.toList).map fun records =>
    records.map fun record => record.map String.ofList

/-! ## Reading the report -/

section Reading

variable
  {value : CsvValue}
  {values : CsvValues}
  {text : String}
  {report : AdminEvidenceReportResponse}

theorem comma_toList : ",".toList = [','] :=
  rfl

/-- A cell stands for the text that is safe. -/
theorem csvCell_encodes :
    Encodes (safeText value.shown).toList (csvCell value).toList := by
  unfold csvCell
  dsimp only
  split_ifs with arePlain
  · exact .plain (List.all_eq_true.mp arePlain)
  · have isQuoted := @Encodes.quoted (safeText value.shown).toList
    simpa using isQuoted

/-- What is safe is no formula. -/
theorem safeText_inert : isFormula (trimStart (safeText text)) = false := by
  unfold safeText
  split_ifs with isBad
  · have notBlank : isBlank '\'' = false := by
      decide
    simp [trimStart, isFormula, notBlank]
  · exact Bool.eq_false_iff.mpr isBad

/-- The record of some values. -/
def recordOfValues (values : CsvValues) : List String :=
  CSV_COLUMNS.map fun column => safeText (values.read column).shown

/-- A row stands for its record. -/
theorem csvRow_encodes :
    EncodesRecord ((recordOfValues values).map String.toList)
      (csvRow values).toList := by
  refine
    ⟨CSV_COLUMNS.map fun column => (csvCell (values.read column)).toList,
      ?_, ?_⟩
  · rw [recordOfValues, List.map_map, List.forall₂_map_left_iff,
      List.forall₂_map_right_iff, List.forall₂_same]
    intro column _
    exact csvCell_encodes
  · rw [csvRow, String.toList_intercalate, List.map_map, comma_toList]
    rfl

/-- The names of the columns are plain. -/
theorem header_plain :
    (CSV_COLUMNS.all fun column => column.toList.all isPlain) = true := by
  decide +kernel

/-- The first line stands for the names of the columns. -/
theorem header_encodes :
    EncodesRecord (CSV_COLUMNS.map String.toList)
      (",".intercalate CSV_COLUMNS).toList := by
  refine ⟨CSV_COLUMNS.map String.toList, ?_, ?_⟩
  · rw [List.forall₂_same]
    intro column member
    apply Encodes.plain
    obtain ⟨name, isColumn, rfl⟩ := List.mem_map.mp member
    exact List.all_eq_true.mp (List.all_eq_true.mp header_plain name isColumn)
  · rw [String.toList_intercalate, comma_toList]

/-- Every row is one record. -/
theorem length_recordValues :
    (recordValues report).length =
      if report.rows = [] then 1 else report.rows.length := by
  unfold recordValues
  rcases report.rows with _ | ⟨row, rows⟩
  · rfl
  · simp

/-- The names of the columns are no formulas. -/
theorem header_inert :
    (CSV_COLUMNS.all fun column => !isFormula (trimStart column)) =
      true := by
  decide +kernel

/--
A reader of the report finds the names of the columns and then one record for
each row, or a single one without rows.  Every record has a cell for each
column, which is the shown value or that value after an apostrophe, and no cell
is a formula.
-/
theorem renderAdminEvidenceCsv_isInert
    (report : AdminEvidenceReportResponse) :
    ∃ records,
      readRecords (renderAdminEvidenceCsv report) =
          some (CSV_COLUMNS :: records) ∧
        records.length =
          (if report.rows = [] then 1 else report.rows.length) ∧
        List.Forall₂
          (fun values record =>
            List.Forall₂
              (fun column cell =>
                cell = (values.read column).shown ∨
                  cell = "'" ++ (values.read column).shown)
              CSV_COLUMNS record)
          (recordValues report) records ∧
        ∀ record ∈ CSV_COLUMNS :: records,
          record.length = CSV_COLUMNS.length ∧
            ∀ cell ∈ record, isFormula (trimStart cell) = false := by
  refine ⟨(recordValues report).map recordOfValues, ?_, ?_, ?_, ?_⟩
  · have encoded :
        List.Forall₂ EncodesRecord
          ((CSV_COLUMNS :: (recordValues report).map recordOfValues).map
            fun record => record.map String.toList)
          ((",".intercalate CSV_COLUMNS ::
            (recordValues report).map csvRow).map String.toList) := by
      refine .cons header_encodes ?_
      rw [List.map_map, List.map_map, List.forall₂_map_left_iff,
        List.forall₂_map_right_iff, List.forall₂_same]
      intro values _
      exact csvRow_encodes
    have notEmpty :
        ∀ record ∈
            (CSV_COLUMNS :: (recordValues report).map recordOfValues).map
              fun record => record.map String.toList,
          record ≠ [] := by
      intro record member
      obtain ⟨original, isOriginal, rfl⟩ := List.mem_map.mp member
      rw [ne_eq, List.map_eq_nil_iff]
      rcases List.mem_cons.mp isOriginal with rfl | inRecords
      · exact List.cons_ne_nil _ _
      · obtain ⟨values, _, rfl⟩ := List.mem_map.mp inRecords
        rw [recordOfValues, List.map_eq_nil_iff]
        exact List.cons_ne_nil _ _
    have isText :
        (renderAdminEvidenceCsv report).toList =
          ((",".intercalate CSV_COLUMNS ::
            (recordValues report).map csvRow).map String.toList).flatMap
            fun line => line ++ lineEnd := by
      rw [renderAdminEvidenceCsv, String.toList_append,
        String.toList_intercalate]
      exact intercalate_append (List.cons_ne_nil _ _)
    rw [readRecords, isText, read_encoded notEmpty encoded]
    simp [List.map_map, Function.comp_def]
  · rw [List.length_map, length_recordValues]
  · rw [List.forall₂_map_right_iff, List.forall₂_same]
    intro values _
    rw [recordOfValues, List.forall₂_map_right_iff, List.forall₂_same]
    intro column _
    unfold safeText
    split_ifs
    · exact .inr rfl
    · exact .inl rfl
  · intro record member
    rcases List.mem_cons.mp member with rfl | inRecords
    · refine ⟨rfl, ?_⟩
      intro column isColumn
      simpa using List.all_eq_true.mp header_inert column isColumn
    · obtain ⟨values, _, rfl⟩ := List.mem_map.mp inRecords
      refine ⟨by simp [recordOfValues], ?_⟩
      intro cell isCell
      obtain ⟨column, _, rfl⟩ := List.mem_map.mp isCell
      exact safeText_inert

end Reading

end EvidenceCsv

end Sparkz
