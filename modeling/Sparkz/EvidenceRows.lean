import Sparkz.Failure
import Sparkz.InsertionMap
import Sparkz.SignedDecimals
import Sparkz.SortedHead

namespace Sparkz

open InsertionMap

/-!
# Evidence rows of the admin report

The report reads rows from three tables.  Rows of one transaction hash are
mirrors of one movement, unless they contradict each other; then the movement
is kept for review and no longer counts as confirmed.
-/

/-! ## Rows -/

inductive SourceName where
  | tokenOperation
  | award
  | spend
  deriving Repr, DecidableEq

inductive MovementDirection where
  | issued
  | returned
  deriving Repr, DecidableEq

/-- `objectValue(intentContext.assetContext)`, by its two texts. -/
structure EvidenceAssetContext where
  chainId : Option String
  tokenContractAddress : Option String
  deriving Repr, DecidableEq

/-- The stored context of a row. -/
structure EvidenceContext where
  assetContext : Option EvidenceAssetContext
  deriving Repr, DecidableEq

/-- A row of any of the three tables, as the report reads it. -/
structure RawEvidenceRow where
  source : SourceName
  id : String
  uid : Option String
  walletAddress : Option String
  userId : Option String
  amount : BodyValue
  movementOutcome : Option MovementOutcome
  txHash : Option TransactionHash
  intentContext : Option EvidenceContext
  /-- `parseDate(row.activityAt)`. -/
  activityAt : Option Int
  direction : MovementDirection
  rank : Int
  deriving DecidableEq

/-! ## Assets -/

inductive AdminEvidenceAssetProvenance where
  | storedOperationContext
  | legacyUnknown
  deriving Repr, DecidableEq

structure AdminEvidenceAsset where
  chainId : Option String
  tokenContractAddress : Option String
  provenance : AdminEvidenceAssetProvenance
  deriving Repr, DecidableEq

/-- `SAFE_CHAIN_ID_PATTERN`. -/
def isSafeChainId (text : String) : Bool :=
  let digits := text.toList
  digits ≠ [] && digits.length ≤ 80 && digits.all Char.isDigit

/-- `SAFE_TOKEN_ADDRESS_PATTERN`, which ignores letter case. -/
def isSafeTokenAddress (text : String) : Bool :=
  match text.toList with
  | '0' :: mark :: digits =>
      (mark == 'x' || mark == 'X') && digits.length == 40 &&
        digits.all hexDigits.contains
  | _ => false

/-- `assetFromContext(intentContext)`. -/
def assetFromContext
    (intentContext : Option EvidenceContext) :
    AdminEvidenceAsset :=
  let asset := intentContext.bind (·.assetContext)
  let chainId := (asset.bind (·.chainId)).filter isSafeChainId
  let tokenContractAddress :=
    ((asset.bind (·.tokenContractAddress)).filter isSafeTokenAddress).map
      lowerText
  match chainId, tokenContractAddress with
  | some chainId, some tokenContractAddress =>
      ⟨some chainId, some tokenContractAddress, .storedOperationContext⟩
  | _, _ => ⟨none, none, .legacyUnknown⟩

/-- `assetKey(asset)`. -/
def assetKey (asset : AdminEvidenceAsset) : String :=
  orText asset.chainId "unknown" ++ "|" ++
    orText asset.tokenContractAddress "unknown" ++ "|" ++
    if asset.provenance = .storedOperationContext then "known"
    else "unknown"

/-- `key.startsWith('unknown|')`. -/
def isUnknownKey (key : String) : Bool :=
  hasPrefix key "unknown|"

namespace RawEvidenceRow

/-- `assetFromContext(row.intentContext)`. -/
def asset (row : RawEvidenceRow) : AdminEvidenceAsset :=
  assetFromContext row.intentContext

/-- `assetKey(assetFromContext(row.intentContext))`. -/
def key (row : RawEvidenceRow) : String :=
  assetKey row.asset

/-- `parseDecimal(row.amount)`. -/
def units (row : RawEvidenceRow) : Option Int :=
  parseDecimal row.amount 2

end RawEvidenceRow

/-! ## Mirrors of one movement -/

/-- Two owners that are both known and differ. -/
def knownAndDifferent (left right : Option String) : Bool :=
  truthy left && truthy right && left != right

/-- `knownOwnerMismatch(left, right)`. -/
def knownOwnerMismatch (left right : RawEvidenceRow) : Bool :=
  knownAndDifferent left.userId right.userId ||
    knownAndDifferent left.uid right.uid ||
    (truthy left.walletAddress && truthy right.walletAddress &&
      left.walletAddress.map lowerText !=
        right.walletAddress.map lowerText)

/-- `sameMovement(left, right)`. -/
def sameMovement (left right : RawEvidenceRow) : Bool :=
  left.direction == right.direction && left.units.isSome &&
    right.units.isSome && left.units == right.units &&
    !knownOwnerMismatch left right

/-- `right.rank - left.rank || left.id.localeCompare(right.id)`. -/
def compareRows
    (localeCompare : String → String → Int)
    (left right : RawEvidenceRow) :
    Int :=
  if right.rank - left.rank ≠ 0 then right.rank - left.rank
  else localeCompare left.id right.id

/-- `[...rows].sort(…)[0]`. -/
def chosenRow?
    (localeCompare : String → String → Int)
    (rows : List RawEvidenceRow) :
    Option RawEvidenceRow :=
  (rows.insertionSort fun left right =>
    compareRows localeCompare left right ≤ 0).head?

/-- More than one row comes from the token operations. -/
def authoritativeConflict (rows : List RawEvidenceRow) : Bool :=
  1 < (rows.filter (·.source == .tokenOperation)).length

/-- Some row shows another movement than the chosen one. -/
def conflictingRows
    (localeCompare : String → String → Int)
    (rows : List RawEvidenceRow) :
    Bool :=
  1 < rows.length &&
    rows.any fun row =>
      !(chosenRow? localeCompare rows).any (sameMovement row)

/-- The rows of one asset contradict each other. -/
def semanticConflict
    (localeCompare : String → String → Int)
    (rows : List RawEvidenceRow) :
    Bool :=
  authoritativeConflict rows || conflictingRows localeCompare rows

/-! ## Rows kept for review -/

/-- `{ ...row, movementOutcome: 'review' }`. -/
def RawEvidenceRow.review (row : RawEvidenceRow) : RawEvidenceRow :=
  { row with movementOutcome := some .review }

/-- `{ ...row, intentContext: null, movementOutcome: 'review' }`. -/
def RawEvidenceRow.unresolved (row : RawEvidenceRow) : RawEvidenceRow :=
  { row with intentContext := none, movementOutcome := some .review }

/-- A warning of the report. -/
inductive EvidenceWarning where
  | multipleKnownAssets (hash : TransactionHash)
  | multipleAuthoritative (hash : TransactionHash)
  | conflictingEvidence (hash : TransactionHash)
  | unresolvedAsset (hash : TransactionHash)
  | missingHash
  | unconfirmed
  | unknownAsset
  deriving DecidableEq

namespace EvidenceWarning

/-- The hash whose movement a warning calls excluded. -/
def excluded? : EvidenceWarning → Option TransactionHash
  | .multipleKnownAssets hash | .multipleAuthoritative hash
  | .conflictingEvidence hash | .unresolvedAsset hash => some hash
  | .missingHash | .unconfirmed | .unknownAsset => none

/-- What a warning says about its hash. -/
def aboutHash (hash : TransactionHash) (finding : String) : String :=
  "transaction hash " ++ hash.text ++ " has " ++ finding ++
    "; movement is retained for review and excluded from confirmed totals"

/-- The text of a warning. -/
def text : EvidenceWarning → String
  | .multipleKnownAssets hash =>
      aboutHash hash "multiple known asset identities"
  | .multipleAuthoritative hash =>
      aboutHash hash "multiple authoritative token-operation records"
  | .conflictingEvidence hash =>
      aboutHash hash
        ("conflicting retained ownership, amount, movement, or asset " ++
          "evidence")
  | .unresolvedAsset hash =>
      aboutHash hash "unresolved unknown-asset evidence"
  | .missingHash =>
      "confirmed movement evidence without a canonical transaction hash " ++
        "is excluded from totals"
  | .unconfirmed =>
      "unconfirmed or unknown movement evidence is retained for review " ++
        "but excluded from confirmed totals"
  | .unknownAsset =>
      "confirmed movement asset provenance is unknown for one or more " ++
        "retained rows"

end EvidenceWarning

/-! ## One transaction hash -/

/-- What a part of the rows contributes to the report. -/
structure EvidenceSelection where
  rows : List RawEvidenceRow
  unknownAssetCount : Nat
  duplicateConflictCount : Nat
  warnings : List EvidenceWarning
  deriving DecidableEq

/-- The rows of one transaction hash, apart by asset. -/
structure HashEvidence where
  byAsset : List (String × List RawEvidenceRow)
  deriving DecidableEq

namespace HashEvidence

/-- The rows of one hash, grouped by their asset. -/
def ofRows (group : List RawEvidenceRow) : HashEvidence where
  byAsset := groupBy (fun row => some row.key) group

variable (localeCompare : String → String → Int) (evidence : HashEvidence)

/-- The groups of known assets. -/
def known : List (String × List RawEvidenceRow) :=
  evidence.byAsset.filter fun entry => !isUnknownKey entry.1

def knownRows : List RawEvidenceRow :=
  evidence.known.flatMap (·.2)

def unknownRows : List RawEvidenceRow :=
  (evidence.byAsset.filter fun entry => isUnknownKey entry.1).flatMap (·.2)

def multipleKnownAssets : Bool :=
  1 < evidence.known.length

def knownSemanticConflict : Bool :=
  evidence.known.any fun entry => semanticConflict localeCompare entry.2

/-- Every row of an unknown asset mirrors a row of a known one. -/
def unknownMirror : Bool :=
  evidence.unknownRows ≠ [] && evidence.knownRows ≠ [] &&
    evidence.unknownRows.all fun row =>
      evidence.knownRows.any fun knownRow => sameMovement row knownRow

def unknownAssetConflict : Bool :=
  evidence.unknownRows ≠ [] && evidence.knownRows ≠ [] &&
    (!evidence.unknownMirror || evidence.multipleKnownAssets ||
      evidence.knownSemanticConflict localeCompare)

/-- Whether the rows of one asset are kept for review. -/
def groupConflict (rows : List RawEvidenceRow) : Bool :=
  evidence.multipleKnownAssets || conflictingRows localeCompare rows ||
    authoritativeConflict rows ||
    evidence.unknownAssetConflict localeCompare

/-- The body of the loop over the assets of one hash. -/
def selectAsset
    (hash : TransactionHash)
    (key : String)
    (rows : List RawEvidenceRow) :
    EvidenceSelection :=
  let conflict := evidence.groupConflict localeCompare rows
  let duplicateConflictCount := if conflict then 1 else 0
  let conflictWarnings :=
    if conflict then
      [if authoritativeConflict rows then
        EvidenceWarning.multipleAuthoritative hash
      else .conflictingEvidence hash]
    else []
  if isUnknownKey key ∧ evidence.known ≠ [] then
    if evidence.unknownMirror ∧
        ¬ evidence.unknownAssetConflict localeCompare ∧ ¬ conflict then
      { rows := []
        unknownAssetCount := 0
        duplicateConflictCount := duplicateConflictCount
        warnings := conflictWarnings }
    else
      { rows := rows.map (·.unresolved)
        unknownAssetCount := 0
        duplicateConflictCount := duplicateConflictCount
        warnings := conflictWarnings ++ [.unresolvedAsset hash] }
  else
    match chosenRow? localeCompare rows with
    | none =>
        -- A group is never empty.
        ⟨[], 0, duplicateConflictCount, conflictWarnings⟩
    | some chosen =>
        { rows := if conflict then rows.map (·.review) else [chosen]
          unknownAssetCount :=
            if chosen.movementOutcome = some .confirmed ∧
                chosen.asset.provenance ≠ .storedOperationContext then 1
            else 0
          duplicateConflictCount := duplicateConflictCount
          warnings := conflictWarnings }

/-- The rows and the counts that one hash contributes. -/
def select (hash : TransactionHash) : EvidenceSelection :=
  let selections :=
    evidence.byAsset.map fun entry =>
      evidence.selectAsset localeCompare hash entry.1 entry.2
  { rows := selections.flatMap (·.rows)
    unknownAssetCount := (selections.map (·.unknownAssetCount)).sum
    duplicateConflictCount :=
      (selections.map (·.duplicateConflictCount)).sum
    warnings :=
      (if evidence.multipleKnownAssets then [.multipleKnownAssets hash]
        else []) ++
        selections.flatMap (·.warnings) }

end HashEvidence

/-! ## All rows -/

structure DedupedRows where
  rows : List RawEvidenceRow
  invalidHashCount : Nat
  unknownMovementCount : Nat
  unknownAssetCount : Nat
  duplicateConflictCount : Nat
  warnings : List EvidenceWarning
  deriving DecidableEq

/-- The rows of each transaction hash. -/
def byHash
    (input : List RawEvidenceRow) :
    List (TransactionHash × List RawEvidenceRow) :=
  groupBy (·.txHash) input

/-- `dedupeRows(input)`. -/
def dedupeRows
    (localeCompare : String → String → Int)
    (input : List RawEvidenceRow) :
    DedupedRows :=
  let withoutHash := input.filter (·.txHash.isNone)
  let selections :=
    (byHash input).map fun entry =>
      (HashEvidence.ofRows entry.2).select localeCompare entry.1
  let invalidHashCount :=
    withoutHash.countP fun row =>
      row.units.isSome && row.movementOutcome == some .confirmed
  let unknownMovementCount :=
    input.countP fun row => row.movementOutcome != some .confirmed
  let unknownAssetCount :=
    (withoutHash.countP fun row =>
      row.movementOutcome == some .confirmed &&
        row.asset.provenance != .storedOperationContext) +
      (selections.map (·.unknownAssetCount)).sum
  let warnings : List EvidenceWarning :=
    selections.flatMap (·.warnings) ++
      (if invalidHashCount ≠ 0 then [.missingHash] else []) ++
      (if unknownMovementCount ≠ 0 then [.unconfirmed] else []) ++
      if unknownAssetCount ≠ 0 then [.unknownAsset] else []
  { rows := withoutHash ++ selections.flatMap (·.rows)
    invalidHashCount := invalidHashCount
    unknownMovementCount := unknownMovementCount
    unknownAssetCount := unknownAssetCount
    duplicateConflictCount :=
      (selections.map (·.duplicateConflictCount)).sum
    warnings := warnings.eraseDups }

/-! ## Totals -/

/-- The totals of one asset. -/
structure AdminEvidenceTotalsByAsset where
  asset : AdminEvidenceAsset
  awardedSparkz : String
  spentSparkz : String
  netIssuedSparkz : String
  deriving Repr, DecidableEq

structure SourceTotals where
  totals : List AdminEvidenceTotalsByAsset
  issuedMovementCount : Nat
  returnedMovementCount : Nat
  confirmedMovementCount : Nat
  deriving DecidableEq

namespace RawEvidenceRow

variable (windowStart windowEnd : Int) (row : RawEvidenceRow)

/-- The units that a row counts with, if it counts at all. -/
def counted? : Option Int :=
  if row.activityAt.any fun activityAt =>
      windowStart ≤ activityAt && activityAt ≤ windowEnd then
    if row.movementOutcome = some .confirmed ∧ row.txHash.isSome then
      row.units.filter (0 ≤ ·)
    else none
  else none

/--
A row counts with its own units: it is confirmed, with a hash, in the window,
and its units are not negative.
-/
theorem counted?_eq_some_iff
    {windowStart windowEnd amount : Int}
    {row : RawEvidenceRow} :
    row.counted? windowStart windowEnd = some amount ↔
      (∃ activityAt,
          row.activityAt = some activityAt ∧
            windowStart ≤ activityAt ∧ activityAt ≤ windowEnd) ∧
        row.movementOutcome = some .confirmed ∧
        row.txHash.isSome = true ∧
        row.units = some amount ∧
        0 ≤ amount := by
  have inWindow_iff :
      (row.activityAt.any fun activityAt =>
          windowStart ≤ activityAt && activityAt ≤ windowEnd) = true ↔
        ∃ activityAt,
          row.activityAt = some activityAt ∧
            windowStart ≤ activityAt ∧ activityAt ≤ windowEnd := by
    simp [Option.any_eq_true]
  unfold counted?
  by_cases inWindow :
      ∃ activityAt,
        row.activityAt = some activityAt ∧
          windowStart ≤ activityAt ∧ activityAt ≤ windowEnd
  · rw [if_pos (inWindow_iff.mpr inWindow)]
    by_cases confirmed :
        row.movementOutcome = some .confirmed ∧ row.txHash.isSome = true
    · rw [if_pos confirmed, Option.filter_eq_some_iff]
      simp [inWindow, confirmed.1, confirmed.2]
    · rw [if_neg confirmed]
      refine iff_of_false (by simp) ?_
      rintro ⟨_, isConfirmed, hasHash, _⟩
      exact confirmed ⟨isConfirmed, hasHash⟩
  · rw [if_neg (mt inWindow_iff.mp inWindow)]
    exact iff_of_false (by simp) fun counts => inWindow counts.1

end RawEvidenceRow

/-- `parseDecimal(text) || 0n`. -/
def unitsOrZero (text : String) : Int :=
  (parseDecimal (.text text) 2).getD 0

/-- The loop body of `sourceTotals` for a row that counts. -/
def AdminEvidenceTotalsByAsset.add
    (row : RawEvidenceRow)
    (amount : Int)
    (present : Option AdminEvidenceTotalsByAsset) :
    AdminEvidenceTotalsByAsset :=
  let current := present.getD ⟨row.asset, "0.00", "0.00", "0.00"⟩
  let awarded := unitsOrZero current.awardedSparkz
  let spent := unitsOrZero current.spentSparkz
  let awardedSparkz :=
    match row.direction with
    | .issued => formatDecimal (awarded + amount) 2
    | .returned => current.awardedSparkz
  let spentSparkz :=
    match row.direction with
    | .issued => current.spentSparkz
    | .returned => formatDecimal (spent + amount) 2
  { asset := current.asset
    awardedSparkz := awardedSparkz
    spentSparkz := spentSparkz
    netIssuedSparkz :=
      formatDecimal (unitsOrZero awardedSparkz - unitsOrZero spentSparkz)
        2 }

/-- The rows that count in a window, with their units. -/
def countedRows
    (windowStart windowEnd : Int)
    (rows : List RawEvidenceRow) :
    List (RawEvidenceRow × Int) :=
  rows.filterMap fun row =>
    (row.counted? windowStart windowEnd).map fun amount => (row, amount)

/-- `sourceTotals(rows, from, to)`. -/
def sourceTotals
    (rows : List RawEvidenceRow)
    (windowStart windowEnd : Int) :
    SourceTotals :=
  let counted := countedRows windowStart windowEnd rows
  let totals :=
    build (fun item => some item.1.key)
      (fun item => AdminEvidenceTotalsByAsset.add item.1 item.2) counted
  { totals := totals.map Prod.snd
    issuedMovementCount := counted.countP (·.1.direction == .issued)
    returnedMovementCount := counted.countP (·.1.direction == .returned)
    confirmedMovementCount := counted.length }

end Sparkz
