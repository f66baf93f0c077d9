import Mathlib.Data.List.Sort
import Sparkz.CorrectionAnnotation

namespace Sparkz

open InsertionMap

/-!
# The evidence that an annotation refers to

The subject of an annotation is one row of retained evidence, and a
transaction reference stands for all rows with its hash.  Owners and assets of
these rows may be unknown; the known ones must not contradict each other.
-/

/-! ## Rows and what they resolve to -/

/-- The tables of `tableForSubject`. -/
inductive EvidenceTable where
  | tokenOperations
  | awards
  | spends
  deriving Repr, DecidableEq

/-- `tableForSubject(subjectType)`. -/
def tableForSubject : AnnotationSubjectType → EvidenceTable
  | .tokenOperation => .tokenOperations
  | .award => .awards
  | .spend => .spends

/-- A row of one of the tables; a column that it lacks is absent. -/
structure EvidenceRecord where
  id : String
  operation_key : Option String
  uid : Option String
  user_id : Option String
  wallet_address : Option String
  tx_hash : Option String
  intent_context : Option EvidenceContext
  deriving DecidableEq

/-- The columns that the code selects from a table. -/
def EvidenceRecord.select
    (table : EvidenceTable)
    (row : EvidenceRecord) :
    EvidenceRecord :=
  match table with
  | .tokenOperations => { row with user_id := none, tx_hash := none }
  | .awards =>
      { row with
        operation_key := none
        uid := none
        wallet_address := none
        tx_hash := none
        intent_context := none }
  | .spends =>
      { row with
        operation_key := none
        uid := none
        tx_hash := none
        intent_context := none }

/-- `lower(tx_hash) = lower(?)`. -/
def EvidenceRecord.hasHash
    (hash : TransactionHash)
    (row : EvidenceRecord) :
    Bool :=
  row.tx_hash.map lowerText == some (lowerText hash.text)

/-- A row of `users`. -/
structure UserRecord where
  id : String
  uid : Option String
  wallet_address : Option String
  deriving DecidableEq

/-- `ResolvedReference`. -/
structure ResolvedReference where
  provenance : ReferenceProvenance
  operationKey : Option String
  chainId : Option String
  tokenContractAddress : Option String
  uid : Option String
  walletAddress : Option String
  deriving DecidableEq

/-- The provenance of what a row of a table resolves to. -/
def EvidenceTable.provenance : EvidenceTable → ReferenceProvenance
  | .tokenOperations => .retainedOperation
  | .awards => .retainedAward
  | .spends => .retainedSpend

/--
What a selected row and its user resolve to.  Safe texts are not empty, so
`||` takes the first of two that is there.
-/
def resolvedReference
    (table : EvidenceTable)
    (row : EvidenceRecord)
    (user : Option UserRecord) :
    ResolvedReference :=
  let asset := assetFromContext row.intent_context
  { provenance := table.provenance
    operationKey := safeString row.operation_key 240
    chainId := asset.chainId
    tokenContractAddress := asset.tokenContractAddress
    uid :=
      (safeString row.uid 255).or (safeString (user.bind (·.uid)) 255)
    walletAddress :=
      (safeString row.wallet_address 128).or
        (safeString (user.bind (·.wallet_address)) 128) }

/-! ## The reference of a hash -/

/-- `rank(candidate)`. -/
def ResolvedReference.rank (candidate : ResolvedReference) : Nat :=
  match candidate.provenance with
  | .retainedOperation => 3
  | .retainedAward => 2
  | _ => 1

/-- `[...candidates].sort(…)`, which is stable. -/
def byRank (candidates : List ResolvedReference) :
    List ResolvedReference :=
  candidates.insertionSort fun left right => right.rank ≤ left.rank

/-- `[...new Set(values.filter(Boolean))]`. -/
def knownTexts (values : List (Option String)) : List String :=
  (values.filterMap orNull).eraseDups

/-- The key of a candidate in the map of known assets, if it has an asset. -/
def ResolvedReference.assetKey?
    (candidate : ResolvedReference) :
    Option String :=
  match orNull candidate.chainId, orNull candidate.tokenContractAddress with
  | some chainId, some token => some (chainId ++ "|" ++ lowerText token)
  | _, _ => none

/-- `[...new Map(…).values()]`: one candidate for each known asset. -/
def knownAssets (candidates : List ResolvedReference) :
    List ResolvedReference :=
  (build ResolvedReference.assetKey? (fun candidate _ => candidate)
    candidates).map Prod.snd

def referenceNotFound : AdminEvidenceError :=
  ⟨404, "ANNOTATION_REFERENCE_NOT_FOUND",
    "The original transaction reference was not found in retained evidence"⟩

def referenceAmbiguous : AdminEvidenceError :=
  ⟨409, "ANNOTATION_REFERENCE_AMBIGUOUS",
    "The original transaction reference has too many retained matches to resolve safely"⟩

def contextMismatch (message : String) : AdminEvidenceError :=
  ⟨409, "ANNOTATION_REFERENCE_CONTEXT_MISMATCH", message⟩

/-- What `transactionReference` makes of its candidates. -/
def selectReference
    (candidates : List ResolvedReference)
    (candidateOverflow : Bool) :
    Except AdminEvidenceError ResolvedReference :=
  let selected := byRank candidates
  let knownUids := knownTexts (selected.map (·.uid))
  let knownWallets :=
    knownTexts (selected.map (·.walletAddress.map lowerText))
  match selected with
  | [] => .error referenceNotFound
  | first :: _ =>
      if candidateOverflow then .error referenceAmbiguous
      else if 1 < knownUids.length ∨ 1 < knownWallets.length then
        .error <| contextMismatch
          "The original transaction reference has conflicting retained ownership evidence"
      else
        let assets := knownAssets selected
        let assetConflict := 1 < assets.length
        .ok
          { provenance :=
              if assetConflict then .conflictUnknown else first.provenance
            operationKey := if assetConflict then none else first.operationKey
            uid := knownUids.head?
            walletAddress := knownWallets.head?
            chainId :=
              if assetConflict then none
              else orNull (assets.head?.bind (·.chainId))
            tokenContractAddress :=
              if assetConflict then none
              else orNull (assets.head?.bind (·.tokenContractAddress)) }

/-- `referenceMatchesTarget(target, reference)`. -/
def referenceMatchesTarget
    (target reference : ResolvedReference) :
    Except AdminEvidenceError Unit :=
  if truthy target.uid && truthy reference.uid &&
      target.uid != reference.uid then
    .error <| contextMismatch
      "The original transaction reference does not match the selected evidence account"
  else if truthy target.walletAddress && truthy reference.walletAddress &&
      target.walletAddress.map lowerText !=
        reference.walletAddress.map lowerText then
    .error <| contextMismatch
      "The original transaction reference does not match the selected evidence wallet"
  else if truthy target.chainId && truthy reference.chainId &&
      (target.chainId != reference.chainId ||
        target.tokenContractAddress.map lowerText !=
          reference.tokenContractAddress.map lowerText) then
    .error <| contextMismatch
      "The original transaction reference does not match the selected evidence asset"
  else .ok ()

/-! ## The tables -/

/--
The retained evidence; a table may be missing.  No two token operations have
one hash, which is the index `token_operations_tx_hash_lower_unique`.
-/
structure Evidence where
  records : EvidenceTable → Option (List EvidenceRecord)
  users : Option (List UserRecord)
  operationHashes :
    ∀ hash : TransactionHash,
      (((records .tokenOperations).getD []).filter
        (·.hasHash hash)).length ≤ 1

/-- How many rows of a hash are read from each table. -/
def ADMIN_REFERENCE_CANDIDATE_LIMIT : Nat := 10

/-- A read of the evidence tables. -/
inductive EvidenceQuery where
  | hasTable : EvidenceTable → EvidenceQuery
  | withId : EvidenceTable → (id : String) → EvidenceQuery
  | withHash : EvidenceTable → TransactionHash → EvidenceQuery
  | hasUsers
  | user : (id : String) → EvidenceQuery

def EvidenceQuery.Result : EvidenceQuery → Type
  | .hasTable _ | .hasUsers => Bool
  | .withId _ _ => Option EvidenceRecord
  | .withHash _ _ => List EvidenceRecord
  | .user _ => Option UserRecord

/-- The rows of an unordered result, in an order given by their places. -/
def arranged {α : Type} (order : Nat → Nat) (rows : List α) : List α :=
  (rows.zipIdx.insertionSort fun left right =>
    order left.2 ≤ order right.2).map Prod.fst

theorem arranged_perm
    {α : Type}
    (order : Nat → Nat)
    (rows : List α) :
    (arranged order rows).Perm rows := by
  have sorted :=
    (List.perm_insertionSort
      (fun left right : α × Nat => order left.2 ≤ order right.2)
      rows.zipIdx).map Prod.fst
  rw [List.zipIdx_map_fst] at sorted
  exact sorted

namespace Evidence

/-- The rows of a table, none if it is missing. -/
def rowsOf (evidence : Evidence) (table : EvidenceTable) :
    List EvidenceRecord :=
  (evidence.records table).getD []

def withId
    (evidence : Evidence)
    (table : EvidenceTable)
    (id : String) :
    Option EvidenceRecord :=
  ((evidence.rowsOf table).find? fun row => row.id == id).map
    (·.select table)

def withHash
    (evidence : Evidence)
    (table : EvidenceTable)
    (hash : TransactionHash) :
    List EvidenceRecord :=
  ((evidence.rowsOf table).filter (·.hasHash hash)).map (·.select table)

def userWithId
    (evidence : Evidence)
    (id : String) :
    Option UserRecord :=
  (evidence.users.getD []).find? fun user => user.id == id

/-- The answer of a read, when the rows come in a given order. -/
def answer
    (order : Nat → Nat)
    (evidence : Evidence) :
    (query : EvidenceQuery) → query.Result
  | .hasTable table => (evidence.records table).isSome
  | .withId table id => evidence.withId table id
  | .withHash table hash =>
      (arranged order (evidence.withHash table hash)).take
        (ADMIN_REFERENCE_CANDIDATE_LIMIT + 1)
  | .hasUsers => evidence.users.isSome
  | .user id => evidence.userWithId id

/-- A result that the tables give to a read, in some order. -/
def Answers
    (evidence : Evidence)
    (query : EvidenceQuery)
    (result : query.Result) :
    Prop :=
  ∃ order, result = evidence.answer order query

/-- The user of a row that names one. -/
def userOf
    (evidence : Evidence)
    (userId : Option String) :
    Option UserRecord :=
  (orNull userId).bind evidence.userWithId

/-- What a selected row stands for. -/
def reference
    (evidence : Evidence)
    (table : EvidenceTable)
    (row : EvidenceRecord) :
    ResolvedReference :=
  resolvedReference table row (evidence.userOf row.user_id)

/-- What the subject of a request stands for, if it is retained. -/
def target
    (evidence : Evidence)
    (request : AdminCorrectionAnnotationRequest) :
    Option ResolvedReference :=
  (evidence.withId (tableForSubject request.subjectType)
    request.subjectId.text).map
    (evidence.reference (tableForSubject request.subjectType))

/-- What the rows of a table with a hash stand for. -/
def retainedIn
    (evidence : Evidence)
    (hash : TransactionHash)
    (table : EvidenceTable) :
    List ResolvedReference :=
  (evidence.withHash table hash).map (evidence.reference table)

/-- What all retained rows with a hash stand for. -/
def retained
    (evidence : Evidence)
    (hash : TransactionHash) :
    List ResolvedReference :=
  evidence.retainedIn hash .tokenOperations ++
    evidence.retainedIn hash .awards ++ evidence.retainedIn hash .spends

end Evidence

end Sparkz
