import Sparkz.InterleavingRun
import Sparkz.RewardPolicyValidation

namespace Sparkz

open Interleaving JsonText

/-!
# The reward policy repository

`createRewardPolicyRepository`: loading the singleton row, and updating it in a
transaction that locks the row.  The columns of a row come back as values or
as texts, with their fields in any order.
-/

/-! ## Rows -/

/-- The `revision` column as the driver gives it. -/
inductive RevisionColumn where
  | number : Int → RevisionColumn
  | text : String → RevisionColumn
  deriving DecidableEq

/-- A row as the driver gives it; `updated_at` as the date it stands for. -/
structure RewardPolicyRow where
  revision : RevisionColumn
  rules : Value
  off_peak_windows : Value
  updated_at : Option Int

/-- What the repository asks of its runtime. -/
structure PolicyRuntime where
  /-- `JSON.parse(text)`. -/
  parse : String → Option Value
  /-- `Number(text)`, when it is a whole number. -/
  integerOf : String → Option Int
  /-- `date.toISOString()`. -/
  toISOString : Int → String

section Repository

variable (runtime : PolicyRuntime)

/-- `Number(row.revision)`, when it is a whole number. -/
def revisionNumber : RevisionColumn → Option Int
  | .number number => some number
  | .text text => runtime.integerOf text

/-- `parseJson(value, field)`. -/
def parseJson (value : Value) (field : String) : Except Failure Value :=
  match value with
  | .text text =>
      match runtime.parse text with
      | some parsed => .ok parsed
      | none => .error (invalidField field)
  | other => .ok other

def MAX_SAFE_INTEGER : Int := 2 ^ 53 - 1

/-- The revision of a row, if it is a safe integer from one on. -/
def requireRevision (column : RevisionColumn) : Except Failure Nat :=
  match revisionNumber runtime column with
  | some number =>
      if 1 ≤ number ∧ number ≤ MAX_SAFE_INTEGER then .ok number.toNat
      else .error (.error "REWARD_POLICY_INVALID_REVISION")
  | none => .error (.error "REWARD_POLICY_INVALID_REVISION")

def isoUpdatedAt (updatedAt : Option Int) : Except Failure String :=
  match updatedAt with
  | some instant => .ok (runtime.toISOString instant)
  | none => .error (.error "REWARD_POLICY_INVALID_UPDATED_AT")

/-- `{ ...rules, version: String(revision) }`. -/
def AwardRuleConfig.withRevision
    (config : AwardRuleConfig)
    (revision : Nat) :
    AwardRuleConfig :=
  { config with version := toString revision }

/-- `policyFromRow(row)`. -/
def policyFromRow (row : RewardPolicyRow) : Except Failure PolicySnapshot := do
  let revision ← requireRevision runtime row.revision
  let rules ← parseJson runtime row.rules "rules"
  let rules ← validateAwardRules rules
  let updatedAt ← isoUpdatedAt runtime row.updated_at
  let windows ←
    parseJson runtime row.off_peak_windows "off_peak_windows"
  let offPeakWindows ← validateOffPeakWindows windows
  return {
    revision
    updatedAt
    rules := rules.withRevision revision
    offPeakWindows }

/-! ## Calls -/

/-- A new row of the policy. -/
structure PolicyWrite where
  revision : Nat
  rules : AwardRuleConfig
  offPeakWindows : OffPeakConfig
  deriving DecidableEq

/-- A statement that answers the row, if there is one. -/
inductive PolicyStatement where
  | get
  | getForUpdate
  | save : PolicyWrite → PolicyStatement

/-- A statement of the repository, or the end of its transaction. -/
inductive PolicyOp where
  | query : PolicyStatement → PolicyOp
  /-- The end of a transaction whose callback has returned a snapshot. -/
  | commit : PolicySnapshot → PolicyOp
  | rollback
  /-- The caller of the repository receives a snapshot. -/
  | deliver : PolicySnapshot → PolicyOp

/-- What an operation is answered with. -/
def PolicyOp.Answer : PolicyOp → Type
  | .query _ => Except Failure (Option RewardPolicyRow)
  | .commit _ => Except Failure Unit
  | .rollback | .deliver _ => Unit

def policyDatabase : Signature where
  Op := PolicyOp
  Answer := PolicyOp.Answer

abbrev PolicyProgram := Program policyDatabase Failure

/-- Issue a statement that may fail. -/
def queryRow
    (statement : PolicyStatement) :
    PolicyProgram (Option RewardPolicyRow) :=
  .perform (.query statement) fun answer => .ofExcept answer

/-- A patch, or a callback that makes one from the current snapshot. -/
inductive RewardPolicyUpdate where
  | plain : PatchValue → RewardPolicyUpdate
  | callback :
      (PolicySnapshot → Except Failure PatchValue) → RewardPolicyUpdate

/-- `typeof update === 'function' ? update(current) : update`. -/
def RewardPolicyUpdate.patch
    (update : RewardPolicyUpdate)
    (current : PolicySnapshot) :
    Except Failure PatchValue :=
  match update with
  | .plain patch => .ok patch
  | .callback make => make current

/-- The row that a validated patch makes of the current snapshot. -/
def nextWrite
    (current : PolicySnapshot)
    (patch : RewardPolicyPatch) :
    PolicyWrite where
  revision := current.revision + 1
  rules :=
    (patch.rules.getD current.rules).withRevision (current.revision + 1)
  offPeakWindows := patch.offPeakWindows.getD current.offPeakWindows

/-- `load()`. -/
def loadPolicy : PolicyProgram PolicySnapshot := do
  match ← queryRow .get with
  | none => .fail (.error "REWARD_POLICY_NOT_INITIALIZED")
  | some row => .ofExcept (policyFromRow runtime row)

/-- What an update writes over the policy of the locked row. -/
def makeWrite
    (update : RewardPolicyUpdate)
    (currentRow : RewardPolicyRow) :
    Except Failure PolicyWrite := do
  let current ← policyFromRow runtime currentRow
  let patch ← update.patch current
  let validatedPatch ← validatePatch patch
  return nextWrite current validatedPatch

/-- The callback that `update(update)` runs in its transaction. -/
def updateInTransaction
    (update : RewardPolicyUpdate) :
    PolicyProgram PolicySnapshot := do
  match ← queryRow .getForUpdate with
  | none => .fail (.error "REWARD_POLICY_NOT_INITIALIZED")
  | some currentRow => do
      let write ← .ofExcept (makeWrite runtime update currentRow)
      match ← queryRow (.save write) with
      | none => .fail (.error "REWARD_POLICY_WRITE_FAILED")
      | some savedRow => .ofExcept (policyFromRow runtime savedRow)

/-- Run a callback in a transaction: commit what it returns, or roll back. -/
def inTransaction
    (callback : PolicyProgram PolicySnapshot) :
    PolicyProgram PolicySnapshot := do
  match ← callback.attempt with
  | .ok snapshot =>
      .perform (.commit snapshot) fun committed => do
        .ofExcept committed
        return snapshot
  | .error error =>
      .perform .rollback fun _ => .fail error

/-- `update(update)`. -/
def updatePolicy
    (update : RewardPolicyUpdate) :
    PolicyProgram PolicySnapshot :=
  inTransaction (updateInTransaction runtime update)

/-- A call of the repository. -/
inductive PolicyCall where
  | load
  | update : RewardPolicyUpdate → PolicyCall

/-- The snapshot that a call returns. -/
def PolicyCall.snapshot : PolicyCall → PolicyProgram PolicySnapshot
  | .load => loadPolicy runtime
  | .update change => updatePolicy runtime change

def PolicyCall.run (call : PolicyCall) : PolicyProgram Unit := do
  let snapshot ← call.snapshot runtime
  .perform (.deliver snapshot) .done

end Repository

end Sparkz
