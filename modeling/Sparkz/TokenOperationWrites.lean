import Sparkz.TokenOperation

namespace Sparkz

/-!
# The statements that update a token operation

Every writer of `token_operations` ends in one guarded `update` statement.
The guard and the new column values are kept together here, one constructor a
statement, under the name of the function that issues it.
-/

/--
A diagnostic argument: `undefined` leaves the column alone, `null` clears it.
-/
abbrev DiagnosticArgument := Option (Option TransactionDiagnostic)

/-- The value of the diagnostic column after an update. -/
def DiagnosticArgument.over
    (argument : DiagnosticArgument)
    (current : Option TransactionDiagnostic) :
    Option TransactionDiagnostic :=
  argument.getD current

/-- One `update` of one row of `token_operations`. -/
inductive OperationWrite where
  /-- `TokenOperations.claim`, for a row that failed before its broadcast. -/
  | reclaim
  /-- `TokenOperations.markSubmitted`, for a row without a hash. -/
  | markSubmitted : TransactionHash → OperationWrite
  /-- `TokenOperations.markSubmitted`, for a row with the same hash. -/
  | markSubmittedAgain : TransactionHash → OperationWrite
  | markUnknown :
      (error : String) →
      DiagnosticArgument →
      OperationWrite
  | markConfirmed : (errorMessage : Option String) → OperationWrite
  | markProjectionError : (error : String) → OperationWrite
  | markProjected
  | markFailed :
      (error : String) →
      MovementOutcome →
      DiagnosticArgument →
      OperationWrite
  | markPreflightFailed :
      (error : String) →
      DiagnosticArgument →
      OperationWrite
  /-- `TreasuryTransactions.prepare`, on its target. -/
  | prepared :
      TransactionHash →
      (nonce : Nat) →
      PreparedTransactionContext →
      OperationWrite
  /-- `TreasuryTransactions.markSubmitted`, on its target. -/
  | leaseSubmitted
  /-- `TreasuryTransactions.markUnknown`, on its target. -/
  | leaseUnknown :
      TransactionDiagnostic →
      (errorMessage : String) →
      OperationWrite
  /-- `TreasuryTransactions.markFailed`, on its target. -/
  | leaseFailed :
      TransactionDiagnostic →
      (errorMessage : String) →
      OperationWrite
  deriving DecidableEq

/-- The mark that a failure before the broadcast leaves on the row. -/
def preflightMark : String := "PREFLIGHT:"

namespace TokenOperation

/-- `existing.error_message?.startsWith('PREFLIGHT:')`, hash and status. -/
def isReclaimable (row : TokenOperation) : Bool :=
  row.status == .failed && row.txHash.isNone &&
    (row.errorMessage.map (hasPrefix · preflightMark)).getD false

/-- The `where` clause of a statement, beyond the operation key. -/
def admits (row : TokenOperation) : OperationWrite → Bool
  | .reclaim => true
  | .markSubmitted _ => row.txHash.isNone && row.status.isOpen
  | .markSubmittedAgain hash =>
      row.txHash == some hash && row.status.isOpen
  | .markUnknown _ _ => row.status.isOpen
  | .markConfirmed _ | .markProjectionError _ =>
      row.txHash.isSome &&
        (row.status.isOpen || row.status == .confirmed)
  | .markProjected =>
      row.status != .failed &&
        (row.txHash.isSome || row.amount.units == 0)
  | .markFailed _ _ _ => row.txHash.isSome && row.status.isOpen
  | .markPreflightFailed _ _ => row.txHash.isNone
  | .prepared hash _ _ =>
      row.status.isOpen && (row.txHash.isNone || row.txHash == some hash)
  | .leaseSubmitted | .leaseUnknown _ _ => row.status.isOpen
  | .leaseFailed _ _ => row.txHash.isSome && row.status.isOpen

/-- The row with the columns a statement sets. -/
def set (row : TokenOperation) : OperationWrite → TokenOperation
  | .reclaim =>
      { row with
        status := .submitting
        movementOutcome := .unknown
        errorMessage := none }
  | .markSubmitted hash =>
      { row with
        txHash := some hash
        status := .submitted
        diagnosticContext := none
        errorMessage := none }
  | .markSubmittedAgain _ =>
      { row with
        status := .submitted
        diagnosticContext := none
        errorMessage := none }
  | .markUnknown error diagnostic =>
      { row with
        status := .unknown
        errorMessage := some (sliceText error 500)
        diagnosticContext := diagnostic.over row.diagnosticContext }
  | .markConfirmed errorMessage =>
      { row with
        status := .confirmed
        movementOutcome := .confirmed
        errorMessage := orNull errorMessage }
  | .markProjectionError error =>
      { row with
        status := .confirmed
        errorMessage := some error }
  | .markProjected =>
      { row with
        status := .projected
        movementOutcome :=
          if row.amount.units = 0 then .noMovement else .confirmed
        errorMessage := none }
  | .markFailed error movementOutcome diagnostic =>
      { row with
        status := .failed
        movementOutcome := movementOutcome
        errorMessage := some error
        diagnosticContext := diagnostic.over row.diagnosticContext }
  | .markPreflightFailed error diagnostic =>
      { row with
        status := .failed
        movementOutcome := .noMovement
        errorMessage := some (preflightMark ++ error)
        diagnosticContext := diagnostic.over row.diagnosticContext }
  | .prepared hash nonce context =>
      { row with
        txHash := some hash
        txNonce := some nonce
        txContext := some context
        status := .submitting
        errorMessage := none }
  | .leaseSubmitted => { row with status := .submitted }
  | .leaseUnknown diagnostic errorMessage =>
      { row with
        status := .unknown
        diagnosticContext := some diagnostic
        errorMessage := some (sliceText errorMessage 500) }
  | .leaseFailed diagnostic errorMessage =>
      { row with
        status := .failed
        movementOutcome := .noMovement
        diagnosticContext := some diagnostic
        errorMessage := some (sliceText errorMessage 500) }

/-- What a statement leaves in the table for a row with its key. -/
def after (row : TokenOperation) (write : OperationWrite) :
    TokenOperation :=
  if row.admits write then row.set write else row

end TokenOperation

/-! ## What no statement changes -/

/-- Two versions of one row: the intent is fixed, a saved hash stays. -/
structure TokenOperation.Evolves (before after : TokenOperation) :
    Prop where
  operationKey : after.operationKey = before.operationKey
  operationType : after.operationType = before.operationType
  legacyKey : after.legacyKey = before.legacyKey
  requestFingerprint :
    after.requestFingerprint = before.requestFingerprint
  uid : after.uid = before.uid
  walletAddress : after.walletAddress = before.walletAddress
  amount : after.amount = before.amount
  sessionId : after.sessionId = before.sessionId
  providerId : after.providerId = before.providerId
  chargingSessionId :
    after.chargingSessionId = before.chargingSessionId
  reservationId : after.reservationId = before.reservationId
  intentContext : after.intentContext = before.intentContext
  txHash :
    ∀ hash, before.txHash = some hash → after.txHash = some hash

namespace TokenOperation

variable {row before middle after : TokenOperation}
  {write : OperationWrite}

theorem Evolves.refl (row : TokenOperation) : row.Evolves row :=
  ⟨rfl, rfl, rfl, rfl, rfl, rfl, rfl, rfl, rfl, rfl, rfl, rfl,
    fun _ saved => saved⟩

theorem Evolves.trans
    (first : before.Evolves middle)
    (second : middle.Evolves after) :
    before.Evolves after where
  operationKey := second.operationKey.trans first.operationKey
  operationType := second.operationType.trans first.operationType
  legacyKey := second.legacyKey.trans first.legacyKey
  requestFingerprint :=
    second.requestFingerprint.trans first.requestFingerprint
  uid := second.uid.trans first.uid
  walletAddress := second.walletAddress.trans first.walletAddress
  amount := second.amount.trans first.amount
  sessionId := second.sessionId.trans first.sessionId
  providerId := second.providerId.trans first.providerId
  chargingSessionId :=
    second.chargingSessionId.trans first.chargingSessionId
  reservationId := second.reservationId.trans first.reservationId
  intentContext := second.intentContext.trans first.intentContext
  txHash := fun hash saved =>
    second.txHash hash (first.txHash hash saved)

/-- A statement that finds its row keeps the intent and a saved hash. -/
theorem evolves_set
    (admitted : row.admits write = true) :
    row.Evolves (row.set write) := by
  cases write with
  | markSubmitted hash =>
      simp only [admits, Bool.and_eq_true, Option.isNone_iff_eq_none]
        at admitted
      refine
        ⟨rfl, rfl, rfl, rfl, rfl, rfl, rfl, rfl, rfl, rfl, rfl, rfl, ?_⟩
      intro saved isSaved
      rw [admitted.1] at isSaved
      cases isSaved
  | prepared hash nonce context =>
      simp only [admits, Bool.and_eq_true, Bool.or_eq_true,
        Option.isNone_iff_eq_none, beq_iff_eq] at admitted
      refine
        ⟨rfl, rfl, rfl, rfl, rfl, rfl, rfl, rfl, rfl, rfl, rfl, rfl, ?_⟩
      intro saved isSaved
      rcases admitted.2 with noHash | sameHash
      · rw [noHash] at isSaved
        cases isSaved
      · rw [sameHash] at isSaved
        exact isSaved
  | _ =>
      exact
        ⟨rfl, rfl, rfl, rfl, rfl, rfl, rfl, rfl, rfl, rfl, rfl, rfl,
          fun _ saved => saved⟩

/-- Whatever a statement does to a row is an evolution of it. -/
theorem evolves_after
    (row : TokenOperation)
    (write : OperationWrite) :
    row.Evolves (row.after write) := by
  unfold TokenOperation.after
  split
  · rename_i admitted
    exact evolves_set admitted
  · exact Evolves.refl row

end TokenOperation

end Sparkz
