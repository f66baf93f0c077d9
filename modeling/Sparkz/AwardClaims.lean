import Sparkz.StoreCalls

namespace Sparkz

open Interleaving

/-!
# One operation for one award

No two rows share a key, and no two awards share a physical charging session or
a legacy key.  The session is guarded by a unique index as well, but nothing
except the lock of the legacy key keeps two claims on it apart.
-/

/-- Two rows that may stand in one table. -/
structure TokenOperation.Distinct (first second : TokenOperation) :
    Prop where
  operationKey : first.operationKey ≠ second.operationKey
  session :
    first.operationType = .award →
    second.operationType = .award →
    ∀ providerId chargingSessionId,
      first.providerId = some providerId →
      first.chargingSessionId = some chargingSessionId →
      second.providerId = some providerId →
      second.chargingSessionId ≠ some chargingSessionId
  legacyKey :
    first.operationType = .award →
    second.operationType = .award →
    ∀ legacyKey,
      first.legacyKey = some legacyKey →
      second.legacyKey ≠ some legacyKey

/-- The row that a claim would insert can not stand in the table. -/
def ClaimRequest.WouldBreak
    (data : ClaimRequest)
    (database : Database) :
    Prop :=
  ∃ amount,
    ¬ (database.operations ++ [data.row amount]).Pairwise
        TokenOperation.Distinct

/-- What a claim on a key must share with the row that has the key. -/
structure ClaimRequest.Agrees
    (data : ClaimRequest)
    (row : TokenOperation) :
    Prop where
  operationType : data.operationType = row.operationType
  requestFingerprint : data.requestFingerprint = row.requestFingerprint
  uid : data.uid = jsString row.uid
  walletAddress :
    lowerText data.walletAddress = lowerText row.walletAddress
  chargingSessionId :
    row.operationType = .award →
    ∀ chargingSessionId,
      row.chargingSessionId = some chargingSessionId →
      data.chargingSessionId = some chargingSessionId

namespace TokenOperation

/-- Later versions of two rows are as distinct as the rows. -/
theorem Distinct.evolves
    {first second laterFirst laterSecond : TokenOperation}
    (distinct : first.Distinct second)
    (firstEvolves : first.Evolves laterFirst)
    (secondEvolves : second.Evolves laterSecond) :
    laterFirst.Distinct laterSecond := by
  constructor
  · rw [firstEvolves.operationKey, secondEvolves.operationKey]
    exact distinct.operationKey
  · rw [firstEvolves.operationType, secondEvolves.operationType,
      firstEvolves.providerId, secondEvolves.providerId,
      firstEvolves.chargingSessionId, secondEvolves.chargingSessionId]
    exact distinct.session
  · rw [firstEvolves.operationType, secondEvolves.operationType,
      firstEvolves.legacyKey, secondEvolves.legacyKey]
    exact distinct.legacyKey

end TokenOperation

/-- In a table of distinct rows, a row is found by its key. -/
theorem Database.operation_of_mem
    {database : Database}
    (distinct : database.operations.Pairwise TokenOperation.Distinct)
    {row : TokenOperation}
    (member : row ∈ database.operations) :
    database.operation row.operationKey = some row := by
  unfold Database.operation
  generalize database.operations = rows at distinct member
  induction rows with
  | nil =>
      cases member
  | cons first rest inductionHypothesis =>
      rw [List.pairwise_cons] at distinct
      rcases List.mem_cons.mp member with rfl | older
      · simp
      · have different := (distinct.1 row older).operationKey
        rw [List.find?_cons_of_neg (by simpa using different)]
        exact inductionHypothesis distinct.2 older

/-- No award other than the claimed one has the legacy key. -/
theorem Database.otherAwardOfLegacyKey_eq_none
    {database : Database}
    {legacyKey operationKey : String} :
    database.otherAwardOfLegacyKey legacyKey operationKey = none ↔
      ∀ row ∈ database.operations,
        row.operationType = .award →
        row.legacyKey = some legacyKey →
        row.operationKey = operationKey := by
  simp [Database.otherAwardOfLegacyKey, List.find?_eq_none]

/-- No award other than the claimed one has the charging session. -/
theorem Database.otherAwardOfSession_eq_none
    {database : Database}
    {providerId chargingSessionId operationKey : String} :
    database.otherAwardOfSession providerId chargingSessionId
        operationKey = none ↔
      ∀ row ∈ database.operations,
        row.operationType = .award →
        row.providerId = some providerId →
        row.chargingSessionId = some chargingSessionId →
        row.operationKey = operationKey := by
  simp [Database.otherAwardOfSession, List.find?_eq_none]

section Run

variable {lost : Bool}
  {meets : Config sparkz Failure Database → Entry sparkz → Prop}
  {shared : Database}
  {calls : Nat → Call Unit}
  {config : Config sparkz Failure Database}

/-- A legacy key that a claim has found free under its lock stays free. -/
theorem legacyKey_staysFree
    (disciplined : Disciplined lost meets shared calls)
    (reached :
      ReachableWhen (semantics lost) meets (.initial shared calls)
        config)
    {thread : Nat} {program : Call Unit}
    (running : config.threads thread = some program)
    {legacyKey operationKey : String}
    (free :
      ReadUnder (.awardLegacy legacyKey)
        (.otherAwardOfLegacyKey legacyKey operationKey) none
        (ownPast thread config.history)) :
    config.shared.otherAwardOfLegacyKey legacyKey operationKey =
      none := by
  refine
    readFact
      (fun result database =>
        result = none →
        database.otherAwardOfLegacyKey legacyKey operationKey = none)
      (fun _ _ _ => id) (fun _ => id) ?_ reached running free rfl
  intro before owner change rest result written after reached
    ownerRunning notOwner applied holds isNone
  have before_free :=
    Database.otherAwardOfLegacyKey_eq_none.mp (holds isNone)
  rw [Database.otherAwardOfLegacyKey_eq_none]
  intro row member isAward hasLegacy
  rcases (Change.operationsEffect applied).mem_cases member with
    rfl | ⟨earlier, older, leaves⟩
  · -- whoever inserts such a row holds the lock
    obtain ⟨data, _, amount, rfl, _, fresh⟩ :=
      (disciplined reached ownerRunning).insert_cases
    exact
      absurd
        (fresh.noLegacyCollision legacyKey isAward hasLegacy).holds
        notOwner
  · have evolves := leaves.evolves
    rw [evolves.operationKey]
    exact
      before_free earlier older (evolves.operationType ▸ isAward)
        (evolves.legacyKey ▸ hasLegacy)

/-- A row that is inserted is distinct from every row that is there. -/
theorem distinct_of_inserted
    (disciplined : Disciplined lost meets shared calls)
    (reached :
      ReachableWhen (semantics lost) meets (.initial shared calls)
        config)
    {thread : Nat} {row : TokenOperation}
    {rest : Op.Answer (.write (.insertOperation row)) → Call Unit}
    (running :
      config.threads thread =
        some (.perform (.write (.insertOperation row)) rest))
    {next : Database}
    (inserted : config.shared.insertOperation row = .ok next)
    {other : TokenOperation}
    (member : other ∈ config.shared.operations) :
    other.Distinct row := by
  obtain ⟨_, newKey, newSession⟩ :=
    Database.insertOperation_eq_ok inserted
  refine ⟨newKey other member, ?_, ?_⟩
  · intro otherAward isAward providerId chargingSessionId otherProvider
      otherSession isProvider isSession
    exact
      newSession isAward (by simp [isProvider]) (by simp [isSession])
        other member otherAward (otherProvider.trans isProvider.symm)
        (otherSession.trans isSession.symm)
  · intro otherAward isAward legacyKey otherLegacy isLegacy
    obtain ⟨data, _, amount, rfl, _, fresh⟩ :=
      (disciplined reached running).insert_cases
    have free :=
      legacyKey_staysFree disciplined reached running
        (fresh.noLegacyCollision legacyKey isAward isLegacy)
    exact
      newKey other member
        (Database.otherAwardOfLegacyKey_eq_none.mp free other member
          otherAward otherLegacy)

/-- Throughout a run, all rows of the table are distinct. -/
theorem distinct_of_reachable
    (disciplined : Disciplined lost meets shared calls)
    (atStart : shared.operations.Pairwise TokenOperation.Distinct)
    (reached :
      ReachableWhen (semantics lost) meets (.initial shared calls)
        config) :
    config.shared.operations.Pairwise TokenOperation.Distinct := by
  refine
    tableInvariant
      (fun database =>
        database.operations.Pairwise TokenOperation.Distinct)
      (fun _ _ => id) atStart ?_ reached
  intro before thread change rest result after reached running applied
    distinct
  have effect := Change.operationsEffect applied
  generalize after.operations = operations at effect ⊢
  cases effect with
  | inserted isInsert =>
      subst isInsert
      obtain ⟨next, inserted, _⟩ := Except.map_eq_ok applied
      rw [List.pairwise_append]
      refine ⟨distinct, List.pairwise_singleton _ _, ?_⟩
      intro other member row isRow
      rw [List.mem_singleton] at isRow
      subst isRow
      exact distinct_of_inserted disciplined reached running inserted member
  | rewritten rewrite each =>
      rw [List.pairwise_map]
      exact
        distinct.imp fun apart =>
          apart.evolves (Change.LeavesRow.evolves (each _))
            (Change.LeavesRow.evolves (each _))

end Run

/-! ## Claims that stand against the table -/

section Claim

variable {lost : Bool}
  {platform : Platform}
  {shared : Database}
  {calls : Nat → StoreCall}
  {middle last : Config sparkz Failure Database}
  {thread : Nat}
  {data : ClaimRequest}
  {sampler : Option (OutsideCall JsNumber)}

/-- A row that stands against a claim is an award of the same intent. -/
theorem ClaimRequest.WouldBreak.rival
    {database : Database}
    (wouldBreak : data.WouldBreak database)
    (distinct : database.operations.Pairwise TokenOperation.Distinct)
    (absent : database.operation data.operationKey = none) :
    ∃ other,
      database.operation other.operationKey = some other ∧
        data.operationType = .award ∧
        other.operationType = .award ∧
        other.operationKey ≠ data.operationKey ∧
        ((∃ providerId chargingSessionId,
            orNull data.providerId = some providerId ∧
              orNull data.chargingSessionId = some chargingSessionId ∧
              other.providerId = some providerId ∧
              other.chargingSessionId = some chargingSessionId) ∨
          ∃ legacyKey,
            orNull data.legacyKey = some legacyKey ∧
              other.legacyKey = some legacyKey) := by
  obtain ⟨amount, broken⟩ := wouldBreak
  by_contra noRival
  refine broken ?_
  rw [List.pairwise_append]
  refine ⟨distinct, List.pairwise_singleton _ _, ?_⟩
  intro other member row isRow
  rw [List.mem_singleton] at isRow
  subst isRow
  have otherKey : other.operationKey ≠ data.operationKey := by
    intro sameKey
    rw [← sameKey, Database.operation_of_mem distinct member] at absent
    cases absent
  have found := Database.operation_of_mem distinct member
  refine ⟨otherKey, ?_, ?_⟩
  · intro otherAward isAward providerId chargingSessionId otherProvider
      otherSession isProvider isSession
    exact
      noRival
        ⟨other, found, isAward, otherAward, otherKey,
          Or.inl
            ⟨providerId, chargingSessionId, isProvider, isSession,
              otherProvider, otherSession⟩⟩
  · intro otherAward isAward legacyKey otherLegacy isLegacy
    exact
      noRival
        ⟨other, found, isAward, otherAward, otherKey,
          Or.inr ⟨legacyKey, isLegacy, otherLegacy⟩⟩

/-- A claim can not find its key free of rivals while there is one. -/
theorem ClaimRequest.WouldBreak.not_fresh
    (wouldBreak : data.WouldBreak middle.shared)
    (distinct :
      middle.shared.operations.Pairwise TokenOperation.Distinct)
    (absent : middle.shared.operation data.operationKey = none)
    (notStarted : ownPast thread middle.history = [])
    (continued : Reachable (semantics lost) middle last)
    {past : Past}
    (isPast : past ⊆ ownPast thread last.history) :
    ¬ data.Fresh past := by
  intro fresh
  obtain ⟨other, found, isAward, otherAward, otherKey, shares⟩ :=
    wouldBreak.rival distinct absent
  rcases shares with
    ⟨providerId, chargingSessionId, isProvider, isSession,
      otherProvider, otherSession⟩ |
      ⟨legacyKey, isLegacy, otherLegacy⟩
  · obtain ⟨database, current, isCurrent, evolves, isNone⟩ :=
      readsSince found notStarted continued
        (isPast
          (fresh.noSessionCollision providerId chargingSessionId
            isAward isProvider isSession).mem)
    have sameKey :=
      Database.otherAwardOfSession_eq_none.mp isNone current
        (Database.operation_eq_some isCurrent).1
        (evolves.operationType.trans otherAward)
        (evolves.providerId.trans otherProvider)
        (evolves.chargingSessionId.trans otherSession)
    exact otherKey (evolves.operationKey.symm.trans sameKey)
  · obtain ⟨database, current, isCurrent, evolves, isNone⟩ :=
      readsSince found notStarted continued
        (isPast
          (fresh.noLegacyCollision legacyKey isAward isLegacy).mem)
    have sameKey :=
      Database.otherAwardOfLegacyKey_eq_none.mp isNone current
        (Database.operation_eq_some isCurrent).1
        (evolves.operationType.trans otherAward)
        (evolves.legacyKey.trans otherLegacy)
    exact otherKey (evolves.operationKey.symm.trans sameKey)

/-- A claim that has found its key found the row that was there. -/
theorem ClaimRequest.Found.evolves
    {row saved : TokenOperation}
    (found : middle.shared.operation data.operationKey = some row)
    (notStarted : ownPast thread middle.history = [])
    (continued : Reachable (semantics lost) middle last)
    {amount : TokenAmount}
    {past : Past}
    (isPast : past ⊆ ownPast thread last.history)
    (foundSaved : data.Found amount saved past) :
    row.Evolves saved := by
  obtain ⟨database, current, isCurrent, evolves, isSaved⟩ :=
    readsSince found notStarted continued
      (isPast foundSaved.found.mem)
  have same : some current = some saved := isCurrent.symm.trans isSaved
  cases same
  exact evolves

/-- A charging session that is bound to a row is not the empty text. -/
theorem chargingSessionId_nonempty
    (reached :
      Reachable (semantics lost) (StoreCall.start platform .empty calls)
        middle) :
    ∀ row ∈ middle.shared.operations,
      row.chargingSessionId ≠ some "" := by
  refine
    rowInvariant (fun row => row.chargingSessionId ≠ some "")
      (StoreCall.disciplined platform calls)
      (fun _ member => absurd member List.not_mem_nil) ?_ ?_ reached
  · intro data amount isEmpty
    exact (orNull_eq_some.mp isEmpty).2 rfl
  · intro row write admitted nonempty
    rw [(TokenOperation.evolves_set admitted).chargingSessionId]
    exact nonempty

/-- An accepted intent agrees with the row it was compared with. -/
theorem agrees_of_assertOperationIntent
    {row : TokenOperation}
    {amount : TokenAmount}
    {compareAmount : Bool}
    (accepted :
      assertOperationIntent row data amount compareAmount = .ok ())
    (nonempty : row.chargingSessionId ≠ some "") :
    data.Agrees row := by
  unfold assertOperationIntent at accepted
  split at accepted
  · cases accepted
  rename_i sameSession
  split at accepted
  · cases accepted
  rename_i sameIntent
  simp only [not_or, not_not] at sameIntent
  obtain ⟨isType, isFingerprint, isUid, isWallet, _⟩ := sameIntent
  refine
    ⟨isType.symm, isFingerprint.symm, isUid.symm, isWallet.symm, ?_⟩
  intro isAward chargingSessionId bound
  by_contra different
  refine sameSession ⟨isAward, ?_, ?_⟩
  · rw [bound] at nonempty ⊢
    simpa [truthy] using nonempty
  · rw [bound]
    exact Ne.symm different

/-- A row that agrees with a claim still does when it has evolved. -/
theorem ClaimRequest.Agrees.of_evolves
    {row saved : TokenOperation}
    (agrees : data.Agrees saved)
    (evolves : row.Evolves saved) :
    data.Agrees row := by
  obtain ⟨operationType, requestFingerprint, uid, wallet, session⟩ :=
    agrees
  rw [evolves.operationType] at operationType session
  rw [evolves.requestFingerprint] at requestFingerprint
  rw [evolves.uid] at uid
  rw [evolves.walletAddress] at wallet
  rw [evolves.chargingSessionId] at session
  exact ⟨operationType, requestFingerprint, uid, wallet, session⟩

/-- A claim that returns agrees with the row that its key had before it. -/
theorem claim_agrees
    (reached :
      Reachable (semantics lost) (StoreCall.start platform .empty calls)
        middle)
    (continued : Reachable (semantics lost) middle last)
    (isClaim : calls thread = .claim data sampler)
    (notStarted : ownPast thread middle.history = [])
    (returned : last.threads thread = some (.done ()))
    {row : TokenOperation}
    (found : middle.shared.operation data.operationKey = some row) :
    data.Agrees row := by
  have finished :=
    (reached.trans continued).obeysPast
      (fun thread => StoreCall.run_obeys platform (calls thread))
      returned
  rw [isClaim, Program.obeys_done] at finished
  obtain ⟨claimed, ends⟩ := finished.1 rfl
  obtain ⟨past, isPast, ⟨amount, saved, foundSaved⟩ | fresh⟩ :=
    ends.found_or_fresh
  · have evolves :=
      foundSaved.evolves found notStarted continued isPast
    refine
      (agrees_of_assertOperationIntent foundSaved.intended ?_).of_evolves
        evolves
    rw [evolves.chargingSessionId]
    exact
      chargingSessionId_nonempty reached row
        (Database.operation_eq_some found).1
  · obtain ⟨database, current, isCurrent, _, isNone⟩ :=
      readsSince found notStarted continued (isPast fresh.absent.mem)
    have impossible : some current = none := isCurrent.symm.trans isNone
    cases impossible

/-- A key without a row never had one. -/
theorem operation_absent_before
    {operationKey : String}
    (continued : Reachable (semantics lost) middle last)
    (absent : last.shared.operation operationKey = none) :
    middle.shared.operation operationKey = none := by
  cases found : middle.shared.operation operationKey with
  | none =>
      rfl
  | some row =>
      obtain ⟨current, isCurrent, _⟩ := operation_stays continued found
      rw [absent] at isCurrent
      cases isCurrent

/-- A claim that stands against the table and has seen it finds nothing. -/
theorem ClaimRequest.WouldBreak.impossible
    (wouldBreak : data.WouldBreak middle.shared)
    (reached :
      Reachable (semantics lost) (StoreCall.start platform .empty calls)
        middle)
    (continued : Reachable (semantics lost) middle last)
    (notStarted : ownPast thread middle.history = [])
    (absent : last.shared.operation data.operationKey = none)
    {past : Past}
    (isPast : past ⊆ ownPast thread last.history) :
    ¬ ((∃ amount row, data.Found amount row past) ∨
        data.Fresh past) := by
  rintro (⟨amount, row, found⟩ | fresh)
  · obtain ⟨current, isCurrent, _⟩ :=
      readRow_stays (reached.trans continued) (isPast found.found.mem)
    rw [absent] at isCurrent
    cases isCurrent
  · exact
      wouldBreak.not_fresh
        (distinct_of_reachable (StoreCall.disciplined platform calls)
          List.Pairwise.nil reached)
        (operation_absent_before continued absent) notStarted continued
        isPast fresh

/-- A claim that stands against the table does not return. -/
theorem ClaimRequest.WouldBreak.not_returned
    (wouldBreak : data.WouldBreak middle.shared)
    (reached :
      Reachable (semantics lost) (StoreCall.start platform .empty calls)
        middle)
    (continued : Reachable (semantics lost) middle last)
    (isClaim : calls thread = .claim data sampler)
    (notStarted : ownPast thread middle.history = [])
    (absent : last.shared.operation data.operationKey = none) :
    last.threads thread ≠ some (.done ()) := by
  intro returned
  have finished :=
    (reached.trans continued).obeysPast
      (fun thread => StoreCall.run_obeys platform (calls thread))
      returned
  rw [isClaim, Program.obeys_done] at finished
  obtain ⟨claimed, ends⟩ := finished.1 rfl
  obtain ⟨past, isPast, seen⟩ := ends.found_or_fresh
  exact
    wouldBreak.impossible reached continued notStarted absent isPast seen

/-- A claim that stands against the table writes nothing. -/
theorem ClaimRequest.WouldBreak.writesNothing
    (wouldBreak : data.WouldBreak middle.shared)
    (reached :
      Reachable (semantics lost) (StoreCall.start platform .empty calls)
        middle)
    (continued : Reachable (semantics lost) middle last)
    (isClaim : calls thread = .claim data sampler)
    (notStarted : ownPast thread middle.history = [])
    (absent : last.shared.operation data.operationKey = none)
    (change : Change)
    (answer : Op.Answer (.write change)) :
    ⟨.write change, answer⟩ ∉ ownPast thread last.history := by
  refine
    continued.invariant
      (fun shared history =>
        shared.operation data.operationKey = none →
        (⟨.write change, answer⟩ : Event sparkz) ∉
          ownPast thread history)
      ?_ (fun _ => id) ?_ absent
  · rw [notStarted]
    exact fun _ => List.not_mem_nil
  intro before owner op rest choice reply next reachedBefore running
    answered _ noWrite stillAbsent member
  have absentBefore :
      before.shared.operation data.operationKey = none := by
    cases found : before.shared.operation data.operationKey with
    | none =>
        rfl
    | some row =>
        obtain ⟨current, isCurrent, _⟩ :=
          (respond_effect answered).operation_stays
            ⟨row, found, .refl row⟩
        rw [stillAbsent] at isCurrent
        cases isCurrent
  by_cases own : owner = thread
  · subst own
    rw [ownPast_own] at member
    rcases List.mem_cons.mp member with newest | older
    · cases newest
      have permitted :=
        (reached.trans reachedBefore).permitted
          (fun thread => StoreCall.run_obeys platform (calls thread))
          running
      rw [StoreCall.protocol_write, isClaim] at permitted
      refine
        wouldBreak.impossible reached reachedBefore notStarted
          absentBefore (List.Subset.refl _) ?_
      cases permitted with
      | insert admitted fresh =>
          exact Or.inr fresh
      | reclaim admitted found reclaimable =>
          exact Or.inl ⟨_, _, found⟩
    · exact noWrite absentBefore older
  · rw [ownPast_foreign own] at member
    exact noWrite absentBefore member

end Claim

/--
In every run of store calls all operations are distinct.  A claim that would
break this does not return and writes nothing while its key has no row, and a
claim on a key that has a row returns only if it agrees with the row.
-/
theorem awardClaims_oneOperation
    {lost : Bool}
    {platform : Platform}
    {calls : Nat → StoreCall}
    {middle last : Config sparkz Failure Database}
    (reached :
      Reachable (semantics lost) (StoreCall.start platform .empty calls)
        middle)
    (continued : Reachable (semantics lost) middle last) :
    last.shared.operations.Pairwise TokenOperation.Distinct ∧
      ∀ thread data sampler,
        calls thread = .claim data sampler →
        ownPast thread middle.history = [] →
        (data.WouldBreak middle.shared →
          last.shared.operation data.operationKey = none →
          last.threads thread ≠ some (.done ()) ∧
            ∀ change answer,
              ⟨.write change, answer⟩ ∉
                ownPast thread last.history) ∧
        ∀ row,
          middle.shared.operation data.operationKey = some row →
          last.threads thread = some (.done ()) →
          data.Agrees row := by
  refine
    ⟨distinct_of_reachable (StoreCall.disciplined platform calls)
      List.Pairwise.nil (reached.trans continued), ?_⟩
  intro thread data sampler isClaim notStarted
  refine ⟨fun wouldBreak absent => ⟨?_, ?_⟩, fun row found returned => ?_⟩
  · exact
      wouldBreak.not_returned reached continued isClaim notStarted absent
  · exact
      wouldBreak.writesNothing reached continued isClaim notStarted
        absent
  · exact
      claim_agrees reached continued isClaim notStarted returned found

/-! ## A charge record that replaces another -/

/-- An award of one physical charging session, under some key. -/
def sessionClaim (operationKey : String) : ClaimRequest where
  operationKey := operationKey
  operationType := .award
  requestFingerprint := "intent"
  uid := jsString "alice"
  walletAddress := "0xA1"
  amount := .ofNat 5
  sessionId := some "record"
  providerId := some "provider"
  chargingSessionId := some "session"
  reservationId := none
  intentContext := none
  legacyKey := none

/-- Two charge records of one session, under two keys. -/
def replacementCalls : Nat → StoreCall
  | 0 => .claim (sessionClaim "award:1") none
  | _ => .claim (sessionClaim "award:2") none

/-- The run up to the end of the first claim. -/
def claimedSession : Option (Config sparkz Failure Database) :=
  (StoreCall.start .sample .empty replacementCalls).run?
    (semantics true) (fun _ _ => true)
    (StoreCall.inOrder [0, 0, 0, 0, 0, 0])

/-- The run up to the end of the second claim. -/
def replacedSession : Option (Config sparkz Failure Database) :=
  claimedSession.bind fun config =>
    config.run? (semantics true) (fun _ _ => true)
      (StoreCall.inOrder [1, 1, 1, 1, 1])

/-- The second claim of the session does not return. -/
theorem replacementClaim_refused :
    ∃ middle last,
      claimedSession = some middle ∧
        replacedSession = some last ∧
        last.shared.operations.Pairwise TokenOperation.Distinct ∧
        last.threads 1 ≠ some (.done ()) := by
  have isRows :
      claimedSession.map
          (fun config =>
            (config.shared.operations,
              (ownPast 1 config.history).isEmpty)) =
        some ([(sessionClaim "award:1").row ⟨500⟩], true) := by
    decide +kernel
  have isAbsent :
      replacedSession.map
          (·.shared.operation (sessionClaim "award:2").operationKey) =
        some none := by
    decide +kernel
  obtain ⟨middle, isMiddle, rows⟩ := Option.map_eq_some_iff.mp isRows
  obtain ⟨last, isLast, absent⟩ := Option.map_eq_some_iff.mp isAbsent
  obtain ⟨operations, notStarted⟩ := Prod.mk.inj rows
  have continued := isLast
  rw [replacedSession, isMiddle, Option.bind_some] at continued
  have wouldBreak :
      (sessionClaim "award:2").WouldBreak middle.shared := by
    refine ⟨⟨500⟩, fun distinct => ?_⟩
    rw [operations] at distinct
    have apart :=
      List.pairwise_append.mp distinct |>.2.2 _ List.mem_cons_self _
        List.mem_cons_self
    exact apart.session rfl rfl "provider" "session" rfl rfl rfl rfl
  obtain ⟨distinct, claims⟩ :=
    awardClaims_oneOperation
      (Config.run?_sound (fun _ _ _ => trivial) .start isMiddle)
      (Config.run?_sound (fun _ _ _ => trivial) .start continued)
  have refused :=
    (claims 1 (sessionClaim "award:2") none rfl
      (List.isEmpty_iff.mp notStarted)).1 wouldBreak absent
  exact ⟨middle, last, isMiddle, isLast, distinct, refused.1⟩

end Sparkz
