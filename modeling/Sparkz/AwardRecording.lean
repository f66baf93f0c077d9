import Sparkz.UserSelection
import Sparkz.StoreCalls
import Sparkz.UninterruptedCalls

namespace Sparkz

open Interleaving

/-!
# Recording an award

`recordAward` looks for its transfer by the transaction hash, then by the
deduplication key, and inserts a row when both find nothing.  What it reports
is followed through runs in which other calls do anything they can.
-/

/-- What a call that has returned has seen or written. -/
inductive RecordAwardRequest.Answered
    (data : RecordAwardRequest)
    (past : Past) :
    Prop where
  | written
      {user : ProjectionUser}
      {amount : TokenAmount}
      {hash : TransactionHash}
      {balance : BalanceWrite}
      {award : Award}
      (isHash : canonicalTransactionHash data.txHash = some hash)
      (isAmount : canonicalTokenAmount data.amount = some amount)
      (member :
        (⟨.write
            (.recordAward user (data.award user.id amount hash)
              balance), .ok award⟩ : Event sparkz) ∈ past) :
      Answered data past
  | ofHash
      {hash : TransactionHash}
      {existing : Award}
      (isHash : canonicalTransactionHash data.txHash = some hash)
      (member :
        (⟨.read (.awardsOfHash hash), .ok [existing]⟩ :
          Event sparkz) ∈ past)
      (sessionId : existing.sessionId = data.normalised.sessionId)
      (providerId : existing.providerId = data.normalised.providerId)
      (dedupKey : existing.dedupKey = data.dedupKey)
      (isAmount :
        canonicalTokenAmount data.amount = some existing.amount) :
      Answered data past
  | ofDedupKey
      {existing : Award}
      (member :
        (⟨.read (.awardOfDedupKey data.dedupKey),
          .ok (some existing)⟩ : Event sparkz) ∈ past)
      (sessionId : existing.sessionId = data.normalised.sessionId)
      (providerId : existing.providerId = data.normalised.providerId)
      (isAmount :
        canonicalTokenAmount data.amount = some existing.amount) :
      Answered data past

section Call

variable {platform : Platform} {data : RecordAwardRequest}
  {amount : TokenAmount} {hash : TransactionHash} {past : Past}

theorem RecordAwardRequest.Answered.subset
    {reached : Past}
    (included : past ⊆ reached)
    (answered : data.Answered past) :
    data.Answered reached := by
  cases answered with
  | written isHash isAmount member =>
      exact .written isHash isAmount (included member)
  | ofHash isHash member sessionId providerId dedupKey isAmount =>
      exact
        .ofHash isHash (included member) sessionId providerId dedupKey
          isAmount
  | ofDedupKey member sessionId providerId isAmount =>
      exact .ofDedupKey (included member) sessionId providerId isAmount

end Call

/-! ## The awards table in a run -/

/-- What a change does to the awards. -/
inductive AwardsEffect (change : Change) (before after : List Award) :
    Prop where
  | kept (same : after = before)
  | added
      {user : ProjectionUser}
      {award : Award}
      {balance : BalanceWrite}
      (isRecord : change = .recordAward user award balance)
      (newKey : ∀ other ∈ before, other.dedupKey ≠ award.dedupKey)
      (added : after = before ++ [award])

/-- An award that is inserted has a new deduplication key. -/
theorem Ledger.newKey_of_insertAward
    {ledger next : Ledger}
    {award : Award}
    (accepted : ledger.insertAward award = .ok next) :
    ∀ other ∈ ledger.awards, other.dedupKey ≠ award.dedupKey := by
  unfold Ledger.insertAward at accepted
  split at accepted
  · cases accepted
  · rename_i noneTaken
    intro other member same
    exact
      noneTaken (List.any_eq_true.mpr ⟨other, member, by simp [same]⟩)

/-- A projection inserts its user without touching the movements. -/
theorem Ledger.movements_of_insertUser
    {ledger next : Ledger}
    {user : ProjectionUser}
    (accepted : ledger.insertUser user = .ok next) :
    next.awards = ledger.awards ∧ next.spends = ledger.spends := by
  cases user with
  | existing id =>
      simp only [Ledger.insertUser] at accepted
      split at accepted
      · cases accepted
        exact ⟨rfl, rfl⟩
      · cases accepted
  | created row =>
      obtain ⟨_, _, rfl⟩ := Ledger.insertUser_eq_ok accepted
      exact ⟨rfl, rfl⟩

/-- Recording an award adds its row, under a new deduplication key. -/
theorem Change.recordAward_eq_ok
    {database next : Database}
    {user : ProjectionUser}
    {award : Award}
    {balance : BalanceWrite}
    {result : Award}
    (applied :
      (Change.recordAward user award balance).apply database =
        .ok (result, next)) :
    (∀ other ∈ database.ledger.awards,
        other.dedupKey ≠ award.dedupKey) ∧
      next.ledger.awards = database.ledger.awards ++ [award] := by
  obtain ⟨ledger, committed, same⟩ := Except.map_eq_ok applied
  cases same
  unfold Ledger.commitAward at committed
  obtain ⟨withUser, isUser, rest⟩ := Except.bind_eq_ok committed
  obtain ⟨withAward, isAward, balances⟩ := Except.bind_eq_ok rest
  obtain ⟨sameAwards, _⟩ := Ledger.movements_of_insertUser isUser
  have newKey := Ledger.newKey_of_insertAward isAward
  cases Ledger.insertAward_eq_ok isAward
  obtain ⟨_, writtenAwards, _⟩ :=
    Ledger.writeBalance_eq_ok balances fun _ => rfl
  rw [sameAwards] at newKey writtenAwards
  exact ⟨newKey, writtenAwards⟩

/-- Awards are only ever added, under a new deduplication key. -/
theorem Change.awardsEffect
    {database next : Database}
    {change : Change}
    {result : change.Result}
    (applied : change.apply database = .ok (result, next)) :
    AwardsEffect change database.ledger.awards next.ledger.awards := by
  cases isLedgerChange : change.isLedgerChange with
  | false =>
      have same :=
        congrArg Prod.fst (Change.apply_others isLedgerChange applied)
      exact .kept (congrArg Ledger.awards same)
  | true =>
      cases change with
      | recordAward user award balance =>
          obtain ⟨newKey, added⟩ := Change.recordAward_eq_ok applied
          exact .added rfl newKey added
      | recordSpend user spend balance =>
          obtain ⟨ledger, committed, same⟩ := Except.map_eq_ok applied
          cases same
          unfold Ledger.commitSpend at committed
          obtain ⟨withUser, isUser, rest⟩ :=
            Except.bind_eq_ok committed
          obtain ⟨withSpend, isSpend, balances⟩ :=
            Except.bind_eq_ok rest
          obtain ⟨sameAwards, _⟩ := Ledger.movements_of_insertUser isUser
          cases Ledger.insertSpend_eq_ok isSpend
          obtain ⟨_, writtenAwards, _⟩ :=
            Ledger.writeBalance_eq_ok balances fun _ => rfl
          exact .kept (writtenAwards.trans sameAwards)
      | _ =>
          cases isLedgerChange

/-- What an answered operation says about the awards. -/
def Entry.AwardsShown
    (awards : List Award) :
    Entry sparkz → Prop
  | ⟨_, .write (.recordAward _ award _), .ok _⟩ => award ∈ awards
  | ⟨_, .read (.awardsOfHash hash), .ok found⟩ =>
      ∀ award ∈ found, award ∈ awards ∧ award.txHash = hash
  | ⟨_, .read (.awardOfDedupKey dedupKey), .ok (some award)⟩ =>
      award ∈ awards ∧ award.dedupKey = dedupKey
  | _ => True

/-- The awards have distinct keys, and are those that calls have seen. -/
structure AwardsAccounted
    (database : Database)
    (history : List (Entry sparkz)) :
    Prop where
  distinct : (database.ledger.awards.map Award.dedupKey).Nodup
  shown :
    ∀ entry ∈ history, Entry.AwardsShown database.ledger.awards entry

section Runs

variable {lost : Bool} {op : Op} {answer : op.Answer} {thread : Nat}
  {database next shared : Database} {history : List (Entry sparkz)}

/-- What has been shown of the awards stays true while they grow. -/
theorem Entry.AwardsShown.grows
    {awards later : List Award}
    {entry : Entry sparkz}
    (shown : Entry.AwardsShown awards entry)
    (included : awards ⊆ later) :
    Entry.AwardsShown later entry := by
  unfold Entry.AwardsShown at shown ⊢
  split at shown
  · exact included shown
  · exact fun award member =>
      ⟨included (shown award member).1, (shown award member).2⟩
  · exact ⟨included shown.1, shown.2⟩
  · trivial

/-- The rows found by a hash carry it. -/
theorem Database.mem_awardsOfHash
    {hash : TransactionHash}
    {award : Award}
    (member : award ∈ database.awardsOfHash hash) :
    award ∈ database.ledger.awards ∧ award.txHash = hash := by
  have kept := List.mem_filter.mp (List.mem_of_mem_take member)
  exact ⟨kept.1, by simpa using kept.2⟩

/-- The row found by a deduplication key carries it. -/
theorem Database.awardOfDedupKey_eq_some
    {dedupKey : String}
    {award : Award}
    (found : database.awardOfDedupKey dedupKey = some award) :
    award ∈ database.ledger.awards ∧ award.dedupKey = dedupKey :=
  ⟨List.mem_of_find?_eq_some found, by
    simpa using List.find?_some found⟩

/-- Every operation keeps the awards that there are, under distinct keys. -/
theorem Effect.awards_grow
    (effect : Effect lost database op answer next)
    (distinct : (database.ledger.awards.map Award.dedupKey).Nodup) :
    database.ledger.awards ⊆ next.ledger.awards ∧
      (next.ledger.awards.map Award.dedupKey).Nodup := by
  refine
    effect.preserves
      (fun other =>
        database.ledger.awards ⊆ other.ledger.awards ∧
          (other.ledger.awards.map Award.dedupKey).Nodup)
      (fun _ _ holds => holds) ?_
      ⟨List.Subset.refl _, distinct⟩
  rintro change result after _ applied ⟨included, distinct⟩
  cases Change.awardsEffect applied with
  | kept same =>
      rw [same]
      exact ⟨included, distinct⟩
  | @added user award balance isRecord newKey added =>
      rw [added]
      refine ⟨List.subset_append_of_subset_left _ included, ?_⟩
      rw [List.map_append, List.nodup_append]
      refine ⟨distinct, by simp, ?_⟩
      intro key member other single
      obtain ⟨earlier, isEarlier, rfl⟩ := List.mem_map.mp member
      rw [List.map_singleton, List.mem_singleton] at single
      rw [single]
      exact newKey earlier isEarlier

/-- What an answered operation shows of the awards is true afterwards. -/
theorem Effect.awardsShown
    (effect : Effect lost database op answer next) :
    Entry.AwardsShown next.ledger.awards ⟨thread, op, answer⟩ := by
  cases effect with
  | quiet locks notTables =>
      cases op with
      | read query =>
          cases notTables
      | write change =>
          cases notTables
      | _ =>
          trivial
  | read query =>
      cases query with
      | awardsOfHash hash =>
          exact fun award member => Database.mem_awardsOfHash member
      | awardOfDedupKey dedupKey =>
          show Entry.AwardsShown _
            ⟨thread, .read (.awardOfDedupKey dedupKey),
              .ok (database.awardOfDedupKey dedupKey)⟩
          cases found : database.awardOfDedupKey dedupKey with
          | none =>
              trivial
          | some award =>
              exact Database.awardOfDedupKey_eq_some found
      | _ =>
          trivial
  | @readRefused query error =>
      cases query <;> trivial
  | @refused change error locks =>
      cases change <;> trivial
  | @replyLost change result after error locks applied mayBeLost =>
      cases change <;> trivial
  | @committed change result after locks applied =>
      cases change with
      | recordAward user award balance =>
          obtain ⟨_, added⟩ := Change.recordAward_eq_ok applied
          show award ∈ after.ledger.awards
          rw [added]
          exact List.mem_append_right _ (List.mem_singleton_self _)
      | _ =>
          trivial

/-- In every run the awards are accounted for. -/
theorem awardsAccounted
    {meets :
      Config sparkz Failure Database → Entry sparkz → Prop}
    {calls : Nat → Call Unit}
    {config : Config sparkz Failure Database}
    (distinct : (shared.ledger.awards.map Award.dedupKey).Nodup)
    (reached :
      ReachableWhen (semantics lost) meets (.initial shared calls)
        config) :
    AwardsAccounted config.shared config.history := by
  refine
    reached.invariant AwardsAccounted ⟨distinct, by simp [Config.initial]⟩
      ?_ ?_
  · intro database history thread accounted
    exact ⟨accounted.distinct, accounted.shown⟩
  · intro before thread op rest choice answer next _ _ answered _
      accounted
    have effect := respond_effect answered
    obtain ⟨grow, stillDistinct⟩ := effect.awards_grow accounted.distinct
    refine ⟨stillDistinct, fun entry member => ?_⟩
    rcases List.mem_cons.mp member with rfl | earlier
    · exact effect.awardsShown
    · exact (accounted.shown entry earlier).grows grow

end Runs

/-! ## What a call reports -/

section Reports

variable {platform : Platform} {data : RecordAwardRequest}
  {shared : Database}
  {meets : Config sparkz Failure Database → Entry sparkz → Prop}
  {calls : Nat → Call Unit}
  {config : Config sparkz Failure Database}
  {thread : Nat}

/-- How a call of a run may end. -/
def RecordAwardRequest.Ends
    (data : RecordAwardRequest)
    (result : Except Failure Unit)
    (past : Past) :
    Prop :=
  (result = .ok () → data.Answered past) ∧
    ∀ failure, result = .error failure → NoCommit [] past

end Reports

/-! ## Two transfers for one session -/

/-- The session that both transfers are for. -/
def awardedSession : NormalisedSession where
  sessionId := "session"
  providerId := "provider"
  eMAID := none
  emaid := none
  protocol := none
  sourceField := none
  tokenMetadata := none
  uid := "uid"
  evseId := "evse"
  startTime := some 0
  endTime := some 3600000
  energyKWh := .ofUnits 100
  energyDirection := .charge
  cdrId := none
  reservationSessionId := none
  chargingSessionId := none
  timeZone := none
  timeZoneSource := none

/-- The call that records a transfer for the session. -/
def awardedCall (txHash : String) : RecordAwardRequest where
  normalised := awardedSession
  amount := .ofUnits 100
  dedupKey := "session-provider"
  txHash := txHash
  cdrData := none
  metadata := none
  intendedWalletAddress := none

/-- A transfer other than the recorded one. -/
def secondTransfer : String :=
  "0x1111111111111111111111111111111111111111111111111111111111111111"

end Sparkz
