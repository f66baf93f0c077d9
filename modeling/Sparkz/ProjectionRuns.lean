import Sparkz.AwardRecording
import Sparkz.LedgerConservation

namespace Sparkz

open Interleaving

/-!
# Runs of projections

Any number of calls of `recordAward` and `recordSpend` are interleaved, beside
other calls of the store.  A projection writes at most once, and what it has
read before its write stays true: movements and balance rows are only added.
-/

/-- Whether a call is one of the two projections. -/
def StoreCall.isProjection : StoreCall → Bool
  | .recordAward _ | .recordSpend _ => true
  | _ => false

/-- No movement has been projected yet. -/
structure Ledger.IsUnprojected (ledger : Ledger) : Prop where
  awards : ledger.awards = []
  spends : ledger.spends = []
  balances : ledger.balances = []

theorem Ledger.IsUnprojected.conserved
    {ledger : Ledger}
    (unprojected : ledger.IsUnprojected) :
    ledger.Conserved := by
  constructor <;>
    simp [unprojected.awards, unprojected.spends, unprojected.balances]

/-- A write to the ledger is one of the two projections. -/
theorem StoreWrites.projection_cases
    {past : Past}
    {change : Change}
    (writes : StoreWrites past change)
    (isLedgerChange : change.isLedgerChange = true) :
    (∃ data : RecordAwardRequest, data.Writes past change) ∨
      ∃ data : RecordSpendRequest, data.Writes past change := by
  cases writes with
  | recordAward writes =>
      exact Or.inl ⟨_, writes⟩
  | recordSpend writes =>
      exact Or.inr ⟨_, writes⟩
  | claim writes =>
      cases writes <;> cases isLedgerChange
  | reserve writes =>
      obtain ⟨_, _, _, _, _, _, rfl⟩ := writes
      cases isLedgerChange
  | _ =>
      cases isLedgerChange

/-! ## The ledger in a run -/

/-- What an answered operation shows of the spends and the balances. -/
def Entry.LedgerShown (ledger : Ledger) : Entry sparkz → Prop
  | ⟨_, .write (.recordSpend _ spend _), .ok _⟩ => spend ∈ ledger.spends
  | ⟨_, .read (.spendsOfHash hash), .ok found⟩ =>
      ∀ spend ∈ found, spend ∈ ledger.spends ∧ spend.txHash = hash
  | ⟨_, .read (.balance userId), .ok (some _)⟩ =>
      ∃ row ∈ ledger.balances, row.userId = userId
  | _ => True

/-- The ledger is conserved, and has what calls have seen of it. -/
structure LedgerAccounted
    (database : Database)
    (history : List (Entry sparkz)) :
    Prop where
  conserved : database.ledger.Conserved
  shown : ∀ entry ∈ history, Entry.LedgerShown database.ledger entry

section Runs

variable {lost : Bool} {op : Op} {answer : op.Answer} {thread : Nat}
  {database next shared : Database}

/-- What has been shown of a ledger stays true while it grows. -/
theorem Entry.LedgerShown.grows
    {ledger later : Ledger}
    {entry : Entry sparkz}
    (shown : Entry.LedgerShown ledger entry)
    (grown : ledger.Extends later) :
    Entry.LedgerShown later entry := by
  unfold Entry.LedgerShown at shown ⊢
  split at shown
  · exact grown.spends shown
  · exact fun spend member =>
      ⟨grown.spends (shown spend member).1, (shown spend member).2⟩
  · obtain ⟨row, member, isUser⟩ := shown
    obtain ⟨kept, isKept, sameUser⟩ := grown.rows row member
    exact ⟨kept, isKept, sameUser.trans isUser⟩
  · trivial

/-- A balance row that a call has found is still there. -/
abbrev Ledger.HasSeenRows (ledger : Ledger) (past : Past) : Prop :=
  ∀ userId row,
    (⟨.read (.balance userId), .ok (some row)⟩ : Event sparkz) ∈ past →
    ∃ kept ∈ ledger.balances, kept.userId = userId

/-- A write of a store function keeps the ledger conserved. -/
theorem Change.ledger_extends
    {past : Past}
    {change : Change}
    {result : change.Result}
    (writes : StoreWrites past change)
    (seenRows : database.ledger.HasSeenRows past)
    (conserved : database.ledger.Conserved)
    (applied : change.apply database = .ok (result, next)) :
    next.ledger.Conserved ∧ database.ledger.Extends next.ledger := by
  cases isLedgerChange : change.isLedgerChange with
  | false =>
      have same : next.ledger = database.ledger :=
        congrArg Prod.fst (Change.apply_others isLedgerChange applied)
      rw [same]
      exact ⟨conserved, .refl _⟩
  | true =>
      rcases writes.projection_cases isLedgerChange with
        ⟨data, user, amount, hash, balance, _, _, seen, rfl⟩ |
          ⟨data, user, amount, hash, balance, _, _, seen, rfl⟩
      · obtain ⟨ledger, committed, same⟩ := Except.map_eq_ok applied
        cases same
        refine conserved.commitAward rfl (fun isUpdate => ?_) committed
        obtain ⟨row, member⟩ := seen isUpdate
        exact seenRows _ _ member
      · obtain ⟨ledger, committed, same⟩ := Except.map_eq_ok applied
        cases same
        refine conserved.commitSpend rfl (fun isUpdate => ?_) committed
        obtain ⟨row, member⟩ := seen isUpdate
        exact seenRows _ _ member

/-- Recording a spend adds its row, under a new hash. -/
theorem Change.recordSpend_eq_ok
    {user : ProjectionUser}
    {spend : Spend}
    {balance : BalanceWrite}
    {result : Spend}
    (applied :
      (Change.recordSpend user spend balance).apply database =
        .ok (result, next)) :
    (∀ other ∈ database.ledger.spends,
        other.txHash ≠ spend.txHash) ∧
      next.ledger.spends = database.ledger.spends ++ [spend] := by
  obtain ⟨ledger, committed, same⟩ := Except.map_eq_ok applied
  cases same
  unfold Ledger.commitSpend at committed
  obtain ⟨withUser, isUser, rest⟩ := Except.bind_eq_ok committed
  obtain ⟨withSpend, isSpend, balances⟩ := Except.bind_eq_ok rest
  obtain ⟨_, sameSpends⟩ := Ledger.movements_of_insertUser isUser
  have newHash := Ledger.newHash_of_insertSpend isSpend
  cases Ledger.insertSpend_eq_ok isSpend
  obtain ⟨_, _, writtenSpends, _⟩ :=
    Ledger.writeBalance_eq_ok balances fun _ => rfl
  rw [sameSpends] at newHash writtenSpends
  exact ⟨newHash, writtenSpends⟩

/-- What an answered operation shows of the ledger is true afterwards. -/
theorem Effect.ledgerShown
    (effect : Effect lost database op answer next) :
    Entry.LedgerShown next.ledger ⟨thread, op, answer⟩ := by
  cases effect with
  | quiet locks notTables =>
      cases op with
      | read query =>
          cases notTables
      | write change =>
          cases notTables
      | _ =>
          trivial
  | read query =>
      cases query with
      | spendsOfHash hash =>
          intro spend member
          have kept := List.mem_filter.mp (List.mem_of_mem_take member)
          exact ⟨kept.1, by simpa using kept.2⟩
      | balance userId =>
          show Entry.LedgerShown _
            ⟨thread, .read (.balance userId),
              .ok (database.balance userId)⟩
          cases found : database.balance userId with
          | none =>
              trivial
          | some row =>
              exact
                ⟨row, List.mem_of_find?_eq_some found, by
                  simpa using List.find?_some found⟩
      | _ =>
          trivial
  | @readRefused query error =>
      cases query <;> trivial
  | @refused change error locks =>
      cases change <;> trivial
  | @replyLost change result after error locks applied mayBeLost =>
      cases change <;> trivial
  | @committed change result after locks applied =>
      cases change with
      | recordSpend user spend balance =>
          obtain ⟨_, added⟩ := Change.recordSpend_eq_ok applied
          show spend ∈ after.ledger.spends
          rw [added]
          exact List.mem_append_right _ (List.mem_singleton_self _)
      | _ =>
          trivial

variable {platform : Platform} {calls : Nat → StoreCall}
  {meets : Config sparkz Failure Database → Entry sparkz → Prop}
  {config : Config sparkz Failure Database}

/-- In every run the ledger is conserved and accounted for. -/
theorem ledgerAccounted
    (conserved : shared.ledger.Conserved)
    (reached :
      ReachableWhen (semantics lost) meets
        (StoreCall.start platform shared calls) config) :
    LedgerAccounted config.shared config.history := by
  refine
    reached.invariant LedgerAccounted
      ⟨conserved, by simp [StoreCall.start, Config.initial]⟩ ?_ ?_
  · intro database history thread accounted
    exact ⟨accounted.conserved, accounted.shown⟩
  · intro before thread op rest choice answer next reached running
      answered _ accounted
    have effect := respond_effect answered
    have seenRows :
        before.shared.ledger.HasSeenRows
          (ownPast thread before.history) :=
      fun userId row member => accounted.shown _ (mem_ownPast.mp member)
    have grown :
        next.ledger.Conserved ∧
          before.shared.ledger.Extends next.ledger := by
      refine
        effect.preserves
          (fun other =>
            other.ledger.Conserved ∧
              before.shared.ledger.Extends other.ledger)
          (fun _ _ holds => holds) ?_
          ⟨accounted.conserved, .refl _⟩
      rintro change result after rfl applied _
      have permitted :=
        reached.permitted (fun thread => StoreCall.run_obeys platform _)
          running
      exact
        Change.ledger_extends
          (StoreCall.protocol_write.mp permitted).storeWrites seenRows
          accounted.conserved applied
    refine ⟨grown.1, fun entry member => ?_⟩
    rcases List.mem_cons.mp member with rfl | earlier
    · exact effect.ledgerShown
    · exact (accounted.shown entry earlier).grows grown.2

end Runs

/-! ## Calls that change nothing -/

/-- A movement of the ledger stands where a call would insert its own. -/
def StoreCall.IsProjected (ledger : Ledger) : StoreCall → Prop
  | .recordAward data =>
      ∃ award ∈ ledger.awards,
        award.dedupKey = data.dedupKey ∨
          canonicalTransactionHash data.txHash = some award.txHash
  | .recordSpend data =>
      ∃ spend ∈ ledger.spends,
        canonicalTransactionHash data.txHash = some spend.txHash
  | _ => False

section Unchanged

variable {lost : Bool} {op : Op} {answer : op.Answer} {thread : Nat}
  {database next shared : Database} {call : StoreCall}
  {past : Past} {change : Change}

/-- The award that a call has found or written is in the ledger. -/
theorem RecordAwardRequest.Recorded.isProjected
    {data : RecordAwardRequest}
    {history : List (Entry sparkz)}
    (recorded : data.Recorded (ownPast thread history))
    (accounted : AwardsAccounted database history) :
    (StoreCall.recordAward data).IsProjected database.ledger := by
  cases recorded with
  | @written user amount hash balance award isHash member =>
      have shown := accounted.shown _ (mem_ownPast.mp member)
      exact ⟨_, shown, Or.inl rfl⟩
  | @ofHash hash existing isHash member =>
      have shown := accounted.shown _ (mem_ownPast.mp member)
      obtain ⟨isStored, carries⟩ :=
        shown existing (List.mem_singleton_self _)
      exact ⟨existing, isStored, Or.inr (by rw [isHash, carries])⟩
  | @ofDedupKey existing member =>
      obtain ⟨isStored, dedupKey⟩ :=
        accounted.shown _ (mem_ownPast.mp member)
      exact ⟨existing, isStored, Or.inl dedupKey⟩

/-- The spend that a call has found or written is in the ledger. -/
theorem RecordSpendRequest.Recorded.isProjected
    {data : RecordSpendRequest}
    {history : List (Entry sparkz)}
    (recorded : data.Recorded (ownPast thread history))
    (accounted : LedgerAccounted database history) :
    (StoreCall.recordSpend data).IsProjected database.ledger := by
  cases recorded with
  | @written user amount hash balance spend isHash member =>
      have shown := accounted.shown _ (mem_ownPast.mp member)
      exact ⟨_, shown, isHash⟩
  | @ofHash hash existing isHash member =>
      have shown := accounted.shown _ (mem_ownPast.mp member)
      obtain ⟨isStored, carries⟩ :=
        shown existing (List.mem_singleton_self _)
      exact ⟨existing, isStored, by rw [isHash, carries]⟩

/-- A write of a projection whose movement is taken is refused. -/
theorem StoreCall.IsProjected.refuses
    {result : change.Result}
    (projected : call.IsProjected database.ledger)
    (writes : call.Writes past change) :
    change.apply database ≠ .ok (result, next) := by
  intro applied
  cases call with
  | recordAward data =>
      obtain ⟨user, amount, hash, balance, isHash, _, _, rfl⟩ := writes
      obtain ⟨award, member, sameKey | sameHash⟩ := projected
      · obtain ⟨newKey, _⟩ := Change.recordAward_eq_ok applied
        exact newKey award member sameKey
      · obtain ⟨ledger, committed, _⟩ := Except.map_eq_ok applied
        obtain ⟨withUser, isUser, rest⟩ := Except.bind_eq_ok committed
        obtain ⟨withAward, isAward, _⟩ := Except.bind_eq_ok rest
        obtain ⟨sameAwards, _⟩ := Ledger.movements_of_insertUser isUser
        rw [isHash] at sameHash
        exact
          Ledger.newHash_of_insertAward isAward award
            (sameAwards ▸ member) (Option.some.inj sameHash).symm
  | recordSpend data =>
      obtain ⟨user, amount, hash, balance, isHash, _, _, rfl⟩ := writes
      obtain ⟨spend, member, sameHash⟩ := projected
      obtain ⟨newHash, _⟩ := Change.recordSpend_eq_ok applied
      rw [isHash] at sameHash
      exact newHash spend member (Option.some.inj sameHash).symm
  | _ =>
      exact projected

/-- An operation that applies no change leaves the tables as they are. -/
theorem Effect.rows_eq
    (effect : Effect lost database op answer next)
    (unapplied :
      ∀ change result after,
        op = .write change →
        change.apply database ≠ .ok (result, after)) :
    next.rows = database.rows := by
  cases effect with
  | committed locks applied =>
      exact absurd applied (unapplied _ _ _ rfl)
  | replyLost error locks applied mayBeLost =>
      exact absurd applied (unapplied _ _ _ rfl)
  | _ =>
      rfl

variable {platform : Platform} {calls : Nat → StoreCall}
  {meets : Config sparkz Failure Database → Entry sparkz → Prop}
  {config : Config sparkz Failure Database}

/-- A projection that has returned is in the ledger. -/
theorem isProjected_of_returned
    (unprojected : shared.ledger.IsUnprojected)
    (reached :
      ReachableWhen (semantics lost) meets
        (StoreCall.start platform shared calls) config)
    (isProjection : (calls thread).isProjection = true)
    (returned : config.threads thread = some (.done ())) :
    (calls thread).IsProjected config.shared.ledger := by
  have finished :=
    reached.obeysPast (fun thread => StoreCall.run_obeys platform _)
      returned
  cases isCall : calls thread with
  | recordAward data =>
      rw [isCall] at finished
      refine (finished.1 () rfl).isProjected (awardsAccounted ?_ reached)
      rw [unprojected.awards]
      exact List.nodup_nil
  | recordSpend data =>
      rw [isCall] at finished
      exact
        (finished.1 () rfl).isProjected
          (ledgerAccounted unprojected.conserved reached)
  | _ =>
      rw [isCall] at isProjection
      cases isProjection

/-- A call that repeats one that has returned changes nothing. -/
theorem rows_of_repeated
    {first : Nat}
    {after : Config sparkz Failure Database}
    (unprojected : shared.ledger.IsUnprojected)
    (reached :
      ReachableWhen (semantics lost) meets
        (StoreCall.start platform shared calls) config)
    (isProjection : (calls thread).isProjection = true)
    (returned : config.threads first = some (.done ()))
    (same : calls first = calls thread)
    (step :
      Step (semantics lost) config (some ⟨thread, op, answer⟩) after) :
    after.shared.rows = config.shared.rows := by
  have projected :=
    isProjected_of_returned unprojected reached (same ▸ isProjection)
      returned
  cases step with
  | perform running answered =>
      refine (respond_effect answered).rows_eq ?_
      rintro change result database rfl
      have permitted :=
        reached.permitted (fun thread => StoreCall.run_obeys platform _)
          running
      exact
        (same ▸ projected).refuses
          (StoreCall.protocol_write.mp permitted)

/-- What a projection writes is a commit when it is acknowledged. -/
theorem StoreCall.isCommit_of_write
    {result : change.Result}
    (isProjection : call.isProjection = true)
    (writes : call.Writes past change) :
    IsCommit ⟨.write change, .ok result⟩ := by
  refine ⟨change, result, rfl, ?_⟩
  cases call with
  | recordAward data =>
      obtain ⟨_, _, _, _, _, _, _, rfl⟩ := writes
      trivial
  | recordSpend data =>
      obtain ⟨_, _, _, _, _, _, _, rfl⟩ := writes
      trivial
  | _ =>
      cases isProjection

/-- A projection that has thrown has had no write acknowledged. -/
theorem noCommit_of_thrown
    {failure : Failure}
    (reached :
      ReachableWhen (semantics lost) meets
        (StoreCall.start platform shared calls) config)
    (isProjection : (calls thread).isProjection = true)
    (thrown : config.threads thread = some (.fail failure)) :
    NoCommit [] (ownPast thread config.history) := by
  have finished :=
    reached.obeysPast (fun thread => StoreCall.run_obeys platform _)
      thrown
  cases isCall : calls thread with
  | recordAward data =>
      rw [isCall] at finished
      exact finished.2 failure rfl
  | recordSpend data =>
      rw [isCall] at finished
      exact finished.2 failure rfl
  | _ =>
      rw [isCall] at isProjection
      cases isProjection

/-- A call that is going to throw changes nothing. -/
theorem rows_of_thrown
    {failure : Failure}
    {after last : Config sparkz Failure Database}
    (reached :
      Reachable (semantics false)
        (StoreCall.start platform shared calls) config)
    (isProjection : (calls thread).isProjection = true)
    (step :
      Step (semantics false) config (some ⟨thread, op, answer⟩) after)
    (continued : Reachable (semantics false) after last)
    (thrown : last.threads thread = some (.fail failure)) :
    after.shared.rows = config.shared.rows := by
  have noCommit :=
    noCommit_of_thrown
      ((reached.step step fun _ _ => trivial).trans continued)
      isProjection thrown
  have remembered := continued.history_suffix.subset
  cases step with
  | perform running answered =>
      have effect := respond_effect answered
      cases effect with
      | @committed change result database locks applied =>
          have permitted :=
            reached.permitted
              (fun thread => StoreCall.run_obeys platform _) running
          have isCommit : IsCommit ⟨.write change, .ok result⟩ :=
            StoreCall.isCommit_of_write isProjection
              (StoreCall.protocol_write.mp permitted)
          have member :
              (⟨.write change, .ok result⟩ : Event sparkz) ∈
                ownPast thread last.history :=
            mem_ownPast.mpr (remembered List.mem_cons_self)
          cases noCommit _ member isCommit
      | replyLost error locks applied mayBeLost =>
          cases mayBeLost
      | _ =>
          rfl

/--
In every run that starts without movements the ledger is conserved.  A
projection with the arguments of one that has returned changes no table, and
neither does one that is going to throw when no reply is lost.
-/
theorem projections_conserve
    (unprojected : shared.ledger.IsUnprojected)
    (reached :
      Reachable (semantics lost)
        (StoreCall.start platform shared calls) config) :
    config.shared.ledger.Conserved ∧
      ∀ (thread : Nat) (op : Op) (answer : op.Answer)
          (after : Config sparkz Failure Database),
        (calls thread).isProjection = true →
        Step (semantics lost) config (some ⟨thread, op, answer⟩)
          after →
        (∀ first,
            calls first = calls thread →
            config.threads first = some (.done ()) →
            after.shared.rows = config.shared.rows) ∧
          ∀ (failure : Failure)
              (last : Config sparkz Failure Database),
            lost = false →
            Reachable (semantics lost) after last →
            last.threads thread = some (.fail failure) →
            after.shared.rows = config.shared.rows := by
  refine
    ⟨(ledgerAccounted unprojected.conserved reached).conserved, ?_⟩
  intro thread op answer after isProjection step
  constructor
  · intro first same returned
    exact
      rows_of_repeated unprojected reached isProjection returned same
        step
  · rintro failure last rfl continued thrown
    exact rows_of_thrown reached isProjection step continued thrown

end Unchanged

/-! ## A repeated and a refused transfer -/

/-- A transfer, with another amount in the third call. -/
def repeatedCalls : Nat → StoreCall
  | 2 =>
      .recordAward
        { awardedCall secondTransfer with amount := .ofUnits 200 }
  | _ => .recordAward (awardedCall secondTransfer)

/-- Whether a call has returned. -/
def hasReturned
    (thread : Nat)
    (config : Config sparkz Failure Database) :
    Bool :=
  match config.threads thread with
  | some (.done _) => true
  | _ => false

/-- Whether a call has thrown. -/
def hasThrown
    (thread : Nat)
    (config : Config sparkz Failure Database) :
    Bool :=
  match config.threads thread with
  | some (.fail _) => true
  | _ => false

theorem returned_of_hasReturned
    {thread : Nat}
    {config : Config sparkz Failure Database}
    (returned : hasReturned thread config = true) :
    config.threads thread = some (.done ()) := by
  unfold hasReturned at returned
  split at returned
  · assumption
  · cases returned

theorem thrown_of_hasThrown
    {thread : Nat}
    {config : Config sparkz Failure Database}
    (thrown : hasThrown thread config = true) :
    ∃ failure, config.threads thread = some (.fail failure) := by
  unfold hasThrown at thrown
  split at thrown
  · exact ⟨_, by assumption⟩
  · cases thrown

/-- The run up to the end of the first call. -/
def recordedOnce : Option (Config sparkz Failure Database) :=
  (StoreCall.start .sample .empty repeatedCalls).run?
    (semantics false) (fun _ _ => true)
    (StoreCall.inOrder (List.replicate 12 0))

/-- The first operation of a call that follows. -/
def following (thread : Nat) : Option (Config sparkz Failure Database) :=
  recordedOnce.bind
    (·.advance? (semantics false) thread .databaseOnly)

/-- The run up to the end of the call with another amount. -/
def refusedAmount : Option (Config sparkz Failure Database) :=
  (following 2).bind fun config =>
    config.run? (semantics false) (fun _ _ => true)
      (StoreCall.inOrder (List.replicate 5 2))

/-- An operation that a schedule performs is a step of its call. -/
theorem step_of_advance?
    {before after : Config sparkz Failure Database}
    {thread : Nat}
    {choice : Choice}
    (accepted :
      before.advance? (semantics false) thread choice = some after) :
    ∃ op answer,
      Step (semantics false) before (some ⟨thread, op, answer⟩) after := by
  unfold Config.advance? at accepted
  split at accepted
  · rename_i op rest running
    split at accepted
    · rename_i answer shared answered
      cases accepted
      exact ⟨op, answer, .perform running answered⟩
    · cases accepted
  · cases accepted

/-- The repeated call and the refused one leave the tables. -/
theorem projections_conserve_repeatedCalls :
    ∃ before repeated refused,
      recordedOnce = some before ∧
        following 1 = some repeated ∧
        following 2 = some refused ∧
        before.shared.ledger.Conserved ∧
        repeated.shared.rows = before.shared.rows ∧
        refused.shared.rows = before.shared.rows := by
  have isReturned : recordedOnce.map (hasReturned 0) = some true := by
    decide +kernel
  have isRepeated : (following 1).isSome = true := by
    decide +kernel
  have isThrown : refusedAmount.map (hasThrown 2) = some true := by
    decide +kernel
  obtain ⟨before, isBefore, returned⟩ :=
    Option.map_eq_some_iff.mp isReturned
  obtain ⟨repeated, isFollowing⟩ :=
    Option.isSome_iff_exists.mp isRepeated
  obtain ⟨last, isLast, thrown⟩ := Option.map_eq_some_iff.mp isThrown
  obtain ⟨refused, isRefused, continued⟩ :=
    Option.bind_eq_some_iff.mp isLast
  obtain ⟨failure, isFailure⟩ := thrown_of_hasThrown thrown
  have advanced := isFollowing
  rw [following, isBefore, Option.bind_some] at advanced
  obtain ⟨_, _, repeatedStep⟩ := step_of_advance? advanced
  have otherAdvanced := isRefused
  rw [following, isBefore, Option.bind_some] at otherAdvanced
  obtain ⟨_, _, refusedStep⟩ := step_of_advance? otherAdvanced
  obtain ⟨conserved, unchanged⟩ :=
    projections_conserve ⟨rfl, rfl, rfl⟩
      (Config.run?_sound (fun _ _ _ => trivial) .start isBefore)
  refine
    ⟨before, repeated, refused, isBefore, isFollowing, isRefused,
      conserved, ?_, ?_⟩
  · exact
      (unchanged 1 _ _ _ rfl repeatedStep).1 0 rfl
        (returned_of_hasReturned returned)
  · exact
      (unchanged 2 _ _ _ rfl refusedStep).2 failure last rfl
        (Config.run?_sound (fun _ _ _ => trivial) .start continued)
        isFailure

end Sparkz
