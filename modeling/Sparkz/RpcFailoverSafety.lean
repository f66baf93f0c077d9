import Mathlib.Data.List.Pairwise
import Sparkz.RpcFailoverAttempts

namespace Sparkz

open Interleaving

/-!
# Failover sends a write safely

The endpoints are tried in order, each of them once, and the next one only when
the previous one has given a reason to move on.
-/

/-- What the events of a call of `_send` have in common. -/
structure SafeFailover
    (provider : FailoverJsonRpcProvider)
    (payload : RpcPayload)
    (events : List (Event rpc)) :
    Prop where
  /-- Besides the chain check, only the payload itself is ever sent. -/
  identical :
    ∀ endpoint sent,
      Sent events endpoint sent → sent = payload ∨ sent = chainPayload
  /-- The latest endpoint stands first, so the endpoints rise over time. -/
  inOrder : (sentTo payload events).Pairwise (· > ·)
  /-- A write that is not a raw transaction is sent to one endpoint. -/
  managedOnce :
    ∀ request ∈ payload.requests,
      isWriteMethod request.method = true →
      request.method ≠ "eth_sendRawTransaction" →
      (sentTo payload events).length ≤ 1
  /-- Every endpoint before the one that is sent the payload has failed. -/
  movesOn :
    ∀ later endpoint timeoutMs earlier,
      events =
          later ++
            (⟨.send endpoint payload timeoutMs, ()⟩ : Event rpc) ::
              earlier →
      ∀ skipped < endpoint,
        MovesOn provider payload earlier skipped

/-- No endpoint has found what a transaction read asks for. -/
def RpcPayload.NothingFound
    (payload : RpcPayload)
    (read : JsonRpcPayload)
    (events : List (Event rpc)) :
    Prop :=
  ∀ endpoint response entry text,
    Received events endpoint payload response →
    responseForId response read.id = some entry →
    entry.result ≠ some (.value text)

/-- What holds before an endpoint is tried. -/
structure BeforeEndpoint
    (provider : FailoverJsonRpcProvider)
    (payload : RpcPayload)
    (endpoint : Nat)
    (progress : FailoverJsonRpcProvider.Progress)
    (events : List (Event rpc)) :
    Prop where
  safe : SafeFailover provider payload events
  below : ∀ target sent, Sent events target sent → target < endpoint
  tried :
    ∀ skipped < endpoint, MovesOn provider payload events skipped
  managed : payload.allowWriteFailover = false → endpoint = 0
  nothingFound :
    ∀ read, payload.IsTransactionRead read → payload.NothingFound read events
  answered :
    ∀ response,
      progress.lastNullResponse = some response →
      payload.IsAnsweredBy response

/-- What a call of `_send` has done when it ends. -/
structure FailoverEnded
    (provider : FailoverJsonRpcProvider)
    (payload : RpcPayload)
    (result : Except RpcError RpcReply)
    (events : List (Event rpc)) :
    Prop where
  safe : SafeFailover provider payload events
  answered :
    ∀ reply : RpcReply,
      result = .ok reply → payload.IsAnsweredBy reply.response
  nothingFound :
    ∀ (reply : RpcReply) (read : JsonRpcPayload),
      result = .ok reply →
      payload.IsTransactionRead read →
      isNullResult payload reply.response = true →
      payload.NothingFound read events

/-- A call that began at its first reading of the clock has this deadline. -/
def Begins
    (provider : FailoverJsonRpcProvider)
    (deadline : Int)
    (events : List (Event rpc)) :
    Prop :=
  ∃ first : Int,
    ([⟨.now, first⟩] : List (Event rpc)) <:+ events ∧
      deadline =
        first +
          provider.endpointTimeoutMs * (provider.endpoints.length : Int)

section Failover

variable {provider : FailoverJsonRpcProvider} {payload : RpcPayload}
  {endpoint : Nat} {progress : FailoverJsonRpcProvider.Progress}
  {events newer : List (Event rpc)}

/-- The events of one attempt come after those of the endpoints before it. -/
theorem BeforeEndpoint.safe_append
    (before : BeforeEndpoint provider payload endpoint progress events)
    (here :
      ∀ target sent,
        Sent newer target sent →
        target = endpoint ∧ (sent = payload ∨ sent = chainPayload))
    (once :
      sentTo payload newer = [] ∨ sentTo payload newer = [endpoint]) :
    SafeFailover provider payload (newer ++ events) := by
  have earlierBelow :
      ∀ target ∈ sentTo payload events, target < endpoint := by
    intro target member
    exact before.below target payload (mem_sentTo.mp member)
  refine
    { identical := ?_
      inOrder := ?_
      managedOnce := ?_
      movesOn := ?_ }
  · rintro target sent ⟨timeoutMs, member⟩
    rcases List.mem_append.mp member with isNew | isOld
    · exact (here target sent ⟨timeoutMs, isNew⟩).2
    · exact before.safe.identical target sent ⟨timeoutMs, isOld⟩
  · rw [sentTo_append]
    rcases once with nothing | sentOnce
    · rw [nothing]
      exact before.safe.inOrder
    · rw [sentOnce]
      exact List.pairwise_cons.mpr ⟨earlierBelow, before.safe.inOrder⟩
  · intro request member isWrite notRaw
    have managed : payload.allowWriteFailover = false := by
      unfold RpcPayload.allowWriteFailover
      rw [List.all_eq_false]
      exact ⟨request, member, by simp [isWrite, notRaw]⟩
    have isFirst := before.managed managed
    have nothingBefore : sentTo payload events = [] := by
      rw [List.eq_nil_iff_forall_not_mem]
      intro target member
      have isBelow := earlierBelow target member
      omega
    rw [sentTo_append, nothingBefore]
    rcases once with nothing | sentOnce
    · simp [nothing]
    · simp [sentOnce]
  · intro later target timeoutMs earlier split skipped isSkipped
    rcases List.append_eq_append_iff.mp split with
      ⟨between, rfl, isOld⟩ | ⟨between, rfl, isNew⟩
    · exact
        before.safe.movesOn between target timeoutMs earlier isOld skipped
          isSkipped
    · cases between with
      | nil =>
          exact
            before.safe.movesOn [] target timeoutMs earlier isNew.symm
              skipped isSkipped
      | cons first rest =>
          simp only [List.cons_append, List.cons.injEq] at isNew
          obtain ⟨rfl, rfl⟩ := isNew
          have isHere : target = endpoint :=
            (here target payload
              ⟨timeoutMs, List.mem_append_right _ List.mem_cons_self⟩).1
          subst isHere
          apply (before.tried skipped isSkipped).append
          rintro sent ⟨timeout, isRest⟩
          have elsewhere :=
            (here skipped sent
              ⟨timeout,
                List.mem_append_right _
                  (List.mem_cons_of_mem _ isRest)⟩).1
          omega

/-- Reading the clock changes nothing before an endpoint is tried. -/
theorem BeforeEndpoint.quiet
    (before : BeforeEndpoint provider payload endpoint progress events)
    (isQuiet : traffic newer = []) :
    BeforeEndpoint provider payload endpoint progress
      (newer ++ events) := by
  have noneSent : ∀ target sent, ¬ Sent newer target sent := by
    intro target sent isSent
    rw [← sent_traffic, isQuiet] at isSent
    simp [Sent] at isSent
  have noneSentTo : sentTo payload newer = [] := by
    rw [← sentTo_traffic, isQuiet]
    rfl
  have onlyOld :
      ∀ target sent,
        Sent (newer ++ events) target sent → Sent events target sent := by
    rintro target sent ⟨timeoutMs, member⟩
    rcases List.mem_append.mp member with isNew | isOld
    · exact absurd ⟨timeoutMs, isNew⟩ (noneSent target sent)
    · exact ⟨timeoutMs, isOld⟩
  refine
    { safe := ?_
      below := ?_
      tried := ?_
      managed := before.managed
      nothingFound := ?_
      answered := before.answered }
  · exact
      before.safe_append
        (fun target sent isSent => absurd isSent (noneSent target sent))
        (Or.inl noneSentTo)
  · intro target sent isSent
    exact before.below target sent (onlyOld target sent isSent)
  · intro skipped isSkipped
    exact
      (before.tried skipped isSkipped).append fun sent =>
        noneSent skipped sent
  · intro read isRead target response entry text received
    apply before.nothingFound read isRead target response entry text
    rw [← received_traffic, traffic_append, isQuiet,
      List.nil_append, received_traffic] at received
    exact received

/-- The response to a transaction read that carries an error has no result. -/
theorem noResult_of_firstError
    {read : JsonRpcPayload}
    {response : List RpcEntry}
    {entry : RpcEntry}
    (isRead : payload.IsTransactionRead read)
    (answered : payload.IsAnsweredBy response)
    (hasError : firstError response ≠ none)
    (found : responseForId response read.id = some entry) :
    entry.result = none := by
  have only := response_of_single isRead.1 answered found
  subst only
  have wellFormed := answered.wellFormed entry List.mem_cons_self
  have outcome := wellFormed.oneOutcome
  simp only [firstError, Option.or_none, ne_eq] at hasError
  cases isResult : entry.result with
  | none =>
      rfl
  | some value =>
      cases isError : entry.error with
      | none =>
          exact absurd isError hasError
      | some error =>
          simp [isResult, isError] at outcome

/-- What an attempt adds when the call goes on after it. -/
theorem BeforeEndpoint.next
    {endpointDeadline : Int}
    {result : Except RpcError FailoverJsonRpcProvider.Attempt}
    {later : FailoverJsonRpcProvider.Progress}
    (before : BeforeEndpoint provider payload endpoint progress events)
    (attempted :
      AttemptedOn provider payload endpoint endpointDeadline result newer)
    (movesOn : MovesOn provider payload (newer ++ events) endpoint)
    (mayRepeat : payload.allowWriteFailover = true)
    (nothingFound :
      ∀ read,
        payload.IsTransactionRead read →
        ∀ response entry text,
          Attempted.response? result = some response →
          responseForId response read.id = some entry →
          entry.result ≠ some (.value text))
    (answered :
      ∀ response,
        later.lastNullResponse = some response →
        payload.IsAnsweredBy response) :
    BeforeEndpoint provider payload (endpoint + 1) later
      (newer ++ events) := by
  refine
    { safe := before.safe_append attempted.here attempted.once
      below := ?_
      tried := ?_
      managed := ?_
      nothingFound := ?_
      answered := answered }
  · rintro target sent ⟨timeoutMs, member⟩
    rcases List.mem_append.mp member with isNew | isOld
    · have isHere := (attempted.here target sent ⟨timeoutMs, isNew⟩).1
      omega
    · have isBelow := before.below target sent ⟨timeoutMs, isOld⟩
      omega
  · intro skipped isSkipped
    by_cases isCurrent : skipped = endpoint
    · subst isCurrent
      exact movesOn
    · apply (before.tried skipped (by omega)).append
      intro sent isNew
      exact isCurrent (attempted.here skipped sent isNew).1
  · intro managed
    rw [managed] at mayRepeat
    cases mayRepeat
  · rintro read isRead target response entry text
      ⟨body, member, valid⟩ found
    rcases List.mem_append.mp member with isNew | isOld
    · have isResponse :=
        attempted.read read isRead target response ⟨body, isNew, valid⟩
      exact nothingFound read isRead response entry text isResponse found
    · exact
        before.nothingFound read isRead target response entry text
          ⟨body, isOld, valid⟩ found

/-- What an attempt has met allows to move on, or its time was over. -/
theorem AttemptedOn.movesOn
    {deadline started checked : Int}
    {result : Except RpcError FailoverJsonRpcProvider.Attempt}
    {error : RpcError}
    (attempted :
      AttemptedOn provider payload endpoint
        (min deadline (started + provider.endpointTimeoutMs)) result
        newer)
    (begins : Begins provider deadline events)
    (below : ∀ target sent, Sent events target sent → target < endpoint)
    (isError : result = .error error)
    (retryable : isRetryable error = true) :
    MovesOn provider payload
      (newer ++ ⟨.now, checked⟩ :: ⟨.now, started⟩ :: events)
      endpoint := by
  rcases attempted.failed error isError retryable with
    fails | ⟨validated, late, rfl, isLate⟩
  · exact .failed (fails.within (List.subset_append_left _ _))
  · obtain ⟨first, isFirst, rfl⟩ := begins
    refine .outOfTime ⟨?_, first, started, checked, late, validated, ?_, ?_,
      isLate⟩
    · rintro sent ⟨timeoutMs, member⟩
      have isOld : Sent events endpoint sent :=
        ⟨timeoutMs, by simpa [overdue] using member⟩
      exact absurd (below endpoint sent isOld) (Nat.lt_irrefl endpoint)
    · exact
        isFirst.trans
          ⟨overdue endpoint validated late ++
              [⟨.now, checked⟩, ⟨.now, started⟩],
            by simp⟩
    · exact ⟨[], events, by simp⟩

/-! ## The end of a call -/

/-- The failover that is attached to an error changes nothing else. -/
theorem attachToFirstError_answers
    {response : List RpcEntry}
    {attach : RpcError → RpcError}
    (answered : payload.IsAnsweredBy response) :
    payload.IsAnsweredBy (attachToFirstError attach response) := by
  have sameIds :
      ∀ entries : List RpcEntry,
        (attachToFirstError attach entries).map (·.id) =
          entries.map (·.id) := by
    intro entries
    induction entries with
    | nil =>
        rfl
    | cons entry rest inductionHypothesis =>
        unfold attachToFirstError
        split
        · rfl
        · rfl
        · simp [inductionHypothesis]
  have stillWellFormed :
      ∀ entries : List RpcEntry,
        (∀ entry ∈ entries, entry.IsWellFormed) →
        ∀ entry ∈ attachToFirstError attach entries,
          entry.IsWellFormed := by
    intro entries
    induction entries with
    | nil =>
        simp [attachToFirstError]
    | cons entry rest inductionHypothesis =>
        intro wellFormed
        have first := wellFormed entry List.mem_cons_self
        have others := fun other member =>
          wellFormed other (List.mem_cons_of_mem entry member)
        unfold attachToFirstError
        split
        · rename_i error isError
          rintro other member
          rcases List.mem_cons.mp member with rfl | member
          · refine ⟨first.jsonrpc, ?_, by simp⟩
            have outcome := first.oneOutcome
            simpa [isError] using outcome
          · exact others other member
        · exact wellFormed
        · rintro other member
          rcases List.mem_cons.mp member with rfl | member
          · exact first
          · exact inductionHypothesis others other member
  refine
    { distinct := answered.distinct
      ids := ?_
      wellFormed := stillWellFormed response answered.wellFormed }
  rw [sameIds]
  exact answered.ids

theorem isNullResult_attachToFirstError
    {response : List RpcEntry}
    {attach : RpcError → RpcError} :
    isNullResult payload (attachToFirstError attach response) =
      isNullResult payload response := by
  have sameResult :
      ∀ (id : Int) (entries : List RpcEntry),
        (responseForId (attachToFirstError attach entries) id).bind
            (·.result) =
          (responseForId entries id).bind (·.result) := by
    intro id entries
    unfold responseForId
    induction entries with
    | nil =>
        rfl
    | cons entry rest inductionHypothesis =>
        unfold attachToFirstError
        split
        · by_cases isOwn : entry.id = some id
          · simp [isOwn]
          · simp [isOwn]
        · rfl
        · by_cases isOwn : entry.id = some id
          · simp [isOwn]
          · simpa [isOwn] using inductionHypothesis
  unfold isNullResult
  split
  · rw [sameResult]
  · rfl

theorem finish_ends
    {result : Except RpcError RpcReply}
    {reached : List (Event rpc)}
    (before : BeforeEndpoint provider payload endpoint progress events)
    (ends :
      (FailoverJsonRpcProvider.finish progress).Ends recorded events
        result reached) :
    FailoverEnded provider payload result reached := by
  obtain ⟨_, ends⟩ := perform_bind_ends ends
  have after :
      BeforeEndpoint provider payload endpoint progress
        ([⟨.setLastFailoverEvidence progress.evidence, ()⟩] ++ events) :=
    before.quiet rfl
  split at ends
  · rename_i response isNull
    obtain ⟨rfl, rfl⟩ := Program.ends_done.mp ends
    refine ⟨after.safe, ?_, ?_⟩
    · intro reply same
      cases same
      exact before.answered response isNull
    · intro reply read _ isRead _
      exact after.nothingFound read isRead
  · obtain ⟨rfl, rfl⟩ := Program.ends_fail.mp ends
    refine ⟨after.safe, ?_, ?_⟩
    · intro reply impossible
      cases impossible
    · intro reply read impossible
      cases impossible

/-- The null answer to a transaction read has no other result. -/
theorem nullResult_of_isNullResult
    {read : JsonRpcPayload}
    {response : List RpcEntry}
    {entry : RpcEntry}
    (isRead : payload.IsTransactionRead read)
    (isNull : isNullResult payload response = true)
    (found : responseForId response read.id = some entry) :
    entry.result = some .null := by
  unfold isNullResult at isNull
  rw [isRead.1] at isNull
  simpa [isRead.2, found] using isNull

/-- A transaction read that is answered with an error is not answered null. -/
theorem notNull_of_firstError
    {read : JsonRpcPayload}
    {response : List RpcEntry}
    (isRead : payload.IsTransactionRead read)
    (answered : payload.IsAnsweredBy response)
    (hasError : firstError response ≠ none) :
    ¬ isNullResult payload response = true := by
  intro isNull
  cases found : responseForId response read.id with
  | none =>
      unfold isNullResult at isNull
      rw [isRead.1] at isNull
      simp [found] at isNull
  | some entry =>
      have isResult := nullResult_of_isNullResult isRead isNull found
      rw [noResult_of_firstError isRead answered hasError found]
        at isResult
      cases isResult

/-- A payload that is answered with null writes nothing. -/
theorem mayRepeat_of_isNullResult
    {response : List RpcEntry}
    (isNull : isNullResult payload response = true) :
    payload.allowWriteFailover = true := by
  unfold isNullResult at isNull
  split at isNull
  · rename_i request isSingle
    simp only [Bool.and_eq_true] at isNull
    have notWrite : isWriteMethod request.method = false := by
      have propagates := isNull.1
      simp only [isNullPropagationMethod, Bool.or_eq_true,
        beq_iff_eq] at propagates
      rcases propagates with isRead | isRead
      · rw [isRead]
        decide
      · rw [isRead]
        decide
    simp [RpcPayload.allowWriteFailover, isSingle, notWrite]
  · cases isNull

/-- A payload that may go on to another endpoint repeats no managed write. -/
theorem mayRepeat_of_goesOn
    (goesOn : (!payload.allowWriteFailover && payload.writes) = false) :
    payload.allowWriteFailover = true := by
  by_contra notAllowed
  have forbidden := Bool.eq_false_iff.mpr notAllowed
  rw [forbidden, Bool.not_false, Bool.true_and] at goesOn
  unfold RpcPayload.allowWriteFailover at forbidden
  rw [List.all_eq_false] at forbidden
  obtain ⟨request, member, isManaged⟩ := forbidden
  unfold RpcPayload.writes at goesOn
  rw [List.any_eq_false] at goesOn
  have notWrite := goesOn request member
  simp [notWrite] at isManaged

/-- A call that ends after an attempt has kept to the rules. -/
theorem BeforeEndpoint.ended
    {endpointDeadline : Int}
    {attempt : Except RpcError FailoverJsonRpcProvider.Attempt}
    {last : Event rpc}
    (before : BeforeEndpoint provider payload endpoint progress events)
    (attempted :
      AttemptedOn provider payload endpoint endpointDeadline attempt newer)
    (isQuiet : last.op.isTraffic = false) :
    SafeFailover provider payload (last :: (newer ++ events)) := by
  have sameTraffic : traffic (last :: newer) = traffic newer :=
    List.filter_cons_of_neg (by simp [isQuiet])
  rw [← List.cons_append]
  apply before.safe_append
  · intro target sent isSent
    rw [← sent_traffic, sameTraffic, sent_traffic] at isSent
    exact attempted.here target sent isSent
  · rw [← sentTo_traffic, sameTraffic, sentTo_traffic]
    exact attempted.once

/-- A null answer that ends the call is all that any endpoint has found. -/
theorem BeforeEndpoint.nothingFound_ended
    {endpointDeadline : Int}
    {response : List RpcEntry}
    {last : Event rpc}
    {read : JsonRpcPayload}
    (before : BeforeEndpoint provider payload endpoint progress events)
    (attempted :
      AttemptedOn provider payload endpoint endpointDeadline
        (.ok (.answered response)) newer)
    (isQuiet : last.op.isTraffic = false)
    (isRead : payload.IsTransactionRead read)
    (isNull : isNullResult payload response = true) :
    payload.NothingFound read (last :: (newer ++ events)) := by
  have sameTraffic :
      traffic (last :: (newer ++ events)) = traffic (newer ++ events) :=
    List.filter_cons_of_neg (by simp [isQuiet])
  intro target other entry text received found
  rw [← received_traffic, sameTraffic, received_traffic] at received
  obtain ⟨body, member, valid⟩ := received
  rcases List.mem_append.mp member with isNew | isOld
  · have same :=
      attempted.read read isRead target other ⟨body, isNew, valid⟩
    cases same
    rw [nullResult_of_isNullResult isRead isNull found]
    simp
  · exact
      before.nothingFound read isRead target other entry text
        ⟨body, isOld, valid⟩ found

/-- The loop over the endpoints keeps to the rules of failover. -/
theorem tryEndpoints_ends
    {deadline : Int}
    {configs : List RpcEndpointConfig}
    {result : Except RpcError RpcReply}
    {reached : List (Event rpc)}
    (before : BeforeEndpoint provider payload endpoint progress events)
    (begins : Begins provider deadline events)
    (ends :
      (provider.tryEndpoints payload deadline endpoint configs
        progress).Ends recorded events result reached) :
    FailoverEnded provider payload result reached := by
  induction configs generalizing endpoint progress events with
  | nil =>
      exact finish_ends before ends
  | cons config rest inductionHypothesis =>
      unfold FailoverJsonRpcProvider.tryEndpoints at ends
      obtain ⟨started, ends⟩ := perform_bind_ends ends
      obtain ⟨now, ends⟩ := perform_bind_ends ends
      have clockRead :
          BeforeEndpoint provider payload endpoint progress
            ([⟨.now, now⟩, ⟨.now, started⟩] ++ events) :=
        before.quiet rfl
      have starts :
          BeforeEndpoint provider payload endpoint progress
            (⟨.now, now⟩ :: ⟨.now, started⟩ :: events) :=
        clockRead
      simp only at ends
      split at ends
      · exact finish_ends starts ends
      rcases Program.ends_bind.mp ends with
        ⟨outcome, middle, tried, continued⟩ | ⟨error, _, tried⟩
      · obtain ⟨attempt, isAttempt, tried⟩ := Program.ends_attempt.mp tried
        cases isAttempt
        obtain ⟨newer, rfl, attempted⟩ := attempt_ends tried
        have continues :
            Begins provider deadline
              (newer ++ ⟨.now, now⟩ :: ⟨.now, started⟩ :: events) := by
          obtain ⟨first, isFirst, isDeadline⟩ := begins
          exact
            ⟨first,
              isFirst.trans ⟨newer ++ [⟨.now, now⟩, ⟨.now, started⟩],
                by simp⟩,
              isDeadline⟩
        cases outcome with
        | error error =>
            simp only at continued
            split at continued
            · obtain ⟨_, continued⟩ := perform_bind_ends continued
              obtain ⟨rfl, rfl⟩ := Program.ends_fail.mp continued
              refine ⟨starts.ended attempted rfl, ?_, ?_⟩
              · intro reply impossible
                cases impossible
              · intro reply read impossible
                cases impossible
            · rename_i goesOn
              simp only [Bool.not_eq_true, Bool.or_eq_false_iff,
                Bool.not_eq_false'] at goesOn
              refine inductionHypothesis ?_ continues continued
              refine
                starts.next attempted
                  (attempted.movesOn begins before.below rfl goesOn.1)
                  (mayRepeat_of_goesOn goesOn.2) ?_ before.answered
              intro read _ response entry text impossible
              cases impossible
        | ok attempt =>
            cases attempt with
            | refused response error =>
                simp only at continued
                have answered := attempted.valid response rfl
                obtain ⟨hasError, fails⟩ :=
                  attempted.refused response error rfl
                split at continued
                · obtain ⟨_, continued⟩ := perform_bind_ends continued
                  obtain ⟨rfl, rfl⟩ := Program.ends_done.mp continued
                  refine ⟨starts.ended attempted rfl, ?_, ?_⟩
                  · intro reply same
                    cases same
                    exact attachToFirstError_answers answered
                  · intro reply read same isRead isNull
                    cases same
                    rw [isNullResult_attachToFirstError] at isNull
                    exact
                      absurd isNull
                        (notNull_of_firstError isRead answered hasError)
                · rename_i goesOn
                  simp only [Bool.not_eq_true, Bool.or_eq_false_iff,
                    Bool.not_eq_false'] at goesOn
                  refine inductionHypothesis ?_ continues continued
                  refine
                    starts.next attempted
                      (.failed
                        ((fails goesOn.1).within
                          (List.subset_append_left _ _)))
                      (mayRepeat_of_goesOn goesOn.2) ?_ before.answered
                  intro read isRead other entry text same found
                  cases same
                  rw [noResult_of_firstError isRead answered hasError
                    found]
                  simp
            | answered response =>
                simp only at continued
                have answered := attempted.valid response rfl
                split at continued
                · rename_i goesOn
                  refine inductionHypothesis ?_ continues continued
                  refine
                    starts.next attempted
                      (.failed
                        ((attempted.null response rfl goesOn.1).within
                          (List.subset_append_left _ _)))
                      (mayRepeat_of_isNullResult goesOn.1) ?_ ?_
                  · intro read isRead other entry text same found
                    cases same
                    rw [nullResult_of_isNullResult isRead goesOn.1 found]
                    simp
                  · intro other same
                    cases same
                    exact answered
                · obtain ⟨_, continued⟩ := perform_bind_ends continued
                  obtain ⟨rfl, rfl⟩ := Program.ends_done.mp continued
                  refine ⟨starts.ended attempted rfl, ?_, ?_⟩
                  · intro reply same
                    cases same
                    exact answered
                  · intro reply read same isRead isNull
                    cases same
                    exact
                      starts.nothingFound_ended attempted rfl isRead
                        isNull
      · obtain ⟨_, impossible, _⟩ := Program.ends_attempt.mp tried
        cases impossible

/-- A call of `_send` keeps to the rules of failover. -/
theorem send_ends
    {result : Except RpcError RpcReply}
    (ends : (provider.send payload).Ends recorded [] result events) :
    FailoverEnded provider payload result events := by
  unfold FailoverJsonRpcProvider.send at ends
  obtain ⟨now, ends⟩ := perform_bind_ends ends
  refine tryEndpoints_ends ?_ ⟨now, List.suffix_refl _, rfl⟩ ends
  refine
    { safe := ⟨?_, ?_, ?_, ?_⟩
      below := ?_
      tried := ?_
      managed := fun _ => rfl
      nothingFound := ?_
      answered := ?_ }
  · intro target sent isSent
    simp [Sent] at isSent
  · exact List.Pairwise.nil
  · intro request _ _ _
    exact Nat.zero_le 1
  · intro later target timeoutMs earlier split
    cases later with
    | nil =>
        cases split
    | cons first rest =>
        have empty := (List.cons.inj split).2
        simp at empty
  · intro target sent isSent
    simp [Sent] at isSent
  · intro skipped impossible
    exact absurd impossible (Nat.not_lt_zero skipped)
  · intro read _ target response entry text received
    simp [Received] at received
  · intro response impossible
    cases impossible

end Failover

/--
However the endpoints answer, fail or run out of time: a call of `_send` sends
its payload unchanged, once to an endpoint, in order, and only after every
endpoint before has given a reason to move on.  A managed write is sent to one
endpoint.  A transaction read returns null only when no endpoint has found
anything, and every response answers each request once.
-/
theorem failover_sendsSafely
    (provider : FailoverJsonRpcProvider)
    (payload : RpcPayload)
    (script : (op : RpcOp) → List (Event rpc) → op.Answer) :
    ∃ result events,
      (provider.send payload).solo (scripted script) [] =
          (result, events) ∧
        SafeFailover provider payload events ∧
        (∀ reply : RpcReply,
          result = .ok reply → payload.IsAnsweredBy reply.response) ∧
        ∀ (reply : RpcReply) (read : JsonRpcPayload),
          result = .ok reply →
          payload.requests = [read] →
          isNullPropagationMethod read.method = true →
          (responseForId reply.response read.id).bind (·.result) =
            some .null →
          payload.NothingFound read events := by
  have ended :=
    send_ends (Program.solo_recorded script (provider.send payload) [])
  refine ⟨_, _, rfl, ended.safe, ended.answered, ?_⟩
  intro reply read isReply isSingle propagates isNull
  refine ended.nothingFound reply read isReply ⟨isSingle, propagates⟩ ?_
  simp [isNullResult, isSingle, propagates, isNull]

/-! ## A batch of two transaction reads -/

/-- A provider with a fallback, whose endpoints both serve the chain. -/
def FailoverJsonRpcProvider.sample : FailoverJsonRpcProvider where
  endpoints := [⟨"https://one", "primary"⟩, ⟨"https://two", "fallback-1"⟩]
  expectedChainId := 80002
  endpointTimeoutMs := 2500

/-- A read of a transaction together with its receipt. -/
def transactionAndReceipt : RpcPayload :=
  .batch
    [⟨1, "eth_getTransactionByHash", "[]"⟩,
      ⟨2, "eth_getTransactionReceipt", "[]"⟩]

/-- An entry of a response, found or not. -/
def RpcEntry.ofResult (id : Int) (result : RpcResultValue) : RpcEntry where
  id := some id
  jsonrpc := some "2.0"
  result := some result
  error := none

/-- The primary finds the transaction and cannot serve its receipt. -/
def halfFoundEntries : List RpcEntry :=
  [.ofResult 1 (.value "[object Object]"),
    { id := some 2
      jsonrpc := some "2.0"
      result := none
      error := some (.envelope (.ofCode "timeout" "TIMEOUT")) }]

/-- The primary finds the transaction; the fallback finds nothing. -/
def halfFoundScript : (op : RpcOp) → List (Event rpc) → op.Answer
  | .now, _ => (0 : Int)
  | .validatedChainId _, _ => some 80002
  | .receive 0 _, _ => .ok (.batch halfFoundEntries)
  | .receive _ _, _ => .ok (.batch [.ofResult 1 .null, .ofResult 2 .null])
  | .setValidatedChainId _ _, _ => ()
  | .send _ _ _, _ => ()
  | .setLastFailoverEvidence _, _ => ()

/-- A batch returns null for a transaction that its first endpoint has found. -/
theorem batchRead_losesTransaction :
    ∃ (reply : RpcReply) (events : List (Event rpc)),
      (FailoverJsonRpcProvider.sample.send transactionAndReceipt).solo
          (scripted halfFoundScript) [] =
          (.ok reply, events) ∧
        (responseForId reply.response 1).bind (·.result) = some .null ∧
        ¬ transactionAndReceipt.NothingFound
            ⟨1, "eth_getTransactionByHash", "[]"⟩ events := by
  refine ⟨_, _, rfl, by decide +kernel, ?_⟩
  intro nothingFound
  refine
    nothingFound 0 halfFoundEntries
      (.ofResult 1 (.value "[object Object]"))
      "[object Object]" ⟨.batch halfFoundEntries, ?_, rfl⟩ rfl rfl
  repeat' first | exact List.mem_cons_self | apply List.mem_cons_of_mem

end Sparkz
