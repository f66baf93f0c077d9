import Sparkz.InterleavingEnding
import Sparkz.RpcFailover
import Sparkz.RpcResponseValidation

namespace Sparkz

open Interleaving
open Refusals

/-!
# One attempt on one endpoint

A call of `_send` is described by its events, newest first: which endpoint was
sent which payload, and what came back.  The reasons for moving on to the next
endpoint are read off these events alone.
-/

/-! ## Events -/

/-- The endpoint that an operation sends a payload to. -/
def RpcOp.sends? (payload : RpcPayload) : RpcOp → Option Nat
  | .send endpoint sent _ => if sent = payload then some endpoint else none
  | _ => none

/-- The endpoints that a payload was sent to, the latest first. -/
def sentTo (payload : RpcPayload) (events : List (Event rpc)) : List Nat :=
  events.filterMap fun event => event.op.sends? payload

/-- A request was sent to an endpoint. -/
def Sent
    (events : List (Event rpc))
    (endpoint : Nat)
    (payload : RpcPayload) :
    Prop :=
  ∃ timeoutMs, ⟨.send endpoint payload timeoutMs, ()⟩ ∈ events

/-- A body arrived from an endpoint and passed validation. -/
def Received
    (events : List (Event rpc))
    (endpoint : Nat)
    (payload : RpcPayload)
    (response : List RpcEntry) :
    Prop :=
  ∃ body,
    (⟨.receive endpoint payload, .ok body⟩ : Event rpc) ∈ events ∧
      validateRpcResponse body payload = .ok response

/-- What an endpoint has answered that allows a call to try the next one. -/
inductive Fails
    (provider : FailoverJsonRpcProvider)
    (payload : RpcPayload)
    (events : List (Event rpc))
    (endpoint : Nat) :
    Prop where
  /-- The transport failed with an error that allows it. -/
  | transport
      {sent : RpcPayload}
      {error : RpcError}
      (failed :
        (⟨.receive endpoint sent, .error error⟩ : Event rpc) ∈ events)
      (retryable : isRetryable error = true)
  /-- The body is not a response to what was sent. -/
  | malformed
      {sent : RpcPayload}
      {body : RpcBody}
      {error : RpcError}
      (arrived :
        (⟨.receive endpoint sent, .ok body⟩ : Event rpc) ∈ events)
      (refused : validateRpcResponse body sent = .error error)
  /-- The first error of the response is transient. -/
  | transientError
      {sent : RpcPayload}
      {response : List RpcEntry}
      {error : RpcErrorValue}
      (received : Received events endpoint sent response)
      (isFirst : firstError response = some error)
      (transient : isTransientRpcReadError (responseError error) = true)
  /-- The endpoint answered another chain. -/
  | wrongChain
      {sent : RpcPayload}
      {response : List RpcEntry}
      {request : JsonRpcPayload}
      {entry : RpcEntry}
      {chainId : Nat}
      (received : Received events endpoint sent response)
      (isRequest : request ∈ sent.requests)
      (asksChain : request.method = "eth_chainId")
      (isEntry : responseForId response request.id = some entry)
      (answered : entry.chainId? = some chainId)
      (different : chainId ≠ provider.expectedChainId)
  /-- A transaction read found nothing. -/
  | null
      {response : List RpcEntry}
      (received : Received events endpoint payload response)
      (isNull : isNullResult payload response = true)

/-- The last readings of a turn that is over before its chain check. -/
def overdue
    (endpoint : Nat)
    (validated : Option Nat)
    (late : Int) :
    List (Event rpc) :=
  [⟨.now, late⟩, ⟨.validatedChainId endpoint, validated⟩]

/--
The turn of an endpoint was over before anything was sent to it: it began at
one reading of the clock, and its chain check read its deadline or later.
-/
structure OutOfTime
    (provider : FailoverJsonRpcProvider)
    (events : List (Event rpc))
    (endpoint : Nat) :
    Prop where
  unsent : ∀ sent, ¬ Sent events endpoint sent
  expired :
    ∃ (first started checked late : Int) (validated : Option Nat),
      -- the call itself began at the first reading
      ([⟨.now, first⟩] : List (Event rpc)) <:+ events ∧
        overdue endpoint validated late ++
            [⟨.now, checked⟩, ⟨.now, started⟩] <:+: events ∧
        min
            (first +
              provider.endpointTimeoutMs *
                (provider.endpoints.length : Int))
            (started + provider.endpointTimeoutMs) ≤
          late

/-- Why a call may go on to the endpoints after this one. -/
inductive MovesOn
    (provider : FailoverJsonRpcProvider)
    (payload : RpcPayload)
    (events : List (Event rpc))
    (endpoint : Nat) :
    Prop where
  | failed (fails : Fails provider payload events endpoint)
  | outOfTime (isOver : OutOfTime provider events endpoint)

theorem sentTo_append
    (payload : RpcPayload)
    (newer older : List (Event rpc)) :
    sentTo payload (newer ++ older) =
      sentTo payload newer ++ sentTo payload older :=
  List.filterMap_append

theorem mem_sentTo
    {payload : RpcPayload}
    {events : List (Event rpc)}
    {endpoint : Nat} :
    endpoint ∈ sentTo payload events ↔ Sent events endpoint payload := by
  unfold sentTo Sent
  rw [List.mem_filterMap]
  constructor
  · rintro ⟨⟨op, answer⟩, member, isSend⟩
    cases op with
    | send target sent timeoutMs =>
        simp only [RpcOp.sends?, Option.ite_none_right_eq_some,
          Option.some.injEq] at isSend
        obtain ⟨rfl, rfl⟩ := isSend
        exact ⟨timeoutMs, member⟩
    | _ =>
        simp [RpcOp.sends?] at isSend
  · rintro ⟨timeoutMs, member⟩
    exact ⟨_, member, by simp [RpcOp.sends?]⟩

/-- What an endpoint has answered stays answered. -/
theorem Fails.within
    {provider : FailoverJsonRpcProvider}
    {payload : RpcPayload}
    {events larger : List (Event rpc)}
    {endpoint : Nat}
    (fails : Fails provider payload events endpoint)
    (contained : events ⊆ larger) :
    Fails provider payload larger endpoint := by
  have later :
      ∀ {sent response},
        Received events endpoint sent response →
        Received larger endpoint sent response := by
    rintro sent response ⟨body, arrived, valid⟩
    exact ⟨body, contained arrived, valid⟩
  cases fails with
  | transport failed retryable =>
      exact .transport (contained failed) retryable
  | malformed arrived refused =>
      exact .malformed (contained arrived) refused
  | transientError received isFirst transient =>
      exact .transientError (later received) isFirst transient
  | wrongChain received isRequest asksChain isEntry answered different =>
      exact
        .wrongChain (later received) isRequest asksChain isEntry answered
          different
  | null received isNull =>
      exact .null (later received) isNull

/-- A reason for moving on stands, unless an endpoint is sent something late. -/
theorem MovesOn.append
    {provider : FailoverJsonRpcProvider}
    {payload : RpcPayload}
    {newer events : List (Event rpc)}
    {endpoint : Nat}
    (movesOn : MovesOn provider payload events endpoint)
    (stillUnsent : ∀ sent, ¬ Sent newer endpoint sent) :
    MovesOn provider payload (newer ++ events) endpoint := by
  cases movesOn with
  | failed fails =>
      exact .failed (fails.within (List.subset_append_right _ _))
  | outOfTime isOver =>
      refine .outOfTime ⟨?_, ?_⟩
      · rintro sent ⟨timeoutMs, member⟩
        rcases List.mem_append.mp member with isNew | isOld
        · exact stillUnsent sent ⟨timeoutMs, isNew⟩
        · exact isOver.unsent sent ⟨timeoutMs, isOld⟩
      · obtain ⟨first, started, checked, late, validated, begins, turn,
          isLate⟩ := isOver.expired
        exact
          ⟨first, started, checked, late, validated,
            begins.trans (List.suffix_append _ _),
            turn.trans (List.suffix_append _ _).isInfix, isLate⟩

/-! ## Requests and their answers -/

/-- Whether an operation is a request or its answer. -/
def RpcOp.isTraffic : RpcOp → Bool
  | .send _ _ _ | .receive _ _ => true
  | .now | .validatedChainId _ | .setValidatedChainId _ _
  | .setLastFailoverEvidence _ => false

/-- The requests and the answers among some events. -/
def traffic (events : List (Event rpc)) : List (Event rpc) :=
  events.filter (·.op.isTraffic)

/-- One request and its answer, newest first. -/
def exchange
    (endpoint : Nat)
    (sent : RpcPayload)
    (timeoutMs : Int)
    (answer : Except RpcError RpcBody) :
    List (Event rpc) :=
  [⟨.receive endpoint sent, answer⟩, ⟨.send endpoint sent timeoutMs, ()⟩]

@[simp] theorem traffic_append (newer older : List (Event rpc)) :
    traffic (newer ++ older) = traffic newer ++ traffic older :=
  List.filter_append ..

@[simp] theorem traffic_exchange
    (endpoint : Nat)
    (sent : RpcPayload)
    (timeoutMs : Int)
    (answer : Except RpcError RpcBody) :
    traffic (exchange endpoint sent timeoutMs answer) =
      exchange endpoint sent timeoutMs answer :=
  rfl

theorem sent_traffic
    {events : List (Event rpc)}
    {endpoint : Nat}
    {sent : RpcPayload} :
    Sent (traffic events) endpoint sent ↔ Sent events endpoint sent := by
  simp [Sent, traffic, RpcOp.isTraffic]

theorem received_traffic
    {events : List (Event rpc)}
    {endpoint : Nat}
    {sent : RpcPayload}
    {response : List RpcEntry} :
    Received (traffic events) endpoint sent response ↔
      Received events endpoint sent response := by
  simp [Received, traffic, RpcOp.isTraffic]

theorem sentTo_traffic
    (payload : RpcPayload)
    (events : List (Event rpc)) :
    sentTo payload (traffic events) = sentTo payload events := by
  unfold sentTo traffic
  rw [List.filterMap_filter]
  apply List.filterMap_congr
  rintro ⟨op, answer⟩ _
  cases op <;> rfl

theorem Fails.of_traffic
    {provider : FailoverJsonRpcProvider}
    {payload : RpcPayload}
    {events : List (Event rpc)}
    {endpoint : Nat}
    (fails : Fails provider payload (traffic events) endpoint) :
    Fails provider payload events endpoint :=
  fails.within (List.filter_subset_self _)

section Exchange

variable {endpoint target : Nat} {sent other : RpcPayload}
  {timeoutMs : Int} {answer : Except RpcError RpcBody}

theorem sent_exchange :
    Sent (exchange endpoint sent timeoutMs answer) target other ↔
      target = endpoint ∧ other = sent := by
  simp [Sent, exchange]

theorem received_exchange {response : List RpcEntry} :
    Received (exchange endpoint sent timeoutMs answer) target other
        response ↔
      target = endpoint ∧ other = sent ∧
        (answer.bind fun body => validateRpcResponse body sent) =
          .ok response := by
  cases answer with
  | error error =>
      simp [Received, exchange, Except.bind]
  | ok body =>
      simp only [Received, exchange, List.mem_cons, Event.mk.injEq,
        RpcOp.receive.injEq, reduceCtorEq, false_and, List.not_mem_nil,
        or_false]
      constructor
      · rintro ⟨arrived, ⟨⟨rfl, rfl⟩, same⟩, valid⟩
        cases same
        exact ⟨rfl, rfl, valid⟩
      · rintro ⟨rfl, rfl, valid⟩
        exact ⟨body, ⟨⟨rfl, rfl⟩, HEq.rfl⟩, valid⟩

theorem sentTo_exchange {payload : RpcPayload} :
    sentTo payload (exchange endpoint sent timeoutMs answer) =
      if sent = payload then [endpoint] else [] := by
  by_cases same : sent = payload <;>
    simp [sentTo, exchange, RpcOp.sends?, same]

/-- A request that fails with a retryable error allows to move on. -/
theorem fails_exchange
    {provider : FailoverJsonRpcProvider}
    {payload : RpcPayload}
    {error : RpcError}
    (failed :
      (answer.bind fun body => validateRpcResponse body sent) =
        .error error)
    (retryable : isRetryable error = true) :
    Fails provider payload (exchange endpoint sent timeoutMs answer)
      endpoint := by
  cases answer with
  | error transportError =>
      cases failed
      exact .transport List.mem_cons_self retryable
  | ok body =>
      exact .malformed List.mem_cons_self failed

end Exchange

/-! ## One endpoint -/

/-- The answer that an attempt has received to its payload. -/
def Attempted.response? :
    Except RpcError FailoverJsonRpcProvider.Attempt →
      Option (List RpcEntry)
  | .error _ => none
  | .ok (.refused response _) | .ok (.answered response) => some response

/-- A payload of one transaction read. -/
def RpcPayload.IsTransactionRead
    (payload : RpcPayload)
    (request : JsonRpcPayload) :
    Prop :=
  payload.requests = [request] ∧
    isNullPropagationMethod request.method = true

/-- What the events of one attempt on an endpoint tell. -/
structure AttemptedOn
    (provider : FailoverJsonRpcProvider)
    (payload : RpcPayload)
    (endpoint : Nat)
    (endpointDeadline : Int)
    (result : Except RpcError FailoverJsonRpcProvider.Attempt)
    (events : List (Event rpc)) :
    Prop where
  here :
    ∀ target sent,
      Sent events target sent →
      target = endpoint ∧ (sent = payload ∨ sent = chainPayload)
  once : sentTo payload events = [] ∨ sentTo payload events = [endpoint]
  failed :
    ∀ error : RpcError,
      result = .error error →
      isRetryable error = true →
      Fails provider payload events endpoint ∨
        ∃ validated late,
          events = overdue endpoint validated late ∧
            endpointDeadline ≤ late
  refused :
    ∀ response error,
      result = .ok (.refused response error) →
      firstError response ≠ none ∧
        (isTransientRpcReadError error = true →
          Fails provider payload events endpoint)
  null :
    ∀ response,
      result = .ok (.answered response) →
      isNullResult payload response = true →
      Fails provider payload events endpoint
  valid :
    ∀ response,
      Attempted.response? result = some response →
      payload.IsAnsweredBy response
  read :
    ∀ request,
      payload.IsTransactionRead request →
      ∀ target response,
        Received events target payload response →
        Attempted.response? result = some response

section Endings

variable {provider : FailoverJsonRpcProvider} {payload : RpcPayload}
  {endpoint : Nat} {past reached : List (Event rpc)}

theorem perform_ends
    {op : RpcOp}
    {result : Except RpcError op.Answer}
    (ends : (perform op).Ends recorded past result reached) :
    ∃ answer : op.Answer,
      result = .ok answer ∧ reached = ⟨op, answer⟩ :: past :=
  Program.ends_call.mp ends

/-- A sequence that starts with one operation. -/
theorem perform_bind_ends {α : Type}
    {op : RpcOp}
    {rest : op.Answer → RpcCall α}
    {result : Except RpcError α}
    (ends : (perform op >>= rest).Ends recorded past result reached) :
    ∃ answer : op.Answer,
      (rest answer).Ends recorded (⟨op, answer⟩ :: past) result
        reached := by
  rcases Program.ends_bind.mp ends with
    ⟨value, middle, performed, continued⟩ | ⟨error, _, performed⟩
  · obtain ⟨answer, isAnswer, rfl⟩ := perform_ends performed
    cases isAnswer
    exact ⟨value, continued⟩
  · obtain ⟨answer, impossible, _⟩ := perform_ends performed
    cases impossible

theorem requestEndpoint_ends
    {sent : RpcPayload}
    {timeoutMs : Int}
    {result : Except RpcError (List RpcEntry)}
    (ends :
      (requestEndpoint endpoint sent timeoutMs).Ends recorded past result
        reached) :
    ∃ answer : Except RpcError RpcBody,
      reached =
          exchange endpoint sent (max 1 timeoutMs) answer ++ past ∧
        result = answer.bind fun body => validateRpcResponse body sent := by
  obtain ⟨_, ends⟩ := perform_bind_ends ends
  obtain ⟨answer, ends⟩ := perform_bind_ends ends
  cases answer with
  | error error =>
      obtain ⟨isResult, rfl⟩ := Program.ends_fail.mp ends
      exact ⟨.error error, rfl, isResult⟩
  | ok body =>
      obtain ⟨isResult, rfl⟩ := Program.ends_ofExcept.mp ends
      exact ⟨.ok body, rfl, isResult⟩

/-- What a thrown chain check says about the answer it looked at. -/
theorem chainIdFromResult_eq_error
    {entry : RpcEntry}
    {expected : Nat}
    {error : RpcError}
    (refused : chainIdFromResult entry expected = .error error)
    (retryable : isRetryable error = true) :
    (∃ value, entry.error = some value ∧ error = responseError value) ∨
      entry.error = none ∧
        ∃ chainId,
          entry.chainId? = some chainId ∧ chainId ≠ expected := by
  unfold chainIdFromResult at refused
  cases hasError : entry.error with
  | some value =>
      simp only [hasError, Except.error.injEq] at refused
      exact Or.inl ⟨value, rfl, refused.symm⟩
  | none =>
      refine Or.inr ⟨rfl, ?_⟩
      simp only [hasError] at refused
      cases answered : entry.chainId? with
      | none =>
          simp only [answered, Except.error.injEq] at refused
          subst refused
          exact absurd retryable (by decide +kernel)
      | some chainId =>
          simp only [answered] at refused
          refine ⟨chainId, rfl, ?_⟩
          intro same
          simp [same] at refused

theorem isRetryable_responseError {value : RpcErrorValue} :
    isRetryable (responseError value) =
      isTransientRpcReadError (responseError value) := by
  cases value with
  | invalid =>
      rfl
  | envelope error =>
      simp [isRetryable, responseError]

theorem acceptChainId_ends
    {entry : RpcEntry}
    {result : Except RpcError Unit}
    (ends :
      (provider.acceptChainId endpoint entry).Ends recorded past result
        reached) :
    ∃ newer,
      reached = newer ++ past ∧ traffic newer = [] ∧
        ∀ error,
          result = .error error →
          chainIdFromResult entry provider.expectedChainId =
            .error error := by
  rcases Program.ends_bind.mp ends with
    ⟨chainId, middle, accepted, continued⟩ | ⟨error, rfl, refused⟩
  · obtain ⟨_, rfl⟩ := Program.ends_ofExcept.mp accepted
    obtain ⟨answer, rfl, rfl⟩ := perform_ends continued
    refine ⟨[_], rfl, rfl, ?_⟩
    intro error impossible
    cases impossible
  · obtain ⟨isError, rfl⟩ := Program.ends_ofExcept.mp refused
    refine ⟨[], rfl, rfl, ?_⟩
    intro other same
    cases same
    exact isError.symm

/-- The response to one request is one entry. -/
theorem response_of_single
    {request : JsonRpcPayload}
    {response : List RpcEntry}
    {entry : RpcEntry}
    (isSingle : payload.requests = [request])
    (answered : payload.IsAnsweredBy response)
    (found : responseForId response request.id = some entry) :
    response = [entry] := by
  have length : response.length = 1 := by
    have same := answered.ids.length_eq
    simpa [isSingle] using same
  obtain ⟨only, rfl⟩ := List.length_eq_one_iff.mp length
  have member := (responseForId_eq_some found).1
  rw [List.mem_singleton.mp member]

variable (payload) in
/-- The chain check of an endpoint sends one request at most. -/
theorem validateEndpoint_ends
    {deadline : Int}
    {result : Except RpcError Unit}
    (ends :
      (provider.validateEndpoint endpoint deadline).Ends recorded past
        result reached) :
    ∃ newer,
      reached = newer ++ past ∧
        (traffic newer = [] ∨
          ∃ timeoutMs answer,
            traffic newer =
              exchange endpoint chainPayload timeoutMs answer) ∧
        ∀ error : RpcError,
          result = .error error →
          isRetryable error = true →
          Fails provider payload (traffic newer) endpoint ∨
            ∃ validated late,
              newer = overdue endpoint validated late ∧
                deadline ≤ late := by
  unfold FailoverJsonRpcProvider.validateEndpoint at ends
  obtain ⟨validated, ends⟩ := perform_bind_ends ends
  split at ends
  · obtain ⟨rfl, rfl⟩ := Program.ends_done.mp ends
    refine ⟨[_], rfl, Or.inl rfl, ?_⟩
    intro error impossible
    cases impossible
  obtain ⟨now, ends⟩ := perform_bind_ends ends
  obtain ⟨quiet, isOverdue, isQuiet, isPast⟩ :
      ∃ quiet : List (Event rpc),
        quiet = overdue endpoint validated now ∧
          traffic quiet = [] ∧
          (⟨.now, now⟩ : Event rpc) ::
              ⟨.validatedChainId endpoint, validated⟩ :: past =
            quiet ++ past :=
    ⟨_, rfl, rfl, rfl⟩
  rw [isPast] at ends
  simp only at ends
  split at ends
  · rename_i isLate
    obtain ⟨rfl, rfl⟩ := Program.ends_fail.mp ends
    refine ⟨quiet, rfl, Or.inl isQuiet, ?_⟩
    intro error _ _
    exact Or.inr ⟨validated, now, isOverdue, by omega⟩
  rcases Program.ends_bind.mp ends with
    ⟨response, middle, requested, continued⟩ | ⟨error, rfl, requested⟩
  · obtain ⟨answer, rfl, isResponse⟩ := requestEndpoint_ends requested
    have received :
        Received
          (exchange endpoint chainPayload
            (max 1 (deadline - now)) answer)
          endpoint chainPayload response :=
      received_exchange.mpr ⟨rfl, rfl, isResponse.symm⟩
    obtain ⟨body, _, valid⟩ := received
    have answered := validateRpcResponse_eq_ok valid
    split at continued
    · obtain ⟨rfl, rfl⟩ := Program.ends_fail.mp continued
      refine
        ⟨exchange endpoint chainPayload (max 1 (deadline - now)) answer ++
            quiet,
          by simp,
          Or.inr ⟨max 1 (deadline - now), answer, by simp [isQuiet]⟩, ?_⟩
      intro error same retryable
      cases same
      exact absurd retryable (by decide +kernel)
    · rename_i entry found
      obtain ⟨newer, rfl, isAccepted, refusal⟩ :=
        acceptChainId_ends continued
      refine
        ⟨newer ++
            (exchange endpoint chainPayload (max 1 (deadline - now))
                answer ++
              quiet),
          by simp,
          Or.inr
            ⟨max 1 (deadline - now), answer, by
              simp [isQuiet, isAccepted]⟩, ?_⟩
      intro error isError retryable
      have only : response = [entry] :=
        response_of_single rfl answered found
      have reason :=
        chainIdFromResult_eq_error (refusal error isError) retryable
      simp only [traffic_append, isAccepted, isQuiet, traffic_exchange,
        List.nil_append, List.append_nil]
      have isReceived :
          Received
            (exchange endpoint chainPayload
              (max 1 (deadline - now)) answer)
            endpoint chainPayload response :=
        received_exchange.mpr ⟨rfl, rfl, isResponse.symm⟩
      rcases reason with
        ⟨value, hasError, rfl⟩ | ⟨_, chainId, isChain, different⟩
      · rw [isRetryable_responseError] at retryable
        refine Or.inl (.transientError isReceived ?_ retryable)
        simp [only, firstError, hasError]
      · exact
          Or.inl
            (.wrongChain isReceived List.mem_cons_self rfl found isChain
              different)
  · obtain ⟨answer, rfl, isError⟩ := requestEndpoint_ends requested
    refine
      ⟨exchange endpoint chainPayload (max 1 (deadline - now)) answer ++
          quiet,
        by simp,
          Or.inr ⟨max 1 (deadline - now), answer, by simp [isQuiet]⟩, ?_⟩
    intro other same retryable
    cases same
    simp only [traffic_append, isQuiet, traffic_exchange,
      List.append_nil]
    exact Or.inl (fails_exchange isError.symm retryable)

/-- A chain check sends the chain payload to its endpoint and nothing else. -/
theorem chainCheck_events
    {checked : List (Event rpc)}
    (isCheck :
      traffic checked = [] ∨
        ∃ timeoutMs answer,
          traffic checked =
            exchange endpoint chainPayload timeoutMs answer)
    (notChain : chainPayload ≠ payload) :
    (∀ target sent,
        Sent checked target sent →
        target = endpoint ∧ sent = chainPayload) ∧
      ∀ target response, ¬ Received checked target payload response := by
  rcases isCheck with isQuiet | ⟨timeoutMs, answer, isExchange⟩
  · constructor
    · intro target sent isSent
      rw [← sent_traffic, isQuiet] at isSent
      simp [Sent] at isSent
    · intro target response received
      rw [← received_traffic, isQuiet] at received
      simp [Received] at received
  · constructor
    · intro target sent isSent
      rw [← sent_traffic, isExchange] at isSent
      exact sent_exchange.mp isSent
    · intro target response received
      rw [← received_traffic, isExchange] at received
      exact notChain (received_exchange.mp received).2.1.symm

theorem noError_of_firstError
    {response : List RpcEntry}
    (noError : firstError response = none) :
    ∀ entry ∈ response, entry.error = none := by
  induction response with
  | nil =>
      simp
  | cons entry rest inductionHypothesis =>
      simp only [firstError, Option.or_eq_none_iff] at noError
      intro other member
      rcases List.mem_cons.mp member with rfl | member
      · exact noError.1
      · exact inductionHypothesis noError.2 other member

/-- The chain checks of an answered payload send nothing. -/
theorem acceptChainIds_ends
    {response : List RpcEntry}
    {requests : List JsonRpcPayload}
    {result : Except RpcError Unit}
    (noError : firstError response = none)
    (ends :
      (provider.acceptChainIds endpoint response requests).Ends recorded
        past result reached) :
    ∃ newer,
      reached = newer ++ past ∧ traffic newer = [] ∧
        ∀ error : RpcError,
          result = .error error →
          ∃ request ∈ requests,
            request.method = "eth_chainId" ∧
              (isRetryable error = true →
                ∃ entry chainId,
                  responseForId response request.id = some entry ∧
                    entry.chainId? = some chainId ∧
                    chainId ≠ provider.expectedChainId) := by
  induction requests generalizing past with
  | nil =>
      obtain ⟨rfl, rfl⟩ := Program.ends_done.mp ends
      refine ⟨[], rfl, rfl, ?_⟩
      intro error impossible
      cases impossible
  | cons request rest inductionHypothesis =>
      unfold FailoverJsonRpcProvider.acceptChainIds at ends
      split at ends
      · rename_i asksChain
        simp only at ends
        split at ends
        · obtain ⟨rfl, rfl⟩ := Program.ends_fail.mp ends
          refine ⟨[], rfl, rfl, ?_⟩
          intro error same
          cases same
          refine ⟨request, List.mem_cons_self, asksChain, ?_⟩
          intro retryable
          exact absurd retryable (by decide +kernel)
        · rename_i entry found
          rcases Program.ends_bind.mp ends with
            ⟨_, middle, accepted, continued⟩ | ⟨error, rfl, refused⟩
          · obtain ⟨first, rfl, firstQuiet, _⟩ :=
              acceptChainId_ends accepted
            obtain ⟨newer, rfl, isQuiet, refusal⟩ :=
              inductionHypothesis continued
            refine
              ⟨newer ++ first, by simp, by simp [isQuiet, firstQuiet], ?_⟩
            intro error isError
            obtain ⟨other, member, facts⟩ := refusal error isError
            exact ⟨other, List.mem_cons_of_mem _ member, facts⟩
          · obtain ⟨newer, rfl, isQuiet, refusal⟩ :=
              acceptChainId_ends refused
            refine ⟨newer, rfl, isQuiet, ?_⟩
            intro other same
            cases same
            refine ⟨request, List.mem_cons_self, asksChain, ?_⟩
            intro retryable
            have noEntryError :=
              noError_of_firstError noError entry
                (responseForId_eq_some found).1
            rcases chainIdFromResult_eq_error (refusal error rfl)
                retryable with
              ⟨value, hasError, _⟩ | ⟨_, chainId, isChain, different⟩
            · rw [noEntryError] at hasError
              cases hasError
            · exact ⟨entry, chainId, found, isChain, different⟩
      · obtain ⟨newer, isReached, isQuiet, refusal⟩ :=
          inductionHypothesis ends
        refine ⟨newer, isReached, isQuiet, ?_⟩
        intro error isError
        obtain ⟨other, member, facts⟩ := refusal error isError
        exact ⟨other, List.mem_cons_of_mem _ member, facts⟩

/-- A transaction read asks for no chain. -/
theorem RpcPayload.IsTransactionRead.asksNoChain
    {read : JsonRpcPayload}
    (isRead : payload.IsTransactionRead read) :
    ∀ request ∈ payload.requests, request.method ≠ "eth_chainId" := by
  intro request member asksChain
  rw [isRead.1, List.mem_singleton] at member
  subst member
  have propagates := isRead.2
  rw [asksChain] at propagates
  exact absurd propagates (by decide)

/-- The part of an attempt after the chain check of its endpoint. -/
def FailoverJsonRpcProvider.answerPayload
    (provider : FailoverJsonRpcProvider)
    (payload : RpcPayload)
    (endpoint : Nat)
    (endpointDeadline : Int) :
    RpcCall FailoverJsonRpcProvider.Attempt := do
  let response ←
    requestEndpoint endpoint payload
      (endpointDeadline - (← perform .now))
  match firstError response with
  | some error => return .refused response (responseError error)
  | none =>
      provider.acceptChainIds endpoint response payload.requests
      return .answered response

theorem attempt_eq
    (provider : FailoverJsonRpcProvider)
    (payload : RpcPayload)
    (endpoint : Nat)
    (endpointDeadline : Int) :
    provider.attempt payload endpoint endpointDeadline =
      if payload.asksMore then do
        provider.validateEndpoint endpoint endpointDeadline
        provider.answerPayload payload endpoint endpointDeadline
      else
        provider.answerPayload payload endpoint endpointDeadline :=
  rfl

/-- The payload itself is sent once, and its answer decides. -/
theorem answerPayload_ends
    {endpointDeadline : Int}
    {result : Except RpcError FailoverJsonRpcProvider.Attempt}
    (ends :
      (provider.answerPayload payload endpoint endpointDeadline).Ends
        recorded past result reached) :
    ∃ newer timeoutMs answer,
      reached = newer ++ past ∧
        traffic newer = exchange endpoint payload timeoutMs answer ∧
        (∀ error : RpcError,
          result = .error error →
          isRetryable error = true →
          Fails provider payload (traffic newer) endpoint) ∧
        (∀ response error,
          result = .ok (.refused response error) →
          firstError response ≠ none ∧
            (isTransientRpcReadError error = true →
              Fails provider payload (traffic newer) endpoint)) ∧
        (∀ response,
          Attempted.response? result = some response →
          Received (traffic newer) endpoint payload response) ∧
        ∀ request,
          payload.IsTransactionRead request →
          ∀ response,
            Received (traffic newer) endpoint payload response →
            Attempted.response? result = some response := by
  unfold FailoverJsonRpcProvider.answerPayload at ends
  obtain ⟨now, ends⟩ := perform_bind_ends ends
  rcases Program.ends_bind.mp ends with
    ⟨response, middle, requested, continued⟩ | ⟨error, rfl, requested⟩
  · obtain ⟨answer, rfl, isResponse⟩ := requestEndpoint_ends requested
    have received :
        Received
          (exchange endpoint payload (max 1 (endpointDeadline - now))
            answer)
          endpoint payload response :=
      received_exchange.mpr ⟨rfl, rfl, isResponse.symm⟩
    have isTraffic :
        ∀ checked,
          traffic checked = [] →
          traffic
              (checked ++
                (exchange endpoint payload
                    (max 1 (endpointDeadline - now)) answer ++
                  [⟨.now, now⟩])) =
            exchange endpoint payload
              (max 1 (endpointDeadline - now)) answer := by
      intro checked isQuiet
      rw [traffic_append, isQuiet]
      rfl
    split at continued
    · rename_i value isFirst
      obtain ⟨rfl, rfl⟩ := Program.ends_done.mp continued
      refine
        ⟨exchange endpoint payload (max 1 (endpointDeadline - now))
            answer ++ [⟨.now, now⟩],
          max 1 (endpointDeadline - now), answer, by simp, by rfl,
          ?_, ?_, ?_, ?_⟩
      · intro error impossible
        cases impossible
      · intro other error same
        cases same
        refine ⟨by simp [isFirst], fun transient => ?_⟩
        exact .transientError received isFirst transient
      · intro other same
        cases same
        exact received
      · intro request _ other isReceived
        obtain ⟨_, _, sameAnswer⟩ := received_exchange.mp isReceived
        rw [← isResponse] at sameAnswer
        cases sameAnswer
        rfl
    · rename_i noError
      rcases Program.ends_bind.mp continued with
        ⟨_, middle, accepted, continued⟩ | ⟨error, rfl, refused⟩
      · obtain ⟨checked, rfl, isQuiet, _⟩ :=
          acceptChainIds_ends noError accepted
        obtain ⟨rfl, rfl⟩ := Program.ends_done.mp continued
        refine ⟨_, max 1 (endpointDeadline - now), answer, ?_,
          isTraffic checked isQuiet, ?_, ?_, ?_, ?_⟩
        · simp
        · intro error impossible
          cases impossible
        · intro other error impossible
          cases impossible
        · intro other same
          cases same
          rw [isTraffic checked isQuiet]
          exact received
        · intro request _ other isReceived
          rw [isTraffic checked isQuiet] at isReceived
          obtain ⟨_, _, sameAnswer⟩ := received_exchange.mp isReceived
          rw [← isResponse] at sameAnswer
          cases sameAnswer
          rfl
      · obtain ⟨checked, rfl, isQuiet, refusal⟩ :=
          acceptChainIds_ends noError refused
        obtain ⟨request, isRequest, asksChain, mismatch⟩ :=
          refusal error rfl
        refine ⟨_, max 1 (endpointDeadline - now), answer, ?_,
          isTraffic checked isQuiet, ?_, ?_, ?_, ?_⟩
        · simp
        · intro other same retryable
          cases same
          obtain ⟨entry, chainId, found, isChain, different⟩ :=
            mismatch retryable
          rw [isTraffic checked isQuiet]
          exact
            .wrongChain received isRequest asksChain found isChain
              different
        · intro other otherError impossible
          cases impossible
        · intro other impossible
          cases impossible
        · intro read isRead
          exact absurd asksChain (isRead.asksNoChain request isRequest)
  · obtain ⟨answer, rfl, isError⟩ := requestEndpoint_ends requested
    refine
      ⟨exchange endpoint payload (max 1 (endpointDeadline - now))
          answer ++ [⟨.now, now⟩],
        max 1 (endpointDeadline - now), answer, by simp, by rfl,
        ?_, ?_, ?_, ?_⟩
    · intro other same retryable
      cases same
      exact fails_exchange isError.symm retryable
    · intro response other impossible
      cases impossible
    · intro response impossible
      cases impossible
    · intro request _ other isReceived
      obtain ⟨_, _, sameAnswer⟩ := received_exchange.mp isReceived
      rw [← isError] at sameAnswer
      cases sameAnswer

/-- The clock is not read by requests and their answers. -/
theorem traffic_ne_overdue
    {events : List (Event rpc)}
    {validated : Option Nat}
    {late : Int} :
    traffic events ≠ overdue endpoint validated late := by
  intro same
  have member : (⟨.now, late⟩ : Event rpc) ∈ traffic events := by
    rw [same]
    exact List.mem_cons_self
  cases (List.mem_filter.mp member).2

/-- An attempt is described by its requests and answers. -/
theorem AttemptedOn.of_traffic
    {endpointDeadline : Int}
    {result : Except RpcError FailoverJsonRpcProvider.Attempt}
    {events : List (Event rpc)}
    (attempted :
      AttemptedOn provider payload endpoint endpointDeadline result
        (traffic events)) :
    AttemptedOn provider payload endpoint endpointDeadline result
      events where
  here := fun target sent isSent =>
    attempted.here target sent (sent_traffic.mpr isSent)
  once := by
    rw [← sentTo_traffic]
    exact attempted.once
  failed := fun error isError retryable =>
    (attempted.failed error isError retryable).imp .of_traffic
      fun ⟨_, _, isOverdue, _⟩ =>
        absurd isOverdue traffic_ne_overdue
  refused := fun response error isRefused =>
    ⟨(attempted.refused response error isRefused).1, fun transient =>
      ((attempted.refused response error isRefused).2
        transient).of_traffic⟩
  null := fun response isAnswered isNull =>
    (attempted.null response isAnswered isNull).of_traffic
  valid := attempted.valid
  read := fun request isRead target response received =>
    attempted.read request isRead target response
      (received_traffic.mpr received)

/-- An attempt whose payload is sent after a chain check or without one. -/
theorem attemptedOn_of_answer
    {result : Except RpcError FailoverJsonRpcProvider.Attempt}
    {endpointDeadline : Int}
    {checked : List (Event rpc)}
    (checkSends :
      ∀ target sent,
        Sent checked target sent →
        target = endpoint ∧ sent = chainPayload ∧ chainPayload ≠ payload)
    (checkReceives :
      ∀ target response, ¬ Received checked target payload response)
    (ends :
      (provider.answerPayload payload endpoint endpointDeadline).Ends
        recorded (checked ++ past) result reached) :
    ∃ newer,
      reached = newer ++ past ∧
        AttemptedOn provider payload endpoint endpointDeadline result
          newer := by
  obtain ⟨newer, timeoutMs, answer, rfl, isTraffic, failed, refused,
    valid, read⟩ := answerPayload_ends ends
  rw [isTraffic] at failed refused valid read
  refine ⟨newer ++ checked, by simp, AttemptedOn.of_traffic ?_⟩
  rw [traffic_append, isTraffic]
  have contained :
      exchange endpoint payload timeoutMs answer ⊆
        exchange endpoint payload timeoutMs answer ++ traffic checked :=
    List.subset_append_left _ _
  have larger :
      Fails provider payload
          (exchange endpoint payload timeoutMs answer) endpoint →
        Fails provider payload
          (exchange endpoint payload timeoutMs answer ++ traffic checked)
          endpoint :=
    fun fails => fails.within contained
  have sentBefore :
      sentTo payload (traffic checked) = [] := by
    rw [sentTo_traffic, List.eq_nil_iff_forall_not_mem]
    intro target member
    obtain ⟨_, isChain, different⟩ :=
      checkSends target payload (mem_sentTo.mp member)
    exact different isChain.symm
  refine
    { here := ?_
      once := ?_
      failed := ?_
      refused := ?_
      null := ?_
      valid := ?_
      read := ?_ }
  · rintro target sent ⟨timeout, member⟩
    rcases List.mem_append.mp member with isOwn | isCheck
    · obtain ⟨rfl, rfl⟩ := sent_exchange.mp ⟨timeout, isOwn⟩
      exact ⟨rfl, Or.inl rfl⟩
    · obtain ⟨rfl, rfl, _⟩ :=
        checkSends target sent (sent_traffic.mp ⟨timeout, isCheck⟩)
      exact ⟨rfl, Or.inr rfl⟩
  · rw [sentTo_append, sentBefore, sentTo_exchange]
    simp
  · intro error isError retryable
    exact Or.inl (larger (failed error isError retryable))
  · intro response error isRefused
    obtain ⟨hasError, fails⟩ := refused response error isRefused
    exact ⟨hasError, fun transient => larger (fails transient)⟩
  · intro response isAnswered isNull
    subst isAnswered
    exact larger (.null (valid response rfl) isNull)
  · intro response isResponse
    obtain ⟨body, _, isValid⟩ := valid response isResponse
    exact validateRpcResponse_eq_ok isValid
  · rintro request isRead target response ⟨body, member, isValid⟩
    rcases List.mem_append.mp member with isOwn | isCheck
    · have received :
          Received (exchange endpoint payload timeoutMs answer) target
            payload response :=
        ⟨body, isOwn, isValid⟩
      obtain ⟨rfl, _, _⟩ := received_exchange.mp received
      exact read request isRead response received
    · exact
        absurd (received_traffic.mp ⟨body, isCheck, isValid⟩)
          (checkReceives target response)

/-- What one attempt sends, and when the next endpoint may be tried. -/
theorem attempt_ends
    {endpointDeadline : Int}
    {result : Except RpcError FailoverJsonRpcProvider.Attempt}
    (ends :
      (provider.attempt payload endpoint endpointDeadline).Ends recorded
        past result reached) :
    ∃ newer,
      reached = newer ++ past ∧
        AttemptedOn provider payload endpoint endpointDeadline result
          newer := by
  rw [attempt_eq] at ends
  split at ends
  · rename_i asksMore
    have notChain : chainPayload ≠ payload := by
      rintro rfl
      exact absurd asksMore (by decide)
    rcases Program.ends_bind.mp ends with
      ⟨_, middle, validated, continued⟩ | ⟨error, rfl, refused⟩
    · obtain ⟨checked, rfl, isCheck, _⟩ :=
        validateEndpoint_ends payload validated
      obtain ⟨checkSends, checkReceives⟩ :=
        chainCheck_events isCheck notChain
      exact
        attemptedOn_of_answer
          (fun target sent isSent =>
            ⟨(checkSends target sent isSent).1,
              (checkSends target sent isSent).2, notChain⟩)
          checkReceives continued
    · obtain ⟨checked, rfl, isCheck, movesOn⟩ :=
        validateEndpoint_ends payload refused
      obtain ⟨checkSends, checkReceives⟩ :=
        chainCheck_events isCheck notChain
      refine
        ⟨checked, rfl,
          { here := ?_
            once := ?_
            failed := ?_
            refused := ?_
            null := ?_
            valid := ?_
            read := ?_ }⟩
      · intro target sent isSent
        obtain ⟨rfl, rfl⟩ := checkSends target sent isSent
        exact ⟨rfl, Or.inr rfl⟩
      · refine Or.inl (List.eq_nil_iff_forall_not_mem.mpr ?_)
        intro target member
        exact
          notChain (checkSends target payload (mem_sentTo.mp member)).2.symm
      · intro other same retryable
        cases same
        exact (movesOn error rfl retryable).imp_left .of_traffic
      · intro response other impossible
        cases impossible
      · intro response impossible
        cases impossible
      · intro response impossible
        cases impossible
      · intro request _ target response received
        exact absurd received (checkReceives target response)
  · have unchecked :
        (provider.answerPayload payload endpoint endpointDeadline).Ends
          recorded ([] ++ past) result reached :=
      ends
    exact
      attemptedOn_of_answer
        (fun _ _ isSent => by simp [Sent] at isSent)
        (fun _ _ received => by simp [Received] at received) unchecked

end Endings

end Sparkz
