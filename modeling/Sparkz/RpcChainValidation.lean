import Sparkz.InterleavingPast
import Sparkz.RpcFailover

namespace Sparkz

open Interleaving

/-!
# No request reaches an endpoint on another chain

The calls of one provider share what each endpoint has validated.  A validation
is never taken back, so it is right only as long as no later answer of the
endpoint contradicts it.
-/

/-! ## Runs of one provider -/

/-- What the provider remembers between its calls. -/
structure ProviderState where
  validatedChainId : Nat → Option Nat
  lastFailoverEvidence : List RpcEndpointEvidence

/-- What comes from outside the provider. -/
structure RpcOutside where
  now : Int
  received : Except RpcError RpcBody

namespace ProviderState

/-- `endpoints = configs.map(config => ({ ...config }))`. -/
def initial : ProviderState where
  validatedChainId := fun _ => none
  lastFailoverEvidence := []

/-- `endpoint.validatedChainId = chainId`. -/
def validate
    (state : ProviderState)
    (endpoint chainId : Nat) :
    ProviderState :=
  { state with
    validatedChainId := fun query =>
      if query = endpoint then some chainId
      else state.validatedChainId query }

@[simp] theorem validate_same
    (state : ProviderState)
    (endpoint chainId : Nat) :
    (state.validate endpoint chainId).validatedChainId endpoint =
      some chainId := by
  simp [validate]

theorem validate_other
    (state : ProviderState)
    {endpoint query : Nat}
    (different : query ≠ endpoint)
    (chainId : Nat) :
    (state.validate endpoint chainId).validatedChainId query =
      state.validatedChainId query := by
  simp [validate, different]

/-- How an operation of a call is answered. -/
def respond
    (state : ProviderState)
    (outside : RpcOutside) :
    (op : RpcOp) → op.Answer × ProviderState
  | .now => (outside.now, state)
  | .validatedChainId endpoint =>
      (state.validatedChainId endpoint, state)
  | .setValidatedChainId endpoint chainId =>
      ((), state.validate endpoint chainId)
  | .send _ _ _ => ((), state)
  | .receive _ _ => (outside.received, state)
  | .setLastFailoverEvidence evidence =>
      ((), { state with lastFailoverEvidence := evidence })

end ProviderState

/-- The calls of one provider, whatever the endpoints answer. -/
def providerSemantics : Semantics rpc ProviderState where
  Choice := RpcOutside
  respond := fun _ op outside state => some (state.respond outside op)
  stop := fun _ state => state

/-- A call of the provider from outside. -/
inductive ProviderCall where
  | send (payload : RpcPayload)
  | getNetwork

/-- The operations of a call. -/
def ProviderCall.run
    (provider : FailoverJsonRpcProvider) :
    ProviderCall → RpcCall Unit
  | .send payload => do
      let _ ← provider.send payload
      return ()
  | .getNetwork => do
      let _ ← provider.getNetwork
      return ()

/-- A state of the provider, its calls and their history. -/
abbrev ProviderRun := Config rpc RpcError ProviderState

/-- The provider before its first call. -/
def ProviderRun.initial
    (provider : FailoverJsonRpcProvider)
    (calls : Nat → ProviderCall) :
    ProviderRun :=
  Config.initial .initial fun thread => (calls thread).run provider

/-! ## Chain answers -/

/-- The chain that an entry answers, if it is a valid answer. -/
def RpcEntry.chainAnswer? (entry : RpcEntry) : Option Nat :=
  if entry.error.isSome then none else entry.chainId?

/-- The valid answers to the `eth_chainId` requests of a payload, in order. -/
def RpcPayload.chainAnswers
    (payload : RpcPayload)
    (response : List RpcEntry) :
    List Nat :=
  (payload.requests.filter (·.method == "eth_chainId")).filterMap
    fun request =>
      (responseForId response request.id).bind (·.chainAnswer?)

/-- The last valid chain that a received body answers. -/
def RpcBody.lastChainAnswer?
    (body : RpcBody)
    (payload : RpcPayload) :
    Option Nat :=
  match validateRpcResponse body payload with
  | .ok response => (payload.chainAnswers response).getLast?
  | .error _ => none

/-- The last valid chain that an operation receives from an endpoint. -/
def chainAnswered? (endpoint : Nat) : Entry rpc → Option Nat
  | ⟨_, .receive target payload, .ok body⟩ =>
      if target = endpoint then body.lastChainAnswer? payload else none
  | _ => none

/-- The latest valid chain that an endpoint has answered. -/
def latestChain
    (endpoint : Nat)
    (history : List (Entry rpc)) :
    Option Nat :=
  history.findSome? (chainAnswered? endpoint)

theorem latestChain_cons
    (endpoint : Nat)
    (entry : Entry rpc)
    (earlier : List (Entry rpc)) :
    latestChain endpoint (entry :: earlier) =
      (chainAnswered? endpoint entry).or (latestChain endpoint earlier) := by
  unfold latestChain
  rw [List.findSome?_cons]
  cases chainAnswered? endpoint entry with
  | none =>
      rfl
  | some chainId =>
      rfl

/-- Whatever asks for more than the chain goes to the expected chain. -/
def SentToExpected
    (provider : FailoverJsonRpcProvider)
    (entry : Entry rpc)
    (earlier : List (Entry rpc)) :
    Prop :=
  ∀ endpoint payload timeoutMs,
    entry.op = .send endpoint payload timeoutMs →
    payload.asksMore = true →
    latestChain endpoint earlier = some provider.expectedChainId

/--
No endpoint answers another chain while its validation is cached, and none is
cached after the endpoint has answered another chain.
-/
def KeepsChain
    (provider : FailoverJsonRpcProvider)
    (before : ProviderRun)
    (entry : Entry rpc) :
    Prop :=
  ∀ endpoint,
    (before.shared.validatedChainId endpoint =
        some provider.expectedChainId →
      ∀ chainId,
        chainAnswered? endpoint entry = some chainId →
        chainId = provider.expectedChainId) ∧
      (entry.op =
          .setValidatedChainId endpoint provider.expectedChainId →
        latestChain endpoint before.history =
          some provider.expectedChainId)

/-! ## What one call knows -/

/-- The call has seen that the validation of an endpoint is cached. -/
def HasValidated
    (provider : FailoverJsonRpcProvider)
    (endpoint : Nat)
    (past : List (Event rpc)) :
    Prop :=
  (⟨.validatedChainId endpoint, some provider.expectedChainId⟩ :
      Event rpc) ∈ past ∨
    (⟨.setValidatedChainId endpoint provider.expectedChainId, ()⟩ :
      Event rpc) ∈ past

/-- Only the expected chain is cached, and nothing is sent without it. -/
def chainProtocol (provider : FailoverJsonRpcProvider) : Protocol rpc
  | _, .setValidatedChainId _ chainId =>
      chainId = provider.expectedChainId
  | past, .send endpoint payload _ =>
      payload.asksMore = true → HasValidated provider endpoint past
  | _, _ => True

section Calls

variable {provider : FailoverJsonRpcProvider}
  {past reached : List (Event rpc)} {endpoint : Nat}

theorem HasValidated.mono
    (validated : HasValidated provider endpoint past)
    (later : past ⊆ reached) :
    HasValidated provider endpoint reached := by
  rcases validated with read | written
  · exact Or.inl (later read)
  · exact Or.inr (later written)

/-- A request that may be sent is sent, and its answer changes no validation. -/
theorem requestEndpoint_obeys
    {payload : RpcPayload}
    {timeoutMs : Int}
    (mayBeSent :
      payload.asksMore = true → HasValidated provider endpoint past) :
    (requestEndpoint endpoint payload timeoutMs).Obeys
      (chainProtocol provider) past fun _ _ => True := by
  refine ⟨mayBeSent, fun _ => ⟨trivial, ?_⟩⟩
  intro received
  cases received with
  | error error =>
      trivial
  | ok body =>
      exact Program.obeys_ofExcept.mpr trivial

/-- The accepted chain is the expected one. -/
theorem chainIdFromResult_eq_ok
    {entry : RpcEntry}
    {expected chainId : Nat}
    (accepted : chainIdFromResult entry expected = .ok chainId) :
    chainId = expected := by
  unfold chainIdFromResult at accepted
  split at accepted
  · cases accepted
  · split at accepted
    · cases accepted
    · split at accepted
      · cases accepted
      · rename_i same
        cases accepted
        exact not_not.mp same

/-- Only the expected chain is cached. -/
theorem acceptChainId_obeys (entry : RpcEntry) :
    (provider.acceptChainId endpoint entry).Obeys
      (chainProtocol provider) past fun result reached =>
        result = .ok () → HasValidated provider endpoint reached := by
  rw [FailoverJsonRpcProvider.acceptChainId, Program.obeys_bind,
    Program.obeys_ofExcept]
  cases answered : chainIdFromResult entry provider.expectedChainId with
  | error error =>
      simp
  | ok chainId =>
      have expected : chainId = provider.expectedChainId :=
        chainIdFromResult_eq_ok answered
      subst expected
      refine ⟨rfl, fun _ _ => Or.inr ?_⟩
      exact List.mem_cons_self

/-- An endpoint that passes its check is validated. -/
theorem validateEndpoint_obeys (deadline : Int) :
    (provider.validateEndpoint endpoint deadline).Obeys
      (chainProtocol provider) past fun result reached =>
        result = .ok () → HasValidated provider endpoint reached := by
  refine ⟨trivial, ?_⟩
  intro cached
  show Program.Obeys _ (ite _ _ _) _ _
  by_cases isCached : cached = some provider.expectedChainId
  · rw [if_pos isCached]
    intro _
    subst isCached
    exact Or.inl List.mem_cons_self
  · rw [if_neg isCached]
    refine ⟨trivial, ?_⟩
    intro now
    show Program.Obeys _ (ite _ _ _) _ _
    by_cases isLate : deadline - now ≤ 0
    · rw [if_pos isLate]
      intro impossible
      cases impossible
    · rw [if_neg isLate, Program.obeys_bind]
      have chainOnly : chainPayload.asksMore = false := by
        decide
      refine
        (requestEndpoint_obeys (by simp [chainOnly])).weaken ?_
      intro result reached _
      cases result with
      | error error =>
          intro impossible
          cases impossible
      | ok response =>
          dsimp only
          cases responseForId response 0 with
          | none =>
              intro impossible
              cases impossible
          | some entry =>
              exact acceptChainId_obeys entry

/-- The check of the answered chains caches only the expected one. -/
theorem acceptChainIds_obeys
    (response : List RpcEntry)
    (requests : List JsonRpcPayload) :
    (provider.acceptChainIds endpoint response requests).Obeys
      (chainProtocol provider) past fun _ _ => True := by
  induction requests generalizing past with
  | nil =>
      trivial
  | cons request rest inductionHypothesis =>
      unfold FailoverJsonRpcProvider.acceptChainIds
      by_cases asksChain : request.method = "eth_chainId"
      · simp only [asksChain, if_true]
        cases responseForId response request.id with
        | none =>
            trivial
        | some entry =>
            show Program.Obeys _ (_ >>= _) _ _
            rw [Program.obeys_bind]
            refine (acceptChainId_obeys entry).weaken ?_
            intro result reached _
            cases result with
            | error error =>
                trivial
            | ok _ =>
                exact inductionHypothesis
      · simp only [asksChain, if_false]
        exact inductionHypothesis

/-- A payload that may be sent is, and the rest takes its response. -/
theorem sendPayload_obeys
    {endpointDeadline : Int}
    {next :
      List RpcEntry → RpcCall FailoverJsonRpcProvider.Attempt}
    (takes :
      ∀ response reached,
        (next response).Obeys (chainProtocol provider) reached
          fun _ _ => True)
    (validated :
      payload.asksMore = true → HasValidated provider endpoint past) :
    Program.Obeys (chainProtocol provider)
      (do
        let response ←
          requestEndpoint endpoint payload
            (endpointDeadline - (← perform .now))
        next response)
      past fun _ _ => True := by
  refine ⟨trivial, ?_⟩
  intro now
  show
    Program.Obeys _
      (requestEndpoint endpoint payload (endpointDeadline - now) >>= _)
      _ _
  rw [Program.obeys_bind]
  refine
    (requestEndpoint_obeys fun asksMore =>
      (validated asksMore).mono (List.subset_cons_self _ _)).weaken ?_
  intro result reached _
  cases result with
  | error error =>
      trivial
  | ok response =>
      exact takes response reached

/-- An attempt validates its endpoint before it asks for more. -/
theorem attempt_obeys
    (payload : RpcPayload)
    (endpointDeadline : Int) :
    (provider.attempt payload endpoint endpointDeadline).Obeys
      (chainProtocol provider) past fun _ _ => True := by
  have accepts :
      ∀ response reached,
        Program.Obeys (chainProtocol provider)
          (provider.acceptChainIds endpoint response payload.requests >>=
            fun _ =>
              pure (FailoverJsonRpcProvider.Attempt.answered response))
          reached fun _ _ => True := by
    intro response reached
    rw [Program.obeys_bind]
    refine (acceptChainIds_obeys response payload.requests).weaken ?_
    intro result _ _
    cases result with
    | error error =>
        trivial
    | ok _ =>
        trivial
  unfold FailoverJsonRpcProvider.attempt
  cases asksMore : payload.asksMore with
  | false =>
      refine sendPayload_obeys (fun response reached => ?_) ?_
      · cases firstError response with
        | some error =>
            trivial
        | none =>
            exact accepts response reached
      · intro impossible
        rw [asksMore] at impossible
        cases impossible
  | true =>
      show Program.Obeys _ (_ >>= _) _ _
      rw [Program.obeys_bind]
      refine (validateEndpoint_obeys endpointDeadline).weaken ?_
      intro result reached validated
      cases result with
      | error error =>
          trivial
      | ok _ =>
          refine
            sendPayload_obeys (fun response reached => ?_)
              fun _ => validated rfl
          cases firstError response with
          | some error =>
              trivial
          | none =>
              exact accepts response reached

/-- The end of a call sends nothing. -/
theorem finish_obeys (progress : FailoverJsonRpcProvider.Progress) :
    (FailoverJsonRpcProvider.finish progress).Obeys
      (chainProtocol provider) past fun _ _ => True := by
  refine ⟨trivial, ?_⟩
  intro _
  dsimp only
  cases progress.lastNullResponse with
  | some response =>
      trivial
  | none =>
      trivial

/-- The loop over the endpoints conforms. -/
theorem tryEndpoints_obeys
    (payload : RpcPayload)
    (deadline : Int)
    (endpoint : Nat)
    (configs : List RpcEndpointConfig)
    (progress : FailoverJsonRpcProvider.Progress) :
    (provider.tryEndpoints payload deadline endpoint configs
        progress).Obeys
      (chainProtocol provider) past fun _ _ => True := by
  induction configs generalizing endpoint progress past with
  | nil =>
      exact finish_obeys progress
  | cons config rest inductionHypothesis =>
      refine ⟨trivial, ?_⟩
      intro started
      refine ⟨trivial, ?_⟩
      intro now
      show Program.Obeys _ (ite _ _ _) _ _
      split
      · exact finish_obeys progress
      · show Program.Obeys _ (_ >>= _) _ _
        rw [Program.obeys_bind, Program.obeys_attempt]
        refine (attempt_obeys payload _).weaken ?_
        intro result reached _
        cases result with
        | error error =>
            show Program.Obeys _ (ite _ _ _) _ _
            split
            · exact ⟨trivial, fun _ => trivial⟩
            · exact inductionHypothesis _ _
        | ok ended =>
            cases ended with
            | refused response error =>
                show Program.Obeys _ (ite _ _ _) _ _
                split
                · exact ⟨trivial, fun _ => trivial⟩
                · exact inductionHypothesis _ _
            | answered response =>
                show Program.Obeys _ (ite _ _ _) _ _
                split
                · exact inductionHypothesis _ _
                · exact ⟨trivial, fun _ => trivial⟩

theorem send_obeys (payload : RpcPayload) :
    (provider.send payload).Obeys
      (chainProtocol provider) past fun _ _ => True := by
  refine ⟨trivial, ?_⟩
  intro now
  exact tryEndpoints_obeys payload _ _ _ _

/-- Every call of the provider conforms. -/
theorem ProviderCall.obeys (call : ProviderCall) :
    (call.run provider).Obeys
      (chainProtocol provider) past fun _ _ => True := by
  cases call with
  | send payload =>
      show Program.Obeys _ (provider.send payload >>= _) _ _
      rw [Program.obeys_bind]
      refine (send_obeys payload).weaken ?_
      intro result reached _
      cases result with
      | error error =>
          trivial
      | ok reply =>
          trivial
  | getNetwork =>
      show
        Program.Obeys _
          ((provider.send chainPayload >>= fun _ =>
              pure provider.expectedChainId) >>= _)
          _ _
      rw [Program.obeys_bind, Program.obeys_bind]
      refine (send_obeys chainPayload).weaken ?_
      intro result reached _
      cases result with
      | error error =>
          trivial
      | ok reply =>
          trivial

end Calls

/-! ## What holds in every run -/

section Runs

variable {provider : FailoverJsonRpcProvider}
  {calls : Nat → ProviderCall}
  {meets : ProviderRun → Entry rpc → Prop}
  {config : ProviderRun}

/-- A cached validation is for the expected chain, and stays cached. -/
theorem respond_keepsValidated
    {state : ProviderState}
    {outside : RpcOutside}
    {op : RpcOp}
    {past : List (Event rpc)}
    {endpoint : Nat}
    (permitted : chainProtocol provider past op)
    (validated :
      state.validatedChainId endpoint =
        some provider.expectedChainId) :
    (state.respond outside op).2.validatedChainId endpoint =
      some provider.expectedChainId := by
  cases op with
  | setValidatedChainId target chainId =>
      have expected : chainId = provider.expectedChainId := permitted
      subst expected
      by_cases same : endpoint = target
      · subst same
        exact ProviderState.validate_same _ _ _
      · exact (ProviderState.validate_other _ same _).trans validated
  | _ =>
      exact validated

/-- What a call has seen validated stays validated. -/
theorem validated_ofCall
    (reached :
      ReachableWhen providerSemantics meets
        (ProviderRun.initial provider calls) config)
    {thread : Nat}
    {program : RpcCall Unit}
    (running : config.threads thread = some program) :
    ∀ endpoint,
      HasValidated provider endpoint (ownPast thread config.history) →
      config.shared.validatedChainId endpoint =
        some provider.expectedChainId := by
  have conforming :
      ∀ thread,
        ((calls thread).run provider).Obeys (chainProtocol provider) []
          fun _ _ => True :=
    fun thread => (calls thread).obeys
  refine
    reached.ownFact
      (fun _ past shared =>
        ∀ endpoint,
          HasValidated provider endpoint past →
          shared.validatedChainId endpoint =
            some provider.expectedChainId)
      ?_ ?_ ?_ ?_ running
  · intro thread endpoint validated
    rcases validated with impossible | impossible
    all_goals cases impossible
  · intro thread owner past shared _ fact
    exact fact
  · intro before thread op rest choice answer next reached running
      answered fact endpoint validated
    have permitted := reached.permitted conforming running
    have same := Option.some.inj answered
    have isNext : (before.shared.respond choice op).2 = next :=
      congrArg Prod.snd same
    have keeps :
        before.shared.validatedChainId endpoint =
            some provider.expectedChainId →
          next.validatedChainId endpoint =
            some provider.expectedChainId := by
      rw [← isNext]
      exact respond_keepsValidated permitted
    rcases validated with read | written
    · rcases List.mem_cons.mp read with isHere | wasBefore
      · cases isHere
        have isCached :
            before.shared.validatedChainId endpoint =
              some provider.expectedChainId :=
          congrArg Prod.fst same
        exact keeps isCached
      · exact keeps (fact endpoint (Or.inl wasBefore))
    · rcases List.mem_cons.mp written with isHere | wasBefore
      · cases isHere
        rw [← isNext]
        exact ProviderState.validate_same _ _ _
      · exact keeps (fact endpoint (Or.inr wasBefore))
  · intro before thread owner op program rest choice answer next _
      reached _ running answered fact endpoint validated
    have permitted := reached.permitted conforming running
    have isNext : (before.shared.respond choice op).2 = next :=
      congrArg Prod.snd (Option.some.inj answered)
    rw [← isNext]
    exact respond_keepsValidated permitted (fact endpoint validated)

/-- Whatever is cached is the latest chain that the endpoint has answered. -/
theorem cached_isLatest
    (reached :
      ReachableWhen providerSemantics (KeepsChain provider)
        (ProviderRun.initial provider calls) config) :
    ∀ endpoint chainId,
      config.shared.validatedChainId endpoint = some chainId →
      chainId = provider.expectedChainId ∧
        latestChain endpoint config.history = some chainId := by
  have conforming :
      ∀ thread,
        ((calls thread).run provider).Obeys (chainProtocol provider) []
          fun _ _ => True :=
    fun thread => (calls thread).obeys
  refine
    reached.invariant
      (fun shared history =>
        ∀ endpoint chainId,
          shared.validatedChainId endpoint = some chainId →
          chainId = provider.expectedChainId ∧
            latestChain endpoint history = some chainId)
      ?_ ?_ ?_
  · intro endpoint chainId impossible
    cases impossible
  · intro shared history thread known
    exact known
  · intro before thread op rest choice answer next reached running
      answered keeps known endpoint chainId cached
    have permitted := reached.permitted conforming running
    have isNext : (before.shared.respond choice op).2 = next :=
      congrArg Prod.snd (Option.some.inj answered)
    rw [← isNext] at cached
    rw [latestChain_cons]
    have unchanged :
        before.shared.validatedChainId endpoint = some chainId →
          chainId = provider.expectedChainId ∧
            (chainAnswered? endpoint ⟨thread, op, answer⟩).or
                (latestChain endpoint before.history) =
              some chainId := by
      intro wasCached
      obtain ⟨expected, latest⟩ := known endpoint chainId wasCached
      refine ⟨expected, ?_⟩
      subst expected
      cases newest : chainAnswered? endpoint ⟨thread, op, answer⟩ with
      | none =>
          exact latest
      | some answered =>
          have same := (keeps endpoint).1 wasCached answered newest
          rw [same]
          rfl
    cases op with
    | setValidatedChainId target written =>
        have expected : written = provider.expectedChainId := permitted
        subst expected
        by_cases same : endpoint = target
        · subst same
          have isExpected :=
            (ProviderState.validate_same _ _ _).symm.trans cached
          cases isExpected
          exact ⟨rfl, (keeps endpoint).2 rfl⟩
        · exact
            unchanged
              ((ProviderState.validate_other _ same _).symm.trans cached)
    | _ =>
        exact unchanged cached

/--
In every run in which no endpoint answers another chain while it counts as
validated, whatever asks for more than the chain is sent only to endpoints
whose latest valid answer is the expected chain.
-/
theorem requests_reachExpectedChain
    (reached :
      ReachableWhen providerSemantics (KeepsChain provider)
        (ProviderRun.initial provider calls) config) :
    EachEntry (SentToExpected provider) config.history := by
  have conforming :
      ∀ thread,
        ((calls thread).run provider).Obeys (chainProtocol provider) []
          fun _ _ => True :=
    fun thread => (calls thread).obeys
  refine
    reached.invariant
      (fun _ history => EachEntry (SentToExpected provider) history)
      ?_ (fun _ each => each) ?_
  · trivial
  intro before thread op rest choice answer next reached running _ _ each
  refine ⟨?_, each⟩
  intro endpoint payload timeoutMs isSend asksMore
  have permitted := reached.permitted conforming running
  cases isSend
  have cached :=
    validated_ofCall reached running endpoint (permitted asksMore)
  exact (cached_isLatest reached endpoint _ cached).2

end Runs

/-! ## Schedules of an endpoint that changes its chain -/

/-- Check the condition of a run at the endpoint that an entry is about. -/
def keepsChain
    (provider : FailoverJsonRpcProvider)
    (before : ProviderRun) :
    Entry rpc → Bool
  | ⟨_, .receive endpoint payload, .ok body⟩ =>
      before.shared.validatedChainId endpoint !=
          some provider.expectedChainId ||
        (body.lastChainAnswer? payload).all (· == provider.expectedChainId)
  | ⟨_, .setValidatedChainId endpoint _, _⟩ =>
      latestChain endpoint before.history == some provider.expectedChainId
  | _ => true

theorem keepsChain_sound
    {provider : FailoverJsonRpcProvider}
    (before : ProviderRun)
    (entry : Entry rpc)
    (passes : keepsChain provider before entry = true) :
    KeepsChain provider before entry := by
  rcases entry with ⟨thread, op, answer⟩
  intro endpoint
  constructor
  · intro cached chainId answered
    cases op with
    | receive target payload =>
        cases answer with
        | error error =>
            simp [chainAnswered?] at answered
        | ok body =>
            simp only [chainAnswered?,
              Option.ite_none_right_eq_some] at answered
            obtain ⟨rfl, answered⟩ := answered
            simpa [keepsChain, cached, answered] using passes
    | _ =>
        simp [chainAnswered?] at answered
  · intro isWrite
    cases isWrite
    simpa [keepsChain] using passes

/-- A provider without a fallback. -/
def FailoverJsonRpcProvider.single : FailoverJsonRpcProvider where
  endpoints := [⟨"https://one", "primary"⟩]
  expectedChainId := 80002
  endpointTimeoutMs := 2500

/-- Two checks of the network, and then a signed transaction. -/
def networkThenWrite : Nat → ProviderCall
  | 0 | 1 => .getNetwork
  | _ => .send (.single ⟨1, "eth_sendRawTransaction", "[]"⟩)

/-- The endpoint answers a chain. -/
def answersChain (chainId : String) : RpcOutside where
  now := 0
  received :=
    .ok <| .single
      { id := some 0
        jsonrpc := some "2.0"
        result := some (.value chainId)
        error := none }

/-- A check finds the expected chain, and the transaction is sent. -/
def writtenAfterCheck : Option ProviderRun :=
  (ProviderRun.initial .single networkThenWrite).run? providerSemantics
    (keepsChain .single)
    (List.replicate 8 (0, answersChain "0x13882") ++
      List.replicate 6 (2, answersChain "0x13882"))

/-- A second check finds another chain, and the transaction is still sent. -/
def writtenAfterMismatch : Option ProviderRun :=
  (ProviderRun.initial .single networkThenWrite).run? providerSemantics
    (fun _ _ => true)
    (List.replicate 8 (0, answersChain "0x13882") ++
      List.replicate 6 (1, answersChain "0x1") ++
      List.replicate 6 (2, answersChain "0x1"))

/-- The chain that the newest request goes to, if it is no chain check. -/
def newestSentTo (history : List (Entry rpc)) : Option (Option Nat) :=
  match history with
  | ⟨_, .send endpoint payload _, _⟩ :: earlier =>
      if payload.asksMore then some (latestChain endpoint earlier)
      else none
  | _ => none

/-- A request that goes to another chain breaks the law. -/
theorem newestSentTo_expected
    {provider : FailoverJsonRpcProvider}
    {history : List (Entry rpc)}
    {chainId : Option Nat}
    (isNewest : newestSentTo history = some chainId)
    (each : EachEntry (SentToExpected provider) history) :
    chainId = some provider.expectedChainId := by
  unfold newestSentTo at isNewest
  split at isNewest
  · rename_i endpoint payload timeoutMs answer earlier
    split at isNewest
    · rename_i asksMore
      cases isNewest
      exact each.1 endpoint payload timeoutMs rfl asksMore
    · cases isNewest
  · cases isNewest

/-- A signed transaction is sent to an endpoint that has passed its check. -/
theorem writtenAfterCheck_sentToExpected :
    ∃ config,
      writtenAfterCheck = some config ∧
        newestSentTo config.history = some (some 80002) := by
  have isSent :
      (writtenAfterCheck.bind (newestSentTo ·.history)).isSome = true := by
    decide +kernel
  obtain ⟨chainId, isNewest⟩ := Option.isSome_iff_exists.mp isSent
  obtain ⟨config, isRun, isNewest⟩ := Option.bind_eq_some_iff.mp isNewest
  have each :=
    requests_reachExpectedChain
      (Config.run?_sound keepsChain_sound .start isRun)
  rw [newestSentTo_expected isNewest each] at isNewest
  exact ⟨config, isRun, isNewest⟩

/-- After a mismatch the validation is still trusted. -/
theorem mismatch_keepsValidation :
    ∃ config : ProviderRun,
      Reachable providerSemantics
          (ProviderRun.initial .single networkThenWrite) config ∧
        ¬ EachEntry (SentToExpected .single) config.history := by
  have isSent :
      writtenAfterMismatch.bind (newestSentTo ·.history) =
        some (some 1) := by
    decide +kernel
  obtain ⟨config, isRun, isNewest⟩ := Option.bind_eq_some_iff.mp isSent
  refine
    ⟨config, Config.run?_sound (fun _ _ _ => trivial) .start isRun, ?_⟩
  intro each
  have same := newestSentTo_expected isNewest each
  cases same

end Sparkz
