import Sparkz.InterleavingRun
import Sparkz.RpcResponses

namespace Sparkz

open Interleaving

/-!
# Failover between RPC endpoints

The provider sends one payload to one endpoint at a time.  A call reads the
clock, sends requests and receives their answers, and remembers which
endpoints have shown the expected chain.  Other calls of the same provider may
run between any two of these operations.
-/

/-! ## Operations -/

/-- One operation of a call; an endpoint is its place in the list. -/
inductive RpcOp where
  /-- `Date.now()`. -/
  | now
  /-- `endpoint.validatedChainId`. -/
  | validatedChainId (endpoint : Nat)
  /-- `endpoint.validatedChainId = chainId`. -/
  | setValidatedChainId (endpoint chainId : Nat)
  /-- The request leaves, with its timeout. -/
  | send (endpoint : Nat) (payload : RpcPayload) (timeoutMs : Int)
  /-- Its body arrives, or the transport fails. -/
  | receive (endpoint : Nat) (payload : RpcPayload)
  /-- `this.lastFailoverEvidence = evidence`. -/
  | setLastFailoverEvidence (evidence : List RpcEndpointEvidence)
  deriving DecidableEq

/-- What an operation is answered with. -/
abbrev RpcOp.Answer : RpcOp → Type
  | .now => Int
  | .validatedChainId _ => Option Nat
  | .receive _ _ => Except RpcError RpcBody
  | .setValidatedChainId _ _ | .send _ _ _
  | .setLastFailoverEvidence _ => Unit

/-- The operations of the provider. -/
abbrev rpc : Signature where
  Op := RpcOp
  Answer := RpcOp.Answer

/-- A call of the provider. -/
abbrev RpcCall (α : Type) := Program rpc RpcError α

/-- Issue one operation of the provider. -/
def perform (op : RpcOp) : RpcCall op.Answer :=
  Program.call (S := rpc) op

/-! ## The provider -/

structure RpcEndpointConfig where
  url : String
  label : String
  deriving Repr, DecidableEq

/-- What the constructor of `FailoverJsonRpcProvider` fixes. -/
structure FailoverJsonRpcProvider where
  endpoints : List RpcEndpointConfig
  expectedChainId : Nat
  endpointTimeoutMs : Int
  deriving Repr, DecidableEq

/-- A successful answer, with the failover that led to it. -/
structure RpcReply where
  response : List RpcEntry
  metadata : Option RpcFailoverMetadata
  deriving Repr, DecidableEq

/-- `endpointEvidence(label, outcome, error)`. -/
def endpointEvidence
    (label : String)
    (outcome : EndpointOutcome)
    (error : Option RpcError) :
    RpcEndpointEvidence where
  label := label
  outcome := outcome
  details := (error.map (·.diagnostic)).getD .empty

/-- The first error of a response. -/
def firstError : List RpcEntry → Option RpcErrorValue
  | [] => none
  | entry :: rest => entry.error.or (firstError rest)

/-- Attach the failover to the first error of a response. -/
def attachToFirstError
    (attach : RpcError → RpcError) :
    List RpcEntry → List RpcEntry
  | [] => []
  | entry :: rest =>
      match entry.error with
      | some (.envelope error) =>
          { entry with error := some (.envelope (attach error)) } :: rest
      | some .invalid => entry :: rest
      | none => entry :: attachToFirstError attach rest

/-- Whether a response is the null answer to one transaction read. -/
def isNullResult (payload : RpcPayload) (response : List RpcEntry) : Bool :=
  match payload.requests with
  | [request] =>
      isNullPropagationMethod request.method &&
        ((responseForId response request.id).bind (·.result) ==
          some .null)
  | _ => false

/-- `retryable`, in the `catch` block of `_send`. -/
def isRetryable (error : RpcError) : Bool :=
  isTransientRpcReadError error ||
    error.code == some "CHAIN_ID_MISMATCH" ||
    error.code == some "RPC_MALFORMED_RESPONSE"

/-- `{ id: 0, method: 'eth_chainId', params: [], jsonrpc: '2.0' }`. -/
def chainPayload : RpcPayload :=
  .single { id := 0, method := "eth_chainId", params := "[]" }

/-- `requestEndpoint(endpoint, payload, timeoutMs)`. -/
def requestEndpoint
    (endpoint : Nat)
    (payload : RpcPayload)
    (timeoutMs : Int) :
    RpcCall (List RpcEntry) := do
  perform (.send endpoint payload (max 1 timeoutMs))
  match ← perform (.receive endpoint payload) with
  | .error error => .fail error
  | .ok body => Program.ofExcept (validateRpcResponse body payload)

namespace FailoverJsonRpcProvider

variable (provider : FailoverJsonRpcProvider)

/-- Remember the chain that an endpoint has answered, if it is expected. -/
def acceptChainId (endpoint : Nat) (entry : RpcEntry) : RpcCall Unit := do
  let chainId ←
    Program.ofExcept (chainIdFromResult entry provider.expectedChainId)
  perform (.setValidatedChainId endpoint chainId)

/-- `validateEndpoint(endpoint, deadline)`. -/
def validateEndpoint (endpoint : Nat) (deadline : Int) : RpcCall Unit := do
  if (← perform (.validatedChainId endpoint)) =
      some provider.expectedChainId then
    return ()
  else
    let remaining := deadline - (← perform .now)
    if remaining ≤ 0 then
      .fail (.ofCode "RPC_FAILOVER_TIMEOUT" "TIMEOUT")
    else
      let response ← requestEndpoint endpoint chainPayload remaining
      match responseForId response 0 with
      | none => .fail (.ofMessage "RPC_CHAIN_ID_RESPONSE_MISSING")
      | some entry => provider.acceptChainId endpoint entry

/-- The check of every `eth_chainId` in an answered payload. -/
def acceptChainIds (endpoint : Nat) (response : List RpcEntry) :
    List JsonRpcPayload → RpcCall Unit
  | [] => pure ()
  | request :: rest => do
      if request.method = "eth_chainId" then
        match responseForId response request.id with
        | none => .fail (.ofMessage "RPC_CHAIN_ID_RESPONSE_MISSING")
        | some entry => provider.acceptChainId endpoint entry
      acceptChainIds endpoint response rest

/-- How the `try` block of `_send` ends when it does not throw. -/
inductive Attempt where
  /-- The response carries an error. -/
  | refused (response : List RpcEntry) (error : RpcError)
  | answered (response : List RpcEntry)
  deriving DecidableEq

/-- The requests of the `try` block of `_send`. -/
def attempt
    (payload : RpcPayload)
    (endpoint : Nat)
    (endpointDeadline : Int) :
    RpcCall Attempt := do
  if payload.asksMore then
    provider.validateEndpoint endpoint endpointDeadline
  let response ←
    requestEndpoint endpoint payload
      (endpointDeadline - (← perform .now))
  match firstError response with
  | some error => return .refused response (responseError error)
  | none =>
      provider.acceptChainIds endpoint response payload.requests
      return .answered response

/-- What `_send` has gathered so far. -/
structure Progress where
  evidence : List RpcEndpointEvidence
  lastError : Option RpcError
  lastNullResponse : Option (List RpcEntry)
  deriving DecidableEq

/-- The end of `_send`, when no endpoint has settled the call. -/
def finish (progress : Progress) : RpcCall RpcReply := do
  perform (.setLastFailoverEvidence progress.evidence)
  match progress.lastNullResponse with
  | some response =>
      return {
        response := response
        metadata :=
          if progress.evidence = [] then none
          else some ⟨none, progress.evidence⟩ }
  | none =>
      .fail <|
        (progress.lastError.getD
          (.ofCode "RPC_FAILOVER_UNAVAILABLE"
            "NETWORK_ERROR")).attachRpcFailoverMetadata
          progress.evidence none

/-- The loop of `_send` over the endpoints. -/
def tryEndpoints
    (payload : RpcPayload)
    (deadline : Int) :
    (endpoint : Nat) →
    List RpcEndpointConfig →
    Progress →
    RpcCall RpcReply
  | _, [], progress => finish progress
  | endpoint, config :: rest, progress => do
      let endpointDeadline :=
        min deadline
          ((← perform .now) + provider.endpointTimeoutMs)
      if endpointDeadline ≤ (← perform .now) then
        finish progress
      else
        match ← (provider.attempt payload endpoint
            endpointDeadline).attempt with
        | .error error =>
            let evidence :=
              progress.evidence ++
                [endpointEvidence config.label .failed (some error)]
            if !isRetryable error ||
                (!payload.allowWriteFailover && payload.writes) then
              perform (.setLastFailoverEvidence evidence)
              .fail
                (error.attachRpcFailoverMetadata evidence config.label)
            else
              tryEndpoints payload deadline (endpoint + 1) rest
                { progress with
                  evidence := evidence
                  lastError := some error }
        | .ok (.refused response error) =>
            let evidence :=
              progress.evidence ++
                [endpointEvidence config.label .failed (some error)]
            if !isTransientRpcReadError error ||
                (!payload.allowWriteFailover && payload.writes) then
              perform (.setLastFailoverEvidence evidence)
              return {
                response :=
                  attachToFirstError
                    (·.attachRpcFailoverMetadata evidence config.label)
                    response
                metadata := none }
            else
              tryEndpoints payload deadline (endpoint + 1) rest
                { progress with
                  evidence := evidence
                  lastError := some error }
        | .ok (.answered response) =>
            -- Only the last endpoint is followed by no other.
            if isNullResult payload response ∧ rest ≠ [] then
              tryEndpoints payload deadline (endpoint + 1) rest
                { progress with
                  evidence :=
                    progress.evidence ++
                      [endpointEvidence config.label .null none]
                  lastNullResponse := some response }
            else
              let evidence :=
                progress.evidence ++
                  [endpointEvidence config.label .success none]
              perform <| .setLastFailoverEvidence <|
                if 1 < evidence.length ∨
                    evidence.any (·.outcome != .success) then
                  evidence
                else []
              return { response := response, metadata := none }

/-- `_send(payload)`. -/
def send (payload : RpcPayload) : RpcCall RpcReply := do
  let deadline :=
    (← perform .now) +
      provider.endpointTimeoutMs * (provider.endpoints.length : Int)
  provider.tryEndpoints payload deadline 0 provider.endpoints
    { evidence := [], lastError := none, lastNullResponse := none }

/-- `getNetwork()`; the network itself is pinned. -/
def getNetwork : RpcCall Nat := do
  let _ ← provider.send chainPayload
  return provider.expectedChainId

end FailoverJsonRpcProvider

end Sparkz
