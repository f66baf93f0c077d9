import Sparkz.Text

namespace Sparkz

/-!
# JSON-RPC requests, responses and errors

What the provider reads of a response body and of a thrown error.  An error is
kept by what the diagnostics extract from it, since nothing else of it decides
whether a request may be sent to another endpoint.
-/

/-! ## Errors -/

/-- The safe fields of `extractRpcDiagnostic(error)` besides the failover. -/
structure RpcDiagnosticDetails where
  providerCode : Option String
  rpcCode : Option Int
  httpStatus : Option Nat
  traceId : Option String
  deriving Repr, DecidableEq

/-- One code of `collectErrorCodes(error)`. -/
structure ErrorCode where
  /-- The code itself, if it is a string. -/
  text : Option String
  /-- `Number(code)`, if that is a whole number. -/
  number : Option Int
  deriving Repr, DecidableEq

inductive EndpointOutcome where
  | success
  | failed
  | null
  deriving Repr, DecidableEq

/-- What became of one endpoint in one call. -/
structure RpcEndpointEvidence where
  label : String
  outcome : EndpointOutcome
  details : RpcDiagnosticDetails
  deriving Repr, DecidableEq

/-- What `attachRpcFailoverMetadata` attaches. -/
structure RpcFailoverMetadata where
  endpointLabel : Option String
  failover : List RpcEndpointEvidence
  deriving Repr, DecidableEq

/-- A thrown error, by what the provider reads of it. -/
structure RpcError where
  message : String
  /-- Its own `code`, if that is a string. -/
  code : Option String
  diagnostic : RpcDiagnosticDetails
  codes : List ErrorCode
  metadata : Option RpcFailoverMetadata
  deriving Repr, DecidableEq

namespace RpcDiagnosticDetails

/-- Nothing could be extracted. -/
def empty : RpcDiagnosticDetails := ⟨none, none, none, none⟩

end RpcDiagnosticDetails

namespace RpcError

/-- `new Error(message)`. -/
def ofMessage (message : String) : RpcError where
  message := message
  code := none
  diagnostic := .empty
  codes := []
  metadata := none

/-- `Object.assign(new Error(message), { code })`. -/
def ofCode (message code : String) : RpcError where
  message := message
  code := some code
  diagnostic := { RpcDiagnosticDetails.empty with providerCode := some code }
  codes := [⟨some code, none⟩]
  metadata := none

/-- `attachRpcFailoverMetadata(error, failover, endpointLabel)`. -/
def attachRpcFailoverMetadata
    (error : RpcError)
    (failover : List RpcEndpointEvidence)
    (endpointLabel : Option String) :
    RpcError :=
  if failover = [] then error
  else { error with metadata := some ⟨endpointLabel, failover⟩ }

end RpcError

/-- The transport codes that a read may be repeated after. -/
def transportCodes : List String :=
  ["NETWORK_ERROR", "TIMEOUT", "TIMEOUT_ERROR", "ETIMEDOUT", "ECONNRESET",
    "ECONNREFUSED", "ENETUNREACH"]

/-- The HTTP statuses that a read may be repeated after. -/
def transientHttpStatuses : List Nat :=
  [408, 425, 429, 500, 502, 503, 504]

/-- The RPC codes that a read may be repeated after. -/
def transientRpcCodes : List Int :=
  [19, 26, 30]

/-- `/server response 5\d\d/` somewhere in a text. -/
def includesServerResponse (text : String) : Bool :=
  let phrase := "server response 5".toList
  text.toList.tails.any fun rest =>
    phrase.isPrefixOf rest &&
      match rest.drop phrase.length with
      | tens :: ones :: _ => tens.isDigit && ones.isDigit
      | _ => false

/-- The expression on the message of an error. -/
def isTransientMessage (message : String) : Bool :=
  let lower := lowerText message
  includesText lower "unknown block" ||
    includesText lower "request timeout" ||
    includesText lower "temporary internal error" ||
    includesText lower "time out" || includesText lower "timed out" ||
    includesText lower "network error" ||
    includesServerResponse lower ||
    includesText lower "internal server error"

/-- `isTransientRpcReadError(error)`. -/
def isTransientRpcReadError (error : RpcError) : Bool :=
  let diagnostic := error.diagnostic
  let texts := error.codes.filterMap fun code => code.text.map upperText
  let numbers := error.codes.filterMap (·.number)
  diagnostic.rpcCode.any (transientRpcCodes.contains ·) ||
    diagnostic.httpStatus.any (transientHttpStatuses.contains ·) ||
    diagnostic.providerCode.any
      (fun code => transportCodes.contains (upperText code)) ||
    (diagnostic.providerCode.map upperText == some "SERVER_ERROR" &&
      diagnostic.httpStatus.isNone) ||
    numbers.any (transientRpcCodes.contains ·) ||
    texts.any (transportCodes.contains ·) ||
    (texts.contains "SERVER_ERROR" && diagnostic.httpStatus.isNone) ||
    numbers.any (fun number =>
      transientHttpStatuses.any fun status => number == (status : Int)) ||
    isTransientMessage error.message

/-! ## Requests -/

/-- One request; its `jsonrpc` is always `2.0`. -/
structure JsonRpcPayload where
  id : Int
  method : String
  params : String
  deriving Repr, DecidableEq

/-- `JsonRpcPayload | Array<JsonRpcPayload>`. -/
inductive RpcPayload where
  | single (request : JsonRpcPayload)
  | batch (requests : List JsonRpcPayload)
  deriving Repr, DecidableEq

/-- `Array.isArray(payload) ? payload : [payload]`. -/
def RpcPayload.requests : RpcPayload → List JsonRpcPayload
  | .single request => [request]
  | .batch requests => requests

/-- `isNullPropagationMethod(method)`. -/
def isNullPropagationMethod (method : String) : Bool :=
  method == "eth_getTransactionByHash" ||
    method == "eth_getTransactionReceipt"

/-- `isWriteMethod(method)`. -/
def isWriteMethod (method : String) : Bool :=
  method == "eth_sendRawTransaction" || method == "eth_sendTransaction" ||
    method == "personal_sendTransaction"

namespace RpcPayload

/-- Whether a payload asks for more than the chain. -/
def asksMore (payload : RpcPayload) : Bool :=
  payload.requests.any fun request => request.method != "eth_chainId"

/-- Whether a payload writes. -/
def writes (payload : RpcPayload) : Bool :=
  payload.requests.any fun request => isWriteMethod request.method

/-- `allowWriteFailover`: every write is a raw, already signed transaction. -/
def allowWriteFailover (payload : RpcPayload) : Bool :=
  payload.requests.all fun request =>
    !isWriteMethod request.method ||
      request.method == "eth_sendRawTransaction"

end RpcPayload

/-! ## Responses -/

/-- The `result` of an entry. -/
inductive RpcResultValue where
  | null
  /-- Anything else, with `String(result)`. -/
  | value (text : String)
  deriving Repr, DecidableEq

/-- The `error` of an entry. -/
inductive RpcErrorValue where
  /-- Not an object with a numeric `code`. -/
  | invalid
  /-- An envelope, with the error that `responseError` makes of it. -/
  | envelope (error : RpcError)
  deriving Repr, DecidableEq

/-- One element of a body; one that is no object has none of the fields. -/
structure RpcEntry where
  /-- Its `id`, if that is a number. -/
  id : Option Int
  jsonrpc : Option String
  result : Option RpcResultValue
  error : Option RpcErrorValue
  deriving Repr, DecidableEq

/-- A response body. -/
inductive RpcBody where
  | invalidJson
  | single (entry : RpcEntry)
  | batch (entries : List RpcEntry)
  deriving Repr, DecidableEq

/-- `responseForId(response, id)`. -/
def responseForId (response : List RpcEntry) (id : Int) : Option RpcEntry :=
  response.find? fun entry => entry.id == some id

/-- `malformedRpcResponse(reason)`. -/
def malformedRpcResponse (reason : String) : RpcError :=
  .ofCode ("Malformed JSON-RPC response: " ++ reason)
    "RPC_MALFORMED_RESPONSE"

/-- The loop of `validateRpcResponse` over the requests. -/
def checkEntries (response : List RpcEntry) :
    List JsonRpcPayload → (seenIds : List Int) → Except RpcError Unit
  | [], _ => .ok ()
  | request :: rest, seenIds =>
      match responseForId response request.id with
      | none =>
          .error (malformedRpcResponse "response id does not match request")
      | some entry =>
          if entry.jsonrpc ≠ some "2.0" then
            .error (malformedRpcResponse "missing jsonrpc 2.0 envelope")
          else if seenIds.contains request.id then
            .error (malformedRpcResponse "duplicate response id")
          else if entry.result.isSome = entry.error.isSome then
            .error
              (malformedRpcResponse
                "response must contain exactly one result or error")
          else if entry.error = some .invalid then
            .error (malformedRpcResponse "RPC error envelope is invalid")
          else
            checkEntries response rest (request.id :: seenIds)

/-- `validateRpcResponse(body, payload)`, after `response.bodyJson`. -/
def validateRpcResponse (body : RpcBody) (payload : RpcPayload) :
    Except RpcError (List RpcEntry) :=
  match body with
  | .invalidJson =>
      .error (malformedRpcResponse "response body is not valid JSON")
  | .single entry => validate [entry]
  | .batch entries => validate entries
where
  validate (response : List RpcEntry) : Except RpcError (List RpcEntry) :=
    if response.length ≠ payload.requests.length ∨ response.length = 0 then
      .error
        (malformedRpcResponse "response count does not match request")
    else
      (checkEntries response payload.requests []).map fun _ => response

/-! ## Chain ids -/

/-- The value of a digit in bases up to sixteen. -/
def digitValue (character : Char) : Nat :=
  if character.isDigit then character.toNat - '0'.toNat
  else character.toLower.toNat - 'a'.toNat + 10

/-- A non-empty text of digits below a base. -/
def naturalOfDigits (base : Nat) (characters : List Char) : Option Nat :=
  if characters ≠ [] ∧
      characters.all fun character =>
        (character.isDigit || character.isAlpha) &&
          digitValue character < base then
    some <| characters.foldl
      (fun total character => base * total + digitValue character) 0
  else
    none

/-- `BigInt(text)`; nothing when it throws. -/
def bigIntOfText (text : String) : Option Int :=
  match (trimText text).toList with
  | [] => some 0
  | '0' :: 'x' :: digits | '0' :: 'X' :: digits =>
      (naturalOfDigits 16 digits).map Int.ofNat
  | '0' :: 'o' :: digits | '0' :: 'O' :: digits =>
      (naturalOfDigits 8 digits).map Int.ofNat
  | '0' :: 'b' :: digits | '0' :: 'B' :: digits =>
      (naturalOfDigits 2 digits).map Int.ofNat
  | '-' :: digits => (naturalOfDigits 10 digits).map fun value => -value
  | '+' :: digits => (naturalOfDigits 10 digits).map Int.ofNat
  | digits => (naturalOfDigits 10 digits).map Int.ofNat

/-- `String(response.result)`. -/
def RpcEntry.resultText (entry : RpcEntry) : String :=
  match entry.result with
  | none => "undefined"
  | some .null => "null"
  | some (.value text) => text

/-- The chain id that an entry without an error answers, if it is valid. -/
def RpcEntry.chainId? (entry : RpcEntry) : Option Nat :=
  match bigIntOfText entry.resultText with
  | some (.ofNat chainId) =>
      if chainId < 2 ^ 53 then some chainId else none
  | _ => none

/-- `chainMismatchError(actual, expected)`. -/
def chainMismatchError (actual expected : Nat) : RpcError :=
  .ofCode
    ("RPC endpoint chain ID " ++ toString actual ++
      " differs from configured chain " ++ toString expected)
    "CHAIN_ID_MISMATCH"

/-- `responseError(response)`; its own `code` is a number. -/
def responseError : RpcErrorValue → RpcError
  | .envelope error => { error with code := none }
  | .invalid => .ofMessage "RPC request failed"

/-- `chainIdFromResult(response, expected)`. -/
def chainIdFromResult (response : RpcEntry) (expected : Nat) :
    Except RpcError Nat :=
  match response.error with
  | some error => .error (responseError error)
  | none =>
      match response.chainId? with
      | none => .error (.ofMessage "RPC_CHAIN_ID_INVALID")
      | some chainId =>
          if chainId ≠ expected then
            .error (chainMismatchError chainId expected)
          else
            .ok chainId

end Sparkz
