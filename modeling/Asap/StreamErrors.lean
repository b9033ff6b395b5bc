import Asap.SseStream

-- What the server answers when it rejects a request to `/asap/stream`, and what the two stream
-- consumers make of that answer.
namespace Asap.StreamErrors
open PythonValue SseStream

def parseError : Int := -32700
def invalidRequest : Int := -32600
def methodNotFound : Int := -32601
def invalidParams : Int := -32602
def internalError : Int := -32603
def asapMethod : String := "asap.send"

def errorMessages (code : Int) : String :=
  if code = parseError then "Parse error"
  else if code = invalidRequest then "Invalid request"
  else if code = methodNotFound then "Method not found"
  else if code = invalidParams then "Invalid params"
  else if code = internalError then "Internal error"
  else if code = -32000 then "ASAP protocol version incompatible"
  else "Unknown error"

-- The response of a rejected request: an HTTPException as it is, or a JSON-RPC error.
inductive Rejection where
  | http (status : Nat) (detail : String)
  | jsonRpc (code : Int) (message : String) (data : List (Key × Value)) (id : Value)

def Rejection.status : Rejection → Nat
  | .http status _ => status
  | .jsonRpc _ _ _ _ => 200

def Rejection.content : Rejection → Value
  | .http _ detail => .dict [(.str "detail",.str detail)]
  | .jsonRpc code message data id => .dict [(.str "jsonrpc",.str "2.0"),
      (.str "error",.dict [(.str "code",.int code),(.str "message",.str message),(.str "data",.dict data)]),(.str "id",id)]

-- An exception that no branch of the preparation expects. Its texts are taken to hold no lone surrogate.
structure Crash where
  text : String
  typeName : String
  traceback : String

inductive Stop where
  | rejected (rejection : Rejection)
  | crashed (crash : Crash)

structure AsapError where
  code : String
  rpcCode : Int
  message : String
  details : List (Key × Value)
  retryAfterMs : Option Int := none
  alternativeAgents : Option (List String) := none
  fallbackAction : Option String := none
  recoverable : Bool := false

-- `jsonrpc_error_data_for_asap_exception` with the challenge header taken out of the details.
def AsapError.data (error : AsapError) : List (Key × Value) :=
  ([(.str "code",.str error.code),(.str "rpc_code",.int error.rpcCode),(.str "message",.str error.message),
    (.str "details",.dict (error.details.filter (fun item => decide (item.1 ≠ .str "_www_authenticate_asap"))))] : List (Key × Value)) ++
    (error.retryAfterMs.map (fun delay => (Key.str "retry_after_ms",Value.int delay))).toList ++
    (error.alternativeAgents.map (fun agents => (Key.str "alternative_agents",Value.list (agents.map Value.str)))).toList ++
    (error.fallbackAction.map (fun action => (Key.str "fallback_action",Value.str action))).toList ++
    ([(.str "recoverable",.bool error.recoverable),(.str "asap_taxonomy_code",.str error.code)] : List (Key × Value))

-- The challenge, when it is a text, becomes a header, and headers are written in latin-1.
def AsapError.headerSafe (error : AsapError) : Bool :=
  match lookupItem "_www_authenticate_asap" error.details with
  | some (.str challenge) => challenge.toList.all (fun c => decide (c.toNat < 256))
  | _ => true

structure RpcRequest where
  method : String
  params : Value
  id : Value

-- `content-encoding` in lower case and stripped, and the body in the chunks it arrives in.
structure Request where
  contentEncoding : String
  body : List (List UInt8)
  authorization : Option String := none
  accept : String := ""

inductive DecompressError where
  | value (text : String)
  | io (text : String)
  | other (crash : Crash)

-- What `json.loads` raises: a JSONDecodeError, another ValueError (an integer of too many digits), or
-- what is no ValueError (an array nested too deep).
inductive LoadsError where
  | json (text : String)
  | value (text : String)
  | other (crash : Crash)

-- What the preparation calls: pydantic's models, the middleware of the application, the checks of
-- timestamp and nonce, and the registry. `encodable` is false of a str that holds a lone surrogate,
-- `safeErrors` is `json.loads(exc.json())`, and `describe` gives the text and the traceback of an
-- exception of a class.
structure Server (Envelope : Type) where
  maxRequestSize : Nat
  supportedEncodings : List String
  decompress : List UInt8 → String → Except DecompressError (List UInt8)
  decodeUtf8 : List UInt8 → Except String String
  loads : String → Except LoadsError Value
  encodable : String → Bool
  ascii : ∀ text : String, text.toList.all (fun c => decide (c.toNat < 128)) = true → encodable text = true
  issueText : String → String
  issueContext : String → List (Key × Value)
  safeErrors : List Value → Except Crash (List Value)
  describe : String → Value → String × String
  verifyAuthentication : Option (Option String → Except (Crash ⊕ Nat × String) (Option String))
  verifySenderMatchesAuth : Option String → String → Except (Crash ⊕ Nat × String) Unit
  envelope : List (Key × Value) → Except (Crash ⊕ List Value) Envelope
  sender : Envelope → String
  payloadType : Envelope → String
  validateTimestamp : Envelope → Except (Crash ⊕ AsapError) Unit
  validateNonce : Envelope → Except (Crash ⊕ AsapError) Unit
  hasStreamingHandler : String → Bool
  debug : Bool

-- A field of type `str | int`: a bool is an int to the model, and so is a float without a fraction.
def strOrInt (encodable : String → Bool) : Value → Option Value
  | .str text => if encodable text then some (.str text) else none
  | .int value => some (.int value)
  | .bool value => some (.int (if value then 1 else 0))
  | .float value _ => if value.den = 1 ∧ value.num.natAbs < 9223372036854775808 then some (.int value.num) else none
  | _ => none

-- `str | int | None`
def optionalStrOrInt (encodable : String → Bool) : Value → Option Value
  | .none => some .none
  | value => strOrInt encodable value

section Prepare
variable {Envelope : Type} (server : Server Envelope)

def crashOf (typeName : String) (value : Value) : Crash :=
  ⟨(server.describe typeName value).1,typeName,(server.describe typeName value).2⟩

def writableKey : Key → Bool
  | .str text => server.encodable text
  | .infinity _ => false
  | _ => true

-- What a JSONResponse can be rendered from: no NaN and no infinity, and text that UTF-8 can hold.
mutual
def writable : Value → Bool
  | .none | .bool _ | .int _ | .float _ _ => true
  | .nonFinite _ | .other _ => false
  | .str text => server.encodable text
  | .list items => writableList items
  | .dict items => writableItems items
def writableList : List Value → Bool
  | [] => true
  | item :: rest => writable item && writableList rest
def writableItems : List (Key × Value) → Bool
  | [] => true
  | (key,value) :: rest => writableKey server key && writable value && writableItems rest
end

def requestId : Value → Option Value := strOrInt server.encodable

def responseId : Value → Option Value := optionalStrOrInt server.encodable

def render (rejection : Rejection) : Stop :=
  if writable server rejection.content then .rejected rejection else .crashed (crashOf server "ValueError" rejection.content)

-- The model of the response validates the id it is given, and the response its content.
def buildErrorResponse (code : Int) (data : List (Key × Value)) (given : Value) : Stop :=
  match responseId server given with
  | none => .crashed (crashOf server "ValidationError" given)
  | some id => render server (.jsonRpc code (errorMessages code) data id)

def buildJsonrpcErrorForAsapException (error : AsapError) (given : Value) (extra : String) : Stop :=
  match responseId server given with
  | none => .crashed (crashOf server "ValidationError" given)
  | some id =>
    if error.headerSafe then render server (.jsonRpc error.rpcCode error.message (error.data ++ [(.str "error",.str extra)]) id)
    else .crashed (crashOf server "UnicodeEncodeError" (.dict error.details))

def sizeExceeded (what : String) (size : Nat) : Stop :=
  .rejected (.http 413 (what ++ " size (" ++ toString size ++ " bytes) exceeds maximum (" ++ toString server.maxRequestSize ++ " bytes)"))

def readBody : List UInt8 → List (List UInt8) → Except Stop (List UInt8)
  | bytes,[] => .ok bytes
  | bytes,chunk :: rest =>
    if server.maxRequestSize < (bytes ++ chunk).length then .error (sizeExceeded server "Request" (bytes ++ chunk).length)
    else readBody (bytes ++ chunk) rest

def decompressBody (encoding : String) (bytes : List UInt8) : Except Stop (List UInt8) :=
  if encoding = "" ∨ encoding = "identity" then .ok bytes
  else match server.decompress bytes encoding with
    | .error (.value text) => .error (.rejected (.http 400 ("Failed to decompress request: " ++ text)))
    | .error (.io text) => .error (.rejected (.http 400 ("Invalid compressed data: " ++ text)))
    | .error (.other crash) => .error (.crashed crash)
    | .ok plain =>
      if server.maxRequestSize < plain.length then .error (sizeExceeded server "Decompressed request" plain.length) else .ok plain

-- The inner error is the ValueError of an unreadable body.
def parseJsonBody (request : Request) : Except Stop (Except String Value) :=
  if request.contentEncoding ≠ "" ∧ request.contentEncoding ∉ server.supportedEncodings ++ ["identity",""] then
    .error (.rejected (.http 415 ("Unsupported Content-Encoding: " ++ request.contentEncoding ++ ". Supported: " ++
      String.intercalate ", " server.supportedEncodings)))
  else do
    let bytes ← readBody server [] request.body
    let bytes ← decompressBody server request.contentEncoding bytes
    match server.decodeUtf8 bytes with
    | .error text => .ok (.error ("Invalid UTF-8 encoding: " ++ text))
    | .ok text =>
      match server.loads text with
      | .error (.json text) => .ok (.error ("Invalid JSON: " ++ text))
      | .error (.value text) => .ok (.error text)
      | .error (.other crash) => .error (.crashed crash)
      | .ok body => .ok (.ok body)

-- One error of a validation, with the input it is about.
def issue (type : String) (loc : List String) (input : Value) : Value :=
  .dict (([(.str "type",.str type),(.str "loc",.list (loc.map .str)),(.str "msg",.str (server.issueText type)),(.str "input",input)] :
    List (Key × Value)) ++
    server.issueContext type)

def requiredIssues (body : List (Key × Value)) (name : String) (check : Value → List Value) : List Value :=
  match lookupItem name body with
  | none => [issue server "missing" [name] (.dict body)]
  | some value => check value

def jsonrpcIssues (body : List (Key × Value)) : List Value :=
  match lookupItem "jsonrpc" body with
  | none | some (.str "2.0") => []
  | some value => [issue server "literal_error" ["jsonrpc"] value]

def stringIssues (loc : List String) : Value → List Value
  | .str text => if server.encodable text then [] else [issue server "string_unicode" loc (.str text)]
  | value => [issue server "string_type" loc value]

def paramsIssues : Value → List Value
  | .dict params => (params.filter (fun item => !writableKey server item.1)).map
      (fun item => issue server "string_unicode" ["params",item.1.text,"[key]"] (.str item.1.text))
  | value => [issue server "dict_type" ["params"] value]

def intIssue : Value → String
  | .str _ => "int_parsing"
  | .float value _ => if value.den = 1 then "int_parsing_size" else "int_from_float"
  | .nonFinite _ => "finite_number"
  | _ => "int_type"

-- No member of the union takes the id: one error for each of them.
def idIssues (value : Value) : List Value :=
  if (requestId server value).isSome then []
  else stringIssues server ["id","str"] value ++ [issue server (intIssue value) ["id","int"] value]

def extraIssues (body : List (Key × Value)) : List Value :=
  (body.filter (fun item => decide (item.1.text ∉ ["jsonrpc","method","params","id"]))).map (fun item =>
    if writableKey server item.1 then issue server "extra_forbidden" [item.1.text] item.2
    else issue server "invalid_key" [item.1.text] (.str item.1.text))

def requestIssues (body : List (Key × Value)) : List Value :=
  jsonrpcIssues server body ++ requiredIssues server body "method" (stringIssues server ["method"]) ++
    requiredIssues server body "params" (paramsIssues server) ++ requiredIssues server body "id" (idIssues server) ++ extraIssues server body

def jsonRpcRequest (body : List (Key × Value)) : Except (List Value) RpcRequest :=
  match requestIssues server body,lookupItem "method" body,lookupItem "params" body,(lookupItem "id" body).bind (requestId server) with
  | [],some (.str method),some (.dict params),some id => .ok ⟨method,.dict params,id⟩
  | issues,_,_,_ => .error issues

-- A validation error that says the params are no dictionary.
def paramsNoDict (error : Value) : Bool :=
  match error.get "loc",error.get "type" with
  | some (some (.list [.str "params"])),some (some (.str "dict_type")) => true
  | _,_ => false

def validateJsonrpcRequest (body : List (Key × Value)) : Except Stop RpcRequest :=
  match jsonRpcRequest server body with
  | .error issues =>
    match server.safeErrors issues with
    | .error crash => .error (.crashed crash)
    | .ok errors =>
      let (code,message) := if errors.any paramsNoDict then (invalidParams,"JSON-RPC 'params' must be an object")
        else (invalidRequest,"Invalid JSON-RPC structure")
      .error (buildErrorResponse server code [(.str "error",.str message),(.str "validation_errors",.list errors)]
        ((lookupItem "id" body).getD .none))
  | .ok rpcRequest =>
    if rpcRequest.method ≠ asapMethod then
      .error (buildErrorResponse server methodNotFound [(.str "method",.str rpcRequest.method)] rpcRequest.id)
    else .ok rpcRequest

def typeName : Value → String
  | .none => "NoneType"
  | .bool _ => "bool"
  | .int _ => "int"
  | .float _ _ | .nonFinite _ => "float"
  | .str _ => "str"
  | .list _ => "list"
  | .dict _ => "dict"
  | .other text => text

def validateBody : Except String Value → Except Stop RpcRequest
  | .error text => .error (buildErrorResponse server parseError [(.str "error",.str text)] .none)
  | .ok (.dict body) => validateJsonrpcRequest server body
  | .ok body => .error (buildErrorResponse server invalidRequest
      [(.str "error",.str "JSON-RPC request must be an object"),(.str "received_type",.str (typeName body))] .none)

def parseAndValidateRequest (request : Request) : Except Stop RpcRequest := parseJsonBody server request >>= validateBody server

def authenticateRequest (request : Request) (rpcRequest : RpcRequest) : Except Stop (Option String) :=
  match server.verifyAuthentication with
  | none => .ok none
  | some verify =>
    match verify request.authorization with
    | .ok agent => .ok agent
    | .error (.inl crash) => .error (.crashed crash)
    | .error (.inr (status,detail)) => .error (buildErrorResponse server (if status = 401 then invalidRequest else invalidParams)
        [(.str "error",.str detail),(.str "status_code",.int status)] rpcRequest.id)

-- `Envelope(**data)`. A payload is parsed before the type of `payload_type` is checked, by way of its
-- `lower`, which only a str has.
def parseEnvelope (data : List (Key × Value)) : Except (Crash ⊕ List Value) Envelope :=
  match lookupItem "payload" data,lookupItem "payload_type" data with
  | some (.dict _),some (.str _) | some (.dict _),none => server.envelope data
  | some (.dict _),some payloadType =>
    if payloadType.truthy then .error (.inl (crashOf server "AttributeError" payloadType)) else server.envelope data
  | _,_ => server.envelope data

def validateEnvelope (rpcRequest : RpcRequest) : Except Stop Envelope :=
  match rpcRequest.params with
  | .dict params =>
    match lookupItem "envelope" params with
    | none | some .none => .error (buildErrorResponse server invalidParams [(.str "error",.str "Missing 'envelope' in params")] rpcRequest.id)
    | some (.dict data) =>
      match parseEnvelope server data with
      | .ok envelope => .ok envelope
      | .error (.inl crash) => .error (.crashed crash)
      | .error (.inr issues) =>
        match server.safeErrors issues with
        | .error crash => .error (.crashed crash)
        | .ok errors => .error (buildErrorResponse server invalidParams
            [(.str "error",.str "Invalid envelope structure"),(.str "validation_errors",.list errors)] rpcRequest.id)
    | some _ => .error (buildErrorResponse server invalidParams [(.str "error",.str "'envelope' must be a JSON object")] rpcRequest.id)
  | params => .error (buildErrorResponse server invalidParams
      [(.str "error",.str "JSON-RPC 'params' must be an object"),(.str "received_type",.str (typeName params))] rpcRequest.id)

def verifySender (agent : Option String) (envelope : Envelope) (rpcRequest : RpcRequest) : Except Stop Unit :=
  if server.verifyAuthentication.isNone then .ok ()
  else match server.verifySenderMatchesAuth agent (server.sender envelope) with
    | .ok () => .ok ()
    | .error (.inl crash) => .error (.crashed crash)
    | .error (.inr (status,detail)) =>
      .error (buildErrorResponse server invalidParams [(.str "error",.str detail),(.str "status_code",.int status)] rpcRequest.id)

-- A check whose own error becomes a JSON-RPC error.
def refuse (extra : String) (rpcRequest : RpcRequest) : Except (Crash ⊕ AsapError) Unit → Except Stop Unit
  | .ok () => .ok ()
  | .error (.inl crash) => .error (.crashed crash)
  | .error (.inr error) => .error (buildJsonrpcErrorForAsapException server error rpcRequest.id extra)

def handlerNotFound (payloadType : String) : AsapError where
  code := "asap:transport/handler_not_found"
  rpcCode := -32012
  message := "No handler registered for payload type: " ++ payloadType
  details := [(.str "payload_type",.str payloadType)]

def prepareRequest (request : Request) : Except Stop (RpcRequest × Envelope) := do
  let rpcRequest ← parseAndValidateRequest server request
  let agent ← authenticateRequest server request rpcRequest
  let envelope ← validateEnvelope server rpcRequest
  verifySender server agent envelope rpcRequest
  refuse server "Invalid envelope timestamp" rpcRequest (server.validateTimestamp envelope)
  refuse server "Invalid envelope nonce" rpcRequest (server.validateNonce envelope)
  .ok (rpcRequest,envelope)

def prepareStreamingRequest (request : Request) : Except Stop Envelope := do
  let (rpcRequest,envelope) ← prepareRequest server request
  if server.hasStreamingHandler (server.payloadType envelope) then .ok envelope
  else .error (buildJsonrpcErrorForAsapException server (handlerNotFound (server.payloadType envelope)) rpcRequest.id
    "No streaming handler registered for payload type")

def handleInternalError (crash : Crash) (requestId : Value) : Rejection :=
  .jsonRpc internalError (errorMessages internalError)
    (if server.debug then [(.str "error",.str crash.text),(.str "type",.str crash.typeName),(.str "traceback",.str crash.traceback)]
     else [(.str "error",.str "Internal server error")]) requestId

-- The envelope that streaming starts with, or the response of a rejection. Where the preparation
-- raises, `handle_stream` has no context yet and takes the fallback one with an empty id.
def handleStream (request : Request) : Except Rejection Envelope :=
  match prepareStreamingRequest server request with
  | .ok envelope => .ok envelope
  | .error (.rejected rejection) => .error rejection
  | .error (.crashed crash) => .error (handleInternalError server crash (.str ""))
end Prepare

-- The TypeScript consumer `streamTaskStreamEnvelopes`.
namespace Ts

inductive StreamError where
  | http (status : Nat) (text : String)
  | invalidJson
  | notAnObject
  | field (name : String)
  | payloadType (payloadType : String)
  | missingFinal
  deriving DecidableEq

-- How the iteration stands: it goes on, it has returned, or it has thrown.
inductive Ended where
  | no
  | returned
  | thrown (error : StreamError)

def isSpace (c : Char) : Bool :=
  let n := c.toNat
  (9 ≤ n ∧ n ≤ 13) || n = 32 || n = 0xa0 || n = 0x1680 || (0x2000 ≤ n ∧ n ≤ 0x200a) || n = 0x2028 || n = 0x2029 ||
    n = 0x202f || n = 0x205f || n = 0x3000 || n = 0xfeff

-- The length of what `^\r?\n\r?\n` matches.
def separatorLength : List Char → Option Nat
  | '\r' :: '\n' :: '\r' :: '\n' :: _ => some 4
  | '\r' :: '\n' :: '\n' :: _ => some 3
  | '\n' :: '\r' :: '\n' :: _ => some 3
  | '\n' :: '\n' :: _ => some 2
  | _ => none

def cut : List Char → Option (List Char × List Char)
  | [] => none
  | c :: rest =>
    match separatorLength (c :: rest) with
    | some n => some ([],(c :: rest).drop n)
    | none => (cut rest).map (fun parts => (c :: parts.1,parts.2))

def drain : Nat → List Char → List (List Char) × List Char
  | 0,carry => ([],carry)
  | fuel + 1,carry =>
    match cut carry with
    | none => ([],carry)
    | some (block,rest) => (block :: (drain fuel rest).1,(drain fuel rest).2)

def dropReturn (line : List Char) : List Char := if line.getLast? = some '\r' then line.dropLast else line

-- The `data:` lines of a block, joined.
def extractSseDataJson (block : List Char) : Option String :=
  let lines := ((splitOn '\n' block).map dropReturn).filter (fun line => "data:".toList.isPrefixOf line)
  if lines.isEmpty then none
  else some (String.intercalate "\n" (lines.map (fun line => String.ofList ((line.drop 5).dropWhile isSpace))))

section Consumer
variable (jsonParse : String → Option Value)

def wireText (raw : List (Key × Value)) (name : String) : Except StreamError String :=
  match lookupItem name raw with
  | some (.str text) => .ok text
  | _ => .error (.field name)

-- The envelope as it was sent, and whether its payload is the final one.
def readTaskStream (json : String) : Except StreamError (List (Key × Value) × Bool) :=
  match jsonParse json with
  | none => .error .invalidJson
  | some (.dict raw) => do
    let _ ← wireText raw "id"
    let _ ← wireText raw "asap_version"
    let _ ← wireText raw "sender"
    let _ ← wireText raw "recipient"
    let payloadType ← wireText raw "payload_type"
    if payloadType ≠ "TaskStream" then .error (.payloadType payloadType)
    else match lookupItem "payload" raw with
      | some (.dict payload) =>
        match lookupItem "final" payload with
        | some (.bool final) => .ok (raw,final)
        | _ => .error .missingFinal
      | _ => .error .missingFinal
  | some _ => .error .notAnObject

def handleBlocks : List (List Char) → List (List (Key × Value)) × Ended
  | [] => ([],.no)
  | block :: rest =>
    match extractSseDataJson block with
    | none => handleBlocks rest
    | some json =>
      if json = "" then handleBlocks rest
      else match readTaskStream jsonParse json with
        | .error error => ([],.thrown error)
        | .ok (envelope,final) =>
          if final then ([envelope],.returned) else (envelope :: (handleBlocks rest).1,(handleBlocks rest).2)

-- After the last chunk the carry is searched once more, and the generator returns.
def consume : List Char → List (List Char) → List (List (Key × Value)) × Ended
  | carry,[] =>
    match handleBlocks jsonParse (drain carry.length carry).1 with
    | (yielded,.no) => (yielded,.returned)
    | ended => ended
  | carry,chunk :: rest =>
    let drained := drain (carry ++ chunk).length (carry ++ chunk)
    match handleBlocks jsonParse drained.1 with
    | (yielded,.no) => (yielded ++ (consume drained.2 rest).1,(consume drained.2 rest).2)
    | ended => ended

-- `response.ok` is a status from 200 to 299.
def stream (response : Response) : List (List (Key × Value)) × Ended :=
  if ¬ (200 ≤ response.status ∧ response.status ≤ 299) then
    ([],.thrown (.http response.status (String.ofList (response.text.take 200))))
  else consume jsonParse [] response.chunks

theorem cut_free {text : List Char} (free : '\n' ∉ text) : cut text = none := by
  induction text with
  | nil => rfl
  | cons c rest ih =>
    have none : separatorLength (c :: rest) = none := by
      unfold separatorLength
      split <;> first | rfl | simp_all
    rw [cut,none,ih (fun member => free (List.mem_cons_of_mem _ member)),Option.map_none]

theorem drain_free {text : List Char} (free : '\n' ∉ text) (fuel : Nat) : drain fuel text = ([],text) := by
  cases fuel with
  | zero => rfl
  | succ fuel => rw [drain,cut_free free]

-- A text without a line break has no event in it.
theorem consume_free {carry : List Char} {chunks : List (List Char)} (free : '\n' ∉ carry ++ chunks.flatten) :
    consume jsonParse carry chunks = ([],.returned) := by
  induction chunks generalizing carry with
  | nil =>
    rw [List.flatten_nil,List.append_nil] at free
    rw [consume,drain_free free]
    rfl
  | cons chunk rest ih =>
    rw [List.flatten_cons,← List.append_assoc] at free
    have first : '\n' ∉ carry ++ chunk := fun member => free (List.mem_append_left _ member)
    rw [consume,drain_free first]
    simp only [handleBlocks,ih free,List.nil_append]
end Consumer

end Ts

section Rejections
variable {Envelope : Type} (server : Server Envelope)

-- A step that answers with JSON-RPC errors alone.
def NoHttp (result : Except Stop α) : Prop := ∀ status detail, result ≠ .error (.rejected (.http status detail))

theorem NoHttp.bind {result : Except Stop α} {next : α → Except Stop β} (first : NoHttp result) (second : ∀ value, NoHttp (next value)) :
    NoHttp (result >>= next) := by
  cases result with
  | error stop =>
    intro status detail same
    cases same
    exact first status detail rfl
  | ok value => exact second value

theorem noHttp_ok (value : α) : NoHttp (.ok value) := by
  intro status detail same
  cases same

theorem noHttp_crashed (crash : Crash) : NoHttp (.error (.crashed crash) : Except Stop α) := by
  intro status detail same
  cases same

theorem noHttp_render (code : Int) (message : String) (data : List (Key × Value)) (id : Value) :
    NoHttp (.error (render server (.jsonRpc code message data id)) : Except Stop α) := by
  unfold render
  split
  · intro status detail same
    cases same
  · exact noHttp_crashed _

theorem noHttp_built (code : Int) (data : List (Key × Value)) (given : Value) :
    NoHttp (.error (buildErrorResponse server code data given) : Except Stop α) := by
  unfold buildErrorResponse
  split
  · exact noHttp_crashed _
  · exact noHttp_render server _ _ _ _

theorem noHttp_asap (error : AsapError) (given : Value) (extra : String) :
    NoHttp (.error (buildJsonrpcErrorForAsapException server error given extra) : Except Stop α) := by
  unfold buildJsonrpcErrorForAsapException
  split
  · exact noHttp_crashed _
  · split
    · exact noHttp_render server _ _ _ _
    · exact noHttp_crashed _

theorem refuse_noHttp (extra : String) (rpcRequest : RpcRequest) (checked : Except (Crash ⊕ AsapError) Unit) :
    NoHttp (refuse server extra rpcRequest checked) := by
  unfold refuse
  split
  · exact noHttp_ok _
  · exact noHttp_crashed _
  · exact noHttp_asap server _ _ _

theorem validateJsonrpcRequest_noHttp (body : List (Key × Value)) : NoHttp (validateJsonrpcRequest server body) := by
  unfold validateJsonrpcRequest
  split
  · split
    · exact noHttp_crashed _
    · exact noHttp_built server _ _ _
  · split
    · exact noHttp_built server _ _ _
    · exact noHttp_ok _

theorem authenticateRequest_noHttp (request : Request) (rpcRequest : RpcRequest) : NoHttp (authenticateRequest server request rpcRequest) := by
  unfold authenticateRequest
  split
  · exact noHttp_ok _
  · split
    · exact noHttp_ok _
    · exact noHttp_crashed _
    · exact noHttp_built server _ _ _

theorem validateEnvelope_noHttp (rpcRequest : RpcRequest) : NoHttp (validateEnvelope server rpcRequest) := by
  unfold validateEnvelope
  split
  · split
    · exact noHttp_built server _ _ _
    · exact noHttp_built server _ _ _
    · split
      · exact noHttp_ok _
      · exact noHttp_crashed _
      · split
        · exact noHttp_crashed _
        · exact noHttp_built server _ _ _
    · exact noHttp_built server _ _ _
  · exact noHttp_built server _ _ _

theorem verifySender_noHttp (agent : Option String) (envelope : Envelope) (rpcRequest : RpcRequest) :
    NoHttp (verifySender server agent envelope rpcRequest) := by
  unfold verifySender
  split
  · exact noHttp_ok _
  · split
    · exact noHttp_ok _
    · exact noHttp_crashed _
    · exact noHttp_built server _ _ _

theorem validateBody_noHttp (parsed : Except String Value) : NoHttp (validateBody server parsed) := by
  unfold validateBody
  split
  · exact noHttp_built server _ _ _
  · exact validateJsonrpcRequest_noHttp server _
  · exact noHttp_built server _ _ _

variable {server} {request : Request}

-- A step that fails with an HTTPException only where the reading of the body did.
def FromBody (server : Server Envelope) (request : Request) (result : Except Stop α) : Prop :=
  ∀ status detail, result = .error (.rejected (.http status detail)) → parseJsonBody server request = .error (.rejected (.http status detail))

theorem FromBody.bind {result : Except Stop α} {next : α → Except Stop β} (first : FromBody server request result)
    (second : ∀ value, NoHttp (next value)) : FromBody server request (result >>= next) := by
  intro status detail failed
  cases result with
  | error stop =>
    cases failed
    exact first status detail rfl
  | ok value => exact absurd failed (second value status detail)

theorem prepareRequest_fromBody (server : Server Envelope) (request : Request) : FromBody server request (prepareRequest server request) := by
  have body : FromBody server request (parseJsonBody server request) := fun _ _ failed => failed
  have parsed : FromBody server request (parseAndValidateRequest server request) := body.bind (validateBody_noHttp server)
  apply parsed.bind
  intro rpcRequest
  apply (authenticateRequest_noHttp server request rpcRequest).bind
  intro agent
  apply (validateEnvelope_noHttp server rpcRequest).bind
  intro envelope
  apply (verifySender_noHttp server agent envelope rpcRequest).bind
  intro _
  apply (refuse_noHttp server _ rpcRequest _).bind
  intro _
  apply (refuse_noHttp server _ rpcRequest _).bind
  intro _
  exact noHttp_ok _

theorem prepareStreamingRequest_fromBody (server : Server Envelope) (request : Request) :
    FromBody server request (prepareStreamingRequest server request) := by
  apply (prepareRequest_fromBody server request).bind
  intro found
  simp only
  split
  · exact noHttp_ok _
  · exact noHttp_asap server _ _ _

theorem prepareStreamingRequest_body {stop : Stop} (failed : parseJsonBody server request = .error stop) :
    prepareStreamingRequest server request = .error stop := by
  unfold prepareStreamingRequest prepareRequest parseAndValidateRequest
  rw [failed]
  rfl

-- The statuses of the HTTPExceptions.
def ErrorStatus (status : Nat) : Prop := status = 400 ∨ status = 413 ∨ status = 415

def Failing (result : Except Stop α) : Prop := ∀ rejection, result = .error (.rejected rejection) →
  ∃ status detail, rejection = .http status detail ∧ ErrorStatus status

theorem Failing.bind {result : Except Stop α} {next : α → Except Stop β} (first : Failing result) (second : ∀ value, Failing (next value)) :
    Failing (result >>= next) := by
  cases result with
  | error stop =>
    intro rejection failed
    cases failed
    exact first rejection rfl
  | ok value => exact second value

theorem failing_ok (value : α) : Failing (.ok value) := by
  intro rejection failed
  cases failed

theorem failing_crashed (crash : Crash) : Failing (.error (.crashed crash) : Except Stop α) := by
  intro rejection failed
  cases failed

theorem failing_http {status : Nat} (detail : String) (error : ErrorStatus status) :
    Failing (.error (.rejected (.http status detail)) : Except Stop α) := by
  intro rejection failed
  cases failed
  exact ⟨status,detail,rfl,error⟩

theorem readBody_failing (bytes : List UInt8) (chunks : List (List UInt8)) : Failing (readBody server bytes chunks) := by
  induction chunks generalizing bytes with
  | nil => exact failing_ok _
  | cons chunk rest ih =>
    unfold readBody
    split
    · exact failing_http _ (.inr (.inl rfl))
    · exact ih _

theorem decompressBody_failing (encoding : String) (bytes : List UInt8) : Failing (decompressBody server encoding bytes) := by
  unfold decompressBody
  split
  · exact failing_ok _
  · split
    · exact failing_http _ (.inl rfl)
    · exact failing_http _ (.inl rfl)
    · exact failing_crashed _
    · split
      · exact failing_http _ (.inr (.inl rfl))
      · exact failing_ok _

theorem parseJsonBody_failing (server : Server Envelope) (request : Request) : Failing (parseJsonBody server request) := by
  unfold parseJsonBody
  split
  · exact failing_http _ (.inr (.inr rfl))
  · apply (readBody_failing [] request.body).bind
    intro bytes
    apply (decompressBody_failing request.contentEncoding bytes).bind
    intro plain
    split
    · exact failing_ok _
    · split
      · exact failing_ok _
      · exact failing_ok _
      · exact failing_crashed _
      · exact failing_ok _

-- The body could not be read and the HTTPException says so.
def Unread (server : Server Envelope) (request : Request) : Prop :=
  ∃ status detail, parseJsonBody server request = .error (.rejected (.http status detail))

-- Either the body was refused, with an error status, or the response is a JSON-RPC error.
theorem handleStream_cases {rejection : Rejection} (rejected : handleStream server request = .error rejection) :
    (Unread server request ∧ ErrorStatus rejection.status) ∨ (¬ Unread server request ∧ rejection.status = 200) := by
  unfold handleStream at rejected
  split at rejected
  · cases rejected
  · rename_i stopped
    cases rejected
    cases rejection with
    | http status detail =>
      have body := prepareStreamingRequest_fromBody server request status detail stopped
      obtain ⟨known,text,same,error⟩ := parseJsonBody_failing server request _ body
      cases same
      exact .inl ⟨⟨status,detail,body⟩,error⟩
    | jsonRpc code message data id =>
      refine .inr ⟨?_,rfl⟩
      rintro ⟨status,detail,body⟩
      have other := prepareStreamingRequest_body body
      rw [stopped] at other
      cases other
  · rename_i crash stopped
    cases rejected
    refine .inr ⟨?_,rfl⟩
    rintro ⟨status,detail,body⟩
    have other := prepareStreamingRequest_body body
    rw [stopped] at other
    cases other

variable {Streamed : Type} (codec : Codec Streamed) (floats : Floats) (requestId : String) (jsonParse : String → Option Value)

-- A successful status and a body of one line: neither consumer finds an event or an error in it.
theorem silent_line {chunks : List (List Char)} (oneLine : '\n' ∉ chunks.flatten) :
    SseStream.stream codec floats requestId ⟨200,chunks⟩ = ([],none) ∧ Ts.stream jsonParse ⟨200,chunks⟩ = ([],.returned) := by
  constructor
  · have drained : Framing.drain blankLine chunks.flatten = ([],chunks.flatten) := Framing.drain_stop (Framing.cut_free oneLine)
    rw [stream_text codec floats requestId (by decide : (200 : Nat) < 400),Response.text,drained]
    rfl
  · have good : ¬ ¬ (200 ≤ 200 ∧ 200 ≤ 299) := by decide
    rw [Ts.stream,if_neg good]
    apply Ts.consume_free
    rw [List.nil_append]
    exact oneLine

theorem raised_status {response : Response} (error : ErrorStatus response.status) :
    (SseStream.stream codec floats requestId response).2 ≠ none ∧ ∃ thrown, (Ts.stream jsonParse response).2 = .thrown thrown := by
  have high : 400 ≤ response.status := by
    rcases error with same | same | same <;> omega
  have bad : ¬ (200 ≤ response.status ∧ response.status ≤ 299) := by omega
  constructor
  · rw [SseStream.stream,if_pos high]
    intro impossible
    cases impossible
  · rw [Ts.stream,if_pos bad]
    exact ⟨_,rfl⟩

end Rejections

-- Both consumers raise on the response of a rejected request exactly where the body was refused with
-- an HTTPException; on a JSON-RPC error they end without an envelope and without an error.
theorem rejection_raised_iff {Envelope Streamed : Type} (server : Server Envelope) (request : Request) (rejection : Rejection)
    (rejected : handleStream server request = .error rejection) (render : Value → List Char) (oneLine : ∀ content, '\n' ∉ render content)
    (chunks : List (List Char)) (sent : chunks.flatten = render rejection.content) (codec : Codec Streamed) (floats : Floats)
    (requestId : String) (jsonParse : String → Option Value) :
    (((SseStream.stream codec floats requestId ⟨rejection.status,chunks⟩).2 ≠ none ∧
      ∃ error, (Ts.stream jsonParse ⟨rejection.status,chunks⟩).2 = .thrown error) ↔ Unread server request) ∧
    (¬ Unread server request → SseStream.stream codec floats requestId ⟨rejection.status,chunks⟩ = ([],none) ∧
      Ts.stream jsonParse ⟨rejection.status,chunks⟩ = ([],.returned)) := by
  rcases handleStream_cases rejected with ⟨unread,error⟩ | ⟨read,success⟩
  · exact ⟨⟨fun _ => unread,fun _ => raised_status codec floats requestId jsonParse error⟩,fun read => absurd unread read⟩
  · have lineOnly : '\n' ∉ chunks.flatten := by
      rw [sent]
      exact oneLine _
    have silent := silent_line codec floats requestId jsonParse lineOnly
    rw [success]
    refine ⟨⟨?_,fun unread => absurd unread read⟩,fun _ => silent⟩
    rintro ⟨raised,_⟩
    rw [silent.1] at raised
    exact absurd rfl raised

-- A server that can answer `asap.send` for envelopes of no content, of which it streams none.
def plainServer (maxRequestSize : Nat) : Server Unit where
  maxRequestSize := maxRequestSize
  supportedEncodings := ["gzip"]
  decompress _ _ := .error (.value "unsupported")
  decodeUtf8 _ := .ok "\x7b\x7d"
  loads _ := .ok (.dict [(.str "method",.str "asap.send"),(.str "params",.dict [(.str "envelope",.dict [])]),(.str "id",.str "req-1")])
  encodable _ := true
  ascii _ _ := rfl
  issueText type := type
  issueContext _ := []
  safeErrors := .ok
  describe _ _ := ("","")
  verifyAuthentication := none
  verifySenderMatchesAuth _ _ := .ok ()
  envelope _ := .ok ()
  sender _ := "urn:asap:agent:a"
  payloadType _ := "TaskRequest"
  validateTimestamp _ := .ok ()
  validateNonce _ := .ok ()
  hasStreamingHandler _ := false
  debug := false

def shortRequest : Request := { contentEncoding := "",body := [[123,125]] }

def tooLarge : List Char := "\x7b\"detail\":\"Request size (2 bytes) exceeds maximum (1 bytes)\"\x7d".toList

-- A body that is too large is refused with 413, and both consumers raise.
theorem rejection_raised_large :
    (SseStream.stream chunkCodec integersOnly "req" ⟨413,[tooLarge]⟩).2 ≠ none ∧ ∃ error, (Ts.stream (fun _ => none) ⟨413,[tooLarge]⟩).2 = .thrown error := by
  have rejected : handleStream (plainServer 1) shortRequest =
      .error (.http 413 "Request size (2 bytes) exceeds maximum (1 bytes)") := rfl
  have oneLine : '\n' ∉ tooLarge := by decide +kernel
  have unread : Unread (plainServer 1) shortRequest := ⟨413,"Request size (2 bytes) exceeds maximum (1 bytes)",rfl⟩
  have decided := rejection_raised_iff (plainServer 1) shortRequest _ rejected (fun _ => tooLarge) (fun _ => oneLine) [tooLarge] rfl chunkCodec integersOnly
    "req" (fun _ => none)
  exact decided.1.mpr unread

def notStreamed : List Char := ("\x7b\"jsonrpc\":\"2.0\",\"error\":\x7b\"code\":-32012,\"message\":\"No handler registered for payload type: " ++
  "TaskRequest\",\"data\":\x7b\"code\":\"asap:transport/handler_not_found\",\"rpc_code\":-32012,\"message\":\"No handler registered for " ++
  "payload type: TaskRequest\",\"details\":\x7b\"payload_type\":\"TaskRequest\"\x7d,\"recoverable\":false,\"asap_taxonomy_code\":" ++
  "\"asap:transport/handler_not_found\",\"error\":\"No streaming handler registered for payload type\"\x7d\x7d,\"id\":\"req-1\"\x7d").toList

-- No streaming handler: the JSON-RPC error goes out with status 200, and both consumers end in silence.
theorem rejection_unheard :
    handleStream (plainServer 100) shortRequest = .error (.jsonRpc (-32012) "No handler registered for payload type: TaskRequest"
      ((handlerNotFound "TaskRequest").data ++ [(.str "error",.str "No streaming handler registered for payload type")]) (.str "req-1")) ∧
    SseStream.stream chunkCodec integersOnly "req" ⟨200,[notStreamed]⟩ = ([],none) ∧
    Ts.stream (fun _ => none) ⟨200,[notStreamed]⟩ = ([],.returned) := by
  have oneLine : '\n' ∉ [notStreamed].flatten := by
    rw [List.flatten_cons,List.flatten_nil,List.append_nil]
    unfold notStreamed
    rw [String.toList_append,String.toList_append,String.toList_append]
    have bare {chars : List Char} (known : '\n' ∉ chars) : '\n' ∉ (String.ofList chars).toList := by rwa [String.toList_ofList]
    refine List.not_mem_append (List.not_mem_append (List.not_mem_append (bare ?_) (bare ?_)) (bare ?_)) (bare ?_) <;> decide +kernel
  exact ⟨rfl,silent_line chunkCodec integersOnly "req" (fun _ => none) oneLine⟩

end Asap.StreamErrors
