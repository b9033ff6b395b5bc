import Asap.LambdaCodec
import Asap.StreamErrors

-- `POST /asap`: the route, `handle_message` and the batches, and which malformed requests are
-- answered with an error of the client.
namespace Asap.RequestHandler
open PythonValue StreamErrors

-- `lambda` is a response of the Lambda content type, whose body is no JSON.
inductive Response where
  | json (status : Nat) (content : Value)
  | lambda (text : String)

-- What the route comes to: a response, the 429 of the rate limiter, or an exception that nothing
-- catches, which is answered with a plain 500.
inductive Reply where
  | response (response : Response)
  | limited
  | raised (crash : Crash)

-- What running the handler of an envelope comes to. `result` holds the dump of the response envelope.
inductive Outcome where
  | result (envelope : Value)
  | threadPoolExhausted (error : AsapError)
  | handlerNotFound
  | asapError (error : AsapError)
  | crashed (crash : Crash)

-- What the shared stores and the handlers answer while one request runs.
structure Environment (Envelope : Type) where
  nonce : Envelope → Except (Crash ⊕ AsapError) Unit
  dispatch : Envelope → Outcome

-- `json.loads` of bytes, as the route calls it: `undecodable` is a JSONDecodeError or a
-- UnicodeDecodeError, which the route expects.
inductive BytesError where
  | undecodable
  | other (crash : Crash)

-- `dumpJson` is `model_dump_json`, none where it raises; `dumps` is `json.dumps(item).encode("utf-8")`,
-- which `json.loads` inverts, and the text of a JSON object is no compressed stream; what the handler
-- reads, decoded first, the route reads alike; the limiter lets a number of hits through or none.
structure App (Envelope : Type) extends Server Envelope where
  maxBatchSize : Nat
  allows : Nat → Bool
  loadsBytes : List UInt8 → Except BytesError Value
  dumps : Value → List UInt8
  rereads : ∀ bytes items, loadsBytes bytes = .ok (.list items) → ∀ item ∈ items,
    ∃ text, decodeUtf8 (dumps item) = .ok text ∧ loads text = .ok item
  agrees : ∀ bytes text value, decodeUtf8 bytes = .ok text → loads text = .ok value → loadsBytes bytes = .ok value
  uncompressed : ∀ body encoding bytes, encoding ≠ "" → encoding ≠ "identity" → decompress (dumps (.dict body)) encoding ≠ .ok bytes
  dumpJson : Value → Option String
  floats : Floats

def lambdaContentType : String := "application/vnd.asap+lambda"

section Handle
variable {Envelope : Type} (app : App Envelope)

-- The server as a request finds it.
def seen (environment : Environment Envelope) : Server Envelope := { app.toServer with validateNonce := environment.nonce }

def internal (crash : Crash) (id : Value) : Reply := .response (.json 200 (handleInternalError app.toServer crash id).content)

def rendered (status : Nat) (content : Value) (id : Value) : Reply :=
  if writable app.toServer content then .response (.json status content) else internal app (crashOf app.toServer "ValueError" content) id

def stopReply (id : Value) : Stop → Reply
  | .rejected rejection => .response (.json rejection.status rejection.content)
  | .crashed crash => internal app crash id

def successContent (envelope id : Value) : Value :=
  .dict [(.str "jsonrpc",.str "2.0"),(.str "result",.dict [(.str "envelope",envelope)]),(.str "id",id)]

def optionalInt : Option Int → Value
  | none => .none
  | some value => .int value

def optionalStr : Option String → Value
  | none => .none
  | some text => .str text

-- The body of the 503: no JSON-RPC response.
def exhaustedContent (error : AsapError) : Value :=
  .dict [(.str "error",.str "Service Temporarily Unavailable"),(.str "code",.str error.code),(.str "rpc_code",.int error.rpcCode),
    (.str "message",.str error.message),(.str "details",.dict error.details),(.str "recoverable",.bool true),
    (.str "retry_after_ms",optionalInt error.retryAfterMs),(.str "fallback_action",optionalStr error.fallbackAction)]

-- Where the codec fails, the response goes out as JSON.
def buildSuccessResponse (request : Request) (envelope id : Value) : Reply :=
  match (if containsText lambdaContentType request.accept then app.dumpJson (successContent envelope id) else none) with
  | some text => .response (.lambda (LambdaCodec.encode text))
  | none => rendered app 200 (successContent envelope id) id

-- The error of an ASAPError is built where nothing catches what that raises.
def protocolError (error : AsapError) (id : Value) : Reply :=
  match buildJsonrpcErrorForAsapException app.toServer error id error.message with
  | .rejected rejection => .response (.json rejection.status rejection.content)
  | .crashed crash => .raised crash

def dispatched (request : Request) (payloadType : String) (id : Value) : Outcome → Reply
  | .result envelope => buildSuccessResponse app request envelope id
  | .threadPoolExhausted error => rendered app 503 (exhaustedContent error) id
  | .handlerNotFound => stopReply app id
      (buildJsonrpcErrorForAsapException app.toServer (handlerNotFound payloadType) id (handlerNotFound payloadType).message)
  | .asapError error => protocolError app error id
  | .crashed crash => internal app crash id

-- Where the preparation raises there is no context yet, and the fallback one has an empty id.
def handleMessage (environment : Environment Envelope) (request : Request) : Reply :=
  match prepareRequest (seen app environment) request with
  | .error stop => stopReply app (.str "") stop
  | .ok (rpcRequest,envelope) => dispatched app request (app.payloadType envelope) rpcRequest.id (environment.dispatch envelope)

def batchErrorResponse (reason : String) : Reply :=
  .response (.json 200 (Rejection.jsonRpc invalidRequest (errorMessages invalidRequest) [(.str "reason",.str reason)] .none).content)

def invalidItem : Value :=
  .dict [(.str "jsonrpc",.str "2.0"),(.str "error",.dict [(.str "code",.int invalidRequest),
    (.str "message",.str (errorMessages invalidRequest)),(.str "data",.none)]),(.str "id",.none)]

-- The request an item is handed on as: the headers of the batch, the item alone as the body.
def subRequest (request : Request) (item : Value) : Request := { request with body := [app.dumps item] }

-- `json.loads` of a response's body. JSON reads back as the content it was rendered from.
def reread : Response → Option Value
  | .json _ content => some content
  | .lambda text => loads app.floats text

-- The element of the batch response that one item makes, or what its task raises.
def processOne (request : Request) (environment : Environment Envelope) : Value → Except Crash Value
  | .dict body =>
    match handleMessage app environment (subRequest app request (.dict body)) with
    | .response response =>
      match reread app response with
      | some content => .ok content
      | none => .error (crashOf app.toServer "JSONDecodeError" (.dict body))
    | .raised crash => .error crash
    | .limited => .error (crashOf app.toServer "RateLimitExceeded" (.dict body))
  | _ => .ok invalidItem

-- `asyncio.gather`: the first exception is the result of them all.
def gather (request : Request) : List (Value × Environment Envelope) → Except Crash (List Value)
  | [] => .ok []
  | (item,environment) :: rest => do
    let content ← processOne app request environment item
    let contents ← gather request rest
    .ok (content :: contents)

-- What has been read from the responses has been written before, and is written again.
def handleBatch (request : Request) (items : List (Value × Environment Envelope)) : Reply :=
  if items = [] then batchErrorResponse "empty batch"
  else if app.maxBatchSize < items.length then
    batchErrorResponse ("batch size " ++ toString items.length ++ " exceeds max " ++ toString app.maxBatchSize)
  else if ¬ app.allows items.length then .limited
  else match gather app request items with
    | .error crash => .raised crash
    | .ok contents => .response (.json 200 (.list contents))

-- `environments` has what the i-th item of a batch finds; a single request finds the first.
def handleAsapMessage (environments : Nat → Environment Envelope) (request : Request) : Reply :=
  match app.loadsBytes request.body.flatten with
  | .error (.other crash) => .raised crash
  | .ok (.list items) => handleBatch app request (items.zipIdx.map (fun row => (row.1,environments row.2)))
  | _ => if app.allows 1 then handleMessage app (environments 0) request else .limited
end Handle

section ClientErrors
variable {Envelope : Type} {app : App Envelope} {server : Server Envelope}

def clientCode (code : Int) : Prop := code = parseError ∨ code = invalidRequest ∨ code = methodNotFound ∨ code = invalidParams

-- A JSON-RPC error with a code of the client.
def IsClientError (content : Value) : Prop :=
  ∃ error code, content.get "jsonrpc" = some (some (.str "2.0")) ∧ content.get "error" = some (some error) ∧
    error.get "code" = some (some (.int code)) ∧ clientCode code

def ClientError (reply : Reply) : Prop := ∃ content, reply = .response (.json 200 content) ∧ IsClientError content

def ClientElement (element : Except Crash Value) : Prop := ∃ content, element = .ok content ∧ IsClientError content

-- The envelope that the params of a request carry.
def envelopeData (rpcRequest : RpcRequest) : Option (List (Key × Value)) :=
  match rpcRequest.params with
  | .dict params =>
    match lookupItem "envelope" params with
    | some (.dict data) => some data
    | _ => none
  | _ => none

-- A request for the served method, with an envelope the model takes.
def Wellformed (server : Server Envelope) : Except String Value → Prop
  | .ok (.dict body) => ∃ rpcRequest data envelope, jsonRpcRequest server body = .ok rpcRequest ∧ rpcRequest.method = asapMethod ∧
      envelopeData rpcRequest = some data ∧ parseEnvelope server data = .ok envelope
  | _ => False

-- The errors of a validation can be sent back: as JSON they can be read, and what is read can be written.
def Reported (server : Server Envelope) (issues : List Value) : Prop :=
  ∃ errors, server.safeErrors issues = .ok errors ∧ writableList server errors = true

-- The middleware accepts the request, or refuses it with an HTTPException that can be written.
def Admits (server : Server Envelope) (request : Request) : Prop :=
  ∀ verify ∈ server.verifyAuthentication, match verify request.authorization with
    | .ok _ => True
    | .error (.inl _) => False
    | .error (.inr (_,detail)) => server.encodable detail = true

def Passes (server : Server Envelope) (request : Request) : Prop :=
  ∀ verify ∈ server.verifyAuthentication, ∃ agent, verify request.authorization = .ok agent

-- The body as it is read is no such request.
def Malformed (server : Server Envelope) (request : Request) : Prop :=
  ¬ ∃ parsed, parseJsonBody server request = .ok parsed ∧ Wellformed server parsed

-- A refusal that can be sent back, stage by stage.
def Reportable (server : Server Envelope) (request : Request) : Except String Value → Prop
  | .error text => server.encodable text = true
  | .ok (.dict body) =>
    match jsonRpcRequest server body with
    | .error issues => (responseId server ((lookupItem "id" body).getD .none)).isSome = true ∧ Reported server issues
    | .ok rpcRequest => rpcRequest.method ≠ asapMethod ∨ (Admits server request ∧
        (Passes server request → ∀ data ∈ envelopeData rpcRequest, match parseEnvelope server data with
          | .error (.inl _) => False
          | .error (.inr issues) => Reported server issues
          | .ok _ => True))
  | .ok body => server.encodable (typeName body) = true

def ClientStop : Stop → Prop
  | .rejected (.jsonRpc code _ _ _) => clientCode code
  | _ => False

-- A stage that ends in an error of the client.
def Refused (result : Except Stop α) : Prop := ∃ stop, result = .error stop ∧ ClientStop stop

@[simp] theorem refused_error (stop : Stop) : Refused (.error stop : Except Stop α) ↔ ClientStop stop := by simp [Refused]

@[simp] theorem refused_ok (value : α) : ¬ Refused (.ok value) := by simp [Refused]

@[simp] theorem crashed_client (crash : Crash) : ¬ ClientStop (.crashed crash) := id

theorem clientCode_message {code : Int} (client : clientCode code) : (errorMessages code).toList.all (fun c => decide (c.toNat < 128)) = true := by
  rcases client with same | same | same | same <;> subst same <;> rfl

theorem requestId_writable {given id : Value} (found : requestId server given = some id) : writable server id = true := by
  cases given with
  | str text =>
    simp only [requestId,strOrInt] at found
    split at found
    · rename_i encodes
      cases found
      simpa [writable] using encodes
    · cases found
  | float value text =>
    simp only [requestId,strOrInt] at found
    split at found
    · cases found
      rfl
    · cases found
  | int value | bool value =>
    cases found
    rfl
  | none | nonFinite _ | list _ | dict _ | other _ => cases found

theorem responseId_writable {given id : Value} (found : responseId server given = some id) : writable server id = true := by
  unfold responseId optionalStrOrInt at found
  split at found
  · cases found
    rfl
  · exact requestId_writable found

-- The id of an accepted request is taken again as it is.
theorem responseId_requestId {given id : Value} (found : requestId server given = some id) : responseId server id = some id := by
  cases given with
  | str text =>
    simp only [requestId,strOrInt] at found
    split at found
    · rename_i encodes
      cases found
      simp [responseId,optionalStrOrInt,strOrInt,encodes]
    · cases found
  | float value text =>
    simp only [requestId,strOrInt] at found
    split at found
    · cases found
      rfl
    · cases found
  | int value | bool value =>
    cases found
    rfl
  | none | nonFinite _ | list _ | dict _ | other _ => cases found

theorem writable_content (code : Int) (message : String) (data : List (Key × Value)) {id : Value} (written : writable server id = true) :
    writable server (Rejection.jsonRpc code message data id).content = (server.encodable message && writableItems server data) := by
  have names : ∀ name ∈ ["jsonrpc","2.0","error","code","message","data","id"], server.encodable name = true := by
    intro name known
    apply server.ascii
    simp only [List.mem_cons,List.not_mem_nil,or_false] at known
    rcases known with same | same | same | same | same | same | same <;> subst same <;> rfl
  simp only [List.forall_mem_cons,List.not_mem_nil,false_imp_iff,forall_const,and_true] at names
  simp [Rejection.content,writable,writableItems,writableKey,names,written]

-- An error of the client goes out exactly if its id and its data can be sent.
theorem built_client {code : Int} (client : clientCode code) (data : List (Key × Value)) (given : Value) :
    ClientStop (buildErrorResponse server code data given) ↔ (responseId server given).isSome = true ∧ writableItems server data = true := by
  unfold buildErrorResponse
  split
  · rename_i missing
    simp [missing]
  · rename_i id found
    have content : writable server (Rejection.jsonRpc code (errorMessages code) data id).content = writableItems server data := by
      rw [writable_content code (errorMessages code) data (responseId_writable found),server.ascii _ (clientCode_message client),Bool.true_and]
    rw [StreamErrors.render,content]
    split
    · rename_i written
      simp [ClientStop,client,written,found]
    · rename_i unwritten
      simp [unwritten]

theorem writable_named {name : String} (plain : name.toList.all (fun c => decide (c.toNat < 128)) = true) (value : Value) (rest : List (Key × Value)) :
    writableItems server ((.str name,value) :: rest) = (writable server value && writableItems server rest) := by
  simp [writableItems,writableKey,server.ascii name plain]

theorem writable_text {text : String} (plain : text.toList.all (fun c => decide (c.toNat < 128)) = true) : writable server (.str text) = true :=
  server.ascii text plain

theorem validation_client {code : Int} (client : clientCode code) {message : String}
    (plain : message.toList.all (fun c => decide (c.toNat < 128)) = true) (errors : List Value) (given : Value) :
    ClientStop (buildErrorResponse server code [(.str "error",.str message),(.str "validation_errors",.list errors)] given) ↔
      (responseId server given).isSome = true ∧ writableList server errors = true := by
  rw [built_client client,writable_named rfl,writable_named rfl,writable_text plain]
  simp [writableItems,writable]

theorem invalid_client (issues : List Value) (body : List (Key × Value)) (failed : jsonRpcRequest server body = .error issues) :
    Refused (validateJsonrpcRequest server body) ↔
      (responseId server ((lookupItem "id" body).getD .none)).isSome = true ∧ Reported server issues := by
  unfold validateJsonrpcRequest
  rw [failed]
  simp only
  cases safe : server.safeErrors issues with
  | error crash => simp [Reported,safe]
  | ok errors =>
    simp only [refused_error]
    split
    · rw [validation_client (.inr (.inr (.inr rfl))) rfl]
      simp [Reported,safe]
    · rw [validation_client (.inr (.inl rfl)) rfl]
      simp [Reported,safe]

-- What an accepted request holds: a method that can be written, and an id the model took.
theorem jsonRpcRequest_ok {body : List (Key × Value)} {rpcRequest : RpcRequest} (accepted : jsonRpcRequest server body = .ok rpcRequest) :
    server.encodable rpcRequest.method = true ∧ (∃ params, rpcRequest.params = .dict params) ∧
      ∃ given, requestId server given = some rpcRequest.id := by
  unfold jsonRpcRequest at accepted
  split at accepted
  · rename_i method params id clean named _ found
    cases accepted
    refine ⟨?_,⟨params,rfl⟩,?_⟩
    · have silent : requiredIssues server body "method" (stringIssues server ["method"]) = [] := by
        simp only [requestIssues,List.append_eq_nil_iff] at clean
        exact clean.1.1.1.2
      simp only [requiredIssues,named,stringIssues] at silent
      split at silent
      · assumption
      · cases silent
    · obtain ⟨given,_,taken⟩ := Option.bind_eq_some_iff.mp found
      exact ⟨given,taken⟩
  · cases accepted

theorem unknown_client {body : List (Key × Value)} {rpcRequest : RpcRequest} (accepted : jsonRpcRequest server body = .ok rpcRequest)
    (unknown : rpcRequest.method ≠ asapMethod) : Refused (validateJsonrpcRequest server body) := by
  obtain ⟨written,_,given,taken⟩ := jsonRpcRequest_ok accepted
  unfold validateJsonrpcRequest
  rw [accepted]
  simp only [unknown,ne_eq,not_false_eq_true,if_true,refused_error]
  rw [built_client (.inr (.inr (.inl rfl))),responseId_requestId taken,writable_named rfl]
  simp [writable,writableItems,written]

theorem statusCode_client (status : Nat) : clientCode (if status = 401 then invalidRequest else invalidParams) := by
  split
  · exact .inr (.inl rfl)
  · exact .inr (.inr (.inr rfl))

theorem detail_client {code : Int} (client : clientCode code) (detail : String) (status : Nat) {given id : Value} (taken : requestId server given = some id) :
    ClientStop (buildErrorResponse server code [(.str "error",.str detail),(.str "status_code",.int status)] id) ↔ server.encodable detail = true := by
  rw [built_client client,responseId_requestId taken,writable_named rfl,writable_named rfl]
  simp [writable,writableItems]

-- A request that has been admitted so far: its envelope decides.
theorem envelope_client (rpcRequest : RpcRequest) {given : Value} (taken : requestId server given = some rpcRequest.id)
    {params : List (Key × Value)} (object : rpcRequest.params = .dict params)
    (bad : ∀ data, envelopeData rpcRequest = some data → ∀ envelope, parseEnvelope server data ≠ .ok envelope) :
    Refused (validateEnvelope server rpcRequest) ↔ ∀ data ∈ envelopeData rpcRequest, match parseEnvelope server data with
      | .error (.inl _) => False
      | .error (.inr issues) => Reported server issues
      | .ok _ => True := by
  have echoed := responseId_requestId taken
  have refused : ∀ message : String, message.toList.all (fun c => decide (c.toNat < 128)) = true →
      ClientStop (buildErrorResponse server invalidParams [(.str "error",.str message)] rpcRequest.id) := by
    intro message plain
    rw [built_client (.inr (.inr (.inr rfl))),echoed,writable_named rfl,writable_text plain]
    exact ⟨rfl,rfl⟩
  unfold validateEnvelope envelopeData
  simp only [envelopeData,object] at bad ⊢
  cases carried : lookupItem "envelope" params with
  | none => simpa using refused _ rfl
  | some value =>
    cases value with
    | none | bool _ | int _ | float _ _ | nonFinite _ | str _ | list _ | other _ => simpa using refused _ rfl
    | dict data =>
      simp only [carried] at bad
      have failing := bad data rfl
      cases parsed : parseEnvelope server data with
      | ok envelope => exact absurd parsed (failing envelope)
      | error stopped =>
        cases stopped with
        | inl crash => simp [parsed]
        | inr issues =>
          cases safe : server.safeErrors issues with
          | error crash => simp [parsed,safe,Reported]
          | ok errors =>
            simp only [safe,refused_error,Option.mem_def,Option.some.injEq,forall_eq',parsed]
            rw [validation_client (.inr (.inr (.inr rfl))) rfl,echoed]
            simp [Reported,safe]

theorem unreadable_client (text : String) : Refused (validateBody server (.error text)) ↔ server.encodable text = true := by
  rw [validateBody,refused_error,built_client (.inl rfl),writable_named rfl]
  simp [writable,writableItems,responseId,optionalStrOrInt]

theorem notObject_client (value : Value) :
    ClientStop (buildErrorResponse server invalidRequest [(.str "error",.str "JSON-RPC request must be an object"),
      (.str "received_type",.str (typeName value))] .none) ↔ server.encodable (typeName value) = true := by
  rw [built_client (.inr (.inl rfl)),writable_named rfl,writable_named rfl,writable_text rfl]
  simp [writable,writableItems,responseId,optionalStrOrInt]

theorem authenticate_client {request : Request} {rpcRequest : RpcRequest} {given : Value} (taken : requestId server given = some rpcRequest.id)
    (fails : ¬ Passes server request) : Refused (authenticateRequest server request rpcRequest) ↔ Admits server request := by
  unfold authenticateRequest Admits
  cases middleware : server.verifyAuthentication with
  | none =>
    apply absurd _ fails
    intro verify member
    rw [middleware] at member
    cases member
  | some verify =>
    simp only [Option.mem_def,Option.some.injEq,forall_eq']
    cases verified : verify request.authorization with
    | ok agent =>
      apply absurd _ fails
      intro other member
      rw [middleware] at member
      cases member
      exact ⟨agent,verified⟩
    | error stopped =>
      cases stopped with
      | inl crash => simp
      | inr refusal =>
        simp only [refused_error]
        exact detail_client (statusCode_client refusal.1) refusal.2 refusal.1 taken

theorem authenticate_passes {request : Request} (rpcRequest : RpcRequest) (passes : Passes server request) :
    (∃ agent, authenticateRequest server request rpcRequest = .ok agent) ∧ Admits server request := by
  unfold authenticateRequest
  cases middleware : server.verifyAuthentication with
  | none =>
    refine ⟨⟨none,rfl⟩,?_⟩
    intro verify member
    rw [middleware] at member
    cases member
  | some verify =>
    obtain ⟨agent,verified⟩ := passes verify middleware
    refine ⟨⟨agent,by simp only [verified]⟩,?_⟩
    intro other member
    rw [middleware] at member
    cases member
    rw [verified]
    trivial

theorem validateJsonrpcRequest_served {body : List (Key × Value)} {rpcRequest : RpcRequest} (accepted : jsonRpcRequest server body = .ok rpcRequest)
    (served : rpcRequest.method = asapMethod) : validateJsonrpcRequest server body = .ok rpcRequest := by
  unfold validateJsonrpcRequest
  rw [accepted]
  simp [served]

theorem stops {stage : Except Stop α} (fails : ∀ value, stage ≠ .ok value) : ∃ stop, stage = .error stop ∧ (ClientStop stop ↔ Refused stage) := by
  cases stage with
  | error stop => exact ⟨stop,rfl,(refused_error stop).symm⟩
  | ok value => exact absurd rfl (fails value)

-- The request for the served method that the body is, if any.
def Serves (server : Server Envelope) (parsed : Except String Value) (rpcRequest : RpcRequest) : Prop :=
  ∃ body, parsed = .ok (.dict body) ∧ jsonRpcRequest server body = .ok rpcRequest ∧ rpcRequest.method = asapMethod

theorem validateBody_unserved (request : Request) {parsed : Except String Value} (unserved : ∀ rpcRequest, ¬ Serves server parsed rpcRequest) :
    ∃ stop, validateBody server parsed = .error stop ∧ (ClientStop stop ↔ Reportable server request parsed) := by
  cases parsed with
  | error text =>
    have fails : ∀ rpcRequest, validateBody server (.error text) ≠ .ok rpcRequest := by simp [validateBody]
    obtain ⟨stop,stopped,client⟩ := stops fails
    exact ⟨stop,stopped,client.trans (unreadable_client text)⟩
  | ok value =>
    cases value with
    | none | bool _ | int _ | float _ _ | nonFinite _ | str _ | list _ | other _ =>
      exact ⟨_,rfl,notObject_client _⟩
    | dict body =>
      simp only [validateBody,Reportable]
      cases accepted : jsonRpcRequest server body with
      | error issues =>
        have fails : ∀ rpcRequest, validateJsonrpcRequest server body ≠ .ok rpcRequest := by
          intro rpcRequest
          unfold validateJsonrpcRequest
          rw [accepted]
          simp only
          split <;> simp
        obtain ⟨stop,stopped,client⟩ := stops fails
        exact ⟨stop,stopped,client.trans (invalid_client issues body accepted)⟩
      | ok rpcRequest =>
        have unknown : rpcRequest.method ≠ asapMethod := fun served => unserved rpcRequest ⟨body,rfl,accepted,served⟩
        have fails : ∀ other, validateJsonrpcRequest server body ≠ .ok other := by
          intro other
          unfold validateJsonrpcRequest
          rw [accepted]
          simp [unknown]
        obtain ⟨stop,stopped,client⟩ := stops fails
        exact ⟨stop,stopped,client.trans ⟨fun _ => .inl unknown,fun _ => unknown_client accepted unknown⟩⟩

theorem validateEnvelope_data {rpcRequest : RpcRequest} {envelope : Envelope} (validated : validateEnvelope server rpcRequest = .ok envelope) :
    ∃ data, envelopeData rpcRequest = some data ∧ parseEnvelope server data = .ok envelope := by
  unfold validateEnvelope at validated
  split at validated
  · rename_i params object
    split at validated
    · cases validated
    · cases validated
    · rename_i data carried
      split at validated
      · rename_i found parsed
        cases validated
        exact ⟨data,by simp only [envelopeData,object,carried],parsed⟩
      · cases validated
      · split at validated <;> cases validated
    · cases validated
  · cases validated

theorem authenticateRequest_passes {request : Request} {rpcRequest : RpcRequest} {agent : Option String}
    (authenticated : authenticateRequest server request rpcRequest = .ok agent) : Passes server request := by
  intro verify member
  unfold authenticateRequest at authenticated
  rw [member] at authenticated
  cases verified : verify request.authorization with
  | ok found => exact ⟨found,rfl⟩
  | error stopped =>
    simp only [verified] at authenticated
    rcases stopped with crash | refusal <;> cases authenticated

-- A request that is not well formed ends its preparation, with an error of the client exactly where it is reportable.
theorem prepareRequest_malformed {request : Request} {parsed : Except String Value} (read : parseJsonBody server request = .ok parsed)
    (bad : ¬ Wellformed server parsed) :
    ∃ stop, prepareRequest server request = .error stop ∧ (ClientStop stop ↔ Reportable server request parsed) := by
  unfold prepareRequest parseAndValidateRequest
  rw [read]
  simp only [Except.bind,bind]
  by_cases unserved : ∀ rpcRequest, ¬ Serves server parsed rpcRequest
  · obtain ⟨stop,stopped,client⟩ := validateBody_unserved request unserved
    exact ⟨stop,by rw [stopped],client⟩
  · obtain ⟨rpcRequest,serves⟩ := not_forall_not.mp unserved
    obtain ⟨body,rfl,accepted,served⟩ := serves
    obtain ⟨_,⟨params,object⟩,given,taken⟩ := jsonRpcRequest_ok accepted
    have unwell : ∀ data, envelopeData rpcRequest = some data → ∀ envelope, parseEnvelope server data ≠ .ok envelope :=
      fun data carried envelope taken => bad ⟨rpcRequest,data,envelope,accepted,served,carried,taken⟩
    simp only [validateBody,Reportable,accepted,validateJsonrpcRequest_served accepted served,served,ne_eq,not_true_eq_false,false_or]
    by_cases passes : Passes server request
    · obtain ⟨⟨agent,authenticated⟩,admits⟩ := authenticate_passes rpcRequest passes
      have fails : ∀ found, validateEnvelope server rpcRequest ≠ .ok found := by
        intro found validated
        obtain ⟨data,carried,parsed⟩ := validateEnvelope_data validated
        exact unwell data carried found parsed
      obtain ⟨stop,stopped,client⟩ := stops fails
      refine ⟨stop,by rw [authenticated,stopped],?_⟩
      rw [client,envelope_client rpcRequest taken object unwell]
      simp only [admits,passes,true_and,forall_const]
    · have fails : ∀ agent, authenticateRequest server request rpcRequest ≠ .ok agent :=
        fun agent authenticated => passes (authenticateRequest_passes authenticated)
      obtain ⟨stop,stopped,client⟩ := stops fails
      refine ⟨stop,by rw [stopped],?_⟩
      rw [client,authenticate_client taken passes]
      simp only [passes,false_imp_iff,and_true]

theorem content_client (code : Int) (message : String) (data : List (Key × Value)) (id : Value) :
    IsClientError (Rejection.jsonRpc code message data id).content ↔ clientCode code := by
  constructor
  · rintro ⟨error,found,_,named,coded,client⟩
    simp [Rejection.content,Value.get,lookupItem] at named
    subst named
    simp [Value.get,lookupItem] at coded
    exact coded ▸ client
  · intro client
    exact ⟨_,code,rfl,rfl,rfl,client⟩

theorem internalError_client : ¬ clientCode internalError := by
  unfold clientCode internalError parseError invalidRequest methodNotFound invalidParams
  omega

theorem stopReply_client (app : App Envelope) (stop : Stop) (id : Value) : ClientError (stopReply app id stop) ↔ ClientStop stop := by
  cases stop with
  | crashed crash =>
    simp only [crashed_client,iff_false]
    rintro ⟨content,same,client⟩
    cases same
    exact internalError_client ((content_client _ _ _ _).mp client)
  | rejected rejection =>
    cases rejection with
    | http status detail =>
      simp only [ClientStop,iff_false]
      rintro ⟨content,same,_,_,version,_⟩
      cases same
      simp [Rejection.content,Value.get,lookupItem] at version
    | jsonRpc code message data requestId =>
      constructor
      · rintro ⟨content,same,client⟩
        cases same
        exact (content_client _ _ _ _).mp client
      · intro client
        exact ⟨_,rfl,(content_client _ _ _ _).mpr client⟩

def ReportableRequest (server : Server Envelope) (request : Request) : Prop :=
  ∃ parsed, parseJsonBody server request = .ok parsed ∧ Reportable server request parsed

theorem prepareRequest_unread {request : Request} {stop : Stop} (failed : parseJsonBody server request = .error stop) :
    prepareRequest server request = .error stop ∧ ¬ ClientStop stop := by
  constructor
  · unfold prepareRequest parseAndValidateRequest
    rw [failed]
    rfl
  · intro client
    cases stop with
    | crashed crash => exact client
    | rejected rejection =>
      obtain ⟨status,detail,rfl,_⟩ := parseJsonBody_failing server request rejection failed
      exact client

theorem handleMessage_client {environment : Environment Envelope} {request : Request} (malformed : Malformed (seen app environment) request) :
    ClientError (handleMessage app environment request) ↔ ReportableRequest (seen app environment) request := by
  unfold handleMessage
  cases read : parseJsonBody (seen app environment) request with
  | error stop =>
    obtain ⟨prepared,other⟩ := prepareRequest_unread read
    rw [prepared]
    simp [stopReply_client,other,ReportableRequest,read]
  | ok parsed =>
    obtain ⟨stop,prepared,client⟩ := prepareRequest_malformed read (fun well => malformed ⟨parsed,read,well⟩)
    rw [prepared]
    simp [stopReply_client,client,ReportableRequest,read]

-- A malformed message is never answered in the Lambda form.
theorem handleMessage_json {environment : Environment Envelope} {request : Request} (malformed : Malformed (seen app environment) request) :
    ∃ status content, handleMessage app environment request = .response (.json status content) := by
  unfold handleMessage
  have stopped : ∃ stop, prepareRequest (seen app environment) request = .error stop := by
    cases read : parseJsonBody (seen app environment) request with
    | error stop => exact ⟨stop,(prepareRequest_unread read).1⟩
    | ok parsed =>
      obtain ⟨stop,prepared,_⟩ := prepareRequest_malformed read (fun well => malformed ⟨parsed,read,well⟩)
      exact ⟨stop,prepared⟩
  obtain ⟨stop,prepared⟩ := stopped
  rw [prepared]
  cases stop with
  | rejected rejection => exact ⟨_,_,rfl⟩
  | crashed crash => exact ⟨_,_,rfl⟩

def MalformedItem (app : App Envelope) (request : Request) (environment : Environment Envelope) : Value → Prop
  | .dict body => Malformed (seen app environment) (subRequest app request (.dict body))
  | _ => True

def ReportableItem (app : App Envelope) (request : Request) (environment : Environment Envelope) : Value → Prop
  | .dict body => ReportableRequest (seen app environment) (subRequest app request (.dict body))
  | _ => True

-- An HTTPException of the body's reading has no JSON-RPC form, whatever its status.
theorem handleMessage_status {environment : Environment Envelope} {request : Request} (malformed : Malformed (seen app environment) request)
    {status : Nat} {content : Value} (answered : handleMessage app environment request = .response (.json status content))
    (client : IsClientError content) : status = 200 := by
  unfold handleMessage at answered
  cases prepared : prepareRequest (seen app environment) request with
  | ok found =>
    cases read : parseJsonBody (seen app environment) request with
    | error stop =>
      rw [(prepareRequest_unread read).1] at prepared
      cases prepared
    | ok parsed =>
      obtain ⟨stop,stopped,_⟩ := prepareRequest_malformed read (fun well => malformed ⟨parsed,read,well⟩)
      rw [prepared] at stopped
      cases stopped
  | error stop =>
    rw [prepared] at answered
    cases stop with
    | crashed crash =>
      cases answered
      rfl
    | rejected rejection =>
      cases answered
      cases rejection with
      | jsonRpc code message data id => rfl
      | http status detail =>
        obtain ⟨_,_,version,_⟩ := client
        simp [Rejection.content,Value.get,lookupItem] at version

theorem processOne_client {environment : Environment Envelope} {request : Request} {item : Value}
    (malformed : MalformedItem app request environment item) :
    ClientElement (processOne app request environment item) ↔ ReportableItem app request environment item := by
  cases item with
  | none | bool _ | int _ | float _ _ | nonFinite _ | str _ | list _ | other _ =>
    exact ⟨fun _ => trivial,fun _ => ⟨invalidItem,rfl,_,invalidRequest,rfl,rfl,rfl,.inr (.inl rfl)⟩⟩
  | dict body =>
    obtain ⟨status,content,answered⟩ := handleMessage_json malformed
    rw [ReportableItem,← handleMessage_client malformed]
    simp only [processOne,answered,reread,ClientElement,ClientError,Except.ok.injEq,Reply.response.injEq,Response.json.injEq]
    constructor
    · rintro ⟨_,rfl,client⟩
      exact ⟨_,⟨handleMessage_status malformed answered client,rfl⟩,client⟩
    · rintro ⟨_,⟨_,rfl⟩,client⟩
      exact ⟨_,rfl,client⟩

-- What is no batch: an array that is empty or too long.
def NoBatch (app : App Envelope) (items : List Value) : Prop := items = [] ∨ app.maxBatchSize < items.length

-- Whatever is malformed, the body or an item of a batch, is answered with an error of the client.
def MalformedAnswered (app : App Envelope) (environments : Nat → Environment Envelope) (request : Request) : Prop :=
  match app.loadsBytes request.body.flatten with
  | .ok (.list items) => (NoBatch app items → ClientError (handleAsapMessage app environments request)) ∧
      (¬ NoBatch app items → ∀ i item, items[i]? = some item → MalformedItem app request (environments i) item →
        ClientElement (processOne app request (environments i) item))
  | _ => Malformed (seen app (environments 0)) request → ClientError (handleAsapMessage app environments request)

def MalformedReportable (app : App Envelope) (environments : Nat → Environment Envelope) (request : Request) : Prop :=
  match app.loadsBytes request.body.flatten with
  | .error (.other _) => ¬ Malformed (seen app (environments 0)) request
  | .ok (.list items) => ¬ NoBatch app items → ∀ i item, items[i]? = some item → MalformedItem app request (environments i) item →
      ReportableItem app request (environments i) item
  | _ => Malformed (seen app (environments 0)) request → app.allows 1 = true ∧ ReportableRequest (seen app (environments 0)) request

theorem batchErrorResponse_client (reason : String) : ClientError (batchErrorResponse reason) :=
  ⟨_,rfl,(content_client _ _ _ _).mpr (.inr (.inl rfl))⟩

theorem single_client {environments : Nat → Environment Envelope} {request : Request} (malformed : Malformed (seen app (environments 0)) request) :
    ClientError (if app.allows 1 then handleMessage app (environments 0) request else .limited) ↔
      app.allows 1 = true ∧ ReportableRequest (seen app (environments 0)) request := by
  split
  · rename_i allowed
    rw [handleMessage_client malformed]
    exact (and_iff_right allowed).symm
  · rename_i limited
    constructor
    · rintro ⟨content,same,_⟩
      cases same
    · rintro ⟨allowed,_⟩
      exact absurd allowed limited

theorem noBatch_client {environments : Nat → Environment Envelope} {request : Request} {items : List Value} (none : NoBatch app items)
    (parsed : app.loadsBytes request.body.flatten = .ok (.list items)) : ClientError (handleAsapMessage app environments request) := by
  unfold handleAsapMessage
  rw [parsed]
  simp only [handleBatch]
  split
  · exact batchErrorResponse_client _
  · rename_i some
    rw [if_pos]
    · exact batchErrorResponse_client _
    · rcases none with empty | long
      · exact absurd (by rw [empty]; rfl) some
      · simpa using long

-- A malformed request gets an error of the client exactly if it can be reported.
theorem malformed_client_error_iff {Envelope : Type} (app : App Envelope) (environments : Nat → Environment Envelope) (request : Request) :
    MalformedAnswered app environments request ↔ MalformedReportable app environments request := by
  unfold MalformedAnswered MalformedReportable
  cases parsed : app.loadsBytes request.body.flatten with
  | error failure =>
    simp only [handleAsapMessage,parsed]
    cases failure with
    | other crash => simp [ClientError]
    | undecodable => exact forall_congr' single_client
  | ok value =>
    cases value with
    | none | bool _ | int _ | float _ _ | nonFinite _ | str _ | dict _ | other _ =>
      simp only [handleAsapMessage,parsed]
      exact forall_congr' single_client
    | list items =>
      simp only
      constructor
      · rintro ⟨_,each⟩ batch i item member malformed
        exact (processOne_client malformed).mp (each batch i item member malformed)
      · intro each
        refine ⟨fun none => noBatch_client none parsed,?_⟩
        intro batch i item member malformed
        exact (processOne_client malformed).mpr (each batch i item member malformed)

def bodyWithIdList : Value :=
  .dict [(.str "jsonrpc",.str "2.0"),(.str "method",.str "asap.send"),(.str "params",.dict []),(.str "id",.list [.int 1])]

-- A server without authentication that is sent one body.
def plainApp (body : Value) (single : ∀ items, body ≠ .list items) : App Unit where
  toServer := { plainServer 100 with loads := fun _ => .ok body }
  maxBatchSize := 50
  allows _ := true
  loadsBytes _ := .ok body
  dumps _ := []
  rereads _ items same := by
    cases same
    exact absurd rfl (single items)
  agrees _ _ _ _ loaded := by
    cases loaded
    rfl
  uncompressed _ _ _ _ _ same := by cases same
  dumpJson _ := none
  floats := integersOnly

def plainEnvironment : Environment Unit where
  nonce _ := .ok ()
  dispatch _ := .crashed ⟨"","",""⟩

def idListApp : App Unit := plainApp bodyWithIdList (fun items same => by cases same)

-- The id is a list: the errors are found, but the response that names them cannot hold the id.
theorem malformed_internal_error : handleAsapMessage idListApp (fun _ => plainEnvironment) shortRequest =
      .response (.json 200 (Rejection.jsonRpc internalError "Internal error" [(.str "error",.str "Internal server error")] (.str "")).content) ∧
    ¬ MalformedAnswered idListApp (fun _ => plainEnvironment) shortRequest := by
  refine ⟨rfl,?_⟩
  intro answered
  have malformed : Malformed (seen idListApp plainEnvironment) shortRequest := by
    rintro ⟨parsed,read,well⟩
    cases read
    obtain ⟨rpcRequest,_,_,accepted,_⟩ := well
    cases accepted
  obtain ⟨content,same,client⟩ := answered malformed
  cases same
  exact internalError_client ((content_client _ _ _ _).mp client)

end ClientErrors

end Asap.RequestHandler
