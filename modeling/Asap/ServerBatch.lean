import Mathlib.Data.Rat.Defs
import Asap.RequestHandler

-- The response of a batch beside the requests of the batch.
namespace Asap.ServerBatch
open PythonValue StreamErrors RequestHandler

section Batch
variable {Envelope : Type} {app : App Envelope} {request : Request}

-- A row is an item of the batch with what its run finds.
theorem gather_ok (rows : List (Value × Environment Envelope)) (contents : List Value) :
    gather app request rows = .ok contents ↔
      List.Forall₂ (fun row content => processOne app request row.2 row.1 = .ok content) rows contents := by
  induction rows generalizing contents with
  | nil => simp [gather,eq_comm]
  | cons row rest ih =>
    rw [gather]
    constructor
    · intro gathered
      cases first : processOne app request row.2 row.1 with
      | error crash => simp [first,bind,Except.bind] at gathered
      | ok content =>
        cases others : gather app request rest with
        | error crash => simp [first,others,bind,Except.bind] at gathered
        | ok tail =>
          simp only [first,others,bind,Except.bind,Except.ok.injEq] at gathered
          subst gathered
          exact .cons first ((ih tail).mp others)
    · intro each
      cases each with
      | cons first others =>
        simp only [bind,Except.bind,first,(ih _).mpr others]

def rowsOf (environments : Nat → Environment Envelope) (items : List Value) : List (Value × Environment Envelope) :=
  items.zipIdx.map (fun row => (row.1,environments row.2))

theorem rowsOf_getElem? (environments : Nat → Environment Envelope) (items : List Value) (i : Nat) :
    (rowsOf environments items)[i]? = items[i]?.map (fun item => (item,environments i)) := by
  simp [rowsOf,List.getElem?_map,List.getElem?_zipIdx,Option.map_map,Function.comp_def]

theorem rowsOf_length (environments : Nat → Environment Envelope) (items : List Value) :
    (rowsOf environments items).length = items.length := by simp [rowsOf]

-- The ids of JSON-RPC compare as JSON does: a bool is no number, an integral float is one.
def isBool : Value → Bool
  | .bool _ => true
  | _ => false

def sameId (given id : Value) : Prop := given.same id = true ∧ isBool given = isBool id

def itemId : Value → Option Value
  | .dict body => lookupItem "id" body
  | _ => none

-- A response of JSON-RPC to an item: exactly one of result and error, and the id of the item or null.
def RpcResponse (item content : Value) : Prop :=
  ∃ members, content = .dict members ∧ lookupItem "jsonrpc" members = some (.str "2.0") ∧
    ((lookupItem "result" members).isSome ≠ (lookupItem "error" members).isSome) ∧
    ∃ id, lookupItem "id" members = some id ∧ (id = .none ∨ ∃ given, itemId item = some given ∧ sameId given id)

-- The batch response corresponds: as long as the batch, and at each position the response that the item
-- there is given on its own.
def Corresponds (app : App Envelope) (environments : Nat → Environment Envelope) (request : Request) (items : List Value) : Prop :=
  ∃ contents, handleAsapMessage app environments request = .response (.json 200 (.list contents)) ∧
    contents.length = items.length ∧ ∀ i item, items[i]? = some item →
      ∃ content, contents[i]? = some content ∧ RpcResponse item content ∧ processOne app request (environments i) item = .ok content

-- The outcomes of a handler that end in a JSON-RPC response.
def OutcomeAnswered (app : App Envelope) (request : Request) (id : Value) : Outcome → Prop
  | .result envelope => containsText lambdaContentType request.accept = false ∨ app.dumpJson (successContent envelope id) = none
  | .threadPoolExhausted error => writable app.toServer (exhaustedContent error) = false
  | .asapError error => error.headerSafe = true ∧ writableItems app.toServer error.data = true
  | .handlerNotFound | .crashed _ => True

-- What an item needs: its id is no bool; no HTTPException ends its preparation and no other exception
-- does, unless its id is the empty one of the fallback context; and its handler comes to such an outcome.
structure Answerable (app : App Envelope) (request : Request) (environment : Environment Envelope) (body : List (Key × Value)) : Prop where
  idKept : ∀ flag, lookupItem "id" body ≠ some (.bool flag)
  read : ∀ status detail, parseJsonBody (seen app environment) (subRequest app request (.dict body)) ≠ .error (.rejected (.http status detail))
  raised : ∀ crash, prepareRequest (seen app environment) (subRequest app request (.dict body)) = .error (.crashed crash) →
    lookupItem "id" body = some (.str "")
  handled : ∀ rpcRequest envelope, prepareRequest (seen app environment) (subRequest app request (.dict body)) = .ok (rpcRequest,envelope) →
    OutcomeAnswered app request rpcRequest.id (environment.dispatch envelope)

def ItemAnswerable (app : App Envelope) (request : Request) (environment : Environment Envelope) : Value → Prop
  | .dict body => Answerable app request environment body
  | _ => True

-- The Lambda form begins with a letter that begins no JSON.
theorem loads_lambda (floats : Floats) (text : String) : loads floats (LambdaCodec.encode text) = none := by
  obtain ⟨tail,shape⟩ : ∃ tail, (LambdaCodec.encode text).toList = 'λ' :: tail := by
    refine ⟨'1' :: ':' :: LiteralSubstitution.substitute LambdaCodec.encodeMap text.toList,?_⟩
    rw [LambdaCodec.encode,String.toList_append,String.toList_ofList]
    rfl
  have number : scanNumber floats ('λ' :: tail) = none := by
    simp [scanNumber,scanNumberText,scanMinus,scanInteger]
  have atom : scanAtom floats ('λ' :: tail) = none := by
    unfold scanAtom
    rw [scanWord_other "null" rfl (by decide),scanWord_other "true" rfl (by decide),scanWord_other "false" rfl (by decide),number,
      scanWord_other "NaN" rfl (by decide),scanWord_other "Infinity" rfl (by decide),scanWord_other "-Infinity" rfl (by decide)]
    rfl
  rw [loads,shape,skipSpace_stays tail (by decide),scanValue.eq_3]
  simp [atom]

def Carried (item id : Value) : Prop := id = .none ∨ ∃ given, itemId item = some given ∧ sameId given id

theorem error_response_iff (item : Value) (code : Int) (message : String) (data : List (Key × Value)) (id : Value) :
    RpcResponse item (Rejection.jsonRpc code message data id).content ↔ Carried item id := by
  constructor
  · rintro ⟨members,same,_,_,found,named,carried⟩
    cases same
    simp [lookupItem] at named
    exact named ▸ carried
  · intro carried
    exact ⟨_,rfl,rfl,by simp [lookupItem],id,rfl,carried⟩

theorem success_response_iff (item envelope id : Value) : RpcResponse item (successContent envelope id) ↔ Carried item id := by
  constructor
  · rintro ⟨members,same,_,_,found,named,carried⟩
    cases same
    simp [lookupItem] at named
    exact named ▸ carried
  · intro carried
    exact ⟨_,rfl,rfl,by simp [lookupItem],id,rfl,carried⟩

theorem http_response (item : Value) (status : Nat) (detail : String) : ¬ RpcResponse item (Rejection.http status detail).content := by
  rintro ⟨members,same,version,_⟩
  cases same
  simp [lookupItem] at version

theorem exhausted_response (item : Value) (error : AsapError) : ¬ RpcResponse item (exhaustedContent error) := by
  rintro ⟨members,same,version,_⟩
  cases same
  simp [lookupItem] at version

-- A reply that is a JSON-RPC response to the item.
def Answers (item : Value) (reply : Reply) : Prop := ∃ status content, reply = .response (.json status content) ∧ RpcResponse item content

theorem answers_json (item : Value) (status : Nat) (content : Value) : Answers item (.response (.json status content)) ↔ RpcResponse item content := by
  constructor
  · rintro ⟨_,_,same,response⟩
    cases same
    exact response
  · intro response
    exact ⟨status,content,rfl,response⟩

theorem answers_internal (item : Value) (crash : Crash) (id : Value) : Answers item (internal app crash id) ↔ Carried item id := by
  rw [internal,answers_json,handleInternalError,error_response_iff]

theorem answers_success (item envelope id : Value) : Answers item (rendered app 200 (successContent envelope id) id) ↔ Carried item id := by
  unfold rendered
  split
  · rw [answers_json,success_response_iff]
  · exact answers_internal item _ id

theorem answers_exhausted (item : Value) (error : AsapError) (id : Value) :
    Answers item (rendered app 503 (exhaustedContent error) id) ↔ Carried item id ∧ writable app.toServer (exhaustedContent error) = false := by
  unfold rendered
  split
  · rename_i written
    simp [answers_json,exhausted_response,written]
  · rename_i unwritten
    rw [answers_internal]
    simp [unwritten]

theorem writableItems_append {server : Server Envelope} (left right : List (Key × Value)) :
    writableItems server (left ++ right) = (writableItems server left && writableItems server right) := by
  induction left with
  | nil => simp [writableItems]
  | cons item rest ih => simp [writableItems,ih,Bool.and_assoc]

-- The data of an ASAPError has its message in it.
theorem asap_writable {server : Server Envelope} (error : AsapError) {id : Value} (written : writable server id = true) :
    writable server (Rejection.jsonRpc error.rpcCode error.message (error.data ++ [(.str "error",.str error.message)]) id).content =
      writableItems server error.data := by
  rw [writable_content _ _ _ written,writableItems_append]
  cases message : server.encodable error.message with
  | false => simp [AsapError.data,writableItems,writable,message]
  | true => simp [writableItems,writableKey,writable,message,server.ascii "error" rfl]

theorem answers_dispatched (item : Value) (payloadType : String) (outcome : Outcome) {given id : Value} (taken : requestId app.toServer given = some id) :
    Answers item (dispatched app request payloadType id outcome) ↔ Carried item id ∧ OutcomeAnswered app request id outcome := by
  have echoed := responseId_requestId taken
  have written := requestId_writable taken
  cases outcome with
  | crashed crash => simp [dispatched,answers_internal,OutcomeAnswered]
  | threadPoolExhausted error => exact answers_exhausted item error id
  | handlerNotFound =>
    simp only [dispatched,buildJsonrpcErrorForAsapException,echoed,OutcomeAnswered,and_true]
    split
    · unfold StreamErrors.render
      split
      · exact (answers_json _ _ _).trans (error_response_iff _ _ _ _ _)
      · exact answers_internal item _ id
    · exact answers_internal item _ id
  | asapError error =>
    simp only [dispatched,protocolError,buildJsonrpcErrorForAsapException,echoed,OutcomeAnswered]
    by_cases safe : error.headerSafe = true
    · rw [if_pos safe,StreamErrors.render,asap_writable error written]
      by_cases sent : writableItems app.toServer error.data = true
      · rw [if_pos sent]
        simp only [safe,sent,and_true]
        exact (answers_json _ _ _).trans (error_response_iff _ _ _ _ _)
      · rw [if_neg sent]
        simp [Answers,sent]
    · rw [if_neg safe]
      simp [Answers,safe]
  | result envelope =>
    simp only [dispatched,buildSuccessResponse,OutcomeAnswered]
    by_cases accepts : containsText lambdaContentType request.accept = true
    · rw [if_pos accepts]
      cases dumped : app.dumpJson (successContent envelope id) with
      | none => simp [answers_success]
      | some text => simp [Answers,accepts]
    · rw [if_neg accepts]
      simp [answers_success,accepts]

-- A stage whose JSON-RPC errors all carry one id.
def EchoesId (id : Value) (result : Except Stop α) : Prop :=
  ∀ code message data found, result = .error (.rejected (.jsonRpc code message data found)) → found = id

theorem EchoesId.bind {id : Value} {result : Except Stop α} {next : α → Except Stop β} (first : EchoesId id result)
    (second : ∀ value, EchoesId id (next value)) : EchoesId id (result >>= next) := by
  cases result with
  | error stop =>
    intro code message data found failed
    cases failed
    exact first code message data found rfl
  | ok value => exact second value

theorem echoes_ok (id : Value) (value : α) : EchoesId id (.ok value) := by
  intro code message data found same
  cases same

theorem echoes_crashed (id : Value) (crash : Crash) : EchoesId id (.error (.crashed crash) : Except Stop α) := by
  intro code message data found same
  cases same

theorem echoes_render {server : Server Envelope} (code : Int) (message : String) (data : List (Key × Value)) (id : Value) :
    EchoesId id (.error (StreamErrors.render server (.jsonRpc code message data id)) : Except Stop α) := by
  unfold StreamErrors.render
  split
  · intro _ _ _ found same
    cases same
    rfl
  · exact echoes_crashed id _

theorem echoes_built {server : Server Envelope} (code : Int) (data : List (Key × Value)) {given id : Value} (echoed : responseId server given = some id) :
    EchoesId id (.error (buildErrorResponse server code data given) : Except Stop α) := by
  rw [buildErrorResponse,echoed]
  exact echoes_render code _ data id

theorem echoes_asap {server : Server Envelope} (error : AsapError) (extra : String) {given id : Value} (echoed : responseId server given = some id) :
    EchoesId id (.error (buildJsonrpcErrorForAsapException server error given extra) : Except Stop α) := by
  rw [buildJsonrpcErrorForAsapException,echoed]
  simp only
  split
  · exact echoes_render _ _ _ id
  · exact echoes_crashed id _

theorem echoes_refuse {server : Server Envelope} (extra : String) (rpcRequest : RpcRequest) (checked : Except (Crash ⊕ AsapError) Unit)
    (echoed : responseId server rpcRequest.id = some rpcRequest.id) : EchoesId rpcRequest.id (refuse server extra rpcRequest checked) := by
  unfold refuse
  split
  · exact echoes_ok _ _
  · exact echoes_crashed _ _
  · exact echoes_asap _ _ echoed

theorem echoes_authenticate {server : Server Envelope} (sub : Request) (rpcRequest : RpcRequest)
    (echoed : responseId server rpcRequest.id = some rpcRequest.id) : EchoesId rpcRequest.id (authenticateRequest server sub rpcRequest) := by
  unfold authenticateRequest
  split
  · exact echoes_ok _ _
  · split
    · exact echoes_ok _ _
    · exact echoes_crashed _ _
    · exact echoes_built _ _ echoed

theorem echoes_envelope {server : Server Envelope} (rpcRequest : RpcRequest)
    (echoed : responseId server rpcRequest.id = some rpcRequest.id) : EchoesId rpcRequest.id (validateEnvelope server rpcRequest) := by
  unfold validateEnvelope
  split
  · split
    · exact echoes_built _ _ echoed
    · exact echoes_built _ _ echoed
    · split
      · exact echoes_ok _ _
      · exact echoes_crashed _ _
      · split
        · exact echoes_crashed _ _
        · exact echoes_built _ _ echoed
    · exact echoes_built _ _ echoed
  · exact echoes_built _ _ echoed

theorem echoes_sender {server : Server Envelope} (agent : Option String) (envelope : Envelope) (rpcRequest : RpcRequest)
    (echoed : responseId server rpcRequest.id = some rpcRequest.id) : EchoesId rpcRequest.id (verifySender server agent envelope rpcRequest) := by
  unfold verifySender
  split
  · exact echoes_ok _ _
  · split
    · exact echoes_ok _ _
    · exact echoes_crashed _ _
    · exact echoes_built _ _ echoed

-- From an accepted request on, every error carries its id.
theorem echoes_accepted {server : Server Envelope} (sub : Request) (rpcRequest : RpcRequest)
    (echoed : responseId server rpcRequest.id = some rpcRequest.id) : EchoesId rpcRequest.id (do
      let agent ← authenticateRequest server sub rpcRequest
      let envelope ← validateEnvelope server rpcRequest
      verifySender server agent envelope rpcRequest
      refuse server "Invalid envelope timestamp" rpcRequest (server.validateTimestamp envelope)
      refuse server "Invalid envelope nonce" rpcRequest (server.validateNonce envelope)
      .ok (rpcRequest,envelope)) := by
  apply (echoes_authenticate sub rpcRequest echoed).bind
  intro agent
  apply (echoes_envelope rpcRequest echoed).bind
  intro envelope
  apply (echoes_sender agent envelope rpcRequest echoed).bind
  intro _
  apply (echoes_refuse _ rpcRequest _ echoed).bind
  intro _
  apply (echoes_refuse _ rpcRequest _ echoed).bind
  intro _
  exact echoes_ok _ _

theorem jsonRpcRequest_id {server : Server Envelope} {body : List (Key × Value)} {rpcRequest : RpcRequest}
    (accepted : jsonRpcRequest server body = .ok rpcRequest) : ∃ given, lookupItem "id" body = some given ∧ requestId server given = some rpcRequest.id := by
  unfold jsonRpcRequest at accepted
  split at accepted
  · rename_i found
    cases accepted
    exact Option.bind_eq_some_iff.mp found
  · cases accepted

-- The id that a body is answered with: its own as the models take it, and null without one.
theorem prepared_id {server : Server Envelope} {sub : Request} {body : List (Key × Value)} (read : parseJsonBody server sub = .ok (.ok (.dict body))) :
    (∀ code message data id, prepareRequest server sub = .error (.rejected (.jsonRpc code message data id)) →
      responseId server ((lookupItem "id" body).getD .none) = some id) ∧
    ∀ rpcRequest envelope, prepareRequest server sub = .ok (rpcRequest,envelope) →
      ∃ given, lookupItem "id" body = some given ∧ requestId server given = some rpcRequest.id := by
  unfold prepareRequest parseAndValidateRequest
  rw [read]
  simp only [bind,Except.bind,validateBody]
  cases accepted : jsonRpcRequest server body with
  | error issues =>
    unfold validateJsonrpcRequest
    rw [accepted]
    simp only
    cases safe : server.safeErrors issues with
    | error crash => simp
    | ok errors =>
      simp only [reduceCtorEq,false_imp_iff,implies_true,and_true]
      cases echoed : responseId server ((lookupItem "id" body).getD .none) with
      | none => simp [buildErrorResponse,echoed]
      | some known =>
        intro code message data id failed
        have echo := echoes_built (α := Unit) (if errors.any paramsNoDict then invalidParams else invalidRequest)
          [(.str "error",.str (if errors.any paramsNoDict then "JSON-RPC 'params' must be an object" else "Invalid JSON-RPC structure")),
            (.str "validation_errors",.list errors)] echoed
        by_cases noDict : errors.any paramsNoDict = true
        · simp only [noDict,if_true] at failed echo
          rw [echo code message data id (congrArg Except.error (Except.error.inj failed))]
        · simp only [noDict] at failed echo
          rw [echo code message data id (congrArg Except.error (Except.error.inj failed))]
  | ok rpcRequest =>
    obtain ⟨given,carried,taken⟩ := jsonRpcRequest_id accepted
    have echoed := responseId_requestId taken
    have own : responseId server ((lookupItem "id" body).getD .none) = some rpcRequest.id := by
      rw [carried]
      cases given with
      | none => cases taken
      | _ => exact taken
    by_cases served : rpcRequest.method = asapMethod
    · rw [validateJsonrpcRequest_served accepted served]
      have echo := echoes_accepted sub rpcRequest echoed
      constructor
      · intro code message data id failed
        rw [own,echo code message data id failed]
      · intro other envelope prepared
        obtain ⟨agent,_,prepared⟩ := bind_ok_iff.mp prepared
        obtain ⟨found,_,prepared⟩ := bind_ok_iff.mp prepared
        obtain ⟨_,_,prepared⟩ := bind_ok_iff.mp prepared
        obtain ⟨_,_,prepared⟩ := bind_ok_iff.mp prepared
        obtain ⟨_,_,prepared⟩ := bind_ok_iff.mp prepared
        cases prepared
        exact ⟨given,carried,taken⟩
    · have unserved : validateJsonrpcRequest server body = .error (buildErrorResponse server methodNotFound [(.str "method",.str rpcRequest.method)] rpcRequest.id) := by
        unfold validateJsonrpcRequest
        rw [accepted]
        simp [served]
      rw [unserved]
      simp only [reduceCtorEq,false_imp_iff,implies_true,and_true]
      intro code message data id failed
      rw [own,echoes_built (α := Unit) methodNotFound _ echoed code message data id (congrArg Except.error (Except.error.inj failed))]

-- What the route takes for an item of an array is the body that the item's own request has, if it is read at all.
theorem parse_item {items : List Value} (batch : app.loadsBytes request.body.flatten = .ok (.list items)) {body : List (Key × Value)}
    (member : .dict body ∈ items) (environment : Environment Envelope) {parsed : Except String Value}
    (read : parseJsonBody (seen app environment) (subRequest app request (.dict body)) = .ok parsed) : parsed = .ok (.dict body) := by
  obtain ⟨text,decoded,loaded⟩ := app.rereads _ items batch _ member
  unfold parseJsonBody at read
  split at read
  · cases read
  · obtain ⟨bytes,received,read⟩ := bind_ok_iff.mp read
    obtain ⟨plain,unpacked,read⟩ := bind_ok_iff.mp read
    have sent : bytes = app.dumps (.dict body) := by
      simp only [subRequest,readBody] at received
      split at received
      · cases received
      · cases received
        rfl
    have same : plain = app.dumps (.dict body) := by
      rw [sent] at unpacked
      unfold decompressBody at unpacked
      split at unpacked
      · cases unpacked
        rfl
      · rename_i named
        simp only [not_or] at named
        split at unpacked
        · cases unpacked
        · cases unpacked
        · cases unpacked
        · rename_i found
          exact absurd found (app.uncompressed body _ _ named.1 named.2)
    rw [same] at read
    simp only [seen,decoded,loaded] at read
    cases read
    rfl

theorem carried_echo {server : Server Envelope} {body : List (Key × Value)} {id : Value}
    (echoed : responseId server ((lookupItem "id" body).getD .none) = some id) :
    Carried (.dict body) id ↔ ∀ flag, lookupItem "id" body ≠ some (.bool flag) := by
  have own : itemId (.dict body) = lookupItem "id" body := rfl
  rw [Carried,own]
  cases named : lookupItem "id" body with
  | none =>
    rw [named] at echoed
    cases echoed
    simp
  | some given =>
    rw [named,Option.getD_some] at echoed
    cases given with
    | none =>
      cases echoed
      simp
    | bool flag =>
      cases echoed
      simp [sameId,isBool]
    | int value =>
      cases echoed
      simp [sameId,Value.same_refl]
    | str text =>
      simp only [responseId,optionalStrOrInt,strOrInt] at echoed
      split at echoed
      · cases echoed
        simp [sameId,isBool,Value.same_refl]
      · cases echoed
    | float value text =>
      simp only [responseId,optionalStrOrInt,strOrInt] at echoed
      split at echoed
      · rename_i whole
        cases echoed
        have number : value = (value.num : Rat) := (Rat.coe_int_num_of_den_eq_one whole.1).symm
        simp only [reduceCtorEq,false_or,ne_eq,Option.some.injEq,not_false_eq_true,implies_true,iff_true]
        refine ⟨_,rfl,?_,rfl⟩
        simpa [Value.same,Value.number] using number
      · cases echoed
    | nonFinite _ | list _ | dict _ | other _ => cases echoed

theorem carried_empty (body : List (Key × Value)) : Carried (.dict body) (.str "") ↔ lookupItem "id" body = some (.str "") := by
  have own : itemId (.dict body) = lookupItem "id" body := rfl
  rw [Carried,own]
  constructor
  · rintro (impossible | ⟨given,named,same,_⟩)
    · cases impossible
    · rw [named]
      cases given with
      | str text =>
        simp only [Value.same,decide_eq_true_eq] at same
        rw [same]
      | none | bool _ | int _ | float _ _ | nonFinite _ | list _ | dict _ | other _ => simp [Value.same,Value.number] at same
  · intro named
    exact .inr ⟨_,named,Value.same_refl _,rfl⟩

theorem rendered_json (app : App Envelope) (status : Nat) (content id : Value) : ∃ code body, rendered app status content id = .response (.json code body) := by
  unfold rendered
  split <;> exact ⟨_,_,rfl⟩

theorem stopReply_json (app : App Envelope) (id : Value) (stop : Stop) : ∃ code body, stopReply app id stop = .response (.json code body) := by
  cases stop <;> exact ⟨_,_,rfl⟩

-- A response that is no JSON is the Lambda form of some text.
theorem handleMessage_lambda {environment : Environment Envelope} {sub : Request} {text : String}
    (answered : handleMessage app environment sub = .response (.lambda text)) : ∃ json, text = LambdaCodec.encode json := by
  unfold handleMessage at answered
  split at answered
  · rename_i stop _
    obtain ⟨_,_,same⟩ := stopReply_json app (.str "") stop
    rw [same] at answered
    cases answered
  · rename_i rpcRequest envelope _
    cases outcome : environment.dispatch envelope with
    | result dump =>
      rw [outcome] at answered
      simp only [dispatched,buildSuccessResponse] at answered
      split at answered
      · rename_i json _
        cases answered
        exact ⟨json,rfl⟩
      · obtain ⟨_,_,same⟩ := rendered_json app 200 (successContent dump rpcRequest.id) rpcRequest.id
        rw [same] at answered
        cases answered
    | threadPoolExhausted error =>
      obtain ⟨_,_,same⟩ := rendered_json app 503 (exhaustedContent error) rpcRequest.id
      simp only [outcome,dispatched,same] at answered
      cases answered
    | handlerNotFound =>
      rw [outcome] at answered
      obtain ⟨_,_,same⟩ := stopReply_json app rpcRequest.id (buildJsonrpcErrorForAsapException app.toServer
        (handlerNotFound (app.payloadType envelope)) rpcRequest.id (handlerNotFound (app.payloadType envelope)).message)
      simp only [dispatched,same] at answered
      cases answered
    | asapError error =>
      simp only [outcome,dispatched,protocolError] at answered
      split at answered <;> cases answered
    | crashed crash =>
      simp only [outcome,dispatched,internal] at answered
      cases answered

theorem processOne_answers (environment : Environment Envelope) (body : List (Key × Value)) :
    (∃ content, processOne app request environment (.dict body) = .ok content ∧ RpcResponse (.dict body) content) ↔
      Answers (.dict body) (handleMessage app environment (subRequest app request (.dict body))) := by
  unfold processOne
  simp only
  split
  · rename_i response same
    cases response with
    | json status content => simp [same,reread,answers_json]
    | lambda text =>
      obtain ⟨json,rfl⟩ := handleMessage_lambda same
      simp [same,reread,loads_lambda,Answers]
  · rename_i same
    simp [same,Answers]
  · rename_i same
    simp [same,Answers]

-- Unless an HTTPException or a crash ended it, the preparation of an item has read the item itself.
theorem item_read {items : List Value} (batch : app.loadsBytes request.body.flatten = .ok (.list items)) {body : List (Key × Value)}
    (member : .dict body ∈ items) (environment : Environment Envelope)
    (ended : ∀ stop, parseJsonBody (seen app environment) (subRequest app request (.dict body)) = .error stop →
      prepareRequest (seen app environment) (subRequest app request (.dict body)) ≠ .error stop) :
    parseJsonBody (seen app environment) (subRequest app request (.dict body)) = .ok (.ok (.dict body)) := by
  cases found : parseJsonBody (seen app environment) (subRequest app request (.dict body)) with
  | ok value => rw [parse_item batch member environment found]
  | error stop => exact absurd (prepareRequest_unread found).1 (ended stop found)

theorem answerable_crashed {environment : Environment Envelope} {body : List (Key × Value)} {crash : Crash}
    (prepared : prepareRequest (seen app environment) (subRequest app request (.dict body)) = .error (.crashed crash)) :
    Answerable app request environment body ↔ lookupItem "id" body = some (.str "") := by
  constructor
  · intro answerable
    exact answerable.raised crash prepared
  · intro empty
    refine ⟨?_,?_,fun _ _ => empty,?_⟩
    · intro flag same
      rw [empty] at same
      cases same
    · intro status detail failed
      rw [(prepareRequest_unread failed).1] at prepared
      cases prepared
    · intro rpcRequest envelope ready
      rw [prepared] at ready
      cases ready

theorem answerable_rejected {environment : Environment Envelope} {body : List (Key × Value)} {code : Int} {message : String}
    {data : List (Key × Value)} {id : Value}
    (prepared : prepareRequest (seen app environment) (subRequest app request (.dict body)) = .error (.rejected (.jsonRpc code message data id)))
    (read : parseJsonBody (seen app environment) (subRequest app request (.dict body)) = .ok (.ok (.dict body))) :
    Answerable app request environment body ↔ ∀ flag, lookupItem "id" body ≠ some (.bool flag) := by
  refine ⟨Answerable.idKept,fun kept => ⟨kept,?_,?_,?_⟩⟩
  · intro status detail failed
    rw [read] at failed
    cases failed
  · intro crash crashed
    rw [prepared] at crashed
    cases crashed
  · intro rpcRequest envelope ready
    rw [prepared] at ready
    cases ready

theorem answerable_ready {environment : Environment Envelope} {body : List (Key × Value)} {rpcRequest : RpcRequest} {envelope : Envelope}
    (prepared : prepareRequest (seen app environment) (subRequest app request (.dict body)) = .ok (rpcRequest,envelope))
    (read : parseJsonBody (seen app environment) (subRequest app request (.dict body)) = .ok (.ok (.dict body))) :
    Answerable app request environment body ↔ (∀ flag, lookupItem "id" body ≠ some (.bool flag)) ∧
      OutcomeAnswered app request rpcRequest.id (environment.dispatch envelope) := by
  refine ⟨fun answerable => ⟨answerable.idKept,answerable.handled _ _ prepared⟩,fun ⟨kept,answered⟩ => ⟨kept,?_,?_,?_⟩⟩
  · intro status detail failed
    rw [read] at failed
    cases failed
  · intro crash crashed
    rw [prepared] at crashed
    cases crashed
  · intro other found ready
    rw [prepared] at ready
    cases ready
    exact answered

theorem outcomeAnswered_sub (request : Request) (id : Value) (item : Value) (outcome : Outcome) :
    OutcomeAnswered app (subRequest app request item) id outcome ↔ OutcomeAnswered app request id outcome := by
  cases outcome <;> rfl

-- An item of a batch is answered with a response of its own exactly if it is answerable.
theorem processOne_iff {items : List Value} (batch : app.loadsBytes request.body.flatten = .ok (.list items)) {item : Value}
    (member : item ∈ items) (environment : Environment Envelope) :
    (∃ content, processOne app request environment item = .ok content ∧ RpcResponse item content) ↔ ItemAnswerable app request environment item := by
  cases item with
  | none | bool _ | int _ | float _ _ | nonFinite _ | str _ | list _ | other _ =>
    refine ⟨fun _ => trivial,fun _ => ⟨invalidItem,rfl,_,rfl,rfl,?_,.none,rfl,.inl rfl⟩⟩
    simp [lookupItem]
  | dict body =>
    rw [processOne_answers,handleMessage,ItemAnswerable]
    have itself := item_read batch member environment
    cases prepared : prepareRequest (seen app environment) (subRequest app request (.dict body)) with
    | error stop =>
      cases stop with
      | crashed crash =>
        rw [answerable_crashed prepared]
        exact (answers_internal _ crash _).trans (carried_empty body)
      | rejected rejection =>
        cases rejection with
        | http status detail =>
          have unread := prepareRequest_fromBody _ _ status detail prepared
          simp only [stopReply,answers_json,http_response,false_iff]
          intro answerable
          exact answerable.read status detail unread
        | jsonRpc code message data id =>
          have read := itself (by
            intro stop found same
            rw [prepared] at same
            cases same
            obtain ⟨_,_,impossible,_⟩ := parseJsonBody_failing _ _ _ found
            cases impossible)
          rw [answerable_rejected prepared read,← carried_echo ((prepared_id read).1 code message data id prepared)]
          exact (answers_json _ _ _).trans (error_response_iff _ _ _ _ _)
    | ok ready =>
      obtain ⟨rpcRequest,envelope⟩ := ready
      have read := itself (by
        intro stop found same
        rw [prepared] at same
        cases same)
      obtain ⟨given,named,taken⟩ := (prepared_id read).2 rpcRequest envelope prepared
      have echoed : responseId (seen app environment) ((lookupItem "id" body).getD .none) = some rpcRequest.id := by
        rw [named]
        cases given with
        | none => cases taken
        | _ => exact taken
      rw [answerable_ready prepared read,← carried_echo echoed,← outcomeAnswered_sub request rpcRequest.id (.dict body)]
      exact answers_dispatched (.dict body) (app.payloadType envelope) (environment.dispatch envelope) taken

theorem gather_getElem? {rows : List (Value × Environment Envelope)} {contents : List Value} (gathered : gather app request rows = .ok contents) :
    contents.length = rows.length ∧ ∀ (i : Nat) (row : Value × Environment Envelope), rows[i]? = some row →
      ∃ content, contents[i]? = some content ∧ processOne app request row.2 row.1 = .ok content := by
  have each := (gather_ok rows contents).mp gathered
  induction each with
  | nil => simp
  | cons first others ih =>
    have rest := ih ((gather_ok _ _).mpr others)
    refine ⟨by simp [rest.1],?_⟩
    intro i row found
    cases i with
    | zero =>
      cases found
      exact ⟨_,rfl,first⟩
    | succ i => exact rest.2 i row found

theorem gather_total (rows : List (Value × Environment Envelope)) (each : ∀ row ∈ rows, ∃ content, processOne app request row.2 row.1 = .ok content) :
    ∃ contents, gather app request rows = .ok contents := by
  induction rows with
  | nil => exact ⟨[],rfl⟩
  | cons row rest ih =>
    obtain ⟨content,first⟩ := each row List.mem_cons_self
    obtain ⟨contents,others⟩ := ih (fun other member => each other (List.mem_cons_of_mem _ member))
    exact ⟨content :: contents,by simp only [gather,first,others,bind,Except.bind]⟩

theorem handleAsapMessage_batch (environments : Nat → Environment Envelope) {items : List Value}
    (batch : app.loadsBytes request.body.flatten = .ok (.list items)) (sized : ¬ NoBatch app items) :
    handleAsapMessage app environments request = if ¬ app.allows items.length then .limited
      else match gather app request (rowsOf environments items) with
        | .error crash => .raised crash
        | .ok contents => .response (.json 200 (.list contents)) := by
  have same : handleAsapMessage app environments request = handleBatch app request (rowsOf environments items) := by
    unfold handleAsapMessage
    rw [batch]
    rfl
  have filled : rowsOf environments items ≠ [] := by
    intro empty
    have short := rowsOf_length environments items
    rw [empty] at short
    exact sized (.inl (List.length_eq_zero_iff.mp short.symm))
  have fits : ¬ app.maxBatchSize < items.length := fun long => sized (.inr long)
  rw [same]
  unfold handleBatch
  rw [if_neg filled,rowsOf_length]
  exact if_neg fits

-- A batch is answered item by item exactly if every item of it is answerable.
theorem batch_responses_iff {Envelope : Type} (app : App Envelope) (environments : Nat → Environment Envelope) (request : Request)
    (items : List Value) (batch : app.loadsBytes request.body.flatten = .ok (.list items)) (sized : ¬ NoBatch app items) :
    Corresponds app environments request items ↔ app.allows items.length = true ∧
      ∀ i item, items[i]? = some item → ItemAnswerable app request (environments i) item := by
  unfold Corresponds
  rw [handleAsapMessage_batch environments batch sized]
  constructor
  · rintro ⟨contents,answered,_,each⟩
    split at answered
    · cases answered
    · rename_i allowed
      refine ⟨by simpa using allowed,?_⟩
      intro i item found
      obtain ⟨content,_,response,made⟩ := each i item found
      exact (processOne_iff batch (List.mem_of_getElem? found) _).mp ⟨content,made,response⟩
  · rintro ⟨allowed,each⟩
    have made : ∀ row ∈ rowsOf environments items, ∃ content, processOne app request row.2 row.1 = .ok content := by
      intro row member
      obtain ⟨i,found⟩ := List.mem_iff_getElem?.mp member
      rw [rowsOf_getElem?] at found
      obtain ⟨item,here,rfl⟩ := Option.map_eq_some_iff.mp found
      obtain ⟨content,made,_⟩ := (processOne_iff batch (List.mem_of_getElem? here) _).mpr (each i item here)
      exact ⟨content,made⟩
    obtain ⟨contents,gathered⟩ := gather_total _ made
    obtain ⟨length,elements⟩ := gather_getElem? gathered
    refine ⟨contents,?_,length.trans (rowsOf_length environments items),?_⟩
    · simp [allowed,gathered]
    · intro i item found
      obtain ⟨content,here,own⟩ := elements i (item,environments i) (by rw [rowsOf_getElem?,found]; rfl)
      obtain ⟨other,again,response⟩ := (processOne_iff batch (List.mem_of_getElem? found) _).mpr (each i item found)
      rw [own] at again
      cases again
      exact ⟨content,here,response,own⟩

def sendItem : Value :=
  .dict [(.str "jsonrpc",.str "2.0"),(.str "method",.str "asap.send"),(.str "params",.dict [(.str "envelope",.dict [])]),(.str "id",.str "req-1")]

-- A server that is sent a batch of one request.
theorem plain_ascii (text : String) (plain : text.toList.all (fun c => decide (c.toNat < 128)) = true) :
    (plainServer 100).encodable text = true :=
  (plainServer 100).ascii text plain

def batchApp : App Unit where
  toServer := { plainServer 100 with
    ascii := plain_ascii
    decodeUtf8 := fun bytes => .ok (if bytes = [1] then "1" else "[1]")
    loads := fun text => if text = "1" then .ok sendItem else .ok (.list [sendItem]) }
  maxBatchSize := 50
  allows _ := true
  loadsBytes bytes := if bytes = [1] then .ok sendItem else .ok (.list [sendItem])
  dumps _ := [1]
  rereads bytes items same item member := by
    split at same
    · cases same
    · cases same
      cases List.mem_singleton.mp member
      exact ⟨"1",rfl,rfl⟩
  agrees bytes text value decoded loaded := by
    cases decoded
    split at loaded <;> simp_all
  uncompressed _ _ _ _ _ same := by cases same
  dumpJson _ := none
  floats := integersOnly

def comesTo (outcome : Outcome) : Environment Unit where
  nonce _ := .ok ()
  dispatch _ := outcome

theorem oneItem_sized : ¬ NoBatch batchApp [sendItem] := by
  rintro (empty | long)
  · cases empty
  · exact absurd long (by decide)

theorem batch_responses_one : ¬ NoBatch batchApp [sendItem] ∧
    (Corresponds batchApp (fun _ => comesTo (.result (.dict []))) shortRequest [sendItem] ↔ batchApp.allows 1 = true ∧
      ∀ (i : Nat) item, [sendItem][i]? = some item → ItemAnswerable batchApp shortRequest (comesTo (.result (.dict []))) item) :=
  ⟨oneItem_sized,batch_responses_iff batchApp (fun _ => comesTo (.result (.dict []))) shortRequest [sendItem] rfl oneItem_sized⟩

def poolError : AsapError where
  code := "asap:transport/thread_pool_exhausted"
  rpcCode := -32031
  message := "Thread pool exhausted: 1/1 threads in use. Service temporarily unavailable."
  details := [(.str "max_threads",.int 1),(.str "active_threads",.int 1)]
  retryAfterMs := some 1000
  fallbackAction := some "retry_later"
  recoverable := true

-- Without a free thread the element is the body of the 503, and no JSON-RPC response.
theorem batch_exhausted :
    handleAsapMessage batchApp (fun _ => comesTo (.threadPoolExhausted poolError)) shortRequest = .response (.json 200 (.list [exhaustedContent poolError])) ∧
    ¬ Corresponds batchApp (fun _ => comesTo (.threadPoolExhausted poolError)) shortRequest [sendItem] := by
  have answered : handleAsapMessage batchApp (fun _ => comesTo (.threadPoolExhausted poolError)) shortRequest =
      .response (.json 200 (.list [exhaustedContent poolError])) := rfl
  refine ⟨answered,?_⟩
  rintro ⟨contents,same,_,each⟩
  rw [answered] at same
  cases same
  obtain ⟨content,here,response,_⟩ := each 0 sendItem rfl
  cases here
  exact exhausted_response _ _ response
end Batch

end Asap.ServerBatch
