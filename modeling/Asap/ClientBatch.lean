import Asap.SseStream

-- `ASAPClient.batch`: one JSON-RPC array out, one array of answers back.
namespace Asap.ClientBatch
open OrderedDict PythonValue SseStream

inductive BatchError where
  | empty
  | webSocket
  | notConnected
  | status (code : Nat)
  | undecodable (text : String)
  | notAnArray
  | remote (code : Int) (message : String)
  | correlation (requestId : String) (correlationId : Option String)
  | validation
  | fault (fault : ClientSend.Fault)
  deriving DecidableEq

structure Client where
  wsTransport : Bool := false
  connected : Bool := true

-- The answer of the server; `decoded` is what `response.json()` makes of the body.
structure Response where
  status : Nat
  decoded : Except String Value

section Batch
variable {Envelope : Type} (codec : Codec Envelope) (id : Envelope → String)

def batchBody (envelopes : List Envelope) : Value :=
  .list (envelopes.map (fun env => .dict [(.str "jsonrpc",.str "2.0"),(.str "method",.str "asap.send"),
    (.str "params",.dict [(.str "envelope",.dict (codec.modelDump env))]),(.str "id",.str (id env))]))

-- Envelopes of one id share an entry, the last one's.
def requestsById (envelopes : List Envelope) : Dict String Envelope :=
  envelopes.foldl (fun requests env => requests.set (id env) env) .empty

def correlationBinds (requestId : String) (response : Envelope) : Bool :=
  !ClientSend.responsePayloadKeys.contains (codec.texts.normalizePayloadType (codec.payloadType response)) ||
    decide (codec.correlationId response = some requestId)

-- `str(rpc_id)` of an id that is not None.
def rpcId (item : Value) : Option String :=
  match item.get "id" with
  | some (some .none) => none
  | some (some value) => some (codec.texts.str value)
  | _ => none

def subRequestError (item : Value) : BatchError :=
  match item with
  | .dict items =>
    match lookupItem "error" items with
    | some (.dict error) =>
      let data := match lookupItem "data" error with
        | some (.dict data) => data
        | _ => []
      match (ClientSend.toInt codec.texts ((lookupItem "code" error).getD (.int (-32603)))).bind (fun code =>
          (ClientSend.recoveryHints codec.texts data).map (fun _ => code)) with
      | .ok code => .remote code (((lookupItem "message" error).map codec.texts.str).getD "Batch sub-request error")
      | .error fault => .fault fault
    | _ => .fault .attributeError
  | _ => .fault .typeError

-- The envelope of an item: `result["envelope"]`, or the result itself.
def responseEnvelope (item : Value) : Except BatchError Envelope :=
  match item.contains "error" with
  | none => .error (.fault .typeError)
  | some true => .error (subRequestError codec item)
  | some false =>
    match item.get "result" with
    | none => .error (.fault .attributeError)
    | some result =>
      match (result.getD (.dict [])).get "envelope" with
      | none => .error (.fault .attributeError)
      | some found =>
        match codec.modelValidate (found.getD (result.getD (.dict []))) with
        | none => .error .validation
        | some response => .ok response

-- One turn of the loop over the answers.
def readItem (requests : Dict String Envelope) (item : Value) : Except BatchError Envelope := do
  let response ← responseEnvelope codec item
  match (rpcId codec item).bind requests.get with
  | none => .error (.correlation ((rpcId codec item).getD "") (codec.correlationId response))
  | some request =>
    if correlationBinds codec (id request) response then .ok response
    else .error (.correlation (id request) (codec.correlationId response))

def readItems (requests : Dict String Envelope) : List Value → Except BatchError (List Envelope)
  | [] => .ok []
  | item :: rest => do
    let response ← readItem codec id requests item
    let others ← readItems requests rest
    .ok (response :: others)

def readResponse (envelopes : List Envelope) (response : Response) : Except BatchError (List Envelope) :=
  if ¬ (200 ≤ response.status ∧ response.status ≤ 299) then .error (.status response.status)
  else match response.decoded with
    | .error text => .error (.undecodable text)
    | .ok (.list items) => readItems codec id (requestsById id envelopes) items
    | .ok _ => .error .notAnArray

-- `post` is the peer: its answer to the body.
def batch (client : Client) (envelopes : List Envelope) (post : Value → Response) : Except BatchError (List Envelope) :=
  if envelopes.isEmpty then .error .empty
  else if client.wsTransport then .error .webSocket
  else if !client.connected then .error .notConnected
  else readResponse codec id envelopes (post (batchBody codec id envelopes))

-- An answer is bound to a request by its JSON-RPC id and, for a response payload, by its
-- correlation id.
structure Bound (env : Envelope) (item : Value) (response : Envelope) : Prop where
  named : rpcId codec item = some (id env)
  correlated : correlationBinds codec (id env) response = true

-- One response for each envelope, the i-th one from an item that is bound to the i-th envelope.
def Corresponds (envelopes : List Envelope) (items : List Value) (out : List Envelope) : Prop :=
  out.length = envelopes.length ∧ ∀ (i : Nat) env response, envelopes[i]? = some env → out[i]? = some response →
    ∃ item, items[i]? = some item ∧ Bound codec id env item response

-- The items of an answer, if it is an array.
def Response.items (response : Response) : List Value :=
  match response.decoded with
  | .ok (.list items) => items
  | _ => []

-- The ids of the answer, in order, are those of the envelopes.
def InOrder (envelopes : List Envelope) (items : List Value) : Prop :=
  items.map (rpcId codec) = envelopes.map (fun env => some (id env))

-- An item that the loop takes: no error, an envelope in it, bound to one that was sent.
structure Answers (envelopes : List Envelope) (item : Value) (response : Envelope) : Prop where
  plain : item.contains "error" = some false
  validated : ∃ result found, item.get "result" = some result ∧ (result.getD (.dict [])).get "envelope" = some found ∧
    codec.modelValidate (found.getD (result.getD (.dict []))) = some response
  bound : ∃ env ∈ envelopes, Bound codec id env item response

-- A successful answer with an array of such items, to a client that can ask.
structure Accepted (client : Client) (envelopes : List Envelope) (response : Response) : Prop where
  http : client.wsTransport = false ∧ client.connected = true
  success : 200 ≤ response.status ∧ response.status ≤ 299
  array : response.decoded = .ok (.list response.items)
  each : ∀ item ∈ response.items, ∃ read, Answers codec id envelopes item read

theorem requestsById_append (envelopes : List Envelope) (env : Envelope) :
    requestsById id (envelopes ++ [env]) = (requestsById id envelopes).set (id env) env := by
  simp [requestsById]

theorem requestsById_get (envelopes : List Envelope) (key : String) (env : Envelope)
    (found : (requestsById id envelopes).get key = some env) : env ∈ envelopes ∧ id env = key := by
  induction envelopes using List.reverseRecOn with
  | nil => simp [requestsById] at found
  | append_singleton earlier last ih =>
    rw [requestsById_append,Dict.get_set] at found
    split at found
    · rename_i same
      cases found
      exact ⟨by simp,same⟩
    · obtain ⟨sent,named⟩ := ih found
      exact ⟨by simp [sent],named⟩

theorem requestsById_sent (envelopes : List Envelope) (env : Envelope) (sent : env ∈ envelopes) :
    ∃ last, (requestsById id envelopes).get (id env) = some last := by
  induction envelopes using List.reverseRecOn with
  | nil => simp at sent
  | append_singleton earlier last ih =>
    rw [requestsById_append,Dict.get_set]
    split
    · exact ⟨last,rfl⟩
    · rename_i different
      refine ih ?_
      rcases List.mem_append.mp sent with earlierSent | isLast
      · exact earlierSent
      · cases List.mem_singleton.mp isLast
        exact absurd rfl different

theorem responseEnvelope_ok_iff (item : Value) (response : Envelope) :
    responseEnvelope codec item = .ok response ↔ item.contains "error" = some false ∧
      ∃ result found, item.get "result" = some result ∧ (result.getD (.dict [])).get "envelope" = some found ∧
        codec.modelValidate (found.getD (result.getD (.dict []))) = some response := by
  constructor
  · intro read
    simp only [responseEnvelope] at read
    split at read
    · cases read
    · cases read
    · rename_i plain
      split at read
      · cases read
      · rename_i result hasResult
        split at read
        · cases read
        · rename_i found hasEnvelope
          split at read
          · cases read
          · rename_i validated
            cases read
            exact ⟨plain,result,found,hasResult,hasEnvelope,validated⟩
  · rintro ⟨plain,result,found,hasResult,hasEnvelope,validated⟩
    simp only [responseEnvelope,plain,hasResult,hasEnvelope,validated]

-- What one turn of the loop lets through.
theorem readItem_ok_iff (envelopes : List Envelope) (item : Value) (response : Envelope) :
    readItem codec id (requestsById id envelopes) item = .ok response ↔ Answers codec id envelopes item response := by
  constructor
  · intro read
    cases taken : responseEnvelope codec item with
    | error error => simp [readItem,taken,bind,Except.bind] at read
    | ok answer =>
      simp only [readItem,taken,bind,Except.bind] at read
      obtain ⟨plain,validated⟩ := (responseEnvelope_ok_iff codec item answer).mp taken
      split at read
      · cases read
      · rename_i request known
        split at read
        · rename_i correlated
          cases read
          obtain ⟨key,named,found⟩ := Option.bind_eq_some_iff.mp known
          obtain ⟨sent,same⟩ := requestsById_get id envelopes key request found
          exact ⟨plain,validated,request,sent,by rw [named,same],correlated⟩
        · cases read
  · rintro ⟨plain,validated,env,sent,named,correlated⟩
    have taken := (responseEnvelope_ok_iff codec item response).mpr ⟨plain,validated⟩
    obtain ⟨last,found⟩ := requestsById_sent id envelopes env sent
    have same := (requestsById_get id envelopes (id env) last found).2
    have known : (rpcId codec item).bind (requestsById id envelopes).get = some last := by rw [named]; exact found
    have correlated : correlationBinds codec (id last) response = true := by rw [same]; exact correlated
    simp only [readItem,taken,bind,Except.bind,known,correlated,if_true]

theorem readItems_cons (requests : Dict String Envelope) (item : Value) (rest : List Value) (out : List Envelope)
    (read : readItems codec id requests (item :: rest) = .ok out) :
    ∃ response others, readItem codec id requests item = .ok response ∧ readItems codec id requests rest = .ok others ∧
      out = response :: others := by
  cases first : readItem codec id requests item with
  | error error => simp [readItems,first,bind,Except.bind] at read
  | ok response =>
    cases later : readItems codec id requests rest with
    | error error => simp [readItems,first,later,bind,Except.bind] at read
    | ok others =>
      simp only [readItems,first,later,bind,Except.bind,Except.ok.injEq] at read
      exact ⟨response,others,rfl,rfl,read.symm⟩

-- The loop goes over the answers, not over the envelopes: one response for each item.
theorem readItems_getElem? (requests : Dict String Envelope) (items : List Value) (out : List Envelope)
    (read : readItems codec id requests items = .ok out) :
    out.length = items.length ∧ ∀ (i : Nat) item, items[i]? = some item →
      ∃ response, out[i]? = some response ∧ readItem codec id requests item = .ok response := by
  induction items generalizing out with
  | nil =>
    cases read
    simp
  | cons first rest ih =>
    obtain ⟨response,others,head,tail,rfl⟩ := readItems_cons codec id requests first rest out read
    obtain ⟨sameLength,pointwise⟩ := ih others tail
    refine ⟨by simp [sameLength],fun i item atIndex => ?_⟩
    cases i with
    | zero =>
      cases Option.some.inj atIndex
      exact ⟨response,rfl,head⟩
    | succ i =>
      simp only [List.getElem?_cons_succ] at atIndex ⊢
      exact pointwise i item atIndex

theorem readItems_total (requests : Dict String Envelope) (items : List Value)
    (each : ∀ item ∈ items, ∃ response, readItem codec id requests item = .ok response) :
    ∃ out, readItems codec id requests items = .ok out := by
  induction items with
  | nil => exact ⟨[],rfl⟩
  | cons first rest ih =>
    obtain ⟨response,head⟩ := each first (by simp)
    obtain ⟨others,tail⟩ := ih (fun item inside => each item (by simp [inside]))
    exact ⟨response :: others,by simp [readItems,head,tail,bind,Except.bind]⟩

theorem readResponse_ok (envelopes : List Envelope) (response : Response) (out : List Envelope)
    (returned : readResponse codec id envelopes response = .ok out) :
    (200 ≤ response.status ∧ response.status ≤ 299) ∧ response.decoded = .ok (.list response.items) ∧
      readItems codec id (requestsById id envelopes) response.items = .ok out := by
  simp only [readResponse] at returned
  split at returned
  · cases returned
  · rename_i success
    split at returned
    · cases returned
    · rename_i items decoded
      have same : response.items = items := by simp [Response.items,decoded]
      rw [same]
      exact ⟨not_not.mp success,decoded,returned⟩
    · cases returned

theorem batch_ok (client : Client) (envelopes : List Envelope) (post : Value → Response) (out : List Envelope)
    (returned : batch codec id client envelopes post = .ok out) :
    Accepted codec id client envelopes (post (batchBody codec id envelopes)) ∧
      readItems codec id (requestsById id envelopes) (post (batchBody codec id envelopes)).items = .ok out := by
  simp only [batch] at returned
  split at returned
  · cases returned
  · split at returned
    · cases returned
    · rename_i noWs
      split at returned
      · cases returned
      · rename_i connected
        obtain ⟨success,array,read⟩ := readResponse_ok codec id envelopes _ out returned
        refine ⟨⟨⟨by simpa using noWs,by simpa using connected⟩,success,array,fun item inside => ?_⟩,read⟩
        obtain ⟨i,inRange,atIndex⟩ := List.mem_iff_getElem.mp inside
        have found := (List.getElem?_eq_getElem inRange).trans (congrArg some atIndex)
        obtain ⟨answer,-,taken⟩ := (readItems_getElem? codec id _ _ out read).2 i item found
        exact ⟨answer,(readItem_ok_iff codec id envelopes item answer).mp taken⟩

theorem batch_accepted (client : Client) (envelopes : List Envelope) (filled : envelopes ≠ []) (post : Value → Response)
    (accepted : Accepted codec id client envelopes (post (batchBody codec id envelopes))) :
    ∃ out, batch codec id client envelopes post = .ok out := by
  obtain ⟨⟨noWs,connected⟩,success,array,each⟩ := accepted
  obtain ⟨out,read⟩ := readItems_total codec id (requestsById id envelopes) _ (fun item inside => by
    obtain ⟨answer,taken⟩ := each item inside
    exact ⟨answer,(readItem_ok_iff codec id envelopes item answer).mpr taken⟩)
  refine ⟨out,?_⟩
  have notEmpty : envelopes.isEmpty = false := by simp [filled]
  simp only [batch,readResponse,notEmpty,noWs,connected,success,array,Bool.false_eq_true,Bool.not_true,and_self,not_true,if_false]
  exact read

theorem corresponds_inOrder (envelopes out : List Envelope) (items : List Value) (sameLength : out.length = items.length)
    (corresponds : Corresponds codec id envelopes items out) : InOrder codec id envelopes items := by
  obtain ⟨lengths,pointwise⟩ := corresponds
  refine List.ext_getElem (by simp [← sameLength,lengths]) (fun i inItems inEnvelopes => ?_)
  simp only [List.length_map] at inItems inEnvelopes
  have inOut : i < out.length := by omega
  obtain ⟨item,found,bound⟩ := pointwise i envelopes[i] out[i] (List.getElem?_eq_getElem inEnvelopes) (List.getElem?_eq_getElem inOut)
  have same : items[i] = item := Option.some.inj ((List.getElem?_eq_getElem inItems).symm.trans found)
  simp only [List.getElem_map,same]
  exact bound.named

theorem inOrder_corresponds (envelopes out : List Envelope) (items : List Value)
    (read : readItems codec id (requestsById id envelopes) items = .ok out) (inOrder : InOrder codec id envelopes items) :
    Corresponds codec id envelopes items out := by
  obtain ⟨sameLength,pointwise⟩ := readItems_getElem? codec id (requestsById id envelopes) items out read
  have lengths : items.length = envelopes.length := by simpa using congrArg List.length inOrder
  refine ⟨sameLength.trans lengths,fun i env response atEnvelope atOut => ?_⟩
  have named : (items.map (rpcId codec))[i]? = some (some (id env)) := by rw [inOrder]; simp [atEnvelope]
  rw [List.getElem?_map,Option.map_eq_some_iff] at named
  obtain ⟨item,found,named⟩ := named
  obtain ⟨same,atSame,taken⟩ := pointwise i item found
  cases Option.some.inj (atOut.symm.trans atSame)
  obtain ⟨-,-,request,-,bound⟩ := (readItem_ok_iff codec id envelopes item response).mp taken
  -- The item names its request's id and this envelope's: one id, so one correlation check.
  have sameId : id request = id env := Option.some.inj (bound.named.symm.trans named)
  exact ⟨item,found,named,sameId ▸ bound.correlated⟩

theorem batch_corresponds_iff (client : Client) (envelopes : List Envelope) (filled : envelopes ≠ []) (post : Value → Response) :
    (∀ out, batch codec id client envelopes post = .ok out →
      Corresponds codec id envelopes (post (batchBody codec id envelopes)).items out) ↔
    (Accepted codec id client envelopes (post (batchBody codec id envelopes)) →
      InOrder codec id envelopes (post (batchBody codec id envelopes)).items) := by
  constructor
  · intro holds accepted
    obtain ⟨out,returned⟩ := batch_accepted codec id client envelopes filled post accepted
    obtain ⟨-,read⟩ := batch_ok codec id client envelopes post out returned
    have sameLength := (readItems_getElem? codec id _ _ out read).1
    exact corresponds_inOrder codec id envelopes out _ sameLength (holds out returned)
  · intro inOrder out returned
    obtain ⟨accepted,read⟩ := batch_ok codec id client envelopes post out returned
    exact inOrder_corresponds codec id envelopes out _ read (inOrder accepted)

end Batch

structure Reply where
  id : String
  answers : String
  deriving DecidableEq

def replyOf : Value → Option Reply
  | .dict items =>
    match lookupItem "id" items,lookupItem "correlation_id" items with
    | some (.str id),some (.str answers) => some ⟨id,answers⟩
    | _,_ => none
  | _ => none

def strOf : Value → String
  | .str text => text
  | _ => ""

def replyCodec : Codec Reply where
  modelDump reply := [(.str "id",.str reply.id),(.str "correlation_id",.str reply.answers)]
  modelValidate := replyOf
  payloadType _ := "TaskResponse"
  correlationId reply := some reply.answers
  texts := ⟨fun _ => .error "",fun text => if text = "TaskResponse" then "taskresponse" else text,fun _ => none,strOf⟩

def answerItem (rpcId : String) (reply : Reply) : Value :=
  .dict [(.str "jsonrpc",.str "2.0"),(.str "result",.dict [(.str "envelope",.dict (replyCodec.modelDump reply))]),(.str "id",.str rpcId)]

def twoRequests : List Reply := [⟨"a",""⟩,⟨"b",""⟩]
def bothAnswered : Response := ⟨200,.ok (.list [answerItem "a" ⟨"x","a"⟩,answerItem "b" ⟨"y","b"⟩])⟩
def onlySecond : Response := ⟨200,.ok (.list [answerItem "b" ⟨"y","b"⟩])⟩

theorem batch_corresponds_two : twoRequests ≠ [] ∧
    batch replyCodec Reply.id {} twoRequests (fun _ => bothAnswered) = .ok [⟨"x","a"⟩,⟨"y","b"⟩] ∧
    (∀ out, batch replyCodec Reply.id {} twoRequests (fun _ => bothAnswered) = .ok out →
      Corresponds replyCodec Reply.id twoRequests bothAnswered.items out) :=
  ⟨by decide,by decide +kernel,
    (batch_corresponds_iff replyCodec Reply.id {} twoRequests (by decide) (fun _ => bothAnswered)).mpr (fun _ => by rfl)⟩

-- One answer to two requests: the response to the second is returned in the first's place.
theorem batch_short : twoRequests ≠ [] ∧ batch replyCodec Reply.id {} twoRequests (fun _ => onlySecond) = .ok [⟨"y","b"⟩] ∧
    ¬ Corresponds replyCodec Reply.id twoRequests onlySecond.items [⟨"y","b"⟩] :=
  ⟨by decide,by decide +kernel,fun corresponds => absurd corresponds.1 (by decide)⟩

end Asap.ClientBatch
