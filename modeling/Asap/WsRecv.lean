import Asap.EnvelopeValidators

-- The receive loop of `WebSocketTransport`: what one inbound text frame does.
namespace Asap.Ws
open OrderedDict PythonValue

-- An `Envelope` as far as the transport and the checks of a request read it; `payload` is its
-- `payload_dict`.
structure Envelope extends EnvelopeValidators.Envelope where
  payloadType : String
  correlationId : Option String
  requiresAck : Bool
  payload : Value

-- `Envelope.model_validate` and the `original_envelope_id` of `MessageAck.model_validate`,
-- `none` where they raise; `_normalize_payload_type` over Python's character tables; `str`.
structure Models where
  envelope : Value → Option Envelope
  messageAck : Value → Option String
  normalize : String → String
  str : Value → String

-- What `decode_frame_to_json` makes of a text: `json.loads` also raises RecursionError, which
-- is no ValueError.
inductive Decoded where
  | valueError
  | recursionError
  | json (data : Value)

-- The exceptions that reach the end of the loop.
inductive Fault where
  | attributeError
  | unhashable
  | notIterable
  | badSubscript
  | validationError
  | recursionError
  | connectionClosed
  | concurrentRecv
  deriving DecidableEq

-- `loop` is the `WebSocketRemoteError(-32603, str(e))` that every waiting request gets, `timeout`
-- the `asyncio.TimeoutError` of a close.
inductive WsError where
  | remote (code message data : Value)
  | correlation (expected : String) (got : Option String)
  | loop (fault : Fault)
  | timeout (message : String)

inductive Future where
  | waiting
  | result (envelope : Envelope)
  | failed (error : WsError)
  | cancelled

def Future.done : Future → Bool
  | .waiting => false
  | _ => true

-- The tables the loop shares with the senders. Each key of `_pending` refers to the future
-- created under that request id, each value of `_pending_acks` to a `PendingAck` object.
structure Connection where
  futures : Dict String Future := .empty
  pending : List String := []
  pendingRequestIds : Dict String String := .empty
  pendingAcks : Dict String Nat := .empty
  onMessage : Bool := false
  pushed : List Envelope := []
  pongs : Nat := 0
  receiving : Bool := true

def remoteError (code message data : Value) : WsError := .remote code message (if data.truthy then data else .dict [])

-- `set_result` or `set_exception`, on a future that is not done.
def Connection.settle (c : Connection) (id : String) (outcome : Future) : Connection :=
  match c.futures.get id with
  | some .waiting => {c with futures := c.futures.set id outcome}
  | _ => c

def Connection.forget (c : Connection) (id : String) : Connection :=
  {c with pending := c.pending.erase id,pendingRequestIds := c.pendingRequestIds.erase id}

def Connection.resolve (c : Connection) (id : String) (outcome : Future) : Connection := (c.forget id).settle id outcome

-- The key that `request_id is not None and request_id in self._pending` finds. Keys are
-- strings, so that another hashable id is in no case one of them.
def Connection.pendingKey (c : Connection) (requestId : Value) : Except Fault (Option String) :=
  match requestId with
  | .list _ | .dict _ => .error .unhashable
  | .str id => .ok (if id ∈ c.pending then some id else none)
  | _ => .ok none

def heartbeat (kind : String) (items : List (Key × Value)) : Bool :=
  (lookupItem "type" items).any (fun value => value.same (.str kind)) && (lookupItem "method" items).isNone

def isClientHeartbeatPing (items : List (Key × Value)) : Bool := heartbeat "ping" items

def isAckMethod (items : List (Key × Value)) : Bool := (lookupItem "method" items).any (fun value => value.same (.str "asap.ack"))

def requestIdOf (items : List (Key × Value)) : Value := (lookupItem "id" items).getD .none
def resultOf (items : List (Key × Value)) : Value := (lookupItem "result" items).getD .none

section Frames
variable (models : Models)

-- The envelope that an `asap.ack` frame acknowledges; a frame that fails to parse names none.
def ackedId (items : List (Key × Value)) : Option String :=
  match lookupItem "params" items with
  | some (.dict params) =>
    match lookupItem "envelope" params with
    | some (.dict fields) => (models.envelope (.dict fields)).bind (fun envelope =>
      if envelope.payloadType = "MessageAck" then models.messageAck envelope.payload else none)
    | _ => none
  | _ => none

def consumeAckFrame (c : Connection) (items : List (Key × Value)) : Connection :=
  match ackedId models items with
  | none => c
  | some id => {c with pendingAcks := c.pendingAcks.erase id}

def errorOf (err : Value) : WsError :=
  match err with
  | .dict fields => remoteError ((lookupItem "code" fields).getD (.int (-32603)))
    ((lookupItem "message" fields).getD (.str "Unknown error")) ((lookupItem "data" fields).getD .none)
  | _ => remoteError (.int (-32603)) (.str (if err.truthy then models.str err else "Unknown error")) .none

def resolveErrorFrame (c : Connection) (err requestId : Value) : Except Fault Connection :=
  (c.pendingKey requestId).map (fun key => key.elim c (fun id => c.resolve id (.failed (errorOf models err))))

def resolveMissingResult (c : Connection) (items : List (Key × Value)) (requestId : Value) : Except Fault Connection :=
  (c.pendingKey requestId).map (fun key => key.elim c (fun id => c.resolve id
    (.failed (remoteError (.int (-32603)) (.str "Missing result.envelope in response") (.dict items)))))

def responsePayloadKeys : List String := ["taskresponse","mcptoolresult","mcpresourcedata"]

def assertBinds (boundKeys : List String) (requestEnvelopeId : String) (response : Envelope) : Option WsError :=
  if models.normalize response.payloadType ∉ boundKeys then none
  else if response.correlationId = some requestEnvelopeId then none
  else some (.correlation requestEnvelopeId response.correlationId)

def assertCorrelationBinds : String → Envelope → Option WsError := assertBinds models responsePayloadKeys

def boundOutcome (requestEnvelopeId : String) (envelope : Envelope) : Future :=
  match assertCorrelationBinds models requestEnvelopeId envelope with
  | some error => .failed error
  | none => .result envelope

def resolveBoundFuture (c : Connection) (envelope : Envelope) (id : String) : Connection :=
  c.resolve id (boundOutcome models ((c.pendingRequestIds.get id).getD "None") envelope)

-- Whatever the callback raises stays in `_invoke_on_message`.
def invokeOnMessage (c : Connection) (envelope : Envelope) : Connection :=
  if c.onMessage then {c with pushed := c.pushed ++ [envelope]} else c

def resolveResultFrame (c : Connection) (requestId result : Value) : Except Fault Connection :=
  match result with
  | .dict fields =>
    match (lookupItem "envelope" fields).bind models.envelope with
    | none => .error .validationError
    | some envelope => (c.pendingKey requestId).map (fun key =>
      key.elim (invokeOnMessage c envelope) (resolveBoundFuture models c envelope))
  | _ => .error .badSubscript

-- The frames that answer a request, from `request_id = data.get("id")` on.
def routeResponse (c : Connection) (items : List (Key × Value)) : Except Fault Connection :=
  match lookupItem "error" items with
  | some err => resolveErrorFrame models c err (requestIdOf items)
  | none =>
    if (resultOf items).truthy = false then resolveMissingResult c items (requestIdOf items)
    else match (resultOf items).contains "envelope" with
      | none => .error .notIterable
      | some false => resolveMissingResult c items (requestIdOf items)
      | some true => resolveResultFrame models c (requestIdOf items) (resultOf items)

def isResponse (items : List (Key × Value)) : Bool :=
  !isClientHeartbeatPing items && !(isAckMethod items && (lookupItem "params" items).isSome)

-- The pong goes out on a connection that is open.
def dispatch (c : Connection) (data : Value) : Except Fault Connection :=
  match data with
  | .dict items =>
    if isClientHeartbeatPing items then .ok {c with pongs := c.pongs + 1}
    else if isAckMethod items && (lookupItem "params" items).isSome then .ok (consumeAckFrame models c items)
    else routeResponse models c items
  | _ => .error .attributeError

-- The end of the loop: every request in flight fails.
def Connection.fail (c : Connection) (fault : Fault) : Connection :=
  {c.pending.foldl (fun c id => c.settle id (.failed (.loop fault))) c with
    pending := [],pendingRequestIds := .empty,receiving := false}

def receive (c : Connection) (frame : Decoded) : Connection :=
  match frame with
  | .valueError => c
  | .recursionError => c.fail .recursionError
  | .json data =>
    match dispatch models c data with
    | .ok next => next
    | .error fault => c.fail fault

def receiveAll : Connection → List Decoded → Connection
  | c,[] => c
  | c,frame :: rest => if c.receiving then receiveAll (receive models c frame) rest else c

def hashable : Value → Bool
  | .list _ | .dict _ => false
  | _ => true

-- The request a frame is addressed to.
def carried : Decoded → Option String
  | .json (.dict items) =>
    match requestIdOf items with
    | .str id => some id
    | _ => none
  | _ => none

-- A result the loop can take: none, a container without an envelope, or a valid envelope.
def readable (result : Value) : Bool :=
  !result.truthy || result.contains "envelope" = some false ||
    match result with
    | .dict fields => ((lookupItem "envelope" fields).bind models.envelope).isSome
    | _ => false

-- Frames that no branch of the loop raises on.
def harmless : Decoded → Bool
  | .valueError => true
  | .recursionError => false
  | .json (.dict items) => !isResponse items ||
    (hashable (requestIdOf items) && ((lookupItem "error" items).isSome || readable models (resultOf items)))
  | .json _ => false

theorem pendingKey_ok {c : Connection} {requestId : Value} (plain : hashable requestId = true) :
    ∃ key, c.pendingKey requestId = .ok key ∧ ∀ id ∈ key, requestId = .str id ∧ id ∈ c.pending := by
  cases requestId with
  | str id =>
    refine ⟨_,rfl,?_⟩
    intro other found
    split at found
    · rename_i member
      cases found
      exact ⟨rfl,member⟩
    · cases found
  | list items => cases plain
  | dict items => cases plain
  | _ => exact ⟨none,rfl,by simp⟩

theorem pendingKey_error {c : Connection} {requestId : Value} (odd : hashable requestId = false) :
    c.pendingKey requestId = .error .unhashable := by
  cases requestId with
  | list items => rfl
  | dict items => rfl
  | _ => cases odd

-- What a frame that raises nothing does to the tables.
inductive Routed (c : Connection) (items : List (Key × Value)) : Connection → Prop where
  | aside (next : Connection) (futures : next.futures = c.futures) (pending : next.pending = c.pending)
      (ids : next.pendingRequestIds = c.pendingRequestIds) (receiving : next.receiving = c.receiving) : Routed c items next
  | resolved (id : String) (outcome : Future) (finished : outcome.done = true) (named : requestIdOf items = .str id)
      (member : id ∈ c.pending) : Routed c items (c.resolve id outcome)

theorem routed_by_key {c : Connection} {items : List (Key × Value)} (elsewhere : Connection) (outcome : String → Future)
    (plain : hashable (requestIdOf items) = true) (aside : Routed c items elsewhere) (finished : ∀ id, (outcome id).done = true) :
    ∃ next, ((c.pendingKey (requestIdOf items)).map (fun key => key.elim elsewhere (fun id => c.resolve id (outcome id)))) = .ok next ∧
      Routed c items next := by
  obtain ⟨key,found,meaning⟩ := pendingKey_ok (c := c) plain
  rw [found]
  cases key with
  | none => exact ⟨elsewhere,rfl,aside⟩
  | some id =>
    obtain ⟨named,member⟩ := meaning id rfl
    exact ⟨_,rfl,.resolved id (outcome id) (finished id) named member⟩

theorem boundOutcome_done (requestEnvelopeId : String) (envelope : Envelope) :
    (boundOutcome models requestEnvelopeId envelope).done = true := by
  unfold boundOutcome
  split <;> rfl

theorem unchanged (c : Connection) (items : List (Key × Value)) : Routed c items c := .aside c rfl rfl rfl rfl

theorem consumeAckFrame_routed (c : Connection) (items : List (Key × Value)) : Routed c items (consumeAckFrame models c items) := by
  unfold consumeAckFrame
  split
  · exact unchanged c items
  · exact .aside _ rfl rfl rfl rfl

theorem invokeOnMessage_routed (c : Connection) (items : List (Key × Value)) (envelope : Envelope) :
    Routed c items (invokeOnMessage c envelope) := by
  unfold invokeOnMessage
  split
  · exact .aside _ rfl rfl rfl rfl
  · exact unchanged c items

theorem readable_cases (result : Value) : readable models result = true ↔ result.truthy = false ∨
    result.contains "envelope" = some false ∨
    ∃ fields envelope, result = .dict fields ∧ (lookupItem "envelope" fields).bind models.envelope = some envelope := by
  unfold readable
  cases result with
  | dict fields => simp [Option.isSome_iff_exists,or_assoc]
  | _ => simp

-- A dictionary with a valid envelope is not empty and has the key.
theorem enveloped_dict {fields : List (Key × Value)} {envelope : Envelope}
    (valid : (lookupItem "envelope" fields).bind models.envelope = some envelope) :
    (Value.dict fields).truthy = true ∧ (Value.dict fields).contains "envelope" = some true := by
  obtain ⟨value,found,_⟩ := Option.bind_eq_some_iff.mp valid
  refine ⟨?_,by simp [Value.contains,found]⟩
  cases fields with
  | nil => cases found
  | cons item rest => rfl

theorem routeResponse_readable (c : Connection) (items : List (Key × Value)) (plain : hashable (requestIdOf items) = true)
    (shape : (lookupItem "error" items).isSome = true ∨ readable models (resultOf items) = true) :
    ∃ next, routeResponse models c items = .ok next ∧ Routed c items next := by
  have missing : ∃ next, resolveMissingResult c items (requestIdOf items) = .ok next ∧ Routed c items next :=
    routed_by_key c _ plain (unchanged c items) (fun _ => rfl)
  unfold routeResponse
  cases failure : lookupItem "error" items with
  | some err => exact routed_by_key c _ plain (unchanged c items) (fun _ => rfl)
  | none =>
    have taken : readable models (resultOf items) = true := by simpa [failure] using shape
    rcases (readable_cases models _).mp taken with empty | without | ⟨fields,envelope,dict,valid⟩
    · simpa only [empty,if_true] using missing
    · simp only [without]
      split
      · exact missing
      · exact missing
    · obtain ⟨_,contains⟩ := enveloped_dict models valid
      simp only [dict,contains,resolveResultFrame,valid]
      split
      · exact missing
      · exact routed_by_key _ _ plain (invokeOnMessage_routed c items envelope) (fun id => boundOutcome_done models _ envelope)

theorem routeResponse_raises (c : Connection) (items : List (Key × Value))
    (bad : ¬ (hashable (requestIdOf items) = true ∧
      ((lookupItem "error" items).isSome = true ∨ readable models (resultOf items) = true))) :
    ∃ fault, routeResponse models c items = .error fault := by
  unfold routeResponse
  cases plain : hashable (requestIdOf items) with
  | false =>
    have raises := pendingKey_error (c := c) plain
    have missing : resolveMissingResult c items (requestIdOf items) = .error .unhashable := by
      simp [resolveMissingResult,raises,Except.map]
    cases lookupItem "error" items with
    | some err => exact ⟨.unhashable,by simp [resolveErrorFrame,raises,Except.map]⟩
    | none =>
      simp only [missing]
      split
      · exact ⟨_,rfl⟩
      · split
        · exact ⟨_,rfl⟩
        · exact ⟨_,rfl⟩
        · unfold resolveResultFrame
          split
          · split
            · exact ⟨_,rfl⟩
            · exact ⟨.unhashable,by simp [raises,Except.map]⟩
          · exact ⟨_,rfl⟩
  | true =>
    simp only [plain,true_and,not_or,readable_cases,not_exists,not_and] at bad
    obtain ⟨noError,truthy,contains,unread⟩ := bad
    simp only [Option.not_isSome_iff_eq_none.mp noError]
    rw [if_neg truthy]
    split
    · exact ⟨_,rfl⟩
    · rename_i without
      exact absurd without contains
    · unfold resolveResultFrame
      split
      · rename_i fields dict
        split
        · exact ⟨_,rfl⟩
        · rename_i envelope valid
          exact absurd valid (unread fields envelope dict)
      · exact ⟨_,rfl⟩

-- A harmless frame is routed; any other raises.
theorem dispatch_harmless (c : Connection) (items : List (Key × Value)) (fine : harmless models (.json (.dict items)) = true) :
    ∃ next, dispatch models c (.dict items) = .ok next ∧ Routed c items next := by
  unfold dispatch
  simp only
  split
  · exact ⟨_,rfl,.aside _ rfl rfl rfl rfl⟩
  · rename_i notPing
    split
    · exact ⟨_,rfl,consumeAckFrame_routed models c items⟩
    · rename_i notAck
      have rest : hashable (requestIdOf items) = true ∧
          ((lookupItem "error" items).isSome = true ∨ readable models (resultOf items) = true) := by
        simpa [harmless,isResponse,notPing,notAck] using fine
      exact routeResponse_readable models c items rest.1 rest.2

theorem dispatch_raises (c : Connection) (data : Value) (bad : harmless models (.json data) = false) :
    ∃ fault, dispatch models c data = .error fault := by
  cases data with
  | dict items =>
    simp only [harmless,isResponse,Bool.or_eq_false_iff,Bool.not_eq_false',Bool.and_eq_true,Bool.not_eq_true'] at bad
    obtain ⟨⟨notPing,notAck⟩,bad⟩ := bad
    simp only [dispatch,notPing,notAck]
    refine routeResponse_raises models c items ?_
    rintro ⟨plain,shape⟩
    rw [plain,Bool.true_and,Bool.or_eq_false_iff] at bad
    rcases shape with failure | taken
    · rw [failure] at bad
      cases bad.1
    · rw [taken] at bad
      cases bad.2
  | _ => exact ⟨_,rfl⟩

-- Settling one future leaves the tables and the other futures alone.
@[simp] theorem settle_pending (c : Connection) (id : String) (outcome : Future) : (c.settle id outcome).pending = c.pending := by
  unfold Connection.settle
  split <;> rfl

@[simp] theorem settle_ids (c : Connection) (id : String) (outcome : Future) :
    (c.settle id outcome).pendingRequestIds = c.pendingRequestIds := by
  unfold Connection.settle
  split <;> rfl

@[simp] theorem settle_receiving (c : Connection) (id : String) (outcome : Future) :
    (c.settle id outcome).receiving = c.receiving := by
  unfold Connection.settle
  split <;> rfl

@[simp] theorem settle_acks (c : Connection) (id : String) (outcome : Future) :
    (c.settle id outcome).pendingAcks = c.pendingAcks := by
  unfold Connection.settle
  split <;> rfl

theorem settle_other (c : Connection) (outcome : Future) {id other : String} (different : id ≠ other) :
    (c.settle id outcome).futures.get other = c.futures.get other := by
  unfold Connection.settle
  split
  · exact Dict.get_set_other _ _ different
  · rfl

theorem settle_self (c : Connection) (id : String) (outcome : Future) :
    (c.settle id outcome).futures.get id = (c.futures.get id).map (fun future => if future.done then future else outcome) := by
  unfold Connection.settle
  split
  · rename_i found
    simp [found,Future.done]
  · rename_i other
    cases found : c.futures.get id with
    | none => rfl
    | some future =>
      cases future with
      | waiting => exact absurd found other
      | _ => rfl

-- The future that a readable response stands for.
def answerOf (requestEnvelopeId : String) (items : List (Key × Value)) : Future :=
  match lookupItem "error" items with
  | some err => .failed (errorOf models err)
  | none =>
    match resultOf items with
    | .dict fields =>
      match (lookupItem "envelope" fields).bind models.envelope with
      | some envelope => boundOutcome models requestEnvelopeId envelope
      | none => .failed (remoteError (.int (-32603)) (.str "Missing result.envelope in response") (.dict items))
    | _ => .failed (remoteError (.int (-32603)) (.str "Missing result.envelope in response") (.dict items))

theorem pendingKey_member {c : Connection} {id : String} (member : id ∈ c.pending) : c.pendingKey (.str id) = .ok (some id) := by
  simp [Connection.pendingKey,member]

theorem contains_dict (fields : List (Key × Value)) :
    (Value.dict fields).contains "envelope" = some (lookupItem "envelope" fields).isSome := rfl

theorem routeResponse_answers (c : Connection) (items : List (Key × Value)) {id : String} (named : requestIdOf items = .str id)
    (member : id ∈ c.pending)
    (shape : (lookupItem "error" items).isSome = true ∨ readable models (resultOf items) = true) :
    routeResponse models c items = .ok (c.resolve id (answerOf models ((c.pendingRequestIds.get id).getD "None") items)) := by
  have key := pendingKey_member member
  unfold routeResponse answerOf
  cases failure : lookupItem "error" items with
  | some err => simp [resolveErrorFrame,named,key,Except.map]
  | none =>
    have taken : readable models (resultOf items) = true := by simpa [failure] using shape
    have missing : resolveMissingResult c items (requestIdOf items) = .ok (c.resolve id
        (.failed (remoteError (.int (-32603)) (.str "Missing result.envelope in response") (.dict items)))) := by
      simp [resolveMissingResult,named,key,Except.map]
    simp only
    rcases (readable_cases models _).mp taken with empty | without | ⟨fields,envelope,dict,valid⟩
    · rw [if_pos empty,missing]
      cases result : resultOf items with
      | dict fields =>
        rw [result] at empty
        have none : fields = [] := by simpa [Value.truthy] using empty
        simp [none,lookupItem]
      | _ => rfl
    · have result : routeResponse models c items = resolveMissingResult c items (requestIdOf items) := by
        simp only [routeResponse,failure,without,ite_self]
      simp only [routeResponse,failure] at result
      rw [result,missing]
      cases result : resultOf items with
      | dict fields =>
        rw [result,contains_dict] at without
        have absent : lookupItem "envelope" fields = none := by simpa using without
        simp [absent]
      | _ => rfl
    · obtain ⟨truthy,contains⟩ := enveloped_dict models valid
      rw [dict,truthy,contains]
      simp [resolveResultFrame,valid,named,key,Except.map,resolveBoundFuture]

theorem answerOf_done (requestEnvelopeId : String) (items : List (Key × Value)) :
    (answerOf models requestEnvelopeId items).done = true := by
  unfold answerOf
  split
  · rfl
  · split
    · split
      · exact boundOutcome_done models requestEnvelopeId _
      · rfl
    · rfl

-- A frame that answers a request: a response under its id that the loop can read.
structure Answers (frame : Decoded) (r : String) (items : List (Key × Value)) : Prop where
  object : frame = .json (.dict items)
  response : isResponse items = true
  named : requestIdOf items = .str r
  readable : (lookupItem "error" items).isSome = true ∨ readable models (resultOf items) = true

theorem receive_answers {c : Connection} {frame : Decoded} {r : String} {items : List (Key × Value)}
    (answers : Answers models frame r items) (member : r ∈ c.pending) :
    receive models c frame = c.resolve r (answerOf models ((c.pendingRequestIds.get r).getD "None") items) := by
  have response := answers.response
  simp only [isResponse,Bool.and_eq_true,Bool.not_eq_true'] at response
  rw [answers.object]
  simp only [receive,dispatch,response.1,response.2,routeResponse_answers models c items answers.named member answers.readable]
  rfl

-- The keys of the two tables.
def Corresponds (c : Connection) : Prop :=
  c.pending.Nodup ∧ ∀ id, id ∈ c.pending ↔ (c.pendingRequestIds.get id).isSome = true

theorem forget_corresponds {c : Connection} (keys : Corresponds c) (id : String) : Corresponds (c.forget id) := by
  refine ⟨keys.1.erase id,?_⟩
  intro other
  simp only [Connection.forget,keys.1.mem_erase_iff,Dict.get_erase]
  by_cases same : id = other
  · simp [same]
  · simp [same,Ne.symm same,keys.2 other]

theorem resolve_corresponds {c : Connection} (keys : Corresponds c) (id : String) (outcome : Future) :
    Corresponds (c.resolve id outcome) := by
  have kept := forget_corresponds keys id
  unfold Corresponds Connection.resolve at *
  rwa [settle_pending,settle_ids]

theorem fail_corresponds (c : Connection) (fault : Fault) : Corresponds (c.fail fault) := by
  simp [Corresponds,Connection.fail]

theorem routed_corresponds {c next : Connection} {items : List (Key × Value)} (routed : Routed c items next)
    (keys : Corresponds c) : Corresponds next := by
  cases routed with
  | aside _ _ pending ids _ =>
    unfold Corresponds at *
    rwa [pending,ids]
  | resolved id outcome _ _ _ => exact resolve_corresponds keys id outcome

-- The loop goes on, and of the pending requests only the one the frame carries is touched.
def Isolated (c : Connection) (frame : Decoded) (next : Connection) : Prop :=
  next.receiving = true ∧ ∀ id ∈ c.pending, carried frame ≠ some id →
    id ∈ next.pending ∧ next.futures.get id = c.futures.get id

theorem routed_isolated {c next : Connection} {items : List (Key × Value)} (routed : Routed c items next)
    (running : c.receiving = true) : Isolated c (.json (.dict items)) next := by
  cases routed with
  | aside _ futures pending _ receiving =>
    refine ⟨receiving.trans running,?_⟩
    intro id member _
    rw [pending,futures]
    exact ⟨member,rfl⟩
  | resolved id outcome _ named _ =>
    refine ⟨by simp [Connection.resolve,Connection.forget,running],?_⟩
    intro other member elsewhere
    have different : id ≠ other := by
      rintro rfl
      exact elsewhere (by simp [carried,named])
    refine ⟨?_,settle_other (c.forget id) outcome different⟩
    rw [Connection.resolve,settle_pending]
    exact (List.mem_erase_of_ne (Ne.symm different)).mpr member

theorem receive_harmless (c : Connection) (frame : Decoded) (fine : harmless models frame = true) :
    receive models c frame = c ∨ ∃ items, frame = .json (.dict items) ∧ Routed c items (receive models c frame) := by
  cases frame with
  | valueError => exact .inl rfl
  | recursionError => cases fine
  | json data =>
    cases data with
    | dict items =>
      obtain ⟨next,taken,routed⟩ := dispatch_harmless models c items fine
      refine .inr ⟨items,rfl,?_⟩
      simpa only [receive,taken] using routed
    | _ => cases fine

theorem receive_fails (c : Connection) (frame : Decoded) (bad : harmless models frame = false) :
    ∃ fault, receive models c frame = c.fail fault := by
  cases frame with
  | valueError => cases bad
  | recursionError => exact ⟨_,rfl⟩
  | json data =>
    obtain ⟨fault,raised⟩ := dispatch_raises models c data bad
    exact ⟨fault,by simp only [receive,raised]⟩

theorem receive_corresponds (c : Connection) (frame : Decoded) (keys : Corresponds c) : Corresponds (receive models c frame) := by
  cases fine : harmless models frame with
  | true =>
    rcases receive_harmless models c frame fine with same | ⟨items,_,routed⟩
    · rw [same]
      exact keys
    · exact routed_corresponds routed keys
  | false =>
    obtain ⟨fault,failed⟩ := receive_fails models c frame fine
    rw [failed]
    exact fail_corresponds c fault

theorem receive_isolated_iff (c : Connection) (frame : Decoded) (running : c.receiving = true) :
    Isolated c frame (receive models c frame) ↔ harmless models frame = true := by
  cases fine : harmless models frame with
  | true =>
    simp only [iff_true]
    rcases receive_harmless models c frame fine with same | ⟨items,rfl,routed⟩
    · rw [same]
      exact ⟨running,fun id member _ => ⟨member,rfl⟩⟩
    · exact routed_isolated routed running
  | false =>
    obtain ⟨fault,failed⟩ := receive_fails models c frame fine
    rw [failed]
    constructor
    · rintro ⟨still,_⟩
      cases still
    · intro impossible
      cases impossible

-- A future that is done stays as it is; a pending one that the loop leaves behind has failed.
theorem settle_all (ids : List String) (c : Connection) (outcome : Future) (id : String) (future : Future)
    (found : c.futures.get id = some future) (finished : outcome.done = true) :
    (ids.foldl (fun c id => c.settle id outcome) c).futures.get id =
      some (if future.done = true ∨ id ∉ ids then future else outcome) := by
  induction ids generalizing c future with
  | nil => simpa using found
  | cons first rest ih =>
    simp only [List.foldl_cons]
    by_cases same : first = id
    · subst same
      have settled := settle_self c first outcome
      rw [found,Option.map_some] at settled
      rw [ih _ _ settled]
      cases ended : future.done with
      | true => simp [ended]
      | false => simp [finished]
    · rw [ih _ _ ((settle_other c outcome same).trans found)]
      simp [Ne.symm same]

theorem fail_future (c : Connection) (fault : Fault) {id : String} {future : Future} (found : c.futures.get id = some future) :
    (c.fail fault).futures.get id = some (if future.done = true ∨ id ∉ c.pending then future else .failed (.loop fault)) :=
  settle_all c.pending c (.failed (.loop fault)) id future found rfl

theorem resolve_future (c : Connection) (id : String) (outcome : Future) {other : String} {future : Future}
    (found : c.futures.get other = some future) :
    (c.resolve id outcome).futures.get other = some (if future.done = true ∨ id ≠ other then future else outcome) := by
  by_cases same : id = other
  · subst same
    have settled := settle_self (c.forget id) id outcome
    rw [show (c.forget id).futures.get id = some future from found,Option.map_some] at settled
    rw [Connection.resolve,settled]
    cases future.done <;> simp
  · rw [Connection.resolve,settle_other _ outcome same]
    simpa [same,Connection.forget] using found

theorem foldl_settle_acks (ids : List String) (c : Connection) (outcome : Future) :
    (ids.foldl (fun c id => c.settle id outcome) c).pendingAcks = c.pendingAcks := by
  induction ids generalizing c with
  | nil => rfl
  | cons first rest ih => rw [List.foldl_cons,ih,settle_acks]

theorem resolve_acks (c : Connection) (id : String) (outcome : Future) : (c.resolve id outcome).pendingAcks = c.pendingAcks := by
  rw [Connection.resolve,settle_acks]
  rfl

theorem keyed_acks {c elsewhere next : Connection} {requestId : Value} {outcome : String → Future}
    (taken : (c.pendingKey requestId).map (fun key => key.elim elsewhere (fun id => c.resolve id (outcome id))) = .ok next)
    (aside : elsewhere.pendingAcks = c.pendingAcks) : next.pendingAcks = c.pendingAcks := by
  cases found : c.pendingKey requestId with
  | error fault => simp [found,Except.map] at taken
  | ok key =>
    cases key with
    | none =>
      simp only [found,Except.map,Option.elim_none,Except.ok.injEq] at taken
      rw [← taken]
      exact aside
    | some id =>
      simp only [found,Except.map,Option.elim_some,Except.ok.injEq] at taken
      rw [← taken]
      exact resolve_acks c id _

theorem routeResponse_acks {c next : Connection} {items : List (Key × Value)} (taken : routeResponse models c items = .ok next) :
    next.pendingAcks = c.pendingAcks := by
  unfold routeResponse at taken
  split at taken
  · exact keyed_acks taken rfl
  · split at taken
    · exact keyed_acks taken rfl
    · split at taken
      · cases taken
      · exact keyed_acks taken rfl
      · unfold resolveResultFrame at taken
        split at taken
        · split at taken
          · cases taken
          · refine keyed_acks taken ?_
            unfold invokeOnMessage
            split <;> rfl
        · cases taken

-- The envelope whose pending ack a frame pops.
def ackedBy : Decoded → Option String
  | .json (.dict items) => if isResponse items || isClientHeartbeatPing items then none else ackedId models items
  | _ => none

theorem receive_acks (c : Connection) (frame : Decoded) : (receive models c frame).pendingAcks =
    (ackedBy models frame).elim c.pendingAcks (fun id => c.pendingAcks.erase id) := by
  have failed : ∀ fault, (c.fail fault).pendingAcks = c.pendingAcks := fun fault => foldl_settle_acks c.pending c _
  cases frame with
  | valueError => rfl
  | recursionError => exact failed _
  | json data =>
    cases data with
    | dict items =>
      simp only [receive,dispatch,ackedBy,isResponse]
      by_cases ping : isClientHeartbeatPing items = true
      · simp [ping]
      · by_cases ack : (isAckMethod items && (lookupItem "params" items).isSome) = true
        · simp only [ping,ack,consumeAckFrame]
          cases ackedId models items <;> simp
        · simp only [ping,ack]
          cases routed : routeResponse models c items with
          | ok next => simpa using routeResponse_acks models routed
          | error fault => simpa using failed fault
    | _ => exact failed _

-- Whatever the tables hold and whatever frames have come before: the keys of the two tables
-- correspond, and a frame is isolated exactly when it is harmless; so the loop still runs
-- exactly when every frame so far was.
theorem receive_loop_isolated (c : Connection) (keys : Corresponds c) (running : c.receiving = true) (frames : List Decoded) :
    Corresponds (receiveAll models c frames) ∧
      ((receiveAll models c frames).receiving = true ↔ ∀ frame ∈ frames, harmless models frame = true) ∧
      ∀ frame, (receiveAll models c frames).receiving = true →
        (Isolated (receiveAll models c frames) frame (receive models (receiveAll models c frames) frame) ↔
          harmless models frame = true) := by
  have ends : ∀ (c : Connection) (frames : List Decoded), c.receiving = false → receiveAll models c frames = c := by
    intro c frames stopped
    cases frames with
    | nil => rfl
    | cons frame rest => simp [receiveAll,stopped]
  refine ⟨?_,?_,fun frame still => receive_isolated_iff models _ frame still⟩
  · clear running
    induction frames generalizing c with
    | nil => exact keys
    | cons frame rest ih =>
      unfold receiveAll
      split
      · exact ih _ (receive_corresponds models c frame keys)
      · exact keys
  · induction frames generalizing c with
    | nil => simp [receiveAll,running]
    | cons frame rest ih =>
      have step := receive_isolated_iff models c frame running
      rw [receiveAll,if_pos running,List.forall_mem_cons]
      cases fine : harmless models frame with
      | true =>
        have isolated := step.mpr fine
        rw [ih _ (receive_corresponds models c frame keys) isolated.1]
        simp
      | false =>
        obtain ⟨fault,failed⟩ := receive_fails models c frame fine
        have stopped : (receive models c frame).receiving = false := by rw [failed]; rfl
        rw [ends _ rest stopped,stopped]
        simp

end Frames

-- Validation as far as the samples need it: the required fields, as texts.
def fieldText (name : String) (fields : List (Key × Value)) : Option String :=
  match lookupItem name fields with
  | some (.str text) => some text
  | _ => none

def sampleModels : Models where
  envelope value :=
    match value with
    | .dict fields => do
      let id ← fieldText "id" fields
      let _ ← fieldText "asap_version" fields
      let _ ← fieldText "sender" fields
      let _ ← fieldText "recipient" fields
      let payloadType ← fieldText "payload_type" fields
      let payload ← lookupItem "payload" fields
      some ⟨⟨id,none,none⟩,payloadType,fieldText "correlation_id" fields,false,payload⟩
    | _ => none
  messageAck payload :=
    match payload with
    | .dict fields => fieldText "original_envelope_id" fields
    | _ => none
  normalize text := String.ofList ((text.toList.map Char.toLower).filter Char.isAlphanum)
  str value :=
    match value with
    | .str text => text
    | _ => (dumps spaced value).getD ""

def envelopeFields (id payloadType : String) (payload : Value) (more : List (Key × Value)) : Value :=
  .dict (([(.str "id",.str id),(.str "asap_version",.str "0.1"),(.str "sender",.str "urn:asap:agent:server"),
    (.str "recipient",.str "urn:asap:agent:client"),(.str "payload_type",.str payloadType),(.str "payload",payload)] :
    List (Key × Value)) ++ more)

def responseFrame (requestId answered : String) : Decoded :=
  .json (.dict [(.str "jsonrpc",.str "2.0"),(.str "id",.str requestId),(.str "result",.dict [(.str "envelope",
    envelopeFields "e2" "TaskResponse" (.dict [(.str "task_id",.str "t1"),(.str "status",.str "completed")])
      [(.str "correlation_id",.str answered)])])])

def errorFrame (requestId : String) : Decoded :=
  .json (.dict [(.str "jsonrpc",.str "2.0"),(.str "id",.str requestId),
    (.str "error",.dict [(.str "code",.int (-32000)),(.str "message",.str "boom")])])

def ackFrame (envelopeId : String) : Decoded :=
  .json (.dict [(.str "jsonrpc",.str "2.0"),(.str "method",.str "asap.ack"),(.str "params",.dict [(.str "envelope",
    envelopeFields "a1" "MessageAck" (.dict [(.str "original_envelope_id",.str envelopeId),(.str "status",.str "received")]) [])])])

-- Two requests wait for their answers.
def twoPending : Connection where
  futures := ⟨[("ws-req-1",.waiting),("ws-req-2",.waiting)],by decide⟩
  pending := ["ws-req-1","ws-req-2"]
  pendingRequestIds := ⟨[("ws-req-1","e0"),("ws-req-2","e1")],by decide⟩

theorem twoPending_corresponds : Corresponds twoPending := by
  refine ⟨by decide,?_⟩
  intro id
  by_cases first : id = "ws-req-1"
  · subst first
    decide
  · by_cases second : id = "ws-req-2"
    · subst second
      decide
    · simp [twoPending,first,second,Dict.get,find,Ne.symm first,Ne.symm second]

theorem receive_loop_isolated_answered :
    (receiveAll sampleModels twoPending [.valueError,ackFrame "e0",errorFrame "ws-req-1",responseFrame "ws-req-2" "e1"]).receiving =
      true := by
  refine ((receive_loop_isolated sampleModels twoPending twoPending_corresponds rfl _).2.1).mpr ?_
  simp only [List.forall_mem_cons,List.not_mem_nil,false_implies,implies_true,and_true]
  decide +kernel

-- The JSON text `[]` ends the loop and fails both.
theorem empty_array_fails_all :
    (receive sampleModels twoPending (.json (.list []))).receiving = false ∧
      ((receive sampleModels twoPending (.json (.list []))).futures.get "ws-req-1").map Future.done = some true ∧
      ((receive sampleModels twoPending (.json (.list []))).futures.get "ws-req-2").map Future.done = some true := by
  decide +kernel

end Asap.Ws
