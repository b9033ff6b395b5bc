import Asap.Interleaving
import Asap.RequestHandler
import Asap.TokenBucket

-- The receive loop of a server's WebSocket connection: what one frame makes the server do.
namespace Asap.WsServer
open PythonValue StreamErrors RequestHandler TokenBucket Interleaving

-- `WSCloseAction`
inductive CloseAction where
  | continueLoop
  | closeRateLimited
  | closeFatal
  deriving DecidableEq

-- What a frame makes the server do, in order.
inductive Event where
  | token
  | sent (frame : Value)
  | handled

-- How a streaming handler ends.
inductive StreamEnd where
  | finished
  | asapError (error : AsapError)
  | crashed (crash : Crash)

-- What the handlers and the nonce store answer while one frame is processed.
structure Surroundings (Envelope : Type) extends Environment Envelope where
  dispatchStream : Envelope → List Value × StreamEnd

-- `dumpError` is what `json.dumps` raises of a value nested too deep; `ackEnvelope` is the dump of a
-- MessageAck with a status and an error, or what its models raise; `handshake` has the headers the
-- connection was opened with; `subscriptions` is whether SLA breaches can be subscribed to.
structure Endpoint (Envelope : Type) extends Server Envelope where
  dumpError : Value → Option Crash
  ackEnvelope : Envelope → String → Option String → Except Crash Value
  requiresAck : Envelope → Bool
  id : Envelope → String
  handshake : Request
  subscriptions : Bool

-- One inbound text frame, with the clock as the bucket reads it.
structure Arrival (Envelope K : Type) where
  raw : String
  now : K
  surroundings : Surroundings Envelope

-- What processing one frame came to.
structure Turn where
  events : List Event
  result : Except Crash CloseAction

section Process
variable {Envelope : Type} (endpoint : Endpoint Envelope)

def raise (typeName : String) (value : Value) : Crash := crashOf endpoint.toServer typeName value

def item (items : List (Key × Value)) (name : String) : Value := (lookupItem name items).getD .none

def isText (text : String) : Value → Bool
  | .str other => other = text
  | _ => false

def isHeartbeatPong (items : List (Key × Value)) : Bool := isText "pong" (item items "type") && (lookupItem "method" items).isNone

-- `method in self._handlers`; `none` is the TypeError of what is not hashable.
def handles : Value → Option Bool
  | .list _ | .dict _ => none
  | method => some (isText "sla.subscribe" method || isText "sla.unsubscribe" method)

def subscriptionFrame (method id : Value) : Value :=
  .dict [(.str "jsonrpc",.str "2.0"),
    (.str "result",.dict [(.str (if isText "sla.subscribe" method then "subscribed" else "unsubscribed"),.bool true)]),(.str "id",id)]

def rateLimitFrame (id : Value) : Value :=
  .dict [(.str "jsonrpc",.str "2.0"),
    (.str "error",.dict [(.str "code",.int (-32001)),(.str "message",.str "Rate limit exceeded; too many messages per second")]),(.str "id",id)]

def ackFrame (envelope : Value) : Value :=
  .dict [(.str "jsonrpc",.str "2.0"),(.str "method",.str "asap.ack"),(.str "params",.dict [(.str "envelope",envelope)])]

-- The text that `json.dumps` makes of a frame is plain ASCII, so sending it adds no error of its own.
def sendJson (frame : Value) : Except Crash (List Event) :=
  match endpoint.dumpError frame with
  | some crash => .error crash
  | none => .ok [.sent frame]

-- Only the ValidationError of the model is caught.
def extractEnvelopeForAck (items : List (Key × Value)) : Except Crash (Option Envelope) :=
  match item items "params" with
  | .dict params =>
    match item params "envelope" with
    | .dict data =>
      match parseEnvelope endpoint.toServer data with
      | .ok envelope => .ok (some envelope)
      | .error (.inl crash) => .error crash
      | .error (.inr _) => .ok none
    | _ => .ok none
  | _ => .ok none

-- `_maybe_send_received_ack`, and `_send_ws_dispatch_failure` for a rejection.
def sendAck (envelopeForAck : Option Envelope) (status : String) (error : Option String) : Except Crash (List Event) :=
  match envelopeForAck with
  | none => .ok []
  | some envelope =>
    if endpoint.requiresAck envelope = false ∨ endpoint.id envelope = "" then .ok []
    else (endpoint.ackEnvelope envelope status error).map (fun dump => [.sent (ackFrame dump)])

-- The id as the frame has it, and an empty one in place of none.
def responseIdOf (items : List (Key × Value)) : Value :=
  match item items "id" with
  | .none => .str ""
  | id => id

def resultFrame (responseId envelope : Value) : Except Crash (List Event) :=
  match requestId endpoint.toServer responseId with
  | none => .error (raise endpoint "ValidationError" responseId)
  | some id => sendJson endpoint (successContent envelope id)

def asapErrorFrame (error : AsapError) (id : Value) : Except Crash (List Event) :=
  match buildJsonrpcErrorForAsapException endpoint.toServer error id error.message with
  | .rejected rejection => .ok [.sent rejection.content]
  | .crashed crash => .error crash

def internalErrorContent (crash : Crash) (responseId : Value) : Value :=
  .dict [(.str "jsonrpc",.str "2.0"),
    (.str "error",.dict [(.str "code",.int internalError),(.str "message",.str "Internal error"),
      (.str "data",.dict (if endpoint.debug then [(.str "error",.str crash.text),(.str "type",.str crash.typeName)]
        else [(.str "error",.str "Internal server error")]))]),
    (.str "id",responseId)]

def sendInternalErrorFrame (crash : Crash) (responseId : Value) : List Event × CloseAction :=
  match sendJson endpoint (internalErrorContent endpoint crash responseId) with
  | .ok events => (events,.continueLoop)
  | .error _ => ([],.closeFatal)

-- The body of the 503 in the form of a JSON-RPC error. The error has a code of its own and a text, so
-- that no default is taken.
def recoverableContent (error : AsapError) (id : Value) : Value :=
  .dict [(.str "jsonrpc",.str "2.0"),
    (.str "error",.dict [(.str "code",.int error.rpcCode),(.str "message",.str error.message),
      (.str "data",.dict (([(.str "recoverable",.bool true)] : List (Key × Value)) ++
        (error.retryAfterMs.map (fun delay => (Key.str "retry_after_ms",Value.int delay))).toList ++
        (error.fallbackAction.map (fun action => (Key.str "fallback_action",Value.str action))).toList ++
        (if error.details = [] then [] else [(.str "details",.dict error.details)] : List (Key × Value))))]),
    (.str "id",id)]

def recoverableErrorFrame (error : AsapError) (given : Value) : Except Crash (List Event) :=
  if writable endpoint.toServer (exhaustedContent error) then
    match responseId endpoint.toServer given with
    | none => .error (raise endpoint "ValidationError" given)
    | some id => sendJson endpoint (recoverableContent error id)
  else .error (raise endpoint "ValueError" (exhaustedContent error))

-- What a dispatch raises, with the text that a rejection gives as its error. Only what the handler of
-- a prepared request raises is an ASAPError, and it comes with the id of the request.
inductive Failure where
  | asapError (error : AsapError) (requestId : Value)
  | other (crash : Crash)

def Failure.text : Failure → String
  | .asapError error _ => error.message
  | .other crash => crash.text

-- A step of a dispatch: what it does, and what it raises.
abbrev Attempt := List Event × Option Failure

def sending : Except Crash (List Event) → Attempt
  | .ok events => (events,none)
  | .error crash => ([],some (.other crash))

def sendChunks (responseId : Value) : List Value → List Event × Option Crash
  | [] => ([],none)
  | chunk :: rest =>
    match resultFrame endpoint responseId chunk with
    | .error crash => ([],some crash)
    | .ok events =>
      let later := sendChunks responseId rest
      (events ++ later.1,later.2)

-- An error while streaming is answered here; what is raised by that answer goes on.
def runWsStreamDispatch (streamed : List Value × StreamEnd) (requestId responseId : Value) : Attempt :=
  let frames := sendChunks endpoint responseId streamed.1
  match frames.2,streamed.2 with
  | some crash,_ | none,.crashed crash => (.handled :: frames.1 ++ (sendInternalErrorFrame endpoint crash responseId).1,none)
  | none,.finished => (.handled :: frames.1,none)
  | none,.asapError error =>
    let answered := sending (asapErrorFrame endpoint error requestId)
    (.handled :: frames.1 ++ answered.1,answered.2)

def runOutcome (payloadType : String) (requestId responseId : Value) : Outcome → Attempt
  | .result envelope =>
    let answered := sending (resultFrame endpoint responseId envelope)
    (.handled :: answered.1,answered.2)
  | .threadPoolExhausted error => sending (recoverableErrorFrame endpoint error responseId)
  | .handlerNotFound => sending (asapErrorFrame endpoint (handlerNotFound payloadType) requestId)
  | .asapError error => ([.handled],some (.asapError error requestId))
  | .crashed crash => ([.handled],some (.other crash))

def runWsDispatch (surroundings : Surroundings Envelope) (rpcRequest : RpcRequest) (envelope : Envelope) (responseId : Value) : Attempt :=
  if endpoint.hasStreamingHandler (endpoint.payloadType envelope) then
    runWsStreamDispatch endpoint (surroundings.dispatchStream envelope) rpcRequest.id responseId
  else runOutcome endpoint (endpoint.payloadType envelope) rpcRequest.id responseId (surroundings.dispatch envelope)

def synthesizeWsRequest (raw : String) : Request := { endpoint.handshake with body := [raw.toUTF8.toList] }

-- What stands in the `try`.
def attempt (surroundings : Surroundings Envelope) (raw : String) (responseId : Value) : Attempt :=
  match prepareRequest { endpoint.toServer with validateNonce := surroundings.nonce } (synthesizeWsRequest endpoint raw) with
  | .ok (rpcRequest,envelope) => runWsDispatch endpoint surroundings rpcRequest envelope responseId
  | .error (.rejected (.http status detail)) => ([],some (.other ⟨toString status ++ ": " ++ detail,"HTTPException",""⟩))
  | .error (.rejected rejection) => ([.sent rejection.content],none)
  | .error (.crashed crash) => ([],some (.other crash))

def dispatchWsEnvelope (surroundings : Surroundings Envelope) (raw : String) (items : List (Key × Value))
    (envelopeForAck : Option Envelope) : Turn :=
  let responseId := responseIdOf items
  let tried := attempt endpoint surroundings raw responseId
  match tried.2 with
  | none => ⟨tried.1,.ok .continueLoop⟩
  | some failure =>
    match sendAck endpoint envelopeForAck "rejected" (some failure.text) with
    | .error crash => ⟨tried.1,.error crash⟩
    | .ok acks =>
      match failure with
      | .asapError error requestId =>
        match asapErrorFrame endpoint error requestId with
        | .error crash => ⟨tried.1 ++ acks,.error crash⟩
        | .ok frames => ⟨tried.1 ++ acks ++ frames,.ok .continueLoop⟩
      | .other crash =>
        let answered := sendInternalErrorFrame endpoint crash responseId
        ⟨tried.1 ++ acks ++ answered.1,.ok answered.2⟩

-- What follows the rate limit.
def answer (surroundings : Surroundings Envelope) (raw : String) (items : List (Key × Value)) : Turn :=
  match extractEnvelopeForAck endpoint items with
  | .error crash => ⟨[],.error crash⟩
  | .ok envelopeForAck =>
    match sendAck endpoint envelopeForAck "received" none with
    | .error crash => ⟨[],.error crash⟩
    | .ok acks =>
      let turn := dispatchWsEnvelope endpoint surroundings raw items envelopeForAck
      ⟨acks ++ turn.events,turn.result⟩

def sendRateLimitError (items : List (Key × Value)) : Turn :=
  match sendJson endpoint (rateLimitFrame (item items "id")) with
  | .error crash => ⟨[],.error crash⟩
  | .ok events => ⟨events,.ok .closeRateLimited⟩

def dispatchSubscription (items : List (Key × Value)) : Turn :=
  match sendJson endpoint (subscriptionFrame (item items "method") (item items "id")) with
  | .error crash => ⟨[],.error crash⟩
  | .ok events => ⟨events,.ok .continueLoop⟩
end Process

-- A connection: its bucket, whether it is among the subscribers, and what its frames came to so far.
structure Connection (K : Type) [Field K] [LinearOrder K] where
  bucket : Option (Bucket K)
  subscribed : Bool
  turns : List Turn

section Loop
variable {Envelope K : Type} [Field K] [LinearOrder K] (endpoint : Endpoint Envelope)

def connect (wsMessageRateLimit : Option K) (now : K) : Connection K :=
  ⟨match wsMessageRateLimit with
    | some rate => if 0 < rate then TokenBucket.create rate none now else none
    | none => none,false,[]⟩

variable (s : Connection K) (arrival : Arrival Envelope K) (items : List (Key × Value))

-- What is left once a frame is neither a pong nor about subscriptions.
def limited : Option (Bucket K) × Turn :=
  match s.bucket with
  | none => (none,answer endpoint arrival.surroundings arrival.raw items)
  | some bucket =>
    let consumed := WebSocketTokenBucket.consume bucket arrival.now 1
    if consumed.2 then
      let turn := answer endpoint arrival.surroundings arrival.raw items
      (some consumed.1,⟨.token :: turn.events,turn.result⟩)
    else (some consumed.1,sendRateLimitError endpoint items)

-- A message that is an object and no pong.
def processMessage : Connection K :=
  match (if endpoint.subscriptions then handles (item items "method") else some false) with
  | none => { s with turns := s.turns ++ [⟨[],.error (raise endpoint "TypeError" (item items "method"))⟩] }
  | some true => { s with subscribed := isText "sla.subscribe" (item items "method"),
                          turns := s.turns ++ [dispatchSubscription endpoint items] }
  | some false => { s with bucket := (limited endpoint s arrival items).1,turns := s.turns ++ [(limited endpoint s arrival items).2] }

-- The frame is decoded where only a JSONDecodeError is caught, and looked into as if it were an object.
def processWsMessage : Connection K :=
  match endpoint.loads arrival.raw with
  | .error (.json _) => { s with turns := s.turns ++ [⟨[],.ok .continueLoop⟩] }
  | .error (.value text) => { s with turns := s.turns ++ [⟨[],.error ⟨text,"ValueError",""⟩⟩] }
  | .error (.other crash) => { s with turns := s.turns ++ [⟨[],.error crash⟩] }
  | .ok (.dict items) =>
    if isHeartbeatPong items then { s with turns := s.turns ++ [⟨[],.ok .continueLoop⟩] } else processMessage endpoint s arrival items
  | .ok data => { s with turns := s.turns ++ [⟨[],.error (raise endpoint "AttributeError" data)⟩] }

def Turn.goesOn (turn : Turn) : Bool :=
  match turn.result with
  | .ok .continueLoop => true
  | _ => false

-- The receive loop takes frames until one of them ends it.
def step : Option (Connection K) :=
  if s.turns.all Turn.goesOn then some (processWsMessage endpoint s arrival) else none
end Loop

def Event.isToken : Event → Bool
  | .token => true
  | _ => false

-- Whatever a frame makes the server do comes after one token, and takes no other.
def Turn.metered (turn : Turn) : Bool :=
  match turn.events with
  | [] => true
  | event :: rest => event.isToken && rest.all (fun event => !event.isToken)

-- The frame found the bucket empty, and the connection closes.
def Turn.refused (turn : Turn) : Bool :=
  match turn.result with
  | .ok .closeRateLimited => true
  | _ => false

-- The frame ends the loop with an exception.
def Turn.raised (turn : Turn) : Bool :=
  match turn.result with
  | .error _ => true
  | .ok _ => false

section Sound
variable {Envelope K : Type} [Field K] [LinearOrder K] (endpoint : Endpoint Envelope) (s : Connection K) (arrival : Arrival Envelope K)

-- The rejection of a failed dispatch can be built: its ack, and the error of an ASAPError.
def Reportable (envelopeForAck : Option Envelope) (failure : Failure) : Prop :=
  (∃ acks, sendAck endpoint envelopeForAck "rejected" (some failure.text) = .ok acks) ∧
  ∀ error requestId, failure = .asapError error requestId → ∃ frames, asapErrorFrame endpoint error requestId = .ok frames

-- The envelope is taken or refused by its model without another exception, its ack can be built, and
-- a dispatch that fails can be reported.
def Answerable (surroundings : Surroundings Envelope) (raw : String) (items : List (Key × Value)) : Prop :=
  ∃ envelopeForAck, extractEnvelopeForAck endpoint items = .ok envelopeForAck ∧
    (∃ acks, sendAck endpoint envelopeForAck "received" none = .ok acks) ∧
    ∀ failure, (attempt endpoint surroundings raw (responseIdOf items)).2 = some failure → Reportable endpoint envelopeForAck failure

-- The bucket has no token for the frame.
def Empties : Prop := ∃ bucket, s.bucket = some bucket ∧ (WebSocketTokenBucket.consume bucket arrival.now 1).2 = false

-- What becomes of a message: none of it is hashed that cannot be, the subscriptions are asked for on a
-- connection without a bucket only, and the rest can be refused or answered.
def SoundMessage (items : List (Key × Value)) : Prop :=
  match (if endpoint.subscriptions then handles (item items "method") else some false) with
  | none => False
  | some true => s.bucket = none ∧ endpoint.dumpError (subscriptionFrame (item items "method") (item items "id")) = none
  | some false => (Empties s arrival ∧ endpoint.dumpError (rateLimitFrame (item items "id")) = none) ∨
      (¬ Empties s arrival ∧ Answerable endpoint arrival.surroundings arrival.raw items)

def Sound : Prop :=
  match endpoint.loads arrival.raw with
  | .error (.json _) => True
  | .ok (.dict items) => isHeartbeatPong items = true ∨ SoundMessage endpoint s arrival items
  | _ => False

-- A frame that comes to the bucket finds a token there.
def FindsToken : Prop := ∀ items, endpoint.loads arrival.raw = .ok (.dict items) → isHeartbeatPong items = false →
  (if endpoint.subscriptions then handles (item items "method") else some false) = some false → ¬ Empties s arrival
end Sound

section Answers
variable {Envelope : Type} {endpoint : Endpoint Envelope}

def Tokenless (events : List Event) : Prop := ∀ event ∈ events, event.isToken = false

theorem Tokenless.append {first second : List Event} (left : Tokenless first) (right : Tokenless second) : Tokenless (first ++ second) := by
  intro event member
  rcases List.mem_append.mp member with inside | inside
  · exact left event inside
  · exact right event inside

theorem tokenless_nil : Tokenless [] := by
  intro event member
  cases member

theorem tokenless_sent (frame : Value) : Tokenless [.sent frame] := by
  intro event member
  rw [List.mem_singleton.mp member]
  rfl

theorem tokenless_handled {events : List Event} (rest : Tokenless events) : Tokenless (.handled :: events) := by
  intro event member
  rcases List.mem_cons.mp member with here | inside
  · rw [here]
    rfl
  · exact rest event inside

theorem sendJson_tokenless {frame : Value} {events : List Event} (written : sendJson endpoint frame = .ok events) : Tokenless events := by
  unfold sendJson at written
  split at written
  · cases written
  · cases written
    exact tokenless_sent frame

theorem sendAck_tokenless {envelopeForAck : Option Envelope} {status : String} {error : Option String} {events : List Event}
    (built : sendAck endpoint envelopeForAck status error = .ok events) : Tokenless events := by
  unfold sendAck at built
  split at built
  · cases built
    exact tokenless_nil
  · split at built
    · cases built
      exact tokenless_nil
    · rename_i envelope _
      cases dumped : endpoint.ackEnvelope envelope status error with
      | error crash =>
        rw [dumped] at built
        cases built
      | ok dump =>
        rw [dumped] at built
        cases built
        exact tokenless_sent _

theorem resultFrame_tokenless {given envelope : Value} {events : List Event} (built : resultFrame endpoint given envelope = .ok events) :
    Tokenless events := by
  unfold resultFrame at built
  split at built
  · cases built
  · exact sendJson_tokenless built

theorem asapErrorFrame_tokenless {error : AsapError} {id : Value} {events : List Event} (built : asapErrorFrame endpoint error id = .ok events) :
    Tokenless events := by
  unfold asapErrorFrame at built
  split at built
  · cases built
    exact tokenless_sent _
  · cases built

theorem recoverableErrorFrame_tokenless {error : AsapError} {given : Value} {events : List Event}
    (built : recoverableErrorFrame endpoint error given = .ok events) : Tokenless events := by
  unfold recoverableErrorFrame at built
  split at built
  · split at built
    · cases built
    · exact sendJson_tokenless built
  · cases built

theorem sending_tokenless {result : Except Crash (List Event)} (frames : ∀ events, result = .ok events → Tokenless events) :
    Tokenless (sending result).1 := by
  cases result with
  | error crash => exact tokenless_nil
  | ok events => exact frames events rfl

theorem sendInternalErrorFrame_tokenless (crash : Crash) (given : Value) : Tokenless (sendInternalErrorFrame endpoint crash given).1 := by
  unfold sendInternalErrorFrame
  split
  · rename_i written
    exact sendJson_tokenless written
  · exact tokenless_nil

theorem sendChunks_tokenless (endpoint : Endpoint Envelope) (given : Value) (chunks : List Value) : Tokenless (sendChunks endpoint given chunks).1 := by
  induction chunks with
  | nil => exact tokenless_nil
  | cons chunk rest ih =>
    unfold sendChunks
    split
    · exact tokenless_nil
    · rename_i built
      exact (resultFrame_tokenless built).append ih

theorem runWsStreamDispatch_tokenless (streamed : List Value × StreamEnd) (requestId given : Value) :
    Tokenless (runWsStreamDispatch endpoint streamed requestId given).1 := by
  have frames := sendChunks_tokenless endpoint given streamed.1
  unfold runWsStreamDispatch
  dsimp only
  split
  · exact (tokenless_handled frames).append (sendInternalErrorFrame_tokenless _ given)
  · exact (tokenless_handled frames).append (sendInternalErrorFrame_tokenless _ given)
  · exact tokenless_handled frames
  · exact (tokenless_handled frames).append (sending_tokenless (fun _ built => asapErrorFrame_tokenless built))

theorem runOutcome_tokenless (payloadType : String) (requestId given : Value) (outcome : Outcome) :
    Tokenless (runOutcome endpoint payloadType requestId given outcome).1 := by
  cases outcome with
  | result envelope => exact tokenless_handled (sending_tokenless (fun _ built => resultFrame_tokenless built))
  | threadPoolExhausted error => exact sending_tokenless (fun _ built => recoverableErrorFrame_tokenless built)
  | handlerNotFound => exact sending_tokenless (fun _ built => asapErrorFrame_tokenless built)
  | asapError error => exact tokenless_handled tokenless_nil
  | crashed crash => exact tokenless_handled tokenless_nil

theorem attempt_tokenless (endpoint : Endpoint Envelope) (surroundings : Surroundings Envelope) (raw : String) (given : Value) :
    Tokenless (attempt endpoint surroundings raw given).1 := by
  unfold attempt
  split
  · unfold runWsDispatch
    split
    · exact runWsStreamDispatch_tokenless _ _ given
    · exact runOutcome_tokenless _ _ given _
  · exact tokenless_nil
  · exact tokenless_sent _
  · exact tokenless_nil

theorem dispatchWsEnvelope_tokenless (surroundings : Surroundings Envelope) (raw : String) (items : List (Key × Value))
    (envelopeForAck : Option Envelope) : Tokenless (dispatchWsEnvelope endpoint surroundings raw items envelopeForAck).events := by
  have tried := attempt_tokenless endpoint surroundings raw (responseIdOf items)
  unfold dispatchWsEnvelope
  dsimp only
  split
  · exact tried
  · split
    · exact tried
    · rename_i acked
      have acks := tried.append (sendAck_tokenless acked)
      split
      · split
        · exact acks
        · rename_i built
          exact acks.append (asapErrorFrame_tokenless built)
      · exact acks.append (sendInternalErrorFrame_tokenless _ _)

theorem dispatchWsEnvelope_raised (endpoint : Endpoint Envelope) (surroundings : Surroundings Envelope) (raw : String)
    (items : List (Key × Value)) (envelopeForAck : Option Envelope) :
    (dispatchWsEnvelope endpoint surroundings raw items envelopeForAck).raised = false ↔
      ∀ failure, (attempt endpoint surroundings raw (responseIdOf items)).2 = some failure → Reportable endpoint envelopeForAck failure := by
  unfold dispatchWsEnvelope Reportable
  dsimp only
  cases failed : (attempt endpoint surroundings raw (responseIdOf items)).2 with
  | none => simp [Turn.raised]
  | some failure =>
    cases acked : sendAck endpoint envelopeForAck "rejected" (some failure.text) with
    | error crash => simp [Turn.raised,acked]
    | ok acks =>
      cases failure with
      | other crash => simp [Turn.raised,acked]
      | asapError error requestId =>
        cases built : asapErrorFrame endpoint error requestId with
        | error crash => simp [Turn.raised,acked,built]
        | ok frames => simp [Turn.raised,acked,built]

-- What is done for an accepted frame takes no further token.
theorem answer_tokenless (endpoint : Endpoint Envelope) (surroundings : Surroundings Envelope) (raw : String) (items : List (Key × Value)) :
    Tokenless (answer endpoint surroundings raw items).events := by
  unfold answer
  split
  · exact tokenless_nil
  · split
    · exact tokenless_nil
    · rename_i built
      exact (sendAck_tokenless built).append (dispatchWsEnvelope_tokenless surroundings raw items _)

theorem answer_raised (endpoint : Endpoint Envelope) (surroundings : Surroundings Envelope) (raw : String) (items : List (Key × Value)) :
    (answer endpoint surroundings raw items).raised = false ↔ Answerable endpoint surroundings raw items := by
  unfold answer Answerable
  cases extracted : extractEnvelopeForAck endpoint items with
  | error crash => simp [Turn.raised]
  | ok envelopeForAck =>
    cases received : sendAck endpoint envelopeForAck "received" none with
    | error crash => simp [Turn.raised,received]
    | ok acks =>
      have dispatched := dispatchWsEnvelope_raised endpoint surroundings raw items envelopeForAck
      simpa [Turn.raised,received] using dispatched
end Answers

-- The frame does nothing that no token pays for, where there is a bucket, and raises nothing.
def Turn.controlled (limited : Bool) (turn : Turn) : Bool := !turn.raised && (!limited || turn.metered)

-- The same where the refusal of an empty bucket needs no token.
def Turn.controlledOrRefused (limited : Bool) (turn : Turn) : Bool := !turn.raised && (!limited || turn.metered || turn.refused)

section Steps
variable {Envelope K : Type} [Field K] [LinearOrder K] {endpoint : Endpoint Envelope} {s : Connection K} {arrival : Arrival Envelope K}
  {items : List (Key × Value)}

-- A turn as the condition on its frame describes it.
structure Judged (endpoint : Endpoint Envelope) (s next : Connection K) (sound finds : Prop) : Prop where
  bucket : next.bucket.isSome = s.bucket.isSome
  turn : ∃ turn, next.turns = s.turns ++ [turn] ∧ (turn.controlledOrRefused s.bucket.isSome = true ↔ sound) ∧
    (turn.controlled s.bucket.isSome = true ↔ sound ∧ finds)

theorem token_metered {events : List Event} (rest : Tokenless events) (result : Except Crash CloseAction) :
    (Turn.mk (.token :: events) result).metered = true := by
  simp only [Turn.metered,Event.isToken,Bool.true_and,List.all_eq_true,Bool.not_eq_true']
  exact rest

-- A turn in which nothing is done.
theorem silent_controlled (limited : Bool) (result : Except Crash CloseAction) :
    ((Turn.mk [] result).controlledOrRefused limited = !(Turn.mk [] result).raised) ∧
    ((Turn.mk [] result).controlled limited = !(Turn.mk [] result).raised) := by
  cases limited <;> simp [Turn.controlledOrRefused,Turn.controlled,Turn.metered]

theorem silent_judged (result : Except Crash CloseAction) {sound finds : Prop} (found : finds)
    (judged : (Turn.mk [] result).raised = false ↔ sound) : Judged endpoint s { s with turns := s.turns ++ [⟨[],result⟩] } sound finds where
  bucket := rfl
  turn := by
    refine ⟨_,rfl,?_,?_⟩
    · rw [(silent_controlled s.bucket.isSome result).1,Bool.not_eq_true']
      exact judged
    · rw [(silent_controlled s.bucket.isSome result).2,Bool.not_eq_true',judged]
      exact ⟨fun sound => ⟨sound,found⟩,And.left⟩

theorem unlimited_raised (limited : Bool) (turn : Turn) (free : limited = false) :
    (turn.controlledOrRefused limited = true ↔ turn.raised = false) ∧ (turn.controlled limited = true ↔ turn.raised = false) := by
  rw [free]
  simp [Turn.controlledOrRefused,Turn.controlled]

theorem metered_raised (limited : Bool) (turn : Turn) (metered : turn.metered = true) :
    (turn.controlledOrRefused limited = true ↔ turn.raised = false) ∧ (turn.controlled limited = true ↔ turn.raised = false) := by
  simp [Turn.controlledOrRefused,Turn.controlled,metered]

theorem sendRateLimitError_controlled (endpoint : Endpoint Envelope) (items : List (Key × Value)) :
    ((sendRateLimitError endpoint items).controlledOrRefused true = true ↔ endpoint.dumpError (rateLimitFrame (item items "id")) = none) ∧
    (sendRateLimitError endpoint items).controlled true = false := by
  unfold sendRateLimitError sendJson
  cases endpoint.dumpError (rateLimitFrame (item items "id")) with
  | some crash => simp [Turn.controlledOrRefused,Turn.controlled,Turn.raised]
  | none => simp [Turn.controlledOrRefused,Turn.controlled,Turn.raised,Turn.refused,Turn.metered,Event.isToken]

theorem limited_judged (endpoint : Endpoint Envelope) (s : Connection K) (arrival : Arrival Envelope K) (items : List (Key × Value)) :
    Judged endpoint s { s with bucket := (limited endpoint s arrival items).1,turns := s.turns ++ [(limited endpoint s arrival items).2] }
    ((Empties s arrival ∧ endpoint.dumpError (rateLimitFrame (item items "id")) = none) ∨
      (¬ Empties s arrival ∧ Answerable endpoint arrival.surroundings arrival.raw items)) (¬ Empties s arrival) := by
  unfold limited
  cases kept : s.bucket with
  | none =>
    have full : ¬ Empties s arrival := by
      rintro ⟨bucket,some,_⟩
      rw [kept] at some
      cases some
    obtain ⟨refusing,paying⟩ := unlimited_raised s.bucket.isSome (answer endpoint arrival.surroundings arrival.raw items) (by rw [kept]; rfl)
    refine ⟨by rw [kept],_,rfl,?_,?_⟩
    · rw [refusing,answer_raised]
      simp [full]
    · rw [paying,answer_raised]
      simp [full]
  | some bucket =>
    have empties : Empties s arrival ↔ (WebSocketTokenBucket.consume bucket arrival.now 1).2 = false := by
      unfold Empties
      rw [kept]
      simp
    dsimp only
    split
    · rename_i consumed
      have full : ¬ Empties s arrival := by
        rw [empties,consumed]
        simp
      have paid := token_metered (answer_tokenless endpoint arrival.surroundings arrival.raw items)
        (answer endpoint arrival.surroundings arrival.raw items).result
      have raised := answer_raised endpoint arrival.surroundings arrival.raw items
      obtain ⟨refusing,paying⟩ := metered_raised s.bucket.isSome _ paid
      refine ⟨by rw [kept]; rfl,_,rfl,?_,?_⟩
      · refine refusing.trans (raised.trans ?_)
        simp [full]
      · refine paying.trans (raised.trans ?_)
        simp [full]
    · rename_i refused
      have short : Empties s arrival := empties.mpr (Bool.eq_false_iff.mpr refused)
      obtain ⟨refusing,paying⟩ := sendRateLimitError_controlled endpoint items
      have limited : s.bucket.isSome = true := by
        rw [kept]
        rfl
      refine ⟨by rw [kept]; rfl,_,rfl,?_,?_⟩
      · rw [limited,refusing]
        simp [short]
      · rw [limited,paying]
        simp [short]

theorem dispatchSubscription_controlled (endpoint : Endpoint Envelope) (limited : Bool) (items : List (Key × Value)) :
    let sound := limited = false ∧ endpoint.dumpError (subscriptionFrame (item items "method") (item items "id")) = none
    ((dispatchSubscription endpoint items).controlledOrRefused limited = true ↔ sound) ∧
    ((dispatchSubscription endpoint items).controlled limited = true ↔ sound) := by
  unfold dispatchSubscription sendJson
  cases endpoint.dumpError (subscriptionFrame (item items "method") (item items "id")) with
  | some crash => simp [Turn.controlledOrRefused,Turn.controlled,Turn.raised]
  | none => simp [Turn.controlledOrRefused,Turn.controlled,Turn.raised,Turn.refused,Turn.metered,Event.isToken]

theorem processMessage_judged (endpoint : Endpoint Envelope) (s : Connection K) (arrival : Arrival Envelope K) (items : List (Key × Value)) :
    Judged endpoint s (processMessage endpoint s arrival items) (SoundMessage endpoint s arrival items)
    ((if endpoint.subscriptions then handles (item items "method") else some false) = some false → ¬ Empties s arrival) := by
  unfold processMessage SoundMessage
  cases routed : (if endpoint.subscriptions then handles (item items "method") else some false) with
  | none => exact silent_judged _ (fun impossible => by cases impossible) (by simp [Turn.raised])
  | some subscribing =>
    cases subscribing with
    | true =>
      obtain ⟨refusing,paying⟩ := dispatchSubscription_controlled endpoint s.bucket.isSome items
      refine ⟨rfl,_,rfl,?_,?_⟩
      · simpa using refusing
      · simpa using paying
    | false => simpa using limited_judged endpoint s arrival items

theorem processWsMessage_judged (endpoint : Endpoint Envelope) (s : Connection K) (arrival : Arrival Envelope K) :
    Judged endpoint s (processWsMessage endpoint s arrival) (Sound endpoint s arrival) (FindsToken endpoint s arrival) := by
  have silent : (∀ items, endpoint.loads arrival.raw ≠ .ok (.dict items)) → FindsToken endpoint s arrival :=
    fun other items loaded => absurd loaded (other items)
  unfold processWsMessage Sound
  cases loaded : endpoint.loads arrival.raw with
  | error error =>
    have found := silent (fun items same => by rw [loaded] at same; cases same)
    cases error with
    | json text => exact silent_judged _ found (by simp [Turn.raised])
    | value text => exact silent_judged _ found (by simp [Turn.raised])
    | other crash => exact silent_judged _ found (by simp [Turn.raised])
  | ok data =>
    cases data with
    | dict items =>
      have finds : FindsToken endpoint s arrival ↔ (isHeartbeatPong items = false →
          (if endpoint.subscriptions then handles (item items "method") else some false) = some false → ¬ Empties s arrival) := by
        constructor
        · exact fun found => found items loaded
        · intro found others same
          rw [loaded] at same
          cases same
          exact found
      rw [finds]
      dsimp only
      cases pong : isHeartbeatPong items with
      | true => exact silent_judged _ (fun impossible => by cases impossible) (by simp [Turn.raised])
      | false => simpa using processMessage_judged endpoint s arrival items
    | _ =>
      have found := silent (fun items same => by rw [loaded] at same; cases same)
      exact silent_judged _ found (by simp [Turn.raised])

theorem step_judged {next : Connection K} (taken : step endpoint s arrival = some next) :
    Judged endpoint s next (Sound endpoint s arrival) (FindsToken endpoint s arrival) := by
  unfold step at taken
  split at taken
  · cases taken
    exact processWsMessage_judged endpoint s arrival
  · cases taken
end Steps

-- How many turns fall short of a property of their bucket's presence.
def failures {K : Type} [Field K] [LinearOrder K] (good : Bool → Turn → Bool) (s : Connection K) : Nat :=
  s.turns.countP (fun turn => !good s.bucket.isSome turn)

section Runs
variable {Envelope K : Type} [Field K] [LinearOrder K] {endpoint : Endpoint Envelope} {s next : Connection K}

theorem failures_appended {good : Bool → Turn → Bool} {turn : Turn} {condition : Prop} (bucket : next.bucket.isSome = s.bucket.isSome)
    (turns : next.turns = s.turns ++ [turn]) (judged : good s.bucket.isSome turn = true ↔ condition) :
    failures good s ≤ failures good next ∧ (condition ↔ failures good next = failures good s) := by
  unfold failures
  rw [turns,bucket,List.countP_append,← judged]
  cases verdict : good s.bucket.isSome turn <;> simp [verdict]

theorem failures_none (good : Bool → Turn → Bool) : failures good s = 0 ↔ ∀ turn ∈ s.turns, good s.bucket.isSome turn = true := by
  simp [failures,List.countP_eq_zero]

-- In every run no frame ends the loop with an exception and none is served without a token exactly if
-- all frames are sound and find a token; leaving aside the refusals, exactly if all are sound.
theorem flood_controlled_iff (endpoint : Endpoint Envelope) (wsMessageRateLimit : Option K) (now : K) (arrivals : List (Arrival Envelope K))
    (run : Runs (step endpoint) (fun _ _ => True) (connect wsMessageRateLimit now) arrivals s) :
    ((∀ turn ∈ s.turns, turn.controlled s.bucket.isSome = true) ↔
      Runs (step endpoint) (fun s arrival => Sound endpoint s arrival ∧ FindsToken endpoint s arrival) (connect wsMessageRateLimit now) arrivals s) ∧
    ((∀ turn ∈ s.turns, turn.controlledOrRefused s.bucket.isSome = true) ↔
      Runs (step endpoint) (Sound endpoint) (connect wsMessageRateLimit now) arrivals s) := by
  have fresh : ∀ good : Bool → Turn → Bool, failures good (connect wsMessageRateLimit now) = 0 := fun good => rfl
  constructor
  · rw [← failures_none,← fresh Turn.controlled]
    refine (Runs.measured ?_ run).2.symm
    intro s arrival next taken
    obtain ⟨bucket,turn,turns,_,judged⟩ := step_judged taken
    exact failures_appended bucket turns judged
  · rw [← failures_none,← fresh Turn.controlledOrRefused]
    refine (Runs.measured ?_ run).2.symm
    intro s arrival next taken
    obtain ⟨bucket,turn,turns,judged,_⟩ := step_judged taken
    exact failures_appended bucket turns judged

def subscribeItems : List (Key × Value) := [(.str "method",.str "sla.subscribe"),(.str "id",.int 1)]

-- What `json.loads` makes of three short texts.
def loadsShort (text : String) : Except LoadsError Value :=
  if text = "\x7b\"type\":\"pong\"\x7d" then .ok (.dict [(.str "type",.str "pong")])
  else if text = "\x7b\"method\":\"sla.subscribe\",\"id\":1\x7d" then .ok (.dict subscribeItems)
  else if text = "[]" then .ok (.list [])
  else .error (.json "Expecting value: line 1 column 1 (char 0)")

def plainEndpoint : Endpoint Unit where
  toServer := { plainServer 1000 with loads := loadsShort }
  dumpError _ := none
  ackEnvelope _ _ _ := .ok (.dict [])
  requiresAck _ := false
  id _ := "msg-1"
  handshake := { contentEncoding := "",body := [] }
  subscriptions := true

def arriving (raw : String) : Arrival Unit Rat := ⟨raw,0,⟨plainEnvironment,fun _ => ([],.finished)⟩⟩

def tenPerSecond : Connection Rat := connect (some 10) 0

def idle : Connection Rat := { tenPerSecond with turns := [⟨[],.ok .continueLoop⟩,⟨[],.ok .continueLoop⟩] }

theorem step_open {s : Connection Rat} (raw : String) (going : s.turns.all Turn.goesOn = true) :
    step plainEndpoint s (arriving raw) = some (processWsMessage plainEndpoint s (arriving raw)) := by
  rw [step,if_pos going]

def pong : String := "\x7b\"type\":\"pong\"\x7d"

theorem pong_step (s : Connection Rat) : processWsMessage plainEndpoint s (arriving pong) = { s with turns := s.turns ++ [⟨[],.ok .continueLoop⟩] } := by
  have loaded : plainEndpoint.loads (arriving pong).raw = .ok (.dict [(.str "type",.str "pong")]) := by
    simp [plainEndpoint,arriving,loadsShort,pong]
  have heartbeat : isHeartbeatPong [(.str "type",.str "pong")] = true := by decide
  rw [processWsMessage,loaded]
  simp only [heartbeat,if_true]

theorem text_step (s : Connection Rat) : processWsMessage plainEndpoint s (arriving "pong") = { s with turns := s.turns ++ [⟨[],.ok .continueLoop⟩] } := by
  have loaded : plainEndpoint.loads (arriving "pong").raw = .error (.json "Expecting value: line 1 column 1 (char 0)") := by
    simp [plainEndpoint,arriving,loadsShort]
  rw [processWsMessage,loaded]

-- A pong, and a text that is no JSON.
theorem flood_controlled_idle : Runs (step plainEndpoint) (Sound plainEndpoint) tenPerSecond [arriving pong,arriving "pong"] idle := by
  have run : Runs (step plainEndpoint) (fun _ _ => True) tenPerSecond [arriving pong,arriving "pong"] idle := by
    refine .cons _ _ _ _ _ trivial (step_open _ rfl) ?_
    rw [pong_step]
    refine .cons _ _ _ _ _ trivial (step_open _ rfl) ?_
    rw [text_step]
    exact .nil _
  refine (flood_controlled_iff plainEndpoint (some 10) 0 _ run).2.mp ?_
  decide

def subscribe : String := "\x7b\"method\":\"sla.subscribe\",\"id\":1\x7d"

def subscribed : Turn := ⟨[.sent (subscriptionFrame (.str "sla.subscribe") (.int 1))],.ok .continueLoop⟩

theorem subscribe_step (s : Connection Rat) :
    processWsMessage plainEndpoint s (arriving subscribe) = { s with subscribed := true,turns := s.turns ++ [subscribed] } := by
  have loaded : plainEndpoint.loads (arriving subscribe).raw = .ok (.dict subscribeItems) := by
    simp [plainEndpoint,arriving,loadsShort,subscribe]
  have message : isHeartbeatPong subscribeItems = false := by decide
  rw [processWsMessage,loaded]
  simp only [message,Bool.false_eq_true,if_false]
  rfl

def lost : Turn := ⟨[],.error (raise plainEndpoint "AttributeError" (.list []))⟩

theorem array_step (s : Connection Rat) : processWsMessage plainEndpoint s (arriving "[]") = { s with turns := s.turns ++ [lost] } := by
  have loaded : plainEndpoint.loads (arriving "[]").raw = .ok (.list []) := by
    simp [plainEndpoint,arriving,loadsShort]
  rw [processWsMessage,loaded]
  rfl

def ended : Connection Rat := { tenPerSecond with subscribed := true,turns := [subscribed,lost] }

-- A subscription is answered without a token, and an empty array ends the loop with an AttributeError.
theorem flood_uncontrolled : Runs (step plainEndpoint) (fun _ _ => True) tenPerSecond [arriving subscribe,arriving "[]"] ended ∧
    ended.bucket.isSome = true ∧ ended.turns.map (fun turn => (turn.metered,turn.refused,turn.raised)) = [(false,false,false),(true,false,true)] ∧
    ¬ ∀ turn ∈ ended.turns, turn.controlledOrRefused ended.bucket.isSome = true := by
  refine ⟨?_,by decide,by decide,by decide⟩
  refine .cons _ _ _ _ _ trivial (step_open _ rfl) ?_
  rw [subscribe_step]
  refine .cons _ _ _ _ _ trivial (step_open _ rfl) ?_
  rw [array_step]
  exact .nil _
end Runs

end Asap.WsServer
