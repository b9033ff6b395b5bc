import Asap.WsAcks

-- `send_and_receive_stream`, which reads the socket itself, beside the receive loop.
namespace Asap.Ws
open OrderedDict PythonValue Interleaving

inductive StreamError where
  | ws (error : WsError)
  | fault (fault : Fault)
  | valueError
  | timeout

-- What the stream does with a frame it has read.
inductive Handled where
  | skipped
  | raised (error : StreamError)
  | yielded (envelope : Envelope)

def streamBoundPayloadKeys : List String := responsePayloadKeys ++ ["taskstream"]

def isFinal (envelope : Envelope) : Bool :=
  match envelope.payload with
  | .dict fields =>
    match lookupItem "final" fields with
    | some (.bool true) => true
    | _ => false
  | _ => false

section Frames
variable (models : Models)

def missingResult (items : List (Key × Value)) : StreamError :=
  .ws (remoteError (.int (-32603)) (.str "Missing result.envelope in response") (.dict items))

def streamResult (envelopeId : String) (items : List (Key × Value)) : Handled :=
  if (resultOf items).truthy = false then .raised (missingResult items)
  else match (resultOf items).contains "envelope" with
    | none => .raised (.fault .notIterable)
    | some false => .raised (missingResult items)
    | some true =>
      match resultOf items with
      | .dict fields =>
        match (lookupItem "envelope" fields).bind models.envelope with
        | none => .raised (.fault .validationError)
        | some envelope =>
          match assertBinds models streamBoundPayloadKeys envelopeId envelope with
          | some error => .raised (.ws error)
          | none => .yielded envelope
      | _ => .raised (.fault .badSubscript)

def passedOver (items : List (Key × Value)) : Bool := heartbeat "pong" items || isAckMethod items

-- An error frame raises before its id is looked at.
def streamFrame (envelopeId r : String) : Decoded → Handled
  | .valueError => .raised .valueError
  | .recursionError => .raised (.fault .recursionError)
  | .json (.dict items) =>
    if passedOver items then .skipped
    else match lookupItem "error" items with
      | some (.dict fields) => .raised (.ws (errorOf models (.dict fields)))
      | some _ => .raised (.fault .attributeError)
      | none => if (requestIdOf items).same (.str r) then streamResult models envelopeId items else .skipped
  | .json _ => .raised (.fault .attributeError)

-- The envelope of a result that the server sent under a request id.
def resultUnder (r : String) : Decoded → Option Envelope
  | .json (.dict items) =>
    if passedOver items || (lookupItem "error" items).isSome || !(requestIdOf items).same (.str r) then none
    else match resultOf items with
      | .dict fields => (lookupItem "envelope" fields).bind models.envelope
      | _ => none
  | _ => none

def resultsUnder (r : String) (frames : List Decoded) : List Envelope := frames.filterMap (resultUnder models r)

def upToFinal : List Envelope → List Envelope
  | [] => []
  | envelope :: rest => if isFinal envelope then [envelope] else envelope :: upToFinal rest

end Frames

inductive Phase where
  | opening
  | ready
  | waiting
  | suspended (final : Bool)
  | finished (error : Option StreamError)

structure Stream where
  envelope : Envelope
  requestId : String
  phase : Phase := .opening
  yielded : List Envelope := []

def Stream.waits (stream : Stream) : Bool :=
  match stream.phase with
  | .waiting => true
  | _ => false

inductive Standing where
  | expecting
  | ended
  | raised
  deriving DecidableEq

def Phase.standing : Phase → Standing
  | .suspended true | .finished none => .ended
  | .finished (some _) => .raised
  | _ => .expecting

def Stream.expects (stream : Stream) : Bool := stream.phase.standing = .expecting

inductive Reader where
  | loop
  | stream (id : Nat)
  deriving DecidableEq

-- A frame that a stream took, and the other requests that waited for a response then.
structure Consumed where
  frame : Decoded
  pending : List String

-- `inbox` holds the frames not yet read, `served` all frames the server sent, `reader` who is
-- inside `ws.recv()`.
structure Socket where
  client : Client := {}
  inbox : List Decoded := []
  reader : Option Reader := none
  streams : Dict Nat Stream := .empty
  served : List Decoded := []
  consumed : List Consumed := []

inductive SocketEvent where
  | client (event : Event)
  | arrives (frame : Decoded)
  | loopCalls
  | loopTakes
  | streamOpens (id : Nat) (envelope : Envelope)
  | streamSent (id : Nat) (now : Int)
  | streamCalls (id : Nat)
  | streamTakes (id : Nat)
  | streamResumes (id : Nat)
  | streamTimesOut (id : Nat)

-- The requests in `_pending` and those of the other streams.
def Socket.awaiting (s : Socket) (id : Nat) : List String :=
  s.client.connection.pending ++
    (s.streams.entries.filter (fun row => row.1 ≠ id && row.2.expects)).map (fun row => row.2.requestId)

def Socket.put (s : Socket) (id : Nat) (stream : Stream) (phase : Phase) : Socket :=
  {s with streams := s.streams.set id {stream with phase := phase}}

-- Two calls of `recv` at a time: the second raises.
def Socket.loopCalls (s : Socket) : Option Socket :=
  if s.client.connection.receiving ∧ s.reader ≠ some .loop then
    match s.reader with
    | none => some {s with reader := some .loop}
    | some _ => some {s with client := {s.client with connection := s.client.connection.fail .concurrentRecv}}
  else none

def Socket.streamOpens (s : Socket) (id : Nat) (envelope : Envelope) : Option Socket :=
  match s.streams.get id with
  | some _ => none
  | none => some {s with
      client := {s.client with
        requestCounter := s.client.requestCounter + 1
        log := s.client.log ++ [.wrote envelope.id]}
      streams := s.streams.set id ⟨envelope,requestId (s.client.requestCounter + 1),.opening,[]⟩}

def Socket.streamSent (s : Socket) (id : Nat) (now : Int) : Option Socket :=
  match s.streams.get id with
  | some stream =>
    match stream.phase with
    | .opening => some ({s with client := s.client.registerPendingAck stream.envelope now}.put id stream .ready)
    | _ => none
  | none => none

def Socket.streamCalls (s : Socket) (id : Nat) : Option Socket :=
  match s.streams.get id with
  | some stream =>
    match stream.phase,s.reader with
    | .ready,none => some ({s with reader := some (.stream id)}.put id stream .waiting)
    | .ready,some _ => some (s.put id stream (.finished (some (.fault .concurrentRecv))))
    | _,_ => none
  | none => none

def Socket.streamResumes (s : Socket) (id : Nat) : Option Socket :=
  match s.streams.get id with
  | some stream =>
    match stream.phase with
    | .suspended final => some (s.put id stream (if final then .finished none else .ready))
    | _ => none
  | none => none

def Socket.streamTimesOut (s : Socket) (id : Nat) : Option Socket :=
  match s.streams.get id with
  | some stream =>
    match stream.phase with
    | .waiting => some ({s with reader := none}.put id stream (.finished (some .timeout)))
    | _ => none
  | none => none

section Machine
variable (models : Models) (settings : Settings)

def Socket.loopTakes (s : Socket) : Option Socket :=
  match s.reader,s.inbox with
  | some .loop,frame :: rest =>
    (s.client.takeFrame models frame).map (fun client => {s with client := client,inbox := rest,reader := none})
  | _,_ => none

def Stream.handle (stream : Stream) (frame : Decoded) : Stream :=
  match streamFrame models stream.envelope.id stream.requestId frame with
  | .skipped => {stream with phase := .ready}
  | .raised error => {stream with phase := .finished (some error)}
  | .yielded envelope => {stream with phase := .suspended (isFinal envelope),yielded := stream.yielded ++ [envelope]}

def Socket.streamTakes (s : Socket) (id : Nat) : Option Socket :=
  match s.streams.get id,s.inbox with
  | some stream,frame :: rest =>
    if s.reader = some (.stream id) ∧ stream.waits then some {s with
      inbox := rest
      reader := none
      streams := s.streams.set id (stream.handle models frame)
      consumed := s.consumed ++ [⟨frame,s.awaiting id⟩]}
    else none
  | _,_ => none

def Socket.next (s : Socket) : SocketEvent → Option Socket
  | .client (.frame _) | .client .closed => none
  | .client event => (s.client.next models settings event).map (fun client => {s with client := client})
  | .arrives frame => some {s with inbox := s.inbox ++ [frame],served := s.served ++ [frame]}
  | .loopCalls => s.loopCalls
  | .loopTakes => s.loopTakes models
  | .streamOpens id envelope => s.streamOpens id envelope
  | .streamSent id now => s.streamSent id now
  | .streamCalls id => s.streamCalls id
  | .streamTakes id => s.streamTakes models id
  | .streamResumes id => s.streamResumes id
  | .streamTimesOut id => s.streamTimesOut id

-- What a step does to the socket and to the streams.
inductive Moved (s : Socket) : SocketEvent → Socket → Prop where
  | aside (event : SocketEvent) (client : Client) (reader : Option Reader) : Moved s event {s with client := client,reader := reader}
  | arrives (frame : Decoded) : Moved s (.arrives frame) {s with inbox := s.inbox ++ [frame],served := s.served ++ [frame]}
  | loopTakes (client : Client) (frame : Decoded) (rest : List Decoded) (head : s.inbox = frame :: rest) :
      Moved s .loopTakes {s with client := client,inbox := rest,reader := none}
  | opens (id : Nat) (envelope : Envelope) (client : Client) :
      Moved s (.streamOpens id envelope) {s with
        client := client
        streams := s.streams.set id ⟨envelope,requestId (s.client.requestCounter + 1),.opening,[]⟩}
  | goesOn (event : SocketEvent) (id : Nat) (stream : Stream) (phase : Phase) (client : Client) (reader : Option Reader)
      (found : s.streams.get id = some stream) (same : phase.standing = stream.phase.standing) :
      Moved s event ({s with client := client,reader := reader}.put id stream phase)
  | interferes (id : Nat) (other : Reader) (stream : Stream) (busy : s.reader = some other) :
      Moved s (.streamCalls id) (s.put id stream (.finished (some (.fault .concurrentRecv))))
  | takes (id : Nat) (stream : Stream) (frame : Decoded) (rest : List Decoded) (found : s.streams.get id = some stream)
      (waiting : stream.phase = .waiting) (head : s.inbox = frame :: rest) :
      Moved s (.streamTakes id) {s with
        inbox := rest
        reader := none
        streams := s.streams.set id (stream.handle models frame)
        consumed := s.consumed ++ [⟨frame,s.awaiting id⟩]}
  | timesOut (id : Nat) (stream : Stream) :
      Moved s (.streamTimesOut id) ({s with reader := none}.put id stream (.finished (some .timeout)))

theorem socket_moved {s next : Socket} {event : SocketEvent} (taken : s.next models settings event = some next) :
    Moved models s event next := by
  cases event with
  | client event =>
    have moved : ∀ client, Moved models s (.client event) {s with client := client} := fun client => .aside _ client s.reader
    cases event with
    | frame frame => cases taken
    | closed => cases taken
    | _ =>
      obtain ⟨client,_,rfl⟩ := Option.map_eq_some_iff.mp taken
      exact moved client
  | arrives frame =>
    cases taken
    exact .arrives frame
  | loopCalls =>
    simp only [Socket.next,Socket.loopCalls] at taken
    split at taken
    · split at taken
      · cases taken
        exact .aside _ s.client _
      · cases taken
        exact .aside _ _ s.reader
    · cases taken
  | loopTakes =>
    simp only [Socket.next,Socket.loopTakes] at taken
    split at taken
    · rename_i frame rest reader head
      obtain ⟨client,_,rfl⟩ := Option.map_eq_some_iff.mp taken
      exact .loopTakes client frame rest head
    · cases taken
  | streamOpens id envelope =>
    simp only [Socket.next,Socket.streamOpens] at taken
    split at taken
    · cases taken
    · cases taken
      exact .opens id envelope _
  | streamSent id now =>
    simp only [Socket.next,Socket.streamSent] at taken
    split at taken
    · rename_i stream found
      split at taken
      · rename_i opening
        cases taken
        exact .goesOn _ id stream .ready _ s.reader found (by rw [opening]; rfl)
      · cases taken
    · cases taken
  | streamCalls id =>
    simp only [Socket.next,Socket.streamCalls] at taken
    split at taken
    · rename_i stream found
      split at taken
      · rename_i ready _
        cases taken
        exact .goesOn _ id stream .waiting s.client _ found (by rw [ready]; rfl)
      · rename_i other _ busy
        cases taken
        exact .interferes id other stream busy
      · cases taken
    · cases taken
  | streamTakes id =>
    simp only [Socket.next,Socket.streamTakes] at taken
    split at taken
    · rename_i stream frame rest found head
      split at taken
      · rename_i turn
        cases taken
        refine .takes id stream frame rest found ?_ head
        have waits := turn.2
        unfold Stream.waits at waits
        split at waits
        · assumption
        · cases waits
      · cases taken
    · cases taken
  | streamResumes id =>
    simp only [Socket.next,Socket.streamResumes] at taken
    split at taken
    · rename_i stream found
      split at taken
      · rename_i final suspended
        cases taken
        refine .goesOn _ id stream _ s.client s.reader found ?_
        rw [suspended]
        cases final <;> rfl
      · cases taken
    · cases taken
  | streamTimesOut id =>
    simp only [Socket.next,Socket.streamTimesOut] at taken
    split at taken
    · rename_i stream found
      split at taken
      · cases taken
        exact .timesOut id stream
      · cases taken
    · cases taken

end Machine

section Conditions
variable (models : Models)

-- An error frame that carries a request id.
def errorUnder (r : String) : Decoded → Bool
  | .json (.dict items) => (lookupItem "error" items).isSome && (requestIdOf items).same (.str r)
  | _ => false

-- A result with a valid envelope that is bound to the request.
def boundResult (envelopeId : String) (result : Value) : Bool :=
  match result with
  | .dict fields => ((lookupItem "envelope" fields).bind models.envelope).any (fun envelope =>
    models.normalize envelope.payloadType ∉ streamBoundPayloadKeys || envelope.correlationId = some envelopeId)
  | _ => false

-- An object: a pong or an ack, an error or a bound result under the stream's own id, or a frame
-- under another id that is no error.
def fits (envelopeId r : String) : Decoded → Bool
  | .json (.dict items) => passedOver items ||
    if (requestIdOf items).same (.str r) then (lookupItem "error" items).isSome || boundResult models envelopeId (resultOf items)
    else (lookupItem "error" items).isNone
  | _ => false

-- No result comes for a request that is not sent yet, a stream asks for a frame only while
-- nobody else does, the receive loop reads no result of a stream, and a stream reads only frames
-- that fit it and that no other request waits for.
def Fit (s : Socket) : SocketEvent → Prop
  | .streamOpens _ _ => resultsUnder models (requestId (s.client.requestCounter + 1)) s.served = []
  | .streamCalls _ => s.reader = none
  | .loopTakes => ∀ frame ∈ s.inbox.head?, ∀ id stream, s.streams.get id = some stream → stream.expects = true →
    resultUnder models stream.requestId frame = none
  | .streamTakes id => ∀ frame ∈ s.inbox.head?, ∀ stream, s.streams.get id = some stream →
    fits models stream.envelope.id stream.requestId frame = true ∧ ∀ r ∈ carried frame, r ∉ s.awaiting id
  | .streamTimesOut _ => False
  | _ => True

-- Nothing of what the server sent under the id of a stream is missing, doubled or out of order:
-- a stream that goes on has yielded what came before the frames not yet read, one that ended has
-- yielded all up to the final one, and one that raised has done so at an error under its own id.
def Kept (served inbox : List Decoded) (stream : Stream) : Prop :=
  match stream.phase.standing with
  | .expecting => ∃ taken, served = taken ++ inbox ∧ stream.yielded = resultsUnder models stream.requestId taken ∧
      stream.yielded.any isFinal = false
  | .ended => stream.yielded = upToFinal (resultsUnder models stream.requestId served) ∧ stream.yielded.any isFinal = true
  | .raised => ∃ earlier frame later, served = earlier ++ frame :: later ∧ errorUnder stream.requestId frame = true ∧
      stream.yielded = resultsUnder models stream.requestId earlier ∧ stream.yielded.any isFinal = false

def Unshared (entry : Consumed) : Prop := ∀ r ∈ carried entry.frame, r ∉ entry.pending

end Conditions

theorem upToFinal_append {envelopes : List Envelope} (ended : envelopes.any isFinal = true) (more : List Envelope) :
    upToFinal (envelopes ++ more) = upToFinal envelopes := by
  induction envelopes with
  | nil => cases ended
  | cons envelope rest ih =>
    cases final : isFinal envelope with
    | true => simp [upToFinal,final]
    | false =>
      have later : rest.any isFinal = true := by simpa [final] using ended
      simp [upToFinal,final,ih later]

theorem upToFinal_open {envelopes : List Envelope} (going : envelopes.any isFinal = false) (more : List Envelope) :
    upToFinal (envelopes ++ more) = envelopes ++ upToFinal more := by
  induction envelopes with
  | nil => rfl
  | cons envelope rest ih =>
    simp only [List.any_cons,Bool.or_eq_false_iff] at going
    simp [upToFinal,going.1,ih going.2]

theorem any_upToFinal (envelopes : List Envelope) : (upToFinal envelopes).any isFinal = envelopes.any isFinal := by
  induction envelopes with
  | nil => rfl
  | cons envelope rest ih =>
    cases final : isFinal envelope <;> simp [upToFinal,final,ih]

section Frames
variable {models : Models} {envelopeId r : String} {frame : Decoded}

-- What a stream takes from a frame is the result under its id.
theorem streamFrame_yielded {envelope : Envelope} (handled : streamFrame models envelopeId r frame = .yielded envelope) :
    resultUnder models r frame = some envelope := by
  unfold streamFrame at handled
  split at handled
  · cases handled
  · cases handled
  · rename_i items
    split at handled
    · cases handled
    · rename_i counts
      split at handled
      · cases handled
      · cases handled
      · rename_i plain
        split at handled
        · rename_i own
          simp only [resultUnder,counts,plain,own]
          unfold streamResult at handled
          split at handled
          · cases handled
          · split at handled
            · cases handled
            · cases handled
            · split at handled
              · rename_i fields dict
                split at handled
                · cases handled
                · rename_i found valid
                  split at handled
                  · cases handled
                  · cases handled
                    simp [valid]
              · cases handled
        · cases handled
  · cases handled

theorem streamFrame_skipped (handled : streamFrame models envelopeId r frame = .skipped) : resultUnder models r frame = none := by
  unfold streamFrame at handled
  split at handled
  · cases handled
  · cases handled
  · rename_i items
    split at handled
    · rename_i aside
      simp [resultUnder,aside]
    · split at handled
      · cases handled
      · cases handled
      · split at handled
        · unfold streamResult at handled
          repeat' split at handled
          all_goals cases handled
        · rename_i foreign
          simp [resultUnder,foreign]
  · cases handled

theorem streamResult_bound {items : List (Key × Value)} (bound : boundResult models envelopeId (resultOf items) = true) :
    ∃ envelope, streamResult models envelopeId items = .yielded envelope := by
  unfold boundResult at bound
  split at bound
  · rename_i fields dict
    obtain ⟨envelope,valid,binds⟩ := (Option.any_eq_true _ _).mp bound
    refine ⟨envelope,?_⟩
    obtain ⟨full,contains⟩ := enveloped_dict models valid
    have accepted : assertBinds models streamBoundPayloadKeys envelopeId envelope = none := by
      unfold assertBinds
      simp only [Bool.or_eq_true,decide_eq_true_eq] at binds
      rcases binds with other | correlated
      · exact if_pos other
      · simp [correlated]
    simp [streamResult,dict,full,contains,valid,accepted]
  · cases bound

-- A frame that fits makes a stream raise only as an error under its own id.
theorem streamFrame_raised {error : StreamError} (fitting : fits models envelopeId r frame = true)
    (handled : streamFrame models envelopeId r frame = .raised error) : errorUnder r frame = true := by
  cases frame with
  | json data =>
    cases data with
    | dict items =>
      cases skip : passedOver items with
      | true => simp [streamFrame,skip] at handled
      | false =>
        cases own : (requestIdOf items).same (.str r) with
        | false =>
          cases failure : lookupItem "error" items with
          | none => simp [streamFrame,skip,failure,own] at handled
          | some err => simp [fits,skip,own,failure] at fitting
        | true =>
          cases failure : lookupItem "error" items with
          | some err => simp [errorUnder,failure,own]
          | none =>
            have bound : boundResult models envelopeId (resultOf items) = true := by simpa [fits,skip,own,failure] using fitting
            obtain ⟨envelope,yielded⟩ := streamResult_bound bound
            simp [streamFrame,skip,failure,own,yielded] at handled
    | _ => cases fitting
  | _ => cases fitting

theorem resultUnder_carried {envelope : Envelope} (result : resultUnder models r frame = some envelope) : carried frame = some r := by
  unfold resultUnder at result
  split at result
  · split at result
    · cases result
    · rename_i counts
      simp only [Bool.or_eq_true,Bool.not_eq_true',not_or,Bool.not_eq_false] at counts
      have named := Value.same_str_iff.mp counts.2
      simp [carried,named]
  · cases result

theorem resultsUnder_append (earlier later : List Decoded) :
    resultsUnder models r (earlier ++ later) = resultsUnder models r earlier ++ resultsUnder models r later := List.filterMap_append

end Frames

section Steps
variable {models : Models} {served inbox : List Decoded} {stream : Stream}

theorem Kept.goesOn (kept : Kept models served inbox stream) {phase : Phase} (same : phase.standing = stream.phase.standing) :
    Kept models served inbox {stream with phase := phase} := by
  unfold Kept at *
  simp only [same]
  exact kept

-- A frame that the server sends.
theorem Kept.arrives (kept : Kept models served inbox stream) (frame : Decoded) :
    Kept models (served ++ [frame]) (inbox ++ [frame]) stream := by
  unfold Kept at *
  cases standing : stream.phase.standing with
  | expecting =>
    simp only [standing] at kept ⊢
    obtain ⟨taken,split,yielded,going⟩ := kept
    exact ⟨taken,by simp [split],yielded,going⟩
  | ended =>
    simp only [standing] at kept ⊢
    obtain ⟨yielded,final⟩ := kept
    refine ⟨?_,final⟩
    have before : (resultsUnder models stream.requestId served).any isFinal = true := by
      rw [← any_upToFinal,← yielded]
      exact final
    rw [resultsUnder_append,upToFinal_append before]
    exact yielded
  | raised =>
    simp only [standing] at kept ⊢
    obtain ⟨earlier,error,later,split,own,yielded,going⟩ := kept
    exact ⟨earlier,error,later ++ [frame],by simp [split],own,yielded,going⟩

-- A frame that someone else reads.
theorem Kept.passes {frame : Decoded} {rest : List Decoded} (kept : Kept models served (frame :: rest) stream)
    (foreign : stream.expects = true → resultUnder models stream.requestId frame = none) : Kept models served rest stream := by
  unfold Kept at *
  cases standing : stream.phase.standing with
  | expecting =>
    simp only [standing] at kept ⊢
    obtain ⟨taken,split,yielded,going⟩ := kept
    have none := foreign (by simp [Stream.expects,standing])
    refine ⟨taken ++ [frame],by simp [split],?_,going⟩
    rw [resultsUnder_append]
    simpa [resultsUnder,none] using yielded
  | ended => simpa only [standing] using kept
  | raised => simpa only [standing] using kept

-- A frame that the stream reads.
theorem Kept.handles {frame : Decoded} {rest : List Decoded} (kept : Kept models served (frame :: rest) stream)
    (waiting : stream.phase = .waiting) (fitting : fits models stream.envelope.id stream.requestId frame = true) :
    Kept models served rest (stream.handle models frame) := by
  unfold Kept at kept
  simp only [waiting,Phase.standing] at kept
  obtain ⟨taken,split,yielded,going⟩ := kept
  unfold Stream.handle
  split
  · rename_i handled
    have none := streamFrame_skipped handled
    refine ⟨taken ++ [frame],by simp [split],?_,going⟩
    rw [resultsUnder_append]
    simpa [resultsUnder,none] using yielded
  · rename_i error handled
    exact ⟨taken,frame,rest,split,streamFrame_raised fitting handled,yielded,going⟩
  · rename_i envelope handled
    have some := streamFrame_yielded handled
    have extended : stream.yielded ++ [envelope] = resultsUnder models stream.requestId (taken ++ [frame]) := by
      rw [resultsUnder_append,yielded]
      simp [resultsUnder,some]
    cases final : isFinal envelope with
    | false => exact ⟨taken ++ [frame],by simp [split],extended,by simp [going,final]⟩
    | true =>
      refine ⟨?_,by simp [final]⟩
      have whole : served = (taken ++ [frame]) ++ rest := by simp [split]
      rw [whole,resultsUnder_append,← extended,List.append_assoc,upToFinal_open going]
      simp [upToFinal,final]

theorem Kept.ordered (kept : Kept models served inbox stream) :
    stream.yielded <+: upToFinal (resultsUnder models stream.requestId served) := by
  unfold Kept at kept
  cases standing : stream.phase.standing with
  | expecting =>
    simp only [standing] at kept
    obtain ⟨taken,split,yielded,going⟩ := kept
    rw [split,resultsUnder_append,← yielded,upToFinal_open going]
    exact List.prefix_append _ _
  | ended =>
    simp only [standing] at kept
    exact ⟨[],by rw [List.append_nil]; exact kept.1⟩
  | raised =>
    simp only [standing] at kept
    obtain ⟨earlier,error,later,split,_,yielded,going⟩ := kept
    rw [split,resultsUnder_append,← yielded,upToFinal_open going]
    exact List.prefix_append _ _

-- What the frames read so far, the streams and the frames the streams read have in common.
structure Faithful (models : Models) (s : Socket) : Prop where
  read : s.inbox <:+ s.served
  streams : ∀ id stream, s.streams.get id = some stream → Kept models s.served s.inbox stream
  unshared : ∀ entry ∈ s.consumed, Unshared entry

theorem mem_awaiting {s : Socket} {id other : Nat} {stream : Stream} (found : s.streams.get other = some stream)
    (different : other ≠ id) (expects : stream.expects = true) : stream.requestId ∈ s.awaiting id := by
  unfold Socket.awaiting
  apply List.mem_append_right
  have row := (Dict.mem_iff s.streams).mpr found
  exact List.mem_map.mpr ⟨_,List.mem_filter.mpr ⟨row,by simp [different,expects]⟩,rfl⟩

theorem moved_faithful {s next : Socket} {event : SocketEvent} (moved : Moved models s event next) (fit : Fit models s event)
    (faithful : Faithful models s) : Faithful models next := by
  cases moved with
  | aside _ client reader => exact ⟨faithful.read,faithful.streams,faithful.unshared⟩
  | arrives frame =>
    refine ⟨?_,fun id stream found => (faithful.streams id stream found).arrives frame,faithful.unshared⟩
    obtain ⟨taken,split⟩ := faithful.read
    exact ⟨taken,by simp [← split]⟩
  | loopTakes client frame rest head =>
    refine ⟨?_,?_,faithful.unshared⟩
    · exact (List.suffix_cons frame rest).trans (head ▸ faithful.read)
    · intro id stream found
      have kept := faithful.streams id stream found
      rw [head] at kept
      exact kept.passes (fit frame (by simp [head]) id stream found)
  | opens id envelope client =>
    refine ⟨faithful.read,?_,faithful.unshared⟩
    intro other stream found
    rw [Dict.get_set] at found
    split at found
    · cases found
      obtain ⟨taken,split⟩ := faithful.read
      refine ⟨taken,split.symm,?_,rfl⟩
      have none : resultsUnder models (requestId (s.client.requestCounter + 1)) s.served = [] := fit
      rw [← split,resultsUnder_append] at none
      exact (List.append_eq_nil_iff.mp none).1.symm
    · exact faithful.streams other stream found
  | goesOn _ id stream phase client reader found same =>
    refine ⟨faithful.read,?_,faithful.unshared⟩
    intro other later stored
    simp only [Socket.put,Dict.get_set] at stored
    split at stored
    · cases stored
      exact (faithful.streams id stream found).goesOn same
    · exact faithful.streams other later stored
  | interferes id other stream busy =>
    have free : s.reader = none := fit
    rw [free] at busy
    cases busy
  | takes id stream frame rest found waiting head =>
    obtain ⟨fitting,alone⟩ := fit frame (by simp [head]) stream found
    refine ⟨(List.suffix_cons frame rest).trans (head ▸ faithful.read),?_,?_⟩
    · intro other later stored
      rw [Dict.get_set] at stored
      split at stored
      · cases stored
        have kept := faithful.streams id stream found
        rw [head] at kept
        exact kept.handles waiting fitting
      · rename_i different
        have kept := faithful.streams other later stored
        rw [head] at kept
        apply kept.passes
        intro expects
        cases result : resultUnder models later.requestId frame with
        | none => rfl
        | some envelope =>
          have awaited := mem_awaiting stored (Ne.symm different) expects
          exact absurd awaited (alone _ (resultUnder_carried result))
    · intro entry member
      rcases List.mem_append.mp member with old | new
      · exact faithful.unshared entry old
      · rw [List.mem_singleton.mp new]
        exact alone
  | timesOut id stream => exact fit.elim

theorem faithful_init (onMessage : Bool) : Faithful models {client := {connection := {onMessage := onMessage}}} := by
  refine ⟨List.suffix_refl _,?_,?_⟩
  · intro id stream found
    cases found
  · intro entry member
    cases member

end Steps

-- In every run of such steps: what each stream has yielded is what the server sent under its
-- id, in order, up to the final envelope or to an error under that id, and no stream has read a
-- frame that another request waited for.
theorem streams_complete (models : Models) (settings : Settings) (onMessage : Bool) (events : List SocketEvent) (s : Socket)
    (run : Runs (Socket.next models settings) (Fit models) {client := {connection := {onMessage := onMessage}}} events s) :
    (∀ id stream, s.streams.get id = some stream → Kept models s.served s.inbox stream ∧
      stream.yielded <+: upToFinal (resultsUnder models stream.requestId s.served)) ∧
      ∀ entry ∈ s.consumed, Unshared entry := by
  have faithful : Faithful models s := by
    refine run.invariant (Faithful models) ?_ (faithful_init onMessage)
    intro s event next fit taken before
    exact moved_faithful (socket_moved models settings taken) fit before
  refine ⟨?_,faithful.unshared⟩
  intro id stream found
  have kept := faithful.streams id stream found
  exact ⟨kept,kept.ordered⟩

-- `Fit`, as far as a run can test it.
def fitCheck (s : Socket) : SocketEvent → Bool
  | .streamOpens _ _ => (resultsUnder sampleModels (requestId (s.client.requestCounter + 1)) s.served).isEmpty
  | .streamCalls _ => s.reader.isNone
  | .loopTakes => s.inbox.head?.all (fun frame => s.streams.entries.all (fun row =>
    (resultUnder sampleModels row.2.requestId frame).isNone))
  | .streamTakes id => s.inbox.head?.all (fun frame => (s.streams.get id).all (fun stream =>
    fits sampleModels stream.envelope.id stream.requestId frame && (carried frame).all (fun r => r ∉ s.awaiting id)))
  | .streamTimesOut _ => false
  | _ => true

theorem fitCheck_sound (s : Socket) (event : SocketEvent) (checked : fitCheck s event = true) : Fit sampleModels s event := by
  cases event with
  | streamOpens id envelope => exact List.isEmpty_iff.mp checked
  | streamCalls id => exact Option.isNone_iff_eq_none.mp checked
  | loopTakes =>
    intro frame head id stream found _
    have tested := (Option.all_eq_true _ _).mp checked frame head
    exact Option.isNone_iff_eq_none.mp (List.all_eq_true.mp tested _ ((Dict.mem_iff s.streams).mpr found))
  | streamTakes id =>
    intro frame head stream found
    have tested := (Option.all_eq_true _ _).mp ((Option.all_eq_true _ _).mp checked frame head) stream found
    simp only [Bool.and_eq_true,Option.all_eq_true,decide_eq_true_eq] at tested
    exact tested
  | streamTimesOut id => cases checked
  | _ => trivial

def socketAfter (check : Socket → SocketEvent → Bool) (events : List SocketEvent) : Option Socket :=
  execute (Socket.next sampleModels settingsDefault) check {client := {connection := {onMessage := true}}} events

def chunkFrame (requestId answered : String) (final : Bool) : Decoded :=
  .json (.dict [(.str "jsonrpc",.str "2.0"),(.str "id",.str requestId),(.str "result",.dict [(.str "envelope",
    envelopeFields "c1" "TaskStream" (.dict [(.str "chunk",.str "text"),(.str "final",.bool final)])
      [(.str "correlation_id",.str answered)])])])

-- The receive loop has taken a push and is inside the callback while the stream runs.
def streamedAlone : List SocketEvent :=
  [.loopCalls,.arrives (responseFrame "push" "e0"),.loopTakes,.streamOpens 0 taskRequest,.streamSent 0 0,
    .arrives (ackFrame "e1"),.arrives (chunkFrame "ws-req-1" "e1" false),.streamCalls 0,.streamTakes 0,.streamCalls 0,
    .streamTakes 0,.streamResumes 0,.arrives (chunkFrame "ws-req-1" "e1" true),.streamCalls 0,.streamTakes 0,.streamResumes 0]

theorem streamed_state : (socketAfter fitCheck streamedAlone).map (fun s => (s.streams.get 0).map (fun stream =>
    (stream.phase.standing,stream.yielded.length))) = some (some (.ended,2)) := by
  decide +kernel

theorem streams_complete_alone :
    ∃ s stream, Runs (Socket.next sampleModels settingsDefault) (Fit sampleModels) {client := {connection := {onMessage := true}}}
      streamedAlone s ∧ s.streams.get 0 = some stream ∧ stream.yielded.length = 2 ∧
        stream.yielded <+: upToFinal (resultsUnder sampleModels stream.requestId s.served) := by
  obtain ⟨s,ran,shown⟩ := Option.map_eq_some_iff.mp streamed_state
  obtain ⟨stream,found,seen⟩ := Option.map_eq_some_iff.mp shown
  simp only [Prod.mk.injEq] at seen
  have run := (execute_runs fitCheck ran).mono fitCheck_sound
  have complete := streams_complete sampleModels settingsDefault true streamedAlone s run
  exact ⟨s,stream,run,found,seen.2,(complete.1 0 stream found).2⟩

-- The receive loop takes the final chunk of a stream; another time the stream takes the error
-- that answers a pending request, and raises it.
def stolenChunk : List SocketEvent :=
  [.loopCalls,.streamOpens 0 taskRequest,.streamSent 0 0,.arrives (chunkFrame "ws-req-1" "e1" true),.loopTakes]

def stolenError : List SocketEvent :=
  [.loopCalls,.arrives (responseFrame "push" "e0"),.loopTakes,.client (.call 1 taskRequest true),.client (.sent 1 0),
    .streamOpens 0 taskRequest,.streamSent 0 0,.streamCalls 0,.arrives (errorFrame "ws-req-1"),.streamTakes 0]

theorem stolen_chunk : (socketAfter anyMove stolenChunk).map (fun s => (s.inbox.length,(s.streams.get 0).map (fun stream =>
    (stream.phase.standing,stream.yielded.length,(resultsUnder sampleModels stream.requestId s.served).length)))) =
      some (0,some (.expecting,0,1)) := by
  decide +kernel

theorem stolen_error : (socketAfter anyMove stolenError).map (fun s => ((s.streams.get 0).map (fun stream =>
    (stream.phase.standing,s.served.all (fun frame => !errorUnder stream.requestId frame))),
      s.consumed.map (fun entry => (carried entry.frame).any (fun r => r ∈ entry.pending)))) =
      some (some (.raised,true),[true]) := by
  decide +kernel

theorem streams_incomplete :
    (∃ s stream, Runs (Socket.next sampleModels settingsDefault) (fun _ _ => True) {client := {connection := {onMessage := true}}}
      stolenChunk s ∧ s.streams.get 0 = some stream ∧ ¬ Kept sampleModels s.served s.inbox stream) ∧
    ∃ s stream, Runs (Socket.next sampleModels settingsDefault) (fun _ _ => True) {client := {connection := {onMessage := true}}}
      stolenError s ∧ s.streams.get 0 = some stream ∧ ¬ Kept sampleModels s.served s.inbox stream ∧
        ∃ entry ∈ s.consumed, ¬ Unshared entry := by
  refine ⟨?_,?_⟩
  · obtain ⟨s,ran,shown⟩ := Option.map_eq_some_iff.mp stolen_chunk
    simp only [Prod.mk.injEq] at shown
    obtain ⟨read,shown⟩ := shown
    obtain ⟨stream,found,seen⟩ := Option.map_eq_some_iff.mp shown
    simp only [Prod.mk.injEq] at seen
    obtain ⟨standing,yielded,sent⟩ := seen
    refine ⟨s,stream,execute_free ran,found,?_⟩
    intro kept
    unfold Kept at kept
    simp only [standing] at kept
    obtain ⟨taken,split,same,_⟩ := kept
    have whole : s.served = taken := by simpa [List.length_eq_zero_iff.mp read] using split
    rw [whole,← same,yielded] at sent
    cases sent
  · obtain ⟨s,ran,shown⟩ := Option.map_eq_some_iff.mp stolen_error
    simp only [Prod.mk.injEq] at shown
    obtain ⟨shown,shared⟩ := shown
    obtain ⟨stream,found,seen⟩ := Option.map_eq_some_iff.mp shown
    simp only [Prod.mk.injEq] at seen
    obtain ⟨standing,foreign⟩ := seen
    refine ⟨s,stream,execute_free ran,found,?_,?_⟩
    · intro kept
      unfold Kept at kept
      simp only [standing] at kept
      obtain ⟨earlier,frame,later,split,own,_⟩ := kept
      have other := List.all_eq_true.mp foreign frame (by simp [split])
      simp [own] at other
    · have first : true ∈ s.consumed.map (fun entry => (carried entry.frame).any (fun r => r ∈ entry.pending)) := by
        rw [shared]
        exact List.mem_singleton_self true
      obtain ⟨entry,member,both⟩ := List.mem_map.mp first
      refine ⟨entry,member,?_⟩
      obtain ⟨r,addressed,pending⟩ := (Option.any_eq_true _ _).mp both
      intro unshared
      exact unshared r addressed (by simpa using pending)

end Asap.Ws
