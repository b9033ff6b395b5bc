import Asap.Interleaving
import Asap.WsRecv

-- `WebSocketTransport` on one connection: calls of `send` and `send_and_receive`, the receive
-- loop and the ack-check loop, interleaved at their awaits.
namespace Asap.Ws
open OrderedDict PythonValue Interleaving

structure PendingAck where
  envelope : Envelope
  sentAt : Int
  retries : Nat

-- A call whose frame is written and whose `ws.send` has not returned, one that awaits its
-- future, and one that is over.
inductive Call where
  | sending (envelope : Envelope) (requestId : String) (receives : Bool)
  | waiting (envelope : Envelope) (requestId : String)
  | returned

-- The ack-check loop: asleep, between two retransmissions, or inside the `ws.send` of one. The
-- lists are those collected at the start of the scan.
inductive Scan where
  | asleep
  | retransmitting (queue : List (String × Nat)) (remove : List String)
  | resending (current : Nat) (queue : List (String × Nat)) (remove : List String)

-- What happened so far. A `PendingAck` object is named by its number.
inductive Report where
  | wrote (envelopeId : String)
  | acked (envelopeId : String)
  | rewrote (tracker : Nat) (envelopeId : String)
  | retransmitted (tracker : Nat)
  | unsent (tracker : Nat)
  | failure (envelopeId : String)
  deriving DecidableEq

structure Settings where
  ackTimeout : Int
  maxAckRetries : Int
  circuitBreaker : Bool

structure Client where
  requestCounter : Nat := 0
  calls : Dict Nat Call := .empty
  connection : Connection := {}
  trackers : List PendingAck := []
  scan : Scan := .asleep
  log : List Report := []

inductive Event where
  | call (id : Nat) (envelope : Envelope) (receives : Bool)
  | sent (id : Nat) (now : Int)
  | sendRaises (id : Nat)
  | timesOut (id : Nat)
  | resumes (id : Nat)
  | frame (frame : Decoded)
  | closed
  | scan (now : Int)
  | resend
  | resent (now : Int)
  | resendSkipped (now : Int)
  | resendRaises
  | expire

def payloadTypesRequiringAck : List String :=
  ["TaskRequest","task.request","TaskCancel","task.cancel","StateRestore","state_restore","MessageSend","message.send","message_send"]

def requiresAck (envelope : Envelope) : Bool := envelope.requiresAck || payloadTypesRequiringAck.contains envelope.payloadType

def registers (envelope : Envelope) : Bool := envelope.id ≠ "" && requiresAck envelope

def requestId (n : Nat) : String := "ws-req-" ++ toString n

def Client.registerPendingAck (s : Client) (envelope : Envelope) (now : Int) : Client :=
  if registers envelope then
    {s with
      trackers := s.trackers ++ [⟨envelope,now,0⟩]
      connection := {s.connection with pendingAcks := s.connection.pendingAcks.set envelope.id s.trackers.length}}
  else s

def Connection.await (c : Connection) (id envelopeId : String) : Connection :=
  {c with
    futures := c.futures.set id .waiting
    pending := if id ∈ c.pending then c.pending else c.pending ++ [id]
    pendingRequestIds := c.pendingRequestIds.set id envelopeId}

-- The frame is on its way when `ws.send` suspends.
def Client.startCall (s : Client) (id : Nat) (envelope : Envelope) (receives : Bool) : Option Client :=
  match s.calls.get id with
  | some _ => none
  | none => some {s with
      requestCounter := s.requestCounter + 1
      calls := s.calls.set id (.sending envelope (requestId (s.requestCounter + 1)) receives)
      log := s.log ++ [.wrote envelope.id]}

-- From the return of `ws.send` to the next await.
def Client.afterSend (s : Client) (id : Nat) (envelope : Envelope) (r : String) (receives : Bool) (now : Int) : Client :=
  let registered := s.registerPendingAck envelope now
  if receives then {registered with
    calls := s.calls.set id (.waiting envelope r)
    connection := registered.connection.await r envelope.id}
  else {registered with calls := s.calls.set id .returned}

def Client.finishSend (s : Client) (id : Nat) (now : Int) : Option Client :=
  match s.calls.get id with
  | some (.sending envelope r receives) => some (s.afterSend id envelope r receives now)
  | _ => none

def Client.failSend (s : Client) (id : Nat) : Option Client :=
  match s.calls.get id with
  | some (.sending _ _ _) => some {s with calls := s.calls.set id .returned}
  | _ => none

-- `wait_for` cancels the future at its deadline; the call goes on later.
def Client.timeOut (s : Client) (id : Nat) : Option Client :=
  match s.calls.get id with
  | some (.waiting _ r) =>
    match s.connection.futures.get r with
    | some .waiting => some {s with connection := {s.connection with futures := s.connection.futures.set r .cancelled}}
    | _ => none
  | _ => none

def Client.resume (s : Client) (id : Nat) : Option Client :=
  match s.calls.get id with
  | some (.waiting _ r) =>
    if (s.connection.futures.get r).any Future.done then
      some {s with calls := s.calls.set id .returned,connection := s.connection.forget r}
    else none
  | _ => none

section Machine
variable (models : Models) (settings : Settings)

def Client.takeFrame (s : Client) (frame : Decoded) : Option Client :=
  if s.connection.receiving then
    some {s with connection := receive models s.connection frame,log := s.log ++ ((ackedBy models frame).map Report.acked).toList}
  else none

def Client.overdue (s : Client) (now : Int) (item : String × Nat) : Bool :=
  (s.trackers[item.2]?).any (fun pending => decide (settings.ackTimeout < now - pending.sentAt))

def Client.retriable (s : Client) (item : String × Nat) : Bool :=
  (s.trackers[item.2]?).any (fun pending => decide ((pending.retries : Int) < settings.maxAckRetries))

def Client.collect (s : Client) (now : Int) : Option Client :=
  match s.scan with
  | .asleep =>
    let late := s.connection.pendingAcks.entries.filter (s.overdue settings now)
    let spent := late.filter (fun item => !s.retriable settings item)
    some {s with scan := .retransmitting (late.filter (s.retriable settings)) (spent.map Prod.fst)}
  | _ => none

def Client.startResend (s : Client) : Option Client :=
  match s.scan with
  | .retransmitting ((_,tracker) :: queue) remove =>
    match s.trackers[tracker]? with
    | none => none
    | some pending => some {s with
        requestCounter := s.requestCounter + 1
        scan := .resending tracker queue remove
        log := s.log ++ [.rewrote tracker pending.envelope.id]}
  | _ => none

-- `pending.sent_at = time.monotonic(); pending.retries += 1`
def Client.countRetry (s : Client) (tracker : Nat) (now : Int) : Client :=
  {s with
    trackers := s.trackers.modify tracker (fun pending => {pending with sentAt := now,retries := pending.retries + 1})
    log := s.log ++ [.retransmitted tracker]}

def Client.finishResend (s : Client) (now : Int) : Option Client :=
  match s.scan with
  | .resending tracker queue remove => some {s.countRetry tracker now with scan := .retransmitting queue remove}
  | _ => none

-- Without a connection `_send_envelope_only` returns at once.
def Client.skipResend (s : Client) (now : Int) : Option Client :=
  match s.scan with
  | .retransmitting ((_,tracker) :: queue) remove => some {s.countRetry tracker now with scan := .retransmitting queue remove}
  | _ => none

def Client.failResend (s : Client) : Option Client :=
  match s.scan with
  | .resending tracker queue remove => some {s with scan := .retransmitting queue remove,log := s.log ++ [.unsent tracker]}
  | _ => none

def Client.expireAll (s : Client) : Option Client :=
  match s.scan with
  | .retransmitting [] remove => some {s with
      scan := .asleep
      connection := {s.connection with pendingAcks := remove.foldl (fun acks id => acks.erase id) s.connection.pendingAcks}
      log := s.log ++ (if settings.circuitBreaker then remove.map Report.failure else [])}
  | _ => none

def Client.next (s : Client) : Event → Option Client
  | .call id envelope receives => s.startCall id envelope receives
  | .sent id now => s.finishSend id now
  | .sendRaises id => s.failSend id
  | .timesOut id => s.timeOut id
  | .resumes id => s.resume id
  | .frame frame => s.takeFrame models frame
  | .closed => if s.connection.receiving then some {s with connection := s.connection.fail .connectionClosed} else none
  | .scan now => s.collect settings now
  | .resend => s.startResend
  | .resent now => s.finishResend now
  | .resendSkipped now => s.skipResend now
  | .resendRaises => s.failResend
  | .expire => s.expireAll settings

-- Every step, with what it found.
inductive Stepped (s : Client) : Event → Client → Prop where
  | call (id : Nat) (envelope : Envelope) (receives : Bool) (free : s.calls.get id = none) :
      Stepped s (.call id envelope receives) {s with
        requestCounter := s.requestCounter + 1
        calls := s.calls.set id (.sending envelope (requestId (s.requestCounter + 1)) receives)
        log := s.log ++ [.wrote envelope.id]}
  | sent (id : Nat) (now : Int) (envelope : Envelope) (r : String) (receives : Bool)
      (found : s.calls.get id = some (.sending envelope r receives)) :
      Stepped s (.sent id now) (s.afterSend id envelope r receives now)
  | sendRaises (id : Nat) (envelope : Envelope) (r : String) (receives : Bool)
      (found : s.calls.get id = some (.sending envelope r receives)) :
      Stepped s (.sendRaises id) {s with calls := s.calls.set id .returned}
  | timesOut (id : Nat) (envelope : Envelope) (r : String) (found : s.calls.get id = some (.waiting envelope r))
      (waiting : s.connection.futures.get r = some .waiting) :
      Stepped s (.timesOut id) {s with connection := {s.connection with futures := s.connection.futures.set r .cancelled}}
  | resumes (id : Nat) (envelope : Envelope) (r : String) (found : s.calls.get id = some (.waiting envelope r)) :
      Stepped s (.resumes id) {s with calls := s.calls.set id .returned,connection := s.connection.forget r}
  | frame (frame : Decoded) (running : s.connection.receiving = true) :
      Stepped s (.frame frame) {s with
        connection := receive models s.connection frame
        log := s.log ++ ((ackedBy models frame).map Report.acked).toList}
  | closed : Stepped s .closed {s with connection := s.connection.fail .connectionClosed}
  | scan (now : Int) (asleep : s.scan = .asleep) (queue : List (String × Nat)) (remove : List String)
      (queued : queue = (s.connection.pendingAcks.entries.filter (s.overdue settings now)).filter (s.retriable settings))
      (removed : ∀ id ∈ remove, (s.connection.pendingAcks.get id).isSome = true) :
      Stepped s (.scan now) {s with scan := .retransmitting queue remove}
  | resend (eid : String) (tracker : Nat) (queue : List (String × Nat)) (remove : List String) (pending : PendingAck)
      (turn : s.scan = .retransmitting ((eid,tracker) :: queue) remove) (object : s.trackers[tracker]? = some pending) :
      Stepped s .resend {s with
        requestCounter := s.requestCounter + 1
        scan := .resending tracker queue remove
        log := s.log ++ [.rewrote tracker pending.envelope.id]}
  | counted (event : Event) (now : Int) (tracker : Nat) (queue : List (String × Nat)) (remove : List String)
      (which : event = .resent now ∨ event = .resendSkipped now)
      (turn : s.scan = .resending tracker queue remove ∨ ∃ eid, s.scan = .retransmitting ((eid,tracker) :: queue) remove) :
      Stepped s event {s.countRetry tracker now with scan := .retransmitting queue remove}
  | resendRaises (tracker : Nat) (queue : List (String × Nat)) (remove : List String)
      (turn : s.scan = .resending tracker queue remove) :
      Stepped s .resendRaises {s with scan := .retransmitting queue remove,log := s.log ++ [.unsent tracker]}
  | expire (remove : List String) (turn : s.scan = .retransmitting [] remove) :
      Stepped s .expire {s with
        scan := .asleep
        connection := {s.connection with pendingAcks := remove.foldl (fun acks id => acks.erase id) s.connection.pendingAcks}
        log := s.log ++ (if settings.circuitBreaker then remove.map Report.failure else [])}

theorem next_stepped {s next : Client} {event : Event} (taken : s.next models settings event = some next) :
    Stepped models settings s event next := by
  cases event with
  | call id envelope receives =>
    simp only [Client.next,Client.startCall] at taken
    split at taken
    · cases taken
    · rename_i free
      cases taken
      exact .call id envelope receives free
  | sent id now =>
    simp only [Client.next,Client.finishSend] at taken
    split at taken
    · rename_i envelope r receives found
      cases taken
      exact .sent id now envelope r receives found
    · cases taken
  | sendRaises id =>
    simp only [Client.next,Client.failSend] at taken
    split at taken
    · rename_i envelope r receives found
      cases taken
      exact .sendRaises id envelope r receives found
    · cases taken
  | timesOut id =>
    simp only [Client.next,Client.timeOut] at taken
    split at taken
    · rename_i envelope r found
      split at taken
      · rename_i waiting
        cases taken
        exact .timesOut id envelope r found waiting
      · cases taken
    · cases taken
  | resumes id =>
    simp only [Client.next,Client.resume] at taken
    split at taken
    · rename_i envelope r found
      split at taken
      · cases taken
        exact .resumes id envelope r found
      · cases taken
    · cases taken
  | frame frame =>
    simp only [Client.next,Client.takeFrame] at taken
    split at taken
    · rename_i running
      cases taken
      exact .frame frame running
    · cases taken
  | closed =>
    simp only [Client.next] at taken
    split at taken
    · cases taken
      exact .closed
    · cases taken
  | scan now =>
    simp only [Client.next,Client.collect] at taken
    split at taken
    · rename_i asleep
      cases taken
      refine .scan now asleep _ _ rfl ?_
      intro id member
      obtain ⟨item,collected,rfl⟩ := List.mem_map.mp member
      have stored : s.connection.pendingAcks.get item.1 = some item.2 :=
        (Dict.mem_iff _).mp (List.mem_filter.mp (List.mem_filter.mp collected).1).1
      rw [stored]
      rfl
    · cases taken
  | resend =>
    simp only [Client.next,Client.startResend] at taken
    split at taken
    · rename_i eid tracker queue remove turn
      split at taken
      · cases taken
      · rename_i pending object
        cases taken
        exact .resend eid tracker queue remove pending turn object
    · cases taken
  | resent now =>
    simp only [Client.next,Client.finishResend] at taken
    split at taken
    · rename_i tracker queue remove turn
      cases taken
      exact .counted _ now tracker queue remove (.inl rfl) (.inl turn)
    · cases taken
  | resendSkipped now =>
    simp only [Client.next,Client.skipResend] at taken
    split at taken
    · rename_i eid tracker queue remove turn
      cases taken
      exact .counted _ now tracker queue remove (.inr rfl) (.inr ⟨eid,turn⟩)
    · cases taken
  | resendRaises =>
    simp only [Client.next,Client.failResend] at taken
    split at taken
    · rename_i tracker queue remove turn
      cases taken
      exact .resendRaises tracker queue remove turn
    · cases taken
  | expire =>
    simp only [Client.next,Client.expireAll] at taken
    split at taken
    · rename_i remove turn
      cases taken
      exact .expire remove turn
    · cases taken

end Machine

-- What `afterSend` does to each part of the client.
section AfterSend
variable (s : Client) (id : Nat) (envelope : Envelope) (r : String) (receives : Bool) (now : Int)

@[simp] theorem afterSend_log : (s.afterSend id envelope r receives now).log = s.log := by
  unfold Client.afterSend Client.registerPendingAck
  simp only
  split <;> split <;> rfl

@[simp] theorem afterSend_scan : (s.afterSend id envelope r receives now).scan = s.scan := by
  unfold Client.afterSend Client.registerPendingAck
  simp only
  split <;> split <;> rfl

@[simp] theorem afterSend_calls :
    (s.afterSend id envelope r receives now).calls = s.calls.set id (if receives then .waiting envelope r else .returned) := by
  unfold Client.afterSend
  simp only
  split <;> rfl

theorem afterSend_acks : (s.afterSend id envelope r receives now).connection.pendingAcks =
    if registers envelope then s.connection.pendingAcks.set envelope.id s.trackers.length else s.connection.pendingAcks := by
  unfold Client.afterSend Client.registerPendingAck Connection.await
  simp only
  split <;> split <;> rfl

theorem afterSend_trackers : (s.afterSend id envelope r receives now).trackers =
    if registers envelope then s.trackers ++ [⟨envelope,now,0⟩] else s.trackers := by
  unfold Client.afterSend Client.registerPendingAck
  simp only
  split <;> split <;> rfl
end AfterSend

theorem erased_get (remove : List String) (acks : Dict String Nat) (id : String) :
    (remove.foldl (fun acks id => acks.erase id) acks).get id = if id ∈ remove then none else acks.get id := by
  induction remove generalizing acks with
  | nil => simp
  | cons first rest ih =>
    rw [List.foldl_cons,ih,Dict.get_erase]
    by_cases same : first = id
    · simp [same]
    · simp [same,Ne.symm same]

end Asap.Ws
