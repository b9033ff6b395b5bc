import Asap.WsClient

-- `WebSocketTransport` over its whole life: calls of `connect` and `close`, the reconnect loop, the
-- receive loops, the senders and the server, interleaved at their awaits. A task or a socket is
-- named by its number.
namespace Asap.WsLifecycle
open OrderedDict Interleaving
open Asap.Ws (Client Connection Models Decoded Fault Future)

structure Settings where
  reconnectOnDisconnect : Bool
  maxReconnectAttempts : Option Int

-- Where `_do_connect` waits: for the ack-check task it has cancelled, for `websockets.connect`, or
-- for the end of a socket that was opened after `close`.
inductive Dial where
  | ackCheck (task : Nat)
  | dialing
  | discarding
  deriving DecidableEq

inductive RunPhase where
  | created
  | dial (place : Dial)
  | receiving (task : Nat)
  | closing
  | sleeping
  deriving DecidableEq

-- `interrupted` is a CancelledError that the next step of the task throws.
structure RunLoop where
  attempt : Nat
  phase : RunPhase
  interrupted : Bool := false

inductive RecvPhase where
  | created
  | reading
  | handling
  deriving DecidableEq

structure RecvLoop where
  phase : RecvPhase
  interrupted : Bool := false

-- A call of `connect` waits for the lock, in its own `_do_connect`, for the event, or for the run
-- task whose error it is going to raise.
inductive ConnectPhase where
  | queued
  | dial (place : Dial)
  | waiting
  | failing (task : Nat)
  | returned
  | raised
  deriving DecidableEq

-- `began` is the number of sockets the transport had been given when the call began, `sawOpen`
-- whether one was open then or when the call looked.
structure ConnectCall where
  phase : ConnectPhase
  began : Nat
  sawOpen : Bool

inductive ClosePhase where
  | ackCheck (task : Nat)
  | run (task : Nat)
  | recv (task : Nat)
  | socket
  | returned
  | raised
  deriving DecidableEq

-- `waiters` are the calls in `_connected_event.wait()` that no `set` has released; `raised` are the
-- run tasks that ended with an exception; `runs`, `recvs` and `acks` hold the tasks that are alive.
-- `shut` says that a `close` has returned and no `connect` has begun to connect since.
structure Transport where
  client : Client := {}
  ws : Option Nat := none
  live : List Nat := []
  sockets : Nat := 0
  closed : Bool := false
  event : Bool := false
  waiters : List Nat := []
  connectError : Bool := false
  lock : Option Nat := none
  ackTask : Option Nat := none
  runTask : Option Nat := none
  recvTask : Option Nat := none
  tasks : Nat := 0
  acks : List Nat := []
  runs : Dict Nat RunLoop := .empty
  recvs : Dict Nat RecvLoop := .empty
  raised : List Nat := []
  connects : Dict Nat ConnectCall := .empty
  closes : Dict Nat ClosePhase := .empty
  shut : Bool := false

-- What can happen to a task inside `_do_connect`.
inductive DialEvent where
  | ackEnded
  | accepted
  | refused
  | closed
  | closeRaises

inductive ConnectEvent where
  | enter
  | dial (event : DialEvent)
  | wake
  | joined

inductive RunEvent where
  | turn
  | dial (event : DialEvent)
  | received
  | closed
  | closeRaises
  | interrupted

inductive RecvEvent where
  | starts
  | frame (frame : Decoded)
  | again
  | raises (fault : Fault)
  | interrupted

inductive Event where
  | connect (id : Nat)
  | connecting (id : Nat) (event : ConnectEvent)
  | close (id : Nat)
  | closing (id : Nat)
  | closeRaises (id : Nat)
  | run (task : Nat) (event : RunEvent)
  | recv (task : Nat) (event : RecvEvent)
  | ackEnds (task : Nat)
  | disconnect (socket : Nat)
  | sender (event : Ws.Event)

def Transport.isOpen (s : Transport) : Bool := s.ws.any (fun socket => s.live.contains socket)

def ConnectCall.saw (s : Transport) (call : ConnectCall) : Bool := call.sawOpen || decide (call.began < s.sockets)

-- `asyncio.Event.set`: every waiter goes on, whatever a later `clear` does.
def Transport.setEvent (s : Transport) : Transport := {s with event := true,waiters := []}

-- How a stretch of `_do_connect` ends.
inductive Outcome where
  | suspended (place : Dial)
  | finished
  | raised

def Transport.startDial (s : Transport) : Transport × Outcome := ({s with connectError := false},.suspended .dialing)

def Transport.doConnect (s : Transport) : Transport × Outcome :=
  if s.ws.isSome then (s,.finished)
  else match s.ackTask with
    | none => s.startDial
    | some task => if task ∈ s.acks then (s,.suspended (.ackCheck task)) else Transport.startDial {s with ackTask := none}

-- `websockets.connect` has returned a socket.
def Transport.opened (s : Transport) : Transport × Outcome :=
  if s.closed then ({s with ws := some s.sockets,sockets := s.sockets + 1},.suspended .discarding)
  else (Transport.setEvent {s with
    ws := some s.sockets
    live := s.sockets :: s.live
    sockets := s.sockets + 1
    recvs := s.recvs.set s.tasks ⟨.created,false⟩
    recvTask := some s.tasks
    acks := (s.tasks + 1) :: s.acks
    ackTask := some (s.tasks + 1)
    tasks := s.tasks + 2},.finished)

def Transport.dialGoesOn (s : Transport) : Dial → DialEvent → Option (Transport × Outcome)
  | .ackCheck task,.ackEnded => if task ∈ s.acks then none else some (Transport.startDial {s with ackTask := none})
  | .dialing,.accepted => some s.opened
  | .dialing,.refused => some (s,.raised)
  | .discarding,.closed => some ({s with ws := none},.finished)
  | .discarding,.closeRaises => some (s,.raised)
  | _,_ => none

-- The reconnect loop.
section RunLoop
variable (settings : Settings)

def reconnectExhausted (attempt : Nat) : Bool := settings.maxReconnectAttempts.any (fun most => decide (most ≤ (attempt : Int)))

def Transport.runEnds (s : Transport) (task : Nat) : Transport := {s with runs := s.runs.erase task}

def Transport.runRaises (s : Transport) (task : Nat) : Transport := {s with runs := s.runs.erase task,raised := task :: s.raised}

def Transport.runSuspends (s : Transport) (task attempt : Nat) (phase : RunPhase) : Transport :=
  {s with runs := s.runs.set task ⟨attempt,phase,false⟩}

-- From `attempt += 1` on.
def Transport.backOff (s : Transport) (task attempt : Nat) : Transport :=
  if reconnectExhausted settings (attempt + 1) then s.runEnds task else s.runSuspends task (attempt + 1) .sleeping

def Transport.afterClose (s : Transport) (task attempt : Nat) : Transport :=
  Transport.backOff settings {s with ws := none,recvTask := none} task attempt

def Transport.afterRecv (s : Transport) (task attempt : Nat) : Transport :=
  if s.closed then s.runEnds task
  else match s.ws with
    | none => s.afterClose settings task attempt
    | some socket => Transport.runSuspends {s with live := s.live.erase socket} task attempt .closing

def Transport.afterDial (s : Transport) (task attempt : Nat) : Outcome → Transport
  | .suspended place => s.runSuspends task attempt (.dial place)
  | .finished =>
    match s.recvTask with
    | none => s.afterRecv settings task attempt
    | some recv => if (s.recvs.get recv).isSome then s.runSuspends task attempt (.receiving recv) else s.afterRecv settings task attempt
  | .raised =>
    if attempt = 0 then (Transport.setEvent {s with connectError := true}).runRaises task
    else s.afterClose settings task attempt

-- `while not self._closed`, at the start of the task and after its sleep.
def Transport.runTurn (s : Transport) (task attempt : Nat) : Transport :=
  if s.closed then s.runEnds task
  else
    let dialed := Transport.doConnect {s with event := false}
    dialed.1.afterDial settings task attempt dialed.2

end RunLoop

-- `Task.cancel`: what the task awaits is cancelled, or else the task itself at its next step. The
-- two awaits under `suppress(CancelledError)` go on as if nothing had happened.
def Transport.cancelRecv (s : Transport) (task : Nat) : Transport :=
  match s.recvs.get task with
  | none => s
  | some loop => {s with recvs := s.recvs.set task {loop with interrupted := true}}

def Transport.cancelRun (s : Transport) (task : Nat) : Transport :=
  match s.runs.get task with
  | none => s
  | some loop =>
    match loop.phase with
    | .dial (.ackCheck _) => s
    | .receiving recv => s.cancelRecv recv
    | _ => {s with runs := s.runs.set task {loop with interrupted := true}}

section Connect
variable (settings : Settings)

def Transport.connectGoes (s : Transport) (id : Nat) (call : ConnectCall) (phase : ConnectPhase) : Transport :=
  {s with connects := s.connects.set id {call with phase := phase}}

-- The call is over and the lock free.
def Transport.connectEnds (s : Transport) (id : Nat) (call : ConnectCall) (phase : ConnectPhase) : Transport :=
  Transport.connectGoes {s with lock := none} id call phase

def Transport.connectDial (s : Transport) (id : Nat) (call : ConnectCall) : Outcome → Transport
  | .suspended place => s.connectGoes id call (.dial place)
  | .finished => s.connectEnds id call .returned
  | .raised => s.connectEnds id call .raised

-- `await self._run_task` raises the exception of the task, so that `_run_task` keeps it.
def Transport.connectJoins (s : Transport) (id : Nat) (call : ConnectCall) (task : Nat) : Transport :=
  Transport.connectEnds (if task ∈ s.raised then s else {s with runTask := none}) id call .raised

def Transport.afterEvent (s : Transport) (id : Nat) (call : ConnectCall) : Transport :=
  if s.connectError then
    match s.runTask with
    | none => Transport.connectEnds {s with connectError := false} id call .raised
    | some task =>
      if (s.runs.get task).isSome then Transport.connectGoes {s with connectError := false} id call (.failing task)
      else Transport.connectJoins {s with connectError := false} id call task
  else s.connectEnds id call .returned

def Transport.waitEvent (s : Transport) (id : Nat) (call : ConnectCall) : Transport :=
  if s.event then s.afterEvent id call else Transport.connectGoes {s with waiters := id :: s.waiters} id call .waiting

-- `connect` from the moment it has the lock.
def Transport.enter (s : Transport) (id : Nat) (call : ConnectCall) : Transport :=
  if s.ws.isSome then s.connectGoes id {call with sawOpen := call.sawOpen || s.isOpen} .returned
  else if settings.reconnectOnDisconnect then
    Transport.waitEvent {s with
      closed := false
      shut := false
      lock := some id
      runs := s.runs.set s.tasks ⟨0,.created,false⟩
      runTask := some s.tasks
      tasks := s.tasks + 1} id call
  else
    let dialed := Transport.doConnect {s with closed := false,shut := false,lock := some id}
    dialed.1.connectDial id call dialed.2

end Connect

-- Every request in flight fails, and all tables are emptied.
def abandon (c : Connection) : Connection :=
  {c.pending.foldl (fun c id => c.settle id (.failed (.timeout "Connection closed"))) c with
    pending := [],pendingRequestIds := .empty,pendingAcks := .empty}

def Transport.closeGoes (s : Transport) (id : Nat) (phase : ClosePhase) : Transport := {s with closes := s.closes.set id phase}

def Transport.closeReturns (s : Transport) (id : Nat) : Transport := Transport.closeGoes {s with shut := true} id .returned

def Transport.closeSocket (s : Transport) (id : Nat) : Transport :=
  let emptied := {s with recvTask := none,client := {s.client with connection := abandon s.client.connection}}
  match s.ws with
  | none => emptied.closeReturns id
  | some socket => Transport.closeGoes {emptied with live := s.live.erase socket} id .socket

def Transport.closeRecv (s : Transport) (id : Nat) : Transport :=
  let joined := {s with runTask := none}
  match s.recvTask with
  | none => joined.closeSocket id
  | some task => if (s.recvs.get task).isSome then (joined.cancelRecv task).closeGoes id (.recv task) else joined.closeSocket id

-- A run task that ended with an exception raises it here.
def Transport.closeJoins (s : Transport) (id task : Nat) : Transport :=
  if task ∈ s.raised then s.closeGoes id .raised else s.closeRecv id

def Transport.closeRun (s : Transport) (id : Nat) : Transport :=
  let joined := {s with ackTask := none}
  match s.runTask with
  | none => joined.closeRecv id
  | some task => if (s.runs.get task).isSome then (joined.cancelRun task).closeGoes id (.run task) else joined.closeJoins id task

def Transport.startClose (s : Transport) (id : Nat) : Transport :=
  let closing := Transport.setEvent {s with closed := true}
  match s.ackTask with
  | none => closing.closeRun id
  | some task => if task ∈ s.acks then closing.closeGoes id (.ackCheck task) else closing.closeRun id

def Transport.closeGoesOn (s : Transport) (id : Nat) : ClosePhase → Option Transport
  | .ackCheck task => if task ∈ s.acks then none else some (s.closeRun id)
  | .run task => if (s.runs.get task).isSome then none else some (s.closeJoins id task)
  | .recv task => if (s.recvs.get task).isSome then none else some (s.closeSocket id)
  | .socket => some (Transport.closeReturns {s with ws := none} id)
  | _ => none

-- The receive loop.
def Transport.recvEnds (s : Transport) (task : Nat) : Transport := {s with recvs := s.recvs.erase task}

def Transport.recvGoes (s : Transport) (task : Nat) (phase : RecvPhase) : Transport :=
  {s with recvs := s.recvs.set task ⟨phase,false⟩}

-- `while self._ws is not None`
def Transport.recvTurn (s : Transport) (task : Nat) : Transport :=
  if s.ws.isSome then s.recvGoes task .reading else s.recvEnds task

def Transport.withConnection (s : Transport) (connection : Connection) : Transport :=
  {s with client := {s.client with connection := connection}}

def Transport.takeFrame (models : Models) (s : Transport) (task : Nat) (frame : Decoded) : Transport :=
  let next := s.withConnection (Ws.receive models {s.client.connection with receiving := true} frame)
  if next.client.connection.receiving then next.recvGoes task .handling else next.recvEnds task

-- The steps of `send` and `send_and_receive`; without a connection a call raises at once.
def Transport.sends (s : Transport) : Ws.Event → Bool
  | .call .. => s.ws.isSome
  | .sent .. | .sendRaises .. | .timesOut .. | .resumes .. => true
  | _ => false

def Transport.sender (models : Models) (s : Transport) (event : Ws.Event) : Option Transport :=
  if s.sends event then (s.client.next models ⟨0,0,false⟩ event).map (fun client => {s with client := client}) else none

section Machine
variable (models : Models) (settings : Settings)

def Transport.connectStep (s : Transport) (id : Nat) (call : ConnectCall) : ConnectEvent → Option Transport
  | .enter => if call.phase = .queued ∧ s.lock = none then some (s.enter settings id call) else none
  | .dial event =>
    match call.phase with
    | .dial place => (s.dialGoesOn place event).map (fun dialed => dialed.1.connectDial id call dialed.2)
    | _ => none
  | .wake => if call.phase = .waiting ∧ id ∉ s.waiters then some (s.afterEvent id call) else none
  | .joined =>
    match call.phase with
    | .failing task => if (s.runs.get task).isSome then none else some (s.connectJoins id call task)
    | _ => none

def Transport.runStep (s : Transport) (task : Nat) (loop : RunLoop) : RunEvent → Option Transport
  | .interrupted => if loop.interrupted then some (s.runEnds task) else none
  | .turn =>
    if loop.interrupted = false ∧ (loop.phase = .created ∨ loop.phase = .sleeping) then some (s.runTurn settings task loop.attempt)
    else none
  | .dial event =>
    match loop.interrupted,loop.phase with
    | false,.dial place => (s.dialGoesOn place event).map (fun dialed => dialed.1.afterDial settings task loop.attempt dialed.2)
    | _,_ => none
  | .received =>
    match loop.phase with
    | .receiving recv => if (s.recvs.get recv).isSome then none else some (s.afterRecv settings task loop.attempt)
    | _ => none
  | .closed => if loop.interrupted = false ∧ loop.phase = .closing then some (s.afterClose settings task loop.attempt) else none
  | .closeRaises => if loop.interrupted = false ∧ loop.phase = .closing then some (s.runRaises task) else none

def Transport.recvStep (s : Transport) (task : Nat) (loop : RecvLoop) : RecvEvent → Option Transport
  | .interrupted => if loop.interrupted then some (s.recvEnds task) else none
  | .starts => if loop.interrupted = false ∧ loop.phase = .created then some (s.recvTurn task) else none
  | .frame frame => if loop.interrupted = false ∧ loop.phase = .reading then some (s.takeFrame models task frame) else none
  | .again => if loop.interrupted = false ∧ loop.phase = .handling then some (s.recvTurn task) else none
  | .raises fault =>
    if loop.interrupted = false ∧ loop.phase ≠ .created then
      some ((s.withConnection (s.client.connection.fail fault)).recvEnds task)
    else none

def Transport.next (s : Transport) : Event → Option Transport
  | .connect id =>
    match s.connects.get id with
    | none => some {s with connects := s.connects.set id ⟨.queued,s.sockets,s.isOpen⟩}
    | some _ => none
  | .connecting id event => (s.connects.get id).bind (fun call => s.connectStep settings id call event)
  | .close id =>
    match s.closes.get id with
    | none => some (s.startClose id)
    | some _ => none
  | .closing id => (s.closes.get id).bind (s.closeGoesOn id)
  | .closeRaises id => if s.closes.get id = some .socket then some (s.closeGoes id .raised) else none
  | .run task event => (s.runs.get task).bind (fun loop => s.runStep settings task loop event)
  | .recv task event => (s.recvs.get task).bind (fun loop => s.recvStep models task loop event)
  | .ackEnds task => if task ∈ s.acks then some {s with acks := s.acks.erase task} else none
  | .disconnect socket => if socket ∈ s.live then some {s with live := s.live.erase socket} else none
  | .sender event => s.sender models event

-- A `connect` looks when `_ws` tells the truth: where it is set the socket is open, or was since the
-- call began; where it is not, no loop of an earlier connection is alive and the event is clear. A
-- `close` begins when no `connect` waits for the event. A request does not register its future
-- after a `close` has emptied the table.
def Transport.orderly (s : Transport) : Event → Bool
  | .connecting id .enter =>
    let saw := (s.connects.get id).any (ConnectCall.saw s)
    if s.ws.isSome then s.isOpen || saw
    else s.runs.entries.isEmpty && s.recvs.entries.isEmpty &&
      (!settings.reconnectOnDisconnect || !s.event || s.connectError || saw)
  | .close _ => s.waiters.all (fun id => (s.connects.get id).any (ConnectCall.saw s))
  | .sender (.sent id _) =>
    match s.client.calls.get id with
    | some (.sending _ _ true) => !s.shut && !s.closes.values.contains .socket
    | _ => true
  | _ => true

end Machine

end Asap.WsLifecycle
