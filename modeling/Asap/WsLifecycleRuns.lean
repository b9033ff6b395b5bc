import Asap.WsLifecycle
import Asap.WsDelivery

-- What holds of a transport over every orderly run: `connect` returns with a socket, there is one
-- loop of each kind, and `close` leaves no request behind.
namespace Asap.WsLifecycle
open OrderedDict Interleaving
open Asap.Ws (Client Connection Models Decoded Fault Future)

def ConnectPhase.holds : ConnectPhase → Bool
  | .dial _ | .waiting | .failing _ => true
  | _ => false

def AtMostOne (tasks : Dict Nat α) : Prop := ∀ a b, (tasks.get a).isSome = true → (tasks.get b).isSome = true → a = b

-- No receive loop that an open transport would leave behind, and the same for a run loop in a
-- phase: it may await the one receive loop there is.
def Quiet (s : Transport) : Prop := s.closed = true ∨ ∀ t, s.recvs.get t = none

def Resting (s : Transport) (phase : RunPhase) : Prop := s.closed = true ∨ ∀ t, (s.recvs.get t).isSome = true → phase = .receiving t

theorem Quiet.resting {s : Transport} (quiet : Quiet s) (phase : RunPhase) : Resting s phase := by
  rcases quiet with closed | idle
  · exact .inl closed
  · exact .inr (fun t alive => by simp [idle t] at alive)

theorem Resting.quiet {s : Transport} {phase : RunPhase} (resting : Resting s phase)
    (ended : ∀ t, phase = .receiving t → s.recvs.get t = none) : Quiet s := by
  rcases resting with closed | awaited
  · exact .inl closed
  · refine .inr ?_
    intro t
    cases alive : s.recvs.get t with
    | none => rfl
    | some loop =>
      have phased := awaited t (by simp [alive])
      rw [ended t phased] at alive
      cases alive

structure Loops (s : Transport) : Prop where
  held : ∀ id call, s.connects.get id = some call → call.phase.holds = true → s.lock = some id
  alone : ∀ id call place, s.connects.get id = some call → call.phase = .dial place → (∀ r, s.runs.get r = none) ∧ Quiet s
  oneRun : AtMostOne s.runs
  oneRecv : AtMostOne s.recvs
  awaited : ∀ r loop, s.runs.get r = some loop → Resting s loop.phase

structure Honest (s : Transport) : Prop where
  began : ∀ id call, s.connects.get id = some call → call.began ≤ s.sockets
  returned : ∀ id call, s.connects.get id = some call → call.phase = .returned → call.saw s = true
  discarding : ∀ id call, s.connects.get id = some call → call.phase = .dial .discarding → call.saw s = true
  woken : ∀ id call, s.connects.get id = some call → call.phase = .waiting → id ∉ s.waiters →
    call.saw s = true ∨ (s.connectError = true ∧ ∀ r, s.runs.get r = none)

theorem saw_later {s next : Transport} {call : ConnectCall} (saw : call.saw s = true) (more : s.sockets ≤ next.sockets) :
    call.saw next = true := by
  simp only [ConnectCall.saw,Bool.or_eq_true,decide_eq_true_eq] at *
  exact saw.imp id (fun opened => by omega)

theorem saw_opened {s next : Transport} {call : ConnectCall} (began : call.began ≤ s.sockets) (opened : s.sockets < next.sockets) :
    call.saw next = true := by
  simp only [ConnectCall.saw,Bool.or_eq_true,decide_eq_true_eq]
  exact .inr (by omega)

-- Steps that start no loop and touch no `connect`: those of `close`, of the receive loops, the
-- senders and the server.
structure Calm (s next : Transport) : Prop where
  connects : next.connects = s.connects
  lock : next.lock = s.lock
  sockets : next.sockets = s.sockets
  connectError : next.connectError = s.connectError
  closed : s.closed = true → next.closed = true
  waiters : ∀ id ∈ s.waiters, id ∉ next.waiters → (s.connects.get id).any (ConnectCall.saw s) = true
  runs : ∀ r, (next.runs.get r).map RunLoop.phase = (s.runs.get r).map RunLoop.phase
  recvs : ∀ t, (next.recvs.get t).isSome = true → (s.recvs.get t).isSome = true

theorem phases_none {runs runs' : Dict Nat RunLoop} {r : Nat} (same : (runs'.get r).map RunLoop.phase = (runs.get r).map RunLoop.phase)
    (idle : runs.get r = none) : runs'.get r = none := by
  rw [idle] at same
  simpa using same

theorem Calm.resting {s next : Transport} (calm : Calm s next) {phase : RunPhase} (resting : Resting s phase) : Resting next phase := by
  rcases resting with closed | awaited
  · exact .inl (calm.closed closed)
  · exact .inr (fun t alive => awaited t (calm.recvs t alive))

theorem Calm.quiet {s next : Transport} (calm : Calm s next) (quiet : Quiet s) : Quiet next := by
  rcases quiet with closed | idle
  · exact .inl (calm.closed closed)
  · refine .inr ?_
    intro t
    cases alive : next.recvs.get t with
    | none => rfl
    | some loop =>
      have before := calm.recvs t (by simp [alive])
      simp [idle t] at before

theorem Calm.loops {s next : Transport} (calm : Calm s next) (loops : Loops s) : Loops next := by
  refine ⟨?_,?_,?_,?_,?_⟩
  · intro id call found holds
    rw [calm.connects] at found
    rw [calm.lock]
    exact loops.held id call found holds
  · intro id call place found phase
    rw [calm.connects] at found
    obtain ⟨idle,quiet⟩ := loops.alone id call place found phase
    exact ⟨fun r => phases_none (calm.runs r) (idle r),calm.quiet quiet⟩
  · intro a b alive alive'
    have same : ∀ r, (next.runs.get r).isSome = true → (s.runs.get r).isSome = true := by
      intro r alive
      have phases := congrArg Option.isSome (calm.runs r)
      simp only [Option.isSome_map] at phases
      rwa [← phases]
    exact loops.oneRun a b (same a alive) (same b alive')
  · intro a b alive alive'
    exact loops.oneRecv a b (calm.recvs a alive) (calm.recvs b alive')
  · intro r loop found
    have phases := calm.runs r
    rw [found,Option.map_some] at phases
    obtain ⟨before,known,phase⟩ := Option.map_eq_some_iff.mp phases.symm
    rw [← phase]
    exact calm.resting (loops.awaited r before known)

theorem Calm.honest {s next : Transport} (calm : Calm s next) (honest : Honest s) : Honest next := by
  have same : next.sockets = s.sockets := calm.sockets
  have later {call : ConnectCall} (saw : call.saw s = true) : call.saw next = true := saw_later saw same.ge
  refine ⟨?_,?_,?_,?_⟩
  · intro id call found
    rw [calm.connects] at found
    exact same ▸ honest.began id call found
  · intro id call found phase
    rw [calm.connects] at found
    exact later (honest.returned id call found phase)
  · intro id call found phase
    rw [calm.connects] at found
    exact later (honest.discarding id call found phase)
  · intro id call found phase free
    rw [calm.connects] at found
    by_cases waited : id ∈ s.waiters
    · have saw := calm.waiters id waited free
      rw [found] at saw
      exact .inl (later saw)
    · rcases honest.woken id call found phase waited with saw | ⟨error,idle⟩
      · exact .inl (later saw)
      · exact .inr ⟨calm.connectError.trans error,fun r => phases_none (calm.runs r) (idle r)⟩

-- What the loops and `_do_connect` never write.
structure Frame (s next : Transport) : Prop where
  client : next.client = s.client
  closed : next.closed = s.closed
  lock : next.lock = s.lock
  connects : next.connects = s.connects
  closes : next.closes = s.closes
  shut : next.shut = s.shut

theorem Frame.refl (s : Transport) : Frame s s := ⟨rfl,rfl,rfl,rfl,rfl,rfl⟩

theorem Frame.trans {s middle next : Transport} (first : Frame s middle) (second : Frame middle next) : Frame s next :=
  ⟨second.client.trans first.client,second.closed.trans first.closed,second.lock.trans first.lock,
    second.connects.trans first.connects,second.closes.trans first.closes,second.shut.trans first.shut⟩

-- A stretch of `_do_connect`. It starts a receive loop only on an open transport.
structure Dialed (s next : Transport) (outcome : Outcome) : Prop extends Frame s next where
  runs : next.runs = s.runs
  sockets : s.sockets ≤ next.sockets
  waiters : next.waiters = s.waiters ∨ s.sockets < next.sockets
  recvs : next.recvs = s.recvs ∨ (s.closed = false ∧ outcome = .finished ∧ s.sockets < next.sockets ∧
    ∃ t loop, next.recvTask = some t ∧ next.recvs = s.recvs.set t loop)
  discards : outcome = .suspended .discarding → s.sockets < next.sockets

theorem startDial_dialed (s : Transport) (ack : Option Nat) :
    Dialed s (Transport.startDial {s with ackTask := ack}).1 (Transport.startDial {s with ackTask := ack}).2 := by
  refine ⟨⟨rfl,rfl,rfl,rfl,rfl,rfl⟩,rfl,le_refl _,.inl rfl,.inl rfl,?_⟩
  intro discards
  cases discards

theorem doConnect_dialed (s : Transport) : Dialed s s.doConnect.1 s.doConnect.2 := by
  unfold Transport.doConnect
  split
  · exact ⟨Frame.refl s,rfl,le_refl _,.inl rfl,.inl rfl,fun discards => by cases discards⟩
  · split
    · exact startDial_dialed s s.ackTask
    · split
      · exact ⟨Frame.refl s,rfl,le_refl _,.inl rfl,.inl rfl,fun discards => by cases discards⟩
      · exact startDial_dialed s none

theorem opened_dialed (s : Transport) : Dialed s s.opened.1 s.opened.2 := by
  unfold Transport.opened
  split
  · exact ⟨⟨rfl,rfl,rfl,rfl,rfl,rfl⟩,rfl,Nat.le_succ _,.inl rfl,.inl rfl,fun _ => Nat.lt_succ_self _⟩
  · rename_i live
    have live : s.closed = false := by simpa using live
    refine ⟨⟨rfl,rfl,rfl,rfl,rfl,rfl⟩,rfl,Nat.le_succ _,.inr (Nat.lt_succ_self _),?_,fun discards => by cases discards⟩
    exact .inr ⟨live,rfl,Nat.lt_succ_self _,s.tasks,_,rfl,rfl⟩

theorem dialGoesOn_dialed {s : Transport} {place : Dial} {event : DialEvent} {dialed : Transport × Outcome}
    (taken : s.dialGoesOn place event = some dialed) : Dialed s dialed.1 dialed.2 := by
  unfold Transport.dialGoesOn at taken
  split at taken
  · split at taken
    · cases taken
    · cases taken
      exact startDial_dialed s none
  · cases taken
    exact opened_dialed s
  · cases taken
    exact ⟨Frame.refl s,rfl,le_refl _,.inl rfl,.inl rfl,fun discards => by cases discards⟩
  · cases taken
    exact ⟨⟨rfl,rfl,rfl,rfl,rfl,rfl⟩,rfl,le_refl _,.inl rfl,.inl rfl,fun discards => by cases discards⟩
  · cases taken
    exact ⟨Frame.refl s,rfl,le_refl _,.inl rfl,.inl rfl,fun discards => by cases discards⟩
  · cases taken

-- `_do_connect` returns with a socket, unless it had to close the one it got.
theorem dialGoesOn_finished {s : Transport} {place : Dial} {event : DialEvent} {dialed : Transport × Outcome}
    (taken : s.dialGoesOn place event = some dialed) (finished : dialed.2 = .finished) :
    s.sockets < dialed.1.sockets ∨ place = .discarding := by
  unfold Transport.dialGoesOn at taken
  split at taken
  · split at taken
    · cases taken
    · cases taken
      cases finished
  · cases taken
    refine .inl ?_
    unfold Transport.opened
    split <;> exact Nat.lt_succ_self _
  · cases taken
    cases finished
  · exact .inr rfl
  · cases taken
    cases finished
  · cases taken

-- The rest of a step of a run loop.
structure RunTail (s next : Transport) (task : Nat) : Prop extends Frame s next where
  others : ∀ r, r ≠ task → next.runs.get r = s.runs.get r
  sockets : next.sockets = s.sockets
  recvs : next.recvs = s.recvs
  woken : next.waiters = s.waiters ∨ (next.connectError = true ∧ next.runs.get task = none)

section RunTail
variable (settings : Settings) (s : Transport) (task attempt : Nat)

theorem runEnds_tail : RunTail s (s.runEnds task) task := by
  refine ⟨⟨rfl,rfl,rfl,rfl,rfl,rfl⟩,?_,rfl,rfl,.inl rfl⟩
  intro r other
  simp [Transport.runEnds,Dict.get_erase,Ne.symm other]

theorem runRaises_tail : RunTail s (s.runRaises task) task := by
  refine ⟨⟨rfl,rfl,rfl,rfl,rfl,rfl⟩,?_,rfl,rfl,.inl rfl⟩
  intro r other
  simp [Transport.runRaises,Dict.get_erase,Ne.symm other]

theorem runSuspends_tail (phase : RunPhase) : RunTail s (s.runSuspends task attempt phase) task := by
  refine ⟨⟨rfl,rfl,rfl,rfl,rfl,rfl⟩,?_,rfl,rfl,.inl rfl⟩
  intro r other
  exact Dict.get_set_other _ _ (Ne.symm other)

theorem backOff_tail : RunTail s (s.backOff settings task attempt) task := by
  unfold Transport.backOff
  split
  · exact runEnds_tail s task
  · exact runSuspends_tail s task _ .sleeping

theorem afterClose_tail : RunTail s (s.afterClose settings task attempt) task := by
  have tail := backOff_tail settings {s with ws := none,recvTask := none} task attempt
  exact ⟨⟨tail.client,tail.closed,tail.lock,tail.connects,tail.closes,tail.shut⟩,tail.others,tail.sockets,tail.recvs,tail.woken⟩

theorem afterRecv_tail : RunTail s (s.afterRecv settings task attempt) task := by
  unfold Transport.afterRecv
  split
  · exact runEnds_tail s task
  · split
    · exact afterClose_tail settings s task attempt
    · rename_i socket _
      have tail := runSuspends_tail {s with live := s.live.erase socket} task attempt .closing
      exact ⟨⟨tail.client,tail.closed,tail.lock,tail.connects,tail.closes,tail.shut⟩,tail.others,tail.sockets,tail.recvs,tail.woken⟩

theorem afterDial_tail (outcome : Outcome) : RunTail s (s.afterDial settings task attempt outcome) task := by
  unfold Transport.afterDial
  split
  · exact runSuspends_tail s task attempt _
  · split
    · exact afterRecv_tail settings s task attempt
    · split
      · exact runSuspends_tail s task attempt _
      · exact afterRecv_tail settings s task attempt
  · split
    · have tail := runRaises_tail (Transport.setEvent {s with connectError := true}) task
      exact ⟨⟨tail.client,tail.closed,tail.lock,tail.connects,tail.closes,tail.shut⟩,tail.others,tail.sockets,tail.recvs,
        .inr ⟨rfl,Dict.get_erase_self _ _⟩⟩
    · exact afterClose_tail settings s task attempt
end RunTail

-- A whole step of a run loop.
structure RunMoved (s next : Transport) (task : Nat) : Prop extends Frame s next where
  others : ∀ r, r ≠ task → next.runs.get r = s.runs.get r
  sockets : s.sockets ≤ next.sockets
  woken : next.waiters = s.waiters ∨ s.sockets < next.sockets ∨ (next.connectError = true ∧ next.runs.get task = none)
  oneRecv : AtMostOne next.recvs
  rests : ∀ loop, next.runs.get task = some loop → Resting next loop.phase

theorem RunTail.moved {s next : Transport} {task : Nat} (tail : RunTail s next task) (quiet : Quiet s) (one : AtMostOne s.recvs) :
    RunMoved s next task := by
  refine ⟨tail.toFrame,tail.others,tail.sockets.ge,tail.woken.imp_right .inr,?_,?_⟩
  · rw [tail.recvs]
    exact one
  · intro loop _
    refine Quiet.resting ?_ loop.phase
    unfold Quiet
    rw [tail.closed,tail.recvs]
    exact quiet

theorem set_one {tasks : Dict Nat α} (idle : ∀ t, tasks.get t = none) (t : Nat) (loop : α) : AtMostOne (tasks.set t loop) := by
  have only : ∀ a, ((tasks.set t loop).get a).isSome = true → t = a := by
    intro a alive
    rw [Dict.get_set] at alive
    split at alive
    · assumption
    · simp [idle a] at alive
  intro a b first second
  exact (only a first).symm.trans (only b second)

-- `_do_connect` and what the run loop does after it. A loop that has started a receive loop awaits it.
theorem Dialed.run_moved {s dialed : Transport} {outcome : Outcome} (dial : Dialed s dialed outcome) (settings : Settings)
    (task attempt : Nat) (quiet : Quiet s) (one : AtMostOne s.recvs) :
    RunMoved s (dialed.afterDial settings task attempt outcome) task := by
  have tail := afterDial_tail settings dialed task attempt outcome
  have frame := dial.toFrame.trans tail.toFrame
  have others : ∀ r, r ≠ task → (dialed.afterDial settings task attempt outcome).runs.get r = s.runs.get r := by
    intro r other
    rw [tail.others r other,dial.runs]
  have sockets : s.sockets ≤ (dialed.afterDial settings task attempt outcome).sockets := tail.sockets ▸ dial.sockets
  have woken : (dialed.afterDial settings task attempt outcome).waiters = s.waiters ∨
      s.sockets < (dialed.afterDial settings task attempt outcome).sockets ∨
      ((dialed.afterDial settings task attempt outcome).connectError = true ∧
        (dialed.afterDial settings task attempt outcome).runs.get task = none) := by
    rcases tail.woken with same | failed
    · rw [same,tail.sockets]
      exact dial.waiters.imp_right .inl
    · exact .inr (.inr failed)
  rcases dial.recvs with same | ⟨live,rfl,_,t,recv,awaited,started⟩
  · have quiet' : Quiet dialed := by
      unfold Quiet
      rw [dial.closed,same]
      exact quiet
    have moved := tail.moved quiet' (same ▸ one)
    exact ⟨frame,others,sockets,woken,moved.oneRecv,moved.rests⟩
  · have idle : ∀ t, s.recvs.get t = none := by
      rcases quiet with closed | idle
      · rw [live] at closed
        cases closed
      · exact idle
    have suspends : dialed.afterDial settings task attempt .finished = dialed.runSuspends task attempt (.receiving t) := by
      simp [Transport.afterDial,awaited,started]
    rw [suspends] at frame others sockets woken ⊢
    refine ⟨frame,others,sockets,woken,?_,?_⟩
    · change AtMostOne dialed.recvs
      rw [started]
      exact set_one idle t recv
    · intro loop found
      have phase : loop.phase = .receiving t := by
        simp only [Transport.runSuspends,Dict.get_set_self,Option.some.injEq] at found
        rw [← found]
      refine .inr ?_
      intro other alive
      change (dialed.recvs.get other).isSome = true at alive
      rw [started] at alive
      rw [phase,set_one idle t recv t other (by simp) alive]

theorem runStep_moved {s next : Transport} {settings : Settings} {task : Nat} {loop : RunLoop} {event : RunEvent} (loops : Loops s)
    (found : s.runs.get task = some loop) (taken : s.runStep settings task loop event = some next) : RunMoved s next task := by
  have resting := loops.awaited task loop found
  have calm (still : ∀ t, loop.phase ≠ .receiving t) : Quiet s := resting.quiet (fun t phase => absurd phase (still t))
  cases event with
  | interrupted =>
    simp only [Transport.runStep] at taken
    split at taken
    · cases taken
      have tail := runEnds_tail s task
      refine ⟨tail.toFrame,tail.others,tail.sockets.ge,.inl rfl,loops.oneRecv,?_⟩
      intro loop gone
      simp [Transport.runEnds] at gone
    · cases taken
  | turn =>
    simp only [Transport.runStep] at taken
    split at taken
    · rename_i ready
      cases taken
      have quiet : Quiet s := calm (fun t phase => by simp [phase] at ready)
      unfold Transport.runTurn
      split
      · exact (runEnds_tail s task).moved quiet loops.oneRecv
      · have moved := (doConnect_dialed {s with event := false}).run_moved settings task loop.attempt quiet loops.oneRecv
        exact ⟨⟨moved.client,moved.closed,moved.lock,moved.connects,moved.closes,moved.shut⟩,moved.others,moved.sockets,
          moved.woken,moved.oneRecv,moved.rests⟩
    · cases taken
  | dial event =>
    simp only [Transport.runStep] at taken
    split at taken
    · rename_i place _ phase
      obtain ⟨dialed,went,rfl⟩ := Option.map_eq_some_iff.mp taken
      exact (dialGoesOn_dialed went).run_moved settings task loop.attempt (calm (fun t other => by simp [phase] at other)) loops.oneRecv
    · cases taken
  | received =>
    simp only [Transport.runStep] at taken
    split at taken
    · rename_i recv phase
      split at taken
      · cases taken
      · rename_i ended
        cases taken
        refine (afterRecv_tail settings s task loop.attempt).moved ?_ loops.oneRecv
        refine resting.quiet ?_
        intro t same
        rw [phase] at same
        cases same
        simpa using ended
    · cases taken
  | closed =>
    simp only [Transport.runStep] at taken
    split at taken
    · rename_i ready
      cases taken
      exact (afterClose_tail settings s task loop.attempt).moved (calm (fun t phase => by simp [phase] at ready)) loops.oneRecv
    · cases taken
  | closeRaises =>
    simp only [Transport.runStep] at taken
    split at taken
    · rename_i ready
      cases taken
      exact (runRaises_tail s task).moved (calm (fun t phase => by simp [phase] at ready)) loops.oneRecv
    · cases taken

theorem RunMoved.loops {s next : Transport} {task : Nat} {loop : RunLoop} (moved : RunMoved s next task) (loops : Loops s)
    (found : s.runs.get task = some loop) : Loops next := by
  have only : ∀ r, (next.runs.get r).isSome = true → r = task := by
    intro r alive
    by_cases same : r = task
    · exact same
    · rw [moved.others r same] at alive
      exact loops.oneRun r task alive (by simp [found])
  refine ⟨?_,?_,?_,moved.oneRecv,?_⟩
  · intro id call stored holds
    rw [moved.connects] at stored
    rw [moved.lock]
    exact loops.held id call stored holds
  · intro id call place stored phase
    rw [moved.connects] at stored
    have idle := (loops.alone id call place stored phase).1 task
    rw [found] at idle
    cases idle
  · intro a b first second
    exact (only a first).trans (only b second).symm
  · intro r other stored
    have same := only r (by simp [stored])
    subst same
    exact moved.rests other stored

theorem RunMoved.honest {s next : Transport} {task : Nat} {loop : RunLoop} (moved : RunMoved s next task) (loops : Loops s)
    (found : s.runs.get task = some loop) (honest : Honest s) : Honest next := by
  have later {call : ConnectCall} (saw : call.saw s = true) : call.saw next = true := saw_later saw moved.sockets
  refine ⟨?_,?_,?_,?_⟩
  · intro id call stored
    rw [moved.connects] at stored
    exact (honest.began id call stored).trans moved.sockets
  · intro id call stored phase
    rw [moved.connects] at stored
    exact later (honest.returned id call stored phase)
  · intro id call stored phase
    rw [moved.connects] at stored
    exact later (honest.discarding id call stored phase)
  · intro id call stored phase free
    rw [moved.connects] at stored
    rcases moved.woken with same | opened | ⟨error,gone⟩
    · rw [same] at free
      rcases honest.woken id call stored phase free with saw | ⟨_,idle⟩
      · exact .inl (later saw)
      · rw [idle task] at found
        cases found
    · exact .inl (saw_opened (honest.began id call stored) opened)
    · refine .inr ⟨error,?_⟩
      intro r
      by_cases same : r = task
      · rw [same]
        exact gone
      · rw [moved.others r same]
        cases alive : s.runs.get r with
        | none => rfl
        | some other => exact absurd (loops.oneRun r task (by simp [alive]) (by simp [found])) same

-- A step of a call of `connect` that has the lock: the other calls wait for it or are over.
structure ConnectMoved (s next : Transport) (id : Nat) (call : ConnectCall) (phase : ConnectPhase) : Prop where
  connects : next.connects = s.connects.set id {call with phase := phase}
  lock : phase.holds = true → next.lock = s.lock
  sockets : s.sockets ≤ next.sockets
  dial : ∀ place, phase = .dial place → (∀ r, next.runs.get r = none) ∧ Quiet next
  oneRun : AtMostOne next.runs
  oneRecv : AtMostOne next.recvs
  awaited : ∀ r loop, next.runs.get r = some loop → Resting next loop.phase
  saw : phase = .returned ∨ phase = .dial .discarding → call.saw next = true
  asleep : phase = .waiting → id ∈ next.waiters

section ConnectMoved
variable {s next : Transport} {id : Nat} {call : ConnectCall} {phase : ConnectPhase} (moved : ConnectMoved s next id call phase)

include moved in
theorem ConnectMoved.other (loops : ∀ other waiting, other ≠ id → s.connects.get other = some waiting → waiting.phase.holds = false)
    {other : Nat} {waiting : ConnectCall} (found : next.connects.get other = some waiting) :
    (other = id ∧ waiting = {call with phase := phase}) ∨ (s.connects.get other = some waiting ∧ waiting.phase.holds = false) := by
  rw [moved.connects,Dict.get_set] at found
  split at found
  · rename_i same
    exact .inl ⟨same.symm,(Option.some.inj found).symm⟩
  · rename_i different
    exact .inr ⟨found,loops other waiting (Ne.symm different) found⟩

include moved in
theorem ConnectMoved.loops (others : ∀ other waiting, other ≠ id → s.connects.get other = some waiting → waiting.phase.holds = false)
    (mine : phase.holds = true → s.lock = some id) : Loops next := by
  refine ⟨?_,?_,moved.oneRun,moved.oneRecv,moved.awaited⟩
  · intro other waiting found holds
    rcases moved.other others found with ⟨rfl,rfl⟩ | ⟨_,free⟩
    · rw [moved.lock holds,mine holds]
    · rw [free] at holds
      cases holds
  · intro other waiting place found dials
    rcases moved.other others found with ⟨rfl,rfl⟩ | ⟨_,free⟩
    · exact moved.dial place dials
    · rw [dials] at free
      cases free

include moved in
theorem ConnectMoved.honest (others : ∀ other waiting, other ≠ id → s.connects.get other = some waiting → waiting.phase.holds = false)
    (began : call.began ≤ s.sockets) (honest : Honest s) : Honest next := by
  refine ⟨?_,?_,?_,?_⟩
  · intro other waiting found
    rcases moved.other others found with ⟨rfl,rfl⟩ | ⟨stored,_⟩
    · exact began.trans moved.sockets
    · exact (honest.began other waiting stored).trans moved.sockets
  · intro other waiting found returned
    rcases moved.other others found with ⟨rfl,rfl⟩ | ⟨stored,_⟩
    · exact moved.saw (.inl returned)
    · exact saw_later (honest.returned other waiting stored returned) moved.sockets
  · intro other waiting found discards
    rcases moved.other others found with ⟨rfl,rfl⟩ | ⟨_,free⟩
    · exact moved.saw (.inr discards)
    · rw [discards] at free
      cases free
  · intro other waiting found waits free
    rcases moved.other others found with ⟨rfl,rfl⟩ | ⟨_,holds⟩
    · exact absurd (moved.asleep waits) free
    · rw [waits] at holds
      cases holds
end ConnectMoved

def phaseAfter : Outcome → ConnectPhase
  | .suspended place => .dial place
  | .finished => .returned
  | .raised => .raised

theorem Dialed.connect_moved {s dialed : Transport} {outcome : Outcome} (dial : Dialed s dialed outcome) (id : Nat) (call : ConnectCall)
    (idle : ∀ r, s.runs.get r = none) (quiet : Quiet s) (one : AtMostOne s.recvs) (began : call.began ≤ s.sockets)
    (saw : outcome = .finished → call.saw dialed = true) :
    ConnectMoved s (dialed.connectDial id call outcome) id call (phaseAfter outcome) := by
  have unrun : ∀ r, dialed.runs.get r = none := fun r => by rw [dial.runs,idle r]
  have one' : AtMostOne dialed.recvs := by
    rcases dial.recvs with same | ⟨live,_,_,t,recv,_,started⟩
    · rw [same]
      exact one
    · rw [started]
      refine set_one ?_ t recv
      rcases quiet with closed | none
      · rw [live] at closed
        cases closed
      · exact none
  have ran : AtMostOne dialed.runs := fun a b alive _ => by simp [unrun a] at alive
  have connects : dialed.connects = s.connects := dial.connects
  have sockets := dial.sockets
  cases outcome with
  | suspended place =>
    have quiet' : Quiet dialed := by
      rcases dial.recvs with same | ⟨_,impossible,_⟩
      · unfold Quiet
        rw [dial.closed,same]
        exact quiet
      · cases impossible
    refine ⟨by rw [← connects]; rfl,fun _ => dial.lock,sockets,fun _ _ => ⟨unrun,quiet'⟩,ran,one',?_,?_,?_⟩
    · intro r loop found
      exact absurd found (by simp [Transport.connectDial,Transport.connectGoes,unrun r])
    · rintro (impossible | same)
      · cases impossible
      · cases same
        exact saw_opened began (dial.discards rfl)
    · intro impossible
      cases impossible
  | finished =>
    refine ⟨by rw [← connects]; rfl,?_,sockets,?_,ran,one',?_,fun _ => saw rfl,?_⟩
    · intro impossible
      cases impossible
    · intro place impossible
      cases impossible
    · intro r loop found
      exact absurd found (by simp [Transport.connectDial,Transport.connectEnds,Transport.connectGoes,unrun r])
    · intro impossible
      cases impossible
  | raised =>
    refine ⟨by rw [← connects]; rfl,?_,sockets,?_,ran,one',?_,?_,?_⟩
    · intro impossible
      cases impossible
    · intro place impossible
      cases impossible
    · intro r loop found
      exact absurd found (by simp [Transport.connectDial,Transport.connectEnds,Transport.connectGoes,unrun r])
    · rintro (impossible | impossible)
      · cases impossible
      · cases impossible
    · intro impossible
      cases impossible

-- A step that only moves the call on.
theorem moves_on {s next : Transport} {id : Nat} {call : ConnectCall} {phase : ConnectPhase}
    (connects : next.connects = s.connects.set id {call with phase := phase}) (lock : phase.holds = true → next.lock = s.lock)
    (sockets : next.sockets = s.sockets) (closed : next.closed = s.closed) (runs : next.runs = s.runs) (recvs : next.recvs = s.recvs)
    (oneRun : AtMostOne s.runs) (oneRecv : AtMostOne s.recvs) (awaited : ∀ r loop, s.runs.get r = some loop → Resting s loop.phase)
    (still : ∀ place, phase ≠ .dial place) (saw : phase = .returned → call.saw s = true)
    (asleep : phase = .waiting → id ∈ next.waiters) : ConnectMoved s next id call phase := by
  refine ⟨connects,lock,sockets.ge,fun place same => absurd same (still place),runs ▸ oneRun,recvs ▸ oneRecv,?_,?_,asleep⟩
  · intro r loop found
    rw [runs] at found
    unfold Resting
    rw [closed,recvs]
    exact awaited r loop found
  · rintro (returned | discards)
    · exact saw_later (saw returned) sockets.ge
    · exact absurd discards (still _)

theorem connectJoins_moved {s : Transport} (id : Nat) (call : ConnectCall) (task : Nat) (oneRun : AtMostOne s.runs)
    (oneRecv : AtMostOne s.recvs) (awaited : ∀ r loop, s.runs.get r = some loop → Resting s loop.phase) :
    ConnectMoved s (s.connectJoins id call task) id call .raised := by
  unfold Transport.connectJoins
  split <;> exact moves_on rfl (fun impossible => by cases impossible) rfl rfl rfl rfl oneRun oneRecv awaited
    (fun _ impossible => by cases impossible) (fun impossible => by cases impossible) (fun impossible => by cases impossible)

theorem afterEvent_moved {s : Transport} (id : Nat) (call : ConnectCall) (oneRun : AtMostOne s.runs) (oneRecv : AtMostOne s.recvs)
    (awaited : ∀ r loop, s.runs.get r = some loop → Resting s loop.phase) (saw : call.saw s = true ∨ s.connectError = true) :
    ∃ phase, ConnectMoved s (s.afterEvent id call) id call phase := by
  unfold Transport.afterEvent
  split
  · split
    · exact ⟨.raised,moves_on rfl (fun impossible => by cases impossible) rfl rfl rfl rfl oneRun oneRecv awaited
        (fun _ impossible => by cases impossible) (fun impossible => by cases impossible) (fun impossible => by cases impossible)⟩
    · rename_i task _
      split
      · exact ⟨.failing task,moves_on rfl (fun _ => rfl) rfl rfl rfl rfl oneRun oneRecv awaited
          (fun _ impossible => by cases impossible) (fun impossible => by cases impossible) (fun impossible => by cases impossible)⟩
      · have joined := connectJoins_moved (s := {s with connectError := false}) id call task oneRun oneRecv awaited
        exact ⟨.raised,joined.connects,joined.lock,joined.sockets,joined.dial,joined.oneRun,joined.oneRecv,joined.awaited,
          joined.saw,joined.asleep⟩
  · rename_i clean
    have seen : call.saw s = true := saw.resolve_right clean
    exact ⟨.returned,moves_on rfl (fun impossible => by cases impossible) rfl rfl rfl rfl oneRun oneRecv awaited
      (fun _ impossible => by cases impossible) (fun _ => seen) (fun impossible => by cases impossible)⟩

theorem empty_none {tasks : Dict Nat α} (empty : tasks.entries.isEmpty = true) (t : Nat) : tasks.get t = none := by
  have rows : tasks.entries = [] := List.isEmpty_iff.mp empty
  rw [Dict.get_none_iff,Dict.keys,rows]
  exact List.not_mem_nil

theorem Loops.unheld {s : Transport} (loops : Loops s) {id : Nat} (lock : s.lock = none ∨ s.lock = some id) (other : Nat)
    (waiting : ConnectCall) (different : other ≠ id) (found : s.connects.get other = some waiting) : waiting.phase.holds = false := by
  by_contra holds
  have mine := loops.held other waiting found (by simpa using holds)
  rcases lock with free | taken
  · rw [free] at mine
    cases mine
  · rw [taken] at mine
    exact different (Option.some.inj mine).symm

-- `connect` opens a socket or starts the run loop only where nothing of an earlier connection is left.
theorem enter_moved {s : Transport} {settings : Settings} {id : Nat} {call : ConnectCall} (loops : Loops s) (honest : Honest s)
    (found : s.connects.get id = some call) (free : s.lock = none)
    (orderly : s.orderly settings (.connecting id .enter) = true) :
    Loops (s.enter settings id call) ∧ Honest (s.enter settings id call) := by
  have others := loops.unheld (.inl free : s.lock = none ∨ s.lock = some id)
  have began := honest.began id call found
  simp only [Transport.orderly,found,Option.any_some] at orderly
  unfold Transport.enter
  split at orderly
  · rename_i stale
    rw [if_pos stale]
    have moved : ConnectMoved s (s.connectGoes id {call with sawOpen := call.sawOpen || s.isOpen} .returned) id
        {call with sawOpen := call.sawOpen || s.isOpen} .returned := by
      refine moves_on rfl (fun impossible => by cases impossible) rfl rfl rfl rfl loops.oneRun loops.oneRecv loops.awaited
        (fun _ impossible => by cases impossible) ?_ (fun impossible => by cases impossible)
      intro _
      simp only [ConnectCall.saw,Bool.or_eq_true] at orderly ⊢
      tauto
    exact ⟨moved.loops others (fun impossible => by cases impossible),moved.honest others began honest⟩
  · rename_i unset
    rw [if_neg unset]
    simp only [Bool.and_eq_true] at orderly
    obtain ⟨⟨runs,recvs⟩,event⟩ := orderly
    have idle := empty_none runs
    have quiet := empty_none recvs
    split
    · rename_i reconnects
      let start : Transport := {s with
        closed := false,shut := false,lock := some id,runs := s.runs.set s.tasks ⟨0,.created,false⟩
        runTask := some s.tasks,tasks := s.tasks + 1}
      have oneRun : AtMostOne start.runs := set_one idle s.tasks _
      have awaited : ∀ r loop, start.runs.get r = some loop → Resting start loop.phase :=
        fun r loop _ => Quiet.resting (s := start) (.inr quiet) loop.phase
      have honest' : Honest start := by
        refine ⟨honest.began,honest.returned,honest.discarding,?_⟩
        intro other waiting stored waits
        have holds : waiting.phase.holds = true := by rw [waits]; rfl
        have mine := loops.held other waiting stored holds
        rw [free] at mine
        cases mine
      have moved : ∃ phase, ConnectMoved start (start.waitEvent id call) id call phase := by
        unfold Transport.waitEvent
        split
        · rename_i set
          refine afterEvent_moved id call oneRun loops.oneRecv awaited ?_
          have set' : s.event = true := set
          simp only [reconnects,set',Bool.not_true,Bool.false_or,Bool.or_eq_true] at event
          exact event.symm
        · refine ⟨.waiting,moves_on rfl (fun _ => rfl) rfl rfl rfl rfl oneRun loops.oneRecv awaited
            (fun _ impossible => by cases impossible) (fun impossible => by cases impossible) (fun _ => List.mem_cons_self)⟩
      obtain ⟨phase,moved⟩ := moved
      exact ⟨moved.loops others (fun _ => rfl),moved.honest others began honest'⟩
    · let start : Transport := {s with closed := false,shut := false,lock := some id}
      have honest' : Honest start := ⟨honest.began,honest.returned,honest.discarding,honest.woken⟩
      have dial := doConnect_dialed start
      have moved : ConnectMoved start (start.doConnect.1.connectDial id call start.doConnect.2) id call (phaseAfter start.doConnect.2) := by
        refine dial.connect_moved id call idle (.inr quiet) loops.oneRecv began ?_
        intro finished
        have suspends : ∃ place, start.doConnect.2 = .suspended place := by
          unfold Transport.doConnect
          rw [if_neg unset]
          split
          · exact ⟨.dialing,rfl⟩
          · split
            · exact ⟨_,rfl⟩
            · exact ⟨.dialing,rfl⟩
        obtain ⟨place,suspended⟩ := suspends
        rw [suspended] at finished
        cases finished
      exact ⟨moved.loops others (fun _ => rfl),moved.honest others began honest'⟩

theorem connectStep_kept {s next : Transport} {settings : Settings} {id : Nat} {call : ConnectCall} {event : ConnectEvent}
    (loops : Loops s) (honest : Honest s) (found : s.connects.get id = some call)
    (orderly : s.orderly settings (.connecting id event) = true) (taken : s.connectStep settings id call event = some next) :
    Loops next ∧ Honest next := by
  have began := honest.began id call found
  cases event with
  | enter =>
    simp only [Transport.connectStep] at taken
    split at taken
    · rename_i ready
      cases taken
      exact enter_moved loops honest found ready.2 orderly
    · cases taken
  | dial event =>
    simp only [Transport.connectStep] at taken
    split at taken
    · rename_i place phase
      obtain ⟨dialed,went,rfl⟩ := Option.map_eq_some_iff.mp taken
      obtain ⟨idle,quiet⟩ := loops.alone id call place found phase
      have mine := loops.held id call found (by rw [phase]; rfl)
      have others := loops.unheld (.inr mine)
      have moved := (dialGoesOn_dialed went).connect_moved id call idle quiet loops.oneRecv began (by
        intro finished
        rcases dialGoesOn_finished went finished with opened | rfl
        · exact saw_opened began opened
        · exact saw_later (honest.discarding id call found phase) (dialGoesOn_dialed went).sockets)
      exact ⟨moved.loops others (fun _ => mine),moved.honest others began honest⟩
    · cases taken
  | wake =>
    simp only [Transport.connectStep] at taken
    split at taken
    · rename_i ready
      cases taken
      have mine := loops.held id call found (by rw [ready.1]; rfl)
      have others := loops.unheld (.inr mine)
      have saw := (honest.woken id call found ready.1 ready.2).imp_right And.left
      obtain ⟨phase,moved⟩ := afterEvent_moved id call loops.oneRun loops.oneRecv loops.awaited saw
      exact ⟨moved.loops others (fun _ => mine),moved.honest others began honest⟩
    · cases taken
  | joined =>
    simp only [Transport.connectStep] at taken
    split at taken
    · rename_i task phase
      split at taken
      · cases taken
      · cases taken
        have mine := loops.held id call found (by rw [phase]; rfl)
        have others := loops.unheld (.inr mine)
        have moved := connectJoins_moved id call task loops.oneRun loops.oneRecv loops.awaited
        exact ⟨moved.loops others (fun _ => mine),moved.honest others began honest⟩
    · cases taken

theorem connect_kept {s : Transport} {id : Nat} (loops : Loops s) (honest : Honest s) (fresh : ConnectCall)
    (queued : fresh.phase = .queued) (began : fresh.began ≤ s.sockets) :
    Loops {s with connects := s.connects.set id fresh} ∧ Honest {s with connects := s.connects.set id fresh} := by
  have stored : ∀ other call, (s.connects.set id fresh).get other = some call → call = fresh ∨ s.connects.get other = some call := by
    intro other call found
    rw [Dict.get_set] at found
    split at found
    · exact .inl (Option.some.inj found).symm
    · exact .inr found
  refine ⟨⟨?_,?_,loops.oneRun,loops.oneRecv,loops.awaited⟩,⟨?_,?_,?_,?_⟩⟩
  · intro other call found holds
    rcases stored other call found with rfl | found
    · rw [queued] at holds
      cases holds
    · exact loops.held other call found holds
  · intro other call place found phase
    rcases stored other call found with rfl | found
    · rw [queued] at phase
      cases phase
    · exact loops.alone other call place found phase
  · intro other call found
    rcases stored other call found with rfl | found
    · exact began
    · exact honest.began other call found
  · intro other call found phase
    rcases stored other call found with rfl | found
    · rw [queued] at phase
      cases phase
    · exact honest.returned other call found phase
  · intro other call found phase
    rcases stored other call found with rfl | found
    · rw [queued] at phase
      cases phase
    · exact honest.discarding other call found phase
  · intro other call found phase free
    rcases stored other call found with rfl | found
    · rw [queued] at phase
      cases phase
    · exact honest.woken other call found phase free

theorem Calm.aside {s next : Transport} (connects : next.connects = s.connects) (lock : next.lock = s.lock)
    (sockets : next.sockets = s.sockets) (connectError : next.connectError = s.connectError) (closed : next.closed = s.closed)
    (waiters : next.waiters = s.waiters) (runs : next.runs = s.runs) (recvs : next.recvs = s.recvs) : Calm s next := by
  refine ⟨connects,lock,sockets,connectError,fun ended => closed.trans ended,?_,fun r => by rw [runs],fun t alive => recvs ▸ alive⟩
  intro id member free
  exact absurd (waiters ▸ member) free

theorem Calm.refl (s : Transport) : Calm s s := .aside rfl rfl rfl rfl rfl rfl rfl rfl

theorem Calm.trans {s middle next : Transport} (first : Calm s middle) (second : Calm middle next) : Calm s next := by
  refine ⟨second.connects.trans first.connects,second.lock.trans first.lock,second.sockets.trans first.sockets,
    second.connectError.trans first.connectError,fun closed => second.closed (first.closed closed),?_,
    fun r => (second.runs r).trans (first.runs r),fun t alive => first.recvs t (second.recvs t alive)⟩
  intro id member free
  by_cases kept : id ∈ middle.waiters
  · have saw := second.waiters id kept free
    rw [first.connects] at saw
    obtain ⟨call,found,seen⟩ := (Option.any_eq_true _ _).mp saw
    rw [found]
    exact saw_later seen first.sockets.le
  · exact first.waiters id member kept

-- The steps of `close`.
theorem cancelRecv_calm (s : Transport) (task : Nat) : Calm s (s.cancelRecv task) := by
  unfold Transport.cancelRecv
  split
  · exact .refl s
  · rename_i loop found
    refine ⟨rfl,rfl,rfl,rfl,id,fun _ member free => absurd member free,fun _ => rfl,?_⟩
    intro t alive
    simp only [Dict.get_set] at alive
    split at alive
    · rename_i same
      simp [← same,found]
    · exact alive

theorem cancelRun_calm (s : Transport) (task : Nat) : Calm s (s.cancelRun task) := by
  unfold Transport.cancelRun
  split
  · exact .refl s
  · rename_i loop found
    split
    · exact .refl s
    · exact cancelRecv_calm s _
    · refine ⟨rfl,rfl,rfl,rfl,id,fun _ member free => absurd member free,?_,fun _ => id⟩
      intro r
      simp only [Dict.get_set]
      split
      · rename_i same
        simp [← same,found]
      · rfl

theorem closeSocket_calm (s : Transport) (id : Nat) : Calm s (s.closeSocket id) := by
  unfold Transport.closeSocket
  simp only
  split <;> exact .aside rfl rfl rfl rfl rfl rfl rfl rfl

theorem closeRecv_calm (s : Transport) (id : Nat) : Calm s (s.closeRecv id) := by
  have joined : Calm s {s with runTask := none} := .aside rfl rfl rfl rfl rfl rfl rfl rfl
  unfold Transport.closeRecv
  simp only
  split
  · exact joined.trans (closeSocket_calm _ id)
  · split
    · rename_i task _ _
      have cancelled := joined.trans (cancelRecv_calm {s with runTask := none} task)
      exact ⟨cancelled.connects,cancelled.lock,cancelled.sockets,cancelled.connectError,cancelled.closed,cancelled.waiters,
        cancelled.runs,cancelled.recvs⟩
    · exact joined.trans (closeSocket_calm _ id)

theorem closeGoes_calm (s : Transport) (id : Nat) (phase : ClosePhase) : Calm s (s.closeGoes id phase) :=
  .aside rfl rfl rfl rfl rfl rfl rfl rfl

theorem closeJoins_calm (s : Transport) (id task : Nat) : Calm s (s.closeJoins id task) := by
  unfold Transport.closeJoins
  split
  · exact closeGoes_calm s id .raised
  · exact closeRecv_calm s id

theorem closeRun_calm (s : Transport) (id : Nat) : Calm s (s.closeRun id) := by
  have joined : Calm s {s with ackTask := none} := .aside rfl rfl rfl rfl rfl rfl rfl rfl
  unfold Transport.closeRun
  simp only
  split
  · exact joined.trans (closeRecv_calm _ id)
  · split
    · exact (joined.trans (cancelRun_calm _ _)).trans (closeGoes_calm _ id _)
    · exact joined.trans (closeJoins_calm _ id _)

theorem startClose_calm {s : Transport} (id : Nat)
    (orderly : s.waiters.all (fun id => (s.connects.get id).any (ConnectCall.saw s)) = true) : Calm s (s.startClose id) := by
  have closing : Calm s (Transport.setEvent {s with closed := true}) :=
    ⟨rfl,rfl,rfl,rfl,fun _ => rfl,fun id member _ => List.all_eq_true.mp orderly id member,fun _ => rfl,fun _ alive => alive⟩
  unfold Transport.startClose
  simp only
  split
  · exact closing.trans (closeRun_calm _ id)
  · split
    · exact closing.trans (closeGoes_calm _ id _)
    · exact closing.trans (closeRun_calm _ id)

theorem closeGoesOn_calm {s next : Transport} {id : Nat} {phase : ClosePhase} (taken : s.closeGoesOn id phase = some next) :
    Calm s next := by
  unfold Transport.closeGoesOn at taken
  split at taken
  · split at taken
    · cases taken
    · cases taken
      exact closeRun_calm s id
  · split at taken
    · cases taken
    · cases taken
      exact closeJoins_calm s id _
  · split at taken
    · cases taken
    · cases taken
      exact closeSocket_calm s id
  · cases taken
    exact .aside rfl rfl rfl rfl rfl rfl rfl rfl
  · cases taken

-- The steps of a receive loop.
theorem recvEnds_calm (s : Transport) (task : Nat) : Calm s (s.recvEnds task) := by
  refine ⟨rfl,rfl,rfl,rfl,id,fun _ member free => absurd member free,fun _ => rfl,?_⟩
  intro t alive
  simp only [Transport.recvEnds,Dict.get_erase] at alive
  split at alive
  · cases alive
  · exact alive

theorem recvGoes_calm {s : Transport} {task : Nat} {loop : RecvLoop} (found : s.recvs.get task = some loop) (phase : RecvPhase) :
    Calm s (s.recvGoes task phase) := by
  refine ⟨rfl,rfl,rfl,rfl,id,fun _ member free => absurd member free,fun _ => rfl,?_⟩
  intro t alive
  simp only [Transport.recvGoes,Dict.get_set] at alive
  split at alive
  · rename_i same
    simp [← same,found]
  · exact alive

theorem withConnection_calm (s : Transport) (connection : Connection) : Calm s (s.withConnection connection) :=
  .aside rfl rfl rfl rfl rfl rfl rfl rfl

theorem recvTurn_calm {s : Transport} {task : Nat} {loop : RecvLoop} (found : s.recvs.get task = some loop) :
    Calm s (s.recvTurn task) := by
  unfold Transport.recvTurn
  split
  · exact recvGoes_calm found _
  · exact recvEnds_calm s task

theorem recvStep_calm {s next : Transport} {models : Models} {task : Nat} {loop : RecvLoop} {event : RecvEvent}
    (found : s.recvs.get task = some loop) (taken : s.recvStep models task loop event = some next) : Calm s next := by
  cases event with
  | interrupted =>
    simp only [Transport.recvStep] at taken
    split at taken
    · cases taken
      exact recvEnds_calm s task
    · cases taken
  | starts =>
    simp only [Transport.recvStep] at taken
    split at taken
    · cases taken
      exact recvTurn_calm found
    · cases taken
  | frame frame =>
    simp only [Transport.recvStep] at taken
    split at taken
    · cases taken
      have received := withConnection_calm s (Ws.receive models {s.client.connection with receiving := true} frame)
      have known : (s.withConnection (Ws.receive models {s.client.connection with receiving := true} frame)).recvs.get task = some loop :=
        found
      simp only [Transport.takeFrame]
      split
      · exact received.trans (recvGoes_calm known _)
      · exact received.trans (recvEnds_calm _ task)
    · cases taken
  | again =>
    simp only [Transport.recvStep] at taken
    split at taken
    · cases taken
      exact recvTurn_calm found
    · cases taken
  | raises fault =>
    simp only [Transport.recvStep] at taken
    split at taken
    · cases taken
      exact (withConnection_calm s _).trans (recvEnds_calm _ task)
    · cases taken

-- Every future that still waits is in the table of pending requests.
def Pended (c : Connection) : Prop := ∀ r, c.futures.get r = some .waiting → r ∈ c.pending

def Settled (c : Connection) : Prop := ∀ r future, c.futures.get r = some future → future.done = true

theorem settle_from {c : Connection} {id r : String} {outcome future : Future} (found : (c.settle id outcome).futures.get r = some future) :
    (c.futures.get r = some future ∧ (r = id → future.done = true)) ∨
      (c.futures.get r = some .waiting ∧ future = outcome) := by
  unfold Connection.settle at found
  split at found
  · rename_i waiting
    rw [Dict.get_set] at found
    split at found
    · rename_i same
      exact .inr ⟨same ▸ waiting,(Option.some.inj found).symm⟩
    · rename_i different
      exact .inl ⟨found,fun same => absurd same.symm different⟩
  · rename_i other
    refine .inl ⟨found,?_⟩
    rintro rfl
    cases future with
    | waiting => exact absurd found other
    | _ => rfl

theorem settled_known (ids : List String) (outcome : Future) {c : Connection} {r : String} {future : Future}
    (found : (ids.foldl (fun c id => c.settle id outcome) c).futures.get r = some future) : ∃ before, c.futures.get r = some before := by
  induction ids generalizing c with
  | nil => exact ⟨future,found⟩
  | cons id rest ih =>
    obtain ⟨middle,known⟩ := ih found
    rcases settle_from known with ⟨before,_⟩ | ⟨before,_⟩
    · exact ⟨middle,before⟩
    · exact ⟨.waiting,before⟩

theorem foldl_settled {c : Connection} (pended : Pended c) (outcome : Future) (finished : outcome.done = true) (r : String)
    (future : Future) (found : (c.pending.foldl (fun c id => c.settle id outcome) c).futures.get r = some future) : future.done = true := by
  obtain ⟨before,known⟩ := settled_known c.pending outcome found
  have settled := Ws.settle_all c.pending c outcome r before known finished
  rw [found,Option.some.injEq] at settled
  rw [settled]
  split
  · rename_i left
    rcases left with ended | absent
    · exact ended
    · cases before with
      | waiting => exact absurd (pended r known) absent
      | _ => rfl
  · exact finished

theorem fail_settled {c : Connection} (pended : Pended c) (fault : Fault) : Settled (c.fail fault) :=
  foldl_settled pended (.failed (.loop fault)) rfl

theorem abandon_settled {c : Connection} (pended : Pended c) : Settled (abandon c) :=
  foldl_settled pended (.failed (.timeout "Connection closed")) rfl

theorem Settled.pended {c : Connection} (settled : Settled c) : Pended c := by
  intro r waiting
  cases settled r _ waiting

theorem resolve_pended {c : Connection} (pended : Pended c) {id : String} {outcome : Future} (finished : outcome.done = true) :
    Pended (c.resolve id outcome) := by
  intro r waiting
  rcases settle_from waiting with ⟨before,ended⟩ | ⟨_,rfl⟩
  · have different : r ≠ id := by
      intro same
      cases ended same
    rw [Connection.resolve,Ws.settle_pending]
    exact (List.mem_erase_of_ne different).mpr (pended r before)
  · cases finished

theorem resolve_settled {c : Connection} (settled : Settled c) {id : String} {outcome : Future} (finished : outcome.done = true) :
    Settled (c.resolve id outcome) := by
  intro r future found
  rcases settle_from found with ⟨before,_⟩ | ⟨_,rfl⟩
  · exact settled r future before
  · exact finished

theorem receive_kept (models : Models) (c : Connection) (frame : Decoded) (pended : Pended c) :
    Pended (Ws.receive models c frame) ∧ (Settled c → Settled (Ws.receive models c frame)) := by
  cases fine : Ws.harmless models frame with
  | false =>
    obtain ⟨fault,failed⟩ := Ws.receive_fails models c frame fine
    rw [failed]
    exact ⟨(fail_settled pended fault).pended,fun _ => fail_settled pended fault⟩
  | true =>
    rcases Ws.receive_harmless models c frame fine with same | ⟨items,_,routed⟩
    · rw [same]
      exact ⟨pended,id⟩
    · generalize Ws.receive models c frame = next at routed
      cases routed with
      | aside _ futures pending _ _ =>
        unfold Pended Settled
        rw [futures,pending]
        exact ⟨pended,id⟩
      | resolved id outcome finished _ _ =>
        exact ⟨resolve_pended pended finished,fun settled => resolve_settled settled finished⟩

-- No request is left behind by a `close` that has emptied the table.
structure Resolved (s : Transport) : Prop where
  pended : Pended s.client.connection
  settled : s.shut = true ∨ (∃ id, s.closes.get id = some .socket) → Settled s.client.connection

theorem Resolved.same {s next : Transport} (resolved : Resolved s) (client : next.client = s.client) (closes : next.closes = s.closes)
    (shut : next.shut = true → s.shut = true) : Resolved next := by
  refine ⟨client ▸ resolved.pended,?_⟩
  rw [client,closes]
  exact fun ended => resolved.settled (ended.imp_left shut)

theorem Resolved.closes {s : Transport} (resolved : Resolved s) (id : Nat) {phase : ClosePhase} (busy : phase ≠ .socket) :
    Resolved (s.closeGoes id phase) := by
  refine ⟨resolved.pended,?_⟩
  rintro (shut | ⟨other,found⟩)
  · exact resolved.settled (.inl shut)
  · refine resolved.settled (.inr ⟨other,?_⟩)
    simp only [Transport.closeGoes,Dict.get_set] at found
    split at found
    · exact absurd (Option.some.inj found) busy
    · exact found

theorem closeSocket_resolved {s : Transport} (resolved : Resolved s) (id : Nat) : Resolved (s.closeSocket id) := by
  have settled := abandon_settled resolved.pended
  unfold Transport.closeSocket
  simp only
  split
  · exact ⟨settled.pended,fun _ => settled⟩
  · exact ⟨settled.pended,fun _ => settled⟩

theorem cancelRecv_resolved {s : Transport} (resolved : Resolved s) (task : Nat) : Resolved (s.cancelRecv task) := by
  unfold Transport.cancelRecv
  split
  · exact resolved
  · exact resolved.same rfl rfl id

theorem cancelRun_resolved {s : Transport} (resolved : Resolved s) (task : Nat) : Resolved (s.cancelRun task) := by
  unfold Transport.cancelRun
  split
  · exact resolved
  · split
    · exact resolved
    · exact cancelRecv_resolved resolved _
    · exact resolved.same rfl rfl id

theorem closeRecv_resolved {s : Transport} (resolved : Resolved s) (id : Nat) : Resolved (s.closeRecv id) := by
  have joined : Resolved {s with runTask := none} := resolved.same rfl rfl (fun shut => shut)
  unfold Transport.closeRecv
  simp only
  split
  · exact closeSocket_resolved joined id
  · split
    · exact (cancelRecv_resolved joined _).closes id (fun impossible => by cases impossible)
    · exact closeSocket_resolved joined id

theorem closeJoins_resolved {s : Transport} (resolved : Resolved s) (id task : Nat) : Resolved (s.closeJoins id task) := by
  unfold Transport.closeJoins
  split
  · exact resolved.closes id (fun impossible => by cases impossible)
  · exact closeRecv_resolved resolved id

theorem closeRun_resolved {s : Transport} (resolved : Resolved s) (id : Nat) : Resolved (s.closeRun id) := by
  have joined : Resolved {s with ackTask := none} := resolved.same rfl rfl (fun shut => shut)
  unfold Transport.closeRun
  simp only
  split
  · exact closeRecv_resolved joined id
  · split
    · exact (cancelRun_resolved joined _).closes id (fun impossible => by cases impossible)
    · exact closeJoins_resolved joined id _

theorem startClose_resolved {s : Transport} (resolved : Resolved s) (id : Nat) : Resolved (s.startClose id) := by
  have closing : Resolved (Transport.setEvent {s with closed := true}) := resolved.same rfl rfl (fun shut => shut)
  unfold Transport.startClose
  simp only
  split
  · exact closeRun_resolved closing id
  · split
    · exact closing.closes id (fun impossible => by cases impossible)
    · exact closeRun_resolved closing id

theorem closeGoesOn_resolved {s next : Transport} {id : Nat} {phase : ClosePhase} (resolved : Resolved s)
    (found : s.closes.get id = some phase) (taken : s.closeGoesOn id phase = some next) : Resolved next := by
  unfold Transport.closeGoesOn at taken
  split at taken
  · split at taken
    · cases taken
    · cases taken
      exact closeRun_resolved resolved id
  · split at taken
    · cases taken
    · cases taken
      exact closeJoins_resolved resolved id _
  · split at taken
    · cases taken
    · cases taken
      exact closeSocket_resolved resolved id
  · cases taken
    exact ⟨resolved.pended,fun _ => resolved.settled (.inr ⟨id,found⟩)⟩
  · cases taken

theorem Resolved.received {s : Transport} (resolved : Resolved s) {connection : Connection} (pended : Pended connection)
    (settled : Settled s.client.connection → Settled connection) : Resolved (s.withConnection connection) :=
  ⟨pended,fun ended => settled (resolved.settled ended)⟩

theorem recvStep_resolved {s next : Transport} {models : Models} {task : Nat} {loop : RecvLoop} {event : RecvEvent}
    (resolved : Resolved s) (taken : s.recvStep models task loop event = some next) : Resolved next := by
  have turn : Resolved (s.recvTurn task) := by
    unfold Transport.recvTurn
    split
    · exact resolved.same rfl rfl id
    · exact resolved.same rfl rfl id
  cases event with
  | interrupted =>
    simp only [Transport.recvStep] at taken
    split at taken
    · cases taken
      exact resolved.same rfl rfl id
    · cases taken
  | starts =>
    simp only [Transport.recvStep] at taken
    split at taken
    · cases taken
      exact turn
    · cases taken
  | frame frame =>
    simp only [Transport.recvStep] at taken
    split at taken
    · cases taken
      obtain ⟨pended,settled⟩ := receive_kept models {s.client.connection with receiving := true} frame resolved.pended
      have received := resolved.received pended settled
      simp only [Transport.takeFrame]
      split
      · exact received.same rfl rfl id
      · exact received.same rfl rfl id
    · cases taken
  | again =>
    simp only [Transport.recvStep] at taken
    split at taken
    · cases taken
      exact turn
    · cases taken
  | raises fault =>
    simp only [Transport.recvStep] at taken
    split at taken
    · cases taken
      have failed := fail_settled resolved.pended fault
      exact (resolved.received failed.pended (fun _ => failed)).same rfl rfl id
    · cases taken

theorem connectDial_resolved {s dialed : Transport} {outcome : Outcome} (resolved : Resolved s) (dial : Dialed s dialed outcome) (id : Nat)
    (call : ConnectCall) : Resolved (dialed.connectDial id call outcome) := by
  have kept : Resolved dialed := resolved.same dial.client dial.closes (fun shut => dial.shut ▸ shut)
  cases outcome <;> exact kept.same rfl rfl (fun shut => shut)

theorem connectJoins_resolved {s : Transport} (resolved : Resolved s) (id : Nat) (call : ConnectCall) (task : Nat) :
    Resolved (s.connectJoins id call task) := by
  unfold Transport.connectJoins
  split <;> exact resolved.same rfl rfl (fun shut => shut)

theorem afterEvent_resolved {s : Transport} (resolved : Resolved s) (id : Nat) (call : ConnectCall) : Resolved (s.afterEvent id call) := by
  have clean : Resolved {s with connectError := false} := resolved.same rfl rfl (fun shut => shut)
  unfold Transport.afterEvent
  split
  · split
    · exact clean.same rfl rfl (fun shut => shut)
    · split
      · exact clean.same rfl rfl (fun shut => shut)
      · exact connectJoins_resolved clean id call _
  · exact resolved.same rfl rfl (fun shut => shut)

theorem enter_resolved {s : Transport} (resolved : Resolved s) (settings : Settings) (id : Nat) (call : ConnectCall) :
    Resolved (s.enter settings id call) := by
  unfold Transport.enter
  split
  · exact resolved.same rfl rfl (fun shut => shut)
  · split
    · unfold Transport.waitEvent
      split
      · refine afterEvent_resolved ?_ id call
        exact resolved.same rfl rfl (fun shut => by cases shut)
      · exact resolved.same rfl rfl (fun shut => by cases shut)
    · have start : Resolved {s with closed := false,shut := false,lock := some id} := resolved.same rfl rfl (fun shut => by cases shut)
      exact connectDial_resolved start (doConnect_dialed _) id call

theorem connectStep_resolved {s next : Transport} {settings : Settings} {id : Nat} {call : ConnectCall} {event : ConnectEvent}
    (resolved : Resolved s) (taken : s.connectStep settings id call event = some next) : Resolved next := by
  cases event with
  | enter =>
    simp only [Transport.connectStep] at taken
    split at taken
    · cases taken
      exact enter_resolved resolved settings id call
    · cases taken
  | dial event =>
    simp only [Transport.connectStep] at taken
    split at taken
    · obtain ⟨dialed,went,rfl⟩ := Option.map_eq_some_iff.mp taken
      exact connectDial_resolved resolved (dialGoesOn_dialed went) id call
    · cases taken
  | wake =>
    simp only [Transport.connectStep] at taken
    split at taken
    · cases taken
      exact afterEvent_resolved resolved id call
    · cases taken
  | joined =>
    simp only [Transport.connectStep] at taken
    split at taken
    · split at taken
      · cases taken
      · cases taken
        exact connectJoins_resolved resolved id call _
    · cases taken

-- What a sender does to the tables: it registers a future, or drops one that is done.
theorem afterSend_connection (client : Client) (id : Nat) (envelope : Ws.Envelope) (r : String) (receives : Bool) (now : Int) :
    ∃ acks, (client.afterSend id envelope r receives now).connection =
      if receives then Connection.await {client.connection with pendingAcks := acks} r envelope.id
      else {client.connection with pendingAcks := acks} := by
  unfold Client.afterSend Client.registerPendingAck
  simp only
  split <;> split <;> exact ⟨_,rfl⟩

theorem await_pended {c : Connection} (pended : Pended c) (r envelopeId : String) : Pended (c.await r envelopeId) := by
  have member : ∀ id, id = r ∨ id ∈ c.pending → id ∈ (c.await r envelopeId).pending := by
    intro id known
    unfold Connection.await
    simp only
    split
    · rename_i present
      exact known.elim (fun same => same ▸ present) (fun kept => kept)
    · exact List.mem_append.mpr (known.symm.imp_right (fun same => List.mem_singleton.mpr same))
  intro id waiting
  simp only [Connection.await,Dict.get_set] at waiting
  split at waiting
  · rename_i same
    exact member id (.inl same.symm)
  · exact member id (.inr (pended id waiting))

theorem sender_resolved {s next : Transport} {models : Models} {settings : Settings} {event : Ws.Event} (resolved : Resolved s)
    (orderly : s.orderly settings (.sender event) = true) (taken : s.sender models event = some next) : Resolved next := by
  unfold Transport.sender at taken
  split at taken
  · rename_i sends
    obtain ⟨client,went,rfl⟩ := Option.map_eq_some_iff.mp taken
    have stepped := Ws.next_stepped models ⟨0,0,false⟩ went
    cases stepped with
    | call id envelope receives free => exact ⟨resolved.pended,resolved.settled⟩
    | sent id now envelope r receives found =>
      obtain ⟨acks,connection⟩ := afterSend_connection s.client id envelope r receives now
      cases receives with
      | false =>
        refine ⟨?_,?_⟩
        · change Pended (s.client.afterSend id envelope r false now).connection
          rw [connection]
          exact resolved.pended
        · change _ → Settled (s.client.afterSend id envelope r false now).connection
          rw [connection]
          exact resolved.settled
      | true =>
        simp only [Transport.orderly,found,Bool.and_eq_true,Bool.not_eq_true'] at orderly
        refine ⟨?_,?_⟩
        · change Pended (s.client.afterSend id envelope r true now).connection
          rw [connection]
          exact await_pended (c := {s.client.connection with pendingAcks := acks}) resolved.pended r envelope.id
        · rintro (shut | ⟨other,closing⟩)
          · exact absurd (orderly.1.symm.trans shut) (by decide)
          · have listed : ClosePhase.socket ∈ s.closes.values := List.mem_map.mpr ⟨(other,.socket),(Dict.mem_iff _).mpr closing,rfl⟩
            rw [List.contains_iff_mem.mpr listed] at orderly
            cases orderly.2
    | sendRaises id envelope r receives found => exact ⟨resolved.pended,resolved.settled⟩
    | timesOut id envelope r found waiting =>
      refine ⟨?_,?_⟩
      · intro r' stored
        simp only [Dict.get_set] at stored
        split at stored
        · cases stored
        · exact resolved.pended r' stored
      · intro ended r' future stored
        simp only [Dict.get_set] at stored
        split at stored
        · cases stored
          rfl
        · exact resolved.settled ended r' future stored
    | resumes id envelope r found =>
      have ended : (s.client.connection.futures.get r).any Future.done = true := by
        simp only [Client.next,Client.resume,found] at went
        split at went
        · assumption
        · cases went
      refine ⟨?_,resolved.settled⟩
      intro r' waiting
      have different : r' ≠ r := by
        rintro rfl
        have stored : s.client.connection.futures.get r' = some .waiting := waiting
        rw [stored] at ended
        cases ended
      exact (List.mem_erase_of_ne different).mpr (resolved.pended r' waiting)
    | counted _ now tracker queue remove which turn => rcases which with rfl | rfl <;> cases sends
    | _ => cases sends
  · cases taken

-- One step of an orderly run.
structure Sound (s : Transport) : Prop where
  loops : Loops s
  honest : Honest s
  resolved : Resolved s

theorem Calm.sound {s next : Transport} (calm : Calm s next) (sound : Sound s) (resolved : Resolved next) : Sound next :=
  ⟨calm.loops sound.loops,calm.honest sound.honest,resolved⟩

theorem next_sound {s next : Transport} {models : Models} {settings : Settings} {event : Event} (sound : Sound s)
    (orderly : s.orderly settings event = true) (taken : s.next models settings event = some next) : Sound next := by
  obtain ⟨loops,honest,resolved⟩ := sound
  cases event with
  | connect id =>
    simp only [Transport.next] at taken
    split at taken
    · cases taken
      obtain ⟨loops',honest'⟩ := connect_kept loops honest ⟨.queued,s.sockets,s.isOpen⟩ rfl (le_refl _)
      exact ⟨loops',honest',resolved.same rfl rfl (fun shut => shut)⟩
    · cases taken
  | connecting id event =>
    obtain ⟨call,found,stepped⟩ := Option.bind_eq_some_iff.mp taken
    obtain ⟨loops',honest'⟩ := connectStep_kept loops honest found orderly stepped
    exact ⟨loops',honest',connectStep_resolved resolved stepped⟩
  | close id =>
    simp only [Transport.next] at taken
    split at taken
    · cases taken
      exact (startClose_calm id orderly).sound ⟨loops,honest,resolved⟩ (startClose_resolved resolved id)
    · cases taken
  | closing id =>
    obtain ⟨phase,found,stepped⟩ := Option.bind_eq_some_iff.mp taken
    exact (closeGoesOn_calm stepped).sound ⟨loops,honest,resolved⟩ (closeGoesOn_resolved resolved found stepped)
  | closeRaises id =>
    simp only [Transport.next] at taken
    split at taken
    · cases taken
      exact (closeGoes_calm s id .raised).sound ⟨loops,honest,resolved⟩ (resolved.closes id (fun impossible => by cases impossible))
    · cases taken
  | run task event =>
    obtain ⟨loop,found,stepped⟩ := Option.bind_eq_some_iff.mp taken
    have moved := runStep_moved loops found stepped
    exact ⟨moved.loops loops found,moved.honest loops found honest,
      resolved.same moved.client moved.closes (fun shut => moved.shut ▸ shut)⟩
  | recv task event =>
    obtain ⟨loop,found,stepped⟩ := Option.bind_eq_some_iff.mp taken
    exact (recvStep_calm found stepped).sound ⟨loops,honest,resolved⟩ (recvStep_resolved resolved stepped)
  | ackEnds task =>
    simp only [Transport.next] at taken
    split at taken
    · cases taken
      have calm : Calm s {s with acks := s.acks.erase task} :=
        .aside rfl rfl rfl rfl rfl rfl rfl rfl
      exact calm.sound ⟨loops,honest,resolved⟩ (resolved.same rfl rfl (fun shut => shut))
    · cases taken
  | disconnect socket =>
    simp only [Transport.next] at taken
    split at taken
    · cases taken
      have calm : Calm s {s with live := s.live.erase socket} :=
        .aside rfl rfl rfl rfl rfl rfl rfl rfl
      exact calm.sound ⟨loops,honest,resolved⟩ (resolved.same rfl rfl (fun shut => shut))
    · cases taken
  | sender event =>
    have resolved' := sender_resolved resolved orderly taken
    simp only [Transport.next,Transport.sender] at taken
    split at taken
    · obtain ⟨client,_,rfl⟩ := Option.map_eq_some_iff.mp taken
      have calm : Calm s {s with client := client} :=
        .aside rfl rfl rfl rfl rfl rfl rfl rfl
      exact calm.sound ⟨loops,honest,resolved⟩ resolved'
    · cases taken

theorem run_sound {start final : Transport} {models : Models} {settings : Settings} {events : List Event}
    (run : Runs (Transport.next models settings) (fun s event => s.orderly settings event = true) start events final)
    (sound : Sound start) : Sound final := by
  refine run.invariant Sound ?_ sound
  intro s event next orderly taken before
  exact next_sound before orderly taken

theorem sound_init (onMessage : Bool) : Sound {client := {connection := {onMessage := onMessage}}} := by
  have none : ∀ (key : Nat) (call : ConnectCall), (Dict.empty : Dict Nat ConnectCall).get key ≠ some call := by simp
  refine ⟨⟨?_,?_,?_,?_,?_⟩,⟨?_,?_,?_,?_⟩,⟨?_,?_⟩⟩
  · exact fun id call found => absurd found (none id call)
  · exact fun id call _ found => absurd found (none id call)
  · exact fun _ _ alive => by simp at alive
  · exact fun _ _ alive => by simp at alive
  · exact fun _ _ found => by simp at found
  · exact fun id call found => absurd found (none id call)
  · exact fun id call found => absurd found (none id call)
  · exact fun id call found => absurd found (none id call)
  · exact fun id call found => absurd found (none id call)
  · exact fun _ waiting => by simp at waiting
  · exact fun _ _ _ found => by simp at found

theorem AtMostOne.size {tasks : Dict Nat α} (one : AtMostOne tasks) : tasks.size ≤ 1 := by
  have same : ∀ a ∈ tasks.keys, ∀ b ∈ tasks.keys, a = b := by
    intro a first b second
    have alive : ∀ key ∈ tasks.keys, (tasks.get key).isSome = true := by
      intro key member
      by_contra absent
      exact (Dict.get_none_iff _).mp (Option.not_isSome_iff_eq_none.mp absent) member
    exact one a b (alive a first) (alive b second)
  have distinct : tasks.keys.Nodup := tasks.distinct
  rw [Dict.size,← List.length_map (f := Prod.fst)]
  change tasks.keys.length ≤ 1
  match shape : tasks.keys with
  | [] => simp
  | [_] => simp
  | a :: b :: rest =>
    rw [shape] at same distinct
    have equal := same a (by simp) b (by simp)
    simp [equal] at distinct

-- The lifecycle as it should be: a `connect` that returned had an open socket since it began, at
-- most one loop of each kind is alive, and a `close` that returned left no future unresolved.
structure Kept (s : Transport) : Prop where
  connected : ∀ id call, s.connects.get id = some call → call.phase = .returned → call.saw s = true
  oneRun : s.runs.size ≤ 1
  oneRecv : s.recvs.size ≤ 1
  resolved : s.shut = true → ∀ r future, s.client.connection.futures.get r = some future → future.done = true

theorem orderly_lifecycle_kept (models : Models) (settings : Settings) (onMessage : Bool) (events : List Event) (s : Transport)
    (run : Runs (Transport.next models settings) (fun s event => s.orderly settings event = true)
      {client := {connection := {onMessage := onMessage}}} events s) : Kept s := by
  have sound := run_sound run (sound_init onMessage)
  refine ⟨sound.honest.returned,sound.loops.oneRun.size,sound.loops.oneRecv.size,?_⟩
  intro shut
  exact sound.resolved.settled (.inl shut)

-- A connection that is lost and opened again, with a request in flight at its close.
def reconnecting : Settings := ⟨true,none⟩

def lostAndClosed : List Event :=
  [.connect 0,.connecting 0 .enter,.connect 1,.run 0 .turn,.run 0 (.dial .accepted),.recv 1 .starts,.connecting 0 .wake,
    .connecting 1 .enter,.disconnect 0,.recv 1 (.raises .connectionClosed),.run 0 .received,.run 0 .closed,.run 0 .turn,.ackEnds 2,
    .run 0 (.dial .ackEnded),.run 0 (.dial .refused),.run 0 .turn,.run 0 (.dial .accepted),.recv 3 .starts,
    .sender (.call 0 Ws.taskRequest true),.sender (.sent 0 0),.close 0,.ackEnds 4,.closing 0,.recv 3 .interrupted,.run 0 .received,
    .closing 0,.closing 0]

theorem lost_and_closed : (execute (Transport.next Ws.sampleModels reconnecting) (Transport.orderly reconnecting) {} lostAndClosed).map
    (fun s => ((s.connects.get 1).map ConnectCall.phase,s.closes.get 0,s.shut,s.client.connection.futures.size)) =
      some (some .returned,some .returned,true,1) := by decide +kernel

theorem orderly_lifecycle_kept_lost : ∃ s, Runs (Transport.next Ws.sampleModels reconnecting)
    (fun s event => s.orderly reconnecting event = true) {} lostAndClosed s ∧ s.closes.get 0 = some .returned ∧ Kept s := by
  obtain ⟨s,ran,state⟩ := Option.map_eq_some_iff.mp lost_and_closed
  have run := execute_runs (Transport.orderly reconnecting) ran
  exact ⟨s,run,(Prod.mk.inj (Prod.mk.inj state).2).1,orderly_lifecycle_kept Ws.sampleModels reconnecting false lostAndClosed s run⟩

-- After a `close` the event is still set: the next `connect` returns before its loop has begun, and
-- one more starts a second loop.
def connectAfterClose : List Event :=
  [.connect 0,.connecting 0 .enter,.run 0 .turn,.run 0 (.dial .accepted),.recv 1 .starts,.connecting 0 .wake,.close 0,.ackEnds 2,
    .closing 0,.recv 1 .interrupted,.run 0 .received,.closing 0,.closing 0,.connect 1,.connecting 1 .enter,.connect 2,.connecting 2 .enter]

theorem connect_after_close : (execute (Transport.next Ws.sampleModels reconnecting) anyMove {} connectAfterClose).map (fun s =>
    ((s.connects.get 1).map (fun call => (call.phase,call.saw s)),s.runs.size)) = some (some (.returned,false),2) := by decide +kernel

theorem lifecycle_broken_after_close : ∃ s, Runs (Transport.next Ws.sampleModels reconnecting) (fun _ _ => True) {} connectAfterClose s ∧
    (∃ call, s.connects.get 1 = some call ∧ call.phase = .returned ∧ call.saw s = false) ∧ s.runs.size = 2 ∧ ¬Kept s := by
  obtain ⟨s,ran,state⟩ := Option.map_eq_some_iff.mp connect_after_close
  obtain ⟨seen,two⟩ := Prod.mk.inj state
  obtain ⟨call,found,shown⟩ := Option.map_eq_some_iff.mp seen
  obtain ⟨phase,unseen⟩ := Prod.mk.inj shown
  refine ⟨s,execute_free ran,⟨call,found,phase,unseen⟩,two,?_⟩
  intro kept
  have one := kept.oneRun
  omega

end Asap.WsLifecycle
