import Asap.WsClient

-- Which responses and acks reach the requests they are for.
namespace Asap.Ws
open OrderedDict PythonValue Interleaving

theorem requestId_injective : Function.Injective requestId := by
  intro m n same
  have digits : Nat.toDigits 10 m = Nat.toDigits 10 n := by
    have chars := congrArg String.toList same
    simpa [requestId,Nat.toString_eq_repr] using chars
  have read := congrArg (fun digits => Nat.ofDigitChars 10 digits 0) digits
  simpa using read

def Call.requestId : Call → Option String
  | .sending _ r _ | .waiting _ r => some r
  | .returned => none

-- No two calls have the same request id.
structure Numbered (counter : Nat) (calls : Dict Nat Call) : Prop where
  issued : ∀ id call r, calls.get id = some call → call.requestId = some r → ∃ n ≤ counter, r = requestId n
  distinct : ∀ id id' call call' r, calls.get id = some call → calls.get id' = some call' →
    call.requestId = some r → call'.requestId = some r → id = id'

-- A call that awaits its answer is in both tables until its future is done.
def Awaited (c : Connection) (envelope : Envelope) (r : String) : Prop :=
  ∃ future, c.futures.get r = some future ∧ (future.done = false → r ∈ c.pending ∧ c.pendingRequestIds.get r = some envelope.id)

structure Tracked (s : Client) : Prop where
  keys : Corresponds s.connection
  numbered : Numbered s.requestCounter s.calls
  waiting : ∀ id envelope r, s.calls.get id = some (.waiting envelope r) → Awaited s.connection envelope r

theorem Numbered.call {counter : Nat} {calls : Dict Nat Call} (numbered : Numbered counter calls) (id : Nat) (envelope : Envelope)
    (receives : Bool) : Numbered (counter + 1) (calls.set id (.sending envelope (requestId (counter + 1)) receives)) := by
  have unused : ∀ id call, calls.get id = some call → call.requestId ≠ some (requestId (counter + 1)) := by
    intro id call found same
    obtain ⟨n,bound,equal⟩ := numbered.issued id call _ found same
    have number := requestId_injective equal
    omega
  refine ⟨?_,?_⟩
  · intro other call r found named
    rw [Dict.get_set] at found
    split at found
    · cases found
      cases named
      exact ⟨counter + 1,Nat.le_refl _,rfl⟩
    · obtain ⟨n,bound,equal⟩ := numbered.issued other call r found named
      exact ⟨n,by omega,equal⟩
  · intro left right call call' r found found' named named'
    rw [Dict.get_set] at found found'
    split at found
    · rename_i here
      split at found'
      · rename_i there
        exact here.symm.trans there
      · cases found
        cases named
        exact absurd named' (unused right call' found')
    · split at found'
      · cases found'
        cases named'
        exact absurd named (unused left call found)
      · exact numbered.distinct left right call call' r found found' named named'

theorem Numbered.later {counter : Nat} {calls : Dict Nat Call} (numbered : Numbered counter calls) : Numbered (counter + 1) calls := by
  refine ⟨?_,numbered.distinct⟩
  intro id call r found named
  obtain ⟨n,bound,equal⟩ := numbered.issued id call r found named
  exact ⟨n,by omega,equal⟩

-- A call that goes on keeps its request id or gives it up.
theorem Numbered.update {counter : Nat} {calls : Dict Nat Call} (numbered : Numbered counter calls) {id : Nat} {old new : Call}
    (found : calls.get id = some old) (keeps : ∀ r, new.requestId = some r → old.requestId = some r) :
    Numbered counter (calls.set id new) := by
  have before : ∀ other call, (calls.set id new).get other = some call → ∃ earlier, calls.get other = some earlier ∧
      ∀ r, call.requestId = some r → earlier.requestId = some r := by
    intro other call stored
    rw [Dict.get_set] at stored
    split at stored
    · rename_i same
      cases stored
      exact ⟨old,same ▸ found,keeps⟩
    · exact ⟨call,stored,fun _ named => named⟩
  refine ⟨?_,?_⟩
  · intro other call r stored named
    obtain ⟨earlier,known,same⟩ := before other call stored
    exact numbered.issued other earlier r known (same r named)
  · intro left right call call' r stored stored' named named'
    obtain ⟨earlier,known,same⟩ := before left call stored
    obtain ⟨earlier',known',same'⟩ := before right call' stored'
    exact numbered.distinct left right earlier earlier' r known known' (same r named) (same' r named')

theorem Awaited.forget {c : Connection} {envelope : Envelope} {r other : String} (awaited : Awaited c envelope r)
    (different : other ≠ r) : Awaited (c.forget other) envelope r := by
  obtain ⟨future,found,tables⟩ := awaited
  refine ⟨future,found,?_⟩
  intro unfinished
  obtain ⟨member,named⟩ := tables unfinished
  refine ⟨(List.mem_erase_of_ne (Ne.symm different)).mpr member,?_⟩
  simpa [Connection.forget,Dict.get_erase,different] using named

theorem Awaited.await {c : Connection} {envelope : Envelope} {r other : String} (awaited : Awaited c envelope r)
    (different : other ≠ r) (envelopeId : String) : Awaited (c.await other envelopeId) envelope r := by
  obtain ⟨future,found,tables⟩ := awaited
  refine ⟨future,(Dict.get_set_other _ _ different).trans found,?_⟩
  intro unfinished
  obtain ⟨member,named⟩ := tables unfinished
  refine ⟨?_,(Dict.get_set_other _ _ different).trans named⟩
  unfold Connection.await
  split
  · exact member
  · exact List.mem_append_left _ member

theorem Awaited.fail {c : Connection} {envelope : Envelope} {r : String} (awaited : Awaited c envelope r) (fault : Fault) :
    Awaited (c.fail fault) envelope r := by
  obtain ⟨future,found,tables⟩ := awaited
  refine ⟨_,fail_future c fault found,?_⟩
  cases ended : future.done with
  | true => simp [ended]
  | false => simp [(tables ended).1,Future.done]

theorem Awaited.routed {c next : Connection} {items : List (Key × Value)} {envelope : Envelope} {r : String}
    (awaited : Awaited c envelope r) (routed : Routed c items next) : Awaited next envelope r := by
  cases routed with
  | aside _ futures pending ids _ =>
    unfold Awaited
    rw [futures,pending,ids]
    exact awaited
  | resolved id outcome finished _ _ =>
    by_cases same : id = r
    · subst same
      obtain ⟨future,found,_⟩ := awaited
      refine ⟨_,resolve_future c id outcome found,?_⟩
      cases ended : future.done <;> simp [ended,finished]
    · obtain ⟨future,found,tables⟩ := awaited.forget same
      refine ⟨future,(settle_other (c.forget id) outcome same).trans found,?_⟩
      rw [Connection.resolve,settle_pending,settle_ids]
      exact tables

theorem Awaited.receive {c : Connection} {envelope : Envelope} {r : String} (models : Models) (awaited : Awaited c envelope r)
    (frame : Decoded) : Awaited (receive models c frame) envelope r := by
  cases fine : harmless models frame with
  | true =>
    rcases receive_harmless models c frame fine with same | ⟨items,_,routed⟩
    · rw [same]
      exact awaited
    · exact awaited.routed routed
  | false =>
    obtain ⟨fault,failed⟩ := receive_fails models c frame fine
    rw [failed]
    exact awaited.fail fault

theorem await_corresponds {c : Connection} (keys : Corresponds c) (id envelopeId : String) : Corresponds (c.await id envelopeId) := by
  unfold Connection.await
  refine ⟨?_,?_⟩
  · split
    · exact keys.1
    · rename_i absent
      exact List.Nodup.append keys.1 (List.nodup_singleton id) (by simpa using absent)
  · intro other
    simp only [Dict.get_set]
    by_cases same : id = other
    · subst same
      split <;> simp_all
    · split <;> simp [Ne.symm same,keys.2 other]

-- Other waiting calls have other request ids.
theorem Numbered.apart {counter : Nat} {calls : Dict Nat Call} (numbered : Numbered counter calls) {id other : Nat} {call : Call}
    {envelope : Envelope} {r r' : String} (found : calls.get id = some call) (named : call.requestId = some r)
    (waiting : calls.get other = some (.waiting envelope r')) (different : id ≠ other) : r ≠ r' := by
  rintro rfl
  exact different (numbered.distinct id other call _ r found waiting named rfl)

@[simp] theorem registerPendingAck_counter (s : Client) (envelope : Envelope) (now : Int) :
    (s.registerPendingAck envelope now).requestCounter = s.requestCounter := by
  unfold Client.registerPendingAck
  split <;> rfl

theorem registerPendingAck_connection (s : Client) (envelope : Envelope) (now : Int) :
    ∃ acks, (s.registerPendingAck envelope now).connection = {s.connection with pendingAcks := acks} := by
  unfold Client.registerPendingAck
  split
  · exact ⟨_,rfl⟩
  · exact ⟨s.connection.pendingAcks,rfl⟩

variable {models : Models} {settings : Settings}

theorem afterSend_tracked {s : Client} (tracked : Tracked s) {id : Nat} {envelope : Envelope} {r : String} {receives : Bool} (now : Int)
    (found : s.calls.get id = some (.sending envelope r receives)) : Tracked (s.afterSend id envelope r receives now) := by
  obtain ⟨acks,connection⟩ := registerPendingAck_connection s envelope now
  unfold Client.afterSend
  simp only
  split
  · refine ⟨?_,?_,?_⟩
    · rw [connection]
      exact await_corresponds (c := {s.connection with pendingAcks := acks}) tracked.keys r envelope.id
    · rw [registerPendingAck_counter]
      exact tracked.numbered.update found (fun _ named => named)
    · intro other sent r' stored
      simp only [Dict.get_set] at stored
      rw [connection]
      split at stored
      · cases stored
        refine ⟨.waiting,by simp [Connection.await],?_⟩
        intro _
        refine ⟨?_,by simp [Connection.await]⟩
        unfold Connection.await
        split
        · assumption
        · simp
      · rename_i different
        have apart := tracked.numbered.apart found rfl stored different
        exact Awaited.await (c := {s.connection with pendingAcks := acks}) (tracked.waiting other sent r' stored) apart envelope.id
  · refine ⟨?_,?_,?_⟩
    · rw [connection]
      exact tracked.keys
    · rw [registerPendingAck_counter]
      exact tracked.numbered.update found (fun _ named => by cases named)
    · intro other sent r' stored
      simp only [Dict.get_set] at stored
      rw [connection]
      split at stored
      · cases stored
      · exact tracked.waiting other sent r' stored

theorem stepped_tracked {s next : Client} {event : Event} (stepped : Stepped models settings s event next) (tracked : Tracked s) :
    Tracked next := by
  cases stepped with
  | call id envelope receives free =>
    refine ⟨tracked.keys,tracked.numbered.call id envelope receives,?_⟩
    intro other sent r stored
    simp only [Dict.get_set] at stored
    split at stored
    · cases stored
    · exact tracked.waiting other sent r stored
  | sent id now envelope r receives found => exact afterSend_tracked tracked now found
  | sendRaises id envelope r receives found =>
    refine ⟨tracked.keys,tracked.numbered.update found (fun _ named => by cases named),?_⟩
    intro other sent r' stored
    simp only [Dict.get_set] at stored
    split at stored
    · cases stored
    · exact tracked.waiting other sent r' stored
  | timesOut id envelope r found waiting =>
    refine ⟨tracked.keys,tracked.numbered,?_⟩
    intro other sent r' stored
    obtain ⟨future,known,tables⟩ := tracked.waiting other sent r' stored
    by_cases same : r = r'
    · subst same
      exact ⟨.cancelled,Dict.get_set_self _ _ _,fun unfinished => by cases unfinished⟩
    · exact ⟨future,(Dict.get_set_other _ _ same).trans known,tables⟩
  | resumes id envelope r found =>
    refine ⟨forget_corresponds tracked.keys r,tracked.numbered.update found (fun _ named => by cases named),?_⟩
    intro other sent r' stored
    simp only [Dict.get_set] at stored
    split at stored
    · cases stored
    · rename_i different
      exact (tracked.waiting other sent r' stored).forget (tracked.numbered.apart found rfl stored different)
  | frame frame running =>
    refine ⟨receive_corresponds models _ frame tracked.keys,tracked.numbered,?_⟩
    intro other sent r stored
    exact (tracked.waiting other sent r stored).receive models frame
  | closed =>
    refine ⟨fail_corresponds _ _,tracked.numbered,?_⟩
    intro other sent r stored
    exact (tracked.waiting other sent r stored).fail _
  | scan now asleep queue remove queued removed => exact ⟨tracked.keys,tracked.numbered,tracked.waiting⟩
  | resend eid tracker queue remove pending turn object => exact ⟨tracked.keys,tracked.numbered.later,tracked.waiting⟩
  | counted _ now tracker queue remove which turn => exact ⟨tracked.keys,tracked.numbered,tracked.waiting⟩
  | resendRaises tracker queue remove turn => exact ⟨tracked.keys,tracked.numbered,tracked.waiting⟩
  | expire remove turn => exact ⟨tracked.keys,tracked.numbered,tracked.waiting⟩

theorem run_tracked {start final : Client} {allowed : Client → Event → Prop} {events : List Event}
    (run : Runs (Client.next models settings) allowed start events final) (tracked : Tracked start) : Tracked final := by
  refine run.invariant Tracked ?_ tracked
  intro s event next _ taken before
  exact stepped_tracked (next_stepped models settings taken) before

theorem tracked_init (onMessage : Bool) : Tracked {connection := {onMessage := onMessage}} := by
  refine ⟨⟨List.nodup_nil,by simp⟩,⟨by simp,by simp⟩,by simp⟩

-- A request whose frame is written and which has not timed out.
def Outstanding (s : Client) (envelope : Envelope) (r : String) : Prop :=
  ∃ id, s.calls.get id = some (.sending envelope r true) ∨
    (s.calls.get id = some (.waiting envelope r) ∧ s.connection.futures.get r ≠ some .cancelled)

-- An answer to it is what its future ends with, unless an earlier answer came.
def Delivered (models : Models) (s : Client) (frame : Decoded) (next : Client) : Prop :=
  ∀ envelope r items, Outstanding s envelope r → Answers models frame r items →
    ∃ future, next.connection.futures.get r = some future ∧ future.done = true ∧
      (s.connection.futures.get r = some .waiting → future = answerOf models envelope.id items)

-- No answer and no ack comes for an envelope while its `ws.send` has not returned.
def Prompt (models : Models) (s : Client) : Event → Prop
  | .frame frame => ∀ id envelope r receives, s.calls.get id = some (.sending envelope r receives) →
    (receives = true → ∀ items, ¬ Answers models frame r items) ∧ (registers envelope = true → ackedBy models frame ≠ some envelope.id)
  | _ => True

theorem receive_done {c : Connection} {r : String} {future : Future} (frame : Decoded) (found : c.futures.get r = some future)
    (ended : future.done = true) : (receive models c frame).futures.get r = some future := by
  cases fine : harmless models frame with
  | true =>
    rcases receive_harmless models c frame fine with same | ⟨items,_,routed⟩
    · rw [same]
      exact found
    · generalize receive models c frame = next at routed ⊢
      cases routed with
      | aside _ futures _ _ _ =>
        rw [futures]
        exact found
      | resolved id outcome _ _ _ =>
        rw [resolve_future c id outcome found]
        simp [ended]
  | false =>
    obtain ⟨fault,failed⟩ := receive_fails models c frame fine
    rw [failed,fail_future c fault found]
    simp [ended]

theorem awaited_answered {c : Connection} {envelope : Envelope} {r : String} {frame : Decoded} {items : List (Key × Value)}
    (awaited : Awaited c envelope r) (answers : Answers models frame r items) :
    ∃ future, (receive models c frame).futures.get r = some future ∧ future.done = true ∧
      (c.futures.get r = some .waiting → future = answerOf models envelope.id items) := by
  obtain ⟨future,found,tables⟩ := awaited
  cases ended : future.done with
  | false =>
    obtain ⟨member,named⟩ := tables ended
    have received := receive_answers models answers member
    rw [named] at received
    refine ⟨answerOf models envelope.id items,?_,answerOf_done models envelope.id items,fun _ => rfl⟩
    rw [received,resolve_future c r _ found]
    simp [ended]
  | true =>
    refine ⟨future,receive_done frame found ended,ended,?_⟩
    intro waiting
    rw [found] at waiting
    cases waiting
    cases ended

theorem prompt_delivers {s next : Client} {frame : Decoded} (tracked : Tracked s) (prompt : Prompt models s (.frame frame))
    (taken : s.next models settings (.frame frame) = some next) : Delivered models s frame next := by
  intro envelope r items outstanding answers
  have connection : next.connection = receive models s.connection frame := by
    cases next_stepped models settings taken with
    | frame _ _ => rfl
    | counted _ _ _ _ _ which _ => rcases which with same | same <;> cases same
  rw [connection]
  obtain ⟨id,sending | ⟨waiting,_⟩⟩ := outstanding
  · exact absurd answers ((prompt id envelope r true sending).1 rfl items)
  · exact awaited_answered (tracked.waiting id envelope r waiting) answers

-- Whether an ack came for an envelope after a call last wrote it.
def marks (envelopeId : String) (acked : Bool) : Report → Bool
  | .wrote id => if id = envelopeId then false else acked
  | .acked id => if id = envelopeId then true else acked
  | _ => acked

def ackedSince (log : List Report) (envelopeId : String) : Bool := log.foldl (marks envelopeId) false

theorem ackedSince_append (log more : List Report) (envelopeId : String) :
    ackedSince (log ++ more) envelopeId = more.foldl (marks envelopeId) (ackedSince log envelopeId) := List.foldl_append

theorem ackedSince_failures (log : List Report) (remove : List String) (envelopeId : String) :
    ackedSince (log ++ remove.map Report.failure) envelopeId = ackedSince log envelopeId := by
  rw [ackedSince_append]
  induction remove with
  | nil => rfl
  | cons first rest ih => exact ih

-- Such an envelope is not in the table, and no call is about to put it there.
def Cleared (s : Client) : Prop :=
  ∀ envelopeId, ackedSince s.log envelopeId = true → s.connection.pendingAcks.get envelopeId = none ∧
    ∀ id envelope r receives, s.calls.get id = some (.sending envelope r receives) → registers envelope = true →
      envelope.id ≠ envelopeId

-- The calls in flight after one of them went on, or ended.
theorem sending_before {calls : Dict Nat Call} {id : Nat} {new : Call} (goesOn : ∀ envelope r receives, new ≠ .sending envelope r receives)
    {other : Nat} {envelope : Envelope} {r : String} {receives : Bool}
    (stored : (calls.set id new).get other = some (.sending envelope r receives)) :
    calls.get other = some (.sending envelope r receives) := by
  rw [Dict.get_set] at stored
  split at stored
  · cases stored
    exact absurd rfl (goesOn envelope r receives)
  · exact stored

-- An ack frame for an envelope none of whose calls is inside `ws.send`.
def AckPrompt (models : Models) (s : Client) : Event → Prop
  | .frame frame => ∀ id envelope r receives, s.calls.get id = some (.sending envelope r receives) →
    registers envelope = true → ackedBy models frame ≠ some envelope.id
  | _ => True

theorem stepped_cleared {s next : Client} {event : Event} (stepped : Stepped models settings s event next)
    (prompt : AckPrompt models s event) (cleared : Cleared s) : Cleared next := by
  intro envelopeId acked
  cases stepped with
  | call id envelope receives free =>
    rw [ackedSince_append] at acked
    simp only [List.foldl_cons,List.foldl_nil,marks] at acked
    split at acked
    · cases acked
    · rename_i other
      obtain ⟨absent,calls⟩ := cleared envelopeId acked
      refine ⟨absent,?_⟩
      intro id' sent r receives' stored registered
      rw [Dict.get_set] at stored
      split at stored
      · cases stored
        exact other
      · exact calls id' sent r receives' stored registered
  | sent id now envelope r receives found =>
    rw [afterSend_log] at acked
    obtain ⟨absent,calls⟩ := cleared envelopeId acked
    refine ⟨?_,?_⟩
    · rw [afterSend_acks]
      split
      · rename_i registered
        exact (Dict.get_set_other _ _ (calls id envelope r receives found registered)).trans absent
      · exact absent
    · intro id' sent r' receives' stored registered
      rw [afterSend_calls] at stored
      refine calls id' sent r' receives' (sending_before ?_ stored) registered
      intro _ _ _ same
      split at same <;> cases same
  | sendRaises id envelope r receives found =>
    obtain ⟨absent,calls⟩ := cleared envelopeId acked
    refine ⟨absent,fun id' sent r' receives' stored registered => ?_⟩
    exact calls id' sent r' receives' (sending_before (by intro _ _ _ same; cases same) stored) registered
  | timesOut id envelope r found waiting => exact cleared envelopeId acked
  | resumes id envelope r found =>
    obtain ⟨absent,calls⟩ := cleared envelopeId acked
    refine ⟨absent,fun id' sent r' receives' stored registered => ?_⟩
    exact calls id' sent r' receives' (sending_before (by intro _ _ _ same; cases same) stored) registered
  | frame frame running =>
    rw [ackedSince_append] at acked
    simp only [receive_acks]
    cases popped : ackedBy models frame with
    | none =>
      rw [popped] at acked
      exact cleared envelopeId acked
    | some id =>
      rw [popped] at acked
      simp only [Option.map_some,Option.toList_some,List.foldl_cons,List.foldl_nil,marks] at acked
      simp only [Option.elim_some,Dict.get_erase]
      by_cases same : id = envelopeId
      · subst same
        refine ⟨by simp,fun id' sent r' receives' stored registered same => ?_⟩
        exact prompt id' sent r' receives' stored registered (same ▸ popped)
      · rw [if_neg same] at acked ⊢
        exact cleared envelopeId acked
  | closed =>
    obtain ⟨absent,calls⟩ := cleared envelopeId acked
    exact ⟨(congrArg (fun acks => Dict.get acks envelopeId) (foldl_settle_acks s.connection.pending s.connection _)).trans absent,calls⟩
  | scan now asleep queue remove queued removed => exact cleared envelopeId acked
  | resend eid tracker queue remove pending turn object =>
    rw [ackedSince_append] at acked
    exact cleared envelopeId acked
  | counted _ now tracker queue remove which turn =>
    have before : ackedSince s.log envelopeId = true :=
      (ackedSince_append s.log [.retransmitted tracker] envelopeId).symm.trans acked
    exact cleared envelopeId before
  | resendRaises tracker queue remove turn =>
    rw [ackedSince_append] at acked
    exact cleared envelopeId acked
  | expire remove turn =>
    have before : ackedSince s.log envelopeId = true := by
      cases breaker : settings.circuitBreaker with
      | true => simpa [breaker,ackedSince_failures] using acked
      | false => simpa [breaker] using acked
    obtain ⟨absent,calls⟩ := cleared envelopeId before
    refine ⟨?_,calls⟩
    rw [erased_get]
    split
    · rfl
    · exact absent

theorem prompt_ack {s : Client} {event : Event} (prompt : Prompt models s event) : AckPrompt models s event := by
  cases event with
  | frame frame => exact fun id envelope r receives sending => (prompt id envelope r receives sending).2
  | _ => trivial

theorem cleared_init (onMessage : Bool) : Cleared {connection := {onMessage := onMessage}} := by
  intro envelopeId acked
  cases acked

theorem run_cleared {start final : Client} {allowed : Client → Event → Prop} {events : List Event}
    (ackPrompt : ∀ s event, allowed s event → AckPrompt models s event)
    (run : Runs (Client.next models settings) allowed start events final) (cleared : Cleared start) : Cleared final := by
  refine run.invariant Cleared ?_ cleared
  intro s event next permitted taken before
  exact stepped_cleared (next_stepped models settings taken) (ackPrompt s event permitted) before

variable (models settings)

-- In every run where answers and acks wait for the end of the `ws.send` they belong to, every
-- answer to an outstanding request is delivered, and an envelope whose ack came is not in the
-- table that the ack-check loop retransmits from.
theorem responses_not_lost (onMessage : Bool) (events : List Event) (s : Client)
    (run : Runs (Client.next models settings) (Prompt models) {connection := {onMessage := onMessage}} events s) :
    (∀ frame next, Prompt models s (.frame frame) → s.next models settings (.frame frame) = some next → Delivered models s frame next) ∧
      ∀ envelopeId, ackedSince s.log envelopeId = true → s.connection.pendingAcks.get envelopeId = none := by
  have tracked := run_tracked run (tracked_init onMessage)
  have cleared := run_cleared (fun _ _ => prompt_ack) run (cleared_init onMessage)
  refine ⟨fun frame next prompt taken => prompt_delivers tracked prompt taken,?_⟩
  intro envelopeId acked
  exact (cleared envelopeId acked).1

def taskRequest : Envelope := ⟨⟨"e1",none,none⟩,"TaskRequest",none,false,.dict []⟩
def settingsDefault : Settings := ⟨30000000,3,true⟩

def stateAfter (check : Client → Event → Bool) (events : List Event) : Option Client :=
  execute (Client.next sampleModels settingsDefault) check {} events

-- `Prompt`, as far as a run can test it.
def promptCheck (s : Client) : Event → Bool
  | .frame frame => s.calls.entries.all (fun row =>
    match row.2 with
    | .sending envelope r _ => decide (carried frame ≠ some r) && decide (ackedBy sampleModels frame ≠ some envelope.id)
    | _ => true)
  | _ => true

theorem promptCheck_sound (s : Client) (event : Event) (checked : promptCheck s event = true) : Prompt sampleModels s event := by
  cases event with
  | frame frame =>
    intro id envelope r receives found
    have tested := List.all_eq_true.mp checked _ ((Dict.mem_iff s.calls).mpr found)
    simp only [Bool.and_eq_true,decide_eq_true_eq] at tested
    refine ⟨?_,fun _ => tested.2⟩
    intro _ items answers
    apply tested.1
    rw [answers.object]
    simp [carried,answers.named]
  | _ => trivial

theorem sample_answers : Answers sampleModels (responseFrame "ws-req-1" "e1") "ws-req-1"
    [(.str "jsonrpc",.str "2.0"),(.str "id",.str "ws-req-1"),(.str "result",.dict [(.str "envelope",
      envelopeFields "e2" "TaskResponse" (.dict [(.str "task_id",.str "t1"),(.str "status",.str "completed")])
        [(.str "correlation_id",.str "e1")])])] :=
  ⟨rfl,by decide +kernel,rfl,.inr (by decide +kernel)⟩

def answeredCall : List Event := [.call 0 taskRequest true,.sent 0 0,.frame (ackFrame "e1")]

def waitingFor (r : String) : Option Call → Bool
  | some (.waiting _ other) => other = r
  | _ => false

theorem answered_state : (stateAfter promptCheck answeredCall).map (fun s =>
    (s.connection.receiving,waitingFor "ws-req-1" (s.calls.get 0),(s.connection.futures.get "ws-req-1").map Future.done,
      ackedSince s.log "e1",promptCheck s (.frame (responseFrame "ws-req-1" "e1")))) = some (true,true,some false,true,true) := by
  decide +kernel

-- An ack and an answer that come after `ws.send` has returned.
theorem responses_not_lost_answered :
    ∃ s next, Runs (Client.next sampleModels settingsDefault) (Prompt sampleModels) {} answeredCall s ∧
      s.next sampleModels settingsDefault (.frame (responseFrame "ws-req-1" "e1")) = some next ∧
      (∃ future, next.connection.futures.get "ws-req-1" = some future ∧ future.done = true) ∧
      s.connection.pendingAcks.get "e1" = none := by
  obtain ⟨s,ran,shown⟩ := Option.map_eq_some_iff.mp answered_state
  simp only [Prod.mk.injEq] at shown
  obtain ⟨running,waiting,future,acked,prompt⟩ := shown
  have run := (execute_runs promptCheck ran).mono promptCheck_sound
  have lost := responses_not_lost sampleModels settingsDefault false answeredCall s run
  refine ⟨s,_,run,by simp only [Client.next,Client.takeFrame,running]; rfl,?_,lost.2 "e1" acked⟩
  cases call : s.calls.get 0 with
  | none => simp [call,waitingFor] at waiting
  | some task =>
    cases task with
    | waiting envelope r =>
      have same : r = "ws-req-1" := by simpa [call,waitingFor] using waiting
      subst same
      have delivered := lost.1 _ _ (promptCheck_sound s _ prompt) (by simp only [Client.next,Client.takeFrame,running]; rfl)
        envelope "ws-req-1" _ ⟨0,.inr ⟨call,by intro cancelled; simp [cancelled,Future.done] at future⟩⟩ sample_answers
      obtain ⟨later,found,done,_⟩ := delivered
      exact ⟨later,found,done⟩
    | sending envelope r receives => simp [call,waitingFor] at waiting
    | returned => simp [call,waitingFor] at waiting

-- The peer answers while `ws.send` is suspended: the answer finds no future, the ack no entry.
def earlyAnswer : List Event := [.call 0 taskRequest true,.frame (ackFrame "e1"),.frame (responseFrame "ws-req-1" "e1"),.sent 0 0]

theorem early_answer : (stateAfter anyMove earlyAnswer).map (fun s => (ackedSince s.log "e1",
    (s.connection.pendingAcks.get "e1").isSome,(s.connection.futures.get "ws-req-1").map Future.done)) = some (true,true,some false) := by
  decide +kernel

theorem responses_lost_early :
    ∃ s, Runs (Client.next sampleModels settingsDefault) (fun _ _ => True) {} earlyAnswer s ∧
      (s.connection.futures.get "ws-req-1").map Future.done = some false ∧
      ackedSince s.log "e1" = true ∧ (s.connection.pendingAcks.get "e1").isSome = true := by
  obtain ⟨s,ran,shown⟩ := Option.map_eq_some_iff.mp early_answer
  simp only [Prod.mk.injEq] at shown
  exact ⟨s,execute_free ran,shown.2.2,shown.1,shown.2.1⟩

end Asap.Ws
