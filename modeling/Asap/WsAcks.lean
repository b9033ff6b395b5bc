import Asap.WsDelivery

-- The ack-check loop against arriving acks and new sends.
namespace Asap.Ws
open OrderedDict PythonValue Interleaving

def Scan.queue : Scan → List (String × Nat)
  | .asleep => []
  | .retransmitting queue _ | .resending _ queue _ => queue

def Scan.remove : Scan → List String
  | .asleep => []
  | .retransmitting _ remove | .resending _ _ remove => remove

def Scan.current : Scan → Option Nat
  | .resending tracker _ _ => some tracker
  | _ => none

-- Frames written again for one `PendingAck` object, sends of them that returned, and sends
-- that raised.
def rewrites (log : List Report) (tracker : Nat) : Nat :=
  log.countP (fun report =>
    match report with
    | .rewrote other _ => decide (other = tracker)
    | _ => false)

def retransmissions (log : List Report) (tracker : Nat) : Nat := log.count (.retransmitted tracker)
def raised (log : List Report) (tracker : Nat) : Nat := log.count (.unsent tracker)

def retriesOf (trackers : List PendingAck) (tracker : Nat) : Nat := (trackers[tracker]?).elim 0 PendingAck.retries

-- What an entry of the table or of the scan's list refers to.
def Refers (trackers : List PendingAck) (item : String × Nat) : Prop :=
  ∃ pending, trackers[item.2]? = some pending ∧ pending.envelope.id = item.1

section Counting
variable (settings : Settings)

structure Counted (s : Client) : Prop where
  table : ∀ id tracker, s.connection.pendingAcks.get id = some tracker → Refers s.trackers (id,tracker)
  queued : ∀ item ∈ s.scan.queue, Refers s.trackers item ∧ (retriesOf s.trackers item.2 : Int) < settings.maxAckRetries
  once : (s.scan.current.toList ++ s.scan.queue.map Prod.snd).Nodup
  inFlight : ∀ tracker, s.scan.current = some tracker →
    tracker < s.trackers.length ∧ (retriesOf s.trackers tracker : Int) < settings.maxAckRetries
  bounded : ∀ tracker, (retriesOf s.trackers tracker : Int) ≤ max 0 settings.maxAckRetries
  counts : ∀ tracker, retransmissions s.log tracker = retriesOf s.trackers tracker
  written : ∀ tracker, rewrites s.log tracker ≤
    retransmissions s.log tracker + raised s.log tracker + (if s.scan.current = some tracker then 1 else 0)

end Counting

theorem refers_append {trackers : List PendingAck} {item : String × Nat} (refers : Refers trackers item) (more : List PendingAck) :
    Refers (trackers ++ more) item := by
  obtain ⟨pending,found,named⟩ := refers
  have bound : item.2 < trackers.length := (List.getElem?_eq_some_iff.mp found).1
  exact ⟨pending,by rw [List.getElem?_append_left bound]; exact found,named⟩

theorem retriesOf_append (trackers : List PendingAck) (pending : PendingAck) (fresh : pending.retries = 0) (tracker : Nat) :
    retriesOf (trackers ++ [pending]) tracker = retriesOf trackers tracker := by
  unfold retriesOf
  by_cases inside : tracker < trackers.length
  · rw [List.getElem?_append_left inside]
  · rw [List.getElem?_append_right (by omega),List.getElem?_eq_none (by omega : trackers.length ≤ tracker)]
    cases at_ : [pending][tracker - trackers.length]? with
    | none => rfl
    | some found =>
      have same : found = pending := by
        have member := List.mem_of_getElem? at_
        simpa using member
      rw [same]
      exact fresh

theorem refers_counted {trackers : List PendingAck} {item : String × Nat} (refers : Refers trackers item) (tracker : Nat)
    (f : PendingAck → PendingAck) (keeps : ∀ pending, (f pending).envelope = pending.envelope) :
    Refers (trackers.modify tracker f) item := by
  obtain ⟨pending,found,named⟩ := refers
  unfold Refers
  rw [List.getElem?_modify,found]
  by_cases same : tracker = item.2
  · exact ⟨f pending,by simp [same],by rw [keeps]; exact named⟩
  · exact ⟨pending,by simp [same],named⟩

theorem retriesOf_modify {trackers : List PendingAck} {tracker : Nat} (inside : tracker < trackers.length) (f : PendingAck → PendingAck)
    (counts : ∀ pending, (f pending).retries = pending.retries + 1) (other : Nat) :
    retriesOf (trackers.modify tracker f) other = retriesOf trackers other + (if tracker = other then 1 else 0) := by
  unfold retriesOf
  rw [List.getElem?_modify]
  by_cases same : tracker = other
  · subst same
    rw [List.getElem?_eq_getElem inside]
    simp [counts]
  · simp [same]

variable {models : Models} {settings : Settings}

-- Steps that leave the objects, the scan and its reports alone.
theorem Counted.aside {s next : Client} (counted : Counted settings s)
    (table : ∀ id tracker, next.connection.pendingAcks.get id = some tracker → s.connection.pendingAcks.get id = some tracker)
    (trackers : next.trackers = s.trackers)
    (scan : next.scan.queue = s.scan.queue ∧ next.scan.current = s.scan.current)
    (reports : ∃ more, next.log = s.log ++ more ∧ ∀ tracker, rewrites more tracker = 0 ∧ retransmissions more tracker = 0 ∧ raised more tracker = 0) :
    Counted settings next := by
  obtain ⟨more,log,silent⟩ := reports
  have retransmitted : ∀ tracker, retransmissions next.log tracker = retransmissions s.log tracker := by
    intro tracker
    have none := (silent tracker).2.1
    unfold retransmissions at *
    rw [log,List.count_append,none,Nat.add_zero]
  have rewrote : ∀ tracker, rewrites next.log tracker = rewrites s.log tracker := by
    intro tracker
    have none := (silent tracker).1
    unfold rewrites at *
    rw [log,List.countP_append,none,Nat.add_zero]
  have unsent : ∀ tracker, raised next.log tracker = raised s.log tracker := by
    intro tracker
    have none := (silent tracker).2.2
    unfold raised at *
    rw [log,List.count_append,none,Nat.add_zero]
  refine ⟨?_,?_,?_,?_,?_,?_,?_⟩
  · intro id tracker stored
    rw [trackers]
    exact counted.table id tracker (table id tracker stored)
  · rw [scan.1,trackers]
    exact counted.queued
  · rw [scan.1,scan.2]
    exact counted.once
  · rw [scan.2,trackers]
    exact counted.inFlight
  · rw [trackers]
    exact counted.bounded
  · intro tracker
    rw [retransmitted,trackers]
    exact counted.counts tracker
  · intro tracker
    rw [rewrote,retransmitted,unsent,scan.2]
    exact counted.written tracker

theorem collected_once {trackers : List PendingAck} {items : List (String × Nat)} (keys : (items.map Prod.fst).Nodup)
    (refers : ∀ item ∈ items, Refers trackers item) : (items.map Prod.snd).Nodup := by
  rw [List.nodup_iff_pairwise_ne,List.pairwise_map] at keys ⊢
  refine List.Pairwise.imp_of_mem ?_ keys
  intro a b first second different same
  obtain ⟨pending,found,named⟩ := refers a first
  obtain ⟨other,found',named'⟩ := refers b second
  rw [← same,found] at found'
  cases found'
  exact different (named.symm.trans named')

theorem counted_collect {s : Client} (counted : Counted settings s) (asleep : s.scan = .asleep) (now : Int)
    {queue : List (String × Nat)} (remove : List String)
    (queued : queue = (s.connection.pendingAcks.entries.filter (s.overdue settings now)).filter (s.retriable settings)) :
    Counted settings {s with scan := .retransmitting queue remove} := by
  have collected : ∀ item ∈ queue, Refers s.trackers item ∧ (retriesOf s.trackers item.2 : Int) < settings.maxAckRetries := by
    intro item member
    rw [queued] at member
    obtain ⟨late,retriable⟩ := List.mem_filter.mp member
    have refers := counted.table item.1 item.2 ((Dict.mem_iff _).mp (List.mem_filter.mp late).1)
    refine ⟨refers,?_⟩
    obtain ⟨pending,found,_⟩ := refers
    simp only [Client.retriable] at retriable
    rw [found] at retriable
    simp only [retriesOf]
    rw [found]
    simpa using retriable
  refine ⟨counted.table,collected,?_,?_,counted.bounded,counted.counts,?_⟩
  · refine collected_once ?_ (fun item member => (collected item member).1)
    rw [queued]
    exact ((List.filter_sublist.trans List.filter_sublist).map Prod.fst).nodup s.connection.pendingAcks.distinct
  · intro tracker current
    cases current
  · intro tracker
    have written := counted.written tracker
    rw [asleep] at written
    exact written

theorem counted_resend {s : Client} (counted : Counted settings s) {eid : String} {tracker : Nat} {queue : List (String × Nat)}
    {remove : List String} (turn : s.scan = .retransmitting ((eid,tracker) :: queue) remove) (counter : Nat) (envelopeId : String) :
    Counted settings {s with
      requestCounter := counter
      scan := .resending tracker queue remove
      log := s.log ++ [.rewrote tracker envelopeId]} := by
  have queued := counted.queued
  have once := counted.once
  have written := counted.written
  rw [turn] at queued once written
  obtain ⟨⟨pending,found,_⟩,few⟩ := queued (eid,tracker) (by simp [Scan.queue])
  refine ⟨counted.table,?_,?_,?_,counted.bounded,?_,?_⟩
  · exact fun item member => queued item (List.mem_cons_of_mem _ member)
  · simpa [Scan.current,Scan.queue] using once
  · intro other current
    cases current
    exact ⟨(List.getElem?_eq_some_iff.mp found).1,few⟩
  · intro other
    have same := counted.counts other
    simpa [retransmissions] using same
  · intro other
    have bound := written other
    simp only [Scan.current,rewrites,retransmissions,raised,List.countP_append,List.count_append,List.countP_singleton] at bound ⊢
    by_cases same : tracker = other
    · subst same
      simp at bound ⊢
      omega
    · simp [same] at bound ⊢
      omega

theorem counted_retry {s : Client} (counted : Counted settings s) {tracker : Nat} {queue : List (String × Nat)} {remove : List String}
    (turn : s.scan = .resending tracker queue remove ∨ ∃ eid, s.scan = .retransmitting ((eid,tracker) :: queue) remove) (now : Int) :
    Counted settings {s.countRetry tracker now with scan := .retransmitting queue remove} := by
  have facts : tracker < s.trackers.length ∧ (retriesOf s.trackers tracker : Int) < settings.maxAckRetries ∧
      tracker ∉ queue.map Prod.snd ∧ (queue.map Prod.snd).Nodup ∧ (∀ item ∈ queue, item ∈ s.scan.queue) ∧
      ∀ other, other ≠ tracker → s.scan.current ≠ some other := by
    have queued := counted.queued
    have once := counted.once
    have inFlight := counted.inFlight
    rcases turn with turn | ⟨eid,turn⟩
    · rw [turn] at once inFlight ⊢
      obtain ⟨absent,distinct⟩ := List.nodup_cons.mp once
      obtain ⟨inside,few⟩ := inFlight tracker rfl
      exact ⟨inside,few,absent,distinct,fun item member => member,by intro other different same; cases same; exact different rfl⟩
    · rw [turn] at queued once ⊢
      obtain ⟨absent,distinct⟩ := List.nodup_cons.mp once
      obtain ⟨⟨pending,found,_⟩,few⟩ := queued (eid,tracker) (by simp [Scan.queue])
      exact ⟨(List.getElem?_eq_some_iff.mp found).1,few,absent,distinct,fun item member => List.mem_cons_of_mem _ member,
        by intro other _ same; cases same⟩
  obtain ⟨inside,few,absent,distinct,sublist,current⟩ := facts
  have retries := fun other => retriesOf_modify inside
    (fun pending => {pending with sentAt := now,retries := pending.retries + 1}) (fun _ => rfl) other
  refine ⟨?_,?_,distinct,?_,?_,?_,?_⟩
  · intro id other stored
    exact refers_counted (counted.table id other stored) tracker _ (fun _ => rfl)
  · intro item member
    obtain ⟨refers,budget⟩ := counted.queued item (sublist item member)
    refine ⟨refers_counted refers tracker _ (fun _ => rfl),?_⟩
    have different : tracker ≠ item.2 := by
      rintro rfl
      exact absent (List.mem_map_of_mem member)
    have same := retries item.2
    rw [if_neg different] at same
    simp only [Client.countRetry]
    rw [same]
    exact budget
  · intro other impossible
    cases impossible
  · intro other
    have bound := counted.bounded other
    simp only [Client.countRetry]
    rw [retries other]
    split
    · rename_i same
      subst same
      omega
    · simpa using bound
  · intro other
    have same := counted.counts other
    simp only [Client.countRetry]
    rw [retries other,← same]
    simp only [retransmissions,List.count_append,List.count_singleton]
    by_cases here : tracker = other <;> simp [here]
  · intro other
    have bound := counted.written other
    have idle : (Scan.retransmitting queue remove).current ≠ some other := by intro same; cases same
    simp only [Client.countRetry,rewrites,retransmissions,raised,List.countP_append,List.count_append] at bound ⊢
    rw [if_neg idle]
    by_cases here : tracker = other
    · subst here
      simp only [List.countP_singleton,List.count_singleton]
      simp
      split at bound <;> omega
    · rw [if_neg (current other (Ne.symm here))] at bound
      simpa [here] using bound

theorem stepped_counted {s next : Client} {event : Event} (stepped : Stepped models settings s event next)
    (counted : Counted settings s) : Counted settings next := by
  have silent : ∃ more, s.log = s.log ++ more ∧
      ∀ tracker, rewrites more tracker = 0 ∧ retransmissions more tracker = 0 ∧ raised more tracker = 0 :=
    ⟨[],by simp,fun _ => ⟨rfl,rfl,rfl⟩⟩
  cases stepped with
  | call id envelope receives free =>
    exact counted.aside (fun _ _ stored => stored) rfl ⟨rfl,rfl⟩ ⟨_,rfl,fun _ => ⟨rfl,rfl,rfl⟩⟩
  | sent id now envelope r receives found =>
    have table := afterSend_acks s id envelope r receives now
    have trackers := afterSend_trackers s id envelope r receives now
    have log := afterSend_log s id envelope r receives now
    have scan := afterSend_scan s id envelope r receives now
    cases registered : registers envelope with
    | false =>
      simp only [registered] at table trackers
      exact counted.aside (fun _ _ stored => by rw [table] at stored; exact stored) trackers ⟨by rw [scan],by rw [scan]⟩ (by rw [log]; exact silent)
    | true =>
      simp only [registered,if_true] at table trackers
      have retries := retriesOf_append s.trackers ⟨envelope,now,0⟩ rfl
      refine ⟨?_,?_,?_,?_,?_,?_,?_⟩
      · intro key tracker stored
        rw [table,Dict.get_set] at stored
        rw [trackers]
        split at stored
        · rename_i same
          cases stored
          exact ⟨⟨envelope,now,0⟩,by simp,same⟩
        · exact refers_append (counted.table key tracker stored) _
      · rw [scan,trackers]
        intro item member
        obtain ⟨refers,few⟩ := counted.queued item member
        exact ⟨refers_append refers _,by rw [retries]; exact few⟩
      · rw [scan]
        exact counted.once
      · rw [scan,trackers]
        intro tracker current
        obtain ⟨inside,few⟩ := counted.inFlight tracker current
        exact ⟨by rw [List.length_append]; omega,by rw [retries]; exact few⟩
      · rw [trackers]
        intro tracker
        rw [retries]
        exact counted.bounded tracker
      · rw [trackers,log]
        intro tracker
        rw [retries]
        exact counted.counts tracker
      · rw [log,scan]
        exact counted.written
  | sendRaises id envelope r receives found => exact counted.aside (fun _ _ stored => stored) rfl ⟨rfl,rfl⟩ silent
  | timesOut id envelope r found waiting => exact counted.aside (fun _ _ stored => stored) rfl ⟨rfl,rfl⟩ silent
  | resumes id envelope r found => exact counted.aside (fun _ _ stored => stored) rfl ⟨rfl,rfl⟩ silent
  | frame frame running =>
    refine counted.aside ?_ rfl ⟨rfl,rfl⟩ ⟨_,rfl,?_⟩
    · intro id tracker stored
      simp only [receive_acks] at stored
      cases popped : ackedBy models frame with
      | none => simpa [popped] using stored
      | some acked =>
        simp only [popped,Option.elim_some,Dict.get_erase] at stored
        split at stored
        · cases stored
        · exact stored
    · intro tracker
      cases ackedBy models frame <;> exact ⟨rfl,rfl,rfl⟩
  | closed =>
    refine counted.aside ?_ rfl ⟨rfl,rfl⟩ silent
    intro id tracker stored
    rw [← foldl_settle_acks s.connection.pending s.connection (.failed (.loop .connectionClosed))]
    exact stored
  | scan now asleep queue remove queued removed => exact counted_collect counted asleep now remove queued
  | resend eid tracker queue remove pending turn object => exact counted_resend counted turn _ _
  | counted _ now tracker queue remove which turn => exact counted_retry counted turn now
  | resendRaises tracker queue remove turn =>
    have queued := counted.queued
    have once := counted.once
    have written := counted.written
    rw [turn] at queued once written
    refine ⟨counted.table,queued,(List.nodup_cons.mp once).2,(by intro _ same; cases same),counted.bounded,?_,?_⟩
    · intro other
      have same := counted.counts other
      simpa [retransmissions] using same
    · intro other
      have bound := written other
      simp only [rewrites,retransmissions,raised,List.countP_append,List.count_append,Scan.current] at bound ⊢
      by_cases same : tracker = other
      · subst same
        simp at bound ⊢
        omega
      · simp [same] at bound ⊢
        omega
  | expire remove turn =>
    refine counted.aside ?_ rfl (by rw [turn]; exact ⟨rfl,rfl⟩) ⟨_,rfl,?_⟩
    · intro id tracker stored
      simp only [erased_get] at stored
      split at stored
      · cases stored
      · exact stored
    · intro tracker
      split
      · refine ⟨?_,?_,?_⟩
        · exact List.countP_eq_zero.mpr (by simp)
        · exact List.count_eq_zero.mpr (by simp)
        · exact List.count_eq_zero.mpr (by simp)
      · exact ⟨rfl,rfl,rfl⟩

-- A frame written again, or a failure recorded, for an envelope.
def Report.against : Report → String → Prop
  | .rewrote _ id,envelopeId | .failure id,envelopeId => id = envelopeId
  | _,_ => False

-- None of them comes after the envelope's ack.
def Consistent (log : List Report) : Prop :=
  ∀ before report after, log = before ++ report :: after → ∀ envelopeId, report.against envelopeId → ackedSince before envelopeId = false

theorem consistent_snoc {log : List Report} {report : Report} (consistent : Consistent log)
    (last : ∀ envelopeId, report.against envelopeId → ackedSince log envelopeId = false) : Consistent (log ++ [report]) := by
  intro before other after split envelopeId concerns
  rcases List.eq_nil_or_concat after with rfl | ⟨inner,final,rfl⟩
  · obtain ⟨rfl,same⟩ := List.append_inj' split rfl
    cases same
    exact last envelopeId concerns
  · have longer : log ++ [report] = (before ++ other :: inner) ++ [final] := by rw [split]; simp
    obtain ⟨rfl,_⟩ := List.append_inj' longer rfl
    exact consistent before other inner rfl envelopeId concerns

theorem consistent_silent {log : List Report} {report : Report} (consistent : Consistent log)
    (silent : ∀ envelopeId, ¬ report.against envelopeId) : Consistent (log ++ [report]) :=
  consistent_snoc consistent (fun envelopeId concerns => absurd concerns (silent envelopeId))

theorem consistent_failures {log : List Report} {remove : List String} (consistent : Consistent log)
    (unacked : ∀ id ∈ remove, ackedSince log id = false) : Consistent (log ++ remove.map Report.failure) := by
  induction remove generalizing log with
  | nil => simpa using consistent
  | cons first rest ih =>
    have same : ∀ id, ackedSince (log ++ [.failure first]) id = ackedSince log id := fun id => ackedSince_append _ _ id
    have snoc : Consistent (log ++ [.failure first]) := by
      refine consistent_snoc consistent ?_
      rintro _ rfl
      exact unacked first (by simp)
    have later := ih snoc (fun id member => (same id).trans (unacked id (List.mem_cons_of_mem _ member)))
    simpa using later

-- What the scan has collected and not yet dealt with is not acked.
structure Settled (s : Client) : Prop where
  cleared : Cleared s
  queue : ∀ item ∈ s.scan.queue, ackedSince s.log item.1 = false
  remove : ∀ id ∈ s.scan.remove, ackedSince s.log id = false
  consistent : Consistent s.log

-- An ack comes while its envelope is neither inside the `ws.send` of a call nor on a list the
-- scan is working through.
def AckTimely (models : Models) (s : Client) (event : Event) : Prop :=
  AckPrompt models s event ∧ ∀ frame id, event = .frame frame → ackedBy models frame = some id →
    id ∉ s.scan.queue.map Prod.fst ∧ id ∉ s.scan.remove

theorem wrote_unacked {log : List Report} {envelopeId : String} (id : String) (unacked : ackedSince log envelopeId = false) :
    ackedSince (log ++ [.wrote id]) envelopeId = false := by
  rw [ackedSince_append]
  simp only [List.foldl_cons,List.foldl_nil,marks]
  split
  · rfl
  · exact unacked

theorem cleared_unacked {s : Client} (cleared : Cleared s) {id : String} (present : (s.connection.pendingAcks.get id).isSome = true) :
    ackedSince s.log id = false := by
  cases acked : ackedSince s.log id with
  | false => rfl
  | true =>
    rw [(cleared id acked).1] at present
    cases present

theorem stepped_settled {s next : Client} {event : Event} (stepped : Stepped models settings s event next)
    (counted : Counted settings s) (timely : AckTimely models s event) (settled : Settled s) : Settled next := by
  have cleared := stepped_cleared stepped timely.1 settled.cleared
  cases stepped with
  | call id envelope receives free =>
    refine ⟨cleared,?_,?_,consistent_silent settled.consistent (fun _ against => against)⟩
    · exact fun item member => wrote_unacked envelope.id (settled.queue item member)
    · exact fun id member => wrote_unacked envelope.id (settled.remove id member)
  | sent id now envelope r receives found =>
    refine ⟨cleared,?_,?_,?_⟩
    · rw [afterSend_scan,afterSend_log]
      exact settled.queue
    · rw [afterSend_scan,afterSend_log]
      exact settled.remove
    · rw [afterSend_log]
      exact settled.consistent
  | sendRaises id envelope r receives found => exact ⟨cleared,settled.queue,settled.remove,settled.consistent⟩
  | timesOut id envelope r found waiting => exact ⟨cleared,settled.queue,settled.remove,settled.consistent⟩
  | resumes id envelope r found => exact ⟨cleared,settled.queue,settled.remove,settled.consistent⟩
  | frame frame running =>
    cases popped : ackedBy models frame with
    | none =>
      simp only [popped,Option.map_none,Option.toList_none,List.append_nil] at cleared ⊢
      exact ⟨cleared,settled.queue,settled.remove,settled.consistent⟩
    | some acked =>
      obtain ⟨unqueued,kept⟩ := timely.2 frame acked rfl popped
      rw [popped] at cleared
      have other : ∀ id, acked ≠ id → ackedSince (s.log ++ [.acked acked]) id = ackedSince s.log id := by
        intro id different
        rw [ackedSince_append]
        simp [marks,different]
      refine ⟨cleared,?_,?_,consistent_silent settled.consistent (fun _ against => against)⟩
      · intro item member
        refine (other item.1 ?_).trans (settled.queue item member)
        rintro rfl
        exact unqueued (List.mem_map_of_mem member)
      · intro id member
        refine (other id ?_).trans (settled.remove id member)
        rintro rfl
        exact kept member
  | closed => exact ⟨cleared,settled.queue,settled.remove,settled.consistent⟩
  | scan now asleep queue remove queued removed =>
    refine ⟨cleared,?_,?_,settled.consistent⟩
    · intro item member
      have collected : item ∈ s.connection.pendingAcks.entries := by
        have inside : item ∈ queue := member
        rw [queued] at inside
        exact (List.mem_filter.mp (List.mem_filter.mp inside).1).1
      refine cleared_unacked settled.cleared ?_
      rw [(Dict.mem_iff s.connection.pendingAcks).mp collected]
      rfl
    · exact fun id member => cleared_unacked settled.cleared (removed id member)
  | resend eid tracker queue remove pending turn object =>
    have waiting := settled.queue
    have dropped := settled.remove
    have queued := counted.queued
    rw [turn] at waiting dropped queued
    have same : ∀ id, ackedSince (s.log ++ [.rewrote tracker pending.envelope.id]) id = ackedSince s.log id :=
      fun id => ackedSince_append _ _ id
    refine ⟨cleared,?_,?_,?_⟩
    · exact fun item member => (same item.1).trans (waiting item (List.mem_cons_of_mem _ member))
    · exact fun id member => (same id).trans (dropped id member)
    · refine consistent_snoc settled.consistent ?_
      rintro _ rfl
      obtain ⟨⟨known,found,named⟩,_⟩ := queued (eid,tracker) (by simp [Scan.queue])
      rw [object] at found
      cases found
      rw [named]
      exact waiting (eid,tracker) (by simp [Scan.queue])
  | counted _ now tracker queue remove which turn =>
    have same : ∀ id, ackedSince (s.log ++ [.retransmitted tracker]) id = ackedSince s.log id :=
      fun id => ackedSince_append _ _ id
    have lists : (∀ item ∈ queue, item ∈ s.scan.queue) ∧ ∀ id ∈ remove, id ∈ s.scan.remove := by
      rcases turn with turn | ⟨eid,turn⟩
      · rw [turn]
        exact ⟨fun _ member => member,fun _ member => member⟩
      · rw [turn]
        exact ⟨fun _ member => List.mem_cons_of_mem _ member,fun _ member => member⟩
    refine ⟨cleared,?_,?_,consistent_silent settled.consistent (fun _ against => against)⟩
    · exact fun item member => (same item.1).trans (settled.queue item (lists.1 item member))
    · exact fun id member => (same id).trans (settled.remove id (lists.2 id member))
  | resendRaises tracker queue remove turn =>
    have waiting := settled.queue
    have dropped := settled.remove
    rw [turn] at waiting dropped
    have same : ∀ id, ackedSince (s.log ++ [.unsent tracker]) id = ackedSince s.log id := fun id => ackedSince_append _ _ id
    refine ⟨cleared,?_,?_,consistent_silent settled.consistent (fun _ against => against)⟩
    · exact fun item member => (same item.1).trans (waiting item member)
    · exact fun id member => (same id).trans (dropped id member)
  | expire remove turn =>
    have dropped := settled.remove
    rw [turn] at dropped
    refine ⟨cleared,by simp [Scan.queue],by simp [Scan.remove],?_⟩
    split
    · exact consistent_failures settled.consistent dropped
    · simpa using settled.consistent

theorem counted_init (onMessage : Bool) : Counted settings {connection := {onMessage := onMessage}} :=
  ⟨by simp,by simp [Scan.queue],by simp [Scan.current,Scan.queue],by simp [Scan.current],
    by simp [retriesOf],by simp [retransmissions,retriesOf],by simp [rewrites]⟩

theorem settled_init (onMessage : Bool) : Settled {connection := {onMessage := onMessage}} :=
  ⟨cleared_init onMessage,by simp [Scan.queue],by simp [Scan.remove],by intro before report after impossible; simp at impossible⟩

theorem run_counted {start final : Client} {allowed : Client → Event → Prop} {events : List Event}
    (run : Runs (Client.next models settings) allowed start events final) (counted : Counted settings start) : Counted settings final := by
  refine run.invariant (Counted settings) ?_ counted
  intro s event next _ taken before
  exact stepped_counted (next_stepped models settings taken) before

theorem counted_bounds {s : Client} (counted : Counted settings s) (tracker : Nat) :
    (retransmissions s.log tracker : Int) ≤ max 0 settings.maxAckRetries ∧
      (rewrites s.log tracker : Int) ≤ max 0 settings.maxAckRetries + raised s.log tracker := by
  have bounded := counted.bounded tracker
  have counts := counted.counts tracker
  have written := counted.written tracker
  refine ⟨by omega,?_⟩
  split at written
  · rename_i current
    have few := (counted.inFlight tracker current).2
    omega
  · omega

variable (models settings)

-- In every run an object is retransmitted at most `max_ack_retries` times, writes whose
-- `ws.send` raised apart; and where acks are timely, nothing is retransmitted or held against
-- an envelope after its ack.
theorem acks_consistent (onMessage : Bool) (events : List Event) (s : Client) :
    (Runs (Client.next models settings) (fun _ _ => True) {connection := {onMessage := onMessage}} events s →
      ∀ tracker, (retransmissions s.log tracker : Int) ≤ max 0 settings.maxAckRetries ∧
        (rewrites s.log tracker : Int) ≤ max 0 settings.maxAckRetries + raised s.log tracker) ∧
    (Runs (Client.next models settings) (AckTimely models) {connection := {onMessage := onMessage}} events s → Consistent s.log) := by
  constructor
  · intro run tracker
    exact counted_bounds (run_counted run (counted_init onMessage)) tracker
  · intro run
    have both : Counted settings s ∧ Settled s := by
      refine run.invariant (fun s => Counted settings s ∧ Settled s) ?_ ⟨counted_init onMessage,settled_init onMessage⟩
      intro s event next timely taken before
      have stepped := next_stepped models settings taken
      exact ⟨stepped_counted stepped before.1,stepped_settled stepped before.1 timely before.2⟩
    exact both.2.consistent

-- `AckTimely`, as far as a run can test it.
def timelyCheck (s : Client) : Event → Bool
  | .frame frame => promptCheck s (.frame frame) && (ackedBy sampleModels frame).all (fun id =>
    decide (id ∉ s.scan.queue.map Prod.fst) && decide (id ∉ s.scan.remove))
  | _ => true

theorem timelyCheck_sound (s : Client) (event : Event) (checked : timelyCheck s event = true) : AckTimely sampleModels s event := by
  cases event with
  | frame frame =>
    simp only [timelyCheck,Bool.and_eq_true] at checked
    refine ⟨prompt_ack (promptCheck_sound s _ checked.1),?_⟩
    rintro _ id ⟨⟩ popped
    have tested := checked.2
    rw [popped] at tested
    simpa using tested
  | _ => exact ⟨trivial,by rintro _ _ ⟨⟩⟩

-- A send, a scan that retransmits it, its ack, and a later scan.
def ackedLater : List Event :=
  [.call 0 taskRequest false,.sent 0 0,.scan 40000000,.resend,.resent 40000000,.expire,.frame (ackFrame "e1"),.scan 80000000,.expire]

theorem acked_later : (stateAfter timelyCheck ackedLater).map (fun s => (rewrites s.log 0,ackedSince s.log "e1")) = some (1,true) := by
  decide +kernel

theorem acks_consistent_later : ∃ s, Runs (Client.next sampleModels settingsDefault) (AckTimely sampleModels) {} ackedLater s ∧
    rewrites s.log 0 = 1 ∧ ackedSince s.log "e1" = true ∧ Consistent s.log := by
  obtain ⟨s,ran,shown⟩ := Option.map_eq_some_iff.mp acked_later
  simp only [Prod.mk.injEq] at shown
  have run := (execute_runs timelyCheck ran).mono timelyCheck_sound
  exact ⟨s,run,shown.1,shown.2,(acks_consistent sampleModels settingsDefault false ackedLater s).2 run⟩

-- Two envelopes are overdue; the ack of the second comes while the first is sent again.
def secondRequest : Envelope := {taskRequest with id := "e2"}

def ackedMeanwhile : List Event :=
  [.call 0 taskRequest false,.sent 0 0,.call 1 secondRequest false,.sent 1 0,.scan 40000000,.resend,.frame (ackFrame "e2"),
    .resent 40000000,.resend]

theorem acked_meanwhile : (stateAfter anyMove ackedMeanwhile).map Client.log = some
    [.wrote "e1",.wrote "e2",.rewrote 0 "e1",.acked "e2",.retransmitted 0,.rewrote 1 "e2"] := by
  decide +kernel

-- One envelope is overdue and one out of retries; the ack of the latter comes meanwhile.
def failedMeanwhile : List Event :=
  [.call 0 taskRequest false,.sent 0 0,.scan 40000000,.resend,.resent 40000000,.expire,.scan 80000000,.resend,.resent 80000000,.expire,
    .scan 120000000,.resend,.resent 120000000,.expire,.call 1 secondRequest false,.sent 1 120000000,
    .scan 160000000,.resend,.frame (ackFrame "e1"),.resent 160000000,.expire]

theorem failed_meanwhile : (stateAfter anyMove failedMeanwhile).map (fun s => s.log.drop 8) = some
    [.rewrote 1 "e2",.acked "e1",.retransmitted 1,.failure "e1"] := by
  decide +kernel

theorem acked_retransmitted_and_failed :
    (∃ s, Runs (Client.next sampleModels settingsDefault) (fun _ _ => True) {} ackedMeanwhile s ∧
      s.log = [.wrote "e1",.wrote "e2",.rewrote 0 "e1",.acked "e2",.retransmitted 0,.rewrote 1 "e2"] ∧ ¬ Consistent s.log) ∧
    ∃ s, Runs (Client.next sampleModels settingsDefault) (fun _ _ => True) {} failedMeanwhile s ∧
      s.log.drop 8 = [.rewrote 1 "e2",.acked "e1",.retransmitted 1,.failure "e1"] := by
  constructor
  · obtain ⟨s,ran,log⟩ := Option.map_eq_some_iff.mp acked_meanwhile
    refine ⟨s,execute_free ran,log,?_⟩
    intro consistent
    have after := consistent [.wrote "e1",.wrote "e2",.rewrote 0 "e1",.acked "e2",.retransmitted 0] (.rewrote 1 "e2") [] log "e2" rfl
    exact absurd after (by decide)
  · obtain ⟨s,ran,log⟩ := Option.map_eq_some_iff.mp failed_meanwhile
    exact ⟨s,execute_free ran,log⟩

end Asap.Ws
