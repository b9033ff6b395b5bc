import Mathlib.Data.List.Sort
import Mathlib.Data.List.Perm.Basic
import Mathlib.Data.Rat.Defs
import Asap.Interleaving
import Asap.Isoformat

-- `build_hops` over the lines that the request handler logs.
namespace Asap.TraceHops
open OrderedDict Interleaving PythonValue

-- What a log line says of an envelope.
structure Envelope where
  id : String
  traceId : Option String
  payloadType : String
  sender : String
  recipient : String
  deriving DecidableEq

abbrev Record := List (Key × Value)

-- What the log processors add: the time, and the level, the logger and the bound context.
structure Line where
  timestamp : String
  context : Record

def Line.fields (line : Line) : Record := (.str "timestamp",.str line.timestamp) :: line.context

def optionalStr (text : Option String) : Value := (text.map Value.str).getD .none

-- An accepted request: `authenticated` tells whether the sender has been authenticated.
structure Received where
  envelope : Envelope
  authenticated : Bool
  line : Line

-- `round(duration_ms, 2)` with its repr.
structure Milliseconds where
  value : Rat
  repr : String

def Milliseconds.toValue (duration : Milliseconds) : Value := .float duration.value duration.repr

structure Processed where
  request : Received
  response : Envelope
  duration : Milliseconds
  line : Line

def eventReceived : String := "asap.request.received"
def eventProcessed : String := "asap.request.processed"

-- The event that `_prepare_request` logs.
def Received.record (received : Received) : Record :=
  [(Key.str "event",Value.str eventReceived),
    (.str "envelope_id",.str received.envelope.id),
    (.str "trace_id",optionalStr received.envelope.traceId),
    (.str "payload_type",.str received.envelope.payloadType),
    (.str "sender",.str received.envelope.sender),
    (.str "recipient",.str received.envelope.recipient),
    (.str "authenticated",.bool received.authenticated)] ++ received.line.fields

-- The event that `_build_success_response` logs: its envelope is the response, its payload
-- type that of the request.
def Processed.record (processed : Processed) : Record :=
  [(Key.str "event",Value.str eventProcessed),
    (.str "envelope_id",.str processed.response.id),
    (.str "response_id",.str processed.response.id),
    (.str "trace_id",optionalStr processed.response.traceId),
    (.str "payload_type",.str processed.request.envelope.payloadType),
    (.str "duration_ms",processed.duration.toValue)] ++ processed.line.fields

-- The conversions that `build_hops` calls: `fromisoformat`, `none` where it raises ValueError;
-- `timestamp`, which reads the local zone for a naive time, `none` the same; and `float` of an
-- integer, `none` where it raises OverflowError.
structure Conversions where
  fromisoformat : String → Option DateTime
  timestamp : DateTime → Option Rat
  floatOfInt : Int → Option Value

structure TraceHop where
  sender : String
  recipient : String
  durationMs : Option Value

section BuildHops
variable (c : Conversions)

def timestampToSortKey (ts : String) : Rat := ((c.fromisoformat (offsetForZulu ts)).bind c.timestamp).getD 0

def sortKey (record : Record) : Rat :=
  match lookupItem "timestamp" record with
  | some (.str ts) => timestampToSortKey c ts
  | _ => 0

-- `float(d)` of a number; the outer `none` is the OverflowError.
def numberAsFloat : Value → Option (Option Value)
  | .bool b => some (some (.float (if b then 1 else 0) (if b then "1.0" else "0.0")))
  | .int n => (c.floatOfInt n).map some
  | .float value repr => some (some (.float value repr))
  | .nonFinite repr => some (some (.nonFinite repr))
  | _ => some none

def durationOf (proc : Option Record) : Option (Option Value) :=
  match proc.bind (lookupItem "duration_ms") with
  | none => some none
  | some d => numberAsFloat c d

-- A received record with its sort key; the inner `none` is the `continue`.
def hopOf (processedByEnvelope : Dict String Record) (row : String × Record) : Option (Option (Rat × TraceHop)) :=
  match lookupItem "sender" row.2,lookupItem "recipient" row.2 with
  | some (.str sender),some (.str recipient) =>
    (durationOf c (processedByEnvelope.get row.1)).map (fun duration => some (sortKey c row.2,⟨sender,recipient,duration⟩))
  | _,_ => some none

def addRecord (dicts : Dict String Record × Dict String Record) (r : Record) : Dict String Record × Dict String Record :=
  match lookupItem "envelope_id" r,lookupItem "event" r with
  | some (.str envelopeId),some (.str event) =>
    if event = eventReceived then (dicts.1.set envelopeId r,dicts.2)
    else if event = eventProcessed then (dicts.1,dicts.2.set envelopeId r)
    else dicts
  | _,_ => dicts

def buildHops (records : List Record) : Option (List TraceHop) :=
  let dicts := records.foldl addRecord (.empty,.empty)
  (dicts.1.entries.mapM (hopOf c dicts.2)).map (fun found =>
    ((found.filterMap id).insertionSort (fun left right => left.1 ≤ right.1)).map Prod.snd)
end BuildHops

-- The handler at work: requests that have been received and wait for their response, those
-- that have been processed, and the log.
structure Handler where
  waiting : List Received
  processed : List Processed
  log : List Record

inductive Move where
  | receive (received : Received)
  | process (i : Nat) (response : Envelope) (duration : Milliseconds) (line : Line)
  | note (record : Record)

def Handler.init : Handler := ⟨[],[],[]⟩

-- Lines between them are of other events.
def otherEvent (record : Record) : Bool :=
  match lookupItem "event" record with
  | some (.str event) => decide (event ≠ eventReceived ∧ event ≠ eventProcessed)
  | _ => true

def step (h : Handler) : Move → Option Handler
  | .receive received => some {h with waiting := h.waiting ++ [received],log := h.log ++ [received.record]}
  | .process i response duration line =>
    h.waiting[i]?.map (fun request =>
      let processed : Processed := ⟨request,response,duration,line⟩
      ⟨h.waiting.eraseIdx i,h.processed ++ [processed],h.log ++ [processed.record]⟩)
  | .note record => if otherEvent record then some {h with log := h.log ++ [record]} else none

def Move.received : Move → Option Received
  | .receive received => some received
  | _ => none

def Handler.requests (h : Handler) : List Received := h.waiting ++ h.processed.map Processed.request
theorem step_cases (taken : step h move = some next) :
    (∃ received, move = .receive received ∧
      next = {h with waiting := h.waiting ++ [received],log := h.log ++ [received.record]}) ∨
    (∃ i processed, move = .process i processed.response processed.duration processed.line ∧
      h.waiting[i]? = some processed.request ∧
      next = ⟨h.waiting.eraseIdx i,h.processed ++ [processed],h.log ++ [processed.record]⟩) ∨
    (∃ record, move = .note record ∧ otherEvent record = true ∧ next = {h with log := h.log ++ [record]}) := by
  cases move with
  | receive received => exact .inl ⟨received,rfl,(Option.some.inj taken).symm⟩
  | process i response duration line =>
    obtain ⟨request,found,made⟩ := Option.map_eq_some_iff.mp taken
    exact .inr (.inl ⟨i,⟨request,response,duration,line⟩,rfl,found,made.symm⟩)
  | note record =>
    obtain ⟨other,made⟩ := Option.ite_none_right_eq_some.mp taken
    exact .inr (.inr ⟨record,rfl,other,(Option.some.inj made).symm⟩)

-- A processed request moves from one list to the other.
theorem requests_processed {h : Handler} {processed : Processed} (found : h.waiting[i]? = some processed.request) :
    (h.waiting.eraseIdx i ++ (h.processed ++ [processed]).map Processed.request).Perm h.requests := by
  obtain ⟨inside,same⟩ := List.getElem?_eq_some_iff.mp found
  have moved : (processed.request :: h.waiting.eraseIdx i).Perm h.waiting := by
    rw [← same]
    exact List.getElem_cons_eraseIdx_perm inside
  have added := List.perm_append_singleton processed.request (h.waiting.eraseIdx i ++ h.processed.map Processed.request)
  rw [List.append_assoc] at added
  rw [List.map_append,List.map_singleton]
  exact added.trans (moved.append_right _)

theorem requests_receive (h : Handler) (received : Received) :
    (h.waiting ++ [received] ++ h.processed.map Processed.request).Perm (h.requests ++ [received]) := by
  rw [List.append_assoc,Handler.requests,List.append_assoc]
  exact List.perm_append_comm.append_left _

-- Every request that came in waits or has been processed.
theorem requests_received (allowed : Handler → Move → Prop) (run : Runs step allowed h moves final) :
    final.requests.Perm (h.requests ++ moves.filterMap Move.received) := by
  induction run with
  | nil => simp
  | cons h middle final move rest _ taken _ ih =>
    refine ih.trans ?_
    rcases step_cases taken with ⟨received,rfl,rfl⟩ | ⟨i,processed,rfl,found,rfl⟩ | ⟨record,rfl,_,rfl⟩
    · have joined := (requests_receive h received).append_right (rest.filterMap Move.received)
      rw [List.append_assoc h.requests] at joined
      exact joined
    · exact (requests_processed found).append_right _
    · exact List.Perm.refl _

-- The row that a record of the event brings into its dictionary.
def keyed (event : String) (r : Record) : Option (String × Record) :=
  match lookupItem "envelope_id" r,lookupItem "event" r with
  | some (.str envelopeId),some (.str e) => if e = event then some (envelopeId,r) else none
  | _,_ => none

theorem events_differ : eventProcessed ≠ eventReceived := by decide

theorem addRecord_keyed (dicts : Dict String Record × Dict String Record) (r : Record) :
    addRecord dicts r = ((keyed eventReceived r).elim dicts.1 (fun row => dicts.1.set row.1 row.2),
      (keyed eventProcessed r).elim dicts.2 (fun row => dicts.2.set row.1 row.2)) := by
  unfold addRecord keyed
  split
  · rename_i envelopeId event _ _
    by_cases received : event = eventReceived
    · subst received
      simp [events_differ.symm]
    · by_cases processed : event = eventProcessed
      · subst processed
        simp [events_differ]
      · simp [received,processed]
  · rfl

theorem addRecord_fill (records : List Record) : records.foldl addRecord (.empty,.empty) =
    (fill (records.filterMap (keyed eventReceived)),fill (records.filterMap (keyed eventProcessed))) := by
  induction records using List.reverseRecOn with
  | nil => rfl
  | append_singleton records r ih =>
    rw [List.foldl_append,List.foldl_cons,List.foldl_nil,ih,addRecord_keyed,List.filterMap_append,List.filterMap_append]
    cases received : keyed eventReceived r <;> cases processed : keyed eventProcessed r <;> simp [received,processed,fill_append]

def Received.row (received : Received) : String × Record := (received.envelope.id,received.record)
def Processed.row (processed : Processed) : String × Record := (processed.response.id,processed.record)

theorem keyed_received (received : Received) :
    keyed eventReceived received.record = some received.row ∧ keyed eventProcessed received.record = none :=
  ⟨rfl,rfl⟩

theorem keyed_processed (processed : Processed) :
    keyed eventReceived processed.record = none ∧ keyed eventProcessed processed.record = some processed.row :=
  ⟨rfl,rfl⟩

theorem keyed_other (other : otherEvent record = true) : keyed eventReceived record = none ∧ keyed eventProcessed record = none := by
  unfold otherEvent at other
  unfold keyed
  split
  · rename_i envelopeId event _ carried
    rw [carried] at other
    simpa using other
  · exact ⟨rfl,rfl⟩

-- The log holds one received row for each request and one processed row for each response.
structure Logged (h : Handler) : Prop where
  received : ∃ order : List Received, order.Perm h.requests ∧ h.log.filterMap (keyed eventReceived) = order.map Received.row
  processed : h.log.filterMap (keyed eventProcessed) = h.processed.map Processed.row

theorem logged_run (allowed : Handler → Move → Prop) (run : Runs step allowed .init moves final) : Logged final := by
  refine run.invariant Logged ?_ ⟨⟨[],List.Perm.refl _,rfl⟩,rfl⟩
  intro h move next _ taken logged
  obtain ⟨⟨order,perm,received⟩,processed⟩ := logged
  rcases step_cases taken with ⟨request,rfl,rfl⟩ | ⟨i,done,rfl,found,rfl⟩ | ⟨record,rfl,other,rfl⟩
  · refine ⟨⟨order ++ [request],?_,?_⟩,?_⟩
    · exact (perm.append_right [request]).trans (requests_receive h request).symm
    · simp [List.filterMap_append,received,(keyed_received request).1]
    · simp [List.filterMap_append,processed,(keyed_received request).2]
  · refine ⟨⟨order,perm.trans (requests_processed found).symm,?_⟩,?_⟩
    · simp [List.filterMap_append,received,(keyed_processed done).1]
    · simp [List.filterMap_append,processed,(keyed_processed done).2]
  · refine ⟨⟨order,perm,?_⟩,?_⟩
    · simp [List.filterMap_append,received,(keyed_other other).1]
    · simp [List.filterMap_append,processed,(keyed_other other).2]

-- The response that the parser takes for that of a request: the last one logged under the request's id.
def lastResponse (h : Handler) (id : String) : Option Processed := h.processed.reverse.find? (fun p => decide (p.response.id = id))

def hopFor (h : Handler) (received : Received) : TraceHop :=
  ⟨received.envelope.sender,received.envelope.recipient,
    (lastResponse h received.envelope.id).map (fun p => p.duration.toValue)⟩

theorem get_processed (h : Handler) (id : String) :
    (fill (h.processed.map Processed.row)).get id = (lastResponse h id).map Processed.record := by
  rw [get_fill,← List.map_reverse,List.find?_map,Option.map_map]
  rfl

theorem hopOf_received (c : Conversions) (h : Handler) (received : Received) :
    hopOf c (fill (h.processed.map Processed.row)) received.row =
      some (some (sortKey c received.record,hopFor h received)) := by
  have duration : durationOf c ((fill (h.processed.map Processed.row)).get received.envelope.id) =
      some ((lastResponse h received.envelope.id).map (fun p => p.duration.toValue)) := by
    rw [get_processed]
    cases lastResponse h received.envelope.id <;> rfl
  change (durationOf c ((fill (h.processed.map Processed.row)).get received.envelope.id)).map _ = _
  rw [duration]
  rfl

-- With distinct requests the parser gives one hop for each of them.
theorem buildHops_log (c : Conversions) (logged : Logged h) (distinct : (h.requests.map (fun r => r.envelope.id)).Nodup) :
    ∃ hops, buildHops c h.log = some hops ∧ hops.Perm (h.requests.map (hopFor h)) := by
  obtain ⟨⟨order,perm,received⟩,processed⟩ := logged
  have keys : ((order.map Received.row).map Prod.fst).Nodup := by
    rw [List.map_map]
    exact ((perm.map (fun r => r.envelope.id)).nodup_iff).mpr distinct
  let placed := fun r : Received => (sortKey c r.record,hopFor h r)
  have each : hopOf c (fill (h.processed.map Processed.row)) ∘ Received.row = fun r => pure (some (placed r)) :=
    funext (hopOf_received c h)
  have found : (order.map Received.row).mapM (hopOf c (fill (h.processed.map Processed.row))) = some (order.map (fun r => some (placed r))) := by
    rw [List.mapM_map,each,List.mapM_pure]
    rfl
  refine ⟨((order.map placed).insertionSort (fun left right => left.1 ≤ right.1)).map Prod.snd,?_,?_⟩
  · simp only [buildHops,addRecord_fill,received,processed,entries_fill _ keys,found,Option.map_some]
    simp [List.filterMap_map]
  · refine ((List.perm_insertionSort _ _).map Prod.snd).trans ?_
    rw [List.map_map]
    exact perm.map (hopFor h)

-- No two requests share an id, and a response carries its request's id.
def freshId (h : Handler) : Move → Prop
  | .receive received => received.envelope.id ∉ h.requests.map (fun r => r.envelope.id)
  | _ => True

def answersUnderId (h : Handler) : Move → Prop
  | .process i response _ _ => ∀ request, h.waiting[i]? = some request → response.id = request.envelope.id
  | _ => True

theorem distinct_run (run : Runs step freshId .init moves final) :
    (final.requests.map (fun r => r.envelope.id)).Nodup := by
  refine run.invariant (fun h => (h.requests.map (fun r => r.envelope.id)).Nodup) ?_ List.nodup_nil
  intro h move next fresh taken distinct
  rcases step_cases taken with ⟨received,rfl,rfl⟩ | ⟨i,processed,rfl,found,rfl⟩ | ⟨record,rfl,_,rfl⟩
  · refine (((requests_receive h received).map (fun r => r.envelope.id)).nodup_iff).mpr ?_
    rw [List.map_append]
    exact List.Nodup.append distinct (List.nodup_singleton _) (by simpa [freshId] using fresh)
  · exact (((requests_processed found).map (fun r => r.envelope.id)).nodup_iff).mpr distinct
  · exact distinct

theorem answered_run (run : Runs step answersUnderId .init moves final) :
    ∀ p ∈ final.processed, p.response.id = p.request.envelope.id := by
  refine run.invariant (fun h => ∀ p ∈ h.processed, p.response.id = p.request.envelope.id) ?_ (by intro p member; cases member)
  intro h move next own taken answered
  rcases step_cases taken with ⟨received,rfl,rfl⟩ | ⟨i,processed,rfl,found,rfl⟩ | ⟨record,rfl,_,rfl⟩
  · exact answered
  · intro p member
    rcases List.mem_append.mp member with earlier | last
    · exact answered p earlier
    · cases List.mem_singleton.mp last
      exact own _ found
  · exact answered

-- Under its own id a request finds its own response.
theorem lastResponse_own {h : Handler} {p : Processed} (distinct : (h.requests.map (fun r => r.envelope.id)).Nodup)
    (answered : ∀ p ∈ h.processed, p.response.id = p.request.envelope.id) (member : p ∈ h.processed) :
    lastResponse h p.request.envelope.id = some p := by
  have apart : (h.processed.map (fun p => p.request.envelope.id)).Nodup := by
    rw [Handler.requests,List.map_append,List.nodup_append,List.map_map] at distinct
    exact distinct.2.1
  cases found : lastResponse h p.request.envelope.id with
  | none =>
    have missing := List.find?_eq_none.mp found p (List.mem_reverse.mpr member)
    exact absurd (decide_eq_true (answered p member)) missing
  | some other =>
    have inside := List.mem_reverse.mp (List.mem_of_find?_eq_some found)
    have matched := List.find?_some found
    have same := of_decide_eq_true matched
    rw [answered other inside] at same
    exact congrArg some (List.inj_on_of_nodup_map apart inside member same)

def Processed.hop (p : Processed) : TraceHop := ⟨p.request.envelope.sender,p.request.envelope.recipient,some p.duration.toValue⟩

-- Every request that came in has been processed, and the hops are those of the processed requests.
def Reconstructed (c : Conversions) (moves : List Move) (h : Handler) : Prop :=
  (h.processed.map Processed.request).Perm (moves.filterMap Move.received) ∧
    ∃ hops, buildHops c h.log = some hops ∧ hops.Perm (h.processed.map Processed.hop)

theorem hops_reconstruct_run (c : Conversions) (moves : List Move) (final : Handler)
    (run : Runs step (fun h move => freshId h move ∧ answersUnderId h move) .init moves final) (handled : final.waiting = []) :
    Reconstructed c moves final := by
  have distinct := distinct_run (run.mono (fun _ _ both => both.1))
  have answered := answered_run (run.mono (fun _ _ both => both.2))
  have requests : final.requests = final.processed.map Processed.request := by simp [Handler.requests,handled]
  refine ⟨requests ▸ requests_received _ run,?_⟩
  obtain ⟨hops,built,perm⟩ := buildHops_log c (logged_run _ run) distinct
  have own : final.requests.map (hopFor final) = final.processed.map Processed.hop := by
    rw [requests,List.map_map]
    refine List.map_congr_left (fun p member => ?_)
    simp [hopFor,lastResponse_own distinct answered member,Processed.hop]
  exact ⟨hops,built,own ▸ perm⟩

-- Where no response is under the id of a request, as with the ids that handlers draw for
-- their responses, no hop has a duration.
theorem hops_untimed_run (c : Conversions) (run : Runs step freshId .init moves final)
    (drawn : ∀ p ∈ final.processed, p.response.id ∉ final.requests.map (fun r => r.envelope.id)) :
    ∃ hops, buildHops c final.log = some hops ∧
      hops.Perm (final.requests.map (fun r => ⟨r.envelope.sender,r.envelope.recipient,none⟩)) := by
  obtain ⟨hops,built,perm⟩ := buildHops_log c (logged_run _ run) (distinct_run run)
  refine ⟨hops,built,perm.trans (List.Perm.of_eq (List.map_congr_left (fun r member => ?_)))⟩
  have none : lastResponse final r.envelope.id = none := by
    refine List.find?_eq_none.mpr (fun p inside => ?_)
    have other := drawn p (List.mem_reverse.mp inside)
    intro same
    exact other (of_decide_eq_true same ▸ List.mem_map_of_mem member)
  simp [hopFor,none]

-- The conversions of a process whose zone is UTC, as far as integers have a short repr.
def utcConversions : Conversions where
  fromisoformat := fromisoformat
  timestamp t := some ((t.instant - 62135596800000000 : Int) / 1000000)
  floatOfInt n := some (.float n (toString n ++ ".0"))

def sampleRequest (id : String) (timestamp : String) : Received :=
  ⟨⟨id,some "t1","task.request","urn:asap:agent:a","urn:asap:agent:b"⟩,false,⟨timestamp,[]⟩⟩

def sampleResponse (id : String) : Envelope := ⟨id,some "t1","task.response","urn:asap:agent:b","urn:asap:agent:a"⟩

def sampleMoves (firstId secondId : String) : List Move :=
  [.receive (sampleRequest "e1" "2026-01-31T12:00:01Z"),
    .receive (sampleRequest "e2" "2026-01-31T12:00:00Z"),
    .process 1 (sampleResponse secondId) ⟨25,"25.0"⟩ ⟨"2026-01-31T12:00:02Z",[]⟩,
    .process 0 (sampleResponse firstId) ⟨15,"15.0"⟩ ⟨"2026-01-31T12:00:03Z",[]⟩]

def sampleFinal (firstId secondId : String) : Handler := ((execute step anyMove .init (sampleMoves firstId secondId)).getD .init)

theorem sample_fresh (firstId secondId : String) : Runs step freshId .init (sampleMoves firstId secondId) (sampleFinal firstId secondId) := by
  refine .cons _ _ _ _ _ (by simp [freshId,Handler.requests,Handler.init]) rfl ?_
  refine .cons _ _ _ _ _ (by simp [freshId,Handler.requests,Handler.init,sampleRequest]) rfl ?_
  exact .cons _ _ _ _ _ trivial rfl (.cons _ _ _ _ _ trivial rfl (.nil _))

theorem hops_reconstruct_interleaved : Reconstructed utcConversions (sampleMoves "e1" "e2") (sampleFinal "e1" "e2") := by
  refine hops_reconstruct_run utcConversions _ _ ?_ rfl
  refine .cons _ _ _ _ _ ⟨by simp [freshId,Handler.requests,Handler.init],trivial⟩ rfl ?_
  refine .cons _ _ _ _ _ ⟨by simp [freshId,Handler.requests,Handler.init,sampleRequest],trivial⟩ rfl ?_
  refine .cons _ _ _ _ _ ⟨trivial,fun request found => ?_⟩ rfl ?_
  · cases found
    rfl
  refine .cons _ _ _ _ _ ⟨trivial,fun request found => ?_⟩ rfl (.nil _)
  cases found
  rfl

-- A response with an id of its own leaves the hop without its duration.
theorem response_id_unpaired : ¬ (∀ c traceId moves final, (∀ r ∈ moves.filterMap Move.received, r.envelope.traceId = some traceId) →
    Runs step (fun _ _ => True) .init moves final → final.waiting = [] → Reconstructed c moves final) := by
  intro claimed
  have shared : ∀ r ∈ (sampleMoves "r1" "r2").filterMap Move.received, r.envelope.traceId = some "t1" := by
    intro r member
    rcases List.mem_cons.mp member with rfl | later
    · rfl
    · cases List.mem_singleton.mp later
      rfl
  have run : Runs step (fun _ _ => True) .init (sampleMoves "r1" "r2") (sampleFinal "r1" "r2") := execute_free rfl
  obtain ⟨-,hops,built,perm⟩ := claimed utcConversions "t1" _ _ shared run rfl
  have untimed := hops_untimed_run utcConversions (sample_fresh "r1" "r2") (by
    intro p member
    rcases List.mem_cons.mp member with rfl | later
    · decide
    · cases List.mem_singleton.mp later
      decide)
  obtain ⟨others,rebuilt,shuffled⟩ := untimed
  cases Option.some.inj (built.symm.trans rebuilt)
  have timed := shuffled.mem_iff.mp (perm.mem_iff.mpr List.mem_cons_self)
  obtain ⟨r,_,hop⟩ := List.mem_map.mp timed
  cases congrArg TraceHop.durationMs hop

end Asap.TraceHops
