import Asap.WsDelivery

-- A `WebSocketTransport` and the connection loop of the server, with an ordered channel in each
-- direction.
namespace Asap.Ws
open OrderedDict PythonValue Interleaving EnvelopeValidators

-- `_envelope_dict_for_send`
def forSend (envelope : Envelope) : Envelope := {envelope with requiresAck := requiresAck envelope}

-- The envelope in the frame that a step of the client writes.
def frameOf (s : Client) : Event → Option Envelope
  | .call _ envelope _ => some (forSend envelope)
  | .resend =>
    match s.scan with
    | .retransmitting ((_,tracker) :: _) _ => (s.trackers[tracker]?).map (fun pending => forSend pending.envelope)
    | _ => none
  | _ => none

-- `_maybe_send_received_ack`: the envelope that the ack names.
def receivedAck (envelope : Envelope) : List (Option String) :=
  if envelope.requiresAck = true ∧ envelope.id ≠ "" then [some envelope.id] else []

-- `_ws_receive_loop` between two frames, inside `_prepare_request`, inside the handler, and over.
inductive Serving where
  | reading
  | preparing (task : Nat) (envelope : Envelope)
  | handling (envelope : Envelope)
  | closed

-- `requests` are those in preparation on any connection of the server, which share its clock
-- and its nonce store; `executed` are the envelopes that handlers were called with.
structure System where
  client : Client := {}
  toServer : List Envelope := []
  toClient : List Decoded := []
  requests : State
  serving : Serving := .reading
  written : List Envelope := []
  executed : List Envelope := []

inductive SystemEvent where
  | client (event : Event)
  | delivers
  | takes (task : Nat) (acks : List Decoded)
  | rateLimited (reply : Decoded)
  | elsewhere (move : Move Task Input)
  | stamps (now : Int)
  | checks (readings : Readings) (started : Bool)
  | refuses (reply : List Decoded)
  | replies (frames : List Decoded)
  | closes

def System.takes (models : Models) (s : System) (task : Nat) (acks : List Decoded) : Option System :=
  match s.serving,s.toServer with
  | .reading,envelope :: rest =>
    if acks.map (ackedBy models) = receivedAck envelope then
      (program.next s.requests (.arrive task (.received envelope.toEnvelope))).map (fun requests => {s with
        requests := requests
        toServer := rest
        toClient := s.toClient ++ acks
        serving := .preparing task envelope})
    else none
  | _,_ => none

-- The bucket is empty: an error frame, and the connection closes.
def System.rateLimited (s : System) (reply : Decoded) : Option System :=
  match s.serving,s.toServer with
  | .reading,_ :: rest => some {s with toServer := rest,toClient := s.toClient ++ [reply],serving := .closed}
  | _,_ => none

-- The loop's own request is not moved by others.
def System.elsewhere (s : System) (move : Move Task Input) : Option System :=
  match s.serving,move with
  | .preparing task _,.proceed id _ =>
    if id = task then none else (program.next s.requests move).map (fun requests => {s with requests := requests})
  | _,_ => (program.next s.requests move).map (fun requests => {s with requests := requests})

def System.stamps (s : System) (now : Int) : Option System :=
  match s.serving with
  | .preparing task _ => (program.next s.requests (.proceed task (.stamp now))).map (fun requests => {s with requests := requests})
  | _ => none

-- The handler is not called when none is registered or the thread pool is exhausted.
def System.dispatch (s : System) (envelope : Envelope) (started : Bool) : System :=
  {s with serving := .handling envelope,executed := s.executed ++ if started then [envelope] else []}

-- Without a nonce store `validate_envelope_nonce` returns at once.
def System.checks (nonceStore : Bool) (s : System) (readings : Readings) (started : Bool) : Option System :=
  match s.serving with
  | .preparing task envelope =>
    if nonceStore then
      (program.next s.requests (.proceed task (.check readings))).map (fun requests =>
        match requests.tasks.get task with
        | some .passed => {s with requests := requests}.dispatch envelope started
        | _ => {s with requests := requests})
    else match s.requests.tasks.get task with
      | some (.stamped _ _ _) => some (s.dispatch envelope started)
      | _ => none
  | _ => none

-- Authentication, the sender or the envelope itself is refused before the checks, or a check has
-- failed.
def System.refuses (s : System) (reply : List Decoded) : Option System :=
  match s.serving with
  | .preparing task _ =>
    match s.requests.tasks.get task with
    | some (.stamped _ _ _) => none
    | _ => some {s with toClient := s.toClient ++ reply,serving := .reading}
  | _ => none

-- The frames of a handler that has ended: results, an error, a `rejected` ack.
def System.replies (s : System) (frames : List Decoded) : Option System :=
  match s.serving with
  | .handling _ => some {s with toClient := s.toClient ++ frames,serving := .reading}
  | _ => none

section Machine
variable (models : Models) (settings : Settings) (nonceStore : Bool)

def System.delivers (s : System) : Option System :=
  match s.toClient with
  | [] => none
  | frame :: rest => (s.client.next models settings (.frame frame)).map (fun client => {s with client := client,toClient := rest})

def System.clientStep (s : System) (event : Event) : Option System :=
  (s.client.next models settings event).map (fun client => {s with
    client := client
    toServer := s.toServer ++ (frameOf s.client event).toList
    written := s.written ++ (frameOf s.client event).toList})

def System.next (s : System) : SystemEvent → Option System
  | .client (.frame _) => none
  | .client event => s.clientStep models settings event
  | .delivers => s.delivers models settings
  | .takes task acks => s.takes models task acks
  | .rateLimited reply => s.rateLimited reply
  | .elsewhere move => s.elsewhere move
  | .stamps now => s.stamps now
  | .checks readings started => s.checks nonceStore readings started
  | .refuses reply => s.refuses reply
  | .replies frames => s.replies frames
  | .closes => some {s with serving := .closed}

-- What a step does to the channels, to the requests and to the handlers.
inductive Advanced (s : System) : SystemEvent → System → Prop where
  | client (event : Event) (client : Client) (stepped : Stepped models settings s.client event client) :
      Advanced s (.client event) {s with
        client := client
        toServer := s.toServer ++ (frameOf s.client event).toList
        written := s.written ++ (frameOf s.client event).toList}
  | delivers (frame : Decoded) (rest : List Decoded) (client : Client)
      (stepped : Stepped models settings s.client (.frame frame) client) :
      Advanced s .delivers {s with client := client,toClient := rest}
  | takes (task : Nat) (acks frames : List Decoded) (envelope : Envelope) (rest : List Envelope) (requests : State)
      (head : s.toServer = envelope :: rest)
      (arrived : program.next s.requests (.arrive task (.received envelope.toEnvelope)) = some requests) :
      Advanced s (.takes task acks) {s with
        requests := requests
        toServer := rest
        toClient := frames
        serving := .preparing task envelope}
  | drops (event : SystemEvent) (frames : List Decoded) (envelope : Envelope) (rest : List Envelope)
      (head : s.toServer = envelope :: rest) :
      Advanced s event {s with toServer := rest,toClient := frames,serving := .closed}
  | elsewhere (move : Move Task Input) (requests : State) (moved : program.next s.requests move = some requests)
      (foreign : ∀ task envelope, s.serving = .preparing task envelope → ∀ input, move ≠ .proceed task input) :
      Advanced s (.elsewhere move) {s with requests := requests}
  | stamps (now : Int) (task : Nat) (envelope : Envelope) (requests : State) (own : s.serving = .preparing task envelope)
      (moved : program.next s.requests (.proceed task (.stamp now)) = some requests) :
      Advanced s (.stamps now) {s with requests := requests}
  | checks (readings : Readings) (started : Bool) (task : Nat) (envelope : Envelope) (requests : State)
      (own : s.serving = .preparing task envelope) (stored : nonceStore = true)
      (moved : program.next s.requests (.proceed task (.check readings)) = some requests) (next : System)
      (after : next = (match requests.tasks.get task with
        | some .passed => {s with requests := requests}.dispatch envelope started
        | _ => {s with requests := requests})) :
      Advanced s (.checks readings started) next
  | unchecked (readings : Readings) (started : Bool) (task : Nat) (envelope : Envelope)
      (own : s.serving = .preparing task envelope) (unstored : nonceStore = false) :
      Advanced s (.checks readings started) (s.dispatch envelope started)
  | ends (event : SystemEvent) (frames : List Decoded) (serving : Serving)
      (idle : ∀ task envelope, serving ≠ .preparing task envelope) :
      Advanced s event {s with toClient := frames,serving := serving}

theorem system_advanced {s next : System} {event : SystemEvent} (taken : s.next models settings nonceStore event = some next) :
    Advanced models settings nonceStore s event next := by
  cases event with
  | client event =>
    have stepped : s.clientStep models settings event = some next := by
      cases event with
      | frame frame => cases taken
      | _ => exact taken
    obtain ⟨client,moved,rfl⟩ := Option.map_eq_some_iff.mp stepped
    exact .client event client (next_stepped models settings moved)
  | delivers =>
    simp only [System.next,System.delivers] at taken
    split at taken
    · cases taken
    · rename_i frame rest head
      obtain ⟨client,moved,rfl⟩ := Option.map_eq_some_iff.mp taken
      exact .delivers frame rest client (next_stepped models settings moved)
  | takes task acks =>
    simp only [System.next,System.takes] at taken
    split at taken
    · rename_i envelope rest reading head
      split at taken
      · obtain ⟨requests,arrived,rfl⟩ := Option.map_eq_some_iff.mp taken
        exact .takes task acks _ envelope rest requests head arrived
      · cases taken
    · cases taken
  | rateLimited reply =>
    simp only [System.next,System.rateLimited] at taken
    split at taken
    · rename_i envelope rest reading head
      cases taken
      exact .drops _ _ envelope rest head
    · cases taken
  | elsewhere move =>
    simp only [System.next,System.elsewhere] at taken
    split at taken
    · rename_i task envelope id input own
      split at taken
      · cases taken
      · rename_i different
        obtain ⟨requests,moved,rfl⟩ := Option.map_eq_some_iff.mp taken
        refine .elsewhere _ requests moved ?_
        intro task' envelope' own' input' same
        rw [own] at own'
        cases own'
        cases same
        exact different rfl
    · rename_i distinct
      obtain ⟨requests,moved,rfl⟩ := Option.map_eq_some_iff.mp taken
      refine .elsewhere _ requests moved ?_
      intro task envelope own input same
      exact distinct task envelope task input own same
  | stamps now =>
    simp only [System.next,System.stamps] at taken
    split at taken
    · rename_i task envelope own
      obtain ⟨requests,moved,rfl⟩ := Option.map_eq_some_iff.mp taken
      exact .stamps now task envelope requests own moved
    · cases taken
  | checks readings started =>
    simp only [System.next,System.checks] at taken
    split at taken
    · rename_i task envelope own
      split at taken
      · rename_i stored
        obtain ⟨requests,moved,after⟩ := Option.map_eq_some_iff.mp taken
        exact .checks readings started task envelope requests own stored moved next after.symm
      · rename_i unstored
        split at taken
        · cases taken
          exact .unchecked readings started task envelope own (by simpa using unstored)
        · cases taken
    · cases taken
  | refuses reply =>
    simp only [System.next,System.refuses] at taken
    split at taken
    · split at taken
      · cases taken
      · cases taken
        exact .ends _ _ .reading (by intro _ _ same; cases same)
    · cases taken
  | replies frames =>
    simp only [System.next,System.replies] at taken
    split at taken
    · cases taken
      exact .ends _ _ .reading (by intro _ _ same; cases same)
    · cases taken
  | closes =>
    cases taken
    exact .ends _ s.toClient .closed (by intro _ _ same; cases same)

end Machine

-- An envelope whose nonce the server looks at.
def guarded (nonceStore : Bool) (envelope : Envelope) : Bool :=
  nonceStore && (envelope.extensions.bind (fun extensions => extensions.get "nonce")).isSome

-- The client writes a second frame under one envelope id only for an envelope whose nonce the
-- server looks at, and looks at within the slack of the age check.
def Guarded (nonceStore : Bool) (s : System) : SystemEvent → Prop
  | .client (.call _ envelope _) => ∀ earlier ∈ s.written, earlier.id = envelope.id →
    earlier = forSend envelope ∧ guarded nonceStore envelope = true
  | .client .resend => ∀ envelope ∈ frameOf s.client .resend, guarded nonceStore envelope = true
  | .checks readings _ => ∀ task envelope, s.serving = .preparing task envelope → guarded nonceStore envelope = true →
    ∀ checked timestamp stampedAt, s.requests.tasks.get task = some (.stamped checked timestamp stampedAt) →
      readings.checkNow ≤ stampedAt + slack
  | _ => True

section Writing
variable {models : Models} {settings : Settings} {s next : Client} {event : Event}

-- What the client may write again.
def Held (s : Client) (envelope : Envelope) : Prop :=
  (∃ pending ∈ s.trackers, pending.envelope = envelope) ∨ ∃ id r receives, s.calls.get id = some (.sending envelope r receives)

theorem held_before (calls : next.calls = s.calls) (trackers : next.trackers = s.trackers) {envelope : Envelope}
    (held : Held next envelope) : Held s envelope := by
  unfold Held at *
  rwa [calls,trackers] at held

-- A call that goes on holds what it held, and nothing else.
theorem held_goesOn {id : Nat} {new : Call} (goesOn : ∀ envelope r receives, new ≠ .sending envelope r receives)
    (calls : next.calls = s.calls.set id new) (trackers : ∀ pending ∈ next.trackers, Held s pending.envelope) {envelope : Envelope}
    (held : Held next envelope) : Held s envelope := by
  rcases held with ⟨pending,member,rfl⟩ | ⟨other,r,receives,found⟩
  · exact trackers pending member
  · rw [calls] at found
    exact .inr ⟨other,r,receives,sending_before goesOn found⟩

theorem stepped_held (stepped : Stepped models settings s event next) {envelope : Envelope} (held : Held next envelope) :
    Held s envelope ∨ ∃ id receives, event = .call id envelope receives := by
  cases stepped with
  | call id sent receives free =>
    rcases held with tracked | ⟨other,r,receives',found⟩
    · exact .inl (.inl tracked)
    · rw [Dict.get_set] at found
      split at found
      · cases found
        exact .inr ⟨id,receives,rfl⟩
      · exact .inl (.inr ⟨other,r,receives',found⟩)
  | sent id now sent r receives found =>
    refine .inl (held_goesOn ?_ (afterSend_calls ..) ?_ held)
    · intro _ _ _ same
      split at same <;> cases same
    · intro pending member
      rw [afterSend_trackers] at member
      split at member
      · rcases List.mem_append.mp member with old | new
        · exact .inl ⟨pending,old,rfl⟩
        · rw [List.mem_singleton.mp new]
          exact .inr ⟨id,r,receives,found⟩
      · exact .inl ⟨pending,member,rfl⟩
  | sendRaises id sent r receives found =>
    refine .inl (held_goesOn (by intro _ _ _ same; cases same) rfl ?_ held)
    exact fun pending member => .inl ⟨pending,member,rfl⟩
  | timesOut id sent r found waiting => exact .inl (held_before rfl rfl held)
  | resumes id sent r found =>
    refine .inl (held_goesOn (by intro _ _ _ same; cases same) rfl ?_ held)
    exact fun pending member => .inl ⟨pending,member,rfl⟩
  | frame frame running => exact .inl (held_before rfl rfl held)
  | closed => exact .inl (held_before rfl rfl held)
  | scan now asleep queue remove queued removed => exact .inl (held_before rfl rfl held)
  | resend eid tracker queue remove pending turn object => exact .inl (held_before rfl rfl held)
  | counted _ now tracker queue remove which turn =>
    rcases held with ⟨pending,member,rfl⟩ | sending
    · obtain ⟨index,bound,same⟩ := List.mem_iff_getElem.mp member
      have inside : index < s.trackers.length := by simpa [Client.countRetry] using bound
      refine .inl (.inl ⟨s.trackers[index],List.getElem_mem inside,?_⟩)
      rw [← same]
      simp only [Client.countRetry,List.getElem_modify]
      split <;> rfl
    · exact .inl (.inr sending)
  | resendRaises tracker queue remove turn => exact .inl (held_before rfl rfl held)
  | expire remove turn => exact .inl (held_before rfl rfl held)

end Writing

section Frames
variable {models : Models} {settings : Settings} {nonceStore : Bool} {s : System}

-- Frames under one id are of one envelope, repeated only where the server looks at its nonce.
structure Written (nonceStore : Bool) (s : System) : Prop where
  unique : ∀ first ∈ s.written, ∀ second ∈ s.written, first.id = second.id → first = second
  repeated : s.written.Pairwise (fun first second => first.id = second.id → guarded nonceStore second = true)
  held : ∀ envelope, Held s.client envelope → forSend envelope ∈ s.written

theorem frame_repeats (written : Written nonceStore s) {event : Event} (permitted : Guarded nonceStore s (.client event))
    {frame : Envelope} (sent : frameOf s.client event = some frame) :
    ∀ earlier ∈ s.written, earlier.id = frame.id → earlier = frame ∧ guarded nonceStore frame = true := by
  intro earlier member same
  cases event with
  | call id envelope receives =>
    cases sent
    exact permitted earlier member same
  | resend =>
    have again : frame ∈ s.written := by
      have shown := sent
      simp only [frameOf] at shown
      split at shown
      · obtain ⟨pending,object,rfl⟩ := Option.map_eq_some_iff.mp shown
        exact written.held _ (.inl ⟨pending,List.mem_of_getElem? object,rfl⟩)
      · cases shown
    exact ⟨written.unique earlier member frame again same,permitted frame sent⟩
  | _ => cases sent

theorem Written.client (written : Written nonceStore s) {event : Event} {client : Client}
    (permitted : Guarded nonceStore s (.client event)) (stepped : Stepped models settings s.client event client) :
    Written nonceStore {s with
      client := client
      toServer := s.toServer ++ (frameOf s.client event).toList
      written := s.written ++ (frameOf s.client event).toList} := by
  have fresh : ∀ frame ∈ (frameOf s.client event).toList, ∀ earlier ∈ s.written, earlier.id = frame.id →
      earlier = frame ∧ guarded nonceStore frame = true := by
    intro frame member
    exact frame_repeats written permitted (Option.mem_toList.mp member)
  refine ⟨?_,?_,?_⟩
  · intro first left second right same
    rcases List.mem_append.mp left with old | new
    · rcases List.mem_append.mp right with old' | new'
      · exact written.unique first old second old' same
      · exact (fresh second new' first old same).1
    · rcases List.mem_append.mp right with old' | new'
      · exact (fresh first new second old' same.symm).1.symm
      · have one := Option.mem_toList.mp new
        rw [Option.mem_toList.mp new'] at one
        cases one
        rfl
  · apply List.pairwise_append.mpr
    refine ⟨written.repeated,?_,?_⟩
    · cases frameOf s.client event with
      | none => exact List.Pairwise.nil
      | some frame => exact List.pairwise_singleton _ _
    · intro earlier old frame new same
      exact (fresh frame new earlier old same).2
  · intro envelope held
    rcases stepped_held stepped held with before | ⟨id,receives,rfl⟩
    · exact List.mem_append_left _ (written.held envelope before)
    · exact List.mem_append_right _ (by simp [frameOf])

theorem Written.delivers (written : Written nonceStore s) {frame : Decoded} {rest : List Decoded} {client : Client}
    (stepped : Stepped models settings s.client (.frame frame) client) :
    Written nonceStore {s with client := client,toClient := rest} := by
  refine ⟨written.unique,written.repeated,?_⟩
  intro envelope held
  rcases stepped_held stepped held with before | ⟨id,receives,same⟩
  · exact written.held envelope before
  · cases same

theorem advanced_written {next : System} {event : SystemEvent} (advanced : Advanced models settings nonceStore s event next)
    (permitted : Guarded nonceStore s event) (written : Written nonceStore s) : Written nonceStore next := by
  cases advanced with
  | client event client stepped => exact written.client permitted stepped
  | delivers frame rest client stepped => exact written.delivers stepped
  | checks readings started task envelope requests own stored moved _ after =>
    rw [after]
    split
    · exact ⟨written.unique,written.repeated,written.held⟩
    · exact ⟨written.unique,written.repeated,written.held⟩
  | _ => exact ⟨written.unique,written.repeated,written.held⟩

def Serving.current : Serving → Option Envelope
  | .preparing _ envelope => some envelope
  | _ => none

-- The server has read the frames in the order in which they were written, and has called a
-- handler at most once for each.
def InOrder (s : System) : Prop :=
  ∃ read, s.written = read ++ s.toServer ∧ (s.executed ++ s.serving.current.toList).Sublist read

theorem dispatch_inOrder {task : Nat} {envelope : Envelope} (started : Bool) (own : s.serving = .preparing task envelope)
    (ordered : InOrder s) : InOrder (s.dispatch envelope started) := by
  obtain ⟨read,split,called⟩ := ordered
  refine ⟨read,split,?_⟩
  rw [own] at called
  simp only [System.dispatch,Serving.current] at called ⊢
  cases started with
  | true => simpa using called
  | false => simpa using (List.sublist_append_left _ _).trans called

theorem advanced_inOrder {next : System} {event : SystemEvent} (advanced : Advanced models settings nonceStore s event next)
    (ordered : InOrder s) : InOrder next := by
  have idle : (s.executed ++ []).Sublist (s.executed ++ s.serving.current.toList) :=
    (List.append_sublist_append_left s.executed).mpr (List.nil_sublist _)
  cases advanced with
  | client event client stepped =>
    obtain ⟨read,split,called⟩ := ordered
    exact ⟨read,by simp [split],called⟩
  | delivers frame rest client stepped => exact ordered
  | takes task acks frames envelope rest requests head arrived =>
    obtain ⟨read,split,called⟩ := ordered
    refine ⟨read ++ [envelope],by simp [split,head],?_⟩
    exact List.Sublist.append (by simpa using idle.trans called) (List.Sublist.refl _)
  | drops _ frames envelope rest head =>
    obtain ⟨read,split,called⟩ := ordered
    refine ⟨read ++ [envelope],by simp [split,head],?_⟩
    exact (idle.trans called).trans (List.sublist_append_left _ _)
  | elsewhere move requests moved foreign => exact ordered
  | stamps now task envelope requests own moved => exact ordered
  | checks readings started task envelope requests own stored moved _ after =>
    rw [after]
    split
    · exact dispatch_inOrder (s := {s with requests := requests}) started own ordered
    · exact ordered
  | unchecked readings started task envelope own unstored => exact dispatch_inOrder started own ordered
  | ends _ frames serving notPreparing =>
    obtain ⟨read,split,called⟩ := ordered
    refine ⟨read,split,?_⟩
    cases serving with
    | preparing task envelope => exact absurd rfl (notPreparing task envelope)
    | _ => exact idle.trans called

end Frames

-- What the checks of a request find out about its envelope.
section Requests
variable {nonceStore : Bool}

def instantOf (envelope : EnvelopeValidators.Envelope) : Option Int := envelope.timestamp.bind utcTimestamp

def nonceText (envelope : EnvelopeValidators.Envelope) : Option String :=
  match envelope.extensions.bind (fun extensions => extensions.get "nonce") with
  | some (.str nonce) => some nonce
  | _ => none

-- What a nonce store that lets the envelope through has marked.
def markOf (nonceStore : Bool) (envelope : EnvelopeValidators.Envelope) : Option (Int × String) :=
  if nonceStore then (instantOf envelope).bind (fun timestamp => (nonceText envelope).map (fun nonce => (timestamp,nonce))) else none

def Prepares (envelope : EnvelopeValidators.Envelope) : Task → Prop
  | .received checked => checked = envelope
  | .stamped checked timestamp _ => checked = envelope ∧ instantOf envelope = some timestamp
  | _ => True

theorem validateEnvelopeTimestamp_instant {envelope : EnvelopeValidators.Envelope} {now timestamp : Int}
    (valid : validateEnvelopeTimestamp envelope now = .ok timestamp) : instantOf envelope = some timestamp := by
  unfold validateEnvelopeTimestamp at valid
  split at valid
  · cases valid
  · rename_i stamp present
    split at valid
    · cases valid
    · rename_i instant converted
      split at valid
      · cases valid
      · split at valid
        · cases valid
        · cases valid
          simp [instantOf,present,converted]

theorem validateEnvelopeNonce_text {envelope : EnvelopeValidators.Envelope} {s next : NonceStore} {r : Readings} {nonce : Option String}
    (valid : validateEnvelopeNonce envelope s r = (next,.ok nonce)) : nonceText envelope = nonce ∧
      ((envelope.extensions.bind (fun extensions => extensions.get "nonce")).isSome = true → nonce.isSome = true) := by
  unfold validateEnvelopeNonce at valid
  split at valid
  · rename_i absent
    cases valid
    simp [nonceText,absent]
  · rename_i text present
    split at valid
    · cases valid
    · split at valid
      · cases valid
      · cases valid
        simp [nonceText,present]
  · cases valid

theorem advance_stamp {s next : Server} {task task' : Task} {now : Int} {passes : List Pass} {envelope : EnvelopeValidators.Envelope}
    (prepares : Prepares envelope task) (stepped : advance s task (.stamp now) = some (next,task',passes)) :
    Prepares envelope task' ∧ passes = [] := by
  cases task with
  | received checked =>
    cases prepares
    simp only [advance] at stepped
    split at stepped
    · split at stepped
      · cases stepped
        exact ⟨trivial,rfl⟩
      · rename_i timestamp valid
        cases stepped
        exact ⟨⟨rfl,validateEnvelopeTimestamp_instant valid⟩,rfl⟩
    · cases stepped
  | _ => cases stepped

-- A request that passes has marked its nonce, if it has one.
theorem advance_check {s next : Server} {task task' : Task} {r : Readings} {passes : List Pass} {envelope : EnvelopeValidators.Envelope}
    (prepares : Prepares envelope task) (stepped : advance s task (.check r) = some (next,task',passes)) :
    ∃ timestamp stampedAt, task = .stamped envelope timestamp stampedAt ∧ instantOf envelope = some timestamp ∧
      ((∃ error, task' = .rejectedNonce error) ∨ (task' = .passed ∧
        ((envelope.extensions.bind (fun extensions => extensions.get "nonce")).isSome = true → (nonceText envelope).isSome = true) ∧
        passes = (nonceText envelope).toList.map (fun nonce => ⟨timestamp,nonce,stampedAt,r.checkNow⟩))) := by
  cases task with
  | stamped checked timestamp stampedAt =>
    obtain ⟨rfl,instant⟩ := prepares
    refine ⟨timestamp,stampedAt,rfl,instant,?_⟩
    simp only [advance] at stepped
    split at stepped
    · split at stepped
      · cases stepped
        exact .inl ⟨_,rfl⟩
      · rename_i valid
        obtain ⟨text,present⟩ := validateEnvelopeNonce_text valid
        cases stepped
        exact .inr ⟨rfl,by simpa [text] using present,by simp [text]⟩
      · rename_i valid
        obtain ⟨text,present⟩ := validateEnvelopeNonce_text valid
        cases stepped
        exact .inr ⟨rfl,by simp [text],by simp [text]⟩
    · cases stepped
  | _ => cases stepped

theorem requests_holds {m next : State} {move : Move Task Input} (moved : program.next m move = some next)
    (holds : Holds Sound Timely m) : Holds Sound Timely next :=
  run_holds (.cons m next next move [] trivial moved (.nil next) : Runs program.next (fun _ _ => True) m [move] next) holds

theorem requests_log {m next : State} {move : Move Task Input} (moved : program.next m move = some next) : m.log.Sublist next.log := by
  cases move with
  | arrive id task =>
    obtain ⟨_,_,rfl⟩ := program.next_arrive m next id task moved
    exact List.Sublist.refl _
  | proceed id input =>
    obtain ⟨task,store,task',events,_,_,rfl⟩ := program.next_proceed m next id input moved
    exact List.sublist_append_left _ _

-- A request stays as it is while others arrive or go on.
theorem requests_other {m next : State} {move : Move Task Input} (moved : program.next m move = some next) {task : Nat} {state : Task}
    (known : m.tasks.get task = some state) (foreign : ∀ input, move ≠ .proceed task input) : next.tasks.get task = some state := by
  cases move with
  | arrive id arriving =>
    obtain ⟨_,free,rfl⟩ := program.next_arrive m next id arriving moved
    have different : id ≠ task := by
      rintro rfl
      rw [known] at free
      cases free
    exact (Dict.get_set_other _ _ different).trans known
  | proceed id input =>
    obtain ⟨old,store,new,events,_,_,rfl⟩ := program.next_proceed m next id input moved
    have different : id ≠ task := by
      rintro rfl
      exact foreign input rfl
    exact (Dict.get_set_other _ _ different).trans known

-- The handlers called so far, against the nonces marked so far.
structure Checked (nonceStore : Bool) (s : System) : Prop where
  holds : Holds Sound Timely s.requests
  own : ∀ task envelope, s.serving = .preparing task envelope → ∃ state, s.requests.tasks.get task = some state ∧
    Prepares envelope.toEnvelope state
  marks : ∃ passes : List Pass, passes.Sublist s.requests.log ∧
    passes.map Pass.envelope = s.executed.filterMap (fun envelope => markOf nonceStore envelope.toEnvelope) ∧
    ∀ pass ∈ passes, pass.readAt ≤ pass.stampedAt + slack
  marked : ∀ envelope ∈ s.executed, guarded nonceStore envelope = true → (markOf nonceStore envelope.toEnvelope).isSome = true

-- Steps that call no handler.
theorem Checked.aside {s next : System} (checked : Checked nonceStore s) (holds : Holds Sound Timely next.requests)
    (log : s.requests.log.Sublist next.requests.log) (executed : next.executed = s.executed)
    (own : ∀ task envelope, next.serving = .preparing task envelope → ∃ state, next.requests.tasks.get task = some state ∧
      Prepares envelope.toEnvelope state) : Checked nonceStore next := by
  obtain ⟨passes,logged,marks,prompt⟩ := checked.marks
  refine ⟨holds,own,⟨passes,logged.trans log,?_,prompt⟩,?_⟩
  · rw [executed]
    exact marks
  · rw [executed]
    exact checked.marked

-- A request that has passed with `passes`, and the handler that is then called or not.
theorem Checked.dispatches {s : System} {requests : State} {envelope : Envelope} {passes : List Pass} (checked : Checked nonceStore s)
    (started : Bool) (holds : Holds Sound Timely requests) (log : requests.log = s.requests.log ++ passes)
    (mark : passes.map Pass.envelope = (markOf nonceStore envelope.toEnvelope).toList)
    (prompt : ∀ pass ∈ passes, pass.readAt ≤ pass.stampedAt + slack)
    (marked : guarded nonceStore envelope = true → (markOf nonceStore envelope.toEnvelope).isSome = true) :
    Checked nonceStore ({s with requests := requests}.dispatch envelope started) := by
  cases started with
  | false =>
    refine checked.aside holds ?_ (by simp [System.dispatch]) ?_
    · show s.requests.log.Sublist requests.log
      rw [log]
      exact List.sublist_append_left _ _
    · intro task other same
      cases same
  | true =>
    obtain ⟨earlier,logged,marks,early⟩ := checked.marks
    refine ⟨holds,?_,⟨earlier ++ passes,?_,?_,?_⟩,?_⟩
    · intro task other same
      cases same
    · show (earlier ++ passes).Sublist requests.log
      rw [log]
      exact logged.append (List.Sublist.refl _)
    · rw [List.map_append,marks,mark]
      simp only [System.dispatch,if_true,List.filterMap_append]
      cases found : markOf nonceStore envelope.toEnvelope <;> simp [found]
    · intro pass member
      rcases List.mem_append.mp member with old | new
      · exact early pass old
      · exact prompt pass new
    · intro other member
      rcases List.mem_append.mp member with old | new
      · exact checked.marked other old
      · have same : other = envelope := by simpa using new
        rw [same]
        exact marked

theorem checks_checked {s next : System} {readings : Readings} {started : Bool} {task : Nat} {envelope : Envelope} {requests : State}
    (checked : Checked true s) (permitted : Guarded true s (.checks readings started))
    (own : s.serving = .preparing task envelope)
    (moved : program.next s.requests (.proceed task (.check readings)) = some requests)
    (after : next = (match requests.tasks.get task with
      | some .passed => {s with requests := requests}.dispatch envelope started
      | _ => {s with requests := requests})) : Checked true next := by
  have holds := requests_holds moved checked.holds
  have log := requests_log moved
  obtain ⟨state,known,prepares⟩ := checked.own task envelope own
  obtain ⟨state',store,later,passes,known',stepped,rfl⟩ := program.next_proceed _ _ _ _ moved
  rw [known] at known'
  cases known'
  obtain ⟨timestamp,stampedAt,rfl,instant,outcome⟩ := advance_check prepares stepped
  simp only [Dict.get_set_self] at after
  rcases outcome with ⟨error,rfl⟩ | ⟨rfl,present,rfl⟩
  · rw [after]
    refine checked.aside holds log rfl ?_
    intro task' envelope' own'
    rw [own] at own'
    cases own'
    exact ⟨_,Dict.get_set_self _ _ _,trivial⟩
  · rw [after]
    refine checked.dispatches started holds rfl ?_ ?_ ?_
    · cases text : nonceText envelope.toEnvelope <;> simp [markOf,instant,text,Pass.envelope]
    · intro pass member
      obtain ⟨nonce,text,rfl⟩ := List.mem_map.mp member
      have looked : guarded true envelope = true := by
        have some := Option.mem_toList.mp text
        unfold nonceText at some
        split at some
        · rename_i found
          simp [guarded,found]
        · cases some
      exact permitted task envelope own looked _ timestamp stampedAt known
    · intro looked
      have some := present (by simpa [guarded] using looked)
      obtain ⟨nonce,text⟩ := Option.isSome_iff_exists.mp some
      simp [markOf,instant,text]

theorem advanced_checked {models : Models} {settings : Settings} {s next : System} {event : SystemEvent}
    (advanced : Advanced models settings nonceStore s event next) (permitted : Guarded nonceStore s event)
    (checked : Checked nonceStore s) : Checked nonceStore next := by
  cases advanced with
  | client event client stepped => exact checked.aside checked.holds (List.Sublist.refl _) rfl checked.own
  | delivers frame rest client stepped => exact checked.aside checked.holds (List.Sublist.refl _) rfl checked.own
  | takes task acks frames envelope rest requests head arrived =>
    refine checked.aside (requests_holds arrived checked.holds) (requests_log arrived) rfl ?_
    intro task' envelope' own
    cases own
    obtain ⟨_,_,rfl⟩ := program.next_arrive _ _ _ _ arrived
    exact ⟨_,Dict.get_set_self _ _ _,rfl⟩
  | drops _ frames envelope rest head =>
    refine checked.aside checked.holds (List.Sublist.refl _) rfl ?_
    intro task' envelope' own
    cases own
  | elsewhere move requests moved foreign =>
    refine checked.aside (requests_holds moved checked.holds) (requests_log moved) rfl ?_
    intro task envelope own
    obtain ⟨state,known,prepares⟩ := checked.own task envelope own
    exact ⟨state,requests_other moved known (foreign task envelope own),prepares⟩
  | stamps now task envelope requests own moved =>
    refine checked.aside (requests_holds moved checked.holds) (requests_log moved) rfl ?_
    intro task' envelope' own'
    have same : Serving.preparing task envelope = .preparing task' envelope' := own.symm.trans own'
    cases same
    obtain ⟨state,known,prepares⟩ := checked.own task envelope own
    obtain ⟨state',store,later,passes,known',stepped,rfl⟩ := program.next_proceed _ _ _ _ moved
    rw [known] at known'
    cases known'
    exact ⟨later,Dict.get_set_self _ _ _,(advance_stamp prepares stepped).1⟩
  | checks readings started task envelope requests own stored moved _ after =>
    subst stored
    exact checks_checked checked permitted own moved after
  | unchecked readings started task envelope own unstored =>
    subst unstored
    have nothing : markOf false envelope.toEnvelope = none := rfl
    have unlogged : s.requests.log = s.requests.log ++ ([] : List Pass) := (List.append_nil _).symm
    refine checked.dispatches started checked.holds unlogged (by simp [nothing]) (by simp) ?_
    intro looked
    cases looked
  | ends _ frames serving notPreparing =>
    refine checked.aside checked.holds (List.Sublist.refl _) rfl ?_
    intro task envelope own
    exact absurd own (notPreparing task envelope)

end Requests

def System.start (onMessage : Bool) (server : Server) : System where
  client := {connection := {onMessage := onMessage}}
  requests := Machine.init server

theorem written_start (nonceStore onMessage : Bool) (server : Server) : Written nonceStore (System.start onMessage server) := by
  refine ⟨?_,List.Pairwise.nil,?_⟩
  · intro first member
    cases member
  · rintro envelope (⟨pending,member,_⟩ | ⟨id,r,receives,found⟩)
    · cases member
    · cases found

theorem checked_start (nonceStore onMessage : Bool) (server : Server) : Checked nonceStore (System.start onMessage server) := by
  refine ⟨⟨⟨?_,List.Pairwise.nil⟩,?_⟩,?_,⟨[],List.Sublist.refl _,rfl,?_⟩,?_⟩
  · intro pass member
    cases member
  · intro id task found
    cases found
  · intro task envelope own
    cases own
  · intro pass member
    cases member
  · intro envelope member
    cases member

-- Two handlers called for one id would have marked one nonce twice.
theorem executed_distinct {nonceStore : Bool} {s : System} (written : Written nonceStore s) (ordered : InOrder s)
    (checked : Checked nonceStore s) : (s.executed.map (fun envelope => envelope.id)).Nodup := by
  obtain ⟨read,split,called⟩ := ordered
  have sub : s.executed.Sublist s.written := by
    rw [split]
    exact ((List.sublist_append_left _ _).trans called).trans (List.sublist_append_left _ _)
  obtain ⟨passes,logged,marks,prompt⟩ := checked.marks
  have distinct : (passes.map Pass.envelope).Nodup := by
    apply List.pairwise_map.mpr
    apply (checked.holds.1.2.sublist logged).imp_of_mem
    intro first second _ member late same
    have elapsed := late ⟨congrArg Prod.fst same,congrArg Prod.snd same⟩
    exact absurd (prompt second member) (not_le.mpr elapsed)
  rw [marks] at distinct
  apply List.pairwise_map.mpr
  apply ((List.pairwise_filterMap.mp distinct).and (written.repeated.sublist sub)).imp_of_mem
  rintro first second left right ⟨apart,repeated⟩ same
  have equal := written.unique first (sub.subset left) second (sub.subset right) same
  obtain ⟨mark,found⟩ := Option.isSome_iff_exists.mp (checked.marked second right (repeated same))
  exact apart mark (by rw [equal]; exact found) mark found rfl

-- In every run, for every delay of handlers, acks and frames: no handler is called twice for one
-- envelope, if a second frame of it is only written where the server looks at its nonce.
theorem retransmission_idempotent (models : Models) (settings : Settings) (nonceStore onMessage : Bool) (server : Server)
    (events : List SystemEvent) (s : System)
    (run : Runs (System.next models settings nonceStore) (Guarded nonceStore) (System.start onMessage server) events s) :
    (s.executed.map (fun envelope => envelope.id)).Nodup := by
  have invariant : Written nonceStore s ∧ InOrder s ∧ Checked nonceStore s := by
    refine run.invariant (fun s => Written nonceStore s ∧ InOrder s ∧ Checked nonceStore s) ?_
      ⟨written_start nonceStore onMessage server,⟨[],rfl,List.Sublist.refl _⟩,checked_start nonceStore onMessage server⟩
    rintro s event next permitted taken ⟨written,ordered,checked⟩
    have advanced := system_advanced models settings nonceStore taken
    exact ⟨advanced_written advanced permitted written,advanced_inOrder advanced ordered,
      advanced_checked advanced permitted checked⟩
  exact executed_distinct invariant.1 invariant.2.1 invariant.2.2

-- `Guarded`, as far as a run can test it.
def guardCheck (nonceStore : Bool) (s : System) : SystemEvent → Bool
  | .client (.call _ envelope _) => s.written.all (fun earlier => earlier.id ≠ envelope.id)
  | .client .resend => (frameOf s.client .resend).all (guarded nonceStore)
  | .checks readings _ =>
    match s.serving with
    | .preparing task _ =>
      match s.requests.tasks.get task with
      | some (.stamped _ _ stampedAt) => readings.checkNow ≤ stampedAt + slack
      | _ => true
    | _ => true
  | _ => true

theorem guardCheck_sound (nonceStore : Bool) (s : System) (event : SystemEvent) (tested : guardCheck nonceStore s event = true) :
    Guarded nonceStore s event := by
  cases event with
  | client event =>
    cases event with
    | call id envelope receives =>
      intro earlier member same
      have different := List.all_eq_true.mp tested earlier member
      simp [same] at different
    | resend =>
      intro envelope sent
      exact (Option.all_eq_true _ _).mp tested envelope sent
    | _ => trivial
  | checks readings started =>
    intro task envelope own _ checked timestamp stampedAt found
    simpa [guardCheck,own,found] using tested
  | _ => trivial

def stampedRequest (id : String) (nonce : Option String) : Envelope :=
  ⟨⟨id,request.timestamp,nonce.map (fun nonce => ⟨[("nonce",.str nonce)],by simp⟩)⟩,"TaskRequest",none,false,.dict []⟩

def readAt (now : Int) : Readings := ⟨false,now,now,now⟩

-- The handler of the first request takes 32 seconds. The second request waits for it, unread and
-- unacked, and the client writes it again after 30.
def slowHandler (nonce nonce' : Option String) : List SystemEvent :=
  [.client (.call 0 (stampedRequest "e0" nonce) false),.client (.sent 0 0),.takes 0 [ackFrame "e0"],.stamps sentAt,
    .checks (readAt sentAt) true,.delivers,.client (.call 1 (stampedRequest "e1" nonce') false),.client (.sent 1 1000000),
    .client (.scan 32000000),.client .resend,.client (.resent 32000000),.client .expire,.replies [],.takes 1 [ackFrame "e1"],
    .stamps (sentAt + 32000000),.checks (readAt (sentAt + 32000000)) true,.replies [],.takes 2 [ackFrame "e1"],
    .stamps (sentAt + 33000000),.checks (readAt (sentAt + 33000000)) true]

def executedAfter (nonceStore : Bool) (check : System → SystemEvent → Bool) (events : List SystemEvent) : Option (List String) :=
  (execute (System.next sampleModels settingsDefault nonceStore) check (System.start false EnvelopeValidators.server) events).map
    (fun s => s.executed.map (fun envelope => envelope.id))

theorem executed_guarded : executedAfter true (guardCheck true) (slowHandler (some "n0") (some "n1")) = some ["e0","e1"] := by
  decide +kernel

theorem retransmission_idempotent_nonces :
    ∃ s, Runs (System.next sampleModels settingsDefault true) (Guarded true) (System.start false EnvelopeValidators.server)
      (slowHandler (some "n0") (some "n1")) s ∧ s.executed.map (fun envelope => envelope.id) = ["e0","e1"] ∧
        (s.executed.map (fun envelope => envelope.id)).Nodup := by
  obtain ⟨s,ran,shown⟩ := Option.map_eq_some_iff.mp executed_guarded
  have run := (execute_runs (guardCheck true) ran).mono (guardCheck_sound true)
  exact ⟨s,run,shown,retransmission_idempotent sampleModels settingsDefault true false EnvelopeValidators.server _ s run⟩

-- Without a nonce, or without a nonce store, both copies are executed.
theorem executed_unguarded :
    executedAfter true anyMove (slowHandler none none) = some ["e0","e1","e1"] ∧
      executedAfter false anyMove (slowHandler (some "n0") (some "n1")) = some ["e0","e1","e1"] := by
  decide +kernel

theorem retransmission_executed_twice :
    requiresAck (stampedRequest "e1" none) = true ∧
      (∃ s, Runs (System.next sampleModels settingsDefault true) (fun _ _ => True) (System.start false EnvelopeValidators.server)
        (slowHandler none none) s ∧ ¬ (s.executed.map (fun envelope => envelope.id)).Nodup) ∧
      ∃ s, Runs (System.next sampleModels settingsDefault false) (fun _ _ => True) (System.start false EnvelopeValidators.server)
        (slowHandler (some "n0") (some "n1")) s ∧ ¬ (s.executed.map (fun envelope => envelope.id)).Nodup := by
  refine ⟨by decide,?_,?_⟩
  · obtain ⟨s,ran,shown⟩ := Option.map_eq_some_iff.mp executed_unguarded.1
    refine ⟨s,execute_free ran,?_⟩
    rw [shown]
    decide
  · obtain ⟨s,ran,shown⟩ := Option.map_eq_some_iff.mp executed_unguarded.2
    refine ⟨s,execute_free ran,?_⟩
    rw [shown]
    decide

end Asap.Ws
