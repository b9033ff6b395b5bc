import Asap.ApprovalStore

namespace Asap.CapabilityEscalation
open OrderedDict PythonValue AgentIdentity Capabilities ApprovalStore Interleaving

-- The capability registry and the approval store of one server.
structure Escalations where
  registry : CapabilityRegistry
  approvals : Store

-- The agent is active, and host and configuration stay as they are.
structure Context where
  repr : String → String
  host : HostIdentity
  agent : AgentSession
  hostSupportsCiba : Bool
  active : agent.status = .active

def Context.agentId (c : Context) : String := c.agent.agentId

def Context.method (c : Context) : ApprovalMethod := selectApprovalMethod c.host c.hostSupportsCiba none false

variable (c : Context)

-- The specs of a request that go to the approval store; none when the handler
-- answers before it comes to them.
def needsSpecs (s : Escalations) (capabilities : List (Dict String Value)) : List Spec :=
  match (requestCapability c.repr c.host c.agent s.registry capabilities).2 with
  | .ok (needs,_) => needs
  | .error _ => []

def escalationRequest (needs : List Spec) : Request where
  agentId := c.agentId
  method := c.method
  capabilities := needs.map Spec.name
  capabilitySpecs := needs
  approvalKind := .escalation
  principalId := none

-- `_handle_request_capability` as a whole.
def handleRequestCapability (s : Escalations) (now : Int) (userCode : String) (capabilities : List (Dict String Value)) :
    Escalations :=
  let registry := (requestCapability c.repr c.host c.agent s.registry capabilities).1
  match needsSpecs c s capabilities with
  | [] => ⟨registry,s.approvals⟩
  | needs => ⟨registry,(ApprovalStore.get (createApproval s.approvals now userCode (escalationRequest c needs)) now c.agentId).1⟩

-- `_handle_agent_status` for the active agent: an approved escalation is applied and
-- removed; when applying raises the row stays.
def handleAgentStatus (s : Escalations) (now : Int) : Escalations :=
  let (approvals,existing) := ApprovalStore.get s.approvals now c.agentId
  match existing with
  | none => ⟨s.registry,approvals⟩
  | some row =>
    if row.approvalKind ≠ .escalation then ⟨s.registry,approvals⟩
    else match row.status with
      | .pending => ⟨s.registry,approvals⟩
      | .approved =>
        match applyCapabilitySpecsToRegistry c.repr s.registry c.agentId c.host.hostId row.capabilitySpecs with
        | (registry,some _) => ⟨registry,remove approvals c.agentId⟩
        | (registry,none) => ⟨registry,approvals⟩
      | .denied | .expired => ⟨s.registry,remove approvals c.agentId⟩

inductive Call where
  | request (now : Int) (userCode : String) (capabilities : List (Dict String Value))
  | approve (now : Int) (userId : String)
  | poll (now : Int)

def call (s : Escalations) : Call → Option Escalations
  | .request now userCode capabilities => some (handleRequestCapability c s now userCode capabilities)
  | .approve now userId => some {s with approvals := (ApprovalStore.approve s.approvals now c.agentId userId).1}
  | .poll now => some (handleAgentStatus c s now)

theorem needs_requested (s : Escalations) (capabilities : List (Dict String Value)) (spec : Spec)
    (inside : spec ∈ needsSpecs c s capabilities) : spec ∈ escalationSpecs capabilities := by
  unfold needsSpecs requestCapability at inside
  rw [if_neg (not_not.mpr c.active)] at inside
  split at inside
  · rename_i needs payloads outcome
    split at outcome
    · cases outcome
    · simp only at outcome
      split at outcome
      · cases outcome
      · split at outcome
        · cases outcome
          simp only [partitionEscalationCapabilitySpecs,List.mem_filter] at inside
          exact inside.1.1
        · cases outcome
  · cases inside

-- Reading, approving and polling leave the payload of a row alone.
def SameRequest (row row' : ApprovalRequestState) : Prop :=
  row'.method = row.method ∧ row'.approvalKind = row.approvalKind ∧ row'.capabilitySpecs = row.capabilitySpecs

theorem refresh_same (now : Int) (row : ApprovalRequestState) : SameRequest row (refreshExpired now row) := by
  unfold refreshExpired
  split
  · exact ⟨rfl,rfl,rfl⟩
  · split <;> exact ⟨rfl,rfl,rfl⟩

theorem get_same (s : Store) (now : Int) (agentId : String) (row : ApprovalRequestState)
    (found : Dict.get (ApprovalStore.get s now agentId).1 agentId = some row) :
    ∃ old, Dict.get s agentId = some old ∧ SameRequest old row := by
  cases stored : Dict.get s agentId with
  | none =>
    rw [get_absent s now agentId stored] at found
    rw [stored] at found; cases found
  | some raw =>
    rw [get_present s now agentId raw stored,Dict.get_set_self] at found
    cases found
    exact ⟨raw,rfl,refresh_same now raw⟩

theorem approve_same (s : Store) (now : Int) (agentId userId : String) (row : ApprovalRequestState)
    (found : Dict.get (ApprovalStore.approve s now agentId userId).1 agentId = some row) :
    ∃ old, Dict.get s agentId = some old ∧ SameRequest old row := by
  unfold ApprovalStore.approve settle at found
  cases stored : Dict.get s agentId with
  | none => simp [stored] at found
  | some raw =>
    simp only [stored] at found
    split at found
    · rw [Dict.get_set_self] at found
      cases found
      exact ⟨raw,rfl,refresh_same now raw⟩
    · split at found
      · rw [stored] at found; cases found
        exact ⟨_,rfl,rfl,rfl,rfl⟩
      · rw [Dict.get_set_self] at found
        cases found
        exact ⟨raw,rfl,refresh_same now raw⟩

theorem poll_same (s : Escalations) (now : Int) (row : ApprovalRequestState)
    (found : Dict.get (handleAgentStatus c s now).approvals c.agentId = some row) :
    ∃ old, Dict.get s.approvals c.agentId = some old ∧ SameRequest old row := by
  have kept : Dict.get (ApprovalStore.get s.approvals now c.agentId).1 c.agentId = some row := by
    unfold handleAgentStatus at found
    simp only at found
    split at found
    · exact found
    · split at found
      · exact found
      · split at found
        · exact found
        · split at found
          · simp [remove] at found
          · exact found
        · simp [remove] at found
        · simp [remove] at found
  exact get_same s.approvals now c.agentId row kept

-- What a request does to the agent's row.
theorem request_row (s : Escalations) (now : Int) (userCode : String) (capabilities : List (Dict String Value)) :
    (needsSpecs c s capabilities = [] ∧ (handleRequestCapability c s now userCode capabilities).approvals = s.approvals) ∨
    ∃ row flow, Dict.get (handleRequestCapability c s now userCode capabilities).approvals c.agentId = some row ∧
      SameRequest flow row ∧ FlowRow s.approvals now (escalationRequest c (needsSpecs c s capabilities)) flow := by
  unfold handleRequestCapability
  cases needs : needsSpecs c s capabilities with
  | nil => exact .inl ⟨rfl,rfl⟩
  | cons first rest =>
    right
    obtain ⟨flow,found,shape⟩ := createApproval_row s.approvals now userCode (escalationRequest c (first :: rest))
    refine ⟨refreshExpired now flow,flow,?_,refresh_same now flow,shape⟩
    simp only [get_present _ now c.agentId flow found,Dict.get_set_self]

def agentRow (s : Escalations) : Option ApprovalRequestState := Dict.get s.approvals c.agentId

def Call.now : Call → Int
  | .request now _ _ | .approve now _ | .poll now => now

-- No call comes after the deadline of a pending row.
def unexpired (s : Escalations) (call : Call) : Bool :=
  match agentRow c s with
  | some row => decide (row.status = .pending → call.now < deadline row)
  | none => true

-- No request in need of consent comes while an approved escalation waits for its poll,
-- and the constraints of every requested spec are an object or absent.
def spares (s : Escalations) : Call → Bool
  | .request _ _ capabilities =>
    (escalationSpecs capabilities).all acceptable &&
      match agentRow c s with
      | some row => decide (row.approvalKind = .escalation → row.status = .approved → (needsSpecs c s capabilities).isEmpty)
      | none => true
  | _ => true

def safe (s : Escalations) (call : Call) : Bool := unexpired c s call && spares c s call

def MethodKept (s : Escalations) : Prop :=
  ∀ row, agentRow c s = some row → row.approvalKind = .escalation → row.method = c.method

def RowAcceptable (s : Escalations) : Prop :=
  ∀ row, agentRow c s = some row → row.approvalKind = .escalation → ∀ spec ∈ row.capabilitySpecs, acceptable spec = true

theorem call_method (s next : Escalations) (made : Call) (taken : call c s made = some next) (kept : MethodKept c s) :
    MethodKept c next := by
  intro row found kind
  cases made with
  | request now userCode capabilities =>
    cases taken
    rcases request_row c s now userCode capabilities with ⟨_,same⟩ | ⟨stored,flow,here,same,shape⟩
    · unfold agentRow at found
      rw [same] at found
      exact kept row found kind
    · unfold agentRow at found
      rw [here] at found; cases found
      exact same.1.trans shape.1
  | approve now userId =>
    cases taken
    obtain ⟨old,before,same⟩ := approve_same s.approvals now c.agentId userId row found
    exact same.1.trans (kept old before (same.2.1 ▸ kind))
  | poll now =>
    cases taken
    obtain ⟨old,before,same⟩ := poll_same c s now row found
    exact same.1.trans (kept old before (same.2.1 ▸ kind))

theorem call_acceptable (s next : Escalations) (made : Call) (allowed : safe c s made = true)
    (taken : call c s made = some next) (kept : RowAcceptable c s) : RowAcceptable c next := by
  intro row found kind spec inside
  cases made with
  | request now userCode capabilities =>
    cases taken
    simp only [safe,spares,Bool.and_eq_true,List.all_eq_true] at allowed
    have requested : ∀ spec ∈ needsSpecs c s capabilities, acceptable spec = true :=
      fun spec inside => allowed.2.1 spec (needs_requested c s capabilities spec inside)
    rcases request_row c s now userCode capabilities with ⟨_,same⟩ | ⟨stored,flow,here,same,shape⟩
    · unfold agentRow at found
      rw [same] at found
      exact kept row found kind spec inside
    · unfold agentRow at found
      rw [here] at found; cases found
      rw [same.2.2] at inside
      rcases shape.2.2.2 with ⟨old,before,_,_,oldKind,merged⟩ | ⟨alone,_⟩
      · rcases merged with rfl | merged
        · exact kept flow before oldKind spec inside
        · rw [merged] at inside
          rcases List.mem_append.mp (mem_merged inside) with earlier | new
          · exact kept old before oldKind spec earlier
          · exact requested spec new
      · rw [alone] at inside
        exact requested spec inside
  | approve now userId =>
    cases taken
    obtain ⟨old,before,same⟩ := approve_same s.approvals now c.agentId userId row found
    exact kept old before (same.2.1 ▸ kind) spec (same.2.2 ▸ inside)
  | poll now =>
    cases taken
    obtain ⟨old,before,same⟩ := poll_same c s now row found
    exact kept old before (same.2.1 ▸ kind) spec (same.2.2 ▸ inside)

theorem unexpired_pending (s : Escalations) (made : Call) (row : ApprovalRequestState) (fresh : unexpired c s made = true)
    (found : agentRow c s = some row) (pending : row.status = .pending) : refreshExpired made.now row = row := by
  have alive : made.now < deadline row := by
    simp only [unexpired,found,decide_eq_true_eq] at fresh
    exact fresh pending
  unfold refreshExpired
  rw [if_neg (not_not.mpr pending),if_neg (by omega)]

-- A request on a pending escalation row keeps its specs.
theorem request_keeps (s : Escalations) (now : Int) (userCode : String) (capabilities : List (Dict String Value))
    (row : ApprovalRequestState) (kept : MethodKept c s) (fresh : unexpired c s (.request now userCode capabilities) = true)
    (found : agentRow c s = some row) (pending : row.status = .pending) (kind : row.approvalKind = .escalation) :
    ∃ row', agentRow c (handleRequestCapability c s now userCode capabilities) = some row' ∧
      row'.approvalKind = .escalation ∧ KeptIn row.capabilitySpecs (needsSpecs c s capabilities) row'.capabilitySpecs := by
  have method := kept row found kind
  rcases request_row c s now userCode capabilities with ⟨_,same⟩ | ⟨stored,flow,here,same,shape⟩
  · refine ⟨row,?_,kind,.refl _ _⟩
    unfold agentRow
    rw [same]
    exact found
  · refine ⟨stored,here,same.2.1.trans shape.2.1,?_⟩
    rw [same.2.2]
    rcases shape.2.2.2 with ⟨old,before,_,_,_,merged⟩ | ⟨_,none_pending⟩
    · cases Option.some.inj (found.symm.trans before)
      rcases merged with rfl | merged
      · exact .refl _ _
      · rw [merged]
        exact merged_keeps row.capabilitySpecs (needsSpecs c s capabilities)
    · exfalso
      have alive : refreshExpired now row = row := unexpired_pending c s _ row fresh found pending
      apply none_pending row found method kind
      rw [alive]
      exact pending

-- An approved escalation with these specs waits for its poll.
def Owed (specs : List Spec) (s : Escalations) : Prop :=
  ∃ row, agentRow c s = some row ∧ row.status = .approved ∧ row.approvalKind = .escalation ∧ row.capabilitySpecs = specs

def Call.isPoll : Call → Bool
  | .poll _ => true
  | _ => false

theorem approve_owes (s next : Escalations) (now : Int) (userId : String) (row : ApprovalRequestState)
    (fresh : unexpired c s (.approve now userId) = true) (found : agentRow c s = some row) (pending : row.status = .pending)
    (kind : row.approvalKind = .escalation) (taken : call c s (.approve now userId) = some next) :
    Owed c row.capabilitySpecs next := by
  have same := unexpired_pending c s _ row fresh found pending
  cases taken
  refine ⟨{row with status := .approved,approvedBy := some userId},?_,rfl,kind,rfl⟩
  unfold agentRow at found ⊢
  simp only [Call.now] at same
  simp [ApprovalStore.approve,settle,found,same,pending,Dict.get_set_self]

theorem approved_again (s : Store) (now : Int) (agentId userId : String) (row : ApprovalRequestState)
    (found : Dict.get s agentId = some row) (approved : row.status = .approved) :
    (ApprovalStore.approve s now agentId userId).1 = s := by
  have same : refreshExpired now row = row := by simp [refreshExpired,approved]
  simp [ApprovalStore.approve,settle,found,same,approved]

theorem call_owed (s next : Escalations) (made : Call) (specs : List Spec) (allowed : safe c s made = true)
    (other : made.isPoll = false) (taken : call c s made = some next) (owed : Owed c specs s) : Owed c specs next := by
  obtain ⟨row,found,approved,kind,content⟩ := owed
  cases made with
  | request now userCode capabilities =>
    cases taken
    simp only [safe,spares,found,Bool.and_eq_true,decide_eq_true_eq] at allowed
    have none_needed : needsSpecs c s capabilities = [] := List.isEmpty_iff.mp (allowed.2.2 kind approved)
    refine ⟨row,?_,approved,kind,content⟩
    unfold agentRow handleRequestCapability
    rw [none_needed]
    exact found
  | approve now userId =>
    cases taken
    refine ⟨row,?_,approved,kind,content⟩
    unfold agentRow
    simp only [approved_again s.approvals now c.agentId userId row found approved]
    exact found
  | poll now => cases other

theorem poll_applies (s next : Escalations) (now : Int) (specs : List Spec) (owed : Owed c specs s)
    (fine : RowAcceptable c s) (taken : call c s (.poll now) = some next) :
    ∃ payloads, applyCapabilitySpecsToRegistry c.repr s.registry c.agentId c.host.hostId specs =
        (next.registry,some payloads) ∧
      payloads.map AppliedGrant.capability = specs.map Spec.name := by
  obtain ⟨row,found,approved,kind,rfl⟩ := owed
  obtain ⟨payloads,done,names⟩ := applyLoop_completes c.repr s.registry s.registry c.agentId c.host.hostId
    row.capabilitySpecs [] (fun _ => rfl) (fine row found kind)
  refine ⟨payloads,?_,names⟩
  have same : refreshExpired now row = row := by simp [refreshExpired,approved]
  cases applied : applyCapabilitySpecsToRegistry c.repr s.registry c.agentId c.host.hostId row.capabilitySpecs with
  | mk registry outcome =>
    have completed : outcome = some payloads := by
      have second := congrArg Prod.snd applied
      exact second.symm.trans done
    subst completed
    cases taken
    unfold handleAgentStatus
    simp [get_present s.approvals now c.agentId row found,same,kind,approved,applied]

-- A server on which no escalation of the agent is stored yet.
def Fresh (s : Escalations) : Prop := ∀ row, agentRow c s = some row → row.approvalKind ≠ .escalation

-- Without an expiry, a request keeps the specs of a pending escalation. In the runs
-- that are also safe, what an escalation held when it was approved is what the next
-- poll applies, to the last spec.
theorem escalations_applied (start s : Escalations) (calls : List Call) (fresh : Fresh c start) :
    (Runs (call c) (fun s made => unexpired c s made = true) start calls s →
      ∀ row now userCode capabilities, agentRow c s = some row → row.status = .pending → row.approvalKind = .escalation →
        unexpired c s (.request now userCode capabilities) = true →
        ∃ row', agentRow c (handleRequestCapability c s now userCode capabilities) = some row' ∧
          row'.approvalKind = .escalation ∧
          KeptIn row.capabilitySpecs (needsSpecs c s capabilities) row'.capabilitySpecs) ∧
    (Runs (call c) (fun s made => safe c s made = true) start calls s →
      ∀ row now userId later waiting pollNow polled, agentRow c s = some row → row.status = .pending →
        row.approvalKind = .escalation →
        Runs (call c) (fun s made => safe c s made = true ∧ made.isPoll = false) s (.approve now userId :: later) waiting →
        call c waiting (.poll pollNow) = some polled →
        ∃ payloads, applyCapabilitySpecsToRegistry c.repr waiting.registry c.agentId c.host.hostId row.capabilitySpecs =
            (polled.registry,some payloads) ∧
          payloads.map AppliedGrant.capability = row.capabilitySpecs.map Spec.name) := by
  constructor
  · intro run row now userCode capabilities found pending kind unexpired
    have kept := run.invariant (MethodKept c) (fun s made next _ taken => call_method c s next made taken)
      (fun row known escalation => absurd escalation (fresh row known))
    exact request_keeps c s now userCode capabilities row kept unexpired found pending kind
  · intro run row now userId later waiting pollNow polled found pending kind approving taken
    have fine := run.invariant (RowAcceptable c) (fun s made next allowed taken => call_acceptable c s next made allowed taken)
      (fun row known escalation => absurd escalation (fresh row known))
    have fineLater := approving.invariant (RowAcceptable c)
      (fun s made next allowed taken => call_acceptable c s next made allowed.1 taken) fine
    cases approving with
    | cons _ next _ _ _ allowed approved remaining =>
      have unexpired : unexpired c s (.approve now userId) = true := by
        have both := allowed.1
        simp only [safe,Bool.and_eq_true] at both
        exact both.1
      have owed := approve_owes c s next now userId row unexpired found pending kind approved
      have owedLater := remaining.invariant (Owed c row.capabilitySpecs)
        (fun s made next allowed taken => call_owed c s next made _ allowed.1 allowed.2 taken) owed
      exact poll_applies c waiting polled pollNow row.capabilitySpecs owedLater fineLater taken

def deskHost : HostIdentity where
  hostId := "h1"
  publicKey := firstKey
  status := .active

def desk : Context where
  repr := quoted
  host := deskHost
  agent := liveSession
  hostSupportsCiba := true
  active := rfl

def fileRegistry : CapabilityRegistry where
  definitions := ⟨[("file:read",⟨"file:read","read files"⟩),("file:write",⟨"file:write","write files"⟩)],by simp⟩
  grants := .empty
  keyed := Capabilities.ungranted_keyed

def deskStart : Escalations := ⟨fileRegistry,.empty⟩

def asking (now : Int) (name : String) : Call := .request now "AB12CD34" [⟨[("name",.str name)],Capabilities.named_distinct name⟩]

theorem desk_fresh : Fresh desk deskStart := by
  intro row found
  cases found

-- What the row held before the approval, and whether reading is granted after the poll.
def outcome (check : Escalations → Call → Bool) (between : List Call) : Option (ApprovalStatus × ApprovalKind × List String × Bool) :=
  (execute (call desk) check deskStart [asking 0 "file:read"]).bind (fun s =>
    (agentRow desk s).bind (fun row =>
      (execute (call desk) (fun s made => check s made && !made.isPoll) s (.approve 1 "user-1" :: between)).bind (fun waiting =>
        (call desk waiting (.poll 3)).map (fun polled =>
          (row.status,row.approvalKind,row.capabilitySpecs.map Spec.name,
            ((polled.registry.grantsOf "a1").get "file:read").isSome)))))

theorem outcome_parts (check : Escalations → Call → Bool) (between : List Call)
    (ended : outcome check between = some (status,kind,names,readable)) :
    ∃ s row waiting polled, Runs (call desk) (fun s made => check s made = true) deskStart [asking 0 "file:read"] s ∧
      agentRow desk s = some row ∧ row.status = status ∧ row.approvalKind = kind ∧ row.capabilitySpecs.map Spec.name = names ∧
      Runs (call desk) (fun s made => check s made = true ∧ made.isPoll = false) s (.approve 1 "user-1" :: between) waiting ∧
      call desk waiting (.poll 3) = some polled ∧ ((polled.registry.grantsOf "a1").get "file:read").isSome = readable := by
  obtain ⟨s,first,ended⟩ := Option.bind_eq_some_iff.mp ended
  obtain ⟨row,found,ended⟩ := Option.bind_eq_some_iff.mp ended
  obtain ⟨waiting,second,ended⟩ := Option.bind_eq_some_iff.mp ended
  obtain ⟨polled,taken,ended⟩ := Option.map_eq_some_iff.mp ended
  cases ended
  exact ⟨s,row,waiting,polled,execute_runs check first,found,rfl,rfl,rfl,
    (execute_runs _ second).mono (fun s made both => by simpa using both),taken,rfl⟩

theorem reading_applied : outcome (safe desk) [] = some (.pending,.escalation,["file:read"],true) := by decide +kernel

theorem reading_overwritten : outcome (unexpired desk) [asking 2 "file:write"] =
    some (.pending,.escalation,["file:read"],false) := by
  decide +kernel

theorem escalations_applied_reading :
    ∃ specs waiting polled payloads, specs.map Spec.name = ["file:read"] ∧ call desk waiting (.poll 3) = some polled ∧
      applyCapabilitySpecsToRegistry quoted waiting.registry "a1" "h1" specs = (polled.registry,some payloads) ∧
      payloads.map AppliedGrant.capability = ["file:read"] := by
  obtain ⟨s,row,waiting,polled,run,found,pending,kind,names,approving,taken,_⟩ := outcome_parts (safe desk) [] reading_applied
  obtain ⟨payloads,applied,listed⟩ := (escalations_applied desk deskStart s _ desk_fresh).2 run row 1 "user-1" [] waiting 3
    polled found pending kind approving taken
  exact ⟨row.capabilitySpecs,waiting,polled,payloads,names,taken,applied,listed.trans names⟩

-- Asking for writing after the approval and before the poll: reading is never granted.
theorem approved_escalation_lost :
    ∃ s row waiting polled, Fresh desk deskStart ∧
      Runs (call desk) (fun s made => unexpired desk s made = true) deskStart [asking 0 "file:read"] s ∧
      agentRow desk s = some row ∧ row.status = .pending ∧ row.approvalKind = .escalation ∧
      row.capabilitySpecs.map Spec.name = ["file:read"] ∧
      Runs (call desk) (fun s made => unexpired desk s made = true ∧ made.isPoll = false) s
        [.approve 1 "user-1",asking 2 "file:write"] waiting ∧
      call desk waiting (.poll 3) = some polled ∧ ((polled.registry.grantsOf "a1").get "file:read").isSome = false := by
  obtain ⟨s,row,waiting,polled,parts⟩ := outcome_parts (unexpired desk) [asking 2 "file:write"] reading_overwritten
  exact ⟨s,row,waiting,polled,desk_fresh,parts⟩

end Asap.CapabilityEscalation
