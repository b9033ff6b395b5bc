import Asap.SelfAuth

-- When applying capability specs is all or nothing, and what a failing grant step leaves
-- behind in a registration and in a status call.
namespace Asap.GrantAtomicity
open OrderedDict PythonValue AgentIdentity Capabilities ApprovalStore
open SelfAuth (Config Server Registration register registerGranted agentStatus settleRegistration escalating)
open AgentRegistration (findExisting newSession)

section Registry
variable (repr : String → String) (r : CapabilityRegistry) (agentId hostId : String)

-- Every named spec has its grant, or the call raises and the registry is as it was.
def AllOrNothing (specs : List Spec) : Prop :=
  match applyCapabilitySpecsToRegistry repr r agentId hostId specs with
  | (next,some _) => ∀ spec ∈ specs, ∃ grant, (next.grantsOf agentId).get spec.name = some grant
  | (next,none) => next = r

-- A spec whose grant would be written under a defined capability and is refused: its constraints
-- are neither absent nor an object.
def refuses (spec : Spec) : Bool :=
  (r.describe spec.name).isSome && !acceptable spec &&
    (match (r.grantsOf agentId).get spec.name with
      | none => true
      | some grant => autoGrantWouldReplaceExistingGrant (some grant) spec.constraints)

def denial (spec : Spec) : CapabilityGrant where
  capability := spec.name
  status := .denied
  grantedBy := some hostId
  reason := some ("capability " ++ repr spec.name ++ " not found")

-- A spec that leaves the registry as it is: its grant is kept, or its denial is there already.
def Idle (spec : Spec) : Prop :=
  ∃ grant, (r.grantsOf agentId).get spec.name = some grant ∧
    (autoGrantWouldReplaceExistingGrant (some grant) spec.constraints = false ∨
      r.describe spec.name = none ∧ grant = denial repr hostId spec)

-- No spec is refused, or those before the first refused one change nothing.
def Orderly (specs : List Spec) : Prop :=
  (∀ spec ∈ specs, refuses r agentId spec = false) ∨
    ∀ spec ∈ specs.takeWhile (fun spec => !refuses r agentId spec), Idle repr r agentId hostId spec

theorem granted_none (definition : Option CapabilityDefinition) (spec : Spec) :
    granted repr definition hostId spec = none ↔ definition.isSome = true ∧ acceptable spec = false := by
  unfold granted acceptable
  cases definition with
  | none => simp
  | some _ => cases constraintsField spec.constraints <;> simp

theorem verdict_raised (spec : Spec) : verdict repr r agentId hostId spec = .raised ↔ refuses r agentId spec = true := by
  have raised : ∀ outcome : Option CapabilityGrant, storing outcome = .raised ↔ outcome = none := by
    intro outcome
    cases outcome <;> simp [storing]
  unfold verdict refuses
  cases (r.grantsOf agentId).get spec.name with
  | none => simp [raised,granted_none]
  | some grant =>
    by_cases replaces : autoGrantWouldReplaceExistingGrant (some grant) spec.constraints = true
    · simp [replaces,raised,granted_none]
    · simp [replaces]

theorem takeWhile_reached (specs : List Spec) :
    specs.takeWhile (fun spec => !refuses r agentId spec) = reached repr r agentId hostId specs := by
  induction specs with
  | nil => rfl
  | cons spec rest ih =>
    unfold reached
    have raised := verdict_raised repr r agentId hostId spec
    cases refused : refuses r agentId spec with
    | true => simp [refused,raised.mpr refused]
    | false =>
      rw [List.takeWhile_cons_of_pos (by simp [refused]),ih]
      cases judged : verdict repr r agentId hostId spec with
      | raised =>
        rw [raised.mp judged] at refused
        cases refused
      | kept _ | stored _ => rfl

-- The loop raises where some spec is refused, judged on the registry before it.
theorem applyLoop_raises (before : CapabilityRegistry) (specs : List Spec) (payloads : List AppliedGrant)
    (same : ∀ name, r.describe name = before.describe name) :
    (applyLoop repr agentId hostId (grantsByName (before.getGrants agentId)) r specs payloads).2 = none ↔
      ∃ spec ∈ specs, refuses before agentId spec = true := by
  induction specs generalizing r payloads with
  | nil => simp [applyLoop]
  | cons spec rest ih =>
    rw [applyLoop_step repr r before agentId hostId spec rest payloads same]
    have raised := verdict_raised repr before agentId hostId spec
    cases judged : verdict repr before agentId hostId spec with
    | raised => simp [raised.mp judged]
    | kept grant =>
      have fine : refuses before agentId spec = false := by
        by_contra refused
        rw [raised.mpr (by simpa using refused)] at judged
        cases judged
      simpa [fine] using ih r (payloads ++ [appliedGrantPayload grant]) same
    | stored grant =>
      have fine : refuses before agentId spec = false := by
        by_contra refused
        rw [raised.mpr (by simpa using refused)] at judged
        cases judged
      simpa [fine] using ih (r.put agentId grant) (payloads ++ [appliedGrantPayload grant]) same

theorem applied_raises (specs : List Spec) :
    (applyCapabilitySpecsToRegistry repr r agentId hostId specs).2 = none ↔ ∃ spec ∈ specs, refuses r agentId spec = true :=
  applyLoop_raises repr r agentId hostId r specs [] (fun _ => rfl)

theorem registry_ext {left right : CapabilityRegistry} (definitions : left.definitions = right.definitions)
    (grants : left.grants = right.grants) : left = right := by
  cases left; cases right; cases definitions; cases grants; rfl

theorem put_present (grant : CapabilityGrant) (found : (r.grantsOf agentId).get grant.capability = some grant) :
    r.put agentId grant = r := by
  apply registry_ext
  · rfl
  · have same := Dict.set_present (r.grantsOf agentId) found
    change r.grants.set agentId ((r.grantsOf agentId).set grant.capability grant) = r.grants
    rw [same]
    apply Dict.set_present
    unfold CapabilityRegistry.grantsOf at found ⊢
    cases stored : r.grants.get agentId with
    | none =>
      rw [stored] at found
      cases found
    | some grants => rfl

theorem idle_put {spec : Spec} {grant : CapabilityGrant} (idle : Idle repr r agentId hostId spec)
    (stored : verdict repr r agentId hostId spec = .stored grant) : r.put agentId grant = r := by
  obtain ⟨existing,found,kept | ⟨missing,same⟩⟩ := idle
  · have replaces := (verdict_stored repr r agentId hostId spec stored).2 existing found
    rw [kept] at replaces
    cases replaces
  · have written := (verdict_stored repr r agentId hostId spec stored).1
    rw [missing] at written
    have denied : grant = existing := (Option.some.inj written).symm.trans same.symm
    have own := granted_capability repr _ hostId spec written
    apply put_present
    rw [own,denied]
    exact found

theorem idle_applied (specs : List Spec) (payloads : List AppliedGrant)
    (idle : ∀ spec ∈ specs.takeWhile (fun spec => !refuses r agentId spec), Idle repr r agentId hostId spec)
    (raised : ∃ spec ∈ specs, refuses r agentId spec = true) :
    (applyLoop repr agentId hostId (grantsByName (r.getGrants agentId)) r specs payloads).1 = r := by
  induction specs generalizing payloads with
  | nil =>
    obtain ⟨_,member,_⟩ := raised
    cases member
  | cons spec rest ih =>
    rw [applyLoop_step repr r r agentId hostId spec rest payloads (fun _ => rfl)]
    have decided := verdict_raised repr r agentId hostId spec
    cases refused : refuses r agentId spec with
    | true => simp [decided.mpr refused]
    | false =>
      rw [List.takeWhile_cons_of_pos (by simp [refused])] at idle
      have later : ∃ spec ∈ rest, refuses r agentId spec = true := by simpa [refused] using raised
      cases judged : verdict repr r agentId hostId spec with
      | raised => simp [decided.mp judged] at refused
      | kept grant => exact ih _ (fun other member => idle other (List.mem_cons_of_mem _ member)) later
      | stored grant =>
        simp only [idle_put repr r agentId hostId (idle spec List.mem_cons_self) judged]
        exact ih _ (fun other member => idle other (List.mem_cons_of_mem _ member)) later

-- An active grant is not written over an equal one.
theorem stored_unlike {spec : Spec} {grant : CapabilityGrant} (stored : verdict repr r agentId hostId spec = .stored grant)
    (same : (r.grantsOf agentId).get spec.name = some grant) :
    r.describe spec.name = none ∧ grant = denial repr hostId spec := by
  obtain ⟨written,replaces⟩ := verdict_stored repr r agentId hostId spec stored
  cases described : r.describe spec.name with
  | none =>
    rw [described] at written
    exact ⟨rfl,(Option.some.inj written).symm⟩
  | some definition =>
    rw [described] at written
    obtain ⟨constraints,checked,made⟩ := Option.map_eq_some_iff.mp written
    have replaced := replaces grant same
    rw [← constraintsField_value checked] at replaced
    exact (replaces_changed grant constraints replaced (by rw [← made]) (by rw [← made]; exact Value.same_refl _) (by rw [← made])).elim

theorem verdict_kept {spec : Spec} {grant : CapabilityGrant} (kept : verdict repr r agentId hostId spec = .kept grant) :
    (r.grantsOf agentId).get spec.name = some grant ∧ autoGrantWouldReplaceExistingGrant (some grant) spec.constraints = false := by
  unfold verdict at kept
  split at kept
  · exact absurd kept (storing_not_kept _ grant)
  · rename_i existing found
    split at kept
    · exact absurd kept (storing_not_kept _ grant)
    · rename_i keeps
      cases kept
      exact ⟨found,by simpa using keeps⟩

theorem unchanged_idle (specs : List Spec) (unchanged : (applyCapabilitySpecsToRegistry repr r agentId hostId specs).1 = r) :
    ∀ spec ∈ specs.takeWhile (fun spec => !refuses r agentId spec), Idle repr r agentId hostId spec := by
  intro spec member
  rw [takeWhile_reached repr r agentId hostId specs] at member
  obtain ⟨_,judged⟩ := reached_judged repr r agentId hostId specs spec member
  cases outcome : verdict repr r agentId hostId spec with
  | raised => exact absurd outcome judged
  | kept grant =>
    obtain ⟨found,keeps⟩ := verdict_kept repr r agentId hostId outcome
    exact ⟨grant,found,.inl keeps⟩
  | stored grant =>
    obtain ⟨last,left⟩ := reached_lastStored repr r agentId hostId specs spec member outcome
    have after := applied_get repr r agentId hostId specs spec.name
    rw [unchanged,left,Option.some_or] at after
    obtain ⟨writer,_,named,stored⟩ := lastStored_reached repr r agentId hostId spec.name specs left
    obtain ⟨missing,same⟩ := stored_unlike repr r agentId hostId stored (named ▸ after)
    rw [named] at missing
    refine ⟨last,after,.inr ⟨missing,?_⟩⟩
    rw [same]
    unfold denial
    rw [named]

theorem applied_grants (specs : List Spec) (fine : ∀ spec ∈ specs, refuses r agentId spec = false) (spec : Spec) (member : spec ∈ specs) :
    ∃ grant, ((applyCapabilitySpecsToRegistry repr r agentId hostId specs).1.grantsOf agentId).get spec.name = some grant := by
  rw [applied_get]
  have inside : spec ∈ reached repr r agentId hostId specs := by
    rw [← takeWhile_reached,List.takeWhile_eq_self_iff.mpr (by simpa using fine)]
    exact member
  cases outcome : verdict repr r agentId hostId spec with
  | raised =>
    have refused := fine spec member
    rw [(verdict_raised repr r agentId hostId spec).mp outcome] at refused
    cases refused
  | kept grant =>
    rw [(verdict_kept repr r agentId hostId outcome).1]
    cases lastStored repr r agentId hostId spec.name specs with
    | none => exact ⟨grant,rfl⟩
    | some last => exact ⟨last,rfl⟩
  | stored grant =>
    obtain ⟨last,left⟩ := reached_lastStored repr r agentId hostId specs spec inside outcome
    exact ⟨last,by rw [left,Option.some_or]⟩

theorem allOrNothing_iff (specs : List Spec) : AllOrNothing repr r agentId hostId specs ↔ Orderly repr r agentId hostId specs := by
  unfold AllOrNothing Orderly
  have raises := applied_raises repr r agentId hostId specs
  by_cases fine : ∀ spec ∈ specs, refuses r agentId spec = false
  · refine iff_of_true ?_ (.inl fine)
    have grants := applied_grants repr r agentId hostId specs fine
    cases applied : applyCapabilitySpecsToRegistry repr r agentId hostId specs with
    | mk next payloads =>
      rw [applied] at grants raises
      cases payloads with
      | none =>
        obtain ⟨spec,member,refused⟩ := raises.mp rfl
        rw [fine spec member] at refused
        cases refused
      | some payloads => exact grants
  · have refused : ∃ spec ∈ specs, refuses r agentId spec = true := by simpa using fine
    have failed := raises.mpr refused
    have unchanged : (applyCapabilitySpecsToRegistry repr r agentId hostId specs).1 = r ↔
        ∀ spec ∈ specs.takeWhile (fun spec => !refuses r agentId spec), Idle repr r agentId hostId spec :=
      ⟨unchanged_idle repr r agentId hostId specs,fun idle => idle_applied repr r agentId hostId specs [] idle refused⟩
    cases applied : applyCapabilitySpecsToRegistry repr r agentId hostId specs with
    | mk next payloads =>
      rw [applied] at failed unchanged
      cases failed
      exact unchanged.trans (by simp [fine])

theorem applyLoop_describe (existing : Dict String CapabilityGrant) (specs : List Spec) (payloads : List AppliedGrant) (name : String) :
    (applyLoop repr agentId hostId existing r specs payloads).1.describe name = r.describe name := by
  induction specs generalizing r payloads with
  | nil => rfl
  | cons spec rest ih =>
    have wrote (next : CapabilityRegistry) (grant : CapabilityGrant) (made : grantSpec repr r agentId hostId spec = some (next,grant)) :
        next.describe name = r.describe name := by
      rw [grantSpec_granted] at made
      obtain ⟨_,_,pair⟩ := Option.map_eq_some_iff.mp made
      cases pair
      rfl
    unfold applyLoop
    cases existing.get spec.name with
    | none =>
      cases made : grantSpec repr r agentId hostId spec with
      | none => rfl
      | some pair => exact (ih pair.1 _).trans (wrote pair.1 pair.2 made)
    | some grant =>
      simp only
      split
      · cases made : grantSpec repr r agentId hostId spec with
        | none => rfl
        | some pair => exact (ih pair.1 _).trans (wrote pair.1 pair.2 made)
      · exact ih r _

-- The registry has what the spec asks for: its constraints, or a denial where nothing is defined.
def Answered (spec : Spec) : Prop :=
  ∃ grant, (r.grantsOf agentId).get spec.name = some grant ∧
    (r.describe spec.name = none ∨ constraintsField spec.constraints = some grant.constraints)

-- A refused spec has no answer, before the loop or after it.
theorem refused_unanswered (specs : List Spec) (spec : Spec) (refused : refuses r agentId spec = true) :
    ¬Answered (applyCapabilitySpecsToRegistry repr r agentId hostId specs).1 agentId spec := by
  rintro ⟨grant,_,missing | checked⟩
  · rw [applyCapabilitySpecsToRegistry,applyLoop_describe] at missing
    simp [refuses,missing] at refused
  · simp [refuses,acceptable,checked] at refused
end Registry

section Calls
variable (c : Config) (s : Server)

-- Pending, with no approval to settle it.
def Stranded (agentId : String) : Prop :=
  ∃ session, s.agents.get agentId = some session ∧ session.status = .pending ∧ Dict.get s.approvals agentId = none

-- Active, without one of the grants.
def Ungranted (agentId : String) (specs : List Spec) : Prop :=
  ∃ session, s.agents.get agentId = some session ∧ session.status = .active ∧ ∃ spec ∈ specs, ¬Answered s.registry agentId spec

def grantStep (agentId hostId : String) (specs : List Spec) : Option (List AppliedGrant) :=
  (applyCapabilitySpecsToRegistry c.repr s.registry agentId hostId specs).2

def registeredSpecs (q : Registration) : List Spec := (parseCapabilityRegistrationBody q.body.capabilities).2

-- A new key within the default capabilities of an active host.
def ComesToGrants (q : Registration) : Prop :=
  c.importKey q.key = true ∧
    (∃ agentTp, jwkThumbprintSha256 c.digest q.key = some agentTp ∧
      findExisting c.digest agentTp (s.agents.listByHost q.host.hostId) = .ok none) ∧
    escalationRequiresUserConsent q.host (parseCapabilityRegistrationBody q.body.capabilities).1 = false

theorem register_granted {q : Registration} (comes : ComesToGrants c s q) : register c s q = registerGranted c s q := by
  obtain ⟨imported,⟨agentTp,known,unseen⟩,free⟩ := comes
  simp [register,imported,known,unseen,free]

def RegisterKeeps (q : Registration) : Prop :=
  ComesToGrants c s q → grantStep c s q.agentId q.host.hostId (registeredSpecs q) = none →
    ¬Stranded (register c s q).1 q.agentId ∧ ¬Ungranted (register c s q).1 q.agentId (registeredSpecs q)

-- A failed grant step leaves the new session pending, and writes no approval.
theorem registerKeeps_iff (q : Registration) : RegisterKeeps c s q ↔
    (ComesToGrants c s q → (∀ spec ∈ registeredSpecs q, refuses s.registry q.agentId spec = false) ∨
      (Dict.get s.approvals q.agentId).isSome) := by
  have raises := applied_raises c.repr s.registry q.agentId q.host.hostId (registeredSpecs q)
  refine forall_congr' (fun comes => ?_)
  rw [register_granted c s comes]
  unfold grantStep
  by_cases fine : ∀ spec ∈ registeredSpecs q, refuses s.registry q.agentId spec = false
  · have done : (applyCapabilitySpecsToRegistry c.repr s.registry q.agentId q.host.hostId (registeredSpecs q)).2 ≠ none := by
      intro failed
      obtain ⟨spec,member,refused⟩ := raises.mp failed
      rw [fine spec member] at refused
      cases refused
    exact iff_of_true (fun failed => (done failed).elim) (.inl fine)
  · have failed := raises.mpr (by simpa using fine)
    have left : (registerGranted c s q).1.agents.get q.agentId = some (newSession q.agentId q.host.hostId q.key q.now) ∧
        (registerGranted c s q).1.approvals = s.approvals := by
      unfold registerGranted
      change (applyCapabilitySpecsToRegistry c.repr s.registry q.agentId q.host.hostId
        (parseCapabilityRegistrationBody q.body.capabilities).2).2 = none at failed
      cases applied : applyCapabilitySpecsToRegistry c.repr s.registry q.agentId q.host.hostId
          (parseCapabilityRegistrationBody q.body.capabilities).2 with
      | mk registry payloads =>
        rw [applied] at failed
        cases failed
        simp only [applied,and_true]
        exact (AgentStore.get_put ..).trans (if_pos rfl)
    obtain ⟨stored,approvals⟩ := left
    have ungranted : ¬Ungranted (registerGranted c s q).1 q.agentId (registeredSpecs q) := by
      rintro ⟨session,found,active,_⟩
      rw [stored] at found
      cases found
      cases active
    constructor
    · intro kept
      right
      by_contra absent
      refine (kept failed).1 ⟨_,stored,rfl,?_⟩
      rw [approvals]
      simpa using absent
    · rintro (accepted | row) _
      · exact (fine accepted).elim
      · refine ⟨?_,ungranted⟩
        rintro ⟨_,_,_,absent⟩
        rw [approvals] at absent
        rw [absent] at row
        cases row

def activatedAs (session : AgentSession) (now : Int) : AgentSession := {session with status := .active,activatedAt := some now}

-- A status call of the agent's host reads an approved row and comes to its grants: an
-- escalation of an active agent, or a pending session just saved as active.
def Activates (agentId : String) (host : HostIdentity) (now : Int) (row : ApprovalRequestState) : Prop :=
  ∃ session, s.agents.get agentId = some session ∧ session.hostId = host.hostId ∧
    (ApprovalStore.get s.approvals now agentId).2 = some row ∧ row.status = .approved ∧
    (session.status = .active ∧ row.approvalKind = .escalation ∨
      session.status = .pending ∧ ∃ agents,
        saveAgentUnlessRevoked c.digest s.agents (activatedAs session now) (some session.publicKey) = .ok agents)

theorem activated_saved {agentId : String} {session : AgentSession} {agents : AgentStore} (now : Int)
    (found : s.agents.get agentId = some session)
    (saved : saveAgentUnlessRevoked c.digest s.agents (activatedAs session now) (some session.publicKey) = .ok agents) :
    agents.get agentId = some (activatedAs session now) := by
  have own : session.agentId = agentId := s.agents.keyed agentId session found
  obtain ⟨row,rfl,stored⟩ := save_stored c.digest s.agents agents _ _ saved
  have current : s.agents.get (activatedAs session now).agentId = some session := own ▸ found
  cases stored with
  | fresh absent => rw [current] at absent; cases absent
  | unchecked _ _ _ given => cases given
  | matched => exact (AgentStore.get_put ..).trans (if_pos own)
  | rotated existing key tp new same _ _ storedTp incoming _ differs =>
    rw [current] at same
    cases same
    exact (differs (Option.some.inj (incoming.symm.trans storedTp))).elim

-- The agent is active after the call, with the registry as the grant step left it.
theorem activates_status {agentId : String} {host : HostIdentity} {now : Int} {row : ApprovalRequestState} (issuedAt : Option HostJwt.FloatValue)
    (activates : Activates c s agentId host now row) :
    (∃ session, (agentStatus c s agentId host now issuedAt).agents.get agentId = some session ∧ session.status = .active) ∧
      (agentStatus c s agentId host now issuedAt).registry =
        (applyCapabilitySpecsToRegistry c.repr s.registry agentId host.hostId row.capabilitySpecs).1 := by
  obtain ⟨session,found,owned,read,approved,kind⟩ := activates
  have own : session.agentId = agentId := s.agents.keyed agentId session found
  rcases kind with ⟨active,escalation⟩ | ⟨pending,agents,saved⟩
  · have called : agentStatus c s agentId host now issuedAt = s.escalated (CapabilityEscalation.handleAgentStatus
        (escalating c host session active) ⟨s.registry,s.approvals⟩ now) := by
      simp [agentStatus,found,owned,active]
    rw [called]
    refine ⟨⟨session,found,active⟩,?_⟩
    subst own
    have reads : (ApprovalStore.get s.approvals now (escalating c host session active).agentId).2 = some row := read
    unfold CapabilityEscalation.handleAgentStatus
    simp only [reads,escalation,approved,ne_eq,not_true_eq_false,if_false]
    change (Server.escalated s (match applyCapabilitySpecsToRegistry c.repr s.registry session.agentId host.hostId row.capabilitySpecs with
      | (registry,some _) => _
      | (registry,none) => _)).registry = _
    split
    · rename_i applied
      simp only [Server.escalated,applied]
    · rename_i applied
      simp only [Server.escalated,applied]
  · have stored := activated_saved c s now found saved
    subst own
    have called : agentStatus c s session.agentId host now issuedAt =
        settleRegistration c {s with approvals := (ApprovalStore.get s.approvals now session.agentId).1} session row now := by
      simp [agentStatus,found,owned,pending,read,approved]
    rw [called]
    unfold settleRegistration
    simp only [approved]
    change saveAgentUnlessRevoked c.digest s.agents {session with status := .active,activatedAt := some now}
      (some session.publicKey) = .ok agents at saved
    rw [saved,← owned]
    exact ⟨⟨_,stored,rfl⟩,rfl⟩

def StatusKeeps (agentId : String) (host : HostIdentity) (now : Int) (issuedAt : Option HostJwt.FloatValue) : Prop :=
  ∀ row, Activates c s agentId host now row → grantStep c s agentId host.hostId row.capabilitySpecs = none →
    ¬Stranded (agentStatus c s agentId host now issuedAt) agentId ∧
      ¬Ungranted (agentStatus c s agentId host now issuedAt) agentId row.capabilitySpecs

theorem statusKeeps_iff (agentId : String) (host : HostIdentity) (now : Int) (issuedAt : Option HostJwt.FloatValue) :
    StatusKeeps c s agentId host now issuedAt ↔
      ∀ row, Activates c s agentId host now row → ∀ spec ∈ row.capabilitySpecs, refuses s.registry agentId spec = false := by
  refine forall_congr' (fun row => forall_congr' (fun activates => ?_))
  have raises := applied_raises c.repr s.registry agentId host.hostId row.capabilitySpecs
  obtain ⟨⟨session,found,active⟩,registry⟩ := activates_status c s issuedAt activates
  constructor
  · intro kept spec member
    by_contra refused
    have refused : refuses s.registry agentId spec = true := by simpa using refused
    refine (kept (raises.mpr ⟨spec,member,refused⟩)).2 ⟨session,found,active,spec,member,?_⟩
    rw [registry]
    exact refused_unanswered c.repr s.registry agentId host.hostId row.capabilitySpecs spec refused
  · intro fine failed
    obtain ⟨spec,member,refused⟩ := raises.mp failed
    rw [fine spec member] at refused
    cases refused

theorem grant_step_atomic_iff (repr : String → String) (r : CapabilityRegistry) (agentId hostId : String) (specs : List Spec)
    (q : Registration) (host : HostIdentity) (now : Int) (issuedAt : Option HostJwt.FloatValue) :
    (AllOrNothing repr r agentId hostId specs ↔ Orderly repr r agentId hostId specs) ∧
    (RegisterKeeps c s q ↔
      (ComesToGrants c s q → (∀ spec ∈ registeredSpecs q, refuses s.registry q.agentId spec = false) ∨
        (Dict.get s.approvals q.agentId).isSome)) ∧
    (StatusKeeps c s agentId host now issuedAt ↔
      ∀ row, Activates c s agentId host now row → ∀ spec ∈ row.capabilitySpecs, refuses s.registry agentId spec = false) :=
  ⟨allOrNothing_iff repr r agentId hostId specs,registerKeeps_iff c s q,statusKeeps_iff c s agentId host now issuedAt⟩
end Calls

-- A body of two capabilities, the second with a number for its constraints.
def numberedBody : Option (List RawCapability) :=
  some [.dict ⟨[("name",.str "file:read")],by simp⟩,.dict ⟨[("name",.str "file:write"),("constraints",.int 5)],by simp⟩]

def numberedSpecs : List Spec := (parseCapabilityRegistrationBody numberedBody).2

def numberedServer : Server where
  agents := .init
  registry := CapabilityEscalation.fileRegistry
  approvals := .empty
  verified := []

def numberedRegistration : Registration where
  host := SelfAuth.hostWith ["file:read","file:write"]
  key := firstKey
  agentId := "a1"
  userCode := "AB12CD34"
  now := 1000000
  issuedAt := some (.finite 1)
  body := {capabilities := numberedBody,approvalMethod := none,agentControlsBrowser := false,webauthn := .none}
  verifier := SelfAuth.oneAnswer

theorem numbered_refused : ∃ spec ∈ numberedSpecs, refuses CapabilityEscalation.fileRegistry "a1" spec = true := by
  have some_refused : numberedSpecs.any (refuses CapabilityEscalation.fileRegistry "a1") = true := by decide
  simpa using some_refused

-- The grant of the first spec is written, the second raises; the new session stays pending.
theorem numbered_half_applied :
    ¬AllOrNothing quoted CapabilityEscalation.fileRegistry "a1" "h1" numberedSpecs ∧
      ¬RegisterKeeps SelfAuth.gateConfig numberedServer numberedRegistration := by
  obtain ⟨spec,member,refused⟩ := numbered_refused
  constructor
  · have failed := (applied_raises quoted CapabilityEscalation.fileRegistry "a1" "h1" numberedSpecs).mpr ⟨spec,member,refused⟩
    have wrote : (((applyCapabilitySpecsToRegistry quoted CapabilityEscalation.fileRegistry "a1" "h1" numberedSpecs).1.grantsOf
        "a1").get "file:read").isSome = true := by decide
    unfold AllOrNothing
    cases applied : applyCapabilitySpecsToRegistry quoted CapabilityEscalation.fileRegistry "a1" "h1" numberedSpecs with
    | mk next payloads =>
      rw [applied] at failed wrote
      cases failed
      rintro rfl
      cases wrote
  · intro kept
    have comes : ComesToGrants SelfAuth.gateConfig numberedServer numberedRegistration :=
      ⟨rfl,⟨_,rfl,rfl⟩,by decide⟩
    rcases (registerKeeps_iff SelfAuth.gateConfig numberedServer numberedRegistration).mp kept comes with fine | row
    · have accepted := fine spec member
      exact absurd (refused.symm.trans accepted) (by decide)
    · cases row

end Asap.GrantAtomicity
