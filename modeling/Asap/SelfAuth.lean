import Asap.AgentRegistration
import Asap.CapabilityEscalation
import Asap.HostJwt

namespace Asap.SelfAuth
open OrderedDict PythonValue AgentIdentity Capabilities ApprovalStore Interleaving
open AgentRegistration (Reply findExisting newSession)
open HostJwt (FloatValue)

structure FreshSessionConfig where
  windowSeconds : Int := 300
  requireWebauthnFor : List String := []
  positive : 1 ≤ windowSeconds := by decide

def checkFreshSession (sessionTimestamp : FloatValue) (config : FreshSessionConfig) (now : Int) : Bool :=
  match sessionTimestamp with
  | .finite issued => decide ((now : Rat) - issued * 1000000 ≤ config.windowSeconds * 1000000)
  | .infinity positive => positive
  | .nan => false

-- `issuedAt` is the `iat` of the token as `float` reads it.
def freshSessionViolationDetail (issuedAt : Option FloatValue) (config : FreshSessionConfig) (now : Int) : Option String :=
  match issuedAt with
  | none => some "missing iat on host token; cannot enforce fresh session for approval"
  | some iat =>
    if checkFreshSession iat config now then none
    else some ("stale host session; re-authenticate within the fresh-session window (" ++ toString config.windowSeconds ++
      "s) to use approval endpoints")

def webauthnRequiredCapabilityNames (requestedCapabilities : List String) (config : FreshSessionConfig) : List String :=
  requestedCapabilities.filter (fun name => decide (name ∈ config.requireWebauthnFor))

-- A verifier as it answers one request: challenge, response, host and whether user
-- verification is required.
structure Verifier where
  real : Bool
  verify : String → Value → String → Bool → Bool

-- A result without a detail says whether an assertion was verified on the way to it.
inductive ApprovalCheck where
  | passed (verified : Bool)
  | failed (detail : String) (httpStatus : Nat)
  deriving DecidableEq

def checkWebauthnForApprovalPath (requestedCapabilities : List String) (webauthn : Value) (config : Option FreshSessionConfig)
    (verifier : Verifier) (hostId : String) (agentControlsBrowser : Bool) : ApprovalCheck :=
  let needed := match config with
    | none => []
    | some config => webauthnRequiredCapabilityNames requestedCapabilities config
  let browserGate := agentControlsBrowser && verifier.real
  let httpStatus := if browserGate then 403 else 400
  if needed.isEmpty && !browserGate then .passed false
  else match webauthn with
    | .dict block =>
      match lookupItem "challenge" block with
      | some (.str challenge) =>
        if strip challenge = "" then .failed "webauthn.challenge must be a non-empty string" httpStatus
        else match (lookupItem "response" block).getD .none with
          | .none => .failed "webauthn.response is required" httpStatus
          | response =>
            if verifier.verify challenge response hostId browserGate then .passed true
            else .failed "webauthn verification failed" httpStatus
      | _ => .failed "webauthn.challenge must be a non-empty string" httpStatus
    | _ =>
      .failed (if browserGate && needed.isEmpty then "webauthn object required for browser-controlled agent registration"
        else "webauthn object required for high-risk capabilities") httpStatus

structure Config where
  repr : String → String
  digest : String → String
  importKey : PublicKey → Bool
  fresh : Option FreshSessionConfig
  hostSupportsCiba : Bool

-- The stores of one server, and for every agent whose registration came with a
-- verified assertion the capabilities which that request named.
structure Server where
  agents : AgentStore
  registry : CapabilityRegistry
  approvals : Store
  verified : List (String × List String)

structure RegisterBody where
  capabilities : Option (List RawCapability)
  approvalMethod : Option ApprovalMethod
  agentControlsBrowser : Bool
  webauthn : Value

-- `host` is the stored row of the token's key, or the pending one made for a new key;
-- `agentId` is what `generate_id` returns.
structure Registration where
  host : HostIdentity
  key : PublicKey
  agentId : String
  userCode : String
  now : Int
  issuedAt : Option FloatValue
  body : RegisterBody
  verifier : Verifier

variable (c : Config)

def approvalFreshSessionResponse (issuedAt : Option FloatValue) (now : Int) : Option Reply :=
  match c.fresh with
  | none => none
  | some config => (freshSessionViolationDetail issuedAt config now).map (.failed 403)

def registrationRequest (q : Registration) : Request where
  agentId := q.agentId
  method := selectApprovalMethod q.host c.hostSupportsCiba q.body.approvalMethod q.body.agentControlsBrowser
  capabilities := (parseCapabilityRegistrationBody q.body.capabilities).1
  capabilitySpecs := (parseCapabilityRegistrationBody q.body.capabilities).2
  approvalKind := .registration
  principalId := none

-- Registration that needs approval: the checks, then the pending session and its approval.
def registerPending (s : Server) (q : Registration) : Server × Reply :=
  let names := (parseCapabilityRegistrationBody q.body.capabilities).1
  match approvalFreshSessionResponse c q.issuedAt q.now with
  | some reply => (s,reply)
  | none =>
    match checkWebauthnForApprovalPath names q.body.webauthn c.fresh q.verifier q.host.hostId q.body.agentControlsBrowser with
    | .failed detail httpStatus =>
      (s,if httpStatus = 403 then .failed 403 "webauthn_required" else .failed 400 detail)
    | .passed verified =>
      ({s with
          agents := s.agents.put (newSession q.agentId q.host.hostId q.key q.now)
          approvals := createApproval s.approvals q.now q.userCode (registrationRequest c q)
          verified := if verified then (q.agentId,names) :: s.verified else s.verified},
        .registered q.agentId .pending)

-- Registration within the default capabilities of an active host. When applying raises,
-- the session stays pending.
def registerGranted (s : Server) (q : Registration) : Server × Reply :=
  let session := newSession q.agentId q.host.hostId q.key q.now
  let specs := (parseCapabilityRegistrationBody q.body.capabilities).2
  match applyCapabilitySpecsToRegistry c.repr s.registry q.agentId q.host.hostId specs with
  | (registry,none) => ({s with agents := s.agents.put session,registry},.failed 500 "Internal Server Error")
  | (registry,some _) =>
    ({s with agents := s.agents.put {session with status := .active,activatedAt := some q.now},registry},
      .registered q.agentId .active)

-- `_handle_agent_register` from the verified token on.
def register (s : Server) (q : Registration) : Server × Reply :=
  if !c.importKey q.key then (s,.failed 400 "invalid agent_public_key JWK")
  else match jwkThumbprintSha256 c.digest q.key with
    | none => (s,.failed 500 "Internal Server Error")
    | some agentTp =>
      match findExisting c.digest agentTp (s.agents.listByHost q.host.hostId) with
      | .error _ => (s,.failed 500 "Internal Server Error")
      | .ok (some existing) => (s,.registered existing.agentId existing.status)
      | .ok none =>
        if escalationRequiresUserConsent q.host (parseCapabilityRegistrationBody q.body.capabilities).1 then
          registerPending c s q
        else registerGranted c s q

def escalating (host : HostIdentity) (agent : AgentSession) (active : agent.status = .active) : CapabilityEscalation.Context where
  repr := c.repr
  host := host
  agent := agent
  hostSupportsCiba := c.hostSupportsCiba
  active := active

def Server.escalated (s : Server) (next : CapabilityEscalation.Escalations) : Server :=
  {s with registry := next.registry,approvals := next.approvals}

-- The route of an agent's own token; an agent that is not active is refused.
def requestCapability (s : Server) (agentId : String) (host : HostIdentity) (now : Int) (userCode : String)
    (capabilities : List (Dict String Value)) : Server :=
  match s.agents.get agentId with
  | none => s
  | some agent =>
    if active : agent.status = .active then
      s.escalated (CapabilityEscalation.handleRequestCapability (escalating c host agent active) ⟨s.registry,s.approvals⟩ now userCode
        capabilities)
    else s

-- The pending session of an approved registration becomes active and gets its grants,
-- that of a denied one is rejected.
def settleRegistration (s : Server) (session : AgentSession) (row : ApprovalRequestState) (now : Int) : Server :=
  match row.status with
  | .approved =>
    match saveAgentUnlessRevoked c.digest s.agents {session with status := .active,activatedAt := some now}
        (some session.publicKey) with
    | .error _ => s
    | .ok agents =>
      {s with
        agents
        registry := (applyCapabilitySpecsToRegistry c.repr s.registry session.agentId session.hostId row.capabilitySpecs).1}
  | .denied =>
    match saveAgentUnlessRevoked c.digest s.agents {session with status := .rejected} (some session.publicKey) with
    | .error _ => s
    | .ok agents => {s with agents}
  | .pending | .expired => s

-- `_handle_agent_status` from the verified token of a host on.
def agentStatus (s : Server) (agentId : String) (host : HostIdentity) (now : Int) (issuedAt : Option FloatValue) : Server :=
  match s.agents.get agentId with
  | none => s
  | some session =>
    if session.hostId ≠ host.hostId then s
    else if active : session.status = .active then
      s.escalated (CapabilityEscalation.handleAgentStatus (escalating c host session active) ⟨s.registry,s.approvals⟩ now)
    else
      let (approvals,existing) := ApprovalStore.get s.approvals now agentId
      match existing with
      | none => {s with approvals}
      | some row =>
        if session.status ≠ .pending then {s with approvals}
        else if row.status = .pending ∧ (approvalFreshSessionResponse c issuedAt now).isSome then {s with approvals}
        else settleRegistration c {s with approvals} session row now

inductive Call where
  | register (q : Registration)
  | requestCapability (agentId : String) (host : HostIdentity) (now : Int) (userCode : String)
      (capabilities : List (Dict String Value))
  | approve (agentId : String) (now : Int) (userId : String)
  | deny (agentId : String) (now : Int) (reason : String)
  | status (agentId : String) (host : HostIdentity) (now : Int) (issuedAt : Option FloatValue)

-- A registration has an id that no stored session has.
def call (s : Server) : Call → Option Server
  | .register q => if s.agents.get q.agentId = none then some (register c s q).1 else none
  | .requestCapability agentId host now userCode capabilities => some (requestCapability c s agentId host now userCode capabilities)
  | .approve agentId now userId => some {s with approvals := (ApprovalStore.approve s.approvals now agentId userId).1}
  | .deny agentId now reason => some {s with approvals := (ApprovalStore.deny s.approvals now agentId reason).1}
  | .status agentId host now issuedAt => some (agentStatus c s agentId host now issuedAt)

def Config.requireWebauthnFor : List String :=
  match c.fresh with
  | none => []
  | some config => config.requireWebauthnFor

-- A capability in need of WebAuthn was named by a registration of the agent for which
-- an assertion was verified.
def covered (verified : List (String × List String)) (agentId name : String) : Bool :=
  !c.requireWebauthnFor.contains name || verified.any (fun item => decide (item.1 = agentId) && item.2.contains name)

def Covered (verified : List (String × List String)) (agentId name : String) : Prop :=
  name ∈ c.requireWebauthnFor → ∃ names, (agentId,names) ∈ verified ∧ name ∈ names

theorem covered_iff (verified : List (String × List String)) (agentId name : String) :
    covered c verified agentId name = true ↔ Covered c verified agentId name := by
  simp only [covered,Covered,Bool.or_eq_true,Bool.not_eq_true',List.contains_eq_mem,decide_eq_false_iff_not,List.any_eq_true,
    Bool.and_eq_true,decide_eq_true_eq,Prod.exists]
  constructor
  · rintro (free | ⟨_,names,known,rfl,named⟩) required
    · exact absurd required free
    · exact ⟨names,known,named⟩
  · intro proven
    by_cases required : name ∈ c.requireWebauthnFor
    · obtain ⟨names,known,named⟩ := proven required
      exact .inr ⟨agentId,names,known,rfl,named⟩
    · exact .inl required

section Within
variable {repr : String → String} (within : String → String → Prop)

def RowsWithin (approvals : Store) : Prop :=
  ∀ id row, Dict.get approvals id = some row → ∀ spec ∈ row.capabilitySpecs, within id spec.name

def GrantsWithin (registry : CapabilityRegistry) : Prop :=
  ∀ owner name grant, (registry.grantsOf owner).get name = some grant → grant.status = .active → within owner name

variable {within}

theorem RowsWithin.set {approvals : Store} {row : ApprovalRequestState} (rows : RowsWithin within approvals)
    (fits : ∀ spec ∈ row.capabilitySpecs, within agentId spec.name) : RowsWithin within (Dict.set approvals agentId row) := by
  intro other stored found
  rw [Dict.get_set] at found
  split at found
  · rename_i same
    cases found
    exact same ▸ fits
  · exact rows other stored found

theorem RowsWithin.remove {approvals : Store} (rows : RowsWithin within approvals) (agentId : String) :
    RowsWithin within (ApprovalStore.remove approvals agentId) := by
  intro other stored found
  unfold ApprovalStore.remove at found
  rw [Dict.get_erase] at found
  split at found
  · cases found
  · exact rows other stored found

theorem RowsWithin.refreshed {approvals : Store} {raw : ApprovalRequestState} (rows : RowsWithin within approvals)
    (known : Dict.get approvals agentId = some raw) (now : Int) :
    ∀ spec ∈ (refreshExpired now raw).capabilitySpecs, within agentId spec.name := by
  rw [(CapabilityEscalation.refresh_same now raw).2.2]
  exact rows agentId raw known

theorem RowsWithin.get {approvals : Store} (rows : RowsWithin within approvals) (now : Int) (agentId : String) :
    RowsWithin within (ApprovalStore.get approvals now agentId).1 ∧
      ∀ row, (ApprovalStore.get approvals now agentId).2 = some row → ∀ spec ∈ row.capabilitySpecs, within agentId spec.name := by
  cases known : Dict.get approvals agentId with
  | none =>
    rw [get_absent approvals now agentId known]
    exact ⟨rows,fun row found => by cases found⟩
  | some raw =>
    rw [get_present approvals now agentId raw known]
    refine ⟨rows.set (rows.refreshed known now),?_⟩
    intro row found
    cases found
    exact rows.refreshed known now

theorem RowsWithin.settle {approvals : Store} (rows : RowsWithin within approvals)
    (finish : ApprovalRequestState → ApprovalRequestState) (kept : ∀ row, (finish row).capabilitySpecs = row.capabilitySpecs)
    (now : Int) (agentId : String) : RowsWithin within (ApprovalStore.settle finish approvals now agentId).1 := by
  unfold ApprovalStore.settle
  cases known : Dict.get approvals agentId with
  | none => exact rows
  | some raw =>
    simp only
    split
    · exact rows.set (rows.refreshed known now)
    · split
      · exact rows
      · refine rows.set ?_
        rw [kept]
        exact rows.refreshed known now

-- A create flow stores the specs of the request, alone or after those of the old row.
theorem RowsWithin.createApproval {approvals : Store} (rows : RowsWithin within approvals) (now : Int) (userCode : String)
    (request : Request) (fits : ∀ spec ∈ request.capabilitySpecs, within request.agentId spec.name) :
    RowsWithin within (ApprovalStore.createApproval approvals now userCode request) := by
  obtain ⟨readRows,readRow⟩ := rows.get now request.agentId
  have created (capabilities : List String) (specs : List Spec) (inside : ∀ spec ∈ specs, within request.agentId spec.name) :
      RowsWithin within (ApprovalStore.get (create (ApprovalStore.get approvals now request.agentId).1 now request.agentId
        (creationOf request.method request.approvalKind capabilities specs userCode)) now request.agentId).1 := by
    refine (RowsWithin.get (readRows.set ?_) now request.agentId).1
    have content := (creationOf_fields request.method request.approvalKind capabilities specs userCode).2.2.1
    simp only [createdRow,content]
    exact inside
  unfold ApprovalStore.createApproval
  simp only
  cases existing : (ApprovalStore.get approvals now request.agentId).2 with
  | none => exact created _ _ fits
  | some row =>
    rcases afterRead_cases request row with ⟨_,_,_,same⟩ | ⟨_,_,_,merged⟩ | ⟨_,alone⟩
    · rw [same]
      exact readRows
    · rw [merged]
      refine created _ _ ?_
      intro spec inside
      rcases List.mem_append.mp (mem_merged inside) with earlier | new
      · exact readRow row existing spec earlier
      · exact fits spec new
    · rw [alone]
      exact created _ _ fits

theorem GrantsWithin.put {registry : CapabilityRegistry} (grants : GrantsWithin within registry) (grant : CapabilityGrant)
    (fits : within agentId grant.capability) : GrantsWithin within (registry.put agentId grant) := by
  intro owner name stored found active
  unfold CapabilityRegistry.grantsOf CapabilityRegistry.put at found
  simp only [Dict.get_set] at found
  split at found
  · rename_i same
    subst same
    rw [Option.getD_some,Dict.get_set] at found
    split at found
    · rename_i here
      exact here ▸ fits
    · exact grants _ name stored found active
  · exact grants owner name stored found active

theorem GrantsWithin.grantSpec {registry next : CapabilityRegistry} (grants : GrantsWithin within registry) {spec : Spec}
    (fits : within agentId spec.name) (done : Capabilities.grantSpec repr registry agentId hostId spec = some (next,grant)) :
    GrantsWithin within next := by
  unfold Capabilities.grantSpec CapabilityRegistry.grant at done
  split at done <;>
  · obtain ⟨checked,_,result⟩ := Option.map_eq_some_iff.mp done
    cases result
    exact grants.put _ fits

theorem GrantsWithin.applyLoop {existing : Dict String CapabilityGrant} {specs : List Spec}
    (fits : ∀ spec ∈ specs, within agentId spec.name) {registry : CapabilityRegistry} (grants : GrantsWithin within registry)
    (payloads : List AppliedGrant) :
    GrantsWithin within (Capabilities.applyLoop repr agentId hostId existing registry specs payloads).1 := by
  induction specs generalizing registry payloads with
  | nil => exact grants
  | cons spec rest ih =>
    have later : ∀ spec ∈ rest, within agentId spec.name := fun spec inside => fits spec (List.mem_cons_of_mem _ inside)
    have here : within agentId spec.name := fits spec List.mem_cons_self
    unfold Capabilities.applyLoop
    split
    · split
      · split
        · exact grants
        · rename_i done
          exact ih later (grants.grantSpec here done) _
      · exact ih later grants _
    · split
      · exact grants
      · rename_i done
        exact ih later (grants.grantSpec here done) _

theorem GrantsWithin.applied {registry : CapabilityRegistry} (grants : GrantsWithin within registry) {specs : List Spec}
    (fits : ∀ spec ∈ specs, within agentId spec.name) :
    GrantsWithin within (applyCapabilitySpecsToRegistry repr registry agentId hostId specs).1 := grants.applyLoop fits []

theorem RowsWithin.mono {wider : String → String → Prop} {approvals : Store} (rows : RowsWithin within approvals)
    (more : ∀ id name, within id name → wider id name) : RowsWithin wider approvals :=
  fun id row found spec inside => more id spec.name (rows id row found spec inside)

theorem GrantsWithin.mono {wider : String → String → Prop} {registry : CapabilityRegistry} (grants : GrantsWithin within registry)
    (more : ∀ id name, within id name → wider id name) : GrantsWithin wider registry :=
  fun owner name grant found active => more owner name (grants owner name grant found active)
end Within

-- Every active grant and every spec that waits for an approval is covered.
structure Sound (s : Server) : Prop where
  rows : RowsWithin (Covered c s.verified) s.approvals
  grants : GrantsWithin (Covered c s.verified) s.registry

-- A registration that needs no approval names no capability in need of WebAuthn, and a
-- request for more names only such as are covered already.
def guarded (s : Server) : Call → Bool
  | .register q =>
    let names := (parseCapabilityRegistrationBody q.body.capabilities).1
    escalationRequiresUserConsent q.host names || names.all (fun name => !c.requireWebauthnFor.contains name)
  | .requestCapability agentId _ _ _ capabilities =>
    (escalationSpecs capabilities).all (fun spec => covered c s.verified agentId spec.name)
  | _ => true

theorem Covered.more {verified : List (String × List String)} (item : String × List String) (agentId name : String)
    (proven : Covered c verified agentId name) : Covered c (item :: verified) agentId name := by
  intro required
  obtain ⟨names,known,named⟩ := proven required
  exact ⟨names,List.mem_cons_of_mem _ known,named⟩

-- Past the check, a capability in need of WebAuthn has a verified assertion.
theorem check_passed {webauthn : Value} {verifier : Verifier}
    (passed : checkWebauthnForApprovalPath names webauthn c.fresh verifier hostId agentControlsBrowser = .passed verified)
    (named : name ∈ names) (required : name ∈ c.requireWebauthnFor) : verified = true := by
  unfold Config.requireWebauthnFor at required
  split at required
  · cases required
  · rename_i config known
    have needed : name ∈ webauthnRequiredCapabilityNames names config := by
      simp [webauthnRequiredCapabilityNames,named,required]
    unfold checkWebauthnForApprovalPath at passed
    rw [known] at passed
    simp only at passed
    split at passed
    · rename_i skipped
      simp only [Bool.and_eq_true,List.isEmpty_iff] at skipped
      rw [skipped.1] at needed
      cases needed
    · repeat' split at passed
      all_goals cases passed
      rfl

theorem spec_named {requested : Option (List RawCapability)} (inside : spec ∈ (parseCapabilityRegistrationBody requested).2) :
    spec.name ∈ (parseCapabilityRegistrationBody requested).1 := List.mem_map_of_mem inside

theorem registerPending_sound (s : Server) (q : Registration) (sound : Sound c s) : Sound c (registerPending c s q).1 := by
  unfold registerPending
  simp only
  split
  · exact sound
  · split
    · exact sound
    · rename_i verified passed
      have more : ∀ id name, Covered c s.verified id name → Covered c (if verified then
          (q.agentId,(parseCapabilityRegistrationBody q.body.capabilities).1) :: s.verified else s.verified) id name := by
        intro id name proven
        split
        · exact proven.more c _ id name
        · exact proven
      refine ⟨RowsWithin.createApproval (sound.rows.mono more) q.now q.userCode _ ?_,sound.grants.mono more⟩
      intro spec inside required
      have named := spec_named inside
      rw [if_pos (check_passed c passed named required)]
      exact ⟨_,List.mem_cons_self,named⟩

theorem registerGranted_sound (s : Server) (q : Registration)
    (free : ∀ name ∈ (parseCapabilityRegistrationBody q.body.capabilities).1, name ∉ c.requireWebauthnFor) (sound : Sound c s) :
    Sound c (registerGranted c s q).1 := by
  have granted : GrantsWithin (Covered c s.verified) (applyCapabilitySpecsToRegistry c.repr s.registry q.agentId q.host.hostId
      (parseCapabilityRegistrationBody q.body.capabilities).2).1 :=
    sound.grants.applied (fun spec inside required => absurd required (free spec.name (spec_named inside)))
  unfold registerGranted
  simp only
  split <;> rename_i registry outcome <;> rw [outcome] at granted <;> exact ⟨sound.rows,granted⟩

theorem register_sound (s : Server) (q : Registration) (allowed : guarded c s (.register q) = true) (sound : Sound c s) :
    Sound c (register c s q).1 := by
  unfold register
  split
  · exact sound
  · split
    · exact sound
    · split
      · exact sound
      · exact sound
      · split
        · exact registerPending_sound c s q sound
        · rename_i unasked
          refine registerGranted_sound c s q ?_ sound
          simp only [guarded,unasked,Bool.false_or,List.all_eq_true,Bool.not_eq_true',List.contains_eq_mem,
            decide_eq_false_iff_not] at allowed
          exact allowed

theorem requestCapability_sound (s : Server) (agentId : String) (host : HostIdentity) (now : Int) (userCode : String)
    (capabilities : List (Dict String Value)) (asked : ∀ spec ∈ escalationSpecs capabilities, Covered c s.verified agentId spec.name)
    (sound : Sound c s) : Sound c (requestCapability c s agentId host now userCode capabilities) := by
  unfold requestCapability
  split
  · exact sound
  · rename_i agent found
    split
    · rename_i active
      have own : agent.agentId = agentId := s.agents.keyed agentId agent found
      have auto : ∀ spec ∈ autoSpecs host s.registry agent.agentId capabilities, Covered c s.verified agent.agentId spec.name := by
        intro spec inside
        have requested : spec ∈ escalationSpecs capabilities := by
          simp only [autoSpecs,partitionEscalationCapabilitySpecs,List.mem_filter] at inside
          exact inside.1.1
        exact own ▸ asked spec requested
      have granted : GrantsWithin (Covered c s.verified)
          (Capabilities.requestCapability c.repr host agent s.registry capabilities).1 := by
        rw [requestCapability_registry c.repr host agent s.registry capabilities active]
        exact sound.grants.applied auto
      have needs : ∀ spec ∈ CapabilityEscalation.needsSpecs (escalating c host agent active) ⟨s.registry,s.approvals⟩ capabilities,
          Covered c s.verified agent.agentId spec.name :=
        fun spec inside => own ▸ asked spec (CapabilityEscalation.needs_requested _ _ capabilities spec inside)
      unfold CapabilityEscalation.handleRequestCapability
      simp only
      split
      · exact ⟨sound.rows,granted⟩
      · rename_i listed
        refine ⟨?_,granted⟩
        exact (RowsWithin.get (sound.rows.createApproval now userCode _ needs) now agent.agentId).1
    · exact sound

theorem settleRegistration_sound (s : Server) (session : AgentSession) (row : ApprovalRequestState) (now : Int)
    (fits : ∀ spec ∈ row.capabilitySpecs, Covered c s.verified session.agentId spec.name) (sound : Sound c s) :
    Sound c (settleRegistration c s session row now) := by
  unfold settleRegistration
  split
  · split
    · exact sound
    · exact ⟨sound.rows,sound.grants.applied fits⟩
  · split
    · exact sound
    · exact ⟨sound.rows,sound.grants⟩
  · exact sound
  · exact sound

-- An approved escalation is applied as its row has it.
theorem handleAgentStatus_sound (s : Server) (context : CapabilityEscalation.Context) (now : Int) (sound : Sound c s) :
    Sound c (s.escalated (CapabilityEscalation.handleAgentStatus context ⟨s.registry,s.approvals⟩ now)) := by
  obtain ⟨rows,fits⟩ := sound.rows.get now context.agentId
  have same : Sound c (s.escalated ⟨s.registry,(ApprovalStore.get s.approvals now context.agentId).1⟩) := ⟨rows,sound.grants⟩
  unfold CapabilityEscalation.handleAgentStatus
  simp only
  split
  · exact same
  · rename_i row existing
    have applied : GrantsWithin (Covered c s.verified)
        (applyCapabilitySpecsToRegistry context.repr s.registry context.agentId context.host.hostId row.capabilitySpecs).1 :=
      sound.grants.applied (fits row existing)
    split
    · exact same
    · split
      · exact same
      · split <;> rename_i outcome <;> rw [outcome] at applied
        · exact ⟨rows.remove context.agentId,applied⟩
        · exact ⟨rows,applied⟩
      · exact ⟨rows.remove context.agentId,sound.grants⟩
      · exact ⟨rows.remove context.agentId,sound.grants⟩

theorem agentStatus_sound (s : Server) (agentId : String) (host : HostIdentity) (now : Int) (issuedAt : Option FloatValue)
    (sound : Sound c s) : Sound c (agentStatus c s agentId host now issuedAt) := by
  obtain ⟨rows,fits⟩ := sound.rows.get now agentId
  have same : Sound c {s with approvals := (ApprovalStore.get s.approvals now agentId).1} := ⟨rows,sound.grants⟩
  unfold agentStatus
  split
  · exact sound
  · rename_i session found
    have own : session.agentId = agentId := s.agents.keyed agentId session found
    split
    · exact sound
    · split
      · exact handleAgentStatus_sound c s _ now sound
      · simp only
        split
        · exact same
        · rename_i row existing
          split
          · exact same
          · split
            · exact same
            · refine settleRegistration_sound c _ session row now ?_ same
              rw [own]
              exact fits row existing

theorem call_sound (s next : Server) (made : Call) (allowed : guarded c s made = true) (taken : call c s made = some next)
    (sound : Sound c s) : Sound c next := by
  cases made with
  | register q =>
    simp only [call] at taken
    split at taken
    · cases taken
      exact register_sound c s q allowed sound
    · cases taken
  | requestCapability agentId host now userCode capabilities =>
    cases taken
    refine requestCapability_sound c s agentId host now userCode capabilities ?_ sound
    simp only [guarded,List.all_eq_true,covered_iff] at allowed
    exact allowed
  | approve agentId now userId =>
    cases taken
    refine ⟨?_,sound.grants⟩
    unfold ApprovalStore.approve
    refine sound.rows.settle _ ?_ now agentId
    exact fun _ => rfl
  | deny agentId now reason =>
    cases taken
    refine ⟨?_,sound.grants⟩
    unfold ApprovalStore.deny
    refine sound.rows.settle _ ?_ now agentId
    exact fun _ => rfl
  | status agentId host now issuedAt =>
    cases taken
    exact agentStatus_sound c s agentId host now issuedAt sound

-- A server before its first request, with the capabilities it offers.
def Server.init (definitions : Dict String CapabilityDefinition) : Server where
  agents := .init
  registry := {definitions,grants := .empty,keyed := Capabilities.ungranted_keyed}
  approvals := .empty
  verified := []

theorem init_sound (definitions : Dict String CapabilityDefinition) : Sound c (.init definitions) where
  rows id row found := by simp [Server.init] at found
  grants owner name grant found := by simp [Server.init,CapabilityRegistry.grantsOf] at found

def ActiveGrant (s : Server) (agentId name : String) : Prop :=
  ∃ grant, (s.registry.grantsOf agentId).get name = some grant ∧ grant.status = .active

-- In the runs of guarded calls, an agent has an active grant of a capability in need of
-- WebAuthn only when an assertion was verified for a registration of the agent that named it.
theorem webauthn_required_grants (definitions : Dict String CapabilityDefinition) (calls : List Call) (s : Server)
    (run : Runs (call c) (fun s made => guarded c s made = true) (.init definitions) calls s) :
    ∀ agentId name, name ∈ c.requireWebauthnFor → ActiveGrant s agentId name →
      ∃ names, (agentId,names) ∈ s.verified ∧ name ∈ names := by
  have sound := run.invariant (Sound c) (fun s made next allowed taken => call_sound c s next made allowed taken)
    (init_sound c definitions)
  rintro agentId name required ⟨grant,found,active⟩
  exact sound.grants agentId name grant found active required

def gateConfig : Config where
  repr := quoted
  digest := keyDigest
  importKey _ := true
  fresh := some {requireWebauthnFor := ["admin.task"]}
  hostSupportsCiba := true

def adminDefinitions : Dict String CapabilityDefinition :=
  ⟨[("file:read",⟨"file:read","read files"⟩),("admin.task",⟨"admin.task","administration"⟩)],by simp⟩

def hostWith (defaultCapabilities : List String) : HostIdentity where
  hostId := "h1"
  publicKey := secondKey
  defaultCapabilities := defaultCapabilities
  status := .active

-- A verifier that knows one challenge and its answer.
def oneAnswer : Verifier where
  real := true
  verify challenge response hostId _ := challenge = "c1" && (match response with
    | .str text => decide (text = "signed")
    | _ => false) && hostId = "h1"

def registering (host : HostIdentity) (name : String) (webauthn : Value) : Call :=
  .register {
    host
    key := firstKey
    agentId := "a1"
    userCode := "AB12CD34"
    now := 1000000
    issuedAt := some (.finite 1)
    body := {capabilities := some [.str name],approvalMethod := none,agentControlsBrowser := false,webauthn}
    verifier := oneAnswer}

def asking (host : HostIdentity) (name : String) : Call := .requestCapability "a1" host 2000000 "EF56GH78" [⟨[("name",.str name)],Capabilities.named_distinct name⟩]

def activeGrant (s : Server) (agentId name : String) : Bool :=
  match (s.registry.grantsOf agentId).get name with
  | some grant => decide (grant.status = .active)
  | none => false

theorem activeGrant_spec (active : activeGrant s agentId name = true) : ActiveGrant s agentId name := by
  unfold activeGrant at active
  split at active
  · rename_i grant found
    exact ⟨grant,found,by simpa using active⟩
  · cases active

def reached (check : Server → Call → Bool) (calls : List Call) : Option Server :=
  execute (call gateConfig) check (.init adminDefinitions) calls

-- The agent ends with the capability, and no assertion was verified.
def unproven (s : Server) : Bool := activeGrant s "a1" "admin.task" && s.verified.isEmpty

-- One registration within the default capabilities of the host.
def defaulted : List Call := [registering (hostWith ["admin.task"]) "admin.task" .none]

-- A registration for something else, then an escalation that the user approves.
def escalated : List Call :=
  [registering (hostWith ["file:read"]) "file:read" .none,asking (hostWith ["file:read"]) "admin.task",.approve "a1" 3000000 "u1",
    .status "a1" (hostWith ["file:read"]) 4000000 (some (.finite 4))]

theorem defaulted_unproven : (reached anyMove defaulted).any unproven = true := by decide
theorem escalated_unproven : (reached anyMove escalated).any unproven = true := by decide

theorem unproven_run (calls : List Call) (done : (reached anyMove calls).any unproven = true) :
    ∃ s, Runs (call gateConfig) (fun _ _ => True) (.init adminDefinitions) calls s ∧ ActiveGrant s "a1" "admin.task" ∧ s.verified = [] := by
  obtain ⟨s,ran,bare⟩ := (Option.any_eq_true ..).mp done
  simp only [unproven,Bool.and_eq_true,List.isEmpty_iff] at bare
  exact ⟨s,execute_free ran,activeGrant_spec bare.1,bare.2⟩

theorem admin_granted_unverified :
    "admin.task" ∈ gateConfig.requireWebauthnFor ∧
    (∃ s, Runs (call gateConfig) (fun _ _ => True) (.init adminDefinitions) defaulted s ∧
      ActiveGrant s "a1" "admin.task" ∧ s.verified = []) ∧
    ∃ s, Runs (call gateConfig) (fun _ _ => True) (.init adminDefinitions) escalated s ∧
      ActiveGrant s "a1" "admin.task" ∧ s.verified = [] :=
  ⟨List.mem_singleton_self _,unproven_run defaulted defaulted_unproven,unproven_run escalated escalated_unproven⟩

-- A registration outside the default capabilities with its assertion, approved and polled.
def asserted : List Call :=
  [registering (hostWith []) "admin.task" (.dict [(.str "challenge",.str "c1"),(.str "response",.str "signed")]),
    .approve "a1" 2000000 "u1",.status "a1" (hostWith []) 3000000 (some (.finite 3)),asking (hostWith []) "admin.task"]

theorem asserted_done : (reached (guarded gateConfig) asserted).any (fun s => activeGrant s "a1" "admin.task") = true := by
  decide +kernel

theorem webauthn_required_grants_asserted : ∃ s,
    Runs (call gateConfig) (fun s made => guarded gateConfig s made = true) (.init adminDefinitions) asserted s ∧
      ActiveGrant s "a1" "admin.task" ∧ ∃ names, ("a1",names) ∈ s.verified ∧ "admin.task" ∈ names := by
  obtain ⟨s,ran,active⟩ := (Option.any_eq_true ..).mp asserted_done
  have run := execute_runs (guarded gateConfig) ran
  exact ⟨s,run,activeGrant_spec active,webauthn_required_grants gateConfig adminDefinitions asserted s run "a1" "admin.task"
    (List.mem_singleton_self _) (activeGrant_spec active)⟩

end Asap.SelfAuth
