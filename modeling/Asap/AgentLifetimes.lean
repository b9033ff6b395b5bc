import Asap.AgentJwt
import Asap.AgentRegistration
import Asap.Capabilities

-- How long an agent can live, and which grants it wakes up with, over any run of registrations,
-- approvals, rotations, verifications and reactivations.
namespace Asap.AgentLifetimes
open OrderedDict PythonValue AgentIdentity Capabilities Interleaving JtiReplay
open HostJwt (Jose FloatValue)

structure Store where
  agents : AgentStore
  cache : JtiReplayCache
  registry : CapabilityRegistry

-- A registration, a verification (or a rotation or status poll beside it), a reactivation with the host
-- its token resolves to, or anything that rewrites the grants.
inductive Task where
  | registering (task : AgentRegistration.Task)
  | verifying (task : AgentJwt.Task)
  | reactivating (host : Option HostIdentity) (task : AgentLifecycle.Task)
  | regranting (registry : CapabilityRegistry)
  | settled

structure Input extends AgentJwt.Input where
  agentId : String
  body : AgentRegistration.Body

-- A success: the session that was verified and the clock as its expiry was last checked, or the session
-- that was reactivated, for which host, and the grants that the response lists.
inductive Event where
  | verified (agent : AgentSession) (now : Int)
  | reactivated (agent : AgentSession) (host : HostIdentity) (grants : List CapabilityGrant)

-- `registry.grant` without constraints, which the model of a grant never refuses.
def regrant (r : CapabilityRegistry) (agentId name : String) (grantedBy : Option String) (status : GrantStatus) (reason : Option String) :
    CapabilityRegistry := ((r.grant agentId name .none grantedBy status reason).map Prod.fst).getD r

def denyAll (r : CapabilityRegistry) (agentId : String) (existing : List CapabilityGrant) : CapabilityRegistry :=
  existing.foldl (fun r grant => regrant r agentId grant.capability none .denied (some "capability decayed on reactivation")) r

def grantDefaults (r : CapabilityRegistry) (agentId : String) (host : HostIdentity) : CapabilityRegistry :=
  host.defaultCapabilities.foldl (fun r name => regrant r agentId name (some host.hostId) .active none) r

-- Capability decay: reset grants to host defaults.
def decay (r : CapabilityRegistry) (agentId : String) (host : HostIdentity) : CapabilityRegistry :=
  grantDefaults (denyAll r agentId (r.getGrants agentId)) agentId host

section Programs
variable (digest : String → String) (floatOfStr : String → Option FloatValue) (jose : Jose) (importKey : PublicKey → Bool)

def verifiedEvents (now : Int) : AgentJwt.Task → List Event
  | .answered _ (.accepted _ _ agent) => [.verified agent now]
  | _ => []

-- Nothing is awaited between the save of a reactivated session and the decay of its grants.
def reactivate (s : Store) (host : Option HostIdentity) (task : AgentLifecycle.Task) (now : Int) : Option (Store × Task × List Event) :=
  (AgentLifecycle.advance digest importKey s.agents task now).map (fun (agents,next,events) =>
    match host,task,events with
    | some host,.writing (.reactivate agentId _) _ row _,_ :: _ =>
      let registry := decay s.registry agentId host
      ({ s with agents,registry },.reactivating (some host) next,[.reactivated row host (registry.getGrants agentId)])
    | _,_,_ => ({ s with agents },.reactivating host next,[]))

def advance (s : Store) (task : Task) (input : Input) : Option (Store × Task × List Event) :=
  match task with
  | .registering task =>
    (AgentRegistration.advance digest importKey s.agents task ⟨input.now,input.agentId,input.body⟩).map (fun (agents,next,_) =>
      ({ s with agents },.registering next,[]))
  | .verifying task =>
    (AgentJwt.advance digest floatOfStr jose importKey ⟨s.agents,s.cache⟩ task input.toInput).map (fun (store,next,_) =>
      ({ s with agents := store.agents,cache := store.cache },.verifying next,verifiedEvents input.now next))
  | .reactivating host task => reactivate digest importKey s host task input.now
  | .regranting registry => some ({ s with registry },.settled,[])
  | .settled => none

-- Reactivations come with their host; what an administrator may do to a row is left out.
def Task.arrives : Task → Bool
  | .registering (.registering _ _) => true
  | .verifying (.start _) => true
  | .verifying (.lifecycle (.start (.reactivate _ _))) => false
  | .verifying (.lifecycle (.start _)) => true
  | .reactivating host (.start (.reactivate _ hostId)) => hostId = host.map HostIdentity.hostId
  | .regranting _ => true
  | _ => false

def program : Program Store Task Input Event where
  arrives := Task.arrives
  advance := advance digest floatOfStr jose importKey
end Programs

section Grants
variable {r : CapabilityRegistry} {agentId : String}

def activeNames (grants : List CapabilityGrant) : List String :=
  (grants.filter (fun grant => decide (grant.status = .active))).map CapabilityGrant.capability

-- One active grant for each distinct default, and no other.
def ExactlyDefaults (host : HostIdentity) (grants : List CapabilityGrant) : Prop :=
  (activeNames grants).Nodup ∧ ∀ name, name ∈ activeNames grants ↔ name ∈ host.defaultCapabilities

end Grants

section Rows
variable {s next middle : AgentStore} {row : AgentSession} {digest : String → String}

def SameLifetime (before after : AgentSession) : Prop :=
  after.createdAt = before.createdAt ∧ after.absoluteLifetime = before.absoluteLifetime

-- Every row is still there, with its time of creation and its absolute lifetime.
def Keeps (before after : AgentStore) : Prop :=
  ∀ id row, before.get id = some row → ∃ row', after.get id = some row' ∧ SameLifetime row row'

-- A row to be written over a stored one of the same lifetime.
def Ready (s : AgentStore) (row : AgentSession) : Prop := ∃ stored, s.get row.agentId = some stored ∧ SameLifetime row stored

def Within (row : AgentSession) (now : Int) : Prop := ∀ limit, row.absoluteLifetime = some limit → now ≤ row.createdAt + limit

theorem Keeps.trans (one : Keeps s middle) (two : Keeps middle next) : Keeps s next := by
  intro id row found
  obtain ⟨second,foundSecond,created,lifetime⟩ := one id row found
  obtain ⟨third,foundThird,created',lifetime'⟩ := two id second foundSecond
  exact ⟨third,foundThird,created'.trans created,lifetime'.trans lifetime⟩

theorem Ready.mono (ready : Ready s row) (keeps : Keeps s next) : Ready next row := by
  obtain ⟨stored,found,created,lifetime⟩ := ready
  obtain ⟨stored',found',created',lifetime'⟩ := keeps _ stored found
  exact ⟨stored',found',created'.trans created,lifetime'.trans lifetime⟩

theorem Within.same {other : AgentSession} {now : Int} (within : Within row now) (same : SameLifetime row other) : Within other now := by
  intro limit given
  have bound := within limit (same.2.symm.trans given)
  rw [same.1]
  exact bound

theorem put_keeps (ready : Ready s row) : Keeps s (s.put row) := by
  obtain ⟨stored,known,created,lifetime⟩ := ready
  intro id old found
  rw [AgentStore.get_put]
  split
  · rename_i here
    rw [here,found] at known
    cases known
    exact ⟨row,rfl,created.symm,lifetime.symm⟩
  · exact ⟨old,found,rfl,rfl⟩

end Rows

section Lifecycle
variable (digest : String → String) (importKey : PublicKey → Bool)

def Activated (row : AgentSession) : Prop := ∃ now, row.activatedAt = some now ∧ Within row now

-- What a lifecycle handler holds when it is about to write.
def Own (s : AgentStore) : AgentLifecycle.Task → Prop
  | .writing (.reactivate _ _) _ row _ => Ready s row ∧ Activated row
  | .writing _ _ row _ => Ready s row
  | _ => True

variable {digest importKey}

end Lifecycle

section Tasks
variable {digest : String → String} {floatOfStr : String → Option FloatValue} {jose : Jose} {importKey : PublicKey → Bool}

-- A success that is reported: the row is stored, and had not outlived its lifetime.
def Reported (s : AgentStore) : Event → Prop
  | .verified agent now => ∃ row, s.get agent.agentId = some row ∧ SameLifetime agent row ∧ Within row now
  | .reactivated agent host grants =>
    (∃ row now, s.get agent.agentId = some row ∧ SameLifetime agent row ∧ agent.activatedAt = some now ∧ Within row now) ∧ ExactlyDefaults host grants

theorem Reported.mono {s next : AgentStore} {event : Event} (reported : Reported s event) (keeps : Keeps s next) : Reported next event := by
  cases event with
  | verified agent now =>
    obtain ⟨row,found,same,within⟩ := reported
    obtain ⟨row',found',same'⟩ := keeps _ row found
    exact ⟨row',found',⟨same'.1.trans same.1,same'.2.trans same.2⟩,within.same same'⟩
  | reactivated agent host grants =>
    obtain ⟨⟨row,now,found,same,activated,within⟩,exactly⟩ := reported
    obtain ⟨row',found',same'⟩ := keeps _ row found
    exact ⟨⟨row',now,found',⟨same'.1.trans same.1,same'.2.trans same.2⟩,activated,within.same same'⟩,exactly⟩

end Tasks

def Event.shown : Event → String × Option Int × List String
  | .verified agent now => (agent.agentId,some now,[])
  | .reactivated agent _ grants => (agent.agentId,agent.activatedAt,activeNames grants)

end Asap.AgentLifetimes
