import Asap.AgentJwt
import Asap.TypescriptClient
import Mathlib.Tactic.NormNum

namespace Asap.TypescriptSessions
open OrderedDict PythonValue AgentIdentity Interleaving JtiReplay TypescriptClient
open HostJwt (Jose Agree Claims FloatValue Audience lookup text publicKeyOf toFloat hostJwtTyp hostPublicKeyClaim hostRevokedError)
open AgentRegistration (findExisting)

-- `_hosts` and `_thumb_to_host_id`.
structure HostStore where
  hosts : Dict String HostIdentity
  thumbToHostId : Dict String String

def HostStore.getByPublicKey (s : HostStore) (thumbprint : String) : Option HostIdentity :=
  (s.thumbToHostId.get thumbprint).bind s.hosts.get

-- `none` is a key without a thumbprint.
def HostStore.save (digest : String → String) (s : HostStore) (host : HostIdentity) : Option HostStore :=
  (AgentIdentity.jwkThumbprintSha256 digest host.publicKey).bind (fun thumb =>
    match s.hosts.get host.hostId with
    | none => some ⟨s.hosts.set host.hostId host,s.thumbToHostId.set thumb host.hostId⟩
    | some previous =>
      (AgentIdentity.jwkThumbprintSha256 digest previous.publicKey).map (fun oldTp =>
        let index := if oldTp ≠ thumb ∧ s.thumbToHostId.get oldTp = some host.hostId then s.thumbToHostId.erase oldTp
          else s.thumbToHostId
        ⟨s.hosts.set host.hostId host,index.set thumb host.hostId⟩))

def isCrockford (c : Char) : Bool := "0123456789ABCDEFGHJKMNPQRSTVWXYZ".toList.contains c

-- What `generate_id` returns.
structure Ulid where
  value : String
  encoded : value.toList.length = 26 ∧ value.toList.all isCrockford = true

structure Config where
  repr : String → String
  digest : String → String
  floatOfStr : String → Option FloatValue
  jose : Jose
  audience : Audience
  fresh : Option SelfAuth.FreshSessionConfig
  hostSupportsCiba : Bool

variable (c : Config)

def Config.importKey (key : PublicKey) : Bool := (c.jose.importKey key).isOk

def Config.server : SelfAuth.Config where
  repr := c.repr
  digest := c.digest
  importKey := c.importKey
  fresh := c.fresh
  hostSupportsCiba := c.hostSupportsCiba

-- One provider: the machine has the agents, the replay cache and the verifications and
-- lifecycle requests in flight.
structure Provider where
  machine : AgentJwt.State
  registry : Capabilities.CapabilityRegistry
  approvals : ApprovalStore.Store
  verified : List (String × List String)
  hosts : HostStore

def Provider.agents (s : Provider) : AgentStore := s.machine.store.agents
def Provider.server (s : Provider) : SelfAuth.Server := ⟨s.agents,s.registry,s.approvals,s.verified⟩

def Provider.withAgents (s : Provider) (agents : AgentStore) : Provider :=
  {s with machine := {s.machine with store := {s.machine.store with agents}}}

def Provider.withCache (s : Provider) (cache : JtiReplayCache) : Provider :=
  {s with machine := {s.machine with store := {s.machine.store with cache}}}

def Provider.withServer (s : Provider) (next : SelfAuth.Server) : Provider :=
  {s.withAgents next.agents with registry := next.registry,approvals := next.approvals,verified := next.verified}

-- A register request, the readings of the clock while it is handled and what is
-- generated for it.
structure RegisterRequest where
  token : String
  body : SelfAuth.RegisterBody
  nowTs : Int
  cacheNow : Int
  now : Int
  agentId : Ulid
  userCode : String
  verifier : SelfAuth.Verifier

def hostUrnFromThumbprint (thumbprint : String) : String := "urn:asap:host:" ++ thumbprint

-- `host_jwt_issued_at_seconds`; an `iat` that overflows does not come this far.
def hostJwtIssuedAt (claims : Claims) : Option FloatValue :=
  match (claims.get "iat").getD .none with
  | .none => none
  | iat => (toFloat c.floatOfStr iat).toOption

def respond (host : HostIdentity) : AgentRegistration.Reply → Response
  | .registered agentId status => .registered agentId host.hostId status
  | .failed code detail => .failed code detail

-- `_handle_agent_register` from the claim of the agent's key on.
def registerAgent (s : Provider) (q : RegisterRequest) (claims : Claims) (iss : String) (known : Option HostIdentity)
    (key : PublicKey) : Provider × Response :=
  if !c.importKey key then (s,.failed 400 "invalid agent_public_key JWK")
  else match claims.get hostPublicKeyClaim with
    | some (.dict hostPub) =>
      let host : HostIdentity := known.getD
        {hostId := hostUrnFromThumbprint iss, publicKey := publicKeyOf hostPub, status := .pending}
      let saved := match known with
        | some _ => some s.hosts
        | none => s.hosts.save c.digest host
      match saved with
      | none => (s,.failed 500 "Internal Server Error")
      | some hosts =>
        let (server,reply) := SelfAuth.register c.server s.server {
          host
          key
          agentId := q.agentId.value
          userCode := q.userCode
          now := q.now
          issuedAt := hostJwtIssuedAt c claims
          body := q.body
          verifier := q.verifier}
        ({s.withServer server with hosts},respond host reply)
    | _ => (s,.failed 400 "missing host_public_key in host JWT")

def verifyHostBearer (s : Provider) (q : RegisterRequest) : JtiReplayCache × HostJwt.Result :=
  HostJwt.verifyHostJwt c.digest c.floatOfStr c.jose s.machine.store.cache
    ⟨q.token,some c.audience,true,q.nowTs,q.cacheNow,s.hosts.getByPublicKey⟩

def handleAgentRegister (s : Provider) (q : RegisterRequest) : Provider × Response :=
  let (cache,result) := verifyHostBearer c s q
  let s := s.withCache cache
  match result with
  | .raised => (s,.failed 500 "Internal Server Error")
  | .refused error => (s,if error = hostRevokedError then .failed 403 "host revoked" else .failed 401 error)
  | .accepted claims known =>
    match (claims.get "iss").bind text with
    | none => (s,.failed 400 "missing iss in host JWT")
    | some iss =>
      if strip iss = "" then (s,.failed 400 "missing iss in host JWT")
      else match claims.get agentPublicKeyClaim with
        | some (.dict agentPub) => registerAgent c s q claims iss known (publicKeyOf agentPub)
        | _ => (s,.failed 400 "missing or invalid agent_public_key claim in host JWT")

-- The host store is asked for the `iss` that the verification waits with.
def readHost (hosts : HostStore) (task : AgentJwt.Task) (input : AgentJwt.Input) : AgentJwt.Input :=
  match task with
  | .resolving _ _ _ iss => {input with host := hosts.getByPublicKey iss}
  | _ => input

-- Registrations, the other routes of a server, the steps of verifications and of what
-- else touches the agents, and changes of the hosts.
inductive Move where
  | register (q : RegisterRequest)
  | call (made : SelfAuth.Call)
  | verification (move : Interleaving.Move AgentJwt.Task AgentJwt.Input)
  | saveHost (host : HostIdentity)
  | revokeHost (hostId : String)

def Provider.reads (s : Provider) : Interleaving.Move AgentJwt.Task AgentJwt.Input → Interleaving.Move AgentJwt.Task AgentJwt.Input
  | .arrive id task => .arrive id task
  | .proceed id input =>
    match s.machine.tasks.get id with
    | none => .proceed id input
    | some task => .proceed id (readHost s.hosts task input)

def Config.program : Program AgentJwt.Store AgentJwt.Task AgentJwt.Input Empty :=
  AgentJwt.program c.digest c.floatOfStr c.jose c.importKey

def step (s : Provider) : Move → Option Provider
  | .register q => if s.agents.get q.agentId.value = none then some (handleAgentRegister c s q).1 else none
  | .call (.register _) => none
  | .call made => (SelfAuth.call c.server s.server made).map s.withServer
  | .verification move => (c.program.next s.machine (s.reads move)).map (fun machine => {s with machine})
  | .saveHost host => (s.hosts.save c.digest host).map (fun hosts => {s with hosts})
  | .revokeHost hostId =>
    match s.hosts.hosts.get hostId with
    | none => some s
    | some host =>
      if host.status = .revoked then some s
      else some {s.withAgents (s.agents.revokeByHost hostId) with
        hosts := {s.hosts with hosts := s.hosts.hosts.set hostId {host with status := .revoked}}}

-- One `verify_agent_jwt` that nothing else comes between.
def verifying (hosts : HostStore) (input : AgentJwt.Input) : Nat → AgentJwt.Store → AgentJwt.Task → AgentJwt.Task
  | 0,_,task => task
  | fuel + 1,s,task =>
    match AgentJwt.advance c.digest c.floatOfStr c.jose c.importKey s task (readHost hosts task input) with
    | none => task
    | some (next,task,_) => verifying hosts input fuel next task

def verifyAgentJwt (s : Provider) (call : AgentJwt.Call) (input : AgentJwt.Input) : AgentJwt.Task :=
  verifying c s.hosts input 5 s.machine.store (.start call)

def AcceptedAs (task : AgentJwt.Task) (call : AgentJwt.Call) (agentId : String) : Prop :=
  ∃ claims host agent, task = .answered call (.accepted claims host agent) ∧ agent.agentId = agentId

-- The provider asks joserfc about the token of the request, or of the call, only.
theorem registerAgent_agree {other : Jose} (s : Provider) (q : RegisterRequest) (claims : Claims) (iss : String) (known : Option HostIdentity)
    (key : PublicKey) (imports : c.importKey = ({c with jose := other} : Config).importKey) :
    registerAgent c s q claims iss known key = registerAgent {c with jose := other} s q claims iss known key := by
  have server : c.server = ({c with jose := other} : Config).server := by
    unfold Config.server
    rw [imports]
  have issued : hostJwtIssuedAt c claims = hostJwtIssuedAt {c with jose := other} claims := rfl
  unfold registerAgent
  rw [imports,server,issued]

theorem handleAgentRegister_agree {other : Jose} (s : Provider) (q : RegisterRequest) (agree : Agree c.jose other q.token) :
    handleAgentRegister c s q = handleAgentRegister {c with jose := other} s q := by
  have same : verifyHostBearer c s q = verifyHostBearer {c with jose := other} s q :=
    HostJwt.verifyHostJwt_agree c.digest c.floatOfStr c.jose s.machine.store.cache agree
  have imports : c.importKey = ({c with jose := other} : Config).importKey := by
    funext key
    exact congrArg Except.isOk (agree.imported key)
  unfold handleAgentRegister
  rw [same]
  simp only [registerAgent_agree c _ q _ _ _ _ imports]

theorem verifying_agree {other : Jose} (hosts : HostStore) (input : AgentJwt.Input) (fuel : Nat) (s : AgentJwt.Store) (task : AgentJwt.Task)
    (agree : ∀ call, task.presents = some call → Agree c.jose other call.token) (imports : c.importKey = ({c with jose := other} : Config).importKey) :
    verifying c hosts input fuel s task = verifying {c with jose := other} hosts input fuel s task := by
  induction fuel generalizing s task with
  | zero => rfl
  | succ fuel ih =>
    unfold verifying
    rw [AgentJwt.advance_agree c.digest c.floatOfStr c.jose c.importKey s (readHost hosts task input) agree,imports]
    cases advanced : AgentJwt.advance c.digest c.floatOfStr other ({c with jose := other} : Config).importKey s task (readHost hosts task input) with
    | none => rfl
    | some outcome =>
      have kept := AgentJwt.advance_presents c.digest c.floatOfStr other _ s task _ outcome advanced
      exact ih outcome.1 outcome.2.1 (fun call has => agree call (kept.symm.trans has))

theorem verifyAgentJwt_agree {other : Jose} (s : Provider) (call : AgentJwt.Call) (input : AgentJwt.Input) (agree : Agree c.jose other call.token) :
    verifyAgentJwt c s call input = verifyAgentJwt {c with jose := other} s call input := by
  refine verifying_agree c s.hosts input 5 s.machine.store (.start call) ?_ ?_
  · intro made has
    cases has
    exact agree
  · funext key
    exact congrArg Except.isOk (agree.imported key)

-- joserfc reads a signed token back: its header and payload, and the claims under the
-- public half of the key.
def SameKey (key : PublicKey) (jwk : PublicJwk) : Prop := ∀ name, key.get name = (publicKeyOf jwk.claim).get name

structure ReadBack (jose : Jose) (token : String) (jwk : PublicJwk) (typ : String) (claims : Claims) : Prop where
  compact : jose.extractCompact token =
    .ok (protectedHeader typ,.dict (claims.entries.map (fun claim => (.str claim.1,claim.2))))
  imported : ∀ key, SameKey key jwk → jose.importKey key = .ok ()
  decoded : ∀ key, SameKey key jwk → jose.decode token key = .ok claims

-- joserfc verifies what jose signs.
def Verifies (jose : Jose) (sign : PrivateJwk → Dict String Value → Claims → String) (pair : Ed25519KeyPair) (typ : String)
    (claims : Claims) : Prop :=
  ReadBack jose (sign pair.privateJwk (protectedHeader typ) claims) pair.publicJwk typ claims

-- What `connectAgent` and `signAgentJwt` sign.
def connectClaims (host : HostContext) (hostPair agentPair : Ed25519KeyPair) (options : ConnectAgentOptions) (dateNow : DateNow)
    (ulid : String) : Claims :=
  hostClaims host.hostThumbprint hostPair.publicJwk (some agentPair.publicJwk) (.one options.audience) dateNow.seconds
    defaultHostJwtTtlSeconds ulid

def agentTokenClaims (agent : AgentContext) (aud : Audience) (capabilities : Option (List String)) (dateNow : DateNow)
    (ulid : String) : Claims :=
  agentClaims agent.hostThumbprint agent.agentId aud capabilities dateNow.seconds ulid

def hostIdOf (s : Provider) (thumbprint : String) : String :=
  ((s.hosts.getByPublicKey thumbprint).map HostIdentity.hostId).getD (hostUrnFromThumbprint thumbprint)

-- The first session that the provider has of the host under the agent's key is stored
-- under the id that the client made up itself.
def Premade (s : Provider) (agent : AgentContext) : Prop :=
  ∃ agentTp existing, AgentIdentity.jwkThumbprintSha256 c.digest (publicKeyOf agent.publicJwk.claim) = some agentTp ∧
    findExisting c.digest agentTp (s.agents.listByHost (hostIdOf s agent.hostThumbprint)) = .ok (some existing) ∧
    existing.agentId = agent.agentId

-- The session is live and the host's, under the key it was registered with, and the
-- token is presented in time and for the first time.
structure Usable (s : Provider) (agent : AgentContext) (agentId : String) (issued : Int) (ulid : String) (call : AgentJwt.Call)
    (input : AgentJwt.Input) : Prop where
  session : ∃ row host, s.agents.get agentId = some row ∧ row.status = .active ∧ SameKey row.publicKey agent.publicJwk ∧
    checkAgentExpiry input.now row = .active ∧ s.hosts.getByPublicKey agent.hostThumbprint = some host ∧
    host.status ≠ .revoked ∧ host.hostId = row.hostId
  unexpired : input.now < (issued + agentJwtTtlSeconds) * 1000000
  issuedBefore : issued * 1000000 ≤ input.now + HostJwt.iatMaxFutureSkew
  first : call.jtiReplayCache = true →
    recordedAt (pruneExpired s.machine.store.cache input.cacheNow) (agentId,"jwt_" ++ ulid) input.cacheNow = false

theorem agentId_not_ulid (id : Ulid) (randomUuid : String) : id.value ≠ "agent_" ++ randomUuid := by
  intro same
  have encoded := List.all_eq_true.mp id.encoded.2
  rw [same,String.toList_append] at encoded
  have first := encoded 'a' (List.mem_append_left _ (by decide))
  revert first
  decide

theorem lookup_entries (claims : Claims) (name : String) :
    lookup name (claims.entries.map (fun claim => (.str claim.1,claim.2))) = claims.get name := by
  unfold Dict.get
  generalize claims.entries = entries
  induction entries with
  | nil => rfl
  | cons entry rest ih =>
    unfold lookup at ih ⊢
    simp only [List.map_cons,List.find?_cons,find]
    by_cases same : entry.1 = name
    · simp [same]
    · simp only [Key.str.injEq,same,decide_false,if_false]
      exact ih

-- The claims of a Host JWT that the register handler reads.
theorem hostClaims_get (hostThumbprint : String) (hostPub agentPub : PublicJwk) (aud : Audience) (now ttl : Int) (ulid : String) :
    let claims := hostClaims hostThumbprint hostPub (some agentPub) aud now ttl ulid
    claims.get hostPublicKeyClaim = some (.dict hostPub.claim) ∧ claims.get agentPublicKeyClaim = some (.dict agentPub.claim) ∧
      claims.get "iss" = some (.str hostThumbprint) := by
  simp [hostClaims,Dict.get_set,hostPublicKeyClaim,agentPublicKeyClaim]

theorem agentClaims_get (hostThumbprint agentId : String) (aud : Audience) (capabilities : Option (List String)) (now : Int)
    (ulid : String) :
    let claims := agentClaims hostThumbprint agentId aud capabilities now ulid
    claims.get "iss" = some (.str hostThumbprint) ∧ claims.get "sub" = some (.str agentId) ∧
      claims.get "iat" = some (.int now) ∧ claims.get "exp" = some (.int (now + agentJwtTtlSeconds)) ∧
      claims.get "jti" = some (.str ("jwt_" ++ ulid)) := by
  simp [agentClaims,Dict.get_set]

-- A registration that succeeds names the first session of the host under the key, or
-- the new one where there is none.
theorem register_reply (config : SelfAuth.Config) (s : SelfAuth.Server) (q : SelfAuth.Registration)
    (replied : (SelfAuth.register config s q).2 = .registered agentId status) :
    ∃ agentTp, AgentIdentity.jwkThumbprintSha256 config.digest q.key = some agentTp ∧
      ((∃ existing, findExisting config.digest agentTp (s.agents.listByHost q.host.hostId) = .ok (some existing) ∧
          agentId = existing.agentId) ∨
        (findExisting config.digest agentTp (s.agents.listByHost q.host.hostId) = .ok none ∧ agentId = q.agentId)) := by
  unfold SelfAuth.register at replied
  split at replied
  · cases replied
  · split at replied
    · cases replied
    · rename_i agentTp known
      refine ⟨agentTp,known,?_⟩
      split at replied
      · cases replied
      · rename_i existing scanned
        cases replied
        exact .inl ⟨existing,scanned,rfl⟩
      · rename_i scanned
        refine .inr ⟨scanned,?_⟩
        split at replied
        · unfold SelfAuth.registerPending at replied
          simp only at replied
          split at replied
          · rename_i reply refused
            -- the answer of the fresh session check is an error
            unfold SelfAuth.approvalFreshSessionResponse at refused
            split at refused
            · cases refused
            · obtain ⟨detail,_,failed⟩ := Option.map_eq_some_iff.mp refused
              cases failed
              cases replied
          · split at replied
            · split at replied <;> cases replied
            · cases replied
              rfl
        · unfold SelfAuth.registerGranted at replied
          simp only at replied
          split at replied
          · cases replied
          · cases replied
            rfl

-- What comes out of a token that joserfc reads back are its own claims.
theorem verifiedClaims_read (call : HostJwt.Call) (read : ReadBack c.jose call.token jwk typ claims)
    (hostPub : claims.get hostPublicKeyClaim = some (.dict jwk.claim)) :
    (∃ iss jti, HostJwt.verifiedClaims c.digest c.floatOfStr c.jose call = .ok (claims,(iss,jti)) ∧
        (claims.get "iss").bind text = some iss) ∨
      ∃ result, HostJwt.verifiedClaims c.digest c.floatOfStr c.jose call = .error result ∧ result.isAccepted = false := by
  have own : SameKey (publicKeyOf jwk.claim) jwk := fun _ => rfl
  unfold HostJwt.verifiedClaims
  rw [read.compact]
  simp only [lookup_entries,hostPub,read.imported _ own,read.decoded _ own,Except.bind]
  split
  · exact .inr ⟨_,rfl,rfl⟩
  · split
    · exact .inr ⟨_,rfl,rfl⟩
    · exact .inr ⟨_,rfl,rfl⟩
    · split
      · exact .inr ⟨_,rfl,rfl⟩
      · split
        · exact .inr ⟨_,rfl,rfl⟩
        · rename_i issuer
          split
          · exact .inr ⟨_,rfl,rfl⟩
          · exact .inl ⟨_,_,rfl,not_not.mp issuer⟩

theorem verifyHostBearer_read (s : Provider) (q : RegisterRequest) (read : ReadBack c.jose q.token jwk typ claims)
    (hostPub : claims.get hostPublicKeyClaim = some (.dict jwk.claim)) (issuer : claims.get "iss" = some (.str hostThumbprint))
    (accepted : (verifyHostBearer c s q).2 = .accepted found known) :
    found = claims ∧ known = s.hosts.getByPublicKey hostThumbprint := by
  unfold verifyHostBearer HostJwt.verifyHostJwt at accepted
  rcases verifiedClaims_read c ⟨q.token,some c.audience,true,q.nowTs,q.cacheNow,s.hosts.getByPublicKey⟩ read hostPub with
    ⟨iss,jti,verified,named⟩ | ⟨result,refused,failed⟩
  · rw [verified] at accepted
    simp only at accepted
    rw [issuer] at named
    cases named
    split at accepted
    · unfold HostJwt.resolveHost at accepted
      simp only at accepted
      split at accepted
      · cases accepted
      · cases accepted
        exact ⟨rfl,rfl⟩
    · cases accepted
  · rw [refused] at accepted
    simp only at accepted
    rw [accepted] at failed
    cases failed

theorem respond_registered (host : HostIdentity) (reply : AgentRegistration.Reply)
    (responded : respond host reply = .registered agentId hostId status) : reply = .registered agentId status := by
  cases reply with
  | registered => cases responded; rfl
  | failed => cases responded

theorem registerAgent_reply (s : Provider) (q : RegisterRequest) (claims : Claims) (iss : String) (key : PublicKey)
    (responded : (registerAgent c s q claims iss (s.hosts.getByPublicKey iss) key).2 = .registered agentId hostId status) :
    ∃ agentTp, AgentIdentity.jwkThumbprintSha256 c.digest key = some agentTp ∧
      ((∃ existing, findExisting c.digest agentTp (s.agents.listByHost (hostIdOf s iss)) = .ok (some existing) ∧
          agentId = existing.agentId) ∨
        (findExisting c.digest agentTp (s.agents.listByHost (hostIdOf s iss)) = .ok none ∧ agentId = q.agentId.value)) := by
  unfold registerAgent at responded
  split at responded
  · cases responded
  · split at responded
    · simp only at responded
      split at responded
      · cases responded
      · have replied := register_reply c.server _ _ (respond_registered _ _ responded)
        have same (pending : HostIdentity) (named : pending.hostId = hostUrnFromThumbprint iss) :
            ((s.hosts.getByPublicKey iss).getD pending).hostId = hostIdOf s iss := by
          unfold hostIdOf
          cases s.hosts.getByPublicKey iss with
          | none => exact named
          | some host => rfl
        simp only [same] at replied
        exact replied
    · cases responded

-- The id that a registration of the client's agent is answered with is the client's own
-- only where the provider stored it before.
theorem registered_premade (s : Provider) (q : RegisterRequest) (agent : AgentContext) (hostJwk : PublicJwk) (aud : Audience)
    (now ttl : Int) (ulid : String)
    (read : ReadBack c.jose q.token hostJwk hostJwtTyp (hostClaims agent.hostThumbprint hostJwk (some agent.publicJwk) aud now ttl ulid))
    (named : agent.agentId = "agent_" ++ randomUuid)
    (responded : (handleAgentRegister c s q).2 = .registered agentId hostId status) :
    (agentId = agent.agentId ↔ Premade c s agent) ∧ strip agent.hostThumbprint ≠ "" ∧
      (AgentIdentity.jwkThumbprintSha256 c.digest (publicKeyOf agent.publicJwk.claim)).isSome = true := by
  obtain ⟨hostPub,agentPub,issuer⟩ := hostClaims_get agent.hostThumbprint hostJwk agent.publicJwk aud now ttl ulid
  unfold handleAgentRegister at responded
  simp only at responded
  split at responded
  · cases responded
  · split at responded <;> cases responded
  · rename_i found known accepted
    obtain ⟨rfl,rfl⟩ := verifyHostBearer_read c s q read hostPub issuer accepted
    rw [issuer] at responded
    simp only [Option.bind_some,text] at responded
    split at responded
    · cases responded
    · rename_i nonempty
      rw [agentPub] at responded
      simp only at responded
      obtain ⟨agentTp,carried,outcome⟩ := registerAgent_reply c (s.withCache _) q _ _ _ responded
      refine ⟨?_,nonempty,by simp [carried]⟩
      rcases outcome with ⟨existing,scanned,rfl⟩ | ⟨scanned,rfl⟩
      · constructor
        · intro own
          exact ⟨agentTp,existing,carried,scanned,own⟩
        · rintro ⟨otherTp,other,otherCarried,otherScanned,own⟩
          rw [carried] at otherCarried
          cases otherCarried
          cases scanned.symm.trans otherScanned
          exact own
      · constructor
        · intro own
          exact absurd (own.trans named) (agentId_not_ulid q.agentId randomUuid)
        · rintro ⟨otherTp,other,otherCarried,otherScanned,_⟩
          rw [carried] at otherCarried
          cases otherCarried
          cases scanned.symm.trans otherScanned

-- A verification of the token looks at no other session than the one that it names.
def Own (token agentId : String) : AgentJwt.Task → Prop
  | .reading call sub => call.token = token → sub = agentId
  | .resolving call agent _ _ | .sliding call agent _ _ | .touching call agent _ _ => call.token = token → agent.agentId = agentId
  | .answered call (.accepted _ _ agent) => call.token = token → agent.agentId = agentId
  | _ => True

theorem verifyStart_own (s : AgentJwt.Store) (call : AgentJwt.Call)
    (read : ReadBack c.jose token jwk typ claims) (named : claims.get "sub" = some (.str agentId)) :
    Own token agentId (AgentJwt.verifyStart c.jose s call).2.1 := by
  by_cases presented : call.token = token
  · unfold AgentJwt.verifyStart
    rw [presented,read.compact]
    simp only [lookup_entries,named]
    split
    · trivial
    · split
      · trivial
      · exact fun _ => rfl
  · unfold AgentJwt.verifyStart
    split
    · trivial
    · split
      · trivial
      · split
        · split
          · split
            · trivial
            · exact fun same => absurd same presented
          · trivial
        · trivial

theorem refused_own (call : AgentJwt.Call) (other : ∀ claims host agent, result ≠ .accepted claims host agent) :
    Own token agentId (.answered call result) := by
  cases result with
  | accepted claims host agent => exact absurd rfl (other claims host agent)
  | refused | raised => trivial

theorem verifyRead_own (s : AgentJwt.Store) (call : AgentJwt.Call) (sub : String) (nowTs : Int)
    (own : Own token agentId (.reading call sub)) :
    Own token agentId (AgentJwt.verifyRead c.floatOfStr c.jose s call sub nowTs).2.1 := by
  unfold AgentJwt.verifyRead
  split
  · trivial
  · rename_i agent found
    split
    · rename_i result failed
      exact refused_own call (AgentJwt.verifyClaims_refuses c.floatOfStr c.jose call agent nowTs result failed)
    · intro presented
      exact (s.agents.keyed sub agent found).trans (own presented)

theorem verifyHost_own (s : AgentJwt.Store) (call : AgentJwt.Call) (agent : AgentSession) (claims : Claims) (input : AgentJwt.Input)
    (own : call.token = token → agent.agentId = agentId) :
    Own token agentId (AgentJwt.verifyHost s call agent claims input).2.1 := by
  simp only [AgentJwt.verifyHost]
  split
  · trivial
  · split
    · trivial
    · split
      · trivial
      · split
        · rename_i result failed
          exact refused_own call (AgentJwt.jtiCheck_refuses s.cache call agent claims input.cacheNow result failed)
        · split
          · trivial
          · exact own

theorem verifySlide_own (s : AgentJwt.Store) (call : AgentJwt.Call) (agent : AgentSession) (claims : Claims) (host : HostIdentity)
    (now : Int) (own : call.token = token → agent.agentId = agentId) :
    Own token agentId (AgentJwt.verifySlide c.digest s call agent claims host now).2.1 := by
  unfold AgentJwt.verifySlide
  split
  · exact own
  · trivial
  · trivial

theorem verifyTouch_own (s : AgentJwt.Store) (call : AgentJwt.Call) (agent : AgentSession) (claims : Claims) (host : HostIdentity)
    (input : AgentJwt.Input) (own : call.token = token → agent.agentId = agentId) :
    Own token agentId (AgentJwt.verifyTouch c.digest s call agent claims host input).2.1 := by
  unfold AgentJwt.verifyTouch
  rcases touch_cases c.digest s.agents input.now agent.agentId agent.publicKey input.lastUsedAt agent.hostId with
    same | ⟨current,_,found,_,_,_,_,_,moved⟩
  · rw [same]
    trivial
  · rw [moved]
    intro presented
    exact (s.agents.keyed agent.agentId current found).trans (own presented)

theorem advance_own (s : AgentJwt.Store) (task : AgentJwt.Task) (input : AgentJwt.Input) (outcome : AgentJwt.Outcome)
    (read : ReadBack c.jose token jwk typ claims) (named : claims.get "sub" = some (.str agentId))
    (advanced : AgentJwt.advance c.digest c.floatOfStr c.jose c.importKey s task input = some outcome)
    (own : Own token agentId task) : Own token agentId outcome.2.1 := by
  cases task with
  | start call =>
    cases advanced
    exact verifyStart_own c s call read named
  | reading call sub =>
    cases advanced
    exact verifyRead_own c s call sub input.now own
  | resolving call agent claims iss =>
    cases advanced
    exact verifyHost_own s call agent claims input own
  | sliding call agent claims host =>
    cases advanced
    exact verifySlide_own c s call agent claims host input.now own
  | touching call agent claims host =>
    cases advanced
    exact verifyTouch_own c s call agent claims host input own
  | answered => cases advanced
  | lifecycle task =>
    obtain ⟨_,_,rfl⟩ := Option.map_eq_some_iff.mp advanced
    trivial
  | administered call =>
    obtain ⟨_,_,rfl⟩ := Option.map_eq_some_iff.mp advanced
    trivial
  | settled => cases advanced

theorem verifying_own (hosts : HostStore) (input : AgentJwt.Input) (fuel : Nat)
    (read : ReadBack c.jose token jwk typ claims) (named : claims.get "sub" = some (.str agentId)) (s : AgentJwt.Store)
    (task : AgentJwt.Task) (own : Own token agentId task) : Own token agentId (verifying c hosts input fuel s task) := by
  induction fuel generalizing s task with
  | zero => exact own
  | succ fuel ih =>
    unfold verifying
    split
    · exact own
    · rename_i next task' events advanced
      exact ih next task' (advance_own c s task _ _ read named advanced own)

def AllOwn (token agentId : String) (s : Provider) : Prop := ∀ id task, s.machine.tasks.get id = some task → Own token agentId task

theorem registerAgent_tasks (s : Provider) (q : RegisterRequest) (claims : Claims) (iss : String) (known : Option HostIdentity)
    (key : PublicKey) : (registerAgent c s q claims iss known key).1.machine.tasks = s.machine.tasks := by
  unfold registerAgent
  split
  · rfl
  · split
    · simp only
      split <;> rfl
    · rfl

theorem handleAgentRegister_tasks (s : Provider) (q : RegisterRequest) :
    (handleAgentRegister c s q).1.machine.tasks = s.machine.tasks := by
  unfold handleAgentRegister
  simp only
  split
  · rfl
  · rfl
  · split
    · rfl
    · split
      · rfl
      · split
        · exact registerAgent_tasks c (s.withCache _) q _ _ _ _
        · rfl

-- Only the steps of the machine itself move its tasks.
theorem step_tasks (s next : Provider) (move : Move) (taken : step c s move = some next)
    (other : ∀ inner, move ≠ .verification inner) : next.machine.tasks = s.machine.tasks := by
  cases move with
  | register q =>
    simp only [step] at taken
    split at taken
    · cases taken
      exact handleAgentRegister_tasks c s q
    · cases taken
  | call made =>
    cases made with
    | register => cases taken
    | requestCapability | approve | deny | status =>
      simp only [step] at taken
      obtain ⟨server,_,rfl⟩ := Option.map_eq_some_iff.mp taken
      rfl
  | verification inner => exact absurd rfl (other inner)
  | saveHost host =>
    obtain ⟨hosts,_,rfl⟩ := Option.map_eq_some_iff.mp taken
    rfl
  | revokeHost hostId =>
    simp only [step] at taken
    split at taken
    · cases taken
      rfl
    · split at taken
      · cases taken
        rfl
      · cases taken
        rfl

theorem step_own (s next : Provider) (move : Move) (read : ReadBack c.jose token jwk typ claims)
    (named : claims.get "sub" = some (.str agentId)) (taken : step c s move = some next) (own : AllOwn token agentId s) :
    AllOwn token agentId next := by
  by_cases inner : ∃ inner, move = .verification inner
  · obtain ⟨inner,rfl⟩ := inner
    obtain ⟨machine,moved,rfl⟩ := Option.map_eq_some_iff.mp taken
    intro other waiting found
    cases inner with
    | arrive id task =>
      obtain ⟨arrives,_,rfl⟩ := Program.next_arrive _ s.machine machine id task moved
      simp only [Dict.get_set] at found
      split at found
      · cases found
        cases waiting <;> trivial
      · exact own other waiting found
    | proceed id input =>
      unfold Provider.reads at moved
      cases known : s.machine.tasks.get id with
      | none => simp [Program.next,known] at moved
      | some task =>
        simp only [known] at moved
        obtain ⟨task,store,task',events,known,advanced,rfl⟩ := Program.next_proceed _ s.machine machine id _ moved
        simp only [Dict.get_set] at found
        split at found
        · cases found
          exact advance_own c s.machine.store task _ _ read named advanced (own id task known)
        · exact own other waiting found
  · intro id task found
    rw [step_tasks c s next move taken (fun one same => inner ⟨one,same⟩)] at found
    exact own id task found

theorem strip_nonempty (value : String) (solid : Char) (member : solid ∈ value.toList) (visible : isSpace solid = false) :
    strip value ≠ "" := by
  intro blank
  have empty := congrArg String.toList blank
  simp only [strip,String.toList_ofList,String.toList_empty,List.reverse_eq_nil_iff,List.dropWhile_eq_nil_iff,
    List.mem_reverse] at empty
  rw [← List.takeWhile_append_dropWhile (p := isSpace) (l := value.toList)] at member
  rcases List.mem_append.mp member with taken | dropped
  · rw [List.mem_takeWhile_imp taken] at visible
    cases visible
  · rw [empty solid dropped] at visible
    cases visible

theorem thumbprint_same (key : PublicKey) (jwk : PublicJwk) (same : SameKey key jwk) :
    AgentIdentity.jwkThumbprintSha256 c.digest key = AgentIdentity.jwkThumbprintSha256 c.digest (publicKeyOf jwk.claim) := by
  have members (kty : String) (names : List String) :
      requiredMembers key kty names = requiredMembers (publicKeyOf jwk.claim) kty names := by
    unfold requiredMembers
    simp only [same _]
  unfold AgentIdentity.jwkThumbprintSha256
  simp only [same _,members]

theorem toFloat_clock (dateNow : DateNow) (ttl : Int) (small : ttl.natAbs ≤ 100000) :
    toFloat c.floatOfStr (.int (dateNow.seconds + ttl)) = .ok (.finite (dateNow.seconds + ttl : Int)) := by
  have bounded := dateNow.bounded
  have range : (dateNow.seconds + ttl).natAbs < 8650000000000000 := by
    unfold DateNow.seconds
    omega
  unfold toFloat
  dsimp only
  split
  · rename_i large
    exact absurd (lt_of_le_of_lt large range) (by decide +kernel)
  · rfl

theorem verifyClaims_usable (call : AgentJwt.Call) (row : AgentSession) (agentId hostThumbprint ulid : String) (aud : Audience)
    (capabilities : Option (List String)) (dateNow : DateNow) (nowTs : Int)
    (read : ReadBack c.jose call.token jwk agentJwtTyp
      (agentClaims hostThumbprint agentId aud capabilities dateNow.seconds ulid))
    (own : row.agentId = agentId) (active : row.status = .active) (same : SameKey row.publicKey jwk)
    (issuer : strip hostThumbprint ≠ "") (unexpired : nowTs < (dateNow.seconds + agentJwtTtlSeconds) * 1000000)
    (issuedBefore : dateNow.seconds * 1000000 ≤ nowTs + HostJwt.iatMaxFutureSkew)
    (addressed : ∀ expected, call.expectedAudience = some expected → HostJwt.audienceMatchesExpected
      (agentClaims hostThumbprint agentId aud capabilities dateNow.seconds ulid) expected = true) :
    AgentJwt.verifyClaims c.floatOfStr c.jose call row nowTs =
      .ok (agentClaims hostThumbprint agentId aud capabilities dateNow.seconds ulid,hostThumbprint) := by
  obtain ⟨iss,sub,iat,exp,jti⟩ := agentClaims_get hostThumbprint agentId aud capabilities dateNow.seconds ulid
  generalize agentClaims hostThumbprint agentId aud capabilities dateNow.seconds ulid = claims at *
  have expires : HostJwt.expValid c.floatOfStr claims nowTs = .ok true := by
    have later : ((nowTs : Int) : Rat) < ((dateNow.seconds + agentJwtTtlSeconds : Int) : Rat) * 1000000 := by exact_mod_cast unexpired
    simp only [HostJwt.expValid,exp,Option.getD_some,toFloat_clock c dateNow agentJwtTtlSeconds (by decide),FloatValue.after,later,
      decide_true]
  have issued : HostJwt.iatNotInFuture c.floatOfStr claims nowTs = .ok true := by
    have earlier : ((dateNow.seconds : Int) : Rat) * 1000000 ≤ ((nowTs + HostJwt.iatMaxFutureSkew : Int) : Rat) := by
      exact_mod_cast issuedBefore
    have clock := toFloat_clock c dateNow 0 (by decide)
    rw [Int.add_zero] at clock
    simp only [HostJwt.iatNotInFuture,iat,Option.getD_some,clock,FloatValue.notAfter,earlier,decide_true]
  have named : HostJwt.jtiOf claims ≠ none := by
    have nonempty := strip_nonempty ("jwt_" ++ ulid) 'j' (by rw [String.toList_append]; exact List.mem_append_left _ (by decide))
      (by decide)
    simp [HostJwt.jtiOf,jti,nonempty]
  have standard : HostJwt.validateStandardClaims c.floatOfStr claims nowTs call.expectedAudience = .ok none := by
    unfold HostJwt.validateStandardClaims
    simp only [expires,issued,Except.bind,Bool.not_true,Bool.false_eq_true,if_false,named]
    split
    · rename_i expected known
      rw [if_pos (addressed expected known)]
    · rfl
  unfold AgentJwt.verifyClaims
  simp only [AgentLifecycle.unusableAgentError,active,read.imported _ same,read.decoded _ same,Except.bind,standard,sub,iss,
    Option.bind_some,text,own,ne_eq,not_true_eq_false,if_false,issuer]

theorem verifying_step (hosts : HostStore) (input : AgentJwt.Input) (fuel : Nat) (s next : AgentJwt.Store) (task task' : AgentJwt.Task)
    (advanced : AgentJwt.advance c.digest c.floatOfStr c.jose c.importKey s task (readHost hosts task input) = some (next,task',[])) :
    verifying c hosts input (fuel + 1) s task = verifying c hosts input fuel next task' := by
  simp only [verifying,advanced]

theorem verifyStart_read (s : AgentJwt.Store) (call : AgentJwt.Call) (read : ReadBack c.jose call.token jwk agentJwtTyp claims)
    (named : claims.get "sub" = some (.str agentId)) (nonempty : strip agentId ≠ "") :
    AgentJwt.verifyStart c.jose s call = (s,.reading call agentId,[]) := by
  have typ : ((protectedHeader agentJwtTyp).get "typ").bind text = some AgentJwt.agentJwtTyp := rfl
  unfold AgentJwt.verifyStart
  simp only [read.compact,typ,ne_eq,not_true_eq_false,if_false,lookup_entries,named,nonempty]

-- A token that is presented for the first time passes the replay cache.
theorem jtiCheck_first (cache : JtiReplayCache) (call : AgentJwt.Call) (agent : AgentSession) (claims : Claims) (ulid : String)
    (cacheNow : Int) (named : claims.get "jti" = some (.str ("jwt_" ++ ulid))) (nonempty : strip ("jwt_" ++ ulid) ≠ "")
    (first : call.jtiReplayCache = true → recordedAt (pruneExpired cache cacheNow) (agent.agentId,"jwt_" ++ ulid) cacheNow = false) :
    (AgentJwt.jtiCheck cache call agent claims cacheNow).2 = none := by
  unfold AgentJwt.jtiCheck
  split
  · rename_i recording
    simp only [HostJwt.jtiOf,named,nonempty,if_false,checkAndRecord,first recording,Bool.false_eq_true]
  · rfl

theorem verifyHost_usable (s : AgentJwt.Store) (call : AgentJwt.Call) (row : AgentSession) (claims : Claims) (input : AgentJwt.Input)
    (found : input.host = some host) (live : host.status ≠ .revoked) (own : host.hostId = row.hostId)
    (passed : (AgentJwt.jtiCheck s.cache call row claims input.cacheNow).2 = none)
    (unexpired : checkAgentExpiry input.now row = .active) :
    ∃ cache, AgentJwt.verifyHost s call row claims input = ({s with cache},.sliding call row claims host,[]) := by
  unfold AgentJwt.verifyHost
  simp only [found,live,own,if_false,ne_eq,not_true_eq_false,passed,AgentJwt.expiredAgentError,unexpired]
  exact ⟨_,rfl⟩

theorem verifySlide_usable (s : AgentJwt.Store) (call : AgentJwt.Call) (row : AgentSession) (claims : Claims) (host : HostIdentity)
    (now : Int) (found : s.agents.get row.agentId = some row) (active : row.status = .active)
    (carried : AgentIdentity.jwkThumbprintSha256 c.digest row.publicKey = some tp) (unexpired : checkAgentExpiry now row = .active) :
    AgentJwt.verifySlide c.digest s call row claims host now = (s,.touching call row claims host,[]) := by
  unfold AgentJwt.verifySlide AgentLifecycle.slideStart
  simp only [found,AgentLifecycle.unusableAgentError,active,ne_eq,not_true_eq_false,if_false,carried,unexpired]

theorem verifyTouch_usable (s : AgentJwt.Store) (call : AgentJwt.Call) (row : AgentSession) (claims : Claims) (host : HostIdentity)
    (input : AgentJwt.Input) (found : s.agents.get row.agentId = some row) (active : row.status = .active)
    (carried : AgentIdentity.jwkThumbprintSha256 c.digest row.publicKey = some tp) (unexpired : checkAgentExpiry input.now row = .active) :
    ∃ agents, AgentJwt.verifyTouch c.digest s call row claims host input =
      ({s with agents},.answered call (.accepted claims host {row with lastUsedAt := some input.lastUsedAt}),[]) := by
  unfold AgentJwt.verifyTouch AgentStore.touchIfCurrent
  simp only [found,active,ne_eq,not_true_eq_false,if_false,carried,unexpired]
  exact ⟨_,rfl⟩

-- Where the client's own id is the id of the session, a token is accepted as it.
theorem verify_usable (s : Provider) (agent : AgentContext) (call : AgentJwt.Call) (input : AgentJwt.Input) (aud : Audience)
    (capabilities : Option (List String)) (dateNow : DateNow) (ulid : String)
    (read : ReadBack c.jose call.token agent.publicJwk agentJwtTyp
      (agentClaims agent.hostThumbprint agent.agentId aud capabilities dateNow.seconds ulid))
    (addressed : ∀ expected, call.expectedAudience = some expected → HostJwt.audienceMatchesExpected
      (agentClaims agent.hostThumbprint agent.agentId aud capabilities dateNow.seconds ulid) expected = true)
    (nonempty : strip agent.agentId ≠ "") (issuer : strip agent.hostThumbprint ≠ "")
    (thumb : (AgentIdentity.jwkThumbprintSha256 c.digest (publicKeyOf agent.publicJwk.claim)).isSome = true)
    (usable : Usable s agent agent.agentId dateNow.seconds ulid call input) :
    AcceptedAs (verifyAgentJwt c s call input) call agent.agentId := by
  obtain ⟨⟨row,host,found,active,same,unexpired,known,live,owner⟩,early,late,first⟩ := usable
  have own : row.agentId = agent.agentId := s.agents.keyed agent.agentId row found
  obtain ⟨tp,carried⟩ := Option.isSome_iff_exists.mp thumb
  rw [← thumbprint_same c row.publicKey agent.publicJwk same] at carried
  obtain ⟨iss,sub,_,_,jti⟩ := agentClaims_get agent.hostThumbprint agent.agentId aud capabilities dateNow.seconds ulid
  have claimed := verifyClaims_usable c call row agent.agentId agent.hostThumbprint ulid aud capabilities dateNow input.now read own
    active same issuer early late addressed
  have visible := strip_nonempty ("jwt_" ++ ulid) 'j' (by rw [String.toList_append]; exact List.mem_append_left _ (by decide))
    (by decide)
  rw [← own] at found first
  generalize agentClaims agent.hostThumbprint agent.agentId aud capabilities dateNow.seconds ulid = claims at *
  have started := verifyStart_read c s.machine.store call read sub nonempty
  have reading : AgentJwt.verifyRead c.floatOfStr c.jose s.machine.store call agent.agentId input.now =
      (s.machine.store,.resolving call row claims agent.hostThumbprint,[]) := by
    have stored : s.machine.store.agents.get agent.agentId = some row := own ▸ found
    simp only [AgentJwt.verifyRead,stored,claimed]
  obtain ⟨cache,resolved⟩ := verifyHost_usable s.machine.store call row claims {input with host := some host} rfl live owner
    (jtiCheck_first s.machine.store.cache call row claims ulid input.cacheNow jti visible first) unexpired
  have slid := verifySlide_usable c {s.machine.store with cache} call row claims host input.now found active carried unexpired
  obtain ⟨agents,touched⟩ := verifyTouch_usable c {s.machine.store with cache} call row claims host input found active carried unexpired
  refine ⟨claims,host,{row with lastUsedAt := some input.lastUsedAt},?_,own⟩
  have asked : AgentJwt.verifyHost s.machine.store call row claims
      (readHost s.hosts (.resolving call row claims agent.hostThumbprint) input) =
      (⟨s.machine.store.agents,cache⟩,.sliding call row claims host,[]) := by
    simp only [readHost,known]
    exact resolved
  calc verifyAgentJwt c s call input
    _ = verifying c s.hosts input 4 s.machine.store (.reading call agent.agentId) :=
      verifying_step c s.hosts input 4 s.machine.store s.machine.store (.start call) _ (congrArg some started)
    _ = verifying c s.hosts input 3 s.machine.store (.resolving call row claims agent.hostThumbprint) :=
      verifying_step c s.hosts input 3 s.machine.store s.machine.store (.reading call agent.agentId) _ (congrArg some reading)
    _ = verifying c s.hosts input 2 ⟨s.machine.store.agents,cache⟩ (.sliding call row claims host) :=
      verifying_step c s.hosts input 2 s.machine.store ⟨s.machine.store.agents,cache⟩
        (.resolving call row claims agent.hostThumbprint) _ (congrArg some asked)
    _ = verifying c s.hosts input 1 ⟨s.machine.store.agents,cache⟩ (.touching call row claims host) :=
      verifying_step c s.hosts input 1 ⟨s.machine.store.agents,cache⟩ ⟨s.machine.store.agents,cache⟩ (.sliding call row claims host) _
        (congrArg some slid)
    _ = .answered call (.accepted claims host {row with lastUsedAt := some input.lastUsedAt}) :=
      verifying_step c s.hosts input 0 ⟨s.machine.store.agents,cache⟩ ⟨agents,cache⟩ (.touching call row claims host) _
        (congrArg some touched)

def presentedToken : AgentJwt.Task → Option String
  | .start call | .reading call _ | .resolving call _ _ _ | .sliding call _ _ _ | .touching call _ _ _ | .answered call _ => some call.token
  | .lifecycle _ | .administered _ | .settled => none

def Unpresented (s : Provider) (token : String) : Prop :=
  ∀ id task, s.machine.tasks.get id = some task → presentedToken task ≠ some token

theorem unpresented_own (s : Provider) (unpresented : Unpresented s token) (agentId : String) : AllOwn token agentId s := by
  intro id task found
  have other := unpresented id task found
  cases task with
  | reading call | resolving call | sliding call | touching call =>
    exact fun same => absurd (congrArg some same) other
  | answered call result =>
    cases result with
    | accepted => exact fun same => absurd (congrArg some same) other
    | refused | raised => trivial
  | start | lifecycle | administered | settled => trivial

-- The provider's end of `connectAgent`: the request is handled as it comes in.
def post (q : RegisterRequest) (token : String) (body : SelfAuth.RegisterBody) (s : Provider) : Provider × Response :=
  handleAgentRegister c s {q with token,body}

theorem createHost_ok (digest : String → String) (storage after : Storage) (pair : Ed25519KeyPair) (randomUuid : String) (host : HostContext)
    (made : createHost digest storage pair randomUuid = .ok (host,after)) :
    host.publicJwk = pair.publicJwk ∧ after.get (hostPrivateJwkKey host.hostId) = some pair.privateJwk := by
  unfold createHost at made
  have key : publicJwkForClaims pair.publicJwk = .ok pair.publicJwk := rfl
  rw [key] at made
  unfold TypescriptClient.jwkThumbprintSha256 at made
  rw [Except.bind,if_pos (by rfl)] at made
  cases made
  exact ⟨rfl,Dict.get_set_self _ _ _⟩

theorem createAgent_ok (storage after : Storage) (host : HostContext) (mode : AgentMode) (pair : Ed25519KeyPair) (randomUuid : String)
    (agent : AgentContext) (made : createAgent storage host mode pair randomUuid = (agent,after)) :
    agent.agentId = "agent_" ++ randomUuid ∧ agent.hostId = host.hostId ∧ agent.hostThumbprint = host.hostThumbprint ∧
      agent.publicJwk = pair.publicJwk ∧ after = storage.set (agentPrivateJwkKey agent.hostId agent.agentId) pair.privateJwk := by
  cases made
  exact ⟨rfl,rfl,rfl,rfl,rfl⟩

-- The names under which the two private keys are stored differ in length.
theorem keys_apart (hostId agentId : String) : agentPrivateJwkKey hostId agentId ≠ hostPrivateJwkKey hostId := by
  intro same
  have lengths := congrArg String.length same
  unfold agentPrivateJwkKey hostPrivateJwkKey at lengths
  repeat rw [String.length_append] at lengths
  have middle : 0 < "/agent/".length := by decide
  generalize "/agent/".length = between at middle lengths
  generalize "asap/v2/host/".length = start at lengths
  generalize "/ed25519-private.jwk.json".length = ending at lengths
  omega

theorem connectAgent_ok (sign : PrivateJwk → Dict String Value → Claims → String) (kept : Storage) (host : HostContext)
    (agent : AgentContext) (hostPair agentPair : Ed25519KeyPair) (capabilities : List String) (options : ConnectAgentOptions)
    (connectedAt : DateNow) (ulid : String) (q : RegisterRequest) (s next : Provider) (result : ConnectAgentResult)
    (stored : kept.get (hostPrivateJwkKey host.hostId) = some hostPair.privateJwk) (hostJwk : host.publicJwk = hostPair.publicJwk)
    (agentJwk : agent.publicJwk = agentPair.publicJwk)
    (connected : connectAgent sign kept host agent capabilities options connectedAt ulid (post c q) s = (next,.ok result)) :
    ∃ request : RegisterRequest, request.token = sign hostPair.privateJwk (protectedHeader hostJwtTyp)
        (connectClaims host hostPair agentPair options connectedAt ulid) ∧
      handleAgentRegister c s request = (next,.registered result.agentId result.hostId result.status) := by
  have hostKey : publicJwkForClaims hostPair.publicJwk = .ok hostPair.publicJwk := rfl
  have agentKey : (some agentPair.publicJwk).mapM publicJwkForClaims = (.ok (some agentPair.publicJwk) : Except String _) := rfl
  unfold connectAgent signHostJwt at connected
  rw [stored,hostJwk,agentJwk] at connected
  simp only [hostKey,agentKey,Except.bind,Except.map,Option.getD_none,post] at connected
  refine ⟨{q with
    token := sign hostPair.privateJwk (protectedHeader hostJwtTyp) (connectClaims host hostPair agentPair options connectedAt ulid)
    body := registerBody capabilities options},rfl,?_⟩
  unfold connectClaims
  generalize handleAgentRegister c s _ = outcome at connected ⊢
  obtain ⟨after,response⟩ := outcome
  cases response with
  | registered =>
    cases connected
    rfl
  | failed => cases connected

-- A session that `connectAgent` registered accepts the agent's tokens exactly where the
-- provider had the agent's session stored under the client's own id beforehand; elsewhere no
-- token is ever accepted as that session, whatever runs beside its verification.
theorem typescript_sessions_verify_iff (sign : PrivateJwk → Dict String Value → Claims → String) (storage afterHost made kept : Storage)
    (hostPair agentPair : Ed25519KeyPair) (hostUuid agentUuid : String) (mode : AgentMode) (host : HostContext) (agent : AgentContext)
    (hostMade : createHost c.digest storage hostPair hostUuid = .ok (host,afterHost))
    (agentMade : createAgent afterHost host mode agentPair agentUuid = (agent,made))
    (keeps : ∀ name jwk, made.get name = some jwk → kept.get name = some jwk)
    (capabilities : List String) (options : ConnectAgentOptions) (connectedAt : DateNow) (connectUlid : String)
    (q : RegisterRequest) (s connected : Provider) (result : ConnectAgentResult)
    (connects : connectAgent sign kept host agent capabilities options connectedAt connectUlid (post c q) s = (connected,.ok result))
    (hostRead : Verifies c.jose sign hostPair hostJwtTyp (connectClaims host hostPair agentPair options connectedAt connectUlid))
    (moves : List Move) (final : Provider) (run : Runs (step c) (fun _ _ => True) connected moves final)
    (aud : Audience) (names : Option (List String)) (dateNow : DateNow) (ulid token : String)
    (signed : signAgentJwt sign kept agent aud names dateNow ulid = .ok token)
    (agentRead : Verifies c.jose sign agentPair agentJwtTyp (agentTokenClaims agent aud names dateNow ulid)) :
    (∀ call input, call.token = token →
      (∀ expected, call.expectedAudience = some expected →
        HostJwt.audienceMatchesExpected (agentTokenClaims agent aud names dateNow ulid) expected = true) →
      Usable final agent result.agentId dateNow.seconds ulid call input →
      (AcceptedAs (verifyAgentJwt c final call input) call result.agentId ↔ Premade c s agent)) ∧
    (¬Premade c s agent → Unpresented s token → ∀ id task call, final.machine.tasks.get id = some task → call.token = token →
      ¬AcceptedAs task call result.agentId) := by
  obtain ⟨hostJwk,hostStored⟩ := createHost_ok c.digest storage afterHost hostPair hostUuid host hostMade
  obtain ⟨named,hosted,thumbprint,agentJwk,rfl⟩ := createAgent_ok afterHost made host mode agentPair agentUuid agent agentMade
  have hostKept := keeps _ _ ((Dict.get_set_other _ _ (hosted ▸ keys_apart agent.hostId agent.agentId)).trans hostStored)
  have agentKept := keeps _ _ (Dict.get_set_self _ _ _)
  obtain ⟨request,carried,handled⟩ := connectAgent_ok c sign kept host agent hostPair agentPair capabilities options connectedAt
    connectUlid q s connected result hostKept hostJwk agentJwk connects
  have registered : ReadBack c.jose request.token hostPair.publicJwk hostJwtTyp
      (hostClaims agent.hostThumbprint hostPair.publicJwk (some agent.publicJwk) (.one options.audience) connectedAt.seconds
        defaultHostJwtTtlSeconds connectUlid) := by
    rw [carried,thumbprint,agentJwk]
    exact hostRead
  obtain ⟨own,issuer,thumb⟩ := registered_premade c s request agent hostPair.publicJwk (.one options.audience) connectedAt.seconds
    defaultHostJwtTtlSeconds connectUlid registered named (congrArg Prod.snd handled)
  have tokenRead : ReadBack c.jose token agentPair.publicJwk agentJwtTyp (agentTokenClaims agent aud names dateNow ulid) := by
    unfold signAgentJwt at signed
    rw [agentKept] at signed
    cases signed
    exact agentRead
  have sub := (agentClaims_get agent.hostThumbprint agent.agentId aud names dateNow.seconds ulid).2.1
  refine ⟨?_,?_⟩
  · intro call input presented addressed usable
    rw [← own]
    constructor
    · rintro ⟨claims,known,row,accepted,same⟩
      have followed := verifying_own c final.hosts input 5 tokenRead sub final.machine.store (.start call) trivial
      unfold verifyAgentJwt at accepted
      rw [accepted] at followed
      exact same.symm.trans (followed presented)
    · intro same
      have visible : strip agent.agentId ≠ "" := named ▸ strip_nonempty ("agent_" ++ agentUuid) 'a'
        (by rw [String.toList_append]; exact List.mem_append_left _ (by decide)) (by decide)
      rw [same] at usable ⊢
      have read : ReadBack c.jose call.token agent.publicJwk agentJwtTyp (agentTokenClaims agent aud names dateNow ulid) := by
        rw [presented,agentJwk]
        exact tokenRead
      exact verify_usable c final agent call input aud names dateNow ulid read addressed visible issuer thumb usable
  · rintro fresh unpresented id task call answered presented ⟨claims,known,row,rfl,same⟩
    have start : AllOwn token agent.agentId connected := by
      have before := unpresented_own s unpresented agent.agentId
      have tasks := handleAgentRegister_tasks c s request
      rw [handled] at tasks
      intro id task found
      rw [tasks] at found
      exact before id task found
    have followed := run.invariant (AllOwn token agent.agentId) (fun s move next _ taken => step_own c s next move tokenRead sub taken) start
    exact fresh (own.mp (same.symm.trans (followed id _ answered presented)))

-- A client with two key pairs, and what it signs: the registration at 1700000000, a
-- token of the agent five seconds later.
def hostKeyPair : Ed25519KeyPair where
  x := "PUAXw-hDiVqStwqnTRt-vJyYLM8uxJaMwM1V8Sr0Zgw"
  d := "TM0Imyj_ltqdtsNG7BFOD1uKMZ81q6Yk2oz27U-4pvs"
  encoded := by decide +kernel

def agentKeyPair : Ed25519KeyPair where
  x := "11qYAYKxCrfVS_7TyWQHOg7hcvPapiMlrwIaaPcHURo"
  d := "nWGxne_9WmC6hEr0kuwsxERJxWl7MmkZcDusAxyuf2A"
  encoded := by decide +kernel

def clientHost : HostContext where
  hostId := "host_" ++ "0b8f5c0e-6f1d-4d0a-9a53-2c1e7f4b9d10"
  hostThumbprint := "FtIu-VbGrfe_KB6CH7GNwODB72MNxj_ml11dEvO-7kk"
  publicJwk := hostKeyPair.publicJwk

def clientAgent : AgentContext where
  agentId := "agent_" ++ "7d9f0c1e-52ab-4c7e-8f43-1b6a9d20e5c8"
  hostId := clientHost.hostId
  mode := .delegated
  hostThumbprint := clientHost.hostThumbprint
  publicJwk := agentKeyPair.publicJwk

def hostStorage : Storage := Dict.empty.set (hostPrivateJwkKey clientHost.hostId) hostKeyPair.privateJwk
def clientStorage : Storage := hostStorage.set (agentPrivateJwkKey clientHost.hostId clientAgent.agentId) agentKeyPair.privateJwk

theorem clientHost_made :
    createHost keyDigest .empty hostKeyPair "0b8f5c0e-6f1d-4d0a-9a53-2c1e7f4b9d10" = .ok (clientHost,hostStorage) := by
  have thumb : (publicJwkForClaims hostKeyPair.publicJwk).bind (TypescriptClient.jwkThumbprintSha256 keyDigest) =
      .ok clientHost.hostThumbprint := by decide
  unfold createHost
  rw [thumb]
  rfl

def clientOptions : ConnectAgentOptions := {audience := "urn:asap:agent:server"}
def connectedAt : DateNow := ⟨1700000000000,by decide⟩
def signedAt : DateNow := ⟨1700000005000,by decide⟩

def registerClaims : Claims := connectClaims clientHost hostKeyPair agentKeyPair clientOptions connectedAt "01HF7YAT00000000000000000A"
def sessionClaims : Claims := agentTokenClaims clientAgent (.one "urn:asap:agent:server") none signedAt "01HF7YAT4W000000000000000B"

def registerToken : String :=
  "eyJhbGciOiJFZERTQSIsInR5cCI6Imhvc3Qrand0" ++ "In0.eyJob3N0X3B1YmxpY19rZXkiOnsiY3J2Ijoi" ++
    "RWQyNTUxOSIsImt0eSI6Ik9LUCIsIngiOiJQVUFY" ++ "dy1oRGlWcVN0d3FuVFJ0LXZKeVlMTTh1eEphTXdN" ++
    "MVY4U3IwWmd3In0sImFnZW50X3B1YmxpY19rZXki" ++ "OnsiY3J2IjoiRWQyNTUxOSIsImt0eSI6Ik9LUCIs" ++
    "IngiOiIxMXFZQVlLeENyZlZTXzdUeVdRSE9nN2hj" ++ "dlBhcGlNbHJ3SWFhUGNIVVJvIn0sImlzcyI6IkZ0" ++
    "SXUtVmJHcmZlX0tCNkNIN0dOd09EQjcyTU54al9t" ++ "bDExZEV2Ty03a2siLCJhdWQiOiJ1cm46YXNhcDph" ++
    "Z2VudDpzZXJ2ZXIiLCJpYXQiOjE3MDAwMDAwMDAs" ++ "ImV4cCI6MTcwMDAwMDMwMCwianRpIjoiand0XzAx" ++
    "SEY3WUFUMDAwMDAwMDAwMDAwMDAwMDBBIn0.phXf" ++ "EvSwE7DgnGatZm_Z0LDGEjHKSVpWzvUy76BWsJzs" ++
    "lgthvbvg4BOO-_kMGHrS_F-uL0OgvCrlHcOfm76T" ++ "DQ"

def sessionToken : String :=
  "eyJhbGciOiJFZERTQSIsInR5cCI6ImFnZW50K2p3" ++ "dCJ9.eyJpc3MiOiJGdEl1LVZiR3JmZV9LQjZDSDd" ++
    "HTndPREI3Mk1OeGpfbWwxMWRFdk8tN2trIiwic3V" ++ "iIjoiYWdlbnRfN2Q5ZjBjMWUtNTJhYi00YzdlLTh" ++
    "mNDMtMWI2YTlkMjBlNWM4IiwiYXVkIjoidXJuOmF" ++ "zYXA6YWdlbnQ6c2VydmVyIiwiaWF0IjoxNzAwMDA" ++
    "wMDA1LCJleHAiOjE3MDAwMDAwNjUsImp0aSI6Imp" ++ "3dF8wMUhGN1lBVDRXMDAwMDAwMDAwMDAwMDAwQiJ" ++
    "9.bxPZ0s0-xXQrCnTo0vgYviWhIn0xMunY_12f3Z" ++ "m73XuDISOC4Jv5l4CnzGiDkzxybMkcxwa75WOrWO" ++ "bR7oalAg"

-- jose and joserfc as far as these two tokens go.
def clientSign (_ : PrivateJwk) (header : Dict String Value) (_ : Claims) : String :=
  if (header.get "typ").bind text = some hostJwtTyp then registerToken else sessionToken

def clientJose : Jose where
  extractCompact token :=
    if token = registerToken then
      .ok (protectedHeader hostJwtTyp,.dict (registerClaims.entries.map (fun claim => (.str claim.1,claim.2))))
    else if token = sessionToken then
      .ok (protectedHeader TypescriptClient.agentJwtTyp,.dict (sessionClaims.entries.map (fun claim => (.str claim.1,claim.2))))
    else .error "Invalid JWS"
  importKey _ := .ok ()
  decode token key :=
    if token = registerToken ∧ (key.get "x").bind text = some hostKeyPair.x then .ok registerClaims
    else if token = sessionToken ∧ (key.get "x").bind text = some agentKeyPair.x then .ok sessionClaims
    else .error "bad_signature: "

theorem tokens_apart : sessionToken ≠ registerToken := by decide

theorem clientSign_register (key : PrivateJwk) (claims : Claims) : clientSign key (protectedHeader hostJwtTyp) claims = registerToken :=
  if_pos (by decide)

theorem clientSign_session (key : PrivateJwk) (claims : Claims) :
    clientSign key (protectedHeader TypescriptClient.agentJwtTyp) claims = sessionToken :=
  if_neg (by decide)

theorem hostKey_stored : clientStorage.get (hostPrivateJwkKey clientHost.hostId) = some hostKeyPair.privateJwk :=
  (Dict.get_set_other _ _ (keys_apart _ _)).trans (Dict.get_set_self _ _ _)

theorem agentKey_stored : clientStorage.get (agentPrivateJwkKey clientAgent.hostId clientAgent.agentId) = some agentKeyPair.privateJwk :=
  Dict.get_set_self _ _ _

theorem registerToken_signed (ulid : String) : signHostJwt clientSign clientStorage clientHost (.one clientOptions.audience)
    (some clientAgent.publicJwk) none connectedAt ulid = .ok registerToken := by
  unfold signHostJwt
  rw [hostKey_stored]
  exact congrArg Except.ok (clientSign_register _ _)

theorem sessionToken_signed (ulid : String) :
    signAgentJwt clientSign clientStorage clientAgent (.one "urn:asap:agent:server") none signedAt ulid = .ok sessionToken := by
  unfold signAgentJwt
  rw [agentKey_stored]
  exact congrArg Except.ok (clientSign_session _ _)

theorem sameKey_x (pair : Ed25519KeyPair) (same : SameKey key pair.publicJwk) : (key.get "x").bind text = some pair.x := by
  rw [same "x"]
  rfl

theorem registerToken_verifies : Verifies clientJose clientSign hostKeyPair hostJwtTyp registerClaims := by
  unfold Verifies
  rw [clientSign_register]
  refine ⟨?_,?_,?_⟩
  · simp only [clientJose,if_true]
  · intro key same
    rfl
  · intro key same
    simp only [clientJose,sameKey_x hostKeyPair same,and_self,if_true]

theorem sessionToken_verifies : Verifies clientJose clientSign agentKeyPair TypescriptClient.agentJwtTyp sessionClaims := by
  unfold Verifies
  rw [clientSign_session]
  refine ⟨?_,?_,?_⟩
  · simp only [clientJose,tokens_apart,if_false,if_true]
  · intro key same
    rfl
  · intro key same
    simp only [clientJose,tokens_apart,false_and,if_false,sameKey_x agentKeyPair same,and_self,if_true]

-- A provider with the host, which may have one capability without approval.
def shopConfig : Config where
  repr := Capabilities.quoted
  digest := keyDigest
  floatOfStr _ := none
  jose := clientJose
  audience := .one "urn:asap:agent:server"
  fresh := none
  hostSupportsCiba := true

def shopHost : HostIdentity where
  hostId := "h1"
  publicKey := publicKeyOf hostKeyPair.publicJwk.claim
  defaultCapabilities := ["file:read"]
  status := .active

def shopProvider (agents : AgentStore) : Provider where
  machine := Machine.init ⟨agents,JtiReplay.init⟩
  registry := (SelfAuth.Server.init SelfAuth.adminDefinitions).registry
  approvals := .empty
  verified := []
  hosts := ⟨Dict.empty.set "h1" shopHost,Dict.empty.set clientHost.hostThumbprint "h1"⟩

def shopRequest : RegisterRequest where
  token := ""
  body := registerBody [] clientOptions
  nowTs := 1700000001000000
  cacheNow := 1700000001000000
  now := 1700000001000000
  agentId := ⟨"01HF7YATRG0000000000000001",by decide +kernel⟩
  userCode := "AB12CD34"
  verifier := SelfAuth.oneAnswer

def connecting (agents : AgentStore) : Provider × Except String ConnectAgentResult :=
  connectAgent clientSign clientStorage clientHost clientAgent ["file:read"] clientOptions connectedAt "01HF7YAT00000000000000000A"
    (post shopConfig shopRequest) (shopProvider agents)

def presentedSession : AgentJwt.Call := ⟨sessionToken,some (.one "urn:asap:agent:server"),true⟩
def presenting : AgentJwt.Input := ⟨1700000010000000,1700000010000000,1700000010000000,none⟩

def refusalOf : AgentJwt.Task → Option String
  | .answered _ (.refused error) => some error
  | _ => none

def connectedAs (outcome : Except String ConnectAgentResult) : Option (String × AgentSessionStatus) :=
  match outcome with
  | .ok result => some (result.agentId,result.status)
  | .error _ => none

def shownKey (key : PublicKey) : List (String × Option String) := key.entries.map (fun member => (member.1,text member.2))

theorem text_injective {left right : Value} {value : String} (same : text left = some value) (other : text right = some value) : left = right := by
  cases left <;> cases same
  cases right <;> cases other
  rfl

theorem shown_entries {left right : List (String × Value)} (plain : ∀ member ∈ right, (text member.2).isSome = true)
    (shown : left.map (fun member => (member.1,text member.2)) = right.map (fun member => (member.1,text member.2))) : left = right := by
  induction left generalizing right with
  | nil => exact (List.map_eq_nil_iff.mp shown.symm).symm
  | cons head rest ih =>
    cases right with
    | nil => cases shown
    | cons other others =>
      simp only [List.map_cons,List.cons.injEq,Prod.mk.injEq] at shown
      obtain ⟨⟨name,shownValue⟩,later⟩ := shown
      obtain ⟨value,known⟩ := Option.isSome_iff_exists.mp (plain other List.mem_cons_self)
      have same : head = other := Prod.ext name (text_injective (shownValue.trans known) known)
      rw [same,ih (fun member inside => plain member (List.mem_cons_of_mem _ inside)) later]

theorem shownKey_same (key : PublicKey) (pair : Ed25519KeyPair) (shown : shownKey key = shownKey (publicKeyOf pair.publicJwk.claim)) :
    SameKey key pair.publicJwk := by
  have entries : key.entries = (publicKeyOf pair.publicJwk.claim).entries := by
    refine shown_entries ?_ shown
    intro member inside
    have plain : ∀ member ∈ [("crv",Value.str "Ed25519"),("kty",.str "OKP"),("x",.str pair.x)], (text member.2).isSome = true := by
      simp [text]
    exact plain member inside
  intro name
  rw [Dict.ext entries]

def usableCheck (s : Provider) (agentId : String) (now : Int) : Bool :=
  match s.agents.get agentId,s.hosts.getByPublicKey clientAgent.hostThumbprint with
  | some row,some host =>
    decide (row.status = .active) && decide (shownKey row.publicKey = shownKey (publicKeyOf agentKeyPair.publicJwk.claim)) &&
      decide (checkAgentExpiry now row = .active) && decide (host.status ≠ .revoked) && decide (host.hostId = row.hostId)
  | _,_ => false

theorem usableCheck_usable (s : Provider) (agentId : String) (call : AgentJwt.Call) (checked : usableCheck s agentId presenting.now = true)
    (first : recordedAt (pruneExpired s.machine.store.cache presenting.cacheNow) (agentId,"jwt_" ++ "01HF7YAT4W000000000000000B")
      presenting.cacheNow = false) :
    Usable s clientAgent agentId signedAt.seconds "01HF7YAT4W000000000000000B" call presenting := by
  unfold usableCheck at checked
  split at checked
  · rename_i row host found known
    simp only [Bool.and_eq_true,decide_eq_true_eq] at checked
    obtain ⟨⟨⟨⟨active,shown⟩,unexpired⟩,live⟩,own⟩ := checked
    exact ⟨⟨row,host,found,active,shownKey_same row.publicKey agentKeyPair shown,unexpired,known,live,own⟩,by decide,by decide,
      fun _ => first⟩
  · cases checked

theorem connectedAs_ok (shown : connectedAs outcome = some (agentId,status)) :
    ∃ result : ConnectAgentResult, outcome = .ok result ∧ result.agentId = agentId ∧ result.status = status := by
  unfold connectedAs at shown
  split at shown
  · rename_i result
    cases shown
    exact ⟨result,rfl,rfl,rfl⟩
  · cases shown

-- What a connected client finds: the reply, whether the session is usable and whether
-- its first token is refused.
def found (outcome : Provider × Except String ConnectAgentResult) (agentId : String) :
    Option (String × AgentSessionStatus) × Bool × Option String :=
  (connectedAs outcome.2,
    usableCheck outcome.1 agentId presenting.now &&
      !recordedAt (pruneExpired outcome.1.machine.store.cache presenting.cacheNow) (agentId,"jwt_" ++ "01HF7YAT4W000000000000000B")
        presenting.cacheNow,
    refusalOf (verifyAgentJwt shopConfig outcome.1 presentedSession presenting))

theorem found_parts (outcome : Provider × Except String ConnectAgentResult)
    (shown : found outcome agentId = (some (agentId,status),true,refused)) :
    (∃ result : ConnectAgentResult, outcome.2 = .ok result ∧ result.agentId = agentId ∧ result.status = status) ∧
      Usable outcome.1 clientAgent agentId signedAt.seconds "01HF7YAT4W000000000000000B" presentedSession presenting ∧
      refusalOf (verifyAgentJwt shopConfig outcome.1 presentedSession presenting) = refused := by
  simp only [found,Prod.mk.injEq,Bool.and_eq_true,Bool.not_eq_true'] at shown
  obtain ⟨replied,⟨checked,first⟩,refusal⟩ := shown
  exact ⟨connectedAs_ok replied,usableCheck_usable outcome.1 agentId presentedSession checked first,refusal⟩

-- What `clientJose` is for one of the tokens.
def readOnly (typ : String) (claims : Claims) (pair : Ed25519KeyPair) : Jose where
  extractCompact _ := .ok (protectedHeader typ,.dict (claims.entries.map (fun claim => (.str claim.1,claim.2))))
  importKey _ := .ok ()
  decode _ key := if (key.get "x").bind text = some pair.x then .ok claims else .error "bad_signature: "

theorem registerToken_agree : Agree clientJose (readOnly hostJwtTyp registerClaims hostKeyPair) registerToken where
  compact := by simp only [clientJose,readOnly,if_true]
  imported _ := rfl
  decoded _ := by simp only [clientJose,readOnly,true_and,tokens_apart.symm,false_and,if_false]

theorem sessionToken_agree : Agree clientJose (readOnly TypescriptClient.agentJwtTyp sessionClaims agentKeyPair) sessionToken where
  compact := by simp only [clientJose,readOnly,tokens_apart,if_false,if_true]
  imported _ := rfl
  decoded _ := by simp only [clientJose,readOnly,true_and,tokens_apart,false_and,if_false]

theorem connectAgent_sends {σ : Type} (fetch : String → SelfAuth.RegisterBody → σ → σ × Response) (s : σ) (ulid : String) :
    connectAgent clientSign clientStorage clientHost clientAgent ["file:read"] clientOptions connectedAt ulid fetch s =
      ((fetch registerToken (registerBody ["file:read"] clientOptions) s).1,
        connectResult (fetch registerToken (registerBody ["file:read"] clientOptions) s).2) := by
  unfold connectAgent
  simp only [registerToken_signed]

theorem connecting_read (agents : AgentStore) : connecting agents =
    ((handleAgentRegister {shopConfig with jose := readOnly hostJwtTyp registerClaims hostKeyPair} (shopProvider agents)
        {shopRequest with token := registerToken,body := registerBody ["file:read"] clientOptions}).1,
      connectResult (handleAgentRegister {shopConfig with jose := readOnly hostJwtTyp registerClaims hostKeyPair} (shopProvider agents)
        {shopRequest with token := registerToken,body := registerBody ["file:read"] clientOptions}).2) := by
  have asked : Agree shopConfig.jose (readOnly hostJwtTyp registerClaims hostKeyPair) registerToken := registerToken_agree
  have same := handleAgentRegister_agree shopConfig (shopProvider agents)
    {shopRequest with token := registerToken,body := registerBody ["file:read"] clientOptions} asked
  have sent := connectAgent_sends (post shopConfig shopRequest) (shopProvider agents) "01HF7YAT00000000000000000A"
  exact sent.trans (congrArg (fun outcome => (outcome.1,connectResult outcome.2)) same)

theorem found_read (outcome : Provider × Except String ConnectAgentResult) (agentId : String) : found outcome agentId =
    (connectedAs outcome.2,
      usableCheck outcome.1 agentId presenting.now &&
        !recordedAt (pruneExpired outcome.1.machine.store.cache presenting.cacheNow) (agentId,"jwt_" ++ "01HF7YAT4W000000000000000B")
          presenting.cacheNow,
      refusalOf (verifyAgentJwt {shopConfig with jose := readOnly TypescriptClient.agentJwtTyp sessionClaims agentKeyPair} outcome.1
        presentedSession presenting)) := by
  have asked : Agree shopConfig.jose (readOnly TypescriptClient.agentJwtTyp sessionClaims agentKeyPair) presentedSession.token := sessionToken_agree
  unfold found
  rw [verifyAgentJwt_agree shopConfig outcome.1 presentedSession presenting asked]

theorem shop_found : found (connecting .init) "01HF7YATRG0000000000000001" =
    (some ("01HF7YATRG0000000000000001",.active),true,some "unknown agent") := by
  rw [connecting_read,found_read]
  decide +kernel

-- The session is active at once, and the agent's first token for it is that of an
-- unknown agent.
theorem connected_session_refused : ∃ result : ConnectAgentResult,
    createHost keyDigest .empty hostKeyPair "0b8f5c0e-6f1d-4d0a-9a53-2c1e7f4b9d10" = .ok (clientHost,hostStorage) ∧
    createAgent hostStorage clientHost .delegated agentKeyPair "7d9f0c1e-52ab-4c7e-8f43-1b6a9d20e5c8" = (clientAgent,clientStorage) ∧
    connecting .init = ((connecting .init).1,.ok result) ∧ result.status = .active ∧
    signAgentJwt clientSign clientStorage clientAgent (.one "urn:asap:agent:server") none signedAt "01HF7YAT4W000000000000000B" =
      .ok sessionToken ∧
    Usable (connecting .init).1 clientAgent result.agentId signedAt.seconds "01HF7YAT4W000000000000000B" presentedSession presenting ∧
    ¬AcceptedAs (verifyAgentJwt shopConfig (connecting .init).1 presentedSession presenting) presentedSession result.agentId := by
  obtain ⟨⟨result,outcome,named,active⟩,usable,refused⟩ := found_parts _ shop_found
  refine ⟨result,clientHost_made,rfl,?_,active,?_,named ▸ usable,?_⟩
  · exact Prod.mk.eta.symm.trans (congrArg (Prod.mk _) outcome)
  · exact sessionToken_signed _
  · rintro ⟨claims,host,row,accepted,_⟩
    rw [accepted] at refused
    cases refused

-- The same where an administrator has stored the agent under the client's id.
def premadeSession : AgentSession where
  agentId := clientAgent.agentId
  hostId := "h1"
  publicKey := publicKeyOf agentKeyPair.publicJwk.claim
  mode := .delegated
  status := .active
  createdAt := 1699999999000000

def premadeStore : AgentStore := AgentStore.init.put premadeSession

theorem premade_found : found (connecting premadeStore) clientAgent.agentId = (some (clientAgent.agentId,.active),true,none) := by
  rw [connecting_read,found_read]
  decide +kernel

theorem sessionToken_addressed (expected : Audience) (asked : presentedSession.expectedAudience = some expected) :
    HostJwt.audienceMatchesExpected sessionClaims expected = true := by
  cases asked
  decide

def firstFound (scanned : Except Unit (Option AgentSession)) : Option String :=
  match scanned with
  | .ok (some existing) => some existing.agentId
  | _ => none

theorem firstFound_some (shown : firstFound scanned = some agentId) : ∃ existing, scanned = .ok (some existing) ∧ existing.agentId = agentId := by
  unfold firstFound at shown
  split at shown
  · rename_i existing
    cases shown
    exact ⟨existing,rfl,rfl⟩
  · cases shown

theorem premadeStore_premade : Premade shopConfig (shopProvider premadeStore) clientAgent := by
  have carried : AgentIdentity.jwkThumbprintSha256 keyDigest (publicKeyOf clientAgent.publicJwk.claim) =
      some "kPrK_qmxVWaYVA9wwBF6Iuo3vVzz7TxHCTwXBygrS4k" := by decide
  have shown : firstFound (findExisting keyDigest "kPrK_qmxVWaYVA9wwBF6Iuo3vVzz7TxHCTwXBygrS4k"
      ((shopProvider premadeStore).agents.listByHost (hostIdOf (shopProvider premadeStore) clientAgent.hostThumbprint))) =
      some clientAgent.agentId := by decide
  obtain ⟨existing,scanned,own⟩ := firstFound_some shown
  exact ⟨_,existing,carried,scanned,own⟩

theorem typescript_sessions_verify_premade :
    AcceptedAs (verifyAgentJwt shopConfig (connecting premadeStore).1 presentedSession presenting) presentedSession clientAgent.agentId := by
  obtain ⟨⟨result,outcome,named,_⟩,usable,_⟩ := found_parts _ premade_found
  have connects : connecting premadeStore = ((connecting premadeStore).1,.ok result) :=
    Prod.mk.eta.symm.trans (congrArg (Prod.mk _) outcome)
  have verifies := typescript_sessions_verify_iff shopConfig clientSign .empty hostStorage clientStorage clientStorage hostKeyPair
    agentKeyPair _ _ .delegated clientHost clientAgent clientHost_made rfl (fun _ _ stored => stored) ["file:read"] clientOptions
    connectedAt _ shopRequest (shopProvider premadeStore) (connecting premadeStore).1 result connects
    registerToken_verifies [] _ (.nil _) (.one "urn:asap:agent:server") none signedAt _ sessionToken
    (sessionToken_signed _) sessionToken_verifies
  rw [named] at verifies
  exact (verifies.1 presentedSession presenting rfl sessionToken_addressed usable).mpr premadeStore_premade

end Asap.TypescriptSessions
