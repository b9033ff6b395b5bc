import Asap.Interleaving
import Asap.PythonValue

namespace Asap.AgentIdentity
open OrderedDict PythonValue Interleaving

inductive HostStatus where
  | active
  | pending
  | revoked
  deriving DecidableEq

inductive AgentMode where
  | delegated
  | autonomous
  deriving DecidableEq

inductive AgentSessionStatus where
  | pending
  | active
  | expired
  | revoked
  | rejected
  deriving DecidableEq

abbrev PublicKey := Dict String Value

structure HostIdentity where
  hostId : String
  publicKey : PublicKey
  userId : Option String := none
  defaultCapabilities : List String := []
  status : HostStatus

-- Instants and durations are in microseconds.
structure AgentSession where
  agentId : String
  hostId : String
  publicKey : PublicKey
  mode : AgentMode
  status : AgentSessionStatus
  sessionTtl : Option Int := none
  maxLifetime : Option Int := none
  absoluteLifetime : Option Int := none
  activatedAt : Option Int := none
  lastUsedAt : Option Int := none
  createdAt : Int

-- `digest` is SHA-256 of the encoded text in unpadded base64url.
variable (digest : String → String)

def requiredMembers (publicKey : PublicKey) (kty : String) (names : List String) : Option (List (Key × Value)) :=
  names.mapM (fun name =>
    if name = "kty" then some (.str name,.str kty) else (publicKey.get name).map (fun member => (.str name,member)))

-- `none` is the ValueError of another kty or the KeyError of a missing member.
def jwkThumbprintSha256 (publicKey : PublicKey) : Option String :=
  let required := match publicKey.get "kty" with
    | some (.str "OKP") => requiredMembers publicKey "OKP" ["crv","kty","x"]
    | some (.str "EC") => requiredMembers publicKey "EC" ["crv","kty","x","y"]
    | some (.str "RSA") => requiredMembers publicKey "RSA" ["e","kty","n"]
    | some (.str "oct") => requiredMembers publicKey "oct" ["k","kty"]
    | _ => none
  required.bind (fun members => (dumps compact (.dict members)).map digest)

inductive ExpiryStatus where
  | active
  | expired
  | revoked
  deriving DecidableEq

def elapsed (now : Int) (since limit : Option Int) : Bool :=
  match since,limit with
  | some start,some span => span < now - start
  | _,_ => false

def checkAgentExpiry (now : Int) (agent : AgentSession) : ExpiryStatus :=
  if elapsed now (some agent.createdAt) agent.absoluteLifetime then .revoked
  else if elapsed now agent.activatedAt agent.maxLifetime then .expired
  else if elapsed now agent.lastUsedAt agent.sessionTtl then .expired
  else .active

-- `RevokedAgentOverwriteError` and `StaleAgentPublicKeyError`, with what their
-- messages name; the second has no thumbprints when one could not be computed.
inductive StoreError where
  | revokedOverwrite (agentId : String) (status : AgentSessionStatus)
  | stalePublicKey (agentId : String) (thumbprints : Option (String × String))
  deriving DecidableEq

-- `_agents`: every row is stored under its own id.
structure AgentStore where
  agents : Dict String AgentSession
  keyed : ∀ id row, agents.get id = some row → row.agentId = id

def AgentStore.init : AgentStore := ⟨.empty,fun id row found => by rw [Dict.get_empty] at found; cases found⟩

def AgentStore.get (s : AgentStore) (agentId : String) : Option AgentSession := s.agents.get agentId

def AgentStore.put (s : AgentStore) (row : AgentSession) : AgentStore where
  agents := s.agents.set row.agentId row
  keyed id stored found := by
    rw [Dict.get_set] at found
    split at found
    · rename_i same
      cases found
      exact same
    · exact s.keyed id stored found

theorem AgentStore.get_put (s : AgentStore) (row : AgentSession) (id : String) :
    (s.put row).get id = if row.agentId = id then some row else s.get id := Dict.get_set ..

def AgentStore.listByHost (s : AgentStore) (hostId : String) : List AgentSession :=
  (s.agents.values.filter (fun row => decide (row.hostId = hostId))).insertionSort (fun a b => a.agentId ≤ b.agentId)

def casPublicKeyRow (existing agent : AgentSession) (expectedPublicKey : PublicKey) : Except StoreError AgentSession :=
  match jwkThumbprintSha256 digest existing.publicKey,jwkThumbprintSha256 digest agent.publicKey,
      jwkThumbprintSha256 digest expectedPublicKey with
  | some storedTp,some incomingTp,some expectedTp =>
    if storedTp ≠ expectedTp then .error (.stalePublicKey agent.agentId (some (storedTp,expectedTp)))
    else if incomingTp ≠ expectedTp then .ok {existing with publicKey := agent.publicKey}
    else .ok agent
  | _,_,_ => .error (.stalePublicKey agent.agentId none)

def AgentStore.save (s : AgentStore) (agent : AgentSession) (expectedPublicKey : Option PublicKey) :
    Except StoreError AgentStore :=
  match s.get agent.agentId with
  | none => .ok (s.put agent)
  | some existing =>
    if existing.status = .revoked ∧ agent.status ≠ .revoked then .error (.revokedOverwrite agent.agentId agent.status)
    else match expectedPublicKey with
      | none => .ok (s.put agent)
      | some expected => (casPublicKeyRow digest existing agent expected).map s.put

-- This store's `save` takes the keyword, so the fallback for older stores is never used.
def saveAgentUnlessRevoked (s : AgentStore) (agent : AgentSession) (expectedPublicKey : Option PublicKey) :
    Except StoreError AgentStore := s.save digest agent expectedPublicKey

def AgentStore.touchIfCurrent (s : AgentStore) (now : Int) (agentId : String) (expectedPublicKey : PublicKey)
    (lastUsedAt : Int) (expectedHostId : String) : AgentStore × Option AgentSession :=
  match s.get agentId with
  | none => (s,none)
  | some current =>
    if current.status ≠ .active then (s,none)
    else if current.hostId ≠ expectedHostId then (s,none)
    else match jwkThumbprintSha256 digest expectedPublicKey,jwkThumbprintSha256 digest current.publicKey with
      | some expectedTp,some currentTp =>
        if currentTp ≠ expectedTp then (s,none)
        else if checkAgentExpiry now current ≠ .active then (s,none)
        else
          let updated := {current with lastUsedAt := some lastUsedAt}
          (s.put updated,some updated)
      | _,_ => (s,none)

def AgentStore.revoke (s : AgentStore) (agentId : String) : AgentStore :=
  match s.get agentId with
  | none => s
  | some agent => if agent.status = .revoked then s else s.put {agent with status := .revoked}

def AgentStore.revokeByHost (s : AgentStore) (hostId : String) : AgentStore :=
  ((s.agents.values.filter (fun row => decide (row.hostId = hostId))).map AgentSession.agentId).foldl AgentStore.revoke s

-- Everything a save can store: a row not seen before, the snapshot itself, or the
-- stored row under the snapshot's key.
inductive Stored (s : AgentStore) (agent : AgentSession) (expected : Option PublicKey) : AgentSession → Prop where
  | fresh (absent : s.get agent.agentId = none) : Stored s agent expected agent
  | unchecked (existing : AgentSession) (found : s.get agent.agentId = some existing)
      (final : existing.status = .revoked → agent.status = .revoked) (given : expected = none) :
      Stored s agent expected agent
  | matched (existing : AgentSession) (key : PublicKey) (tp : String) (found : s.get agent.agentId = some existing)
      (final : existing.status = .revoked → agent.status = .revoked) (given : expected = some key)
      (stored : jwkThumbprintSha256 digest existing.publicKey = some tp)
      (incoming : jwkThumbprintSha256 digest agent.publicKey = some tp)
      (known : jwkThumbprintSha256 digest key = some tp) : Stored s agent expected agent
  | rotated (existing : AgentSession) (key : PublicKey) (tp new : String) (found : s.get agent.agentId = some existing)
      (final : existing.status = .revoked → agent.status = .revoked) (given : expected = some key)
      (stored : jwkThumbprintSha256 digest existing.publicKey = some tp)
      (incoming : jwkThumbprintSha256 digest agent.publicKey = some new)
      (known : jwkThumbprintSha256 digest key = some tp) (differs : new ≠ tp) :
      Stored s agent expected {existing with publicKey := agent.publicKey}

theorem save_stored (s next : AgentStore) (agent : AgentSession) (expected : Option PublicKey)
    (accepted : s.save digest agent expected = .ok next) :
    ∃ row, next = s.put row ∧ Stored digest s agent expected row := by
  unfold AgentStore.save at accepted
  cases found : s.get agent.agentId with
  | none =>
    rw [found] at accepted; cases accepted
    exact ⟨agent,rfl,.fresh found⟩
  | some existing =>
    simp only [found] at accepted
    split at accepted
    · cases accepted
    · rename_i allowed
      have final : existing.status = .revoked → agent.status = .revoked := by
        intro revoked
        by_contra live
        exact allowed ⟨revoked,live⟩
      cases expected with
      | none =>
        cases accepted
        exact ⟨agent,rfl,.unchecked existing found final rfl⟩
      | some key =>
        simp only [casPublicKeyRow] at accepted
        split at accepted
        · rename_i storedTp incomingTp expectedTp stored incoming known
          split at accepted
          · cases accepted
          · rename_i same
            have same := not_not.mp same
            subst same
            split at accepted
            · rename_i differs
              cases accepted
              exact ⟨_,rfl,.rotated existing key storedTp incomingTp found final rfl stored incoming known differs⟩
            · rename_i kept
              have kept := not_not.mp kept
              subst kept
              cases accepted
              exact ⟨_,rfl,.matched existing key incomingTp found final rfl stored incoming known⟩
        · cases accepted

theorem Stored.agentId {s : AgentStore} (stored : Stored digest s agent expected row) : row.agentId = agent.agentId := by
  cases stored with
  | fresh | unchecked | matched => rfl
  | rotated existing key tp new found => exact s.keyed agent.agentId existing found

def Revoked (s : AgentStore) (agentId : String) : Prop := ∃ row, s.get agentId = some row ∧ row.status = .revoked

-- One write to a row that keeps a revoked one revoked keeps every revoked row revoked.
theorem put_revoked (s : AgentStore) (row : AgentSession) (agentId : String)
    (final : ∀ existing, s.get row.agentId = some existing → existing.status = .revoked → row.status = .revoked)
    (revoked : Revoked s agentId) : Revoked (s.put row) agentId := by
  obtain ⟨existing,found,status⟩ := revoked
  unfold Revoked
  rw [AgentStore.get_put]
  split
  · rename_i same
    subst same
    exact ⟨row,rfl,final existing found status⟩
  · exact ⟨existing,found,status⟩

theorem save_revoked (s next : AgentStore) (agent : AgentSession) (expected : Option PublicKey) (agentId : String)
    (accepted : s.save digest agent expected = .ok next) (revoked : Revoked s agentId) : Revoked next agentId := by
  obtain ⟨row,rfl,stored⟩ := save_stored digest s next agent expected accepted
  refine put_revoked s row agentId ?_ revoked
  intro existing found status
  rw [stored.agentId] at found
  cases stored with
  | fresh absent => rw [absent] at found; cases found
  | unchecked _ known final =>
    rw [known] at found; cases found
    exact final status
  | matched _ _ _ known final =>
    rw [known] at found; cases found
    exact final status
  | rotated _ _ _ _ known =>
    rw [known] at found; cases found
    exact status

-- A touch writes nothing, or moves the last-used time of the live row it names.
theorem touch_cases (s : AgentStore) (now : Int) (id : String) (key : PublicKey) (lastUsedAt : Int) (hostId : String) :
    s.touchIfCurrent digest now id key lastUsedAt hostId = (s,none) ∨
    ∃ current tp, s.get id = some current ∧ current.status = .active ∧ current.hostId = hostId ∧
      jwkThumbprintSha256 digest key = some tp ∧ jwkThumbprintSha256 digest current.publicKey = some tp ∧
      checkAgentExpiry now current = .active ∧
      s.touchIfCurrent digest now id key lastUsedAt hostId =
        (s.put {current with lastUsedAt := some lastUsedAt},some {current with lastUsedAt := some lastUsedAt}) := by
  unfold AgentStore.touchIfCurrent
  split
  · exact .inl rfl
  · rename_i current found
    split
    · exact .inl rfl
    · rename_i status
      split
      · exact .inl rfl
      · rename_i host
        split
        · rename_i expectedTp currentTp expected known
          split
          · exact .inl rfl
          · rename_i same
            split
            · exact .inl rfl
            · rename_i live
              rw [not_not.mp same] at known
              exact .inr ⟨current,expectedTp,found,not_not.mp status,not_not.mp host,expected,known,not_not.mp live,rfl⟩
        · exact .inl rfl

theorem touch_revoked (s : AgentStore) (now : Int) (id : String) (key : PublicKey) (lastUsedAt : Int) (hostId agentId : String)
    (revoked : Revoked s agentId) : Revoked (s.touchIfCurrent digest now id key lastUsedAt hostId).1 agentId := by
  rcases touch_cases digest s now id key lastUsedAt hostId with same | ⟨current,tp,found,_,_,_,_,_,moved⟩
  · rw [same]
    exact revoked
  · rw [moved]
    refine put_revoked s _ agentId ?_ revoked
    intro existing stored status
    have own : current.agentId = id := s.keyed id current found
    simp only [own,found,Option.some.injEq] at stored
    subst stored
    exact status

theorem revoke_revoked (s : AgentStore) (id agentId : String) (revoked : Revoked s agentId) :
    Revoked (s.revoke id) agentId := by
  unfold AgentStore.revoke
  split
  · exact revoked
  · split
    · exact revoked
    · exact put_revoked s _ agentId (fun _ _ _ => rfl) revoked

theorem revokeByHost_revoked (s : AgentStore) (hostId agentId : String) (revoked : Revoked s agentId) :
    Revoked (s.revokeByHost hostId) agentId := by
  unfold AgentStore.revokeByHost
  generalize (s.agents.values.filter (fun row => decide (row.hostId = hostId))).map AgentSession.agentId = ids
  induction ids generalizing s with
  | nil => exact revoked
  | cons id rest ih => exact ih _ (revoke_revoked s id agentId revoked)

inductive Call where
  | save (agent : AgentSession) (expectedPublicKey : Option PublicKey)
  | saveAgentUnlessRevoked (agent : AgentSession) (expectedPublicKey : Option PublicKey)
  | touchIfCurrent (now : Int) (agentId : String) (expectedPublicKey : PublicKey) (lastUsedAt : Int) (expectedHostId : String)
  | revoke (agentId : String)
  | revokeByHost (hostId : String)

def perform (s : AgentStore) : Call → Except StoreError AgentStore
  | .save agent expected => s.save digest agent expected
  | .saveAgentUnlessRevoked agent expected => saveAgentUnlessRevoked digest s agent expected
  | .touchIfCurrent now id key lastUsedAt hostId => .ok (s.touchIfCurrent digest now id key lastUsedAt hostId).1
  | .revoke id => .ok (s.revoke id)
  | .revokeByHost hostId => .ok (s.revokeByHost hostId)

-- A call that raises leaves the store as it was.
def call (s : AgentStore) (request : Call) : Option AgentStore :=
  match perform digest s request with
  | .ok next => some next
  | .error _ => some s

abbrev Runs := Interleaving.Runs (call digest) (fun _ _ => True)

theorem call_revoked (s next : AgentStore) (request : Call) (agentId : String) (taken : call digest s request = some next)
    (revoked : Revoked s agentId) : Revoked next agentId := by
  unfold call at taken
  cases outcome : perform digest s request with
  | error => rw [outcome] at taken; cases taken; exact revoked
  | ok stored =>
    rw [outcome] at taken; cases taken
    cases request with
    | save agent expected => exact save_revoked digest s next agent expected agentId outcome revoked
    | saveAgentUnlessRevoked agent expected => exact save_revoked digest s next agent expected agentId outcome revoked
    | touchIfCurrent now id key lastUsedAt hostId =>
      cases outcome
      exact touch_revoked digest s now id key lastUsedAt hostId agentId revoked
    | revoke id =>
      cases outcome
      exact revoke_revoked s id agentId revoked
    | revokeByHost hostId =>
      cases outcome
      exact revokeByHost_revoked s hostId agentId revoked

theorem run_revoked (s final : AgentStore) (calls : List Call) (agentId : String) (run : Runs digest s calls final)
    (revoked : Revoked s agentId) : Revoked final agentId :=
  run.invariant (Revoked · agentId) (fun s request next _ taken => call_revoked digest s next request agentId taken) revoked

-- A save whose snapshot carries another key than the expected one, over a live row.
def RotatesLive (s : AgentStore) (agent : AgentSession) (expected : Option PublicKey) : Prop :=
  ∃ existing key, s.get agent.agentId = some existing ∧ existing.status ≠ .revoked ∧ expected = some key ∧
    jwkThumbprintSha256 digest agent.publicKey ≠ jwkThumbprintSha256 digest key

theorem save_revokes_iff (s next : AgentStore) (agent : AgentSession) (expected : Option PublicKey)
    (status : agent.status = .revoked) (accepted : s.save digest agent expected = .ok next) :
    Revoked next agent.agentId ↔ ¬RotatesLive digest s agent expected := by
  obtain ⟨row,rfl,stored⟩ := save_stored digest s next agent expected accepted
  have written : (s.put row).get agent.agentId = some row := by rw [AgentStore.get_put,if_pos stored.agentId]
  have exact_row : Revoked (s.put row) agent.agentId ↔ row.status = .revoked := by simp [Revoked,written]
  rw [exact_row]
  cases stored with
  | fresh absent => simp [RotatesLive,status,absent]
  | unchecked _ found _ given => simp [RotatesLive,status,given]
  | matched existing key tp found _ given _ incoming known => simp [RotatesLive,status,given,incoming,known]
  | rotated existing key tp new found _ given _ incoming known differs =>
    simp [RotatesLive,found,given,incoming,known,differs]

-- Over any run a revoked row stays revoked; a later save of a revoked snapshot that
-- does not raise leaves the row revoked exactly when it is no rotation of a live row.
theorem revocation_final_iff (s final : AgentStore) (calls : List Call) (run : Runs digest s calls final) :
    (∀ agentId, Revoked s agentId → Revoked final agentId) ∧
    (∀ agent expected next, agent.status = .revoked →
      final.save digest agent expected = .ok next ∨ saveAgentUnlessRevoked digest final agent expected = .ok next →
      (Revoked next agent.agentId ↔ ¬RotatesLive digest final agent expected)) := by
  constructor
  · intro agentId
    exact run_revoked digest s final calls agentId run
  · intro agent expected next status accepted
    exact save_revokes_iff digest final next agent expected status (accepted.elim id id)

def okpKey (x : String) : PublicKey := ⟨[("kty",.str "OKP"),("crv",.str "Ed25519"),("x",.str x)],by simp⟩

def firstKey : PublicKey := okpKey "11qYAYKxCrfVS_7TyWQHOg7hcvPapiMlrwIaaPcHURo"
def secondKey : PublicKey := okpKey "PUAXw-hDiVqStwqnTRt-vJyYLM8uxJaMwM1V8Sr0Zgw"

-- The digests of the two keys' canonical texts; any other text stands for itself.
def keyDigest (text : String) : String :=
  if text = "\x7b\"crv\":\"Ed25519\",\"kty\":\"OKP\",\"x\":\"11qYAYKxCrfVS_7TyWQHOg7hcvPapiMlrwIaaPcHURo\"\x7d" then
    "kPrK_qmxVWaYVA9wwBF6Iuo3vVzz7TxHCTwXBygrS4k"
  else if text = "\x7b\"crv\":\"Ed25519\",\"kty\":\"OKP\",\"x\":\"PUAXw-hDiVqStwqnTRt-vJyYLM8uxJaMwM1V8Sr0Zgw\"\x7d" then
    "FtIu-VbGrfe_KB6CH7GNwODB72MNxj_ml11dEvO-7kk"
  else text

theorem firstKey_thumbprint : jwkThumbprintSha256 keyDigest firstKey = some "kPrK_qmxVWaYVA9wwBF6Iuo3vVzz7TxHCTwXBygrS4k" := by
  decide +kernel

theorem secondKey_thumbprint : jwkThumbprintSha256 keyDigest secondKey = some "FtIu-VbGrfe_KB6CH7GNwODB72MNxj_ml11dEvO-7kk" := by
  decide +kernel

def liveSession : AgentSession where
  agentId := "a1"
  hostId := "h1"
  publicKey := firstKey
  mode := .delegated
  status := .active
  createdAt := 0

def revokedRotation : AgentSession := {liveSession with publicKey := secondKey,status := .revoked}

def liveStore : AgentStore := AgentStore.init.put liveSession

theorem liveStore_get : liveStore.get "a1" = some liveSession := by
  unfold liveStore
  rw [AgentStore.get_put,if_pos (by decide)]

-- Saving the revoked snapshot with its new key against the old one: the key is
-- taken, the revocation is dropped.
theorem revokedRotation_saved : liveStore.save keyDigest revokedRotation (some firstKey) =
    .ok (liveStore.put {liveSession with publicKey := secondKey}) := by
  have cas : casPublicKeyRow keyDigest liveSession revokedRotation firstKey =
      .ok {liveSession with publicKey := secondKey} := by
    simp [casPublicKeyRow,liveSession,revokedRotation,firstKey_thumbprint,secondKey_thumbprint]
  unfold AgentStore.save
  rw [show revokedRotation.agentId = "a1" from rfl,liveStore_get]
  simp [revokedRotation,liveSession,Except.map] at cas ⊢
  simp [cas]

theorem revoked_save_dropped :
    revokedRotation.status = .revoked ∧
    liveStore.save keyDigest revokedRotation (some firstKey) = .ok (liveStore.put {liveSession with publicKey := secondKey}) ∧
    ¬Revoked (liveStore.put {liveSession with publicKey := secondKey}) "a1" := by
  refine ⟨rfl,revokedRotation_saved,?_⟩
  intro ⟨row,found,status⟩
  simp only [AgentStore.get_put,liveSession,if_true,Option.some.injEq] at found
  subst found
  cases status

theorem revocation_final_live :
    Revoked (liveStore.put {liveSession with status := .revoked}) "a1" ∧
      ¬RotatesLive keyDigest liveStore {liveSession with status := .revoked} (some firstKey) := by
  have accepted : liveStore.save keyDigest {liveSession with status := .revoked} (some firstKey) =
      .ok (liveStore.put {liveSession with status := .revoked}) := by
    unfold AgentStore.save
    rw [show ({liveSession with status := .revoked} : AgentSession).agentId = "a1" from rfl,liveStore_get]
    simp [casPublicKeyRow,liveSession,firstKey_thumbprint,Except.map]
  have run : Runs keyDigest .init [.save liveSession none] liveStore :=
    .cons _ _ _ _ _ trivial rfl (.nil _)
  have final := (revocation_final_iff keyDigest .init liveStore _ run).2
    {liveSession with status := .revoked} (some firstKey) _ rfl (.inl accepted)
  have plain : ¬RotatesLive keyDigest liveStore {liveSession with status := .revoked} (some firstKey) := by
    intro ⟨_,_,_,_,given,differs⟩
    cases given
    exact differs rfl
  exact ⟨final.mpr plain,plain⟩

end Asap.AgentIdentity
