import Asap.ApprovalStore

namespace Asap.AgentLifecycle
open OrderedDict PythonValue AgentIdentity Interleaving
open ApprovalStore (ApprovalStatus)

-- `importKey` tells whether the JWK library accepts a public key.
variable (digest : String → String) (importKey : PublicKey → Bool)

-- The handlers that work on a stored session, with what they know from the verified
-- token: the host, the approval row that was read, the session that was verified.
inductive Request where
  | rotateKey (agentId hostId : String) (newPublicKey : PublicKey)
  | status (agentId hostId : String) (approval : Option ApprovalStatus) (staleDetail : Option String)
  | reactivate (agentId : String) (hostId : Option String)
  | slide (verified : AgentSession)

inductive Response where
  | ok (status : AgentSessionStatus)
  | failed (code : Nat) (detail : String)
  deriving DecidableEq

-- A handler between two operations on the agent store.
inductive Task where
  | start (request : Request)
  | scanning (agentId hostId : String) (newPublicKey : PublicKey) (session : AgentSession)
  | rereading (request : Request) (session : AgentSession)
  | writing (request : Request) (session row : AgentSession) (expected : PublicKey)
  | refreshing (session : AgentSession)
  | touching (verified : AgentSession)
  | answered (response : Response)

-- What a handler has brought about when it reports success.
inductive Event where
  | rotated (agentId : String) (key : PublicKey)
  | changed (agentId : String) (status : AgentSessionStatus)

abbrev Outcome := AgentStore × Task × List Event

def fail (s : AgentStore) (code : Nat) (detail : String) : Outcome := (s,.answered (.failed code detail),[])

def rotateStart (s : AgentStore) (agentId hostId : String) (newPublicKey : PublicKey) : Outcome :=
  match s.get agentId with
  | none => fail s 404 "unknown agent_id"
  | some session =>
    if session.hostId ≠ hostId then fail s 403 "agent does not belong to this host"
    else if session.status = .revoked then fail s 400 "cannot rotate key for revoked agent"
    else if !importKey newPublicKey then fail s 400 "invalid new_public_key JWK"
    else match jwkThumbprintSha256 digest newPublicKey,jwkThumbprintSha256 digest session.publicKey with
      | some newTp,some tp =>
        if newTp = tp then (s,.answered (.ok session.status),[.rotated agentId newPublicKey])
        else (s,.scanning agentId hostId newPublicKey session,[])
      | _,_ => fail s 500 "Internal Server Error"

-- Whether another session of the host uses the key; `none` when a thumbprint raises.
def usedElsewhere (agentId newTp : String) : List AgentSession → Option Bool
  | [] => some false
  | other :: rest =>
    if other.agentId = agentId then usedElsewhere agentId newTp rest
    else match jwkThumbprintSha256 digest other.publicKey with
      | none => none
      | some tp => if tp = newTp then some true else usedElsewhere agentId newTp rest

def rotateScan (s : AgentStore) (agentId hostId : String) (newPublicKey : PublicKey) (session : AgentSession) : Outcome :=
  match (jwkThumbprintSha256 digest newPublicKey).bind (fun newTp =>
      usedElsewhere digest session.agentId newTp (s.listByHost hostId)) with
  | none => fail s 500 "Internal Server Error"
  | some true => fail s 409 "another agent under this host already uses this public key"
  | some false => (s,.rereading (.rotateKey agentId hostId newPublicKey) session,[])

def rotateReread (s : AgentStore) (agentId hostId : String) (newPublicKey : PublicKey) (session : AgentSession) : Outcome :=
  match s.get agentId with
  | none => fail s 404 "unknown agent_id"
  | some fresh =>
    if fresh.status = .revoked then fail s 400 "cannot rotate key for revoked agent"
    else (s,.writing (.rotateKey agentId hostId newPublicKey) session {fresh with publicKey := newPublicKey} fresh.publicKey,[])

def rotateWrite (s : AgentStore) (agentId : String) (newPublicKey : PublicKey) (row : AgentSession) (expected : PublicKey) :
    Outcome :=
  match saveAgentUnlessRevoked digest s row (some expected) with
  | .ok next => (next,.answered (.ok row.status),[.rotated agentId newPublicKey])
  | .error (.revokedOverwrite _ _) => fail s 400 "cannot rotate key for revoked agent"
  | .error (.stalePublicKey _ _) => fail s 409 "agent public key changed concurrently"

def statusStart (s : AgentStore) (agentId hostId : String) (approval : Option ApprovalStatus) (staleDetail : Option String) :
    Outcome :=
  match s.get agentId with
  | none => fail s 404 "unknown agent_id"
  | some session =>
    if session.hostId ≠ hostId then fail s 403 "agent does not belong to this host"
    else if session.status ≠ .pending then (s,.refreshing session,[])
    else match approval with
      | some .pending =>
        match staleDetail with
        | some detail => fail s 403 detail
        | none => (s,.refreshing session,[])
      | some .approved | some .denied => (s,.rereading (.status agentId hostId approval staleDetail) session,[])
      | some .expired | none => (s,.refreshing session,[])

-- The row an approval turns a pending one into.
def resolved (now : Int) (approval : Option ApprovalStatus) (fresh : AgentSession) : AgentSession :=
  if approval = some .approved then {fresh with status := .active,activatedAt := some now}
  else {fresh with status := .rejected}

def statusReread (s : AgentStore) (now : Int) (agentId hostId : String) (approval : Option ApprovalStatus)
    (staleDetail : Option String) (session : AgentSession) : Outcome :=
  match s.get agentId with
  | none => (s,.refreshing session,[])
  | some fresh =>
    if fresh.status ≠ .pending then (s,.refreshing session,[])
    else (s,.writing (.status agentId hostId approval staleDetail) session (resolved now approval fresh) fresh.publicKey,[])

def statusWrite (s : AgentStore) (agentId : String) (session row : AgentSession) (expected : PublicKey) : Outcome :=
  match saveAgentUnlessRevoked digest s row (some expected) with
  | .ok next => (next,.refreshing session,[.changed agentId row.status])
  | .error _ => (s,.refreshing session,[])

def statusRefresh (s : AgentStore) (session : AgentSession) : Outcome :=
  match s.get session.agentId with
  | none => (s,.answered (.ok session.status),[])
  | some refreshed => (s,.answered (.ok refreshed.status),[])

def reactivateRefusal (agentId : String) : AgentSessionStatus → Option String
  | .active | .expired => none
  | .revoked => some ("Agent " ++ agentId ++ " is permanently revoked")
  | .pending => some ("Agent " ++ agentId ++ " is still pending approval; cannot reactivate until registration is approved")
  | .rejected => some ("Agent " ++ agentId ++ " was rejected during registration; re-register instead of reactivating")

def reactivateAgent (now : Int) (agent : AgentSession) : Except String AgentSession :=
  match reactivateRefusal agent.agentId agent.status with
  | some message => .error message
  | none =>
    if elapsed now (some agent.createdAt) agent.absoluteLifetime then
      .error ("Agent " ++ agent.agentId ++ " has exceeded absolute lifetime; reactivation is not possible")
    else .ok {agent with status := .active,activatedAt := some now,lastUsedAt := some now}

def reactivateStart (s : AgentStore) (agentId : String) (hostId : Option String) : Outcome :=
  match s.get agentId with
  | none => fail s 404 "unknown agent_id"
  | some agent =>
    match hostId with
    | none => fail s 404 "unknown host"
    | some id =>
      if id ≠ agent.hostId then fail s 403 "agent does not belong to this host"
      else (s,.rereading (.reactivate agentId hostId) agent,[])

def reactivateReread (s : AgentStore) (now : Int) (agentId : String) (hostId : Option String) (agent : AgentSession) : Outcome :=
  match s.get agentId with
  | none => fail s 404 "unknown agent_id"
  | some fresh =>
    match reactivateAgent now fresh with
    | .error message => fail s 403 message
    | .ok reactivated => (s,.writing (.reactivate agentId hostId) agent reactivated fresh.publicKey,[])

def reactivateWrite (s : AgentStore) (agentId : String) (row : AgentSession) (expected : PublicKey) : Outcome :=
  match saveAgentUnlessRevoked digest s row (some expected) with
  | .ok next => (next,.answered (.ok row.status),[.changed agentId row.status])
  | .error (.revokedOverwrite _ _) => fail s 403 ("Agent " ++ agentId ++ " is permanently revoked")
  | .error (.stalePublicKey _ _) => fail s 409 "agent public key changed concurrently"

def unusableAgentError (agent : AgentSession) : Option String :=
  match agent.status with
  | .revoked => some "agent session not usable: revoked"
  | .expired => some "agent session not usable: expired"
  | .pending => some "agent session not usable: pending"
  | .rejected => some "agent session not usable: rejected"
  | .active => none

def slideStart (s : AgentStore) (now : Int) (verified : AgentSession) : Outcome :=
  match s.get verified.agentId with
  | none => fail s 401 "unknown agent"
  | some current =>
    match unusableAgentError current with
    | some message => fail s 401 message
    | none =>
      if current.hostId ≠ verified.hostId then fail s 401 "agent host_id changed during verification"
      else match jwkThumbprintSha256 digest current.publicKey,jwkThumbprintSha256 digest verified.publicKey with
        | some currentTp,some verifiedTp =>
          if currentTp ≠ verifiedTp then fail s 401 "agent key changed during verification"
          else match checkAgentExpiry now current with
            | .revoked => fail s 401 "agent_revoked"
            | .expired => fail s 401 "agent_expired"
            | .active => (s,.touching verified,[])
        | _,_ => fail s 500 "Internal Server Error"

def slideTouch (s : AgentStore) (now : Int) (verified : AgentSession) : Outcome :=
  match s.touchIfCurrent digest now verified.agentId verified.publicKey now verified.hostId with
  | (next,some touched) => (next,.answered (.ok touched.status),[])
  | (next,none) => (next,.answered (.failed 401 "agent session changed during verification"),[])

def advance (s : AgentStore) (task : Task) (now : Int) : Option Outcome :=
  match task with
  | .start (.rotateKey agentId hostId key) => some (rotateStart digest importKey s agentId hostId key)
  | .start (.status agentId hostId approval staleDetail) => some (statusStart s agentId hostId approval staleDetail)
  | .start (.reactivate agentId hostId) => some (reactivateStart s agentId hostId)
  | .start (.slide verified) => some (slideStart digest s now verified)
  | .scanning agentId hostId key session => some (rotateScan digest s agentId hostId key session)
  | .rereading (.rotateKey agentId hostId key) session => some (rotateReread s agentId hostId key session)
  | .rereading (.status agentId hostId approval staleDetail) session =>
    some (statusReread s now agentId hostId approval staleDetail session)
  | .rereading (.reactivate agentId hostId) session => some (reactivateReread s now agentId hostId session)
  | .rereading (.slide _) _ => none
  | .writing (.rotateKey agentId _ key) _ row expected => some (rotateWrite digest s agentId key row expected)
  | .writing (.status agentId _ _ _) session row expected => some (statusWrite digest s agentId session row expected)
  | .writing (.reactivate agentId _) _ row expected => some (reactivateWrite digest s agentId row expected)
  | .writing (.slide _) _ _ _ => none
  | .refreshing session => some (statusRefresh s session)
  | .touching verified => some (slideTouch digest s now verified)
  | .answered _ => none

def Task.arrives : Task → Bool
  | .start _ => true
  | _ => false

def program : Program AgentStore Task Int Event where
  arrives := Task.arrives
  advance := advance digest importKey

-- A row ready to be written: under its own id, over a stored one, and with the key it
-- was read with unless the handler rotates.
def Valid (s : AgentStore) : Task → Prop
  | .writing (.rotateKey agentId _ key) _ row _ => row.agentId = agentId ∧ row.publicKey = key ∧ (s.get agentId).isSome
  | .writing (.status agentId _ _ _) _ row expected => row.agentId = agentId ∧ row.publicKey = expected ∧ (s.get agentId).isSome
  | .writing (.reactivate agentId _) _ row expected => row.agentId = agentId ∧ row.publicKey = expected ∧ (s.get agentId).isSome
  | _ => True

-- All that one operation of a handler can do. `overwritten` is a rotation that writes
-- its whole snapshot, because the expected key is already the new one.
inductive Effect (s : AgentStore) : Task → AgentStore → List Event → Prop where
  | read (task : Task) : Effect s task s []
  | confirmed (agentId hostId : String) (key : PublicKey) (row : AgentSession) (found : s.get agentId = some row)
      (same : jwkThumbprintSha256 digest row.publicKey = jwkThumbprintSha256 digest key) :
      Effect s (.start (.rotateKey agentId hostId key)) s [.rotated agentId key]
  | merged (task : Task) (agentId : String) (key : PublicKey) (row : AgentSession) (found : s.get agentId = some row) :
      Effect s task (s.put {row with publicKey := key}) [.rotated agentId key]
  | overwritten (agentId hostId : String) (key expected : PublicKey) (session old row : AgentSession)
      (found : s.get agentId = some old) (own : row.agentId = agentId) (carries : row.publicKey = key)
      (same : jwkThumbprintSha256 digest key = jwkThumbprintSha256 digest expected) :
      Effect s (.writing (.rotateKey agentId hostId key) session row expected) (s.put row) [.rotated agentId key]
  | changed (task : Task) (agentId : String) (old row : AgentSession) (found : s.get agentId = some old)
      (own : row.agentId = agentId) (same : jwkThumbprintSha256 digest row.publicKey = jwkThumbprintSha256 digest old.publicKey) :
      Effect s task (s.put row) [.changed agentId row.status]
  | touched (task : Task) (agentId : String) (current : AgentSession) (lastUsedAt : Int)
      (found : s.get agentId = some current) : Effect s task (s.put {current with lastUsedAt := some lastUsedAt}) []

theorem rotateStart_effect (s : AgentStore) (agentId hostId : String) (key : PublicKey) :
    Effect digest s (.start (.rotateKey agentId hostId key)) (rotateStart digest importKey s agentId hostId key).1
      (rotateStart digest importKey s agentId hostId key).2.2 := by
  unfold rotateStart
  split
  · exact .read _
  · rename_i session found
    split
    · exact .read _
    · split
      · exact .read _
      · split
        · exact .read _
        · split
          · rename_i newTp tp new known
            split
            · rename_i same
              subst same
              exact .confirmed agentId hostId key session found (known.trans new.symm)
            · exact .read _
          · exact .read _

theorem rotateWrite_effect (s : AgentStore) (agentId hostId : String) (key expected : PublicKey) (session row : AgentSession)
    (valid : Valid s (.writing (.rotateKey agentId hostId key) session row expected)) :
    Effect digest s (.writing (.rotateKey agentId hostId key) session row expected)
      (rotateWrite digest s agentId key row expected).1 (rotateWrite digest s agentId key row expected).2.2 := by
  obtain ⟨own,carries,present⟩ := valid
  unfold rotateWrite
  split
  · rename_i next saved
    obtain ⟨stored,rfl,shape⟩ := save_stored digest s next row (some expected) saved
    cases shape with
    | fresh absent =>
      rw [own] at absent
      simp [absent] at present
    | unchecked _ _ _ given => cases given
    | matched existing known tp found _ given _ incoming expectedTp =>
      cases given
      exact .overwritten agentId hostId key expected session existing row (own ▸ found) own carries
        (by rw [← carries,incoming,expectedTp])
    | rotated existing known tp new found =>
      rw [carries]
      exact .merged _ agentId key existing (own ▸ found)
  · exact .read _
  · exact .read _

-- A handler that writes back the key it read changes no key.
theorem write_effect (s next : AgentStore) (task : Task) (agentId : String) (row : AgentSession) (expected : PublicKey)
    (own : row.agentId = agentId) (carries : row.publicKey = expected) (present : (s.get agentId).isSome)
    (saved : saveAgentUnlessRevoked digest s row (some expected) = .ok next) :
    Effect digest s task next [.changed agentId row.status] := by
  obtain ⟨stored,rfl,shape⟩ := save_stored digest s next row (some expected) saved
  cases shape with
  | fresh absent =>
    rw [own] at absent
    simp [absent] at present
  | unchecked _ _ _ given => cases given
  | matched existing known tp found _ _ storedTp incoming _ =>
    exact .changed task agentId existing row (own ▸ found) own (incoming.trans storedTp.symm)
  | rotated existing known tp new found _ given _ incoming expectedTp differs =>
    cases given
    rw [carries,expectedTp] at incoming
    exact absurd (Option.some.inj incoming).symm differs

theorem statusWrite_effect (s : AgentStore) (agentId hostId : String) (approval : Option ApprovalStatus)
    (staleDetail : Option String) (session row : AgentSession) (expected : PublicKey)
    (valid : Valid s (.writing (.status agentId hostId approval staleDetail) session row expected)) (task : Task) :
    Effect digest s task (statusWrite digest s agentId session row expected).1
      (statusWrite digest s agentId session row expected).2.2 := by
  unfold statusWrite
  split
  · rename_i next saved
    exact write_effect digest s next task agentId row expected valid.1 valid.2.1 valid.2.2 saved
  · exact .read _

theorem reactivateWrite_effect (s : AgentStore) (agentId : String) (hostId : Option String) (session row : AgentSession)
    (expected : PublicKey) (valid : Valid s (.writing (.reactivate agentId hostId) session row expected)) (task : Task) :
    Effect digest s task (reactivateWrite digest s agentId row expected).1
      (reactivateWrite digest s agentId row expected).2.2 := by
  unfold reactivateWrite
  split
  · rename_i next saved
    exact write_effect digest s next task agentId row expected valid.1 valid.2.1 valid.2.2 saved
  · exact .read _
  · exact .read _

theorem slideTouch_effect (s : AgentStore) (now : Int) (verified : AgentSession) (task : Task) :
    Effect digest s task (slideTouch digest s now verified).1 (slideTouch digest s now verified).2.2 := by
  unfold slideTouch
  rcases touch_cases digest s now verified.agentId verified.publicKey now verified.hostId with
    same | ⟨current,tp,found,_,_,_,_,_,moved⟩
  · rw [same]
    exact .read _
  · rw [moved]
    exact .touched task verified.agentId current now found

-- The operations that only read, and hand on at most a row they have just read.
def Reads (s : AgentStore) (outcome : Outcome) : Prop := outcome.1 = s ∧ outcome.2.2 = [] ∧ Valid s outcome.2.1

theorem rotateScan_reads (s : AgentStore) (agentId hostId : String) (key : PublicKey) (session : AgentSession) :
    Reads s (rotateScan digest s agentId hostId key session) := by
  unfold rotateScan
  split <;> exact ⟨rfl,rfl,trivial⟩

theorem rotateReread_reads (s : AgentStore) (agentId hostId : String) (key : PublicKey) (session : AgentSession) :
    Reads s (rotateReread s agentId hostId key session) := by
  unfold rotateReread
  split
  · exact ⟨rfl,rfl,trivial⟩
  · rename_i fresh found
    split
    · exact ⟨rfl,rfl,trivial⟩
    · exact ⟨rfl,rfl,s.keyed agentId fresh found,rfl,by simp [found]⟩

theorem statusStart_reads (s : AgentStore) (agentId hostId : String) (approval : Option ApprovalStatus)
    (staleDetail : Option String) : Reads s (statusStart s agentId hostId approval staleDetail) := by
  unfold statusStart
  repeat' split
  all_goals exact ⟨rfl,rfl,trivial⟩

theorem resolved_fields (now : Int) (approval : Option ApprovalStatus) (fresh : AgentSession) :
    (resolved now approval fresh).agentId = fresh.agentId ∧ (resolved now approval fresh).publicKey = fresh.publicKey := by
  unfold resolved
  split <;> exact ⟨rfl,rfl⟩

theorem statusReread_reads (s : AgentStore) (now : Int) (agentId hostId : String) (approval : Option ApprovalStatus)
    (staleDetail : Option String) (session : AgentSession) :
    Reads s (statusReread s now agentId hostId approval staleDetail session) := by
  unfold statusReread
  split
  · exact ⟨rfl,rfl,trivial⟩
  · rename_i fresh found
    obtain ⟨own,carries⟩ := resolved_fields now approval fresh
    split
    · exact ⟨rfl,rfl,trivial⟩
    · exact ⟨rfl,rfl,own.trans (s.keyed agentId fresh found),carries,by simp [found]⟩

theorem statusRefresh_reads (s : AgentStore) (session : AgentSession) : Reads s (statusRefresh s session) := by
  unfold statusRefresh
  split <;> exact ⟨rfl,rfl,trivial⟩

theorem reactivateStart_reads (s : AgentStore) (agentId : String) (hostId : Option String) :
    Reads s (reactivateStart s agentId hostId) := by
  unfold reactivateStart
  repeat' split
  all_goals exact ⟨rfl,rfl,trivial⟩

theorem reactivateAgent_fields (now : Int) (agent reactivated : AgentSession)
    (accepted : reactivateAgent now agent = .ok reactivated) :
    reactivated.agentId = agent.agentId ∧ reactivated.publicKey = agent.publicKey := by
  unfold reactivateAgent at accepted
  split at accepted
  · cases accepted
  · split at accepted
    · cases accepted
    · cases accepted
      exact ⟨rfl,rfl⟩

theorem reactivateReread_reads (s : AgentStore) (now : Int) (agentId : String) (hostId : Option String)
    (session : AgentSession) : Reads s (reactivateReread s now agentId hostId session) := by
  unfold reactivateReread
  split
  · exact ⟨rfl,rfl,trivial⟩
  · rename_i fresh found
    split
    · exact ⟨rfl,rfl,trivial⟩
    · rename_i reactivated accepted
      obtain ⟨own,carries⟩ := reactivateAgent_fields now fresh reactivated accepted
      exact ⟨rfl,rfl,own.trans (s.keyed agentId fresh found),carries,by simp [found]⟩

theorem slideStart_reads (s : AgentStore) (now : Int) (verified : AgentSession) :
    Reads s (slideStart digest s now verified) := by
  unfold slideStart
  repeat' split
  all_goals exact ⟨rfl,rfl,trivial⟩

-- What is known of one operation: its effect, and that what it hands on is valid.
def Sound (s : AgentStore) (task : Task) (outcome : Outcome) : Prop :=
  Effect digest s task outcome.1 outcome.2.2 ∧ Valid outcome.1 outcome.2.1

theorem Reads.sound {s : AgentStore} {outcome : Outcome} (reads : Reads s outcome) (task : Task) :
    Sound digest s task outcome := by
  unfold Sound
  rw [reads.1,reads.2.1]
  exact ⟨.read task,reads.2.2⟩

theorem rotateStart_sound (s : AgentStore) (agentId hostId : String) (key : PublicKey) :
    Sound digest s (.start (.rotateKey agentId hostId key)) (rotateStart digest importKey s agentId hostId key) := by
  refine ⟨rotateStart_effect digest importKey s agentId hostId key,?_⟩
  unfold rotateStart
  repeat' split
  all_goals trivial

theorem rotateWrite_sound (s : AgentStore) (agentId hostId : String) (key expected : PublicKey) (session row : AgentSession)
    (valid : Valid s (.writing (.rotateKey agentId hostId key) session row expected)) :
    Sound digest s (.writing (.rotateKey agentId hostId key) session row expected)
      (rotateWrite digest s agentId key row expected) := by
  refine ⟨rotateWrite_effect digest s agentId hostId key expected session row valid,?_⟩
  unfold rotateWrite
  split <;> trivial

theorem statusWrite_sound (s : AgentStore) (agentId hostId : String) (approval : Option ApprovalStatus)
    (staleDetail : Option String) (session row : AgentSession) (expected : PublicKey)
    (valid : Valid s (.writing (.status agentId hostId approval staleDetail) session row expected)) (task : Task) :
    Sound digest s task (statusWrite digest s agentId session row expected) := by
  refine ⟨statusWrite_effect digest s agentId hostId approval staleDetail session row expected valid task,?_⟩
  unfold statusWrite
  split <;> trivial

theorem reactivateWrite_sound (s : AgentStore) (agentId : String) (hostId : Option String) (session row : AgentSession)
    (expected : PublicKey) (valid : Valid s (.writing (.reactivate agentId hostId) session row expected)) (task : Task) :
    Sound digest s task (reactivateWrite digest s agentId row expected) := by
  refine ⟨reactivateWrite_effect digest s agentId hostId session row expected valid task,?_⟩
  unfold reactivateWrite
  split <;> trivial

theorem slideTouch_sound (s : AgentStore) (now : Int) (verified : AgentSession) (task : Task) :
    Sound digest s task (slideTouch digest s now verified) := by
  refine ⟨slideTouch_effect digest s now verified task,?_⟩
  unfold slideTouch
  split <;> trivial

theorem advance_sound (s : AgentStore) (task : Task) (now : Int) (outcome : Outcome) (valid : Valid s task)
    (stepped : advance digest importKey s task now = some outcome) : Sound digest s task outcome := by
  cases task with
  | start request =>
    cases request with
    | rotateKey agentId hostId key => cases stepped; exact rotateStart_sound digest importKey s agentId hostId key
    | status agentId hostId approval staleDetail =>
      cases stepped; exact (statusStart_reads s agentId hostId approval staleDetail).sound digest _
    | reactivate agentId hostId => cases stepped; exact (reactivateStart_reads s agentId hostId).sound digest _
    | slide verified => cases stepped; exact (slideStart_reads digest s now verified).sound digest _
  | scanning agentId hostId key session =>
    cases stepped; exact (rotateScan_reads digest s agentId hostId key session).sound digest _
  | rereading request session =>
    cases request with
    | rotateKey agentId hostId key => cases stepped; exact (rotateReread_reads s agentId hostId key session).sound digest _
    | status agentId hostId approval staleDetail =>
      cases stepped; exact (statusReread_reads s now agentId hostId approval staleDetail session).sound digest _
    | reactivate agentId hostId => cases stepped; exact (reactivateReread_reads s now agentId hostId session).sound digest _
    | slide verified => cases stepped
  | writing request session row expected =>
    cases request with
    | rotateKey agentId hostId key =>
      cases stepped; exact rotateWrite_sound digest s agentId hostId key expected session row valid
    | status agentId hostId approval staleDetail =>
      cases stepped; exact statusWrite_sound digest s agentId hostId approval staleDetail session row expected valid _
    | reactivate agentId hostId =>
      cases stepped; exact reactivateWrite_sound digest s agentId hostId session row expected valid _
    | slide verified => cases stepped
  | refreshing session => cases stepped; exact (statusRefresh_reads s session).sound digest _
  | touching verified => cases stepped; exact slideTouch_sound digest s now verified _
  | answered response => cases stepped

def keyOf (s : AgentStore) (agentId : String) : Option String :=
  (s.get agentId).bind (fun row => jwkThumbprintSha256 digest row.publicKey)

def statusOf (s : AgentStore) (agentId : String) : Option AgentSessionStatus := (s.get agentId).map AgentSession.status

-- The key of the last successful rotation of an agent, and its last successful status
-- change, as a log of reports has them.
def lastKey (agentId : String) (initial : Option String) (log : List Event) : Option String :=
  log.foldl (fun known event => match event with
    | .rotated id key => if id = agentId then jwkThumbprintSha256 digest key else known
    | .changed _ _ => known) initial

def lastStatus (agentId : String) (initial : Option AgentSessionStatus) (log : List Event) : Option AgentSessionStatus :=
  log.foldl (fun known event => match event with
    | .rotated _ _ => known
    | .changed id status => if id = agentId then some status else known) initial

theorem effect_present (s next : AgentStore) (task : Task) (events : List Event) (agentId : String)
    (effect : Effect digest s task next events) (present : (s.get agentId).isSome) : (next.get agentId).isSome := by
  have put (row : AgentSession) : ((s.put row).get agentId).isSome := by
    rw [AgentStore.get_put]
    split
    · rfl
    · exact present
  cases effect with
  | read | confirmed => exact present
  | merged | overwritten | changed | touched => exact put _

theorem valid_stable (s next : AgentStore) (task waiting : Task) (events : List Event)
    (effect : Effect digest s task next events) (valid : Valid s waiting) : Valid next waiting := by
  cases waiting with
  | writing request session row expected =>
    cases request with
    | rotateKey agentId | status agentId | reactivate agentId =>
      exact ⟨valid.1,valid.2.1,effect_present digest s next task events agentId effect valid.2.2⟩
    | slide => trivial
  | start | scanning | rereading | refreshing | touching | answered => trivial

theorem effect_key (s next : AgentStore) (task : Task) (events : List Event) (id : String)
    (effect : Effect digest s task next events) : keyOf digest next id = lastKey digest id (keyOf digest s id) events := by
  cases effect with
  | read => rfl
  | confirmed agentId hostId key row found same =>
    simp only [lastKey,List.foldl_cons,List.foldl_nil]
    split
    · rename_i here
      subst here
      simp [keyOf,found,same]
    · rfl
  | merged _ agentId key row found =>
    have own := s.keyed agentId row found
    simp only [lastKey,List.foldl_cons,List.foldl_nil,keyOf,AgentStore.get_put,own]
    split <;> rfl
  | overwritten agentId hostId key expected session old row found own carries =>
    simp only [lastKey,List.foldl_cons,List.foldl_nil,keyOf,AgentStore.get_put,own]
    split
    · rw [← carries]; rfl
    · rfl
  | changed _ agentId old row found own same =>
    simp only [lastKey,List.foldl_cons,List.foldl_nil,keyOf,AgentStore.get_put,own]
    split
    · rename_i here
      subst here
      simp [found,same]
    · rfl
  | touched _ agentId current lastUsedAt found =>
    have own := s.keyed agentId current found
    simp only [lastKey,List.foldl_nil,keyOf,AgentStore.get_put,own]
    split
    · rename_i here
      subst here
      simp [found]
    · rfl

-- A rotation that is about to write expects another key than its own.
def Apart : Task → Prop
  | .writing (.rotateKey _ _ key) _ _ expected => jwkThumbprintSha256 digest key ≠ jwkThumbprintSha256 digest expected
  | _ => True

theorem effect_status (s next : AgentStore) (task : Task) (events : List Event) (id : String)
    (effect : Effect digest s task next events) (apart : Apart digest task) :
    statusOf next id = lastStatus id (statusOf s id) events := by
  cases effect with
  | read => rfl
  | confirmed => rfl
  | merged _ agentId key row found =>
    have own := s.keyed agentId row found
    simp only [lastStatus,List.foldl_cons,List.foldl_nil,statusOf,AgentStore.get_put,own]
    split
    · rename_i here
      subst here
      simp [found]
    · rfl
  | overwritten agentId hostId key expected session old row found own carries same => exact absurd same apart
  | changed _ agentId old row found own same =>
    simp only [lastStatus,List.foldl_cons,List.foldl_nil,statusOf,AgentStore.get_put,own]
    split <;> rfl
  | touched _ agentId current lastUsedAt found =>
    have own := s.keyed agentId current found
    simp only [lastStatus,List.foldl_nil,statusOf,AgentStore.get_put,own]
    split
    · rename_i here
      subst here
      simp [found]
    · rfl

abbrev State := Machine AgentStore Task Event

-- No rotation re-reads a row that already carries the key it rotates to.
def overlapFree (m : State) : Move Task Int → Bool
  | .arrive _ _ => true
  | .proceed id _ =>
    match m.tasks.get id with
    | some (.rereading (.rotateKey agentId _ key) _) => decide (keyOf digest m.store agentId ≠ jwkThumbprintSha256 digest key)
    | _ => true

theorem rotateReread_apart (s : AgentStore) (agentId hostId : String) (key : PublicKey) (session : AgentSession)
    (free : keyOf digest s agentId ≠ jwkThumbprintSha256 digest key) :
    Apart digest (rotateReread s agentId hostId key session).2.1 := by
  unfold rotateReread
  split
  · trivial
  · rename_i fresh found
    split
    · trivial
    · intro same
      apply free
      simpa [keyOf,found] using same.symm

theorem advance_apart (m : State) (id : Nat) (now : Int) (task : Task) (outcome : Outcome)
    (free : overlapFree digest m (.proceed id now) = true) (known : m.tasks.get id = some task)
    (stepped : advance digest importKey m.store task now = some outcome) : Apart digest outcome.2.1 := by
  cases task with
  | start request =>
    cases request with
    | rotateKey =>
      cases stepped
      unfold rotateStart
      repeat' split
      all_goals trivial
    | status =>
      cases stepped
      unfold statusStart
      repeat' split
      all_goals trivial
    | reactivate =>
      cases stepped
      unfold reactivateStart
      repeat' split
      all_goals trivial
    | slide =>
      cases stepped
      unfold slideStart
      repeat' split
      all_goals trivial
  | scanning => cases stepped; unfold rotateScan; split <;> trivial
  | rereading request session =>
    cases request with
    | rotateKey agentId hostId key =>
      cases stepped
      simp only [overlapFree,known,decide_eq_true_eq] at free
      exact rotateReread_apart digest m.store agentId hostId key session free
    | status =>
      cases stepped
      unfold statusReread
      repeat' split
      all_goals trivial
    | reactivate =>
      cases stepped
      unfold reactivateReread
      repeat' split
      all_goals trivial
    | slide => cases stepped
  | writing request session row expected =>
    cases request with
    | rotateKey => cases stepped; unfold rotateWrite; split <;> trivial
    | status => cases stepped; unfold statusWrite; split <;> trivial
    | reactivate => cases stepped; unfold reactivateWrite; split <;> trivial
    | slide => cases stepped
  | refreshing => cases stepped; unfold statusRefresh; split <;> trivial
  | touching => cases stepped; unfold slideTouch; split <;> trivial
  | answered => cases stepped

theorem start_valid (s : AgentStore) (task : Task) (arrives : task.arrives = true) : Valid s task ∧ Apart digest task := by
  cases task with
  | start => exact ⟨trivial,trivial⟩
  | scanning | rereading | writing | refreshing | touching | answered => cases arrives

-- In every interleaving the stored key is that of the last rotation that reported
-- success; where no rotation re-reads its own key, the stored status is that of the
-- last status change that reported success.
theorem rotations_and_changes_kept (s : AgentStore) (moves : List (Move Task Int)) (final : State) (agentId : String) :
    (Runs (program digest importKey).next (fun _ _ => True) (Machine.init s) moves final →
      keyOf digest final.store agentId = lastKey digest agentId (keyOf digest s agentId) final.log) ∧
    (Runs (program digest importKey).next (fun m move => overlapFree digest m move = true) (Machine.init s) moves final →
      statusOf final.store agentId = lastStatus agentId (statusOf s agentId) final.log) := by
  constructor
  · intro run
    have start : Holds (fun t log => keyOf digest t agentId = lastKey digest agentId (keyOf digest s agentId) log) Valid
        (Machine.init s : State) := ⟨rfl,by simp [Machine.init]⟩
    refine ((program digest importKey).interleaved _ _ Valid (fun t task arrives => (start_valid digest t task arrives).1)
      ?_ _ final moves run start).1
    intro m id now task next task' events holds _ known stepped
    obtain ⟨effect,valid⟩ := advance_sound digest importKey m.store task now _ (holds.2 id task known) stepped
    refine ⟨?_,valid,fun other waiting _ standing =>
      valid_stable digest m.store next task waiting events effect (holds.2 other waiting standing)⟩
    have before := holds.1
    rw [effect_key digest m.store next task events agentId effect,before]
    simp [lastKey,List.foldl_append]
  · intro run
    have start : Holds (fun t log => statusOf t agentId = lastStatus agentId (statusOf s agentId) log)
        (fun t task => Valid t task ∧ Apart digest task) (Machine.init s : State) := ⟨rfl,by simp [Machine.init]⟩
    refine ((program digest importKey).interleaved _ _ (fun t task => Valid t task ∧ Apart digest task)
      (start_valid digest) ?_ _ final moves run start).1
    intro m id now task next task' events holds free known stepped
    obtain ⟨valid,apart⟩ := holds.2 id task known
    obtain ⟨effect,valid'⟩ := advance_sound digest importKey m.store task now _ valid stepped
    refine ⟨?_,⟨valid',advance_apart digest importKey m id now task _ free known stepped⟩,fun other waiting _ standing =>
      ⟨valid_stable digest m.store next task waiting events effect (holds.2 other waiting standing).1,
        (holds.2 other waiting standing).2⟩⟩
    have before := holds.1
    rw [effect_status digest m.store next task events agentId effect apart,before]
    simp [lastStatus,List.foldl_append]

def pendingStore : AgentStore := AgentStore.init.put {liveSession with status := .pending}

def rotation : Task := .start (.rotateKey "a1" "h1" secondKey)
def approvedPoll : Task := .start (.status "a1" "h1" (some .approved) none)

def steps (id count : Nat) : List (Move Task Int) := List.replicate count (.proceed id 0)

-- Two rotations to one key: the second is done when the first re-reads the row, the
-- agent is activated, and then the first writes its snapshot.
def overlappingMoves : List (Move Task Int) :=
  [Move.arrive 0 rotation] ++ steps 0 2 ++ [Move.arrive 1 rotation] ++ steps 1 4 ++ steps 0 1 ++ [Move.arrive 2 approvedPoll] ++ steps 2 3 ++
    steps 0 1

theorem overlapping_statuses : (execute (program keyDigest (fun _ => true)).next anyMove (Machine.init pendingStore)
    overlappingMoves).map (fun m => (statusOf m.store "a1",lastStatus "a1" (statusOf pendingStore "a1") m.log)) =
      some (some .pending,some .active) := by
  decide +kernel

theorem activation_undone_by_rotation :
    ∃ final, Runs (program keyDigest (fun _ => true)).next (fun _ _ => True) (Machine.init pendingStore) overlappingMoves final ∧
      statusOf final.store "a1" = some .pending ∧ lastStatus "a1" (statusOf pendingStore "a1") final.log = some .active := by
  obtain ⟨final,ran,statuses⟩ := Option.map_eq_some_iff.mp overlapping_statuses
  exact ⟨final,execute_free ran,congrArg Prod.fst statuses,congrArg Prod.snd statuses⟩

-- One rotation around an activation: both stay.
def apartMoves : List (Move Task Int) :=
  [Move.arrive 0 rotation] ++ steps 0 3 ++ [Move.arrive 1 approvedPoll] ++ steps 1 3 ++ steps 0 1

theorem apart_reports : (execute (program keyDigest (fun _ => true)).next (overlapFree keyDigest) (Machine.init pendingStore)
    apartMoves).map (fun m => (lastKey keyDigest "a1" (keyOf keyDigest pendingStore "a1") m.log,
      lastStatus "a1" (statusOf pendingStore "a1") m.log)) =
      some (jwkThumbprintSha256 keyDigest secondKey,some .active) := by
  decide +kernel

theorem rotation_and_activation_kept :
    ∃ final : State, keyOf keyDigest final.store "a1" = jwkThumbprintSha256 keyDigest secondKey ∧
      statusOf final.store "a1" = some .active := by
  obtain ⟨final,ran,reports⟩ := Option.map_eq_some_iff.mp apart_reports
  have run := execute_runs (overlapFree keyDigest) ran
  have kept := rotations_and_changes_kept keyDigest (fun _ => true) pendingStore apartMoves final "a1"
  exact ⟨final,(kept.1 (run.mono (fun _ _ _ => trivial))).trans (congrArg Prod.fst reports),
    (kept.2 run).trans (congrArg Prod.snd reports)⟩

end Asap.AgentLifecycle
