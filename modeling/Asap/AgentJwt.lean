import Asap.AgentLifecycle
import Asap.HostJwt

namespace Asap.AgentJwt
open OrderedDict PythonValue Interleaving AgentIdentity JtiReplay
open HostJwt (Jose Agree Claims FloatValue Audience lookup text jtiOf validateStandardClaims hostRevokedError)

def agentJwtTyp : String := "agent+jwt"

structure Call where
  token : String
  expectedAudience : Option Audience
  jtiReplayCache : Bool

-- `raised` is an exception that leaves the call.
inductive Result where
  | accepted (claims : Claims) (host : HostIdentity) (agent : AgentSession)
  | refused (error : String)
  | raised

-- A verification between its accesses to the stores, and what else touches the agents:
-- the lifecycle handlers, and any single call of the store (revocations, a save by an
-- administrator that moves the agent to another host).
inductive Task where
  | start (call : Call)
  | reading (call : Call) (sub : String)
  | resolving (call : Call) (agent : AgentSession) (claims : Claims) (iss : String)
  | sliding (call : Call) (agent : AgentSession) (claims : Claims) (host : HostIdentity)
  | touching (call : Call) (agent : AgentSession) (claims : Claims) (host : HostIdentity)
  | answered (call : Call) (result : Result)
  | lifecycle (task : AgentLifecycle.Task)
  | administered (call : AgentIdentity.Call)
  | settled

structure Store where
  agents : AgentStore
  cache : JtiReplayCache

-- The clock as the step reads it for claims and expiry, for the replay cache and for
-- the last-used time, and what the host store answers if it is asked.
structure Input where
  now : Int
  cacheNow : Int
  lastUsedAt : Int
  host : Option HostIdentity

abbrev Outcome := Store × Task × List Empty

section Verification
variable (digest : String → String) (floatOfStr : String → Option FloatValue) (jose : Jose) (importKey : PublicKey → Bool)

def answer (s : Store) (call : Call) (result : Result) : Outcome := (s,.answered call result,[])

def verifyStart (s : Store) (call : Call) : Outcome :=
  match jose.extractCompact call.token with
  | .error text => answer s call (.refused ("invalid JWT structure: " ++ text))
  | .ok (header,payload) =>
    if (header.get "typ").bind text ≠ some agentJwtTyp then answer s call (.refused "invalid typ for agent JWT")
    else match payload with
      | .dict items =>
        match lookup "sub" items with
        | some (.str sub) =>
          if strip sub = "" then answer s call (.refused "missing sub (agent id)") else (s,.reading call sub,[])
        | _ => answer s call (.refused "missing sub (agent id)")
      -- only an object has `get`
      | _ => answer s call .raised

-- From the row to the claims: the signature is checked with the key read here.
def verifyClaims (call : Call) (agent : AgentSession) (nowTs : Int) : Except Result (Claims × String) :=
  match AgentLifecycle.unusableAgentError agent with
  | some error => .error (.refused error)
  | none =>
    match (jose.importKey agent.publicKey).bind (fun _ => jose.decode call.token agent.publicKey) with
    | .error text => .error (.refused ("invalid agent JWT: " ++ text))
    | .ok claims =>
      match validateStandardClaims floatOfStr claims nowTs call.expectedAudience with
      | .error _ => .error .raised
      | .ok (some error) => .error (.refused error)
      | .ok none =>
        if (claims.get "sub").bind text ≠ some agent.agentId then .error (.refused "sub does not match verified agent id")
        else match (claims.get "iss").bind text with
          | some iss =>
            if strip iss = "" then .error (.refused "missing iss (host thumbprint)") else .ok (claims,iss)
          | none => .error (.refused "missing iss (host thumbprint)")

def verifyRead (s : Store) (call : Call) (sub : String) (nowTs : Int) : Outcome :=
  match s.agents.get sub with
  | none => answer s call (.refused "unknown agent")
  | some agent =>
    match verifyClaims floatOfStr jose call agent nowTs with
    | .error result => answer s call result
    | .ok (claims,iss) => (s,.resolving call agent claims iss,[])

def expiredAgentError (now : Int) (agent : AgentSession) : Option String :=
  match checkAgentExpiry now agent with
  | .revoked => some "agent_revoked"
  | .expired => some "agent_expired"
  | .active => none

def jtiCheck (cache : JtiReplayCache) (call : Call) (agent : AgentSession) (claims : Claims) (cacheNow : Int) :
    JtiReplayCache × Option Result :=
  if call.jtiReplayCache then
    match jtiOf claims with
    | none => (cache,some .raised)
    | some jti =>
      match checkAndRecord cache agent.agentId jti cacheNow with
      | (next,true) => (next,none)
      | (next,false) => (next,some (.refused "jti replay detected"))
  else (cache,none)

def verifyHost (s : Store) (call : Call) (agent : AgentSession) (claims : Claims) (input : Input) : Outcome :=
  match input.host with
  | none => answer s call (.refused "unknown host for iss")
  | some host =>
    if host.status = .revoked then answer s call (.refused hostRevokedError)
    else if host.hostId ≠ agent.hostId then answer s call (.refused "agent host_id does not match iss host")
    else
      let (cache,failed) := jtiCheck s.cache call agent claims input.cacheNow
      match failed with
      | some result => answer {s with cache} call result
      | none =>
        match expiredAgentError input.now agent with
        | some error => answer {s with cache} call (.refused error)
        | none => ({s with cache},.sliding call agent claims host,[])

-- `slide_session_if_still_current`: the second read, then the conditional write.
def verifySlide (s : Store) (call : Call) (agent : AgentSession) (claims : Claims) (host : HostIdentity) (now : Int) : Outcome :=
  match (AgentLifecycle.slideStart digest s.agents now agent).2.1 with
  | .touching _ => (s,.touching call agent claims host,[])
  | .answered (.failed 401 error) => answer s call (.refused error)
  | _ => answer s call .raised

def verifyTouch (s : Store) (call : Call) (agent : AgentSession) (claims : Claims) (host : HostIdentity) (input : Input) :
    Outcome :=
  match s.agents.touchIfCurrent digest input.now agent.agentId agent.publicKey input.lastUsedAt agent.hostId with
  | (agents,some touched) => answer {s with agents} call (.accepted claims host touched)
  | (agents,none) => answer {s with agents} call (.refused "agent session changed during verification")

def advance (s : Store) (task : Task) (input : Input) : Option Outcome :=
  match task with
  | .start call => some (verifyStart jose s call)
  | .reading call sub => some (verifyRead floatOfStr jose s call sub input.now)
  | .resolving call agent claims _ => some (verifyHost s call agent claims input)
  | .sliding call agent claims host => some (verifySlide digest s call agent claims host input.now)
  | .touching call agent claims host => some (verifyTouch digest s call agent claims host input)
  | .answered _ _ => none
  | .lifecycle task =>
    (AgentLifecycle.advance digest importKey s.agents task input.now).map (fun (agents,next,_) =>
      ({s with agents},.lifecycle next,[]))
  | .administered call => (AgentIdentity.call digest s.agents call).map (fun agents => ({s with agents},.settled,[]))
  | .settled => none

def Task.arrives : Task → Bool
  | .start _ | .administered _ => true
  | .lifecycle task => task.arrives
  | _ => false

def program : Program Store Task Input Empty where
  arrives := Task.arrives
  advance := advance digest floatOfStr jose importKey

abbrev State := Machine Store Task Empty

def Task.running : Task → Bool
  | .start _ | .reading _ _ | .resolving _ _ _ _ | .sliding _ _ _ _ | .touching _ _ _ _ => true
  | _ => false

-- The call of a verification, until it has left its stages.
def Task.presents : Task → Option Call
  | .start call | .reading call _ | .resolving call _ _ _ | .sliding call _ _ _ | .touching call _ _ _ | .answered call _ => some call
  | .lifecycle _ | .administered _ | .settled => none

-- A verification keeps to the call it was started with, and asks the library about no other token.
theorem advance_presents (s : Store) (task : Task) (input : Input) (outcome : Outcome)
    (advanced : advance digest floatOfStr jose importKey s task input = some outcome) : outcome.2.1.presents = task.presents := by
  cases task with
  | start call =>
    cases advanced
    unfold verifyStart
    repeat' split
    all_goals rfl
  | reading call sub =>
    cases advanced
    unfold verifyRead
    repeat' split
    all_goals rfl
  | resolving call agent claims iss =>
    cases advanced
    unfold verifyHost
    simp only
    repeat' split
    all_goals rfl
  | sliding call agent claims host =>
    cases advanced
    unfold verifySlide
    repeat' split
    all_goals rfl
  | touching call agent claims host =>
    cases advanced
    unfold verifyTouch
    repeat' split
    all_goals rfl
  | answered | settled => cases advanced
  | lifecycle task =>
    obtain ⟨_,_,rfl⟩ := Option.map_eq_some_iff.mp advanced
    rfl
  | administered call =>
    obtain ⟨_,_,rfl⟩ := Option.map_eq_some_iff.mp advanced
    rfl

section Agree
variable {other : Jose}

theorem verifyStart_agree (s : Store) {call : Call} (agree : Agree jose other call.token) : verifyStart jose s call = verifyStart other s call := by
  unfold verifyStart
  rw [agree.compact]

theorem verifyRead_agree (s : Store) {call : Call} (sub : String) (nowTs : Int) (agree : Agree jose other call.token) :
    verifyRead floatOfStr jose s call sub nowTs = verifyRead floatOfStr other s call sub nowTs := by
  unfold verifyRead verifyClaims
  simp only [agree.imported,agree.decoded]

theorem advance_agree (s : Store) {task : Task} (input : Input) (agree : ∀ call, task.presents = some call → Agree jose other call.token) :
    advance digest floatOfStr jose importKey s task input = advance digest floatOfStr other importKey s task input := by
  cases task with
  | start call => exact congrArg some (verifyStart_agree jose s (agree call rfl))
  | reading call sub => exact congrArg some (verifyRead_agree floatOfStr jose s sub input.now (agree call rfl))
  | resolving | sliding | touching | answered | lifecycle | administered | settled => rfl

-- Where all tasks carry one token, the library may be any that reads it the same.
theorem program_agree {token : String} (agree : Agree jose other token) (m : State) (moves : List (Move Task Input))
    (joins : ∀ id task, Move.arrive id task ∈ moves → ∀ call, task.presents = some call → call.token = token)
    (start : ∀ id task, m.tasks.get id = some task → ∀ call, task.presents = some call → call.token = token) :
    execute (program digest floatOfStr jose importKey).next anyMove m moves =
      execute (program digest floatOfStr other importKey).next anyMove m moves := by
  refine (program digest floatOfStr jose importKey).execute_agree (program digest floatOfStr other importKey) anyMove
    (fun task => ∀ call, task.presents = some call → call.token = token) rfl ?_ ?_ m moves joins start
  · intro s task input own
    refine advance_agree digest floatOfStr jose importKey s input ?_
    intro call has
    rw [own call has]
    exact agree
  · intro s task input store task' events own advanced call has
    exact own call ((advance_presents digest floatOfStr other importKey s task input _ advanced).symm.trans has)
end Agree

-- What a verification has established by the time it waits.
def Verified : Task → Prop
  | .resolving call agent claims _ => jose.decode call.token agent.publicKey = .ok claims
  | .sliding call agent claims host | .touching call agent claims host =>
    jose.decode call.token agent.publicKey = .ok claims ∧ host.hostId = agent.hostId
  | _ => True

-- The stored row is live, the host's, and under the key that verified the signature.
def Current (s : AgentStore) (now : Int) (call : Call) (claims : Claims) (host : HostIdentity) (agentId : String) : Prop :=
  ∃ row key tp, s.get agentId = some row ∧ row.status = .active ∧ checkAgentExpiry now row = .active ∧
    row.hostId = host.hostId ∧ jose.decode call.token key = .ok claims ∧ jwkThumbprintSha256 digest key = some tp ∧
    jwkThumbprintSha256 digest row.publicKey = some tp

theorem verifyClaims_decoded (call : Call) (agent : AgentSession) (nowTs : Int) (claims : Claims) (iss : String)
    (verified : verifyClaims floatOfStr jose call agent nowTs = .ok (claims,iss)) :
    jose.decode call.token agent.publicKey = .ok claims := by
  unfold verifyClaims at verified
  split at verified
  · cases verified
  · split at verified
    · cases verified
    · rename_i decoded success
      have known : jose.decode call.token agent.publicKey = .ok decoded := by
        cases imported : jose.importKey agent.publicKey with
        | error text =>
          rw [imported] at success
          cases success
        | ok _ =>
          rw [imported] at success
          exact success
      split at verified
      · cases verified
      · cases verified
      · split at verified
        · cases verified
        · split at verified
          · split at verified
            · cases verified
            · cases verified
              exact known
          · cases verified

-- Everything a step of a verification can do: without touching the agents it goes on or
-- answers something else than an acceptance, or it accepts the row it finds.
inductive Effect (s : Store) (now : Int) : Task → Outcome → Prop where
  | reads (task : Task) (outcome : Outcome) (same : outcome.1.agents = s.agents) (verified : Verified jose outcome.2.1)
      (other : ∀ call claims host agent, outcome.2.1 ≠ .answered call (.accepted claims host agent)) : Effect s now task outcome
  | accepts (call : Call) (agent touched : AgentSession) (claims : Claims) (host : HostIdentity) (outcome : Outcome)
      (current : Current digest jose s.agents now call claims host touched.agentId)
      (result : outcome.2.1 = .answered call (.accepted claims host touched)) :
      Effect s now (.touching call agent claims host) outcome

theorem answer_reads (s next : Store) (now : Int) (task : Task) (call : Call) (result : Result) (same : next.agents = s.agents)
    (other : ∀ claims host agent, result ≠ .accepted claims host agent) :
    Effect digest jose s now task (answer next call result) := by
  refine .reads task _ same trivial ?_
  intro call claims host agent accepted
  exact other claims host agent (Task.answered.inj accepted).2

theorem verifyStart_effect (s : Store) (now : Int) (call : Call) :
    Effect digest jose s now (.start call) (verifyStart jose s call) := by
  unfold verifyStart
  split
  · exact answer_reads digest jose s s now _ call _ rfl (by simp)
  · split
    · exact answer_reads digest jose s s now _ call _ rfl (by simp)
    · split
      · split
        · split
          · exact answer_reads digest jose s s now _ call _ rfl (by simp)
          · exact .reads _ _ rfl trivial (by simp)
        · exact answer_reads digest jose s s now _ call _ rfl (by simp)
      · exact answer_reads digest jose s s now _ call _ rfl (by simp)

theorem verifyClaims_refuses (call : Call) (agent : AgentSession) (nowTs : Int) (result : Result)
    (failed : verifyClaims floatOfStr jose call agent nowTs = .error result) :
    ∀ claims host agent, result ≠ .accepted claims host agent := by
  unfold verifyClaims at failed
  intro claims host agent accepted
  subst accepted
  split at failed
  · cases failed
  · split at failed
    · cases failed
    · split at failed
      · cases failed
      · cases failed
      · split at failed
        · cases failed
        · split at failed
          · split at failed <;> cases failed
          · cases failed

theorem verifyRead_effect (s : Store) (now : Int) (call : Call) (sub : String) :
    Effect digest jose s now (.reading call sub) (verifyRead floatOfStr jose s call sub now) := by
  unfold verifyRead
  split
  · exact answer_reads digest jose s s now _ call _ rfl (by simp)
  · rename_i agent found
    cases verified : verifyClaims floatOfStr jose call agent now with
    | error result => exact answer_reads digest jose s s now _ call _ rfl (verifyClaims_refuses floatOfStr jose call agent now result verified)
    | ok established =>
      obtain ⟨claims,iss⟩ := established
      exact .reads _ _ rfl (verifyClaims_decoded floatOfStr jose call agent now claims iss verified) (by simp)

theorem jtiCheck_refuses (cache : JtiReplayCache) (call : Call) (agent : AgentSession) (claims : Claims) (cacheNow : Int)
    (result : Result) (failed : (jtiCheck cache call agent claims cacheNow).2 = some result) :
    ∀ claims host agent, result ≠ .accepted claims host agent := by
  unfold jtiCheck at failed
  intro claims host agent accepted
  subst accepted
  split at failed
  · split at failed
    · cases failed
    · split at failed <;> cases failed
  · cases failed

theorem verifyHost_effect (s : Store) (call : Call) (agent : AgentSession) (claims : Claims) (iss : String) (input : Input)
    (verified : Verified jose (.resolving call agent claims iss)) :
    Effect digest jose s input.now (.resolving call agent claims iss) (verifyHost s call agent claims input) := by
  simp only [verifyHost]
  split
  · exact answer_reads digest jose s s _ _ call _ rfl (by simp)
  · rename_i host found
    split
    · exact answer_reads digest jose s s _ _ call _ rfl (by simp)
    · split
      · exact answer_reads digest jose s s _ _ call _ rfl (by simp)
      · rename_i own
        split
        · rename_i result failed
          refine answer_reads digest jose s _ _ _ call _ rfl ?_
          exact jtiCheck_refuses s.cache call agent claims input.cacheNow result failed
        · split
          · exact answer_reads digest jose s _ _ _ call _ rfl (by simp)
          · exact .reads _ _ rfl ⟨verified,not_not.mp own⟩ (by simp)

theorem verifySlide_effect (s : Store) (now : Int) (call : Call) (agent : AgentSession) (claims : Claims) (host : HostIdentity)
    (verified : Verified jose (.sliding call agent claims host)) :
    Effect digest jose s now (.sliding call agent claims host) (verifySlide digest s call agent claims host now) := by
  unfold verifySlide
  split
  · exact .reads _ _ rfl verified (by simp)
  · exact answer_reads digest jose s s now _ call _ rfl (by simp)
  · exact answer_reads digest jose s s now _ call _ rfl (by simp)

-- The moment of an acceptance: one conditional write judges the row and the answer.
theorem verifyTouch_effect (s : Store) (call : Call) (agent : AgentSession) (claims : Claims) (host : HostIdentity) (input : Input)
    (verified : Verified jose (.touching call agent claims host)) :
    Effect digest jose s input.now (.touching call agent claims host) (verifyTouch digest s call agent claims host input) := by
  unfold verifyTouch
  rcases touch_cases digest s.agents input.now agent.agentId agent.publicKey input.lastUsedAt agent.hostId with
    same | ⟨current,tp,found,status,owner,key,stored,live,moved⟩
  · rw [same]
    exact answer_reads digest jose s _ _ _ call _ rfl (by simp)
  · rw [moved]
    have own : current.agentId = agent.agentId := s.agents.keyed agent.agentId current found
    refine .accepts call agent _ claims host _ ⟨current,agent.publicKey,tp,?_,status,live,?_,verified.1,key,stored⟩ rfl
    · simp only [own]
      exact found
    · rw [owner]
      exact verified.2.symm

theorem advance_effect (s : Store) (task : Task) (input : Input) (outcome : Outcome) (running : task.running = true)
    (verified : Verified jose task) (advanced : advance digest floatOfStr jose importKey s task input = some outcome) :
    Effect digest jose s input.now task outcome := by
  cases task with
  | start call =>
    cases advanced
    exact verifyStart_effect digest jose s input.now call
  | reading call sub =>
    cases advanced
    exact verifyRead_effect digest floatOfStr jose s input.now call sub
  | resolving call agent claims iss =>
    cases advanced
    exact verifyHost_effect digest jose s call agent claims iss input verified
  | sliding call agent claims host =>
    cases advanced
    exact verifySlide_effect digest jose s input.now call agent claims host verified
  | touching call agent claims host =>
    cases advanced
    exact verifyTouch_effect digest jose s call agent claims host input verified
  | answered | lifecycle | administered | settled => cases running

theorem advance_verified (s : Store) (task : Task) (input : Input) (outcome : Outcome) (verified : Verified jose task)
    (advanced : advance digest floatOfStr jose importKey s task input = some outcome) : Verified jose outcome.2.1 := by
  by_cases running : task.running = true
  · cases advance_effect digest floatOfStr jose importKey s task input outcome running verified advanced with
    | reads _ _ _ kept => exact kept
    | accepts _ _ _ _ _ _ _ result =>
      rw [result]
      trivial
  · cases task with
    | lifecycle task =>
      obtain ⟨_,_,rfl⟩ := Option.map_eq_some_iff.mp advanced
      trivial
    | administered call =>
      obtain ⟨_,_,rfl⟩ := Option.map_eq_some_iff.mp advanced
      trivial
    | answered | settled => cases advanced
    | start | reading | resolving | sliding | touching => exact absurd rfl running

def AllVerified (m : State) : Prop := ∀ id task, m.tasks.get id = some task → Verified jose task

theorem next_verified (m next : State) (move : Move Task Input)
    (taken : (program digest floatOfStr jose importKey).next m move = some next) (verified : AllVerified jose m) :
    AllVerified jose next := by
  intro other waiting found
  cases move with
  | arrive id task =>
    obtain ⟨arrives,_,rfl⟩ := Program.next_arrive _ m next id task taken
    simp only [Dict.get_set] at found
    split at found
    · cases found
      cases waiting <;> trivial
    · exact verified other waiting found
  | proceed id input =>
    obtain ⟨task,store,task',events,known,advanced,rfl⟩ := Program.next_proceed _ m next id input taken
    simp only [Dict.get_set] at found
    split at found
    · cases found
      exact advance_verified digest floatOfStr jose importKey m.store task input _ (verified id task known) advanced
    · exact verified other waiting found

theorem answered_stays (m final : State) (moves : List (Move Task Input))
    (run : Runs (program digest floatOfStr jose importKey).next (fun _ _ => True) m moves final) (id : Nat) (call : Call)
    (result : Result) (answered : m.tasks.get id = some (.answered call result)) :
    final.tasks.get id = some (.answered call result) := by
  refine run.invariant (fun m => m.tasks.get id = some (.answered call result)) ?_ answered
  intro m move next _ taken answered
  cases move with
  | arrive other task =>
    obtain ⟨_,free,rfl⟩ := Program.next_arrive _ m next other task taken
    exact (Dict.get_set_other _ _ (fun same => by simp [same,answered] at free)).trans answered
  | proceed other input =>
    obtain ⟨task,store,task',events,known,advanced,rfl⟩ := Program.next_proceed _ m next other input taken
    refine (Dict.get_set_other _ _ ?_).trans answered
    rintro rfl
    rw [answered] at known
    cases known
    cases advanced

def Task.foreign : Task → Bool
  | .lifecycle _ | .administered _ | .settled => true
  | _ => false

theorem foreign_stays (m final : State) (moves : List (Move Task Input))
    (run : Runs (program digest floatOfStr jose importKey).next (fun _ _ => True) m moves final) (id : Nat)
    (foreign : ∃ task, m.tasks.get id = some task ∧ task.foreign = true) :
    ∃ task, final.tasks.get id = some task ∧ task.foreign = true := by
  refine run.invariant (fun m => ∃ task, m.tasks.get id = some task ∧ task.foreign = true) ?_ foreign
  rintro m move next _ taken ⟨waiting,found,foreign⟩
  cases move with
  | arrive other task =>
    obtain ⟨_,free,rfl⟩ := Program.next_arrive _ m next other task taken
    exact ⟨waiting,(Dict.get_set_other _ _ (fun same => by simp [same,found] at free)).trans found,foreign⟩
  | proceed other input =>
    obtain ⟨task,store,task',events,known,advanced,rfl⟩ := Program.next_proceed _ m next other input taken
    by_cases own : other = id
    · subst own
      rw [found] at known
      cases known
      refine ⟨task',Dict.get_set_self _ _ _,?_⟩
      cases waiting with
      | lifecycle task =>
        obtain ⟨_,_,moved⟩ := Option.map_eq_some_iff.mp advanced
        cases moved
        rfl
      | administered call =>
        obtain ⟨_,_,moved⟩ := Option.map_eq_some_iff.mp advanced
        cases moved
        rfl
      | settled => cases advanced
      | start | reading | resolving | sliding | touching | answered => cases foreign
    · exact ⟨waiting,(Dict.get_set_other _ _ own).trans found,foreign⟩

-- A step that makes a verification accepted is its own, and finds the row current.
theorem accepting_step (m next : State) (move : Move Task Input) (id : Nat) (call : Call) (claims : Claims)
    (host : HostIdentity) (agent : AgentSession)
    (taken : (program digest floatOfStr jose importKey).next m move = some next) (verified : AllVerified jose m)
    (before : m.tasks.get id ≠ some (.answered call (.accepted claims host agent)))
    (after : next.tasks.get id = some (.answered call (.accepted claims host agent))) :
    ∃ input task, move = .proceed id input ∧ m.tasks.get id = some task ∧ task.running = true ∧
      Current digest jose m.store.agents input.now call claims host agent.agentId := by
  cases move with
  | arrive other task =>
    obtain ⟨arrives,_,rfl⟩ := Program.next_arrive _ m next other task taken
    simp only [Dict.get_set] at after
    split at after
    · cases after
      cases arrives
    · exact absurd after before
  | proceed other input =>
    obtain ⟨task,store,task',events,known,advanced,rfl⟩ := Program.next_proceed _ m next other input taken
    simp only [Dict.get_set] at after
    split at after
    · rename_i own
      subst own
      cases after
      by_cases running : task.running = true
      · cases advance_effect digest floatOfStr jose importKey m.store task input _ running (verified other task known) advanced with
        | reads _ _ _ _ different => exact absurd rfl (different call claims host agent)
        | accepts _ _ _ _ _ _ current result =>
          cases result
          exact ⟨input,_,rfl,known,rfl,current⟩
      · cases task with
        | lifecycle task => simp [program,advance,Option.map_eq_some_iff] at advanced
        | administered call => simp [program,advance,Option.map_eq_some_iff] at advanced
        | answered | settled => cases advanced
        | start | reading | resolving | sliding | touching => exact absurd rfl running
    · exact absurd after before

theorem accepted_moment (m final : State) (moves : List (Move Task Input)) (id : Nat) (call : Call) (claims : Claims)
    (host : HostIdentity) (agent : AgentSession)
    (run : Runs (program digest floatOfStr jose importKey).next (fun _ _ => True) m moves final) (verified : AllVerified jose m)
    (before : m.tasks.get id ≠ some (.answered call (.accepted claims host agent)))
    (after : final.tasks.get id = some (.answered call (.accepted claims host agent))) :
    ∃ earlier input later moment task, moves = earlier ++ .proceed id input :: later ∧
      Runs (program digest floatOfStr jose importKey).next (fun _ _ => True) m earlier moment ∧
      moment.tasks.get id = some task ∧ task.running = true ∧
      Current digest jose moment.store.agents input.now call claims host agent.agentId := by
  induction run with
  | nil => exact absurd after before
  | cons m middle final move rest _ taken _ ih =>
    by_cases now : middle.tasks.get id = some (.answered call (.accepted claims host agent))
    · obtain ⟨input,task,rfl,known,running,current⟩ :=
        accepting_step digest floatOfStr jose importKey m middle move id call claims host agent taken verified before now
      exact ⟨[],input,rest,m,task,rfl,.nil m,known,running,current⟩
    · have kept := next_verified digest floatOfStr jose importKey m middle move taken verified
      obtain ⟨earlier,input,later,moment,task,rfl,reached,known,running,current⟩ := ih kept now after
      exact ⟨move :: earlier,input,later,moment,task,rfl,.cons m middle moment move earlier trivial taken reached,known,running,
        current⟩

-- A verification that is accepted was so at a moment of the call at which the stored row
-- was live, the returned host's and under the key that verified; one that ends otherwise
-- has left the agents alone at each of its steps.
theorem verification_agrees_with_lifecycle (s : Store) (moves : List (Move Task Input)) (final : State) (id : Nat)
    (run : Runs (program digest floatOfStr jose importKey).next (fun _ _ => True) (Machine.init s) moves final) :
    (∀ call claims host agent, final.tasks.get id = some (.answered call (.accepted claims host agent)) →
      ∃ earlier input later moment task, moves = earlier ++ .proceed id input :: later ∧
        Runs (program digest floatOfStr jose importKey).next (fun _ _ => True) (Machine.init s) earlier moment ∧
        moment.tasks.get id = some task ∧ task.running = true ∧
        Current digest jose moment.store.agents input.now call claims host agent.agentId) ∧
    (∀ call result, final.tasks.get id = some (.answered call result) →
      (∀ claims host agent, result ≠ .accepted claims host agent) →
      ∀ earlier input later before after, moves = earlier ++ .proceed id input :: later →
        Runs (program digest floatOfStr jose importKey).next (fun _ _ => True) (Machine.init s) earlier before →
        (program digest floatOfStr jose importKey).next before (.proceed id input) = some after →
        Runs (program digest floatOfStr jose importKey).next (fun _ _ => True) after later final →
        after.store.agents = before.store.agents) := by
  have start : AllVerified jose (Machine.init s : State) := fun id task found => by cases found
  refine ⟨?_,?_⟩
  · intro call claims host agent accepted
    exact accepted_moment digest floatOfStr jose importKey _ final moves id call claims host agent run start
      (fun found => by cases found) accepted
  · intro call result failed refused earlier input later before after _ reached taken remaining
    have verified : AllVerified jose before :=
      reached.invariant (AllVerified jose) (fun m move next _ => next_verified digest floatOfStr jose importKey m next move) start
    obtain ⟨task,store,task',events,known,advanced,rfl⟩ := Program.next_proceed _ before after id input taken
    by_cases running : task.running = true
    · cases advance_effect digest floatOfStr jose importKey before.store task input _ running (verified id task known) advanced with
      | reads _ _ same => exact same
      | accepts call' agent touched claims host _ _ accepted =>
        have last := answered_stays digest floatOfStr jose importKey _ final later remaining id call' (.accepted claims host touched)
          (by rw [Dict.get_set_self]; exact congrArg some accepted)
        rw [failed] at last
        cases last
        exact absurd rfl (refused claims host touched)
    · have foreign : task.foreign = true := by
        cases task with
        | lifecycle | administered | settled => rfl
        | answered => cases advanced
        | start | reading | resolving | sliding | touching => exact absurd rfl running
      obtain ⟨last,found,stays⟩ := foreign_stays digest floatOfStr jose importKey before final (.proceed id input :: later)
        (.cons before _ final _ later trivial taken remaining) id ⟨task,known,foreign⟩
      rw [failed] at found
      cases found
      cases stays

end Verification

-- A token that the first key has signed for the agent, made at 1700000000 for 60 seconds.
def agentToken : String :=
  "eyJhbGciOiJFZERTQSIsInR5cCI6ImFnZW50K2p3dCJ9." ++
    "eyJpc3MiOiJGdEl1LVZiR3JmZV9LQjZDSDdHTndPREI3Mk1OeGpfbWwxMWRFdk8tN2trIiwic3ViIjoiYTEiLCJhdWQiOiJ1cm46YXNhcDphZ2VudDpz" ++
    "ZXJ2ZXIiLCJpYXQiOjE3MDAwMDAwMDAsImV4cCI6MTcwMDAwMDA2MCwianRpIjoiand0XzAxSEY3WUFUMDAwMDAwMDAwMDAwMDAwMDBCIn0" ++
    ".rGajx3usxvvvh1LQiNjAhI9n-XwaPCVGJVGJasubSC7PHiFIQd7iF5Wjx30HdfxzgJGoltGsqbsC557q0OjFAQ"

def agentTokenClaims : List (String × Value) :=
  [("iss",.str "FtIu-VbGrfe_KB6CH7GNwODB72MNxj_ml11dEvO-7kk"),("sub",.str "a1"),("aud",.str "urn:asap:agent:server"),
    ("iat",.int 1700000000),("exp",.int 1700000060),("jti",.str "jwt_01HF7YAT00000000000000000B")]

-- What joserfc makes of that token: only the key that signed it verifies it.
def agentTokenJose : Jose where
  extractCompact token :=
    if token = agentToken then
      .ok (⟨[("alg",.str "EdDSA"),("typ",.str "agent+jwt")],by simp⟩,.dict (agentTokenClaims.map (fun claim => (.str claim.1,claim.2))))
    else .error "Invalid JWS"
  importKey _ := .ok ()
  decode token key :=
    if token = agentToken ∧ (key.get "x").bind text = (firstKey.get "x").bind text then .ok ⟨agentTokenClaims,by decide⟩
    else .error "bad_signature: "

-- The same without a look at the token, for runs that present no other one.
def agentTokenRead : Jose where
  extractCompact _ := .ok (⟨[("alg",.str "EdDSA"),("typ",.str "agent+jwt")],by simp⟩,.dict (agentTokenClaims.map (fun claim => (.str claim.1,claim.2))))
  importKey _ := .ok ()
  decode _ key := if (key.get "x").bind text = (firstKey.get "x").bind text then .ok ⟨agentTokenClaims,by decide⟩ else .error "bad_signature: "

theorem agentToken_agree : Agree agentTokenJose agentTokenRead agentToken where
  compact := by simp only [agentTokenJose,agentTokenRead,if_true]
  imported _ := rfl
  decoded _ := by simp only [agentTokenJose,agentTokenRead,true_and]

def presentedCall : Call := ⟨agentToken,some (.one "urn:asap:agent:server"),true⟩
def ownHost : HostIdentity := {hostId := "h1", publicKey := secondKey, status := .active}
def reading : Input := ⟨1700000010000000,1700000010000000,1700000010000000,some ownHost⟩

-- What others do between the second and the third step of the verification.
def overlappedMoves (between : List (Move Task Input)) : List (Move Task Input) :=
  ([.arrive 0 (.start presentedCall),.proceed 0 reading,.proceed 0 reading] : List (Move Task Input)) ++ between ++
    ([.proceed 0 reading,.proceed 0 reading,.proceed 0 reading] : List (Move Task Input))

def agentOf : Task → Option String
  | .answered _ (.accepted _ _ agent) => some agent.agentId
  | _ => none

theorem overlapped_accepted : (execute (program keyDigest (fun _ => none) agentTokenJose (fun _ => true)).next anyMove
    (Machine.init ⟨liveStore,init⟩) (overlappedMoves [.arrive 1 (.administered (.revoke "a2")),.proceed 1 reading])).map
      (fun final => (final.tasks.get 0).bind agentOf) = some (some "a1") := by
  rw [program_agree keyDigest (fun _ => none) agentTokenJose (fun _ => true) agentToken_agree]
  · decide +kernel
  · intro id task member call has
    simp only [overlappedMoves,List.cons_append,List.nil_append,List.mem_cons,Move.arrive.injEq,reduceCtorEq,List.not_mem_nil,
      or_false,false_or] at member
    rcases member with ⟨rfl,rfl⟩ | ⟨rfl,rfl⟩
    · cases has
      rfl
    · cases has
  · intro id task found
    cases found

theorem verification_agrees_revoking_another :
    ∃ (final : State) (earlier : List (Move Task Input)) (moment : State),
      Runs (program keyDigest (fun _ => none) agentTokenJose (fun _ => true)).next (fun _ _ => True)
        (Machine.init ⟨liveStore,init⟩) earlier moment ∧
      ∃ call claims host agent input, final.tasks.get 0 = some (.answered call (.accepted claims host agent)) ∧
        Current keyDigest agentTokenJose moment.store.agents input call claims host agent.agentId := by
  obtain ⟨final,ran,shown⟩ := Option.map_eq_some_iff.mp overlapped_accepted
  obtain ⟨task,found,agent⟩ := Option.bind_eq_some_iff.mp shown
  have agrees := verification_agrees_with_lifecycle keyDigest (fun _ => none) agentTokenJose (fun _ => true) _ _ final 0
    (execute_free ran)
  unfold agentOf at agent
  split at agent
  · rename_i call claims host session
    obtain ⟨earlier,input,_,moment,_,_,reached,_,_,current⟩ := agrees.1 call claims host session found
    exact ⟨final,earlier,moment,reached,call,claims,host,session,input.now,found,current⟩
  · cases agent

end Asap.AgentJwt
