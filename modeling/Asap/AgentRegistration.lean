import Asap.AgentLifecycle

namespace Asap.AgentRegistration
open OrderedDict PythonValue AgentIdentity Interleaving

variable (digest : String → String) (importKey : PublicKey → Bool)

inductive Reply where
  | registered (agentId : String) (status : AgentSessionStatus)
  | failed (code : Nat) (detail : String)
  deriving DecidableEq

-- A register handler between two operations on the agent store, or a rotation at
-- one of its own stages. While it is `parsing` the request body is being read.
inductive Task where
  | registering (hostId : String) (key : PublicKey)
  | parsing (hostId : String) (key : PublicKey) (createdAt : Int)
  | activating (session : AgentSession) (activatedAt : Int)
  | rotating (task : AgentLifecycle.Task)
  | answered (reply : Reply)

-- What the handler makes of the body: an error, a pending registration, or grants at once.
inductive Body where
  | refused (code : Nat) (detail : String)
  | needsApproval
  | granted
  | raised

-- The clock, the id that `generate_id` returns, the body.
structure Input where
  now : Int
  agentId : String
  body : Body

def findExisting (agentTp : String) : List AgentSession → Except Unit (Option AgentSession)
  | [] => .ok none
  | sess :: rest =>
    match jwkThumbprintSha256 digest sess.publicKey with
    | none => .error ()
    | some tp => if tp = agentTp then .ok (some sess) else findExisting agentTp rest

def registerScan (s : AgentStore) (hostId : String) (key : PublicKey) (now : Int) : Task :=
  if !importKey key then .answered (.failed 400 "invalid agent_public_key JWK")
  else match jwkThumbprintSha256 digest key with
    | none => .answered (.failed 500 "Internal Server Error")
    | some agentTp =>
      match findExisting digest agentTp (s.listByHost hostId) with
      | .error _ => .answered (.failed 500 "Internal Server Error")
      | .ok (some existing) => .answered (.registered existing.agentId existing.status)
      | .ok none => .parsing hostId key now

def newSession (agentId hostId : String) (key : PublicKey) (createdAt : Int) : AgentSession where
  agentId := agentId
  hostId := hostId
  publicKey := key
  mode := .delegated
  status := .pending
  createdAt := createdAt

-- `generate_id` gives an id no stored session has.
def registerSave (s : AgentStore) (hostId : String) (key : PublicKey) (createdAt : Int) (input : Input) : Option (AgentStore × Task) :=
  if s.get input.agentId ≠ none then none
  else
    let session := newSession input.agentId hostId key createdAt
    match input.body with
    | .refused code detail => some (s,.answered (.failed code detail))
    | body =>
      match s.save digest session none with
      | .error _ => some (s,.answered (.failed 500 "Internal Server Error"))
      | .ok next =>
        match body with
        | .granted => some (next,.activating session createdAt)
        | .needsApproval => some (next,.answered (.registered input.agentId .pending))
        | _ => some (next,.answered (.failed 500 "Internal Server Error"))

-- The second save has no expected key.
def registerActivate (s : AgentStore) (session : AgentSession) (activatedAt : Int) : AgentStore × Task :=
  match s.save digest {session with status := .active,activatedAt := some activatedAt} none with
  | .ok next => (next,.answered (.registered session.agentId .active))
  | .error _ => (s,.answered (.failed 500 "Internal Server Error"))

def advance (s : AgentStore) (task : Task) (input : Input) : Option (AgentStore × Task × List Unit) :=
  match task with
  | .registering hostId key => some (s,registerScan digest importKey s hostId key input.now,[])
  | .parsing hostId key createdAt => (registerSave digest s hostId key createdAt input).map (fun (next,task') => (next,task',[]))
  | .activating session activatedAt =>
    let (next,task') := registerActivate digest s session activatedAt
    some (next,task',[])
  | .rotating stage =>
    (AgentLifecycle.advance digest importKey s stage input.now).map (fun (next,stage',_) => (next,.rotating stage',[]))
  | .answered _ => none

def Task.arrives : Task → Bool
  | .registering _ _ | .rotating (.start (.rotateKey _ _ _)) => true
  | _ => false

def program : Program AgentStore Task Input Unit where
  arrives := Task.arrives
  advance := advance digest importKey

-- The key a handler has found unused under the host and is going to store, with the
-- session that may carry it already.
structure Claim where
  hostId : String
  key : PublicKey
  owner : Option String

def Task.claim : Task → Option Claim
  | .parsing hostId key _ => some ⟨hostId,key,none⟩
  | .activating session _ => some ⟨session.hostId,session.publicKey,some session.agentId⟩
  | .rotating (.rereading (.rotateKey agentId hostId key) _) => some ⟨hostId,key,some agentId⟩
  | .rotating (.writing (.rotateKey agentId hostId key) _ _ _) => some ⟨hostId,key,some agentId⟩
  | _ => none

def Body.saves : Body → Bool
  | .refused _ _ => false
  | _ => true

def Task.writes (input : Input) : Task → Bool
  | .parsing _ _ _ => input.body.saves
  | .activating _ _ | .rotating (.writing _ _ _ _) => true
  | _ => false

-- Two handlers at work on one session may store the same key.
def conflicts (mine held : Claim) : Bool :=
  decide (mine.hostId = held.hostId) &&
    decide (jwkThumbprintSha256 digest mine.key = jwkThumbprintSha256 digest held.key) &&
    !(mine.owner.isSome && decide (mine.owner = held.owner))

abbrev State := Machine AgentStore Task Unit

-- Nobody stores a key under a host while another handler, past its scan, is going to
-- store the same key there.
def exclusive (m : State) : Move Task Input → Bool
  | .arrive _ _ => true
  | .proceed id input =>
    match (m.tasks.get id).filter (Task.writes input) with
    | none => true
    | some task =>
      match task.claim with
      | none => true
      | some mine => m.tasks.entries.all (fun (other,waiting) =>
          decide (other = id) || match waiting.claim with
            | none => true
            | some held => !conflicts digest mine held)

def Unique (s : AgentStore) : Prop :=
  ∀ id id' row row' tp, s.get id = some row → s.get id' = some row' → row.hostId = row'.hostId →
    jwkThumbprintSha256 digest row.publicKey = some tp → jwkThumbprintSha256 digest row'.publicKey = some tp → id = id'

def Free (s : AgentStore) (claim : Claim) : Prop :=
  ∀ id row tp, s.get id = some row → row.hostId = claim.hostId → jwkThumbprintSha256 digest row.publicKey = some tp →
    jwkThumbprintSha256 digest claim.key = some tp → claim.owner = some id

def hostOf (s : AgentStore) (agentId : String) : Option String := (s.get agentId).map AgentSession.hostId

def Placed (s : AgentStore) : Task → Prop
  | .activating session _ => hostOf s session.agentId = some session.hostId
  | .rotating (.start (.rotateKey _ _ _)) => True
  | .rotating (.scanning agentId hostId _ session) => hostOf s agentId = some hostId ∧ session.agentId = agentId
  | .rotating (.rereading (.rotateKey agentId hostId _) _) => hostOf s agentId = some hostId
  | .rotating (.writing (.rotateKey agentId hostId key) _ row _) =>
    hostOf s agentId = some hostId ∧ row.agentId = agentId ∧ row.hostId = hostId ∧ row.publicKey = key
  | .rotating (.answered _) => True
  | .rotating _ => False
  | _ => True

def Clear (s : AgentStore) (task : Task) : Prop := Placed s task ∧ ∀ claim, task.claim = some claim → Free digest s claim

-- All that one operation can do to the store: nothing, or one write of the claimed key
-- on the claimed host.
inductive Change (s : AgentStore) (task : Task) (input : Input) : AgentStore → Prop where
  | kept : Change s task input s
  | put (row : AgentSession) (claim : Claim) (claimed : task.claim = some claim) (writing : task.writes input = true)
      (host : row.hostId = claim.hostId)
      (key : jwkThumbprintSha256 digest row.publicKey = jwkThumbprintSha256 digest claim.key)
      (owner : ∀ id, claim.owner = some id → id = row.agentId)
      (place : ∀ old, s.get row.agentId = some old → old.hostId = row.hostId) : Change s task input (s.put row)

theorem unique_put (s : AgentStore) (row : AgentSession) (claim : Claim) (host : row.hostId = claim.hostId)
    (key : jwkThumbprintSha256 digest row.publicKey = jwkThumbprintSha256 digest claim.key)
    (owner : ∀ id, claim.owner = some id → id = row.agentId) (free : Free digest s claim) (unique : Unique digest s) :
    Unique digest (s.put row) := by
  -- a stored row with the claimed key belongs to the session that is written
  have met (id : String) (other : AgentSession) (tp : String) (found : s.get id = some other)
      (same : other.hostId = row.hostId) (stored : jwkThumbprintSha256 digest other.publicKey = some tp)
      (written : jwkThumbprintSha256 digest row.publicKey = some tp) : id = row.agentId :=
    owner id (free id other tp found (same.trans host) stored (key ▸ written))
  intro id id' first second tp found found' same stored stored'
  rw [AgentStore.get_put] at found found'
  split at found
  · rename_i here
    cases found
    split at found'
    · rename_i there
      exact here.symm.trans there
    · exact here.symm.trans (met id' second tp found' same.symm stored' stored).symm
  · split at found'
    · rename_i there
      cases found'
      exact (met id first tp found same stored stored').trans there
    · exact unique id id' first second tp found found' same stored stored'

theorem free_put (s : AgentStore) (row : AgentSession) (mine held : Claim) (host : row.hostId = mine.hostId)
    (key : jwkThumbprintSha256 digest row.publicKey = jwkThumbprintSha256 digest mine.key)
    (owner : ∀ id, mine.owner = some id → id = row.agentId)
    (apart : conflicts digest mine held = false) (free : Free digest s held) : Free digest (s.put row) held := by
  intro id other tp found same stored claimed
  rw [AgentStore.get_put] at found
  split at found
  · rename_i here
    cases found
    -- the other handler claims this very key, so both are at work on one session
    simp only [conflicts,← host,same,← key,stored,claimed,decide_true,Bool.true_and,Bool.not_eq_false',
      Bool.and_eq_true,Option.isSome_iff_exists,decide_eq_true_eq] at apart
    obtain ⟨⟨mineId,mineOwner⟩,shared⟩ := apart
    rw [← shared,mineOwner,owner mineId mineOwner,here]
  · exact free id other tp found same stored claimed

theorem hostOf_put (s : AgentStore) (row : AgentSession) (id hostId : String)
    (place : ∀ old, s.get row.agentId = some old → old.hostId = row.hostId) (known : hostOf s id = some hostId) :
    hostOf (s.put row) id = some hostId := by
  unfold hostOf at known ⊢
  obtain ⟨old,found,rfl⟩ := Option.map_eq_some_iff.mp known
  rw [AgentStore.get_put]
  split
  · rename_i here
    rw [Option.map_some,place old (here ▸ found)]
  · rw [found,Option.map_some]

theorem placed_put (s : AgentStore) (row : AgentSession) (task : Task)
    (place : ∀ old, s.get row.agentId = some old → old.hostId = row.hostId) (placed : Placed s task) :
    Placed (s.put row) task := by
  cases task with
  | registering | parsing | answered => trivial
  | activating session => exact hostOf_put s row _ _ place placed
  | rotating stage =>
    cases stage with
    | start request =>
      cases request with
      | rotateKey => trivial
      | status | reactivate | slide => exact placed
    | scanning => exact ⟨hostOf_put s row _ _ place placed.1,placed.2⟩
    | rereading request =>
      cases request with
      | rotateKey => exact hostOf_put s row _ _ place placed
      | status | reactivate | slide => exact placed
    | writing request =>
      cases request with
      | rotateKey => exact ⟨hostOf_put s row _ _ place placed.1,placed.2⟩
      | status | reactivate | slide => exact placed
    | refreshing | touching => exact placed
    | answered => trivial

theorem mem_listByHost (s : AgentStore) (hostId id : String) (row : AgentSession) (found : s.get id = some row)
    (host : row.hostId = hostId) : row ∈ s.listByHost hostId := by
  unfold AgentStore.listByHost
  rw [List.mem_insertionSort,List.mem_filter]
  exact ⟨List.mem_map.mpr ⟨(id,row),(Dict.mem_iff s.agents).mpr found,rfl⟩,by simp [host]⟩

theorem findExisting_none (agentTp : String) (sessions : List AgentSession)
    (scanned : findExisting digest agentTp sessions = .ok none) :
    ∀ sess ∈ sessions, jwkThumbprintSha256 digest sess.publicKey ≠ some agentTp := by
  induction sessions with
  | nil => intro sess member; cases member
  | cons head rest ih =>
    unfold findExisting at scanned
    split at scanned
    · cases scanned
    · rename_i tp known
      split at scanned
      · cases scanned
      · rename_i other
        intro sess member
        rcases List.mem_cons.mp member with rfl | later
        · rw [known]
          exact fun same => other (Option.some.inj same)
        · exact ih scanned sess later

theorem usedElsewhere_false (agentId newTp : String) (sessions : List AgentSession)
    (scanned : AgentLifecycle.usedElsewhere digest agentId newTp sessions = some false) :
    ∀ sess ∈ sessions, sess.agentId ≠ agentId → jwkThumbprintSha256 digest sess.publicKey ≠ some newTp := by
  induction sessions with
  | nil => intro sess member; cases member
  | cons head rest ih =>
    unfold AgentLifecycle.usedElsewhere at scanned
    split at scanned
    · rename_i own
      intro sess member other
      rcases List.mem_cons.mp member with rfl | later
      · exact absurd own other
      · exact ih scanned sess later other
    · split at scanned
      · cases scanned
      · rename_i tp known
        split at scanned
        · cases scanned
        · rename_i differs
          intro sess member other
          rcases List.mem_cons.mp member with rfl | later
          · rw [known]
            exact fun same => differs (Option.some.inj same)
          · exact ih scanned sess later other

theorem clear_answered (s : AgentStore) (reply : Reply) : Clear digest s (.answered reply) :=
  ⟨trivial,fun _ claimed => by cases claimed⟩

theorem registerScan_clear (s : AgentStore) (hostId : String) (key : PublicKey) (now : Int) :
    Clear digest s (registerScan digest importKey s hostId key now) := by
  unfold registerScan
  split
  · exact clear_answered digest s _
  · split
    · exact clear_answered digest s _
    · rename_i agentTp thumbprint
      split
      · exact clear_answered digest s _
      · exact clear_answered digest s _
      · rename_i scanned
        refine ⟨trivial,?_⟩
        intro claim claimed
        cases claimed
        intro id row tp found host stored claimed
        rw [thumbprint] at claimed
        cases claimed
        exact absurd stored (findExisting_none digest agentTp _ scanned row (mem_listByHost s hostId id row found host))

theorem save_new (s : AgentStore) (session : AgentSession) (absent : s.get session.agentId = none) :
    s.save digest session none = .ok (s.put session) := by
  unfold AgentStore.save
  rw [absent]

theorem activating_clear (s : AgentStore) (agentId hostId : String) (key : PublicKey) (createdAt : Int)
    (free : Free digest s ⟨hostId,key,none⟩) :
    Clear digest (s.put (newSession agentId hostId key createdAt)) (.activating (newSession agentId hostId key createdAt) createdAt) := by
  refine ⟨?_,?_⟩
  · simp [Placed,hostOf,AgentStore.get_put]
  · intro claim claimed
    cases claimed
    intro id row tp found host stored known
    rw [AgentStore.get_put] at found
    split at found
    · rename_i here
      rw [← here]
    · cases free id row tp found host stored known

theorem registerSave_sound (s next : AgentStore) (hostId : String) (key : PublicKey) (createdAt : Int) (input : Input)
    (task' : Task) (clear : Clear digest s (.parsing hostId key createdAt))
    (stepped : registerSave digest s hostId key createdAt input = some (next,task')) :
    Change digest s (.parsing hostId key createdAt) input next ∧ Clear digest next task' := by
  unfold registerSave at stepped
  split at stepped
  · cases stepped
  · rename_i unused
    have absent : s.get (newSession input.agentId hostId key createdAt).agentId = none := not_not.mp unused
    have written (saves : input.body.saves = true) :
        Change digest s (.parsing hostId key createdAt) input (s.put (newSession input.agentId hostId key createdAt)) := by
      refine .put _ ⟨hostId,key,none⟩ rfl saves rfl rfl (fun id owned => by cases owned) ?_
      intro old found
      rw [absent] at found; cases found
    simp only [save_new digest s _ absent] at stepped
    cases parsed : input.body with
    | refused =>
      simp only [parsed] at stepped
      cases stepped
      exact ⟨.kept,clear_answered digest s _⟩
    | granted =>
      simp only [parsed] at stepped
      cases stepped
      exact ⟨written (by rw [parsed]; rfl),activating_clear digest s input.agentId hostId key createdAt (clear.2 _ rfl)⟩
    | needsApproval | raised =>
      simp only [parsed] at stepped
      cases stepped
      exact ⟨written (by rw [parsed]; rfl),clear_answered digest _ _⟩

theorem registerActivate_sound (s : AgentStore) (session : AgentSession) (activatedAt : Int) (input : Input)
    (clear : Clear digest s (.activating session activatedAt)) :
    Change digest s (.activating session activatedAt) input (registerActivate digest s session activatedAt).1 ∧
      Clear digest (registerActivate digest s session activatedAt).1 (registerActivate digest s session activatedAt).2 := by
  unfold registerActivate
  split
  · rename_i next saved
    refine ⟨?_,clear_answered digest next _⟩
    have placed : hostOf s session.agentId = some session.hostId := clear.1
    obtain ⟨old,found,host⟩ := Option.map_eq_some_iff.mp placed
    obtain ⟨row,rfl,stored⟩ := save_stored digest s next _ none saved
    cases stored with
    | fresh absent => rw [absent] at found; cases found
    | unchecked existing known =>
      refine .put _ ⟨session.hostId,session.publicKey,some session.agentId⟩ rfl rfl rfl rfl
        (fun id owned => by cases owned; rfl) ?_
      intro other stored
      cases Option.some.inj (found.symm.trans stored)
      exact host
    | matched _ _ _ _ _ given => cases given
    | rotated _ _ _ _ _ _ given => cases given
  · exact ⟨.kept,clear_answered digest s _⟩

theorem clear_rotated (s : AgentStore) (response : AgentLifecycle.Response) :
    Clear digest s (.rotating (.answered response)) := ⟨trivial,fun _ claimed => by cases claimed⟩

theorem rotateStart_reads (s : AgentStore) (agentId hostId : String) (key : PublicKey) :
    (AgentLifecycle.rotateStart digest importKey s agentId hostId key).1 = s := by
  unfold AgentLifecycle.rotateStart
  repeat' split
  all_goals rfl

theorem rotateStart_clear (s : AgentStore) (agentId hostId : String) (key : PublicKey) :
    Clear digest s (.rotating (AgentLifecycle.rotateStart digest importKey s agentId hostId key).2.1) := by
  unfold AgentLifecycle.rotateStart
  split
  · exact clear_rotated digest s _
  · rename_i session found
    split
    · exact clear_rotated digest s _
    · rename_i host
      split
      · exact clear_rotated digest s _
      · split
        · exact clear_rotated digest s _
        · split
          · split
            · exact clear_rotated digest s _
            · refine ⟨⟨?_,s.keyed agentId session found⟩,fun _ claimed => by cases claimed⟩
              simp only [hostOf,found,Option.map_some,not_not.mp host]
          · exact clear_rotated digest s _

theorem rotateScan_clear (s : AgentStore) (agentId hostId : String) (key : PublicKey) (session : AgentSession)
    (clear : Clear digest s (.rotating (.scanning agentId hostId key session))) :
    Clear digest s (.rotating (AgentLifecycle.rotateScan digest s agentId hostId key session).2.1) := by
  obtain ⟨⟨placed,own⟩,_⟩ := clear
  unfold AgentLifecycle.rotateScan
  split
  · exact clear_rotated digest s _
  · exact clear_rotated digest s _
  · rename_i scanned
    refine ⟨placed,?_⟩
    intro claim claimed
    cases claimed
    intro id row tp found host stored known
    rw [known,Option.bind_some,own] at scanned
    by_contra other
    refine usedElsewhere_false digest agentId tp _ scanned row (mem_listByHost s hostId id row found host) ?_ stored
    intro same
    apply other
    rw [← same,s.keyed id row found]

theorem rotateReread_clear (s : AgentStore) (agentId hostId : String) (key : PublicKey) (session : AgentSession)
    (clear : Clear digest s (.rotating (.rereading (.rotateKey agentId hostId key) session))) :
    Clear digest s (.rotating (AgentLifecycle.rotateReread s agentId hostId key session).2.1) := by
  obtain ⟨placed,free⟩ := clear
  unfold AgentLifecycle.rotateReread
  split
  · exact clear_rotated digest s _
  · rename_i fresh found
    split
    · exact clear_rotated digest s _
    · have host : fresh.hostId = hostId := by simpa [Placed,hostOf,found] using placed
      refine ⟨⟨placed,s.keyed agentId fresh found,host,rfl⟩,?_⟩
      intro claim claimed
      cases claimed
      exact free _ rfl

theorem rotateWrite_sound (s : AgentStore) (agentId hostId : String) (key expected : PublicKey) (session row : AgentSession)
    (input : Input) (clear : Clear digest s (.rotating (.writing (.rotateKey agentId hostId key) session row expected))) :
    Change digest s (.rotating (.writing (.rotateKey agentId hostId key) session row expected)) input
        (AgentLifecycle.rotateWrite digest s agentId key row expected).1 ∧
      Clear digest (AgentLifecycle.rotateWrite digest s agentId key row expected).1
        (.rotating (AgentLifecycle.rotateWrite digest s agentId key row expected).2.1) := by
  obtain ⟨⟨placed,own,host,carries⟩,_⟩ := clear
  obtain ⟨old,known,oldHost⟩ := Option.map_eq_some_iff.mp placed
  unfold AgentLifecycle.rotateWrite
  split
  · rename_i next saved
    refine ⟨?_,clear_rotated digest next _⟩
    obtain ⟨written,rfl,stored⟩ := save_stored digest s next row (some expected) saved
    cases stored with
    | fresh absent => rw [own,known] at absent; cases absent
    | unchecked _ _ _ given => cases given
    | matched existing _ _ found =>
      refine .put row ⟨hostId,key,some agentId⟩ rfl rfl host (by rw [carries]) (fun id owned => by cases owned; exact own.symm) ?_
      intro other stored
      rw [own,known] at stored; cases stored
      exact oldHost.trans host.symm
    | rotated existing _ _ _ found =>
      rw [own,known] at found; cases found
      have same : old.agentId = agentId := s.keyed agentId old known
      refine .put _ ⟨hostId,key,some agentId⟩ rfl rfl oldHost (by rw [carries]) (fun id owned => by cases owned; exact same.symm) ?_
      intro other stored
      simp only [same] at stored
      cases Option.some.inj (known.symm.trans stored)
      rfl
  · exact ⟨.kept,clear_rotated digest s _⟩
  · exact ⟨.kept,clear_rotated digest s _⟩

-- A stage of a rotation that only reads.
theorem reading_sound (s : AgentStore) (task : Task) (input : Input) (outcome : AgentLifecycle.Outcome)
    (reads : outcome.1 = s) (clear : Clear digest s (.rotating outcome.2.1)) :
    Change digest s task input outcome.1 ∧ Clear digest outcome.1 (.rotating outcome.2.1) := by
  rw [reads]
  exact ⟨.kept,clear⟩

theorem advance_sound (s next : AgentStore) (task task' : Task) (input : Input) (events : List Unit)
    (clear : Clear digest s task) (stepped : advance digest importKey s task input = some (next,task',events)) :
    Change digest s task input next ∧ Clear digest next task' := by
  cases task with
  | registering hostId key =>
    cases stepped
    exact ⟨.kept,registerScan_clear digest importKey s hostId key input.now⟩
  | parsing hostId key createdAt =>
    obtain ⟨⟨after,handed⟩,saved,same⟩ := Option.map_eq_some_iff.mp stepped
    cases same
    exact registerSave_sound digest s next hostId key createdAt input task' clear saved
  | activating session activatedAt =>
    cases stepped
    exact registerActivate_sound digest s session activatedAt input clear
  | answered => cases stepped
  | rotating stage =>
    obtain ⟨⟨after,stage',reports⟩,moved,same⟩ := Option.map_eq_some_iff.mp stepped
    cases same
    cases stage with
    | start request =>
      cases request with
      | rotateKey agentId hostId key =>
        have started := reading_sound digest s (.rotating (.start (.rotateKey agentId hostId key))) input _
          (rotateStart_reads digest importKey s agentId hostId key) (rotateStart_clear digest importKey s agentId hostId key)
        rw [Option.some.inj moved] at started
        exact started
      | status | reactivate | slide => exact absurd clear.1 (fun impossible => impossible)
    | scanning agentId hostId key session =>
      have scanned := reading_sound digest s (.rotating (.scanning agentId hostId key session)) input _
        (AgentLifecycle.rotateScan_reads digest s agentId hostId key session).1
        (rotateScan_clear digest s agentId hostId key session clear)
      rw [Option.some.inj moved] at scanned
      exact scanned
    | rereading request session =>
      cases request with
      | rotateKey agentId hostId key =>
        have ready := reading_sound digest s (.rotating (.rereading (.rotateKey agentId hostId key) session)) input _
          (AgentLifecycle.rotateReread_reads s agentId hostId key session).1
          (rotateReread_clear digest s agentId hostId key session clear)
        rw [Option.some.inj moved] at ready
        exact ready
      | status | reactivate | slide => exact absurd clear.1 (fun impossible => impossible)
    | writing request session row expected =>
      cases request with
      | rotateKey agentId hostId key =>
        have written := rotateWrite_sound digest s agentId hostId key expected session row input clear
        rw [Option.some.inj moved] at written
        exact written
      | status | reactivate | slide => exact absurd clear.1 (fun impossible => impossible)
    | refreshing | touching => exact absurd clear.1 (fun impossible => impossible)
    | answered => cases moved

theorem start_clear (s : AgentStore) (task : Task) (arrives : task.arrives = true) : Clear digest s task := by
  cases task with
  | registering => exact ⟨trivial,fun _ claimed => by cases claimed⟩
  | parsing | activating | answered => cases arrives
  | rotating stage =>
    cases stage with
    | start request =>
      cases request with
      | rotateKey => exact ⟨trivial,fun _ claimed => by cases claimed⟩
      | status | reactivate | slide => cases arrives
    | scanning | rereading | writing | refreshing | touching | answered => cases arrives

theorem exclusive_apart (m : State) (id other : Nat) (input : Input) (task waiting : Task) (mine held : Claim)
    (alone : exclusive digest m (.proceed id input) = true) (known : m.tasks.get id = some task) (writing : task.writes input = true)
    (claimed : task.claim = some mine) (different : other ≠ id) (standing : m.tasks.get other = some waiting)
    (holds : waiting.claim = some held) : conflicts digest mine held = false := by
  simp only [exclusive,known,Option.filter,writing,if_true,claimed,List.all_eq_true] at alone
  have checked := alone (other,waiting) ((Dict.mem_iff m.tasks).mpr standing)
  simpa [different,holds] using checked

theorem findExisting_some (agentTp : String) (sessions : List AgentSession) (existing : AgentSession)
    (scanned : findExisting digest agentTp sessions = .ok (some existing)) :
    existing ∈ sessions ∧ jwkThumbprintSha256 digest existing.publicKey = some agentTp := by
  induction sessions with
  | nil => cases scanned
  | cons head rest ih =>
    unfold findExisting at scanned
    split at scanned
    · cases scanned
    · rename_i tp known
      split at scanned
      · rename_i same
        cases scanned
        exact ⟨List.mem_cons_self,same ▸ known⟩
      · exact ⟨List.mem_cons_of_mem head (ih scanned).1,(ih scanned).2⟩

theorem listByHost_stored (s : AgentStore) (hostId : String) (row : AgentSession) (listed : row ∈ s.listByHost hostId) :
    s.get row.agentId = some row ∧ row.hostId = hostId := by
  unfold AgentStore.listByHost at listed
  rw [List.mem_insertionSort,List.mem_filter] at listed
  obtain ⟨stored,host⟩ := listed
  obtain ⟨⟨id,_⟩,member,rfl⟩ := List.mem_map.mp stored
  have found := (Dict.mem_iff s.agents).mp member
  refine ⟨?_,by simpa using host⟩
  rw [s.keyed id _ found]
  exact found

-- A registration with a key that a session of the host carries ends at the scan; it
-- names that session or fails.
theorem registerScan_existing (s : AgentStore) (id : String) (row : AgentSession) (key : PublicKey) (tp : String) (now : Int)
    (unique : Unique digest s) (found : s.get id = some row) (stored : jwkThumbprintSha256 digest row.publicKey = some tp)
    (same : jwkThumbprintSha256 digest key = some tp) :
    registerScan digest importKey s row.hostId key now = .answered (.registered id row.status) ∨
      ∃ code detail, registerScan digest importKey s row.hostId key now = .answered (.failed code detail) := by
  unfold registerScan
  rw [same]
  split
  · exact .inr ⟨_,_,rfl⟩
  · simp only
    split
    · exact .inr ⟨_,_,rfl⟩
    · rename_i existing scanned
      obtain ⟨listed,carried⟩ := findExisting_some digest tp _ existing scanned
      obtain ⟨known,host⟩ := listByHost_stored s row.hostId existing listed
      have named := unique existing.agentId id existing row tp known found host carried stored
      rw [named,found] at known
      cases known
      exact .inl (by rw [named])
    · rename_i scanned
      exact absurd stored (findExisting_none digest tp _ scanned row (mem_listByHost s row.hostId id row found rfl))

-- In every run in which nobody stores a key that another handler is about to store for
-- another session of the host, the keys of a host's sessions stay apart and a repeated registration
-- makes no second session.
theorem agent_keys_unique (s : AgentStore) (moves : List (Move Task Input)) (final : State) (start : Unique digest s)
    (run : Runs (program digest importKey).next (fun m move => exclusive digest m move = true) (Machine.init s) moves final) :
    Unique digest final.store ∧
      ∀ id row key tp now, final.store.get id = some row → jwkThumbprintSha256 digest row.publicKey = some tp →
        jwkThumbprintSha256 digest key = some tp →
        registerScan digest importKey final.store row.hostId key now = .answered (.registered id row.status) ∨
          ∃ code detail, registerScan digest importKey final.store row.hostId key now = .answered (.failed code detail) := by
  have holds : Holds (fun t _ => Unique digest t) (Clear digest) final := by
    refine (program digest importKey).interleaved _ _ _ (start_clear digest) ?_ _ final moves run
      ⟨start,by simp [Machine.init]⟩
    intro m id input task next task' events holds alone known stepped
    have clear := holds.2 id task known
    obtain ⟨change,clear'⟩ := advance_sound digest importKey m.store next task task' input events clear stepped
    cases change with
    | kept => exact ⟨holds.1,clear',fun other waiting _ standing => holds.2 other waiting standing⟩
    | put row claim claimed writing host key owner place =>
      refine ⟨unique_put digest m.store row claim host key owner (clear.2 claim claimed) holds.1,clear',?_⟩
      intro other waiting different standing
      obtain ⟨placed,free⟩ := holds.2 other waiting standing
      refine ⟨placed_put m.store row waiting place placed,?_⟩
      intro held holding
      have apart := exclusive_apart digest m id other input task waiting claim held alone known writing claimed different standing holding
      exact free_put digest m.store row claim held host key owner apart (free held holding)
  exact ⟨holds.1,fun id row key tp now => registerScan_existing digest importKey final.store id row key tp now holds.1⟩

theorem unique_init : Unique digest .init := fun _ _ _ _ _ found => by cases found

def registration : Task := .registering "h1" firstKey
def approvalInput (agentId : String) : Input := ⟨0,agentId,.needsApproval⟩

-- Both handlers scan before either saves.
def overlappingMoves : List (Move Task Input) :=
  [.arrive 0 registration,.arrive 1 registration,.proceed 0 (approvalInput "a1"),.proceed 1 (approvalInput "a2"),
    .proceed 0 (approvalInput "a1"),.proceed 1 (approvalInput "a2")]

def carried (s : AgentStore) (agentId : String) : Option (String × Option String) :=
  (s.get agentId).map (fun row => (row.hostId,jwkThumbprintSha256 keyDigest row.publicKey))

theorem overlapping_keys : (execute (program keyDigest (fun _ => true)).next anyMove (Machine.init .init) overlappingMoves).map
    (fun m => (carried m.store "a1",carried m.store "a2")) =
      some (some ("h1",jwkThumbprintSha256 keyDigest firstKey),some ("h1",jwkThumbprintSha256 keyDigest firstKey)) := by
  decide +kernel

theorem overlapping_registrations_share_key :
    Unique keyDigest .init ∧
      ∃ final, Runs (program keyDigest (fun _ => true)).next (fun _ _ => True) (Machine.init .init) overlappingMoves final ∧
        ¬ Unique keyDigest final.store := by
  refine ⟨unique_init keyDigest,?_⟩
  obtain ⟨final,ran,keys⟩ := Option.map_eq_some_iff.mp overlapping_keys
  refine ⟨final,execute_free ran,?_⟩
  intro unique
  obtain ⟨first,known,here⟩ := Option.map_eq_some_iff.mp (congrArg Prod.fst keys)
  obtain ⟨second,known',there⟩ := Option.map_eq_some_iff.mp (congrArg Prod.snd keys)
  have host : first.hostId = second.hostId := (congrArg Prod.fst here).trans (congrArg Prod.fst there).symm
  have same := unique "a1" "a2" first second _ known known' host (congrArg Prod.snd here) (congrArg Prod.snd there)
  exact absurd same (by decide)

-- The second registration comes after the first has answered: it names the first session.
def repeatedMoves : List (Move Task Input) :=
  [.arrive 0 registration,.proceed 0 (approvalInput "a1"),.proceed 0 (approvalInput "a1"),.arrive 1 registration,
    .proceed 1 (approvalInput "a2")]

theorem repeated_runs : (execute (program keyDigest (fun _ => true)).next (exclusive keyDigest) (Machine.init .init)
    repeatedMoves).isSome = true := by
  decide +kernel

theorem agent_keys_unique_repeated :
    ∃ final, execute (program keyDigest (fun _ => true)).next (exclusive keyDigest) (Machine.init .init) repeatedMoves = some final ∧
      Unique keyDigest final.store := by
  obtain ⟨final,ran⟩ := Option.isSome_iff_exists.mp repeated_runs
  refine ⟨final,ran,?_⟩
  exact (agent_keys_unique keyDigest (fun _ => true) .init repeatedMoves final (unique_init keyDigest) (execute_runs (exclusive keyDigest) ran)).1

end Asap.AgentRegistration
