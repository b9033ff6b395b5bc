import Asap.Locks
import Mathlib.Algebra.Order.Ring.Rat

-- `discover_from_registry` and `get_registry`: tasks that share the cache of registries and its locks, one for each URL,
-- and give way wherever they wait for the lock, the server or the next attempt.
namespace Asap.RegistryFetch
open Interleaving OrderedDict

-- `parse` is `LiteRegistry.model_validate_json`, `int` the conversion of a text; `none` is an exception.
structure Python (Registry : Type) where
  parse : String → Option Registry
  int : String → Option Int

inductive Call where
  | discoverFromRegistry (registryUrl : String) (ttlSeconds : Int)
  | getRegistry (registryUrl : String) (ttlSeconds : Option Int)
  deriving DecidableEq

def Call.registryUrl : Call → String
  | .discoverFromRegistry registryUrl _ => registryUrl
  | .getRegistry registryUrl _ => registryUrl

def max429Retries : Nat := 3

def Call.retries : Call → Nat
  | .discoverFromRegistry _ _ => 0
  | .getRegistry _ _ => max429Retries

def defaultRegistryCacheTtl : Int := 300

-- `_cache_ttl_seconds`, of the environment variable if it is set.
def cacheTtlSeconds (python : Python Registry) : Option String → Int
  | none => defaultRegistryCacheTtl
  | some raw =>
    match python.int raw with
    | some value => if 0 < value then value else defaultRegistryCacheTtl
    | none => defaultRegistryCacheTtl

def Call.ttl (python : Python Registry) (environment : Option String) : Call → Int
  | .discoverFromRegistry _ ttlSeconds => ttlSeconds
  | .getRegistry _ (some ttlSeconds) => ttlSeconds
  | .getRegistry _ none => cacheTtlSeconds python environment

inductive Reply where
  | response (status : Nat) (text : String)
  | httpError

inductive FetchError where
  | httpStatus (code : Nat)
  | httpError
  | validation
  | cancelled
  deriving DecidableEq

-- What the tasks have done: a request sent, its answer stored, or a stored answer returned.
inductive Event (Registry : Type) where
  | requested (url : String) (now : Rat)
  | stored (url : String) (now : Rat) (ttl : Int) (registry : Registry)
  | hit (url : String) (now : Rat) (registry : Registry)

-- The registries by URL with their expiry, the URLs whose lock is held, and the last reading of the clock.
structure World (Registry : Type) where
  cache : Dict String (Rat × Registry)
  locked : List String
  clock : Rat
  log : List (Event Registry)

inductive Task (Registry : Type) where
  | called (call : Call)
  | waiting (call : Call) (ttl : Int) (attempt : Nat)
  | fetching (call : Call) (ttl : Int) (attempt : Nat) (now : Rat)
  | sleeping (call : Call) (ttl : Int) (attempt : Nat)
  | returned (call : Call) (registry : Registry)
  | raised (call : Call) (error : FetchError)

inductive Input where
  | start (environment : Option String)
  | acquire (now : Rat)
  | reply (reply : Reply)
  | wake
  | cancel

section Tasks
variable {Registry : Type} (python : Python Registry) (world : World Registry) (call : Call) (ttl : Int) (attempt : Nat) (now : Rat)

def release : World Registry := {world with locked := world.locked.erase call.registryUrl}

def request : World Registry × Task Registry :=
  (⟨world.cache.erase call.registryUrl,call.registryUrl :: world.locked,now,world.log ++ [.requested call.registryUrl now]⟩,
    .fetching call ttl attempt now)

def lookUp : World Registry × Task Registry :=
  match world.cache.get call.registryUrl with
  | some (expiry,registry) =>
    if now < expiry then ({world with clock := now,log := world.log ++ [.hit call.registryUrl now registry]},.returned call registry)
    else request world call ttl attempt now
  | none => request world call ttl attempt now

def store (registry : Registry) : World Registry :=
  ⟨world.cache.set call.registryUrl (now + ttl,registry),world.locked,world.clock,world.log ++ [.stored call.registryUrl now ttl registry]⟩

-- `raise_for_status` accepts the codes from 200 to 299.
def receive : Reply → World Registry × Task Registry
  | .response status text =>
    if 200 ≤ status ∧ status < 300 then
      match python.parse text with
      | some registry =>
        (release (store world call ttl now registry) call,.returned call registry)
      | none => (release world call,.raised call .validation)
    else if status = 429 ∧ attempt < call.retries then (release world call,.sleeping call ttl attempt)
    else (release world call,.raised call (.httpStatus status))
  | .httpError => (release world call,.raised call .httpError)

def step (world : World Registry) : Task Registry → Input → Option (World Registry × Task Registry)
  | .called call,.start environment => some (world,.waiting call (call.ttl python environment) 0)
  | .waiting call ttl attempt,.acquire now =>
    if call.registryUrl ∈ world.locked then none else some (lookUp world call ttl attempt now)
  | .fetching call ttl attempt now,.reply reply => some (receive python world call ttl attempt now reply)
  | .sleeping call ttl attempt,.wake => some (world,.waiting call ttl (attempt + 1))
  | .called call,.cancel => some (world,.raised call .cancelled)
  | .waiting call _ _,.cancel => some (world,.raised call .cancelled)
  | .fetching call _ _ _,.cancel => some (release world call,.raised call .cancelled)
  | .sleeping call _ _,.cancel => some (world,.raised call .cancelled)
  | _,_ => none

def Task.isCalled : Task Registry → Bool
  | .called _ => true
  | _ => false

def program : Program (World Registry) (Task Registry) Input Empty where
  arrives := Task.isCalled
  advance world task input := (step python world task input).map (fun (world,task) => (world,task,[]))

def World.init (start : Rat) : World Registry := ⟨.empty,[],start,[]⟩

-- The URL whose lock the task holds.
def Task.lock : Task Registry → Option String
  | .fetching call _ _ _ => some call.registryUrl
  | _ => none

-- The clock of the tasks does not go back.
def Forward (m : Machine (World Registry) (Task Registry) Empty) : Move (Task Registry) Input → Prop
  | .proceed _ (.acquire now) => m.store.clock ≤ now
  | _ => True
end Tasks

section Locking
variable {Registry : Type} {python : Python Registry} {world later : World Registry} {task task' : Task Registry} {input : Input}

theorem lookUp_locks (call : Call) (ttl : Int) (attempt : Nat) (now : Rat) (free : call.registryUrl ∉ world.locked) :
    LockStep World.locked Task.lock world (.waiting call ttl attempt) (lookUp world call ttl attempt now).1 (lookUp world call ttl attempt now).2 := by
  unfold lookUp
  split
  · split
    · exact .keeps rfl rfl
    · exact .takes call.registryUrl rfl free rfl rfl
  · exact .takes call.registryUrl rfl free rfl rfl

variable (python world) in
theorem receive_locks (call : Call) (ttl : Int) (attempt : Nat) (now : Rat) (reply : Reply) :
    LockStep World.locked Task.lock world (.fetching call ttl attempt now) (receive python world call ttl attempt now reply).1
      (receive python world call ttl attempt now reply).2 := by
  unfold receive
  split
  · split
    · split <;> exact .gives call.registryUrl rfl rfl rfl
    · split <;> exact .gives call.registryUrl rfl rfl rfl
  · exact .gives call.registryUrl rfl rfl rfl

theorem step_locks (taken : step python world task input = some (later,task')) :
    LockStep World.locked Task.lock world task later task' := by
  unfold step at taken
  split at taken
  · cases taken
    exact .keeps rfl rfl
  · split at taken
    · cases taken
    · rename_i call ttl attempt now free
      have locks := lookUp_locks call ttl attempt now free
      rw [Option.some.inj taken] at locks
      exact locks
  · rename_i call ttl attempt now reply
    have locks := receive_locks python world call ttl attempt now reply
    rw [Option.some.inj taken] at locks
    exact locks
  · cases taken
    exact .keeps rfl rfl
  · cases taken
    exact .keeps rfl rfl
  · cases taken
    exact .keeps rfl rfl
  · cases taken
    exact .gives _ rfl rfl rfl
  · cases taken
    exact .keeps rfl rfl
  · cases taken
end Locking

section Reasons
variable {Registry : Type}

def storedFor (url : String) : Event Registry → Option (Rat × Int × Registry)
  | .stored other now ttl registry => if other = url then some (now,ttl,registry) else none
  | _ => none

-- The last answer that was stored for the URL, with the time of its request and its TTL.
def lastStored (url : String) : List (Event Registry) → Option (Rat × Int × Registry) := latest (storedFor url)

-- Every answer stored for the URL has expired.
def Expired (log : List (Event Registry)) (url : String) (now : Rat) : Prop :=
  ∀ (started : Rat) (ttl : Int) (registry : Registry), .stored url started ttl registry ∈ log → started + ttl ≤ now

-- A request is sent when every answer stored before has expired, and a hit is the last one stored, not expired yet.
def Reason (earlier : List (Event Registry)) : Event Registry → Prop
  | .requested url now => Expired earlier url now
  | .stored url now _ _ => .requested url now ∈ earlier
  | .hit url now registry => ∃ (started : Rat) (ttl : Int), lastStored url earlier = some (started,ttl,registry) ∧ now < started + ttl

def Obtained (world : World Registry) (url : String) (registry : Registry) : Prop :=
  (∃ now ttl, .stored url now ttl registry ∈ world.log) ∨ ∃ now, .hit url now registry ∈ world.log

structure Sound (world : World Registry) : Prop where
  justified : Justified Reason world.log
  cached : ∀ url expiry registry, world.cache.get url = some (expiry,registry) →
    ∃ (started : Rat) (ttl : Int), lastStored url world.log = some (started,ttl,registry) ∧ expiry = started + ttl
  past : ∀ (url : String) (started : Rat) (ttl : Int) (registry : Registry), .stored url started ttl registry ∈ world.log →
    world.cache.get url = some (started + ttl,registry) ∨ started + ttl ≤ world.clock

-- A task that waits for the server has sent its request when the answers for the URL had expired.
def Own (world : World Registry) : Task Registry → Prop
  | .fetching call _ _ now => now ≤ world.clock ∧ .requested call.registryUrl now ∈ world.log ∧
      Expired world.log call.registryUrl now
  | .returned call registry => Obtained world call.registryUrl registry
  | _ => True

structure Keeps (before : World Registry) (task : Task Registry) (after : World Registry) (task' : Task Registry) : Prop where
  sound : Sound after
  own : Own after task'
  clock : before.clock ≤ after.clock
  grows : ∀ event ∈ before.log, event ∈ after.log
  only : ∀ (url : String) (started : Rat) (ttl : Int) (registry : Registry), .stored url started ttl registry ∈ after.log →
    .stored url started ttl registry ∈ before.log ∨ task.lock = some url

variable {python : Python Registry} {world later : World Registry} {task task' : Task Registry} {call : Call} {ttl : Int} {attempt : Nat} {now : Rat}

theorem Keeps.idle (sound : Sound world) (own : Own world task') : Keeps world task world task' :=
  ⟨sound,own,Rat.le_refl,fun _ member => member,fun _ _ _ _ member => .inl member⟩

theorem release_sound (sound : Sound world) (call : Call) : Sound (release world call) := ⟨sound.justified,sound.cached,sound.past⟩

theorem Keeps.released (sound : Sound world) (own : Own (release world call) task') : Keeps world task (release world call) task' :=
  ⟨release_sound sound call,own,Rat.le_refl,fun _ member => member,fun _ _ _ _ member => .inl member⟩

theorem mem_snoc {log : List (Event Registry)} {event last : Event Registry} (member : event ∈ log ++ [last]) (different : event ≠ last) : event ∈ log := by
  simpa [different] using member

theorem request_keeps (sound : Sound world) (forward : world.clock ≤ now)
    (expired : ∀ expiry registry, world.cache.get call.registryUrl = some (expiry,registry) → expiry ≤ now) :
    Keeps world task (request world call ttl attempt now).1 (request world call ttl attempt now).2 := by
  have answered : Expired world.log call.registryUrl now := by
    intro started ttl registry member
    rcases sound.past call.registryUrl started ttl registry member with held | before
    · exact expired _ _ held
    · exact Rat.le_trans before forward
  have before (url : String) (started : Rat) (ttl : Int) (registry : Registry)
      (member : .stored url started ttl registry ∈ world.log ++ [.requested call.registryUrl now]) : .stored url started ttl registry ∈ world.log :=
    mem_snoc member (by simp)
  refine ⟨⟨sound.justified.append _ answered,?_,?_⟩,⟨Rat.le_refl,?_,?_⟩,forward,?_,?_⟩
  · intro url expiry registry held
    have other : world.cache.get url = some (expiry,registry) := by
      unfold request at held
      rw [Dict.get_erase] at held
      split at held
      · cases held
      · exact held
    obtain ⟨started,ttl,last,same⟩ := sound.cached url expiry registry other
    exact ⟨started,ttl,(latest_other rfl _).trans last,same⟩
  · intro url started ttl registry member
    have known := before url started ttl registry member
    by_cases own : call.registryUrl = url
    · subst own
      exact .inr (answered started ttl registry known)
    · rcases sound.past url started ttl registry known with held | past
      · refine .inl ?_
        unfold request
        rw [Dict.get_erase,if_neg own]
        exact held
      · exact .inr (Rat.le_trans past forward)
  · exact List.mem_append_right _ List.mem_cons_self
  · intro started ttl registry member
    exact answered started ttl registry (before _ started ttl registry member)
  · intro event member
    exact List.mem_append_left _ member
  · intro url started ttl registry member
    exact .inl (before url started ttl registry member)

theorem hit_keeps (sound : Sound world) (forward : world.clock ≤ now) {expiry : Rat} {registry : Registry}
    (held : world.cache.get call.registryUrl = some (expiry,registry)) (fresh : now < expiry) :
    Keeps world task {world with clock := now,log := world.log ++ [.hit call.registryUrl now registry]} (.returned call registry) := by
  have before (url : String) (started : Rat) (ttl : Int) (other : Registry)
      (member : .stored url started ttl other ∈ world.log ++ [.hit call.registryUrl now registry]) : .stored url started ttl other ∈ world.log :=
    mem_snoc member (by simp)
  obtain ⟨started,ttl,last,rfl⟩ := sound.cached call.registryUrl expiry registry held
  refine ⟨⟨sound.justified.append _ ⟨started,ttl,last,fresh⟩,?_,?_⟩,.inr ⟨now,List.mem_append_right _ List.mem_cons_self⟩,forward,?_,?_⟩
  · intro url expiry other held
    obtain ⟨started,ttl,last,same⟩ := sound.cached url expiry other held
    exact ⟨started,ttl,(latest_other rfl _).trans last,same⟩
  · intro url started ttl other member
    rcases sound.past url started ttl other (before url started ttl other member) with held | past
    · exact .inl held
    · exact .inr (Rat.le_trans past forward)
  · intro event member
    exact List.mem_append_left _ member
  · intro url started ttl other member
    exact .inl (before url started ttl other member)

theorem lookUp_keeps (sound : Sound world) (forward : world.clock ≤ now) :
    Keeps world task (lookUp world call ttl attempt now).1 (lookUp world call ttl attempt now).2 := by
  unfold lookUp
  split
  · rename_i expiry registry held
    split
    · rename_i fresh
      exact hit_keeps sound forward held fresh
    · rename_i stale
      refine request_keeps sound forward ?_
      intro expiry registry again
      rw [held] at again
      cases again
      exact Rat.not_lt.mp stale
  · rename_i absent
    refine request_keeps sound forward ?_
    intro expiry registry held
    rw [absent] at held
    cases held

theorem store_keeps (sound : Sound world) (own : Own world (.fetching call ttl attempt now)) (registry : Registry) :
    Keeps world (.fetching call ttl attempt now) (release (store world call ttl now registry) call) (.returned call registry) := by
  obtain ⟨begun,requested,answered⟩ := own
  have here : .stored call.registryUrl now ttl registry ∈ (store world call ttl now registry).log := List.mem_append_right _ List.mem_cons_self
  refine ⟨release_sound ⟨sound.justified.append (.stored call.registryUrl now ttl registry) requested,?_,?_⟩ call,.inl ⟨now,ttl,here⟩,Rat.le_refl,?_,?_⟩
  · intro url expiry other held
    unfold store at held ⊢
    rw [Dict.get_set] at held
    split at held
    · rename_i own
      cases held
      have mine : storedFor url (.stored call.registryUrl now ttl registry) = some (now,ttl,registry) := if_pos own
      exact ⟨now,ttl,latest_own mine _,rfl⟩
    · rename_i different
      obtain ⟨started,lifetime,last,same⟩ := sound.cached url expiry other held
      have none : storedFor url (.stored call.registryUrl now ttl registry) = none := if_neg different
      exact ⟨started,lifetime,(latest_other none _).trans last,same⟩
  · intro url started ttl' other member
    unfold store at member ⊢
    rcases List.mem_append.mp member with known | new
    · by_cases own : call.registryUrl = url
      · subst own
        exact .inr (Rat.le_trans (answered started ttl' other known) begun)
      · simp only [Dict.get_set_other _ _ own]
        exact sound.past url started ttl' other known
    · cases List.mem_singleton.mp new
      exact .inl (Dict.get_set_self _ _ _)
  · intro event member
    exact List.mem_append_left _ member
  · intro url started ttl' other member
    rcases List.mem_append.mp member with known | new
    · exact .inl known
    · cases List.mem_singleton.mp new
      exact .inr rfl

variable (python) in
theorem receive_keeps (sound : Sound world) (own : Own world (.fetching call ttl attempt now)) (reply : Reply) :
    Keeps world (.fetching call ttl attempt now) (receive python world call ttl attempt now reply).1
      (receive python world call ttl attempt now reply).2 := by
  unfold receive
  split
  · split
    · split
      · exact store_keeps sound own _
      · exact .released sound trivial
    · split
      · exact .released sound trivial
      · exact .released sound trivial
  · exact .released sound trivial

theorem step_keeps (sound : Sound world) (own : Own world task) {input : Input} (forward : ∀ now, input = .acquire now → world.clock ≤ now)
    (taken : step python world task input = some (later,task')) : Keeps world task later task' := by
  unfold step at taken
  split at taken
  · cases taken
    exact .idle sound trivial
  · split at taken
    · cases taken
    · rename_i call ttl attempt now free
      have kept : Keeps world (.waiting call ttl attempt) (lookUp world call ttl attempt now).1 (lookUp world call ttl attempt now).2 :=
        lookUp_keeps sound (forward now rfl)
      rw [Option.some.inj taken] at kept
      exact kept
  · rename_i call ttl attempt now reply
    have kept := receive_keeps python sound own reply
    rw [Option.some.inj taken] at kept
    exact kept
  · cases taken
    exact .idle sound trivial
  · cases taken
    exact .idle sound trivial
  · cases taken
    exact .idle sound trivial
  · cases taken
    exact .released sound trivial
  · cases taken
    exact .idle sound trivial
  · cases taken

-- A task that does not hold the lock leaves the others' part alone.
theorem Keeps.others {other : Task Registry} (kept : Keeps world task later task') (own : Own world other)
    (apart : ∀ url, task.lock = some url → other.lock ≠ some url) : Own later other := by
  cases other with
  | fetching call ttl attempt now =>
    obtain ⟨begun,requested,answered⟩ := own
    refine ⟨Rat.le_trans begun kept.clock,kept.grows _ requested,?_⟩
    intro started ttl registry member
    rcases kept.only _ started ttl registry member with known | mine
    · exact answered started ttl registry known
    · exact absurd rfl (apart _ mine)
  | returned call registry =>
    rcases own with ⟨now,ttl,member⟩ | ⟨now,member⟩
    · exact .inl ⟨now,ttl,kept.grows _ member⟩
    · exact .inr ⟨now,kept.grows _ member⟩
  | called _ => trivial
  | waiting _ _ _ => trivial
  | sleeping _ _ _ => trivial
  | raised _ _ => trivial
end Reasons

section Runs
variable {Registry : Type} (python : Python Registry) (start : Rat) (moves : List (Move (Task Registry) Input))
    (final : Machine (World Registry) (Task Registry) Empty)

theorem advance_step {world later : World Registry} {task task' : Task Registry} {input : Input} {events : List Empty}
    (advanced : (program python).advance world task input = some (later,task',events)) : step python world task input = some (later,task') := by
  obtain ⟨after,taken,same⟩ := Option.map_eq_some_iff.mp advanced
  cases same
  exact taken

theorem called_unlocked (task : Task Registry) (arrives : (program python).arrives task) : task.lock = none := by
  cases task with
  | called call => rfl
  | _ => cases arrives

theorem advance_locks (s : World Registry) (task : Task Registry) (input : Input) (store : World Registry) (task' : Task Registry) (events : List Empty)
    (advanced : (program python).advance s task input = some (store,task',events)) : LockStep World.locked Task.lock s task store task' :=
  step_locks (advance_step python advanced)

-- At most one request for a URL is under way, and its lock is held as long as it is, whatever the server answers.
theorem requests_single_flight (run : Runs (program python).next (fun _ _ => True) (.init (World.init start)) moves final) :
    (∀ url, url ∈ final.store.locked ↔ ∃ id call ttl attempt now, final.tasks.get id = some (.fetching call ttl attempt now) ∧ call.registryUrl = url) ∧
    ∀ i j call other ttl ttl' attempt attempt' now now', final.tasks.get i = some (.fetching call ttl attempt now) →
      final.tasks.get j = some (.fetching other ttl' attempt' now') → call.registryUrl = other.registryUrl → i = j := by
  have exclusive : Exclusive World.locked Task.lock final :=
    (program python).exclusive (fun _ _ => True) (called_unlocked python) (advance_locks python) run (exclusive_init _ rfl)
  constructor
  · intro url
    rw [exclusive.held_iff]
    constructor
    · rintro ⟨id,task,found,own⟩
      cases task with
      | fetching call ttl attempt now => exact ⟨id,call,ttl,attempt,now,found,Option.some.inj own⟩
      | _ => cases own
    · rintro ⟨id,call,ttl,attempt,now,found,own⟩
      exact ⟨id,_,found,congrArg some own⟩
  · intro i j call other ttl ttl' attempt attempt' now now' one two same
    exact exclusive.sole i j _ _ other.registryUrl one two (congrArg some same) rfl

-- No request is sent before the answers stored for its URL have expired; what a call returns has been stored for its
-- URL, and from the cache only the last one stored and before its expiry.
theorem requests_paced (run : Runs (program python).next Forward (.init (World.init start)) moves final) :
    (∀ earlier event later, final.store.log = earlier ++ event :: later → Reason earlier event) ∧
    ∀ id call registry, final.tasks.get id = some (.returned call registry) → Obtained final.store call.registryUrl registry := by
  have locked := run.strengthen (Exclusive World.locked Task.lock)
    (fun m move next _ taken exclusive => (program python).next_exclusive (called_unlocked python) (advance_locks python) move m next
      taken exclusive)
    (exclusive_init _ rfl)
  have holds := (program python).interleaved (fun m move => Forward m move ∧ Exclusive World.locked Task.lock m) (fun world _ => Sound world) Own
    (fun world task arrives => by
      cases task with
      | called call => trivial
      | _ => cases arrives)
    (fun m id input task store task' events holds permitted known advanced => by
      have forward : ∀ now, input = .acquire now → m.store.clock ≤ now := by
        rintro now rfl
        exact permitted.1
      have kept := step_keeps holds.1 (holds.2 id task known) forward (advance_step python advanced)
      refine ⟨kept.sound,kept.own,?_⟩
      intro other waiting different found
      exact kept.others (holds.2 other waiting found) (fun url own => permitted.2.apart known own different found))
    (.init (World.init start)) final moves locked
    ⟨⟨.nil,fun _ _ _ held => (by cases held),fun _ _ _ _ member => (by cases member)⟩,fun _ _ found => by cases found⟩
  exact ⟨justified_iff.mp holds.1.justified,fun id call registry found => holds.2 id _ found⟩

end Runs

section Sample

def Forward.check (m : Machine (World String) (Task String) Empty) : Move (Task String) Input → Bool
  | .proceed _ (.acquire now) => decide (m.store.clock ≤ now)
  | _ => true

theorem Forward.check_sound (m : Machine (World String) (Task String) Empty) (move : Move (Task String) Input) (checked : Forward.check m move = true) :
    Forward m move := by
  cases move with
  | arrive id task => trivial
  | proceed id input =>
    cases input with
    | acquire now =>
      have ahead : m.store.clock ≤ now := of_decide_eq_true checked
      exact ahead
    | _ => trivial

def textPython : Python String := ⟨some,fun _ => none⟩

-- The second call finds what the first one has fetched; the third comes after the five minutes, and is told to wait.
def pacedMoves : List (Move (Task String) Input) :=
  [.arrive 0 (.called (.getRegistry "u" none)),.arrive 1 (.called (.discoverFromRegistry "u" 900)),.proceed 0 (.start none),.proceed 1 (.start none),
    .proceed 0 (.acquire 0),.proceed 0 (.reply (.response 200 "agents")),.proceed 1 (.acquire 1),.arrive 2 (.called (.getRegistry "u" none)),
    .proceed 2 (.start none),.proceed 2 (.acquire 300),.proceed 2 (.reply (.response 429 "")),.proceed 2 .wake,.proceed 2 (.acquire 301)]

def pacedRan : Option (Machine (World String) (Task String) Empty) :=
  execute (program textPython).next Forward.check (.init (World.init 0)) pacedMoves

theorem paced_done : pacedRan.isSome = true := by decide +kernel

theorem paced_runs : Runs (program textPython).next Forward (.init (World.init 0)) pacedMoves (pacedRan.get paced_done) :=
  (execute_runs Forward.check (Option.some_get paced_done).symm).mono Forward.check_sound

theorem requests_single_flight_sample : (∀ url, url ∈ (pacedRan.get paced_done).store.locked ↔
      ∃ id call ttl attempt now, (pacedRan.get paced_done).tasks.get id = some (.fetching call ttl attempt now) ∧ call.registryUrl = url) ∧
    ∀ i j call other ttl ttl' attempt attempt' now now', (pacedRan.get paced_done).tasks.get i = some (.fetching call ttl attempt now) →
      (pacedRan.get paced_done).tasks.get j = some (.fetching other ttl' attempt' now') → call.registryUrl = other.registryUrl → i = j :=
  requests_single_flight textPython 0 pacedMoves _ (paced_runs.mono fun _ _ _ => trivial)

theorem requests_paced_sample :
    (∀ earlier event later, (pacedRan.get paced_done).store.log = earlier ++ event :: later → Reason earlier event) ∧
    ∀ id call registry, (pacedRan.get paced_done).tasks.get id = some (.returned call registry) →
      Obtained (pacedRan.get paced_done).store call.registryUrl registry :=
  requests_paced textPython 0 pacedMoves _ paced_runs
end Sample

end Asap.RegistryFetch
