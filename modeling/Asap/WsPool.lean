import Asap.Interleaving

-- `WebSocketConnectionPool`: calls of `acquire`, `release` and `close`, interleaved at their awaits.
-- A caller releases the transport it acquired, and releases it once.
namespace Asap.WsPool
open OrderedDict Interleaving

structure Settings where
  maxSize : Int
  idleTimeout : Int

-- Where a call stands. Until it has its transport an `acquire` waits for the lock, for the close of
-- a transport that was idle too long, for its connection, or for the queue; `since` is the number of
-- transports the pool had dropped when it began to wait for the queue.
inductive Phase where
  | acquiring
  | evicting (transport : Nat) (now : Int)
  | connecting
  | waiting (since : Nat)
  | taken (transport : Nat) (lastUsed : Int) (since : Nat)
  | discarding (transport : Nat) (since : Nat)
  | refusing (transport : Nat)
  | leased (transport : Nat)
  | releasing (transport : Nat)
  | closingReleased (transport : Nat)
  | closing
  | draining
  | ended
  deriving DecidableEq

-- `down` are the transports whose `_ws` is None. `drops` counts the transports that left the pool
-- dead or idle too long, `lost` those whose own close raised on the way.
structure Pool where
  available : List (Nat × Int) := []
  inUse : Int := 0
  total : Int := 0
  closed : Bool := false
  lock : Option Nat := none
  down : List Nat := []
  made : Nat := 0
  tasks : Dict Nat Phase := .empty
  drops : Nat := 0
  lost : Nat := 0

inductive Event where
  | acquire (id : Nat)
  | release (id : Nat)
  | close (id : Nat)
  | locks (id : Nat) (now : Int)
  | takes (id : Nat)
  | connected (id : Nat)
  | refused (id : Nat)
  | transportClosed (id : Nat)
  | transportRaises (id : Nat)
  | goesDown (transport : Nat)
  | comesUp (transport : Nat)

def Pool.goes (s : Pool) (id : Nat) (phase : Phase) : Pool := {s with tasks := s.tasks.set id phase}

-- The call leaves the lock, or is over.
def Pool.unlocks (s : Pool) (id : Nat) (phase : Phase) : Pool := Pool.goes {s with lock := none} id phase

section Calls
variable (settings : Settings)

def idle (now lastUsed : Int) : Bool := decide (settings.idleTimeout < now - lastUsed)

-- Taken from the queue and dropped without an await.
def Pool.dead (s : Pool) (now : Int) (item : Nat × Int) : Bool := !idle settings now item.2 && s.down.contains item.1

-- The loop of `acquire` under the lock, up to its next await.
def Pool.scan (s : Pool) (id : Nat) (now : Int) : Pool :=
  let dead := s.available.takeWhile (s.dead settings now)
  let scanned := {s with
    available := s.available.dropWhile (s.dead settings now)
    total := s.total - dead.length
    drops := s.drops + dead.length}
  match scanned.available with
  | (transport,lastUsed) :: rest =>
    if idle settings now lastUsed then Pool.goes {scanned with available := rest} id (.evicting transport now)
    else Pool.unlocks {scanned with available := rest,inUse := s.inUse + 1} id (.leased transport)
  | [] =>
    if scanned.total < settings.maxSize then scanned.goes id .connecting
    else scanned.unlocks id (.waiting scanned.drops)

def Pool.acquireLocked (s : Pool) (id : Nat) (now : Int) : Pool :=
  if s.closed then s.unlocks id .ended else s.scan settings id now

-- A waiter that got an item and the lock.
def Pool.takenLocked (s : Pool) (id : Nat) (transport : Nat) (lastUsed : Int) (since : Nat) (now : Int) : Pool :=
  if s.closed then s.goes id (.refusing transport)
  else if idle settings now lastUsed then s.goes id (.discarding transport since)
  else if transport ∈ s.down then Pool.unlocks {s with total := s.total - 1,drops := s.drops + 1} id (.waiting since)
  else Pool.unlocks {s with inUse := s.inUse + 1} id (.leased transport)

end Calls

def Pool.releaseLocked (s : Pool) (id : Nat) (transport : Nat) (now : Int) : Pool :=
  let released := {s with inUse := s.inUse - 1}
  if s.closed then released.goes id (.closingReleased transport)
  else if transport ∈ s.down then Pool.unlocks {released with total := s.total - 1,drops := s.drops + 1} id .ended
  else Pool.unlocks {released with available := s.available ++ [(transport,now)]} id .ended

-- `close` empties the queue without the lock and resets the counts at the end.
def Pool.drain (s : Pool) (id : Nat) : Pool :=
  match s.available with
  | [] => Pool.goes {s with total := 0,inUse := 0} id .ended
  | _ :: rest => Pool.goes {s with available := rest} id .draining

def Pool.closeLocked (s : Pool) (id : Nat) : Pool := Pool.drain {s with closed := true,lock := none} id

section Machine
variable (settings : Settings)

-- The lock is free and the call takes it.
def Pool.locked (s : Pool) (id : Nat) (now : Int) : Phase → Option Pool
  | .acquiring => some (Pool.acquireLocked settings {s with lock := some id} id now)
  | .taken transport lastUsed since => some (Pool.takenLocked settings {s with lock := some id} id transport lastUsed since now)
  | .releasing transport => some (Pool.releaseLocked {s with lock := some id} id transport now)
  | .closing => some (Pool.closeLocked {s with lock := some id} id)
  | _ => none

-- `await transport.close()` has returned.
def Pool.transportClosed (s : Pool) (id : Nat) : Phase → Option Pool
  | .evicting transport now => some (Pool.scan settings
      (Pool.goes {s with total := s.total - 1,drops := s.drops + 1,down := transport :: s.down} id .acquiring) id now)
  | .discarding transport since =>
    some (Pool.unlocks {s with total := s.total - 1,drops := s.drops + 1,down := transport :: s.down} id (.waiting since))
  | .refusing _ | .closingReleased _ => some (s.unlocks id .ended)
  | .draining => some (s.drain id)
  | _ => none

-- It raised: the call raises too.
def Pool.transportRaises (s : Pool) (id : Nat) : Phase → Option Pool
  | .evicting _ _ | .discarding _ _ => some (Pool.unlocks {s with lost := s.lost + 1} id .ended)
  | .refusing _ | .closingReleased _ => some (s.unlocks id .ended)
  | .draining => some (s.goes id .ended)
  | _ => none

def Pool.next (s : Pool) : Event → Option Pool
  | .acquire id => if s.tasks.get id = none then some (s.goes id .acquiring) else none
  | .close id => if s.tasks.get id = none then some (s.goes id .closing) else none
  | .release id =>
    match s.tasks.get id with
    | some (.leased transport) => some (s.goes id (.releasing transport))
    | _ => none
  | .locks id now => if s.lock = none then (s.tasks.get id).bind (s.locked settings id now) else none
  | .takes id =>
    match s.tasks.get id,s.available with
    | some (.waiting since),(transport,lastUsed) :: rest => some (Pool.goes {s with available := rest} id (.taken transport lastUsed since))
    | _,_ => none
  | .connected id =>
    match s.tasks.get id with
    | some .connecting =>
      some (Pool.unlocks {s with made := s.made + 1,total := s.total + 1,inUse := s.inUse + 1} id (.leased s.made))
    | _ => none
  | .refused id => if s.tasks.get id = some .connecting then some (s.unlocks id .ended) else none
  | .transportClosed id => (s.tasks.get id).bind (s.transportClosed settings id)
  | .transportRaises id => (s.tasks.get id).bind (s.transportRaises id)
  | .goesDown transport => some {s with down := transport :: s.down}
  | .comesUp transport => some {s with down := s.down.filter (fun other => other ≠ transport)}

end Machine

def Phase.leases : Phase → Bool
  | .leased _ | .releasing _ => true
  | _ => false

-- Out of the queue, neither leased nor dropped yet.
def Phase.carries : Phase → Bool
  | .evicting _ _ | .taken _ _ _ | .discarding _ _ => true
  | _ => false

def Phase.connects : Phase → Bool
  | .connecting => true
  | _ => false

@[simp] theorem ended_leases : Phase.ended.leases = false := rfl
@[simp] theorem ended_carries : Phase.ended.carries = false := rfl

def Pool.leased (s : Pool) : Nat := s.tasks.values.countP Phase.leases
def Pool.carried (s : Pool) : Nat := s.tasks.values.countP Phase.carries
def Pool.connecting (s : Pool) : Nat := s.tasks.values.countP Phase.connects
def Pool.idle (s : Pool) : Nat := s.available.length + s.carried

def Phase.holds : Phase → Bool
  | .evicting _ _ | .connecting | .discarding _ _ | .refusing _ | .closingReleased _ => true
  | _ => false

-- Phases that a closed pool has no call in, and the one that only a closed pool has.
def Phase.opens : Phase → Bool
  | .evicting _ _ | .connecting | .discarding _ _ => true
  | _ => false

def Phase.since : Phase → Option Nat
  | .waiting since | .taken _ _ since | .discarding _ since => some since
  | _ => none

structure Sound (settings : Settings) (s : Pool) : Prop where
  held : ∀ id phase, s.tasks.get id = some phase → phase.holds = true → s.lock = some id
  opens : ∀ id phase, s.tasks.get id = some phase → phase.opens = true → s.closed = false
  drained : ∀ id, s.tasks.get id = some .draining → s.closed = true
  bounded : 0 ≤ s.total ∧ s.total ≤ max settings.maxSize 0
  connects : ∀ id, s.tasks.get id = some .connecting → s.total < settings.maxSize
  counted : s.closed = false → s.total = s.leased + s.idle + s.lost ∧ s.inUse = s.leased
  noted : ∀ id phase since, s.tasks.get id = some phase → phase.since = some since → since ≤ s.drops
  waits : ∀ id, s.tasks.get id = some (.waiting s.drops) → s.closed = false → settings.maxSize ≤ s.total

-- What a step takes from one place it puts in another, as far as the pool is open.
structure Balanced (settings : Settings) (s next : Pool) (old new : Phase) : Prop where
  least : 0 ≤ next.total
  most : next.total ≤ max settings.maxSize 0
  sum : s.closed = false → next.total + old.leases.toNat + old.carries.toNat + s.available.length + s.lost =
    s.total + new.leases.toNat + new.carries.toNat + next.available.length + next.lost
  usage : s.closed = false → next.inUse + old.leases.toNat = s.inUse + new.leases.toNat
  drops : s.drops ≤ next.drops
  kept : s.closed = false → next.drops = s.drops → s.total ≤ next.total

-- A step that moves one call on: either it leaves the lock alone and the total of an open pool, or
-- no other call has the lock.
theorem Sound.moves {settings : Settings} {s next : Pool} {id : Nat} {old phase : Phase} (sound : Sound settings s)
    (before : s.tasks.get id = some old) (tasks : next.tasks = s.tasks.set id phase) (closed : next.closed = s.closed)
    (balanced : Balanced settings s next old phase)
    (quiet : (next.lock = s.lock ∧ (next.total = s.total ∨ s.closed = true)) ∨ s.lock = none ∨ s.lock = some id)
    (locked : phase.holds = true → next.lock = some id) (opens : phase.opens = true → s.closed = false)
    (drains : phase = .draining → s.closed = true) (room : phase = .connecting → next.total < settings.maxSize)
    (waits : ∀ since, phase.since = some since → since ≤ next.drops ∧ (phase = .waiting next.drops → settings.maxSize ≤ next.total)) :
    Sound settings next := by
  have other : ∀ id' waiting, next.tasks.get id' = some waiting →
      (id' = id ∧ waiting = phase) ∨ (id' ≠ id ∧ s.tasks.get id' = some waiting) := by
    intro id' waiting found
    rw [tasks,Dict.get_set] at found
    split at found
    · rename_i same
      exact .inl ⟨same.symm,(Option.some.inj found).symm⟩
    · rename_i different
      exact .inr ⟨Ne.symm different,found⟩
  -- A call that holds the lock is undisturbed by the others.
  have holder : ∀ id' waiting, id' ≠ id → s.tasks.get id' = some waiting → waiting.holds = true →
      next.lock = s.lock ∧ (next.total = s.total ∨ s.closed = true) := by
    intro id' waiting different found holds
    have mine := sound.held id' waiting found holds
    rcases quiet with still | free | own
    · exact still
    · rw [free] at mine
      cases mine
    · rw [own] at mine
      exact absurd (Option.some.inj mine).symm different
  refine ⟨?_,?_,?_,⟨balanced.least,balanced.most⟩,?_,?_,?_,?_⟩
  · intro id' waiting found holds
    rcases other id' waiting found with ⟨rfl,rfl⟩ | ⟨different,stored⟩
    · exact locked holds
    · rw [(holder id' waiting different stored holds).1]
      exact sound.held id' waiting stored holds
  · intro id' waiting found isOpen
    rw [closed]
    rcases other id' waiting found with ⟨rfl,rfl⟩ | ⟨_,stored⟩
    · exact opens isOpen
    · exact sound.opens id' waiting stored isOpen
  · intro id' found
    rw [closed]
    rcases other id' .draining found with ⟨rfl,same⟩ | ⟨_,stored⟩
    · exact drains same.symm
    · exact sound.drained id' stored
  · intro id' found
    rcases other id' .connecting found with ⟨rfl,same⟩ | ⟨different,stored⟩
    · exact room same.symm
    · rcases (holder id' .connecting different stored rfl).2 with same | ended
      · rw [same]
        exact sound.connects id' stored
      · rw [sound.opens id' .connecting stored rfl] at ended
        cases ended
  · intro isOpen
    rw [closed] at isOpen
    obtain ⟨sum,usage⟩ := sound.counted isOpen
    have leased := Dict.countP_set s.tasks Phase.leases id phase
    have carried := Dict.countP_set s.tasks Phase.carries id phase
    have moved := balanced.sum isOpen
    have used := balanced.usage isOpen
    rw [before,Option.any_some] at leased carried
    simp only [Pool.leased,Pool.idle,Pool.carried,tasks,Int.natCast_add] at sum usage ⊢
    constructor
    · omega
    · omega
  · intro id' waiting since found noted
    rcases other id' waiting found with ⟨rfl,rfl⟩ | ⟨_,stored⟩
    · exact (waits since noted).1
    · exact Nat.le_trans (sound.noted id' waiting since stored noted) balanced.drops
  · intro id' found isOpen
    rw [closed] at isOpen
    rcases other id' _ found with ⟨rfl,same⟩ | ⟨_,stored⟩
    · exact (waits next.drops (by rw [← same]; rfl)).2 same.symm
    · have bound := sound.noted id' _ next.drops stored rfl
      have unchanged : next.drops = s.drops := Nat.le_antisymm bound balanced.drops
      rw [unchanged] at stored
      exact Int.le_trans (sound.waits id' stored isOpen) (balanced.kept isOpen unchanged)

-- A new call.
theorem Sound.arrives {settings : Settings} {s : Pool} {id : Nat} {phase : Phase} (sound : Sound settings s)
    (fresh : s.tasks.get id = none) (plain : phase = .acquiring ∨ phase = .closing) : Sound settings (s.goes id phase) := by
  have other : ∀ id' waiting, (s.goes id phase).tasks.get id' = some waiting → waiting = phase ∨ s.tasks.get id' = some waiting := by
    intro id' waiting found
    simp only [Pool.goes,Dict.get_set] at found
    split at found
    · exact .inl (Option.some.inj found).symm
    · exact .inr found
  refine ⟨?_,?_,?_,sound.bounded,?_,?_,?_,?_⟩
  · intro id' waiting found holds
    rcases other id' waiting found with rfl | stored
    · rcases plain with rfl | rfl <;> cases holds
    · exact sound.held id' waiting stored holds
  · intro id' waiting found isOpen
    rcases other id' waiting found with rfl | stored
    · rcases plain with rfl | rfl <;> cases isOpen
    · exact sound.opens id' waiting stored isOpen
  · intro id' found
    rcases other id' _ found with rfl | stored
    · rcases plain with impossible | impossible <;> cases impossible
    · exact sound.drained id' stored
  · intro id' found
    rcases other id' _ found with rfl | stored
    · rcases plain with impossible | impossible <;> cases impossible
    · exact sound.connects id' stored
  · intro isOpen
    obtain ⟨sum,usage⟩ := sound.counted isOpen
    have leased := Dict.countP_set s.tasks Phase.leases id phase
    have carried := Dict.countP_set s.tasks Phase.carries id phase
    rw [fresh] at leased carried
    have unleased : phase.leases = false := by rcases plain with rfl | rfl <;> rfl
    have uncarried : phase.carries = false := by rcases plain with rfl | rfl <;> rfl
    simp only [unleased,uncarried,Option.any_none,Bool.toNat_false] at leased carried
    simp only [Pool.leased,Pool.idle,Pool.carried,Pool.goes] at sum usage ⊢
    constructor
    · omega
    · omega
  · intro id' waiting since found noted
    rcases other id' waiting found with rfl | stored
    · rcases plain with rfl | rfl <;> cases noted
    · exact sound.noted id' waiting since stored noted
  · intro id' found
    rcases other id' _ found with same | stored
    · rcases plain with rfl | rfl <;> cases same
    · exact sound.waits id' stored

theorem Sound.takesLock {settings : Settings} {s : Pool} (sound : Sound settings s) (free : s.lock = none) (id : Nat) :
    Sound settings {s with lock := some id} := by
  refine ⟨?_,sound.opens,sound.drained,sound.bounded,sound.connects,sound.counted,sound.noted,sound.waits⟩
  intro other phase found holds
  have mine := sound.held other phase found holds
  rw [free] at mine
  cases mine

-- A waiter that dropped a transport itself waits again.
theorem dropped_waits {s : Pool} {since : Nat} {bound : Prop} (noted : since ≤ s.drops) (other : Nat)
    (same : (Phase.waiting since).since = some other) : other ≤ s.drops + 1 ∧ (Phase.waiting since = .waiting (s.drops + 1) → bound) := by
  cases same
  refine ⟨Nat.le_succ_of_le noted,?_⟩
  intro later
  injection later with later
  omega

section Locked
variable {settings : Settings} {s : Pool} {id : Nat} (sound : Sound settings s) (mine : s.lock = some id)

include sound mine

theorem scan_sound (isOpen : s.closed = false) (found : s.tasks.get id = some .acquiring) (now : Int) :
    Sound settings (s.scan settings id now) := by
  have lengths : (s.available.takeWhile (s.dead settings now)).length + (s.available.dropWhile (s.dead settings now)).length =
      s.available.length := by
    rw [← List.length_append,List.takeWhile_append_dropWhile]
  obtain ⟨sum,usage⟩ := sound.counted isOpen
  obtain ⟨least,most⟩ := sound.bounded
  have room : ((s.available.takeWhile (s.dead settings now)).length : Int) ≤ s.total := by
    simp only [Pool.idle] at sum
    omega
  unfold Pool.scan
  simp only
  generalize (s.available.takeWhile (s.dead settings now)).length = dead at lengths room ⊢
  split
  · rename_i transport lastUsed rest shape
    rw [shape,List.length_cons] at lengths
    split
    · refine sound.moves found rfl rfl ?_ (.inr (.inr mine)) (fun _ => mine) (fun _ => isOpen) (fun drains => by cases drains)
        (fun connects => by cases connects) (fun _ waits => by cases waits)
      constructor <;> simp [Pool.goes,Phase.leases,Phase.carries] <;> omega
    · refine sound.moves found rfl rfl ?_ (.inr (.inr mine)) (fun holds => by cases holds) (fun opens => by cases opens)
        (fun drains => by cases drains) (fun connects => by cases connects) (fun _ waits => by cases waits)
      constructor <;> simp [Pool.unlocks,Pool.goes,Phase.leases,Phase.carries] <;> omega
  · rename_i shape
    rw [shape,List.length_nil] at lengths
    split
    · rename_i free
      refine sound.moves found rfl rfl ?_ (.inr (.inr mine)) (fun _ => mine) (fun _ => isOpen) (fun drains => by cases drains)
        (fun _ => free) (fun _ waits => by cases waits)
      constructor <;> simp [Pool.goes,Phase.leases,Phase.carries,shape] <;> omega
    · rename_i full
      refine sound.moves found rfl rfl ?_ (.inr (.inr mine)) (fun holds => by cases holds) (fun opens => by cases opens)
        (fun drains => by cases drains) (fun connects => by cases connects) ?_
      · constructor <;> simp [Pool.unlocks,Pool.goes,Phase.leases,Phase.carries,shape] <;> omega
      · intro since noted
        cases noted
        exact ⟨Nat.le_refl _,fun _ => Int.not_lt.mp full⟩

theorem acquireLocked_sound (found : s.tasks.get id = some .acquiring) (now : Int) : Sound settings (s.acquireLocked settings id now) := by
  obtain ⟨least,most⟩ := sound.bounded
  unfold Pool.acquireLocked
  split
  · refine sound.moves found rfl rfl ?_ (.inr (.inr mine)) (fun holds => by cases holds) (fun opens => by cases opens)
      (fun drains => by cases drains) (fun connects => by cases connects) (fun _ waits => by cases waits)
    constructor <;> simp [Pool.unlocks,Pool.goes,Phase.leases,Phase.carries] <;> omega
  · rename_i isOpen
    exact scan_sound sound mine (by simpa using isOpen) found now

theorem takenLocked_sound {transport : Nat} {lastUsed : Int} {since : Nat} (found : s.tasks.get id = some (.taken transport lastUsed since))
    (now : Int) : Sound settings (s.takenLocked settings id transport lastUsed since now) := by
  obtain ⟨least,most⟩ := sound.bounded
  have noted := sound.noted id _ since found rfl
  unfold Pool.takenLocked
  split
  · rename_i closed
    refine sound.moves found rfl rfl ?_ (.inr (.inr mine)) (fun _ => mine) (fun opens => by cases opens)
      (fun drains => by cases drains) (fun connects => by cases connects) (fun _ waits => by cases waits)
    constructor <;> simp [Pool.goes,Phase.leases,Phase.carries,closed] <;> omega
  · rename_i isOpen
    have isOpen : s.closed = false := by simpa using isOpen
    obtain ⟨sum,usage⟩ := sound.counted isOpen
    have counted := Dict.countP_set s.tasks Phase.carries id .ended
    simp only [found,Option.any_some,Phase.carries,Bool.toNat_true,Bool.toNat_false,Nat.add_zero] at counted
    simp only [Pool.idle,Pool.carried,← counted,Int.natCast_add] at sum
    split
    · refine sound.moves found rfl rfl ?_ (.inr (.inr mine)) (fun _ => mine) (fun _ => isOpen)
        (fun drains => by cases drains) (fun connects => by cases connects) ?_
      · constructor <;> simp [Pool.goes,Phase.leases,Phase.carries] <;> omega
      · intro other same
        cases same
        exact ⟨noted,fun waits => by cases waits⟩
    · split
      · refine sound.moves found rfl rfl ?_ (.inr (.inr mine)) (fun holds => by cases holds) (fun opens => by cases opens)
          (fun drains => by cases drains) (fun connects => by cases connects) (dropped_waits noted)
        constructor <;> simp [Pool.unlocks,Pool.goes,Phase.leases,Phase.carries] <;> omega
      · refine sound.moves found rfl rfl ?_ (.inr (.inr mine)) (fun holds => by cases holds) (fun opens => by cases opens)
          (fun drains => by cases drains) (fun connects => by cases connects) (fun _ waits => by cases waits)
        constructor <;> simp [Pool.unlocks,Pool.goes,Phase.leases,Phase.carries] <;> omega

theorem releaseLocked_sound {transport : Nat} (found : s.tasks.get id = some (.releasing transport)) (now : Int) :
    Sound settings (s.releaseLocked id transport now) := by
  obtain ⟨least,most⟩ := sound.bounded
  unfold Pool.releaseLocked
  simp only
  split
  · rename_i closed
    refine sound.moves found rfl rfl ?_ (.inr (.inr mine)) (fun _ => mine) (fun opens => by cases opens)
      (fun drains => by cases drains) (fun connects => by cases connects) (fun _ noted => by cases noted)
    constructor <;> simp [Pool.goes,Phase.leases,Phase.carries,closed] <;> omega
  · rename_i isOpen
    have isOpen : s.closed = false := by simpa using isOpen
    obtain ⟨sum,usage⟩ := sound.counted isOpen
    have counted := Dict.countP_set s.tasks Phase.leases id .ended
    simp only [found,Option.any_some,Phase.leases,Bool.toNat_true,Bool.toNat_false,Nat.add_zero] at counted
    simp only [Pool.leased,← counted,Int.natCast_add] at sum
    split
    · refine sound.moves found rfl rfl ?_ (.inr (.inr mine)) (fun holds => by cases holds) (fun opens => by cases opens)
        (fun drains => by cases drains) (fun connects => by cases connects) (fun _ noted => by cases noted)
      constructor <;> simp [Pool.unlocks,Pool.goes,Phase.leases,Phase.carries] <;> omega
    · refine sound.moves found rfl rfl ?_ (.inr (.inr mine)) (fun holds => by cases holds) (fun opens => by cases opens)
        (fun drains => by cases drains) (fun connects => by cases connects) (fun _ noted => by cases noted)
      constructor <;> simp [Pool.unlocks,Pool.goes,Phase.leases,Phase.carries] <;> omega
end Locked

theorem drain_sound {settings : Settings} {s : Pool} {id : Nat} {old : Phase} (sound : Sound settings s) (closed : s.closed = true)
    (found : s.tasks.get id = some old) : Sound settings (s.drain id) := by
  obtain ⟨least,most⟩ := sound.bounded
  unfold Pool.drain
  split
  · refine sound.moves found rfl rfl ?_ (.inl ⟨rfl,.inr closed⟩) (fun holds => by cases holds) (fun opens => by cases opens)
      (fun drains => by cases drains) (fun connects => by cases connects) (fun _ noted => by cases noted)
    constructor <;> simp [Pool.goes,closed,Int.le_max_right]
  · refine sound.moves found rfl rfl ?_ (.inl ⟨rfl,.inr closed⟩) (fun holds => by cases holds) (fun opens => by cases opens)
      (fun _ => closed) (fun connects => by cases connects) (fun _ noted => by cases noted)
    constructor <;> simp [Pool.goes,closed,least,most]

-- `close` marks the pool while no call is under the lock.
theorem closeLocked_sound {settings : Settings} {s : Pool} {id : Nat} {old : Phase} (sound : Sound settings s) (free : s.lock = none)
    (found : s.tasks.get id = some old) : Sound settings (Pool.closeLocked {s with lock := some id} id) := by
  have unheld : ∀ other phase, s.tasks.get other = some phase → phase.holds ≠ true := by
    intro other phase stored holds
    have mine := sound.held other phase stored holds
    rw [free] at mine
    cases mine
  have marked : Sound settings {s with closed := true,lock := none} := by
    refine ⟨?_,?_,fun _ _ => rfl,sound.bounded,?_,?_,sound.noted,?_⟩
    · intro other phase stored holds
      exact absurd holds (unheld other phase stored)
    · intro other phase stored opens
      refine absurd ?_ (unheld other phase stored)
      cases phase <;> first | rfl | cases opens
    · intro other stored
      exact absurd rfl (unheld other .connecting stored)
    · intro isOpen
      cases isOpen
    · intro _ _ isOpen
      cases isOpen
  exact drain_sound marked rfl found

theorem locked_sound {settings : Settings} {s next : Pool} {id : Nat} {now : Int} {phase : Phase} (sound : Sound settings s)
    (free : s.lock = none) (found : s.tasks.get id = some phase) (taken : s.locked settings id now phase = some next) :
    Sound settings next := by
  have locked := sound.takesLock free id
  unfold Pool.locked at taken
  split at taken
  · cases taken
    exact acquireLocked_sound locked rfl found now
  · cases taken
    exact takenLocked_sound locked rfl found now
  · cases taken
    exact releaseLocked_sound locked rfl found now
  · cases taken
    exact closeLocked_sound sound free found
  · cases taken

-- While a call has a transport in its hands the pool counts it.
theorem carried_total {settings : Settings} {s : Pool} {id : Nat} {phase : Phase} (sound : Sound settings s) (isOpen : s.closed = false)
    (found : s.tasks.get id = some phase) (carries : phase.carries = true) : 1 ≤ s.total := by
  obtain ⟨sum,_⟩ := sound.counted isOpen
  have counted := Dict.countP_set s.tasks Phase.carries id .ended
  simp only [found,Option.any_some,carries,ended_carries,Bool.toNat_true,Bool.toNat_false] at counted
  simp only [Pool.idle,Pool.carried] at sum
  omega

theorem transportClosed_sound {settings : Settings} {s next : Pool} {id : Nat} {phase : Phase} (sound : Sound settings s)
    (found : s.tasks.get id = some phase) (taken : s.transportClosed settings id phase = some next) : Sound settings next := by
  obtain ⟨least,most⟩ := sound.bounded
  unfold Pool.transportClosed at taken
  split at taken
  · rename_i transport now
    cases taken
    have mine := sound.held id _ found rfl
    have isOpen := sound.opens id _ found rfl
    have positive := carried_total sound isOpen found rfl
    have evicted : Sound settings (Pool.goes {s with
        total := s.total - 1,drops := s.drops + 1,down := transport :: s.down} id .acquiring) := by
      refine sound.moves found rfl rfl ?_ (.inr (.inr mine)) (fun holds => by cases holds) (fun opens => by cases opens)
        (fun drains => by cases drains) (fun connects => by cases connects) (fun _ noted => by cases noted)
      constructor <;> simp [Pool.goes,Phase.leases,Phase.carries] <;> omega
    exact scan_sound evicted mine isOpen (Dict.get_set_self _ _ _) now
  · rename_i transport since
    cases taken
    have mine := sound.held id _ found rfl
    have isOpen := sound.opens id _ found rfl
    have positive := carried_total sound isOpen found rfl
    refine sound.moves found rfl rfl ?_ (.inr (.inr mine)) (fun holds => by cases holds) (fun opens => by cases opens)
      (fun drains => by cases drains) (fun connects => by cases connects) (dropped_waits (sound.noted id _ since found rfl))
    constructor <;> simp [Pool.unlocks,Pool.goes,Phase.leases,Phase.carries] <;> omega
  · cases taken
    refine sound.moves found rfl rfl ?_ (.inr (.inr (sound.held id _ found rfl))) (fun holds => by cases holds)
      (fun opens => by cases opens) (fun drains => by cases drains) (fun connects => by cases connects) (fun _ noted => by cases noted)
    constructor <;> simp [Pool.unlocks,Pool.goes,Phase.leases,Phase.carries] <;> omega
  · cases taken
    refine sound.moves found rfl rfl ?_ (.inr (.inr (sound.held id _ found rfl))) (fun holds => by cases holds)
      (fun opens => by cases opens) (fun drains => by cases drains) (fun connects => by cases connects) (fun _ noted => by cases noted)
    constructor <;> simp [Pool.unlocks,Pool.goes,Phase.leases,Phase.carries] <;> omega
  · cases taken
    exact drain_sound sound (sound.drained id found) found
  · cases taken

theorem transportRaises_sound {settings : Settings} {s next : Pool} {id : Nat} {phase : Phase} (sound : Sound settings s)
    (found : s.tasks.get id = some phase) (taken : s.transportRaises id phase = some next) : Sound settings next := by
  obtain ⟨least,most⟩ := sound.bounded
  have unlocks (lost : Nat) (holds : phase.holds = true) (keeps : phase.leases = false)
      (slots : phase.carries.toNat + s.lost = lost) :
      Sound settings (Pool.unlocks {s with lost := lost} id .ended) := by
    refine sound.moves found rfl rfl ?_ (.inr (.inr (sound.held id phase found holds))) (fun holds => by cases holds)
      (fun opens => by cases opens) (fun drains => by cases drains) (fun connects => by cases connects) (fun _ noted => by cases noted)
    constructor <;> simp [Pool.unlocks,Pool.goes,keeps] <;> omega
  unfold Pool.transportRaises at taken
  split at taken
  · cases taken
    exact unlocks (s.lost + 1) rfl rfl (Nat.add_comm _ _)
  · cases taken
    exact unlocks (s.lost + 1) rfl rfl (Nat.add_comm _ _)
  · cases taken
    exact unlocks s.lost rfl rfl (Nat.zero_add _)
  · cases taken
    exact unlocks s.lost rfl rfl (Nat.zero_add _)
  · cases taken
    have closed := sound.drained id found
    refine sound.moves found rfl rfl ?_ (.inl ⟨rfl,.inl rfl⟩) (fun holds => by cases holds) (fun opens => by cases opens)
      (fun drains => by cases drains) (fun connects => by cases connects) (fun _ noted => by cases noted)
    constructor <;> simp [Pool.goes,closed] <;> omega
  · cases taken

theorem next_sound {settings : Settings} {s next : Pool} {event : Event} (sound : Sound settings s)
    (taken : s.next settings event = some next) : Sound settings next := by
  obtain ⟨least,most⟩ := sound.bounded
  cases event with
  | acquire id =>
    simp only [Pool.next] at taken
    split at taken
    · rename_i fresh
      cases taken
      exact sound.arrives fresh (.inl rfl)
    · cases taken
  | close id =>
    simp only [Pool.next] at taken
    split at taken
    · rename_i fresh
      cases taken
      exact sound.arrives fresh (.inr rfl)
    · cases taken
  | release id =>
    simp only [Pool.next] at taken
    split at taken
    · rename_i transport found
      cases taken
      refine sound.moves found rfl rfl ?_ (.inl ⟨rfl,.inl rfl⟩) (fun holds => by cases holds) (fun opens => by cases opens)
        (fun drains => by cases drains) (fun connects => by cases connects) (fun _ noted => by cases noted)
      constructor <;> simp [Pool.goes,Phase.leases,Phase.carries] <;> omega
    · cases taken
  | locks id now =>
    simp only [Pool.next] at taken
    split at taken
    · rename_i free
      obtain ⟨phase,found,locked⟩ := Option.bind_eq_some_iff.mp taken
      exact locked_sound sound free found locked
    · cases taken
  | takes id =>
    simp only [Pool.next] at taken
    split at taken
    · rename_i since transport lastUsed rest found shape
      cases taken
      refine sound.moves found rfl rfl ?_ (.inl ⟨rfl,.inl rfl⟩) (fun holds => by cases holds) (fun opens => by cases opens)
        (fun drains => by cases drains) (fun connects => by cases connects) ?_
      · constructor <;> simp [Pool.goes,Phase.leases,Phase.carries,shape] <;> omega
      · intro other same
        cases same
        exact ⟨sound.noted id _ since found rfl,fun waits => by cases waits⟩
    · cases taken
  | connected id =>
    simp only [Pool.next] at taken
    split at taken
    · rename_i found
      cases taken
      have room := sound.connects id found
      refine sound.moves found rfl rfl ?_ (.inr (.inr (sound.held id _ found rfl))) (fun holds => by cases holds)
        (fun opens => by cases opens) (fun drains => by cases drains) (fun connects => by cases connects) (fun _ noted => by cases noted)
      constructor <;> simp [Pool.unlocks,Pool.goes,Phase.leases,Phase.carries] <;> omega
    · cases taken
  | refused id =>
    simp only [Pool.next] at taken
    split at taken
    · rename_i found
      cases taken
      refine sound.moves found rfl rfl ?_ (.inr (.inr (sound.held id _ found rfl))) (fun holds => by cases holds)
        (fun opens => by cases opens) (fun drains => by cases drains) (fun connects => by cases connects) (fun _ noted => by cases noted)
      constructor <;> simp [Pool.unlocks,Pool.goes,Phase.leases,Phase.carries] <;> omega
    · cases taken
  | transportClosed id =>
    obtain ⟨phase,found,closed⟩ := Option.bind_eq_some_iff.mp taken
    exact transportClosed_sound sound found closed
  | transportRaises id =>
    obtain ⟨phase,found,raised⟩ := Option.bind_eq_some_iff.mp taken
    exact transportRaises_sound sound found raised
  | goesDown transport =>
    cases taken
    exact ⟨sound.held,sound.opens,sound.drained,sound.bounded,sound.connects,sound.counted,sound.noted,sound.waits⟩
  | comesUp transport =>
    cases taken
    exact ⟨sound.held,sound.opens,sound.drained,sound.bounded,sound.connects,sound.counted,sound.noted,sound.waits⟩

theorem sound_init (settings : Settings) : Sound settings {} := by
  refine ⟨?_,?_,?_,?_,?_,?_,?_,?_⟩
  · exact fun _ _ found => by cases found
  · exact fun _ _ found => by cases found
  · exact fun _ found => by cases found
  · exact ⟨Int.le_refl _,Int.le_max_right _ _⟩
  · exact fun _ found => by cases found
  · exact fun _ => ⟨rfl,rfl⟩
  · exact fun _ _ _ found => by cases found
  · exact fun _ found => by cases found

theorem run_sound {settings : Settings} {s final : Pool} {events : List Event}
    (run : Runs (Pool.next settings) (fun _ _ => True) s events final) (sound : Sound settings s) : Sound settings final := by
  apply run.invariant (Sound settings)
  · intro s event next _ taken before
    exact next_sound before taken
  · exact sound

-- The accounts of a pool: at any time the total is within the limit and at most one transport is being
-- connected, for a slot that is free; as long as the pool is open the total is what is leased or idle
-- or lost by a close that raised, and a caller waits in vain only while every slot is taken, unless a
-- transport was dropped since it began to wait.
structure Accounts (settings : Settings) (s : Pool) : Prop where
  bounded : 0 ≤ s.total ∧ s.total ≤ max settings.maxSize 0
  connecting : ∀ id, s.tasks.get id = some .connecting →
    s.total < settings.maxSize ∧ ∀ other, s.tasks.get other = some .connecting → other = id
  total : s.closed = false → s.total = s.leased + s.idle + s.lost
  inUse : s.closed = false → s.inUse = s.leased
  blocked : ∀ id, s.tasks.get id = some (.waiting s.drops) → s.closed = false → s.available = [] →
    settings.maxSize ≤ s.leased + s.carried + s.lost

theorem pool_accounts (settings : Settings) (events : List Event) (s : Pool)
    (run : Runs (Pool.next settings) (fun _ _ => True) {} events s) : Accounts settings s := by
  have sound := run_sound run (sound_init settings)
  refine ⟨sound.bounded,?_,fun isOpen => (sound.counted isOpen).1,fun isOpen => (sound.counted isOpen).2,?_⟩
  · intro id found
    refine ⟨sound.connects id found,?_⟩
    intro other second
    have mine := sound.held id _ found rfl
    have theirs := sound.held other _ second rfl
    exact Option.some.inj (theirs.symm.trans mine)
  · intro id waiting isOpen empty
    have full := sound.waits id waiting isOpen
    have sum := (sound.counted isOpen).1
    simp only [Pool.idle,empty,List.length_nil] at sum
    omega

def onePlace : Settings := ⟨1,300⟩

-- One caller has the only slot and the next one waits for it.
def twoCallers : List Event := [.acquire 0,.locks 0 0,.connected 0,.acquire 1,.locks 1 0]

theorem two_callers : (execute (Pool.next onePlace) anyMove {} twoCallers).map (fun s => (s.tasks.get 1,s.available,s.closed)) =
    some (some (.waiting 0),[],false) := by decide

theorem pool_accounts_waiting : ∃ s, Runs (Pool.next onePlace) (fun _ _ => True) {} twoCallers s ∧
    s.tasks.get 1 = some (.waiting 0) ∧ Accounts onePlace s := by
  obtain ⟨s,ran,state⟩ := Option.map_eq_some_iff.mp two_callers
  have run := execute_free ran
  exact ⟨s,run,(Prod.mk.inj state).1,pool_accounts onePlace twoCallers s run⟩

-- A transport that is being connected is not in the total yet; a dead one that is released leaves the
-- other caller waiting for an empty pool; a release after a close makes the count of leases negative
-- and leaves the other caller waiting for a closed one.
theorem one_connecting : (execute (Pool.next onePlace) anyMove {} [.acquire 0,.locks 0 0]).map
    (fun s => (s.total,s.leased,s.idle,s.connecting)) = some (0,0,0,1) := by decide

theorem dead_released : (execute (Pool.next onePlace) anyMove {} (twoCallers ++ ([.goesDown 0,.release 0,.locks 0 0] : List Event))).map
    (fun s => (s.tasks.get 1,s.available,s.leased,s.carried,s.connecting)) = some (some (.waiting 0),[],0,0,0) := by decide

theorem closed_leased : (execute (Pool.next onePlace) anyMove {} (twoCallers ++ ([.close 2,.locks 2 0,.release 0,.locks 0 0] : List Event))).map
    (fun s => (s.inUse,s.tasks.get 1,s.closed)) = some (-1,some (.waiting 0),true) := by decide

theorem pool_accounts_drift :
    (∃ s, Runs (Pool.next onePlace) (fun _ _ => True) {} [.acquire 0,.locks 0 0] s ∧
      s.total ≠ s.leased + s.idle + s.connecting) ∧
    (∃ s, Runs (Pool.next onePlace) (fun _ _ => True) {} (twoCallers ++ ([.goesDown 0,.release 0,.locks 0 0] : List Event)) s ∧
      s.tasks.get 1 = some (.waiting 0) ∧ s.available = [] ∧ s.leased + s.carried + s.connecting = 0) ∧
    ∃ s, Runs (Pool.next onePlace) (fun _ _ => True) {} (twoCallers ++ ([.close 2,.locks 2 0,.release 0,.locks 0 0] : List Event)) s ∧
      s.inUse = -1 ∧ s.tasks.get 1 = some (.waiting 0) ∧ s.closed = true := by
  refine ⟨?_,?_,?_⟩
  · obtain ⟨s,ran,state⟩ := Option.map_eq_some_iff.mp one_connecting
    simp only [Prod.mk.injEq] at state
    obtain ⟨total,leased,idle,connecting⟩ := state
    refine ⟨s,execute_free ran,?_⟩
    rw [total,leased,idle,connecting]
    decide
  · obtain ⟨s,ran,state⟩ := Option.map_eq_some_iff.mp dead_released
    simp only [Prod.mk.injEq] at state
    obtain ⟨waiting,empty,leased,carried,connecting⟩ := state
    exact ⟨s,execute_free ran,waiting,empty,by rw [leased,carried,connecting]⟩
  · obtain ⟨s,ran,state⟩ := Option.map_eq_some_iff.mp closed_leased
    simp only [Prod.mk.injEq] at state
    exact ⟨s,execute_free ran,state⟩

end Asap.WsPool
