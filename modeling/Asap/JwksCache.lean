import Asap.Interleaving
import Mathlib.Algebra.Order.Ring.Rat

-- The one cache slot of `JWKSValidator`, over fetches of any URIs and invalidations.
namespace Asap.JwksCache
open OrderedDict Interleaving

def jwksCacheTtlSeconds : Rat := 86400

variable {KeySet : Type}

-- A key set with where it comes from: its URI, how many invalidations had completed when its fetch
-- began, and when it arrived. The code keeps the key set alone.
structure Fetched (KeySet : Type) where
  keySet : KeySet
  uri : String
  begun : Nat
  arrivedAt : Rat

-- `_JWKSCacheEntry`, made as its key set arrives.
structure CacheEntry (KeySet : Type) where
  fetched : Fetched KeySet

def CacheEntry.expiresAt (entry : CacheEntry KeySet) : Rat := entry.fetched.arrivedAt + jwksCacheTtlSeconds

def CacheEntry.isExpired (entry : CacheEntry KeySet) (now : Rat) : Bool := decide (entry.expiresAt ≤ now)

structure Validator (KeySet : Type) where
  jwksUri : String
  keySet : Option (Fetched KeySet) := none
  keysCache : Option (CacheEntry KeySet) := none
  invalidations : Nat := 0

-- A call of `fetch_keys` before its look at the cache and while it waits for its fetch, or a call of
-- `invalidate_cache`. What the lock guards awaits nothing, so no call ever waits for the lock.
inductive Task where
  | calling (jwksUri : Option String)
  | fetching (uri : String) (begun : Nat)
  | invalidating
  | answered
  deriving DecidableEq

-- The clock, and what the fetch comes to: a key set, or an exception.
structure Input (KeySet : Type) where
  now : Rat
  response : Option KeySet

-- A key set that a call for a URI returns: one it fetched itself, or one from the cache.
structure Returned (KeySet : Type) where
  uri : String
  now : Rat
  fetched : Fetched KeySet
  cached : Bool
  invalidations : Nat

def uriOf (s : Validator KeySet) : Option String → String
  | none => s.jwksUri
  | some uri => if uri = "" then s.jwksUri else uri

-- The entry that a call for a URI is answered with.
def lookUp (s : Validator KeySet) (uri : String) (now : Rat) : Option (CacheEntry KeySet) :=
  match s.keysCache with
  | some entry => if entry.isExpired now = false ∧ uri = s.jwksUri then some entry else none
  | none => none

def fetchKeys (s : Validator KeySet) (uri : String) (now : Rat) : Validator KeySet × Task × List (Returned KeySet) :=
  match lookUp s uri now with
  | some entry => ({ s with keySet := some entry.fetched },.answered,[⟨uri,now,entry.fetched,true,s.invalidations⟩])
  | none => (s,.fetching uri s.invalidations,[])

-- The slot is written whatever was fetched, and whatever has happened since.
def store (s : Validator KeySet) (uri : String) (begun : Nat) (keySet : KeySet) (now : Rat) : Validator KeySet × Task × List (Returned KeySet) :=
  let fetched := ⟨keySet,uri,begun,now⟩
  ({ s with keysCache := some ⟨fetched⟩,keySet := some fetched },.answered,[⟨uri,now,fetched,false,s.invalidations⟩])

def advance (s : Validator KeySet) (task : Task) (input : Input KeySet) : Option (Validator KeySet × Task × List (Returned KeySet)) :=
  match task with
  | .calling jwksUri => some (fetchKeys s (uriOf s jwksUri) input.now)
  | .fetching uri begun =>
    match input.response with
    | some keySet => some (store s uri begun keySet input.now)
    | none => some (s,.answered,[])
  | .invalidating => some ({ s with keysCache := none,keySet := none,invalidations := s.invalidations + 1 },.answered,[])
  | .answered => none

def Task.arrives : Task → Bool
  | .calling _ | .invalidating => true
  | _ => false

def program : Program (Validator KeySet) Task (Input KeySet) (Returned KeySet) where
  arrives := Task.arrives
  advance := advance

abbrev State (KeySet : Type) := Machine (Validator KeySet) Task (Returned KeySet)

-- A key set of the URI it was asked for, fetched by this call, or at most the TTL before it and in a
-- fetch that no invalidation has overtaken.
def Returned.faithful (returned : Returned KeySet) : Bool :=
  decide (returned.fetched.uri = returned.uri) &&
    (!returned.cached || (decide (returned.now ≤ returned.fetched.arrivedAt + jwksCacheTtlSeconds) &&
      decide (returned.fetched.begun = returned.invalidations)))

-- An entry of the validator's own URI, from a fetch that no invalidation has overtaken.
def Own (s : Validator KeySet) (fetched : Fetched KeySet) : Prop := fetched.uri = s.jwksUri ∧ fetched.begun = s.invalidations

-- No call is answered with an entry of another URI, or of an overtaken fetch.
def Trusts (m : State KeySet) : Move Task (Input KeySet) → Prop
  | .arrive _ _ => True
  | .proceed id input => ∀ jwksUri entry, m.tasks.get id = some (.calling jwksUri) →
      lookUp m.store (uriOf m.store jwksUri) input.now = some entry → Own m.store entry.fetched

-- No fetch of another URI arrives, and none that an invalidation has overtaken.
def Clean (m : State KeySet) : Move Task (Input KeySet) → Prop
  | .arrive _ _ => True
  | .proceed id input => ∀ uri begun, m.tasks.get id = some (.fetching uri begun) → input.response.isSome = true →
      uri = m.store.jwksUri ∧ begun = m.store.invalidations

section Faithful
variable {s : Validator KeySet}

theorem lookUp_some {uri : String} {now : Rat} {entry : CacheEntry KeySet} (found : lookUp s uri now = some entry) :
    s.keysCache = some entry ∧ now < entry.fetched.arrivedAt + jwksCacheTtlSeconds ∧ uri = s.jwksUri := by
  unfold lookUp at found
  cases kept : s.keysCache with
  | none =>
    rw [kept] at found
    cases found
  | some stored =>
    rw [kept] at found
    simp only at found
    split at found
    · rename_i usable
      cases found
      refine ⟨rfl,?_,usable.2⟩
      exact not_le.mp (of_decide_eq_false usable.1)
    · cases found

-- A cached answer is in time and for the validator's URI: what remains is whose it is.
theorem cached_faithful {uri : String} {now : Rat} {entry : CacheEntry KeySet} (found : lookUp s uri now = some entry) :
    (Returned.mk uri now entry.fetched true s.invalidations).faithful = true ↔ Own s entry.fetched := by
  obtain ⟨_,within,own⟩ := lookUp_some found
  simp [Returned.faithful,Own,within.le,own]

theorem fetched_faithful (uri : String) (now : Rat) (keySet : KeySet) (begun invalidations : Nat) :
    (Returned.mk uri now ⟨keySet,uri,begun,now⟩ false invalidations).faithful = true := by
  simp [Returned.faithful]

-- What one step returns is faithful exactly if the step trusts no entry it should not.
theorem advance_faithful {next : Validator KeySet} {task later : Task} {input : Input KeySet} {events : List (Returned KeySet)}
    (advanced : advance s task input = some (next,later,events)) :
    (∀ returned ∈ events, returned.faithful = true) ↔
      ∀ jwksUri entry, task = .calling jwksUri → lookUp s (uriOf s jwksUri) input.now = some entry → Own s entry.fetched := by
  cases task with
  | calling jwksUri =>
    unfold advance fetchKeys at advanced
    dsimp only at advanced
    cases found : lookUp s (uriOf s jwksUri) input.now with
    | some entry =>
      rw [found] at advanced
      cases advanced
      rw [List.forall_mem_singleton,cached_faithful found]
      constructor
      · intro own _ other same again
        cases same
        cases found.symm.trans again
        exact own
      · exact fun own => own jwksUri entry rfl found
    | none =>
      rw [found] at advanced
      cases advanced
      refine ⟨fun _ _ _ same again => ?_,fun _ _ member => by cases member⟩
      cases same
      cases found.symm.trans again
  | fetching uri begun =>
    refine ⟨fun _ _ _ same => (by cases same),fun _ => ?_⟩
    unfold advance at advanced
    dsimp only at advanced
    cases response : input.response with
    | some keySet =>
      rw [response] at advanced
      cases advanced
      exact List.forall_mem_singleton.mpr (fetched_faithful uri input.now keySet begun s.invalidations)
    | none =>
      rw [response] at advanced
      cases advanced
      exact fun _ member => by cases member
  | invalidating =>
    cases advanced
    exact ⟨fun _ _ _ same => (by cases same),fun _ _ member => (by cases member)⟩
  | answered => cases advanced

def failures (m : State KeySet) : Nat := m.log.countP (fun returned => !returned.faithful)

theorem next_failures (m : State KeySet) (move : Move Task (Input KeySet)) (next : State KeySet) (taken : program.next m move = some next) :
    failures m ≤ failures next ∧ (Trusts m move ↔ failures next = failures m) := by
  cases move with
  | arrive id task =>
    obtain ⟨_,_,rfl⟩ := Program.next_arrive program m next id task taken
    exact ⟨Nat.le_refl _,fun _ => rfl,fun _ => trivial⟩
  | proceed id input =>
    obtain ⟨task,store,task',events,known,advanced,rfl⟩ := Program.next_proceed program m next id input taken
    have faithful := advance_faithful advanced
    have trusts : Trusts m (.proceed id input) ↔ ∀ returned ∈ events, returned.faithful = true := by
      rw [faithful]
      simp only [Trusts,known,Option.some.injEq]
    rw [trusts]
    simp [failures,List.countP_append,List.countP_eq_zero]

-- Where only clean fetches arrive, the slot holds an entry of the validator's own.
def Kept (m : State KeySet) : Prop :=
  (∀ entry, m.store.keysCache = some entry → Own m.store entry.fetched) ∧ ∀ returned ∈ m.log, returned.faithful = true

theorem advance_kept {next : Validator KeySet} {task later : Task} {input : Input KeySet} {events : List (Returned KeySet)}
    (own : ∀ entry, s.keysCache = some entry → Own s entry.fetched)
    (clean : ∀ uri begun, task = .fetching uri begun → input.response.isSome = true → uri = s.jwksUri ∧ begun = s.invalidations)
    (advanced : advance s task input = some (next,later,events)) : ∀ entry, next.keysCache = some entry → Own next entry.fetched := by
  cases task with
  | calling jwksUri =>
    unfold advance fetchKeys at advanced
    dsimp only at advanced
    split at advanced
    · cases advanced
      exact own
    · cases advanced
      exact own
  | fetching uri begun =>
    unfold advance at advanced
    dsimp only at advanced
    cases response : input.response with
    | some keySet =>
      rw [response] at advanced
      cases advanced
      intro entry stored
      cases stored
      exact clean uri begun rfl (by rw [response]; rfl)
    | none =>
      rw [response] at advanced
      cases advanced
      exact own
  | invalidating =>
    cases advanced
    exact fun entry stored => by cases stored
  | answered => cases advanced

theorem next_kept (m : State KeySet) (move : Move Task (Input KeySet)) (next : State KeySet) (clean : Clean m move)
    (taken : program.next m move = some next) (kept : Kept m) : Kept next := by
  cases move with
  | arrive id task =>
    obtain ⟨_,_,rfl⟩ := Program.next_arrive program m next id task taken
    exact kept
  | proceed id input =>
    obtain ⟨task,store,task',events,known,advanced,rfl⟩ := Program.next_proceed program m next id input taken
    refine ⟨advance_kept kept.1 (fun uri begun same => clean uri begun (by rw [known,same])) advanced,?_⟩
    intro returned member
    rcases List.mem_append.mp member with earlier | new
    · exact kept.2 returned earlier
    · refine (advance_faithful advanced).mpr ?_ returned new
      exact fun jwksUri entry _ found => kept.1 entry (lookUp_some found).1

-- Every key set returned in a run is faithful exactly if no call trusts an entry of another URI or of an
-- overtaken fetch, and so in every run in which none of these arrives.
theorem keys_faithful_iff (jwksUri : String) (moves : List (Move Task (Input KeySet))) (final : State KeySet)
    (run : Runs program.next (fun _ _ => True) (Machine.init { jwksUri }) moves final) :
    ((∀ returned ∈ final.log, returned.faithful = true) ↔ Runs program.next Trusts (Machine.init { jwksUri }) moves final) ∧
    (Runs program.next Clean (Machine.init { jwksUri }) moves final → ∀ returned ∈ final.log, returned.faithful = true) := by
  have measured := (run.measured next_failures).2
  constructor
  · rw [measured]
    simp [failures,Machine.init,List.countP_eq_zero]
  · intro clean
    refine (clean.invariant Kept next_kept ⟨?_,?_⟩).2
    · exact fun entry stored => by cases stored
    · exact fun returned member => by cases member
end Faithful

def Returned.shown (returned : Returned Nat) : String × Nat × Bool × Bool :=
  (returned.uri,returned.fetched.keySet,returned.cached,returned.faithful)

def log (moves : List (Move Task (Input Nat))) : Option (List (String × Nat × Bool × Bool)) :=
  (execute program.next anyMove (Machine.init { jwksUri := "idp" }) moves).map (fun final => final.log.map Returned.shown)

theorem run_of_log {moves : List (Move Task (Input Nat))} {shown : List (String × Nat × Bool × Bool)} (logged : log moves = some shown) :
    ∃ final : State Nat, Runs program.next (fun _ _ => True) (Machine.init { jwksUri := "idp" }) moves final ∧
      final.log.map Returned.shown = shown := by
  obtain ⟨final,ran,same⟩ := Option.map_eq_some_iff.mp logged
  exact ⟨final,execute_free ran,same⟩

-- Fetched, answered from the cache in its last second, and fetched again when it has expired.
def renewedMoves : List (Move Task (Input Nat)) :=
  [.arrive 0 (.calling none),.proceed 0 ⟨0,none⟩,.proceed 0 ⟨1,some 5⟩,
    .arrive 1 (.calling (some "")),.proceed 1 ⟨86400,none⟩,
    .arrive 2 (.calling (some "idp")),.proceed 2 ⟨86401,none⟩,.proceed 2 ⟨86402,some 6⟩]

theorem renewed_log : log renewedMoves = some [("idp",5,false,true),("idp",5,true,true),("idp",6,false,true)] := by decide +kernel

theorem keys_faithful_renewed : ∃ final : State Nat,
    Runs program.next (fun _ _ => True) (Machine.init { jwksUri := "idp" }) renewedMoves final ∧
    Runs program.next Trusts (Machine.init { jwksUri := "idp" }) renewedMoves final := by
  obtain ⟨final,run,shown⟩ := run_of_log renewed_log
  refine ⟨final,run,(keys_faithful_iff "idp" renewedMoves final run).1.mp (fun returned member => ?_)⟩
  have listed : returned.shown ∈ final.log.map Returned.shown := List.mem_map_of_mem member
  rw [shown] at listed
  simp [Returned.shown] at listed
  rcases listed with ⟨_,_,_,faithful⟩ | ⟨_,_,_,faithful⟩ | ⟨_,_,_,faithful⟩ <;> exact faithful

-- The key set of another issuer, and one whose fetch an invalidation has overtaken, both trusted.
def otherIssuerMoves : List (Move Task (Input Nat)) :=
  [.arrive 0 (.calling (some "other")),.proceed 0 ⟨0,none⟩,.proceed 0 ⟨1,some 7⟩,.arrive 1 (.calling none),.proceed 1 ⟨2,none⟩]

def overtakenMoves : List (Move Task (Input Nat)) :=
  [.arrive 0 (.calling none),.proceed 0 ⟨0,none⟩,.arrive 1 .invalidating,.proceed 1 ⟨1,none⟩,.proceed 0 ⟨2,some 8⟩,
    .arrive 2 (.calling none),.proceed 2 ⟨3,none⟩]

theorem other_issuer_log : log otherIssuerMoves = some [("other",7,false,true),("idp",7,true,false)] := by decide +kernel
theorem overtaken_log : log overtakenMoves = some [("idp",8,false,true),("idp",8,true,false)] := by decide +kernel

theorem unfaithful_of_shown {final : State Nat} {shown : List (String × Nat × Bool × Bool)} (same : final.log.map Returned.shown = shown)
    {uri : String} (keySet : Nat) (member : (uri,keySet,true,false) ∈ shown) :
    ∃ returned ∈ final.log, returned.uri = uri ∧ returned.cached = true ∧ returned.faithful = false := by
  subst same
  obtain ⟨returned,logged,eq⟩ := List.mem_map.mp member
  simp only [Returned.shown,Prod.mk.injEq] at eq
  exact ⟨returned,logged,eq.1,eq.2.2⟩

theorem other_keys_trusted :
    (∃ final : State Nat, Runs program.next (fun _ _ => True) (Machine.init { jwksUri := "idp" }) otherIssuerMoves final ∧
      ∃ returned ∈ final.log, returned.uri = "idp" ∧ returned.cached = true ∧ returned.faithful = false) ∧
    (∃ final : State Nat, Runs program.next (fun _ _ => True) (Machine.init { jwksUri := "idp" }) overtakenMoves final ∧
      ∃ returned ∈ final.log, returned.uri = "idp" ∧ returned.cached = true ∧ returned.faithful = false) := by
  constructor
  · obtain ⟨final,run,shown⟩ := run_of_log other_issuer_log
    exact ⟨final,run,unfaithful_of_shown shown 7 (by decide)⟩
  · obtain ⟨final,run,shown⟩ := run_of_log overtaken_log
    exact ⟨final,run,unfaithful_of_shown shown 8 (by decide)⟩

end Asap.JwksCache
