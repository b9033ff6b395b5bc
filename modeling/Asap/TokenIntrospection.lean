import Asap.DelegationTokens
import Asap.Locks
import Asap.ManifestCacheRuns

-- `TokenIntrospector`: a cache of the provider's answers about opaque tokens. The lock is held while the cache is read
-- and while it is written, and given back in between, while the provider is asked.
namespace Asap.TokenIntrospection
open Interleaving OrderedDict PythonValue
open ManifestCaching (CacheEntry ManifestCache moveToEnd moveToEnd_get)
open DelegationTokens (expTs)

-- `str` of a value that is not a text, and whether an integer is too large for a float.
structure Python where
  str : Value → String
  overflows : Int → Bool

def strOf (python : Python) : Value → String
  | .str text => text
  | value => python.str value

-- `split` at whitespace.
def words (text : String) : List String := ((text.toList.splitOnP isSpace).filter (fun word => decide (word ≠ []))).map String.ofList

def parseScope (python : Python) : Value → List String
  | .list items => items.map (strOf python)
  | .str text => words text
  | _ => []

structure TokenInfo where
  active : Bool
  sub : Option String
  scope : List String
  exp : Option Int
  clientId : Option String
  username : Option String
  tokenType : Option String
  deriving DecidableEq

def inactiveTokenCacheTtlSeconds : Rat := 60

def maxActiveCacheTtlSeconds : Rat := 3600

def expiryBufferSeconds : Rat := 30

-- `none` is the OverflowError of an integer that no float comes near to.
def TokenInfo.cacheTtlSeconds (python : Python) (info : TokenInfo) (now : Rat) : Option Rat :=
  if info.active then
    match info.exp with
    | none => some inactiveTokenCacheTtlSeconds
    | some exp =>
      if python.overflows exp then none
      else
        let remaining := exp - now - expiryBufferSeconds
        if remaining ≤ 0 then some 0 else some (min remaining maxActiveCacheTtlSeconds)
  else some inactiveTokenCacheTtlSeconds

def optionalText (python : Python) (field : String) (body : List (Key × Value)) : Option String :=
  match lookupItem field body with
  | none | some .none => none
  | some value => some (strOf python value)

-- What `_do_introspect` makes of a body; `none` is an exception.
def tokenInfo (python : Python) : Value → Option TokenInfo
  | .dict body =>
    match expTs ((lookupItem "exp" body).getD .none) with
    | .error _ => none
    | .ok exp =>
      let active := match lookupItem "active" body with
        | some (.bool active) => active
        | _ => false
      some ⟨active,optionalText python "sub" body,parseScope python ((lookupItem "scope" body).getD .none),exp,
        optionalText python "client_id" body,optionalText python "username" body,optionalText python "token_type" body⟩
  | _ => none

-- `json` is `resp.json()`, `none` where it raises.
inductive Reply where
  | response (status : Nat) (json : Option Value)
  | httpError

-- An answer of the provider with the clock when its TTL was computed and when it was stored, or an answer found.
inductive Event where
  | answered (token : String) (info : TokenInfo) (computed stored : Rat)
  | hit (token : String) (now : Rat) (info : TokenInfo)

structure World where
  cache : ManifestCache TokenInfo
  log : List Event

inductive Task where
  | called (token : String)
  | asking (token : String)
  | returned (token : String) (result : Option TokenInfo)
  | raised (token : String)

inductive Input where
  | start (now : Rat)
  | reply (reply : Reply) (computed stored : Rat)
  | cancel

section Tasks
variable (python : Python) (world : World) (token : String)

def ifActive (info : TokenInfo) : Option TokenInfo := if info.active then some info else none

def find (now : Rat) : World × Task :=
  match world.cache.cache.get token with
  | none => (world,.asking token)
  | some entry =>
    if entry.isExpired now then (world,.asking token)
    else (⟨{world.cache with cache := moveToEnd world.cache.cache token},world.log ++ [.hit token now entry.manifest]⟩,
      .returned token (ifActive entry.manifest))

def store (info : TokenInfo) (computed stored : Rat) : World × Task :=
  match info.cacheTtlSeconds python computed with
  | none => (world,.raised token)
  | some ttl => (⟨world.cache.set token info (some ttl) stored,world.log ++ [.answered token info computed stored]⟩,.returned token (ifActive info))

def receive (computed stored : Rat) : Reply → World × Task
  | .response status json =>
    if 200 ≤ status ∧ status < 300 then
      match json.bind (tokenInfo python) with
      | some info => store python world token info computed stored
      | none => (world,.raised token)
    else (world,.raised token)
  | .httpError => (world,.raised token)

def step (world : World) : Task → Input → Option (World × Task)
  | .called token,.start now => some (find world token now)
  | .asking token,.reply reply computed stored => some (receive python world token computed stored reply)
  | .asking token,.cancel => some (world,.raised token)
  | _,_ => none

def Task.isCalled : Task → Bool
  | .called _ => true
  | _ => false

def program : Program World Task Input Empty where
  arrives := Task.isCalled
  advance world task input := (step python world task input).map (fun (world,task) => (world,task,[]))

def World.init (maxCacheSize : Int) : World := ⟨{maxSize := maxCacheSize},[]⟩
end Tasks

section Ttl
variable {python : Python} {info : TokenInfo} {now ttl : Rat}

end Ttl

section Steps

def answeredFor (token : String) : Event → Option (TokenInfo × Rat × Rat)
  | .answered other info computed stored => if other = token then some (info,computed,stored) else none
  | _ => none

-- The last answer that was stored for the token.
def lastAnswer (token : String) : List Event → Option (TokenInfo × Rat × Rat) := latest (answeredFor token)

-- An answer comes from a body of the provider; a hit is the last answer stored for its token, within its TTL.
def Reason (python : Python) (earlier : List Event) : Event → Prop
  | .answered _ info _ _ => ∃ body, tokenInfo python body = some info
  | .hit token now info => ∃ computed stored ttl, lastAnswer token earlier = some (info,computed,stored) ∧
      info.cacheTtlSeconds python computed = some ttl ∧ now < stored + ttl

structure Sound (python : Python) (maxCacheSize : Int) (world : World) : Prop where
  justified : Justified (Reason python) world.log
  cached : ∀ token entry, world.cache.cache.get token = some entry → ∃ computed stored ttl,
    lastAnswer token world.log = some (entry.manifest,computed,stored) ∧ entry.manifest.cacheTtlSeconds python computed = some ttl ∧
      entry.expiresAt = stored + ttl
  configured : world.cache.maxSize = maxCacheSize
  bounded : 0 < maxCacheSize → (world.cache.cache.size : Int) ≤ maxCacheSize

def Told (world : World) (token : String) (info : TokenInfo) : Prop :=
  (∃ computed stored, .answered token info computed stored ∈ world.log) ∨ ∃ now, .hit token now info ∈ world.log

def Own (world : World) : Task → Prop
  | .returned token result => ∃ info, result = ifActive info ∧ Told world token info
  | _ => True

structure Keeps (python : Python) (maxCacheSize : Int) (before after : World) (task' : Task) : Prop where
  sound : Sound python maxCacheSize after
  own : Own after task'
  grows : ∀ event ∈ before.log, event ∈ after.log

variable {python : Python} {maxCacheSize : Int} {world later : World} {token : String} {task task' : Task}

theorem idle_keeps (sound : Sound python maxCacheSize world) (own : Own world task') : Keeps python maxCacheSize world world task' :=
  ⟨sound,own,fun _ member => member⟩

theorem find_keeps (sound : Sound python maxCacheSize world) (now : Rat) :
    Keeps python maxCacheSize world (find world token now).1 (find world token now).2 := by
  unfold find
  split
  · exact idle_keeps sound trivial
  · rename_i entry held
    split
    · exact idle_keeps sound trivial
    · rename_i fresh
      obtain ⟨computed,stored,ttl,last,kept,expiry⟩ := sound.cached token entry held
      have within : now < stored + ttl := by
        rw [← expiry]
        simpa [CacheEntry.isExpired] using fresh
      have moved : (world.cache.get token now).1 = {world.cache with cache := moveToEnd world.cache.cache token} := by
        unfold ManifestCache.get
        simp only [held,if_neg fresh]
      refine ⟨⟨sound.justified.append _ ⟨computed,stored,ttl,last,kept,within⟩,?_,sound.configured,?_⟩,?_,
        fun _ member => List.mem_append_left _ member⟩
      · intro other entry found
        simp only [moveToEnd_get] at found
        obtain ⟨computed,stored,ttl,last,kept,expiry⟩ := sound.cached other entry found
        exact ⟨computed,stored,ttl,(latest_other rfl _).trans last,kept,expiry⟩
      · intro positive
        have room : ((world.cache.step (.get token now)).cache.size : Int) ≤ world.cache.maxSize :=
          ManifestCaching.step_size (sound.configured ▸ positive) (sound.configured ▸ sound.bounded positive)
        rw [sound.configured] at room
        simpa only [ManifestCache.step,moved] using room
      · exact ⟨entry.manifest,rfl,.inr ⟨now,List.mem_append_right _ List.mem_cons_self⟩⟩

-- What is found after an entry was set is that entry, or was there before.
theorem set_get {c : ManifestCache TokenInfo} {info : TokenInfo} {ttl now : Rat} {other : String} {entry : CacheEntry TokenInfo}
    (found : (c.set token info (some ttl) now).cache.get other = some entry) :
    (token = other ∧ entry = ⟨info,now + ttl⟩) ∨ (token ≠ other ∧ c.cache.get other = some entry) := by
  simp only [ManifestCache.set,Dict.get_set] at found
  split at found
  · rename_i same
    cases found
    exact .inl ⟨same,rfl⟩
  · rename_i different
    refine .inr ⟨different,?_⟩
    split at found
    · exact ManifestCaching.erase_within found
    · split at found
      · exact ManifestCaching.popFirst_within found
      · exact found

theorem store_keeps (sound : Sound python maxCacheSize world) {body : Value} {info : TokenInfo} (read : tokenInfo python body = some info)
    (computed stored : Rat) :
    Keeps python maxCacheSize world (store python world token info computed stored).1 (store python world token info computed stored).2 := by
  unfold store
  split
  · exact idle_keeps sound trivial
  · rename_i ttl kept
    refine ⟨⟨sound.justified.append _ ⟨body,read⟩,?_,sound.configured,?_⟩,?_,fun _ member => List.mem_append_left _ member⟩
    · intro other entry found
      rcases set_get found with ⟨same,rfl⟩ | ⟨different,before⟩
      · have told : answeredFor other (.answered token info computed stored) = some (info,computed,stored) := if_pos same
        exact ⟨computed,stored,ttl,latest_own told _,kept,rfl⟩
      · have none : answeredFor other (.answered token info computed stored) = none := if_neg different
        obtain ⟨earlier,written,lifetime,last,known,expiry⟩ := sound.cached other entry before
        exact ⟨earlier,written,lifetime,(latest_other none _).trans last,known,expiry⟩
    · intro positive
      have room : ((world.cache.step (.set token info (some ttl) stored)).cache.size : Int) ≤ world.cache.maxSize :=
        ManifestCaching.step_size (sound.configured ▸ positive) (sound.configured ▸ sound.bounded positive)
      rw [sound.configured] at room
      exact room
    · exact ⟨info,rfl,.inl ⟨computed,stored,List.mem_append_right _ List.mem_cons_self⟩⟩

theorem receive_keeps (sound : Sound python maxCacheSize world) (computed stored : Rat) (reply : Reply) :
    Keeps python maxCacheSize world (receive python world token computed stored reply).1 (receive python world token computed stored reply).2 := by
  unfold receive
  split
  · split
    · split
      · rename_i info read
        obtain ⟨body,-,read⟩ := Option.bind_eq_some_iff.mp read
        exact store_keeps sound read computed stored
      · exact idle_keeps sound trivial
    · exact idle_keeps sound trivial
  · exact idle_keeps sound trivial

theorem step_keeps (sound : Sound python maxCacheSize world) {input : Input} (taken : step python world task input = some (later,task')) :
    Keeps python maxCacheSize world later task' := by
  unfold step at taken
  split at taken
  · rename_i token now
    have kept : Keeps python maxCacheSize world (find world token now).1 (find world token now).2 := find_keeps sound now
    rw [Option.some.inj taken] at kept
    exact kept
  · rename_i token reply computed stored
    have kept : Keeps python maxCacheSize world (receive python world token computed stored reply).1 _ := receive_keeps sound computed stored reply
    rw [Option.some.inj taken] at kept
    exact kept
  · cases taken
    exact idle_keeps sound trivial
  · cases taken

theorem Own.grows (own : Own world task) (grows : ∀ event ∈ world.log, event ∈ later.log) : Own later task := by
  cases task with
  | returned token result =>
    obtain ⟨info,same,told⟩ := own
    rcases told with ⟨computed,stored,member⟩ | ⟨now,member⟩
    · exact ⟨info,same,.inl ⟨computed,stored,grows _ member⟩⟩
    · exact ⟨info,same,.inr ⟨now,grows _ member⟩⟩
  | _ => trivial

end Steps

section Runs

def plainPython : Python := ⟨fun _ => "",fun _ => false⟩

end Runs

end Asap.TokenIntrospection
