import Asap.DelegationTokens
import Asap.Locks

-- The client-credentials token of an `OAuth2ClientCredentials`: tasks that look at the cached token without the lock,
-- and once more with it, before one of them asks the token endpoint for a new one.
namespace Asap.OAuth2Client
open Interleaving PythonValue
open DelegationTokens (truncate)

structure Token where
  accessToken : String
  expiresAt : Int
  tokenType : String
  deriving DecidableEq

def tokenRefreshBufferSeconds : Rat := 30

def defaultTokenLifetimeSeconds : Int := 3600

def Token.isExpired (token : Token) (bufferSeconds now : Rat) : Bool := decide (token.expiresAt - bufferSeconds ≤ now)

-- `int` of a value of the response; `none` is an exception.
structure Python where
  int : Value → Option Int

def text : Value → Option String
  | .str text => some text
  | _ => none

def parseTokenResponse (python : Python) (rawToken : List (Key × Value)) (now : Rat) : Option Token := do
  let accessToken ← lookupItem "access_token" rawToken
  let expiresAt ← match lookupItem "expires_at" rawToken,lookupItem "expires_in" rawToken with
    | some expiresAt,_ => python.int expiresAt
    | none,some expiresIn => (python.int expiresIn).map (fun seconds => truncate now + seconds)
    | none,none => some (truncate now + defaultTokenLifetimeSeconds)
  let accessToken ← text accessToken
  let tokenType ← text ((lookupItem "token_type" rawToken).getD (.str "Bearer"))
  some ⟨accessToken,expiresAt,tokenType⟩

-- What `fetch_token` does: it returns the dict of the response, or raises.
inductive Reply where
  | token (rawToken : List (Key × Value))
  | error

inductive Call where
  | getValidToken (scope : Option String)
  | getAccessToken (scope : Option String)

-- A refresh begun for a scope, the token it stored, or a stored token returned.
inductive Event where
  | refreshing (now : Rat) (scope : Option String)
  | issued (token : Token)
  | reused (now : Rat) (token : Token)

structure World where
  cachedToken : Option Token
  locked : Bool
  log : List Event

inductive Task where
  | called (call : Call)
  | waiting (scope : Option String)
  | refreshing (scope : Option String)
  | requesting (scope : Option String)
  | returned (call : Call) (token : Token)
  | raised

inductive Input where
  | start (now : Rat)
  | acquire (now : Rat)
  | reply (reply : Reply) (now : Rat)
  | cancel

section Tasks
variable (python : Python) (ownScope : Option String) (world : World) (scope : Option String) (now : Rat)

-- An empty scope counts as none.
def requestedScope : Option String := (scope.filter (fun text => decide (text ≠ ""))).or ownScope

-- The cached token, if it is not near its expiry.
def cached : Option Token := world.cachedToken.filter (fun token => !token.isExpired tokenRefreshBufferSeconds now)

def reuse (token : Token) : World × Task := ({world with log := world.log ++ [.reused now token]},.returned (.getValidToken scope) token)

def recheck : World × Task :=
  match cached world now with
  | some token => reuse world scope now token
  | none => (⟨world.cachedToken,true,world.log ++ [.refreshing now (requestedScope ownScope scope)]⟩,.refreshing scope)

def receive : Reply → World × Task
  | .token rawToken =>
    match parseTokenResponse python rawToken now with
    | some token => (⟨some token,false,world.log ++ [.issued token]⟩,.returned (.getValidToken scope) token)
    | none => ({world with locked := false},.raised)
  | .error => ({world with locked := false},.raised)

def answer : Reply → Task
  | .token rawToken =>
    match parseTokenResponse python rawToken now with
    | some token => .returned (.getAccessToken scope) token
    | none => .raised
  | .error => .raised

def step (world : World) : Task → Input → Option (World × Task)
  | .called (.getValidToken scope),.start now =>
    match cached world now with
    | some token => some (reuse world scope now token)
    | none => some (world,.waiting scope)
  | .called (.getAccessToken scope),.start _ => some (world,.requesting scope)
  | .waiting scope,.acquire now => if world.locked then none else some (recheck ownScope world scope now)
  | .refreshing scope,.reply reply now => some (receive python world scope now reply)
  | .requesting scope,.reply reply now => some (world,answer python scope now reply)
  | .waiting _,.cancel => some (world,.raised)
  | .refreshing _,.cancel => some ({world with locked := false},.raised)
  | .requesting _,.cancel => some (world,.raised)
  | _,_ => none

def Task.isCalled : Task → Bool
  | .called _ => true
  | _ => false

def program : Program World Task Input Empty where
  arrives := Task.isCalled
  advance world task input := (step python ownScope world task input).map (fun (world,task) => (world,task,[]))

def World.init : World := ⟨none,false,[]⟩

-- The one lock of the client, where it is held and which task holds it.
def World.held (world : World) : List Unit := if world.locked then [()] else []

def Task.lock : Task → Option Unit
  | .refreshing _ => some ()
  | _ => none
end Tasks

section Steps

def issuedToken : Event → Option Token
  | .issued token => some token
  | _ => none

-- The last token that a refresh has stored.
def lastIssued : List Event → Option Token := latest issuedToken

-- A refresh begins when the last token stored, if there is one, is near its expiry, and stores what a response says; a
-- token that is reused is the last one stored, and not near its expiry.
def Reason (python : Python) (earlier : List Event) : Event → Prop
  | .refreshing now _ => ∀ token, lastIssued earlier = some token → token.expiresAt - tokenRefreshBufferSeconds ≤ now
  | .issued token => ∃ rawToken now, parseTokenResponse python rawToken now = some token
  | .reused now token => lastIssued earlier = some token ∧ now < token.expiresAt - tokenRefreshBufferSeconds

structure Sound (python : Python) (world : World) : Prop where
  justified : Justified (Reason python) world.log
  latest : world.cachedToken = lastIssued world.log

-- A token that `get_valid_token` returns has been stored, or reused.
def Own (world : World) : Task → Prop
  | .returned (.getValidToken _) token => .issued token ∈ world.log ∨ ∃ now, .reused now token ∈ world.log
  | _ => True

structure Keeps (python : Python) (before after : World) (task' : Task) : Prop where
  sound : Sound python after
  own : Own after task'
  grows : ∀ event ∈ before.log, event ∈ after.log

variable {python : Python} {ownScope scope : Option String} {world later : World} {task task' : Task} {now : Rat} {input : Input}

theorem cached_some {token : Token} (found : cached world now = some token) :
    world.cachedToken = some token ∧ now < token.expiresAt - tokenRefreshBufferSeconds := by
  obtain ⟨held,fresh⟩ := Option.filter_eq_some_iff.mp found
  refine ⟨held,?_⟩
  simpa [Token.isExpired,lt_sub_iff_add_lt] using fresh

theorem cached_none (missing : cached world now = none) {token : Token} (held : world.cachedToken = some token) :
    token.expiresAt - tokenRefreshBufferSeconds ≤ now := by
  unfold cached at missing
  rw [held,Option.filter_eq_none_iff] at missing
  simpa [Token.isExpired] using missing token rfl

theorem idle_keeps (sound : Sound python world) (own : Own world task') : Keeps python world world task' := ⟨sound,own,fun _ member => member⟩

theorem unlocked_keeps (sound : Sound python world) : Keeps python world {world with locked := false} .raised :=
  ⟨⟨sound.justified,sound.latest⟩,trivial,fun _ member => member⟩

theorem reuse_keeps (sound : Sound python world) {token : Token} (found : cached world now = some token) :
    Keeps python world (reuse world scope now token).1 (reuse world scope now token).2 := by
  obtain ⟨held,fresh⟩ := cached_some found
  have last := sound.latest ▸ held
  refine ⟨⟨sound.justified.append _ ⟨last,fresh⟩,?_⟩,.inr ⟨now,List.mem_append_right _ List.mem_cons_self⟩,?_⟩
  · exact sound.latest.trans (latest_other rfl _).symm
  · exact fun _ member => List.mem_append_left _ member

theorem recheck_keeps (sound : Sound python world) : Keeps python world (recheck ownScope world scope now).1 (recheck ownScope world scope now).2 := by
  unfold recheck
  split
  · rename_i token found
    exact reuse_keeps sound found
  · rename_i missing
    refine ⟨⟨sound.justified.append _ ?_,?_⟩,trivial,fun _ member => List.mem_append_left _ member⟩
    · intro token last
      exact cached_none missing (sound.latest.trans last)
    · exact sound.latest.trans (latest_other rfl _).symm

theorem issued_keeps (sound : Sound python world) {token : Token} {rawToken : List (Key × Value)}
    (parsed : parseTokenResponse python rawToken now = some token) :
    Keeps python world ⟨some token,false,world.log ++ [.issued token]⟩ (.returned (.getValidToken scope) token) := by
  have told : issuedToken (.issued token) = some token := rfl
  refine ⟨⟨sound.justified.append _ ⟨rawToken,now,parsed⟩,(latest_own told _).symm⟩,.inl (List.mem_append_right _ List.mem_cons_self),?_⟩
  exact fun _ member => List.mem_append_left _ member

theorem receive_keeps (sound : Sound python world) (reply : Reply) :
    Keeps python world (receive python world scope now reply).1 (receive python world scope now reply).2 := by
  unfold receive
  split
  · split
    · rename_i parsed
      exact issued_keeps sound parsed
    · exact unlocked_keeps sound
  · exact unlocked_keeps sound

theorem answer_own (world : World) (reply : Reply) : Own world (answer python scope now reply) := by
  unfold answer
  split
  · split <;> trivial
  · trivial

theorem step_keeps (sound : Sound python world) (taken : step python ownScope world task input = some (later,task')) : Keeps python world later task' := by
  unfold step at taken
  split at taken
  · split at taken
    · rename_i token found
      cases taken
      exact reuse_keeps sound found
    · cases taken
      exact idle_keeps sound trivial
  · cases taken
    exact idle_keeps sound trivial
  · rename_i scope now
    split at taken
    · cases taken
    · have kept : Keeps python world (recheck ownScope world scope now).1 (recheck ownScope world scope now).2 := recheck_keeps sound
      rw [Option.some.inj taken] at kept
      exact kept
  · rename_i scope reply now
    have kept : Keeps python world (receive python world scope now reply).1 (receive python world scope now reply).2 := receive_keeps sound reply
    rw [Option.some.inj taken] at kept
    exact kept
  · cases taken
    exact idle_keeps sound (answer_own world _)
  · cases taken
    exact idle_keeps sound trivial
  · cases taken
    exact unlocked_keeps sound
  · cases taken
    exact idle_keeps sound trivial
  · cases taken

theorem Own.grows (own : Own world task) (grows : ∀ event ∈ world.log, event ∈ later.log) : Own later task := by
  cases task with
  | returned call token =>
    cases call with
    | getValidToken scope =>
      rcases own with issued | ⟨now,reused⟩
      · exact .inl (grows _ issued)
      · exact .inr ⟨now,grows _ reused⟩
    | getAccessToken scope => trivial
  | _ => trivial

theorem held_erase (world : World) : world.held.erase () = [] := by
  unfold World.held
  split <;> rfl

theorem unlocked_locks (token : Option Token) (log : List Event) (without : task'.lock = none) :
    LockStep World.held Task.lock world (.refreshing scope) ⟨token,false,log⟩ task' :=
  .gives () rfl (held_erase world).symm without

theorem recheck_locks (free : ¬ world.locked = true) :
    LockStep World.held Task.lock world (.waiting scope) (recheck ownScope world scope now).1 (recheck ownScope world scope now).2 := by
  have unheld : world.held = [] := if_neg free
  unfold recheck
  split
  · exact .keeps rfl rfl
  · refine .takes () rfl ?_ ?_ rfl
    · rw [unheld]
      exact List.not_mem_nil
    · rw [unheld]
      rfl

theorem receive_locks (reply : Reply) :
    LockStep World.held Task.lock world (.refreshing scope) (receive python world scope now reply).1 (receive python world scope now reply).2 := by
  unfold receive
  split
  · split <;> exact unlocked_locks _ _ rfl
  · exact unlocked_locks _ _ rfl

theorem answer_lock (reply : Reply) : (answer python scope now reply).lock = none := by
  unfold answer
  split
  · split <;> rfl
  · rfl

theorem step_locks (taken : step python ownScope world task input = some (later,task')) : LockStep World.held Task.lock world task later task' := by
  unfold step at taken
  split at taken
  · split at taken
    · cases taken
      exact .keeps rfl rfl
    · cases taken
      exact .keeps rfl rfl
  · cases taken
    exact .keeps rfl rfl
  · rename_i scope now
    split at taken
    · cases taken
    · rename_i free
      have locks : LockStep World.held Task.lock world (.waiting scope) (recheck ownScope world scope now).1 _ := recheck_locks free
      rw [Option.some.inj taken] at locks
      exact locks
  · rename_i scope reply now
    have locks : LockStep World.held Task.lock world (.refreshing scope) (receive python world scope now reply).1 _ := receive_locks reply
    rw [Option.some.inj taken] at locks
    exact locks
  · cases taken
    exact .keeps rfl (answer_lock _)
  · cases taken
    exact .keeps rfl rfl
  · cases taken
    exact unlocked_locks _ _ rfl
  · cases taken
    exact .keeps rfl rfl
  · cases taken
end Steps

section Runs
variable (python : Python) (ownScope : Option String) (moves : List (Move Task Input)) (final : Machine World Task Empty)

theorem advance_step {world later : World} {task task' : Task} {input : Input} {events : List Empty}
    (advanced : (program python ownScope).advance world task input = some (later,task',events)) :
    step python ownScope world task input = some (later,task') := by
  obtain ⟨after,taken,same⟩ := Option.map_eq_some_iff.mp advanced
  cases same
  exact taken

-- A client refreshes its token only near the expiry of the last one, one refresh at a time, and hands out what it has
-- stored, whatever the number of callers and the clock.
theorem token_refreshed_once (run : Runs (program python ownScope).next (fun _ _ => True) (.init World.init) moves final) :
    (∀ earlier event later, final.store.log = earlier ++ event :: later → Reason python earlier event) ∧
    (∀ i j scope other, final.tasks.get i = some (.refreshing scope) → final.tasks.get j = some (.refreshing other) → i = j) ∧
    ∀ id scope token, final.tasks.get id = some (.returned (.getValidToken scope) token) →
      .issued token ∈ final.store.log ∨ ∃ now, .reused now token ∈ final.store.log := by
  have exclusive : Exclusive World.held Task.lock final :=
    (program python ownScope).exclusive (fun _ _ => True)
      (fun task arrives => by
        cases task with
        | called call => rfl
        | _ => cases arrives)
      (fun s task input store task' events advanced => step_locks (advance_step python ownScope advanced)) run (exclusive_init _ rfl)
  have holds := (program python ownScope).interleaved (fun _ _ => True) (fun world _ => Sound python world) Own
    (fun world task arrives => by
      cases task with
      | called call => trivial
      | _ => cases arrives)
    (fun m id input task store task' events holds _ known advanced => by
      have kept := step_keeps holds.1 (advance_step python ownScope advanced)
      exact ⟨kept.sound,kept.own,fun other waiting _ found => (holds.2 other waiting found).grows kept.grows⟩)
    (.init World.init) final moves run ⟨⟨.nil,rfl⟩,fun _ _ found => by cases found⟩
  refine ⟨justified_iff.mp holds.1.justified,?_,fun id scope token found => holds.2 id _ found⟩
  intro i j scope other one two
  exact exclusive.sole i j _ _ () one two rfl rfl
end Runs

section Sample

def intPython : Python where
  int
    | .int value => some value
    | _ => none

def hourToken : Reply := .token [(.str "access_token",.str "t"),(.str "expires_in",.int 3600)]

-- Two calls find no token and one of them refreshes it; the third comes half a minute before its expiry.
def refreshMoves : List (Move Task Input) :=
  [.arrive 0 (.called (.getValidToken none)),.arrive 1 (.called (.getValidToken (some "read"))),.proceed 0 (.start 0),.proceed 1 (.start 0),
    .proceed 0 (.acquire 0),.proceed 0 (.reply hourToken 1),.proceed 1 (.acquire 2),.arrive 2 (.called (.getValidToken none)),
    .proceed 2 (.start 3571),.proceed 2 (.acquire 3571),.proceed 2 (.reply .error 3572)]

def refreshRan : Option (Machine World Task Empty) := execute (program intPython none).next anyMove (.init World.init) refreshMoves

theorem refresh_done : refreshRan.isSome = true := by decide +kernel

theorem token_refreshed_once_sample :
    (∀ earlier event later, (refreshRan.get refresh_done).store.log = earlier ++ event :: later → Reason intPython earlier event) ∧
    (∀ i j scope other, (refreshRan.get refresh_done).tasks.get i = some (.refreshing scope) →
      (refreshRan.get refresh_done).tasks.get j = some (.refreshing other) → i = j) ∧
    ∀ id scope token, (refreshRan.get refresh_done).tasks.get id = some (.returned (.getValidToken scope) token) →
      .issued token ∈ (refreshRan.get refresh_done).store.log ∨ ∃ now, .reused now token ∈ (refreshRan.get refresh_done).store.log :=
  token_refreshed_once intPython none refreshMoves _ (execute_free (Option.some_get refresh_done).symm)
end Sample

end Asap.OAuth2Client
