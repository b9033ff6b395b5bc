import Asap.DelegationStorage
import Asap.DelegationTokens
import Asap.IsoOrder
import Asap.Locks
import Mathlib.Logic.Relation

-- The REST API of the delegation tokens: requests that give way wherever they wait for the storage.
namespace Asap.DelegationApi
open Interleaving OrderedDict PythonValue DelegationStorage DepthFirst
open DelegationTokens (Raise Jose Doubles Callables createDelegationJwt parseClaimFromJwt DelegationConstraints Succeeds)

-- What the handlers read of the claims of an access token.
structure OAuth2Claims where
  sub : String
  scope : List String

def scopeExecute : String := "asap:execute"

structure CreateDelegationRequest where
  delegate : String
  scopes : List String
  expiresInSeconds : Option Int
  maxTasks : Option Nat
  accepted : scopes ≠ [] ∧ ∀ seconds ∈ expiresInSeconds, 1 ≤ seconds ∧ seconds ≤ 365 * 24 * 3600

structure DelegationTokenSummary where
  id : String
  delegator : String
  delegate : String
  createdAt : Int
  active : Bool

structure DelegationTokenDetail where
  id : String
  delegator : String
  delegate : String
  createdAt : Int
  active : Bool
  revokedAt : Option Int

inductive Request where
  | post (body : CreateDelegationRequest)
  | delete (tokenId : String)
  | list (active : Bool)
  | get (tokenId : String)

-- `serverError` stands for every exception that no handler expects.
inductive Response where
  | error (status : Nat) (detail : String)
  | serverError
  | created (token : String)
  | noContent
  | listed (summaries : List DelegationTokenSummary)
  | detail (detail : DelegationTokenDetail)

-- A token issued under an id, or a cascade with all the ids that it revoked.
inductive Event where
  | issued (tokenId delegator delegate : String)
  | revoked (sub root : String) (ids : List String)

structure World where
  storage : Storage Int
  log : List Event

-- A task knows the claims that it has been let in with.
inductive Task where
  | called (claims : Option OAuth2Claims) (request : Request)
  | registering (sub : String) (body : CreateDelegationRequest) (token jti : String)
  | revoking (sub tokenId : String)
  | listing (sub : String) (active : Bool) (rows : List (String × IssuedEntry Int))
  | answered (sub : String) (request : Request) (response : Response)
  | refused (response : Response)

-- Times are in microseconds since the epoch; `drawn` is what `generate_id` gives, and the cascade reads the clock for
-- each of its rows.
inductive Input where
  | handle (now : DateTime) (created : Int) (drawn : String)
  | register (now : Int)
  | cascade (now : Nat → Int)
  | read

-- What the server is set up with; the key store and the token functions raise what they raise.
structure Server (PublicKey PrivateKey : Type) where
  jose : Jose PublicKey PrivateKey
  python : DelegationTokens.Python
  doubles : Doubles
  keyStore : String → Except Raise PrivateKey
  storage : Option Backend

section Handlers
variable {PublicKey PrivateKey : Type} (server : Server PublicKey PrivateKey)

def requireScope (scope : String) : Option OAuth2Claims → Except Response OAuth2Claims
  | none => .error (.error 401 "Authentication required")
  | some claims => if claims.scope.contains scope then .ok claims else .error (.error 403 "Insufficient scope")

def unconfigured : Response := .error 503 "Delegation revocation not configured (delegation_storage not set)"

def getDelegator (backend : Backend) (s : Storage Int) (tokenId : String) : Option String :=
  match s.issued.get tokenId with
  | none => none
  | some entry =>
    match backend with
    | .inMemory => some entry.delegatorUrn
    | .sqlite => if entry.delegatorUrn = "" then none else some entry.delegatorUrn

def createToken (sub : String) (body : CreateDelegationRequest) (now : DateTime) (created : Int) (drawn : String) : Except Response String :=
  match server.keyStore sub with
  | .error exception =>
    if exception.kind = .keyError ∨ exception.kind = .valueError then .error (.error 503 "Delegation key not configured for this agent")
    else .error .serverError
  | .ok privateKey =>
    match now.minusSeconds (-(body.expiresInSeconds.getD 86400)) with
    | none => .error .serverError
    | some expiresAt =>
      match createDelegationJwt server.jose server.doubles sub body.delegate body.scopes ⟨none,body.maxTasks,expiresAt⟩ privateKey none drawn created with
      | .error _ => .error .serverError
      | .ok token => .ok token

-- `post_delegation` up to the storage, which is only asked where there is one and the token has an id.
def postDelegation (sub : String) (body : CreateDelegationRequest) (now : DateTime) (created : Int) (drawn : String) : Task :=
  match createToken server sub body now created drawn with
  | .error response => .answered sub (.post body) response
  | .ok token =>
    match server.storage with
    | none => .answered sub (.post body) (.created token)
    | some _ =>
      match parseClaimFromJwt server.python token "jti" with
      | .error _ => .answered sub (.post body) .serverError
      | .ok none => .answered sub (.post body) (.created token)
      | .ok (some jti) => if jti = "" then .answered sub (.post body) (.created token) else .registering sub body token jti

def deleteDelegation (backend : Backend) (s : Storage Int) (sub tokenId : String) : Task :=
  match getDelegator backend s tokenId with
  | none => .answered sub (.delete tokenId) (.error 404 "Delegation token not found or not issued via this server")
  | some delegator =>
    if delegator ≠ sub then .answered sub (.delete tokenId) (.error 403 "Only the delegator that issued this token can revoke it")
    else .revoking sub tokenId

def issuedRows (s : Storage Int) (delegator : String) : List (String × IssuedEntry Int) :=
  s.issued.entries.filter (fun row => decide (row.2.delegatorUrn = delegator))

def summary (s : Storage Int) (sub : String) (row : String × IssuedEntry Int) : DelegationTokenSummary :=
  ⟨row.1,sub,row.2.delegateUrn.getD "",row.2.createdAt,!isRevoked s row.1⟩

def listDelegations (s : Storage Int) (sub : String) (active : Bool) (rows : List (String × IssuedEntry Int)) : List DelegationTokenSummary :=
  (rows.filter (fun row => !(active && isRevoked s row.1))).map (summary s sub)

def getDelegation (s : Storage Int) (sub tokenId : String) : Response :=
  match s.issued.get tokenId with
  | none => .error 404 "Delegation token not found"
  | some entry =>
    let delegate := entry.delegateUrn.getD ""
    if sub ≠ entry.delegatorUrn ∧ sub ≠ delegate then .error 403 "Only the issuer or holder of this token can view it"
    else .detail ⟨tokenId,entry.delegatorUrn,delegate,entry.createdAt,!isRevoked s tokenId,(s.revoked.get tokenId).map Prod.fst⟩

def handle (world : World) (sub : String) (now : DateTime) (created : Int) (drawn : String) : Request → Task
  | .post body => postDelegation server sub body now created drawn
  | .delete tokenId =>
    match server.storage with
    | none => .answered sub (.delete tokenId) unconfigured
    | some backend => deleteDelegation backend world.storage sub tokenId
  | .list active =>
    match server.storage with
    | none => .answered sub (.list active) unconfigured
    | some _ => .listing sub active (issuedRows world.storage sub)
  | .get tokenId =>
    match server.storage with
    | none => .answered sub (.get tokenId) unconfigured
    | some _ => .answered sub (.get tokenId) (getDelegation world.storage sub tokenId)

def register (backend : Backend) (world : World) (sub : String) (body : CreateDelegationRequest) (jti : String) (now : Int) : World :=
  ⟨registerIssued backend world.storage jti sub (some body.delegate) now,world.log ++ [.issued jti sub body.delegate]⟩

def cascade (world : World) (sub tokenId : String) (rows : List (Revocation Int)) : World :=
  ⟨rows.foldl revoke world.storage,world.log ++ [.revoked sub tokenId (rows.map Revocation.tokenId)]⟩

def step (world : World) : Task → Input → Option (World × Task)
  | .called claims request,.handle now created drawn =>
    match requireScope scopeExecute claims with
    | .error response => some (world,.refused response)
    | .ok claims => some (world,handle server world claims.sub now created drawn request)
  | .registering sub body token jti,.register now =>
    server.storage.map (fun backend => (register backend world sub body jti now,.answered sub (.post body) (.created token)))
  | .revoking sub tokenId,.cascade now =>
    (server.storage.bind (fun backend => cascadeRevocations backend world.storage tokenId none now)).map (fun rows =>
      (cascade world sub tokenId rows,.answered sub (.delete tokenId) .noContent))
  | .listing sub active rows,.read => some (world,.answered sub (.list active) (.listed (listDelegations world.storage sub active rows)))
  | _,_ => none

def Task.isCalled : Task → Bool
  | .called _ _ => true
  | _ => false

def program : Program World Task Input Empty where
  arrives := Task.isCalled
  advance world task input := (step server world task input).map (fun (world,task) => (world,task,[]))

def World.init : World := ⟨.init,[]⟩
end Handlers

section Chains

-- The child was issued by the delegate of the parent.
def Chained (log : List Event) (parent child : String) : Prop :=
  ∃ delegator delegate later, .issued parent delegator delegate ∈ log ∧ .issued child delegate later ∈ log

-- A cascade starts at a token that its caller has issued, and revokes it and what is derived from it.
def Reason (earlier : List Event) : Event → Prop
  | .issued _ _ _ => True
  | .revoked sub root ids => (∃ delegate, .issued root sub delegate ∈ earlier) ∧ root ∈ ids ∧
      ∀ id ∈ ids, Relation.ReflTransGen (Chained earlier) root id

def Withdrawn (log : List Event) (id : String) : Prop := ∃ sub root ids, .revoked sub root ids ∈ log ∧ id ∈ ids

-- What a caller is told: that its own token is revoked, or about tokens that it has issued or holds.
def Answered (log : List Event) (sub : String) : Request → Response → Prop
  | .delete tokenId,.noContent => ∃ ids, .revoked sub tokenId ids ∈ log
  | .list active,.listed summaries => ∀ summary ∈ summaries, summary.delegator = sub ∧ .issued summary.id sub summary.delegate ∈ log ∧
      (summary.active = false → active = false ∧ Withdrawn log summary.id)
  | .get tokenId,.detail detail => detail.id = tokenId ∧ (sub = detail.delegator ∨ sub = detail.delegate) ∧
      .issued tokenId detail.delegator detail.delegate ∈ log ∧ (detail.active = false → Withdrawn log tokenId)
  | _,_ => True

structure Sound (world : World) : Prop where
  justified : Justified Reason world.log
  recorded : ∀ id entry, world.storage.issued.get id = some entry →
    ∃ delegate, entry.delegateUrn = some delegate ∧ .issued id entry.delegatorUrn delegate ∈ world.log
  revocations : ∀ id, isRevoked world.storage id = true ↔ Withdrawn world.log id

def Own (world : World) : Task → Prop
  | .revoking sub tokenId => ∃ delegate, .issued tokenId sub delegate ∈ world.log
  | .listing sub _ rows => ∀ row ∈ rows, ∃ delegate, row.2.delegateUrn = some delegate ∧ .issued row.1 sub delegate ∈ world.log
  | .answered sub request response => Answered world.log sub request response
  | _ => True

variable {world later : World} {log longer : List Event} {sub tokenId id : String} {backend : Backend} {task task' : Task}

theorem Withdrawn.grows (grows : ∀ event ∈ log, event ∈ longer) (withdrawn : Withdrawn log id) : Withdrawn longer id := by
  obtain ⟨sub,root,ids,member,inside⟩ := withdrawn
  exact ⟨sub,root,ids,grows _ member,inside⟩

theorem Answered.grows (grows : ∀ event ∈ log, event ∈ longer) {request : Request} {response : Response}
    (answered : Answered log sub request response) : Answered longer sub request response := by
  unfold Answered at answered ⊢
  split
  · obtain ⟨ids,member⟩ := answered
    exact ⟨ids,grows _ member⟩
  · intro summary listed
    obtain ⟨delegator,member,inactive⟩ := answered summary listed
    exact ⟨delegator,grows _ member,fun off => ⟨(inactive off).1,(inactive off).2.grows grows⟩⟩
  · obtain ⟨same,party,member,inactive⟩ := answered
    exact ⟨same,party,grows _ member,fun off => (inactive off).grows grows⟩
  · trivial

theorem Own.grows (grows : ∀ event ∈ world.log, event ∈ later.log) (own : Own world task) : Own later task := by
  cases task with
  | revoking sub tokenId =>
    obtain ⟨delegate,member⟩ := own
    exact ⟨delegate,grows _ member⟩
  | listing sub active rows =>
    intro row listed
    obtain ⟨delegate,same,member⟩ := own row listed
    exact ⟨delegate,same,grows _ member⟩
  | answered sub request response => exact Answered.grows grows own
  | called _ _ => trivial
  | registering _ _ _ _ => trivial
  | refused _ => trivial

theorem issuedRows_own (sound : Sound world) (sub : String) (active : Bool) : Own world (.listing sub active (issuedRows world.storage sub)) := by
  intro row listed
  obtain ⟨member,mine⟩ := List.mem_filter.mp listed
  obtain ⟨delegate,same,known⟩ := sound.recorded row.1 row.2 ((Dict.mem_iff _).mp member)
  exact ⟨delegate,same,of_decide_eq_true mine ▸ known⟩

theorem deleteDelegation_own (sound : Sound world) : Own world (deleteDelegation backend world.storage sub tokenId) := by
  unfold deleteDelegation
  split
  · trivial
  · rename_i delegator found
    split
    · trivial
    · rename_i same
      obtain rfl := not_not.mp same
      unfold getDelegator at found
      split at found
      · cases found
      · rename_i entry held
        obtain ⟨delegate,-,known⟩ := sound.recorded tokenId entry held
        have own : entry.delegatorUrn = delegator := by
          cases backend with
          | inMemory => exact Option.some.inj found
          | sqlite =>
            simp only at found
            split at found
            · cases found
            · exact Option.some.inj found
        exact ⟨delegate,own ▸ known⟩

theorem getDelegation_answered (sound : Sound world) : Answered world.log sub (.get tokenId) (getDelegation world.storage sub tokenId) := by
  unfold getDelegation
  split
  · trivial
  · rename_i entry held
    obtain ⟨delegate,same,known⟩ := sound.recorded tokenId entry held
    simp only [same,Option.getD_some]
    split
    · trivial
    · rename_i party
      refine ⟨rfl,?_,known,?_⟩
      · by_contra neither
        exact party (not_or.mp neither)
      · intro inactive
        exact (sound.revocations tokenId).mp (by simpa using inactive)

theorem listDelegations_answered (sound : Sound world) {active : Bool} {rows : List (String × IssuedEntry Int)}
    (own : Own world (.listing sub active rows)) : Answered world.log sub (.list active) (.listed (listDelegations world.storage sub active rows)) := by
  intro summary_ listed
  obtain ⟨row,kept,rfl⟩ := List.mem_map.mp listed
  obtain ⟨member,shown⟩ := List.mem_filter.mp kept
  obtain ⟨delegate,same,known⟩ := own row member
  refine ⟨rfl,?_,?_⟩
  · simpa only [summary,same,Option.getD_some] using known
  · intro inactive
    have revoked : isRevoked world.storage row.1 = true := by simpa [summary] using inactive
    exact ⟨by simpa [revoked] using shown,(sound.revocations row.1).mp revoked⟩

theorem chain_within (sound : Sound world) {root : String} {depth : Nat} (reach : Within (issuedUnder world.storage) depth root id) :
    Relation.ReflTransGen (Chained world.log) root id := by
  induction reach with
  | here => exact .refl
  | hop edge _ ih =>
    obtain ⟨parent,child,above,below,link⟩ := (mem_issuedUnder world.storage).mp edge
    obtain ⟨delegate,same,issued⟩ := sound.recorded _ parent above
    obtain ⟨lower,-,derived⟩ := sound.recorded _ child below
    rw [same] at link
    exact .head ⟨parent.delegatorUrn,delegate,lower,issued,Option.some.inj link ▸ derived⟩ ih

structure Keeps (before after : World) (task' : Task) : Prop where
  sound : Sound after
  own : Own after task'
  grows : ∀ event ∈ before.log, event ∈ after.log

theorem idle_keeps (sound : Sound world) (own : Own world task') : Keeps world world task' := ⟨sound,own,fun _ member => member⟩

theorem register_issued_get (s : Storage Int) (entry : IssuedEntry Int) :
    (registerIssued backend s id entry.delegatorUrn entry.delegateUrn entry.createdAt).issued.get tokenId =
      if id = tokenId then some entry else s.issued.get tokenId := by
  cases backend with
  | inMemory => exact Dict.get_set _ _ _ _
  | sqlite =>
    simp only [registerIssued,Dict.get_set,Dict.get_erase]
    split <;> rfl

theorem register_keeps (sound : Sound world) (body : CreateDelegationRequest) (jti token : String) (now : Int) :
    Keeps world (register backend world sub body jti now) (.answered sub (.post body) (.created token)) := by
  refine ⟨⟨sound.justified.append _ trivial,?_,?_⟩,trivial,fun _ member => List.mem_append_left _ member⟩
  · intro id entry found
    have stored : (registerIssued backend world.storage jti sub (some body.delegate) now).issued.get id =
        if jti = id then some ⟨sub,some body.delegate,now⟩ else world.storage.issued.get id :=
      register_issued_get world.storage ⟨sub,some body.delegate,now⟩
    rw [register] at found
    rw [stored] at found
    split at found
    · rename_i same
      cases found
      exact ⟨body.delegate,rfl,same ▸ List.mem_append_right _ List.mem_cons_self⟩
    · obtain ⟨delegate,same,member⟩ := sound.recorded id entry found
      exact ⟨delegate,same,List.mem_append_left _ member⟩
  · intro id
    have kept : isRevoked (register backend world sub body jti now).storage id = isRevoked world.storage id := by cases backend <;> rfl
    rw [kept,sound.revocations]
    constructor
    · exact Withdrawn.grows fun _ member => List.mem_append_left _ member
    · rintro ⟨caller,root,ids,member,inside⟩
      rcases List.mem_append.mp member with before | new
      · exact ⟨caller,root,ids,before,inside⟩
      · cases List.mem_singleton.mp new

theorem cascade_keeps (sound : Sound world) (own : Own world (.revoking sub tokenId)) {now : Nat → Int} {rows : List (Revocation Int)}
    (found : cascadeRevocations backend world.storage tokenId none now = some rows) :
    Keeps world (cascade world sub tokenId rows) (.answered sub (.delete tokenId) .noContent) := by
  obtain ⟨again,same,ids⟩ := cascadeRevocations_explore backend world.storage tokenId none now
  rw [found] at same
  cases same
  have reached (id : String) (inside : id ∈ rows.map Revocation.tokenId) : Within (issuedUnder world.storage) maxCascadeDepth tokenId id := by
    rw [ids] at inside
    rcases explore_within _ _ _ _ id inside with impossible | reach
    · cases impossible
    · exact reach.mono (cascadeChildren_issued backend world.storage)
  have root : tokenId ∈ rows.map Revocation.tokenId := by
    rw [ids]
    exact (explore_leading (cascadeChildren backend world.storage) (cascadeChildren_nodup backend world.storage) maxCascadeDepth tokenId tokenId).mpr
      (.inl rfl)
  have here : .revoked sub tokenId (rows.map Revocation.tokenId) ∈ (cascade world sub tokenId rows).log := List.mem_append_right _ List.mem_cons_self
  refine ⟨⟨sound.justified.append _ ⟨own,root,fun id inside => chain_within sound (reached id inside)⟩,?_,?_⟩,⟨_,here⟩,
    fun _ member => List.mem_append_left _ member⟩
  · intro id entry held
    rw [cascade,revoke_all_issued] at held
    obtain ⟨delegate,same,member⟩ := sound.recorded id entry held
    exact ⟨delegate,same,List.mem_append_left _ member⟩
  · intro id
    rw [cascade,revoke_all_get,sound.revocations]
    constructor
    · rintro (inside | before)
      · exact ⟨sub,tokenId,_,here,inside⟩
      · exact before.grows fun _ member => List.mem_append_left _ member
    · rintro ⟨caller,root,others,member,inside⟩
      rcases List.mem_append.mp member with before | new
      · exact .inr ⟨caller,root,others,before,inside⟩
      · cases List.mem_singleton.mp new
        exact .inl inside

variable {PublicKey PrivateKey : Type} {server : Server PublicKey PrivateKey} {input : Input}

theorem postDelegation_own (world : World) (sub : String) (body : CreateDelegationRequest) (now : DateTime) (created : Int) (drawn : String) :
    Own world (postDelegation server sub body now created drawn) := by
  unfold postDelegation
  split
  · trivial
  · split
    · trivial
    · split
      · trivial
      · trivial
      · split <;> trivial

theorem handle_own (sound : Sound world) (sub : String) (now : DateTime) (created : Int) (drawn : String) (request : Request) :
    Own world (handle server world sub now created drawn request) := by
  cases request with
  | post body => exact postDelegation_own world sub body now created drawn
  | delete tokenId =>
    unfold handle
    dsimp only
    split
    · trivial
    · exact deleteDelegation_own sound
  | list active =>
    unfold handle
    dsimp only
    split
    · trivial
    · exact issuedRows_own sound sub active
  | get tokenId =>
    unfold handle
    dsimp only
    split
    · trivial
    · exact getDelegation_answered sound

theorem step_keeps (sound : Sound world) (own : Own world task) (taken : step server world task input = some (later,task')) :
    Keeps world later task' := by
  unfold step at taken
  split at taken
  · split at taken
    · cases taken
      exact idle_keeps sound trivial
    · cases taken
      exact idle_keeps sound (handle_own sound _ _ _ _ _)
  · obtain ⟨backend,-,same⟩ := Option.map_eq_some_iff.mp taken
    cases same
    exact register_keeps sound _ _ _ _
  · obtain ⟨rows,found,same⟩ := Option.map_eq_some_iff.mp taken
    obtain ⟨backend,-,walked⟩ := Option.bind_eq_some_iff.mp found
    cases same
    exact cascade_keeps sound own walked
  · cases taken
    exact idle_keeps sound (listDelegations_answered sound own)
  · cases taken

-- Nothing takes a revocation back.
theorem step_revoked (taken : step server world task input = some (later,task')) (revoked : isRevoked world.storage id = true) :
    isRevoked later.storage id = true := by
  unfold step at taken
  split at taken
  · split at taken <;> cases taken <;> exact revoked
  · obtain ⟨backend,-,same⟩ := Option.map_eq_some_iff.mp taken
    cases same
    cases backend <;> exact revoked
  · obtain ⟨rows,-,same⟩ := Option.map_eq_some_iff.mp taken
    cases same
    exact (revoke_all_get rows world.storage id).mpr (.inr revoked)
  · cases taken
    exact revoked
  · cases taken
end Chains

section Runs
variable {PublicKey PrivateKey : Type} (server : Server PublicKey PrivateKey)

theorem advance_step {world later : World} {task task' : Task} {input : Input} {events : List Empty}
    (advanced : (program server).advance world task input = some (later,task',events)) : step server world task input = some (later,task') := by
  obtain ⟨after,taken,same⟩ := Option.map_eq_some_iff.mp advanced
  cases same
  exact taken

-- However the requests interleave: what is revoked has been revoked by the issuer of a token that it is derived from,
-- and a caller learns only of tokens that it has issued or holds.
theorem revoked_by_issuer (moves : List (Move Task Input)) (final : Machine World Task Empty)
    (run : Runs (program server).next (fun _ _ => True) (.init World.init) moves final) :
    (∀ id, isRevoked final.store.storage id = true ↔ Withdrawn final.store.log id) ∧
    (∀ earlier event later, final.store.log = earlier ++ event :: later → Reason earlier event) ∧
    ∀ id sub request response, final.tasks.get id = some (.answered sub request response) → Answered final.store.log sub request response := by
  have holds := (program server).interleaved (fun _ _ => True) (fun world _ => Sound world) Own
    (fun world task arrives => by
      cases task with
      | called claims request => trivial
      | _ => cases arrives)
    (fun m id input task store task' events holds _ known advanced => by
      have kept := step_keeps holds.1 (holds.2 id task known) (advance_step server advanced)
      exact ⟨kept.sound,kept.own,fun other waiting _ found => (holds.2 other waiting found).grows kept.grows⟩)
    (.init World.init) final moves run
    ⟨⟨.nil,fun _ _ found => (by cases found),fun id => iff_of_false Bool.false_ne_true (by rintro ⟨_,_,_,member,_⟩; cases member)⟩,
      fun _ _ found => by cases found⟩
  exact ⟨holds.1.revocations,justified_iff.mp holds.1.justified,fun id sub request response found => holds.2 id _ found⟩

theorem revoked_stays {m final : Machine World Task Empty} {moves : List (Move Task Input)} {id : String}
    (run : Runs (program server).next (fun _ _ => True) m moves final) (revoked : isRevoked m.store.storage id = true) :
    isRevoked final.store.storage id = true := by
  refine run.invariant (fun m => isRevoked m.store.storage id = true) ?_ revoked
  intro m move next _ taken revoked
  cases move with
  | arrive other task =>
    obtain ⟨-,-,rfl⟩ := (program server).next_arrive m next other task taken
    exact revoked
  | proceed other input =>
    obtain ⟨task,store,task',events,-,advanced,rfl⟩ := (program server).next_proceed m next other input taken
    exact step_revoked (advance_step server advanced) revoked

-- A token that passes the validation against the storage was not revoked at any time before.
theorem validated_never_revoked {m final : Machine World Task Empty} {moves : List (Move Task Input)} {callables : Callables PublicKey}
    {token action : String} {now : Int} (run : Runs (program server).next (fun _ _ => True) m moves final)
    (reads : callables.isRevoked = some (fun id => .ok (isRevoked final.store.storage id)))
    (succeeds : Succeeds server.jose server.python server.doubles callables token action now) :
    ∃ iss key claims, callables.publicKeyResolver iss = .ok key ∧ server.jose.decode token key DelegationTokens.jwtAlgsVerify = .ok claims ∧
      ∀ id, DelegationTokens.tokenId server.python claims = some id → isRevoked m.store.storage id = false := by
  obtain ⟨iss,key,claims,scopes,-,resolved,decoded,-,-,current,-⟩ := DelegationTokens.validateDelegation_succeeds succeeds
  refine ⟨iss,key,claims,resolved,decoded,?_⟩
  intro id own
  have answer := DelegationTokens.notRevoked_ok.mp current id _ own reads
  rw [Bool.eq_false_iff]
  intro revoked
  rw [revoked_stays server run revoked] at answer
  cases answer
end Runs

section Sample
open DelegationTokens (Claims exactDoubles sampleUrn)

def issuedClaims (jti : String) : Claims :=
  fill [("iss",.str sampleUrn),("jti",.str jti),("exp",.int 1700086400),("scp",.list [.str "task.execute"])]

-- A library that writes the id of a token and reads these claims back.
def idJose : Jose Unit Unit where
  encode _ claims _ _ :=
    match claims.get "jti" with
    | some (.str jti) => .ok ("h." ++ jti ++ ".s")
    | _ => .error ⟨.other,""⟩
  decode token _ _ := .ok (issuedClaims (String.ofList (((token.toList.splitOn '.').getD 1 []))))

def idPython : DelegationTokens.Python where
  segment payload := .ok (.dict ((issuedClaims payload).entries.map (fun row => (.str row.1,row.2))))
  str _ := ""
  intOfStr := String.toInt?

def idServer : Server Unit Unit := ⟨idJose,idPython,exactDoubles,fun _ => .ok (),some .inMemory⟩

def november : DateTime := ⟨2023,11,14,22,13,20,0,some 0,by decide,by decide,DelegationTokens.utc_offset⟩

def holder (sub : String) : Option OAuth2Claims := some ⟨sub,[scopeExecute]⟩

def delegateTo (delegate : String) : Request := .post ⟨delegate,["task.execute"],none,none,by decide⟩

def posting (id : Nat) (sub delegate drawn : String) : List (Move Task Input) :=
  [.arrive id (.called (holder sub) (delegateTo delegate)),.proceed id (.handle november 1700000000000000 drawn),
    .proceed id (.register 1700000000000000)]

-- The agent delegates to b and to c, b to d; then it takes back what it has given to b.
def issuing : List (Move Task Input) := posting 0 sampleUrn "b" "1" ++ posting 1 "b" "d" "2" ++ posting 2 sampleUrn "c" "3"

def takingBack : List (Move Task Input) :=
  [.arrive 3 (.called (holder sampleUrn) (.delete "del_1")),.proceed 3 (.handle november 1700000000000000 ""),
    .arrive 4 (.called (holder "b") (.list false)),.proceed 4 (.handle november 1700000000000000 ""),
    .proceed 3 (.cascade (fun n => 1700000000000000 + n)),.proceed 4 .read,
    .arrive 5 (.called (holder "d") (.get "del_2")),.proceed 5 (.handle november 1700000000000000 "")]

def issuedAll : Option (Machine World Task Empty) := execute (program idServer).next anyMove (.init World.init) issuing

theorem issued_all : issuedAll.isSome = true := by decide +kernel

def takenBack : Option (Machine World Task Empty) := execute (program idServer).next anyMove (issuedAll.get issued_all) takingBack

theorem taken_back : takenBack.isSome = true := by decide +kernel

theorem revoked_by_issuer_sample :
    (∀ id, isRevoked (takenBack.get taken_back).store.storage id = true ↔ Withdrawn (takenBack.get taken_back).store.log id) ∧
    (∀ earlier event later, (takenBack.get taken_back).store.log = earlier ++ event :: later → Reason earlier event) ∧
    ∀ id sub request response, (takenBack.get taken_back).tasks.get id = some (.answered sub request response) →
      Answered (takenBack.get taken_back).store.log sub request response :=
  revoked_by_issuer idServer (issuing ++ takingBack) _
    ((execute_free (Option.some_get issued_all).symm).append (execute_free (Option.some_get taken_back).symm))

def storageCallables (s : Storage Int) : Callables Unit := ⟨fun _ => .ok (),none,none,some (fun id => .ok (isRevoked s id))⟩

def validatedAfter (token : String) : Bool :=
  match DelegationTokens.validateDelegation idJose idPython exactDoubles (storageCallables (takenBack.get taken_back).store.storage) token
      "task.execute" 1700000001000000 with
  | .ok result => result.success
  | .error _ => false

theorem validated_after : validatedAfter "h.del_3.s" = true ∧ validatedAfter "h.del_2.s" = false := by decide +kernel

theorem validated_never_revoked_sample :
    ∃ iss key claims, (storageCallables (takenBack.get taken_back).store.storage).publicKeyResolver iss = .ok key ∧
      idJose.decode "h.del_3.s" key DelegationTokens.jwtAlgsVerify = .ok claims ∧
      ∀ id, DelegationTokens.tokenId idPython claims = some id → isRevoked (issuedAll.get issued_all).store.storage id = false := by
  have run := execute_free (Option.some_get taken_back).symm
  have succeeds : Succeeds idJose idPython exactDoubles (storageCallables (takenBack.get taken_back).store.storage) "h.del_3.s" "task.execute"
      1700000001000000 := by
    have validated := validated_after.1
    unfold validatedAfter at validated
    split at validated
    · rename_i result found
      exact ⟨result,found,validated⟩
    · cases validated
  exact validated_never_revoked idServer run rfl succeeds
end Sample

end Asap.DelegationApi
