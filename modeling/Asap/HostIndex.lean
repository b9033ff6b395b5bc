import Asap.TypescriptSessions

-- The thumbprint index of the host store over any saves and revokes.
namespace Asap.HostIndex
open OrderedDict AgentIdentity
open TypescriptSessions (HostStore)

variable (digest : String → String)

def thumb (host : HostIdentity) : Option String := jwkThumbprintSha256 digest host.publicKey

def revoke (s : HostStore) (hostId : String) : HostStore :=
  match s.hosts.get hostId with
  | none => s
  | some host => if host.status = .revoked then s else {s with hosts := s.hosts.set hostId {host with status := .revoked}}

inductive Op where
  | save (host : HostIdentity)
  | revoke (hostId : String)

-- A save that raises changes nothing.
def step (s : HostStore) : Op → HostStore
  | .save host => (s.save digest host).getD s
  | .revoke hostId => revoke s hostId

def empty : HostStore := ⟨.empty,.empty⟩

def reached (ops : List Op) : HostStore := ops.foldl (step digest) empty

-- A key resolves exactly when a stored host has it, to a host that has it; that of a
-- revoked host resolves to no other host that is not revoked.
structure Correct (s : HostStore) : Prop where
  resolves : ∀ tp, (s.getByPublicKey tp).isSome ↔ ∃ id host, s.hosts.get id = some host ∧ thumb digest host = some tp
  own : ∀ tp host, s.getByPublicKey tp = some host → thumb digest host = some tp
  closed : ∀ id host tp other, s.hosts.get id = some host → host.status = .revoked → thumb digest host = some tp →
    s.getByPublicKey tp = some other → other.hostId ≠ host.hostId → other.status = .revoked

-- A save takes no key from a revoked host, unless for a host saved as revoked, and drops no
-- key that another host has; a revoked host's key resolves to none other that is live.
def Safe (s : HostStore) : Op → Prop
  | .save host => ∀ tp, thumb digest host = some tp →
    (∀ id other, s.hosts.get id = some other → id ≠ host.hostId → thumb digest other = some tp → other.status = .revoked →
      host.status = .revoked) ∧
    ∀ previous old, s.hosts.get host.hostId = some previous → thumb digest previous = some old → old ≠ tp →
      s.thumbToHostId.get old = some host.hostId →
      ∀ id other, s.hosts.get id = some other → thumb digest other = some old → id = host.hostId
  | .revoke hostId => ∀ host tp id other, s.hosts.get hostId = some host → thumb digest host = some tp →
    s.thumbToHostId.get tp = some id → s.hosts.get id = some other → id ≠ hostId → other.status = .revoked

-- What every sequence keeps: an indexed key is that of the host it names.
structure Kept (s : HostStore) : Prop where
  keyed : ∀ id host, s.hosts.get id = some host → host.hostId = id
  known : ∀ id host, s.hosts.get id = some host → ∃ tp, thumb digest host = some tp
  indexed : ∀ tp id, s.thumbToHostId.get tp = some id → ∃ host, s.hosts.get id = some host ∧ thumb digest host = some tp

variable {digest} {s : HostStore}

theorem empty_kept : Kept digest empty where
  keyed id host found := by simp [empty] at found
  known id host found := by simp [empty] at found
  indexed tp id found := by simp [empty] at found

theorem Kept.resolved (kept : Kept digest s) (tp : String) (host : HostIdentity) :
    s.getByPublicKey tp = some host ↔ s.thumbToHostId.get tp = some host.hostId ∧ s.hosts.get host.hostId = some host := by
  unfold HostStore.getByPublicKey
  rw [Option.bind_eq_some_iff]
  constructor
  · rintro ⟨id,indexed,found⟩
    rw [kept.keyed id host found]
    exact ⟨indexed,found⟩
  · rintro ⟨indexed,found⟩
    exact ⟨host.hostId,indexed,found⟩

-- A stored host's key is in the index.
def Complete (digest : String → String) (s : HostStore) : Prop :=
  ∀ id host tp, s.hosts.get id = some host → thumb digest host = some tp → ∃ owner, s.thumbToHostId.get tp = some owner

-- A revoked host's key is indexed to no other host that is not revoked.
def Closed (digest : String → String) (s : HostStore) : Prop :=
  ∀ id host tp owner other, s.hosts.get id = some host → host.status = .revoked → thumb digest host = some tp →
    s.thumbToHostId.get tp = some owner → s.hosts.get owner = some other → owner ≠ id → other.status = .revoked

theorem correct_iff (kept : Kept digest s) : Correct digest s ↔ Complete digest s ∧ Closed digest s := by
  constructor
  · intro correct
    constructor
    · intro id host tp found named
      obtain ⟨other,resolved⟩ := Option.isSome_iff_exists.mp ((correct.resolves tp).mpr ⟨id,host,found,named⟩)
      exact ⟨other.hostId,((kept.resolved tp other).mp resolved).1⟩
    · intro id host tp owner other found revoked named indexed stored different
      have own := kept.keyed owner other stored
      subst own
      refine correct.closed id host tp other found revoked named ((kept.resolved tp other).mpr ⟨indexed,stored⟩) ?_
      rw [kept.keyed id host found]
      exact different
  · rintro ⟨complete,closed⟩
    have own : ∀ tp host, s.getByPublicKey tp = some host → s.hosts.get host.hostId = some host ∧ thumb digest host = some tp := by
      intro tp host resolved
      obtain ⟨indexed,found⟩ := (kept.resolved tp host).mp resolved
      obtain ⟨same,again,named⟩ := kept.indexed tp host.hostId indexed
      rw [found] at again
      cases again
      exact ⟨found,named⟩
    refine ⟨?_,fun tp host resolved => (own tp host resolved).2,?_⟩
    · intro tp
      constructor
      · intro some_resolved
        obtain ⟨host,resolved⟩ := Option.isSome_iff_exists.mp some_resolved
        exact ⟨host.hostId,host,own tp host resolved⟩
      · rintro ⟨id,host,found,named⟩
        obtain ⟨owner,indexed⟩ := complete id host tp found named
        obtain ⟨other,stored,_⟩ := kept.indexed tp owner indexed
        have keyed := kept.keyed owner other stored
        subst keyed
        exact Option.isSome_iff_exists.mpr ⟨other,(kept.resolved tp other).mpr ⟨indexed,stored⟩⟩
    · intro id host tp other found revoked named resolved different
      obtain ⟨indexed,stored⟩ := (kept.resolved tp other).mp resolved
      rw [kept.keyed id host found] at different
      exact closed id host tp other.hostId other found revoked named indexed stored different

-- A save that does not raise stores the host, and leaves it exactly its new key in the index.
theorem save_parts (kept : Kept digest s) (host : HostIdentity) (tp : String) (named : thumb digest host = some tp) :
    ∃ next, s.save digest host = some next ∧ next.hosts = s.hosts.set host.hostId host ∧
      ∀ key id, next.thumbToHostId.get key = some id ↔
        key = tp ∧ id = host.hostId ∨ key ≠ tp ∧ id ≠ host.hostId ∧ s.thumbToHostId.get key = some id := by
  unfold thumb at named
  unfold HostStore.save
  rw [named,Option.bind_some]
  -- Under another key the index names the host only where its old key is.
  have written (index : Dict String String) (dropped : ∀ key id, key ≠ tp →
      (index.get key = some id ↔ id ≠ host.hostId ∧ s.thumbToHostId.get key = some id)) (key id : String) :
      (index.set tp host.hostId).get key = some id ↔
        key = tp ∧ id = host.hostId ∨ key ≠ tp ∧ id ≠ host.hostId ∧ s.thumbToHostId.get key = some id := by
    rw [Dict.get_set]
    by_cases own : tp = key
    · subst own
      simp [eq_comm]
    · rw [if_neg own,dropped key id (Ne.symm own)]
      simp [Ne.symm own]
  cases found : s.hosts.get host.hostId with
  | none =>
    refine ⟨_,rfl,rfl,written s.thumbToHostId (fun key id _ => ⟨fun indexed => ⟨?_,indexed⟩,fun both => both.2⟩)⟩
    rintro rfl
    obtain ⟨stored,again,_⟩ := kept.indexed key _ indexed
    rw [found] at again
    cases again
  | some previous =>
    obtain ⟨old,former⟩ := kept.known _ previous found
    have only (key : String) (indexed : s.thumbToHostId.get key = some host.hostId) : key = old := by
      obtain ⟨stored,again,keyed⟩ := kept.indexed key _ indexed
      rw [found] at again
      cases again
      exact Option.some.inj (keyed.symm.trans former)
    unfold thumb at former
    simp only [former,Option.map_some]
    refine ⟨_,rfl,rfl,written _ (fun key id other => ?_)⟩
    split
    · rename_i moved
      rw [Dict.get_erase]
      by_cases same : old = key
      · subst same
        simp only [if_true,moved.2,Option.some.injEq]
        constructor
        · intro impossible
          cases impossible
        · rintro ⟨different,rfl⟩
          exact (different rfl).elim
      · rw [if_neg same]
        refine ⟨fun indexed => ⟨?_,indexed⟩,fun both => both.2⟩
        rintro rfl
        exact same (only key indexed).symm
    · rename_i kept_old
      refine ⟨fun indexed => ⟨?_,indexed⟩,fun both => both.2⟩
      rintro rfl
      have same := only key indexed
      subst same
      exact kept_old ⟨other,indexed⟩

theorem save_refused {host : HostIdentity} (unnamed : thumb digest host = none) : step digest s (.save host) = s := by
  unfold thumb at unnamed
  simp [step,HostStore.save,unnamed]

theorem save_stored {host : HostIdentity} (saved : s.save digest host = some next) : step digest s (.save host) = next := by
  simp [step,saved]

theorem save_kept (kept : Kept digest s) (host : HostIdentity) : Kept digest (step digest s (.save host)) := by
  cases named : thumb digest host with
  | none =>
    rw [save_refused named]
    exact kept
  | some tp =>
    obtain ⟨next,saved,hosts,index⟩ := save_parts kept host tp named
    rw [save_stored saved]
    refine ⟨?_,?_,?_⟩
    · intro id stored found
      rw [hosts,Dict.get_set] at found
      split at found
      · rename_i own
        cases found
        exact own
      · exact kept.keyed id stored found
    · intro id stored found
      rw [hosts,Dict.get_set] at found
      split at found
      · cases found
        exact ⟨tp,named⟩
      · exact kept.known id stored found
    · intro key id indexed
      rw [hosts,Dict.get_set]
      rcases (index key id).mp indexed with ⟨rfl,rfl⟩ | ⟨_,other,before⟩
      · exact ⟨host,if_pos rfl,named⟩
      · rw [if_neg (Ne.symm other)]
        exact kept.indexed key id before

-- A revoke changes no key, and of statuses only that of its host.
theorem revoke_parts (hostId : String) :
    (revoke s hostId).thumbToHostId = s.thumbToHostId ∧
    ∀ id host, (revoke s hostId).hosts.get id = some host ↔
      ∃ before, s.hosts.get id = some before ∧ host = if id = hostId then {before with status := .revoked} else before := by
  unfold revoke
  cases found : s.hosts.get hostId with
  | none =>
    refine ⟨rfl,fun id host => ?_⟩
    constructor
    · intro stored
      have other : id ≠ hostId := by
        rintro rfl
        rw [found] at stored
        cases stored
      exact ⟨host,stored,(if_neg other).symm⟩
    · rintro ⟨before,stored,rfl⟩
      have other : id ≠ hostId := by
        rintro rfl
        rw [found] at stored
        cases stored
      rw [if_neg other]
      exact stored
  | some current =>
    simp only
    split
    · rename_i revoked
      refine ⟨rfl,fun id host => ?_⟩
      have same : ∀ before, s.hosts.get id = some before → (if id = hostId then {before with status := .revoked} else before) = before := by
        intro before stored
        split
        · rename_i own
          subst own
          rw [found] at stored
          cases stored
          rw [← revoked]
        · rfl
      constructor
      · exact fun stored => ⟨host,stored,(same host stored).symm⟩
      · rintro ⟨before,stored,rfl⟩
        rw [same before stored]
        exact stored
    · refine ⟨rfl,fun id host => ?_⟩
      simp only [Dict.get_set]
      by_cases own : hostId = id
      · subst own
        simp [found,eq_comm]
      · simp [own,Ne.symm own]

theorem revoke_kept (kept : Kept digest s) (hostId : String) : Kept digest (step digest s (.revoke hostId)) := by
  obtain ⟨index,hosts⟩ := revoke_parts (s := s) hostId
  have named (before : HostIdentity) (id : String) :
      thumb digest (if id = hostId then {before with status := .revoked} else before) = thumb digest before := by
    split <;> rfl
  refine ⟨?_,?_,?_⟩
  · intro id host found
    obtain ⟨before,stored,rfl⟩ := (hosts id host).mp found
    rw [← kept.keyed id before stored]
    split <;> rfl
  · intro id host found
    obtain ⟨before,stored,rfl⟩ := (hosts id host).mp found
    rw [named]
    exact kept.known id before stored
  · intro tp id indexed
    change (revoke s hostId).thumbToHostId.get tp = some id at indexed
    rw [index] at indexed
    obtain ⟨before,stored,keyed⟩ := kept.indexed tp id indexed
    exact ⟨_,(hosts id _).mpr ⟨before,stored,rfl⟩,(named before id).trans keyed⟩

theorem save_correct (kept : Kept digest s) (host : HostIdentity) (complete : Complete digest s) (closed : Closed digest s) :
    Complete digest (step digest s (.save host)) ∧ Closed digest (step digest s (.save host)) ↔ Safe digest s (.save host) := by
  cases named : thumb digest host with
  | none =>
    rw [save_refused named]
    refine iff_of_true ⟨complete,closed⟩ ?_
    intro tp impossible
    rw [named] at impossible
    cases impossible
  | some tp =>
    obtain ⟨next,saved,hosts,index⟩ := save_parts kept host tp named
    rw [save_stored saved]
    have stored (id : String) : next.hosts.get id = if host.hostId = id then some host else s.hosts.get id := by
      rw [hosts,Dict.get_set]
    constructor
    · rintro ⟨complete',closed'⟩ key same
      rw [named] at same
      cases same
      constructor
      · intro id other found different keyed revoked
        refine closed' id other tp host.hostId host ?_ revoked keyed ((index tp _).mpr (.inl ⟨rfl,rfl⟩)) ?_ (Ne.symm different)
        · rw [stored,if_neg (Ne.symm different)]
          exact found
        · rw [stored,if_pos rfl]
      · intro previous old found former moved indexed id other known keyed
        by_contra different
        obtain ⟨owner,left⟩ := complete' id other old (by rw [stored,if_neg (Ne.symm different)]; exact known) keyed
        rcases (index old owner).mp left with ⟨same,_⟩ | ⟨_,apart,before⟩
        · exact moved same
        · rw [indexed] at before
          cases before
          exact apart rfl
    · intro safe
      obtain ⟨taken,dropped⟩ := safe tp named
      constructor
      · intro id other key found keyed
        rw [stored] at found
        split at found
        · rename_i own
          cases found
          rw [named] at keyed
          cases keyed
          exact ⟨host.hostId,(index tp _).mpr (.inl ⟨rfl,rfl⟩)⟩
        · rename_i different
          by_cases same : key = tp
          · exact ⟨host.hostId,(index key _).mpr (.inl ⟨same,rfl⟩)⟩
          · obtain ⟨owner,before⟩ := complete id other key found keyed
            by_cases owned : owner = host.hostId
            · subst owned
              obtain ⟨previous,was,former⟩ := kept.indexed key _ before
              exact absurd (dropped previous key was former same before id other found keyed).symm different
            · exact ⟨owner,(index key owner).mpr (.inr ⟨same,owned,before⟩)⟩
      · intro id other key owner current found revoked keyed indexed owns different
        rcases (index key owner).mp indexed with ⟨rfl,rfl⟩ | ⟨same,apart,before⟩
        · rw [stored,if_pos rfl] at owns
          cases owns
          rw [stored,if_neg different] at found
          exact taken id other found (Ne.symm different) keyed revoked
        · rw [stored,if_neg (Ne.symm apart)] at owns
          rw [stored] at found
          split at found
          · cases found
            rw [named] at keyed
            cases keyed
            exact (same rfl).elim
          · exact closed id other key owner current found revoked keyed before owns different

theorem revoke_correct (hostId : String) (complete : Complete digest s) (closed : Closed digest s) :
    Complete digest (step digest s (.revoke hostId)) ∧ Closed digest (step digest s (.revoke hostId)) ↔
      Safe digest s (.revoke hostId) := by
  obtain ⟨index,hosts⟩ := revoke_parts (s := s) hostId
  have named (before : HostIdentity) (id : String) :
      thumb digest (if id = hostId then {before with status := .revoked} else before) = thumb digest before := by
    split <;> rfl
  change Complete digest (revoke s hostId) ∧ Closed digest (revoke s hostId) ↔ _
  have complete' : Complete digest (revoke s hostId) := by
    intro id host tp found keyed
    obtain ⟨before,stored,rfl⟩ := (hosts id host).mp found
    rw [named] at keyed
    rw [index]
    exact complete id before tp stored keyed
  rw [and_iff_right complete']
  constructor
  · intro closed' host tp id other found keyed indexed owns different
    have live := closed' hostId {host with status := .revoked} tp id other ((hosts hostId _).mpr ⟨host,found,(if_pos rfl).symm⟩) rfl keyed
      (by rw [index]; exact indexed) ((hosts id other).mpr ⟨other,owns,(if_neg different).symm⟩) different
    exact live
  · intro safe id host tp owner other found revoked keyed indexed owns different
    rw [index] at indexed
    obtain ⟨before,stored,rfl⟩ := (hosts id host).mp found
    obtain ⟨current,held,rfl⟩ := (hosts owner other).mp owns
    rw [named] at keyed
    by_cases ownRevoked : owner = hostId
    · rw [if_pos ownRevoked]
    · rw [if_neg ownRevoked]
      by_cases here : id = hostId
      · subst here
        exact safe before tp owner current stored keyed indexed held different
      · rw [if_neg here] at revoked
        exact closed id before tp owner current stored revoked keyed indexed held different

theorem step_kept (kept : Kept digest s) (op : Op) : Kept digest (step digest s op) := by
  cases op with
  | save host => exact save_kept kept host
  | revoke hostId => exact revoke_kept kept hostId

theorem step_correct (kept : Kept digest s) (correct : Correct digest s) (op : Op) :
    Correct digest (step digest s op) ↔ Safe digest s op := by
  obtain ⟨complete,closed⟩ := (correct_iff kept).mp correct
  rw [correct_iff (step_kept kept op)]
  cases op with
  | save host => exact save_correct kept host complete closed
  | revoke hostId => exact revoke_correct hostId complete closed

theorem reached_snoc (ops : List Op) (op : Op) : reached digest (ops ++ [op]) = step digest (reached digest ops) op := by
  simp [reached]

theorem reached_kept (ops : List Op) : Kept digest (reached digest ops) := by
  induction ops using List.reverseRecOn with
  | nil => exact empty_kept
  | append_singleton ops op ih =>
    rw [reached_snoc]
    exact step_kept ih op

theorem empty_correct : Correct digest empty := by
  rw [correct_iff empty_kept]
  exact ⟨fun id host tp found => by simp [empty] at found,fun id host tp owner other found => by simp [empty] at found⟩

variable (digest)

-- Every state of a sequence is correct exactly when all its steps are safe.
theorem host_index_correct_iff (ops : List Op) :
    (∀ before, before <+: ops → Correct digest (reached digest before)) ↔
      ∀ before op, before ++ [op] <+: ops → Safe digest (reached digest before) op := by
  constructor
  · intro correct before op inside
    have start := correct before ((List.prefix_append before [op]).trans inside)
    have next := correct (before ++ [op]) inside
    rw [reached_snoc] at next
    exact (step_correct (reached_kept before) start op).mp next
  · intro safe before
    induction before using List.reverseRecOn with
    | nil => exact fun _ => empty_correct
    | append_singleton before op ih =>
      intro inside
      rw [reached_snoc]
      exact (step_correct (reached_kept before) (ih ((List.prefix_append before [op]).trans inside)) op).mpr (safe before op inside)

def hostWith (hostId : String) (publicKey : PublicKey) : HostIdentity where
  hostId := hostId
  publicKey := publicKey
  status := .active

-- A revoked host's key saved for another host.
def takenOver : List Op := [.save (hostWith "h1" firstKey),.revoke "h1",.save (hostWith "h2" firstKey)]

-- Two hosts with one key, of which the second one changes its key.
def dropped : List Op := [.save (hostWith "h1" firstKey),.save (hostWith "h2" firstKey),.save (hostWith "h2" secondKey)]

theorem shared_key_misresolved :
    ¬Correct keyDigest (reached keyDigest takenOver) ∧ ¬Correct keyDigest (reached keyDigest dropped) := by
  constructor
  · intro correct
    have found : (reached keyDigest takenOver).hosts.get "h1" = some {hostWith "h1" firstKey with status := .revoked} := rfl
    have keyed : ∃ tp, thumb keyDigest (hostWith "h1" firstKey) = some tp := ⟨_,rfl⟩
    obtain ⟨tp,keyed⟩ := keyed
    have resolved : (thumb keyDigest (hostWith "h1" firstKey)).bind (reached keyDigest takenOver).getByPublicKey =
        some (hostWith "h2" firstKey) := rfl
    rw [keyed,Option.bind_some] at resolved
    have revoked := correct.closed "h1" _ tp _ found rfl keyed resolved (by decide)
    cases revoked
  · intro correct
    have found : (reached keyDigest dropped).hosts.get "h1" = some (hostWith "h1" firstKey) := rfl
    have resolved : (thumb keyDigest (hostWith "h1" firstKey)).bind (reached keyDigest dropped).getByPublicKey = none := rfl
    obtain ⟨tp,keyed⟩ : ∃ tp, thumb keyDigest (hostWith "h1" firstKey) = some tp := ⟨_,rfl⟩
    rw [keyed,Option.bind_some] at resolved
    have present := (correct.resolves tp).mpr ⟨"h1",_,found,keyed⟩
    rw [resolved] at present
    cases present

end Asap.HostIndex
