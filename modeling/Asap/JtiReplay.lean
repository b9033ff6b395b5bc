import Asap.OrderedDict
import Asap.PythonValue
import Asap.SlidingWindow

namespace Asap.JtiReplay
open OrderedDict PythonValue SlidingWindow

-- (partition key, jti)
abbrev ReplayKey := String × String
abbrev Recording := ReplayKey × Int

-- Instants and durations are in microseconds.
structure JtiReplayCache where
  ttl : Int
  maxSize : Nat
  expiryByKey : Dict ReplayKey Int

def defaultTtl : Int := 90000000
def defaultMaxSize : Nat := 10000

def init : JtiReplayCache := ⟨defaultTtl,defaultMaxSize,.empty⟩

def pruneExpired (c : JtiReplayCache) (now : Int) : JtiReplayCache :=
  {c with expiryByKey := c.expiryByKey.retain (fun row => decide (now < row.2))}

-- `min` over the keys: the first of those with the earliest expiry.
def earliest : List Recording → Option Recording
  | [] => none
  | first :: rest => some (rest.foldl (fun best row => if row.2 < best.2 then row else best) first)

-- Each round of the loop drops one entry, so the size is fuel enough.
def evictLoop (maxSize : Nat) : Nat → Dict ReplayKey Int → Dict ReplayKey Int
  | 0,d => d
  | fuel + 1,d =>
    if d.size ≤ maxSize then d
    else match earliest d.entries with
      | none => d
      | some oldest => evictLoop maxSize fuel (d.erase oldest.1)

def evictToMaxSize (c : JtiReplayCache) : JtiReplayCache :=
  {c with expiryByKey := evictLoop c.maxSize c.expiryByKey.size c.expiryByKey}

def recordedAt (c : JtiReplayCache) (key : ReplayKey) (now : Int) : Bool :=
  match c.expiryByKey.get key with
  | none => false
  | some expiry => decide (now < expiry)

def contains (c : JtiReplayCache) (partitionKey jti : String) (now : Int) : JtiReplayCache × Bool :=
  if strip jti = "" then (c,false)
  else
    let pruned := pruneExpired c now
    (pruned,recordedAt pruned (partitionKey,jti) now)

def checkAndRecord (c : JtiReplayCache) (partitionKey jti : String) (now : Int) : JtiReplayCache × Bool :=
  if strip jti = "" then (c,false)
  else
    let pruned := pruneExpired c now
    let key := (partitionKey,jti)
    if recordedAt pruned key now then (pruned,false)
    else (evictToMaxSize {pruned with expiryByKey := pruned.expiryByKey.set key (now + c.ttl)},true)

-- The cache at the time of the last prune, as the window over everything recorded so far.
structure Tracks (c : JtiReplayCache) (clock : Int) (history : List Recording) : Prop where
  entries : c.expiryByKey.entries = window Prod.snd c.maxSize clock history
  ordered : Ordered Prod.snd history
  bounded : ∀ row ∈ history, row.2 ≤ clock + c.ttl

theorem tracks_init (clock : Int) : Tracks init clock [] where
  entries := by simp [init,Dict.empty,window,List.rtake]
  ordered := .nil
  bounded _ member := by cases member

theorem earliest_ordered (first : Recording) (rest : List Recording) (ordered : Ordered Prod.snd (first :: rest)) :
    earliest (first :: rest) = some first := by
  have later := (List.pairwise_cons.mp ordered).1
  simp only [earliest,Option.some.injEq]
  clear ordered
  induction rest with
  | nil => rfl
  | cons row rest ih =>
    have kept : ¬ row.2 < first.2 := not_lt.mpr (later row List.mem_cons_self)
    rw [List.foldl_cons,if_neg kept]
    exact ih (fun other member => later other (List.mem_cons_of_mem row member))

theorem erase_first (d : Dict ReplayKey Int) (first : Recording) (rest : List Recording) (shape : d.entries = first :: rest) :
    (d.erase first.1).entries = rest := by
  have distinct := d.distinct
  rw [shape,List.map_cons,List.nodup_cons] at distinct
  show d.entries.filter _ = rest
  rw [shape,List.filter_cons_of_neg (by simp)]
  apply List.filter_eq_self.mpr
  intro row member
  simp only [decide_eq_true_eq]
  intro same
  exact distinct.1 (same ▸ List.mem_map_of_mem member)

-- With the entries in order of expiry the loop cuts the front off.
theorem evictLoop_entries (maxSize fuel : Nat) (d : Dict ReplayKey Int) (ordered : Ordered Prod.snd d.entries)
    (enough : d.size ≤ fuel) : (evictLoop maxSize fuel d).entries = d.entries.rtake maxSize := by
  induction fuel generalizing d with
  | zero =>
    have empty : d.entries = [] := List.length_eq_zero_iff.mp (Nat.le_zero.mp enough)
    simp [evictLoop,empty,List.rtake]
  | succ fuel ih =>
    unfold evictLoop
    split
    · rename_i fits
      exact (rtake_of_length_le fits).symm
    · rename_i full
      cases shape : d.entries with
      | nil => simp [Dict.size,shape] at full
      | cons first rest =>
        have long : maxSize ≤ rest.length := by
          have size : d.size = rest.length + 1 := by simp [Dict.size,shape]
          omega
        have remaining := erase_first d first rest shape
        rw [shape] at ordered
        simp only [earliest_ordered first rest ordered]
        rw [ih (d.erase first.1),remaining,rtake_cons_of_length_le first long]
        · rw [remaining]
          exact (List.pairwise_cons.mp ordered).2
        · simp only [Dict.size,remaining] at enough ⊢
          rw [shape,List.length_cons] at enough
          omega

variable {c : JtiReplayCache} {clock now : Int} {history : List Recording}

theorem tracks_prune (tracks : Tracks c clock history) (advance : clock ≤ now) : Tracks (pruneExpired c now) now history where
  entries := by
    show c.expiryByKey.entries.filter _ = _
    rw [tracks.entries]
    exact window_later tracks.ordered advance
  ordered := tracks.ordered
  bounded row member := (tracks.bounded row member).trans (by show clock + c.ttl ≤ now + c.ttl; omega)

theorem recordedAt_iff (key : ReplayKey) (tracks : Tracks c now history) :
    recordedAt c key now = true ↔ key ∈ (window Prod.snd c.maxSize now history).map Prod.fst := by
  unfold recordedAt
  rw [← tracks.entries]
  cases found : c.expiryByKey.get key with
  | none => simpa [Dict.keys] using c.expiryByKey.get_none_iff.mp found
  | some expiry =>
    have member := (c.expiryByKey.mem_iff).mpr found
    have alive : now < expiry := by
      rw [tracks.entries] at member
      exact (window_subset member).2
    simpa [alive] using ⟨expiry,member⟩

theorem ordered_append (row : Recording) (ordered : Ordered Prod.snd history) (last : ∀ earlier ∈ history, earlier.2 ≤ row.2) :
    Ordered Prod.snd (history ++ [row]) := by
  apply List.pairwise_append.mpr
  refine ⟨ordered,List.pairwise_singleton _ _,?_⟩
  intro earlier member later same
  cases List.mem_singleton.mp same
  exact last earlier member

theorem tracks_record (key : ReplayKey) (tracks : Tracks c now history) (positive : 0 < c.ttl)
    (absent : recordedAt c key now = false) :
    Tracks (evictToMaxSize {c with expiryByKey := c.expiryByKey.set key (now + c.ttl)}) now (history ++ [(key,now + c.ttl)]) where
  entries := by
    have missing : key ∉ c.expiryByKey.entries.map Prod.fst := by
      rw [tracks.entries,← recordedAt_iff key tracks,absent]
      exact Bool.false_ne_true
    have appended : (c.expiryByKey.set key (now + c.ttl)).entries =
        window Prod.snd c.maxSize now history ++ [(key,now + c.ttl)] := by
      show assign key (now + c.ttl) c.expiryByKey.entries = _
      rw [assign_absent key _ missing,tracks.entries]
    have sorted : Ordered Prod.snd (window Prod.snd c.maxSize now history ++ [(key,now + c.ttl)]) := by
      apply ordered_append
      · exact (tracks.ordered.filter _).sublist (List.drop_sublist _ _)
      · exact fun earlier member => tracks.bounded earlier (window_subset member).1
    show (evictLoop c.maxSize _ _).entries = _
    rw [evictLoop_entries _ _ _ (by rw [appended]; exact sorted) le_rfl,appended]
    exact window_append (key,now + c.ttl) (by show now < now + c.ttl; omega)
  ordered := ordered_append _ tracks.ordered (fun earlier member => tracks.bounded earlier member)
  bounded row member := by
    rcases List.mem_append.mp member with old | new
    · exact tracks.bounded row old
    · cases List.mem_singleton.mp new
      exact le_rfl

theorem contains_spec (partitionKey jti : String) (tracks : Tracks c clock history) (advance : clock ≤ now)
    (named : strip jti ≠ "") :
    Tracks (contains c partitionKey jti now).1 now history ∧
      ((contains c partitionKey jti now).2 = true ↔ (partitionKey,jti) ∈ (window Prod.snd c.maxSize now history).map Prod.fst) := by
  have pruned := tracks_prune tracks advance
  simp only [contains,if_neg named]
  exact ⟨pruned,recordedAt_iff (partitionKey,jti) pruned⟩

theorem checkAndRecord_spec (partitionKey jti : String) (tracks : Tracks c clock history) (advance : clock ≤ now)
    (positive : 0 < c.ttl) (named : strip jti ≠ "") :
    if (partitionKey,jti) ∈ (window Prod.snd c.maxSize now history).map Prod.fst then
      (checkAndRecord c partitionKey jti now).2 = false ∧ Tracks (checkAndRecord c partitionKey jti now).1 now history
    else
      (checkAndRecord c partitionKey jti now).2 = true ∧
        Tracks (checkAndRecord c partitionKey jti now).1 now (history ++ [((partitionKey,jti),now + c.ttl)]) := by
  have pruned := tracks_prune tracks advance
  have known := recordedAt_iff (partitionKey,jti) pruned
  simp only [checkAndRecord,if_neg named]
  split
  · rename_i recorded
    rw [if_pos (known.mpr recorded)]
    exact ⟨rfl,pruned⟩
  · rename_i unrecorded
    have absent : recordedAt (pruneExpired c now) (partitionKey,jti) now = false :=
      Bool.eq_false_iff.mpr (fun recorded => unrecorded (known.mp recorded))
    rw [if_neg (by simp [absent])]
    exact ⟨rfl,tracks_record (partitionKey,jti) pruned positive absent⟩

theorem checkAndRecord_settings (c : JtiReplayCache) (partitionKey jti : String) (now : Int) :
    (checkAndRecord c partitionKey jti now).1.ttl = c.ttl ∧ (checkAndRecord c partitionKey jti now).1.maxSize = c.maxSize := by
  unfold checkAndRecord
  split
  · exact ⟨rfl,rfl⟩
  · simp only
    split <;> exact ⟨rfl,rfl⟩

def recordAll (c : JtiReplayCache) (now : Int) (keys : List ReplayKey) : JtiReplayCache :=
  keys.foldl (fun c key => (checkAndRecord c key.1 key.2 now).1) c

theorem recordAll_tracks (keys : List ReplayKey) (tracks : Tracks c now history) (positive : 0 < c.ttl)
    (distinct : (history.map Prod.fst ++ keys).Nodup) (named : ∀ key ∈ keys, strip key.2 ≠ "") :
    Tracks (recordAll c now keys) now (history ++ keys.map (fun key => (key,now + c.ttl))) ∧
      (recordAll c now keys).maxSize = c.maxSize := by
  induction keys generalizing c history with
  | nil => exact ⟨by simpa [recordAll] using tracks,rfl⟩
  | cons key rest ih =>
    have checked := checkAndRecord_spec key.1 key.2 tracks le_rfl positive (named key List.mem_cons_self)
    obtain ⟨ttl,maxSize⟩ := checkAndRecord_settings c key.1 key.2 now
    have unseen : (key.1,key.2) ∉ (window Prod.snd c.maxSize now history).map Prod.fst := by
      intro seen
      obtain ⟨row,member,same⟩ := List.mem_map.mp seen
      have recorded : key ∈ history.map Prod.fst := List.mem_map.mpr ⟨row,(window_subset member).1,same⟩
      exact (List.nodup_append.mp distinct).2.2 key recorded key List.mem_cons_self rfl
    rw [if_neg unseen] at checked
    have later := ih checked.2 (by rw [ttl]; exact positive) (by simpa using distinct)
      (fun other member => named other (List.mem_cons_of_mem key member))
    rw [ttl,maxSize] at later
    exact ⟨by simpa [recordAll] using later.1,later.2⟩

-- A cache full of later recordings has forgotten the first one, however young it is.
theorem forgotten_beyond_maxSize (first : ReplayKey) (others : List ReplayKey) (tracks : Tracks c now [])
    (positive : 0 < c.ttl) (distinct : (first :: others).Nodup) (named : ∀ key ∈ first :: others, strip key.2 ≠ "")
    (many : c.maxSize ≤ others.length) : (contains (recordAll c now (first :: others)) first.1 first.2 now).2 = false := by
  obtain ⟨after,maxSize⟩ := recordAll_tracks (first :: others) tracks positive distinct named
  have answer := (contains_spec first.1 first.2 after le_rfl (named first List.mem_cons_self)).2
  apply Bool.eq_false_iff.mpr
  intro seen
  obtain ⟨row,member,same⟩ := List.mem_map.mp (answer.mp seen)
  have alive : ((first :: others).map (fun key => (key,now + c.ttl))).filter (fun row => decide (now < row.2)) =
      (first :: others).map (fun key => (key,now + c.ttl)) := by
    apply List.filter_eq_self.mpr
    intro row listed
    obtain ⟨key,_,rfl⟩ := List.mem_map.mp listed
    simp only [decide_eq_true_eq]
    omega
  rw [maxSize,List.nil_append,window,alive,List.map_cons,
    rtake_cons_of_length_le _ (by rw [List.length_map]; exact many)] at member
  obtain ⟨key,other,rfl⟩ := List.mem_map.mp (List.mem_of_mem_drop member)
  cases same
  exact (List.nodup_cons.mp distinct).1 other

end Asap.JtiReplay
