import Asap.ManifestCache
import Mathlib.Algebra.Order.Ring.Rat
import Mathlib.Data.List.Perm.Subperm
import Mathlib.Tactic.NormNum

-- Whole runs of the client's cache of manifests, against the calls made so far.
namespace Asap.ManifestCaching
open OrderedDict

def ManifestCache.clearAll (c : ManifestCache Manifest) : ManifestCache Manifest := {c with cache := .empty}

-- `readings` is the clock when the entry of a URL is looked at.
def ManifestCache.cleanupExpired (c : ManifestCache Manifest) (readings : String → Rat) : ManifestCache Manifest × Nat :=
  ({c with cache := c.cache.retain (fun row => !row.2.isExpired (readings row.1))},
    c.cache.entries.countP (fun row => row.2.isExpired (readings row.1)))

inductive Call (Manifest : Type) where
  | get (url : String) (now : Rat)
  | set (url : String) (manifest : Manifest) (ttl : Option Rat) (now : Rat)
  | invalidate (url : String)
  | clearAll
  | cleanupExpired (readings : String → Rat)

variable {Manifest : Type}

def ManifestCache.step (c : ManifestCache Manifest) : Call Manifest → ManifestCache Manifest
  | .get url now => (c.get url now).1
  | .set url manifest ttl now => c.set url manifest ttl now
  | .invalidate url => c.invalidate url
  | .clearAll => c.clearAll
  | .cleanupExpired readings => (c.cleanupExpired readings).1

-- The readings of a call lie between the clock before it and the clock after it.
def Call.During (before after : Rat) : Call Manifest → Prop
  | .get _ now | .set _ _ _ now => before ≤ now ∧ now ≤ after
  | .invalidate _ | .clearAll => before ≤ after
  | .cleanupExpired readings => before ≤ after ∧ ∀ url, before ≤ readings url ∧ readings url ≤ after

-- Histories have the latest call first.
def Timed : List (Call Manifest) → Rat → Prop
  | [],_ => True
  | call :: earlier,clock => ∃ before, Timed earlier before ∧ call.During before clock

section History
variable (fresh : ManifestCache Manifest)

def after : List (Call Manifest) → ManifestCache Manifest
  | [] => {fresh with cache := .empty}
  | call :: earlier => (after earlier).step call

-- A `set` drops the entry of another URL.
def Evicts (c : ManifestCache Manifest) (url : String) : Call Manifest → Prop
  | .set other manifest ttl now => other ≠ url ∧ (c.cache.get url).isSome = true ∧ (c.set other manifest ttl now).cache.get url = none
  | _ => False

instance (c : ManifestCache Manifest) (url : String) (call : Call Manifest) : Decidable (Evicts c url call) :=
  match call with
  | .set _ _ _ _ => inferInstanceAs (Decidable (_ ∧ _ ∧ _ = none))
  | .get _ _ | .invalidate _ | .clearAll | .cleanupExpired _ => inferInstanceAs (Decidable False)

-- The entry of the latest `set` of a URL, if it has neither been invalidated nor evicted since.
def latest : List (Call Manifest) → String → Option (CacheEntry Manifest)
  | [],_ => none
  | .set other manifest ttl now :: earlier,url =>
    if other = url then some ⟨manifest,now + ttl.getD fresh.defaultTtl⟩
    else if Evicts (after fresh earlier) url (.set other manifest ttl now) then none else latest earlier url
  | .invalidate other :: earlier,url => if other = url then none else latest earlier url
  | .clearAll :: _,_ => none
  | .get _ _ :: earlier,url | .cleanupExpired _ :: earlier,url => latest earlier url

-- A `set` uses its URL, and so does a `get` that finds an entry in time.
def uses (c : ManifestCache Manifest) : Call Manifest → Option String
  | .set url _ _ _ => some url
  | .get url now => if (c.get url now).2.isSome then some url else none
  | _ => none

-- The number of the last call that used a URL.
def lastUse : List (Call Manifest) → String → Nat
  | [],_ => 0
  | call :: earlier,url => if uses (after fresh earlier) call = some url then earlier.length + 1 else lastUse earlier url

end History

variable {fresh c : ManifestCache Manifest} {dict : Dict String (CacheEntry Manifest)} {entry : CacheEntry Manifest}
  {url other : String} {call : Call Manifest} {earlier history : List (Call Manifest)} {clock now : Rat}

theorem keys_retain (keep : String × CacheEntry Manifest → Bool) : (dict.retain keep).keys.Sublist dict.keys := List.filter_sublist.map Prod.fst

theorem erase_absent : url ∉ (dict.erase url).keys := (Dict.get_none_iff _).mp (Dict.get_erase_self _ _)

theorem keys_set_absent (absent : url ∉ dict.keys) : (dict.set url entry).keys = dict.keys ++ [url] := by
  have keys := keys_assign url entry dict.entries
  exact keys.trans (if_neg absent)

theorem keys_popFirst (count : Nat) : (popFirst dict count).keys = dict.keys.drop count := List.map_drop

-- The entries that stay before the one that a `set` writes last.
def ManifestCache.staying (c : ManifestCache Manifest) (url : String) : Dict String (CacheEntry Manifest) :=
  match c.cache.get url with
  | some _ => c.cache.erase url
  | none => if 0 < c.maxSize then popFirst c.cache c.surplus else c.cache

theorem staying_keys : (c.staying url).keys.Sublist c.cache.keys ∧ url ∉ (c.staying url).keys := by
  unfold ManifestCache.staying
  cases found : c.cache.get url with
  | some entry => exact ⟨keys_retain _,erase_absent⟩
  | none =>
    have absent : url ∉ c.cache.keys := (Dict.get_none_iff _).mp found
    simp only
    split
    · rw [keys_popFirst]
      exact ⟨List.drop_sublist _ _,fun inside => absent (List.mem_of_mem_drop inside)⟩
    · exact ⟨List.Sublist.refl _,absent⟩

theorem set_keys (manifest : Manifest) (ttl : Option Rat) (now : Rat) :
    (c.set url manifest ttl now).cache.keys = (c.staying url).keys ++ [url] := keys_set_absent staying_keys.2

-- What a `get` can do: nothing, drop an entry that has expired, or move the one it returns behind the others.
theorem get_cases (c : ManifestCache Manifest) (url : String) (now : Rat) :
    (c.cache.get url = none ∧ c.get url now = (c,none)) ∨
    ∃ entry, c.cache.get url = some entry ∧
      ((entry.expiresAt ≤ now ∧ c.get url now = ({c with cache := c.cache.erase url},none)) ∨
       (now < entry.expiresAt ∧ c.get url now = ({c with cache := (c.cache.erase url).set url entry},some entry.manifest))) := by
  unfold ManifestCache.get
  split
  · rename_i absent
    exact .inl ⟨absent,rfl⟩
  · rename_i entry found
    refine .inr ⟨entry,found,?_⟩
    split
    · rename_i expired
      exact .inl ⟨of_decide_eq_true expired,rfl⟩
    · rename_i live
      refine .inr ⟨not_le.mp (fun expired => live (decide_eq_true expired)),?_⟩
      simp only [moveToEnd,found]

-- A call that uses no URL leaves fewer entries in their order; one that uses a URL moves or puts it
-- behind the others.
theorem step_keys (c : ManifestCache Manifest) (call : Call Manifest) :
    (uses c call = none ∧ (c.step call).cache.keys.Sublist c.cache.keys) ∨
    ∃ url kept, uses c call = some url ∧ kept.Sublist c.cache.keys ∧ url ∉ kept ∧ (c.step call).cache.keys = kept ++ [url] := by
  cases call with
  | set url manifest ttl now => exact .inr ⟨url,_,rfl,staying_keys.1,staying_keys.2,set_keys manifest ttl now⟩
  | invalidate url => exact .inl ⟨rfl,keys_retain _⟩
  | clearAll => exact .inl ⟨rfl,List.nil_sublist _⟩
  | cleanupExpired readings => exact .inl ⟨rfl,keys_retain _⟩
  | get url now =>
    simp only [uses,ManifestCache.step]
    rcases get_cases c url now with ⟨_,same⟩ | ⟨entry,_,⟨_,dropped⟩ | ⟨_,moved⟩⟩
    · rw [same]
      exact .inl ⟨rfl,List.Sublist.refl _⟩
    · rw [dropped]
      exact .inl ⟨rfl,keys_retain _⟩
    · rw [moved]
      exact .inr ⟨url,_,rfl,keys_retain _,erase_absent,keys_set_absent erase_absent⟩

theorem step_config (c : ManifestCache Manifest) (call : Call Manifest) :
    (c.step call).maxSize = c.maxSize ∧ (c.step call).defaultTtl = c.defaultTtl := by
  cases call with
  | get url now =>
    simp only [ManifestCache.step]
    rcases get_cases c url now with ⟨_,same⟩ | ⟨entry,_,⟨_,dropped⟩ | ⟨_,moved⟩⟩
    · rw [same]
      exact ⟨rfl,rfl⟩
    · rw [dropped]
      exact ⟨rfl,rfl⟩
    · rw [moved]
      exact ⟨rfl,rfl⟩
  | _ => exact ⟨rfl,rfl⟩

theorem after_config (fresh : ManifestCache Manifest) (history : List (Call Manifest)) :
    (after fresh history).maxSize = fresh.maxSize ∧ (after fresh history).defaultTtl = fresh.defaultTtl := by
  induction history with
  | nil => exact ⟨rfl,rfl⟩
  | cons call earlier ih =>
    obtain ⟨size,ttl⟩ := step_config (after fresh earlier) call
    exact ⟨size.trans ih.1,ttl.trans ih.2⟩

theorem size_keys : dict.size = dict.keys.length := (List.length_map _).symm

-- Only a `set` of a new URL adds to the keys.
theorem step_size (positive : 0 < c.maxSize) (bounded : (c.cache.size : Int) ≤ c.maxSize) : ((c.step call).cache.size : Int) ≤ c.maxSize := by
  have fewer : ∀ (other : Dict String (CacheEntry Manifest)), other.keys ⊆ c.cache.keys → (other.size : Int) ≤ c.maxSize := by
    intro other within
    have shorter : other.keys.length ≤ c.cache.keys.length := (List.subperm_of_subset other.distinct within).length_le
    rw [← size_keys,← size_keys] at shorter
    omega
  cases call with
  | set url manifest ttl now =>
    have whole : (c.set url manifest ttl now).cache.size = (c.staying url).keys.length + 1 := by
      rw [size_keys,set_keys,List.length_append,List.length_singleton]
    simp only [ManifestCache.step,whole]
    cases found : c.cache.get url with
    | some entry =>
      have present : url ∈ c.cache.keys := (Dict.mem_keys_iff _).mpr (by rw [found]; rfl)
      have within : (c.set url manifest ttl now).cache.keys ⊆ c.cache.keys := by
        rw [set_keys]
        intro key inside
        rcases List.mem_append.mp inside with kept | new
        · exact staying_keys.1.subset kept
        · rw [List.mem_singleton.mp new]
          exact present
      have least := fewer _ within
      rw [whole] at least
      exact least
    | none =>
      have dropped : (c.staying url).keys = c.cache.keys.drop c.surplus := by
        rw [ManifestCache.staying,found]
        simp only [if_pos positive,keys_popFirst]
      rw [dropped,List.length_drop,← size_keys,ManifestCache.surplus]
      omega
  | get url now =>
    refine fewer _ ?_
    intro key inside
    rw [Dict.mem_keys_iff,Option.isSome_iff_exists] at inside ⊢
    obtain ⟨entry,found⟩ := inside
    obtain ⟨stored,same,_⟩ := get_holds ⟨entry,found,rfl⟩
    exact ⟨stored,same⟩
  | invalidate url => exact fewer _ (keys_retain _).subset
  | clearAll => exact fewer _ (List.nil_subset _)
  | cleanupExpired readings => exact fewer _ (keys_retain _).subset

theorem after_size (positive : 0 < fresh.maxSize) (history : List (Call Manifest)) :
    ((after fresh history).cache.size : Int) ≤ fresh.maxSize := by
  induction history with
  | nil => exact Int.le_of_lt positive
  | cons call earlier ih =>
    have configured := (after_config fresh earlier).1
    rw [← configured] at positive ih ⊢
    exact step_size positive ih

theorem set_evicts (manifest : Manifest) (ttl : Option Rat) (different : other ≠ url) :
    (c.set other manifest ttl now).cache.get url = if Evicts c url (.set other manifest ttl now) then none else c.cache.get url := by
  split
  · rename_i evicted
    exact evicted.2.2
  · rename_i kept
    cases stored : (c.set other manifest ttl now).cache.get url with
    | some entry =>
      rcases set_holds ⟨entry,stored,rfl⟩ with ⟨same,_⟩ | _
      · exact absurd same.symm different
      · have untouched : (c.set other manifest ttl now).cache.get url = (c.staying other).get url := by
          rw [← Dict.get_set_other (c.staying other) ⟨manifest,now + ttl.getD c.defaultTtl⟩ different]
          rfl
        rw [untouched] at stored
        symm
        unfold ManifestCache.staying at stored
        split at stored
        · exact erase_within stored
        · split at stored
          · exact popFirst_within stored
          · exact stored
    | none =>
      cases found : c.cache.get url with
      | none => rfl
      | some entry => exact absurd ⟨different,by rw [found]; rfl,stored⟩ kept

-- What the cache has is the latest entry, and the latest entry is there until it expires.
structure Matches (fresh : ManifestCache Manifest) (history : List (Call Manifest)) (clock : Rat) : Prop where
  within : ∀ url entry, (after fresh history).cache.get url = some entry → latest fresh history url = some entry
  live : ∀ url entry, latest fresh history url = some entry →
    (after fresh history).cache.get url = some entry ∨ entry.expiresAt ≤ clock

-- A call that only drops entries that have expired.
theorem Matches.drops {before : Rat} (matched : Matches fresh earlier before) (order : before ≤ clock)
    (same : ∀ url, latest fresh (call :: earlier) url = latest fresh earlier url)
    (gets : ∀ url, (after fresh (call :: earlier)).cache.get url = (after fresh earlier).cache.get url ∨
      ((after fresh (call :: earlier)).cache.get url = none ∧
        ∀ entry, (after fresh earlier).cache.get url = some entry → entry.expiresAt ≤ clock)) :
    Matches fresh (call :: earlier) clock := by
  constructor
  · intro url entry found
    rw [same]
    rcases gets url with kept | ⟨dropped,_⟩
    · exact matched.within url entry (kept ▸ found)
    · rw [dropped] at found
      cases found
  · intro url entry known
    rw [same] at known
    rcases matched.live url entry known with found | expired
    · rcases gets url with kept | ⟨_,late⟩
      · exact .inl (kept.trans found)
      · exact .inr (late entry found)
    · exact .inr (expired.trans order)

theorem matches_run (timed : Timed history clock) : Matches fresh history clock := by
  induction history generalizing clock with
  | nil => exact ⟨(fun url entry found => by cases found),(fun url entry known => by cases known)⟩
  | cons call earlier ih =>
    obtain ⟨before,timed,during⟩ := timed
    have matched := ih timed
    cases call with
    | get url now =>
      refine matched.drops (during.1.trans during.2) (fun _ => rfl) ?_
      intro other
      simp only [after,ManifestCache.step]
      rcases get_cases (after fresh earlier) url now with ⟨_,same⟩ | ⟨entry,found,⟨expired,dropped⟩ | ⟨_,moved⟩⟩
      · rw [same]
        exact .inl rfl
      · rw [dropped,Dict.get_erase]
        split
        · rename_i here
          subst here
          refine .inr ⟨rfl,?_⟩
          intro stored known
          rw [found] at known
          cases known
          exact expired.trans during.2
        · exact .inl rfl
      · rw [moved,Dict.get_set,Dict.get_erase]
        refine .inl ?_
        split
        · rename_i here
          rw [← here,found]
        · rfl
    | cleanupExpired readings =>
      refine matched.drops during.1 (fun _ => rfl) ?_
      intro url
      simp only [after,ManifestCache.step,ManifestCache.cleanupExpired,Dict.get_retain]
      cases found : (after fresh earlier).cache.get url with
      | none => exact .inl rfl
      | some entry =>
        by_cases expired : entry.isExpired (readings url) = true
        · refine .inr ⟨by simp [Option.filter,expired],?_⟩
          intro stored known
          cases known
          exact (of_decide_eq_true expired).trans (during.2 url).2
        · exact .inl (by simp [Option.filter,expired])
    | invalidate url =>
      constructor
      · intro other entry found
        simp only [after,ManifestCache.step,ManifestCache.invalidate,Dict.get_erase,latest] at found ⊢
        split at found
        · cases found
        · rename_i different
          rw [if_neg different]
          exact matched.within other entry found
      · intro other entry known
        simp only [after,ManifestCache.step,ManifestCache.invalidate,Dict.get_erase,latest] at known ⊢
        split at known
        · cases known
        · rename_i different
          rw [if_neg different]
          exact (matched.live other entry known).imp id (fun expired => expired.trans during)
    | clearAll => exact ⟨(fun url entry found => by cases found),(fun url entry known => by cases known)⟩
    | set url manifest ttl now =>
      have written : (after fresh (.set url manifest ttl now :: earlier)).cache.get url = some ⟨manifest,now + ttl.getD fresh.defaultTtl⟩ := by
        rw [← (after_config fresh earlier).2]
        exact Dict.get_set_self _ _ _
      constructor
      · intro other entry found
        by_cases here : url = other
        · subst here
          rw [written] at found
          rw [latest,if_pos rfl,found]
        · simp only [after,ManifestCache.step,set_evicts _ _ here] at found
          rw [latest,if_neg here]
          split at found
          · cases found
          · rename_i kept
            rw [if_neg kept]
            exact matched.within other entry found
      · intro other entry known
        by_cases here : url = other
        · subst here
          rw [latest,if_pos rfl] at known
          exact .inl (written.trans known)
        · rw [latest,if_neg here] at known
          simp only [after,ManifestCache.step,set_evicts _ _ here]
          split at known
          · cases known
          · rename_i kept
            rw [if_neg kept]
            exact (matched.live other entry known).imp id (fun expired => expired.trans (during.1.trans during.2))

theorem lastUse_le (history : List (Call Manifest)) : lastUse fresh history url ≤ history.length := by
  induction history with
  | nil => exact Nat.le_refl _
  | cons call earlier ih =>
    unfold lastUse
    split
    · exact Nat.le_refl _
    · exact Nat.le_succ_of_le ih

theorem lastUse_other (unused : uses (after fresh earlier) call ≠ some url) :
    lastUse fresh (call :: earlier) url = lastUse fresh earlier url := by rw [lastUse,if_neg unused]

-- The entries stand in the order of their last use.
theorem ordered_run (fresh : ManifestCache Manifest) (history : List (Call Manifest)) : (after fresh history).cache.keys.Pairwise
    (fun first second => lastUse fresh history first < lastUse fresh history second) := by
  induction history with
  | nil => exact List.Pairwise.nil
  | cons call earlier ih =>
    rcases step_keys (after fresh earlier) call with ⟨unused,fewer⟩ | ⟨url,kept,used,within,absent,keys⟩
    · have same : lastUse fresh (call :: earlier) = lastUse fresh earlier := by
        funext url
        exact lastUse_other (by rw [unused]; simp)
      rw [same]
      exact ih.sublist fewer
    · have others : ∀ key ∈ kept, lastUse fresh (call :: earlier) key = lastUse fresh earlier key := by
        intro key inside
        refine lastUse_other ?_
        rw [used]
        rintro same
        cases same
        exact absent inside
      have newest : lastUse fresh (call :: earlier) url = earlier.length + 1 := by rw [lastUse,if_pos used]
      rw [after,keys,List.pairwise_append]
      refine ⟨?_,List.pairwise_singleton _ _,?_⟩
      · refine (ih.sublist within).imp_of_mem ?_
        intro first second firstInside secondInside order
        rw [others first firstInside,others second secondInside]
        exact order
      · intro key inside last here
        rw [List.mem_singleton.mp here,newest,others key inside]
        exact Nat.lt_succ_of_le (lastUse_le earlier)

-- The entry that a full cache drops is the first one.
theorem evicted_first (evicted : Evicts c url call) (bounded : 0 < c.maxSize → (c.cache.size : Int) ≤ c.maxSize) :
    (c.cache.size : Int) = c.maxSize ∧ ∃ rest, c.cache.keys = url :: rest := by
  cases call with
  | set other manifest ttl now =>
    obtain ⟨different,held,gone⟩ := evicted
    have inside : url ∈ c.cache.keys := (Dict.mem_keys_iff _).mpr held
    have outside : url ∉ (c.staying other).keys := by
      intro staying
      rw [Dict.get_none_iff,set_keys] at gone
      exact gone (List.mem_append_left _ staying)
    unfold ManifestCache.staying at outside
    cases found : c.cache.get other with
    | some entry =>
      rw [found] at outside
      rw [Dict.mem_keys_iff] at inside outside
      rw [Dict.get_erase,if_neg different] at outside
      exact absurd inside outside
    | none =>
      rw [found] at outside
      simp only at outside
      split at outside
      · rename_i positive
        rw [keys_popFirst] at outside
        have room : (c.cache.size : Int) ≤ c.maxSize := bounded positive
        have some : c.surplus ≠ 0 := by
          intro zero
          rw [zero] at outside
          exact outside inside
        unfold ManifestCache.surplus at some
        have single : c.surplus = 1 := by
          unfold ManifestCache.surplus
          omega
        rw [single] at outside
        refine ⟨by omega,?_⟩
        cases keys : c.cache.keys with
        | nil =>
          rw [keys] at inside
          cases inside
        | cons first rest =>
          rw [keys] at inside outside
          rcases List.mem_cons.mp inside with here | later
          · exact ⟨rest,by rw [here]⟩
          · exact absurd later outside
      · exact absurd inside outside
  | get _ _ => exact evicted.elim
  | invalidate _ => exact evicted.elim
  | clearAll => exact evicted.elim
  | cleanupExpired _ => exact evicted.elim

theorem get_returns (matched : Matches fresh history clock) (order : clock ≤ now) (manifest : Manifest) :
    ((after fresh history).get url now).2 = some manifest ↔
      ∃ entry, latest fresh history url = some entry ∧ now < entry.expiresAt ∧ entry.manifest = manifest := by
  rcases get_cases (after fresh history) url now with ⟨absent,same⟩ | ⟨entry,found,⟨expired,dropped⟩ | ⟨live,moved⟩⟩
  · rw [same]
    constructor
    · intro returned
      cases returned
    · intro ⟨entry,known,live,_⟩
      rcases matched.live url entry known with found | expired
      · rw [absent] at found
        cases found
      · exact absurd (expired.trans order) (not_le.mpr live)
  · rw [dropped,matched.within url entry found]
    constructor
    · intro returned
      cases returned
    · intro ⟨stored,known,live,_⟩
      cases known
      exact absurd expired (not_le.mpr live)
  · rw [moved,matched.within url entry found]
    constructor
    · intro returned
      exact ⟨entry,rfl,live,Option.some.inj returned⟩
    · intro ⟨stored,known,_,same⟩
      cases known
      exact congrArg some same

-- The size, what `get` returns, and what a full cache drops, after any calls on a fresh cache.
theorem manifest_cache_semantics (fresh : ManifestCache Manifest) (history : List (Call Manifest)) (clock : Rat) (timed : Timed history clock) :
    (0 < fresh.maxSize → ((after fresh history).cache.size : Int) ≤ fresh.maxSize) ∧
    (∀ url now manifest, clock ≤ now → (((after fresh history).get url now).2 = some manifest ↔
      ∃ entry, latest fresh history url = some entry ∧ now < entry.expiresAt ∧ entry.manifest = manifest)) ∧
    ∀ url call, Evicts (after fresh history) url call →
      ((after fresh history).cache.size : Int) = fresh.maxSize ∧
      ∀ other, other ≠ url → ((after fresh history).cache.get other).isSome = true →
        lastUse fresh history url < lastUse fresh history other := by
  refine ⟨fun positive => after_size positive history,fun url now manifest order => get_returns (matches_run timed) order manifest,?_⟩
  intro url call evicted
  have configured := (after_config fresh history).1
  have bounded : 0 < (after fresh history).maxSize → ((after fresh history).cache.size : Int) ≤ (after fresh history).maxSize := by
    rw [configured]
    exact fun positive => after_size positive history
  obtain ⟨full,rest,keys⟩ := evicted_first evicted bounded
  refine ⟨full.trans configured,?_⟩
  intro other different held
  have inside : other ∈ (after fresh history).cache.keys := (Dict.mem_keys_iff _).mpr held
  have ordered := ordered_run fresh history
  rw [keys] at inside ordered
  rcases List.mem_cons.mp inside with here | later
  · exact absurd here different
  · exact (List.pairwise_cons.mp ordered).1 other later

def oneEntry : ManifestCache String := {maxSize := 1}

def replacedHistory : List (Call String) := [.set "https://b.example" "b" none 1,.set "https://a.example" "a" none 0]

theorem manifest_cache_semantics_replaced : (after oneEntry replacedHistory).cache.size ≤ 1 ∧
    ((after oneEntry replacedHistory).get "https://b.example" 2).2 = some "b" ∧
    ((after oneEntry replacedHistory).get "https://a.example" 2).2 ≠ some "a" := by
  have timed : Timed replacedHistory 1 := ⟨0,⟨0,trivial,le_refl _,le_refl _⟩,by norm_num,le_refl _⟩
  obtain ⟨bounded,returns,_⟩ := manifest_cache_semantics oneEntry replacedHistory 1 timed
  refine ⟨Int.ofNat_le.mp (bounded (by decide)),?_,?_⟩
  · exact (returns _ 2 "b" (by norm_num)).mpr ⟨⟨"b",301⟩,by decide +kernel,by norm_num,rfl⟩
  · intro returned
    obtain ⟨entry,known,_⟩ := (returns _ 2 "a" (by norm_num)).mp returned
    have forgotten : latest oneEntry replacedHistory "https://a.example" = none := by decide +kernel
    rw [forgotten] at known
    cases known

end Asap.ManifestCaching
