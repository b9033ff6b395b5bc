import Asap.OrderedDict

-- The client's cache of manifests: entries with a deadline in the order of their last use.
namespace Asap.ManifestCaching
open OrderedDict

structure CacheEntry (Manifest : Type) where
  manifest : Manifest
  expiresAt : Rat
  deriving DecidableEq

variable {Manifest : Type}

-- `now` is `time.monotonic()`.
def CacheEntry.isExpired (entry : CacheEntry Manifest) (now : Rat) : Bool := decide (entry.expiresAt ≤ now)

structure ManifestCache (Manifest : Type) where
  cache : Dict String (CacheEntry Manifest) := .empty
  defaultTtl : Rat := 300
  maxSize : Int := 1000
  deriving DecidableEq

def moveToEnd (dict : Dict String (CacheEntry Manifest)) (url : String) : Dict String (CacheEntry Manifest) :=
  match dict.get url with
  | none => dict
  | some entry => (dict.erase url).set url entry

-- `popitem(last=False)`, so many times.
def popFirst (dict : Dict String (CacheEntry Manifest)) (count : Nat) : Dict String (CacheEntry Manifest) :=
  ⟨dict.entries.drop count,((List.drop_sublist count dict.entries).map Prod.fst).nodup dict.distinct⟩

def ManifestCache.get (c : ManifestCache Manifest) (url : String) (now : Rat) : ManifestCache Manifest × Option Manifest :=
  match c.cache.get url with
  | none => (c,none)
  | some entry =>
    if entry.isExpired now then ({c with cache := c.cache.erase url},none)
    else ({c with cache := moveToEnd c.cache url},some entry.manifest)

-- The room that a new entry needs: `while len(cache) >= max_size`.
def ManifestCache.surplus (c : ManifestCache Manifest) : Nat := c.cache.size + 1 - c.maxSize.toNat

def ManifestCache.set (c : ManifestCache Manifest) (url : String) (manifest : Manifest) (ttl : Option Rat) (now : Rat) :
    ManifestCache Manifest :=
  let kept := match c.cache.get url with
    | some _ => c.cache.erase url
    | none => if 0 < c.maxSize then popFirst c.cache c.surplus else c.cache
  {c with cache := kept.set url ⟨manifest,now + ttl.getD c.defaultTtl⟩}

def ManifestCache.invalidate (c : ManifestCache Manifest) (url : String) : ManifestCache Manifest := {c with cache := c.cache.erase url}

-- What the cache has for a URL, in time or not.
def ManifestCache.Holds (c : ManifestCache Manifest) (url : String) (manifest : Manifest) : Prop :=
  ∃ entry, c.cache.get url = some entry ∧ entry.manifest = manifest

variable {c : ManifestCache Manifest} {url other : String} {manifest stored : Manifest} {now : Rat}

theorem erase_within {dict : Dict String (CacheEntry Manifest)} {entry : CacheEntry Manifest}
    (found : (dict.erase url).get other = some entry) : dict.get other = some entry := by
  rw [Dict.get_erase] at found
  split at found
  · cases found
  · exact found

theorem popFirst_within {dict : Dict String (CacheEntry Manifest)} {entry : CacheEntry Manifest} {count : Nat}
    (found : (popFirst dict count).get other = some entry) : dict.get other = some entry :=
  (Dict.mem_iff dict).mp (List.mem_of_mem_drop ((Dict.mem_iff (popFirst dict count)).mpr found))

theorem moveToEnd_get (dict : Dict String (CacheEntry Manifest)) : (moveToEnd dict url).get other = dict.get other := by
  unfold moveToEnd
  split
  · rfl
  · rename_i entry found
    rw [Dict.get_set,Dict.get_erase]
    split
    · rename_i same
      rw [← same,found]
    · rfl

theorem invalidate_holds (holds : (c.invalidate url).Holds other stored) : c.Holds other stored := by
  obtain ⟨entry,found,same⟩ := holds
  exact ⟨entry,erase_within found,same⟩

theorem get_holds (holds : (c.get url now).1.Holds other stored) : c.Holds other stored := by
  obtain ⟨entry,found,same⟩ := holds
  refine ⟨entry,?_,same⟩
  unfold ManifestCache.get at found
  split at found
  · exact found
  · split at found
    · exact erase_within found
    · rw [moveToEnd_get] at found
      exact found

theorem get_found (hit : (c.get url now).2 = some manifest) : c.Holds url manifest := by
  unfold ManifestCache.get at hit
  split at hit
  · cases hit
  · rename_i entry found
    split at hit
    · cases hit
    · exact ⟨entry,found,Option.some.inj hit⟩

theorem set_holds {ttl : Option Rat} (holds : (c.set url manifest ttl now).Holds other stored) :
    (other = url ∧ stored = manifest) ∨ c.Holds other stored := by
  obtain ⟨entry,found,same⟩ := holds
  simp only [ManifestCache.set,Dict.get_set] at found
  split at found
  · rename_i sameUrl
    cases found
    exact .inl ⟨sameUrl.symm,same.symm⟩
  · refine .inr ⟨entry,?_,same⟩
    split at found
    · exact erase_within found
    · split at found
      · exact popFirst_within found
      · exact found

end Asap.ManifestCaching
