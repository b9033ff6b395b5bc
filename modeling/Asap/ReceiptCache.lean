import Asap.OrderedDict
import Mathlib.Algebra.Order.Ring.Rat

-- `asap.registry.receipt_cache`: receipts that expire, at most so many of them. Every reading
-- of the clock is an argument.
namespace Asap.ReceiptCache
open OrderedDict

structure RegistrationReceiptTTLCache (V : Type) where
  maxsize : Nat
  ttl : Rat
  store : Dict String (Rat × V)
  positive : 1 ≤ maxsize ∧ 0 < ttl
  bounded : store.size ≤ maxsize

-- What is left when entries at the front are popped.
def leaving (dict : Dict κ α) (rows : List (κ × α)) (left : rows <:+ dict.entries) : Dict κ α :=
  ⟨rows,(left.sublist.map Prod.fst).nodup dict.distinct⟩

def dropExpiredFromHead (store : Dict String (Rat × V)) (now : Rat) : Dict String (Rat × V) :=
  leaving store (store.entries.dropWhile (fun row => decide (row.2.1 ≤ now))) (List.dropWhile_suffix _)

-- `while len(self._store) >= self._maxsize: self._store.popitem(last=False)`
def popWhileFull (maxsize : Nat) : List (κ × α) → List (κ × α)
  | [] => []
  | row :: rest => if maxsize ≤ rest.length + 1 then popWhileFull maxsize rest else row :: rest

theorem popWhileFull_suffix (maxsize : Nat) (rows : List (κ × α)) : popWhileFull maxsize rows <:+ rows := by
  induction rows with
  | nil => exact List.suffix_rfl
  | cons row rest ih =>
    unfold popWhileFull
    split
    · exact ih.trans (List.suffix_cons row rest)
    · exact List.suffix_rfl

theorem popWhileFull_room {maxsize : Nat} (positive : 1 ≤ maxsize) (rows : List (κ × α)) : (popWhileFull maxsize rows).length < maxsize := by
  induction rows with
  | nil => exact positive
  | cons row rest ih =>
    unfold popWhileFull
    split
    · exact ih
    · rename_i room
      exact Nat.lt_of_not_le room

theorem popWhileFull_room_left {maxsize : Nat} {rows : List (κ × α)} (room : rows.length < maxsize) : popWhileFull maxsize rows = rows := by
  cases rows with
  | nil => rfl
  | cons row rest => exact if_neg (Nat.not_le.mpr room)

theorem size_set_le [DecidableEq κ] (dict : Dict κ α) (key : κ) (value : α) : (dict.set key value).size ≤ dict.size + 1 := by
  have keys := congrArg List.length (keys_assign key value dict.entries)
  have whole : ((dict.set key value).entries.map Prod.fst).length = (dict.set key value).size := List.length_map _
  have part : (dict.entries.map Prod.fst).length = dict.size := List.length_map _
  rw [← whole,← part]
  refine keys.le.trans ?_
  split <;> simp

theorem get_leaving [DecidableEq κ] {dict : Dict κ α} {rows : List (κ × α)} {left : rows <:+ dict.entries} {key : κ} {value : α}
    (found : (leaving dict rows left).get key = some value) : dict.get key = some value :=
  dict.mem_iff.mp (left.subset ((leaving dict rows left).mem_iff.mpr found))

theorem mem_dropWhile {p : α → Bool} {rows : List α} {row : α} (member : row ∈ rows) (stays : p row = false) : row ∈ rows.dropWhile p := by
  induction rows with
  | nil => cases member
  | cons first rest ih =>
    rw [List.dropWhile_cons]
    split
    · rename_i dropped
      rcases List.mem_cons.mp member with same | later
      · rw [same,dropped] at stays
        cases stays
      · exact ih later
    · exact member

theorem size_leaving {dict : Dict κ α} {rows : List (κ × α)} (left : rows <:+ dict.entries) : (leaving dict rows left).size ≤ dict.size :=
  left.length_le

theorem size_erase_le [DecidableEq κ] (dict : Dict κ α) (key : κ) : (dict.erase key).size ≤ dict.size := List.length_filter_le _ _

theorem size_erase_lt [DecidableEq κ] {dict : Dict κ α} {key : κ} {value : α} (found : dict.get key = some value) :
    (dict.erase key).size < dict.size :=
  List.length_filter_lt_length_iff_exists.mpr ⟨(key,value),dict.mem_iff.mpr found,by simp⟩

theorem get_dropExpired {store : Dict String (Rat × V)} {now : Rat} {key : String} {entry : Rat × V}
    (found : store.get key = some entry) (live : now < entry.1) : (dropExpiredFromHead store now).get key = some entry :=
  (dropExpiredFromHead store now).mem_iff.mp (mem_dropWhile (store.mem_iff.mpr found) (decide_eq_false (not_le.mpr live)))

namespace RegistrationReceiptTTLCache
variable {V : Type} (cache : RegistrationReceiptTTLCache V)

def withStore (store : Dict String (Rat × V)) (smaller : store.size ≤ cache.store.size) : RegistrationReceiptTTLCache V :=
  {cache with store,bounded := smaller.trans cache.bounded}

-- `key in cache`
def contains (key : String) (now : Rat) : Bool × RegistrationReceiptTTLCache V :=
  match cache.store.get key with
  | none => (false,cache)
  | some (expiresAt,_) =>
    if expiresAt ≤ now then (false,cache.withStore (cache.store.erase key) (size_erase_le _ _)) else (true,cache)

theorem refreshed_size {store : Dict String (Rat × V)} (smaller : store.size ≤ cache.store.size) {entry : Rat × V}
    (found : store.get key = some entry) : ((store.erase key).set key entry).size ≤ cache.store.size :=
  ((size_set_le _ _ _).trans (size_erase_lt found)).trans smaller

-- `cache[key]`: the head is dropped at one time, the entry compared at a later one. `none` is
-- the KeyError.
def getItem (key : String) (dropped now : Rat) : Option V × RegistrationReceiptTTLCache V :=
  let store := dropExpiredFromHead cache.store dropped
  have smaller : store.size ≤ cache.store.size := size_leaving _
  match found : store.get key with
  | none => (none,cache.withStore store smaller)
  | some (expiresAt,value) =>
    if expiresAt ≤ now then (none,cache.withStore (store.erase key) ((size_erase_le _ _).trans smaller))
    else (some value,cache.withStore ((store.erase key).set key (expiresAt,value)) (cache.refreshed_size smaller found))

-- `cache[key] = value`
def setItem (key : String) (value : V) (now dropped : Rat) : RegistrationReceiptTTLCache V where
  maxsize := cache.maxsize
  ttl := cache.ttl
  store :=
    let store := (dropExpiredFromHead cache.store dropped).erase key
    (leaving store (popWhileFull cache.maxsize store.entries) (popWhileFull_suffix _ _)).set key (now + cache.ttl,value)
  positive := cache.positive
  bounded := (size_set_le _ _ _).trans (popWhileFull_room cache.positive.1 _)

-- The entry of `other` has to go for the one of `key`, which is not because it has expired.
def evicts (key : String) (dropped : Rat) (other : String) : Bool :=
  let store := (dropExpiredFromHead cache.store dropped).erase key
  (store.get other).isSome &&
    ((leaving store (popWhileFull cache.maxsize store.entries) (popWhileFull_suffix _ _)).get other).isNone

section Operations
variable {cache} {key : String} (other : String)

theorem contains_get {present : Bool} {next : RegistrationReceiptTTLCache V} (result : cache.contains key now = (present,next)) :
    (∀ entry, next.store.get other = some entry → cache.store.get other = some entry) ∧
    (∀ entry, cache.store.get other = some entry → now < entry.1 → next.store.get other = some entry) ∧
    (present = true ↔ ∃ entry, cache.store.get key = some entry ∧ now < entry.1) := by
  unfold contains at result
  split at result
  · rename_i absent
    cases result
    exact ⟨fun _ found => found,fun _ found _ => found,by simp [absent]⟩
  · rename_i expiresAt value found
    split at result
    · rename_i expired
      cases result
      refine ⟨?_,?_,?_⟩
      · intro entry remains
        rw [withStore,Dict.get_erase] at remains
        split at remains
        · cases remains
        · exact remains
      · intro entry stored live
        rw [withStore,Dict.get_erase]
        split
        · rename_i same
          subst same
          rw [found] at stored
          cases stored
          exact absurd expired (not_le.mpr live)
        · exact stored
      · simpa [found] using expired
    · rename_i live
      cases result
      exact ⟨fun _ found => found,fun _ found _ => found,by simpa [found] using live⟩

theorem getItem_get {result : Option V} {next : RegistrationReceiptTTLCache V} (done : cache.getItem key dropped now = (result,next))
    (later : dropped ≤ now) :
    (∀ entry, next.store.get other = some entry → cache.store.get other = some entry) ∧
    (∀ entry, cache.store.get other = some entry → now < entry.1 → next.store.get other = some entry) ∧
    (∀ value, result = some value ↔ ∃ expiresAt, cache.store.get key = some (expiresAt,value) ∧ now < expiresAt) := by
  have kept : ∀ name entry, (dropExpiredFromHead cache.store dropped).get name = some entry → cache.store.get name = some entry :=
    fun _ _ found => get_leaving found
  have lasting : ∀ name entry, cache.store.get name = some entry → now < entry.1 →
      (dropExpiredFromHead cache.store dropped).get name = some entry :=
    fun _ _ found live => get_dropExpired found (later.trans_lt live)
  unfold getItem at done
  simp only at done
  split at done
  · rename_i absent
    cases done
    refine ⟨kept other,lasting other,?_⟩
    intro value
    refine ⟨(fun impossible => by cases impossible),?_⟩
    rintro ⟨expiresAt,stored,live⟩
    rw [lasting key _ stored live] at absent
    cases absent
  · rename_i expiresAt value found
    split at done
    · rename_i expired
      cases done
      refine ⟨?_,?_,?_⟩
      · intro entry remains
        rw [withStore,Dict.get_erase] at remains
        split at remains
        · cases remains
        · exact kept other entry remains
      · intro entry stored live
        have same := lasting other entry stored live
        rw [withStore,Dict.get_erase]
        split
        · rename_i equal
          subst equal
          rw [found] at same
          cases same
          exact absurd expired (not_le.mpr live)
        · exact same
      · intro other
        refine ⟨(fun impossible => by cases impossible),?_⟩
        rintro ⟨until_,stored,live⟩
        have same := lasting key _ stored live
        rw [found] at same
        cases same
        exact absurd expired (not_le.mpr live)
    · rename_i live
      cases done
      have moved : ∀ name, (((dropExpiredFromHead cache.store dropped).erase key).set key (expiresAt,value)).get name =
          (dropExpiredFromHead cache.store dropped).get name := by
        intro name
        rw [Dict.get_set]
        split
        · rename_i same
          rw [← same,found]
        · rename_i different
          rw [Dict.get_erase,if_neg different]
      refine ⟨?_,?_,?_⟩
      · intro entry remains
        rw [withStore,moved] at remains
        exact kept other entry remains
      · intro entry stored fresh
        rw [withStore,moved]
        exact lasting other entry stored fresh
      · intro wanted
        constructor
        · rintro ⟨⟩
          exact ⟨expiresAt,kept key _ found,not_le.mp live⟩
        · rintro ⟨until_,stored,fresh⟩
          have same := lasting key _ stored fresh
          rw [found] at same
          cases same
          rfl

variable {other}

theorem setItem_get_self (value : V) (now dropped : Rat) :
    (cache.setItem key value now dropped).store.get key = some (now + cache.ttl,value) := Dict.get_set_self _ _ _

theorem setItem_get_other (value : V) (now dropped : Rat) (different : key ≠ other) :
    (∀ entry, (cache.setItem key value now dropped).store.get other = some entry → cache.store.get other = some entry) ∧
    (∀ entry, cache.store.get other = some entry → dropped < entry.1 → cache.evicts key dropped other = false →
      (cache.setItem key value now dropped).store.get other = some entry) := by
  constructor
  · intro entry remains
    rw [setItem,Dict.get_set_other _ _ different] at remains
    have before := get_leaving remains
    rw [Dict.get_erase,if_neg different] at before
    exact get_leaving before
  · intro entry stored live stays
    have waiting : ((dropExpiredFromHead cache.store dropped).erase key).get other = some entry := by
      rw [Dict.get_erase,if_neg different]
      exact get_dropExpired stored live
    rw [setItem,Dict.get_set_other _ _ different]
    simp only [evicts,waiting,Option.isSome_some,Bool.true_and,Option.isNone_eq_false_iff] at stays
    obtain ⟨left,remains⟩ := Option.isSome_iff_exists.mp stays
    have same := get_leaving remains
    rw [waiting] at same
    cases same
    exact remains

end Operations

end RegistrationReceiptTTLCache

end Asap.ReceiptCache
