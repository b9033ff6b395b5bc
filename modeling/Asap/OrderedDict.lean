import Mathlib.Data.List.Nodup
import Mathlib.Data.List.Basic
import Mathlib.Data.List.Induction

namespace OrderedDict

-- Dictionary whose iteration order is the order of first insertion: assigning
-- to a present key keeps its place, a new key goes last, and a deleted key that
-- comes back goes last again. Distinct keys are part of the value.
structure Dict (κ : Type u) (α : Type v) where
  entries : List (κ × α)
  distinct : (entries.map Prod.fst).Nodup

section Entries
variable {κ : Type u} {α : Type v} [DecidableEq κ]

def find (key : κ) : List (κ × α) → Option α
  | [] => none
  | (k,value) :: rest => if k = key then some value else find key rest

def assign (key : κ) (value : α) : List (κ × α) → List (κ × α)
  | [] => [(key,value)]
  | (k,old) :: rest => if k = key then (key,value) :: rest else (k,old) :: assign key value rest

theorem find_some_mem {rows : List (κ × α)} (found : find key rows = some value) :
    (key,value) ∈ rows := by
  induction rows with
  | nil => cases found
  | cons row rest ih =>
    obtain ⟨k,old⟩ := row
    unfold find at found
    split at found
    · rename_i same
      cases Option.some.inj found
      subst same
      exact List.mem_cons_self
    · exact List.mem_cons_of_mem _ (ih found)

theorem find_none_iff {rows : List (κ × α)} : find key rows = none ↔ key ∉ rows.map Prod.fst := by
  induction rows with
  | nil => simp [find]
  | cons row rest ih =>
    obtain ⟨k,old⟩ := row
    by_cases same : k = key
    · simp [find,same]
    · simp only [find,if_neg same,ih,List.map_cons,List.mem_cons,not_or]
      exact ⟨fun absent => ⟨fun equal => same equal.symm,absent⟩,fun both => both.2⟩

theorem find_of_mem {rows : List (κ × α)} (distinct : (rows.map Prod.fst).Nodup)
    (member : (key,value) ∈ rows) : find key rows = some value := by
  induction rows with
  | nil => cases member
  | cons row rest ih =>
    obtain ⟨k,old⟩ := row
    simp only [List.map_cons,List.nodup_cons] at distinct
    rcases List.mem_cons.mp member with equal | later
    · cases equal; simp [find]
    · have different : k ≠ key := by
        rintro rfl
        exact distinct.1 (List.mem_map_of_mem later)
      simpa [find,different] using ih distinct.2 later

theorem find_assign (key other : κ) (value : α) (rows : List (κ × α)) :
    find other (assign key value rows) = if key = other then some value else find other rows := by
  induction rows with
  | nil => simp [assign,find]
  | cons row rest ih =>
    obtain ⟨k,old⟩ := row
    by_cases same : k = key
    · subst same
      by_cases equal : k = other <;> simp [assign,find,equal]
    · by_cases equal : k = other
      · subst equal
        simp [assign,find,same,Ne.symm same]
      · simp [assign,find,same,equal,ih]

theorem keys_assign (key : κ) (value : α) (rows : List (κ × α)) :
    (assign key value rows).map Prod.fst =
      if key ∈ rows.map Prod.fst then rows.map Prod.fst else rows.map Prod.fst ++ [key] := by
  induction rows with
  | nil => simp [assign]
  | cons row rest ih =>
    obtain ⟨k,old⟩ := row
    by_cases same : k = key
    · simp [assign,same]
    · simp only [assign,if_neg same,List.map_cons,ih,List.mem_cons,Ne.symm same,false_or]
      split <;> simp

theorem assign_absent (key : κ) (value : α) {rows : List (κ × α)} (absent : key ∉ rows.map Prod.fst) :
    assign key value rows = rows ++ [(key,value)] := by
  induction rows with
  | nil => rfl
  | cons row rest ih =>
    obtain ⟨k,old⟩ := row
    simp only [List.map_cons,List.mem_cons,not_or] at absent
    simp [assign,Ne.symm absent.1,ih absent.2]

theorem assign_present (key : κ) (value : α) {rows : List (κ × α)} (found : find key rows = some old) :
    ∃ before after, rows = before ++ (key,old) :: after ∧ assign key value rows = before ++ (key,value) :: after := by
  induction rows with
  | nil => cases found
  | cons row rest ih =>
    obtain ⟨k,present⟩ := row
    unfold find at found
    by_cases same : k = key
    · rw [if_pos same] at found
      cases found
      exact ⟨[],rest,by simp [same],by simp [assign,same]⟩
    · rw [if_neg same] at found
      obtain ⟨before,after,split,assigned⟩ := ih found
      exact ⟨(k,present) :: before,after,by simp [split],by simp [assign,same,assigned]⟩

theorem assign_distinct (key : κ) (value : α) {rows : List (κ × α)}
    (distinct : (rows.map Prod.fst).Nodup) : ((assign key value rows).map Prod.fst).Nodup := by
  rw [keys_assign]
  split
  · exact distinct
  · rename_i absent
    exact List.Nodup.append distinct (List.nodup_singleton key) (by simpa using absent)
end Entries

namespace Dict
variable {κ : Type u} {α : Type v}

theorem ext {left right : Dict κ α} (same : left.entries = right.entries) : left = right := by
  cases left; cases right; cases same; rfl

instance [DecidableEq κ] [DecidableEq α] : DecidableEq (Dict κ α) :=
  fun left right => decidable_of_iff (left.entries = right.entries) ⟨ext,fun same => same ▸ rfl⟩

def empty : Dict κ α := ⟨[],List.nodup_nil⟩
def keys (dict : Dict κ α) : List κ := dict.entries.map Prod.fst
def values (dict : Dict κ α) : List α := dict.entries.map Prod.snd
def size (dict : Dict κ α) : Nat := dict.entries.length

def retain (dict : Dict κ α) (keep : κ × α → Bool) : Dict κ α :=
  ⟨dict.entries.filter keep,(List.filter_sublist.map Prod.fst).nodup dict.distinct⟩

variable [DecidableEq κ]

def get (dict : Dict κ α) (key : κ) : Option α := find key dict.entries
def set (dict : Dict κ α) (key : κ) (value : α) : Dict κ α :=
  ⟨assign key value dict.entries,assign_distinct key value dict.distinct⟩
def erase (dict : Dict κ α) (key : κ) : Dict κ α := dict.retain (fun row => decide (row.1 ≠ key))

@[simp] theorem get_empty (key : κ) : (empty : Dict κ α).get key = none := rfl

theorem get_set (dict : Dict κ α) (key other : κ) (value : α) :
    (dict.set key value).get other = if key = other then some value else dict.get other :=
  find_assign key other value dict.entries

@[simp] theorem get_set_self (dict : Dict κ α) (key : κ) (value : α) :
    (dict.set key value).get key = some value := by simp [get_set]

theorem get_set_other (dict : Dict κ α) (value : α) (different : key ≠ other) :
    (dict.set key value).get other = dict.get other := by simp [get_set,different]

theorem set_present (dict : Dict κ α) (found : dict.get key = some value) : dict.set key value = dict := by
  apply ext
  obtain ⟨before,after,split,assigned⟩ := assign_present key value found
  exact assigned.trans split.symm

theorem values_set_absent (dict : Dict κ α) (value : α) (absent : dict.get key = none) :
    (dict.set key value).values = dict.values ++ [value] := by
  have added := assign_absent key value (find_none_iff.mp absent)
  simp [values,set,added]

theorem values_set_present (dict : Dict κ α) (value : α) (found : dict.get key = some old) :
    ∃ before after, dict.values = before ++ old :: after ∧ (dict.set key value).values = before ++ value :: after := by
  obtain ⟨before,after,split,assigned⟩ := assign_present key value found
  exact ⟨before.map Prod.snd,after.map Prod.snd,by simp [values,split],by simp [values,set,assigned]⟩

theorem countP_set (dict : Dict κ α) (p : α → Bool) (key : κ) (value : α) :
    (dict.set key value).values.countP p + ((dict.get key).any p).toNat = dict.values.countP p + (p value).toNat := by
  have single : ∀ item, (if p item = true then 1 else 0) = (p item).toNat := by
    intro item
    cases p item <;> rfl
  cases found : dict.get key with
  | none => simp [values_set_absent dict value found,List.countP_append,List.countP_cons,single]
  | some old =>
    obtain ⟨before,after,was,is⟩ := values_set_present dict value found
    rw [was,is]
    simp only [List.countP_append,List.countP_cons,Option.any_some,single]
    omega

theorem mem_iff (dict : Dict κ α) : (key,value) ∈ dict.entries ↔ dict.get key = some value :=
  ⟨find_of_mem dict.distinct,find_some_mem⟩

theorem get_none_iff (dict : Dict κ α) : dict.get key = none ↔ key ∉ dict.keys := find_none_iff

theorem mem_keys_iff (dict : Dict κ α) : key ∈ dict.keys ↔ (dict.get key).isSome = true := by
  rw [Option.isSome_iff_ne_none,ne_eq,get_none_iff,Decidable.not_not]

theorem get_retain (dict : Dict κ α) (keep : κ × α → Bool) (key : κ) :
    (dict.retain keep).get key = (dict.get key).filter (fun value => keep (key,value)) := by
  cases got : dict.get key with
  | none =>
    rw [Option.filter_none,get_none_iff]
    intro present
    obtain ⟨row,member,rfl⟩ := List.mem_map.mp present
    have kept := (mem_iff dict).mp (List.mem_of_mem_filter member)
    rw [got] at kept
    cases kept
  | some value =>
    have member := (mem_iff dict).mpr got
    cases decision : keep (key,value) with
    | true =>
      rw [Option.filter_some,if_pos decision]
      exact (mem_iff _).mp (List.mem_filter.mpr ⟨member,decision⟩)
    | false =>
      rw [Option.filter_some,if_neg (by simp [decision]),get_none_iff]
      intro present
      obtain ⟨row,inside,equal⟩ := List.mem_map.mp present
      obtain ⟨original,decided⟩ := List.mem_filter.mp inside
      have same := (mem_iff dict).mp (show (key,row.2) ∈ dict.entries by rw [← equal]; exact original)
      rw [got] at same
      cases Option.some.inj same
      rw [show row = (key,row.2) from Prod.ext equal rfl,decision] at decided
      cases decided

theorem get_erase (dict : Dict κ α) (key other : κ) :
    (dict.erase key).get other = if key = other then none else dict.get other := by
  unfold erase
  rw [get_retain]
  cases dict.get other with
  | none => simp
  | some value => by_cases same : key = other <;> simp [Option.filter,same,eq_comm]

-- What only one row of a dictionary contributes to.
theorem flatMap_single (dict : Dict κ α) {f : κ × α → List β} (found : dict.get key = some value)
    (others : ∀ row ∈ dict.entries, row.1 ≠ key → f row = []) : dict.entries.flatMap f = f (key,value) := by
  obtain ⟨before,after,split⟩ := List.append_of_mem (dict.mem_iff.mpr found)
  have distinct := dict.distinct
  rw [split,List.map_append,List.map_cons,List.nodup_append] at distinct
  have quiet : ∀ rows : List (κ × α), (∀ row ∈ rows, row ∈ dict.entries ∧ row.1 ≠ key) → rows.flatMap f = [] := by
    intro rows apart
    exact List.flatMap_eq_nil_iff.mpr (fun row member => others row (apart row member).1 (apart row member).2)
  rw [split,List.flatMap_append,List.flatMap_cons,quiet before ?_,quiet after ?_,List.nil_append,List.append_nil]
  · intro row member
    refine ⟨by rw [split]; simp [member],?_⟩
    intro same
    have listed : row.1 ∈ after.map Prod.fst := List.mem_map_of_mem member
    rw [same] at listed
    exact (List.nodup_cons.mp distinct.2.1).1 listed
  · intro row member
    refine ⟨by rw [split]; simp [member],?_⟩
    intro same
    exact distinct.2.2 row.1 (List.mem_map_of_mem member) key List.mem_cons_self same

@[simp] theorem get_erase_self (dict : Dict κ α) (key : κ) : (dict.erase key).get key = none := by
  simp [get_erase]
end Dict

-- A dictionary filled row by row: the last row of a key gives its value.
section Rows
variable {κ : Type u} {α : Type v} [DecidableEq κ]

def fill (rows : List (κ × α)) : Dict κ α := rows.foldl (fun dict row => dict.set row.1 row.2) .empty

theorem fill_append (rows : List (κ × α)) (row : κ × α) : fill (rows ++ [row]) = (fill rows).set row.1 row.2 := by
  unfold fill
  rw [List.foldl_append,List.foldl_cons,List.foldl_nil]

theorem get_fill (rows : List (κ × α)) (k : κ) :
    (fill rows).get k = (rows.reverse.find? (fun row => decide (row.1 = k))).map Prod.snd := by
  induction rows using List.reverseRecOn with
  | nil => rfl
  | append_singleton rows row ih =>
    rw [fill_append,Dict.get_set,List.reverse_append,List.reverse_singleton,List.singleton_append]
    by_cases same : row.1 = k
    · simp [same]
    · rw [if_neg same,List.find?_cons_of_neg (by simpa using same)]
      exact ih

theorem entries_fill (rows : List (κ × α)) (distinct : (rows.map Prod.fst).Nodup) : (fill rows).entries = rows := by
  induction rows using List.reverseRecOn with
  | nil => rfl
  | append_singleton rows row ih =>
    rw [List.map_append,List.nodup_append] at distinct
    obtain ⟨earlier,-,apart⟩ := distinct
    rw [fill_append]
    have absent : row.1 ∉ (fill rows).entries.map Prod.fst := by
      rw [ih earlier]
      intro seen
      exact apart row.1 seen row.1 (by simp) rfl
    have added := assign_absent row.1 row.2 absent
    rw [ih earlier] at added
    exact (congrArg (assign row.1 row.2) (ih earlier)).trans added
end Rows

-- `{value: key for key, value in dict.items()}`
section Invert
variable {κ : Type u} {α : Type v} [DecidableEq α]

def Dict.invert (dict : Dict κ α) : Dict α κ :=
  dict.entries.foldl (fun inverted row => inverted.set row.2 row.1) .empty

theorem foldl_set_entries (rows : List (κ × α)) (distinct : (rows.map Prod.snd).Nodup) :
    (rows.foldl (fun inverted row => inverted.set row.2 row.1) (.empty : Dict α κ)).entries = rows.map Prod.swap := by
  have filled := entries_fill (rows.map Prod.swap) (by simpa [List.map_map,Function.comp_def] using distinct)
  rw [fill,List.foldl_map] at filled
  exact filled

theorem Dict.entries_invert (dict : Dict κ α) (distinct : dict.values.Nodup) :
    dict.invert.entries = dict.entries.map Prod.swap := foldl_set_entries dict.entries distinct
end Invert

-- Items collected under their keys: `groups.setdefault(key(item), []).append(item)` for each of them.
section Groups
variable {κ : Type u} {α : Type v} [DecidableEq κ] (key : α → κ)

def collect (groups : Dict κ (List α)) (item : α) : Dict κ (List α) := groups.set (key item) ((groups.get (key item)).getD [] ++ [item])

def groupBy (items : List α) : Dict κ (List α) := items.foldl (collect key) .empty

def group (items : List α) (k : κ) : List α := items.filter (fun item => decide (key item = k))

theorem group_append (before after : List α) (k : κ) : group key (before ++ after) k = group key before k ++ group key after k :=
  List.filter_append before after

-- A key holds its items in their order, and an empty group is not there.
theorem get_groupBy (items : List α) (k : κ) : (groupBy key items).get k = if group key items k = [] then none else some (group key items k) := by
  induction items using List.reverseRecOn with
  | nil => rfl
  | append_singleton items item ih =>
    have step : groupBy key (items ++ [item]) = collect key (groupBy key items) item := by
      unfold groupBy
      rw [List.foldl_append,List.foldl_cons,List.foldl_nil]
    rw [step,collect,Dict.get_set,group_append]
    by_cases same : key item = k
    · subst same
      have last : group key [item] (key item) = [item] := by simp [group]
      rw [if_pos rfl,last,if_neg (by simp),ih]
      split
      · rename_i empty
        rw [empty]
        rfl
      · rfl
    · have last : group key [item] k = [] := by simp [group,same]
      rw [if_neg same,last,List.append_nil,ih]

theorem mem_keys_groupBy (items : List α) (k : κ) : k ∈ (groupBy key items).keys ↔ group key items k ≠ [] := by
  rw [Dict.mem_keys_iff,get_groupBy]
  split
  · rename_i empty
    simp [empty]
  · rename_i filled
    simp [filled]

theorem entries_groupBy (items : List α) :
    (groupBy key items).entries = (groupBy key items).keys.map (fun k => (k,group key items k)) := by
  have kept : ∀ entry ∈ (groupBy key items).entries, (entry.1,group key items entry.1) = entry := by
    intro entry member
    have held := (Dict.mem_iff (groupBy key items)).mp member
    rw [get_groupBy] at held
    split at held
    · cases held
    · exact Prod.ext rfl (Option.some.inj held)
  unfold Dict.keys
  rw [List.map_map]
  exact ((List.map_congr_left kept).trans (List.map_id _)).symm

variable {left right : List α}

theorem group_perm (same : left.Perm right) (k : κ) : (group key left k).Perm (group key right k) := same.filter _

theorem keys_groupBy_perm (same : left.Perm right) : (groupBy key left).keys.Perm (groupBy key right).keys := by
  apply (List.perm_ext_iff_of_nodup (groupBy key left).distinct (groupBy key right).distinct).mpr
  intro k
  have grouped := group_perm key same k
  change k ∈ (groupBy key left).keys ↔ k ∈ (groupBy key right).keys
  rw [mem_keys_groupBy,mem_keys_groupBy]
  constructor
  · intro filled empty
    exact filled ((empty ▸ grouped).eq_nil)
  · intro filled empty
    exact filled ((empty ▸ grouped).nil_eq.symm)
end Groups
end OrderedDict
