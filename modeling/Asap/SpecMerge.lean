import Asap.ApprovalStore

-- The union of capability specs by name, for whatever stands as a spec.
namespace Asap.SpecMerge
open OrderedDict PythonValue
variable {α : Type}

section Merging
variable (specName : α → String)

@[ext] structure Merging (α : Type) where
  byName : Dict String α
  order : List String

def Merging.start : Merging α := ⟨.empty,[]⟩

def Merging.add (state : Merging α) (spec : α) : Merging α where
  byName := state.byName.set (specName spec) spec
  order := if state.byName.get (specName spec) = none then state.order ++ [specName spec] else state.order

-- `[by_name[name] for name in order]`, where a name that is missing raises.
def Merging.specs (state : Merging α) : Option (List α) := state.order.mapM state.byName.get

def mergeCapabilitySpecs (existing incoming : List α) : Option (List α) :=
  ((existing ++ incoming).foldl (Merging.add specName) .start).specs
end Merging

-- `str(spec.get("name", ""))`, with a parameter for the texts of what is no string.
def specName (text : Value → String) (spec : Dict String Value) : String :=
  match spec.get "name" with
  | none => ""
  | some (.str name) => name
  | some value => text value

-- What a merged list is of the specs that were listed.
structure Merged (name : α → String) (listed merged : List α) : Prop where
  ordered : (merged.map name).Pairwise (fun left right => (listed.map name).idxOf left < (listed.map name).idxOf right)
  names : ∀ n, n ∈ merged.map name ↔ n ∈ listed.map name
  last : ∀ spec ∈ merged, ∃ front back, listed = front ++ spec :: back ∧ ∀ later ∈ back, name later ≠ name spec

section Loop
variable {name : α → String}

def run (name : α → String) (listed : List α) : Merging α := listed.foldl (Merging.add name) .start

theorem run_concat (listed : List α) (spec : α) : run name (listed ++ [spec]) = (run name listed).add name spec :=
  List.foldl_concat ..

theorem run_byName (listed : List α) : (run name listed).byName = fill (listed.map (fun spec => (name spec,spec))) := by
  induction listed using List.reverseRecOn with
  | nil => rfl
  | append_singleton listed spec ih =>
    rw [run_concat,List.map_append,List.map_singleton,fill_append,← ih]
    rfl

-- The order list is the dictionary's own order.
theorem run_order (listed : List α) : (run name listed).order = (run name listed).byName.keys := by
  induction listed using List.reverseRecOn with
  | nil => rfl
  | append_singleton listed spec ih =>
    rw [run_concat]
    show (if (run name listed).byName.get (name spec) = none then (run name listed).order ++ [name spec] else (run name listed).order) =
      (assign (name spec) spec (run name listed).byName.entries).map Prod.fst
    rw [keys_assign,ih]
    by_cases known : name spec ∈ (run name listed).byName.keys
    · rw [if_neg (fun absent => (Dict.get_none_iff _).mp absent known)]
      exact (if_pos known).symm
    · rw [if_pos ((Dict.get_none_iff _).mpr known)]
      exact (if_neg known).symm

-- The last spec of a name.
def lastOf (name : α → String) (listed : List α) (n : String) : Option α := listed.reverse.find? (fun spec => decide (name spec = n))

theorem lastOf_append (before after : List α) (n : String) :
    lastOf name (before ++ after) n = (lastOf name after n).or (lastOf name before n) := by
  unfold lastOf
  rw [List.reverse_append,List.find?_append]

theorem get_run (listed : List α) (n : String) : (run name listed).byName.get n = lastOf name listed n := by
  rw [run_byName,get_fill,← List.map_reverse,List.find?_map,Option.map_map]
  exact Option.map_id' ..

theorem lastOf_split {listed : List α} {n : String} {spec : α} (last : lastOf name listed n = some spec) :
    name spec = n ∧ ∃ front back, listed = front ++ spec :: back ∧ ∀ later ∈ back, name later ≠ n := by
  obtain ⟨named,before,after,split,others⟩ := List.find?_eq_some_iff_append.mp last
  refine ⟨of_decide_eq_true named,after.reverse,before.reverse,?_,?_⟩
  · have flipped := congrArg List.reverse split
    rw [List.reverse_reverse,List.reverse_append,List.reverse_cons] at flipped
    rw [flipped,List.append_assoc,List.singleton_append]
  · intro later member
    simpa using others later (List.mem_reverse.mp member)

theorem lastOf_isSome (listed : List α) (n : String) : (lastOf name listed n).isSome = true ↔ n ∈ listed.map name := by
  simp [lastOf]

-- Each stored spec stands under its own name.
theorem entry_name {listed : List α} {entry : String × α} (stored : entry ∈ (run name listed).byName.entries) : name entry.2 = entry.1 :=
  (lastOf_split ((get_run listed entry.1).symm.trans ((Dict.mem_iff _).mp stored))).1

theorem names_values (listed : List α) : (run name listed).byName.values.map name = (run name listed).byName.keys := by
  unfold Dict.values Dict.keys
  rw [List.map_map]
  exact List.map_congr_left (fun _ stored => entry_name stored)

theorem mapM_get {κ β : Type} [DecidableEq κ] (dict : Dict κ β) (rows : List (κ × β)) (inside : ∀ row ∈ rows, row ∈ dict.entries) :
    (rows.map Prod.fst).mapM dict.get = some (rows.map Prod.snd) := by
  induction rows with
  | nil => rfl
  | cons row rest ih =>
    have found : dict.get row.1 = some row.2 := (Dict.mem_iff dict).mp (inside row (List.mem_cons_self))
    rw [List.map_cons,List.mapM_cons,found,ih (fun later member => inside later (List.mem_cons_of_mem _ member))]
    rfl

theorem run_specs (listed : List α) : (run name listed).specs = some (run name listed).byName.values := by
  unfold Merging.specs
  rw [run_order]
  exact mapM_get _ _ (fun _ stored => stored)

-- A merged list holds all that the loop knows.
theorem run_values (listed : List α) : run name (run name listed).byName.values = run name listed := by
  have rows : (run name listed).byName.values.map (fun spec => (name spec,spec)) = (run name listed).byName.entries := by
    unfold Dict.values
    rw [List.map_map]
    conv_rhs => rw [← List.map_id (run name listed).byName.entries]
    apply List.map_congr_left
    intro row stored
    exact Prod.ext (entry_name stored) rfl
  have stored : (run name (run name listed).byName.values).byName = (run name listed).byName := by
    rw [run_byName,rows]
    exact Dict.ext (entries_fill _ (run name listed).byName.distinct)
  have listing : (run name (run name listed).byName.values).order = (run name listed).order := by
    rw [run_order,run_order,stored]
  exact Merging.ext stored listing

theorem run_again (listed further : List α) : run name ((run name listed).byName.values ++ further) = run name (listed ++ further) := by
  unfold run
  rw [List.foldl_append,List.foldl_append]
  exact congrArg (fun state => further.foldl (Merging.add name) state) (run_values listed)

-- Specs of known names keep the order.
theorem order_known (specs : List α) (state : Merging α) (known : ∀ spec ∈ specs, state.byName.get (name spec) ≠ none) :
    (specs.foldl (Merging.add name) state).order = state.order := by
  induction specs generalizing state with
  | nil => rfl
  | cons spec rest ih =>
    rw [List.foldl_cons,ih]
    · exact if_neg (known spec (List.mem_cons_self))
    · intro later member
      show (state.byName.set (name spec) spec).get (name later) ≠ none
      rw [Dict.get_set]
      split
      · exact Option.some_ne_none spec
      · exact known later (List.mem_cons_of_mem _ member)

theorem specs_twice (existing incoming : List α) :
    (run name (existing ++ incoming ++ incoming)).specs = (run name (existing ++ incoming)).specs := by
  have listing : (run name (existing ++ incoming ++ incoming)).order = (run name (existing ++ incoming)).order := by
    unfold run
    rw [List.foldl_append]
    apply order_known
    intro spec member
    rw [← run,get_run,Option.ne_none_iff_isSome,lastOf_isSome]
    exact List.mem_map_of_mem (List.mem_append_right _ member)
  have stored : (run name (existing ++ incoming ++ incoming)).byName.get = (run name (existing ++ incoming)).byName.get := by
    funext n
    rw [get_run,get_run,lastOf_append,lastOf_append,← Option.or_assoc,Option.or_self]
  unfold Merging.specs
  rw [listing,stored]

theorem run_ordered (listed : List α) :
    (run name listed).order.Pairwise (fun left right => (listed.map name).idxOf left < (listed.map name).idxOf right) := by
  induction listed using List.reverseRecOn with
  | nil => exact .nil
  | append_singleton listed spec ih =>
    have member {n : String} : n ∈ (run name listed).order ↔ n ∈ listed.map name := by
      rw [run_order,Dict.mem_keys_iff,get_run,lastOf_isSome]
    have longer : (run name listed).order.Pairwise
        (fun left right => ((listed ++ [spec]).map name).idxOf left < ((listed ++ [spec]).map name).idxOf right) := by
      apply ih.imp_of_mem
      intro left right leftIn rightIn earlier
      rw [List.map_append,List.idxOf_append_of_mem (member.mp leftIn),List.idxOf_append_of_mem (member.mp rightIn)]
      exact earlier
    rw [run_concat]
    show List.Pairwise _ (if (run name listed).byName.get (name spec) = none then (run name listed).order ++ [name spec] else (run name listed).order)
    split
    · rename_i absent
      have new : name spec ∉ listed.map name := by
        rw [← lastOf_isSome,← get_run,absent]
        exact Bool.false_ne_true
      refine List.pairwise_append.mpr ⟨longer,List.pairwise_singleton ..,?_⟩
      intro left leftIn right rightIn
      rw [List.mem_singleton.mp rightIn,List.map_append,List.idxOf_append_of_mem (member.mp leftIn),List.idxOf_append_of_notMem new]
      exact Nat.lt_of_lt_of_le (List.idxOf_lt_length_of_mem (member.mp leftIn)) (Nat.le_add_right ..)
    · exact longer

theorem run_merged (listed : List α) : Merged name listed (run name listed).byName.values where
  ordered := by
    rw [names_values,← run_order]
    exact run_ordered listed
  names := by
    intro n
    rw [names_values,Dict.mem_keys_iff,get_run,lastOf_isSome]
  last := by
    intro spec member
    obtain ⟨entry,stored,rfl⟩ := List.mem_map.mp member
    obtain ⟨named,parts⟩ := lastOf_split ((get_run listed entry.1).symm.trans ((Dict.mem_iff _).mp stored))
    rwa [named]
end Loop

theorem mergeCapabilitySpecs_run (name : α → String) (existing incoming : List α) :
    mergeCapabilitySpecs name existing incoming = some (run name (existing ++ incoming)).byName.values := run_specs (existing ++ incoming)

-- The specs of the approval store are merged so.
theorem approvalStore_merge (existing incoming : List Capabilities.Spec) :
    mergeCapabilitySpecs Capabilities.Spec.name existing incoming = some (ApprovalStore.mergeCapabilitySpecs existing incoming) := by
  rw [mergeCapabilitySpecs_run,run_byName,fill,List.foldl_map]
  rfl

-- No step of the loop fails; the merged list is the union by name, and merging goes on from it as from what it was merged of.
theorem merge_union (text : Value → String) (existing incoming : List (Dict String Value)) :
    ∃ merged, mergeCapabilitySpecs (specName text) existing incoming = some merged ∧ (merged.map (specName text)).Nodup ∧
      Merged (specName text) (existing ++ incoming) merged ∧
      mergeCapabilitySpecs (specName text) merged incoming = some merged ∧
      ∀ further, mergeCapabilitySpecs (specName text) merged further = mergeCapabilitySpecs (specName text) existing (incoming ++ further) := by
  refine ⟨_,mergeCapabilitySpecs_run _ existing incoming,?_,run_merged _,?_,?_⟩
  · rw [names_values]
    exact (run (specName text) (existing ++ incoming)).byName.distinct
  · have again : (run (specName text) (existing ++ incoming ++ incoming)).specs = (run (specName text) (existing ++ incoming)).specs :=
      specs_twice existing incoming
    rw [run_specs,run_specs] at again
    rw [mergeCapabilitySpecs_run,run_again]
    exact again
  · intro further
    rw [mergeCapabilitySpecs_run,run_again,mergeCapabilitySpecs_run,List.append_assoc]

end Asap.SpecMerge
