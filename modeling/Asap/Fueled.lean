import Mathlib.Data.List.Forall2
import Mathlib.Logic.Relation

-- Computations that may run out of fuel: what more fuel keeps, and what enough of it yields.
namespace Fueled
open Relation
universe u v w
variable {α : Type u} {β : Type v} {γ : Type w}

-- A result stays when there is more fuel.
def Persists (run : Nat → Option α) : Prop := ∀ fuel result, run fuel = some result → run (fuel + 1) = some result

def Yields (run : Nat → Option α) (result : α) : Prop := ∃ fuel, run fuel = some result

def Returns (run : Nat → Option α) : Prop := ∃ result, Yields run result

theorem Persists.later {run : Nat → Option α} (persists : Persists run) {fuel more : Nat} (enough : fuel ≤ more) {result : α}
    (found : run fuel = some result) : run more = some result := by
  induction enough with
  | refl => exact found
  | step _ ih => exact persists _ _ ih

theorem Persists.const (result : Option α) : Persists (fun _ => result) := fun _ _ found => found

theorem yields_const (result : α) : Yields (fun _ => some result) result := ⟨0,rfl⟩

theorem Persists.unique {run : Nat → Option α} (persists : Persists run) {first second : α} (left : Yields run first) (right : Yields run second) :
    first = second := by
  obtain ⟨fuel,foundLeft⟩ := left
  obtain ⟨more,foundRight⟩ := right
  have both := (persists.later (Nat.le_max_left fuel more) foundLeft).symm.trans (persists.later (Nat.le_max_right fuel more) foundRight)
  exact Option.some.inj both

section Bind
variable {run : Nat → Option α} {next : α → Nat → Option β}

theorem Persists.bind (persists : Persists run) (later : ∀ value, Persists (next value)) :
    Persists (fun fuel => (run fuel).bind (fun value => next value fuel)) := by
  intro fuel result found
  obtain ⟨value,first,second⟩ := Option.bind_eq_some_iff.mp found
  exact Option.bind_eq_some_iff.mpr ⟨value,persists fuel value first,later value fuel result second⟩

theorem yields_bind (persists : Persists run) (later : ∀ value, Persists (next value)) (result : β) :
    Yields (fun fuel => (run fuel).bind (fun value => next value fuel)) result ↔ ∃ value, Yields run value ∧ Yields (next value) result := by
  constructor
  · rintro ⟨fuel,found⟩
    obtain ⟨value,first,second⟩ := Option.bind_eq_some_iff.mp found
    exact ⟨value,⟨fuel,first⟩,⟨fuel,second⟩⟩
  · rintro ⟨value,⟨fuel,first⟩,⟨more,second⟩⟩
    exact ⟨max fuel more,Option.bind_eq_some_iff.mpr ⟨value,persists.later (Nat.le_max_left fuel more) first,
      (later value).later (Nat.le_max_right fuel more) second⟩⟩

theorem returns_bind (persists : Persists run) (later : ∀ value, Persists (next value)) :
    Returns (fun fuel => (run fuel).bind (fun value => next value fuel)) ↔ ∃ value, Yields run value ∧ Returns (next value) := by
  constructor
  · rintro ⟨result,yields⟩
    obtain ⟨value,first,second⟩ := (yields_bind persists later result).mp yields
    exact ⟨value,first,result,second⟩
  · rintro ⟨value,first,result,second⟩
    exact ⟨result,(yields_bind persists later result).mpr ⟨value,first,second⟩⟩

-- What comes after returns, or not, whatever came before it.
theorem returns_bind_both (persists : Persists run) (later : ∀ value, Persists (next value)) {after : Prop} (same : ∀ value, Returns (next value) ↔ after) :
    Returns (fun fuel => (run fuel).bind (fun value => next value fuel)) ↔ Returns run ∧ after := by
  rw [returns_bind persists later]
  constructor
  · rintro ⟨value,first,second⟩
    exact ⟨⟨value,first⟩,(same value).mp second⟩
  · rintro ⟨⟨value,first⟩,second⟩
    exact ⟨value,first,(same value).mpr second⟩
end Bind

section Map
variable {run : Nat → Option α}

theorem Persists.map (persists : Persists run) (f : α → β) : Persists (fun fuel => (run fuel).map f) := by
  intro fuel result found
  obtain ⟨value,first,same⟩ := Option.map_eq_some_iff.mp found
  exact Option.map_eq_some_iff.mpr ⟨value,persists fuel value first,same⟩

theorem returns_map (f : α → β) : Returns (fun fuel => (run fuel).map f) ↔ Returns run := by
  constructor
  · rintro ⟨_,fuel,found⟩
    obtain ⟨value,first,_⟩ := Option.map_eq_some_iff.mp found
    exact ⟨value,fuel,first⟩
  · rintro ⟨value,fuel,found⟩
    exact ⟨f value,fuel,Option.map_eq_some_iff.mpr ⟨value,found,rfl⟩⟩
end Map

theorem mapM_each {f : α → Option β} {items : List α} {results : List β} (ran : items.mapM f = some results) :
    List.Forall₂ (fun item result => f item = some result) items results := by
  induction items generalizing results with
  | nil =>
    cases ran
    exact .nil
  | cons item rest ih =>
    rw [List.mapM_cons] at ran
    obtain ⟨first,found,ran⟩ := Option.bind_eq_some_iff.mp ran
    obtain ⟨others,later,same⟩ := Option.bind_eq_some_iff.mp ran
    cases same
    exact .cons found (ih later)

theorem each_left {related : α → β → Prop} {items : List α} {results : List β} (each : List.Forall₂ related items results) {item : α}
    (inside : item ∈ items) : ∃ result ∈ results, related item result := by
  induction each with
  | nil => cases inside
  | cons first _ ih =>
    rcases List.mem_cons.mp inside with same | inside
    · subst same
      exact ⟨_,List.mem_cons_self,first⟩
    · obtain ⟨result,listed,found⟩ := ih inside
      exact ⟨result,List.mem_cons_of_mem _ listed,found⟩

theorem each_right {related : α → β → Prop} {items : List α} {results : List β} (each : List.Forall₂ related items results) {result : β}
    (inside : result ∈ results) : ∃ item ∈ items, related item result := by
  obtain ⟨item,listed,found⟩ := each_left each.flip inside
  exact ⟨item,listed,found⟩

-- One computation for each item of a list.
section Each
variable {run : α → Nat → Option β}

theorem mapM_cons_run (item : α) (rest : List α) : (fun fuel => (item :: rest).mapM (fun item => run item fuel)) =
    fun fuel => (run item fuel).bind (fun value => (rest.mapM (fun item => run item fuel)).map (value :: ·)) := by
  funext fuel
  rw [List.mapM_cons]
  cases run item fuel with
  | none => rfl
  | some value => cases rest.mapM (fun item => run item fuel) <;> rfl

theorem Persists.mapM (persists : ∀ item, Persists (run item)) (items : List α) : Persists (fun fuel => items.mapM (fun item => run item fuel)) := by
  induction items with
  | nil => exact Persists.const (some [])
  | cons item rest ih =>
    rw [mapM_cons_run]
    exact (persists item).bind (fun value => ih.map (value :: ·))

theorem returns_mapM (persists : ∀ item, Persists (run item)) (items : List α) :
    Returns (fun fuel => items.mapM (fun item => run item fuel)) ↔ ∀ item ∈ items, Returns (run item) := by
  induction items with
  | nil => exact ⟨fun _ _ inside => (by cases inside),fun _ => ⟨[],0,rfl⟩⟩
  | cons item rest ih =>
    rw [mapM_cons_run,returns_bind (persists item) (fun value => (Persists.mapM persists rest).map (value :: ·)),List.forall_mem_cons,← ih]
    constructor
    · rintro ⟨value,first,others⟩
      exact ⟨⟨value,first⟩,(returns_map _).mp others⟩
    · rintro ⟨⟨value,first⟩,others⟩
      exact ⟨value,first,(returns_map _).mpr others⟩
end Each

-- The first item of a list for which there is something to be found.
section Search
variable {run : α → Nat → Option (Option β)}

def search (run : α → Nat → Option (Option β)) : List α → Nat → Option (Option β)
  | [],_ => some none
  | item :: rest,fuel => (run item fuel).bind (fun hit =>
      match hit with
      | none => search run rest fuel
      | some found => some (some found))

theorem search_cons (run : α → Nat → Option (Option β)) (item : α) (rest : List α) : search run (item :: rest) =
    fun fuel => (run item fuel).bind (fun hit => hit.elim (search run rest fuel) (fun found => some (some found))) := by
  funext fuel
  rw [search]
  congr 1
  funext hit
  cases hit <;> rfl

theorem Persists.search (persists : ∀ item, Persists (run item)) (items : List α) : Persists (search run items) := by
  induction items with
  | nil => exact Persists.const (some none)
  | cons item rest ih =>
    rw [search_cons]
    refine (persists item).bind ?_
    intro hit
    cases hit with
    | none => exact ih
    | some found => exact Persists.const (some (some found))

-- An item is looked at when there was nothing before it.
theorem returns_search (persists : ∀ item, Persists (run item)) (items : List α) : Returns (search run items) ↔
    ∀ before item after, items = before ++ item :: after → (∀ earlier ∈ before, ∀ found, ¬Yields (run earlier) (some found)) → Returns (run item) := by
  induction items with
  | nil =>
    constructor
    · intro _ before item after split
      cases before <;> cases split
    · exact fun _ => ⟨none,0,rfl⟩
  | cons first rest ih =>
    have later : ∀ hit : Option β, Persists (fun fuel => hit.elim (search run rest fuel) (fun found => some (some found))) := by
      intro hit
      cases hit with
      | none => exact Persists.search persists rest
      | some found => exact Persists.const (some (some found))
    rw [search_cons,returns_bind (persists first) later]
    constructor
    · rintro ⟨hit,yields,returns⟩ before item after split unfound
      cases before with
      | nil =>
        cases split
        exact ⟨hit,yields⟩
      | cons earlier before =>
        cases split
        cases hit with
        | none => exact ih.mp returns before item after rfl (fun passed inside => unfound passed (List.mem_cons_of_mem _ inside))
        | some found => exact absurd yields (unfound first List.mem_cons_self found)
    · intro every
      obtain ⟨hit,yields⟩ := every [] first rest rfl (fun _ inside => (by cases inside))
      refine ⟨hit,yields,?_⟩
      cases hit with
      | some found => exact ⟨some found,0,rfl⟩
      | none =>
        refine ih.mpr ?_
        intro before item after split unfound
        refine every (first :: before) item after (congrArg (first :: ·) split) ?_
        intro earlier inside found yielded
        rcases List.mem_cons.mp inside with same | inside
        · subst same
          exact absurd ((persists earlier).unique yields yielded) (by simp)
        · exact unfound earlier inside found yielded
end Search

-- From one item to the next, as long as there is one.
section Follow
variable (next : α → Option α)

def follow : Nat → α → Option α
  | 0,here =>
    match next here with
    | none => some here
    | some _ => none
  | fuel + 1,here =>
    match next here with
    | none => some here
    | some target => follow fuel target

def Leads (here target : α) : Prop := next here = some target

-- An item on the way from here leads back to itself.
def RunsIntoCycle (here : α) : Prop := ∃ item, ReflTransGen (Leads next) here item ∧ TransGen (Leads next) item item

variable {next}

theorem follow_end {here : α} (ends : next here = none) (fuel : Nat) : follow next fuel here = some here := by
  cases fuel with
  | zero => rw [follow,ends]
  | succ fuel => rw [follow,ends]

theorem follow_short {here target : α} (step : next here = some target) : follow next 0 here = none := by rw [follow,step]

theorem follow_step {here target : α} (step : next here = some target) (fuel : Nat) : follow next (fuel + 1) here = follow next fuel target := by
  rw [follow,step]

theorem follow_succ {fuel : Nat} {here result : α} (found : follow next fuel here = some result) : follow next (fuel + 1) here = some result := by
  induction fuel generalizing here with
  | zero =>
    cases step : next here with
    | none =>
      rw [follow_end step] at found ⊢
      exact found
    | some target =>
      rw [follow_short step] at found
      cases found
  | succ fuel ih =>
    cases step : next here with
    | none =>
      rw [follow_end step] at found ⊢
      exact found
    | some target =>
      rw [follow_step step] at found ⊢
      exact ih found

theorem follow_persists (here : α) : Persists (fun fuel => follow next fuel here) := fun _ _ found => follow_succ found

theorem follow_way {fuel : Nat} {here last : α} (found : follow next fuel here = some last) :
    ReflTransGen (Leads next) here last ∧ next last = none := by
  induction fuel generalizing here with
  | zero =>
    cases step : next here with
    | none =>
      rw [follow_end step] at found
      cases found
      exact ⟨.refl,step⟩
    | some target =>
      rw [follow_short step] at found
      cases found
  | succ fuel ih =>
    cases step : next here with
    | none =>
      rw [follow_end step] at found
      cases found
      exact ⟨.refl,step⟩
    | some target =>
      rw [follow_step step] at found
      obtain ⟨way,ends⟩ := ih found
      exact ⟨.head step way,ends⟩

theorem yields_follow (here last : α) :
    Yields (fun fuel => follow next fuel here) last ↔ ReflTransGen (Leads next) here last ∧ next last = none := by
  constructor
  · rintro ⟨fuel,found⟩
    exact follow_way found
  · rintro ⟨way,ends⟩
    induction way using ReflTransGen.head_induction_on with
    | refl => exact ⟨0,follow_end ends 0⟩
    | head step _ ih =>
      obtain ⟨fuel,found⟩ := ih
      exact ⟨fuel + 1,(follow_step step fuel).trans found⟩

theorem RunsIntoCycle.step {here target : α} (step : next here = some target) (cycle : RunsIntoCycle next here) : RunsIntoCycle next target := by
  obtain ⟨item,way,around⟩ := cycle
  have ahead : ∀ {item}, TransGen (Leads next) here item → ReflTransGen (Leads next) target item := by
    intro item way
    obtain ⟨first,begins,rest⟩ := TransGen.head'_iff.mp way
    cases Option.some.inj (step.symm.trans begins)
    exact rest
  rcases ReflTransGen.cases_head way with same | ⟨first,begins,rest⟩
  · cases same
    have back := ahead around
    exact ⟨here,back,around⟩
  · exact ⟨item,ahead (TransGen.head' begins rest),around⟩

theorem not_cycle_of_follow {fuel : Nat} {here result : α} (found : follow next fuel here = some result) : ¬RunsIntoCycle next here := by
  have ended : ∀ {here}, next here = none → ¬RunsIntoCycle next here := by
    rintro here ends ⟨item,way,around⟩
    have begins : ∃ first, next here = some first := by
      rcases ReflTransGen.cases_head way with same | ⟨first,begins,_⟩
      · cases same
        obtain ⟨first,begins,_⟩ := TransGen.head'_iff.mp around
        exact ⟨first,begins⟩
      · exact ⟨first,begins⟩
    obtain ⟨first,begins⟩ := begins
    rw [ends] at begins
    cases begins
  induction fuel generalizing here with
  | zero =>
    cases step : next here with
    | none => exact ended step
    | some target =>
      rw [follow_short step] at found
      cases found
  | succ fuel ih =>
    cases step : next here with
    | none => exact ended step
    | some target =>
      rw [follow_step step] at found
      exact fun cycle => ih found (cycle.step step)

-- Without a cycle, what is still ahead gets fewer with each step.
theorem follow_returns_of_ahead (ahead : List α) (here : α) (inside : ∀ item, TransGen (Leads next) here item → item ∈ ahead)
    (acyclic : ¬RunsIntoCycle next here) : Returns (fun fuel => follow next fuel here) := by
  classical
  generalize length : ahead.length = size
  induction size using Nat.strongRecOn generalizing ahead here with
  | ind size ih =>
    cases step : next here with
    | none => exact ⟨here,0,follow_end step 0⟩
    | some target =>
      have once : TransGen (Leads next) here target := .single step
      have fewer : (ahead.filter (· ≠ target)).length < size := by
        rw [← length]
        exact List.length_filter_lt_length_iff_exists.mpr ⟨target,inside target once,by simp⟩
      have later : ∀ item, TransGen (Leads next) target item → item ∈ ahead.filter (· ≠ target) := by
        intro item way
        refine List.mem_filter.mpr ⟨inside item (once.trans way),decide_eq_true ?_⟩
        intro same
        subst same
        exact acyclic ⟨item,once.to_reflTransGen,way⟩
      have unbroken : ¬RunsIntoCycle next target := by
        rintro ⟨item,way,around⟩
        exact acyclic ⟨item,.head step way,around⟩
      obtain ⟨result,fuel,found⟩ := ih _ fewer (ahead.filter (· ≠ target)) target later unbroken rfl
      exact ⟨result,fuel + 1,(follow_step step fuel).trans found⟩

theorem returns_follow (targets : List α) (finite : ∀ here target, next here = some target → target ∈ targets) (here : α) :
    Returns (fun fuel => follow next fuel here) ↔ ¬RunsIntoCycle next here := by
  constructor
  · rintro ⟨result,fuel,found⟩
    exact not_cycle_of_follow found
  · refine follow_returns_of_ahead targets here ?_
    intro item way
    obtain ⟨before,_,last⟩ := TransGen.tail'_iff.mp way
    exact finite before item last
end Follow

end Fueled
