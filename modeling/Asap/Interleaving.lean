import Asap.OrderedDict

namespace Interleaving
open OrderedDict

-- Runs of a step function all of whose steps are allowed where they are taken.
section Runs
variable {S : Type u} {L : Type v}

inductive Runs (step : S → L → Option S) (allowed : S → L → Prop) : S → List L → S → Prop where
  | nil (s : S) : Runs step allowed s [] s
  | cons (s middle final : S) (label : L) (rest : List L) (permitted : allowed s label)
      (taken : step s label = some middle) (remaining : Runs step allowed middle rest final) :
      Runs step allowed s (label :: rest) final

variable {step : S → L → Option S} {allowed : S → L → Prop} {s middle final : S}

theorem Runs.invariant (invariant : S → Prop)
    (keeps : ∀ s label next, allowed s label → step s label = some next → invariant s → invariant next)
    (run : Runs step allowed s labels final) (start : invariant s) : invariant final := by
  induction run with
  | nil => exact start
  | cons s middle final label rest permitted taken _ ih => exact ih (keeps s label middle permitted taken start)

theorem Runs.mono (run : Runs step allowed s labels final) (wider : ∀ s label, allowed s label → permitted s label) :
    Runs step permitted s labels final := by
  induction run with
  | nil => exact .nil _
  | cons s middle final label rest allow taken _ ih => exact .cons s middle final label rest (wider s label allow) taken ih

theorem Runs.within (run : Runs step allowed s labels final) :
    Runs step (fun s label => allowed s label ∧ label ∈ labels) s labels final := by
  induction run with
  | nil => exact .nil _
  | cons s middle final label rest allow taken _ ih =>
    refine .cons s middle final label rest ⟨allow,List.mem_cons_self⟩ taken ?_
    exact ih.mono (fun s later ⟨permitted,member⟩ => ⟨permitted,List.mem_cons_of_mem _ member⟩)

-- Where a measure never falls and stands still exactly on the permitted steps, a run of permitted
-- steps is one that leaves the measure as it was.
theorem Runs.measured {measure : S → Nat}
    (steps : ∀ s label next, step s label = some next → measure s ≤ measure next ∧ (permitted s label ↔ measure next = measure s))
    (run : Runs step allowed s labels final) :
    measure s ≤ measure final ∧ (Runs step permitted s labels final ↔ measure final = measure s) := by
  induction run with
  | nil s => exact ⟨Nat.le_refl _,⟨fun _ => rfl,fun _ => .nil s⟩⟩
  | cons s middle final label rest _ taken _ ih =>
    obtain ⟨rises,stands⟩ := steps s label middle taken
    refine ⟨Nat.le_trans rises ih.1,?_,?_⟩
    · intro run
      cases run with
      | cons _ _ _ _ _ permit again remaining =>
        rw [taken] at again
        cases again
        exact (ih.2.mp remaining).trans (stands.mp permit)
    · intro same
      have order := ih.1
      have before : measure middle = measure s := by omega
      exact .cons s middle final label rest (stands.mpr before) taken (ih.2.mpr (by omega))

-- A run can be computed where the allowance can.
def execute (step : S → L → Option S) (check : S → L → Bool) : S → List L → Option S
  | s,[] => some s
  | s,label :: rest => if check s label then (step s label).bind (execute step check · rest) else none

theorem execute_runs (check : S → L → Bool) (ran : execute step check s labels = some final) :
    Runs step (fun s label => check s label = true) s labels final := by
  induction labels generalizing s with
  | nil =>
    cases ran
    exact .nil _
  | cons label rest ih =>
    unfold execute at ran
    split at ran
    · rename_i permitted
      obtain ⟨middle,taken,remaining⟩ := Option.bind_eq_some_iff.mp ran
      exact .cons s middle final label rest permitted taken (ih remaining)
    · cases ran

def anyMove (_ : S) (_ : L) : Bool := true

theorem execute_free (ran : execute step anyMove s labels = some final) : Runs step (fun _ _ => True) s labels final :=
  (execute_runs anyMove ran).mono (fun _ _ _ => trivial)

-- Step functions that agree where a run of one of them comes have the same runs.
theorem execute_agree {other : S → L → Option S} (check : S → L → Bool) (reached : S → Prop)
    (same : ∀ s, ∀ label ∈ labels, reached s → step s label = other s label)
    (keeps : ∀ s next, ∀ label ∈ labels, reached s → other s label = some next → reached next) (start : reached s) :
    execute step check s labels = execute other check s labels := by
  induction labels generalizing s with
  | nil => rfl
  | cons label rest ih =>
    unfold execute
    rw [same s label List.mem_cons_self start]
    split
    · cases taken : other s label with
      | none => rfl
      | some next =>
        have kept := keeps s next label List.mem_cons_self start taken
        exact ih (fun s later member => same s later (List.mem_cons_of_mem label member))
          (fun s next later member => keeps s next later (List.mem_cons_of_mem label member)) kept
    · rfl
end Runs

-- Tasks that share a store. One move lets a task arrive or take its next step;
-- the input is what that step reads from elsewhere, the events what it reports.
structure Program (S : Type u) (K : Type v) (I : Type w) (E : Type x) where
  arrives : K → Bool
  advance : S → K → I → Option (S × K × List E)

structure Machine (S : Type u) (K : Type v) (E : Type x) where
  store : S
  tasks : Dict Nat K
  log : List E

inductive Move (K : Type v) (I : Type w) where
  | arrive (id : Nat) (task : K)
  | proceed (id : Nat) (input : I)

variable {S : Type u} {K : Type v} {I : Type w} {E : Type x}

def Machine.init (store : S) : Machine S K E := ⟨store,.empty,[]⟩

def Program.next (p : Program S K I E) (m : Machine S K E) : Move K I → Option (Machine S K E)
  | .arrive id task =>
    if p.arrives task ∧ m.tasks.get id = none then some {m with tasks := m.tasks.set id task} else none
  | .proceed id input =>
    match m.tasks.get id with
    | none => none
    | some task => (p.advance m.store task input).map (fun (store,task',events) =>
        ⟨store,m.tasks.set id task',m.log ++ events⟩)

theorem Program.next_arrive (p : Program S K I E) (m next : Machine S K E) (id : Nat) (task : K)
    (taken : p.next m (.arrive id task) = some next) :
    p.arrives task ∧ m.tasks.get id = none ∧ next = {m with tasks := m.tasks.set id task} := by
  unfold Program.next at taken
  simp only at taken
  split at taken
  · rename_i free
    cases taken
    exact ⟨free.1,free.2,rfl⟩
  · cases taken

theorem Program.next_proceed (p : Program S K I E) (m next : Machine S K E) (id : Nat) (input : I)
    (taken : p.next m (.proceed id input) = some next) :
    ∃ task store task' events, m.tasks.get id = some task ∧ p.advance m.store task input = some (store,task',events) ∧
      next = ⟨store,m.tasks.set id task',m.log ++ events⟩ := by
  unfold Program.next at taken
  simp only at taken
  cases found : m.tasks.get id with
  | none => simp [found] at taken
  | some task =>
    cases advanced : p.advance m.store task input with
    | none => simp [found,advanced] at taken
    | some outcome =>
      obtain ⟨store,task',events⟩ := outcome
      simp only [found,advanced,Option.map_some,Option.some.injEq] at taken
      exact ⟨task,store,task',events,rfl,advanced,taken.symm⟩

-- Programs that agree on the tasks that are in flight.
theorem Program.execute_agree (p other : Program S K I E) (check : Machine S K E → Move K I → Bool) (own : K → Prop)
    (arrives : p.arrives = other.arrives) (same : ∀ s task input, own task → p.advance s task input = other.advance s task input)
    (keeps : ∀ s task input store task' events, own task → other.advance s task input = some (store,task',events) → own task')
    (m : Machine S K E) (moves : List (Move K I)) (joins : ∀ id task, Move.arrive id task ∈ moves → own task)
    (start : ∀ id task, m.tasks.get id = some task → own task) :
    execute p.next check m moves = execute other.next check m moves := by
  refine Interleaving.execute_agree check (fun m => ∀ id task, m.tasks.get id = some task → own task) ?_ ?_ start
  · intro m move _ inFlight
    cases move with
    | arrive id task =>
      unfold Program.next
      rw [arrives]
    | proceed id input =>
      unfold Program.next
      cases found : m.tasks.get id with
      | none => simp only [found]
      | some task => simp only [found,same m.store task input (inFlight id task found)]
  · intro m next move member inFlight taken other' waiting known
    cases move with
    | arrive id task =>
      obtain ⟨_,_,rfl⟩ := other.next_arrive m next id task taken
      simp only [Dict.get_set] at known
      split at known
      · cases known
        exact joins id _ member
      · exact inFlight other' waiting known
    | proceed id input =>
      obtain ⟨task,store,task',events,found,advanced,rfl⟩ := other.next_proceed m next id input taken
      simp only [Dict.get_set] at known
      split at known
      · cases known
        exact keeps m.store task input store _ events (inFlight id task found) advanced
      · exact inFlight other' waiting known

-- What holds of the store and of every task in flight.
def Holds (common : S → List E → Prop) (own : S → K → Prop) (m : Machine S K E) : Prop :=
  common m.store m.log ∧ ∀ id task, m.tasks.get id = some task → own m.store task

-- A step keeps the common part, its own task's part, and does not disturb the others.
theorem Program.interleaved_where (p : Program S K I E) (allowed : Machine S K E → Move K I → Prop)
    (common : S → List E → Prop) (own : S → K → Prop)
    (arrive : ∀ m id task, allowed m (.arrive id task) → p.arrives task → own m.store task)
    (proceed : ∀ m id input task store task' events, Holds common own m → allowed m (.proceed id input) →
      m.tasks.get id = some task → p.advance m.store task input = some (store,task',events) →
      common store (m.log ++ events) ∧ own store task' ∧
        ∀ other waiting, other ≠ id → m.tasks.get other = some waiting → own store waiting)
    (m final : Machine S K E) (moves : List (Move K I)) (run : Runs p.next allowed m moves final)
    (start : Holds common own m) : Holds common own final := by
  refine run.invariant (Holds common own) ?_ start
  intro m move next permitted taken holds
  cases move with
  | arrive id task =>
    obtain ⟨arrives,_,rfl⟩ := p.next_arrive m next id task taken
    refine ⟨holds.1,?_⟩
    intro other waiting found
    simp only [Dict.get_set] at found
    split at found
    · cases found
      exact arrive m id _ permitted arrives
    · exact holds.2 other waiting found
  | proceed id input =>
    obtain ⟨task,store,task',events,known,advanced,rfl⟩ := p.next_proceed m next id input taken
    obtain ⟨shared,mine,others⟩ := proceed m id input task store task' events holds permitted known advanced
    refine ⟨shared,?_⟩
    intro other waiting found
    simp only [Dict.get_set] at found
    split at found
    · cases found
      exact mine
    · rename_i different
      exact others other waiting (fun same => different same.symm) found

-- The same where every task may arrive at any time.
theorem Program.interleaved (p : Program S K I E) (allowed : Machine S K E → Move K I → Prop)
    (common : S → List E → Prop) (own : S → K → Prop)
    (arrive : ∀ s task, p.arrives task → own s task)
    (proceed : ∀ m id input task store task' events, Holds common own m → allowed m (.proceed id input) →
      m.tasks.get id = some task → p.advance m.store task input = some (store,task',events) →
      common store (m.log ++ events) ∧ own store task' ∧
        ∀ other waiting, other ≠ id → m.tasks.get other = some waiting → own store waiting)
    (m final : Machine S K E) (moves : List (Move K I)) (run : Runs p.next allowed m moves final)
    (start : Holds common own m) : Holds common own final :=
  p.interleaved_where allowed common own (fun m _ task _ arrives => arrive m.store task arrives) proceed m final moves run start

-- Every result that a task ended with is in the log, and the other way round.
section Results
variable {R : Type y} (result : K → Option R) (report : E → R)

theorem Program.results_logged (p : Program S K I E) (allowed : Machine S K E → Move K I → Prop)
    (arrive : ∀ task, p.arrives task → result task = none)
    (advance : ∀ s task input store task' events, p.advance s task input = some (store,task',events) →
      result task = none ∧ (result task').toList = events.map report)
    (m final : Machine S K E) (moves : List (Move K I)) (run : Runs p.next allowed m moves final)
    (start : (m.tasks.values.filterMap result).Perm (m.log.map report)) :
    (final.tasks.values.filterMap result).Perm (final.log.map report) := by
  refine run.invariant (fun m => (m.tasks.values.filterMap result).Perm (m.log.map report)) ?_ start
  intro m move next _ taken logged
  cases move with
  | arrive id task =>
    obtain ⟨arrives,free,rfl⟩ := p.next_arrive m next id task taken
    have added := Dict.values_set_absent m.tasks task free
    simpa [added,List.filterMap_append,arrive task arrives] using logged
  | proceed id input =>
    obtain ⟨task,store,task',events,known,advanced,rfl⟩ := p.next_proceed m next id input taken
    obtain ⟨unfinished,reported⟩ := advance m.store task input store task' events advanced
    obtain ⟨before,after,old,new⟩ := Dict.values_set_present m.tasks task' known
    rw [old] at logged
    simp only [new,List.filterMap_append,List.filterMap_cons,unfinished,List.map_append] at logged ⊢
    rw [← reported]
    cases ended : result task' with
    | none => simpa using logged
    | some value =>
      simp only [Option.toList_some]
      exact List.perm_middle.trans ((logged.cons value).trans (List.perm_append_singleton _ _).symm)
end Results

-- A label that no two tasks carry.
section Sole
variable {R : Type y} (label : K → Option R)

def Sole (tasks : Dict Nat K) : Prop :=
  ∀ i j left right mark, tasks.get i = some left → tasks.get j = some right → label left = some mark → label right = some mark → i = j

variable {label} {tasks : Dict Nat K} {id : Nat} {task : K}

theorem Sole.set (sole : Sole label tasks)
    (apart : ∀ j other mark, j ≠ id → tasks.get j = some other → label other = some mark → label task ≠ some mark) :
    Sole label (tasks.set id task) := by
  intro i j left right mark leftFound rightFound leftMark rightMark
  rw [Dict.get_set] at leftFound rightFound
  split at leftFound
  · rename_i isLeft
    cases leftFound
    split at rightFound
    · rename_i isRight
      exact isLeft.symm.trans isRight
    · rename_i notRight
      exact absurd leftMark (apart j right mark (Ne.symm notRight) rightFound rightMark)
  · rename_i notLeft
    split at rightFound
    · cases rightFound
      exact absurd rightMark (apart i left mark (Ne.symm notLeft) leftFound leftMark)
    · exact sole i j left right mark leftFound rightFound leftMark rightMark

-- A task that goes on with the label it has, or without one.
theorem Sole.keep {old : K} (sole : Sole label tasks) (found : tasks.get id = some old) (kept : label task = label old ∨ label task = none) :
    Sole label (tasks.set id task) := by
  refine sole.set (fun j other mark different otherFound otherMark carries => ?_)
  rcases kept with same | gone
  · exact different (sole j id other old mark otherFound found otherMark (same ▸ carries))
  · rw [gone] at carries
    cases carries
end Sole

end Interleaving
