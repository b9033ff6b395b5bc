import Asap.Interleaving

-- The permits of `BoundedExecutor`, over calls of `submit` and the worker threads of the inner pool.
namespace Asap.BoundedExecutor
open OrderedDict Interleaving

-- A call of `submit` and its future. The flag of a future is whether `release_on_done` is added to it:
-- the future finishes first, and the callback runs after that.
inductive Task where
  | exhausted
  | acquired
  | shutDown
  | pending (callback : Bool)
  | running (callback : Bool)
  | done (callback : Bool)
  | released
  deriving DecidableEq

structure Pool where
  maxThreads : Nat
  semaphore : Nat
  isShutdown : Bool
  tasks : Dict Nat Task
  deriving DecidableEq

def cpus (cpuCount : Option Nat) : Nat := if cpuCount.getD 0 = 0 then 1 else cpuCount.getD 0

-- `none` is the ValueError of a size below one.
def create (maxThreads : Option Int) (cpuCount : Option Nat) : Option Pool :=
  let size := maxThreads.getD (min 32 (cpus cpuCount + 4) : Nat)
  if size < 1 then none else some ⟨size.toNat,size.toNat,false,.empty⟩

inductive Move where
  | submit (id : Nat)
  | enqueue (id : Nat)
  | addDoneCallback (id : Nat)
  | start (id : Nat)
  | finish (id : Nat) (failed : Bool)
  | cancel (id : Nat)
  | releaseOnDone (id : Nat)
  | shutdown
  deriving DecidableEq

def Pool.put (s : Pool) (id : Nat) (task : Task) : Pool := {s with tasks := s.tasks.set id task}

-- A handler that fails finishes its future with an exception in place of a result. Only a future that
-- is not running is cancelled, by its holder or by `shutdown(cancel_futures=True)`.
def next (s : Pool) : Move → Option Pool
  | .submit id => if s.tasks.get id ≠ none then none
    else if s.semaphore = 0 then some (s.put id .exhausted)
    else some {s.put id .acquired with semaphore := s.semaphore - 1}
  | .enqueue id => match s.tasks.get id with
    -- the inner `submit` raises, and nothing gives the permit back
    | some .acquired => some (s.put id (if s.isShutdown then .shutDown else .pending false))
    | _ => none
  | .addDoneCallback id => match s.tasks.get id with
    | some (.pending false) => some (s.put id (.pending true))
    | some (.running false) => some (s.put id (.running true))
    | some (.done false) => some (s.put id (.done true))
    | _ => none
  | .start id => match s.tasks.get id with
    | some (.pending callback) => some (s.put id (.running callback))
    | _ => none
  | .finish id _ => match s.tasks.get id with
    | some (.running callback) => some (s.put id (.done callback))
    | _ => none
  | .cancel id => match s.tasks.get id with
    | some (.pending callback) => some (s.put id (.done callback))
    | _ => none
  | .releaseOnDone id => match s.tasks.get id with
    | some (.done true) => some {s.put id .released with semaphore := s.semaphore + 1}
    | _ => none
  | .shutdown => some {s with isShutdown := true}

def Pool.taken (s : Pool) : Int := s.maxThreads - s.semaphore

-- A future that has not finished.
def Task.unfinished : Task → Bool
  | .pending _ => true
  | .running _ => true
  | _ => false

-- A call or a callback is between the future and its permit.
def Task.between : Task → Bool
  | .acquired => true
  | .done _ => true
  | _ => false

def Task.leaked (task : Task) : Bool := task = .shutDown

def Task.holds (task : Task) : Bool := task.unfinished || task.between || task.leaked

def Pool.count (s : Pool) (p : Task → Bool) : Nat := s.tasks.values.countP p

-- No call of `submit` has a permit and no future yet, and every callback of a finished future has run.
def Quiet (s : Pool) : Prop := s.count Task.between = 0

instance (s : Pool) : Decidable (Quiet s) := inferInstanceAs (Decidable (s.count Task.between = 0))

-- No call that has its permit comes to a pool that is shut down.
def Orderly (s : Pool) (move : Move) : Prop := ∀ id, move = .enqueue id → s.isShutdown = false

variable {s s' : Pool} {move : Move} {id : Nat} {task : Task}

-- One task moves on, and the semaphore counts what it takes or gives; or the pool is shut down.
inductive Moved (s : Pool) : Move → Pool → Prop where
  | task (move : Move) (id : Nat) (old : Option Task) (new : Task) (semaphore : Nat) (known : s.tasks.get id = old)
      (kept : semaphore + new.holds.toNat = s.semaphore + (old.any Task.holds).toNat)
      (unleaked : old.any Task.leaked = false) (leaks : new.leaked = true ↔ ¬ Orderly s move) :
      Moved s move {s.put id new with semaphore := semaphore}
  | shutdown : Moved s .shutdown {s with isShutdown := true}

theorem next_moved (taken : next s move = some s') : Moved s move s' := by
  have apart : ∀ move, (∀ id, move ≠ .enqueue id) → Orderly s move := fun move other id same => absurd same (other id)
  cases move with
  | submit id =>
    unfold next at taken
    simp only at taken
    split at taken
    · cases taken
    · rename_i vacant
      have absent : s.tasks.get id = none := by simpa using vacant
      split at taken
      · cases taken
        exact .task _ id none .exhausted s.semaphore absent rfl rfl (by simp [Task.leaked,apart])
      · rename_i free
        cases taken
        refine .task _ id none .acquired (s.semaphore - 1) absent ?_ rfl (by simp [Task.leaked,apart])
        simp only [Task.holds,Task.unfinished,Task.between,Bool.false_or,Bool.true_or,Bool.toNat_true,Option.any_none,Bool.toNat_false]
        omega
  | enqueue id =>
    unfold next at taken
    simp only at taken
    split at taken
    · rename_i known
      cases taken
      cases down : s.isShutdown with
      | true => exact .task _ id (some .acquired) .shutDown s.semaphore known rfl rfl (by simp [Task.leaked,Orderly,down])
      | false => exact .task _ id (some .acquired) (.pending false) s.semaphore known rfl rfl (by simp [Task.leaked,Orderly,down])
    · cases taken
  | addDoneCallback id =>
    unfold next at taken
    simp only at taken
    split at taken
    · rename_i known
      cases taken
      exact .task _ id _ _ s.semaphore known rfl rfl (by simp [Task.leaked,apart])
    · rename_i known
      cases taken
      exact .task _ id _ _ s.semaphore known rfl rfl (by simp [Task.leaked,apart])
    · rename_i known
      cases taken
      exact .task _ id _ _ s.semaphore known rfl rfl (by simp [Task.leaked,apart])
    · cases taken
  | start id =>
    unfold next at taken
    simp only at taken
    split at taken
    · rename_i known
      cases taken
      exact .task _ id _ _ s.semaphore known rfl rfl (by simp [Task.leaked,apart])
    · cases taken
  | finish id failed =>
    unfold next at taken
    simp only at taken
    split at taken
    · rename_i known
      cases taken
      exact .task _ id _ _ s.semaphore known rfl rfl (by simp [Task.leaked,apart])
    · cases taken
  | cancel id =>
    unfold next at taken
    simp only at taken
    split at taken
    · rename_i known
      cases taken
      exact .task _ id _ _ s.semaphore known rfl rfl (by simp [Task.leaked,apart])
    · cases taken
  | releaseOnDone id =>
    unfold next at taken
    simp only at taken
    split at taken
    · rename_i known
      cases taken
      exact .task _ id _ _ (s.semaphore + 1) known rfl rfl (by simp [Task.leaked,apart])
    · cases taken
  | shutdown =>
    cases taken
    exact .shutdown

-- Every permit is free or held by one task.
def Balanced (s : Pool) : Prop := s.semaphore + s.count Task.holds = s.maxThreads

theorem moved_balanced (moved : Moved s move s') (balanced : Balanced s) : Balanced s' := by
  cases moved with
  | task move id old new semaphore known kept =>
    have counted := s.tasks.countP_set Task.holds id new
    rw [known] at counted
    simp only [Balanced,Pool.count,Pool.put] at balanced ⊢
    omega
  | shutdown => exact balanced

theorem moved_leaked (moved : Moved s move s') :
    s.count Task.leaked ≤ s'.count Task.leaked ∧ (Orderly s move ↔ s'.count Task.leaked = s.count Task.leaked) := by
  cases moved with
  | task move id old new semaphore known kept unleaked leaks =>
    have counted := s.tasks.countP_set Task.leaked id new
    rw [known,unleaked] at counted
    simp only [Pool.count,Pool.put]
    cases leaked : new.leaked with
    | true =>
      rw [leaked] at counted
      have disorderly := leaks.mp leaked
      simp only [Bool.toNat_true,Bool.toNat_false] at counted
      refine ⟨by omega,fun orderly => absurd orderly disorderly,fun same => ?_⟩
      omega
    | false =>
      rw [leaked] at counted
      have orderly : Orderly s move := by
        by_contra disorderly
        rw [leaks.mpr disorderly] at leaked
        cases leaked
      simp only [Bool.toNat_false] at counted
      exact ⟨by omega,fun _ => by omega,fun _ => orderly⟩
  | shutdown => exact ⟨Nat.le_refl _,fun _ => rfl,fun _ id impossible => by cases impossible⟩

theorem count_holds (s : Pool) : s.count Task.holds = s.count Task.unfinished + s.count Task.between + s.count Task.leaked := by
  unfold Pool.count
  induction s.tasks.values with
  | nil => rfl
  | cons task rest ih =>
    simp only [List.countP_cons,ih]
    cases task <;> simp [Task.holds,Task.unfinished,Task.between,Task.leaked] <;> omega

theorem create_balanced {maxThreads : Option Int} {cpuCount : Option Nat} (created : create maxThreads cpuCount = some s) :
    Balanced s ∧ s.count Task.leaked = 0 := by
  unfold create at created
  simp only at created
  split at created
  · cases created
  · cases created
    exact ⟨rfl,rfl⟩

theorem run_balanced {moves : List Move} (run : Runs next (fun _ _ => True) s moves s') (balanced : Balanced s) : Balanced s' :=
  run.invariant Balanced (fun _ _ _ _ taken balanced => moved_balanced (next_moved taken) balanced) balanced

-- The permits taken are those of the unfinished futures and of the calls and callbacks on the way, and
-- of the unfinished futures alone once these are through, exactly in the runs that lead no call with a
-- permit to a pool that is shut down.
theorem permits_conserved_iff {maxThreads : Option Int} {cpuCount : Option Nat} {moves : List Move}
    (created : create maxThreads cpuCount = some s) (run : Runs next (fun _ _ => True) s moves s') :
    (s'.taken = s'.count Task.unfinished + s'.count Task.between ↔ Runs next Orderly s moves s') ∧
    (Quiet s' → (s'.taken = s'.count Task.unfinished ↔ Runs next Orderly s moves s')) := by
  obtain ⟨balanced,unleaked⟩ := create_balanced created
  have balance := run_balanced run balanced
  have orderly := (run.measured (fun _ _ _ taken => moved_leaked (next_moved taken))).2
  have held := count_holds s'
  rw [unleaked] at orderly
  rw [Balanced] at balance
  rw [orderly]
  constructor
  · rw [Pool.taken]
    omega
  · intro quiet
    rw [Quiet] at quiet
    rw [Pool.taken]
    omega

def single : Pool := ⟨1,1,false,.empty⟩

-- A call that is served, one that is refused for saturation, and a future that is cancelled.
def served : List Move := [.submit 0,.enqueue 0,.addDoneCallback 0,.start 0,.submit 1,.finish 0 true,.releaseOnDone 0,
  .submit 2,.enqueue 2,.cancel 2,.addDoneCallback 2,.releaseOnDone 2]

def released : Pool := ⟨1,1,false,⟨[(0,.released),(1,.exhausted),(2,.released)],by decide⟩⟩

theorem permits_conserved_served : create (some 1) none = some single ∧ Runs next (fun _ _ => True) single served released ∧
    (released.taken = released.count Task.unfinished ↔ Runs next Orderly single served released) :=
  have created : create (some 1) none = some single := by decide
  have run : Runs next (fun _ _ => True) single served released := execute_free (by decide +kernel)
  ⟨created,run,(permits_conserved_iff created run).2 (by decide)⟩

-- A call after the shutdown: its permit is taken for good, and the next one is refused as saturated.
def afterShutdown : List Move := [.shutdown,.submit 0,.enqueue 0,.submit 1]

def drained : Pool := ⟨1,0,true,⟨[(0,.shutDown),(1,.exhausted)],by decide⟩⟩

theorem permit_lost : create (some 1) none = some single ∧ Runs next (fun _ _ => True) single afterShutdown drained ∧
    Quiet drained ∧ drained.count Task.unfinished = 0 ∧ drained.taken ≠ drained.count Task.unfinished :=
  ⟨by decide,execute_free (by decide +kernel),by decide,by decide,by decide⟩

end Asap.BoundedExecutor
