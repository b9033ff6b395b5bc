import Asap.Metrics
import Mathlib.Logic.Function.Iterate

-- The state machine of tasks, and the counter of its transitions.
namespace Asap.TaskStates
open OrderedDict Metrics

inductive TaskStatus where
  | submitted
  | working
  | completed
  | failed
  | cancelled
  | inputRequired
  deriving DecidableEq

def TaskStatus.value : TaskStatus → String
  | .submitted => "submitted"
  | .working => "working"
  | .completed => "completed"
  | .failed => "failed"
  | .cancelled => "cancelled"
  | .inputRequired => "input_required"

def TaskStatus.all : List TaskStatus :=
  [TaskStatus.submitted,TaskStatus.working,TaskStatus.completed,TaskStatus.failed,TaskStatus.cancelled,TaskStatus.inputRequired]

def validTransitions : Dict TaskStatus (List TaskStatus) where
  entries := [(TaskStatus.submitted,[TaskStatus.working,TaskStatus.cancelled]),
    (TaskStatus.working,[TaskStatus.completed,TaskStatus.failed,TaskStatus.cancelled,TaskStatus.inputRequired]),
    (TaskStatus.inputRequired,[TaskStatus.working,TaskStatus.cancelled]),(TaskStatus.completed,[]),(TaskStatus.failed,[]),(TaskStatus.cancelled,[])]
  distinct := by decide

def canTransition (fromStatus toStatus : TaskStatus) : Bool := ((validTransitions.get fromStatus).getD []).contains toStatus

-- The fields that a transition reads and writes.
structure Task (Time : Type) where
  id : String
  status : TaskStatus
  updatedAt : Time
  deriving DecidableEq

def Task.canBeCancelled (task : Task Time) : Bool := [TaskStatus.submitted,TaskStatus.working].contains task.status

structure InvalidTransitionError where
  message : String
  fromState : String
  toState : String
  taskId : String

def stateTransitionsTotal : String := "asap_state_transitions_total"

def labels (fromStatus toStatus : TaskStatus) : Dict String String :=
  ⟨[("from_status",fromStatus.value),("to_status",toStatus.value)],by simp⟩

section Transition
variable {K Time : Type} (floats : Floats K) (one : Value K)

-- `transition` at a time, with what it adds to the counter.
def transition (collector : MetricsCollector K) (task : Task Time) (newStatus : TaskStatus) (now : Time) :
    MetricsCollector K × Except InvalidTransitionError (Task Time) :=
  if canTransition task.status newStatus then
    (collector.incrementCounter floats stateTransitionsTotal (some (labels task.status newStatus)) one,
      .ok {task with status := newStatus,updatedAt := now})
  else
    (collector,.error ⟨"Invalid transition from '" ++ task.status.value ++ "' to '" ++ newStatus.value ++ "'",
      task.status.value,newStatus.value,task.id⟩)

-- A call about one of the tasks there are.
structure Call (Time : Type) where
  index : Nat
  newStatus : TaskStatus
  now : Time

abbrev State (K Time : Type) := List (Task Time) × MetricsCollector K

def apply (state : State K Time) (call : Call Time) : State K Time :=
  match state.1[call.index]? with
  | none => state
  | some task =>
    match transition floats one state.2 task call.newStatus call.now with
    | (collector,.ok updated) => (state.1.set call.index updated,collector)
    | (collector,.error _) => (state.1,collector)

def run (state : State K Time) (calls : List (Call Time)) : State K Time := calls.foldl (apply floats one) state

-- What the counter says about the transitions between two states.
def reading (collector : MetricsCollector K) (fromStatus toStatus : TaskStatus) : Value K :=
  ((collector.counters.get stateTransitionsTotal).bind (fun counter => counter.values.get (labelKey (some (labels fromStatus toStatus))))).getD
    floats.zero

def Registered (collector : MetricsCollector K) : Prop := (collector.counters.get stateTransitionsTotal).isSome = true
end Transition

section Table
variable {fromStatus toStatus : TaskStatus}

-- The transition to `cancelled` is open to the tasks that wait for input too, which `canBeCancelled` leaves out.
theorem cancelled_iff (task : Task Time) :
    canTransition task.status .cancelled = true ↔ task.canBeCancelled = true ∨ task.status = .inputRequired := by
  cases own : task.status <;> simp [Task.canBeCancelled,own] <;> decide

end Table

section Flows
variable {K Time : Type} (floats : Floats K) (one : Value K)

def made (state : State K Time) (call : Call Time) : List (TaskStatus × TaskStatus) :=
  match state.1[call.index]? with
  | none => []
  | some task => if canTransition task.status call.newStatus then [(task.status,call.newStatus)] else []

-- The transitions that the calls have made, in their order.
def history (state : State K Time) : List (Call Time) → List (TaskStatus × TaskStatus)
  | [] => []
  | call :: rest => made state call ++ history (apply floats one state call) rest

variable {floats one} {state : State K Time} {collector : MetricsCollector K}

theorem arrivals (steps : List (TaskStatus × TaskStatus)) (status : TaskStatus) :
    steps.countP (fun step => decide (step.2 = status)) = (TaskStatus.all.map (fun fromStatus => steps.count (fromStatus,status))).sum := by
  induction steps with
  | nil => rfl
  | cons step rest ih =>
    obtain ⟨a,b⟩ := step
    rw [List.countP_cons,ih]
    by_cases own : b = status
    · subst own
      cases a <;> simp [TaskStatus.all,List.count_cons] <;> omega
    · simp [TaskStatus.all,own]
end Flows

section Conservation
variable {K Time : Type} (floats : Floats K) (one : Value K)

end Conservation

end Asap.TaskStates
