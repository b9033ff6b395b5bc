import Mathlib.Data.List.Induction

namespace Asap.Circuit

inductive CircuitState where
  | closed
  | opened
  | halfOpen
  deriving DecidableEq

-- The clock and the timeout count the same unit of time.
structure CircuitBreaker where
  threshold : Int
  timeout : Int
  state : CircuitState
  consecutiveFailures : Nat
  lastFailureTime : Option Int
  halfOpenPermit : Bool
  deriving DecidableEq

def CircuitBreaker.init (threshold timeout : Int) : CircuitBreaker := ⟨threshold,timeout,.closed,0,none,true⟩

def CircuitBreaker.recordSuccess (b : CircuitBreaker) : CircuitBreaker :=
  if b.state = .halfOpen then {b with consecutiveFailures := 0, state := .closed, lastFailureTime := none}
  else {b with consecutiveFailures := 0}

def CircuitBreaker.recordFailure (b : CircuitBreaker) (now : Int) : CircuitBreaker :=
  let counted := {b with consecutiveFailures := b.consecutiveFailures + 1, lastFailureTime := some now}
  if b.state = .halfOpen ∨ (b.threshold ≤ counted.consecutiveFailures ∧ b.state = .closed) then
    {counted with state := .opened}
  else counted

-- An open breaker whose last failure lies a timeout back lets one request test the service.
def CircuitBreaker.reconsider (b : CircuitBreaker) (now : Int) : CircuitBreaker :=
  match b.state,b.lastFailureTime with
  | .opened,some failed => if b.timeout ≤ now - failed then {b with state := .halfOpen, halfOpenPermit := true} else b
  | _,_ => b

def CircuitBreaker.canAttempt (b : CircuitBreaker) (now : Int) : CircuitBreaker × Bool :=
  let b := b.reconsider now
  match b.state with
  | .opened => (b,false)
  | .halfOpen => if b.halfOpenPermit then ({b with halfOpenPermit := false},true) else (b,false)
  | .closed => (b,true)

-- Everything an attempt can find: a closed breaker, an open one whose timeout is over,
-- or a refusal that may leave a spent permit behind.
theorem canAttempt_cases (b : CircuitBreaker) (now : Int) :
    (b.state = .closed ∧ b.canAttempt now = (b,true)) ∨
    (b.state = .opened ∧ (∃ failed, b.lastFailureTime = some failed ∧ b.timeout ≤ now - failed) ∧
      b.canAttempt now = ({b with state := .halfOpen, halfOpenPermit := false},true)) ∨
    (b.state = .opened ∧ b.canAttempt now = (b,false)) ∨
    (b.state = .halfOpen ∧ b.halfOpenPermit = true ∧ b.canAttempt now = ({b with halfOpenPermit := false},true)) ∨
    (b.state = .halfOpen ∧ b.halfOpenPermit = false ∧ b.canAttempt now = (b,false)) := by
  cases state : b.state with
  | closed => simp [CircuitBreaker.canAttempt,CircuitBreaker.reconsider,state]
  | halfOpen => cases permit : b.halfOpenPermit <;> simp [CircuitBreaker.canAttempt,CircuitBreaker.reconsider,state,permit]
  | opened =>
    cases failed : b.lastFailureTime with
    | none => simp [CircuitBreaker.canAttempt,CircuitBreaker.reconsider,state,failed]
    | some time =>
      by_cases elapsed : b.timeout ≤ now - time
      · simp [CircuitBreaker.canAttempt,CircuitBreaker.reconsider,state,failed,elapsed]
      · simp [CircuitBreaker.canAttempt,CircuitBreaker.reconsider,state,failed,elapsed]

theorem recordSuccess_left (b : CircuitBreaker) : b.recordSuccess.state ≠ .halfOpen := by
  unfold CircuitBreaker.recordSuccess
  split
  · simp
  · assumption

theorem recordFailure_left (b : CircuitBreaker) (now : Int) : (b.recordFailure now).state ≠ .halfOpen := by
  simp only [CircuitBreaker.recordFailure]
  split
  · simp
  · rename_i kept
    exact fun half => kept (.inl half)

-- The three operations, each under the lock, in any order.
inductive Operation where
  | canAttempt
  | recordSuccess
  | recordFailure
  deriving DecidableEq

structure Call where
  operation : Operation
  time : Int
  deriving DecidableEq

-- The answer is that of `can_attempt`.
def perform (b : CircuitBreaker) (call : Call) : CircuitBreaker × Bool :=
  match call.operation with
  | .canAttempt => b.canAttempt call.time
  | .recordSuccess => (b.recordSuccess,false)
  | .recordFailure => (b.recordFailure call.time,false)

def after (b : CircuitBreaker) (calls : List Call) : CircuitBreaker := calls.foldl (fun b call => (perform b call).1) b

def granted : CircuitBreaker → List Call → Nat
  | _,[] => 0
  | b,call :: rest => (if (perform b call).2 then 1 else 0) + granted (perform b call).1 rest

-- Failures recorded since the last success, and the time of the last failure.
def streak (calls : List Call) : Nat :=
  (calls.reverse.takeWhile (fun call => call.operation ≠ .recordSuccess)).countP (fun call => call.operation = .recordFailure)

def lastFailure (calls : List Call) : Option Int :=
  (calls.reverse.find? (fun call => call.operation = .recordFailure)).map Call.time

theorem streak_append (calls : List Call) (call : Call) :
    streak (calls ++ [call]) = match call.operation with
      | .canAttempt => streak calls
      | .recordSuccess => 0
      | .recordFailure => streak calls + 1 := by
  cases operation : call.operation with
  | canAttempt => simp [streak,operation]
  | recordSuccess => simp [streak,operation]
  | recordFailure => simp [streak,operation]

theorem lastFailure_append (calls : List Call) (call : Call) :
    lastFailure (calls ++ [call]) = if call.operation = .recordFailure then some call.time else lastFailure calls := by
  by_cases failure : call.operation = .recordFailure
  · simp [lastFailure,failure]
  · simp [lastFailure,failure]

-- What ties the breaker's counter, last failure time and permit to the calls made so far.
structure Tracks (threshold timeout : Int) (b : CircuitBreaker) (calls : List Call) : Prop where
  settings : b.threshold = threshold ∧ b.timeout = timeout
  counted : b.consecutiveFailures = streak calls
  dated : ∀ failed, b.lastFailureTime = some failed → lastFailure calls = some failed
  opened : b.state = .opened → b.lastFailureTime ≠ none
  spent : b.state = .halfOpen → b.halfOpenPermit = false

theorem tracks_init (threshold timeout : Int) : Tracks threshold timeout (.init threshold timeout) [] where
  settings := ⟨rfl,rfl⟩
  counted := rfl
  dated := fun _ failed => by cases failed
  opened := fun opened => by cases opened
  spent := fun half => by cases half

theorem canAttempt_tracks {calls : List Call} (call : Call) (attempt : call.operation = .canAttempt)
    (tracks : Tracks threshold timeout b calls) : Tracks threshold timeout (b.canAttempt call.time).1 (calls ++ [call]) := by
  have counted : b.consecutiveFailures = streak (calls ++ [call]) := by rw [streak_append,attempt]; exact tracks.counted
  have dated : ∀ failed, b.lastFailureTime = some failed → lastFailure (calls ++ [call]) = some failed := by
    intro failed known
    rw [lastFailure_append,attempt]
    exact tracks.dated failed known
  rcases canAttempt_cases b call.time with ⟨_,result⟩ | ⟨_,_,result⟩ | ⟨_,result⟩ | ⟨_,_,result⟩ | ⟨_,_,result⟩
  · rw [result]
    exact ⟨tracks.settings,counted,dated,tracks.opened,tracks.spent⟩
  · rw [result]
    exact ⟨tracks.settings,counted,dated,fun opened => (by cases opened),fun _ => rfl⟩
  · rw [result]
    exact ⟨tracks.settings,counted,dated,tracks.opened,tracks.spent⟩
  · rw [result]
    exact ⟨tracks.settings,counted,dated,tracks.opened,fun _ => rfl⟩
  · rw [result]
    exact ⟨tracks.settings,counted,dated,tracks.opened,tracks.spent⟩

theorem recordSuccess_tracks {calls : List Call} (call : Call) (success : call.operation = .recordSuccess)
    (tracks : Tracks threshold timeout b calls) : Tracks threshold timeout b.recordSuccess (calls ++ [call]) := by
  have counted : 0 = streak (calls ++ [call]) := by rw [streak_append,success]
  have dated : ∀ failed, b.lastFailureTime = some failed → lastFailure (calls ++ [call]) = some failed := by
    intro failed known
    rw [lastFailure_append,success]
    exact tracks.dated failed known
  unfold CircuitBreaker.recordSuccess
  split
  · exact ⟨tracks.settings,counted,fun _ failed => (by cases failed),fun opened => (by cases opened),fun half => (by cases half)⟩
  · exact ⟨tracks.settings,counted,dated,tracks.opened,tracks.spent⟩

theorem recordFailure_tracks {calls : List Call} (call : Call) (failure : call.operation = .recordFailure)
    (tracks : Tracks threshold timeout b calls) : Tracks threshold timeout (b.recordFailure call.time) (calls ++ [call]) := by
  have counted : b.consecutiveFailures + 1 = streak (calls ++ [call]) := by rw [streak_append,failure,tracks.counted]
  have dated : ∀ failed, some call.time = some failed → lastFailure (calls ++ [call]) = some failed := by
    intro failed known
    rw [lastFailure_append,if_pos failure]
    exact known
  simp only [CircuitBreaker.recordFailure]
  split
  · exact ⟨tracks.settings,counted,dated,fun _ absent => (by cases absent),fun half => (by cases half)⟩
  · exact ⟨tracks.settings,counted,dated,fun _ absent => (by cases absent),tracks.spent⟩

theorem after_append (b : CircuitBreaker) (calls : List Call) (call : Call) :
    after b (calls ++ [call]) = (perform (after b calls) call).1 := by
  simp [after]

theorem after_tracks (threshold timeout : Int) (calls : List Call) :
    Tracks threshold timeout (after (.init threshold timeout) calls) calls := by
  induction calls using List.reverseRecOn with
  | nil => exact tracks_init threshold timeout
  | append_singleton calls call ih =>
    rw [after_append]
    cases operation : call.operation with
    | canAttempt => simpa only [perform,operation] using canAttempt_tracks call operation ih
    | recordSuccess => simpa only [perform,operation] using recordSuccess_tracks call operation ih
    | recordFailure => simpa only [perform,operation] using recordFailure_tracks call operation ih

-- A breaker opens out of CLOSED at a failure that reaches the threshold and nowhere else.
theorem opens_at_failure (b : CircuitBreaker) (call : Call) (before : b.state = .closed)
    (moved : (perform b call).1.state = .opened) :
    call.operation = .recordFailure ∧ b.threshold ≤ (b.consecutiveFailures : Int) + 1 := by
  unfold perform at moved
  cases operation : call.operation with
  | canAttempt =>
    rcases canAttempt_cases b call.time with ⟨_,result⟩ | ⟨opened,_⟩ | ⟨opened,_⟩ | ⟨half,_⟩ | ⟨half,_⟩
    · rw [operation] at moved
      simp only [result] at moved
      rw [before] at moved
      cases moved
    all_goals simp_all
  | recordSuccess => simp [operation,CircuitBreaker.recordSuccess,before] at moved
  | recordFailure =>
    refine ⟨rfl,?_⟩
    rw [operation] at moved
    simp only [CircuitBreaker.recordFailure] at moved
    split at moved
    · rename_i reached
      rcases reached with half | ⟨reached,_⟩
      · rw [before] at half
        cases half
      · exact_mod_cast reached
    · rw [before] at moved
      cases moved

-- With the permit spent nothing is granted for as long as the breaker stays half open.
theorem spent_grants_nothing (b : CircuitBreaker) (calls : List Call) (half : b.state = .halfOpen)
    (spent : b.halfOpenPermit = false)
    (inside : ∀ head, head <+: calls → (after b head).state = .halfOpen) : granted b calls = 0 := by
  induction calls generalizing b with
  | nil => rfl
  | cons call rest ih =>
    have next : (perform b call).1.state = .halfOpen := inside [call] ⟨rest,rfl⟩
    have same : perform b call = (b,false) := by
      cases operation : call.operation with
      | canAttempt =>
        rcases canAttempt_cases b call.time with ⟨closed,_⟩ | ⟨opened,_⟩ | ⟨opened,_⟩ | ⟨_,permit,_⟩ | ⟨_,_,result⟩
        · rw [half] at closed; cases closed
        · rw [half] at opened; cases opened
        · rw [half] at opened; cases opened
        · rw [spent] at permit; cases permit
        · simp only [perform,operation,result]
      | recordSuccess =>
        simp only [perform,operation] at next
        exact absurd next (recordSuccess_left b)
      | recordFailure =>
        simp only [perform,operation] at next
        exact absurd next (recordFailure_left b call.time)
    have remaining : ∀ head, head <+: rest → (after b head).state = .halfOpen := by
      intro head part
      have deeper := inside (call :: head) (List.cons_prefix_cons.mpr ⟨rfl,part⟩)
      simpa [after,same] using deeper
    simp [granted,same,ih b half spent remaining]

-- One stay in HALF_OPEN, from the call that enters it on.
theorem one_grant_each_stay (b : CircuitBreaker) (calls : List Call) (outside : b.state ≠ .halfOpen)
    (inside : ∀ head, head ≠ [] → head <+: calls → (after b head).state = .halfOpen) : granted b calls ≤ 1 := by
  cases calls with
  | nil => simp [granted]
  | cons call rest =>
    have entered : (perform b call).1.state = .halfOpen := inside [call] (by simp) ⟨rest,rfl⟩
    have spent : (perform b call).1.halfOpenPermit = false := by
      cases operation : call.operation with
      | canAttempt =>
        rcases canAttempt_cases b call.time with ⟨closed,result⟩ | ⟨_,_,result⟩ | ⟨opened,result⟩ | ⟨half,_⟩ | ⟨half,_⟩
        · simp only [perform,operation,result,closed] at entered
          cases entered
        · simp only [perform,operation,result]
        · simp only [perform,operation,result,opened] at entered
          cases entered
        · exact absurd half outside
        · exact absurd half outside
      | recordSuccess =>
        simp only [perform,operation] at entered
        exact absurd entered (recordSuccess_left b)
      | recordFailure =>
        simp only [perform,operation] at entered
        exact absurd entered (recordFailure_left b call.time)
    have remaining : granted (perform b call).1 rest = 0 := by
      refine spent_grants_nothing _ rest entered spent ?_
      intro head part
      exact inside (call :: head) (by simp) (List.cons_prefix_cons.mpr ⟨rfl,part⟩)
    unfold granted
    rw [remaining]
    split <;> omega

-- Safety over whole runs of a fresh breaker, whatever the clock reads.
theorem breaker_safe_over_runs (threshold timeout : Int) :
    (∀ earlier call, (after (.init threshold timeout) earlier).state = .closed →
      (after (.init threshold timeout) (earlier ++ [call])).state = .opened →
      call.operation = .recordFailure ∧ threshold - 1 ≤ streak earlier) ∧
    (∀ earlier call, (after (.init threshold timeout) earlier).state = .opened →
      (perform (after (.init threshold timeout) earlier) call).2 = true →
      ∃ failed, lastFailure earlier = some failed ∧ timeout ≤ call.time - failed) ∧
    (∀ earlier stay, (after (.init threshold timeout) earlier).state ≠ .halfOpen →
      (∀ head, head ≠ [] → head <+: stay → (after (.init threshold timeout) (earlier ++ head)).state = .halfOpen) →
      granted (after (.init threshold timeout) earlier) stay ≤ 1) := by
  refine ⟨?_,?_,?_⟩
  · intro earlier call before moved
    have tracks := after_tracks threshold timeout earlier
    rw [after_append] at moved
    obtain ⟨failure,reached⟩ := opens_at_failure _ call before moved
    rw [tracks.settings.1,tracks.counted] at reached
    exact ⟨failure,by omega⟩
  · intro earlier call before passed
    have tracks := after_tracks threshold timeout earlier
    unfold perform at passed
    cases operation : call.operation with
    | canAttempt =>
      simp only [operation] at passed
      rcases canAttempt_cases (after (.init threshold timeout) earlier) call.time with
        ⟨closed,_⟩ | ⟨_,⟨failed,known,elapsed⟩,_⟩ | ⟨_,result⟩ | ⟨half,_⟩ | ⟨half,_⟩
      · rw [before] at closed; cases closed
      · rw [tracks.settings.2] at elapsed
        exact ⟨failed,tracks.dated failed known,elapsed⟩
      · rw [result] at passed; cases passed
      · rw [before] at half; cases half
      · rw [before] at half; cases half
    | recordSuccess => simp [operation] at passed
    | recordFailure => simp [operation] at passed
  · intro earlier stay outside inside
    refine one_grant_each_stay _ stay outside ?_
    intro head some part
    have stays := inside head some part
    simpa [after] using stays

-- Two failures open the breaker; when the timeout is over one caller passes and the next is refused.
example : (after (.init 2 60) [⟨.recordFailure,0⟩,⟨.recordFailure,5⟩]).state = .opened ∧
    granted (after (.init 2 60) [⟨.recordFailure,0⟩,⟨.recordFailure,5⟩]) [⟨.canAttempt,64⟩,⟨.canAttempt,65⟩,⟨.canAttempt,66⟩] = 1 := by
  decide

end Asap.Circuit
