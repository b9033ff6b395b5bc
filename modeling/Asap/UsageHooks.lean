import Asap.Metering
import Asap.PayloadTypes

-- `dispatch_async` and the usage that it records.
namespace Asap.UsageHooks
open OrderedDict PythonValue PayloadTypes
open Metering (UsageMetrics)

-- `payload` is the `payload_dict`.
structure Envelope where
  payloadType : String
  sender : String
  payload : List (Key × Value)

inductive Fault where
  | handlerNotFound (payloadType : String)
  | handler (text : String)
  | overflow
  | store (text : String)

def field (name : String) (items : List (Key × Value)) : Value := (lookupItem name items).getD .none

section Hook
-- `int` of a text, without a value where it raises ValueError, and `str`.
variable (intOfStr : String → Option Int) (str : Value → String)

def nonNegative (n : Int) (default : Nat) : Nat := if 0 ≤ n then n.toNat else default

-- `int` of an infinity raises OverflowError, which is not caught.
def safeInt (value : Value) (default : Nat) : Except Fault Nat :=
  match value with
  | .bool value => .ok value.toNat
  | .int n => .ok (nonNegative n default)
  | .float value _ => .ok (nonNegative (value.num.tdiv value.den) default)
  | .nonFinite text => if text = "NaN" then .ok default else .error .overflow
  | .str text => .ok ((intOfStr text).elim default (fun n => nonNegative n default))
  | _ => .ok default

structure Counts where
  tokensIn : Nat := 0
  tokensOut : Nat := 0
  apiCalls : Nat := 0

def reportedCounts (metrics : Value) : Except Fault Counts :=
  match metrics with
  | .dict items =>
    (safeInt intOfStr (field "tokens_in" items) 0).bind (fun tokensIn =>
    (safeInt intOfStr (field "tokens_out" items) 0).bind (fun tokensOut =>
    (if tokensOut = 0 then safeInt intOfStr (field "tokens_used" items) 0 else .ok tokensOut).bind (fun tokensOut =>
    (safeInt intOfStr (field "api_calls" items) 0).map (fun apiCalls => ⟨tokensIn,tokensOut,apiCalls⟩))))
  | _ => .ok {}

def usageOf (envelope response : Envelope) (agentId : String) (durationMs : Int) (now : DateTime) (counts : Counts) : UsageMetrics where
  taskId := str (field "task_id" response.payload)
  agentId := agentId
  consumerId := envelope.sender
  tokensIn := counts.tokensIn
  tokensOut := counts.tokensOut
  durationMs := durationMs.toNat
  apiCalls := counts.apiCalls
  timestamp := now

-- The event of `record_task_usage`, none where it returns early. `durationMs` is rounded.
def usageEvent (envelope response : Envelope) (agentId : String) (durationMs : Int) (now : DateTime) : Except Fault (Option UsageMetrics) :=
  if envelope.payloadType ≠ "task.request" then .ok none
  else if response.payloadType ≠ "task.response" then .ok none
  else if !(field "task_id" response.payload).truthy then .ok none
  else (reportedCounts intOfStr (field "metrics" response.payload)).map (fun counts =>
    some (usageOf str envelope response agentId durationMs now counts))

-- How `record` of the store ends for an event: with the text of what it raises, or well.
abbrev MeteringStore := UsageMetrics → Option String

-- The events that the store has taken, and how the recording ends.
def recordTaskUsage (store : MeteringStore) (envelope response : Envelope) (agentId : String) (durationMs : Int) (now : DateTime) :
    Option UsageMetrics × Except Fault Unit :=
  match usageEvent intOfStr str envelope response agentId durationMs now with
  | .error fault => (none,.error fault)
  | .ok none => (none,.ok ())
  | .ok (some event) =>
    match store event with
    | some text => (none,.error (.store text))
    | none => (some event,.ok ())

-- How a handler ends for an envelope.
abbrev Handler := Envelope → Except String Envelope

structure HandlerRegistry where
  handlers : Dict String Handler
  meteringStore : Option MeteringStore

def recordMetering (r : HandlerRegistry) (envelope response : Envelope) (agentId : String) (durationMs : Int) (now : DateTime) :
    Option UsageMetrics × Except Fault Unit :=
  match r.meteringStore with
  | none => (none,.ok ())
  | some store => recordTaskUsage intOfStr str store envelope response agentId durationMs now

-- The recorded event, and the response or what is raised.
def dispatchAsync (r : HandlerRegistry) (envelope : Envelope) (agentId : String) (durationMs : Int) (now : DateTime) :
    Option UsageMetrics × Except Fault Envelope :=
  match r.handlers.get envelope.payloadType with
  | none => (none,.error (.handlerNotFound envelope.payloadType))
  | some handler =>
    match handler envelope with
    | .error text => (none,.error (.handler text))
    | .ok response =>
      let (event,ended) := recordMetering intOfStr str r envelope response agentId durationMs now
      (event,ended.map (fun _ => response))

def infinite : Value → Bool
  | .nonFinite text => decide (text ≠ "NaN")
  | _ => false

theorem safeInt_ok (value : Value) (default : Nat) :
    (∃ n, safeInt intOfStr value default = .ok n) ↔ infinite value = false := by
  unfold safeInt infinite
  cases value <;> simp
  split <;> simp_all

-- No count that is read is infinite; `tokens_used` is read where `tokens_out` gives 0.
def finiteCounts : Value → Bool
  | .dict items =>
    !infinite (field "tokens_in" items) && !infinite (field "tokens_out" items) && !infinite (field "api_calls" items) &&
      (match safeInt intOfStr (field "tokens_out" items) 0 with
        | .ok 0 => !infinite (field "tokens_used" items)
        | _ => true)
  | _ => true

theorem counts_ok (metrics : Value) :
    (∃ counts, reportedCounts intOfStr metrics = .ok counts) ↔ finiteCounts intOfStr metrics = true := by
  unfold reportedCounts finiteCounts
  cases metrics with
  | dict items =>
    have readIn := safeInt_ok intOfStr (field "tokens_in" items) 0
    have readOut := safeInt_ok intOfStr (field "tokens_out" items) 0
    have readUsed := safeInt_ok intOfStr (field "tokens_used" items) 0
    have readCalls := safeInt_ok intOfStr (field "api_calls" items) 0
    simp only
    cases tokensIn : safeInt intOfStr (field "tokens_in" items) 0 with
    | error _ => simp_all [Except.bind]
    | ok n =>
      cases tokensOut : safeInt intOfStr (field "tokens_out" items) 0 with
      | error _ => simp_all [Except.bind]
      | ok m =>
        by_cases silent : m = 0
        · cases tokensUsed : safeInt intOfStr (field "tokens_used" items) 0 with
          | error _ => simp_all [Except.bind]
          | ok used =>
            cases apiCalls : safeInt intOfStr (field "api_calls" items) 0 <;> simp_all [Except.bind,Except.map]
        · cases apiCalls : safeInt intOfStr (field "api_calls" items) 0 with
          | error _ => simp_all [Except.bind,Except.map]
          | ok calls =>
            have other : (match (.ok m : Except Fault Nat) with
                | .ok 0 => !infinite (field "tokens_used" items)
                | _ => true) = true := by
              split
              · rename_i zero
                cases zero
                exact (silent rfl).elim
              · rfl
            simp_all [Except.bind,Except.map]
  | _ => simp

section Dispatch
variable (r : HandlerRegistry) (envelope response : Envelope) (agentId : String) (durationMs : Int) (now : DateTime)

-- The response completes a task.
def Completes (response : Envelope) : Prop :=
  response.payloadType = "task.response" ∧ (field "task_id" response.payload).truthy = true

-- The counts are finite, and the store takes the event.
def Recordable (store : MeteringStore) : Prop :=
  finiteCounts intOfStr (field "metrics" response.payload) = true ∧
    ∀ counts, reportedCounts intOfStr (field "metrics" response.payload) = .ok counts →
      store (usageOf str envelope response agentId durationMs now counts) = none

theorem usageEvent_due (due : envelope.payloadType = "task.request") (completes : Completes response) :
    usageEvent intOfStr str envelope response agentId durationMs now =
      (reportedCounts intOfStr (field "metrics" response.payload)).map (fun counts =>
        some (usageOf str envelope response agentId durationMs now counts)) := by
  simp [usageEvent,due,completes.1,completes.2]

theorem usageEvent_skipped (skipped : ¬(envelope.payloadType = "task.request" ∧ Completes response)) :
    usageEvent intOfStr str envelope response agentId durationMs now = .ok none := by
  unfold usageEvent
  unfold Completes at skipped
  split
  · rfl
  · split
    · rfl
    · rename_i request answer
      have missing : (field "task_id" response.payload).truthy = false := by
        by_contra present
        exact skipped ⟨not_not.mp request,not_not.mp answer,by simpa using present⟩
      simp [missing]

theorem recordTaskUsage_due (store : MeteringStore) (due : envelope.payloadType = "task.request") (completes : Completes response) :
    let recorded := recordTaskUsage intOfStr str store envelope response agentId durationMs now
    (recorded.2 = .ok () ↔ Recordable intOfStr str envelope response agentId durationMs now store) ∧
      (recorded.1.isSome = true ↔ Recordable intOfStr str envelope response agentId durationMs now store) := by
  unfold recordTaskUsage Recordable
  rw [usageEvent_due intOfStr str envelope response agentId durationMs now due completes]
  have counted := counts_ok intOfStr (field "metrics" response.payload)
  cases read : reportedCounts intOfStr (field "metrics" response.payload) with
  | error fault =>
    rw [read] at counted
    have infinite_count : finiteCounts intOfStr (field "metrics" response.payload) = false := by simpa using counted
    simp [Except.map,infinite_count]
  | ok counts =>
    rw [read] at counted
    have finite : finiteCounts intOfStr (field "metrics" response.payload) = true := counted.mp ⟨counts,rfl⟩
    simp only [Except.map,finite,true_and,Except.ok.injEq,forall_eq']
    cases taken : store (usageOf str envelope response agentId durationMs now counts) <;> simp

theorem recordTaskUsage_skipped (store : MeteringStore) (skipped : ¬(envelope.payloadType = "task.request" ∧ Completes response)) :
    recordTaskUsage intOfStr str store envelope response agentId durationMs now = (none,.ok ()) := by
  unfold recordTaskUsage
  rw [usageEvent_skipped intOfStr str envelope response agentId durationMs now skipped]

variable {handler : Handler}

theorem dispatched (registered : r.handlers.get envelope.payloadType = some handler) (returned : handler envelope = .ok response) :
    dispatchAsync intOfStr str r envelope agentId durationMs now =
      ((recordMetering intOfStr str r envelope response agentId durationMs now).1,
        (recordMetering intOfStr str r envelope response agentId durationMs now).2.map (fun _ => response)) := by
  simp [dispatchAsync,registered,returned]

-- Whatever is metered is recorded.
theorem transparent_iff (registered : r.handlers.get envelope.payloadType = some handler) (returned : handler envelope = .ok response) :
    (dispatchAsync intOfStr str r envelope agentId durationMs now).2 = .ok response ↔
      ∀ store, r.meteringStore = some store → envelope.payloadType = "task.request" → Completes response →
        Recordable intOfStr str envelope response agentId durationMs now store := by
  rw [dispatched intOfStr str r envelope response agentId durationMs now registered returned]
  have mapped : ∀ ended : Except Fault Unit, ended.map (fun _ => response) = .ok response ↔ ended = .ok () := by
    intro ended
    cases ended <;> simp [Except.map]
  rw [mapped]
  unfold recordMetering
  cases metered : r.meteringStore with
  | none => simp
  | some store =>
    simp only [Option.some.injEq,forall_eq']
    by_cases due : envelope.payloadType = "task.request" ∧ Completes response
    · simp only [due.1,due.2,true_imp_iff]
      exact (recordTaskUsage_due intOfStr str envelope response agentId durationMs now store due.1 due.2).1
    · rw [recordTaskUsage_skipped intOfStr str envelope response agentId durationMs now store due]
      exact iff_of_true rfl (fun request completes => (due ⟨request,completes⟩).elim)

theorem recorded_iff (registered : r.handlers.get envelope.payloadType = some handler) (returned : handler envelope = .ok response) :
    (dispatchAsync intOfStr str r envelope agentId durationMs now).1.isSome = true ↔
      envelope.payloadType = "task.request" ∧ Completes response ∧
        ∃ store, r.meteringStore = some store ∧ Recordable intOfStr str envelope response agentId durationMs now store := by
  rw [dispatched intOfStr str r envelope response agentId durationMs now registered returned]
  unfold recordMetering
  cases metered : r.meteringStore with
  | none => simp
  | some store =>
    simp only [Option.some.injEq,exists_eq_left']
    by_cases due : envelope.payloadType = "task.request" ∧ Completes response
    · rw [(recordTaskUsage_due intOfStr str envelope response agentId durationMs now store due.1 due.2).2]
      exact ⟨fun recordable => ⟨due.1,due.2,recordable⟩,fun parts => parts.2.2⟩
    · rw [recordTaskUsage_skipped intOfStr str envelope response agentId durationMs now store due]
      exact iff_of_false (by simp) (fun parts => due ⟨parts.1,parts.2.1⟩)

end Dispatch
end Hook

section Claim
variable (texts : Texts) (intOfStr : String → Option Int) (str : Value → String)
variable (r : HandlerRegistry) (envelope response : Envelope) (agentId : String) (durationMs : Int) (now : DateTime)

def respelled (spelling : String) : Envelope := {envelope with payloadType := spelling}

-- The same event or none, whichever spelling of its type the request has.
def SpellingFree (spelling : String) : Prop :=
  (dispatchAsync intOfStr str r envelope agentId durationMs now).1.isSome =
    (dispatchAsync intOfStr str r (respelled envelope spelling) agentId durationMs now).1.isSome

-- Something is recorded of the response when the request is spelled "task.request".
def Metered : Prop :=
  Completes response ∧ ∃ store, r.meteringStore = some store ∧ Recordable intOfStr str envelope response agentId durationMs now store

theorem dispatch_metering_iff (handler : Handler) (registered : r.handlers.get envelope.payloadType = some handler)
    (returned : handler envelope = .ok response) :
    ((dispatchAsync intOfStr str r envelope agentId durationMs now).2 = .ok response ↔
      ∀ store, r.meteringStore = some store → envelope.payloadType = "task.request" → Completes response →
        Recordable intOfStr str envelope response agentId durationMs now store) ∧
    ∀ spelling other, normalizePayloadType texts spelling = normalizePayloadType texts envelope.payloadType →
      r.handlers.get spelling = some other → other (respelled envelope spelling) = .ok response →
      (SpellingFree intOfStr str r envelope agentId durationMs now spelling ↔
        ((envelope.payloadType = "task.request" ↔ spelling = "task.request") ∨
          ¬Metered intOfStr str r envelope response agentId durationMs now)) := by
  refine ⟨transparent_iff intOfStr str r envelope response agentId durationMs now registered returned,?_⟩
  intro spelling other _ known again
  have first := recorded_iff intOfStr str r envelope response agentId durationMs now registered returned
  have second := recorded_iff intOfStr str r (respelled envelope spelling) response agentId durationMs now known again
  unfold SpellingFree
  rw [Bool.eq_iff_iff,first,second]
  -- Neither the event nor what the store does with it depends on the spelling.
  change (envelope.payloadType = "task.request" ∧ Metered intOfStr str r envelope response agentId durationMs now ↔
    spelling = "task.request" ∧ Metered intOfStr str r envelope response agentId durationMs now) ↔ _
  exact and_congr_left_iff.trans (imp_iff_not_or.trans or_comm)

end Claim

theorem sampleClock_date : 1 ≤ 2026 ∧ 2026 ≤ 9999 ∧ 1 ≤ 3 ∧ 3 ≤ 12 ∧ 1 ≤ 1 ∧ 1 ≤ daysInMonth 2026 3 := by decide
theorem sampleClock_time : 12 < 24 ∧ 0 < 60 ∧ 0 < 60 ∧ 0 < 1000000 := by decide
theorem sampleClock_offset : ∀ delta ∈ some (0 : Int), -86400000000 < delta ∧ delta < 86400000000 := by decide

def sampleClock : DateTime := ⟨2026,3,1,12,0,0,0,some 0,sampleClock_date,sampleClock_time,sampleClock_offset⟩

def textOf : Value → String
  | .str text => text
  | _ => ""

def answered (tokensIn : Value) : Envelope where
  payloadType := "task.response"
  sender := "urn:asap:agent:worker"
  payload := [(.str "task_id",.str "t1"),(.str "metrics",.dict [(.str "tokens_in",tokensIn)])]

def asked (payloadType : String) : Envelope := ⟨payloadType,"urn:asap:agent:caller",[]⟩

-- One handler under two spellings.
def serving (store : MeteringStore) (response : Envelope) : HandlerRegistry where
  handlers := ⟨[("task.request",fun _ => .ok response),("TaskRequest",fun _ => .ok response)],by simp⟩
  meteringStore := some store

def dispatchedAs (store : MeteringStore) (tokensIn : Value) (payloadType : String) : Option UsageMetrics × Except Fault Envelope :=
  dispatchAsync String.toInt? textOf (serving store (answered tokensIn)) (asked payloadType) "urn:asap:agent:worker" 12 sampleClock

-- A store that raises, an infinite count, and a request by another spelling.
theorem dispatch_not_transparent :
    (dispatchedAs (fun _ => some "database is locked") (.int 7) "task.request").2 = .error (.store "database is locked") ∧
    (dispatchedAs (fun _ => none) (.nonFinite "Infinity") "task.request").2 = .error .overflow ∧
    normalizePayloadType asciiTexts "TaskRequest" = normalizePayloadType asciiTexts "task.request" ∧
    (dispatchedAs (fun _ => none) (.int 7) "task.request").1.isSome = true ∧
    (dispatchedAs (fun _ => none) (.int 7) "TaskRequest").1.isSome = false :=
  ⟨rfl,rfl,by decide +kernel,by decide +kernel,by decide +kernel⟩

theorem dispatch_metering_iff_answered :
    (dispatchedAs (fun _ => none) (.int 7) "TaskRequest").2 = .ok (answered (.int 7)) ∧
    ¬SpellingFree String.toInt? textOf (serving (fun _ => none) (answered (.int 7))) (asked "TaskRequest") "urn:asap:agent:worker" 12
      sampleClock "task.request" := by
  have parts := dispatch_metering_iff asciiTexts String.toInt? textOf (serving (fun _ => none) (answered (.int 7))) (asked "TaskRequest")
    (answered (.int 7)) "urn:asap:agent:worker" 12 sampleClock (fun _ => .ok (answered (.int 7))) rfl rfl
  refine ⟨parts.1.mpr (fun store _ wrong => absurd wrong (by decide)),?_⟩
  intro free
  rcases (parts.2 "task.request" (fun _ => .ok (answered (.int 7))) (by decide +kernel) rfl rfl).mp free with same | unmetered
  · exact absurd (same.mpr rfl) (by decide)
  · exact unmetered ⟨⟨rfl,rfl⟩,_,rfl,rfl,fun _ _ => rfl⟩

end Asap.UsageHooks
