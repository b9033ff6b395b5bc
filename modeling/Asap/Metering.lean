import Asap.SqlTable
import Asap.PythonJson
import Asap.IsoOrder
import Asap.OrderedDict
import Mathlib.Data.List.Dedup

-- Usage metering: `InMemoryMeteringStorage` and `SQLiteMeteringStorage`, called one call after
-- another. A timezone is its offset.
namespace Asap.Metering
open OrderedDict PythonValue SqlTable

structure UsageMetrics where
  taskId : String
  agentId : String
  consumerId : String
  tokensIn : Nat := 0
  tokensOut : Nat := 0
  durationMs : Nat := 0
  apiCalls : Nat := 0
  timestamp : DateTime
  deriving DecidableEq

structure MeteringQuery where
  agentId : Option String := none
  consumerId : Option String := none
  taskId : Option String := none
  start : Option DateTime := none
  ending : Option DateTime := none
  limit : Option Nat := none
  offset : Nat := 0
  positive : ∀ n ∈ limit, 1 ≤ n := by intro n impossible; cases impossible

structure AgentTotals where
  agentId : String
  period : String
  totalTokens : Nat
  totalDurationMs : Nat
  totalTasks : Nat
  totalApiCalls : Nat
  avgTokensPerTask : Rat
  avgDurationMsPerTask : Rat
  deriving DecidableEq

structure ConsumerTotals where
  consumerId : String
  period : String
  totalTokens : Nat
  totalDurationMs : Nat
  totalTasks : Nat
  totalApiCalls : Nat
  avgTokensPerTask : Rat
  deriving DecidableEq

structure PeriodTotals where
  period : String
  totalTokens : Nat
  totalDurationMs : Nat
  totalTasks : Nat
  totalApiCalls : Nat
  uniqueAgents : Nat
  uniqueConsumers : Nat
  deriving DecidableEq

inductive UsageAggregate where
  | byAgent (totals : List AgentTotals)
  | byConsumer (totals : List ConsumerTotals)
  | byPeriod (totals : List PeriodTotals)
  deriving DecidableEq

structure UsageSummary where
  totalTasks : Nat := 0
  totalTokens : Nat := 0
  totalDurationMs : Nat := 0
  uniqueAgents : Nat := 0
  uniqueConsumers : Nat := 0
  totalApiCalls : Nat := 0
  deriving DecidableEq

structure StorageStats where
  totalEvents : Nat := 0
  oldestTimestamp : Option DateTime := none
  retentionTtlSeconds : Option Int
  deriving DecidableEq

inductive Failure where
  | typeError
  | overflow
  | invalidGroupBy (groupBy : String)
  | unreadable
  deriving DecidableEq

section Aggregates
-- `/` of two ints: the nearest float, `none` where there is none.
variable (truediv : Nat → Nat → Option Rat)

def totalTokens (events : List UsageMetrics) : Nat := (events.map (fun e => e.tokensIn + e.tokensOut)).sum
def totalDuration (events : List UsageMetrics) : Nat := (events.map UsageMetrics.durationMs).sum
def totalApiCalls (events : List UsageMetrics) : Nat := (events.map UsageMetrics.apiCalls).sum
def uniqueAgents (events : List UsageMetrics) : Nat := (events.map UsageMetrics.agentId).dedup.length
def uniqueConsumers (events : List UsageMetrics) : Nat := (events.map UsageMetrics.consumerId).dedup.length

-- What the three aggregations share: events collected under a key, totals for each key in the order
-- of first appearance, and the totals sorted by their key.
def aggregateBy (key : UsageMetrics → String) (totals : String → List UsageMetrics → Option α) (name : α → String)
    (events : List UsageMetrics) : Option (List α) :=
  ((groupBy key events).entries.mapM (fun entry => totals entry.1 entry.2)).map (fun out => orderByText name out)

def average (total tasks : Nat) : Option Rat := if tasks ≠ 0 then truediv total tasks else some 0

def agentTotals (agentId : String) (events : List UsageMetrics) : Option AgentTotals :=
  match average truediv (totalTokens events) events.length,average truediv (totalDuration events) events.length with
  | some avgTokens,some avgDuration =>
    some ⟨agentId,"all",totalTokens events,totalDuration events,events.length,totalApiCalls events,avgTokens,avgDuration⟩
  | _,_ => none

def aggregateByAgent (events : List UsageMetrics) : Option (List AgentTotals) :=
  aggregateBy UsageMetrics.agentId (agentTotals truediv) AgentTotals.agentId events

def consumerTotals (consumerId : String) (events : List UsageMetrics) : Option ConsumerTotals :=
  (average truediv (totalTokens events) events.length).map (fun avgTokens =>
    ⟨consumerId,"all",totalTokens events,totalDuration events,events.length,totalApiCalls events,avgTokens⟩)

def aggregateByConsumer (events : List UsageMetrics) : Option (List ConsumerTotals) :=
  aggregateBy UsageMetrics.consumerId (consumerTotals truediv) ConsumerTotals.consumerId events

def periodKey (periodFormat : String) (ts : DateTime) : String :=
  if periodFormat = "day" then ts.dateIsoformat
  else toString ts.isocalendar.1 ++ "-W" ++ pad 2 ts.isocalendar.2

def periodTotals (period : String) (events : List UsageMetrics) : Option PeriodTotals :=
  some ⟨period,totalTokens events,totalDuration events,events.length,totalApiCalls events,uniqueAgents events,uniqueConsumers events⟩

def aggregateByPeriod (periodFormat : String) (events : List UsageMetrics) : Option (List PeriodTotals) :=
  aggregateBy (fun e => periodKey periodFormat e.timestamp) periodTotals PeriodTotals.period events

def dispatchAggregate (events : List UsageMetrics) (groupBy : String) : Except Failure UsageAggregate :=
  if groupBy = "agent" then ((aggregateByAgent truediv events).map UsageAggregate.byAgent).elim (.error .overflow) .ok
  else if groupBy = "consumer" then ((aggregateByConsumer truediv events).map UsageAggregate.byConsumer).elim (.error .overflow) .ok
  else if groupBy = "day" ∨ groupBy = "week" then ((aggregateByPeriod groupBy events).map UsageAggregate.byPeriod).elim (.error .overflow) .ok
  else .error (.invalidGroupBy groupBy)

def computeSummary (events : List UsageMetrics) : UsageSummary :=
  if events.isEmpty then {}
  else ⟨events.length,totalTokens events,totalDuration events,uniqueAgents events,uniqueConsumers events,totalApiCalls events⟩
end Aggregates

def cutoff (ttl : Int) (now : UtcTime) : Option DateTime := (now.val.minusSeconds ttl).map DateTime.wholeSeconds

inductive Call where
  | record (metrics : UsageMetrics)
  | query (filters : MeteringQuery)
  | aggregate (groupBy : String) (filters : Option MeteringQuery)
  | summary (filters : Option MeteringQuery)
  | stats
  | purgeExpired (now : UtcTime)

inductive Reply where
  | recorded
  | events (events : List UsageMetrics)
  | aggregates (aggregate : UsageAggregate)
  | summary (summary : UsageSummary)
  | stats (stats : StorageStats)
  | purged (count : Nat)
  | raised (failure : Failure)
  deriving DecidableEq

def answer (reply : α → Reply) : Except Failure α → Reply
  | .ok result => reply result
  | .error failure => .raised failure

-- The filters of an aggregation, without limit and offset.
def aggFilters (filters : MeteringQuery) : MeteringQuery :=
  {agentId := filters.agentId,consumerId := filters.consumerId,taskId := filters.taskId,start := filters.start,ending := filters.ending}

namespace InMemory

-- The times are compared only where the identifiers match.
def matchesQuery (e : UsageMetrics) (f : MeteringQuery) : Option Bool :=
  if f.agentId.all (fun id => decide (e.agentId = id)) && f.consumerId.all (fun id => decide (e.consumerId = id)) &&
      f.taskId.all (fun id => decide (e.taskId = id)) then
    (f.start.elim (some true) (fun start => start.le? e.timestamp)).bind (fun after =>
      if after then f.ending.elim (some true) (fun ending => e.timestamp.le? ending) else some false)
  else some false

def select (filters : MeteringQuery) : List UsageMetrics → Option (List UsageMetrics)
  | [] => some []
  | e :: rest => (matchesQuery e filters).bind (fun chosen =>
      (select filters rest).map (fun others => if chosen then e :: others else others))

-- Aware times and naive ones do not compare.
def mixed (events : List UsageMetrics) : Bool :=
  events.any (fun e => e.timestamp.utcoffset.isSome) && events.any (fun e => e.timestamp.utcoffset.isNone)

def applyQueryFilters (events : List UsageMetrics) (filters : MeteringQuery) : Except Failure (List UsageMetrics) :=
  match select filters events with
  | none => .error .typeError
  | some chosen =>
    if mixed chosen then .error .typeError
    else
    let out := (chosen.mergeSort (fun a b => decide (a.timestamp.instant ≤ b.timestamp.instant))).drop filters.offset
    .ok (filters.limit.elim out (fun limit => out.take limit))

def filtered (events : List UsageMetrics) (filters : Option MeteringQuery) : Except Failure (List UsageMetrics) :=
  match filters with
  | none => .ok events
  | some filters => applyQueryFilters events (aggFilters filters)

-- `min` keeps the first of equal ones.
def oldest : List UsageMetrics → Option DateTime
  | [] => none
  | e :: rest => some (rest.foldl (fun best other => if other.timestamp.instant < best.instant then other.timestamp else best) e.timestamp)

def stats (ttl : Option Int) (events : List UsageMetrics) : Except Failure StorageStats :=
  if mixed events then .error .typeError else .ok ⟨events.length,oldest events,ttl⟩

def purgeExpired (ttl : Option Int) (events : List UsageMetrics) (now : UtcTime) : List UsageMetrics × Except Failure Nat :=
  match ttl with
  | none => (events,.ok 0)
  | some ttl =>
    match cutoff ttl now with
    | none => (events,.error .overflow)
    | some cutoff =>
      if events.any (fun e => e.timestamp.utcoffset.isNone) then (events,.error .typeError)
      else
      let kept := events.filter (fun e => decide (cutoff.instant ≤ e.timestamp.instant))
      (kept,.ok (events.length - kept.length))

section Calls
variable (truediv : Nat → Nat → Option Rat) (ttl : Option Int)

def call (events : List UsageMetrics) : Call → List UsageMetrics × Reply
  | .record metrics => (events ++ [metrics],.recorded)
  | .query filters => (events,answer .events (applyQueryFilters events filters))
  | .aggregate groupBy filters =>
    (events,answer .aggregates ((filtered events filters).bind (fun events => dispatchAggregate truediv events groupBy)))
  | .summary filters => (events,answer .summary ((filtered events filters).map computeSummary))
  | .stats => (events,answer .stats (stats ttl events))
  | .purgeExpired now => ((purgeExpired ttl events now).1,answer .purged (purgeExpired ttl events now).2)

def calls : List UsageMetrics → List Call → List UsageMetrics × List Reply
  | events,[] => (events,[])
  | events,first :: rest =>
    let answered := call truediv ttl events first
    let later := calls answered.1 rest
    (later.1,answered.2 :: later.2)
end Calls

end InMemory

-- A row of usage_events; its id is a new one and is never read.
structure Row where
  taskId : String
  agentId : String
  consumerId : String
  metrics : String
  timestamp : String
  deriving DecidableEq

namespace Sqlite

def metricsData (metrics : UsageMetrics) : List (Key × Value) :=
  [(.str "tokens_in",.int metrics.tokensIn),(.str "tokens_out",.int metrics.tokensOut),
   (.str "duration_ms",.int metrics.durationMs),(.str "api_calls",.int metrics.apiCalls)]

def metricsToRow (metrics : UsageMetrics) : Row :=
  ⟨metrics.taskId,metrics.agentId,metrics.consumerId,String.ofList (render (.dict (metricsData metrics))),metrics.timestamp.isoformat⟩

-- `data.get(name, 0)`, checked to be a count.
def count (data : List (Key × Value)) (name : String) : Option Nat :=
  match lookupItem name data with
  | none => some 0
  | some (.int n) => if 0 ≤ n then some n.toNat else none
  | some _ => none

section Calls
variable (floats : Floats) (truediv : Nat → Nat → Option Rat) (ttl : Option Int)

def rowToMetrics (row : Row) : Option UsageMetrics :=
  match loads floats row.metrics,fromisoformat (offsetForZulu row.timestamp) with
  | some (.dict data),some ts => do
    let tokensIn ← count data "tokens_in"
    let tokensOut ← count data "tokens_out"
    let durationMs ← count data "duration_ms"
    let apiCalls ← count data "api_calls"
    some ⟨row.taskId,row.agentId,row.consumerId,tokensIn,tokensOut,durationMs,apiCalls,ts⟩
  | _,_ => none

def whereClause (filters : MeteringQuery) (row : Row) : Bool :=
  filters.agentId.all (fun id => decide (row.agentId = id)) && filters.consumerId.all (fun id => decide (row.consumerId = id)) &&
    filters.taskId.all (fun id => decide (row.taskId = id)) &&
    filters.start.all (fun start => decide (start.isoformat ≤ row.timestamp)) &&
    filters.ending.all (fun ending => decide (row.timestamp ≤ ending.isoformat))

def readAll (rows : List Row) : Except Failure (List UsageMetrics) := (rows.mapM (rowToMetrics floats)).elim (.error .unreadable) .ok

def query (rows : List Row) (filters : MeteringQuery) : Except Failure (List UsageMetrics) :=
  let limit : Int := filters.limit.elim (-1) (fun n => n)
  if fitsInteger limit && fitsInteger filters.offset then
    readAll floats (limitOffset limit filters.offset (orderByText Row.timestamp (rows.filter (whereClause filters))))
  else .error .overflow

def fetchAllEvents (rows : List Row) : Except Failure (List UsageMetrics) := readAll floats (orderByText Row.timestamp rows)

def filtered (rows : List Row) (filters : Option MeteringQuery) : Except Failure (List UsageMetrics) :=
  match filters with
  | none => fetchAllEvents floats rows
  | some filters => query floats rows (aggFilters filters)

-- MIN(timestamp).
def minText : List Row → Option String
  | [] => none
  | row :: rest => some (rest.foldl (fun best other => if other.timestamp < best then other.timestamp else best) row.timestamp)

def stats (rows : List Row) : StorageStats := ⟨rows.length,(minText rows).bind (fun text => fromisoformat (offsetForZulu text)),ttl⟩

def purgeExpired (rows : List Row) (now : UtcTime) : List Row × Except Failure Nat :=
  match ttl with
  | none => (rows,.ok 0)
  | some ttl =>
    match cutoff ttl now with
    | none => (rows,.error .overflow)
    | some cutoff => (rows.filter (fun row => !decide (row.timestamp < cutoff.isoformat)),
        .ok (rows.filter (fun row => decide (row.timestamp < cutoff.isoformat))).length)

def call (rows : List Row) : Call → List Row × Reply
  | .record metrics => (rows ++ [metricsToRow metrics],.recorded)
  | .query filters => (rows,answer .events (query floats rows filters))
  | .aggregate groupBy filters =>
    (rows,answer .aggregates ((filtered floats rows filters).bind (fun events => dispatchAggregate truediv events groupBy)))
  | .summary filters => (rows,answer .summary ((filtered floats rows filters).map computeSummary))
  | .stats => (rows,.stats (stats ttl rows))
  | .purgeExpired now => ((purgeExpired ttl rows now).1,answer .purged (purgeExpired ttl rows now).2)

def calls : List Row → List Call → List Row × List Reply
  | rows,[] => (rows,[])
  | rows,first :: rest =>
    let answered := call floats truediv ttl rows first
    let later := calls answered.1 rest
    (later.1,answered.2 :: later.2)
end Calls

end Sqlite

section Shuffled
variable {left right : List UsageMetrics}

-- The results for permuted keys are permuted, or missing on both sides.
theorem mapM_perm {α β : Type} (f : α → Option β) {keys others : List α} (same : keys.Perm others) :
    (∃ out found, keys.mapM f = some out ∧ others.mapM f = some found ∧ out.Perm found) ∨ (keys.mapM f = none ∧ others.mapM f = none) := by
  induction same with
  | nil => exact .inl ⟨[],[],rfl,rfl,.nil⟩
  | cons k rest ih =>
    simp only [List.mapM_cons]
    cases f k with
    | none => exact .inr ⟨rfl,rfl⟩
    | some total =>
      rcases ih with ⟨out,found,first,second,shuffled⟩ | ⟨first,second⟩
      · exact .inl ⟨total :: out,total :: found,by simp [first],by simp [second],shuffled.cons total⟩
      · exact .inr ⟨by simp [first],by simp [second]⟩
  | swap k j rest =>
    simp only [List.mapM_cons]
    cases f k with
    | none => cases f j <;> exact .inr ⟨rfl,rfl⟩
    | some first =>
      cases f j with
      | none => exact .inr ⟨rfl,rfl⟩
      | some second =>
        cases rest.mapM f with
        | none => exact .inr ⟨rfl,rfl⟩
        | some others => exact .inl ⟨_,_,rfl,rfl,.swap first second others⟩
  | trans _ _ first second =>
    rcases first with ⟨out,found,one,two,shuffled⟩ | ⟨one,two⟩
    · rcases second with ⟨middle,last,three,four,again⟩ | ⟨three,_⟩
      · cases two.symm.trans three
        exact .inl ⟨out,last,one,four,shuffled.trans again⟩
      · cases two.symm.trans three
    · rcases second with ⟨middle,last,three,four,_⟩ | ⟨_,four⟩
      · cases two.symm.trans three
      · exact .inr ⟨one,four⟩

theorem mapM_image {κ α β : Type} (f : κ → Option α) (view : α → β) (image : κ → β) (viewed : ∀ k out, f k = some out → view out = image k)
    {keys : List κ} {out : List α} (computed : keys.mapM f = some out) : out.map view = keys.map image := by
  induction keys generalizing out with
  | nil =>
    cases computed
    rfl
  | cons k rest ih =>
    simp only [List.mapM_cons] at computed
    cases total : f k with
    | none => simp [total] at computed
    | some first =>
      cases others : rest.mapM f with
      | none => simp [total,others] at computed
      | some later =>
        simp only [total,others] at computed
        cases computed
        rw [List.map_cons,List.map_cons,viewed k first total,ih others]

-- An aggregation does not depend on the order of the events.
theorem aggregateBy_perm {α : Type} (key : UsageMetrics → String) (totals : String → List UsageMetrics → Option α) (name : α → String)
    (blind : ∀ k events others, events.Perm others → totals k events = totals k others)
    (named : ∀ k events out, totals k events = some out → name out = k) (same : left.Perm right) :
    aggregateBy key totals name left = aggregateBy key totals name right := by
  have keys := keys_groupBy_perm key same
  have groups : (fun k => totals k (group key right k)) = fun k => totals k (group key left k) := by
    funext k
    exact (blind k _ _ (group_perm key same k)).symm
  unfold aggregateBy
  rw [entries_groupBy key left,entries_groupBy key right,List.mapM_map,List.mapM_map]
  simp only [groups,Function.comp_def]
  rcases mapM_perm (fun k => totals k (group key left k)) keys with ⟨out,found,first,second,shuffled⟩ | ⟨first,second⟩
  · rw [first,second,Option.map_some,Option.map_some]
    have names := (mapM_image _ name id (fun k out => named k _ out) first).trans (List.map_id _)
    congr 1
    apply orderByText_perm name shuffled
    have distinct : (out.map name).Nodup := names ▸ (groupBy key left).distinct
    intro a inside b also equal
    exact List.inj_on_of_nodup_map distinct inside also equal
  · rw [first,second]

variable (truediv : Nat → Nat → Option Rat)

theorem totals_perm (same : left.Perm right) : totalTokens left = totalTokens right ∧ totalDuration left = totalDuration right ∧
    totalApiCalls left = totalApiCalls right ∧ uniqueAgents left = uniqueAgents right ∧ uniqueConsumers left = uniqueConsumers right :=
  ⟨(same.map _).sum_nat,(same.map _).sum_nat,(same.map _).sum_nat,(same.map _).dedup.length_eq,(same.map _).dedup.length_eq⟩

theorem dispatchAggregate_perm (same : left.Perm right) (groupBy : String) :
    dispatchAggregate truediv left groupBy = dispatchAggregate truediv right groupBy := by
  have agent : aggregateByAgent truediv left = aggregateByAgent truediv right := by
    apply aggregateBy_perm _ _ _ _ _ same
    · intro k events others shuffled
      obtain ⟨tokens,duration,calls,_,_⟩ := totals_perm shuffled
      simp only [agentTotals,tokens,duration,calls,shuffled.length_eq]
    · intro k events out computed
      simp only [agentTotals] at computed
      split at computed
      · cases computed
        rfl
      · cases computed
  have consumer : aggregateByConsumer truediv left = aggregateByConsumer truediv right := by
    apply aggregateBy_perm _ _ _ _ _ same
    · intro k events others shuffled
      obtain ⟨tokens,duration,calls,_,_⟩ := totals_perm shuffled
      simp only [consumerTotals,tokens,duration,calls,shuffled.length_eq]
    · intro k events out computed
      obtain ⟨avg,_,rfl⟩ := Option.map_eq_some_iff.mp computed
      rfl
  have period : aggregateByPeriod groupBy left = aggregateByPeriod groupBy right := by
    apply aggregateBy_perm _ _ _ _ _ same
    · intro k events others shuffled
      obtain ⟨tokens,duration,calls,agents,consumers⟩ := totals_perm shuffled
      simp only [periodTotals,tokens,duration,calls,agents,consumers,shuffled.length_eq]
    · intro k events out computed
      cases computed
      rfl
  unfold dispatchAggregate
  rw [agent,consumer,period]

theorem computeSummary_perm (same : left.Perm right) : computeSummary left = computeSummary right := by
  obtain ⟨tokens,duration,calls,agents,consumers⟩ := totals_perm same
  simp only [computeSummary,tokens,duration,calls,agents,consumers,same.length_eq,same.isEmpty_eq]
end Shuffled

section Refinement
variable (floats : Floats)

def rowsOf (events : List UsageMetrics) : List Row := events.map Sqlite.metricsToRow

@[simp] theorem rowsOf_nil : rowsOf [] = [] := rfl

@[simp] theorem rowsOf_cons (e : UsageMetrics) (rest : List UsageMetrics) : rowsOf (e :: rest) = Sqlite.metricsToRow e :: rowsOf rest := rfl

@[simp] theorem rowsOf_length (events : List UsageMetrics) : (rowsOf events).length = events.length := List.length_map _

@[simp] theorem metricsToRow_timestamp (e : UsageMetrics) : (Sqlite.metricsToRow e).timestamp = e.timestamp.isoformat := rfl

theorem filter_rowsOf {selected : Row → Bool} {kept : UsageMetrics → Bool} {events : List UsageMetrics}
    (same : ∀ e ∈ events, selected (Sqlite.metricsToRow e) = kept e) : (rowsOf events).filter selected = rowsOf (events.filter kept) := by
  unfold rowsOf
  rw [List.filter_map]
  exact congrArg _ (List.filter_congr same)

theorem row_read (e : UsageMetrics) : Sqlite.rowToMetrics floats (Sqlite.metricsToRow e) = some e := by
  have plain : Plain floats (.dict (Sqlite.metricsData e)) := ⟨rfl,trivial,rfl,trivial,rfl,trivial,rfl,trivial,trivial⟩
  have read : loads floats (Sqlite.metricsToRow e).metrics = some (.dict (Sqlite.metricsData e)) := loads_render floats _ plain
  have time : fromisoformat (offsetForZulu (Sqlite.metricsToRow e).timestamp) = some e.timestamp := by
    rw [metricsToRow_timestamp,offsetForZulu_isoformat,fromisoformat_isoformat]
  have counted : ∀ n : Nat, (if (0 : Int) ≤ (n : Int) then some (n : Int).toNat else none) = some n := by
    intro n
    rw [if_pos (Int.natCast_nonneg n),Int.toNat_natCast]
  have tokensIn : Sqlite.count (Sqlite.metricsData e) "tokens_in" = some e.tokensIn := counted e.tokensIn
  have tokensOut : Sqlite.count (Sqlite.metricsData e) "tokens_out" = some e.tokensOut := counted e.tokensOut
  have durationMs : Sqlite.count (Sqlite.metricsData e) "duration_ms" = some e.durationMs := counted e.durationMs
  have apiCalls : Sqlite.count (Sqlite.metricsData e) "api_calls" = some e.apiCalls := counted e.apiCalls
  unfold Sqlite.rowToMetrics
  simp only [read,time,tokensIn,tokensOut,durationMs,apiCalls,Option.bind_eq_bind,Option.bind_some]
  rfl

theorem readAll_rowsOf (events : List UsageMetrics) : Sqlite.readAll floats (rowsOf events) = .ok events := by
  have read : (rowsOf events).mapM (Sqlite.rowToMetrics floats) = some events := by
    induction events with
    | nil => rfl
    | cons e rest ih =>
      rw [rowsOf_cons,List.mapM_cons,row_read,ih]
      rfl
  rw [Sqlite.readAll,read]
  rfl

-- Every two stored times compare as their texts do.
def Mutual (events : List UsageMetrics) : Prop := ∀ a ∈ events, ∀ b ∈ events, Comparable a.timestamp b.timestamp

def Beside (t : DateTime) (events : List UsageMetrics) : Prop := ∀ e ∈ events, Comparable e.timestamp t

variable {events : List UsageMetrics}

theorem Mutual.filter (mutually : Mutual events) (chosen : UsageMetrics → Bool) : Mutual (events.filter chosen) :=
  fun a first b second => mutually a (List.mem_of_mem_filter first) b (List.mem_of_mem_filter second)

theorem Mutual.append (mutually : Mutual events) {new : UsageMetrics} (beside : Beside new.timestamp events) : Mutual (events ++ [new]) := by
  intro a first b second
  rcases List.mem_append.mp first with old | last
  · rcases List.mem_append.mp second with also | final
    · exact mutually a old b also
    · cases List.mem_singleton.mp final
      exact beside a old
  · cases List.mem_singleton.mp last
    rcases List.mem_append.mp second with also | final
    · exact (beside b also).symm
    · cases List.mem_singleton.mp final
      exact comparable_of_offset rfl

theorem Mutual.unmixed (mutually : Mutual events) : InMemory.mixed events = false := by
  by_contra both
  have present : InMemory.mixed events = true := by simpa using both
  simp only [InMemory.mixed,Bool.and_eq_true,List.any_eq_true] at present
  obtain ⟨⟨a,first,aware⟩,b,second,naive⟩ := present
  have same := (mutually a first b second).aware
  rw [aware,Option.isNone_iff_eq_none.mp naive] at same
  cases same

def sorted (events : List UsageMetrics) : List UsageMetrics :=
  events.mergeSort (fun a b => decide (a.timestamp.instant ≤ b.timestamp.instant))

-- ORDER BY on the texts is the order in time.
theorem orderByText_rowsOf (mutually : Mutual events) : orderByText Row.timestamp (rowsOf events) = rowsOf (sorted events) := by
  exact sort_times UsageMetrics.timestamp Sqlite.metricsToRow Row.timestamp metricsToRow_timestamp mutually

-- The bounds of a query beside the stored times.
structure Bounded (filters : MeteringQuery) (events : List UsageMetrics) : Prop where
  start : ∀ t ∈ filters.start, Beside t events
  ending : ∀ t ∈ filters.ending, Beside t events

def chosen (filters : MeteringQuery) (e : UsageMetrics) : Bool := Sqlite.whereClause filters (Sqlite.metricsToRow e)

theorem matchesQuery_text {filters : MeteringQuery} {e : UsageMetrics} (start : ∀ t ∈ filters.start, Comparable e.timestamp t)
    (ending : ∀ t ∈ filters.ending, Comparable e.timestamp t) : InMemory.matchesQuery e filters = some (chosen filters e) := by
  have after : filters.start.elim (some true) (fun start => start.le? e.timestamp) =
      some (filters.start.all (fun start => decide (start.isoformat ≤ e.timestamp.isoformat))) := by
    cases given : filters.start with
    | none => rfl
    | some t =>
      simp only [Option.elim_some,Option.all_some]
      exact (start t given).symm.le_text
  have before : filters.ending.elim (some true) (fun ending => e.timestamp.le? ending) =
      some (filters.ending.all (fun ending => decide (e.timestamp.isoformat ≤ ending.isoformat))) := by
    cases given : filters.ending with
    | none => rfl
    | some t =>
      simp only [Option.elim_some,Option.all_some]
      exact (ending t given).le_text
  unfold InMemory.matchesQuery chosen Sqlite.whereClause Sqlite.metricsToRow
  simp only [after,before,Option.bind_some]
  split
  · rename_i identified
    rw [identified,Bool.true_and]
    cases filters.start.all (fun start => decide (start.isoformat ≤ e.timestamp.isoformat)) with
    | false => rfl
    | true => rfl
  · rename_i different
    rw [Bool.not_eq_true] at different
    rw [different]
    rfl

theorem select_text {filters : MeteringQuery} (bounded : Bounded filters events) :
    InMemory.select filters events = some (events.filter (chosen filters)) := by
  induction events with
  | nil => rfl
  | cons e rest ih =>
    have tail : Bounded filters rest :=
      ⟨fun t given other member => bounded.start t given other (List.mem_cons_of_mem _ member),
       fun t given other member => bounded.ending t given other (List.mem_cons_of_mem _ member)⟩
    have first := matchesQuery_text (fun t given => bounded.start t given e List.mem_cons_self)
      (fun t given => bounded.ending t given e List.mem_cons_self)
    rw [InMemory.select,first,ih tail,Option.bind_some,Option.map_some,List.filter_cons]

-- Limits and offsets that can be bound.
def Bindable (filters : MeteringQuery) : Prop := (∀ n ∈ filters.limit, fitsInteger n = true) ∧ fitsInteger filters.offset = true

theorem query_same {filters : MeteringQuery} (mutually : Mutual events) (bounded : Bounded filters events) (bindable : Bindable filters) :
    Sqlite.query floats (rowsOf events) filters = InMemory.applyQueryFilters events filters := by
  have limitFits : fitsInteger (filters.limit.elim (-1) (fun n => (n : Int))) = true := by
    cases given : filters.limit with
    | none => rfl
    | some n => exact bindable.1 n given
  simp only [Sqlite.query,limitFits,bindable.2,Bool.and_self,if_true]
  rw [filter_rowsOf (fun e _ => (rfl : _ = chosen filters e)),orderByText_rowsOf (mutually.filter _),rowsOf,limitOffset_map]
  change Sqlite.readAll floats (rowsOf _) = _
  rw [readAll_rowsOf,InMemory.applyQueryFilters,select_text bounded]
  simp only [limitOffset,Int.toNat_natCast,(mutually.filter _).unmixed,Bool.false_eq_true,if_false]
  cases given : filters.limit with
  | none => rfl
  | some n =>
    have nonnegative : ¬ (n : Int) < 0 := by omega
    simp only [Option.elim_some,nonnegative,if_false,Int.toNat_natCast]
    rfl

-- Read for an aggregation, the events are the same up to their order.
theorem filtered_same {filters : Option MeteringQuery} (mutually : Mutual events) (bounded : ∀ f ∈ filters, Bounded f events) :
    (∃ failure, InMemory.filtered events filters = .error failure ∧ Sqlite.filtered floats (rowsOf events) filters = .error failure) ∨
    ∃ left right, InMemory.filtered events filters = .ok left ∧ Sqlite.filtered floats (rowsOf events) filters = .ok right ∧ left.Perm right := by
  cases filters with
  | none =>
    refine .inr ⟨events,sorted events,rfl,?_,(List.mergeSort_perm events _).symm⟩
    rw [Sqlite.filtered,Sqlite.fetchAllEvents,orderByText_rowsOf mutually,readAll_rowsOf]
  | some f =>
    have within := bounded f rfl
    have aggregated : Bounded (aggFilters f) events := ⟨within.start,within.ending⟩
    have unlimited : Bindable (aggFilters f) := by
      refine ⟨?_,rfl⟩
      intro n impossible
      cases impossible
    have same := query_same floats mutually aggregated unlimited
    rw [Sqlite.filtered,InMemory.filtered,same]
    cases InMemory.applyQueryFilters events (aggFilters f) with
    | error failure => exact .inl ⟨failure,rfl,rfl⟩
    | ok chosen => exact .inr ⟨chosen,chosen,rfl,rfl,.refl _⟩

-- The fold of `min` and the one of MIN keep the same time.
theorem min_same {first : UsageMetrics} {rest : List UsageMetrics} (mutually : Mutual (first :: rest)) :
    (rowsOf rest).foldl (fun best other => if other.timestamp < best then other.timestamp else best) first.timestamp.isoformat =
      (rest.foldl (fun best other => if other.timestamp.instant < best.instant then other.timestamp else best) first.timestamp).isoformat := by
  induction rest generalizing first with
  | nil => rfl
  | cons e rest ih =>
    have tail : ∀ start, start = first ∨ start = e → Mutual (start :: rest) := by
      intro start either a inside b also
      have known : ∀ x, x ∈ start :: rest → x ∈ first :: e :: rest := by
        intro x member
        rcases List.mem_cons.mp member with rfl | later
        · rcases either with rfl | rfl <;> simp
        · exact List.mem_cons_of_mem _ (List.mem_cons_of_mem _ later)
      exact mutually a (known a inside) b (known b also)
    have less := (mutually e (by simp) first (by simp)).lt_iff
    rw [rowsOf_cons,List.foldl_cons,List.foldl_cons,metricsToRow_timestamp]
    by_cases earlier : e.timestamp.instant < first.timestamp.instant
    · rw [if_pos (less.mpr earlier),if_pos earlier]
      exact ih (tail e (.inr rfl))
    · rw [if_neg (fun text => earlier (less.mp text)),if_neg earlier]
      exact ih (tail first (.inl rfl))

theorem oldest_same (mutually : Mutual events) : Sqlite.minText (rowsOf events) = (InMemory.oldest events).map DateTime.isoformat := by
  cases events with
  | nil => rfl
  | cons e rest => rw [rowsOf_cons,Sqlite.minText,InMemory.oldest,metricsToRow_timestamp,min_same mutually,Option.map_some]

theorem stats_same (ttl : Option Int) (mutually : Mutual events) : .ok (Sqlite.stats ttl (rowsOf events)) = InMemory.stats ttl events := by
  have times : (Sqlite.minText (rowsOf events)).bind (fun text => fromisoformat (offsetForZulu text)) = InMemory.oldest events := by
    rw [oldest_same mutually]
    cases InMemory.oldest events with
    | none => rfl
    | some t => rw [Option.map_some,Option.bind_some,offsetForZulu_isoformat,fromisoformat_isoformat]
  rw [Sqlite.stats,InMemory.stats,times,rowsOf_length,mutually.unmixed]
  rfl

theorem cutoff_utc {ttl : Int} {now : UtcTime} {t : DateTime} (computed : cutoff ttl now = some t) : t.utcoffset = some 0 := by
  obtain ⟨earlier,subtracted,rfl⟩ := Option.map_eq_some_iff.mp computed
  change earlier.utcoffset = some 0
  rw [minusSeconds_offset subtracted,now.property]

theorem purge_same (ttl : Option Int) (now : UtcTime) (beside : ∀ seconds ∈ ttl, ∀ t ∈ cutoff seconds now, Beside t events) :
    Sqlite.purgeExpired ttl (rowsOf events) now =
      (rowsOf (InMemory.purgeExpired ttl events now).1,(InMemory.purgeExpired ttl events now).2) := by
  cases ttl with
  | none => rfl
  | some seconds =>
    cases limit : cutoff seconds now with
    | none => simp only [Sqlite.purgeExpired,InMemory.purgeExpired,limit]
    | some t =>
      have compare : ∀ e ∈ events, decide ((Sqlite.metricsToRow e).timestamp < t.isoformat) = !decide (t.instant ≤ e.timestamp.instant) := by
        intro e member
        have order := (beside seconds rfl t limit e member).lt_iff
        rw [metricsToRow_timestamp,← decide_not]
        exact decide_eq_decide.mpr (order.trans Int.not_le.symm)
      have gone : (rowsOf events).filter (fun row => decide (row.timestamp < t.isoformat)) =
          rowsOf (events.filter (fun e => !decide (t.instant ≤ e.timestamp.instant))) := filter_rowsOf compare
      have kept : (rowsOf events).filter (fun row => !decide (row.timestamp < t.isoformat)) =
          rowsOf (events.filter (fun e => decide (t.instant ≤ e.timestamp.instant))) := by
        apply filter_rowsOf
        intro e member
        rw [compare e member,Bool.not_not]
      have aware : events.any (fun e => e.timestamp.utcoffset.isNone) = false := by
        rw [List.any_eq_false]
        intro e member
        have same := (beside seconds rfl t limit e member).aware
        rw [cutoff_utc limit] at same
        simp [← Option.not_isSome,same]
      have count := List.length_eq_length_filter_add (l := events) (fun e => decide (t.instant ≤ e.timestamp.instant))
      simp only [Sqlite.purgeExpired,InMemory.purgeExpired,limit,gone,kept,rowsOf_length,aware,Bool.false_eq_true,if_false]
      congr 2
      omega

variable (truediv : Nat → Nat → Option Rat) (ttl : Option Int)

-- What a call needs of the times that are stored when it is made.
def Call.Meets (events : List UsageMetrics) : Call → Prop
  | .record metrics => Beside metrics.timestamp events
  | .query filters => Bounded filters events ∧ Bindable filters
  | .aggregate _ filters => ∀ f ∈ filters, Bounded f events
  | .summary filters => ∀ f ∈ filters, Bounded f events
  | .stats => True
  | .purgeExpired now => ∀ seconds ∈ ttl, ∀ t ∈ cutoff seconds now, Beside t events

theorem call_same (mutually : Mutual events) {call : Call} (meets : call.Meets ttl events) :
    Sqlite.call floats truediv ttl (rowsOf events) call =
      (rowsOf (InMemory.call truediv ttl events call).1,(InMemory.call truediv ttl events call).2) ∧
    Mutual (InMemory.call truediv ttl events call).1 := by
  cases call with
  | record metrics =>
    refine ⟨?_,mutually.append meets⟩
    simp only [Sqlite.call,InMemory.call,rowsOf,List.map_append,List.map_cons,List.map_nil]
  | query filters =>
    refine ⟨?_,mutually⟩
    simp only [Sqlite.call,InMemory.call,query_same floats mutually meets.1 meets.2]
  | aggregate groupBy filters =>
    refine ⟨?_,mutually⟩
    rcases filtered_same floats mutually meets with ⟨failure,memory,table⟩ | ⟨left,right,memory,table,shuffled⟩
    · simp only [Sqlite.call,InMemory.call,memory,table,Except.bind]
    · simp only [Sqlite.call,InMemory.call,memory,table,Except.bind,dispatchAggregate_perm truediv shuffled]
  | summary filters =>
    refine ⟨?_,mutually⟩
    rcases filtered_same floats mutually meets with ⟨failure,memory,table⟩ | ⟨left,right,memory,table,shuffled⟩
    · simp only [Sqlite.call,InMemory.call,memory,table,Except.map]
    · simp only [Sqlite.call,InMemory.call,memory,table,Except.map,computeSummary_perm shuffled]
  | stats =>
    refine ⟨?_,mutually⟩
    simp only [Sqlite.call,InMemory.call,← stats_same ttl mutually,answer]
  | purgeExpired now =>
    refine ⟨?_,?_⟩
    · simp only [Sqlite.call,InMemory.call,purge_same ttl now meets]
    · simp only [InMemory.call,InMemory.purgeExpired]
      split
      · exact mutually
      · split
        · exact mutually
        · split
          · exact mutually
          · exact mutually.filter _

-- Every call of a sequence meets its condition in the state it finds.
def MeetAll : List UsageMetrics → List Call → Prop
  | _,[] => True
  | events,first :: rest => first.Meets ttl events ∧ MeetAll (InMemory.call truediv ttl events first).1 rest

theorem calls_same (mutually : Mutual events) {calls : List Call} (meet : MeetAll truediv ttl events calls) :
    (InMemory.calls truediv ttl events calls).2 = (Sqlite.calls floats truediv ttl (rowsOf events) calls).2 := by
  induction calls generalizing events with
  | nil => rfl
  | cons call rest ih =>
    obtain ⟨answered,later⟩ := call_same floats truediv ttl mutually meet.1
    have replies := ih later meet.2
    simp only [InMemory.calls,Sqlite.calls,answered,replies]

end Refinement

-- As long as the texts of the times that meet can compare them, both backends give the same replies.
theorem metering_backends_agree (floats : Floats) (truediv : Nat → Nat → Option Rat) (ttl : Option Int) (calls : List Call)
    (meet : MeetAll truediv ttl [] calls) :
    (InMemory.calls truediv ttl [] calls).2 = (Sqlite.calls floats truediv ttl [] calls).2 :=
  calls_same floats truediv ttl (fun _ impossible => by cases impossible) meet

section Utc

-- The times a call brings are in UTC.
def Call.Utc : Call → Prop
  | .record metrics => metrics.timestamp.utcoffset = some 0
  | .query filters => (∀ t ∈ filters.start, t.utcoffset = some 0) ∧ (∀ t ∈ filters.ending, t.utcoffset = some 0) ∧ Bindable filters
  | .aggregate _ filters | .summary filters =>
    ∀ f ∈ filters, (∀ t ∈ f.start, t.utcoffset = some 0) ∧ ∀ t ∈ f.ending, t.utcoffset = some 0
  | .stats | .purgeExpired _ => True

def AllUtc (events : List UsageMetrics) : Prop := ∀ e ∈ events, e.timestamp.utcoffset = some 0

variable {events : List UsageMetrics}

theorem AllUtc.beside (stored : AllUtc events) {t : DateTime} (utc : t.utcoffset = some 0) : Beside t events :=
  fun e member => comparable_of_offset ((stored e member).trans utc.symm)

variable (truediv : Nat → Nat → Option Rat) (ttl : Option Int)

theorem utc_call (stored : AllUtc events) {call : Call} (utc : call.Utc) :
    call.Meets ttl events ∧ AllUtc (InMemory.call truediv ttl events call).1 := by
  cases call with
  | record metrics =>
    refine ⟨stored.beside utc,?_⟩
    intro e member
    rcases List.mem_append.mp member with old | last
    · exact stored e old
    · cases List.mem_singleton.mp last
      exact utc
  | query filters => exact ⟨⟨⟨fun t given => stored.beside (utc.1 t given),fun t given => stored.beside (utc.2.1 t given)⟩,utc.2.2⟩,stored⟩
  | aggregate _ filters =>
    exact ⟨fun f given => ⟨fun t bound => stored.beside ((utc f given).1 t bound),fun t bound => stored.beside ((utc f given).2 t bound)⟩,stored⟩
  | summary filters =>
    exact ⟨fun f given => ⟨fun t bound => stored.beside ((utc f given).1 t bound),fun t bound => stored.beside ((utc f given).2 t bound)⟩,stored⟩
  | stats => exact ⟨trivial,stored⟩
  | purgeExpired now =>
    refine ⟨fun seconds _ t computed => stored.beside (cutoff_utc computed),?_⟩
    simp only [InMemory.call,InMemory.purgeExpired]
    split
    · exact stored
    · split
      · exact stored
      · split
        · exact stored
        · exact fun e member => stored e (List.mem_of_mem_filter member)

-- Times that are all in UTC meet the condition.
theorem utc_meet (stored : AllUtc events) {calls : List Call} (utc : ∀ call ∈ calls, call.Utc) : MeetAll truediv ttl events calls := by
  induction calls generalizing events with
  | nil => trivial
  | cons call rest ih =>
    obtain ⟨meets,kept⟩ := utc_call truediv ttl stored (utc call List.mem_cons_self)
    exact ⟨meets,ih kept (fun other member => utc other (List.mem_cons_of_mem _ member))⟩
end Utc

def exactQuotient (total tasks : Nat) : Option Rat := some (total / tasks)

theorem sampleTime_date : 1 ≤ 2026 ∧ 2026 ≤ 9999 ∧ 1 ≤ 1 ∧ 1 ≤ 12 ∧ 1 ≤ 2 ∧ 2 ≤ daysInMonth 2026 1 := by decide

def sampleTime (hour microsecond : Nat) (offset : Int) (valid : hour < 24 ∧ microsecond < 1000000)
    (bounded : -86400000000 < offset ∧ offset < 86400000000) : DateTime :=
  ⟨2026,1,2,hour,0,0,microsecond,some offset,sampleTime_date,⟨valid.1,by decide,by decide,valid.2⟩,by rintro _ ⟨⟩; exact bounded⟩

def sampleEvent (taskId : String) (timestamp : DateTime) : UsageMetrics :=
  {taskId := taskId,agentId := "a",consumerId := "c",tokensIn := 3,timestamp := timestamp}

-- Half a second past nine, nine, and ten in Athens, which is eight in UTC.
def pastNine : UsageMetrics := sampleEvent "t1" (sampleTime 9 500000 0 (by decide) (by decide))
def nine : UsageMetrics := sampleEvent "t2" (sampleTime 9 0 0 (by decide) (by decide))
def inAthens : UsageMetrics := sampleEvent "t3" (sampleTime 10 0 7200000000 (by decide) (by decide))

def utcCalls : List Call :=
  [.record pastNine,.record nine,.query {start := some nine.timestamp},.aggregate "day" none,.stats,.purgeExpired ⟨pastNine.timestamp,rfl⟩,.query {}]

theorem utcCalls_utc : ∀ call ∈ utcCalls, call.Utc := by
  simp [utcCalls,Call.Utc,Bindable,pastNine,nine,sampleEvent,sampleTime,fitsInteger]

theorem metering_backends_agree_utc : MeetAll exactQuotient (some 0) [] utcCalls ∧
    (InMemory.calls exactQuotient (some 0) [] utcCalls).2 = (Sqlite.calls integersOnly exactQuotient (some 0) [] utcCalls).2 := by
  have meet : MeetAll exactQuotient (some 0) [] utcCalls := by
    apply utc_meet _ _ _ utcCalls_utc
    intro e impossible
    cases impossible
  exact ⟨meet,metering_backends_agree integersOnly exactQuotient (some 0) utcCalls meet⟩

def athensFirst : List Call := [.record inAthens,.record nine,.query {}]

-- The text of ten in Athens comes after the one of nine in UTC.
theorem athens_table : Sqlite.query integersOnly (rowsOf [inAthens,nine]) {} = .ok [nine,inAthens] := by
  have swapped : orderByText Row.timestamp (rowsOf [inAthens,nine]) = orderByText Row.timestamp (rowsOf [nine,inAthens]) := by
    apply orderByText_perm _ (List.Perm.swap _ _ _)
    decide +kernel
  have stays : orderByText Row.timestamp (rowsOf [nine,inAthens]) = rowsOf [nine,inAthens] := by
    apply List.mergeSort_of_pairwise
    decide +kernel
  have whole : (rowsOf [inAthens,nine]).filter (Sqlite.whereClause {}) = rowsOf [inAthens,nine] := rfl
  have sliced : Sqlite.query integersOnly (rowsOf [inAthens,nine]) {} =
      Sqlite.readAll integersOnly (orderByText Row.timestamp ((rowsOf [inAthens,nine]).filter (Sqlite.whereClause {}))) := rfl
  rw [sliced,whole,swapped,stays,readAll_rowsOf]

theorem athens_memory : InMemory.applyQueryFilters [inAthens,nine] {} = .ok [inAthens,nine] := by
  have stays : sorted [inAthens,nine] = [inAthens,nine] := by
    apply List.mergeSort_of_pairwise
    decide
  have sliced : InMemory.applyQueryFilters [inAthens,nine] {} = .ok (sorted [inAthens,nine]) := rfl
  rw [sliced,stays]

theorem metering_backends_differ : (InMemory.calls exactQuotient none [] athensFirst).2 ≠
    (Sqlite.calls integersOnly exactQuotient none [] athensFirst).2 := by
  have memory : (InMemory.calls exactQuotient none [] athensFirst).2 =
      [.recorded,.recorded,answer .events (InMemory.applyQueryFilters [inAthens,nine] {})] := rfl
  have table : (Sqlite.calls integersOnly exactQuotient none [] athensFirst).2 =
      [.recorded,.recorded,answer .events (Sqlite.query integersOnly (rowsOf [inAthens,nine]) {})] := rfl
  rw [memory,table,athens_memory,athens_table]
  decide

end Asap.Metering
