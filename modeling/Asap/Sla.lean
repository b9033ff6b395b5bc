import Asap.SqlTable
import Asap.IsoOrder

-- SLA metrics and breaches: `InMemorySLAStorage` and `SQLiteSLAStorage`, called one call after
-- another. All times are in UTC.
namespace Asap.Sla
open PythonValue SqlTable

structure SlaMetrics where
  agentId : String
  periodStart : UtcTime
  periodEnd : UtcTime
  uptimePercent : Rat
  latencyP95Ms : Nat
  errorRatePercent : Rat
  tasksCompleted : Nat
  tasksFailed : Nat
  deriving DecidableEq

structure SlaBreach where
  id : String
  agentId : String
  breachType : String
  threshold : String
  actual : String
  severity : String
  detectedAt : UtcTime
  resolvedAt : Option UtcTime := none
  deriving DecidableEq

-- The filters the queries share.
structure Filters where
  agentId : Option String := none
  start : Option UtcTime := none
  ending : Option UtcTime := none

inductive Call where
  | recordMetrics (metrics : SlaMetrics)
  | queryMetrics (filters : Filters) (limit : Option Int) (offset : Int)
  | countMetrics (filters : Filters)
  | recordBreach (breach : SlaBreach)
  | queryBreaches (filters : Filters)

inductive Failure where
  | negativeOffset
  | overflow
  deriving DecidableEq

inductive Reply where
  | recorded
  | metrics (metrics : List SlaMetrics)
  | count (n : Nat)
  | breaches (breaches : List SlaBreach)
  | raised (failure : Failure)
  deriving DecidableEq

-- `items[start:stop]`; a negative stop counts from the end.
def slice (items : List α) (start : Nat) (stop : Int) : List α :=
  (items.take (if stop < 0 then (items.length + stop).toNat else stop.toNat)).drop start

namespace InMemory

structure Store where
  metrics : List SlaMetrics := []
  breaches : List SlaBreach := []

def metricsMatches (m : SlaMetrics) (filters : Filters) : Bool :=
  if filters.agentId.any (fun id => decide (m.agentId ≠ id)) then false
  else if filters.start.any (fun start => decide (m.periodEnd.val.instant < start.val.instant)) then false
  else !filters.ending.any (fun ending => decide (m.periodStart.val.instant > ending.val.instant))

def breachMatches (b : SlaBreach) (filters : Filters) : Bool :=
  if filters.agentId.any (fun id => decide (b.agentId ≠ id)) then false
  else if filters.start.any (fun start => decide (b.detectedAt.val.instant < start.val.instant)) then false
  else !filters.ending.any (fun ending => decide (b.detectedAt.val.instant > ending.val.instant))

def queryMetrics (s : Store) (filters : Filters) (limit : Option Int) (offset : Int) : Reply :=
  if offset < 0 then .raised .negativeOffset
  else
    let out := (s.metrics.filter (fun m => metricsMatches m filters)).mergeSort
      (fun a b => decide (a.periodStart.val.instant ≤ b.periodStart.val.instant))
    .metrics (limit.elim (out.drop offset.toNat) (fun limit => slice out offset.toNat (offset + limit)))

def queryBreaches (s : Store) (filters : Filters) : List SlaBreach :=
  (s.breaches.filter (fun b => breachMatches b filters)).mergeSort (fun a b => decide (a.detectedAt.val.instant ≤ b.detectedAt.val.instant))

def call (s : Store) : Call → Store × Reply
  | .recordMetrics metrics => ({s with metrics := s.metrics ++ [metrics]},.recorded)
  | .queryMetrics filters limit offset => (s,queryMetrics s filters limit offset)
  | .countMetrics filters => (s,.count (s.metrics.filter (fun m => metricsMatches m filters)).length)
  | .recordBreach breach => ({s with breaches := s.breaches ++ [breach]},.recorded)
  | .queryBreaches filters => (s,.breaches (queryBreaches s filters))

def calls : Store → List Call → Store × List Reply
  | s,[] => (s,[])
  | s,first :: rest =>
    let answered := call s first
    let later := calls answered.1 rest
    (later.1,answered.2 :: later.2)

end InMemory

structure MetricsRow where
  agentId : String
  periodStart : String
  periodEnd : String
  uptimePercent : Rat
  latencyP95Ms : Int
  errorRatePercent : Rat
  tasksCompleted : Int
  tasksFailed : Int

structure BreachRow where
  id : String
  agentId : String
  breachType : String
  threshold : String
  actual : String
  severity : String
  detectedAt : String
  resolvedAt : Option String

namespace Sqlite

structure Tables where
  metrics : List MetricsRow := []
  breaches : List BreachRow := []

def metricsRow (metrics : SlaMetrics) : MetricsRow :=
  ⟨metrics.agentId,metrics.periodStart.val.isoformat,metrics.periodEnd.val.isoformat,metrics.uptimePercent,metrics.latencyP95Ms,
   metrics.errorRatePercent,metrics.tasksCompleted,metrics.tasksFailed⟩

def breachRow (breach : SlaBreach) : BreachRow :=
  ⟨breach.id,breach.agentId,breach.breachType,breach.threshold,breach.actual,breach.severity,breach.detectedAt.val.isoformat,
   breach.resolvedAt.map (fun t => t.val.isoformat)⟩

-- `parse_iso`, in UTC as every row is.
def parseIso (text : String) : Option UtcTime :=
  if text = "" then none
  else (fromisoformat (offsetForZulu text)).bind (fun t => if utc : t.utcoffset = some 0 then some ⟨t,utc⟩ else none)

section Clock
-- The clock stands in for a time that does not parse.
variable (now : UtcTime)

def rowToMetrics (row : MetricsRow) : SlaMetrics :=
  ⟨row.agentId,(parseIso row.periodStart).getD now,(parseIso row.periodEnd).getD now,row.uptimePercent,row.latencyP95Ms.toNat,
   row.errorRatePercent,row.tasksCompleted.toNat,row.tasksFailed.toNat⟩

def rowToBreach (row : BreachRow) : SlaBreach :=
  ⟨row.id,row.agentId,row.breachType,row.threshold,row.actual,row.severity,(parseIso row.detectedAt).getD now,row.resolvedAt.bind parseIso⟩

def metricsWhere (filters : Filters) (row : MetricsRow) : Bool :=
  filters.agentId.all (fun id => decide (row.agentId = id)) && filters.start.all (fun start => decide (start.val.isoformat ≤ row.periodEnd)) &&
    filters.ending.all (fun ending => decide (row.periodStart ≤ ending.val.isoformat))

def breachWhere (filters : Filters) (row : BreachRow) : Bool :=
  filters.agentId.all (fun id => decide (row.agentId = id)) && filters.start.all (fun start => decide (start.val.isoformat ≤ row.detectedAt)) &&
    filters.ending.all (fun ending => decide (row.detectedAt ≤ ending.val.isoformat))

def recordMetrics (tables : Tables) (metrics : SlaMetrics) : Tables × Reply :=
  if fitsInteger metrics.latencyP95Ms && fitsInteger metrics.tasksCompleted && fitsInteger metrics.tasksFailed then
    ({tables with metrics := tables.metrics ++ [metricsRow metrics]},.recorded)
  else (tables,.raised .overflow)

-- What is bound: nothing for no limit and no offset.
def queryMetrics (tables : Tables) (filters : Filters) (limit : Option Int) (offset : Int) : Reply :=
  if offset < 0 then .raised .negativeOffset
  else
    let rows := orderByText MetricsRow.periodStart (tables.metrics.filter (metricsWhere filters))
    match limit with
    | some limit =>
      if fitsInteger limit && fitsInteger offset then .metrics ((limitOffset limit offset rows).map (rowToMetrics now)) else .raised .overflow
    | none =>
      if offset > 0 then
        if fitsInteger offset then .metrics ((limitOffset (-1) offset rows).map (rowToMetrics now)) else .raised .overflow
      else .metrics (rows.map (rowToMetrics now))

def queryBreaches (tables : Tables) (filters : Filters) : List SlaBreach :=
  (orderByText BreachRow.detectedAt (tables.breaches.filter (breachWhere filters))).map (rowToBreach now)

def call (tables : Tables) : Call → Tables × Reply
  | .recordMetrics metrics => recordMetrics tables metrics
  | .queryMetrics filters limit offset => (tables,queryMetrics now tables filters limit offset)
  | .countMetrics filters => (tables,.count (tables.metrics.filter (metricsWhere filters)).length)
  | .recordBreach breach => ({tables with breaches := insertOrReplace BreachRow.id (breachRow breach) tables.breaches},.recorded)
  | .queryBreaches filters => (tables,.breaches (queryBreaches now tables filters))

def calls : Tables → List Call → Tables × List Reply
  | tables,[] => (tables,[])
  | tables,first :: rest =>
    let answered := call now tables first
    let later := calls answered.1 rest
    (later.1,answered.2 :: later.2)
end Clock

end Sqlite

section Refinement
variable (now : UtcTime) {s : InMemory.Store} {filters : Filters}

def tablesOf (s : InMemory.Store) : Sqlite.Tables := ⟨s.metrics.map Sqlite.metricsRow,s.breaches.map Sqlite.breachRow⟩

@[simp] theorem parseIso_isoformat (t : UtcTime) : Sqlite.parseIso t.val.isoformat = some t := by
  have filled : t.val.isoformat ≠ "" := by
    intro empty
    have impossible := fromisoformat_isoformat t.val
    rw [empty] at impossible
    cases impossible
  simp only [Sqlite.parseIso,if_neg filled,offsetForZulu_isoformat,fromisoformat_isoformat,Option.bind_some,dif_pos t.property]
  rfl

theorem metrics_read (metrics : SlaMetrics) : Sqlite.rowToMetrics now (Sqlite.metricsRow metrics) = metrics := by
  simp only [Sqlite.rowToMetrics,Sqlite.metricsRow,parseIso_isoformat,Option.getD_some,Int.toNat_natCast]

theorem breach_read (breach : SlaBreach) : Sqlite.rowToBreach now (Sqlite.breachRow breach) = breach := by
  simp only [Sqlite.rowToBreach,Sqlite.breachRow,parseIso_isoformat,Option.getD_some]
  obtain ⟨_,_,_,_,_,_,_,resolvedAt⟩ := breach
  cases resolvedAt with
  | none => rfl
  | some t => simp

theorem metrics_readAll (metrics : List SlaMetrics) : (metrics.map Sqlite.metricsRow).map (Sqlite.rowToMetrics now) = metrics := by
  simp [metrics_read,Function.comp_def]

theorem breaches_readAll (breaches : List SlaBreach) : (breaches.map Sqlite.breachRow).map (Sqlite.rowToBreach now) = breaches := by
  simp [breach_read,Function.comp_def]

theorem metrics_order (metrics : List SlaMetrics) : orderByText MetricsRow.periodStart (metrics.map Sqlite.metricsRow) =
    (metrics.mergeSort (fun a b => decide (a.periodStart.val.instant ≤ b.periodStart.val.instant))).map Sqlite.metricsRow := by
  apply sort_times (fun m : SlaMetrics => m.periodStart.val)
  · intro m
    rfl
  · intro x _ y _
    exact UtcTime.comparable x.periodStart y.periodStart

theorem breaches_order (breaches : List SlaBreach) : orderByText BreachRow.detectedAt (breaches.map Sqlite.breachRow) =
    (breaches.mergeSort (fun a b => decide (a.detectedAt.val.instant ≤ b.detectedAt.val.instant))).map Sqlite.breachRow := by
  apply sort_times (fun b : SlaBreach => b.detectedAt.val)
  · intro b
    rfl
  · intro x _ y _
    exact UtcTime.comparable x.detectedAt y.detectedAt

-- A chain of refusals accepts what a WHERE of the opposite conditions selects.
theorem filter_text (id : String) (opens closes : UtcTime) :
    (if filters.agentId.any (fun wanted => decide (id ≠ wanted)) then false
     else if filters.start.any (fun start => decide (opens.val.instant < start.val.instant)) then false
     else !filters.ending.any (fun ending => decide (closes.val.instant > ending.val.instant))) =
    (filters.agentId.all (fun wanted => decide (id = wanted)) && filters.start.all (fun start => decide (start.val.isoformat ≤ opens.val.isoformat)) &&
      filters.ending.all (fun ending => decide (closes.val.isoformat ≤ ending.val.isoformat))) := by
  have agent : filters.agentId.all (fun wanted => decide (id = wanted)) = !filters.agentId.any (fun wanted => decide (id ≠ wanted)) := by
    cases filters.agentId with
    | none => rfl
    | some wanted => simp
  have start : filters.start.all (fun start => decide (start.val.isoformat ≤ opens.val.isoformat)) =
      !filters.start.any (fun start => decide (opens.val.instant < start.val.instant)) := by
    cases filters.start with
    | none => rfl
    | some start => simp only [Option.all_some,Option.any_some,(start.comparable opens).le_iff,← Int.not_lt,decide_not]
  have ending : filters.ending.all (fun ending => decide (closes.val.isoformat ≤ ending.val.isoformat)) =
      !filters.ending.any (fun ending => decide (closes.val.instant > ending.val.instant)) := by
    cases filters.ending with
    | none => rfl
    | some ending => simp only [Option.all_some,Option.any_some,(closes.comparable ending).le_iff,gt_iff_lt,← Int.not_lt,decide_not]
  rw [agent,start,ending]
  cases filters.agentId.any (fun wanted => decide (id ≠ wanted)) with
  | true => rfl
  | false =>
    cases filters.start.any (fun start => decide (opens.val.instant < start.val.instant)) with
    | true => rfl
    | false => rfl

theorem metrics_selected : (tablesOf s).metrics.filter (Sqlite.metricsWhere filters) =
    (s.metrics.filter (fun m => InMemory.metricsMatches m filters)).map Sqlite.metricsRow := by
  unfold tablesOf
  rw [List.filter_map]
  refine congrArg _ (List.filter_congr ?_)
  intro m _
  exact (filter_text m.agentId m.periodEnd m.periodStart).symm

theorem breaches_selected : (tablesOf s).breaches.filter (Sqlite.breachWhere filters) =
    (s.breaches.filter (fun b => InMemory.breachMatches b filters)).map Sqlite.breachRow := by
  unfold tablesOf
  rw [List.filter_map]
  refine congrArg _ (List.filter_congr ?_)
  intro b _
  exact (filter_text b.agentId b.detectedAt b.detectedAt).symm

theorem slice_limit (items : List α) (start limit : Nat) : slice items start (start + limit : Nat) = (items.drop start).take limit := by
  have stop : ¬ ((start + limit : Nat) : Int) < 0 := by omega
  rw [slice,if_neg stop,Int.toNat_natCast,List.take_drop]

-- A query that both ways of counting read alike.
def Countable (limit : Option Int) (offset : Int) : Prop :=
  offset < 0 ∨ (fitsInteger offset = true ∧ ∀ n ∈ limit, 0 ≤ n ∧ fitsInteger n = true)

theorem queryMetrics_same {limit : Option Int} {offset : Int} (countable : Countable limit offset) :
    Sqlite.queryMetrics now (tablesOf s) filters limit offset = InMemory.queryMetrics s filters limit offset := by
  unfold Sqlite.queryMetrics InMemory.queryMetrics
  rcases countable with negative | ⟨offsetFits,limitFits⟩
  · rw [if_pos negative,if_pos negative]
  · split
    · rfl
    · rename_i nonnegative
      obtain ⟨skipped,rfl⟩ := Int.eq_ofNat_of_zero_le (Int.not_lt.mp nonnegative)
      rw [metrics_selected,metrics_order]
      generalize (s.metrics.filter (fun m => InMemory.metricsMatches m filters)).mergeSort
        (fun a b => decide (a.periodStart.val.instant ≤ b.periodStart.val.instant)) = sorted
      have whole : limitOffset (-1) skipped sorted = sorted.drop skipped := rfl
      cases limit with
      | none =>
        simp only [Option.elim_none,Int.toNat_natCast]
        split
        · rw [limitOffset_map,metrics_readAll,whole]
        · rename_i none
          have zero : skipped = 0 := by omega
          rw [metrics_readAll,zero,List.drop_zero]
      | some n =>
        obtain ⟨positive,fits⟩ := limitFits n rfl
        obtain ⟨count,rfl⟩ := Int.eq_ofNat_of_zero_le positive
        have unsigned : ¬ (count : Int) < 0 := by omega
        have counted : limitOffset count skipped sorted = (sorted.drop skipped).take count := by
          simp only [limitOffset,if_neg unsigned,Int.toNat_natCast]
        simp only [Option.elim_some,fits,offsetFits,Bool.and_self,if_true,Int.toNat_natCast]
        rw [limitOffset_map,metrics_readAll,counted,← Int.natCast_add,slice_limit]

theorem queryBreaches_same : Sqlite.queryBreaches now (tablesOf s) filters = InMemory.queryBreaches s filters := by
  rw [Sqlite.queryBreaches,breaches_selected,breaches_order,breaches_readAll]
  rfl

-- What a call needs of the breaches that are stored when it is made.
def Call.Meets (s : InMemory.Store) : Call → Prop
  | .recordMetrics metrics => fitsInteger metrics.latencyP95Ms = true ∧ fitsInteger metrics.tasksCompleted = true ∧ fitsInteger metrics.tasksFailed = true
  | .queryMetrics _ limit offset => Countable limit offset
  | .recordBreach breach => ∀ old ∈ s.breaches, old.id ≠ breach.id
  | .countMetrics _ | .queryBreaches _ => True

theorem call_same {call : Call} (meets : call.Meets s) :
    Sqlite.call now (tablesOf s) call = (tablesOf (InMemory.call s call).1,(InMemory.call s call).2) := by
  cases call with
  | recordMetrics metrics =>
    obtain ⟨latency,completed,failed⟩ := meets
    simp only [Sqlite.call,Sqlite.recordMetrics,latency,completed,failed,Bool.and_self,if_true,InMemory.call,tablesOf,List.map_append,
      List.map_cons,List.map_nil]
  | queryMetrics filters limit offset => simp only [Sqlite.call,InMemory.call,queryMetrics_same now meets]
  | countMetrics filters => simp only [Sqlite.call,InMemory.call,metrics_selected,List.length_map]
  | recordBreach breach =>
    have fresh : ∀ old ∈ (tablesOf s).breaches, old.id ≠ (Sqlite.breachRow breach).id := by
      intro old member
      obtain ⟨stored,listed,rfl⟩ := List.mem_map.mp member
      exact meets stored listed
    simp only [Sqlite.call,InMemory.call,insertOrReplace_fresh BreachRow.id fresh]
    simp only [tablesOf,List.map_append,List.map_cons,List.map_nil]
  | queryBreaches filters => simp only [Sqlite.call,InMemory.call,queryBreaches_same now]

-- Every call of a sequence meets its condition in the state it finds.
def MeetAll : InMemory.Store → List Call → Prop
  | _,[] => True
  | s,first :: rest => first.Meets s ∧ MeetAll (InMemory.call s first).1 rest

theorem calls_same {calls : List Call} (meet : MeetAll s calls) : (InMemory.calls s calls).2 = (Sqlite.calls now (tablesOf s) calls).2 := by
  induction calls generalizing s with
  | nil => rfl
  | cons call rest ih =>
    have replies := ih meet.2
    simp only [InMemory.calls,Sqlite.calls,call_same now meet.1,replies]

end Refinement

-- As long as no breach is recorded again under its id, no limit is negative and the numbers fit,
-- both backends give the same replies.
theorem sla_backends_agree (now : UtcTime) (calls : List Call) (meet : MeetAll {} calls) :
    (InMemory.calls {} calls).2 = (Sqlite.calls now {} calls).2 := calls_same now meet

theorem sampleTime_date : 1 ≤ 2026 ∧ 2026 ≤ 9999 ∧ 1 ≤ 1 ∧ 1 ≤ 12 ∧ 1 ≤ 2 ∧ 2 ≤ daysInMonth 2026 1 := by decide
theorem sampleTime_offset : ∀ delta ∈ some (0 : Int), -86400000000 < delta ∧ delta < 86400000000 := by decide

def sampleTime (hour : Nat) (valid : hour < 24) : UtcTime :=
  ⟨⟨2026,1,2,hour,0,0,0,some 0,sampleTime_date,⟨valid,by decide,by decide,by decide⟩,sampleTime_offset⟩,rfl⟩

def slow : SlaBreach := ⟨"b1","a","latency","500ms","800ms","warning",sampleTime 9 (by decide),none⟩
def late : SlaMetrics := ⟨"a",sampleTime 9 (by decide),sampleTime 10 (by decide),99,500,1 / 2,7,1⟩
def early : SlaMetrics := ⟨"a",sampleTime 8 (by decide),sampleTime 9 (by decide),100,200,0,5,0⟩

def sampleCalls : List Call := [.recordMetrics late,.recordMetrics early,.recordBreach slow,.queryMetrics {} (some 1) 1,.queryBreaches {}]

theorem sla_backends_agree_sorted : MeetAll {} sampleCalls ∧
    (InMemory.calls {} sampleCalls).2 = (Sqlite.calls (sampleTime 0 (by decide)) {} sampleCalls).2 := by
  have meet : MeetAll {} sampleCalls := by
    simp [sampleCalls,MeetAll,Call.Meets,Countable,fitsInteger,late,early,InMemory.call]
  exact ⟨meet,sla_backends_agree _ sampleCalls meet⟩

def resolved : SlaBreach := {slow with resolvedAt := some (sampleTime 11 (by decide))}

def resolvedLater : List Call := [.recordBreach slow,.recordBreach resolved,.queryBreaches {}]

-- Recorded again to mark it resolved, a breach is there twice in memory and once in the table.
theorem sla_backends_differ : (InMemory.calls {} resolvedLater).2 ≠ (Sqlite.calls (sampleTime 0 (by decide)) {} resolvedLater).2 := by
  have memory : (InMemory.calls {} resolvedLater).2 = [.recorded,.recorded,.breaches (InMemory.queryBreaches ⟨[],[slow,resolved]⟩ {})] := rfl
  have table : (Sqlite.calls (sampleTime 0 (by decide)) {} resolvedLater).2 =
      [.recorded,.recorded,.breaches (Sqlite.queryBreaches (sampleTime 0 (by decide)) (tablesOf ⟨[],[resolved]⟩) {})] := rfl
  have twice : (InMemory.queryBreaches ⟨[],[slow,resolved]⟩ {}).length = 2 := List.length_mergeSort _
  have once : (InMemory.queryBreaches ⟨[],[resolved]⟩ {}).length = 1 := List.length_mergeSort _
  rw [memory,table,queryBreaches_same]
  intro same
  simp only [List.cons.injEq,Reply.breaches.injEq,and_true,true_and] at same
  rw [same,once] at twice
  cases twice

end Asap.Sla
