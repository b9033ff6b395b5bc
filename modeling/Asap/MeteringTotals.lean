import Asap.Metering
import Mathlib.Algebra.BigOperators.Group.List.Basic

-- What the groups of an aggregation add up to, and the pages of a query.
namespace Asap.MeteringTotals
open OrderedDict PythonValue SqlTable Metering

section Groups
variable {κ : Type u} {α : Type v} [DecidableEq κ] (key : α → κ) (weight : α → Nat)

theorem sum_at (keys : List κ) (k : κ) (value : Nat) (distinct : keys.Nodup) (inside : k ∈ keys) :
    (keys.map (fun other => if k = other then value else 0)).sum = value := by
  induction keys with
  | nil => cases inside
  | cons first rest ih =>
    obtain ⟨apart,distinct⟩ := List.nodup_cons.mp distinct
    rw [List.map_cons,List.sum_cons]
    by_cases here : k = first
    · have elsewhere : ∀ other ∈ rest, (if k = other then value else 0) = 0 :=
        fun other member => if_neg (fun same => apart (by rw [← here,same]; exact member))
      rw [if_pos here,List.map_congr_left elsewhere]
      simp
    · rw [if_neg here,Nat.zero_add]
      exact ih distinct ((List.mem_cons.mp inside).resolve_left here)

-- Whatever is added up over the groups of distinct keys is added up over all items.
theorem sum_groups (keys : List κ) (items : List α) (distinct : keys.Nodup) (covered : ∀ item ∈ items, key item ∈ keys) :
    (keys.map (fun k => ((group key items k).map weight).sum)).sum = (items.map weight).sum := by
  induction items with
  | nil => simp [group]
  | cons item rest ih =>
    have split (k : κ) : ((group key (item :: rest) k).map weight).sum =
        (if key item = k then weight item else 0) + ((group key rest k).map weight).sum := by
      by_cases same : key item = k <;> simp [group,same]
    have tail := ih (fun other member => covered other (List.mem_cons_of_mem item member))
    simp only [split]
    rw [List.sum_map_add,sum_at keys (key item) (weight item) distinct (covered item List.mem_cons_self),tail,List.map_cons,List.sum_cons]

theorem key_covered (items : List α) (item : α) (member : item ∈ items) : key item ∈ (groupBy key items).keys := by
  rw [mem_keys_groupBy]
  intro empty
  have own : item ∈ group key items (key item) := by simp [group,member]
  rw [empty] at own
  cases own
end Groups

-- `limit` items from each of the offsets 0, limit, 2 * limit, and so on.
def slice (items : List α) (limit number : Nat) : List α := (items.drop (number * limit)).take limit

theorem slices_flatten (items : List α) (limit count : Nat) :
    ((List.range count).map (slice items limit)).flatten = items.take (count * limit) := by
  induction count with
  | zero => simp
  | succ count ih =>
    rw [List.range_succ,List.map_append,List.flatten_append,ih,Nat.succ_mul,List.take_add]
    simp [slice]

structure Totals where
  tasks : Nat
  tokens : Nat
  duration : Nat
  apiCalls : Nat
  deriving DecidableEq

def totalsOf (events : List UsageMetrics) : Totals := ⟨events.length,totalTokens events,totalDuration events,totalApiCalls events⟩

def sumTotals (rows : List (String × Totals)) : Totals where
  tasks := (rows.map (fun row => row.2.tasks)).sum
  tokens := (rows.map (fun row => row.2.tokens)).sum
  duration := (rows.map (fun row => row.2.duration)).sum
  apiCalls := (rows.map (fun row => row.2.apiCalls)).sum

-- The groups of some events: one for every key of an event, each with the totals of its
-- own events, together those of all.
structure Parts (key : UsageMetrics → String) (events : List UsageMetrics) (rows : List (String × Totals)) : Prop where
  distinct : (rows.map Prod.fst).Nodup
  covered : ∀ e ∈ events, key e ∈ rows.map Prod.fst
  own : ∀ row ∈ rows, row.2 = totalsOf (group key events row.1)
  conserved : sumTotals rows = totalsOf events

theorem sumTotals_perm (same : List.Perm left right) : sumTotals left = sumTotals right := by
  unfold sumTotals
  rw [(same.map _).sum_nat,(same.map _).sum_nat,(same.map _).sum_nat,(same.map _).sum_nat]

theorem parts_perm {key : UsageMetrics → String} {events : List UsageMetrics} (parts : Parts key events left) (same : left.Perm right) :
    Parts key events right where
  distinct := (same.map Prod.fst).nodup_iff.mp parts.distinct
  covered e member := (same.map Prod.fst).mem_iff.mp (parts.covered e member)
  own row member := parts.own row (same.mem_iff.mpr member)
  conserved := (sumTotals_perm same).symm.trans parts.conserved

-- The groups in the order of their first events.
theorem parts_groups (key : UsageMetrics → String) (events : List UsageMetrics) :
    Parts key events ((groupBy key events).keys.map (fun k => (k,totalsOf (group key events k)))) := by
  have names : ((groupBy key events).keys.map (fun k => (k,totalsOf (group key events k)))).map Prod.fst = (groupBy key events).keys := by
    rw [List.map_map]
    exact List.map_id _
  have distinct := (groupBy key events).distinct
  have covered := fun e member => key_covered key events e member
  refine ⟨by rw [names]; exact distinct,fun e member => by rw [names]; exact covered e member,?_,?_⟩
  · intro row member
    obtain ⟨k,_,rfl⟩ := List.mem_map.mp member
    rfl
  · have total (weight : UsageMetrics → Nat) := sum_groups key weight (groupBy key events).keys events distinct covered
    have tasks := total (fun _ => 1)
    simp only [List.map_const',List.sum_replicate_nat,Nat.mul_one] at tasks
    unfold sumTotals totalsOf
    simp only [List.map_map,Function.comp_def]
    rw [Totals.mk.injEq]
    exact ⟨tasks,total _,total _,total _⟩

section Aggregates
variable (truediv : Nat → Nat → Option Rat) {events : List UsageMetrics}

theorem mapM_some_iff {κ α : Type} (f : κ → Option α) (keys : List κ) :
    (∃ out, keys.mapM f = some out) ↔ ∀ k ∈ keys, ∃ row, f k = some row := by
  induction keys with
  | nil => simp
  | cons k rest ih =>
    rw [List.forall_mem_cons,← ih,List.mapM_cons]
    cases f k with
    | none => simp
    | some row => cases rest.mapM f <;> simp

theorem mem_keys_iff (key : UsageMetrics → String) (k : String) : k ∈ (groupBy key events).keys ↔ ∃ e ∈ events, key e = k := by
  rw [mem_keys_groupBy]
  constructor
  · intro filled
    obtain ⟨e,member⟩ := List.exists_mem_of_ne_nil _ filled
    simp only [group,List.mem_filter,decide_eq_true_eq] at member
    exact ⟨e,member⟩
  · rintro ⟨e,member,rfl⟩
    exact (mem_keys_groupBy key events _).mp (key_covered key events e member)

theorem aggregateBy_parts {α : Type} {key : UsageMetrics → String} {totals : String → List UsageMetrics → Option α} {name : α → String}
    {view : α → String × Totals} {out : List α} (viewed : ∀ k events row, totals k events = some row → view row = (k,totalsOf events))
    (computed : aggregateBy key totals name events = some out) : Parts key events (out.map view) := by
  obtain ⟨rows,answered,rfl⟩ := Option.map_eq_some_iff.mp computed
  rw [entries_groupBy,List.mapM_map] at answered
  have shown := mapM_image _ view (fun k => (k,totalsOf (group key events k))) (fun k row => viewed k _ row) answered
  exact parts_perm (shown ▸ parts_groups key events) ((List.mergeSort_perm rows _).symm.map view)

theorem aggregateBy_some (key : UsageMetrics → String) {α : Type} (totals : String → List UsageMetrics → Option α) (name : α → String) :
    (∃ out, aggregateBy key totals name events = some out) ↔
      ∀ e ∈ events, ∃ row, totals (key e) (group key events (key e)) = some row := by
  unfold aggregateBy
  rw [entries_groupBy,List.mapM_map]
  have answered := mapM_some_iff (fun k => totals k (group key events k)) (groupBy key events).keys
  simp only [Option.map_eq_some_iff,Function.comp_def]
  constructor
  · rintro ⟨_,rows,read,_⟩ e member
    exact answered.mp ⟨rows,read⟩ (key e) (key_covered key events e member)
  · intro rows
    obtain ⟨out,read⟩ := answered.mpr (fun k known => by
      obtain ⟨e,member,rfl⟩ := (mem_keys_iff key k).mp known
      exact rows e member)
    exact ⟨_,out,read,rfl⟩

def groupings : List String := ["agent","consumer","day","week"]

def groupKey (groupBy : String) (e : UsageMetrics) : String :=
  if groupBy = "agent" then e.agentId
  else if groupBy = "consumer" then e.consumerId
  else periodKey groupBy e.timestamp

def totalRows : UsageAggregate → List (String × Totals)
  | .byAgent rows => rows.map (fun row => (row.agentId,⟨row.totalTasks,row.totalTokens,row.totalDurationMs,row.totalApiCalls⟩))
  | .byConsumer rows => rows.map (fun row => (row.consumerId,⟨row.totalTasks,row.totalTokens,row.totalDurationMs,row.totalApiCalls⟩))
  | .byPeriod rows => rows.map (fun row => (row.period,⟨row.totalTasks,row.totalTokens,row.totalDurationMs,row.totalApiCalls⟩))

-- Every agent's and every consumer's totals have averages.
structure Averaged (events : List UsageMetrics) : Prop where
  agents : ∀ e ∈ events, let own := group UsageMetrics.agentId events e.agentId
    (truediv (totalTokens own) own.length).isSome = true ∧ (truediv (totalDuration own) own.length).isSome = true
  consumers : ∀ e ∈ events, let own := group UsageMetrics.consumerId events e.consumerId
    (truediv (totalTokens own) own.length).isSome = true

theorem average_some (key : UsageMetrics → String) (e : UsageMetrics) (member : e ∈ events) (total : Nat) :
    average truediv total (group key events (key e)).length = truediv total (group key events (key e)).length := by
  have own : e ∈ group key events (key e) := by simp [group,member]
  exact if_pos (List.length_pos_of_mem own).ne'

theorem agents_answer : (∃ out, aggregateByAgent truediv events = some out) ↔
    ∀ e ∈ events, let own := group UsageMetrics.agentId events e.agentId
      (truediv (totalTokens own) own.length).isSome = true ∧ (truediv (totalDuration own) own.length).isSome = true := by
  unfold aggregateByAgent
  rw [aggregateBy_some]
  refine forall₂_congr (fun e member => ?_)
  simp only [agentTotals,average_some truediv UsageMetrics.agentId e member]
  cases truediv (totalTokens (group UsageMetrics.agentId events e.agentId)) (group UsageMetrics.agentId events e.agentId).length with
  | none => simp
  | some _ =>
    cases truediv (totalDuration (group UsageMetrics.agentId events e.agentId)) (group UsageMetrics.agentId events e.agentId).length <;> simp

theorem consumers_answer : (∃ out, aggregateByConsumer truediv events = some out) ↔
    ∀ e ∈ events, let own := group UsageMetrics.consumerId events e.consumerId
      (truediv (totalTokens own) own.length).isSome = true := by
  unfold aggregateByConsumer
  rw [aggregateBy_some]
  refine forall₂_congr (fun e member => ?_)
  simp only [consumerTotals,average_some truediv UsageMetrics.consumerId e member]
  cases truediv (totalTokens (group UsageMetrics.consumerId events e.consumerId)) (group UsageMetrics.consumerId events e.consumerId).length <;> simp

theorem periods_answer (groupBy : String) : ∃ out, aggregateByPeriod groupBy events = some out := by
  unfold aggregateByPeriod
  rw [aggregateBy_some]
  exact fun e _ => ⟨_,rfl⟩

theorem elim_ok (x : Option UsageAggregate) (aggregate : UsageAggregate) :
    (x.elim (.error .overflow) .ok : Except Failure UsageAggregate) = .ok aggregate ↔ x = some aggregate := by
  cases x <;> simp

theorem dispatch_parts (groupBy : String) (answered : dispatchAggregate truediv events groupBy = .ok aggregate) :
    Parts (groupKey groupBy) events (totalRows aggregate) := by
  unfold dispatchAggregate at answered
  split at answered
  · rename_i agent
    subst agent
    obtain ⟨out,computed,rfl⟩ := Option.map_eq_some_iff.mp ((elim_ok _ _).mp answered)
    refine aggregateBy_parts ?_ computed
    intro k own row total
    unfold agentTotals at total
    split at total
    · cases total
      rfl
    · cases total
  · split at answered
    · rename_i consumer
      subst consumer
      obtain ⟨out,computed,rfl⟩ := Option.map_eq_some_iff.mp ((elim_ok _ _).mp answered)
      refine aggregateBy_parts ?_ computed
      intro k own row total
      obtain ⟨_,_,rfl⟩ := Option.map_eq_some_iff.mp total
      rfl
    · split at answered
      · rename_i agent consumer period
        obtain ⟨out,computed,rfl⟩ := Option.map_eq_some_iff.mp ((elim_ok _ _).mp answered)
        have key : groupKey groupBy = fun e => periodKey groupBy e.timestamp := by
          funext e
          simp [groupKey,agent,consumer]
        rw [key]
        refine aggregateBy_parts ?_ computed
        intro k own row total
        cases total
        rfl
      · cases answered

-- Whether the groups can be computed at all: the averages of the first two groupings.
theorem dispatch_answers (groupBy : String) (known : groupBy ∈ groupings) :
    (∃ aggregate, dispatchAggregate truediv events groupBy = .ok aggregate) ↔
      (groupBy = "agent" → ∃ out, aggregateByAgent truediv events = some out) ∧
      (groupBy = "consumer" → ∃ out, aggregateByConsumer truediv events = some out) := by
  have answered {α : Type} (x : Option α) (wrap : α → UsageAggregate) :
      (∃ aggregate, ((x.map wrap).elim (.error .overflow) .ok : Except Failure UsageAggregate) = .ok aggregate) ↔ ∃ out, x = some out := by
    cases x <;> simp
  simp only [groupings,List.mem_cons,List.not_mem_nil,or_false] at known
  unfold dispatchAggregate
  rcases known with rfl | rfl | rfl | rfl
  · simpa using answered (aggregateByAgent truediv events) .byAgent
  · simpa using answered (aggregateByConsumer truediv events) .byConsumer
  · simpa using (answered (aggregateByPeriod "day" events) .byPeriod).mpr (periods_answer "day")
  · simpa using (answered (aggregateByPeriod "week" events) .byPeriod).mpr (periods_answer "week")

theorem all_answer : (∀ groupBy ∈ groupings, ∃ aggregate, dispatchAggregate truediv events groupBy = .ok aggregate) ↔ Averaged truediv events := by
  constructor
  · intro answers
    have agents := (dispatch_answers truediv "agent" (by simp [groupings])).mp (answers "agent" (by simp [groupings]))
    have consumers := (dispatch_answers truediv "consumer" (by simp [groupings])).mp (answers "consumer" (by simp [groupings]))
    exact ⟨(agents_answer truediv).mp (agents.1 rfl),(consumers_answer truediv).mp (consumers.2 rfl)⟩
  · intro averaged groupBy known
    exact (dispatch_answers truediv groupBy known).mpr
      ⟨fun _ => (agents_answer truediv).mpr averaged.agents,fun _ => (consumers_answer truediv).mpr averaged.consumers⟩

theorem summary_totals (events : List UsageMetrics) :
    let summary := computeSummary events
    (⟨summary.totalTasks,summary.totalTokens,summary.totalDurationMs,summary.totalApiCalls⟩ : Totals) = totalsOf events := by
  cases events <;> rfl
end Aggregates

section Matching
variable {events : List UsageMetrics}

def identified (f : MeteringQuery) (e : UsageMetrics) : Bool :=
  f.agentId.all (fun id => decide (e.agentId = id)) && f.consumerId.all (fun id => decide (e.consumerId = id)) &&
    f.taskId.all (fun id => decide (e.taskId = id))

def started (f : MeteringQuery) (e : UsageMetrics) : Bool := f.start.all (fun t => decide (t.instant ≤ e.timestamp.instant))
def ended (f : MeteringQuery) (e : UsageMetrics) : Bool := f.ending.all (fun t => decide (e.timestamp.instant ≤ t.instant))

-- The events of a filter.
def matching (events : List UsageMetrics) : Option MeteringQuery → List UsageMetrics
  | none => events
  | some f => events.filter (fun e => identified f e && (started f e && ended f e))

-- Both times are aware or both naive.
def Alike (a b : DateTime) : Prop := a.utcoffset.isSome = b.utcoffset.isSome

-- The bounds compare with the times of an event, as far as they are looked at.
def Reached (f : MeteringQuery) (e : UsageMetrics) : Prop :=
  identified f e = true → (∀ t ∈ f.start, Alike t e.timestamp) ∧ (started f e = true → ∀ t ∈ f.ending, Alike e.timestamp t)

structure Compared (f : MeteringQuery) (events : List UsageMetrics) : Prop where
  reached : ∀ e ∈ events, Reached f e
  mutually : ∀ a ∈ matching events (some f), ∀ b ∈ matching events (some f), Alike a.timestamp b.timestamp

theorem le_some (a b : DateTime) (less : Bool) : a.le? b = some less ↔ Alike a b ∧ decide (a.instant ≤ b.instant) = less := by
  unfold DateTime.le? Alike
  split
  · rename_i alike
    simp [alike]
  · rename_i different
    simp [different]

theorem after_some (f : MeteringQuery) (e : UsageMetrics) (after : Bool) :
    f.start.elim (some true) (fun start => start.le? e.timestamp) = some after ↔
      (∀ t ∈ f.start, Alike t e.timestamp) ∧ started f e = after := by
  unfold started
  cases f.start with
  | none => simp
  | some t => simp [le_some]

theorem before_some (f : MeteringQuery) (e : UsageMetrics) (before : Bool) :
    f.ending.elim (some true) (fun ending => e.timestamp.le? ending) = some before ↔
      (∀ t ∈ f.ending, Alike e.timestamp t) ∧ ended f e = before := by
  unfold ended
  cases f.ending with
  | none => simp
  | some t => simp [le_some]

theorem matchesQuery_some (f : MeteringQuery) (e : UsageMetrics) (matched : Bool) :
    InMemory.matchesQuery e f = some matched ↔ Reached f e ∧ (identified f e && (started f e && ended f e)) = matched := by
  unfold InMemory.matchesQuery
  rw [show (f.agentId.all _ && f.consumerId.all _ && f.taskId.all _) = identified f e from rfl]
  cases own : identified f e with
  | false => simp [Reached,own]
  | true =>
    simp only [Reached,own,if_true,true_implies,Bool.true_and,Option.bind_eq_some_iff,after_some]
    constructor
    · rintro ⟨after,⟨start,rfl⟩,rest⟩
      cases passed : started f e with
      | false =>
        rw [passed] at rest
        exact ⟨⟨start,fun impossible => by cases impossible⟩,by simpa using rest⟩
      | true =>
        rw [passed,if_pos rfl] at rest
        obtain ⟨ending,result⟩ := (before_some f e matched).mp rest
        exact ⟨⟨start,fun _ => ending⟩,by simpa using result⟩
    · rintro ⟨⟨start,ending⟩,result⟩
      refine ⟨started f e,⟨start,rfl⟩,?_⟩
      cases passed : started f e with
      | false => simpa [passed] using result
      | true =>
        rw [if_pos rfl,before_some]
        exact ⟨ending passed,by simpa [passed] using result⟩

theorem matching_cons (f : MeteringQuery) (e : UsageMetrics) (rest : List UsageMetrics) : matching (e :: rest) (some f) =
    if (identified f e && (started f e && ended f e)) = true then e :: matching rest (some f) else matching rest (some f) := by
  simp only [matching,List.filter_cons]

theorem select_some (f : MeteringQuery) (selected : List UsageMetrics) :
    InMemory.select f events = some selected ↔ (∀ e ∈ events, Reached f e) ∧ matching events (some f) = selected := by
  induction events generalizing selected with
  | nil => simp [InMemory.select,matching]
  | cons e rest ih =>
    simp only [InMemory.select,Option.bind_eq_some_iff,Option.map_eq_some_iff,matchesQuery_some,ih,List.forall_mem_cons]
    constructor
    · rintro ⟨_,⟨first,rfl⟩,_,⟨others,rfl⟩,rfl⟩
      exact ⟨⟨first,others⟩,matching_cons f e rest⟩
    · rintro ⟨⟨first,others⟩,rfl⟩
      exact ⟨_,⟨first,rfl⟩,_,⟨others,rfl⟩,(matching_cons f e rest).symm⟩

theorem mixed_iff (events : List UsageMetrics) :
    InMemory.mixed events = false ↔ ∀ a ∈ events, ∀ b ∈ events, Alike a.timestamp b.timestamp := by
  unfold InMemory.mixed Alike
  simp only [Bool.and_eq_false_iff,List.any_eq_false]
  constructor
  · intro one a first b second
    rcases one with naive | aware
    · rw [Bool.eq_false_iff.mpr (naive a first),Bool.eq_false_iff.mpr (naive b second)]
    · have known (e : UsageMetrics) (member : e ∈ events) : e.timestamp.utcoffset.isSome = true := by
        simpa [Option.isSome_iff_ne_none] using aware e member
      rw [known a first,known b second]
  · intro alike
    by_cases known : ∃ a ∈ events, a.timestamp.utcoffset.isSome = true
    · obtain ⟨a,first,aware⟩ := known
      refine .inr (fun b second => ?_)
      have same := alike a first b second
      rw [aware] at same
      simpa [Option.isSome_iff_ne_none] using same.symm
    · exact .inl (fun a first aware => known ⟨a,first,aware⟩)

-- What a query selects before its page is taken.
theorem applyQueryFilters_ok (f : MeteringQuery) (page : List UsageMetrics) :
    InMemory.applyQueryFilters events f = .ok page ↔ Compared f events ∧
      f.limit.elim ((sorted (matching events (some f))).drop f.offset)
        (fun limit => ((sorted (matching events (some f))).drop f.offset).take limit) = page := by
  unfold InMemory.applyQueryFilters
  cases chosen : InMemory.select f events with
  | none =>
    refine ⟨fun impossible => (by cases impossible),fun ⟨compared,_⟩ => ?_⟩
    rw [(select_some f _).mpr ⟨compared.reached,rfl⟩] at chosen
    cases chosen
  | some selected =>
    obtain ⟨reached,rfl⟩ := (select_some f _).mp chosen
    have readable : Compared f events ↔ InMemory.mixed (matching events (some f)) = false := by
      rw [mixed_iff]
      exact ⟨Compared.mutually,Compared.mk reached⟩
    rw [readable]
    cases mixed : InMemory.mixed (matching events (some f)) <;> simp [mixed,sorted]

theorem compared_aggFilters (f : MeteringQuery) : Compared (aggFilters f) events ↔ Compared f events :=
  ⟨fun compared => ⟨compared.reached,compared.mutually⟩,fun compared => ⟨compared.reached,compared.mutually⟩⟩

theorem filtered_ok (filters : Option MeteringQuery) :
    (∃ selected, InMemory.filtered events filters = .ok selected) ↔ ∀ f ∈ filters, Compared f events := by
  cases filters with
  | none => simp [InMemory.filtered]
  | some f => simp [InMemory.filtered,applyQueryFilters_ok,compared_aggFilters]

theorem filtered_matching (filters : Option MeteringQuery) (read : InMemory.filtered events filters = .ok selected) :
    selected.Perm (matching events filters) := by
  cases filters with
  | none =>
    cases read
    exact .refl _
  | some f =>
    obtain ⟨_,rfl⟩ := (applyQueryFilters_ok _ _).mp read
    exact List.mergeSort_perm _ _
end Matching

section Storage
variable (truediv : Nat → Nat → Option Rat) (ttl : Option Int) (events : List UsageMetrics)

def reply (call : Call) : Reply := (InMemory.call truediv ttl events call).2

def summaryTotals (summary : UsageSummary) : Totals :=
  ⟨summary.totalTasks,summary.totalTokens,summary.totalDurationMs,summary.totalApiCalls⟩

-- The page of a number, with the filters of the query.
def pageOf (f : MeteringQuery) (limit : Nat) (positive : 1 ≤ limit) (number : Nat) : MeteringQuery where
  agentId := f.agentId
  consumerId := f.consumerId
  taskId := f.taskId
  start := f.start
  ending := f.ending
  limit := some limit
  offset := number * limit
  positive n same := by
    cases same
    exact positive

-- Every grouping answers with the groups of the matching events, and they add up to the summary;
-- the pages of a query are parts of its events, the first of them put together its first events.
structure Conserves (filters : Option MeteringQuery) : Prop where
  grouped : ∃ summary, reply truediv ttl events (.summary filters) = .summary summary ∧
    ∀ groupBy ∈ groupings, ∃ aggregate, reply truediv ttl events (.aggregate groupBy filters) = .aggregates aggregate ∧
      Parts (groupKey groupBy) (matching events filters) (totalRows aggregate) ∧ sumTotals (totalRows aggregate) = summaryTotals summary
  paged : ∀ f ∈ filters, ∃ all, reply truediv ttl events (.query (aggFilters f)) = .events all ∧ all.Perm (matching events filters) ∧
    ∀ limit positive, ∃ pages : Nat → List UsageMetrics,
      (∀ number, reply truediv ttl events (.query (pageOf f limit positive number)) = .events (pages number)) ∧
      (∀ count, ((List.range count).map pages).flatten = all.take (count * limit)) ∧
      ∀ count, all.length ≤ count * limit → ((List.range count).map pages).flatten = all

theorem groups_perm (same : List.Perm left right) (key : UsageMetrics → String) (e : UsageMetrics) :
    totalTokens (group key left (key e)) = totalTokens (group key right (key e)) ∧
    totalDuration (group key left (key e)) = totalDuration (group key right (key e)) ∧
    (group key left (key e)).length = (group key right (key e)).length := by
  have grouped := group_perm key same (key e)
  exact ⟨(totals_perm grouped).1,(totals_perm grouped).2.1,grouped.length_eq⟩

theorem averaged_perm (same : List.Perm left right) (averaged : Averaged truediv left) : Averaged truediv right := by
  refine ⟨fun e member => ?_,fun e member => ?_⟩
  · obtain ⟨tokens,duration,tasks⟩ := groups_perm same UsageMetrics.agentId e
    have own := averaged.agents e (same.mem_iff.mpr member)
    simp only [tokens,duration,tasks] at own
    exact own
  · obtain ⟨tokens,_,tasks⟩ := groups_perm same UsageMetrics.consumerId e
    have own := averaged.consumers e (same.mem_iff.mpr member)
    simp only [tokens,tasks] at own
    exact own

theorem parts_events {key : UsageMetrics → String} (same : left.Perm right) (parts : Parts key left rows) : Parts key right rows where
  distinct := parts.distinct
  covered e member := parts.covered e (same.mem_iff.mpr member)
  own row member := by
    have grouped := group_perm key same row.1
    obtain ⟨tokens,duration,calls,_,_⟩ := totals_perm grouped
    rw [parts.own row member,totalsOf,totalsOf,tokens,duration,calls,grouped.length_eq]
  conserved := by
    obtain ⟨tokens,duration,calls,_,_⟩ := totals_perm same
    rw [parts.conserved,totalsOf,totalsOf,tokens,duration,calls,same.length_eq]

section Selected
variable {events : List UsageMetrics} {filters : Option MeteringQuery} (read : InMemory.filtered events filters = .ok selected)
include read

theorem reply_summary : reply truediv ttl events (.summary filters) = .summary (computeSummary selected) := by
  simp [reply,InMemory.call,read,Except.map,answer]

theorem reply_aggregate (groupBy : String) :
    reply truediv ttl events (.aggregate groupBy filters) = answer .aggregates (dispatchAggregate truediv selected groupBy) := by
  simp [reply,InMemory.call,read,Except.bind]

theorem reply_aggregates (groupBy : String) (aggregate : UsageAggregate) :
    reply truediv ttl events (.aggregate groupBy filters) = .aggregates aggregate ↔ dispatchAggregate truediv selected groupBy = .ok aggregate := by
  rw [reply_aggregate truediv ttl read]
  cases dispatchAggregate truediv selected groupBy <;> simp [answer]
end Selected

theorem reply_summarised {filters : Option MeteringQuery} (answered : reply truediv ttl events (.summary filters) = .summary summary) :
    ∃ selected, InMemory.filtered events filters = .ok selected := by
  simp only [reply,InMemory.call] at answered
  cases read : InMemory.filtered events filters with
  | error failure =>
    rw [read] at answered
    cases answered
  | ok selected => exact ⟨selected,rfl⟩

theorem pages_put_together (f : MeteringQuery) (compared : Compared f events) :
    ∃ all, reply truediv ttl events (.query (aggFilters f)) = .events all ∧ all.Perm (matching events (some f)) ∧
      ∀ limit positive, ∃ pages : Nat → List UsageMetrics,
        (∀ number, reply truediv ttl events (.query (pageOf f limit positive number)) = .events (pages number)) ∧
        (∀ count, ((List.range count).map pages).flatten = all.take (count * limit)) ∧
        ∀ count, all.length ≤ count * limit → ((List.range count).map pages).flatten = all := by
  have answered (g : MeteringQuery) (page : List UsageMetrics) (selected : InMemory.applyQueryFilters events g = .ok page) :
      reply truediv ttl events (.query g) = .events page := by
    simp [reply,InMemory.call,selected,answer]
  refine ⟨sorted (matching events (some f)),answered _ _ ((applyQueryFilters_ok _ _).mpr ⟨(compared_aggFilters f).mpr compared,rfl⟩),List.mergeSort_perm _ _,?_⟩
  intro limit positive
  refine ⟨slice (sorted (matching events (some f))) limit,fun number => ?_,slices_flatten _ limit,fun count whole => ?_⟩
  · exact answered _ _ ((applyQueryFilters_ok _ _).mpr ⟨⟨compared.reached,compared.mutually⟩,rfl⟩)
  · rw [slices_flatten,List.take_of_length_le whole]

section Condition
variable {events : List UsageMetrics} {filters : Option MeteringQuery}

theorem conserves_needs (conserves : Conserves truediv ttl events filters) :
    (∀ f ∈ filters, Compared f events) ∧ Averaged truediv (matching events filters) := by
  obtain ⟨summary,summarised,groups⟩ := conserves.grouped
  obtain ⟨selected,read⟩ := reply_summarised truediv ttl events summarised
  have answers : ∀ groupBy ∈ groupings, ∃ aggregate, dispatchAggregate truediv selected groupBy = .ok aggregate := by
    intro groupBy known
    obtain ⟨aggregate,answered,_⟩ := groups groupBy known
    exact ⟨aggregate,(reply_aggregates truediv ttl read groupBy aggregate).mp answered⟩
  exact ⟨(filtered_ok filters).mp ⟨selected,read⟩,
    averaged_perm truediv (filtered_matching filters read) ((all_answer truediv).mp answers)⟩

theorem conserves_when (compared : ∀ f ∈ filters, Compared f events) (averaged : Averaged truediv (matching events filters)) :
    Conserves truediv ttl events filters := by
  obtain ⟨selected,read⟩ := (filtered_ok filters).mpr compared
  have same := filtered_matching filters read
  refine ⟨⟨_,reply_summary truediv ttl read,fun groupBy known => ?_⟩,?_⟩
  · obtain ⟨aggregate,computed⟩ := (all_answer truediv).mpr (averaged_perm truediv same.symm averaged) groupBy known
    have parts := dispatch_parts truediv groupBy computed
    exact ⟨aggregate,(reply_aggregates truediv ttl read groupBy aggregate).mpr computed,parts_events same parts,
      parts.conserved.trans (summary_totals selected).symm⟩
  · rintro f ⟨⟩
    exact pages_put_together truediv ttl events f (compared f rfl)
end Condition

theorem metering_totals_conserved_iff (filters : Option MeteringQuery) : Conserves truediv ttl events filters ↔
    (∀ f ∈ filters, Compared f events) ∧ Averaged truediv (matching events filters) :=
  ⟨conserves_needs truediv ttl,fun ⟨compared,averaged⟩ => conserves_when truediv ttl compared averaged⟩

-- Quotients from the end of the floats on raise OverflowError.
def quotientInRange (total tasks : Nat) : Option Rat := if (2 ^ 1024 - 2 ^ 970) * tasks ≤ total then none else some (total / tasks)

def hugeEvent : UsageMetrics := {sampleEvent "t1" nine.timestamp with tokensIn := 2 ^ 1024}

theorem huge_tokens_unaggregated : ¬ Conserves quotientInRange none [hugeEvent] none := by
  intro conserves
  have averaged := (conserves_needs quotientInRange none conserves).2
  have own := (averaged.agents hugeEvent List.mem_cons_self).1
  have single : group UsageMetrics.agentId [hugeEvent] hugeEvent.agentId = [hugeEvent] := rfl
  have tokens : totalTokens [hugeEvent] = 2 ^ 1024 := by simp [totalTokens,hugeEvent,sampleEvent]
  have tooLarge : (2 ^ 1024 - 2 ^ 970) * [hugeEvent].length ≤ 2 ^ 1024 := by
    rw [List.length_singleton,Nat.mul_one]
    exact Nat.sub_le _ _
  simp only [matching,single,tokens,quotientInRange,if_pos tooLarge] at own
  cases own
end Storage

end Asap.MeteringTotals
