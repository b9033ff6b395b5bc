import Asap.OrderedDict
import Asap.Rounding
import Mathlib.Data.List.Sort
import Mathlib.Data.Prod.Lex
import Mathlib.Data.String.Basic
import Mathlib.Algebra.Order.Ring.Rat

-- Counters and histograms, and their export in Prometheus' text format.
namespace Asap.Metrics
open OrderedDict Rounding

variable {K : Type}

-- A float: NaN, or one of the others in their order, infinities included.
inductive Value (K : Type) where
  | nan
  | number (value : K)
  deriving DecidableEq

-- What the code has of floats besides their order.
structure Floats (K : Type) where
  plus : Value K → Value K → Value K
  zero : Value K

-- Counts are floats too: whole numbers, whose sums are rounded to 53 bits.
def addCounts (left right : Nat) : Nat := nearest (left + right)

abbrev LabelKey := List (String × String)

-- `tuple(sorted((labels or {}).items()))`
def labelKey (labels : Option (Dict String String)) : LabelKey :=
  (labels.getD .empty).entries.insertionSort (fun left right => toLex left ≤ toLex right)

structure Counter (K : Type) where
  name : String
  helpText : String
  values : Dict LabelKey (Value K) := .empty

def Counter.increment (floats : Floats K) (counter : Counter K) (labels : Option (Dict String String)) (value : Value K) : Counter K :=
  { counter with values := counter.values.set (labelKey labels) (floats.plus ((counter.values.get (labelKey labels)).getD floats.zero) value) }

-- `{"buckets": {bound: count}, "sum": total, "count": n}`
structure Data (K : Type) where
  buckets : Dict K Nat
  sum : Value K
  count : Nat

structure Histogram (K : Type) where
  name : String
  helpText : String
  buckets : List K
  values : Dict LabelKey (Data K) := .empty

structure MetricsCollector (K : Type) where
  counters : Dict String (Counter K) := .empty
  histograms : Dict String (Histogram K) := .empty
  named : ∀ name histogram, histograms.get name = some histogram → histogram.name = name

def MetricsCollector.init : MetricsCollector K where
  named name histogram found := by cases found

def MetricsCollector.registerCounter (collector : MetricsCollector K) (name helpText : String) : MetricsCollector K :=
  if collector.counters.get name = none then { collector with counters := collector.counters.set name { name,helpText } } else collector

def MetricsCollector.put (collector : MetricsCollector K) (name : String) (histogram : Histogram K) (same : histogram.name = name) : MetricsCollector K where
  counters := collector.counters
  histograms := collector.histograms.set name histogram
  named other found isFound := by
    rw [Dict.get_set] at isFound
    split at isFound
    · rename_i equal
      cases isFound
      exact same.trans equal
    · exact collector.named other found isFound

theorem put_get (collector : MetricsCollector K) (other : String) (new : Histogram K) (same : new.name = other) (name : String) :
    (collector.put other new same).histograms.get name = if other = name then some new else collector.histograms.get name :=
  Dict.get_set _ _ _ _

-- A line of the export: a comment, or a sample of a metric.
inductive Series (K : Type) where
  | value
  | bucket (le : Option K)
  | sum
  | count
  deriving DecidableEq

inductive Amount (K : Type) where
  | zero
  | counted (count : Nat)
  | float (value : Value K)
  | seconds (value : Value K)

inductive Line (K : Type) where
  | help (name helpText : String)
  | type (name kind : String)
  | sample (name : String) (series : Series K) (labels : LabelKey) (amount : Amount K)

def comments (name helpText kind : String) : List (Line K) := [.help name helpText,.type name kind]

section Collector
variable [LinearOrder K]

def Value.atMost : Value K → K → Bool
  | .nan,_ => false
  | .number value,bound => decide (value ≤ bound)

def Data.fresh (floats : Floats K) (bounds : List K) : Data K :=
  ⟨bounds.foldl (fun buckets bound => buckets.set bound 0) .empty,floats.zero,0⟩

-- Every bucket that the value fits in is counted up, not only the first.
def countUp (value : Value K) (buckets : Dict K Nat) (bound : K) : Dict K Nat :=
  if value.atMost bound then buckets.set bound (addCounts ((buckets.get bound).getD 0) 1) else buckets

def Data.add (floats : Floats K) (bounds : List K) (data : Data K) (value : Value K) : Data K :=
  ⟨bounds.foldl (countUp value) data.buckets,floats.plus data.sum value,addCounts data.count 1⟩

def Histogram.observe (floats : Floats K) (histogram : Histogram K) (value : Value K) (labels : Option (Dict String String)) : Histogram K :=
  let data := (histogram.values.get (labelKey labels)).getD (.fresh floats histogram.buckets)
  { histogram with values := histogram.values.set (labelKey labels) (data.add floats histogram.buckets value) }

def MetricsCollector.registerHistogram (collector : MetricsCollector K) (name helpText : String) (buckets : List K) : MetricsCollector K :=
  if collector.histograms.get name = none then collector.put name { name,helpText,buckets } rfl else collector

def MetricsCollector.incrementCounter (floats : Floats K) (collector : MetricsCollector K) (name : String)
    (labels : Option (Dict String String)) (value : Value K) : MetricsCollector K :=
  match collector.counters.get name with
  | some counter => { collector with counters := collector.counters.set name (counter.increment floats labels value) }
  | none => collector

def MetricsCollector.observeHistogram (floats : Floats K) (collector : MetricsCollector K) (name : String) (value : Value K)
    (labels : Option (Dict String String)) : MetricsCollector K :=
  match found : collector.histograms.get name with
  | some histogram =>
    collector.put name (histogram.observe floats value labels)
      (show (histogram.observe floats value labels).name = name from collector.named name histogram found)
  | none => collector

def Counter.lines (counter : Counter K) : List (Line K) :=
  comments counter.name counter.helpText "counter" ++
    if counter.values.entries.isEmpty then [Line.sample counter.name .value [] .zero]
    else counter.values.entries.map (fun row => Line.sample counter.name .value row.1 (.float row.2))

-- The counts of the buckets are added up once more.
def cumulative (buckets : Dict K Nat) : Nat → List K → List (K × Nat)
  | _,[] => []
  | total,bound :: rest =>
    let total := addCounts total ((buckets.get bound).getD 0)
    (bound,total) :: cumulative buckets total rest

def Data.lines (name : String) (bounds : List K) (key : LabelKey) (data : Data K) : List (Line K) :=
  (cumulative data.buckets 0 bounds).map (fun row => Line.sample name (.bucket (some row.1)) key (.counted row.2)) ++
    [Line.sample name (.bucket none) key (.counted data.count),Line.sample name .sum key (.float data.sum),Line.sample name .count key (.counted data.count)]

def Histogram.lines (histogram : Histogram K) : List (Line K) :=
  comments histogram.name histogram.helpText "histogram" ++
    if histogram.values.entries.isEmpty then
      histogram.buckets.map (fun bound => Line.sample histogram.name (.bucket (some bound)) [] .zero) ++
        [Line.sample histogram.name (.bucket none) [] .zero,Line.sample histogram.name .sum [] .zero,Line.sample histogram.name .count [] .zero]
    else histogram.values.entries.flatMap (fun row => row.2.lines histogram.name histogram.buckets row.1)

def MetricsCollector.lines (collector : MetricsCollector K) (uptime : Value K) : List (Line K) :=
  collector.counters.values.flatMap Counter.lines ++ collector.histograms.values.flatMap Histogram.lines ++
    comments "asap_process_uptime_seconds" "Time since server start" "gauge" ++
    [Line.sample "asap_process_uptime_seconds" .value [] (.seconds uptime)]
end Collector

-- The lines as text; how floats are written is not the code's.
structure Texts (K : Type) where
  number : Value K → String
  seconds : Value K → String
  ofNat : Nat → Value K

def replaceChar (char : Char) (new text : String) : String :=
  String.ofList (text.toList.flatMap (fun c => if c = char then new.toList else [c]))

-- Backslashes first, so that those of the quotes stay single.
def escapeLabelValue (value : String) : String := replaceChar '"' "\\\"" (replaceChar '\\' "\\\\" value)

def formatLabel (row : String × String) : String := row.1 ++ "=\"" ++ escapeLabelValue row.2 ++ "\""

def formatLabels (labels : LabelKey) : String :=
  if labels = [] then "" else "\x7b" ++ String.intercalate "," (labels.map formatLabel) ++ "\x7d"

-- `le` goes before the closing brace.
def insertLe (base le : String) : String :=
  if base = "" then "\x7ble=\"" ++ le ++ "\"\x7d" else String.ofList base.toList.dropLast ++ ",le=\"" ++ le ++ "\"" ++ "\x7d"

def Amount.text (texts : Texts K) : Amount K → String
  | .zero => "0"
  | .counted count => texts.number (texts.ofNat count)
  | .float value => texts.number value
  | .seconds value => texts.seconds value

def Series.text (texts : Texts K) (base : String) : Series K → String
  | .value => base
  | .bucket (some bound) => "_bucket" ++ insertLe base (texts.number (.number bound))
  | .bucket none => "_bucket" ++ insertLe base "+Inf"
  | .sum => "_sum" ++ base
  | .count => "_count" ++ base

def Line.text (texts : Texts K) : Line K → String
  | .help name helpText => "# HELP " ++ name ++ " " ++ helpText
  | .type name kind => "# TYPE " ++ name ++ " " ++ kind
  | .sample name series labels amount => name ++ series.text texts (formatLabels labels) ++ " " ++ amount.text texts

def exportPrometheus [LinearOrder K] (texts : Texts K) (collector : MetricsCollector K) (uptime : Value K) : String :=
  String.intercalate "\n" ((collector.lines uptime).map (Line.text texts)) ++ "\n"

theorem intercalate_snoc (text : String) (rows : List String) (last : String) (some : rows ≠ []) :
    String.intercalate text (rows ++ [last]) = String.intercalate text rows ++ text ++ last := by
  induction rows with
  | nil => exact absurd rfl some
  | cons row rest ih =>
    cases rest with
    | nil => simp [String.intercalate_cons_cons]
    | cons next rest =>
      simp only [List.cons_append,String.intercalate_cons_cons] at ih ⊢
      rw [ih (by simp)]
      simp only [String.append_assoc]

theorem dropLast_brace (text : String) : String.ofList (text ++ "\x7d").toList.dropLast = text := by
  apply String.toList_injective
  rw [String.toList_ofList,String.toList_append,show "\x7d".toList = ['\x7d'] from rfl,List.dropLast_concat]

-- A bucket's labels are written as those of its label set with `le` as the last.
theorem insertLe_last (labels : LabelKey) (le : String) (plain : escapeLabelValue le = le) :
    insertLe (formatLabels labels) le = formatLabels (labels ++ [("le",le)]) := by
  have last : formatLabel ("le",le) = "le=\"" ++ le ++ "\"" := by
    unfold formatLabel
    rw [plain]
    rfl
  unfold insertLe formatLabels
  by_cases empty : labels = []
  · subst empty
    apply String.toList_injective
    simp [last]
  · rw [if_neg empty,if_neg (by simp),if_neg (by simp),List.map_append,List.map_singleton,
      intercalate_snoc "," _ _ (by simpa using empty),last]
    rw [dropLast_brace]
    simp only [String.append_assoc]
    rfl

section Labels
-- Label sets are the same whatever the order of their items.
def SameLabels (left right : Option (Dict String String)) : Prop := (left.getD .empty).entries.Perm (right.getD .empty).entries

instance (left right : Option (Dict String String)) : Decidable (SameLabels left right) :=
  inferInstanceAs (Decidable ((left.getD .empty).entries.Perm (right.getD .empty).entries))

instance pairs_trans : IsTrans (String × String) (fun left right => toLex left ≤ toLex right) := ⟨fun _ _ _ => le_trans⟩
instance pairs_total : Std.Total (fun left right : String × String => toLex left ≤ toLex right) := ⟨fun _ _ => le_total _ _⟩

theorem labelKey_perm (labels : Option (Dict String String)) : (labelKey labels).Perm (labels.getD .empty).entries :=
  List.perm_insertionSort _ _

theorem labelKey_eq_iff (left right : Option (Dict String String)) : labelKey left = labelKey right ↔ SameLabels left right := by
  constructor
  · intro same
    exact (labelKey_perm left).symm.trans (same ▸ labelKey_perm right)
  · intro same
    refine List.Perm.eq_of_pairwise (fun a b _ _ first second => toLex.injective (le_antisymm first second))
      (List.pairwise_insertionSort _ _) (List.pairwise_insertionSort _ _) ?_
    exact (labelKey_perm left).trans (same.trans (labelKey_perm right).symm)
end Labels

section Runs
-- What may be called between the registrations and the export.
inductive Op (K : Type) where
  | registerCounter (name helpText : String)
  | registerHistogram (name helpText : String) (buckets : List K)
  | incrementCounter (name : String) (labels : Option (Dict String String)) (value : Value K)
  | observeHistogram (name : String) (value : Value K) (labels : Option (Dict String String))

def registered (rows : List (String × String × List K)) : MetricsCollector K :=
  rows.foldl (fun collector row => collector.registerHistogram row.1 row.2.1 row.2.2) .init

def Op.observes (name : String) (labels : Option (Dict String String)) : Op K → Option (Value K)
  | .observeHistogram other value given => if other = name ∧ SameLabels given labels then some value else none
  | _ => none

def observed (ops : List (Op K)) (name : String) (labels : Option (Dict String String)) : List (Value K) := ops.filterMap (Op.observes name labels)

theorem registered_empty (rows : List (String × String × List K)) :
    ∀ name histogram, (registered rows).histograms.get name = some histogram → histogram.values = .empty := by
  induction rows using List.reverseRecOn with
  | nil => exact fun _ _ found => by cases found
  | append_singleton rows row ih =>
    have step : registered (rows ++ [row]) = (registered rows).registerHistogram row.1 row.2.1 row.2.2 := by
      unfold registered
      rw [List.foldl_append,List.foldl_cons,List.foldl_nil]
    intro name histogram found
    rw [step] at found
    unfold MetricsCollector.registerHistogram at found
    split at found
    · rw [put_get] at found
      split at found
      · cases found
        rfl
      · exact ih name histogram found
    · exact ih name histogram found

theorem observed_append (before after : List (Op K)) (name : String) (labels : Option (Dict String String)) :
    observed (before ++ after) name labels = observed before name labels ++ observed after name labels := List.filterMap_append

variable [LinearOrder K]

def MetricsCollector.apply (floats : Floats K) (collector : MetricsCollector K) : Op K → MetricsCollector K
  | .registerCounter name helpText => collector.registerCounter name helpText
  | .registerHistogram name helpText buckets => collector.registerHistogram name helpText buckets
  | .incrementCounter name labels value => collector.incrementCounter floats name labels value
  | .observeHistogram name value labels => collector.observeHistogram floats name value labels

def MetricsCollector.run (floats : Floats K) (collector : MetricsCollector K) (ops : List (Op K)) : MetricsCollector K :=
  ops.foldl (MetricsCollector.apply floats) collector

def gather (floats : Floats K) (bounds : List K) (values : List (Value K)) : Data K := values.foldl (Data.add floats bounds) (.fresh floats bounds)

theorem gather_append (floats : Floats K) (bounds : List K) (values : List (Value K)) (value : Value K) :
    gather floats bounds (values ++ [value]) = (gather floats bounds values).add floats bounds value := by
  unfold gather
  rw [List.foldl_append,List.foldl_cons,List.foldl_nil]

variable {floats : Floats K} {name : String} {histogram : Histogram K}

-- What an operation does to a histogram that is there.
def Histogram.after (floats : Floats K) (name : String) (histogram : Histogram K) : Op K → Histogram K
  | .observeHistogram other value labels => if other = name then histogram.observe floats value labels else histogram
  | _ => histogram

theorem apply_get (collector : MetricsCollector K) (op : Op K) (found : collector.histograms.get name = some histogram) :
    (collector.apply floats op).histograms.get name = some (histogram.after floats name op) := by
  cases op with
  | registerCounter other helpText =>
    unfold MetricsCollector.apply MetricsCollector.registerCounter
    dsimp only
    split <;> exact found
  | incrementCounter other labels value =>
    unfold MetricsCollector.apply MetricsCollector.incrementCounter
    dsimp only
    split <;> exact found
  | registerHistogram other helpText buckets =>
    unfold MetricsCollector.apply MetricsCollector.registerHistogram
    dsimp only
    split
    · rename_i free
      rw [put_get,if_neg (by rintro rfl; rw [found] at free; cases free)]
      exact found
    · exact found
  | observeHistogram other value labels =>
    unfold MetricsCollector.apply MetricsCollector.observeHistogram Histogram.after
    dsimp only
    by_cases same : other = name
    · subst same
      rw [if_pos rfl]
      split
      · rename_i present isPresent
        rw [put_get,if_pos rfl]
        cases found.symm.trans isPresent
        rfl
      · rename_i absent
        cases found.symm.trans absent
    · rw [if_neg same]
      split
      · rw [put_get,if_neg same]
        exact found
      · exact found

-- A histogram's table holds, for each label set, what its observations come to.
structure Gathers (floats : Floats K) (name : String) (start histogram : Histogram K) (ops : List (Op K)) : Prop where
  sameName : histogram.name = start.name
  sameBuckets : histogram.buckets = start.buckets
  values : ∀ labels, histogram.values.get (labelKey labels) =
    if observed ops name labels = [] then none else some (gather floats start.buckets (observed ops name labels))

theorem after_gathers {start : Histogram K} {ops : List (Op K)} (gathers : Gathers floats name start histogram ops) (op : Op K) :
    Gathers floats name start (histogram.after floats name op) (ops ++ [op]) := by
  have unmoved : (∀ labels, op.observes name labels = none) → histogram.after floats name op = histogram →
      Gathers floats name start (histogram.after floats name op) (ops ++ [op]) := by
    intro quiet same
    rw [same]
    refine ⟨gathers.sameName,gathers.sameBuckets,fun labels => ?_⟩
    rw [observed_append,show observed [op] name labels = [] by simp [observed,quiet labels],List.append_nil]
    exact gathers.values labels
  cases op with
  | observeHistogram other value given =>
    by_cases same : other = name
    · subst same
      have after : histogram.after floats other (.observeHistogram other value given) = histogram.observe floats value given := if_pos rfl
      rw [after]
      refine ⟨gathers.sameName,gathers.sameBuckets,fun labels => ?_⟩
      unfold Histogram.observe
      dsimp only
      rw [Dict.get_set,observed_append]
      by_cases equal : labelKey given = labelKey labels
      · have last : observed [.observeHistogram other value given] other labels = [value] := by
          simp [observed,Op.observes,(labelKey_eq_iff given labels).mp equal]
        rw [if_pos equal,last,if_neg (by simp),gather_append,equal,gathers.values labels,gathers.sameBuckets]
        split
        · rename_i first
          rw [first]
          rfl
        · rfl
      · have last : observed [.observeHistogram other value given] other labels = [] := by
          simp [observed,Op.observes,mt (labelKey_eq_iff given labels).mpr equal]
        rw [if_neg equal,last,List.append_nil]
        exact gathers.values labels
    · exact unmoved (fun labels => if_neg (fun both => same both.1)) (if_neg same)
  | registerCounter => exact unmoved (fun _ => rfl) rfl
  | registerHistogram => exact unmoved (fun _ => rfl) rfl
  | incrementCounter => exact unmoved (fun _ => rfl) rfl

theorem run_gathers (floats : Floats K) (rows : List (String × String × List K)) {start : Histogram K}
    (found : (registered rows).histograms.get name = some start) (ops : List (Op K)) :
    ∃ histogram, ((registered rows).run floats ops).histograms.get name = some histogram ∧ Gathers floats name start histogram ops := by
  induction ops using List.reverseRecOn with
  | nil =>
    refine ⟨start,found,rfl,rfl,fun labels => ?_⟩
    rw [registered_empty rows name start found]
    rfl
  | append_singleton ops op ih =>
    obtain ⟨histogram,present,gathers⟩ := ih
    refine ⟨histogram.after floats name op,?_,after_gathers gathers op⟩
    unfold MetricsCollector.run
    rw [List.foldl_append,List.foldl_cons,List.foldl_nil]
    exact apply_get _ op present
end Runs

-- Counts go up to where floats have whole numbers apart.
section Counts
theorem nearest_limit : nearest (2 ^ 53) = 2 ^ 53 := by decide +kernel
theorem nearest_past : nearest (2 ^ 53 + 1) = 2 ^ 53 := by decide +kernel

theorem addCounts_one (n : Nat) : addCounts (min n (2 ^ 53)) 1 = min (n + 1) (2 ^ 53) := by
  unfold addCounts
  rcases Nat.lt_trichotomy (n + 1) (2 ^ 53) with below | limit | past
  · rw [Nat.min_eq_left (by omega),Nat.min_eq_left (by omega),nearest_small _ below]
  · rw [Nat.min_eq_left (by omega),Nat.min_eq_left (by omega),limit,nearest_limit]
  · rw [Nat.min_eq_right (by omega),Nat.min_eq_right (by omega),nearest_past]

-- A sum of two counts is the second again if the first is zero, or is lost in rounding.
theorem addCounts_absorbs {less more : Nat} (ordered : less ≤ more) (bounded : more ≤ 2 ^ 53) :
    addCounts less more = more ↔ less = 0 ∨ (less = 1 ∧ more = 2 ^ 53) := by
  unfold addCounts
  constructor
  · intro same
    by_cases small : less + more < 2 ^ 53
    · rw [nearest_small _ small] at same
      omega
    · have close := (roundShift_close (less + more) ((less + more).log2 - 52)).1
      change 2 * (less + more) ≤ 2 * nearest (less + more) + _ at close
      rw [same] at close
      by_cases single : less + more < 2 ^ 54
      · -- The unit is at most 2, so that less than 2 is lost.
        have bits : (less + more).log2 < 54 := (Nat.log2_lt (by omega)).mpr single
        have unit : 2 ^ ((less + more).log2 - 52) ≤ 2 ^ 1 := Nat.pow_le_pow_right (by decide) (by omega)
        by_cases one : less = 1 ∧ more + 1 = 2 ^ 53
        · rw [Nat.add_comm,one.1,one.2,nearest_limit] at same
          omega
        · omega
      · have bits : (less + more).log2 < 55 := (Nat.log2_lt (by omega)).mpr (by omega)
        have unit : 2 ^ ((less + more).log2 - 52) ≤ 2 ^ 2 := Nat.pow_le_pow_right (by decide) (by omega)
        omega
  · rintro (rfl | ⟨rfl,rfl⟩)
    · rw [Nat.zero_add]
      rcases Nat.lt_or_eq_of_le bounded with small | limit
      · exact nearest_small more small
      · rw [limit,nearest_limit]
    · rw [Nat.add_comm,nearest_past]
end Counts

-- What the observations of one label set come to.
section Gathered
variable [LinearOrder K] {floats : Floats K} {bounds : List K} {values : List (Value K)}

def within (values : List (Value K)) (bound : K) : Nat := values.countP (fun value => value.atMost bound)

theorem within_append (before after : List (Value K)) (bound : K) :
    within (before ++ after) bound = within before bound + within after bound := List.countP_append

theorem within_le_length (values : List (Value K)) (bound : K) : within values bound ≤ values.length := List.countP_le_length

theorem within_mono {less more : K} (ordered : less ≤ more) : within values less ≤ within values more := by
  apply List.countP_mono_left
  intro value _ fits
  cases value with
  | nan => cases fits
  | number value => exact decide_eq_true ((of_decide_eq_true fits).trans ordered)

theorem gather_count (bounds : List K) (values : List (Value K)) : (gather floats bounds values).count = min values.length (2 ^ 53) := by
  induction values using List.reverseRecOn with
  | nil => rfl
  | append_singleton values value ih =>
    rw [gather_append,List.length_append,List.length_singleton,← addCounts_one,← ih]
    rfl

theorem fresh_bucket (bounds : List K) (bound : K) : ((Data.fresh floats bounds).buckets.get bound).getD 0 = 0 := by
  unfold Data.fresh
  dsimp only
  induction bounds using List.reverseRecOn with
  | nil => rfl
  | append_singleton bounds last ih =>
    rw [List.foldl_append,List.foldl_cons,List.foldl_nil,Dict.get_set]
    split
    · rfl
    · exact ih

theorem countUp_get (value : Value K) (buckets : Dict K Nat) (bound other : K) :
    ((countUp value buckets bound).get other).getD 0 =
      if bound = other ∧ value.atMost bound then addCounts ((buckets.get other).getD 0) 1 else (buckets.get other).getD 0 := by
  unfold countUp
  by_cases fits : value.atMost bound = true
  · by_cases same : bound = other
    · subst same
      simp [fits]
    · simp [fits,same,Dict.get_set]
  · simp [fits]

-- One pass over the bounds counts each bucket that the value fits in once.
theorem pass_get (value : Value K) (buckets : Dict K Nat) (distinct : bounds.Nodup) (bound : K) :
    ((bounds.foldl (countUp value) buckets).get bound).getD 0 =
      if bound ∈ bounds ∧ value.atMost bound then addCounts ((buckets.get bound).getD 0) 1 else (buckets.get bound).getD 0 := by
  induction bounds generalizing buckets with
  | nil => simp
  | cons first rest ih =>
    obtain ⟨fresh,distinct⟩ := List.nodup_cons.mp distinct
    rw [List.foldl_cons,ih _ distinct,countUp_get]
    by_cases same : first = bound
    · subst same
      simp [fresh]
    · simp [same,Ne.symm same]

theorem gather_bucket (distinct : bounds.Nodup) (values : List (Value K)) {bound : K} (member : bound ∈ bounds) :
    ((gather floats bounds values).buckets.get bound).getD 0 = min (within values bound) (2 ^ 53) := by
  induction values using List.reverseRecOn with
  | nil => exact fresh_bucket bounds bound
  | append_singleton values value ih =>
    rw [gather_append,within_append]
    unfold Data.add
    dsimp only
    rw [pass_get value _ distinct,ih]
    by_cases fits : value.atMost bound = true
    · rw [if_pos ⟨member,fits⟩,addCounts_one,show within [value] bound = 1 by simp [within,fits]]
    · rw [if_neg (fun both => fits both.2),show within [value] bound = 0 by simp [within,fits],Nat.add_zero]

-- The export adds up each bucket and those before it: right only where what is added is lost.
theorem cumulative_exact {buckets : Dict K Nat} {level : K → Nat} (read : ∀ bound ∈ bounds, (buckets.get bound).getD 0 = level bound) (total : Nat) :
    cumulative buckets total bounds = bounds.map (fun bound => (bound,level bound)) ↔
      (total :: bounds.map level).IsChain (fun less more => addCounts less more = more) := by
  induction bounds generalizing total with
  | nil => simp [cumulative]
  | cons bound rest ih =>
    have first := read bound List.mem_cons_self
    have others := fun other member => read other (List.mem_cons_of_mem bound member)
    simp only [cumulative,first,List.map_cons,List.cons.injEq,Prod.mk.injEq,true_and,List.isChain_cons_cons]
    constructor
    · rintro ⟨same,rest⟩
      rw [same] at rest
      exact ⟨same,(ih others _).mp rest⟩
    · rintro ⟨same,rest⟩
      rw [same]
      exact ⟨rfl,(ih others _).mpr rest⟩

-- No observation is within a bound that is not the last; or one is, and so many within the next that
-- it is lost when it is added to them.
def Apart (bounds : List K) (values : List (Value K)) : Prop :=
  bounds.IsChain (fun bound next => within values bound = 0 ∨ (within values bound = 1 ∧ within values next = 2 ^ 53))

instance (bounds : List K) (values : List (Value K)) : Decidable (Apart bounds values) :=
  inferInstanceAs (Decidable (bounds.IsChain (fun bound next => within values bound = 0 ∨ (within values bound = 1 ∧ within values next = 2 ^ 53))))

theorem chain_apart (increasing : bounds.Pairwise (· < ·)) (few : values.length ≤ 2 ^ 53) :
    (0 :: bounds.map (within values)).IsChain (fun less more => addCounts less more = more) ↔ Apart bounds values := by
  have bounded := fun bound => (within_le_length values bound).trans few
  have later : (bounds.map (within values)).IsChain (fun less more => addCounts less more = more) ↔ Apart bounds values := by
    unfold Apart
    induction bounds with
    | nil => simp
    | cons bound rest ih =>
      cases rest with
      | nil => simp
      | cons next rest =>
        have ordered := (List.pairwise_cons.mp increasing).1 next List.mem_cons_self
        rw [List.map_cons,List.map_cons,List.isChain_cons_cons,List.isChain_cons_cons,
          addCounts_absorbs (within_mono ordered.le) (bounded next),← List.map_cons,ih (List.pairwise_cons.mp increasing).2]
  rw [← later]
  cases bounds with
  | nil => simp
  | cons bound rest =>
    rw [List.map_cons,List.isChain_cons_cons]
    exact and_iff_right ((addCounts_absorbs (Nat.zero_le _) (bounded bound)).mpr (.inl rfl))
end Gathered

section Export
variable {name : String} {key : LabelKey}

-- The counts that the export reports of a metric for a label set.
def Line.reported (name : String) (key : LabelKey) : Line K → Option (Series K × Nat)
  | .sample other series labels (.counted count) => if other = name ∧ labels = key then some (series,count) else none
  | _ => none

def reported (lines : List (Line K)) (name : String) (key : LabelKey) : List (Series K × Nat) := lines.filterMap (Line.reported name key)

-- The rows of a report on a label set: its buckets, `+Inf` the last of them, and its count.
def reportRows (buckets : List (K × Nat)) (count : Nat) : List (Series K × Nat) :=
  buckets.map (fun row => (Series.bucket (some row.1),row.2)) ++ [(Series.bucket none,count),(Series.count,count)]

theorem reportRows_injective {left right : List (K × Nat)} {leftCount rightCount : Nat}
    (same : reportRows left leftCount = reportRows right rightCount) : left = right ∧ leftCount = rightCount := by
  obtain ⟨buckets,counts⟩ := List.append_inj' same rfl
  have injective : Function.Injective (fun row : K × Nat => (Series.bucket (some row.1),row.2)) := by
    rintro ⟨bound,count⟩ ⟨other,amount⟩ same
    cases same
    rfl
  refine ⟨List.map_injective_iff.mpr injective buckets,?_⟩
  cases counts
  rfl

theorem counter_reported (counter : Counter K) : reported counter.lines name key = [] := by
  apply List.filterMap_eq_nil_iff.mpr
  intro line member
  unfold Counter.lines at member
  split at member
  · simp only [comments,List.cons_append,List.nil_append,List.mem_cons,List.not_mem_nil,or_false] at member
    rcases member with rfl | rfl | rfl <;> rfl
  · rcases List.mem_append.mp member with comment | sample
    · simp only [comments,List.mem_cons,List.not_mem_nil,or_false] at comment
      rcases comment with rfl | rfl <;> rfl
    · obtain ⟨row,_,rfl⟩ := List.mem_map.mp sample
      rfl

theorem reported_append (before after : List (Line K)) : reported (before ++ after) name key = reported before name key ++ reported after name key :=
  List.filterMap_append

theorem reported_flatMap (items : List α) (lines : α → List (Line K)) :
    reported (items.flatMap lines) name key = items.flatMap (fun item => reported (lines item) name key) := List.filterMap_flatMap

variable [LinearOrder K]

theorem data_reported (bounds : List K) (data : Data K) :
    reported (data.lines name bounds key) name key = reportRows (cumulative data.buckets 0 bounds) data.count := by
  unfold reported Data.lines reportRows
  rw [List.filterMap_append,List.filterMap_map]
  congr 1
  · rw [← List.filterMap_eq_map]
    exact List.filterMap_congr (fun row _ => if_pos ⟨rfl,rfl⟩)
  · simp [Line.reported,List.filterMap_cons]

theorem data_unreported (bounds : List K) (data : Data K) {other : String} {labels : LabelKey} (apart : ¬(other = name ∧ labels = key)) :
    reported (data.lines other bounds labels) name key = [] := by
  apply List.filterMap_eq_nil_iff.mpr
  intro line member
  rcases List.mem_append.mp member with bucket | total
  · obtain ⟨row,_,rfl⟩ := List.mem_map.mp bucket
    exact if_neg apart
  · simp only [List.mem_cons,List.not_mem_nil,or_false] at total
    rcases total with rfl | rfl | rfl
    · exact if_neg apart
    · rfl
    · exact if_neg apart

theorem histogram_unreported (histogram : Histogram K) (other : histogram.name ≠ name) : reported histogram.lines name key = [] := by
  unfold Histogram.lines
  rw [reported_append]
  split
  · apply List.append_eq_nil_iff.mpr
    refine ⟨rfl,List.filterMap_eq_nil_iff.mpr (fun line member => ?_)⟩
    rcases List.mem_append.mp member with bucket | total
    · obtain ⟨bound,_,rfl⟩ := List.mem_map.mp bucket
      rfl
    · simp only [List.mem_cons,List.not_mem_nil,or_false] at total
      rcases total with rfl | rfl | rfl <;> rfl
  · apply List.append_eq_nil_iff.mpr
    refine ⟨rfl,?_⟩
    rw [reported_flatMap]
    exact List.flatMap_eq_nil_iff.mpr (fun row _ => data_unreported histogram.buckets row.2 (fun both => other both.1))

theorem histogram_reported (histogram : Histogram K) {data : Data K} (found : histogram.values.get key = some data) :
    reported histogram.lines histogram.name key = reported (data.lines histogram.name histogram.buckets key) histogram.name key := by
  have some : ¬histogram.values.entries.isEmpty = true := by
    intro empty
    have member := histogram.values.mem_iff.mpr found
    rw [List.isEmpty_iff.mp empty] at member
    cases member
  unfold Histogram.lines
  rw [reported_append,if_neg some,reported_flatMap,histogram.values.flatMap_single found]
  · rfl
  · exact fun row _ apart => data_unreported histogram.buckets row.2 (fun both => apart both.2)

-- The export reports a label set of a histogram in its lines for it, and nowhere else.
theorem lines_reported (collector : MetricsCollector K) (uptime : Value K) {histogram : Histogram K} {data : Data K}
    (found : collector.histograms.get name = some histogram) (held : histogram.values.get key = some data) :
    reported (collector.lines uptime) name key = reportRows (cumulative data.buckets 0 histogram.buckets) data.count := by
  have named := collector.named name histogram found
  have counters : reported (collector.counters.values.flatMap Counter.lines) name key = [] := by
    rw [reported_flatMap]
    exact List.flatMap_eq_nil_iff.mpr (fun counter _ => counter_reported counter)
  have histograms : reported (collector.histograms.values.flatMap Histogram.lines) name key =
      reported (data.lines name histogram.buckets key) name key := by
    subst named
    unfold Dict.values
    rw [reported_flatMap,List.flatMap_map,collector.histograms.flatMap_single found]
    · exact histogram_reported histogram held
    · intro row member apart
      have rowNamed := collector.named row.1 row.2 (collector.histograms.mem_iff.mp member)
      exact histogram_unreported row.2 (fun same => apart (rowNamed.symm.trans same))
  unfold MetricsCollector.lines
  rw [reported_append,reported_append,reported_append,counters,histograms,data_reported,List.nil_append]
  exact (List.append_nil _).trans (List.append_nil _)

-- What the observations of a label set ask of the export.
def report (bounds : List K) (values : List (Value K)) : List (Series K × Nat) :=
  reportRows (bounds.map (fun bound => (bound,within values bound))) values.length

def bucketCount : Series K × Nat → Option Nat
  | (.bucket _,count) => some count
  | _ => none

structure Exact (bounds : List K) (values : List (Value K)) (rows : List (Series K × Nat)) : Prop where
  reported : rows = report bounds values
  nondecreasing : (rows.filterMap bucketCount).Pairwise (· ≤ ·)

theorem report_nondecreasing {bounds : List K} (increasing : bounds.Pairwise (· < ·)) (values : List (Value K)) :
    ((report bounds values).filterMap bucketCount).Pairwise (· ≤ ·) := by
  have counts : (report bounds values).filterMap bucketCount = bounds.map (within values) ++ [values.length] := by
    unfold report reportRows
    rw [List.filterMap_append,List.map_map,List.filterMap_map]
    congr 1
    exact congrFun List.filterMap_eq_map bounds
  rw [counts]
  refine List.pairwise_append.mpr ⟨List.pairwise_map.mpr (increasing.imp (fun less => within_mono less.le)),List.pairwise_singleton _ _,?_⟩
  intro count member total last
  obtain ⟨bound,_,rfl⟩ := List.mem_map.mp member
  rw [List.mem_singleton.mp last]
  exact within_le_length values bound

theorem exact_iff {bounds : List K} (increasing : bounds.Pairwise (· < ·)) {values : List (Value K)} {buckets : Dict K Nat}
    (counted : ∀ bound ∈ bounds, (buckets.get bound).getD 0 = min (within values bound) (2 ^ 53)) :
    Exact bounds values (reportRows (cumulative buckets 0 bounds) (min values.length (2 ^ 53))) ↔
      values.length ≤ 2 ^ 53 ∧ Apart bounds values := by
  have chain (few : values.length ≤ 2 ^ 53) :
      cumulative buckets 0 bounds = bounds.map (fun bound => (bound,within values bound)) ↔ Apart bounds values := by
    have read (bound : K) (member : bound ∈ bounds) : (buckets.get bound).getD 0 = within values bound :=
      (counted bound member).trans (Nat.min_eq_left ((within_le_length values bound).trans few))
    rw [cumulative_exact read,chain_apart increasing few]
  constructor
  · intro exactly
    obtain ⟨sums,total⟩ := reportRows_injective exactly.reported
    have few : values.length ≤ 2 ^ 53 := total ▸ Nat.min_le_right _ _
    exact ⟨few,(chain few).mp sums⟩
  · rintro ⟨few,apart⟩
    rw [(chain few).mpr apart,Nat.min_eq_left few]
    exact ⟨rfl,report_nondecreasing increasing values⟩

-- The export is exact for a label set exactly if its observations lie beyond every bound but the last,
-- and are few enough for a float to count.
theorem export_exact_iff (floats : Floats K) (rows : List (String × String × List K)) (name : String) (start : Histogram K)
    (found : (registered rows).histograms.get name = some start) (increasing : start.buckets.Pairwise (· < ·)) (ops : List (Op K))
    (uptime : Value K) (labels : Option (Dict String String)) (seen : observed ops name labels ≠ []) :
    Exact start.buckets (observed ops name labels) (reported (((registered rows).run floats ops).lines uptime) name (labelKey labels)) ↔
      (observed ops name labels).length ≤ 2 ^ 53 ∧ Apart start.buckets (observed ops name labels) := by
  obtain ⟨histogram,present,gathers⟩ := run_gathers floats rows found ops
  have held := gathers.values labels
  rw [if_neg seen] at held
  have lines := lines_reported _ uptime present held
  rw [gathers.sameBuckets,gather_count] at lines
  rw [lines]
  exact exact_iff increasing (fun bound member => gather_bucket (increasing.imp ne_of_lt) _ member)
end Export

def defaultLatencyBuckets : List Rat := [5/1000,1/100,25/1000,5/100,1/10,1/4,1/2,1,5/2,5,10]

def defaultHistograms : List (String × String × List Rat) :=
  [("asap_request_duration_seconds","Request processing duration in seconds",defaultLatencyBuckets),
    ("asap_handler_duration_seconds","Handler execution duration in seconds",defaultLatencyBuckets),
    ("asap_transport_send_duration_seconds","Transport send duration in seconds",defaultLatencyBuckets)]

def ratFloats : Floats Rat where
  plus
    | .number left,.number right => .number (left + right)
    | _,_ => .nan
  zero := .number 0

def handled (value : Rat) : List (Op Rat) := [.observeHistogram "asap_handler_duration_seconds" (.number value) none]

def handlerRows (value : Rat) : List (Series Rat × Nat) :=
  reported (((registered defaultHistograms).run ratFloats (handled value)).lines (.number 1)) "asap_handler_duration_seconds" (labelKey none)

-- One observation within all the bounds: the last bucket has it eleven times, the last one of all once.
theorem quick_rows : handlerRows (1/1000) = [(.bucket (some (5/1000)),1),(.bucket (some (1/100)),2),(.bucket (some (25/1000)),3),
    (.bucket (some (5/100)),4),(.bucket (some (1/10)),5),(.bucket (some (1/4)),6),(.bucket (some (1/2)),7),(.bucket (some 1),8),
    (.bucket (some (5/2)),9),(.bucket (some 5),10),(.bucket (some 10),11),(.bucket none,1),(.count,1)] := by decide +kernel

theorem quick_inexact : (.bucket (some 10),11) ∈ handlerRows (1/1000) ∧ (.bucket none,1) ∈ handlerRows (1/1000) ∧
    ¬Exact defaultLatencyBuckets (observed (handled (1/1000)) "asap_handler_duration_seconds" none) (handlerRows (1/1000)) := by
  refine ⟨by rw [quick_rows]; decide +kernel,by rw [quick_rows]; decide +kernel,?_⟩
  intro exactly
  have ordered := exactly.nondecreasing
  rw [quick_rows] at ordered
  exact absurd ordered (by decide +kernel)

theorem handler_found : (registered defaultHistograms).histograms.get "asap_handler_duration_seconds" =
    some { name := "asap_handler_duration_seconds",helpText := "Handler execution duration in seconds",buckets := defaultLatencyBuckets } := rfl

theorem export_exact_slow : Exact defaultLatencyBuckets [.number 20] (handlerRows 20) :=
  (export_exact_iff ratFloats defaultHistograms "asap_handler_duration_seconds" _ handler_found (by decide +kernel) (handled 20) (.number 1) none
    (by decide +kernel)).mpr ⟨by decide +kernel,by decide +kernel⟩

end Asap.Metrics
