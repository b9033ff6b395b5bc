import Asap.Rounding
import Asap.Sla
import Mathlib.Data.List.Sort

-- The 95th percentile of the latencies.
namespace Asap.Percentile
open Rounding Sla

-- 0.95 is this many times 2 ^ -53.
def ninetyFive : Nat := 8556839292003942

-- `int(0.95 * (n - 1)) if n > 1 else 0`.
def p95Index (n : Nat) : Nat := if n > 1 then nearest (ninetyFive * nearest (n - 1)) / 2 ^ 53 else 0

def sortedDurations (durationsMs : List Int) : List Int := durationsMs.mergeSort (fun a b => decide (a ≤ b))

def computeLatencyP95Ms (durationsMs : List Int) : Int :=
  if durationsMs.isEmpty then 0
  else (sortedDurations durationsMs).getD (min (p95Index durationsMs.length) (durationsMs.length - 1)) 0

-- How many of the latencies are at most a value.
def atMost (durationsMs : List Int) (value : Int) : Nat := durationsMs.countP (fun d => decide (d ≤ value))

section Product
variable {m : Nat}

theorem product_bits (positive : 1 ≤ m) (small : m < 2 ^ 47) :
    2 ^ 52 ≤ ninetyFive * m ∧ 2 ^ ((ninetyFive * m).log2 - 52) ≤ 2 ^ 47 := by
  have large : 2 ^ 52 ≤ ninetyFive * m := by
    unfold ninetyFive
    omega
  refine ⟨large,Nat.pow_le_pow_right (by decide) ?_⟩
  have bound : (ninetyFive * m).log2 < 100 := by
    apply (Nat.log2_lt (by omega)).mpr
    unfold ninetyFive
    omega
  omega

-- As long as the lists fit in memory, the float product is truncated to the exact quotient.
theorem product_exact (positive : 1 ≤ m) (small : m < 2 ^ 47) : nearest (ninetyFive * m) / 2 ^ 53 = 19 * m / 20 := by
  obtain ⟨large,unit⟩ := product_bits positive small
  obtain ⟨low,high⟩ := unit_spec (ninetyFive * m) large
  have close := roundShift_close (ninetyFive * m) ((ninetyFive * m).log2 - 52)
  have split := Nat.div_add_mod (19 * m) 20
  have rest := Nat.mod_lt (19 * m) (by decide : 0 < 20)
  by_cases whole : 19 * m % 20 = 0
  · -- The product is less than half a unit below a whole number, which is a number of units.
    have bits : (ninetyFive * m).log2 - 52 ≤ 53 := by
      have power := (Nat.pow_le_pow_iff_right (by decide : 1 < 2)).mp unit
      omega
    have units : 19 * m / 20 * 2 ^ 53 = 19 * m / 20 * 2 ^ (53 - ((ninetyFive * m).log2 - 52)) * 2 ^ ((ninetyFive * m).log2 - 52) := by
      rw [Nat.mul_assoc,← Nat.pow_add,Nat.sub_add_cancel bits]
    have rounded := roundShift_unique (ninetyFive * m) ((ninetyFive * m).log2 - 52) (19 * m / 20 * 2 ^ (53 - ((ninetyFive * m).log2 - 52)))
      (by rw [← units]; unfold ninetyFive at *; omega) (by rw [← units]; unfold ninetyFive at *; omega)
    rw [nearest,rounded,← units]
    exact Nat.mul_div_cancel _ (by decide)
  · have lower : 19 * m / 20 * 2 ^ 53 ≤ nearest (ninetyFive * m) := by
      unfold nearest
      unfold ninetyFive at *
      omega
    have upper : nearest (ninetyFive * m) < (19 * m / 20 + 1) * 2 ^ 53 := by
      unfold nearest
      unfold ninetyFive at *
      omega
    have least := (Nat.le_div_iff_mul_le (by decide : 0 < 2 ^ 53)).mpr lower
    have most := (Nat.div_lt_iff_lt_mul (by decide : 0 < 2 ^ 53)).mpr upper
    omega
end Product

theorem p95Index_exact {n : Nat} (small : n ≤ 2 ^ 47) : p95Index n = 19 * (n - 1) / 20 := by
  unfold p95Index
  split
  · rw [nearest_small (n - 1) (by omega),product_exact (by omega) (by omega)]
  · rename_i single
    rw [show n - 1 = 0 by omega]

section Ranks
variable {durationsMs : List Int}

theorem sorted_perm (durationsMs : List Int) : (sortedDurations durationsMs).Perm durationsMs := List.mergeSort_perm _ _

theorem sorted_pairwise (durationsMs : List Int) : (sortedDurations durationsMs).Pairwise (fun a b => a ≤ b) := by
  have ordered : (sortedDurations durationsMs).Pairwise (fun a b => decide (a ≤ b) = true) := by
    apply List.pairwise_mergeSort
    · intro a b c first second
      exact decide_eq_true ((of_decide_eq_true first).trans (of_decide_eq_true second))
    · intro a b
      simp only [Bool.or_eq_true,decide_eq_true_eq]
      exact Int.le_total a b
  exact ordered.imp (fun less => of_decide_eq_true less)

theorem sorted_length (durationsMs : List Int) : (sortedDurations durationsMs).length = durationsMs.length := List.length_mergeSort _

-- The sorted list only depends on how often each latency occurs.
theorem sorted_same {left right : List Int} (same : left.Perm right) : sortedDurations left = sortedDurations right :=
  ((sorted_perm left).trans (same.trans (sorted_perm right).symm)).eq_of_pairwise
    (fun _ _ _ _ first second => Int.le_antisymm first second) (sorted_pairwise left) (sorted_pairwise right)

-- In a sorted list the elements up to an index are at most the one there.
theorem index_atMost {sorted : List Int} (ordered : sorted.Pairwise (fun a b => a ≤ b)) {i : Nat} (inside : i < sorted.length) :
    i + 1 ≤ atMost sorted sorted[i] := by
  have whole : atMost (sorted.take (i + 1)) sorted[i] = (sorted.take (i + 1)).length := by
    apply List.countP_eq_length.mpr
    intro d member
    obtain ⟨j,bound,rfl⟩ := List.mem_iff_getElem.mp member
    rw [List.length_take] at bound
    rw [List.getElem_take,decide_eq_true_eq]
    rcases Nat.lt_or_ge j i with before | reached
    · exact List.pairwise_iff_getElem.mp ordered j i (by omega) inside before
    · have here : j = i := by omega
      simp only [here,Int.le_refl]
  have part : atMost (sorted.take (i + 1)) sorted[i] ≤ atMost sorted sorted[i] := (List.take_sublist _ _).countP_le
  rw [whole,List.length_take] at part
  omega

theorem atMost_sorted (durationsMs : List Int) (value : Int) : atMost (sortedDurations durationsMs) value = atMost durationsMs value :=
  (sorted_perm durationsMs).countP_eq _

-- The element at the index, in the sorted list.
theorem compute_spec (given : durationsMs ≠ []) : ∃ inside : min (p95Index durationsMs.length) (durationsMs.length - 1) < (sortedDurations durationsMs).length,
    computeLatencyP95Ms durationsMs = (sortedDurations durationsMs)[min (p95Index durationsMs.length) (durationsMs.length - 1)] := by
  have positive := List.length_pos_of_ne_nil given
  have inside : min (p95Index durationsMs.length) (durationsMs.length - 1) < (sortedDurations durationsMs).length := by
    rw [sorted_length]
    omega
  refine ⟨inside,?_⟩
  unfold computeLatencyP95Ms
  rw [List.isEmpty_eq_false_iff.mpr given,if_neg Bool.false_ne_true,List.getD_eq_getElem?_getD,List.getElem?_eq_getElem inside,
    Option.getD_some]

theorem compute_mem (given : durationsMs ≠ []) : computeLatencyP95Ms durationsMs ∈ durationsMs := by
  obtain ⟨inside,found⟩ := compute_spec given
  rw [found]
  exact (sorted_perm durationsMs).mem_iff.mp (List.getElem_mem inside)

theorem compute_perm {left right : List Int} (same : left.Perm right) : computeLatencyP95Ms left = computeLatencyP95Ms right := by
  unfold computeLatencyP95Ms
  rw [sorted_same same,same.length_eq,same.isEmpty_eq]

theorem compute_rank (given : durationsMs ≠ []) :
    min (p95Index durationsMs.length + 1) durationsMs.length ≤ atMost durationsMs (computeLatencyP95Ms durationsMs) := by
  obtain ⟨inside,found⟩ := compute_spec given
  have rank := index_atMost (sorted_pairwise durationsMs) inside
  rw [← found,atMost_sorted] at rank
  have positive := List.length_pos_of_ne_nil given
  omega
end Ranks

section Aggregate
-- The mean weighted by the tasks, or the plain one where there are none, rounded to two digits.
variable (weighted : List (Rat × Nat) → Rat)

def aggregateSlaMetrics : List SlaMetrics → Option SlaMetrics
  | [] => none
  | first :: rest => some {
      agentId := first.agentId
      periodStart := rest.foldl (fun best m => if m.periodStart.val.instant < best.val.instant then m.periodStart else best) first.periodStart
      periodEnd := rest.foldl (fun best m => if best.val.instant < m.periodEnd.val.instant then m.periodEnd else best) first.periodEnd
      uptimePercent := weighted ((first :: rest).map (fun m => (m.uptimePercent,m.tasksCompleted + m.tasksFailed)))
      latencyP95Ms := (computeLatencyP95Ms ((first :: rest).map (fun m => (m.latencyP95Ms : Int)))).toNat
      errorRatePercent := weighted ((first :: rest).map (fun m => (m.errorRatePercent,m.tasksCompleted + m.tasksFailed)))
      tasksCompleted := ((first :: rest).map SlaMetrics.tasksCompleted).sum
      tasksFailed := ((first :: rest).map SlaMetrics.tasksFailed).sum}

-- The latency of an aggregation is one that was reported.
theorem aggregate_latency {metrics : List SlaMetrics} (computed : aggregateSlaMetrics weighted metrics = some aggregated) :
    aggregated.latencyP95Ms ∈ metrics.map SlaMetrics.latencyP95Ms := by
  cases metrics with
  | nil => cases computed
  | cons first rest =>
    cases computed
    have given : (first :: rest).map (fun m => (m.latencyP95Ms : Int)) ≠ [] := by simp
    have reported := compute_mem given
    obtain ⟨m,member,same⟩ := List.mem_map.mp reported
    refine List.mem_map.mpr ⟨m,member,?_⟩
    rw [← same,Int.toNat_natCast]
end Aggregate

theorem latency_p95_rank (durationsMs : List Int) (given : durationsMs ≠ []) :
    computeLatencyP95Ms durationsMs ∈ durationsMs ∧
    (∀ other, durationsMs.Perm other → computeLatencyP95Ms other = computeLatencyP95Ms durationsMs) ∧
    min (p95Index durationsMs.length + 1) durationsMs.length ≤ atMost durationsMs (computeLatencyP95Ms durationsMs) ∧
    (durationsMs.length ≤ 2 ^ 47 →
      19 * (durationsMs.length - 1) < 20 * atMost durationsMs (computeLatencyP95Ms durationsMs) ∧
      (durationsMs.length % 20 ≤ 1 → 19 * durationsMs.length ≤ 20 * atMost durationsMs (computeLatencyP95Ms durationsMs))) := by
  have rank := compute_rank given
  have positive := List.length_pos_of_ne_nil given
  refine ⟨compute_mem given,fun other same => (compute_perm same).symm,rank,fun small => ?_⟩
  rw [p95Index_exact small] at rank
  have twentieths := Nat.div_add_mod durationsMs.length 20
  refine ⟨by omega,fun round => ?_⟩
  rcases Nat.le_one_iff_eq_zero_or_eq_one.mp round with none | one
  · rw [none] at twentieths
    omega
  · rw [one] at twentieths
    omega

theorem latency_p95_rank_three : computeLatencyP95Ms [300,100,200] ∈ ([300,100,200] : List Int) ∧
    19 * ([300,100,200].length - 1) < 20 * atMost [300,100,200] (computeLatencyP95Ms [300,100,200]) :=
  have ranked := latency_p95_rank [300,100,200] (by decide)
  ⟨ranked.1,(ranked.2.2.2 (by decide)).1⟩

-- Of two latencies it is the lesser.
theorem latency_p95_half : ¬ 95 * [50,200].length ≤ 100 * atMost [50,200] (computeLatencyP95Ms [50,200]) := by
  have ordered : sortedDurations [50,200] = [50,200] := List.mergeSort_of_pairwise (by decide)
  have index : p95Index 2 = 0 := p95Index_exact (by decide)
  have least : computeLatencyP95Ms [50,200] = 50 := by
    unfold computeLatencyP95Ms
    rw [ordered]
    simp [index]
  rw [least]
  decide

end Asap.Percentile
