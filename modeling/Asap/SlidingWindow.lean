import Mathlib

-- The rows of a history that a bounded window with an expiry still holds: of those
-- whose instant is after the clock the last `capacity`.
namespace SlidingWindow
variable {α : Type u} {T : Type v} [LinearOrder T] (stamp : α → T)

def window (capacity : Nat) (clock : T) (history : List α) : List α :=
  (history.filter (fun row => decide (clock < stamp row))).rtake capacity

def Ordered (history : List α) : Prop := history.Pairwise (fun earlier later => stamp earlier ≤ stamp later)

theorem rtake_of_length_le {capacity : Nat} {rows : List α} (short : rows.length ≤ capacity) : rows.rtake capacity = rows := by
  simp [List.rtake,Nat.sub_eq_zero_of_le short]

theorem rtake_cons_of_length_le {capacity : Nat} (first : α) {rows : List α} (long : capacity ≤ rows.length) :
    (first :: rows).rtake capacity = rows.rtake capacity := by
  simp only [List.rtake,List.length_cons]
  rw [Nat.succ_sub long,List.drop_succ_cons]

theorem rtake_rtake_append (capacity : Nat) (rows : List α) (last : α) :
    (rows.rtake capacity ++ [last]).rtake capacity = (rows ++ [last]).rtake capacity := by
  simp only [List.rtake_eq_reverse_take_reverse,List.reverse_append,List.reverse_reverse,List.reverse_singleton,
    List.singleton_append]
  cases capacity with
  | zero => rfl
  | succ n => simp [List.take_take]

-- Where what is kept is a final part of the rows, it does not matter which is cut first.
theorem filter_rtake (keep : α → Bool) (capacity : Nat) (rows : List α)
    (upward : rows.Pairwise (fun earlier later => keep earlier = true → keep later = true)) :
    (rows.rtake capacity).filter keep = (rows.filter keep).rtake capacity := by
  induction rows with
  | nil => simp [List.rtake]
  | cons first rest ih =>
    obtain ⟨after,upward⟩ := List.pairwise_cons.mp upward
    by_cases short : rest.length < capacity
    · have whole : ((first :: rest).filter keep).length ≤ capacity := (List.length_filter_le _ _).trans short
      have fits : (first :: rest).rtake capacity = first :: rest := rtake_of_length_le short
      rw [fits,rtake_of_length_le whole]
    · have long : capacity ≤ rest.length := not_lt.mp short
      rw [rtake_cons_of_length_le first long,ih upward]
      cases kept : keep first with
      | false => rw [List.filter_cons_of_neg (by simp [kept])]
      | true =>
        have all : rest.filter keep = rest := List.filter_eq_self.mpr (fun row member => after row member kept)
        rw [List.filter_cons_of_pos kept,all,rtake_cons_of_length_le first long]

variable {stamp} {capacity : Nat} {clock later : T} {history : List α}

theorem window_later (ordered : Ordered stamp history) (advance : clock ≤ later) :
    (window stamp capacity clock history).filter (fun row => decide (later < stamp row)) =
      window stamp capacity later history := by
  unfold window
  rw [filter_rtake,List.filter_filter]
  · congr 1
    apply List.filter_congr
    intro row _
    by_cases alive : later < stamp row
    · simp [alive,lt_of_le_of_lt advance alive]
    · simp [alive]
  · apply (ordered.filter _).imp
    intro first second le alive
    simp only [decide_eq_true_eq] at alive ⊢
    exact alive.trans_le le

theorem window_append (row : α) (alive : clock < stamp row) :
    (window stamp capacity clock history ++ [row]).rtake capacity = window stamp capacity clock (history ++ [row]) := by
  unfold window
  rw [rtake_rtake_append,List.filter_append,List.filter_singleton]
  simp [alive]

theorem window_subset (member : row ∈ window stamp capacity clock history) : row ∈ history ∧ clock < stamp row := by
  have kept := List.mem_filter.mp (List.mem_of_mem_drop member)
  exact ⟨kept.1,by simpa using kept.2⟩
end SlidingWindow
