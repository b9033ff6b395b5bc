import Mathlib.Data.String.Basic

-- Tables of SQLite as lists of rows, in the order of their rowids.
namespace SqlTable

-- What an INTEGER column holds and a Python int can be bound to.
def fitsInteger (n : Int) : Bool := decide (-9223372036854775808 ≤ n ∧ n ≤ 9223372036854775807)

section Replace
variable {ρ : Type u} {κ : Type v} (key : ρ → κ)

def Keyed (rows : List ρ) : Prop := rows.Pairwise (fun left right => key left ≠ key right)

theorem Keyed.same {rows : List ρ} (keyed : Keyed key rows) {left right : ρ} (first : left ∈ rows) (second : right ∈ rows)
    (same : key left = key right) : left = right := by
  induction rows with
  | nil => cases first
  | cons row rest ih =>
    obtain ⟨apart,keyed⟩ := List.pairwise_cons.mp keyed
    rcases List.mem_cons.mp first with rfl | inside
    · rcases List.mem_cons.mp second with rfl | later
      · rfl
      · exact absurd same (apart right later)
    · rcases List.mem_cons.mp second with rfl | later
      · exact absurd same.symm (apart left inside)
      · exact ih keyed inside later

variable [DecidableEq κ]

-- INSERT OR REPLACE: the row that had the key goes, the new one takes the next rowid.
def insertOrReplace (row : ρ) (rows : List ρ) : List ρ := rows.filter (fun old => decide (key old ≠ key row)) ++ [row]

theorem mem_insertOrReplace (row other : ρ) (rows : List ρ) :
    other ∈ insertOrReplace key row rows ↔ (other ∈ rows ∧ key other ≠ key row) ∨ other = row := by
  simp [insertOrReplace]

theorem insertOrReplace_fresh {row : ρ} {rows : List ρ} (fresh : ∀ old ∈ rows, key old ≠ key row) :
    insertOrReplace key row rows = rows ++ [row] := by
  unfold insertOrReplace
  rw [List.filter_eq_self.mpr]
  intro old member
  exact decide_eq_true (fresh old member)

theorem insertOrReplace_keyed {rows : List ρ} (keyed : Keyed key rows) (row : ρ) : Keyed key (insertOrReplace key row rows) := by
  apply List.pairwise_append.mpr
  refine ⟨keyed.filter _,List.pairwise_singleton _ _,?_⟩
  intro left kept right new
  have different := (List.mem_filter.mp kept).2
  rw [List.mem_singleton.mp new]
  simpa using different

theorem Keyed.find {rows : List ρ} (keyed : Keyed key rows) {row : ρ} (member : row ∈ rows) :
    rows.find? (fun other => decide (key other = key row)) = some row := by
  cases found : rows.find? (fun other => decide (key other = key row)) with
  | none =>
    have absent := List.find?_eq_none.mp found row member
    simp at absent
  | some other =>
    have same : key other = key row := by simpa using List.find?_some found
    rw [keyed.same key (List.mem_of_find?_eq_some found) member same]
end Replace

-- ORDER BY; rows with equal keys stay in the order of their rowids.
section Order
variable {ρ : Type u}

def orderBy (le : ρ → ρ → Bool) (rows : List ρ) : List ρ := rows.mergeSort le

def orderByInt (column : ρ → Int) (rows : List ρ) : List ρ := orderBy (fun left right => decide (column left ≤ column right)) rows

def orderByIntDesc (column : ρ → Int) (rows : List ρ) : List ρ := orderBy (fun left right => decide (column right ≤ column left)) rows

theorem mem_orderBy (le : ρ → ρ → Bool) (rows : List ρ) (row : ρ) : row ∈ orderBy le rows ↔ row ∈ rows := List.mem_mergeSort

theorem orderByIntDesc_sorted (column : ρ → Int) (rows : List ρ) :
    (orderByIntDesc column rows).Pairwise (fun left right => column right ≤ column left) := by
  have sorted : (orderByIntDesc column rows).Pairwise (fun left right => decide (column right ≤ column left) = true) := by
    apply List.pairwise_mergeSort
    · intro a b c first second
      simp only [decide_eq_true_eq] at *
      omega
    · intro a b
      simp only [Bool.or_eq_true,decide_eq_true_eq]
      omega
  exact sorted.imp (fun ordered => by simpa using ordered)

-- The first row in descending order has the greatest value.
theorem orderByIntDesc_head (column : ρ → Int) {rows rest : List ρ} {first : ρ} (shape : orderByIntDesc column rows = first :: rest) :
    first ∈ rows ∧ ∀ row ∈ rows, column row ≤ column first := by
  have sorted := orderByIntDesc_sorted column rows
  have members := mem_orderBy (fun left right => decide (column right ≤ column left)) rows
  change ∀ row, row ∈ orderByIntDesc column rows ↔ row ∈ rows at members
  rw [shape] at sorted members
  refine ⟨(members first).mp List.mem_cons_self,?_⟩
  intro row member
  rcases List.mem_cons.mp ((members row).mpr member) with rfl | later
  · exact Int.le_refl _
  · exact (List.pairwise_cons.mp sorted).1 row later

-- Sorting forgets the order there was where no two rows are equal in the new one.
theorem orderBy_perm {le : ρ → ρ → Bool} (trans : ∀ a b c, le a b = true → le b c = true → le a c = true)
    (total : ∀ a b, (le a b || le b a) = true) {left right : List ρ} (same : left.Perm right)
    (apart : ∀ a ∈ left, ∀ b ∈ left, le a b = true → le b a = true → a = b) : orderBy le left = orderBy le right := by
  have shuffled : (orderBy le left).Perm (orderBy le right) := ((List.mergeSort_perm left le).trans same).trans (List.mergeSort_perm right le).symm
  apply List.Perm.eq_of_pairwise _ (List.pairwise_mergeSort trans total left) (List.pairwise_mergeSort trans total right) shuffled
  intro a b first second
  exact apart a (List.mem_mergeSort.mp first) b (same.mem_iff.mpr (List.mem_mergeSort.mp second))

theorem sorted_eq {left right : List Int} (same : left.Perm right) :
    left.mergeSort (fun a b => decide (a ≤ b)) = right.mergeSort (fun a b => decide (a ≤ b)) := by
  apply orderBy_perm _ _ same
  · intro a _ b _ first second
    simp only [decide_eq_true_eq] at first second
    omega
  · intro a b c first second
    simp only [decide_eq_true_eq] at *
    omega
  · intro a b
    simp only [Bool.or_eq_true,decide_eq_true_eq]
    omega

-- The sorted values of a column.
theorem orderByInt_column (column : ρ → Int) (rows : List ρ) :
    (orderByInt column rows).map column = (rows.map column).mergeSort (fun a b => decide (a ≤ b)) := by
  apply List.map_mergeSort
  intro a _ b _
  rfl

-- TEXT columns compare as texts.
def orderByText (column : ρ → String) (rows : List ρ) : List ρ := orderBy (fun left right => decide (column left ≤ column right)) rows

theorem orderByText_perm (column : ρ → String) {left right : List ρ} (same : left.Perm right)
    (apart : ∀ a ∈ left, ∀ b ∈ left, column a = column b → a = b) : orderByText column left = orderByText column right := by
  apply orderBy_perm _ _ same
  · intro a first b second less more
    simp only [decide_eq_true_eq] at less more
    exact apart a first b second (le_antisymm less more)
  · intro a b c first second
    simp only [decide_eq_true_eq] at *
    exact le_trans first second
  · intro a b
    simp only [Bool.or_eq_true,decide_eq_true_eq]
    exact le_total _ _

-- LIMIT and OFFSET; a negative limit is no limit.
def limitOffset (limit offset : Int) (rows : List ρ) : List ρ :=
  if limit < 0 then rows.drop offset.toNat else (rows.drop offset.toNat).take limit.toNat

theorem limitOffset_map (limit offset : Int) (f : ρ → σ) (rows : List ρ) :
    limitOffset limit offset (rows.map f) = (limitOffset limit offset rows).map f := by
  unfold limitOffset
  split
  · rw [List.map_drop]
  · rw [List.map_take,List.map_drop]
end Order

end SqlTable
