import Mathlib

-- Rounding to the nearest, to the even one of two: quotients by a power of two, and naturals to
-- 53 significant bits, as floats of 64 bits keep them.
namespace Asap.Rounding

-- `n / 2 ^ bits`.
def roundShift (n bits : Nat) : Nat :=
  if 2 * (n % 2 ^ bits) < 2 ^ bits ∨ (2 * (n % 2 ^ bits) = 2 ^ bits ∧ n / 2 ^ bits % 2 = 0) then n / 2 ^ bits else n / 2 ^ bits + 1

def nearest (n : Nat) : Nat := roundShift n (n.log2 - 52) * 2 ^ (n.log2 - 52)

-- A quotient is rounded by half a unit at most.
theorem roundShift_close (n bits : Nat) :
    2 * n ≤ 2 * (roundShift n bits * 2 ^ bits) + 2 ^ bits ∧ 2 * (roundShift n bits * 2 ^ bits) ≤ 2 * n + 2 ^ bits := by
  have split := Nat.div_add_mod n (2 ^ bits)
  have small := Nat.mod_lt n (Nat.two_pow_pos bits)
  unfold roundShift
  rw [Nat.mul_comm] at split
  split
  · rename_i down
    have half : 2 * (n % 2 ^ bits) ≤ 2 ^ bits := by
      rcases down with less | ⟨same,_⟩
      · exact less.le
      · exact same.le
    omega
  · rename_i up
    have half : 2 ^ bits ≤ 2 * (n % 2 ^ bits) := Nat.le_of_not_lt (fun less => up (.inl less))
    rw [Nat.add_mul,Nat.one_mul]
    omega

-- What lies less than half a unit from a whole number of units is rounded to it.
theorem roundShift_unique (n bits whole : Nat) (below : 2 * n < 2 * (whole * 2 ^ bits) + 2 ^ bits)
    (above : 2 * (whole * 2 ^ bits) < 2 * n + 2 ^ bits) : roundShift n bits = whole := by
  obtain ⟨first,second⟩ := roundShift_close n bits
  have less : roundShift n bits * 2 ^ bits < (whole + 1) * 2 ^ bits := by
    rw [Nat.add_mul,Nat.one_mul]
    omega
  have more : whole * 2 ^ bits < (roundShift n bits + 1) * 2 ^ bits := by
    rw [Nat.add_mul,Nat.one_mul]
    omega
  have upper := Nat.lt_of_mul_lt_mul_right less
  have lower := Nat.lt_of_mul_lt_mul_right more
  omega

theorem nearest_small (n : Nat) (small : n < 2 ^ 53) : nearest n = n := by
  have bits : n.log2 ≤ 52 := by
    by_cases zero : n = 0
    · simp [zero]
    · exact Nat.le_of_lt_succ ((Nat.log2_lt zero).mpr small)
  have none : n.log2 - 52 = 0 := Nat.sub_eq_zero_of_le bits
  have exact := roundShift_unique n 0 n (by omega) (by omega)
  rw [nearest,none,exact,Nat.pow_zero,Nat.mul_one]

-- From 2 ^ 52 on, the unit is the power of two that leaves 53 bits.
theorem unit_spec (n : Nat) (large : 2 ^ 52 ≤ n) : 2 ^ 52 * 2 ^ (n.log2 - 52) ≤ n ∧ n < 2 ^ 53 * 2 ^ (n.log2 - 52) := by
  have positive : n ≠ 0 := by
    rintro rfl
    exact absurd large (by decide)
  have bits : 52 ≤ n.log2 := (Nat.le_log2 positive).mpr large
  rw [← Nat.pow_add,← Nat.pow_add]
  refine ⟨?_,?_⟩
  · rw [Nat.add_sub_cancel' bits]
    exact Nat.log2_self_le positive
  · rw [show 53 + (n.log2 - 52) = n.log2 + 1 by omega]
    exact Nat.lt_log2_self

end Asap.Rounding
