/-!
The integer square root: the greatest number whose square does not exceed a given one.
-/

namespace VoxelGrid

/-- One binary digit of the root at a time, from the root of a quarter of the number. -/
def isqrt (n : Nat) : Nat :=
  if n = 0 then 0
  else
    let r := 2 * isqrt (n / 4)
    if (r + 1) * (r + 1) ≤ n then r + 1 else r
termination_by n
decreasing_by omega

theorem isqrt_sq_le (n : Nat) : isqrt n * isqrt n ≤ n := by
  fun_induction isqrt n with
  | case1 => simp
  | case2 => assumption
  | case3 n _ _ _ ih => grind

theorem lt_isqrt_succ_sq (n : Nat) : n < (isqrt n + 1) * (isqrt n + 1) := by
  fun_induction isqrt n with
  | case1 => decide
  | case2 n _ _ _ ih | case3 n _ _ _ ih =>
    have h : n < 4 * ((isqrt (n / 4) + 1) * (isqrt (n / 4) + 1)) := by omega
    grind

theorem isqrt_eq_of_sq_le {n r : Nat} (hle : r * r ≤ n) (hlt : n < (r + 1) * (r + 1)) :
    isqrt n = r := by
  have hlow : isqrt n < r + 1 :=
    Nat.mul_self_lt_mul_self_iff.1 (Nat.lt_of_le_of_lt (isqrt_sq_le n) hlt)
  have hhigh : r < isqrt n + 1 :=
    Nat.mul_self_lt_mul_self_iff.1 (Nat.lt_of_le_of_lt hle (lt_isqrt_succ_sq n))
  omega

end VoxelGrid
