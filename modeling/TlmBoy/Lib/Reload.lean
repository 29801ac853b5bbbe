import Mathlib.Data.Nat.Count
import Mathlib.Logic.Function.Iterate

/-
  Counters that count up to a top and are then reloaded, in general terms.

  One clock adds 1 to the counter, or loads `m` where the counter would reach `top`. From `v` the
  first reload comes after `top - v` clocks and then one comes every `top - m` clocks:
  `iterate_of_lt` and `iterate_of_le` give the counter after `n` clocks, `reloads_of_lt` and
  `reloads_of_le` the number of reloads among them.
-/

namespace Reload

variable {top m v n : Nat}

/-- The clock. -/
def step (top m v : Nat) : Nat := if v + 1 < top then v + 1 else m

theorem step_of_lt (h : v + 1 < top) : step top m v = v + 1 := if_pos h

theorem step_of_le (h : top ≤ v + 1) : step top m v = m := if_neg (by omega)

/-- The reloads among the first `n` clocks. -/
def reloads (top m v n : Nat) : Nat := Nat.count (fun i => top ≤ (step top m)^[i] v + 1) n

@[simp] theorem reloads_zero (top m v : Nat) : reloads top m v 0 = 0 := rfl

theorem reloads_succ (top m v n : Nat) : reloads top m v (n + 1) =
    reloads top m v n + if top ≤ (step top m)^[n] v + 1 then 1 else 0 :=
  Nat.count_succ ..

/-! ## Before the first reload -/

theorem iterate_of_lt (h : v + n < top) : (step top m)^[n] v = v + n := by
  induction n with
  | zero => rfl
  | succ n ih =>
    rw [Function.iterate_succ_apply', ih (by omega), step_of_lt (by omega)]
    omega

theorem reloads_of_lt (h : v + n < top) : reloads top m v n = 0 := by
  induction n with
  | zero => rfl
  | succ n ih =>
    rw [reloads_succ, ih (by omega), iterate_of_lt (by omega), if_neg (by omega)]

/-! ## From the first reload on -/

/-- The quotient and the remainder of the successor, where the remainder has room. -/
theorem div_mod_add_one_of_lt {k d : Nat} (h : k % d + 1 < d) :
    (k + 1) / d = k / d ∧ (k + 1) % d = k % d + 1 := by
  have hk := Nat.mod_add_div k d
  exact (Nat.div_mod_unique (by omega)).mpr ⟨by omega, h⟩

theorem div_mod_add_one_of_eq {k d : Nat} (h : k % d + 1 = d) :
    (k + 1) / d = k / d + 1 ∧ (k + 1) % d = 0 := by
  have hk := Nat.mod_add_div k d
  refine (Nat.div_mod_unique (by omega)).mpr ⟨?_, by omega⟩
  rw [Nat.mul_add]
  omega

/-- The counter and the reloads after the first reload and `k` more clocks. -/
theorem after_reload (hv : v < top) (hm : m < top) (k : Nat) :
    (step top m)^[top - v + k] v = m + k % (top - m) ∧
      reloads top m v (top - v + k) = 1 + k / (top - m) := by
  induction k with
  | zero =>
    have hlast : (step top m)^[top - v - 1] v = top - 1 := by
      rw [iterate_of_lt (by omega)]
      omega
    rw [show top - v + 0 = (top - v - 1) + 1 by omega, Function.iterate_succ_apply', reloads_succ,
      hlast, step_of_le (by omega), reloads_of_lt (by omega), if_pos (by omega)]
    simp
  | succ k ih =>
    have hlt := Nat.mod_lt k (show 0 < top - m by omega)
    rw [show top - v + (k + 1) = (top - v + k) + 1 by omega, Function.iterate_succ_apply',
      reloads_succ, ih.1, ih.2]
    by_cases hroom : k % (top - m) + 1 < top - m
    · obtain ⟨hdiv, hmod⟩ := div_mod_add_one_of_lt hroom
      rw [step_of_lt (by omega), if_neg (by omega), hdiv, hmod]
      omega
    · obtain ⟨hdiv, hmod⟩ := div_mod_add_one_of_eq (show k % (top - m) + 1 = top - m by omega)
      rw [step_of_le (by omega), if_pos (by omega), hdiv, hmod]
      omega

theorem iterate_of_le (hv : v < top) (hm : m < top) (h : top - v ≤ n) :
    (step top m)^[n] v = m + (n - (top - v)) % (top - m) := by
  obtain ⟨k, rfl⟩ := Nat.exists_eq_add_of_le h
  rw [(after_reload hv hm k).1, Nat.add_sub_cancel_left]

theorem reloads_of_le (hv : v < top) (hm : m < top) (h : top - v ≤ n) :
    reloads top m v n = 1 + (n - (top - v)) / (top - m) := by
  obtain ⟨k, rfl⟩ := Nat.exists_eq_add_of_le h
  rw [(after_reload hv hm k).2, Nat.add_sub_cancel_left]

/-- A counter that starts at 0 and is reloaded with 0. -/
theorem reloads_zero_zero (htop : 0 < top) (n : Nat) : reloads top 0 0 n = n / top := by
  by_cases h : n < top
  · rw [reloads_of_lt (by omega), Nat.div_eq_of_lt h]
  · rw [reloads_of_le htop htop (by omega), Nat.sub_zero,
      Nat.div_eq_sub_div htop (Nat.le_of_not_lt h)]
    omega

/-- `⌊n / p⌋` and `⌊n / (p + 1)⌋` agree while the quotient and the remainder stay below `p`. -/
theorem div_eq_div_succ_iff {p : Nat} (hp : 0 < p) (n : Nat) :
    n / (p + 1) = n / p ↔ n / (p + 1) + n % (p + 1) < p := by
  have hdiv := Nat.mod_add_div n (p + 1)
  rw [Nat.add_mul, Nat.one_mul] at hdiv
  have hsplit : n / p = n / (p + 1) + (n / (p + 1) + n % (p + 1)) / p := by
    rw [← Nat.mul_add_div hp]
    congr 1
    omega
  rw [hsplit, Nat.left_eq_add, Nat.div_eq_zero_iff]
  omega

end Reload
