import Mathlib.Data.Finset.Card
import Mathlib.Data.Nat.Prime.Basic
import Mathlib.Dynamics.PeriodicPts.Lemmas

/-
  The period of a point under a map, in general terms.

  A number of steps that leads back to the point is its least period if no quotient of it by a
  prime does (`minimalPeriod_eq_of_quotients`). A map that stays within as many points as the
  period is long passes through all of them (`exists_iterate_eq`). `strictIterate` iterates a map
  on the natural numbers and evaluates every value before the next step, so that a long run of it
  can be computed.
-/

namespace Period

open Function

variable {α : Type} {f : α → α} {x : α} {n : ℕ}

theorem minimalPeriod_eq_of_quotients (hn : f^[n] x = x)
    (hquotient : ∀ p, p.Prime → p ∣ n → f^[n / p] x ≠ x) : minimalPeriod f x = n := by
  obtain ⟨k, hk⟩ : minimalPeriod f x ∣ n := IsPeriodicPt.minimalPeriod_dvd hn
  by_contra hne
  -- A prime of the cofactor would leave a shorter period.
  obtain ⟨p, hp, q, rfl⟩ := Nat.exists_prime_and_dvd (n := k) fun hone => hne (by
    rw [hk, hone, Nat.mul_one])
  have hdiv : n / p = minimalPeriod f x * q := by
    rw [hk, Nat.mul_left_comm, Nat.mul_div_cancel_left _ hp.pos]
  apply hquotient p hp ⟨minimalPeriod f x * q, by rw [hk, Nat.mul_left_comm]⟩
  rw [hdiv]
  exact (isPeriodicPt_minimalPeriod f x).mul_const q

theorem iterate_eq_iff (hpos : 0 < minimalPeriod f x) (i j : ℕ) :
    f^[i] x = f^[j] x ↔ i % minimalPeriod f x = j % minimalPeriod f x := by
  rw [← iterate_mod_minimalPeriod_eq (n := i), ← iterate_mod_minimalPeriod_eq (n := j)]
  exact iterate_eq_iterate_iff_of_lt_minimalPeriod (Nat.mod_lt i hpos) (Nat.mod_lt j hpos)

/-- The points within which the map stays are all passed through if there are no more of them than
    the period is long. -/
theorem exists_iterate_eq [DecidableEq α] {s : Finset α} (hs : ∀ i, f^[i] x ∈ s)
    (hcard : s.card ≤ minimalPeriod f x) {y : α} (hy : y ∈ s) : ∃ i, f^[i] x = y := by
  have hsub : (Finset.range (minimalPeriod f x)).image (f^[·] x) ⊆ s := by
    intro z hz
    obtain ⟨i, -, rfl⟩ := Finset.mem_image.mp hz
    exact hs i
  have hinj : Set.InjOn (f^[·] x) (Finset.range (minimalPeriod f x)) := by
    rw [Finset.coe_range]
    exact iterate_injOn_Iio_minimalPeriod
  have hall : (Finset.range (minimalPeriod f x)).image (f^[·] x) = s := by
    apply Finset.eq_of_subset_of_card_le hsub
    rw [Finset.card_image_of_injOn hinj, Finset.card_range]
    exact hcard
  rw [← hall] at hy
  obtain ⟨i, -, hi⟩ := Finset.mem_image.mp hy
  exact ⟨i, hi⟩

/-! ## Evaluation -/

/-- `n` steps of `f`. The match makes a numeral of each value. -/
def strictIterate (f : ℕ → ℕ) : ℕ → ℕ → ℕ
  | 0, m => m
  | n + 1, m =>
    match f m with
    | 0 => strictIterate f n 0
    | k + 1 => strictIterate f n (k + 1)

theorem strictIterate_eq (f : ℕ → ℕ) (n m : ℕ) : strictIterate f n m = f^[n] m := by
  induction n generalizing m with
  | zero => rfl
  | succ n ih =>
    rw [iterate_succ_apply, ← ih, strictIterate]
    cases f m <;> rfl

end Period
