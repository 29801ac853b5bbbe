import Mathlib.Data.Nat.Digits.Defs

/-
  Addition and subtraction digit by digit in any base, in general terms.

  A `Chain` hands a carry from digit to digit, least significant first. `Chain.sum` and
  `Chain.difference` say what the digits and the last carry are when each digit is a sum or a
  difference with carry. A chain of subtractions is a chain of additions read backwards: `zs` is
  `xs - ys` if `xs` is `zs + ys`, and the borrows are the carries.
-/

namespace CarryChain

open Nat (ofDigits)

/-- `R x y c z c'` makes the digit `z` and the carry `c'` of two digits and a carry. -/
inductive Chain (R : ℕ → ℕ → ℕ → ℕ → ℕ → Prop) : List ℕ → List ℕ → ℕ → List ℕ → ℕ → Prop
  | nil (c : ℕ) : Chain R [] [] c [] c
  | cons {x y z c c₁ c' : ℕ} {xs ys zs : List ℕ} (hdigit : R x y c z c₁)
      (hrest : Chain R xs ys c₁ zs c') : Chain R (x :: xs) (y :: ys) c (z :: zs) c'

/-- `z` and `c'` are `x + y + c`. -/
def SumDigit (b x y c z c' : ℕ) : Prop := x + y + c = z + b * c'

/-- `z` is `x - y - c`, with `b` borrowed `c'` times. -/
def DifferenceDigit (b x y c z c' : ℕ) : Prop := z + y + c = x + b * c'

variable {b c c' : ℕ} {xs ys zs : List ℕ}

theorem Chain.reverse (h : Chain (DifferenceDigit b) xs ys c zs c') :
    Chain (SumDigit b) zs ys c xs c' := by
  induction h with
  | nil c => exact .nil c
  | cons hdigit _ ih => exact .cons hdigit ih

theorem Chain.length {R : ℕ → ℕ → ℕ → ℕ → ℕ → Prop} (h : Chain R xs ys c zs c') :
    xs.length = zs.length := by
  induction h with
  | nil => rfl
  | cons _ _ ih => exact congrArg (· + 1) ih

/-- The digits and the last carry are the whole sum. -/
theorem Chain.value (h : Chain (SumDigit b) xs ys c zs c') :
    ofDigits b xs + ofDigits b ys + c = ofDigits b zs + b ^ zs.length * c' := by
  induction h with
  | nil c => simp
  | @cons x y z c c₁ c' xs ys zs hdigit hrest ih =>
    rw [Nat.ofDigits_cons, Nat.ofDigits_cons, Nat.ofDigits_cons, List.length_cons, pow_succ']
    calc x + b * ofDigits b xs + (y + b * ofDigits b ys) + c
        = x + y + c + b * (ofDigits b xs + ofDigits b ys) := by ring
      _ = z + b * (ofDigits b xs + ofDigits b ys + c₁) := by rw [hdigit]; ring
      _ = z + b * ofDigits b zs + b * b ^ zs.length * c' := by rw [ih]; ring

/-- The digits of the sum, and whether it is too long for them. -/
theorem Chain.sum (h : Chain (SumDigit b) xs ys 0 zs c') (hb : 1 < b) (hzs : ∀ z ∈ zs, z < b) :
    ofDigits b zs = (ofDigits b xs + ofDigits b ys) % b ^ zs.length ∧
      (c' = 0 ↔ ofDigits b xs + ofDigits b ys < b ^ zs.length) := by
  have hvalue := h.value
  have hlt := Nat.ofDigits_lt_base_pow_length hb hzs
  rw [Nat.add_zero] at hvalue
  rw [hvalue, Nat.add_mul_mod_self_left, Nat.mod_eq_of_lt hlt]
  refine ⟨rfl, ?_⟩
  constructor
  · rintro rfl
    omega
  · intro hsum
    by_contra hne
    have hpos : b ^ zs.length ≤ b ^ zs.length * c' := Nat.le_mul_of_pos_right _ (by omega)
    omega

/-- The digits of the difference, and whether it is negative. -/
theorem Chain.difference (h : Chain (DifferenceDigit b) xs ys 0 zs c') (hb : 1 < b)
    (hzs : ∀ z ∈ zs, z < b) (hc : c' ≤ 1) :
    ((ofDigits b zs : ℕ) : ℤ) =
        ((ofDigits b xs : ℕ) - (ofDigits b ys : ℕ) : ℤ) % (b ^ zs.length : ℕ) ∧
      (c' = 0 ↔ ofDigits b ys ≤ ofDigits b xs) := by
  have hvalue := h.reverse.value
  have hlt := Nat.ofDigits_lt_base_pow_length hb hzs
  rw [Nat.add_zero, h.length] at hvalue
  constructor
  · have hdiff : ((ofDigits b xs : ℕ) - (ofDigits b ys : ℕ) : ℤ) =
        (ofDigits b zs : ℕ) + (b ^ zs.length : ℕ) * (-c' : ℤ) := by
      have hcast := congrArg (Nat.cast : ℕ → ℤ) hvalue
      push_cast at hcast ⊢
      linarith
    rw [hdiff, Int.add_mul_emod_self_left]
    exact (Int.emod_eq_of_lt (Int.natCast_nonneg _) (by exact_mod_cast hlt)).symm
  · constructor
    · rintro rfl
      omega
    · intro hle
      by_contra hne
      obtain rfl : c' = 1 := by omega
      omega

end CarryChain
