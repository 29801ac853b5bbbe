import Mathlib.Data.List.Basic

/-
  Hexadecimal text, in general terms.

  `value` reads the digits that `Nat.toDigits 16` writes, and zeros before them do not count
  (`value_zeros_append`). So such a text names one number. `field_inj` takes a text apart at a
  separator.
-/

namespace Hexadecimal

def digitValue (c : Char) : Nat := if c.isDigit then c.toNat - 48 else c.toNat - 87

def value (cs : List Char) : Nat := cs.foldl (fun n c => 16 * n + digitValue c) 0

theorem digitValue_digitChar : ∀ d < 16, digitValue (Nat.digitChar d) = d := by decide

/-- The digits that are written. -/
theorem mem_toDigits (n : Nat) : ∀ c ∈ Nat.toDigits 16 n, ∃ d < 16, c = Nat.digitChar d := by
  induction n using Nat.strongRecOn with
  | ind n ih =>
    intro c hc
    rw [Nat.toDigits_eq_if (by decide)] at hc
    by_cases hlt : n < 16
    · rw [if_pos hlt] at hc
      exact ⟨n, hlt, List.mem_singleton.mp hc⟩
    · rw [if_neg hlt] at hc
      rcases List.mem_append.mp hc with hc | hc
      · exact ih (n / 16) (by omega) c hc
      · exact ⟨n % 16, by omega, List.mem_singleton.mp hc⟩

theorem value_concat (cs : List Char) (c : Char) :
    value (cs ++ [c]) = 16 * value cs + digitValue c := by
  simp [value]

theorem value_toDigits (n : Nat) : value (Nat.toDigits 16 n) = n := by
  induction n using Nat.strongRecOn with
  | ind n ih =>
    rw [Nat.toDigits_eq_if (by decide)]
    by_cases hlt : n < 16
    · rw [if_pos hlt]
      simp [value, digitValue_digitChar n hlt]
    · rw [if_neg hlt, value_concat, ih (n / 16) (by omega),
        digitValue_digitChar _ (Nat.mod_lt n (by omega))]
      omega

theorem value_zeros_append (k : Nat) (cs : List Char) :
    value (List.replicate k '0' ++ cs) = value cs := by
  induction k with
  | zero => rfl
  | succ k ih =>
    rw [List.replicate_succ, List.cons_append, ← ih]
    rfl

/-- A text up to its separator is determined. -/
theorem field_inj {α : Type} {sep : α} {cs cs' rest rest' : List α} (h : sep ∉ cs)
    (h' : sep ∉ cs')
    (heq : cs ++ sep :: rest = cs' ++ sep :: rest') : cs = cs' ∧ rest = rest' := by
  induction cs generalizing cs' with
  | nil =>
    cases cs' with
    | nil => exact ⟨rfl, (List.cons.inj heq).2⟩
    | cons c cs' =>
      have hc : sep = c := (List.cons.inj heq).1
      simp [hc] at h'
  | cons c cs ih =>
    cases cs' with
    | nil =>
      have hc : c = sep := (List.cons.inj heq).1
      simp [hc] at h
    | cons c' cs' =>
      simp only [List.mem_cons, not_or] at h h'
      simp only [List.cons_append, List.cons.injEq] at heq
      obtain ⟨rfl, hrest⟩ := ih h.2 h'.2 heq.2
      exact ⟨by rw [heq.1], hrest⟩

end Hexadecimal
