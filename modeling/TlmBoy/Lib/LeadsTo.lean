import Mathlib.Order.WellFounded
import TlmBoy.Lib.Machine

/-
  Where the runs of a deterministic machine get to, in general terms.

  * `StepsTo step Rule P Q`: every state with `P` satisfies `Rule`, and one step from it succeeds
    and ends in a state with `Q`.
  * `LeadsTo step Rule P Q`: from every state with `P`, steps that all succeed and start in states
    with `Rule` lead to a state with `Q`. This is total correctness of a piece of machine code:
    `P` says where it is entered and `Q` where it is left. `of_step`, `trans`, `weaken` and
    `exists_elim` are the rules for straight code, and `countdown` the one for a loop.
  * `Stays step Rule P`: no run leaves `P`. `Stays.visited`: a run that gets into `P` has seen only
    states with `Rule`, and so has every other run from the same state.
-/

namespace Machine

variable {σ ε : Type} {step : σ → Except ε σ} {Rule P P' Q Q' R : σ → Prop}

/-- From every state with `P`, one successful step leads to one with `Q`. -/
def StepsTo (step : σ → Except ε σ) (Rule P Q : σ → Prop) : Prop :=
  ∀ s, P s → Rule s ∧ ∃ t, step s = .ok t ∧ Q t

/-- From every state with `P`, successful steps lead to one with `Q`. -/
def LeadsTo (step : σ → Except ε σ) (Rule P Q : σ → Prop) : Prop :=
  ∀ s, P s → ∃ t, Reaches step Rule s t ∧ Q t

theorem Reaches.trans {s t u : σ} (h : Reaches step Rule s t) (h' : Reaches step Rule t u) :
    Reaches step Rule s u := Relation.ReflTransGen.trans h h'

theorem Reaches.forget {s t : σ} (h : Reaches step Rule s t) :
    Reaches step (fun _ => True) s t :=
  Relation.ReflTransGen.mono (fun _ _ hstep => ⟨trivial, hstep.2⟩) s t h

namespace LeadsTo

theorem of_imp (h : ∀ s, P s → Q s) : LeadsTo step Rule P Q :=
  fun s hs => ⟨s, Relation.ReflTransGen.refl, h s hs⟩

theorem refl (step : σ → Except ε σ) (Rule P : σ → Prop) : LeadsTo step Rule P P :=
  of_imp fun _ h => h

theorem of_step (h : StepsTo step Rule P Q) : LeadsTo step Rule P Q := by
  intro s hs
  obtain ⟨hrule, t, hstep, ht⟩ := h s hs
  exact ⟨t, Reaches.single hrule hstep, ht⟩

theorem trans (h : LeadsTo step Rule P Q) (h' : LeadsTo step Rule Q R) :
    LeadsTo step Rule P R := by
  intro s hs
  obtain ⟨t, hst, ht⟩ := h s hs
  obtain ⟨u, htu, hu⟩ := h' t ht
  exact ⟨u, hst.trans htu, hu⟩

instance : Trans (LeadsTo step Rule) (LeadsTo step Rule) (LeadsTo step Rule) := ⟨trans⟩

theorem weaken (h : LeadsTo step Rule P Q) (hP : ∀ s, P' s → P s) (hQ : ∀ s, Q s → Q' s) :
    LeadsTo step Rule P' Q' := ((of_imp hP).trans h).trans (of_imp hQ)

theorem exists_elim {α : Sort*} {P : α → σ → Prop} (h : ∀ a, LeadsTo step Rule (P a) Q) :
    LeadsTo step Rule (fun s => ∃ a, P a s) Q := by
  intro s hs
  obtain ⟨a, ha⟩ := hs
  exact h a s ha

/-- A loop whose rounds are counted down. -/
theorem countdown {I : ℕ → σ → Prop} (h : ∀ n, LeadsTo step Rule (I (n + 1)) (I n)) (n : ℕ) :
    LeadsTo step Rule (I n) (I 0) := by
  induction n with
  | zero => exact refl step Rule (I 0)
  | succ n ih => exact (h n).trans ih

/-- A loop whose rounds are counted up. -/
theorem countup {I : ℕ → σ → Prop} {n : ℕ} (h : ∀ k < n, LeadsTo step Rule (I k) (I (k + 1))) :
    LeadsTo step Rule (I 0) (I n) := by
  induction n with
  | zero => exact refl step Rule (I 0)
  | succ n ih => exact (ih fun k hk => h k (Nat.lt_succ_of_lt hk)).trans (h n (Nat.lt_succ_self n))

end LeadsTo

/-- A step from a state with `P` succeeds and ends in one. -/
def Stays (step : σ → Except ε σ) (Rule P : σ → Prop) : Prop := StepsTo step Rule P P

namespace Stays

/-- Then no run leaves `P`. -/
theorem reaches (h : Stays step Rule P) {Rule' : σ → Prop} {s t : σ}
    (hrun : Reaches step Rule' s t) (hs : P s) : P t := by
  refine hrun.invariant (I := P) ?_ hs
  intro u v _ hstep hu
  obtain ⟨-, w, hw, hPw⟩ := h u hu
  obtain rfl := Except.ok.inj (hw.symm.trans hstep)
  exact hPw

/-- After a run into `P`, every run from where it started has seen only states with `Rule`. -/
theorem visited (h : Stays step Rule P) {s t u : σ} (hrun : Reaches step Rule s t) (ht : P t)
    (hu : Reaches step (fun _ => True) s u) : Rule u := by
  induction hrun using Relation.ReflTransGen.head_induction_on with
  | refl => exact (h u (h.reaches hu ht)).1
  | head hfirst _ ih =>
    rcases Relation.ReflTransGen.cases_head hu with heq | ⟨v, hv, hrest⟩
    · exact heq ▸ hfirst.1
    · obtain rfl := Except.ok.inj (hfirst.2.symm.trans hv.2)
      exact ih hrest

end Stays

end Machine
