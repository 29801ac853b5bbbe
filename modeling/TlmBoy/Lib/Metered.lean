import Mathlib.Algebra.GroupWithZero.Nat
import TlmBoy.Lib.Machine

/-
  Machines whose steps have a cost, in general terms.

  `Run step s ss t` is a run with its record: `ss` are the states that its steps start in. A meter
  is a number that every state shows. If each step moves it by its cost, less what the step loses,
  then a run moves it by the sum of the costs, less the sum of the losses
  (`Run.meter_add_lost`). So the meter shows the sum of the costs exactly if no step of the run
  loses anything (`Run.meter_eq_iff`).
-/

namespace Machine

variable {σ ε : Type}

/-- The steps that start in `ss`, one after the other, lead from `s` to `t`. -/
inductive Run (step : σ → Except ε σ) (s : σ) : List σ → σ → Prop
  | start : Run step s [] s
  | next {ss : List σ} {t u : σ} : Run step s ss t → step t = .ok u → Run step s (ss ++ [t]) u

namespace Run

variable {step : σ → Except ε σ} {s t : σ} {ss : List σ}

theorem single (h : step s = .ok t) : Run step s [s] t := Run.next .start h

/-- The steps of the run succeed. -/
theorem step_ok (hrun : Run step s ss t) {u : σ} (hu : u ∈ ss) : ∃ v, step u = .ok v := by
  induction hrun with
  | start => simp at hu
  | @next _ t v _ hlast ih =>
    rw [List.mem_append, List.mem_singleton] at hu
    rcases hu with hu | rfl
    · exact ih hu
    · exact ⟨v, hlast⟩

variable {meter cost lost : σ → Nat}

/-- What one step says of the meter, summed over a run. -/
theorem meter_add_lost (hstep : ∀ s t, step s = .ok t → meter t + lost s = meter s + cost s)
    (hrun : Run step s ss t) : meter t + (ss.map lost).sum = meter s + (ss.map cost).sum := by
  induction hrun with
  | start => simp
  | @next ss t u _ hlast ih =>
    have hone := hstep t u hlast
    simp only [List.map_append, List.map_cons, List.map_nil, List.sum_append, List.sum_cons,
      List.sum_nil]
    omega

/-- The meter shows the sum of the costs exactly if no step of the run loses anything. -/
theorem meter_eq_iff (hstep : ∀ s t, step s = .ok t → meter t + lost s = meter s + cost s)
    (hrun : Run step s ss t) :
    meter t = meter s + (ss.map cost).sum ↔ ∀ u ∈ ss, lost u = 0 := by
  have hsum := meter_add_lost hstep hrun
  have hzero : (ss.map lost).sum = 0 ↔ ∀ u ∈ ss, lost u = 0 := by
    rw [List.sum_eq_zero_iff_forall_eq_nat, List.forall_mem_map]
  rw [← hzero]
  omega

end Run

end Machine
