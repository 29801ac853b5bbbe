import TlmBoy.GbTop
import TlmBoy.Lib.Reload

/-
  The processes of the timer.

  `TimerLoop` recognises an overflow of TIMA by comparing the incremented byte with the old one,
  and then reloads TIMA from TMA and requests the interrupt. `timer_runs` is the state after any
  number of increments: TIMA is a counter with the top 256 that is reloaded with TMA.
-/

namespace TlmBoy

namespace Timer

def kMaskTimerEnabled : U8 := 0b100

/-- The process that has waited: `DivLoop` or `TimerLoop`. -/
inductive Process where
  | divLoop
  | timerLoop
deriving DecidableEq, Repr

end Timer

namespace Gb

/-- A round of `DivLoop`. -/
def divLoop (gb : Gb) : Gb := { gb with timer := { gb.timer with regDiv := gb.timer.regDiv + 1 } }

/-- The timer is enabled and the increment overflows: `old_val > reg_tima_`. -/
def TimerOverflows (gb : Gb) : Prop :=
  (gb.timer.regTac &&& Timer.kMaskTimerEnabled) ≠ 0 ∧ gb.timer.regTima + 1 < gb.timer.regTima

instance (gb : Gb) : Decidable gb.TimerOverflows := by
  unfold TimerOverflows
  infer_instance

/-- A round of `TimerLoop`. -/
def timerLoop (gb : Gb) : Gb :=
  if (gb.timer.regTac &&& Timer.kMaskTimerEnabled) ≠ 0 then
    let timer := { gb.timer with regTima := gb.timer.regTima + 1 }
    -- Overflow case.
    if gb.TimerOverflows then
      { gb with
        timer := { timer with regTima := timer.regTma }
        regIf := ⟨fun _ => gb.regIf.data 0 ||| GbConst.kTimerOfIf⟩ }
    else { gb with timer }
  else gb

/-- A round of a process of the timer. -/
def timerStep (gb : Gb) : Timer.Process → Gb
  | .divLoop => gb.divLoop
  | .timerLoop => gb.timerLoop

/-- The rounds, with the number of overflows so far beside the state. -/
def timerRun (ps : List Timer.Process) (gb : Gb) : Gb × Nat :=
  ps.foldl (fun r p =>
    (r.1.timerStep p, r.2 + if p = .timerLoop ∧ r.1.TimerOverflows then 1 else 0)) (gb, 0)

theorem timerRun_concat (ps : List Timer.Process) (p : Timer.Process) (gb : Gb) :
    gb.timerRun (ps ++ [p]) = ((gb.timerRun ps).1.timerStep p, (gb.timerRun ps).2 +
      if p = .timerLoop ∧ (gb.timerRun ps).1.TimerOverflows then 1 else 0) := by
  rw [timerRun, List.foldl_append]
  rfl

/-! ## One increment -/

theorem overflows_iff (tima : U8) : tima + 1 < tima ↔ 256 ≤ tima.toNat + 1 := by
  have hlt := tima.isLt
  rw [BitVec.lt_def, BitVec.toNat_add]
  simp only [BitVec.ofNat_eq_ofNat, BitVec.toNat_ofNat]
  omega

variable {gb : Gb}

/-- What an increment leaves: TIMA is clocked, and an overflow requests the interrupt. -/
theorem timerLoop_enabled (htac : (gb.timer.regTac &&& Timer.kMaskTimerEnabled) ≠ 0) :
    gb.timerLoop.timer.regTima.toNat =
        Reload.step 256 gb.timer.regTma.toNat gb.timer.regTima.toNat ∧
      gb.timerLoop.timer.regTma = gb.timer.regTma ∧ gb.timerLoop.timer.regTac = gb.timer.regTac ∧
      gb.timerLoop.regIf.data 0 =
        if gb.TimerOverflows then gb.regIf.data 0 ||| GbConst.kTimerOfIf else gb.regIf.data 0 := by
  have hiff : gb.TimerOverflows ↔ gb.timer.regTima + 1 < gb.timer.regTima := and_iff_right htac
  unfold timerLoop
  rw [if_pos htac]
  by_cases hover : gb.TimerOverflows
  · rw [if_pos hover, if_pos hover, Reload.step_of_le ((overflows_iff _).mp (hiff.mp hover))]
    exact ⟨rfl, rfl, rfl, rfl⟩
  · have hlt := mt (overflows_iff _).mpr (mt hiff.mpr hover)
    rw [if_neg hover, if_neg hover, Reload.step_of_lt (by omega)]
    refine ⟨?_, rfl, rfl, rfl⟩
    rw [BitVec.toNat_add]
    simp only [BitVec.ofNat_eq_ofNat, BitVec.toNat_ofNat]
    omega

/-! ## Runs -/

/-- The increments of TIMA in a run. -/
def increments (ps : List Timer.Process) : Nat := ps.count .timerLoop

theorem increments_concat (ps : List Timer.Process) (p : Timer.Process) :
    increments (ps ++ [p]) = increments ps + if p = .timerLoop then 1 else 0 := by
  rw [increments, List.count_append, List.count_singleton]
  simp only [beq_iff_eq]
  rfl

/-- What the rounds so far leave: TIMA after its clocks, and IF with the timer's bit set once there
    was an overflow. -/
structure TimerTracks (gb gb' : Gb) (n overflows : Nat) : Prop where
  tima : gb'.timer.regTima.toNat =
    (Reload.step 256 gb.timer.regTma.toNat)^[n] gb.timer.regTima.toNat
  tma : gb'.timer.regTma = gb.timer.regTma
  tac : gb'.timer.regTac = gb.timer.regTac
  count : overflows = Reload.reloads 256 gb.timer.regTma.toNat gb.timer.regTima.toNat n
  regIf : gb'.regIf.data 0 =
    if overflows = 0 then gb.regIf.data 0 else gb.regIf.data 0 ||| GbConst.kTimerOfIf

theorem TimerTracks.divLoop {gb' : Gb} {n k : Nat} (h : TimerTracks gb gb' n k) :
    TimerTracks gb gb'.divLoop n k :=
  ⟨h.tima, h.tma, h.tac, h.count, h.regIf⟩

theorem TimerTracks.timerLoop (htac : (gb.timer.regTac &&& Timer.kMaskTimerEnabled) ≠ 0)
    {gb' : Gb} {n k : Nat} (h : TimerTracks gb gb' n k) :
    TimerTracks gb gb'.timerLoop (n + 1) (k + if gb'.TimerOverflows then 1 else 0) := by
  have htac' : (gb'.timer.regTac &&& Timer.kMaskTimerEnabled) ≠ 0 := by rwa [h.tac]
  obtain ⟨htima, htma', htac'', hif⟩ := timerLoop_enabled htac'
  have hover : gb'.TimerOverflows ↔
      256 ≤ (Reload.step 256 gb.timer.regTma.toNat)^[n] gb.timer.regTima.toNat + 1 := by
    rw [← h.tima, ← overflows_iff]
    exact and_iff_right htac'
  refine ⟨?_, htma'.trans h.tma, htac''.trans h.tac, ?_, ?_⟩
  · rw [Function.iterate_succ_apply', ← h.tima, ← h.tma]
    exact htima
  · rw [Reload.reloads_succ, ← h.count]
    simp only [hover]
  · rw [hif, h.regIf]
    by_cases hnow : gb'.TimerOverflows
    · rw [if_pos hnow, if_pos hnow, if_neg (Nat.succ_ne_zero k)]
      split_ifs
      · rfl
      · rw [BitVec.or_assoc, BitVec.or_self]
    · rw [if_neg hnow, if_neg hnow, Nat.add_zero]

theorem timerRun_tracks (htac : (gb.timer.regTac &&& Timer.kMaskTimerEnabled) ≠ 0)
    (ps : List Timer.Process) :
    TimerTracks gb (gb.timerRun ps).1 (increments ps) (gb.timerRun ps).2 := by
  induction ps using List.reverseRecOn with
  | nil => exact ⟨rfl, rfl, rfl, rfl, rfl⟩
  | append_singleton ps p ih =>
    rw [timerRun_concat, increments_concat]
    cases p with
    | divLoop => simpa [timerStep] using ih.divLoop
    | timerLoop => simpa [timerStep] using ih.timerLoop htac

/-- TIMA, IF and the number of overflows after `n` increments of an enabled timer. -/
theorem timer_runs (gb : Gb) (htac : (gb.timer.regTac &&& Timer.kMaskTimerEnabled) ≠ 0)
    (ps : List Timer.Process) :
    let t := gb.timer.regTima.toNat
    let m := gb.timer.regTma.toNat
    let n := increments ps
    let gb' := (gb.timerRun ps).1
    if n < 256 - t then
      gb'.timer.regTima.toNat = t + n ∧ gb'.regIf.data 0 = gb.regIf.data 0 ∧
        (gb.timerRun ps).2 = 0
    else
      gb'.timer.regTima.toNat = m + (n - (256 - t)) % (256 - m) ∧
        gb'.regIf.data 0 = gb.regIf.data 0 ||| GbConst.kTimerOfIf ∧
        (gb.timerRun ps).2 = 1 + (n - (256 - t)) / (256 - m) := by
  have hruns := timerRun_tracks htac ps
  have ht := gb.timer.regTima.isLt
  have hm := gb.timer.regTma.isLt
  dsimp only
  split_ifs with hlt
  · have hcount : (gb.timerRun ps).2 = 0 := by rw [hruns.count, Reload.reloads_of_lt (by omega)]
    refine ⟨?_, ?_, hcount⟩
    · rw [hruns.tima, Reload.iterate_of_lt (by omega)]
    · rw [hruns.regIf, if_pos hcount]
  · have hcount := hruns.count
    rw [Reload.reloads_of_le ht hm (by omega)] at hcount
    refine ⟨?_, ?_, hcount⟩
    · rw [hruns.tima, Reload.iterate_of_le ht hm (by omega)]
    · rw [hruns.regIf, if_neg (by simp [hcount])]

/-- TIMA at 254 with the modulo 253: the second increment reloads it, and the fifth does again. -/
def timerAt254 : Gb :=
  { powerOn .blank with timer := { regDiv := 0, regTac := 0b101, regTima := 254, regTma := 253 } }

theorem timerAt254_runs :
    (timerAt254.timerRun (List.replicate 6 .timerLoop)).1.timer.regTima.toNat =
        253 + (6 - (256 - 254)) % (256 - 253) ∧
      (timerAt254.timerRun (List.replicate 6 .timerLoop)).1.regIf.data 0 =
        timerAt254.regIf.data 0 ||| GbConst.kTimerOfIf ∧
      (timerAt254.timerRun (List.replicate 6 .timerLoop)).2 =
        1 + (6 - (256 - 254)) / (256 - 253) :=
  timer_runs timerAt254 (by decide) (List.replicate 6 .timerLoop)

end Gb

end TlmBoy
