import TlmBoy.Apu.Sound
import TlmBoy.Apu.Sweep
import TlmBoy.Lib.Reload

/-
  The rate of the frequency sweep.

  `DoSweep` compares `sweep_counter` with the period before it counts, so from 0 an update comes
  with every call number `p + 1`. An update is a call that writes the new frequency to NR13 and
  NR14 (`Updated`). `sweep_rate_iff` says for how many calls that gives the same number of updates
  as one update in `p` calls. The calls are those of a run of all the processes: guest accesses,
  deliveries and the rest of `AudioLoop` come between them.
-/

namespace TlmBoy

/-! ## The counter -/

namespace Apu

/-- The call updates the frequency, and writes it to NR13 and NR14: what they held before does not
    matter. -/
def Updated (s : Apu × IoRegisters) : Prop :=
  ∀ nr13 nr14, let s' := sweep (s.1, (s.2.poke 0x03 nr13).poke 0x04 nr14)
    s'.1.square1.frequency = clampFrequency (swept s) ∧
      s'.2.regNr13 = (s'.1.square1.frequency &&& 0xFF).setWidth 8 ∧
      s'.2.regNr14 = ((s'.1.square1.frequency &&& 0x700) >>> 8).setWidth 8

/-- The registers are written where the counter has reached the period, and only there. -/
theorem updated_iff (s : Apu × IoRegisters) : Updated s ↔ UpdatesNext s := by
  have hnr10 : ∀ nr13 nr14,
      ((s.2.poke 0x03 nr13).poke 0x04 nr14).regNr10 = s.2.regNr10 := fun _ _ => rfl
  have hnext : ∀ nr13 nr14,
      UpdatesNext (s.1, (s.2.poke 0x03 nr13).poke 0x04 nr14) ↔ UpdatesNext s := by
    intro nr13 nr14
    unfold UpdatesNext sweepPeriodOf
    rw [hnr10]
  constructor
  · intro hupdated
    by_contra hidle
    -- Without an update NR13 keeps any value, also one that is not the frequency's.
    have hneg : ∀ v : U8, ~~~v ≠ v := by decide
    let nr13 : U8 := ~~~(s.1.square1.frequency &&& 0xFF).setWidth 8
    obtain ⟨hio, hfrequency, -⟩ := sweep_idle (mt (hnext nr13 0).mp hidle)
    obtain ⟨-, hnr13, -⟩ := hupdated nr13 0
    rw [hio, hfrequency] at hnr13
    exact hneg _ hnr13
  · intro hupdate nr13 nr14
    obtain ⟨hfrequency, hdata⟩ := sweep_update ((hnext nr13 nr14).mpr hupdate)
    have hswept : swept (s.1, (s.2.poke 0x03 nr13).poke 0x04 nr14) = swept s := by
      unfold swept
      rw [hnr10]
    rw [hswept] at hfrequency hdata
    dsimp only
    rw [hfrequency]
    exact ⟨rfl, hdata 0x03, hdata 0x04⟩

theorem sweep_update_counter {s : Apu × IoRegisters} (h : UpdatesNext s) :
    (sweep s).1.square1.sweepCounter = 0 := by
  unfold sweep doSweep
  dsimp only
  rw [if_neg (show ¬ (Square.readSweep s.2.regNr10 s.1.square1).sweepPeriod = 0 from h.1),
    if_pos (show (Square.readSweep s.2.regNr10 s.1.square1).sweepPeriod ≤
      (Square.readSweep s.2.regNr10 s.1.square1).sweepCounter from h.2)]

/-- A call clocks a counter that is reloaded with 0 where it would pass the period. -/
theorem sweep_counter {s : Apu × IoRegisters} {p : Nat} (hp : 0 < p)
    (hperiod : (sweepPeriodOf s.2).toNat = p) :
    (UpdatesNext s ↔ p + 1 ≤ s.1.square1.sweepCounter.toNat + 1) ∧
      (sweep s).1.square1.sweepCounter.toNat =
        Reload.step (p + 1) 0 s.1.square1.sweepCounter.toNat := by
  have hne : sweepPeriodOf s.2 ≠ 0 := by
    intro hzero
    rw [hzero] at hperiod
    simp only [BitVec.ofNat_eq_ofNat, BitVec.toNat_ofNat] at hperiod
    omega
  have hiff : UpdatesNext s ↔ p + 1 ≤ s.1.square1.sweepCounter.toNat + 1 := by
    unfold UpdatesNext
    rw [BitVec.le_def, hperiod, Nat.add_le_add_iff_right]
    exact and_iff_right hne
  refine ⟨hiff, ?_⟩
  by_cases hupdate : UpdatesNext s
  · rw [sweep_update_counter hupdate, Reload.step_of_le (hiff.mp hupdate)]
    rfl
  · have hlt := mt hiff.mpr hupdate
    have hbound := sweepPeriodOf_le s.2
    rw [(sweep_idle hupdate).2.2 hne, Reload.step_of_lt (by omega), BitVec.toNat_add]
    simp only [BitVec.reduceToNat]
    omega

theorem method_sweepCounter (p : Port) (io : IoRegisters) (apu : Apu) :
    (p.method io apu).1.square1.sweepCounter = apu.square1.sweepCounter := by
  cases p with
  | reloadLength c => cases c <;> rfl
  | trigger c =>
    cases c with
    | square1 =>
      simp only [Port.method, triggerEventSquare1]
      split_ifs <;> rfl
    | square2 =>
      simp only [Port.method, triggerEventSquare2]
      split_ifs <;> rfl
    | wave =>
      simp only [Port.method, triggerEventWave]
      split_ifs <;> rfl
    | noise =>
      simp only [Port.method, triggerEventNoise]
      split_ifs <;> rfl

theorem runMethods_sweepCounter (ports : List Port) (io : IoRegisters) (apu : Apu) :
    (runMethods ports io apu).1.square1.sweepCounter = apu.square1.sweepCounter := by
  induction ports generalizing io apu with
  | nil => rfl
  | cons p ports ih => exact (ih _ _).trans (method_sweepCounter p io apu)

end Apu

namespace Sound

open Apu

def Event.isSweep : Event → Bool
  | .doSweep => true
  | _ => false

/-- Nothing but `DoSweep` changes its counter. -/
theorem step_sweepCounter {game : List U8} {s s' : Sound} {e : Event} (he : e.isSweep = false)
    (h : step game s e = .ok s') : s'.apu.square1.sweepCounter = s.apu.square1.sweepCounter := by
  cases e with
  | access t => rw [(step_access h).1]
  | deliver ports =>
    rw [show s'.apu = _ from congrArg Prod.fst (step_deliver h)]
    exact runMethods_sweepCounter ports _ _
  | decrementLengths =>
    cases h
    rfl
  | doSweep => exact absurd he (by decide)
  | updateEnvelopes =>
    cases h
    rfl
  | callback c =>
    cases h
    cases c <;> rfl

/-! ## Runs -/

/-- The calls of `DoSweep` in a run. -/
def sweeps (es : List Event) : Nat := es.countP Event.isSweep

/-- The event is a call of `DoSweep` that performs an update. -/
def Updates (s : Sound) (e : Event) : Prop := e.isSweep = true ∧ Updated (s.apu, s.io)

theorem updates_iff (s : Sound) (e : Event) :
    Updates s e ↔ e.isSweep = true ∧ UpdatesNext (s.apu, s.io) :=
  and_congr_right fun _ => updated_iff _

instance (s : Sound) (e : Event) : Decidable (Updates s e) :=
  decidable_of_iff _ (updates_iff s e).symm

/-- A step with the number of updates so far beside the state. -/
def countStep (game : List U8) (r : Sound × Nat) (e : Event) : Except Fault (Sound × Nat) :=
  (step game r.1 e).map fun s => (s, r.2 + if Updates r.1 e then 1 else 0)

/-- Every call of `DoSweep` in the run finds the period `p` in NR10. -/
def PeriodKept (game : List U8) (p : Nat) (s : Sound) (es : List Event) : Prop :=
  ∀ pre suf m, es = pre ++ .doSweep :: suf → pre.foldlM (step game) s = .ok m →
    (sweepPeriodOf m.io).toNat = p

theorem countStep_state {game : List U8} {es : List Event} {s : Sound} {r : Sound × Nat} {k : Nat}
    (h : es.foldlM (countStep game) (s, k) = .ok r) : es.foldlM (step game) s = .ok r.1 := by
  refine History.run_induction (fun es r => es.foldlM (step game) s = .ok r.1) rfl ?_ h
  intro es r e r' hrun hstep
  obtain ⟨s', hs', he⟩ := StateExcept.map_eq_ok hstep
  rw [History.run_concat, hrun, ← he]
  exact hs'

theorem PeriodKept.of_append {game : List U8} {p : Nat} {s : Sound} {es es' : List Event}
    (h : PeriodKept game p s (es ++ es')) : PeriodKept game p s es := by
  intro pre suf m hes hm
  exact h pre (suf ++ es') m (by rw [hes]; simp) hm

/-- After any number of calls from 0, the counter is that of a clock with `p + 1` phases, and so
    is the number of updates. -/
theorem countStep_run {game : List U8} {p : Nat} (hp : 0 < p) {s : Sound}
    (hcounter : s.apu.square1.sweepCounter = 0) {es : List Event} {r : Sound × Nat}
    (hperiod : PeriodKept game p s es) (h : es.foldlM (countStep game) (s, 0) = .ok r) :
    r.1.apu.square1.sweepCounter.toNat = (Reload.step (p + 1) 0)^[sweeps es] 0 ∧
      r.2 = Reload.reloads (p + 1) 0 0 (sweeps es) := by
  induction es using List.reverseRecOn generalizing r with
  | nil =>
    cases h
    exact ⟨congrArg BitVec.toNat hcounter, rfl⟩
  | append_singleton es e ih =>
    rw [History.run_concat] at h
    obtain ⟨m, hrun, hlast⟩ := StateExcept.except_bind_eq_ok h
    obtain ⟨s', hs', he⟩ := StateExcept.map_eq_ok hlast
    obtain ⟨hphase, hcount⟩ := ih hperiod.of_append hrun
    rw [← he]
    dsimp only
    have hsweeps : sweeps (es ++ [e]) = sweeps es + if e.isSweep = true then 1 else 0 := by
      rw [sweeps, List.countP_append, List.countP_singleton]
      rfl
    rw [hsweeps]
    by_cases hsweep : e.isSweep = true
    · obtain rfl : e = .doSweep := by
        cases e <;> first | rfl | exact absurd hsweep Bool.false_ne_true
      have hnow : (sweepPeriodOf m.1.io).toNat = p :=
        hperiod es [] m.1 rfl (countStep_state hrun)
      obtain ⟨hupdate, hstep⟩ := sweep_counter (s := (m.1.apu, m.1.io)) hp hnow
      have hs : s' = m.1.set (sweep (m.1.apu, m.1.io)) := (Except.ok.inj hs').symm
      rw [if_pos hsweep, Function.iterate_succ_apply', ← hphase, Reload.reloads_succ, ← hcount,
        ← hphase, hs]
      refine ⟨hstep, ?_⟩
      simp only [updates_iff, hsweep, hupdate, true_and]
    · have hidle : ¬ m.1.Updates e := mt And.left hsweep
      rw [if_neg hsweep, step_sweepCounter (by simpa using hsweep) hs', if_neg hidle]
      exact ⟨hphase, hcount⟩

/-- Of the calls of `DoSweep` from the counter 0 on, one in `p + 1` performs an update. -/
theorem updates_eq {game : List U8} {p : Nat} (hp : 0 < p) {s : Sound}
    (hcounter : s.apu.square1.sweepCounter = 0) {es : List Event} {r : Sound × Nat}
    (hperiod : PeriodKept game p s es) (h : es.foldlM (countStep game) (s, 0) = .ok r) :
    r.2 = sweeps es / (p + 1) := by
  rw [(countStep_run hp hcounter hperiod h).2, Reload.reloads_zero_zero (by omega)]

/-- Of `n` calls from the counter 0 on, `⌊n / p⌋` perform an update if and only if
    `⌊n / (p + 1)⌋ + n % (p + 1) < p`. -/
theorem sweep_rate_iff (game : List U8) {p : Nat} (hp : 0 < p) {s : Sound}
    (hcounter : s.apu.square1.sweepCounter = 0) {es : List Event} {r : Sound × Nat}
    (hperiod : PeriodKept game p s es) (h : es.foldlM (countStep game) (s, 0) = .ok r) :
    r.2 = sweeps es / p ↔ sweeps es / (p + 1) + sweeps es % (p + 1) < p := by
  rw [updates_eq hp hcounter hperiod h]
  exact Reload.div_eq_div_succ_iff hp _

/-- NR10 asks for a sweep with the period 1. -/
def sweepEveryCall : Sound where
  gb := { Gb.powerOn .blank with ioRegisters := { data := fun i => if i = 0x00 then 0x11 else 0 } }

theorem sweepEveryCall_period : PeriodKept [] 1 sweepEveryCall [.doSweep] := by
  intro pre suf m hes hm
  obtain rfl : pre = [] := by
    cases pre with
    | nil => rfl
    | cons e pre => simp at hes
  cases hm
  decide

/-- The one call of the run only counts, where one update is due. -/
theorem first_call_counts : ∃ r, [Event.doSweep].foldlM (countStep []) (sweepEveryCall, 0) = .ok r ∧
    (r.2 = sweeps [.doSweep] / 1 ↔ sweeps [.doSweep] / (1 + 1) + sweeps [.doSweep] % (1 + 1) < 1) :=
  ⟨_, rfl, sweep_rate_iff [] (by decide) (by decide) sweepEveryCall_period rfl⟩

theorem first_update_late : ¬ ∀ (game : List U8) (p : Nat) (s : Sound) (es : List Event)
    (r : Sound × Nat), 1 ≤ p → p ≤ 7 → s.apu.square1.sweepCounter = 0 → PeriodKept game p s es →
      es.foldlM (countStep game) (s, 0) = .ok r → r.2 = sweeps es / p := by
  intro h
  have hupdates := h [] 1 sweepEveryCall [.doSweep] _ (by decide) (by decide) (by decide)
    sweepEveryCall_period rfl
  exact absurd hupdates (by decide +kernel)

end Sound

end TlmBoy
