import Mathlib.Logic.Function.Iterate
import TlmBoy.Apu.State

/-
  The frequency sweep over any number of calls of `DoSweep`.

  An update computes `frequency + dir * frequency / (1u << sweep_step)` with an unsigned quotient,
  so a decrease wraps around: it leaves 2047 and turns the channel off, unless the frequency or the
  step is 0 (`sweeps_right_iff`). An update also replaces all of NR14, of which it should change
  the three frequency bits (`sweeps_touch_iff`).
-/

namespace TlmBoy

namespace Apu

/-! ## Updates -/

/-- A call of `DoSweep`. -/
def sweep (s : Apu × IoRegisters) : Apu × IoRegisters := s.1.doSweep s.2

def sweepPeriodOf (io : IoRegisters) : U32 := ((io.regNr10 >>> 4) &&& 0b111).setWidth 32

def sweepStepOf (io : IoRegisters) : Nat := (io.regNr10 &&& 0b111).toNat

/-- The decrease bit of NR10. -/
def SweepsDown (io : IoRegisters) : Prop := (io.regNr10 &&& 0b1000) ≠ 0

instance (io : IoRegisters) : Decidable (SweepsDown io) := by
  unfold SweepsDown
  infer_instance

/-- The next call performs an update. -/
def UpdatesNext (s : Apu × IoRegisters) : Prop :=
  sweepPeriodOf s.2 ≠ 0 ∧ sweepPeriodOf s.2 ≤ s.1.square1.sweepCounter

instance (s : Apu × IoRegisters) : Decidable (UpdatesNext s) := by
  unfold UpdatesNext
  infer_instance

/-- None of the next `n` calls performs an update. -/
def Idle (n : Nat) (s : Apu × IoRegisters) : Prop :=
  n = 0 ∨ sweepPeriodOf s.2 = 0 ∨ s.1.square1.sweepCounter.toNat + n ≤ (sweepPeriodOf s.2).toNat

theorem sweep_idle {s : Apu × IoRegisters} (h : ¬ UpdatesNext s) :
    (sweep s).2 = s.2 ∧ (sweep s).1.square1.frequency = s.1.square1.frequency ∧
      (sweepPeriodOf s.2 ≠ 0 →
        (sweep s).1.square1.sweepCounter = s.1.square1.sweepCounter + 1) := by
  unfold sweep doSweep
  dsimp only
  by_cases hperiod : sweepPeriodOf s.2 = 0
  · rw [if_pos (show (Square.readSweep s.2.regNr10 s.1.square1).sweepPeriod = 0 from hperiod)]
    exact ⟨rfl, rfl, fun hne => absurd hperiod hne⟩
  · have hcounter : ¬ (Square.readSweep s.2.regNr10 s.1.square1).sweepPeriod ≤
      (Square.readSweep s.2.regNr10 s.1.square1).sweepCounter := fun hle => h ⟨hperiod, hle⟩
    rw [if_neg (show ¬ (Square.readSweep s.2.regNr10 s.1.square1).sweepPeriod = 0 from hperiod),
      if_neg hcounter]
    exact ⟨rfl, rfl, fun _ => rfl⟩

/-- The frequency that an update computes, before it is clamped. -/
def swept (s : Apu × IoRegisters) : U32 := (s.1.square1.readSweep s.2.regNr10).sweptFrequency

/-- NR52 after an update. -/
def sweptNr52 (s : Apu × IoRegisters) : U8 :=
  if 2047 < swept s then s.2.regNr52 &&& ~~~kSquare1StatusMask else s.2.regNr52

theorem sweep_update {s : Apu × IoRegisters} (h : UpdatesNext s) :
    (sweep s).1.square1.frequency = clampFrequency (swept s) ∧
      ∀ i, (sweep s).2.data i =
        if i = 0x04 then ((clampFrequency (swept s) &&& 0x700) >>> 8).setWidth 8
        else if i = 0x03 then (clampFrequency (swept s) &&& 0xFF).setWidth 8
        else if i = 0x16 then sweptNr52 s
        else s.2.data i := by
  have hdata : ∀ i, (if 2047 < swept s then
      s.2.poke 0x16 (s.2.regNr52 &&& ~~~kSquare1StatusMask) else s.2).data i =
        if i = 0x16 then sweptNr52 s else s.2.data i := by
    intro i
    unfold sweptNr52
    by_cases hover : 2047 < swept s
    · rw [if_pos hover, if_pos hover]
      exact Function.update_apply ..
    · rw [if_neg hover, if_neg hover]
      by_cases hi : i = 0x16
      · rw [if_pos hi, hi]
        rfl
      · rw [if_neg hi]
  unfold sweep doSweep
  dsimp only
  rw [if_neg (show ¬ (Square.readSweep s.2.regNr10 s.1.square1).sweepPeriod = 0 from h.1),
    if_pos (show (Square.readSweep s.2.regNr10 s.1.square1).sweepPeriod ≤
      (Square.readSweep s.2.regNr10 s.1.square1).sweepCounter from h.2)]
  refine ⟨rfl, fun i => ?_⟩
  rw [← hdata i]
  by_cases h4 : i = 0x04
  · rw [if_pos h4, h4]
    exact IoRegisters.poke_self ..
  rw [if_neg h4]
  refine (IoRegisters.poke_of_ne h4 _ _).trans ?_
  by_cases h3 : i = 0x03
  · rw [if_pos h3, h3]
    exact IoRegisters.poke_self ..
  rw [if_neg h3]
  exact IoRegisters.poke_of_ne h3 _ _

/-! ## Runs -/

theorem sweep_nr10 (s : Apu × IoRegisters) : (sweep s).2.regNr10 = s.2.regNr10 := by
  by_cases h : UpdatesNext s
  · exact (sweep_update h).2 0x00
  · exact congrArg IoRegisters.regNr10 (sweep_idle h).1

theorem sweeps_nr10 (s : Apu × IoRegisters) (n : Nat) :
    (sweep^[n] s).2.regNr10 = s.2.regNr10 := by
  induction n with
  | zero => rfl
  | succ n ih => rw [Function.iterate_succ_apply', sweep_nr10, ih]

theorem sweepPeriodOf_le (io : IoRegisters) : (sweepPeriodOf io).toNat ≤ 7 := by
  have hmask : (io.regNr10 >>> 4 &&& 0b111).toNat ≤ 7 := by
    rw [BitVec.toNat_and]
    exact Nat.and_le_right
  simp only [sweepPeriodOf, BitVec.toNat_setWidth]
  omega

theorem sweepStepOf_le (io : IoRegisters) : sweepStepOf io ≤ 7 := by
  unfold sweepStepOf
  rw [BitVec.toNat_and]
  exact Nat.and_le_right

theorem Idle.not_updatesNext {s : Apu × IoRegisters} (h : Idle 1 s) : ¬ UpdatesNext s := by
  intro hupdate
  have hle := BitVec.le_def.mp hupdate.2
  rcases h with h | h | h
  · omega
  · exact hupdate.1 h
  · omega

theorem Idle.mono {s : Apu × IoRegisters} {m n : Nat} (h : Idle n s) (hle : m ≤ n) :
    Idle m s := by
  rcases h with h | h | h
  · exact .inl (by omega)
  · exact .inr (.inl h)
  · exact .inr (.inr (by omega))

/-- Calls without an update only count. -/
theorem idle_run {s : Apu × IoRegisters} (n : Nat) (h : Idle n s) :
    (sweep^[n] s).2 = s.2 ∧ (sweep^[n] s).1.square1.frequency = s.1.square1.frequency ∧
      (sweepPeriodOf s.2 ≠ 0 → (sweep^[n] s).1.square1.sweepCounter.toNat =
        s.1.square1.sweepCounter.toNat + n) := by
  induction n with
  | zero => exact ⟨rfl, rfl, fun _ => rfl⟩
  | succ n ih =>
    obtain ⟨hio, hfrequency, hcounter⟩ := ih (h.mono (by omega))
    have hnext : ¬ UpdatesNext (sweep^[n] s) := by
      refine Idle.not_updatesNext ?_
      unfold Idle
      rw [hio]
      rcases h with h | h | h
      · omega
      · exact .inr (.inl h)
      · by_cases hperiod : sweepPeriodOf s.2 = 0
        · exact .inr (.inl hperiod)
        · have := hcounter hperiod
          exact .inr (.inr (by omega))
    obtain ⟨hio', hfrequency', hcounter'⟩ := sweep_idle hnext
    rw [Function.iterate_succ_apply']
    refine ⟨hio'.trans hio, hfrequency'.trans hfrequency, fun hperiod => ?_⟩
    have hsum := hcounter hperiod
    have hbound := sweepPeriodOf_le s.2
    have hroom : s.1.square1.sweepCounter.toNat + (n + 1) ≤ (sweepPeriodOf s.2).toNat := by
      rcases h with h | h | h
      · omega
      · exact absurd h hperiod
      · exact h
    rw [hcounter' (hio ▸ hperiod), BitVec.toNat_add, hsum]
    simp only [BitVec.reduceToNat]
    omega

/-- A run that is not idle reaches a first update. -/
theorem first_update {s : Apu × IoRegisters} {N : Nat} (h : ¬ Idle N s) :
    ∃ n < N, Idle n s ∧ UpdatesNext (sweep^[n] s) := by
  have hperiod : sweepPeriodOf s.2 ≠ 0 := fun hzero => h (.inr (.inl hzero))
  have hpos : N ≠ 0 := fun hzero => h (.inl hzero)
  have hroom : ¬ s.1.square1.sweepCounter.toNat + N ≤ (sweepPeriodOf s.2).toNat :=
    fun hle => h (.inr (.inr hle))
  refine ⟨(sweepPeriodOf s.2).toNat - s.1.square1.sweepCounter.toNat, by omega, ?_⟩
  have hidle : Idle ((sweepPeriodOf s.2).toNat - s.1.square1.sweepCounter.toNat) s := by
    by_cases hle : s.1.square1.sweepCounter.toNat ≤ (sweepPeriodOf s.2).toNat
    · exact .inr (.inr (by omega))
    · exact .inl (by omega)
  obtain ⟨hio, -, hcounter⟩ := idle_run _ hidle
  refine ⟨hidle, ?_⟩
  unfold UpdatesNext
  rw [hio]
  refine ⟨hperiod, BitVec.le_def.mpr ?_⟩
  rw [hcounter hperiod]
  omega

/-! ## The frequency -/

theorem sweep_frequency_le {s : Apu × IoRegisters} (hf : s.1.square1.frequency.toNat ≤ 2047) :
    (sweep s).1.square1.frequency.toNat ≤ 2047 := by
  by_cases h : UpdatesNext s
  · rw [(sweep_update h).1]
    unfold clampFrequency
    split_ifs with hlt
    · have := BitVec.lt_def.mp hlt
      simp only [BitVec.reduceToNat] at this
      omega
    · exact Nat.le_refl _
  · rwa [(sweep_idle h).2.1]

theorem sweeps_frequency_le {s : Apu × IoRegisters} (hf : s.1.square1.frequency.toNat ≤ 2047)
    (n : Nat) : (sweep^[n] s).1.square1.frequency.toNat ≤ 2047 := by
  induction n with
  | zero => exact hf
  | succ n ih =>
    rw [Function.iterate_succ_apply']
    exact sweep_frequency_le ih

/-- The divisor `1u << sweep_step`. -/
theorem toNat_divisor (io : IoRegisters) (square1 : Square) :
    ((1 <<< (square1.readSweep io.regNr10).sweepStep.toNat : Nat) : U32).toNat =
      2 ^ sweepStepOf io := by
  have hstep : (square1.readSweep io.regNr10).sweepStep.toNat = sweepStepOf io := by
    simp only [Square.readSweep, sweepStepOf, BitVec.toNat_setWidth]
    omega
  have hle := sweepStepOf_le io
  have hpow : 2 ^ sweepStepOf io ≤ 2 ^ 7 := Nat.pow_le_pow_right (by omega) hle
  rw [hstep, Nat.one_shiftLeft, BitVec.natCast_eq_ofNat, BitVec.toNat_ofNat]
  exact Nat.mod_eq_of_lt (Nat.lt_of_le_of_lt hpow (by decide))

theorem toNat_swept (s : Apu × IoRegisters) {dir : U32}
    (hdir : (if (s.1.square1.readSweep s.2.regNr10).sweepDirection then -1 else 1) = dir) :
    (swept s).toNat = (s.1.square1.frequency.toNat +
      (dir * s.1.square1.frequency).toNat / 2 ^ sweepStepOf s.2) % 2 ^ 32 := by
  have hfrequency : (s.1.square1.readSweep s.2.regNr10).frequency = s.1.square1.frequency := rfl
  unfold swept Square.sweptFrequency
  simp only [hdir, BitVec.toNat_add, BitVec.toNat_udiv, toNat_divisor, hfrequency]

theorem swept_up {s : Apu × IoRegisters} (hf : s.1.square1.frequency.toNat ≤ 2047)
    (hup : ¬ SweepsDown s.2) :
    (swept s).toNat =
      s.1.square1.frequency.toNat + s.1.square1.frequency.toNat / 2 ^ sweepStepOf s.2 := by
  have hdir : (s.1.square1.readSweep s.2.regNr10).sweepDirection = false := by
    simpa [Square.readSweep, SweepsDown] using hup
  have hquot := Nat.div_le_self s.1.square1.frequency.toNat (2 ^ sweepStepOf s.2)
  rw [toNat_swept s (if_neg (by simp [hdir]))]
  simp only [BitVec.ofNat_eq_ofNat, BitVec.one_mul]
  exact Nat.mod_eq_of_lt (by omega)

/-- The product with `-1` has wrapped around before the quotient is taken. -/
theorem swept_down {s : Apu × IoRegisters} (hdown : SweepsDown s.2) :
    (swept s).toNat = (s.1.square1.frequency.toNat +
      (2 ^ 32 - s.1.square1.frequency.toNat) % 2 ^ 32 / 2 ^ sweepStepOf s.2) % 2 ^ 32 := by
  have hdir : (s.1.square1.readSweep s.2.regNr10).sweepDirection = true := by
    simpa [Square.readSweep, SweepsDown] using hdown
  rw [toNat_swept s (if_pos hdir)]
  simp only [BitVec.ofNat_eq_ofNat, BitVec.neg_mul, BitVec.one_mul, BitVec.toNat_neg]

theorem swept_down_right {s : Apu × IoRegisters} (hdown : SweepsDown s.2)
    (hzero : sweepStepOf s.2 = 0 ∨ s.1.square1.frequency = 0) : (swept s).toNat = 0 := by
  have hlt := s.1.square1.frequency.isLt
  rw [swept_down hdown]
  rcases hzero with hstep | hfrequency
  · rw [hstep, Nat.pow_zero, Nat.div_one]
    omega
  · rw [hfrequency]
    simp

theorem swept_down_wrong {s : Apu × IoRegisters} (hf : s.1.square1.frequency.toNat ≤ 2047)
    (hdown : SweepsDown s.2) (hstep : sweepStepOf s.2 ≠ 0)
    (hfrequency : s.1.square1.frequency ≠ 0) :
    2047 < (swept s).toNat := by
  have hpos : s.1.square1.frequency.toNat ≠ 0 := fun h => hfrequency (BitVec.eq_of_toNat_eq h)
  have hle := sweepStepOf_le s.2
  have hlow : 2 ^ 1 ≤ 2 ^ sweepStepOf s.2 := Nat.pow_le_pow_right (by omega) (by omega)
  have hhigh : 2 ^ sweepStepOf s.2 ≤ 2 ^ 7 := Nat.pow_le_pow_right (by omega) hle
  have hwrap : (2 ^ 32 - s.1.square1.frequency.toNat) % 2 ^ 32 =
      2 ^ 32 - s.1.square1.frequency.toNat := by
    omega
  have hleast : (2 ^ 32 - s.1.square1.frequency.toNat) / 2 ^ 7 ≤
      (2 ^ 32 - s.1.square1.frequency.toNat) / 2 ^ sweepStepOf s.2 :=
    Nat.div_le_div_left hhigh (by omega)
  have hmost : (2 ^ 32 - s.1.square1.frequency.toNat) / 2 ^ sweepStepOf s.2 ≤
      (2 ^ 32 - s.1.square1.frequency.toNat) / 2 ^ 1 :=
    Nat.div_le_div_left hlow (by omega)
  rw [swept_down hdown, hwrap]
  omega

theorem toNat_clampFrequency (frequency : U32) :
    (clampFrequency frequency).toNat = min 2047 frequency.toNat := by
  unfold clampFrequency
  split_ifs with hlt
  · have := BitVec.lt_def.mp hlt
    simp only [BitVec.reduceToNat] at this
    omega
  · have := BitVec.not_lt.mp hlt
    have := BitVec.le_def.mp this
    simp only [BitVec.reduceToNat] at this ⊢
    omega

/-- The frequency and the status bit that an update should leave. -/
def SweptRight (s : Apu × IoRegisters) : Prop :=
  let f := s.1.square1.frequency.toNat
  let f' := (sweep s).1.square1.frequency.toNat
  let status := s.2.regNr52 &&& kSquare1StatusMask
  let status' := (sweep s).2.regNr52 &&& kSquare1StatusMask
  if SweepsDown s.2 then f' = f - f / 2 ^ sweepStepOf s.2 ∧ status' = status
  else f' = min 2047 (f + f / 2 ^ sweepStepOf s.2) ∧
    status' = if 2047 < f + f / 2 ^ sweepStepOf s.2 then 0 else status

theorem sweptNr52_status (s : Apu × IoRegisters) :
    sweptNr52 s &&& kSquare1StatusMask =
      if 2047 < (swept s).toNat then 0 else s.2.regNr52 &&& kSquare1StatusMask := by
  have hmask : ∀ nr52 : U8, nr52 &&& ~~~kSquare1StatusMask &&& kSquare1StatusMask = 0 := by
    decide +kernel
  unfold sweptNr52
  by_cases hover : 2047 < (swept s).toNat
  · rw [if_pos (show 2047 < swept s from BitVec.lt_def.mpr hover), if_pos hover]
    exact hmask _
  · rw [if_neg (show ¬ 2047 < swept s from fun h => hover (BitVec.lt_def.mp h)), if_neg hover]

theorem sweep_status {s : Apu × IoRegisters} (h : UpdatesNext s) :
    (sweep s).2.regNr52 &&& kSquare1StatusMask =
      if 2047 < (swept s).toNat then 0 else s.2.regNr52 &&& kSquare1StatusMask := by
  have hnr52 : (sweep s).2.regNr52 = sweptNr52 s := (sweep_update h).2 0x16
  rw [hnr52, sweptNr52_status]

theorem sweptRight_up {s : Apu × IoRegisters} (hf : s.1.square1.frequency.toNat ≤ 2047)
    (hup : ¬ SweepsDown s.2) (h : UpdatesNext s) : SweptRight s := by
  unfold SweptRight
  dsimp only
  rw [if_neg hup, sweep_status h, (sweep_update h).1, toNat_clampFrequency, swept_up hf hup]
  exact ⟨rfl, rfl⟩

/-- A decrease is right where the wrapped quotient is all of the negated frequency. -/
theorem sweptRight_down_iff {s : Apu × IoRegisters} (hf : s.1.square1.frequency.toNat ≤ 2047)
    (hdown : SweepsDown s.2) (h : UpdatesNext s) :
    SweptRight s ↔ sweepStepOf s.2 = 0 ∨ s.1.square1.frequency = 0 := by
  unfold SweptRight
  dsimp only
  rw [if_pos hdown, sweep_status h, (sweep_update h).1, toNat_clampFrequency]
  constructor
  · rintro ⟨hfrequency, -⟩
    by_contra hbad
    obtain ⟨hstep, hne⟩ := not_or.mp hbad
    have hover := swept_down_wrong hf hdown hstep hne
    have hle := sweepStepOf_le s.2
    have hpos : s.1.square1.frequency.toNat ≠ 0 := fun h => hne (BitVec.eq_of_toNat_eq h)
    have hpow : 2 ^ sweepStepOf s.2 ≤ 2 ^ 7 := Nat.pow_le_pow_right (by omega) hle
    have hquot := Nat.div_le_div_left hpow
      (Nat.pow_pos (show 0 < 2 by omega)) (a := s.1.square1.frequency.toNat)
    omega
  · intro hzero
    rw [swept_down_right hdown hzero]
    refine ⟨?_, rfl⟩
    rcases hzero with hstep | hfrequency
    · rw [hstep, Nat.pow_zero, Nat.div_one]
      omega
    · rw [hfrequency]
      simp

/-- Where an update leaves the frequency at 0, the next ones do too. -/
theorem sweeps_down_zero {s : Apu × IoRegisters} (hdown : SweepsDown s.2)
    (hzero : sweepStepOf s.2 = 0 ∨ s.1.square1.frequency = 0) :
    (sweepStepOf (sweep s).2 = 0 ∨ (sweep s).1.square1.frequency = 0) ∧
      (sweep s).1.square1.frequency.toNat ≤ s.1.square1.frequency.toNat := by
  have hstep : sweepStepOf (sweep s).2 = sweepStepOf s.2 := by
    unfold sweepStepOf
    rw [sweep_nr10]
  by_cases h : UpdatesNext s
  · have hnat : (sweep s).1.square1.frequency.toNat = 0 := by
      rw [(sweep_update h).1, toNat_clampFrequency, swept_down_right hdown hzero]
      rfl
    exact ⟨.inr (BitVec.eq_of_toNat_eq hnat), by omega⟩
  · rw [hstep, (sweep_idle h).2.1]
    exact ⟨hzero, Nat.le_refl _⟩

/-- Every update of the first `N` calls is right, and a decrease never raises the frequency. -/
def SweepsRight (N : Nat) (s : Apu × IoRegisters) : Prop :=
  ∀ n < N, (UpdatesNext (sweep^[n] s) → SweptRight (sweep^[n] s)) ∧
    (SweepsDown s.2 → (sweep^[n + 1] s).1.square1.frequency.toNat ≤
      (sweep^[n] s).1.square1.frequency.toNat)

theorem sweepsDown_run (s : Apu × IoRegisters) (n : Nat) :
    SweepsDown (sweep^[n] s).2 ↔ SweepsDown s.2 := by
  unfold SweepsDown
  rw [sweeps_nr10]

theorem sweepsRight_zero {s : Apu × IoRegisters} (hf : s.1.square1.frequency.toNat ≤ 2047)
    (hdown : SweepsDown s.2) (hzero : sweepStepOf s.2 = 0 ∨ s.1.square1.frequency = 0)
    (N : Nat) : SweepsRight N s := by
  have hrun : ∀ n, sweepStepOf (sweep^[n] s).2 = 0 ∨ (sweep^[n] s).1.square1.frequency = 0 := by
    intro n
    induction n with
    | zero => exact hzero
    | succ n ih =>
      rw [Function.iterate_succ_apply']
      exact (sweeps_down_zero ((sweepsDown_run s n).mpr hdown) ih).1
  intro n _
  have hdown' := (sweepsDown_run s n).mpr hdown
  refine ⟨(sweptRight_down_iff (sweeps_frequency_le hf n) hdown' · |>.mpr (hrun n)), fun _ => ?_⟩
  rw [Function.iterate_succ_apply']
  exact (sweeps_down_zero hdown' (hrun n)).2

theorem sweepsRight_idle {s : Apu × IoRegisters} {N : Nat} (h : Idle N s) : SweepsRight N s := by
  intro n hn
  have hnow := idle_run n (h.mono (by omega))
  have hnext := idle_run (n + 1) (h.mono (by omega))
  refine ⟨fun hupdate => ?_, fun _ => by rw [hnow.2.1, hnext.2.1]⟩
  have hperiod : sweepPeriodOf s.2 ≠ 0 := hnow.1 ▸ hupdate.1
  have hle := BitVec.le_def.mp hupdate.2
  rw [hnow.1, hnow.2.2 hperiod] at hle
  rcases h with h | h | h
  · omega
  · exact absurd h hperiod
  · omega

/-- The sweep computes `f - f / 2^s` when its step or the frequency is 0, or it never updates. -/
theorem sweeps_right_iff {s : Apu × IoRegisters} (hf : s.1.square1.frequency.toNat ≤ 2047)
    (N : Nat) : SweepsRight N s ↔
      ¬ SweepsDown s.2 ∨ sweepStepOf s.2 = 0 ∨ s.1.square1.frequency = 0 ∨ Idle N s := by
  constructor
  · intro hright
    by_contra hbad
    simp only [not_or, not_not] at hbad
    obtain ⟨hdown, hstep, hfrequency, hidle⟩ := hbad
    -- the registers and the frequency are still those of `s` at the first update
    obtain ⟨n, hn, hbefore, hupdate⟩ := first_update hidle
    obtain ⟨hio, hsame, -⟩ := idle_run n hbefore
    have hwrong := (sweptRight_down_iff (sweeps_frequency_le hf n)
      ((sweepsDown_run s n).mpr hdown) hupdate).mp ((hright n hn).1 hupdate)
    rw [hio, hsame] at hwrong
    exact hwrong.elim hstep hfrequency
  · intro hgood
    by_cases hdown : SweepsDown s.2
    · rcases hgood with hup | hstep | hfrequency | hidle
      · exact absurd hdown hup
      · exact sweepsRight_zero hf hdown (.inl hstep) N
      · exact sweepsRight_zero hf hdown (.inr hfrequency) N
      · exact sweepsRight_idle hidle
    · exact fun n _ => ⟨sweptRight_up (sweeps_frequency_le hf n) (mt (sweepsDown_run s n).mp hdown),
        fun h => absurd h hdown⟩

/-- Frequency 100, and NR10 asks for an increase (0x11) or a decrease (0x19) by a half. -/
def sweepingAt100 (nr10 : U8) : Apu × IoRegisters :=
  ({ square1 := { frequency := 100 } }, { data := fun i => if i = 0x00 then nr10 else 0 })

theorem increases_100 : (sweepingAt100 0x11).1.square1.frequency.toNat ≤ 2047 ∧
    SweepsRight 2 (sweepingAt100 0x11) :=
  ⟨by decide, (sweeps_right_iff (by decide) 2).mpr (.inl (by decide))⟩

theorem decreases_to_2047 : ¬ ∀ (s : Apu × IoRegisters) (N : Nat),
    s.1.square1.frequency.toNat ≤ 2047 → SweepsRight N s := by
  intro h
  have hmonotone := (h (sweepingAt100 0x19) 2 (by decide) 1 (by decide)).2 (by decide)
  exact absurd hmonotone (by decide +kernel)

/-! ## The registers -/

/-- The bits of a register that the sweep should write. -/
def sweepMask (i : Fin 0x80) : U8 :=
  if i = 0x03 then 0xFF else if i = 0x04 then 0b111 else if i = 0x16 then kSquare1StatusMask else 0

/-- Outside of `sweepMask` the registers are the same. -/
def SameOutside (io io' : IoRegisters) : Prop :=
  ∀ i, io'.data i &&& ~~~sweepMask i = io.data i &&& ~~~sweepMask i

/-- The bits of NR14 besides the frequency: the trigger, the length enable, and unused ones. -/
def Nr14Clear (io : IoRegisters) : Prop := io.regNr14 &&& 0b11111000 = 0

theorem update_clears_nr14 {s : Apu × IoRegisters} (h : UpdatesNext s) :
    Nr14Clear (sweep s).2 := by
  have hnr14 : (sweep s).2.regNr14 =
      ((clampFrequency (swept s) &&& 0x700) >>> 8).setWidth 8 := (sweep_update h).2 0x04
  have hmask : (clampFrequency (swept s) &&& 0x700).toNat ≤ 0x700 := by
    rw [BitVec.toNat_and]
    exact Nat.and_le_right
  have hle : (sweep s).2.regNr14.toNat ≤ 7 := by
    rw [hnr14, BitVec.toNat_setWidth, BitVec.toNat_ushiftRight, Nat.shiftRight_eq_div_pow]
    omega
  have hclear : ∀ nr14 : U8, nr14.toNat ≤ 7 → nr14 &&& 0b11111000 = 0 := by
    decide +kernel
  exact hclear _ hle

theorem SameOutside.trans {io io' io'' : IoRegisters} (h : SameOutside io io')
    (h' : SameOutside io' io'') : SameOutside io io'' :=
  fun i => (h' i).trans (h i)

/-- An update touches only the bits of the sweep where NR14 has no others. -/
theorem update_sameOutside {s : Apu × IoRegisters} (h : UpdatesNext s) (hclear : Nr14Clear s.2) :
    SameOutside s.2 (sweep s).2 := by
  have hstatus : ∀ nr52 : U8, nr52 &&& ~~~kSquare1StatusMask &&& ~~~kSquare1StatusMask =
      nr52 &&& ~~~kSquare1StatusMask := by
    decide +kernel
  intro i
  by_cases h4 : i = 0x04
  · rw [h4]
    exact (update_clears_nr14 h).trans hclear.symm
  by_cases h3 : i = 0x03
  · rw [h3]
    exact (BitVec.and_zero ..).trans (BitVec.and_zero ..).symm
  rw [(sweep_update h).2 i, if_neg h4, if_neg h3]
  by_cases h16 : i = 0x16
  · rw [if_pos h16, h16]
    change sweptNr52 s &&& ~~~kSquare1StatusMask = s.2.regNr52 &&& ~~~kSquare1StatusMask
    unfold sweptNr52
    split_ifs
    · exact hstatus _
    · rfl
  · rw [if_neg h16]

theorem sweep_nr14Clear {s : Apu × IoRegisters} (h : Nr14Clear s.2) : Nr14Clear (sweep s).2 := by
  by_cases hupdate : UpdatesNext s
  · exact update_clears_nr14 hupdate
  · rwa [(sweep_idle hupdate).1]

theorem sweeps_nr14Clear {s : Apu × IoRegisters} (h : Nr14Clear s.2) (n : Nat) :
    Nr14Clear (sweep^[n] s).2 ∧ SameOutside s.2 (sweep^[n] s).2 := by
  induction n with
  | zero => exact ⟨h, fun _ => rfl⟩
  | succ n ih =>
    rw [Function.iterate_succ_apply']
    refine ⟨sweep_nr14Clear ih.1, ih.2.trans ?_⟩
    by_cases hupdate : UpdatesNext (sweep^[n] s)
    · exact update_sameOutside hupdate ih.1
    · rw [(sweep_idle hupdate).1]
      exact fun _ => rfl

/-- Any number of calls leave the other bits alone when NR14 has none set, or none updates. -/
theorem sweeps_touch_iff (s : Apu × IoRegisters) (N : Nat) :
    SameOutside s.2 (sweep^[N] s).2 ↔ Nr14Clear s.2 ∨ Idle N s := by
  constructor
  · intro hsame
    by_contra hbad
    obtain ⟨hset, hidle⟩ := not_or.mp hbad
    -- the first update clears NR14, and no later call sets a bit of it again
    obtain ⟨n, hn, -, hupdate⟩ := first_update hidle
    have hcleared : Nr14Clear (sweep^[n + 1] s).2 := by
      rw [Function.iterate_succ_apply']
      exact update_clears_nr14 hupdate
    have hend := (sweeps_nr14Clear hcleared (N - (n + 1))).1
    rw [← Function.iterate_add_apply, show N - (n + 1) + (n + 1) = N by omega] at hend
    exact hset ((hsame 0x04).symm.trans hend)
  · rintro (hclear | hidle)
    · exact (sweeps_nr14Clear hclear N).2
    · rw [(idle_run N hidle).1]
      exact fun _ => rfl

/-- With a sweep and the length counter both enabled, the second call disables the length. -/
theorem sweep_stops_length : ¬ ∀ (s : Apu × IoRegisters) (N : Nat),
    SameOutside s.2 (sweep^[N] s).2 := by
  intro h
  have hsame := h ((sweepingAt100 0x11).1, (sweepingAt100 0x11).2.poke 0x04 0b01000000) 2 0x04
  exact absurd hsame (by decide +kernel)

end Apu

end TlmBoy
