import TlmBoy.Apu.Sound
import TlmBoy.Lib.Period

/-
  The noise generator: the shift register and the clock that moves it.

  `Noise::WriteDataIntoStream` adds the clock cycles of a sample to `tick_cntr` and takes as many
  ticks out of it as fit. Each tick moves the shift register, and a sample is the mean of the low
  bits after its ticks. The mean and the high pass are in floating point, so a sample is the list
  of its bits here.

  `NoiseLog` is a run of the sound with the callbacks in it. As long as NR43 stays as it is, the
  bits put out since a trigger are the sequence `lfsrAfter` up to the number of ticks in the
  elapsed cycles, however SDL divides the samples into buffers (`noise_since_trigger`). The
  sequence passes through every value of the register but the one with all bits set, and only
  then repeats (`lfsr_cycle`).
-/

namespace TlmBoy

/-- Clock cycles of a second. -/
def GbConst.kClockCycleFrequency : Nat := 4194304

namespace Apu

def kSampleRate : Nat := 44000

/-- The length of a sample of the stream in CPU cycles, `stream_sample_length`. -/
def streamSampleLength : U32 := BitVec.ofNat 32 (GbConst.kClockCycleFrequency / kSampleRate)

/-! ## The generator -/

/-- The members of `Noise` that its generator alone uses. No constructor initialises them. -/
structure NoiseGenerator where
  lfsrBits : U32
  tickCntr : U32
deriving DecidableEq, Repr

/-- The body of the loop in `DoLfsrTicks`. -/
def lfsrTick (lfsrWidth lfsrBits : U32) : U32 :=
  let val : U32 := if ((lfsrBits &&& 1) ^^^ ((lfsrBits >>> 1) &&& 1)) = 0 then 1 else 0
  (lfsrBits ||| val <<< lfsrWidth.toNat) >>> 1

/-- `DoLfsrTicks`: the bits that it sums, and the register after them. -/
def doLfsrTicks (lfsrWidth : U32) : Nat → U32 → List Bool × U32
  | 0, lfsrBits => ([], lfsrBits)
  | numTicks + 1, lfsrBits =>
    let lfsrBits := lfsrTick lfsrWidth lfsrBits
    let rest := doLfsrTicks lfsrWidth numTicks lfsrBits
    (lfsrBits.getLsbD 0 :: rest.1, rest.2)

namespace NoiseGenerator

/-- A round of the loop in `WriteDataIntoStream`. -/
def writeSample (noise : Noise) (g : NoiseGenerator) : List Bool × NoiseGenerator :=
  let tickCntr := g.tickCntr + streamSampleLength
  let lfsrTicks := tickCntr / noise.cpuTicksPerLfsrSample
  let ticked := doLfsrTicks noise.lfsrWidth lfsrTicks.toNat g.lfsrBits
  (ticked.1, {
    lfsrBits := ticked.2, tickCntr := tickCntr - lfsrTicks * noise.cpuTicksPerLfsrSample })

def writeSamples (noise : Noise) : Nat → NoiseGenerator → List (List Bool) × NoiseGenerator
  | 0, g => ([], g)
  | length + 1, g =>
    let sample := g.writeSample noise
    let rest := writeSamples noise length sample.2
    (sample.1 :: rest.1, rest.2)

/-- `Noise::WriteDataIntoStream`. -/
def writeDataIntoStream (noise : Noise) (length : Nat) (g : NoiseGenerator) :
    List (List Bool) × NoiseGenerator :=
  if noise.lengthLoad = 0 ∧ noise.lengthEnable = true then ([], g) else g.writeSamples noise length

end NoiseGenerator

/-! ## NR43 -/

/-- `lfsr_width`, as the callback takes it from NR43. -/
def lfsrWidthOf (nr43 : U8) : U32 := if ((nr43 >>> 3) &&& 1) != 0 then 7 else 15

/-- `cpu_ticks_per_lfsr_sample`. -/
def cpuTicksOf (nr43 : U8) : U32 := divisorTable nr43 <<< ((nr43 >>> 4).setWidth 32 : U32).toNat

theorem lfsrWidthOf_lt (nr43 : U8) : (lfsrWidthOf nr43).toNat < 32 := by
  unfold lfsrWidthOf
  split_ifs
  · decide
  · decide

/-- The number of values of the register but the one with all bits set. -/
def lfsrPeriodOf (nr43 : U8) : Nat := 2 ^ (lfsrWidthOf nr43).toNat - 1

theorem lfsrWidthOf_cases (nr43 : U8) :
    lfsrWidthOf nr43 = 7 ∧ lfsrPeriodOf nr43 = 127 ∨
      lfsrWidthOf nr43 = 15 ∧ lfsrPeriodOf nr43 = 32767 := by
  unfold lfsrPeriodOf lfsrWidthOf
  split_ifs
  · exact .inl ⟨rfl, rfl⟩
  · exact .inr ⟨rfl, rfl⟩

theorem cpuTicksOf_bounds : ∀ nr43 : U8,
    8 ≤ (cpuTicksOf nr43).toNat ∧ (cpuTicksOf nr43).toNat ≤ 3670016 := by
  decide +kernel

/-- What the callback leaves in the members that the generator reads. -/
theorem audioCallback_noise {io : IoRegisters} (hon : io.regNr52 >>> 7 ≠ 0) (apu : Apu) :
    (apu.audioCallback io).noise.lfsrWidth = lfsrWidthOf io.regNr43 ∧
    (apu.audioCallback io).noise.cpuTicksPerLfsrSample = cpuTicksOf io.regNr43 := by
  unfold audioCallback
  rw [if_neg hon]
  exact ⟨rfl, rfl⟩

/-! ## Ticks -/

/-- The shift register after some ticks from the value that a trigger leaves. -/
def lfsrAfter (lfsrWidth : U32) (ticks : Nat) : U32 := (lfsrTick lfsrWidth)^[ticks] 0

/-- The bits of ticks from `first` on. -/
def lfsrSequence (lfsrWidth : U32) (first count : Nat) : List Bool :=
  (List.range' first count).map fun k => (lfsrAfter lfsrWidth (k + 1)).getLsbD 0

theorem lfsrSequence_append (w : U32) (i m n : Nat) :
    lfsrSequence w i m ++ lfsrSequence w (i + m) n = lfsrSequence w i (m + n) := by
  unfold lfsrSequence
  rw [← List.map_append, List.range'_append_1]

theorem doLfsrTicks_eq (w : U32) (n i : Nat) :
    doLfsrTicks w n (lfsrAfter w i) = (lfsrSequence w i n, lfsrAfter w (i + n)) := by
  induction n generalizing i with
  | zero => rfl
  | succ n ih =>
    have hnext : lfsrTick w (lfsrAfter w i) = lfsrAfter w (i + 1) :=
      (Function.iterate_succ_apply' (lfsrTick w) i 0).symm
    rw [doLfsrTicks, hnext, ih (i + 1), Nat.add_assoc, Nat.add_comm 1 n]
    rfl

/-! ## The cycle of the shift register -/

/-- A tick on the natural numbers. -/
def tickNat (w n : Nat) : Nat := (n ||| (if n % 2 = n / 2 % 2 then 1 else 0) <<< w) >>> 1

theorem lowBits_eq_iff (bits : U32) : ((bits &&& 1) ^^^ ((bits >>> 1) &&& 1)) = 0 ↔
    bits.toNat % 2 = bits.toNat / 2 % 2 := by
  refine BitVec.xor_eq_zero_iff.trans ?_
  rw [← BitVec.toNat_inj, BitVec.toNat_and, BitVec.toNat_and, BitVec.toNat_ushiftRight,
    Nat.shiftRight_one]
  show bits.toNat &&& 1 = bits.toNat / 2 &&& 1 ↔ _
  rw [Nat.and_one_is_mod, Nat.and_one_is_mod]

theorem toNat_lfsrTick {w : U32} (hw : w.toNat < 32) (bits : U32) :
    (lfsrTick w bits).toNat = tickNat w.toNat bits.toNat := by
  have hpow : 2 ^ w.toNat < 2 ^ 32 := Nat.pow_lt_pow_right (by omega) hw
  unfold lfsrTick tickNat
  simp only [lowBits_eq_iff, BitVec.toNat_ushiftRight, BitVec.toNat_or, BitVec.toNat_shiftLeft]
  split_ifs
  · rw [show (1 : U32).toNat = 1 from rfl,
      Nat.mod_eq_of_lt (by rw [Nat.one_shiftLeft]; exact hpow)]
  · rw [show (0 : U32).toNat = 0 from rfl, Nat.zero_shiftLeft, Nat.zero_mod]

/-- A tick keeps the register within its width. -/
theorem tickNat_lt {w n : Nat} (h : n < 2 ^ w) : tickNat w n < 2 ^ w := by
  have hor : ∀ val ≤ 1, n ||| val <<< w < 2 ^ (w + 1) := by
    intro val hval
    have hshift : val <<< w ≤ 1 * 2 ^ w := by
      rw [Nat.shiftLeft_eq]
      exact Nat.mul_le_mul_right _ hval
    exact Nat.or_lt_two_pow (by omega) (by omega)
  unfold tickNat
  rw [Nat.shiftRight_eq_div_pow, Nat.pow_one, Nat.div_lt_iff_lt_mul (by omega), ← Nat.pow_succ]
  apply hor
  split_ifs
  · exact Nat.le_refl 1
  · exact Nat.zero_le 1

theorem toNat_lfsrAfter {w : U32} (hw : w.toNat < 32) (n : Nat) :
    (lfsrAfter w n).toNat = (tickNat w.toNat)^[n] 0 :=
  Function.Semiconj.iterate_right (toNat_lfsrTick hw) n 0

theorem iterate_eq_zero_iff {w : U32} (hw : w.toNat < 32) (n : Nat) :
    (lfsrTick w)^[n] 0 = 0 ↔ Period.strictIterate (tickNat w.toNat) n 0 = 0 := by
  rw [Period.strictIterate_eq, ← toNat_lfsrAfter hw, ← BitVec.toNat_inj]
  exact Iff.rfl

theorem minimalPeriod_lfsrTick (nr43 : U8) :
    Function.minimalPeriod (lfsrTick (lfsrWidthOf nr43)) 0 = lfsrPeriodOf nr43 := by
  obtain ⟨hwidth, hperiod⟩ | ⟨hwidth, hperiod⟩ := lfsrWidthOf_cases nr43
  · rw [hwidth, hperiod]
    apply Period.minimalPeriod_eq_of_quotients
    · exact (iterate_eq_zero_iff (by decide) 127).mpr (by decide +kernel)
    · intro p hp hdvd
      obtain rfl := (Nat.prime_dvd_prime_iff_eq hp (show Nat.Prime 127 by norm_num)).mp hdvd
      rw [ne_eq, iterate_eq_zero_iff (by decide)]
      decide +kernel
  · rw [hwidth, hperiod]
    apply Period.minimalPeriod_eq_of_quotients
    · exact (iterate_eq_zero_iff (by decide) 32767).mpr (by decide +kernel)
    · intro p hp hdvd
      have hprime : p = 7 ∨ p = 31 ∨ p = 151 := by
        have hmul : p ∣ 7 * (31 * 151) := hdvd
        rw [hp.dvd_mul, hp.dvd_mul, Nat.prime_dvd_prime_iff_eq hp (by norm_num),
          Nat.prime_dvd_prime_iff_eq hp (by norm_num),
          Nat.prime_dvd_prime_iff_eq hp (by norm_num)] at hmul
        exact hmul
      rw [ne_eq, iterate_eq_zero_iff (by decide)]
      obtain rfl | rfl | rfl := hprime
      · decide +kernel
      · decide +kernel
      · decide +kernel

/-- With all bits set the register stays as it is, so it does not come to that from zero, to which
    it returns. -/
theorem lfsrAfter_ne (nr43 : U8) (i : Nat) :
    (lfsrAfter (lfsrWidthOf nr43) i).toNat ≠ lfsrPeriodOf nr43 := by
  intro hall
  have hfixed : lfsrTick (lfsrWidthOf nr43) (lfsrAfter (lfsrWidthOf nr43) i) =
      lfsrAfter (lfsrWidthOf nr43) i := by
    obtain ⟨hwidth, hperiod⟩ | ⟨hwidth, hperiod⟩ := lfsrWidthOf_cases nr43
    · rw [hwidth, hperiod] at hall
      rw [hwidth, show lfsrAfter 7 i = 127 from BitVec.eq_of_toNat_eq hall]
      decide
    · rw [hwidth, hperiod] at hall
      rw [hwidth, show lfsrAfter 15 i = 32767 from BitVec.eq_of_toNat_eq hall]
      decide
  have hback : (lfsrTick (lfsrWidthOf nr43))^[i * lfsrPeriodOf nr43] 0 = 0 := by
    rw [← minimalPeriod_lfsrTick nr43]
    exact (Function.isPeriodicPt_minimalPeriod (lfsrTick (lfsrWidthOf nr43)) 0).const_mul i
  obtain ⟨k, hk⟩ : ∃ k, i * lfsrPeriodOf nr43 = k + i := by
    refine ⟨i * (lfsrPeriodOf nr43 - 1), ?_⟩
    have hpos : lfsrPeriodOf nr43 = lfsrPeriodOf nr43 - 1 + 1 := by
      obtain ⟨-, hperiod⟩ | ⟨-, hperiod⟩ := lfsrWidthOf_cases nr43
      · omega
      · omega
    conv_lhs => rw [hpos, Nat.mul_succ]
  rw [hk, Function.iterate_add_apply] at hback
  have hzero : lfsrAfter (lfsrWidthOf nr43) i = 0 :=
    (Function.iterate_fixed hfixed k).symm.trans hback
  rw [hzero] at hall
  obtain ⟨-, hperiod⟩ | ⟨-, hperiod⟩ := lfsrWidthOf_cases nr43
  · rw [hperiod] at hall
    cases hall
  · rw [hperiod] at hall
    cases hall

theorem lfsrAfter_lt (nr43 : U8) (i : Nat) :
    (lfsrAfter (lfsrWidthOf nr43) i).toNat < lfsrPeriodOf nr43 := by
  have hne := lfsrAfter_ne nr43 i
  have hlt : (lfsrAfter (lfsrWidthOf nr43) i).toNat < 2 ^ (lfsrWidthOf nr43).toNat := by
    clear hne
    induction i with
    | zero => exact Nat.two_pow_pos _
    | succ i ih =>
      rw [lfsrAfter, Function.iterate_succ_apply', toNat_lfsrTick (lfsrWidthOf_lt nr43)]
      exact tickNat_lt ih
  unfold lfsrPeriodOf at hne ⊢
  omega

/-- For every value of NR43: the register repeats after as many ticks as it has values but one,
    and not before. Until then it passes through all of them but the one with all bits set. -/
theorem lfsr_cycle (nr43 : U8) :
    (∀ i j, lfsrAfter (lfsrWidthOf nr43) i = lfsrAfter (lfsrWidthOf nr43) j ↔
      i % lfsrPeriodOf nr43 = j % lfsrPeriodOf nr43) ∧
    ∀ v : U32, (∃ i, lfsrAfter (lfsrWidthOf nr43) i = v) ↔ v.toNat < lfsrPeriodOf nr43 := by
  constructor
  · intro i j
    rw [← minimalPeriod_lfsrTick nr43]
    apply Period.iterate_eq_iff
    rw [minimalPeriod_lfsrTick]
    exact Nat.lt_of_le_of_lt (Nat.zero_le _) (lfsrAfter_lt nr43 0)
  · intro v
    constructor
    · rintro ⟨i, rfl⟩
      exact lfsrAfter_lt nr43 i
    · intro hv
      -- There are no more such values than the period is long.
      have hmem : ∀ u : U32, u.toNat < lfsrPeriodOf nr43 →
          u ∈ (Finset.range (lfsrPeriodOf nr43)).image (BitVec.ofNat 32) := fun u hu =>
        Finset.mem_image.mpr ⟨u.toNat, Finset.mem_range.mpr hu,
            (BitVec.ofNat_toNat 32 u).trans (BitVec.setWidth_eq u)⟩
      apply Period.exists_iterate_eq (fun i => hmem _ (lfsrAfter_lt nr43 i)) ?_ (hmem v hv)
      rw [minimalPeriod_lfsrTick]
      exact Finset.card_image_le.trans_eq (Finset.card_range _)

/-! ## The clock -/

/-- The generator and the samples that it has written, for one value of NR43. Since the clock
    counter was `start`, every sample has added its cycles to it and every tick has taken the
    ticks' cycles out of it. -/
structure InStep (nr43 : U8) (start ticks : Nat) (g : NoiseGenerator)
    (samples : List (List Bool)) : Prop where
  cycles : (cpuTicksOf nr43).toNat * ticks + g.tickCntr.toNat = start + 95 * samples.length
  rest : samples = [] ∧ ticks = 0 ∨ g.tickCntr.toNat < (cpuTicksOf nr43).toNat
  bits : samples.flatten = lfsrSequence (lfsrWidthOf nr43) 0 ticks
  lfsrBits : g.lfsrBits = lfsrAfter (lfsrWidthOf nr43) ticks

variable {nr43 : U8} {start ticks : Nat} {g : NoiseGenerator} {samples : List (List Bool)}
  {noise : Noise}

theorem InStep.noOverflow (h : InStep nr43 start ticks g samples) (hstart : start + 95 < 2 ^ 32) :
    g.tickCntr.toNat + 95 < 2 ^ 32 := by
  obtain ⟨hcycles, ⟨rfl, rfl⟩ | hrest, -, -⟩ := h
  · rw [Nat.mul_zero, List.length_nil] at hcycles
    omega
  · have hbound := (cpuTicksOf_bounds nr43).2
    omega

/-- The counter of a sample divides into ticks and a rest. -/
theorem tickCntr_divides {T tickCntr : U32} (h : tickCntr.toNat + 95 < 2 ^ 32) :
    ((tickCntr + streamSampleLength) / T).toNat = (tickCntr.toNat + 95) / T.toNat ∧
    (tickCntr + streamSampleLength - (tickCntr + streamSampleLength) / T * T).toNat =
      (tickCntr.toNat + 95) % T.toNat := by
  have hadd : (tickCntr + streamSampleLength).toNat = tickCntr.toNat + 95 := by
    rw [BitVec.toNat_add]
    exact Nat.mod_eq_of_lt h
  have hdiv : ((tickCntr + streamSampleLength) / T).toNat = (tickCntr.toNat + 95) / T.toNat := by
    rw [BitVec.toNat_udiv, hadd]
  refine ⟨hdiv, ?_⟩
  have hmul : ((tickCntr + streamSampleLength) / T * T).toNat =
      (tickCntr.toNat + 95) / T.toNat * T.toNat := by
    have hle := Nat.div_mul_le_self (tickCntr.toNat + 95) T.toNat
    rw [BitVec.toNat_mul, hdiv]
    exact Nat.mod_eq_of_lt (by omega)
  have hsplit := Nat.div_add_mod' (tickCntr.toNat + 95) T.toNat
  rw [BitVec.toNat_sub_of_le (by rw [BitVec.le_def, hmul, hadd]; omega), hadd, hmul]
  omega

/-- A sample keeps the generator in step. -/
theorem InStep.writeSample (h : InStep nr43 start ticks g samples) (hstart : start + 95 < 2 ^ 32)
    (hwidth : noise.lfsrWidth = lfsrWidthOf nr43)
    (hticks : noise.cpuTicksPerLfsrSample = cpuTicksOf nr43) :
    ∃ ticks', InStep nr43 start ticks' (g.writeSample noise).2
      (samples ++ [(g.writeSample noise).1]) := by
  have hpos := (cpuTicksOf_bounds nr43).1
  obtain ⟨hdiv, hmod⟩ := @tickCntr_divides (cpuTicksOf nr43) g.tickCntr (h.noOverflow hstart)
  have hticked := doLfsrTicks_eq (lfsrWidthOf nr43)
    ((g.tickCntr.toNat + 95) / (cpuTicksOf nr43).toNat) ticks
  have hsample : g.writeSample noise =
      (lfsrSequence (lfsrWidthOf nr43) ticks
        ((g.tickCntr.toNat + 95) / (cpuTicksOf nr43).toNat),
      { lfsrBits := lfsrAfter (lfsrWidthOf nr43)
          (ticks + (g.tickCntr.toNat + 95) / (cpuTicksOf nr43).toNat)
        tickCntr := g.tickCntr + streamSampleLength -
          (g.tickCntr + streamSampleLength) / cpuTicksOf nr43 * cpuTicksOf nr43 }) := by
    unfold NoiseGenerator.writeSample
    dsimp only
    rw [hwidth, hticks, hdiv, h.lfsrBits, hticked]
  rw [hsample]
  refine ⟨_, ?_, .inr ?_, ?_, rfl⟩
  · -- The cycles of the sample are those of its ticks and what it leaves on the counter.
    have hsplit := Nat.div_add_mod (g.tickCntr.toNat + 95) (cpuTicksOf nr43).toNat
    have hcycles := h.cycles
    rw [hmod, Nat.mul_add, List.length_append, List.length_singleton]
    omega
  · rw [hmod]
    exact Nat.mod_lt _ (by omega)
  · rw [List.flatten_append, h.bits, List.flatten_singleton]
    simpa only [Nat.zero_add] using lfsrSequence_append (lfsrWidthOf nr43) 0 ticks
      ((g.tickCntr.toNat + 95) / (cpuTicksOf nr43).toNat)

/-- And so does a buffer of them. -/
theorem InStep.writeSamples (h : InStep nr43 start ticks g samples) (hstart : start + 95 < 2 ^ 32)
    (hwidth : noise.lfsrWidth = lfsrWidthOf nr43)
    (hticks : noise.cpuTicksPerLfsrSample = cpuTicksOf nr43) (length : Nat) :
    ∃ ticks', InStep nr43 start ticks' (g.writeSamples noise length).2
      (samples ++ (g.writeSamples noise length).1) := by
  induction length generalizing ticks g samples with
  | zero =>
    refine ⟨ticks, ?_⟩
    show InStep nr43 start ticks g (samples ++ [])
    rw [List.append_nil]
    exact h
  | succ length ih =>
    obtain ⟨ticks₁, h₁⟩ := h.writeSample hstart hwidth hticks
    obtain ⟨ticks₂, h₂⟩ := ih h₁
    rw [List.append_assoc] at h₂
    exact ⟨ticks₂, h₂⟩

end Apu

/-! ## Runs -/

open Apu

/-- A run of the sound with its noise generator. -/
structure NoiseLog where
  sound : Sound
  generator : NoiseGenerator
  /-- The samples written so far. -/
  samples : List (List Bool) := []

namespace NoiseLog

/-- A step of the sound, or a call of the audio callback for a number of samples. -/
inductive Event where
  | sound (e : Sound.Event)
  | callback (length : Nat)

/-- `TriggerEventNoise` runs. -/
def TriggersNoise (e : Sound.Event) : Prop := ∃ ports, e = .deliver ports ∧ .trigger .noise ∈ ports

instance (e : Sound.Event) : Decidable (TriggersNoise e) := by
  unfold TriggersNoise
  cases e with
  | deliver ports =>
    exact decidable_of_iff (.trigger .noise ∈ ports) ⟨fun h => ⟨ports, rfl, h⟩, fun ⟨_, h, hp⟩ => by
      cases h
      exact hp⟩
  | _ => exact isFalse fun ⟨_, h, _⟩ => by cases h

/-- The audio callback, from the noise channel's view. -/
def callback (length : Nat) (s : NoiseLog) : NoiseLog :=
  let apu := s.sound.apu.audioCallback s.sound.io
  if s.sound.io.regNr52 >>> 7 = 0 then s
  else
    let written := s.generator.writeDataIntoStream apu.noise length
    { sound := { s.sound with apu }, generator := written.2, samples := s.samples ++ written.1 }

def step (game : List U8) (s : NoiseLog) : Event → Except Fault NoiseLog
  | .sound e => do
    let sound ← s.sound.step game e
    -- `TriggerEventNoise` clears the shift register.
    let generator := if TriggersNoise e then { s.generator with lfsrBits := 0 } else s.generator
    return { s with sound, generator }
  | .callback length => .ok (s.callback length)

/-- The register reads `nr43` whenever the callback runs, and no event triggers the channel. -/
def Undisturbed (nr43 : U8) (s : NoiseLog) : Event → Prop
  | .sound e => ¬ TriggersNoise e
  | .callback _ => s.sound.io.regNr43 = nr43

variable {game : List U8} {nr43 : U8} {start : Nat} {s s' : NoiseLog}

/-- The generator is in step with the samples written so far. -/
def InStep (nr43 : U8) (start : Nat) (s : NoiseLog) : Prop :=
  ∃ ticks, Apu.InStep nr43 start ticks s.generator s.samples

theorem step_inStep {e : Event} (hstart : start + 95 < 2 ^ 32) (hguard : Undisturbed nr43 s e)
    (hstep : s.step game e = .ok s') (h : s.InStep nr43 start) : s'.InStep nr43 start := by
  obtain ⟨ticks, h⟩ := h
  cases e with
  | sound e =>
    obtain ⟨sound, -, hs⟩ := StateExcept.except_bind_eq_ok hstep
    rw [if_neg hguard] at hs
    cases hs
    exact ⟨ticks, h⟩
  | callback length =>
    cases hstep
    show (s.callback length).InStep nr43 start
    unfold callback
    dsimp only
    split_ifs with hoff
    · exact ⟨ticks, h⟩
    · obtain ⟨hwidth, hticks⟩ := Apu.audioCallback_noise hoff s.sound.apu
      have hreg : s.sound.io.regNr43 = nr43 := hguard
      rw [hreg] at hwidth hticks
      unfold Apu.NoiseGenerator.writeDataIntoStream
      split_ifs with hsilent
      · refine ⟨ticks, ?_⟩
        show Apu.InStep nr43 start ticks s.generator (s.samples ++ [])
        rw [List.append_nil]
        exact h
      · exact h.writeSamples hstart hwidth hticks length

theorem run_inStep {events : List Event} (hstart : start + 95 < 2 ^ 32)
    (hrun : events.foldlM (step game) s = .ok s')
    (hguard : ∀ pre e suf m, events = pre ++ e :: suf → pre.foldlM (step game) s = .ok m →
      Undisturbed nr43 m e)
    (h : s.InStep nr43 start) : s'.InStep nr43 start :=
  History.run_guarded (Undisturbed nr43) (fun _ _ _ hg hs hi => step_inStep hstart hg hs hi) hrun
    hguard h

/-- In every run of the sound from a trigger on, in which the callback finds one value in NR43 and
    nothing triggers the channel again, and for any division of the samples into buffers: the
    register has made as many ticks as fit into the clock cycles of the samples, the rest of the
    cycles is on the counter, and the bits put out are the sequence of the ticks so far. The
    register is back at its start exactly after a whole number of periods. -/
theorem noise_since_trigger {events : List Event} (hfresh : s.samples = [])
    (htriggered : s.generator.lfsrBits = 0) (hstart : s.generator.tickCntr.toNat + 95 < 2 ^ 32)
    (hrun : events.foldlM (step game) s = .ok s')
    (hguard : ∀ pre e suf m, events = pre ++ e :: suf → pre.foldlM (step game) s = .ok m →
      Undisturbed nr43 m e) (hsound : s'.samples ≠ []) :
    ∃ ticks, ticks =
        (s.generator.tickCntr.toNat + 95 * s'.samples.length) / (cpuTicksOf nr43).toNat ∧
      s'.generator.tickCntr.toNat =
        (s.generator.tickCntr.toNat + 95 * s'.samples.length) % (cpuTicksOf nr43).toNat ∧
      s'.samples.flatten = lfsrSequence (lfsrWidthOf nr43) 0 ticks ∧
      s'.generator.lfsrBits = lfsrAfter (lfsrWidthOf nr43) ticks ∧
      (s'.generator.lfsrBits = 0 ↔ lfsrPeriodOf nr43 ∣ ticks) := by
  have hinit : s.InStep nr43 s.generator.tickCntr.toNat := by
    refine ⟨0, ?_, .inl ⟨hfresh, rfl⟩, ?_, htriggered⟩
    · rw [hfresh]
      exact Nat.zero_add _
    · rw [hfresh]
      rfl
  obtain ⟨ticks, hcycles, hrest, hbits, hreg⟩ := run_inStep hstart hrun hguard hinit
  have hlt : s'.generator.tickCntr.toNat < (cpuTicksOf nr43).toNat :=
    hrest.resolve_left fun h => hsound h.1
  refine ⟨ticks, ?_, ?_, hbits, hreg, ?_⟩
  · rw [← hcycles, Nat.mul_add_div (by omega), Nat.div_eq_of_lt hlt, Nat.add_zero]
  · rw [← hcycles, Nat.mul_add_mod, Nat.mod_eq_of_lt hlt]
  · rw [hreg, ← minimalPeriod_lfsrTick nr43]
    exact Function.isPeriodicPt_iff_minimalPeriod_dvd

/-- Three samples with the APU just turned on and NR43 zero. -/
theorem three_samples : ∃ s',
    [Event.sound (.access { command := .write, address := 0xFF26, data := 0x80 }),
      .callback 3].foldlM (step [])
        { sound := { gb := Gb.powerOn .blank }, generator := ⟨0, 7⟩ } = .ok s' ∧
    s'.samples.flatten = lfsrSequence 15 0 36 := by
  have hran : ([Event.sound (.access { command := .write, address := 0xFF26, data := 0x80 }),
      .callback 3].foldlM (step [])
        { sound := { gb := Gb.powerOn .blank }, generator := ⟨0, 7⟩ }).map
      (fun s' => s'.samples.length) = .ok 3 := by decide +kernel
  have hreg : (step [] { sound := { gb := Gb.powerOn .blank }, generator := ⟨0, 7⟩ }
      (.sound (.access { command := .write, address := 0xFF26, data := 0x80 }))).map
      (fun m => m.sound.io.regNr43) = .ok 0 := by decide +kernel
  obtain ⟨s', hrun, hlength⟩ := StateExcept.map_eq_ok hran
  obtain ⟨m', hfirst, hzero⟩ := StateExcept.map_eq_ok hreg
  refine ⟨s', hrun, ?_⟩
  obtain ⟨ticks, hticks, -, hbits, -⟩ := @noise_since_trigger [] 0 _ s' _ rfl rfl (by decide) hrun
    (by
      intro pre e suf m hevents hpre
      obtain _ | ⟨e₁, _ | ⟨e₂, pre⟩⟩ := pre
      · obtain ⟨rfl, -⟩ := List.cons.inj hevents
        rintro ⟨ports, hports, -⟩
        cases hports
      · obtain ⟨rfl, hrest⟩ := List.cons.inj hevents
        obtain ⟨rfl, -⟩ := List.cons.inj hrest
        rw [List.foldlM_cons, hfirst] at hpre
        cases hpre
        exact hzero
      · simp at hevents)
    (by
      intro hnone
      rw [hnone] at hlength
      cases hlength)
  rw [hlength] at hticks
  rw [hbits, hticks]
  rfl

end NoiseLog

end TlmBoy
