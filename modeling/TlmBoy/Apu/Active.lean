import TlmBoy.Apu.Channels
import TlmBoy.Apu.Power

/-
  What every run of the APU keeps: a channel whose status bit is set has a length left.

  A status bit is set by a trigger only, which reloads a length of zero first, and the decrement
  that makes a length zero clears the bit. All other steps leave the lengths alone and clear
  status bits at most. The bounds of the lengths, the volumes and the frequencies come along.
-/

namespace TlmBoy

namespace Apu

/-- A set status bit means a length of at least 1. -/
def Live (mask nr52 : U8) (ch : Channel) : Prop := nr52 &&& mask ≠ 0 → 1 ≤ ch.lengthLoad

/-- Every bit of `v'` is one of `v`. -/
def Clears (v v' : U8) : Prop := ∀ mask : U8, v' &&& mask ≠ 0 → v &&& mask ≠ 0

theorem Clears.refl (v : U8) : Clears v v := fun _ h => h

theorem Clears.trans {v₁ v₂ v₃ : U8} (h : Clears v₁ v₂) (h' : Clears v₂ v₃) : Clears v₁ v₃ :=
  fun mask hmask => h mask (h' mask hmask)

theorem clears_and (v mask : U8) : Clears v (v &&& mask) := by
  intro m hm hzero
  apply hm
  rw [BitVec.and_assoc, BitVec.and_comm mask, ← BitVec.and_assoc, hzero]
  exact BitVec.zero_and

theorem Live.clear {mask v v' : U8} {ch : Channel} (h : Live mask v ch) (hclears : Clears v v') :
    Live mask v' ch := fun hbit => h (hclears mask hbit)

/-- The bounds of the frequencies, and of the three bits from which the callback makes them. -/
def Tuned (f : U32 × U32 × U8) : Prop := f.1 ≤ 2047 ∧ f.2.1 ≤ 2047 ∧ f.2.2 ≤ 7

/-- The bounds of a channel's members. -/
structure ChannelBounded (c : ChannelName) (nr52 : U8) (ch : Channel) : Prop where
  live : Live c.statusMask nr52 ch
  length : ch.lengthLoad ≤ c.maxLength
  volume : c ≠ .wave → 0 ≤ ch.volume ∧ ch.volume ≤ 15

structure Bounded (io : IoRegisters) (apu : Apu) : Prop where
  channels : ∀ c : ChannelName, ChannelBounded c io.regNr52 (apu.channel c)
  frequencies : Tuned apu.frequencies

theorem ChannelBounded.clear {c : ChannelName} {v v' : U8} {ch : Channel}
    (h : ChannelBounded c v ch) (hclears : Clears v v') : ChannelBounded c v' ch :=
  ⟨h.live.clear hclears, h.length, h.volume⟩

/-! ## The methods of the signals -/

theorem reload_bounded {io : IoRegisters} {apu : Apu} (h : Bounded io apu) (c : ChannelName) :
    Bounded io ((Port.reloadLength c).method io apu).1 := by
  have hbounds := c.loadedLength_bounds (io.data c.lengthReg)
  constructor
  · intro c'
    rw [reload_channel]
    by_cases hc : c' = c
    · subst hc
      rw [if_pos rfl]
      exact ⟨fun _ => hbounds.1, hbounds.2, (h.channels c').volume⟩
    · rw [if_neg hc]
      exact h.channels c'
  · rw [method_frequencies]
    exact h.frequencies

/-- The masks are single bits of their own. -/
theorem statusMask_disjoint {c c' : ChannelName} (hc : c' ≠ c) :
    c.statusMask &&& c'.statusMask = 0 := by
  cases c <;> cases c' <;> first | rfl | exact absurd rfl hc

/-- A trigger sets no status bit but the channel's own. -/
theorem trigger_status (c : ChannelName) (io : IoRegisters) (apu : Apu) {c' : ChannelName}
    (hc : c' ≠ c) : ((Port.trigger c).method io apu).2.regNr52 &&& c'.statusMask =
      io.regNr52 &&& c'.statusMask := by
  rw [trigger_io]
  split_ifs
  · have hpoke : (io.poke 0x16 (io.regNr52 ||| c.statusMask)).regNr52 =
        io.regNr52 ||| c.statusMask := io.poke_self ..
    rw [hpoke, BitVec.and_or_distrib_right, statusMask_disjoint hc]
    exact BitVec.or_zero
  · rfl

theorem trigger_bounded {io : IoRegisters} {apu : Apu} (h : Bounded io apu) (c : ChannelName) :
    Bounded ((Port.trigger c).method io apu).2 ((Port.trigger c).method io apu).1 := by
  obtain ⟨hone, hmax⟩ := c.loadedLength_bounds (io.data c.lengthReg)
  constructor
  · intro c'
    rw [trigger_channel]
    by_cases hc : c' = c
    · subst hc
      rw [if_pos rfl]
      by_cases hzero : (apu.channel c').lengthLoad = 0
      · rw [if_pos hzero]
        exact ⟨fun _ => hone, hmax, fun hwave => ChannelName.loadedVolume_bounds hwave _⟩
      · rw [if_neg hzero]
        have hpos : 1 ≤ (apu.channel c').lengthLoad := by bv_omega
        exact ⟨fun _ => hpos, (h.channels c').length,
          fun hwave => ChannelName.loadedVolume_bounds hwave _⟩
    · rw [if_neg hc]
      refine ⟨fun hbit => (h.channels c').live ?_, (h.channels c').length, (h.channels c').volume⟩
      rwa [trigger_status c io apu hc] at hbit
  · rw [method_frequencies]
    exact h.frequencies

theorem runMethods_bounded (ports : List Port) {io : IoRegisters} {apu : Apu}
    (h : Bounded io apu) : Bounded (runMethods ports io apu).2 (runMethods ports io apu).1 := by
  induction ports generalizing io apu with
  | nil => exact h
  | cons p ports ih =>
    cases p with
    | reloadLength c =>
      have hfirst : Bounded ((Port.reloadLength c).method io apu).2
          ((Port.reloadLength c).method io apu).1 := by
        rw [reload_io]
        exact reload_bounded h c
      exact ih hfirst
    | trigger c => exact ih (trigger_bounded h c)

/-! ## The parts of the audio loop -/

/-- A length that is counted down to zero takes its status bit with it. -/
theorem decrementLength_bounded {c : ChannelName} {v : U8} {ch : Channel}
    (h : ChannelBounded c v ch) : ChannelBounded c (ch.decrementLength c.statusMask v).2
      (ch.decrementLength c.statusMask v).1 := by
  unfold Channel.decrementLength
  by_cases hcount : ch.lengthEnable = true ∧ 1 ≤ ch.lengthLoad
  · have hmax := h.length
    have hle : ch.lengthLoad - 1 ≤ ch.lengthLoad := by
      have := hcount.2
      bv_omega
    rw [if_pos hcount]
    refine ⟨fun hbit => ?_, BitVec.le_trans hle hmax, h.volume⟩
    dsimp only at hbit ⊢
    by_cases hzero : ch.lengthLoad - 1 = 0
    · rw [if_pos hzero, BitVec.and_assoc, BitVec.and_comm (~~~_), BitVec.and_not_self] at hbit
      exact absurd BitVec.and_zero hbit
    · bv_omega
  · rw [if_neg hcount]
    exact h

theorem decrementLength_clears (ch : Channel) (mask v : U8) :
    Clears v (ch.decrementLength mask v).2 := by
  unfold Channel.decrementLength
  split_ifs
  · dsimp only
    split_ifs
    · exact clears_and v _
    · exact .refl v
  · exact .refl v

/-- A channel's turn, when the turns before it have cleared bits at most. -/
theorem decrementLength_turn {c : ChannelName} {v₀ v : U8} {ch : Channel}
    (h : ChannelBounded c v₀ ch) (hclears : Clears v₀ v) :
    ChannelBounded c (ch.decrementLength c.statusMask v).2
        (ch.decrementLength c.statusMask v).1 ∧
      Clears v (ch.decrementLength c.statusMask v).2 :=
  ⟨decrementLength_bounded (h.clear hclears), decrementLength_clears ch c.statusMask v⟩

theorem decrementLengths_bounded {io : IoRegisters} {apu : Apu} (h : Bounded io apu) :
    Bounded (apu.decrementLengths io).2 (apu.decrementLengths io).1 := by
  have hen : ∀ c, ChannelBounded c io.regNr52 ((apu.enableLengths io).channel c) := by
    intro c
    obtain ⟨hlive, hlength, hvolume⟩ := h.channels c
    cases c <;> exact ⟨hlive, hlength, hvolume⟩
  obtain ⟨h1, c1⟩ := decrementLength_turn (hen .square1) (.refl _)
  obtain ⟨h2, c2⟩ := decrementLength_turn (hen .square2) c1
  obtain ⟨h3, c3⟩ := decrementLength_turn (hen .wave) (c1.trans c2)
  obtain ⟨h4, c4⟩ := decrementLength_turn (hen .noise) ((c1.trans c2).trans c3)
  have hnr52 : (apu.decrementLengths io).2.regNr52 = _ := io.poke_self 0x16 _
  refine ⟨fun c => ?_, h.frequencies⟩
  rw [hnr52]
  cases c with
  | square1 => exact ((h1.clear c2).clear c3).clear c4
  | square2 => exact (h2.clear c3).clear c4
  | wave => exact h3.clear c4
  | noise => exact h4

theorem doSweep_clears (io : IoRegisters) (apu : Apu) :
    Clears io.regNr52 (apu.doSweep io).2.regNr52 := by
  have hpokes : ∀ (io' : IoRegisters) (lsb msb : U8),
      ((io'.poke 0x03 lsb).poke 0x04 msb).regNr52 = io'.regNr52 := by
    intro io' lsb msb
    have hmsb := (io'.poke 0x03 lsb).poke_of_ne (show (0x16 : Fin 0x80) ≠ 0x04 by decide) msb
    have hlsb := io'.poke_of_ne (show (0x16 : Fin 0x80) ≠ 0x03 by decide) lsb
    exact hmsb.trans hlsb
  unfold doSweep
  dsimp only
  split_ifs
  · exact .refl _
  · rw [hpokes]
    have hself : (io.poke 0x16 (io.regNr52 &&& ~~~kSquare1StatusMask)).regNr52 = _ :=
      io.poke_self 0x16 _
    rw [hself]
    exact clears_and _ _
  · rw [hpokes]
    exact .refl _
  · exact .refl _

theorem clampFrequency_le (f : U32) : clampFrequency f ≤ 2047 := by
  unfold clampFrequency
  split_ifs with h
  · exact BitVec.le_of_lt h
  · exact BitVec.le_refl _

theorem doSweep_bounded {io : IoRegisters} {apu : Apu} (h : Bounded io apu) :
    Bounded (apu.doSweep io).2 (apu.doSweep io).1 := by
  have hchannel : ∀ c, (apu.doSweep io).1.channel c = apu.channel c := by
    intro c
    unfold doSweep
    dsimp only
    split_ifs <;> cases c <;> rfl
  constructor
  · intro c
    rw [hchannel]
    exact (h.channels c).clear (doSweep_clears io apu)
  · obtain ⟨h1, h2, h3⟩ := h.frequencies
    unfold doSweep
    dsimp only
    split_ifs
    · exact ⟨h1, h2, h3⟩
    · exact ⟨clampFrequency_le _, h2, h3⟩
    · exact ⟨clampFrequency_le _, h2, h3⟩
    · exact ⟨h1, h2, h3⟩

theorem envelopedVolume_bounds {v : Int} (hv : 0 ≤ v ∧ v ≤ 15) (i period : U32) (mode : Bool) :
    0 ≤ envelopedVolume i period mode v ∧ envelopedVolume i period mode v ≤ 15 := by
  unfold envelopedVolume
  split_ifs <;> omega

theorem updateEnvelopes_bounded {io : IoRegisters} {apu : Apu} (h : Bounded io apu) :
    Bounded io (apu.updateEnvelopes io) := by
  refine ⟨fun c => ?_, h.frequencies⟩
  obtain ⟨hlive, hlength, hvolume⟩ := h.channels c
  cases c with
  | wave => exact ⟨hlive, hlength, hvolume⟩
  | square1 => exact ⟨hlive, hlength, fun hc => envelopedVolume_bounds (hvolume hc) _ _ _⟩
  | square2 => exact ⟨hlive, hlength, fun hc => envelopedVolume_bounds (hvolume hc) _ _ _⟩
  | noise => exact ⟨hlive, hlength, fun hc => envelopedVolume_bounds (hvolume hc) _ _ _⟩

/-! ## The audio callback -/

/-- Eleven bits make a frequency of at most 2047. -/
theorem callbackFrequency_le {apu : Apu} (h : apu.frequencyMsb ≤ 7) :
    apu.callbackFrequency ≤ 2047 := by
  have hlsb := apu.frequencyLsb.isLt
  have hmsb : apu.frequencyMsb.toNat ≤ 7 := h
  have hhigh : (apu.frequencyMsb.setWidth 32 <<< 8).toNat < 2 ^ 11 := by
    rw [BitVec.toNat_shiftLeft, BitVec.toNat_setWidth, Nat.shiftLeft_eq]
    omega
  have hlow : (apu.frequencyLsb.setWidth 32).toNat < 2 ^ 11 := by
    rw [BitVec.toNat_setWidth]
    omega
  have hor := Nat.or_lt_two_pow hhigh hlow
  rw [← BitVec.toNat_or] at hor
  exact Nat.le_of_lt_succ hor

theorem and_7_le (v : U8) : v &&& 0b111 ≤ 7 := by
  have hand : (v &&& 0b111).toNat ≤ 7 := by
    rw [BitVec.toNat_and]
    exact Nat.and_le_right
  exact hand

theorem callbackStep_bounded {io : IoRegisters} {apu : Apu} (h : Bounded io apu)
    (s : CallbackStep) : Bounded io (apu.callbackStep io s) := by
  obtain ⟨h1, h2, h3⟩ := h.frequencies
  have hfreq : Tuned (apu.callbackStep io s).frequencies := by
    cases s
    case msb1 | msb2 | msbWave => exact ⟨h1, h2, and_7_le _⟩
    case frequency1 => exact ⟨callbackFrequency_le h3, h2, h3⟩
    case frequency2 => exact ⟨h1, callbackFrequency_le h3, h3⟩
    all_goals exact ⟨h1, h2, h3⟩
  refine ⟨fun c => ?_, hfreq⟩
  obtain ⟨hlive, hlength, hvolume⟩ := h.channels c
  cases c with
  | wave => cases s <;> exact ⟨hlive, hlength, fun hc => absurd rfl hc⟩
  | square1 => cases s <;> exact ⟨hlive, hlength, hvolume⟩
  | square2 => cases s <;> exact ⟨hlive, hlength, hvolume⟩
  | noise => cases s <;> exact ⟨hlive, hlength, hvolume⟩

end Apu

namespace Sound

open Apu

/-- A guest's write to NR52 clears the status bits, and no other write changes them. -/
theorem access_clears {game : List U8} {s s' : Sound} {t : Payload}
    (h : step game s (.access t) = .ok s') {c : ChannelName} :
    s'.io.regNr52 &&& c.statusMask ≠ 0 → s.io.regNr52 &&& c.statusMask ≠ 0 := by
  obtain ⟨-, ⟨-, hio⟩ | ⟨i, -, -, hio⟩⟩ := step_access h
  · rw [hio]
    exact id
  · rw [hio, IoRegisters.written_nr52]
    split_ifs
    · intro hbit
      refine absurd ?_ hbit
      rw [BitVec.and_assoc]
      cases c <;> exact BitVec.and_zero
    · exact id

theorem step_bounded {game : List U8} {s s' : Sound} {e : Event} (h : step game s e = .ok s')
    (hs : Bounded s.io s.apu) : Bounded s'.io s'.apu := by
  cases e with
  | access t =>
    have happu := (step_access h).1
    rw [happu]
    refine ⟨fun c => ?_, hs.frequencies⟩
    obtain ⟨hlive, hlength, hvolume⟩ := hs.channels c
    exact ⟨fun hbit => hlive (access_clears h hbit), hlength, hvolume⟩
  | deliver ports =>
    have hrun := step_deliver h
    rw [Prod.ext_iff] at hrun
    dsimp only at hrun
    rw [hrun.1, hrun.2]
    exact runMethods_bounded ports ⟨hs.channels, hs.frequencies⟩
  | decrementLengths =>
    cases h
    exact decrementLengths_bounded hs
  | doSweep =>
    cases h
    exact doSweep_bounded hs
  | updateEnvelopes =>
    cases h
    exact updateEnvelopes_bounded hs
  | callback c =>
    cases h
    exact callbackStep_bounded hs c

/-- After any run from zeroed channels, a channel with its status bit set has a length left, and
    the lengths, the volumes and the frequencies are in their ranges. -/
theorem channels_in_range (game : List U8) (gb : Gb)
    (hstatus : gb.ioRegisters.regNr52 &&& 0b1111 = 0) (es : List Event) (s : Sound)
    (hrun : es.foldlM (step game) { gb, apu := {} } = .ok s) :
    (∀ c : ChannelName, s.io.regNr52 &&& c.statusMask ≠ 0 →
      1 ≤ (s.apu.channel c).lengthLoad) ∧
    (∀ c : ChannelName, (s.apu.channel c).lengthLoad ≤ c.maxLength) ∧
    (∀ c : ChannelName, c ≠ .wave → 0 ≤ (s.apu.channel c).volume ∧ (s.apu.channel c).volume ≤ 15) ∧
    (s.apu.square1.frequency ≤ 2047 ∧ 2048 - s.apu.square1.frequency ≠ 0) ∧
    (s.apu.square2.frequency ≤ 2047 ∧ 2048 - s.apu.square2.frequency ≠ 0) := by
  have hinit : Bounded gb.ioRegisters {} := by
    have htuned : Tuned ({} : Apu).frequencies := ⟨by decide, by decide, by decide⟩
    refine ⟨fun c => ⟨fun hbit => absurd ?_ hbit, by cases c <;> decide, fun _ => ?_⟩, htuned⟩
    · have hmask : c.statusMask = 0b1111 &&& c.statusMask := by cases c <;> decide
      rw [hmask, ← BitVec.and_assoc, hstatus]
      exact BitVec.zero_and
    · cases c <;> decide
  have hend : Bounded s.io s.apu := History.run_induction (fun _ s => Bounded s.io s.apu) hinit
    (fun _ _ _ _ hs h => step_bounded h hs) hrun
  obtain ⟨h1, h2, -⟩ := hend.frequencies
  have hdivisor : ∀ f : U32, f ≤ 2047 → 2048 - f ≠ 0 := by
    intro f hf
    bv_omega
  exact ⟨fun c => (hend.channels c).live, fun c => (hend.channels c).length,
    fun c => (hend.channels c).volume, ⟨h1, hdivisor _ h1⟩, h2, hdivisor _ h2⟩

/-- Square 1 is triggered with its length enabled and steps of every other kind follow. -/
def square1Played : List Event :=
  [guestWrite 0xFF26 0x80, guestWrite 0xFF12 0xF1, guestWrite 0xFF14 0xC7, guestWrite 0xFF10 0x11,
    .deliver [.trigger .square1, .reloadLength .square1], .decrementLengths, .doSweep,
    .updateEnvelopes, .callback .msb1, .callback .frequency1]

theorem square1Played_in_range : ∃ s,
    square1Played.foldlM (step []) { gb := Gb.powerOn .blank } = .ok s ∧ s.io.regNr52 = 0x81 ∧
      1 ≤ (s.apu.channel .square1).lengthLoad ∧ s.apu.square1.frequency ≤ 2047 := by
  have hrun : (square1Played.foldlM (step []) { gb := Gb.powerOn .blank }).map
      (fun s => s.io.regNr52) = .ok 0x81 := by
    decide +kernel
  obtain ⟨s, hs, hnr52⟩ := StateExcept.map_eq_ok hrun
  obtain ⟨hlive, -, -, ⟨hfreq, -⟩, -⟩ := channels_in_range [] (Gb.powerOn .blank) rfl _ s hs
  have hbit : s.io.regNr52 &&& ChannelName.square1.statusMask ≠ 0 := by
    rw [hnr52]
    decide
  exact ⟨s, hs, hnr52, hlive .square1 hbit, hfreq⟩

end Sound

end TlmBoy
