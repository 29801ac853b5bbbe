import TlmBoy.Apu.Sound

/-
  The methods of the APU by channel.

  The four reload methods and the four trigger methods are copies of each other with the channel's
  own registers and masks. `reload_channel` and `trigger_channel` describe them all; the wave
  channel has another length, another volume field, and no DAC condition.
-/

namespace TlmBoy.Apu

namespace ChannelName

/-- NR11, NR21, NR31 and NR41. -/
def lengthReg : ChannelName → Fin 0x80
  | .square1 => 0x01
  | .square2 => 0x06
  | .wave => 0x0B
  | .noise => 0x10

/-- NR12, NR22, NR32 and NR42. -/
def volumeReg : ChannelName → Fin 0x80
  | .square1 => 0x02
  | .square2 => 0x07
  | .wave => 0x0C
  | .noise => 0x11

/-- NR14, NR24, NR34 and NR44. -/
def controlReg : ChannelName → Fin 0x80
  | .square1 => 0x04
  | .square2 => 0x09
  | .wave => 0x0E
  | .noise => 0x13

def statusMask : ChannelName → U8
  | .square1 => kSquare1StatusMask
  | .square2 => kSquare2StatusMask
  | .wave => kWaveStatusMask
  | .noise => kNoiseStatusMask

def maxLength : ChannelName → U32
  | .wave => 256
  | _ => 64

/-- The length that the length register's value stands for. -/
def loadedLength (c : ChannelName) (v : U8) : U32 :=
  match c with
  | .wave => 256 - v.setWidth 32
  | _ => 64 - (v &&& 0b111111).setWidth 32

/-- The volume that the volume register's value stands for. -/
def loadedVolume (c : ChannelName) (v : U8) : Int :=
  match c with
  | .wave => ((v >>> 5) &&& 0b11).toNat
  | _ => (v >>> 4).toNat

/-- By its volume register the channel may be switched on. -/
def dacOn (c : ChannelName) (v : U8) : Prop := c ≠ .wave → (v &&& 0xF8) ≠ 0

instance (c : ChannelName) (v : U8) : Decidable (c.dacOn v) := by
  unfold dacOn
  infer_instance

theorem loadedLength_bounds (c : ChannelName) (v : U8) :
    1 ≤ c.loadedLength v ∧ c.loadedLength v ≤ c.maxLength := by
  have hv : v.toNat < 256 := v.isLt
  have hmask : (v &&& 0b111111).toNat ≤ 63 := by
    rw [BitVec.toNat_and]
    exact Nat.and_le_right
  have hsquare : (1 : U32) ≤ 64 - (v &&& 0b111111).setWidth 32 ∧
      64 - (v &&& 0b111111).setWidth 32 ≤ (64 : U32) := by
    generalize v &&& 0b111111 = w at hmask ⊢
    constructor <;> bv_omega
  cases c with
  | wave =>
    show (1 : U32) ≤ 256 - v.setWidth 32 ∧ 256 - v.setWidth 32 ≤ (256 : U32)
    constructor <;> bv_omega
  | square1 => exact hsquare
  | square2 => exact hsquare
  | noise => exact hsquare

theorem loadedVolume_bounds {c : ChannelName} (hc : c ≠ .wave) (v : U8) :
    0 ≤ c.loadedVolume v ∧ c.loadedVolume v ≤ 15 := by
  have hv : (v >>> 4).toNat ≤ 15 := by
    rw [BitVec.toNat_ushiftRight, Nat.shiftRight_eq_div_pow]
    have := v.isLt
    omega
  have hloaded : c.loadedVolume v = ((v >>> 4).toNat : Int) := by
    cases c with
    | wave => exact absurd rfl hc
    | _ => rfl
  rw [hloaded]
  omega

end ChannelName

/-- The channel's members. -/
def channel (apu : Apu) : ChannelName → Channel
  | .square1 => apu.square1.toChannel
  | .square2 => apu.square2.toChannel
  | .wave => apu.wave.toChannel
  | .noise => apu.noise.toChannel

/-- The frequencies, and the local of the callback from which they get their upper bits. -/
def frequencies (apu : Apu) : U32 × U32 × U8 :=
  (apu.square1.frequency, apu.square2.frequency, apu.frequencyMsb)

variable (c c' : ChannelName) (io : IoRegisters) (apu : Apu)

theorem reload_channel : ((Port.reloadLength c).method io apu).1.channel c' =
    if c' = c then { apu.channel c with lengthLoad := c.loadedLength (io.data c.lengthReg) }
    else apu.channel c' := by
  cases c <;> cases c' <;> rfl

theorem reload_io : ((Port.reloadLength c).method io apu).2 = io := by
  cases c <;> rfl

/-- A trigger reloads a length that has run out, and then the volume. -/
theorem trigger_eq : ((Port.trigger c).method io apu).1.channel c' =
    let apu' := if (apu.channel c).lengthLoad = 0 then ((Port.reloadLength c).method io apu).1
      else apu
    if c' = c then { apu'.channel c with volume := c.loadedVolume (io.data c.volumeReg) }
    else apu'.channel c' := by
  cases c <;> cases c' <;> rfl

theorem trigger_channel : ((Port.trigger c).method io apu).1.channel c' =
    if c' = c then { apu.channel c with
      lengthLoad := if (apu.channel c).lengthLoad = 0 then c.loadedLength (io.data c.lengthReg)
        else (apu.channel c).lengthLoad
      volume := c.loadedVolume (io.data c.volumeReg) }
    else apu.channel c' := by
  rw [trigger_eq]
  dsimp only
  by_cases hzero : (apu.channel c).lengthLoad = 0
  · rw [if_pos hzero, if_pos hzero, reload_channel, reload_channel, if_pos rfl]
    by_cases hc : c' = c
    · rw [if_pos hc, if_pos hc]
    · rw [if_neg hc, if_neg hc, if_neg hc]
  · rw [if_neg hzero, if_neg hzero]

theorem trigger_io : ((Port.trigger c).method io apu).2 =
    if c.dacOn (io.data c.volumeReg) then io.poke 0x16 (io.regNr52 ||| c.statusMask) else io := by
  cases c with
  | wave => exact (if_pos fun h => absurd rfl h).symm
  | square1 => exact if_congr (by simp [ChannelName.dacOn]; rfl) rfl rfl
  | square2 => exact if_congr (by simp [ChannelName.dacOn]; rfl) rfl rfl
  | noise => exact if_congr (by simp [ChannelName.dacOn]; rfl) rfl rfl

theorem method_frequencies (p : Port) : (p.method io apu).1.frequencies = apu.frequencies := by
  cases p with
  | reloadLength c => cases c <;> rfl
  | trigger c =>
    cases c <;>
      simp only [Port.method, triggerEventSquare1, triggerEventSquare2, triggerEventWave,
        triggerEventNoise] <;>
      split_ifs <;> rfl

end TlmBoy.Apu
