import TlmBoy.Io.Signals

/-
  The APU: lengths, the sweep, the envelopes, and what the audio callback reads.

  `start_of_simulation` gives the APU pointers into `IoRegisters`, so its processes take the
  registers and return them. The members are those that the processes use. The sample generators
  work in floating point and are left out; they read these members and write none of them.
-/

namespace TlmBoy

abbrev U32 := BitVec 32

namespace IoRegisters

/-! ## The pointers of `start_of_simulation` -/

def regNr10 (io : IoRegisters) : U8 := io.data 0x00
def regNr11 (io : IoRegisters) : U8 := io.data 0x01
def regNr12 (io : IoRegisters) : U8 := io.data 0x02
def regNr13 (io : IoRegisters) : U8 := io.data 0x03
def regNr14 (io : IoRegisters) : U8 := io.data 0x04

def regNr21 (io : IoRegisters) : U8 := io.data 0x06
def regNr22 (io : IoRegisters) : U8 := io.data 0x07
def regNr23 (io : IoRegisters) : U8 := io.data 0x08
def regNr24 (io : IoRegisters) : U8 := io.data 0x09

def regNr30 (io : IoRegisters) : U8 := io.data 0x0A
def regNr31 (io : IoRegisters) : U8 := io.data 0x0B
def regNr32 (io : IoRegisters) : U8 := io.data 0x0C
def regNr33 (io : IoRegisters) : U8 := io.data 0x0D
def regNr34 (io : IoRegisters) : U8 := io.data 0x0E

def regNr41 (io : IoRegisters) : U8 := io.data 0x10
def regNr42 (io : IoRegisters) : U8 := io.data 0x11
def regNr43 (io : IoRegisters) : U8 := io.data 0x12
def regNr44 (io : IoRegisters) : U8 := io.data 0x13

def regNr52 (io : IoRegisters) : U8 := io.data 0x16

/-- `data_ptr[i] = v`. -/
def poke (i : Fin 0x80) (v : U8) (io : IoRegisters) : IoRegisters :=
  { io with data := Function.update io.data i v }

theorem poke_self (i : Fin 0x80) (v : U8) (io : IoRegisters) : (io.poke i v).data i = v := by
  show Function.update io.data i v i = v
  exact Function.update_self ..

theorem poke_of_ne {i k : Fin 0x80} (hne : k ≠ i) (v : U8) (io : IoRegisters) :
    (io.poke i v).data k = io.data k := by
  show Function.update io.data i v k = io.data k
  exact Function.update_of_ne hne ..

end IoRegisters

namespace Apu

def kSquare1StatusMask : U8 := 1
def kSquare2StatusMask : U8 := 1 <<< 1
def kWaveStatusMask : U8 := 1 <<< 2
def kNoiseStatusMask : U8 := 1 <<< 3

structure Channel where
  lengthEnable : Bool := false
  volume : Int := 0
  lengthLoad : U32 := 0
deriving DecidableEq, Repr

structure Square extends Channel where
  envelopeMode : Bool := false
  sweepDirection : Bool := false
  duty : U32 := 0
  frequency : U32 := 0
  period : U32 := 0
  sweepCounter : U32 := 0
  sweepStep : U32 := 0
  sweepPeriod : U32 := 0
deriving DecidableEq, Repr

structure Noise extends Channel where
  envelopeMode : Bool := false
  divisor : U32 := 0
  lfsrWidth : U32 := 0
  period : U32 := 0
  shift : U32 := 0
  cpuTicksPerLfsrSample : U32 := 0
deriving DecidableEq, Repr

structure Wave extends Channel where
  dacEnable : Bool := false
  period : U32 := 0
deriving DecidableEq, Repr

end Apu

structure Apu where
  square1 : Apu.Square := {}
  square2 : Apu.Square := {}
  noise : Apu.Noise := {}
  wave : Apu.Wave := {}
  /-- The `static u32 i` of `UpdateEnvelopes`. -/
  envelopeTick : U32 := 0
  /-- The locals of the audio callback. -/
  frequencyLsb : U8 := 0
  frequencyMsb : U8 := 0
deriving DecidableEq, Repr

namespace Apu

/-! ## The methods of the signals -/

def reloadLengthSquare1 (io : IoRegisters) (apu : Apu) : Apu :=
  { apu with square1.lengthLoad := 64 - (io.regNr11 &&& 0b111111).setWidth 32 }

def reloadLengthSquare2 (io : IoRegisters) (apu : Apu) : Apu :=
  { apu with square2.lengthLoad := 64 - (io.regNr21 &&& 0b111111).setWidth 32 }

def reloadLengthWave (io : IoRegisters) (apu : Apu) : Apu :=
  { apu with wave.lengthLoad := 256 - io.regNr31.setWidth 32 }

def reloadLengthNoise (io : IoRegisters) (apu : Apu) : Apu :=
  { apu with noise.lengthLoad := 64 - (io.regNr41 &&& 0b111111).setWidth 32 }

def triggerEventSquare1 (io : IoRegisters) (apu : Apu) : Apu × IoRegisters :=
  let apu := if apu.square1.lengthLoad = 0 then apu.reloadLengthSquare1 io else apu
  let apu := { apu with square1.volume := (io.regNr12 >>> 4).toNat }
  (apu, if (io.regNr12 &&& 0xF8) ≠ 0 then io.poke 0x16 (io.regNr52 ||| kSquare1StatusMask) else io)

def triggerEventSquare2 (io : IoRegisters) (apu : Apu) : Apu × IoRegisters :=
  let apu := if apu.square2.lengthLoad = 0 then apu.reloadLengthSquare2 io else apu
  let apu := { apu with square2.volume := (io.regNr22 >>> 4).toNat }
  (apu, if (io.regNr22 &&& 0xF8) ≠ 0 then io.poke 0x16 (io.regNr52 ||| kSquare2StatusMask) else io)

def triggerEventWave (io : IoRegisters) (apu : Apu) : Apu × IoRegisters :=
  let apu := if apu.wave.lengthLoad = 0 then apu.reloadLengthWave io else apu
  let apu := { apu with wave.volume := ((io.regNr32 >>> 5) &&& 0b11).toNat }
  (apu, io.poke 0x16 (io.regNr52 ||| kWaveStatusMask))

def triggerEventNoise (io : IoRegisters) (apu : Apu) : Apu × IoRegisters :=
  let apu := if apu.noise.lengthLoad = 0 then apu.reloadLengthNoise io else apu
  let apu := { apu with noise.volume := (io.regNr42 >>> 4).toNat }
  (apu, if (io.regNr42 &&& 0xF8) ≠ 0 then io.poke 0x16 (io.regNr52 ||| kNoiseStatusMask) else io)

/-! ## The parts of `AudioLoop` -/

/-- A channel's block of `DecrementLengths`: the channel and NR52 after it. -/
def Channel.decrementLength (mask nr52 : U8) (ch : Channel) : Channel × U8 :=
  if ch.lengthEnable ∧ 1 ≤ ch.lengthLoad then
    let ch := { ch with lengthLoad := ch.lengthLoad - 1 }
    (ch, if ch.lengthLoad = 0 then nr52 &&& ~~~mask else nr52)
  else (ch, nr52)

def enableLengths (io : IoRegisters) (apu : Apu) : Apu :=
  { apu with
    square1.lengthEnable := (io.regNr14 &&& 0b01000000) != 0
    square2.lengthEnable := (io.regNr24 &&& 0b01000000) != 0
    wave.lengthEnable := (io.regNr34 &&& 0b01000000) != 0
    noise.lengthEnable := (io.regNr44 &&& 0b01000000) != 0 }

def decrementLengths (io : IoRegisters) (apu : Apu) : Apu × IoRegisters :=
  let apu := apu.enableLengths io
  let square1 := apu.square1.toChannel.decrementLength kSquare1StatusMask io.regNr52
  let square2 := apu.square2.toChannel.decrementLength kSquare2StatusMask square1.2
  let wave := apu.wave.toChannel.decrementLength kWaveStatusMask square2.2
  let noise := apu.noise.toChannel.decrementLength kNoiseStatusMask wave.2
  ({ apu with
      square1.toChannel := square1.1
      square2.toChannel := square2.1
      wave.toChannel := wave.1
      noise.toChannel := noise.1 },
    io.poke 0x16 noise.2)

/-- The product of the `int` and the `uint` is a `uint`, and so is the quotient. -/
def Square.sweptFrequency (s : Square) : U32 :=
  let dir : U32 := if s.sweepDirection then -1 else 1
  s.frequency + dir * s.frequency / (1 <<< s.sweepStep.toNat)

/-- `std::min(2047u, frequency)`. -/
def clampFrequency (frequency : U32) : U32 := if frequency < 2047 then frequency else 2047

def Square.readSweep (nr10 : U8) (s : Square) : Square :=
  { s with
    sweepStep := (nr10 &&& 0b111).setWidth 32
    sweepDirection := (nr10 &&& 0b1000) != 0
    sweepPeriod := ((nr10 >>> 4) &&& 0b111).setWidth 32 }

def doSweep (io : IoRegisters) (apu : Apu) : Apu × IoRegisters :=
  let square1 := apu.square1.readSweep io.regNr10
  if square1.sweepPeriod = 0 then ({ apu with square1 }, io)
  else if square1.sweepPeriod ≤ square1.sweepCounter then
    let swept := square1.sweptFrequency
    -- Turn off if overflow.
    let io := if 2047 < swept then io.poke 0x16 (io.regNr52 &&& ~~~kSquare1StatusMask) else io
    let frequency := clampFrequency swept
    let io := io.poke 0x03 ((frequency &&& 0xFF).setWidth 8)
    ({ apu with square1 := { square1 with frequency, sweepCounter := 0 } },
      io.poke 0x04 (((frequency &&& 0x700) >>> 8).setWidth 8))
  else
    ({ apu with square1 := { square1 with sweepCounter := square1.sweepCounter + 1 } }, io)

/-- A channel's block of `UpdateEnvelopes`: its volume after the tick `i`. -/
def envelopedVolume (i period : U32) (envelopeMode : Bool) (volume : Int) : Int :=
  if period ≠ 0 ∧ i % period = 0 then
    if envelopeMode then min (volume + 1) 15 else max (volume - 1) 0
  else volume

def updateEnvelopes (io : IoRegisters) (apu : Apu) : Apu :=
  let i := apu.envelopeTick
  let apu := { apu with
    square1.envelopeMode := (io.regNr12 &&& 0b1000) != 0
    square1.period := (io.regNr12 &&& 0b111).setWidth 32
    square2.envelopeMode := (io.regNr22 &&& 0b1000) != 0
    square2.period := (io.regNr22 &&& 0b111).setWidth 32
    noise.envelopeMode := (io.regNr42 &&& 0b1000) != 0
    noise.period := (io.regNr42 &&& 0b111).setWidth 32 }
  { apu with
    square1.volume := envelopedVolume i apu.square1.period apu.square1.envelopeMode
      apu.square1.volume
    square2.volume := envelopedVolume i apu.square2.period apu.square2.envelopeMode
      apu.square2.volume
    noise.volume := envelopedVolume i apu.noise.period apu.noise.envelopeMode apu.noise.volume
    envelopeTick := i + 1 }

/-! ## The audio callback -/

/-- The assignments of the audio callback. The callback has a thread of its own, so others may run
    between two of them. -/
inductive CallbackStep where
  | duty1 | lsb1 | msb1 | frequency1
  | duty2 | lsb2 | msb2 | frequency2
  | dacEnable | waveVolume | lsbWave | msbWave | wavePeriod
  | divisor | lfsrWidth | shift | cpuTicksPerLfsrSample
deriving DecidableEq

def divisorTable (i : U8) : U32 :=
  match (i &&& 0b111).toNat with
  | 0 => 8
  | 1 => 16
  | 2 => 32
  | 3 => 48
  | 4 => 64
  | 5 => 80
  | 6 => 96
  | _ => 112

/-- `static_cast<u16>(frequency_msb) << 8 | static_cast<u16>(frequency_lsb)`. -/
def callbackFrequency (apu : Apu) : U32 :=
  apu.frequencyMsb.setWidth 32 <<< 8 ||| apu.frequencyLsb.setWidth 32

def callbackStep (io : IoRegisters) (apu : Apu) : CallbackStep → Apu
  | .duty1 => { apu with square1.duty := (io.regNr11 >>> 6).setWidth 32 }
  | .lsb1 => { apu with frequencyLsb := io.regNr13 }
  | .msb1 => { apu with frequencyMsb := io.regNr14 &&& 0b111 }
  | .frequency1 => { apu with square1.frequency := apu.callbackFrequency }
  | .duty2 => { apu with square2.duty := (io.regNr21 >>> 6).setWidth 32 }
  | .lsb2 => { apu with frequencyLsb := io.regNr23 }
  | .msb2 => { apu with frequencyMsb := io.regNr24 &&& 0b111 }
  | .frequency2 => { apu with square2.frequency := apu.callbackFrequency }
  | .dacEnable => { apu with wave.dacEnable := (io.regNr30 &&& 0x80) != 0 }
  | .waveVolume => { apu with wave.volume := ((io.regNr32 >>> 5) &&& 0b11).toNat }
  | .lsbWave => { apu with frequencyLsb := io.regNr33 }
  | .msbWave => { apu with frequencyMsb := io.regNr34 &&& 0b111 }
  | .wavePeriod => { apu with wave.period := apu.callbackFrequency }
  | .divisor => { apu with noise.divisor := divisorTable io.regNr43 }
  | .lfsrWidth =>
    { apu with noise.lfsrWidth := if ((io.regNr43 >>> 3) &&& 1) != 0 then 7 else 15 }
  | .shift => { apu with noise.shift := (io.regNr43 >>> 4).setWidth 32 }
  | .cpuTicksPerLfsrSample =>
    { apu with noise.cpuTicksPerLfsrSample := apu.noise.divisor <<< apu.noise.shift.toNat }

/-- The callback when nothing runs in between. -/
def audioCallback (io : IoRegisters) (apu : Apu) : Apu :=
  if io.regNr52 >>> 7 = 0 then apu
  else [.duty1, .lsb1, .msb1, .frequency1, .duty2, .lsb2, .msb2, .frequency2, .dacEnable,
    .waveVolume, .lsbWave, .msbWave, .wavePeriod, .divisor, .lfsrWidth, .shift,
    .cpuTicksPerLfsrSample].foldl (callbackStep io) apu

end Apu

end TlmBoy
