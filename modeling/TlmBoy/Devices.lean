import TlmBoy.GenericMemory

/-
  The bus slaves with registers of their own: `JoyPad`, `Serial`, `Timer` and `IoRegisters`.

  Each `bTransport` takes a payload and the device and returns both as the call leaves them. Two
  effects reach beyond the device. A write to an `sc_signal` becomes visible when the writing
  process waits, so a signal holds its current value and the one written to it. A write to 0xFF46
  starts the OAM DMA, which uses the bus; `IoRegisters.bTransport` returns the byte and the bus
  performs the transfer, since the call is the last thing the write does.
-/

namespace TlmBoy

/-! ## `JoyPad` -/

structure JoyPad where
  butUp : Bool := false
  butDown : Bool := false
  butLeft : Bool := false
  butRight : Bool := false
  butA : Bool := false
  butB : Bool := false
  butStart : Bool := false
  butSelect : Bool := false
  regP1 : U8 := 0b00111111
deriving DecidableEq, Repr

namespace JoyPad

/-- `ReadReg` returns the register as it leaves it. -/
def readReg (j : JoyPad) : JoyPad :=
  let reg := j.regP1
  let reg :=
    if !isBitSet reg 4 then
      setBit (setBit (setBit (setBit reg (!j.butRight) 0) (!j.butLeft) 1) (!j.butUp) 2)
        (!j.butDown) 3
    else reg
  let reg :=
    if !isBitSet reg 5 then
      setBit (setBit (setBit (setBit reg (!j.butA) 0) (!j.butB) 1) (!j.butSelect) 2)
        (!j.butStart) 3
    else reg
  { j with regP1 := reg }

def writeReg (dat : U8) (j : JoyPad) : JoyPad :=
  { j with regP1 := (j.regP1 &&& 0b00001111) ||| (dat &&& 0b1111000) }

def bTransport (trans : Payload) (j : JoyPad) : Except Fault (Payload × JoyPad) := do
  cAssert (trans.address = 0) "static_cast<u16>(trans.get_address()) == 0"
  match trans.command with
  | .read => return ({ trans with data := j.readReg.regP1, responseStatus := .ok }, j.readReg)
  | .write => return ({ trans with responseStatus := .ok }, j.writeReg trans.data)
  | .ignore => return ({ trans with responseStatus := .commandError }, j)

end JoyPad

/-! ## `Serial` -/

structure Serial where
  ongoingTransmission : Bool
  regSc : U8
  /-- `interrupt_event` has been notified and has not fired. -/
  interruptPending : Bool := false
deriving DecidableEq, Repr

namespace Serial

def kMaskClockSource : U8 := 0b1
def kMaskTransferStart : U8 := 0b10000000

def bTransport (trans : Payload) (s : Serial) : Except Fault (Payload × Serial) := do
  let adr := trans.address
  cAssert (adr < 0x2) "adr < 0x2"
  match trans.command with
  | .read =>
    let data := if adr = 0 then 0xFF else s.regSc
    return ({ trans with data, responseStatus := .ok }, s)
  | .write =>
    let s := if adr = 1 then { s with regSc := trans.data } else s
    let clockInternal := (s.regSc &&& kMaskClockSource) != 0
    let startTransfer := (s.regSc &&& kMaskTransferStart) != 0
    let s :=
      if adr = 1 ∧ startTransfer ∧ ¬ s.ongoingTransmission ∧ clockInternal then
        { s with interruptPending := true, ongoingTransmission := true }
      else s
    return ({ trans with responseStatus := .ok }, s)
  | .ignore => return ({ trans with responseStatus := .commandError }, s)

end Serial

/-! ## `Timer` -/

structure Timer where
  regDiv : U8
  regTac : U8
  regTima : U8
  regTma : U8
  cyclesPerInc : Nat := 1024
  /-- `inc_time_` in nanoseconds. -/
  incTime : Nat := 1024 * GbConst.kNsPerClkCycle
deriving DecidableEq, Repr

namespace Timer

/-- The clock cycles of one increment that `reg_tac_` selects. -/
def selectCycles (tac : U8) : Nat :=
  match (tac &&& 0b11).toNat with
  | 0 => 1024
  | 1 => 16
  | 2 => 64
  | _ => 256

def read (adr : U16) (t : Timer) : Except Fault U8 :=
  match adr.toNat with
  | 0 => .ok t.regDiv
  | 1 => .ok t.regTima
  | 2 => .ok t.regTma
  | 3 => .ok t.regTac
  | _ => .error (.assertion "false")

/-- Every write to DIV resets it, and every write recomputes `inc_time_`. -/
def write (adr : U16) (v : U8) (t : Timer) : Except Fault Timer := do
  let t ←
    match adr.toNat with
    | 0 => pure { t with regDiv := 0 }
    | 1 => pure { t with regTima := v }
    | 2 => pure { t with regTma := v }
    | 3 => pure { t with regTac := v, cyclesPerInc := selectCycles v }
    | _ => throw (.assertion "false")
  return { t with incTime := t.cyclesPerInc * GbConst.kNsPerClkCycle }

def bTransport (trans : Payload) (t : Timer) : Except Fault (Payload × Timer) := do
  let v ← t.read trans.address
  match trans.command with
  | .read => return ({ trans with data := v, responseStatus := .ok }, t)
  | .write =>
    let t ← t.write trans.address trans.data
    return ({ trans with responseStatus := .ok }, t)
  | .ignore => return ({ trans with responseStatus := .commandError }, t)

end Timer

/-! ## `IoRegisters` -/

/-- An `sc_signal<bool>`: the value read now, and the value from the next delta cycle on. -/
structure ScSignal where
  value : Bool := false
  next : Bool := false
deriving DecidableEq, Repr

/-- `sig.write(v)`. -/
def ScSignal.write (v : Bool) (s : ScSignal) : ScSignal := { s with next := v }

/-- The update phase: the written value becomes the current one. -/
def ScSignal.update (s : ScSignal) : ScSignal := { s with value := s.next }

/-- The output ports of `IoRegisters` that it writes. -/
inductive IoSignal where
  | unmapRom
  | reloadLengthSquare1
  | reloadLengthSquare2
  | reloadLengthWave
  | reloadLengthNoise
  | triggerSquare1
  | triggerSquare2
  | triggerNoise
deriving DecidableEq, Repr

structure IoRegisters extends GenericMemory 0x80 where
  signals : IoSignal → ScSignal := fun _ => {}

namespace IoRegisters

def writeSignal (sig : IoSignal) (v : Bool) (io : IoRegisters) : IoRegisters :=
  { io with signals := Function.update io.signals sig ((io.signals sig).write v) }

/-- `sig.write(!sig.read())`. -/
def toggle (sig : IoSignal) (io : IoRegisters) : IoRegisters :=
  io.writeSignal sig (!(io.signals sig).value)

/-- `data_[adr] = v`. -/
def storeReg (adr : U16) (v : U8) (io : IoRegisters) : Except Fault IoRegisters := do
  let m ← io.toGenericMemory.store adr v
  return { io with toGenericMemory := m }

/-- The bits of a register that read as 1, where the read switch has a case. -/
def readMask (adr : U16) : Option U8 :=
  match adr.toNat with
  | 0x00 => some 0x80
  | 0x01 => some 0x3F
  | 0x03 => some 0xFF
  | 0x04 => some 0xBF
  | 0x05 => some 0xFF
  | 0x06 => some 0x3F
  | 0x08 => some 0xFF
  | 0x09 => some 0xBF
  | 0x0A => some 0x7F
  | 0x0B => some 0xFF
  | 0x0C => some 0x9F
  | 0x0D => some 0xFF
  | 0x0E => some 0xBF
  | 0x0F => some 0xFF
  | 0x10 => some 0xFF
  | 0x13 => some 0xBF
  | 0x16 => some 0x70
  | 0x17 | 0x18 | 0x19 | 0x1a | 0x1b | 0x1c | 0x1d | 0x1e | 0x1f => some 0xFF
  | _ => none

/-- Turning off the APU: `memset(data_, 0, 0x20)`, with `data_[0xa]` put back. -/
def apuOff (io : IoRegisters) : IoRegisters :=
  { io with data := fun i => if i.val < 0x20 ∧ i.val ≠ 0xa then 0 else io.data i }

/-- The write switch. Returns the byte of an OAM DMA when one is started. -/
def writeReg (adr : U16) (v : U8) (io : IoRegisters) : Except Fault (IoRegisters × Option U8) := do
  let trigger := (v &&& 0b10000000) != 0
  match adr.toNat with
  | 0x00 =>
    let io ← io.storeReg adr v
    return (io.toggle .reloadLengthSquare1, none)
  | 0x04 =>
    let io ← io.storeReg adr v
    return (if trigger then io.toggle .triggerSquare1 else io, none)
  | 0x06 =>
    let io ← io.storeReg adr v
    return (io.toggle .reloadLengthSquare2, none)
  | 0x09 =>
    let io ← io.storeReg adr v
    return (if trigger then io.toggle .triggerSquare2 else io, none)
  | 0x0B =>
    let io ← (io.writeSignal .reloadLengthWave true).storeReg adr v
    return (io, none)
  | 0x10 =>
    let io ← (io.writeSignal .reloadLengthNoise true).storeReg adr v
    return (io, none)
  | 0x13 =>
    let io ← io.storeReg adr v
    return (if trigger then io.toggle .triggerNoise else io, none)
  | 0x16 =>
    let io ← io.storeReg adr (v &&& 0b10000000)
    return (io, none)
  | 0x31 =>
    -- The mode bits are read-only.
    let io ← io.storeReg adr ((v &&& 0x78) ||| (io.data 0x31 &&& 0x07))
    return (io, none)
  | 0x36 => return (io, some v)
  | 0x40 => return (if v = 1 then io.writeSignal .unmapRom true else io, none)
  | 0x7F => return (io, none)
  | _ =>
    let io ← io.storeReg adr v
    return (io, none)

def bTransport (trans : Payload) (io : IoRegisters) :
    Except Fault (Payload × IoRegisters × Option U8) := do
  let adr := trans.address
  match trans.command with
  | .read =>
    let v ← io.toGenericMemory.load adr
    let data := match readMask adr with
      | some mask => mask ||| v
      | none => v
    return ({ trans with data, responseStatus := .ok }, io, none)
  | .write =>
    let trans := { trans with responseStatus := .ok }
    let io := if adr = 0x16 ∧ (trans.data &&& 0b10000000) = 0 then io.apuOff else io
    -- APU writes are ignored if the APU is turned off.
    if adr < 0x20 ∧ adr ≠ 0x16 ∧ (io.data 0x16 &&& 0b10000000) = 0 then
      return (trans, io, none)
    let (io, dma) ← io.writeReg adr trans.data
    return (trans, io, dma)
  | .ignore => return ({ trans with responseStatus := .commandError }, io, none)

end IoRegisters

end TlmBoy
