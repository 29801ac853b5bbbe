import TlmBoy.Cpu.RegFile
import TlmBoy.Lib.StateExcept

/-
  The CPU's state and the primitives that its instructions are written in: `Cpu`'s data members,
  the flag accessors, `ReadBus`, `WriteBus` and the two fetches.

  Everything outside the CPU is the type `σ`. What the CPU uses of it are three interfaces:
  `BusPort` (the bus behind `init_socket` and the three DMI pointers), `Kernel` (SystemC's clock)
  and `Debugger` (the TCP connection and the message handlers of the GDB server). A member
  function of the source is a `CpuM σ` program.
-/

namespace TlmBoy

/-! ## What the CPU is connected to -/

/-- The bus as the CPU sees it. -/
class BusPort (σ : Type) where
  /-- `init_socket->b_transport`: the payload and the devices as the call leaves them. -/
  bTransport : Payload → σ → Except Fault (Payload × σ)
  /-- `rom_bank_0_[addr]`. -/
  romBank0 : σ → Fin 0x4000 → U8
  /-- What the stack slot of `ReadBus`'s uninitialised local `data` holds. -/
  stackByte : σ → U8
  /-- `*reg_intr_enable_dmi`. -/
  intrEnable : σ → U8
  /-- `*reg_intr_pending_dmi`. -/
  intrPending : σ → U8
  setIntrPending : U8 → σ → σ

/-- SystemC's scheduler as the CPU's thread sees it. Times are in nanoseconds, the resolution
    that `main` sets. -/
class Kernel (σ : Type) where
  /-- `wait(t)`: the other processes run until the CPU's thread is resumed. -/
  wait : Nat → σ → Except Fault σ
  /-- `sc_time_stamp()`. -/
  timeStamp : σ → Nat
  /-- `sc_time_to_pending_activity()`. -/
  timeToPendingActivity : σ → Nat
  /-- `sc_stop()`. -/
  stop : σ → σ

/-- `sc_max_time()`: the largest 64-bit time value. -/
def scMaxTime : Nat := 2 ^ 64 - 1

/-! ## The state -/

/-- `Cpu::CpuState`, the semihosting verdict. -/
inductive CpuState where
  | nominal
  | testPassed
  | testFailed
deriving DecidableEq, Repr

/-- The members of `Cpu` that `ReadBus` and `WriteBus` use, and what lies behind the socket. -/
structure InitSocket (σ : Type) where
  /-- The one payload of all transactions. Its response status is the last one's. -/
  payload : Payload
  gbcmd : GbCommand
  /-- `rom_bank_0_ != nullptr`. -/
  hasRomBank0 : Bool
  sys : σ

/-- The members of `GdbServer` that the CPU's loop reads. -/
structure GdbServer where
  isAttached : Bool := false
  bpSet : Finset U16 := ∅

structure Cpu (σ : Type) where
  regFile : RegFile := {}
  cpuState : CpuState := .nominal
  intrMasterEnable : Bool := false
  initSocket : InitSocket σ
  gdbServer : GdbServer := {}
  halted : Bool := false
  singleStep : Bool := false
  waitNs : Nat := 0
  localTimeDelta : Nat := 0

/-- A member function of `Cpu`. -/
abbrev CpuM (σ : Type) := StateT (Cpu σ) (Except Fault)

variable {σ : Type}

/-! ## Registers and flags -/

def kMaskZFlag : U8 := 0b10000000
def kMaskNFlag : U8 := 0b01000000
def kMaskHFlag : U8 := 0b00100000
def kMaskCFlag : U8 := 0b00010000

def kIndCFlag : Nat := 4
def kIndHFlag : Nat := 5
def kIndNFlag : Nat := 6
def kIndZFlag : Nat := 7

namespace RegFile

def flagC (rf : RegFile) : Bool := (kMaskCFlag &&& rf.f) != 0
def flagH (rf : RegFile) : Bool := (kMaskHFlag &&& rf.f) != 0
def flagN (rf : RegFile) : Bool := (kMaskNFlag &&& rf.f) != 0
def flagZ (rf : RegFile) : Bool := (kMaskZFlag &&& rf.f) != 0

end RegFile

namespace Cpu

def getRegs : CpuM σ RegFile := do
  return (← get).regFile

def modifyRegs (f : RegFile → RegFile) : CpuM σ Unit :=
  modify fun c => { c with regFile := f c.regFile }

def getReg (r : Reg8) : CpuM σ U8 := do
  return (← getRegs).get r

def setReg (r : Reg8) (v : U8) : CpuM σ Unit := modifyRegs fun rf => rf.set r v

def getReg16 (r : Reg16) : CpuM σ U16 := do
  return (← getRegs).get16 r

def setReg16 (r : Reg16) (v : U16) : CpuM σ Unit := modifyRegs fun rf => rf.set16 r v

def getStackReg (r : StackReg) : CpuM σ U16 := do
  return (← getRegs).getStack r

def getPc : CpuM σ U16 := do
  return (← getRegs).pc

def setPc (v : U16) : CpuM σ Unit := modifyRegs fun rf => { rf with pc := v }

def setFlagC (val : Bool) : CpuM σ Unit :=
  modifyRegs fun rf => { rf with f := setBit rf.f val kIndCFlag }

def setFlagH (val : Bool) : CpuM σ Unit :=
  modifyRegs fun rf => { rf with f := setBit rf.f val kIndHFlag }

def setFlagN (val : Bool) : CpuM σ Unit :=
  modifyRegs fun rf => { rf with f := setBit rf.f val kIndNFlag }

def setFlagZ (val : Bool) : CpuM σ Unit :=
  modifyRegs fun rf => { rf with f := setBit rf.f val kIndZFlag }

def getFlagC : CpuM σ Bool := do
  return (← getRegs).flagC

def getFlagH : CpuM σ Bool := do
  return (← getRegs).flagH

def getFlagN : CpuM σ Bool := do
  return (← getRegs).flagN

def getFlagZ : CpuM σ Bool := do
  return (← getRegs).flagZ

def setIntrMasterEnable (val : Bool) : CpuM σ Unit :=
  modify fun c => { c with intrMasterEnable := val }

def setCpuState (val : CpuState) : CpuM σ Unit := modify fun c => { c with cpuState := val }

/-- `wait_ns_ = clkCycles * gb_const::kNsPerClkCycle`. -/
def setWaitNs (clkCycles : Nat) : CpuM σ Unit :=
  modify fun c => { c with waitNs := clkCycles * GbConst.kNsPerClkCycle }

end Cpu

/-! ## The bus -/

namespace InitSocket

variable [BusPort σ]

/-- `Cpu::ReadBus`. -/
def readBus (addr : U16) (cmd : GbCommand) (s : InitSocket σ) :
    Except Fault (U8 × InitSocket σ) :=
  if h : addr.toNat < 0x4000 ∧ s.hasRomBank0 = true then
    .ok (BusPort.romBank0 s.sys ⟨addr.toNat, h.1⟩, s)
  else do
    let payload := { s.payload with
      command := .read, address := addr, data := BusPort.stackByte s.sys, extension := some cmd }
    let (payload, sys) ← BusPort.bTransport payload s.sys
    if payload.responseStatus.isResponseError then
      throw (.runtimeError ("Response error from transport_dbg!\nAddress=0x" ++
        fmtHex 4 addr.toNat ++ " Data=0x" ++ fmtHex 2 payload.data.toNat))
    return (payload.data, { s with payload, gbcmd := cmd, sys })

/-- `Cpu::WriteBus`. The response status is not looked at. -/
def writeBus (addr : U16) (data : U8) (s : InitSocket σ) : Except Fault (InitSocket σ) := do
  let payload := { s.payload with
    command := .write, address := addr, data, extension := some s.gbcmd }
  let (payload, sys) ← BusPort.bTransport payload s.sys
  return { s with payload, sys }

end InitSocket

namespace Cpu

variable [BusPort σ]

def readBus (addr : U16) (cmd : GbCommand) : CpuM σ U8 := fun c =>
  (c.initSocket.readBus addr cmd).map fun r => (r.1, { c with initSocket := r.2 })

def writeBus (addr : U16) (data : U8) : CpuM σ Unit := fun c =>
  (c.initSocket.writeBus addr data).map fun s => ((), { c with initSocket := s })

/-- The bus does not see the registers. -/
theorem readBus_regFile {addr : U16} {cmd : GbCommand} {c c' : Cpu σ} {v : U8}
    (h : readBus addr cmd c = .ok (v, c')) : c'.regFile = c.regFile := by
  obtain ⟨r, -, hr⟩ := StateExcept.map_eq_ok h
  cases hr
  rfl

theorem writeBus_regFile {addr : U16} {v : U8} {c c' : Cpu σ} {u : Unit}
    (h : writeBus addr v c = .ok (u, c')) : c'.regFile = c.regFile := by
  obtain ⟨r, -, hr⟩ := StateExcept.map_eq_ok h
  cases hr
  rfl

/-- `gbcmd.cmd = cmd`. -/
def setGbcmd (cmd : GbCommand) : CpuM σ Unit :=
  modify fun c => { c with initSocket := { c.initSocket with gbcmd := cmd } }

def fetchNextInstrByte : CpuM σ U8 := do
  let val ← readBus (← getPc) .gbReadInst
  setPc ((← getPc) + 1)
  return val

def fetchNext2InstrBytes : CpuM σ U16 := do
  setGbcmd .gbReadInst
  let lsb ← readBus (← getPc) .gbReadInst
  setPc ((← getPc) + 1)
  let msb ← readBus (← getPc) .gbReadInst
  setPc ((← getPc) + 1)
  return (msb.setWidth 16 <<< 8) ||| lsb.setWidth 16

end Cpu

end TlmBoy
