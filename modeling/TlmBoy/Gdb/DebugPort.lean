import TlmBoy.GbTop
import TlmBoy.Platform

/-
  `transport_dbg`, the bus as the debugger uses it: `Cpu::ReadBusDebug` and `Cpu::WriteBusDebug`.

  The slaves answer a debug transaction with their `b_transport`, but for the cartridge: the
  debugger writes into the ROM, and into the RAM of an `Mbc5` that is not enabled.
-/

namespace TlmBoy

/-- The debug transport of the bus. -/
class DebugPort (σ : Type) where
  /-- `init_socket->transport_dbg`. -/
  transportDbg : Payload → σ → Except Fault (Payload × σ)

/-! ## The slaves -/

/-- `MemoryBankCtrler::transport_dbg_rom`. -/
def MemoryBankCtrler.transportDbgRom {numRomBanks numRamBanks : Nat} (trans : Payload)
    (c : MemoryBankCtrler numRomBanks numRamBanks) :
    Except Fault (Payload × MemoryBankCtrler numRomBanks numRamBanks) := do
  cAssert (trans.address < 0x8000) "adr < 0x8000"
  if trans.address < 0x4000 then c.romLowTransport trans else c.romHighTransport trans

/-- `Mbc5::transport_dbg_ram`. -/
def Mbc5.transportDbgRam (trans : Payload) (m : Mbc5) : Except Fault (Payload × Mbc5) := do
  cAssert (trans.address ≤ 0x1FFF) "static_cast<u16>(trans.get_address()) <= 0x1FFF"
  let (trans, c) ← m.ramTransport trans
  return (trans, { m with toMemoryBankCtrler := c })

namespace Cartridge

def transportDbgRom (trans : Payload) (c : Cartridge) : Except Fault (Payload × Cartridge) :=
  match c with
  | .rom m => (MemoryBankCtrler.transportDbgRom trans m).map fun r => (r.1, .rom r.2)
  | .mbc1 m => (m.transportDbgRom trans).map fun r =>
      (r.1, .mbc1 { m with toMemoryBankCtrler := r.2 })
  | .mbc3 m => (m.transportDbgRom trans).map fun r =>
      (r.1, .mbc3 { m with toMemoryBankCtrler := r.2 })
  | .mbc5 m => (m.transportDbgRom trans).map fun r =>
      (r.1, .mbc5 { m with toMemoryBankCtrler := r.2 })

def transportDbgRam (time : I64) (trans : Payload) (c : Cartridge) :
    Except Fault (Payload × Cartridge) :=
  match c with
  | .mbc5 m => (m.transportDbgRam trans).map fun r => (r.1, .mbc5 r.2)
  | c => c.bTransportRam time trans

end Cartridge

namespace Gb

/-- `(*slave.socket)->transport_dbg(trans)`. -/
def slaveTransportDbg (slave : Slave) (trans : Payload) (gb : Gb) :
    Except Fault (Payload × Gb × Option U8) :=
  match slave with
  | .cartridgeRom => do
    let (trans, cartridge) ← gb.cartridge.transportDbgRom trans
    return (trans, { gb with cartridge }, none)
  | .cartridgeRam => do
    let (trans, cartridge) ← gb.cartridge.transportDbgRam gb.hostTime trans
    return (trans, { gb with cartridge }, none)
  | slave => gb.slaveTransport slave trans

/-- `Bus::transport_dbg`. -/
def transportDbg (trans : Payload) (gb : Gb) : Except Fault (Payload × Gb) := do
  let (trans, gb, dma) ←
    match findSlave trans.address with
    | some slave =>
      gb.slaveTransportDbg slave.socket { trans with address := trans.address - slave.addrFrom }
    | none => pure ({ trans with responseStatus := .addressError }, gb, none)
  match dma with
  | none => return (trans, gb)
  | some byte =>
    let gb ← gb.dmaTransfer byte
    return (trans, gb)

instance : DebugPort Gb where
  transportDbg := transportDbg

end Gb

instance {μ : Type} [DebugPort μ] : DebugPort (Timed μ) where
  transportDbg trans s :=
    (DebugPort.transportDbg trans s.dev).map fun r => (r.1, { s with dev := r.2 })

/-! ## The CPU -/

namespace Cpu

variable {σ : Type} [BusPort σ] [DebugPort σ]

/-- `Cpu::ReadBusDebug`. An address that nothing answers reads as 0. -/
def readBusDebug (addr : U16) : CpuM σ U8 := fun c => do
  let payload := { c.initSocket.payload with
    command := .read, address := addr, data := BusPort.stackByte c.initSocket.sys,
    extension := some c.initSocket.gbcmd }
  let (payload, sys) ← DebugPort.transportDbg payload c.initSocket.sys
  let data := if payload.responseStatus.isResponseError then 0 else payload.data
  return (data, { c with initSocket := { c.initSocket with payload, sys } })

/-- `Cpu::WriteBusDebug`. `SC_REPORT_ERROR` throws. -/
def writeBusDebug (addr : U16) (data : U8) : CpuM σ Unit := fun c => do
  let payload := { c.initSocket.payload with
    command := .write, address := addr, data, extension := some c.initSocket.gbcmd }
  let (payload, sys) ← DebugPort.transportDbg payload c.initSocket.sys
  if payload.responseStatus.isResponseError then
    throw (.uncaught "sc_core::sc_report" "Response error from b_transport")
  return ((), { c with initSocket := { c.initSocket with payload, sys } })

end Cpu

end TlmBoy
