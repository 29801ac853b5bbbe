import TlmBoy.Cartridge.Basic

/-
  The four memory bank controllers of `cartridge.cpp`: `Rom`, `Mbc1`, `Mbc3` and `Mbc5`.

  `b_transport_rom` and `b_transport_ram` take a payload and a controller and return both as
  the call leaves them. The write branch of each `b_transport_rom` is its own definition
  (`romWrite`), since that is where the four differ. A response status that a path does not
  set stays as it was in the payload.
-/

namespace TlmBoy

/-! ## `Cartridge::Rom` -/

abbrev Rom := MemoryBankCtrler 1 1

namespace Rom

def bTransportRom (trans : Payload) (m : Rom) : Except Fault (Payload × Rom) := do
  cAssert (trans.address < 0x8000) "adr < 0x8000"
  if trans.command = .write then
    return ({ trans with responseStatus := .ok }, m)
  -- Unlike in the other controllers, every command but a write reaches the memories.
  m.tracedRomRead trans

/-- There is no RAM: writes are dropped and reads give 0. -/
def bTransportRam (trans : Payload) (m : Rom) : Except Fault (Payload × Rom) := do
  cAssert (trans.address < 0x8000) "static_cast<u16>(trans.get_address()) < 0x8000"
  let trans := { trans with responseStatus := .ok }
  if trans.command = .read then
    return ({ trans with data := 0 }, m)
  return (trans, m)

end Rom

/-! ## `Cartridge::Mbc1` -/

structure Mbc1 extends MemoryBankCtrler 128 4 where
  romBankLowBits : U8
  theTwoBits : U8
  moreRamMode : Bool
  ramEnabled : Bool

namespace Mbc1

def init (romLow : Fin 0x4000 → U8) (romHigh : Fin (128 * 0x4000) → U8)
    (extRam : Fin (4 * 0x2000) → U8) (symbolFile : Bool) : Mbc1 :=
  { MemoryBankCtrler.init romLow romHigh extRam symbolFile with
    romBankLowBits := 0, theTwoBits := 0, moreRamMode := false, ramEnabled := false }

/-- The register that a write of `v` to `adr` sets. -/
def setRegister (adr : U16) (v : U8) (m : Mbc1) : Mbc1 :=
  if adr ≤ 0x1FFF then { m with ramEnabled := (v &&& 0xA) == 0xA }
  else if adr ≤ 0x3FFF then { m with romBankLowBits := 0b00011111 &&& v }
  else if adr ≤ 0x5FFF then { m with theTwoBits := v &&& 0b00000011 }
  else if adr ≤ 0x7FFF then { m with moreRamMode := (v &&& 0b0000001) != 0 }
  else m

/-- `rom_ind_` as recomputed from the registers on every write. -/
def nextRomInd (m : Mbc1) : U8 :=
  let highBits : U8 := if m.moreRamMode then 0 else m.theTwoBits <<< 5
  let romInd := m.romBankLowBits ||| highBits
  if romInd = 0 ∨ romInd = 0x20 ∨ romInd = 0x40 ∨ romInd = 0x60 then romInd + 1 else romInd

/-- `ram_ind_` as recomputed from the registers on every write. -/
def nextRamInd (m : Mbc1) : U8 := if m.moreRamMode then m.theTwoBits else 0

/-- The write branch of `b_transport_rom`. -/
def romWrite (adr : U16) (v : U8) (m : Mbc1) : Except Fault Mbc1 := do
  let m := m.setRegister adr v
  let m := { m with romInd := m.nextRomInd, ramInd := m.nextRamInd }
  cAssert (0 < m.romInd ∧ m.romInd < 128) "0 < rom_ind_ && rom_ind_ < 128"
  cAssert (m.moreRamMode ∨ (¬ m.moreRamMode ∧ m.ramInd = 0))
    "more_ram_mode_ || (!more_ram_mode_ && (ram_ind_ == 0))"
  let romHigh ← m.romHigh.doBankSwitch (m.romInd - 1)
  let extRam ← m.extRam.doBankSwitch m.ramInd
  return { m with romHigh, extRam }

def bTransportRom (trans : Payload) (m : Mbc1) : Except Fault (Payload × Mbc1) := do
  cAssert (trans.address < 0x8000) "adr < 0x8000"
  match trans.command with
  | .write =>
    let m ← m.romWrite trans.address trans.data
    return (trans, m)
  | .read =>
    let (trans, c) ← m.tracedRomRead trans
    return (trans, { m with toMemoryBankCtrler := c })
  | .ignore => return (trans, m)

def bTransportRam (trans : Payload) (m : Mbc1) : Except Fault (Payload × Mbc1) := do
  cAssert (trans.address ≤ 0x1FFF) "static_cast<u16>(trans.get_address()) <= 0x1FFF"
  if m.ramEnabled then
    let (trans, c) ← m.ramTransport trans
    return (trans, { m with toMemoryBankCtrler := c })
  else
    return (trans, m)

end Mbc1

/-! ## `Cartridge::Mbc3` -/

structure Mbc3 extends MemoryBankCtrler 128 4 where
  /-- `rtc_reg_`, a `uint`. -/
  rtcReg : Nat
  ramRtcEnabled : Bool
  rtcMapped : Bool
  rtcHalted : Bool

namespace Mbc3

def init (romLow : Fin 0x4000 → U8) (romHigh : Fin (128 * 0x4000) → U8)
    (extRam : Fin (4 * 0x2000) → U8) (symbolFile : Bool) : Mbc3 :=
  { MemoryBankCtrler.init romLow romHigh extRam symbolFile with
    rtcReg := 0, ramRtcEnabled := false, rtcMapped := false, rtcHalted := false }

/-- The register that a write of `v` to `adr` sets. -/
def setRegister (adr : U16) (v : U8) (m : Mbc3) : Mbc3 :=
  if adr ≤ 0x1FFF then { m with ramRtcEnabled := (v &&& 0xA) == 0xA }
  else if adr ≤ 0x3FFF then { m with romInd := 0b01111111 &&& v }
  else if adr ≤ 0x5FFF then
    if v < 8 then { m with ramInd := v, rtcMapped := false }
    else if v < 13 then { m with rtcReg := v.toNat - 8, rtcMapped := true }
    else m
  else m

/-- The write branch of `b_transport_rom`. -/
def romWrite (adr : U16) (v : U8) (m : Mbc3) : Except Fault Mbc3 := do
  let m := m.setRegister adr v
  let m := { m with romInd := if m.romInd = 0 then 1 else m.romInd }
  cAssert (m.romInd < 128) "rom_ind_ < 128"
  let romHigh ← m.romHigh.doBankSwitch (m.romInd - 1)
  let extRam ← m.extRam.doBankSwitch m.ramInd
  return { m with romHigh, extRam }

def bTransportRom (trans : Payload) (m : Mbc3) : Except Fault (Payload × Mbc3) := do
  cAssert (trans.address < 0x8000) "adr < 0x8000"
  match trans.command with
  | .write =>
    let m ← m.romWrite trans.address trans.data
    return (trans, m)
  | .read =>
    let (trans, c) ← m.tracedRomRead trans
    return (trans, { m with toMemoryBankCtrler := c })
  | .ignore => return (trans, m)

/-- What the mapped RTC register shows at host time `t` (`std::time(nullptr)`). `/` and `%`
    on a `time_t` are `sdiv` and `srem`. -/
def rtcValue (t : I64) (m : Mbc3) : U8 :=
  let secs := t.srem 60
  let minutes := (t.sdiv 60).srem 60
  let hours := (t.sdiv (60 * 60)).srem 60
  let days := (t.sdiv (60 * 60 * 24)).srem 512
  let val : I64 :=
    match m.rtcReg with
    | 0 => secs
    | 1 => minutes
    | 2 => hours
    | 3 => days.srem 256
    | 4 => days.sshiftRight 8 ||| (BitVec.setWidth 64 (BitVec.ofBool m.rtcHalted) <<< 6)
    | _ => 0
  val.setWidth 8

def bTransportRam (t : I64) (trans : Payload) (m : Mbc3) : Except Fault (Payload × Mbc3) := do
  cAssert (trans.address ≤ 0x1FFF) "static_cast<u16>(trans.get_address()) <= 0x1FFFu"
  if m.ramRtcEnabled then
    if m.rtcMapped then
      let trans := { trans with responseStatus := .ok }
      if trans.command = .write then
        return (trans, m)
      return ({ trans with data := m.rtcValue t }, m)
    else
      let (trans, c) ← m.ramTransport trans
      return (trans, { m with toMemoryBankCtrler := c })
  else
    return (trans, m)

end Mbc3

/-! ## `Cartridge::Mbc5` -/

structure Mbc5 extends MemoryBankCtrler 512 16 where
  ramBits : U16
  romBankLowBits : U16
  romBankHighBits : U16
  ramEnabled : Bool

namespace Mbc5

def init (romLow : Fin 0x4000 → U8) (romHigh : Fin (512 * 0x4000) → U8)
    (extRam : Fin (16 * 0x2000) → U8) (symbolFile : Bool) : Mbc5 :=
  { MemoryBankCtrler.init romLow romHigh extRam symbolFile with
    ramBits := 0, romBankLowBits := 0, romBankHighBits := 0, ramEnabled := false }

/-- The register that a write of `v` to `adr` sets. -/
def setRegister (adr : U16) (v : U8) (m : Mbc5) : Mbc5 :=
  if adr ≤ 0x1FFF then { m with ramEnabled := (v &&& 0xA) == 0xA }
  else if adr ≤ 0x2FFF then { m with romBankLowBits := v.setWidth 16 }
  else if adr ≤ 0x3FFF then { m with romBankHighBits := (v &&& 1).setWidth 16 }
  else if adr ≤ 0x5FFF then { m with ramBits := (v &&& 0x0F).setWidth 16 }
  else m

/-- The write branch of `b_transport_rom`. -/
def romWrite (adr : U16) (v : U8) (m : Mbc5) : Except Fault Mbc5 := do
  let m := m.setRegister adr v
  let m := { m with ramInd := if m.ramEnabled then m.ramBits.setWidth 8 else 0 }
  -- `rom_ind_` is a `u8`: the assignment keeps the low byte of the 9-bit selection.
  let m := { m with romInd := ((m.romBankHighBits <<< 8) ||| m.romBankLowBits).setWidth 8 }
  let romHigh ← m.romHigh.doBankSwitch m.romInd
  let extRam ← m.extRam.doBankSwitch m.ramInd
  return { m with romHigh, extRam }

def bTransportRom (trans : Payload) (m : Mbc5) : Except Fault (Payload × Mbc5) := do
  cAssert (trans.address < 0x8000) "adr < 0x8000"
  match trans.command with
  | .write =>
    let m ← m.romWrite trans.address trans.data
    return (trans, m)
  | .read =>
    let (trans, c) ←
      if trans.address ≤ 0x3FFF then m.romLowTransport trans else m.romHighTransport trans
    return (trans, { m with toMemoryBankCtrler := c })
  | .ignore => return (trans, m)

def bTransportRam (trans : Payload) (m : Mbc5) : Except Fault (Payload × Mbc5) := do
  cAssert (trans.address ≤ 0x1FFF) "static_cast<u16>(trans.get_address()) <= 0x1FFF"
  if m.ramEnabled then
    let (trans, c) ← m.ramTransport trans
    return (trans, { m with toMemoryBankCtrler := c })
  else
    throw (.assertion "false")

end Mbc5

end TlmBoy
