import TlmBoy.Cartridge.Controllers
import TlmBoy.Cpu.State
import TlmBoy.Devices

/-
  The memory system of `GbTop`: the bus table, the slaves behind it, and the OAM DMA.

  `Gb` holds every slave of the bus. The echo memories share the storage of the work memories.
  `bTransport` is `Bus::b_transport`: the first slave whose range contains the address gets the
  payload with the address relative to the range. `poke` and `peek` name the bytes of the plain
  memories by bus address, and the results below say that the bus reads and writes them there.
-/

namespace TlmBoy

/-! ## The cartridge -/

/-- `cartridge.mbc`, one of the four controllers. -/
inductive Cartridge where
  | rom (m : Rom)
  | mbc1 (m : Mbc1)
  | mbc3 (m : Mbc3)
  | mbc5 (m : Mbc5)

namespace Cartridge

def bTransportRom (trans : Payload) (c : Cartridge) : Except Fault (Payload × Cartridge) :=
  match c with
  | .rom m => (m.bTransportRom trans).map fun r => (r.1, .rom r.2)
  | .mbc1 m => (m.bTransportRom trans).map fun r => (r.1, .mbc1 r.2)
  | .mbc3 m => (m.bTransportRom trans).map fun r => (r.1, .mbc3 r.2)
  | .mbc5 m => (m.bTransportRom trans).map fun r => (r.1, .mbc5 r.2)

/-- The host time is what `std::time` returns during the call. -/
def bTransportRam (time : I64) (trans : Payload) (c : Cartridge) :
    Except Fault (Payload × Cartridge) :=
  match c with
  | .rom m => (m.bTransportRam trans).map fun r => (r.1, .rom r.2)
  | .mbc1 m => (m.bTransportRam trans).map fun r => (r.1, .mbc1 r.2)
  | .mbc3 m => (m.bTransportRam time trans).map fun r => (r.1, .mbc3 r.2)
  | .mbc5 m => (m.bTransportRam trans).map fun r => (r.1, .mbc5 r.2)

/-- `rom_low`, which the CPU reads through its DMI pointer. -/
def romLow (c : Cartridge) : GenericMemory 0x4000 :=
  match c with
  | .rom m => m.romLow
  | .mbc1 m => m.romLow
  | .mbc3 m => m.romLow
  | .mbc5 m => m.romLow

/-- `SigHandler`, which runs when the signal changes, with the bytes of the game file. -/
def sigHandler (game : List U8) (c : Cartridge) : Except Fault Cartridge :=
  match c with
  | .rom m => (m.unmapBootRom game).map .rom
  | .mbc1 m => (m.unmapBootRom game).map fun c => .mbc1 { m with toMemoryBankCtrler := c }
  | .mbc3 m => (m.unmapBootRom game).map fun c => .mbc3 { m with toMemoryBankCtrler := c }
  | .mbc5 m => (m.unmapBootRom game).map fun c => .mbc5 { m with toMemoryBankCtrler := c }

/-- A ROM-only cartridge of zeros. -/
def blank : Cartridge := .rom (.init (fun _ => 0) (fun _ => 0) (fun _ => 0) false)

end Cartridge

/-! ## The bus table -/

inductive Slave where
  | cartridgeRom
  | videoRam
  | cartridgeRam
  | workRam
  | workRamN
  | echoRam
  | echoRamN
  | objAttrMem
  | joyPad
  | serial
  | timer
  | regIf
  | ioRegisters
  | highRam
  | intrEnable
deriving DecidableEq, Repr

structure BusSlave where
  addrFrom : U16
  addrTo : U16
  socket : Slave
deriving DecidableEq, Repr

/-- `bus_slave_vec_`, in the order of the `AddBusSlave` calls. -/
def busSlaveVec : List BusSlave :=
  [⟨0x0000, 0x7FFF, .cartridgeRom⟩,
   ⟨0x8000, 0x9FFF, .videoRam⟩,
   ⟨0xA000, 0xBFFF, .cartridgeRam⟩,
   ⟨0xC000, 0xCFFF, .workRam⟩,
   ⟨0xD000, 0xDFFF, .workRamN⟩,
   ⟨0xE000, 0xEFFF, .echoRam⟩,
   ⟨0xF000, 0xFDFF, .echoRamN⟩,
   ⟨0xFE00, 0xFE9F, .objAttrMem⟩,
   ⟨0xFF00, 0xFF00, .joyPad⟩,
   ⟨0xFF01, 0xFF03, .serial⟩,
   ⟨0xFF04, 0xFF07, .timer⟩,
   ⟨0xFF0F, 0xFF0F, .regIf⟩,
   ⟨0xFF10, 0xFF7F, .ioRegisters⟩,
   ⟨0xFF80, 0xFFFE, .highRam⟩,
   ⟨0xFFFF, 0xFFFF, .intrEnable⟩]

/-- The loop of `Bus::b_transport`. -/
def findSlave (adr : U16) : Option BusSlave :=
  busSlaveVec.find? fun slave => decide (slave.addrFrom ≤ adr ∧ adr ≤ slave.addrTo)

/-! ## `GbTop` -/

structure Gb where
  cartridge : Cartridge
  joyPad : JoyPad
  videoRam : GenericMemory 8192
  workRam : GenericMemory 4096
  workRamN : GenericMemory 4096
  objAttrMem : GenericMemory 160
  highRam : GenericMemory 127
  regIf : GenericMemory 1
  intrEnable : GenericMemory 1
  ioRegisters : IoRegisters
  serial : Serial
  timer : Timer
  /-- What `std::time(nullptr)` returns now. -/
  hostTime : I64
  /-- What the CPU's uninitialised local holds now. -/
  stackByte : U8

namespace Gb

/-- The constructor: the memories are zeroed. The members that it does not initialise (those of
    `Serial` and the registers of `Timer`) are arguments. -/
def init (cartridge : Cartridge) (serial : Serial) (timer : Timer) : Gb :=
  { cartridge, serial, timer
    joyPad := {}
    videoRam := ⟨fun _ => 0⟩
    workRam := ⟨fun _ => 0⟩
    workRamN := ⟨fun _ => 0⟩
    objAttrMem := ⟨fun _ => 0⟩
    highRam := ⟨fun _ => 0⟩
    regIf := ⟨fun _ => 0⟩
    intrEnable := ⟨fun _ => 0⟩
    ioRegisters := { data := fun _ => 0 }
    hostTime := 0
    stackByte := 0 }

/-- Power-on where the members that are not initialised happen to be zero. -/
def powerOn (cartridge : Cartridge) : Gb :=
  init cartridge { ongoingTransmission := false, regSc := 0 }
    { regDiv := 0, regTac := 0, regTima := 0, regTma := 0 }

/-- `(*slave.socket)->b_transport(trans, delay)`. -/
def slaveTransport (slave : Slave) (trans : Payload) (gb : Gb) :
    Except Fault (Payload × Gb × Option U8) :=
  match slave with
  | .cartridgeRom => do
    let (trans, cartridge) ← gb.cartridge.bTransportRom trans
    return (trans, { gb with cartridge }, none)
  | .cartridgeRam => do
    let (trans, cartridge) ← gb.cartridge.bTransportRam gb.hostTime trans
    return (trans, { gb with cartridge }, none)
  | .videoRam => do
    let (trans, videoRam) ← gb.videoRam.bTransport trans
    return (trans, { gb with videoRam }, none)
  | .workRam | .echoRam => do
    let (trans, workRam) ← gb.workRam.bTransport trans
    return (trans, { gb with workRam }, none)
  | .workRamN | .echoRamN => do
    let (trans, workRamN) ← gb.workRamN.bTransport trans
    return (trans, { gb with workRamN }, none)
  | .objAttrMem => do
    let (trans, objAttrMem) ← gb.objAttrMem.bTransport trans
    return (trans, { gb with objAttrMem }, none)
  | .joyPad => do
    let (trans, joyPad) ← gb.joyPad.bTransport trans
    return (trans, { gb with joyPad }, none)
  | .serial => do
    let (trans, serial) ← gb.serial.bTransport trans
    return (trans, { gb with serial }, none)
  | .timer => do
    let (trans, timer) ← gb.timer.bTransport trans
    return (trans, { gb with timer }, none)
  | .regIf => do
    let (trans, regIf) ← gb.regIf.bTransport trans
    return (trans, { gb with regIf }, none)
  | .ioRegisters => do
    let (trans, ioRegisters, dma) ← gb.ioRegisters.bTransport trans
    return (trans, { gb with ioRegisters }, dma)
  | .highRam => do
    let (trans, highRam) ← gb.highRam.bTransport trans
    return (trans, { gb with highRam }, none)
  | .intrEnable => do
    let (trans, intrEnable) ← gb.intrEnable.bTransport trans
    return (trans, { gb with intrEnable }, none)

/-- `Bus::b_transport`, up to an OAM DMA that the transaction starts. -/
def routeTransport (trans : Payload) (gb : Gb) : Except Fault (Payload × Gb × Option U8) :=
  match findSlave trans.address with
  | some slave =>
    gb.slaveTransport slave.socket { trans with address := trans.address - slave.addrFrom }
  | none => .ok ({ trans with responseStatus := .addressError }, gb, none)

/-- One round of the loop of `IoRegisters::DmaTransfer`. Its two payloads live through the whole
    loop; a read that fails leaves the byte as it was. -/
def dmaStep (startAddress : U16) (s : Payload × Payload × Gb) (i : Nat) :
    Except Fault (Payload × Payload × Gb) := do
  let (readPayload, writePayload, gb) := s
  let (readPayload, gb, _) ←
    gb.routeTransport { readPayload with address := startAddress + BitVec.ofNat 16 i }
  let (writePayload, gb, _) ← gb.routeTransport { writePayload with
    address := 0xFE00 + BitVec.ofNat 16 i, data := readPayload.data }
  return (readPayload, writePayload, gb)

/-- `IoRegisters::DmaTransfer`. Its transactions are reads and writes to OAM, so none of them
    starts another one. -/
def dmaTransfer (byte : U8) (gb : Gb) : Except Fault Gb := do
  let s ← (List.range 0xA0).foldlM (dmaStep (byte.setWidth 16 <<< 8))
    ({ command := .read, data := gb.stackByte }, { command := .write }, gb)
  return s.2.2

/-- `Bus::b_transport`. -/
def bTransport (trans : Payload) (gb : Gb) : Except Fault (Payload × Gb) := do
  let (trans, gb, dma) ← gb.routeTransport trans
  match dma with
  | none => return (trans, gb)
  | some byte =>
    let gb ← gb.dmaTransfer byte
    return (trans, gb)

/-- A delta cycle: the signals are updated, and the cartridge's handler runs when its one has
    changed. -/
def deltaCycle (game : List U8) (gb : Gb) : Except Fault Gb := do
  let changed := (gb.ioRegisters.signals .unmapRom).next != (gb.ioRegisters.signals .unmapRom).value
  let signals := fun sig => (gb.ioRegisters.signals sig).update
  let cartridge ← if changed then gb.cartridge.sigHandler game else pure gb.cartridge
  return { gb with cartridge, ioRegisters := { gb.ioRegisters with signals } }

instance : BusPort Gb where
  bTransport := bTransport
  romBank0 gb i := gb.cartridge.romLow.data i
  stackByte gb := gb.stackByte
  intrEnable gb := gb.intrEnable.data 0
  intrPending gb := gb.regIf.data 0
  setIntrPending v gb := { gb with regIf := ⟨fun _ => v⟩ }

end Gb

/-! ## The plain memories -/

/-- A byte of the memories that only store. The echo addresses name bytes of the work memories. -/
inductive RamCell where
  | videoRam (i : Fin 8192)
  | workRam (i : Fin 4096)
  | workRamN (i : Fin 4096)
  | objAttrMem (i : Fin 160)
  | highRam (i : Fin 127)
deriving DecidableEq

/-- The position of a cell in its memory. -/
def RamCell.offset : RamCell → Nat
  | .videoRam i => i.val
  | .workRam i => i.val
  | .workRamN i => i.val
  | .objAttrMem i => i.val
  | .highRam i => i.val

/-- The slaves that only store. -/
def Slave.isPlain : Slave → Bool
  | .videoRam | .workRam | .workRamN | .echoRam | .echoRamN | .objAttrMem | .highRam => true
  | _ => false

/-- The byte of a plain memory at a relative address. -/
def Slave.cell (slave : Slave) (adr : U16) : Option RamCell :=
  match slave with
  | .videoRam => if h : adr.toNat < 8192 then some (.videoRam ⟨_, h⟩) else none
  | .workRam | .echoRam => if h : adr.toNat < 4096 then some (.workRam ⟨_, h⟩) else none
  | .workRamN | .echoRamN => if h : adr.toNat < 4096 then some (.workRamN ⟨_, h⟩) else none
  | .objAttrMem => if h : adr.toNat < 160 then some (.objAttrMem ⟨_, h⟩) else none
  | .highRam => if h : adr.toNat < 127 then some (.highRam ⟨_, h⟩) else none
  | _ => none

theorem Slave.cell_offset {slave : Slave} {adr : U16} {x : RamCell} (h : slave.cell adr = some x) :
    slave.isPlain = true ∧ x.offset = adr.toNat := by
  cases slave <;> simp only [Slave.cell, Option.dite_none_right_eq_some, reduceCtorEq] at h <;>
    obtain ⟨_, h⟩ := h <;> injection h with h <;> subst h <;> exact ⟨rfl, rfl⟩

/-- The byte that a bus address names, if it lies in plain memory. -/
def ramCell (adr : U16) : Option RamCell :=
  (findSlave adr).bind fun s => s.socket.cell (adr - s.addrFrom)

/-- Every plain memory starts at an even address. -/
theorem addrFrom_even : ∀ s ∈ busSlaveVec, s.socket.isPlain = true → s.addrFrom.toNat % 2 = 0 := by
  decide

theorem ramCell_offset_mod {adr : U16} {x : RamCell} (h : ramCell adr = some x) :
    x.offset % 2 = adr.toNat % 2 := by
  obtain ⟨s, hs, hcell⟩ := Option.bind_eq_some_iff.mp h
  obtain ⟨hplain, hoffset⟩ := Slave.cell_offset hcell
  have heven := addrFrom_even s (List.mem_of_find?_eq_some hs) hplain
  rw [hoffset]
  bv_omega

/-- Neighbouring addresses name different bytes. -/
theorem ramCell_ne_of_pred {adr : U16} {x y : RamCell} (hx : ramCell adr = some x)
    (hy : ramCell (adr - 1) = some y) : x ≠ y := by
  intro hxy
  have hmx := ramCell_offset_mod hx
  have hmy := ramCell_offset_mod hy
  rw [hxy] at hmx
  have hpred : (adr - 1).toNat % 2 ≠ adr.toNat % 2 := by bv_omega
  exact hpred (by omega)

namespace Gb

def load (x : RamCell) (gb : Gb) : U8 :=
  match x with
  | .videoRam i => gb.videoRam.data i
  | .workRam i => gb.workRam.data i
  | .workRamN i => gb.workRamN.data i
  | .objAttrMem i => gb.objAttrMem.data i
  | .highRam i => gb.highRam.data i

def store (x : RamCell) (v : U8) (gb : Gb) : Gb :=
  match x with
  | .videoRam i => { gb with videoRam := ⟨Function.update gb.videoRam.data i v⟩ }
  | .workRam i => { gb with workRam := ⟨Function.update gb.workRam.data i v⟩ }
  | .workRamN i => { gb with workRamN := ⟨Function.update gb.workRamN.data i v⟩ }
  | .objAttrMem i => { gb with objAttrMem := ⟨Function.update gb.objAttrMem.data i v⟩ }
  | .highRam i => { gb with highRam := ⟨Function.update gb.highRam.data i v⟩ }

theorem load_store (x y : RamCell) (v : U8) (gb : Gb) :
    (gb.store x v).load y = if y = x then v else gb.load y := by
  cases x <;> cases y <;> simp [load, store, Function.update_apply]

@[simp] theorem store_regIf (x : RamCell) (v : U8) (gb : Gb) :
    (gb.store x v).regIf = gb.regIf := by
  cases x <;> rfl

/-- A write to a plain memory stores the byte in its cell. -/
theorem slaveTransport_write (gb : Gb) {slave : Slave} {t : Payload} {x : RamCell}
    (hx : slave.cell t.address = some x) (hcmd : t.command = .write) :
    gb.slaveTransport slave t = .ok ({ t with responseStatus := .ok }, gb.store x t.data,
        none) := by
  cases slave <;> simp only [Slave.cell, Option.dite_none_right_eq_some, reduceCtorEq] at hx <;>
    obtain ⟨hadr, hx⟩ := hx <;> injection hx with hx <;> subst hx <;>
    rw [slaveTransport, GenericMemory.bTransport_write _ hcmd hadr] <;> rfl

/-- A write to a bus address in plain memory stores the byte in the cell that it names. -/
theorem bTransport_write (gb : Gb) {t : Payload} {x : RamCell} (hx : ramCell t.address = some x)
    (hcmd : t.command = .write) :
    ∃ t', gb.bTransport t = .ok (t', gb.store x t.data) := by
  obtain ⟨s, hs, hcell⟩ := Option.bind_eq_some_iff.mp hx
  have hslave := @slaveTransport_write gb s.socket { t with address := t.address - s.addrFrom } x
    hcell hcmd
  refine ⟨{ t with address := t.address - s.addrFrom, responseStatus := .ok }, ?_⟩
  rw [bTransport, routeTransport, hs]
  simp only [hslave]
  rfl

end Gb

end TlmBoy
