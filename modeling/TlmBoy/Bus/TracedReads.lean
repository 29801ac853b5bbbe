import TlmBoy.Bus.CartridgeRuns
import TlmBoy.Bus.ReadOnly
import TlmBoy.Cartridge.Construct
import TlmBoy.Gdb.DebugAccess

/-
  What the symbol tracer records.

  `KeepsTracer` is what any transaction does to the tracer: it is still there, and it is the same
  unless the transaction carries the CPU's command for a data read. A data read of the ROM sets the
  flag at the image offset of the cell that it reads (`data_read_traced`), in every state that a
  run reaches, and the constructor loads the cell from that offset. The CPU gets no DMI pointer to
  the first bank while there is a tracer, so it reads over the bus.
-/

namespace TlmBoy

/-! ## Cells of the ROM -/

/-- A byte of `rom_low` or `rom_high`. -/
inductive RomCell where
  | low (k : Fin 0x4000)
  | high (k : Nat)

/-- The offset in the ROM image. -/
def RomCell.imageOffset : RomCell → Nat
  | .low k => k.val
  | .high k => 0x4000 + k

namespace MemoryBankCtrler

variable {numRomBanks numRamBanks : Nat}

/-- The byte of a cell, if there is such a cell. -/
def romCell (x : RomCell) (c : MemoryBankCtrler numRomBanks numRamBanks) : Option U8 :=
  match x with
  | .low k => some (c.romLow.data k)
  | .high k => if h : k < numRomBanks * 0x4000 then some (c.romHigh.data ⟨k, h⟩) else none

/-- The ROM memories filled with other bytes. -/
def withRom (image : RomCell → U8) (c : MemoryBankCtrler numRomBanks numRamBanks) :
    MemoryBankCtrler numRomBanks numRamBanks :=
  { c with
    romLow := ⟨fun k => image (.low k)⟩
    romHigh := { c.romHigh with data := fun k => image (.high k.val) } }

/-- The cell behind a ROM address. -/
def shownCell (a : Fin 0x8000) (c : MemoryBankCtrler numRomBanks numRamBanks) : RomCell :=
  if h : a.val < 0x4000 then .low ⟨a.val, h⟩
  else .high (c.romHigh.currentBankInd.val * 0x4000 + (a.val - 0x4000))

theorem romByte_withRom (image : RomCell → U8) (a : Fin 0x8000)
    (c : MemoryBankCtrler numRomBanks numRamBanks) :
    (c.withRom image).romByte a = image (c.shownCell a) := by
  unfold romByte shownCell
  by_cases h : a.val < 0x4000
  · rw [dif_pos h, dif_pos h]
    rfl
  · rw [dif_neg h, dif_neg h]
    rfl

theorem romCell_shownCell (a : Fin 0x8000) (c : MemoryBankCtrler numRomBanks numRamBanks) :
    c.romCell (c.shownCell a) = some (c.romByte a) := by
  unfold romByte shownCell
  by_cases h : a.val < 0x4000
  · rw [dif_pos h, dif_pos h]
    rfl
  · have hlt := (BankSwitchedMem.cell c.romHigh.currentBankInd
      (⟨a.val - 0x4000, by omega⟩ : Fin 0x4000)).isLt
    rw [dif_neg h, dif_neg h]
    exact dif_pos hlt

/-- The flag that a data read sets is the one of the cell's offset in the image: the address starts
    one bank above the window's start, and the index of the bank is one below its number. -/
theorem tracedFlag_shownCell (hbanks : numRomBanks ≤ 256) (a : Fin 0x8000)
    (c : MemoryBankCtrler numRomBanks numRamBanks) :
    (c.tracedFlag a).val = (c.shownCell a).imageOffset := by
  have hbank := c.romHigh.currentBankInd.isLt
  rw [tracedFlag_val]
  unfold shownCell kBankSize
  by_cases h : a.val < 0x4000
  · rw [if_pos h, dif_pos h]
    exact Nat.zero_add a.val
  · rw [if_neg h, dif_neg h, BankSwitchedMem.getCurrentBankIndex, BitVec.toNat_ofNat,
      Nat.mod_eq_of_lt (by omega)]
    show _ = 0x4000 + (c.romHigh.currentBankInd.val * 0x4000 + (a.val - 0x4000))
    omega

/-! ## Transactions on the cartridge -/

/-- The tracer stays, and only a data read sets a flag. -/
def KeepsTracer (ext : Option GbCommand) (tracer tracer' : Option SymfileTracer) : Prop :=
  tracer'.isSome = tracer.isSome ∧ (ext ≠ some .gbReadData → tracer' = tracer)

theorem KeepsTracer.of_eq {ext : Option GbCommand} {tracer tracer' : Option SymfileTracer}
    (h : tracer' = tracer) : KeepsTracer ext tracer tracer' := ⟨by rw [h], fun _ => h⟩

theorem traceRead_keeps {c c' : MemoryBankCtrler numRomBanks numRamBanks} {ext : Option GbCommand}
    {bank adr : U16} (h : c.traceRead ext bank adr = .ok c') :
    KeepsTracer ext c.symfileTracer c'.symfileTracer := by
  unfold traceRead at h
  split at h
  · next tracer htracer =>
    obtain ⟨tracer', -, h⟩ := StateExcept.except_bind_eq_ok h
    cases h
    exact ⟨by rw [htracer]; rfl, fun hne => absurd rfl hne⟩
  · cases h
    exact .of_eq rfl

theorem romLowTransport_tracer {c c' : MemoryBankCtrler numRomBanks numRamBanks} {t t' : Payload}
    (h : c.romLowTransport t = .ok (t', c')) : c'.symfileTracer = c.symfileTracer := by
  obtain ⟨⟨u, romLow⟩, -, h⟩ := StateExcept.except_bind_eq_ok h
  cases h
  rfl

theorem romHighTransport_tracer {c c' : MemoryBankCtrler numRomBanks numRamBanks} {t t' : Payload}
    (h : c.romHighTransport t = .ok (t', c')) : c'.symfileTracer = c.symfileTracer := by
  obtain ⟨⟨u, romHigh⟩, -, h⟩ := StateExcept.except_bind_eq_ok h
  cases h
  rfl

theorem ramTransport_tracer {c c' : MemoryBankCtrler numRomBanks numRamBanks} {t t' : Payload}
    (h : c.ramTransport t = .ok (t', c')) : c'.symfileTracer = c.symfileTracer := by
  obtain ⟨⟨u, extRam⟩, -, h⟩ := StateExcept.except_bind_eq_ok h
  cases h
  rfl

theorem tracedRomRead_keeps {c c' : MemoryBankCtrler numRomBanks numRamBanks} {t t' : Payload}
    (h : c.tracedRomRead t = .ok (t', c')) :
    KeepsTracer t.extension c.symfileTracer c'.symfileTracer := by
  unfold tracedRomRead at h
  split_ifs at h
  · obtain ⟨b, htrace, h⟩ := StateExcept.except_bind_eq_ok h
    rw [romLowTransport_tracer h]
    exact traceRead_keeps htrace
  · obtain ⟨b, htrace, h⟩ := StateExcept.except_bind_eq_ok h
    rw [romHighTransport_tracer h]
    exact traceRead_keeps htrace

theorem transportDbgRom_tracer {c c' : MemoryBankCtrler numRomBanks numRamBanks} {t t' : Payload}
    (h : c.transportDbgRom t = .ok (t', c')) : c'.symfileTracer = c.symfileTracer := by
  obtain ⟨-, -, h⟩ := StateExcept.except_bind_eq_ok h
  split_ifs at h
  · exact romLowTransport_tracer h
  · exact romHighTransport_tracer h

end MemoryBankCtrler

open MemoryBankCtrler (KeepsTracer)

theorem Mbc1.romWrite_tracer {m m' : Mbc1} {adr : U16} {v : U8} (h : m.romWrite adr v = .ok m') :
    m'.symfileTracer = m.symfileTracer := by
  have hset : (m.setRegister adr v).symfileTracer = m.symfileTracer := by
    unfold setRegister
    split_ifs <;> rfl
  obtain ⟨-, -, h⟩ := StateExcept.except_bind_eq_ok h
  obtain ⟨-, -, h⟩ := StateExcept.except_bind_eq_ok h
  obtain ⟨romHigh, -, h⟩ := StateExcept.except_bind_eq_ok h
  obtain ⟨extRam, -, h⟩ := StateExcept.except_bind_eq_ok h
  cases h
  exact hset

theorem Mbc3.romWrite_tracer {m m' : Mbc3} {adr : U16} {v : U8} (h : m.romWrite adr v = .ok m') :
    m'.symfileTracer = m.symfileTracer := by
  have hset : (m.setRegister adr v).symfileTracer = m.symfileTracer := by
    unfold setRegister
    split_ifs <;> rfl
  obtain ⟨-, -, h⟩ := StateExcept.except_bind_eq_ok h
  obtain ⟨romHigh, -, h⟩ := StateExcept.except_bind_eq_ok h
  obtain ⟨extRam, -, h⟩ := StateExcept.except_bind_eq_ok h
  cases h
  exact hset

/-! Of a controller's ROM window only reads are traced, and of its RAM window nothing is. -/

theorem Rom.bTransportRom_keeps {m m' : Rom} {t t' : Payload}
    (h : Rom.bTransportRom t m = .ok (t', m')) :
    KeepsTracer t.extension m.symfileTracer m'.symfileTracer := by
  obtain ⟨-, -, h⟩ := StateExcept.except_bind_eq_ok h
  split_ifs at h
  · cases h
    exact .of_eq rfl
  · exact MemoryBankCtrler.tracedRomRead_keeps h

theorem Mbc1.bTransportRom_keeps {m m' : Mbc1} {t t' : Payload}
    (h : m.bTransportRom t = .ok (t', m')) :
    KeepsTracer t.extension m.symfileTracer m'.symfileTracer := by
  obtain ⟨-, -, h⟩ := StateExcept.except_bind_eq_ok h
  cases hcmd : t.command with
  | write =>
    rw [hcmd] at h
    obtain ⟨m'', hwrite, h⟩ := StateExcept.except_bind_eq_ok h
    cases h
    exact .of_eq (Mbc1.romWrite_tracer hwrite)
  | read =>
    rw [hcmd] at h
    obtain ⟨⟨u, b⟩, hread, h⟩ := StateExcept.except_bind_eq_ok h
    cases h
    exact MemoryBankCtrler.tracedRomRead_keeps hread
  | ignore =>
    rw [hcmd] at h
    cases h
    exact .of_eq rfl

theorem Mbc3.bTransportRom_keeps {m m' : Mbc3} {t t' : Payload}
    (h : m.bTransportRom t = .ok (t', m')) :
    KeepsTracer t.extension m.symfileTracer m'.symfileTracer := by
  obtain ⟨-, -, h⟩ := StateExcept.except_bind_eq_ok h
  cases hcmd : t.command with
  | write =>
    rw [hcmd] at h
    obtain ⟨m'', hwrite, h⟩ := StateExcept.except_bind_eq_ok h
    cases h
    exact .of_eq (Mbc3.romWrite_tracer hwrite)
  | read =>
    rw [hcmd] at h
    obtain ⟨⟨u, b⟩, hread, h⟩ := StateExcept.except_bind_eq_ok h
    cases h
    exact MemoryBankCtrler.tracedRomRead_keeps hread
  | ignore =>
    rw [hcmd] at h
    cases h
    exact .of_eq rfl

theorem Rom.bTransportRam_tracer {m m' : Rom} {t t' : Payload}
    (h : Rom.bTransportRam t m = .ok (t', m')) : m'.symfileTracer = m.symfileTracer := by
  obtain ⟨-, -, h⟩ := StateExcept.except_bind_eq_ok h
  dsimp only at h
  split_ifs at h <;> cases h <;> rfl

theorem Mbc1.bTransportRam_tracer {m m' : Mbc1} {t t' : Payload}
    (h : m.bTransportRam t = .ok (t', m')) : m'.symfileTracer = m.symfileTracer := by
  obtain ⟨-, -, h⟩ := StateExcept.except_bind_eq_ok h
  split_ifs at h
  · obtain ⟨⟨u, b⟩, hram, h⟩ := StateExcept.except_bind_eq_ok h
    cases h
    exact MemoryBankCtrler.ramTransport_tracer hram
  · cases h
    rfl

theorem Mbc3.bTransportRam_tracer {m m' : Mbc3} {t t' : Payload} {time : I64}
    (h : m.bTransportRam time t = .ok (t', m')) : m'.symfileTracer = m.symfileTracer := by
  obtain ⟨-, -, h⟩ := StateExcept.except_bind_eq_ok h
  split_ifs at h
  · dsimp only at h
    split_ifs at h <;> cases h <;> rfl
  · obtain ⟨⟨u, b⟩, hram, h⟩ := StateExcept.except_bind_eq_ok h
    cases h
    exact MemoryBankCtrler.ramTransport_tracer hram
  · cases h
    rfl

namespace Cartridge

/-- A controller that traces, with a tracer. An `Mbc5` never traces. -/
def Traces (c : Cartridge) : Prop := (∀ m, c ≠ .mbc5 m) ∧ c.symfileTracer.isSome = true

theorem bTransportRom_keeps {c c' : Cartridge} {t t' : Payload}
    (h : c.bTransportRom t = .ok (t', c')) (hmbc : ∀ m, c ≠ .mbc5 m) :
    (∀ m, c' ≠ .mbc5 m) ∧ KeepsTracer t.extension c.symfileTracer c'.symfileTracer := by
  cases c with
  | rom m =>
    obtain ⟨⟨u, m'⟩, hm, he⟩ := StateExcept.map_eq_ok h
    cases he
    exact ⟨nofun, Rom.bTransportRom_keeps hm⟩
  | mbc1 m =>
    obtain ⟨⟨u, m'⟩, hm, he⟩ := StateExcept.map_eq_ok h
    cases he
    exact ⟨nofun, Mbc1.bTransportRom_keeps hm⟩
  | mbc3 m =>
    obtain ⟨⟨u, m'⟩, hm, he⟩ := StateExcept.map_eq_ok h
    cases he
    exact ⟨nofun, Mbc3.bTransportRom_keeps hm⟩
  | mbc5 m => exact absurd rfl (hmbc m)

theorem bTransportRam_tracer {c c' : Cartridge} {t t' : Payload} {time : I64}
    (h : c.bTransportRam time t = .ok (t', c')) (hmbc : ∀ m, c ≠ .mbc5 m) :
    (∀ m, c' ≠ .mbc5 m) ∧ c'.symfileTracer = c.symfileTracer := by
  cases c with
  | rom m =>
    obtain ⟨⟨u, m'⟩, hm, he⟩ := StateExcept.map_eq_ok h
    cases he
    exact ⟨nofun, Rom.bTransportRam_tracer hm⟩
  | mbc1 m =>
    obtain ⟨⟨u, m'⟩, hm, he⟩ := StateExcept.map_eq_ok h
    cases he
    exact ⟨nofun, Mbc1.bTransportRam_tracer hm⟩
  | mbc3 m =>
    obtain ⟨⟨u, m'⟩, hm, he⟩ := StateExcept.map_eq_ok h
    cases he
    exact ⟨nofun, Mbc3.bTransportRam_tracer hm⟩
  | mbc5 m => exact absurd rfl (hmbc m)

/-- The debugger's accesses to the ROM are not traced. -/
theorem transportDbgRom_tracer {c c' : Cartridge} {t t' : Payload}
    (h : c.transportDbgRom t = .ok (t', c')) (hmbc : ∀ m, c ≠ .mbc5 m) :
    (∀ m, c' ≠ .mbc5 m) ∧ c'.symfileTracer = c.symfileTracer := by
  cases c with
  | rom m | mbc1 m | mbc3 m =>
    obtain ⟨⟨u, b⟩, hb, he⟩ := StateExcept.map_eq_ok h
    cases he
    exact ⟨nofun, MemoryBankCtrler.transportDbgRom_tracer hb⟩
  | mbc5 m => exact absurd rfl (hmbc m)

theorem transportDbgRam_tracer {c c' : Cartridge} {t t' : Payload} {time : I64}
    (h : c.transportDbgRam time t = .ok (t', c')) (hmbc : ∀ m, c ≠ .mbc5 m) :
    (∀ m, c' ≠ .mbc5 m) ∧ c'.symfileTracer = c.symfileTracer := by
  cases c with
  | rom m | mbc1 m | mbc3 m => exact @bTransportRam_tracer _ _ _ _ time h hmbc
  | mbc5 m => exact absurd rfl (hmbc m)

/-- Unmapping the boot ROM is not traced. -/
theorem sigHandler_tracer {c c' : Cartridge} {game : List U8} (h : c.sigHandler game = .ok c')
    (hmbc : ∀ m, c ≠ .mbc5 m) : (∀ m, c' ≠ .mbc5 m) ∧ c'.symfileTracer = c.symfileTracer := by
  cases c with
  | rom m | mbc1 m | mbc3 m =>
    obtain ⟨b, hb, he⟩ := StateExcept.map_eq_ok h
    cases he
    obtain ⟨low, -, hb⟩ := StateExcept.except_bind_eq_ok hb
    cases hb
    exact ⟨nofun, rfl⟩
  | mbc5 m => exact absurd rfl (hmbc m)

/-! ## Cells of a cartridge -/

def romCell (x : RomCell) (c : Cartridge) : Option U8 :=
  match c with
  | .rom m => MemoryBankCtrler.romCell x m
  | .mbc1 m => m.romCell x
  | .mbc3 m => m.romCell x
  | .mbc5 m => m.romCell x

def withRom (image : RomCell → U8) (c : Cartridge) : Cartridge :=
  match c with
  | .rom m => .rom (MemoryBankCtrler.withRom image m)
  | .mbc1 m => .mbc1 { m with toMemoryBankCtrler := m.withRom image }
  | .mbc3 m => .mbc3 { m with toMemoryBankCtrler := m.withRom image }
  | .mbc5 m => .mbc5 { m with toMemoryBankCtrler := m.withRom image }

def shownCell (a : Fin 0x8000) (c : Cartridge) : RomCell :=
  match c with
  | .rom m => MemoryBankCtrler.shownCell a m
  | .mbc1 m => m.shownCell a
  | .mbc3 m => m.shownCell a
  | .mbc5 m => m.shownCell a

theorem romByte_withRom (image : RomCell → U8) (a : Fin 0x8000) (c : Cartridge) :
    (c.withRom image).romByte a = image (c.shownCell a) := by
  cases c <;> exact MemoryBankCtrler.romByte_withRom image a _

theorem romCell_shownCell (a : Fin 0x8000) (c : Cartridge) :
    c.romCell (c.shownCell a) = some (c.romByte a) := by
  cases c <;> exact MemoryBankCtrler.romCell_shownCell a _

@[simp] theorem withTracer_symfileTracer (tracer : Option SymfileTracer) (c : Cartridge) :
    (c.withTracer tracer).symfileTracer = tracer := by
  cases c <;> rfl

/-- A data read sets the flag at the image offset of the cell behind the address. -/
theorem traced_data {c : Cartridge} {tracer : SymfileTracer} (hmbc : ∀ m, c ≠ .mbc5 m)
    (htracer : c.symfileTracer = some tracer) (a : Fin 0x8000) :
    ∃ h, c.traced (some .gbReadData) a =
      some ⟨Function.update tracer.accessArr ⟨(c.shownCell a).imageOffset, h⟩ true⟩ := by
  have hctrl : ∀ {numRomBanks numRamBanks : Nat} (b : MemoryBankCtrler numRomBanks numRamBanks),
      numRomBanks ≤ 256 → b.symfileTracer = some tracer → ∃ h, b.traced (some .gbReadData) a =
        some ⟨Function.update tracer.accessArr ⟨(b.shownCell a).imageOffset, h⟩ true⟩ := by
    intro numRomBanks numRamBanks b hbanks hb
    have hflag := b.tracedFlag_shownCell hbanks a
    refine ⟨hflag ▸ (b.tracedFlag a).isLt, ?_⟩
    rw [MemoryBankCtrler.traced, hb]
    exact congrArg (fun i => some (SymfileTracer.mk (Function.update tracer.accessArr i true)))
      (Fin.ext hflag)
  cases c with
  | rom m => exact hctrl m (by decide) htracer
  | mbc1 m => exact hctrl m.toMemoryBankCtrler (by decide) htracer
  | mbc3 m => exact hctrl m.toMemoryBankCtrler (by decide) htracer
  | mbc5 m => exact absurd rfl (hmbc m)

end Cartridge

/-! ## Transactions on the bus -/

namespace Gb

theorem slaveTransport_keeps {gb gb' : Gb} {slave : Slave} {t t' : Payload} {dma : Option U8}
    (h : gb.slaveTransport slave t = .ok (t', gb', dma)) (hmbc : ∀ m, gb.cartridge ≠ .mbc5 m) :
    (∀ m, gb'.cartridge ≠ .mbc5 m) ∧
      KeepsTracer t.extension gb.cartridge.symfileTracer gb'.cartridge.symfileTracer := by
  cases slave with
  | cartridgeRom =>
    obtain ⟨⟨u, c⟩, hc, h⟩ := StateExcept.except_bind_eq_ok h
    cases h
    exact Cartridge.bTransportRom_keeps hc hmbc
  | cartridgeRam =>
    obtain ⟨⟨u, c⟩, hc, h⟩ := StateExcept.except_bind_eq_ok h
    cases h
    obtain ⟨hkind, hsame⟩ := Cartridge.bTransportRam_tracer hc hmbc
    exact ⟨hkind, .of_eq hsame⟩
  | ioRegisters =>
    obtain ⟨⟨u, io, d⟩, -, h⟩ := StateExcept.except_bind_eq_ok h
    cases h
    exact ⟨hmbc, .of_eq rfl⟩
  | _ =>
    obtain ⟨⟨u, m⟩, -, h⟩ := StateExcept.except_bind_eq_ok h
    cases h
    exact ⟨hmbc, .of_eq rfl⟩

theorem bTransport_keeps {gb gb' : Gb} {t t' : Payload} (h : gb.bTransport t = .ok (t', gb'))
    (hmbc : ∀ m, gb.cartridge ≠ .mbc5 m) : (∀ m, gb'.cartridge ≠ .mbc5 m) ∧
      KeepsTracer t.extension gb.cartridge.symfileTracer gb'.cartridge.symfileTracer := by
  obtain ⟨u, ⟨m, dma⟩, hroute, hcart⟩ := bTransport_cartridge h
  dsimp only at hcart
  rw [hcart]
  cases hs : findSlave t.address with
  | none =>
    rw [routeTransport_unmapped gb hs] at hroute
    cases hroute
    exact ⟨hmbc, .of_eq rfl⟩
  | some s =>
    rw [routeTransport_mapped gb hs] at hroute
    exact @slaveTransport_keeps gb m s.socket { t with address := t.address - s.addrFrom } u dma
      hroute hmbc

theorem slaveTransportDbg_tracer {gb gb' : Gb} {slave : Slave} {t t' : Payload} {dma : Option U8}
    (h : gb.slaveTransportDbg slave t = .ok (t', gb', dma)) (hmbc : ∀ m, gb.cartridge ≠ .mbc5 m) :
    (∀ m, gb'.cartridge ≠ .mbc5 m) ∧
      gb'.cartridge.symfileTracer = gb.cartridge.symfileTracer := by
  cases slave with
  | cartridgeRom =>
    obtain ⟨⟨u, c⟩, hc, h⟩ := StateExcept.except_bind_eq_ok h
    cases h
    exact Cartridge.transportDbgRom_tracer hc hmbc
  | cartridgeRam =>
    obtain ⟨⟨u, c⟩, hc, h⟩ := StateExcept.except_bind_eq_ok h
    cases h
    exact Cartridge.transportDbgRam_tracer hc hmbc
  | ioRegisters =>
    obtain ⟨⟨u, io, d⟩, -, h⟩ := StateExcept.except_bind_eq_ok h
    cases h
    exact ⟨hmbc, rfl⟩
  | _ =>
    obtain ⟨⟨u, b⟩, -, h⟩ := StateExcept.except_bind_eq_ok h
    cases h
    exact ⟨hmbc, rfl⟩

/-- No access of the debugger is traced. -/
theorem transportDbg_tracer {gb gb' : Gb} {t t' : Payload} (h : gb.transportDbg t = .ok (t', gb'))
    (hmbc : ∀ m, gb.cartridge ≠ .mbc5 m) : (∀ m, gb'.cartridge ≠ .mbc5 m) ∧
      gb'.cartridge.symfileTracer = gb.cartridge.symfileTracer := by
  cases hs : findSlave t.address with
  | none =>
    rw [transportDbg_unmapped gb hs] at h
    cases h
    exact ⟨hmbc, rfl⟩
  | some s =>
    rw [transportDbg_mapped gb hs] at h
    obtain ⟨⟨u, m, dma⟩, hslave, h⟩ := StateExcept.except_bind_eq_ok h
    have hm := slaveTransportDbg_tracer hslave hmbc
    cases dma with
    | none =>
      cases h
      exact hm
    | some byte =>
      obtain ⟨m', hdma, h⟩ := StateExcept.except_bind_eq_ok h
      cases h
      rw [dmaTransfer_cartridge hdma]
      exact hm

/-- Nor is a delta cycle, in which the boot ROM may be unmapped. -/
theorem deltaCycle_tracer {gb gb' : Gb} {game : List U8} (h : gb.deltaCycle game = .ok gb')
    (hmbc : ∀ m, gb.cartridge ≠ .mbc5 m) : (∀ m, gb'.cartridge ≠ .mbc5 m) ∧
      gb'.cartridge.symfileTracer = gb.cartridge.symfileTracer := by
  unfold deltaCycle at h
  dsimp only at h
  split_ifs at h
  · obtain ⟨c, hsig, h⟩ := StateExcept.except_bind_eq_ok h
    cases h
    exact Cartridge.sigHandler_tracer hsig hmbc
  · cases h
    exact ⟨hmbc, rfl⟩

end Gb

/-! ## The CPU's socket -/

/-- `MemoryBankCtrler::get_direct_mem_ptr`: is there a pointer? -/
def MemoryBankCtrler.getDirectMemPtr {numRomBanks numRamBanks : Nat} (adr : U16)
    (c : MemoryBankCtrler numRomBanks numRamBanks) : Bool :=
  if 0x4000 ≤ adr ∨ c.symfileTracer.isSome = true then false else true

def Cartridge.getDirectMemPtr (adr : U16) (c : Cartridge) : Bool :=
  match c with
  | .rom m => MemoryBankCtrler.getDirectMemPtr adr m
  | .mbc1 m => m.getDirectMemPtr adr
  | .mbc3 m => m.getDirectMemPtr adr
  | .mbc5 m => m.getDirectMemPtr adr

namespace InitSocket

/-- `Cpu::start_of_simulation`. The command is not initialised. -/
def startOfSimulation (gbcmd : GbCommand) (gb : Gb) : InitSocket Gb :=
  { payload := { extension := some gbcmd }, gbcmd
    hasRomBank0 := gb.cartridge.getDirectMemPtr 0, sys := gb }

/-- What happens to the memory system: an event as the guest sees it, a transaction of the
    debugger, or the host's clock and the CPU's stack move on. -/
inductive TraceEvent where
  | rom (e : RomEvent)
  | debug (t : Payload)
  | host (time : I64) (stackByte : U8)

def traceStep (game : List U8) (s : InitSocket Gb) (e : TraceEvent) :
    Except Fault (InitSocket Gb) :=
  match e with
  | .rom e => s.romStep game e
  | .debug t => (s.sys.transportDbg t).map fun r => { s with payload := r.1, sys := r.2 }
  | .host hostTime stackByte => .ok { s with sys := { s.sys with hostTime, stackByte } }

/-- All reads go over the bus, and there is a tracer. -/
def Tracing (s : InitSocket Gb) : Prop := s.hasRomBank0 = false ∧ s.sys.cartridge.Traces

theorem readBus_keeps {s s' : InitSocket Gb} {addr : U16} {cmd : GbCommand} {v : U8}
    (h : s.readBus addr cmd = .ok (v, s')) (hmbc : ∀ m, s.sys.cartridge ≠ .mbc5 m) :
    s'.hasRomBank0 = s.hasRomBank0 ∧ (∀ m, s'.sys.cartridge ≠ .mbc5 m) ∧
      KeepsTracer (some cmd) s.sys.cartridge.symfileTracer s'.sys.cartridge.symfileTracer := by
  by_cases hdmi : addr.toNat < 0x4000 ∧ s.hasRomBank0 = true
  · rw [readBus_dmi cmd hdmi.1 hdmi.2] at h
    cases h
    exact ⟨rfl, hmbc, .of_eq rfl⟩
  · rw [readBus_bus cmd hdmi] at h
    obtain ⟨⟨t, gb⟩, hbus, h⟩ := StateExcept.except_bind_eq_ok h
    split_ifs at h
    cases h
    exact ⟨rfl, Gb.bTransport_keeps hbus hmbc⟩

theorem Tracing.step {s s' : InitSocket Gb} {game : List U8} {e : TraceEvent} (hs : s.Tracing)
    (h : s.traceStep game e = .ok s') : s'.Tracing := by
  obtain ⟨hdmi, hmbc, htracer⟩ := hs
  cases e with
  | rom e =>
    cases e with
    | cpu tr =>
      cases tr with
      | read addr cmd =>
        obtain ⟨⟨v, s''⟩, hread, he⟩ := StateExcept.map_eq_ok h
        cases he
        obtain ⟨hsame, hkind, hkeeps⟩ := readBus_keeps hread hmbc
        exact ⟨hsame.trans hdmi, hkind, hkeeps.1.trans htracer⟩
      | write addr data =>
        obtain ⟨⟨t, gb⟩, hbus, h⟩ := StateExcept.except_bind_eq_ok h
        cases h
        obtain ⟨hkind, hkeeps⟩ := Gb.bTransport_keeps hbus hmbc
        exact ⟨hdmi, hkind, hkeeps.1.trans htracer⟩
    | delta =>
      obtain ⟨gb, hdelta, he⟩ := StateExcept.map_eq_ok h
      cases he
      obtain ⟨hkind, hsame⟩ := Gb.deltaCycle_tracer hdelta hmbc
      exact ⟨hdmi, hkind, (congrArg Option.isSome hsame).trans htracer⟩
  | debug t =>
    obtain ⟨⟨t', gb⟩, hdbg, he⟩ := StateExcept.map_eq_ok h
    cases he
    obtain ⟨hkind, hsame⟩ := Gb.transportDbg_tracer hdbg hmbc
    exact ⟨hdmi, hkind, (congrArg Option.isSome hsame).trans htracer⟩
  | host time stackByte =>
    cases h
    exact ⟨hdmi, hmbc, htracer⟩

/-- A read of a ROM address over the bus. -/
theorem readBus_rom {s : InitSocket Gb} (hdmi : s.hasRomBank0 = false) {addr : U16}
    (hadr : addr < 0x8000) (cmd : GbCommand) : ∃ payload, s.readBus addr cmd =
      .ok (s.sys.cartridge.romByte ⟨addr.toNat, hadr⟩,
        { s with
          payload, gbcmd := cmd
          sys := s.sys.afterRead (s.sys.cartridge.traced (some cmd) ⟨addr.toNat, hadr⟩)
            s.sys.joyPad }) := by
  have hsource : s.sys.IsSource addr := ⟨by bv_omega, fun hlo => by bv_omega⟩
  have hbus : ¬ (addr.toNat < 0x4000 ∧ s.hasRomBank0 = true) := by simp [hdmi]
  have hbyte : s.sys.sourceByte addr = s.sys.cartridge.romByte ⟨addr.toNat, hadr⟩ := dif_pos hadr
  have htracer : s.sys.sourceTracer (some cmd) addr =
      s.sys.cartridge.traced (some cmd) ⟨addr.toNat, hadr⟩ := dif_pos hadr
  obtain ⟨rel, hread⟩ := Gb.routeTransport_source hsource (some cmd)
  rw [hbyte, htracer] at hread
  have hroute := hread (s.readPayload addr cmd) rfl rfl rfl
  exact ⟨_, readBus_ok hbus hroute rfl⟩

def withRom (image : RomCell → U8) (s : InitSocket Gb) : InitSocket Gb :=
  { s with sys := { s.sys with cartridge := s.sys.cartridge.withRom image } }

/-- A data read of `addr` reads cell `x`: it gives that cell's byte, whatever the ROM holds. -/
def ReadsCell (s : InitSocket Gb) (addr : U16) (x : RomCell) : Prop :=
  ∀ image : RomCell → U8, ∃ s', (s.withRom image).readBus addr .gbReadData = .ok (image x, s')

/-- In state `s`, with the flags of `tracer`: a data read of the ROM sets one flag, and nothing
    else sets any. -/
structure RecordsReads (s : InitSocket Gb) (tracer : SymfileTracer) : Prop where
  present : s.sys.cartridge.symfileTracer = some tracer
  data : ∀ addr : U16, addr < 0x8000 → ∃ x v s' h, s.ReadsCell addr x ∧
    s.sys.cartridge.romCell x = some v ∧ s.readBus addr .gbReadData = .ok (v, s') ∧
    s'.sys.cartridge.symfileTracer =
      some ⟨Function.update tracer.accessArr ⟨x.imageOffset, h⟩ true⟩
  fetch : ∀ addr v s', s.readBus addr .gbReadInst = .ok (v, s') →
    s'.sys.cartridge.symfileTracer = some tracer
  dma : ∀ byte gb, s.sys.dmaTransfer byte = .ok gb → gb.cartridge.symfileTracer = some tracer
  debug : ∀ t t' gb, t.command = .read → s.sys.transportDbg t = .ok (t', gb) →
    gb.cartridge.symfileTracer = some tracer

theorem Tracing.recordsReads {s : InitSocket Gb} (hs : s.Tracing) :
    ∃ tracer, s.RecordsReads tracer := by
  obtain ⟨hdmi, hmbc, hsome⟩ := hs
  obtain ⟨tracer, htracer⟩ := Option.isSome_iff_exists.mp hsome
  refine ⟨tracer, htracer, fun addr hadr => ?_, fun addr v s' hread => ?_, fun byte gb hdma => ?_,
    fun t t' gb _ hdbg => ?_⟩
  · obtain ⟨payload, hread⟩ := s.readBus_rom hdmi hadr .gbReadData
    obtain ⟨hlt, hflag⟩ := Cartridge.traced_data hmbc htracer ⟨addr.toNat, hadr⟩
    refine ⟨s.sys.cartridge.shownCell ⟨addr.toNat, hadr⟩, _, _, hlt, fun image => ?_,
      Cartridge.romCell_shownCell _ _, hread, ?_⟩
    · obtain ⟨payload', hread'⟩ := @readBus_rom (s.withRom image) hdmi addr hadr .gbReadData
      have hbyte : (s.withRom image).sys.cartridge.romByte ⟨addr.toNat, hadr⟩ =
          image (s.sys.cartridge.shownCell ⟨addr.toNat, hadr⟩) :=
        Cartridge.romByte_withRom image _ _
      rw [hbyte] at hread'
      exact ⟨_, hread'⟩
    · rw [← hflag]
      exact Cartridge.withTracer_symfileTracer _ _
  · obtain ⟨-, -, -, hkept⟩ := readBus_keeps hread hmbc
    rw [hkept (by decide), htracer]
  · rw [Gb.dmaTransfer_cartridge hdma, htracer]
  · rw [(Gb.transportDbg_tracer hdbg hmbc).2, htracer]

end InitSocket

/-! ## Runs -/

/-- The constructor makes a tracer if it is asked for one. -/
theorem Cartridge.ofFiles_tracer {files : Files} {gamePath bootPath : String}
    {symbolFile quickBoot : Bool} {c : Cartridge}
    (h : ofFiles files gamePath bootPath symbolFile quickBoot = .ok c) :
    c.symfileTracer = if symbolFile then some {} else none := by
  obtain ⟨info, -, h⟩ := StateExcept.except_bind_eq_ok h
  dsimp only at h
  split_ifs at h
  · obtain ⟨m, hm, rfl⟩ := StateExcept.map_eq_ok h
    obtain ⟨-, -, hm⟩ := StateExcept.except_bind_eq_ok hm
    obtain ⟨low, high, rfl⟩ := MemoryBankCtrler.loadRom_ok hm
    rfl
  · obtain ⟨m, hm, rfl⟩ := StateExcept.map_eq_ok h
    obtain ⟨low, high, rfl⟩ := Mbc1.ofFiles_init hm
    rfl
  · obtain ⟨m, hm, rfl⟩ := StateExcept.map_eq_ok h
    obtain ⟨low, high, rfl⟩ := Mbc3.ofFiles_init hm
    rfl
  · obtain ⟨m, hm, rfl⟩ := StateExcept.map_eq_ok h
    obtain ⟨low, high, rfl⟩ := Mbc5.ofFiles_init hm
    rfl

/-- What the constructor may leave in a cell: the image's byte at the cell's offset, in the first
    bank also one of the boot ROM over it, or 0 where nothing is loaded. -/
def RomCell.Loaded (files : Files) (gamePath bootPath : String) (quickBoot : Bool) (x : RomCell)
    (v : U8) : Prop :=
  v = 0 ∨ (∃ image, files gamePath = some image ∧ image[x.imageOffset]? = some v) ∨
    ∃ k boot, x = .low k ∧ bootRom files bootPath quickBoot = some boot ∧ boot[k.val]? = some v

theorem MemoryBankCtrler.loadRom_cell {numRomBanks numRamBanks : Nat} {files : Files}
    {gamePath bootPath : String} {quickBoot : Bool} {image : List U8}
    {b b' : MemoryBankCtrler numRomBanks numRamBanks} (himage : files gamePath = some image)
    (hlow : ∀ k, b.romLow.data k = 0) (hhigh : ∀ k, b.romHigh.data k = 0)
    (h : b.loadRom files gamePath bootPath quickBoot = .ok b') {x : RomCell} {v : U8}
    (hv : b'.romCell x = some v) : x.Loaded files gamePath bootPath quickBoot v := by
  unfold romCell at hv
  cases x with
  | low k =>
    rw [← Option.some.inj hv]
    rcases loadRom_lowByte himage h k with hkept | hloaded | ⟨boot, hboot, hbyte⟩
    · exact Or.inl (hkept.trans (hlow k))
    · exact Or.inr (Or.inl ⟨image, himage, hloaded⟩)
    · exact Or.inr (Or.inr ⟨k, boot, rfl, hboot, hbyte⟩)
  | high k =>
    dsimp only at hv
    split_ifs at hv with hk
    rw [← Option.some.inj hv]
    rcases loadRom_high himage h ⟨k, hk⟩ with hkept | hloaded
    · exact Or.inl (hkept.trans (hhigh _))
    · exact Or.inr (Or.inl ⟨image, himage, hloaded⟩)

/-- The constructors load the ROM memories at the cells' image offsets. -/
theorem Cartridge.ofFiles_image {files : Files} {gamePath bootPath : String}
    {symbolFile quickBoot : Bool} {c : Cartridge}
    (h : ofFiles files gamePath bootPath symbolFile quickBoot = .ok c) {x : RomCell} {v : U8}
    (hv : c.romCell x = some v) : x.Loaded files gamePath bootPath quickBoot v := by
  obtain ⟨info, hinfo, h⟩ := StateExcept.except_bind_eq_ok h
  obtain ⟨image, himage⟩ : ∃ image, files gamePath = some image := by
    unfold GameInfo.ofFile at hinfo
    cases hfile : files gamePath with
    | none =>
      rw [hfile] at hinfo
      cases hinfo
    | some image => exact ⟨image, rfl⟩
  dsimp only at h
  split_ifs at h
  · obtain ⟨m, hm, rfl⟩ := StateExcept.map_eq_ok h
    obtain ⟨-, -, hm⟩ := StateExcept.except_bind_eq_ok hm
    exact MemoryBankCtrler.loadRom_cell himage (fun _ => rfl) (fun _ => rfl) hm hv
  · obtain ⟨m, hm, rfl⟩ := StateExcept.map_eq_ok h
    obtain ⟨b, hrom, hm⟩ := StateExcept.except_bind_eq_ok hm
    rw [MemoryBankCtrler.loadSave_eq] at hm
    cases hm
    exact MemoryBankCtrler.loadRom_cell himage (fun _ => rfl) (fun _ => rfl) hrom hv
  · obtain ⟨m, hm, rfl⟩ := StateExcept.map_eq_ok h
    obtain ⟨b, hrom, hm⟩ := StateExcept.except_bind_eq_ok hm
    rw [MemoryBankCtrler.loadSave_eq] at hm
    cases hm
    exact MemoryBankCtrler.loadRom_cell himage (fun _ => rfl) (fun _ => rfl) hrom hv
  · obtain ⟨m, hm, rfl⟩ := StateExcept.map_eq_ok h
    obtain ⟨b, hrom, hm⟩ := StateExcept.except_bind_eq_ok hm
    cases hm
    exact MemoryBankCtrler.loadRom_cell himage (fun _ => rfl) (fun _ => rfl) hrom hv

/-- With a tracer the CPU gets no pointer. -/
theorem Cartridge.getDirectMemPtr_tracer {c : Cartridge} (h : c.symfileTracer.isSome = true)
    (adr : U16) : c.getDirectMemPtr adr = false := by
  cases c <;> exact if_pos (Or.inr h)

/-- A cartridge that traces, after any run: a data read of the ROM sets the flag at the image
    offset of the cell that it reads, and instruction fetches, OAM DMAs and the debugger set
    none. It is the offset at which the constructor loads the cell. -/
theorem data_read_traced {files : Files} {gamePath bootPath : String} {quickBoot : Bool}
    {c : Cartridge} (hc : Cartridge.ofFiles files gamePath bootPath true quickBoot = .ok c)
    (hmbc : ∀ m, c ≠ .mbc5 m) {serial : Serial} {timer : Timer} {gbcmd : GbCommand}
    {game : List U8} {es : List InitSocket.TraceEvent} {s : InitSocket Gb}
    (hrun : es.foldlM (InitSocket.traceStep game)
      (.startOfSimulation gbcmd (Gb.init c serial timer)) = .ok s) :
    (∃ tracer, s.RecordsReads tracer) ∧
      ∀ x v, c.romCell x = some v → x.Loaded files gamePath bootPath quickBoot v := by
  have htracer : c.symfileTracer.isSome = true := by
    rw [Cartridge.ofFiles_tracer hc]
    rfl
  have hstart : (InitSocket.startOfSimulation gbcmd (Gb.init c serial timer)).Tracing :=
    ⟨Cartridge.getDirectMemPtr_tracer htracer 0, hmbc, htracer⟩
  have htracing := History.run_induction (fun _ s => InitSocket.Tracing s) hstart
    (fun _ _ _ _ hs hstep => hs.step hstep) hrun
  exact ⟨htracing.recordsReads, fun x v hv => Cartridge.ofFiles_image hc hv⟩

/-- An `MBC1` game of five banks is the only file. -/
def fiveBanks (path : String) : Option (List U8) :=
  if path = "game.gb" then some (gameOfType 0x03 (List.replicate 0x10000 0xC9)) else none

/-- The guest's switch to the last one. -/
def selectBank4 : InitSocket.TraceEvent := .rom (.cpu (.write 0x2000 4))

/-- Its transaction. -/
def selectPayload : Payload :=
  { command := .write, address := 0x2000, data := 4, extension := some .gbReadInst }

theorem selectPayload_bank : Mbc1.romBank [.rom selectPayload (by decide)] = 4 := by decide

theorem selectBank4_step (low : Fin 0x4000 → U8) (high : Fin (128 * 0x4000) → U8)
    (ram : Fin (4 * 0x2000) → U8) : ∃ s, InitSocket.traceStep []
      (.startOfSimulation .gbReadInst (Gb.powerOn (.mbc1 (.init low high ram true))))
      selectBank4 = .ok s ∧ s.sys.cartridge.shownCell 0x4000 = .high 0xC000 := by
  let gb := Gb.powerOn (.mbc1 (.init low high ram true))
  obtain ⟨m, hwrite, htr⟩ := Mbc1.romWrite_tracks (Mbc1.tracks_init low high ram true)
    (t := selectPayload) (by decide) rfl
  obtain ⟨⟨t', m'⟩, hrom, rfl⟩ :=
    StateExcept.map_eq_ok ((Mbc1.step_rom_write _ (by decide) rfl).trans hwrite)
  have hroute : gb.routeTransport selectPayload =
      .ok (t', { gb with cartridge := .mbc1 m' }, none) := by
    have hs : findSlave selectPayload.address = some ⟨0x0000, 0x7FFF, .cartridgeRom⟩ := by decide
    have hzero : selectPayload.address - 0x0000 = selectPayload.address := by decide
    rw [Gb.routeTransport_mapped _ hs]
    dsimp only
    rw [hzero, Gb.slaveTransport]
    show ((Mbc1.init low high ram true).bTransportRom selectPayload).map _ >>= _ = _
    rw [hrom]
    rfl
  have hbank : m'.romHigh.currentBankInd.val = 3 := by
    rw [htr.romBank, List.nil_append, selectPayload_bank]
  have hshown : (Cartridge.mbc1 m').shownCell 0x4000 = .high 0xC000 := by
    show MemoryBankCtrler.shownCell 0x4000 m'.toMemoryBankCtrler = _
    rw [MemoryBankCtrler.shownCell, dif_neg (by decide), hbank]
    rfl
  refine ⟨{ InitSocket.startOfSimulation .gbReadInst gb with
    payload := t', sys := { gb with cartridge := .mbc1 m' } }, ?_, hshown⟩
  exact congrArg (· >>= _) (Gb.bTransport_of_route hroute)

/-- A data read of 0x4000 there sets the flag of the byte 0x10000 of the image. -/
theorem bank_4_traced : ∃ (m : Mbc1) (s : InitSocket Gb) (tracer : SymfileTracer),
    Cartridge.ofFiles fiveBanks "game.gb" "" true false = .ok (.mbc1 m) ∧
    InitSocket.traceStep [] (.startOfSimulation .gbReadInst (Gb.powerOn (.mbc1 m))) selectBank4 =
      .ok s ∧
    s.sys.cartridge.shownCell 0x4000 = .high 0xC000 ∧ s.RecordsReads tracer ∧
    ∀ x v, (Cartridge.mbc1 m).romCell x = some v → x.Loaded fiveBanks "game.gb" "" false v := by
  have hgame : fiveBanks "game.gb" = some (gameOfType 0x03 (List.replicate 0x10000 0xC9)) := rfl
  have hfits : (List.replicate 0x10000 (0xC9 : U8)).length ≤ 128 * 0x4000 := by
    rw [List.length_replicate]
    decide
  obtain ⟨low, high, hc⟩ := Cartridge.ofFiles_mbc1 true false hgame hfits
  obtain ⟨s, hstep, hshown⟩ := selectBank4_step low high _
  obtain ⟨⟨tracer, hrecords⟩, hloaded⟩ :=
    @data_read_traced _ _ _ _ _ hc nofun _ _ .gbReadInst [] [selectBank4] s
      ((List.foldlM_cons ..).trans (congrArg (· >>= _) hstep))
  exact ⟨_, s, tracer, hc, hstep, hshown, hrecords, hloaded⟩

end TlmBoy
