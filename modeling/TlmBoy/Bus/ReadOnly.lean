import TlmBoy.Bus.Leftover
import TlmBoy.Bus.Handled

/-
  The ROM cannot be written.

  `rom_low` and `rom_high` are plain memories and take every write they are sent. What keeps
  them is that no controller sends one: `SameRom` relates the cartridge before and after any
  transaction that completes, OAM DMA included. The one exception is `UnmapBootRom`, which the
  signal behind 0xFF50 starts, and which puts the game file over `rom_low`. The signal is only
  ever written with `true`, so it changes once.

  `rom_read_only`: after any accesses of the guest from power-on, the byte at a ROM address is
  the image's, by the unmap signal and the current bank.
-/

namespace TlmBoy

/-! ## The contents of the ROM -/

namespace MemoryBankCtrler

variable {numRomBanks numRamBanks : Nat}

/-- Both ROM memories hold the same bytes. -/
def SameRom (c c' : MemoryBankCtrler numRomBanks numRamBanks) : Prop :=
  c'.romLow = c.romLow ∧ c'.romHigh.data = c.romHigh.data

theorem SameRom.refl (c : MemoryBankCtrler numRomBanks numRamBanks) : SameRom c c := ⟨rfl, rfl⟩

theorem SameRom.trans {c c' c'' : MemoryBankCtrler numRomBanks numRamBanks} (h : SameRom c c')
    (h' : SameRom c' c'') : SameRom c c'' := ⟨h'.1.trans h.1, h'.2.trans h.2⟩

theorem traceRead_sameRom {c c' : MemoryBankCtrler numRomBanks numRamBanks}
    {ext : Option GbCommand} {bank adr : U16} (h : c.traceRead ext bank adr = .ok c') :
    SameRom c c' := by
  unfold traceRead at h
  split at h
  · obtain ⟨tracer, -, h⟩ := StateExcept.except_bind_eq_ok h
    cases h
    exact SameRom.refl c
  · cases h
    exact SameRom.refl c

theorem romLowTransport_sameRom {c c' : MemoryBankCtrler numRomBanks numRamBanks}
    {t t' : Payload} (hcmd : t.command ≠ .write) (h : c.romLowTransport t = .ok (t', c')) :
    SameRom c c' := by
  obtain ⟨⟨u, romLow⟩, hlow, h⟩ := StateExcept.except_bind_eq_ok h
  cases h
  exact ⟨GenericMemory.bTransport_of_ne_write hcmd hlow, rfl⟩

theorem romHighTransport_sameRom {c c' : MemoryBankCtrler numRomBanks numRamBanks}
    {t t' : Payload} (hcmd : t.command ≠ .write) (h : c.romHighTransport t = .ok (t', c')) :
    SameRom c c' := by
  obtain ⟨⟨u, romHigh⟩, hhigh, h⟩ := StateExcept.except_bind_eq_ok h
  cases h
  have hsame := @BankSwitchedMem.bTransport_of_ne_write _ _ _ _
    { t with address := t.address - 0x4000 } _ hcmd hhigh
  exact ⟨rfl, congrArg BankSwitchedMem.data hsame⟩

theorem tracedRomRead_sameRom {c c' : MemoryBankCtrler numRomBanks numRamBanks} {t t' : Payload}
    (hcmd : t.command ≠ .write) (h : c.tracedRomRead t = .ok (t', c')) : SameRom c c' := by
  unfold tracedRomRead at h
  split_ifs at h
  · obtain ⟨m, htr, h⟩ := StateExcept.except_bind_eq_ok h
    exact (traceRead_sameRom htr).trans (romLowTransport_sameRom hcmd h)
  · obtain ⟨m, htr, h⟩ := StateExcept.except_bind_eq_ok h
    exact (traceRead_sameRom htr).trans (romHighTransport_sameRom hcmd h)

theorem ramTransport_sameRom {c c' : MemoryBankCtrler numRomBanks numRamBanks} {t t' : Payload}
    (h : c.ramTransport t = .ok (t', c')) : SameRom c c' := by
  obtain ⟨⟨u, extRam⟩, -, h⟩ := StateExcept.except_bind_eq_ok h
  cases h
  exact SameRom.refl c

end MemoryBankCtrler

namespace Mbc1

theorem setRegister_sameRom (adr : U16) (v : U8) (m : Mbc1) :
    m.SameRom (m.setRegister adr v).toMemoryBankCtrler := by
  unfold setRegister
  split_ifs <;> exact ⟨rfl, rfl⟩

theorem romWrite_sameRom {m m' : Mbc1} {adr : U16} {v : U8} (h : m.romWrite adr v = .ok m') :
    m.SameRom m'.toMemoryBankCtrler := by
  obtain ⟨-, -, h⟩ := StateExcept.except_bind_eq_ok h
  obtain ⟨-, -, h⟩ := StateExcept.except_bind_eq_ok h
  obtain ⟨romHigh, hrom, h⟩ := StateExcept.except_bind_eq_ok h
  obtain ⟨extRam, -, h⟩ := StateExcept.except_bind_eq_ok h
  cases h
  exact (m.setRegister_sameRom adr v).trans ⟨rfl, BankSwitchedMem.doBankSwitch_data hrom⟩

theorem bTransportRom_sameRom {m m' : Mbc1} {t t' : Payload}
    (h : m.bTransportRom t = .ok (t', m')) : m.SameRom m'.toMemoryBankCtrler := by
  obtain ⟨-, -, h⟩ := StateExcept.except_bind_eq_ok h
  cases hcmd : t.command with
  | write =>
    rw [hcmd] at h
    obtain ⟨m'', hwrite, h⟩ := StateExcept.except_bind_eq_ok h
    cases h
    exact romWrite_sameRom hwrite
  | read =>
    rw [hcmd] at h
    obtain ⟨⟨u, c⟩, hread, h⟩ := StateExcept.except_bind_eq_ok h
    cases h
    exact MemoryBankCtrler.tracedRomRead_sameRom (by rw [hcmd]; decide) hread
  | ignore =>
    rw [hcmd] at h
    cases h
    exact .refl _

theorem bTransportRam_sameRom {m m' : Mbc1} {t t' : Payload}
    (h : m.bTransportRam t = .ok (t', m')) : m.SameRom m'.toMemoryBankCtrler := by
  obtain ⟨-, -, h⟩ := StateExcept.except_bind_eq_ok h
  split_ifs at h
  · obtain ⟨⟨u, c⟩, hram, h⟩ := StateExcept.except_bind_eq_ok h
    cases h
    exact MemoryBankCtrler.ramTransport_sameRom hram
  · cases h
    exact .refl _

end Mbc1

namespace Mbc3

theorem setRegister_sameRom (adr : U16) (v : U8) (m : Mbc3) :
    m.SameRom (m.setRegister adr v).toMemoryBankCtrler := by
  unfold setRegister
  split_ifs <;> exact ⟨rfl, rfl⟩

theorem romWrite_sameRom {m m' : Mbc3} {adr : U16} {v : U8} (h : m.romWrite adr v = .ok m') :
    m.SameRom m'.toMemoryBankCtrler := by
  obtain ⟨-, -, h⟩ := StateExcept.except_bind_eq_ok h
  obtain ⟨romHigh, hrom, h⟩ := StateExcept.except_bind_eq_ok h
  obtain ⟨extRam, -, h⟩ := StateExcept.except_bind_eq_ok h
  cases h
  exact (m.setRegister_sameRom adr v).trans ⟨rfl, BankSwitchedMem.doBankSwitch_data hrom⟩

theorem bTransportRom_sameRom {m m' : Mbc3} {t t' : Payload}
    (h : m.bTransportRom t = .ok (t', m')) : m.SameRom m'.toMemoryBankCtrler := by
  obtain ⟨-, -, h⟩ := StateExcept.except_bind_eq_ok h
  cases hcmd : t.command with
  | write =>
    rw [hcmd] at h
    obtain ⟨m'', hwrite, h⟩ := StateExcept.except_bind_eq_ok h
    cases h
    exact romWrite_sameRom hwrite
  | read =>
    rw [hcmd] at h
    obtain ⟨⟨u, c⟩, hread, h⟩ := StateExcept.except_bind_eq_ok h
    cases h
    exact MemoryBankCtrler.tracedRomRead_sameRom (by rw [hcmd]; decide) hread
  | ignore =>
    rw [hcmd] at h
    cases h
    exact .refl _

theorem bTransportRam_sameRom {m m' : Mbc3} {time : I64} {t t' : Payload}
    (h : m.bTransportRam time t = .ok (t', m')) : m.SameRom m'.toMemoryBankCtrler := by
  obtain ⟨-, -, h⟩ := StateExcept.except_bind_eq_ok h
  split_ifs at h
  · dsimp only at h
    split_ifs at h <;> cases h <;> exact .refl _
  · obtain ⟨⟨u, c⟩, hram, h⟩ := StateExcept.except_bind_eq_ok h
    cases h
    exact MemoryBankCtrler.ramTransport_sameRom hram
  · cases h
    exact .refl _

end Mbc3

namespace Mbc5

theorem setRegister_sameRom (adr : U16) (v : U8) (m : Mbc5) :
    m.SameRom (m.setRegister adr v).toMemoryBankCtrler := by
  unfold setRegister
  split_ifs <;> exact ⟨rfl, rfl⟩

theorem romWrite_sameRom {m m' : Mbc5} {adr : U16} {v : U8} (h : m.romWrite adr v = .ok m') :
    m.SameRom m'.toMemoryBankCtrler := by
  obtain ⟨romHigh, hrom, h⟩ := StateExcept.except_bind_eq_ok h
  obtain ⟨extRam, -, h⟩ := StateExcept.except_bind_eq_ok h
  cases h
  exact (m.setRegister_sameRom adr v).trans ⟨rfl, BankSwitchedMem.doBankSwitch_data hrom⟩

theorem bTransportRom_sameRom {m m' : Mbc5} {t t' : Payload}
    (h : m.bTransportRom t = .ok (t', m')) : m.SameRom m'.toMemoryBankCtrler := by
  obtain ⟨-, -, h⟩ := StateExcept.except_bind_eq_ok h
  cases hcmd : t.command with
  | write =>
    rw [hcmd] at h
    obtain ⟨m'', hwrite, h⟩ := StateExcept.except_bind_eq_ok h
    cases h
    exact romWrite_sameRom hwrite
  | read =>
    have hne : t.command ≠ .write := by
      rw [hcmd]
      decide
    rw [hcmd] at h
    dsimp only at h
    split_ifs at h
    · obtain ⟨⟨u, c⟩, hread, h⟩ := StateExcept.except_bind_eq_ok h
      cases h
      exact MemoryBankCtrler.romLowTransport_sameRom hne hread
    · obtain ⟨⟨u, c⟩, hread, h⟩ := StateExcept.except_bind_eq_ok h
      cases h
      exact MemoryBankCtrler.romHighTransport_sameRom hne hread
  | ignore =>
    rw [hcmd] at h
    cases h
    exact .refl _

theorem bTransportRam_sameRom {m m' : Mbc5} {t t' : Payload}
    (h : m.bTransportRam t = .ok (t', m')) : m.SameRom m'.toMemoryBankCtrler := by
  obtain ⟨-, -, h⟩ := StateExcept.except_bind_eq_ok h
  split_ifs at h
  · obtain ⟨⟨u, c⟩, hram, h⟩ := StateExcept.except_bind_eq_ok h
    cases h
    exact MemoryBankCtrler.ramTransport_sameRom hram

end Mbc5

namespace Rom

theorem bTransportRom_sameRom {m m' : Rom} {t t' : Payload}
    (h : Rom.bTransportRom t m = .ok (t', m')) : MemoryBankCtrler.SameRom m m' := by
  obtain ⟨-, -, h⟩ := StateExcept.except_bind_eq_ok h
  split_ifs at h with hcmd
  · cases h
    exact .refl m
  · exact MemoryBankCtrler.tracedRomRead_sameRom hcmd h

theorem bTransportRam_sameRom {m m' : Rom} {t t' : Payload}
    (h : Rom.bTransportRam t m = .ok (t', m')) : MemoryBankCtrler.SameRom m m' := by
  obtain ⟨-, -, h⟩ := StateExcept.except_bind_eq_ok h
  dsimp only at h
  split_ifs at h <;> cases h <;> exact .refl m

end Rom

/-! ## The cartridge -/

/-- Byte `i` of `rom_high`, if there is one. -/
def MemoryBankCtrler.romHighByte {numRomBanks numRamBanks : Nat}
    (c : MemoryBankCtrler numRomBanks numRamBanks) (i : Nat) : Option U8 :=
  if h : i < numRomBanks * 0x4000 then some (c.romHigh.data ⟨i, h⟩) else none

namespace Cartridge

def romHighByte (c : Cartridge) (i : Nat) : Option U8 :=
  match c with
  | .rom m => m.romHighByte i
  | .mbc1 m => m.romHighByte i
  | .mbc3 m => m.romHighByte i
  | .mbc5 m => m.romHighByte i

/-- The bank that the window 0x4000-0x7FFF shows. -/
def romBank (c : Cartridge) : Nat :=
  match c with
  | .rom m => m.romHigh.currentBankInd.val
  | .mbc1 m => m.romHigh.currentBankInd.val
  | .mbc3 m => m.romHigh.currentBankInd.val
  | .mbc5 m => m.romHigh.currentBankInd.val

/-- Both ROM memories hold the same bytes. -/
def SameRom (c c' : Cartridge) : Prop :=
  c'.romLow = c.romLow ∧ c'.romHighByte = c.romHighByte

theorem SameRom.refl (c : Cartridge) : SameRom c c := ⟨rfl, rfl⟩

theorem SameRom.trans {c c' c'' : Cartridge} (h : SameRom c c') (h' : SameRom c' c'') :
    SameRom c c'' := ⟨h'.1.trans h.1, h'.2.trans h.2⟩

theorem romHighByte_congr {numRomBanks numRamBanks : Nat}
    {c c' : MemoryBankCtrler numRomBanks numRamBanks} (h : c.SameRom c') :
    c'.romHighByte = c.romHighByte := by
  funext i
  unfold MemoryBankCtrler.romHighByte
  rw [h.2]

theorem bTransportRom_sameRom {c c' : Cartridge} {t t' : Payload}
    (h : c.bTransportRom t = .ok (t', c')) : SameRom c c' := by
  cases c with
  | rom m =>
    obtain ⟨r, hr, he⟩ := StateExcept.map_eq_ok h
    cases he
    have hsame := Rom.bTransportRom_sameRom hr
    exact ⟨hsame.1, romHighByte_congr hsame⟩
  | mbc1 m =>
    obtain ⟨r, hr, he⟩ := StateExcept.map_eq_ok h
    cases he
    have hsame := Mbc1.bTransportRom_sameRom hr
    exact ⟨hsame.1, romHighByte_congr hsame⟩
  | mbc3 m =>
    obtain ⟨r, hr, he⟩ := StateExcept.map_eq_ok h
    cases he
    have hsame := Mbc3.bTransportRom_sameRom hr
    exact ⟨hsame.1, romHighByte_congr hsame⟩
  | mbc5 m =>
    obtain ⟨r, hr, he⟩ := StateExcept.map_eq_ok h
    cases he
    have hsame := Mbc5.bTransportRom_sameRom hr
    exact ⟨hsame.1, romHighByte_congr hsame⟩

theorem bTransportRam_sameRom {c c' : Cartridge} {time : I64} {t t' : Payload}
    (h : c.bTransportRam time t = .ok (t', c')) : SameRom c c' := by
  cases c with
  | rom m =>
    obtain ⟨r, hr, he⟩ := StateExcept.map_eq_ok h
    cases he
    have hsame := Rom.bTransportRam_sameRom hr
    exact ⟨hsame.1, romHighByte_congr hsame⟩
  | mbc1 m =>
    obtain ⟨r, hr, he⟩ := StateExcept.map_eq_ok h
    cases he
    have hsame := Mbc1.bTransportRam_sameRom hr
    exact ⟨hsame.1, romHighByte_congr hsame⟩
  | mbc3 m =>
    obtain ⟨r, hr, he⟩ := StateExcept.map_eq_ok h
    cases he
    have hsame := Mbc3.bTransportRam_sameRom hr
    exact ⟨hsame.1, romHighByte_congr hsame⟩
  | mbc5 m =>
    obtain ⟨r, hr, he⟩ := StateExcept.map_eq_ok h
    cases he
    have hsame := Mbc5.bTransportRam_sameRom hr
    exact ⟨hsame.1, romHighByte_congr hsame⟩

/-- `SigHandler` puts the game over `rom_low`, and that is all. -/
theorem sigHandler_eq (game : List U8) (c : Cartridge) : ∃ c', c.sigHandler game = .ok c' ∧
    c'.romLow = c.romLow.overlay game ∧ c'.romHighByte = c.romHighByte := by
  cases c with
  | rom m =>
    refine ⟨.rom { m with romLow := m.romLow.overlay game }, ?_, rfl, rfl⟩
    rw [sigHandler, MemoryBankCtrler.unmapBootRom, GenericMemory.loadFromFile_zero]
    rfl
  | mbc1 m =>
    refine ⟨.mbc1 { m with romLow := m.romLow.overlay game }, ?_, rfl, rfl⟩
    rw [sigHandler, MemoryBankCtrler.unmapBootRom, GenericMemory.loadFromFile_zero]
    rfl
  | mbc3 m =>
    refine ⟨.mbc3 { m with romLow := m.romLow.overlay game }, ?_, rfl, rfl⟩
    rw [sigHandler, MemoryBankCtrler.unmapBootRom, GenericMemory.loadFromFile_zero]
    rfl
  | mbc5 m =>
    refine ⟨.mbc5 { m with romLow := m.romLow.overlay game }, ?_, rfl, rfl⟩
    rw [sigHandler, MemoryBankCtrler.unmapBootRom, GenericMemory.loadFromFile_zero]
    rfl

/-- What the ROM window shows, by the contents and the bank. -/
theorem romByte_eq (c : Cartridge) (a : Fin 0x8000) : some (c.romByte a) =
    if h : a.val < 0x4000 then some (c.romLow.data ⟨a.val, h⟩)
    else c.romHighByte (c.romBank * 0x4000 + (a.val - 0x4000)) := by
  have hmbc : ∀ {n k : Nat} (m : MemoryBankCtrler n k), some (m.romByte a) =
      if h : a.val < 0x4000 then some (m.romLow.data ⟨a.val, h⟩)
      else m.romHighByte (m.romHigh.currentBankInd.val * 0x4000 + (a.val - 0x4000)) := by
    intro n k m
    unfold MemoryBankCtrler.romByte
    split_ifs with hlow
    · rfl
    · have hcell : m.romHigh.currentBankInd.val * 0x4000 + (a.val - 0x4000) < n * 0x4000 :=
        (BankSwitchedMem.cell m.romHigh.currentBankInd
          (⟨a.val - 0x4000, by omega⟩ : Fin 0x4000)).isLt
      rw [MemoryBankCtrler.romHighByte, dif_pos hcell]
      rfl
  cases c with
  | rom m => exact hmbc m
  | mbc1 m => exact hmbc m.toMemoryBankCtrler
  | mbc3 m => exact hmbc m.toMemoryBankCtrler
  | mbc5 m => exact hmbc m.toMemoryBankCtrler

end Cartridge

/-! ## The unmap signal -/

namespace IoRegisters

/-- The unmap signal keeps its value until the next update, and stays written once it is. -/
def UnmapGrows (io io' : IoRegisters) : Prop :=
  (io'.signals .unmapRom).value = (io.signals .unmapRom).value ∧
    ((io.signals .unmapRom).next = true → (io'.signals .unmapRom).next = true)

theorem UnmapGrows.refl (io : IoRegisters) : UnmapGrows io io := ⟨rfl, id⟩

theorem UnmapGrows.trans {io io' io'' : IoRegisters} (h : UnmapGrows io io')
    (h' : UnmapGrows io' io'') : UnmapGrows io io'' := ⟨h'.1.trans h.1, fun hn => h'.2 (h.2 hn)⟩

theorem unmapGrows_of_signals {io io' : IoRegisters} (h : io'.signals = io.signals) :
    UnmapGrows io io' := by
  unfold UnmapGrows
  rw [h]
  exact ⟨rfl, id⟩

theorem storeReg_grows {io io' : IoRegisters} {adr : U16} {v : U8}
    (h : io.storeReg adr v = .ok io') : UnmapGrows io io' := by
  obtain ⟨m, -, h⟩ := StateExcept.except_bind_eq_ok h
  cases h
  exact unmapGrows_of_signals rfl

/-- A write to another signal. -/
theorem writeSignal_grows (io : IoRegisters) {sig : IoSignal} (hsig : sig ≠ .unmapRom) (v : Bool) :
    UnmapGrows io (io.writeSignal sig v) := by
  have hsame : (io.writeSignal sig v).signals .unmapRom = io.signals .unmapRom :=
    Function.update_of_ne hsig.symm _ _
  unfold UnmapGrows
  rw [hsame]
  exact ⟨rfl, id⟩

/-- A write of `true` to the unmap signal. -/
theorem writeUnmap_grows (io : IoRegisters) : UnmapGrows io (io.writeSignal .unmapRom true) := by
  have hnew : (io.writeSignal .unmapRom true).signals .unmapRom =
      (io.signals .unmapRom).write true := by
    simp only [writeSignal, Function.update_self]
  unfold UnmapGrows
  rw [hnew]
  exact ⟨rfl, fun _ => rfl⟩

/-- Storing a byte and then, perhaps, toggling another signal. -/
theorem store_toggle_grows {io io' : IoRegisters} {adr : U16} {v : U8} {c : Prop} [Decidable c]
    {sig : IoSignal} (hsig : sig ≠ .unmapRom) {dma : Option U8}
    (h : (io.storeReg adr v >>= fun io => .ok (if c then io.toggle sig else io, none)) =
      .ok (io', dma)) : UnmapGrows io io' := by
  obtain ⟨m, hstore, h⟩ := StateExcept.except_bind_eq_ok h
  injection h with h
  injection h with h
  subst h
  refine (storeReg_grows hstore).trans ?_
  by_cases hc : c
  · rw [if_pos hc]
    exact writeSignal_grows m hsig _
  · rw [if_neg hc]
    exact .refl m

/-- Every register write leaves the unmap signal alone or writes `true` to it. -/
theorem writeReg_grows {io io' : IoRegisters} {adr : U16} {v : U8} {dma : Option U8}
    (h : io.writeReg adr v = .ok (io', dma)) : UnmapGrows io io' := by
  have hplain : ∀ {io₁ : IoRegisters} {b : U8}, UnmapGrows io io₁ →
      (io₁.storeReg adr b >>= fun io => .ok (io, none)) = .ok (io', dma) → UnmapGrows io io' := by
    intro io₁ b hgrows h
    obtain ⟨m, hstore, h⟩ := StateExcept.except_bind_eq_ok h
    cases h
    exact hgrows.trans (storeReg_grows hstore)
  have htoggle : ∀ {sig : IoSignal}, sig ≠ .unmapRom →
      (io.storeReg adr v >>= fun io => .ok (io.toggle sig, none)) = .ok (io', dma) →
      UnmapGrows io io' := by
    intro sig hsig h
    obtain ⟨m, hstore, h⟩ := StateExcept.except_bind_eq_ok h
    cases h
    exact (storeReg_grows hstore).trans (writeSignal_grows m hsig _)
  unfold writeReg at h
  split at h
  · exact htoggle (by decide) h
  · exact store_toggle_grows (by decide) h
  · exact htoggle (by decide) h
  · exact store_toggle_grows (by decide) h
  · exact hplain (writeSignal_grows io (by decide) _) h
  · exact hplain (writeSignal_grows io (by decide) _) h
  · exact store_toggle_grows (by decide) h
  · exact hplain (.refl io) h
  · exact hplain (.refl io) h
  · cases h
    exact .refl io
  · injection h with h
    injection h with h
    subst h
    by_cases hv : v = 1
    · rw [if_pos hv]
      exact writeUnmap_grows io
    · rw [if_neg hv]
      exact .refl io
  · cases h
    exact .refl io
  · exact hplain (.refl io) h

theorem bTransport_grows {io io' : IoRegisters} {t t' : Payload} {dma : Option U8}
    (h : io.bTransport t = .ok (t', io', dma)) : UnmapGrows io io' := by
  cases hcmd : t.command with
  | read =>
    rw [bTransport, hcmd] at h
    obtain ⟨v, -, h⟩ := StateExcept.except_bind_eq_ok h
    cases h
    exact .refl io
  | ignore =>
    rw [bTransport, hcmd] at h
    cases h
    exact .refl io
  | write =>
    rw [bTransport, hcmd] at h
    dsimp only at h
    generalize hoff : (if t.address = 0x16 ∧ (t.data &&& 0b10000000) = 0 then io.apuOff
      else io) = io₁ at h
    have hgrows : UnmapGrows io io₁ := by
      rw [← hoff]
      split_ifs
      · exact unmapGrows_of_signals rfl
      · exact .refl io
    split_ifs at h
    · cases h
      exact hgrows
    · obtain ⟨⟨io'', d⟩, hreg, h⟩ := StateExcept.except_bind_eq_ok h
      cases h
      exact hgrows.trans (writeReg_grows hreg)

end IoRegisters

/-! ## The memory system -/

namespace Gb

/-- What every transaction keeps: the ROM, and the unmap signal but for a `true` to come. -/
def KeepsRom (gb gb' : Gb) : Prop :=
  gb.cartridge.SameRom gb'.cartridge ∧ gb.ioRegisters.UnmapGrows gb'.ioRegisters

theorem KeepsRom.refl (gb : Gb) : KeepsRom gb gb := ⟨.refl _, .refl _⟩

theorem KeepsRom.trans {gb gb' gb'' : Gb} (h : KeepsRom gb gb') (h' : KeepsRom gb' gb'') :
    KeepsRom gb gb'' := ⟨h.1.trans h'.1, h.2.trans h'.2⟩

theorem slaveTransport_keepsRom {gb gb' : Gb} {slave : Slave} {t t' : Payload} {dma : Option U8}
    (h : gb.slaveTransport slave t = .ok (t', gb', dma)) : KeepsRom gb gb' := by
  cases slave with
  | cartridgeRom =>
    obtain ⟨⟨u, c⟩, hc, h⟩ := StateExcept.except_bind_eq_ok h
    cases h
    exact ⟨Cartridge.bTransportRom_sameRom hc, .refl _⟩
  | cartridgeRam =>
    obtain ⟨⟨u, c⟩, hc, h⟩ := StateExcept.except_bind_eq_ok h
    cases h
    exact ⟨Cartridge.bTransportRam_sameRom hc, .refl _⟩
  | ioRegisters =>
    obtain ⟨⟨u, io, d⟩, hio, h⟩ := StateExcept.except_bind_eq_ok h
    cases h
    exact ⟨.refl _, IoRegisters.bTransport_grows hio⟩
  | _ =>
    obtain ⟨⟨u, m⟩, -, h⟩ := StateExcept.except_bind_eq_ok h
    cases h
    exact .refl gb

theorem routeTransport_keepsRom {gb gb' : Gb} {t t' : Payload} {dma : Option U8}
    (h : gb.routeTransport t = .ok (t', gb', dma)) : KeepsRom gb gb' := by
  cases hs : findSlave t.address with
  | none =>
    rw [routeTransport_unmapped gb hs] at h
    cases h
    exact .refl gb
  | some s =>
    rw [routeTransport_mapped gb hs] at h
    exact slaveTransport_keepsRom h

theorem dmaTransfer_keepsRom {gb gb' : Gb} {byte : U8} (h : gb.dmaTransfer byte = .ok gb') :
    KeepsRom gb gb' := by
  obtain ⟨s, hrun, h⟩ := StateExcept.except_bind_eq_ok h
  cases h
  refine History.run_induction (fun _ (s : Payload × Payload × Gb) => KeepsRom gb s.2.2)
    (.refl gb) ?_ hrun
  rintro - ⟨rp, wp, m⟩ i s' hm hstep
  obtain ⟨⟨rp', m₁, d⟩, hread, hstep⟩ := StateExcept.except_bind_eq_ok hstep
  obtain ⟨⟨wp', m₂, d'⟩, hwrite, hstep⟩ := StateExcept.except_bind_eq_ok hstep
  cases hstep
  exact (hm.trans (routeTransport_keepsRom hread)).trans (routeTransport_keepsRom hwrite)

theorem bTransport_keepsRom {gb gb' : Gb} {t t' : Payload} (h : gb.bTransport t = .ok (t', gb')) :
    KeepsRom gb gb' := by
  obtain ⟨⟨u, m, dma⟩, hroute, h⟩ := StateExcept.except_bind_eq_ok h
  cases dma with
  | none =>
    cases h
    exact routeTransport_keepsRom hroute
  | some byte =>
    obtain ⟨m', hdma, h⟩ := StateExcept.except_bind_eq_ok h
    cases h
    exact (routeTransport_keepsRom hroute).trans (dmaTransfer_keepsRom hdma)

end Gb

theorem InitSocket.transact_keepsRom {s s' : InitSocket Gb} {tr : Transaction}
    (h : s.transact tr = .ok s') : Gb.KeepsRom s.sys s'.sys := by
  cases tr with
  | read addr cmd =>
    obtain ⟨⟨v, s''⟩, hread, he⟩ := StateExcept.map_eq_ok h
    cases he
    by_cases hbus : addr.toNat < 0x4000 ∧ s.hasRomBank0 = true
    · rw [readBus_dmi cmd hbus.1 hbus.2] at hread
      cases hread
      exact .refl _
    · rw [readBus_bus cmd hbus] at hread
      obtain ⟨⟨t, gb⟩, hbt, hread⟩ := StateExcept.except_bind_eq_ok hread
      split_ifs at hread
      cases hread
      exact Gb.bTransport_keepsRom hbt
  | write addr data =>
    obtain ⟨⟨t, gb⟩, hbt, h⟩ := StateExcept.except_bind_eq_ok h
    cases h
    exact Gb.bTransport_keepsRom hbt

/-! ## Runs from power-on -/

/-- What happens to the memory system: a transaction of the CPU, or a delta cycle. -/
inductive RomEvent where
  | cpu (tr : Transaction)
  | delta

/-- One event, with the bytes of the game file. -/
def InitSocket.romStep (game : List U8) (s : InitSocket Gb) (e : RomEvent) :
    Except Fault (InitSocket Gb) :=
  match e with
  | .cpu tr => s.transact tr
  | .delta => (s.sys.deltaCycle game).map fun sys => { s with sys }

/-- The boot ROM has been unmapped. -/
def Gb.unmapped (gb : Gb) : Bool := (gb.ioRegisters.signals .unmapRom).value

/-- `rom_low` by the unmap signal. -/
def Cartridge.romLowAfter (game : List U8) (unmapped : Bool) (c : Cartridge) :
    GenericMemory 0x4000 :=
  if unmapped then c.romLow.overlay game else c.romLow

/-- The byte at a ROM address, by the image that the cartridge `c` started with, the unmap signal
    and the bank. -/
def Cartridge.imageByte (game : List U8) (unmapped : Bool) (bank : Nat) (a : Fin 0x8000)
    (c : Cartridge) : Option U8 :=
  if h : a.val < 0x4000 then some ((c.romLowAfter game unmapped).data ⟨a.val, h⟩)
  else c.romHighByte (bank * 0x4000 + (a.val - 0x4000))

/-- The image is in place, and a signal that has risen does not fall. -/
structure RomIntact (game : List U8) (c : Cartridge) (gb : Gb) : Prop where
  low : gb.cartridge.romLow = c.romLowAfter game gb.unmapped
  high : gb.cartridge.romHighByte = c.romHighByte
  risen : gb.unmapped = true → (gb.ioRegisters.signals .unmapRom).next = true

theorem RomIntact.of_keepsRom {game : List U8} {c : Cartridge} {gb gb' : Gb}
    (h : RomIntact game c gb) (hk : gb.KeepsRom gb') : RomIntact game c gb' := by
  obtain ⟨⟨hlow, hhigh⟩, hvalue, hnext⟩ := hk
  have hsame : gb'.unmapped = gb.unmapped := hvalue
  exact ⟨by rw [hlow, h.low, hsame], hhigh.trans h.high,
    fun hu => hnext (h.risen (hsame ▸ hu))⟩

/-- A delta cycle updates the signals, and the handler runs when the unmap signal changes. -/
theorem Gb.deltaCycle_eq (game : List U8) (gb : Gb) : ∃ cartridge,
    gb.deltaCycle game = .ok { gb with cartridge, ioRegisters := { gb.ioRegisters with
      signals := fun sig => (gb.ioRegisters.signals sig).update } } ∧
    ((gb.ioRegisters.signals .unmapRom).next = gb.unmapped → cartridge = gb.cartridge) ∧
    ((gb.ioRegisters.signals .unmapRom).next ≠ gb.unmapped →
      cartridge.romLow = gb.cartridge.romLow.overlay game ∧
        cartridge.romHighByte = gb.cartridge.romHighByte) := by
  by_cases hchanged : (gb.ioRegisters.signals .unmapRom).next = gb.unmapped
  · have hne : ¬ ((gb.ioRegisters.signals .unmapRom).next !=
        (gb.ioRegisters.signals .unmapRom).value) = true := by
      rw [bne_iff_ne]
      exact fun h => h hchanged
    refine ⟨gb.cartridge, ?_, fun _ => rfl, fun h => absurd hchanged h⟩
    unfold Gb.deltaCycle
    dsimp only
    rw [if_neg hne]
    rfl
  · obtain ⟨cartridge, hok, hlow, hhigh⟩ := gb.cartridge.sigHandler_eq game
    refine ⟨cartridge, ?_, fun h => absurd h hchanged, fun _ => ⟨hlow, hhigh⟩⟩
    unfold Gb.deltaCycle
    dsimp only
    rw [if_pos (show ((gb.ioRegisters.signals .unmapRom).next !=
      (gb.ioRegisters.signals .unmapRom).value) = true from bne_iff_ne.mpr hchanged), hok]
    rfl

theorem RomIntact.deltaCycle {game : List U8} {c : Cartridge} {gb gb' : Gb}
    (h : RomIntact game c gb) (hstep : gb.deltaCycle game = .ok gb') : RomIntact game c gb' := by
  obtain ⟨cartridge, hok, hsame, hchanged⟩ := gb.deltaCycle_eq game
  rw [hok] at hstep
  cases hstep
  by_cases hnext : (gb.ioRegisters.signals .unmapRom).next = gb.unmapped
  · refine ⟨?_, ?_, fun hu => hu⟩
    · show cartridge.romLow = c.romLowAfter game (gb.ioRegisters.signals .unmapRom).next
      rw [hsame hnext, h.low, hnext]
    · show cartridge.romHighByte = c.romHighByte
      rw [hsame hnext, h.high]
  · -- The signal rises: it was low before, since a risen one stays written.
    have hlow : gb.unmapped = false := by
      by_contra hv
      have hv' := Bool.eq_true_of_not_eq_false hv
      exact hnext ((h.risen hv').trans hv'.symm)
    have hrises : (gb.ioRegisters.signals .unmapRom).next = true := by
      rw [hlow] at hnext
      exact Bool.eq_true_of_not_eq_false hnext
    obtain ⟨hnewLow, hnewHigh⟩ := hchanged hnext
    refine ⟨?_, hnewHigh.trans h.high, fun hu => hu⟩
    show cartridge.romLow = c.romLowAfter game (gb.ioRegisters.signals .unmapRom).next
    rw [hnewLow, h.low, hlow, hrises]
    rfl

theorem RomIntact.step {game : List U8} {c : Cartridge} {s s' : InitSocket Gb} {e : RomEvent}
    (h : RomIntact game c s.sys) (hstep : s.romStep game e = .ok s') :
    RomIntact game c s'.sys := by
  cases e with
  | cpu tr => exact h.of_keepsRom (InitSocket.transact_keepsRom hstep)
  | delta =>
    obtain ⟨gb, hdelta, he⟩ := StateExcept.map_eq_ok hstep
    cases he
    exact h.deltaCycle hdelta

/-- A read of the ROM window gives the byte that it shows. -/
theorem InitSocket.readResult_rom (s : InitSocket Gb) {addr : U16} (hadr : addr < 0x8000)
    (cmd : GbCommand) :
    s.readResult addr cmd = .ok (s.sys.cartridge.romByte ⟨addr.toNat, hadr⟩) := by
  by_cases hbus : addr.toNat < 0x4000 ∧ s.hasRomBank0 = true
  · have hshown : s.sys.cartridge.romByte ⟨addr.toNat, hadr⟩ =
        s.sys.cartridge.romLow.data ⟨addr.toNat, hbus.1⟩ := by
      have heq := s.sys.cartridge.romByte_eq ⟨addr.toNat, hadr⟩
      rw [dif_pos hbus.1] at heq
      exact Option.some.inj heq
    rw [readResult, readBus_dmi cmd hbus.1 hbus.2, hshown]
    rfl
  · have hs : findSlave addr = some ⟨0x0000, 0x7FFF, .cartridgeRom⟩ :=
      findSlave_eq_some_iff.mpr ⟨by decide, by bv_omega, by bv_omega⟩
    obtain ⟨tracer, rel, h⟩ := s.sys.cartridgeRom_answers hadr (some cmd)
    have hroute := (@Gb.routeTransport_mapped s.sys (s.readPayload addr cmd) _ hs).trans
      (h { s.readPayload addr cmd with address := addr - 0 } rfl (by bv_omega) rfl)
    rw [readResult, readBus_ok hbus hroute rfl]
    rfl

/-- No transaction of the CPU changes the ROM. After any of them from power-on, with a cartridge
    of any type, `rom_low` and `rom_high` are those of the start, but for the game file over
    `rom_low` once the boot ROM is unmapped, and a read of a ROM address gives the image's byte,
    by the unmap signal and the bank. -/
theorem rom_read_only (game : List U8) (c : Cartridge) (serial : Serial) (timer : Timer) :
    (∀ (s s' : InitSocket Gb) (tr : Transaction), s.transact tr = .ok s' →
      s.sys.cartridge.SameRom s'.sys.cartridge) ∧
    ∀ (events : List RomEvent) (s₀ s : InitSocket Gb), s₀.sys = Gb.init c serial timer →
      events.foldlM (InitSocket.romStep game) s₀ = .ok s →
      s.sys.cartridge.romLow = c.romLowAfter game s.sys.unmapped ∧
      s.sys.cartridge.romHighByte = c.romHighByte ∧
      ∀ (addr : U16) (hadr : addr < 0x8000) (cmd : GbCommand), ∃ v,
        c.imageByte game s.sys.unmapped s.sys.cartridge.romBank ⟨addr.toNat, hadr⟩ = some v ∧
          s.readResult addr cmd = .ok v := by
  refine ⟨fun s s' tr h => (InitSocket.transact_keepsRom h).1, ?_⟩
  intro events s₀ s hinit hrun
  have hstart : RomIntact game c s₀.sys := by
    rw [hinit]
    exact ⟨rfl, rfl, fun h => absurd h Bool.false_ne_true⟩
  have hintact : RomIntact game c s.sys :=
    History.run_induction (fun _ (s : InitSocket Gb) => RomIntact game c s.sys) hstart
      (fun _ _ _ _ h hstep => h.step hstep) hrun
  refine ⟨hintact.low, hintact.high, fun addr hadr cmd => ?_⟩
  refine ⟨s.sys.cartridge.romByte ⟨addr.toNat, hadr⟩, ?_, s.readResult_rom hadr cmd⟩
  rw [Cartridge.romByte_eq, Cartridge.imageByte, hintact.low, hintact.high]

/-- A write of 1 to 0xFF50 and a delta cycle put the first byte of the game at address 0. -/
theorem game_shown_at_zero : ∃ s : InitSocket Gb,
    [RomEvent.cpu (.write 0xFF50 1), .delta].foldlM (InitSocket.romStep [0x31])
      { payload := {}, gbcmd := .gbReadInst, hasRomBank0 := true,
        sys := Gb.powerOn .blank } = .ok s ∧
    s.readResult 0 .gbReadInst = .ok 0x31 := by
  have hrun : [RomEvent.cpu (.write 0xFF50 1), .delta].foldlM (InitSocket.romStep [0x31])
      { payload := {}, gbcmd := .gbReadInst, hasRomBank0 := true,
        sys := Gb.powerOn .blank } = .ok _ := rfl
  refine ⟨_, hrun, ?_⟩
  obtain ⟨-, -, hread⟩ := (rom_read_only [0x31] _ _ _).2 _ _ _ rfl hrun
  obtain ⟨v, himage, hv⟩ := hread 0 (by decide) .gbReadInst
  rw [hv]
  cases himage
  rfl

end TlmBoy
