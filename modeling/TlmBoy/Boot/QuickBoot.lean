import TlmBoy.Boot.BootCode
import TlmBoy.Bus.ReadOnly
import TlmBoy.Bus.SaveFiles

/-
  The quick boot program, from the command line's choice to the first byte of the game.

  `quickBoot_leads` runs the program. `Cartridge.ofFiles_romLow` says that the constructor of the
  cartridge put it over the game, and a delta cycle behind its last write puts the game back.
-/

namespace TlmBoy

/-! ## The program -/

namespace Cpu

variable {fuel : Nat} {gb : Gb}

/-- The registers when the game is entered. -/
def bootedRegs (rf : RegFile) : RegFile := { headRegs rf with a := 1, pc := 0x0100 }

/-- The devices when the game is entered: the video RAM is clear, the sound registers and the
    palette are set, and the signal that unmaps the program is written. -/
def bootedDevices (gb : Gb) : Gb :=
  { soundStage 6 { gb with videoRam := ⟨fun _ => 0⟩ } with
    ioRegisters := (soundStage 6 gb).ioRegisters.writeSignal .unmapRom true }

theorem ClearedFrom.eq_zero {gb' : Gb} (h : ClearedFrom 0 gb gb') :
    gb' = { gb with videoRam := ⟨fun _ => 0⟩ } := by
  obtain ⟨v, hv, rfl⟩ := h
  have hzero : v = ⟨fun _ => 0⟩ := congrArg GenericMemory.mk (funext fun i => hv i (Nat.zero_le _))
  rw [hzero]

/-- The end of the program. -/
theorem quickBoot_end (hboot : HasCode 256 gb 0 DmgRom.kQuickBootSpan) (rf : RegFile) :
    Leads fuel 256 (At (rf.withPc 0x0021) gb) (At { rf with a := 1, pc := 0x0100 }
      { gb with ioRegisters := gb.ioRegisters.writeSignal .unmapRom true }) := by
  have hcode : HasCode 256 gb 0x0021 [0xC3, 0xFC, 0x00] := hboot.piece 0x21 _ (by decide)
  have hjump : Leads fuel 256 (At (rf.withPc 0x0021) gb) (At (rf.withPc 0x00FC) gb) :=
    leads_eq (steps_jp rfl hcode) rfl
  exact hjump.trans (handOver_leads (hboot.piece 0xFC _ (by decide)) rf)

theorem quickBoot_leads (hboot : HasCode 256 gb 0 DmgRom.kQuickBootSpan) (rf : RegFile) :
    Leads fuel 256 (At (rf.withPc 0) gb) (At (bootedRegs rf) (bootedDevices gb)) := by
  refine (bootHead_leads (hboot.piece 0 _ bootHead_quickBoot) rf).trans ?_
  apply Machine.LeadsTo.exists_elim
  intro gb' c hc
  obtain ⟨hgb, hat⟩ := hc
  obtain rfl := hgb.eq_zero
  have hboot' : HasCode 256 (soundStage 6 { gb with videoRam := ⟨fun _ => 0⟩ }) 0
      DmgRom.kQuickBootSpan := hboot
  exact quickBoot_end hboot' (headRegs rf) c hat

end Cpu

/-! ## The cartridge -/

theorem MemoryBankCtrler.loadRom_low {numRomBanks numRamBanks : Nat} {files : Files}
    {gamePath : String} {quickBoot : Bool} {game : List U8}
    {b b' : MemoryBankCtrler numRomBanks numRamBanks} (hgame : files gamePath = some game)
    (h : b.loadRom files gamePath "" quickBoot = .ok b') :
    b'.romLow = (b.romLow.overlay game).loadFromData
      (if quickBoot then DmgRom.kQuickBootSpan else DmgRom.kSpan) := by
  obtain ⟨low, hlow, hrest⟩ := StateExcept.except_bind_eq_ok h
  obtain ⟨low', hboot, hrest⟩ := StateExcept.except_bind_eq_ok hrest
  obtain ⟨high, -, hlast⟩ := StateExcept.except_bind_eq_ok hrest
  rw [GenericMemory.loadFromPath, hgame] at hlow
  obtain rfl := Except.ok.inj ((GenericMemory.loadFromFile_zero _ _).symm.trans hlow)
  obtain rfl := Except.ok.inj hlast
  cases quickBoot <;> exact (Except.ok.inj hboot).symm

/-- The constructors put the built-in boot program over the game. -/
theorem Cartridge.ofFiles_romLow {files : Files} {gamePath : String} {symbolFile quickBoot : Bool}
    {game : List U8} {c : Cartridge} (hgame : files gamePath = some game)
    (h : ofFiles files gamePath "" symbolFile quickBoot = .ok c) :
    c.romLow = (GenericMemory.overlay game ⟨fun _ => 0⟩).loadFromData
      (if quickBoot then DmgRom.kQuickBootSpan else DmgRom.kSpan) := by
  obtain ⟨info, -, h⟩ := StateExcept.except_bind_eq_ok h
  dsimp only at h
  split_ifs at h
  · obtain ⟨m, hm, rfl⟩ := StateExcept.map_eq_ok h
    obtain ⟨-, -, hm⟩ := StateExcept.except_bind_eq_ok hm
    exact MemoryBankCtrler.loadRom_low hgame hm
  · obtain ⟨m, hm, rfl⟩ := StateExcept.map_eq_ok h
    obtain ⟨b, hrom, hm⟩ := StateExcept.except_bind_eq_ok hm
    rw [MemoryBankCtrler.loadSave_eq] at hm
    cases hm
    exact MemoryBankCtrler.loadRom_low hgame hrom
  · obtain ⟨m, hm, rfl⟩ := StateExcept.map_eq_ok h
    obtain ⟨b, hrom, hm⟩ := StateExcept.except_bind_eq_ok hm
    rw [MemoryBankCtrler.loadSave_eq] at hm
    cases hm
    exact MemoryBankCtrler.loadRom_low hgame hrom
  · obtain ⟨m, hm, rfl⟩ := StateExcept.map_eq_ok h
    obtain ⟨b, hrom, hm⟩ := StateExcept.except_bind_eq_ok hm
    cases hm
    exact MemoryBankCtrler.loadRom_low hgame hrom

/-- The program is where the CPU starts. -/
theorem Cartridge.ofFiles_hasCode {files : Files} {gamePath : String} {symbolFile : Bool}
    {quickBoot : Bool} {game : List U8} {gb : Gb} (hgame : files gamePath = some game)
    (h : Cartridge.ofFiles files gamePath "" symbolFile quickBoot = .ok gb.cartridge) :
    Cpu.HasCode 256 gb 0 (if quickBoot then DmgRom.kQuickBootSpan else DmgRom.kSpan) := by
  have hlength : (if quickBoot then DmgRom.kQuickBootSpan else DmgRom.kSpan).length = 256 := by
    cases quickBoot <;> decide +kernel
  refine ⟨by decide, ?_⟩
  intro i hi
  rw [hlength] at hi
  have hadr : (0 + BitVec.ofNat 16 i : U16).toNat = i := by
    refine (congrArg BitVec.toNat (BitVec.zero_add _)).trans ?_
    rw [BitVec.toNat_ofNat]
    omega
  have hlow : (0 + BitVec.ofNat 16 i : U16).toNat < 0x4000 := by
    rw [hadr]
    omega
  refine ⟨by rw [hadr]; exact hi, ?_⟩
  rw [Gb.romByte, dif_pos hlow, ofFiles_romLow hgame h, GenericMemory.loadFromData]
  dsimp only
  rw [if_pos (by rw [hlength]; omega), List.getElem?_eq_getElem (by omega)]
  simp only [hadr, Option.getD_some]

/-! ## Starting a game -/

/-- The delta cycle after the last write puts the game where the program was. -/
theorem deltaCycle_booted {game : List U8} {gb gb' : Gb} (hmapped : gb.unmapped = false)
    (hdev : SameButIf (Cpu.bootedDevices gb) gb') :
    ∃ gb'', gb'.deltaCycle game = .ok gb'' ∧
      gb''.cartridge.romLow = gb.cartridge.romLow.overlay game := by
  have hlow : gb'.unmapped = false := by
    rw [hdev]
    exact hmapped
  have hnext : (gb'.ioRegisters.signals .unmapRom).next = true := by
    rw [hdev]
    rfl
  obtain ⟨cartridge, hdelta, -, hchanged⟩ := gb'.deltaCycle_eq game
  refine ⟨_, hdelta, ?_⟩
  have hloaded := (hchanged (by rw [hnext, hlow]; decide)).1
  rw [hdev.romLow] at hloaded
  exact hloaded

theorem overlay_romByte {game : List U8} {gb : Gb} {low : GenericMemory 0x4000}
    (h : gb.cartridge.romLow = low.overlay game) (i : Nat) (hi : i < game.length)
    (hlow : i < 0x4000) : gb.romByte (BitVec.ofNat 16 i) = game[i] := by
  have hadr : (BitVec.ofNat 16 i).toNat = i := by
    rw [BitVec.toNat_ofNat]
    omega
  have hbank : (BitVec.ofNat 16 i).toNat < 0x4000 := by omega
  rw [Gb.romByte, dif_pos hbank, h, GenericMemory.overlay]
  simp only [hadr, List.getElem?_eq_getElem hi, Option.getD_some]

/-- With the quick boot option and no boot ROM file, a CPU at address 0 runs the program and gets
    to address 0x0100, whatever the schedule of the interrupt requests is: the video RAM is clear,
    the registers and the sound registers are set, and after the delta cycle the first bank is the
    game. -/
theorem quick_boot_starts_game {files : Files} {gamePath : String} {symbolFile : Bool}
    {game : List U8} (hgame : files gamePath = some game) {c : Cpu (Timed Gb)}
    (hcart : Cartridge.ofFiles files gamePath "" symbolFile true =
      .ok c.initSocket.sys.dev.cartridge)
    (hmapped : c.initSocket.sys.dev.unmapped = false) (hc : c.Undisturbed)
    (hpc : c.regFile.pc = 0) (fuel : Nat) :
    ∃ c', Machine.Reaches (Cpu.cycle fuel) (Cpu.PcBelow 256) c c' ∧ c'.Undisturbed ∧
      c'.regFile = Cpu.bootedRegs c.regFile ∧
      SameButIf (Cpu.bootedDevices c.initSocket.sys.dev) c'.initSocket.sys.dev ∧
      ∃ gb, c'.initSocket.sys.dev.deltaCycle game = .ok gb ∧
        ∀ i (h : i < game.length), i < 0x4000 → gb.romByte (BitVec.ofNat 16 i) = game[i] := by
  have hregs : c.regFile = c.regFile.withPc 0 := by
    rw [← hpc]
    rfl
  have hat : Cpu.At (c.regFile.withPc 0) c.initSocket.sys.dev c := ⟨hc, hregs, .refl _⟩
  have hboot := Cartridge.ofFiles_hasCode hgame hcart
  have hlead : Cpu.Leads fuel 256 _ _ := Cpu.quickBoot_leads hboot c.regFile
  obtain ⟨c', hrun, hc'⟩ := hlead c hat
  refine ⟨c', hrun, hc'.toUndisturbed, hc'.regs, hc'.devs, ?_⟩
  obtain ⟨gb, hdelta, hlow⟩ := deltaCycle_booted hmapped hc'.devs
  exact ⟨gb, hdelta, fun i hi hbank => overlay_romByte hlow i hi hbank⟩

open Session in
/-- An `MBC5` game of one bank, under a schedule with one V-Blank request. -/
theorem savingGame_starts : ∃ c : Cpu (Timed Gb), c.regFile.pc = 0 ∧
    ∃ c', Machine.Reaches (Cpu.cycle 4) (Cpu.PcBelow 256) c c' ∧ c'.regFile.pc = 0x0100 ∧
      ∃ gb, c'.initSocket.sys.dev.deltaCycle (gameOfType 0x1B []) = .ok gb ∧ gb.romByte 0 = 0 := by
  have hgame : (savingSession 0x1B).files "game.gb" = some (gameOfType 0x1B []) := rfl
  obtain ⟨low, high, hcart⟩ := Cartridge.ofFiles_mbc5 false true hgame (Nat.zero_le _)
  let c : Cpu (Timed Gb) :=
    { initSocket :=
        { payload := {}
          gbcmd := .gbReadInst
          hasRomBank0 := true
          sys :=
            { now := 0
              schedule := .once 1000 0x01
              stopped := false
              dev := .powerOn (.mbc5 (.init low high (fun _ => 0) false)) } } }
  have hc : c.Undisturbed := ⟨rfl, rfl, rfl, rfl, rfl⟩
  obtain ⟨c', hrun, -, hregs, -, gb, hdelta, hbyte⟩ :=
    quick_boot_starts_game (c := c) hgame hcart rfl hc rfl 4
  refine ⟨c, rfl, c', hrun, by rw [hregs]; rfl, gb, hdelta, ?_⟩
  have hlength : 0 < (gameOfType 0x1B []).length := by
    rw [gameOfType_length]
    decide
  exact hbyte 0 hlength (by decide)

end TlmBoy
