import TlmBoy.Bus.CartridgeRuns
import TlmBoy.Cartridge.Construct

/-
  What is left of the external RAM in the next session.

  A session builds the cartridge from files, runs, and ends with the cartridge's destructor. `Mbc1`
  and `Mbc3` write `ext_ram` to the save file there, and the next constructor reads it. `Mbc5` has
  no save file: its RAM is clear at every start, so what the guest left there is kept only where it
  left zeros (`ram_persists_iff`).
-/

namespace TlmBoy

/-! ## The last writes to the RAM of an `Mbc5` -/

namespace Mbc5

/-- The byte written last to the bank register, and the one written last to byte `i` of the RAM. -/
def writeTo (i : Nat) (s : U8 × U8) : Access → U8 × U8
  | .rom t h => (((Access.rom t h).romByte 0x4000 0x5FFF).getD s.1, s.2)
  | .ram t _ _ =>
    (s.1, if t.command = .write ∧ s.1.toNat % 16 * 0x2000 + t.address.toNat = i then t.data
      else s.2)

/-- The byte that the guest wrote last to byte `i` of the RAM, 0 when there is none. -/
def lastWrite (i : Nat) (ls : List Access) : U8 := (ls.foldl (writeTo i) (0, 0)).2

theorem writeTo_bank (i : Nat) (ls : List Access) :
    (ls.foldl (writeTo i) (0, 0)).1 = lastByte 0x4000 0x5FFF ls := by
  induction ls using List.reverseRecOn with
  | nil => rfl
  | append_singleton ls acc ih =>
    rw [List.foldl_append]
    cases acc with
    | rom t hadr => rw [lastByte, History.latest_concat, ← lastByte, ← ih]; rfl
    | ram t hadr time =>
      rw [lastByte_quiet _ _ _ (Access.quiet_ram hadr time), ← ih]
      rfl

theorem lastWrite_rom (i : Nat) (ls : List Access) {t : Payload} (hadr : t.address < 0x8000) :
    lastWrite i (ls ++ [.rom t hadr]) = lastWrite i ls := by
  unfold lastWrite
  rw [List.foldl_append]
  rfl

theorem lastWrite_ram (i : Nat) (ls : List Access) {t : Payload} (hadr : t.address < 0x2000)
    (time : I64) : lastWrite i (ls ++ [.ram t hadr time]) =
      if t.command = .write ∧ ramBank ls * 0x2000 + t.address.toNat = i then t.data
      else lastWrite i ls := by
  unfold lastWrite ramBank
  rw [List.foldl_append, ← writeTo_bank i ls]
  rfl

theorem romWrite_extRam {m m' : Mbc5} {adr : U16} {v : U8} (h : m.romWrite adr v = .ok m') :
    m'.extRam.data = m.extRam.data := by
  obtain ⟨-, hmem⟩ := setRegister_memories adr v m
  unfold romWrite at h
  obtain ⟨romHigh, -, h⟩ := StateExcept.except_bind_eq_ok h
  obtain ⟨extRam, hswitch, h⟩ := StateExcept.except_bind_eq_ok h
  cases h
  rw [← hmem]
  exact BankSwitchedMem.doBankSwitch_data hswitch

/-- No access to the ROM changes the RAM. -/
theorem step_rom_lastWrite {m m' : Mbc5} {ls : List Access} {t : Payload}
    (hadr : t.address < 0x8000) (h : step m (.rom t hadr) = .ok m')
    (hram : ∀ i, m.extRam.data i = lastWrite i ls) (i : Fin (16 * 0x2000)) :
    m'.extRam.data i = lastWrite i (ls ++ [.rom t hadr]) := by
  rw [lastWrite_rom, ← hram i]
  cases hcmd : t.command with
  | read =>
    rw [m.step_rom_read hadr hcmd] at h
    cases h
    rfl
  | write =>
    rw [m.step_rom_write hadr hcmd] at h
    rw [romWrite_extRam h]
  | ignore =>
    rw [m.step_rom_ignore hadr hcmd] at h
    cases h
    rfl

/-- A write to the RAM changes the byte behind its address in the selected bank. -/
theorem step_ram_lastWrite {m₀ m m' : Mbc5} {ls : List Access} (htr : Tracks m₀ ls m) {t : Payload}
    (hadr : t.address < 0x2000) {time : I64} (h : step m (.ram t hadr time) = .ok m')
    (hram : ∀ i, m.extRam.data i = lastWrite i ls) (i : Fin (16 * 0x2000)) :
    m'.extRam.data i = lastWrite i (ls ++ [.ram t hadr time]) := by
  rw [lastWrite_ram]
  cases hen : m.ramEnabled with
  | false =>
    rw [step, m.bTransportRam_disabled hadr hen] at h
    cases h
  | true =>
    rw [step, m.bTransportRam_enabled hadr hen] at h
    cases hcmd : t.command with
    | read =>
      rw [m.ramTransport_read hcmd ⟨_, hadr⟩ rfl] at h
      cases h
      rw [if_neg (by simp), ← hram i]
    | ignore =>
      rw [m.ramTransport_ignore hcmd hadr] at h
      cases h
      rw [if_neg (by simp), ← hram i]
    | write =>
      rw [m.ramTransport_write hcmd ⟨_, hadr⟩ rfl] at h
      cases h
      have hcell : (BankSwitchedMem.cell m.extRam.currentBankInd ⟨t.address.toNat, hadr⟩).val =
          ramBank ls * 0x2000 + t.address.toNat := by
        rw [← htr.ramBank hen]
        rfl
      show Function.update m.extRam.data _ t.data i = _
      rw [Function.update_apply, ← hram i]
      refine if_congr ?_ rfl rfl
      rw [Fin.ext_iff, hcell]
      exact ⟨fun h => ⟨rfl, h.symm⟩, fun h => h.2.symm⟩

/-- A transaction keeps the RAM that of the last writes. -/
theorem step_lastWrite {m₀ m m' : Mbc5} {ls : List Access} (htr : Tracks m₀ ls m) {acc : Access}
    (h : step m acc = .ok m') (hram : ∀ i, m.extRam.data i = lastWrite i ls) :
    ∀ i, m'.extRam.data i = lastWrite i (ls ++ [acc]) := by
  cases acc with
  | rom t hadr => exact step_rom_lastWrite hadr h hram
  | ram t hadr time => exact step_ram_lastWrite htr hadr h hram

end Mbc5

/-! ## Sessions -/

namespace Gb

/-- A guest access, or a delta cycle. -/
inductive SessionEvent where
  | access (a : GuestAccess)
  | delta

def sessionStep (game : List U8) (gb : Gb) : SessionEvent → Except Fault Gb
  | .access a => guestStep gb a
  | .delta => gb.deltaCycle game

/-- The accesses that reach the cartridge. -/
def cartridgeAccesses (es : List SessionEvent) : List Access :=
  es.flatMap fun e =>
    match e with
    | .access a => a.onCartridge.toList
    | .delta => []

theorem deltaCycle_cartridge {gb gb' : Gb} {game : List U8} (h : gb.deltaCycle game = .ok gb') :
    gb'.cartridge = gb.cartridge ∨ gb.cartridge.sigHandler game = .ok gb'.cartridge := by
  unfold deltaCycle at h
  dsimp only at h
  split_ifs at h
  · obtain ⟨c, hc, h⟩ := StateExcept.except_bind_eq_ok h
    cases h
    exact Or.inr hc
  · cases h
    exact Or.inl rfl

/-- A guest access does what the cartridge's transaction does. -/
theorem guestStep_of_step {gb : Gb} {a : GuestAccess} {acc : Access} {c : Cartridge}
    (hacc : a.onCartridge = some acc) (h : Cartridge.step gb.cartridge acc = .ok c) :
    guestStep gb a = .ok { gb with hostTime := a.time, cartridge := c } := by
  have hroute : ∃ t', routeTransport a.trans { gb with hostTime := a.time } =
      .ok (t', { gb with hostTime := a.time, cartridge := c }, none) := by
    unfold GuestAccess.onCartridge at hacc
    by_cases hrom : a.trans.address < 0x8000
    · have hs : findSlave a.trans.address = some ⟨0x0000, 0x7FFF, .cartridgeRom⟩ :=
        findSlave_eq_some_iff.mpr ⟨by decide, by bv_omega, by bv_omega⟩
      have hzero : a.trans.address - 0x0000 = a.trans.address := by bv_omega
      rw [dif_pos hrom] at hacc
      rw [← Option.some.inj hacc, Cartridge.step] at h
      obtain ⟨⟨t', c'⟩, hc, rfl⟩ := StateExcept.map_eq_ok h
      refine ⟨t', ?_⟩
      rw [routeTransport_mapped _ hs]
      dsimp only
      rw [hzero, slaveTransport, hc]
      rfl
    · rw [dif_neg hrom] at hacc
      by_cases hram : 0xA000 ≤ a.trans.address ∧ a.trans.address ≤ 0xBFFF
      · have hs : findSlave a.trans.address = some ⟨0xA000, 0xBFFF, .cartridgeRam⟩ :=
          findSlave_eq_some_iff.mpr ⟨by decide, hram⟩
        rw [dif_pos hram] at hacc
        rw [← Option.some.inj hacc, Cartridge.step] at h
        obtain ⟨⟨t', c'⟩, hc, rfl⟩ := StateExcept.map_eq_ok h
        refine ⟨t', ?_⟩
        rw [routeTransport_mapped _ hs, slaveTransport, hc]
        rfl
      · rw [dif_neg hram] at hacc
        exact absurd hacc (by simp)
  obtain ⟨t', hroute⟩ := hroute
  rw [guestStep, access, bTransport_of_route hroute]
  rfl

/-- What the cartridge's transactions and the unmapping of the boot ROM keep holds after every
    session. -/
theorem session_induction {game : List U8} {gb₀ gb : Gb} {es : List SessionEvent}
    (I : List Access → Cartridge → Prop) (hinit : I [] gb₀.cartridge)
    (hstep : ∀ ls c acc c', I ls c → Cartridge.step c acc = .ok c' → I (ls ++ [acc]) c')
    (hunmap : ∀ ls c c', I ls c → c.sigHandler game = .ok c' → I ls c')
    (hrun : es.foldlM (sessionStep game) gb₀ = .ok gb) : I (cartridgeAccesses es) gb.cartridge := by
  refine History.run_induction (fun es (m : Gb) => I (cartridgeAccesses es) m.cartridge) hinit ?_
    hrun
  intro es m e m' hm he
  unfold cartridgeAccesses at hm ⊢
  rw [List.flatMap_append, List.flatMap_singleton]
  cases e with
  | delta =>
    rw [List.append_nil]
    rcases deltaCycle_cartridge he with hsame | hsig
    · rw [hsame]
      exact hm
    · exact hunmap _ _ _ hm hsig
  | access a =>
    have hcart := guestStep_cartridge he
    dsimp only
    cases hacc : a.onCartridge with
    | none =>
      rw [hacc] at hcart
      rw [Option.toList_none, List.append_nil, ← Except.ok.inj hcart]
      exact hm
    | some acc =>
      rw [hacc, Option.toList_some, List.foldlM_cons] at hcart
      obtain ⟨c, hc, hlast⟩ := StateExcept.except_bind_eq_ok hcart
      cases hlast
      exact hstep _ _ _ _ hm hc

end Gb

/-- The files and the options that a session starts with. -/
structure Session where
  files : Files
  gamePath : String
  bootPath : String := ""
  symbolFile : Bool := false
  quickBoot : Bool := false

namespace Session

def start (s : Session) : Except Fault Cartridge :=
  Cartridge.ofFiles s.files s.gamePath s.bootPath s.symbolFile s.quickBoot

def cartridgeType (s : Session) : Except Fault String :=
  (GameInfo.ofFile s.files s.gamePath).map GameInfo.cartridgeType

/-- The accepted types with a battery. -/
def Battery (s : Session) : Prop :=
  s.cartridgeType = .ok "MBC1+BAT+RAM" ∨ s.cartridgeType = .ok "MBC3+BAT+RAM" ∨
    s.cartridgeType = .ok "MBC5+BAT+RAM"

/-- The session runs over `es` and ends with `gb`. -/
def Runs (s : Session) (es : List Gb.SessionEvent) (gb : Gb) : Prop :=
  ∃ c game serial timer, s.start = .ok c ∧ s.files s.gamePath = some game ∧
    es.foldlM (Gb.sessionStep game) (Gb.init c serial timer) = .ok gb

/-- `s'` is a session with the same cartridge after `s` has ended with `gb`: the ROM file has the
    same name, and the save file is what `s` left. -/
structure Next (s : Session) (gb : Gb) (s' : Session) : Prop where
  name : filename s'.gamePath = filename s.gamePath
  type : s'.cartridgeType = s.cartridgeType
  save : s'.files (saveFile s.gamePath) =
    gb.cartridge.destroy s.gamePath s.files (saveFile s.gamePath)

end Session

/-! ## The save file -/

/-- The symbol file is not a save file. -/
theorem saveFile_ne (gamePath : String) : saveFile gamePath ≠ "trace.sym" := by
  intro h
  have hlast := congrArg (fun s : String => s.toList.getLast?) h
  simp [saveFile, String.toList_append] at hlast

theorem MemoryBankCtrler.destroy_other {numRomBanks numRamBanks : Nat} (files : Files)
    {path : String} (hpath : path ≠ "trace.sym")
    (c : MemoryBankCtrler numRomBanks numRamBanks) : c.destroy files path = files path := by
  unfold destroy
  cases c.symfileTracer with
  | none => rfl
  | some tracer => exact Function.update_of_ne hpath _ _

theorem MemoryBankCtrler.destroy_save {numRomBanks numRamBanks : Nat} (files : Files)
    (gamePath : String) (c : MemoryBankCtrler numRomBanks numRamBanks) :
    c.destroy files (saveFile gamePath) = files (saveFile gamePath) :=
  c.destroy_other files (saveFile_ne gamePath)

theorem GenericMemory.saveToFile_self {memorySize : Nat} (m : GenericMemory memorySize)
    (path : String) (files : Files) : m.saveToFile path files path = some (List.ofFn m.data) :=
  Function.update_self _ _ _

/-- What has been saved is loaded. -/
theorem MemoryBankCtrler.savedRam_ofFn {n : Nat} {files : Files} {gamePath : String}
    {data : Fin n → U8} (h : files (saveFile gamePath) = some (List.ofFn data))
    (old : Fin n → U8) : savedRam files gamePath old = data := by
  funext i
  unfold savedRam
  rw [h]
  simp

namespace Session

variable {s s' : Session} {es : List Gb.SessionEvent} {gb : Gb} {c c' : Cartridge}

theorem Next.saveFile_eq (h : s.Next gb s') : saveFile s'.gamePath = saveFile s.gamePath := by
  unfold saveFile
  rw [h.name]

theorem ofFile_of_type {type : String} (h : s.cartridgeType = .ok type) :
    ∃ info, GameInfo.ofFile s.files s.gamePath = .ok info ∧ info.cartridgeType = type := by
  obtain ⟨info, hinfo, htype⟩ := StateExcept.map_eq_ok h
  exact ⟨info, hinfo, htype⟩

theorem start_mbc1 (htype : s.cartridgeType = .ok "MBC1+BAT+RAM") (h : s.start = .ok c) :
    ∃ low high, c = .mbc1
      (.init low high (MemoryBankCtrler.savedRam s.files s.gamePath fun _ => 0) s.symbolFile) := by
  obtain ⟨info, hinfo, hname⟩ := ofFile_of_type htype
  rw [start, Cartridge.ofFiles, hinfo, ok_bind] at h
  dsimp only at h
  rw [hname, if_neg (by decide), if_pos (by decide)] at h
  obtain ⟨m, hm, rfl⟩ := StateExcept.map_eq_ok h
  obtain ⟨low, high, rfl⟩ := Mbc1.ofFiles_init hm
  exact ⟨low, high, rfl⟩

theorem start_mbc3 (htype : s.cartridgeType = .ok "MBC3+BAT+RAM") (h : s.start = .ok c) :
    ∃ low high, c = .mbc3
      (.init low high (MemoryBankCtrler.savedRam s.files s.gamePath fun _ => 0) s.symbolFile) := by
  obtain ⟨info, hinfo, hname⟩ := ofFile_of_type htype
  rw [start, Cartridge.ofFiles, hinfo, ok_bind] at h
  dsimp only at h
  rw [hname, if_neg (by decide), if_neg (by decide), if_pos (by decide)] at h
  obtain ⟨m, hm, rfl⟩ := StateExcept.map_eq_ok h
  obtain ⟨low, high, rfl⟩ := Mbc3.ofFiles_init hm
  exact ⟨low, high, rfl⟩

theorem start_mbc5 (htype : s.cartridgeType = .ok "MBC5+BAT+RAM") (h : s.start = .ok c) :
    ∃ low high, c = .mbc5 (.init low high (fun _ => 0) s.symbolFile) := by
  obtain ⟨info, hinfo, hname⟩ := ofFile_of_type htype
  rw [start, Cartridge.ofFiles, hinfo, ok_bind] at h
  dsimp only at h
  rw [hname, if_neg (by decide), if_neg (by decide), if_neg (by decide), if_pos (by decide)] at h
  obtain ⟨m, hm, rfl⟩ := StateExcept.map_eq_ok h
  obtain ⟨low, high, rfl⟩ := Mbc5.ofFiles_init hm
  exact ⟨low, high, rfl⟩

/-! ## Runs -/

theorem unmapBootRom_ok {numRomBanks numRamBanks : Nat}
    {m m' : MemoryBankCtrler numRomBanks numRamBanks} {game : List U8}
    (h : m.unmapBootRom game = .ok m') : ∃ low, m' = { m with romLow := low } := by
  obtain ⟨low, -, h⟩ := StateExcept.except_bind_eq_ok h
  cases h
  exact ⟨low, rfl⟩

/-- An `Mbc1` stays one. -/
theorem runs_mbc1 (htype : s.cartridgeType = .ok "MBC1+BAT+RAM") (h : s.Runs es gb) :
    ∃ m, gb.cartridge = .mbc1 m := by
  obtain ⟨c, game, serial, timer, hstart, -, hrun⟩ := h
  obtain ⟨low, high, hc⟩ := start_mbc1 htype hstart
  refine Gb.session_induction (fun _ c => ∃ m, c = .mbc1 m) ⟨_, hc⟩ ?_ ?_ hrun
  · rintro ls _ acc c' ⟨m, rfl⟩ hstep
    rw [Cartridge.step_mbc1] at hstep
    obtain ⟨m', -, rfl⟩ := StateExcept.map_eq_ok hstep
    exact ⟨m', rfl⟩
  · rintro ls _ c' ⟨m, rfl⟩ hsig
    obtain ⟨b, -, rfl⟩ := StateExcept.map_eq_ok hsig
    exact ⟨_, rfl⟩

/-- An `Mbc3` stays one. -/
theorem runs_mbc3 (htype : s.cartridgeType = .ok "MBC3+BAT+RAM") (h : s.Runs es gb) :
    ∃ m, gb.cartridge = .mbc3 m := by
  obtain ⟨c, game, serial, timer, hstart, -, hrun⟩ := h
  obtain ⟨low, high, hc⟩ := start_mbc3 htype hstart
  refine Gb.session_induction (fun _ c => ∃ m, c = .mbc3 m) ⟨_, hc⟩ ?_ ?_ hrun
  · rintro ls _ acc c' ⟨m, rfl⟩ hstep
    rw [Cartridge.step_mbc3] at hstep
    obtain ⟨m', -, rfl⟩ := StateExcept.map_eq_ok hstep
    exact ⟨m', rfl⟩
  · rintro ls _ c' ⟨m, rfl⟩ hsig
    obtain ⟨b, -, rfl⟩ := StateExcept.map_eq_ok hsig
    exact ⟨_, rfl⟩

/-- An `Mbc5` stays one, and its RAM is what the guest wrote last. -/
theorem runs_mbc5 (htype : s.cartridgeType = .ok "MBC5+BAT+RAM") (h : s.Runs es gb) :
    ∃ m, gb.cartridge = .mbc5 m ∧
      ∀ i, m.extRam.data i = Mbc5.lastWrite i (Gb.cartridgeAccesses es) := by
  obtain ⟨c, game, serial, timer, hstart, -, hrun⟩ := h
  obtain ⟨low, high, hc⟩ := start_mbc5 htype hstart
  have hinit := Mbc5.tracks_init low high (fun _ => 0) s.symbolFile
  have hkept := Gb.session_induction
    (fun ls c => ∃ m, c = .mbc5 m ∧ Mbc5.Tracks (.init low high (fun _ => 0) s.symbolFile) ls m ∧
      ∀ i, m.extRam.data i = Mbc5.lastWrite i ls)
    ⟨_, hc, hinit, fun _ => rfl⟩ ?_ ?_ hrun
  · obtain ⟨m, hm, -, hram⟩ := hkept
    exact ⟨m, hm, hram⟩
  · rintro ls _ acc c' ⟨m, rfl, htr, hram⟩ hstep
    rw [Cartridge.step_mbc5] at hstep
    obtain ⟨m', hm', rfl⟩ := StateExcept.map_eq_ok hstep
    exact ⟨m', rfl, Mbc5.step_tracks htr hm', Mbc5.step_lastWrite htr hm' hram⟩
  · rintro ls _ c' ⟨m, rfl, htr, hram⟩ hsig
    obtain ⟨b, hb, rfl⟩ := StateExcept.map_eq_ok hsig
    obtain ⟨low', rfl⟩ := unmapBootRom_ok hb
    exact ⟨_, rfl, ⟨htr.lowBits, htr.highBits, htr.ramBits, htr.romBank, htr.ramBank, htr.romHigh⟩,
      hram⟩

/-! ## The next session -/

/-- `Mbc1` and `Mbc3` start with the RAM that the session before left. -/
theorem persists_mbc1 (htype : s.cartridgeType = .ok "MBC1+BAT+RAM") (hrun : s.Runs es gb)
    (hnext : s.Next gb s') (hstart : s'.start = .ok c') :
    c'.extRamByte = gb.cartridge.extRamByte := by
  obtain ⟨m, hm⟩ := runs_mbc1 htype hrun
  obtain ⟨low, high, hc'⟩ := start_mbc1 (hnext.type.trans htype) hstart
  have hsave : s'.files (saveFile s'.gamePath) = some (List.ofFn m.extRam.data) := by
    rw [hnext.saveFile_eq, hnext.save, hm]
    exact (m.destroy_save _ s.gamePath).trans
      (m.extRam.toGenericMemory.saveToFile_self _ _)
  rw [hc', hm, MemoryBankCtrler.savedRam_ofFn hsave]
  rfl

theorem persists_mbc3 (htype : s.cartridgeType = .ok "MBC3+BAT+RAM") (hrun : s.Runs es gb)
    (hnext : s.Next gb s') (hstart : s'.start = .ok c') :
    c'.extRamByte = gb.cartridge.extRamByte := by
  obtain ⟨m, hm⟩ := runs_mbc3 htype hrun
  obtain ⟨low, high, hc'⟩ := start_mbc3 (hnext.type.trans htype) hstart
  have hsave : s'.files (saveFile s'.gamePath) = some (List.ofFn m.extRam.data) := by
    rw [hnext.saveFile_eq, hnext.save, hm]
    exact (m.destroy_save _ s.gamePath).trans
      (m.extRam.toGenericMemory.saveToFile_self _ _)
  rw [hc', hm, MemoryBankCtrler.savedRam_ofFn hsave]
  rfl

/-- `Mbc5` starts with a clear RAM. -/
theorem persists_mbc5_iff (htype : s.cartridgeType = .ok "MBC5+BAT+RAM") (hrun : s.Runs es gb)
    (hnext : s.Next gb s') (hstart : s'.start = .ok c') :
    c'.extRamByte = gb.cartridge.extRamByte ↔
      ∀ i < 16 * 0x2000, Mbc5.lastWrite i (Gb.cartridgeAccesses es) = 0 := by
  obtain ⟨m, hm, hram⟩ := runs_mbc5 htype hrun
  obtain ⟨low, high, hc'⟩ := start_mbc5 (hnext.type.trans htype) hstart
  have hbefore : ∀ i (hi : i < 16 * 0x2000), gb.cartridge.extRamByte i =
      some (Mbc5.lastWrite i (Gb.cartridgeAccesses es)) := by
    intro i hi
    rw [hm, ← hram ⟨i, hi⟩]
    exact dif_pos hi
  have hafter : ∀ i, i < 16 * 0x2000 → c'.extRamByte i = some 0 := by
    intro i hi
    rw [hc']
    exact dif_pos hi
  constructor
  · intro h i hi
    have hbyte := congrFun h i
    rw [hbefore i hi, hafter i hi] at hbyte
    exact (Option.some.inj hbyte).symm
  · intro h
    funext i
    by_cases hi : i < 16 * 0x2000
    · rw [hbefore i hi, hafter i hi, h i hi]
    · have hnone : ∀ m : Mbc5, (Cartridge.mbc5 m).extRamByte i = none := fun m => dif_neg hi
      rw [hm, hc', hnone, hnone]

/-- The RAM of a battery cartridge is the same at the start of the next session, unless the
    cartridge is an `Mbc5` and the guest left a byte in it that is not 0. -/
theorem ram_persists_iff (hbattery : s.Battery) (hrun : s.Runs es gb) (hnext : s.Next gb s')
    (hstart : s'.start = .ok c') : c'.extRamByte = gb.cartridge.extRamByte ↔
      s.cartridgeType ≠ .ok "MBC5+BAT+RAM" ∨
        ∀ i < 16 * 0x2000, Mbc5.lastWrite i (Gb.cartridgeAccesses es) = 0 := by
  rcases hbattery with htype | htype | htype
  · refine iff_of_true (persists_mbc1 htype hrun hnext hstart) (Or.inl ?_)
    rw [htype]
    exact fun h => absurd (Except.ok.inj h) (by decide)
  · refine iff_of_true (persists_mbc3 htype hrun hnext hstart) (Or.inl ?_)
    rw [htype]
    exact fun h => absurd (Except.ok.inj h) (by decide)
  · rw [persists_mbc5_iff htype hrun hnext hstart]
    exact ⟨Or.inr, fun h => h.resolve_left fun hne => hne htype⟩

/-! ## Two sessions with a write -/

/-- A game of one bank with the type byte in its header is the only file. -/
def savingSession (type : U8) : Session where
  files := fun path => if path = "game.gb" then some (gameOfType type []) else none
  gamePath := "game.gb"

theorem cartridgeType_of_game {type : U8} {name : String}
    (hgame : s.files s.gamePath = some (gameOfType type []))
    (hname : GameInfo.cartridgeTypeMap.lookup (type.signExtend 32) = some name) :
    s.cartridgeType = .ok name := by
  rw [cartridgeType, GameInfo.ofFile_gameOfType hgame hname]
  rfl

/-- The guest enables the RAM and writes 0x55 to 0xA000. -/
def savingEvents : List Gb.SessionEvent :=
  [.access { trans := { command := .write, address := 0x0000, data := 0x0A } },
   .access { trans := { command := .write, address := 0xA000, data := 0x55 } }]

/-- The write of 0x0A to 0x0000 and the write of 0x55 to 0xA000, as the cartridge gets them. -/
def savingAccesses : Access × Access :=
  (.rom { command := .write, address := 0x0000, data := 0x0A } (by decide),
    .ram { command := .write, address := 0x0000, data := 0x55 } (by decide) 0)

/-- A session whose cartridge takes both. -/
theorem savingEvents_run {game : List U8} {c₀ c c' : Cartridge} (hstart : s.start = .ok c₀)
    (hgame : s.files s.gamePath = some game)
    (hfirst : Cartridge.step c₀ savingAccesses.1 = .ok c)
    (hsecond : Cartridge.step c savingAccesses.2 = .ok c') :
    ∃ gb, s.Runs savingEvents gb ∧ gb.cartridge = c' := by
  let gb := Gb.powerOn c₀
  have hgb : Gb.guestStep gb
      { trans := { command := .write, address := 0x0000, data := 0x0A } } =
      .ok { gb with hostTime := 0, cartridge := c } :=
    @Gb.guestStep_of_step _ _ savingAccesses.1 _ (by rfl) hfirst
  have hgb' : Gb.guestStep { gb with hostTime := 0, cartridge := c }
      { trans := { command := .write, address := 0xA000, data := 0x55 } } =
      .ok { gb with hostTime := 0, cartridge := c' } :=
    @Gb.guestStep_of_step _ _ savingAccesses.2 _ (by rfl) hsecond
  have hevents : savingEvents.foldlM (Gb.sessionStep game) gb =
      .ok { gb with hostTime := 0, cartridge := c' } := by
    rw [savingEvents, List.foldlM_cons, Gb.sessionStep, hgb, ok_bind, List.foldlM_cons,
      Gb.sessionStep, hgb']
    rfl
  exact ⟨_, ⟨c₀, game, _, _, hstart, hgame, hevents⟩, rfl⟩

/-! ## With an `Mbc1` -/

/-- The `Mbc1` takes both writes, and the second one is in its RAM. -/
theorem savingAccesses_mbc1 (low : Fin 0x4000 → U8) (high : Fin (128 * 0x4000) → U8)
    (ram : Fin (4 * 0x2000) → U8) (symbolFile : Bool) :
    ∃ m m', Mbc1.step (.init low high ram symbolFile) savingAccesses.1 = .ok m ∧
      Mbc1.step m savingAccesses.2 = .ok m' ∧ m'.extRam.data 0 = 0x55 := by
  have hinit := Mbc1.tracks_init low high ram symbolFile
  obtain ⟨m, hwrite, htr⟩ := Mbc1.romWrite_tracks hinit
    (t := { command := .write, address := 0x0000, data := 0x0A }) (by decide) rfl
  have hen : m.ramEnabled = true :=
    (Mbc1.romWrite_enabled hwrite).trans ((if_pos (by decide)).trans (by decide))
  have hcell : BankSwitchedMem.cell m.extRam.currentBankInd (0 : Fin 0x2000) = 0 := by
    rw [htr.ramBank_eq]
    rfl
  have hsecond : Mbc1.step m savingAccesses.2 = .ok { m with extRam := { m.extRam with
      data := Function.update m.extRam.data 0 0x55 } } := by
    rw [savingAccesses, Mbc1.step, m.bTransportRam_enabled (by decide) hen,
      m.ramTransport_write rfl 0 rfl, hcell]
    rfl
  have hbyte : Function.update m.extRam.data 0 0x55 0 = (0x55 : U8) := Function.update_self _ _ _
  exact ⟨m, _, (Mbc1.step_rom_write _ (by decide) rfl).trans hwrite, hsecond, hbyte⟩

/-- The destructor leaves the game file. -/
theorem destroy_game {c : Cartridge} {m : Mbc1} (hc : c = .mbc1 m) (type : U8) :
    c.destroy "game.gb" (savingSession type).files "game.gb" = some (gameOfType type []) := by
  subst hc
  rw [Cartridge.destroy, MemoryBankCtrler.destroy_other _ (by decide)]
  exact Function.update_of_ne (by decide) _ _

/-- An `MBC1` game: the next session starts with the files that this one leaves, and finds the byte
    that the guest wrote. -/
theorem saved_byte_kept : ∃ (gb : Gb) (s' : Session) (c' : Cartridge),
    (savingSession 0x03).Battery ∧ (savingSession 0x03).Runs savingEvents gb ∧
    gb.cartridge.extRamByte 0 = some 0x55 ∧
    s'.files = gb.cartridge.destroy "game.gb" (savingSession 0x03).files ∧
    (savingSession 0x03).Next gb s' ∧ s'.start = .ok c' ∧
    c'.extRamByte = gb.cartridge.extRamByte := by
  have hgame : (savingSession 0x03).files "game.gb" = some (gameOfType 0x03 []) := rfl
  have htype := cartridgeType_of_game (s := savingSession 0x03) hgame rfl
  obtain ⟨low, high, hstart⟩ := Cartridge.ofFiles_mbc1 false false hgame (Nat.zero_le _)
  obtain ⟨m, m', hfirst, hsecond, hbyte⟩ := savingAccesses_mbc1 low high
    (MemoryBankCtrler.savedRam (savingSession 0x03).files "game.gb" fun _ => 0) false
  have hsecond' : Cartridge.step (.mbc1 m) savingAccesses.2 = .ok (.mbc1 m') := by
    rw [Cartridge.step_mbc1, hsecond]
    rfl
  obtain ⟨gb, hrun, hgb⟩ := savingEvents_run hstart hgame
    ((Cartridge.step_mbc1 _ _).trans (congrArg (Except.map Cartridge.mbc1) hfirst)) hsecond'
  let s' : Session :=
    { savingSession 0x03 with
      files := gb.cartridge.destroy "game.gb" (savingSession 0x03).files }
  have hgame' : s'.files "game.gb" = some (gameOfType 0x03 []) := destroy_game hgb 0x03
  have htype' := cartridgeType_of_game (s := s') hgame' rfl
  obtain ⟨low', high', hstart'⟩ := Cartridge.ofFiles_mbc1 false false hgame' (Nat.zero_le _)
  have hbattery : (savingSession 0x03).Battery := Or.inl htype
  have hnext : (savingSession 0x03).Next gb s' := ⟨rfl, htype'.trans htype.symm, rfl⟩
  have hkept := (ram_persists_iff hbattery hrun hnext hstart').mpr (Or.inl ?_)
  · refine ⟨gb, s', _, hbattery, hrun, ?_, rfl, hnext, hstart', hkept⟩
    rw [hgb]
    exact congrArg some hbyte
  · rw [htype]
    exact fun h => absurd (Except.ok.inj h) (by decide)

/-! ## With an `Mbc5` -/

/-- The `Mbc5` takes both writes. -/
theorem savingAccesses_mbc5 (low : Fin 0x4000 → U8) (high : Fin (512 * 0x4000) → U8) :
    ∃ m m', Mbc5.step (.init low high (fun _ => 0) false) savingAccesses.1 = .ok m ∧
      Mbc5.step m savingAccesses.2 = .ok m' := by
  have hinit := Mbc5.tracks_init low high (fun _ => 0) false
  obtain ⟨m, hwrite, -⟩ := Mbc5.romWrite_tracks hinit
    (t := { command := .write, address := 0x0000, data := 0x0A }) (by decide) rfl
  have hen : m.ramEnabled = true :=
    (Mbc5.romWrite_enabled hwrite).trans ((if_pos (by decide)).trans (by decide))
  have hsecond : ∃ m', Mbc5.step m savingAccesses.2 = .ok m' := by
    rw [savingAccesses, Mbc5.step, m.bTransportRam_enabled (by decide) hen,
      m.ramTransport_write rfl 0 rfl]
    exact ⟨_, rfl⟩
  obtain ⟨m', hsecond⟩ := hsecond
  exact ⟨m, m', (Mbc5.step_rom_write _ (by decide) rfl).trans hwrite, hsecond⟩

/-- The guest's byte is not 0. -/
theorem savingEvents_last : Mbc5.lastWrite 0 (Gb.cartridgeAccesses savingEvents) = 0x55 := by
  decide

theorem saved_byte_lost : ¬ ∀ (s s' : Session) (es : List Gb.SessionEvent) (gb : Gb)
    (c' : Cartridge), s.Battery → s.Runs es gb → s.Next gb s' → s'.start = .ok c' →
      c'.extRamByte = gb.cartridge.extRamByte := by
  intro h
  have hgame : (savingSession 0x1B).files "game.gb" = some (gameOfType 0x1B []) := rfl
  have htype := cartridgeType_of_game (s := savingSession 0x1B) hgame rfl
  obtain ⟨low, high, hstart⟩ := Cartridge.ofFiles_mbc5 false false hgame (Nat.zero_le _)
  obtain ⟨m, m', hfirst, hsecond⟩ := savingAccesses_mbc5 low high
  have hsecond' : Cartridge.step (.mbc5 m) savingAccesses.2 = .ok (.mbc5 m') := by
    rw [Cartridge.step_mbc5, hsecond]
    rfl
  obtain ⟨gb, hrun, hgb⟩ := savingEvents_run hstart hgame
    ((Cartridge.step_mbc5 _ _).trans (congrArg (Except.map Cartridge.mbc5) hfirst)) hsecond'
  have hnext : (savingSession 0x1B).Next gb (savingSession 0x1B) := by
    refine ⟨rfl, rfl, ?_⟩
    rw [hgb]
    exact (m'.destroy_save _ _).symm
  have hkept := h _ _ _ _ _ (Or.inr (Or.inr htype)) hrun hnext hstart
  have hzero := (persists_mbc5_iff htype hrun hnext hstart).mp hkept 0 (by omega)
  rw [savingEvents_last] at hzero
  exact absurd hzero (by decide)

end Session

end TlmBoy
