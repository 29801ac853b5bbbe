import TlmBoy.Cartridge.Access

/-
  MBC5: which window a history of guest accesses maps, and where that is not the selected one.

  `sel` is the 9-bit selection of a history, read off the bytes written last to the two bank
  registers. `rom_ind_`, through which the controller passes the selection to `DoBankSwitch`,
  has 8 bits, so the window shown is that of `sel % 256`.

  * `Tracks`: the registers and banks that a history leaves behind.
  * `step_tracks`, `run_tracks`: every access that succeeds keeps it, every history of ROM
    accesses succeeds.
  * `shows_selection_iff`: the selected window is shown for every ROM image exactly when bit 8
    of the selection is clear.
-/

namespace TlmBoy

namespace Mbc5

/-- One guest access. -/
def step (m : Mbc5) : Access → Except Fault Mbc5
  | .rom t _ => (m.bTransportRom t).map Prod.snd
  | .ram t _ _ => (m.bTransportRam t).map Prod.snd

theorem step_rom_read (m : Mbc5) {t : Payload} (hadr : t.address < 0x8000)
    (hcmd : t.command = .read) : step m (.rom t hadr) = .ok m := by
  have h' : t.address.toNat < 0x8000 := hadr
  rw [step, bTransportRom, cAssert_pos hadr, ok_bind]
  simp only [hcmd]
  by_cases hlow : t.address.toNat < 0x4000
  · rw [if_pos (by bv_omega), MemoryBankCtrler.romLowTransport,
      m.romLow.bTransport_read hcmd hlow]
    rfl
  · rw [if_neg (by bv_omega), MemoryBankCtrler.romHighTransport,
      @BankSwitchedMem.bTransport_read _ _ m.romHigh { t with address := t.address - 0x4000 } hcmd
        ⟨t.address.toNat - 0x4000, by omega⟩ (by simp only; bv_omega)]
    rfl

theorem step_rom_write (m : Mbc5) {t : Payload} (hadr : t.address < 0x8000)
    (hcmd : t.command = .write) : step m (.rom t hadr) = m.romWrite t.address t.data := by
  rw [step, bTransportRom, cAssert_pos hadr, ok_bind]
  simp only [hcmd]
  cases m.romWrite t.address t.data <;> rfl

theorem step_rom_ignore (m : Mbc5) {t : Payload} (hadr : t.address < 0x8000)
    (hcmd : t.command = .ignore) : step m (.rom t hadr) = .ok m := by
  rw [step, bTransportRom, cAssert_pos hadr, ok_bind]
  simp only [hcmd]
  rfl

theorem bTransportRam_enabled (m : Mbc5) {t : Payload} (hadr : t.address < 0x2000)
    (hen : m.ramEnabled = true) : m.bTransportRam t =
      (m.ramTransport t).map fun r => (r.1, { m with toMemoryBankCtrler := r.2 }) := by
  rw [bTransportRam, cAssert_pos (by bv_omega), ok_bind, if_pos hen]
  cases m.ramTransport t <;> rfl

/-- A disabled RAM access is the failed `assert(false)`. -/
theorem bTransportRam_disabled (m : Mbc5) {t : Payload} (hadr : t.address < 0x2000)
    (hen : m.ramEnabled = false) : m.bTransportRam t = .error (.assertion "false") := by
  rw [bTransportRam, cAssert_pos (by bv_omega), ok_bind, if_neg (by simp [hen])]
  rfl

/-- What an access can do: a write to the ROM window is `romWrite`, a disabled RAM access fails,
    and every other access changes at most bytes of the external RAM. -/
theorem step_cases (m : Mbc5) (acc : Access) :
    (∃ t hadr, acc = .rom t hadr ∧ t.command = .write ∧
      step m acc = m.romWrite t.address t.data) ∨
    (acc.Quiet ∧ ∃ data, step m acc = .ok { m with extRam := { m.extRam with data := data } }) ∨
    (acc.Quiet ∧ ¬ acc.IsRom ∧ step m acc = .error (.assertion "false")) := by
  cases acc with
  | rom t hadr =>
    cases hcmd : t.command with
    | write => exact Or.inl ⟨t, hadr, rfl, hcmd, m.step_rom_write hadr hcmd⟩
    | read =>
      exact Or.inr (Or.inl ⟨Access.quiet_rom hadr (by simp [hcmd]), m.extRam.data,
        m.step_rom_read hadr hcmd⟩)
    | ignore =>
      exact Or.inr (Or.inl ⟨Access.quiet_rom hadr (by simp [hcmd]), m.extRam.data,
        m.step_rom_ignore hadr hcmd⟩)
  | ram t hadr time =>
    refine Or.inr ?_
    rcases Bool.eq_false_or_eq_true m.ramEnabled with hen | hen
    · obtain ⟨t', data, hram⟩ := m.ramTransport_ok hadr
      refine Or.inl ⟨Access.quiet_ram hadr time, data, ?_⟩
      rw [step, m.bTransportRam_enabled hadr hen, hram]
      rfl
    · refine Or.inr ⟨Access.quiet_ram hadr time, id, ?_⟩
      rw [step, m.bTransportRam_disabled hadr hen]
      rfl

/-! ## The selection, read off a history -/

/-- Bit 0 of the last byte written to 0x3000-0x3FFF. -/
def hi (ls : List Access) : Nat := (lastByte 0x3000 0x3FFF ls).toNat % 2

/-- The last byte written to 0x2000-0x2FFF. -/
def lo (ls : List Access) : Nat := (lastByte 0x2000 0x2FFF ls).toNat

/-- The selected ROM bank. -/
def sel (ls : List Access) : Nat := hi ls * 256 + lo ls

/-- The selected RAM bank: the low nibble of the last byte written to 0x4000-0x5FFF. -/
def ramBank (ls : List Access) : Nat := (lastByte 0x4000 0x5FFF ls).toNat % 16

theorem hi_lt (ls : List Access) : hi ls < 2 := Nat.mod_lt _ (by decide)

theorem lo_lt (ls : List Access) : lo ls < 256 := (lastByte 0x2000 0x2FFF ls).isLt

theorem sel_lt (ls : List Access) : sel ls < 512 := by
  have hhi := hi_lt ls
  have hlo := lo_lt ls
  unfold sel
  omega

theorem sel_mod (ls : List Access) : sel ls % 256 = lo ls := by
  have hlo := lo_lt ls
  unfold sel
  omega

theorem ramBank_lt (ls : List Access) : ramBank ls < 16 := Nat.mod_lt _ (by decide)

/-! ## Registers -/

theorem setRegister_lowBits (adr : U16) (v : U8) (m : Mbc5) :
    (m.setRegister adr v).romBankLowBits =
      if 0x2000 ≤ adr ∧ adr ≤ 0x2FFF then v.setWidth 16 else m.romBankLowBits := by
  unfold setRegister
  split_ifs <;> first | rfl | bv_omega

theorem setRegister_highBits (adr : U16) (v : U8) (m : Mbc5) :
    (m.setRegister adr v).romBankHighBits =
      if 0x3000 ≤ adr ∧ adr ≤ 0x3FFF then (v &&& 1).setWidth 16 else m.romBankHighBits := by
  unfold setRegister
  split_ifs <;> first | rfl | bv_omega

theorem setRegister_ramBits (adr : U16) (v : U8) (m : Mbc5) :
    (m.setRegister adr v).ramBits =
      if 0x4000 ≤ adr ∧ adr ≤ 0x5FFF then (v &&& 0x0F).setWidth 16 else m.ramBits := by
  unfold setRegister
  split_ifs <;> first | rfl | bv_omega

theorem setRegister_memories (adr : U16) (v : U8) (m : Mbc5) :
    (m.setRegister adr v).romHigh = m.romHigh ∧ (m.setRegister adr v).extRam = m.extRam := by
  unfold setRegister
  split_ifs <;> exact ⟨rfl, rfl⟩

/-- `rom_ind_ = (rom_bank_high_bits_ << 8) | rom_bank_low_bits_` is the low byte alone. -/
theorem romInd_toNat (hiBits loBits : U16) (hlo : loBits.toNat < 256) :
    (((hiBits <<< 8) ||| loBits).setWidth 8 : U8).toNat = loBits.toNat := by
  rw [BitVec.toNat_setWidth, BitVec.toNat_or, BitVec.toNat_shiftLeft, Nat.shiftLeft_eq,
    Nat.or_mod_two_pow, Nat.mod_mod_of_dvd _ (by decide : 2 ^ 8 ∣ 2 ^ 16), Nat.mul_mod_left,
    Nat.zero_or, Nat.mod_eq_of_lt hlo]

/-! ## Histories -/

/-- What a history `ls` leaves behind, from a controller with the ROM of `m₀`. -/
structure Tracks (m₀ : Mbc5) (ls : List Access) (m : Mbc5) : Prop where
  lowBits : m.romBankLowBits.toNat = lo ls
  highBits : m.romBankHighBits.toNat = hi ls
  ramBits : m.ramBits.toNat = ramBank ls
  romBank : m.romHigh.currentBankInd.val = sel ls % 256
  ramBank : m.ramEnabled = true → m.extRam.currentBankInd.val = ramBank ls
  romHigh : m.romHigh.data = m₀.romHigh.data

theorem tracks_init (romLow : Fin 0x4000 → U8) (romHigh : Fin (512 * 0x4000) → U8)
    (extRam : Fin (16 * 0x2000) → U8) (symbolFile : Bool) :
    Tracks (init romLow romHigh extRam symbolFile) [] (init romLow romHigh extRam symbolFile) :=
  ⟨rfl, rfl, rfl, rfl, fun _ => rfl, rfl⟩

/-- The registers after a write are the fields of the bytes written last. -/
theorem setRegister_tracks {m₀ m : Mbc5} {ls : List Access} (h : Tracks m₀ ls m) {t : Payload}
    (hadr : t.address < 0x8000) (hcmd : t.command = .write) :
    (m.setRegister t.address t.data).romBankLowBits.toNat = lo (ls ++ [.rom t hadr]) ∧
    (m.setRegister t.address t.data).romBankHighBits.toNat = hi (ls ++ [.rom t hadr]) ∧
    (m.setRegister t.address t.data).ramBits.toNat = Mbc5.ramBank (ls ++ [.rom t hadr]) := by
  have hlow := h.lowBits
  have hhigh := h.highBits
  have hram := h.ramBits
  unfold lo hi Mbc5.ramBank at *
  rw [setRegister_lowBits, setRegister_highBits, setRegister_ramBits,
    lastByte_write _ _ _ _ hcmd, lastByte_write _ _ _ _ hcmd,
    lastByte_write _ _ _ _ hcmd]
  refine ⟨?_, ?_, ?_⟩
  · split_ifs
    · exact BitVec.toNat_setWidth_of_le (by decide)
    · exact hlow
  · split_ifs
    · rw [BitVec.toNat_setWidth_of_le (by decide)]
      exact toNat_and_1 _
    · exact hhigh
  · split_ifs
    · rw [BitVec.toNat_setWidth_of_le (by decide)]
      exact toNat_and_0F _
    · exact hram

/-- A write to the ROM window succeeds and keeps `Tracks`. -/
theorem romWrite_tracks {m₀ m : Mbc5} {ls : List Access} (h : Tracks m₀ ls m) {t : Payload}
    (hadr : t.address < 0x8000) (hcmd : t.command = .write) :
    ∃ m', m.romWrite t.address t.data = .ok m' ∧ Tracks m₀ (ls ++ [.rom t hadr]) m' := by
  obtain ⟨hlow, hhigh, hram⟩ := setRegister_tracks h hadr hcmd
  obtain ⟨hmemHigh, -⟩ := setRegister_memories t.address t.data m
  have hlo := lo_lt (ls ++ [.rom t hadr])
  have hbank := ramBank_lt (ls ++ [.rom t hadr])
  unfold romWrite
  generalize m.setRegister t.address t.data = r at *
  have hrom := romInd_toNat r.romBankHighBits r.romBankLowBits (by omega)
  have hind : (if r.ramEnabled then r.ramBits.setWidth 8 else 0 : U8).toNat =
      if r.ramEnabled then Mbc5.ramBank (ls ++ [.rom t hadr]) else 0 := by
    split_ifs
    · rw [BitVec.toNat_setWidth, hram]
      omega
    · rfl
  have hindLt : (if r.ramEnabled then r.ramBits.setWidth 8 else 0 : U8).toNat < 16 := by
    rw [hind]
    split_ifs <;> omega
  dsimp only
  rw [BankSwitchedMem.doBankSwitch_of_lt _ (by omega), ok_bind,
    BankSwitchedMem.doBankSwitch_of_lt _ hindLt]
  refine ⟨_, rfl, ?_⟩
  exact
    { lowBits := hlow
      highBits := hhigh
      ramBits := hram
      romBank := (hrom.trans hlow).trans (sel_mod _).symm
      ramBank := fun hen => by
        have hen' : r.ramEnabled = true := hen
        exact hind.trans (if_pos hen')
      romHigh := (congrArg BankSwitchedMem.data hmemHigh).trans h.romHigh }

/-- Accesses that write no register keep `Tracks`. -/
theorem Tracks.quiet {m₀ m : Mbc5} {ls : List Access} (h : Tracks m₀ ls m) {acc : Access}
    (hacc : acc.Quiet) (data : Fin (16 * 0x2000) → U8) :
    Tracks m₀ (ls ++ [acc]) { m with extRam := { m.extRam with data := data } } := by
  have hlo : lo (ls ++ [acc]) = lo ls := by simp only [lo, lastByte_quiet _ _ _ hacc]
  have hhi : hi (ls ++ [acc]) = hi ls := by simp only [hi, lastByte_quiet _ _ _ hacc]
  have hram : Mbc5.ramBank (ls ++ [acc]) = Mbc5.ramBank ls := by
    simp only [Mbc5.ramBank, lastByte_quiet _ _ _ hacc]
  constructor <;> simp only [sel, hlo, hhi, hram]
  · exact h.lowBits
  · exact h.highBits
  · exact h.ramBits
  · exact h.romBank
  · exact h.ramBank
  · exact h.romHigh

/-- Every access that succeeds keeps `Tracks`. -/
theorem step_tracks {m₀ m m' : Mbc5} {ls : List Access} (h : Tracks m₀ ls m) {acc : Access}
    (hm' : step m acc = .ok m') : Tracks m₀ (ls ++ [acc]) m' := by
  rcases m.step_cases acc with ⟨t, hadr, rfl, hcmd, hstep⟩ | ⟨hacc, data, hstep⟩ | ⟨-, -, hstep⟩
  · obtain ⟨m'', hwrite, htr⟩ := romWrite_tracks h hadr hcmd
    rw [hstep, hwrite] at hm'
    cases hm'
    exact htr
  · rw [hstep] at hm'
    cases hm'
    exact h.quiet hacc data
  · rw [hstep] at hm'
    cases hm'

/-- A ROM access succeeds. -/
theorem step_rom_ok {m₀ m : Mbc5} {ls : List Access} (h : Tracks m₀ ls m) {acc : Access}
    (hrom : acc.IsRom) : ∃ m', step m acc = .ok m' := by
  rcases m.step_cases acc with ⟨t, hadr, rfl, hcmd, hstep⟩ | ⟨-, data, hstep⟩ | ⟨-, hram, -⟩
  · obtain ⟨m', hwrite, -⟩ := romWrite_tracks h hadr hcmd
    exact ⟨m', hstep.trans hwrite⟩
  · exact ⟨_, hstep⟩
  · exact absurd hrom hram

/-- A history that fails no assertion ends in a state with `Tracks`. -/
theorem run_tracks {m₀ m : Mbc5} (hinit : Tracks m₀ [] m₀) {ls : List Access}
    (hrun : ls.foldlM step m₀ = .ok m) : Tracks m₀ ls m :=
  History.run_induction (Tracks m₀) hinit (fun _ _ _ _ h hstep => step_tracks h hstep) hrun

/-- Every history of accesses to the ROM window succeeds. -/
theorem run_rom_tracks (m₀ : Mbc5) (hinit : Tracks m₀ [] m₀) (ls : List Access)
    (hrom : ∀ acc ∈ ls, acc.IsRom) : ∃ m, ls.foldlM step m₀ = .ok m ∧ Tracks m₀ ls m := by
  refine History.run_total Access.IsRom (Tracks m₀) hinit ?_ ls hrom
  intro ls m acc hacc h
  obtain ⟨m', hstep⟩ := step_rom_ok h hacc
  exact ⟨m', hstep, step_tracks h hstep⟩

/-! ## The window shown and the window selected -/

/-- A read of the switched window. -/
theorem bTransportRom_high (m : Mbc5) {t : Payload} (hcmd : t.command = .read) (a : Fin 0x4000)
    (hadr : t.address.toNat = 0x4000 + a) :
    m.bTransportRom t = .ok ({ t with
      address := t.address - 0x4000
      data := m.romHigh.data (BankSwitchedMem.cell m.romHigh.currentBankInd a)
      responseStatus := .ok }, m) := by
  have ha := a.isLt
  rw [bTransportRom, cAssert_pos (by bv_omega), ok_bind]
  simp only [hcmd]
  rw [if_neg (by bv_omega), MemoryBankCtrler.romHighTransport,
    @BankSwitchedMem.bTransport_read _ _ m.romHigh { t with address := t.address - 0x4000 } hcmd a
      (by simp only; bv_omega), ← hcmd]
  rfl

/-- State `m` shows what the history `ls` selects: reads of 0x4000-0x7FFF give bank `sel ls` of
    the ROM image, and an enabled RAM access reads or writes the byte of bank `ramBank ls`. -/
def ShowsSelection (romHigh : Fin (512 * 0x4000) → U8) (ls : List Access) (m : Mbc5) : Prop :=
  (∀ (a : Fin 0x4000) (t : Payload), t.command = .read → t.address.toNat = 0x4000 + a →
    ∃ t' m', m.bTransportRom t = .ok (t', m') ∧ t'.responseStatus = .ok ∧
      t'.data = romHigh (BankSwitchedMem.cell ⟨sel ls, sel_lt ls⟩ a)) ∧
  (m.ramEnabled = true → ∀ (a : Fin 0x2000) (t : Payload), t.address.toNat = a →
    let x := BankSwitchedMem.cell ⟨ramBank ls, ramBank_lt ls⟩ a
    (t.command = .read → m.bTransportRam t =
      .ok ({ t with data := m.extRam.data x, responseStatus := .ok }, m)) ∧
    (t.command = .write → m.bTransportRam t = .ok ({ t with responseStatus := .ok },
      { m with extRam := { m.extRam with
        data := Function.update m.extRam.data x t.data } })))

/-- The RAM half of `ShowsSelection` holds in every state that a history leaves. -/
theorem Tracks.ram {m₀ m : Mbc5} {ls : List Access} (h : Tracks m₀ ls m)
    (hen : m.ramEnabled = true) (a : Fin 0x2000) (t : Payload) (hadr : t.address.toNat = a) :
    let x := BankSwitchedMem.cell ⟨Mbc5.ramBank ls, ramBank_lt ls⟩ a
    (t.command = .read → m.bTransportRam t =
      .ok ({ t with data := m.extRam.data x, responseStatus := .ok }, m)) ∧
    (t.command = .write → m.bTransportRam t = .ok ({ t with responseStatus := .ok },
      { m with extRam := { m.extRam with
        data := Function.update m.extRam.data x t.data } })) := by
  have ha := a.isLt
  have hlt : t.address < 0x2000 := by bv_omega
  have hbank : m.extRam.currentBankInd = ⟨Mbc5.ramBank ls, ramBank_lt ls⟩ := Fin.ext (h.ramBank hen)
  refine ⟨fun hcmd => ?_, fun hcmd => ?_⟩
  · rw [m.bTransportRam_enabled hlt hen, m.ramTransport_read hcmd a hadr, hbank]
    rfl
  · rw [m.bTransportRam_enabled hlt hen, m.ramTransport_write hcmd a hadr, hbank]
    rfl

/-- A state that shows the selection has the bytes of bank `sel ls` where the bytes of bank
    `lo ls` are shown. -/
theorem ShowsSelection.same_byte {m₀ m : Mbc5} {ls : List Access} (htr : Tracks m₀ ls m)
    (h : ShowsSelection m₀.romHigh.data ls m) (a : Fin 0x4000) :
    m₀.romHigh.data (BankSwitchedMem.cell ⟨sel ls, sel_lt ls⟩ a) =
      m₀.romHigh.data (BankSwitchedMem.cell ⟨sel ls % 256, by omega⟩ a) := by
  have ha := a.isLt
  have hbank : m.romHigh.currentBankInd = ⟨sel ls % 256, by omega⟩ := Fin.ext htr.romBank
  have hadr : (BitVec.ofNat 16 (0x4000 + a.val)).toNat = 0x4000 + a.val := by
    rw [BitVec.toNat_ofNat]
    omega
  obtain ⟨t', m', hread, -, hdata⟩ :=
    h.1 a { command := .read, address := BitVec.ofNat 16 (0x4000 + a.val) } rfl hadr
  rw [m.bTransportRom_high rfl a hadr] at hread
  cases hread
  rw [← hdata, ← hbank, ← htr.romHigh]

/-- The history selects bank 256 of an image whose only non-zero byte is the first one of that
    bank; the byte read is the one of bank 0. -/
theorem bank_256_not_shown :
    let ls := [Access.write 0x3000 1 (by decide)]
    let image : Fin (512 * 0x4000) → U8 := fun i => if i.val = 256 * 0x4000 then 1 else 0
    sel ls = 256 ∧ (∀ acc ∈ ls, acc.IsRom) ∧
      ∃ m, ls.foldlM step (init (fun _ => 0) image (fun _ => 0) false) = .ok m ∧
        ¬ ShowsSelection image ls m := by
  intro ls image
  have hrom : ∀ acc ∈ ls, acc.IsRom := by simp [ls, Access.write, Access.IsRom]
  obtain ⟨m, hrun, htr⟩ := run_rom_tracks _ (tracks_init (fun _ => 0) image (fun _ => 0) false)
    ls hrom
  refine ⟨by decide, hrom, m, hrun, fun hshow => ?_⟩
  have hsame := ShowsSelection.same_byte htr hshow 0
  exact absurd hsame (by decide)

/-- For every history of accesses to the ROM window: the controller shows what the history
    selects, whatever the ROM image, exactly when bit 8 of the selection is clear. -/
theorem shows_selection_iff (ls : List Access) (hrom : ∀ acc ∈ ls, acc.IsRom) :
    (∀ romLow romHigh extRam symbolFile, ∃ m,
      ls.foldlM step (init romLow romHigh extRam symbolFile) = .ok m ∧
        ShowsSelection romHigh ls m) ↔ hi ls = 0 := by
  constructor
  · intro hall
    -- An image with one marked byte tells bank `sel ls` from every other bank.
    obtain ⟨m, hrun, hshow⟩ := hall (fun _ => 0)
      (fun i => if i = BankSwitchedMem.cell ⟨sel ls, sel_lt ls⟩ (0 : Fin 0x4000) then 1 else 0)
      (fun _ => 0) false
    have htr := run_tracks (tracks_init _ _ _ _) hrun
    have hsame := ShowsSelection.same_byte htr hshow 0
    have hcell : BankSwitchedMem.cell (⟨sel ls % 256, by omega⟩ : Fin 512) (0 : Fin 0x4000) =
        BankSwitchedMem.cell ⟨sel ls, sel_lt ls⟩ 0 := by
      by_contra hne
      have hone : (if BankSwitchedMem.cell (⟨sel ls, sel_lt ls⟩ : Fin 512) (0 : Fin 0x4000) =
          BankSwitchedMem.cell ⟨sel ls, sel_lt ls⟩ 0 then (1 : U8) else 0) =
          if BankSwitchedMem.cell (⟨sel ls % 256, by omega⟩ : Fin 512) (0 : Fin 0x4000) =
          BankSwitchedMem.cell ⟨sel ls, sel_lt ls⟩ 0 then 1 else 0 := hsame
      rw [if_pos rfl, if_neg hne] at hone
      exact absurd hone (by decide)
    have hbank := congrArg Fin.val ((BankSwitchedMem.cell_inj.mp hcell).1)
    have hlo := lo_lt ls
    simp only [sel_mod] at hbank
    unfold sel at hbank
    omega
  · intro hhi romLow romHigh extRam symbolFile
    obtain ⟨m, hrun, htr⟩ :=
      run_rom_tracks _ (tracks_init romLow romHigh extRam symbolFile) ls hrom
    have hbank : m.romHigh.currentBankInd = ⟨sel ls, sel_lt ls⟩ := by
      apply Fin.ext
      rw [htr.romBank, sel_mod]
      simp only [sel, hhi]
      omega
    refine ⟨m, hrun, ?_, htr.ram⟩
    intro a t hcmd hadr
    refine ⟨_, _, m.bTransportRom_high hcmd a hadr, rfl, ?_⟩
    rw [hbank, htr.romHigh]
    rfl

/-- A history with a clear bit 8: bank 5 is selected and shown. -/
theorem bank_5_shown :
    let ls := [Access.write 0x2000 5 (by decide)]
    sel ls = 5 ∧ ∀ romLow romHigh extRam symbolFile, ∃ m,
      ls.foldlM step (init romLow romHigh extRam symbolFile) = .ok m ∧
        ShowsSelection romHigh ls m :=
  ⟨by decide, (shows_selection_iff _ (by simp [Access.write, Access.IsRom])).mpr (by decide)⟩

end Mbc5

end TlmBoy
