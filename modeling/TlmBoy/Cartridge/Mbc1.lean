import TlmBoy.Cartridge.Access

/-
  MBC1: every history of guest accesses maps the windows that the bytes written last select.

  `Mbc1.step` is one access on the controller, `ls.foldlM Mbc1.step (Mbc1.init ..)` a history
  since construction. The selection is stated without the controller, on the history alone:
  `lo`, `hi` and `mode` are the fields of the last bytes written to the three register ranges,
  `romBank` and `ramBank` the banks they select.

  * `Tracks`: the registers, banks and ROM contents that a history leaves behind.
  * `step_tracks`: no access fails an assertion, and each keeps `Tracks`.
  * `run_tracks`: hence every history ends in a state with `Tracks`.
  * `step_extRam`, `run_extRam`: a RAM byte changes only by an enabled write to it.
-/

namespace TlmBoy

namespace Mbc1

/-- One guest access. -/
def step (m : Mbc1) : Access → Except Fault Mbc1
  | .rom t _ => (m.bTransportRom t).map Prod.snd
  | .ram t _ _ => (m.bTransportRam t).map Prod.snd

theorem step_rom_read (m : Mbc1) {t t' : Payload} {c : MemoryBankCtrler 128 4}
    (hadr : t.address < 0x8000) (hcmd : t.command = .read)
    (hread : m.tracedRomRead t = .ok (t', c)) :
    step m (.rom t hadr) = .ok { m with toMemoryBankCtrler := c } := by
  rw [step, bTransportRom, cAssert_pos hadr, ok_bind]
  simp only [hcmd, hread]
  rfl

theorem step_rom_write (m : Mbc1) {t : Payload} (hadr : t.address < 0x8000)
    (hcmd : t.command = .write) : step m (.rom t hadr) = m.romWrite t.address t.data := by
  rw [step, bTransportRom, cAssert_pos hadr, ok_bind]
  simp only [hcmd]
  cases m.romWrite t.address t.data <;> rfl

theorem step_rom_ignore (m : Mbc1) {t : Payload} (hadr : t.address < 0x8000)
    (hcmd : t.command = .ignore) : step m (.rom t hadr) = .ok m := by
  rw [step, bTransportRom, cAssert_pos hadr, ok_bind]
  simp only [hcmd]
  rfl

theorem bTransportRam_enabled (m : Mbc1) {t : Payload} (hadr : t.address < 0x2000)
    (hen : m.ramEnabled = true) : m.bTransportRam t =
      (m.ramTransport t).map fun r => (r.1, { m with toMemoryBankCtrler := r.2 }) := by
  rw [bTransportRam, cAssert_pos (by bv_omega), ok_bind, if_pos hen]
  cases m.ramTransport t <;> rfl

theorem bTransportRam_disabled (m : Mbc1) {t : Payload} (hadr : t.address < 0x2000)
    (hen : m.ramEnabled = false) : m.bTransportRam t = .ok (t, m) := by
  rw [bTransportRam, cAssert_pos (by bv_omega), ok_bind, if_neg (by simp [hen])]
  rfl

/-- What an access can do: a write to the ROM window is `romWrite`, every other access changes
    at most the tracer and bytes of the external RAM. -/
theorem step_cases (m : Mbc1) (acc : Access) :
    (∃ t hadr, acc = .rom t hadr ∧ t.command = .write ∧
      step m acc = m.romWrite t.address t.data) ∨
    (acc.Quiet ∧ ∃ tracer data, step m acc = .ok { m with
      symfileTracer := tracer, extRam := { m.extRam with data := data } }) := by
  cases acc with
  | rom t hadr =>
    cases hcmd : t.command with
    | write => exact Or.inl ⟨t, hadr, rfl, hcmd, m.step_rom_write hadr hcmd⟩
    | read =>
      obtain ⟨t', tracer, hread⟩ := m.tracedRomRead_ok hcmd hadr
      exact Or.inr ⟨Access.quiet_rom hadr (by simp [hcmd]), tracer, m.extRam.data,
        m.step_rom_read hadr hcmd hread⟩
    | ignore =>
      exact Or.inr ⟨Access.quiet_rom hadr (by simp [hcmd]), m.symfileTracer, m.extRam.data,
        m.step_rom_ignore hadr hcmd⟩
  | ram t hadr time =>
    refine Or.inr ⟨Access.quiet_ram hadr time, m.symfileTracer, ?_⟩
    rcases Bool.eq_false_or_eq_true m.ramEnabled with hen | hen
    · obtain ⟨t', data, hram⟩ := m.ramTransport_ok hadr
      refine ⟨data, ?_⟩
      rw [step, m.bTransportRam_enabled hadr hen, hram]
      rfl
    · refine ⟨m.extRam.data, ?_⟩
      rw [step, m.bTransportRam_disabled hadr hen]
      rfl

/-! ## The selection, read off a history -/

/-- The low five bits of the last byte written to 0x2000-0x3FFF. -/
def lo (ls : List Access) : Nat := (lastByte 0x2000 0x3FFF ls).toNat % 32

/-- The low two bits of the last byte written to 0x4000-0x5FFF. -/
def hi (ls : List Access) : Nat := (lastByte 0x4000 0x5FFF ls).toNat % 4

/-- Bit 0 of the last byte written to 0x6000-0x7FFF. -/
def mode (ls : List Access) : Bool := (lastByte 0x6000 0x7FFF ls).toNat % 2 == 1

/-- The ROM bank that register values `lo`, `hi` and `mode` select: banks 0, 0x20, 0x40 and
    0x60 are out of reach and give the next one. -/
def bankOf (lo hi : Nat) (mode : Bool) : Nat :=
  let b := if mode then lo else lo + 32 * hi
  if b = 0 ∨ b = 0x20 ∨ b = 0x40 ∨ b = 0x60 then b + 1 else b

def romBank (ls : List Access) : Nat := bankOf (lo ls) (hi ls) (mode ls)

def ramBank (ls : List Access) : Nat := if mode ls then hi ls else 0

theorem bankOf_pos (lo hi : Nat) (mode : Bool) : 0 < bankOf lo hi mode := by
  unfold bankOf
  dsimp only
  split_ifs <;> omega

theorem bankOf_lt {lo hi : Nat} (mode : Bool) (hlo : lo < 32) (hhi : hi < 4) :
    bankOf lo hi mode < 128 := by
  unfold bankOf
  dsimp only
  split_ifs <;> omega

theorem romBank_lt (ls : List Access) : romBank ls - 1 < 128 := by
  have h := bankOf_lt (mode ls) (Nat.mod_lt (lastByte 0x2000 0x3FFF ls).toNat (by decide : 0 < 32))
    (Nat.mod_lt (lastByte 0x4000 0x5FFF ls).toNat (by decide : 0 < 4))
  unfold romBank lo hi
  omega

theorem ramBank_lt (ls : List Access) : ramBank ls < 4 := by
  unfold ramBank hi
  split_ifs <;> omega

/-! ## Registers -/

theorem setRegister_lowBits (adr : U16) (v : U8) (m : Mbc1) :
    (m.setRegister adr v).romBankLowBits =
      if 0x2000 ≤ adr ∧ adr ≤ 0x3FFF then 0b00011111 &&& v else m.romBankLowBits := by
  unfold setRegister
  split_ifs <;> first | rfl | bv_omega

theorem setRegister_twoBits (adr : U16) (v : U8) (m : Mbc1) :
    (m.setRegister adr v).theTwoBits =
      if 0x4000 ≤ adr ∧ adr ≤ 0x5FFF then v &&& 0b00000011 else m.theTwoBits := by
  unfold setRegister
  split_ifs <;> first | rfl | bv_omega

theorem setRegister_mode (adr : U16) (v : U8) (m : Mbc1) (hadr : adr < 0x8000) :
    (m.setRegister adr v).moreRamMode =
      if 0x6000 ≤ adr ∧ adr ≤ 0x7FFF then (v &&& 0b0000001) != 0 else m.moreRamMode := by
  unfold setRegister
  split_ifs <;> first | rfl | bv_omega

theorem setRegister_memories (adr : U16) (v : U8) (m : Mbc1) :
    (m.setRegister adr v).romHigh = m.romHigh ∧ (m.setRegister adr v).extRam = m.extRam ∧
      (m.setRegister adr v).romLow = m.romLow := by
  unfold setRegister
  split_ifs <;> exact ⟨rfl, rfl, rfl⟩

/-- Skipping the four unreachable banks, on bytes and on numbers. -/
theorem skip_toNat (b : U8) (hb : b.toNat < 128) :
    (if b = 0 ∨ b = 0x20 ∨ b = 0x40 ∨ b = 0x60 then b + 1 else b).toNat =
      if b.toNat = 0 ∨ b.toNat = 0x20 ∨ b.toNat = 0x40 ∨ b.toNat = 0x60 then b.toNat + 1
      else b.toNat := by
  split_ifs <;> bv_omega

/-- The recomputed `rom_ind_` is the bank of the register values. -/
theorem nextRomInd_toNat (m : Mbc1) (hlow : m.romBankLowBits.toNat < 32)
    (htwo : m.theTwoBits.toNat < 4) :
    m.nextRomInd.toNat = bankOf m.romBankLowBits.toNat m.theTwoBits.toNat m.moreRamMode := by
  have hor : (m.romBankLowBits ||| m.theTwoBits <<< 5).toNat =
      m.romBankLowBits.toNat + 32 * m.theTwoBits.toNat := by
    rw [BitVec.toNat_or, BitVec.toNat_shiftLeft, Nat.shiftLeft_eq,
      Nat.mod_eq_of_lt (by omega), Nat.or_comm, Nat.mul_comm,
      ← Nat.two_pow_add_eq_or_of_lt (i := 5) hlow]
    omega
  unfold nextRomInd bankOf
  cases m.moreRamMode with
  | true =>
    have hzero : m.romBankLowBits ||| (0 : U8) = m.romBankLowBits := BitVec.or_zero
    simp only [if_true, hzero]
    exact skip_toNat m.romBankLowBits (by omega)
  | false =>
    simp only [Bool.false_eq_true, if_false]
    rw [skip_toNat _ (by omega), hor]

theorem nextRamInd_toNat (m : Mbc1) :
    m.nextRamInd.toNat = if m.moreRamMode then m.theTwoBits.toNat else 0 := by
  unfold nextRamInd
  split_ifs <;> rfl

/-- A write to the ROM window fails no assertion: it sets its register and applies the banks
    of the registers. -/
theorem romWrite_eq (m : Mbc1) (adr : U16) (v : U8)
    (hlow : (m.setRegister adr v).romBankLowBits.toNat < 32)
    (htwo : (m.setRegister adr v).theTwoBits.toNat < 4) :
    ∃ (hrom : ((m.setRegister adr v).nextRomInd - 1).toNat < 128)
      (hram : (m.setRegister adr v).nextRamInd.toNat < 4),
      m.romWrite adr v = .ok { m.setRegister adr v with
        romInd := (m.setRegister adr v).nextRomInd
        ramInd := (m.setRegister adr v).nextRamInd
        romHigh := { (m.setRegister adr v).romHigh with currentBankInd := ⟨_, hrom⟩ }
        extRam := { (m.setRegister adr v).extRam with currentBankInd := ⟨_, hram⟩ } } := by
  unfold romWrite
  generalize m.setRegister adr v = r at *
  have hbank := r.nextRomInd_toNat hlow htwo
  have hpos := bankOf_pos r.romBankLowBits.toNat r.theTwoBits.toNat r.moreRamMode
  have hlt := bankOf_lt r.moreRamMode hlow htwo
  have hrange : 0 < r.nextRomInd ∧ r.nextRomInd < 128 := by constructor <;> bv_omega
  have hone : r.moreRamMode = true ∨ (¬ r.moreRamMode = true ∧ r.nextRamInd = 0) := by
    unfold nextRamInd
    cases r.moreRamMode <;> simp
  have hram : r.nextRamInd.toNat < 4 := by
    rw [nextRamInd_toNat]
    split_ifs <;> omega
  have hrom : (r.nextRomInd - 1).toNat < 128 := by bv_omega
  refine ⟨hrom, hram, ?_⟩
  dsimp only
  rw [cAssert_pos hrange, ok_bind, cAssert_pos hone, ok_bind,
    BankSwitchedMem.doBankSwitch_of_lt _ hrom, ok_bind,
    BankSwitchedMem.doBankSwitch_of_lt _ hram]
  rfl

/-! ## Histories -/

/-- What a history `ls` leaves behind, from a controller with the memories of `m₀`. -/
structure Tracks (m₀ : Mbc1) (ls : List Access) (m : Mbc1) : Prop where
  lowBits : m.romBankLowBits.toNat = lo ls
  twoBits : m.theTwoBits.toNat = hi ls
  mode : m.moreRamMode = mode ls
  romBank : m.romHigh.currentBankInd.val = romBank ls - 1
  ramBank : m.extRam.currentBankInd.val = ramBank ls
  romHigh : m.romHigh.data = m₀.romHigh.data
  romLow : m.romLow = m₀.romLow

/-- Before the first write bank 0 of `rom_high` is mapped, which is what the zero registers
    select. -/
theorem tracks_init (romLow : Fin 0x4000 → U8) (romHigh : Fin (128 * 0x4000) → U8)
    (extRam : Fin (4 * 0x2000) → U8) (symbolFile : Bool) :
    Tracks (init romLow romHigh extRam symbolFile) [] (init romLow romHigh extRam symbolFile) :=
  ⟨rfl, rfl, rfl, rfl, rfl, rfl, rfl⟩

/-- The registers after a write are the fields of the bytes written last. -/
theorem setRegister_tracks {m₀ m : Mbc1} {ls : List Access} (h : Tracks m₀ ls m) {t : Payload}
    (hadr : t.address < 0x8000) (hcmd : t.command = .write) :
    (m.setRegister t.address t.data).romBankLowBits.toNat = lo (ls ++ [.rom t hadr]) ∧
    (m.setRegister t.address t.data).theTwoBits.toNat = hi (ls ++ [.rom t hadr]) ∧
    (m.setRegister t.address t.data).moreRamMode = Mbc1.mode (ls ++ [.rom t hadr]) := by
  have hlow := h.lowBits
  have htwo := h.twoBits
  have hmode := h.mode
  unfold lo hi Mbc1.mode at *
  rw [setRegister_lowBits, setRegister_twoBits, setRegister_mode _ _ _ hadr,
    lastByte_write _ _ _ _ hcmd, lastByte_write _ _ _ _ hcmd,
    lastByte_write _ _ _ _ hcmd]
  refine ⟨?_, ?_, ?_⟩
  · split_ifs
    · rw [BitVec.and_comm]
      exact toNat_and_1F _
    · exact hlow
  · split_ifs
    · exact toNat_and_3 _
    · exact htwo
  · split_ifs
    · exact and_1_ne_zero _
    · exact hmode

/-- Accesses that write no register keep `Tracks`: at most the tracer and bytes of the external
    RAM change. -/
theorem Tracks.quiet {m₀ m : Mbc1} {ls : List Access} (h : Tracks m₀ ls m) {acc : Access}
    (hacc : acc.Quiet) (tracer : Option SymfileTracer) (data : Fin (4 * 0x2000) → U8) :
    Tracks m₀ (ls ++ [acc]) { m with
      symfileTracer := tracer, extRam := { m.extRam with data := data } } := by
  have hlo : lo (ls ++ [acc]) = lo ls := by simp only [lo, lastByte_quiet _ _ _ hacc]
  have hhi : hi (ls ++ [acc]) = hi ls := by simp only [hi, lastByte_quiet _ _ _ hacc]
  have hmode : Mbc1.mode (ls ++ [acc]) = Mbc1.mode ls := by
    simp only [Mbc1.mode, lastByte_quiet _ _ _ hacc]
  constructor <;> simp only [Mbc1.romBank, Mbc1.ramBank, hlo, hhi, hmode]
  · exact h.lowBits
  · exact h.twoBits
  · exact h.mode
  · exact h.romBank
  · exact h.ramBank
  · exact h.romHigh
  · exact h.romLow

/-- A write to the ROM window fails no assertion and keeps `Tracks`. -/
theorem romWrite_tracks {m₀ m : Mbc1} {ls : List Access} (h : Tracks m₀ ls m) {t : Payload}
    (hadr : t.address < 0x8000) (hcmd : t.command = .write) :
    ∃ m', m.romWrite t.address t.data = .ok m' ∧ Tracks m₀ (ls ++ [.rom t hadr]) m' := by
  obtain ⟨hlow, htwo, hmode⟩ := setRegister_tracks h hadr hcmd
  obtain ⟨hmemHigh, -, hmemLow⟩ := setRegister_memories t.address t.data m
  have hlow32 : lo (ls ++ [.rom t hadr]) < 32 := Nat.mod_lt _ (by decide)
  have htwo4 : hi (ls ++ [.rom t hadr]) < 4 := Nat.mod_lt _ (by decide)
  obtain ⟨hrom, hram, hwrite⟩ := romWrite_eq m t.address t.data (by omega) (by omega)
  have hbank := nextRomInd_toNat (m.setRegister t.address t.data) (by omega) (by omega)
  have hrambank := nextRamInd_toNat (m.setRegister t.address t.data)
  rw [hlow, htwo, hmode] at hbank
  rw [htwo, hmode] at hrambank
  have hpos : 0 < (m.setRegister t.address t.data).nextRomInd.toNat := by
    rw [hbank]
    exact bankOf_pos _ _ _
  have hpred : ((m.setRegister t.address t.data).nextRomInd - 1).toNat =
      (m.setRegister t.address t.data).nextRomInd.toNat - 1 := by bv_omega
  exact ⟨_, hwrite,
    { lowBits := hlow
      twoBits := htwo
      mode := hmode
      romBank := hpred.trans (congrArg (· - 1) hbank)
      ramBank := hrambank
      romHigh := (congrArg BankSwitchedMem.data hmemHigh).trans h.romHigh
      romLow := hmemLow.trans h.romLow }⟩

/-- No access fails an assertion, and each keeps `Tracks`. -/
theorem step_tracks {m₀ m : Mbc1} {ls : List Access} (h : Tracks m₀ ls m) (acc : Access) :
    ∃ m', step m acc = .ok m' ∧ Tracks m₀ (ls ++ [acc]) m' := by
  rcases m.step_cases acc with ⟨t, hadr, rfl, hcmd, hstep⟩ | ⟨hacc, tracer, data, hstep⟩
  · rw [hstep]
    exact romWrite_tracks h hadr hcmd
  · exact ⟨_, hstep, h.quiet hacc tracer data⟩

/-- Every history succeeds and ends in a state with `Tracks`. -/
theorem run_tracks (m₀ : Mbc1) (hinit : Tracks m₀ [] m₀) (ls : List Access) :
    ∃ m, ls.foldlM step m₀ = .ok m ∧ Tracks m₀ ls m :=
  History.run_total (fun _ => True) (Tracks m₀) hinit
    (fun _ _ acc _ h => step_tracks h acc) ls fun _ _ => trivial

/-! ## The external RAM -/

/-- The access writes byte `x` of `ext_ram` in state `m`: it is an enabled write through `bank`. -/
def WritesByte (bank : Fin 4) (m : Mbc1) (x : Fin (4 * 0x2000)) : Access → Prop
  | .rom .. => False
  | .ram t h _ => m.ramEnabled = true ∧ t.command = .write ∧
      x = BankSwitchedMem.cell bank ⟨t.address.toNat, h⟩

theorem Tracks.ramBank_eq {m₀ m : Mbc1} {ls : List Access} (h : Tracks m₀ ls m) :
    m.extRam.currentBankInd = ⟨Mbc1.ramBank ls, ramBank_lt ls⟩ := Fin.ext h.ramBank

theorem Tracks.romBank_eq {m₀ m : Mbc1} {ls : List Access} (h : Tracks m₀ ls m) :
    m.romHigh.currentBankInd = ⟨Mbc1.romBank ls - 1, romBank_lt ls⟩ := Fin.ext h.romBank

theorem romWrite_extRam {m m' : Mbc1} {adr : U16} {v : U8} (h : m.romWrite adr v = .ok m') :
    m'.extRam.data = m.extRam.data := by
  obtain ⟨-, hmem, -⟩ := setRegister_memories adr v m
  unfold romWrite at h
  obtain ⟨-, -, h⟩ := StateExcept.except_bind_eq_ok h
  obtain ⟨-, -, h⟩ := StateExcept.except_bind_eq_ok h
  obtain ⟨romHigh, -, h⟩ := StateExcept.except_bind_eq_ok h
  obtain ⟨extRam, hswitch, h⟩ := StateExcept.except_bind_eq_ok h
  cases h
  rw [← hmem]
  exact BankSwitchedMem.doBankSwitch_data hswitch

/-- A step changes at most the byte that the access writes. -/
theorem step_extRam {m m' : Mbc1} {acc : Access} (h : step m acc = .ok m')
    {x : Fin (4 * 0x2000)} (hx : ¬ WritesByte m.extRam.currentBankInd m x acc) :
    m'.extRam.data x = m.extRam.data x := by
  cases acc with
  | rom t hadr =>
    cases hcmd : t.command with
    | read =>
      obtain ⟨t', tracer, hread⟩ := m.tracedRomRead_ok hcmd hadr
      rw [m.step_rom_read hadr hcmd hread] at h
      cases h
      rfl
    | write =>
      rw [m.step_rom_write hadr hcmd] at h
      rw [romWrite_extRam h]
    | ignore =>
      rw [m.step_rom_ignore hadr hcmd] at h
      cases h
      rfl
  | ram t hadr time =>
    cases hen : m.ramEnabled with
    | false =>
      rw [step, m.bTransportRam_disabled hadr hen] at h
      cases h
      rfl
    | true =>
      rw [step, m.bTransportRam_enabled hadr hen] at h
      cases hcmd : t.command with
      | write =>
        rw [m.ramTransport_write hcmd ⟨_, hadr⟩ rfl] at h
        cases h
        exact Function.update_of_ne (fun he => hx ⟨hen, hcmd, he⟩) _ _
      | read =>
        rw [m.ramTransport_read hcmd ⟨_, hadr⟩ rfl] at h
        cases h
        rfl
      | ignore =>
        rw [m.ramTransport_ignore hcmd hadr] at h
        cases h
        rfl

/-- A run changes only bytes that one of its accesses writes, through the bank that the history
    up to that access selects. -/
theorem run_extRam {m₀ m m' : Mbc1} {ls ls' : List Access} (htr : Tracks m₀ ls m)
    (hrun : ls'.foldlM step m = .ok m') {x : Fin (4 * 0x2000)}
    (hfree : ∀ pre acc suf mid, ls' = pre ++ acc :: suf → pre.foldlM step m = .ok mid →
      ¬ WritesByte ⟨ramBank (ls ++ pre), ramBank_lt _⟩ mid x acc) :
    m'.extRam.data x = m.extRam.data x := by
  have hstep : ∀ (s : Mbc1) (acc : Access) (s' : Mbc1), step s acc = .ok s' →
      ¬ WritesByte s.extRam.currentBankInd s x acc → s'.extRam.data x = s.extRam.data x :=
    fun s acc s' h hx => step_extRam h hx
  refine History.run_frame _ _ hstep ls' m m' hrun ?_
  intro pre acc suf mid he hmid
  have hmidTr : Tracks m₀ (ls ++ pre) mid := by
    refine History.run_induction (fun pre mid => Tracks m₀ (ls ++ pre) mid) ?_ ?_ hmid
    · rwa [List.append_nil]
    · intro pre s l s' hs hstep
      obtain ⟨s'', hstep', hs''⟩ := step_tracks hs l
      cases hstep.symm.trans hstep'
      rwa [← List.append_assoc]
  rw [hmidTr.ramBank_eq]
  exact hfree pre acc suf mid he hmid

/-! ## Every history of accesses -/

/-- Every history succeeds. Afterwards the switched ROM window shows the bank that the history
    selects, an enabled RAM access reads or writes the byte of the selected RAM bank and no
    other, and a RAM byte keeps its value over every continuation that does not write it through
    its own bank. -/
theorem history_selects_windows (romLow : Fin 0x4000 → U8) (romHigh : Fin (128 * 0x4000) → U8)
    (extRam : Fin (4 * 0x2000) → U8) (symbolFile : Bool) (ls : List Access) :
    ∃ m, ls.foldlM step (init romLow romHigh extRam symbolFile) = .ok m ∧
      (∀ (a : Fin 0x4000) (t : Payload), t.command = .read → t.address.toNat = 0x4000 + a →
        ∃ t' m', m.bTransportRom t = .ok (t', m') ∧ t'.responseStatus = .ok ∧
          t'.data = romHigh (BankSwitchedMem.cell ⟨romBank ls - 1, romBank_lt ls⟩ a)) ∧
      (m.ramEnabled = true → ∀ (a : Fin 0x2000) (t : Payload), t.address.toNat = a →
        let x := BankSwitchedMem.cell ⟨ramBank ls, ramBank_lt ls⟩ a
        (t.command = .read → m.bTransportRam t =
          .ok ({ t with data := m.extRam.data x, responseStatus := .ok }, m)) ∧
        (t.command = .write → m.bTransportRam t = .ok ({ t with responseStatus := .ok },
          { m with extRam := { m.extRam with
            data := Function.update m.extRam.data x t.data } }))) ∧
      ∀ ls', ∃ m', ls'.foldlM step m = .ok m' ∧ ∀ x,
        (∀ pre acc suf mid, ls' = pre ++ acc :: suf → pre.foldlM step m = .ok mid →
          ¬ WritesByte ⟨ramBank (ls ++ pre), ramBank_lt _⟩ mid x acc) →
        m'.extRam.data x = m.extRam.data x := by
  have hinit := tracks_init romLow romHigh extRam symbolFile
  obtain ⟨m, hrun, htr⟩ := run_tracks _ hinit ls
  refine ⟨m, hrun, ?_, ?_, ?_⟩
  · intro a t hcmd hadr
    have ha := a.isLt
    obtain ⟨tracer, hread⟩ := m.tracedRomRead_high hcmd a hadr
    have hdata : m.romHigh.data (BankSwitchedMem.cell m.romHigh.currentBankInd a) =
        romHigh (BankSwitchedMem.cell ⟨romBank ls - 1, romBank_lt ls⟩ a) := by
      rw [htr.romBank_eq, htr.romHigh]
      rfl
    rw [← hdata, bTransportRom, cAssert_pos (by bv_omega), ok_bind]
    simp only [hcmd, hread]
    exact ⟨_, _, rfl, rfl, rfl⟩
  · intro hen a t hadr
    have ha := a.isLt
    have hlt : t.address < 0x2000 := by bv_omega
    refine ⟨fun hcmd => ?_, fun hcmd => ?_⟩
    · rw [m.bTransportRam_enabled hlt hen, m.ramTransport_read hcmd a hadr, htr.ramBank_eq]
      rfl
    · rw [m.bTransportRam_enabled hlt hen, m.ramTransport_write hcmd a hadr, htr.ramBank_eq]
      rfl
  · intro ls'
    obtain ⟨m', hrun', -⟩ := run_tracks _ hinit (ls ++ ls')
    rw [List.foldlM_append, hrun] at hrun'
    exact ⟨m', hrun', fun x hfree => run_extRam htr hrun' hfree⟩

end Mbc1

end TlmBoy
