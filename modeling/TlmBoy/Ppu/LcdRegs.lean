import TlmBoy.Bus.IoWrites
import TlmBoy.Ppu.RenderLoop

/-
  What LY and STAT show while `RenderLoop` and the guest take turns.

  `RenderLoop` counts its lines itself and increments LY next to that count. `IoRegisters`
  stores what the guest writes to LY, so the two agree as long as the guest writes nothing but
  the line number (`ly_on_line_iff`). The low three bits of STAT are protected: a guest's write
  keeps them, and `stat_shows` follows them through every interleaving.
-/

namespace TlmBoy

/-! ## The registers under the PPU's writes -/

namespace Gb

@[simp] theorem regLcdcY_setRegLcdcY (v : U8) (gb : Gb) : (gb.setRegLcdcY v).regLcdcY = v :=
  gb.setIoReg_data 0x34 0x34 v

@[simp] theorem regStat_setRegLcdcY (v : U8) (gb : Gb) :
    (gb.setRegLcdcY v).regStat = gb.regStat := gb.setIoReg_data 0x34 0x31 v

@[simp] theorem regLcdcY_setStatBit (val : Bool) (i : Nat) (gb : Gb) :
    (gb.setStatBit val i).regLcdcY = gb.regLcdcY := gb.setIoReg_data 0x31 0x34 _

@[simp] theorem regStat_setStatBit (val : Bool) (i : Nat) (gb : Gb) :
    (gb.setStatBit val i).regStat = setBit gb.regStat val i := gb.setIoReg_data 0x31 0x31 _

@[simp] theorem regLcdcY_raiseIntr (mask : U8) (gb : Gb) :
    (gb.raiseIntr mask).regLcdcY = gb.regLcdcY := rfl

@[simp] theorem regStat_raiseIntr (mask : U8) (gb : Gb) :
    (gb.raiseIntr mask).regStat = gb.regStat := rfl

@[simp] theorem regLcdcY_hBlankIntr (gb : Gb) : gb.hBlankIntr.regLcdcY = gb.regLcdcY := by
  unfold hBlankIntr
  split_ifs <;> rfl

@[simp] theorem regStat_hBlankIntr (gb : Gb) : gb.hBlankIntr.regStat = gb.regStat := by
  unfold hBlankIntr
  split_ifs <;> rfl

/-- The interrupt aside, `CheckLycInterrupt` sets bit 2 of STAT. -/
theorem checkLycInterrupt_ioRegisters (gb : Gb) :
    gb.checkLycInterrupt.ioRegisters = (gb.setStatBit gb.lyCoinc 2).ioRegisters := by
  unfold checkLycInterrupt
  dsimp only
  split_ifs <;> rfl

@[simp] theorem regLcdcY_checkLycInterrupt (gb : Gb) :
    gb.checkLycInterrupt.regLcdcY = gb.regLcdcY := by
  rw [regLcdcY, checkLycInterrupt_ioRegisters]
  exact gb.regLcdcY_setStatBit gb.lyCoinc 2

@[simp] theorem regStat_checkLycInterrupt (gb : Gb) :
    gb.checkLycInterrupt.regStat = setBit gb.regStat gb.lyCoinc 2 := by
  rw [regStat, checkLycInterrupt_ioRegisters]
  exact gb.regStat_setStatBit gb.lyCoinc 2

/-! ## The registers under other processes' transactions -/

/-- A write to 0xFF44 is stored like one to any other register. -/
theorem bTransport_regLcdcY {gb gb' : Gb} {t t' : Payload} (h : gb.bTransport t = .ok (t', gb')) :
    gb'.regLcdcY =
      if t.command = .write ∧ t.address = 0xFF44 then t.data else gb.regLcdcY := by
  rcases bTransport_ioRegisters h with ⟨hother, hdata⟩ | ⟨i, hcmd, hadr, hdata⟩
  · rw [regLcdcY, regLcdcY, hdata, if_neg]
    rintro ⟨hcmd, hadr⟩
    exact hother ⟨hcmd, by rw [hadr]; decide, by rw [hadr]; decide⟩
  · rw [regLcdcY, regLcdcY, hdata]
    by_cases hi : (0x34 : Fin 0x80) = i
    · subst hi
      rw [if_pos ⟨hcmd, hadr⟩, IoRegisters.writtenData_self (by decide) rfl]
    · have hne : t.address ≠ 0xFF44 := by
        intro h44
        have hlt := i.isLt
        have hval : i.val = 0x34 := by bv_omega
        exact hi (Fin.ext hval.symm)
      rw [if_neg fun hwrite => hne hwrite.2, IoRegisters.writtenData_of_ne (by decide) hi]

/-- The low three bits of STAT stay, whatever is written. -/
theorem bTransport_regStat {gb gb' : Gb} {t t' : Payload} (h : gb.bTransport t = .ok (t', gb'))
    {b : Nat} (hb : b < 3) : gb'.regStat.getLsbD b = gb.regStat.getLsbD b := by
  rcases bTransport_ioRegisters h with ⟨-, hdata⟩ | ⟨i, -, -, hdata⟩
  · rw [regStat, regStat, hdata]
  · rw [regStat, regStat, hdata]
    by_cases hi : (0x31 : Fin 0x80) = i
    · subst hi
      rw [IoRegisters.writtenData_self (by decide) (b := (t.data &&& 0x78) |||
        ((gb.ioRegisters.afterPowerOff 0x31 t.data).data 0x31 &&& 0x07)) rfl,
        IoRegisters.afterPowerOff_data (by decide)]
      have hlow : (0x78 : U8).getLsbD b = false ∧ (0x07 : U8).getLsbD b = true := by
        revert b
        decide
      rw [BitVec.getLsbD_or, BitVec.getLsbD_and, BitVec.getLsbD_and, hlow.1, hlow.2,
        Bool.and_false, Bool.and_true, Bool.false_or]
    · rw [IoRegisters.writtenData_of_ne (by decide) hi]

end Gb

/-! ## The steps of `RenderLoop` -/

namespace Phase

/-- The wait that follows. -/
def next : Phase → Phase
  | .start => .oamSearch 0
  | .oamSearch i => .transfer i
  | .transfer i => .hBlank i
  | .hBlank i => if h : i.val + 1 < 144 then .oamSearch ⟨i.val + 1, h⟩ else .vBlank 0
  | .vBlank j => if h : j.val + 1 < 10 then .vBlank ⟨j.val + 1, h⟩ else .oamSearch 0

/-- The number of the line that the PPU is on. -/
def line : Phase → Nat
  | .start => 0
  | .oamSearch i => i.val
  | .transfer i => i.val
  | .hBlank i => i.val + 1
  | .vBlank j => 144 + j.val

/-- The mode, after the first switch. -/
def mode : Phase → Option (BitVec 2)
  | .start => none
  | .oamSearch _ => some 2
  | .transfer _ => some 3
  | .hBlank _ => some 0
  | .vBlank _ => some 1

/-- LY after the wait, by what it was before. -/
def nextLy (ly : U8) : Phase → U8
  | .transfer _ => ly + 1
  | .vBlank j => if j.val + 1 < 10 then ly + 1 else 0
  | _ => ly

theorem line_le (p : Phase) : p.line ≤ 153 := by
  cases p with
  | start => exact Nat.zero_le _
  | oamSearch i | transfer i =>
    have := i.isLt
    simp only [line]
    omega
  | hBlank i =>
    have := i.isLt
    simp only [line]
    omega
  | vBlank j =>
    have := j.isLt
    simp only [line]
    omega

/-- LY stays next to the line count. -/
theorem nextLy_line {ly : U8} {p : Phase} (h : ly.toNat = p.line) :
    (nextLy ly p).toNat = p.next.line := by
  cases p with
  | start => exact h
  | oamSearch i => exact h
  | transfer i =>
    have hi := i.isLt
    simp only [line] at h
    simp only [nextLy, next, line]
    bv_omega
  | hBlank i =>
    simp only [line] at h
    simp only [nextLy, next]
    split_ifs with hi
    · exact h
    · have := i.isLt
      simp only [line, Fin.val_zero]
      omega
  | vBlank j =>
    simp only [line] at h
    simp only [nextLy, next]
    split_ifs with hj
    · simp only [line]
      bv_omega
    · rfl

end Phase

namespace Lcd

variable {palette : Ppu.Palette} {l l' : Lcd}

@[simp] theorem checkLyc_regLcdcY (l : Lcd) : l.checkLyc.gb.regLcdcY = l.gb.regLcdcY :=
  l.gb.regLcdcY_checkLycInterrupt

@[simp] theorem checkLyc_regStat (l : Lcd) :
    l.checkLyc.gb.regStat = setBit l.gb.regStat l.checkLyc.lyCoinc 2 :=
  l.gb.regStat_checkLycInterrupt

@[simp] theorem incLcdcY_regLcdcY (l : Lcd) : l.incLcdcY.gb.regLcdcY = l.gb.regLcdcY + 1 :=
  l.gb.regLcdcY_setRegLcdcY _

@[simp] theorem incLcdcY_regStat (l : Lcd) : l.incLcdcY.gb.regStat = l.gb.regStat :=
  l.gb.regStat_setRegLcdcY _

@[simp] theorem beginLine_regLcdcY (i : Fin 144) (l : Lcd) :
    (l.beginLine i).gb.regLcdcY = l.gb.regLcdcY := by simp [beginLine]

@[simp] theorem beginLine_regStat (i : Fin 144) (l : Lcd) :
    (l.beginLine i).gb.regStat = setBit (setBit l.gb.regStat false 0) true 1 := by
  simp [beginLine]

/-- A window does not touch the devices. -/
@[simp] theorem drawToScreen_gb (palette : Ppu.Palette) (l : Lcd) :
    (l.drawToScreen palette).gb = l.gb := by
  unfold drawToScreen
  cases l.window <;> rfl

@[simp] theorem drawToScreen_lyCoinc (palette : Ppu.Palette) (l : Lcd) :
    (l.drawToScreen palette).lyCoinc = l.lyCoinc := by
  unfold drawToScreen
  cases l.window <;> rfl

@[simp] theorem beginVBlank_regLcdcY (palette : Ppu.Palette) (l : Lcd) :
    (l.beginVBlank palette).gb.regLcdcY = l.gb.regLcdcY := by simp [beginVBlank]

@[simp] theorem beginVBlank_regStat (palette : Ppu.Palette) (l : Lcd) :
    (l.beginVBlank palette).gb.regStat = setBit l.gb.regStat true 0 := by simp [beginVBlank]

@[simp] theorem beginVBlank_lyCoinc (palette : Ppu.Palette) (l : Lcd) :
    (l.beginVBlank palette).lyCoinc = l.lyCoinc := by simp [beginVBlank]

/-- The line is drawn, LY is incremented and compared. -/
theorem endLine_regs {i : Fin 144} (h : l.endLine i = .ok l') : l'.phase = .hBlank i ∧
    l'.gb.regLcdcY = l.gb.regLcdcY + 1 ∧
    l'.gb.regStat = setBit (setBit (setBit l.gb.regStat false 0) false 1) l'.lyCoinc 2 := by
  obtain ⟨⟨⟨⟩, ppu⟩, -, h⟩ := StateExcept.except_bind_eq_ok h
  cases h
  exact ⟨rfl, by simp, by simp⟩

/-- Every step ends one wait and begins the next one, with LY next to it. -/
theorem resume_line (h : l.resume palette = .ok l') :
    l'.phase = l.phase.next ∧ l'.gb.regLcdcY = l.phase.nextLy l.gb.regLcdcY := by
  unfold resume at h
  cases hp : l.phase with
  | start =>
    rw [hp] at h
    cases h
    exact ⟨rfl, by simp [Phase.nextLy]⟩
  | oamSearch i =>
    rw [hp] at h
    cases h
    exact ⟨rfl, by simp [Phase.nextLy]⟩
  | transfer i =>
    rw [hp] at h
    obtain ⟨hphase, hly, -⟩ := endLine_regs h
    exact ⟨hphase, hly⟩
  | hBlank i =>
    rw [hp] at h
    cases h
    simp only [Phase.next, Phase.nextLy]
    split_ifs
    · exact ⟨rfl, by simp⟩
    · exact ⟨rfl, by simp⟩
  | vBlank j =>
    rw [hp] at h
    cases h
    simp only [Phase.next, Phase.nextLy]
    split_ifs
    · exact ⟨rfl, by simp⟩
    · exact ⟨rfl, by simp [endFrame]⟩

/-! ## LY -/

/-- LY is the number of the line that the PPU is on. -/
def OnLine (l : Lcd) : Prop := l.gb.regLcdcY.toNat = l.phase.line

/-- A write to LY is one of the line number. -/
def WritesLine (l : Lcd) (t : Payload) : Prop :=
  t.command = .write → t.address = 0xFF44 → t.data.toNat = l.phase.line

theorem access_eq_ok {t : Payload} (h : l.access t = .ok l') :
    ∃ t' gb, l.gb.bTransport t = .ok (t', gb) ∧ l' = { l with gb } := by
  obtain ⟨⟨t', gb⟩, hbus, he⟩ := StateExcept.map_eq_ok h
  exact ⟨t', gb, hbus, he.symm⟩

/-- A transaction leaves LY on the line exactly when it writes no other number to it. -/
theorem access_onLine_iff {t : Payload} (hl : l.OnLine) (h : l.access t = .ok l') :
    l'.OnLine ↔ l.WritesLine t := by
  obtain ⟨t', gb, hbus, rfl⟩ := access_eq_ok h
  unfold OnLine WritesLine
  rw [Gb.bTransport_regLcdcY hbus]
  split_ifs with hwrite
  · exact ⟨fun hdata _ _ => hdata, fun hdata => hdata hwrite.1 hwrite.2⟩
  · exact iff_of_true hl fun hcmd hadr => absurd ⟨hcmd, hadr⟩ hwrite

theorem step_onLine {e : LcdEvent} (hguard : ∀ t, e = .access t → l.WritesLine t)
    (h : l.step palette e = .ok l') (hl : l.OnLine) : l'.OnLine := by
  cases e with
  | resume =>
    obtain ⟨hphase, hly⟩ := resume_line h
    rw [OnLine, hphase, hly]
    exact Phase.nextLy_line hl
  | access t => exact (access_onLine_iff hl h).mpr (hguard t rfl)

/-- The bus carries out every write to LY. -/
theorem access_ly (l : Lcd) {t : Payload} (hcmd : t.command = .write) (hadr : t.address = 0xFF44) :
    ∃ l', l.access t = .ok l' := by
  have hs : findSlave 0xFF44 = some ⟨0xFF10, 0xFF7F, .ioRegisters⟩ := by decide
  have hhandled := (@Gb.writeHandled_iff l.gb _ _ hs (by decide) (by decide) (by decide)
    t.data).mpr fun h => absurd h.1 (by decide)
  obtain ⟨t', gb, hok, -⟩ := hhandled t hcmd hadr rfl
  refine ⟨{ l with gb }, ?_⟩
  rw [access, hok]
  rfl

/-- Over every interleaving of `RenderLoop` with transactions of other processes, from any state
    of the devices: LY is the number of the PPU's line at every wait, and so within 0..153,
    exactly when every write to 0xFF44 is one of the number that is there already. -/
theorem ly_on_line_iff (palette : Ppu.Palette) (gb : Gb) (windowLine : Int) (window : Window)
    (events : List LcdEvent) :
    (∀ pre suf l, events = pre ++ suf →
      pre.foldlM (step palette) (init gb windowLine window) = .ok l →
      l.OnLine ∧ l.gb.regLcdcY.toNat ≤ 153) ↔
    ∀ pre t suf l, events = pre ++ .access t :: suf →
      pre.foldlM (step palette) (init gb windowLine window) = .ok l → l.WritesLine t := by
  constructor
  · intro hline pre t suf l hevents hrun hcmd hadr
    obtain ⟨l', haccess⟩ := l.access_ly hcmd hadr
    have hl := (hline pre (.access t :: suf) l hevents hrun).1
    have hl' := (hline (pre ++ [.access t]) suf l' (by rw [hevents, List.append_cons]) (by
      rw [History.run_concat, hrun]
      exact haccess)).1
    exact (access_onLine_iff hl haccess).mp hl' hcmd hadr
  · intro hwrites pre suf l hevents hrun
    have hstart : (init gb windowLine window).OnLine := by
      rw [OnLine, init, Gb.regLcdcY_setRegLcdcY]
      rfl
    have hl : l.OnLine := by
      refine History.run_guarded (fun l e => ∀ t, e = .access t → l.WritesLine t)
        (fun _ _ _ hguard hstep => step_onLine hguard hstep) hrun ?_ hstart
      rintro pre' _ suf' m he hrun' t rfl
      exact hwrites pre' t (suf' ++ suf) m (by rw [hevents, he]; simp) hrun'
    refine ⟨hl, ?_⟩
    rw [hl]
    exact l.phase.line_le

/-- A game that writes 200 to LY moves it off line 0, and out of 0..153. -/
theorem ly_overwritten : ¬ ∀ (palette : Ppu.Palette) (gb : Gb) (windowLine : Int)
    (window : Window) (events : List LcdEvent) (l : Lcd),
    events.foldlM (step palette) (init gb windowLine window) = .ok l →
      l.OnLine ∧ l.gb.regLcdcY.toNat ≤ 153 := by
  intro h
  have hrun : [LcdEvent.access { command := .write, address := 0xFF44, data := 200 }].foldlM
      (step fun _ => ⟨0, 0, 0⟩) (init (Gb.powerOn .blank) 0 .game) = .ok _ := rfl
  have hrange := (h _ _ _ _ _ _ hrun).2
  revert hrange
  decide

/-! ## STAT -/

@[simp] theorem getElem_setBit (dat : U8) (val : Bool) (i j : Nat) (hj : j < 8) :
    (setBit dat val i)[j] = if j = i then val else dat[j] := getLsbD_setBit dat val i j hj

/-- The two low bits of STAT are the mode, and bit 2 is the last outcome of the comparison. -/
structure StatShows (l : Lcd) : Prop where
  mode : ∀ m, l.phase.mode = some m → ∀ b < 2, l.gb.regStat.getLsbD b = m.getLsbD b
  coincidence : l.gb.regStat.getLsbD 2 = l.lyCoinc

/-- Mode 2 is set bit by bit, whatever the mode was. -/
theorem statShows_beginLine (i : Fin 144) (h : l.gb.regStat.getLsbD 2 = l.lyCoinc) :
    (l.beginLine i).StatShows := by
  refine ⟨?_, ?_⟩
  · intro m hm b hb
    cases hm
    obtain rfl | rfl : b = 0 ∨ b = 1 := by omega
    · simp
    · simp
  · have hcoinc : (l.beginLine i).lyCoinc = l.lyCoinc := rfl
    rw [hcoinc, ← h]
    simp

/-- A comparison writes bit 2 and no other. -/
theorem checkLyc_getLsbD (l : Lcd) {b : Nat} (hb : b < 8) : l.checkLyc.gb.regStat.getLsbD b =
    if b = 2 then l.checkLyc.lyCoinc else l.gb.regStat.getLsbD b := by
  rw [checkLyc_regStat]
  exact getLsbD_setBit _ _ 2 b hb

theorem statShows_resume (h : l.resume palette = .ok l') (hl : l.StatShows) : l'.StatShows := by
  unfold resume at h
  cases hp : l.phase with
  | start =>
    rw [hp] at h
    cases h
    exact statShows_beginLine 0 hl.coincidence
  | oamSearch i =>
    rw [hp] at h
    cases h
    have hmode := hl.mode 2 (by rw [hp]; rfl)
    refine ⟨?_, ?_⟩
    · intro m hm b hb
      cases hm
      obtain rfl | rfl : b = 0 ∨ b = 1 := by omega
      · simp
      · simpa using hmode 1 (by decide)
    · simpa using hl.coincidence
  | transfer i =>
    rw [hp] at h
    obtain ⟨hphase, -, hstat⟩ := endLine_regs h
    refine ⟨?_, ?_⟩
    · intro m hm b hb
      rw [hphase] at hm
      cases hm
      rw [hstat]
      obtain rfl | rfl : b = 0 ∨ b = 1 := by omega
      · simp
      · simp
    · rw [hstat]
      simp
  | hBlank i =>
    rw [hp] at h
    cases h
    split_ifs
    · exact statShows_beginLine _ hl.coincidence
    · have hmode := hl.mode 0 (by rw [hp]; rfl)
      refine ⟨?_, ?_⟩
      · intro m hm b hb
        cases hm
        rw [beginVBlank_regStat]
        obtain rfl | rfl : b = 0 ∨ b = 1 := by omega
        · simp
        · simpa using hmode 1 (by decide)
      · rw [beginVBlank_regStat, beginVBlank_lyCoinc]
        simpa using hl.coincidence
  | vBlank j =>
    rw [hp] at h
    cases h
    have hmode := hl.mode 1 (by rw [hp]; rfl)
    split_ifs
    · refine ⟨?_, ?_⟩
      · intro m hm b hb
        cases hm
        show l.incLcdcY.checkLyc.gb.regStat.getLsbD b = _
        rw [checkLyc_getLsbD _ (by omega), if_neg (by omega), incLcdcY_regStat]
        exact hmode b hb
      · exact checkLyc_getLsbD l.incLcdcY (by decide)
    · exact statShows_beginLine 0 (checkLyc_getLsbD _ (by decide))

/-- Other processes cannot reach the three bits. -/
theorem statShows_access {t : Payload} (h : l.access t = .ok l') (hl : l.StatShows) :
    l'.StatShows := by
  obtain ⟨t', gb, hbus, rfl⟩ := access_eq_ok h
  refine ⟨?_, ?_⟩
  · intro m hm b hb
    rw [Gb.bTransport_regStat hbus (by omega)]
    exact hl.mode m hm b hb
  · rw [Gb.bTransport_regStat hbus (by decide)]
    exact hl.coincidence

/-- At every wait of every run from power-on: after the first switch the two low bits of STAT are
    the mode that the PPU is in, and bit 2 is what the last `CheckLycInterrupt` found. -/
theorem stat_shows (palette : Ppu.Palette) (cartridge : Cartridge) (serial : Serial)
    (timer : Timer) (windowLine : Int) (window : Window) (events : List LcdEvent) (l : Lcd)
    (hrun : events.foldlM (step palette)
      (init (Gb.init cartridge serial timer) windowLine window) = .ok l) :
    (∀ m, l.phase.mode = some m → l.gb.regStat.setWidth 2 = m) ∧
      isBitSet l.gb.regStat 2 = l.lyCoinc := by
  have hstart : (init (Gb.init cartridge serial timer) windowLine window).StatShows := by
    have hnone : (init (Gb.init cartridge serial timer) windowLine window).phase.mode = none := rfl
    refine ⟨fun m hm => absurd (hnone.symm.trans hm) (by simp), ?_⟩
    have hzero : (Gb.init cartridge serial timer).regStat = 0 := rfl
    rw [init, Gb.regStat_setRegLcdcY, hzero]
    rfl
  have hl : l.StatShows := by
    refine History.run_induction (fun _ => StatShows) hstart ?_ hrun
    intro _ m e m' hm hstep
    cases e with
    | resume => exact statShows_resume hstep hm
    | access t => exact statShows_access hstep hm
  refine ⟨fun m hm => ?_, ?_⟩
  · refine BitVec.eq_of_getLsbD_eq fun b hb => ?_
    rw [BitVec.getLsbD_setWidth, decide_eq_true hb, Bool.true_and]
    exact hl.mode m hm b hb
  · rw [isBitSet_eq_getLsbD _ 2 (by decide)]
    exact hl.coincidence

/-- A guest that clears STAT in the OAM search of the first line leaves mode 2 there. -/
theorem mode_2_after_write : ∃ l : Lcd,
    [LcdEvent.resume, .access { command := .write, address := 0xFF41, data := 0 }].foldlM
      (step fun _ => ⟨0, 0, 0⟩) (init (Gb.powerOn .blank) 0 .game) = .ok l ∧
    l.gb.regStat.setWidth 2 = 2#2 := by
  have hrun : [LcdEvent.resume, .access
      { command := .write, address := 0xFF41, data := 0 }].foldlM
      (step fun _ => ⟨0, 0, 0⟩) (init (Gb.powerOn .blank) 0 .game) = .ok _ := rfl
  exact ⟨_, hrun, (stat_shows _ _ _ _ _ _ _ _ hrun).1 2 rfl⟩

end Lcd

end TlmBoy
