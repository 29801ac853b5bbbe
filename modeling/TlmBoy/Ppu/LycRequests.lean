import TlmBoy.Ppu.LcdRegs

/-
  How often a frame requests the LY = LYC interrupt.

  `Lcd` counts the calls of `CheckLycInterrupt` that set the bit of IF. The calls come after each of
  the 154 increments of LY in a frame, and once more after LY is set to 0 (`resume_lycRequests`).
  The last increment makes LY 154 before the wrap, so each of 1..154 and 0 is compared once: a game
  that compares with 154 is interrupted once a frame, with a number that is no line's
  (`lyc_once_iff`).
-/

namespace TlmBoy

/-! ## The comparison -/

namespace Gb

theorem checkLycInterrupt_regIf (gb : Gb) : gb.checkLycInterrupt.regIf.data 0 =
    if (gb.regStat &&& 0b01000000) != 0 && gb.lyCoinc then
      gb.regIf.data 0 ||| Ppu.kMaskLcdcStatIf
    else gb.regIf.data 0 := by
  unfold checkLycInterrupt
  dsimp only
  split_ifs <;> rfl

/-- The bit of IF is set where STAT enables it and LY is LYC. -/
theorem requestsLyc_iff (gb : Gb) :
    gb.requestsLyc = ((gb.regStat &&& 0b01000000) != 0 && gb.lyCoinc) := by
  have hset : ∀ v : U8, ((v ||| Ppu.kMaskLcdcStatIf) &&& Ppu.kMaskLcdcStatIf) != 0 := by
    decide +kernel
  have hclear : ∀ v : U8, (v &&& ~~~Ppu.kMaskLcdcStatIf &&& Ppu.kMaskLcdcStatIf) = 0 := by
    decide +kernel
  unfold requestsLyc
  dsimp only
  rw [checkLycInterrupt_regIf]
  change ((if ((gb.regStat &&& 0b01000000) != 0 && gb.lyCoinc) = true then
    (gb.regIf.data 0 &&& ~~~Ppu.kMaskLcdcStatIf) ||| Ppu.kMaskLcdcStatIf
    else gb.regIf.data 0 &&& ~~~Ppu.kMaskLcdcStatIf) &&& Ppu.kMaskLcdcStatIf != 0) = _
  cases (gb.regStat &&& 0b01000000) != 0 && gb.lyCoinc with
  | true =>
    rw [if_pos rfl]
    exact hset _
  | false =>
    rw [if_neg Bool.false_ne_true, hclear]
    rfl

/-- What the comparison is set up with: LYC, and the enable bit of STAT. -/
def lycSetup (gb : Gb) : U8 × Bool := (gb.regLyComp, gb.regStat.getLsbD 6)

@[simp] theorem lycSetup_setRegLcdcY (v : U8) (gb : Gb) :
    (gb.setRegLcdcY v).lycSetup = gb.lycSetup := by
  unfold lycSetup
  rw [regStat_setRegLcdcY]
  exact Prod.ext (gb.setIoReg_data 0x34 0x35 v) rfl

@[simp] theorem lycSetup_setStatBit {i : Nat} (hi : i ≠ 6) (val : Bool) (gb : Gb) :
    (gb.setStatBit val i).lycSetup = gb.lycSetup := by
  unfold lycSetup
  rw [regStat_setStatBit, getLsbD_setBit _ _ _ _ (by decide), if_neg hi.symm]
  exact Prod.ext (gb.setIoReg_data 0x31 0x35 (setBit gb.regStat val i)) rfl

@[simp] theorem lycSetup_raiseIntr (mask : U8) (gb : Gb) :
    (gb.raiseIntr mask).lycSetup = gb.lycSetup := rfl

@[simp] theorem lycSetup_hBlankIntr (gb : Gb) : gb.hBlankIntr.lycSetup = gb.lycSetup := by
  unfold hBlankIntr
  split_ifs <;> rfl

@[simp] theorem lycSetup_checkLycInterrupt (gb : Gb) :
    gb.checkLycInterrupt.lycSetup = gb.lycSetup := by
  unfold checkLycInterrupt
  dsimp only
  rw [lycSetup_setStatBit (by decide)]
  split_ifs <;> rfl

/-- With the interrupt enabled, LY is compared with LYC. -/
theorem requestsLyc_eq {gb : Gb} {v : U8} (h : gb.lycSetup = (v, true)) :
    gb.requestsLyc = decide (gb.regLcdcY = v) := by
  have henable : ∀ stat : U8, stat.getLsbD 6 = true → ((stat &&& 0b01000000) != 0) = true := by
    decide +kernel
  have hcomp : gb.regLyComp = v := congrArg Prod.fst h
  rw [requestsLyc_iff, henable _ (congrArg Prod.snd h), lyCoinc, hcomp, Bool.true_and,
    beq_eq_decide]
  exact decide_eq_decide.mpr eq_comm

end Gb

namespace Lcd

variable {palette : Ppu.Palette} {l l' : Lcd}

/-- The states in which `resume` calls `CheckLycInterrupt`. -/
def lycChecks (l : Lcd) : List Gb :=
  match l.phase with
  | .transfer _ =>
    let gb := (l.gb.setStatBit false 0).setStatBit false 1
    [(gb.setRegLcdcY (gb.regLcdcY + 1)).hBlankIntr]
  | .vBlank j =>
    let gb := l.gb.setRegLcdcY (l.gb.regLcdcY + 1)
    gb :: if j.val + 1 < 10 then [] else [gb.checkLycInterrupt.setRegLcdcY 0]
  | _ => []

theorem beginVBlank_lycRequests (palette : Ppu.Palette) (l : Lcd) :
    (l.beginVBlank palette).lycRequests = l.lycRequests := by
  unfold beginVBlank drawToScreen
  cases l.window <;> rfl

theorem resume_lycRequests (h : l.resume palette = .ok l') :
    l'.lycRequests = l.lycRequests + l.lycChecks.countP Gb.requestsLyc := by
  unfold resume at h
  unfold lycChecks
  cases hp : l.phase with
  | start | oamSearch i =>
    rw [hp] at h
    cases h
    rfl
  | transfer i =>
    rw [hp] at h
    obtain ⟨⟨⟨⟩, ppu⟩, -, hend⟩ := StateExcept.except_bind_eq_ok h
    cases hend
    rw [List.countP_singleton]
    rfl
  | hBlank i =>
    rw [hp] at h
    cases h
    split_ifs
    · rfl
    · exact beginVBlank_lycRequests palette l
  | vBlank j =>
    rw [hp] at h
    cases h
    dsimp only
    split_ifs
    · rw [List.countP_singleton]
      rfl
    · rw [List.countP_cons, List.countP_singleton, Nat.add_comm (ite _ 1 0), ← Nat.add_assoc]
      rfl

theorem resume_lycSetup (h : l.resume palette = .ok l') : l'.gb.lycSetup = l.gb.lycSetup := by
  unfold resume at h
  cases hp : l.phase with
  | start =>
    rw [hp] at h
    cases h
    simp [beginLine]
  | oamSearch i =>
    rw [hp] at h
    cases h
    simp
  | transfer i =>
    rw [hp] at h
    obtain ⟨⟨⟨⟩, ppu⟩, -, hend⟩ := StateExcept.except_bind_eq_ok h
    cases hend
    simp [checkLyc, incLcdcY]
  | hBlank i =>
    rw [hp] at h
    cases h
    split_ifs
    · simp [beginLine]
    · simp [beginVBlank]
  | vBlank j =>
    rw [hp] at h
    cases h
    split_ifs
    · simp [checkLyc, incLcdcY]
    · simp [endFrame, beginLine, checkLyc, incLcdcY]

end Lcd

/-! ## Frames -/

/-- A run, with the requests before the frame and those of each full frame before it. -/
structure LycLog where
  lcd : Lcd
  before : Nat := 0
  frames : List Nat := []

namespace LycLog

def step (palette : Ppu.Palette) (s : LycLog) (e : LcdEvent) : Except Fault LycLog := do
  let lcd ← s.lcd.step palette e
  if e = .resume ∧ s.lcd.phase = .vBlank 9 then
    return { lcd, before := lcd.lycRequests, frames := s.frames ++ [lcd.lycRequests - s.before] }
  else
    return { s with lcd }

def init (gb : Gb) (windowLine : Int) (window : Window) : LycLog :=
  { lcd := .init gb windowLine window }

/-- A transaction that writes neither LY nor STAT, and nothing but `v` to LYC. -/
def Quiet (v : U8) (t : Payload) : Prop :=
  t.command = .write → t.address ≠ 0xFF44 ∧ t.address ≠ 0xFF41 ∧
    (t.address = 0xFF45 → t.data = v)

variable {palette : Ppu.Palette} {v : U8}

theorem access_quiet {t : Payload} {l l' : Lcd} (hquiet : Quiet v t)
    (hsetup : l.gb.lycSetup = (v, true)) (h : l.access t = .ok l') :
    l'.gb.lycSetup = (v, true) := by
  obtain ⟨t', gb, hbus, rfl⟩ := Lcd.access_eq_ok h
  have hcomp : l.gb.regLyComp = v := congrArg Prod.fst hsetup
  rcases Gb.bTransport_ioRegisters hbus with ⟨-, hdata⟩ | ⟨i, hcmd, hadr, hdata⟩
  · rw [← hsetup]
    unfold Gb.lycSetup Gb.regLyComp Gb.regStat
    rw [hdata]
  · obtain ⟨-, hstat, hlyc⟩ := hquiet hcmd
    have hi := i.isLt
    have hne : (0x31 : Fin 0x80) ≠ i := by
      rintro rfl
      exact hstat hadr
    refine Prod.ext ?_ ?_
    · show gb.ioRegisters.data 0x35 = v
      rw [hdata]
      by_cases hi : (0x35 : Fin 0x80) = i
      · subst hi
        rw [IoRegisters.writtenData_self (by decide) rfl]
        exact hlyc hadr
      · rw [IoRegisters.writtenData_of_ne (by decide) hi]
        exact hcomp
    · show (gb.ioRegisters.data 0x31).getLsbD 6 = true
      rw [hdata, IoRegisters.writtenData_of_ne (by decide) hne]
      exact congrArg Prod.snd hsetup

/-! ## One wait -/

/-- How often the numbers from 1 up to `line` are `v`. -/
def upTo (v : U8) (line : Nat) : Nat := if 1 ≤ v.toNat ∧ v.toNat ≤ line then 1 else 0

theorem upTo_succ (v : U8) (line : Nat) :
    upTo v (line + 1) = upTo v line + if v.toNat = line + 1 then 1 else 0 := by
  unfold upTo
  split_ifs <;> omega

theorem upTo_zero (v : U8) : upTo v 0 = 0 :=
  if_neg fun hbound => absurd (hbound.1.trans hbound.2) (by decide)

/-- How often a state compares equal. -/
theorem countP_check {gb : Gb} (hsetup : gb.lycSetup = (v, true)) :
    [gb].countP Gb.requestsLyc = if v.toNat = gb.regLcdcY.toNat then 1 else 0 := by
  rw [List.countP_singleton, Gb.requestsLyc_eq hsetup]
  by_cases heq : gb.regLcdcY = v
  · rw [if_pos (decide_eq_true heq), if_pos (congrArg BitVec.toNat heq).symm]
  · rw [if_neg (by simpa using heq), if_neg fun h => heq (BitVec.eq_of_toNat_eq h.symm)]

/-- The setup is in force, LY is the line's number, and every line so far has been compared once. -/
structure Compared (v : U8) (s : LycLog) : Prop where
  setup : s.lcd.gb.lycSetup = (v, true)
  onLine : s.lcd.OnLine
  requests : s.lcd.lycRequests = s.before + upTo v s.lcd.phase.line
  frames : ∀ n ∈ s.frames, n = if v.toNat ≤ 154 then 1 else 0

/-- The comparisons of a wait within the frame. -/
theorem countP_lycChecks {s : LycLog} (h : s.Compared v) (hlast : s.lcd.phase ≠ .vBlank 9) :
    upTo v s.lcd.phase.line + s.lcd.lycChecks.countP Gb.requestsLyc =
      upTo v s.lcd.phase.next.line := by
  have hsetup := h.setup
  have hly := h.onLine
  unfold Lcd.OnLine at hly
  unfold Lcd.lycChecks
  cases hp : s.lcd.phase with
  | start => rfl
  | oamSearch i => rfl
  | transfer i =>
    rw [hp] at hly
    have hnext : (s.lcd.gb.regLcdcY + 1).toNat = i.val + 1 :=
      Phase.nextLy_line (p := .transfer i) hly
    dsimp only
    rw [countP_check (by simpa using hsetup)]
    simp only [Gb.regLcdcY_hBlankIntr, Gb.regLcdcY_setRegLcdcY, Gb.regLcdcY_setStatBit, hnext]
    exact (upTo_succ v i.val).symm
  | hBlank i =>
    have hi := i.isLt
    have hline : (Phase.hBlank i).next.line = i.val + 1 := by
      unfold Phase.next
      dsimp only
      split_ifs
      · rfl
      · change 144 + 0 = i.val + 1
        omega
    rw [hline]
    rfl
  | vBlank j =>
    rw [hp] at hly hlast
    have hj : j.val + 1 < 10 := by
      have := j.isLt
      have hne : j.val ≠ 9 := fun h => hlast (congrArg Phase.vBlank (Fin.ext h))
      omega
    have hline : (Phase.vBlank j).next.line = 144 + j.val + 1 := by
      unfold Phase.next
      dsimp only
      rw [dif_pos hj]
      rfl
    have hnext : (s.lcd.gb.regLcdcY + 1).toNat = 144 + j.val + 1 := by
      have hnextLy := Phase.nextLy_line hly
      rw [hline] at hnextLy
      unfold Phase.nextLy at hnextLy
      dsimp only at hnextLy
      rwa [if_pos hj] at hnextLy
    dsimp only
    rw [if_pos hj, countP_check (by simpa using hsetup), Gb.regLcdcY_setRegLcdcY, hnext, hline]
    exact (upTo_succ v (144 + j.val)).symm

/-- The comparisons of the last wait, with 154 and with 0. -/
theorem countP_lycChecks_last {s : LycLog} (h : s.Compared v) (hlast : s.lcd.phase = .vBlank 9) :
    upTo v s.lcd.phase.line + s.lcd.lycChecks.countP Gb.requestsLyc =
      if v.toNat ≤ 154 then 1 else 0 := by
  have hsetup := h.setup
  have hly := h.onLine
  unfold Lcd.OnLine at hly
  rw [hlast] at hly
  have hnext : (s.lcd.gb.regLcdcY + 1).toNat = 154 := by
    rw [BitVec.toNat_add, hly]
    rfl
  unfold Lcd.lycChecks
  rw [hlast]
  dsimp only
  rw [if_neg (by decide), List.countP_cons, countP_check (by simpa using hsetup)]
  have hfirst := @countP_check v (s.lcd.gb.setRegLcdcY (s.lcd.gb.regLcdcY + 1))
    (by simpa using hsetup)
  rw [List.countP_singleton] at hfirst
  rw [hfirst, Gb.regLcdcY_setRegLcdcY, Gb.regLcdcY_setRegLcdcY, hnext]
  change upTo v 153 + ((if v.toNat = 0 then 1 else 0) + if v.toNat = 154 then 1 else 0) = _
  unfold upTo
  split_ifs <;> omega

/-! ## Runs -/

theorem Compared.resume {s : LycLog} (h : s.Compared v) {lcd : Lcd}
    (hstep : s.lcd.resume palette = .ok lcd) :
    Compared v (if s.lcd.phase = .vBlank 9 then
        { lcd, before := lcd.lycRequests, frames := s.frames ++ [lcd.lycRequests - s.before] }
      else { s with lcd }) := by
  have hsetup := (Lcd.resume_lycSetup hstep).trans h.setup
  have hphase := (Lcd.resume_line hstep).1
  have hrequests := Lcd.resume_lycRequests hstep
  rw [h.requests, Nat.add_assoc] at hrequests
  have honLine : lcd.OnLine :=
    Lcd.step_onLine (e := .resume) (fun t ht => LcdEvent.noConfusion ht) hstep h.onLine
  by_cases hlast : s.lcd.phase = .vBlank 9
  · rw [if_pos hlast]
    rw [countP_lycChecks_last h hlast] at hrequests
    refine ⟨hsetup, honLine, ?_, fun n hn => ?_⟩
    · dsimp only
      rw [hphase, hlast]
      exact (congrArg (lcd.lycRequests + ·) (upTo_zero v)).symm
    · rcases List.mem_append.mp hn with hn | hn
      · exact h.frames n hn
      · rw [List.mem_singleton.mp hn, hrequests, Nat.add_sub_cancel_left]
  · rw [if_neg hlast]
    rw [countP_lycChecks h hlast, ← hphase] at hrequests
    exact ⟨hsetup, honLine, hrequests, h.frames⟩

theorem Compared.access {s : LycLog} (h : s.Compared v) {t : Payload} (hquiet : Quiet v t)
    {lcd : Lcd} (hstep : s.lcd.access t = .ok lcd) : Compared v { s with lcd } := by
  have hsetup := access_quiet hquiet h.setup hstep
  have honLine := (Lcd.access_onLine_iff h.onLine hstep).mpr fun hcmd hadr =>
    absurd hadr (hquiet hcmd).1
  obtain ⟨t', gb, -, rfl⟩ := Lcd.access_eq_ok hstep
  exact ⟨hsetup, honLine, h.requests, h.frames⟩

theorem Compared.step {s s' : LycLog} {e : LcdEvent} (h : s.Compared v)
    (hquiet : ∀ t, e = .access t → Quiet v t) (hstep : s.step palette e = .ok s') :
    s'.Compared v := by
  obtain ⟨lcd, hlcd, hrest⟩ := StateExcept.except_bind_eq_ok hstep
  cases e with
  | access t =>
    rw [if_neg fun hend => LcdEvent.noConfusion hend.1] at hrest
    cases hrest
    exact h.access (hquiet t rfl) hlcd
  | resume =>
    have hresume := h.resume hlcd
    by_cases hlast : s.lcd.phase = .vBlank 9
    · rw [if_pos ⟨rfl, hlast⟩] at hrest
      rw [if_pos hlast] at hresume
      cases hrest
      exact hresume
    · rw [if_neg fun hend => hlast hend.2] at hrest
      rw [if_neg hlast] at hresume
      cases hrest
      exact hresume

/-- Over every run with LYC at `v`, the comparison enabled, and LY and STAT left alone by the other
    processes: each full frame requests the interrupt once for a `v` in 0..153 and never for any
    other, exactly when no frame has ended yet or `v` is not 154. -/
theorem lyc_once_iff {gb : Gb} (hcomp : gb.regLyComp = v) (henable : gb.regStat.getLsbD 6 = true)
    {windowLine : Int} {window : Window} {events : List LcdEvent}
    (hquiet : ∀ t, .access t ∈ events → Quiet v t) {s : LycLog}
    (hrun : events.foldlM (step palette) (init gb windowLine window) = .ok s) :
    (∀ n ∈ s.frames, n = if v.toNat ≤ 153 then 1 else 0) ↔ s.frames = [] ∨ v ≠ 154 := by
  have hinit : (init gb windowLine window).Compared v := by
    refine ⟨?_, ?_, ?_, fun n hn => absurd hn List.not_mem_nil⟩
    · change (gb.setRegLcdcY 0).lycSetup = _
      rw [Gb.lycSetup_setRegLcdcY]
      exact Prod.ext hcomp henable
    · unfold Lcd.OnLine
      change (gb.setRegLcdcY 0).regLcdcY.toNat = _
      rw [Gb.regLcdcY_setRegLcdcY]
      rfl
    · exact (congrArg (0 + ·) (upTo_zero v)).symm
  have hcompared : s.Compared v := by
    refine History.run_guarded (fun _ e => ∀ t, e = .access t → Quiet v t)
      (fun _ _ _ hquiet hstep h => h.step hquiet hstep) hrun ?_ hinit
    rintro pre _ suf m he - t rfl
    exact hquiet t (by rw [he]; exact List.mem_append_right _ List.mem_cons_self)
  constructor
  · intro honce
    by_contra hbad
    obtain ⟨hframes, hv⟩ := not_or.mp hbad
    obtain ⟨n, hn⟩ := List.exists_mem_of_ne_nil s.frames hframes
    have hv' : v.toNat = 154 := by rw [not_not.mp hv]; rfl
    have hsource := hcompared.frames n hn
    have hexpected := honce n hn
    rw [if_pos (by omega)] at hsource
    rw [if_neg (by omega)] at hexpected
    omega
  · rintro (hframes | hv) n hn
    · rw [hframes] at hn
      exact absurd hn List.not_mem_nil
    · have hne : v.toNat ≠ 154 := fun h => hv (BitVec.eq_of_toNat_eq h)
      rw [hcompared.frames n hn]
      split_ifs <;> omega

/-- The devices at power on, with LYC at `v` and the comparison enabled. -/
def comparing (v : U8) : Gb := ((Gb.powerOn .blank).setIoReg 0x35 v).setIoReg 0x31 0x40

/-- The first line and a whole frame, in which the guest reads LY. -/
def oneFrame : List LcdEvent :=
  .access { command := .read, address := 0xFF44 } :: List.replicate 443 .resume

theorem quiet_oneFrame (v : U8) : ∀ t, .access t ∈ oneFrame → Quiet v t := by
  intro t ht hcmd
  rcases List.mem_cons.mp ht with ht | ht
  · cases ht
    exact absurd hcmd (by decide)
  · exact LcdEvent.noConfusion (List.eq_of_mem_replicate ht)

theorem line_100_once : ∃ s,
    ((comparing 100).regLyComp = 100 ∧ (comparing 100).regStat.getLsbD 6 = true ∧
      ∀ t, .access t ∈ oneFrame → Quiet 100 t) ∧
    oneFrame.foldlM (step fun _ => ⟨0, 0, 0⟩) (init (comparing 100) 0 .dummy) = .ok s ∧
    s.frames ≠ [] ∧ ∀ n ∈ s.frames, n = 1 := by
  have hframe : (oneFrame.foldlM (step fun _ => ⟨0, 0, 0⟩)
      (init (comparing 100) 0 .dummy)).map (fun s => s.frames.isEmpty) = .ok false := by
    decide +kernel
  obtain ⟨s, hrun, hframes⟩ := StateExcept.map_eq_ok hframe
  have honce := (lyc_once_iff (v := 100) (by decide) (by decide) (quiet_oneFrame 100) hrun).mpr
    (.inr (by decide))
  refine ⟨s, ⟨by decide, by decide, quiet_oneFrame 100⟩, hrun, fun hnil => ?_, honce⟩
  rw [hnil] at hframes
  exact absurd hframes (by decide)

/-- A game that compares with 154 is interrupted once a frame. -/
theorem line_154_requested : ¬ ∀ (palette : Ppu.Palette) (v : U8) (gb : Gb) (windowLine : Int)
    (window : Window) (events : List LcdEvent) (s : LycLog), gb.regLyComp = v →
      gb.regStat.getLsbD 6 = true → (∀ t, .access t ∈ events → Quiet v t) →
      events.foldlM (step palette) (init gb windowLine window) = .ok s →
      ∀ n ∈ s.frames, n = if v.toNat ≤ 153 then 1 else 0 := by
  intro h
  have hframe : (oneFrame.foldlM (step fun _ => ⟨0, 0, 0⟩)
      (init (comparing 154) 0 .dummy)).map (fun s => s.frames) = .ok [1] := by
    decide +kernel
  obtain ⟨s, hrun, hframes⟩ := StateExcept.map_eq_ok hframe
  have hnever := h _ 154 _ 0 .dummy oneFrame s (by decide) (by decide) (quiet_oneFrame 154) hrun 1
    (by rw [hframes]; exact List.mem_singleton_self 1)
  exact absurd hnever (by decide)

end LycLog

end TlmBoy
