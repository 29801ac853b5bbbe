import TlmBoy.Board.Processes

/-
  The mode of the PPU as a function of time.

  `RenderLoop` starts 1 ns late and then takes 154 lines of 456 clock cycles for a frame. Its
  waits are fixed, and nothing that the other processes do reaches its phase or the three low bits
  of STAT (`KeepsMode`), so the time alone says what STAT shows (`mode_at_time`).
-/

namespace TlmBoy

open EventKernel (Simulation Course WaitsAt)

/-! ## A frame -/

/-- The clock cycles of a frame. -/
def kFrameCycles : Nat := 154 * 456

namespace Phase

/-- The cycle of its frame in which a phase begins. -/
def cycle : Phase → Nat
  | .start => 0
  | .oamSearch i => 456 * i.val
  | .transfer i => 456 * i.val + 80
  | .hBlank i => 456 * i.val + 248
  | .vBlank j => 456 * (144 + j.val)

/-- The cycles that a phase takes. -/
def cycles : Phase → Nat
  | .start => 0
  | .oamSearch _ => 80
  | .transfer _ => 168
  | .hBlank _ => 208
  | .vBlank _ => 456

/-- The phase in a clock cycle since the PPU's start. -/
def ofCycle (c : Nat) : Phase :=
  let line := c % kFrameCycles / 456
  let dot := c % kFrameCycles % 456
  if h : line < 144 then
    if dot < 80 then .oamSearch ⟨line, h⟩
    else if dot < 248 then .transfer ⟨line, h⟩
    else .hBlank ⟨line, h⟩
  else .vBlank ⟨line - 144, by
    have hline : line < 154 := Nat.div_lt_of_lt_mul (Nat.mod_lt c (by decide))
    omega⟩

/-- A phase begins with the cycle. -/
def BeginsWith (c : Nat) : Prop := (ofCycle c).cycle = c % kFrameCycles

instance (c : Nat) : Decidable (BeginsWith c) := inferInstanceAs (Decidable (_ = _))

example : ofCycle (3 * kFrameCycles + 456 + 100) = .transfer 1 := by decide

theorem wait_eq {p : Phase} (hp : p ≠ .start) : p.wait = p.cycles * GbConst.kNsPerClkCycle := by
  cases p with
  | start => exact absurd rfl hp
  | _ => rfl

theorem cycle_add_cycles_le (p : Phase) : p.cycle + p.cycles ≤ kFrameCycles := by
  have hframe : kFrameCycles = 70224 := rfl
  cases p with
  | start => exact Nat.zero_le _
  | oamSearch i | transfer i | hBlank i | vBlank i =>
    have hi := i.isLt
    simp only [cycle, cycles]
    omega

/-- The cycles of a phase are in that phase. -/
theorem ofCycle_eq {p : Phase} {f c : Nat} (hbegin : f * kFrameCycles + p.cycle ≤ c)
    (hend : c < f * kFrameCycles + p.cycle + p.cycles) : ofCycle c = p := by
  have hle := p.cycle_add_cycles_le
  have hmod : c % kFrameCycles = c - f * kFrameCycles := by
    have hframes : kFrameCycles * f ≤ c := by
      rw [Nat.mul_comm]
      omega
    rw [← Nat.sub_mul_mod hframes, Nat.mul_comm]
    exact Nat.mod_eq_of_lt (by omega)
  have hlow : p.cycle ≤ c % kFrameCycles := by omega
  have hhigh : c % kFrameCycles < p.cycle + p.cycles := by omega
  clear hmod hbegin hend hle
  unfold ofCycle
  cases p with
  | start => exact absurd hhigh (by simp only [cycle, cycles]; omega)
  | oamSearch i =>
    have hi := i.isLt
    simp only [cycle, cycles] at hlow hhigh
    have hline : c % kFrameCycles / 456 = i.val := by omega
    have hdot : c % kFrameCycles % 456 < 80 := by omega
    simp [hline, hdot]
  | transfer i =>
    have hi := i.isLt
    simp only [cycle, cycles] at hlow hhigh
    have hline : c % kFrameCycles / 456 = i.val := by omega
    have hdot : ¬ c % kFrameCycles % 456 < 80 ∧ c % kFrameCycles % 456 < 248 := by omega
    simp [hline, hdot]
  | hBlank i =>
    have hi := i.isLt
    simp only [cycle, cycles] at hlow hhigh
    have hline : c % kFrameCycles / 456 = i.val := by omega
    have hdot : ¬ c % kFrameCycles % 456 < 80 ∧ ¬ c % kFrameCycles % 456 < 248 := by omega
    simp [hline, hdot]
  | vBlank j =>
    have hj := j.isLt
    simp only [cycle, cycles] at hlow hhigh
    have hline : c % kFrameCycles / 456 = 144 + j.val := by omega
    simp [hline]

/-- The frames that are over, and the phase that the PPU is in. -/
abbrev Place := Nat × Phase

def Place.next (x : Place) : Place := (if x.2 = .vBlank 9 then x.1 + 1 else x.1, x.2.next)

/-- The clock cycle in which the PPU arrives, after its start. -/
def Place.cycle (x : Place) : Nat := x.1 * kFrameCycles + x.2.cycle

/-- The time at which the PPU arrives, in nanoseconds. -/
def Place.since (x : Place) : Nat :=
  (if x.2 = .start then 0 else 1) + x.cycle * GbConst.kNsPerClkCycle

theorem Place.next_cycle (x : Place) : x.next.cycle = x.cycle + x.2.cycles := by
  obtain ⟨f, p⟩ := x
  have hframe : kFrameCycles = 70224 := rfl
  unfold Place.cycle Place.next
  cases p with
  | start => simp [Phase.next, Phase.cycle, Phase.cycles]
  | oamSearch i => simp [Phase.next, Phase.cycle, Phase.cycles]; omega
  | transfer i => simp [Phase.next, Phase.cycle, Phase.cycles]; omega
  | hBlank i =>
    by_cases hi : i.val + 1 < 144
    · simp [Phase.next, Phase.cycle, Phase.cycles, hi]
      omega
    · have := i.isLt
      simp [Phase.next, Phase.cycle, Phase.cycles, hi]
      omega
  | vBlank j =>
    by_cases hj : j.val + 1 < 10
    · have hne : j ≠ 9 := by
        intro he
        rw [he] at hj
        exact absurd hj (by decide)
      simp [Phase.next, Phase.cycle, Phase.cycles, hj, hne]
      omega
    · have hlast : j = 9 := by
        have := j.isLt
        exact Fin.ext (by show j.val = 9; omega)
      subst hlast
      simp [Phase.next, Phase.cycle, Phase.cycles, Nat.add_mul]
      omega

theorem next_ne_start (p : Phase) : p.next ≠ .start := by
  intro h
  cases p with
  | hBlank i | vBlank i =>
    simp only [next] at h
    split_ifs at h
  | _ => cases h

/-- A phase begins with the cycle in which the PPU arrives there. -/
theorem Place.beginsWith_cycle {x : Place} (hx : x.2 ≠ .start) : BeginsWith x.cycle := by
  obtain ⟨f, p⟩ := x
  have hle := p.cycle_add_cycles_le
  have hpos : 0 < p.cycles := by
    cases p with
    | start => exact absurd rfl hx
    | _ => exact Nat.succ_pos _
  unfold BeginsWith Place.cycle
  rw [ofCycle_eq (Nat.le_refl (f * kFrameCycles + p.cycle)) (Nat.lt_add_of_pos_right hpos)]
  show p.cycle = (f * kFrameCycles + p.cycle) % kFrameCycles
  rw [Nat.add_comm, Nat.add_mul_mod_self_right, Nat.mod_eq_of_lt (by omega)]

theorem mode_of_ne_start {p : Phase} (hp : p ≠ .start) : ∃ m, p.mode = some m := by
  cases p with
  | start => exact absurd rfl hp
  | _ => exact ⟨_, rfl⟩

theorem Place.since_next (x : Place) : x.next.since = x.since + x.2.wait := by
  have hns : GbConst.kNsPerClkCycle = 238 := rfl
  have hnext : x.next.2 ≠ .start := next_ne_start x.2
  unfold Place.since
  rw [if_neg hnext, x.next_cycle]
  by_cases hp : x.2 = .start
  · rw [if_pos hp, hp]
    simp only [wait, cycles, Nat.add_zero]
    omega
  · rw [if_neg hp, wait_eq hp, Nat.add_mul, Nat.add_assoc]

end Phase

/-- STAT is zero at power-on. -/
theorem Lcd.statShows_init (cartridge : Cartridge) (serial : Serial) (timer : Timer)
    (windowLine : Int) (window : Window) :
    (init (Gb.init cartridge serial timer) windowLine window).StatShows := by
  refine ⟨fun m hm => absurd hm (by simp [init, Phase.mode]), ?_⟩
  have hzero : (Gb.init cartridge serial timer).regStat = 0 := rfl
  rw [init, Gb.regStat_setRegLcdcY, hzero]
  rfl

/-- What none of the PPU's writes to the registers changes, a step of `RenderLoop` does not. -/
theorem Lcd.resume_frame {β : Type} (f : Gb → β)
    (hstat : ∀ val i gb, f (gb.setStatBit val i) = f gb)
    (hly : ∀ v gb, f (gb.setRegLcdcY v) = f gb) (hif : ∀ mask gb, f (gb.raiseIntr mask) = f gb)
    {palette : Ppu.Palette} {l l' : Lcd} (h : l.resume palette = .ok l') : f l'.gb = f l.gb := by
  have hlyc : ∀ l : Lcd, f l.checkLyc.gb = f l.gb := by
    intro l
    unfold checkLyc Gb.checkLycInterrupt
    dsimp only
    split_ifs
    · exact (hstat _ _ _).trans (hif _ _)
    · exact hstat _ _ _
  have hbegin : ∀ (i : Fin 144) (l : Lcd), f (l.beginLine i).gb = f l.gb :=
    fun _ _ => (hstat _ _ _).trans (hstat _ _ _)
  have hvBlank : f (l.beginVBlank palette).gb = f l.gb := by
    unfold beginVBlank
    dsimp only
    rw [drawToScreen_gb, hif]
    exact hstat _ _ _
  unfold resume at h
  cases hp : l.phase with
  | start =>
    rw [hp] at h
    cases h
    exact hbegin 0 l
  | oamSearch i =>
    rw [hp] at h
    cases h
    exact hstat _ _ _
  | transfer i =>
    rw [hp] at h
    obtain ⟨⟨⟨⟩, ppu⟩, -, h⟩ := StateExcept.except_bind_eq_ok h
    cases h
    refine (hlyc _).trans ?_
    have hdone : f (((l.gb.setStatBit false 0).setStatBit false 1).setRegLcdcY
        (((l.gb.setStatBit false 0).setStatBit false 1).regLcdcY + 1)) = f l.gb :=
      (hly _ _).trans ((hstat _ _ _).trans (hstat _ _ _))
    refine Eq.trans ?_ hdone
    show f (Gb.hBlankIntr _) = _
    unfold Gb.hBlankIntr
    split_ifs
    · exact hif _ _
    · rfl
  | hBlank i =>
    rw [hp] at h
    cases h
    split_ifs
    · exact hbegin _ l
    · exact hvBlank
  | vBlank j =>
    rw [hp] at h
    cases h
    have hinc : f l.incLcdcY.checkLyc.gb = f l.gb := (hlyc _).trans (hly _ _)
    split_ifs
    · exact hinc
    · exact (hbegin 0 _).trans ((hlyc _).trans ((hly _ _).trans hinc))

/-! ## What the others leave alone -/

/-- The PPU stays in its phase, and the three low bits of STAT stay. -/
structure KeepsMode (b b' : Board) : Prop where
  phase : b'.lcd.phase = b.lcd.phase
  lyCoinc : b'.lcd.lyCoinc = b.lcd.lyCoinc
  stat : ∀ i < 3, b'.gb.regStat.getLsbD i = b.gb.regStat.getLsbD i

namespace KeepsMode

variable {b b' : Board}

theorem statShows (h : KeepsMode b b') (hb : b.lcd.StatShows) : b'.lcd.StatShows := by
  refine ⟨?_, ?_⟩
  · intro m hm i hi
    rw [h.stat i (by omega)]
    exact hb.mode m (h.phase ▸ hm) i hi
  · rw [h.stat 2 (by decide), h.lyCoinc]
    exact hb.coincidence

/-- The devices change, and STAT is none of what changes. -/
theorem of_setGb {gb : Gb} (hstat : gb.regStat = b.gb.regStat) : KeepsMode b (b.setGb gb) :=
  ⟨rfl, rfl, fun _ _ => congrArg (BitVec.getLsbD · _) hstat⟩

theorem of_setSound {s : Sound} (hwrites : s.io.data 0x31 = b.gb.ioRegisters.data 0x31) :
    KeepsMode b (b.setSound s) :=
  ⟨rfl, rfl, fun _ _ => congrArg (BitVec.getLsbD · _) hwrites⟩

end KeepsMode

theorem Gb.setButton_ioRegisters (sym : Keycode) (pressed : Bool) (gb : Gb) :
    (gb.setButton sym pressed).ioRegisters = gb.ioRegisters := by
  unfold setButton
  split_ifs <;> rfl

namespace Board

variable {palette : Ppu.Palette} {game : List U8} {b b' : Board}

theorem audioPart_writes (i : Fin 5) (io : IoRegisters) (apu : Apu) :
    ProcessWrites io (Apu.audioPart i io apu).2 := by
  have hlengths := apu.decrementLengths_writes io
  have hsweep := hlengths.trans ((apu.decrementLengths io).1.doSweep_writes _)
  match i with
  | 0 => exact hlengths
  | 1 => exact hsweep
  | 2 => exact hlengths
  | 3 => exact hsweep
  | 4 => exact .refl io

theorem resume_keepsMode {p : Process} (hp : p ≠ .renderLoop)
    (h : b.resume palette p = .ok b') : KeepsMode b b' := by
  cases p with
  | renderLoop => exact absurd rfl hp
  | divLoop =>
    cases h
    exact .of_setGb rfl
  | timerLoop =>
    cases h
    refine .of_setGb ?_
    unfold Gb.timerLoop
    dsimp only
    split_ifs <;> rfl
  | audioLoop =>
    cases h
    have hstat := (audioPart_writes b.audioPart b.gb.ioRegisters b.apu).data 0x31 (by decide)
      (by decide) (by decide)
    exact ⟨rfl, rfl, fun _ _ => congrArg (BitVec.getLsbD · _) hstat⟩
  | inputLoop =>
    cases h
    have hsame := inputLoop_frame (fun b => (b.lcd.phase, b.lcd.lyCoinc, b.gb.regStat))
      (fun sym pressed b => by
        show (_, _, (b.gb.setButton sym pressed).ioRegisters.data 0x31) = _
        rw [Gb.setButton_ioRegisters]
        rfl) (fun _ _ => rfl) b
    obtain ⟨hphase, hrest⟩ := Prod.mk.inj hsame
    obtain ⟨hcoinc, hstat⟩ := Prod.mk.inj hrest
    exact ⟨hphase, hcoinc, fun _ _ => congrArg (BitVec.getLsbD · _) hstat⟩

theorem act_keepsMode {a : Act} (h : act game a b = .ok b') : KeepsMode b b' := by
  cases a with
  | access t =>
    obtain ⟨l, hl, rfl⟩ := StateExcept.map_eq_ok h
    obtain ⟨t', gb, hbus, rfl⟩ := Lcd.access_eq_ok hl
    exact ⟨rfl, rfl, fun i hi => Gb.bTransport_regStat hbus hi⟩
  | deliver ports =>
    obtain ⟨s, hs, rfl⟩ := StateExcept.map_eq_ok h
    exact .of_setSound
      ((Sound.step_deliver_writes hs).data 0x31 (by decide) (by decide) (by decide))
  | acknowledge flag | callback c | serialInterrupt | input e =>
    cases h
    exact ⟨rfl, rfl, fun _ _ => rfl⟩

/-! ## The modes over time -/

/-- The PPU is at a place: in its phase, and STAT shows it. -/
def AtPlace (x : Phase.Place) (b : Board) : Prop :=
  b.lcd.phase = x.2 ∧ b.lcd.StatShows ∧ (x.2 = .start → x.1 = 0)

/-- `RenderLoop` takes its places in their order, whatever the others do. -/
theorem renderLoop_course (palette : Ppu.Palette) (game : List U8) :
    Course (threads palette) (act game) .renderLoop Phase.Place.next Phase.Place.since
      (fun x => x.2.wait) AtPlace where
  own := by
    rintro ⟨f, p⟩ b b' ⟨hphase, hshows, -⟩ h
    obtain ⟨l, hl, rfl⟩ := StateExcept.map_eq_ok h
    have hnext : l.phase = p.next := by
      rw [(Lcd.resume_line hl).1]
      exact congrArg Phase.next hphase
    exact ⟨⟨hnext, Lcd.statShows_resume hl hshows, fun he => absurd he p.next_ne_start⟩,
      congrArg Phase.wait hnext⟩
  others := by
    rintro p hp x b b' ⟨hphase, hshows, hstart⟩ h
    have hkeeps := resume_keepsMode hp h
    exact ⟨hkeeps.phase.trans hphase, hkeeps.statShows hshows, hstart⟩
  acts := by
    rintro a x b b' ⟨hphase, hshows, hstart⟩ h
    have hkeeps := act_keepsMode h
    exact ⟨hkeeps.phase.trans hphase, hkeeps.statShows hshows, hstart⟩
  since_next := Phase.Place.since_next

/-- The clock cycles since the PPU's start. -/
def ppuCycle (t : Nat) : Nat := (t - 1) / GbConst.kNsPerClkCycle

/-- The instants at which `RenderLoop` switches the mode. -/
def SwitchesAt (t : Nat) : Prop :=
  (t - 1) % GbConst.kNsPerClkCycle = 0 ∧ Phase.BeginsWith (ppuCycle t)

instance (t : Nat) : Decidable (SwitchesAt t) := by
  unfold SwitchesAt
  infer_instance

/-- Where the PPU waits, other than at an instant of a switch. -/
theorem phase_of_waitsAt {k : Simulation Process Board} {x : Phase.Place}
    (h : WaitsAt .renderLoop Phase.Place.since (fun x => x.2.wait) AtPlace x k)
    (hstarted : 1 ≤ k.now) (hbetween : ¬ SwitchesAt k.now) :
    x.2 ≠ .start ∧ x.2 = .ofCycle (ppuCycle k.now) := by
  have hns : GbConst.kNsPerClkCycle = 238 := rfl
  obtain ⟨f, p⟩ := x
  obtain ⟨⟨-, -, hstart⟩, hdue, harrived, hnotOver⟩ := h
  rw [hdue] at hnotOver
  have hp : p ≠ .start := by
    rintro rfl
    obtain rfl : f = 0 := hstart rfl
    have hnow : k.now = 1 := by
      simp [Phase.Place.since, Phase.Place.cycle, Phase.cycle, Phase.wait] at hnotOver
      omega
    exact hbetween (by rw [hnow]; exact ⟨rfl, rfl⟩)
  refine ⟨hp, ?_⟩
  have hsince : Phase.Place.since (f, p) = 1 + (f * kFrameCycles + p.cycle) * 238 := by
    rw [Phase.Place.since, if_neg hp]
    rfl
  have hwait : p.wait = p.cycles * 238 := Phase.wait_eq hp
  simp only [hsince, hwait] at harrived hnotOver
  by_cases hend : k.now = 1 + (f * kFrameCycles + p.cycle) * 238 + p.cycles * 238
  · exfalso
    apply hbetween
    have hcycle : ppuCycle k.now = (Phase.Place.next (f, p)).cycle := by
      rw [Phase.Place.next_cycle, ppuCycle, hend, hns]
      show _ = f * kFrameCycles + p.cycle + p.cycles
      omega
    refine ⟨by rw [hend, hns]; omega, ?_⟩
    rw [hcycle]
    exact Phase.Place.beginsWith_cycle p.next_ne_start
  · have hcycle : f * kFrameCycles + p.cycle ≤ ppuCycle k.now ∧
        ppuCycle k.now < f * kFrameCycles + p.cycle + p.cycles := by
      rw [ppuCycle, hns]
      omega
    exact (Phase.ofCycle_eq hcycle.1 hcycle.2).symm

/-- At every time from the start of `RenderLoop` on at which it does not switch, whatever the
    guest, the debugger and the other processes have done: the time alone says which line and
    which mode the PPU is in, and the mode bits of STAT show it. -/
theorem mode_at_time (palette : Ppu.Palette) (game : List U8) (cartridge : Cartridge)
    (serial : Serial) (timer : Timer) (windowLine : Int) (window : Window)
    (event : JoyPad.SdlEvent) (k : Simulation Process Board)
    (hrun : Runs palette game (init cartridge serial timer windowLine window event).start k)
    (hstarted : 1 ≤ k.now) (hbetween : ¬ SwitchesAt k.now) :
    k.state.lcd.phase = .ofCycle (ppuCycle k.now) ∧
      some (k.state.gb.regStat.setWidth 2) = (Phase.ofCycle (ppuCycle k.now)).mode := by
  have hstart : WaitsAt .renderLoop Phase.Place.since (fun x => x.2.wait) AtPlace (0, .start)
      (init cartridge serial timer windowLine window event).start :=
    ⟨⟨rfl, Lcd.statShows_init cartridge serial timer windowLine window, fun _ => rfl⟩, rfl,
      Nat.le_refl 0, Nat.zero_le 1⟩
  obtain ⟨n, hwaits⟩ := (renderLoop_course palette game).reaches hrun hstart
  obtain ⟨hp, hcycle⟩ := phase_of_waitsAt hwaits hstarted hbetween
  obtain ⟨hphase, hshows, -⟩ := hwaits.holds
  rw [← hcycle]
  refine ⟨hphase, ?_⟩
  obtain ⟨m, hm⟩ := Phase.mode_of_ne_start hp
  rw [hm]
  refine congrArg some (BitVec.eq_of_getLsbD_eq fun i hi => ?_)
  rw [BitVec.getLsbD_setWidth, decide_eq_true hi, Bool.true_and]
  exact hshows.mode m (by rw [hphase, hm]) i hi

/-- 100 ns after power-on STAT shows mode 2. -/
theorem mode_at_100 : ∃ k : Simulation Process Board,
    Runs (fun _ => ⟨0, 0, 0⟩) [] powerOn.start k ∧ k.now = 100 ∧
      k.state.gb.regStat.setWidth 2 = 2#2 := by
  have hplay : (powerOn.start.play (threads fun _ => ⟨0, 0, 0⟩) (act [])
      [.instant [.inputLoop, .audioLoop], .elapse 1, .instant [.renderLoop], .elapse 99]).map
        (·.now) = .ok 100 := by
    decide +kernel
  have hlawful : Simulation.Lawful (threads fun _ => ⟨0, 0, 0⟩) (act [])
      [.instant [.inputLoop, .audioLoop], .elapse 1, .instant [.renderLoop], .elapse 99]
      powerOn.start := by
    decide +kernel
  obtain ⟨k, hplay, hnow⟩ := StateExcept.map_eq_ok hplay
  have hrun := EventKernel.reaches_of_play hlawful hplay
  have hmode := (mode_at_time _ _ _ _ _ _ _ _ k hrun (by omega) (by rw [hnow]; decide)).2
  rw [hnow] at hmode
  exact ⟨k, hrun, hnow, Option.some.inj hmode⟩

end Board

end TlmBoy
