import TlmBoy.Board.Timers

/-
  The order in which the kernel resumes the processes that are due at one instant.

  SystemC does not say what that order is. `RenderLoop` starts 1 ns late, and so it is never due
  together with another process (`renderLoop_alone`). The others commute (`independent`): those
  that raise interrupt flags only set bits of IF. So a run of the board does not depend on the
  kernel's choices (`any_order`).
-/

namespace TlmBoy

open EventKernel (Simulation Independent)

namespace Board

variable {palette : Ppu.Palette} {game : List U8}

/-! ## The processes but `RenderLoop` -/

/-- Their rounds, which cannot fail. -/
def round : Process → Board → Board
  | .divLoop, b => b.setGb b.gb.divLoop
  | .timerLoop, b => b.setGb b.gb.timerLoop
  | .audioLoop, b => b.audioLoop
  | .inputLoop, b => b.inputLoop
  | .renderLoop, b => b

theorem resume_eq_round {p : Process} (hp : p ≠ .renderLoop) (b : Board) :
    resume palette p b = .ok (b.round p) := by
  cases p with
  | renderLoop => exact absurd rfl hp
  | _ => rfl

/-- What a round of `TimerLoop` makes of TIMA. -/
def nextTima (tm : Timer) : U8 :=
  if (tm.regTac &&& Timer.kMaskTimerEnabled) ≠ 0 then
    if tm.regTima + 1 < tm.regTima then tm.regTma else tm.regTima + 1
  else tm.regTima

/-- `TimerLoop` writes TIMA and IF. -/
theorem timerLoop_eq (gb : Gb) : gb.timerLoop =
    { gb with
      timer := { gb.timer with regTima := nextTima gb.timer }
      regIf := if gb.TimerOverflows then ⟨fun _ => gb.regIf.data 0 ||| GbConst.kTimerOfIf⟩
        else gb.regIf } := by
  unfold Gb.timerLoop nextTima
  by_cases htac : (gb.timer.regTac &&& Timer.kMaskTimerEnabled) ≠ 0
  · by_cases hover : gb.timer.regTima + 1 < gb.timer.regTima
    · have hoverflows : gb.TimerOverflows := ⟨htac, hover⟩
      simp only [if_pos htac, if_pos hover, if_pos hoverflows]
    · have hnone : ¬ gb.TimerOverflows := fun h => hover h.2
      simp only [if_pos htac, if_neg hover, if_neg hnone]
  · have hnone : ¬ gb.TimerOverflows := fun h => htac h.1
    simp only [if_neg htac, if_neg hnone]

/-- `SetButton` writes the joypad and IF. -/
theorem setButton_eq (sym : Keycode) (pressed : Bool) (gb : Gb) : gb.setButton sym pressed =
    { gb with
      joyPad := gb.joyPad.setButton sym pressed
      regIf := if pressed ∧ sym ≠ .other then ⟨fun _ => gb.regIf.data 0 ||| GbConst.kJoypadIf⟩
        else gb.regIf } := by
  unfold Gb.setButton
  split_ifs <;> rfl

/-- The flags of the timer and the joypad may be set in any order. -/
theorem timerLoop_setButton (sym : Keycode) (pressed : Bool) (gb : Gb) :
    (gb.setButton sym pressed).timerLoop = gb.timerLoop.setButton sym pressed := by
  rw [timerLoop_eq (gb.setButton sym pressed), setButton_eq, setButton_eq, timerLoop_eq gb]
  by_cases hover : gb.TimerOverflows
  · have hover' : ∀ j rif, Gb.TimerOverflows { gb with joyPad := j, regIf := rif } :=
      fun _ _ => hover
    simp only [if_pos hover, if_pos (hover' _ _)]
    split_ifs
    · rw [BitVec.or_assoc, BitVec.or_comm GbConst.kJoypadIf, ← BitVec.or_assoc]
    · rfl
  · have hover' : ∀ j rif, ¬ Gb.TimerOverflows { gb with joyPad := j, regIf := rif } :=
      fun _ _ => hover
    simp only [if_neg hover, if_neg (hover' _ _)]

/-- What commutes with the buttons and looks at the devices only commutes with `InputLoop`. -/
theorem inputLoop_comm {f : Board → Board}
    (hbutton : ∀ sym pressed b, f (b.setGb (b.gb.setButton sym pressed)) =
      (f b).setGb ((f b).gb.setButton sym pressed))
    (hsame : ∀ b, (f b).event = b.event)
    (hflags : ∀ g : Ppu → Ppu, ∀ b, f { b with lcd := { b.lcd with ppu := g b.lcd.ppu } } =
      { f b with lcd := { (f b).lcd with ppu := g (f b).lcd.ppu } }) (b : Board) :
    f b.inputLoop = (f b).inputLoop := by
  have hkey : ∀ key pressed b, f (handleKey key pressed b) = handleKey key pressed (f b) := by
    intro key pressed b
    cases key with
    | button sym => exact hbutton sym pressed b
    | space => rfl
    | one =>
      cases pressed with
      | false => rfl
      | true => exact hflags (fun p => { p with uiRenderBg := !p.uiRenderBg }) b
    | two =>
      cases pressed with
      | false => rfl
      | true => exact hflags (fun p => { p with uiRenderWndw := !p.uiRenderWndw }) b
    | three =>
      cases pressed with
      | false => rfl
      | true => exact hflags (fun p => { p with uiRenderSprites := !p.uiRenderSprites }) b
  unfold inputLoop
  rw [hsame]
  unfold handleEvent
  split
  · exact hkey _ _ _
  · exact hkey _ _ _
  · rfl

theorem timerLoop_divLoop (b : Board) :
    (b.round .divLoop).round .timerLoop = (b.round .timerLoop).round .divLoop := by
  show b.setGb b.gb.divLoop.timerLoop = b.setGb b.gb.timerLoop.divLoop
  rw [timerLoop_eq, timerLoop_eq]
  rfl

theorem audioLoop_divLoop (b : Board) :
    (b.round .divLoop).round .audioLoop = (b.round .audioLoop).round .divLoop := rfl

theorem audioLoop_timerLoop (b : Board) :
    (b.round .timerLoop).round .audioLoop = (b.round .audioLoop).round .timerLoop := by
  show (b.setGb b.gb.timerLoop).audioLoop = b.audioLoop.setGb b.audioLoop.gb.timerLoop
  rw [timerLoop_eq, timerLoop_eq]
  rfl

theorem inputLoop_divLoop (b : Board) :
    (b.round .divLoop).round .inputLoop = (b.round .inputLoop).round .divLoop := by
  have hbutton : ∀ sym pressed (b : Board), (b.setGb (b.gb.setButton sym pressed)).round .divLoop =
      (b.round .divLoop).setGb ((b.round .divLoop).gb.setButton sym pressed) := by
    intro sym pressed b
    rw [setButton_eq, setButton_eq]
    rfl
  exact (inputLoop_comm hbutton (fun _ => rfl) (fun _ _ => rfl) b).symm

theorem inputLoop_timerLoop (b : Board) :
    (b.round .timerLoop).round .inputLoop = (b.round .inputLoop).round .timerLoop := by
  have hbutton : ∀ sym pressed (b : Board),
      (b.setGb (b.gb.setButton sym pressed)).round .timerLoop =
        (b.round .timerLoop).setGb ((b.round .timerLoop).gb.setButton sym pressed) :=
    fun sym pressed b => congrArg b.setGb (timerLoop_setButton sym pressed b.gb)
  exact (inputLoop_comm hbutton (fun _ => rfl) (fun _ _ => rfl) b).symm

theorem inputLoop_audioLoop (b : Board) :
    (b.round .audioLoop).round .inputLoop = (b.round .inputLoop).round .audioLoop := by
  have hbutton : ∀ sym pressed (b : Board),
      (b.setGb (b.gb.setButton sym pressed)).round .audioLoop =
        (b.round .audioLoop).setGb ((b.round .audioLoop).gb.setButton sym pressed) := by
    intro sym pressed b
    rw [setButton_eq, setButton_eq]
    rfl
  exact (inputLoop_comm hbutton (fun _ => rfl) (fun _ _ => rfl) b).symm

theorem round_comm {p q : Process} (hp : p ≠ .renderLoop) (hq : q ≠ .renderLoop) (b : Board) :
    (b.round p).round q = (b.round q).round p := by
  cases p with
  | renderLoop => exact absurd rfl hp
  | divLoop =>
    cases q with
    | renderLoop => exact absurd rfl hq
    | divLoop => rfl
    | timerLoop => exact timerLoop_divLoop b
    | audioLoop => exact audioLoop_divLoop b
    | inputLoop => exact inputLoop_divLoop b
  | timerLoop =>
    cases q with
    | renderLoop => exact absurd rfl hq
    | divLoop => exact (timerLoop_divLoop b).symm
    | timerLoop => rfl
    | audioLoop => exact audioLoop_timerLoop b
    | inputLoop => exact inputLoop_timerLoop b
  | audioLoop =>
    cases q with
    | renderLoop => exact absurd rfl hq
    | divLoop => exact (audioLoop_divLoop b).symm
    | timerLoop => exact (audioLoop_timerLoop b).symm
    | audioLoop => rfl
    | inputLoop => exact inputLoop_audioLoop b
  | inputLoop =>
    cases q with
    | renderLoop => exact absurd rfl hq
    | divLoop => exact (inputLoop_divLoop b).symm
    | timerLoop => exact (inputLoop_timerLoop b).symm
    | audioLoop => exact (inputLoop_audioLoop b).symm
    | inputLoop => rfl

/-- No round but the thread's own changes the wait that it begins. -/
theorem round_delay {p q : Process} (hp : p ≠ .renderLoop) (hq : q ≠ .renderLoop) (hpq : p ≠ q)
    (b : Board) : delay p (b.round q) = delay p b := by
  cases p with
  | renderLoop => exact absurd rfl hp
  | divLoop | inputLoop => rfl
  | timerLoop =>
    cases q with
    | renderLoop => exact absurd rfl hq
    | timerLoop => exact absurd rfl hpq
    | divLoop | audioLoop => rfl
    | inputLoop => exact congrArg Timer.incTime (inputLoop_timer b)
  | audioLoop =>
    cases q with
    | renderLoop => exact absurd rfl hq
    | audioLoop => exact absurd rfl hpq
    | divLoop | timerLoop => rfl
    | inputLoop =>
      show Apu.audioWait (b.inputLoop.audioPart - 1) = Apu.audioWait (b.audioPart - 1)
      rw [inputLoop_audioPart]

theorem independent (palette : Ppu.Palette) :
    Independent (threads palette) (· ≠ .renderLoop) where
  comm p q hp hq _ b := by
    show (resume palette p b >>= resume palette q) = (resume palette q b >>= resume palette p)
    rw [resume_eq_round hp, resume_eq_round hq]
    show resume palette q (b.round p) = resume palette p (b.round q)
    rw [resume_eq_round hp, resume_eq_round hq, round_comm hp hq]
  delay p q hp hq hpq b b' h := by
    have hround : b.round q = b' := Except.ok.inj ((resume_eq_round hq b).symm.trans h)
    rw [← hround]
    exact round_delay hp hq hpq b

/-! ## The instants of the processes -/

/-- The instants at which a process may be due: `RenderLoop` keeps its 1 ns, and a clock cycle has
    an even number of them. -/
def MayBeDue (p : Process) (t : Nat) : Prop := t % 2 = if p = .renderLoop then 1 else 0

theorem wait_even {p : Phase} (hp : p ≠ .start) : p.wait % 2 = 0 := by
  rw [Phase.wait_eq hp]
  exact Nat.mod_eq_zero_of_dvd (dvd_mul_of_dvd_right (by decide) _)

theorem audioWait_even (i : Fin 5) : Apu.audioWait i % 2 = 0 := by
  revert i
  decide

theorem resume_mayBeDue {p : Process} {b b' : Board} {t : Nat} (hb : b.gb.timer.Paced)
    (h : b.resume palette p = .ok b') (ht : MayBeDue p t) : MayBeDue p (t + delay p b') := by
  have hdelay : delay p b' % 2 = 0 := by
    cases p with
    | divLoop =>
      show 256 * GbConst.kNsPerClkCycle % 2 = 0
      decide
    | inputLoop =>
      show 10000000 % 2 = 0
      decide
    | timerLoop => exact (resume_paced hb h).even
    | audioLoop => exact audioWait_even _
    | renderLoop =>
      obtain ⟨l, hl, rfl⟩ := StateExcept.map_eq_ok h
      refine wait_even ?_
      rw [(Lcd.resume_line hl).1]
      exact Phase.next_ne_start _
  rw [MayBeDue] at ht ⊢
  omega

/-- `RenderLoop` is never due together with another process. -/
theorem renderLoop_alone {b : Board} (hpaced : b.gb.timer.Paced) {k : Simulation Process Board}
    (hrun : Runs palette game b.start k) {ps : List Process} (hnodup : ps.Nodup)
    (hdue : ∀ p ∈ ps, k.due p = k.now) : (∀ p ∈ ps, p ≠ .renderLoop) ∨ ∃ p, ps = [p] := by
  have hdues : ∀ p, MayBeDue p (k.due p) := by
    refine (hrun.dues (I := fun b => b.gb.timer.Paced) (D := MayBeDue)
      (fun p b b' t hb h ht => ⟨resume_paced hb h, resume_mayBeDue hb h ht⟩)
      (fun a b b' hb h => act_paced hb h) hpaced ?_).2
    intro p
    cases p with
    | timerLoop => exact hpaced.even
    | divLoop =>
      show 256 * GbConst.kNsPerClkCycle % 2 = 0
      decide
    | renderLoop =>
      show 1 % 2 = 1
      decide
    | audioLoop | inputLoop =>
      show 0 % 2 = 0
      decide
  by_cases hmem : .renderLoop ∈ ps
  · right
    have hall : ∀ p ∈ ps, p = .renderLoop := by
      intro p hp
      by_contra hne
      have hodd := hdues .renderLoop
      have heven := hdues p
      rw [MayBeDue, hdue _ hmem, if_pos rfl] at hodd
      rw [MayBeDue, hdue _ hp, if_neg hne] at heven
      omega
    have hrep := List.eq_replicate_of_mem hall
    rw [hrep, List.nodup_replicate] at hnodup
    have hpos := List.length_pos_of_mem hmem
    refine ⟨.renderLoop, ?_⟩
    rw [hrep, show ps.length = 1 by omega]
    rfl
  · exact .inl fun p hp he => hmem (he ▸ hp)

/-- The kernel resumes the processes that are due at one instant in an order that it is free to
    choose, and the run does not depend on the order: two plays that differ only in it end in the
    same state, or with the same fault. -/
theorem any_order (palette : Ppu.Palette) (game : List U8) (b : Board)
    (hpaced : b.gb.timer.Paced) (es es' : List (EventKernel.Event Process Act))
    (hlawful : Simulation.Lawful (threads palette) (act game) es b.start)
    (hsame : List.Forall₂ EventKernel.Event.Same es es') :
    b.start.play (threads palette) (act game) es =
      b.start.play (threads palette) (act game) es' :=
  (independent palette).play_same hsame hlawful fun _ hm _ hnodup hdue =>
    renderLoop_alone hpaced hm hnodup hdue

/-- `InputLoop` and `AudioLoop` both begin at power-on. -/
theorem powerOn_any_order :
    powerOn.start.play (threads fun _ => ⟨0, 0, 0⟩) (act [])
        [.instant [.inputLoop, .audioLoop], .elapse 1, .instant [.renderLoop]] =
      powerOn.start.play (threads fun _ => ⟨0, 0, 0⟩) (act [])
        [.instant [.audioLoop, .inputLoop], .elapse 1, .instant [.renderLoop]] :=
  any_order _ _ powerOn (by decide) _ _ (by decide +kernel)
    (.cons (.inr ⟨_, _, rfl, rfl, .swap ..⟩) (.cons (.inl rfl) (.cons (.inl rfl) .nil)))

end Board

end TlmBoy
