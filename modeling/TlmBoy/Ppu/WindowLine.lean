import TlmBoy.Ppu.LcdRegs
import TlmBoy.Ppu.Priority
import TlmBoy.Ppu.Window

/-
  `window_line_` over whole runs.

  `FrameLog` records, next to a run of `RenderLoop`, the lines of the current frame on which the
  window was visible and the row that was shown on each; a frame begins with line 0. The counter
  is the number of these lines at every line, in every run, when the memory of `window_line_`
  happens to hold 0 at power on (`window_line_counts_iff`). With another value the first frame is
  off.
-/

namespace TlmBoy

/-- A run, with the lines of the frame that have shown the window and the rows they have shown. -/
structure FrameLog where
  lcd : Lcd
  shown : List (Fin 144 × Int) := []

namespace FrameLog

/-- The record after a wait has ended. -/
def shownAfter (s : FrameLog) : List (Fin 144 × Int) :=
  match s.lcd.phase with
  | .start => []
  | .transfer i =>
    if Ppu.WndwHidden i s.lcd.gb then s.shown else s.shown ++ [(i, s.lcd.ppu.windowLine)]
  | .vBlank j => if j.val + 1 < 10 then s.shown else []
  | _ => s.shown

def step (palette : Ppu.Palette) (s : FrameLog) (e : LcdEvent) : Except Fault FrameLog := do
  let lcd ← s.lcd.step palette e
  match e with
  | .resume => return { lcd, shown := s.shownAfter }
  | .access _ => return { s with lcd }

def init (gb : Gb) (windowLine : Int) (window : Window) : FrameLog :=
  { lcd := .init gb windowLine window }

/-! ## Drawing a line -/

theorem drawLine_windowLine {i : Fin 144} {gb : Gb} {p p' : Ppu}
    (h : Ppu.drawLine i gb p = .ok ((), p')) :
    p'.windowLine = if Ppu.WndwHidden i gb then p.windowLine else p.windowLine + 1 := by
  obtain ⟨_, q, hbg, hrest⟩ := StateExcept.bind_eq_ok h
  obtain ⟨_, r, hwndw, hsprites⟩ := StateExcept.bind_eq_ok hrest
  have hq : q.windowLine = p.windowLine := by
    rw [Ppu.drawBgToLine_eq] at hbg
    cases hbg
    rfl
  have hp' : p'.windowLine = r.windowLine := by
    by_cases hdraws : Ppu.DrawsSprites gb r
    · rw [Ppu.drawSpriteToLine_eq i hdraws] at hsprites
      cases hsprites
      rfl
    · rw [Ppu.drawSpriteToLine_off i hdraws] at hsprites
      cases hsprites
      rfl
  rw [hp', Ppu.drawWndwToLine_windowLine hwndw, hq]

theorem endLine_windowLine {i : Fin 144} {l l' : Lcd} (h : l.endLine i = .ok l') :
    l'.phase = .hBlank i ∧ l'.ppu.windowLine =
      if Ppu.WndwHidden i l.gb then l.ppu.windowLine else l.ppu.windowLine + 1 := by
  obtain ⟨⟨⟨⟩, ppu⟩, hdraw, hrest⟩ := StateExcept.except_bind_eq_ok h
  cases hrest
  exact ⟨rfl, drawLine_windowLine hdraw⟩

theorem beginVBlank_windowLine (palette : Ppu.Palette) (l : Lcd) :
    (l.beginVBlank palette).ppu.windowLine = 0 := by
  unfold Lcd.beginVBlank Lcd.drawToScreen Ppu.drawToScreen
  cases l.window with
  | dummy => rfl
  | game =>
    dsimp only
    split_ifs <;> rfl

/-! ## The counter -/

/-- The record is of different lines before the current one, the rows are the first ones in order,
    and outside of the V-Blank the counter is their number. -/
structure Counted (s : FrameLog) : Prop where
  before : ∀ k ∈ s.shown, k.1.val < s.lcd.phase.line
  increasing : (s.shown.map fun k => k.1).Pairwise (· < ·)
  short : s.shown.length ≤ s.lcd.phase.line
  rows : s.shown.map (fun k => k.2) = (List.range s.shown.length).map Int.ofNat
  counter : (∃ j, s.lcd.phase = .vBlank j) ∧ s.lcd.ppu.windowLine = 0 ∨
    (¬ ∃ j, s.lcd.phase = .vBlank j) ∧ s.lcd.ppu.windowLine = s.shown.length

/-- Nothing is shown before a frame begins. -/
theorem counted_nil {lcd : Lcd} (h : lcd.ppu.windowLine = 0) : Counted { lcd } where
  before k hk := absurd hk List.not_mem_nil
  increasing := List.Pairwise.nil
  short := Nat.zero_le _
  rows := rfl
  counter := by
    by_cases hvblank : ∃ j, lcd.phase = .vBlank j
    · exact .inl ⟨hvblank, h⟩
    · exact .inr ⟨hvblank, h⟩

/-- A later wait of the same frame, in which no line has been drawn. -/
theorem Counted.later {s : FrameLog} (h : s.Counted) {lcd : Lcd}
    (hline : s.lcd.phase.line ≤ lcd.phase.line)
    (hcounter : (∃ j, lcd.phase = .vBlank j) ∧ lcd.ppu.windowLine = 0 ∨
      (¬ ∃ j, lcd.phase = .vBlank j) ∧ lcd.ppu.windowLine = s.shown.length) :
    Counted { s with lcd } where
  before k hk := (h.before k hk).trans_le hline
  increasing := h.increasing
  short := h.short.trans hline
  rows := h.rows
  counter := hcounter

theorem Counted.windowLine {s : FrameLog} (h : s.Counted)
    (hphase : ∀ j, s.lcd.phase ≠ .vBlank j) : s.lcd.ppu.windowLine = s.shown.length :=
  (h.counter.resolve_left fun hin => hin.1.elim hphase).2

theorem Counted.endLine {s : FrameLog} (h : s.Counted) {i : Fin 144} {lcd : Lcd}
    (hphase : s.lcd.phase = .transfer i) (hend : s.lcd.endLine i = .ok lcd) :
    Counted { lcd, shown := s.shownAfter } := by
  obtain ⟨hnext, hwindowLine⟩ := endLine_windowLine hend
  have hcounter : s.lcd.ppu.windowLine = s.shown.length :=
    h.windowLine fun j => by rw [hphase]; exact Phase.noConfusion
  have hline : s.lcd.phase.line ≤ lcd.phase.line := by
    rw [hphase, hnext]
    exact Nat.le_succ _
  have hnot : ¬ ∃ j, lcd.phase = .vBlank j := by
    rw [hnext]
    rintro ⟨j, hj⟩
    exact Phase.noConfusion hj
  unfold shownAfter
  rw [hphase]
  dsimp only
  by_cases hhidden : Ppu.WndwHidden i s.lcd.gb
  · rw [if_pos hhidden] at hwindowLine ⊢
    exact h.later hline (.inr ⟨hnot, hwindowLine.trans hcounter⟩)
  · rw [if_neg hhidden] at hwindowLine ⊢
    have hbefore : ∀ k ∈ s.shown, k.1.val < i.val := by
      intro k hk
      have := h.before k hk
      rwa [hphase] at this
    refine ⟨fun k hk => ?_, ?_, ?_, ?_, .inr ⟨hnot, ?_⟩⟩
    · rw [hnext]
      rcases List.mem_append.mp hk with hk | hk
      · exact (hbefore k hk).trans (Nat.lt_succ_self _)
      · rw [List.mem_singleton.mp hk]
        exact Nat.lt_succ_self _
    · rw [List.map_append, List.pairwise_append]
      refine ⟨h.increasing, List.pairwise_singleton .., fun a ha b hb => ?_⟩
      obtain ⟨k, hk, rfl⟩ := List.mem_map.mp ha
      rw [List.mem_singleton.mp hb]
      exact hbefore k hk
    · have := h.short
      rw [hphase] at this
      rw [List.length_append, hnext]
      exact Nat.succ_le_succ this
    · rw [List.map_append, h.rows, List.length_append, List.length_singleton, List.range_succ,
        List.map_append, hcounter]
      rfl
    · rw [hwindowLine, hcounter, List.length_append]
      rfl

theorem Counted.resume {palette : Ppu.Palette} {s : FrameLog} (h : s.Counted) {lcd : Lcd}
    (hstep : s.lcd.resume palette = .ok lcd) : Counted { lcd, shown := s.shownAfter } := by
  unfold Lcd.resume at hstep
  have hlater := @Counted.later s h
  have hcounter := h.windowLine
  cases hphase : s.lcd.phase with
  | start =>
    have hempty : s.shown = [] := by
      have := h.short
      rw [hphase] at this
      exact List.eq_nil_of_length_eq_zero (Nat.le_zero.mp this)
    rw [hphase] at hstep hcounter
    have hzero : s.lcd.ppu.windowLine = 0 := by
      rw [hcounter fun j => Phase.noConfusion, hempty]
      rfl
    unfold shownAfter
    rw [hphase]
    cases hstep
    exact counted_nil hzero
  | oamSearch i =>
    rw [hphase] at hstep hlater hcounter
    unfold shownAfter
    rw [hphase]
    cases hstep
    refine hlater (Nat.le_refl _) (.inr ⟨?_, hcounter fun j => Phase.noConfusion⟩)
    rintro ⟨j, hj⟩
    exact Phase.noConfusion hj
  | transfer i =>
    rw [hphase] at hstep
    exact h.endLine hphase hstep
  | hBlank i =>
    rw [hphase] at hstep hlater hcounter
    unfold shownAfter
    rw [hphase]
    cases hstep
    by_cases hnext : i.val + 1 < 144
    · rw [dif_pos hnext]
      refine hlater (Nat.le_refl _) (.inr ⟨?_, hcounter fun j => Phase.noConfusion⟩)
      rintro ⟨j, hj⟩
      exact Phase.noConfusion hj
    · rw [dif_neg hnext]
      have := i.isLt
      refine hlater ?_ (.inl ⟨⟨0, rfl⟩, beginVBlank_windowLine palette s.lcd⟩)
      change i.val + 1 ≤ 144 + 0
      omega
  | vBlank j =>
    have hzero : s.lcd.ppu.windowLine = 0 :=
      (h.counter.resolve_right fun hout => hout.1 ⟨j, hphase⟩).2
    rw [hphase] at hstep hlater
    unfold shownAfter
    rw [hphase]
    cases hstep
    dsimp only
    by_cases hnext : j.val + 1 < 10
    · rw [dif_pos hnext, if_pos hnext]
      refine hlater ?_ (.inl ⟨⟨_, rfl⟩, hzero⟩)
      change 144 + j.val ≤ 144 + (j.val + 1)
      omega
    · rw [dif_neg hnext, if_neg hnext]
      exact counted_nil hzero

theorem Counted.step {palette : Ppu.Palette} {s s' : FrameLog} {e : LcdEvent} (h : s.Counted)
    (hstep : s.step palette e = .ok s') : s'.Counted := by
  obtain ⟨lcd, hlcd, hrest⟩ := StateExcept.except_bind_eq_ok hstep
  cases e with
  | resume =>
    cases hrest
    exact h.resume hlcd
  | access t =>
    cases hrest
    obtain ⟨r, -, hr⟩ := StateExcept.map_eq_ok hlcd
    rw [← hr]
    exact h.later (Nat.le_refl _) h.counter

/-- What holds when `DrawWndwToLine` is about to be called for line `i`: the counter is the number
    of the frame's earlier lines that have shown the window, these have shown its first rows in
    order, and the tile-map index of every column in the window is in range. -/
def NextRow (s : FrameLog) (i : Fin 144) : Prop :=
  s.lcd.ppu.windowLine = s.shown.length ∧
  (0 ≤ s.lcd.ppu.windowLine ∧ s.lcd.ppu.windowLine ≤ i.val) ∧
  s.shown.map (fun k => k.2) = (List.range s.shown.length).map Int.ofNat ∧
  (∀ k ∈ s.shown, k.1 < i) ∧ (s.shown.map fun k => k.1).Pairwise (· < ·) ∧
  ∀ x : Fin 160, 0 ≤ x.val - Ppu.wndwLeft s.lcd.gb →
    let wndwTileInd := Ppu.wndwTileInd (Ppu.wndwLeft s.lcd.gb) s.lcd.ppu.windowLine x
    0 ≤ wndwTileInd ∧ wndwTileInd ≤ 1023

theorem Counted.nextRow {s : FrameLog} (h : s.Counted) {i : Fin 144}
    (hphase : s.lcd.phase = .transfer i) : s.NextRow i := by
  have hcounter := h.windowLine fun j => by rw [hphase]; exact Phase.noConfusion
  have hshort := h.short
  have hbefore := h.before
  rw [hphase] at hshort hbefore
  change s.shown.length ≤ i.val at hshort
  have hi := i.isLt
  refine ⟨hcounter, ⟨by omega, by omega⟩, h.rows, hbefore, h.increasing, fun x hx => ?_⟩
  have hleft : -7 ≤ Ppu.wndwLeft s.lcd.gb := by
    unfold Ppu.wndwLeft
    omega
  have hxlt := x.isLt
  dsimp only
  rw [Ppu.wndwTileInd, Int.tdiv_eq_ediv_of_nonneg hx, Int.tdiv_eq_ediv_of_nonneg (by omega)]
  omega

/-- In every run the counter is right at every line, exactly when it starts as 0. -/
theorem window_line_counts_iff (palette : Ppu.Palette) (gb : Gb) (windowLine : Int)
    (window : Window) :
    (∀ (events : List LcdEvent) (s : FrameLog) (i : Fin 144),
      events.foldlM (step palette) (init gb windowLine window) = .ok s →
      s.lcd.phase = .transfer i → s.NextRow i) ↔ windowLine = 0 := by
  constructor
  · intro hruns
    exact (hruns [.resume, .resume] _ 0 rfl rfl).1
  · intro hzero events s i hrun hphase
    have hcounted : s.Counted :=
      History.run_induction (fun _ s => s.Counted) (counted_nil hzero)
        (fun _ _ _ _ h hstep => h.step hstep) hrun
    exact hcounted.nextRow hphase

/-- With 5 in the memory of the counter the first line shows row 5. -/
theorem power_on_row_5 : ¬ ∀ (palette : Ppu.Palette) (gb : Gb) (windowLine : Int)
    (window : Window) (events : List LcdEvent) (s : FrameLog) (i : Fin 144),
    events.foldlM (step palette) (init gb windowLine window) = .ok s →
      s.lcd.phase = .transfer i → s.NextRow i := by
  intro h
  have hcounter := (h (fun _ => ⟨0, 0, 0⟩) (Gb.powerOn .blank) 5 .game [.resume, .resume] _ 0
    rfl rfl).1
  exact absurd hcounter (by decide)

end FrameLog

end TlmBoy
