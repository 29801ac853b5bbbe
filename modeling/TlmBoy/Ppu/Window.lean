import TlmBoy.Ppu.Background

/-
  `DrawWndwToLine` on a line whose background has just been drawn.

  A visible line either gets the window's pixels, from column WX - 7 on, or is set to white as a
  whole. It is set to white also where the user has switched the window off, and then the
  background of the line is lost (`wndw_frame_iff`).
-/

namespace TlmBoy

open StateExcept Cellwise

namespace Ppu

/-- The line loop of `DrawWndwToLine` is taken. -/
def DrawsWndw (gb : Gb) (p : Ppu) : Prop :=
  (gb.regLcdc &&& kMaskBgWndwDisp) ≠ 0 ∧ p.uiRenderWndw = true

/-- Only dots of the line in the window's area differ. -/
def WithinWndw (lineNum : Fin 144) (gb : Gb) (p p' : Ppu) : Prop :=
  p'.windowLine = p.windowLine ∧
    ∀ y x, y ≠ lineNum ∨ (x.val : Int) < wndwLeft gb → p'.dot y x = p.dot y x

instance (lineNum : Fin 144) (gb : Gb) : Std.Refl (WithinWndw lineNum gb) :=
  ⟨fun _ => ⟨rfl, fun _ _ _ => rfl⟩⟩

instance (lineNum : Fin 144) (gb : Gb) : IsTrans Ppu (WithinWndw lineNum gb) :=
  ⟨fun _ _ _ h h' => ⟨h'.1.trans h.1, fun y x hout => (h'.2 y x hout).trans (h.2 y x hout)⟩⟩

theorem drawWndwPixel_within (lineNum : Fin 144) (gb : Gb) (windowLine : Int) (i : Fin 160) :
    Keeps (WithinWndw lineNum gb) (drawWndwPixel lineNum gb (wndwLeft gb) windowLine i) := by
  have hclosed := Keeps.closed (ε := Fault) (WithinWndw lineNum gb)
  have hset : (¬ (i.val : Int) - wndwLeft gb < 0) → ∀ v : Color,
      Keeps (WithinWndw lineNum gb) (modify (setBg lineNum i v) : PpuM PUnit) := by
    intro hin v
    refine Keeps.of_modifies (fun _ => rfl) fun p => ⟨rfl, fun y x hout => ?_⟩
    rw [setBg_eq, dot_mapLine]
    unfold atCell
    split_ifs with hy hx
    · rcases hout with hout | hout
      · exact absurd hy hout
      · rw [hx] at hout
        omega
    · rfl
    · rfl
  unfold drawWndwPixel
  by_cases hleft : (i.val : Int) - wndwLeft gb < 0
  · rw [if_pos hleft]
    exact hclosed.pure _
  · rw [if_neg hleft]
    exact hclosed.bind (Keeps.lift _) fun _ => hclosed.bind (Keeps.lift _) fun _ =>
      hclosed.bind (hset hleft _) fun _ => Keeps.lift _

/-- What a call that returns has done. -/
theorem drawWndwToLine_cases {lineNum : Fin 144} {gb : Gb} {p p' : Ppu}
    (h : drawWndwToLine lineNum gb p = .ok ((), p')) :
    (WndwHidden lineNum gb ∧ p' = p) ∨
    (¬ WndwHidden lineNum gb ∧ DrawsWndw gb p ∧
      ∃ q, WithinWndw lineNum gb p q ∧ p' = { q with windowLine := q.windowLine + 1 }) ∨
    (¬ WndwHidden lineNum gb ∧ ¬ DrawsWndw gb p ∧
      p' = { p.clearBgLine lineNum with windowLine := p.windowLine + 1 }) := by
  by_cases hhidden : WndwHidden lineNum gb
  · have hsame : drawWndwToLine lineNum gb p = .ok ((), p) :=
      congrFun (if_pos hhidden) p
    rw [hsame] at h
    cases h
    exact .inl ⟨hhidden, rfl⟩
  by_cases hdraw : DrawsWndw gb p
  · have hrun : drawWndwToLine lineNum gb p =
        ((List.finRange 160).forM (drawWndwPixel lineNum gb (wndwLeft gb) p.windowLine) >>=
          fun _ => modify fun p => { p with windowLine := p.windowLine + 1 }) p :=
      (congrFun (if_neg hhidden) p).trans (congrFun (if_pos hdraw) p)
    rw [hrun] at h
    obtain ⟨_, q, hloop, hnext⟩ := bind_eq_ok h
    have hwithin := (Keeps.closed (WithinWndw lineNum gb)).forM
      (drawWndwPixel_within lineNum gb p.windowLine) (List.finRange 160) p _ q hloop
    cases hnext
    exact .inr (.inl ⟨hhidden, hdraw, q, hwithin, rfl⟩)
  · have hrun : drawWndwToLine lineNum gb p =
        .ok ((), { p.clearBgLine lineNum with windowLine := p.windowLine + 1 }) :=
      (congrFun (if_neg hhidden) p).trans (congrFun (if_neg hdraw) p)
    rw [hrun] at h
    cases h
    exact .inr (.inr ⟨hhidden, hdraw, rfl⟩)

/-- The counter counts the lines on which the window is visible. -/
theorem drawWndwToLine_windowLine {lineNum : Fin 144} {gb : Gb} {p p' : Ppu}
    (h : drawWndwToLine lineNum gb p = .ok ((), p')) :
    p'.windowLine = if WndwHidden lineNum gb then p.windowLine else p.windowLine + 1 := by
  obtain ⟨hhidden, rfl⟩ | ⟨hhidden, -, q, hwithin, rfl⟩ | ⟨hhidden, -, rfl⟩ :=
    drawWndwToLine_cases h
  · rw [if_pos hhidden]
  · rw [if_neg hhidden, hwithin.1]
  · rw [if_neg hhidden]

/-! ## The frame -/

/-- The pixels outside of the window's area are the same, and all of them where the window is
    hidden or switched off by the user. -/
def WndwFramed (lineNum : Fin 144) (gb : Gb) (p p' : Ppu) : Prop :=
  ∀ y x, y ≠ lineNum ∨ (x.val : Int) < wndwLeft gb ∨ WndwHidden lineNum gb ∨
    p.uiRenderWndw = false → p'.dot y x = p.dot y x

/-- The line has nothing to lose: its background is switched off, or white. -/
def BgWhite (lineNum : Fin 144) (gb : Gb) (p : Ppu) : Prop :=
  (gb.regLcdc &&& kMaskBgWndwDisp) = 0 ∨ p.uiRenderBg = false ∨ ∀ x, bgColor lineNum gb x = 0

theorem bgWhite_iff (lineNum : Fin 144) (gb : Gb) (p : Ppu) :
    BgWhite lineNum gb p ↔ ∀ x, bgShown lineNum gb p.uiRenderBg x = 0 := by
  unfold BgWhite bgShown
  by_cases hon : (gb.regLcdc &&& kMaskBgWndwDisp) = 0
  · simp [hon]
  · by_cases hui : p.uiRenderBg = true
    · simp only [ne_eq, hon, hui, not_false_eq_true, and_self, if_true, false_or, reduceCtorEq]
    · simp [hui]

theorem dot_clearBgLine (lineNum : Fin 144) (p : Ppu) (y : Fin 144) (x : Fin 160) :
    (p.clearBgLine lineNum).dot y x = if y = lineNum then (0, (p.dot y x).2) else p.dot y x := by
  rw [clearBgLine_eq, dot_mapLine]

theorem wndwFramed_iff {lineNum : Fin 144} {gb : Gb} {p q p' : Ppu}
    (hbg : drawBgToLine lineNum gb p = .ok ((), q))
    (hwndw : drawWndwToLine lineNum gb q = .ok ((), p')) :
    WndwFramed lineNum gb q p' ↔
      p.uiRenderWndw = true ∨ WndwHidden lineNum gb ∨ BgWhite lineNum gb p := by
  rw [drawBgToLine_eq] at hbg
  cases hbg
  have hline : ∀ x, (p.mapLine lineNum fun x d =>
      (bgShown lineNum gb p.uiRenderBg x, d.2)).dot lineNum x =
        (bgShown lineNum gb p.uiRenderBg x, (p.dot lineNum x).2) := by
    intro x
    rw [dot_mapLine, if_pos rfl]
  obtain ⟨hhidden, rfl⟩ | ⟨hhidden, hdraw, r, hwithin, rfl⟩ | ⟨hhidden, hdraw, rfl⟩ :=
    drawWndwToLine_cases hwndw
  · exact ⟨fun _ => .inr (.inl hhidden), fun _ _ _ _ => rfl⟩
  · refine ⟨fun _ => .inl hdraw.2, fun _ y x hout => ?_⟩
    have hdot := hwithin.2 y x
    rcases hout with hout | hout | hout | hout
    · exact hdot (.inl hout)
    · exact hdot (.inr hout)
    · exact absurd hout hhidden
    · exact absurd (hdraw.2.symm.trans hout) (by decide)
  · -- the whole line becomes white
    have hwhite : BgWhite lineNum gb p ↔ ∀ x, bgShown lineNum gb p.uiRenderBg x = 0 :=
      bgWhite_iff lineNum gb p
    have hgood : BgWhite lineNum gb p → ∀ y x, ((p.mapLine lineNum fun x d =>
        (bgShown lineNum gb p.uiRenderBg x, d.2)).clearBgLine lineNum).dot y x =
          (p.mapLine lineNum fun x d => (bgShown lineNum gb p.uiRenderBg x, d.2)).dot y x := by
      intro h y x
      rw [dot_clearBgLine]
      split_ifs with hy
      · rw [hy, hline, hwhite.mp h]
      · rfl
    constructor
    · intro hframed
      by_cases hui : p.uiRenderWndw = true
      · exact .inl hui
      · refine .inr (.inr (hwhite.mpr fun x => ?_))
        have hdot := hframed lineNum x (.inr (.inr (.inr (Bool.eq_false_of_not_eq_true hui))))
        have hcleared := (dot_clearBgLine lineNum _ lineNum x).symm.trans hdot
        rw [if_pos rfl, hline] at hcleared
        exact (congrArg Prod.fst hcleared).symm
    · rintro (hui | hvisible | h)
      · have hoff : (gb.regLcdc &&& kMaskBgWndwDisp) = 0 := by
          by_contra hon
          exact hdraw ⟨hon, hui⟩
        exact fun y x _ => hgood (.inl hoff) y x
      · exact absurd hvisible hhidden
      · exact fun y x _ => hgood h y x

/-- Right after `DrawBgToLine`, the call keeps the pixels of its frame unless the user has switched
    the window off on a line that it covers and that shows a background. With the counter, which
    advances on every line that the window covers, it keeps to its frame unless the user has
    switched the window off on such a line. -/
theorem wndw_frame_iff {lineNum : Fin 144} {gb : Gb} {p q p' : Ppu}
    (hbg : drawBgToLine lineNum gb p = .ok ((), q))
    (hwndw : drawWndwToLine lineNum gb q = .ok ((), p')) :
    (WndwFramed lineNum gb q p' ↔
      p.uiRenderWndw = true ∨ WndwHidden lineNum gb ∨ BgWhite lineNum gb p) ∧
    (WndwFramed lineNum gb q p' ∧
        (WndwHidden lineNum gb ∨ q.uiRenderWndw = false → p' = q) ↔
      p.uiRenderWndw = true ∨ WndwHidden lineNum gb) := by
  have hpixels := wndwFramed_iff hbg hwndw
  have hflag : q.uiRenderWndw = p.uiRenderWndw := by
    rw [drawBgToLine_eq] at hbg
    cases hbg
    rfl
  refine ⟨hpixels, ?_⟩
  rw [hflag]
  constructor
  · rintro ⟨-, hsame⟩
    by_contra hoff
    obtain ⟨hui, hvisible⟩ := not_or.mp hoff
    have hcounter := drawWndwToLine_windowLine hwndw
    rw [hsame (.inr (Bool.eq_false_of_not_eq_true hui)), if_neg hvisible] at hcounter
    omega
  · intro hgood
    refine ⟨hpixels.mpr (hgood.imp_right .inl), fun hskip => ?_⟩
    have hhidden : WndwHidden lineNum gb := by
      rcases hgood with hui | hhidden
      · exact hskip.resolve_right fun hoff => absurd (hui.symm.trans hoff) (by decide)
      · exact hhidden
    have hrun : drawWndwToLine lineNum gb q = .ok ((), q) := congrFun (if_pos hhidden) q
    rw [hrun] at hwndw
    cases hwndw
    rfl

/-- The background in black, and the window over all of it. -/
def wndwOnBlack : Gb := (lcdOn.setIoReg 0x37 0b11).setIoReg 0x30 0xB1

theorem wndw_frame_bg_off : ∃ q p',
    drawBgToLine 0 wndwOnBlack { init 0 with uiRenderBg := false, uiRenderWndw := false } =
      .ok ((), q) ∧
    drawWndwToLine 0 wndwOnBlack q = .ok ((), p') ∧ WndwFramed 0 wndwOnBlack q p' :=
  ⟨_, _, drawBgToLine_eq .., rfl,
    (wndw_frame_iff (drawBgToLine_eq ..) rfl).1.mpr (.inr (.inr (.inr (.inl rfl))))⟩

/-- Switching the window off clears the background under it. -/
theorem wndw_off_clears_bg : ¬ ∀ (lineNum : Fin 144) (gb : Gb) (p q p' : Ppu),
    drawBgToLine lineNum gb p = .ok ((), q) → drawWndwToLine lineNum gb q = .ok ((), p') →
      WndwFramed lineNum gb q p' := by
  intro h
  have hframed := h 0 wndwOnBlack { init 0 with uiRenderWndw := false } _ _
    (drawBgToLine_eq ..) rfl 0 0 (.inr (.inr (.inr rfl)))
  have hcolor := congrArg Prod.fst hframed
  exact absurd hcolor (by decide +kernel)

end Ppu

end TlmBoy
