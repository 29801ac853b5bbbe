import TlmBoy.Lib.History
import TlmBoy.Ppu.Blocks

/-
  The headless screenshot next to the picture of the game window.

  `GameWindow::DrawToScreen` takes the sprites it shows out of the sprite buffer. In headless
  mode nothing does, so the sprites of a frame go over those of all earlier frames. `Film` is a
  windowed run that keeps each frame's sprites as a layer. The headless run of the same events
  is that run with the earlier layers below (`run_headless`), and `screenshot_iff` says when
  the two pictures are the same.
-/

namespace TlmBoy

/-! ## Layers -/

/-- The sprite pixels of a screen. -/
abbrev Layer := Fin 144 → Fin 160 → Option Color

namespace Layer

def clear : Layer := fun _ _ => none

/-- `top` with `bottom` below it. -/
def above (top bottom : Layer) : Layer := fun y x => (top y x).or (bottom y x)

/-- Layers put on each other, the last one on top. -/
def stack (layers : List Layer) : Layer := layers.foldl (fun below layer => layer.above below) clear

@[simp] theorem stack_concat (layers : List Layer) (layer : Layer) :
    stack (layers ++ [layer]) = layer.above (stack layers) := by
  rw [stack, List.foldl_append]
  rfl

end Layer

namespace Ppu

/-- The sprites with the pixels of `below` under them. -/
def onto (below : Layer) (p : Ppu) : Ppu :=
  { p with spriteBuffer := Layer.above p.spriteBuffer below }

/-- A sprite pixel hides what is below it. -/
theorem setSprite_onto (below : Layer) (y : Fin 144) (x : Fin 160) (v : Color) (p : Ppu) :
    (p.onto below).setSprite y x v = (p.setSprite y x v).onto below := by
  have hpixels : Function.update (Layer.above p.spriteBuffer below) y
      (Function.update (Layer.above p.spriteBuffer below y) x (some v)) =
      Layer.above (Function.update p.spriteBuffer y
        (Function.update (p.spriteBuffer y) x (some v))) below := by
    funext y' x'
    simp only [Layer.above, Function.update_apply]
    split_ifs with hy
    · rw [Function.update_apply, Function.update_apply]
      split_ifs
      · rfl
      · rw [hy]
        rfl
    · rfl
  unfold setSprite onto
  exact congrArg (fun sprites => { p with spriteBuffer := sprites }) hpixels

/-- Drawing a line over a layer is drawing it and putting the layer below. -/
theorem onto_blocks (below : Layer) (lineNum : Fin 144) :
    DrawBlocks lineNum (fun m => StateExcept.Commutes (onto below) m) where
  toClosed := StateExcept.Commutes.closed (onto below)
  lift e := StateExcept.Commutes.lift (onto below) e
  setBg _ _ := StateExcept.Commutes.of_modifies (fun _ => rfl) fun _ => rfl
  setSprite x v :=
    StateExcept.Commutes.of_modifies (fun _ => rfl) (setSprite_onto below lineNum x v)
  clearBgLine := StateExcept.Commutes.of_modifies (fun _ => rfl) fun _ => rfl
  nextWindowLine := StateExcept.Commutes.of_modifies (fun _ => rfl) fun _ => rfl
  look hk hsame := StateExcept.Commutes.bind_get (fun p => hsame p _) hk

/-! ## Colours -/

/-- The bytes of a texture colour. -/
theorem getLsbD_textureColor (c : Rgb) {i : Nat} (hi : i < 8) :
    (toTextureColor c).getLsbD (16 + i) = c.r.getLsbD i ∧
    (toTextureColor c).getLsbD (8 + i) = c.g.getLsbD i ∧
    (toTextureColor c).getLsbD i = c.b.getLsbD i := by
  have hhigh : ∀ (v : U8) (k : Nat), 8 ≤ k → v.getLsbD k = false :=
    fun v k hk => BitVec.getLsbD_of_ge v k hk
  unfold toTextureColor
  simp only [BitVec.getLsbD_or, BitVec.getLsbD_shiftLeft, BitVec.getLsbD_setWidth]
  refine ⟨?_, ?_, ?_⟩
  · rw [hhigh c.g _ (by omega), hhigh c.b _ (by omega), Nat.add_sub_cancel_left,
      decide_eq_true (show 16 + i < 32 by omega), decide_eq_false (show ¬ 16 + i < 16 by omega),
      decide_eq_true (show i < 32 by omega)]
    simp
  · rw [hhigh c.b _ (by omega), Nat.add_sub_cancel_left,
      decide_eq_true (show 8 + i < 32 by omega), decide_eq_true (show 8 + i < 16 by omega),
      decide_eq_false (show ¬ 8 + i < 8 by omega), decide_eq_true (show i < 32 by omega)]
    simp
  · rw [decide_eq_true (show i < 16 by omega), decide_eq_true hi,
      decide_eq_true (show i < 32 by omega)]
    simp

theorem argb_inj {c c' : Rgb}
    (h : 0xFF000000#32 ||| toTextureColor c = 0xFF000000#32 ||| toTextureColor c') : c = c' := by
  have hbit : ∀ k < 24, (toTextureColor c).getLsbD k = (toTextureColor c').getLsbD k := by
    intro k hk
    have hmask : (0xFF000000#32).getLsbD k = false := by
      revert k
      decide
    have hk' := congrArg (fun v : BitVec 32 => v.getLsbD k) h
    simpa only [BitVec.getLsbD_or, hmask, Bool.false_or] using hk'
  have hr : c.r = c'.r := BitVec.eq_of_getLsbD_eq fun i hi => by
    rw [← (getLsbD_textureColor c hi).1, ← (getLsbD_textureColor c' hi).1]
    exact hbit _ (by omega)
  have hg : c.g = c'.g := BitVec.eq_of_getLsbD_eq fun i hi => by
    rw [← (getLsbD_textureColor c hi).2.1, ← (getLsbD_textureColor c' hi).2.1]
    exact hbit _ (by omega)
  have hb : c.b = c'.b := BitVec.eq_of_getLsbD_eq fun i hi => by
    rw [← (getLsbD_textureColor c hi).2.2, ← (getLsbD_textureColor c' hi).2.2]
    exact hbit _ (by omega)
  cases c with
  | mk r g b => cases c' with
    | mk r' g' b' => exact Rgb.mk.injEq .. ▸ ⟨hr, hg, hb⟩

/-- The sprites on the background, in the colours of the palette. -/
def compose (palette : Palette) (sprites : Layer) (bg : Fin 144 → Fin 160 → Color) : Picture :=
  fun y x => toTextureColor (palette ((sprites y x).getD (bg y x)))

theorem saveScreenshot_eq (palette : Palette) (p : Ppu) (y : Fin 144) (x : Fin 160) :
    saveScreenshot palette p y x =
      0xFF000000#32 ||| compose palette p.spriteBuffer p.bgBuffer y x := by
  unfold saveScreenshot compose
  cases p.spriteBuffer y x <;> rfl

/-- With other sprites below, a pixel looks the same unless one of them shows. -/
theorem pixel_iff (palette : Palette) (top below : Option Color) (bg : Color) :
    0xFF000000#32 ||| toTextureColor (palette ((top.or below).getD bg)) =
        0xFF000000#32 ||| toTextureColor (palette (top.getD bg)) ↔
      ∀ v, top = none → below = some v → palette v = palette bg := by
  cases top with
  | some u => exact iff_of_true rfl fun v h => by cases h
  | none =>
    cases below with
    | none => exact iff_of_true rfl fun v _ h => by cases h
    | some u =>
      refine ⟨fun h v _ hv => ?_, fun h => ?_⟩
      · cases hv
        exact argb_inj h
      · exact congrArg (fun c => 0xFF000000#32 ||| toTextureColor c) (h u rfl rfl)

theorem drawToScreen_eq (palette : Palette) {gb : Gb} {p : Ppu}
    (hon : (gb.regLcdc &&& kMaskLcdControl) ≠ 0) (hbg : p.uiRenderBg = true)
    (hsprites : p.uiRenderSprites = true) : drawToScreen palette gb p =
      (some (compose palette p.spriteBuffer p.bgBuffer),
        { p with spriteBuffer := Layer.clear }) := by
  unfold drawToScreen
  dsimp only
  rw [if_neg hon, if_pos hsprites]
  refine Prod.ext (congrArg some ?_) rfl
  funext y x
  unfold compose
  cases p.spriteBuffer y x with
  | none => exact if_pos (.inl hbg)
  | some v => rfl

end Ppu

/-! ## The headless twin of a state -/

namespace Lcd

/-- The same state in headless mode, with `below` under the sprites. -/
def behind (below : Layer) (l : Lcd) : Lcd :=
  { l with window := .dummy, ppu := l.ppu.onto below, screen := none }

variable {palette : Ppu.Palette} {l l' : Lcd} {below : Layer}

theorem behind_access (below : Layer) (l : Lcd) (t : Payload) :
    (l.behind below).access t = (l.access t).map (behind below) := by
  unfold access
  show (l.gb.bTransport t).map _ = _
  cases l.gb.bTransport t <;> rfl

theorem behind_endLine (below : Layer) (l : Lcd) (i : Fin 144) :
    (l.behind below).endLine i = (l.endLine i).map (behind below) :=
  StateExcept.bind_eq_map ((Ppu.onto_blocks below i).drawLine _ l.ppu) fun _ => rfl

/-- Within a frame the two modes do the same. -/
theorem behind_resume (palette : Ppu.Palette) (below : Layer) {l : Lcd}
    (hphase : l.phase ≠ .hBlank 143) :
    (l.behind below).resume palette = (l.resume palette).map (behind below) := by
  unfold resume
  have hsame : (l.behind below).phase = l.phase := rfl
  rw [hsame]
  cases hp : l.phase with
  | start => rfl
  | oamSearch i => rfl
  | transfer i => exact behind_endLine below l i
  | hBlank i =>
    have hi : i.val + 1 < 144 := by
      have hlt := i.isLt
      have hne : i.val ≠ 143 := fun h => hphase (by rw [hp]; exact congrArg _ (Fin.ext h))
      omega
    dsimp only
    rw [dif_pos hi, dif_pos hi]
    rfl
  | vBlank j =>
    dsimp only
    split_ifs <;> rfl

/-- The game window shows the frame and takes its sprites out of the buffer. -/
theorem beginVBlank_game (hwindow : l.window = .game)
    (hon : (l.gb.regLcdc &&& Ppu.kMaskLcdControl) ≠ 0) (hbg : l.ppu.uiRenderBg = true)
    (hsprites : l.ppu.uiRenderSprites = true) : l.beginVBlank palette = { l with
      gb := (l.gb.setStatBit true 0).raiseIntr Ppu.kMaskVBlankIE
      ppu := { l.ppu with windowLine := 0, spriteBuffer := Layer.clear }
      phase := .vBlank 0
      screen := some (Ppu.compose palette l.ppu.spriteBuffer l.ppu.bgBuffer) } := by
  have hlcdc : (l.gb.setStatBit true 0).regLcdc = l.gb.regLcdc := l.gb.setIoReg_data 0x31 0x30 _
  have hshow := @Ppu.drawToScreen_eq palette (l.gb.setStatBit true 0)
    { l.ppu with windowLine := 0 } (hlcdc ▸ hon) hbg hsprites
  unfold beginVBlank drawToScreen
  dsimp only
  rw [hwindow]
  dsimp only
  rw [hshow]
  rfl

theorem resume_hBlank_last (hphase : l.phase = .hBlank 143) :
    l.resume palette = .ok (l.beginVBlank palette) := by
  unfold resume
  rw [hphase]
  rfl

/-- Within a frame nothing changes the window or the render flags, and a step within the V-Blank
    changes neither a buffer nor the picture. -/
theorem resume_picture (hphase : l.phase ≠ .hBlank 143) (h : l.resume palette = .ok l') :
    l'.window = l.window ∧ l.ppu.SameFlags l'.ppu ∧ ∀ j, l'.phase = .vBlank j →
      (∃ j', l.phase = .vBlank j') ∧ l'.screen = l.screen ∧ l'.ppu = l.ppu := by
  unfold resume at h
  cases hp : l.phase with
  | start =>
    rw [hp] at h
    cases h
    exact ⟨rfl, ⟨rfl, rfl, rfl⟩, fun j hj => by cases hj⟩
  | oamSearch i =>
    rw [hp] at h
    cases h
    exact ⟨rfl, ⟨rfl, rfl, rfl⟩, fun j hj => by cases hj⟩
  | transfer i =>
    rw [hp] at h
    obtain ⟨⟨⟨⟩, ppu⟩, hdraw, h⟩ := StateExcept.except_bind_eq_ok h
    cases h
    exact ⟨rfl, (Ppu.sameFlags_blocks i).drawLine _ l.ppu () ppu hdraw, fun j hj => by cases hj⟩
  | hBlank i =>
    have hi : i.val + 1 < 144 := by
      have hlt := i.isLt
      have hne : i.val ≠ 143 := fun h => hphase (by rw [hp]; exact congrArg _ (Fin.ext h))
      omega
    rw [hp] at h
    dsimp only at h
    rw [dif_pos hi] at h
    cases h
    exact ⟨rfl, ⟨rfl, rfl, rfl⟩, fun j hj => by cases hj⟩
  | vBlank j =>
    rw [hp] at h
    cases h
    split_ifs
    · exact ⟨rfl, ⟨rfl, rfl, rfl⟩, fun _ _ => ⟨⟨j, rfl⟩, rfl, rfl⟩⟩
    · exact ⟨rfl, ⟨rfl, rfl, rfl⟩, fun j hj => by cases hj⟩

/-- Without one the sprites stay. -/
theorem behind_beginVBlank (hwindow : l.window = .game)
    (hon : (l.gb.regLcdc &&& Ppu.kMaskLcdControl) ≠ 0) (hbg : l.ppu.uiRenderBg = true)
    (hsprites : l.ppu.uiRenderSprites = true) : (l.behind below).beginVBlank palette =
      (l.beginVBlank palette).behind (Layer.above l.ppu.spriteBuffer below) := by
  rw [beginVBlank_game hwindow hon hbg hsprites]
  rfl

end Lcd

/-! ## A windowed run and its headless twin -/

/-- A run with a game window, and what its frames showed. -/
structure Film where
  lcd : Lcd
  /-- The sprites of each frame, as they stood in the sprite buffer when it was shown. -/
  layers : List Layer := []
  /-- The LCD was on whenever a frame was shown. -/
  lcdOn : Bool := true

namespace Film

def init (gb : Gb) (windowLine : Int) : Film := { lcd := .init gb windowLine .game }

/-- The event ends the last visible line, so that the frame is shown. -/
def EndsFrame (f : Film) (e : LcdEvent) : Prop := f.lcd.phase = .hBlank 143 ∧ e = .resume

instance (f : Film) (e : LcdEvent) : Decidable (f.EndsFrame e) := by
  unfold EndsFrame
  infer_instance

/-- The LCD is on. -/
def isOn (gb : Gb) : Bool := (gb.regLcdc &&& Ppu.kMaskLcdControl) != 0

def step (palette : Ppu.Palette) (f : Film) (e : LcdEvent) : Except Fault Film := do
  let lcd ← f.lcd.step palette e
  if f.EndsFrame e then
    return {
      lcd, layers := f.layers ++ [f.lcd.ppu.spriteBuffer], lcdOn := f.lcdOn && isOn f.lcd.gb }
  else
    return { f with lcd }

/-- The same run in headless mode. -/
def headless (f : Film) : Lcd :=
  { f.lcd with window := .dummy, ppu := f.lcd.ppu.onto (Layer.stack f.layers), screen := none }

/-- What every state of a film with the LCD on has: a game window, the render flags on, and in
    the V-Blank the last frame on the screen and no sprites left of it. -/
structure Rolling (palette : Ppu.Palette) (f : Film) : Prop where
  window : f.lcd.window = .game
  renderBg : f.lcd.ppu.uiRenderBg = true
  renderSprites : f.lcd.ppu.uiRenderSprites = true
  shown : ∀ j, f.lcd.phase = .vBlank j → ∃ earlier last, f.layers = earlier ++ [last] ∧
    f.lcd.screen = some (Ppu.compose palette last f.lcd.ppu.bgBuffer) ∧
    f.lcd.ppu.spriteBuffer = Layer.clear

variable {palette : Ppu.Palette} {f f' : Film}

theorem step_cases {e : LcdEvent} (h : f.step palette e = .ok f') :
    f.lcd.step palette e = .ok f'.lcd ∧
      ((f.EndsFrame e ∧ f'.layers = f.layers ++ [f.lcd.ppu.spriteBuffer] ∧
          f'.lcdOn = (f.lcdOn && isOn f.lcd.gb)) ∨
        (¬ f.EndsFrame e ∧ f'.layers = f.layers ∧ f'.lcdOn = f.lcdOn)) := by
  obtain ⟨lcd, hstep, h⟩ := StateExcept.except_bind_eq_ok h
  by_cases hend : f.EndsFrame e
  · rw [if_pos hend] at h
    cases h
    exact ⟨hstep, .inl ⟨hend, rfl, rfl⟩⟩
  · rw [if_neg hend] at h
    cases h
    exact ⟨hstep, .inr ⟨hend, rfl, rfl⟩⟩

theorem rolling_init (palette : Ppu.Palette) (gb : Gb) (windowLine : Int) :
    (init gb windowLine).Rolling palette :=
  ⟨rfl, rfl, rfl, fun _ hj => by cases hj⟩

/-- The end of a frame puts its sprites on the screen and clears the buffer. -/
theorem rolling_endFrame {e : LcdEvent} (hf : f.Rolling palette) (hon : isOn f.lcd.gb = true)
    (hend : f.EndsFrame e) (hlayers : f'.layers = f.layers ++ [f.lcd.ppu.spriteBuffer])
    (hstep : f.lcd.step palette e = .ok f'.lcd) : f'.Rolling palette := by
  obtain ⟨hphase, rfl⟩ := hend
  have hshown := @Lcd.beginVBlank_game palette f.lcd hf.window (bne_iff_ne.mp hon) hf.renderBg
    hf.renderSprites
  rw [Lcd.step, Lcd.resume_hBlank_last hphase, hshown] at hstep
  injection hstep with hlcd
  refine ⟨?_, ?_, ?_, fun j _ => ⟨f.layers, f.lcd.ppu.spriteBuffer, hlayers, ?_, ?_⟩⟩
  · rw [← hlcd]
    exact hf.window
  · rw [← hlcd]
    exact hf.renderBg
  · rw [← hlcd]
    exact hf.renderSprites
  · rw [← hlcd]
  · rw [← hlcd]

/-- The other events keep what a V-Blank shows. -/
theorem rolling_within {e : LcdEvent} (hf : f.Rolling palette) (hnot : ¬ f.EndsFrame e)
    (hlayers : f'.layers = f.layers) (hstep : f.lcd.step palette e = .ok f'.lcd) :
    f'.Rolling palette := by
  cases e with
  | access t =>
    obtain ⟨r, -, hlcd⟩ := StateExcept.map_eq_ok hstep
    refine ⟨?_, ?_, ?_, ?_⟩
    · rw [← hlcd]
      exact hf.window
    · rw [← hlcd]
      exact hf.renderBg
    · rw [← hlcd]
      exact hf.renderSprites
    · rw [← hlcd, hlayers]
      exact hf.shown
  | resume =>
    obtain ⟨hwindow, hflags, hsame⟩ := Lcd.resume_picture (fun h => hnot ⟨h, rfl⟩) hstep
    refine ⟨hwindow.trans hf.window, hflags.1.trans hf.renderBg, hflags.2.1.trans hf.renderSprites,
      fun j hj => ?_⟩
    obtain ⟨⟨j', hj'⟩, hscreen, hppu⟩ := hsame j hj
    rw [hlayers, hscreen, hppu]
    exact hf.shown j' hj'

/-- The headless run does the same event, with the frame that ends on top of its layers. -/
theorem headless_step {e : LcdEvent} (hf : f.Rolling palette) (hon : f'.lcdOn = true)
    (h : f.step palette e = .ok f') : f.headless.step palette e = .ok f'.headless := by
  obtain ⟨hstep, ⟨⟨hphase, rfl⟩, hlayers, hlast⟩ | ⟨hnot, hlayers, -⟩⟩ := step_cases h
  · rw [hlast, Bool.and_eq_true] at hon
    have hbehind := @Lcd.behind_beginVBlank palette f.lcd (Layer.stack f.layers) hf.window
      (bne_iff_ne.mp hon.2) hf.renderBg hf.renderSprites
    rw [Lcd.step, Lcd.resume_hBlank_last hphase] at hstep
    injection hstep with hlcd
    have hphase' : f.headless.phase = .hBlank 143 := hphase
    rw [Lcd.step, Lcd.resume_hBlank_last hphase']
    refine congrArg Except.ok (hbehind.trans ?_)
    rw [hlcd, ← Layer.stack_concat, ← hlayers]
    rfl
  · have hsame : f'.headless = f'.lcd.behind (Layer.stack f.layers) := by
      rw [← hlayers]
      rfl
    rw [hsame]
    cases e with
    | access t =>
      refine (Lcd.behind_access _ f.lcd t).trans ?_
      rw [show f.lcd.access t = .ok f'.lcd from hstep]
      rfl
    | resume =>
      refine (Lcd.behind_resume palette _ fun h => hnot ⟨h, rfl⟩).trans ?_
      rw [show f.lcd.resume palette = .ok f'.lcd from hstep]
      rfl

theorem lcdOn_of_step {e : LcdEvent} (hon : f'.lcdOn = true) (h : f.step palette e = .ok f') :
    f.lcdOn = true := by
  obtain ⟨-, ⟨-, -, hlast⟩ | ⟨-, -, hlast⟩⟩ := step_cases h
  · rw [hlast, Bool.and_eq_true] at hon
    exact hon.1
  · exact hlast ▸ hon

/-- The headless run of the same events, as long as the LCD is on when a frame ends. -/
theorem run_headless {gb : Gb} {windowLine : Int} {events : List LcdEvent}
    (hrun : events.foldlM (step palette) (init gb windowLine) = .ok f) (hon : f.lcdOn = true) :
    f.Rolling palette ∧
      events.foldlM (Lcd.step palette) (Lcd.init gb windowLine .dummy) = .ok f.headless := by
  refine History.run_induction (fun events f => f.lcdOn = true → f.Rolling palette ∧
    events.foldlM (Lcd.step palette) (Lcd.init gb windowLine .dummy) = .ok f.headless)
    ?_ ?_ hrun hon
  · exact fun _ => ⟨rolling_init palette gb windowLine, rfl⟩
  · intro events f e f' hf h hon
    obtain ⟨hrolling, hheadless⟩ := hf (lcdOn_of_step hon h)
    refine ⟨?_, ?_⟩
    · obtain ⟨hstep, ⟨hend, hlayers, hlast⟩ | ⟨hnot, hlayers, -⟩⟩ := step_cases h
      · rw [hlast, Bool.and_eq_true] at hon
        exact rolling_endFrame hrolling hon.2 hend hlayers hstep
      · exact rolling_within hrolling hnot hlayers hstep
    · rw [History.run_concat, hheadless]
      exact headless_step hrolling hon h

theorem run_lcd {gb : Gb} {windowLine : Int} {events : List LcdEvent}
    (hrun : events.foldlM (step palette) (init gb windowLine) = .ok f) :
    events.foldlM (Lcd.step palette) (Lcd.init gb windowLine .game) = .ok f.lcd := by
  refine History.run_induction (fun events f =>
    events.foldlM (Lcd.step palette) (Lcd.init gb windowLine .game) = .ok f.lcd) rfl ?_ hrun
  intro events f e f' hf h
  rw [History.run_concat, hf]
  exact (step_cases h).1

/-- After any number of frames with the LCD on, in any run: the headless screenshot is the picture
    in the game window, but for the alpha byte, exactly when no earlier frame left a sprite pixel
    where this frame has none, other than one that looks like the background there. -/
theorem screenshot_iff (palette : Ppu.Palette) (gb : Gb) (windowLine : Int)
    (events : List LcdEvent) (f : Film) (j : Fin 10)
    (hrun : events.foldlM (step palette) (init gb windowLine) = .ok f) (hon : f.lcdOn = true)
    (hphase : f.lcd.phase = .vBlank j) : ∃ h picture earlier last,
    events.foldlM (Lcd.step palette) (Lcd.init gb windowLine .game) = .ok f.lcd ∧
    events.foldlM (Lcd.step palette) (Lcd.init gb windowLine .dummy) = .ok h ∧
    f.lcd.screen = some picture ∧ f.layers = earlier ++ [last] ∧
    ((∀ y x, Ppu.saveScreenshot palette h.ppu y x = 0xFF000000#32 ||| picture y x) ↔
      ∀ y x v, last y x = none → Layer.stack earlier y x = some v →
        palette v = palette (f.lcd.ppu.bgBuffer y x)) := by
  obtain ⟨hrolling, hheadless⟩ := run_headless hrun hon
  obtain ⟨earlier, last, hlayers, hscreen, hclear⟩ := hrolling.shown j hphase
  refine ⟨f.headless, _, earlier, last, run_lcd hrun, hheadless, hscreen, hlayers, ?_⟩
  have hsprites : f.headless.ppu.spriteBuffer = last.above (Layer.stack earlier) := by
    rw [← Layer.stack_concat, ← hlayers]
    show Layer.above f.lcd.ppu.spriteBuffer _ = _
    rw [hclear]
    rfl
  refine forall₂_congr fun y x => ?_
  rw [Ppu.saveScreenshot_eq, hsprites]
  exact Ppu.pixel_iff palette (last y x) (Layer.stack earlier y x) (f.lcd.ppu.bgBuffer y x)

/-- A guest's write. -/
def poke (address : U16) (data : U8) : LcdEvent := .access { command := .write, address, data }

/-- The colour number as the red byte. -/
def reds : Ppu.Palette := fun c => ⟨c.setWidth 8, 0, 0⟩

/-- Two frames with sprites of one pixel in the first line. In the second frame the first sprite has
    moved to the right, and a second one is where it was, in another colour. -/
def movingSprite : List LcdEvent :=
  [poke 0x8000 0x80, poke 0xFF48 0x0C, poke 0xFE00 16, poke 0xFE01 8, poke 0xFF40 0x82] ++
    List.replicate 3 .resume ++ [poke 0xFF40 0x80] ++ List.replicate 440 .resume ++
    [poke 0xFF49 0x08, poke 0xFE01 12, poke 0xFE04 16, poke 0xFE05 8, poke 0xFE07 0x10,
      poke 0xFF40 0x82] ++
    List.replicate 2 .resume ++ [poke 0xFF40 0x80] ++ List.replicate 430 .resume

/-- Of two frames, the second one has a sprite wherever the first one has. -/
def covered : List Layer → Bool
  | [first, second] => (List.finRange 144).all fun y => (List.finRange 160).all fun x =>
      (first y x).isNone || (second y x).isSome
  | _ => false

theorem none_of_covered {first second : Layer} (h : covered [first, second] = true) {y : Fin 144}
    {x : Fin 160} (hnone : second y x = none) : first y x = none := by
  have hpixel := List.all_eq_true.mp
    (List.all_eq_true.mp h y (List.mem_finRange y)) x (List.mem_finRange x)
  simpa [hnone] using hpixel

/-- The sprite of the first frame is covered, and the screenshot is the picture. -/
theorem moved_sprite_covered : ∃ f h picture,
    movingSprite.foldlM (step reds) (init (Gb.powerOn .blank) 0) = .ok f ∧
    movingSprite.foldlM (Lcd.step reds) (Lcd.init (Gb.powerOn .blank) 0 .dummy) = .ok h ∧
    f.lcd.screen = some picture ∧
    f.layers.map (fun layer => (layer 0 0, layer 0 4)) = [(some 3, none), (some 2, some 3)] ∧
    ∀ y x, Ppu.saveScreenshot reds h.ppu y x = 0xFF000000#32 ||| picture y x := by
  have hshown : (movingSprite.foldlM (step reds) (init (Gb.powerOn .blank) 0)).map
      (fun f => (f.lcdOn, f.lcd.phase, covered f.layers,
        decide (f.layers.map (fun layer => (layer 0 0, layer 0 4)) =
          [(some 3, none), (some 2, some 3)]))) =
      .ok (true, .vBlank 0, true, true) := by decide +kernel
  obtain ⟨f, hrun, hf⟩ := StateExcept.map_eq_ok hshown
  simp only [Prod.mk.injEq, decide_eq_true_eq] at hf
  obtain ⟨hon, hphase, hcovered, hcorners⟩ := hf
  obtain ⟨h, picture, earlier, last, -, hdummy, hscreen, hlayers, hiff⟩ :=
    screenshot_iff reds (Gb.powerOn .blank) 0 _ f 0 hrun hon hphase
  refine ⟨f, h, picture, hrun, hdummy, hscreen, hcorners, hiff.mpr fun y x v hnone hv => ?_⟩
  have hlength := congrArg List.length hcorners
  rw [List.length_map, hlayers, List.length_append] at hlength
  obtain ⟨first, rfl⟩ := List.length_eq_one_iff.mp (Nat.succ.inj hlength)
  rw [hlayers] at hcovered
  have hfirst : Layer.stack [first] y x = first y x := Option.or_none
  rw [hfirst, none_of_covered hcovered hnone] at hv
  cases hv

/-- A sprite in the first line of the first frame, and none afterwards. -/
def oneSprite : List LcdEvent :=
  [poke 0x8000 0xFF, poke 0xFF48 0x0C, poke 0xFE00 16, poke 0xFE01 8, poke 0xFF40 0x82] ++
    List.replicate 3 .resume ++ [poke 0xFF40 0x80] ++ List.replicate 872 .resume

/-- The screenshot after the second frame still has it. -/
theorem stale_sprite : ¬ ∀ (palette : Ppu.Palette) (gb : Gb) (windowLine : Int)
    (events : List LcdEvent) (f : Film) (h : Lcd) (j : Fin 10),
    events.foldlM (step palette) (init gb windowLine) = .ok f → f.lcdOn = true →
    f.lcd.phase = .vBlank j →
    events.foldlM (Lcd.step palette) (Lcd.init gb windowLine .dummy) = .ok h →
      ∃ picture, f.lcd.screen = some picture ∧
        ∀ y x, Ppu.saveScreenshot palette h.ppu y x = 0xFF000000#32 ||| picture y x := by
  intro hall
  have hshown : (oneSprite.foldlM (step reds) (init (Gb.powerOn .blank) 0)).map
      (fun f => (f.lcdOn, f.lcd.phase, f.lcd.screen.map (fun picture => picture 0 0),
        Ppu.saveScreenshot reds f.headless.ppu 0 0)) =
      .ok (true, .vBlank 0, some 0, 0xFF030000) := by decide +kernel
  obtain ⟨f, hrun, hf⟩ := StateExcept.map_eq_ok hshown
  injection hf with hon hf
  injection hf with hphase hf
  injection hf with hpixel hsaved
  obtain ⟨picture, hscreen, hsame⟩ :=
    hall _ _ _ _ f f.headless 0 hrun hon hphase (run_headless hrun hon).2
  rw [hscreen] at hpixel
  injection hpixel with hpixel
  have hbad := hsame 0 0
  rw [hsaved, show picture 0 0 = 0 from hpixel] at hbad
  revert hbad
  decide

end Film

end TlmBoy
