import TlmBoy.Ppu.RenderLoop

/-
  A line is drawn in a few blocks.

  `DrawBlocks lineNum P` says of a predicate on `PpuM` programs that it goes through sequencing
  and holds of what drawing line `lineNum` is made of: setting pixels of that line, clearing its
  background, advancing the window counter, reading the guest's memory, and looking at the
  background, the counter and the render flags. No part of it looks at the sprite buffer.
-/

namespace TlmBoy

namespace Ppu

/-- `P` goes through sequencing and holds of the primitives that draw line `lineNum`. -/
structure DrawBlocks (lineNum : Fin 144) (P : ∀ {α : Type}, PpuM α → Prop) : Prop
    extends StateExcept.Closed P where
  lift {α : Type} (e : Except Fault α) : P (liftM e : PpuM α)
  setBg (x : Fin 160) (v : Color) : P (modify (setBg lineNum x v) : PpuM PUnit)
  setSprite (x : Fin 160) (v : Color) : P (modify (setSprite lineNum x v) : PpuM PUnit)
  clearBgLine : P (modify (clearBgLine lineNum) : PpuM PUnit)
  nextWindowLine : P (modify (fun p => { p with windowLine := p.windowLine + 1 }) : PpuM PUnit)
  look {α : Type} {k : Ppu → PpuM α} (hk : ∀ p, P (k p))
    (hsame : ∀ p sprites, k { p with spriteBuffer := sprites } = k p) : P (get >>= k)

namespace DrawBlocks

variable {lineNum : Fin 144} {P : ∀ {α : Type}, PpuM α → Prop}

theorem drawBgPixel (h : DrawBlocks lineNum P) (gb : Gb) (i : Fin 160) :
    P (drawBgPixel lineNum gb i) :=
  h.bind (h.lift _) fun _ => h.bind (h.lift _) fun _ => h.bind (h.setBg i _) fun _ => h.lift _

theorem drawBgToLine (h : DrawBlocks lineNum P) (gb : Gb) : P (drawBgToLine lineNum gb) :=
  h.look (fun _ => h.ite (h.forM (h.drawBgPixel gb) _) h.clearBgLine) fun _ _ => rfl

theorem drawWndwPixel (h : DrawBlocks lineNum P) (gb : Gb) (xPos windowLine : Int) (i : Fin 160) :
    P (drawWndwPixel lineNum gb xPos windowLine i) :=
  h.ite (h.pure _) (h.bind (h.lift _) fun _ => h.bind (h.lift _) fun _ =>
    h.bind (h.setBg i _) fun _ => h.lift _)

theorem drawWndwToLine (h : DrawBlocks lineNum P) (gb : Gb) : P (drawWndwToLine lineNum gb) :=
  h.ite (h.pure _) (h.look (fun _ => h.look (fun _ =>
    h.ite (h.bind (h.forM (h.drawWndwPixel gb _ _) _) fun _ => h.nextWindowLine)
      (h.bind h.clearBgLine fun _ => h.nextWindowLine)) fun _ _ => rfl) fun _ _ => rfl)

theorem drawSpritePixel (h : DrawBlocks lineNum P) (gb : Gb) (i : Fin 40) (pixelInd : Int)
    (j : Fin 8) : P (drawSpritePixel lineNum gb i pixelInd j) := by
  unfold Ppu.drawSpritePixel
  dsimp only
  split
  · exact h.pure _
  · refine h.bind (h.lift _) fun res => h.ite (h.pure _) (h.ite ?_ (h.setSprite _ _))
    exact h.look (fun p => h.ite (h.setBg _ _) (h.pure _)) fun _ _ => rfl

theorem drawSprite (h : DrawBlocks lineNum P) (gb : Gb) (i : Fin 40) :
    P (drawSprite lineNum gb i) := h.forM (h.drawSpritePixel gb i _) _

theorem drawSpriteToLine (h : DrawBlocks lineNum P) (gb : Gb) :
    P (drawSpriteToLine lineNum gb) :=
  h.ite (h.pure _) (h.look (fun _ => h.ite (h.forM (h.drawSprite gb) _) (h.pure _)) fun _ _ => rfl)

/-- What holds of the blocks holds of drawing the line. -/
theorem drawLine (h : DrawBlocks lineNum P) (gb : Gb) : P (drawLine lineNum gb) :=
  h.bind (h.drawBgToLine gb) fun _ => h.bind (h.drawWndwToLine gb) fun _ => h.drawSpriteToLine gb

end DrawBlocks

/-- Nothing that draws changes the render flags. -/
def SameFlags (p p' : Ppu) : Prop :=
  p'.uiRenderBg = p.uiRenderBg ∧ p'.uiRenderSprites = p.uiRenderSprites ∧
    p'.uiRenderWndw = p.uiRenderWndw

instance : Std.Refl SameFlags := ⟨fun _ => ⟨rfl, rfl, rfl⟩⟩

instance : IsTrans Ppu SameFlags :=
  ⟨fun _ _ _ h h' => ⟨h'.1.trans h.1, h'.2.1.trans h.2.1, h'.2.2.trans h.2.2⟩⟩

theorem sameFlags_blocks (lineNum : Fin 144) :
    DrawBlocks lineNum (fun m => StateExcept.Keeps SameFlags m) where
  toClosed := StateExcept.Keeps.closed SameFlags
  lift e := StateExcept.Keeps.lift e
  setBg _ _ := StateExcept.Keeps.of_modifies (fun _ => rfl) fun _ => ⟨rfl, rfl, rfl⟩
  setSprite _ _ := StateExcept.Keeps.of_modifies (fun _ => rfl) fun _ => ⟨rfl, rfl, rfl⟩
  clearBgLine := StateExcept.Keeps.of_modifies (fun _ => rfl) fun _ => ⟨rfl, rfl, rfl⟩
  nextWindowLine := StateExcept.Keeps.of_modifies (fun _ => rfl) fun _ => ⟨rfl, rfl, rfl⟩
  look hk _ p a p' h := hk p p a p' h

end Ppu

end TlmBoy
