import TlmBoy.Ppu.State
import Mathlib.Data.List.Sort

/-
  How the PPU draws a line, and how a window makes a picture of the buffers.

  The functions that draw are programs over the PPU that read the guest's registers and
  memories, which do not change during a call. The two tile data tables and the two tile maps
  are offsets into video RAM. A picture is the ARGB values of the 144 lines of 160 pixels.
-/

namespace TlmBoy

/-- `InterleaveBits`. -/
def interleaveBits (a b : U8) (pos : Nat) : Color :=
  let mask : U8 := 1 <<< pos
  (if (a &&& mask) = mask then 1 else 0) ||| (if (b &&& mask) = mask then 2 else 0)

/-- `MapColors`. -/
def mapColors (val : Color) (reg : U8) : Color := (reg >>> (val.toNat * 2)).setWidth 2

example : interleaveBits 0b00001000 0b00000000 3 = 1 := by decide

namespace Ppu

/-- The offset of `tile_data_table_low` or `tile_data_table_up`, by LCDC. -/
def tileDataTable (lcdc : U8) : Nat :=
  if (lcdc &&& kMaskBgWndwTileDataSlct) ≠ 0 then 0x0000 else 0x0800

/-- What the wraparound adds to a tile index of the upper table. -/
def tileBias (lcdc : U8) : U8 := if (lcdc &&& kMaskBgWndwTileDataSlct) ≠ 0 then 0 else 128

/-- The offset of `tile_map_up` or `tile_map_low`, by a bit of LCDC. -/
def tileMap (select lcdc : U8) : Nat := if (lcdc &&& select) ≠ 0 then 0x1C00 else 0x1800

/-- The colour number at column `x` of the row of a tile that starts at `offset`. -/
def tilePixel (offset : Int) (x : Nat) (gb : Gb) : Except Fault Color := do
  let low ← gb.videoByte offset
  let high ← gb.videoByte (offset + 1)
  return interleaveBits low high (7 - x)

/-- One round of the loop of `DrawBgToLine`. -/
def drawBgPixel (lineNum : Fin 144) (gb : Gb) (i : Fin 160) : PpuM Unit := do
  let lcdc := gb.regLcdc
  let yTilePixel := (gb.regScrollY.toNat + lineNum.val) % 8
  let bgTileInd := 32 * (((lineNum.val + gb.regScrollY.toNat) % 256) / 8) +
    ((gb.regScrollX.toNat + i.val) % 256) / 8
  let tileInd ← gb.videoByte (tileMap kMaskBgTileSlct lcdc + bgTileInd)
  let tileInd := tileInd + tileBias lcdc
  let xTilePixel := (gb.regScrollX.toNat + i.val) % 8
  let pixelInd := tileInd.toNat * 16 + 2 * yTilePixel
  let res ← tilePixel (tileDataTable lcdc + pixelInd) xTilePixel gb
  modify (setBg lineNum i (mapColors res gb.regBgp))
  cAssert (bgTileInd < 1024) "bg_tile_ind < 1024"

def drawBgToLine (lineNum : Fin 144) (gb : Gb) : PpuM Unit := do
  if (gb.regLcdc &&& kMaskBgWndwDisp) ≠ 0 ∧ (← get).uiRenderBg = true then
    (List.finRange 160).forM (drawBgPixel lineNum gb)
  else
    modify (clearBgLine lineNum)

/-- `x_pos`, the column at which the window begins. -/
def wndwLeft (gb : Gb) : Int := gb.regWndwX.toNat - 7

/-- `wndw_tile_ind`, the index in the tile map of the tile that column `i` shows. -/
def wndwTileInd (xPos windowLine : Int) (i : Fin 160) : Int :=
  32 * windowLine.tdiv 8 + (i.val - xPos).tdiv 8

/-- One round of the loop of `DrawWndwToLine`. -/
def drawWndwPixel (lineNum : Fin 144) (gb : Gb) (xPos windowLine : Int) (i : Fin 160) :
    PpuM Unit := do
  if i.val - xPos < 0 then
    return
  let lcdc := gb.regLcdc
  let yTilePixel := windowLine.tmod 8
  let wndwTileInd := wndwTileInd xPos windowLine i
  let tileInd ← gb.videoByte (tileMap kMaskWndwTileMapSlct lcdc + wndwTileInd)
  let tileInd := tileInd + tileBias lcdc
  let xTilePixel := (i.val - xPos).tmod 8
  let pixelInd := tileInd.toNat * 16 + 2 * yTilePixel
  let res ← tilePixel (tileDataTable lcdc + pixelInd) xTilePixel.toNat gb
  modify (setBg lineNum i (mapColors res gb.regBgp))
  cAssert (wndwTileInd < 1024) "wndw_tile_ind < 1024"

/-- The window covers none of the line. -/
def WndwHidden (lineNum : Fin 144) (gb : Gb) : Prop :=
  (gb.regLcdc &&& kMaskWndwDisp) = 0 ∨ gb.regWndwY.toNat ≥ 144 ∨
    (gb.regWndwX.toNat : Int) - 7 ≥ 160 ∨ lineNum.val < gb.regWndwY.toNat

instance (lineNum : Fin 144) (gb : Gb) : Decidable (WndwHidden lineNum gb) := by
  unfold WndwHidden
  infer_instance

def drawWndwToLine (lineNum : Fin 144) (gb : Gb) : PpuM Unit := do
  let xPos := wndwLeft gb
  if WndwHidden lineNum gb then
    return
  let windowLine := (← get).windowLine
  if (gb.regLcdc &&& kMaskBgWndwDisp) ≠ 0 ∧ (← get).uiRenderWndw = true then
    (List.finRange 160).forM (drawWndwPixel lineNum gb xPos windowLine)
  else
    modify (clearBgLine lineNum)
  modify fun p => { p with windowLine := p.windowLine + 1 }

/-! ## Sprites -/

def spriteHeight (lcdc : U8) : Nat := if (lcdc &&& kMaskObjSpriteSize) ≠ 0 then 16 else 8

/-- The sprite covers a part of the line. -/
def OnLine (lineNum : Fin 144) (gb : Gb) (i : Fin 40) : Prop :=
  let posY : Int := (gb.oamByte i 0).toNat - 16
  let posX : Int := (gb.oamByte i 1).toNat - 8
  ¬ ((posY > lineNum.val ∨ posY + spriteHeight gb.regLcdc ≤ lineNum.val) ∨
    (posX < -7 ∨ posX ≥ 160))

instance (lineNum : Fin 144) (gb : Gb) (i : Fin 40) : Decidable (OnLine lineNum gb i) := by
  unfold OnLine
  infer_instance

/-- `sorted_oam`: the indices of the sprites on the line, stably sorted by X, ten at most. -/
def sortedOam (lineNum : Fin 144) (gb : Gb) : List (Fin 40) :=
  let onLine := (List.finRange 40).filter fun i => OnLine lineNum gb i
  (onLine.insertionSort fun i j => (gb.oamByte i 1).toNat ≤ (gb.oamByte j 1).toNat).take 10

/-- One pixel of a sprite. -/
def drawSpritePixel (lineNum : Fin 144) (gb : Gb) (i : Fin 40) (pixelInd : Int) (j : Fin 8) :
    PpuM Unit := do
  let flags := gb.oamByte i 3
  let obp := if isBitSet flags 4 then gb.regObp1 else gb.regObp0
  let xDraw : Int := (gb.oamByte i 1).toNat - 8 + j.val
  if h : xDraw < 0 ∨ xDraw ≥ 160 then
    return
  else
    let x : Fin 160 := ⟨xDraw.toNat, by omega⟩
    let res ← tilePixel pixelInd (if isBitSet flags 5 then 7 - j.val else j.val) gb
    if res = 0 then
      return
    if isBitSet flags 7 then
      if (← get).bgBuffer lineNum x = 0 then
        modify (setBg lineNum x (mapColors res obp))
    else
      modify (setSprite lineNum x (mapColors res obp))

/-- The loop over the columns of one sprite. -/
def drawSprite (lineNum : Fin 144) (gb : Gb) (i : Fin 40) : PpuM Unit := do
  let posY : Int := (gb.oamByte i 0).toNat - 16
  let isBigSprite := (gb.regLcdc &&& kMaskObjSpriteSize) ≠ 0
  let tileInd := if isBigSprite then gb.oamByte i 2 &&& 0xFE else gb.oamByte i 2
  let yTilePixel : Int :=
    if isBitSet (gb.oamByte i 3) 6 then (if isBigSprite then 15 else 7) - (lineNum.val - posY)
    else lineNum.val - posY
  let pixelInd := tileInd.toNat * 16 + yTilePixel * 2
  (List.finRange 8).forM (drawSpritePixel lineNum gb i pixelInd)

def drawSpriteToLine (lineNum : Fin 144) (gb : Gb) : PpuM Unit := do
  if (gb.regLcdc &&& kMaskObjSpriteDisp) = 0 then
    return
  if (← get).uiRenderSprites = true then
    (sortedOam lineNum gb).reverse.forM (drawSprite lineNum gb)

/-! ## Pictures -/

/-- One entry of `color_palette`. -/
structure Rgb where
  r : U8
  g : U8
  b : U8
deriving DecidableEq, Repr

/-- `color_palette`. -/
abbrev Palette := Color → Rgb

/-- The pixels of a screen. -/
abbrev Picture := Fin 144 → Fin 160 → BitVec 32

/-- `ToTextureColor`. -/
def toTextureColor (c : Rgb) : BitVec 32 :=
  (c.r.setWidth 32 <<< 16) ||| (c.g.setWidth 32 <<< 8) ||| c.b.setWidth 32

/-- `GameWindow::DrawToScreen`: the texture that is shown, if the LCD is on. The sprites that
    are put over the background leave the sprite buffer. -/
def drawToScreen (palette : Palette) (gb : Gb) (p : Ppu) : Option Picture × Ppu :=
  if (gb.regLcdc &&& kMaskLcdControl) = 0 then (none, p)
  else
    let pixels : Picture := fun y x =>
      if p.uiRenderBg ∨ p.uiRenderWndw then toTextureColor (palette (p.bgBuffer y x))
      else toTextureColor ⟨242, 255, 217⟩
    if p.uiRenderSprites then
      (some fun y x =>
        match p.spriteBuffer y x with
        | none => pixels y x
        | some val => toTextureColor (palette val),
        { p with spriteBuffer := fun _ _ => none })
    else (some pixels, p)

/-- The pixels that `DummyWindow::SaveScreenshot` writes, with `ppu_` set. -/
def saveScreenshot (palette : Palette) (p : Ppu) : Picture := fun y x =>
  match p.spriteBuffer y x with
  | some idx => 0xFF000000#32 ||| toTextureColor (palette idx)
  | none => 0xFF000000#32 ||| toTextureColor (palette (p.bgBuffer y x))

end Ppu

end TlmBoy
