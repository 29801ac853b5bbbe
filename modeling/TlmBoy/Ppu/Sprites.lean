import TlmBoy.Ppu.Background

/-
  What a sprite paints on a line.

  `spritePixel` is a sprite's pixel as the hardware has it: the row of the line in the sprite,
  mirrored within its height, in one tile or in the two tiles of a tall sprite. The loop of
  `DrawSpriteToLine` computes one flat offset instead; it finds the same bytes. `pixelsAt` are the
  pixels at a column, the first sprite's first, and drawing paints them from the last one to the
  first (`drawSpriteToLine_eq`).
-/

namespace TlmBoy

open StateExcept Cellwise

namespace Ppu

/-! ## One sprite -/

def spriteY (gb : Gb) (i : Fin 40) : Int := (gb.oamByte i 0).toNat - 16
def spriteX (gb : Gb) (i : Fin 40) : Int := (gb.oamByte i 1).toNat - 8

/-- The row of the sprite that lies on the line, mirrored by the y-flip bit. -/
def spriteRow (lineNum : Fin 144) (gb : Gb) (i : Fin 40) : Nat :=
  let r := (lineNum.val - spriteY gb i).toNat
  if isBitSet (gb.oamByte i 3) 6 then spriteHeight gb.regLcdc - 1 - r else r

/-- The tile of that row: the upper or the lower one of a tall sprite. -/
def spriteTile (lineNum : Fin 144) (gb : Gb) (i : Fin 40) : Nat :=
  if (gb.regLcdc &&& kMaskObjSpriteSize) ≠ 0 then
    (gb.oamByte i 2 &&& 0xFE).toNat + spriteRow lineNum gb i / 8
  else (gb.oamByte i 2).toNat

/-- Where that row is in the tile data. -/
def spriteRowAddr (lineNum : Fin 144) (gb : Gb) (i : Fin 40) : Int :=
  0x8000 + 16 * (spriteTile lineNum gb i : Int) + 2 * (spriteRow lineNum gb i % 8 : Nat)

/-- The colour number of a column of the sprite on the line, mirrored by the x-flip bit. -/
def spriteColor (lineNum : Fin 144) (gb : Gb) (i : Fin 40) (j : Fin 8) : Color :=
  rowPixel (spriteRowAddr lineNum gb i) (if isBitSet (gb.oamByte i 3) 5 then 7 - j else j) gb

/-- The object palette of the sprite. -/
def spritePalette (gb : Gb) (i : Fin 40) : U8 :=
  if isBitSet (gb.oamByte i 3) 4 then gb.regObp1 else gb.regObp0

/-- A pixel of a sprite that is not transparent: its colour, and whether it is behind the
    background. -/
structure Pixel where
  color : Color
  behind : Bool
deriving DecidableEq, Repr

def spritePixel (lineNum : Fin 144) (gb : Gb) (i : Fin 40) (j : Fin 8) : Option Pixel :=
  if spriteColor lineNum gb i j = 0 then none
  else some {
    color := mapColors (spriteColor lineNum gb i j) (spritePalette gb i)
    behind := isBitSet (gb.oamByte i 3) 7 }

/-- The sprite's pixel at a column of the screen. -/
def spritePixelAt (lineNum : Fin 144) (gb : Gb) (x : Fin 160) (i : Fin 40) : Option Pixel :=
  if h : 0 ≤ x.val - spriteX gb i ∧ x.val - spriteX gb i < 8 then
    spritePixel lineNum gb i ⟨(x.val - spriteX gb i).toNat, by omega⟩
  else none

/-- Where a pixel goes: behind the background if that is white, else over it. -/
def Pixel.paint (px : Pixel) (d : Dot) : Dot :=
  if px.behind then (if d.1 = 0 then (px.color, d.2) else d) else (d.1, some px.color)

def paintOption (px : Option Pixel) (d : Dot) : Dot := px.elim d fun px => px.paint d

/-! ## The flat offset -/

/-- `pixel_ind`. -/
def pixelInd (lineNum : Fin 144) (gb : Gb) (i : Fin 40) : Int :=
  let posY : Int := (gb.oamByte i 0).toNat - 16
  let isBigSprite := (gb.regLcdc &&& kMaskObjSpriteSize) ≠ 0
  let tileInd := if isBigSprite then gb.oamByte i 2 &&& 0xFE else gb.oamByte i 2
  let yTilePixel : Int :=
    if isBitSet (gb.oamByte i 3) 6 then (if isBigSprite then 15 else 7) - (lineNum.val - posY)
    else lineNum.val - posY
  tileInd.toNat * 16 + yTilePixel * 2

theorem drawSprite_eq (lineNum : Fin 144) (gb : Gb) (i : Fin 40) :
    drawSprite lineNum gb i =
      (List.finRange 8).forM (drawSpritePixel lineNum gb i (pixelInd lineNum gb i)) := rfl

theorem spriteHeight_cases (lcdc : U8) :
    ((lcdc &&& kMaskObjSpriteSize) ≠ 0 ∧ spriteHeight lcdc = 16) ∨
      ((lcdc &&& kMaskObjSpriteSize) = 0 ∧ spriteHeight lcdc = 8) := by
  unfold spriteHeight
  by_cases hbig : (lcdc &&& kMaskObjSpriteSize) ≠ 0
  · exact .inl ⟨hbig, if_pos hbig⟩
  · exact .inr ⟨not_not.mp hbig, if_neg hbig⟩

theorem spriteRow_lt {lineNum : Fin 144} {gb : Gb} {i : Fin 40} (h : OnLine lineNum gb i) :
    spriteRow lineNum gb i < spriteHeight gb.regLcdc := by
  have hheight := spriteHeight_cases gb.regLcdc
  unfold OnLine at h
  unfold spriteRow spriteY
  dsimp only at h ⊢
  split_ifs <;> omega

/-- The offset of a sprite on the line is that of its row, in the first half of the tile data. -/
theorem pixelInd_eq {lineNum : Fin 144} {gb : Gb} {i : Fin 40} (h : OnLine lineNum gb i) :
    0x8000 + pixelInd lineNum gb i = spriteRowAddr lineNum gb i ∧
      0 ≤ pixelInd lineNum gb i ∧ pixelInd lineNum gb i + 1 < 0x1000 := by
  have heven : ∀ tile : U8, (tile &&& 0xFE).toNat ≤ 254 := by
    decide +kernel
  have htile := heven (gb.oamByte i 2)
  have hbyte := (gb.oamByte i 2).isLt
  have hrow := spriteRow_lt h
  unfold OnLine at h
  unfold spriteRowAddr spriteTile pixelInd
  unfold spriteRow spriteY at hrow ⊢
  dsimp only at h hrow ⊢
  obtain ⟨hbig, hheight⟩ | ⟨hsmall, hheight⟩ := spriteHeight_cases gb.regLcdc
  · rw [hheight] at h hrow ⊢
    simp only [if_pos hbig]
    split_ifs at hrow ⊢ <;> omega
  · rw [hheight] at h hrow ⊢
    simp only [hsmall, ne_eq, not_true_eq_false, if_false]
    split_ifs at hrow ⊢ <;> omega

/-! ## Drawing -/

theorem spriteColor_read {lineNum : Fin 144} {gb : Gb} {i : Fin 40} (h : OnLine lineNum gb i)
    (j : Fin 8) :
    tilePixel (pixelInd lineNum gb i)
      (if isBitSet (gb.oamByte i 3) 5 then 7 - j.val else j.val) gb =
        .ok (spriteColor lineNum gb i j) := by
  obtain ⟨hrow, hlow, hhigh⟩ := pixelInd_eq h
  unfold spriteColor
  rw [← hrow]
  have hcolumn : (if isBitSet (gb.oamByte i 3) 5 then 7 - j.val else j.val) < 8 := by
    split_ifs <;> omega
  refine tilePixel_ok gb hcolumn ?_ ?_
  · unfold InVram
    omega
  · unfold InVram
    omega

/-- The end of a round. -/
theorem plot_acts (lineNum : Fin 144) (x : Fin 160) (px : Pixel) :
    Acts Fault (mapLine lineNum)
      (if px.behind = true then do
        if (← get).bgBuffer lineNum x = 0 then
          modify (setBg lineNum x px.color)
      else modify (setSprite lineNum x px.color))
      (atCell x px.paint) := by
  intro p
  have hdot : (p.dot lineNum x).1 = p.bgBuffer lineNum x := rfl
  by_cases hbehind : px.behind = true
  · refine (congrFun (if_pos hbehind) p).trans ?_
    have hpaint : ∀ d, px.paint d = if d.1 = 0 then (px.color, d.2) else d :=
      fun d => if_pos hbehind
    by_cases hwhite : p.bgBuffer lineNum x = 0
    · refine (congrFun (if_pos hwhite) p).trans (congrArg (fun q => Except.ok ((), q)) ?_)
      refine (setBg_eq lineNum x px.color p).trans (mapLine_congr fun k => ?_)
      unfold atCell
      split_ifs with hk
      · rw [hk, hpaint, if_pos (hdot.trans hwhite)]
      · rfl
    · refine (congrFun (if_neg hwhite) p).trans (congrArg (fun q => Except.ok ((), q)) ?_)
      refine (mapLine_same fun k => ?_).symm
      unfold atCell
      split_ifs with hk
      · rw [hk, hpaint, if_neg fun h => hwhite (hdot.symm.trans h)]
      · rfl
  · refine (congrFun (if_neg hbehind) p).trans (congrArg (fun q => Except.ok ((), q)) ?_)
    refine (setSprite_eq lineNum x px.color p).trans (mapLine_congr fun k => ?_)
    unfold atCell Pixel.paint
    rw [if_neg hbehind]

/-- A round paints its pixel, if its column is on the screen. -/
theorem drawSpritePixel_acts {lineNum : Fin 144} {gb : Gb} {i : Fin 40} (h : OnLine lineNum gb i)
    (j : Fin 8) :
    Acts Fault (mapLine lineNum) (drawSpritePixel lineNum gb i (pixelInd lineNum gb i) j)
      (fun x d => if (x.val : Int) = spriteX gb i + j.val then
        paintOption (spritePixel lineNum gb i j) d else d) := by
  intro p
  unfold drawSpritePixel
  dsimp only
  by_cases hout : spriteX gb i + j.val < 0 ∨ spriteX gb i + j.val ≥ 160
  · refine (congrFun (dif_pos hout) p).trans (congrArg (fun q => Except.ok ((), q)) ?_)
    refine (mapLine_same fun x => if_neg ?_).symm
    have := x.isLt
    omega
  · refine (congrFun (dif_neg hout) p).trans ?_
    rw [bind_of_ok (lift_of_ok (spriteColor_read h j) p)]
    have hcell : ∀ x : Fin 160, (x.val : Int) = spriteX gb i + j.val ↔
        x = ⟨(spriteX gb i + j.val).toNat, by omega⟩ := by
      intro x
      rw [Fin.ext_iff]
      dsimp only
      omega
    simp only [hcell]
    by_cases hzero : spriteColor lineNum gb i j = 0
    · have hnone : spritePixel lineNum gb i j = none := if_pos hzero
      rw [if_pos hzero, hnone]
      exact congrArg (fun q => Except.ok ((), q)) (mapLine_same fun x => ite_self _).symm
    · have hsome : spritePixel lineNum gb i j = some ⟨_, _⟩ := if_neg hzero
      rw [if_neg hzero, hsome]
      exact plot_acts lineNum _ ⟨_, _⟩ p

theorem drawSprite_acts {lineNum : Fin 144} {gb : Gb} {i : Fin 40} (h : OnLine lineNum gb i) :
    Acts Fault (mapLine lineNum) (drawSprite lineNum gb i)
      (fun x => paintOption (spritePixelAt lineNum gb x i)) := by
  rw [drawSprite_eq]
  refine Acts.congr (Acts.forM (mapLine_action lineNum) _ fun j _ => drawSpritePixel_acts h j)
    fun x d => ?_
  unfold spritePixelAt
  by_cases hin : 0 ≤ x.val - spriteX gb i ∧ x.val - spriteX gb i < 8
  · rw [dif_pos hin]
    have hcolumn : ∀ j : Fin 8, (x.val : Int) = spriteX gb i + j.val ↔
        (⟨(x.val - spriteX gb i).toNat, by omega⟩ : Fin 8) = j := by
      intro j
      rw [Fin.ext_iff]
      dsimp only
      omega
    simp only [hcolumn]
    exact (foldl_atCell (List.nodup_finRange 8)
      (fun j d => paintOption (spritePixel lineNum gb i j) d) _ d).trans
        (if_pos (List.mem_finRange _))
  · rw [dif_neg hin]
    have hout : ∀ j : Fin 8, ¬ (x.val : Int) = spriteX gb i + j.val := by
      intro j
      have := j.isLt
      omega
    simp only [hout, if_false]
    exact List.foldl_fixed _

/-- The sprites of a line are on the line. -/
theorem onLine_of_mem {lineNum : Fin 144} {gb : Gb} {i : Fin 40}
    (h : i ∈ sortedOam lineNum gb) : OnLine lineNum gb i := by
  have hsorted := List.mem_of_mem_take h
  rw [List.mem_insertionSort, List.mem_filter] at hsorted
  exact of_decide_eq_true hsorted.2

/-- The pixels of the line's sprites at a column, the first sprite's first. -/
def pixelsAt (lineNum : Fin 144) (gb : Gb) (x : Fin 160) : List Pixel :=
  (sortedOam lineNum gb).filterMap (spritePixelAt lineNum gb x)

/-- Sprites are drawn, by the guest and by the user. -/
def DrawsSprites (gb : Gb) (p : Ppu) : Prop :=
  (gb.regLcdc &&& kMaskObjSpriteDisp) ≠ 0 ∧ p.uiRenderSprites = true

theorem foldl_paintOption {ι : Type} (f : ι → Option Pixel) (is : List ι) (d : Dot) :
    is.reverse.foldl (fun d i => paintOption (f i) d) d = (is.filterMap f).foldr Pixel.paint d := by
  rw [List.foldl_reverse]
  induction is with
  | nil => rfl
  | cons i is ih =>
    rw [List.foldr_cons, ih, List.filterMap_cons]
    cases f i <;> rfl

/-- The pixels at a column are painted from the last sprite's to the first one's. -/
theorem drawSpriteToLine_eq (lineNum : Fin 144) {gb : Gb} {p : Ppu} (h : DrawsSprites gb p) :
    drawSpriteToLine lineNum gb p =
      .ok ((), p.mapLine lineNum fun x => (pixelsAt lineNum gb x).foldr Pixel.paint) := by
  have hloop := Acts.forM (mapLine_action lineNum) (sortedOam lineNum gb).reverse
    (fun i hi => drawSprite_acts (onLine_of_mem (List.mem_reverse.mp hi))) p
  have hrun : drawSpriteToLine lineNum gb p =
      (sortedOam lineNum gb).reverse.forM (drawSprite lineNum gb) p :=
    (congrFun (if_neg h.1) p).trans (congrFun (if_pos h.2) p)
  refine hrun.trans (hloop.trans ?_)
  refine congrArg (fun q => Except.ok ((), q)) (mapLine_congr fun x => ?_)
  exact foldl_paintOption _ _ _

theorem drawSpriteToLine_off (lineNum : Fin 144) {gb : Gb} {p : Ppu} (h : ¬ DrawsSprites gb p) :
    drawSpriteToLine lineNum gb p = .ok ((), p) := by
  by_cases hdisp : (gb.regLcdc &&& kMaskObjSpriteDisp) = 0
  · exact congrFun (if_pos hdisp) p
  · exact (congrFun (if_neg hdisp) p).trans (congrFun (if_neg fun hui => h ⟨hdisp, hui⟩) p)

/-! ## A line with one sprite -/

theorem spritePixelAt_column {lineNum : Fin 144} {gb : Gb} {i : Fin 40} {x : Fin 160} {j : Fin 8}
    (h : (x.val : Int) = spriteX gb i + j.val) :
    spritePixelAt lineNum gb x i = spritePixel lineNum gb i j := by
  have hj := j.isLt
  have hin : 0 ≤ x.val - spriteX gb i ∧ x.val - spriteX gb i < 8 := by omega
  have hcolumn : (⟨(x.val - spriteX gb i).toNat, by omega⟩ : Fin 8) = j := by
    rw [Fin.ext_iff]
    dsimp only
    omega
  unfold spritePixelAt
  rw [dif_pos hin, hcolumn]

theorem spritePixelAt_outside {lineNum : Fin 144} {gb : Gb} {i : Fin 40} {x : Fin 160}
    (h : ∀ j : Fin 8, (x.val : Int) ≠ spriteX gb i + j.val) :
    spritePixelAt lineNum gb x i = none := by
  refine dif_neg fun hin => ?_
  refine h ⟨(x.val - spriteX gb i).toNat, by omega⟩ ?_
  dsimp only
  omega

theorem paint_spritePixel (lineNum : Fin 144) (gb : Gb) (i : Fin 40) (j : Fin 8) (d : Dot) :
    paintOption (spritePixel lineNum gb i j) d =
      (if spriteColor lineNum gb i j ≠ 0 ∧ isBitSet (gb.oamByte i 3) 7 = true ∧ d.1 = 0 then
          mapColors (spriteColor lineNum gb i j) (spritePalette gb i)
        else d.1,
      if spriteColor lineNum gb i j ≠ 0 ∧ isBitSet (gb.oamByte i 3) 7 = false then
          some (mapColors (spriteColor lineNum gb i j) (spritePalette gb i))
        else d.2) := by
  unfold spritePixel
  by_cases hzero : spriteColor lineNum gb i j = 0
  · rw [if_pos hzero, if_neg fun h => h.1 hzero, if_neg fun h => h.1 hzero]
    rfl
  · rw [if_neg hzero]
    cases isBitSet (gb.oamByte i 3) 7 with
    | false =>
      rw [if_neg fun h => absurd h.2.1 (by decide), if_pos ⟨hzero, rfl⟩]
      rfl
    | true =>
      rw [if_neg (c := _ ∧ true = false) fun h => absurd h.2 (by decide)]
      by_cases hwhite : d.1 = 0
      · rw [if_pos ⟨hzero, rfl, hwhite⟩]
        exact if_pos hwhite
      · rw [if_neg fun h => hwhite h.2.2]
        exact if_neg hwhite

/-- A sprite that is drawn alone: each of its columns on the screen gets the colour of the
    hardware's formula, in the buffer that its priority flag selects; nothing else changes. -/
theorem one_sprite {lineNum : Fin 144} {gb : Gb} {i : Fin 40} {p : Ppu}
    (hdisp : (gb.regLcdc &&& kMaskObjSpriteDisp) ≠ 0) (hui : p.uiRenderSprites = true)
    (honly : sortedOam lineNum gb = [i]) :
    ∃ p', drawSpriteToLine lineNum gb p = .ok ((), p') ∧
      (∀ (j : Fin 8) (x : Fin 160), (x.val : Int) = spriteX gb i + j.val →
        let c := spriteColor lineNum gb i j
        let mapped := mapColors c (spritePalette gb i)
        p'.bgBuffer lineNum x =
          (if c ≠ 0 ∧ isBitSet (gb.oamByte i 3) 7 = true ∧ p.bgBuffer lineNum x = 0 then mapped
            else p.bgBuffer lineNum x) ∧
        p'.spriteBuffer lineNum x =
          (if c ≠ 0 ∧ isBitSet (gb.oamByte i 3) 7 = false then some mapped
            else p.spriteBuffer lineNum x)) ∧
      (∀ y x, y ≠ lineNum ∨ (∀ j : Fin 8, (x.val : Int) ≠ spriteX gb i + j.val) →
        p'.bgBuffer y x = p.bgBuffer y x ∧ p'.spriteBuffer y x = p.spriteBuffer y x) ∧
      p'.windowLine = p.windowLine ∧
      0 ≤ pixelInd lineNum gb i ∧ pixelInd lineNum gb i + 1 < 0x1000 := by
  have honline : OnLine lineNum gb i :=
    onLine_of_mem (by rw [honly]; exact List.mem_singleton_self i)
  have hdots : ∀ y x,
      (p.mapLine lineNum fun x => (pixelsAt lineNum gb x).foldr Pixel.paint).dot y x =
        if y = lineNum then paintOption (spritePixelAt lineNum gb x i) (p.dot y x)
        else p.dot y x := by
    intro y x
    rw [dot_mapLine]
    unfold pixelsAt
    rw [honly, List.filterMap_cons]
    cases spritePixelAt lineNum gb x i <;> rfl
  refine ⟨_, drawSpriteToLine_eq lineNum ⟨hdisp, hui⟩, ?_, ?_, rfl, (pixelInd_eq honline).2⟩
  · intro j x hx
    have hdot := hdots lineNum x
    rw [if_pos rfl, spritePixelAt_column hx, paint_spritePixel] at hdot
    exact ⟨congrArg Prod.fst hdot, congrArg Prod.snd hdot⟩
  · intro y x hout
    have hsame : (if y = lineNum then paintOption (spritePixelAt lineNum gb x i) (p.dot y x)
        else p.dot y x) = p.dot y x := by
      rcases hout with hy | hx
      · exact if_neg hy
      · rw [spritePixelAt_outside hx]
        exact ite_self _
    have hdot := (hdots y x).trans hsame
    exact ⟨congrArg Prod.fst hdot, congrArg Prod.snd hdot⟩

/-- Tiles in black, sprites on, and an OAM that starts with the given bytes. -/
def spritesOn (oam : List U8) : Gb :=
  { (lcdOn.setIoReg 0x30 0x93).setIoReg 0x38 0xE4 with
    videoRam := ⟨fun _ => 0xFF⟩
    objAttrMem := ⟨fun i => oam.getD i.val 0⟩ }

theorem one_sprite_at_left : ∃ p',
    (((spritesOn [16, 8, 0, 0]).regLcdc &&& kMaskObjSpriteDisp) ≠ 0 ∧
      (init 0).uiRenderSprites = true ∧ sortedOam 0 (spritesOn [16, 8, 0, 0]) = [0]) ∧
    drawSpriteToLine 0 (spritesOn [16, 8, 0, 0]) (init 0) = .ok ((), p') ∧
    p'.spriteBuffer 0 3 = some 3 := by
  have hdisp : ((spritesOn [16, 8, 0, 0]).regLcdc &&& kMaskObjSpriteDisp) ≠ 0 := by decide
  have honly : sortedOam 0 (spritesOn [16, 8, 0, 0]) = [0] := by decide +kernel
  obtain ⟨p', hdraw, hcolumns, -⟩ := one_sprite (p := init 0) hdisp rfl honly
  refine ⟨p', ⟨hdisp, rfl, honly⟩, hdraw, ?_⟩
  rw [(hcolumns 3 3 (by decide)).2]
  decide +kernel

end Ppu

end TlmBoy
