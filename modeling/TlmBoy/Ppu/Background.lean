import TlmBoy.Ppu.Plane

/-
  The background: the line loop of `DrawBgToLine` and the plane loop of
  `ExtGameWindow::DrawToScreen`.

  Both loops are modelled as they are written, and each is proved to show the pixels of
  `tilePlane`: the first one along the line, moved by SCX and SCY and wrapped around, the second
  one all of them. Each round of either finds its tile and its row inside video RAM.
-/

namespace TlmBoy

open StateExcept Cellwise

namespace Ppu

/-! ## `DrawBgToLine` -/

/-- The pixel of the plane at a column of a line. -/
def bgColor (lineNum : Fin 144) (gb : Gb) (x : Fin 160) : Color :=
  tilePlane kMaskBgTileSlct gb ((lineNum.val + gb.regScrollY.toNat) % 256)
    ((x.val + gb.regScrollX.toNat) % 256)

theorem drawBgPixel_acts (lineNum : Fin 144) (gb : Gb) (i : Fin 160) :
    Acts Fault (mapLine lineNum) (drawBgPixel lineNum gb i)
      (atCell i fun d => (bgColor lineNum gb i, d.2)) := by
  intro p
  obtain ⟨tile, htile, hpixel⟩ := fetch_ok kMaskBgTileSlct gb
    (y := (lineNum.val + gb.regScrollY.toNat) % 256) (x := (i.val + gb.regScrollX.toNat) % 256)
    (by omega) (by omega)
  have hrow : (gb.regScrollY.toNat + lineNum.val) % 8 =
      (lineNum.val + gb.regScrollY.toNat) % 256 % 8 := by
    omega
  have hcolumn : (gb.regScrollX.toNat + i.val) % 8 =
      (i.val + gb.regScrollX.toNat) % 256 % 8 := by
    omega
  have hscroll : gb.regScrollX.toNat + i.val = i.val + gb.regScrollX.toNat := by
    omega
  have hassert : 32 * ((lineNum.val + gb.regScrollY.toNat) % 256 / 8) +
      (gb.regScrollX.toNat + i.val) % 256 / 8 < 1024 := by
    omega
  unfold drawBgPixel
  dsimp only
  rw [hrow, hcolumn, cAssert_pos hassert]
  simp only [Nat.cast_add, Nat.cast_mul, Nat.cast_ofNat, hscroll]
  rw [bind_of_ok (lift_of_ok htile p), bind_of_ok (lift_of_ok hpixel p), ← setBg_eq]
  rfl

/-- What `DrawBgToLine` leaves at a column: the plane, or white where the guest or the user has
    switched the background off. -/
def bgShown (lineNum : Fin 144) (gb : Gb) (uiRenderBg : Bool) (x : Fin 160) : Color :=
  if (gb.regLcdc &&& kMaskBgWndwDisp) ≠ 0 ∧ uiRenderBg = true then bgColor lineNum gb x else 0

theorem drawBgToLine_eq (lineNum : Fin 144) (gb : Gb) (p : Ppu) :
    drawBgToLine lineNum gb p =
      .ok ((), p.mapLine lineNum fun x d => (bgShown lineNum gb p.uiRenderBg x, d.2)) := by
  unfold drawBgToLine bgShown
  by_cases hdraw : (gb.regLcdc &&& kMaskBgWndwDisp) ≠ 0 ∧ p.uiRenderBg = true
  · have hloop := Acts.forM_cells (mapLine_action lineNum) (List.nodup_finRange 160)
      List.mem_finRange (drawBgPixel_acts lineNum gb) p
    simp only [if_pos hdraw]
    exact (congrFun (if_pos hdraw) p).trans hloop
  · simp only [if_neg hdraw]
    rw [← clearBgLine_eq]
    exact congrFun (if_neg hdraw) p

/-! ## The plane loop of `ExtGameWindow::DrawToScreen` -/

/-- The texture of the window that shows the whole plane. -/
abbrev Texture := Fin 256 → Fin 256 → BitVec 32

/-- `pixels[y * log_width + x] = v`. -/
def setTexel (y x : Fin 256) (v : BitVec 32) (t : Texture) : Texture :=
  Function.update t y (Function.update (t y) x v)

/-- `val` at a pixel of the plane. -/
def extGamePixel (gb : Gb) (y x : Fin 256) : Except Fault Color := do
  let lcdc := gb.regLcdc
  let yTile := y.val / 8
  let yTilePixel := y.val % 8
  let xTile := x.val / 8
  let xTilePixel := x.val % 8
  let bgTileInd := yTile * 32 + xTile
  let tileInd ← gb.videoByte (tileMap kMaskBgTileSlct lcdc + bgTileInd)
  let tileInd := tileInd + tileBias lcdc
  let pixelInd := tileInd.toNat * 16 + 2 * yTilePixel
  let val ← tilePixel (tileDataTable lcdc + pixelInd) xTilePixel gb
  return mapColors val gb.regBgp

/-- The loop over the plane, before the screen and its frame are drawn over it. -/
def extGamePlane (palette : Palette) (gb : Gb) : StateT Texture (Except Fault) Unit :=
  (List.finRange 256).forM fun y => (List.finRange 256).forM fun x => do
    let val ← extGamePixel gb y x
    modify (setTexel y x (toTextureColor (palette val)))

theorem extGamePixel_eq (gb : Gb) (y x : Fin 256) :
    extGamePixel gb y x = .ok (tilePlane kMaskBgTileSlct gb y x) := by
  obtain ⟨tile, htile, hpixel⟩ := fetch_ok kMaskBgTileSlct gb y.isLt x.isLt
  unfold extGamePixel
  dsimp only
  simp only [Nat.cast_add, Nat.cast_mul, Nat.cast_ofNat]
  rw [mul_comm ((y.val / 8 : Nat) : Int), htile, ok_bind, hpixel, ok_bind]
  rfl

/-- A function for each texel, applied to the texture. -/
def mapTexture (f : Fin 256 × Fin 256 → BitVec 32 → BitVec 32) (t : Texture) : Texture :=
  fun y x => f (y, x) (t y x)

theorem mapTexture_action : CellAction mapTexture where
  id _ := rfl
  comp _ _ _ := rfl

theorem setTexel_eq (y x : Fin 256) (v : BitVec 32) (t : Texture) :
    setTexel y x v t = mapTexture (atCell (y, x) fun _ => v) t := by
  funext y' x'
  unfold setTexel mapTexture atCell
  by_cases hy : y' = y
  · subst hy
    by_cases hx : x' = x
    · simp [hx]
    · simp [hx]
  · simp [hy]

theorem extGamePlane_eq (palette : Palette) (gb : Gb) (t : Texture) :
    extGamePlane palette gb t = .ok ((), fun y x =>
      toTextureColor (palette (tilePlane kMaskBgTileSlct gb y x))) := by
  let shown : Fin 256 × Fin 256 → BitVec 32 → BitVec 32 := fun k _ =>
    toTextureColor (palette (tilePlane kMaskBgTileSlct gb k.1 k.2))
  have hround : ∀ y x : Fin 256, Acts Fault mapTexture
      (do
        let val ← extGamePixel gb y x
        modify (setTexel y x (toTextureColor (palette val))))
      (atCell (y, x) (shown (y, x))) := by
    intro y x t
    rw [bind_of_ok (lift_of_ok (extGamePixel_eq gb y x) t), ← setTexel_eq]
    rfl
  have hrow : ∀ y : Fin 256, Acts Fault mapTexture
      ((List.finRange 256).forM fun x => do
        let val ← extGamePixel gb y x
        modify (setTexel y x (toTextureColor (palette val))))
      (fun k b => atCell y (fun b => shown k b) k.1 b) := by
    intro y
    have hnodup : ((List.finRange 256).map fun x => (y, x)).Nodup :=
      (List.nodup_finRange 256).map (Prod.mk_right_injective y)
    refine Acts.congr (Acts.forM mapTexture_action _ fun x _ => hround y x) fun k b => ?_
    have hmem : k ∈ (List.finRange 256).map (fun x => (y, x)) ↔ k.1 = y := by
      rw [List.mem_map]
      exact ⟨fun ⟨_, _, hx⟩ => congrArg Prod.fst hx.symm,
        fun hk => ⟨k.2, List.mem_finRange _, Prod.ext hk.symm rfl⟩⟩
    rw [foldl_atCell_map hnodup]
    simp only [hmem]
    rfl
  refine (Acts.congr (Acts.forM mapTexture_action _ fun y _ => hrow y) (g := shown)
    fun k b => ?_) t
  rw [foldl_atCell (List.nodup_finRange 256), if_pos (List.mem_finRange _)]

/-! ## The background of a line -/

/-- With the background on, a line shows the plane moved by SCX and SCY, which is also what the
    window of the whole plane shows there; nothing outside of video RAM is read. -/
theorem bg_line_shows_plane (palette : Palette) (lineNum : Fin 144) (gb : Gb) (p : Ppu)
    (t : Texture) (hon : (gb.regLcdc &&& kMaskBgWndwDisp) ≠ 0) (hui : p.uiRenderBg = true) :
    ∃ p' t', drawBgToLine lineNum gb p = .ok ((), p') ∧ extGamePlane palette gb t = .ok ((), t') ∧
      ∀ x : Fin 160, ∃ planeY planeX : Fin 256,
        planeY.val = (lineNum.val + gb.regScrollY.toNat) % 256 ∧
        planeX.val = (x.val + gb.regScrollX.toNat) % 256 ∧
        p'.bgBuffer lineNum x = tilePlane kMaskBgTileSlct gb planeY planeX ∧
        extGamePixel gb planeY planeX = .ok (p'.bgBuffer lineNum x) ∧
        t' planeY planeX = toTextureColor (palette (p'.bgBuffer lineNum x)) ∧
        InVram (mapAddr kMaskBgTileSlct gb.regLcdc planeY planeX) ∧
        InVram (rowAddr kMaskBgTileSlct gb planeY planeX) ∧
        InVram (rowAddr kMaskBgTileSlct gb planeY planeX + 1) := by
  refine ⟨_, _, drawBgToLine_eq lineNum gb p, extGamePlane_eq palette gb t, fun x => ?_⟩
  have hcolor : (p.mapLine lineNum fun x d => (bgShown lineNum gb p.uiRenderBg x, d.2)).bgBuffer
      lineNum x = bgColor lineNum gb x := by
    have hdot := congrArg Prod.fst (dot_mapLine lineNum
      (fun x d => (bgShown lineNum gb p.uiRenderBg x, d.2)) p lineNum x)
    rw [if_pos rfl] at hdot
    exact hdot.trans (if_pos ⟨hon, hui⟩)
  have hpixel := extGamePixel_eq gb ⟨(lineNum.val + gb.regScrollY.toNat) % 256, by omega⟩
    ⟨(x.val + gb.regScrollX.toNat) % 256, by omega⟩
  refine ⟨⟨_, by omega⟩, ⟨_, by omega⟩, rfl, rfl, hcolor, ?_, ?_, ?_, inVram_rowAddr ..⟩
  · rw [hcolor]
    exact hpixel
  · rw [hcolor]
    rfl
  · exact inVram_mapAddr _ _ (by omega) (by omega)

/-- The devices at power on, with LCD and background switched on. -/
def lcdOn : Gb := (Gb.powerOn .blank).setIoReg 0x30 0x91

/-- The background on at SCY = 7 and SCX = 13, with the tile 0x85 in the second row and third column
    of the map. Tiles are numbered from 0x9000, and row 4 of this one starts with colour 2, which
    BGP makes 1. -/
def scrolled : Gb :=
  { (((lcdOn.setIoReg 0x30 0x81).setIoReg 0x32 7).setIoReg 0x33 13).setIoReg 0x37 0x1B with
    videoRam := ⟨fun i => if i.val = 0x1822 then 0x85 else if i.val = 0x859 then 0x80 else 0⟩ }

theorem bg_line_5 : ((scrolled.regLcdc &&& kMaskBgWndwDisp) ≠ 0 ∧ (init 0).uiRenderBg = true) ∧
    ∃ p', drawBgToLine 5 scrolled (init 0) = .ok ((), p') ∧ p'.bgBuffer 5 3 = 1 := by
  have hon : (scrolled.regLcdc &&& kMaskBgWndwDisp) ≠ 0 := by decide
  obtain ⟨p', t', hdraw, -, hpixels⟩ :=
    bg_line_shows_plane (fun _ => ⟨0, 0, 0⟩) 5 scrolled (init 0) (fun _ _ => 0) hon rfl
  obtain ⟨planeY, planeX, hy, hx, hcolor, -⟩ := hpixels 3
  obtain rfl : planeY = 12 := Fin.ext hy
  obtain rfl : planeX = 16 := Fin.ext hx
  have hplane : tilePlane kMaskBgTileSlct scrolled 12 16 = 1 := by decide +kernel
  exact ⟨⟨hon, rfl⟩, p', hdraw, hcolor.trans hplane⟩

end Ppu

end TlmBoy
