import TlmBoy.Lib.Cellwise
import TlmBoy.Ppu.Draw

/-
  The 256x256 plane of a tile map, and the dots of a line.

  `tilePlane` is the plane as the hardware has it, by addresses: a 32x32 map of tile numbers, and
  tiles of eight rows of two bytes that start at 0x8000, or around 0x9000 with signed numbers.
  A dot is what a line shows at one column, the background and a sprite pixel over it. The loops
  that draw a line act on its dots one by one (`Cellwise`).
-/

namespace TlmBoy

open StateExcept Cellwise

/-! ## Video RAM by address -/

/-- An address of video RAM. -/
def InVram (adr : Int) : Prop := 0x8000 ≤ adr ∧ adr ≤ 0x9FFF

instance (adr : Int) : Decidable (InVram adr) := by
  unfold InVram
  infer_instance

/-- A byte of video RAM by its address. -/
def Gb.vramAt (adr : Int) (gb : Gb) : U8 :=
  if h : InVram adr then
    gb.videoRam.data ⟨(adr - 0x8000).toNat, by unfold InVram at h; omega⟩
  else 0

theorem Gb.videoByte_ok (gb : Gb) {offset : Int} (h : InVram (0x8000 + offset)) :
    gb.videoByte offset = .ok (gb.vramAt (0x8000 + offset)) := by
  have hin : 0 ≤ offset ∧ offset < 8192 := by
    unfold InVram at h
    omega
  have hadr : 0x8000 + offset - 0x8000 = offset := by omega
  unfold Gb.videoByte Gb.vramAt
  rw [dif_pos hin, dif_pos h]
  simp only [hadr]

namespace Ppu

/-! ## Colours -/

/-- The colour number of column `x` in a row of a tile, from its two bytes. -/
def rowColor (low high : U8) (x : Nat) : Color :=
  BitVec.ofBool (high.getLsbD (7 - x)) ++ BitVec.ofBool (low.getLsbD (7 - x))

theorem interleaveBits_eq (low high : U8) {x : Nat} (hx : x < 8) :
    interleaveBits low high (7 - x) = rowColor low high x := by
  have hbit : ∀ (a : U8) (x : Fin 8),
      (a &&& 1 <<< (7 - x.val) = 1 <<< (7 - x.val)) ↔ a.getLsbD (7 - x.val) = true := by
    decide +kernel
  have hlow := hbit low ⟨x, hx⟩
  have hhigh := hbit high ⟨x, hx⟩
  unfold interleaveBits rowColor
  simp only [hlow, hhigh]
  cases high.getLsbD (7 - x) <;> cases low.getLsbD (7 - x) <;> rfl

/-- The colour number of a tile row by the address of its first byte. -/
def rowPixel (adr : Int) (x : Nat) (gb : Gb) : Color :=
  rowColor (gb.vramAt adr) (gb.vramAt (adr + 1)) x

theorem tilePixel_ok (gb : Gb) {offset : Int} {x : Nat} (hx : x < 8)
    (hlow : InVram (0x8000 + offset)) (hhigh : InVram (0x8000 + offset + 1)) :
    tilePixel offset x gb = .ok (rowPixel (0x8000 + offset) x gb) := by
  unfold tilePixel
  rw [gb.videoByte_ok hlow, ok_bind, gb.videoByte_ok (by rwa [← Int.add_assoc]), ok_bind,
    interleaveBits_eq _ _ hx, ← Int.add_assoc]
  rfl

/-! ## The plane -/

/-- Where the cell of row `y` and column `x` of the plane is in the selected map. -/
def mapAddr (select lcdc : U8) (y x : Nat) : Int :=
  (if (lcdc &&& select) ≠ 0 then 0x9C00 else 0x9800) + 32 * (y / 8 : Nat) + (x / 8 : Nat)

/-- Where a tile begins, by its number. -/
def tileAddr (lcdc tile : U8) : Int :=
  if (lcdc &&& kMaskBgWndwTileDataSlct) ≠ 0 then 0x8000 + 16 * tile.toNat
  else 0x9000 + 16 * tile.toInt

/-- Where the row `y` of the plane is in the data of its tile at column `x`. -/
def rowAddr (select : U8) (gb : Gb) (y x : Nat) : Int :=
  tileAddr gb.regLcdc (gb.vramAt (mapAddr select gb.regLcdc y x)) + 2 * (y % 8 : Nat)

/-- The colour of a pixel of the plane, by the background palette. -/
def tilePlane (select : U8) (gb : Gb) (y x : Nat) : Color :=
  mapColors (rowPixel (rowAddr select gb y x) (x % 8) gb) gb.regBgp

theorem inVram_mapAddr (select lcdc : U8) {y x : Nat} (hy : y < 256) (hx : x < 256) :
    InVram (mapAddr select lcdc y x) := by
  unfold InVram mapAddr
  split_ifs <;> omega

theorem inVram_rowAddr (select : U8) (gb : Gb) (y x : Nat) :
    InVram (rowAddr select gb y x) ∧ InVram (rowAddr select gb y x + 1) := by
  unfold rowAddr tileAddr InVram
  generalize gb.vramAt (mapAddr select gb.regLcdc y x) = tile
  have hlt := tile.isLt
  have hlow := BitVec.le_toInt tile
  have hhigh := BitVec.toInt_lt (x := tile)
  split_ifs <;> omega

/-- The two tables and the wraparound of the tile number find the row. -/
theorem tileDataTable_eq (lcdc tile : U8) (y : Int) :
    0x8000 + ((tileDataTable lcdc : Int) + ((tile + tileBias lcdc).toNat * 16 + 2 * y)) =
      tileAddr lcdc tile + 2 * y := by
  have hsigned : ∀ tile : U8, ((tile + 128).toNat : Int) = tile.toInt + 128 := by
    decide +kernel
  unfold tileDataTable tileBias tileAddr
  split_ifs
  · rw [show tile + 0 = tile from BitVec.add_zero tile]
    omega
  · rw [hsigned]
    omega

theorem tileMap_eq (select lcdc : U8) (y x : Nat) :
    0x8000 + ((tileMap select lcdc : Int) + (32 * (y / 8 : Nat) + (x / 8 : Nat) : Int)) =
      mapAddr select lcdc y x := by
  unfold tileMap mapAddr
  split_ifs <;> omega

/-- The two reads by which a loop finds the colour number of a pixel of the plane. -/
theorem fetch_ok (select : U8) (gb : Gb) {y x : Nat} (hy : y < 256) (hx : x < 256) :
    ∃ tile, gb.videoByte
        (tileMap select gb.regLcdc + (32 * (y / 8 : Nat) + (x / 8 : Nat) : Int)) = .ok tile ∧
      tilePixel (tileDataTable gb.regLcdc +
          ((tile + tileBias gb.regLcdc).toNat * 16 + 2 * (y % 8 : Nat) : Int)) (x % 8) gb =
        .ok (rowPixel (rowAddr select gb y x) (x % 8) gb) := by
  have hmap := inVram_mapAddr select gb.regLcdc hy hx
  obtain ⟨hlow, hhigh⟩ := inVram_rowAddr select gb y x
  have hrow := tileDataTable_eq gb.regLcdc (gb.vramAt (mapAddr select gb.regLcdc y x)) (y % 8 : Nat)
  rw [← tileMap_eq] at hmap
  refine ⟨_, gb.videoByte_ok hmap, ?_⟩
  rw [tileMap_eq]
  unfold rowAddr at hlow hhigh ⊢
  rw [← hrow] at hlow hhigh ⊢
  exact tilePixel_ok gb (Nat.mod_lt _ (by decide)) hlow hhigh

/-! ## Dots -/

/-- What a line shows at a column: the background, and a sprite pixel over it. -/
abbrev Dot := Color × Option Color

def dot (y : Fin 144) (x : Fin 160) (p : Ppu) : Dot := (p.bgBuffer y x, p.spriteBuffer y x)

/-- A function for each column of a line, applied to its dots. -/
def mapLine (y : Fin 144) (f : Fin 160 → Dot → Dot) (p : Ppu) : Ppu :=
  { p with
    bgBuffer := Function.update p.bgBuffer y fun x => (f x (p.dot y x)).1
    spriteBuffer := Function.update p.spriteBuffer y fun x => (f x (p.dot y x)).2 }

theorem dot_mapLine (y : Fin 144) (f : Fin 160 → Dot → Dot) (p : Ppu) (y' : Fin 144)
    (x : Fin 160) : (p.mapLine y f).dot y' x = if y' = y then f x (p.dot y' x) else p.dot y' x := by
  unfold mapLine dot
  by_cases hy : y' = y
  · subst hy
    simp
  · simp [hy]

theorem mapLine_action (y : Fin 144) : CellAction (mapLine y) where
  id p := by
    unfold mapLine dot
    simp
  comp f g p := by
    unfold mapLine dot
    simp

/-- Only what a function does to the dots at hand counts. -/
theorem mapLine_congr {y : Fin 144} {f g : Fin 160 → Dot → Dot} {p : Ppu}
    (h : ∀ x, f x (p.dot y x) = g x (p.dot y x)) : p.mapLine y f = p.mapLine y g := by
  unfold mapLine
  simp only [h]

theorem mapLine_same {y : Fin 144} {f : Fin 160 → Dot → Dot} {p : Ppu}
    (h : ∀ x, f x (p.dot y x) = p.dot y x) : p.mapLine y f = p :=
  (mapLine_congr h).trans ((mapLine_action y).id p)

theorem mapLine_bg (y : Fin 144) (f : Fin 160 → Dot → Dot) (p : Ppu)
    (hsprite : ∀ x, (f x (p.dot y x)).2 = p.spriteBuffer y x) :
    p.mapLine y f =
      { p with bgBuffer := Function.update p.bgBuffer y fun x => (f x (p.dot y x)).1 } := by
  unfold mapLine
  simp only [hsprite, Function.update_eq_self]

theorem mapLine_sprite (y : Fin 144) (f : Fin 160 → Dot → Dot) (p : Ppu)
    (hbg : ∀ x, (f x (p.dot y x)).1 = p.bgBuffer y x) :
    p.mapLine y f =
      { p with spriteBuffer :=
          Function.update p.spriteBuffer y fun x => (f x (p.dot y x)).2 } := by
  unfold mapLine
  simp only [hbg, Function.update_eq_self]

theorem setBg_eq (y : Fin 144) (x : Fin 160) (v : Color) (p : Ppu) :
    p.setBg y x v = p.mapLine y (atCell x fun d => (v, d.2)) := by
  rw [mapLine_bg y _ p fun k => ?_]
  · unfold setBg
    congr 2
    funext k
    unfold atCell dot
    rw [Function.update_apply]
    split_ifs <;> rfl
  · unfold atCell dot
    split_ifs <;> rfl

theorem setSprite_eq (y : Fin 144) (x : Fin 160) (v : Color) (p : Ppu) :
    p.setSprite y x v = p.mapLine y (atCell x fun d => (d.1, some v)) := by
  rw [mapLine_sprite y _ p fun k => ?_]
  · unfold setSprite
    congr 2
    funext k
    unfold atCell dot
    rw [Function.update_apply]
    split_ifs <;> rfl
  · unfold atCell dot
    split_ifs <;> rfl

theorem clearBgLine_eq (y : Fin 144) (p : Ppu) :
    p.clearBgLine y = p.mapLine y fun _ d => (0, d.2) :=
  (mapLine_bg y (fun _ d => (0, d.2)) p fun _ => rfl).symm

end Ppu

end TlmBoy
