import TlmBoy.Lib.Selection
import TlmBoy.Ppu.Sprites

/-
  Which sprites `DrawSpriteToLine` draws on a line.

  The hardware takes the first ten entries of the OAM whose rows cover the line, and a sprite that
  is off the screen to a side takes a place. The source drops those sprites first, sorts the others
  by X, and keeps ten. A line with more than ten candidates can come out differently
  (`selects_first_ten_iff`).
-/

namespace TlmBoy

open Selection

namespace Ppu

/-- The sprite's rows cover the line. -/
def CoversLine (lineNum : Fin 144) (gb : Gb) (i : Fin 40) : Prop :=
  spriteY gb i ≤ lineNum.val ∧ lineNum.val < spriteY gb i + spriteHeight gb.regLcdc

instance (lineNum : Fin 144) (gb : Gb) (i : Fin 40) : Decidable (CoversLine lineNum gb i) := by
  unfold CoversLine
  infer_instance

/-- A column of the sprite is on the screen. -/
def OnScreen (gb : Gb) (i : Fin 40) : Prop := -7 ≤ spriteX gb i ∧ spriteX gb i < 160

instance (gb : Gb) (i : Fin 40) : Decidable (OnScreen gb i) := by
  unfold OnScreen
  infer_instance

/-- The entries that cover the line, in OAM order. -/
def covering (lineNum : Fin 144) (gb : Gb) : List (Fin 40) :=
  (List.finRange 40).filter fun i => CoversLine lineNum gb i

/-- The entries that the hardware selects. -/
def firstTen (lineNum : Fin 144) (gb : Gb) : List (Fin 40) := (covering lineNum gb).take 10

/-- The X position in the OAM. -/
def oamX (gb : Gb) (i : Fin 40) : Nat := (gb.oamByte i 1).toNat

theorem onLine_iff (lineNum : Fin 144) (gb : Gb) (i : Fin 40) :
    OnLine lineNum gb i ↔ CoversLine lineNum gb i ∧ OnScreen gb i := by
  unfold OnLine CoversLine OnScreen spriteX spriteY
  dsimp only
  omega

theorem pairwise_covering (lineNum : Fin 144) (gb : Gb) :
    (covering lineNum gb).Pairwise (· < ·) :=
  (List.pairwise_lt_finRange 40).filter _

theorem sortedOam_eq (lineNum : Fin 144) (gb : Gb) :
    sortedOam lineNum gb =
      (sortBy (oamX gb) ((covering lineNum gb).filter fun i => OnScreen gb i)).take 10 := by
  have hfilter : (List.finRange 40).filter (fun i => OnLine lineNum gb i) =
      (covering lineNum gb).filter fun i => OnScreen gb i := by
    unfold covering
    rw [List.filter_filter]
    refine List.filter_congr fun i _ => ?_
    rw [← Bool.decide_and]
    exact decide_eq_decide.mpr ((onLine_iff lineNum gb i).trans and_comm)
  unfold sortedOam
  dsimp only
  rw [hfilter]
  rfl

/-- The sprites of a line are drawn in the order of X, then of the OAM. -/
theorem pairwise_sortedOam (lineNum : Fin 144) (gb : Gb) :
    (sortedOam lineNum gb).Pairwise (Before (oamX gb)) := by
  rw [sortedOam_eq]
  exact (pairwise_before (oamX gb) ((pairwise_covering lineNum gb).filter _)).sublist
    (List.take_sublist ..)

/-- The sprites drawn on a line are those of the first ten that are on the screen, and X decides
    their priority only. -/
def SelectsFirstTen (lineNum : Fin 144) (gb : Gb) : Prop :=
  (∀ i, i ∈ sortedOam lineNum gb ↔ i ∈ firstTen lineNum gb ∧ OnScreen gb i) ∧
    (sortedOam lineNum gb).Pairwise (Before (oamX gb))

/-- The selection is the hardware's when no further sprite of the line is on the screen, or the
    first ten are all on it and none is to the right of the further ones. -/
theorem selects_first_ten_iff (lineNum : Fin 144) (gb : Gb) :
    SelectsFirstTen lineNum gb ↔
      ∀ v ∈ covering lineNum gb, v ∉ firstTen lineNum gb → OnScreen gb v →
        ∀ f ∈ firstTen lineNum gb, OnScreen gb f ∧ oamX gb f ≤ oamX gb v := by
  have hselection := filter_sort_take_iff (oamX gb) (OnScreen gb) (pairwise_covering lineNum gb) 10
  rw [← sortedOam_eq] at hselection
  exact ⟨fun h => hselection.mp h.1, fun h => ⟨hselection.mpr h, pairwise_sortedOam lineNum gb⟩⟩

/-- Ten sprites at X 20, and then one at X 8, on line 0. -/
def elevenSprites : Gb :=
  spritesOn ((List.replicate 10 [(16 : U8), 20, 0, 0]).flatten ++ [16, 8, 0, 0])

/-- The eleventh sprite takes the place of the tenth. -/
theorem eleventh_sprite_drawn : ¬ ∀ (lineNum : Fin 144) (gb : Gb), SelectsFirstTen lineNum gb := by
  intro h
  have hdrawn : (10 : Fin 40) ∈ sortedOam 0 elevenSprites := by decide +kernel
  exact absurd (((h 0 elevenSprites).1 10).mp hdrawn).1 (by decide +kernel)

end Ppu

end TlmBoy
