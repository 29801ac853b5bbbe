import TlmBoy.Ppu.Selection

/-
  Overlapping sprites: which colour a column of a line shows.

  On the hardware the first sprite with a pixel at the column decides alone. The source paints from
  the last sprite to the first into two buffers, a sprite behind the background into the one that
  holds the background's mapped colours. What a column holds then is `foldr_paint`; it is what the
  hardware shows if the first sprite is in front, and else under the conditions of
  `TopBehindShows`.
-/

namespace TlmBoy

open Selection

namespace Ppu

/-! ## Painting a column -/

/-- The colour that is left in the sprite buffer by some pixels, the first one's first. -/
def frontOf (pixels : List Pixel) : Option Color :=
  (pixels.find? fun px => !px.behind).map Pixel.color

/-- The colour that is left in a white background: that of the last pixel behind it that is not
    white itself. -/
def lowestBehind : List Pixel → Color
  | [] => 0
  | px :: rest =>
    if px.behind ∧ lowestBehind rest = 0 then px.color else lowestBehind rest

theorem paint_front {px : Pixel} (h : px.behind = false) (d : Dot) :
    px.paint d = (d.1, some px.color) :=
  if_neg (by rw [h]; decide)

theorem paint_behind {px : Pixel} (h : px.behind = true) (d : Dot) :
    px.paint d = (if d.1 = 0 then px.color else d.1, d.2) := by
  unfold Pixel.paint
  rw [if_pos h]
  split_ifs <;> rfl

theorem frontOf_front {px : Pixel} (h : px.behind = false) (rest : List Pixel) :
    frontOf (px :: rest) = some px.color := by
  unfold frontOf
  rw [List.find?_cons_of_pos (by rw [h]; rfl)]
  rfl

theorem frontOf_behind {px : Pixel} (h : px.behind = true) (rest : List Pixel) :
    frontOf (px :: rest) = frontOf rest := by
  unfold frontOf
  rw [List.find?_cons_of_neg (by rw [h]; decide)]

theorem lowestBehind_front {px : Pixel} (h : px.behind = false) (rest : List Pixel) :
    lowestBehind (px :: rest) = lowestBehind rest :=
  if_neg fun hand => absurd (h.symm.trans hand.1) (by decide)

theorem lowestBehind_behind {px : Pixel} (h : px.behind = true) (rest : List Pixel) :
    lowestBehind (px :: rest) =
      if lowestBehind rest = 0 then px.color else lowestBehind rest := by
  rw [lowestBehind]
  simp only [h, true_and]

theorem foldr_paint (pixels : List Pixel) (d : Dot) :
    pixels.foldr Pixel.paint d =
      (if d.1 = 0 then lowestBehind pixels else d.1, (frontOf pixels).or d.2) := by
  induction pixels with
  | nil =>
    refine Prod.ext ?_ rfl
    change d.1 = if d.1 = 0 then 0 else d.1
    split_ifs with hwhite
    · exact hwhite
    · rfl
  | cons px rest ih =>
    rw [List.foldr_cons, ih]
    cases hbehind : px.behind with
    | false =>
      rw [paint_front hbehind, frontOf_front hbehind, lowestBehind_front hbehind]
      rfl
    | true =>
      rw [paint_behind hbehind, frontOf_behind hbehind, lowestBehind_behind hbehind]
      refine Prod.ext ?_ rfl
      by_cases hwhite : d.1 = 0
      · simp only [hwhite, if_true]
      · simp only [hwhite, if_false]

/-! ## The colour of a column -/

/-- The sprite buffer over the background buffer. -/
def composed (d : Dot) : Color := d.2.getD d.1

/-- What the hardware shows where `px` is the first sprite's pixel, `k` is the colour number of the
    background or the window there, and `bg` is what its palette makes of it. -/
def decided (px : Pixel) (k bg : Color) : Color :=
  if px.behind = true ∧ k ≠ 0 then bg else px.color

/-- When the colour comes out right under a first pixel that is behind the background. Before the
    sprites are drawn the column holds `d`, and `rest` are the other sprites' pixels there. -/
structure TopBehindShows (px : Pixel) (rest : List Pixel) (d : Dot) (k : Color) : Prop where
  /-- A pixel in the sprite buffer, of a lower sprite in front or left from before, hides both. -/
  front : ∀ c, (frontOf rest).or d.2 = some c → c = decided px k d.1
  /-- A background that is not white stays, also where its number is 0. -/
  colored : (frontOf rest).or d.2 = none → d.1 ≠ 0 → k ≠ 0 ∨ px.color = d.1
  /-- A white one takes the lowest pixel that is not white, also where its number is not 0. -/
  white : (frontOf rest).or d.2 = none → d.1 = 0 →
    if lowestBehind rest = 0 then k = 0 ∨ px.color = 0 else k = 0 ∧ lowestBehind rest = px.color

theorem decided_behind {px : Pixel} (h : px.behind = true) (k bg : Color) :
    decided px k bg = if k = 0 then px.color else bg := by
  unfold decided
  by_cases hk : k = 0
  · rw [if_pos hk, if_neg fun hand => hand.2 hk]
  · rw [if_neg hk, if_pos ⟨h, hk⟩]

theorem topBehindShows_covered {px : Pixel} {rest : List Pixel} {d : Dot} {k c : Color}
    (hfront : (frontOf rest).or d.2 = some c) :
    TopBehindShows px rest d k ↔ c = decided px k d.1 := by
  constructor
  · exact fun h => h.front c hfront
  · intro h
    refine ⟨fun c' hc' => ?_, fun hnone => ?_, fun hnone => ?_⟩
    · rwa [← Option.some.inj (hfront.symm.trans hc')]
    · exact absurd (hfront.symm.trans hnone) (Option.some_ne_none c)
    · exact absurd (hfront.symm.trans hnone) (Option.some_ne_none c)

theorem topBehindShows_colored {px : Pixel} {rest : List Pixel} {d : Dot} {k : Color}
    (hfront : (frontOf rest).or d.2 = none) (hcolored : d.1 ≠ 0) :
    TopBehindShows px rest d k ↔ k ≠ 0 ∨ px.color = d.1 := by
  constructor
  · exact fun h => h.colored hfront hcolored
  · intro h
    refine ⟨fun c hc => ?_, fun _ _ => h, fun _ hwhite => absurd hwhite hcolored⟩
    exact absurd (hfront.symm.trans hc) (Option.some_ne_none c).symm

theorem topBehindShows_white {px : Pixel} {rest : List Pixel} {d : Dot} {k : Color}
    (hfront : (frontOf rest).or d.2 = none) (hwhite : d.1 = 0) :
    TopBehindShows px rest d k ↔
      if lowestBehind rest = 0 then k = 0 ∨ px.color = 0
      else k = 0 ∧ lowestBehind rest = px.color := by
  constructor
  · exact fun h => h.white hfront hwhite
  · intro h
    refine ⟨fun c hc => ?_, fun _ hcolored => absurd hwhite hcolored, fun _ _ => h⟩
    exact absurd (hfront.symm.trans hc) (Option.some_ne_none c).symm

theorem composed_iff (px : Pixel) (rest : List Pixel) (d : Dot) (k : Color) :
    composed ((px :: rest).foldr Pixel.paint d) = decided px k d.1 ↔
      px.behind = false ∨ TopBehindShows px rest d k := by
  rw [foldr_paint]
  cases hbehind : px.behind with
  | false =>
    rw [frontOf_front hbehind]
    exact ⟨fun _ => .inl rfl, fun _ => (if_neg fun h => absurd (hbehind.symm.trans h.1)
      (by decide)).symm⟩
  | true =>
    rw [frontOf_behind hbehind, lowestBehind_behind hbehind, decided_behind hbehind]
    have htrue : (true = false ∨ TopBehindShows px rest d k) ↔ TopBehindShows px rest d k :=
      or_iff_right (by decide)
    rw [htrue]
    cases hfront : (frontOf rest).or d.2 with
    | some c =>
      rw [topBehindShows_covered hfront, decided_behind hbehind]
      rfl
    | none =>
      change (if d.1 = 0 then _ else d.1) = _ ↔ _
      by_cases hwhite : d.1 = 0
      · rw [topBehindShows_white hfront hwhite, if_pos hwhite]
        by_cases hlow : lowestBehind rest = 0
        · rw [if_pos hlow, if_pos hlow]
          by_cases hk : k = 0
          · simp [hk]
          · rw [if_neg hk, hwhite]
            exact (or_iff_right hk).symm
        · rw [if_neg hlow, if_neg hlow]
          by_cases hk : k = 0
          · rw [if_pos hk]
            exact (and_iff_right hk).symm
          · rw [if_neg hk, hwhite]
            exact ⟨fun h => absurd h hlow, fun h => absurd h.1 hk⟩
      · rw [topBehindShows_colored hfront hwhite, if_neg hwhite]
        by_cases hk : k = 0
        · rw [if_pos hk]
          exact ⟨fun h => .inr h.symm, fun h => (h.resolve_left fun hne => hne hk).symm⟩
        · rw [if_neg hk]
          exact ⟨fun _ => .inl hk, fun _ => rfl⟩

/-! ## The first sprite at a column -/

/-- `i` has the pixel `px` at the column, and any other sprite of the line that has one there has a
    larger X, or the same X and a larger index. -/
def IsTop (lineNum : Fin 144) (gb : Gb) (x : Fin 160) (i : Fin 40) (px : Pixel) : Prop :=
  i ∈ sortedOam lineNum gb ∧ spritePixelAt lineNum gb x i = some px ∧
    ∀ j ∈ sortedOam lineNum gb, j ≠ i → spritePixelAt lineNum gb x j ≠ none →
      Before (oamX gb) i j

/-- The first sprite's pixel is the first one at the column. -/
theorem pixelsAt_top {lineNum : Fin 144} {gb : Gb} {x : Fin 160} {i : Fin 40} {px : Pixel}
    (h : IsTop lineNum gb x i px) :
    pixelsAt lineNum gb x = px :: (pixelsAt lineNum gb x).tail := by
  have hsorted := pairwise_sortedOam lineNum gb
  obtain ⟨hmem, hpixel, hfirst⟩ := h
  unfold pixelsAt
  -- the sprites before `i` have no pixel there
  obtain ⟨before, after, hsplit⟩ := List.append_of_mem hmem
  rw [hsplit] at hsorted hfirst ⊢
  have hnone : before.filterMap (spritePixelAt lineNum gb x) = [] := by
    rw [List.filterMap_eq_nil_iff]
    intro j hj
    by_contra hjpixel
    have hbefore := (List.pairwise_append.mp hsorted).2.2 j hj i List.mem_cons_self
    have hne : j ≠ i := fun heq => hbefore.asymm (heq ▸ hbefore)
    exact hbefore.asymm (hfirst j (List.mem_append_left _ hj) hne hjpixel)
  rw [List.filterMap_append, hnone, List.nil_append, List.filterMap_cons_some hpixel,
    List.tail_cons]

/-- A column shows what its first sprite decides if that one is in front of the background, and
    under one that is behind it exactly where `TopBehindShows` holds of what was there before. -/
theorem priority_iff {lineNum : Fin 144} {gb : Gb} {p p' : Ppu} {x : Fin 160} {i : Fin 40}
    {px : Pixel} (hdraws : DrawsSprites gb p) (htop : IsTop lineNum gb x i px)
    (h : drawSpriteToLine lineNum gb p = .ok ((), p')) (k : Color) :
    composed (p'.dot lineNum x) = decided px k (p.bgBuffer lineNum x) ↔
      px.behind = false ∨
        TopBehindShows px (pixelsAt lineNum gb x).tail (p.dot lineNum x) k := by
  rw [drawSpriteToLine_eq lineNum hdraws] at h
  cases h
  rw [dot_mapLine, if_pos rfl, pixelsAt_top htop]
  exact composed_iff px _ (p.dot lineNum x) k

/-- The background in black, as the number 3 of its palette. -/
def onBlack : Ppu := { init 0 with bgBuffer := fun _ _ => 3 }

/-- Two sprites behind the background, four columns apart, in the colours 2 and 1. -/
def twoBehind : Gb :=
  (((spritesOn [16, 8, 0, 0x80, 16, 12, 0, 0x90]).setIoReg 0x37 0xE4).setIoReg 0x38 0x80).setIoReg
    0x39 0x40

/-- Where they overlap, the first one leaves the black background. -/
theorem both_behind_black : ∃ p',
    (DrawsSprites twoBehind onBlack ∧ IsTop 0 twoBehind 5 0 ⟨2, true⟩ ∧
      spritePixelAt 0 twoBehind 5 1 = some ⟨1, true⟩ ∧
      drawSpriteToLine 0 twoBehind onBlack = .ok ((), p')) ∧
    composed (p'.dot 0 5) = decided ⟨2, true⟩ 3 3 := by
  have hdraws : DrawsSprites twoBehind onBlack := ⟨by decide, rfl⟩
  have hboth : sortedOam 0 twoBehind = [0, 1] := by decide +kernel
  have htop : IsTop 0 twoBehind 5 0 ⟨2, true⟩ := by
    refine ⟨by rw [hboth]; exact List.mem_cons_self, by decide +kernel, fun j hj hne _ => ?_⟩
    rw [hboth] at hj
    rw [List.mem_singleton.mp ((List.mem_cons.mp hj).resolve_left hne)]
    exact .inl (by decide +kernel)
  have hrest : (pixelsAt 0 twoBehind 5).tail = [⟨1, true⟩] := by decide +kernel
  have hshows : TopBehindShows ⟨2, true⟩ (pixelsAt 0 twoBehind 5).tail (onBlack.dot 0 5) 3 := by
    rw [hrest]
    exact (topBehindShows_colored rfl (by decide)).mpr (.inl (by decide))
  exact ⟨_, ⟨hdraws, htop, by decide +kernel, drawSpriteToLine_eq 0 hdraws⟩,
    (priority_iff hdraws htop (drawSpriteToLine_eq 0 hdraws) 3).mpr (.inr hshows)⟩

/-- Two sprites at one place: the first behind the background, the second in front, in white. -/
def twoSprites : Gb := (spritesOn [16, 8, 0, 0x80, 16, 8, 0, 0x10]).setIoReg 0x37 0xE4

/-- The second sprite shows through where the first one leaves the background. -/
theorem lower_sprite_shows : ¬ ∀ (lineNum : Fin 144) (gb : Gb) (p p' : Ppu) (x : Fin 160)
    (i : Fin 40) (px : Pixel) (k : Color), DrawsSprites gb p → IsTop lineNum gb x i px →
      p.bgBuffer lineNum x = mapColors k gb.regBgp →
      drawSpriteToLine lineNum gb p = .ok ((), p') →
      composed (p'.dot lineNum x) = decided px k (p.bgBuffer lineNum x) := by
  intro h
  have hdraws : DrawsSprites twoSprites onBlack := ⟨by decide, rfl⟩
  have hboth : sortedOam 0 twoSprites = [0, 1] := by decide +kernel
  have htop : IsTop 0 twoSprites 0 0 ⟨3, true⟩ := by
    refine ⟨by rw [hboth]; exact List.mem_cons_self, by decide +kernel, fun j hj hne _ => ?_⟩
    rw [hboth] at hj
    rw [List.mem_singleton.mp ((List.mem_cons.mp hj).resolve_left hne)]
    exact .inr ⟨by decide +kernel, by decide⟩
  have hshown := h 0 twoSprites onBlack _ 0 0 ⟨3, true⟩ 3 hdraws htop (by decide +kernel)
    (drawSpriteToLine_eq 0 hdraws)
  rw [dot_mapLine, if_pos rfl] at hshown
  exact absurd hshown (by decide +kernel)

end Ppu

end TlmBoy
