import TlmBoy.Lib.StateExcept

/-
  Programs that change a state cell by cell, in general terms.

  `act f s` is the state `s` with `f i` applied to each cell `i`; it is given as a `CellAction`,
  an action of the pointwise functions. `Acts act m f` says that the program `m` always succeeds
  and has the effect `f`. A loop then acts on each cell by the fold of what its rounds do to that
  cell, so a loop over many cells is read one cell at a time.
-/

namespace Cellwise

open StateExcept

variable {σ ε ι β α : Type}

/-- Applying a function to each cell of a state. -/
structure CellAction (act : (ι → β → β) → σ → σ) : Prop where
  id (s : σ) : act (fun _ b => b) s = s
  comp (f g : ι → β → β) (s : σ) : act g (act f s) = act (fun i b => g i (f i b)) s

/-- `m` succeeds and applies `f` to the cells. -/
def Acts (ε : Type) (act : (ι → β → β) → σ → σ) (m : StateT σ (Except ε) PUnit)
    (f : ι → β → β) : Prop :=
  ∀ s, m s = .ok (PUnit.unit, act f s)

variable {act : (ι → β → β) → σ → σ} {f g : ι → β → β}

theorem Acts.pure (h : CellAction act) : Acts ε act (Pure.pure PUnit.unit) fun _ b => b := by
  intro s
  rw [h.id]
  rfl

theorem Acts.seq (h : CellAction act) {m m' : StateT σ (Except ε) PUnit} (hm : Acts ε act m f)
    (hm' : Acts ε act m' g) : Acts ε act (m >>= fun _ => m') fun i b => g i (f i b) := by
  intro s
  rw [bind_of_ok (hm s), hm', h.comp]

/-- A loop acts on each cell by the fold of its rounds. -/
theorem Acts.forM (h : CellAction act) {m : α → StateT σ (Except ε) PUnit} {f : α → ι → β → β}
    (xs : List α) (hm : ∀ x ∈ xs, Acts ε act (m x) (f x)) :
    Acts ε act (xs.forM m) fun i b => xs.foldl (fun b x => f x i b) b := by
  induction xs with
  | nil => exact Acts.pure h
  | cons x xs ih =>
    have hfirst := hm x List.mem_cons_self
    have hrest := ih fun y hy => hm y (List.mem_cons_of_mem x hy)
    exact Acts.seq h hfirst hrest

theorem Acts.congr {m : StateT σ (Except ε) PUnit} (hm : Acts ε act m f)
    (hf : ∀ i b, f i b = g i b) : Acts ε act m g := by
  have hfg : f = g := funext fun i => funext fun b => hf i b
  rwa [← hfg]

/-! ## Rounds that write one cell each -/

section OneCell

variable [DecidableEq ι]

/-- `f` at cell `i`, nothing elsewhere. -/
def atCell (i : ι) (f : β → β) : ι → β → β := fun k b => if k = i then f b else b

/-- What a loop with one round for each cell does to a cell is what its round does. -/
theorem foldl_atCell {xs : List ι} (hnodup : xs.Nodup) (f : ι → β → β) (i : ι) (b : β) :
    xs.foldl (fun b x => atCell x (f x) i b) b = if i ∈ xs then f i b else b := by
  induction xs generalizing b with
  | nil => simp
  | cons x xs ih =>
    obtain ⟨hx, hxs⟩ := List.nodup_cons.mp hnodup
    rw [List.foldl_cons, ih hxs]
    by_cases hi : i = x
    · subst hi
      simp [atCell, hx]
    · simp [atCell, hi]

theorem foldl_atCell_map {w : α → ι} {xs : List α} (hnodup : (xs.map w).Nodup) (f : ι → β → β)
    (i : ι) (b : β) :
    xs.foldl (fun b x => atCell (w x) (f (w x)) i b) b = if i ∈ xs.map w then f i b else b := by
  rw [← foldl_atCell hnodup, List.foldl_map]

/-- A loop with one round for every cell acts on each cell by its round. -/
theorem Acts.forM_cells (h : CellAction act) {m : ι → StateT σ (Except ε) PUnit} {xs : List ι}
    (hnodup : xs.Nodup) (hall : ∀ i, i ∈ xs) (hm : ∀ i, Acts ε act (m i) (atCell i (f i))) :
    Acts ε act (xs.forM m) f := by
  refine Acts.congr (Acts.forM h xs fun x _ => hm x) fun i b => ?_
  rw [foldl_atCell hnodup, if_pos (hall i)]

end OneCell

end Cellwise
