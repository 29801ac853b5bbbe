import Mathlib.Data.List.Infix

/-
  Last in, first out, in general terms.

  A history is a list of pushes and pops; a pop carries what was observed of the value that it
  yielded. `Replays es s s'` plays a history back on a list, top first: every pop takes the head,
  and the head must agree with the observation.

  * `NeverUnderflows`: at no point of the history have there been more pops than pushes.
  * `Replays.concat_push`, `Replays.concat_pop`: one more event.
  * `Replays.length_add`: the length of the list counts the entries that are not popped yet.
  * `Replays.matched`: a pop yields the value whose push comes before a balanced stretch of
    events, that is, the most recent one that was not popped yet.
-/

namespace Lifo

variable {V : Type}

inductive Event (V : Type) where
  | push (v : V)
  /-- A pop, with what was observed of the value. -/
  | pop (observed : V → Prop)

/-- The number of pushes in a history. -/
def pushes : List (Event V) → Nat
  | [] => 0
  | .push _ :: es => pushes es + 1
  | .pop _ :: es => pushes es

/-- The number of pops in a history. -/
def pops : List (Event V) → Nat
  | [] => 0
  | .push _ :: es => pops es
  | .pop _ :: es => pops es + 1

theorem pushes_append (es es' : List (Event V)) : pushes (es ++ es') = pushes es + pushes es' := by
  induction es with
  | nil => simp [pushes]
  | cons e es ih =>
    cases e with
    | push v =>
      simp only [List.cons_append, pushes, ih]
      omega
    | pop observed =>
      simp only [List.cons_append, pushes, ih]

theorem pops_append (es es' : List (Event V)) : pops (es ++ es') = pops es + pops es' := by
  induction es with
  | nil => simp [pops]
  | cons e es ih =>
    cases e with
    | push v =>
      simp only [List.cons_append, pops, ih]
    | pop observed =>
      simp only [List.cons_append, pops, ih]
      omega

/-- At no point have there been more pops than pushes. -/
def NeverUnderflows (es : List (Event V)) : Prop := ∀ pre, pre <+: es → pops pre ≤ pushes pre

theorem NeverUnderflows.nil : NeverUnderflows ([] : List (Event V)) := by
  intro pre h
  rw [List.prefix_nil.mp h]
  exact Nat.le_refl 0

theorem NeverUnderflows.left {es es' : List (Event V)} (h : NeverUnderflows (es ++ es')) :
    NeverUnderflows es := fun pre hpre => h pre (hpre.trans (List.prefix_append es es'))

theorem NeverUnderflows.concat {es : List (Event V)} {e : Event V} (h : NeverUnderflows es)
    (hlast : pops (es ++ [e]) ≤ pushes (es ++ [e])) : NeverUnderflows (es ++ [e]) := by
  intro pre hpre
  rcases List.prefix_concat_iff.mp hpre with rfl | hpre
  · exact hlast
  · exact h pre hpre

/-- Every pop follows its push, and none is left over. -/
def Balanced (es : List (Event V)) : Prop := NeverUnderflows es ∧ pops es = pushes es

/-! ## Playing back -/

/-- The history turns the list `s` into `s'`. -/
inductive Replays : List (Event V) → List V → List V → Prop where
  | nil (s : List V) : Replays [] s s
  | push {v : V} {es : List (Event V)} {s s' : List V} (h : Replays es (v :: s) s') :
      Replays (.push v :: es) s s'
  | pop {v : V} {observed : V → Prop} {es : List (Event V)} {s s' : List V} (hv : observed v)
      (h : Replays es s s') : Replays (.pop observed :: es) (v :: s) s'

namespace Replays

variable {es es' : List (Event V)} {s s' s'' : List V}

theorem append (h : Replays es s s') (h' : Replays es' s' s'') : Replays (es ++ es') s s'' := by
  induction h with
  | nil s => exact h'
  | push _ ih => exact push (ih h')
  | pop hv _ ih => exact pop hv (ih h')

theorem concat_push (h : Replays es s s') (v : V) : Replays (es ++ [.push v]) s (v :: s') :=
  h.append (push (nil _))

theorem concat_pop {v : V} {observed : V → Prop} (h : Replays es s (v :: s')) (hv : observed v) :
    Replays (es ++ [.pop observed]) s s' := h.append (pop hv (nil _))

theorem length_add (h : Replays es s s') : s'.length + pops es = s.length + pushes es := by
  induction h with
  | nil s => rfl
  | push _ ih =>
    simp only [pops, pushes, List.length_cons] at *
    omega
  | pop _ _ ih =>
    simp only [pops, pushes, List.length_cons] at *
    omega

theorem split (h : Replays (es ++ es') s s'') : ∃ s', Replays es s s' ∧ Replays es' s' s'' := by
  induction es generalizing s with
  | nil => exact ⟨s, nil s, h⟩
  | cons e es ih =>
    cases h with
    | push h =>
      obtain ⟨s', hfirst, hrest⟩ := ih h
      exact ⟨s', push hfirst, hrest⟩
    | pop hv h =>
      obtain ⟨s', hfirst, hrest⟩ := ih h
      exact ⟨s', pop hv hfirst, hrest⟩

/-- A history with enough entries of its own on top leaves the entries below them. -/
theorem frame {own s : List V} (h : Replays es (own ++ s) s')
    (hown : ∀ pre, pre <+: es → pops pre ≤ own.length + pushes pre) : ∃ own', s' = own' ++ s := by
  induction es generalizing own with
  | nil =>
    cases h
    exact ⟨own, rfl⟩
  | cons e es ih =>
    cases e with
    | push v =>
      cases h with
      | push h =>
        refine @ih (v :: own) h fun pre hpre => ?_
        have hcount := hown (.push v :: pre) (List.cons_prefix_cons.mpr ⟨rfl, hpre⟩)
        simp only [pops, pushes, List.length_cons] at *
        omega
    | pop observed =>
      cases own with
      | nil =>
        have hcount := hown [.pop observed] (List.cons_prefix_cons.mpr ⟨rfl, List.nil_prefix⟩)
        simp [pops, pushes] at hcount
      | cons v own =>
        cases h with
        | pop hv h =>
          refine @ih own h fun pre hpre => ?_
          have hcount := hown (.pop observed :: pre) (List.cons_prefix_cons.mpr ⟨rfl, hpre⟩)
          simp only [pops, pushes, List.length_cons] at *
          omega

/-- A balanced history leaves the list as it was. -/
theorem eq_of_balanced (h : Replays es s s') (hbal : Balanced es) : s' = s := by
  obtain ⟨own, rfl⟩ := @frame V es s' [] s h fun pre hpre => by
    have hcount := hbal.1 pre hpre
    simp only [List.length_nil]
    omega
  have hlength := h.length_add
  rw [List.length_append, hbal.2] at hlength
  have hown : own = [] := List.eq_nil_of_length_eq_zero (by omega)
  rw [hown, List.nil_append]

/-- A pop yields the most recently pushed value that was not popped yet. -/
theorem matched {pre mid post : List (Event V)} {v : V} {observed : V → Prop}
    (h : Replays (pre ++ .push v :: (mid ++ .pop observed :: post)) s s') (hmid : Balanced mid) :
    observed v := by
  obtain ⟨t, -, h⟩ := h.split
  cases h with
  | push h =>
    obtain ⟨t', hbetween, h⟩ := h.split
    rw [hbetween.eq_of_balanced hmid] at h
    cases h with
    | pop hv _ => exact hv

end Replays

end Lifo
