import Mathlib.Logic.Relation

/-
  Deterministic machines whose steps may fail, in general terms.

  * `Reaches step Rule`: the runs whose steps all start in states that satisfy `Rule`.
  * `Reaches.invariant`: what every such step keeps, every such run keeps.
  * `trace`: what is observed in each state of a run of `n` steps, up to a failure.
  * `Lockstep`: two machines whose steps keep a relation of their states as long as the first
    machine's states satisfy a rule. `Lockstep.trace_eq`: then their traces are the same.
-/

namespace Machine

variable {σ τ ε δ ω : Type}

/-! ## Runs -/

/-- `t` is reached from `s`, and every step on the way starts in a state with `Rule`. -/
def Reaches (step : σ → Except ε σ) (Rule : σ → Prop) : σ → σ → Prop :=
  Relation.ReflTransGen fun s t => Rule s ∧ step s = .ok t

theorem Reaches.invariant {step : σ → Except ε σ} {Rule I : σ → Prop}
    (hstep : ∀ s t, Rule s → step s = .ok t → I s → I t) {s t : σ} (hrun : Reaches step Rule s t)
    (hs : I s) : I t := by
  induction hrun with
  | refl => exact hs
  | tail _ hlast ih => exact hstep _ _ hlast.1 hlast.2 ih

theorem Reaches.single {step : σ → Except ε σ} {Rule : σ → Prop} {s t : σ} (hrule : Rule s)
    (hstep : step s = .ok t) : Reaches step Rule s t := Relation.ReflTransGen.single ⟨hrule, hstep⟩

theorem Reaches.head {step : σ → Except ε σ} {Rule : σ → Prop} {s t u : σ} (hrule : Rule s)
    (hstep : step s = .ok t) (hrest : Reaches step Rule t u) : Reaches step Rule s u :=
  Relation.ReflTransGen.head ⟨hrule, hstep⟩ hrest

/-! ## Traces -/

/-- What `observe` sees in the first `n` states, up to a step that fails. -/
def trace (observe : σ → Option ω) (step : σ → Except ε σ) : Nat → σ → List ω
  | 0, _ => []
  | n + 1, s => (observe s).toList ++
    match step s with
    | .ok t => trace observe step n t
    | .error _ => []

/-- Both steps fail, or both succeed in related states. -/
def Matching (Rel : σ → τ → Prop) (r : Except ε σ) (r' : Except δ τ) : Prop :=
  match r, r' with
  | .ok s, .ok t => Rel s t
  | .error _, .error _ => True
  | _, _ => False

theorem Matching.map {α β : Type} {Rel : σ → τ → Prop} {f : α → σ} {g : β → τ} {r : Except ε α}
    {r' : Except δ β} (h : Matching (fun a b => Rel (f a) (g b)) r r') :
    Matching Rel (r.map f) (r'.map g) := by
  cases r with
  | error e =>
    cases r' with
    | error d => exact trivial
    | ok b => exact h
  | ok a =>
    cases r' with
    | error d => exact h
    | ok b => exact h

/-- Two computations in sequence, the first ones up to a map of the result. -/
theorem Matching.bind_map {α β : Type} {Rel : σ → τ → Prop} {f : α → β} {r : Except ε α}
    {r' : Except ε β} {k : α → Except ε σ} {k' : β → Except ε τ} (h : r' = r.map f)
    (hk : ∀ a, r = .ok a → Matching Rel (k a) (k' (f a))) : Matching Rel (r >>= k) (r' >>= k') := by
  subst h
  cases r with
  | error e => exact trivial
  | ok a => exact hk a rfl

/-- The second machine follows the first one step by step, as long as the first one's states
    satisfy `Rule`. -/
structure Lockstep (observe : σ → Option ω) (step : σ → Except ε σ) (observe' : τ → Option ω)
    (step' : τ → Except δ τ) (Rule : σ → Prop) (Rel : σ → τ → Prop) : Prop where
  observes : ∀ s t, Rel s t → observe s = observe' t
  steps : ∀ s t, Rule s → Rel s t → Matching Rel (step s) (step' t)

theorem Lockstep.trace_eq {observe : σ → Option ω} {step : σ → Except ε σ}
    {observe' : τ → Option ω} {step' : τ → Except δ τ} {Rule : σ → Prop} {Rel : σ → τ → Prop}
    (h : Lockstep observe step observe' step' Rule Rel) (n : Nat) (s : σ) (t : τ) (hrel : Rel s t)
    (hrule : ∀ u, Reaches step (fun _ => True) s u → Rule u) :
    trace observe step n s = trace observe' step' n t := by
  induction n generalizing s t with
  | zero => rfl
  | succ n ih =>
    have hmatch := h.steps s t (hrule s Relation.ReflTransGen.refl) hrel
    unfold trace
    rw [h.observes s t hrel]
    congr 1
    cases hs : step s with
    | error e =>
      cases ht : step' t with
      | error d => rfl
      | ok t' =>
        rw [hs, ht] at hmatch
        exact hmatch.elim
    | ok s' =>
      cases ht : step' t with
      | error d =>
        rw [hs, ht] at hmatch
        exact hmatch.elim
      | ok t' =>
        rw [hs, ht] at hmatch
        exact ih s' t' hmatch fun u hu => hrule u (Reaches.head trivial hs hu)

end Machine
