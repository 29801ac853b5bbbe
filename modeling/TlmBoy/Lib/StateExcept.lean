import Mathlib.Order.Defs.Unbundled

/-
  Programs over a state that may fail: `StateT σ (Except ε)`, in general terms.

  A failed run has no final state, so what is said about a program is said about its
  successful runs.

  * `*_apply`: what the building blocks do to a state, as equations that hold by definition.
  * `bind_eq_ok`: a successful run of two programs in sequence is two successful runs.
  * `Keeps R m`: every successful run of `m` ends in a state related to the first one. For a
    reflexive and transitive `R` the rules below go through a program block by block; an
    invariant (`R s s' = I s → I s'`) and a frame (`R s s' = (f s' = f s)`) are such relations.
  * `Commutes g m`: running `m` from `g s` is running it from `s` and applying `g` at the end.
  * `Respects R m`: from related states `m` fails alike, or returns the same value in states that
    are related again.
  * `Closed P`: the predicates on programs, such as these three, that go through blocks.
-/

namespace StateExcept

variable {σ ε α β : Type}

theorem map_eq_ok {e : Except ε α} {f : α → β} {b : β} (h : e.map f = .ok b) :
    ∃ a, e = .ok a ∧ f a = b := by
  cases e with
  | error e => cases h
  | ok a =>
    injection h with h
    exact ⟨a, rfl, h⟩

theorem map_map {γ : Type} (e : Except ε α) (f : α → β) (g : β → γ) :
    (e.map f).map g = e.map fun a => g (f a) := by
  cases e <;> rfl

theorem except_bind_eq_ok {e : Except ε α} {f : α → Except ε β} {b : β} (h : (e >>= f) = .ok b) :
    ∃ a, e = .ok a ∧ f a = .ok b := by
  cases e with
  | error e => cases h
  | ok a => exact ⟨a, rfl, h⟩

/-- Two computations in sequence, both of them up to a map of the results. -/
theorem bind_eq_map {α' β' : Type} {x : Except ε α} {x' : Except ε α'} {k : α → Except ε β}
    {k' : α' → Except ε β'} {f : α → α'} {g : β → β'} (hx : x' = x.map f)
    (hk : ∀ a, k' (f a) = (k a).map g) : (x' >>= k') = (x >>= k).map g := by
  subst hx
  cases x with
  | error e => rfl
  | ok a => exact hk a

theorem bind_apply (m : StateT σ (Except ε) α) (f : α → StateT σ (Except ε) β) (s : σ) :
    (m >>= f) s = m s >>= fun p => f p.1 p.2 := rfl

theorem bind_of_ok {m : StateT σ (Except ε) α} {f : α → StateT σ (Except ε) β} {s s' : σ} {a : α}
    (h : m s = .ok (a, s')) : (m >>= f) s = f a s' := by
  rw [bind_apply, h]
  rfl

theorem lift_of_ok {e : Except ε α} {a : α} (h : e = .ok a) (s : σ) :
    (liftM e : StateT σ (Except ε) α) s = .ok (a, s) := by
  rw [h]
  rfl

theorem bind_of_error {m : StateT σ (Except ε) α} {f : α → StateT σ (Except ε) β} {s : σ} {e : ε}
    (h : m s = .error e) : (m >>= f) s = .error e := by
  rw [bind_apply, h]
  rfl

theorem bind_eq_ok {m : StateT σ (Except ε) α} {f : α → StateT σ (Except ε) β} {s s' : σ} {b : β}
    (h : (m >>= f) s = .ok (b, s')) : ∃ a t, m s = .ok (a, t) ∧ f a t = .ok (b, s') := by
  obtain ⟨p, hm, hf⟩ := except_bind_eq_ok h
  exact ⟨p.1, p.2, hm, hf⟩

theorem ite_apply {c : Prop} [Decidable c] (m m' : StateT σ (Except ε) α) (s : σ) :
    (if c then m else m') s = if c then m s else m' s := by
  by_cases hc : c
  · rw [if_pos hc, if_pos hc]
  · rw [if_neg hc, if_neg hc]

/-! ## Predicates that go through blocks -/

/-- `P` holds of a block when it holds of its parts. -/
structure Closed (P : ∀ {α : Type}, StateT σ (Except ε) α → Prop) : Prop where
  pure {α : Type} (a : α) : P (pure a : StateT σ (Except ε) α)
  bind {α β : Type} {m : StateT σ (Except ε) α} {f : α → StateT σ (Except ε) β} :
    P m → (∀ a, P (f a)) → P (m >>= f)

namespace Closed

variable {P : ∀ {α : Type}, StateT σ (Except ε) α → Prop}

/-- `P` holds of a loop over a list when it holds of the body. -/
theorem forM (h : Closed P) {f : β → StateT σ (Except ε) PUnit} (hf : ∀ x, P (f x))
    (xs : List β) : P (xs.forM f) := by
  induction xs with
  | nil => exact h.pure _
  | cons x xs ih => exact h.bind (hf x) fun _ => ih

theorem ite (_ : Closed P) {c : Prop} [Decidable c] {m m' : StateT σ (Except ε) α} (hm : P m)
    (hm' : P m') : P (if c then m else m') := by
  by_cases hc : c
  · rwa [if_pos hc]
  · rwa [if_neg hc]

end Closed

/-! ## Relations kept by a program -/

/-- Every successful run of `m` ends in a state that `R` relates to the first one. -/
def Keeps (R : σ → σ → Prop) (m : StateT σ (Except ε) α) : Prop :=
  ∀ s a s', m s = .ok (a, s') → R s s'

theorem Keeps.closed (R : σ → σ → Prop) [Std.Refl R] [IsTrans σ R] :
    Closed (ε := ε) (fun m => Keeps R m) where
  pure a s b s' h := by
    cases h
    exact Std.Refl.refl s
  bind hm hf s b s' h := by
    obtain ⟨a, t, hfirst, hrest⟩ := bind_eq_ok h
    exact IsTrans.trans _ _ _ (hm s a t hfirst) (hf a t b s' hrest)

/-- A program that only reads the state keeps every reflexive relation. -/
theorem Keeps.of_reads {R : σ → σ → Prop} [Std.Refl R] {m : StateT σ (Except ε) α} {f : σ → α}
    (h : ∀ s, m s = .ok (f s, s)) : Keeps R m := by
  intro s a s' hm
  rw [h] at hm
  cases hm
  exact Std.Refl.refl s

/-- A computation outside the state keeps every reflexive relation. -/
theorem Keeps.lift {R : σ → σ → Prop} [Std.Refl R] (e : Except ε α) :
    Keeps R (liftM e : StateT σ (Except ε) α) := by
  intro s a s' h
  obtain ⟨b, -, h⟩ := except_bind_eq_ok h
  cases h
  exact Std.Refl.refl s

/-- A program that always applies `f` keeps `R` if `f` does. -/
theorem Keeps.of_modifies {R : σ → σ → Prop} {m : StateT σ (Except ε) Unit} {f : σ → σ}
    (h : ∀ s, m s = .ok ((), f s)) (hR : ∀ s, R s (f s)) : Keeps R m := by
  intro s a s' hm
  rw [h] at hm
  cases hm
  exact hR s

/-- A program that takes its new state from a computation outside it keeps `R` if each of the
    possible new states is related. -/
theorem Keeps.of_map {R : σ → σ → Prop} {δ : Type} {m : StateT σ (Except ε) α}
    {e : σ → Except ε δ} {f : σ → δ → α × σ} (h : ∀ s, m s = (e s).map (f s))
    (hR : ∀ s d, R s (f s d).2) : Keeps R m := by
  intro s a s' hm
  rw [h] at hm
  obtain ⟨d, -, hd⟩ := map_eq_ok hm
  have hs := hR s d
  rw [hd] at hs
  exact hs

/-! ## Programs that commute with a map of the state -/

/-- Running `m` from `g s` is running it from `s` and applying `g` at the end. -/
def Commutes (g : σ → σ) (m : StateT σ (Except ε) α) : Prop :=
  ∀ s, m (g s) = (m s).map fun p => (p.1, g p.2)

theorem Commutes.closed (g : σ → σ) : Closed (ε := ε) (fun m => Commutes g m) where
  pure _ _ := rfl
  bind hm hf s := bind_eq_map (hm s) fun p => hf p.1 p.2

theorem Commutes.lift (g : σ → σ) (e : Except ε α) :
    Commutes g (liftM e : StateT σ (Except ε) α) := by
  intro s
  cases e with
  | error e => rfl
  | ok a => rfl

/-- A program that looks at the state, but not at what `g` changes. -/
theorem Commutes.bind_get {g : σ → σ} {k : σ → StateT σ (Except ε) α} (hsame : ∀ s, k (g s) = k s)
    (hk : ∀ s, Commutes g (k s)) : Commutes g (get >>= k) := by
  intro s
  show k (g s) (g s) = (k s s).map _
  rw [hsame]
  exact hk s s

theorem Commutes.of_reads {g : σ → σ} {m : StateT σ (Except ε) α} {f : σ → α}
    (h : ∀ s, m s = .ok (f s, s)) (hf : ∀ s, f (g s) = f s) : Commutes g m := by
  intro s
  rw [h, h, hf]
  rfl

theorem Commutes.of_modifies {g : σ → σ} {m : StateT σ (Except ε) Unit} {f : σ → σ}
    (h : ∀ s, m s = .ok ((), f s)) (hf : ∀ s, f (g s) = g (f s)) : Commutes g m := by
  intro s
  rw [h, h, hf]
  rfl

/-! ## Programs that two related states do not tell apart -/

/-- The same failure, or the same value and related states. -/
def Agree (R : σ → σ → Prop) : Except ε (α × σ) → Except ε (α × σ) → Prop
  | .ok p, .ok q => p.1 = q.1 ∧ R p.2 q.2
  | .error e, .error e' => e = e'
  | _, _ => False

/-- From related states `m` fails alike, or returns the same value in related states. -/
def Respects (R : σ → σ → Prop) (m : StateT σ (Except ε) α) : Prop :=
  ∀ s t, R s t → Agree R (m s) (m t)

theorem Respects.closed (R : σ → σ → Prop) : Closed (ε := ε) (fun m => Respects R m) where
  pure _ _ _ h := ⟨rfl, h⟩
  bind {α β m f} hm hf s t h := by
    have hfirst := hm s t h
    rw [bind_apply, bind_apply]
    cases hs : m s with
    | error e =>
      cases ht : m t with
      | error e' =>
        rw [hs, ht] at hfirst
        exact hfirst
      | ok q =>
        rw [hs, ht] at hfirst
        exact hfirst.elim
    | ok p =>
      cases ht : m t with
      | error e' =>
        rw [hs, ht] at hfirst
        exact hfirst.elim
      | ok q =>
        rw [hs, ht] at hfirst
        obtain ⟨hvalue, hstates⟩ := hfirst
        show Agree R (f p.1 p.2) (f q.1 q.2)
        rw [hvalue]
        exact hf q.1 p.2 q.2 hstates

/-- A program that reads what related states agree on. -/
theorem Respects.of_reads {R : σ → σ → Prop} {m : StateT σ (Except ε) α} {f : σ → α}
    (h : ∀ s, m s = .ok (f s, s)) (hf : ∀ s t, R s t → f s = f t) : Respects R m := by
  intro s t hR
  rw [h, h]
  exact ⟨hf s t hR, hR⟩

theorem Respects.of_modifies {R : σ → σ → Prop} {m : StateT σ (Except ε) Unit} {f : σ → σ}
    (h : ∀ s, m s = .ok ((), f s)) (hf : ∀ s t, R s t → R (f s) (f t)) : Respects R m := by
  intro s t hR
  rw [h, h]
  exact ⟨rfl, hf s t hR⟩

/-- A program that looks at the state, but not at what related states differ in. -/
theorem Respects.bind_get {R : σ → σ → Prop} {k : σ → StateT σ (Except ε) α}
    (hsame : ∀ s t, R s t → k s = k t) (hk : ∀ s, Respects R (k s)) : Respects R (get >>= k) := by
  intro s t h
  show Agree R (k s s) (k t t)
  rw [← hsame s t h]
  exact hk s s t h

end StateExcept
