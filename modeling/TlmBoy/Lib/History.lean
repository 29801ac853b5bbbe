import Mathlib.Data.List.Induction
import TlmBoy.Lib.StateExcept

/-
  Histories of a fallible step function, in general terms.

  A run is `ls.foldlM step s₀` in `Except`: the labels `ls` are handed to `step` one
  after the other and the first error ends the run. The rules below prove that the state
  after a run is described by the labels so far:

  * `run_induction`: what one successful step keeps, relative to the labels so far, holds
    after every successful run.
  * `run_total`: if in addition every step on an admissible label succeeds, every run of
    admissible labels succeeds.
  * `run_guarded`: what every step that meets a guard keeps holds after every run whose steps
    all meet it. `run_frame`: what no label of a run touches is kept by the run.
  * `run_map`: a run on the image of a state is the image of its run, if each step is.
  * `latest p d ls`: the value of the last label on which `p` is defined, `d` when there
    is none. Registers that are overwritten by some labels and kept by the others have
    this value, whatever the order of the labels.
-/

namespace History

variable {S L V ε : Type}

/-- The value of the last label on which `p` is defined, `d` when there is none. -/
def latest (p : L → Option V) (d : V) (ls : List L) : V :=
  ls.foldl (fun acc l => (p l).getD acc) d

@[simp] theorem latest_nil (p : L → Option V) (d : V) : latest p d [] = d := rfl

@[simp] theorem latest_concat (p : L → Option V) (d : V) (ls : List L) (l : L) :
    latest p d (ls ++ [l]) = (p l).getD (latest p d ls) := by
  simp [latest]

/-- The latest value is the default or the value of some label. -/
theorem latest_eq_or (p : L → Option V) (d : V) (ls : List L) :
    latest p d ls = d ∨ ∃ l ∈ ls, p l = some (latest p d ls) := by
  induction ls using List.reverseRecOn with
  | nil => exact Or.inl rfl
  | append_singleton ls l ih =>
    simp only [latest_concat, List.mem_append, List.mem_singleton]
    cases hp : p l with
    | some v => exact Or.inr ⟨l, Or.inr rfl, hp⟩
    | none =>
      rcases ih with ih | ⟨l', hl', he⟩
      · exact Or.inl ih
      · exact Or.inr ⟨l', Or.inl hl', he⟩

/-! ## Runs -/

theorem run_concat (step : S → L → Except ε S) (s : S) (ls : List L) (l : L) :
    (ls ++ [l]).foldlM step s = ls.foldlM step s >>= fun s' => step s' l := by
  simp [List.foldlM_append]

/-- In a successful run every label has its step. -/
theorem run_at {step : S → L → Except ε S} {s s' : S} {pre suf : List L} {l : L}
    (h : (pre ++ l :: suf).foldlM step s = .ok s') :
    ∃ m m', pre.foldlM step s = .ok m ∧ step m l = .ok m' := by
  rw [List.foldlM_append] at h
  obtain ⟨m, hpre, hrest⟩ := StateExcept.except_bind_eq_ok h
  rw [List.foldlM_cons] at hrest
  obtain ⟨m', hl, -⟩ := StateExcept.except_bind_eq_ok hrest
  exact ⟨m, m', hpre, hl⟩

/-- What every successful step keeps, relative to the labels so far, holds after every
    successful run. -/
theorem run_induction {step : S → L → Except ε S} (I : List L → S → Prop) {s₀ : S}
    (hinit : I [] s₀)
    (hstep : ∀ ls s l s', I ls s → step s l = .ok s' → I (ls ++ [l]) s') :
    ∀ {ls s}, ls.foldlM step s₀ = .ok s → I ls s := by
  intro ls
  induction ls using List.reverseRecOn with
  | nil =>
    intro s h
    cases h
    exact hinit
  | append_singleton ls l ih =>
    intro s h
    rw [run_concat] at h
    obtain ⟨s', hrun, hlast⟩ := StateExcept.except_bind_eq_ok h
    exact hstep ls s' l s (ih hrun) hlast

/-- If every step on an admissible label succeeds and keeps `I`, every run of admissible
    labels succeeds in a state with `I`. -/
theorem run_total {step : S → L → Except ε S} (Adm : L → Prop) (I : List L → S → Prop) {s₀ : S}
    (hinit : I [] s₀)
    (hstep : ∀ ls s l, Adm l → I ls s → ∃ s', step s l = .ok s' ∧ I (ls ++ [l]) s') :
    ∀ ls, (∀ l ∈ ls, Adm l) → ∃ s, ls.foldlM step s₀ = .ok s ∧ I ls s := by
  intro ls
  induction ls using List.reverseRecOn with
  | nil => intro _; exact ⟨s₀, rfl, hinit⟩
  | append_singleton ls l ih =>
    intro hadm
    obtain ⟨s, hrun, hI⟩ := ih fun l' hl' => hadm l' (by simp [hl'])
    obtain ⟨s', hlast, hI'⟩ := hstep ls s l (hadm l (by simp)) hI
    refine ⟨s', ?_, hI'⟩
    rw [run_concat, hrun]
    exact hlast

/-- What every step that meets a guard keeps holds after a run whose steps all meet it. -/
theorem run_guarded {step : S → L → Except ε S} (Guard : S → L → Prop) {I : S → Prop}
    (hstep : ∀ s l s', Guard s l → step s l = .ok s' → I s → I s') :
    ∀ {ls : List L} {s s' : S}, ls.foldlM step s = .ok s' →
      (∀ pre l suf m, ls = pre ++ l :: suf → pre.foldlM step s = .ok m → Guard m l) →
      I s → I s' := by
  intro ls
  induction ls with
  | nil =>
    intro s s' h _ hs
    cases h
    exact hs
  | cons l ls ih =>
    intro s s' h hguard hs
    rw [List.foldlM_cons] at h
    obtain ⟨m, hl, hrest⟩ := StateExcept.except_bind_eq_ok h
    have hm : I m := hstep s l m (hguard [] l ls s rfl rfl) hl hs
    refine ih hrest (fun pre l' suf m' he hrun => hguard (l :: pre) l' suf m' ?_ ?_) hm
    · rw [he, List.cons_append]
    · rw [List.foldlM_cons, hl]
      exact hrun

/-- A projection `f` of the state that every step keeps on the labels that do not touch it is
    kept by a run none of whose labels touches it at its turn. -/
theorem run_frame {step : S → L → Except ε S} (f : S → V) (Touches : S → L → Prop)
    (hstep : ∀ s l s', step s l = .ok s' → ¬ Touches s l → f s' = f s) :
    ∀ (ls : List L) (s s' : S), ls.foldlM step s = .ok s' →
      (∀ pre l suf m, ls = pre ++ l :: suf → pre.foldlM step s = .ok m → ¬ Touches m l) →
      f s' = f s := by
  intro ls s s' h hfree
  have hstep' : ∀ m l m', ¬ Touches m l → step m l = .ok m' → f m = f s → f m' = f s :=
    fun m l m' hfree hl hm => (hstep m l m' hl hfree).trans hm
  exact run_guarded (fun m l => ¬ Touches m l) hstep' h hfree rfl

/-- A function of the state that goes through the steps goes through runs. -/
theorem run_map {T : Type} {step : S → L → Except ε S} {step' : T → L → Except ε T} (f : S → T)
    (hstep : ∀ s l, step' (f s) l = (step s l).map f) (ls : List L) (s : S) :
    ls.foldlM step' (f s) = (ls.foldlM step s).map f := by
  induction ls generalizing s with
  | nil => rfl
  | cons l ls ih =>
    rw [List.foldlM_cons, List.foldlM_cons]
    exact StateExcept.bind_eq_map (hstep s l) ih

end History
