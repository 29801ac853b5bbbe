import Mathlib.Data.Fintype.Defs
import Mathlib.Data.List.Forall2
import Mathlib.Data.List.MinMax
import Mathlib.Data.List.Perm.Basic
import Mathlib.Logic.Function.Iterate
import Mathlib.Logic.Relation
import Mathlib.Order.Nat
import TlmBoy.Lib.StateExcept

/-
  A discrete-event kernel with threads that wait for a time, in general terms.

  A thread is a function from the end of one of its waits to the next one, and a length for that
  wait. The kernel resumes a thread when its wait is over and lets time pass up to the first of
  the waits. Other parties may act on the shared state at any time.

  * `Course`: a thread that goes through places, each with a fixed wait, whatever the others do.
    `Course.reaches`: in every run the time says which place the thread is at.
  * `Independent`: threads that commute and do not change each other's waits.
    `Independent.play_same`: two runs that differ only in the order in which the kernel picks the
    threads at one instant end in the same state.
-/

namespace EventKernel

variable {ι σ α ε θ : Type}

structure Threads (ι σ ε : Type) where
  /-- A thread's code from the end of one wait to the next one. -/
  resume : ι → σ → Except ε σ
  /-- How long it then waits. -/
  delay : ι → σ → ℕ

/-- The state of a simulation. -/
structure Simulation (ι σ : Type) where
  now : ℕ
  /-- When the wait that a thread is in is over. -/
  due : ι → ℕ
  state : σ

variable [DecidableEq ι] (T : Threads ι σ ε) (act : α → σ → Except ε σ)

namespace Simulation

/-- The thread `i` has run to its next wait, and has left the state `s`. -/
def resumed (k : Simulation ι σ) (i : ι) (s : σ) : Simulation ι σ :=
  { k with state := s, due := Function.update k.due i (k.now + T.delay i s) }

/-- A thread runs to its next wait. -/
def resume (k : Simulation ι σ) (i : ι) : Except ε (Simulation ι σ) :=
  (T.resume i k.state).map (k.resumed T i)

variable (k : Simulation ι σ) (i : ι) (s : σ)

@[simp] theorem resumed_now : (k.resumed T i s).now = k.now := rfl

@[simp] theorem resumed_state : (k.resumed T i s).state = s := rfl

@[simp] theorem resumed_due_self : (k.resumed T i s).due i = k.now + T.delay i s :=
  Function.update_self _ _ _

theorem resumed_due_of_ne {j : ι} (h : j ≠ i) : (k.resumed T i s).due j = k.due j :=
  Function.update_of_ne h _ _

end Simulation

/-- What may happen: a thread whose wait is over is resumed, time passes, or another party acts. -/
inductive Step : Simulation ι σ → Simulation ι σ → Prop where
  | resume {k k' : Simulation ι σ} (i : ι) (hdue : k.due i = k.now) (h : k.resume T i = .ok k') :
    Step k k'
  | elapse {k : Simulation ι σ} (d : ℕ) (h : ∀ i, k.now + d ≤ k.due i) :
    Step k { k with now := k.now + d }
  | act {k : Simulation ι σ} {s : σ} (a : α) (h : act a k.state = .ok s) :
    Step k { k with state := s }

/-- The runs of the simulation. -/
def Reaches : Simulation ι σ → Simulation ι σ → Prop := Relation.ReflTransGen (Step T act)

variable {T act}

/-- What every thread and every act keeps holds in every run. -/
theorem Reaches.invariant {I : σ → Prop} (hresume : ∀ i s s', I s → T.resume i s = .ok s' → I s')
    (hact : ∀ a s s', I s → act a s = .ok s' → I s') {k k' : Simulation ι σ}
    (hrun : Reaches T act k k') (hk : I k.state) : I k'.state := by
  induction hrun with
  | refl => exact hk
  | tail _ hstep ih =>
    cases hstep with
    | resume i _ hi =>
      obtain ⟨s, hs, rfl⟩ := StateExcept.map_eq_ok hi
      exact hresume i _ _ ih hs
    | elapse d _ => exact ih
    | act a ha => exact hact a _ _ ih ha

/-- The instants at which the threads are due, by what their waits keep. -/
theorem Reaches.dues {I : σ → Prop} {D : ι → ℕ → Prop}
    (hresume : ∀ i s s' t, I s → T.resume i s = .ok s' → D i t → I s' ∧ D i (t + T.delay i s'))
    (hact : ∀ a s s', I s → act a s = .ok s' → I s') {k k' : Simulation ι σ}
    (hrun : Reaches T act k k') (hk : I k.state) (hdue : ∀ i, D i (k.due i)) :
    I k'.state ∧ ∀ i, D i (k'.due i) := by
  induction hrun with
  | refl => exact ⟨hk, hdue⟩
  | @tail m _ _ hstep ih =>
    obtain ⟨hI, hD⟩ := ih
    cases hstep with
    | elapse d _ => exact ⟨hI, hD⟩
    | act a ha => exact ⟨hact a _ _ hI ha, hD⟩
    | resume j hj h =>
      obtain ⟨s, hs, rfl⟩ := StateExcept.map_eq_ok h
      obtain ⟨hI', hD'⟩ := hresume j _ _ m.now hI hs (hj ▸ hD j)
      refine ⟨hI', fun i => ?_⟩
      by_cases hij : i = j
      · rw [hij, Simulation.resumed_due_self]
        exact hD'
      · rw [Simulation.resumed_due_of_ne T m j s hij]
        exact hD i

/-- No wait is ever overrun. -/
theorem Reaches.notLate {k k' : Simulation ι σ} (hrun : Reaches T act k k')
    (hk : ∀ i, k.now ≤ k.due i) : ∀ i, k'.now ≤ k'.due i := by
  induction hrun with
  | refl => exact hk
  | tail _ hstep ih =>
    cases hstep with
    | resume j _ hj =>
      obtain ⟨s, -, rfl⟩ := StateExcept.map_eq_ok hj
      intro i
      by_cases hij : i = j
      · rw [hij, Simulation.resumed_due_self]
        exact Nat.le_add_right _ _
      · rw [Simulation.resumed_due_of_ne T _ j s hij]
        exact ih i
    | elapse d hd => exact hd
    | act a _ => exact ih

/-! ## The places of one thread -/

/-- The thread `i` goes from place to place. `At p` says what holds of the state while it waits at
    `p`, where it arrives at the time `since p`. -/
structure Course (T : Threads ι σ ε) (act : α → σ → Except ε σ) (i : ι) (next : θ → θ)
    (since wait : θ → ℕ) (At : θ → σ → Prop) : Prop where
  own : ∀ p s s', At p s → T.resume i s = .ok s' → At (next p) s' ∧ T.delay i s' = wait (next p)
  others : ∀ j, j ≠ i → ∀ p s s', At p s → T.resume j s = .ok s' → At p s'
  acts : ∀ a p s s', At p s → act a s = .ok s' → At p s'
  since_next : ∀ p, since (next p) = since p + wait p

/-- The thread `i` waits at the place `p`. -/
structure WaitsAt (i : ι) (since wait : θ → ℕ) (At : θ → σ → Prop) (p : θ) (k : Simulation ι σ) :
    Prop where
  holds : At p k.state
  due : k.due i = since p + wait p
  arrived : since p ≤ k.now
  notOver : k.now ≤ k.due i

namespace Course

variable {i : ι} {next : θ → θ} {since wait : θ → ℕ} {At : θ → σ → Prop}

theorem step (h : Course T act i next since wait At) {k k' : Simulation ι σ}
    (hstep : Step T act k k') {p : θ} (hk : WaitsAt i since wait At p k) :
    WaitsAt i since wait At p k' ∨ WaitsAt i since wait At (next p) k' := by
  cases hstep with
  | elapse d hd =>
    exact .inl ⟨hk.holds, hk.due, Nat.le_add_right_of_le hk.arrived, hd i⟩
  | act a ha => exact .inl ⟨h.acts a _ _ _ hk.holds ha, hk.due, hk.arrived, hk.notOver⟩
  | resume j hdue hj =>
    obtain ⟨s, hs, rfl⟩ := StateExcept.map_eq_ok hj
    by_cases hji : j = i
    · subst hji
      obtain ⟨hnext, hdelay⟩ := h.own _ _ _ hk.holds hs
      have hnow : since (next p) = k.now := by rw [h.since_next, ← hk.due, hdue]
      refine .inr ⟨hnext, ?_, hnow.le, ?_⟩
      · rw [Simulation.resumed_due_self, hdelay, hnow]
      · rw [Simulation.resumed_due_self]
        exact Nat.le_add_right _ _
    · have hsame := k.resumed_due_of_ne T j s fun he => hji he.symm
      refine .inl ⟨h.others j hji _ _ _ hk.holds hs, ?_, hk.arrived, ?_⟩
      · rw [hsame]
        exact hk.due
      · rw [hsame]
        exact hk.notOver

/-- In every run the thread waits at some place, and at the right time. -/
theorem reaches (h : Course T act i next since wait At) {k k' : Simulation ι σ}
    (hrun : Reaches T act k k') {p : θ} (hk : WaitsAt i since wait At p k) :
    ∃ n, WaitsAt i since wait At (next^[n] p) k' := by
  induction hrun with
  | refl => exact ⟨0, hk⟩
  | tail _ hstep ih =>
    obtain ⟨n, hn⟩ := ih
    obtain hstay | hmove := h.step hstep hn
    · exact ⟨n, hstay⟩
    · refine ⟨n + 1, ?_⟩
      rw [Function.iterate_succ_apply']
      exact hmove

end Course

/-! ## Plays -/

/-- The threads of one instant, in the order in which they are picked, or what else may happen. -/
inductive Event (ι α : Type) where
  | instant (is : List ι)
  | elapse (d : ℕ)
  | act (a : α)

namespace Simulation

/-- The threads of a list are resumed one after the other. -/
def resumeAll (T : Threads ι σ ε) (k : Simulation ι σ) (is : List ι) : Except ε (Simulation ι σ) :=
  is.foldlM (fun k i => k.resume T i) k

def playEvent (T : Threads ι σ ε) (act : α → σ → Except ε σ) (k : Simulation ι σ) :
    Event ι α → Except ε (Simulation ι σ)
  | .instant is => k.resumeAll T is
  | .elapse d => .ok { k with now := k.now + d }
  | .act a => (act a k.state).map fun s => { k with state := s }

def play (T : Threads ι σ ε) (act : α → σ → Except ε σ) (k : Simulation ι σ)
    (es : List (Event ι α)) : Except ε (Simulation ι σ) := es.foldlM (playEvent T act) k

/-- The kernel may do so: it picks threads that are due, each of them once, and time does not pass
    over the end of a wait. -/
def Admits (k : Simulation ι σ) : Event ι α → Prop
  | .instant is => is.Nodup ∧ ∀ i ∈ is, k.due i = k.now
  | .elapse d => ∀ i, k.now + d ≤ k.due i
  | .act _ => True

instance [Fintype ι] (k : Simulation ι σ) (e : Event ι α) : Decidable (k.Admits e) :=
  match e with
  | .instant is => inferInstanceAs (Decidable (is.Nodup ∧ ∀ i ∈ is, k.due i = k.now))
  | .elapse d => inferInstanceAs (Decidable (∀ i, k.now + d ≤ k.due i))
  | .act _ => inferInstanceAs (Decidable True)

/-- The kernel may do all of the events, one after the other. -/
def Lawful (T : Threads ι σ ε) (act : α → σ → Except ε σ) :
    List (Event ι α) → Simulation ι σ → Prop
  | [], _ => True
  | e :: es, k => k.Admits e ∧ ∀ k', k.playEvent T act e = .ok k' → Lawful T act es k'

/-- `Lawful`, as a test. -/
instance decidableLawful [Fintype ι] (T : Threads ι σ ε) (act : α → σ → Except ε σ) :
    (es : List (Event ι α)) → (k : Simulation ι σ) → Decidable (Lawful T act es k)
  | [], _ => inferInstanceAs (Decidable True)
  | e :: es, k =>
    match h : k.playEvent T act e with
    | .error _ => decidable_of_iff (k.Admits e)
        ⟨fun ha => ⟨ha, fun _ he => by rw [h] at he; cases he⟩, fun ha => ha.1⟩
    | .ok k' =>
      have := decidableLawful T act es k'
      decidable_of_iff (k.Admits e ∧ Lawful T act es k')
        ⟨fun ha => ⟨ha.1, fun m he => by rw [h] at he; cases he; exact ha.2⟩,
          fun ha => ⟨ha.1, ha.2 k' h⟩⟩

end Simulation

theorem reaches_resumeAll {is : List ι} (hnodup : is.Nodup) {k k' : Simulation ι σ}
    (hdue : ∀ i ∈ is, k.due i = k.now) (h : k.resumeAll T is = .ok k') : Reaches T act k k' := by
  induction is generalizing k with
  | nil =>
    cases h
    exact .refl
  | cons i is ih =>
    obtain ⟨m, hm, h⟩ := StateExcept.except_bind_eq_ok h
    obtain ⟨hi, hnodup⟩ := List.nodup_cons.mp hnodup
    refine .head (.resume i (hdue i List.mem_cons_self) hm) (ih hnodup ?_ h)
    obtain ⟨s, -, rfl⟩ := StateExcept.map_eq_ok hm
    intro j hj
    rw [Simulation.resumed_due_of_ne T _ i s fun he => hi (he ▸ hj)]
    exact hdue j (List.mem_cons_of_mem i hj)

/-- A lawful event is a run. -/
theorem reaches_of_playEvent {e : Event ι α} {k k' : Simulation ι σ} (he : k.Admits e)
    (h : k.playEvent T act e = .ok k') : Reaches T act k k' := by
  cases e with
  | instant is => exact reaches_resumeAll he.1 he.2 h
  | elapse d =>
    cases h
    exact .single (.elapse d he)
  | act a =>
    obtain ⟨s, hs, rfl⟩ := StateExcept.map_eq_ok h
    exact .single (.act a hs)

theorem reaches_of_play {es : List (Event ι α)} {k k' : Simulation ι σ}
    (hes : Simulation.Lawful T act es k) (h : k.play T act es = .ok k') : Reaches T act k k' := by
  induction es generalizing k with
  | nil =>
    cases h
    exact .refl
  | cons e es ih =>
    obtain ⟨m, hm, h⟩ := StateExcept.except_bind_eq_ok h
    exact .trans (reaches_of_playEvent hes.1 hm) (ih (hes.2 m hm) h)

/-! ## The kernel's own loop -/

namespace Simulation

/-- Time passes up to the end of the first wait, and its thread is resumed. -/
def turn (T : Threads ι σ ε) (order : List ι) (k : Simulation ι σ) : Except ε (Simulation ι σ) :=
  match order.argmin k.due with
  | none => .ok k
  | some i => ({ k with now := k.due i } : Simulation ι σ).resume T i

/-- The loop of the kernel, with no other party: `n` threads are resumed. -/
def drive (T : Threads ι σ ε) (order : List ι) : ℕ → Simulation ι σ → Except ε (Simulation ι σ)
  | 0, k => .ok k
  | n + 1, k => k.turn T order >>= drive T order n

end Simulation

theorem reaches_turn {order : List ι} (hall : ∀ i, i ∈ order) {k k' : Simulation ι σ}
    (hk : ∀ i, k.now ≤ k.due i) (h : k.turn T order = .ok k') : Reaches T act k k' := by
  unfold Simulation.turn at h
  cases hmin : order.argmin k.due with
  | none =>
    rw [hmin] at h
    cases h
    exact .refl
  | some i =>
    rw [hmin] at h
    have hfirst : ∀ j, k.due i ≤ k.due j := fun j => List.le_of_mem_argmin (hall j) hmin
    have hnow : k.now + (k.due i - k.now) = k.due i := Nat.add_sub_cancel' (hk i)
    have helapse : EventKernel.Step T act k { k with now := k.due i } := by
      rw [← hnow]
      exact .elapse _ fun j => hnow.symm ▸ hfirst j
    exact .tail (.single helapse) (.resume i rfl h)

/-- What the loop does is a run. -/
theorem reaches_drive {order : List ι} (hall : ∀ i, i ∈ order) {n : ℕ} {k k' : Simulation ι σ}
    (hk : ∀ i, k.now ≤ k.due i) (h : k.drive T order n = .ok k') : Reaches T act k k' := by
  induction n generalizing k with
  | zero =>
    cases h
    exact .refl
  | succ n ih =>
    obtain ⟨m, hm, h⟩ := StateExcept.except_bind_eq_ok h
    have hturn : Reaches T act k m := reaches_turn hall hk hm
    exact .trans hturn (ih (hturn.notLate hk) h)

/-! ## The order at one instant -/

/-- The events differ at most in the order of the threads. -/
def Event.Same (e e' : Event ι α) : Prop :=
  e = e' ∨ ∃ is js, e = .instant is ∧ e' = .instant js ∧ is.Perm js

/-- The threads of `S` may be resumed in any order. -/
structure Independent (T : Threads ι σ ε) (S : ι → Prop) : Prop where
  comm : ∀ i j, S i → S j → i ≠ j → ∀ s,
    (T.resume i s >>= T.resume j) = (T.resume j s >>= T.resume i)
  delay : ∀ i j, S i → S j → i ≠ j → ∀ s s', T.resume j s = .ok s' → T.delay i s' = T.delay i s

namespace Independent

variable {S : ι → Prop}

/-- The kernel's bookkeeping of two threads does not depend on their order either. -/
theorem resumed_comm (h : Independent T S) (k : Simulation ι σ) {i j : ι} (hi : S i) (hj : S j)
    (hij : i ≠ j) {s s' u : σ}
    (hiu : T.resume i s' = .ok u) (hju : T.resume j s = .ok u) :
    (k.resumed T i s).resumed T j u = (k.resumed T j s').resumed T i u := by
  have hji : j ≠ i := fun he => hij he.symm
  have hdi : T.delay i u = T.delay i s := h.delay i j hi hj hij _ _ hju
  have hdj : T.delay j u = T.delay j s' := h.delay j i hj hi hji _ _ hiu
  rw [Simulation.resumed, Simulation.resumed, Simulation.resumed, Simulation.resumed]
  dsimp only
  rw [hdi, hdj, Function.update_comm hij]

theorem resume_comm (h : Independent T S) (k : Simulation ι σ) {i j : ι} (hi : S i) (hj : S j) :
    (k.resume T i >>= fun k' => k'.resume T j) = (k.resume T j >>= fun k' => k'.resume T i) := by
  by_cases hij : i = j
  · rw [hij]
  have hcomm := h.comm i j hi hj hij k.state
  unfold Simulation.resume
  cases hs : T.resume i k.state with
  | error e =>
    rw [hs] at hcomm
    cases hs' : T.resume j k.state with
    | error e' =>
      rw [hs'] at hcomm
      cases hcomm
      rfl
    | ok s' =>
      rw [hs'] at hcomm
      have hi' : T.resume i s' = .error e := hcomm.symm
      show Except.error e = (T.resume i s').map _
      rw [hi']
      rfl
  | ok s =>
    rw [hs] at hcomm
    cases hs' : T.resume j k.state with
    | error e' =>
      rw [hs'] at hcomm
      have hj' : T.resume j s = .error e' := hcomm
      show (T.resume j s).map _ = Except.error e'
      rw [hj']
      rfl
    | ok s' =>
      rw [hs'] at hcomm
      have hsame : T.resume j s = T.resume i s' := hcomm
      show (T.resume j s).map ((k.resumed T i s).resumed T j) =
        (T.resume i s').map ((k.resumed T j s').resumed T i)
      cases hu : T.resume j s with
      | error e => rw [← hsame, hu]; rfl
      | ok u =>
        rw [← hsame, hu]
        exact congrArg Except.ok (h.resumed_comm k hi hj hij (hsame ▸ hu) hu)

/-- The order of the threads does not matter. -/
theorem resumeAll_perm (h : Independent T S) {is js : List ι} (hperm : is.Perm js)
    (hS : ∀ i ∈ is, S i) (k : Simulation ι σ) : k.resumeAll T is = k.resumeAll T js := by
  induction hperm generalizing k with
  | nil => rfl
  | cons i _ ih => exact bind_congr (ih fun j hj => hS j (List.mem_cons_of_mem i hj))
  | swap i j is =>
    have hcomm := h.resume_comm k (hS j List.mem_cons_self)
      (hS i (List.mem_cons_of_mem j List.mem_cons_self))
    show ((k.resume T j) >>= fun k' => k'.resume T i >>= fun k'' => k''.resumeAll T is) =
      ((k.resume T i) >>= fun k' => k'.resume T j >>= fun k'' => k''.resumeAll T is)
    rw [← bind_assoc, ← bind_assoc, hcomm]
  | trans hperm _ ih ih' =>
    exact (ih hS k).trans (ih' (fun i hi => hS i (hperm.mem_iff.mpr hi)) k)

/-- In a lawful play the order of the threads does not matter, where those of `S` and the others
    are never due at the same instant. -/
theorem play_same (h : Independent T S) {es es' : List (Event ι α)}
    (hsame : List.Forall₂ Event.Same es es') {k : Simulation ι σ}
    (hes : Simulation.Lawful T act es k)
    (halone : ∀ m, Reaches T act k m → ∀ is : List ι, is.Nodup → (∀ i ∈ is, m.due i = m.now) →
      (∀ i ∈ is, S i) ∨ ∃ i, is = [i]) : k.play T act es = k.play T act es' := by
  induction hsame generalizing k with
  | nil => rfl
  | @cons e e' es es' he _ ih =>
    have hfirst : k.playEvent T act e = k.playEvent T act e' := by
      obtain rfl | ⟨is, js, rfl, rfl, hperm⟩ := he
      · rfl
      · obtain hS | ⟨i, rfl⟩ := halone k .refl is hes.1.1 hes.1.2
        · exact h.resumeAll_perm hperm hS k
        · rw [hperm.symm.eq_singleton]
    show (k.playEvent T act e >>= _) = (k.playEvent T act e' >>= _)
    rw [← hfirst]
    cases hm : k.playEvent T act e with
    | error _ => rfl
    | ok m =>
      refine ih (hes.2 m hm) fun m' hm' => halone m' ?_
      exact .trans (reaches_of_playEvent hes.1 hm) hm'

end Independent

end EventKernel
