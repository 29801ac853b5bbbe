import Mathlib.Data.List.Basic
import Mathlib.Data.List.Sort

/-
  The maximal runs of marked positions below a bound, in general terms.

  `scan` passes over the positions once and keeps the runs that it has closed and the start of the
  one that is open. A gap closes the open run, and so does the bound (`closeAt`). The list that
  comes out, `maximalRuns`, holds every maximal run (`mem_maximalRuns`), in order and with a gap
  between neighbours (`maximalRuns_apart`), so once.
-/

namespace MaximalRuns

variable {p : Nat → Bool} {n i : Nat}

structure Run where
  start : Nat
  len : Nat
deriving DecidableEq, Repr

namespace Run

def stop (r : Run) : Nat := r.start + r.len

def Covers (r : Run) (i : Nat) : Prop := r.start ≤ i ∧ i < r.stop

/-- A gap lies between the two runs. -/
def Apart (r r' : Run) : Prop := r.stop < r'.start

end Run

/-- The positions of `r` are marked, and the ones next to it are not, or do not exist. -/
structure IsMaximal (p : Nat → Bool) (n : Nat) (r : Run) : Prop where
  pos : 0 < r.len
  inside : r.stop ≤ n
  marked : ∀ i, r.Covers i → p i = true
  left : r.start = 0 ∨ p (r.start - 1) = false
  right : r.stop = n ∨ p r.stop = false

theorem IsMaximal.covers_start {r : Run} (h : IsMaximal p n r) : r.Covers r.start := by
  have hpos := h.pos
  unfold Run.Covers Run.stop
  omega

/-- Of two maximal runs that share a position, neither starts before the other. -/
theorem IsMaximal.start_le {r r' : Run} (h : IsMaximal p n r) (h' : IsMaximal p n r')
    (hi : r.Covers i) (hi' : r'.Covers i) : r'.start ≤ r.start := by
  by_contra hlt
  unfold Run.Covers at hi hi'
  -- the position before `r'` lies in `r`
  have hin : r.Covers (r'.start - 1) := by
    unfold Run.Covers
    omega
  have hmark := h.marked _ hin
  rcases h'.left with hzero | hgap
  · omega
  · rw [hgap] at hmark
    exact absurd hmark (by simp)

/-- Neither ends after the other. -/
theorem IsMaximal.stop_le {r r' : Run} (h : IsMaximal p n r) (h' : IsMaximal p n r')
    (hi : r.Covers i) (hi' : r'.Covers i) : r.stop ≤ r'.stop := by
  by_contra hlt
  unfold Run.Covers at hi hi'
  have hinside := h.inside
  have hin : r.Covers r'.stop := by
    unfold Run.Covers
    omega
  have hmark := h.marked _ hin
  rcases h'.right with hend | hgap
  · omega
  · rw [hgap] at hmark
    exact absurd hmark (by simp)

/-- Maximal runs that share a position are equal. -/
theorem IsMaximal.eq_of_covers {r r' : Run} (h : IsMaximal p n r) (h' : IsMaximal p n r')
    (hi : r.Covers i) (hi' : r'.Covers i) : r = r' := by
  have hstart : r.start = r'.start := Nat.le_antisymm (h'.start_le h hi' hi) (h.start_le h' hi hi')
  have hstop : r.stop = r'.stop := Nat.le_antisymm (h.stop_le h' hi hi') (h'.stop_le h hi' hi)
  obtain ⟨a, l⟩ := r
  obtain ⟨a', l'⟩ := r'
  simp only [Run.stop] at hstart hstop
  simp only [Run.mk.injEq]
  omega

/-! ## The scan -/

/-- What a scan has found: the runs it has closed, and where the open one starts. -/
structure Scan where
  done : List Run
  opened : Option Nat

namespace Scan

def step (p : Nat → Bool) (s : Scan) (i : Nat) : Scan :=
  match p i, s.opened with
  | true, none => { s with opened := some i }
  | true, some _ => s
  | false, none => s
  | false, some a => ⟨s.done ++ [⟨a, i - a⟩], none⟩

section Step

variable {done : List Run} {a : Nat}

theorem step_starts (hp : p i = true) : step p ⟨done, none⟩ i = ⟨done, some i⟩ := by
  simp [step, hp]

theorem step_grows (hp : p i = true) : step p ⟨done, some a⟩ i = ⟨done, some a⟩ := by
  simp [step, hp]

theorem step_skips (hp : p i = false) : step p ⟨done, none⟩ i = ⟨done, none⟩ := by
  simp [step, hp]

theorem step_closes (hp : p i = false) :
    step p ⟨done, some a⟩ i = ⟨done ++ [⟨a, i - a⟩], none⟩ := by
  simp [step, hp]

end Step

/-- The runs when the positions end at `n`. -/
def closeAt (n : Nat) (s : Scan) : List Run :=
  match s.opened with
  | none => s.done
  | some a => s.done ++ [⟨a, n - a⟩]

end Scan

def scan (p : Nat → Bool) (n : Nat) : Scan := (List.range n).foldl (Scan.step p) ⟨[], none⟩

def maximalRuns (p : Nat → Bool) (n : Nat) : List Run := (scan p n).closeAt n

theorem scan_succ (p : Nat → Bool) (n : Nat) : scan p (n + 1) = (scan p n).step p n := by
  rw [scan, List.range_succ, List.foldl_append]
  rfl

/-- A run that a gap has closed. -/
structure IsClosed (p : Nat → Bool) (i : Nat) (r : Run) : Prop where
  pos : 0 < r.len
  inside : r.stop < i
  marked : ∀ k, r.Covers k → p k = true
  left : r.start = 0 ∨ p (r.start - 1) = false
  right : p r.stop = false

/-- A run from `a` that reaches up to `i`. -/
structure IsOpen (p : Nat → Bool) (i a : Nat) : Prop where
  started : a < i
  marked : ∀ k, a ≤ k → k < i → p k = true
  left : a = 0 ∨ p (a - 1) = false

/-- What the scan has found among the positions below `i`. -/
structure Found (p : Nat → Bool) (i : Nat) (s : Scan) : Prop where
  closed : ∀ r ∈ s.done, IsClosed p i r
  apart : s.done.Pairwise Run.Apart
  covered : ∀ k < i, p k = true →
    (∃ r ∈ s.done, r.Covers k) ∨ ∃ a, s.opened = some a ∧ a ≤ k
  isOpen : ∀ a, s.opened = some a → IsOpen p i a
  gap : s.opened = none → i = 0 ∨ p (i - 1) = false

theorem IsClosed.succ {r : Run} (h : IsClosed p i r) : IsClosed p (i + 1) r :=
  { h with inside := Nat.lt_succ_of_lt h.inside }

/-- An open run starts after every closed one. -/
theorem IsOpen.apart {r : Run} {a : Nat} (h : IsOpen p i a) (hr : IsClosed p i r) : r.stop < a := by
  by_contra hle
  have hmark := h.marked r.stop (by omega) hr.inside
  rw [hr.right] at hmark
  exact absurd hmark (by simp)

/-- A gap closes the open run. -/
theorem IsOpen.close {a : Nat} (h : IsOpen p i a) (hgap : p i = false) :
    IsClosed p (i + 1) ⟨a, i - a⟩ := by
  have hstarted := h.started
  have hstop : (⟨a, i - a⟩ : Run).stop = i := by
    show a + (i - a) = i
    omega
  refine ⟨by show 0 < i - a; omega, by omega, fun k hk => ?_, h.left, by rw [hstop]; exact hgap⟩
  unfold Run.Covers at hk
  rw [hstop] at hk
  exact h.marked k hk.1 hk.2

theorem found_zero (p : Nat → Bool) : Found p 0 ⟨[], none⟩ where
  closed := fun _ hr => absurd hr (by simp)
  apart := List.Pairwise.nil
  covered := fun k hk => absurd hk (by omega)
  isOpen := fun _ ha => absurd ha (by simp)
  gap := fun _ => Or.inl rfl

section Steps

variable {done : List Run} {a : Nat}

theorem Found.closed_succ {s : Scan} (h : Found p i s) : ∀ r ∈ s.done, IsClosed p (i + 1) r :=
  fun r hr => (h.closed r hr).succ

/-- After a gap the marked positions are those before it. -/
theorem lt_of_gap (hgap : p i = false) {k : Nat} (hk : k < i + 1) (hmark : p k = true) : k < i := by
  have hne : k ≠ i := by
    rintro rfl
    rw [hgap] at hmark
    cases hmark
  omega

/-- A run starts at a marked position. -/
theorem Found.starts (h : Found p i ⟨done, none⟩) (hp : p i = true) :
    Found p (i + 1) ⟨done, some i⟩ := by
  refine ⟨h.closed_succ, h.apart, fun k hk hmark => ?_, fun b hb => ?_, nofun⟩
  · by_cases heq : k = i
    · exact Or.inr ⟨i, rfl, by omega⟩
    · rcases h.covered k (by omega) hmark with hdone | ⟨b, hb, -⟩
      · exact Or.inl hdone
      · cases hb
  · obtain rfl := Option.some.inj hb
    refine ⟨by omega, fun k hk hlt => ?_, h.gap rfl⟩
    obtain rfl : k = i := by omega
    exact hp

/-- The open run grows by a marked position. -/
theorem Found.grows (h : Found p i ⟨done, some a⟩) (hp : p i = true) :
    Found p (i + 1) ⟨done, some a⟩ := by
  have hopen := h.isOpen a rfl
  refine ⟨h.closed_succ, h.apart, fun k hk hmark => ?_, fun b hb => ?_, nofun⟩
  · by_cases heq : k = i
    · exact Or.inr ⟨a, rfl, by have := hopen.started; omega⟩
    · exact h.covered k (by omega) hmark
  · obtain rfl := Option.some.inj hb
    refine ⟨Nat.lt_succ_of_lt hopen.started, fun k hk hlt => ?_, hopen.left⟩
    by_cases heq : k = i
    · rw [heq]
      exact hp
    · exact hopen.marked k hk (by omega)

/-- Nothing happens at a gap without an open run. -/
theorem Found.skips (h : Found p i ⟨done, none⟩) (hp : p i = false) :
    Found p (i + 1) ⟨done, none⟩ := by
  refine ⟨h.closed_succ, h.apart, fun k hk hmark => h.covered k (lt_of_gap hp hk hmark) hmark,
    nofun, fun _ => Or.inr ?_⟩
  rw [Nat.add_sub_cancel]
  exact hp

/-- A gap closes the open run, which becomes the last of the list. -/
theorem Found.closes (h : Found p i ⟨done, some a⟩) (hp : p i = false) :
    Found p (i + 1) ⟨done ++ [⟨a, i - a⟩], none⟩ := by
  have hopen := h.isOpen a rfl
  refine ⟨fun r hr => ?_, ?_, fun k hk hmark => ?_, nofun, fun _ => Or.inr ?_⟩
  · rcases List.mem_append.mp hr with hr | hr
    · exact h.closed_succ r hr
    · rw [List.mem_singleton.mp hr]
      exact hopen.close hp
  · refine List.pairwise_append.mpr ⟨h.apart, List.pairwise_singleton _ _, ?_⟩
    intro r hr r' hr'
    rw [List.mem_singleton.mp hr']
    exact hopen.apart (h.closed r hr)
  · have hlt := lt_of_gap hp hk hmark
    rcases h.covered k hlt hmark with ⟨r, hr, hcov⟩ | ⟨b, hb, hle⟩
    · exact Or.inl ⟨r, List.mem_append_left _ hr, hcov⟩
    · obtain rfl := Option.some.inj hb
      refine Or.inl ⟨⟨a, i - a⟩, by simp, ?_⟩
      unfold Run.Covers Run.stop
      dsimp only
      omega
  · rw [Nat.add_sub_cancel]
    exact hp

end Steps

/-- One step, by what the position and the scan are. -/
theorem found_step {s : Scan} (h : Found p i s) : Found p (i + 1) (s.step p i) := by
  obtain ⟨done, opened⟩ := s
  cases hp : p i with
  | true =>
    cases opened with
    | none =>
      rw [Scan.step_starts hp]
      exact h.starts hp
    | some a =>
      rw [Scan.step_grows hp]
      exact h.grows hp
  | false =>
    cases opened with
    | none =>
      rw [Scan.step_skips hp]
      exact h.skips hp
    | some a =>
      rw [Scan.step_closes hp]
      exact h.closes hp

theorem found_scan (p : Nat → Bool) (n : Nat) : Found p n (scan p n) := by
  induction n with
  | zero => exact found_zero p
  | succ n ih =>
    rw [scan_succ]
    exact found_step ih

/-! ## The runs found -/

theorem IsClosed.maximal {r : Run} (h : IsClosed p n r) : IsMaximal p n r :=
  ⟨h.pos, Nat.le_of_lt h.inside, h.marked, h.left, Or.inr h.right⟩

/-- The bound closes the open run. -/
theorem IsOpen.maximal {a : Nat} (h : IsOpen p n a) : IsMaximal p n ⟨a, n - a⟩ := by
  have hstarted := h.started
  have hstop : (⟨a, n - a⟩ : Run).stop = n := by
    show a + (n - a) = n
    omega
  refine ⟨by show 0 < n - a; omega, by omega, fun k hk => ?_, h.left, Or.inl hstop⟩
  unfold Run.Covers at hk
  rw [hstop] at hk
  exact h.marked k hk.1 hk.2

theorem isMaximal_of_mem {r : Run} (hr : r ∈ maximalRuns p n) : IsMaximal p n r := by
  have hfound := found_scan p n
  unfold maximalRuns Scan.closeAt at hr
  cases hopened : (scan p n).opened with
  | none =>
    rw [hopened] at hr
    exact (hfound.closed r hr).maximal
  | some a =>
    rw [hopened] at hr
    rcases List.mem_append.mp hr with hr | hr
    · exact (hfound.closed r hr).maximal
    · rw [List.mem_singleton.mp hr]
      exact (hfound.isOpen a hopened).maximal

/-- A gap lies between any two of the runs, the earlier one first. -/
theorem maximalRuns_apart (p : Nat → Bool) (n : Nat) :
    (maximalRuns p n).Pairwise Run.Apart := by
  have hfound := found_scan p n
  unfold maximalRuns Scan.closeAt
  cases hopened : (scan p n).opened with
  | none => exact hfound.apart
  | some a =>
    refine List.pairwise_append.mpr ⟨hfound.apart, List.pairwise_singleton _ _, ?_⟩
    intro r hr r' hr'
    rw [List.mem_singleton.mp hr']
    exact (hfound.isOpen a hopened).apart (hfound.closed r hr)

theorem exists_covers (hi : i < n) (hp : p i = true) : ∃ r ∈ maximalRuns p n, r.Covers i := by
  have hfound := found_scan p n
  unfold maximalRuns Scan.closeAt
  rcases hfound.covered i hi hp with ⟨r, hr, hcov⟩ | ⟨a, hopened, hle⟩
  · refine ⟨r, ?_, hcov⟩
    cases (scan p n).opened with
    | none => exact hr
    | some a => exact List.mem_append_left _ hr
  · rw [hopened]
    refine ⟨⟨a, n - a⟩, by simp, ?_⟩
    unfold Run.Covers Run.stop
    dsimp only
    omega

theorem mem_maximalRuns {r : Run} : r ∈ maximalRuns p n ↔ IsMaximal p n r := by
  refine ⟨isMaximal_of_mem, fun h => ?_⟩
  have hstart := h.covers_start
  obtain ⟨r', hr', hcov⟩ := exists_covers (Nat.lt_of_lt_of_le hstart.2 h.inside)
    (h.marked _ hstart)
  rw [h.eq_of_covers (isMaximal_of_mem hr') hstart hcov]
  exact hr'

end MaximalRuns
