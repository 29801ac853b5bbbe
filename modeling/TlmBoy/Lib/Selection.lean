import Mathlib.Data.List.Sort

/-
  Selecting the least elements of a list by a key, in general terms.

  The elements have an order of their own, in which the list is given, and a key. `Before` is the
  key's order with ties broken by the elements' own; a stable sort by the key sorts by it
  (`pairwise_before`). A selection that first drops the elements without a property, then sorts and
  keeps the first `k`, is compared with one that keeps the first `k` of the list and then drops:
  they agree exactly when no element beyond the first `k` gets the place of one of them
  (`filter_sort_take_iff`).
-/

namespace Selection

/-! ## Taking from a list -/

/-- All of a list without duplicates that is as long as a list it is part of. -/
theorem subset_of_length_le {α : Type} {l l' : List α} (hl : l.Nodup) (hsub : l ⊆ l')
    (hlength : l'.length ≤ l.length) : l' ⊆ l :=
  ((List.subperm_of_subset hl hsub).perm_of_length_le hlength).symm.subset

/-- An element left behind by `take k` shows that `k` are taken. -/
theorem length_take_of_left {α : Type} {l : List α} {k : Nat} {a : α} (ha : a ∈ l)
    (hleft : a ∉ l.take k) : (l.take k).length = k := by
  rw [List.length_take]
  by_contra hshort
  rw [List.take_of_length_le (by omega)] at hleft
  exact hleft ha

/-- An element left behind by `take k` is one of the rest. -/
theorem mem_drop_of_left {α : Type} {l : List α} {k : Nat} {a : α} (ha : a ∈ l)
    (hleft : a ∉ l.take k) : a ∈ l.drop k := by
  rw [← List.take_append_drop k l] at ha
  exact (List.mem_append.mp ha).resolve_left hleft

/-- What is taken is related to what is left. -/
theorem rel_of_taken {α : Type} {r : α → α → Prop} {l : List α} (hl : l.Pairwise r) {k : Nat}
    {a b : α} (ha : a ∈ l.take k) (hb : b ∈ l) (hleft : b ∉ l.take k) : r a b := by
  have hdrop := mem_drop_of_left hb hleft
  rw [← List.take_append_drop k l] at hl
  exact (List.pairwise_append.mp hl).2.2 a ha b hdrop

/-! ## Sorting by a key -/

variable {α κ : Type} [LinearOrder α] [LinearOrder κ]

/-- Less by the key, or equal there and less. -/
def Before (key : α → κ) (a b : α) : Prop := key a < key b ∨ key a = key b ∧ a < b

theorem before_of_le {key : α → κ} {a b : α} (hkey : key a ≤ key b) (h : a < b) :
    Before key a b := by
  rcases hkey.lt_or_eq with hlt | heq
  · exact .inl hlt
  · exact .inr ⟨heq, h⟩

theorem Before.key_le {key : α → κ} {a b : α} (h : Before key a b) : key a ≤ key b := by
  rcases h with hlt | ⟨heq, -⟩
  · exact hlt.le
  · exact heq.le

theorem Before.asymm {key : α → κ} {a b : α} (h : Before key a b) : ¬ Before key b a := by
  rintro (hlt | ⟨heq, hlt⟩)
  · exact absurd h.key_le (not_le.mpr hlt)
  · rcases h with hlt' | ⟨-, hlt'⟩
    · exact absurd heq hlt'.ne'
    · exact absurd hlt hlt'.asymm

variable (key : α → κ)

/-- The sort of a list by the key. -/
abbrev sortBy (l : List α) : List α := l.insertionSort fun a b => key a ≤ key b

theorem pairwise_orderedInsert {a : α} {l : List α} (hl : l.Pairwise (Before key))
    (ha : ∀ b ∈ l, a < b) :
    (l.orderedInsert (fun a b => key a ≤ key b) a).Pairwise (Before key) := by
  induction l with
  | nil => exact List.pairwise_singleton ..
  | cons b l ih =>
    obtain ⟨hb, htail⟩ := List.pairwise_cons.mp hl
    have hab := ha b List.mem_cons_self
    have hal : ∀ c ∈ l, a < c := fun c hc => ha c (List.mem_cons_of_mem b hc)
    by_cases hkey : key a ≤ key b
    · rw [List.orderedInsert_cons_of_le (fun a b => key a ≤ key b) _ hkey]
      refine List.pairwise_cons.mpr ⟨fun c hc => ?_, hl⟩
      rcases List.mem_cons.mp hc with hc | hc
      · rw [hc]
        exact before_of_le hkey hab
      · exact before_of_le (hkey.trans (hb c hc).key_le) (hal c hc)
    · rw [List.orderedInsert_of_not_le (fun a b => key a ≤ key b) _ hkey]
      refine List.pairwise_cons.mpr ⟨fun c hc => ?_, ih htail hal⟩
      rcases (List.mem_orderedInsert _).mp hc with hc | hc
      · rw [hc]
        exact .inl (not_le.mp hkey)
      · exact hb c hc

/-- The sort is stable. -/
theorem pairwise_before {l : List α} (hl : l.Pairwise (· < ·)) :
    (sortBy key l).Pairwise (Before key) := by
  induction l with
  | nil => exact List.Pairwise.nil
  | cons a l ih =>
    obtain ⟨ha, htail⟩ := List.pairwise_cons.mp hl
    refine pairwise_orderedInsert key (ih htail) fun b hb => ha b ?_
    exact (List.mem_insertionSort _).mp hb

theorem nodup_sortBy {l : List α} (hl : l.Pairwise (· < ·)) : (sortBy key l).Nodup :=
  (List.perm_insertionSort _ l).nodup_iff.mpr (hl.imp fun h => h.ne)

/-- What is taken comes before what is left. -/
theorem before_of_taken {l : List α} (hl : l.Pairwise (· < ·)) {k : Nat} {a b : α}
    (ha : a ∈ (sortBy key l).take k) (hb : b ∈ l) (hleft : b ∉ (sortBy key l).take k) :
    Before key a b :=
  rel_of_taken (pairwise_before key hl) ha ((List.mem_insertionSort _).mpr hb) hleft

/-- Dropping first and dropping last select the same, exactly when each element with the property
    beyond the first `k` leaves those all in place: they have the property and no larger key. -/
theorem filter_sort_take_iff (p : α → Prop) [DecidablePred p] {l : List α}
    (hl : l.Pairwise (· < ·)) (k : Nat) :
    (∀ a, a ∈ (sortBy key (l.filter p)).take k ↔ a ∈ l.take k ∧ p a) ↔
      ∀ v ∈ l, v ∉ l.take k → p v → ∀ f ∈ l.take k, p f ∧ key f ≤ key v := by
  have hfilter : (l.filter p).Pairwise (· < ·) := hl.filter _
  have hmem : ∀ {a}, a ∈ l.filter p ↔ a ∈ l ∧ p a := by simp
  have hfirst : ∀ {a}, a ∈ l.take k → a ∈ l := List.mem_of_mem_take
  constructor
  · intro hsame v hv hbeyond hpv f hf
    have hvleft : v ∉ (sortBy key (l.filter p)).take k :=
      fun htaken => hbeyond ((hsame v).mp htaken).1
    -- `k` are taken, and all of them are among the first `k`
    have hlength : ((sortBy key (l.filter p)).take k).length = k :=
      length_take_of_left ((List.mem_insertionSort _).mpr (hmem.mpr ⟨hv, hpv⟩)) hvleft
    have hall : l.take k ⊆ (sortBy key (l.filter p)).take k := by
      refine subset_of_length_le ((nodup_sortBy key hfilter).sublist (List.take_sublist ..))
        (fun a ha => ((hsame a).mp ha).1) ?_
      rw [hlength]
      exact List.length_take_le ..
    exact ⟨((hsame f).mp (hall hf)).2,
      (before_of_taken key hfilter (hall hf) (hmem.mpr ⟨hv, hpv⟩) hvleft).key_le⟩
  · intro hplace
    by_cases hbeyond : ∃ v ∈ l, v ∉ l.take k ∧ p v
    · obtain ⟨v, hv, hvleft, hpv⟩ := hbeyond
      have hp : ∀ f ∈ l.take k, p f := fun f hf => (hplace v hv hvleft hpv f hf).1
      have hfirst_nodup : (l.take k).Nodup := (hl.imp fun h => h.ne).sublist (List.take_sublist ..)
      have htaken_nodup := (nodup_sortBy key hfilter).sublist (List.take_sublist k _)
      have hlength := length_take_of_left hv hvleft
      have hin : l.take k ⊆ (sortBy key (l.filter p)).take k := by
        intro f hf
        by_contra hout
        have hfmem := hmem.mpr ⟨hfirst hf, hp f hf⟩
        have hfull := length_take_of_left ((List.mem_insertionSort _).mpr hfmem) hout
        -- something else is taken in the place of `f`, but `f` comes first
        obtain ⟨s, hs, hsout⟩ : ∃ s ∈ (sortBy key (l.filter p)).take k, s ∉ l.take k := by
          by_contra hnone
          simp only [not_exists, not_and, not_not] at hnone
          exact hout (subset_of_length_le htaken_nodup hnone (hlength.trans hfull.symm).le hf)
        have hsl := hmem.mp ((List.mem_insertionSort _).mp (List.mem_of_mem_take hs))
        have hbefore := before_of_taken key hfilter hs hfmem hout
        exact (before_of_le (hplace s hsl.1 hsout hsl.2 f hf).2
          (rel_of_taken hl hf hsl.1 hsout)).asymm hbefore
      have hback := subset_of_length_le hfirst_nodup hin (by
        rw [hlength]
        exact List.length_take_le ..)
      exact fun a => ⟨fun ha => ⟨hback ha, hp a (hback ha)⟩, fun ha => hin ha.1⟩
    · have hnone : ∀ v, v ∈ l → p v → v ∈ l.take k := by
        intro v hv hpv
        by_contra hvleft
        exact hbeyond ⟨v, hv, hvleft, hpv⟩
      have hshort : (sortBy key (l.filter p)).length ≤ k := by
        rw [List.length_insertionSort]
        refine le_trans (List.subperm_of_subset (hfilter.imp fun h => h.ne) ?_).length_le
          (List.length_take_le k l)
        exact fun a ha => hnone a (hmem.mp ha).1 (hmem.mp ha).2
      intro a
      rw [List.take_of_length_le hshort, List.mem_insertionSort, hmem]
      exact ⟨fun h => ⟨hnone a h.1 h.2, h.2⟩, fun h => ⟨hfirst h.1, h.2⟩⟩

end Selection
