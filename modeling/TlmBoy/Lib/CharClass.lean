import Mathlib.Computability.RegularExpressions

/-
  Regular expressions as they are written in practice, in general terms.

  A character class is a regular expression whose matches are the single letters that satisfy a
  predicate (`IsClass`). The rules below read literals, classes and their repetitions as
  statements about the letters of a word, so that a match is decided without derivatives.
-/

namespace CharClass

open RegularExpression

variable {α : Type} [DecidableEq α]

theorem rmatch_literal (l s : List α) :
    ((l.map char).foldr (· * ·) 1).rmatch s = true ↔ s = l := by
  induction l generalizing s with
  | nil => exact one_rmatch_iff s
  | cons a l ih =>
    rw [List.map_cons, List.foldr_cons, mul_rmatch_iff]
    constructor
    · rintro ⟨t, u, rfl, ht, hu⟩
      rw [(char_rmatch_iff a t).mp ht, (ih u).mp hu, List.singleton_append]
    · rintro rfl
      exact ⟨[a], l, rfl, (char_rmatch_iff a [a]).mpr rfl, (ih l).mpr rfl⟩

/-- `r?` -/
theorem rmatch_optional (r : RegularExpression α) (s : List α) :
    (r + 1).rmatch s = true ↔ r.rmatch s = true ∨ s = [] := by
  rw [add_rmatch_iff, one_rmatch_iff]

/-- `r+`, for an `r` that does not match the empty word. -/
theorem rmatch_many1 {r : RegularExpression α} (hr : r.rmatch [] ≠ true) (s : List α) :
    (r * r.star).rmatch s = true ↔
      ∃ words, words ≠ [] ∧ s = words.flatten ∧ ∀ w ∈ words, r.rmatch w = true := by
  rw [mul_rmatch_iff]
  constructor
  · rintro ⟨t, u, rfl, ht, hu⟩
    obtain ⟨words, rfl, hwords⟩ := (star_rmatch_iff r u).mp hu
    exact ⟨t :: words, List.cons_ne_nil t words, rfl,
      List.forall_mem_cons.mpr ⟨ht, fun w hw => (hwords w hw).2⟩⟩
  · rintro ⟨words, hne, rfl, hwords⟩
    obtain ⟨t, words, rfl⟩ := List.exists_cons_of_ne_nil hne
    obtain ⟨ht, hwords⟩ := List.forall_mem_cons.mp hwords
    refine ⟨t, words.flatten, rfl, ht, (star_rmatch_iff r _).mpr ⟨words, rfl, fun w hw => ?_⟩⟩
    refine ⟨?_, hwords w hw⟩
    rintro rfl
    exact hr (hwords [] hw)

/-! ## Classes -/

/-- The matches of `r` are the single letters that satisfy `p`. -/
def IsClass (r : RegularExpression α) (p : α → Prop) : Prop :=
  ∀ s, r.rmatch s = true ↔ ∃ a, p a ∧ s = [a]

/-- The letters of a list. -/
theorem IsClass.ofList (l : List α) : IsClass ((l.map char).foldr (· + ·) 0) (· ∈ l) := by
  intro s
  induction l with
  | nil =>
    rw [List.map_nil, List.foldr_nil, zero_rmatch]
    simp
  | cons a l ih =>
    rw [List.map_cons, List.foldr_cons, add_rmatch_iff, ih, char_rmatch_iff]
    simp

variable {r r' : RegularExpression α} {p q : α → Prop}

theorem IsClass.congr (h : IsClass r p) (hpq : ∀ a, p a ↔ q a) : IsClass r q := by
  intro s
  rw [h s]
  exact exists_congr fun a => and_congr_left fun _ => hpq a

theorem IsClass.add (h : IsClass r p) (h' : IsClass r' q) :
    IsClass (r + r') fun a => p a ∨ q a := by
  intro s
  rw [add_rmatch_iff, h s, h' s, ← exists_or]
  exact exists_congr fun a => or_and_right.symm

theorem IsClass.not_nil (h : IsClass r p) : r.rmatch [] ≠ true := by
  intro hnil
  obtain ⟨a, -, ha⟩ := (h []).mp hnil
  cases ha

theorem IsClass.singleton (h : IsClass r p) (a : α) : r.rmatch [a] = true ↔ p a := by
  rw [h]
  constructor
  · rintro ⟨b, hb, heq⟩
    rwa [List.singleton_inj.mp heq]
  · exact fun ha => ⟨a, ha, rfl⟩

/-- Words of a class are lists of its letters. -/
theorem IsClass.exists_words (h : IsClass r p) (s : List α) :
    (∃ words : List (List α), s = words.flatten ∧ ∀ w ∈ words, r.rmatch w = true) ↔
      ∀ a ∈ s, p a := by
  constructor
  · rintro ⟨words, rfl, hwords⟩ a ha
    obtain ⟨w, hw, ha⟩ := List.mem_flatten.mp ha
    obtain ⟨b, hb, rfl⟩ := (h w).mp (hwords w hw)
    rw [List.mem_singleton.mp ha]
    exact hb
  · intro hs
    refine ⟨s.map fun a => [a], ?_, fun w hw => ?_⟩
    · simp [← List.flatMap_def]
    · obtain ⟨a, ha, rfl⟩ := List.mem_map.mp hw
      exact (h.singleton a).mpr (hs a ha)

/-- `r*` -/
theorem IsClass.star (h : IsClass r p) (s : List α) :
    r.star.rmatch s = true ↔ ∀ a ∈ s, p a := by
  rw [star_rmatch_iff, ← h.exists_words]
  refine exists_congr fun words => and_congr_right fun _ => forall₂_congr fun w _ => ?_
  refine and_iff_right_of_imp fun hw => ?_
  rintro rfl
  exact h.not_nil hw

/-- `r+` -/
theorem IsClass.many1 (h : IsClass r p) (s : List α) :
    (r * r.star).rmatch s = true ↔ s ≠ [] ∧ ∀ a ∈ s, p a := by
  rw [mul_rmatch_iff]
  constructor
  · rintro ⟨t, u, rfl, ht, hu⟩
    obtain ⟨a, ha, rfl⟩ := (h t).mp ht
    refine ⟨List.cons_ne_nil a u, ?_⟩
    exact List.forall_mem_cons.mpr ⟨ha, (h.star u).mp hu⟩
  · rintro ⟨hne, hs⟩
    obtain ⟨a, u, rfl⟩ := List.exists_cons_of_ne_nil hne
    obtain ⟨ha, hu⟩ := List.forall_mem_cons.mp hs
    exact ⟨[a], u, rfl, (h.singleton a).mpr ha, (h.star u).mpr hu⟩

end CharClass
