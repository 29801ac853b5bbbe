import Mathlib.Data.List.Nodup

/-
  A store whose entries are read and replaced by key.

  The keys that have an entry are fixed: `put` replaces an entry and makes none. `putAll` replaces
  several. Where their keys differ each of them is read back (`get_putAll_of_mem`), and every
  other key reads as before (`get_putAll_of_notMem`).
-/

namespace KeyedStore

variable {S K V : Type}

/-- `put` replaces the entry of its key. -/
def Lawful [DecidableEq K] (get : K → S → Option V) (put : K → V → S → S) : Prop :=
  ∀ k k' v s, get k' (put k v s) = if k' = k then (get k' s).map fun _ => v else get k' s

def putAll (put : K → V → S → S) (entries : List (K × V)) (s : S) : S :=
  entries.foldl (fun s entry => put entry.1 entry.2 s) s

/-- What no replacement changes, none of them does. -/
theorem putAll_same {put : K → V → S → S} {α : Type} {f : S → α}
    (h : ∀ k v s, f (put k v s) = f s) (entries : List (K × V)) (s : S) :
    f (putAll put entries s) = f s := by
  induction entries generalizing s with
  | nil => rfl
  | cons entry entries ih => exact (ih _).trans (h entry.1 entry.2 s)

variable [DecidableEq K] {get : K → S → Option V} {put : K → V → S → S} {entries : List (K × V)}
  {k : K} {v : V} {s : S}

theorem get_putAll_of_notMem (hlawful : Lawful get put) (h : k ∉ entries.map Prod.fst) :
    get k (putAll put entries s) = get k s := by
  induction entries generalizing s with
  | nil => rfl
  | cons entry entries ih =>
    rw [List.map_cons, List.mem_cons, not_or] at h
    have hrest : get k (putAll put entries (put entry.1 entry.2 s)) =
        get k (put entry.1 entry.2 s) := ih h.2
    rw [hlawful, if_neg h.1] at hrest
    exact hrest

theorem get_putAll_of_mem (hlawful : Lawful get put) (hnodup : (entries.map Prod.fst).Nodup)
    (hmem : (k, v) ∈ entries) (hsome : (get k s).isSome = true) :
    get k (putAll put entries s) = some v := by
  induction entries generalizing s with
  | nil => cases hmem
  | cons entry entries ih =>
    obtain ⟨hnot, hnodup⟩ := List.nodup_cons.mp hnodup
    rcases List.mem_cons.mp hmem with rfl | hmem
    · have hrest : get k (putAll put entries (put k v s)) = get k (put k v s) :=
        get_putAll_of_notMem hlawful hnot
      obtain ⟨old, hold⟩ := Option.isSome_iff_exists.mp hsome
      rw [hlawful, if_pos rfl, hold] at hrest
      exact hrest
    · have hne : k ≠ entry.1 := by
        rintro rfl
        exact hnot (List.mem_map.mpr ⟨_, hmem, rfl⟩)
      refine ih hnodup hmem ?_
      rwa [hlawful, if_neg hne]

end KeyedStore
