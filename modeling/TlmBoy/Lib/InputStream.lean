import Mathlib.Data.List.Basic

/-
  An input stream that is read in blocks.

  `read` fills a buffer. A block that is there as a whole leaves `eof` clear, also if it is the last
  one; a shorter one sets it, and what is behind it in the buffer stays as it was. `gcount` is the
  number of elements that the last read got. `same_block_iff` says what two equal blocks say about
  the streams.
-/

structure InputStream (α : Type) where
  /-- What has not been read. -/
  rest : List α
  gcount : Nat := 0
  eof : Bool := false

namespace InputStream

variable {α : Type} {n : Nat}

/-- The buffer after its block is read. -/
def fill (rest : List α) (buf : Fin n → α) : Fin n → α := fun i => (rest[i.val]?).getD (buf i)

/-- A read of a whole buffer. Behind the end there is nothing more to get. -/
def read (buf : Fin n → α) (s : InputStream α) : (Fin n → α) × InputStream α :=
  if s.eof then (buf, { s with gcount := 0 })
  else (fill s.rest buf,
    { rest := s.rest.drop n, gcount := min n s.rest.length, eof := decide (s.rest.length < n) })

/-- The stream after a read of `n` elements that is not behind the end. -/
def next (n : Nat) (s : InputStream α) : InputStream α :=
  { rest := s.rest.drop n, gcount := min n s.rest.length, eof := decide (s.rest.length < n) }

theorem read_open (buf : Fin n → α) {s : InputStream α} (h : s.eof = false) :
    s.read buf = (fill s.rest buf, s.next n) := by
  rw [read, h, if_neg Bool.false_ne_true]
  rfl

theorem next_open {s : InputStream α} (h : n ≤ s.rest.length) : (s.next n).eof = false :=
  decide_eq_false (Nat.not_lt.mpr h)

/-- A whole block less is left. -/
theorem length_next_div {s : InputStream α} (hn : 0 < n) (h : n ≤ s.rest.length) {k : Nat}
    (hk : s.rest.length / n < k + 1) : (s.next n).rest.length / n < k := by
  have hsub : (s.next n).rest.length = s.rest.length - n := List.length_drop
  have hdiv := Nat.div_eq_sub_div hn h
  rw [hsub]
  omega

/-- Two lists are equal block by block. -/
theorem eq_iff_take_drop (n : Nat) (xs ys : List α) :
    xs = ys ↔ xs.take n = ys.take n ∧ xs.drop n = ys.drop n := by
  constructor
  · rintro rfl
    exact ⟨rfl, rfl⟩
  · rintro ⟨htake, hdrop⟩
    rw [← List.take_append_drop n xs, htake, hdrop, List.take_append_drop]

/-- The elements that two reads of as many elements got are the same exactly if the blocks are. -/
theorem same_block_iff {xs ys : List α} (hcount : min n xs.length = min n ys.length)
    (buf buf' : Fin n → α) :
    (∀ i : Fin n, i.val < min n xs.length → fill xs buf i = fill ys buf' i) ↔
      xs.take n = ys.take n := by
  have hfill : ∀ (zs : List α) (b : Fin n → α) (i : Fin n) (hi : i.val < zs.length),
      fill zs b i = zs[i.val] := fun zs b i hi => by
    rw [fill, List.getElem?_eq_getElem hi]
    rfl
  constructor
  · intro h
    apply List.ext_getElem
    · rw [List.length_take, List.length_take, hcount]
    · intro i hi hi'
      rw [List.length_take] at hi hi'
      have hsame := h ⟨i, by omega⟩ hi
      rw [hfill xs buf ⟨i, by omega⟩ (by show i < xs.length; omega),
        hfill ys buf' ⟨i, by omega⟩ (by show i < ys.length; omega)] at hsame
      rw [List.getElem_take, List.getElem_take]
      exact hsame
  · intro htake i hi
    have hxs : i.val < xs.length := by omega
    have hys : i.val < ys.length := by omega
    have hget := congrArg (fun zs : List α => zs[i.val]?) htake
    rw [List.getElem?_take_of_lt i.isLt, List.getElem?_take_of_lt i.isLt,
      List.getElem?_eq_getElem hxs, List.getElem?_eq_getElem hys] at hget
    rw [hfill xs buf i hxs, hfill ys buf' i hys]
    exact Option.some.inj hget

end InputStream
