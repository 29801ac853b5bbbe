import Mathlib.Algebra.GroupWithZero.Nat
import Mathlib.Data.List.Basic

/-
  Bitmap files (BMP), in general terms.

  `decode` reads a bitmap of 32-bit pixels whose channels are given by masks, as a reader does
  that knows the format and not the program that wrote the file: every number that it uses is in
  a field of the header. `field_append` finds a field in the first part of a file. `drop_blocks`
  finds a block in a sequence of blocks of one length.
-/

namespace Bitmap

abbrev Byte := BitVec 8

/-! ## Fields -/

/-- The number whose lowest byte comes first. -/
def value (bytes : List Byte) : Nat := bytes.foldr (fun b n => b.toNat + 256 * n) 0

/-- The number in `n` bytes from `pos` on. -/
def field (file : List Byte) (pos n : Nat) : Option Nat :=
  if pos + n ≤ file.length then some (value ((file.drop pos).take n)) else none

theorem field_append {file : List Byte} {pos n : Nat} (h : pos + n ≤ file.length)
    (rest : List Byte) : field (file ++ rest) pos n = field file pos n := by
  have htake : ((file ++ rest).drop pos).take n = (file.drop pos).take n := by
    rw [List.drop_append_of_le_length (by omega),
      List.take_append_of_le_length (by rw [List.length_drop]; omega)]
  unfold field
  rw [if_pos h, if_pos (by rw [List.length_append]; omega), htake]

/-! ## Blocks -/

section Blocks

variable {α β : Type} {f : α → List β} {n : Nat}

theorem length_blocks (hlength : ∀ a, (f a).length = n) (l : List α) :
    (l.flatMap f).length = n * l.length := by
  induction l with
  | nil => rfl
  | cons a l ih =>
    rw [List.flatMap_cons, List.length_append, hlength, ih, List.length_cons, Nat.mul_succ,
      Nat.add_comm]

/-- What follows the first `i` blocks. -/
theorem drop_blocks (hlength : ∀ a, (f a).length = n) {l : List α} {i : Nat} {a : α}
    (hi : l[i]? = some a) :
    (l.flatMap f).drop (n * i) = f a ++ (l.drop (i + 1)).flatMap f := by
  induction i generalizing l with
  | zero =>
    cases l with
    | nil => simp at hi
    | cons b l =>
      obtain rfl := Option.some.inj hi
      rfl
  | succ i ih =>
    cases l with
    | nil => simp at hi
    | cons b l =>
      have hpos : n * (i + 1) = (f b).length + n * i := by
        rw [hlength, Nat.mul_succ, Nat.add_comm]
      rw [List.flatMap_cons, hpos, List.drop_length_add_append, ih hi]
      rfl

end Blocks

/-! ## Pictures -/

/-- The channels of a pixel. -/
structure Pixel where
  red : Nat
  green : Nat
  blue : Nat
  alpha : Nat
deriving DecidableEq, Repr

/-- The bits of `v` under a mask, moved down to the lowest. The greatest common divisor is the
    lowest bit of the mask. -/
def channel (mask v : Nat) : Nat := (v &&& mask) / Nat.gcd mask (2 ^ 32)

end Bitmap

/-- A picture, with its rows from the top. -/
structure Bitmap where
  width : Nat
  height : Nat
  pixel : Fin height → Fin width → Bitmap.Pixel

namespace Bitmap

/-- The number of the pixel in row `y` and column `x`. The rows stand from the bottom up. -/
def pixelValue (file : List Byte) (offset width height y x : Nat) : Nat :=
  value ((file.drop (offset + 4 * (width * (height - 1 - y) + x))).take 4)

def decode (file : List Byte) : Option Bitmap := do
  guard (field file 0 2 = some 0x4D42)
  guard (field file 2 4 = some file.length)
  let offset ← field file 10 4
  let width ← field file 18 4
  let height ← field file 22 4
  -- As signed numbers they would be negative.
  guard (width < 2 ^ 31 ∧ height < 2 ^ 31)
  -- A header with an alpha mask, one plane, 32 bits for a pixel, and masks for the channels.
  guard (field file 14 4 = some 108 ∧ field file 26 2 = some 1 ∧ field file 28 2 = some 32 ∧
    field file 30 4 = some 3)
  let red ← field file 54 4
  let green ← field file 58 4
  let blue ← field file 62 4
  let alpha ← field file 66 4
  guard (offset + 4 * (width * height) ≤ file.length)
  return {
    width, height
    pixel := fun y x =>
      let v := pixelValue file offset width height y.val x.val
      { red := channel red v, green := channel green v, blue := channel blue v,
        alpha := channel alpha v } }

theorem guard_bind {α : Type} {P : Prop} [Decidable P] (h : P) (f : Unit → Option α) :
    (guard P >>= f) = f () := by
  rw [guard, if_pos h]
  rfl

theorem field_bind {α : Type} {file : List Byte} {pos n v : Nat} (h : field file pos n = some v)
    (f : Nat → Option α) : (field file pos n >>= f) = f v := by
  rw [h]
  rfl

/-- A file is read if all its fields are there. -/
theorem decode_eq {file : List Byte} {offset width height red green blue alpha : Nat}
    (hmagic : field file 0 2 = some 0x4D42) (hsize : field file 2 4 = some file.length)
    (hoffset : field file 10 4 = some offset) (hwidth : field file 18 4 = some width)
    (hheight : field file 22 4 = some height) (hsigned : width < 2 ^ 31 ∧ height < 2 ^ 31)
    (hformat : field file 14 4 = some 108 ∧ field file 26 2 = some 1 ∧
      field file 28 2 = some 32 ∧ field file 30 4 = some 3)
    (hred : field file 54 4 = some red) (hgreen : field file 58 4 = some green)
    (hblue : field file 62 4 = some blue) (halpha : field file 66 4 = some alpha)
    (hlong : offset + 4 * (width * height) ≤ file.length) :
    decode file = some {
      width, height
      pixel := fun y x =>
        let v := pixelValue file offset width height y.val x.val
        { red := channel red v, green := channel green v, blue := channel blue v,
          alpha := channel alpha v } } := by
  unfold decode
  rw [guard_bind hmagic, guard_bind hsize, field_bind hoffset, field_bind hwidth,
    field_bind hheight, guard_bind hsigned, guard_bind hformat, field_bind hred,
    field_bind hgreen, field_bind hblue, field_bind halpha, guard_bind hlong]
  rfl

end Bitmap
