import TlmBoy.Cartridge.Construct
import TlmBoy.Lib.InputStream

/-
  `CompareFiles`, on which the golden-file tests rest.

  Both files are read in blocks, and the counts are compared before the bytes. A round either
  decides or goes on behind two whole blocks that are the same (`compareLoop_succ`);
  `compareLoop_eq` is the induction over the blocks.
-/

namespace TlmBoy

/-- `sizeof buf1`. -/
def kBufSize : Nat := 1024

abbrev FileBuffer := Fin kBufSize → U8

/-- The `for` loop over the bytes of a block finds a difference. -/
def differ (gcount : Nat) (buf1 buf2 : FileBuffer) : Bool :=
  (List.finRange kBufSize).any fun i => decide (i.val < gcount) && buf1 i != buf2 i

/-- The `do` loop, for at most `fuel` rounds. -/
def compareLoop : Nat → FileBuffer → FileBuffer → InputStream U8 → InputStream U8 →
    Except Fault Bool
  | 0, _, _, _, _ => .error .outOfFuel
  | fuel + 1, buf1, buf2, f1H, f2H =>
    let (buf1, f1H) := f1H.read buf1
    let (buf2, f2H) := f2H.read buf2
    if f1H.gcount ≠ f2H.gcount then .ok false
    else if differ f1H.gcount buf1 buf2 then .ok false
    else if !f1H.eof && !f2H.eof then compareLoop fuel buf1 buf2 f1H f2H
    else .ok true

/-- `CompareFiles`, with what the two buffers hold when it is called. -/
def compareFiles (files : Files) (file1 file2 : String) (buf1 buf2 : FileBuffer) (fuel : Nat) :
    Except Fault Bool :=
  match files file1 with
  | none => .ok false
  | some data1 =>
    match files file2 with
    | none => .ok false
    | some data2 => compareLoop fuel buf1 buf2 { rest := data1 } { rest := data2 }

theorem differ_eq_false_iff (gcount : Nat) (buf1 buf2 : FileBuffer) :
    differ gcount buf1 buf2 = false ↔ ∀ i : Fin kBufSize, i.val < gcount → buf1 i = buf2 i := by
  simp [differ]

/-- A round compares the next blocks, and the loop goes on if they were read as a whole. -/
theorem compareLoop_succ (fuel : Nat) (buf1 buf2 : FileBuffer) {f1H f2H : InputStream U8}
    (h1 : f1H.eof = false) (h2 : f2H.eof = false) :
    compareLoop (fuel + 1) buf1 buf2 f1H f2H =
      if f1H.rest.take kBufSize = f2H.rest.take kBufSize then
        if kBufSize ≤ f1H.rest.length then
          compareLoop fuel (InputStream.fill f1H.rest buf1) (InputStream.fill f2H.rest buf2)
            (f1H.next kBufSize) (f2H.next kBufSize)
        else .ok true
      else .ok false := by
  rw [compareLoop, InputStream.read_open buf1 h1, InputStream.read_open buf2 h2]
  dsimp only [InputStream.next]
  by_cases hcount : min kBufSize f1H.rest.length = min kBufSize f2H.rest.length
  · have hblock := InputStream.same_block_iff hcount buf1 buf2
    rw [if_neg (not_not.mpr hcount)]
    by_cases hsame : f1H.rest.take kBufSize = f2H.rest.take kBufSize
    · rw [(differ_eq_false_iff _ _ _).mpr (hblock.mpr hsame), if_neg Bool.false_ne_true,
        if_pos hsame]
      by_cases hfull : kBufSize ≤ f1H.rest.length
      · have hfull2 : kBufSize ≤ f2H.rest.length := by omega
        rw [decide_eq_false (Nat.not_lt.mpr hfull), decide_eq_false (Nat.not_lt.mpr hfull2),
          if_pos (show (!false && !false) = true from rfl), if_pos hfull]
      · rw [decide_eq_true (Nat.not_le.mp hfull), if_neg (by simp), if_neg hfull]
    · have hdiffer : differ (min kBufSize f1H.rest.length) (InputStream.fill f1H.rest buf1)
          (InputStream.fill f2H.rest buf2) = true := by
        rw [← Bool.not_eq_false, differ_eq_false_iff]
        exact fun hall => hsame (hblock.mp hall)
      rw [if_pos hdiffer, if_neg hsame]
  · -- Blocks of different lengths are different.
    have hother : f1H.rest.take kBufSize ≠ f2H.rest.take kBufSize := by
      intro hsame
      have hlength := congrArg List.length hsame
      rw [List.length_take, List.length_take] at hlength
      exact hcount hlength
    rw [if_pos hcount, if_neg hother]

/-- The loop decides whether what has not been read is the same. -/
theorem compareLoop_eq (fuel : Nat) (buf1 buf2 : FileBuffer) (f1H f2H : InputStream U8)
    (h1 : f1H.eof = false) (h2 : f2H.eof = false) (hfuel : f1H.rest.length / kBufSize < fuel) :
    compareLoop fuel buf1 buf2 f1H f2H = .ok (decide (f1H.rest = f2H.rest)) := by
  induction fuel generalizing buf1 buf2 f1H f2H with
  | zero => exact absurd hfuel (Nat.not_lt_zero _)
  | succ fuel ih =>
    have hsplit := InputStream.eq_iff_take_drop kBufSize f1H.rest f2H.rest
    rw [compareLoop_succ fuel buf1 buf2 h1 h2]
    by_cases hsame : f1H.rest.take kBufSize = f2H.rest.take kBufSize
    · have hmin := congrArg List.length hsame
      rw [List.length_take, List.length_take] at hmin
      rw [if_pos hsame]
      by_cases hfull : kBufSize ≤ f1H.rest.length
      · -- Both blocks are whole, so neither read has come to an end.
        have hrest := ih (InputStream.fill f1H.rest buf1) (InputStream.fill f2H.rest buf2)
          (f1H.next kBufSize) (f2H.next kBufSize) (InputStream.next_open hfull)
          (InputStream.next_open (by omega)) (InputStream.length_next_div (by decide) hfull hfuel)
        rw [if_pos hfull, hrest]
        apply congrArg Except.ok
        rw [decide_eq_decide, hsplit, and_iff_right hsame]
        exact Iff.rfl
      · -- The last blocks are all that was left of the files.
        rw [List.take_of_length_le (by omega), List.take_of_length_le (by omega)] at hsame
        rw [if_neg hfull, decide_eq_true hsame]
    · rw [if_neg hsame, decide_eq_false fun heq => hsame (hsplit.mp heq).1]

/-- Two files that can be read are the same exactly if `CompareFiles` says so, and it comes to an
    end after a round for each whole block and one more. -/
theorem compareFiles_eq {files : Files} {file1 file2 : String} {data1 data2 : List U8}
    (h1 : files file1 = some data1) (h2 : files file2 = some data2) (buf1 buf2 : FileBuffer)
    {fuel : Nat} (hfuel : data1.length / kBufSize < fuel) :
    compareFiles files file1 file2 buf1 buf2 fuel = .ok (decide (data1 = data2)) := by
  unfold compareFiles
  rw [h1, h2]
  exact compareLoop_eq fuel buf1 buf2 { rest := data1 } { rest := data2 } rfl rfl hfuel

/-- Two files of a whole block and nothing more, which takes two rounds to see. -/
theorem compareFiles_block : compareFiles
    (fun _ => some (List.replicate 1024 0)) "a" "b" (fun _ => 1) (fun _ => 2) 2 = .ok true := by
  have hdecide : decide (List.replicate 1024 (0 : U8) = List.replicate 1024 0) = true :=
    decide_eq_true rfl
  rw [← hdecide]
  exact compareFiles_eq rfl rfl (fun _ => 1) (fun _ => 2)
    (by rw [List.length_replicate]; decide)

end TlmBoy
