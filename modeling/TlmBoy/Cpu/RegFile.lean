import TlmBoy.Common

/-
  The register file of `reg_file.h`.

  The source lays the registers out in twelve shared bytes, the low byte of a pair first. Here
  the eight byte registers are fields, the pairs are read and written through them, and `SP` and
  `PC`, whose halves the program only reads, are words.

  Each kind of operand has its own type: no instruction takes `F` as a byte register, `AF` and
  `PC` as a pair outside PUSH and POP, or `SP` in them.
-/

namespace TlmBoy

/-- The `Reg<u8>&` arguments of the instructions. -/
inductive Reg8 where
  | a | b | c | d | e | h | l
deriving DecidableEq, Repr

/-- The `Reg<u16>&` arguments of the instructions other than PUSH and POP. -/
inductive Reg16 where
  | bc | de | hl | sp
deriving DecidableEq, Repr

/-- The `Reg<u16>&` arguments of PUSH and POP. `HandleInterrupts` pushes `PC`. -/
inductive StackReg where
  | bc | de | hl | af | pc
deriving DecidableEq, Repr

@[ext] structure RegFile where
  a : U8 := 0
  f : U8 := 0
  b : U8 := 0
  c : U8 := 0
  d : U8 := 0
  e : U8 := 0
  h : U8 := 0
  l : U8 := 0
  sp : U16 := 0
  pc : U16 := 0
deriving DecidableEq, Repr

/-- The high byte of a word. -/
def msb (v : U16) : U8 := (v >>> 8).setWidth 8

/-- The low byte of a word. -/
def lsb (v : U16) : U8 := v.setWidth 8

theorem toNat_append_bytes (hi lo : U8) : (hi ++ lo : U16).toNat = hi.toNat * 256 + lo.toNat := by
  rw [BitVec.toNat_append, ← Nat.shiftLeft_add_eq_or_of_lt lo.isLt, Nat.shiftLeft_eq]

theorem toNat_msb (v : U16) : (msb v).toNat = v.toNat / 256 := by
  have hv := v.isLt
  rw [msb, BitVec.toNat_setWidth, BitVec.toNat_ushiftRight, Nat.shiftRight_eq_div_pow]
  omega

theorem toNat_lsb (v : U16) : (lsb v).toNat = v.toNat % 256 := BitVec.toNat_setWidth 8 v

theorem msb_append (hi lo : U8) : msb (hi ++ lo : U16) = hi := by
  have hlo := lo.isLt
  apply BitVec.eq_of_toNat_eq
  rw [toNat_msb, toNat_append_bytes]
  omega

theorem lsb_append (hi lo : U8) : lsb (hi ++ lo : U16) = lo := by
  have hlo := lo.isLt
  apply BitVec.eq_of_toNat_eq
  rw [toNat_lsb, toNat_append_bytes]
  omega

theorem msb_append_lsb (v : U16) : (msb v ++ lsb v : U16) = v := by
  apply BitVec.eq_of_toNat_eq
  rw [toNat_append_bytes, toNat_msb, toNat_lsb]
  omega

namespace RegFile

def get (r : Reg8) (rf : RegFile) : U8 :=
  match r with
  | .a => rf.a
  | .b => rf.b
  | .c => rf.c
  | .d => rf.d
  | .e => rf.e
  | .h => rf.h
  | .l => rf.l

def set (r : Reg8) (v : U8) (rf : RegFile) : RegFile :=
  match r with
  | .a => { rf with a := v }
  | .b => { rf with b := v }
  | .c => { rf with c := v }
  | .d => { rf with d := v }
  | .e => { rf with e := v }
  | .h => { rf with h := v }
  | .l => { rf with l := v }

def get16 (r : Reg16) (rf : RegFile) : U16 :=
  match r with
  | .bc => rf.b ++ rf.c
  | .de => rf.d ++ rf.e
  | .hl => rf.h ++ rf.l
  | .sp => rf.sp

def set16 (r : Reg16) (v : U16) (rf : RegFile) : RegFile :=
  match r with
  | .bc => { rf with b := msb v, c := lsb v }
  | .de => { rf with d := msb v, e := lsb v }
  | .hl => { rf with h := msb v, l := lsb v }
  | .sp => { rf with sp := v }

def getStack (r : StackReg) (rf : RegFile) : U16 :=
  match r with
  | .bc => rf.b ++ rf.c
  | .de => rf.d ++ rf.e
  | .hl => rf.h ++ rf.l
  | .af => rf.a ++ rf.f
  | .pc => rf.pc

def setStack (r : StackReg) (v : U16) (rf : RegFile) : RegFile :=
  match r with
  | .bc => { rf with b := msb v, c := lsb v }
  | .de => { rf with d := msb v, e := lsb v }
  | .hl => { rf with h := msb v, l := lsb v }
  | .af => { rf with a := msb v, f := lsb v }
  | .pc => { rf with pc := v }

@[simp] theorem get_set_self (r : Reg8) (v : U8) (rf : RegFile) : (rf.set r v).get r = v := by
  cases r <;> rfl

theorem get_set_of_ne {r r' : Reg8} (h : r' ≠ r) (v : U8) (rf : RegFile) :
    (rf.set r v).get r' = rf.get r' := by
  cases r <;> cases r' <;> first | rfl | exact absurd rfl h

@[simp] theorem set_set (r : Reg8) (v w : U8) (rf : RegFile) :
    (rf.set r v).set r w = rf.set r w := by
  cases r <;> rfl

@[simp] theorem set_f (r : Reg8) (v : U8) (rf : RegFile) : (rf.set r v).f = rf.f := by
  cases r <;> rfl

@[simp] theorem set_pc (r : Reg8) (v : U8) (rf : RegFile) : (rf.set r v).pc = rf.pc := by
  cases r <;> rfl

@[simp] theorem set16_f (r : Reg16) (v : U16) (rf : RegFile) : (rf.set16 r v).f = rf.f := by
  cases r <;> rfl

/-- The flags are no operand: writing them changes no byte register. -/
@[simp] theorem get_with_f (r : Reg8) (v : U8) (rf : RegFile) :
    RegFile.get r { rf with f := v } = rf.get r := by
  cases r <;> rfl

@[simp] theorem get16_with_f (r : Reg16) (v : U8) (rf : RegFile) :
    RegFile.get16 r { rf with f := v } = rf.get16 r := by
  cases r <;> rfl

theorem set_with_f (r : Reg8) (v w : U8) (rf : RegFile) :
    RegFile.set r v { rf with f := w } = { rf.set r v with f := w } := by
  cases r <;> rfl

end RegFile

end TlmBoy
