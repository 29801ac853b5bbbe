import TlmBoy.Isa.Decode

/-
  Sums of sixteen bits, and the programs of the two outer quadrants of the opcode table.

  ADD HL carries out of bits 11 and 15. ADD SP,i8 and LDHL SP,n add a signed byte, but their
  carries are those of the low bytes, whatever the sign: the source finds them by comparing the
  bits of the sum with those of the operands, and `displaced` says the same in numbers. A relative
  jump is the same addition without flags.

  Each program below is one row of the table. The immediate word, the word on the stack and the
  condition are programs of their own, so that a row reads as the manual of the processor does.
-/

namespace TlmBoy

/-! ## Sums -/

/-- The result of an addition to a word, and the two flags that it sets. -/
@[ext] structure WordOut where
  value : U16
  half : Bool
  carry : Bool
deriving DecidableEq, Repr

namespace WordOut

/-- `x + v`. -/
def sum (x v : U16) : WordOut where
  value := BitVec.ofNat 16 (x.toNat + v.toNat)
  half := decide (4095 < x.toNat % 4096 + v.toNat % 4096)
  carry := decide (65535 < x.toNat + v.toNat)

/-- `x` and a signed byte. -/
def displaced (x : U16) (e : U8) : WordOut where
  value := BitVec.ofInt 16 (x.toNat + e.toInt)
  half := decide (15 < x.toNat % 16 + e.toNat % 16)
  carry := decide (255 < x.toNat % 256 + e.toNat)

end WordOut

/-- The target of a jump by a signed byte from `pc`. -/
def jumpTarget (pc : U16) (e : U8) : U16 := BitVec.ofInt 16 (pc.toNat + e.toInt)

/-! ## How the source computes them -/

/-- The masks of ADD HL keep the low twelve bits. -/
theorem half_of_masks (x v : U16) :
    decide (4095 < (x.toNat &&& 4095) + (v.toNat &&& 4095)) = (WordOut.sum x v).half := by
  rw [Nat.and_two_pow_sub_one_eq_mod x.toNat 12, Nat.and_two_pow_sub_one_eq_mod v.toNat 12]
  rfl

/-- The sum has wrapped if it is smaller than a summand. -/
theorem carry_of_wrapped (x v : U16) : decide (x + v < x) = (WordOut.sum x v).carry := by
  have hx := x.isLt
  have hv := v.isLt
  show decide _ = decide _
  rw [decide_eq_decide, BitVec.lt_def, BitVec.toNat_add]
  omega

theorem sum_value (x v : U16) : (WordOut.sum x v).value = x + v := by
  apply BitVec.eq_of_toNat_eq
  rw [WordOut.sum, BitVec.toNat_ofNat, BitVec.toNat_add]

theorem beq_twoPow {w : Nat} (x : BitVec w) {i : Nat} (hi : i < w) :
    ((x &&& BitVec.twoPow w i) == BitVec.twoPow w i) = x.getLsbD i := by
  have hne : (0 : BitVec w) ≠ BitVec.twoPow w i := by
    intro h
    have hbit := congrArg (fun y : BitVec w => y.getLsbD i) h
    simp [hi] at hbit
  rw [BitVec.and_twoPow]
  cases x.getLsbD i with
  | true => simp
  | false => simpa using hne

/-- An extended byte, cut again. -/
theorem signExtend_setWidth (e : U8) {n : Nat} (hn : n ≤ 32) :
    (e.signExtend 32).setWidth n = e.signExtend n := by
  apply BitVec.eq_of_getLsbD_eq
  intro j hj
  have hj32 : j < 32 := by omega
  simp only [BitVec.getLsbD_setWidth, BitVec.getLsbD_signExtend, hj, hj32, decide_true,
    Bool.true_and]

/-- The low bits of an extended byte are those of the byte. -/
theorem signExtend_mod (e : U8) {i : Nat} (hi : i ≤ 8) :
    (e.signExtend 32).toNat % 2 ^ i = e.toNat % 2 ^ i := by
  have hlow : (e.signExtend 32).setWidth 8 = e := by
    rw [signExtend_setWidth e (by decide), BitVec.signExtend_eq]
  have hmod : (e.signExtend 32).toNat % 2 ^ 8 = e.toNat := by
    rw [← BitVec.toNat_setWidth, hlow]
  rw [← hmod, Nat.mod_mod_of_dvd _ (Nat.pow_dvd_pow 2 hi)]

/-- Where the sum's bit differs from the exclusive or of the operands' bits, a carry came in. -/
theorem carryInto_twoPow (x : U16) (e : U8) {i : Nat} (hi : i ≤ 8) :
    Cpu.carryInto (BitVec.twoPow 32 i) x e =
      decide (2 ^ i ≤ x.toNat % 2 ^ i + e.toNat % 2 ^ i) := by
  have hi32 : i < 32 := by omega
  have hmask : (0xFFFF : BitVec 32).getLsbD i = true := by
    interval_cases i <;> rfl
  unfold Cpu.carryInto
  rw [beq_twoPow _ hi32]
  simp only [BitVec.getLsbD_xor, BitVec.getLsbD_and, hmask, Bool.and_true,
    BitVec.getLsbD_add hi32]
  have hcancel : ∀ a b c : Bool, ((a ^^ b) ^^ (a ^^ (b ^^ c))) = c := by decide
  have hcarry : BitVec.carry i (x.setWidth 32) (e.signExtend 32) false =
      decide (2 ^ i ≤ x.toNat % 2 ^ i + e.toNat % 2 ^ i) := by
    rw [BitVec.carry, signExtend_mod e hi, BitVec.toNat_setWidth,
      Nat.mod_eq_of_lt (Nat.lt_trans x.isLt (by decide : 2 ^ 16 < 2 ^ 32))]
    simp
  rw [← hcarry, hcancel]

theorem carryInto_half (x : U16) (e : U8) :
    Cpu.carryInto 0x10#32 x e = (WordOut.displaced x e).half := by
  refine (carryInto_twoPow x e (i := 4) (by decide)).trans ?_
  show decide _ = decide _
  rw [decide_eq_decide]
  omega

theorem carryInto_carry (x : U16) (e : U8) :
    Cpu.carryInto 0x100#32 x e = (WordOut.displaced x e).carry := by
  have he := e.isLt
  refine (carryInto_twoPow x e (i := 8) (by decide)).trans ?_
  show decide _ = decide _
  rw [decide_eq_decide]
  omega

/-- A sum in 32 bits, cut to 16. -/
theorem displaced_value (x : U16) (e : U8) :
    ((x.setWidth 32 + e.signExtend 32 : BitVec 32).setWidth 16) =
      (WordOut.displaced x e).value := by
  have hx : (x.setWidth 32 : BitVec 32).setWidth 16 = x := by
    apply BitVec.eq_of_toNat_eq
    have hlt := x.isLt
    rw [BitVec.toNat_setWidth, BitVec.toNat_setWidth]
    omega
  have he : (e.signExtend 32).setWidth 16 = BitVec.ofInt 16 e.toInt :=
    signExtend_setWidth e (by decide)
  rw [BitVec.setWidth_add _ _ (by decide), hx, he]
  show _ = BitVec.ofInt 16 (x.toNat + e.toInt)
  rw [BitVec.ofInt_add, BitVec.ofInt_natCast, BitVec.ofNat_toNat, BitVec.setWidth_eq]

/-- A jump is relative to the address behind its operand. -/
theorem relTarget_eq (pc : U16) (e : U8) : Cpu.relTarget pc e = jumpTarget (pc + 1#16) e := by
  have hpc : ((pc.setWidth 32 + 1 : BitVec 32)).setWidth 16 = pc + 1 := by
    apply BitVec.eq_of_toNat_eq
    have hlt := pc.isLt
    rw [BitVec.toNat_setWidth, BitVec.toNat_add, BitVec.toNat_setWidth, BitVec.toNat_add]
    have hone : (1 : BitVec 32).toNat = 1 := rfl
    have hone' : (1 : U16).toNat = 1 := rfl
    omega
  have hsum : ((pc + 1).setWidth 32 + e.signExtend 32 : BitVec 32).setWidth 16 =
      jumpTarget (pc + 1) e := displaced_value (pc + 1) e
  refine Eq.trans ?_ hsum
  rw [Cpu.relTarget, BitVec.setWidth_add _ _ (by decide), hpc,
    BitVec.setWidth_add _ _ (by decide)]
  congr 1
  apply BitVec.eq_of_toNat_eq
  have hlt := (pc + 1).isLt
  rw [BitVec.toNat_setWidth, BitVec.toNat_setWidth]
  omega

end TlmBoy
