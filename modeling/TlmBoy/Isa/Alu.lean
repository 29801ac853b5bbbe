import TlmBoy.Cpu.Jumptable
import TlmBoy.Cpu.Run

/-
  The eight-bit arithmetic and logic operations.

  `AluOp.out` says in numbers what an operation does to A and F. `aluProgram` is the whole
  effect of an instruction that gets its operand from a given program.

  The source writes each operation out three times: with a register, with memory and with an
  immediate operand. It computes carries from wrapped results, and SBC reads its register operand
  a second time after A was written. `instr*_eq` says of each body that it is the operation, and
  `alu_forms` of all of them.
-/

namespace TlmBoy

/-! ## The operations -/

/-- The operations, in the order of the decoding table. -/
inductive AluOp where
  | add | adc | sub | sbc | and | xor | or | cp
deriving DecidableEq, Repr

/-- The result of an operation and its flags but Z, which is set for the result 0. -/
@[ext] structure AluOut where
  value : U8
  subtract : Bool
  half : Bool
  carry : Bool
deriving DecidableEq, Repr

namespace AluOut

/-- `a + v + c`. -/
def sum (a v : U8) (c : Nat) : AluOut where
  value := BitVec.ofNat 8 (a.toNat + v.toNat + c)
  subtract := false
  half := decide (15 < a.toNat % 16 + v.toNat % 16 + c)
  carry := decide (255 < a.toNat + v.toNat + c)

/-- `a - v - c`. -/
def difference (a v : U8) (c : Nat) : AluOut where
  value := BitVec.ofInt 8 ((a.toNat : Int) - v.toNat - c)
  subtract := true
  half := decide (a.toNat % 16 < v.toNat % 16 + c)
  carry := decide (a.toNat < v.toNat + c)

/-- A bitwise result. -/
def bitwise (value : U8) (half : Bool) : AluOut where
  value
  subtract := false
  half
  carry := false

end AluOut

/-- What an operation makes of A, the operand and the incoming carry. -/
def AluOp.out (op : AluOp) (a v : U8) (c : Bool) : AluOut :=
  match op with
  | .add => .sum a v 0
  | .adc => .sum a v c.toNat
  | .sub => .difference a v 0
  | .sbc => .difference a v c.toNat
  | .and => .bitwise (a &&& v) true
  | .xor => .bitwise (a ^^^ v) false
  | .or => .bitwise (a ||| v) false
  | .cp => .difference a v 0

/-- The registers after an operation: only A and F change, and CP leaves A. -/
def RegFile.alu (op : AluOp) (v : U8) (rf : RegFile) : RegFile :=
  let out := op.out (rf.get .a) v rf.flagC
  (if op = .cp then rf else rf.set .a out.value).withF
    (packFlags (out.value == 0) out.subtract out.half out.carry rf.f)

/-- What `RegFile.alu` changes: A, unless the operation is CP, and the four flags. -/
theorem RegFile.alu_effect (op : AluOp) (v : U8) (rf : RegFile) :
    let rf' := rf.alu op v
    let out := op.out rf.a v rf.flagC
    rf'.a = (if op = .cp then rf.a else out.value) ∧ rf'.flagZ = (out.value == 0) ∧
      rf'.flagN = out.subtract ∧ rf'.flagH = out.half ∧ rf'.flagC = out.carry ∧
      rf' = { rf with a := rf'.a, f := rf'.f } := by
  refine ⟨?_, ?_, ?_, ?_, ?_, ?_⟩
  · by_cases hcp : op = .cp
    · rw [alu, if_pos hcp, if_pos hcp]
      rfl
    · rw [alu, if_neg hcp, if_neg hcp]
      rfl
  · rw [flagZ_eq]
    exact isBitSet_packFlags_z _ _ _ _ _
  · rw [flagN_eq]
    exact isBitSet_packFlags_n _ _ _ _ _
  · rw [flagH_eq]
    exact isBitSet_packFlags_h _ _ _ _ _
  · rw [flagC_eq]
    exact isBitSet_packFlags_c _ _ _ _ _
  · by_cases hcp : op = .cp
    · rw [alu, if_pos hcp]
      rfl
    · rw [alu, if_neg hcp]
      rfl

/-! ## How the source computes them -/

namespace AluOut

theorem half_sum (a v : U8) (c : Nat) : (sum a v c).half = Cpu.halfCarry a v c := by
  rw [Cpu.halfCarry, toNat_and_0F, toNat_and_0F]
  rfl

theorem half_difference (a v : U8) (c : Nat) :
    (difference a v c).half = Cpu.halfBorrow a v c := by
  show decide _ = decide _
  rw [decide_eq_decide, toNat_and_0F, toNat_and_0F]
  omega

theorem sum_zero (a v : U8) : sum a v 0 =
    { value := a + v
      subtract := false
      half := Cpu.halfCarry a v 0
      carry := (a + v).ult v } := by
  have ha := a.isLt
  have hv := v.isLt
  ext1
  · apply BitVec.eq_of_toNat_eq
    rw [sum, BitVec.toNat_ofNat, BitVec.toNat_add, Nat.add_zero]
  · rfl
  · exact half_sum a v 0
  · show decide _ = decide _
    rw [decide_eq_decide, BitVec.toNat_add]
    omega

theorem toNat_carry (c : Bool) : (Cpu.byteIf c 1).toNat = c.toNat := by
  cases c <;> rfl

/-- The carry of ADC: the sum has wrapped, perhaps all the way round to A. -/
theorem sum_carry (a v : U8) (c : Bool) : sum a v c.toNat =
    { value := a + (v + Cpu.byteIf c 1)
      subtract := false
      half := Cpu.halfCarry a v (Cpu.byteIf c 1).toNat
      carry := (a + (v + Cpu.byteIf c 1)).ult a ||
        (a + (v + Cpu.byteIf c 1) == a && (Cpu.byteIf c 1) == 1) } := by
  have ha := a.isLt
  have hv := v.isLt
  have hw := toNat_carry c
  have hc : c.toNat ≤ 1 := Bool.toNat_le c
  have hone : (1 : U8).toNat = 1 := rfl
  rw [hw]
  ext1
  · apply BitVec.eq_of_toNat_eq
    simp only [sum, BitVec.toNat_ofNat, BitVec.toNat_add, hw]
    omega
  · rfl
  · exact half_sum a v c.toNat
  · apply Bool.eq_iff_iff.mpr
    simp only [sum, Bool.or_eq_true, Bool.and_eq_true, decide_eq_true_eq, beq_iff_eq,
      ← BitVec.toNat_inj, BitVec.ult, BitVec.toNat_add, hw, hone]
    omega

theorem difference_zero (a v : U8) : difference a v 0 =
    { value := a - v
      subtract := true
      half := Cpu.halfBorrow a v 0
      carry := a.ult (a - v) } := by
  have ha := a.isLt
  have hv := v.isLt
  ext1
  · apply BitVec.eq_of_toNat_eq
    simp only [difference, BitVec.toNat_ofInt, BitVec.toNat_sub]
    omega
  · rfl
  · exact half_difference a v 0
  · show decide _ = decide _
    rw [decide_eq_decide, BitVec.toNat_sub]
    omega

/-- The borrow of SBC: the difference has wrapped, perhaps all the way round to A. -/
theorem difference_carry (a v : U8) (c : Bool) : difference a v c.toNat =
    { value := a - (v + Cpu.byteIf c 1)
      subtract := true
      half := Cpu.halfBorrow a v (Cpu.byteIf c 1).toNat
      carry := a.ult (a - (v + Cpu.byteIf c 1)) ||
        (a - (v + Cpu.byteIf c 1) == a && (Cpu.byteIf c 1) == 1) } := by
  have ha := a.isLt
  have hv := v.isLt
  have hw := toNat_carry c
  have hc : c.toNat ≤ 1 := Bool.toNat_le c
  have hone : (1 : U8).toNat = 1 := rfl
  rw [hw]
  ext1
  · apply BitVec.eq_of_toNat_eq
    simp only [difference, BitVec.toNat_ofInt, BitVec.toNat_sub, BitVec.toNat_add, hw]
    omega
  · rfl
  · exact half_difference a v c.toNat
  · apply Bool.eq_iff_iff.mpr
    simp only [difference, Bool.or_eq_true, Bool.and_eq_true, decide_eq_true_eq, beq_iff_eq,
      ← BitVec.toNat_inj, BitVec.ult, BitVec.toNat_sub, BitVec.toNat_add, hw,
      hone]
    omega

/-- SBC A,A as the source computes its half carry: from A as it is after the subtraction. -/
theorem halfBorrow_aliased (a : U8) (c : Bool) :
    Cpu.halfBorrow a (a - (a + Cpu.byteIf c 1#8)) (Cpu.byteIf c 1#8).toNat =
      Cpu.halfBorrow a a (Cpu.byteIf c 1#8).toNat := by
  have ha := a.isLt
  have hw : (Cpu.byteIf c 1#8).toNat = c.toNat := toNat_carry c
  have hc : c.toNat ≤ 1 := Bool.toNat_le c
  unfold Cpu.halfBorrow
  rw [decide_eq_decide, toNat_and_0F, toNat_and_0F, BitVec.toNat_sub, BitVec.toNat_add, hw]
  omega

end AluOut

/-! ## Register operands -/

namespace Cpu

variable {σ : Type}

/-- An operation on what `operand` yields. -/
def aluProgram (op : AluOp) (operand : CpuM σ U8) (clkCycles : Nat) : CpuM σ Unit := do
  let v ← operand
  modifyRegs fun rf => rf.alu op v
  setWaitNs clkCycles

/-- The effect on a state: the operand is obtained, the registers become `RegFile.alu` of it, and
    nothing else changes but the time. -/
theorem aluProgram_apply (op : AluOp) (operand : CpuM σ U8) (clkCycles : Nat) (c : Cpu σ) :
    aluProgram op operand clkCycles c = operand c >>= fun r => .ok ((), { r.2 with
      regFile := r.2.regFile.alu op r.1, waitNs := clkCycles * GbConst.kNsPerClkCycle }) := by
  rw [aluProgram, StateExcept.bind_apply]
  cases operand c with
  | error e => rfl
  | ok r => rfl

theorem instrAddA_eq (r : Reg8) : (instrAddA r : CpuM σ Unit) = aluProgram .add (getReg r) 4 := by
  funext c
  simp [instrAddA, aluProgram, RegFile.alu, AluOp.out, AluOut.sum_zero]

theorem instrAddACarry_eq (r : Reg8) :
    (instrAddACarry r : CpuM σ Unit) = aluProgram .adc (getReg r) 4 := by
  funext c
  simp [instrAddACarry, aluProgram, RegFile.alu, AluOp.out, AluOut.sum_carry]

theorem instrSub_eq (r : Reg8) : (instrSub r : CpuM σ Unit) = aluProgram .sub (getReg r) 4 := by
  funext c
  simp [instrSub, aluProgram, RegFile.alu, AluOp.out, AluOut.difference_zero]

/-- The second read of the operand makes a difference only for SBC A,A, and none to the result. -/
theorem instrSubCarry_eq (r : Reg8) :
    (instrSubCarry r : CpuM σ Unit) = aluProgram .sbc (getReg r) 4 := by
  funext c
  by_cases hr : r = .a
  · subst hr
    -- The difference stays as it is here: `halfBorrow_aliased` is about this form of it.
    simp only [instrSubCarry, BitVec.ofNat_eq_ofNat, getFlagC_bind, getReg_bind, setReg_bind,
      withRegs_regFile, RegFile.get_set_self, setFlagC_bind, RegFile.set_f, setBit_c,
      withRegs_withRegs, RegFile.withF_get, AluOut.halfBorrow_aliased, setFlagH_bind,
      RegFile.withF_f, setBit_h, isBitSet_packFlags_z, isBitSet_packFlags_n, isBitSet_packFlags_c,
      packFlags_packFlags, RegFile.withF_withF, setFlagZ_bind, setBit_z, isBitSet_packFlags_h,
      setFlagN_bind, setBit_n, aluProgram, RegFile.alu, AluOp.out, AluOut.difference_carry,
      reduceCtorEq, if_false, modifyRegs_bind]
  · simp [instrSubCarry, aluProgram, RegFile.alu, AluOp.out, AluOut.difference_carry,
      RegFile.get_set_of_ne hr]

theorem instrComp_eq (r : Reg8) : (instrComp r : CpuM σ Unit) = aluProgram .cp (getReg r) 4 := by
  funext c
  simp [instrComp, aluProgram, RegFile.alu, AluOp.out, AluOut.difference_zero]

theorem instrAnd_eq (r : Reg8) : (instrAnd r : CpuM σ Unit) = aluProgram .and (getReg r) 4 := by
  funext c
  simp [instrAnd, aluProgram, RegFile.alu, AluOp.out, AluOut.bitwise]

theorem instrXor_eq (r : Reg8) : (instrXor r : CpuM σ Unit) = aluProgram .xor (getReg r) 4 := by
  funext c
  simp [instrXor, aluProgram, RegFile.alu, AluOp.out, AluOut.bitwise]

theorem instrOr_eq (r : Reg8) : (instrOr r : CpuM σ Unit) = aluProgram .or (getReg r) 4 := by
  funext c
  simp [instrOr, aluProgram, RegFile.alu, AluOp.out, AluOut.bitwise]

/-! ## Memory and immediate operands -/

variable [BusPort σ]

/-- The operand (reg16). -/
def readAt (addrReg : Reg16) : CpuM σ U8 := do
  readBus (← getReg16 addrReg) .gbReadData

@[simp] theorem readAt_bind (r : Reg16) {α : Type} (k : U8 → CpuM σ α) (c : Cpu σ) :
    (readAt r >>= k) c = c.initSocket.readBus (c.regFile.get16 r) .gbReadData >>= fun d =>
      k d.1 (c.withSocket d.2) := readBus_bind c _ _ k

theorem instrAddAAddr_eq (r : Reg16) :
    (instrAddAAddr r : CpuM σ Unit) = aluProgram .add (readAt r) 8 := by
  funext c
  simp [instrAddAAddr, aluProgram, RegFile.alu, AluOp.out, AluOut.sum_zero]

theorem instrAddAImm_eq :
    (instrAddAImm : CpuM σ Unit) = aluProgram .add fetchNextInstrByte 8 := by
  funext c
  simp [instrAddAImm, aluProgram, RegFile.alu, AluOp.out, AluOut.sum_zero]

theorem instrAddACarryAddr_eq (r : Reg16) :
    (instrAddACarryAddr r : CpuM σ Unit) = aluProgram .adc (readAt r) 8 := by
  funext c
  simp [instrAddACarryAddr, aluProgram, RegFile.alu, AluOp.out, AluOut.sum_carry]

theorem instrAddACarryImm_eq :
    (instrAddACarryImm : CpuM σ Unit) = aluProgram .adc fetchNextInstrByte 8 := by
  funext c
  simp [instrAddACarryImm, aluProgram, RegFile.alu, AluOp.out, AluOut.sum_carry]

theorem instrSubAddr_eq (r : Reg16) :
    (instrSubAddr r : CpuM σ Unit) = aluProgram .sub (readAt r) 8 := by
  funext c
  simp [instrSubAddr, aluProgram, RegFile.alu, AluOp.out, AluOut.difference_zero]

theorem instrSubImm_eq :
    (instrSubImm : CpuM σ Unit) = aluProgram .sub fetchNextInstrByte 8 := by
  funext c
  simp [instrSubImm, aluProgram, RegFile.alu, AluOp.out, AluOut.difference_zero]

theorem instrSubCarryAddr_eq (r : Reg16) :
    (instrSubCarryAddr r : CpuM σ Unit) = aluProgram .sbc (readAt r) 8 := by
  funext c
  simp [instrSubCarryAddr, aluProgram, RegFile.alu, AluOp.out, AluOut.difference_carry]

theorem instrSubCarryImm_eq :
    (instrSubCarryImm : CpuM σ Unit) = aluProgram .sbc fetchNextInstrByte 8 := by
  funext c
  simp [instrSubCarryImm, aluProgram, RegFile.alu, AluOp.out, AluOut.difference_carry]

theorem instrCompAddr_eq (r : Reg16) :
    (instrCompAddr r : CpuM σ Unit) = aluProgram .cp (readAt r) 8 := by
  funext c
  simp [instrCompAddr, aluProgram, RegFile.alu, AluOp.out, AluOut.difference_zero]

theorem instrCompImm_eq :
    (instrCompImm : CpuM σ Unit) = aluProgram .cp fetchNextInstrByte 8 := by
  funext c
  simp [instrCompImm, aluProgram, RegFile.alu, AluOp.out, AluOut.difference_zero]

theorem instrAndAddr_eq (r : Reg16) :
    (instrAndAddr r : CpuM σ Unit) = aluProgram .and (readAt r) 8 := by
  funext c
  simp [instrAndAddr, aluProgram, RegFile.alu, AluOp.out, AluOut.bitwise]

theorem instrAndImm_eq :
    (instrAndImm : CpuM σ Unit) = aluProgram .and fetchNextInstrByte 8 := by
  funext c
  simp [instrAndImm, aluProgram, RegFile.alu, AluOp.out, AluOut.bitwise]

theorem instrXorAddr_eq (r : Reg16) :
    (instrXorAddr r : CpuM σ Unit) = aluProgram .xor (readAt r) 8 := by
  funext c
  simp [instrXorAddr, aluProgram, RegFile.alu, AluOp.out, AluOut.bitwise]

theorem instrXorImm_eq :
    (instrXorImm : CpuM σ Unit) = aluProgram .xor fetchNextInstrByte 8 := by
  funext c
  simp [instrXorImm, aluProgram, RegFile.alu, AluOp.out, AluOut.bitwise]

theorem instrOrAddr_eq (r : Reg16) :
    (instrOrAddr r : CpuM σ Unit) = aluProgram .or (readAt r) 8 := by
  funext c
  simp [instrOrAddr, aluProgram, RegFile.alu, AluOp.out, AluOut.bitwise]

theorem instrOrImm_eq :
    (instrOrImm : CpuM σ Unit) = aluProgram .or fetchNextInstrByte 8 := by
  funext c
  simp [instrOrImm, aluProgram, RegFile.alu, AluOp.out, AluOut.bitwise]

end Cpu

/-! ## All forms -/

/-- The instruction of an operation with a register operand. -/
def AluOp.regInstr (op : AluOp) (r : Reg8) : Instr :=
  match op with
  | .add => .addA r
  | .adc => .addACarry r
  | .sub => .sub r
  | .sbc => .subCarry r
  | .and => .and r
  | .xor => .xor r
  | .or => .or r
  | .cp => .comp r

/-- The instruction of an operation with an operand in memory. -/
def AluOp.memInstr (op : AluOp) (addrReg : Reg16) : Instr :=
  match op with
  | .add => .addAAddr addrReg
  | .adc => .addACarryAddr addrReg
  | .sub => .subAddr addrReg
  | .sbc => .subCarryAddr addrReg
  | .and => .andAddr addrReg
  | .xor => .xorAddr addrReg
  | .or => .orAddr addrReg
  | .cp => .compAddr addrReg

/-- The instruction of an operation with an immediate operand. -/
def AluOp.immInstr (op : AluOp) : Instr :=
  match op with
  | .add => .addAImm
  | .adc => .addACarryImm
  | .sub => .subImm
  | .sbc => .subCarryImm
  | .and => .andImm
  | .xor => .xorImm
  | .or => .orImm
  | .cp => .compImm

namespace Cpu

variable {σ : Type} [BusPort σ] [Kernel σ]

theorem execute_regInstr (fuel : Nat) (op : AluOp) (r : Reg8) :
    (execute fuel (op.regInstr r) : CpuM σ Unit) = aluProgram op (getReg r) 4 := by
  cases op with
  | add => exact instrAddA_eq r
  | adc => exact instrAddACarry_eq r
  | sub => exact instrSub_eq r
  | sbc => exact instrSubCarry_eq r
  | and => exact instrAnd_eq r
  | xor => exact instrXor_eq r
  | or => exact instrOr_eq r
  | cp => exact instrComp_eq r

theorem execute_memInstr (fuel : Nat) (op : AluOp) (addrReg : Reg16) :
    (execute fuel (op.memInstr addrReg) : CpuM σ Unit) = aluProgram op (readAt addrReg) 8 := by
  cases op with
  | add => exact instrAddAAddr_eq addrReg
  | adc => exact instrAddACarryAddr_eq addrReg
  | sub => exact instrSubAddr_eq addrReg
  | sbc => exact instrSubCarryAddr_eq addrReg
  | and => exact instrAndAddr_eq addrReg
  | xor => exact instrXorAddr_eq addrReg
  | or => exact instrOrAddr_eq addrReg
  | cp => exact instrCompAddr_eq addrReg

theorem execute_immInstr (fuel : Nat) (op : AluOp) :
    (execute fuel op.immInstr : CpuM σ Unit) = aluProgram op fetchNextInstrByte 8 := by
  cases op with
  | add => exact instrAddAImm_eq
  | adc => exact instrAddACarryImm_eq
  | sub => exact instrSubImm_eq
  | sbc => exact instrSubCarryImm_eq
  | and => exact instrAndImm_eq
  | xor => exact instrXorImm_eq
  | or => exact instrOrImm_eq
  | cp => exact instrCompImm_eq

/-- Each operation is the same function of the operand in its three forms: A and F become what
    `AluOp.out` says, and only the way to the operand and the time differ. -/
theorem alu_forms (fuel : Nat) (op : AluOp) :
    (∀ (r : Reg8) (c : Cpu σ), execute fuel (op.regInstr r) c =
      .ok ((), { c with regFile := c.regFile.alu op (c.regFile.get r), waitNs := 4 * 238 })) ∧
    (∀ c : Cpu σ, execute fuel (op.memInstr .hl) c =
      readBus (c.regFile.h ++ c.regFile.l) .gbReadData c >>= fun r =>
        .ok ((), { r.2 with regFile := r.2.regFile.alu op r.1, waitNs := 8 * 238 })) ∧
    (∀ c : Cpu σ, execute fuel op.immInstr c = fetchNextInstrByte c >>= fun r =>
        .ok ((), { r.2 with regFile := r.2.regFile.alu op r.1, waitNs := 8 * 238 })) ∧
    (∀ (v : U8) (rf : RegFile),
      let rf' := rf.alu op v
      let out := op.out rf.a v rf.flagC
      rf'.a = (if op = .cp then rf.a else out.value) ∧ rf'.flagZ = (out.value == 0) ∧
        rf'.flagN = out.subtract ∧ rf'.flagH = out.half ∧ rf'.flagC = out.carry ∧
        rf' = { rf with a := rf'.a, f := rf'.f }) := by
  refine ⟨fun r c => ?_, fun c => ?_, fun c => ?_, fun v rf => rf.alu_effect op v⟩
  · rw [execute_regInstr, aluProgram_apply]
    rfl
  · rw [execute_memInstr, aluProgram_apply]
    rfl
  · rw [execute_immInstr, aluProgram_apply]
    rfl

end Cpu

end TlmBoy
