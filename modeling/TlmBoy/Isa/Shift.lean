import TlmBoy.Isa.Alu

/-
  The rotates, the shifts and the bit instructions of the page behind 0xCB.

  `ShiftOp.out` says which byte a shift leaves and which bit it shifts out. `shiftProgram` is the
  whole effect of a shift on an operand, and `bitProgram` and `putBitProgram` are that of BIT, RES
  and SET. The source writes each of them twice, for a register and for (HL), with the flags in
  different orders and sometimes before the write; `instr*_eq` says that the bodies are these
  programs.
-/

namespace TlmBoy

/-! ## Operands -/

/-- An operand: a register, or the byte that HL points to. -/
inductive Operand where
  | reg (r : Reg8)
  | atHl
deriving DecidableEq, Repr

namespace Operand

variable {σ : Type} [BusPort σ]

/-- The value of the operand: for (HL) one read of the bus. -/
def read (x : Operand) : CpuM σ U8 :=
  match x with
  | .reg r => Cpu.getReg r
  | .atHl => Cpu.readAt .hl

/-- A new value for the operand: for (HL) one write to the bus. -/
def write (x : Operand) (v : U8) : CpuM σ Unit :=
  match x with
  | .reg r => Cpu.setReg r v
  | .atHl => do Cpu.writeBus (← Cpu.getReg16 .hl) v

/-- The clock cycles of an instruction, by its operand. -/
def clkCycles (x : Operand) (reg atHl : Nat) : Nat :=
  match x with
  | .reg _ => reg
  | .atHl => atHl

end Operand

/-! ## Shifts -/

/-- The rotates and shifts, in the order of the decoding table. -/
inductive ShiftOp where
  | rlc | rrc | rl | rr | sla | sra | swap | srl
deriving DecidableEq, Repr

/-- The shifted byte and the bit that is shifted out. `c` is the incoming carry. -/
def ShiftOp.out (op : ShiftOp) (v : U8) (c : Bool) : U8 × Bool :=
  match op with
  | .rlc => (v.rotateLeft 1, v.getLsbD 7)
  | .rrc => (v.rotateRight 1, v.getLsbD 0)
  | .rl => ((v.setWidth 7).concat c, v.getLsbD 7)
  | .rr => (BitVec.cons c (v.extractLsb' 1 7), v.getLsbD 0)
  | .sla => (v <<< 1, v.getLsbD 7)
  | .sra => (v.sshiftRight 1, v.getLsbD 0)
  | .swap => (v.extractLsb' 0 4 ++ v.extractLsb' 4 4, false)
  | .srl => (v >>> 1, v.getLsbD 0)

/-! ## How the source computes them -/

theorem rlc_out : ∀ v c, ShiftOp.out .rlc v c =
    (v <<< 1 ||| v >>> 7, ((v <<< 1 ||| v >>> 7) &&& 0x01) != 0) := by decide

theorem rrc_out : ∀ v c, ShiftOp.out .rrc v c =
    (v >>> 1 ||| v <<< 7, ((v >>> 1 ||| v <<< 7) &&& 0x80) != 0) := by decide

theorem rl_out : ∀ v c, ShiftOp.out .rl v c =
    (v <<< 1 ||| Cpu.byteIf c 1, (v &&& 0b10000000) != 0) := by decide

theorem rr_out : ∀ v c, ShiftOp.out .rr v c =
    (v >>> 1 ||| Cpu.byteIf c 0b10000000, (v &&& 1) != 0) := by decide

theorem sla_out : ∀ v c, ShiftOp.out .sla v c =
    (v <<< 1, (v &&& GbConst.kMaskBit7) != 0) := by decide

theorem sra_out : ∀ v c, ShiftOp.out .sra v c =
    (v >>> 1 ||| (v &&& GbConst.kMaskBit7), (v &&& 1) != 0) := by decide

theorem swap_out : ∀ v c, ShiftOp.out .swap v c = (v <<< 4 ||| v >>> 4, false) := by decide

theorem srl_out : ∀ v c, ShiftOp.out .srl v c =
    (v >>> 1, (v &&& GbConst.kMaskBit0) != 0) := by decide

/-! ## Programs -/

namespace Cpu

variable {σ : Type} [BusPort σ]

/-- A shift of an operand. -/
def shiftProgram (op : ShiftOp) (x : Operand) : CpuM σ Unit := do
  let v ← x.read
  let out := op.out v (← getFlagC)
  x.write out.1
  modifyRegs fun rf => rf.withF (packFlags (out.1 == 0) false false out.2 rf.f)
  setWaitNs (x.clkCycles 8 16)

/-- A test of bit `i` of an operand. -/
def bitProgram (i : Nat) (x : Operand) : CpuM σ Unit := do
  let v ← x.read
  modifyRegs fun rf => rf.withF (packFlags (!v.getLsbD i) false true rf.flagC rf.f)
  setWaitNs (x.clkCycles 8 12)

/-- A write of bit `i` of an operand. -/
def putBitProgram (i : Nat) (b : Bool) (x : Operand) : CpuM σ Unit := do
  x.write (setBit (← x.read) b i)
  setWaitNs (x.clkCycles 8 16)

theorem instrRlc_eq (r : Reg8) : (instrRlc r : CpuM σ Unit) = shiftProgram .rlc (.reg r) := by
  funext c
  simp [instrRlc, shiftProgram, Operand.read, Operand.write, Operand.clkCycles, rlc_out]

theorem instrRlcAddr_eq : (instrRlcAddr .hl : CpuM σ Unit) = shiftProgram .rlc .atHl := by
  funext c
  simp [instrRlcAddr, shiftProgram, Operand.read, Operand.write, Operand.clkCycles, rlc_out]

theorem instrRrc_eq (r : Reg8) : (instrRrc r : CpuM σ Unit) = shiftProgram .rrc (.reg r) := by
  funext c
  simp [instrRrc, shiftProgram, Operand.read, Operand.write, Operand.clkCycles, rrc_out]

theorem instrRrcAddr_eq : (instrRrcAddr .hl : CpuM σ Unit) = shiftProgram .rrc .atHl := by
  funext c
  simp [instrRrcAddr, shiftProgram, Operand.read, Operand.write, Operand.clkCycles, rrc_out]

theorem instrRotLeft_eq (r : Reg8) :
    (instrRotLeft r : CpuM σ Unit) = shiftProgram .rl (.reg r) := by
  funext c
  simp [instrRotLeft, shiftProgram, Operand.read, Operand.write, Operand.clkCycles, rl_out]

theorem instrRotLeftAddr_eq : (instrRotLeftAddr .hl : CpuM σ Unit) = shiftProgram .rl .atHl := by
  funext c
  simp [instrRotLeftAddr, shiftProgram, Operand.read, Operand.write, Operand.clkCycles, rl_out]

theorem instrRotRight_eq (r : Reg8) :
    (instrRotRight r : CpuM σ Unit) = shiftProgram .rr (.reg r) := by
  funext c
  simp [instrRotRight, shiftProgram, Operand.read, Operand.write, Operand.clkCycles, rr_out]

theorem instrRotRightAddr_eq : (instrRotRightAddr .hl : CpuM σ Unit) = shiftProgram .rr .atHl := by
  funext c
  simp [instrRotRightAddr, shiftProgram, Operand.read, Operand.write, Operand.clkCycles, rr_out]

theorem instrSLA_eq (r : Reg8) : (instrSLA r : CpuM σ Unit) = shiftProgram .sla (.reg r) := by
  funext c
  simp [instrSLA, shiftProgram, Operand.read, Operand.write, Operand.clkCycles, sla_out]

theorem instrSLAAddr_eq : (instrSLAAddr .hl : CpuM σ Unit) = shiftProgram .sla .atHl := by
  funext c
  simp [instrSLAAddr, shiftProgram, Operand.read, Operand.write, Operand.clkCycles, sla_out]

theorem instrSRA_eq (r : Reg8) : (instrSRA r : CpuM σ Unit) = shiftProgram .sra (.reg r) := by
  funext c
  simp [instrSRA, shiftProgram, Operand.read, Operand.write, Operand.clkCycles, sra_out]

theorem instrSRAAddr_eq : (instrSRAAddr .hl : CpuM σ Unit) = shiftProgram .sra .atHl := by
  funext c
  simp [instrSRAAddr, shiftProgram, Operand.read, Operand.write, Operand.clkCycles, sra_out]

theorem instrSwap_eq (r : Reg8) : (instrSwap r : CpuM σ Unit) = shiftProgram .swap (.reg r) := by
  funext c
  simp [instrSwap, shiftProgram, Operand.read, Operand.write, Operand.clkCycles, swap_out]

theorem instrSwapAddr_eq : (instrSwapAddr .hl : CpuM σ Unit) = shiftProgram .swap .atHl := by
  funext c
  simp [instrSwapAddr, shiftProgram, Operand.read, Operand.write, Operand.clkCycles, swap_out]

theorem instrShiftRight_eq (r : Reg8) :
    (instrShiftRight r : CpuM σ Unit) = shiftProgram .srl (.reg r) := by
  funext c
  simp [instrShiftRight, shiftProgram, Operand.read, Operand.write, Operand.clkCycles, srl_out]

theorem instrShiftRightAddr_eq :
    (instrShiftRightAddr .hl : CpuM σ Unit) = shiftProgram .srl .atHl := by
  funext c
  simp [instrShiftRightAddr, shiftProgram, Operand.read, Operand.write, Operand.clkCycles, srl_out]

/-! ## All shifts -/

end Cpu

/-- The instruction of a shift with a register operand. -/
def ShiftOp.regInstr (op : ShiftOp) (r : Reg8) : Instr :=
  match op with
  | .rlc => .rlc r
  | .rrc => .rrc r
  | .rl => .rotLeft r
  | .rr => .rotRight r
  | .sla => .sla r
  | .sra => .sra r
  | .swap => .swap r
  | .srl => .shiftRight r

/-- The instruction of a shift with an operand in memory. -/
def ShiftOp.memInstr (op : ShiftOp) (addrReg : Reg16) : Instr :=
  match op with
  | .rlc => .rlcAddr addrReg
  | .rrc => .rrcAddr addrReg
  | .rl => .rotLeftAddr addrReg
  | .rr => .rotRightAddr addrReg
  | .sla => .slaAddr addrReg
  | .sra => .sraAddr addrReg
  | .swap => .swapAddr addrReg
  | .srl => .shiftRightAddr addrReg

namespace Cpu

variable {σ : Type} [BusPort σ]

theorem execute_shiftReg [Kernel σ] (fuel : Nat) (op : ShiftOp) (r : Reg8) :
    (execute fuel (op.regInstr r) : CpuM σ Unit) = shiftProgram op (.reg r) := by
  cases op with
  | rlc => exact instrRlc_eq r
  | rrc => exact instrRrc_eq r
  | rl => exact instrRotLeft_eq r
  | rr => exact instrRotRight_eq r
  | sla => exact instrSLA_eq r
  | sra => exact instrSRA_eq r
  | swap => exact instrSwap_eq r
  | srl => exact instrShiftRight_eq r

theorem execute_shiftMem [Kernel σ] (fuel : Nat) (op : ShiftOp) :
    (execute fuel (op.memInstr .hl) : CpuM σ Unit) = shiftProgram op .atHl := by
  cases op with
  | rlc => exact instrRlcAddr_eq
  | rrc => exact instrRrcAddr_eq
  | rl => exact instrRotLeftAddr_eq
  | rr => exact instrRotRightAddr_eq
  | sla => exact instrSLAAddr_eq
  | sra => exact instrSRAAddr_eq
  | swap => exact instrSwapAddr_eq
  | srl => exact instrShiftRightAddr_eq

/-! ## Bits -/

theorem isBitSet_eq (v : U8) (i : Fin 8) : isBitSet v i = v.getLsbD i :=
  isBitSet_eq_getLsbD v i i.isLt

theorem setBit_false (v : U8) (i : Nat) : setBit v false i = v &&& ~~~((1 : U8) <<< i) := by
  simp [setBit]

theorem instrBitN_eq (i : Fin 8) (r : Reg8) :
    (instrBitN i r : CpuM σ Unit) = bitProgram i (.reg r) := by
  funext c
  simp [instrBitN, bitProgram, Operand.read, Operand.clkCycles, isBitSet_eq, RegFile.flagC_eq]

theorem instrBitNAddr_eq (i : Fin 8) :
    (instrBitNAddr i .hl : CpuM σ Unit) = bitProgram i .atHl := by
  funext c
  simp [instrBitNAddr, bitProgram, Operand.read, Operand.clkCycles, isBitSet_eq, RegFile.flagC_eq]

theorem instrResetBit_eq (i : Nat) (r : Reg8) :
    (instrResetBit i r : CpuM σ Unit) = putBitProgram i false (.reg r) := by
  funext c
  simp [instrResetBit, putBitProgram, Operand.read, Operand.write, Operand.clkCycles, setBit_false]

theorem instrResetBitAddr_eq (i : Nat) :
    (instrResetBitAddr i .hl : CpuM σ Unit) = putBitProgram i false .atHl := by
  funext c
  simp [instrResetBitAddr, putBitProgram, Operand.read, Operand.write, Operand.clkCycles,
    setBit_false]

theorem instrSetBitN_eq (i : Nat) (r : Reg8) :
    (instrSetBitN i r : CpuM σ Unit) = putBitProgram i true (.reg r) := by
  funext c
  simp [instrSetBitN, putBitProgram, Operand.read, Operand.write, Operand.clkCycles]

theorem instrSetBitNAddr_eq (i : Nat) :
    (instrSetBitNAddr i .hl : CpuM σ Unit) = putBitProgram i true .atHl := by
  funext c
  simp [instrSetBitNAddr, putBitProgram, Operand.read, Operand.write, Operand.clkCycles]

end Cpu

end TlmBoy
