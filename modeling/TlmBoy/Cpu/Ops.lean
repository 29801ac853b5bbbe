import TlmBoy.Cpu.State

/-
  The instructions of `cpu_ops.cpp`, statement by statement and in the order of that file.

  The source overloads a name by the kind of operand. Here the register form keeps the name, the
  form that takes a pair as an address gets the suffix `Addr`, and the form with an immediate
  operand keeps its `Imm`. Where the source computes in `int`, comparisons are on `Nat` or `Int`
  and the masks of the 16-bit additions on 32-bit words.
-/

namespace TlmBoy

namespace Cpu

variable {σ : Type}

/-! ## HALT -/

/-- `wait(t, SC_NS)`. -/
def kernelWait [Kernel σ] (t : Nat) : CpuM σ Unit := fun c =>
  (Kernel.wait t c.initSocket.sys).map fun sys =>
    ((), { c with initSocket := { c.initSocket with sys } })

/-- `*reg_intr_enable_dmi & *reg_intr_pending_dmi`. -/
def pendingInterrupts [BusPort σ] : CpuM σ U8 := do
  let sys := (← get).initSocket.sys
  return BusPort.intrEnable sys &&& BusPort.intrPending sys

/-- Halts the Game Boy until an interrupt is triggered, for at most `fuel` rounds of the
    busy-waiting loop. -/
def instrHalt [BusPort σ] [Kernel σ] : Nat → CpuM σ Unit
  | 0 => throw .outOfFuel
  | fuel + 1 => do
    kernelWait (4 * GbConst.kNsPerClkCycle)
    if (← pendingInterrupts) = 0 then
      instrHalt fuel

def instrNop : CpuM σ Unit := setWaitNs 4

/-! ## Loads and stores -/

variable [BusPort σ]

/-- LD reg,(u16) -/
def instrLoadFrom (reg : Reg8) (addrVal : U16) : CpuM σ Unit := do
  setReg reg (← readBus addrVal .gbReadData)
  setWaitNs 16

/-- LD reg8,(reg16) -/
def instrLoad (reg : Reg8) (addrReg : Reg16) : CpuM σ Unit := do
  setReg reg (← readBus (← getReg16 addrReg) .gbReadData)
  setWaitNs 8

/-- LD reg16,u16 -/
def instrLoadImm16 (reg : Reg16) : CpuM σ Unit := do
  setReg16 reg (← fetchNext2InstrBytes)
  setWaitNs 12

/-- LD reg8,u8 -/
def instrLoadImm (reg : Reg8) : CpuM σ Unit := do
  setReg reg (← fetchNextInstrByte)
  setWaitNs 8

/-- LD reg8,(reg16+) -/
def instrLoadInc (reg : Reg8) (addrReg : Reg16) : CpuM σ Unit := do
  setReg reg (← readBus (← getReg16 addrReg) .gbReadData)
  setReg16 addrReg ((← getReg16 addrReg) + 1)
  setWaitNs 8

/-- LD reg8,(reg16-) -/
def instrLoadDec (addrReg : Reg16) (reg : Reg8) : CpuM σ Unit := do
  setReg reg (← readBus (← getReg16 addrReg) .gbReadData)
  setReg16 addrReg ((← getReg16 addrReg) - 1)
  setWaitNs 8

/-- LD (reg16+),reg8 -/
def instrStoreInc (addrReg : Reg16) (val : U8) : CpuM σ Unit := do
  writeBus (← getReg16 addrReg) val
  setReg16 addrReg ((← getReg16 addrReg) + 1)
  setWaitNs 8

/-- LD (reg16-),reg8 -/
def instrStoreDec (addrReg : Reg16) (val : U8) : CpuM σ Unit := do
  writeBus (← getReg16 addrReg) val
  setReg16 addrReg ((← getReg16 addrReg) - 1)
  setWaitNs 8

/-- LD (reg16),reg8 -/
def instrStore (addrReg : Reg16) (reg : Reg8) : CpuM σ Unit := do
  writeBus (← getReg16 addrReg) (← getReg reg)
  setWaitNs 8

/-- LD (0xFF00+u8),reg8 -/
def instrStoreHigh (addrReg : U8) (reg : Reg8) : CpuM σ Unit := do
  writeBus (addrReg.setWidth 16 + 0xFF00) (← getReg reg)
  setWaitNs 8

/-- LD (u16),reg8 -/
def instrStoreTo (reg : Reg8) : CpuM σ Unit := do
  writeBus (← fetchNext2InstrBytes) (← getReg reg)
  setWaitNs 16

/-- LD (reg16),u8 -/
def instrStoreImm (addr : Reg16) : CpuM σ Unit := do
  let imm ← fetchNextInstrByte
  writeBus (← getReg16 addr) imm
  setWaitNs 12

/-- LDH (u8+0xFF00),reg8 -/
def instrStoreH (reg : Reg8) : CpuM σ Unit := do
  writeBus ((← fetchNextInstrByte).setWidth 16 + 0xFF00) (← getReg reg)
  setWaitNs 12

/-- LDH reg8,(u8+0xFF00) -/
def instrLoadH (reg : Reg8) : CpuM σ Unit := do
  let addr : U16 := (← fetchNextInstrByte).setWidth 16 + 0xFF00
  setReg reg (← readBus addr .gbReadData)
  cAssert (0xFF00 ≤ addr) "addr >= 0xFF00"
  setWaitNs 12

/-- The carry out of bit 7 (`0x100`) or bit 3 (`0x10`) of `reg + imm`, as InstrLoadHlSpRel and
    InstrAddSp compute it. -/
def carryInto (mask : BitVec 32) (reg : U16) (imm : U8) : Bool :=
  let result := reg.setWidth 32 + imm.signExtend 32
  ((reg.setWidth 32 ^^^ imm.signExtend 32 ^^^ (result &&& 0xFFFF)) &&& mask) == mask

/-- LDHL SP,n -/
def instrLoadHlSpRel : CpuM σ Unit := do
  let imm ← fetchNextInstrByte
  let reg ← getReg16 .sp
  setReg16 .hl ((reg.setWidth 32 + imm.signExtend 32 : BitVec 32).setWidth 16)
  setFlagC (carryInto 0x100 reg imm)
  setFlagH (carryInto 0x10 reg imm)
  setFlagN false
  setFlagZ false
  setWaitNs 12

/-- LD SP,HL -/
def instrLoadSpHl : CpuM σ Unit := do
  setReg16 .sp (← getReg16 .hl)
  setWaitNs 8

/-! ## Increments and decrements -/

/-- INC reg8 -/
def instrInc (reg : Reg8) : CpuM σ Unit := do
  setReg reg ((← getReg reg) + 1)
  setFlagZ ((← getReg reg) == 0)
  setFlagN false
  setFlagH (((← getReg reg) &&& 0x0F) == 0)
  setWaitNs 4

/-- INC reg16 -/
def instrInc16 (reg : Reg16) : CpuM σ Unit := do
  setReg16 reg ((← getReg16 reg) + 1)
  setWaitNs 8

/-- INC (reg16) -/
def instrIncAddr (addr : Reg16) : CpuM σ Unit := do
  let val ← readBus (← getReg16 addr) .gbReadData
  let val := val + 1
  writeBus (← getReg16 addr) val
  setFlagZ (val == 0)
  setFlagN false
  setFlagH ((val &&& 0x0F) == 0)
  setWaitNs 12

/-- DEC (reg16) -/
def instrDecAddr (addr : Reg16) : CpuM σ Unit := do
  let val ← readBus (← getReg16 addr) .gbReadData
  let val := val - 1
  writeBus (← getReg16 addr) val
  setFlagH ((val &&& 0x0F) == 0x0F)
  setFlagN true
  setFlagZ (val == 0)
  setWaitNs 12

/-! ## Rotates -/

/-- `cond ? val : 0`. -/
def byteIf (cond : Bool) (val : U8) : U8 := if cond then val else 0

/-- Rotate A left. Old bit 7 to carry. -/
def instrRlca : CpuM σ Unit := do
  let a ← getReg .a
  setReg .a (a <<< 1 ||| a >>> 7)
  setFlagH false
  setFlagZ false
  setFlagN false
  setFlagC (((← getReg .a) &&& 0x01) != 0)
  setWaitNs 4

/-- Rotate A right. Old bit 0 to carry. -/
def instrRrca : CpuM σ Unit := do
  let carryFlag := (← getReg .a) &&& GbConst.kMaskBit0
  setReg .a ((← getReg .a) >>> 1 ||| carryFlag <<< 7)
  setFlagC (carryFlag != 0)
  setFlagH false
  setFlagN false
  setFlagZ false
  setWaitNs 4

/-- Rotate A right through the carry. Old bit 0 to carry. -/
def instrRra : CpuM σ Unit := do
  let carryFlag := (← getReg .a) &&& GbConst.kMaskBit0
  let oldCarryFlag  := byteIf (← getFlagC) 1
  setReg .a ((← getReg .a) >>> 1 ||| oldCarryFlag <<< 7)
  setFlagC (carryFlag != 0)
  setFlagH false
  setFlagN false
  setFlagZ false
  setWaitNs 4

/-- Rotate reg8 left. Old bit 7 to carry. -/
def instrRlc (reg : Reg8) : CpuM σ Unit := do
  let val ← getReg reg
  setReg reg (val <<< 1 ||| val >>> 7)
  setFlagH false
  setFlagZ ((← getReg reg) == 0)
  setFlagN false
  setFlagC (((← getReg reg) &&& 0x01) != 0)
  setWaitNs 8

/-- Rotate (reg16) left. Old bit 7 to carry. -/
def instrRlcAddr (addrReg : Reg16) : CpuM σ Unit := do
  let dat ← readBus (← getReg16 addrReg) .gbReadData
  let dat := dat <<< 1 ||| dat >>> 7
  writeBus (← getReg16 addrReg) dat
  setFlagH false
  setFlagZ (dat == 0)
  setFlagN false
  setFlagC ((dat &&& 0x01) != 0)
  setWaitNs 16

/-- Rotate reg8 right. Old bit 0 to carry. -/
def instrRrc (reg : Reg8) : CpuM σ Unit := do
  let val ← getReg reg
  setReg reg (val >>> 1 ||| val <<< 7)
  setFlagH false
  setFlagZ ((← getReg reg) == 0)
  setFlagN false
  setFlagC (((← getReg reg) &&& 0x80) != 0)
  setWaitNs 8

/-- Rotate (reg16) right. Old bit 0 to carry. -/
def instrRrcAddr (addrReg : Reg16) : CpuM σ Unit := do
  let dat ← readBus (← getReg16 addrReg) .gbReadData
  let dat := dat >>> 1 ||| dat <<< 7
  writeBus (← getReg16 addrReg) dat
  setFlagH false
  setFlagZ (dat == 0)
  setFlagN false
  setFlagC ((dat &&& 0x80) != 0)
  setWaitNs 16

/-- LD (u16),SP -/
def instrStoreSp : CpuM σ Unit := do
  let addr ← fetchNext2InstrBytes
  writeBus addr (lsb (← getReg16 .sp))
  writeBus (addr + 1) (msb (← getReg16 .sp))
  setWaitNs 20

/-! ## Additions -/

/-- The half carry of `preVal + val + carryAdd`, computed in `int`. -/
def halfCarry (preVal val : U8) (carryAdd : Nat) : Bool :=
  decide ((preVal &&& 0x0f).toNat + (val &&& 0x0f).toNat + carryAdd > 0x0f)

/-- ADD HL,reg16 -/
def instrAddHl (reg : Reg16) : CpuM σ Unit := do
  setFlagH (decide (((← getReg16 .hl) &&& 0x0fff).toNat + ((← getReg16 reg) &&& 0x0fff).toNat
    > 0x0fff))
  let oldVal ← getReg16 .hl
  setReg16 .hl ((← getReg16 .hl) + (← getReg16 reg))
  setFlagN false
  setFlagC (decide ((← getReg16 .hl) < oldVal))
  setWaitNs 8

/-- ADD SP,i8 -/
def instrAddSp : CpuM σ Unit := do
  let data ← fetchNextInstrByte
  let reg ← getReg16 .sp
  setReg16 .sp ((reg.setWidth 32 + data.signExtend 32 : BitVec 32).setWidth 16)
  setFlagH (carryInto 0x10 reg data)
  setFlagN false
  setFlagC (carryInto 0x100 reg data)
  setFlagZ false
  setWaitNs 16

/-- ADD A,reg8 -/
def instrAddA (reg : Reg8) : CpuM σ Unit := do
  setFlagH (halfCarry (← getReg .a) (← getReg reg) 0)
  let oldVal ← getReg reg
  setReg .a ((← getReg .a) + (← getReg reg))
  setFlagN false
  setFlagC ((← getReg .a).ult oldVal)
  setFlagZ ((← getReg .a) == 0)
  setWaitNs 4

/-- ADD A,(reg16) -/
def instrAddAAddr (addrReg : Reg16) : CpuM σ Unit := do
  let reg ← readBus (← getReg16 addrReg) .gbReadData
  setFlagH (halfCarry (← getReg .a) reg 0)
  setReg .a ((← getReg .a) + reg)
  setFlagN false
  setFlagC ((← getReg .a).ult reg)
  setFlagZ ((← getReg .a) == 0)
  setWaitNs 8

/-- ADD A,u8 -/
def instrAddAImm : CpuM σ Unit := do
  let imm ← fetchNextInstrByte
  setFlagH (halfCarry (← getReg .a) imm 0)
  setReg .a ((← getReg .a) + imm)
  setFlagN false
  setFlagC ((← getReg .a).ult imm)
  setFlagZ ((← getReg .a) == 0)
  setWaitNs 8

/-- ADC A,reg8: Add reg8 + carry flag to A. -/
def instrAddACarry (reg : Reg8) : CpuM σ Unit := do
  let carryAdd  := byteIf (← getFlagC) 1
  let oldVal ← getReg .a
  setFlagH (halfCarry (← getReg .a) (← getReg reg) carryAdd.toNat)
  setReg .a ((← getReg .a) + ((← getReg reg) + carryAdd))
  setFlagN false
  let a ← getReg .a
  setFlagC (a.ult oldVal || (a == oldVal && carryAdd == 1))
  setFlagZ ((← getReg .a) == 0)
  setWaitNs 4

/-- ADC A,(reg16): Add (reg16) + carry flag to A. -/
def instrAddACarryAddr (addrReg : Reg16) : CpuM σ Unit := do
  let reg ← readBus (← getReg16 addrReg) .gbReadData
  let carryAdd  := byteIf (← getFlagC) 1
  let oldVal ← getReg .a
  setFlagH (halfCarry (← getReg .a) reg carryAdd.toNat)
  setReg .a ((← getReg .a) + (reg + carryAdd))
  setFlagN false
  let a ← getReg .a
  setFlagC (a.ult oldVal || (a == oldVal && carryAdd == 1))
  setFlagZ ((← getReg .a) == 0)
  setWaitNs 8

/-- ADC A,u8: Add u8 + carry flag to A. -/
def instrAddACarryImm : CpuM σ Unit := do
  let reg ← fetchNextInstrByte
  let oldVal ← getReg .a
  let carryAdd  := byteIf (← getFlagC) 1
  setFlagH (halfCarry (← getReg .a) reg carryAdd.toNat)
  setReg .a ((← getReg .a) + (reg + carryAdd))
  setFlagN false
  let a ← getReg .a
  setFlagC (a.ult oldVal || (a == oldVal && carryAdd == 1))
  setFlagZ ((← getReg .a) == 0)
  setWaitNs 8

/-! ## Subtractions -/

/-- The half carry of `preVal - val - carrySub`, computed in `int`. -/
def halfBorrow (preVal val : U8) (carrySub : Int) : Bool :=
  decide (((preVal &&& 0xf).toNat : Int) - ((val &&& 0xf).toNat : Int) - carrySub < 0)

/-- SUB (d8): subtract immediate from register A. -/
def instrSubImm : CpuM σ Unit := do
  let preVal ← getReg .a
  let imm ← fetchNextInstrByte
  setReg .a ((← getReg .a) - imm)
  setFlagC (preVal.ult (← getReg .a))
  setFlagH (halfBorrow preVal imm 0)
  setFlagZ ((← getReg .a) == 0)
  setFlagN true
  setWaitNs 8

/-- SUB reg8: Subtract reg8 from register A. -/
def instrSub (reg : Reg8) : CpuM σ Unit := do
  let preVal ← getReg .a
  let oldRegVal ← getReg reg
  setReg .a ((← getReg .a) - (← getReg reg))
  setFlagC (preVal.ult (← getReg .a))
  setFlagH (halfBorrow preVal oldRegVal 0)
  setFlagZ ((← getReg .a) == 0)
  setFlagN true
  setWaitNs 4

/-- SUB (reg16): Subtract (reg16) from register A. -/
def instrSubAddr (addrReg : Reg16) : CpuM σ Unit := do
  let reg ← readBus (← getReg16 addrReg) .gbReadData
  let preVal ← getReg .a
  setReg .a ((← getReg .a) - reg)
  setFlagC (preVal.ult (← getReg .a))
  setFlagH (halfBorrow preVal reg 0)
  setFlagZ ((← getReg .a) == 0)
  setFlagN true
  setWaitNs 8

/-- SBC A,reg8: Subtract reg8 and carry from register A. -/
def instrSubCarry (reg : Reg8) : CpuM σ Unit := do
  let carrySub  := byteIf (← getFlagC) 1
  let oldVal ← getReg .a
  setReg .a ((← getReg .a) - ((← getReg reg) + carrySub))
  let a ← getReg .a
  setFlagC (oldVal.ult a || (a == oldVal && carrySub == 1))
  -- The operand is read again here, after A was written: for SBC A,A it is the new A.
  setFlagH (halfBorrow oldVal (← getReg reg) carrySub.toNat)
  setFlagZ ((← getReg .a) == 0)
  setFlagN true
  setWaitNs 4

/-- SBC A,(reg16): Subtract (reg16) and carry from register A. -/
def instrSubCarryAddr (addrReg : Reg16) : CpuM σ Unit := do
  let reg ← readBus (← getReg16 addrReg) .gbReadData
  let carrySub  := byteIf (← getFlagC) 1
  let oldVal ← getReg .a
  setReg .a ((← getReg .a) - (reg + carrySub))
  let a ← getReg .a
  setFlagC (oldVal.ult a || (a == oldVal && carrySub == 1))
  setFlagH (halfBorrow oldVal reg carrySub.toNat)
  setFlagZ ((← getReg .a) == 0)
  setFlagN true
  setWaitNs 8

/-- SBC A, u8: Subtract immediate and carry form register A. -/
def instrSubCarryImm : CpuM σ Unit := do
  let dat ← fetchNextInstrByte
  let carrySub  := byteIf (← getFlagC) 1
  let oldVal ← getReg .a
  setReg .a ((← getReg .a) - (dat + carrySub))
  let a ← getReg .a
  setFlagC (oldVal.ult a || (a == oldVal && carrySub == 1))
  setFlagH (halfBorrow oldVal dat carrySub.toNat)
  setFlagZ ((← getReg .a) == 0)
  setFlagN true
  setWaitNs 8

/-- CP A,reg8: Compare A with reg8. -/
def instrComp (reg : Reg8) : CpuM σ Unit := do
  let preVal ← getReg .a
  let result := (← getReg .a) - (← getReg reg)
  setFlagC (preVal.ult result)
  setFlagH (halfBorrow preVal (← getReg reg) 0)
  setFlagZ (result == 0)
  setFlagN true
  setWaitNs 4

/-- CP A,(reg16): Compare A with (reg16). -/
def instrCompAddr (reg : Reg16) : CpuM σ Unit := do
  let preVal ← getReg .a
  let readReg ← readBus (← getReg16 reg) .gbReadData
  let result := (← getReg .a) - readReg
  setFlagC (preVal.ult result)
  setFlagH (halfBorrow preVal readReg 0)
  setFlagZ (result == 0)
  setFlagN true
  setWaitNs 8

/-- CP A,u8: Compare A with u8. -/
def instrCompImm : CpuM σ Unit := do
  let imm ← fetchNextInstrByte
  let preVal ← getReg .a
  let result := (← getReg .a) - imm
  setFlagC (preVal.ult result)
  setFlagH (halfBorrow preVal imm 0)
  setFlagZ (result == 0)
  setFlagN true
  setWaitNs 8

/-- DEC reg16 -/
def instrDec16 (reg : Reg16) : CpuM σ Unit := do
  setReg16 reg ((← getReg16 reg) - 1)
  setWaitNs 8

/-- DEC reg8 -/
def instrDec (reg : Reg8) : CpuM σ Unit := do
  setReg reg ((← getReg reg) - 1)
  setFlagH (((← getReg reg) &&& 0x0F) == 0x0F)
  setFlagN true
  setFlagZ ((← getReg reg) == 0)
  setWaitNs 4

/-! ## Logic -/

/-- XOR A,reg8 -/
def instrXor (reg : Reg8) : CpuM σ Unit := do
  setReg .a ((← getReg .a) ^^^ (← getReg reg))
  setFlagC false
  setFlagH false
  setFlagN false
  setFlagZ ((← getReg .a) == 0)
  setWaitNs 4

/-- XOR A,(reg16) -/
def instrXorAddr (addrReg : Reg16) : CpuM σ Unit := do
  let dat ← readBus (← getReg16 addrReg) .gbReadData
  setReg .a ((← getReg .a) ^^^ dat)
  setFlagC false
  setFlagH false
  setFlagN false
  setFlagZ ((← getReg .a) == 0)
  setWaitNs 8

/-- XOR A,u8 -/
def instrXorImm : CpuM σ Unit := do
  let imm ← fetchNextInstrByte
  setReg .a ((← getReg .a) ^^^ imm)
  setFlagC false
  setFlagH false
  setFlagN false
  setFlagZ ((← getReg .a) == 0)
  setWaitNs 8

/-- AND A,reg8 -/
def instrAnd (reg : Reg8) : CpuM σ Unit := do
  setReg .a ((← getReg .a) &&& (← getReg reg))
  setFlagC false
  setFlagH true
  setFlagN false
  setFlagZ ((← getReg .a) == 0)
  setWaitNs 4

/-- AND A,(reg16) -/
def instrAndAddr (addrReg : Reg16) : CpuM σ Unit := do
  let dat ← readBus (← getReg16 addrReg) .gbReadData
  setReg .a ((← getReg .a) &&& dat)
  setFlagC false
  setFlagH true
  setFlagN false
  setFlagZ ((← getReg .a) == 0)
  setWaitNs 8

/-- AND A,u8 -/
def instrAndImm : CpuM σ Unit := do
  let imm ← fetchNextInstrByte
  setReg .a ((← getReg .a) &&& imm)
  setFlagC false
  setFlagH true
  setFlagN false
  setFlagZ ((← getReg .a) == 0)
  setWaitNs 8

/-- OR A,reg8 -/
def instrOr (reg : Reg8) : CpuM σ Unit := do
  setReg .a ((← getReg .a) ||| (← getReg reg))
  setFlagC false
  setFlagH false
  setFlagN false
  setFlagZ ((← getReg .a) == 0)
  setWaitNs 4

/-- OR A,(reg16) -/
def instrOrAddr (addrReg : Reg16) : CpuM σ Unit := do
  let dat ← readBus (← getReg16 addrReg) .gbReadData
  setReg .a ((← getReg .a) ||| dat)
  setFlagC false
  setFlagH false
  setFlagN false
  setFlagZ ((← getReg .a) == 0)
  setWaitNs 8

/-- OR A,u8 -/
def instrOrImm : CpuM σ Unit := do
  let imm ← fetchNextInstrByte
  setReg .a ((← getReg .a) ||| imm)
  setFlagC false
  setFlagH false
  setFlagN false
  setFlagZ ((← getReg .a) == 0)
  setWaitNs 8

/-! ## Jumps -/

/-- `static_cast<u16>(pc + 1 + imm)`. -/
def relTarget (pc : U16) (imm : U8) : U16 :=
  (pc.setWidth 32 + 1 + imm.signExtend 32 : BitVec 32).setWidth 16

/-- JR PC+1+i8 -/
def instrJump : CpuM σ Unit := do
  let tmpPc ← getPc
  let tmpInstr ← fetchNextInstrByte
  setPc (relTarget tmpPc tmpInstr)
  setWaitNs 12

/-- JR reg16: Jump to address in reg16. -/
def instrJumpReg (addrReg : Reg16) : CpuM σ Unit := do
  setPc (← getReg16 addrReg)
  setWaitNs 4

/-- JR u16: Jump to u16. -/
def instrJumpAddr : CpuM σ Unit := do
  setPc (← fetchNext2InstrBytes)
  setWaitNs 16

/-- JP cond,reg: Jump to reg8+PC+1 if cond is true. -/
def instrJumpIf (cond : Bool) : CpuM σ Unit := do
  if cond then
    let tmpPc ← getPc
    let tmpInstr ← fetchNextInstrByte
    setPc (relTarget tmpPc tmpInstr)
    setWaitNs 12
  else
    let _ ← fetchNextInstrByte
    setWaitNs 8

/-- JP cond,u16: Jump to u16 if cond is true. -/
def instrJumpAddrIf (cond : Bool) : CpuM σ Unit := do
  let jmpAddr ← fetchNext2InstrBytes
  if cond then
    setPc jmpAddr
    setWaitNs 16
  else
    setWaitNs 12

/-! ## Bits -/

/-- BIT ind,reg8: set z flag if bit ind of register reg8 is 0. -/
def instrBitN (bitIndex : Nat) (reg : Reg8) : CpuM σ Unit := do
  setFlagH true
  setFlagN false
  setFlagZ (!isBitSet (← getReg reg) bitIndex)
  setWaitNs 8

/-- BIT ind,(reg16) -/
def instrBitNAddr (bitIndex : Nat) (addr : Reg16) : CpuM σ Unit := do
  setFlagH true
  setFlagN false
  setFlagZ (!isBitSet (← readBus (← getReg16 addr) .gbReadData) bitIndex)
  setWaitNs 12

/-- SET ind,reg8 -/
def instrSetBitN (bitIndex : Nat) (reg : Reg8) : CpuM σ Unit := do
  setReg reg (setBit (← getReg reg) true bitIndex)
  setWaitNs 8

/-- SET ind,(reg16) -/
def instrSetBitNAddr (bitIndex : Nat) (addrReg : Reg16) : CpuM σ Unit := do
  let tmp ← readBus (← getReg16 addrReg) .gbReadData
  let tmp := setBit tmp true bitIndex
  writeBus (← getReg16 addrReg) tmp
  setWaitNs 16

/-! ## Calls, returns and the stack -/

/-- `WriteBus(--reg_file.SP, val)`. -/
def pushByte (val : U8) : CpuM σ Unit := do
  setReg16 .sp ((← getReg16 .sp) - 1)
  writeBus (← getReg16 .sp) val

/-- `ReadBus(reg_file.SP, kGbReadData); ++reg_file.SP`. -/
def popByte : CpuM σ U8 := do
  let val ← readBus (← getReg16 .sp) .gbReadData
  setReg16 .sp ((← getReg16 .sp) + 1)
  return val

/-- CALL u16: Push address of next instruction onto stack and then jump to u16. -/
def instrCall : CpuM σ Unit := do
  let jmpAddr ← fetchNext2InstrBytes
  pushByte (msb (← getPc))
  pushByte (lsb (← getPc))
  setPc jmpAddr
  setWaitNs 24

/-- CALL cond,u16 -/
def instrCallIf (cond : Bool) : CpuM σ Unit := do
  let jmpAddr ← fetchNext2InstrBytes
  if cond then
    pushByte (msb (← getPc))
    pushByte (lsb (← getPc))
    setPc jmpAddr
    setWaitNs 24
  else
    setWaitNs 12

/-- RET: Pop two bytes from stack & jump to that address. -/
def instrRet : CpuM σ Unit := do
  let lsb ← popByte
  let msb ← popByte
  setPc (msb.setWidth 16 <<< 8 ||| lsb.setWidth 16)
  setWaitNs 16

/-- RETI: Pop two bytes from stack and jump to that address and enable interrupts. -/
def instrRetI : CpuM σ Unit := do
  let lsb ← popByte
  let msb ← popByte
  setPc (msb.setWidth 16 <<< 8 ||| lsb.setWidth 16)
  setIntrMasterEnable true
  setWaitNs 16

/-- PUSH reg16: Push register reg16 onto stack. Decrement Stack Pointer (SP) by two. -/
def instrPush (reg : StackReg) : CpuM σ Unit := do
  pushByte (msb (← getStackReg reg))
  pushByte (lsb (← getStackReg reg))
  setWaitNs 16

/-- POP reg16: Pop two bytes off stack into register pair. The low nibble of F is put back. -/
def instrPop (reg : StackReg) : CpuM σ Unit := do
  let fTmp := (← getRegs).f &&& 0x0F
  let lsb ← popByte
  let msb ← popByte
  modifyRegs fun rf => rf.setStack reg (msb.setWidth 16 <<< 8 ||| lsb.setWidth 16)
  modifyRegs fun rf => { rf with f := (rf.f &&& 0xF0) ||| fTmp }
  setWaitNs 12

/-- LD reg8,reg8: Register to register transfer. -/
def instrMov (regTo regFrom : Reg8) : CpuM σ Unit := do
  setReg regTo (← getReg regFrom)
  setWaitNs 4

/-! ## Shifts -/

/-- RL reg8 -/
def instrRotLeft (reg : Reg8) : CpuM σ Unit := do
  let oldCarry ← getFlagC
  setFlagC (((← getReg reg) &&& 0b10000000) != 0)
  setReg reg ((← getReg reg) <<< 1)
  setReg reg ((← getReg reg) ||| byteIf oldCarry 1)
  setFlagZ ((← getReg reg) == 0)
  setFlagN false
  setFlagH false
  setWaitNs 8

/-- RL (reg16) -/
def instrRotLeftAddr (addrReg : Reg16) : CpuM σ Unit := do
  let dat ← readBus (← getReg16 addrReg) .gbReadData
  let oldCarry ← getFlagC
  setFlagC ((dat &&& 0b10000000) != 0)
  let dat := dat <<< 1
  let dat := dat ||| byteIf oldCarry 1
  writeBus (← getReg16 addrReg) dat
  setFlagZ (dat == 0)
  setFlagN false
  setFlagH false
  setWaitNs 16

/-- RR reg8 -/
def instrRotRight (reg : Reg8) : CpuM σ Unit := do
  let oldCarry ← getFlagC
  setFlagC (((← getReg reg) &&& 1) != 0)
  setReg reg ((← getReg reg) >>> 1)
  setReg reg ((← getReg reg) ||| byteIf oldCarry 0b10000000)
  setFlagZ ((← getReg reg) == 0)
  setFlagN false
  setFlagH false
  setWaitNs 8

/-- RR (reg16) -/
def instrRotRightAddr (addrReg : Reg16) : CpuM σ Unit := do
  let dat ← readBus (← getReg16 addrReg) .gbReadData
  let oldCarry ← getFlagC
  setFlagC ((dat &&& 1) != 0)
  let dat := dat >>> 1
  let dat := dat ||| byteIf oldCarry 0b10000000
  writeBus (← getReg16 addrReg) dat
  setFlagZ (dat == 0)
  setFlagN false
  setFlagH false
  setWaitNs 16

/-- RLA -/
def instrRotLeftA : CpuM σ Unit := do
  let oldCarry ← getFlagC
  setFlagC (((← getReg .a) &&& 0b10000000) != 0)
  setReg .a ((← getReg .a) <<< 1)
  setReg .a ((← getReg .a) ||| byteIf oldCarry 1)
  setFlagZ false
  setFlagN false
  setFlagH false
  setWaitNs 4

/-- SRL reg8 -/
def instrShiftRight (reg : Reg8) : CpuM σ Unit := do
  let tmp ← getReg reg
  setReg reg ((← getReg reg) >>> 1)
  setFlagC ((tmp &&& GbConst.kMaskBit0) != 0)
  setFlagZ ((← getReg reg) == 0)
  setFlagN false
  setFlagH false
  setWaitNs 8

/-- SRL (reg16) -/
def instrShiftRightAddr (addrReg : Reg16) : CpuM σ Unit := do
  let dat ← readBus (← getReg16 addrReg) .gbReadData
  let tmp := dat
  let dat := dat >>> 1
  writeBus (← getReg16 addrReg) dat
  setFlagC ((tmp &&& GbConst.kMaskBit0) != 0)
  setFlagZ (dat == 0)
  setFlagN false
  setFlagH false
  setWaitNs 16

/-! ## Interrupt enable -/

/-- DI -/
def instrDI : CpuM σ Unit := do
  setIntrMasterEnable false
  setWaitNs 4

/-- EI -/
def instrEI : CpuM σ Unit := do
  setIntrMasterEnable true
  setWaitNs 4

/-- RET cond: Pop two bytes from stack & jump to that address if cond is true. -/
def instrRetIf (cond : Bool) : CpuM σ Unit := do
  if cond then
    let lsb ← popByte
    let msb ← popByte
    setPc (msb.setWidth 16 <<< 8 ||| lsb.setWidth 16)
    setWaitNs 20
  else
    setWaitNs 8

/-- SWAP reg8 -/
def instrSwap (reg : Reg8) : CpuM σ Unit := do
  let oldUpperNib := (← getReg reg) >>> 4
  let oldLowerNib := (← getReg reg) <<< 4
  setReg reg (oldLowerNib ||| oldUpperNib)
  setFlagC false
  setFlagZ ((← getReg reg) == 0)
  setFlagN false
  setFlagH false
  setWaitNs 8

/-- SWAP (reg16) -/
def instrSwapAddr (addrReg : Reg16) : CpuM σ Unit := do
  let dat ← readBus (← getReg16 addrReg) .gbReadData
  let oldUpperNib := dat >>> 4
  let oldLowerNib := dat <<< 4
  let dat := oldLowerNib ||| oldUpperNib
  writeBus (← getReg16 addrReg) dat
  setFlagC false
  setFlagZ (dat == 0)
  setFlagN false
  setFlagH false
  setWaitNs 16

/-- RST u8 -/
def instrRST (addr : U8) : CpuM σ Unit := do
  pushByte (msb (← getPc))
  pushByte (lsb (← getPc))
  setPc (addr.setWidth 16)
  setWaitNs 16

/-- RES bit,reg8 -/
def instrResetBit (bit : Nat) (reg : Reg8) : CpuM σ Unit := do
  setReg reg ((← getReg reg) &&& ~~~((1 : U8) <<< bit))
  setWaitNs 8

/-- RES bit,(reg16) -/
def instrResetBitAddr (bit : Nat) (addrReg : Reg16) : CpuM σ Unit := do
  let res ← readBus (← getReg16 addrReg) .gbReadData
  let res := res &&& ~~~((1 : U8) <<< bit)
  writeBus (← getReg16 addrReg) res
  setWaitNs 16

/-- CPL: Complement of register A. -/
def instrComplement : CpuM σ Unit := do
  setReg .a (~~~(← getReg .a))
  setFlagH true
  setFlagN true
  setWaitNs 4

/-- SLA reg8: Shift left into carry. -/
def instrSLA (reg : Reg8) : CpuM σ Unit := do
  let carryBit := (← getReg reg) &&& GbConst.kMaskBit7
  setReg reg ((← getReg reg) <<< 1)
  setFlagC (carryBit != 0)
  setFlagH false
  setFlagN false
  setFlagZ ((← getReg reg) == 0)
  setWaitNs 8

/-- SLA (reg16) -/
def instrSLAAddr (addrReg : Reg16) : CpuM σ Unit := do
  let dat ← readBus (← getReg16 addrReg) .gbReadData
  let carryBit := dat &&& GbConst.kMaskBit7
  let dat := dat <<< 1
  writeBus (← getReg16 addrReg) dat
  setFlagC (carryBit != 0)
  setFlagH false
  setFlagN false
  setFlagZ (dat == 0)
  setWaitNs 16

/-- Not part of the original ISA. The value of register B determines the reason for stop. -/
def instrEmu [Kernel σ] : CpuM σ Unit := do
  match (← getReg .b).toNat with
  | 0 => setCpuState .testPassed
  | 1 => setCpuState .testFailed
  | 2 =>
    modify fun c => { c with initSocket := { c.initSocket with
      sys := Kernel.stop c.initSocket.sys } }
  | _ => pure ()

/-- DAA: Binary to binary coded decimal. -/
def instrDAA : CpuM σ Unit := do
  let reg ← getReg .a
  let correction : U8 := if (← getFlagC) then 0x60 else 0x00
  let correction :=
    if (← getFlagH) || (!(← getFlagN) && decide ((reg &&& 0x0F).toNat > 9)) then
      correction ||| 0x06
    else correction
  let correction :=
    if (← getFlagC) || (!(← getFlagN) && decide (reg.toNat > 0x99)) then correction ||| 0x60
    else correction
  let reg := if (← getFlagN) then reg - correction else reg + correction
  if ((correction.setWidth 32 <<< 2) &&& (0x100 : BitVec 32)) != 0 then
    setFlagC true
  setFlagH false
  setFlagZ (reg == 0)
  setReg .a reg
  setWaitNs 4

/-- SCF -/
def instrSCF : CpuM σ Unit := do
  setFlagC true
  setFlagH false
  setFlagN false
  setWaitNs 4

/-- CCF -/
def instrCCF : CpuM σ Unit := do
  setFlagC (!(← getFlagC))
  setFlagH false
  setFlagN false
  setWaitNs 4

/-- SRA reg8: Shift right into carry. MSB doesn't change. -/
def instrSRA (reg : Reg8) : CpuM σ Unit := do
  let carryBit := (← getReg reg) &&& 1
  let topBit := (← getReg reg) &&& GbConst.kMaskBit7
  setReg reg ((← getReg reg) >>> 1 ||| topBit)
  setFlagC (carryBit != 0)
  setFlagH false
  setFlagN false
  setFlagZ ((← getReg reg) == 0)
  setWaitNs 8

/-- SRA (reg16) -/
def instrSRAAddr (addrReg : Reg16) : CpuM σ Unit := do
  let dat ← readBus (← getReg16 addrReg) .gbReadData
  let carryBit := dat &&& 1
  let topBit := dat &&& GbConst.kMaskBit7
  let result := dat >>> 1 ||| topBit
  writeBus (← getReg16 addrReg) result
  setFlagC (carryBit != 0)
  setFlagH false
  setFlagN false
  setFlagZ (result == 0)
  setWaitNs 16

/-- LD A,(C) -/
def instrLoadC : CpuM σ Unit := do
  setReg .a (← readBus (0xFF00 + (← getReg .c).setWidth 16) .gbReadData)
  setWaitNs 8

end Cpu

end TlmBoy
