import TlmBoy.Cpu.Stack
import TlmBoy.Isa.Bcd
import TlmBoy.Isa.Word

/-
  The rows of the two outer quadrants of the opcode table.

  `Outer` names the rows with their operands, and `Outer.run` is what a row does, in the terms of
  the processor's manual: the immediate word, the word on the stack and the condition are programs
  of their own, flags are sums of numbers, and an optional condition makes a jump, a call and a
  return one row each. `execute_outer` compares the instruction functions with the rows.
-/

namespace TlmBoy

/-! ## Rows -/

/-- How the loads and stores of A reach memory: through BC, DE, or HL that moves afterwards. -/
inductive Pointer where
  | bc | de | hlInc | hlDec
deriving DecidableEq, Repr

namespace Pointer

def reg : Pointer → Reg16
  | .bc => .bc
  | .de => .de
  | .hlInc | .hlDec => .hl

/-- The registers after the access. -/
def move (p : Pointer) (rf : RegFile) : RegFile :=
  match p with
  | .bc | .de => rf
  | .hlInc => rf.set16 .hl (rf.get16 .hl + 1)
  | .hlDec => rf.set16 .hl (rf.get16 .hl - 1)

end Pointer

/-- The rotates of A: they are the shifts of the page behind 0xCB, but clear Z. -/
inductive RotA where
  | rlca | rrca | rla | rra
deriving DecidableEq, Repr

def RotA.shift : RotA → ShiftOp
  | .rlca => .rlc
  | .rrca => .rrc
  | .rla => .rl
  | .rra => .rr

inductive Outer where
  | nop
  | di
  | ei
  | ldImm (x : Operand)
  | ldImm16 (r : Reg16)
  | loadA (p : Pointer)
  | storeA (p : Pointer)
  | loadHigh
  | storeHigh
  | loadHighC
  | storeHighC
  | loadAt
  | storeAt
  | storeSp
  | ldSpHl
  | ldHlSp
  | inc (x : Operand)
  | dec (x : Operand)
  | inc16 (r : Reg16)
  | dec16 (r : Reg16)
  | addHl (r : Reg16)
  | addSp
  | aluImm (op : AluOp)
  | rotA (op : RotA)
  | daa
  | cpl
  | scf
  | ccf
  | jr (cond : Option Cond)
  | jp (cond : Option Cond)
  | jpHl
  | call (cond : Option Cond)
  | ret (cond : Option Cond)
  | reti
  | rst (y : Fin 8)
  | push (r : StackReg)
  | pop (r : StackReg)
deriving DecidableEq, Repr

/-- The word of a popped register: POP AF sets the flags and keeps the low nibble of F. -/
def RegFile.popped (r : StackReg) (w : U16) (rf : RegFile) : RegFile :=
  let rf' := rf.setStack r w
  rf'.withF (rf'.f.extractLsb' 4 4 ++ rf.f.extractLsb' 0 4)

namespace Cpu

variable {σ : Type}

/-- The test of an optional condition. -/
def taken (cond : Option Cond) : CpuM σ Bool := do
  return cond.all (·.test (← getRegs))

def setFlags (out : RegFile → U8) : CpuM σ Unit := modifyRegs fun rf => rf.withF (out rf)

variable [BusPort σ]

/-- The immediate word, low byte first. -/
def nextWord : CpuM σ U16 := do
  setGbcmd .gbReadInst
  let lo ← fetchNextInstrByte
  let hi ← fetchNextInstrByte
  return hi ++ lo

/-- A word goes onto the stack, high byte first. -/
def pushValue (w : U16) : CpuM σ Unit := do
  pushByte (msb w)
  pushByte (lsb w)

def popValue : CpuM σ U16 := do
  let lo ← popByte
  let hi ← popByte
  return hi ++ lo

/-- The operand of LDH: an address in the last page. -/
def nextHigh : CpuM σ U16 := do
  return (0xFF : U8) ++ (← fetchNextInstrByte)

/-- INC and DEC: one sum or difference, and C stays. -/
def countProgram (out : U8 → AluOut) (x : Operand) : CpuM σ Unit := do
  let v ← x.read
  x.write (out v).value
  setFlags fun rf =>
    packFlags ((out v).value == 0) (out v).subtract (out v).half rf.flagC rf.f
  setWaitNs (x.clkCycles 4 12)

/-- What `target` yields becomes PC if the condition holds; its operand is fetched either way. -/
def jumpProgram (cond : Option Cond) (target : CpuM σ U16) (yes no : Nat) : CpuM σ Unit := do
  let go ← taken cond
  let pc ← target
  if go then
    setPc pc
    setWaitNs yes
  else
    setWaitNs no

end Cpu

namespace Outer

variable {σ : Type} [BusPort σ]

/-- What a row does. -/
def run (row : Outer) : CpuM σ Unit :=
  match row with
  | .nop => Cpu.setWaitNs 4
  | .di => do
    Cpu.setIntrMasterEnable false
    Cpu.setWaitNs 4
  | .ei => do
    Cpu.setIntrMasterEnable true
    Cpu.setWaitNs 4
  -- Loads and stores
  | .ldImm x => do
    x.write (← Cpu.fetchNextInstrByte)
    Cpu.setWaitNs (x.clkCycles 8 12)
  | .ldImm16 r => do
    Cpu.setReg16 r (← Cpu.nextWord)
    Cpu.setWaitNs 12
  | .loadA p => do
    Cpu.setReg .a (← Cpu.readAt p.reg)
    Cpu.modifyRegs p.move
    Cpu.setWaitNs 8
  | .storeA p => do
    Cpu.writeBus (← Cpu.getReg16 p.reg) (← Cpu.getReg .a)
    Cpu.modifyRegs p.move
    Cpu.setWaitNs 8
  | .loadHigh => do
    Cpu.setReg .a (← Cpu.readBus (← Cpu.nextHigh) .gbReadData)
    Cpu.setWaitNs 12
  | .storeHigh => do
    Cpu.writeBus (← Cpu.nextHigh) (← Cpu.getReg .a)
    Cpu.setWaitNs 12
  | .loadHighC => do
    Cpu.setReg .a (← Cpu.readBus ((0xFF : U8) ++ (← Cpu.getReg .c)) .gbReadData)
    Cpu.setWaitNs 8
  | .storeHighC => do
    Cpu.writeBus ((0xFF : U8) ++ (← Cpu.getReg .c)) (← Cpu.getReg .a)
    Cpu.setWaitNs 8
  | .loadAt => do
    Cpu.setReg .a (← Cpu.readBus (← Cpu.nextWord) .gbReadData)
    Cpu.setWaitNs 16
  | .storeAt => do
    Cpu.writeBus (← Cpu.nextWord) (← Cpu.getReg .a)
    Cpu.setWaitNs 16
  | .storeSp => do
    let adr ← Cpu.nextWord
    Cpu.writeBus adr (lsb (← Cpu.getReg16 .sp))
    Cpu.writeBus (adr + 1) (msb (← Cpu.getReg16 .sp))
    Cpu.setWaitNs 20
  | .ldSpHl => do
    Cpu.setReg16 .sp (← Cpu.getReg16 .hl)
    Cpu.setWaitNs 8
  | .ldHlSp => do
    let out := WordOut.displaced (← Cpu.getReg16 .sp) (← Cpu.fetchNextInstrByte)
    Cpu.setReg16 .hl out.value
    Cpu.setFlags fun rf => packFlags false false out.half out.carry rf.f
    Cpu.setWaitNs 12
  -- Sums
  | .inc x => Cpu.countProgram (fun v => .sum v 1 0) x
  | .dec x => Cpu.countProgram (fun v => .difference v 1 0) x
  | .inc16 r => do
    Cpu.setReg16 r ((← Cpu.getReg16 r) + 1)
    Cpu.setWaitNs 8
  | .dec16 r => do
    Cpu.setReg16 r ((← Cpu.getReg16 r) - 1)
    Cpu.setWaitNs 8
  | .addHl r => do
    let out := WordOut.sum (← Cpu.getReg16 .hl) (← Cpu.getReg16 r)
    Cpu.setReg16 .hl out.value
    Cpu.setFlags fun rf => packFlags rf.flagZ false out.half out.carry rf.f
    Cpu.setWaitNs 8
  | .addSp => do
    let out := WordOut.displaced (← Cpu.getReg16 .sp) (← Cpu.fetchNextInstrByte)
    Cpu.setReg16 .sp out.value
    Cpu.setFlags fun rf => packFlags false false out.half out.carry rf.f
    Cpu.setWaitNs 16
  | .aluImm op => Cpu.aluProgram op Cpu.fetchNextInstrByte 8
  -- A and the flags
  | .rotA op => do
    let out := op.shift.out (← Cpu.getReg .a) (← Cpu.getFlagC)
    Cpu.setReg .a out.1
    Cpu.setFlags fun rf => packFlags false false false out.2 rf.f
    Cpu.setWaitNs 4
  | .daa => do
    Cpu.modifyRegs RegFile.daa
    Cpu.setWaitNs 4
  | .cpl => do
    Cpu.setReg .a (~~~(← Cpu.getReg .a))
    Cpu.setFlags fun rf => packFlags rf.flagZ true true rf.flagC rf.f
    Cpu.setWaitNs 4
  | .scf => do
    Cpu.setFlags fun rf => packFlags rf.flagZ false false true rf.f
    Cpu.setWaitNs 4
  | .ccf => do
    Cpu.setFlags fun rf => packFlags rf.flagZ false false (!rf.flagC) rf.f
    Cpu.setWaitNs 4
  -- Jumps, calls and returns
  | .jr cond => Cpu.jumpProgram cond (do
      let e ← Cpu.fetchNextInstrByte
      return jumpTarget (← Cpu.getPc) e) 12 8
  | .jp cond => Cpu.jumpProgram cond Cpu.nextWord 16 12
  | .jpHl => do
    Cpu.setPc (← Cpu.getReg16 .hl)
    Cpu.setWaitNs 4
  | .call cond => do
    let go ← Cpu.taken cond
    let pc ← Cpu.nextWord
    if go then
      Cpu.pushValue (← Cpu.getPc)
      Cpu.setPc pc
      Cpu.setWaitNs 24
    else
      Cpu.setWaitNs 12
  | .ret cond => do
    if (← Cpu.taken cond) then
      Cpu.setPc (← Cpu.popValue)
      Cpu.setWaitNs (if cond.isSome then 20 else 16)
    else
      Cpu.setWaitNs 8
  | .reti => do
    Cpu.setPc (← Cpu.popValue)
    Cpu.setIntrMasterEnable true
    Cpu.setWaitNs 16
  | .rst y => do
    Cpu.pushValue (← Cpu.getPc)
    Cpu.setPc (BitVec.ofNat 16 (8 * y.val))
    Cpu.setWaitNs 16
  | .push r => do
    Cpu.pushValue (← Cpu.getStackReg r)
    Cpu.setWaitNs 16
  | .pop r => do
    let w ← Cpu.popValue
    Cpu.modifyRegs (RegFile.popped r w)
    Cpu.setWaitNs 12

/-- The instruction of the source that a row should be. -/
def instr (row : Outer) : Instr :=
  match row with
  | .nop => .nop
  | .di => .di
  | .ei => .ei
  | .ldImm (.reg r) => .loadImm r
  | .ldImm .atHl => .storeImm .hl
  | .ldImm16 r => .loadImm16 r
  | .loadA .bc => .load .a .bc
  | .loadA .de => .load .a .de
  | .loadA .hlInc => .loadInc .a .hl
  | .loadA .hlDec => .loadDec .hl .a
  | .storeA .bc => .store .bc .a
  | .storeA .de => .store .de .a
  | .storeA .hlInc => .storeInc .hl .a
  | .storeA .hlDec => .storeDec .hl .a
  | .loadHigh => .loadH .a
  | .storeHigh => .storeH .a
  | .loadHighC => .loadC
  | .storeHighC => .storeHighC .a
  | .loadAt => .loadFrom .a
  | .storeAt => .storeTo .a
  | .storeSp => .storeSp
  | .ldSpHl => .loadSpHl
  | .ldHlSp => .loadHlSpRel
  | .inc (.reg r) => .inc r
  | .inc .atHl => .incAddr .hl
  | .dec (.reg r) => .dec r
  | .dec .atHl => .decAddr .hl
  | .inc16 r => .inc16 r
  | .dec16 r => .dec16 r
  | .addHl r => .addHl r
  | .addSp => .addSp
  | .aluImm op => op.immInstr
  | .rotA .rlca => .rlca
  | .rotA .rrca => .rrca
  | .rotA .rla => .rotLeftA
  | .rotA .rra => .rra
  | .daa => .daa
  | .cpl => .complement
  | .scf => .scf
  | .ccf => .ccf
  | .jr none => .jump
  | .jr (some cond) => .jumpIf cond
  | .jp none => .jumpAddr
  | .jp (some cond) => .jumpAddrIf cond
  | .jpHl => .jumpReg .hl
  | .call none => .call
  | .call (some cond) => .callIf cond
  | .ret none => .ret
  | .ret (some cond) => .retIf cond
  | .reti => .retI
  | .rst y => .rst (BitVec.ofNat 8 (8 * y.val))
  | .push r => .push r
  | .pop r => .pop r

end Outer

/-! ## Run equations -/

namespace RegFile

variable (rf : RegFile) (r : Reg16) (v : U16) (f : U8) (pc : U16)

@[simp] theorem get16_set16_self : (rf.set16 r v).get16 r = v := by
  cases r with
  | sp => rfl
  | _ => exact msb_append_lsb v

@[simp] theorem withF_set16 : (rf.withF f).set16 r v = (rf.set16 r v).withF f := by
  cases r <;> rfl

@[simp] theorem withPc_f : (rf.withPc pc).f = rf.f := rfl

@[simp] theorem withPc_pc : (rf.withPc pc).pc = pc := rfl

@[simp] theorem withPc_get16 : (rf.withPc pc).get16 r = rf.get16 r := by
  cases r <;> rfl

@[simp] theorem withPc_withPc (pc' : U16) : (rf.withPc pc).withPc pc' = rf.withPc pc' := rfl

end RegFile

namespace Cpu

variable {σ α : Type} (c : Cpu σ)

@[simp] theorem getPc_bind (k : U16 → CpuM σ α) : (getPc >>= k) c = k c.regFile.pc c :=
  StateExcept.bind_of_ok rfl

@[simp] theorem setPc_bind (pc : U16) (k : Unit → CpuM σ α) :
    (setPc pc >>= k) c = k () (c.withRegs (c.regFile.withPc pc)) := StateExcept.bind_of_ok rfl

@[simp] theorem setReg16_bind (r : Reg16) (v : U16) (k : Unit → CpuM σ α) :
    (setReg16 r v >>= k) c = k () (c.withRegs (c.regFile.set16 r v)) := StateExcept.bind_of_ok rfl

@[simp] theorem getStackReg_bind (r : StackReg) (k : U16 → CpuM σ α) :
    (getStackReg r >>= k) c = k (c.regFile.getStack r) c := StateExcept.bind_of_ok rfl

@[simp] theorem setFlags_bind (out : RegFile → U8) (k : Unit → CpuM σ α) :
    (setFlags out >>= k) c = k () (c.withRegs (c.regFile.withF (out c.regFile))) :=
  StateExcept.bind_of_ok rfl

@[simp] theorem taken_bind (cond : Option Cond) (k : Bool → CpuM σ α) :
    (taken cond >>= k) c = k (cond.all (·.test c.regFile)) c := StateExcept.bind_of_ok rfl

@[simp] theorem lift_ok_bind {β : Type} (b : β) (k : β → CpuM σ α) :
    ((liftM (Except.ok b : Except Fault β) : CpuM σ β) >>= k) c = k b c := rfl

@[simp] theorem withRegs_self (s : InitSocket σ) :
    (c.withSocket s).withRegs c.regFile = c.withSocket s := rfl

@[simp] theorem evalCond_bind (cond : Cond) (k : Bool → CpuM σ α) :
    (evalCond cond >>= k) c = k (cond.test c.regFile) c :=
  StateExcept.bind_of_ok (evalCond_eq cond c)

end Cpu

/-! ## Words in two bytes -/

theorem word_of_halves (hi lo : U8) :
    (hi.setWidth 16 <<< 8 ||| lo.setWidth 16 : U16) = hi ++ lo := by
  have h := word_of_bytes (hi ++ lo)
  rwa [msb_append, lsb_append] at h

theorem highPage (lo : U8) : lo.setWidth 16 + 0xFF00#16 = (0xFF#8 ++ lo : U16) := by
  have hlo := lo.isLt
  apply BitVec.eq_of_toNat_eq
  rw [toNat_append_bytes, BitVec.toNat_add, BitVec.toNat_setWidth]
  have hpage : (0xFF00#16).toNat = 65280 := rfl
  have hbyte : (0xFF#8).toNat = 255 := rfl
  omega

theorem le_highPage (lo : U8) : 0xFF00#16 ≤ 0xFF#8 ++ lo := by
  rw [BitVec.le_def, toNat_append_bytes]
  exact Nat.le_add_right _ _

namespace Cpu

variable {σ : Type} [BusPort σ]

theorem fetchNext2InstrBytes_eq : (fetchNext2InstrBytes : CpuM σ U16) = nextWord := by
  simp only [fetchNext2InstrBytes, nextWord, fetchNextInstrByte, bind_assoc, pure_bind,
    word_of_halves]

/-- A pop changes no register but SP. -/
theorem popByte_regFile {v : U8} {c c' : Cpu σ} (h : popByte c = .ok (v, c')) :
    c'.regFile = { c.regFile with sp := c.regFile.sp + 1 } := by
  rw [popByte, getReg16_bind] at h
  obtain ⟨w, c₁, hread, h⟩ := StateExcept.bind_eq_ok h
  rw [getReg16_bind, setReg16_bind] at h
  have hregs := readBus_regFile hread
  cases h
  rw [withRegs_regFile, hregs]
  rfl

/-- The word that is pushed may be read again between its two bytes. -/
theorem pushHalves {get : CpuM σ U16} (f : RegFile → U16)
    (hget : ∀ c, get c = .ok (f c.regFile, c)) (hf : ∀ rf sp, f { rf with sp } = f rf)
    (k : CpuM σ Unit) : (do
      pushByte (msb (← get))
      pushByte (lsb (← get))
      k) = get >>= fun w => pushValue w >>= fun _ => k := by
  funext c
  rw [StateExcept.bind_of_ok (hget c), StateExcept.bind_of_ok (hget c), pushValue, bind_assoc,
    StateExcept.bind_apply, StateExcept.bind_apply]
  cases hpush : pushByte (msb (f c.regFile)) c with
  | error e => rfl
  | ok r =>
    obtain ⟨u, c₁⟩ := r
    show (get >>= fun w => pushByte (lsb w) >>= fun _ => k) c₁ = _
    rw [StateExcept.bind_of_ok (hget c₁), pushByte_regFile hpush, hf]
    rfl

theorem pushPc (k : CpuM σ Unit) : (do
      pushByte (msb (← getPc))
      pushByte (lsb (← getPc))
      k) = getPc >>= fun w => pushValue w >>= fun _ => k :=
  pushHalves RegFile.pc (fun _ => rfl) (fun _ _ => rfl) k

theorem popHalves {α : Type} (k : U16 → CpuM σ α) : (do
      let lo ← popByte
      let hi ← popByte
      k (hi.setWidth 16 <<< 8 ||| lo.setWidth 16)) = popValue >>= k := by
  simp only [popValue, bind_assoc, pure_bind, word_of_halves]

end Cpu

/-! ## Loads, stores and sums -/

theorem inc_out : ∀ v : U8, AluOut.sum v 1#8 0 =
    { value := v + 1
      subtract := false
      half := ((v + 1) &&& 0x0F) == 0
      carry := v == 0xFF } := by decide

theorem dec_out : ∀ v : U8, AluOut.difference v 1#8 0 =
    { value := v - 1
      subtract := true
      half := ((v - 1) &&& 0x0F) == 0x0F
      carry := v == 0 } := by decide

namespace Cpu

variable {σ : Type} [BusPort σ]

theorem instrInc_eq (r : Reg8) : (instrInc r : CpuM σ Unit) = (Outer.inc (.reg r)).run := by
  funext c
  simp [instrInc, Outer.run, countProgram, Operand.read, Operand.write, Operand.clkCycles,
    inc_out, RegFile.flagC_eq]

theorem instrDec_eq (r : Reg8) : (instrDec r : CpuM σ Unit) = (Outer.dec (.reg r)).run := by
  funext c
  simp [instrDec, Outer.run, countProgram, Operand.read, Operand.write, Operand.clkCycles,
    dec_out, RegFile.flagC_eq]

theorem instrIncAddr_eq : (instrIncAddr .hl : CpuM σ Unit) = (Outer.inc .atHl).run := by
  funext c
  simp [instrIncAddr, Outer.run, countProgram, Operand.read, Operand.write, Operand.clkCycles,
    inc_out, RegFile.flagC_eq]

theorem instrDecAddr_eq : (instrDecAddr .hl : CpuM σ Unit) = (Outer.dec .atHl).run := by
  funext c
  simp [instrDecAddr, Outer.run, countProgram, Operand.read, Operand.write, Operand.clkCycles,
    dec_out, RegFile.flagC_eq]

theorem instrAddHl_eq (r : Reg16) : (instrAddHl r : CpuM σ Unit) = (Outer.addHl r).run := by
  funext c
  simp [instrAddHl, Outer.run, sum_value, carry_of_wrapped, half_of_masks, RegFile.flagZ_eq]

theorem instrAddSp_eq : (instrAddSp : CpuM σ Unit) = Outer.addSp.run := by
  funext c
  simp [instrAddSp, Outer.run, displaced_value, carryInto_half, carryInto_carry]

theorem instrLoadHlSpRel_eq : (instrLoadHlSpRel : CpuM σ Unit) = Outer.ldHlSp.run := by
  funext c
  simp [instrLoadHlSpRel, Outer.run, displaced_value, carryInto_half, carryInto_carry]

/-! ## A and the flags -/

theorem instrRlca_eq : (instrRlca : CpuM σ Unit) = (Outer.rotA .rlca).run := by
  funext c
  simp [instrRlca, Outer.run, RotA.shift, rlc_out]

/-- RRCA moves bit 0 by a mask and a shift. -/
theorem rrca_out : ∀ v c, ShiftOp.out .rrc v c =
    (v >>> 1 ||| (v &&& GbConst.kMaskBit0) <<< 7, (v &&& GbConst.kMaskBit0) != 0) := by decide

theorem instrRrca_eq : (instrRrca : CpuM σ Unit) = (Outer.rotA .rrca).run := by
  funext c
  simp [instrRrca, Outer.run, RotA.shift, rrca_out]

theorem instrRotLeftA_eq : (instrRotLeftA : CpuM σ Unit) = (Outer.rotA .rla).run := by
  funext c
  simp [instrRotLeftA, Outer.run, RotA.shift, rl_out]

/-- RRA moves the old carry by a shift. -/
theorem rra_out : ∀ v c, ShiftOp.out .rr v c =
    (v >>> 1 ||| Cpu.byteIf c 1 <<< 7, (v &&& GbConst.kMaskBit0) != 0) := by decide

theorem instrRra_eq : (instrRra : CpuM σ Unit) = (Outer.rotA .rra).run := by
  funext c
  simp [instrRra, Outer.run, RotA.shift, rra_out]

theorem instrComplement_eq : (instrComplement : CpuM σ Unit) = Outer.cpl.run := by
  funext c
  simp [instrComplement, Outer.run, RegFile.flagC_eq, RegFile.flagZ_eq]

theorem instrSCF_eq : (instrSCF : CpuM σ Unit) = Outer.scf.run := by
  funext c
  simp [instrSCF, Outer.run, RegFile.flagZ_eq]

theorem instrCCF_eq : (instrCCF : CpuM σ Unit) = Outer.ccf.run := by
  funext c
  simp [instrCCF, Outer.run, RegFile.flagC_eq, RegFile.flagZ_eq]

/-! ## Jumps, calls and returns -/

theorem instrJump_eq : (instrJump : CpuM σ Unit) = (Outer.jr none).run := by
  funext c
  simp [instrJump, Outer.run, jumpProgram, relTarget_eq]

theorem execute_jumpIf [Kernel σ] (fuel : Nat) (cond : Cond) :
    (execute fuel (.jumpIf cond) : CpuM σ Unit) = (Outer.jr (some cond)).run := by
  funext c
  cases h : cond.test c.regFile <;>
    simp [execute, instrJumpIf, Outer.run, jumpProgram, relTarget_eq, h]

theorem instrJumpAddr_eq : (instrJumpAddr : CpuM σ Unit) = (Outer.jp none).run := by
  funext c
  simp [instrJumpAddr, Outer.run, jumpProgram, fetchNext2InstrBytes_eq]

theorem execute_jumpAddrIf [Kernel σ] (fuel : Nat) (cond : Cond) :
    (execute fuel (.jumpAddrIf cond) : CpuM σ Unit) = (Outer.jp (some cond)).run := by
  funext c
  cases h : cond.test c.regFile <;>
    simp [execute, instrJumpAddrIf, Outer.run, jumpProgram, fetchNext2InstrBytes_eq, h]

theorem instrCall_eq : (instrCall : CpuM σ Unit) = (Outer.call none).run := by
  funext c
  simp [instrCall, Outer.run, fetchNext2InstrBytes_eq, pushPc]

theorem execute_callIf [Kernel σ] (fuel : Nat) (cond : Cond) :
    (execute fuel (.callIf cond) : CpuM σ Unit) = (Outer.call (some cond)).run := by
  funext c
  cases h : cond.test c.regFile <;>
    simp [execute, instrCallIf, Outer.run, fetchNext2InstrBytes_eq, pushPc, h]

theorem instrRet_eq : (instrRet : CpuM σ Unit) = (Outer.ret none).run := by
  funext c
  simp [instrRet, Outer.run, popHalves fun w => setPc w >>= fun _ => setWaitNs 16]

theorem execute_retIf [Kernel σ] (fuel : Nat) (cond : Cond) :
    (execute fuel (.retIf cond) : CpuM σ Unit) = (Outer.ret (some cond)).run := by
  funext c
  cases h : cond.test c.regFile <;>
    simp [execute, instrRetIf, Outer.run, popHalves fun w => setPc w >>= fun _ => setWaitNs 20, h]

theorem instrRetI_eq : (instrRetI : CpuM σ Unit) = Outer.reti.run :=
  popHalves fun w => setPc w >>= fun _ => setIntrMasterEnable true >>= fun _ => setWaitNs 16

theorem instrRST_eq (y : Fin 8) :
    (instrRST (BitVec.ofNat 8 (8 * y.val)) : CpuM σ Unit) = (Outer.rst y).run := by
  have htarget : (BitVec.ofNat 8 (8 * y.val)).setWidth 16 = BitVec.ofNat 16 (8 * y.val) := by
    have hy := y.isLt
    apply BitVec.eq_of_toNat_eq
    rw [BitVec.toNat_setWidth, BitVec.toNat_ofNat, BitVec.toNat_ofNat]
    omega
  rw [instrRST, htarget]
  exact pushPc _

theorem instrPush_eq (r : StackReg) : (instrPush r : CpuM σ Unit) = (Outer.push r).run :=
  pushHalves (RegFile.getStack r) (fun _ => rfl) (fun _ _ => by cases r <;> rfl) _

theorem popValue_regFile {w : U16} {c c' : Cpu σ} (h : popValue c = .ok (w, c')) :
    c'.regFile = { c.regFile with sp := c.regFile.sp + 1 + 1 } := by
  obtain ⟨lo, c₁, hlo, h⟩ := StateExcept.bind_eq_ok h
  obtain ⟨hi, c₂, hhi, h⟩ := StateExcept.bind_eq_ok h
  cases h
  rw [popByte_regFile hhi, popByte_regFile hlo]

/-- The nibbles of F after POP AF come from the stack and from F. -/
theorem join_nibbles (v f : U8) :
    (v &&& 0xF0) ||| (f &&& 0x0F) = v.extractLsb' 4 4 ++ f.extractLsb' 0 4 := by
  have hmasks : (0xF0 : U8) = ~~~(0x0F : U8) := rfl
  have hlow : ∀ j < 8, (0x0F : U8).getLsbD j = decide (j < 4) := by decide
  apply BitVec.eq_of_getLsbD_eq
  intro j hj
  simp only [hmasks, BitVec.getLsbD_or, BitVec.getLsbD_and, BitVec.getLsbD_not, hlow j hj, hj,
    BitVec.getLsbD_append, BitVec.getLsbD_extractLsb']
  by_cases hlt : j < 4
  · simp [hlt]
  · have hback : 4 + (j - 4) = j := by omega
    have hnibble : j - 4 < 4 := by omega
    simp [hlt, hback, hnibble]

theorem instrPop_eq (r : StackReg) : (instrPop r : CpuM σ Unit) = (Outer.pop r).run := by
  funext c
  have hpop := popHalves (σ := σ) fun w => (do
    modifyRegs fun rf => rf.setStack r w
    modifyRegs fun rf => { rf with f := (rf.f &&& 0xF0) ||| (c.regFile.f &&& 0x0F) }
    setWaitNs 12)
  refine (StateExcept.bind_of_ok rfl).trans ((congrFun hpop c).trans ?_)
  show _ = (popValue >>= fun w => modifyRegs (RegFile.popped r w) >>= fun _ => setWaitNs 12) c
  rw [StateExcept.bind_apply, StateExcept.bind_apply]
  cases hw : popValue c with
  | error e => rfl
  | ok p =>
    obtain ⟨w, c₁⟩ := p
    have hf : c₁.regFile.f = c.regFile.f := by rw [popValue_regFile hw]
    rw [ok_bind, ok_bind, modifyRegs_bind, modifyRegs_bind, modifyRegs_bind, RegFile.popped,
      withRegs_withRegs, withRegs_regFile, join_nibbles, ← hf]
    rfl

/-! ## Loads and stores -/

theorem instrLoadImm_eq (r : Reg8) :
    (instrLoadImm r : CpuM σ Unit) = (Outer.ldImm (.reg r)).run := rfl

theorem instrStoreImm_eq : (instrStoreImm .hl : CpuM σ Unit) = (Outer.ldImm .atHl).run := by
  funext c
  simp [instrStoreImm, Outer.run, Operand.write, Operand.clkCycles]

theorem instrLoadImm16_eq (r : Reg16) :
    (instrLoadImm16 r : CpuM σ Unit) = (Outer.ldImm16 r).run := by
  rw [instrLoadImm16, fetchNext2InstrBytes_eq]
  rfl

theorem instrLoadH_eq : (instrLoadH .a : CpuM σ Unit) = Outer.loadHigh.run := by
  funext c
  simp [instrLoadH, Outer.run, nextHigh, highPage, cAssert_pos, le_highPage]

theorem instrStoreH_eq : (instrStoreH .a : CpuM σ Unit) = Outer.storeHigh.run := by
  funext c
  simp [instrStoreH, Outer.run, nextHigh, highPage]

theorem instrLoadC_eq : (instrLoadC : CpuM σ Unit) = Outer.loadHighC.run := by
  funext c
  simp [instrLoadC, Outer.run, BitVec.add_comm (65280#16), highPage]

theorem execute_storeHighC [Kernel σ] (fuel : Nat) :
    (execute fuel (.storeHighC .a) : CpuM σ Unit) = Outer.storeHighC.run := by
  funext c
  simp [execute, instrStoreHigh, Outer.run, highPage]

theorem execute_loadFrom [Kernel σ] (fuel : Nat) :
    (execute fuel (.loadFrom .a) : CpuM σ Unit) = Outer.loadAt.run := by
  funext c
  simp [execute, instrLoadFrom, Outer.run, fetchNext2InstrBytes_eq]

theorem instrStoreTo_eq : (instrStoreTo .a : CpuM σ Unit) = Outer.storeAt.run := by
  rw [instrStoreTo, fetchNext2InstrBytes_eq]
  rfl

theorem instrStoreSp_eq : (instrStoreSp : CpuM σ Unit) = Outer.storeSp.run := by
  rw [instrStoreSp, fetchNext2InstrBytes_eq]
  rfl

theorem execute_loadA [Kernel σ] (fuel : Nat) (p : Pointer) :
    (execute fuel (Outer.loadA p).instr : CpuM σ Unit) = (Outer.loadA p).run := by
  funext c
  cases p with
  | bc | de => simp [execute, Outer.instr, instrLoad, Outer.run, Pointer.reg, Pointer.move]
  | hlInc => simp [execute, Outer.instr, instrLoadInc, Outer.run, Pointer.reg, Pointer.move]
  | hlDec => simp [execute, Outer.instr, instrLoadDec, Outer.run, Pointer.reg, Pointer.move]

theorem execute_storeA [Kernel σ] (fuel : Nat) (p : Pointer) :
    (execute fuel (Outer.storeA p).instr : CpuM σ Unit) = (Outer.storeA p).run := by
  funext c
  cases p with
  | bc | de => simp [execute, Outer.instr, instrStore, Outer.run, Pointer.reg, Pointer.move]
  | hlInc => simp [execute, Outer.instr, instrStoreInc, Outer.run, Pointer.reg, Pointer.move]
  | hlDec => simp [execute, Outer.instr, instrStoreDec, Outer.run, Pointer.reg, Pointer.move]

/-! ## All rows -/

/-- The instruction functions do what the rows say. -/
theorem execute_outer [Kernel σ] (fuel : Nat) (row : Outer) :
    (execute fuel row.instr : CpuM σ Unit) = row.run := by
  cases row with
  | nop | di | ei | ldSpHl | inc16 r | dec16 r | jpHl => rfl
  | ldImm x =>
    cases x with
    | reg r => exact instrLoadImm_eq r
    | atHl => exact instrStoreImm_eq
  | ldImm16 r => exact instrLoadImm16_eq r
  | loadA p => exact execute_loadA fuel p
  | storeA p => exact execute_storeA fuel p
  | loadHigh => exact instrLoadH_eq
  | storeHigh => exact instrStoreH_eq
  | loadHighC => exact instrLoadC_eq
  | storeHighC => exact execute_storeHighC fuel
  | loadAt => exact execute_loadFrom fuel
  | storeAt => exact instrStoreTo_eq
  | storeSp => exact instrStoreSp_eq
  | ldHlSp => exact instrLoadHlSpRel_eq
  | inc x =>
    cases x with
    | reg r => exact instrInc_eq r
    | atHl => exact instrIncAddr_eq
  | dec x =>
    cases x with
    | reg r => exact instrDec_eq r
    | atHl => exact instrDecAddr_eq
  | addHl r => exact instrAddHl_eq r
  | addSp => exact instrAddSp_eq
  | aluImm op => exact execute_immInstr fuel op
  | rotA op =>
    cases op with
    | rlca => exact instrRlca_eq
    | rrca => exact instrRrca_eq
    | rla => exact instrRotLeftA_eq
    | rra => exact instrRra_eq
  | daa => exact instrDAA_eq
  | cpl => exact instrComplement_eq
  | scf => exact instrSCF_eq
  | ccf => exact instrCCF_eq
  | jr cond =>
    cases cond with
    | none => exact instrJump_eq
    | some cond => exact execute_jumpIf fuel cond
  | jp cond =>
    cases cond with
    | none => exact instrJumpAddr_eq
    | some cond => exact execute_jumpAddrIf fuel cond
  | call cond =>
    cases cond with
    | none => exact instrCall_eq
    | some cond => exact execute_callIf fuel cond
  | ret cond =>
    cases cond with
    | none => exact instrRet_eq
    | some cond => exact execute_retIf fuel cond
  | reti => exact instrRetI_eq
  | rst y => exact instrRST_eq y
  | push r => exact instrPush_eq r
  | pop r => exact instrPop_eq r

end Cpu

end TlmBoy
