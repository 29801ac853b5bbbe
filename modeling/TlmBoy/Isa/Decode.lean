import TlmBoy.GbTop
import TlmBoy.Isa.Shift
import TlmBoy.Platform

/-
  The regular part of the opcode table: 0x40 to 0xBF, and all of the page behind 0xCB.

  An opcode is read as three fields, x of two bits and y and z of three. `Decoded` is what the
  fields say and `Decoded.run` what that does. The switches of the source name an instruction
  function in each of their cases: `jumpTable_eq` and `jumpTableCb_eq` compare them with the
  decoding, `execute_instr` compares the functions with `Decoded.run`, and `regular_decoding`
  puts them together.
-/

namespace TlmBoy

/-! ## Decoding -/

/-- The operand of a field. -/
def operandTable : Vector Operand 8 :=
  #v[.reg .b, .reg .c, .reg .d, .reg .e, .reg .h, .reg .l, .atHl, .reg .a]

def aluTable : Vector AluOp 8 := #v[.add, .adc, .sub, .sbc, .and, .xor, .or, .cp]

def shiftTable : Vector ShiftOp 8 := #v[.rlc, .rrc, .rl, .rr, .sla, .sra, .swap, .srl]

/-- The fields of an opcode. -/
def fieldX (op : U8) : Nat := op.toNat / 64
def fieldY (op : U8) : Fin 8 := Fin.ofNat 8 (op.toNat / 8)
def fieldZ (op : U8) : Fin 8 := Fin.ofNat 8 op.toNat

inductive Decoded where
  | ld (dst src : Operand)
  | alu (op : AluOp) (src : Operand)
  | shift (op : ShiftOp) (x : Operand)
  | bit (i : Fin 8) (x : Operand)
  | res (i : Fin 8) (x : Operand)
  | set (i : Fin 8) (x : Operand)
deriving DecidableEq, Repr

/-- An opcode from 0x40 to 0xBF. -/
def decode (op : U8) : Decoded :=
  if fieldX op = 1 then .ld (operandTable.get (fieldY op)) (operandTable.get (fieldZ op))
  else .alu (aluTable.get (fieldY op)) (operandTable.get (fieldZ op))

/-- An opcode behind 0xCB. -/
def decodeCb (op : U8) : Decoded :=
  let x := operandTable.get (fieldZ op)
  match fieldX op with
  | 0 => .shift (shiftTable.get (fieldY op)) x
  | 1 => .bit (fieldY op) x
  | 2 => .res (fieldY op) x
  | _ => .set (fieldY op) x

/-! ## The switches of the source -/

namespace Decoded

/-- The instruction of the source that a decoded instruction should be. What would be a load from
    (HL) to (HL) is HALT. -/
def instr (d : Decoded) : Instr :=
  match d with
  | .ld (.reg dst) (.reg src) => .mov dst src
  | .ld (.reg dst) .atHl => .load dst .hl
  | .ld .atHl (.reg src) => .store .hl src
  | .ld .atHl .atHl => .halt
  | .alu op (.reg r) => op.regInstr r
  | .alu op .atHl => op.memInstr .hl
  | .shift op (.reg r) => op.regInstr r
  | .shift op .atHl => op.memInstr .hl
  | .bit i (.reg r) => .bitN i r
  | .bit i .atHl => .bitNAddr i .hl
  | .res i (.reg r) => .resetBit i r
  | .res i .atHl => .resetBitAddr i .hl
  | .set i (.reg r) => .setBitN i r
  | .set i .atHl => .setBitNAddr i .hl

end Decoded

/-- The cases 0x40 to 0xBF of the outer switch are the decoded instructions. -/
theorem jumpTable_eq : ∀ op : U8, 0x40 ≤ op → op ≤ 0xBF → jumpTable op = (decode op).instr := by
  decide +kernel

/-- All cases of the inner switch are the decoded instructions. -/
theorem jumpTableCb_eq : ∀ op : U8, jumpTableCb op = (decodeCb op).instr := by decide +kernel

/-- Only 0x76 decodes to a load from (HL) to (HL). -/
theorem decode_ne_halt : ∀ op : U8, op ≠ 0x76 → decode op ≠ .ld .atHl .atHl := by decide

theorem decodeCb_ne_halt : ∀ op : U8, decodeCb op ≠ .ld .atHl .atHl := by decide

/-! ## What a decoded instruction does -/

namespace Decoded

variable {σ : Type} [BusPort σ]

def run (d : Decoded) : CpuM σ Unit :=
  match d with
  | .ld dst src => do
    dst.write (← src.read)
    Cpu.setWaitNs (dst.clkCycles (src.clkCycles 4 8) 8)
  | .alu op src => Cpu.aluProgram op src.read (src.clkCycles 4 8)
  | .shift op x => Cpu.shiftProgram op x
  | .bit i x => Cpu.bitProgram i x
  | .res i x => Cpu.putBitProgram i false x
  | .set i x => Cpu.putBitProgram i true x

end Decoded

namespace Cpu

variable {σ : Type} [BusPort σ]

theorem instrMov_eq (dst src : Reg8) :
    (instrMov dst src : CpuM σ Unit) = (Decoded.ld (.reg dst) (.reg src)).run := rfl

theorem instrLoad_eq (dst : Reg8) :
    (instrLoad dst .hl : CpuM σ Unit) = (Decoded.ld (.reg dst) .atHl).run := by
  funext c
  simp [instrLoad, Decoded.run, Operand.read, Operand.write, Operand.clkCycles]

theorem instrStore_eq (src : Reg8) :
    (instrStore .hl src : CpuM σ Unit) = (Decoded.ld .atHl (.reg src)).run := by
  funext c
  simp [instrStore, Decoded.run, Operand.read, Operand.write, Operand.clkCycles]

/-- The instruction functions do what the decoded instructions do. -/
theorem execute_instr [Kernel σ] (fuel : Nat) (d : Decoded) (hd : d ≠ .ld .atHl .atHl) :
    (execute fuel d.instr : CpuM σ Unit) = d.run := by
  cases d with
  | ld dst src =>
    cases dst with
    | reg dst =>
      cases src with
      | reg src => exact instrMov_eq dst src
      | atHl => exact instrLoad_eq dst
    | atHl =>
      cases src with
      | reg src => exact instrStore_eq src
      | atHl => exact absurd rfl hd
  | alu op src =>
    cases src with
    | reg r => exact execute_regInstr fuel op r
    | atHl => exact execute_memInstr fuel op .hl
  | shift op x =>
    cases x with
    | reg r => exact execute_shiftReg fuel op r
    | atHl => exact execute_shiftMem fuel op
  | bit i x =>
    cases x with
    | reg r => exact instrBitN_eq i r
    | atHl => exact instrBitNAddr_eq i
  | res i x =>
    cases x with
    | reg r => exact instrResetBit_eq i r
    | atHl => exact instrResetBitAddr_eq i
  | set i x =>
    cases x with
    | reg r => exact instrSetBitN_eq i r
    | atHl => exact instrSetBitNAddr_eq i

/-! ## PC -/

/-- PC is the same. -/
def SamePc (c c' : Cpu σ) : Prop := c'.regFile.pc = c.regFile.pc

instance : Std.Refl (SamePc (σ := σ)) := ⟨fun _ => rfl⟩

instance : IsTrans (Cpu σ) SamePc := ⟨fun _ _ _ h h' => h'.trans h⟩

theorem read_keeps_pc (x : Operand) : StateExcept.Keeps SamePc (x.read : CpuM σ U8) := by
  cases x with
  | reg r => exact StateExcept.Keeps.of_reads fun _ => rfl
  | atHl =>
    refine (StateExcept.Keeps.closed _).bind (StateExcept.Keeps.of_reads fun _ => rfl) fun _ => ?_
    intro c v c' h
    rw [SamePc, readBus_regFile h]

theorem write_keeps_pc (x : Operand) (v : U8) :
    StateExcept.Keeps SamePc (x.write v : CpuM σ Unit) := by
  cases x with
  | reg r =>
    exact StateExcept.Keeps.of_modifies (fun _ => rfl) fun c => RegFile.set_pc r v c.regFile
  | atHl =>
    refine (StateExcept.Keeps.closed _).bind (StateExcept.Keeps.of_reads fun _ => rfl) fun _ => ?_
    intro c u c' h
    rw [SamePc, writeBus_regFile h]

/-- No decoded instruction changes PC. -/
theorem run_keeps_pc (d : Decoded) : StateExcept.Keeps SamePc (d.run : CpuM σ Unit) := by
  have hclosed := StateExcept.Keeps.closed (ε := Fault) (SamePc (σ := σ))
  have hwait : ∀ n, StateExcept.Keeps SamePc (setWaitNs n : CpuM σ Unit) := fun _ =>
    StateExcept.Keeps.of_modifies (fun _ => rfl) fun _ => rfl
  have hflags : ∀ f : RegFile → U8,
      StateExcept.Keeps SamePc (modifyRegs fun rf => rf.withF (f rf) : CpuM σ Unit) := fun _ =>
    StateExcept.Keeps.of_modifies (fun _ => rfl) fun _ => rfl
  have hputBit : ∀ i b (x : Operand),
      StateExcept.Keeps SamePc (putBitProgram i b x : CpuM σ Unit) :=
    fun _ _ x => hclosed.bind (read_keeps_pc x) fun _ => hclosed.bind (write_keeps_pc x _) fun _ =>
      hwait _
  cases d with
  | ld dst src =>
    exact hclosed.bind (read_keeps_pc src) fun _ => hclosed.bind (write_keeps_pc dst _) fun _ =>
      hwait _
  | alu op src =>
    refine hclosed.bind (read_keeps_pc src) fun v => hclosed.bind ?_ fun _ => hwait _
    refine StateExcept.Keeps.of_modifies (fun _ => rfl) fun c => ?_
    have hframe := congrArg RegFile.pc (c.regFile.alu_effect op v).2.2.2.2.2
    exact hframe
  | shift op x =>
    exact hclosed.bind (read_keeps_pc x) fun _ => hclosed.bind
      (StateExcept.Keeps.of_reads fun _ => rfl) fun _ => hclosed.bind (write_keeps_pc x _) fun _ =>
        hclosed.bind (hflags _) fun _ => hwait _
  | bit i x =>
    exact hclosed.bind (read_keeps_pc x) fun _ => hclosed.bind (hflags _) fun _ => hwait _
  | res i x => exact hputBit i false x
  | set i x => exact hputBit i true x

theorem fetchNextInstrByte_pc {c c' : Cpu σ} {v : U8} (h : fetchNextInstrByte c = .ok (v, c')) :
    c'.regFile.pc = c.regFile.pc + 1 := by
  obtain ⟨pc, c₀, hpc, h⟩ := StateExcept.bind_eq_ok h
  cases hpc
  obtain ⟨v, c₁, hread, h⟩ := StateExcept.bind_eq_ok h
  cases h
  show c₁.regFile.pc + 1 = c.regFile.pc + 1
  rw [readBus_regFile hread]

/-! ## The decoding -/

/-- Opcodes from 0x40 to 0xBF but HALT, and all opcodes behind 0xCB, do what their fields say. An
    opcode byte advances PC by one when it is fetched, and nothing else moves PC. -/
theorem regular_decoding [Kernel σ] (fuel : Nat) (op : U8) (hlo : 0x40 ≤ op) (hhi : op ≤ 0xBF)
    (hne : op ≠ 0x76) :
    (decodeExecute fuel op : CpuM σ Unit) = (decode op).run ∧
      (decodeExecute fuel 0xCB : CpuM σ Unit) =
        (fetchNextInstrByte >>= fun opCb => (decodeCb opCb).run) ∧
      (∀ (c : Cpu σ) (v : U8) (c' : Cpu σ), fetchNextInstrByte c = .ok (v, c') →
        c'.regFile.pc = c.regFile.pc + 1) ∧
      (∀ (d : Decoded) (c c' : Cpu σ), d.run c = .ok ((), c') →
        c'.regFile.pc = c.regFile.pc) := by
  refine ⟨?_, ?_, fun c v c' h => fetchNextInstrByte_pc h, fun d c c' h => run_keeps_pc d c () c' h⟩
  · have hcb : op ≠ 0xCB := by
      rintro rfl
      exact absurd hhi (by decide)
    rw [decodeExecute, if_neg hcb, jumpTable_eq op hlo hhi]
    exact execute_instr fuel _ (decode_ne_halt op hne)
  · rw [decodeExecute, if_pos rfl]
    congr 1
    funext opCb
    rw [jumpTableCb_eq]
    exact execute_instr fuel _ (decodeCb_ne_halt opCb)

/-- 0x86 adds the byte at HL to A, and 0xCB 0x37 swaps A. -/
theorem add_hl_decoded :
    (decodeExecute 0 0x86 : CpuM (Timed Gb) Unit) = aluProgram .add (readAt .hl) 8 ∧
      (decodeCb 0x37).run = (shiftProgram .swap (.reg .a) : CpuM (Timed Gb) Unit) :=
  ⟨(regular_decoding 0 0x86 (by decide) (by decide) (by decide)).1, rfl⟩

end Cpu

end TlmBoy
