import TlmBoy.Cpu.MachineCycle

/-
  Every instruction is made of the same few blocks.

  `Blocks P` says of a predicate on `CpuM` programs that it goes through sequencing and holds of
  the primitives that the instructions are written in. `execute_of_blocks` is the one induction
  over the instruction set: such a predicate holds of every instruction that it holds of as HALT
  and as EMU. These two wait and stop. POP writes F from memory and is a block of its own.
-/

namespace TlmBoy

namespace Cpu

variable {σ : Type} [BusPort σ]

/-- `P` goes through sequencing and holds of the primitives of the instructions. -/
structure Blocks (P : ∀ {α : Type}, CpuM σ α → Prop) : Prop extends StateExcept.Closed P where
  throw {α : Type} (e : Fault) : P (throw e : CpuM σ α)
  getRegs : P (getRegs : CpuM σ RegFile)
  setReg (r : Reg8) (v : U8) : P (setReg r v : CpuM σ Unit)
  setReg16 (r : Reg16) (v : U16) : P (setReg16 r v : CpuM σ Unit)
  setPc (v : U16) : P (setPc v : CpuM σ Unit)
  setFlagC (v : Bool) : P (setFlagC v : CpuM σ Unit)
  setFlagH (v : Bool) : P (setFlagH v : CpuM σ Unit)
  setFlagN (v : Bool) : P (setFlagN v : CpuM σ Unit)
  setFlagZ (v : Bool) : P (setFlagZ v : CpuM σ Unit)
  setIntrMasterEnable (v : Bool) : P (setIntrMasterEnable v : CpuM σ Unit)
  setWaitNs (n : Nat) : P (setWaitNs n : CpuM σ Unit)
  setGbcmd (cmd : GbCommand) : P (setGbcmd cmd : CpuM σ Unit)
  readBus (addr : U16) (cmd : GbCommand) : P (readBus addr cmd : CpuM σ U8)
  writeBus (addr : U16) (v : U8) : P (writeBus addr v : CpuM σ Unit)
  getIntrMasterEnable : P (getIntrMasterEnable : CpuM σ Bool)
  pendingInterrupts : P (pendingInterrupts : CpuM σ U8)
  clearPending (flag : U8) : P (clearPending flag : CpuM σ Unit)
  pop (r : StackReg) : P (instrPop r : CpuM σ Unit)

namespace Blocks

variable {P : ∀ {α : Type}, CpuM σ α → Prop}

theorem ite (_ : Blocks P) {α : Type} {c : Prop} [Decidable c] {m m' : CpuM σ α} (hm : P m)
    (hm' : P m') : P (if c then m else m') := by
  by_cases hc : c
  · rwa [if_pos hc]
  · rwa [if_neg hc]

theorem getReg (h : Blocks P) (r : Reg8) : P (Cpu.getReg r) :=
  h.bind h.getRegs fun _ => h.pure _

theorem getReg16 (h : Blocks P) (r : Reg16) : P (Cpu.getReg16 r) :=
  h.bind h.getRegs fun _ => h.pure _

theorem getStackReg (h : Blocks P) (r : StackReg) : P (Cpu.getStackReg r) :=
  h.bind h.getRegs fun _ => h.pure _

theorem getPc (h : Blocks P) : P Cpu.getPc := h.bind h.getRegs fun _ => h.pure _

theorem getFlagC (h : Blocks P) : P Cpu.getFlagC := h.bind h.getRegs fun _ => h.pure _

theorem getFlagH (h : Blocks P) : P Cpu.getFlagH := h.bind h.getRegs fun _ => h.pure _

theorem getFlagN (h : Blocks P) : P Cpu.getFlagN := h.bind h.getRegs fun _ => h.pure _

theorem getFlagZ (h : Blocks P) : P Cpu.getFlagZ := h.bind h.getRegs fun _ => h.pure _

theorem assertion (h : Blocks P) {c : Prop} [Decidable c] (text : String) :
    P (liftM (cAssert c text) : CpuM σ Unit) := by
  by_cases hc : c
  · rw [cAssert_pos hc]
    exact h.pure ()
  · rw [cAssert_neg hc]
    exact h.throw _

theorem evalCond (h : Blocks P) (cond : Cond) : P (Cpu.evalCond cond) := by
  cases cond with
  | nz => exact h.bind h.getFlagZ fun _ => h.pure _
  | z => exact h.getFlagZ
  | nc => exact h.bind h.getFlagC fun _ => h.pure _
  | c => exact h.getFlagC

theorem fetchNextInstrByte (h : Blocks P) : P Cpu.fetchNextInstrByte :=
  h.bind h.getPc fun _ => h.bind (h.readBus _ _) fun _ => h.bind h.getPc fun _ =>
    h.bind (h.setPc _) fun _ => h.pure _

theorem fetchNext2InstrBytes (h : Blocks P) : P Cpu.fetchNext2InstrBytes :=
  h.bind (h.setGbcmd _) fun _ => h.bind h.getPc fun _ => h.bind (h.readBus _ _) fun _ =>
    h.bind h.getPc fun _ => h.bind (h.setPc _) fun _ => h.bind h.getPc fun _ =>
      h.bind (h.readBus _ _) fun _ => h.bind h.getPc fun _ => h.bind (h.setPc _) fun _ => h.pure _

theorem pushByte (h : Blocks P) (v : U8) : P (Cpu.pushByte v) :=
  h.bind (h.getReg16 _) fun _ => h.bind (h.setReg16 _ _) fun _ =>
    h.bind (h.getReg16 _) fun _ => h.writeBus _ _

theorem popByte (h : Blocks P) : P Cpu.popByte :=
  h.bind (h.getReg16 _) fun _ => h.bind (h.readBus _ _) fun _ => h.bind (h.getReg16 _) fun _ =>
    h.bind (h.setReg16 _ _) fun _ => h.pure _

theorem instrPush (h : Blocks P) (r : StackReg) : P (Cpu.instrPush r) :=
  h.bind (h.getStackReg r) fun _ => h.bind (h.pushByte _) fun _ => h.bind (h.getStackReg r) fun _ =>
    h.bind (h.pushByte _) fun _ => h.setWaitNs _

end Blocks

/-! ## Frames -/

/-- A predicate that holds of every change of the registers, whatever it is. POP is then made of
    the other blocks. -/
theorem blocks_of_modifyRegs {P : ∀ {α : Type}, CpuM σ α → Prop} (h : StateExcept.Closed P)
    (hthrow : ∀ {α : Type} (e : Fault), P (throw e : CpuM σ α))
    (hregs : P (getRegs : CpuM σ RegFile))
    (hmodify : ∀ f : RegFile → RegFile, P (modifyRegs f : CpuM σ Unit))
    (hime : ∀ v, P (setIntrMasterEnable v : CpuM σ Unit))
    (hwait : ∀ n, P (setWaitNs n : CpuM σ Unit)) (hcmd : ∀ cmd, P (setGbcmd cmd : CpuM σ Unit))
    (hread : ∀ addr cmd, P (readBus addr cmd : CpuM σ U8))
    (hwrite : ∀ addr v, P (writeBus addr v : CpuM σ Unit))
    (hgetIme : P (getIntrMasterEnable : CpuM σ Bool))
    (hpending : P (pendingInterrupts : CpuM σ U8))
    (hclear : ∀ flag, P (clearPending flag : CpuM σ Unit)) : Blocks P := by
  have hget16 : ∀ r, P (getReg16 r : CpuM σ U16) := fun _ => h.bind hregs fun _ => h.pure _
  have hpopByte : P (popByte : CpuM σ U8) :=
    h.bind (hget16 _) fun _ => h.bind (hread _ _) fun _ => h.bind (hget16 _) fun _ =>
      h.bind (hmodify _) fun _ => h.pure _
  exact
    { toClosed := h
      throw := hthrow
      getRegs := hregs
      setReg := fun _ _ => hmodify _
      setReg16 := fun _ _ => hmodify _
      setPc := fun _ => hmodify _
      setFlagC := fun _ => hmodify _
      setFlagH := fun _ => hmodify _
      setFlagN := fun _ => hmodify _
      setFlagZ := fun _ => hmodify _
      setIntrMasterEnable := hime
      setWaitNs := hwait
      setGbcmd := hcmd
      readBus := hread
      writeBus := hwrite
      getIntrMasterEnable := hgetIme
      pendingInterrupts := hpending
      clearPending := hclear
      pop := fun _ => h.bind hregs fun _ => h.bind hpopByte fun _ => h.bind hpopByte fun _ =>
        h.bind (hmodify _) fun _ => h.bind (hmodify _) fun _ => hwait _ }

/-- The members that only the loop and the debugger change. -/
def loopMembers (c : Cpu σ) : GdbServer × Bool × Bool × Nat :=
  (c.gdbServer, c.halted, c.singleStep, c.localTimeDelta)

def SameLoopMembers (c c' : Cpu σ) : Prop := c'.loopMembers = c.loopMembers

instance : Std.Refl (SameLoopMembers (σ := σ)) := ⟨fun _ => rfl⟩

instance : IsTrans (Cpu σ) SameLoopMembers := ⟨fun _ _ _ h h' => h'.trans h⟩

/-- A relation between states that only the loop and the debugger make differ. -/
theorem frame_blocks {R : Cpu σ → Cpu σ → Prop} [Std.Refl R] [IsTrans (Cpu σ) R]
    (hR : ∀ c c', SameLoopMembers c c' → R c c') :
    Blocks fun m : CpuM σ _ => StateExcept.Keeps R m := by
  refine blocks_of_modifyRegs (StateExcept.Keeps.closed _) ?_ ?_ ?_ ?_ ?_ ?_ ?_ ?_ ?_ ?_ ?_
  · intro α e c a c' h
    cases h
  · exact StateExcept.Keeps.of_reads fun _ => rfl
  · exact fun f => StateExcept.Keeps.of_modifies (fun _ => rfl) fun _ => hR _ _ rfl
  · exact fun v => StateExcept.Keeps.of_modifies (fun _ => rfl) fun _ => hR _ _ rfl
  · exact fun n => StateExcept.Keeps.of_modifies (fun _ => rfl) fun _ => hR _ _ rfl
  · exact fun cmd => StateExcept.Keeps.of_modifies (fun _ => rfl) fun _ => hR _ _ rfl
  · exact fun addr cmd => StateExcept.Keeps.of_map (fun _ => rfl) fun _ _ => hR _ _ rfl
  · exact fun addr v => StateExcept.Keeps.of_map (fun _ => rfl) fun _ _ => hR _ _ rfl
  · exact StateExcept.Keeps.of_reads fun _ => rfl
  · exact StateExcept.Keeps.of_reads fun _ => rfl
  · exact fun flag => StateExcept.Keeps.of_modifies (fun _ => rfl) fun _ => hR _ _ rfl

theorem loopMembers_blocks : Blocks fun m : CpuM σ _ => StateExcept.Keeps SameLoopMembers m :=
  frame_blocks fun _ _ h => h

/-! ## The instruction set -/

/-- A predicate that goes through the blocks holds of every instruction, if it does of HALT and
    EMU. -/
theorem execute_of_blocks [Kernel σ] {P : ∀ {α : Type}, CpuM σ α → Prop} (h : Blocks P) (fuel : Nat)
    (instr : Instr) (hhalt : instr = .halt → P (instrHalt fuel : CpuM σ Unit))
    (hemu : instr = .emu → P (instrEmu : CpuM σ Unit)) : P (execute fuel instr) := by
  cases instr with
  | halt => exact hhalt rfl
  | emu => exact hemu rfl
  | pop reg => exact h.pop reg
  | push reg => exact h.instrPush reg
  | nop => exact h.setWaitNs _
  | _ =>
    dsimp only [execute, instrJumpIf, instrRetIf, instrDAA]
    -- What is left of an instruction is a primitive, a sequence or a conditional.
    repeat' first
      | with_reducible refine h.bind ?_ fun _ => ?_
      | with_reducible exact h.getReg _
      | with_reducible exact h.setFlagC _
      | with_reducible exact h.setFlagH _
      | with_reducible exact h.setFlagN _
      | with_reducible exact h.setFlagZ _
      | with_reducible exact h.setWaitNs _
      | with_reducible exact h.setReg _ _
      | with_reducible exact h.getReg16 _
      | with_reducible exact h.readBus _ _
      | with_reducible exact h.writeBus _ _
      | with_reducible exact h.setReg16 _ _
      | with_reducible exact h.getFlagC
      | with_reducible exact h.fetchNextInstrByte
      | with_reducible exact h.fetchNext2InstrBytes
      | with_reducible exact h.evalCond _
      | with_reducible exact h.getPc
      | with_reducible exact h.setPc _
      | with_reducible exact h.pushByte _
      | with_reducible exact h.popByte
      | with_reducible exact h.getFlagH
      | with_reducible exact h.getFlagN
      | with_reducible exact h.getFlagZ
      | with_reducible exact h.setIntrMasterEnable _
      | with_reducible exact h.assertion _
      | with_reducible exact h.throw _
      | with_reducible exact h.pure _
      | with_reducible refine h.ite ?_ ?_
      | refine h.bind ?_ fun _ => ?_

/-- The only HALT and EMU are the cases 0x76 and 0xD3 of the outer switch. -/
theorem jumpTable_halt : ∀ byte, jumpTable byte = .halt → byte = 0x76 := by decide +kernel

theorem jumpTable_emu : ∀ byte, jumpTable byte = .emu → byte = 0xD3 := by decide +kernel

theorem jumpTableCb_plain : ∀ byte, jumpTableCb byte ≠ .halt ∧ jumpTableCb byte ≠ .emu := by
  decide +kernel

/-- A predicate that goes through the blocks holds of decoding and executing a byte. -/
theorem decodeExecute_of_blocks [Kernel σ] {P : ∀ {α : Type}, CpuM σ α → Prop} (h : Blocks P)
    (fuel : Nat) (instrByte : U8) (hhalt : instrByte = 0x76 → P (instrHalt fuel : CpuM σ Unit))
    (hemu : instrByte = 0xD3 → P (instrEmu : CpuM σ Unit)) : P (decodeExecute fuel instrByte) :=
  h.ite
    (h.bind h.fetchNextInstrByte fun byte => execute_of_blocks h fuel _
      (fun heq => absurd heq (jumpTableCb_plain byte).1)
      fun heq => absurd heq (jumpTableCb_plain byte).2)
    (execute_of_blocks h fuel _ (fun heq => hhalt (jumpTable_halt _ heq))
      fun heq => hemu (jumpTable_emu _ heq))

/-- A predicate that goes through the blocks holds of HALT, if it does of waiting. -/
theorem Blocks.instrHalt [Kernel σ] {P : ∀ {α : Type}, CpuM σ α → Prop} (h : Blocks P)
    (hwait : ∀ t, P (kernelWait t : CpuM σ Unit)) (fuel : Nat) :
    P (Cpu.instrHalt fuel : CpuM σ Unit) := by
  induction fuel with
  | zero => exact h.throw _
  | succ fuel ih =>
    exact h.bind (hwait _) fun _ => h.bind h.pendingInterrupts fun _ => h.ite ih (h.pure ())

section Loop

variable [Kernel σ] {R : Cpu σ → Cpu σ → Prop} [Std.Refl R] [IsTrans (Cpu σ) R]

omit [Std.Refl R] [IsTrans (Cpu σ) R] in
/-- EMU keeps what setting the verdict and stopping the simulation keep. -/
theorem keeps_instrEmu (h : Blocks fun m : CpuM σ _ => StateExcept.Keeps R m)
    (hverdict : ∀ c v, R c { c with cpuState := v })
    (hstop : ∀ c : Cpu σ, R c { c with initSocket := { c.initSocket with
      sys := Kernel.stop c.initSocket.sys } }) :
    StateExcept.Keeps R (instrEmu : CpuM σ Unit) := by
  refine h.bind (h.getReg .b) fun v => ?_
  split
  · exact StateExcept.Keeps.of_modifies (fun _ => rfl) fun c => hverdict c .testPassed
  · exact StateExcept.Keeps.of_modifies (fun _ => rfl) fun c => hverdict c .testFailed
  · exact StateExcept.Keeps.of_modifies (fun _ => rfl) hstop
  · exact h.pure ()

omit [BusPort σ] in
/-- The end of the loop keeps what waiting and setting the accumulated time keep. -/
theorem keeps_accountTime (hwait : ∀ t, StateExcept.Keeps R (kernelWait t : CpuM σ Unit))
    (htime : ∀ c n, R c { c with localTimeDelta := n }) :
    StateExcept.Keeps R (accountTime : CpuM σ Unit) := by
  have hclosed := StateExcept.Keeps.closed (ε := Fault) R
  refine hclosed.bind (StateExcept.Keeps.of_modifies (fun _ => rfl) fun c => htime c _) fun _ => ?_
  refine hclosed.bind (StateExcept.Keeps.of_reads fun _ => rfl) fun _ => ?_
  exact hclosed.ite (hclosed.bind (hwait _) fun _ =>
    StateExcept.Keeps.of_modifies (fun _ => rfl) fun c => htime c 0) (hclosed.pure ())

/-- The loop from the fetch on. -/
theorem keeps_fetched (h : Blocks fun m : CpuM σ _ => StateExcept.Keeps R m)
    (hwait : ∀ t, StateExcept.Keeps R (kernelWait t : CpuM σ Unit))
    (hemu : StateExcept.Keeps R (instrEmu : CpuM σ Unit))
    (htime : ∀ c n, R c { c with localTimeDelta := n }) (fuel : Nat) (go : Bool) :
    StateExcept.Keeps R (if go = true then
      fetchNextInstrByte >>= fun instrByte => decodeExecute fuel instrByte >>= fun _ => accountTime
    else pure () : CpuM σ Unit) :=
  h.ite (h.bind h.fetchNextInstrByte fun instrByte =>
    h.bind (decodeExecute_of_blocks h fuel instrByte (fun _ => h.instrHalt hwait fuel)
      fun _ => hemu) fun _ => keeps_accountTime hwait htime) (h.pure ())

end Loop

/-- A predicate that goes through the blocks holds of the interrupt dispatch. -/
theorem handleInterrupts_of_blocks {P : ∀ {α : Type}, CpuM σ α → Prop} (h : Blocks P) :
    P (handleInterrupts : CpuM σ Unit) := by
  have hisr : ∀ vector flag, P (enterIsr vector flag : CpuM σ Unit) := fun vector flag =>
    h.bind (h.setPc vector) fun _ => h.clearPending flag
  refine h.bind h.getIntrMasterEnable fun ime => h.ite (h.pure ()) ?_
  refine h.bind h.pendingInterrupts fun intr => h.ite ?_ (h.pure ())
  refine h.bind (h.setIntrMasterEnable false) fun _ => h.bind (h.instrPush .pc) fun _ => ?_
  exact h.ite (hisr _ _) (h.ite (hisr _ _) (h.ite (hisr _ _)
    (h.ite (hisr _ _) (h.ite (hisr _ _) (h.pure ())))))

end Cpu

end TlmBoy
