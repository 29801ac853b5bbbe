import TlmBoy.Cpu.Clock
import TlmBoy.Cpu.InstrTime
import TlmBoy.Cpu.StackRuns
import TlmBoy.Lib.Metered

/-
  Virtual time over the iterations of `Cpu::DoMachineCycle`.

  `charged` is what an iteration should take: the cost of the interrupt dispatch and the cost of
  the instruction, or the wait at a breakpoint. `wait_ns_` holds one cost only. The loop clears it
  before `HandleInterrupts`, whose PUSH sets it to 16 clock cycles, and then the instruction
  assigns its own cost. So the iteration takes what it is charged, unless an interrupt is
  dispatched and the instruction then executed is one that assigns (`LosesDispatch`): any but HALT
  and EMU. `timeAddsUp_iff` puts this over whole runs.
-/

namespace TlmBoy

/-- The instruction assigns `wait_ns_`. -/
def Instr.AssignsWaitNs (instr : Instr) : Prop := instr ≠ .halt ∧ instr ≠ .emu

instance (instr : Instr) : Decidable instr.AssignsWaitNs :=
  inferInstanceAs (Decidable (_ ∧ _))

namespace Cpu

variable {σ : Type}

/-! ## The parts of an iteration -/

section Parts

variable [BusPort σ]

/-- The instruction of a fetched byte. Behind the prefix 0xCB a second byte is fetched. -/
def decodeInstr (instrByte : U8) : CpuM σ Instr := do
  if instrByte = 0xCB then
    return jumpTableCb (← fetchNextInstrByte)
  else
    return jumpTable instrByte

/-- Fetch and decode. -/
def fetchInstr : CpuM σ Instr := do
  decodeInstr (← fetchNextInstrByte)

variable [Kernel σ]

theorem decodeExecute_eq (fuel : Nat) (instrByte : U8) :
    (decodeExecute fuel instrByte : CpuM σ Unit) = decodeInstr instrByte >>= execute fuel := by
  unfold decodeExecute decodeInstr
  split
  · rw [bind_assoc]
    simp only [pure_bind]
  · rw [pure_bind]

variable [Debugger σ]

/-- What an iteration does once the messages are handled in `m`. -/
inductive Iteration (fuel : Nat) (m c' : Cpu σ) : Prop
  | halted (hhalted : m.halted = true) (hend : c' = m)
  | stops (t : Cpu σ) (hrun : m.halted = false) (hbp : m.regFile.pc ∈ m.gdbServer.bpSet)
      (hsend : sendBpReached { m with halted := true } = .ok ((), t))
      (hwait : kernelWait (4 * GbConst.kNsPerClkCycle) t = .ok ((), c'))
  | executes (s : Cpu σ) (instr : Instr) (t u : Cpu σ) (hrun : m.halted = false)
      (hbp : m.regFile.pc ∉ m.gdbServer.bpSet)
      (hintr : handleInterrupts { m with waitNs := 0 } = .ok ((), s))
      (hfetch : fetchInstr s = .ok (instr, t)) (hexecute : execute fuel instr t = .ok ((), u))
      (haccount : accountTime u = .ok ((), c'))

theorem cycle_cases {fuel : Nat} {c c' : Cpu σ} (h : cycle fuel c = .ok c') :
    ∃ m, AfterMessages c m ∧ Iteration fuel m c' := by
  obtain ⟨⟨_, d⟩, hrun, rfl⟩ := StateExcept.map_eq_ok h
  obtain ⟨go, s, hhead, hrest⟩ := StateExcept.bind_eq_ok hrun
  obtain ⟨_, m, hpoll, hhead⟩ := StateExcept.bind_eq_ok hhead
  refine ⟨m, hpoll, ?_⟩
  by_cases hhalted : m.halted = true
  · rw [headAfterMessages_halted m hhalted] at hhead
    cases hhead
    cases hrest
    exact .halted hhalted rfl
  have hgo : m.halted = false := Bool.eq_false_iff.mpr hhalted
  by_cases hbp : m.regFile.pc ∈ m.gdbServer.bpSet
  · rw [headAfterMessages_bp m hgo hbp] at hhead
    obtain ⟨_, t, hsend, hhead⟩ := StateExcept.bind_eq_ok hhead
    obtain ⟨_, t', hwait, hhead⟩ := StateExcept.bind_eq_ok hhead
    cases hhead
    cases hrest
    exact .stops t hgo hbp hsend hwait
  · rw [headAfterMessages_go m hgo hbp] at hhead
    obtain ⟨_, s', hintr, hhead⟩ := StateExcept.bind_eq_ok hhead
    cases hhead
    obtain ⟨instrByte, s₁, hbyte, hrest⟩ := StateExcept.bind_eq_ok hrest
    obtain ⟨_, u, hdecode, haccount⟩ := StateExcept.bind_eq_ok hrest
    rw [decodeExecute_eq] at hdecode
    obtain ⟨instr, t, hinstr, hexecute⟩ := StateExcept.bind_eq_ok hdecode
    have hfetch : fetchInstr s = .ok (instr, t) := (StateExcept.bind_of_ok hbyte).trans hinstr
    exact .executes s instr t u hgo hbp hintr hfetch hexecute haccount

end Parts

/-! ## `wait_ns_` -/

def SameWaitNs (c c' : Cpu σ) : Prop := c'.waitNs = c.waitNs

instance : Std.Refl (SameWaitNs (σ := σ)) := ⟨fun _ => rfl⟩

instance : IsTrans (Cpu σ) SameWaitNs := ⟨fun _ _ _ h h' => h'.trans h⟩

theorem waitNs_closed :
    StateExcept.Closed fun m : CpuM σ _ => StateExcept.Keeps SameWaitNs m :=
  StateExcept.Keeps.closed _

section WaitNs

variable [BusPort σ]

theorem fetchNextInstrByte_waitNs :
    StateExcept.Keeps SameWaitNs (fetchNextInstrByte : CpuM σ U8) := by
  refine waitNs_closed.bind (StateExcept.Keeps.of_reads (m := getPc) fun _ => rfl) fun pc => ?_
  refine waitNs_closed.bind ?_ fun v => ?_
  · exact StateExcept.Keeps.of_map (m := readBus _ _) (fun _ => rfl) fun _ _ => rfl
  refine waitNs_closed.bind (StateExcept.Keeps.of_reads (m := getPc) fun _ => rfl) fun pc => ?_
  refine waitNs_closed.bind ?_ fun _ => waitNs_closed.pure v
  exact StateExcept.Keeps.of_modifies (m := setPc _) (fun _ => rfl) fun _ => rfl

theorem fetchInstr_waitNs : StateExcept.Keeps SameWaitNs (fetchInstr : CpuM σ Instr) := by
  refine waitNs_closed.bind fetchNextInstrByte_waitNs fun instrByte => ?_
  exact waitNs_closed.ite
    (waitNs_closed.bind fetchNextInstrByte_waitNs fun _ => waitNs_closed.pure _)
    (waitNs_closed.pure _)

theorem fetchInstr_time [Kernel σ] [HasClock σ] :
    StateExcept.Keeps SameTime (fetchInstr : CpuM σ Instr) := by
  refine time_blocks.bind time_blocks.fetchNextInstrByte fun instrByte => ?_
  exact time_blocks.ite (time_blocks.bind time_blocks.fetchNextInstrByte fun _ =>
    time_blocks.pure _) (time_blocks.pure _)

theorem enterIsr_waitNs (vector : U16) (flag : U8) :
    StateExcept.Keeps SameWaitNs (enterIsr vector flag : CpuM σ Unit) :=
  StateExcept.Keeps.of_modifies (fun _ => rfl) fun _ => rfl

theorem selectIsr_waitNs (intr : U8) :
    StateExcept.Keeps SameWaitNs (selectIsr intr : CpuM σ Unit) := by
  refine waitNs_closed.ite (enterIsr_waitNs _ _) ?_
  refine waitNs_closed.ite (enterIsr_waitNs _ _) ?_
  refine waitNs_closed.ite (enterIsr_waitNs _ _) ?_
  refine waitNs_closed.ite (enterIsr_waitNs _ _) ?_
  exact waitNs_closed.ite (enterIsr_waitNs _ _) (waitNs_closed.pure ())

/-- A dispatch leaves the cost of its PUSH. -/
theorem handleInterrupts_waitNs {c c' : Cpu σ} {u : Unit} (h : handleInterrupts c = .ok (u, c')) :
    c'.waitNs = if c.Interrupted then 16 * GbConst.kNsPerClkCycle else c.waitNs := by
  by_cases hintr : c.Interrupted
  · rw [handleInterrupts_enabled c hintr.1, if_pos (bne_iff_ne.mpr hintr.2)] at h
    obtain ⟨_, c₁, hset, h⟩ := StateExcept.bind_eq_ok h
    obtain ⟨_, c₂, hpush, hselect⟩ := StateExcept.bind_eq_ok h
    have hpushed := Charges.instrPush .pc c₁ _ c₂ hpush
    have hsame := selectIsr_waitNs _ c₂ u c' hselect
    rw [if_pos hintr, ← hpushed]
    exact hsame
  · rw [handleInterrupts_still hintr] at h
    cases h
    rw [if_neg hintr]

omit [BusPort σ] in
theorem instrEmu_waitNs [Kernel σ] : StateExcept.Keeps SameWaitNs (instrEmu : CpuM σ Unit) := by
  refine waitNs_closed.bind (StateExcept.Keeps.of_reads (m := getReg .b) fun _ => rfl) fun v => ?_
  split
  · exact StateExcept.Keeps.of_modifies (fun _ => rfl) fun _ => rfl
  · exact StateExcept.Keeps.of_modifies (fun _ => rfl) fun _ => rfl
  · exact StateExcept.Keeps.of_modifies (fun _ => rfl) fun _ => rfl
  · exact waitNs_closed.pure ()

end WaitNs

/-! ## The cost of an instruction -/

section Costs

variable [BusPort σ] [Kernel σ]

/-- The rounds of HALT's busy-waiting loop, at most `fuel` of them. -/
def haltRounds : Nat → Cpu σ → Nat
  | 0, _ => 0
  | fuel + 1, c =>
    match kernelWait (4 * GbConst.kNsPerClkCycle) c with
    | .ok (_, c') => if c'.intr = 0 then haltRounds fuel c' + 1 else 1
    | .error _ => 0

/-- What an instruction costs that is entered in `t`: what it assigns to `wait_ns_`, or the time
    that HALT waits by itself. EMU costs nothing. -/
def instrNs (fuel : Nat) (instr : Instr) (t : Cpu σ) : Nat :=
  if instr = .halt then haltRounds fuel t * (4 * GbConst.kNsPerClkCycle)
  else (instr.clkCycles t.regFile).getD 0 * GbConst.kNsPerClkCycle

variable [HasClock σ]

/-- HALT takes 4 clock cycles a round, and leaves `wait_ns_`. -/
theorem instrHalt_time (fuel : Nat) {c c' : Cpu σ} {u : Unit} (h : instrHalt fuel c = .ok (u, c')) :
    c'.virtualTime = c.virtualTime + haltRounds fuel c * (4 * GbConst.kNsPerClkCycle) ∧
      c'.waitNs = c.waitNs := by
  induction fuel generalizing c with
  | zero => cases h
  | succ fuel ih =>
    obtain ⟨_, c₁, hwait, h⟩ := StateExcept.bind_eq_ok h
    have htime := kernelWait_time hwait
    have hwaitNs := kernelWait_waitNs hwait
    have htest : (if c₁.intr = 0 then instrHalt fuel else pure () : CpuM σ Unit) c₁ =
      .ok (u, c') := h
    have hrounds : haltRounds (fuel + 1) c = if c₁.intr = 0 then haltRounds fuel c₁ + 1 else 1 := by
      rw [haltRounds, hwait]
    rw [hrounds]
    by_cases hzero : c₁.intr = 0
    · rw [if_pos hzero] at htest ⊢
      obtain ⟨hrest, hsame⟩ := ih htest
      refine ⟨?_, hsame.trans hwaitNs⟩
      rw [hrest, htime, Nat.add_mul, Nat.one_mul, Nat.add_assoc, Nat.add_comm (4 * _)]
    · rw [if_neg hzero] at htest ⊢
      cases htest
      refine ⟨?_, hwaitNs⟩
      rw [htime, Nat.one_mul]

/-- An instruction that assigns `wait_ns_` takes no time by itself, and leaves its cost there. -/
theorem execute_assigns {fuel : Nat} {instr : Instr} {t u : Cpu σ} (hinstr : instr.AssignsWaitNs)
    (h : execute fuel instr t = .ok ((), u)) :
    u.virtualTime = t.virtualTime ∧ u.waitNs = instrNs fuel instr t := by
  have htime : StateExcept.Keeps SameTime (execute fuel instr : CpuM σ Unit) :=
    execute_of_blocks time_blocks fuel instr (fun heq => absurd heq hinstr.1)
      fun heq => absurd heq hinstr.2
  obtain ⟨n, hcost⟩ := clkCycles_of_execute hinstr.1 hinstr.2 h
  refine ⟨htime t () u h, ?_⟩
  rw [execute_waitNs hcost h, instrNs, if_neg hinstr.1, hcost]
  rfl

/-- HALT and EMU leave `wait_ns_`. -/
theorem execute_leaves {fuel : Nat} {instr : Instr} {t u : Cpu σ} (hinstr : ¬ instr.AssignsWaitNs)
    (h : execute fuel instr t = .ok ((), u)) :
    u.virtualTime = t.virtualTime + instrNs fuel instr t ∧ u.waitNs = t.waitNs := by
  by_cases hhalt : instr = .halt
  · subst hhalt
    rw [instrNs, if_pos rfl]
    exact instrHalt_time fuel h
  · obtain rfl : instr = .emu := by
      by_contra hemu
      exact hinstr ⟨hhalt, hemu⟩
    refine ⟨?_, instrEmu_waitNs t () u h⟩
    have hnone : instrNs fuel .emu t = 0 := by
      rw [instrNs, if_neg hhalt]
      exact Nat.zero_mul _
    rw [hnone]
    exact instrEmu_time t () u h

end Costs

/-! ## One iteration -/

section Iterations

variable [BusPort σ] [Kernel σ] [Debugger σ]

/-- The iteration, with its messages handled in `m`, halts the CPU at a breakpoint. -/
def StopsAtBp (m : Cpu σ) : Prop := m.halted = false ∧ m.regFile.pc ∈ m.gdbServer.bpSet

/-- `HandleInterrupts` is called and pushes PC. -/
def PushesPc (m : Cpu σ) : Prop :=
  m.halted = false ∧ m.regFile.pc ∉ m.gdbServer.bpSet ∧ m.Interrupted

omit [Kernel σ] [Debugger σ] [BusPort σ] in
instance (m : Cpu σ) : Decidable m.StopsAtBp := inferInstanceAs (Decidable (_ ∧ _))

omit [Kernel σ] [Debugger σ] in
instance (m : Cpu σ) : Decidable m.PushesPc := inferInstanceAs (Decidable (_ ∧ _))

/-- The instruction that is executed, and the state that it is entered in. -/
def executed (m : Cpu σ) : Option (Instr × Cpu σ) :=
  match headAfterMessages m with
  | .ok (true, s) => (fetchInstr s).toOption
  | _ => none

/-- The cost of the wait at a breakpoint. -/
def stopNs (m : Cpu σ) : Nat := if m.StopsAtBp then 4 * GbConst.kNsPerClkCycle else 0

/-- The cost of a dispatch: that of PUSH. -/
def dispatchNs (m : Cpu σ) : Nat := if m.PushesPc then 16 * GbConst.kNsPerClkCycle else 0

/-- The cost of the executed instruction. -/
def executedNs (fuel : Nat) (m : Cpu σ) : Nat :=
  match executed m with
  | some (instr, t) => instrNs fuel instr t
  | none => 0

/-- What the iteration that starts in `c` is charged: the costs of the dispatch and of the
    instruction. A stop at a breakpoint, which executes none, is charged its wait. -/
def charged (fuel : Nat) (c : Cpu σ) : Nat :=
  match pollMessages c with
  | .ok (_, m) => stopNs m + dispatchNs m + executedNs fuel m
  | .error _ => 0

/-- The cost of a dispatch that the executed instruction overwrites. -/
def lostNs (m : Cpu σ) : Nat :=
  match executed m with
  | some (instr, _) => if instr.AssignsWaitNs then dispatchNs m else 0
  | none => 0

/-- What the iteration that starts in `c` forgets of its charge. -/
def forgotten (c : Cpu σ) : Nat :=
  match pollMessages c with
  | .ok (_, m) => lostNs m
  | .error _ => 0

/-- In the iteration that starts in `c` PC is pushed, and then an instruction is executed that
    assigns `wait_ns_`. -/
def LosesDispatch (c : Cpu σ) : Prop :=
  ∃ m, AfterMessages c m ∧ m.PushesPc ∧
    ∃ instr t, executed m = some (instr, t) ∧ instr.AssignsWaitNs

theorem charged_eq (fuel : Nat) {c m : Cpu σ} (hm : AfterMessages c m) :
    c.charged fuel = m.stopNs + m.dispatchNs + m.executedNs fuel := by
  rw [charged, hm]

theorem forgotten_eq {c m : Cpu σ} (hm : AfterMessages c m) : c.forgotten = m.lostNs := by
  rw [forgotten, hm]

omit [Kernel σ] [Debugger σ] in
theorem dispatchNs_eq_zero_iff (m : Cpu σ) : m.dispatchNs = 0 ↔ ¬ m.PushesPc := by
  unfold dispatchNs
  split
  · rename_i h
    exact ⟨fun hzero => absurd hzero (by decide), fun hn => absurd h hn⟩
  · rename_i h
    exact ⟨fun _ => h, fun _ => rfl⟩

theorem lostNs_eq_zero_iff (m : Cpu σ) : m.lostNs = 0 ↔
    ¬ (m.PushesPc ∧ ∃ instr t, executed m = some (instr, t) ∧ instr.AssignsWaitNs) := by
  unfold lostNs
  cases hexecuted : executed m with
  | none => simp
  | some p =>
    obtain ⟨instr, t⟩ := p
    dsimp only
    by_cases hassigns : instr.AssignsWaitNs
    · rw [if_pos hassigns, dispatchNs_eq_zero_iff]
      exact not_congr ⟨fun h => ⟨h, instr, t, rfl, hassigns⟩, fun h => h.1⟩
    · rw [if_neg hassigns]
      refine ⟨fun _ ⟨_, instr', t', he, h⟩ => ?_, fun _ => rfl⟩
      cases he
      exact hassigns h

/-- An iteration that succeeds forgets nothing exactly if it does not lose its dispatch. -/
theorem forgotten_eq_zero_iff {c m : Cpu σ} (hm : AfterMessages c m) :
    c.forgotten = 0 ↔ ¬ c.LosesDispatch := by
  rw [forgotten_eq hm, lostNs_eq_zero_iff]
  refine not_congr ⟨fun h => ⟨m, hm, h⟩, ?_⟩
  intro ⟨m', hm', h⟩
  rw [AfterMessages, hm] at hm'
  cases hm'
  exact h

theorem executed_halted {m : Cpu σ} (hhalted : m.halted = true) : m.executed = none := by
  rw [executed, headAfterMessages_halted m hhalted]

theorem executed_bp {m t c' : Cpu σ} (hrun : m.halted = false)
    (hbp : m.regFile.pc ∈ m.gdbServer.bpSet)
    (hsend : sendBpReached { m with halted := true } = .ok ((), t))
    (hwait : kernelWait (4 * GbConst.kNsPerClkCycle) t = .ok ((), c')) : m.executed = none := by
  rw [executed, headAfterMessages_bp m hrun hbp, StateExcept.bind_of_ok hsend,
    StateExcept.bind_of_ok hwait]
  rfl

/-- What is executed after the dispatch. -/
theorem executed_eq {m s t : Cpu σ} {instr : Instr} (hrun : m.halted = false)
    (hbp : m.regFile.pc ∉ m.gdbServer.bpSet)
    (hintr : handleInterrupts { m with waitNs := 0 } = .ok ((), s))
    (hfetch : fetchInstr s = .ok (instr, t)) : m.executed = some (instr, t) := by
  rw [executed, headAfterMessages_go m hrun hbp, StateExcept.bind_of_ok hintr]
  show (fetchInstr s).toOption = _
  rw [hfetch]
  rfl

theorem costs_of_none (fuel : Nat) {m : Cpu σ} (hnone : m.executed = none) :
    m.lostNs = 0 ∧ m.executedNs fuel = 0 := by
  rw [lostNs, executedNs, hnone]
  exact ⟨rfl, rfl⟩

theorem costs_of_some (fuel : Nat) {m t : Cpu σ} {instr : Instr}
    (hsome : m.executed = some (instr, t)) :
    m.lostNs = (if instr.AssignsWaitNs then m.dispatchNs else 0) ∧
      m.executedNs fuel = instrNs fuel instr t := by
  rw [lostNs, executedNs, hsome]
  exact ⟨rfl, rfl⟩

omit [Kernel σ] [Debugger σ] in
/-- The instruction is entered with the cost of the dispatch in `wait_ns_`. -/
theorem entered_waitNs {m s t : Cpu σ} {instr : Instr} (hrun : m.halted = false)
    (hbp : m.regFile.pc ∉ m.gdbServer.bpSet)
    (hintr : handleInterrupts { m with waitNs := 0 } = .ok ((), s))
    (hfetch : fetchInstr s = .ok (instr, t)) : t.waitNs = m.dispatchNs := by
  have hpushes : m.PushesPc ↔ m.Interrupted := ⟨fun h => h.2.2, fun h => ⟨hrun, hbp, h⟩⟩
  rw [fetchInstr_waitNs s instr t hfetch, handleInterrupts_waitNs hintr, dispatchNs,
    if_congr hpushes rfl rfl]
  rfl

omit [BusPort σ] in
theorem pollMessages_time [TimelessDebugger σ] {c m : Cpu σ} (hm : AfterMessages c m) :
    m.virtualTime = c.virtualTime := by
  obtain ⟨pending, c₁, hpending, hrest⟩ := StateExcept.bind_eq_ok hm
  rw [isMsgPending_eq] at hpending
  cases hpending
  by_cases hmsg : (c.gdbServer.isAttached && Debugger.dataAvailable c.initSocket.sys) = true
  · rw [if_pos hmsg] at hrest
    obtain ⟨c', hhandle, he⟩ := StateExcept.map_eq_ok hrest
    cases he
    exact TimelessDebugger.handleMessages_time hhandle
  · rw [if_neg hmsg] at hrest
    cases hrest
    rfl

variable [HasClock σ] [TimelessDebugger σ]

omit [BusPort σ] [HasClock σ] in
theorem sendBpReached_time {c c' : Cpu σ} {u : Unit} (h : sendBpReached c = .ok (u, c')) :
    c'.virtualTime = c.virtualTime := by
  obtain ⟨sys, hsys, he⟩ := StateExcept.map_eq_ok h
  cases he
  exact sameTime_of_clock (TimelessDebugger.sendBpReached_time hsys) rfl

/-- An iteration takes what it is charged, less the cost of a dispatch that it forgets. -/
theorem Iteration.time {fuel : Nat} {m c' : Cpu σ} (h : Iteration fuel m c') :
    c'.virtualTime + m.lostNs =
      m.virtualTime + (m.stopNs + m.dispatchNs + m.executedNs fuel) := by
  cases h with
  | halted hhalted hend =>
    have hstop : m.stopNs = 0 := if_neg fun h => Bool.false_ne_true (h.1.symm.trans hhalted)
    have hdispatch : m.dispatchNs = 0 := if_neg fun h =>
      Bool.false_ne_true (h.1.symm.trans hhalted)
    obtain ⟨hlost, hexecuted⟩ := costs_of_none fuel (executed_halted hhalted)
    rw [hend]
    omega
  | stops t hrun hbp hsend hwait =>
    have hstop : m.stopNs = 4 * GbConst.kNsPerClkCycle := if_pos ⟨hrun, hbp⟩
    have hdispatch : m.dispatchNs = 0 := if_neg fun h => h.2.1 hbp
    obtain ⟨hlost, hexecuted⟩ := costs_of_none fuel (executed_bp hrun hbp hsend hwait)
    have hsent := sendBpReached_time hsend
    change t.virtualTime = m.virtualTime at hsent
    have hwaited := kernelWait_time hwait
    omega
  | executes s instr t u hrun hbp hintr hfetch hexecute haccount =>
    have hstop : m.stopNs = 0 := if_neg fun h => hbp h.2
    obtain ⟨hlost, hexecuted⟩ := costs_of_some fuel (executed_eq hrun hbp hintr hfetch)
    have hdispatched : s.virtualTime = m.virtualTime :=
      handleInterrupts_of_blocks time_blocks { m with waitNs := 0 } () s hintr
    have hfetched : t.virtualTime = s.virtualTime := fetchInstr_time s instr t hfetch
    have hentered := entered_waitNs hrun hbp hintr hfetch
    have haccounted := accountTime_time haccount
    by_cases hassigns : instr.AssignsWaitNs
    · rw [if_pos hassigns] at hlost
      obtain ⟨htime, hwaitNs⟩ := execute_assigns hassigns hexecute
      omega
    · rw [if_neg hassigns] at hlost
      obtain ⟨htime, hwaitNs⟩ := execute_leaves hassigns hexecute
      omega

theorem cycle_time {fuel : Nat} {c c' : Cpu σ} (h : cycle fuel c = .ok c') :
    c'.virtualTime + c.forgotten = c.virtualTime + c.charged fuel := by
  obtain ⟨m, hm, hiteration⟩ := cycle_cases h
  rw [charged_eq fuel hm, forgotten_eq hm, ← pollMessages_time hm]
  exact hiteration.time

/-! ## Runs -/

/-- In the run from `c` to `c'` whose iterations start in `ds` every iteration takes what it is
    charged, and the run takes the sum. -/
structure TimeAddsUp (fuel : Nat) (c : Cpu σ) (ds : List (Cpu σ)) (c' : Cpu σ) : Prop where
  iterations : ∀ d ∈ ds, ∀ d', cycle fuel d = .ok d' →
    d'.virtualTime = d.virtualTime + d.charged fuel
  run : c'.virtualTime = c.virtualTime + (ds.map (charged fuel)).sum

/-- The time of a run adds up exactly if none of its iterations forgets a dispatch. -/
theorem timeAddsUp_iff (fuel : Nat) {c c' : Cpu σ} {ds : List (Cpu σ)}
    (hrun : Machine.Run (cycle fuel) c ds c') :
    TimeAddsUp fuel c ds c' ↔ ∀ d ∈ ds, ¬ d.LosesDispatch := by
  have hsum := Machine.Run.meter_eq_iff (fun _ _ h => cycle_time h) hrun
  have hforgets : ∀ d ∈ ds, d.forgotten = 0 ↔ ¬ d.LosesDispatch := by
    intro d hd
    obtain ⟨d', hd'⟩ := hrun.step_ok hd
    obtain ⟨m, hm, -⟩ := cycle_cases hd'
    exact forgotten_eq_zero_iff hm
  constructor
  · intro h d hd
    exact (hforgets d hd).mp (hsum.mp h.run d hd)
  · intro h
    have hzero : ∀ d ∈ ds, d.forgotten = 0 := fun d hd => (hforgets d hd).mpr (h d hd)
    refine ⟨fun d hd d' hd' => ?_, hsum.mpr hzero⟩
    have hone := cycle_time hd'
    rw [hzero d hd] at hone
    exact hone

end Iterations

/-- The machine with a V-Blank requested, with the interrupts disabled. -/
def uninterrupted : Cpu (Timed Gb) := { returnsAtOnce with intrMasterEnable := false }

/-- It executes the NOP at 0x150, and time adds up. -/
theorem uninterrupted_time_addsUp : ∃ c', TimeAddsUp 0 uninterrupted [uninterrupted] c' ∧
    c'.virtualTime = 4 * GbConst.kNsPerClkCycle := by
  have hrun : (cycle 0 uninterrupted).map virtualTime = .ok (4 * GbConst.kNsPerClkCycle) := by rfl
  obtain ⟨c', hc', htime⟩ := StateExcept.map_eq_ok hrun
  refine ⟨c', (timeAddsUp_iff 0 (.single hc')).mpr fun d hd hloses => ?_, htime⟩
  obtain rfl := List.mem_singleton.mp hd
  obtain ⟨m, hm, hpush, -⟩ := hloses
  have hsame : AfterMessages uninterrupted uninterrupted := rfl
  rw [AfterMessages, hsame] at hm
  cases hm
  exact Bool.false_ne_true hpush.2.2.1

/-- The V-Blank is dispatched and a RETI executed: 32 clock cycles, of which 16 pass. -/
theorem dispatch_time_forgotten : ∃ c', Machine.Run (cycle 0) returnsAtOnce [returnsAtOnce] c' ∧
    c'.virtualTime = 16 * GbConst.kNsPerClkCycle ∧
    returnsAtOnce.charged 0 = 32 * GbConst.kNsPerClkCycle ∧
    ¬ TimeAddsUp 0 returnsAtOnce [returnsAtOnce] c' := by
  have hrun : (cycle 0 returnsAtOnce).map virtualTime = .ok (16 * GbConst.kNsPerClkCycle) := by rfl
  have hcharged : returnsAtOnce.charged 0 = 32 * GbConst.kNsPerClkCycle := by rfl
  obtain ⟨c', hc', htime⟩ := StateExcept.map_eq_ok hrun
  refine ⟨c', .single hc', htime, hcharged, fun h => ?_⟩
  have hsum := h.run
  rw [htime, List.map_singleton, List.sum_singleton, hcharged] at hsum
  exact absurd hsum (by decide)

end Cpu

end TlmBoy
