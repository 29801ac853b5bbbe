import TlmBoy.Cpu.Breakpoints
import TlmBoy.Cpu.Synced

/-
  Temporal decoupling: the batched mode of `Cpu::DoMachineCycle` against the single-step mode.

  In batched mode the CPU waits only when its `local_time_delta_` reaches the next activity of
  another process; in single-step mode it waits after every instruction. Up to the next wait the
  single-step CPU is the batched one with the pending time passed (`InStep`). HALT waits on the
  kernel while that time is still pending, so its busy-waiting samples the interrupts at times
  that lie `local_time_delta_` too early. If no activity falls in between (`HaltAligned`), and if
  `sc_stop` takes effect at once (`WaitDue`), then both modes start the same instructions at the
  same virtual times (`same_instructions`).
-/

namespace TlmBoy

namespace Cpu

/-! ## What is observed -/

/-- An instruction at its fetch, with `sc_time_stamp() + local_time_delta_`. -/
structure Started where
  time : Nat
  pc : U16
  instrByte : U8
deriving DecidableEq, Repr

variable {σ : Type} [Kernel σ]

def virtualTime (c : Cpu σ) : Nat := Kernel.timeStamp c.initSocket.sys + c.localTimeDelta

section

variable [BusPort σ] [Debugger σ]

def getVirtualTime : CpuM σ Nat := do
  return (← get).virtualTime

/-- The instruction that a state is about to fetch. -/
def startInstr : CpuM σ Started := do
  let time ← getVirtualTime
  let pc ← getPc
  return { time, pc, instrByte := ← fetchNextInstrByte }

/-- The instruction that the iteration from `c` starts, if it starts one. -/
def started (c : Cpu σ) : Option Started :=
  match cycleHead c with
  | .ok (true, s) =>
    match startInstr s with
    | .ok (instr, _) => some instr
    | .error _ => none
  | _ => none

/-- The instructions that are started in `n` iterations. -/
def instrTrace (fuel n : Nat) (c : Cpu σ) : List Started :=
  Machine.trace started (cycle fuel) n c

end

/-! ## The end of an iteration -/

/-- After the instruction the kernel is waited for. -/
def WaitDue (c : Cpu σ) : Prop :=
  Kernel.timeToPendingActivity c.initSocket.sys ≤ c.localTimeDelta + c.waitNs ∨
    Kernel.timeToPendingActivity c.initSocket.sys =
      scMaxTime - Kernel.timeStamp c.initSocket.sys ∨ c.singleStep = true

theorem accountTime_waits (c : Cpu σ) (h : WaitDue c) : accountTime c =
    (Kernel.wait (c.localTimeDelta + c.waitNs) c.initSocket.sys).map fun sys =>
      ((), { c with localTimeDelta := 0, initSocket := { c.initSocket with sys } }) := by
  have hwait : accountTime c = (kernelWait (c.localTimeDelta + c.waitNs) >>= fun _ =>
      modify fun c => { c with localTimeDelta := 0 } : CpuM σ Unit)
        { c with localTimeDelta := c.localTimeDelta + c.waitNs } := congrFun (if_pos h) _
  rw [hwait, StateExcept.bind_apply]
  unfold kernelWait
  dsimp only
  cases Kernel.wait (c.localTimeDelta + c.waitNs) c.initSocket.sys with
  | error e => rfl
  | ok s => rfl

theorem accountTime_goes_on (c : Cpu σ) (h : ¬ WaitDue c) : accountTime c =
    .ok ((), { c with localTimeDelta := c.localTimeDelta + c.waitNs }) := congrFun (if_neg h) _


variable {μ : Type} [BusPort μ]

/-- The CPU in single-step mode once the pending time of `c` has passed. -/
def caughtUp (c : Cpu (Timed μ)) : Cpu (Timed μ) :=
  { c with
    singleStep := true
    localTimeDelta := 0
    initSocket := { c.initSocket with sys := c.initSocket.sys.advance c.localTimeDelta } }

/-- No activity falls into the pending time. -/
def QuietAhead (c : Cpu (Timed μ)) : Prop :=
  c.initSocket.sys.schedule.QuietUntil c.initSocket.sys.now
    (c.initSocket.sys.now + c.localTimeDelta)

theorem synced_eq_caughtUp {c : Cpu (Timed μ)} (h : QuietAhead c) : synced c = caughtUp c := by
  unfold synced caughtUp delaySocket
  rw [Timed.advance_of_quiet h]

/-- The batched CPU between two iterations: it runs, and nothing happens before it waits. -/
structure Batched (c : Cpu (Timed μ)) : Prop where
  running : c.initSocket.sys.stopped = false
  batched : c.singleStep = false
  quiet : QuietAhead c

theorem wait_running {s : Timed μ} (h : s.stopped = false) (t : Nat) :
    Kernel.wait t s = .ok (s.advance t) := by
  show (if s.stopped = true then _ else _) = _
  rw [if_neg (Bool.eq_false_iff.mp h), Timed.runUntil_eq_advance t t s (Nat.le_refl t)]

theorem wait_stopped {s : Timed μ} (h : s.stopped = true) (t : Nat) :
    Kernel.wait t s = .error .simulationStopped := if_pos h

theorem waitDue_caughtUp (c : Cpu (Timed μ)) : WaitDue (caughtUp c) := .inr (.inr rfl)

/-- The single-step CPU waits for the instruction's own time. -/
theorem accountTime_caughtUp (c : Cpu (Timed μ)) (h : c.initSocket.sys.stopped = false) :
    accountTime (caughtUp c) =
      .ok ((), caughtUp { c with localTimeDelta := c.localTimeDelta + c.waitNs }) := by
  rw [accountTime_waits _ (waitDue_caughtUp c)]
  have hrun : (caughtUp c).initSocket.sys.stopped = false := by
    rw [← h]
    exact Timed.advance_stopped _ _
  rw [wait_running hrun]
  show Except.ok ((), _) = Except.ok ((), _)
  unfold caughtUp
  dsimp only
  rw [Nat.zero_add, Timed.advance_add]

/-- If the batched CPU does not wait then no activity falls into the time it has pending. -/
theorem quiet_of_not_waitDue {c : Cpu (Timed μ)} (h : ¬ WaitDue c) :
    QuietAhead { c with localTimeDelta := c.localTimeDelta + c.waitNs } := by
  have hlater : ¬ (Kernel.timeToPendingActivity c.initSocket.sys ≤ c.localTimeDelta + c.waitNs) :=
    fun hle => h (.inl hle)
  have hsome : ¬ (Kernel.timeToPendingActivity c.initSocket.sys =
      scMaxTime - Kernel.timeStamp c.initSocket.sys) := fun heq => h (.inr (.inl heq))
  cases hnext : c.initSocket.sys.schedule.next c.initSocket.sys.now with
  | none => exact absurd (timeToPendingActivity_none hnext) hsome
  | some t =>
    rw [timeToPendingActivity_some hnext] at hlater
    have hlt : c.localTimeDelta + c.waitNs < t - c.initSocket.sys.now := Nat.lt_of_not_le hlater
    exact Schedule.quietUntil_of_lt_next hnext (Nat.add_lt_of_lt_sub' hlt)

/-- Two CPUs that follow each other: the second one is in single-step mode at the virtual time of
    the first, or the debugger's breakpoint has halted both. -/
def InStep (c d : Cpu (Timed μ)) : Prop :=
  (Batched c ∧ d = caughtUp c) ∨ (c.halted = true ∧ d.halted = true)

/-- Waiting keeps the two in step. -/
theorem accountTime_inStep (c : Cpu (Timed μ)) (hbatched : c.singleStep = false)
    (hrun : c.initSocket.sys.stopped = false ∨ WaitDue c) :
    Machine.Matching (fun r r' => InStep r.2 r'.2) (accountTime c) (accountTime (caughtUp c)) := by
  cases hstop : c.initSocket.sys.stopped with
  | true =>
    have hdue : WaitDue c := hrun.resolve_left (by rw [hstop]; exact Bool.noConfusion)
    have hstop' : (caughtUp c).initSocket.sys.stopped = true := by
      rw [← hstop]
      exact Timed.advance_stopped _ _
    rw [accountTime_waits c hdue, accountTime_waits _ (waitDue_caughtUp c), wait_stopped hstop,
      wait_stopped hstop']
    exact trivial
  | false =>
    rw [accountTime_caughtUp c hstop]
    by_cases hdue : WaitDue c
    · rw [accountTime_waits c hdue, wait_running hstop]
      refine .inl ⟨⟨?_, hbatched, ?_⟩, rfl⟩
      · rw [← hstop]
        exact Timed.advance_stopped _ _
      · exact Schedule.quietUntil_self _ _
    · rw [accountTime_goes_on c hdue]
      exact .inl ⟨⟨hstop, hbatched, quiet_of_not_waitDue hdue⟩, rfl⟩

/-! ## HALT -/

/-- `*reg_intr_enable_dmi & *reg_intr_pending_dmi` of a simulation. -/
def intrOf (s : Timed μ) : U8 := BusPort.intrEnable s &&& BusPort.intrPending s

/-- At every multiple of `period` the test for an interrupt gives the same answer with and without
    the pending time. -/
def AlignedEvery (period : Nat) (c : Cpu (Timed μ)) : Prop :=
  ∀ round, 1 ≤ round →
    (intrOf (c.initSocket.sys.advance (round * period)) = 0 ↔
      intrOf (c.initSocket.sys.advance (round * period + c.localTimeDelta)) = 0)

/-- In every round of HALT's loop the test gives the same answer with and without the pending
    time. -/
def HaltAligned (c : Cpu (Timed μ)) : Prop := AlignedEvery (4 * GbConst.kNsPerClkCycle) c

/-- The CPU after some time of busy waiting. -/
def waited (t : Nat) (c : Cpu (Timed μ)) : Cpu (Timed μ) :=
  { c with initSocket := { c.initSocket with sys := c.initSocket.sys.advance t } }

theorem caughtUp_waited (t : Nat) (c : Cpu (Timed μ)) :
    caughtUp (waited t c) = waited t (caughtUp c) := by
  have hsys : (c.initSocket.sys.advance t).advance c.localTimeDelta =
      (c.initSocket.sys.advance c.localTimeDelta).advance t := by
    rw [← Timed.advance_add, Nat.add_comm, Timed.advance_add]
  unfold caughtUp waited
  dsimp only
  rw [hsys]

theorem alignedEvery_first {period : Nat} {c : Cpu (Timed μ)} (h : AlignedEvery period c) :
    intrOf (waited period c).initSocket.sys = 0 ↔
      intrOf (caughtUp (waited period c)).initSocket.sys = 0 := by
  have hfirst := h 1 (Nat.le_refl 1)
  rw [Nat.one_mul, Timed.advance_add] at hfirst
  exact hfirst

theorem alignedEvery_waited {period : Nat} {c : Cpu (Timed μ)} (h : AlignedEvery period c) :
    AlignedEvery period (waited period c) := by
  intro round hround
  have hnext := h (round + 1) (by omega)
  have hsplit : ∀ d, c.initSocket.sys.advance ((round + 1) * period + d) =
      (c.initSocket.sys.advance period).advance (round * period + d) := by
    intro d
    rw [← Timed.advance_add, Nat.succ_mul]
    congr 1
    omega
  have hzero := hsplit 0
  rw [Nat.add_zero, Nat.add_zero] at hzero
  rw [hsplit c.localTimeDelta, hzero] at hnext
  exact hnext

theorem waited_running {t : Nat} {c : Cpu (Timed μ)} (h : c.initSocket.sys.stopped = false) :
    (waited t c).initSocket.sys.stopped = false := by
  rw [← h]
  exact Timed.advance_stopped _ _

theorem caughtUp_running {c : Cpu (Timed μ)} (h : c.initSocket.sys.stopped = false) :
    (caughtUp c).initSocket.sys.stopped = false := by
  rw [← h]
  exact Timed.advance_stopped _ _

theorem kernelWait_running (t : Nat) (c : Cpu (Timed μ)) (h : c.initSocket.sys.stopped = false) :
    kernelWait t c = .ok ((), waited t c) := by
  unfold kernelWait
  rw [wait_running h]
  rfl

/-- One round of the loop. -/
theorem instrHalt_round (fuel : Nat) (c c' : Cpu (Timed μ))
    (h : c.initSocket.sys.stopped = false) (hc' : c' = waited (4 * GbConst.kNsPerClkCycle) c) :
    instrHalt (fuel + 1) c =
      if intrOf c'.initSocket.sys = 0 then instrHalt fuel c' else .ok ((), c') := by
  rw [instrHalt, StateExcept.bind_of_ok (kernelWait_running _ c h), ← hc']
  exact @StateExcept.ite_apply _ _ _ _ _ (instrHalt fuel) (pure ()) c'

/-- If the tests agree, HALT takes the same time in both modes. -/
theorem instrHalt_caughtUp (fuel : Nat) (c : Cpu (Timed μ))
    (hrun : c.initSocket.sys.stopped = false) (h : HaltAligned c) :
    instrHalt fuel (caughtUp c) = (instrHalt fuel c).map fun r => (r.1, caughtUp r.2) := by
  induction fuel generalizing c with
  | zero => rfl
  | succ fuel ih =>
    obtain ⟨c', hc'⟩ : ∃ c', c' = waited (4 * GbConst.kNsPerClkCycle) c := ⟨_, rfl⟩
    have hcaught : caughtUp c' = waited (4 * GbConst.kNsPerClkCycle) (caughtUp c) := by
      rw [hc', caughtUp_waited]
    have htest : intrOf c'.initSocket.sys = 0 ↔ intrOf (caughtUp c').initSocket.sys = 0 :=
      hc' ▸ alignedEvery_first h
    have hnext : HaltAligned c' := hc' ▸ alignedEvery_waited h
    rw [instrHalt_round fuel c c' hrun hc',
      instrHalt_round fuel (caughtUp c) (caughtUp c') (caughtUp_running hrun) hcaught]
    by_cases hzero : intrOf c'.initSocket.sys = 0
    · rw [if_pos hzero, if_pos (htest.mp hzero)]
      exact ih c' (hc' ▸ waited_running hrun) hnext
    · rw [if_neg hzero, if_neg fun heq => hzero (htest.mpr heq)]
      rfl

/-- HALT waits, and does nothing else. -/
theorem instrHalt_waits (fuel : Nat) (c : Cpu (Timed μ)) {u : Unit} {d : Cpu (Timed μ)}
    (hrun : c.initSocket.sys.stopped = false) (h : instrHalt fuel c = .ok (u, d)) :
    ∃ t, d = waited t c := by
  induction fuel generalizing c with
  | zero => cases h
  | succ fuel ih =>
    obtain ⟨c', hc'⟩ : ∃ c', c' = waited (4 * GbConst.kNsPerClkCycle) c := ⟨_, rfl⟩
    rw [instrHalt_round fuel c c' hrun hc'] at h
    by_cases hzero : intrOf c'.initSocket.sys = 0
    · rw [if_pos hzero] at h
      obtain ⟨t, ht⟩ := ih c' (hc' ▸ waited_running hrun) h
      refine ⟨4 * GbConst.kNsPerClkCycle + t, ?_⟩
      rw [ht, hc']
      unfold waited
      dsimp only
      rw [Timed.advance_add]
    · rw [if_neg hzero] at h
      cases h
      exact ⟨_, hc'⟩

/-! ## One iteration -/

/-- The messages of the debugger are no concern: none ever comes. -/
theorem pollMessages_timed {μ : Type} (c : Cpu (Timed μ)) : pollMessages c = .ok ((), c) := by
  have hnone : isMsgPending c = .ok (false, c) := by
    show (if (!c.gdbServer.isAttached) = true then pure false else pure false :
      CpuM (Timed μ) Bool) c = _
    rw [ite_self]
    rfl
  exact StateExcept.bind_of_ok hnone

theorem cycleHead_timed (c : Cpu (Timed μ)) : cycleHead c = headAfterMessages c :=
  StateExcept.bind_of_ok (pollMessages_timed c)

/-- Where no debugger interferes, both modes go through the same head of the loop. -/
theorem cycleHead_synced (c : Cpu (Timed μ)) (hrun : c.halted = false)
    (hbp : c.regFile.pc ∉ c.gdbServer.bpSet) :
    cycleHead (synced c) = (cycleHead c).map fun r => (r.1, synced r.2) := by
  rw [cycleHead_timed, cycleHead_timed, headAfterMessages_go c hrun hbp,
    headAfterMessages_go (synced c) hrun hbp]
  have hrest : StateExcept.Commutes synced
      (handleInterrupts >>= fun _ => pure true : CpuM (Timed μ) Bool) :=
    synced_blocks.bind (handleInterrupts_of_blocks synced_blocks) fun _ => synced_blocks.pure true
  exact hrest { c with waitNs := 0 }

theorem fetchNextInstrByte_synced (c : Cpu (Timed μ)) :
    fetchNextInstrByte (synced c) = (fetchNextInstrByte c).map fun r => (r.1, synced r.2) :=
  synced_blocks.fetchNextInstrByte c

/-- At a breakpoint the CPU is halted. -/
theorem cycleHead_bp (c : Cpu (Timed μ)) (hrun : c.initSocket.sys.stopped = false)
    (hgo : c.halted = false) (hbp : c.regFile.pc ∈ c.gdbServer.bpSet) :
    ∃ c', cycleHead c = .ok (false, c') ∧ c'.halted = true := by
  refine ⟨waited (4 * GbConst.kNsPerClkCycle) { c with halted := true }, ?_, rfl⟩
  rw [cycleHead_timed, headAfterMessages_bp c hgo hbp]
  have hsend : sendBpReached { c with halted := true } = .ok ((), { c with halted := true }) := rfl
  have hwait := kernelWait_running (4 * GbConst.kNsPerClkCycle) { c with halted := true } hrun
  rw [StateExcept.bind_of_ok hsend]
  exact StateExcept.bind_of_ok hwait

/-- The blocks keep the batched CPU ahead of the kernel by the same time. -/
theorem batched_of_keeps {μ : Type} {c c' : Cpu (Timed μ)} (h : Batched c) (hclock : SameClock c c')
    (hmembers : SameLoopMembers c c') : Batched c' := by
  have hdelta : c'.localTimeDelta = c.localTimeDelta :=
    congrArg (fun m : GdbServer × Bool × Bool × Nat => m.2.2.2) hmembers
  have hstep : c'.singleStep = c.singleStep :=
    congrArg (fun m : GdbServer × Bool × Bool × Nat => m.2.2.1) hmembers
  unfold SameClock at hclock
  refine ⟨?_, ?_, ?_⟩
  · rw [hclock]
    exact h.running
  · rw [hstep]
    exact h.batched
  · unfold QuietAhead
    rw [hclock, hdelta]
    exact h.quiet

theorem batched_of_blocks {μ α : Type} {m : CpuM (Timed μ) α} {c c' : Cpu (Timed μ)} {a : α}
    (hclock : StateExcept.Keeps SameClock m) (hmembers : StateExcept.Keeps SameLoopMembers m)
    (hrun : m c = .ok (a, c')) (h : Batched c) : Batched c' :=
  batched_of_keeps h (hclock c a c' hrun) (hmembers c a c' hrun)

/-- After an instruction the batched CPU may still run, or its kernel is waited for. -/
def Executed (c : Cpu (Timed μ)) : Prop :=
  c.singleStep = false ∧ (c.initSocket.sys.stopped = false ∨ WaitDue c)

/-- What an instruction in batched mode has to do with the same one in single-step mode. -/
def ExecutesAlike (fuel : Nat) (instrByte : U8) (c : Cpu (Timed μ)) : Prop :=
  decodeExecute fuel instrByte (caughtUp c) =
      (decodeExecute fuel instrByte c).map (fun r => (r.1, caughtUp r.2)) ∧
    ∀ r, decodeExecute fuel instrByte c = .ok r → Executed r.2

theorem halt_executesAlike (fuel : Nat) (c : Cpu (Timed μ)) (h : Batched c)
    (haligned : HaltAligned c) : ExecutesAlike fuel 0x76 c := by
  refine ⟨instrHalt_caughtUp fuel c h.running haligned, ?_⟩
  intro r hr
  obtain ⟨t, ht⟩ := instrHalt_waits fuel c h.running hr
  rw [Executed, ht]
  exact ⟨h.batched, .inl (waited_running h.running)⟩

/-- An instruction that does not look at the clock, and leaves the pending time quiet. -/
theorem executesAlike_of_synced {fuel : Nat} {instrByte : U8} {c : Cpu (Timed μ)} (h : Batched c)
    (hcommutes : decodeExecute fuel instrByte (synced c) =
      (decodeExecute fuel instrByte c).map fun r => (r.1, synced r.2))
    (hafter : ∀ r, decodeExecute fuel instrByte c = .ok r → QuietAhead r.2 ∧ Executed r.2) :
    ExecutesAlike fuel instrByte c := by
  refine ⟨?_, fun r hr => (hafter r hr).2⟩
  rw [← synced_eq_caughtUp h.quiet, hcommutes]
  cases hr : decodeExecute fuel instrByte c with
  | error e => rfl
  | ok r =>
    have hsame := synced_eq_caughtUp (hafter r hr).1
    exact congrArg (fun d => Except.ok (r.1, d)) hsame

theorem emu_executesAlike (fuel : Nat) (c : Cpu (Timed μ)) (h : Batched c)
    (hdue : c.regFile.b = 2 → WaitDue c) : ExecutesAlike fuel 0xD3 c := by
  refine executesAlike_of_synced h (instrEmu_synced c) fun r hr => ?_
  have hrun : instrEmu c = .ok r := hr
  rcases emu_cases c with ⟨hb, hemu⟩ | ⟨-, verdict, hemu⟩
  · rw [hemu] at hrun
    cases hrun
    exact ⟨h.quiet, h.batched, .inr (hdue hb)⟩
  · rw [hemu] at hrun
    cases hrun
    exact ⟨h.quiet, h.batched, .inl h.running⟩

/-- Every instruction that neither waits nor stops the simulation is the same in both modes. -/
theorem other_executesAlike (fuel : Nat) (instrByte : U8) (c : Cpu (Timed μ)) (h : Batched c)
    (hhalt : instrByte ≠ 0x76) (hemu : instrByte ≠ 0xD3) : ExecutesAlike fuel instrByte c := by
  have hcommutes : StateExcept.Commutes synced
      (decodeExecute fuel instrByte : CpuM (Timed μ) Unit) :=
    decodeExecute_of_blocks synced_blocks fuel instrByte (fun heq => absurd heq hhalt)
      fun heq => absurd heq hemu
  have hclock : StateExcept.Keeps SameClock (decodeExecute fuel instrByte : CpuM (Timed μ) Unit) :=
    decodeExecute_of_blocks clock_blocks fuel instrByte (fun heq => absurd heq hhalt)
      fun heq => absurd heq hemu
  have hmembers : StateExcept.Keeps SameLoopMembers
      (decodeExecute fuel instrByte : CpuM (Timed μ) Unit) :=
    decodeExecute_of_blocks loopMembers_blocks fuel instrByte (fun heq => absurd heq hhalt)
      fun heq => absurd heq hemu
  refine executesAlike_of_synced h (hcommutes c) fun r hr => ?_
  have hbatched : Batched r.2 := batched_of_blocks (a := r.1) hclock hmembers hr h
  exact ⟨hbatched.quiet, hbatched.batched, .inl hbatched.running⟩

/-! ## Runs -/

/-- The iteration from `c` does nothing that depends on which time has been waited for: HALT's
    tests agree, and if EMU stops the simulation then the kernel is waited for at once. -/
def StepsAlike (c : Cpu (Timed μ)) : Prop :=
  ∀ instrByte t, Fetches c instrByte t →
    (instrByte = 0x76 → HaltAligned t) ∧ (instrByte = 0xD3 → t.regFile.b = 2 → WaitDue t)

theorem executesAlike_of_stepsAlike {c t : Cpu (Timed μ)} {instrByte : U8} (fuel : Nat)
    (h : StepsAlike c) (hfetch : Fetches c instrByte t) (hbatched : Batched t) :
    ExecutesAlike fuel instrByte t := by
  obtain ⟨hhalt, hemu⟩ := h instrByte t hfetch
  by_cases h76 : instrByte = 0x76
  · subst h76
    exact halt_executesAlike fuel t hbatched (hhalt rfl)
  by_cases hD3 : instrByte = 0xD3
  · subst hD3
    exact emu_executesAlike fuel t hbatched (hemu rfl)
  exact other_executesAlike fuel instrByte t hbatched h76 hD3

/-- In batched mode, where PC is at no breakpoint, the head of the loop goes on to fetch. -/
theorem cycleHead_batched {c s : Cpu (Timed μ)} {go : Bool} (hgo : c.halted = false)
    (hbp : c.regFile.pc ∉ c.gdbServer.bpSet) (hbatched : Batched c)
    (h : cycleHead c = .ok (go, s)) : go = true ∧ Batched s := by
  rw [cycleHead_timed, headAfterMessages_go c hgo hbp] at h
  obtain ⟨u, t, hintr, hpure⟩ := StateExcept.bind_eq_ok h
  cases hpure
  refine ⟨rfl, batched_of_blocks (handleInterrupts_of_blocks clock_blocks)
    (handleInterrupts_of_blocks loopMembers_blocks) hintr ?_⟩
  exact ⟨hbatched.running, hbatched.batched, hbatched.quiet⟩

/-- An instruction keeps the two modes in step. -/
theorem instr_inStep (fuel : Nat) (c : Cpu (Timed μ)) (hrule : StepsAlike c)
    (hgo : c.halted = false) (hbp : c.regFile.pc ∉ c.gdbServer.bpSet) (hbatched : Batched c) :
    Machine.Matching (fun r r' => InStep r.2 r'.2) (machineCycle fuel c)
      (machineCycle fuel (synced c)) := by
  refine Machine.Matching.bind_map (cycleHead_synced c hgo hbp) ?_
  rintro ⟨go, s⟩ hhead
  obtain ⟨rfl, hs⟩ := cycleHead_batched hgo hbp hbatched hhead
  refine Machine.Matching.bind_map (fetchNextInstrByte_synced s) ?_
  rintro ⟨instrByte, t⟩ hfetch
  have ht : Batched t := batched_of_blocks clock_blocks.fetchNextInstrByte
    loopMembers_blocks.fetchNextInstrByte hfetch hs
  have hexec := executesAlike_of_stepsAlike fuel hrule ⟨s, hhead, hfetch⟩ ht
  dsimp only
  rw [synced_eq_caughtUp ht.quiet]
  refine Machine.Matching.bind_map hexec.1 fun r hr => ?_
  obtain ⟨hmode, hwaits⟩ := hexec.2 r hr
  exact accountTime_inStep r.2 hmode hwaits

theorem machineCycle_no_fetch {c c' : Cpu (Timed μ)} (fuel : Nat)
    (h : cycleHead c = .ok (false, c')) : machineCycle fuel c = .ok ((), c') :=
  StateExcept.bind_of_ok h

theorem cycleHead_halted {c : Cpu (Timed μ)} (h : c.halted = true) :
    cycleHead c = .ok (false, c) := by
  rw [cycleHead_timed, headAfterMessages_halted c h]

/-- The two modes stay in step over an iteration. -/
theorem cycle_inStep (fuel : Nat) (c d : Cpu (Timed μ)) (hrule : StepsAlike c)
    (h : InStep c d) : Machine.Matching InStep (cycle fuel c) (cycle fuel d) := by
  apply Machine.Matching.map
  rcases h with ⟨hbatched, rfl⟩ | ⟨hc, hd⟩
  · cases hgo : c.halted with
    | true =>
      rw [machineCycle_no_fetch fuel (cycleHead_halted hgo),
        machineCycle_no_fetch fuel (cycleHead_halted (c := caughtUp c) hgo)]
      exact .inr ⟨hgo, hgo⟩
    | false =>
      by_cases hbp : c.regFile.pc ∈ c.gdbServer.bpSet
      · obtain ⟨c', hhead, hc'⟩ := cycleHead_bp c hbatched.running hgo hbp
        obtain ⟨d', hheadCaught, hd'⟩ :=
          cycleHead_bp (caughtUp c) (caughtUp_running hbatched.running) hgo hbp
        rw [machineCycle_no_fetch fuel hhead, machineCycle_no_fetch fuel hheadCaught]
        exact .inr ⟨hc', hd'⟩
      · rw [← synced_eq_caughtUp hbatched.quiet]
        exact instr_inStep fuel c hrule hgo hbp hbatched
  · rw [machineCycle_no_fetch fuel (cycleHead_halted hc),
      machineCycle_no_fetch fuel (cycleHead_halted hd)]
    exact .inr ⟨hc, hd⟩

theorem startInstr_synced : StateExcept.Commutes synced (startInstr : CpuM (Timed μ) Started) :=
  synced_blocks.bind
    (StateExcept.Commutes.of_reads (m := getVirtualTime) (fun _ => rfl) fun _ => rfl) fun _ =>
    synced_blocks.bind synced_blocks.getPc fun _ =>
      synced_blocks.bind synced_blocks.fetchNextInstrByte fun _ => synced_blocks.pure _

theorem started_no_fetch {c c' : Cpu (Timed μ)} (h : cycleHead c = .ok (false, c')) :
    started c = none := by
  unfold started
  rw [h]

theorem started_synced (c : Cpu (Timed μ)) (hgo : c.halted = false)
    (hbp : c.regFile.pc ∉ c.gdbServer.bpSet) : started (synced c) = started c := by
  unfold started
  rw [cycleHead_synced c hgo hbp]
  rcases cycleHead c with e | ⟨go, s⟩
  · rfl
  · cases go with
    | false => rfl
    | true =>
      dsimp only [Except.map]
      rw [startInstr_synced]
      cases startInstr s with
      | error e => rfl
      | ok r => rfl

theorem started_inStep (c d : Cpu (Timed μ)) (h : InStep c d) : started c = started d := by
  rcases h with ⟨hbatched, rfl⟩ | ⟨hc, hd⟩
  · cases hgo : c.halted with
    | true =>
      rw [started_no_fetch (cycleHead_halted hgo),
        started_no_fetch (cycleHead_halted (c := caughtUp c) hgo)]
    | false =>
      by_cases hbp : c.regFile.pc ∈ c.gdbServer.bpSet
      · obtain ⟨c', hhead, -⟩ := cycleHead_bp c hbatched.running hgo hbp
        obtain ⟨d', hheadCaught, -⟩ :=
          cycleHead_bp (caughtUp c) (caughtUp_running hbatched.running) hgo hbp
        rw [started_no_fetch hhead, started_no_fetch hheadCaught]
      · rw [← synced_eq_caughtUp hbatched.quiet]
        exact (started_synced c hgo hbp).symm
  · rw [started_no_fetch (cycleHead_halted hc), started_no_fetch (cycleHead_halted hd)]

/-- The CPU at the start of a run, in batched or in single-step mode. -/
def start (singleStep : Bool) (c : Cpu (Timed μ)) : Cpu (Timed μ) :=
  { c with
    singleStep
    localTimeDelta := 0
    initSocket := { c.initSocket with sys := { c.initSocket.sys with stopped := false } } }

theorem start_inStep (c : Cpu (Timed μ)) : InStep (start false c) (start true c) :=
  .inl ⟨⟨rfl, rfl, Schedule.quietUntil_self _ _⟩, rfl⟩

theorem lockstep (fuel : Nat) : Machine.Lockstep (started (σ := Timed μ)) (cycle fuel) started
    (cycle fuel) StepsAlike InStep where
  observes := started_inStep
  steps := cycle_inStep fuel

/-- If no iteration of the batched run depends on which time has been waited for, then both modes
    start the same instructions at the same virtual times. -/
theorem same_instructions (fuel : Nat) (c : Cpu (Timed μ))
    (h : ∀ d, Machine.Reaches (cycle fuel) (fun _ => True) (start false c) d → StepsAlike d)
    (n : Nat) : instrTrace fuel n (start false c) = instrTrace fuel n (start true c) :=
  (lockstep fuel).trace_eq n _ _ (start_inStep c) h

/-! ## Two programs -/

/-- A ROM-only Game Boy with interrupts disabled, the V-Blank interrupt in IE, and the program at
    0x150. At `time` the V-Blank interrupt is requested. -/
def vblankProgram (program : Nat → U8) (time : Nat) : Cpu (Timed Gb) :=
  { regFile := { pc := 0x150, sp := 0xDFFE }
    initSocket :=
      { payload := {}
        gbcmd := .gbReadInst
        hasRomBank0 := true
        sys :=
          { now := 0
            schedule := .once time 0x01
            stopped := false
            dev := { Gb.init
                (.rom (.init (fun i => program (i.val - 0x150)) (fun _ => 0) (fun _ => 0) false))
                { ongoingTransmission := false, regSc := 0 }
                { regDiv := 0, regTac := 0, regTima := 0, regTma := 0 } with
              intrEnable := ⟨fun _ => 0x01⟩ } } } }

/-- NOP, HALT, and NOPs. -/
def nopHalt : Nat → U8
  | 1 => 0x76
  | _ => 0x00

/-- HALT, then a byte that is no instruction. -/
def haltOnly : Nat → U8
  | 0 => 0x76
  | _ => 0xED

/-- With 952 ns pending HALT wakes up 952 ns late: the third instruction starts at 2856 ns in
    batched mode and at 1904 ns in single-step mode. -/
theorem halt_wakes_late : ¬ ∀ n, instrTrace 4 n (start false (vblankProgram nopHalt 1000)) =
      instrTrace 4 n (start true (vblankProgram nopHalt 1000)) := by
  intro h
  have hbatched : instrTrace 4 3 (start false (vblankProgram nopHalt 1000)) =
      [⟨0, 0x150, 0x00⟩, ⟨952, 0x151, 0x76⟩, ⟨2856, 0x152, 0x00⟩] := by decide +kernel
  have hsingle : instrTrace 4 3 (start true (vblankProgram nopHalt 1000)) =
      [⟨0, 0x150, 0x00⟩, ⟨952, 0x151, 0x76⟩, ⟨1904, 0x152, 0x00⟩] := by decide +kernel
  have heq := h 3
  rw [hbatched, hsingle] at heq
  exact absurd heq (by decide)

/-- The byte that the iteration from `c` fetches, and the time that is then pending. -/
def fetched (c : Cpu (Timed Gb)) : Option (U8 × Nat) :=
  (cycleHead c >>= fun r => fetchNextInstrByte r.2).toOption.map fun r => (r.1, r.2.localTimeDelta)

theorem fetched_of_fetches {c t : Cpu (Timed Gb)} {b : U8} (h : Fetches c b t) :
    fetched c = some (b, t.localTimeDelta) := by
  obtain ⟨s, hhead, hfetch⟩ := h
  have hrun : (cycleHead c >>= fun r => fetchNextInstrByte r.2) = .ok (b, t) := by
    rw [hhead]
    exact hfetch
  unfold fetched
  rw [hrun]
  rfl

/-- With no time pending the modes agree on a HALT, and on any instruction but EMU. -/
theorem stepsAlike_of_fetched {c : Cpu (Timed Gb)} {b : U8} (h : fetched c = some (b, 0))
    (hb : b ≠ 0xD3) : StepsAlike c := by
  intro instrByte t hfetch
  have heq := (fetched_of_fetches hfetch).symm.trans h
  injection heq with heq
  injection heq with hbyte hdelta
  refine ⟨fun _ round _ => ?_, fun hemu => absurd (hbyte.symm.trans hemu) hb⟩
  rw [hdelta, Nat.add_zero]

/-- A HALT with no time pending wakes up at the same time in both modes. -/
theorem halt_first_in_step :
    instrTrace 4 9 (start false (vblankProgram haltOnly 1000)) =
      instrTrace 4 9 (start true (vblankProgram haltOnly 1000)) := by
  refine same_instructions 4 (vblankProgram haltOnly 1000) ?_ 9
  generalize hc : start false (vblankProgram haltOnly 1000) = c
  have hhalt : fetched c = some (0x76, 0) := by
    rw [← hc]
    decide +kernel
  have hnext : (cycle 4 c).toOption.bind fetched = some (0xED, 0) := by
    rw [← hc]
    decide +kernel
  have hlast : ((cycle 4 c).toOption.bind fun d => (cycle 4 d).toOption).isNone = true := by
    rw [← hc]
    decide +kernel
  intro d hd
  rcases hd.cases_head with rfl | ⟨c₁, ⟨-, hfirst⟩, hrest⟩
  · exact stepsAlike_of_fetched hhalt (by decide)
  · rw [hfirst] at hnext hlast
    rcases hrest.cases_head with rfl | ⟨c₂, ⟨-, hsecond⟩, -⟩
    · exact stepsAlike_of_fetched hnext (by decide)
    · have hsome : (cycle 4 c₁).toOption.isNone = true := hlast
      rw [hsecond] at hsome
      cases hsome

end Cpu

end TlmBoy
