import TlmBoy.Cpu.Decoupling
import TlmBoy.Gdb.Blocks

/-
  Who moves the clock.

  `HasClock` and `TimelessDebugger` say of a system that its clock moves only while the CPU's
  thread waits: no bus transaction and no command of the debugger takes time. Then no block of an
  instruction does (`time_blocks`), and waiting moves the virtual time by what is waited
  (`kernelWait_time`). The kernel with a fixed schedule is such a system, and so is every such
  system with the debugger's client beside it.
-/

namespace TlmBoy

/-- The clock moves only in `wait`. -/
class HasClock (σ : Type) [BusPort σ] [Kernel σ] : Prop where
  wait_time {t : Nat} {s s' : σ} :
    Kernel.wait t s = .ok s' → Kernel.timeStamp s' = Kernel.timeStamp s + t
  bTransport_time {trans : Payload} {s : σ} {r : Payload × σ} :
    BusPort.bTransport trans s = .ok r → Kernel.timeStamp r.2 = Kernel.timeStamp s
  setIntrPending_time (v : U8) (s : σ) :
    Kernel.timeStamp (BusPort.setIntrPending v s) = Kernel.timeStamp s
  stop_time (s : σ) : Kernel.timeStamp (Kernel.stop s) = Kernel.timeStamp s

/-- The debugger leaves the time alone. -/
class TimelessDebugger (σ : Type) [Kernel σ] [Debugger σ] : Prop where
  handleMessages_time {c c' : Cpu σ} :
    Debugger.handleMessages c = .ok c' → c'.virtualTime = c.virtualTime
  sendBpReached_time {s s' : σ} :
    Debugger.sendBpReached s = .ok s' → Kernel.timeStamp s' = Kernel.timeStamp s

namespace Cpu

variable {σ : Type} [Kernel σ]

def SameTime (c c' : Cpu σ) : Prop := c'.virtualTime = c.virtualTime

instance : Std.Refl (SameTime (σ := σ)) := ⟨fun _ => rfl⟩

instance : IsTrans (Cpu σ) SameTime := ⟨fun _ _ _ h h' => h'.trans h⟩

theorem sameTime_of_clock {c c' : Cpu σ}
    (hclock : Kernel.timeStamp c'.initSocket.sys = Kernel.timeStamp c.initSocket.sys)
    (hdelta : c'.localTimeDelta = c.localTimeDelta) : SameTime c c' := by
  unfold SameTime virtualTime
  rw [hclock, hdelta]

theorem kernelWait_waitNs {t : Nat} {c c' : Cpu σ} {u : Unit} (h : kernelWait t c = .ok (u, c')) :
    c'.waitNs = c.waitNs := by
  obtain ⟨sys, -, he⟩ := StateExcept.map_eq_ok h
  cases he
  rfl

variable [BusPort σ] [HasClock σ]

theorem kernelWait_time {t : Nat} {c c' : Cpu σ} {u : Unit} (h : kernelWait t c = .ok (u, c')) :
    c'.virtualTime = c.virtualTime + t := by
  obtain ⟨sys, hwait, he⟩ := StateExcept.map_eq_ok h
  cases he
  have hclock := HasClock.wait_time hwait
  simp only [virtualTime, hclock]
  omega

/-! ## The instructions -/

theorem readBus_time {addr : U16} {cmd : GbCommand} {s : InitSocket σ} {r : U8 × InitSocket σ}
    (h : s.readBus addr cmd = .ok r) : Kernel.timeStamp r.2.sys = Kernel.timeStamp s.sys := by
  unfold InitSocket.readBus at h
  by_cases hdmi : addr.toNat < 0x4000 ∧ s.hasRomBank0 = true
  · rw [dif_pos hdmi] at h
    cases h
    rfl
  · rw [dif_neg hdmi] at h
    obtain ⟨q, hq, h⟩ := StateExcept.except_bind_eq_ok h
    dsimp only at h
    by_cases herr : q.1.responseStatus.isResponseError = true
    · rw [if_pos herr] at h
      cases h
    · rw [if_neg herr] at h
      cases h
      exact HasClock.bTransport_time hq

theorem writeBus_time {addr : U16} {v : U8} {s s' : InitSocket σ} (h : s.writeBus addr v = .ok s') :
    Kernel.timeStamp s'.sys = Kernel.timeStamp s.sys := by
  obtain ⟨q, hq, h⟩ := StateExcept.except_bind_eq_ok h
  cases h
  exact HasClock.bTransport_time hq

/-- No block of an instruction takes time. -/
theorem time_blocks : Blocks fun m : CpuM σ _ => StateExcept.Keeps SameTime m := by
  refine blocks_of_modifyRegs (StateExcept.Keeps.closed _) ?_ ?_ ?_ ?_ ?_ ?_ ?_ ?_ ?_ ?_ ?_
  · intro α e c a c' h
    cases h
  · exact StateExcept.Keeps.of_reads fun _ => rfl
  · exact fun f => StateExcept.Keeps.of_modifies (fun _ => rfl) fun _ => rfl
  · exact fun v => StateExcept.Keeps.of_modifies (fun _ => rfl) fun _ => rfl
  · exact fun n => StateExcept.Keeps.of_modifies (fun _ => rfl) fun _ => rfl
  · exact fun cmd => StateExcept.Keeps.of_modifies (fun _ => rfl) fun _ => rfl
  · intro addr cmd c v c' h
    obtain ⟨r, hread, hr⟩ := StateExcept.map_eq_ok h
    cases hr
    exact sameTime_of_clock (readBus_time hread) rfl
  · intro addr v c u c' h
    obtain ⟨s, hwrite, hs⟩ := StateExcept.map_eq_ok h
    cases hs
    exact sameTime_of_clock (writeBus_time hwrite) rfl
  · exact StateExcept.Keeps.of_reads fun _ => rfl
  · exact StateExcept.Keeps.of_reads fun _ => rfl
  · exact fun flag => StateExcept.Keeps.of_modifies (fun _ => rfl) fun c =>
      sameTime_of_clock (HasClock.setIntrPending_time _ c.initSocket.sys) rfl

/-- EMU takes no time, also where it stops the simulation. -/
theorem instrEmu_time : StateExcept.Keeps SameTime (instrEmu : CpuM σ Unit) :=
  keeps_instrEmu time_blocks (fun _ _ => rfl) fun c =>
    sameTime_of_clock (HasClock.stop_time c.initSocket.sys) rfl

/-! ## The end of the loop -/

/-- The accounting moves the virtual time by `wait_ns_`, whether the kernel is waited for or
    not. -/
theorem accountTime_time {c c' : Cpu σ} {u : Unit} (h : accountTime c = .ok (u, c')) :
    c'.virtualTime = c.virtualTime + c.waitNs := by
  by_cases hdue : WaitDue c
  · rw [accountTime_waits c hdue] at h
    obtain ⟨sys, hwait, he⟩ := StateExcept.map_eq_ok h
    cases he
    have hclock := HasClock.wait_time hwait
    simp only [virtualTime, hclock]
    omega
  · rw [accountTime_goes_on c hdue] at h
    cases h
    simp only [virtualTime]
    omega

end Cpu

/-! ## The fixed schedule -/

theorem Timed.advance_now {μ : Type} [BusPort μ] (n : Nat) (s : Timed μ) :
    (s.advance n).now = s.now + n := by
  induction n with
  | zero => rfl
  | succ n ih =>
    rw [advance, raise_now]
    show (s.advance n).now + 1 = _
    omega

instance {μ : Type} [BusPort μ] : HasClock (Timed μ) where
  wait_time {t s s'} h := by
    rcases Bool.eq_false_or_eq_true s.stopped with hstop | hstop
    · rw [Cpu.wait_stopped hstop] at h
      cases h
    · rw [Cpu.wait_running hstop] at h
      cases h
      exact Timed.advance_now t s
  bTransport_time h := by
    rw [bTransport_clock h]
    rfl
  setIntrPending_time _ _ := rfl
  stop_time _ := rfl

instance {μ : Type} [BusPort μ] : TimelessDebugger (Timed μ) where
  handleMessages_time h := by
    cases h
    rfl
  sendBpReached_time h := by
    cases h
    rfl

/-! ## The debugger's client -/

/-- No debug transaction takes time. -/
class TimelessDebugPort (σ : Type) [Kernel σ] [DebugPort σ] : Prop where
  transportDbg_time {trans : Payload} {s : σ} {r : Payload × σ} :
    DebugPort.transportDbg trans s = .ok r → Kernel.timeStamp r.2 = Kernel.timeStamp s

instance {μ : Type} [BusPort μ] [DebugPort μ] : TimelessDebugPort (Timed μ) where
  transportDbg_time h := by
    obtain ⟨q, -, hq⟩ := StateExcept.map_eq_ok h
    cases hq
    rfl

namespace GdbServer

variable {σ : Type} [BusPort σ] [Kernel σ]

instance [HasClock σ] : HasClock (Linked σ) where
  wait_time h := by
    obtain ⟨sys, hwait, hsys⟩ := StateExcept.map_eq_ok h
    cases hsys
    exact HasClock.wait_time (σ := σ) hwait
  bTransport_time h := by
    obtain ⟨q, hq, hsys⟩ := StateExcept.map_eq_ok h
    cases hsys
    exact HasClock.bTransport_time (σ := σ) hq
  setIntrPending_time v s := HasClock.setIntrPending_time v s.sys
  stop_time s := HasClock.stop_time s.sys

variable [DebugPort σ] [TimelessDebugPort σ]

/-- No block of a command takes time. -/
theorem time_blocks : Blocks fun m : GdbM σ _ => StateExcept.Keeps Cpu.SameTime m where
  toClosed := StateExcept.Keeps.closed _
  throw e c a c' h := by cases h
  getRegs := StateExcept.Keeps.of_reads fun _ => rfl
  modifyRegs f := StateExcept.Keeps.of_modifies (fun _ => rfl) fun _ => rfl
  setHalted halted := StateExcept.Keeps.of_modifies (fun _ => rfl) fun _ => rfl
  changeBpSet f := StateExcept.Keeps.of_modifies (fun _ => rfl) fun _ => rfl
  readBusDebug addr c v c' h := by
    obtain ⟨r, hbus, h⟩ := StateExcept.except_bind_eq_ok h
    obtain ⟨q, hq, hr⟩ := StateExcept.map_eq_ok hbus
    subst hr
    cases h
    exact Cpu.sameTime_of_clock (TimelessDebugPort.transportDbg_time hq) rfl
  writeBusDebug addr v c u c' h := by
    obtain ⟨r, hbus, h⟩ := StateExcept.except_bind_eq_ok h
    obtain ⟨q, hq, hr⟩ := StateExcept.map_eq_ok hbus
    subst hr
    dsimp only at h
    split at h
    · cases h
    · cases h
      exact Cpu.sameTime_of_clock (TimelessDebugPort.transportDbg_time hq) rfl

theorem recvAndCall_time : StateExcept.Keeps Cpu.SameTime (recvAndCall : GdbM σ Str) := by
  refine time_blocks.recvAndCall ?_ ?_ ?_
  · exact fun _ => StateExcept.Keeps.of_modifies (fun _ => rfl) fun _ => rfl
  · exact fun _ => StateExcept.Keeps.of_modifies (fun _ => rfl) fun _ => rfl
  · intro c received c' h
    obtain ⟨tcp, -, rfl⟩ := receive_cases h
    rfl

theorem handlePending_time (fuel : Nat) :
    StateExcept.Keeps Cpu.SameTime (handlePending fuel : GdbM σ Unit) := by
  induction fuel with
  | zero => exact time_blocks.pure ()
  | succ fuel ih =>
    exact time_blocks.bind (StateExcept.Keeps.of_reads fun _ => rfl) fun _ =>
      time_blocks.ite (time_blocks.bind recvAndCall_time fun _ => ih) (time_blocks.pure ())

/-- The client's commands take no time. -/
instance : TimelessDebugger (Linked σ) where
  handleMessages_time h := by
    obtain ⟨⟨u, d⟩, hrun, he⟩ := StateExcept.map_eq_ok h
    cases he
    exact handlePending_time _ _ u d hrun
  sendBpReached_time h := by
    cases h
    rfl

end GdbServer

end TlmBoy
