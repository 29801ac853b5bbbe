import TlmBoy.Cpu.Blocks
import TlmBoy.Platform

/-
  The CPU ahead of the kernel, and the same CPU with the kernel at its time.

  In batched mode `local_time_delta_` is time that the CPU has used and not waited for. `synced c`
  is `c` in single-step mode with that time passed and nothing else changed. No instruction but
  HALT looks at the clock, so running it from `synced c` is running it from `c` (`synced_blocks`),
  and none moves the clock (`clock_blocks`). Only EMU can stop the simulation (`emu_cases`).
-/

namespace TlmBoy

variable {μ : Type} [BusPort μ]

theorem bTransport_delay (d : Nat) (p : Payload) (s : Timed μ) :
    BusPort.bTransport p (s.delay d) =
      (BusPort.bTransport p s).map fun r => (r.1, r.2.delay d) := by
  show Except.map _ (BusPort.bTransport p s.dev) =
    Except.map _ (Except.map _ (BusPort.bTransport p s.dev))
  cases BusPort.bTransport p s.dev with
  | error e => rfl
  | ok r => rfl

/-- A bus transaction changes the devices only. -/
theorem bTransport_clock {p : Payload} {s : Timed μ} {r : Payload × Timed μ}
    (h : BusPort.bTransport p s = .ok r) : r.2 = { s with dev := r.2.dev } := by
  obtain ⟨q, -, hq⟩ := StateExcept.map_eq_ok h
  subst hq
  rfl

namespace Cpu

/-! ## Moving the clock -/

/-- A socket with the clock moved. -/
def delaySocket (d : Nat) (s : InitSocket (Timed μ)) : InitSocket (Timed μ) :=
  { s with sys := s.sys.delay d }

theorem readBus_delaySocket (d : Nat) (addr : U16) (cmd : GbCommand)
    (s : InitSocket (Timed μ)) : (delaySocket d s).readBus addr cmd =
      (s.readBus addr cmd).map fun r => (r.1, delaySocket d r.2) := by
  unfold InitSocket.readBus
  by_cases h : addr.toNat < 0x4000 ∧ s.hasRomBank0 = true
  · rw [dif_pos h, dif_pos (show _ ∧ (delaySocket d s).hasRomBank0 = true from h)]
    rfl
  · rw [dif_neg h, dif_neg (show ¬ (_ ∧ (delaySocket d s).hasRomBank0 = true) from h)]
    refine StateExcept.bind_eq_map (bTransport_delay d _ s.sys) fun r => ?_
    dsimp only
    by_cases herr : r.1.responseStatus.isResponseError = true
    · rw [if_pos herr, if_pos herr]
      rfl
    · rw [if_neg herr, if_neg herr]
      rfl

theorem writeBus_delaySocket (d : Nat) (addr : U16) (v : U8) (s : InitSocket (Timed μ)) :
    (delaySocket d s).writeBus addr v = (s.writeBus addr v).map (delaySocket d) :=
  StateExcept.bind_eq_map (bTransport_delay d _ s.sys) fun _ => rfl

/-- The CPU in single-step mode at the virtual time of `c`. -/
def synced (c : Cpu (Timed μ)) : Cpu (Timed μ) :=
  { c with
    singleStep := true
    localTimeDelta := 0
    initSocket := delaySocket c.localTimeDelta c.initSocket }

theorem synced_blocks :
    Blocks fun m : CpuM (Timed μ) _ => StateExcept.Commutes synced m := by
  refine blocks_of_modifyRegs (StateExcept.Commutes.closed _) ?_ ?_ ?_ ?_ ?_ ?_ ?_ ?_ ?_ ?_ ?_
  · exact fun e c => rfl
  · exact StateExcept.Commutes.of_reads (fun _ => rfl) fun _ => rfl
  · exact fun f => StateExcept.Commutes.of_modifies (fun _ => rfl) fun _ => rfl
  · exact fun v => StateExcept.Commutes.of_modifies (fun _ => rfl) fun _ => rfl
  · exact fun n => StateExcept.Commutes.of_modifies (fun _ => rfl) fun _ => rfl
  · exact fun cmd => StateExcept.Commutes.of_modifies (fun _ => rfl) fun _ => rfl
  · intro addr cmd c
    show Except.map _ ((delaySocket _ c.initSocket).readBus addr cmd) = _
    rw [readBus_delaySocket]
    unfold readBus
    cases c.initSocket.readBus addr cmd with
    | error e => rfl
    | ok r => rfl
  · intro addr v c
    show Except.map _ ((delaySocket _ c.initSocket).writeBus addr v) = _
    rw [writeBus_delaySocket]
    unfold writeBus
    cases c.initSocket.writeBus addr v with
    | error e => rfl
    | ok s => rfl
  · exact StateExcept.Commutes.of_reads (fun _ => rfl) fun _ => rfl
  · exact StateExcept.Commutes.of_reads (fun _ => rfl) fun _ => rfl
  · exact fun flag => StateExcept.Commutes.of_modifies (fun _ => rfl) fun _ => rfl

/-! ## The clock is kept -/

/-- Of the simulation only the devices differ. -/
def SameClock (c c' : Cpu (Timed μ)) : Prop :=
  c'.initSocket.sys = { c.initSocket.sys with dev := c'.initSocket.sys.dev }

instance : Std.Refl (@SameClock μ) := ⟨fun _ => rfl⟩

instance : IsTrans (Cpu (Timed μ)) SameClock where
  trans a b c h h' := by
    unfold SameClock at h h' ⊢
    rw [h', h]

theorem readBus_clock {addr : U16} {cmd : GbCommand} {s : InitSocket (Timed μ)}
    {r : U8 × InitSocket (Timed μ)} (h : s.readBus addr cmd = .ok r) :
    r.2.sys = { s.sys with dev := r.2.sys.dev } := by
  unfold InitSocket.readBus at h
  by_cases hdmi : addr.toNat < 0x4000 ∧ s.hasRomBank0 = true
  · rw [dif_pos hdmi] at h
    cases h
    rfl
  · rw [dif_neg hdmi] at h
    obtain ⟨q, hq, h⟩ := StateExcept.except_bind_eq_ok h
    dsimp only at h
    by_cases herr : q.1.responseStatus.isResponseError = true
    · rw [if_pos herr] at h
      cases h
    · rw [if_neg herr] at h
      cases h
      exact bTransport_clock hq

theorem writeBus_clock {addr : U16} {v : U8} {s s' : InitSocket (Timed μ)}
    (h : s.writeBus addr v = .ok s') : s'.sys = { s.sys with dev := s'.sys.dev } := by
  obtain ⟨q, hq, h⟩ := StateExcept.except_bind_eq_ok h
  cases h
  exact bTransport_clock hq

theorem clock_blocks : Blocks fun m : CpuM (Timed μ) _ => StateExcept.Keeps SameClock m := by
  refine blocks_of_modifyRegs (StateExcept.Keeps.closed _) ?_ ?_ ?_ ?_ ?_ ?_ ?_ ?_ ?_ ?_ ?_
  · intro α e c a c' h
    cases h
  · exact StateExcept.Keeps.of_reads fun _ => rfl
  · exact fun f => StateExcept.Keeps.of_modifies (fun _ => rfl) fun _ => rfl
  · exact fun v => StateExcept.Keeps.of_modifies (fun _ => rfl) fun _ => rfl
  · exact fun n => StateExcept.Keeps.of_modifies (fun _ => rfl) fun _ => rfl
  · exact fun cmd => StateExcept.Keeps.of_modifies (fun _ => rfl) fun _ => rfl
  · intro addr cmd c v c' h
    obtain ⟨r, hread, hr⟩ := StateExcept.map_eq_ok h
    cases hr
    exact readBus_clock hread
  · intro addr v c u c' h
    obtain ⟨s, hwrite, hs⟩ := StateExcept.map_eq_ok h
    cases hs
    exact writeBus_clock hwrite
  · exact StateExcept.Keeps.of_reads fun _ => rfl
  · exact StateExcept.Keeps.of_reads fun _ => rfl
  · exact fun flag => StateExcept.Keeps.of_modifies (fun _ => rfl) fun _ => rfl

/-! ## EMU -/

/-- The state in which `sc_stop` was called. -/
def stoppedSim (c : Cpu (Timed μ)) : Cpu (Timed μ) :=
  { c with initSocket := { c.initSocket with sys := Kernel.stop c.initSocket.sys } }

/-- The cases of EMU. -/
def emuCase : Nat → CpuM (Timed μ) Unit
  | 0 => setCpuState .testPassed
  | 1 => setCpuState .testFailed
  | 2 => modify stoppedSim
  | _ => pure ()

theorem instrEmu_eq (c : Cpu (Timed μ)) : instrEmu c = emuCase c.regFile.b.toNat c := by
  have hrun : instrEmu c = (match c.regFile.b.toNat with
      | 0 => setCpuState .testPassed
      | 1 => setCpuState .testFailed
      | 2 => modify stoppedSim
      | _ => pure () : CpuM (Timed μ) Unit) c := rfl
  rw [hrun]
  unfold emuCase
  rfl

theorem instrEmu_synced : StateExcept.Commutes synced (instrEmu : CpuM (Timed μ) Unit) := by
  intro c
  rw [instrEmu_eq, instrEmu_eq]
  show emuCase c.regFile.b.toNat (synced c) = _
  generalize c.regFile.b.toNat = n
  unfold emuCase
  split <;> rfl

/-- EMU stops the simulation if B is 2, and otherwise changes the verdict at most. -/
theorem emu_cases (c : Cpu (Timed μ)) :
    (c.regFile.b = 2 ∧ instrEmu c = .ok ((), stoppedSim c)) ∨
      (c.regFile.b ≠ 2 ∧ ∃ verdict, instrEmu c = .ok ((), { c with cpuState := verdict })) := by
  rw [instrEmu_eq]
  by_cases hb : c.regFile.b = 2
  · refine .inl ⟨hb, ?_⟩
    rw [hb]
    rfl
  · refine .inr ⟨hb, ?_⟩
    have hn : c.regFile.b.toNat ≠ 2 := fun h => hb (BitVec.eq_of_toNat_eq h)
    generalize c.regFile.b.toNat = n at hn
    unfold emuCase
    split
    · exact ⟨_, rfl⟩
    · exact ⟨_, rfl⟩
    · exact absurd rfl hn
    · exact ⟨c.cpuState, rfl⟩

end Cpu

end TlmBoy
