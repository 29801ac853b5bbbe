import TlmBoy.Cpu.Blocks
import TlmBoy.Cpu.Interrupts
import TlmBoy.Cpu.Run
import TlmBoy.Lib.Machine
import TlmBoy.Platform

/-
  Breakpoints: the loop tests PC before `HandleInterrupts`, which may replace PC.

  `AfterMessages d m` names the state in which the test is made. `headAfterMessages_bp` is what
  happens at a breakpoint. `fetches_bp_iff` says when an instruction is fetched from one all the
  same: exactly when an interrupt is dispatched to a vector with a breakpoint. `breakpoints_first`
  puts both over whole runs without such a dispatch, and `vblank_skips_breakpoint` is a run with
  one.
-/

namespace TlmBoy

namespace Cpu

variable {σ : Type}

/-! ## Where a dispatch goes -/

section Dispatch

variable [BusPort σ]

/-- `HandleInterrupts` enters the routine of interrupt `k`. -/
def Dispatches (c : Cpu σ) (k : Nat) : Prop :=
  c.intrMasterEnable = true ∧ k < 5 ∧ IsLowest c.intr k

/-- The vector of interrupt `k`. -/
def vector (k : Nat) : U16 := BitVec.ofNat 16 (0x40 + 8 * k)

/-- A byte has a lowest bit below 5, or none of these bits. -/
theorem isLowest_or_none (v : U8) :
    (∃ k < 5, IsLowest v k) ∨ ∀ j < 5, v.getLsbD j = false := by
  by_cases hset : ∃ j < 5, v.getLsbD j = true
  · obtain ⟨j, hj, hbit⟩ := hset
    obtain ⟨k, hk, hlow⟩ := exists_isLowest_le hbit
    exact .inl ⟨k, by omega, hlow⟩
  · exact .inr fun j hj => Bool.eq_false_of_not_eq_true fun hbit => hset ⟨j, hj, hbit⟩

/-- PUSH of PC leaves PC. -/
theorem instrPush_pc {r : StackReg} {c c' : Cpu σ} {u : Unit} (h : instrPush r c = .ok (u, c')) :
    c'.regFile.pc = c.regFile.pc := by
  obtain ⟨w, c₀, hget, h⟩ := StateExcept.bind_eq_ok h
  cases hget
  obtain ⟨u, c₁, hhigh, h⟩ := StateExcept.bind_eq_ok h
  obtain ⟨w, c₂, hget, h⟩ := StateExcept.bind_eq_ok h
  cases hget
  obtain ⟨u, c₃, hlow, h⟩ := StateExcept.bind_eq_ok h
  cases h
  show c₃.regFile.pc = _
  rw [pushByte_regFile hlow, pushByte_regFile hhigh]

/-- After `HandleInterrupts` PC is the vector of the dispatched interrupt, or what it was. -/
theorem handleInterrupts_pc {c c' : Cpu σ} {u : Unit} (h : handleInterrupts c = .ok (u, c')) :
    (∃ k, Dispatches c k ∧ c'.regFile.pc = vector k) ∨
      ((∀ k, ¬ Dispatches c k) ∧ c'.regFile.pc = c.regFile.pc) := by
  rcases Bool.eq_false_or_eq_true c.intrMasterEnable with hime | hime
  · rw [handleInterrupts_enabled c hime, StateExcept.ite_apply] at h
    by_cases hintr : (c.intr != 0) = true
    · rw [if_pos hintr] at h
      obtain ⟨u₁, c₁, hset, h⟩ := StateExcept.bind_eq_ok h
      cases hset
      obtain ⟨u₂, c₂, hpush, h⟩ := StateExcept.bind_eq_ok h
      have hpc := instrPush_pc hpush
      rcases isLowest_or_none c.intr with ⟨k, hk, hlow⟩ | hnone
      · have hsel : (selectIsr c.intr : CpuM σ Unit) = _ := selectIsr_of_lowest hk hlow
        change selectIsr c.intr c₂ = _ at h
        rw [hsel] at h
        cases h
        exact Or.inl ⟨k, ⟨hime, hk, hlow⟩, rfl⟩
      · have hsel : (selectIsr c.intr : CpuM σ Unit) = pure () := selectIsr_of_none hnone
        change selectIsr c.intr c₂ = _ at h
        rw [hsel] at h
        cases h
        refine Or.inr ⟨fun k hd => ?_, hpc⟩
        have hclear := hnone k hd.2.1
        rw [hd.2.2.1] at hclear
        cases hclear
    · rw [if_neg hintr] at h
      cases h
      exact Or.inr ⟨fun k hd => hintr (bne_iff_ne.mpr hd.2.2.ne_zero), rfl⟩
  · rw [handleInterrupts_disabled c hime] at h
    cases h
    refine Or.inr ⟨fun k hd => ?_, rfl⟩
    have hon := hd.1
    rw [hime] at hon
    cases hon

/-- The push of a dispatch that returns has returned. -/
theorem push_of_handleInterrupts {c c' : Cpu σ} {u : Unit} {k : Nat} (hk : Dispatches c k)
    (h : handleInterrupts c = .ok (u, c')) :
    ∃ t, instrPush .pc { c with intrMasterEnable := false } = .ok ((), t) := by
  rw [handleInterrupts_enabled c hk.1, if_pos (bne_iff_ne.mpr hk.2.2.ne_zero)] at h
  obtain ⟨u₁, c₁, hset, h⟩ := StateExcept.bind_eq_ok h
  cases hset
  obtain ⟨u₂, c₂, hpush, -⟩ := StateExcept.bind_eq_ok h
  exact ⟨c₂, hpush⟩

/-- A dispatch returns if its push does, with PC at the vector. -/
theorem handleInterrupts_of_push {c t : Cpu σ} {k : Nat} (hk : Dispatches c k)
    (hpush : instrPush .pc { c with intrMasterEnable := false } = .ok ((), t)) :
    ∃ c', handleInterrupts c = .ok ((), c') ∧ c'.regFile.pc = vector k := by
  obtain ⟨hime, hlt, hlow⟩ := hk
  have hsel : (instrPush .pc >>= fun _ => selectIsr c.intr) { c with intrMasterEnable := false } =
      selectIsr c.intr t := StateExcept.bind_of_ok hpush
  have henter : ∃ c', (enterIsr (vector k) ((1 : U8) <<< k) : CpuM σ Unit) t = .ok ((), c') ∧
      c'.regFile.pc = vector k := ⟨_, rfl, rfl⟩
  obtain ⟨c', hc', hpc⟩ := henter
  refine ⟨c', ?_, hpc⟩
  rw [handleInterrupts_enabled c hime, if_pos (bne_iff_ne.mpr hlow.ne_zero)]
  exact hsel.trans ((congrFun (selectIsr_of_lowest hlt hlow) t).trans hc')

end Dispatch

/-! ## One iteration -/

section Cycle

variable [BusPort σ] [Kernel σ] [Debugger σ]

/-- `m` is the state of the iteration that starts in `d`, once the messages are handled. -/
def AfterMessages (d m : Cpu σ) : Prop := pollMessages d = .ok ((), m)

/-- At a breakpoint the CPU is halted and the client told, and no instruction is fetched. -/
theorem headAfterMessages_bp (m : Cpu σ) (hrun : m.halted = false)
    (hbp : m.regFile.pc ∈ m.gdbServer.bpSet) :
    (headAfterMessages : CpuM σ Bool) m =
      (sendBpReached >>= fun _ => kernelWait (4 * GbConst.kNsPerClkCycle) >>= fun _ =>
        pure false) { m with halted := true } := by
  show (if m.halted = true then pure false else _ : CpuM σ Bool) m = _
  rw [if_neg (Bool.eq_false_iff.mp hrun)]
  show (if decide (m.regFile.pc ∈ m.gdbServer.bpSet) = true then _ else _ : CpuM σ Bool) m = _
  rw [if_pos (decide_eq_true hbp)]
  rfl

/-- Elsewhere the interrupts are handled and an instruction is fetched. -/
theorem headAfterMessages_go (m : Cpu σ) (hrun : m.halted = false)
    (hbp : m.regFile.pc ∉ m.gdbServer.bpSet) :
    (headAfterMessages : CpuM σ Bool) m =
      (handleInterrupts >>= fun _ => pure true) { m with waitNs := 0 } := by
  show (if m.halted = true then pure false else _ : CpuM σ Bool) m = _
  rw [if_neg (Bool.eq_false_iff.mp hrun)]
  show (if decide (m.regFile.pc ∈ m.gdbServer.bpSet) = true then _ else _ : CpuM σ Bool) m = _
  rw [if_neg fun h => hbp (of_decide_eq_true h)]
  rfl

theorem headAfterMessages_halted (m : Cpu σ) (hrun : m.halted = true) :
    (headAfterMessages : CpuM σ Bool) m = .ok (false, m) := by
  show (if m.halted = true then pure false else _ : CpuM σ Bool) m = _
  rw [hrun]
  rfl

/-- If an instruction is fetched, then PC had no breakpoint at the test. -/
theorem fetch_cases {m s : Cpu σ} (h : headAfterMessages m = .ok (true, s)) :
    m.halted = false ∧ m.regFile.pc ∉ m.gdbServer.bpSet ∧ s.gdbServer = m.gdbServer ∧
      ((∃ k, Dispatches m k ∧ s.regFile.pc = vector k) ∨
        ((∀ k, ¬ Dispatches m k) ∧ s.regFile.pc = m.regFile.pc)) := by
  have hrun : m.halted = false := by
    apply Bool.eq_false_of_not_eq_true
    intro hhalted
    rw [headAfterMessages_halted m hhalted] at h
    cases h
  have hbp : m.regFile.pc ∉ m.gdbServer.bpSet := by
    intro hbp
    rw [headAfterMessages_bp m hrun hbp] at h
    obtain ⟨u, c₁, -, h⟩ := StateExcept.bind_eq_ok h
    obtain ⟨u, c₂, -, h⟩ := StateExcept.bind_eq_ok h
    cases h
  rw [headAfterMessages_go m hrun hbp] at h
  obtain ⟨u, c₁, hintr, hpure⟩ := StateExcept.bind_eq_ok h
  cases hpure
  have hmembers := handleInterrupts_of_blocks loopMembers_blocks _ u s hintr
  have hpc := handleInterrupts_pc hintr
  exact ⟨hrun, hbp, congrArg Prod.fst hmembers, hpc⟩

/-- In the state `m` an interrupt is dispatched, PC can be pushed, and the vector has a
    breakpoint. -/
def DispatchesToBp (m : Cpu σ) : Prop :=
  m.halted = false ∧ m.regFile.pc ∉ m.gdbServer.bpSet ∧
    ∃ k, Dispatches m k ∧ vector k ∈ m.gdbServer.bpSet ∧
      ∃ t, instrPush .pc { m with waitNs := 0, intrMasterEnable := false } = .ok ((), t)

/-- An instruction is fetched from a breakpoint exactly by way of such a dispatch. -/
theorem fetches_bp_iff (m : Cpu σ) :
    (∃ s, headAfterMessages m = .ok (true, s) ∧ s.regFile.pc ∈ s.gdbServer.bpSet) ↔
      DispatchesToBp m := by
  constructor
  · rintro ⟨s, hs, hmem⟩
    obtain ⟨hrun, hbp, hgdb, hpc⟩ := fetch_cases hs
    rw [hgdb] at hmem
    rcases hpc with ⟨k, hk, hvec⟩ | ⟨-, hsame⟩
    · refine ⟨hrun, hbp, k, hk, hvec ▸ hmem, ?_⟩
      rw [headAfterMessages_go m hrun hbp] at hs
      obtain ⟨u, c₁, hintr, -⟩ := StateExcept.bind_eq_ok hs
      exact push_of_handleInterrupts (c := { m with waitNs := 0 }) hk hintr
    · exact absurd (hsame ▸ hmem) hbp
  · rintro ⟨hrun, hbp, k, hk, hmem, t, hpush⟩
    obtain ⟨s, hs, hvec⟩ := @handleInterrupts_of_push σ _ { m with waitNs := 0 } t k hk hpush
    have hhead : headAfterMessages m = .ok (true, s) := by
      rw [headAfterMessages_go m hrun hbp]
      exact StateExcept.bind_of_ok hs
    refine ⟨s, hhead, ?_⟩
    rw [hvec, (fetch_cases hhead).2.2.1]
    exact hmem

/-! ## Runs -/

/-- In the iteration that starts in `d` breakpoints come first: no instruction is fetched from
    one, and if PC is at one then the CPU is halted and the client told instead. -/
def BreaksFirst (d : Cpu σ) : Prop :=
  ∀ m, AfterMessages d m →
    (∀ s, headAfterMessages m = .ok (true, s) → s.regFile.pc ∉ s.gdbServer.bpSet) ∧
    (m.halted = false → m.regFile.pc ∈ m.gdbServer.bpSet →
      (headAfterMessages : CpuM σ Bool) m =
        (sendBpReached >>= fun _ => kernelWait (4 * GbConst.kNsPerClkCycle) >>= fun _ =>
          pure false) { m with halted := true })

/-- No interrupt is dispatched to a breakpoint in the iteration that starts in `d`. -/
def NoDispatchToBp (d : Cpu σ) : Prop := ∀ m, AfterMessages d m → ¬ DispatchesToBp m

theorem breaksFirst_iff (d : Cpu σ) : BreaksFirst d ↔ NoDispatchToBp d := by
  constructor
  · intro h m hm hbp
    obtain ⟨s, hs, hmem⟩ := (fetches_bp_iff m).mpr hbp
    exact (h m hm).1 s hs hmem
  · intro h m hm
    exact ⟨fun s hs hmem => h m hm ((fetches_bp_iff m).mp ⟨s, hs, hmem⟩), headAfterMessages_bp m⟩

/-- In every state that is reached breakpoints come first, exactly if in none of them an interrupt
    is dispatched to a breakpoint. -/
theorem breakpoints_first_iff (fuel : Nat) (c : Cpu σ) :
    (∀ d, Machine.Reaches (cycle fuel) (fun _ => True) c d → BreaksFirst d) ↔
      ∀ d, Machine.Reaches (cycle fuel) (fun _ => True) c d → NoDispatchToBp d := by
  constructor
  · intro h d hd
    exact (breaksFirst_iff d).mp (h d hd)
  · intro h d hd
    exact (breaksFirst_iff d).mpr (h d hd)

end Cycle

/-- A machine with the V-Blank interrupt requested and a breakpoint at its vector. -/
def vblankWithBreakpoint : Cpu (Timed Gb) :=
  let c := interruptible 0x01 0x01
  { regFile := c.regFile
    intrMasterEnable := true
    initSocket :=
      { payload := c.initSocket.payload
        gbcmd := c.initSocket.gbcmd
        hasRomBank0 := true
        sys := { now := 0, schedule := .once 10000 0, stopped := false, dev := c.initSocket.sys } }
    gdbServer := { isAttached := true, bpSet := {0x40} } }

/-- The first iteration fetches the instruction at 0x40 without a stop. -/
theorem vblank_skips_breakpoint : ¬ ∀ d, Machine.Reaches (cycle 0) (fun _ => True)
    vblankWithBreakpoint d → BreaksFirst d := by
  intro h
  have hrun : (headAfterMessages vblankWithBreakpoint).map (fun r => (r.1, r.2.regFile.pc)) =
      .ok (true, 0x40) := by rfl
  obtain ⟨⟨go, s⟩, hs, hfetch⟩ := StateExcept.map_eq_ok hrun
  obtain rfl : go = true := congrArg Prod.fst hfetch
  have hpc : s.regFile.pc = 0x40 := congrArg Prod.snd hfetch
  have hgdb : s.gdbServer = vblankWithBreakpoint.gdbServer := (fetch_cases hs).2.2.1
  have hfirst := (h _ Relation.ReflTransGen.refl vblankWithBreakpoint rfl).1 s hs
  rw [hpc, hgdb] at hfirst
  exact hfirst (Finset.mem_singleton_self _)

end Cpu

end TlmBoy
