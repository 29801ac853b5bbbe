import TlmBoy.Cpu.Blocks
import TlmBoy.Cpu.Run
import TlmBoy.GbTop
import TlmBoy.Lib.Machine
import TlmBoy.Platform

/-
  The low four bits of F.

  No instruction changes them: the flag setters write bits 4 to 7, and POP puts them back after
  it has overwritten F (`instrPop_keeps`). `cycle_keeps` is the step and `low_nibble_zero` the
  invariant over whole runs, with what it means for PUSH AF.
-/

namespace TlmBoy

namespace Cpu

variable {σ : Type}

/-! ## One program -/

/-- The low four bits of F are the same. -/
def SameLowNibble (c c' : Cpu σ) : Prop := c'.regFile.f &&& 0x0F = c.regFile.f &&& 0x0F

instance : Std.Refl (SameLowNibble (σ := σ)) := ⟨fun _ => rfl⟩

instance : IsTrans (Cpu σ) SameLowNibble := ⟨fun _ _ _ h h' => h'.trans h⟩

/-- A flag setter leaves the low nibble alone. -/
theorem setBit_and_0F (v : U8) (b : Bool) {i : Nat} (hi : 4 ≤ i) :
    setBit v b i &&& 0x0F = v &&& 0x0F := by
  apply BitVec.eq_of_getLsbD_eq
  intro j hj
  rw [BitVec.getLsbD_and, BitVec.getLsbD_and, getLsbD_setBit v b i j hj]
  by_cases hij : j = i
  · have hmask : (0x0F : U8).getLsbD j = false := by
      obtain rfl | rfl | rfl | rfl : j = 4 ∨ j = 5 ∨ j = 6 ∨ j = 7 := by omega
      all_goals decide
    rw [hmask, Bool.and_false, Bool.and_false]
  · rw [if_neg hij]

/-- Putting back the low nibble. -/
theorem restore_and_0F (f old : U8) : ((f &&& 0xF0) ||| (old &&& 0x0F)) &&& 0x0F =
    old &&& 0x0F := by
  apply BitVec.eq_of_getLsbD_eq
  intro j hj
  simp only [BitVec.getLsbD_and, BitVec.getLsbD_or]
  have hmask : (0xF0 : U8).getLsbD j = !(0x0F : U8).getLsbD j := by
    obtain rfl | rfl | rfl | rfl | rfl | rfl | rfl | rfl :
      j = 0 ∨ j = 1 ∨ j = 2 ∨ j = 3 ∨ j = 4 ∨ j = 5 ∨ j = 6 ∨ j = 7 := by omega
    all_goals decide
  rw [hmask]
  cases (0x0F : U8).getLsbD j <;> simp

theorem keeps_of_regFile {α : Type} {m : CpuM σ α}
    (h : ∀ c a c', m c = .ok (a, c') → c'.regFile = c.regFile) :
    StateExcept.Keeps SameLowNibble m := by
  intro c a c' hm
  rw [SameLowNibble, h c a c' hm]

theorem modifyRegs_keeps {f : RegFile → RegFile}
    (h : ∀ rf : RegFile, (f rf).f &&& 0x0F = rf.f &&& 0x0F) :
    StateExcept.Keeps SameLowNibble (modifyRegs f : CpuM σ Unit) :=
  StateExcept.Keeps.of_modifies (fun _ => rfl) fun c => h c.regFile

section Programs

variable [BusPort σ]

/-- POP overwrites F, perhaps with a byte from memory, and puts its low nibble back. -/
theorem instrPop_keeps (r : StackReg) :
    StateExcept.Keeps SameLowNibble (instrPop r : CpuM σ Unit) := by
  intro c u c' h
  obtain ⟨rf, c₀, hget, h⟩ := StateExcept.bind_eq_ok h
  cases hget
  obtain ⟨lo, c₁, -, h⟩ := StateExcept.bind_eq_ok h
  obtain ⟨hi, c₂, -, h⟩ := StateExcept.bind_eq_ok h
  cases h
  exact restore_and_0F _ _

/-- PUSH AF writes A and then F. -/
theorem instrPush_af (t : Cpu σ) : (instrPush .af : CpuM σ Unit) t =
    (pushByte t.regFile.a >>= fun _ => pushByte t.regFile.f >>= fun _ => setWaitNs 16) t := by
  show (pushByte (msb (t.regFile.a ++ t.regFile.f)) >>= fun _ => getStackReg .af >>= fun w =>
    pushByte (lsb w) >>= fun _ => setWaitNs 16) t = _
  rw [msb_append]
  cases hpush : pushByte t.regFile.a t with
  | error e => rw [StateExcept.bind_of_error hpush, StateExcept.bind_of_error hpush]
  | ok r =>
    rw [StateExcept.bind_of_ok hpush, StateExcept.bind_of_ok hpush]
    show (pushByte (lsb (r.2.regFile.a ++ r.2.regFile.f)) >>= fun _ => setWaitNs 16) r.2 = _
    rw [lsb_append, pushByte_regFile hpush]

theorem lowNibble_blocks : Blocks fun m : CpuM σ _ => StateExcept.Keeps SameLowNibble m where
  toClosed := StateExcept.Keeps.closed _
  throw e := by
    intro c a c' h
    cases h
  getRegs := StateExcept.Keeps.of_reads fun _ => rfl
  setReg r v := modifyRegs_keeps fun rf => by rw [RegFile.set_f]
  setReg16 r v := modifyRegs_keeps fun rf => by rw [RegFile.set16_f]
  setPc v := modifyRegs_keeps fun rf => rfl
  setFlagC v := modifyRegs_keeps fun rf => setBit_and_0F _ _ (by decide)
  setFlagH v := modifyRegs_keeps fun rf => setBit_and_0F _ _ (by decide)
  setFlagN v := modifyRegs_keeps fun rf => setBit_and_0F _ _ (by decide)
  setFlagZ v := modifyRegs_keeps fun rf => setBit_and_0F _ _ (by decide)
  setIntrMasterEnable v := StateExcept.Keeps.of_modifies (fun _ => rfl) fun _ => rfl
  setWaitNs n := StateExcept.Keeps.of_modifies (fun _ => rfl) fun _ => rfl
  setGbcmd cmd := StateExcept.Keeps.of_modifies (fun _ => rfl) fun _ => rfl
  readBus addr cmd := keeps_of_regFile fun _ _ _ => readBus_regFile
  writeBus addr v := keeps_of_regFile fun _ _ _ => writeBus_regFile
  getIntrMasterEnable := StateExcept.Keeps.of_reads fun _ => rfl
  pendingInterrupts := StateExcept.Keeps.of_reads fun _ => rfl
  clearPending flag := StateExcept.Keeps.of_modifies (fun _ => rfl) fun _ => rfl
  pop r := instrPop_keeps r

end Programs

/-! ## One iteration of the loop -/

section Execution

variable [BusPort σ] [Kernel σ]

omit [BusPort σ] in
theorem kernelWait_keeps (t : Nat) :
    StateExcept.Keeps SameLowNibble (kernelWait t : CpuM σ Unit) :=
  StateExcept.Keeps.of_map (fun _ => rfl) fun _ _ => rfl

theorem instrEmu_keeps : StateExcept.Keeps SameLowNibble (instrEmu : CpuM σ Unit) :=
  keeps_instrEmu lowNibble_blocks (fun _ _ => rfl) fun _ => rfl

end Execution

section Cycle

variable [BusPort σ] [Kernel σ] [Debugger σ]

omit [BusPort σ] [Kernel σ] in
theorem sendBpReached_keeps : StateExcept.Keeps SameLowNibble (sendBpReached : CpuM σ Unit) :=
  StateExcept.Keeps.of_map (fun _ => rfl) fun _ _ => rfl

/-- The debugger's messages that are handled next write no register. -/
def DebuggerKeepsRegs (c : Cpu σ) : Prop :=
  ∀ c', Debugger.handleMessages c = .ok c' → c'.regFile = c.regFile

theorem headAfterMessages_keeps :
    StateExcept.Keeps SameLowNibble (headAfterMessages : CpuM σ Bool) := by
  have hblocks := lowNibble_blocks (σ := σ)
  refine hblocks.bind (StateExcept.Keeps.of_reads fun _ => rfl) fun c => ?_
  refine hblocks.ite (hblocks.pure false) ?_
  refine hblocks.bind hblocks.getPc fun pc => hblocks.bind
    (StateExcept.Keeps.of_reads fun _ => rfl) fun reached => hblocks.ite ?_ ?_
  · exact hblocks.bind (StateExcept.Keeps.of_modifies (fun _ => rfl) fun _ => rfl) fun _ =>
      hblocks.bind sendBpReached_keeps fun _ => hblocks.bind (kernelWait_keeps _) fun _ =>
        hblocks.pure false
  · exact hblocks.bind (hblocks.setWaitNs 0) fun _ =>
      hblocks.bind (handleInterrupts_of_blocks hblocks) fun _ => hblocks.pure true

omit [BusPort σ] [Kernel σ] in
theorem pollMessages_regFile {c c' : Cpu σ} {u : Unit} (hdebug : DebuggerKeepsRegs c)
    (h : pollMessages c = .ok (u, c')) : c'.regFile = c.regFile := by
  obtain ⟨pending, c₀, hget, h⟩ := StateExcept.bind_eq_ok h
  rw [isMsgPending_eq] at hget
  obtain ⟨hpending, rfl⟩ := Prod.mk.inj (Except.ok.inj hget)
  cases pending with
  | false =>
    cases h
    rfl
  | true =>
    obtain ⟨c₁, hmsg, hc⟩ := StateExcept.map_eq_ok h
    cases hc
    exact hdebug _ hmsg

/-- The head of an iteration, when the debugger writes no register. -/
theorem cycleHead_keeps {c t : Cpu σ} {b : Bool} (hdebug : DebuggerKeepsRegs c)
    (h : cycleHead c = .ok (b, t)) : SameLowNibble c t := by
  obtain ⟨u, c₁, hpoll, h⟩ := StateExcept.bind_eq_ok h
  have hrest := headAfterMessages_keeps c₁ b t h
  rw [SameLowNibble, pollMessages_regFile hdebug hpoll] at hrest
  exact hrest

/-- The step: no iteration changes the low nibble of F. -/
theorem cycle_keeps (fuel : Nat) {c d : Cpu σ} (hdebug : DebuggerKeepsRegs c)
    (h : cycle fuel c = .ok d) : SameLowNibble c d := by
  obtain ⟨⟨u, d'⟩, hrun, rfl⟩ := StateExcept.map_eq_ok h
  obtain ⟨go, t, hhead, hrest⟩ := StateExcept.bind_eq_ok hrun
  have hbody := keeps_fetched lowNibble_blocks kernelWait_keeps instrEmu_keeps (fun _ _ => rfl)
    fuel go t u d' hrest
  exact IsTrans.trans _ _ _ (cycleHead_keeps hdebug hhead) hbody

/-! ## Runs -/

theorem fetches_keeps {c t : Cpu σ} {instrByte : U8} (hdebug : DebuggerKeepsRegs c)
    (h : Fetches c instrByte t) : SameLowNibble c t := by
  obtain ⟨s, hhead, hfetch⟩ := h
  exact IsTrans.trans _ _ _ (cycleHead_keeps hdebug hhead)
    (lowNibble_blocks.fetchNextInstrByte s instrByte t hfetch)

/-- In every state of a run that starts with a zero low nibble of F the nibble is zero, and a
    PUSH AF that is fetched there writes a byte with a zero low nibble. -/
theorem low_nibble_zero (fuel : Nat) (c d : Cpu σ)
    (hrun : Machine.Reaches (cycle fuel) DebuggerKeepsRegs c d)
    (hzero : c.regFile.f &&& 0x0F = 0) :
    d.regFile.f &&& 0x0F = 0 ∧
      ∀ t, DebuggerKeepsRegs d → Fetches d 0xF5 t →
        t.regFile.f &&& 0x0F = 0 ∧
        decodeExecute fuel 0xF5 t =
          (pushByte t.regFile.a >>= fun _ => pushByte t.regFile.f >>= fun _ => setWaitNs 16) t := by
  have hd : d.regFile.f &&& 0x0F = 0 := by
    refine Machine.Reaches.invariant (I := fun c => c.regFile.f &&& 0x0F = 0) ?_ hrun hzero
    intro s t hdebug hstep hs
    exact (cycle_keeps fuel hdebug hstep).trans hs
  exact ⟨hd, fun t hdebug hfetch => ⟨(fetches_keeps hdebug hfetch).trans hd, instrPush_af t⟩⟩

end Cycle

/-- A machine about to execute POP AF and PUSH AF, with SP on memory full of ones. -/
def popsAf : Cpu (Timed Gb) :=
  { regFile := { pc := 0x150, sp := 0xC000 }
    initSocket :=
      { payload := {}
        gbcmd := .gbReadInst
        hasRomBank0 := true
        sys :=
          { now := 0
            schedule := .once 10000 0
            stopped := false
            dev := { Gb.init (.rom (.init (fun i => if i.val = 0x150 then 0xF1 else 0xF5)
                  (fun _ => 0) (fun _ => 0) false))
                { ongoingTransmission := false, regSc := 0 }
                { regDiv := 0, regTac := 0, regTima := 0, regTma := 0 } with
              workRam := ⟨fun _ => 0xFF⟩ } } } }

/-- POP AF of the byte 0xFF leaves 0xF0 in F, and the PUSH AF after it writes that. -/
theorem pop_af_zero_nibble : ∃ d t, cycle 0 popsAf = .ok d ∧ Fetches d 0xF5 t ∧
    d.regFile.f = 0xF0 ∧ d.regFile.f &&& 0x0F = 0 ∧ t.regFile.f &&& 0x0F = 0 := by
  have hf : (cycle 0 popsAf).map (fun d => d.regFile.f) = .ok 0xF0 := by rfl
  have hfetch : (cycle 0 popsAf >>= fun d => (cycleHead >>= fun go =>
      fetchNextInstrByte >>= fun b => pure (go, b)) d).map Prod.fst = .ok (true, 0xF5) := by rfl
  obtain ⟨d, hd, hdf⟩ := StateExcept.map_eq_ok hf
  obtain ⟨⟨_, t⟩, hgo, hb⟩ := StateExcept.map_eq_ok hfetch
  cases hb
  rw [hd, ok_bind] at hgo
  obtain ⟨go, s, hhead, hgo⟩ := StateExcept.bind_eq_ok hgo
  obtain ⟨b, t', hbyte, hgo⟩ := StateExcept.bind_eq_ok hgo
  cases hgo
  have hkeeps : ∀ c : Cpu (Timed Gb), DebuggerKeepsRegs c := by
    intro c c' h
    cases h
    rfl
  have hrun : Machine.Reaches (cycle 0) DebuggerKeepsRegs popsAf d :=
    Machine.Reaches.single (hkeeps popsAf) hd
  have hall := low_nibble_zero 0 popsAf d hrun rfl
  exact ⟨d, t, hd, ⟨s, hhead, hbyte⟩, hdf, hall.1,
    (hall.2 t (hkeeps d) ⟨s, hhead, hbyte⟩).1⟩

end Cpu

end TlmBoy
