import TlmBoy.Cpu.Decoupling
import TlmBoy.Isa.OpcodeTable
import TlmBoy.Lib.LeadsTo

/-
  Machine code on the Game Boy: what pieces of a program in ROM do to the registers and devices.

  `At rf gb` is the state of a CPU that runs with interrupts disabled and no breakpoints: its
  registers are `rf` and its devices `gb`, up to IF, which the peripherals of the schedule may set
  at any time. A piece of code is specified by `Leads fuel n (At rf gb) (At rf' gb')`.
  `steps_of_run` takes one iteration of the loop apart; from it there is one rule for each kind of
  instruction, and the rules of `LeadsTo` put the instructions together.
-/

namespace TlmBoy

/-! ## Devices -/

/-- The same devices, but for what has been set in IF. -/
def SameButIf (gb gb' : Gb) : Prop := gb' = { gb with regIf := gb'.regIf }

namespace SameButIf

variable {gb gb' gb'' : Gb}

theorem refl (gb : Gb) : SameButIf gb gb := rfl

theorem trans (h : SameButIf gb gb') (h' : SameButIf gb' gb'') : SameButIf gb gb'' := by
  unfold SameButIf at h h' ⊢
  rw [h', h]

theorem romLow (h : SameButIf gb gb') : gb'.cartridge.romLow = gb.cartridge.romLow := by
  rw [h]

end SameButIf

namespace Gb

/-- A byte of the first ROM bank, as the CPU reads it. -/
def romByte (gb : Gb) (adr : U16) : U8 :=
  if h : adr.toNat < 0x4000 then gb.cartridge.romLow.data ⟨adr.toNat, h⟩ else 0

/-- A write of `v` to `adr` turns the devices into `gb'`, whatever IF is. -/
def WritesTo (gb : Gb) (adr : U16) (v : U8) (gb' : Gb) : Prop :=
  ∀ (i : GenericMemory 1) (t : Payload), t.command = .write → t.address = adr → t.data = v →
    ∃ t', ({ gb with regIf := i } : Gb).bTransport t = .ok (t', { gb' with regIf := i })

theorem writesTo_cell (gb : Gb) {adr : U16} {x : RamCell} (hx : ramCell adr = some x) (v : U8) :
    gb.WritesTo adr v (gb.store x v) := by
  intro i t hcmd hadr hdata
  subst hadr hdata
  obtain ⟨t', hwrite⟩ := ({ gb with regIf := i } : Gb).bTransport_write hx hcmd
  refine ⟨t', hwrite.trans ?_⟩
  cases x <;> rfl

end Gb

theorem Timed.advance_sameButIf (n : Nat) (s : Timed Gb) : SameButIf s.dev (s.advance n).dev := by
  induction n with
  | zero => exact SameButIf.refl _
  | succ n ih =>
    refine ih.trans ?_
    rw [Timed.advance, Timed.raise]
    cases ((s.advance n).delay 1).schedule.activity ((s.advance n).delay 1).now with
    | none => exact SameButIf.refl _
    | some bits => exact rfl

namespace Cpu

/-! ## States -/

@[simp] theorem withSocket_self {σ : Type} (c : Cpu σ) : c.withSocket c.initSocket = c := rfl

/-- The CPU runs, and nothing interrupts it. -/
structure Undisturbed (c : Cpu (Timed Gb)) : Prop where
  ime : c.intrMasterEnable = false
  running : c.halted = false
  noBp : c.gdbServer.bpSet = ∅
  dmi : c.initSocket.hasRomBank0 = true
  live : c.initSocket.sys.stopped = false

/-- The registers are `rf`, and the devices `gb` up to IF. -/
structure At (rf : RegFile) (gb : Gb) (c : Cpu (Timed Gb)) : Prop extends Undisturbed c where
  regs : c.regFile = rf
  devs : SameButIf gb c.initSocket.sys.dev

namespace At

variable {rf : RegFile} {gb gb' : Gb} {c : Cpu (Timed Gb)}

theorem withRegs (h : At rf gb c) (rf' : RegFile) : At rf' gb (c.withRegs rf') :=
  ⟨⟨h.ime, h.running, h.noBp, h.dmi, h.live⟩, rfl, h.devs⟩

theorem withRegs_self (h : At rf gb c) : c.withRegs rf = c := by
  obtain rfl := h.regs
  rfl

theorem withWait (h : At rf gb c) (n : Nat) : At rf gb { c with waitNs := n } :=
  ⟨⟨h.ime, h.running, h.noBp, h.dmi, h.live⟩, h.regs, h.devs⟩

/-- A read of the first ROM bank goes past the bus. -/
theorem readBus (h : At rf gb c) {adr : U16} (hadr : adr.toNat < 0x4000) (cmd : GbCommand) :
    c.initSocket.readBus adr cmd = .ok (gb.romByte adr, c.initSocket) := by
  have hrom : BusPort.romBank0 c.initSocket.sys ⟨adr.toNat, hadr⟩ = gb.romByte adr := by
    rw [Gb.romByte, dif_pos hadr, ← h.devs.romLow]
    rfl
  rw [InitSocket.readBus, dif_pos ⟨hadr, h.dmi⟩]
  exact congrArg (fun v => Except.ok (v, c.initSocket)) hrom

theorem fetch (h : At rf gb c) (hpc : rf.pc.toNat < 0x4000) :
    fetchNextInstrByte c = .ok (gb.romByte rf.pc, c.withRegs (rf.withPc (rf.pc + 1))) := by
  have hread := h.readBus hpc .gbReadInst
  have hrun : fetchNextInstrByte c = (fetchNextInstrByte >>= pure) c := by rw [bind_pure]
  rw [hrun, fetchNextInstrByte_bind, h.regs, hread]
  rfl

/-- A write to the bus. -/
theorem writeBus (h : At rf gb c) {adr : U16} {v : U8} (hw : gb.WritesTo adr v gb') :
    ∃ s, c.initSocket.writeBus adr v = .ok s ∧ At rf gb' (c.withSocket s) := by
  obtain ⟨t', ht⟩ := hw c.initSocket.sys.dev.regIf { c.initSocket.payload with
    command := .write, address := adr, data := v, extension := some c.initSocket.gbcmd } rfl rfl rfl
  rw [← show c.initSocket.sys.dev = { gb with regIf := c.initSocket.sys.dev.regIf } from h.devs]
    at ht
  refine ⟨{ c.initSocket with payload := t', sys := { c.initSocket.sys with
    dev := { gb' with regIf := c.initSocket.sys.dev.regIf } } }, ?_,
    ⟨h.ime, h.running, h.noBp, h.dmi, h.live⟩, h.regs, rfl⟩
  have hbus : BusPort.bTransport { c.initSocket.payload with
      command := .write, address := adr, data := v,
      extension := some c.initSocket.gbcmd } c.initSocket.sys =
      .ok (t', { c.initSocket.sys with
        dev := { gb' with regIf := c.initSocket.sys.dev.regIf } }) :=
    congrArg (Except.map fun r => (r.1, { c.initSocket.sys with dev := r.2 })) ht
  rw [InitSocket.writeBus]
  dsimp only
  rw [hbus]
  rfl

/-- The time that passes at the end of an iteration. -/
theorem accountTime (h : At rf gb c) : ∃ c', Cpu.accountTime c = .ok ((), c') ∧ At rf gb c' := by
  by_cases hdue : WaitDue c
  · refine ⟨_, (accountTime_waits c hdue).trans (congrArg (Except.map _) (wait_running h.live _)),
      ⟨h.ime, h.running, h.noBp, h.dmi, ?_⟩, h.regs, h.devs.trans (Timed.advance_sameButIf _ _)⟩
    exact (Timed.advance_stopped _ _).trans h.live
  · exact ⟨_, accountTime_goes_on c hdue, ⟨h.ime, h.running, h.noBp, h.dmi, h.live⟩, h.regs, h.devs⟩

/-- Nothing happens before the fetch. -/
theorem cycleHead (h : At rf gb c) : Cpu.cycleHead c = .ok (true, { c with waitNs := 0 }) := by
  have hbp : c.regFile.pc ∉ c.gdbServer.bpSet := by
    rw [h.noBp]
    exact Finset.notMem_empty _
  have hstill : handleInterrupts { c with waitNs := 0 } = .ok ((), { c with waitNs := 0 }) :=
    handleInterrupts_disabled _ h.ime
  rw [cycleHead_timed, headAfterMessages_go c h.running hbp, StateExcept.bind_of_ok hstill]
  rfl

end At

/-! ## One iteration -/

/-- From the registers `rf` and the devices `gb` the program `m` leads to `rf'` and `gb'`. -/
def Does (m : CpuM (Timed Gb) Unit) (rf : RegFile) (gb : Gb) (rf' : RegFile) (gb' : Gb) : Prop :=
  ∀ c, At rf gb c → ∃ c', m c = .ok ((), c') ∧ At rf' gb' c'

/-- The next instruction is one of the first `n` bytes. -/
def PcBelow (n : Nat) (c : Cpu (Timed Gb)) : Prop := c.regFile.pc.toNat < n

/-- Within the first `n` bytes, which are in the first ROM bank, are those of a piece of code. -/
def HasCode (n : Nat) (gb : Gb) (pc : U16) (code : List U8) : Prop :=
  n ≤ 0x4000 ∧ ∀ i (h : i < code.length), (pc + BitVec.ofNat 16 i).toNat < n ∧
    gb.romByte (pc + BitVec.ofNat 16 i) = code[i]

/-- One iteration with the next instruction below `n`. -/
abbrev Steps (fuel n : Nat) : (Cpu (Timed Gb) → Prop) → (Cpu (Timed Gb) → Prop) → Prop :=
  Machine.StepsTo (cycle fuel) (PcBelow n)

/-- Iterations that all have the next instruction below `n`. -/
abbrev Leads (fuel n : Nat) : (Cpu (Timed Gb) → Prop) → (Cpu (Timed Gb) → Prop) → Prop :=
  Machine.LeadsTo (cycle fuel) (PcBelow n)

variable {fuel n : Nat} {rf rf' : RegFile} {gb gb' : Gb}

/-- An iteration runs the opcode at PC. -/
theorem steps_of_run {op : U8} (hn : n ≤ 0x4000) (hpc : rf.pc.toNat < n)
    (hop : gb.romByte rf.pc = op)
    (h : Does ((decodeOpcode op).run fuel op) (rf.withPc (rf.pc + 1)) gb rf' gb') :
    Steps fuel n (At rf gb) (At rf' gb') := by
  intro c hc
  have hfetch := (hc.withWait 0).fetch (Nat.lt_of_lt_of_le hpc hn)
  rw [hop] at hfetch
  obtain ⟨d, hrun, hd⟩ := h _ ((hc.withWait 0).withRegs (rf.withPc (rf.pc + 1)))
  obtain ⟨c', haccount, hc'⟩ := hd.accountTime
  have hbelow : PcBelow n c := by
    rw [PcBelow, hc.regs]
    exact hpc
  refine ⟨hbelow, c', ?_, hc'⟩
  rw [← decodeExecute_run fuel op] at hrun
  rw [cycle, machineCycle, StateExcept.bind_of_ok hc.cycleHead, if_pos rfl,
    StateExcept.bind_of_ok hfetch, StateExcept.bind_of_ok hrun, haccount]
  rfl

namespace HasCode

variable {pc : U16} {b : U8} {code : List U8}

theorem head (h : HasCode n gb pc (b :: code)) : pc.toNat < n ∧ gb.romByte pc = b := by
  simpa using h.2 0 (Nat.zero_lt_succ _)

theorem tail (h : HasCode n gb pc (b :: code)) : HasCode n gb (pc + 1) code := by
  refine ⟨h.1, ?_⟩
  intro i hi
  have hnext := h.2 (i + 1) (Nat.succ_lt_succ hi)
  rwa [BitVec.ofNat_add, BitVec.add_comm (BitVec.ofNat 16 i), ← BitVec.add_assoc] at hnext

/-- A piece of the code, by its place. -/
theorem piece (h : HasCode n gb pc code) (k : Nat) (code' : List U8)
    (hcode : code' <+: code.drop k) : HasCode n gb (pc + BitVec.ofNat 16 k) code' := by
  refine ⟨h.1, ?_⟩
  intro i hi
  have hle := hcode.length_le
  rw [List.length_drop] at hle
  have hlt : k + i < code.length := by omega
  have hbyte : code'[i] = code[k + i] := (hcode.getElem hi).trans List.getElem_drop
  have hadr : pc + BitVec.ofNat 16 k + BitVec.ofNat 16 i = pc + BitVec.ofNat 16 (k + i) := by
    rw [BitVec.add_assoc, ← BitVec.ofNat_add]
  rw [hadr, hbyte]
  exact h.2 (k + i) hlt

/-- Only the cartridge matters. -/
theorem of_cartridge (h : HasCode n gb pc code) (hsame : gb'.cartridge = gb.cartridge) :
    HasCode n gb' pc code := by
  refine ⟨h.1, ?_⟩
  intro i hi
  rw [Gb.romByte, hsame]
  exact h.2 i hi

end HasCode

theorem At.fetchCode {c : Cpu (Timed Gb)} {b : U8} {code : List U8} (h : At rf gb c)
    (hcode : HasCode n gb rf.pc (b :: code)) :
    fetchNextInstrByte c = .ok (b, c.withRegs (rf.withPc (rf.pc + 1))) := by
  rw [h.fetch (Nat.lt_of_lt_of_le hcode.head.1 hcode.1), hcode.head.2]

/-- The immediate word. -/
theorem At.fetchWord {c : Cpu (Timed Gb)} {lo hi : U8} {code : List U8} (h : At rf gb c)
    (hcode : HasCode n gb rf.pc (lo :: hi :: code)) :
    ∃ s, nextWord c = .ok (hi ++ lo, (c.withSocket s).withRegs (rf.withPc (rf.pc + 1 + 1))) ∧
      At rf gb (c.withSocket s) := by
  let s := { c.initSocket with gbcmd := GbCommand.gbReadInst }
  have hs : At rf gb (c.withSocket s) := ⟨⟨h.ime, h.running, h.noBp, h.dmi, h.live⟩, h.regs, h.devs⟩
  refine ⟨s, ?_, hs⟩
  have hlo := hs.fetchCode hcode
  have hhi := (hs.withRegs (rf.withPc (rf.pc + 1))).fetchCode hcode.tail
  have hset : setGbcmd .gbReadInst c = .ok ((), c.withSocket s) := rfl
  rw [nextWord, StateExcept.bind_of_ok hset, StateExcept.bind_of_ok hlo, StateExcept.bind_of_ok hhi]
  rfl

/-- Every instruction ends by setting its registers and its time. -/
theorem Does.of_end {m : CpuM (Timed Gb) Unit} (h : ∀ c, At rf gb c → ∃ n rf₁ d, At rf₁ gb' d ∧
    m c = setWaitNs n (d.withRegs rf')) : Does m rf gb rf' gb' := by
  intro c hc
  obtain ⟨n, rf₁, d, hd, hrun⟩ := h c hc
  exact ⟨_, hrun, (hd.withRegs rf').withWait _⟩

/-! ## Rows of the table -/

section Rows

variable {op b lo hi : U8}

/-- The registers of an instruction's result in another form. -/
theorem leads_eq {rf'' : RegFile} (h : Steps fuel n (At rf gb) (At rf' gb'))
    (hrf : rf' = rf'') : Leads fuel n (At rf gb) (At rf'' gb') :=
  .of_step (hrf ▸ h)

theorem steps_of_row {row : Outer} {code : List U8} (hop : decodeOpcode op = .outer row)
    (hcode : HasCode n gb rf.pc (op :: code))
    (h : Does row.run (rf.withPc (rf.pc + 1)) gb rf' gb') :
    Steps fuel n (At rf gb) (At rf' gb') := by
  refine steps_of_run hcode.1 hcode.head.1 hcode.head.2 ?_
  rw [hop]
  exact h

theorem steps_of_regular {d : Decoded} {code : List U8} (hop : decodeOpcode op = .regular d)
    (hcode : HasCode n gb rf.pc (op :: code)) (h : Does d.run (rf.withPc (rf.pc + 1)) gb rf' gb') :
    Steps fuel n (At rf gb) (At rf' gb') := by
  refine steps_of_run hcode.1 hcode.head.1 hcode.head.2 ?_
  rw [hop]
  exact h

theorem steps_ldImm (r : Reg8) (hop : decodeOpcode op = .outer (.ldImm (.reg r)))
    (hcode : HasCode n gb rf.pc [op, b]) :
    Steps fuel n (At rf gb) (At ((rf.withPc (rf.pc + 1 + 1)).set r b) gb) := by
  apply steps_of_row hop hcode
  apply Does.of_end
  intro c hc
  exact ⟨8, _, c, hc, StateExcept.bind_of_ok (hc.fetchCode hcode.tail)⟩

theorem steps_ldImm16 (r : Reg16) (hop : decodeOpcode op = .outer (.ldImm16 r))
    (hcode : HasCode n gb rf.pc [op, lo, hi]) : Steps fuel n (At rf gb)
      (At ((rf.withPc (rf.pc + 1 + 1 + 1)).set16 r (hi ++ lo)) gb) := by
  apply steps_of_row hop hcode
  apply Does.of_end
  intro c hc
  obtain ⟨s, hword, hs⟩ := hc.fetchWord hcode.tail
  exact ⟨12, _, c.withSocket s, hs, StateExcept.bind_of_ok hword⟩

theorem steps_jp (hop : decodeOpcode op = .outer (.jp none))
    (hcode : HasCode n gb rf.pc [op, lo, hi]) :
    Steps fuel n (At rf gb) (At (rf.withPc (hi ++ lo)) gb) := by
  apply steps_of_row hop hcode
  apply Does.of_end
  intro c hc
  obtain ⟨s, hword, hs⟩ := hc.fetchWord hcode.tail
  refine ⟨16, _, c.withSocket s, hs, ?_⟩
  rw [Outer.run, jumpProgram, taken_bind, StateExcept.bind_of_ok hword]
  rfl

/-- A relative jump goes to its target, or to the instruction behind it. -/
theorem steps_jr {cond : Option Cond} (hop : decodeOpcode op = .outer (.jr cond))
    (hcode : HasCode n gb rf.pc [op, b]) : Steps fuel n (At rf gb)
      (At (rf.withPc (if cond.all (·.test rf) then jumpTarget (rf.pc + 1 + 1) b
        else rf.pc + 1 + 1)) gb) := by
  apply steps_of_row hop hcode
  apply Does.of_end
  intro c hc
  have hfetch := hc.fetchCode hcode.tail
  have htest : cond.all (·.test c.regFile) = cond.all (·.test rf) := by
    rw [hc.regs]
    cases cond with
    | none => rfl
    | some cond => cases cond <;> rfl
  rw [Outer.run, jumpProgram, taken_bind, bind_assoc, StateExcept.bind_of_ok hfetch, htest]
  cases cond.all (·.test rf) with
  | true => exact ⟨12, _, c, hc, rfl⟩
  | false => exact ⟨8, _, c, hc, rfl⟩

/-- JR NZ -/
theorem steps_jrNz (hcode : HasCode n gb rf.pc [0x20, b]) : Steps fuel n (At rf gb)
    (At (rf.withPc (if rf.flagZ then rf.pc + 1 + 1 else jumpTarget (rf.pc + 1 + 1) b)) gb) := by
  have hjump : Steps fuel n (At rf gb) (At (rf.withPc (if (some Cond.nz).all
      (·.test rf) then jumpTarget (rf.pc + 1 + 1) b else rf.pc + 1 + 1)) gb) :=
    steps_jr rfl hcode
  rw [Option.all_some, Cond.test] at hjump
  cases hz : rf.flagZ with
  | true => rwa [hz] at hjump
  | false => rwa [hz] at hjump

theorem steps_inc (r : Reg8) (hop : decodeOpcode op = .outer (.inc (.reg r)))
    (hcode : HasCode n gb rf.pc [op]) : Steps fuel n (At rf gb)
      (At (((rf.withPc (rf.pc + 1)).set r (rf.get r + 1)).withF (packFlags (rf.get r + 1 == 0) false
        (((rf.get r + 1) &&& 0x0F) == 0) (isBitSet rf.f 4) rf.f)) gb) := by
  apply steps_of_row hop hcode
  apply Does.of_end
  intro c hc
  refine ⟨4, _, c, hc, ?_⟩
  rw [← instrInc_eq]
  simp [instrInc, hc.regs]

theorem steps_dec (r : Reg8) (hop : decodeOpcode op = .outer (.dec (.reg r)))
    (hcode : HasCode n gb rf.pc [op]) : Steps fuel n (At rf gb)
      (At (((rf.withPc (rf.pc + 1)).set r (rf.get r - 1)).withF (packFlags (rf.get r - 1 == 0) true
        (((rf.get r - 1) &&& 0x0F) == 0x0F) (isBitSet rf.f 4) rf.f)) gb) := by
  apply steps_of_row hop hcode
  apply Does.of_end
  intro c hc
  refine ⟨4, _, c, hc, ?_⟩
  rw [← instrDec_eq]
  simp [instrDec, hc.regs]

theorem steps_inc16 (r : Reg16) (hop : decodeOpcode op = .outer (.inc16 r))
    (hcode : HasCode n gb rf.pc [op]) : Steps fuel n (At rf gb)
      (At ((rf.withPc (rf.pc + 1)).set16 r (rf.get16 r + 1)) gb) := by
  apply steps_of_row hop hcode
  apply Does.of_end
  intro c hc
  refine ⟨8, _, c, hc, ?_⟩
  simp [Outer.run, hc.regs]

theorem steps_aluImm (alu : AluOp) (hop : decodeOpcode op = .outer (.aluImm alu))
    (hcode : HasCode n gb rf.pc [op, b]) : Steps fuel n (At rf gb)
      (At ((rf.withPc (rf.pc + 1 + 1)).alu alu b) gb) := by
  apply steps_of_row hop hcode
  apply Does.of_end
  intro c hc
  refine ⟨8, _, c, hc, ?_⟩
  rw [Outer.run, aluProgram, StateExcept.bind_of_ok (hc.fetchCode hcode.tail), modifyRegs_bind,
    withRegs_regFile, withRegs_withRegs]
  rfl

/-- LD A through a pointer into the first ROM bank. -/
theorem steps_loadA (p : Pointer) (hop : decodeOpcode op = .outer (.loadA p))
    (hcode : HasCode n gb rf.pc [op]) (hadr : (rf.get16 p.reg).toNat < 0x4000) :
    Steps fuel n (At rf gb)
      (At (p.move ((rf.withPc (rf.pc + 1)).set .a (gb.romByte (rf.get16 p.reg)))) gb) := by
  apply steps_of_row hop hcode
  apply Does.of_end
  intro c hc
  refine ⟨8, _, c, hc, ?_⟩
  have hread := hc.readBus hadr .gbReadData
  simp [Outer.run, hc.regs, hread]

/-- LD through a pointer, A. -/
theorem steps_storeA (p : Pointer) (hop : decodeOpcode op = .outer (.storeA p))
    (hcode : HasCode n gb rf.pc [op]) (hw : gb.WritesTo (rf.get16 p.reg) rf.a gb') :
    Steps fuel n (At rf gb) (At (p.move (rf.withPc (rf.pc + 1))) gb') := by
  apply steps_of_row hop hcode
  apply Does.of_end
  intro c hc
  obtain ⟨s, hwrite, hs⟩ := hc.writeBus hw
  refine ⟨8, _, c.withSocket s, hs, ?_⟩
  have hwrite' : c.initSocket.writeBus (rf.get16 p.reg) (rf.get .a) = .ok s := hwrite
  simp [Outer.run, hc.regs, hwrite']

theorem steps_storeHighC (hop : decodeOpcode op = .outer .storeHighC)
    (hcode : HasCode n gb rf.pc [op]) (hw : gb.WritesTo (0xFF#8 ++ rf.c) rf.a gb') :
    Steps fuel n (At rf gb) (At (rf.withPc (rf.pc + 1)) gb') := by
  apply steps_of_row hop hcode
  apply Does.of_end
  intro c hc
  obtain ⟨s, hwrite, hs⟩ := hc.writeBus hw
  refine ⟨8, _, c.withSocket s, hs, ?_⟩
  have hwrite' : c.initSocket.writeBus (0xFF#8 ++ rf.get .c) (rf.get .a) = .ok s := hwrite
  refine Eq.trans ?_ (congrArg (setWaitNs 8) hs.withRegs_self.symm)
  simp [Outer.run, hc.regs, hwrite']

theorem steps_storeHigh (hop : decodeOpcode op = .outer .storeHigh)
    (hcode : HasCode n gb rf.pc [op, b]) (hw : gb.WritesTo (0xFF#8 ++ b) rf.a gb') :
    Steps fuel n (At rf gb) (At (rf.withPc (rf.pc + 1 + 1)) gb') := by
  apply steps_of_row hop hcode
  apply Does.of_end
  intro c hc
  have hfetch := hc.fetchCode hcode.tail
  obtain ⟨s, hwrite, hs⟩ := hc.writeBus hw
  refine ⟨12, _, c.withSocket s, hs, ?_⟩
  have hwrite' : c.initSocket.writeBus (0xFF#8 ++ b) (rf.get .a) = .ok s := hwrite
  rw [Outer.run, nextHigh, bind_assoc, StateExcept.bind_of_ok hfetch]
  simp [hwrite']

/-! ## Regular opcodes -/

theorem steps_ld (dst src : Reg8) (hop : decodeOpcode op = .regular (.ld (.reg dst) (.reg src)))
    (hcode : HasCode n gb rf.pc [op]) : Steps fuel n (At rf gb)
      (At ((rf.withPc (rf.pc + 1)).set dst (rf.get src)) gb) := by
  apply steps_of_regular hop hcode
  apply Does.of_end
  intro c hc
  refine ⟨4, _, c, hc, ?_⟩
  simp [Decoded.run, Operand.read, Operand.write, Operand.clkCycles, hc.regs]

/-- LD (HL),r -/
theorem steps_store (src : Reg8) (hop : decodeOpcode op = .regular (.ld .atHl (.reg src)))
    (hcode : HasCode n gb rf.pc [op]) (hw : gb.WritesTo (rf.get16 .hl) (rf.get src) gb') :
    Steps fuel n (At rf gb) (At (rf.withPc (rf.pc + 1)) gb') := by
  apply steps_of_regular hop hcode
  apply Does.of_end
  intro c hc
  obtain ⟨s, hwrite, hs⟩ := hc.writeBus hw
  refine ⟨8, _, c.withSocket s, hs, ?_⟩
  refine Eq.trans ?_ (congrArg (setWaitNs 8) hs.withRegs_self.symm)
  simp [Decoded.run, Operand.read, Operand.write, Operand.clkCycles, hc.regs, hwrite]

theorem steps_alu (alu : AluOp) (r : Reg8) (hop : decodeOpcode op = .regular (.alu alu (.reg r)))
    (hcode : HasCode n gb rf.pc [op]) : Steps fuel n (At rf gb)
      (At ((rf.withPc (rf.pc + 1)).alu alu (rf.get r)) gb) := by
  apply steps_of_regular hop hcode
  apply Does.of_end
  intro c hc
  refine ⟨4, _, c, hc, ?_⟩
  simp [Decoded.run, aluProgram, Operand.read, Operand.clkCycles, hc.regs]

/-- An operation on a byte of the first ROM bank. -/
theorem steps_aluAtHl (alu : AluOp) (hop : decodeOpcode op = .regular (.alu alu .atHl))
    (hcode : HasCode n gb rf.pc [op]) (hadr : (rf.get16 .hl).toNat < 0x4000) :
    Steps fuel n (At rf gb)
      (At ((rf.withPc (rf.pc + 1)).alu alu (gb.romByte (rf.get16 .hl))) gb) := by
  apply steps_of_regular hop hcode
  apply Does.of_end
  intro c hc
  refine ⟨8, _, c, hc, ?_⟩
  have hread := hc.readBus hadr .gbReadData
  simp [Decoded.run, aluProgram, Operand.read, Operand.clkCycles, hc.regs, hread]

/-- BIT behind its prefix. -/
theorem steps_bit (i : Fin 8) (r : Reg8) (hop : op = 0xCB) (hb : decodeCb b = .bit i (.reg r))
    (hcode : HasCode n gb rf.pc [op, b]) : Steps fuel n (At rf gb)
      (At ((rf.withPc (rf.pc + 1 + 1)).withF (packFlags (!(rf.get r).getLsbD i) false true
        (isBitSet rf.f 4) rf.f)) gb) := by
  subst hop
  refine steps_of_run hcode.1 hcode.head.1 hcode.head.2 ?_
  rw [(decodeOpcode_page 0xCB).mpr rfl]
  apply Does.of_end
  intro c hc
  refine ⟨8, _, c, hc, ?_⟩
  rw [Opcode.run, StateExcept.bind_of_ok (hc.fetchCode hcode.tail), hb]
  simp [Decoded.run, bitProgram, Operand.read, Operand.clkCycles, RegFile.flagC_eq]

end Rows

end Cpu

end TlmBoy
