import TlmBoy.Isa.Outer

/-
  The whole opcode table.

  `decodeOpcode` reads any byte as x, y and z and names what it stands for: a row of one of the
  outer quadrants, one of the regular opcodes between them, the page behind 0xCB, or one of the
  bytes that are none of these. `switch_of_fields` says that the switch of the source, all 256
  cases and the default, runs what the decoding says. `decodeExecute_ok_iff` says which opcodes
  can end the emulation by themselves.
-/

namespace TlmBoy

/-! ## Decoding -/

def condTable : Vector Cond 4 := #v[.nz, .z, .nc, .c]

def wordTable : Vector Reg16 4 := #v[.bc, .de, .hl, .sp]

def stackTable : Vector StackReg 4 := #v[.bc, .de, .hl, .af]

def pointerTable : Vector Pointer 4 := #v[.bc, .de, .hlInc, .hlDec]

/-- The rows of the last column of the first quadrant: A and the flags. -/
def flagTable : Vector Outer 8 :=
  #v[.rotA .rlca, .rotA .rrca, .rotA .rla, .rotA .rra, .daa, .cpl, .scf, .ccf]

inductive Opcode where
  | outer (row : Outer)
  | regular (d : Decoded)
  /-- The prefix 0xCB. -/
  | page
  | halt
  | stop
  /-- The byte 0xD3, which no Game Boy has. -/
  | emu
  | undefined
deriving DecidableEq, Repr

/-- The upper half of a column, where y is a condition. -/
def yCond (y : Fin 8) : Cond := condTable.get (Fin.ofNat 4 y.val)

/-- The upper two bits of y. -/
def yPair (y : Fin 8) : Fin 4 := Fin.ofNat 4 (y.val / 2)

/-- Opcodes below 0x40. -/
def decodeFirst (y z : Fin 8) : Opcode :=
  match z.val with
  | 0 =>
    match y.val with
    | 0 => .outer .nop
    | 1 => .outer .storeSp
    | 2 => .stop
    | 3 => .outer (.jr none)
    | _ => .outer (.jr (yCond y))
  | 1 =>
    if y.val % 2 = 0 then .outer (.ldImm16 (wordTable.get (yPair y)))
    else .outer (.addHl (wordTable.get (yPair y)))
  | 2 =>
    if y.val % 2 = 0 then .outer (.storeA (pointerTable.get (yPair y)))
    else .outer (.loadA (pointerTable.get (yPair y)))
  | 3 =>
    if y.val % 2 = 0 then .outer (.inc16 (wordTable.get (yPair y)))
    else .outer (.dec16 (wordTable.get (yPair y)))
  | 4 => .outer (.inc (operandTable.get y))
  | 5 => .outer (.dec (operandTable.get y))
  | 6 => .outer (.ldImm (operandTable.get y))
  | _ => .outer (flagTable.get y)

/-- Opcodes from 0xC0. -/
def decodeLast (y z : Fin 8) : Opcode :=
  match z.val with
  | 0 =>
    match y.val with
    | 4 => .outer .storeHigh
    | 5 => .outer .addSp
    | 6 => .outer .loadHigh
    | 7 => .outer .ldHlSp
    | _ => .outer (.ret (yCond y))
  | 1 =>
    match y.val with
    | 1 => .outer (.ret none)
    | 3 => .outer .reti
    | 5 => .outer .jpHl
    | 7 => .outer .ldSpHl
    | _ => .outer (.pop (stackTable.get (yPair y)))
  | 2 =>
    match y.val with
    | 4 => .outer .storeHighC
    | 5 => .outer .storeAt
    | 6 => .outer .loadHighC
    | 7 => .outer .loadAt
    | _ => .outer (.jp (yCond y))
  | 3 =>
    match y.val with
    | 0 => .outer (.jp none)
    | 1 => .page
    | 2 => .emu
    | 6 => .outer .di
    | 7 => .outer .ei
    | _ => .undefined
  | 4 => if y.val < 4 then .outer (.call (yCond y)) else .undefined
  | 5 =>
    if y.val % 2 = 0 then .outer (.push (stackTable.get (yPair y)))
    else if y.val = 1 then .outer (.call none)
    else .undefined
  | 6 => .outer (.aluImm (aluTable.get y))
  | _ => .outer (.rst y)

def decodeOpcode (op : U8) : Opcode :=
  match fieldX op with
  | 0 => decodeFirst (fieldY op) (fieldZ op)
  | 3 => decodeLast (fieldY op) (fieldZ op)
  | _ => if op = 0x76 then .halt else .regular (decode op)

namespace Opcode

/-- The instruction of the source for an opcode, apart from the prefix. -/
def instr (op : U8) (x : Opcode) : Instr :=
  match x with
  | .outer row => row.instr
  | .regular d => d.instr
  | .halt => .halt
  | .stop => .stop
  | .emu => .emu
  | .page | .undefined => .unknown op

variable {σ : Type} [BusPort σ] [Kernel σ]

/-- What an opcode does. A HALT may wait for at most `fuel` rounds. -/
def run (fuel : Nat) (op : U8) (x : Opcode) : CpuM σ Unit :=
  match x with
  | .outer row => row.run
  | .regular d => d.run
  | .page => do (decodeCb (← Cpu.fetchNextInstrByte)).run
  | .halt => Cpu.instrHalt fuel
  | .stop => throw (.runtimeError "Instruction 0x10 not implemented")
  | .emu => Cpu.instrEmu
  | .undefined => do
    throw (.exitFailure ("UNKNOWN INSTRUCTION: 0x" ++ fmtHex 0 op.toNat ++
      " at PC=0x" ++ fmtHex 0 (← Cpu.getPc).toNat ++ "\n"))

end Opcode

/-- The outer switch of the source is the decoding. -/
theorem jumpTable_decodeOpcode : ∀ op : U8, jumpTable op = (decodeOpcode op).instr op := by
  decide +kernel

theorem decodeOpcode_ne_halt : ∀ op : U8, decodeOpcode op ≠ .regular (.ld .atHl .atHl) := by
  decide +kernel

theorem decodeOpcode_page : ∀ op : U8, decodeOpcode op = .page ↔ op = 0xCB := by decide +kernel

theorem decodeOpcode_undefined : ∀ op : U8, decodeOpcode op = .undefined ↔
    op ∈ [0xDB, 0xDD, 0xE3, 0xE4, 0xEB, 0xEC, 0xED, 0xF4, 0xFC, (0xFD : U8)] := by
  decide +kernel

theorem decodeOpcode_stop : ∀ op : U8, decodeOpcode op = .stop ↔ op = 0x10 := by decide +kernel

theorem decodeOpcode_halt : ∀ op : U8, decodeOpcode op = .halt ↔ op = 0x76 := by decide +kernel

/-! ## The switch -/

namespace Cpu

variable {σ : Type} [BusPort σ] [Kernel σ]

theorem decodeExecute_run (fuel : Nat) (op : U8) :
    (decodeExecute fuel op : CpuM σ Unit) = (decodeOpcode op).run fuel op := by
  by_cases hpage : op = 0xCB
  · subst hpage
    show decodeExecute fuel 0xCB =
      (fetchNextInstrByte >>= fun opCb => (decodeCb opCb).run : CpuM σ Unit)
    rw [decodeExecute, if_pos rfl]
    congr 1
    funext opCb
    rw [jumpTableCb_eq]
    exact execute_instr fuel _ (decodeCb_ne_halt opCb)
  · have hne : decodeOpcode op ≠ .page := fun h => hpage ((decodeOpcode_page op).mp h)
    rw [decodeExecute, if_neg hpage, jumpTable_decodeOpcode]
    cases hop : decodeOpcode op with
    | outer row => exact execute_outer fuel row
    | regular d =>
      refine execute_instr fuel d ?_
      intro hd
      rw [hd] at hop
      exact decodeOpcode_ne_halt op hop
    | page => exact absurd hop hne
    | halt | stop | emu | undefined => rfl

/-- Every byte runs what its fields say, and ten of them end the emulation with a message that
    names the byte and the address behind it. -/
theorem switch_of_fields (fuel : Nat) (op : U8) :
    (decodeExecute fuel op : CpuM σ Unit) = (decodeOpcode op).run fuel op ∧
      (decodeOpcode op = .undefined ↔
        op ∈ [0xDB, 0xDD, 0xE3, 0xE4, 0xEB, 0xEC, 0xED, 0xF4, 0xFC, (0xFD : U8)]) :=
  ⟨decodeExecute_run fuel op, decodeOpcode_undefined op⟩

end Cpu

/-! ## Which opcodes end the emulation -/

namespace Cpu

variable {σ : Type}

/-- The bus answers every read and write without an error. -/
def Answers (σ : Type) [BusPort σ] : Prop :=
  ∀ (t : Payload) (s : σ), t.command ≠ .ignore →
    ∃ t' s', BusPort.bTransport t s = .ok (t', s') ∧ t'.responseStatus = .ok

/-- Every run of `m` returns. -/
def Returns {α : Type} (m : CpuM σ α) : Prop := ∀ c, ∃ r, m c = .ok r

namespace Returns

theorem closed : StateExcept.Closed (σ := Cpu σ) (ε := Fault) Returns where
  pure a c := ⟨(a, c), rfl⟩
  bind {_ _ _ f} hm hf c := by
    obtain ⟨⟨a, c'⟩, hrun⟩ := hm c
    obtain ⟨r, hrest⟩ := hf a c'
    exact ⟨r, (StateExcept.bind_of_ok hrun).trans hrest⟩

variable [BusPort σ] (hbus : Answers σ)

include hbus

theorem readBus (adr : U16) (cmd : GbCommand) : Returns (Cpu.readBus adr cmd : CpuM σ U8) := by
  intro c
  by_cases hrom : adr.toNat < 0x4000 ∧ c.initSocket.hasRomBank0 = true
  · have hread : c.initSocket.readBus adr cmd = .ok _ := dif_pos hrom
    exact ⟨_, congrArg (Except.map _) hread⟩
  · obtain ⟨t', s', htrans, hok⟩ := hbus { c.initSocket.payload with
      command := .read, address := adr, data := BusPort.stackByte c.initSocket.sys,
      extension := some cmd } c.initSocket.sys nofun
    have hread : c.initSocket.readBus adr cmd =
        .ok (t'.data, { c.initSocket with payload := t', gbcmd := cmd, sys := s' }) := by
      have hstatus : t'.responseStatus.isResponseError = false := by
        rw [hok]
        rfl
      rw [InitSocket.readBus, dif_neg hrom]
      dsimp only
      rw [htrans]
      simp [hstatus]
    exact ⟨_, congrArg (Except.map _) hread⟩

theorem writeBus (adr : U16) (v : U8) : Returns (Cpu.writeBus adr v : CpuM σ Unit) := by
  intro c
  obtain ⟨t', s', htrans, -⟩ := hbus { c.initSocket.payload with
    command := .write, address := adr, data := v,
    extension := some c.initSocket.gbcmd } c.initSocket.sys nofun
  have hwrite : c.initSocket.writeBus adr v =
      .ok { c.initSocket with payload := t', sys := s' } := by
    rw [InitSocket.writeBus, htrans]
    rfl
  exact ⟨_, congrArg (Except.map _) hwrite⟩

theorem fetchNextInstrByte : Returns (Cpu.fetchNextInstrByte : CpuM σ U8) := by
  refine closed.bind (fun _ => ⟨_, rfl⟩) fun pc => closed.bind (readBus hbus pc .gbReadInst) ?_
  exact fun v => closed.bind (fun _ => ⟨_, rfl⟩) fun _ => closed.bind (fun _ => ⟨_, rfl⟩) fun _ =>
    closed.pure v

theorem nextWord : Returns (Cpu.nextWord : CpuM σ U16) :=
  closed.bind (fun _ => ⟨_, rfl⟩) fun _ => closed.bind (fetchNextInstrByte hbus) fun _ =>
    closed.bind (fetchNextInstrByte hbus) fun _ => closed.pure _

theorem pushValue (w : U16) : Returns (Cpu.pushValue w : CpuM σ Unit) := by
  have hbyte : ∀ v, Returns (pushByte v : CpuM σ Unit) := fun v =>
    closed.bind (fun _ => ⟨_, rfl⟩) fun _ => closed.bind (fun _ => ⟨_, rfl⟩) fun _ =>
      closed.bind (fun _ => ⟨_, rfl⟩) fun _ => writeBus hbus _ v
  exact closed.bind (hbyte _) fun _ => hbyte _

theorem popValue : Returns (Cpu.popValue : CpuM σ U16) := by
  have hbyte : Returns (popByte : CpuM σ U8) :=
    closed.bind (fun _ => ⟨_, rfl⟩) fun _ => closed.bind (readBus hbus _ _) fun _ =>
      closed.bind (fun _ => ⟨_, rfl⟩) fun _ => closed.bind (fun _ => ⟨_, rfl⟩) fun _ =>
        closed.pure _
  exact closed.bind hbyte fun _ => closed.bind hbyte fun _ => closed.pure _

theorem readOperand (x : Operand) : Returns (x.read : CpuM σ U8) := by
  cases x with
  | reg r => exact fun _ => ⟨_, rfl⟩
  | atHl => exact closed.bind (fun _ => ⟨_, rfl⟩) fun _ => readBus hbus _ _

theorem writeOperand (x : Operand) (v : U8) : Returns (x.write v : CpuM σ Unit) := by
  cases x with
  | reg r => exact fun _ => ⟨_, rfl⟩
  | atHl => exact closed.bind (fun _ => ⟨_, rfl⟩) fun _ => writeBus hbus _ v

theorem outer (row : Outer) : Returns (row.run : CpuM σ Unit) := by
  cases row
  all_goals
    dsimp only [Outer.run, countProgram, jumpProgram, aluProgram, nextHigh, readAt, bind_assoc]
    -- The parts of a row are the programs above, or only touch the CPU.
    repeat' first
      | with_reducible exact fetchNextInstrByte hbus
      | with_reducible exact nextWord hbus
      | with_reducible exact popValue hbus
      | with_reducible exact pushValue hbus _
      | with_reducible exact readBus hbus _ _
      | with_reducible exact writeBus hbus _ _
      | with_reducible exact readOperand hbus _
      | with_reducible exact writeOperand hbus _ _
      | with_reducible refine closed.bind ?_ fun _ => ?_
      | with_reducible refine closed.ite ?_ ?_
      | exact fun _ => ⟨_, rfl⟩

theorem regular (d : Decoded) : Returns (d.run : CpuM σ Unit) := by
  have hpure : ∀ f : RegFile → RegFile, Returns (modifyRegs f : CpuM σ Unit) := fun _ _ => ⟨_, rfl⟩
  have hwait : ∀ n, Returns (setWaitNs n : CpuM σ Unit) := fun _ _ => ⟨_, rfl⟩
  have hput : ∀ i b (x : Operand), Returns (putBitProgram i b x : CpuM σ Unit) := fun i b x =>
    closed.bind (readOperand hbus x) fun v => closed.bind (writeOperand hbus x _) fun _ => hwait _
  cases d with
  | ld dst src =>
    exact closed.bind (readOperand hbus src) fun v => closed.bind (writeOperand hbus dst v) fun _ =>
      hwait _
  | alu op src =>
    exact closed.bind (readOperand hbus src) fun v => closed.bind (hpure _) fun _ => hwait _
  | shift op x =>
    exact closed.bind (readOperand hbus x) fun v => closed.bind (fun _ => ⟨_, rfl⟩) fun _ =>
      closed.bind (writeOperand hbus x _) fun _ => closed.bind (hpure _) fun _ => hwait _
  | bit i x =>
    exact closed.bind (readOperand hbus x) fun v => closed.bind (hpure _) fun _ => hwait _
  | res i x => exact hput i false x
  | set i x => exact hput i true x

end Returns

theorem Returns.emu [Kernel σ] : Returns (instrEmu : CpuM σ Unit) := by
  refine closed.bind (fun _ => ⟨_, rfl⟩) fun b => ?_
  split
  all_goals exact fun _ => ⟨_, rfl⟩

variable [BusPort σ] [Kernel σ]

/-- On a bus that answers, an instruction other than HALT returns if and only if its opcode is
    defined and not STOP. -/
theorem decodeExecute_ok_iff (hbus : Answers σ) (fuel : Nat) {op : U8} (hop : op ≠ 0x76)
    (c : Cpu σ) : (∃ c', decodeExecute fuel op c = .ok ((), c')) ↔
      op ∉ [0x10, 0xDB, 0xDD, 0xE3, 0xE4, 0xEB, 0xEC, 0xED, 0xF4, 0xFC, (0xFD : U8)] := by
  have hreturns : Returns ((decodeOpcode op).run fuel op : CpuM σ Unit) →
      ∃ c', decodeExecute fuel op c = .ok ((), c') := by
    intro h
    obtain ⟨⟨u, c'⟩, hrun⟩ := h c
    rw [decodeExecute_run fuel op]
    exact ⟨c', hrun⟩
  have hstop := decodeOpcode_stop op
  have hundefined := decodeOpcode_undefined op
  rw [List.mem_cons, not_or, ← hstop, ← hundefined]
  cases hdecode : decodeOpcode op with
  | outer row =>
    rw [hdecode] at hreturns
    exact iff_of_true (hreturns (Returns.outer hbus row)) ⟨nofun, nofun⟩
  | regular d =>
    rw [hdecode] at hreturns
    exact iff_of_true (hreturns (Returns.regular hbus d)) ⟨nofun, nofun⟩
  | page =>
    rw [hdecode] at hreturns
    refine iff_of_true (hreturns ?_) ⟨nofun, nofun⟩
    exact Returns.closed.bind (Returns.fetchNextInstrByte hbus) fun opCb =>
      Returns.regular hbus (decodeCb opCb)
  | emu =>
    rw [hdecode] at hreturns
    exact iff_of_true (hreturns Returns.emu) ⟨nofun, nofun⟩
  | halt => exact absurd ((decodeOpcode_halt op).mp hdecode) hop
  | stop =>
    refine iff_of_false ?_ fun h => h.1 rfl
    rintro ⟨c', hrun⟩
    rw [decodeExecute_run fuel op, hdecode] at hrun
    cases hrun
  | undefined =>
    refine iff_of_false ?_ fun h => h.2 rfl
    rintro ⟨c', hrun⟩
    rw [decodeExecute_run fuel op, hdecode] at hrun
    cases hrun

end Cpu

/-! ## A bench with one memory -/

/-- The bench of `test_cpu.cpp`: one memory takes the whole address space. The interrupt registers
    are the bytes at their addresses. -/
structure Bench where
  testMemory : GenericMemory 65536

instance : BusPort Bench where
  bTransport t s := (s.testMemory.bTransport t).map fun r => (r.1, ⟨r.2⟩)
  romBank0 s i := s.testMemory.data (Fin.castLE (by decide) i)
  stackByte _ := 0
  intrEnable s := s.testMemory.data 0xFFFF
  intrPending s := s.testMemory.data 0xFF0F
  setIntrPending v s := ⟨⟨Function.update s.testMemory.data 0xFF0F v⟩⟩

namespace Cpu

theorem bench_answers : Answers (Timed Bench) := by
  intro t s hcmd
  let adr : Fin 65536 := ⟨t.address.toNat, t.address.isLt⟩
  let reply : Payload × GenericMemory 65536 → Payload × Timed Bench :=
    fun r => (r.1, { s with dev := ⟨r.2⟩ })
  cases hc : t.command with
  | read =>
    refine ⟨{ t with data := s.dev.testMemory.data adr, responseStatus := .ok }, s, ?_, rfl⟩
    have h := s.dev.testMemory.bTransport_read hc adr.isLt
    exact (StateExcept.map_map _ _ _).trans (congrArg (Except.map reply) h)
  | write =>
    refine ⟨{ t with responseStatus := .ok },
      { s with dev := ⟨⟨Function.update s.dev.testMemory.data adr t.data⟩⟩ }, ?_, rfl⟩
    have h := s.dev.testMemory.bTransport_write hc adr.isLt
    exact (StateExcept.map_map _ _ _).trans (congrArg (Except.map reply) h)
  | ignore => exact absurd hc hcmd

/-- A CPU on the bench. -/
def onBench : Cpu (Timed Bench) where
  initSocket :=
    { payload := {}
      gbcmd := .gbReadInst
      hasRomBank0 := false
      sys :=
        { now := 0
          schedule := .once 0 0
          stopped := false
          dev := ⟨⟨fun _ => 0⟩⟩ } }

/-- On the bench LDH A,(u8) returns and 0xFD does not. -/
theorem bench_ok : (∃ c', decodeExecute 0 0xF0 onBench = .ok ((), c')) ∧
    ¬ ∃ c', decodeExecute 0 0xFD onBench = .ok ((), c') :=
  ⟨(decodeExecute_ok_iff bench_answers 0 (by decide) onBench).mpr (by decide),
    fun h => (decodeExecute_ok_iff bench_answers 0 (by decide) onBench).mp h (by decide)⟩

end Cpu

end TlmBoy
