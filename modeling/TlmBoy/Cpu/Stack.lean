import TlmBoy.Bus.PlainMemory
import TlmBoy.Cpu.Interrupts
import TlmBoy.Cpu.Run
import TlmBoy.Platform

/-
  What the instructions of the stack do to memory and SP.

  The memory system may be any part of what lies behind the CPU's socket (`HasGb`). Of the other
  processes only one thing is assumed: they do not write the work RAM and the high RAM.

  * `stackUse`: which instructions use the stack, what they push, and how the popped word shows.
  * `execute_stackUse`: each of them pushes the word, pops one, or leaves memory and SP alone.
  * `handleInterrupts_pushed`: a dispatch pushes PC.
-/

namespace TlmBoy

/-! ## Memory as the stack sees it -/

/-- Work RAM and high RAM. -/
def InStackRam (adr : U16) : Prop := (0xC000 ≤ adr ∧ adr ≤ 0xDFFF) ∨ (0xFF80 ≤ adr ∧ adr ≤ 0xFFFE)

instance (adr : U16) : Decidable (InStackRam adr) := by
  unfold InStackRam
  infer_instance

theorem InStackRam.cell {adr : U16} (h : InStackRam adr) : ∃ x, ramCell adr = some x := by
  apply ramCell_of_inRam
  rcases h with h | h
  · exact .inr (.inl h)
  · exact .inr (.inr (.inr (.inr h)))

/-- The stack never lies in an echo, so its addresses name different bytes. -/
theorem InStackRam.eq_of_sameCell {adr adr' : U16} (h : InStackRam adr) (h' : InStackRam adr')
    (hsame : SameCell adr adr') : adr = adr' := by
  unfold InStackRam at h h'
  rcases hsame with hsame | ⟨hlo, hhi, hecho⟩ | ⟨hlo, hhi, hecho⟩
  · exact hsame
  · bv_omega
  · bv_omega

namespace Gb

/-- The byte of plain memory that a bus address names. -/
def peek (gb : Gb) (adr : U16) : Option U8 := (ramCell adr).map gb.load

theorem peek_cell (gb : Gb) {adr : U16} {x : RamCell} (hx : ramCell adr = some x) :
    gb.peek adr = some (gb.load x) := by
  rw [peek, hx]
  rfl

theorem peek_congr {gb gb' : Gb} (h : ∀ x, gb'.load x = gb.load x) (adr : U16) :
    gb'.peek adr = gb.peek adr := by
  rw [peek, peek, funext h]

theorem peek_store (gb : Gb) {adr adr' : U16} {x : RamCell} (hx : ramCell adr = some x)
    (hadr : InStackRam adr) (hadr' : InStackRam adr') (v : U8) :
    (gb.store x v).peek adr' = if adr' = adr then some v else gb.peek adr' := by
  obtain ⟨y, hy⟩ := hadr'.cell
  rw [peek_cell _ hy, peek_cell _ hy, load_store]
  by_cases heq : adr' = adr
  · subst heq
    rw [if_pos (Option.some.inj (hy.symm.trans hx)), if_pos rfl]
  · have hne : y ≠ x := fun h => heq (hadr'.eq_of_sameCell hadr ((ramCell_eq_iff hy hx).mp h))
    rw [if_neg hne, if_neg heq]

/-- A read changes no plain memory. -/
theorem slaveTransport_read_load {gb gb' : Gb} {slave : Slave} {t t' : Payload} {dma : Option U8}
    (hcmd : t.command = .read) (h : gb.slaveTransport slave t = .ok (t', gb', dma)) :
    dma = none ∧ ∀ x, gb'.load x = gb.load x := by
  have hne : t.command ≠ .write := by
    rw [hcmd]
    decide
  cases slave with
  | videoRam | workRam | workRamN | echoRam | echoRamN | objAttrMem | highRam | regIf
    | intrEnable =>
    obtain ⟨⟨u, m⟩, hm, h⟩ := StateExcept.except_bind_eq_ok h
    cases h
    rw [GenericMemory.bTransport_of_ne_write hne hm]
    exact ⟨rfl, fun x => rfl⟩
  | cartridgeRom | cartridgeRam | joyPad | serial | timer =>
    obtain ⟨⟨u, m⟩, hm, h⟩ := StateExcept.except_bind_eq_ok h
    cases h
    exact ⟨rfl, fun x => by cases x <;> rfl⟩
  | ioRegisters =>
    obtain ⟨⟨u, io, d⟩, hio, h⟩ := StateExcept.except_bind_eq_ok h
    cases h
    rw [IoRegisters.bTransport, hcmd] at hio
    obtain ⟨v, -, hio⟩ := StateExcept.except_bind_eq_ok hio
    cases hio
    exact ⟨rfl, fun x => by cases x <;> rfl⟩

theorem bTransport_read_load {gb gb' : Gb} {t t' : Payload} (hcmd : t.command = .read)
    (h : gb.bTransport t = .ok (t', gb')) : ∀ x, gb'.load x = gb.load x := by
  obtain ⟨⟨u, m, dma⟩, hroute, h⟩ := StateExcept.except_bind_eq_ok h
  have hread : dma = none ∧ ∀ x, m.load x = gb.load x := by
    cases hs : findSlave t.address with
    | none =>
      rw [routeTransport_unmapped gb hs] at hroute
      cases hroute
      exact ⟨rfl, fun x => rfl⟩
    | some s =>
      rw [routeTransport_mapped gb hs] at hroute
      exact slaveTransport_read_load (t := { t with address := t.address - s.addrFrom }) hcmd hroute
  obtain ⟨rfl, hload⟩ := hread
  cases h
  exact hload

end Gb

/-- What lies behind the CPU's socket contains the memory system of `GbTop`, and no process that
    runs while the CPU waits writes to the memories in which a stack may lie. -/
class HasGb (σ : Type) [BusPort σ] [Kernel σ] where
  gb : σ → Gb
  bTransport_gb (t : Payload) (s : σ) :
    (BusPort.bTransport t s).map (fun r => (r.1, gb r.2)) = (gb s).bTransport t
  setIntrPending_gb (v : U8) (s : σ) :
    gb (BusPort.setIntrPending v s) = BusPort.setIntrPending v (gb s)
  wait_gb {d : Nat} {s s' : σ} (h : Kernel.wait d s = .ok s') {adr : U16} (hadr : InStackRam adr) :
    (gb s').peek adr = (gb s).peek adr

theorem word_of_bytes (w : U16) : ((msb w).setWidth 16 <<< 8 ||| (lsb w).setWidth 16 : U16) =
    w := by
  have happend : ((msb w).setWidth 16 <<< 8 ||| (lsb w).setWidth 16 : U16) = msb w ++ lsb w := by
    apply BitVec.eq_of_getLsbD_eq
    intro i hi
    simp only [BitVec.getLsbD_or, BitVec.getLsbD_shiftLeft, BitVec.getLsbD_setWidth,
      BitVec.getLsbD_append]
    by_cases hlt : i < 8
    · simp [hlt, hi]
    · simp [hlt, hi, BitVec.getLsbD_of_ge (lsb w) i (by omega), show i - 8 < 16 by omega]
  rw [happend, msb_append_lsb]

/-- The registers with another SP. -/
def RegFile.withSp (sp : U16) (rf : RegFile) : RegFile := { rf with sp }

namespace Cpu

variable {σ : Type} [BusPort σ] [Kernel σ] [HasGb σ]

/-- A byte of the plain memories behind the socket. -/
def mem (c : Cpu σ) (adr : U16) : Option U8 := (HasGb.gb c.initSocket.sys).peek adr

/-! ## Bytes -/

theorem writeBus_stack (s : InitSocket σ) {adr : U16} (hadr : InStackRam adr) (v : U8) :
    ∃ s', s.writeBus adr v = .ok s' ∧ ∀ adr', InStackRam adr' →
      (HasGb.gb s'.sys).peek adr' =
        if adr' = adr then some v else (HasGb.gb s.sys).peek adr' := by
  obtain ⟨x, hx⟩ := hadr.cell
  obtain ⟨t', hwrite⟩ := (HasGb.gb s.sys).bTransport_write (t := { s.payload with
    command := .write, address := adr, data := v, extension := some s.gbcmd }) hx rfl
  obtain ⟨⟨p, sys⟩, hbus, hgb⟩ :=
    StateExcept.map_eq_ok ((HasGb.bTransport_gb _ s.sys).trans hwrite)
  have hsys : HasGb.gb sys = (HasGb.gb s.sys).store x v := congrArg Prod.snd hgb
  refine ⟨{ s with payload := p, sys }, ?_, fun adr' hadr' => ?_⟩
  · rw [InitSocket.writeBus, hbus]
    rfl
  · rw [← Gb.peek_store _ hx hadr hadr' v, ← hsys]

theorem readBus_stack (s : InitSocket σ) {adr : U16} (hadr : InStackRam adr) (cmd : GbCommand) :
    ∃ v s', s.readBus adr cmd = .ok (v, s') ∧ (HasGb.gb s.sys).peek adr = some v ∧
      HasGb.gb s'.sys = HasGb.gb s.sys := by
  obtain ⟨x, hx⟩ := hadr.cell
  obtain ⟨a, hread⟩ := (HasGb.gb s.sys).bTransport_read (t := { s.payload with
    command := .read, address := adr, data := BusPort.stackByte s.sys, extension := some cmd })
    hx rfl
  obtain ⟨⟨p, sys⟩, hbus, hgb⟩ :=
    StateExcept.map_eq_ok ((HasGb.bTransport_gb _ s.sys).trans hread)
  have hp := congrArg Prod.fst hgb
  change p = _ at hp
  have hsys : HasGb.gb sys = HasGb.gb s.sys := congrArg Prod.snd hgb
  have hhigh : ¬ (adr.toNat < 0x4000 ∧ s.hasRomBank0 = true) := by
    unfold InStackRam at hadr
    bv_omega
  refine ⟨(HasGb.gb s.sys).load x, { s with payload := p, gbcmd := cmd, sys }, ?_,
    Gb.peek_cell _ hx, hsys⟩
  rw [InitSocket.readBus, dif_neg hhigh]
  dsimp only
  rw [hbus, hp]
  rfl

/-- What is read, and from where, makes no difference to the plain memories. -/
theorem readBus_mem {adr : U16} {cmd : GbCommand} {v : U8} {c c' : Cpu σ}
    (h : readBus adr cmd c = .ok (v, c')) :
    c'.regFile = c.regFile ∧ ∀ adr, c'.mem adr = c.mem adr := by
  refine ⟨readBus_regFile h, ?_⟩
  obtain ⟨⟨v', s⟩, hread, hc⟩ := StateExcept.map_eq_ok h
  cases hc
  rw [InitSocket.readBus] at hread
  by_cases hdmi : adr.toNat < 0x4000 ∧ c.initSocket.hasRomBank0 = true
  · rw [dif_pos hdmi] at hread
    cases hread
    exact fun adr => rfl
  · rw [dif_neg hdmi] at hread
    obtain ⟨⟨p, sys⟩, hbus, hread⟩ := StateExcept.except_bind_eq_ok hread
    dsimp only at hread
    split at hread
    · cases hread
    cases hread
    have hgb := congrArg (Except.map fun r : Payload × σ => (r.1, HasGb.gb r.2)) hbus
    rw [HasGb.bTransport_gb] at hgb
    exact Gb.peek_congr (Gb.bTransport_read_load rfl hgb)

theorem fetchNextInstrByte_mem {b : U8} {c c' : Cpu σ} (h : fetchNextInstrByte c = .ok (b, c')) :
    c'.regFile = c.regFile.withPc (c.regFile.pc + 1) ∧ ∀ adr, c'.mem adr = c.mem adr := by
  obtain ⟨pc, c₁, hpc, h⟩ := StateExcept.bind_eq_ok h
  cases hpc
  obtain ⟨v, c₂, hread, h⟩ := StateExcept.bind_eq_ok h
  obtain ⟨hregs, hmem⟩ := readBus_mem hread
  cases h
  refine ⟨?_, hmem⟩
  show c₂.regFile.withPc (c₂.regFile.pc + 1) = _
  rw [hregs]

theorem fetchNext2InstrBytes_mem {w : U16} {c c' : Cpu σ}
    (h : fetchNext2InstrBytes c = .ok (w, c')) :
    c'.regFile = c.regFile.withPc (c.regFile.pc + 2) ∧ ∀ adr, c'.mem adr = c.mem adr := by
  have hsplit : (fetchNext2InstrBytes : CpuM σ U16) = (setGbcmd .gbReadInst >>= fun _ =>
      fetchNextInstrByte >>= fun lsb => fetchNextInstrByte >>= fun msb =>
        pure ((msb.setWidth 16 <<< 8) ||| lsb.setWidth 16)) := by
    simp only [fetchNext2InstrBytes, fetchNextInstrByte, bind_assoc, pure_bind]
  rw [hsplit] at h
  obtain ⟨u, c₁, hcmd, h⟩ := StateExcept.bind_eq_ok h
  cases hcmd
  obtain ⟨lsb, c₂, hlow, h⟩ := StateExcept.bind_eq_ok h
  obtain ⟨msb, c₃, hhigh, h⟩ := StateExcept.bind_eq_ok h
  cases h
  obtain ⟨hregs, hmem⟩ := fetchNextInstrByte_mem hlow
  obtain ⟨hregs', hmem'⟩ := fetchNextInstrByte_mem hhigh
  refine ⟨?_, fun adr => (hmem' adr).trans (hmem adr)⟩
  have hpc : c.regFile.pc + 1 + 1 = c.regFile.pc + 2 := by bv_omega
  rw [hregs', hregs, ← hpc]
  rfl

/-! ## Words -/

/-- From `c` to `c'` the word `w` was pushed: SP went down by two, the bytes of `w` lie above it,
    and nothing else in work RAM and high RAM has changed. -/
structure Pushed (w : U16) (c c' : Cpu σ) : Prop where
  sp : c'.regFile.sp = c.regFile.sp - 2
  mem : ∀ adr, InStackRam adr → c'.mem adr =
    if adr = c.regFile.sp - 1 then some (msb w)
    else if adr = c.regFile.sp - 2 then some (lsb w) else c.mem adr

/-- From `c` to `c'` the word `w` was popped: it lay above SP, SP went up by two, and memory is as
    it was. -/
structure Popped (w : U16) (c c' : Cpu σ) : Prop where
  low : c.mem c.regFile.sp = some (lsb w)
  high : c.mem (c.regFile.sp + 1) = some (msb w)
  sp : c'.regFile.sp = c.regFile.sp + 2
  mem : ∀ adr, c'.mem adr = c.mem adr

/-- SP, and the work RAM and high RAM, are the same. -/
def SameStack (c c' : Cpu σ) : Prop :=
  c'.regFile.sp = c.regFile.sp ∧ ∀ adr, InStackRam adr → c'.mem adr = c.mem adr

theorem Pushed.of_same {w : U16} {c t u : Cpu σ} (h : Pushed w t u) (hsame : SameStack c t) :
    Pushed w c u := by
  refine ⟨hsame.1 ▸ h.sp, fun adr hadr => ?_⟩
  rw [h.mem adr hadr, hsame.1, hsame.2 adr hadr]

theorem Pushed.then_same {w : U16} {t u c : Cpu σ} (h : Pushed w t u) (hsame : SameStack u c) :
    Pushed w t c := by
  refine ⟨hsame.1.trans h.sp, fun adr hadr => ?_⟩
  rw [hsame.2 adr hadr, h.mem adr hadr]

theorem pushByte_stack (c : Cpu σ) (hadr : InStackRam (c.regFile.sp - 1)) (v : U8) :
    ∃ s, pushByte v c = .ok ((), (c.withRegs (c.regFile.withSp (c.regFile.sp - 1))).withSocket s) ∧
      ∀ adr, InStackRam adr → (HasGb.gb s.sys).peek adr =
        if adr = c.regFile.sp - 1 then some v else c.mem adr := by
  obtain ⟨s, hwrite, hmem⟩ := writeBus_stack c.initSocket hadr v
  refine ⟨s, ?_, hmem⟩
  show (c.initSocket.writeBus (c.regFile.sp - 1) v).map _ = _
  rw [hwrite]
  rfl

theorem popByte_stack (c : Cpu σ) (hadr : InStackRam c.regFile.sp) :
    ∃ v s, popByte c = .ok (v, (c.withRegs (c.regFile.withSp (c.regFile.sp + 1))).withSocket s) ∧
      c.mem c.regFile.sp = some v ∧ HasGb.gb s.sys = HasGb.gb c.initSocket.sys := by
  obtain ⟨v, s, hread, hv, hgb⟩ := readBus_stack c.initSocket hadr .gbReadData
  refine ⟨v, s, ?_, hv, hgb⟩
  have hbus : readBus (c.regFile.get16 .sp) .gbReadData c = .ok (v, c.withSocket s) := by
    show (c.initSocket.readBus c.regFile.sp .gbReadData).map _ = _
    rw [hread]
    rfl
  rw [popByte, getReg16_bind, StateExcept.bind_of_ok hbus]
  rfl

/-- The two pushes of a word that `get` reads from the registers, whatever is done after them. -/
theorem pushWord (c : Cpu σ) (get : CpuM σ U16) (f : RegFile → U16)
    (hget : ∀ c : Cpu σ, get c = .ok (f c.regFile, c)) (hf : ∀ rf sp, f (rf.withSp sp) = f rf)
    (hhigh : InStackRam (c.regFile.sp - 1)) (hlow : InStackRam (c.regFile.sp - 2)) :
    ∃ s, (∀ k : Unit → CpuM σ Unit, (get >>= fun w => pushByte (msb w) >>= fun _ =>
        get >>= fun w => pushByte (lsb w) >>= k) c =
          k () ((c.withRegs (c.regFile.withSp (c.regFile.sp - 2))).withSocket s)) ∧
      ∀ c' : Cpu σ, c'.regFile.sp = c.regFile.sp - 2 → c'.initSocket.sys = s.sys →
        Pushed (f c.regFile) c c' := by
  have hsp : c.regFile.sp - 1 - 1 = c.regFile.sp - 2 := by bv_omega
  obtain ⟨s₁, hfirst, hmem₁⟩ := pushByte_stack c hhigh (msb (f c.regFile))
  obtain ⟨s₂, hsecond, hmem₂⟩ := pushByte_stack
    ((c.withRegs (c.regFile.withSp (c.regFile.sp - 1))).withSocket s₁)
    (by rw [← hsp] at hlow; exact hlow) (lsb (f c.regFile))
  refine ⟨s₂, fun k => ?_, fun c' hsp' hsys => ⟨hsp', fun adr hadr => ?_⟩⟩
  · rw [StateExcept.bind_of_ok (hget c), StateExcept.bind_of_ok hfirst,
      StateExcept.bind_of_ok (hget _), withSocket_regFile, withRegs_regFile, hf,
      StateExcept.bind_of_ok hsecond, ← hsp]
    rfl
  · have hlast := hmem₂ adr hadr
    have hne : c.regFile.sp - 1 ≠ c.regFile.sp - 2 := by bv_omega
    change _ = if adr = c.regFile.sp - 1 - 1 then _ else (HasGb.gb s₁.sys).peek adr at hlast
    rw [hsp, hmem₁ adr hadr] at hlast
    rw [mem, hsys, hlast]
    by_cases hadr1 : adr = c.regFile.sp - 1
    · rw [if_neg (hadr1 ▸ hne), if_pos hadr1, if_pos hadr1]
    · rw [if_neg hadr1, if_neg hadr1]

/-- The two pops of a word, whatever is done with it. -/
theorem popWord (c : Cpu σ) (hlow : InStackRam c.regFile.sp)
    (hhigh : InStackRam (c.regFile.sp + 1)) :
    ∃ w s, (∀ k : U16 → CpuM σ Unit, (popByte >>= fun lsb => popByte >>= fun msb =>
        k (msb.setWidth 16 <<< 8 ||| lsb.setWidth 16)) c =
          k w ((c.withRegs (c.regFile.withSp (c.regFile.sp + 2))).withSocket s)) ∧
      ∀ c' : Cpu σ, c'.regFile.sp = c.regFile.sp + 2 → c'.initSocket.sys = s.sys →
        Popped w c c' := by
  have hsp : c.regFile.sp + 1 + 1 = c.regFile.sp + 2 := by bv_omega
  obtain ⟨lo, s₁, hfirst, hlo, hgb₁⟩ := popByte_stack c hlow
  obtain ⟨hi, s₂, hsecond, hhi, hgb₂⟩ := popByte_stack
    ((c.withRegs (c.regFile.withSp (c.regFile.sp + 1))).withSocket s₁) hhigh
  have hmem : ∀ adr, (HasGb.gb s₁.sys).peek adr = c.mem adr := fun adr => by rw [hgb₁, mem]
  refine ⟨hi ++ lo, s₂, fun k => ?_, fun c' hsp' hsys => ⟨?_, ?_, hsp', fun adr => ?_⟩⟩
  · have hword := word_of_bytes (hi ++ lo)
    rw [msb_append, lsb_append] at hword
    rw [StateExcept.bind_of_ok hfirst, StateExcept.bind_of_ok hsecond, hword, ← hsp]
    rfl
  · rw [lsb_append, hlo]
  · rw [msb_append, ← hhi]
    exact (hmem _).symm
  · rw [mem, hsys, hgb₂]
    exact hmem adr

/-! ## Instructions -/

end Cpu

/-- What `evalCond` finds. -/
def Cond.test (cond : Cond) (rf : RegFile) : Bool :=
  match cond with
  | .nz => !rf.flagZ
  | .z => rf.flagZ
  | .nc => !rf.flagC
  | .c => rf.flagC

/-- What a POP leaves in its register of the popped word: POP AF keeps the low nibble of F. -/
def StackReg.popped (r : StackReg) (f : U8) (w : U16) : U16 :=
  match r with
  | .af => msb w ++ ((lsb w &&& 0xF0) ||| (f &&& 0x0F))
  | _ => w

/-- How an instruction uses the stack. -/
inductive StackUse where
  | pushes (w : U16)
  /-- A word is popped, and the registers show it. -/
  | pops (shows : RegFile → U16 → Prop)
  /-- The condition of a CALL or RET does not hold. -/
  | leaves

/-- The use that the instructions of the stack make of it, from the registers after their first
    byte is fetched: PUSH, POP, CALL, RST, RET and RETI. -/
def Instr.stackUse (instr : Instr) (rf : RegFile) : Option StackUse :=
  match instr with
  | .push r => some (.pushes (rf.getStack r))
  | .pop r => some (.pops fun rf' w => rf'.getStack r = r.popped rf.f w)
  | .call => some (.pushes (rf.pc + 2))
  | .callIf cond => some (if cond.test rf then .pushes (rf.pc + 2) else .leaves)
  | .rst _ => some (.pushes rf.pc)
  | .ret | .retI => some (.pops fun rf' w => rf'.pc = w)
  | .retIf cond => some (if cond.test rf then .pops fun rf' w => rf'.pc = w else .leaves)
  | _ => none

namespace StackUse

/-- The addresses that are accessed through SP. -/
def touched (use : StackUse) (sp : U16) : List U16 :=
  match use with
  | .pushes _ => [sp - 1, sp - 2]
  | .pops _ => [sp, sp + 1]
  | .leaves => []

theorem pushes_ram {w sp : U16} (h : ∀ adr ∈ (pushes w).touched sp, InStackRam adr) :
    InStackRam (sp - 1) ∧ InStackRam (sp - 2) :=
  ⟨h _ (by simp [touched]), h _ (by simp [touched])⟩

theorem pops_ram {shows : RegFile → U16 → Prop} {sp : U16}
    (h : ∀ adr ∈ (pops shows).touched sp, InStackRam adr) :
    InStackRam sp ∧ InStackRam (sp + 1) :=
  ⟨h _ (by simp [touched]), h _ (by simp [touched])⟩

variable {σ : Type} [BusPort σ] [Kernel σ] [HasGb σ]

/-- What an instruction with this use does between `t` and `u`. -/
def Effect (use : StackUse) (t u : Cpu σ) : Prop :=
  match use with
  | .pushes w => Cpu.Pushed w t u
  | .pops shows => ∃ w, Cpu.Popped w t u ∧ shows u.regFile w
  | .leaves => u.regFile.sp = t.regFile.sp ∧ ∀ adr, u.mem adr = t.mem adr

end StackUse

namespace Cpu

theorem evalCond_eq {σ : Type} (cond : Cond) (c : Cpu σ) :
    evalCond cond c = .ok (cond.test c.regFile, c) := by
  cases cond <;> rfl

section Interrupted

variable {σ : Type} [BusPort σ]

/-- `HandleInterrupts` finds an enabled and pending interrupt. -/
def Interrupted (c : Cpu σ) : Prop := c.intrMasterEnable = true ∧ c.intr ≠ 0

instance (c : Cpu σ) : Decidable c.Interrupted := by
  unfold Interrupted
  infer_instance

/-- Without an interrupt nothing happens. -/
theorem handleInterrupts_still {c : Cpu σ} (hintr : ¬ c.Interrupted) :
    handleInterrupts c = .ok ((), c) := by
  rcases Bool.eq_false_or_eq_true c.intrMasterEnable with hime | hime
  · have hzero : c.intr = 0 := by
      by_contra hne
      exact hintr ⟨hime, hne⟩
    rw [handleInterrupts_enabled c hime, hzero]
    rfl
  · exact handleInterrupts_disabled c hime

end Interrupted

section Operand

variable {σ : Type} [BusPort σ] [Kernel σ]

/-- The operand of an instruction that takes one can be fetched. -/
def OperandReadable (instr : Instr) (t : Cpu σ) : Prop :=
  match instr with
  | .call | .callIf _ => ∃ r, fetchNext2InstrBytes t = .ok r
  | _ => True

theorem operandReadable_of_execute {fuel : Nat} {instr : Instr} {t : Cpu σ} {r : Unit × Cpu σ}
    (h : execute fuel instr t = .ok r) : OperandReadable instr t := by
  cases instr with
  | call =>
    obtain ⟨w, t', hfetch, -⟩ := StateExcept.bind_eq_ok h
    exact ⟨(w, t'), hfetch⟩
  | callIf cond =>
    obtain ⟨b, t₁, hcond, h⟩ := StateExcept.bind_eq_ok h
    rw [evalCond_eq] at hcond
    cases hcond
    obtain ⟨w, t', hfetch, -⟩ := StateExcept.bind_eq_ok h
    exact ⟨(w, t'), hfetch⟩
  | _ => trivial

end Operand

variable {σ : Type} [BusPort σ] [Kernel σ] [HasGb σ]

/-- The low nibble of F survives a POP AF; the other registers get the word. -/
theorem getStack_popped (r : StackReg) (rf : RegFile) (w : U16) :
    RegFile.getStack r { rf.setStack r w with
      f := ((rf.setStack r w).f &&& 0xF0) ||| (rf.f &&& 0x0F) } = r.popped rf.f w := by
  cases r with
  | af => rfl
  | pc => rfl
  | _ => exact msb_append_lsb w

theorem execute_push (fuel : Nat) (r : StackReg) (c : Cpu σ)
    (hhigh : InStackRam (c.regFile.sp - 1)) (hlow : InStackRam (c.regFile.sp - 2)) :
    ∃ u, execute fuel (.push r) c = .ok ((), u) ∧ Pushed (c.regFile.getStack r) c u := by
  obtain ⟨s, hrun, hpushed⟩ := pushWord c (getStackReg r) (RegFile.getStack r)
    (fun c => rfl) (fun rf sp => by cases r <;> rfl) hhigh hlow
  exact ⟨_, hrun fun _ => setWaitNs 16, hpushed _ rfl rfl⟩

theorem execute_rst (fuel : Nat) (adr : U8) (c : Cpu σ)
    (hhigh : InStackRam (c.regFile.sp - 1)) (hlow : InStackRam (c.regFile.sp - 2)) :
    ∃ u, execute fuel (.rst adr) c = .ok ((), u) ∧ Pushed c.regFile.pc c u := by
  obtain ⟨s, hrun, hpushed⟩ := pushWord c getPc RegFile.pc
    (fun c => rfl) (fun rf sp => rfl) hhigh hlow
  exact ⟨_, hrun fun _ => setPc (adr.setWidth 16) >>= fun _ => setWaitNs 16, hpushed _ rfl rfl⟩

theorem execute_pop (fuel : Nat) (r : StackReg) (c : Cpu σ) (hlow : InStackRam c.regFile.sp)
    (hhigh : InStackRam (c.regFile.sp + 1)) :
    ∃ u, execute fuel (.pop r) c = .ok ((), u) ∧
      ∃ w, Popped w c u ∧ u.regFile.getStack r = r.popped c.regFile.f w := by
  obtain ⟨w, s, hrun, hpopped⟩ := popWord c hlow hhigh
  refine ⟨_, hrun fun w => modifyRegs (fun rf => rf.setStack r w) >>= fun _ =>
    modifyRegs (fun rf => { rf with f := (rf.f &&& 0xF0) ||| (c.regFile.f &&& 0x0F) }) >>=
      fun _ => setWaitNs 12, w, hpopped _ ?_ rfl, ?_⟩
  · cases r <;> rfl
  · exact getStack_popped r (c.regFile.withSp (c.regFile.sp + 2)) w

/-- A taken RET, with what it does after PC is set. -/
theorem ret_popped (k : CpuM σ Unit) (c : Cpu σ) (hlow : InStackRam c.regFile.sp)
    (hhigh : InStackRam (c.regFile.sp + 1)) :
    ∃ d, (popByte >>= fun lsb => popByte >>= fun msb =>
      setPc (msb.setWidth 16 <<< 8 ||| lsb.setWidth 16) >>= fun _ => k) c = k d ∧
        ∀ u : Cpu σ, u.regFile = d.regFile → u.initSocket.sys = d.initSocket.sys →
          Popped d.regFile.pc c u := by
  obtain ⟨w, s, hrun, hpopped⟩ := popWord c hlow hhigh
  refine ⟨_, hrun fun w => setPc w >>= fun _ => k, fun u hregs hsys => hpopped u ?_ hsys⟩
  rw [hregs]
  rfl

/-- A taken CALL: what is pushed is the address after its operand. -/
theorem instrCall_pushed {t : Cpu σ} (hoperand : ∃ r, fetchNext2InstrBytes t = .ok r)
    (hhigh : InStackRam (t.regFile.sp - 1)) (hlow : InStackRam (t.regFile.sp - 2)) :
    ∃ u, instrCall t = .ok ((), u) ∧ Pushed (t.regFile.pc + 2) t u := by
  obtain ⟨⟨jmpAddr, t'⟩, hfetch⟩ := hoperand
  obtain ⟨hregs, hmem⟩ := fetchNext2InstrBytes_mem hfetch
  have hsp : t'.regFile.sp = t.regFile.sp := by rw [hregs]; rfl
  have hpc : t'.regFile.pc = t.regFile.pc + 2 := by rw [hregs]; rfl
  obtain ⟨s, hrun, hpushed⟩ := pushWord t' getPc RegFile.pc
    (fun c => rfl) (fun rf sp => rfl) (hsp ▸ hhigh) (hsp ▸ hlow)
  rw [hpc] at hpushed
  exact ⟨_, (StateExcept.bind_of_ok hfetch).trans
    (hrun fun _ => setPc jmpAddr >>= fun _ => setWaitNs 24),
    (hpushed _ rfl rfl).of_same ⟨hsp, fun adr _ => hmem adr⟩⟩

/-- Every instruction of the stack returns, once its operand is fetched, and uses the stack in
    the one way that its registers call for. -/
theorem execute_stackUse (fuel : Nat) {instr : Instr} {use : StackUse} {t : Cpu σ}
    (huse : instr.stackUse t.regFile = some use)
    (hram : ∀ adr ∈ use.touched t.regFile.sp, InStackRam adr)
    (hoperand : OperandReadable instr t) :
    ∃ u, execute fuel instr t = .ok ((), u) ∧ use.Effect t u := by
  cases instr with
  | push r =>
    cases huse
    obtain ⟨hhigh, hlow⟩ := StackUse.pushes_ram hram
    exact execute_push fuel r t hhigh hlow
  | rst adr =>
    cases huse
    obtain ⟨hhigh, hlow⟩ := StackUse.pushes_ram hram
    exact execute_rst fuel adr t hhigh hlow
  | pop r =>
    cases huse
    obtain ⟨hlow, hhigh⟩ := StackUse.pops_ram hram
    exact execute_pop fuel r t hlow hhigh
  | call =>
    cases huse
    obtain ⟨hhigh, hlow⟩ := StackUse.pushes_ram hram
    exact instrCall_pushed hoperand hhigh hlow
  | callIf cond =>
    have hstart : execute fuel (.callIf cond) t = instrCallIf (cond.test t.regFile) t :=
      StateExcept.bind_of_ok (evalCond_eq cond t)
    rcases Bool.eq_false_or_eq_true (cond.test t.regFile) with htest | htest
    · rw [Instr.stackUse, htest, if_pos rfl] at huse
      cases huse
      obtain ⟨hhigh, hlow⟩ := StackUse.pushes_ram hram
      rw [hstart, htest]
      exact instrCall_pushed hoperand hhigh hlow
    · rw [Instr.stackUse, htest, if_neg Bool.false_ne_true] at huse
      cases huse
      obtain ⟨⟨jmpAddr, t'⟩, hfetch⟩ := hoperand
      obtain ⟨hregs, hmem⟩ := fetchNext2InstrBytes_mem hfetch
      have hsp : t'.regFile.sp = t.regFile.sp := by rw [hregs]; rfl
      have hskip : instrCallIf false t = (setWaitNs 12 : CpuM σ Unit) t' :=
        StateExcept.bind_of_ok hfetch
      rw [hstart, htest]
      exact ⟨_, hskip, hsp, hmem⟩
  | ret =>
    cases huse
    obtain ⟨hlow, hhigh⟩ := StackUse.pops_ram hram
    obtain ⟨d, hrun, hpopped⟩ := ret_popped (setWaitNs 16) t hlow hhigh
    exact ⟨_, hrun, d.regFile.pc, hpopped _ rfl rfl, rfl⟩
  | retI =>
    cases huse
    obtain ⟨hlow, hhigh⟩ := StackUse.pops_ram hram
    obtain ⟨d, hrun, hpopped⟩ := ret_popped (setIntrMasterEnable true >>= fun _ => setWaitNs 16) t
      hlow hhigh
    exact ⟨_, hrun, d.regFile.pc, hpopped _ rfl rfl, rfl⟩
  | retIf cond =>
    have hstart : execute fuel (.retIf cond) t = instrRetIf (cond.test t.regFile) t :=
      StateExcept.bind_of_ok (evalCond_eq cond t)
    rcases Bool.eq_false_or_eq_true (cond.test t.regFile) with htest | htest
    · rw [Instr.stackUse, htest, if_pos rfl] at huse
      cases huse
      obtain ⟨hlow, hhigh⟩ := StackUse.pops_ram hram
      obtain ⟨d, hrun, hpopped⟩ := ret_popped (setWaitNs 20) t hlow hhigh
      rw [hstart, htest]
      exact ⟨_, hrun, d.regFile.pc, hpopped _ rfl rfl, rfl⟩
    · rw [Instr.stackUse, htest, if_neg Bool.false_ne_true] at huse
      cases huse
      rw [hstart, htest]
      exact ⟨_, rfl, rfl, fun adr => rfl⟩
  | _ => cases huse

/-! ## The dispatch -/

theorem enterIsr_same (vector : U16) (flag : U8) (c : Cpu σ) :
    ∃ d, enterIsr vector flag c = .ok ((), d) ∧ SameStack c d := by
  refine ⟨_, rfl, rfl, fun adr _ => ?_⟩
  show (HasGb.gb (BusPort.setIntrPending _ c.initSocket.sys)).peek adr = _
  rw [HasGb.setIntrPending_gb]
  exact Gb.peek_congr (fun x => by cases x <;> rfl) adr

/-- The selection of a vector uses no stack. -/
theorem selectIsr_same (intr : U8) (c : Cpu σ) :
    ∃ d, selectIsr intr c = .ok ((), d) ∧ SameStack c d := by
  rw [selectIsr_eq]
  split_ifs
  · exact enterIsr_same _ _ c
  · exact enterIsr_same _ _ c
  · exact enterIsr_same _ _ c
  · exact enterIsr_same _ _ c
  · exact enterIsr_same _ _ c
  · exact ⟨c, rfl, rfl, fun adr _ => rfl⟩

/-- A dispatch returns, and pushes PC. -/
theorem handleInterrupts_pushed {c : Cpu σ} (hintr : c.Interrupted)
    (hhigh : InStackRam (c.regFile.sp - 1)) (hlow : InStackRam (c.regFile.sp - 2)) :
    ∃ d, handleInterrupts c = .ok ((), d) ∧ Pushed c.regFile.pc c d := by
  obtain ⟨t, hpush, hpushed⟩ :=
    execute_push 0 .pc { c with intrMasterEnable := false } hhigh hlow
  obtain ⟨d, hselect, hsame⟩ := selectIsr_same c.intr t
  have hclear : SameStack c { c with intrMasterEnable := false } := ⟨rfl, fun adr _ => rfl⟩
  refine ⟨d, ?_, (hpushed.of_same hclear).then_same hsame⟩
  rw [handleInterrupts_enabled c hintr.1, if_pos (bne_iff_ne.mpr hintr.2), ← hselect]
  exact StateExcept.bind_of_ok (f := fun _ => selectIsr c.intr) hpush

end Cpu

/-! ## On the fixed schedule -/

theorem Timed.advance_load (n : Nat) (s : Timed Gb) (x : RamCell) :
    (s.advance n).dev.load x = s.dev.load x := by
  induction n with
  | zero => rfl
  | succ n ih =>
    rw [← ih, Timed.advance, Timed.raise]
    cases ((s.advance n).delay 1).schedule.activity ((s.advance n).delay 1).now with
    | none => rfl
    | some bits => cases x <;> rfl

/-- The peripherals of a schedule set bits of IF. -/
instance : HasGb (Timed Gb) where
  gb s := s.dev
  bTransport_gb t s := by
    show Except.map _ (Except.map _ (Gb.bTransport t s.dev)) = _
    cases Gb.bTransport t s.dev <;> rfl
  setIntrPending_gb v s := rfl
  wait_gb {d s s'} h {adr} _ := by
    rcases Bool.eq_false_or_eq_true s.stopped with hstop | hstop
    · simp [Kernel.wait, hstop] at h
    · simp only [Kernel.wait, hstop, Bool.false_eq_true, if_false, Except.ok.injEq] at h
      rw [← h, Timed.runUntil_eq_advance d d s (Nat.le_refl d)]
      exact Gb.peek_congr (Timed.advance_load d s) adr

end TlmBoy
