import TlmBoy.Cartridge.Construct
import TlmBoy.Cpu.MachineCode

/-
  The instructions with which both boot programs of `dmg_rom_data.h` begin.

  They set SP, clear the video RAM from its top down, and set five sound registers and the
  palette. `bootHead_leads` runs them from the first byte to the byte behind them. The loop that
  clears the video RAM counts its rounds down with HL.
-/

namespace TlmBoy

/-! ## Writes to the I/O registers -/

namespace IoRegisters

/-- Another value in a register. -/
def withReg (i : Fin 0x80) (v : U8) (io : IoRegisters) : IoRegisters :=
  { io with data := Function.update io.data i v }

/-- A write of `v` to the register `adr` turns the registers into `io'` and starts no DMA. -/
def WritesTo (io : IoRegisters) (adr : U16) (v : U8) (io' : IoRegisters) : Prop :=
  ∀ t : Payload, t.command = .write → t.address = adr → t.data = v →
    ∃ t', io.bTransport t = .ok (t', io', none)

theorem storeReg_eq (io : IoRegisters) {adr : U16} (hadr : adr.toNat < 0x80) (v : U8) :
    io.storeReg adr v = .ok (io.withReg ⟨adr.toNat, hadr⟩ v) := by
  rw [storeReg, GenericMemory.store, dif_pos hadr]
  rfl

variable (io : IoRegisters) (v : U8)

/-- NR52 turns the APU on. -/
theorem writesTo_apuOn (hv : v &&& 0x80 ≠ 0) :
    io.WritesTo 0x16 v (io.withReg 0x16 (v &&& 0x80)) := by
  intro t hcmd hadr hdata
  have hoff : ¬ (t.address = 0x16 ∧ (t.data &&& 0b10000000) = 0) := fun h => hv (hdata ▸ h.2)
  have hon : ¬ (t.address < 0x20 ∧ t.address ≠ 0x16 ∧ (io.data 0x16 &&& 0b10000000) = 0) :=
    fun h => h.2.1 hadr
  have hstore : io.storeReg 0x16 (v &&& 0x80) = .ok (io.withReg 0x16 (v &&& 0x80)) :=
    io.storeReg_eq (by decide) _
  rw [bTransport, hcmd]
  dsimp only
  rw [if_neg hoff, if_neg hon, hadr, hdata]
  exact ⟨_, congrArg (fun e => e >>= fun io' => pure (_, io', none)) hstore⟩

/-- A register that only stores. The sound registers do so while the APU is on. -/
theorem writesTo_reg {adr : U16} (hadr : adr.toNat < 0x80) (hne : adr ≠ 0x16)
    (hplain : io.writeReg adr v = io.storeReg adr v >>= fun io' => pure (io', none))
    (hon : ¬ adr < 0x20 ∨ io.data 0x16 &&& 0x80 ≠ 0) :
    io.WritesTo adr v (io.withReg ⟨adr.toNat, hadr⟩ v) := by
  intro t hcmd hadr' hdata
  subst hadr' hdata
  have hoff : ¬ (t.address = 0x16 ∧ (t.data &&& 0b10000000) = 0) := fun h => hne h.1
  have hgo : ¬ (t.address < 0x20 ∧ t.address ≠ 0x16 ∧ (io.data 0x16 &&& 0b10000000) = 0) :=
    fun h => hon.elim (fun hout => hout h.1) fun hapu => hapu h.2.2
  rw [bTransport, hcmd]
  dsimp only
  rw [if_neg hoff, if_neg hgo, hplain, io.storeReg_eq hadr]
  exact ⟨_, rfl⟩

/-- The write of 1 that unmaps the boot ROM. -/
theorem writesTo_unmap : io.WritesTo 0x40 1 (io.writeSignal .unmapRom true) := by
  intro t hcmd hadr hdata
  have hoff : ¬ (t.address = 0x16 ∧ (t.data &&& 0b10000000) = 0) := by
    rw [hadr]
    exact fun h => absurd h.1 (by decide)
  have hgo : ¬ (t.address < 0x20 ∧ t.address ≠ 0x16 ∧ (io.data 0x16 &&& 0b10000000) = 0) := by
    rw [hadr]
    exact fun h => absurd h.1 (by decide)
  rw [bTransport, hcmd]
  dsimp only
  rw [if_neg hoff, if_neg hgo, hadr, hdata]
  exact ⟨_, rfl⟩

end IoRegisters

namespace Gb

/-- A write to an I/O register. -/
theorem writesTo_io {gb : Gb} {adr reg : U16} {v : U8} {io' : IoRegisters}
    (hreg : findSlave adr = some ⟨0xFF10, 0xFF7F, .ioRegisters⟩) (hadr : adr - 0xFF10 = reg)
    (h : gb.ioRegisters.WritesTo reg v io') : gb.WritesTo adr v { gb with ioRegisters := io' } := by
  intro i t hcmd hadr' hdata
  subst hadr' hadr
  obtain ⟨t', hio⟩ := h { t with address := t.address - 0xFF10 } hcmd rfl hdata
  refine ⟨t', bTransport_of_route ?_⟩
  rw [routeTransport_mapped _ hreg]
  exact congrArg (fun e => e >>= fun r : Payload × IoRegisters × Option U8 =>
    pure (r.1, ({ gb with regIf := i, ioRegisters := r.2.1 } : Gb), r.2.2)) hio

end Gb

namespace Cpu

variable {fuel : Nat} {gb : Gb}

/-- The common beginning of the two programs, up to the write of the palette. -/
def bootHead : List U8 := DmgRom.kSpan.take 33

theorem bootHead_quickBoot : bootHead <+: DmgRom.kQuickBootSpan := by decide

theorem alu_xor_self (rf : RegFile) : rf.alu .xor (rf.get .a) =
    { rf with a := 0, f := packFlags true false false false rf.f } := by
  simp [RegFile.alu, AluOp.out, AluOut.bitwise]
  rfl

/-! ## The loop that clears the video RAM -/

/-- The registers in the loop: `n` bytes are left. -/
def clearingRegs (n : Nat) (f : U8) (rf : RegFile) : RegFile :=
  let hl := BitVec.ofNat 16 (0x7FFF + n)
  { rf with a := 0, f, h := msb hl, l := lsb hl, sp := 0xFFFE, pc := 0x0007 }

theorem clearingRegs_hl (n : Nat) (f : U8) (rf : RegFile) :
    (clearingRegs n f rf).get16 .hl = BitVec.ofNat 16 (0x7FFF + n) := msb_append_lsb _

/-- The pointer moves down. -/
theorem clearingRegs_move (n : Nat) (f : U8) (rf : RegFile) :
    Pointer.hlDec.move ((clearingRegs (n + 1) f rf).withPc 0x0008) =
      (clearingRegs n f rf).withPc 0x0008 := by
  have hpred : BitVec.ofNat 16 (0x7FFF + (n + 1)) - 1 = BitVec.ofNat 16 (0x7FFF + n) := by
    rw [← Nat.add_assoc, BitVec.ofNat_add]
    exact BitVec.add_sub_cancel _ _
  rw [Pointer.move, RegFile.withPc_get16, clearingRegs_hl, hpred]
  rfl

/-- Bit 7 of H is set while HL is in the video RAM. -/
theorem clearingRegs_bit (n : Nat) (hn : n < 8192) (f : U8) (rf : RegFile) :
    (!((clearingRegs n f rf).get .h).getLsbD 7) = (n == 0) := by
  have hmsb : ((clearingRegs n f rf).get .h).getLsbD 7 =
      decide (0x80 ≤ (msb (BitVec.ofNat 16 (0x7FFF + n))).toNat) := by
    rw [← BitVec.msb_eq_getLsbD_last, BitVec.msb_eq_decide]
    rfl
  rw [hmsb, toNat_msb, BitVec.toNat_ofNat]
  by_cases hzero : n = 0
  · subst hzero
    rfl
  · have hhigh : 0x80 ≤ (0x7FFF + n) % 2 ^ 16 / 256 := by omega
    rw [decide_eq_true hhigh, beq_false_of_ne hzero]
    rfl

/-- The video RAM from its byte `n` on is zero, and the rest of the devices is as in `gb`. -/
def ClearedFrom (n : Nat) (gb gb' : Gb) : Prop :=
  ∃ v : GenericMemory 8192, (∀ i : Fin 8192, n ≤ i.val → v.data i = 0) ∧
    gb' = { gb with videoRam := v }

theorem ramCell_videoRam {n : Nat} (hn : n < 8192) :
    ramCell (BitVec.ofNat 16 (0x7FFF + (n + 1))) = some (.videoRam ⟨n, hn⟩) := by
  have hadr : (BitVec.ofNat 16 (0x7FFF + (n + 1))).toNat = 0x8000 + n := by
    rw [BitVec.toNat_ofNat]
    omega
  have hslave : findSlave (BitVec.ofNat 16 (0x7FFF + (n + 1))) =
      some ⟨0x8000, 0x9FFF, .videoRam⟩ := by
    rw [findSlave_eq_some_iff]
    refine ⟨by decide, ?_, ?_⟩
    · rw [BitVec.le_def, hadr]
      exact Nat.le_add_right _ _
    · rw [BitVec.le_def, hadr]
      show 0x8000 + n ≤ 0x9FFF
      omega
  have hrel : (BitVec.ofNat 16 (0x7FFF + (n + 1)) - 0x8000).toNat = n := by
    rw [BitVec.toNat_sub, hadr]
    show (2 ^ 16 - 0x8000 + (0x8000 + n)) % 2 ^ 16 = n
    omega
  rw [ramCell, hslave]
  show Slave.cell .videoRam (BitVec.ofNat 16 (0x7FFF + (n + 1)) - 0x8000) = _
  rw [Slave.cell, dif_pos (by rw [hrel]; exact hn)]
  simp only [hrel]

theorem ClearedFrom.cartridge {n : Nat} {gb' : Gb} (h : ClearedFrom n gb gb') :
    gb'.cartridge = gb.cartridge := by
  obtain ⟨v, -, rfl⟩ := h
  rfl

/-- One more byte is cleared. -/
theorem ClearedFrom.store {n : Nat} (hn : n < 8192) {gb' : Gb} (h : ClearedFrom (n + 1) gb gb') :
    ClearedFrom n gb (gb'.store (.videoRam ⟨n, hn⟩) 0) := by
  obtain ⟨v, hv, rfl⟩ := h
  refine ⟨⟨Function.update v.data ⟨n, hn⟩ 0⟩, ?_, rfl⟩
  intro i hi
  by_cases heq : i = ⟨n, hn⟩
  · rw [heq]
    exact Function.update_self _ _ _
  · refine (Function.update_of_ne heq _ _).trans ?_
    have hne : i.val ≠ n := fun h => heq (Fin.ext h)
    exact hv i (by omega)

/-- The jump at the end of a round. -/
theorem clear_jump (hboot : HasCode 256 gb 0 bootHead) (rf : RegFile) (n : Nat) (f : U8)
    (hz : isBitSet f 7 = (n == 0)) :
    Leads fuel 256 (At ((clearingRegs n f rf).withPc 0x000A) gb)
      (At ((clearingRegs n f rf).withPc (if n = 0 then 0x000C else 0x0007)) gb) := by
  have hcode : HasCode 256 gb 0x000A [0x20, 0xFB] := hboot.piece 10 _ (by decide)
  have hflag : ((clearingRegs n f rf).withPc 0x000A).flagZ = (n == 0) := by
    rw [RegFile.flagZ_eq]
    exact hz
  refine leads_eq (steps_jrNz hcode) ?_
  rw [hflag]
  cases n <;> rfl

/-- One round of the loop. -/
theorem clear_round (hboot : HasCode 256 gb 0 bootHead) (rf : RegFile) (n : Nat)
    (hn : n < 8192) (f : U8) {gb' : Gb} (hgb : ClearedFrom (n + 1) gb gb') :
    Leads fuel 256 (At (clearingRegs (n + 1) f rf) gb')
      (At ((clearingRegs n (packFlags (n == 0) false true (isBitSet f 4) f) rf).withPc
        (if n = 0 then 0x000C else 0x0007)) (gb'.store (.videoRam ⟨n, hn⟩) 0)) := by
  have hcleared := hboot.of_cartridge (hgb.store hn).cartridge
  have hstore : Leads fuel 256 (At (clearingRegs (n + 1) f rf) gb')
      (At ((clearingRegs n f rf).withPc 0x0008) (gb'.store (.videoRam ⟨n, hn⟩) 0)) := by
    have hcode : HasCode 256 gb' 0x0007 [0x32] :=
      (hboot.of_cartridge hgb.cartridge).piece 7 _ (by decide)
    rw [← clearingRegs_move]
    refine .of_step (steps_storeA .hlDec rfl hcode ?_)
    refine gb'.writesTo_cell ?_ 0
    rw [Pointer.reg, clearingRegs_hl]
    exact ramCell_videoRam hn
  have hbit : Leads fuel 256
      (At ((clearingRegs n f rf).withPc 0x0008) (gb'.store (.videoRam ⟨n, hn⟩) 0))
      (At ((clearingRegs n (packFlags (n == 0) false true (isBitSet f 4) f) rf).withPc 0x000A)
        (gb'.store (.videoRam ⟨n, hn⟩) 0)) := by
    have hcode : HasCode 256 (gb'.store (.videoRam ⟨n, hn⟩) 0) 0x0008 [0xCB, 0x7C] :=
      hcleared.piece 8 _ (by decide)
    rw [← clearingRegs_bit n hn f rf]
    exact .of_step (steps_bit 7 .h rfl rfl hcode)
  exact (hstore.trans hbit).trans
    (clear_jump hcleared rf n _ (isBitSet_packFlags_z _ _ _ _ _))

/-- In the loop: `n` bytes are left to be cleared, and the carry is off. -/
def Clearing (rf : RegFile) (gb : Gb) (n : Nat) (c : Cpu (Timed Gb)) : Prop :=
  n ≤ 8192 ∧ ∃ z h gb', ClearedFrom n gb gb' ∧
    At ((clearingRegs n (packFlags z false h false rf.f) rf).withPc
      (if n = 0 then 0x000C else 0x0007)) gb' c

/-- The loop. -/
theorem clear_loop (hboot : HasCode 256 gb 0 bootHead) (rf : RegFile) :
    Leads fuel 256 (Clearing rf gb 8192) (Clearing rf gb 0) := by
  refine Machine.LeadsTo.countdown ?_ 8192
  intro n c hc
  obtain ⟨hle, z, h, gb', hgb, hat⟩ := hc
  have hn : n < 8192 := by omega
  obtain ⟨c', hrun, hc'⟩ := clear_round hboot rf n hn (packFlags z false h false rf.f) hgb c hat
  refine ⟨c', hrun, by omega, n == 0, true, _, hgb.store hn, ?_⟩
  rw [isBitSet_packFlags_c, packFlags_packFlags] at hc'
  exact hc'

theorem clearingRegs_top (f : U8) (rf : RegFile) : clearingRegs 8192 f rf =
    { rf with a := 0, f, h := 0x9F, l := 0xFF, sp := 0xFFFE, pc := 0x0007 } := by
  have hhl : BitVec.ofNat 16 (0x7FFF + 8192) = 0x9FFF#16 := by decide
  rw [clearingRegs, hhl]
  rfl

/-- The instructions before the loop. -/
theorem clearing_entry (hboot : HasCode 256 gb 0 bootHead) (rf : RegFile) :
    Leads fuel 256 (At (rf.withPc 0) gb) (Clearing rf gb 8192) := by
  have hcode : HasCode 256 gb 0x0000 [0x31, 0xFE, 0xFF] := hboot.piece 0 _ (by decide)
  have hsp : Leads fuel 256 (At (rf.withPc 0) gb)
      (At { rf with sp := 0xFFFE, pc := 0x0003 } gb) := leads_eq (steps_ldImm16 .sp rfl hcode) rfl
  have hcode : HasCode 256 gb 0x0003 [0xAF] := hboot.piece 3 _ (by decide)
  have hxor : Leads fuel 256 (At { rf with sp := 0xFFFE, pc := 0x0003 } gb)
      (At ({ rf with a := 0, f := packFlags true false false false rf.f, sp := 0xFFFE }.withPc
        0x0004) gb) := leads_eq (steps_alu .xor .a rfl hcode) (alu_xor_self _)
  have hcode : HasCode 256 gb 0x0004 [0x21, 0xFF, 0x9F] := hboot.piece 4 _ (by decide)
  have hhl : Leads fuel 256
      (At ({ rf with a := 0, f := packFlags true false false false rf.f, sp := 0xFFFE }.withPc
        0x0004) gb)
      (At (clearingRegs 8192 (packFlags true false false false rf.f) rf) gb) :=
    leads_eq (steps_ldImm16 .hl rfl hcode) (clearingRegs_top _ _).symm
  refine ((hsp.trans hxor).trans hhl).weaken (fun _ h => h) ?_
  intro c hc
  refine ⟨le_refl _, true, false, gb, ⟨gb.videoRam, ?_, rfl⟩, hc⟩
  intro i hi
  exact absurd i.isLt (by omega)

/-! ## The sound registers and the palette -/

/-- What is written behind the loop: the sound is switched on first, then the duty and the
    envelope of the first channel, the panning, the volume, and the palette. -/
def soundWrites : List (Fin 0x80 × U8) :=
  [(0x16, 0x80), (0x01, 0x80), (0x02, 0xF3), (0x15, 0xF3), (0x14, 0x77), (0x37, 0xFC)]

/-- The devices after the first `k` of these writes. -/
def soundStage (k : Nat) (gb : Gb) : Gb :=
  { gb with
    ioRegisters := (soundWrites.take k).foldl (fun io w => io.withReg w.1 w.2) gb.ioRegisters }

/-- The registers during the writes. -/
def soundRegs (a c l f : U8) (pc : U16) (rf : RegFile) : RegFile :=
  { rf with a, c, f, h := 0xFF, l, pc }

/-- LD (HL-),A stays in the page of the registers. -/
theorem soundRegs_move (a c f : U8) {l : U8} (hl : l ≠ 0) (pc pc' : U16) (rf : RegFile) :
    Pointer.hlDec.move ((soundRegs a c l f pc rf).withPc pc') =
      soundRegs a c (l - 1) f pc' rf := by
  have hpred : ∀ l : U8, l ≠ 0 → (0xFF#8 ++ l : U16) - 1 = 0xFF#8 ++ (l - 1) := by decide
  have hmove : Pointer.hlDec.move ((soundRegs a c l f pc rf).withPc pc') =
      ((soundRegs a c l f pc rf).withPc pc').set16 .hl (0xFF#8 ++ l - 1) := rfl
  rw [hmove, hpred l hl, RegFile.set16, msb_append, lsb_append]
  rfl

/-- F after INC C. -/
def soundFlags (f : U8) : U8 := packFlags false false false (isBitSet f 4) f

theorem soundRegs_inc (a l f : U8) (pc pc' : U16) (rf : RegFile) :
    let r := soundRegs a 0x11 l f pc rf
    ((r.withPc pc').set .c (r.get .c + 1)).withF (packFlags (r.get .c + 1 == 0) false
      (((r.get .c + 1) &&& 0x0F) == 0) (isBitSet r.f 4) r.f) =
      soundRegs a 0x12 l (soundFlags f) pc' rf := by
  have hc : (soundRegs a 0x11 l f pc rf).get .c + 1 = 0x12 := show 0x11#8 + 1#8 = 0x12#8 by decide
  dsimp only
  rw [hc]
  rfl

theorem soundStage_on (gb : Gb) :
    (soundStage 0 gb).WritesTo (0xFF#8 ++ 0x26#8) 0x80 (soundStage 1 gb) :=
  Gb.writesTo_io rfl rfl (IoRegisters.writesTo_apuOn _ 0x80 (by decide))

/-- The other five only store. -/
theorem soundStage_store {k : Nat} {adr reg : U16} {v : U8} (hreg : reg.toNat < 0x80)
    (hslave : findSlave adr = some ⟨0xFF10, 0xFF7F, .ioRegisters⟩) (hadr : adr - 0xFF10 = reg)
    (hne : reg ≠ 0x16) (hon : (soundStage k gb).ioRegisters.data 0x16 = 0x80)
    (hplain : (soundStage k gb).ioRegisters.writeReg reg v =
      (soundStage k gb).ioRegisters.storeReg reg v >>= fun io' => pure (io', none))
    (hnext : soundStage (k + 1) gb = { soundStage k gb with
      ioRegisters := (soundStage k gb).ioRegisters.withReg ⟨reg.toNat, hreg⟩ v }) :
    (soundStage k gb).WritesTo adr v (soundStage (k + 1) gb) := by
  have happly : (soundStage k gb).ioRegisters.data 0x16 &&& 0x80 ≠ 0 := by
    rw [hon]
    decide
  rw [hnext]
  exact Gb.writesTo_io hslave hadr (IoRegisters.writesTo_reg _ v hreg hne hplain (.inr happly))

/-- Between two of these instructions. -/
def SoundAt (rf : RegFile) (gb : Gb) (a c l f : U8) (pc : U16) (k : Nat) :
    Cpu (Timed Gb) → Prop := At (soundRegs a c l f pc rf) (soundStage k gb)

/-- The instructions behind the loop. -/
theorem sound_leads (hboot : HasCode 256 gb 0 bootHead) (rf : RegFile) :
    Leads fuel 256 (At (rf.withPc 0x000C) gb)
      (SoundAt rf gb 0xFC 0x12 0x24 (soundFlags rf.f) 0x0021 6) := by
  have hduty : (soundStage 1 gb).WritesTo (0xFF#8 ++ 0x11#8) 0x80 (soundStage 2 gb) :=
    soundStage_store (k := 1) (by decide) rfl rfl (by decide) rfl rfl rfl
  have henvelope : (soundStage 2 gb).WritesTo (0xFF#8 ++ 0x12#8) 0xF3 (soundStage 3 gb) :=
    soundStage_store (k := 2) (by decide) rfl rfl (by decide) rfl rfl rfl
  have hpanning : (soundStage 3 gb).WritesTo (0xFF#8 ++ 0x25#8) 0xF3 (soundStage 4 gb) :=
    soundStage_store (k := 3) (by decide) rfl rfl (by decide) rfl rfl rfl
  have hvolume : (soundStage 4 gb).WritesTo (0xFF#8 ++ 0x24#8) 0x77 (soundStage 5 gb) :=
    soundStage_store (k := 4) (by decide) rfl rfl (by decide) rfl rfl rfl
  have hpalette : (soundStage 5 gb).WritesTo (0xFF#8 ++ 0x47#8) 0xFC (soundStage 6 gb) :=
    soundStage_store (k := 5) (by decide) rfl rfl (by decide) rfl rfl rfl
  calc
    -- LD HL,0xFF26
    Leads fuel 256 (At (rf.withPc 0x000C) gb)
      (SoundAt rf gb rf.a rf.c 0x26 rf.f 0x000F 0) :=
      leads_eq (steps_ldImm16 .hl rfl (hboot.piece 12 [0x21, 0x26, 0xFF] (by decide))) rfl
    -- LD C,0x11
    Leads fuel 256 _ (SoundAt rf gb rf.a 0x11 0x26 rf.f 0x0011 0) :=
      leads_eq (steps_ldImm .c rfl (hboot.piece 15 [0x0E, 0x11] (by decide))) rfl
    -- LD A,0x80
    Leads fuel 256 _ (SoundAt rf gb 0x80 0x11 0x26 rf.f 0x0013 0) :=
      leads_eq (steps_ldImm .a rfl (hboot.piece 17 [0x3E, 0x80] (by decide))) rfl
    -- LD (HL-),A
    Leads fuel 256 _ (SoundAt rf gb 0x80 0x11 0x25 rf.f 0x0014 1) :=
      leads_eq (steps_storeA .hlDec rfl (hboot.piece 19 [0x32] (by decide)) (soundStage_on gb))
        (soundRegs_move _ _ _ (by decide) _ _ rf)
    -- LD (0xFF00+C),A
    Leads fuel 256 _ (SoundAt rf gb 0x80 0x11 0x25 rf.f 0x0015 2) :=
      leads_eq (steps_storeHighC rfl (hboot.piece 20 [0xE2] (by decide)) hduty) rfl
    -- INC C
    Leads fuel 256 _ (SoundAt rf gb 0x80 0x12 0x25 (soundFlags rf.f) 0x0016 2) :=
      leads_eq (steps_inc .c rfl (hboot.piece 21 [0x0C] (by decide))) (soundRegs_inc _ _ _ _ _ rf)
    -- LD A,0xF3
    Leads fuel 256 _ (SoundAt rf gb 0xF3 0x12 0x25 (soundFlags rf.f) 0x0018 2) :=
      leads_eq (steps_ldImm .a rfl (hboot.piece 22 [0x3E, 0xF3] (by decide))) rfl
    -- LD (0xFF00+C),A
    Leads fuel 256 _ (SoundAt rf gb 0xF3 0x12 0x25 (soundFlags rf.f) 0x0019 3) :=
      leads_eq (steps_storeHighC rfl (hboot.piece 24 [0xE2] (by decide)) henvelope) rfl
    -- LD (HL-),A
    Leads fuel 256 _ (SoundAt rf gb 0xF3 0x12 0x24 (soundFlags rf.f) 0x001A 4) :=
      leads_eq (steps_storeA .hlDec rfl (hboot.piece 25 [0x32] (by decide)) hpanning)
        (soundRegs_move _ _ _ (by decide) _ _ rf)
    -- LD A,0x77
    Leads fuel 256 _ (SoundAt rf gb 0x77 0x12 0x24 (soundFlags rf.f) 0x001C 4) :=
      leads_eq (steps_ldImm .a rfl (hboot.piece 26 [0x3E, 0x77] (by decide))) rfl
    -- LD (HL),A
    Leads fuel 256 _ (SoundAt rf gb 0x77 0x12 0x24 (soundFlags rf.f) 0x001D 5) :=
      leads_eq (steps_store .a rfl (hboot.piece 28 [0x77] (by decide)) hvolume) rfl
    -- LD A,0xFC
    Leads fuel 256 _ (SoundAt rf gb 0xFC 0x12 0x24 (soundFlags rf.f) 0x001F 5) :=
      leads_eq (steps_ldImm .a rfl (hboot.piece 29 [0x3E, 0xFC] (by decide))) rfl
    -- LDH (0x47),A
    Leads fuel 256 _ (SoundAt rf gb 0xFC 0x12 0x24 (soundFlags rf.f) 0x0021 6) :=
      leads_eq (steps_storeHigh rfl (hboot.piece 31 [0xE0, 0x47] (by decide)) hpalette) rfl

/-! ## The whole beginning -/

/-- The registers that the beginning of a boot program leaves. -/
def headRegs (rf : RegFile) : RegFile :=
  { rf with
    a := 0xFC, c := 0x12, f := packFlags false false false false rf.f,
    h := 0xFF, l := 0x24, sp := 0xFFFE, pc := 0x0021 }

theorem bootHead_leads (hboot : HasCode 256 gb 0 bootHead) (rf : RegFile) :
    Leads fuel 256 (At (rf.withPc 0) gb)
      fun c => ∃ gb', ClearedFrom 0 gb gb' ∧ At (headRegs rf) (soundStage 6 gb') c := by
  refine ((clearing_entry hboot rf).trans (clear_loop hboot rf)).trans ?_
  intro c hc
  obtain ⟨-, z, h, gb', hgb, hat⟩ := hc
  obtain ⟨c', hrun, hc'⟩ := sound_leads (hboot.of_cartridge hgb.cartridge)
    (clearingRegs 0 (packFlags z false h false rf.f) rf) c hat
  refine ⟨c', hrun, gb', hgb, ?_⟩
  have hflags : soundFlags (packFlags z false h false rf.f) =
      packFlags false false false false rf.f := by
    rw [soundFlags, isBitSet_packFlags_c, packFlags_packFlags]
  have hregs : soundRegs 0xFC 0x12 0x24 (soundFlags (packFlags z false h false rf.f)) 0x0021
      (clearingRegs 0 (packFlags z false h false rf.f) rf) = headRegs rf := by
    rw [hflags]
    rfl
  rw [← hregs]
  exact hc'

/-! ## The last two instructions -/

/-- They write 1 to the register that unmaps the boot program. -/
theorem handOver_leads (hcode : HasCode 256 gb 0x00FC [0x3E, 0x01, 0xE0, 0x50]) (rf : RegFile) :
    Leads fuel 256 (At (rf.withPc 0x00FC) gb) (At { rf with a := 1, pc := 0x0100 }
      { gb with ioRegisters := gb.ioRegisters.writeSignal .unmapRom true }) := by
  have hwrite : gb.WritesTo (0xFF#8 ++ 0x50#8) 1
      { gb with ioRegisters := gb.ioRegisters.writeSignal .unmapRom true } :=
    Gb.writesTo_io rfl rfl (IoRegisters.writesTo_unmap _)
  calc
    -- LD A,0x01
    Leads fuel 256 (At (rf.withPc 0x00FC) gb)
      (At { rf with a := 1, pc := 0x00FE } gb) :=
      leads_eq (steps_ldImm .a rfl (hcode.piece 0 [0x3E, 0x01] (by decide))) rfl
    -- LDH (0x50),A
    Leads fuel 256 _ (At { rf with a := 1, pc := 0x0100 } _) :=
      leads_eq (steps_storeHigh rfl (hcode.piece 2 [0xE0, 0x50] (by decide)) hwrite) rfl

end Cpu

end TlmBoy
