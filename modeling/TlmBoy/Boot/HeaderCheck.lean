import TlmBoy.Boot.BootCode

/-
  The check of the cartridge header in the original boot program.

  From 0x00E0 on the program compares the logo in the header with its own, byte by byte, and adds
  up the bytes from 0x0134 to 0x014D and 0x19. Where two bytes of the logo differ, or the sum is
  not 0, it jumps to the jump that it is at, for ever. Otherwise it unmaps itself and enters the
  game at 0x0100.
-/

namespace TlmBoy

/-! ## What is checked -/

namespace Gb

/-- 0x19 and the first `n` bytes that are added up. -/
def headerSum (gb : Gb) : Nat → U8
  | 0 => 0x19
  | n + 1 => gb.headerSum n + gb.romByte (BitVec.ofNat 16 (0x0134 + n))

/-- A byte of the logo in the header is the one that the boot program has. -/
def LogoByte (gb : Gb) (i : Nat) : Prop :=
  gb.romByte (BitVec.ofNat 16 (0x0104 + i)) = gb.romByte (BitVec.ofNat 16 (0x00A8 + i))

instance (gb : Gb) (i : Nat) : Decidable (gb.LogoByte i) :=
  inferInstanceAs (Decidable (_ = _))

/-- The header of the game passes. -/
structure HeaderOk (gb : Gb) : Prop where
  logo : ∀ i < 48, gb.LogoByte i
  sum : gb.headerSum 26 = 0

end Gb

namespace Cpu

variable {fuel : Nat} {gb : Gb}

/-- The CPU jumps to where it is. -/
def Locked (gb : Gb) (c : Cpu (Timed Gb)) : Prop :=
  ∃ rf, (rf.pc = 0x00E9 ∨ rf.pc = 0x00FA) ∧ rf.flagZ = false ∧ At rf gb c

/-- It stays there. -/
theorem locked_stays (hboot : HasCode 256 gb 0 DmgRom.kSpan) :
    Machine.Stays (cycle fuel) (PcBelow 256) (Locked gb) := by
  have hlogo : HasCode 256 gb 0x00E9 [0x20, 0xFE] := hboot.piece 0xE9 _ (by decide)
  have hsum : HasCode 256 gb 0x00FA [0x20, 0xFE] := hboot.piece 0xFA _ (by decide)
  intro c hc
  obtain ⟨rf, hpc, hz, hat⟩ := hc
  have hcode : HasCode 256 gb rf.pc [0x20, 0xFE] := by
    rcases hpc with hpc | hpc
    · rw [hpc]
      exact hlogo
    · rw [hpc]
      exact hsum
  have htarget : jumpTarget (rf.pc + 1 + 1) 0xFE = rf.pc := by
    rcases hpc with hpc | hpc <;> rw [hpc] <;> rfl
  obtain ⟨hbelow, c', hstep, hc'⟩ := steps_jrNz hcode c hat
  rw [hz, if_neg Bool.false_ne_true, htarget] at hc'
  exact ⟨hbelow, c', hstep, rf, hpc, hz, hc'⟩

/-! ## Instructions -/

/-- CP changes only the flags. -/
theorem alu_cp (rf : RegFile) (v : U8) :
    ∃ f, rf.alu .cp v = rf.withF f ∧ isBitSet f 7 = decide (rf.a = v) := by
  refine ⟨_, rfl, ?_⟩
  have hdiff : (rf.a - v == 0) = decide (rf.a = v) := by
    rw [Bool.eq_iff_iff, beq_iff_eq, decide_eq_true_iff]
    exact sub_eq_zero
  rw [isBitSet_packFlags_z, ← hdiff]
  show ((AluOut.difference rf.a v 0).value == 0) = _
  rw [AluOut.difference_zero]

theorem alu_add (rf : RegFile) (v : U8) :
    ∃ f, rf.alu .add v = { rf with a := rf.a + v, f } ∧ isBitSet f 7 = (rf.a + v == 0) := by
  have hvalue : (AluOut.sum rf.a v 0).value = rf.a + v := by rw [AluOut.sum_zero]
  refine ⟨packFlags ((AluOut.sum rf.a v 0).value == 0) false (AluOut.sum rf.a v 0).half
    (AluOut.sum rf.a v 0).carry rf.f, ?_, ?_⟩
  · rw [← hvalue]
    rfl
  · rw [isBitSet_packFlags_z, hvalue]

/-- Addresses within one page. -/
theorem page_eq (hi : U8) {k : Nat} (hk : k < 256) :
    (hi ++ BitVec.ofNat 8 k : U16) = BitVec.ofNat 16 (hi.toNat * 256 + k) := by
  have hlt := hi.isLt
  refine BitVec.eq_of_toNat_eq ?_
  rw [toNat_append_bytes, BitVec.toNat_ofNat, BitVec.toNat_ofNat]
  omega

theorem page_succ (hi : U8) {k : Nat} (hk : k + 1 < 256) :
    (hi ++ BitVec.ofNat 8 k : U16) + 1 = hi ++ BitVec.ofNat 8 (k + 1) := by
  rw [page_eq hi hk, page_eq hi (by omega), ← Nat.add_assoc]
  exact (BitVec.ofNat_add _ 1).symm

/-! ## The logo -/

/-- The registers in the loop: DE points to byte `i` of the program's logo, and HL to byte `j` of
    the header's. -/
def logoRegs (i j : Nat) (a f : U8) (pc : U16) (rf : RegFile) : RegFile :=
  { rf with a, f, d := 0, e := BitVec.ofNat 8 (0xA8 + i), h := 1, l := BitVec.ofNat 8 (4 + j), pc }

section Logo

variable {i j : Nat} (a f : U8) (pc pc' : U16) (rf : RegFile)

theorem logoRegs_de (hi : i < 48) :
    (logoRegs i j a f pc rf).get16 .de = BitVec.ofNat 16 (0x00A8 + i) := by
  refine (page_eq 0#8 (by omega)).trans ?_
  exact congrArg _ (by show 0 * 256 + (0xA8 + i) = _; omega)

theorem logoRegs_hl (hj : j ≤ 48) :
    (logoRegs i j a f pc rf).get16 .hl = BitVec.ofNat 16 (0x0104 + j) := by
  refine (page_eq 1#8 (by omega)).trans ?_
  exact congrArg _ (by show 1 * 256 + (4 + j) = _; omega)

theorem logoRegs_incDe (hi : i < 48) : ((logoRegs i j a f pc rf).withPc pc').set16 .de
    ((logoRegs i j a f pc rf).get16 .de + 1) = logoRegs (i + 1) j a f pc' rf := by
  have hsucc : (logoRegs i j a f pc rf).get16 .de + 1 = 0#8 ++ BitVec.ofNat 8 (0xA8 + i + 1) :=
    page_succ 0#8 (by omega)
  rw [hsucc, RegFile.set16, msb_append, lsb_append]
  rfl

theorem logoRegs_incHl (hj : j < 48) : ((logoRegs i j a f pc rf).withPc pc').set16 .hl
    ((logoRegs i j a f pc rf).get16 .hl + 1) = logoRegs i (j + 1) a f pc' rf := by
  have hsucc : (logoRegs i j a f pc rf).get16 .hl + 1 = 1#8 ++ BitVec.ofNat 8 (4 + j + 1) :=
    page_succ 1#8 (by omega)
  rw [hsucc, RegFile.set16, msb_append, lsb_append]
  rfl

end Logo

/-- The comparison of two bytes. -/
theorem logo_compare (hboot : HasCode 256 gb 0 DmgRom.kSpan) (rf : RegFile) {i : Nat} (hi : i < 48)
    (a f : U8) : Leads fuel 256 (At (logoRegs i i a f 0x00E6 rf) gb)
      fun c => ∃ a' f', isBitSet f' 7 = decide (gb.LogoByte i) ∧
        At (logoRegs (i + 1) i a' f' 0x00E9 rf) gb c := by
  have hde := logoRegs_de (j := i) a f 0x00E6 rf hi
  have hload : Leads fuel 256 (At (logoRegs i i a f 0x00E6 rf) gb)
      (At (logoRegs i i (gb.romByte (BitVec.ofNat 16 (0x00A8 + i))) f 0x00E7 rf) gb) := by
    refine leads_eq (steps_loadA .de rfl (hboot.piece 0xE6 [0x1A] (by decide)) ?_) ?_
    · rw [Pointer.reg, hde, BitVec.toNat_ofNat]
      omega
    · rw [Pointer.reg, hde]
      rfl
  have hinc : Leads fuel 256
      (At (logoRegs i i (gb.romByte (BitVec.ofNat 16 (0x00A8 + i))) f 0x00E7 rf) gb)
      (At (logoRegs (i + 1) i (gb.romByte (BitVec.ofNat 16 (0x00A8 + i))) f 0x00E8 rf) gb) :=
    leads_eq (steps_inc16 .de rfl (hboot.piece 0xE7 [0x13] (by decide)))
      (logoRegs_incDe _ _ _ _ rf hi)
  obtain ⟨f', halu, hz⟩ := alu_cp ((logoRegs (i + 1) i (gb.romByte (BitVec.ofNat 16 (0x00A8 + i))) f
    0x00E8 rf).withPc 0x00E9) (gb.romByte (BitVec.ofNat 16 (0x0104 + i)))
  have hhl := logoRegs_hl (i := i + 1) (gb.romByte (BitVec.ofNat 16 (0x00A8 + i))) f 0x00E8 rf
    (Nat.le_of_lt hi)
  have hcp : Leads fuel 256
      (At (logoRegs (i + 1) i (gb.romByte (BitVec.ofNat 16 (0x00A8 + i))) f 0x00E8 rf) gb)
      (At (logoRegs (i + 1) i (gb.romByte (BitVec.ofNat 16 (0x00A8 + i))) f' 0x00E9 rf) gb) := by
    refine leads_eq (steps_aluAtHl .cp rfl (hboot.piece 0xE8 [0xBE] (by decide)) ?_) ?_
    · rw [hhl, BitVec.toNat_ofNat]
      omega
    · rw [hhl]
      exact halu
  refine ((hload.trans hinc).trans hcp).weaken (fun _ h => h) ?_
  intro c hc
  refine ⟨_, f', ?_, hc⟩
  rw [hz, decide_eq_decide]
  exact eq_comm

/-- After a byte that differs. -/
theorem logo_differs (hboot : HasCode 256 gb 0 DmgRom.kSpan) (rf : RegFile) {i : Nat} (hi : i < 48)
    (a f : U8) (hbyte : ¬ gb.LogoByte i) :
    Leads fuel 256 (At (logoRegs i i a f 0x00E6 rf) gb) (Locked gb) := by
  refine (logo_compare hboot rf hi a f).weaken (fun _ h => h) ?_
  intro c hc
  obtain ⟨a', f', hz, hat⟩ := hc
  refine ⟨_, .inl rfl, ?_, hat⟩
  rw [RegFile.flagZ_eq]
  exact hz.trans (decide_eq_false hbyte)

/-- The pointer into the header moves on, up to the end of the logo. -/
theorem logo_next (hboot : HasCode 256 gb 0 DmgRom.kSpan) (rf : RegFile) {i : Nat} (hi : i < 48)
    (a f : U8) : Leads fuel 256 (At (logoRegs (i + 1) i a f 0x00EB rf) gb)
      fun c => ∃ a' f', At (logoRegs (i + 1) (i + 1) a' f' (if i = 47 then 0x00F1 else 0x00E6) rf)
        gb c := by
  have hinc : Leads fuel 256 (At (logoRegs (i + 1) i a f 0x00EB rf) gb)
      (At (logoRegs (i + 1) (i + 1) a f 0x00EC rf) gb) :=
    leads_eq (steps_inc16 .hl rfl (hboot.piece 0xEB [0x23] (by decide)))
      (logoRegs_incHl _ _ _ _ rf hi)
  have hld : Leads fuel 256 (At (logoRegs (i + 1) (i + 1) a f 0x00EC rf) gb)
      (At (logoRegs (i + 1) (i + 1) (BitVec.ofNat 8 (4 + (i + 1))) f 0x00ED rf) gb) :=
    leads_eq (steps_ld .a .l rfl (hboot.piece 0xEC [0x7D] (by decide))) rfl
  obtain ⟨f', halu, hlast⟩ := alu_cp ((logoRegs (i + 1) (i + 1) (BitVec.ofNat 8 (4 + (i + 1))) f
    0x00ED rf).withPc 0x00EF) 0x34
  have hcp : Leads fuel 256
      (At (logoRegs (i + 1) (i + 1) (BitVec.ofNat 8 (4 + (i + 1))) f 0x00ED rf) gb)
      (At (logoRegs (i + 1) (i + 1) (BitVec.ofNat 8 (4 + (i + 1))) f' 0x00EF rf) gb) :=
    leads_eq (steps_aluImm .cp rfl (hboot.piece 0xED [0xFE, 0x34] (by decide))) halu
  have hend : BitVec.ofNat 8 (4 + (i + 1)) = 0x34#8 ↔ i = 47 := by
    rw [← BitVec.toNat_inj, BitVec.toNat_ofNat]
    show (4 + (i + 1)) % 2 ^ 8 = 0x34 ↔ _
    omega
  have hflag : (logoRegs (i + 1) (i + 1) (BitVec.ofNat 8 (4 + (i + 1))) f' 0x00EF rf).flagZ =
      decide (i = 47) := by
    rw [RegFile.flagZ_eq]
    refine hlast.trans ?_
    rw [decide_eq_decide]
    exact hend
  have hback : Leads fuel 256
      (At (logoRegs (i + 1) (i + 1) (BitVec.ofNat 8 (4 + (i + 1))) f' 0x00EF rf) gb)
      (At (logoRegs (i + 1) (i + 1) (BitVec.ofNat 8 (4 + (i + 1))) f'
        (if i = 47 then 0x00F1 else 0x00E6) rf) gb) := by
    refine leads_eq (steps_jrNz (hboot.piece 0xEF [0x20, 0xF5] (by decide))) ?_
    rw [hflag]
    by_cases hlast : i = 47
    · rw [if_pos hlast, decide_eq_true hlast]
      rfl
    · rw [if_neg hlast, decide_eq_false hlast]
      rfl
  exact (((hinc.trans hld).trans hcp).trans hback).weaken (fun _ h => h) fun _ h => ⟨_, f', h⟩

/-- After a byte that agrees. -/
theorem logo_agrees (hboot : HasCode 256 gb 0 DmgRom.kSpan) (rf : RegFile) {i : Nat} (hi : i < 48)
    (a f : U8) (hbyte : gb.LogoByte i) :
    Leads fuel 256 (At (logoRegs i i a f 0x00E6 rf) gb) fun c => ∃ a' f',
      At (logoRegs (i + 1) (i + 1) a' f' (if i = 47 then 0x00F1 else 0x00E6) rf) gb c := by
  refine (logo_compare hboot rf hi a f).trans ?_
  intro c hc
  obtain ⟨a', f', hz, hat⟩ := hc
  have hflag : (logoRegs (i + 1) i a' f' 0x00E9 rf).flagZ = true := by
    rw [RegFile.flagZ_eq]
    exact hz.trans (decide_eq_true hbyte)
  have hon : Leads fuel 256 (At (logoRegs (i + 1) i a' f' 0x00E9 rf) gb)
      (At (logoRegs (i + 1) i a' f' 0x00EB rf) gb) := by
    refine leads_eq (steps_jrNz (hboot.piece 0xE9 [0x20, 0xFE] (by decide))) ?_
    rw [hflag]
    rfl
  exact (hon.trans (logo_next hboot rf hi a' f')) c hat

/-- In the loop: the first `i` bytes have agreed. -/
def Comparing (rf : RegFile) (gb : Gb) (i : Nat) (c : Cpu (Timed Gb)) : Prop :=
  ∃ a f, At (logoRegs i i a f (if i = 48 then 0x00F1 else 0x00E6) rf) gb c

/-- The loop goes on as long as the bytes agree. -/
theorem logo_loop (hboot : HasCode 256 gb 0 DmgRom.kSpan) (rf : RegFile) {n : Nat} (hn : n ≤ 48)
    (hagree : ∀ i < n, gb.LogoByte i) :
    Leads fuel 256 (Comparing rf gb 0) (Comparing rf gb n) := by
  apply Machine.LeadsTo.countup
  intro k hk c hc
  obtain ⟨a, f, hat⟩ := hc
  rw [if_neg (show ¬ k = 48 by omega)] at hat
  obtain ⟨c', hrun, a', f', hc'⟩ := logo_agrees hboot rf (by omega) a f (hagree k hk) c hat
  refine ⟨c', hrun, a', f', ?_⟩
  have hend : k + 1 = 48 ↔ k = 47 := by omega
  rw [if_congr hend rfl rfl]
  exact hc'

theorem logo_mismatch (hboot : HasCode 256 gb 0 DmgRom.kSpan) (rf : RegFile)
    (h : ¬ ∀ i < 48, gb.LogoByte i) :
    Leads fuel 256 (Comparing rf gb 0) (Locked gb) := by
  have hex : ∃ i, i < 48 ∧ ¬ gb.LogoByte i := by
    simpa only [not_forall, exists_prop] using h
  have hfirst := Nat.find_spec hex
  have hbefore : ∀ i < Nat.find hex, gb.LogoByte i := by
    intro i hi
    by_contra hnot
    exact Nat.find_min hex hi ⟨by omega, hnot⟩
  refine (logo_loop hboot rf (Nat.le_of_lt hfirst.1) hbefore).trans ?_
  intro c hc
  obtain ⟨a, f, hat⟩ := hc
  rw [if_neg (Nat.ne_of_lt hfirst.1)] at hat
  exact logo_differs hboot rf hfirst.1 a f hfirst.2 c hat

/-! ## The sum -/

/-- The registers in the loop: HL points to byte `k` of the 26, and A holds the sum before it. -/
def sumRegs (k : Nat) (a b f : U8) (pc : U16) (rf : RegFile) : RegFile :=
  { rf with a, b, f, h := 1, l := BitVec.ofNat 8 (0x34 + k), pc }

theorem sumRegs_hl {k : Nat} (hk : k < 26) (a b f : U8) (pc : U16) (rf : RegFile) :
    (sumRegs k a b f pc rf).get16 .hl = BitVec.ofNat 16 (0x0134 + k) := by
  refine (page_eq 1#8 (by omega)).trans ?_
  exact congrArg _ (by show 1 * 256 + (0x34 + k) = _; omega)

/-- ADD A,(HL) -/
theorem sum_add (rf : RegFile) {k : Nat} (hk : k < 26) (b f : U8) {pc : U16}
    (hcode : HasCode 256 gb pc [0x86]) : ∃ f', isBitSet f' 7 = (gb.headerSum (k + 1) == 0) ∧
      Leads fuel 256 (At (sumRegs k (gb.headerSum k) b f pc rf) gb)
        (At (sumRegs k (gb.headerSum (k + 1)) b f' (pc + 1) rf) gb) := by
  have hhl := sumRegs_hl hk (gb.headerSum k) b f pc rf
  obtain ⟨f', halu, hz⟩ := alu_add ((sumRegs k (gb.headerSum k) b f pc rf).withPc (pc + 1))
    (gb.romByte (BitVec.ofNat 16 (0x0134 + k)))
  refine ⟨f', hz, leads_eq (steps_aluAtHl .add rfl hcode ?_) ?_⟩
  · rw [hhl, BitVec.toNat_ofNat]
    omega
  · rw [hhl]
    exact halu

/-- One round of the loop. -/
theorem sum_round (hboot : HasCode 256 gb 0 DmgRom.kSpan) (rf : RegFile) {k : Nat} (hk : k < 25)
    (f : U8) : Leads fuel 256
      (At (sumRegs k (gb.headerSum k) (BitVec.ofNat 8 (25 - k)) f 0x00F4 rf) gb) fun c =>
      ∃ f', At (sumRegs (k + 1) (gb.headerSum (k + 1)) (BitVec.ofNat 8 (24 - k)) f'
        (if k = 24 then 0x00F9 else 0x00F4) rf) gb c := by
  let a := gb.headerSum (k + 1)
  let b := BitVec.ofNat 8 (25 - k)
  let b' := BitVec.ofNat 8 (24 - k)
  obtain ⟨f₁, -, hadd⟩ := @sum_add fuel gb rf k (by omega) b f 0x00F4
    (hboot.piece 0xF4 [0x86] (by decide))
  have hinc : Leads fuel 256 (At (sumRegs k a b f₁ 0x00F5 rf) gb)
      (At (sumRegs (k + 1) a b f₁ 0x00F6 rf) gb) := by
    refine leads_eq (steps_inc16 .hl rfl (hboot.piece 0xF5 [0x23] (by decide))) ?_
    have hsucc : (sumRegs k a b f₁ 0x00F5 rf).get16 .hl + 1 =
        1#8 ++ BitVec.ofNat 8 (0x34 + k + 1) :=
      page_succ 1#8 (by omega)
    rw [hsucc, RegFile.set16, msb_append, lsb_append]
    rfl
  have hpred : b - 1 = b' := by
    have hsub : 25 - k = 24 - k + 1 := by omega
    have hb : b = b' + 1#8 := (congrArg _ hsub).trans (BitVec.ofNat_add _ _)
    rw [hb]
    exact BitVec.add_sub_cancel _ _
  let f₂ := packFlags (b' == 0) true ((b' &&& 0x0F) == 0x0F) (isBitSet f₁ 4) f₁
  have hdec : Leads fuel 256 (At (sumRegs (k + 1) a b f₁ 0x00F6 rf) gb)
      (At (sumRegs (k + 1) a b' f₂ 0x00F7 rf) gb) := by
    refine leads_eq (steps_dec .b rfl (hboot.piece 0xF6 [0x05] (by decide))) ?_
    rw [show (sumRegs (k + 1) a b f₁ 0x00F6 rf).get .b - 1 = b' from hpred]
    rfl
  have hflag : (sumRegs (k + 1) a b' f₂ 0x00F7 rf).flagZ = decide (k = 24) := by
    have hend : b' = 0 ↔ k = 24 := by
      rw [← BitVec.toNat_inj, BitVec.toNat_ofNat]
      show (24 - k) % 2 ^ 8 = 0 ↔ _
      omega
    rw [RegFile.flagZ_eq]
    refine (isBitSet_packFlags_z _ _ _ _ _).trans ?_
    rw [Bool.eq_iff_iff, beq_iff_eq, decide_eq_true_iff]
    exact hend
  have hback : Leads fuel 256 (At (sumRegs (k + 1) a b' f₂ 0x00F7 rf) gb)
      (At (sumRegs (k + 1) a b' f₂ (if k = 24 then 0x00F9 else 0x00F4) rf) gb) := by
    refine leads_eq (steps_jrNz (hboot.piece 0xF7 [0x20, 0xFB] (by decide))) ?_
    rw [hflag]
    by_cases hlast : k = 24
    · rw [if_pos hlast, decide_eq_true hlast]
      rfl
    · rw [if_neg hlast, decide_eq_false hlast]
      rfl
  exact (((hadd.trans hinc).trans hdec).trans hback).weaken (fun _ h => h) fun _ h => ⟨f₂, h⟩

/-- In the loop: the first `k` bytes are added up. -/
def Adding (rf : RegFile) (gb : Gb) (k : Nat) (c : Cpu (Timed Gb)) : Prop :=
  ∃ f, At (sumRegs k (gb.headerSum k) (BitVec.ofNat 8 (25 - k)) f
    (if k = 25 then 0x00F9 else 0x00F4) rf) gb c

theorem sum_loop (hboot : HasCode 256 gb 0 DmgRom.kSpan) (rf : RegFile) :
    Leads fuel 256 (Adding rf gb 0) (Adding rf gb 25) := by
  apply Machine.LeadsTo.countup
  intro k hk c hc
  obtain ⟨f, hat⟩ := hc
  rw [if_neg (show ¬ k = 25 by omega)] at hat
  obtain ⟨c', hrun, f', hc'⟩ := sum_round hboot rf hk f c hat
  refine ⟨c', hrun, f', ?_⟩
  have hend : k + 1 = 25 ↔ k = 24 := by omega
  rw [if_congr hend rfl rfl, show 25 - (k + 1) = 24 - k by omega]
  exact hc'

/-- The last byte, and the jump that depends on the sum. -/
theorem sum_end (hboot : HasCode 256 gb 0 DmgRom.kSpan) (rf : RegFile) :
    Leads fuel 256 (Adding rf gb 25) fun c => ∃ f,
      (sumRegs 25 (gb.headerSum 26) 0 f 0x00FA rf).flagZ = (gb.headerSum 26 == 0) ∧
        At (sumRegs 25 (gb.headerSum 26) 0 f 0x00FA rf) gb c := by
  intro c hc
  obtain ⟨f, hat⟩ := hc
  obtain ⟨f', hz, hadd⟩ := @sum_add fuel gb rf 25 (by omega) 0 f 0x00F9
    (hboot.piece 0xF9 [0x86] (by decide))
  obtain ⟨c', hrun, hc'⟩ := hadd c hat
  refine ⟨c', hrun, f', ?_, hc'⟩
  rw [RegFile.flagZ_eq]
  exact hz

/-! ## The whole check -/

/-- Where the check begins. -/
theorem check_entry (hboot : HasCode 256 gb 0 DmgRom.kSpan) (rf : RegFile) :
    Leads fuel 256 (At (rf.withPc 0x00E0) gb) (Comparing rf gb 0) := by
  have hhl : Leads fuel 256 (At (rf.withPc 0x00E0) gb)
      (At ({ rf with h := 1, l := 4 }.withPc 0x00E3) gb) :=
    leads_eq (steps_ldImm16 .hl rfl (hboot.piece 0xE0 [0x21, 0x04, 0x01] (by decide))) rfl
  have hde : Leads fuel 256 (At ({ rf with h := 1, l := 4 }.withPc 0x00E3) gb)
      (At (logoRegs 0 0 rf.a rf.f 0x00E6 rf) gb) :=
    leads_eq (steps_ldImm16 .de rfl (hboot.piece 0xE3 [0x11, 0xA8, 0x00] (by decide))) rfl
  exact (hhl.trans hde).weaken (fun _ h => h) fun _ h => ⟨_, _, h⟩

/-- Between the two loops. -/
theorem sum_entry (hboot : HasCode 256 gb 0 DmgRom.kSpan) (rf : RegFile) :
    Leads fuel 256 (Comparing rf gb 48) (Adding { rf with d := 0, e := 0xD8 } gb 0) := by
  apply Machine.LeadsTo.exists_elim
  intro a
  apply Machine.LeadsTo.exists_elim
  intro f
  have hcount : Leads fuel 256 (At (logoRegs 48 48 a f 0x00F1 rf) gb)
      (At ({ logoRegs 48 48 a f 0x00F1 rf with b := 0x19 }.withPc 0x00F3) gb) :=
    leads_eq (steps_ldImm .b rfl (hboot.piece 0xF1 [0x06, 0x19] (by decide))) rfl
  have hstart : Leads fuel 256
      (At ({ logoRegs 48 48 a f 0x00F1 rf with b := 0x19 }.withPc 0x00F3) gb)
      (At (sumRegs 0 0x19 0x19 f 0x00F4 { rf with d := 0, e := 0xD8 }) gb) :=
    leads_eq (steps_ld .a .b rfl (hboot.piece 0xF3 [0x78] (by decide))) rfl
  exact (hcount.trans hstart).weaken (fun _ h => h) fun _ h => ⟨f, h⟩

/-- The end of the check, on a header that passes. -/
theorem check_passes (hboot : HasCode 256 gb 0 DmgRom.kSpan) (hok : gb.HeaderOk) (rf : RegFile) :
    Leads fuel 256 (At (rf.withPc 0x00E0) gb) fun c => ∃ f, At
      { rf with a := 1, b := 0, d := 0, e := 0xD8, f, h := 1, l := 0x4D, pc := 0x0100 }
      { gb with ioRegisters := gb.ioRegisters.writeSignal .unmapRom true } c := by
  have hloops : Leads fuel 256 (At (rf.withPc 0x00E0) gb) _ :=
    ((((check_entry hboot rf).trans (logo_loop hboot rf (le_refl 48) hok.logo)).trans
      (sum_entry hboot rf)).trans (sum_loop hboot _)).trans (sum_end hboot _)
  refine hloops.trans ?_
  intro c hc
  obtain ⟨f, hz, hat⟩ := hc
  rw [hok.sum] at hz hat
  have hon : Leads fuel 256 (At (sumRegs 25 0 0 f 0x00FA { rf with d := 0, e := 0xD8 }) gb)
      (At ((sumRegs 25 0 0 f 0x00FA { rf with d := 0, e := 0xD8 }).withPc 0x00FC) gb) := by
    refine leads_eq (steps_jrNz (hboot.piece 0xFA [0x20, 0xFE] (by decide))) ?_
    rw [hz]
    rfl
  obtain ⟨c', hrun, hc'⟩ := (hon.trans (handOver_leads (hboot.piece 0xFC _ (by decide)) _)) c hat
  exact ⟨c', hrun, f, hc'⟩

/-- The end of the check, on any other header. -/
theorem check_fails (hboot : HasCode 256 gb 0 DmgRom.kSpan) (hnot : ¬ gb.HeaderOk)
    (rf : RegFile) : Leads fuel 256 (At (rf.withPc 0x00E0) gb) (Locked gb) := by
  refine (check_entry hboot rf).trans ?_
  by_cases hlogo : ∀ i < 48, gb.LogoByte i
  · refine ((((logo_loop hboot rf (le_refl 48) hlogo).trans (sum_entry hboot rf)).trans
      (sum_loop hboot _)).trans (sum_end hboot _)).weaken (fun _ h => h) ?_
    intro c hc
    obtain ⟨f, hz, hat⟩ := hc
    refine ⟨_, .inr rfl, ?_, hat⟩
    rw [hz]
    exact beq_false_of_ne fun hsum => hnot ⟨hlogo, hsum⟩
  · exact logo_mismatch hboot rf hlogo

/-- From the check on, a CPU leaves the boot program if and only if the header of the game passes.
    Then it enters the game with the boot program unmapped. Otherwise it locks itself up. -/
theorem header_check (hboot : HasCode 256 gb 0 DmgRom.kSpan) {rf : RegFile} {c : Cpu (Timed Gb)}
    (hc : At (rf.withPc 0x00E0) gb c) (fuel : Nat) :
    ((∃ c', Machine.Reaches (cycle fuel) (fun _ => True) c c' ∧ ¬ PcBelow 256 c') ↔
      gb.HeaderOk) ∧
    (gb.HeaderOk → ∃ c' f, Machine.Reaches (cycle fuel) (PcBelow 256) c c' ∧
      At { rf with a := 1, b := 0, d := 0, e := 0xD8, f, h := 1, l := 0x4D, pc := 0x0100 }
        { gb with ioRegisters := gb.ioRegisters.writeSignal .unmapRom true } c') ∧
    (¬ gb.HeaderOk → ∃ c', Machine.Reaches (cycle fuel) (PcBelow 256) c c' ∧ Locked gb c') := by
  have hpass : gb.HeaderOk → ∃ c' f, Machine.Reaches (cycle fuel) (PcBelow 256) c c' ∧
      At { rf with a := 1, b := 0, d := 0, e := 0xD8, f, h := 1, l := 0x4D, pc := 0x0100 }
        { gb with ioRegisters := gb.ioRegisters.writeSignal .unmapRom true } c' := by
    intro hok
    obtain ⟨c', hrun, f, hc'⟩ := check_passes hboot hok rf c hc
    exact ⟨c', f, hrun, hc'⟩
  have hfail : ¬ gb.HeaderOk →
      ∃ c', Machine.Reaches (cycle fuel) (PcBelow 256) c c' ∧ Locked gb c' :=
    fun hnot => check_fails hboot hnot rf c hc
  refine ⟨⟨?_, ?_⟩, hpass, hfail⟩
  · intro h
    obtain ⟨c', hrun, hout⟩ := h
    by_contra hnot
    obtain ⟨d, hlock, hd⟩ := hfail hnot
    exact hout ((locked_stays hboot).visited hlock hd hrun)
  · intro hok
    obtain ⟨c', f, hrun, hc'⟩ := hpass hok
    refine ⟨c', hrun.forget, ?_⟩
    rw [PcBelow, hc'.regs]
    show ¬ (0x0100 : U16).toNat < 256
    decide

/-- A ROM with the boot program, its logo in the header, and one more byte that is not 0. -/
def stampedRom (check : U8) : Fin 0x4000 → U8 := fun i =>
  if i.val < 256 then DmgRom.kSpan.getD i.val 0
  else if 0x0104 ≤ i.val ∧ i.val < 0x0134 then DmgRom.kSpan.getD (i.val - 0x0104 + 0xA8) 0
  else if i.val = 0x014D then check
  else 0

/-- At the check, with that ROM. -/
def stampedCpu (check : U8) : Cpu (Timed Gb) :=
  { regFile := { pc := 0x00E0 }
    initSocket :=
      { payload := {}
        gbcmd := .gbReadInst
        hasRomBank0 := true
        sys :=
          { now := 0
            schedule := .once 1000 0x01
            stopped := false
            dev := .powerOn (.rom (.init (stampedRom check) (fun _ => 0) (fun _ => 0) false)) } } }

theorem stamped_hasCode (check : U8) :
    HasCode 256 (stampedCpu check).initSocket.sys.dev 0 DmgRom.kSpan := by
  refine ⟨by decide, ?_⟩
  have hlength : DmgRom.kSpan.length = 256 := by decide +kernel
  intro i hi
  rw [hlength] at hi
  have hadr : (0 + BitVec.ofNat 16 i : U16).toNat = i := by
    refine (congrArg BitVec.toNat (BitVec.zero_add _)).trans ?_
    rw [BitVec.toNat_ofNat]
    omega
  have hlow : (0 + BitVec.ofNat 16 i : U16).toNat < 0x4000 := by
    rw [hadr]
    omega
  refine ⟨by rw [hadr]; exact hi, ?_⟩
  rw [Gb.romByte, dif_pos hlow]
  show stampedRom check _ = _
  rw [stampedRom]
  simp only [hadr]
  rw [if_pos hi, List.getD_eq_getElem]

/-- The game is entered with the check byte 0xE7, but not with 0xE8. -/
theorem stamped_entered :
    (∃ c', Machine.Reaches (cycle 4) (fun _ => True) (stampedCpu 0xE7) c' ∧ ¬ PcBelow 256 c') ∧
      ¬ ∃ c', Machine.Reaches (cycle 4) (fun _ => True) (stampedCpu 0xE8) c' ∧
        ¬ PcBelow 256 c' := by
  have hat : ∀ check, At ((stampedCpu check).regFile.withPc 0x00E0)
      (stampedCpu check).initSocket.sys.dev (stampedCpu check) :=
    fun _ => ⟨⟨rfl, rfl, rfl, rfl, rfl⟩, rfl, .refl _⟩
  have hright : (stampedCpu 0xE7).initSocket.sys.dev.HeaderOk :=
    ⟨by decide +kernel, by decide +kernel⟩
  have hwrong : ¬ (stampedCpu 0xE8).initSocket.sys.dev.HeaderOk :=
    fun hok => absurd hok.sum (by decide +kernel)
  constructor
  · exact (header_check (stamped_hasCode 0xE7) (hat 0xE7) 4).1.mpr hright
  · intro hentered
    exact hwrong ((header_check (stamped_hasCode 0xE8) (hat 0xE8) 4).1.mp hentered)

end Cpu

end TlmBoy
