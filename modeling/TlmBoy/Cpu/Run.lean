import TlmBoy.Cpu.Ops

/-
  Run equations: what the primitives do to a state, followed by any program.

  With them `simp` executes an instruction symbolically. Whatever the order of its flag setters
  is, they become one `packFlags`.
-/

namespace TlmBoy

/-! ## Flags -/

/-- F with the given flags and the low nibble of `f`. -/
def packFlags (z n h c : Bool) (f : U8) : U8 :=
  BitVec.ofBool z ++ BitVec.ofBool n ++ BitVec.ofBool h ++ BitVec.ofBool c ++ f.setWidth 4

theorem getLsbD_packFlags (z n h c : Bool) (f : U8) {j : Nat} (hj : j < 8) :
    (packFlags z n h c f).getLsbD j =
      if j = 7 then z else if j = 6 then n else if j = 5 then h else if j = 4 then c
      else f.getLsbD j := by
  have happend : (packFlags z n h c f).getLsbD j =
      if j < 4 then (f.setWidth 4).getLsbD j else
        if j - 4 < 1 then (BitVec.ofBool c).getLsbD (j - 4) else
          if j - 5 < 1 then (BitVec.ofBool h).getLsbD (j - 5) else
            if j - 6 < 1 then (BitVec.ofBool n).getLsbD (j - 6) else
              (BitVec.ofBool z).getLsbD (j - 7) := by
    have hwidth : packFlags z n h c f = (BitVec.ofBool z ++ BitVec.ofBool n ++ BitVec.ofBool h ++
        BitVec.ofBool c ++ f.setWidth 4 : BitVec (1 + 1 + 1 + 1 + 4)) := rfl
    rw [hwidth]
    simp only [BitVec.getLsbD_append]
    rfl
  rw [happend]
  obtain rfl | rfl | rfl | rfl | rfl | rfl | rfl | rfl :
    j = 0 ∨ j = 1 ∨ j = 2 ∨ j = 3 ∨ j = 4 ∨ j = 5 ∨ j = 6 ∨ j = 7 := by omega
  all_goals simp

theorem getLsbD_packFlags_low (z n h c : Bool) (f : U8) {j : Nat} (hj : j < 4) :
    (packFlags z n h c f).getLsbD j = f.getLsbD j := by
  rw [getLsbD_packFlags _ _ _ _ _ (by omega), if_neg (by omega), if_neg (by omega),
    if_neg (by omega), if_neg (by omega)]

/-- Bytes with the same flags and the same low nibble are the same. -/
theorem packFlags_ext {f g : U8} {z n h c : Bool} (hz : g.getLsbD 7 = z) (hn : g.getLsbD 6 = n)
    (hh : g.getLsbD 5 = h) (hc : g.getLsbD 4 = c) (hlow : ∀ j < 4, g.getLsbD j = f.getLsbD j) :
    g = packFlags z n h c f := by
  apply BitVec.eq_of_getLsbD_eq
  intro j hj
  by_cases hlt : j < 4
  · rw [getLsbD_packFlags_low _ _ _ _ _ hlt, hlow j hlt]
  · rw [getLsbD_packFlags _ _ _ _ _ hj]
    obtain rfl | rfl | rfl | rfl : j = 4 ∨ j = 5 ∨ j = 6 ∨ j = 7 := by omega
    · exact hc
    · exact hh
    · exact hn
    · exact hz

/-- A flag setter leaves the other flags and the low nibble. -/
theorem getLsbD_setBit_ne (f : U8) (v : Bool) {i j : Nat} (hj : j < 8) (hne : j ≠ i) :
    (setBit f v i).getLsbD j = f.getLsbD j := by
  rw [getLsbD_setBit f v i j hj, if_neg hne]

theorem getLsbD_setBit_self (f : U8) (v : Bool) {i : Nat} (hi : i < 8) :
    (setBit f v i).getLsbD i = v := by
  rw [getLsbD_setBit f v i i hi, if_pos rfl]

theorem isBitSet_setBit_ne (f : U8) (v : Bool) {i j : Nat} (hj : j < 8) (hne : j ≠ i) :
    (setBit f v i).getLsbD j = isBitSet f j := by
  rw [getLsbD_setBit_ne f v hj hne, isBitSet_eq_getLsbD f j hj]

@[simp] theorem setBit_c (f : U8) (v : Bool) :
    setBit f v 4 = packFlags (isBitSet f 7) (isBitSet f 6) (isBitSet f 5) v f :=
  packFlags_ext (isBitSet_setBit_ne f v (by decide) (by decide))
    (isBitSet_setBit_ne f v (by decide) (by decide))
    (isBitSet_setBit_ne f v (by decide) (by decide)) (getLsbD_setBit_self f v (by decide))
    fun _ hj => getLsbD_setBit_ne f v (by omega) (by omega)

@[simp] theorem setBit_h (f : U8) (v : Bool) :
    setBit f v 5 = packFlags (isBitSet f 7) (isBitSet f 6) v (isBitSet f 4) f :=
  packFlags_ext (isBitSet_setBit_ne f v (by decide) (by decide))
    (isBitSet_setBit_ne f v (by decide) (by decide)) (getLsbD_setBit_self f v (by decide))
    (isBitSet_setBit_ne f v (by decide) (by decide))
    fun _ hj => getLsbD_setBit_ne f v (by omega) (by omega)

@[simp] theorem setBit_n (f : U8) (v : Bool) :
    setBit f v 6 = packFlags (isBitSet f 7) v (isBitSet f 5) (isBitSet f 4) f :=
  packFlags_ext (isBitSet_setBit_ne f v (by decide) (by decide))
    (getLsbD_setBit_self f v (by decide)) (isBitSet_setBit_ne f v (by decide) (by decide))
    (isBitSet_setBit_ne f v (by decide) (by decide))
    fun _ hj => getLsbD_setBit_ne f v (by omega) (by omega)

@[simp] theorem setBit_z (f : U8) (v : Bool) :
    setBit f v 7 = packFlags v (isBitSet f 6) (isBitSet f 5) (isBitSet f 4) f :=
  packFlags_ext (getLsbD_setBit_self f v (by decide))
    (isBitSet_setBit_ne f v (by decide) (by decide))
    (isBitSet_setBit_ne f v (by decide) (by decide))
    (isBitSet_setBit_ne f v (by decide) (by decide))
    fun _ hj => getLsbD_setBit_ne f v (by omega) (by omega)

section Packed

variable (z n h c z' n' h' c' : Bool) (f : U8)

@[simp] theorem isBitSet_packFlags_z : isBitSet (packFlags z n h c f) 7 = z := by
  rw [isBitSet_eq_getLsbD _ 7 (by decide), getLsbD_packFlags _ _ _ _ _ (by decide), if_pos rfl]

@[simp] theorem isBitSet_packFlags_n : isBitSet (packFlags z n h c f) 6 = n := by
  rw [isBitSet_eq_getLsbD _ 6 (by decide), getLsbD_packFlags _ _ _ _ _ (by decide),
    if_neg (by decide), if_pos rfl]

@[simp] theorem isBitSet_packFlags_h : isBitSet (packFlags z n h c f) 5 = h := by
  rw [isBitSet_eq_getLsbD _ 5 (by decide), getLsbD_packFlags _ _ _ _ _ (by decide),
    if_neg (by decide), if_neg (by decide), if_pos rfl]

@[simp] theorem isBitSet_packFlags_c : isBitSet (packFlags z n h c f) 4 = c := by
  rw [isBitSet_eq_getLsbD _ 4 (by decide), getLsbD_packFlags _ _ _ _ _ (by decide),
    if_neg (by decide), if_neg (by decide), if_neg (by decide), if_pos rfl]

@[simp] theorem packFlags_packFlags :
    packFlags z n h c (packFlags z' n' h' c' f) = packFlags z n h c f := by
  refine packFlags_ext ?_ ?_ ?_ ?_ fun j hj => ?_
  · rw [getLsbD_packFlags _ _ _ _ _ (by decide), if_pos rfl]
  · rw [getLsbD_packFlags _ _ _ _ _ (by decide), if_neg (by decide), if_pos rfl]
  · rw [getLsbD_packFlags _ _ _ _ _ (by decide), if_neg (by decide), if_neg (by decide), if_pos rfl]
  · rw [getLsbD_packFlags _ _ _ _ _ (by decide), if_neg (by decide), if_neg (by decide),
      if_neg (by decide), if_pos rfl]
  · rw [getLsbD_packFlags_low _ _ _ _ _ hj, getLsbD_packFlags_low _ _ _ _ _ hj]

end Packed

/-! ## Updates -/

namespace RegFile

/-- The registers with another F. -/
def withF (f : U8) (rf : RegFile) : RegFile := { rf with f }

/-- The registers with another PC. -/
def withPc (pc : U16) (rf : RegFile) : RegFile := { rf with pc }

variable (rf : RegFile) (r : Reg8) (r' : Reg16) (v : U8) (f g : U8) (pc : U16)

theorem flagC_eq : rf.flagC = isBitSet rf.f 4 := by
  rw [isBitSet, BitVec.and_comm]
  rfl

theorem flagH_eq : rf.flagH = isBitSet rf.f 5 := by
  rw [isBitSet, BitVec.and_comm]
  rfl

theorem flagN_eq : rf.flagN = isBitSet rf.f 6 := by
  rw [isBitSet, BitVec.and_comm]
  rfl

theorem flagZ_eq : rf.flagZ = isBitSet rf.f 7 := by
  rw [isBitSet, BitVec.and_comm]
  rfl

@[simp] theorem withF_f : (rf.withF f).f = f := rfl

@[simp] theorem withF_withF : (rf.withF f).withF g = rf.withF g := rfl

@[simp] theorem withF_get : (rf.withF f).get r = rf.get r := get_with_f r f rf

@[simp] theorem withF_get16 : (rf.withF f).get16 r' = rf.get16 r' := get16_with_f r' f rf

@[simp] theorem withF_set : (rf.withF f).set r v = (rf.set r v).withF f := set_with_f r v f rf

@[simp] theorem withPc_get : (rf.withPc pc).get r = rf.get r := by
  cases r <;> rfl

end RegFile

namespace Cpu

variable {σ : Type}

/-- The CPU with other registers. -/
def withRegs (rf : RegFile) (c : Cpu σ) : Cpu σ := { c with regFile := rf }

/-- The CPU with another state behind its socket. -/
def withSocket (s : InitSocket σ) (c : Cpu σ) : Cpu σ := { c with initSocket := s }

variable (c : Cpu σ) (rf rf' : RegFile) (s : InitSocket σ)

@[simp] theorem withRegs_regFile : (c.withRegs rf).regFile = rf := rfl

@[simp] theorem withRegs_initSocket : (c.withRegs rf).initSocket = c.initSocket := rfl

@[simp] theorem withRegs_withRegs : (c.withRegs rf).withRegs rf' = c.withRegs rf' := rfl

@[simp] theorem withSocket_regFile : (c.withSocket s).regFile = c.regFile := rfl

@[simp] theorem withSocket_initSocket : (c.withSocket s).initSocket = s := rfl

@[simp] theorem withRegs_withSocket :
    (c.withRegs rf).withSocket s = (c.withSocket s).withRegs rf := rfl

/-! ## Primitives -/

variable {α : Type}

@[simp] theorem getReg_bind (r : Reg8) (k : U8 → CpuM σ α) :
    (getReg r >>= k) c = k (c.regFile.get r) c := StateExcept.bind_of_ok rfl

@[simp] theorem getReg16_bind (r : Reg16) (k : U16 → CpuM σ α) :
    (getReg16 r >>= k) c = k (c.regFile.get16 r) c := StateExcept.bind_of_ok rfl

@[simp] theorem getFlagC_bind (k : Bool → CpuM σ α) :
    (getFlagC >>= k) c = k c.regFile.flagC c := StateExcept.bind_of_ok rfl

@[simp] theorem getFlagH_bind (k : Bool → CpuM σ α) :
    (getFlagH >>= k) c = k c.regFile.flagH c := StateExcept.bind_of_ok rfl

@[simp] theorem getFlagN_bind (k : Bool → CpuM σ α) :
    (getFlagN >>= k) c = k c.regFile.flagN c := StateExcept.bind_of_ok rfl

@[simp] theorem modifyRegs_bind (f : RegFile → RegFile) (k : Unit → CpuM σ α) :
    (modifyRegs f >>= k) c = k () (c.withRegs (f c.regFile)) := StateExcept.bind_of_ok rfl

@[simp] theorem setReg_bind (r : Reg8) (v : U8) (k : Unit → CpuM σ α) :
    (setReg r v >>= k) c = k () (c.withRegs (c.regFile.set r v)) := StateExcept.bind_of_ok rfl

@[simp] theorem setFlagC_bind (v : Bool) (k : Unit → CpuM σ α) : (setFlagC v >>= k) c =
    k () (c.withRegs (c.regFile.withF (setBit c.regFile.f v 4))) := StateExcept.bind_of_ok rfl

@[simp] theorem setFlagH_bind (v : Bool) (k : Unit → CpuM σ α) : (setFlagH v >>= k) c =
    k () (c.withRegs (c.regFile.withF (setBit c.regFile.f v 5))) := StateExcept.bind_of_ok rfl

@[simp] theorem setFlagN_bind (v : Bool) (k : Unit → CpuM σ α) : (setFlagN v >>= k) c =
    k () (c.withRegs (c.regFile.withF (setBit c.regFile.f v 6))) := StateExcept.bind_of_ok rfl

@[simp] theorem setFlagZ_bind (v : Bool) (k : Unit → CpuM σ α) : (setFlagZ v >>= k) c =
    k () (c.withRegs (c.regFile.withF (setBit c.regFile.f v 7))) := StateExcept.bind_of_ok rfl

variable [BusPort σ]

@[simp] theorem readBus_bind (addr : U16) (cmd : GbCommand) (k : U8 → CpuM σ α) :
    (readBus addr cmd >>= k) c =
      c.initSocket.readBus addr cmd >>= fun r => k r.1 (c.withSocket r.2) := by
  rw [StateExcept.bind_apply, readBus]
  cases c.initSocket.readBus addr cmd with
  | error e => rfl
  | ok r => rfl

@[simp] theorem writeBus_bind (addr : U16) (v : U8) (k : Unit → CpuM σ α) :
    (writeBus addr v >>= k) c =
      c.initSocket.writeBus addr v >>= fun s => k () (c.withSocket s) := by
  rw [StateExcept.bind_apply, writeBus]
  cases c.initSocket.writeBus addr v with
  | error e => rfl
  | ok s => rfl

@[simp] theorem fetchNextInstrByte_bind (k : U8 → CpuM σ α) :
    (fetchNextInstrByte >>= k) c =
      c.initSocket.readBus c.regFile.pc .gbReadInst >>= fun r =>
        k r.1 ((c.withSocket r.2).withRegs (c.regFile.withPc (c.regFile.pc + 1))) := by
  have hfetch : (fetchNextInstrByte : CpuM σ U8) c = (readBus c.regFile.pc .gbReadInst >>=
      fun v => getPc >>= fun pc => setPc (pc + 1) >>= fun _ => pure v) c :=
        StateExcept.bind_of_ok rfl
  rw [StateExcept.bind_apply, hfetch, readBus_bind]
  cases c.initSocket.readBus c.regFile.pc .gbReadInst with
  | error e => rfl
  | ok r => rfl

/-- A push changes no register but SP. -/
theorem pushByte_regFile {v : U8} {c c' : Cpu σ} {u : Unit} (h : pushByte v c = .ok (u, c')) :
    c'.regFile = { c.regFile with sp := c.regFile.sp - 1 } :=
  writeBus_regFile (c := { c with regFile := { c.regFile with sp := c.regFile.sp - 1 } }) h

end Cpu

end TlmBoy
