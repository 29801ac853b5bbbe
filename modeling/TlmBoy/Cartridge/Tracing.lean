import TlmBoy.Cartridge.Access

/-
  The flag that a ROM read sets in the symbol tracer.

  `b_transport_rom` hands the tracer the address as the CPU gave it and the index of the bank that
  `rom_high` shows, which counts from 0. The switched window starts at 0x4000 and `rom_high` holds
  the image from 0x4000 on, so the flag set is the one of the byte's offset in the ROM image
  (`tracedFlag_high`).
-/

namespace TlmBoy

namespace MemoryBankCtrler

variable {numRomBanks numRamBanks : Nat}

/-- The flag of a data read of address `a`. -/
def tracedFlag (a : Fin 0x8000) (c : MemoryBankCtrler numRomBanks numRamBanks) :
    Fin (kMaxBanks * kBankSize) :=
  ⟨kBankSize * (if a.val < 0x4000 then 0 else c.romHigh.getCurrentBankIndex.toNat) + a.val, by
    have hbank := c.romHigh.getCurrentBankIndex.isLt
    unfold kMaxBanks kBankSize
    split <;> omega⟩

theorem tracedFlag_val (a : Fin 0x8000) (c : MemoryBankCtrler numRomBanks numRamBanks) :
    (c.tracedFlag a).val =
      kBankSize * (if a.val < 0x4000 then 0 else c.romHigh.getCurrentBankIndex.toNat) + a.val :=
  rfl

/-- The tracer after a read of address `a`. -/
def traced (ext : Option GbCommand) (a : Fin 0x8000)
    (c : MemoryBankCtrler numRomBanks numRamBanks) : Option SymfileTracer :=
  match ext with
  | some .gbReadData =>
    c.symfileTracer.map fun t => ⟨Function.update t.accessArr (c.tracedFlag a) true⟩
  | _ => c.symfileTracer

theorem traced_of_ne {ext : Option GbCommand} (hext : ext ≠ some .gbReadData) (a : Fin 0x8000)
    (c : MemoryBankCtrler numRomBanks numRamBanks) : c.traced ext a = c.symfileTracer := by
  unfold traced
  split
  · exact absurd rfl hext
  · rfl

/-- Nothing but a data read is traced. -/
theorem traceRead_of_ne {ext : Option GbCommand} (hext : ext ≠ some .gbReadData) (bank adr : U16)
    (c : MemoryBankCtrler numRomBanks numRamBanks) : c.traceRead ext bank adr = .ok c := by
  unfold traceRead
  split
  · exact absurd rfl hext
  · rfl

theorem traceRead_traced (c : MemoryBankCtrler numRomBanks numRamBanks) (ext : Option GbCommand)
    {bank : U16} (a : Fin 0x8000) {adr : U16} (hadr : adr.toNat = a.val)
    (hbank : kBankSize * bank.toNat + a.val = (c.tracedFlag a).val) :
    c.traceRead ext bank adr = .ok { c with symfileTracer := c.traced ext a } := by
  by_cases hext : ext = some .gbReadData
  · subst hext
    cases htracer : c.symfileTracer with
    | none =>
      have hsame : { c with symfileTracer := c.traced (some .gbReadData) a } = c := by
        rw [traced, htracer, Option.map_none, ← htracer]
      rw [hsame]
      unfold traceRead
      rw [htracer]
      rfl
    | some tracer =>
      have hflag : kBankSize * bank.toNat + adr.toNat = (c.tracedFlag a).val := by
        rw [hadr, hbank]
      have hlt : kBankSize * bank.toNat + adr.toNat < kMaxBanks * kBankSize :=
        hflag ▸ (c.tracedFlag a).isLt
      have hindex : (⟨_, hlt⟩ : Fin _) = c.tracedFlag a := Fin.ext hflag
      unfold traceRead traced
      rw [htracer, Option.map_some, ← hindex]
      dsimp only
      rw [SymfileTracer.traceAccess, dif_pos hlt]
      rfl
  · rw [traceRead_of_ne hext, traced_of_ne hext]

/-- A read of the fixed window, with the tracer that it leaves. -/
theorem tracedRomRead_low_traced (c : MemoryBankCtrler numRomBanks numRamBanks) {trans : Payload}
    (hcmd : trans.command = .read) (a : Fin 0x8000) (hadr : trans.address.toNat = a.val)
    (ha : a.val < 0x4000) :
    c.tracedRomRead trans = .ok
      ({ trans with data := c.romLow.data ⟨a.val, ha⟩, responseStatus := .ok },
        { c with symfileTracer := c.traced trans.extension a }) := by
  have hlow : trans.address ≤ 0x3FFF := by bv_omega
  have hflag : kBankSize * (0 : U16).toNat + a.val = (c.tracedFlag a).val := by
    rw [tracedFlag_val, if_pos ha]
    rfl
  have hread := c.romLow.bTransport_read hcmd (by rw [hadr]; exact ha)
  simp only [hadr] at hread
  rw [tracedRomRead, if_pos hlow, c.traceRead_traced trans.extension a hadr hflag, ok_bind,
    romLowTransport, hread]
  rfl

/-- A read of the switched window, with the tracer that it leaves. -/
theorem tracedRomRead_high_traced (c : MemoryBankCtrler numRomBanks numRamBanks) {trans : Payload}
    (hcmd : trans.command = .read) (a : Fin 0x8000) (hadr : trans.address.toNat = a.val)
    (ha : ¬ a.val < 0x4000) :
    c.tracedRomRead trans = .ok
      ({ trans with
          address := trans.address - 0x4000
          data := c.romHigh.data
            (BankSwitchedMem.cell c.romHigh.currentBankInd ⟨a.val - 0x4000, by omega⟩)
          responseStatus := .ok },
        { c with symfileTracer := c.traced trans.extension a }) := by
  have hlt := a.isLt
  have hhigh : ¬ trans.address ≤ 0x3FFF := by bv_omega
  have hflag : kBankSize * (c.romHigh.getCurrentBankIndex.setWidth 16).toNat + a.val =
      (c.tracedFlag a).val := by
    rw [tracedFlag_val, if_neg ha, BitVec.toNat_setWidth_of_le (by decide)]
  have hread := @BankSwitchedMem.bTransport_read _ _ c.romHigh
    { trans with address := trans.address - 0x4000 } hcmd ⟨a.val - 0x4000, by omega⟩ (by bv_omega)
  rw [tracedRomRead, if_neg hhigh, c.traceRead_traced trans.extension a hadr hflag, ok_bind,
    romHighTransport, hread]
  rfl

end MemoryBankCtrler

end TlmBoy
