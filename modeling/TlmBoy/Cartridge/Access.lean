import TlmBoy.Cartridge.Controllers

/-
  Guest transactions on a cartridge and what the memories behind a controller answer.

  An `Access` is one transaction as the bus hands it over: the ROM window 0x0000-0x7FFF with
  its own addresses, the external RAM window 0xA000-0xBFFF relative to its start. A history
  is a list of accesses, oldest first. `lastByte lo hi ls` is the last byte that the history
  wrote to a ROM address in `lo..hi`, and 0 when it wrote none.
-/

namespace TlmBoy

/-- One guest transaction. The host time is what `std::time` gives during the call. -/
inductive Access where
  | rom (trans : Payload) (h : trans.address < 0x8000)
  | ram (trans : Payload) (h : trans.address < 0x2000) (time : I64)

namespace Access

/-- The byte written, if the access writes to a ROM address in `lo..hi`. -/
def romByte (lo hi : U16) : Access → Option U8
  | .rom t _ =>
    if t.command = .write ∧ lo ≤ t.address ∧ t.address ≤ hi then some t.data else none
  | .ram .. => none

/-- The access goes to the ROM window. -/
def IsRom : Access → Prop
  | .rom .. => True
  | .ram .. => False

/-- The access writes nothing to the ROM window. -/
def Quiet (acc : Access) : Prop := ∀ lo hi, acc.romByte lo hi = none

/-- A write of `v` to the ROM address `adr`. -/
def write (adr : U16) (v : U8) (h : adr < 0x8000) : Access :=
  .rom { command := .write, address := adr, data := v } h

theorem romByte_write {t : Payload} (hadr : t.address < 0x8000) (hcmd : t.command = .write)
    (lo hi : U16) : (Access.rom t hadr).romByte lo hi =
      if lo ≤ t.address ∧ t.address ≤ hi then some t.data else none := by
  simp [romByte, hcmd]

theorem quiet_rom {t : Payload} (hadr : t.address < 0x8000) (hcmd : t.command ≠ .write) :
    (Access.rom t hadr).Quiet := by
  intro lo hi
  simp [romByte, hcmd]

theorem quiet_ram {t : Payload} (hadr : t.address < 0x2000) (time : I64) :
    (Access.ram t hadr time).Quiet := fun _ _ => rfl

end Access

/-- The last byte written to a ROM address in `lo..hi`, 0 when there is none. -/
def lastByte (lo hi : U16) (ls : List Access) : U8 :=
  History.latest (Access.romByte lo hi) 0 ls

theorem lastByte_quiet (lo hi : U16) (ls : List Access) {acc : Access} (hacc : acc.Quiet) :
    lastByte lo hi (ls ++ [acc]) = lastByte lo hi ls := by
  rw [lastByte, History.latest_concat, hacc, Option.getD_none, lastByte]

theorem lastByte_write (lo hi : U16) (ls : List Access) {t : Payload} (hadr : t.address < 0x8000)
    (hcmd : t.command = .write) :
    lastByte lo hi (ls ++ [.rom t hadr]) =
      if lo ≤ t.address ∧ t.address ≤ hi then t.data else lastByte lo hi ls := by
  rw [lastByte, History.latest_concat, Access.romByte_write hadr hcmd]
  split_ifs <;> rfl

/-! ## What the memories answer -/

namespace MemoryBankCtrler

variable {numRomBanks numRamBanks : Nat}

/-- The tracer's index is in its array for every `u8` bank and every ROM address. -/
theorem traceAccess_ok (t : SymfileTracer) (bank : U8) {adr : U16} (hadr : adr < 0x8000) :
    ∃ t', t.traceAccess (bank.setWidth 16) adr = .ok t' := by
  have hbank : (bank.setWidth 16).toNat < 256 := by
    rw [BitVec.toNat_setWidth]
    have := bank.isLt
    omega
  have hadr' : adr.toNat < 0x8000 := hadr
  have hin : kBankSize * (bank.setWidth 16).toNat + adr.toNat < kMaxBanks * kBankSize := by
    unfold kBankSize kMaxBanks
    omega
  exact ⟨_, dif_pos hin⟩

/-- Tracing changes the tracer only. -/
theorem traceRead_ok (c : MemoryBankCtrler numRomBanks numRamBanks) (ext : Option GbCommand)
    (bank : U8) {adr : U16} (hadr : adr < 0x8000) :
    ∃ tracer, c.traceRead ext (bank.setWidth 16) adr =
      .ok { c with symfileTracer := tracer } := by
  unfold traceRead
  split
  · next tracer htr =>
    obtain ⟨t', ht'⟩ := traceAccess_ok tracer bank hadr
    exact ⟨some t', by rw [ht']; rfl⟩
  · exact ⟨c.symfileTracer, rfl⟩

/-- A read of the fixed window 0x0000-0x3FFF. -/
theorem tracedRomRead_low (c : MemoryBankCtrler numRomBanks numRamBanks) {trans : Payload}
    (hcmd : trans.command = .read) (a : Fin 0x4000) (hadr : trans.address.toNat = a.val) :
    ∃ tracer, c.tracedRomRead trans = .ok
      ({ trans with data := c.romLow.data a, responseStatus := .ok },
        { c with symfileTracer := tracer }) := by
  have ha := a.isLt
  have hlow : trans.address ≤ 0x3FFF := by bv_omega
  have hlt : trans.address < 0x8000 := by bv_omega
  obtain ⟨tracer, htr⟩ := c.traceRead_ok trans.extension 0 hlt
  refine ⟨tracer, ?_⟩
  have hread := c.romLow.bTransport_read hcmd (by rw [hadr]; exact a.isLt)
  simp only [hadr] at hread
  rw [tracedRomRead, if_pos hlow, show (0 : U16) = (0 : U8).setWidth 16 from rfl, htr, ok_bind,
    romLowTransport, hread]
  rfl

/-- A read of the switched window 0x4000-0x7FFF gives a byte of the current bank. -/
theorem tracedRomRead_high (c : MemoryBankCtrler numRomBanks numRamBanks) {trans : Payload}
    (hcmd : trans.command = .read) (a : Fin 0x4000)
    (hadr : trans.address.toNat = 0x4000 + a.val) :
    ∃ tracer, c.tracedRomRead trans = .ok
      ({ trans with
          address := trans.address - 0x4000
          data := c.romHigh.data (BankSwitchedMem.cell c.romHigh.currentBankInd a)
          responseStatus := .ok },
        { c with symfileTracer := tracer }) := by
  have ha := a.isLt
  have hhigh : ¬ trans.address ≤ 0x3FFF := by bv_omega
  have hlt : trans.address < 0x8000 := by bv_omega
  obtain ⟨tracer, htr⟩ := c.traceRead_ok trans.extension c.romHigh.getCurrentBankIndex hlt
  refine ⟨tracer, ?_⟩
  have hrel : (trans.address - 0x4000).toNat = a.val := by bv_omega
  have hread := @BankSwitchedMem.bTransport_read _ _ c.romHigh
    { trans with address := trans.address - 0x4000 } hcmd a hrel
  rw [tracedRomRead, if_neg hhigh, htr, ok_bind, romHighTransport, hread]
  rfl

/-- A ROM read succeeds and leaves the memories, banks and indices alone. -/
theorem tracedRomRead_ok (c : MemoryBankCtrler numRomBanks numRamBanks) {trans : Payload}
    (hcmd : trans.command = .read) (h : trans.address < 0x8000) :
    ∃ trans' tracer, c.tracedRomRead trans = .ok (trans', { c with symfileTracer := tracer }) := by
  have h' : trans.address.toNat < 0x8000 := h
  by_cases hlow : trans.address.toNat < 0x4000
  · obtain ⟨tracer, hr⟩ := c.tracedRomRead_low hcmd ⟨_, hlow⟩ rfl
    exact ⟨_, tracer, hr⟩
  · obtain ⟨tracer, hr⟩ := c.tracedRomRead_high hcmd ⟨trans.address.toNat - 0x4000, by omega⟩
      (by simp only; omega)
    exact ⟨_, tracer, hr⟩

/-- A RAM read gives a byte of the current RAM bank. -/
theorem ramTransport_read (c : MemoryBankCtrler numRomBanks numRamBanks) {trans : Payload}
    (hcmd : trans.command = .read) (a : Fin 0x2000) (hadr : trans.address.toNat = a.val) :
    c.ramTransport trans = .ok ({ trans with
      data := c.extRam.data (BankSwitchedMem.cell c.extRam.currentBankInd a),
      responseStatus := .ok }, c) := by
  rw [ramTransport, BankSwitchedMem.bTransport_read _ hcmd a hadr]
  rfl

/-- A RAM write changes a byte of the current RAM bank and nothing else. -/
theorem ramTransport_write (c : MemoryBankCtrler numRomBanks numRamBanks) {trans : Payload}
    (hcmd : trans.command = .write) (a : Fin 0x2000) (hadr : trans.address.toNat = a.val) :
    c.ramTransport trans = .ok ({ trans with responseStatus := .ok },
      { c with extRam := { c.extRam with
        data := Function.update c.extRam.data (BankSwitchedMem.cell c.extRam.currentBankInd a)
          trans.data } }) := by
  rw [ramTransport, BankSwitchedMem.bTransport_write _ hcmd a hadr]
  rfl

theorem ramTransport_ignore (c : MemoryBankCtrler numRomBanks numRamBanks) {trans : Payload}
    (hcmd : trans.command = .ignore) (h : trans.address < 0x2000) :
    c.ramTransport trans = .ok ({ trans with responseStatus := .commandError }, c) := by
  have ha : trans.address.toNat < 0x2000 := h
  simp [ramTransport, BankSwitchedMem.bTransport, ha, hcmd]

/-- A RAM transaction succeeds and changes nothing but bytes of the external RAM. -/
theorem ramTransport_ok (c : MemoryBankCtrler numRomBanks numRamBanks) {trans : Payload}
    (h : trans.address < 0x2000) :
    ∃ trans' data, c.ramTransport trans =
      .ok (trans', { c with extRam := { c.extRam with data := data } }) := by
  have ha : trans.address.toNat < 0x2000 := h
  cases hcmd : trans.command with
  | read => exact ⟨_, _, c.ramTransport_read hcmd ⟨_, ha⟩ rfl⟩
  | write => exact ⟨_, _, c.ramTransport_write hcmd ⟨_, ha⟩ rfl⟩
  | ignore => exact ⟨_, c.extRam.data, c.ramTransport_ignore hcmd h⟩

end MemoryBankCtrler

end TlmBoy
