import TlmBoy.Bus.Routing
import TlmBoy.Lib.History

/-
  The plain memories through the bus: video RAM, work RAM, echo RAM, OAM and high RAM.

  A write changes the byte that its address names, and no other byte of any slave. The echo
  shares the storage of the work RAM, so an echo address always reads as the address 0x2000
  below it. `plain_memories` puts the two together.
-/

namespace TlmBoy

/-- Two addresses of one byte: equal, or a work RAM address and its echo. -/
def SameCell (adr adr' : U16) : Prop :=
  adr = adr' ∨ (0xC000 ≤ adr ∧ adr ≤ 0xDDFF ∧ adr' = adr + 0x2000) ∨
    (0xC000 ≤ adr' ∧ adr' ≤ 0xDDFF ∧ adr = adr' + 0x2000)

instance (adr adr' : U16) : Decidable (SameCell adr adr') := by
  unfold SameCell
  infer_instance

theorem sameCell_iff_homeAddress (adr adr' : U16) :
    SameCell adr adr' ↔ homeAddress adr = homeAddress adr' := by
  unfold SameCell homeAddress
  constructor
  · rintro (rfl | ⟨hlo, hhi, rfl⟩ | ⟨hlo, hhi, rfl⟩)
    · rfl
    · rw [if_neg (by bv_omega), if_pos (by bv_omega)]
      bv_omega
    · rw [if_pos (by bv_omega), if_neg (by bv_omega)]
      bv_omega
  · intro h
    by_cases hin : 0xE000 ≤ adr.toNat ∧ adr.toNat ≤ 0xFDFF
    · by_cases hin' : 0xE000 ≤ adr'.toNat ∧ adr'.toNat ≤ 0xFDFF
      · rw [if_pos hin, if_pos hin'] at h
        exact .inl (by bv_omega)
      · rw [if_pos hin, if_neg hin'] at h
        exact .inr (.inr (by bv_omega))
    · by_cases hin' : 0xE000 ≤ adr'.toNat ∧ adr'.toNat ≤ 0xFDFF
      · rw [if_neg hin, if_pos hin'] at h
        exact .inr (.inl (by bv_omega))
      · rw [if_neg hin, if_neg hin'] at h
        exact .inl (BitVec.eq_of_toNat_eq h)

theorem ramCell_eq_iff {adr adr' : U16} {x y : RamCell} (hx : ramCell adr = some x)
    (hy : ramCell adr' = some y) : x = y ↔ SameCell adr adr' := by
  rw [sameCell_iff_homeAddress, ← ramCell_address hx, ← ramCell_address hy]
  exact ⟨fun h => by rw [h], RamCell.address_inj⟩

namespace Gb

/-- A bus read of `adr` gives `v` with an OK response, and changes nothing. -/
def Reads (gb : Gb) (adr : U16) (v : U8) : Prop :=
  ∀ t : Payload, t.command = .read → t.address = adr →
    ∃ t', gb.bTransport t = .ok (t', gb) ∧ t'.data = v ∧ t'.responseStatus = .ok

/-- The cartridge, the I/O registers and the interrupt registers are the same. -/
structure SameDevices (gb gb' : Gb) : Prop where
  cartridge : gb'.cartridge = gb.cartridge
  joyPad : gb'.joyPad = gb.joyPad
  serial : gb'.serial = gb.serial
  timer : gb'.timer = gb.timer
  ioRegisters : gb'.ioRegisters = gb.ioRegisters
  regIf : gb'.regIf = gb.regIf
  intrEnable : gb'.intrEnable = gb.intrEnable

theorem store_sameDevices (x : RamCell) (v : U8) (gb : Gb) : SameDevices gb (gb.store x v) := by
  cases x <;> exact ⟨rfl, rfl, rfl, rfl, rfl, rfl, rfl⟩

/-- A read of a plain memory gives the byte of its cell. -/
theorem slaveTransport_read (gb : Gb) {slave : Slave} {t : Payload} {x : RamCell}
    (hx : slave.cell t.address = some x) (hcmd : t.command = .read) :
    gb.slaveTransport slave t =
      .ok ({ t with data := gb.load x, responseStatus := .ok }, gb, none) := by
  cases slave <;> simp only [Slave.cell, Option.dite_none_right_eq_some, reduceCtorEq] at hx <;>
    obtain ⟨hadr, hx⟩ := hx <;> injection hx with hx <;> subst hx <;>
    rw [slaveTransport, GenericMemory.bTransport_read _ hcmd hadr] <;> rfl

/-- A read of a bus address in plain memory gives the byte of the cell that it names. -/
theorem bTransport_read (gb : Gb) {t : Payload} {x : RamCell} (hx : ramCell t.address = some x)
    (hcmd : t.command = .read) : ∃ adr, gb.bTransport t =
      .ok ({ t with address := adr, data := gb.load x, responseStatus := .ok }, gb) := by
  obtain ⟨s, hs, hcell⟩ := Option.bind_eq_some_iff.mp hx
  refine ⟨t.address - s.addrFrom, bTransport_of_route ?_⟩
  rw [routeTransport_mapped gb hs]
  exact @slaveTransport_read gb s.socket { t with address := t.address - s.addrFrom } x hcell hcmd

theorem reads_cell (gb : Gb) {adr : U16} {x : RamCell} (hx : ramCell adr = some x) :
    gb.Reads adr (gb.load x) := by
  intro t hcmd hadr
  subst hadr
  obtain ⟨adr, hread⟩ := gb.bTransport_read hx hcmd
  exact ⟨_, hread, rfl, rfl⟩

/-- One access of the guest, as a step of the memory system. -/
def access (gb : Gb) (t : Payload) : Except Fault Gb := (gb.bTransport t).map Prod.snd

/-- A write into plain memory is read back from every address of its byte, and changes nothing
    else. After any accesses at all, an echo address reads as the work RAM address below it. -/
theorem plain_memories (gb : Gb) :
    (∀ t : Payload, t.command = .write → InRam t.address →
      ∃ t' gb', gb.bTransport t = .ok (t', gb') ∧ SameDevices gb gb' ∧
        ∀ adr, InRam adr → ∃ old, gb.Reads adr old ∧
          gb'.Reads adr (if SameCell adr t.address then t.data else old)) ∧
    ∀ (ts : List Payload) (gb' : Gb), ts.foldlM access gb = .ok gb' →
      ∀ adr : U16, 0xC000 ≤ adr → adr ≤ 0xDDFF →
        ∃ v, gb'.Reads adr v ∧ gb'.Reads (adr + 0x2000) v := by
  constructor
  · intro t hcmd hadr
    obtain ⟨x, hx⟩ := ramCell_of_inRam hadr
    obtain ⟨t', hwrite⟩ := gb.bTransport_write hx hcmd
    refine ⟨t', gb.store x t.data, hwrite, store_sameDevices x t.data gb, ?_⟩
    intro adr hin
    obtain ⟨y, hy⟩ := ramCell_of_inRam hin
    refine ⟨gb.load y, gb.reads_cell hy, ?_⟩
    have hread := (gb.store x t.data).reads_cell hy
    rw [load_store, if_congr (ramCell_eq_iff hy hx) rfl rfl] at hread
    exact hread
  · intro ts gb' _ adr hlo hhi
    obtain ⟨x, hx⟩ := @ramCell_of_inRam adr (.inr (.inl ⟨hlo, by bv_omega⟩))
    obtain ⟨y, hy⟩ := @ramCell_of_inRam (adr + 0x2000) (.inr (.inr (.inl (by bv_omega))))
    have hxy : x = y := (ramCell_eq_iff hx hy).mpr (.inr (.inl ⟨hlo, hhi, rfl⟩))
    refine ⟨gb'.load x, gb'.reads_cell hx, ?_⟩
    rw [hxy]
    exact gb'.reads_cell hy

end Gb

end TlmBoy
