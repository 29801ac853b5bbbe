import TlmBoy.GbTop

/-
  Where the bus sends a transaction.

  The ranges of the bus table do not overlap, so the first slave that contains an address is the
  only one (`findSlave_eq_some_iff`). The plain memories name their bytes by one address each,
  the echo addresses 0xE000-0xFDFF those of the work RAM 0x2000 below (`ramCell_address`).
-/

namespace TlmBoy

/-! ## The table -/

theorem busSlaveVec_disjoint : ∀ s ∈ busSlaveVec, ∀ s' ∈ busSlaveVec,
    s = s' ∨ s.addrTo < s'.addrFrom ∨ s'.addrTo < s.addrFrom := by decide

theorem addr_of_findSlave {adr : U16} {s : BusSlave} (h : findSlave adr = some s) :
    s.addrFrom ≤ adr ∧ adr ≤ s.addrTo := by
  have hin := @List.find?_some _
    (fun slave : BusSlave => decide (slave.addrFrom ≤ adr ∧ adr ≤ slave.addrTo)) _ _ h
  exact of_decide_eq_true hin

/-- The only slave whose range contains the address. -/
theorem findSlave_eq_some_iff {adr : U16} {s : BusSlave} :
    findSlave adr = some s ↔ s ∈ busSlaveVec ∧ s.addrFrom ≤ adr ∧ adr ≤ s.addrTo := by
  constructor
  · intro h
    exact ⟨List.mem_of_find?_eq_some h, addr_of_findSlave h⟩
  · rintro ⟨hmem, hin⟩
    have hsome : (findSlave adr).isSome = true :=
      List.find?_isSome.mpr ⟨s, hmem, decide_eq_true hin⟩
    obtain ⟨s', hs'⟩ := Option.isSome_iff_exists.mp hsome
    have hmem' := List.mem_of_find?_eq_some hs'
    have hin' := addr_of_findSlave hs'
    rw [hs']
    rcases busSlaveVec_disjoint s hmem s' hmem' with heq | hlt | hlt
    · rw [heq]
    · have := hin.2
      have := hin'.1
      bv_omega
    · have := hin.1
      have := hin'.2
      bv_omega

theorem findSlave_eq_none_iff {adr : U16} :
    findSlave adr = none ↔ ∀ s ∈ busSlaveVec, ¬ (s.addrFrom ≤ adr ∧ adr ≤ s.addrTo) := by
  unfold findSlave
  rw [List.find?_eq_none]
  exact forall₂_congr fun s _ => not_congr decide_eq_true_iff

/-- The slaves that do more than store. -/
theorem device_ranges : ∀ s ∈ busSlaveVec, s.socket.isPlain = false →
    s = ⟨0x0000, 0x7FFF, .cartridgeRom⟩ ∨ s = ⟨0xA000, 0xBFFF, .cartridgeRam⟩ ∨
      s = ⟨0xFF00, 0xFF00, .joyPad⟩ ∨ s = ⟨0xFF01, 0xFF03, .serial⟩ ∨
      s = ⟨0xFF04, 0xFF07, .timer⟩ ∨ s = ⟨0xFF0F, 0xFF0F, .regIf⟩ ∨
      s = ⟨0xFF10, 0xFF7F, .ioRegisters⟩ ∨ s = ⟨0xFFFF, 0xFFFF, .intrEnable⟩ := by decide

theorem cartridgeRam_range : ∀ s ∈ busSlaveVec, s.socket = .cartridgeRam →
    s.addrFrom = 0xA000 ∧ s.addrTo = 0xBFFF := by decide

theorem ioRegisters_range : ∀ s ∈ busSlaveVec, s.socket = .ioRegisters →
    s.addrFrom = 0xFF10 := by decide

namespace Gb

theorem routeTransport_mapped (gb : Gb) {t : Payload} {s : BusSlave}
    (h : findSlave t.address = some s) : gb.routeTransport t =
      gb.slaveTransport s.socket { t with address := t.address - s.addrFrom } := by
  rw [routeTransport, h]

theorem routeTransport_unmapped (gb : Gb) {t : Payload} (h : findSlave t.address = none) :
    gb.routeTransport t = .ok ({ t with responseStatus := .addressError }, gb, none) := by
  rw [routeTransport, h]

/-- A transaction that starts no OAM DMA is its slave's. -/
theorem bTransport_of_route {gb gb' : Gb} {t t' : Payload}
    (h : gb.routeTransport t = .ok (t', gb', none)) : gb.bTransport t = .ok (t', gb') := by
  rw [bTransport, h]
  rfl

end Gb

/-! ## Cells and their addresses -/

/-- The size of a plain memory. -/
def Slave.size : Slave → Nat
  | .videoRam => 8192
  | .workRam | .workRamN | .echoRam | .echoRamN => 4096
  | .objAttrMem => 160
  | .highRam => 127
  | _ => 0

/-- The bus address of a plain memory's first byte, other than in an echo. -/
def Slave.base : Slave → Nat
  | .videoRam => 0x8000
  | .workRam | .echoRam => 0xC000
  | .workRamN | .echoRamN => 0xD000
  | .objAttrMem => 0xFE00
  | .highRam => 0xFF80
  | _ => 0

/-- The bus address of a cell, other than in an echo. -/
def RamCell.address : RamCell → Nat
  | .videoRam i => 0x8000 + i.val
  | .workRam i => 0xC000 + i.val
  | .workRamN i => 0xD000 + i.val
  | .objAttrMem i => 0xFE00 + i.val
  | .highRam i => 0xFF80 + i.val

theorem RamCell.address_inj {x y : RamCell} (h : x.address = y.address) : x = y := by
  cases x <;> cases y <;> simp only [RamCell.address] at h <;>
    first | (congr 1; apply Fin.ext; omega) | (exfalso; omega)

theorem Slave.cell_address {slave : Slave} {adr : U16} {x : RamCell}
    (h : slave.cell adr = some x) : x.address = slave.base + adr.toNat := by
  cases slave <;> simp only [Slave.cell, Option.dite_none_right_eq_some, reduceCtorEq] at h <;>
    obtain ⟨_, h⟩ := h <;> injection h with h <;> subst h <;> rfl

theorem Slave.cell_of_lt {slave : Slave} {adr : U16} (h : adr.toNat < slave.size) :
    ∃ x, slave.cell adr = some x := by
  cases slave <;> simp only [Slave.size, Nat.not_lt_zero] at h <;> exact ⟨_, dif_pos h⟩

/-- Every plain memory fills its range, and only the two echoes lie above their memory. -/
theorem plain_ranges : ∀ s ∈ busSlaveVec, s.socket.isPlain = true →
    s.addrTo.toNat - s.addrFrom.toNat < s.socket.size ∧
      ((0xE000 ≤ s.addrFrom.toNat ∧ s.addrTo.toNat ≤ 0xFDFF ∧
          s.socket.base + 0x2000 = s.addrFrom.toNat) ∨
        ((s.addrTo.toNat < 0xE000 ∨ 0xFDFF < s.addrFrom.toNat) ∧
          s.socket.base = s.addrFrom.toNat)) := by decide

/-- An address in the echo names the work RAM 0x2000 below, every other one its own byte. -/
def homeAddress (adr : U16) : Nat :=
  if 0xE000 ≤ adr.toNat ∧ adr.toNat ≤ 0xFDFF then adr.toNat - 0x2000 else adr.toNat

theorem ramCell_address {adr : U16} {x : RamCell} (h : ramCell adr = some x) :
    x.address = homeAddress adr := by
  obtain ⟨s, hs, hcell⟩ := Option.bind_eq_some_iff.mp h
  obtain ⟨hmem, hfrom, hto⟩ := findSlave_eq_some_iff.mp hs
  have hplain := (Slave.cell_offset hcell).1
  have haddr := Slave.cell_address hcell
  have hsub : (adr - s.addrFrom).toNat = adr.toNat - s.addrFrom.toNat := by bv_omega
  have hfrom' : s.addrFrom.toNat ≤ adr.toNat := hfrom
  have hto' : adr.toNat ≤ s.addrTo.toNat := hto
  unfold homeAddress
  rcases (plain_ranges s hmem hplain).2 with ⟨hlo, hhi, hbase⟩ | ⟨hout, hbase⟩
  · rw [if_pos ⟨by omega, by omega⟩]
    omega
  · rw [if_neg fun hin => by omega]
    omega

/-- Video RAM, work RAM, echo RAM, OAM and high RAM. -/
def InRam (adr : U16) : Prop :=
  (0x8000 ≤ adr ∧ adr ≤ 0x9FFF) ∨ (0xC000 ≤ adr ∧ adr ≤ 0xDFFF) ∨
    (0xE000 ≤ adr ∧ adr ≤ 0xFDFF) ∨ (0xFE00 ≤ adr ∧ adr ≤ 0xFE9F) ∨
    (0xFF80 ≤ adr ∧ adr ≤ 0xFFFE)

theorem ramCell_of_plain {s : BusSlave} {adr : U16} (hmem : s ∈ busSlaveVec)
    (hplain : s.socket.isPlain = true) (hfrom : s.addrFrom ≤ adr) (hto : adr ≤ s.addrTo) :
    ∃ x, ramCell adr = some x := by
  have hsize := (plain_ranges s hmem hplain).1
  have hlt : (adr - s.addrFrom).toNat < s.socket.size := by bv_omega
  obtain ⟨x, hx⟩ := Slave.cell_of_lt hlt
  refine ⟨x, ?_⟩
  rw [ramCell, findSlave_eq_some_iff.mpr ⟨hmem, hfrom, hto⟩]
  exact hx

/-- Exactly the plain regions have cells. -/
theorem ramCell_of_inRam {adr : U16} (h : InRam adr) : ∃ x, ramCell adr = some x := by
  rcases h with h | h | h | h | h
  · exact ramCell_of_plain (s := ⟨0x8000, 0x9FFF, .videoRam⟩) (by decide) rfl h.1 h.2
  · by_cases hn : adr ≤ 0xCFFF
    · exact ramCell_of_plain (s := ⟨0xC000, 0xCFFF, .workRam⟩) (by decide) rfl h.1 hn
    · exact ramCell_of_plain (s := ⟨0xD000, 0xDFFF, .workRamN⟩) (by decide) rfl
        (by show 0xD000#16 ≤ adr; bv_omega) h.2
  · by_cases hn : adr ≤ 0xEFFF
    · exact ramCell_of_plain (s := ⟨0xE000, 0xEFFF, .echoRam⟩) (by decide) rfl h.1 hn
    · exact ramCell_of_plain (s := ⟨0xF000, 0xFDFF, .echoRamN⟩) (by decide) rfl
        (by show 0xF000#16 ≤ adr; bv_omega) h.2
  · exact ramCell_of_plain (s := ⟨0xFE00, 0xFE9F, .objAttrMem⟩) (by decide) rfl h.1 h.2
  · exact ramCell_of_plain (s := ⟨0xFF80, 0xFFFE, .highRam⟩) (by decide) rfl h.1 h.2

end TlmBoy
