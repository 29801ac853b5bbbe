import TlmBoy.Gdb.DebugAccess
import TlmBoy.Lib.KeyedStore

/-
  The debugger's view of the memories: the ROM, and those that only store.

  `byteAt` is the byte that a bus address names. In the ROM that depends on the bank, and an echo
  address names a byte of the work RAM (`byteAt_eq_iff`). A debug read gives the byte and changes
  nothing, a debug write replaces it and nothing else, also in the ROM, which the guest cannot
  write.
-/

namespace TlmBoy

/-- A byte of the ROM or of a memory that only stores. -/
inductive MemByte where
  | rom (b : RomByte)
  | ram (x : RamCell)
deriving DecidableEq

/-- ROM, video RAM, work RAM, echo RAM, OAM and high RAM. -/
def InMemory (adr : U16) : Prop := adr < 0x8000 ∨ InRam adr

namespace Gb

def getByte (b : MemByte) (gb : Gb) : Option U8 :=
  match b with
  | .rom b => gb.cartridge.getRom b
  | .ram x => some (gb.load x)

def putByte (b : MemByte) (v : U8) (gb : Gb) : Gb :=
  match b with
  | .rom b => { gb with cartridge := gb.cartridge.putRom b v }
  | .ram x => gb.store x v

/-- The byte that a bus address names. -/
def byteAt (adr : U16) (gb : Gb) : Option MemByte :=
  if h : adr < 0x8000 then some (.rom (gb.cartridge.romAt ⟨adr.toNat, h⟩))
  else (ramCell adr).map .ram

/-- The devices without the bytes of their memories. -/
def blankMemory (gb : Gb) : Gb :=
  { gb with
    cartridge := gb.cartridge.blankRom
    videoRam := ⟨fun _ => 0⟩
    workRam := ⟨fun _ => 0⟩
    workRamN := ⟨fun _ => 0⟩
    objAttrMem := ⟨fun _ => 0⟩
    highRam := ⟨fun _ => 0⟩ }

theorem lawful_byte : KeyedStore.Lawful getByte putByte := by
  intro b b' v gb
  cases b with
  | rom b =>
    cases b' with
    | rom b' =>
      show (gb.cartridge.putRom b v).getRom b' = _
      rw [Cartridge.getRom_putRom]
      simp [getByte]
    | ram x' => cases x' <;> rfl
  | ram x =>
    cases b' with
    | rom b' => cases x <;> rfl
    | ram x' =>
      show some ((gb.store x v).load x') = _
      rw [load_store]
      by_cases h : x' = x
      · simp [getByte, h]
      · simp [getByte, h]

theorem blankMemory_putByte (b : MemByte) (v : U8) (gb : Gb) :
    (gb.putByte b v).blankMemory = gb.blankMemory := by
  cases b with
  | rom b =>
    have h := gb.cartridge.blankRom_putRom b v
    exact congrArg (fun c => { gb.blankMemory with cartridge := c }) h
  | ram x => cases x <;> rfl

/-- An address names the same byte whatever the memories hold. -/
theorem byteAt_of_blankMemory {gb gb' : Gb} (h : gb'.blankMemory = gb.blankMemory) (adr : U16) :
    gb'.byteAt adr = gb.byteAt adr := by
  have hrom : ∀ a, gb'.cartridge.romAt a = gb.cartridge.romAt a :=
    Cartridge.romAt_of_blankRom (congrArg Gb.cartridge h)
  unfold byteAt
  simp only [hrom]

theorem exists_byteAt {adr : U16} (h : InMemory adr) (gb : Gb) :
    ∃ b v, gb.byteAt adr = some b ∧ gb.getByte b = some v := by
  rcases h with hrom | hram
  · exact ⟨_, _, dif_pos hrom, gb.cartridge.getRom_romAt _⟩
  · obtain ⟨x, hx⟩ := ramCell_of_inRam hram
    refine ⟨.ram x, gb.load x, ?_, rfl⟩
    have hnot : ¬ adr < 0x8000 := by
      unfold InRam at hram
      bv_omega
    rw [byteAt, dif_neg hnot, hx]
    rfl

/-- Two addresses name one byte exactly if they are the same, or one is the echo of the other. -/
theorem byteAt_eq_iff {gb : Gb} {adr adr' : U16} {b b' : MemByte} (hb : gb.byteAt adr = some b)
    (hb' : gb.byteAt adr' = some b') : b = b' ↔ SameCell adr adr' := by
  unfold byteAt at hb hb'
  unfold SameCell
  by_cases hrom : adr < 0x8000
  · rw [dif_pos hrom] at hb
    by_cases hrom' : adr' < 0x8000
    · rw [dif_pos hrom'] at hb'
      cases hb
      cases hb'
      have hlt : adr.toNat < 0x8000 := hrom
      have hlt' : adr'.toNat < 0x8000 := hrom'
      have haddress := gb.cartridge.address_romAt ⟨adr.toNat, hrom⟩
      have haddress' := gb.cartridge.address_romAt ⟨adr'.toNat, hrom'⟩
      constructor
      · intro heq
        injection heq with heq
        rw [heq, haddress'] at haddress
        exact .inl (BitVec.eq_of_toNat_eq haddress.symm)
      · intro hsame
        obtain rfl : adr = adr' := by
          rcases hsame with heq | ⟨hlo, -, -⟩ | ⟨hlo, -, -⟩
          · exact heq
          · bv_omega
          · bv_omega
        rfl
    · rw [dif_neg hrom'] at hb'
      obtain ⟨x', hx', rfl⟩ := Option.map_eq_some_iff.mp hb'
      cases hb
      refine iff_of_false (fun heq => nomatch heq) ?_
      bv_omega
  · rw [dif_neg hrom] at hb
    obtain ⟨x, hx, rfl⟩ := Option.map_eq_some_iff.mp hb
    by_cases hrom' : adr' < 0x8000
    · rw [dif_pos hrom'] at hb'
      cases hb'
      refine iff_of_false (fun heq => nomatch heq) ?_
      bv_omega
    · rw [dif_neg hrom'] at hb'
      obtain ⟨x', hx', rfl⟩ := Option.map_eq_some_iff.mp hb'
      rw [MemByte.ram.injEq]
      exact ramCell_eq_iff hx hx'

theorem findSlave_rom {adr : U16} (h : adr < 0x8000) :
    findSlave adr = some ⟨0x0000, 0x7FFF, .cartridgeRom⟩ :=
  findSlave_eq_some_iff.mpr ⟨by decide, by bv_omega, by bv_omega⟩

theorem isPlain_of_cell {slave : Slave} {adr : U16} {x : RamCell} (h : slave.cell adr = some x) :
    slave ≠ .cartridgeRom ∧ slave ≠ .cartridgeRam := by
  have hplain := (Slave.cell_offset h).1
  constructor
  · rintro rfl
    cases hplain
  · rintro rfl
    cases hplain

/-- A debug read gives the byte and changes nothing. -/
theorem transportDbg_get (gb : Gb) {t : Payload} {b : MemByte} {v : U8}
    (hb : gb.byteAt t.address = some b) (hv : gb.getByte b = some v) (hcmd : t.command = .read) :
    ∃ rel, gb.transportDbg t =
      .ok ({ t with address := rel, data := v, responseStatus := .ok }, gb) := by
  unfold byteAt at hb
  by_cases hrom : t.address < 0x8000
  · rw [dif_pos hrom] at hb
    cases hb
    obtain rfl : gb.cartridge.romByte ⟨t.address.toNat, hrom⟩ = v :=
      Option.some.inj ((gb.cartridge.getRom_romAt _).symm.trans hv)
    have hadr : t.address - 0x0000 < 0x8000 := (BitVec.sub_zero t.address).symm ▸ hrom
    have hsame : (⟨(t.address - 0x0000).toNat, hadr⟩ : Fin 0x8000) = ⟨t.address.toNat, hrom⟩ :=
      Fin.ext (congrArg BitVec.toNat (BitVec.sub_zero t.address))
    obtain ⟨rel, h⟩ := gb.cartridge.transportDbgRom_answers hadr t.extension
    rw [hsame] at h
    refine ⟨rel, ?_⟩
    rw [transportDbg_mapped gb (findSlave_rom hrom), slaveTransportDbg,
      h { t with address := t.address - 0x0000 } hcmd rfl rfl]
    rfl
  · rw [dif_neg hrom] at hb
    obtain ⟨x, hx, rfl⟩ := Option.map_eq_some_iff.mp hb
    cases hv
    obtain ⟨s, hs, hcell⟩ := Option.bind_eq_some_iff.mp hx
    obtain ⟨hnotRom, hnotRam⟩ := isPlain_of_cell hcell
    have hread := @slaveTransport_read gb s.socket { t with address := t.address - s.addrFrom } x
      hcell hcmd
    refine ⟨t.address - s.addrFrom, ?_⟩
    rw [transportDbg_mapped gb hs, slaveTransportDbg_eq hnotRom hnotRam, hread]
    rfl

/-- A debug write replaces the byte. -/
theorem transportDbg_put (gb : Gb) {t : Payload} {b : MemByte} (hb : gb.byteAt t.address = some b)
    (hcmd : t.command = .write) : ∃ rel, gb.transportDbg t =
      .ok ({ t with address := rel, responseStatus := .ok }, gb.putByte b t.data) := by
  unfold byteAt at hb
  by_cases hrom : t.address < 0x8000
  · rw [dif_pos hrom] at hb
    cases hb
    have hadr : t.address - 0x0000 < 0x8000 := (BitVec.sub_zero t.address).symm ▸ hrom
    have hsame : (⟨(t.address - 0x0000).toNat, hadr⟩ : Fin 0x8000) = ⟨t.address.toNat, hrom⟩ :=
      Fin.ext (congrArg BitVec.toNat (BitVec.sub_zero t.address))
    obtain ⟨rel, h⟩ := @Cartridge.transportDbgRom_write gb.cartridge
      { t with address := t.address - 0x0000 } hadr hcmd
    dsimp only at h
    rw [hsame] at h
    refine ⟨rel, ?_⟩
    rw [transportDbg_mapped gb (findSlave_rom hrom), slaveTransportDbg, h]
    rfl
  · rw [dif_neg hrom] at hb
    obtain ⟨x, hx, rfl⟩ := Option.map_eq_some_iff.mp hb
    obtain ⟨s, hs, hcell⟩ := Option.bind_eq_some_iff.mp hx
    obtain ⟨hnotRom, hnotRam⟩ := isPlain_of_cell hcell
    have hwrite := @slaveTransport_write gb s.socket { t with address := t.address - s.addrFrom } x
      hcell hcmd
    refine ⟨t.address - s.addrFrom, ?_⟩
    rw [transportDbg_mapped gb hs, slaveTransportDbg_eq hnotRom hnotRam, hwrite]
    rfl

end Gb

namespace GdbServer

variable {c : Cpu (Linked (Timed Gb))} {adr : U16} {b : MemByte} {v : U8}

theorem readBusDebug_get (hb : (devices c).byteAt adr = some b)
    (hv : (devices c).getByte b = some v) : ∃ payload,
      (Cpu.readBusDebug adr : GdbM (Timed Gb) U8) c =
        .ok (v, withDevices payload (devices c) c) := by
  obtain ⟨rel, h⟩ := @Gb.transportDbg_get (devices c)
    (debugPayload .read adr (devices c).stackByte c) b v hb hv rfl
  rw [readBusDebug_apply, h]
  exact ⟨_, rfl⟩

theorem writeBusDebug_put (hb : (devices c).byteAt adr = some b) (v : U8) : ∃ payload,
    (Cpu.writeBusDebug adr v : GdbM (Timed Gb) Unit) c =
      .ok ((), withDevices payload ((devices c).putByte b v) c) := by
  obtain ⟨rel, h⟩ := @Gb.transportDbg_put (devices c) (debugPayload .write adr v c) b hb rfl
  rw [writeBusDebug_apply, h]
  exact ⟨_, rfl⟩

end GdbServer

end TlmBoy
