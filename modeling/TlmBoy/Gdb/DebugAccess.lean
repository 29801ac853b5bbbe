import TlmBoy.Bus.Handled
import TlmBoy.Bus.RomBytes
import TlmBoy.Gdb.Blocks

/-
  What a debug transaction does.

  A read (`transportDbg_read`) fails at 0xFF03 only. It changes the button bits of P1 when it reads
  P1, and nothing else behind the bus; an unmapped address and a closed external RAM differ in the
  response status. A write (`transportDbg_write`) fails at 0xFF03 and where it starts an OAM DMA
  that fails.
-/

namespace TlmBoy

/-! ## The cartridge -/

namespace MemoryBankCtrler

variable {numRomBanks numRamBanks : Nat}

/-- The debugger reads what the ROM window shows. -/
theorem transportDbgRom_answers (c : MemoryBankCtrler numRomBanks numRamBanks) {adr : U16}
    (hadr : adr < 0x8000) (ext : Option GbCommand) :
    Answers transportDbgRom c adr ext (c.romByte ⟨adr.toNat, hadr⟩) c := by
  obtain ⟨rel, h⟩ := c.romRead_answers hadr ext
  refine ⟨rel, fun t hcmd ht hext => ?_⟩
  have hlow : t.address < 0x4000 ↔ t.address ≤ 0x3FFF := by bv_omega
  rw [transportDbgRom, cAssert_pos (by rw [ht]; exact hadr), ok_bind, if_congr hlow rfl rfl]
  exact h t hcmd ht hext

/-- The debugger writes into the ROM, from 0x4000 on into the current bank. -/
theorem transportDbgRom_write (c : MemoryBankCtrler numRomBanks numRamBanks) {t : Payload}
    (hadr : t.address < 0x8000) (hcmd : t.command = .write) : ∃ rel,
      c.transportDbgRom t = .ok ({ t with address := rel, responseStatus := .ok },
        c.putRom (c.romAt ⟨t.address.toNat, hadr⟩) t.data) := by
  unfold romAt
  rw [transportDbgRom, cAssert_pos hadr, ok_bind]
  by_cases hlow : t.address.toNat < 0x4000
  · rw [if_pos (by bv_omega), romLowTransport, c.romLow.bTransport_write hcmd hlow, dif_pos hlow]
    exact ⟨t.address, rfl⟩
  · have hwrite := @BankSwitchedMem.bTransport_write _ _ c.romHigh
      { t with address := t.address - 0x4000 } hcmd ⟨t.address.toNat - 0x4000, by bv_omega⟩
      (by bv_omega)
    rw [if_neg (by bv_omega), romHighTransport, hwrite, dif_neg hlow]
    refine ⟨t.address - 0x4000, ?_⟩
    rw [putRom, dif_pos c.romHigh.currentBankInd.isLt]
    rfl

end MemoryBankCtrler

namespace Cartridge

theorem transportDbgRom_answers (c : Cartridge) {adr : U16} (hadr : adr < 0x8000)
    (ext : Option GbCommand) :
    Answers transportDbgRom c adr ext (c.romByte ⟨adr.toNat, hadr⟩) c := by
  cases c with
  | rom m =>
    obtain ⟨rel, h⟩ := MemoryBankCtrler.transportDbgRom_answers m hadr ext
    exact ⟨rel, fun t hcmd ht hext => by rw [transportDbgRom, h t hcmd ht hext]; rfl⟩
  | mbc1 m =>
    obtain ⟨rel, h⟩ := m.transportDbgRom_answers hadr ext
    exact ⟨rel, fun t hcmd ht hext => by rw [transportDbgRom, h t hcmd ht hext]; rfl⟩
  | mbc3 m =>
    obtain ⟨rel, h⟩ := m.transportDbgRom_answers hadr ext
    exact ⟨rel, fun t hcmd ht hext => by rw [transportDbgRom, h t hcmd ht hext]; rfl⟩
  | mbc5 m =>
    obtain ⟨rel, h⟩ := m.transportDbgRom_answers hadr ext
    exact ⟨rel, fun t hcmd ht hext => by rw [transportDbgRom, h t hcmd ht hext]; rfl⟩

theorem transportDbgRom_write (c : Cartridge) {t : Payload} (hadr : t.address < 0x8000)
    (hcmd : t.command = .write) : ∃ rel,
      c.transportDbgRom t = .ok ({ t with address := rel, responseStatus := .ok },
        c.putRom (c.romAt ⟨t.address.toNat, hadr⟩) t.data) := by
  cases c with
  | rom m =>
    obtain ⟨rel, h⟩ := MemoryBankCtrler.transportDbgRom_write m hadr hcmd
    exact ⟨rel, by rw [transportDbgRom, h]; rfl⟩
  | mbc1 m =>
    obtain ⟨rel, h⟩ := m.transportDbgRom_write hadr hcmd
    exact ⟨rel, by rw [transportDbgRom, h]; rfl⟩
  | mbc3 m =>
    obtain ⟨rel, h⟩ := m.transportDbgRom_write hadr hcmd
    exact ⟨rel, by rw [transportDbgRom, h]; rfl⟩
  | mbc5 m =>
    obtain ⟨rel, h⟩ := m.transportDbgRom_write hadr hcmd
    exact ⟨rel, by rw [transportDbgRom, h]; rfl⟩

/-- A window that is not silent answers the debugger, also one that refuses the guest. -/
theorem transportDbgRam_answers (c : Cartridge) {adr : U16} (hadr : adr < 0x2000) (time : I64)
    (ext : Option GbCommand) (hgate : c.ramGate ≠ .silent) :
    ∃ v, Answers (transportDbgRam time) c adr ext v c := by
  cases c with
  | rom m => exact bTransportRam_answers (.rom m) hadr time ext rfl
  | mbc1 m =>
    refine bTransportRam_answers (.mbc1 m) hadr time ext (if_pos ?_)
    exact Bool.eq_true_of_not_eq_false fun hclosed => hgate (by simp [ramGate, hclosed])
  | mbc3 m =>
    refine bTransportRam_answers (.mbc3 m) hadr time ext (if_pos ?_)
    exact Bool.eq_true_of_not_eq_false fun hclosed => hgate (by simp [ramGate, hclosed])
  | mbc5 m =>
    obtain ⟨v, rel, h⟩ := m.ramTransport_answers hadr ext
    refine ⟨v, rel, fun t hcmd ht hext => ?_⟩
    have hle : t.address ≤ 0x1FFF := by bv_omega
    rw [transportDbgRam, Mbc5.transportDbgRam, cAssert_pos hle, ok_bind, h t hcmd ht hext]
    rfl

theorem transportDbgRam_silent (c : Cartridge) {t : Payload} (hadr : t.address < 0x2000)
    (time : I64) (hgate : c.ramGate = .silent) : c.transportDbgRam time t = .ok (t, c) := by
  have hclosed := c.bTransportRam_silent hadr time hgate
  cases c with
  | mbc5 m => cases hopen : m.ramEnabled <;> simp [ramGate, hopen] at hgate
  | rom m => exact hclosed
  | mbc1 m => exact hclosed
  | mbc3 m => exact hclosed

theorem transportDbgRam_write (c : Cartridge) {t : Payload} (hadr : t.address < 0x2000)
    (time : I64) (hcmd : t.command = .write) (hgate : c.ramGate ≠ .silent) : ∃ c',
      c.transportDbgRam time t = .ok ({ t with responseStatus := .ok }, c') ∧
        c'.ramGate = c.ramGate := by
  have hle : t.address ≤ 0x1FFF := by bv_omega
  cases c with
  | rom m =>
    refine ⟨.rom m, ?_, rfl⟩
    have hnot : t.command ≠ .read := by rw [hcmd]; decide
    show (m.bTransportRam t).map _ = _
    rw [Rom.bTransportRam, cAssert_pos (by bv_omega), ok_bind]
    dsimp only
    rw [if_neg hnot]
    rfl
  | mbc1 m =>
    have hopen : m.ramEnabled = true :=
      Bool.eq_true_of_not_eq_false fun hclosed => hgate (by simp [ramGate, hclosed])
    obtain ⟨c', hwrite⟩ : ∃ c', m.ramTransport t = .ok ({ t with responseStatus := .ok }, c') :=
      ⟨_, m.ramTransport_write hcmd ⟨t.address.toNat, hadr⟩ rfl⟩
    refine ⟨.mbc1 { m with toMemoryBankCtrler := c' }, ?_, rfl⟩
    show (m.bTransportRam t).map _ = _
    rw [Mbc1.bTransportRam, cAssert_pos hle, ok_bind, if_pos hopen, hwrite]
    rfl
  | mbc3 m =>
    have hopen : m.ramRtcEnabled = true :=
      Bool.eq_true_of_not_eq_false fun hclosed => hgate (by simp [ramGate, hclosed])
    obtain ⟨c', hwrite⟩ : ∃ c', m.ramTransport t = .ok ({ t with responseStatus := .ok }, c') :=
      ⟨_, m.ramTransport_write hcmd ⟨t.address.toNat, hadr⟩ rfl⟩
    by_cases hrtc : m.rtcMapped = true
    · refine ⟨.mbc3 m, ?_, rfl⟩
      show (m.bTransportRam time t).map _ = _
      rw [Mbc3.bTransportRam, cAssert_pos hle, ok_bind, if_pos hopen, if_pos hrtc]
      dsimp only
      rw [if_pos hcmd]
      rfl
    · refine ⟨.mbc3 { m with toMemoryBankCtrler := c' }, ?_, rfl⟩
      show (m.bTransportRam time t).map _ = _
      rw [Mbc3.bTransportRam, cAssert_pos hle, ok_bind, if_pos hopen, if_neg hrtc, hwrite]
      rfl
  | mbc5 m =>
    obtain ⟨c', hwrite⟩ : ∃ c', m.ramTransport t = .ok ({ t with responseStatus := .ok }, c') :=
      ⟨_, m.ramTransport_write hcmd ⟨t.address.toNat, hadr⟩ rfl⟩
    refine ⟨.mbc5 { m with toMemoryBankCtrler := c' }, ?_, rfl⟩
    rw [transportDbgRam, Mbc5.transportDbgRam, cAssert_pos hle, ok_bind, hwrite]
    rfl

end Cartridge

/-! ## The bus -/

namespace Gb

/-- Only the cartridge tells the debugger from the guest. -/
theorem slaveTransportDbg_eq {slave : Slave} (hrom : slave ≠ .cartridgeRom)
    (hram : slave ≠ .cartridgeRam) (t : Payload) (gb : Gb) :
    gb.slaveTransportDbg slave t = gb.slaveTransport slave t := by
  cases slave with
  | cartridgeRom => exact absurd rfl hrom
  | cartridgeRam => exact absurd rfl hram
  | _ => rfl

/-- A debug transaction at a mapped address is its slave's, up to an OAM DMA. -/
theorem transportDbg_mapped (gb : Gb) {t : Payload} {s : BusSlave}
    (hs : findSlave t.address = some s) : gb.transportDbg t =
      gb.slaveTransportDbg s.socket { t with address := t.address - s.addrFrom } >>= fun r =>
        match r.2.2 with
        | none => pure (r.1, r.2.1)
        | some byte => r.2.1.dmaTransfer byte >>= fun m => pure (r.1, m) := by
  rewrite [transportDbg, hs]
  rfl

theorem transportDbg_unmapped (gb : Gb) {t : Payload} (h : findSlave t.address = none) :
    gb.transportDbg t = .ok ({ t with responseStatus := .addressError }, gb) := by
  rw [transportDbg, h]
  rfl

theorem transportDbg_FF03 (gb : Gb) {t : Payload} (hadr : t.address = 0xFF03) :
    gb.transportDbg t = .error (.assertion "adr < 0x2") := by
  have hs : findSlave t.address = some ⟨0xFF01, 0xFF03, .serial⟩ := by
    rw [hadr]
    decide
  have hadr' : t.address - 0xFF01 = 2 := by bv_omega
  rw [transportDbg_mapped gb hs, slaveTransportDbg_eq (by decide) (by decide), slaveTransport,
    Serial.bTransport_third _ hadr']
  rfl

/-- The address lies in a window that drops accesses and leaves the response status. -/
def Silent (adr : U16) (gb : Gb) : Prop :=
  0xA000 ≤ adr ∧ adr ≤ 0xBFFF ∧ gb.cartridge.ramGate = .silent

instance (adr : U16) (gb : Gb) : Decidable (gb.Silent adr) := by
  unfold Silent
  infer_instance

/-- The response status after a debug read. -/
def readStatus (t : Payload) (gb : Gb) : TlmResponseStatus :=
  if (findSlave t.address).isSome = false then .addressError
  else if gb.Silent t.address then t.responseStatus
  else .ok

/-- The devices after a debug read. -/
def afterDebugRead (adr : U16) (gb : Gb) : Gb :=
  if adr = 0xFF00 then { gb with joyPad := gb.joyPad.readReg } else gb

theorem cartridgeRam_of_range : ∀ s ∈ busSlaveVec, s.addrFrom ≤ 0xBFFF → 0xA000 ≤ s.addrTo →
    s = ⟨0xA000, 0xBFFF, .cartridgeRam⟩ := by decide

/-- A read of `adr` leaves the devices as `gb'`. -/
def SlaveShows (gb gb' : Gb) (slave : Slave) (adr : U16) : Prop :=
  ∀ t : Payload, t.command = .read → t.address = adr → ∃ rel v,
    gb.slaveTransportDbg slave t =
      .ok ({ t with address := rel, data := v, responseStatus := .ok }, gb', none)

theorem slaveShows_of_same {gb : Gb} {slave : Slave} {adr : U16} (hrom : slave ≠ .cartridgeRom)
    (hram : slave ≠ .cartridgeRam) (h : ∀ t : Payload, t.command = .read → t.address = adr →
      ∃ v, gb.slaveTransport slave t =
        .ok ({ t with data := v, responseStatus := .ok }, gb, none)) :
    gb.SlaveShows gb slave adr := by
  intro t hcmd ht
  obtain ⟨v, hv⟩ := h t hcmd ht
  exact ⟨t.address, v, by rw [slaveTransportDbg_eq hrom hram, hv]⟩

theorem plain_shows (gb : Gb) {slave : Slave} {adr : U16} {x : RamCell}
    (hx : slave.cell adr = some x) : gb.SlaveShows gb slave adr := by
  have hplain := (Slave.cell_offset hx).1
  refine slaveShows_of_same ?_ ?_ fun t hcmd ht => ?_
  · rintro rfl
    cases hplain
  · rintro rfl
    cases hplain
  · subst ht
    exact ⟨gb.load x, gb.slaveTransport_read hx hcmd⟩

theorem cartridgeRom_shows (gb : Gb) {adr : U16} (hadr : adr < 0x8000) :
    gb.SlaveShows gb .cartridgeRom adr := by
  intro t hcmd ht
  obtain ⟨rel, h⟩ := gb.cartridge.transportDbgRom_answers hadr t.extension
  exact ⟨rel, _, by rw [slaveTransportDbg, h t hcmd ht rfl]; rfl⟩

theorem cartridgeRam_shows (gb : Gb) {adr : U16} (hadr : adr < 0x2000)
    (hgate : gb.cartridge.ramGate ≠ .silent) : gb.SlaveShows gb .cartridgeRam adr := by
  intro t hcmd ht
  obtain ⟨v, rel, h⟩ := gb.cartridge.transportDbgRam_answers hadr gb.hostTime t.extension hgate
  exact ⟨rel, v, by rw [slaveTransportDbg, h t hcmd ht rfl]; rfl⟩

/-- Every slave answers the debugger in its whole range, but for 0xFF03 and a silent window. -/
theorem slaveShows (gb : Gb) {s : BusSlave} {adr : U16} (hs : findSlave adr = some s)
    (hserial : adr ≠ 0xFF03) (hsilent : ¬ gb.Silent adr) :
    gb.SlaveShows (gb.afterDebugRead adr) s.socket (adr - s.addrFrom) := by
  obtain ⟨hmem, hfrom, hto⟩ := findSlave_eq_some_iff.mp hs
  unfold afterDebugRead
  by_cases hplain : s.socket.isPlain = true
  · have hsize := (plain_ranges s hmem hplain).1
    have hjoy : adr ≠ 0xFF00 := by
      rintro rfl
      have hs' : findSlave 0xFF00 = some ⟨0xFF00, 0xFF00, .joyPad⟩ := by decide
      rw [hs'] at hs
      cases hs
      cases hplain
    obtain ⟨x, hx⟩ := @Slave.cell_of_lt s.socket (adr - s.addrFrom) (by bv_omega)
    rw [if_neg hjoy]
    exact gb.plain_shows hx
  · rcases device_ranges s hmem (Bool.eq_false_of_not_eq_true hplain) with
      rfl | rfl | rfl | rfl | rfl | rfl | rfl | rfl
    · rw [if_neg (by bv_omega)]
      exact gb.cartridgeRom_shows (by bv_omega)
    · rw [if_neg (by bv_omega)]
      exact gb.cartridgeRam_shows (by bv_omega) fun hgate => hsilent ⟨hfrom, hto, hgate⟩
    · obtain rfl : adr = 0xFF00 := by bv_omega
      intro t hcmd ht
      refine ⟨t.address, gb.joyPad.readReg.regP1, ?_⟩
      rw [slaveTransportDbg_eq (by decide) (by decide), slaveTransport,
        gb.joyPad.bTransport_read ht hcmd]
      rfl
    · rw [if_neg (by bv_omega)]
      refine slaveShows_of_same (by decide) (by decide) fun t hcmd ht =>
        ⟨if t.address = 0 then 0xFF else gb.serial.regSc, ?_⟩
      rw [slaveTransport, gb.serial.bTransport_read (by bv_omega) hcmd]
      rfl
    · rw [if_neg (by bv_omega)]
      refine slaveShows_of_same (by decide) (by decide) fun t hcmd ht => ?_
      obtain ⟨v, hv⟩ := @Timer.read_ok gb.timer t.address (by bv_omega)
      refine ⟨v, ?_⟩
      rw [slaveTransport, gb.timer.bTransport_read hv hcmd]
      rfl
    · rw [if_neg (by bv_omega)]
      refine slaveShows_of_same (by decide) (by decide) fun t hcmd ht => ?_
      have hlt : t.address.toNat < 1 := by bv_omega
      refine ⟨gb.regIf.data ⟨t.address.toNat, hlt⟩, ?_⟩
      rw [slaveTransport, gb.regIf.bTransport_read hcmd hlt]
      rfl
    · rw [if_neg (by bv_omega)]
      refine slaveShows_of_same (by decide) (by decide) fun t hcmd ht => ?_
      have hlt : t.address.toNat < 0x80 := by bv_omega
      refine ⟨gb.ioRegisters.readByte ⟨t.address.toNat, hlt⟩, ?_⟩
      rw [slaveTransport, gb.ioRegisters.bTransport_read ⟨t.address.toNat, hlt⟩ rfl hcmd]
      rfl
    · rw [if_neg (by bv_omega)]
      refine slaveShows_of_same (by decide) (by decide) fun t hcmd ht => ?_
      have hlt : t.address.toNat < 1 := by bv_omega
      refine ⟨gb.intrEnable.data ⟨t.address.toNat, hlt⟩, ?_⟩
      rw [slaveTransport, gb.intrEnable.bTransport_read hcmd hlt]
      rfl

/-- A debug read at any address but 0xFF03. -/
theorem transportDbg_read (gb : Gb) {t : Payload} (hcmd : t.command = .read)
    (hserial : t.address ≠ 0xFF03) : ∃ rel v, gb.transportDbg t =
      .ok ({ t with address := rel, data := v, responseStatus := gb.readStatus t },
        gb.afterDebugRead t.address) := by
  unfold readStatus
  cases hs : findSlave t.address with
  | none =>
    have hjoy : t.address ≠ 0xFF00 := by
      intro hadr
      rw [hadr] at hs
      cases hs
    refine ⟨t.address, t.data, ?_⟩
    rw [transportDbg_unmapped gb hs, afterDebugRead, if_neg hjoy]
    rfl
  | some s =>
    rw [if_neg (by simp)]
    obtain ⟨hmem, hfrom, hto⟩ := findSlave_eq_some_iff.mp hs
    by_cases hsilent : gb.Silent t.address
    · obtain ⟨hlo, hhi, hgate⟩ := hsilent
      obtain rfl := cartridgeRam_of_range s hmem (by bv_omega) (by bv_omega)
      have hclosed := @Cartridge.transportDbgRam_silent gb.cartridge
        { t with address := t.address - 0xA000 } (by bv_omega) gb.hostTime hgate
      refine ⟨t.address - 0xA000, t.data, ?_⟩
      rw [if_pos ⟨hlo, hhi, hgate⟩, afterDebugRead, if_neg (by bv_omega), transportDbg_mapped gb hs,
        slaveTransportDbg, hclosed]
      rfl
    · obtain ⟨rel, v, h⟩ := gb.slaveShows hs hserial hsilent
        { t with address := t.address - s.addrFrom } hcmd rfl
      refine ⟨rel, v, ?_⟩
      rw [if_neg hsilent, transportDbg_mapped gb hs, h]
      rfl

/-! ### Writes -/

/-- A debug write that the bus carries out. -/
def DebugWritable (adr : U16) (v : U8) (gb : Gb) : Prop :=
  (findSlave adr).isSome = true ∧ adr ≠ 0xFF03 ∧ ¬ (adr = 0xFF46 ∧ gb.DmaFaults v)

instance (adr : U16) (v : U8) (gb : Gb) : Decidable (gb.DebugWritable adr v) := by
  unfold DebugWritable
  infer_instance

/-- Whether a write is carried out depends on the devices by the gate of the external RAM only. -/
theorem debugWritable_congr {gb gb' : Gb} (hgate : gb'.cartridge.ramGate = gb.cartridge.ramGate)
    (adr : U16) (v : U8) : gb'.DebugWritable adr v ↔ gb.DebugWritable adr v := by
  unfold DebugWritable DmaFaults
  rw [hgate]

/-- The response status after a debug write that is carried out. -/
def writeStatus (t : Payload) (gb : Gb) : TlmResponseStatus :=
  if gb.Silent t.address then t.responseStatus else .ok

/-- A debug write is its slave's, and the gate of the external RAM stays. -/
theorem slaveTransportDbg_write (gb : Gb) {t : Payload} {s : BusSlave}
    (hs : findSlave t.address = some s) (hcmd : t.command = .write)
    (hserial : t.address ≠ 0xFF03) : ∃ t' gb',
      gb.slaveTransportDbg s.socket { t with address := t.address - s.addrFrom } =
        .ok (t', gb', if t.address = 0xFF46 then some t.data else none) ∧
      t'.responseStatus = gb.writeStatus t ∧
      gb'.cartridge.ramGate = gb.cartridge.ramGate := by
  obtain ⟨hmem, hfrom, hto⟩ := findSlave_eq_some_iff.mp hs
  unfold writeStatus
  by_cases hrom : s.socket = .cartridgeRom
  · obtain rfl : s = ⟨0x0000, 0x7FFF, .cartridgeRom⟩ := by
      have honly : ∀ s ∈ busSlaveVec, s.socket = .cartridgeRom →
          s = ⟨0x0000, 0x7FFF, .cartridgeRom⟩ := by decide
      exact honly s hmem hrom
    have hadr : t.address - 0x0000 < 0x8000 := by bv_omega
    obtain ⟨rel, b, h⟩ : ∃ rel b, gb.cartridge.transportDbgRom
        { t with address := t.address - 0x0000 } =
        .ok ({ t with address := rel, responseStatus := .ok }, gb.cartridge.putRom b t.data) := by
      obtain ⟨rel, h⟩ := @Cartridge.transportDbgRom_write gb.cartridge
        { t with address := t.address - 0x0000 } hadr hcmd
      exact ⟨rel, _, h⟩
    have hnot : ¬ gb.Silent t.address := by
      rintro ⟨hlo, -, -⟩
      bv_omega
    refine ⟨{ t with address := rel, responseStatus := .ok },
      { gb with cartridge := gb.cartridge.putRom b t.data }, ?_, ?_,
      Cartridge.ramGate_putRom b t.data gb.cartridge⟩
    · rw [slaveTransportDbg, h, if_neg (by bv_omega)]
      rfl
    · rw [if_neg hnot]
  by_cases hram : s.socket = .cartridgeRam
  · obtain rfl : s = ⟨0xA000, 0xBFFF, .cartridgeRam⟩ := by
      have honly : ∀ s ∈ busSlaveVec, s.socket = .cartridgeRam →
          s = ⟨0xA000, 0xBFFF, .cartridgeRam⟩ := by decide
      exact honly s hmem hram
    by_cases hgate : gb.cartridge.ramGate = .silent
    · have h := @Cartridge.transportDbgRam_silent gb.cartridge
        { t with address := t.address - 0xA000 } (by bv_omega) gb.hostTime hgate
      refine ⟨{ t with address := t.address - 0xA000 }, gb, ?_, ?_, rfl⟩
      · rw [slaveTransportDbg, h, if_neg (by bv_omega)]
        rfl
      · rw [if_pos ⟨hfrom, hto, hgate⟩]
    · obtain ⟨cartridge, h, hsame⟩ := @Cartridge.transportDbgRam_write gb.cartridge
        { t with address := t.address - 0xA000 } (by bv_omega) gb.hostTime hcmd hgate
      refine ⟨{ t with address := t.address - 0xA000, responseStatus := .ok },
        { gb with cartridge }, ?_, ?_, hsame⟩
      · rw [slaveTransportDbg, h, if_neg (by bv_omega)]
        rfl
      · rw [if_neg fun hsilent => hgate hsilent.2.2]
  have hnot : ¬ gb.Silent t.address := by
    rintro ⟨hlo, hhi, -⟩
    obtain rfl := cartridgeRam_of_range s hmem (by bv_omega) (by bv_omega)
    exact hram rfl
  obtain ⟨t', gb', h, hstatus, hcart⟩ := gb.slaveTakes hs hrom hram hserial t.data
    { t with address := t.address - s.addrFrom } hcmd rfl rfl
  refine ⟨t', gb', ?_, ?_, congrArg Cartridge.ramGate hcart⟩
  · rw [slaveTransportDbg_eq hrom hram, h]
    exact congrArg (fun d => Except.ok (t', gb', d)) (if_congr (startsDma_iff hs) rfl rfl)
  · rw [if_neg hnot]
    exact hstatus

theorem transportDbg_write (gb : Gb) {t : Payload} (hcmd : t.command = .write)
    (h : gb.DebugWritable t.address t.data) : ∃ t' gb', gb.transportDbg t = .ok (t', gb') ∧
      t'.responseStatus = gb.writeStatus t ∧ gb'.cartridge.ramGate = gb.cartridge.ramGate := by
  obtain ⟨hmapped, hserial, hdma⟩ := h
  obtain ⟨s, hs⟩ := Option.isSome_iff_exists.mp hmapped
  obtain ⟨t', m, hslave, hstatus, hgate⟩ := gb.slaveTransportDbg_write hs hcmd hserial
  by_cases h46 : t.address = 0xFF46
  · have hfree : ¬ m.DmaFaults t.data := by
      intro hfault
      refine hdma ⟨h46, ?_⟩
      unfold DmaFaults at hfault ⊢
      rwa [hgate] at hfault
    obtain ⟨gb', hcopy, hgate'⟩ := dmaTransfer_ok hfree
    refine ⟨t', gb', ?_, hstatus, hgate'.trans hgate⟩
    rw [transportDbg_mapped gb hs, hslave, if_pos h46]
    show (m.dmaTransfer t.data >>= fun m => pure (t', m)) = _
    rw [hcopy]
    rfl
  · refine ⟨t', m, ?_, hstatus, hgate⟩
    rw [transportDbg_mapped gb hs, hslave, if_neg h46]
    rfl

/-- A debug write that is not carried out fails, or gets an address error. -/
theorem transportDbg_not_writable (gb : Gb) {t : Payload} (hcmd : t.command = .write)
    (h : ¬ gb.DebugWritable t.address t.data) {r : Payload × Gb}
    (hok : gb.transportDbg t = .ok r) : r.1.responseStatus = .addressError := by
  cases hs : findSlave t.address with
  | none =>
    rw [transportDbg_unmapped gb hs] at hok
    cases hok
    rfl
  | some s =>
    by_cases hserial : t.address = 0xFF03
    · rw [gb.transportDbg_FF03 hserial] at hok
      cases hok
    · have hfault : t.address = 0xFF46 ∧ gb.DmaFaults t.data := by
        by_contra hnot
        exact h ⟨by rw [hs]; rfl, hserial, hnot⟩
      obtain ⟨t', m, hslave, -, hgate⟩ := gb.slaveTransportDbg_write hs hcmd hserial
      rw [transportDbg_mapped gb hs, hslave, if_pos hfault.1] at hok
      change (m.dmaTransfer t.data >>= fun m' => pure (t', m')) = _ at hok
      obtain ⟨m', hcopy, -⟩ := StateExcept.except_bind_eq_ok hok
      refine absurd hcopy (dmaTransfer_error ?_)
      have hsame := hfault.2
      unfold DmaFaults at hsame ⊢
      rwa [hgate]

end Gb

/-! ## The CPU -/

namespace GdbServer

/-- The devices of a system with a client. -/
def devices (c : Cpu (Linked (Timed Gb))) : Gb := c.initSocket.sys.sys.dev

/-- The CPU with another payload and other devices. -/
def withDevices (payload : Payload) (dev : Gb) (c : Cpu (Linked (Timed Gb))) :
    Cpu (Linked (Timed Gb)) :=
  { c with initSocket := { c.initSocket with
    payload, sys := { c.initSocket.sys with sys := { c.initSocket.sys.sys with dev } } } }

/-- The payload of `ReadBusDebug` and of `WriteBusDebug`. -/
def debugPayload (command : TlmCommand) (addr : U16) (data : U8) (c : Cpu (Linked (Timed Gb))) :
    Payload :=
  { c.initSocket.payload with command, address := addr, data, extension := some c.initSocket.gbcmd }

theorem readBusDebug_apply (addr : U16) (c : Cpu (Linked (Timed Gb))) :
    (Cpu.readBusDebug addr : GdbM (Timed Gb) U8) c =
      ((devices c).transportDbg (debugPayload .read addr (devices c).stackByte c)).map fun r =>
        (if r.1.responseStatus.isResponseError then 0 else r.1.data, withDevices r.1 r.2 c) := by
  show (((devices c).transportDbg (debugPayload .read addr (devices c).stackByte c)).map _).map _
    >>= _ = _
  cases (devices c).transportDbg (debugPayload .read addr (devices c).stackByte c) with
  | error e => rfl
  | ok r => rfl

theorem writeBusDebug_apply (addr : U16) (v : U8) (c : Cpu (Linked (Timed Gb))) :
    (Cpu.writeBusDebug addr v : GdbM (Timed Gb) Unit) c =
      (devices c).transportDbg (debugPayload .write addr v c) >>= fun r =>
        if r.1.responseStatus.isResponseError then
          .error (.uncaught "sc_core::sc_report" "Response error from b_transport")
        else .ok ((), withDevices r.1 r.2 c) := by
  show (((devices c).transportDbg (debugPayload .write addr v c)).map _).map _ >>= _ = _
  cases (devices c).transportDbg (debugPayload .write addr v c) with
  | error e => rfl
  | ok r =>
    by_cases herr : r.1.responseStatus.isResponseError = true
    · simp only [Except.map, ok_bind, herr, if_true]
      rfl
    · simp only [Except.map, ok_bind, herr]
      rfl

end GdbServer

end TlmBoy
