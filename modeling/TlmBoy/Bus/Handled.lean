import TlmBoy.Bus.Reads

/-
  Every mapped address is handled by its slave, with two exceptions.

  The bus table gives `Serial` the three addresses 0xFF01-0xFF03, and `Serial` asserts
  `adr < 0x2`: both a read and a write of 0xFF03 end the emulator. A write to 0xFF46 copies
  160 bytes over the bus, so it fails where one of these reads does: in the page of 0xFF03, and
  in the external RAM of an `Mbc5` that refuses it. `handled_iff` says that nothing else fails.
-/

namespace TlmBoy

namespace Gb

/-! ## Reads and writes that the bus carries out -/

/-- A read that nothing asserts against succeeds, and changes at most the tracer and P1. -/
theorem routeTransport_read_ok (gb : Gb) {t : Payload} (hcmd : t.command = .read)
    (hserial : t.address ≠ 0xFF03)
    (hgate : 0xA000 ≤ t.address → t.address ≤ 0xBFFF → gb.cartridge.ramGate ≠ .refuses) :
    ∃ t' tracer j, gb.routeTransport t = .ok (t', gb.afterRead tracer j, none) ∧
      t'.command = .read := by
  by_cases hmapped : (findSlave t.address).isSome = true
  · by_cases hsilent : (0xA000 ≤ t.address ∧ t.address ≤ 0xBFFF) ∧ gb.cartridge.ramGate = .silent
    · obtain ⟨⟨hlo, hhi⟩, hsilent⟩ := hsilent
      refine ⟨{ t with address := t.address - 0xA000 }, gb.cartridge.symfileTracer, gb.joyPad, ?_,
        hcmd⟩
      rw [afterRead_self]
      exact gb.routeTransport_silent hlo hhi hsilent
    · have hopen : 0xA000 ≤ t.address → t.address ≤ 0xBFFF → gb.cartridge.ramGate = .answers := by
        intro hlo hhi
        cases hg : gb.cartridge.ramGate with
        | answers => rfl
        | silent => exact absurd ⟨⟨hlo, hhi⟩, hg⟩ hsilent
        | refuses => exact absurd hg (hgate hlo hhi)
      obtain ⟨v, tracer, j, rel, h⟩ :=
        gb.routeTransport_answers hmapped hserial hopen t.extension
      exact ⟨_, tracer, j, h t hcmd rfl rfl, hcmd⟩
  · refine ⟨{ t with responseStatus := .addressError }, gb.cartridge.symfileTracer, gb.joyPad, ?_,
      hcmd⟩
    rw [afterRead_self]
    exact gb.routeTransport_unmapped (Option.not_isSome_iff_eq_none.mp hmapped)

/-- A write into plain memory. -/
theorem routeTransport_write_ram (gb : Gb) {t : Payload} {x : RamCell}
    (hx : ramCell t.address = some x) (hcmd : t.command = .write) :
    ∃ adr, gb.routeTransport t =
      .ok ({ t with address := adr, responseStatus := .ok }, gb.store x t.data, none) := by
  obtain ⟨s, hs, hcell⟩ := Option.bind_eq_some_iff.mp hx
  refine ⟨t.address - s.addrFrom, ?_⟩
  rw [routeTransport_mapped gb hs]
  exact @slaveTransport_write gb s.socket { t with address := t.address - s.addrFrom } x hcell hcmd

/-! ## OAM DMA -/

/-- An OAM DMA from page `byte` reads 0xFF03, or an external RAM that refuses the read. -/
def DmaFaults (byte : U8) (gb : Gb) : Prop :=
  byte = 0xFF ∨ (0xA0 ≤ byte ∧ byte ≤ 0xBF ∧ gb.cartridge.ramGate = .refuses)

instance (byte : U8) (gb : Gb) : Decidable (gb.DmaFaults byte) := by
  unfold DmaFaults
  infer_instance

/-- The source address of round `i`. -/
theorem dma_source (byte : U8) {i : Nat} (hi : i < 0xA0) :
    (byte.setWidth 16 <<< 8 + BitVec.ofNat 16 i).toNat = byte.toNat * 256 + i := by
  have hbyte := byte.isLt
  rw [BitVec.toNat_add, BitVec.toNat_shiftLeft, BitVec.toNat_setWidth, BitVec.toNat_ofNat,
    Nat.shiftLeft_eq]
  omega

/-- The payloads keep their commands, and the external RAM its gate. -/
def DmaReady (gate : RamGate) (s : Payload × Payload × Gb) : Prop :=
  s.1.command = .read ∧ s.2.1.command = .write ∧ s.2.2.cartridge.ramGate = gate

/-- One round reads its source and stores the byte in OAM. -/
theorem dmaStep_ok {gb : Gb} {byte : U8} (hfree : ¬ gb.DmaFaults byte)
    {s : Payload × Payload × Gb} (hs : DmaReady gb.cartridge.ramGate s) {i : Nat} (hi : i < 0xA0) :
    ∃ s', dmaStep (byte.setWidth 16 <<< 8) s i = .ok s' ∧ DmaReady gb.cartridge.ramGate s' := by
  obtain ⟨rp, wp, m⟩ := s
  obtain ⟨hr, hw, hg⟩ := hs
  have hsrc := dma_source byte hi
  have hbyte := byte.isLt
  obtain ⟨rp', tracer, j, hread, hr'⟩ := @routeTransport_read_ok m
    { rp with address := byte.setWidth 16 <<< 8 + BitVec.ofNat 16 i } hr
    (fun h => hfree (.inl (by bv_omega)))
    (fun hlo hhi hgate => hfree (.inr ⟨by bv_omega, by bv_omega, hg ▸ hgate⟩))
  obtain ⟨x, hx⟩ := @ramCell_of_inRam (0xFE00 + BitVec.ofNat 16 i)
    (.inr (.inr (.inr (.inl (by bv_omega)))))
  obtain ⟨adr, hwrite⟩ := @routeTransport_write_ram (m.afterRead tracer j)
    { wp with address := 0xFE00 + BitVec.ofNat 16 i, data := rp'.data } x hx hw
  refine ⟨(rp', { wp with address := adr, data := rp'.data, responseStatus := .ok },
    (m.afterRead tracer j).store x rp'.data), ?_, hr', hw, ?_⟩
  · rw [dmaStep]
    simp only [hread, hwrite, ok_bind, pure_eq_ok]
  · have hsame := (store_sameDevices x rp'.data (m.afterRead tracer j)).cartridge
    dsimp only
    rw [hsame, ← hg]
    exact m.cartridge.withTracer_ramGate tracer

theorem dmaTransfer_ok {gb : Gb} {byte : U8} (hfree : ¬ gb.DmaFaults byte) :
    ∃ gb', gb.dmaTransfer byte = .ok gb' ∧ gb'.cartridge.ramGate = gb.cartridge.ramGate := by
  have hinit : DmaReady gb.cartridge.ramGate
      ({ command := .read, data := gb.stackByte }, { command := .write }, gb) := ⟨rfl, rfl, rfl⟩
  obtain ⟨s, hs, hready⟩ := History.run_total (· < 0xA0) (fun _ => DmaReady gb.cartridge.ramGate)
    hinit (fun _ s i hi hs => dmaStep_ok hfree hs hi) (List.range 0xA0)
    fun i hi => List.mem_range.mp hi
  refine ⟨s.2.2, ?_, hready.2.2⟩
  rw [dmaTransfer, hs]
  rfl

/-- The first read of a refused page fails, and the fourth one of page 0xFF. -/
theorem dmaTransfer_error {gb gb' : Gb} {byte : U8} (hfault : gb.DmaFaults byte) :
    gb.dmaTransfer byte ≠ .ok gb' := by
  intro hok
  obtain ⟨s, hrun, -⟩ := StateExcept.except_bind_eq_ok hok
  rcases hfault with rfl | ⟨hlo, hhi, hg⟩
  · have hsplit : List.range 0xA0 = List.range 3 ++ 3 :: List.range' 4 0x9C := by decide
    rw [hsplit] at hrun
    obtain ⟨⟨rp, wp, m⟩, m', -, hstep⟩ := History.run_at hrun
    have hread := @routeTransport_FF03 m { rp with
      address := (0xFF : U8).setWidth 16 <<< 8 + BitVec.ofNat 16 3 }
      (show (0xFF : U8).setWidth 16 <<< 8 + BitVec.ofNat 16 3 = 0xFF03 by decide)
    rw [dmaStep] at hstep
    simp only [hread] at hstep
    cases hstep
  · have hsplit : List.range 0xA0 = [] ++ 0 :: List.range' 1 0x9F := by decide
    rw [hsplit] at hrun
    obtain ⟨m, m', hnil, hstep⟩ := History.run_at hrun
    cases hnil
    have hsrc := @dma_source byte 0 (by decide)
    have hread := @routeTransport_refuses gb
      { command := .read, address := byte.setWidth 16 <<< 8 + BitVec.ofNat 16 0,
        data := gb.stackByte } (by bv_omega) (by bv_omega) hg
    rw [dmaStep] at hstep
    simp only [hread] at hstep
    cases hstep

/-! ## Guest accesses -/

/-- Every guest read of `adr` gives one and the same byte with an OK response. -/
def ReadHandled (gb : Gb) (adr : U16) : Prop :=
  ∀ ext, ∃ v gb', ∀ t : Payload, t.command = .read → t.address = adr → t.extension = ext →
    ∃ t', gb.bTransport t = .ok (t', gb') ∧ t'.responseStatus = .ok ∧ t'.data = v

/-- Every guest write of `v` to `adr` gets an OK response. -/
def WriteHandled (gb : Gb) (adr : U16) (v : U8) : Prop :=
  ∀ t : Payload, t.command = .write → t.address = adr → t.data = v →
    ∃ t' gb', gb.bTransport t = .ok (t', gb') ∧ t'.responseStatus = .ok

theorem readHandled {gb : Gb} {adr : U16} {s : BusSlave} (hs : findSlave adr = some s)
    (hram : s.socket ≠ .cartridgeRam) (hserial : adr ≠ 0xFF03) : gb.ReadHandled adr := by
  intro ext
  obtain ⟨v, tracer, j, rel, h⟩ := gb.slaveAnswers hs hserial (fun h => absurd h hram) ext
  refine ⟨v, gb.afterRead tracer j, fun t hcmd ht hext => ?_⟩
  subst ht
  refine ⟨{ t with address := rel, data := v, responseStatus := .ok }, bTransport_of_route ?_, rfl,
    rfl⟩
  rw [routeTransport_mapped gb hs]
  exact h { t with address := t.address - s.addrFrom } hcmd rfl hext

theorem not_readHandled (gb : Gb) : ¬ gb.ReadHandled 0xFF03 := by
  intro h
  obtain ⟨v, gb', h⟩ := h none
  obtain ⟨t', hok, -⟩ := h { command := .read, address := 0xFF03 } rfl rfl rfl
  rw [bTransport, gb.routeTransport_FF03 rfl] at hok
  cases hok

/-- A slave takes a write with an OK response, and starts a DMA at most from 0xFF46. -/
def SlaveTakes (gb : Gb) (slave : Slave) (adr : U16) (v : U8) : Prop :=
  ∀ t : Payload, t.command = .write → t.address = adr → t.data = v → ∃ t' gb',
    gb.slaveTransport slave t =
        .ok (t', gb', if slave = .ioRegisters ∧ adr = 0x36 then some v else none) ∧
      t'.responseStatus = .ok ∧ gb'.cartridge = gb.cartridge

theorem slaveTakes_of_plain (gb : Gb) {slave : Slave} {adr : U16} {x : RamCell}
    (hx : slave.cell adr = some x) (v : U8) : gb.SlaveTakes slave adr v := by
  intro t hcmd ht hv
  subst ht
  have hplain := (Slave.cell_offset hx).1
  refine ⟨{ t with responseStatus := .ok }, gb.store x t.data, ?_, rfl,
    (store_sameDevices x t.data gb).cartridge⟩
  rw [gb.slaveTransport_write hx hcmd, if_neg]
  rintro ⟨rfl, -⟩
  cases hplain

theorem joyPad_takes (gb : Gb) (v : U8) : gb.SlaveTakes .joyPad 0 v := by
  intro t hcmd ht _
  refine ⟨{ t with responseStatus := .ok }, { gb with joyPad := gb.joyPad.writeReg t.data }, ?_,
    rfl, rfl⟩
  rw [slaveTransport, gb.joyPad.bTransport_write ht hcmd]
  rfl

theorem serial_takes (gb : Gb) {adr : U16} (hadr : adr < 2) (v : U8) :
    gb.SlaveTakes .serial adr v := by
  intro t hcmd ht _
  subst ht
  obtain ⟨serial, hwrite⟩ := gb.serial.bTransport_write hadr hcmd
  refine ⟨{ t with responseStatus := .ok }, { gb with serial }, ?_, rfl, rfl⟩
  rw [slaveTransport, hwrite]
  rfl

theorem timer_takes (gb : Gb) {adr : U16} (hadr : adr < 4) (v : U8) :
    gb.SlaveTakes .timer adr v := by
  intro t hcmd ht _
  subst ht
  obtain ⟨timer, hwrite⟩ := gb.timer.bTransport_write hadr hcmd
  refine ⟨{ t with responseStatus := .ok }, { gb with timer }, ?_, rfl, rfl⟩
  rw [slaveTransport, hwrite]
  rfl

theorem regIf_takes (gb : Gb) {adr : U16} (hadr : adr < 1) (v : U8) :
    gb.SlaveTakes .regIf adr v := by
  intro t hcmd ht _
  subst ht
  have hwrite := gb.regIf.bTransport_write hcmd hadr
  refine ⟨{ t with responseStatus := .ok }, { gb with
    regIf := ⟨Function.update gb.regIf.data ⟨t.address.toNat, hadr⟩ t.data⟩ }, ?_, rfl, rfl⟩
  rw [slaveTransport, hwrite]
  rfl

theorem intrEnable_takes (gb : Gb) {adr : U16} (hadr : adr < 1) (v : U8) :
    gb.SlaveTakes .intrEnable adr v := by
  intro t hcmd ht _
  subst ht
  have hwrite := gb.intrEnable.bTransport_write hcmd hadr
  refine ⟨{ t with responseStatus := .ok }, { gb with
    intrEnable := ⟨Function.update gb.intrEnable.data ⟨t.address.toNat, hadr⟩ t.data⟩ },
    ?_, rfl, rfl⟩
  rw [slaveTransport, hwrite]
  rfl

theorem ioRegisters_takes (gb : Gb) {adr : U16} (hadr : adr < 0x80) (v : U8) :
    gb.SlaveTakes .ioRegisters adr v := by
  intro t hcmd ht hv
  subst ht
  obtain ⟨signals, hwrite⟩ :=
    gb.ioRegisters.bTransport_write ⟨t.address.toNat, hadr⟩ rfl hcmd
  have h36 : t.address.toNat = 0x36 ↔ Slave.ioRegisters = .ioRegisters ∧ t.address = 0x36 := by
    rw [eq_self_iff_true, true_and]
    bv_omega
  refine ⟨{ t with responseStatus := .ok }, { gb with ioRegisters := { gb.ioRegisters with
    data := gb.ioRegisters.writtenData ⟨t.address.toNat, hadr⟩ t.data, signals } }, ?_, rfl, rfl⟩
  rw [slaveTransport, hwrite, ← if_congr h36 rfl rfl, ← hv]
  rfl

/-- Every slave but the cartridge takes a write in its whole range, but for 0xFF03. -/
theorem slaveTakes (gb : Gb) {s : BusSlave} {adr : U16} (hs : findSlave adr = some s)
    (hrom : s.socket ≠ .cartridgeRom) (hram : s.socket ≠ .cartridgeRam)
    (hserial : adr ≠ 0xFF03) (v : U8) : gb.SlaveTakes s.socket (adr - s.addrFrom) v := by
  obtain ⟨hmem, hfrom, hto⟩ := findSlave_eq_some_iff.mp hs
  by_cases hplain : s.socket.isPlain = true
  · have hsize := (plain_ranges s hmem hplain).1
    obtain ⟨x, hx⟩ := @Slave.cell_of_lt s.socket (adr - s.addrFrom) (by bv_omega)
    exact gb.slaveTakes_of_plain hx v
  · rcases device_ranges s hmem (Bool.eq_false_of_not_eq_true hplain) with
      rfl | rfl | rfl | rfl | rfl | rfl | rfl | rfl
    · exact absurd rfl hrom
    · exact absurd rfl hram
    · obtain rfl : adr = 0xFF00 := by bv_omega
      exact gb.joyPad_takes v
    · exact gb.serial_takes (by bv_omega) v
    · exact gb.timer_takes (by bv_omega) v
    · exact gb.regIf_takes (by bv_omega) v
    · exact gb.ioRegisters_takes (by bv_omega) v
    · exact gb.intrEnable_takes (by bv_omega) v

/-- The register 0xFF46 and no other address of the bus starts a DMA. -/
theorem startsDma_iff {s : BusSlave} {adr : U16} (hs : findSlave adr = some s) :
    (s.socket = .ioRegisters ∧ adr - s.addrFrom = 0x36) ↔ adr = 0xFF46 := by
  obtain ⟨hmem, hfrom, hto⟩ := findSlave_eq_some_iff.mp hs
  constructor
  · rintro ⟨hio, hadr⟩
    have hrange : s.addrFrom = 0xFF10 := ioRegisters_range s hmem hio
    rw [hrange] at hadr
    bv_omega
  · rintro rfl
    have hs' : findSlave 0xFF46 = some ⟨0xFF10, 0xFF7F, .ioRegisters⟩ := by decide
    rw [hs'] at hs
    cases hs
    decide

theorem writeHandled_iff {gb : Gb} {s : BusSlave} {adr : U16} (hs : findSlave adr = some s)
    (hrom : s.socket ≠ .cartridgeRom) (hram : s.socket ≠ .cartridgeRam)
    (hserial : adr ≠ 0xFF03) (v : U8) :
    gb.WriteHandled adr v ↔ ¬ (adr = 0xFF46 ∧ gb.DmaFaults v) := by
  have hroute : ∀ t : Payload, t.command = .write → t.address = adr → t.data = v → ∃ t' gb',
      gb.routeTransport t = .ok (t', gb', if adr = 0xFF46 then some v else none) ∧
        t'.responseStatus = .ok ∧ gb'.cartridge = gb.cartridge := by
    intro t hcmd ht hv
    subst ht
    obtain ⟨t', gb', hok, hstatus, hcart⟩ := gb.slaveTakes hs hrom hram hserial v
      { t with address := t.address - s.addrFrom } hcmd rfl hv
    refine ⟨t', gb', ?_, hstatus, hcart⟩
    rw [routeTransport_mapped gb hs, hok]
    exact congrArg (fun d => Except.ok (t', gb', d)) (if_congr (startsDma_iff hs) rfl rfl)
  have hfaults : ∀ m : Gb, m.cartridge = gb.cartridge → (m.DmaFaults v ↔ gb.DmaFaults v) := by
    intro m hcart
    unfold DmaFaults
    rw [hcart]
  by_cases h46 : adr = 0xFF46
  · constructor
    · rintro hhandled ⟨-, hfault⟩
      obtain ⟨t', gb', hok, -⟩ :=
        hhandled { command := .write, address := adr, data := v } rfl rfl rfl
      obtain ⟨r, m, hr, -, hcart⟩ :=
        hroute { command := .write, address := adr, data := v } rfl rfl rfl
      rw [bTransport, hr, if_pos h46, ok_bind] at hok
      obtain ⟨m', hdma, -⟩ := StateExcept.except_bind_eq_ok hok
      exact dmaTransfer_error ((hfaults m hcart).mpr hfault) hdma
    · intro hfree t hcmd ht hv
      obtain ⟨t', m, hr, hstatus, hcart⟩ := hroute t hcmd ht hv
      obtain ⟨gb', hdma, -⟩ := @dmaTransfer_ok m v
        fun hfault => hfree ⟨h46, (hfaults m hcart).mp hfault⟩
      refine ⟨t', gb', ?_, hstatus⟩
      rw [bTransport, hr, if_pos h46]
      dsimp only [ok_bind]
      rw [hdma]
      rfl
  · refine iff_of_true (fun t hcmd ht hv => ?_) fun h => h46 h.1
    obtain ⟨t', gb', hr, hstatus, -⟩ := hroute t hcmd ht hv
    rw [if_neg h46] at hr
    exact ⟨t', gb', bTransport_of_route hr, hstatus⟩

/-- Every address outside the cartridge is handled, in every state of the devices, exactly when
    it is not the third one of `Serial` and the write starts no DMA that fails. -/
theorem handled_iff (gb : Gb) (s : BusSlave) (adr : U16) (v : U8) (hs : findSlave adr = some s)
    (hrom : s.socket ≠ .cartridgeRom) (hram : s.socket ≠ .cartridgeRam) :
    (gb.ReadHandled adr ∧ gb.WriteHandled adr v) ↔
      adr ≠ 0xFF03 ∧ ¬ (adr = 0xFF46 ∧ gb.DmaFaults v) := by
  by_cases hserial : adr = 0xFF03
  · refine iff_of_false ?_ fun h => h.1 hserial
    subst hserial
    exact fun h => gb.not_readHandled h.1
  · rw [writeHandled_iff hs hrom hram hserial]
    exact and_congr_left' (iff_of_true (readHandled hs hram hserial) hserial)

/-- The LCD control register, after power-on. -/
theorem lcdc_handled : (powerOn .blank).ReadHandled 0xFF40 ∧
    (powerOn .blank).WriteHandled 0xFF40 0x91 :=
  (handled_iff (powerOn .blank) ⟨0xFF10, 0xFF7F, .ioRegisters⟩ 0xFF40 0x91 (by decide) (by decide)
    (by decide)).mpr ⟨by decide, fun h => absurd h.1 (by decide)⟩

/-- A read of 0xFF03 right after power-on fails the assertion of `Serial`. -/
theorem serial_third_address : ¬ ∀ (gb : Gb) (s : BusSlave) (adr : U16) (v : U8),
    findSlave adr = some s → s.socket ≠ .cartridgeRom → s.socket ≠ .cartridgeRam →
      gb.ReadHandled adr ∧ gb.WriteHandled adr v := by
  intro h
  have hread := (h (powerOn .blank) ⟨0xFF01, 0xFF03, .serial⟩ 0xFF03 0 (by decide) (by decide)
    (by decide)).1
  exact not_readHandled _ hread

end Gb

end TlmBoy
