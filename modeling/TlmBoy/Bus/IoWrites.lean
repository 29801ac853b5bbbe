import TlmBoy.Bus.Handled

/-
  What a bus transaction does to the registers of `IoRegisters`.

  Only a write into 0xFF10-0xFF7F reaches them. An OAM DMA reads and writes OAM, so the one that
  a write to 0xFF46 starts leaves them alone. From 0xFF30 on a write touches its own register
  and no other one.
-/

namespace TlmBoy

namespace IoRegisters

/-- A power-off of the APU clears registers below 0xFF30 only. -/
theorem afterPowerOff_data {k : Fin 0x80} (hk : 0x20 ≤ k.val) (i : Fin 0x80) (v : U8)
    (io : IoRegisters) : (io.afterPowerOff i v).data k = io.data k := by
  unfold afterPowerOff
  split_ifs
  · exact if_neg fun h => by omega
  · rfl

theorem storedData_of_ne {i k : Fin 0x80} (hne : k ≠ i) (v : U8) (io : IoRegisters) :
    io.storedData i v k = io.data k := by
  unfold storedData
  cases io.stored i v with
  | none => rfl
  | some b => exact Function.update_of_ne hne b io.data

/-- A write leaves the other registers from 0xFF30 on alone. -/
theorem writtenData_of_ne {i k : Fin 0x80} (hk : 0x20 ≤ k.val) (hne : k ≠ i) (v : U8)
    (io : IoRegisters) : io.writtenData i v k = io.data k := by
  rw [← io.afterPowerOff_data hk i v, writtenData]
  split_ifs
  · rfl
  · exact storedData_of_ne hne v _

/-- A register from 0xFF30 on holds what a write stores there. -/
theorem writtenData_self {i : Fin 0x80} {v b : U8} (hi : 0x20 ≤ i.val) {io : IoRegisters}
    (hstored : (io.afterPowerOff i v).stored i v = some b) : io.writtenData i v i = b := by
  have hkept : ¬ (io.afterPowerOff i v).Ignores i := fun h => absurd h.1 (by omega)
  rw [writtenData, if_neg hkept, storedData, hstored]
  exact Function.update_self ..

/-- Only a write changes the registers. -/
theorem bTransport_data {io io' : IoRegisters} {t t' : Payload} {dma : Option U8} {i : Fin 0x80}
    (hadr : t.address.toNat = i.val) (h : io.bTransport t = .ok (t', io', dma)) :
    (t.command ≠ .write ∧ io'.data = io.data) ∨
      (t.command = .write ∧ io'.data = io.writtenData i t.data) := by
  cases hcmd : t.command with
  | read =>
    rw [io.bTransport_read i hadr hcmd] at h
    cases h
    exact .inl ⟨by decide, rfl⟩
  | ignore =>
    rw [bTransport, hcmd] at h
    cases h
    exact .inl ⟨by decide, rfl⟩
  | write =>
    obtain ⟨signals, hok⟩ := io.bTransport_write i hadr hcmd
    rw [hok] at h
    cases h
    exact .inr ⟨rfl, rfl⟩

end IoRegisters

namespace Gb

/-! ## Transactions that write no register -/

theorem routeTransport_elsewhere {gb gb' : Gb} {t t' : Payload} {dma : Option U8}
    (hadr : ¬ (0xFF10 ≤ t.address ∧ t.address ≤ 0xFF7F))
    (h : gb.routeTransport t = .ok (t', gb', dma)) :
    gb'.ioRegisters = gb.ioRegisters ∧ dma = none := by
  cases hs : findSlave t.address with
  | none =>
    rw [routeTransport_unmapped gb hs] at h
    cases h
    exact ⟨rfl, rfl⟩
  | some s =>
    rw [routeTransport_mapped gb hs] at h
    obtain ⟨hmem, hin⟩ := findSlave_eq_some_iff.mp hs
    cases hsocket : s.socket with
    | ioRegisters =>
      have hrange : ∀ s ∈ busSlaveVec, s.socket = .ioRegisters →
          s.addrFrom = 0xFF10 ∧ s.addrTo = 0xFF7F := by decide
      obtain ⟨hfrom, hto⟩ := hrange s hmem hsocket
      exact absurd ⟨hfrom ▸ hin.1, hto ▸ hin.2⟩ hadr
    | _ =>
      rw [hsocket] at h
      obtain ⟨⟨u, m⟩, -, h⟩ := StateExcept.except_bind_eq_ok h
      cases h
      exact ⟨rfl, rfl⟩

theorem routeTransport_read {gb gb' : Gb} {t t' : Payload} {dma : Option U8}
    (hcmd : t.command = .read) (h : gb.routeTransport t = .ok (t', gb', dma)) :
    t'.command = .read ∧ gb'.ioRegisters = gb.ioRegisters ∧ dma = none := by
  by_cases hserial : t.address = 0xFF03
  · rw [gb.routeTransport_FF03 hserial] at h
    cases h
  · by_cases hgate : (0xA000 ≤ t.address ∧ t.address ≤ 0xBFFF) ∧ gb.cartridge.ramGate = .refuses
    · rw [gb.routeTransport_refuses hgate.1.1 hgate.1.2 hgate.2] at h
      cases h
    · obtain ⟨u, tracer, j, hok, hcmd'⟩ := gb.routeTransport_read_ok hcmd hserial
        fun hlo hhi hrefuses => hgate ⟨⟨hlo, hhi⟩, hrefuses⟩
      rw [hok] at h
      cases h
      exact ⟨hcmd', rfl, rfl⟩

/-- An OAM DMA copies into OAM. -/
theorem dmaTransfer_ioRegisters {gb gb' : Gb} {byte : U8} (h : gb.dmaTransfer byte = .ok gb') :
    gb'.ioRegisters = gb.ioRegisters := by
  obtain ⟨s, hrun, h⟩ := StateExcept.except_bind_eq_ok h
  cases h
  have hkept := @History.run_induction _ _ _ (dmaStep (byte.setWidth 16 <<< 8))
    (fun rounds s => (∀ i ∈ rounds, i < 0xA0) →
      s.1.command = .read ∧ s.2.2.ioRegisters = gb.ioRegisters)
    ({ command := .read, data := gb.stackByte }, { command := .write }, gb)
    (fun _ => ⟨rfl, rfl⟩) ?_ _ _ hrun
  · exact (hkept fun i hi => List.mem_range.mp hi).2
  · rintro rounds ⟨rp, wp, m⟩ i s' hm hstep hrounds
    obtain ⟨hread, hio⟩ := hm fun k hk => hrounds k (List.mem_append_left _ hk)
    have hi : i < 0xA0 := hrounds i (List.mem_append_right _ (List.mem_singleton_self i))
    obtain ⟨⟨rp', m₁, d⟩, hfirst, hstep⟩ := StateExcept.except_bind_eq_ok hstep
    obtain ⟨⟨wp', m₂, d'⟩, hsecond, hstep⟩ := StateExcept.except_bind_eq_ok hstep
    cases hstep
    obtain ⟨hread', hio₁, -⟩ := @routeTransport_read m m₁
      { rp with address := byte.setWidth 16 <<< 8 + BitVec.ofNat 16 i } rp' d hread hfirst
    have hio₂ := (@routeTransport_elsewhere m₁ m₂
      { wp with address := 0xFE00 + BitVec.ofNat 16 i, data := rp'.data } wp' d'
      (by bv_omega) hsecond).1
    exact ⟨hread', hio₂.trans (hio₁.trans hio)⟩

/-- A transaction outside of 0xFF10-0xFF7F leaves the registers alone; any other one is one of
    `IoRegisters`. -/
theorem bTransport_ioAccess {gb gb' : Gb} {t t' : Payload} (h : gb.bTransport t = .ok (t', gb')) :
    (¬ (0xFF10 ≤ t.address ∧ t.address ≤ 0xFF7F) ∧ gb'.ioRegisters = gb.ioRegisters) ∨
      ∃ (i : Fin 0x80) (u : Payload) (dma : Option U8),
        t.address = 0xFF10 + BitVec.ofNat 16 i.val ∧ (t.address - 0xFF10).toNat = i.val ∧
        gb.ioRegisters.bTransport { t with address := t.address - 0xFF10 } =
          .ok (u, gb'.ioRegisters, dma) := by
  obtain ⟨⟨u, m, dma⟩, hroute, h⟩ := StateExcept.except_bind_eq_ok h
  have hlast : gb'.ioRegisters = m.ioRegisters := by
    cases dma with
    | none =>
      cases h
      rfl
    | some byte =>
      obtain ⟨m', hdma, h⟩ := StateExcept.except_bind_eq_ok h
      cases h
      exact dmaTransfer_ioRegisters hdma
  rw [hlast]
  by_cases hadr : 0xFF10 ≤ t.address ∧ t.address ≤ 0xFF7F
  · have hs : findSlave t.address = some ⟨0xFF10, 0xFF7F, .ioRegisters⟩ :=
      findSlave_eq_some_iff.mpr ⟨by decide, hadr⟩
    rw [routeTransport_mapped gb hs] at hroute
    obtain ⟨⟨u', io, d⟩, hio, hroute⟩ := StateExcept.except_bind_eq_ok hroute
    cases hroute
    exact .inr ⟨⟨(t.address - 0xFF10).toNat, by bv_omega⟩, _, _, by bv_omega, rfl, hio⟩
  · exact .inl ⟨hadr, (routeTransport_elsewhere hadr hroute).1⟩

/-- What a transaction does to the registers, by its command and its address. -/
theorem bTransport_ioRegisters {gb gb' : Gb} {t t' : Payload}
    (h : gb.bTransport t = .ok (t', gb')) :
    (¬ (t.command = .write ∧ 0xFF10 ≤ t.address ∧ t.address ≤ 0xFF7F) ∧
        gb'.ioRegisters.data = gb.ioRegisters.data) ∨
      ∃ i : Fin 0x80, t.command = .write ∧ t.address = 0xFF10 + BitVec.ofNat 16 i.val ∧
        gb'.ioRegisters.data = gb.ioRegisters.writtenData i t.data := by
  rcases bTransport_ioAccess h with ⟨hadr, hsame⟩ | ⟨i, u, dma, hadr, hi, hio⟩
  · exact .inl ⟨fun hwrite => hadr hwrite.2, by rw [hsame]⟩
  · rcases IoRegisters.bTransport_data hi hio with ⟨hcmd, hdata⟩ | ⟨hcmd, hdata⟩
    · exact .inl ⟨fun hwrite => hcmd hwrite.1, hdata⟩
    · exact .inr ⟨i, hcmd, hadr, hdata⟩

end Gb

end TlmBoy
