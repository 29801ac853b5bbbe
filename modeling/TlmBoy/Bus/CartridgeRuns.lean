import TlmBoy.Bus.OamDma
import TlmBoy.Cartridge.RamEnable

/-
  What a run of the guest's accesses does to the cartridge.

  The bus hands the cartridge the accesses to its two windows, and no other access changes it: the
  reads of an OAM DMA carry no command of the CPU and write nothing. So the cartridge's part of a
  run is the history of those accesses (`guest_run_cartridge`).

  While its RAM is disabled an `Mbc5` ends the emulation at every access to the window
  (`disabled_ram_faults`), where the other controllers let it pass (`disabled_ram_passes`).
-/

namespace TlmBoy

namespace Cartridge

/-- One transaction on the cartridge. -/
def step (c : Cartridge) : Access → Except Fault Cartridge
  | .rom t _ => (c.bTransportRom t).map Prod.snd
  | .ram t _ time => (c.bTransportRam time t).map Prod.snd

theorem step_mbc1 (m : Mbc1) (acc : Access) : step (.mbc1 m) acc = (m.step acc).map .mbc1 := by
  cases acc <;>
    simp only [step, Mbc1.step, bTransportRom, bTransportRam, StateExcept.map_map]

theorem step_mbc3 (m : Mbc3) (acc : Access) : step (.mbc3 m) acc = (m.step acc).map .mbc3 := by
  cases acc <;>
    simp only [step, Mbc3.step, bTransportRom, bTransportRam, StateExcept.map_map]

theorem step_mbc5 (m : Mbc5) (acc : Access) : step (.mbc5 m) acc = (m.step acc).map .mbc5 := by
  cases acc <;>
    simp only [step, Mbc5.step, bTransportRom, bTransportRam, StateExcept.map_map]

end Cartridge

namespace Gb

/-! ## Transactions that leave the cartridge alone -/

theorem routeTransport_cartridge {gb gb' : Gb} {t t' : Payload} {dma : Option U8}
    (hrom : ¬ t.address < 0x8000) (hram : ¬ (0xA000 ≤ t.address ∧ t.address ≤ 0xBFFF))
    (h : gb.routeTransport t = .ok (t', gb', dma)) : gb'.cartridge = gb.cartridge := by
  cases hs : findSlave t.address with
  | none =>
    rw [routeTransport_unmapped gb hs] at h
    cases h
    rfl
  | some s =>
    rw [routeTransport_mapped gb hs] at h
    obtain ⟨hmem, hin⟩ := findSlave_eq_some_iff.mp hs
    cases hsocket : s.socket with
    | cartridgeRom =>
      have hrange : ∀ s ∈ busSlaveVec, s.socket = .cartridgeRom → s.addrTo = 0x7FFF := by decide
      have hto := hrange s hmem hsocket
      exact absurd (by bv_omega) hrom
    | cartridgeRam =>
      have hrange := cartridgeRam_range s hmem hsocket
      exact absurd ⟨by bv_omega, by bv_omega⟩ hram
    | ioRegisters =>
      rw [hsocket] at h
      obtain ⟨⟨u, io, d⟩, -, h⟩ := StateExcept.except_bind_eq_ok h
      cases h
      rfl
    | _ =>
      rw [hsocket] at h
      obtain ⟨⟨u, m⟩, -, h⟩ := StateExcept.except_bind_eq_ok h
      cases h
      rfl

/-- A read that is not traced, below the I/O registers. -/
theorem routeTransport_untraced {gb gb' : Gb} {t t' : Payload} {dma : Option U8}
    (hcmd : t.command = .read) (hext : t.extension ≠ some .gbReadData) (hadr : t.address ≤ 0xFE9F)
    (h : gb.routeTransport t = .ok (t', gb', dma)) :
    gb' = gb ∧ t'.command = .read ∧ t'.extension = t.extension := by
  by_cases hsource : gb.IsSource t.address
  · obtain ⟨rel, hread⟩ := routeTransport_source hsource t.extension
    rw [hread t hcmd rfl rfl, sourceTracer_of_ne hext, afterRead_self] at h
    cases h
    exact ⟨rfl, hcmd, rfl⟩
  · have hwindow : (0xA000 ≤ t.address ∧ t.address ≤ 0xBFFF) ∧
        gb.cartridge.ramGate ≠ .answers := by
      by_contra hno
      refine hsource ⟨hadr, fun hlo hhi => ?_⟩
      by_contra hgate
      exact hno ⟨⟨hlo, hhi⟩, hgate⟩
    cases hgate : gb.cartridge.ramGate with
    | answers => exact absurd hgate hwindow.2
    | silent =>
      rw [gb.routeTransport_silent hwindow.1.1 hwindow.1.2 hgate] at h
      cases h
      exact ⟨rfl, hcmd, rfl⟩
    | refuses =>
      rw [gb.routeTransport_refuses hwindow.1.1 hwindow.1.2 hgate] at h
      cases h

/-- An OAM DMA leaves the cartridge alone. -/
theorem dmaTransfer_cartridge {gb gb' : Gb} {byte : U8} (h : gb.dmaTransfer byte = .ok gb') :
    gb'.cartridge = gb.cartridge := by
  have hbyte : byte ≠ 0xFF := fun heq => dmaTransfer_error (.inl heq) h
  have hne : byte.toNat ≠ 0xFF := fun heq => hbyte (BitVec.eq_of_toNat_eq heq)
  have hlt := byte.isLt
  obtain ⟨s, hrun, h⟩ := StateExcept.except_bind_eq_ok h
  cases h
  have hkept := @History.run_induction _ _ _ (dmaStep (byte.setWidth 16 <<< 8))
    (fun rounds s => (∀ i ∈ rounds, i < 0xA0) → DmaPayloads s ∧ s.2.2.cartridge = gb.cartridge)
    ({ command := .read, data := gb.stackByte }, { command := .write }, gb)
    (fun _ => ⟨⟨rfl, rfl, rfl⟩, rfl⟩) ?_ _ _ hrun
  · exact (hkept fun i hi => List.mem_range.mp hi).2
  · intro rounds s i s' hm hstep hrounds
    obtain ⟨rp, wp, m⟩ := s
    obtain ⟨⟨hr, hext, hw⟩, hcart⟩ := hm fun k hk => hrounds k (List.mem_append_left _ hk)
    have hi : i < 0xA0 := hrounds i (List.mem_append_right _ (List.mem_singleton_self i))
    have hsrc := dma_source byte hi
    obtain ⟨⟨rp', m₁, d⟩, hread, hstep⟩ := StateExcept.except_bind_eq_ok hstep
    obtain ⟨⟨wp', m₂, d'⟩, hwrite, hstep⟩ := StateExcept.except_bind_eq_ok hstep
    cases hstep
    obtain ⟨hm₁, hr', hext'⟩ := @routeTransport_untraced m m₁
      { rp with address := byte.setWidth 16 <<< 8 + BitVec.ofNat 16 i } rp' d hr
      (by rw [hext]; decide) (by bv_omega) hread
    obtain ⟨adr, hok⟩ := @routeTransport_write_ram m₁
      { wp with address := 0xFE00 + BitVec.ofNat 16 i, data := rp'.data }
      (.objAttrMem ⟨i, hi⟩) (ramCell_oam hi) hw
    rw [hok] at hwrite
    cases hwrite
    rw [hm₁]
    exact ⟨⟨hr', hext'.trans hext, hw⟩, hcart⟩

/-! ## Runs -/

/-- A guest access, with what `std::time` gives during it. -/
structure GuestAccess where
  trans : Payload
  time : I64 := 0

def guestStep (gb : Gb) (a : GuestAccess) : Except Fault Gb :=
  { gb with hostTime := a.time }.access a.trans

/-- The access as the cartridge gets it, if it gets it. -/
def GuestAccess.onCartridge (a : GuestAccess) : Option Access :=
  if h : a.trans.address < 0x8000 then some (.rom a.trans h)
  else if h : 0xA000 ≤ a.trans.address ∧ a.trans.address ≤ 0xBFFF then
    some (.ram { a.trans with address := a.trans.address - 0xA000 }
      (by show a.trans.address - 0xA000 < 0x2000; bv_omega) a.time)
  else none

theorem bTransport_cartridge {gb gb' : Gb} {t t' : Payload} (h : gb.bTransport t = .ok (t', gb')) :
    ∃ m dma, gb.routeTransport t = .ok (m, dma) ∧ gb'.cartridge = dma.1.cartridge := by
  obtain ⟨⟨u, m, dma⟩, hroute, h⟩ := StateExcept.except_bind_eq_ok h
  refine ⟨u, (m, dma), hroute, ?_⟩
  cases dma with
  | none =>
    cases h
    rfl
  | some byte =>
    obtain ⟨m', hdma, h⟩ := StateExcept.except_bind_eq_ok h
    cases h
    exact dmaTransfer_cartridge hdma

/-- A guest access does to the cartridge what the cartridge's transaction does. -/
theorem guestStep_cartridge {gb gb' : Gb} {a : GuestAccess} (h : guestStep gb a = .ok gb') :
    a.onCartridge.toList.foldlM Cartridge.step gb.cartridge = .ok gb'.cartridge := by
  obtain ⟨⟨t', gb₁⟩, hbus, rfl⟩ := StateExcept.map_eq_ok h
  obtain ⟨u, ⟨m, dma⟩, hroute, hcart⟩ := bTransport_cartridge hbus
  unfold GuestAccess.onCartridge
  dsimp only at hcart ⊢
  rw [hcart]
  split_ifs with hrom hram
  · have hs : findSlave a.trans.address = some ⟨0x0000, 0x7FFF, .cartridgeRom⟩ :=
      findSlave_eq_some_iff.mpr ⟨by decide, by bv_omega, by bv_omega⟩
    have hzero : a.trans.address - 0x0000 = a.trans.address := by bv_omega
    rw [routeTransport_mapped _ hs] at hroute
    dsimp only at hroute
    rw [hzero] at hroute
    obtain ⟨⟨v, c⟩, hc, hroute⟩ := StateExcept.except_bind_eq_ok hroute
    cases hroute
    show (Cartridge.step gb.cartridge _ >>= fun c => pure c) = _
    rw [Cartridge.step, hc]
    rfl
  · have hs : findSlave a.trans.address = some ⟨0xA000, 0xBFFF, .cartridgeRam⟩ :=
      findSlave_eq_some_iff.mpr ⟨by decide, hram⟩
    rw [routeTransport_mapped _ hs] at hroute
    obtain ⟨⟨v, c⟩, hc, hroute⟩ := StateExcept.except_bind_eq_ok hroute
    cases hroute
    show (Cartridge.step gb.cartridge _ >>= fun c => pure c) = _
    rw [Cartridge.step, hc]
    rfl
  · exact congrArg Except.ok (routeTransport_cartridge hrom hram hroute).symm

/-- The accesses that reach the cartridge. -/
def onCartridge (as : List GuestAccess) : List Access := as.flatMap fun a => a.onCartridge.toList

/-- The cartridge after a run of the guest is the cartridge after its part of the run. -/
theorem guest_run_cartridge {gb gb' : Gb} {as : List GuestAccess}
    (h : as.foldlM guestStep gb = .ok gb') :
    (onCartridge as).foldlM Cartridge.step gb.cartridge = .ok gb'.cartridge := by
  refine History.run_induction
    (fun as (m : Gb) => (onCartridge as).foldlM Cartridge.step gb.cartridge = .ok m.cartridge)
    rfl ?_ h
  intro as m a m' hm hstep
  have hlast : onCartridge (as ++ [a]) = onCartridge as ++ a.onCartridge.toList := by
    simp [onCartridge]
  rw [hlast, List.foldlM_append, hm]
  exact guestStep_cartridge hstep

/-! ## Disabled RAM -/

end Gb

/-- A ROM-only cartridge answers for the RAM it does not have. -/
theorem Rom.bTransportRam_ok (m : Rom) {t : Payload} (hadr : t.address < 0x8000) :
    ∃ t', m.bTransportRam t = .ok (t', m) := by
  rw [bTransportRam, cAssert_pos hadr, ok_bind]
  dsimp only
  split_ifs
  · exact ⟨_, rfl⟩
  · exact ⟨_, rfl⟩

/-- Byte `i` of `ext_ram`, if there is one. -/
def MemoryBankCtrler.extRamByte {numRomBanks numRamBanks : Nat}
    (c : MemoryBankCtrler numRomBanks numRamBanks) (i : Nat) : Option U8 :=
  if h : i < numRamBanks * 0x2000 then some (c.extRam.data ⟨i, h⟩) else none

namespace Cartridge

def extRamByte (c : Cartridge) (i : Nat) : Option U8 :=
  match c with
  | .rom m => m.extRamByte i
  | .mbc1 m => m.extRamByte i
  | .mbc3 m => m.extRamByte i
  | .mbc5 m => m.extRamByte i

/-- The guest has not enabled the RAM. A ROM-only cartridge has none. -/
def RamDisabled (c : Cartridge) : Prop :=
  match c with
  | .rom _ => True
  | .mbc1 m => m.ramEnabled = false
  | .mbc3 m => m.ramRtcEnabled = false
  | .mbc5 m => m.ramEnabled = false

end Cartridge

namespace Gb

/-- The access does not end the emulation, and does not change `ext_ram`. -/
def Passes (gb : Gb) (t : Payload) : Prop :=
  ∃ t' gb', gb.bTransport t = .ok (t', gb') ∧
    gb'.cartridge.extRamByte = gb.cartridge.extRamByte

/-- Every controller but `Mbc5` lets an access to disabled RAM pass. -/
theorem disabled_ram_passes (gb : Gb) (hoff : gb.cartridge.RamDisabled)
    (hmbc : ∀ m, gb.cartridge ≠ .mbc5 m) {t : Payload} (hlo : 0xA000 ≤ t.address)
    (hhi : t.address ≤ 0xBFFF) : gb.Passes t := by
  have hsilent : gb.cartridge.ramGate = .silent → gb.Passes t := fun hgate =>
    ⟨_, gb, bTransport_of_route (gb.routeTransport_silent hlo hhi hgate), rfl⟩
  cases hc : gb.cartridge with
  | rom m =>
    have hs : findSlave t.address = some ⟨0xA000, 0xBFFF, .cartridgeRam⟩ :=
      findSlave_eq_some_iff.mpr ⟨by decide, hlo, hhi⟩
    obtain ⟨t', hok⟩ := @Rom.bTransportRam_ok m { t with address := t.address - 0xA000 }
      (by show t.address - 0xA000 < 0x8000; bv_omega)
    refine ⟨t', { gb with cartridge := .rom m }, bTransport_of_route ?_, by rw [hc]⟩
    rw [routeTransport_mapped gb hs, slaveTransport, hc, Cartridge.bTransportRam, hok]
    rfl
  | mbc1 m =>
    rw [hc] at hoff
    refine hsilent ?_
    rw [hc]
    exact if_neg (Bool.not_eq_true _ ▸ hoff)
  | mbc3 m =>
    rw [hc] at hoff
    refine hsilent ?_
    rw [hc]
    exact if_neg (Bool.not_eq_true _ ▸ hoff)
  | mbc5 m => exact absurd hc (hmbc m)

/-- After every run of the guest that leaves the RAM of an `Mbc5` disabled, every access to the
    RAM window fails the assertion. Every other controller lets it pass in the same place. -/
theorem disabled_ram_faults (romLow : Fin 0x4000 → U8) (romHigh : Fin (512 * 0x4000) → U8)
    (extRam : Fin (16 * 0x2000) → U8) (symbolFile : Bool) (serial : Serial) (timer : Timer)
    {as : List GuestAccess} {gb : Gb}
    (hrun : as.foldlM guestStep
      (Gb.init (.mbc5 (.init romLow romHigh extRam symbolFile)) serial timer) = .ok gb)
    (hoff : enables (enableByte (onCartridge as)) = false) {t : Payload}
    (hlo : 0xA000 ≤ t.address) (hhi : t.address ≤ 0xBFFF) :
    gb.bTransport t = .error (.assertion "false") ∧ ¬ gb.Passes t ∧
      ∀ c : Cartridge, (∀ m, c ≠ .mbc5 m) → c.RamDisabled →
        ({ gb with cartridge := c } : Gb).Passes t := by
  have hcart := guest_run_cartridge hrun
  rw [show (Gb.init (.mbc5 (.init romLow romHigh extRam symbolFile)) serial timer).cartridge =
    .mbc5 (.init romLow romHigh extRam symbolFile) from rfl,
    History.run_map Cartridge.mbc5 Cartridge.step_mbc5] at hcart
  obtain ⟨m, hm, hc⟩ := StateExcept.map_eq_ok hcart
  have hdisabled : m.ramEnabled = false := (Mbc5.run_enabled hm).trans hoff
  have hgate : gb.cartridge.ramGate = .refuses := by
    rw [← hc]
    exact if_neg (Bool.not_eq_true _ ▸ hdisabled)
  have hfault : gb.bTransport t = .error (.assertion "false") := by
    rw [bTransport, gb.routeTransport_refuses hlo hhi hgate]
    rfl
  refine ⟨hfault, ?_, fun c hmbc hc => disabled_ram_passes _ hc hmbc hlo hhi⟩
  rintro ⟨t', gb', hok, -⟩
  rw [hfault] at hok
  cases hok

/-- An `Mbc5` of zeros. -/
def blankMbc5 : Mbc5 := .init (fun _ => 0) (fun _ => 0) (fun _ => 0) false

/-- A read of 0xA000 right after power-on, with an `Mbc5` and with a ROM-only cartridge. -/
theorem first_read_faults :
    (powerOn (.mbc5 blankMbc5)).bTransport { command := .read, address := 0xA000 } =
        .error (.assertion "false") ∧
      ¬ (powerOn (.mbc5 blankMbc5)).Passes { command := .read, address := 0xA000 } ∧
      (powerOn .blank).Passes { command := .read, address := 0xA000 } := by
  obtain ⟨hfault, hnot, hothers⟩ := @disabled_ram_faults (fun _ => 0) (fun _ => 0) (fun _ => 0)
    false _ _ [] _ rfl (by decide) { command := .read, address := 0xA000 } (by decide) (by decide)
  exact ⟨hfault, hnot, hothers .blank nofun trivial⟩

theorem disabled_ram_not_passed : ¬ ∀ (m : Mbc5) (as : List GuestAccess) (gb : Gb) (t : Payload),
    as.foldlM guestStep (powerOn (.mbc5 m)) = .ok gb →
      gb.cartridge.RamDisabled → t.command = .read ∨ t.command = .write → 0xA000 ≤ t.address →
        t.address ≤ 0xBFFF → gb.Passes t := by
  intro h
  obtain ⟨t', gb', hok, -⟩ := h blankMbc5 [] _ { command := .read, address := 0xA000 } rfl rfl
    (Or.inl rfl) (by decide) (by decide)
  rw [bTransport, routeTransport_refuses _ (by decide) (by decide) rfl] at hok
  cases hok

end Gb

end TlmBoy
