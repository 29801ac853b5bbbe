import TlmBoy.Bus.Handled

/-
  The OAM DMA as a copy.

  `DmaTransfer` moves 160 bytes one by one over the bus, from inside the transaction that writes
  0xFF46. From a page that can be read it copies them as if at once: no byte read depends on one
  written before it, and OAM is all that changes (`oam_dma_copies`).
-/

namespace TlmBoy

namespace Gb

/-! ## Sources -/

/-- The address is ROM, video RAM, an open external RAM, work RAM, echo RAM or OAM. -/
structure IsSource (gb : Gb) (adr : U16) : Prop where
  below : adr ≤ 0xFE9F
  gate : 0xA000 ≤ adr → adr ≤ 0xBFFF → gb.cartridge.ramGate = .answers

/-- The byte at a source address. -/
def sourceByte (adr : U16) (gb : Gb) : U8 :=
  if h : adr < 0x8000 then gb.cartridge.romByte ⟨adr.toNat, h⟩
  else if h : 0xA000 ≤ adr ∧ adr ≤ 0xBFFF then
    gb.cartridge.ramByte gb.hostTime ⟨(adr - 0xA000).toNat, by bv_omega⟩
  else (ramCell adr).elim 0 gb.load

/-- The tracer after a read of a source address. -/
def sourceTracer (ext : Option GbCommand) (adr : U16) (gb : Gb) : Option SymfileTracer :=
  if h : adr < 0x8000 then gb.cartridge.traced ext ⟨adr.toNat, h⟩ else gb.cartridge.symfileTracer

theorem sourceTracer_of_ne {ext : Option GbCommand} (hext : ext ≠ some .gbReadData) (adr : U16)
    (gb : Gb) : gb.sourceTracer ext adr = gb.cartridge.symfileTracer := by
  unfold sourceTracer
  split_ifs
  · exact Cartridge.traced_of_ne hext _ _
  · rfl

/-- A source address answers with its byte. A read changes at most the tracer. -/
theorem routeTransport_source {gb : Gb} {adr : U16} (h : gb.IsSource adr)
    (ext : Option GbCommand) : Answers routeTransport gb adr ext (gb.sourceByte adr)
      (gb.afterRead (gb.sourceTracer ext adr) gb.joyPad, none) := by
  have hbelow := h.below
  unfold sourceByte sourceTracer
  by_cases hrom : adr < 0x8000
  · have hs : findSlave adr = some ⟨0x0000, 0x7FFF, .cartridgeRom⟩ :=
      findSlave_eq_some_iff.mpr ⟨by decide, by bv_omega, by bv_omega⟩
    obtain ⟨rel, hread⟩ := gb.cartridgeRom_traced hrom ext
    rw [dif_pos hrom, dif_pos hrom]
    refine ⟨rel, fun t hcmd ht hext => ?_⟩
    subst ht
    rw [routeTransport_mapped gb hs]
    exact hread { t with address := t.address - 0 } hcmd (by bv_omega) hext
  rw [dif_neg hrom, dif_neg hrom, afterRead_self]
  by_cases hram : 0xA000 ≤ adr ∧ adr ≤ 0xBFFF
  · have hs : findSlave adr = some ⟨0xA000, 0xBFFF, .cartridgeRam⟩ :=
      findSlave_eq_some_iff.mpr ⟨by decide, hram⟩
    obtain ⟨rel, hread⟩ := @cartridgeRam_ramByte gb (adr - 0xA000) (by bv_omega) ext
      (h.gate hram.1 hram.2)
    rw [dif_pos hram]
    refine ⟨rel, fun t hcmd ht hext => ?_⟩
    subst ht
    rw [routeTransport_mapped gb hs]
    exact hread { t with address := t.address - 0xA000 } hcmd rfl hext
  · have hplain : InRam adr := by
      unfold InRam
      bv_omega
    obtain ⟨x, hx⟩ := ramCell_of_inRam hplain
    obtain ⟨s, hs, hcell⟩ := Option.bind_eq_some_iff.mp hx
    rw [dif_neg hram, hx]
    refine ⟨adr - s.addrFrom, fun t hcmd ht _ => ?_⟩
    subst ht
    rw [routeTransport_mapped gb hs]
    exact @slaveTransport_read gb s.socket { t with address := t.address - s.addrFrom } x hcell hcmd

/-! ## The loop -/

/-- The source address of round `i`. -/
def dmaSource (byte : U8) (i : Nat) : U16 := byte.setWidth 16 <<< 8 + BitVec.ofNat 16 i

/-- Every source address of the page can be read. -/
def Copyable (byte : U8) (gb : Gb) : Prop :=
  byte ≠ 0xFF ∧ (0xA0 ≤ byte → byte ≤ 0xBF → gb.cartridge.ramGate = .answers)

instance (byte : U8) (gb : Gb) : Decidable (gb.Copyable byte) := by
  unfold Copyable
  infer_instance

/-- The first `n` bytes of OAM replaced by those of the page. -/
def copied (byte : U8) (n : Nat) (gb : Gb) : Gb :=
  { gb with objAttrMem := ⟨fun i =>
    if i.val < n then gb.sourceByte (dmaSource byte i.val) else gb.objAttrMem.data i⟩ }

theorem isSource_of_copyable {gb : Gb} {byte : U8} (h : gb.Copyable byte) {i : Nat}
    (hi : i < 0xA0) : gb.IsSource (dmaSource byte i) := by
  have hadr := dma_source byte hi
  have hbyte := byte.isLt
  have hne : byte.toNat ≠ 0xFF := fun heq => h.1 (BitVec.eq_of_toNat_eq heq)
  refine ⟨?_, fun hlo hhi => h.2 ?_ ?_⟩
  · unfold dmaSource
    bv_omega
  · unfold dmaSource at hlo
    bv_omega
  · unfold dmaSource at hhi
    bv_omega

/-- OAM is not read through an address below it. -/
theorem sourceByte_below {adr : U16} (hadr : adr < 0xFE00) (gb : Gb) (oam : GenericMemory 160) :
    { gb with objAttrMem := oam }.sourceByte adr = gb.sourceByte adr := by
  unfold sourceByte
  split_ifs with hrom hram
  · rfl
  · rfl
  · cases hx : ramCell adr with
    | none => rfl
    | some x =>
      have haddress := ramCell_address hx
      cases x with
      | objAttrMem i =>
        have hhome : homeAddress adr < 0xFE00 := by
          unfold homeAddress
          split_ifs <;> bv_omega
        rw [← haddress] at hhome
        simp only [RamCell.address] at hhome
        omega
      | _ => rfl

theorem ramCell_oam {i : Nat} (hi : i < 0xA0) :
    ramCell (dmaSource 0xFE i) = some (.objAttrMem ⟨i, hi⟩) := by
  have hadr := dma_source 0xFE hi
  have hoam : (dmaSource 0xFE i).toNat = 0xFE00 + i := hadr.trans (by rw [Nat.add_left_inj]; rfl)
  obtain ⟨x, hx⟩ := @ramCell_of_inRam (dmaSource 0xFE i) (.inr (.inr (.inr (.inl
    ⟨by bv_omega, by bv_omega⟩))))
  have hcell : x = .objAttrMem ⟨i, hi⟩ := by
    apply RamCell.address_inj
    rw [ramCell_address hx, homeAddress, hoam, if_neg (by omega)]
    rfl
  rw [hx, hcell]

theorem sourceByte_oam {i : Nat} (hi : i < 0xA0) (gb : Gb) :
    gb.sourceByte (dmaSource 0xFE i) = gb.objAttrMem.data ⟨i, hi⟩ := by
  have hoam : (dmaSource 0xFE i).toNat = 0xFE00 + i :=
    (dma_source 0xFE hi).trans (by rw [Nat.add_left_inj]; rfl)
  unfold sourceByte
  rw [dif_neg (by bv_omega), dif_neg (by bv_omega), ramCell_oam hi]
  rfl

/-- The bytes still to be read are those of the start. -/
theorem sourceByte_copied {byte : U8} (hbyte : byte ≠ 0xFF) {i : Nat} (hi : i < 0xA0) (n : Nat)
    (gb : Gb) :
    (gb.copied byte n).sourceByte (dmaSource byte i) = gb.sourceByte (dmaSource byte i) := by
  have hadr : (dmaSource byte i).toNat = byte.toNat * 256 + i := dma_source byte hi
  by_cases hoam : byte = 0xFE
  · -- OAM is copied to itself
    subst hoam
    have hdata : (fun k : Fin 160 => if k.val < n then gb.sourceByte (dmaSource 0xFE k.val)
        else gb.objAttrMem.data k) = gb.objAttrMem.data := by
      funext k
      rw [sourceByte_oam k.isLt, ite_self]
    rw [copied, hdata]
  · have hlt := byte.isLt
    have hne : byte.toNat ≠ 0xFE := fun heq => hoam (BitVec.eq_of_toNat_eq heq)
    have hne' : byte.toNat ≠ 0xFF := fun heq => hbyte (BitVec.eq_of_toNat_eq heq)
    exact sourceByte_below (by bv_omega) gb _

theorem copied_succ {byte : U8} {n : Nat} (hn : n < 0xA0) (gb : Gb) :
    (gb.copied byte n).store (.objAttrMem ⟨n, hn⟩) (gb.sourceByte (dmaSource byte n)) =
      gb.copied byte (n + 1) := by
  have hdata : Function.update (gb.copied byte n).objAttrMem.data ⟨n, hn⟩
      (gb.sourceByte (dmaSource byte n)) = (gb.copied byte (n + 1)).objAttrMem.data := by
    funext i
    rw [Function.update_apply]
    unfold copied
    dsimp only
    by_cases hi : i = ⟨n, hn⟩
    · rw [if_pos hi, hi, if_pos (Nat.lt_succ_self n)]
    · have hne : i.val ≠ n := fun heq => hi (Fin.ext heq)
      rw [if_neg hi]
      exact if_congr (by omega) rfl rfl
  unfold store
  dsimp only
  rw [hdata]
  rfl

/-- The payloads of the loop: the extension stays unset. -/
def DmaPayloads (s : Payload × Payload × Gb) : Prop :=
  s.1.command = .read ∧ s.1.extension = none ∧ s.2.1.command = .write

/-- Round `n` copies byte `n`. -/
theorem dmaStep_copied {gb : Gb} {byte : U8} (h : gb.Copyable byte) {n : Nat} (hn : n < 0xA0)
    {s : Payload × Payload × Gb} (hs : DmaPayloads s) (hgb : s.2.2 = gb.copied byte n) :
    ∃ s', dmaStep (byte.setWidth 16 <<< 8) s n = .ok s' ∧ DmaPayloads s' ∧
      s'.2.2 = gb.copied byte (n + 1) := by
  obtain ⟨rp, wp, m⟩ := s
  obtain ⟨hr, hext, hw⟩ := hs
  dsimp only at hr hext hw hgb
  subst hgb
  have hsource : (gb.copied byte n).IsSource (dmaSource byte n) :=
    ⟨(isSource_of_copyable h hn).below, (isSource_of_copyable h hn).gate⟩
  obtain ⟨rel, hread⟩ := routeTransport_source hsource none
  have hread' := hread { rp with address := dmaSource byte n } hr rfl hext
  rw [sourceTracer_of_ne (by decide), afterRead_self, sourceByte_copied h.1 hn] at hread'
  obtain ⟨adr, hwrite⟩ := @routeTransport_write_ram (gb.copied byte n)
    { wp with address := 0xFE00 + BitVec.ofNat 16 n, data := gb.sourceByte (dmaSource byte n) }
    (.objAttrMem ⟨n, hn⟩) (ramCell_oam hn) hw
  rw [copied_succ hn] at hwrite
  refine ⟨({ rp with
      address := rel, data := gb.sourceByte (dmaSource byte n), responseStatus := .ok },
    { wp with address := adr, data := gb.sourceByte (dmaSource byte n), responseStatus := .ok },
    gb.copied byte (n + 1)), ?_, ⟨hr, hext, hw⟩, rfl⟩
  unfold dmaSource at hread' hwrite ⊢
  rw [dmaStep]
  simp only [hread', hwrite, ok_bind, pure_eq_ok]

theorem dmaTransfer_copied {gb : Gb} {byte : U8} (h : gb.Copyable byte) :
    gb.dmaTransfer byte = .ok (gb.copied byte 0xA0) := by
  have hrun : ∀ n ≤ 0xA0, ∃ s, (List.range n).foldlM (dmaStep (byte.setWidth 16 <<< 8))
      ({ command := .read, data := gb.stackByte }, { command := .write }, gb) = .ok s ∧
        DmaPayloads s ∧ s.2.2 = gb.copied byte n := by
    intro n hn
    induction n with
    | zero => exact ⟨_, rfl, ⟨rfl, rfl, rfl⟩, rfl⟩
    | succ n ih =>
      obtain ⟨s, hs, hpayloads, hgb⟩ := ih (by omega)
      obtain ⟨s', hs', hpayloads', hgb'⟩ := dmaStep_copied h (by omega) hpayloads hgb
      refine ⟨s', ?_, hpayloads', hgb'⟩
      rw [List.range_succ, History.run_concat, hs]
      exact hs'
  obtain ⟨s, hs, -, hgb⟩ := hrun 0xA0 (Nat.le_refl _)
  rw [dmaTransfer, hs, ← hgb]
  rfl

/-! ## The guest's write -/

/-- A write to 0xFF46 stores nothing and starts the transfer. -/
theorem routeTransport_dma (gb : Gb) {t : Payload} (hcmd : t.command = .write)
    (hadr : t.address = 0xFF46) :
    gb.routeTransport t =
      .ok ({ t with address := 0x36, responseStatus := .ok }, gb, some t.data) := by
  have hs : findSlave t.address = some ⟨0xFF10, 0xFF7F, .ioRegisters⟩ := by
    rw [hadr]
    decide
  have hrel : t.address - 0xFF10 = 0x36 := by
    rw [hadr]
    decide
  rw [routeTransport_mapped gb hs]
  dsimp only
  rw [hrel, slaveTransport, IoRegisters.bTransport]
  simp only [hcmd]
  rfl

/-- A guest read of the address gives `v`. -/
def GuestReads (gb : Gb) (adr : U16) (v : U8) : Prop :=
  ∀ t : Payload, t.command = .read → t.address = adr →
    ∃ t' gb', gb.bTransport t = .ok (t', gb') ∧ t'.responseStatus = .ok ∧ t'.data = v

theorem guestReads_source {gb : Gb} {adr : U16} (h : gb.IsSource adr) :
    gb.GuestReads adr (gb.sourceByte adr) := by
  intro t hcmd hadr
  obtain ⟨rel, hread⟩ := routeTransport_source h t.extension
  exact ⟨_, _, bTransport_of_route (hread t hcmd hadr rfl), rfl, rfl⟩

theorem ofNat_dmaSource (v : U8) (i : Fin 0xA0) :
    BitVec.ofNat 16 (v.toNat * 0x100 + i.val) = dmaSource v i.val := by
  have hv := v.isLt
  have hi := i.isLt
  apply BitVec.eq_of_toNat_eq
  rw [show (dmaSource v i.val).toNat = v.toNat * 256 + i.val from dma_source v hi,
    BitVec.toNat_ofNat]
  omega

/-- From a page that can be read, a write of its number to 0xFF46 leaves in OAM the bytes that the
    guest could read there before, and changes nothing else. -/
theorem oam_dma_copies (gb : Gb) (v : U8) (hsource : gb.Copyable v) (t : Payload)
    (hcmd : t.command = .write) (hadr : t.address = 0xFF46) (hdata : t.data = v) :
    ∃ t' oam, gb.bTransport t = .ok (t', { gb with objAttrMem := oam }) ∧
      t'.responseStatus = .ok ∧
      ∀ i : Fin 0xA0, gb.GuestReads (BitVec.ofNat 16 (v.toNat * 0x100 + i.val)) (oam.data i) := by
  have hdma : gb.bTransport t = .ok ({ t with address := 0x36, responseStatus := .ok },
      gb.copied v 0xA0) := by
    rw [bTransport, gb.routeTransport_dma hcmd hadr, hdata]
    dsimp only [ok_bind]
    rw [dmaTransfer_copied hsource]
    rfl
  refine ⟨_, (gb.copied v 0xA0).objAttrMem, hdma, rfl, fun i => ?_⟩
  have hbyte : (gb.copied v 0xA0).objAttrMem.data i = gb.sourceByte (dmaSource v i.val) :=
    if_pos i.isLt
  rw [ofNat_dmaSource, hbyte]
  exact guestReads_source (isSource_of_copyable hsource i.isLt)

/-- A guest read of an address gives one value. -/
theorem GuestReads.eq {gb : Gb} {adr : U16} {v w : U8} (hv : gb.GuestReads adr v)
    (hw : gb.GuestReads adr w) : v = w := by
  obtain ⟨t, gb', hread, -, rfl⟩ := hv { command := .read, address := adr } rfl rfl
  obtain ⟨t', gb'', hread', -, rfl⟩ := hw { command := .read, address := adr } rfl rfl
  cases hread.symm.trans hread'
  rfl

/-- A work RAM with a number in each byte. -/
def numberedRam : Gb := { powerOn .blank with workRam := ⟨fun i => BitVec.ofNat 8 (i.val + 1)⟩ }

/-- Its first page. -/
theorem work_ram_copied : ∃ t' oam, numberedRam.bTransport
      { command := .write, address := 0xFF46, data := 0xC0 } =
        .ok (t', { numberedRam with objAttrMem := oam }) ∧
      t'.responseStatus = .ok ∧ ∀ i : Fin 0xA0, oam.data i = BitVec.ofNat 8 (i.val + 1) := by
  have hsource : numberedRam.Copyable 0xC0 := by decide
  obtain ⟨t', oam, hdma, hok, hreads⟩ := oam_dma_copies numberedRam 0xC0 hsource
    { command := .write, address := 0xFF46, data := 0xC0 } rfl rfl rfl
  have hpage : ∀ i : Fin 0xA0,
      numberedRam.sourceByte (dmaSource 0xC0 i.val) = BitVec.ofNat 8 (i.val + 1) := by
    decide +kernel
  refine ⟨t', oam, hdma, hok, fun i => (hreads i).eq ?_⟩
  rw [ofNat_dmaSource, ← hpage i]
  exact guestReads_source (isSource_of_copyable hsource i.isLt)

end Gb

end TlmBoy
