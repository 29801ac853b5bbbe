import TlmBoy.Bus.PlainMemory
import TlmBoy.Bus.Slaves
import TlmBoy.Cartridge.Tracing

/-
  What a bus read gives.

  A target answers a read when it sets the byte and an OK response, whatever the payload came
  with (`Answers`). Every mapped address but 0xFF03 is answered, as long as the external RAM
  window is open (`Gb.routeTransport_answers`). A closed window is silent on an `Mbc1` or an
  `Mbc3`, which leave the payload alone, and a failed assertion on an `Mbc5`.
-/

namespace TlmBoy

/-- In state `s` the target answers a read of `adr` with `v`, and is `d` afterwards. -/
def Answers {S D : Type} (access : Payload → S → Except Fault (Payload × D)) (s : S) (adr : U16)
    (ext : Option GbCommand) (v : U8) (d : D) : Prop :=
  ∃ rel, ∀ t : Payload, t.command = .read → t.address = adr → t.extension = ext →
    access t s = .ok ({ t with address := rel, data := v, responseStatus := .ok }, d)

/-! ## The cartridge -/

/-- What the external RAM window does with a transaction. -/
inductive RamGate where
  /-- The access is handled. -/
  | answers
  /-- The payload comes back as it was. -/
  | silent
  /-- The controller's `assert(false)`. -/
  | refuses
deriving DecidableEq, Repr

namespace MemoryBankCtrler

variable {numRomBanks numRamBanks : Nat}

/-- The byte that the ROM window shows. -/
def romByte (a : Fin 0x8000) (c : MemoryBankCtrler numRomBanks numRamBanks) : U8 :=
  if h : a.val < 0x4000 then c.romLow.data ⟨a.val, h⟩
  else c.romHigh.data (BankSwitchedMem.cell c.romHigh.currentBankInd ⟨a.val - 0x4000, by omega⟩)

/-- A traced read answers with the byte that the window shows. -/
theorem tracedRomRead_traced (c : MemoryBankCtrler numRomBanks numRamBanks) {adr : U16}
    (hadr : adr < 0x8000) (ext : Option GbCommand) :
    Answers tracedRomRead c adr ext (c.romByte ⟨adr.toNat, hadr⟩)
      { c with symfileTracer := c.traced ext ⟨adr.toNat, hadr⟩ } := by
  unfold romByte
  by_cases hlow : adr.toNat < 0x4000
  · refine ⟨adr, fun t hcmd ht hext => ?_⟩
    subst ht hext
    rw [dif_pos hlow]
    exact c.tracedRomRead_low_traced hcmd ⟨t.address.toNat, hadr⟩ rfl hlow
  · refine ⟨adr - 0x4000, fun t hcmd ht hext => ?_⟩
    subst ht hext
    rw [dif_neg hlow]
    exact c.tracedRomRead_high_traced hcmd ⟨t.address.toNat, hadr⟩ rfl hlow

/-- The read branch of an `Mbc5`, which has no tracer. -/
theorem romRead_answers (c : MemoryBankCtrler numRomBanks numRamBanks) {adr : U16}
    (hadr : adr < 0x8000) (ext : Option GbCommand) :
    Answers (fun t c => if t.address ≤ 0x3FFF then romLowTransport t c else romHighTransport t c)
      c adr ext (c.romByte ⟨adr.toNat, hadr⟩) c := by
  unfold romByte
  by_cases hlow : adr.toNat < 0x4000
  · refine ⟨adr, fun t hcmd ht _ => ?_⟩
    subst ht
    rw [dif_pos hlow]
    dsimp only
    rw [if_pos (by bv_omega), romLowTransport, c.romLow.bTransport_read hcmd hlow]
    rfl
  · refine ⟨adr - 0x4000, fun t hcmd ht _ => ?_⟩
    subst ht
    have hread := @BankSwitchedMem.bTransport_read _ _ c.romHigh
      { t with address := t.address - 0x4000 } hcmd ⟨t.address.toNat - 0x4000, by bv_omega⟩
      (by bv_omega)
    rw [dif_neg hlow]
    dsimp only
    rw [if_neg (by bv_omega), romHighTransport, hread]
    rfl

/-- The byte that the RAM window shows. -/
def ramByte (a : Fin 0x2000) (c : MemoryBankCtrler numRomBanks numRamBanks) : U8 :=
  c.extRam.data (BankSwitchedMem.cell c.extRam.currentBankInd a)

theorem ramTransport_ramByte (c : MemoryBankCtrler numRomBanks numRamBanks) {adr : U16}
    (hadr : adr < 0x2000) (ext : Option GbCommand) :
    Answers ramTransport c adr ext (c.ramByte ⟨adr.toNat, hadr⟩) c := by
  refine ⟨adr, fun t hcmd ht _ => ?_⟩
  subst ht
  exact c.ramTransport_read hcmd ⟨t.address.toNat, hadr⟩ rfl

theorem ramTransport_answers (c : MemoryBankCtrler numRomBanks numRamBanks) {adr : U16}
    (hadr : adr < 0x2000) (ext : Option GbCommand) :
    ∃ v, Answers ramTransport c adr ext v c :=
  ⟨_, c.ramTransport_ramByte hadr ext⟩

end MemoryBankCtrler

namespace Cartridge

def ramGate (c : Cartridge) : RamGate :=
  match c with
  | .rom _ => .answers
  | .mbc1 m => if m.ramEnabled then .answers else .silent
  | .mbc3 m => if m.ramRtcEnabled then .answers else .silent
  | .mbc5 m => if m.ramEnabled then .answers else .refuses

def symfileTracer (c : Cartridge) : Option SymfileTracer :=
  match c with
  | .rom m => m.symfileTracer
  | .mbc1 m => m.symfileTracer
  | .mbc3 m => m.symfileTracer
  | .mbc5 m => m.symfileTracer

/-- Only the tracer replaced. -/
def withTracer (tracer : Option SymfileTracer) (c : Cartridge) : Cartridge :=
  match c with
  | .rom m => .rom { m with symfileTracer := tracer }
  | .mbc1 m => .mbc1 { m with symfileTracer := tracer }
  | .mbc3 m => .mbc3 { m with symfileTracer := tracer }
  | .mbc5 m => .mbc5 { m with symfileTracer := tracer }

@[simp] theorem withTracer_self (c : Cartridge) : c.withTracer c.symfileTracer = c := by
  cases c <;> rfl

@[simp] theorem withTracer_ramGate (tracer : Option SymfileTracer) (c : Cartridge) :
    (c.withTracer tracer).ramGate = c.ramGate := by
  cases c <;> rfl

/-- The byte that the ROM window shows. -/
def romByte (a : Fin 0x8000) (c : Cartridge) : U8 :=
  match c with
  | .rom m => m.romByte a
  | .mbc1 m => m.romByte a
  | .mbc3 m => m.romByte a
  | .mbc5 m => m.romByte a

/-- The tracer after a read of ROM address `a`. -/
def traced (ext : Option GbCommand) (a : Fin 0x8000) (c : Cartridge) : Option SymfileTracer :=
  match c with
  | .rom m => m.traced ext a
  | .mbc1 m => m.traced ext a
  | .mbc3 m => m.traced ext a
  | .mbc5 m => m.symfileTracer

theorem traced_of_ne {ext : Option GbCommand} (hext : ext ≠ some .gbReadData) (a : Fin 0x8000)
    (c : Cartridge) : c.traced ext a = c.symfileTracer := by
  cases c with
  | rom m => exact MemoryBankCtrler.traced_of_ne hext a m
  | mbc1 m => exact m.toMemoryBankCtrler.traced_of_ne hext a
  | mbc3 m => exact m.toMemoryBankCtrler.traced_of_ne hext a
  | mbc5 m => rfl

/-- Every ROM address is answered. -/
theorem bTransportRom_traced (c : Cartridge) {adr : U16} (hadr : adr < 0x8000)
    (ext : Option GbCommand) : Answers bTransportRom c adr ext
      (c.romByte ⟨adr.toNat, hadr⟩) (c.withTracer (c.traced ext ⟨adr.toNat, hadr⟩)) := by
  have hassert : ∀ t : Payload, t.address = adr →
      cAssert (t.address < 0x8000) "adr < 0x8000" = .ok () :=
    fun t ht => cAssert_pos (by rw [ht]; exact hadr) _
  cases c with
  | rom m =>
    obtain ⟨rel, h⟩ := m.tracedRomRead_traced hadr ext
    refine ⟨rel, fun t hcmd ht hext => ?_⟩
    rw [bTransportRom, Rom.bTransportRom, hassert t ht, ok_bind, if_neg (by rw [hcmd]; decide),
      h t hcmd ht hext]
    rfl
  | mbc1 m =>
    obtain ⟨rel, h⟩ := m.tracedRomRead_traced hadr ext
    refine ⟨rel, fun t hcmd ht hext => ?_⟩
    have hread := h t hcmd ht hext
    rw [bTransportRom, Mbc1.bTransportRom, hassert t ht]
    simp only [hcmd, ok_bind, hread]
    rfl
  | mbc3 m =>
    obtain ⟨rel, h⟩ := m.tracedRomRead_traced hadr ext
    refine ⟨rel, fun t hcmd ht hext => ?_⟩
    have hread := h t hcmd ht hext
    rw [bTransportRom, Mbc3.bTransportRom, hassert t ht]
    simp only [hcmd, ok_bind, hread]
    rfl
  | mbc5 m =>
    obtain ⟨rel, h⟩ := m.romRead_answers hadr ext
    refine ⟨rel, fun t hcmd ht hext => ?_⟩
    have hread := h t hcmd ht hext
    dsimp only at hread
    rw [bTransportRom, Mbc5.bTransportRom, hassert t ht]
    simp only [hcmd, ok_bind]
    by_cases hlow : t.address ≤ 0x3FFF
    · rw [if_pos hlow] at hread ⊢
      rw [hread, hcmd]
      rfl
    · rw [if_neg hlow] at hread ⊢
      rw [hread, hcmd]
      rfl

/-- The byte that the RAM window shows at host time `time`. -/
def ramByte (time : I64) (a : Fin 0x2000) (c : Cartridge) : U8 :=
  match c with
  | .rom _ => 0
  | .mbc1 m => m.ramByte a
  | .mbc3 m => if m.rtcMapped = true then m.rtcValue time else m.ramByte a
  | .mbc5 m => m.ramByte a

/-- An open RAM window answers. -/
theorem bTransportRam_ramByte (c : Cartridge) {adr : U16} (hadr : adr < 0x2000)
    (time : I64) (ext : Option GbCommand) (hgate : c.ramGate = .answers) :
    Answers (bTransportRam time) c adr ext (c.ramByte time ⟨adr.toNat, hadr⟩) c := by
  have hassert : ∀ (t : Payload) (text : String), t.address = adr →
      cAssert (t.address ≤ 0x1FFF) text = .ok () :=
    fun t text ht => cAssert_pos (by rw [ht]; bv_omega) _
  cases c with
  | rom m =>
    refine ⟨adr, fun t hcmd ht hext => ?_⟩
    rw [bTransportRam, Rom.bTransportRam, cAssert_pos (by rw [ht]; bv_omega)]
    simp only [hcmd, ok_bind]
    subst ht
    rfl
  | mbc1 m =>
    have hopen : m.ramEnabled = true := by
      by_contra hclosed
      rw [ramGate, if_neg hclosed] at hgate
      cases hgate
    obtain ⟨rel, h⟩ := m.ramTransport_ramByte hadr ext
    refine ⟨rel, fun t hcmd ht hext => ?_⟩
    have hread := h t hcmd ht hext
    rw [bTransportRam, Mbc1.bTransportRam, hassert t _ ht, ok_bind, if_pos hopen, hread]
    rfl
  | mbc3 m =>
    have hopen : m.ramRtcEnabled = true := by
      by_contra hclosed
      rw [ramGate, if_neg hclosed] at hgate
      cases hgate
    by_cases hmapped : m.rtcMapped = true
    · rw [ramByte, if_pos hmapped]
      refine ⟨adr, fun t hcmd ht hext => ?_⟩
      rw [bTransportRam, Mbc3.bTransportRam, hassert t _ ht, ok_bind, if_pos hopen, if_pos hmapped]
      dsimp only
      rw [if_neg (by rw [hcmd]; decide)]
      subst ht
      rfl
    · rw [ramByte, if_neg hmapped]
      obtain ⟨rel, h⟩ := m.ramTransport_ramByte hadr ext
      refine ⟨rel, fun t hcmd ht hext => ?_⟩
      have hread := h t hcmd ht hext
      rw [bTransportRam, Mbc3.bTransportRam, hassert t _ ht, ok_bind, if_pos hopen, if_neg hmapped,
        hread]
      rfl
  | mbc5 m =>
    have hopen : m.ramEnabled = true := by
      by_contra hclosed
      rw [ramGate, if_neg hclosed] at hgate
      cases hgate
    obtain ⟨rel, h⟩ := m.ramTransport_ramByte hadr ext
    refine ⟨rel, fun t hcmd ht hext => ?_⟩
    have hread := h t hcmd ht hext
    rw [bTransportRam, Mbc5.bTransportRam, hassert t _ ht, ok_bind, if_pos hopen, hread]
    rfl

theorem bTransportRam_answers (c : Cartridge) {adr : U16} (hadr : adr < 0x2000)
    (time : I64) (ext : Option GbCommand) (hgate : c.ramGate = .answers) :
    ∃ v, Answers (bTransportRam time) c adr ext v c :=
  ⟨_, c.bTransportRam_ramByte hadr time ext hgate⟩

/-- A silent RAM window leaves the payload alone. -/
theorem bTransportRam_silent (c : Cartridge) {t : Payload} (hadr : t.address < 0x2000)
    (time : I64) (hgate : c.ramGate = .silent) : c.bTransportRam time t = .ok (t, c) := by
  have hle : t.address ≤ 0x1FFF := by bv_omega
  cases c with
  | rom m => cases hgate
  | mbc1 m =>
    have hclosed : ¬ m.ramEnabled = true := fun hopen => by
      rw [ramGate, if_pos hopen] at hgate
      cases hgate
    rw [bTransportRam, Mbc1.bTransportRam, cAssert_pos hle, ok_bind, if_neg hclosed]
    rfl
  | mbc3 m =>
    have hclosed : ¬ m.ramRtcEnabled = true := fun hopen => by
      rw [ramGate, if_pos hopen] at hgate
      cases hgate
    rw [bTransportRam, Mbc3.bTransportRam, cAssert_pos hle, ok_bind, if_neg hclosed]
    rfl
  | mbc5 m =>
    rw [ramGate] at hgate
    split at hgate <;> cases hgate

/-- A refusing RAM window fails its assertion. -/
theorem bTransportRam_refuses (c : Cartridge) {t : Payload} (hadr : t.address < 0x2000)
    (time : I64) (hgate : c.ramGate = .refuses) :
    c.bTransportRam time t = .error (.assertion "false") := by
  have hle : t.address ≤ 0x1FFF := by bv_omega
  cases c with
  | rom m => cases hgate
  | mbc1 m | mbc3 m =>
    rw [ramGate] at hgate
    split at hgate <;> cases hgate
  | mbc5 m =>
    have hclosed : ¬ m.ramEnabled = true := fun hopen => by
      rw [ramGate, if_pos hopen] at hgate
      cases hgate
    rw [bTransportRam, Mbc5.bTransportRam, cAssert_pos hle, ok_bind, if_neg hclosed]
    rfl

end Cartridge

/-! ## The slaves -/

namespace Gb

/-- A read changes at most the tracer of the cartridge and the button bits of P1. -/
def afterRead (tracer : Option SymfileTracer) (j : JoyPad) (gb : Gb) : Gb :=
  { gb with cartridge := gb.cartridge.withTracer tracer, joyPad := j }

@[simp] theorem afterRead_self (gb : Gb) :
    gb.afterRead gb.cartridge.symfileTracer gb.joyPad = gb := by
  rw [afterRead, Cartridge.withTracer_self]

/-- A slave answers a read of `adr`. -/
def SlaveAnswers (gb : Gb) (slave : Slave) (adr : U16) (ext : Option GbCommand) : Prop :=
  ∃ v tracer j, Answers (slaveTransport slave) gb adr ext v (gb.afterRead tracer j, none)

/-- A slave that a read does not change. -/
theorem slaveAnswers_of_same {gb : Gb} {slave : Slave} {adr : U16} {ext : Option GbCommand}
    (v : U8) (h : ∀ t : Payload, t.command = .read → t.address = adr → t.extension = ext →
      gb.slaveTransport slave t = .ok ({ t with data := v, responseStatus := .ok }, gb, none)) :
    gb.SlaveAnswers slave adr ext := by
  refine ⟨v, gb.cartridge.symfileTracer, gb.joyPad, adr, fun t hcmd ht hext => ?_⟩
  rw [afterRead_self, h t hcmd ht hext, ← ht]

theorem slaveAnswers_of_plain (gb : Gb) {slave : Slave} {adr : U16} {x : RamCell}
    (hx : slave.cell adr = some x) (ext : Option GbCommand) : gb.SlaveAnswers slave adr ext := by
  refine slaveAnswers_of_same (gb.load x) fun t hcmd ht _ => ?_
  subst ht
  exact gb.slaveTransport_read hx hcmd

theorem cartridgeRom_traced (gb : Gb) {adr : U16} (hadr : adr < 0x8000)
    (ext : Option GbCommand) : Answers (slaveTransport .cartridgeRom) gb adr ext
      (gb.cartridge.romByte ⟨adr.toNat, hadr⟩)
      (gb.afterRead (gb.cartridge.traced ext ⟨adr.toNat, hadr⟩) gb.joyPad, none) := by
  obtain ⟨rel, h⟩ := gb.cartridge.bTransportRom_traced hadr ext
  refine ⟨rel, fun t hcmd ht hext => ?_⟩
  rw [slaveTransport, h t hcmd ht hext]
  rfl

theorem cartridgeRom_answers (gb : Gb) {adr : U16} (hadr : adr < 0x8000)
    (ext : Option GbCommand) : ∃ tracer, Answers (slaveTransport .cartridgeRom) gb adr ext
      (gb.cartridge.romByte ⟨adr.toNat, hadr⟩) (gb.afterRead tracer gb.joyPad, none) :=
  ⟨_, gb.cartridgeRom_traced hadr ext⟩

/-- An open external RAM answers, and is the same afterwards. -/
theorem cartridgeRam_ramByte (gb : Gb) {adr : U16} (hadr : adr < 0x2000)
    (ext : Option GbCommand) (hgate : gb.cartridge.ramGate = .answers) :
    Answers (slaveTransport .cartridgeRam) gb adr ext
      (gb.cartridge.ramByte gb.hostTime ⟨adr.toNat, hadr⟩) (gb, none) := by
  obtain ⟨rel, h⟩ := gb.cartridge.bTransportRam_ramByte hadr gb.hostTime ext hgate
  refine ⟨rel, fun t hcmd ht hext => ?_⟩
  rw [slaveTransport, h t hcmd ht hext]
  rfl

theorem cartridgeRam_answers (gb : Gb) {adr : U16} (hadr : adr < 0x2000)
    (ext : Option GbCommand) (hgate : gb.cartridge.ramGate = .answers) :
    gb.SlaveAnswers .cartridgeRam adr ext := by
  obtain ⟨rel, h⟩ := gb.cartridgeRam_ramByte hadr ext hgate
  refine ⟨gb.cartridge.ramByte gb.hostTime ⟨adr.toNat, hadr⟩, gb.cartridge.symfileTracer,
    gb.joyPad, rel, fun t hcmd ht hext => ?_⟩
  rw [afterRead_self]
  exact h t hcmd ht hext

theorem joyPad_answers (gb : Gb) (ext : Option GbCommand) : gb.SlaveAnswers .joyPad 0 ext := by
  refine ⟨gb.joyPad.readReg.regP1, gb.cartridge.symfileTracer, gb.joyPad.readReg, 0,
    fun t hcmd ht _ => ?_⟩
  rw [slaveTransport, gb.joyPad.bTransport_read ht hcmd, afterRead, Cartridge.withTracer_self, ← ht]
  rfl

theorem serial_answers (gb : Gb) {adr : U16} (hadr : adr < 2) (ext : Option GbCommand) :
    gb.SlaveAnswers .serial adr ext := by
  refine slaveAnswers_of_same (if adr = 0 then 0xFF else gb.serial.regSc) fun t hcmd ht _ => ?_
  subst ht
  rw [slaveTransport, gb.serial.bTransport_read hadr hcmd]
  rfl

theorem timer_answers (gb : Gb) {adr : U16} (hadr : adr < 4) (ext : Option GbCommand) :
    gb.SlaveAnswers .timer adr ext := by
  obtain ⟨v, hv⟩ := gb.timer.read_ok hadr
  refine slaveAnswers_of_same v fun t hcmd ht _ => ?_
  subst ht
  rw [slaveTransport, gb.timer.bTransport_read hv hcmd]
  rfl

theorem regIf_answers (gb : Gb) {adr : U16} (hadr : adr < 1) (ext : Option GbCommand) :
    gb.SlaveAnswers .regIf adr ext := by
  refine slaveAnswers_of_same (gb.regIf.data ⟨adr.toNat, hadr⟩) fun t hcmd ht _ => ?_
  subst ht
  rw [slaveTransport, gb.regIf.bTransport_read hcmd hadr]
  rfl

theorem intrEnable_answers (gb : Gb) {adr : U16} (hadr : adr < 1) (ext : Option GbCommand) :
    gb.SlaveAnswers .intrEnable adr ext := by
  refine slaveAnswers_of_same (gb.intrEnable.data ⟨adr.toNat, hadr⟩) fun t hcmd ht _ => ?_
  subst ht
  rw [slaveTransport, gb.intrEnable.bTransport_read hcmd hadr]
  rfl

theorem ioRegisters_answers (gb : Gb) {adr : U16} (hadr : adr < 0x80) (ext : Option GbCommand) :
    gb.SlaveAnswers .ioRegisters adr ext := by
  refine slaveAnswers_of_same (gb.ioRegisters.readByte ⟨adr.toNat, hadr⟩) fun t hcmd ht _ => ?_
  subst ht
  rw [slaveTransport, gb.ioRegisters.bTransport_read ⟨t.address.toNat, hadr⟩ rfl hcmd]
  rfl

/-- Every slave answers in its whole range, but for the third address of `Serial` and a closed
    external RAM. -/
theorem slaveAnswers (gb : Gb) {s : BusSlave} {adr : U16} (hs : findSlave adr = some s)
    (hserial : adr ≠ 0xFF03)
    (hgate : s.socket = .cartridgeRam → gb.cartridge.ramGate = .answers)
    (ext : Option GbCommand) : gb.SlaveAnswers s.socket (adr - s.addrFrom) ext := by
  obtain ⟨hmem, hfrom, hto⟩ := findSlave_eq_some_iff.mp hs
  by_cases hplain : s.socket.isPlain = true
  · have hsize := (plain_ranges s hmem hplain).1
    obtain ⟨x, hx⟩ := @Slave.cell_of_lt s.socket (adr - s.addrFrom) (by bv_omega)
    exact gb.slaveAnswers_of_plain hx ext
  · rcases device_ranges s hmem (Bool.eq_false_of_not_eq_true hplain) with
      rfl | rfl | rfl | rfl | rfl | rfl | rfl | rfl
    · obtain ⟨tracer, h⟩ := @cartridgeRom_answers gb (adr - 0) (by bv_omega) ext
      exact ⟨_, tracer, gb.joyPad, h⟩
    · exact gb.cartridgeRam_answers (by bv_omega) ext (hgate rfl)
    · obtain rfl : adr = 0xFF00 := by bv_omega
      exact gb.joyPad_answers ext
    · exact gb.serial_answers (by bv_omega) ext
    · exact gb.timer_answers (by bv_omega) ext
    · exact gb.regIf_answers (by bv_omega) ext
    · exact gb.ioRegisters_answers (by bv_omega) ext
    · exact gb.intrEnable_answers (by bv_omega) ext

/-! ## The bus -/

/-- Every mapped address is answered, but for 0xFF03 and a closed external RAM. -/
theorem routeTransport_answers (gb : Gb) {adr : U16} (hmapped : (findSlave adr).isSome = true)
    (hserial : adr ≠ 0xFF03)
    (hgate : 0xA000 ≤ adr → adr ≤ 0xBFFF → gb.cartridge.ramGate = .answers)
    (ext : Option GbCommand) : ∃ v tracer j,
      Answers routeTransport gb adr ext v (gb.afterRead tracer j, none) := by
  obtain ⟨s, hs⟩ := Option.isSome_iff_exists.mp hmapped
  obtain ⟨hmem, hfrom, hto⟩ := findSlave_eq_some_iff.mp hs
  have hgate' : s.socket = .cartridgeRam → gb.cartridge.ramGate = .answers := by
    intro hram
    obtain ⟨hlo, hhi⟩ := cartridgeRam_range s hmem hram
    exact hgate (by bv_omega) (by bv_omega)
  obtain ⟨v, tracer, j, rel, h⟩ := gb.slaveAnswers hs hserial hgate' ext
  refine ⟨v, tracer, j, rel, fun t hcmd ht hext => ?_⟩
  subst ht
  rw [routeTransport_mapped gb hs]
  exact h { t with address := t.address - s.addrFrom } hcmd rfl hext

/-- An access to a silent external RAM. -/
theorem routeTransport_silent (gb : Gb) {t : Payload} (hlo : 0xA000 ≤ t.address)
    (hhi : t.address ≤ 0xBFFF) (hgate : gb.cartridge.ramGate = .silent) :
    gb.routeTransport t = .ok ({ t with address := t.address - 0xA000 }, gb, none) := by
  have hs : findSlave t.address = some ⟨0xA000, 0xBFFF, .cartridgeRam⟩ :=
    findSlave_eq_some_iff.mpr ⟨by decide, hlo, hhi⟩
  rw [routeTransport_mapped gb hs, slaveTransport,
    gb.cartridge.bTransportRam_silent (by show t.address - 0xA000 < 0x2000; bv_omega) _ hgate]
  rfl

/-- An access to a refusing external RAM. -/
theorem routeTransport_refuses (gb : Gb) {t : Payload} (hlo : 0xA000 ≤ t.address)
    (hhi : t.address ≤ 0xBFFF) (hgate : gb.cartridge.ramGate = .refuses) :
    gb.routeTransport t = .error (.assertion "false") := by
  have hs : findSlave t.address = some ⟨0xA000, 0xBFFF, .cartridgeRam⟩ :=
    findSlave_eq_some_iff.mpr ⟨by decide, hlo, hhi⟩
  rw [routeTransport_mapped gb hs, slaveTransport,
    gb.cartridge.bTransportRam_refuses (by show t.address - 0xA000 < 0x2000; bv_omega) _ hgate]
  rfl

/-- The bus maps 0xFF03 to `Serial`, which has no register there. -/
theorem routeTransport_FF03 (gb : Gb) {t : Payload} (hadr : t.address = 0xFF03) :
    gb.routeTransport t = .error (.assertion "adr < 0x2") := by
  have hs : findSlave t.address = some ⟨0xFF01, 0xFF03, .serial⟩ := by
    rw [hadr]
    decide
  rw [routeTransport_mapped gb hs, slaveTransport,
    gb.serial.bTransport_third (by show t.address - 0xFF01 = 2; rw [hadr]; decide)]
  rfl

end Gb

end TlmBoy
