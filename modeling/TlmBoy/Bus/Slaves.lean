import TlmBoy.Bus.Routing

/-
  What each slave with registers of its own does with a guest's read and write.

  A read is described by the byte it gives and the device it leaves, a write by the device it
  leaves. Neither depends on the response status or the data byte that the payload came with.
  `IoRegisters` is described by what a write stores (`stored`): one byte at the address, after
  an APU power-off has cleared the sound registers.
-/

namespace TlmBoy

/-! ## `JoyPad` -/

theorem JoyPad.bTransport_read (j : JoyPad) {t : Payload} (hadr : t.address = 0)
    (hcmd : t.command = .read) : j.bTransport t =
      .ok ({ t with data := j.readReg.regP1, responseStatus := .ok }, j.readReg) := by
  rw [bTransport, cAssert_pos hadr, hcmd]
  rfl

theorem JoyPad.bTransport_write (j : JoyPad) {t : Payload} (hadr : t.address = 0)
    (hcmd : t.command = .write) :
    j.bTransport t = .ok ({ t with responseStatus := .ok }, j.writeReg t.data) := by
  rw [bTransport, cAssert_pos hadr, hcmd]
  rfl

/-! ## `Serial` -/

theorem Serial.bTransport_read (s : Serial) {t : Payload} (hadr : t.address < 2)
    (hcmd : t.command = .read) : s.bTransport t =
      .ok ({ t with
        data := if t.address = 0 then 0xFF else s.regSc, responseStatus := .ok }, s) := by
  rw [bTransport, cAssert_pos hadr, hcmd]
  rfl

theorem Serial.bTransport_write (s : Serial) {t : Payload} (hadr : t.address < 2)
    (hcmd : t.command = .write) :
    ∃ s', s.bTransport t = .ok ({ t with responseStatus := .ok }, s') := by
  rw [bTransport, cAssert_pos hadr, hcmd]
  exact ⟨_, rfl⟩

/-- The third address of its range is none that `Serial` has a register for. -/
theorem Serial.bTransport_third (s : Serial) {t : Payload} (hadr : t.address = 2) :
    s.bTransport t = .error (.assertion "adr < 0x2") := by
  rw [bTransport, hadr, cAssert_neg (by decide)]
  rfl

/-! ## `Timer` -/

theorem Timer.read_ok (tm : Timer) {adr : U16} (hadr : adr < 4) : ∃ v, tm.read adr = .ok v := by
  obtain h | h | h | h : adr.toNat = 0 ∨ adr.toNat = 1 ∨ adr.toNat = 2 ∨ adr.toNat = 3 := by
    bv_omega
  all_goals
    unfold Timer.read
    rw [h]
    exact ⟨_, rfl⟩

theorem Timer.write_ok (tm : Timer) {adr : U16} (v : U8) (hadr : adr < 4) :
    ∃ tm', tm.write adr v = .ok tm' := by
  obtain h | h | h | h : adr.toNat = 0 ∨ adr.toNat = 1 ∨ adr.toNat = 2 ∨ adr.toNat = 3 := by
    bv_omega
  all_goals
    unfold Timer.write
    rw [h]
    exact ⟨_, rfl⟩

theorem Timer.bTransport_read (tm : Timer) {t : Payload} {v : U8} (hv : tm.read t.address = .ok v)
    (hcmd : t.command = .read) :
    tm.bTransport t = .ok ({ t with data := v, responseStatus := .ok }, tm) := by
  rw [bTransport, hv, hcmd]
  rfl

theorem Timer.bTransport_write (tm : Timer) {t : Payload} (hadr : t.address < 4)
    (hcmd : t.command = .write) :
    ∃ tm', tm.bTransport t = .ok ({ t with responseStatus := .ok }, tm') := by
  obtain ⟨v, hv⟩ := tm.read_ok hadr
  obtain ⟨tm', hw⟩ := tm.write_ok t.data hadr
  rw [bTransport, hv, hcmd]
  dsimp only [ok_bind]
  rw [hw]
  exact ⟨tm', rfl⟩

/-! ## `IoRegisters` -/

namespace IoRegisters

/-- The byte that a read gives. -/
def readByte (i : Fin 0x80) (io : IoRegisters) : U8 :=
  match readMask (BitVec.ofNat 16 i.val) with
  | some mask => mask ||| io.data i
  | none => io.data i

theorem bTransport_read (io : IoRegisters) {t : Payload} (i : Fin 0x80)
    (hadr : t.address.toNat = i.val) (hcmd : t.command = .read) :
    io.bTransport t = .ok ({ t with data := io.readByte i, responseStatus := .ok }, io, none) := by
  have hload : io.toGenericMemory.load t.address = .ok (io.data i) := by
    rw [GenericMemory.load, dif_pos (by rw [hadr]; exact i.isLt)]
    simp only [hadr]
  have hadr' : t.address = BitVec.ofNat 16 i.val := by
    rw [← hadr, BitVec.ofNat_toNat, BitVec.setWidth_eq]
  rw [bTransport, hcmd]
  dsimp only
  rw [hload, ok_bind, readByte, ← hadr']
  rfl

/-- What a write of `v` stores at its address, if anything. -/
def stored (i : Fin 0x80) (v : U8) (io : IoRegisters) : Option U8 :=
  match i.val with
  | 0x16 => some (v &&& 0b10000000)
  | 0x31 => some ((v &&& 0x78) ||| (io.data 0x31 &&& 0x07))
  | 0x36 | 0x40 | 0x7F => none
  | _ => some v

/-- The registers after a write to register `i`. -/
def storedData (i : Fin 0x80) (v : U8) (io : IoRegisters) : Fin 0x80 → U8 :=
  match io.stored i v with
  | some b => Function.update io.data i b
  | none => io.data

theorem storeReg_ok (io : IoRegisters) {adr : U16} (i : Fin 0x80) (hadr : adr.toNat = i.val)
    (v : U8) : io.storeReg adr v = .ok { io with data := Function.update io.data i v } := by
  have hstore : io.toGenericMemory.store adr v = .ok ⟨Function.update io.data i v⟩ := by
    rw [GenericMemory.store, dif_pos (by rw [hadr]; exact i.isLt)]
    simp only [hadr]
  rw [storeReg, hstore]
  rfl

/-- Most registers store what is written. -/
theorem stored_other (io : IoRegisters) {i : Fin 0x80} (v : U8) (h16 : i.val ≠ 0x16)
    (h31 : i.val ≠ 0x31) (h36 : i.val ≠ 0x36) (h40 : i.val ≠ 0x40) (h7F : i.val ≠ 0x7F) :
    io.stored i v = some v := by
  unfold stored
  split
  · exact absurd ‹_› h16
  · exact absurd ‹_› h31
  · exact absurd ‹_› h36
  · exact absurd ‹_› h40
  · exact absurd ‹_› h7F
  · rfl

/-- A trigger signal is no register. -/
theorem ite_toggle (trigger : Bool) (sig : IoSignal) (io : IoRegisters) :
    (if trigger = true then io.toggle sig else io) =
      { io with signals := (if trigger = true then io.toggle sig else io).signals } := by
  by_cases h : trigger = true
  · rw [if_pos h]
    rfl
  · rw [if_neg h]

/-- A write stores one byte at most, and starts an OAM DMA at 0xFF46 only. -/
theorem writeReg_eq (io : IoRegisters) {adr : U16} (i : Fin 0x80) (hadr : adr.toNat = i.val)
    (v : U8) : ∃ signals, io.writeReg adr v = .ok ({ io with data := io.storedData i v, signals },
      if i.val = 0x36 then some v else none) := by
  have hstore : ∀ (io' : IoRegisters) (b : U8),
      io'.storeReg adr b = .ok { io' with data := Function.update io'.data i b } :=
    fun io' b => io'.storeReg_ok i hadr b
  have htrigger : ∀ sig, ∃ signals,
      (if ((v &&& 0b10000000) != 0) = true then
          ({ io with data := Function.update io.data i v } : IoRegisters).toggle sig
        else { io with data := Function.update io.data i v }) =
        { io with data := Function.update io.data i v, signals } :=
    fun sig => ⟨_, ite_toggle _ sig _⟩
  unfold writeReg storedData stored
  rw [hadr]
  generalize hn : i.val = n
  split
  case h_1 | h_3 | h_5 | h_6 | h_8 | h_9 =>
    rw [hstore]
    exact ⟨_, rfl⟩
  case h_2 | h_4 | h_7 =>
    rw [hstore]
    obtain ⟨signals, h⟩ := htrigger _
    exact ⟨signals, congrArg (fun io' => Except.ok (io', none)) h⟩
  case h_10 | h_12 => exact ⟨_, rfl⟩
  case h_11 =>
    by_cases hv : v = 1
    · exact ⟨_, by dsimp only; rw [if_pos hv]; rfl⟩
    · exact ⟨_, by dsimp only; rw [if_neg hv]; rfl⟩
  case h_13 h16 h31 h36 h40 h7F =>
    have hst := @stored_other io i v (hn ▸ h16) (hn ▸ h31) (hn ▸ h36) (hn ▸ h40) (hn ▸ h7F)
    unfold stored at hst
    rw [hn] at hst
    rw [hstore, if_neg h36, hst]
    exact ⟨io.signals, rfl⟩

/-- A write to NR52 with bit 7 clear turns the APU off first. -/
def afterPowerOff (i : Fin 0x80) (v : U8) (io : IoRegisters) : IoRegisters :=
  if i.val = 0x16 ∧ (v &&& 0b10000000) = 0 then io.apuOff else io

/-- While the APU is off its registers ignore writes. -/
def Ignores (i : Fin 0x80) (io : IoRegisters) : Prop :=
  i.val < 0x20 ∧ i.val ≠ 0x16 ∧ (io.data 0x16 &&& 0b10000000) = 0

instance (i : Fin 0x80) (io : IoRegisters) : Decidable (io.Ignores i) := by
  unfold Ignores
  infer_instance

/-- The registers after a guest's write of `v` to register `i`. -/
def writtenData (i : Fin 0x80) (v : U8) (io : IoRegisters) : Fin 0x80 → U8 :=
  if (io.afterPowerOff i v).Ignores i then (io.afterPowerOff i v).data
  else (io.afterPowerOff i v).storedData i v

theorem afterPowerOff_signals (i : Fin 0x80) (v : U8) (io : IoRegisters) :
    io.afterPowerOff i v = { io with data := (io.afterPowerOff i v).data } := by
  unfold afterPowerOff
  split_ifs <;> rfl

theorem bTransport_write (io : IoRegisters) {t : Payload} (i : Fin 0x80)
    (hadr : t.address.toNat = i.val) (hcmd : t.command = .write) :
    ∃ signals, io.bTransport t = .ok ({ t with responseStatus := .ok },
      { io with data := io.writtenData i t.data, signals },
      if i.val = 0x36 then some t.data else none) := by
  have h16 : t.address = 0x16 ↔ i.val = 0x16 := by bv_omega
  have h20 : t.address < 0x20 ↔ i.val < 0x20 := by bv_omega
  obtain ⟨signals, hreg⟩ := (io.afterPowerOff i t.data).writeReg_eq i hadr t.data
  have hrun : io.bTransport t =
      (if (io.afterPowerOff i t.data).Ignores i then
        .ok ({ t with responseStatus := .ok }, io.afterPowerOff i t.data, none)
      else (io.afterPowerOff i t.data).writeReg t.address t.data >>= fun r =>
        .ok ({ t with responseStatus := .ok }, r.1, r.2)) := by
    have hoff : (if t.address = 0x16 ∧ (t.data &&& 0b10000000) = 0 then io.apuOff else io) =
        io.afterPowerOff i t.data := if_congr (and_congr_left' h16) rfl rfl
    rw [bTransport, hcmd]
    dsimp only
    rw [hoff]
    exact if_congr (and_congr h20 (and_congr_left' (not_congr h16))) rfl rfl
  rw [hrun, writtenData]
  by_cases hign : (io.afterPowerOff i t.data).Ignores i
  · have hi : i.val ≠ 0x36 := fun h => by
      have := hign.1
      omega
    rw [if_pos hign, if_pos hign, if_neg hi]
    exact ⟨io.signals, by rw [← afterPowerOff_signals]⟩
  · rw [if_neg hign, if_neg hign, hreg]
    exact ⟨signals, rfl⟩

end IoRegisters

end TlmBoy
