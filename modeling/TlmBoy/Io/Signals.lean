import TlmBoy.Bus.IoWrites

/-
  Which signal a write to an I/O register writes.

  `signalled` is the signal and its new value, `writtenSignals` the signals that the write leaves.
  With `writtenData` they are all that a guest's write does to `IoRegisters`, and no other
  transaction does anything (`Gb.bTransport_written`).
-/

namespace TlmBoy

namespace IoRegisters

/-- A control register's trigger bit toggles the signal. -/
def triggered (sig : IoSignal) (v : U8) (io : IoRegisters) : Option (IoSignal × Bool) :=
  if (v &&& 0b10000000) != 0 then some (sig, !(io.signals sig).value) else none

/-- The signal that the write switch writes, and the value it writes. A toggled signal gets the
    negation of its current value. -/
def signalled (i : Fin 0x80) (v : U8) (io : IoRegisters) : Option (IoSignal × Bool) :=
  match i.val with
  | 0x00 => some (.reloadLengthSquare1, !(io.signals .reloadLengthSquare1).value)
  | 0x04 => io.triggered .triggerSquare1 v
  | 0x06 => some (.reloadLengthSquare2, !(io.signals .reloadLengthSquare2).value)
  | 0x09 => io.triggered .triggerSquare2 v
  | 0x0B => some (.reloadLengthWave, true)
  | 0x10 => some (.reloadLengthNoise, true)
  | 0x13 => io.triggered .triggerNoise v
  | 0x40 => if v = 1 then some (.unmapRom, true) else none
  | _ => none

/-- The signals after one of them has been written. -/
def withSignal (io : IoRegisters) : Option (IoSignal × Bool) → IoSignal → ScSignal
  | some (sig, b) => Function.update io.signals sig ((io.signals sig).write b)
  | none => io.signals

/-- The signals after a guest's write of `v` to register `i`. -/
def writtenSignals (i : Fin 0x80) (v : U8) (io : IoRegisters) : IoSignal → ScSignal :=
  if (io.afterPowerOff i v).Ignores i then io.signals else io.withSignal (io.signalled i v)

theorem writeReg_signals {io io' : IoRegisters} {adr : U16} (i : Fin 0x80)
    (hadr : adr.toNat = i.val) {v : U8} {dma : Option U8}
    (h : io.writeReg adr v = .ok (io', dma)) : io'.signals = io.withSignal (io.signalled i v) := by
  have hstore : ∀ (io₁ : IoRegisters) (b : U8),
      io₁.storeReg adr b = .ok { io₁ with data := Function.update io₁.data i b } :=
    fun io₁ b => io₁.storeReg_ok i hadr b
  have htrigger : ∀ sig, (if ((v &&& 0b10000000) != 0) = true then
      ({ io with data := Function.update io.data i v } : IoRegisters).toggle sig
      else { io with data := Function.update io.data i v }).signals =
      io.withSignal (io.triggered sig v) := by
    intro sig
    unfold triggered
    by_cases hv : ((v &&& 0b10000000) != 0) = true
    · rw [if_pos hv, if_pos hv]
      rfl
    · rw [if_neg hv, if_neg hv]
      rfl
  unfold writeReg at h
  unfold signalled
  rw [hadr] at h
  generalize hn : i.val = n at h
  split at h
  case h_2 | h_4 | h_7 =>
    rw [hstore] at h
    cases h
    exact htrigger _
  case h_11 =>
    cases h
    by_cases hv : v = 1
    · rw [if_pos hv, if_pos hv]
      rfl
    · rw [if_neg hv, if_neg hv]
      rfl
  case h_10 | h_12 =>
    cases h
    rfl
  case h_13 =>
    rw [hstore] at h
    cases h
    split <;> first | rfl | contradiction
  all_goals
    rw [hstore] at h
    cases h
    rfl

theorem bTransport_signals {io io' : IoRegisters} {t t' : Payload} {dma : Option U8}
    {i : Fin 0x80} (hadr : t.address.toNat = i.val) (hcmd : t.command = .write)
    (h : io.bTransport t = .ok (t', io', dma)) : io'.signals = io.writtenSignals i t.data := by
  have h16 : t.address = 0x16 ↔ i.val = 0x16 := by bv_omega
  have h20 : t.address < 0x20 ↔ i.val < 0x20 := by bv_omega
  have hoff : (if t.address = 0x16 ∧ (t.data &&& 0b10000000) = 0 then io.apuOff else io) =
      io.afterPowerOff i t.data := if_congr (and_congr_left' h16) rfl rfl
  rw [bTransport, hcmd] at h
  dsimp only at h
  rw [hoff] at h
  have hsame : (io.afterPowerOff i t.data).signals = io.signals := by
    unfold afterPowerOff
    split_ifs <;> rfl
  have hsignals : (io.afterPowerOff i t.data).withSignal
      ((io.afterPowerOff i t.data).signalled i t.data) =
        io.withSignal (io.signalled i t.data) := by
    have heq : (io.afterPowerOff i t.data).signalled i t.data = io.signalled i t.data := by
      simp only [signalled, triggered, hsame]
    rw [heq]
    cases io.signalled i t.data with
    | none => exact hsame
    | some r =>
      simp only [withSignal, hsame]
  by_cases hign : (io.afterPowerOff i t.data).Ignores i
  · rw [if_pos ⟨h20.mpr hign.1, fun h => hign.2.1 (h16.mp h), hign.2.2⟩] at h
    cases h
    rw [writtenSignals, if_pos hign]
    exact hsame
  · rw [if_neg fun hc => hign ⟨h20.mp hc.1, fun h => hc.2.1 (h16.mpr h), hc.2.2⟩] at h
    obtain ⟨⟨io₁, dma₁⟩, hreg, h⟩ := StateExcept.except_bind_eq_ok h
    cases h
    rw [writtenSignals, if_neg hign, writeReg_signals i hadr hreg]
    exact hsignals

/-- What a guest's write of `v` to register `i` leaves. -/
def written (i : Fin 0x80) (v : U8) (io : IoRegisters) : IoRegisters :=
  { data := io.writtenData i v, signals := io.writtenSignals i v }

theorem bTransport_write_eq {io io' : IoRegisters} {t t' : Payload} {dma : Option U8}
    {i : Fin 0x80} (hadr : t.address.toNat = i.val) (hcmd : t.command = .write)
    (h : io.bTransport t = .ok (t', io', dma)) : io' = io.written i t.data := by
  have hsignals := bTransport_signals hadr hcmd h
  rcases bTransport_data hadr h with ⟨hne, -⟩ | ⟨-, hdata⟩
  · exact absurd hcmd hne
  · obtain ⟨⟨data⟩, signals⟩ := io'
    cases hdata
    cases hsignals
    rfl

theorem bTransport_of_ne_write {io io' : IoRegisters} {t t' : Payload} {dma : Option U8}
    {i : Fin 0x80} (hadr : t.address.toNat = i.val) (hcmd : t.command ≠ .write)
    (h : io.bTransport t = .ok (t', io', dma)) : io' = io := by
  cases hc : t.command with
  | read =>
    rw [io.bTransport_read i hadr hc] at h
    cases h
    rfl
  | ignore =>
    rw [bTransport, hc] at h
    cases h
    rfl
  | write => exact absurd hc hcmd

end IoRegisters

namespace Gb

/-- What a transaction does to the I/O registers, by its command and its address. -/
theorem bTransport_written {gb gb' : Gb} {t t' : Payload} (h : gb.bTransport t = .ok (t', gb')) :
    (¬ (t.command = .write ∧ 0xFF10 ≤ t.address ∧ t.address ≤ 0xFF7F) ∧
        gb'.ioRegisters = gb.ioRegisters) ∨
      ∃ i : Fin 0x80, t.command = .write ∧ t.address = 0xFF10 + BitVec.ofNat 16 i.val ∧
        gb'.ioRegisters = gb.ioRegisters.written i t.data := by
  rcases bTransport_ioAccess h with ⟨hadr, hsame⟩ | ⟨i, u, dma, hadr, hi, hio⟩
  · exact .inl ⟨fun hwrite => hadr hwrite.2, hsame⟩
  · by_cases hcmd : t.command = .write
    · have hwritten := IoRegisters.bTransport_write_eq
        (t := { t with address := t.address - 0xFF10 }) hi hcmd hio
      exact .inr ⟨i, hcmd, hadr, hwritten⟩
    · have hsame := IoRegisters.bTransport_of_ne_write
        (t := { t with address := t.address - 0xFF10 }) hi hcmd hio
      exact .inl ⟨fun hwrite => hcmd hwrite.1, hsame⟩

end Gb

end TlmBoy
