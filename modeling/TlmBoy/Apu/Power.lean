import TlmBoy.Apu.Sound
import TlmBoy.Cartridge.Basic

/-
  Turning the APU off and on through bit 7 of NR52.

  A comment of the source says what a power-off keeps: 0xFF20 and the wave RAM. The code saves
  and restores the byte at offset 0xA, which is NR30, where 0xFF20 is at 0x10. `contract_iff` says
  for which runs that makes no difference. The second half of the contract, that the registers
  ignore writes while the APU is off, holds in every run (`run_off`).
-/

namespace TlmBoy

namespace IoRegisters

/-- Bit 7 of NR52 is clear. -/
def Off (io : IoRegisters) : Prop := io.regNr52 &&& 0b10000000 = 0

instance (io : IoRegisters) : Decidable io.Off := by
  unfold Off
  infer_instance

/-- The registers after a write to NR52 with bit 7 clear. -/
theorem written_powerOff (io : IoRegisters) {v : U8} (hv : v &&& 0b10000000 = 0) (k : Fin 0x80) :
    (io.written 0x16 v).data k = if k.val < 0x20 ∧ k.val ≠ 0xA then 0 else io.data k := by
  have hoff : io.afterPowerOff 0x16 v = io.apuOff := if_pos ⟨rfl, hv⟩
  have hkept : ¬ io.apuOff.Ignores 0x16 := fun h => h.2.1 rfl
  have hstored : io.apuOff.storedData 0x16 v = Function.update io.apuOff.data 0x16 0 := by
    rw [← hv]
    rfl
  have hdata : (io.written 0x16 v).data = io.apuOff.data := by
    show io.writtenData 0x16 v = io.apuOff.data
    rw [writtenData, hoff, if_neg hkept, hstored]
    exact Function.update_eq_self (0x16 : Fin 0x80) io.apuOff.data
  rw [hdata]
  rfl

/-- A write to a register below 0xFF30 other than NR52 is ignored while the APU is off. -/
theorem written_of_off {io : IoRegisters} (hoff : io.Off) {i : Fin 0x80} (hi : i.val < 0x20)
    (h16 : i.val ≠ 0x16) (v : U8) : io.written i v = io := by
  have hafter : io.afterPowerOff i v = io := if_neg fun h => h16 h.1
  have hign : (io.afterPowerOff i v).Ignores i := by
    rw [hafter]
    exact ⟨hi, h16, hoff⟩
  rw [written, writtenData, writtenSignals, if_pos hign, if_pos hign, hafter]

/-- What a write leaves of NR52. -/
theorem written_nr52 (io : IoRegisters) (i : Fin 0x80) (v : U8) :
    (io.written i v).regNr52 = if i = 0x16 then v &&& 0b10000000 else io.regNr52 := by
  by_cases hi : i = 0x16
  · subst hi
    have hkept : ¬ (io.afterPowerOff 0x16 v).Ignores 0x16 := fun h => h.2.1 rfl
    rw [if_pos rfl]
    show io.writtenData 0x16 v 0x16 = v &&& 0b10000000
    rw [writtenData, if_neg hkept]
    show Function.update (io.afterPowerOff 0x16 v).data 0x16 (v &&& 0b10000000) 0x16 = _
    exact Function.update_self ..
  · have hafter : io.afterPowerOff i v = io := if_neg fun h => hi (Fin.ext h.1)
    rw [if_neg hi]
    show io.writtenData i v 0x16 = io.data 0x16
    rw [writtenData, hafter]
    split_ifs
    · rfl
    · exact storedData_of_ne (Ne.symm hi) v io

end IoRegisters

namespace Sound

/-! ## Power-off and power-on -/

/-- A write to NR52 with bit 7 clear. -/
def PowersOff : Event → Prop
  | .access t => t.command = .write ∧ t.address = 0xFF26 ∧ t.data &&& 0b10000000 = 0
  | _ => False

/-- A write to NR52 with bit 7 set. -/
def PowersOn : Event → Prop
  | .access t => t.command = .write ∧ t.address = 0xFF26 ∧ t.data &&& 0b10000000 ≠ 0
  | _ => False

/-- A guest's write to 0xFF10-0xFF25 or 0xFF27-0xFF2F. -/
def WritesSound : Event → Prop
  | .access t => t.command = .write ∧ 0xFF10 ≤ t.address ∧ t.address ≤ 0xFF2F ∧ t.address ≠ 0xFF26
  | _ => False

/-- What the source says of a power-off. -/
structure PowerContract (game : List U8) (s : Sound) (es : List Event) : Prop where
  /-- It zeroes the sound registers but for 0xFF20, and keeps that one and the wave RAM. -/
  clears : ∀ pre e suf m m', es = pre ++ e :: suf → pre.foldlM (step game) s = .ok m →
    step game m e = .ok m' → PowersOff e → ∀ k : Fin 0x80, k.val < 0x30 →
      m'.io.data k = if k.val < 0x20 ∧ k.val ≠ 0x10 then 0 else m.io.data k
  /-- Until the next power-on, no write to a sound register stores a byte or writes a signal. -/
  mutes : ∀ pre e mid f suf m m', es = pre ++ e :: mid ++ f :: suf → PowersOff e →
    (∀ g ∈ mid, ¬ PowersOn g) → (pre ++ e :: mid).foldlM (step game) s = .ok m →
    step game m f = .ok m' → WritesSound f → m'.io = m.io

theorem step_powersOff {game : List U8} {s s' : Sound} {e : Event} (he : PowersOff e)
    (h : step game s e = .ok s') (k : Fin 0x80) :
    s'.io.data k = if k.val < 0x20 ∧ k.val ≠ 0xA then 0 else s.io.data k := by
  cases e with
  | access t =>
    obtain ⟨hcmd, hadr, hv⟩ := he
    obtain ⟨-, ⟨hno, -⟩ | ⟨i, -, hi, hio⟩⟩ := step_access h
    · exact absurd ⟨hcmd, by rw [hadr]; decide⟩ hno
    · obtain rfl : i = 0x16 := by
        have hlt := i.isLt
        refine Fin.ext ?_
        show i.val = 0x16
        bv_omega
      rw [hio]
      exact s.io.written_powerOff hv k
  | _ => exact he.elim

/-- Nothing but a write to NR52 changes its power bit. -/
theorem step_power {game : List U8} {s s' : Sound} {e : Event} (h : step game s e = .ok s')
    (hoff : ¬ PowersOff e) (hon : ¬ PowersOn e) :
    s'.io.regNr52 &&& 0b10000000 = s.io.regNr52 &&& 0b10000000 := by
  rcases step_process h with ⟨t, rfl⟩ | ⟨ports, rfl⟩ | ⟨-, -, hwrites⟩
  · obtain ⟨-, ⟨-, hio⟩ | ⟨i, hcmd, hi, hio⟩⟩ := step_access h
    · rw [hio]
    · have hne : i ≠ 0x16 := by
        rintro rfl
        by_cases hv : t.data &&& 0b10000000 = 0
        · exact hoff ⟨hcmd, hi, hv⟩
        · exact hon ⟨hcmd, hi, hv⟩
      rw [hio, IoRegisters.written_nr52, if_neg hne]
  · exact (step_deliver_writes h).power
  · exact hwrites.power

theorem off_of_step {game : List U8} {s s' : Sound} {e : Event} (he : PowersOff e)
    (h : step game s e = .ok s') : s'.io.Off := by
  have h16 := step_powersOff he h 0x16
  rw [if_pos (by decide)] at h16
  show s'.io.data 0x16 &&& 0b10000000 = 0
  rw [h16]
  rfl

/-- The APU stays off until it is turned on. -/
theorem step_off {game : List U8} {s s' : Sound} {e : Event} (hon : ¬ PowersOn e)
    (h : step game s e = .ok s') (hs : s.io.Off) : s'.io.Off := by
  by_cases hoff : PowersOff e
  · exact off_of_step hoff h
  · exact (step_power h hoff hon).trans hs

theorem run_off {game : List U8} {s s' : Sound} {es : List Event} (hes : ∀ e ∈ es, ¬ PowersOn e)
    (hrun : es.foldlM (step game) s = .ok s') (hs : s.io.Off) : s'.io.Off := by
  refine History.run_guarded (fun _ e => ¬ PowersOn e)
    (fun _ _ _ hon hstep hoff => step_off hon hstep hoff) hrun ?_ hs
  rintro pre e suf - rfl -
  exact hes e (by simp)

theorem step_muted {game : List U8} {s s' : Sound} {e : Event} (he : WritesSound e)
    (h : step game s e = .ok s') (hs : s.io.Off) : s'.io = s.io := by
  cases e with
  | access t =>
    obtain ⟨hcmd, hlo, hhi, hne⟩ := he
    obtain ⟨-, ⟨-, hio⟩ | ⟨i, -, hi, hio⟩⟩ := step_access h
    · exact hio
    · have hlt := i.isLt
      rw [hio]
      exact IoRegisters.written_of_off hs (by bv_omega) (by bv_omega) t.data
  | _ => exact he.elim

/-- A power-off does not fail. -/
theorem step_powersOff_ok (game : List U8) (s : Sound) {e : Event} (he : PowersOff e) :
    ∃ s', step game s e = .ok s' := by
  cases e with
  | access t =>
    obtain ⟨hcmd, hadr, -⟩ := he
    have hs : findSlave t.address = some ⟨0xFF10, 0xFF7F, .ioRegisters⟩ := by
      rw [hadr]
      decide
    have hserial : t.address ≠ 0xFF03 := by
      rw [hadr]
      decide
    have hdma : ¬ (t.address = 0xFF46 ∧ s.gb.DmaFaults t.data) := by
      rintro ⟨h46, -⟩
      exact absurd (hadr.symm.trans h46) (by decide)
    have hhandled := (Gb.writeHandled_iff hs (by decide) (by decide) hserial t.data).mpr hdma
    obtain ⟨t', gb', hok, -⟩ := hhandled t hcmd rfl rfl
    exact ⟨{ s with gb := gb' }, by rw [step, Gb.access, hok]; rfl⟩
  | _ => exact he.elim

/-- A run keeps the contract if and only if NR30 and 0xFF20 are zero whenever it turns the APU
    off. -/
theorem contract_iff (game : List U8) (s : Sound) (es : List Event) :
    PowerContract game s es ↔ ∀ pre e suf m, es = pre ++ e :: suf →
      pre.foldlM (step game) s = .ok m → PowersOff e →
        m.io.regNr30 = 0 ∧ m.io.data 0x10 = 0 := by
  constructor
  · intro h pre e suf m hes hm he
    obtain ⟨m', hstep⟩ := step_powersOff_ok game m he
    have hclears := h.clears pre e suf m m' hes hm hstep he
    have hA := (step_powersOff he hstep 0xA).symm.trans (hclears 0xA (by decide))
    have h10 := (step_powersOff he hstep 0x10).symm.trans (hclears 0x10 (by decide))
    exact ⟨hA, h10.symm⟩
  · intro h
    constructor
    · intro pre e suf m m' hes hm hstep he k hk
      obtain ⟨hA, h10⟩ := h pre e suf m hes hm he
      rw [step_powersOff he hstep k]
      by_cases hkA : k.val = 0xA
      · obtain rfl : k = 0xA := Fin.ext hkA
        rw [if_neg (by decide), if_pos (by decide)]
        exact hA
      · by_cases hk10 : k.val = 0x10
        · obtain rfl : k = 0x10 := Fin.ext hk10
          rw [if_pos (by decide), if_neg (by decide)]
          exact h10.symm
        · exact if_congr (and_congr_right' (by simp [hkA, hk10])) rfl rfl
    · intro pre e mid f suf m m' hes he hmid hm hstep hf
      rw [List.foldlM_append] at hm
      obtain ⟨m₀, -, hm⟩ := StateExcept.except_bind_eq_ok hm
      rw [List.foldlM_cons] at hm
      obtain ⟨m₁, hfirst, hrun⟩ := StateExcept.except_bind_eq_ok hm
      exact step_muted hf hstep (run_off hmid hrun (off_of_step he hfirst))

/-! ## NR30 outlives a power-off -/

def guestWrite (adr : U16) (v : U8) : Event :=
  .access { command := .write, address := adr, data := v }

/-- The APU is turned on, the wave channel's DAC is switched on, and the APU is turned off. -/
theorem nr30_outlives : ¬ PowerContract [] { gb := Gb.powerOn .blank }
    [guestWrite 0xFF26 0x80, guestWrite 0xFF1A 0x80, guestWrite 0xFF26 0] := by
  intro h
  have hrun : ([guestWrite 0xFF26 0x80, guestWrite 0xFF1A 0x80].foldlM (step [])
      { gb := Gb.powerOn .blank }).map (fun m => m.io.regNr30) = .ok 0x80 := by
    decide +kernel
  obtain ⟨m, hm, hnr30⟩ := StateExcept.map_eq_ok hrun
  have hoff : PowersOff (guestWrite 0xFF26 0) := ⟨rfl, rfl, rfl⟩
  obtain ⟨m', hstep⟩ := step_powersOff_ok [] m hoff
  have hclears := h.clears [guestWrite 0xFF26 0x80, guestWrite 0xFF1A 0x80]
    (guestWrite 0xFF26 0) [] m m' rfl hm hstep hoff 0xA (by decide)
  rw [step_powersOff hoff hstep, if_neg (by decide), if_pos (by decide)] at hclears
  exact absurd (hnr30.symm.trans hclears) (by decide)

end Sound

end TlmBoy
