import TlmBoy.Cartridge.Mbc3

/-
  The five registers of the real time clock of `Mbc3` as digits of the host time.

  Seconds, minutes and days are taken with their own moduli, the hours with 60 in place of 24.
  `rtc_digits_iff` says when the five registers are the digits of the time nevertheless: on the
  first day of every five since the epoch.
-/

namespace TlmBoy

/-! ## Quotients and remainders of a time that is not negative -/

theorem msb_eq_false_of_lt {x : I64} (hx : x.toNat < 2 ^ 63) : x.msb = false := by
  rw [BitVec.msb_eq_false_iff_two_mul_lt]
  omega

theorem toNat_sdiv_of_lt {x y : I64} (hx : x.toNat < 2 ^ 63) (hy : y.toNat < 2 ^ 63) :
    (x.sdiv y).toNat = x.toNat / y.toNat := by
  rw [BitVec.toNat_sdiv, msb_eq_false_of_lt hx, msb_eq_false_of_lt hy]
  exact BitVec.toNat_udiv

theorem toNat_srem_of_lt {x y : I64} (hx : x.toNat < 2 ^ 63) (hy : y.toNat < 2 ^ 63) :
    (x.srem y).toNat = x.toNat % y.toNat := by
  rw [BitVec.toNat_srem, msb_eq_false_of_lt hx, msb_eq_false_of_lt hy]

namespace Mbc3

/-! ## The registers -/

/-- `(t / d) % n` in the arithmetic of `time_t`. -/
theorem toNat_digit {t d n : I64} (ht : t.toNat < 2 ^ 63) (hd : d.toNat < 2 ^ 63)
    (hn : n.toNat < 2 ^ 63) : ((t.sdiv d).srem n).toNat = t.toNat / d.toNat % n.toNat := by
  have hquot := toNat_sdiv_of_lt ht hd
  have hle := Nat.div_le_self t.toNat d.toNat
  rw [toNat_srem_of_lt (by omega) hn, hquot]

/-- The value of each register at host time `t`, as a number. -/
def rtcNat (t : Nat) (halted : Bool) : Nat → Nat
  | 0 => t % 60
  | 1 => t / 60 % 60
  | 2 => t / 3600 % 60
  | 3 => t / 86400 % 512 % 256
  | _ => t / 86400 % 512 / 256 + 64 * halted.toNat

/-- Bit 0 of register 4 is the ninth bit of the days, bit 6 the halt flag. -/
theorem dayHigh_toNat {days : I64} (hdays : days.toNat < 512) (halted : Bool) :
    ((days.sshiftRight 8 ||| (BitVec.setWidth 64 (BitVec.ofBool halted) <<< 6)).setWidth 8 :
      U8).toNat = days.toNat / 256 + 64 * halted.toNat := by
  have hshift : (days.sshiftRight 8).toNat = days.toNat / 256 := by
    rw [BitVec.sshiftRight_eq_of_msb_false (msb_eq_false_of_lt (by omega)),
      BitVec.toNat_ushiftRight, Nat.shiftRight_eq_div_pow]
  obtain h | h : days.sshiftRight 8 = 0 ∨ days.sshiftRight 8 = 1 := by
    have hbit : days.toNat / 256 = 0 ∨ days.toNat / 256 = 1 := by omega
    rcases hbit with hbit | hbit
    · exact .inl (BitVec.eq_of_toNat_eq (hshift.trans hbit))
    · exact .inr (BitVec.eq_of_toNat_eq (hshift.trans hbit))
  · rw [← hshift, h]
    cases halted <;> rfl
  · rw [← hshift, h]
    cases halted <;> rfl

theorem rtcValue_toNat {t : I64} (ht : t.toNat < 2 ^ 63) {m : Mbc3} (hreg : m.rtcReg < 5) :
    (m.rtcValue t).toNat = rtcNat t.toNat m.rtcHalted m.rtcReg := by
  have hdays := toNat_digit ht (d := 60 * 60 * 24) (n := 512) (by decide) (by decide)
  have hdays' : ((t.sdiv (60 * 60 * 24)).srem 512).toNat = t.toNat / 86400 % 512 := hdays
  unfold rtcValue rtcNat
  obtain h | h | h | h | h : m.rtcReg = 0 ∨ m.rtcReg = 1 ∨ m.rtcReg = 2 ∨ m.rtcReg = 3 ∨
      m.rtcReg = 4 := by omega
  · have hsecs := toNat_srem_of_lt ht (show (60 : I64).toNat < 2 ^ 63 by decide)
    simp only [h, BitVec.toNat_setWidth, hsecs]
    simp only [BitVec.reduceToNat]
    omega
  · have hminutes := toNat_digit ht (d := 60) (n := 60) (by decide) (by decide)
    simp only [h, BitVec.toNat_setWidth, hminutes]
    simp only [BitVec.reduceToNat]
    omega
  · have hhours : ((t.sdiv (60 * 60)).srem 60).toNat = t.toNat / 3600 % 60 :=
      toNat_digit ht (d := 60 * 60) (n := 60) (by decide) (by decide)
    simp only [h, BitVec.toNat_setWidth, hhours]
    omega
  · have hlow := toNat_srem_of_lt (x := (t.sdiv (60 * 60 * 24)).srem 512) (y := 256)
      (by omega) (by decide)
    simp only [h, BitVec.toNat_setWidth, hlow, hdays']
    simp only [BitVec.reduceToNat]
    omega
  · have hhigh := @dayHigh_toNat ((t.sdiv (60 * 60 * 24)).srem 512) (by omega) m.rtcHalted
    simp only [h]
    rw [hhigh, hdays']

/-! ## Digits -/

/-- The values read through registers 0 to 4 are the digits of the time, with the days modulo
    512. -/
structure RtcDigits (t : Nat) (v : Fin 5 → U8) : Prop where
  seconds : (v 0).toNat < 60
  minutes : (v 1).toNat < 60
  hours : (v 2).toNat < 24
  time : (v 0).toNat + 60 * (v 1).toNat + 3600 * (v 2).toNat +
    86400 * ((v 3).toNat + 256 * (v 4 &&& 1).toNat) = t % (512 * 86400)

/-- In the state `m k` the RTC is enabled and register `k` is mapped. -/
def MapsRtc (m : Fin 5 → Mbc3) : Prop :=
  ∀ k, (m k).ramRtcEnabled = true ∧ (m k).target = .rtc k.val

/-- At host time `t` every read of the window in the state `m k` gives `v k`, and changes
    nothing. -/
def PresentsRtc (t : I64) (m : Fin 5 → Mbc3) (v : Fin 5 → U8) : Prop :=
  ∀ (k : Fin 5) (trans : Payload), trans.command = .read → trans.address < 0x2000 →
    (m k).bTransportRam t trans =
      .ok ({ trans with data := v k, responseStatus := .ok }, m k)

theorem rtcDigits_iff {t : Nat} {halted : Fin 5 → Bool} {v : Fin 5 → U8}
    (hv : ∀ k, (v k).toNat = rtcNat t (halted k) k.val) :
    RtcDigits t v ↔ t % 432000 < 86400 := by
  have h0 : (v 0).toNat = t % 60 := hv 0
  have h1 : (v 1).toNat = t / 60 % 60 := hv 1
  have h2 : (v 2).toNat = t / 3600 % 60 := hv 2
  have h3 : (v 3).toNat = t / 86400 % 512 % 256 := hv 3
  have h4 : (v 4 &&& 1).toNat = t / 86400 % 512 / 256 := by
    have hreg : (v 4).toNat = t / 86400 % 512 / 256 + 64 * (halted 4).toNat := hv 4
    rw [toNat_and_1, hreg]
    omega
  have hhalves := Nat.mod_add_div (t / 86400 % 512) 256
  constructor
  · intro h
    have htime := h.time
    rw [h0, h1, h2, h3, h4, hhalves] at htime
    omega
  · intro hday
    refine ⟨by omega, by omega, by omega, ?_⟩
    rw [h0, h1, h2, h3, h4, hhalves]
    omega

theorem presentsRtc {t : I64} {m : Fin 5 → Mbc3} (hm : MapsRtc m) :
    PresentsRtc t m fun k => (m k).rtcValue t := by
  intro k trans hcmd hadr
  obtain ⟨hen, htarget⟩ := hm k
  have hmap : (m k).rtcMapped = true := by
    by_contra hunmapped
    rw [target, if_neg hunmapped] at htarget
    cases htarget
  rw [(m k).bTransportRam_rtc hadr t hen hmap, if_neg (by rw [hcmd]; decide)]

theorem MapsRtc.rtcReg {m : Fin 5 → Mbc3} (hm : MapsRtc m) (k : Fin 5) :
    (m k).rtcReg = k.val := by
  have htarget := (hm k).2
  unfold target at htarget
  split_ifs at htarget
  exact RamTarget.rtc.inj htarget

/-- At every host time that is not negative, the five registers are the digits of the time if and
    only if it lies in the first of five days. -/
theorem rtc_digits_iff (t : I64) (ht : 0 ≤ t.toInt) (m : Fin 5 → Mbc3) (hm : MapsRtc m) :
    ∃ v, PresentsRtc t m v ∧ (RtcDigits t.toNat v ↔ t.toNat % 432000 < 86400) := by
  have hlt : t.toNat < 2 ^ 63 := by
    rw [BitVec.toInt_eq_toNat_cond] at ht
    split_ifs at ht <;> omega
  refine ⟨fun k => (m k).rtcValue t, presentsRtc hm, ?_⟩
  refine @rtcDigits_iff _ (fun k => (m k).rtcHalted) _ fun k => ?_
  have hreg : (m k).rtcReg < 5 := by
    rw [hm.rtcReg k]
    exact k.isLt
  rw [rtcValue_toNat hlt hreg, hm.rtcReg k]

/-- The register `k` mapped into the window of a new cartridge. -/
def rtcMappedTo (k : Fin 5) : Mbc3 :=
  { init (fun _ => 0) (fun _ => 0) (fun _ => 0) false with
    rtcReg := k.val, ramRtcEnabled := true, rtcMapped := true }

theorem rtcMappedTo_maps : MapsRtc rtcMappedTo := fun _ => ⟨rfl, rfl⟩

theorem noon_digits : ∃ v, PresentsRtc 43200 rtcMappedTo v ∧
    (RtcDigits 43200 v ↔ 43200 % 432000 < 86400) :=
  rtc_digits_iff 43200 (by decide) rtcMappedTo rtcMappedTo_maps

/-- At the second midnight the hours are 24. -/
theorem hours_24 : ¬ ∀ (t : I64) (m : Fin 5 → Mbc3) (v : Fin 5 → U8), 0 ≤ t.toInt → MapsRtc m →
    PresentsRtc t m v → RtcDigits t.toNat v := by
  intro h
  have hdigits := h 86400 rtcMappedTo _ (by decide) rtcMappedTo_maps (presentsRtc rtcMappedTo_maps)
  exact absurd hdigits.hours (by decide)

end Mbc3

end TlmBoy
