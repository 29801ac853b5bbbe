import TlmBoy.Cartridge.Mbc1
import TlmBoy.Cartridge.Mbc3
import TlmBoy.Cartridge.Mbc5

/-
  The RAM enable register 0x0000-0x1FFF of `Mbc1`, `Mbc3` and `Mbc5`.

  The specification enables the external RAM with the low nibble 0xA and no other. The three
  controllers test the written byte with `(*ptr & 0xA) == 0xA`, which also accepts the low
  nibbles 0xB, 0xE and 0xF.

  * `Mbc1.run_enabled`, `Mbc3.run_enabled`, `Mbc5.run_enabled`: the enable flag after a history
    is the test on the byte written last to the register.
  * `ram_gated_iff`: after every history of each controller the RAM window is open as specified
    exactly when that byte has none of the three other nibbles.
-/

namespace TlmBoy

/-- The byte written last to the RAM enable register, 0 when there is none. -/
def enableByte (ls : List Access) : U8 := lastByte 0 0x1FFF ls

/-- The test of the three controllers. -/
def enables (v : U8) : Bool := (v &&& 0xA) == 0xA

/-- The low nibbles that the test accepts and the specification does not. -/
def Overmatched (v : U8) : Prop := v.toNat % 16 = 0xB ∨ v.toNat % 16 = 0xE ∨ v.toNat % 16 = 0xF

theorem enables_eq_true_iff (v : U8) : enables v = true ↔ v.toNat % 16 = 0xA ∨ Overmatched v := by
  have hnib : v &&& 0xA = (v &&& 0x0F) &&& 0xA := by
    rw [BitVec.and_assoc]
    rfl
  have hall : ∀ n : Fin 16, (BitVec.ofNat 8 n.val &&& 0xA == 0xA) = true ↔
      n.val = 0xA ∨ n.val = 0xB ∨ n.val = 0xE ∨ n.val = 0xF := by decide
  have hval : v &&& 0x0F = BitVec.ofNat 8 (v.toNat % 16) := by
    apply BitVec.eq_of_toNat_eq
    rw [toNat_and_0F, BitVec.toNat_ofNat]
    omega
  unfold enables Overmatched
  rw [hnib, hval]
  exact hall ⟨v.toNat % 16, Nat.mod_lt _ (by decide)⟩

theorem enables_nil : enables (enableByte []) = false := by decide

theorem enableByte_quiet (ls : List Access) {acc : Access} (hacc : acc.Quiet) :
    enableByte (ls ++ [acc]) = enableByte ls := lastByte_quiet _ _ _ hacc

theorem enableByte_write (ls : List Access) {t : Payload} (hadr : t.address < 0x8000)
    (hcmd : t.command = .write) : enableByte (ls ++ [.rom t hadr]) =
      if t.address ≤ 0x1FFF then t.data else enableByte ls := by
  have hzero : (0 : U16) ≤ t.address := by bv_omega
  rw [enableByte, lastByte_write _ _ _ hadr hcmd]
  simp only [hzero, true_and]
  rfl

/-! ## The enable flag after a history -/

namespace Mbc1

theorem setRegister_enabled (adr : U16) (v : U8) (m : Mbc1) :
    (m.setRegister adr v).ramEnabled = if adr ≤ 0x1FFF then enables v else m.ramEnabled := by
  unfold setRegister
  split_ifs <;> rfl

theorem romWrite_enabled {m m' : Mbc1} {adr : U16} {v : U8} (h : m.romWrite adr v = .ok m') :
    m'.ramEnabled = if adr ≤ 0x1FFF then enables v else m.ramEnabled := by
  rw [← setRegister_enabled]
  unfold romWrite at h
  obtain ⟨-, -, h⟩ := StateExcept.except_bind_eq_ok h
  obtain ⟨-, -, h⟩ := StateExcept.except_bind_eq_ok h
  obtain ⟨romHigh, -, h⟩ := StateExcept.except_bind_eq_ok h
  obtain ⟨extRam, -, h⟩ := StateExcept.except_bind_eq_ok h
  cases h
  rfl

theorem step_enabled {m m' : Mbc1} {ls : List Access} {acc : Access}
    (hen : m.ramEnabled = enables (enableByte ls)) (hm' : step m acc = .ok m') :
    m'.ramEnabled = enables (enableByte (ls ++ [acc])) := by
  rcases m.step_cases acc with ⟨t, hadr, rfl, hcmd, hstep⟩ | ⟨hacc, tracer, data, hstep⟩
  · rw [hstep] at hm'
    rw [romWrite_enabled hm', enableByte_write _ hadr hcmd, hen]
    split_ifs <;> rfl
  · rw [hstep] at hm'
    cases hm'
    rw [enableByte_quiet _ hacc]
    exact hen

theorem run_enabled {romLow romHigh extRam symbolFile} {ls : List Access} {m : Mbc1}
    (h : ls.foldlM step (init romLow romHigh extRam symbolFile) = .ok m) :
    m.ramEnabled = enables (enableByte ls) :=
  History.run_induction (fun ls (m : Mbc1) => m.ramEnabled = enables (enableByte ls))
    enables_nil.symm (fun _ _ _ _ hen hstep => step_enabled hen hstep) h

end Mbc1

namespace Mbc3

theorem setRegister_enabled (adr : U16) (v : U8) (m : Mbc3) :
    (m.setRegister adr v).ramRtcEnabled = if adr ≤ 0x1FFF then enables v else m.ramRtcEnabled := by
  unfold setRegister
  split_ifs <;> rfl

theorem romWrite_enabled {m m' : Mbc3} {adr : U16} {v : U8} (h : m.romWrite adr v = .ok m') :
    m'.ramRtcEnabled = if adr ≤ 0x1FFF then enables v else m.ramRtcEnabled := by
  rw [← setRegister_enabled]
  unfold romWrite at h
  obtain ⟨-, -, h⟩ := StateExcept.except_bind_eq_ok h
  obtain ⟨romHigh, -, h⟩ := StateExcept.except_bind_eq_ok h
  obtain ⟨extRam, -, h⟩ := StateExcept.except_bind_eq_ok h
  cases h
  rfl

theorem step_enabled {m m' : Mbc3} {ls : List Access} {acc : Access}
    (hen : m.ramRtcEnabled = enables (enableByte ls)) (hm' : step m acc = .ok m') :
    m'.ramRtcEnabled = enables (enableByte (ls ++ [acc])) := by
  rcases m.step_cases acc with ⟨t, hadr, rfl, hcmd, hstep⟩ | ⟨hacc, tracer, data, hstep⟩
  · rw [hstep] at hm'
    rw [romWrite_enabled hm', enableByte_write _ hadr hcmd, hen]
    split_ifs <;> rfl
  · rw [hstep] at hm'
    cases hm'
    rw [enableByte_quiet _ hacc]
    exact hen

theorem run_enabled {romLow romHigh extRam symbolFile} {ls : List Access} {m : Mbc3}
    (h : ls.foldlM step (init romLow romHigh extRam symbolFile) = .ok m) :
    m.ramRtcEnabled = enables (enableByte ls) :=
  History.run_induction (fun ls (m : Mbc3) => m.ramRtcEnabled = enables (enableByte ls))
    enables_nil.symm (fun _ _ _ _ hen hstep => step_enabled hen hstep) h

end Mbc3

namespace Mbc5

theorem setRegister_enabled (adr : U16) (v : U8) (m : Mbc5) :
    (m.setRegister adr v).ramEnabled = if adr ≤ 0x1FFF then enables v else m.ramEnabled := by
  unfold setRegister
  split_ifs <;> rfl

theorem romWrite_enabled {m m' : Mbc5} {adr : U16} {v : U8} (h : m.romWrite adr v = .ok m') :
    m'.ramEnabled = if adr ≤ 0x1FFF then enables v else m.ramEnabled := by
  rw [← setRegister_enabled]
  unfold romWrite at h
  obtain ⟨romHigh, -, h⟩ := StateExcept.except_bind_eq_ok h
  obtain ⟨extRam, -, h⟩ := StateExcept.except_bind_eq_ok h
  cases h
  rfl

theorem step_enabled {m m' : Mbc5} {ls : List Access} {acc : Access}
    (hen : m.ramEnabled = enables (enableByte ls)) (hm' : step m acc = .ok m') :
    m'.ramEnabled = enables (enableByte (ls ++ [acc])) := by
  rcases m.step_cases acc with
    ⟨t, hadr, rfl, hcmd, hstep⟩ | ⟨hacc, data, hstep⟩ | ⟨-, -, hstep⟩
  · rw [hstep] at hm'
    rw [romWrite_enabled hm', enableByte_write _ hadr hcmd, hen]
    split_ifs <;> rfl
  · rw [hstep] at hm'
    cases hm'
    rw [enableByte_quiet _ hacc]
    exact hen
  · rw [hstep] at hm'
    cases hm'

theorem run_enabled {romLow romHigh extRam symbolFile} {ls : List Access} {m : Mbc5}
    (h : ls.foldlM step (init romLow romHigh extRam symbolFile) = .ok m) :
    m.ramEnabled = enables (enableByte ls) :=
  History.run_induction (fun ls (m : Mbc5) => m.ramEnabled = enables (enableByte ls))
    enables_nil.symm (fun _ _ _ _ hen hstep => step_enabled hen hstep) h

end Mbc5

/-! ## The RAM window as specified -/

/-- An access of an `Mbc1` that reaches `ext_ram`. -/
def Mbc1.forwardRam (m : Mbc1) (t : Payload) : Except Fault (Payload × Mbc1) :=
  (m.ramTransport t).map fun r => (r.1, { m with toMemoryBankCtrler := r.2 })

/-- An access of an `Mbc3` that reaches what is mapped: `ext_ram`, or an RTC register. -/
def Mbc3.forwardRam (time : I64) (m : Mbc3) (t : Payload) : Except Fault (Payload × Mbc3) :=
  match m.target with
  | .extRam => (m.ramTransport t).map fun r => (r.1, { m with toMemoryBankCtrler := r.2 })
  | .rtc _ => .ok ({ t with
      data := if t.command = .write then t.data else m.rtcValue time
      responseStatus := .ok }, m)

/-- An access of an `Mbc5` that reaches `ext_ram`. -/
def Mbc5.forwardRam (m : Mbc5) (t : Payload) : Except Fault (Payload × Mbc5) :=
  (m.ramTransport t).map fun r => (r.1, { m with toMemoryBankCtrler := r.2 })

/-- In state `m` after `ls` the RAM window is open as specified: with the low nibble 0xA every
    access is forwarded, with any other none reads or changes anything. -/
def Gated {C : Type} (access forward : Payload → Except Fault (Payload × C)) (m : C)
    (ls : List Access) : Prop :=
  ((enableByte ls).toNat % 16 = 0xA → ∀ t : Payload, t.address < 0x2000 → access t = forward t) ∧
  ((enableByte ls).toNat % 16 ≠ 0xA → ∀ t t' m', t.address < 0x2000 →
    access t = .ok (t', m') → t' = t ∧ m' = m)

/-- A window that the test of the controllers opens is gated as specified exactly when the test
    agrees with the specification on the byte written last. -/
theorem gated_iff {C : Type} {access forward : Payload → Except Fault (Payload × C)} {m : C}
    {ls : List Access}
    (hopen : enables (enableByte ls) = true → ∀ t, t.address < 0x2000 → access t = forward t)
    (hclosed : enables (enableByte ls) = false → ∀ t t' m', t.address < 0x2000 →
      access t = .ok (t', m') → t' = t ∧ m' = m)
    (hvisible : ∃ t t' m', t.address < 0x2000 ∧ forward t = .ok (t', m') ∧ t' ≠ t) :
    Gated access forward m ls ↔ ¬ Overmatched (enableByte ls) := by
  have htest := enables_eq_true_iff (enableByte ls)
  constructor
  · intro ⟨_, hshut⟩ hover
    have hne : (enableByte ls).toNat % 16 ≠ 0xA := by
      unfold Overmatched at hover
      omega
    obtain ⟨t, t', m', hadr, hfwd, hdiff⟩ := hvisible
    rw [← hopen (htest.mpr (Or.inr hover)) t hadr] at hfwd
    exact hdiff (hshut hne t t' m' hadr hfwd).1
  · intro hover
    refine ⟨fun hA => hopen (htest.mpr (Or.inl hA)), fun hne => hclosed ?_⟩
    rw [← Bool.not_eq_true, htest]
    rintro (hA | hB)
    · exact hne hA
    · exact hover hB

/-- A fresh write at offset 0: when it is answered, its response status changes. -/
def probe : Payload := { command := .write }

theorem ramTransport_probe {numRomBanks numRamBanks : Nat}
    (c : MemoryBankCtrler numRomBanks numRamBanks) :
    ∃ c', c.ramTransport probe = .ok ({ probe with responseStatus := .ok }, c') :=
  ⟨_, c.ramTransport_write rfl 0 rfl⟩

theorem Mbc1.gated_iff {m : Mbc1} {ls : List Access}
    (hen : m.ramEnabled = enables (enableByte ls)) :
    Gated m.bTransportRam m.forwardRam m ls ↔ ¬ Overmatched (enableByte ls) := by
  refine TlmBoy.gated_iff ?_ ?_ ?_
  · intro h t hadr
    exact m.bTransportRam_enabled hadr (hen.trans h)
  · intro h t t' m' hadr hok
    rw [m.bTransportRam_disabled hadr (hen.trans h)] at hok
    cases hok
    exact ⟨rfl, rfl⟩
  · obtain ⟨c, hc⟩ := ramTransport_probe m.toMemoryBankCtrler
    exact ⟨probe, { probe with responseStatus := .ok }, { m with toMemoryBankCtrler := c },
      by decide, congrArg (Except.map _) hc, by decide⟩

theorem Mbc3.gated_iff {m : Mbc3} {ls : List Access} (time : I64)
    (hen : m.ramRtcEnabled = enables (enableByte ls)) :
    Gated (m.bTransportRam time) (m.forwardRam time) m ls ↔ ¬ Overmatched (enableByte ls) := by
  refine TlmBoy.gated_iff ?_ ?_ ?_
  · intro h t hadr
    rcases Bool.eq_false_or_eq_true m.rtcMapped with hmap | hmap
    · rw [m.bTransportRam_rtc hadr time (hen.trans h) hmap, forwardRam, target, hmap]
      rfl
    · rw [m.bTransportRam_extRam hadr time (hen.trans h) hmap, forwardRam, target, hmap]
      rfl
  · intro h t t' m' hadr hok
    rw [m.bTransportRam_disabled hadr time (hen.trans h)] at hok
    cases hok
    exact ⟨rfl, rfl⟩
  · unfold forwardRam
    cases m.target with
    | extRam =>
      obtain ⟨c, hc⟩ := ramTransport_probe m.toMemoryBankCtrler
      exact ⟨probe, { probe with responseStatus := .ok }, { m with toMemoryBankCtrler := c },
        by decide, congrArg (Except.map _) hc, by decide⟩
    | rtc reg =>
      exact ⟨probe, { probe with responseStatus := .ok }, m, by decide, rfl, by decide⟩

theorem Mbc5.gated_iff {m : Mbc5} {ls : List Access}
    (hen : m.ramEnabled = enables (enableByte ls)) :
    Gated m.bTransportRam m.forwardRam m ls ↔ ¬ Overmatched (enableByte ls) := by
  refine TlmBoy.gated_iff ?_ ?_ ?_
  · intro h t hadr
    exact m.bTransportRam_enabled hadr (hen.trans h)
  · intro h t t' m' hadr hok
    rw [m.bTransportRam_disabled hadr (hen.trans h)] at hok
    cases hok
  · obtain ⟨c, hc⟩ := ramTransport_probe m.toMemoryBankCtrler
    exact ⟨probe, { probe with responseStatus := .ok }, { m with toMemoryBankCtrler := c },
      by decide, congrArg (Except.map _) hc, by decide⟩

/-- On each controller, after every history that fails no assertion, the RAM window is open as
    specified exactly when the byte written last to the enable register has none of the low
    nibbles 0xB, 0xE and 0xF. -/
theorem ram_gated_iff (ls : List Access) :
    (∀ romLow romHigh extRam symbolFile m,
      ls.foldlM Mbc1.step (Mbc1.init romLow romHigh extRam symbolFile) = .ok m →
        (Gated m.bTransportRam m.forwardRam m ls ↔ ¬ Overmatched (enableByte ls))) ∧
    (∀ romLow romHigh extRam symbolFile m time,
      ls.foldlM Mbc3.step (Mbc3.init romLow romHigh extRam symbolFile) = .ok m →
        (Gated (m.bTransportRam time) (m.forwardRam time) m ls ↔
          ¬ Overmatched (enableByte ls))) ∧
    (∀ romLow romHigh extRam symbolFile m,
      ls.foldlM Mbc5.step (Mbc5.init romLow romHigh extRam symbolFile) = .ok m →
        (Gated m.bTransportRam m.forwardRam m ls ↔ ¬ Overmatched (enableByte ls))) := by
  refine ⟨?_, ?_, ?_⟩
  · intro romLow romHigh extRam symbolFile m h
    exact Mbc1.gated_iff (Mbc1.run_enabled h)
  · intro romLow romHigh extRam symbolFile m time h
    exact Mbc3.gated_iff time (Mbc3.run_enabled h)
  · intro romLow romHigh extRam symbolFile m h
    exact Mbc5.gated_iff (Mbc5.run_enabled h)

/-- After a write of 0x0B to the enable register of an `Mbc1` a RAM write changes `ext_ram`. -/
theorem nibble_B_opens_ram :
    let ls := [Access.write 0x0000 0x0B (by decide)]
    (enableByte ls).toNat % 16 ≠ 0xA ∧
      ∃ m, ls.foldlM Mbc1.step (Mbc1.init (fun _ => 0) (fun _ => 0) (fun _ => 0) false) = .ok m ∧
        m.extRam.data 0 = 0 ∧ ∃ t' m', m.bTransportRam { probe with data := 0x55 } = .ok (t', m') ∧
          m'.extRam.data 0 = 0x55 := by
  intro ls
  obtain ⟨m, hrun, htr⟩ := Mbc1.run_tracks _ (Mbc1.tracks_init (fun _ => 0) (fun _ => 0)
    (fun _ => 0) false) ls
  have hen : m.ramEnabled = true := (Mbc1.run_enabled hrun).trans (by decide)
  have hbank : m.extRam.currentBankInd = 0 := Fin.ext htr.ramBank
  have hzero : m.extRam.data 0 = 0 := by
    have hkeep := @Mbc1.run_extRam _ _ _ [] ls (Mbc1.tracks_init (fun _ => 0) (fun _ => 0)
      (fun _ => 0) false) hrun 0 ?_
    · exact hkeep
    · intro pre acc suf mid he _ hw
      have hacc : acc ∈ ls := by simp [he]
      rw [List.mem_singleton.mp hacc] at hw
      exact hw
  refine ⟨by decide, m, hrun, hzero, ?_⟩
  have hcell : BankSwitchedMem.cell (0 : Fin 4) (0 : Fin 0x2000) = 0 := by decide
  rw [m.bTransportRam_enabled (by decide) hen, m.ramTransport_write rfl 0 rfl, hbank, hcell]
  refine ⟨_, _, rfl, ?_⟩
  show Function.update m.extRam.data 0 0x55 0 = 0x55
  exact Function.update_self _ _ _

end TlmBoy
