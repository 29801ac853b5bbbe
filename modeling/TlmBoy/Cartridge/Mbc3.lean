import TlmBoy.Cartridge.Access

/-
  MBC3: what a history of guest accesses maps, and which histories fail an assertion.

  The select register 0x4000-0x5FFF takes any byte: below 8 it selects a RAM bank, from 8 to 12
  an RTC register, and the other bytes select nothing. There are four RAM banks, so the bytes 4
  to 7 select one that `DoBankSwitch` refuses.

  * `Tracks`: the registers and banks that a history leaves behind.
  * `step_tracks`: an access that does not select a missing bank succeeds and keeps `Tracks`.
  * `romWrite_missing`: one that does fails the assertion of `DoBankSwitch`.
  * `maps_selection_iff`: a history succeeds and maps what it selects exactly when none of its
    accesses selects a missing bank.
-/

namespace TlmBoy

/-- What the RAM window of an MBC3 is mapped to. -/
inductive RamTarget where
  | extRam
  | rtc (reg : Nat)
deriving DecidableEq

namespace Access

/-- The byte written, if the access writes to the select register 0x4000-0x5FFF. -/
def selectByte : Access → Option U8 := romByte 0x4000 0x5FFF

/-- What the access maps into the RAM window, if it selects anything. -/
def ramTarget (acc : Access) : Option RamTarget :=
  acc.selectByte.bind fun v =>
    if v < 8 then some .extRam else if v < 13 then some (.rtc (v.toNat - 8)) else none

/-- The RAM bank that the access selects. -/
def ramSelect (acc : Access) : Option Nat :=
  acc.selectByte.bind fun v => if v < 8 then some v.toNat else none

theorem Quiet.ramTarget {acc : Access} (hacc : acc.Quiet) : acc.ramTarget = none := by
  rw [Access.ramTarget, selectByte, hacc, Option.bind_none]

theorem Quiet.ramSelect {acc : Access} (hacc : acc.Quiet) : acc.ramSelect = none := by
  rw [Access.ramSelect, selectByte, hacc, Option.bind_none]

/-- The access selects one of the RAM banks 4 to 7, which an MBC3 does not have. -/
def SelectsMissingBank (acc : Access) : Prop := ∃ bank ∈ acc.ramSelect, 4 ≤ bank

end Access

namespace Mbc3

/-- One guest access. -/
def step (m : Mbc3) : Access → Except Fault Mbc3
  | .rom t _ => (m.bTransportRom t).map Prod.snd
  | .ram t _ time => (m.bTransportRam time t).map Prod.snd

theorem step_rom_read (m : Mbc3) {t t' : Payload} {c : MemoryBankCtrler 128 4}
    (hadr : t.address < 0x8000) (hcmd : t.command = .read)
    (hread : m.tracedRomRead t = .ok (t', c)) :
    step m (.rom t hadr) = .ok { m with toMemoryBankCtrler := c } := by
  rw [step, bTransportRom, cAssert_pos hadr, ok_bind]
  simp only [hcmd, hread]
  rfl

theorem step_rom_write (m : Mbc3) {t : Payload} (hadr : t.address < 0x8000)
    (hcmd : t.command = .write) : step m (.rom t hadr) = m.romWrite t.address t.data := by
  rw [step, bTransportRom, cAssert_pos hadr, ok_bind]
  simp only [hcmd]
  cases m.romWrite t.address t.data <;> rfl

theorem step_rom_ignore (m : Mbc3) {t : Payload} (hadr : t.address < 0x8000)
    (hcmd : t.command = .ignore) : step m (.rom t hadr) = .ok m := by
  rw [step, bTransportRom, cAssert_pos hadr, ok_bind]
  simp only [hcmd]
  rfl

theorem bTransportRam_disabled (m : Mbc3) {t : Payload} (hadr : t.address < 0x2000) (time : I64)
    (hen : m.ramRtcEnabled = false) : m.bTransportRam time t = .ok (t, m) := by
  rw [bTransportRam, cAssert_pos (by bv_omega), ok_bind, if_neg (by simp [hen])]
  rfl

theorem bTransportRam_rtc (m : Mbc3) {t : Payload} (hadr : t.address < 0x2000) (time : I64)
    (hen : m.ramRtcEnabled = true) (hmap : m.rtcMapped = true) : m.bTransportRam time t =
      .ok ({ t with
        data := if t.command = .write then t.data else m.rtcValue time
        responseStatus := .ok }, m) := by
  rw [bTransportRam, cAssert_pos (by bv_omega), ok_bind, if_pos hen, if_pos hmap]
  by_cases hcmd : t.command = .write
  · simp only [if_pos hcmd]
    rfl
  · simp only [if_neg hcmd]
    rfl

theorem bTransportRam_extRam (m : Mbc3) {t : Payload} (hadr : t.address < 0x2000) (time : I64)
    (hen : m.ramRtcEnabled = true) (hmap : m.rtcMapped = false) : m.bTransportRam time t =
      (m.ramTransport t).map fun r => (r.1, { m with toMemoryBankCtrler := r.2 }) := by
  rw [bTransportRam, cAssert_pos (by bv_omega), ok_bind, if_pos hen, if_neg (by simp [hmap])]
  cases m.ramTransport t <;> rfl

/-- What an access can do: a write to the ROM window is `romWrite`, every other access changes
    at most the tracer and bytes of the external RAM. -/
theorem step_cases (m : Mbc3) (acc : Access) :
    (∃ t hadr, acc = .rom t hadr ∧ t.command = .write ∧
      step m acc = m.romWrite t.address t.data) ∨
    (acc.Quiet ∧ ∃ tracer data, step m acc = .ok { m with
      symfileTracer := tracer, extRam := { m.extRam with data := data } }) := by
  cases acc with
  | rom t hadr =>
    cases hcmd : t.command with
    | write => exact Or.inl ⟨t, hadr, rfl, hcmd, m.step_rom_write hadr hcmd⟩
    | read =>
      obtain ⟨t', tracer, hread⟩ := m.tracedRomRead_ok hcmd hadr
      exact Or.inr ⟨Access.quiet_rom hadr (by simp [hcmd]), tracer, m.extRam.data,
        m.step_rom_read hadr hcmd hread⟩
    | ignore =>
      exact Or.inr ⟨Access.quiet_rom hadr (by simp [hcmd]), m.symfileTracer, m.extRam.data,
        m.step_rom_ignore hadr hcmd⟩
  | ram t hadr time =>
    refine Or.inr ⟨Access.quiet_ram hadr time, m.symfileTracer, ?_⟩
    rcases Bool.eq_false_or_eq_true m.ramRtcEnabled with hen | hen
    · rcases Bool.eq_false_or_eq_true m.rtcMapped with hmap | hmap
      · refine ⟨m.extRam.data, ?_⟩
        rw [step, m.bTransportRam_rtc hadr time hen hmap]
        rfl
      · obtain ⟨t', data, hram⟩ := m.ramTransport_ok hadr
        refine ⟨data, ?_⟩
        rw [step, m.bTransportRam_extRam hadr time hen hmap, hram]
        rfl
    · refine ⟨m.extRam.data, ?_⟩
      rw [step, m.bTransportRam_disabled hadr time hen]
      rfl

/-! ## The selection, read off a history -/

/-- The low seven bits of the last byte written to 0x2000-0x3FFF. -/
def romSel (ls : List Access) : Nat := (lastByte 0x2000 0x3FFF ls).toNat % 128

/-- What the last access that selected anything mapped into the RAM window. -/
def ramTarget (ls : List Access) : RamTarget := History.latest Access.ramTarget .extRam ls

/-- The RAM bank that was selected last. -/
def ramBank (ls : List Access) : Nat := History.latest Access.ramSelect 0 ls

theorem romSel_lt (ls : List Access) : max 1 (romSel ls) - 1 < 128 := by
  have h : romSel ls < 128 := Nat.mod_lt _ (by decide)
  omega

/-- Without a selection of a missing bank the selected bank exists. -/
theorem ramBank_lt {ls : List Access} (hls : ∀ acc ∈ ls, ¬ acc.SelectsMissingBank) :
    ramBank ls < 4 := by
  rcases History.latest_eq_or Access.ramSelect 0 ls with h | ⟨acc, hacc, h⟩
  · rw [ramBank, h]
    decide
  · by_contra hlt
    exact hls acc hacc ⟨ramBank ls, h, by omega⟩

/-! ## Registers -/

theorem setRegister_romInd (adr : U16) (v : U8) (m : Mbc3) :
    (m.setRegister adr v).romInd =
      if 0x2000 ≤ adr ∧ adr ≤ 0x3FFF then 0b01111111 &&& v else m.romInd := by
  unfold setRegister
  split_ifs <;> first | rfl | bv_omega

theorem setRegister_ramInd (adr : U16) (v : U8) (m : Mbc3) :
    (m.setRegister adr v).ramInd =
      if 0x4000 ≤ adr ∧ adr ≤ 0x5FFF then (if v < 8 then v else m.ramInd) else m.ramInd := by
  unfold setRegister
  split_ifs <;> first | rfl | bv_omega

theorem setRegister_memories (adr : U16) (v : U8) (m : Mbc3) :
    (m.setRegister adr v).romHigh = m.romHigh ∧ (m.setRegister adr v).extRam = m.extRam := by
  unfold setRegister
  split_ifs <;> exact ⟨rfl, rfl⟩

/-- What the RAM window is mapped to in a state. -/
def target (m : Mbc3) : RamTarget := if m.rtcMapped then .rtc m.rtcReg else .extRam

theorem setRegister_target (adr : U16) (v : U8) (m : Mbc3) :
    (m.setRegister adr v).target =
      if 0x4000 ≤ adr ∧ adr ≤ 0x5FFF then
        (if v < 8 then .extRam else if v < 13 then .rtc (v.toNat - 8) else m.target)
      else m.target := by
  unfold setRegister
  split_ifs <;> first | rfl | bv_omega

/-! ## Histories -/

/-- What a history `ls` leaves behind, from a controller with the ROM of `m₀`. -/
structure Tracks (m₀ : Mbc3) (ls : List Access) (m : Mbc3) : Prop where
  romInd : max 1 m.romInd.toNat = max 1 (romSel ls)
  ramInd : m.ramInd.toNat = ramBank ls
  target : m.target = ramTarget ls
  romBank : m.romHigh.currentBankInd.val = max 1 (romSel ls) - 1
  ramBank : m.extRam.currentBankInd.val = ramBank ls
  romHigh : m.romHigh.data = m₀.romHigh.data

theorem tracks_init (romLow : Fin 0x4000 → U8) (romHigh : Fin (128 * 0x4000) → U8)
    (extRam : Fin (4 * 0x2000) → U8) (symbolFile : Bool) :
    Tracks (init romLow romHigh extRam symbolFile) [] (init romLow romHigh extRam symbolFile) :=
  ⟨rfl, rfl, rfl, rfl, rfl, rfl⟩

/-- The registers after a write are those that the bytes written last select. -/
theorem setRegister_tracks {m₀ m : Mbc3} {ls : List Access} (h : Tracks m₀ ls m) {t : Payload}
    (hadr : t.address < 0x8000) (hcmd : t.command = .write) :
    max 1 (m.setRegister t.address t.data).romInd.toNat = max 1 (romSel (ls ++ [.rom t hadr])) ∧
    (m.setRegister t.address t.data).ramInd.toNat = Mbc3.ramBank (ls ++ [.rom t hadr]) ∧
    (m.setRegister t.address t.data).target = ramTarget (ls ++ [.rom t hadr]) := by
  have hrom := h.romInd
  have hram := h.ramInd
  have htarget := h.target
  unfold romSel Mbc3.ramBank ramTarget at *
  rw [setRegister_romInd, setRegister_ramInd, setRegister_target, lastByte_write _ _ _ _ hcmd,
    History.latest_concat, History.latest_concat, Access.ramSelect, Access.ramTarget,
    Access.selectByte, Access.romByte_write hadr hcmd, ← hram, ← htarget]
  refine ⟨?_, ?_, ?_⟩
  · split_ifs
    · rw [BitVec.and_comm]
      exact congrArg (max 1) (toNat_and_7F _)
    · exact hrom
  · split_ifs with hin hlt
    · rw [Option.bind_some, if_pos hlt, Option.getD_some]
    · rw [Option.bind_some, if_neg hlt, Option.getD_none]
    · rw [Option.bind_none, Option.getD_none]
  · split_ifs with hin hlt hrtc
    · rw [Option.bind_some, if_pos hlt, Option.getD_some]
    · rw [Option.bind_some, if_neg hlt, if_pos hrtc, Option.getD_some]
    · rw [Option.bind_some, if_neg hlt, if_neg hrtc, Option.getD_none]
    · rw [Option.bind_none, Option.getD_none]

/-- A write succeeds up to the switch of the RAM bank. -/
theorem romWrite_eq {m₀ m : Mbc3} {ls : List Access} (h : Tracks m₀ ls m) {t : Payload}
    (hadr : t.address < 0x8000) (hcmd : t.command = .write) :
    ∃ (romInd : U8) (hrom : (romInd - 1).toNat < 128),
      romInd.toNat = max 1 (romSel (ls ++ [.rom t hadr])) ∧
      m.romWrite t.address t.data = (do
        let m := { m.setRegister t.address t.data with romInd := romInd }
        let extRam ← m.extRam.doBankSwitch m.ramInd
        return { m with romHigh := { m.romHigh with currentBankInd := ⟨_, hrom⟩ }, extRam }) := by
  obtain ⟨hrom, -, -⟩ := setRegister_tracks h hadr hcmd
  have hsel : romSel (ls ++ [.rom t hadr]) < 128 := Nat.mod_lt _ (by decide)
  unfold romWrite
  generalize m.setRegister t.address t.data = r at *
  have hind : (if r.romInd = 0 then 1 else r.romInd : U8).toNat =
      max 1 (romSel (ls ++ [.rom t hadr])) := by
    rw [← hrom]
    split_ifs with hz
    · rw [hz]
      decide
    · have hpos : 0 < r.romInd.toNat := by bv_omega
      omega
  refine ⟨_, ?_, hind, ?_⟩
  · bv_omega
  · dsimp only
    rw [cAssert_pos (by bv_omega), ok_bind, BankSwitchedMem.doBankSwitch_of_lt _ (by bv_omega),
      ok_bind]

/-- A write that selects a missing bank fails the assertion of `DoBankSwitch`. -/
theorem romWrite_missing {m₀ m : Mbc3} {ls : List Access} (h : Tracks m₀ ls m) {t : Payload}
    (hadr : t.address < 0x8000) (hcmd : t.command = .write)
    (hmiss : (Access.rom t hadr).SelectsMissingBank) :
    m.romWrite t.address t.data = .error (.assertion "index < num_banks_") := by
  obtain ⟨-, hram, -⟩ := setRegister_tracks h hadr hcmd
  obtain ⟨bank, hbank, hge⟩ := hmiss
  have hsel : Mbc3.ramBank (ls ++ [.rom t hadr]) = bank := by
    rw [Mbc3.ramBank, History.latest_concat, Option.mem_def.mp hbank, Option.getD_some]
  obtain ⟨romInd, hrom, -, hwrite⟩ := romWrite_eq h hadr hcmd
  rw [hwrite]
  dsimp only
  rw [BankSwitchedMem.doBankSwitch_of_le _ (by omega)]
  rfl

/-- Accesses that write no register keep `Tracks`. -/
theorem Tracks.quiet {m₀ m : Mbc3} {ls : List Access} (h : Tracks m₀ ls m) {acc : Access}
    (hacc : acc.Quiet) (tracer : Option SymfileTracer)
    (data : Fin (4 * 0x2000) → U8) :
    Tracks m₀ (ls ++ [acc]) { m with
      symfileTracer := tracer, extRam := { m.extRam with data := data } } := by
  have hrom : romSel (ls ++ [acc]) = romSel ls := by
    rw [romSel, lastByte_quiet _ _ _ hacc, romSel]
  have hram : Mbc3.ramBank (ls ++ [acc]) = Mbc3.ramBank ls := by
    rw [Mbc3.ramBank, History.latest_concat, hacc.ramSelect, Option.getD_none, Mbc3.ramBank]
  have htarget : ramTarget (ls ++ [acc]) = ramTarget ls := by
    rw [ramTarget, History.latest_concat, hacc.ramTarget, Option.getD_none, ramTarget]
  constructor <;> simp only [hrom, hram, htarget]
  · exact h.romInd
  · exact h.ramInd
  · exact h.target
  · exact h.romBank
  · exact h.ramBank
  · exact h.romHigh

/-- A write that selects no missing bank succeeds and keeps `Tracks`. -/
theorem romWrite_tracks {m₀ m : Mbc3} {ls : List Access} (h : Tracks m₀ ls m) {t : Payload}
    (hadr : t.address < 0x8000) (hcmd : t.command = .write)
    (hls : ∀ acc ∈ ls ++ [.rom t hadr], ¬ acc.SelectsMissingBank) :
    ∃ m', m.romWrite t.address t.data = .ok m' ∧ Tracks m₀ (ls ++ [.rom t hadr]) m' := by
  obtain ⟨-, hram, htarget⟩ := setRegister_tracks h hadr hcmd
  obtain ⟨hmemHigh, -⟩ := setRegister_memories t.address t.data m
  have hlt := ramBank_lt hls
  obtain ⟨romInd, hrom, hind, hwrite⟩ := romWrite_eq h hadr hcmd
  dsimp only at hwrite
  rw [BankSwitchedMem.doBankSwitch_of_lt _ (by omega), ok_bind] at hwrite
  have hpred : (romInd - 1).toNat = romInd.toNat - 1 := by bv_omega
  refine ⟨_, hwrite, ?_⟩
  constructor
  · show max 1 romInd.toNat = _
    omega
  · exact hram
  · exact htarget
  · show (romInd - 1).toNat = _
    omega
  · exact hram
  · exact (congrArg BankSwitchedMem.data hmemHigh).trans h.romHigh

/-- An access that does not select a missing bank succeeds and keeps `Tracks`. -/
theorem step_tracks {m₀ m : Mbc3} {ls : List Access} (h : Tracks m₀ ls m) {acc : Access}
    (hls : ∀ acc' ∈ ls ++ [acc], ¬ acc'.SelectsMissingBank) :
    ∃ m', step m acc = .ok m' ∧ Tracks m₀ (ls ++ [acc]) m' := by
  rcases m.step_cases acc with ⟨t, hadr, rfl, hcmd, hstep⟩ | ⟨hacc, tracer, data, hstep⟩
  · rw [hstep]
    exact romWrite_tracks h hadr hcmd hls
  · exact ⟨_, hstep, h.quiet hacc tracer data⟩

/-- An access that succeeds selects no missing bank. -/
theorem not_selectsMissingBank_of_ok {m₀ m m' : Mbc3} {ls : List Access} (h : Tracks m₀ ls m)
    {acc : Access} (hm' : step m acc = .ok m') : ¬ acc.SelectsMissingBank := by
  intro hmiss
  rcases m.step_cases acc with ⟨t, hadr, rfl, hcmd, hstep⟩ | ⟨hacc, -⟩
  · rw [hstep, romWrite_missing h hadr hcmd hmiss] at hm'
    cases hm'
  · obtain ⟨bank, hbank, -⟩ := hmiss
    rw [hacc.ramSelect] at hbank
    cases hbank

/-- A history that fails no assertion selects no missing bank and ends in a state with
    `Tracks`. -/
theorem run_tracks {m₀ m : Mbc3} (hinit : Tracks m₀ [] m₀) {ls : List Access}
    (hrun : ls.foldlM step m₀ = .ok m) :
    (∀ acc ∈ ls, ¬ acc.SelectsMissingBank) ∧ Tracks m₀ ls m := by
  refine History.run_induction
    (fun ls m => (∀ acc ∈ ls, ¬ acc.SelectsMissingBank) ∧ Tracks m₀ ls m) ⟨by simp, hinit⟩ ?_ hrun
  intro ls m acc m' ⟨hls, h⟩ hstep
  have hacc := not_selectsMissingBank_of_ok h hstep
  have hls' := List.forall_mem_append.mpr ⟨hls, List.forall_mem_singleton.mpr hacc⟩
  obtain ⟨m'', hm'', htr⟩ := step_tracks h hls'
  cases hstep.symm.trans hm''
  exact ⟨hls', htr⟩

/-- A history that selects no missing bank succeeds in a state with `Tracks`. -/
theorem run_succeeds (m₀ : Mbc3) (hinit : Tracks m₀ [] m₀) (ls : List Access)
    (hls : ∀ acc ∈ ls, ¬ acc.SelectsMissingBank) :
    ∃ m, ls.foldlM step m₀ = .ok m ∧ Tracks m₀ ls m := by
  have hstep : ∀ ls m acc, ¬ acc.SelectsMissingBank →
      (∀ acc' ∈ ls, ¬ acc'.SelectsMissingBank) ∧ Tracks m₀ ls m →
      ∃ m', step m acc = .ok m' ∧
        (∀ acc' ∈ ls ++ [acc], ¬ acc'.SelectsMissingBank) ∧ Tracks m₀ (ls ++ [acc]) m' := by
    intro ls m acc hacc ⟨hls, h⟩
    have hls' := List.forall_mem_append.mpr ⟨hls, List.forall_mem_singleton.mpr hacc⟩
    obtain ⟨m', hm', htr⟩ := step_tracks h hls'
    exact ⟨m', hm', hls', htr⟩
  obtain ⟨m, hrun, -, htr⟩ := History.run_total _ _ ⟨by simp, hinit⟩ hstep ls hls
  exact ⟨m, hrun, htr⟩

/-! ## What is mapped and what is selected -/

/-- State `m` maps what the history `ls` selects: the RAM bank exists, reads of 0x4000-0x7FFF
    give the selected ROM bank, and an enabled RAM access goes to the selected bank of `ext_ram`
    or to the selected RTC register, whichever was selected last. -/
structure MapsSelection (romHigh : Fin (128 * 0x4000) → U8) (ls : List Access) (m : Mbc3) :
    Prop where
  ramInd_lt : m.ramInd.toNat < 4
  romWindow (a : Fin 0x4000) (t : Payload) : t.command = .read → t.address.toNat = 0x4000 + a →
    ∃ t' m', m.bTransportRom t = .ok (t', m') ∧ t'.responseStatus = .ok ∧
      t'.data = romHigh (BankSwitchedMem.cell ⟨max 1 (romSel ls) - 1, romSel_lt ls⟩ a)
  ramWindow (time : I64) (a : Fin 0x2000) (t : Payload) : m.ramRtcEnabled = true →
    t.address.toNat = a → ramTarget ls = .extRam → ∃ hbank : ramBank ls < 4,
      let x := BankSwitchedMem.cell ⟨ramBank ls, hbank⟩ a
      (t.command = .read → m.bTransportRam time t =
        .ok ({ t with data := m.extRam.data x, responseStatus := .ok }, m)) ∧
      (t.command = .write → m.bTransportRam time t = .ok ({ t with responseStatus := .ok },
        { m with extRam := { m.extRam with data := Function.update m.extRam.data x t.data } }))
  rtcWindow (time : I64) (a : Fin 0x2000) (t : Payload) (reg : Nat) : m.ramRtcEnabled = true →
    t.address.toNat = a → ramTarget ls = .rtc reg → m.rtcReg = reg ∧
      (t.command = .read → m.bTransportRam time t =
        .ok ({ t with data := m.rtcValue time, responseStatus := .ok }, m)) ∧
      (t.command = .write → m.bTransportRam time t = .ok ({ t with responseStatus := .ok }, m))

theorem Tracks.mapsSelection {m₀ m : Mbc3} {ls : List Access} (h : Tracks m₀ ls m)
    (hls : ∀ acc ∈ ls, ¬ acc.SelectsMissingBank) : MapsSelection m₀.romHigh.data ls m := by
  have hlt := ramBank_lt hls
  have htarget := h.target
  unfold Mbc3.target at htarget
  constructor
  · rwa [h.ramInd]
  · intro a t hcmd hadr
    have ha := a.isLt
    obtain ⟨tracer, hread⟩ := m.tracedRomRead_high hcmd a hadr
    have hbank : m.romHigh.currentBankInd = ⟨max 1 (romSel ls) - 1, romSel_lt ls⟩ :=
      Fin.ext h.romBank
    rw [← h.romHigh, ← hbank, bTransportRom, cAssert_pos (by bv_omega), ok_bind]
    simp only [hcmd, hread]
    exact ⟨_, _, rfl, rfl, rfl⟩
  · intro time a t hen hadr hram
    have ha := a.isLt
    have hin : t.address < 0x2000 := by bv_omega
    have hbank : m.extRam.currentBankInd = ⟨Mbc3.ramBank ls, hlt⟩ := Fin.ext h.ramBank
    have hmap : m.rtcMapped = false := by
      cases hm : m.rtcMapped with
      | false => rfl
      | true => simp [hm, hram] at htarget
    refine ⟨hlt, fun hcmd => ?_, fun hcmd => ?_⟩
    · rw [m.bTransportRam_extRam hin time hen hmap, m.ramTransport_read hcmd a hadr, hbank]
      rfl
    · rw [m.bTransportRam_extRam hin time hen hmap, m.ramTransport_write hcmd a hadr, hbank]
      rfl
  · intro time a t reg hen hadr hrtc
    have ha := a.isLt
    have hin : t.address < 0x2000 := by bv_omega
    cases hmap : m.rtcMapped with
    | false => simp [hmap, hrtc] at htarget
    | true =>
      rw [hrtc, hmap, if_pos rfl] at htarget
      refine ⟨by injection htarget, fun hcmd => ?_, fun hcmd => ?_⟩
      · rw [m.bTransportRam_rtc hin time hen hmap, if_neg (by simp [hcmd])]
      · rw [m.bTransportRam_rtc hin time hen hmap, if_pos hcmd]

/-- The byte 4 selects a RAM bank that does not exist: the write fails the assertion of
    `DoBankSwitch`. -/
theorem bank_4_fails :
    [Access.write 0x4000 4 (by decide)].foldlM step
        (init (fun _ => 0) (fun _ => 0) (fun _ => 0) false) =
      .error (.assertion "index < num_banks_") := by
  rw [List.foldlM_cons, Access.write, step_rom_write _ _ rfl,
    romWrite_missing (tracks_init _ _ _ _) (by decide) rfl ⟨4, by decide, by decide⟩]
  rfl

/-- For every cartridge and every history: the history fails no assertion and maps what it
    selects exactly when none of its accesses selects a missing RAM bank. -/
theorem maps_selection_iff (romLow : Fin 0x4000 → U8) (romHigh : Fin (128 * 0x4000) → U8)
    (extRam : Fin (4 * 0x2000) → U8) (symbolFile : Bool) (ls : List Access) :
    (∃ m, ls.foldlM step (init romLow romHigh extRam symbolFile) = .ok m ∧
      MapsSelection romHigh ls m) ↔ ∀ acc ∈ ls, ¬ acc.SelectsMissingBank := by
  have hinit := tracks_init romLow romHigh extRam symbolFile
  constructor
  · rintro ⟨m, hrun, -⟩
    exact (run_tracks hinit hrun).1
  · intro hls
    obtain ⟨m, hrun, htr⟩ := run_succeeds _ hinit ls hls
    exact ⟨m, hrun, htr.mapsSelection hls⟩

end Mbc3

end TlmBoy
