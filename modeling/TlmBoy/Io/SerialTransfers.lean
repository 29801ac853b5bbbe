import TlmBoy.Bus.Slaves
import TlmBoy.Lib.History

/-
  The serial port: transfers that the guest starts, their completion, and the interrupt.

  `SerialInterrupt` is registered with `SC_METHOD` and without `dont_initialize()`, so the kernel
  also calls it once at simulation start. `Contract` says what the port is for: the serial bit of
  IF is raised by the completion of a transfer, once for each. A raise is read off the bit before
  and after a step, which is why the CPU's acknowledgements are among the steps. From the initial
  call on the contract holds (`contract_after_call`), and the initial call itself breaks it
  (`initial_call_breaks`).
-/

namespace TlmBoy

namespace Serial

/-- The members that `SerialInterrupt` sets. -/
def serialInterrupt (s : Serial) : Serial :=
  { s with regSc := s.regSc &&& ~~~kMaskTransferStart, ongoingTransmission := false }

/-- A write to SC, 0xFF02. -/
def writeSc (v : U8) (s : Serial) : Serial :=
  if (v &&& kMaskTransferStart) != 0 ∧ ¬ s.ongoingTransmission ∧ (v &&& kMaskClockSource) != 0 then
    { s with regSc := v, interruptPending := true, ongoingTransmission := true }
  else { s with regSc := v }

theorem bTransport_writeSc (s : Serial) {t : Payload} (hadr : t.address = 1)
    (hcmd : t.command = .write) :
    s.bTransport t = .ok ({ t with responseStatus := .ok }, s.writeSc t.data) := by
  rw [bTransport, cAssert_pos (by rw [hadr]; decide), hcmd]
  simp only [hadr, if_true, ok_bind, pure_eq_ok, true_and, writeSc]

/-- A write to SB, 0xFF01, does nothing. -/
theorem bTransport_writeSb (s : Serial) {t : Payload} (hadr : t.address = 0)
    (hcmd : t.command = .write) :
    s.bTransport t = .ok ({ t with responseStatus := .ok }, s) := by
  rw [bTransport, cAssert_pos (by rw [hadr]; decide), hcmd]
  simp [hadr]

end Serial

namespace Gb

/-- `Serial::SerialInterrupt`. -/
def serialInterrupt (gb : Gb) : Gb :=
  { gb with
    serial := gb.serial.serialInterrupt
    regIf := ⟨fun _ => gb.regIf.data 0 ||| GbConst.kSerialIOIf⟩ }

/-- `*reg_intr_pending_dmi &= ~flag` of `HandleInterrupts`. -/
def acknowledge (flag : U8) (gb : Gb) : Gb :=
  { gb with regIf := ⟨fun _ => gb.regIf.data 0 &&& ~~~flag⟩ }

/-- The serial bit of IF. -/
def serialIf (gb : Gb) : Bool := (gb.regIf.data 0 &&& GbConst.kSerialIOIf) != 0

@[simp] theorem serialIf_serialInterrupt (gb : Gb) : gb.serialInterrupt.serialIf = true := by
  have hset : ∀ v : U8, ((v ||| GbConst.kSerialIOIf) &&& GbConst.kSerialIOIf) != 0 := by
    decide +kernel
  exact hset (gb.regIf.data 0)

theorem serialIf_acknowledge {flag : U8} {gb : Gb} (h : gb.serialIf = false) :
    (gb.acknowledge flag).serialIf = false := by
  have hclear : gb.regIf.data 0 &&& GbConst.kSerialIOIf = 0 := by
    simpa [serialIf] using h
  unfold serialIf acknowledge
  dsimp only
  rw [BitVec.and_assoc, BitVec.and_comm (~~~flag), ← BitVec.and_assoc, hclear]
  simp

end Gb

namespace Serial

/-! ## Runs -/

/-- The kernel's call at simulation start, a guest write to SB or SC, the time of the completion
    event, which fires if it has been notified, or the CPU's clearing of interrupt flags. -/
inductive Event where
  | initialCall
  | writeSb (v : U8)
  | writeSc (v : U8)
  | complete
  | acknowledge (flag : U8)
deriving DecidableEq

def step (gb : Gb) : Event → Except Fault Gb
  | .initialCall => .ok gb.serialInterrupt
  | .writeSb v =>
    (gb.bTransport { command := .write, address := 0xFF01, data := v }).map Prod.snd
  | .writeSc v =>
    (gb.bTransport { command := .write, address := 0xFF02, data := v }).map Prod.snd
  | .complete =>
    if gb.serial.interruptPending then
      .ok { gb with serial := { gb.serial with interruptPending := false } }.serialInterrupt
    else .ok gb
  | .acknowledge flag => .ok (gb.acknowledge flag)

theorem findSlave_serial (adr : U16) (hadr : adr = 0xFF01 ∨ adr = 0xFF02) :
    findSlave adr = some ⟨0xFF01, 0xFF03, .serial⟩ := by
  rcases hadr with rfl | rfl <;> decide

theorem step_writeSb (gb : Gb) (v : U8) : step gb (.writeSb v) = .ok gb := by
  have hroute : gb.routeTransport { command := .write, address := 0xFF01, data := v } =
      .ok ({ command := .write, address := 0, data := v, responseStatus := .ok }, gb, none) := by
    have hrel : (0xFF01 : U16) - 0xFF01 = 0 := by decide
    rw [gb.routeTransport_mapped (findSlave_serial _ (Or.inl rfl))]
    dsimp only
    rw [hrel, Gb.slaveTransport, bTransport_writeSb _ rfl rfl]
    rfl
  rw [step, Gb.bTransport_of_route hroute]
  rfl

theorem step_writeSc (gb : Gb) (v : U8) :
    step gb (.writeSc v) = .ok { gb with serial := gb.serial.writeSc v } := by
  have hroute : gb.routeTransport { command := .write, address := 0xFF02, data := v } =
      .ok ({ command := .write, address := 1, data := v, responseStatus := .ok },
        { gb with serial := gb.serial.writeSc v }, none) := by
    have hrel : (0xFF02 : U16) - 0xFF01 = 1 := by decide
    rw [gb.routeTransport_mapped (findSlave_serial _ (Or.inr rfl))]
    dsimp only
    rw [hrel, Gb.slaveTransport, bTransport_writeSc _ rfl rfl]
    rfl
  rw [step, Gb.bTransport_of_route hroute]
  rfl

/-- The step turns `f` from false to true. -/
def rises (f : Gb → Bool) (gb : Gb) (e : Event) : Bool :=
  match step gb e with
  | .ok gb' => !f gb && f gb'
  | .error _ => false

/-- The step raises the serial bit of IF. -/
def Interrupts (gb : Gb) (e : Event) : Prop := rises Gb.serialIf gb e = true

/-- The guest starts a transfer: it writes the start bit and the bit of the internal clock, and
    from then on a completion is pending. -/
def Starts (gb : Gb) : Event → Prop
  | .writeSc v => (v &&& kMaskTransferStart) != 0 ∧ (v &&& kMaskClockSource) != 0 ∧
      rises (fun gb => gb.serial.interruptPending) gb (.writeSc v) = true
  | _ => False

instance (gb : Gb) (e : Event) : Decidable (Interrupts gb e) :=
  inferInstanceAs (Decidable (_ = true))

instance (gb : Gb) : (e : Event) → Decidable (Starts gb e)
  | .writeSc _ => inferInstanceAs (Decidable (_ ∧ _ ∧ _))
  | .initialCall | .writeSb _ | .complete | .acknowledge _ => inferInstanceAs (Decidable False)

theorem rises_of_ok {f : Gb → Bool} {gb gb' : Gb} {e : Event} (h : step gb e = .ok gb') :
    rises f gb e = true ↔ f gb = false ∧ f gb' = true := by
  rw [rises, h, Bool.and_eq_true, Bool.not_eq_true']

/-- A step that leaves a clear bit clear does not raise it. -/
theorem not_rises {f : Gb → Bool} {gb gb' : Gb} {e : Event} (h : step gb e = .ok gb')
    (hkept : f gb = false → f gb' = false) : ¬ rises f gb e = true := by
  rw [rises_of_ok h]
  rintro ⟨hbefore, hafter⟩
  exact absurd ((hkept hbefore).symm.trans hafter) Bool.false_ne_true

/-- Only `SerialInterrupt` raises the bit. -/
theorem interrupts_cause {gb : Gb} {e : Event} (h : Interrupts gb e) :
    e = .initialCall ∨ e = .complete ∧ gb.serial.interruptPending = true := by
  cases e with
  | initialCall => exact .inl rfl
  | writeSb v => exact absurd h (not_rises (step_writeSb gb v) id)
  | writeSc v => exact absurd h (not_rises (step_writeSc gb v) id)
  | complete =>
    refine .inr ⟨rfl, ?_⟩
    by_contra hidle
    have hstep : step gb .complete = .ok gb := if_neg hidle
    exact not_rises hstep id h
  | acknowledge flag =>
    have hstep : step gb (.acknowledge flag) = .ok (gb.acknowledge flag) := rfl
    exact absurd h (not_rises hstep Gb.serialIf_acknowledge)

/-- A write of both bits starts a transfer if none is ongoing or pending. -/
theorem starts_writeSc {gb : Gb} {v : U8} (hs : (v &&& kMaskTransferStart) != 0)
    (hc : (v &&& kMaskClockSource) != 0) (hfree : gb.serial.ongoingTransmission = false)
    (hidle : gb.serial.interruptPending = false) : Starts gb (.writeSc v) := by
  refine ⟨hs, hc, (rises_of_ok (step_writeSc gb v)).mpr ⟨hidle, ?_⟩⟩
  dsimp only
  rw [writeSc, if_pos ⟨hs, by rw [hfree]; decide, hc⟩]

/-- How many events of a run that starts in `gb` satisfy `P` at their turn. -/
def count (P : Gb → Event → Prop) [∀ gb e, Decidable (P gb e)] : Gb → List Event → Nat
  | _, [] => 0
  | gb, e :: es => (if P gb e then 1 else 0) +
    match step gb e with
    | .ok gb' => count P gb' es
    | .error _ => 0

/-- What the port promises of a run: the serial bit of IF is raised by the completion of a transfer
    that the guest has started, at most once for each, a transfer is ongoing exactly while its
    completion is pending, and it is pending whenever SC shows one. -/
structure Contract (gb : Gb) (es : List Event) : Prop where
  completions : ∀ pre e suf m, es = pre ++ e :: suf → pre.foldlM step gb = .ok m →
    Interrupts m e → e = .complete ∧ m.serial.interruptPending = true
  counted : ∀ pre suf, es = pre ++ suf → count Interrupts gb pre ≤ count Starts gb pre
  ongoing : ∀ pre suf m, es = pre ++ suf → pre.foldlM step gb = .ok m →
    m.serial.ongoingTransmission = m.serial.interruptPending
  shown : ∀ pre suf m, es = pre ++ suf → pre.foldlM step gb = .ok m →
    (m.serial.regSc &&& kMaskTransferStart) ≠ 0 → (m.serial.regSc &&& kMaskClockSource) ≠ 0 →
      m.serial.interruptPending = true

/-! ## After the initial call -/

/-- No transfer, or one whose completion is pending. -/
structure Settled (s : Serial) : Prop where
  ongoing : s.ongoingTransmission = s.interruptPending
  shown : (s.regSc &&& kMaskTransferStart) ≠ 0 → (s.regSc &&& kMaskClockSource) ≠ 0 →
    s.interruptPending = true

/-- The number of pending completions. -/
def pending (gb : Gb) : Nat := if gb.serial.interruptPending then 1 else 0

theorem settled_serialInterrupt {s : Serial} (hpending : s.interruptPending = false) :
    Settled s.serialInterrupt where
  ongoing := hpending.symm
  shown h := by
    have hclear : ∀ v : U8, (v &&& ~~~kMaskTransferStart) &&& kMaskTransferStart = 0 := by
      intro v
      rw [BitVec.and_assoc]
      have hmask : ~~~kMaskTransferStart &&& kMaskTransferStart = 0 := by decide
      rw [hmask]
      exact BitVec.and_zero
    exact absurd (hclear s.regSc) h

theorem settled_writeSc {s : Serial} (v : U8) (h : Settled s) : Settled (s.writeSc v) := by
  unfold writeSc
  by_cases hstart : (v &&& kMaskTransferStart) != 0 ∧ ¬ s.ongoingTransmission ∧
      (v &&& kMaskClockSource) != 0
  · rw [if_pos hstart]
    exact ⟨rfl, fun _ _ => rfl⟩
  · rw [if_neg hstart]
    refine ⟨h.ongoing, fun hs hc => ?_⟩
    have hongoing : s.ongoingTransmission = true := by
      by_contra hfree
      exact hstart ⟨bne_iff_ne.mpr hs, hfree, bne_iff_ne.mpr hc⟩
    exact h.ongoing.symm.trans hongoing

/-- A step keeps a settled port and the account of interrupts and transfers. -/
theorem step_settled {gb : Gb} {e : Event} (he : e ≠ .initialCall) (h : Settled gb.serial) :
    ∃ gb', step gb e = .ok gb' ∧ Settled gb'.serial ∧
      (if Interrupts gb e then 1 else 0) + pending gb' ≤
        (if Starts gb e then 1 else 0) + pending gb := by
  have hquiet : e ≠ .complete → ¬ Interrupts gb e := fun hne hint =>
    (interrupts_cause hint).elim he fun hcomplete => hne hcomplete.1
  cases e with
  | initialCall => exact absurd rfl he
  | writeSb v =>
    refine ⟨gb, step_writeSb gb v, h, ?_⟩
    rw [if_neg (hquiet nofun)]
    omega
  | writeSc v =>
    refine ⟨_, step_writeSc gb v, settled_writeSc v h, ?_⟩
    rw [if_neg (hquiet nofun)]
    by_cases hstart : (v &&& kMaskTransferStart) != 0 ∧ ¬ gb.serial.ongoingTransmission ∧
        (v &&& kMaskClockSource) != 0
    · obtain ⟨hs, hfree, hc⟩ := hstart
      have hfree := Bool.eq_false_of_not_eq_true hfree
      have hidle : gb.serial.interruptPending = false := h.ongoing.symm.trans hfree
      rw [if_pos (starts_writeSc hs hc hfree hidle), pending, pending, hidle]
      split_ifs <;> decide
    · have hwrite : gb.serial.writeSc v = { gb.serial with regSc := v } := if_neg hstart
      rw [pending, pending, hwrite]
      dsimp only
      omega
  | complete =>
    by_cases hpending : gb.serial.interruptPending = true
    · refine ⟨_, if_pos hpending, settled_serialInterrupt rfl, ?_⟩
      have hafter : pending ({ gb with
          serial := { gb.serial with interruptPending := false } }.serialInterrupt) = 0 := rfl
      rw [hafter, pending, if_pos hpending]
      split_ifs <;> omega
    · refine ⟨gb, if_neg hpending, h, ?_⟩
      have hint : ¬ Interrupts gb .complete := fun hint =>
        (interrupts_cause hint).elim nofun fun hcomplete => hpending hcomplete.2
      rw [if_neg hint]
      omega
  | acknowledge flag =>
    refine ⟨gb.acknowledge flag, rfl, h, ?_⟩
    rw [if_neg (hquiet nofun)]
    have hsame : pending (gb.acknowledge flag) = pending gb := rfl
    omega

/-- A run keeps them. -/
theorem run_settled {es : List Event} (hes : Event.initialCall ∉ es) {gb : Gb}
    (h : Settled gb.serial) :
    ∃ gb', es.foldlM step gb = .ok gb' ∧ Settled gb'.serial ∧
      count Interrupts gb es + pending gb' ≤ count Starts gb es + pending gb := by
  induction es generalizing gb with
  | nil => exact ⟨gb, rfl, h, Nat.le_refl _⟩
  | cons e es ih =>
    obtain ⟨m, hstep, hm, hfirst⟩ := step_settled (fun he => hes (he ▸ List.mem_cons_self)) h
    obtain ⟨gb', hrun, hgb', hrest⟩ := ih (fun hmem => hes (List.mem_cons_of_mem _ hmem)) hm
    refine ⟨gb', ?_, hgb', ?_⟩
    · rw [List.foldlM_cons, hstep]
      exact hrun
    · rw [count, count, hstep]
      dsimp only
      omega

/-- From the initial call on, without another transfer under way, the port keeps its contract. -/
theorem contract_after_call (gb : Gb) (hpending : gb.serial.interruptPending = false)
    (es : List Event) (hes : Event.initialCall ∉ es) : Contract gb.serialInterrupt es := by
  have hinit : Settled gb.serialInterrupt.serial := settled_serialInterrupt hpending
  have hidle : pending gb.serialInterrupt = 0 := by
    rw [pending, if_neg]
    rw [show gb.serialInterrupt.serial.interruptPending = gb.serial.interruptPending from rfl,
      hpending]
    exact Bool.false_ne_true
  constructor
  · rintro pre e suf m rfl - hint
    refine (interrupts_cause hint).resolve_left ?_
    rintro rfl
    exact hes (List.mem_append_right _ List.mem_cons_self)
  · rintro pre suf rfl
    have hpre : Event.initialCall ∉ pre := fun h => hes (List.mem_append_left _ h)
    obtain ⟨gb', -, -, hcount⟩ := run_settled hpre hinit
    omega
  · rintro pre suf m rfl hm
    have hpre : Event.initialCall ∉ pre := fun h => hes (List.mem_append_left _ h)
    obtain ⟨gb', hrun, hsettled, -⟩ := run_settled hpre hinit
    obtain rfl : gb' = m := Except.ok.inj (hrun.symm.trans hm)
    exact hsettled.ongoing
  · rintro pre suf m rfl hm
    have hpre : Event.initialCall ∉ pre := fun h => hes (List.mem_append_left _ h)
    obtain ⟨gb', hrun, hsettled, -⟩ := run_settled hpre hinit
    obtain rfl : gb' = m := Except.ok.inj (hrun.symm.trans hm)
    exact hsettled.shown

/-! ## The initial call -/

/-- SystemC's rule for the method: the kernel calls it once, before any time has passed. -/
def CalledOnce (es : List Event) : Prop :=
  ∃ pre post, es = pre ++ .initialCall :: post ∧ .initialCall ∉ pre ++ post ∧ .complete ∉ pre

theorem step_ok (gb : Gb) (e : Event) : ∃ gb', step gb e = .ok gb' := by
  cases e with
  | initialCall => exact ⟨_, rfl⟩
  | writeSb v => exact ⟨_, step_writeSb gb v⟩
  | writeSc v => exact ⟨_, step_writeSc gb v⟩
  | complete =>
    by_cases hpending : gb.serial.interruptPending = true
    · exact ⟨_, if_pos hpending⟩
    · exact ⟨_, if_neg hpending⟩
  | acknowledge flag => exact ⟨_, rfl⟩

/-- Without a call of `SerialInterrupt` the bit stays clear. -/
theorem run_serialIf {gb : Gb} (h : gb.serialIf = false) {es : List Event}
    (hcall : .initialCall ∉ es) (htime : .complete ∉ es) :
    ∃ gb', es.foldlM step gb = .ok gb' ∧ gb'.serialIf = false := by
  induction es generalizing gb with
  | nil => exact ⟨gb, rfl, h⟩
  | cons e es ih =>
    obtain ⟨m, hstep⟩ := step_ok gb e
    have hm : m.serialIf = false := by
      by_contra hset
      have hraised := (rises_of_ok hstep).mpr ⟨h, Bool.eq_true_of_not_eq_false hset⟩
      rcases interrupts_cause hraised with rfl | ⟨rfl, -⟩
      · exact hcall List.mem_cons_self
      · exact htime List.mem_cons_self
    obtain ⟨gb', hrun, hgb'⟩ := ih hm (fun he => hcall (List.mem_cons_of_mem _ he))
      (fun he => htime (List.mem_cons_of_mem _ he))
    refine ⟨gb', ?_, hgb'⟩
    rw [List.foldlM_cons, hstep]
    exact hrun

/-- In no run from power-on is the contract kept: the initial call raises the serial bit of IF, and
    it completes no transfer. The members of the port have any values before it. -/
theorem initial_call_breaks (cartridge : Cartridge) (ongoing : Bool) (sc : U8) (timer : Timer)
    {es : List Event} (hes : CalledOnce es) :
    ¬ Contract (Gb.init cartridge ⟨ongoing, sc, false⟩ timer) es := by
  intro h
  obtain ⟨pre, post, rfl, hcall, htime⟩ := hes
  have hoff : (Gb.init cartridge ⟨ongoing, sc, false⟩ timer).serialIf = false := by
    show ((0 : U8) &&& GbConst.kSerialIOIf != 0) = false
    decide
  obtain ⟨gb, hpre, hclear⟩ := run_serialIf hoff (fun he => hcall (List.mem_append_left _ he)) htime
  have hraised : Interrupts gb .initialCall :=
    (rises_of_ok rfl).mpr ⟨hclear, gb.serialIf_serialInterrupt⟩
  have hcomplete := h.completions pre .initialCall post gb rfl hpre hraised
  exact Event.noConfusion hcomplete.1

/-- The guest starts a transfer before the call, and the CPU serves both interrupts. -/
theorem call_after_write_breaks :
    ¬ Contract (Gb.powerOn .blank) [.writeSc 0x81, .initialCall,
      .acknowledge GbConst.kSerialIOIf, .complete] :=
  initial_call_breaks .blank false 0 _
    ⟨[.writeSc 0x81], [.acknowledge GbConst.kSerialIOIf, .complete], rfl, by decide, by decide⟩

/-- At power-on the serial bit of IF is 0, and the initial call sets it. -/
theorem interrupt_without_transfer :
    (Gb.powerOn .blank).serialIf = false ∧ (Gb.powerOn .blank).serialInterrupt.serialIf = true ∧
      ¬ Contract (Gb.powerOn .blank) [.initialCall] := by
  refine ⟨rfl, rfl, fun h => ?_⟩
  have hcounted := h.counted [.initialCall] [] rfl
  exact absurd hcounted (by decide)

end Serial

end TlmBoy
