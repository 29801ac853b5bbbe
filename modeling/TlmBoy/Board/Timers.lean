import TlmBoy.Board.FrameTiming

/-
  DIV and TIMA as functions of time.

  The registers of the timer change with its own two threads and with a guest's writes to them,
  and with nothing else (`Gb.bTransport_timer`, `KeepsTimer`). `DivLoop` counts from power-on on,
  so a write to DIV sets the register and not the phase of its count (`div_at_time`). `TimerLoop`
  takes its next wait from what TAC is then, so a write to TAC leaves the wait that the thread is in
  as it is (`tima_at_time`).
-/

namespace TlmBoy

open EventKernel (Simulation Course WaitsAt)

/-! ## The timer's registers on the bus -/

/-- A write to DIV resets it, whatever is written, and the other writes leave it alone. -/
theorem Timer.write_regDiv {tm tm' : Timer} {adr : U16} {v : U8} (h : tm.write adr v = .ok tm') :
    tm'.regDiv = if adr = 0 then 0 else tm.regDiv := by
  unfold Timer.write at h
  split at h
  · cases h
    rw [if_pos (by bv_omega)]
  · cases h
    rw [if_neg (by bv_omega)]
  · cases h
    rw [if_neg (by bv_omega)]
  · cases h
    rw [if_neg (by bv_omega)]
  · cases h

/-- `inc_time_` is a multiple of a clock cycle. -/
def Timer.Paced (tm : Timer) : Prop :=
  0 < tm.cyclesPerInc ∧ tm.incTime = tm.cyclesPerInc * GbConst.kNsPerClkCycle

instance (tm : Timer) : Decidable tm.Paced := by
  unfold Timer.Paced
  infer_instance

theorem Timer.Paced.pos {tm : Timer} (h : tm.Paced) : 0 < tm.incTime := by
  rw [h.2]
  exact Nat.mul_pos h.1 (by decide)

/-- A clock cycle has an even number of nanoseconds. -/
theorem Timer.Paced.even {tm : Timer} (h : tm.Paced) : tm.incTime % 2 = 0 := by
  have hns : GbConst.kNsPerClkCycle = 2 * 119 := rfl
  rw [h.2, hns]
  omega

theorem Timer.Paced.write {tm tm' : Timer} {adr : U16} {v : U8} (h : tm.Paced)
    (hwrite : tm.write adr v = .ok tm') : tm'.Paced := by
  have hselect : 0 < selectCycles v := by
    unfold selectCycles
    split <;> decide
  unfold Timer.write at hwrite
  split at hwrite
  · cases hwrite
    exact ⟨h.1, rfl⟩
  · cases hwrite
    exact ⟨h.1, rfl⟩
  · cases hwrite
    exact ⟨h.1, rfl⟩
  · cases hwrite
    exact ⟨hselect, rfl⟩
  · cases hwrite

namespace Gb

theorem routeTransport_timer {gb gb' : Gb} {t t' : Payload} {dma : Option U8}
    (h : gb.routeTransport t = .ok (t', gb', dma)) : gb'.timer = gb.timer ∨
      (t.command = .write ∧ 0xFF04 ≤ t.address ∧ t.address ≤ 0xFF07 ∧
        gb.timer.write (t.address - 0xFF04) t.data = .ok gb'.timer) := by
  cases hs : findSlave t.address with
  | none =>
    rw [routeTransport_unmapped gb hs] at h
    cases h
    exact .inl rfl
  | some s =>
    rw [routeTransport_mapped gb hs] at h
    obtain ⟨hmem, hin⟩ := findSlave_eq_some_iff.mp hs
    cases hsocket : s.socket with
    | timer =>
      have hrange : ∀ s ∈ busSlaveVec, s.socket = .timer →
          s.addrFrom = 0xFF04 ∧ s.addrTo = 0xFF07 := by decide
      obtain ⟨hfrom, hto⟩ := hrange s hmem hsocket
      rw [hfrom, hto] at hin
      rw [hsocket, hfrom] at h
      obtain ⟨⟨u, tm⟩, htm, h⟩ := StateExcept.except_bind_eq_ok h
      cases h
      obtain ⟨v, -, htm⟩ := StateExcept.except_bind_eq_ok htm
      cases hcmd : t.command with
      | read =>
        rw [hcmd] at htm
        cases htm
        exact .inl rfl
      | ignore =>
        rw [hcmd] at htm
        cases htm
        exact .inl rfl
      | write =>
        rw [hcmd] at htm
        obtain ⟨tm', hwrite, htm⟩ := StateExcept.except_bind_eq_ok htm
        cases htm
        exact .inr ⟨rfl, hin.1, hin.2, hwrite⟩
    | _ =>
      rw [hsocket] at h
      obtain ⟨⟨u, m⟩, -, h⟩ := StateExcept.except_bind_eq_ok h
      cases h
      exact .inl rfl

/-- An OAM DMA reads, and writes into OAM. -/
theorem dmaTransfer_timer {gb gb' : Gb} {byte : U8} (h : gb.dmaTransfer byte = .ok gb') :
    gb'.timer = gb.timer := by
  obtain ⟨s, hrun, h⟩ := StateExcept.except_bind_eq_ok h
  cases h
  have hkept := @History.run_induction _ _ _ (dmaStep (byte.setWidth 16 <<< 8))
    (fun rounds s => (∀ i ∈ rounds, i < 0xA0) →
      s.1.command = .read ∧ s.2.2.timer = gb.timer)
    ({ command := .read, data := gb.stackByte }, { command := .write }, gb)
    (fun _ => ⟨rfl, rfl⟩) ?_ _ _ hrun
  · exact (hkept fun i hi => List.mem_range.mp hi).2
  · rintro rounds ⟨rp, wp, m⟩ i s' hm hstep hrounds
    obtain ⟨hread, htimer⟩ := hm fun k hk => hrounds k (List.mem_append_left _ hk)
    have hi : i < 0xA0 := hrounds i (List.mem_append_right _ (List.mem_singleton_self i))
    obtain ⟨⟨rp', m₁, d⟩, hfirst, hstep⟩ := StateExcept.except_bind_eq_ok hstep
    obtain ⟨⟨wp', m₂, d'⟩, hsecond, hstep⟩ := StateExcept.except_bind_eq_ok hstep
    cases hstep
    have hread' := (@routeTransport_read m m₁
      { rp with address := byte.setWidth 16 <<< 8 + BitVec.ofNat 16 i } rp' d hread hfirst).1
    have hsame : m₁.timer = m.timer := by
      obtain hsame | hwrites := routeTransport_timer hfirst
      · exact hsame
      · exact absurd (hread.symm.trans hwrites.1) (by decide)
    have hsame' : m₂.timer = m₁.timer := by
      obtain hsame | ⟨-, hlo, -⟩ := routeTransport_timer hsecond
      · exact hsame
      · exfalso
        dsimp only at hlo
        bv_omega
    exact ⟨hread', hsame'.trans (hsame.trans htimer)⟩

/-- Only a write to one of its registers changes the timer. -/
theorem bTransport_timer {gb gb' : Gb} {t t' : Payload} (h : gb.bTransport t = .ok (t', gb')) :
    gb'.timer = gb.timer ∨ (t.command = .write ∧ 0xFF04 ≤ t.address ∧ t.address ≤ 0xFF07 ∧
      gb.timer.write (t.address - 0xFF04) t.data = .ok gb'.timer) := by
  obtain ⟨⟨u, m, dma⟩, hroute, h⟩ := StateExcept.except_bind_eq_ok h
  have hlast : gb'.timer = m.timer := by
    cases dma with
    | none =>
      cases h
      rfl
    | some byte =>
      obtain ⟨m', hdma, h⟩ := StateExcept.except_bind_eq_ok h
      cases h
      exact dmaTransfer_timer hdma
  rw [hlast]
  exact routeTransport_timer hroute

/-- A write to DIV resets it, whatever is written. -/
theorem bTransport_resetDiv {gb gb' : Gb} {t t' : Payload} (hcmd : t.command = .write)
    (hadr : t.address = 0xFF04) (h : gb.bTransport t = .ok (t', gb')) :
    gb'.timer.regDiv = 0 := by
  have hs : findSlave t.address = some ⟨0xFF04, 0xFF07, .timer⟩ := by
    rw [hadr]
    decide
  obtain ⟨⟨u, m, dma⟩, hroute, h⟩ := StateExcept.except_bind_eq_ok h
  rw [routeTransport_mapped gb hs] at hroute
  obtain ⟨⟨u', tm⟩, htm, hroute⟩ := StateExcept.except_bind_eq_ok hroute
  cases hroute
  cases h
  obtain ⟨v, -, htm⟩ := StateExcept.except_bind_eq_ok htm
  rw [hcmd] at htm
  obtain ⟨tm', hwrite, htm⟩ := StateExcept.except_bind_eq_ok htm
  cases htm
  have hzero : t.address - 0xFF04 = 0 := by
    rw [hadr]
    decide
  exact (Timer.write_regDiv hwrite).trans (if_pos hzero)

theorem deltaCycle_timer {game : List U8} {gb gb' : Gb} (h : gb.deltaCycle game = .ok gb') :
    gb'.timer = gb.timer := by
  unfold deltaCycle at h
  dsimp only at h
  split_ifs at h
  · obtain ⟨c, -, h⟩ := StateExcept.except_bind_eq_ok h
    cases h
    rfl
  · cases h
    rfl

theorem setButton_timer (sym : Keycode) (pressed : Bool) (gb : Gb) :
    (gb.setButton sym pressed).timer = gb.timer := by
  unfold setButton
  dsimp only
  split_ifs <;> rfl

end Gb

namespace Board

variable {palette : Ppu.Palette} {game : List U8} {b b' : Board}

/-- The payload writes to one of the timer's registers. -/
def WritesTimer (t : Payload) : Prop :=
  t.command = .write ∧ 0xFF04 ≤ t.address ∧ t.address ≤ 0xFF07

/-! ## What leaves the timer alone -/

theorem inputLoop_timer (b : Board) : b.inputLoop.gb.timer = b.gb.timer :=
  inputLoop_frame (fun b => b.gb.timer) (fun sym pressed b => b.gb.setButton_timer sym pressed)
    (fun _ _ => rfl) b

/-- The processes of the other devices. -/
theorem resume_timer {p : Process} (hdiv : p ≠ .divLoop) (htimer : p ≠ .timerLoop)
    (h : b.resume palette p = .ok b') : b'.gb.timer = b.gb.timer := by
  cases p with
  | divLoop => exact absurd rfl hdiv
  | timerLoop => exact absurd rfl htimer
  | renderLoop =>
    obtain ⟨l, hl, rfl⟩ := StateExcept.map_eq_ok h
    exact Lcd.resume_frame Gb.timer (fun _ _ _ => rfl) (fun _ _ => rfl) (fun _ _ => rfl) hl
  | audioLoop =>
    cases h
    rfl
  | inputLoop =>
    cases h
    exact inputLoop_timer b

/-- Apart from a write to the timer, an act leaves it alone. -/
theorem act_timer {a : Act} (h : act game a b = .ok b') : b'.gb.timer = b.gb.timer ∨
    ∃ t, a = .access t ∧ WritesTimer t ∧
      b.gb.timer.write (t.address - 0xFF04) t.data = .ok b'.gb.timer := by
  cases a with
  | access t =>
    obtain ⟨l, hl, rfl⟩ := StateExcept.map_eq_ok h
    obtain ⟨t', gb, hbus, rfl⟩ := Lcd.access_eq_ok hl
    obtain hsame | ⟨hcmd, hlo, hhi, hwrite⟩ := Gb.bTransport_timer hbus
    · exact .inl hsame
    · exact .inr ⟨t, rfl, ⟨hcmd, hlo, hhi⟩, hwrite⟩
  | deliver ports =>
    obtain ⟨s, hs, rfl⟩ := StateExcept.map_eq_ok h
    obtain ⟨gb, hdelta, hs⟩ := StateExcept.except_bind_eq_ok hs
    cases hs
    have htimer : gb.timer = b.gb.timer := Gb.deltaCycle_timer hdelta
    exact .inl htimer
  | acknowledge flag | callback c | serialInterrupt | input e =>
    cases h
    exact .inl rfl

/-! ## DIV -/

theorem timerLoop_regDiv (gb : Gb) : gb.timerLoop.timer.regDiv = gb.timer.regDiv := by
  unfold Gb.timerLoop
  dsimp only
  split_ifs <;> rfl

/-- The payload writes to DIV. -/
def WritesDiv (t : Payload) : Prop := t.command = .write ∧ t.address = 0xFF04

/-- The act is no write to DIV. -/
def Act.SparesDiv (a : Act) : Prop := ∀ t, a = .access t → ¬ WritesDiv t

/-- `div_time` of `DivLoop`. -/
def divTime : Nat := 256 * GbConst.kNsPerClkCycle

/-- DIV after the round `n` of `DivLoop`, where it would have been `c` before the first one. -/
def DivCounts (c : U8) (n : Nat) (b : Board) : Prop := b.gb.timer.regDiv = c + BitVec.ofNat 8 n

theorem divLoop_course (palette : Ppu.Palette) (game : List U8) (c : U8) :
    Course (threads palette) (fun a : { a : Act // a.SparesDiv } => act game a.1) .divLoop Nat.succ
      (· * divTime) (fun _ => divTime) (DivCounts c) where
  own := by
    rintro n b b' hb h
    cases h
    refine ⟨?_, rfl⟩
    show b.gb.timer.regDiv + 1 = _
    rw [hb, BitVec.add_assoc]
    exact congrArg (c + ·) (BitVec.ofNat_add n 1).symm
  others := by
    rintro p hp n b b' hb h
    by_cases htimer : p = .timerLoop
    · subst htimer
      cases h
      exact (timerLoop_regDiv b.gb).trans hb
    · exact (congrArg Timer.regDiv (resume_timer hp htimer h)).trans hb
  acts := by
    rintro ⟨a, ha⟩ n b b' hb h
    obtain hsame | ⟨t, rfl, ⟨hcmd, hlo, -⟩, hwrite⟩ := act_timer h
    · exact (congrArg Timer.regDiv hsame).trans hb
    · have hadr : t.address - 0xFF04 ≠ 0 := fun he => ha t rfl ⟨hcmd, by bv_omega⟩
      rw [DivCounts, Timer.write_regDiv hwrite, if_neg hadr]
      exact hb
  since_next n := Nat.succ_mul n divTime

/-- Between two of its rounds the time says how many rounds of `DivLoop` there have been. -/
theorem divLoop_rounds {At : Nat → Board → Prop} {n : Nat} {k : Simulation Process Board}
    (h : WaitsAt .divLoop (· * divTime) (fun _ => divTime) At n k) (hk : k.now % divTime ≠ 0) :
    n = k.now / divTime := by
  have hdiv : divTime = 60928 := rfl
  obtain ⟨-, hdue, harrived, hnotOver⟩ := h
  rw [hdue] at hnotOver
  rw [hdiv] at hk harrived hnotOver ⊢
  have hend : k.now ≠ n * 60928 + 60928 := by
    intro he
    rw [he] at hk
    omega
  omega

/-- A guest's write to DIV resets the register and leaves `DivLoop` in its wait: at every later
    time until the next write DIV is the number of the multiples of `div_time` since then. Neither
    time is such a multiple itself, where the kernel decides who comes first. -/
theorem div_at_time (palette : Ppu.Palette) (game : List U8) (b : Board)
    (k₀ k : Simulation Process Board) (t : Payload) (s : Board)
    (hpast : Runs palette game b.start k₀) (hwrites : WritesDiv t)
    (hreset : act game (.access t) k₀.state = .ok s)
    (hrun : RunsWith Act.SparesDiv palette game { k₀ with state := s } k)
    (h₀ : k₀.now % divTime ≠ 0) (h : k.now % divTime ≠ 0) :
    k.state.gb.timer.regDiv = BitVec.ofNat 8 (k.now / divTime - k₀.now / divTime) := by
  have hany : Course (threads palette) (act game) .divLoop Nat.succ (· * divTime)
      (fun _ => divTime) fun _ _ => True :=
    ⟨fun _ _ _ _ _ => ⟨trivial, rfl⟩, fun _ _ _ _ _ _ _ => trivial,
      fun _ _ _ _ _ _ => trivial, fun n => Nat.succ_mul n divTime⟩
  have hstart : WaitsAt .divLoop (· * divTime) (fun _ => divTime) (fun _ _ => True) 0 b.start :=
    ⟨trivial, (Nat.zero_add _).symm, Nat.zero_le _, Nat.zero_le _⟩
  obtain ⟨n₀, hwaits₀⟩ := hany.reaches hpast hstart
  generalize Nat.succ^[n₀] 0 = m at hwaits₀
  have hn₀ := divLoop_rounds hwaits₀ h₀
  have hzero : s.gb.timer.regDiv = 0 := by
    obtain ⟨l, hl, rfl⟩ := StateExcept.map_eq_ok hreset
    obtain ⟨t', gb, hbus, rfl⟩ := Lcd.access_eq_ok hl
    exact Gb.bTransport_resetDiv hwrites.1 hwrites.2 hbus
  have hcounts : DivCounts (-BitVec.ofNat 8 m) m s := by
    rw [DivCounts, hzero]
    exact (BitVec.add_left_neg _).symm
  obtain ⟨n, hwaits⟩ := (divLoop_course palette game _).reaches hrun
    ⟨hcounts, hwaits₀.due, hwaits₀.arrived, hwaits₀.notOver⟩
  have hn := divLoop_rounds hwaits h
  have hcount : k.now / divTime - k₀.now / divTime = n := by
    rw [← hn, ← hn₀, Nat.succ_iterate, Nat.add_sub_cancel_left]
  rw [hcount]
  have hdiv := hwaits.holds
  rw [DivCounts, Nat.succ_iterate, BitVec.ofNat_add, ← BitVec.add_assoc, BitVec.add_left_neg,
    BitVec.zero_add] at hdiv
  exact hdiv

/-- A guest's write to DIV, 100 ns after power-on. -/
def divReset : Except Fault (Simulation Process Board × Board) := do
  let k ← powerOn.start.play (threads fun _ => ⟨0, 0, 0⟩) (act [])
    [.instant [.inputLoop, .audioLoop], .elapse 1, .instant [.renderLoop], .elapse 99]
  let s ← act [] (.access { command := .write, address := 0xFF04, data := 7 }) k.state
  return (k, s)

/-- `DivLoop` still counts at 60928 ns. -/
theorem div_after_write : ∃ (k₀ k : Simulation Process Board) (s : Board),
    divReset = .ok (k₀, s) ∧ k₀.now = 100 ∧
    RunsWith Act.SparesDiv (fun _ => ⟨0, 0, 0⟩) [] { k₀ with state := s } k ∧ k.now = 61028 ∧
    k.state.gb.timer.regDiv = 1 := by
  let later : List (EventKernel.Event Process { a : Act // a.SparesDiv }) :=
    [.elapse 18941, .instant [.renderLoop], .elapse 39984, .instant [.renderLoop],
      .elapse 1903, .instant [.divLoop], .elapse 100]
  have hplay : (divReset >>= fun r => (({ r.1 with state := r.2 } : Simulation Process Board).play
      (threads fun _ => ⟨0, 0, 0⟩) (fun a => act [] a.1) later).map
      fun k => (r.1.now, k.now)) = .ok (100, 61028) := by
    decide +kernel
  have hlawful : ∀ r ∈ divReset.toOption, Simulation.Lawful (threads fun _ => ⟨0, 0, 0⟩)
      (fun a => act [] a.1) later ({ r.1 with state := r.2 } : Simulation Process Board) := by
    decide +kernel
  have hpast : Simulation.Lawful (threads fun _ => ⟨0, 0, 0⟩) (act [])
      [.instant [.inputLoop, .audioLoop], .elapse 1, .instant [.renderLoop], .elapse 99]
      powerOn.start := by
    decide +kernel
  obtain ⟨⟨k₀, s⟩, hreset, hplay⟩ := StateExcept.except_bind_eq_ok hplay
  obtain ⟨k, hplay, htimes⟩ := StateExcept.map_eq_ok hplay
  have hnow₀ : k₀.now = 100 := congrArg Prod.fst htimes
  have hnow : k.now = 61028 := congrArg Prod.snd htimes
  have hrun := EventKernel.reaches_of_play
    (hlawful (k₀, s) (by rw [hreset]; rfl)) hplay
  refine ⟨k₀, k, s, hreset, hnow₀, hrun, hnow, ?_⟩
  obtain ⟨m, hm, hreset⟩ := StateExcept.except_bind_eq_ok hreset
  obtain ⟨s', hs, hreset⟩ := StateExcept.except_bind_eq_ok hreset
  cases hreset
  have hdiv := div_at_time _ _ _ k₀ k _ s (EventKernel.reaches_of_play hpast hm) ⟨rfl, rfl⟩ hs hrun
    (by rw [hnow₀]; decide) (by rw [hnow]; decide)
  rw [hdiv, hnow, hnow₀]
  decide

/-! ## TIMA -/

/-- The act is no write to the timer. -/
def Act.SparesTimer (a : Act) : Prop := ∀ t, a = .access t → ¬ WritesTimer t

theorem resume_paced {p : Process} (hb : b.gb.timer.Paced) (h : b.resume palette p = .ok b') :
    b'.gb.timer.Paced := by
  by_cases hdiv : p = .divLoop
  · subst hdiv
    cases h
    exact hb
  by_cases htimer : p = .timerLoop
  · subst htimer
    cases h
    show b.gb.timerLoop.timer.Paced
    unfold Gb.timerLoop
    dsimp only
    split_ifs <;> exact hb
  · rw [resume_timer hdiv htimer h]
    exact hb

theorem act_paced {a : Act} (hb : b.gb.timer.Paced) (h : act game a b = .ok b') :
    b'.gb.timer.Paced := by
  obtain hsame | ⟨t, -, -, hwrite⟩ := act_timer h
  · rw [hsame]
    exact hb
  · exact hb.write hwrite

/-- The timer after `n` increments of TIMA. -/
structure TimaCounts (tm : Timer) (n : Nat) (b : Board) : Prop where
  tima : b.gb.timer.regTima.toNat = (Reload.step 256 tm.regTma.toNat)^[n] tm.regTima.toNat
  tma : b.gb.timer.regTma = tm.regTma
  tac : b.gb.timer.regTac = tm.regTac
  incTime : b.gb.timer.incTime = tm.incTime

/-- The waits of `TimerLoop` from `t` on: the one that the thread is in until `due`, and then
    those of the length `d`. -/
def timerWait (t due d : Nat) : Nat → Nat
  | 0 => due - t
  | _ + 1 => d

def timerSince (t due d : Nat) : Nat → Nat
  | 0 => t
  | n + 1 => due + n * d

theorem timerLoop_course (palette : Ppu.Palette) (game : List U8) {tm : Timer}
    (htac : (tm.regTac &&& Timer.kMaskTimerEnabled) ≠ 0) {t due : Nat} (hdue : t ≤ due) :
    Course (threads palette) (fun a : { a : Act // a.SparesTimer } => act game a.1) .timerLoop
      Nat.succ (timerSince t due tm.incTime) (timerWait t due tm.incTime) (TimaCounts tm) where
  own := by
    rintro n b b' hb h
    cases h
    have htac' : (b.gb.timer.regTac &&& Timer.kMaskTimerEnabled) ≠ 0 := by
      rw [hb.tac]
      exact htac
    obtain ⟨htima, htma, htac', -⟩ := Gb.timerLoop_enabled htac'
    have hinc : b.gb.timerLoop.timer.incTime = tm.incTime := by
      rw [← hb.incTime]
      unfold Gb.timerLoop
      dsimp only
      split_ifs <;> rfl
    refine ⟨⟨?_, htma.trans hb.tma, htac'.trans hb.tac, hinc⟩, hinc⟩
    rw [Function.iterate_succ_apply', ← hb.tima, ← hb.tma]
    exact htima
  others := by
    rintro p hp n b b' hb h
    by_cases hdiv : p = .divLoop
    · subst hdiv
      cases h
      exact ⟨hb.tima, hb.tma, hb.tac, hb.incTime⟩
    · have hsame := resume_timer hdiv hp h
      exact ⟨by rw [hsame, hb.tima], by rw [hsame, hb.tma], by rw [hsame, hb.tac],
        by rw [hsame, hb.incTime]⟩
  acts := by
    rintro ⟨a, ha⟩ n b b' hb h
    obtain hsame | ⟨t, rfl, hwrites, -⟩ := act_timer h
    · exact ⟨by rw [hsame, hb.tima], by rw [hsame, hb.tma], by rw [hsame, hb.tac],
        by rw [hsame, hb.incTime]⟩
    · exact absurd hwrites (ha t rfl)
  since_next := by
    rintro (_ | n)
    · simp only [timerSince, timerWait]
      omega
    · simp only [timerSince, timerWait, Nat.succ_mul, Nat.add_assoc]

/-- The increments of TIMA up to the time `now`. -/
def timaIncrements (due d now : Nat) : Nat := if now < due then 0 else (now - due) / d + 1

theorem timerLoop_rounds {At : Nat → Board → Prop} {k : Simulation Process Board}
    {t due d n : Nat} (hdue : t ≤ due) (hd : 0 < d)
    (h : WaitsAt .timerLoop (timerSince t due d) (timerWait t due d) At n k)
    (hbetween : ∀ m, k.now ≠ due + m * d) : n = timaIncrements due d k.now := by
  obtain ⟨-, hover, harrived, hnotOver⟩ := h
  rw [hover] at hnotOver
  cases n with
  | zero =>
    have hne := hbetween 0
    simp only [timerSince, timerWait] at harrived hnotOver
    rw [timaIncrements, if_pos (by omega)]
  | succ n =>
    have hne := hbetween (n + 1)
    simp only [timerSince, timerWait, Nat.succ_mul] at harrived hnotOver hne
    rw [timaIncrements, if_neg (by omega)]
    have hquot : (k.now - due) / d = n := by
      rw [Nat.div_eq_of_lt_le]
      · omega
      · rw [Nat.succ_mul]
        omega
    rw [hquot]

/-- From any moment on, as long as nothing writes to an enabled timer: TIMA is incremented when the
    wait of `TimerLoop` is over, whatever TAC was when it began, and then once every `inc_time_`,
    with a reload from TMA at each overflow. TIMA is asked for between the instants at which
    `TimerLoop` is due. -/
theorem tima_at_time (palette : Ppu.Palette) (game : List U8) (b : Board)
    (hpaced : b.gb.timer.Paced) (k₁ k : Simulation Process Board)
    (hpast : Runs palette game b.start k₁) (hrun : RunsWith Act.SparesTimer palette game k₁ k)
    (htac : (k₁.state.gb.timer.regTac &&& Timer.kMaskTimerEnabled) ≠ 0)
    (hbetween : ∀ m, k.now ≠ k₁.due .timerLoop + m * k₁.state.gb.timer.incTime) :
    let tima := k₁.state.gb.timer.regTima.toNat
    let tma := k₁.state.gb.timer.regTma.toNat
    let n := timaIncrements (k₁.due .timerLoop) k₁.state.gb.timer.incTime k.now
    k.state.gb.timer.regTima.toNat =
      if n < 256 - tima then tima + n else tma + (n - (256 - tima)) % (256 - tma) := by
  have hlate : k₁.now ≤ k₁.due .timerLoop :=
    hpast.notLate (fun _ => Nat.zero_le _) .timerLoop
  have hpaced₁ : k₁.state.gb.timer.Paced :=
    hpast.invariant (I := fun b => b.gb.timer.Paced) (fun _ _ _ hb h => resume_paced hb h)
      (fun _ _ _ hb h => act_paced hb h) hpaced
  have hwaits₁ : WaitsAt .timerLoop
      (timerSince k₁.now (k₁.due .timerLoop) k₁.state.gb.timer.incTime)
      (timerWait k₁.now (k₁.due .timerLoop) k₁.state.gb.timer.incTime)
      (TimaCounts k₁.state.gb.timer) 0 k₁ :=
    ⟨⟨rfl, rfl, rfl, rfl⟩, (Nat.add_sub_cancel' hlate).symm, Nat.le_refl _, hlate⟩
  obtain ⟨n, hwaits⟩ := (timerLoop_course palette game htac hlate).reaches hrun hwaits₁
  have hn := timerLoop_rounds hlate hpaced₁.pos hwaits hbetween
  have htima := hwaits.holds.tima
  rw [hn] at htima
  dsimp only
  rw [htima]
  have hv := k₁.state.gb.timer.regTima.isLt
  have hm := k₁.state.gb.timer.regTma.isLt
  split_ifs with hlt
  · exact Reload.iterate_of_lt (by omega)
  · exact Reload.iterate_of_le hv hm (by omega)

/-- Power-on where the members of the timer happen to hold 254, the modulo 253 and 16 cycles. -/
def timerAt254 : Board :=
  init .blank { ongoingTransmission := false, regSc := 0 }
    { regDiv := 0, regTac := 0b101, regTima := 254, regTma := 253, cyclesPerInc := 16,
      incTime := 3808 } 0 .dummy .other

/-- Three increments, with a reload at the second one. -/
theorem timerAt254_reloads : ∃ k : Simulation Process Board,
    RunsWith Act.SparesTimer (fun _ => ⟨0, 0, 0⟩) [] timerAt254.start k ∧ k.now = 12000 ∧
      k.state.gb.timer.regTima.toNat = 254 := by
  let events : List (EventKernel.Event Process { a : Act // a.SparesTimer }) :=
    [.instant [.inputLoop, .audioLoop], .elapse 1, .instant [.renderLoop], .elapse 3807,
      .instant [.timerLoop], .elapse 3808, .instant [.timerLoop], .elapse 3808,
      .instant [.timerLoop], .elapse 576]
  have hplay : (timerAt254.start.play (threads fun _ => ⟨0, 0, 0⟩)
      (fun a => act [] a.1) events).map (·.now) = .ok 12000 := by
    decide +kernel
  have hlawful : Simulation.Lawful (threads fun _ => ⟨0, 0, 0⟩) (fun a => act [] a.1) events
      timerAt254.start := by
    decide +kernel
  obtain ⟨k, hplay, hnow⟩ := StateExcept.map_eq_ok hplay
  have hrun := EventKernel.reaches_of_play hlawful hplay
  have hdue : timerAt254.start.due .timerLoop = 3808 := rfl
  have htima := tima_at_time (fun _ => ⟨0, 0, 0⟩) [] timerAt254 (by decide) timerAt254.start k .refl
    hrun (by decide) (by
      intro m
      rw [hnow, hdue, show timerAt254.start.state.gb.timer.incTime = 3808 from rfl]
      omega)
  refine ⟨k, hrun, hnow, ?_⟩
  rw [hnow] at htima
  exact htima

end Board

end TlmBoy
