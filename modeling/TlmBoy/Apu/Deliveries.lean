import TlmBoy.Apu.Channels
import TlmBoy.Apu.Power

/-
  Which methods a delivery finds notified, in terms of what the guest wrote since the last one.

  A signal that each write toggles is pending exactly when it has been written. The signals of the
  wave's and of the noise's length are always written as `true`, so they are pending only before
  their first delivery. `Tracks` is the invariant, and `Tracks.step` carries it over every event
  of a run during which the APU is on.
-/

namespace TlmBoy

namespace IoSignal

/-- The register whose writes write the signal. -/
def home : IoSignal → Fin 0x80
  | .unmapRom => 0x40
  | .reloadLengthSquare1 => 0x00
  | .reloadLengthSquare2 => 0x06
  | .reloadLengthWave => 0x0B
  | .reloadLengthNoise => 0x10
  | .triggerSquare1 => 0x04
  | .triggerSquare2 => 0x09
  | .triggerNoise => 0x13

/-- A write of `v` to that register does write the signal. -/
def firedBy (sig : IoSignal) (v : U8) : Bool :=
  match sig with
  | .unmapRom => v = 1
  | .triggerSquare1 | .triggerSquare2 | .triggerNoise => (v &&& 0b10000000) != 0
  | _ => true

/-- The signal is only ever written as `true`. -/
def isSetOnly : IoSignal → Bool
  | .unmapRom | .reloadLengthWave | .reloadLengthNoise => true
  | _ => false

/-- The value that is written to the signal. -/
def newValue (sig : IoSignal) (s : ScSignal) : Bool := if sig.isSetOnly then true else !s.value

end IoSignal

namespace IoRegisters

theorem signalled_home (io : IoRegisters) (sig : IoSignal) (v : U8) :
    io.signalled sig.home v =
      if sig.firedBy v then some (sig, sig.newValue (io.signals sig)) else none := by
  cases sig with
  | unmapRom => exact if_congr decide_eq_true_iff.symm rfl rfl
  | _ => rfl

theorem home_of_signalled {io : IoRegisters} {sig : IoSignal} {i : Fin 0x80} {v : U8} {b : Bool}
    (h : io.signalled i v = some (sig, b)) : i = sig.home := by
  have htrigger : ∀ sig', io.triggered sig' v = some (sig, b) → sig' = sig := by
    intro sig' h
    unfold triggered at h
    split_ifs at h
    cases h
    rfl
  unfold signalled at h
  split at h
  case h_2 hi | h_4 hi | h_7 hi =>
    obtain rfl := htrigger _ h
    exact Fin.ext hi
  case h_8 hi =>
    split_ifs at h
    cases h
    exact Fin.ext hi
  case h_9 => cases h
  all_goals
    cases h
    exact Fin.ext ‹_›

/-- What a write does to one signal. -/
theorem withSignal_signalled (io : IoRegisters) (i : Fin 0x80) (v : U8) (sig : IoSignal) :
    io.withSignal (io.signalled i v) sig =
      if i = sig.home ∧ sig.firedBy v = true then
        (io.signals sig).write (sig.newValue (io.signals sig))
      else io.signals sig := by
  by_cases hi : i = sig.home
  · subst hi
    rw [signalled_home]
    by_cases hv : sig.firedBy v = true
    · rw [if_pos hv, if_pos ⟨rfl, hv⟩]
      exact Function.update_self ..
    · rw [if_neg hv, if_neg fun h => hv h.2]
      rfl
  · rw [if_neg fun h => hi h.1]
    cases hsig : io.signalled i v with
    | none => rfl
    | some r =>
      obtain ⟨sig', b⟩ := r
      have hne : sig ≠ sig' := fun h => hi (h ▸ home_of_signalled hsig)
      exact Function.update_of_ne hne ..

/-- While the APU is on, a write that does not turn it off is carried out. -/
theorem not_ignores {io : IoRegisters} (hon : ¬ io.Off) {i : Fin 0x80} {v : U8}
    (hoff : ¬ (i = 0x16 ∧ v &&& 0b10000000 = 0)) :
    io.afterPowerOff i v = io ∧ ¬ io.Ignores i :=
  ⟨if_neg fun h => hoff ⟨Fin.ext h.1, h.2⟩, fun h => hon h.2.2⟩

theorem written_signals_of_on {io : IoRegisters} (hon : ¬ io.Off) {i : Fin 0x80} {v : U8}
    (hoff : ¬ (i = 0x16 ∧ v &&& 0b10000000 = 0)) (sig : IoSignal) :
    (io.written i v).signals sig =
      if i = sig.home ∧ sig.firedBy v = true then
        (io.signals sig).write (sig.newValue (io.signals sig))
      else io.signals sig := by
  obtain ⟨hafter, hkept⟩ := not_ignores hon hoff
  have hsignals : (io.written i v).signals = io.withSignal (io.signalled i v) := by
    show io.writtenSignals i v = _
    rw [writtenSignals, hafter, if_neg hkept]
  rw [hsignals, withSignal_signalled]

theorem written_data_of_on {io : IoRegisters} (hon : ¬ io.Off) {i : Fin 0x80} {v : U8}
    (hoff : ¬ (i = 0x16 ∧ v &&& 0b10000000 = 0)) : (io.written i v).data = io.storedData i v := by
  obtain ⟨hafter, hkept⟩ := not_ignores hon hoff
  show io.writtenData i v = _
  rw [writtenData, hafter, if_neg hkept]

end IoRegisters

namespace Sound

open Apu

/-! ## What was written since the last delivery -/

/-- The value of the guest's last write to register `i` with `ok` since the last delivery. -/
def lastWrite (i : Fin 0x80) (ok : U8 → Bool) : List Event → Option U8 :=
  History.latest (fun e => match e with
    | .deliver _ => some none
    | .access t =>
      if t.command = .write ∧ t.address = 0xFF10 + BitVec.ofNat 16 i.val ∧ ok t.data = true then
        some (some t.data)
      else none
    | _ => none) none

theorem lastWrite_deliver (i : Fin 0x80) (ok : U8 → Bool) (es : List Event) (ports : List Port) :
    lastWrite i ok (es ++ [.deliver ports]) = none := by
  rw [lastWrite, History.latest_concat]
  rfl

theorem lastWrite_access (i : Fin 0x80) (ok : U8 → Bool) (es : List Event) (t : Payload) :
    lastWrite i ok (es ++ [.access t]) =
      if t.command = .write ∧ t.address = 0xFF10 + BitVec.ofNat 16 i.val ∧ ok t.data = true then
        some t.data
      else lastWrite i ok es := by
  rw [lastWrite, History.latest_concat]
  dsimp only
  split_ifs <;> rfl

/-- The other events write for no guest. -/
theorem lastWrite_other (i : Fin 0x80) (ok : U8 → Bool) (es : List Event) {e : Event}
    (haccess : ∀ t, e ≠ .access t) (hdeliver : ∀ ports, e ≠ .deliver ports) :
    lastWrite i ok (es ++ [e]) = lastWrite i ok es := by
  rw [lastWrite, History.latest_concat]
  cases e with
  | access t => exact absurd rfl (haccess t)
  | deliver ports => exact absurd rfl (hdeliver ports)
  | _ => rfl

/-! ## Pending signals -/

/-- The signal will change in the next delta cycle. -/
def Pending (io : IoRegisters) (sig : IoSignal) : Prop :=
  (io.signals sig).next ≠ (io.signals sig).value

instance (io : IoRegisters) (sig : IoSignal) : Decidable (Pending io sig) := by
  unfold Pending
  infer_instance

/-- The written value of the signal, by whether it has been written since the last delivery. -/
def SignalTracks (s : ScSignal) (sig : IoSignal) (isWritten : Bool) : Prop :=
  s.next = if isWritten then sig.newValue s else s.value

/-- The last write to a length register is still there. -/
def LengthTracks (es : List Event) (io : IoRegisters) : Prop :=
  ∀ (c : ChannelName) (v : U8), lastWrite c.lengthReg (fun _ => true) es = some v →
    io.data c.lengthReg = v

structure Tracks (es : List Event) (s : Sound) : Prop where
  on : ¬ s.io.Off
  signals : ∀ sig : IoSignal, SignalTracks (s.io.signals sig) sig
    (lastWrite sig.home sig.firedBy es).isSome
  lengths : LengthTracks es s.io

theorem Tracks.process {es : List Event} {e : Event} {s s' : Sound} (h : Tracks es s)
    (hwrites : ProcessWrites s.io s'.io) (haccess : ∀ t, e ≠ .access t)
    (hdeliver : ∀ ports, e ≠ .deliver ports) : Tracks (es ++ [e]) s' := by
  constructor
  · intro hoff
    exact h.on (hwrites.power.symm.trans hoff)
  · intro sig
    rw [lastWrite_other _ _ _ haccess hdeliver, hwrites.signals]
    exact h.signals sig
  · intro c v hv
    rw [lastWrite_other _ _ _ haccess hdeliver] at hv
    rw [hwrites.data _ (by cases c <;> decide) (by cases c <;> decide) (by cases c <;> decide)]
    exact h.lengths c v hv

theorem ioAddress_toNat (i : Fin 0x80) :
    (0xFF10 + BitVec.ofNat 16 i.val : U16).toNat = 0xFF10 + i.val := by
  have hi := i.isLt
  bv_omega

theorem ioAddress_inj {i k : Fin 0x80} :
    (0xFF10 + BitVec.ofNat 16 i.val : U16) = 0xFF10 + BitVec.ofNat 16 k.val ↔ i = k := by
  constructor
  · intro h
    have hnat := congrArg BitVec.toNat h
    rw [ioAddress_toNat, ioAddress_toNat] at hnat
    exact Fin.ext (by omega)
  · rintro rfl
    rfl

/-- An access that is no write to the I/O registers. Those from 0x70 on have no address on the
    bus. -/
theorem lastWrite_elsewhere {i : Fin 0x80} (hi : i.val < 0x70) (ok : U8 → Bool) (es : List Event)
    {t : Payload} (ht : ¬ (t.command = .write ∧ 0xFF10 ≤ t.address ∧ t.address ≤ 0xFF7F)) :
    lastWrite i ok (es ++ [.access t]) = lastWrite i ok es := by
  rw [lastWrite_access, if_neg]
  rintro ⟨hcmd, hadr, -⟩
  have hnat := ioAddress_toNat i
  rw [← hadr] at hnat
  exact ht ⟨hcmd, by bv_omega, by bv_omega⟩

theorem Tracks.access {game : List U8} {es : List Event} {t : Payload} {s s' : Sound}
    (h : Tracks es s) (hoff : ¬ PowersOff (.access t)) (hstep : step game s (.access t) = .ok s') :
    Tracks (es ++ [.access t]) s' := by
  obtain ⟨-, ⟨ht, hio⟩ | ⟨i, hcmd, hadr, hio⟩⟩ := step_access hstep
  · constructor
    · rw [hio]
      exact h.on
    · intro sig
      have hhome : sig.home.val < 0x70 := by cases sig <;> decide
      rw [lastWrite_elsewhere hhome _ _ ht, hio]
      exact h.signals sig
    · intro c v hv
      have hreg : c.lengthReg.val < 0x70 := by cases c <;> decide
      rw [lastWrite_elsewhere hreg _ _ ht] at hv
      rw [hio]
      exact h.lengths c v hv
  · have hkeep : ¬ (i = 0x16 ∧ t.data &&& 0b10000000 = 0) := by
      rintro ⟨rfl, hv⟩
      exact hoff ⟨hcmd, hadr, hv⟩
    have haccess : ∀ (k : Fin 0x80) (ok : U8 → Bool), lastWrite k ok (es ++ [.access t]) =
        if i = k ∧ ok t.data = true then some t.data else lastWrite k ok es := by
      intro k ok
      rw [lastWrite_access]
      refine if_congr ?_ rfl rfl
      rw [hadr, ioAddress_inj]
      exact and_iff_right hcmd
    constructor
    · rw [hio, IoRegisters.Off, IoRegisters.written_nr52]
      split_ifs with hi
      · intro hzero
        rw [BitVec.and_assoc, BitVec.and_self] at hzero
        exact hkeep ⟨hi, hzero⟩
      · exact h.on
    · intro sig
      have hsig := h.signals sig
      rw [haccess, hio, IoRegisters.written_signals_of_on h.on hkeep]
      split_ifs
      · rfl
      · exact hsig
    · intro c v hv
      rw [haccess] at hv
      rw [hio, IoRegisters.written_data_of_on h.on hkeep]
      split_ifs at hv with hi
      · cases hv
        rw [IoRegisters.storedData, hi.1]
        have hstored : s.io.stored c.lengthReg t.data = some t.data := by cases c <;> rfl
        rw [hstored]
        exact Function.update_self ..
      · rw [IoRegisters.storedData_of_ne fun h => hi ⟨h.symm, rfl⟩]
        exact h.lengths c v hv

theorem Tracks.deliver {game : List U8} {es : List Event} {ports : List Port} {s s' : Sound}
    (h : Tracks es s) (hstep : step game s (.deliver ports) = .ok s') :
    Tracks (es ++ [.deliver ports]) s' := by
  have hwrites := step_deliver_writes hstep
  constructor
  · intro hoff
    exact h.on (hwrites.power.symm.trans hoff)
  · intro sig
    rw [lastWrite_deliver, hwrites.signals]
    rfl
  · intro c v hv
    rw [lastWrite_deliver] at hv
    cases hv

theorem Tracks.step {game : List U8} {es : List Event} {e : Event} {s s' : Sound}
    (h : Tracks es s) (hoff : ¬ PowersOff e) (hstep : step game s e = .ok s') :
    Tracks (es ++ [e]) s' := by
  rcases step_process hstep with ⟨t, rfl⟩ | ⟨ports, rfl⟩ | ⟨haccess, hdeliver, hwrites⟩
  · exact h.access hoff hstep
  · exact h.deliver hstep
  · exact h.process hwrites haccess hdeliver

theorem notified_iff {s : Sound} {p : Port} {sig : IoSignal} (hsig : p.signal = some sig) :
    s.Notified p ↔ Pending s.io sig := by
  unfold Notified
  rw [hsig]
  constructor
  · rintro ⟨sig', hmem, hpending⟩
    cases hmem
    exact hpending
  · intro hpending
    exact ⟨sig, rfl, hpending⟩

instance (s : Sound) (p : Port) : Decidable (s.Notified p) := by
  unfold Notified
  infer_instance

/-! ## Runs while the APU is on -/

/-- The run starts with the APU on and no signal pending, it does not turn the APU off, and the
    kernel keeps to its rule. -/
structure PlaysOn (game : List U8) (s : Sound) (es : List Event) : Prop where
  on : ¬ s.io.Off
  settled : ∀ sig, ¬ Pending s.io sig
  staysOn : ∀ e ∈ es, ¬ PowersOff e
  kernel : KernelRule game s es

theorem PlaysOn.tracks {game : List U8} {s s' : Sound} {es : List Event} (h : PlaysOn game s es)
    {pre suf : List Event} (hes : es = pre ++ suf)
    (hrun : pre.foldlM (Sound.step game) s = .ok s') : Tracks pre s' := by
  have hinit : Tracks [] s := by
    refine ⟨h.on, fun sig => not_not.mp (h.settled sig), fun c v hv => ?_⟩
    cases hv
  have hstep : ∀ (ls : List Event) (m : Sound) (e : Event) (m' : Sound),
      ((∀ g ∈ ls, ¬ PowersOff g) → Tracks ls m) → Sound.step game m e = .ok m' →
        (∀ g ∈ ls ++ [e], ¬ PowersOff g) → Tracks (ls ++ [e]) m' := by
    intro ls m e m' hm hstep hls
    have hlast := hls e (List.mem_append_right _ (List.mem_singleton_self e))
    exact (hm fun g hg => hls g (List.mem_append_left _ hg)).step hlast hstep
  refine History.run_induction (fun ls m => (∀ g ∈ ls, ¬ PowersOff g) → Tracks ls m)
    (fun _ => hinit) hstep hrun ?_
  intro g hg
  exact h.staysOn g (hes ▸ List.mem_append_left _ hg)

/-- What holds at every delivery of a run, given the events before it and the states around it. -/
def AtDeliveries (game : List U8) (s : Sound) (es : List Event)
    (P : List Event → List Port → Sound → Sound → Prop) : Prop :=
  ∀ pre ports suf m m', es = pre ++ .deliver ports :: suf → pre.foldlM (step game) s = .ok m →
    step game m (.deliver ports) = .ok m' → P pre ports m m'

/-- Two properties of deliveries that agree at each one agree over a run. -/
theorem PlaysOn.atDeliveries_iff {game : List U8} {s : Sound} {es : List Event}
    (h : PlaysOn game s es) {P Q : List Event → List Port → Sound → Sound → Prop}
    (hiff : ∀ pre ports m m', Tracks pre m → (∀ p, p ∈ ports ↔ m.Notified p) →
      Sound.step game m (.deliver ports) = .ok m' → (P pre ports m m' ↔ Q pre ports m m')) :
    AtDeliveries game s es P ↔ AtDeliveries game s es Q := by
  have hat : ∀ pre ports suf m m', es = pre ++ .deliver ports :: suf →
      pre.foldlM (Sound.step game) s = .ok m → Sound.step game m (.deliver ports) = .ok m' →
        (P pre ports m m' ↔ Q pre ports m m') := by
    intro pre ports suf m m' hes hm hstep
    exact hiff pre ports m m' (h.tracks hes hm) (h.kernel pre ports suf m hes hm) hstep
  constructor
  · intro hP pre ports suf m m' hes hm hstep
    exact (hat pre ports suf m m' hes hm hstep).mp (hP pre ports suf m m' hes hm hstep)
  · intro hQ pre ports suf m m' hes hm hstep
    exact (hat pre ports suf m m' hes hm hstep).mpr (hQ pre ports suf m m' hes hm hstep)

/-- A signal is pending if it has been written since the last delivery, and one that is only ever
    set has not been delivered before. -/
theorem Tracks.pending_iff {es : List Event} {s : Sound} (h : Tracks es s) (sig : IoSignal) :
    Pending s.io sig ↔ (lastWrite sig.home sig.firedBy es).isSome = true ∧
      (sig.isSetOnly = true → (s.io.signals sig).value = false) := by
  have hsig := h.signals sig
  unfold SignalTracks IoSignal.newValue at hsig
  unfold Pending
  rw [hsig]
  cases (lastWrite sig.home sig.firedBy es).isSome <;> cases sig.isSetOnly <;>
    cases (s.io.signals sig).value <;> decide

/-! ## What a delivery does to a channel -/

variable (c : ChannelName)

theorem method_length (p : Port) (io : IoRegisters) (apu : Apu) :
    ((p.method io apu).1.channel c).lengthLoad =
      if p = .reloadLength c ∨ (p = .trigger c ∧ (apu.channel c).lengthLoad = 0) then
        c.loadedLength (io.data c.lengthReg)
      else (apu.channel c).lengthLoad := by
  cases p with
  | reloadLength c' =>
    rw [reload_channel]
    by_cases hc : c = c'
    · subst hc
      rw [if_pos rfl, if_pos (Or.inl rfl)]
    · rw [if_neg hc, if_neg]
      simp [Ne.symm hc]
  | trigger c' =>
    rw [trigger_channel]
    by_cases hc : c = c'
    · subst hc
      rw [if_pos rfl]
      exact if_congr (by simp) rfl rfl
    · rw [if_neg hc, if_neg]
      simp [Ne.symm hc]

theorem method_data (p : Port) (io : IoRegisters) (apu : Apu) {k : Fin 0x80} (h3 : k ≠ 0x03)
    (h4 : k ≠ 0x04) (h16 : k ≠ 0x16) : (p.method io apu).2.data k = io.data k :=
  (p.method_writes io apu).data k h3 h4 h16

/-- The length after a delivery, whatever the order of its methods. -/
theorem runMethods_length (ports : List Port) (io : IoRegisters) (apu : Apu) :
    ((runMethods ports io apu).1.channel c).lengthLoad =
      if .reloadLength c ∈ ports ∨ (.trigger c ∈ ports ∧ (apu.channel c).lengthLoad = 0) then
        c.loadedLength (io.data c.lengthReg)
      else (apu.channel c).lengthLoad := by
  induction ports generalizing io apu with
  | nil => exact (if_neg (by simp)).symm
  | cons p ports ih =>
    have hreg : (p.method io apu).2.data c.lengthReg = io.data c.lengthReg :=
      method_data p io apu (by cases c <;> decide) (by cases c <;> decide) (by cases c <;> decide)
    have hrun := ih (p.method io apu).2 (p.method io apu).1
    rw [hreg, method_length] at hrun
    refine hrun.trans ?_
    by_cases hfirst : p = .reloadLength c ∨ (p = .trigger c ∧ (apu.channel c).lengthLoad = 0)
    · have hmem : .reloadLength c ∈ p :: ports ∨
          (.trigger c ∈ p :: ports ∧ (apu.channel c).lengthLoad = 0) := by
        rcases hfirst with rfl | ⟨rfl, hzero⟩
        · exact Or.inl List.mem_cons_self
        · exact Or.inr ⟨List.mem_cons_self, hzero⟩
      rw [if_pos hfirst, if_pos hmem]
      split_ifs <;> rfl
    · rw [if_neg hfirst]
      refine if_congr ?_ rfl rfl
      rw [not_or, not_and] at hfirst
      simp only [List.mem_cons]
      constructor
      · rintro (h | ⟨h, hzero⟩)
        · exact Or.inl (Or.inr h)
        · exact Or.inr ⟨Or.inr h, hzero⟩
      · rintro ((h | h) | ⟨h | h, hzero⟩)
        · exact absurd h.symm hfirst.1
        · exact Or.inl h
        · exact absurd hzero (hfirst.2 h.symm)
        · exact Or.inr ⟨h, hzero⟩

/-! ## A run of one access and one delivery -/

def notifiedPorts (s : Sound) : List Port :=
  [.reloadLength .square1, .reloadLength .square2, .reloadLength .wave, .reloadLength .noise,
    .trigger .square1, .trigger .square2, .trigger .wave, .trigger .noise].filter
      fun p => decide (s.Notified p)

theorem mem_notifiedPorts {s : Sound} {p : Port} : p ∈ notifiedPorts s ↔ s.Notified p := by
  rw [notifiedPorts, List.mem_filter, decide_eq_true_iff, and_iff_right]
  cases p with
  | reloadLength c => cases c <;> decide
  | trigger c => cases c <;> decide

/-- The only delivery of such a run. -/
theorem eq_of_pair {t : Payload} {ports ports' : List Port} {pre suf : List Event}
    (h : [.access t, .deliver ports] = pre ++ .deliver ports' :: suf) :
    pre = [.access t] ∧ ports' = ports := by
  match pre with
  | [] => cases h
  | [e] =>
    cases h
    exact ⟨rfl, rfl⟩
  | e :: f :: pre => simp at h

theorem playsOn_pair {game : List U8} {s : Sound} {t : Payload} {ports : List Port}
    (hon : ¬ s.io.Off) (hsettled : ∀ sig, ¬ Pending s.io sig) (hoff : ¬ PowersOff (.access t))
    (hports : (Sound.step game s (.access t)).map notifiedPorts = .ok ports) :
    PlaysOn game s [.access t, .deliver ports] := by
  refine ⟨hon, hsettled, fun e he => ?_, ?_⟩
  · rcases List.mem_pair.mp he with rfl | rfl
    · exact hoff
    · exact id
  · intro pre ports' suf m hes hm p
    obtain ⟨rfl, rfl⟩ := eq_of_pair hes
    rw [List.foldlM_cons] at hm
    obtain ⟨m', hstep, hlast⟩ := StateExcept.except_bind_eq_ok hm
    cases hlast
    rw [hstep] at hports
    cases hports
    exact mem_notifiedPorts

/-- Power-on, with bit 7 of NR52 set. -/
def switchedOn : Sound where
  gb := { Gb.powerOn .blank with ioRegisters := (Gb.powerOn .blank).ioRegisters.poke 0x16 0x80 }

theorem switchedOn_on : ¬ switchedOn.io.Off := by decide

theorem switchedOn_settled (sig : IoSignal) : ¬ Pending switchedOn.io sig := fun h => h rfl

end Sound

end TlmBoy
