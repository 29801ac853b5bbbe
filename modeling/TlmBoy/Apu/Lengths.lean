import TlmBoy.Apu.Deliveries

/-
  Which writes reload a length counter.

  `Reloads` is what the register comments promise: a delivery loads a channel's counter from its
  length register if the guest has written that register, and otherwise leaves it to the channel's
  trigger. Square 2 keeps the promise. The signal of square 1 is toggled by NR10 in place of NR11,
  and those of the wave and the noise channel are set once and for all, so that they change at
  their first delivery only. `reloads_iff` says when that does not show.
-/

namespace TlmBoy.Sound

open Apu

/-- The guest's last write to the channel's length register since the last delivery. -/
def lastLength (c : ChannelName) (es : List Event) : Option U8 :=
  lastWrite c.lengthReg (fun _ => true) es

/-- The channel's length after a delivery in which no reload method runs. -/
def triggeredLength (c : ChannelName) (ports : List Port) (s : Sound) : U32 :=
  if .trigger c ∈ ports ∧ (s.apu.channel c).lengthLoad = 0 then
    c.loadedLength (s.io.data c.lengthReg)
  else (s.apu.channel c).lengthLoad

/-- A delivery loads the counter if the length register has been written, and only then. -/
structure Reloads (c : ChannelName) (es : List Event) (ports : List Port) (s s' : Sound) :
    Prop where
  written : ∀ v, lastLength c es = some v → (s'.apu.channel c).lengthLoad = c.loadedLength v
  unwritten : lastLength c es = none → (s'.apu.channel c).lengthLoad = triggeredLength c ports s

/-- Square 1: NR10 and NR11 have both been written since the last delivery, or neither has. Wave
    and noise: the length register has not been written, or its signal is still `false`. -/
def InStep (c : ChannelName) (es : List Event) (s : Sound) : Prop :=
  match c with
  | .square1 => (lastWrite 0x00 (fun _ => true) es).isSome = (lastLength .square1 es).isSome
  | .square2 => True
  | .wave => (lastLength .wave es).isSome = true → (s.io.signals .reloadLengthWave).value = false
  | .noise => (lastLength .noise es).isSome = true → (s.io.signals .reloadLengthNoise).value = false

/-- The counter holds the length register's value without a reload. -/
def Loaded (c : ChannelName) (ports : List Port) (s : Sound) : Prop :=
  triggeredLength c ports s = c.loadedLength (s.io.data c.lengthReg)

theorem Tracks.inStep_iff {es : List Event} {s : Sound} (h : Tracks es s) (c : ChannelName) :
    InStep c es s ↔ ((lastLength c es).isSome = true ↔ s.Notified (.reloadLength c)) := by
  cases c with
  | square1 =>
    rw [notified_iff rfl, h.pending_iff]
    have htoggled : IoSignal.isSetOnly .reloadLengthSquare1 = true →
        (s.io.signals .reloadLengthSquare1).value = false := nofun
    rw [and_iff_left htoggled]
    exact eq_comm.trans Bool.eq_iff_iff
  | square2 =>
    rw [notified_iff rfl, h.pending_iff]
    have htoggled : IoSignal.isSetOnly .reloadLengthSquare2 = true →
        (s.io.signals .reloadLengthSquare2).value = false := nofun
    rw [and_iff_left htoggled]
    exact iff_of_true trivial Iff.rfl
  | wave =>
    rw [notified_iff rfl, h.pending_iff]
    constructor
    · intro hstep
      exact ⟨fun hw => ⟨hw, fun _ => hstep hw⟩, fun hn => hn.1⟩
    · intro hiff hw
      exact (hiff.mp hw).2 rfl
  | noise =>
    rw [notified_iff rfl, h.pending_iff]
    constructor
    · intro hstep
      exact ⟨fun hw => ⟨hw, fun _ => hstep hw⟩, fun hn => hn.1⟩
    · intro hiff hw
      exact (hiff.mp hw).2 rfl

theorem step_deliver_length {game : List U8} {s s' : Sound} {ports : List Port}
    (hstep : step game s (.deliver ports) = .ok s') (c : ChannelName) :
    (s'.apu.channel c).lengthLoad = if .reloadLength c ∈ ports then
      c.loadedLength (s.io.data c.lengthReg) else triggeredLength c ports s := by
  have happu : s'.apu = _ := congrArg Prod.fst (step_deliver hstep)
  rw [happu, runMethods_length]
  unfold triggeredLength
  by_cases hreload : .reloadLength c ∈ ports
  · rw [if_pos hreload, if_pos (Or.inl hreload)]
  · rw [if_neg hreload]
    exact if_congr (or_iff_right hreload) rfl rfl

theorem reloads_at {game : List U8} {es : List Event} {ports : List Port} {s s' : Sound}
    (h : Tracks es s) (hports : ∀ p, p ∈ ports ↔ s.Notified p)
    (hstep : step game s (.deliver ports) = .ok s') (c : ChannelName) :
    Reloads c es ports s s' ↔ InStep c es s ∨ Loaded c ports s := by
  have hlength := step_deliver_length hstep c
  rw [h.inStep_iff, ← hports]
  constructor
  · rintro ⟨hwritten, hunwritten⟩
    by_cases hreload : .reloadLength c ∈ ports
    · rw [if_pos hreload] at hlength
      cases hlast : lastLength c es with
      | some v => exact Or.inl (iff_of_true rfl hreload)
      | none => exact Or.inr ((hunwritten hlast).symm.trans hlength)
    · rw [if_neg hreload] at hlength
      cases hlast : lastLength c es with
      | some v =>
        have hloaded := hwritten v hlast
        rw [← h.lengths c v hlast] at hloaded
        exact Or.inr (hlength.symm.trans hloaded)
      | none => exact Or.inl (iff_of_false Bool.false_ne_true hreload)
  · intro hor
    have heq : ¬ ((lastLength c es).isSome = true ↔ .reloadLength c ∈ ports) →
        triggeredLength c ports s = c.loadedLength (s.io.data c.lengthReg) :=
      fun hout => hor.resolve_left hout
    constructor
    · intro v hv
      rw [hlength, ← h.lengths c v hv]
      split_ifs with hreload
      · rfl
      · refine heq fun hin => hreload (hin.mp ?_)
        rw [hv]
        rfl
    · intro hnone
      rw [hlength]
      split_ifs with hreload
      · refine (heq fun hin => ?_).symm
        have hsome := hin.mpr hreload
        rw [hnone] at hsome
        cases hsome
      · rfl

/-- Over a run the length counters are loaded by their registers' writes and by no others, if and
    only if at each delivery every channel is in step or has its length loaded already. -/
theorem reloads_iff (game : List U8) (s : Sound) (es : List Event) (h : PlaysOn game s es) :
    AtDeliveries game s es (fun pre ports m m' => ∀ c, Reloads c pre ports m m') ↔
      AtDeliveries game s es fun pre ports m _ => ∀ c, InStep c pre m ∨ Loaded c ports m :=
  h.atDeliveries_iff fun _ _ _ _ htracks hports hstep =>
    forall_congr' fun c => reloads_at htracks hports hstep c

/-- A write to NR21 loads square 2. -/
theorem nr21_reloads : AtDeliveries [] switchedOn
    [guestWrite 0xFF16 0x3F, .deliver [.reloadLength .square2]]
    fun pre ports m m' => ∀ c, Reloads c pre ports m m' := by
  have hplays : PlaysOn [] switchedOn [guestWrite 0xFF16 0x3F, .deliver [.reloadLength .square2]] :=
    playsOn_pair switchedOn_on switchedOn_settled (fun h => absurd h.2.1 (by decide))
      (by decide +kernel)
  refine (reloads_iff [] switchedOn _ hplays).mpr ?_
  intro pre ports suf m m' hes hm _ c
  obtain ⟨rfl, rfl⟩ := eq_of_pair hes
  refine Or.inl ?_
  cases c with
  | square2 => exact trivial
  | square1 => rfl
  | wave => exact nofun
  | noise => exact nofun

/-- A write to NR11 notifies nobody, and square 1 keeps its length. -/
theorem nr11_ignored : PlaysOn [] switchedOn [guestWrite 0xFF11 0x3F, .deliver []] ∧
    ¬ AtDeliveries [] switchedOn [guestWrite 0xFF11 0x3F, .deliver []]
      fun pre ports m m' => ∀ c, Reloads c pre ports m m' := by
  constructor
  · exact playsOn_pair switchedOn_on switchedOn_settled (fun h => absurd h.2.1 (by decide))
      (by decide +kernel)
  · intro h
    have hfirst : ([guestWrite 0xFF11 0x3F].foldlM (step []) switchedOn).map
        (fun s => (s.apu.channel .square1).lengthLoad) = .ok 0 := by
      decide +kernel
    have hrun : ([guestWrite 0xFF11 0x3F, .deliver []].foldlM (step []) switchedOn).map
        (fun s => (s.apu.channel .square1).lengthLoad) = .ok 0 := by
      decide +kernel
    obtain ⟨m, hm, -⟩ := StateExcept.map_eq_ok hfirst
    obtain ⟨m', hm', hzero⟩ := StateExcept.map_eq_ok hrun
    have hlast : step [] m (.deliver []) = .ok m' := by
      have happend := History.run_concat (step []) switchedOn [guestWrite 0xFF11 0x3F] (.deliver [])
      rw [hm] at happend
      exact happend.symm.trans hm'
    have hreload := h [guestWrite 0xFF11 0x3F] [] [] m m' rfl hm hlast .square1
    exact absurd (hzero.symm.trans (hreload.written 0x3F rfl)) (by decide)

end TlmBoy.Sound
