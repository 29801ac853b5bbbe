import TlmBoy.Apu.Active
import TlmBoy.Apu.Deliveries

/-
  Which writes deliver a trigger event.

  `Triggers` is the rule of the control registers: a write with bit 7 set triggers the channel at
  the next delivery, and nothing else does. The write switch of `IoRegisters` has no case for
  NR34 and `sig_trigger_wave_out` is never written, so the wave channel is never triggered.
  `triggers_iff` says that this is all that goes wrong.
-/

namespace TlmBoy.Sound

open Apu

/-- The trigger bit of a control register. -/
def hasTrigger (v : U8) : Bool := (v &&& 0b10000000) != 0

/-- What a trigger event does: the length is reloaded if it was 0, the volume is reloaded, and the
    status bit is set if the DAC's bits allow it. -/
structure Triggered (c : ChannelName) (s s' : Sound) : Prop where
  length : (s.apu.channel c).lengthLoad = 0 →
    (s'.apu.channel c).lengthLoad = c.loadedLength (s.io.data c.lengthReg)
  volume : (s'.apu.channel c).volume = c.loadedVolume (s.io.data c.volumeReg)
  status : c.dacOn (s.io.data c.volumeReg) → s'.io.regNr52 &&& c.statusMask = c.statusMask

/-- The volume and the status bit are as before. -/
structure Untriggered (c : ChannelName) (s s' : Sound) : Prop where
  volume : (s'.apu.channel c).volume = (s.apu.channel c).volume
  status : s'.io.regNr52 &&& c.statusMask = s.io.regNr52 &&& c.statusMask

/-- A delivery triggers the channel if its control register has been written with bit 7 set since
    the last one, and only then. -/
structure Triggers (c : ChannelName) (es : List Event) (ports : List Port) (s s' : Sound) :
    Prop where
  written : lastWrite c.controlReg hasTrigger es ≠ none →
    .trigger c ∈ ports ∧ Triggered c s s'
  unwritten : lastWrite c.controlReg hasTrigger es = none →
    .trigger c ∉ ports ∧ Untriggered c s s'

/-! ## The methods of a delivery -/

theorem runMethods_volume (ports : List Port) (c : ChannelName) (io : IoRegisters) (apu : Apu) :
    ((runMethods ports io apu).1.channel c).volume =
      if .trigger c ∈ ports then c.loadedVolume (io.data c.volumeReg)
      else (apu.channel c).volume := by
  induction ports generalizing io apu with
  | nil => rfl
  | cons p ports ih =>
    have hreg : (p.method io apu).2.data c.volumeReg = io.data c.volumeReg :=
      method_data p io apu (by cases c <;> decide) (by cases c <;> decide) (by cases c <;> decide)
    have hfirst : ((p.method io apu).1.channel c).volume =
        if p = .trigger c then c.loadedVolume (io.data c.volumeReg)
        else (apu.channel c).volume := by
      cases p with
      | reloadLength c' =>
        rw [reload_channel, if_neg (show Port.reloadLength c' ≠ .trigger c from nofun)]
        split_ifs with hc
        · rw [hc]
        · rfl
      | trigger c' =>
        rw [trigger_channel]
        by_cases hc : c = c'
        · rw [if_pos hc, if_pos (congrArg Port.trigger hc.symm), hc]
        · rw [if_neg hc, if_neg fun h => hc (Port.trigger.inj h).symm]
    have hrun := ih (p.method io apu).2 (p.method io apu).1
    rw [hreg, hfirst] at hrun
    refine hrun.trans ?_
    by_cases hp : p = .trigger c
    · rw [if_pos hp, ite_self, if_pos (hp ▸ List.mem_cons_self)]
    · rw [if_neg hp]
      exact if_congr (by simp [Ne.symm hp]) rfl rfl

theorem or_and_self_right (v mask : U8) : (v ||| mask) &&& mask = mask := by
  refine BitVec.eq_of_getLsbD_eq fun i _ => ?_
  rw [BitVec.getLsbD_and, BitVec.getLsbD_or]
  cases v.getLsbD i <;> cases mask.getLsbD i <;> rfl

/-- A method sets the status bit of its own channel at most. -/
theorem method_status (p : Port) (c : ChannelName) (io : IoRegisters) (apu : Apu) :
    (p.method io apu).2.regNr52 &&& c.statusMask =
      if p = .trigger c ∧ c.dacOn (io.data c.volumeReg) then c.statusMask
      else io.regNr52 &&& c.statusMask := by
  cases p with
  | reloadLength c' =>
    rw [reload_io, if_neg fun h => nomatch h.1]
  | trigger c' =>
    by_cases hc : c = c'
    · subst hc
      rw [trigger_io]
      by_cases hdac : c.dacOn (io.data c.volumeReg)
      · have hpoke : (io.poke 0x16 (io.regNr52 ||| c.statusMask)).regNr52 =
            io.regNr52 ||| c.statusMask := io.poke_self ..
        rw [if_pos hdac, if_pos ⟨rfl, hdac⟩, hpoke, or_and_self_right]
      · rw [if_neg hdac, if_neg fun h => hdac h.2]
    · rw [trigger_status c' io apu hc, if_neg fun h => hc (Port.trigger.inj h.1).symm]

theorem runMethods_status (ports : List Port) (c : ChannelName) (io : IoRegisters) (apu : Apu) :
    (runMethods ports io apu).2.regNr52 &&& c.statusMask =
      if .trigger c ∈ ports ∧ c.dacOn (io.data c.volumeReg) then c.statusMask
      else io.regNr52 &&& c.statusMask := by
  induction ports generalizing io apu with
  | nil => exact (if_neg fun h => nomatch h.1).symm
  | cons p ports ih =>
    have hreg : (p.method io apu).2.data c.volumeReg = io.data c.volumeReg :=
      method_data p io apu (by cases c <;> decide) (by cases c <;> decide) (by cases c <;> decide)
    have hrun := ih (p.method io apu).2 (p.method io apu).1
    rw [hreg, method_status] at hrun
    refine hrun.trans ?_
    by_cases hp : p = .trigger c ∧ c.dacOn (io.data c.volumeReg)
    · have hmem : .trigger c ∈ p :: ports ∧ c.dacOn (io.data c.volumeReg) :=
        ⟨hp.1 ▸ List.mem_cons_self, hp.2⟩
      rw [if_pos hp, ite_self, if_pos hmem]
    · rw [if_neg hp]
      refine if_congr ?_ rfl rfl
      rw [List.mem_cons]
      constructor
      · rintro ⟨hmem, hdac⟩
        exact ⟨Or.inr hmem, hdac⟩
      · rintro ⟨hmem | hmem, hdac⟩
        · exact absurd ⟨hmem.symm, hdac⟩ hp
        · exact ⟨hmem, hdac⟩

theorem triggered_of_mem {game : List U8} {s s' : Sound} {ports : List Port}
    (hstep : step game s (.deliver ports) = .ok s') {c : ChannelName}
    (hmem : .trigger c ∈ ports) : Triggered c s s' := by
  have happu : s'.apu = _ := congrArg Prod.fst (step_deliver hstep)
  have hio : s'.io = _ := congrArg Prod.snd (step_deliver hstep)
  constructor
  · intro hzero
    rw [happu, runMethods_length]
    exact if_pos (Or.inr ⟨hmem, hzero⟩)
  · rw [happu, runMethods_volume]
    exact if_pos hmem
  · intro hdac
    rw [hio, runMethods_status]
    exact if_pos ⟨hmem, hdac⟩

theorem untriggered_of_notMem {game : List U8} {s s' : Sound} {ports : List Port}
    (hstep : step game s (.deliver ports) = .ok s') {c : ChannelName}
    (hmem : .trigger c ∉ ports) : Untriggered c s s' := by
  have happu : s'.apu = _ := congrArg Prod.fst (step_deliver hstep)
  have hio : s'.io = _ := congrArg Prod.snd (step_deliver hstep)
  constructor
  · rw [happu, runMethods_volume]
    exact if_neg hmem
  · rw [hio, runMethods_status]
    exact if_neg fun h => hmem h.1

/-! ## Over a run -/

/-- The trigger signals are toggled, and the wave channel's is not written. -/
theorem Tracks.trigger_iff {es : List Event} {s : Sound} (h : Tracks es s) (c : ChannelName) :
    s.Notified (.trigger c) ↔ c ≠ .wave ∧ lastWrite c.controlReg hasTrigger es ≠ none := by
  have hsome : ∀ o : Option U8, o.isSome = true ↔ o ≠ none := fun o => by cases o <;> simp
  cases c with
  | wave =>
    refine iff_of_false ?_ fun h => h.1 rfl
    rintro ⟨sig, hsig, -⟩
    cases hsig
  | square1 =>
    rw [notified_iff rfl, h.pending_iff, ← hsome]
    exact ⟨fun hw => ⟨nofun, hw.1⟩, fun hw => ⟨hw.2, nofun⟩⟩
  | square2 =>
    rw [notified_iff rfl, h.pending_iff, ← hsome]
    exact ⟨fun hw => ⟨nofun, hw.1⟩, fun hw => ⟨hw.2, nofun⟩⟩
  | noise =>
    rw [notified_iff rfl, h.pending_iff, ← hsome]
    exact ⟨fun hw => ⟨nofun, hw.1⟩, fun hw => ⟨hw.2, nofun⟩⟩

theorem triggers_at {game : List U8} {es : List Event} {ports : List Port} {s s' : Sound}
    (h : Tracks es s) (hports : ∀ p, p ∈ ports ↔ s.Notified p)
    (hstep : step game s (.deliver ports) = .ok s') (c : ChannelName) :
    Triggers c es ports s s' ↔ (c = .wave → lastWrite c.controlReg hasTrigger es = none) := by
  have hmem : .trigger c ∈ ports ↔ c ≠ .wave ∧ lastWrite c.controlReg hasTrigger es ≠ none :=
    (hports _).trans (h.trigger_iff c)
  constructor
  · intro ht hwave
    by_contra hwritten
    exact (hmem.mp (ht.written hwritten).1).1 hwave
  · intro hwave
    constructor
    · intro hwritten
      have hin := hmem.mpr ⟨fun hc => hwritten (hwave hc), hwritten⟩
      exact ⟨hin, triggered_of_mem hstep hin⟩
    · intro hnone
      have hout : .trigger c ∉ ports := fun hin => (hmem.mp hin).2 hnone
      exact ⟨hout, untriggered_of_notMem hstep hout⟩

/-- Over a run the control registers' writes trigger their channels, and nothing else does, if and
    only if no delivery follows a write to NR34 with bit 7 set. -/
theorem triggers_iff (game : List U8) (s : Sound) (es : List Event) (h : PlaysOn game s es) :
    AtDeliveries game s es (fun pre ports m m' => ∀ c, Triggers c pre ports m m') ↔
      AtDeliveries game s es fun pre _ _ _ => lastWrite 0x0E hasTrigger pre = none := by
  refine h.atDeliveries_iff fun pre ports m m' htracks hports hstep => ?_
  have hat := triggers_at htracks hports hstep
  constructor
  · intro ht
    exact (hat .wave).mp (ht .wave) rfl
  · rintro hnone c
    refine (hat c).mpr ?_
    rintro rfl
    exact hnone

/-- NR44 triggers the noise channel. -/
theorem nr44_triggers : AtDeliveries [] switchedOn
    [guestWrite 0xFF23 0x80, .deliver [.trigger .noise]]
    fun pre ports m m' => ∀ c, Triggers c pre ports m m' := by
  have hplays : PlaysOn [] switchedOn [guestWrite 0xFF23 0x80, .deliver [.trigger .noise]] :=
    playsOn_pair switchedOn_on switchedOn_settled (fun h => absurd h.2.1 (by decide))
      (by decide +kernel)
  refine (triggers_iff [] switchedOn _ hplays).mpr ?_
  intro pre ports suf m m' hes hm _
  obtain ⟨rfl, rfl⟩ := eq_of_pair hes
  rfl

/-- NR34 does not trigger the wave channel. -/
theorem nr34_ignored : PlaysOn [] switchedOn [guestWrite 0xFF1E 0x80, .deliver []] ∧
    ¬ AtDeliveries [] switchedOn [guestWrite 0xFF1E 0x80, .deliver []]
      fun pre ports m m' => ∀ c, Triggers c pre ports m m' := by
  constructor
  · exact playsOn_pair switchedOn_on switchedOn_settled (fun h => absurd h.2.1 (by decide))
      (by decide +kernel)
  · intro h
    have hfirst : ([guestWrite 0xFF1E 0x80].foldlM (step []) switchedOn).map
        (fun s => s.io.regNr52) = .ok 0x80 := by
      decide +kernel
    have hrun : ([guestWrite 0xFF1E 0x80, .deliver []].foldlM (step []) switchedOn).map
        (fun s => s.io.regNr52) = .ok 0x80 := by
      decide +kernel
    obtain ⟨m, hm, -⟩ := StateExcept.map_eq_ok hfirst
    obtain ⟨m', hm', -⟩ := StateExcept.map_eq_ok hrun
    have hlast : step [] m (.deliver []) = .ok m' := by
      have happend := History.run_concat (step []) switchedOn [guestWrite 0xFF1E 0x80] (.deliver [])
      rw [hm] at happend
      exact happend.symm.trans hm'
    have hwave := h [guestWrite 0xFF1E 0x80] [] [] m m' rfl hm hlast .wave
    exact absurd (hwave.written nofun).1 List.not_mem_nil

end TlmBoy.Sound
