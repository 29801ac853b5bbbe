import TlmBoy.Apu.Active
import TlmBoy.Apu.Triggers
import TlmBoy.Board.FrameTiming

/-
  The length counters as functions of time.

  The parts of `AudioLoop` decrement the lengths once every 16384 clock cycles, whatever else they
  do. A channel that nobody reloads or triggers counts its length down with them, and its status
  bit goes out with the last one (`length_at_time`). Square 1 is left out: its sweep writes NR14,
  and with it the length enable.
-/

namespace TlmBoy

open EventKernel (Simulation Course WaitsAt)

/-! ## One decrement -/

namespace Apu

theorem decrementLength_length (ch : Channel) (mask v : U8) :
    (ch.decrementLength mask v).1.lengthLoad =
      if ch.lengthEnable ∧ 1 ≤ ch.lengthLoad then ch.lengthLoad - 1 else ch.lengthLoad := by
  unfold Channel.decrementLength
  split_ifs <;> rfl

/-- The channel's own bit goes out with the last step of its length. -/
theorem decrementLength_status (ch : Channel) (mask v : U8) :
    (ch.decrementLength mask v).2 &&& mask =
      if ch.lengthEnable ∧ ch.lengthLoad = 1 then 0 else v &&& mask := by
  have hclear : v &&& ~~~mask &&& mask = 0 := by
    rw [BitVec.and_assoc, BitVec.and_comm (~~~mask), BitVec.and_not_self]
    exact BitVec.and_zero
  unfold Channel.decrementLength
  by_cases hcount : ch.lengthEnable = true ∧ 1 ≤ ch.lengthLoad
  · rw [if_pos hcount]
    dsimp only
    by_cases hlast : ch.lengthLoad = 1
    · rw [if_pos (by rw [hlast]; rfl), if_pos ⟨hcount.1, hlast⟩, hclear]
    · have hmore : ¬ ch.lengthLoad - 1 = 0 := by
        intro hzero
        apply hlast
        bv_omega
      rw [if_neg hmore, if_neg fun h => hlast h.2]
  · rw [if_neg hcount, if_neg]
    rintro ⟨hen, hone⟩
    exact hcount ⟨hen, by rw [hone]; decide⟩

theorem statusMask_kept {c c' : ChannelName} (hc : c' ≠ c) :
    ~~~c.statusMask &&& c'.statusMask = c'.statusMask := by
  cases c <;> cases c' <;> first | rfl | exact absurd rfl hc

/-- The bits of the other channels stay. -/
theorem decrementLength_other (ch : Channel) (v : U8) {c c' : ChannelName} (hc : c' ≠ c) :
    (ch.decrementLength c.statusMask v).2 &&& c'.statusMask = v &&& c'.statusMask := by
  unfold Channel.decrementLength
  split_ifs
  · dsimp only
    split_ifs
    · rw [BitVec.and_assoc, statusMask_kept hc]
    · rfl
  · rfl

/-- The length enable of the channel's control register. -/
def lengthEnabled (c : ChannelName) (io : IoRegisters) : Bool :=
  (io.data c.controlReg &&& 0b01000000) != 0

variable (c : ChannelName) (io : IoRegisters) (apu : Apu)

theorem enableLengths_channel : (apu.enableLengths io).channel c =
    { apu.channel c with lengthEnable := lengthEnabled c io } := by
  cases c <;> rfl

theorem decrementLengths_length (hen : lengthEnabled c io = true) :
    ((apu.decrementLengths io).1.channel c).lengthLoad =
      if 1 ≤ (apu.channel c).lengthLoad then (apu.channel c).lengthLoad - 1
      else (apu.channel c).lengthLoad := by
  have hturn : ∃ v, (apu.decrementLengths io).1.channel c =
      (((apu.enableLengths io).channel c).decrementLength c.statusMask v).1 := by
    cases c <;> exact ⟨_, rfl⟩
  obtain ⟨v, hturn⟩ := hturn
  rw [hturn, decrementLength_length, enableLengths_channel, hen]
  exact if_congr (and_iff_right rfl) rfl rfl

/-- NR52 after a channel's block of `DecrementLengths`. -/
def lengthTurn (c : ChannelName) (io : IoRegisters) (apu : Apu) (v : U8) : U8 :=
  (((apu.enableLengths io).channel c).decrementLength c.statusMask v).2

theorem decrementLengths_nr52 : (apu.decrementLengths io).2.regNr52 =
    lengthTurn .noise io apu (lengthTurn .wave io apu
      (lengthTurn .square2 io apu (lengthTurn .square1 io apu io.regNr52))) :=
  io.poke_self 0x16 _

theorem decrementLengths_status (hen : lengthEnabled c io = true) :
    (apu.decrementLengths io).2.regNr52 &&& c.statusMask =
      if (apu.channel c).lengthLoad = 1 then 0 else io.regNr52 &&& c.statusMask := by
  have hown : ∀ v : U8, lengthTurn c io apu v &&& c.statusMask =
      if (apu.channel c).lengthLoad = 1 then 0 else v &&& c.statusMask := by
    intro v
    rw [lengthTurn, decrementLength_status, enableLengths_channel, hen]
    exact if_congr (and_iff_right rfl) rfl rfl
  have hother : ∀ c' v, c' ≠ c →
      lengthTurn c' io apu v &&& c.statusMask = v &&& c.statusMask :=
    fun c' v hc => decrementLength_other _ v hc.symm
  rw [decrementLengths_nr52]
  cases c with
  | square1 =>
    rw [hother .noise _ nofun, hother .wave _ nofun, hother .square2 _ nofun, hown]
  | square2 =>
    rw [hother .noise _ nofun, hother .wave _ nofun, hown, hother .square1 _ nofun]
  | wave => rw [hother .noise _ nofun, hown, hother .square2 _ nofun, hother .square1 _ nofun]
  | noise => rw [hown, hother .wave _ nofun, hother .square2 _ nofun, hother .square1 _ nofun]

/-! ## The other parts of the loop -/

theorem doSweep_channel : (apu.doSweep io).1.channel c = apu.channel c := by
  unfold doSweep
  dsimp only
  split_ifs <;> cases c <;> rfl

theorem updateEnvelopes_length :
    ((apu.updateEnvelopes io).channel c).lengthLoad = (apu.channel c).lengthLoad := by
  cases c <;> rfl

theorem callbackStep_length (s : CallbackStep) :
    ((apu.callbackStep io s).channel c).lengthLoad = (apu.channel c).lengthLoad := by
  cases s <;> cases c <;> rfl

variable {c}

/-- The sweep is square 1's own affair. -/
theorem doSweep_status (hc : c ≠ .square1) :
    (apu.doSweep io).2.regNr52 &&& c.statusMask = io.regNr52 &&& c.statusMask := by
  have hpokes : ∀ (io' : IoRegisters) (lsb msb : U8),
      ((io'.poke 0x03 lsb).poke 0x04 msb).regNr52 = io'.regNr52 := by
    intro io' lsb msb
    have hmsb := (io'.poke 0x03 lsb).poke_of_ne (show (0x16 : Fin 0x80) ≠ 0x04 by decide) msb
    have hlsb := io'.poke_of_ne (show (0x16 : Fin 0x80) ≠ 0x03 by decide) lsb
    exact hmsb.trans hlsb
  unfold doSweep
  dsimp only
  split_ifs
  · rfl
  · have hself : (io.poke 0x16 (io.regNr52 &&& ~~~kSquare1StatusMask)).regNr52 = _ :=
      io.poke_self 0x16 _
    rw [hpokes, hself, BitVec.and_assoc]
    exact congrArg (io.regNr52 &&& ·) (statusMask_kept hc)
  · rw [hpokes]
  · rfl

theorem controlReg_ne (hc : c ≠ .square1) :
    c.controlReg ≠ 0x03 ∧ c.controlReg ≠ 0x04 ∧ c.controlReg ≠ 0x16 := by
  cases c with
  | square1 => exact absurd rfl hc
  | _ => decide

/-- The processes of the APU leave the length enables of the other channels alone. -/
theorem lengthEnabled_of_processWrites {io io' : IoRegisters} (hc : c ≠ .square1)
    (h : ProcessWrites io io') : lengthEnabled c io' = lengthEnabled c io := by
  obtain ⟨h3, h4, h16⟩ := controlReg_ne hc
  rw [lengthEnabled, lengthEnabled, h.data _ h3 h4 h16]

/-! ## The countdown -/

/-- The channel after `j` decrements of the length `n`, where its status bit was `on`. -/
structure Counts (c : ChannelName) (n : Nat) (on : U8) (j : Nat) (apu : Apu) (io : IoRegisters) :
    Prop where
  length : (apu.channel c).lengthLoad.toNat = n - j
  status : io.regNr52 &&& c.statusMask = if j < n then on else 0
  enabled : lengthEnabled c io = true

variable {io apu} {n j : Nat} {on : U8}

theorem Counts.decrement (h : Counts c n on j apu io) (hc : c ≠ .square1) :
    Counts c n on (j + 1) (apu.decrementLengths io).1 (apu.decrementLengths io).2 := by
  have hlength := h.length
  refine ⟨?_, ?_, ?_⟩
  · rw [decrementLengths_length c io apu h.enabled]
    split_ifs with hpos
    · bv_omega
    · bv_omega
  · rw [decrementLengths_status c io apu h.enabled, h.status]
    by_cases hlast : (apu.channel c).lengthLoad = 1
    · have hone : n - j = 1 := by
        rw [← hlength, hlast]
        rfl
      rw [if_pos hlast, if_neg (by omega)]
    · have hne : n - j ≠ 1 := by
        intro hone
        apply hlast
        bv_omega
      rw [if_neg hlast]
      exact if_congr (by omega) rfl rfl
  · rw [lengthEnabled_of_processWrites hc (apu.decrementLengths_writes io)]
    exact h.enabled

theorem Counts.sweep (h : Counts c n on j apu io) (hc : c ≠ .square1) :
    Counts c n on j (apu.doSweep io).1 (apu.doSweep io).2 := by
  refine ⟨?_, ?_, ?_⟩
  · rw [doSweep_channel]
    exact h.length
  · rw [doSweep_status io apu hc]
    exact h.status
  · rw [lengthEnabled_of_processWrites hc (apu.doSweep_writes io)]
    exact h.enabled

theorem Counts.audioPart (h : Counts c n on j apu io) (hc : c ≠ .square1) (i : Fin 5) :
    Counts c n on (if i = 4 then j else j + 1) (Apu.audioPart i io apu).1
      (Apu.audioPart i io apu).2 := by
  match i with
  | 0 => exact h.decrement hc
  | 1 => exact (h.decrement hc).sweep hc
  | 2 => exact h.decrement hc
  | 3 => exact (h.decrement hc).sweep hc
  | 4 => exact ⟨(congrArg BitVec.toNat (updateEnvelopes_length c io apu)).trans h.length, h.status,
      h.enabled⟩

/-- Whoever leaves the channel's length and its registers alone does not disturb it. -/
theorem Counts.kept {apu' : Apu} {io' : IoRegisters} (h : Counts c n on j apu io)
    (hlength : (apu'.channel c).lengthLoad = (apu.channel c).lengthLoad)
    (hstatus : io'.regNr52 &&& c.statusMask = io.regNr52 &&& c.statusMask)
    (hcontrol : io'.data c.controlReg = io.data c.controlReg) : Counts c n on j apu' io' :=
  ⟨by rw [hlength, h.length], by rw [hstatus, h.status],
    by rw [lengthEnabled, hcontrol]; exact h.enabled⟩

end Apu

/-! ## The parts of `AudioLoop` over time -/

namespace Board

open Apu (ChannelName Port)

/-- The time between two decrements of the lengths. -/
def lengthTime : Nat := 16384 * GbConst.kNsPerClkCycle

/-- The cycle of its five parts in which a part of `AudioLoop` runs. -/
def audioOffset : Nat → Nat
  | 0 => 0
  | 1 => 16384
  | 2 => 32768
  | 3 => 49152
  | _ => 57344

theorem audioOffset_eq {i : Nat} (hi : i < 5) :
    audioOffset i = 16384 * min i 3 + 8192 * (i / 4) := by
  have hall : ∀ i < 5, audioOffset i = 16384 * min i 3 + 8192 * (i / 4) := by decide
  exact hall i hi

/-- When `n` parts have run, and how long the wait is then. -/
def audioSince : Nat → Nat
  | 0 => 0
  | n + 1 => (n / 5 * 65536 + audioOffset (n % 5)) * GbConst.kNsPerClkCycle

/-- The part that runs behind `n` of them. -/
def audioPartAfter (n : Nat) : Fin 5 := ⟨n % 5, Nat.mod_lt n (by decide)⟩

def audioWaitAfter : Nat → Nat
  | 0 => 0
  | n + 1 => Apu.audioWait (audioPartAfter n)

/-- The decrements of the lengths among the first `n` parts. -/
def lengthTicks (n : Nat) : Nat := n - n / 5

theorem audioSince_next (n : Nat) : audioSince (n + 1) = audioSince n + audioWaitAfter n := by
  have hns : GbConst.kNsPerClkCycle = 238 := rfl
  cases n with
  | zero => rfl
  | succ n =>
    obtain ⟨i, hi⟩ : ∃ i : Fin 5, audioPartAfter n = i := ⟨_, rfl⟩
    have hmod : n % 5 = i.val := congrArg Fin.val hi
    simp only [audioSince, audioWaitAfter, hi]
    have hnext : (n + 1) % 5 = (i.val + 1) % 5 ∧ (n + 1) / 5 = n / 5 + (i.val + 1) / 5 := by
      have := i.isLt
      omega
    rw [hnext.1, hnext.2, hmod, hns]
    match i with
    | 0 | 1 | 2 | 3 | 4 =>
      simp [audioOffset, Apu.audioWait, hns]
      omega

/-- Between two decrements the time says how many there have been. -/
theorem lengthTicks_of_waitsAt {At : Nat → Board → Prop} {n : Nat} {k : Simulation Process Board}
    (h : WaitsAt .audioLoop audioSince audioWaitAfter At n k)
    (hk : k.now % lengthTime ≠ 0) : lengthTicks n = k.now / lengthTime + 1 := by
  have hns : GbConst.kNsPerClkCycle = 238 := rfl
  have hdiv : lengthTime = 3899392 := rfl
  obtain ⟨-, hdue, harrived, hnotOver⟩ := h
  rw [hdue, ← audioSince_next] at hnotOver
  cases n with
  | zero =>
    have hnow : k.now = 0 := by
      simp only [audioSince, audioOffset, Nat.zero_div, Nat.zero_mod] at hnotOver
      omega
    rw [hnow] at hk
    exact absurd rfl hk
  | succ n =>
    rw [audioSince, hns] at harrived hnotOver
    rw [hdiv] at hk
    rw [lengthTicks, hdiv]
    rw [audioOffset_eq (Nat.mod_lt n (by decide))] at harrived
    rw [audioOffset_eq (Nat.mod_lt (n + 1) (by decide))] at hnotOver
    omega

/-! ## Who leaves the channels alone -/

variable {palette : Ppu.Palette} {game : List U8} {b b' : Board} {c : ChannelName}

/-- The act writes to no sound register, and reloads and triggers nothing of the channel. -/
def Act.SparesChannel (c : ChannelName) (a : Act) : Prop :=
  (∀ t, a = .access t → ¬ (t.command = .write ∧ 0xFF10 ≤ t.address ∧ t.address ≤ 0xFF26)) ∧
    ∀ ports, a = .deliver ports → .reloadLength c ∉ ports ∧ .trigger c ∉ ports

/-- The APU and the sound registers are the same, and so is the next part of `AudioLoop`. -/
structure KeepsSound (b b' : Board) : Prop where
  apu : b'.apu = b.apu
  data : ∀ k : Fin 0x80, k.val < 0x17 → b'.gb.ioRegisters.data k = b.gb.ioRegisters.data k
  part : b'.audioPart = b.audioPart

theorem resume_keepsSound {p : Process} (hp : p ≠ .audioLoop) (h : b.resume palette p = .ok b') :
    KeepsSound b b' := by
  cases p with
  | audioLoop => exact absurd rfl hp
  | divLoop =>
    cases h
    exact ⟨rfl, fun _ _ => rfl, rfl⟩
  | timerLoop =>
    cases h
    refine ⟨rfl, fun k _ => ?_, rfl⟩
    show b.gb.timerLoop.ioRegisters.data k = _
    unfold Gb.timerLoop
    dsimp only
    split_ifs <;> rfl
  | renderLoop =>
    obtain ⟨l, hl, rfl⟩ := StateExcept.map_eq_ok h
    refine ⟨rfl, fun k hk => ?_, rfl⟩
    have hk31 : k ≠ 0x31 := by
      rintro rfl
      exact absurd hk (by decide)
    have hk34 : k ≠ 0x34 := by
      rintro rfl
      exact absurd hk (by decide)
    exact Lcd.resume_frame (fun gb => gb.ioRegisters.data k)
      (fun val i gb => (gb.setIoReg_data 0x31 k _).trans (if_neg hk31))
      (fun v gb => (gb.setIoReg_data 0x34 k v).trans (if_neg hk34)) (fun _ _ => rfl) hl
  | inputLoop =>
    cases h
    have hapu := inputLoop_frame Board.apu (fun _ _ _ => rfl) (fun _ _ => rfl) b
    have hio := inputLoop_frame (fun b => b.gb.ioRegisters)
      (fun sym pressed b => b.gb.setButton_ioRegisters sym pressed) (fun _ _ => rfl) b
    exact ⟨hapu, fun k _ => congrFun (congrArg (·.data) hio) k, inputLoop_audioPart b⟩

/-- A write to another register than NR52 changes no register but its own. -/
theorem writtenData_of_ne {i k : Fin 0x80} (hi : i.val ≠ 0x16) (hk : k ≠ i) (v : U8)
    (io : IoRegisters) : io.writtenData i v k = io.data k := by
  have hafter : io.afterPowerOff i v = io := if_neg fun h => hi h.1
  rw [IoRegisters.writtenData, hafter]
  split_ifs
  · rfl
  · exact IoRegisters.storedData_of_ne hk v io

theorem act_audioPart {a : Act} (h : act game a b = .ok b') : b'.audioPart = b.audioPart := by
  cases a with
  | access t | deliver ports =>
    obtain ⟨s, -, rfl⟩ := StateExcept.map_eq_ok h
    rfl
  | acknowledge flag | callback s | serialInterrupt | input e =>
    cases h
    rfl

theorem act_counts {a : Act} {n j : Nat} {on : U8} (hc : c ≠ .square1) (ha : a.SparesChannel c)
    (h : Apu.Counts c n on j b.apu b.gb.ioRegisters) (hact : act game a b = .ok b') :
    Apu.Counts c n on j b'.apu b'.gb.ioRegisters := by
  obtain ⟨h3, h4, h16⟩ := Apu.controlReg_ne hc
  cases a with
  | access t =>
    obtain ⟨l, hl, rfl⟩ := StateExcept.map_eq_ok hact
    obtain ⟨t', gb, hbus, rfl⟩ := Lcd.access_eq_ok hl
    have hkept : ∀ k : Fin 0x80, k.val < 0x17 →
        gb.ioRegisters.data k = b.gb.ioRegisters.data k := by
      intro k hk
      obtain ⟨-, hdata⟩ | ⟨i, hcmd, hadr, hdata⟩ := Gb.bTransport_ioRegisters hbus
      · rw [hdata]
      · have hi : 0x16 < i.val := by
          by_contra hle
          have := i.isLt
          exact ha.1 t rfl ⟨hcmd, by rw [hadr]; bv_omega, by rw [hadr]; bv_omega⟩
        rw [hdata]
        refine writtenData_of_ne (by omega) ?_ _ _
        rintro rfl
        omega
    have hcontrol : c.controlReg.val < 0x17 := by cases c <;> decide
    exact h.kept rfl (congrArg (· &&& c.statusMask) (hkept 0x16 (by decide)))
      (hkept _ hcontrol)
  | deliver ports =>
    obtain ⟨s, hs, rfl⟩ := StateExcept.map_eq_ok hact
    obtain ⟨hreload, htrigger⟩ := ha.2 ports rfl
    have happu := congrArg Prod.fst (Sound.step_deliver hs)
    have hio := congrArg Prod.snd (Sound.step_deliver hs)
    have hwrites := Sound.step_deliver_writes hs
    refine h.kept ?_ ?_ ?_
    · refine (congrArg (fun apu : Apu => (apu.channel c).lengthLoad) happu).trans ?_
      rw [Sound.runMethods_length, if_neg (not_or.mpr ⟨hreload, fun hand => htrigger hand.1⟩)]
      rfl
    · refine (congrArg (fun io : IoRegisters => io.regNr52 &&& c.statusMask) hio).trans ?_
      rw [Sound.runMethods_status, if_neg fun hand => htrigger hand.1]
      rfl
    · exact hwrites.data _ h3 h4 h16
  | callback s =>
    cases hact
    exact h.kept (Apu.callbackStep_length c _ _ s) rfl rfl
  | acknowledge flag | serialInterrupt | input e =>
    cases hact
    exact h.kept rfl rfl rfl

/-! ## The lengths over time -/

theorem audioLoop_part {n : Nat} (hpart : b.audioPart = audioPartAfter n) :
    b.audioLoop.audioPart = audioPartAfter (n + 1) ∧
      delay .audioLoop b.audioLoop = audioWaitAfter (n + 1) := by
  refine ⟨?_, ?_⟩
  · show b.audioPart + 1 = _
    rw [hpart]
    exact Fin.ext (Nat.mod_add_mod n 5 1)
  · show Apu.audioWait (b.audioPart + 1 - 1) = Apu.audioWait (audioPartAfter n)
    rw [add_sub_cancel_right, hpart]

/-- After `n` parts of `AudioLoop`: the channel has counted its length down since there were `m`
    decrements. -/
def LengthCounts (c : ChannelName) (length : Nat) (on : U8) (m n : Nat) (b : Board) : Prop :=
  b.audioPart = audioPartAfter n ∧ m ≤ lengthTicks n ∧
    Apu.Counts c length on (lengthTicks n - m) b.apu b.gb.ioRegisters

theorem audioLoop_course (palette : Ppu.Palette) (game : List U8) (hc : c ≠ .square1)
    (length : Nat) (on : U8) (m : Nat) :
    Course (threads palette) (fun a : { a : Act // a.SparesChannel c } => act game a.1) .audioLoop
      Nat.succ audioSince audioWaitAfter (LengthCounts c length on m) where
  own := by
    rintro n b b' ⟨hpart, hm, hcounts⟩ h
    cases h
    obtain ⟨hnext, hdelay⟩ := audioLoop_part hpart
    have hticks : lengthTicks (n + 1) - m =
        if b.audioPart = 4 then lengthTicks n - m else lengthTicks n - m + 1 := by
      have hfour : b.audioPart = 4 ↔ n % 5 = 4 := by
        rw [hpart]
        exact Fin.ext_iff
      unfold lengthTicks at hm ⊢
      split_ifs with h4
      · have := hfour.mp h4
        omega
      · have := mt hfour.mpr h4
        omega
    refine ⟨⟨hnext, ?_, ?_⟩, hdelay⟩
    · unfold lengthTicks at hm ⊢
      omega
    · rw [hticks]
      exact hcounts.audioPart hc b.audioPart
  others := by
    rintro p hp n b b' ⟨hpart, hm, hcounts⟩ h
    have hkeeps := resume_keepsSound hp h
    have hcontrol : c.controlReg.val < 0x17 := by cases c <;> decide
    exact ⟨hkeeps.part.trans hpart, hm, hcounts.kept
      (congrArg (fun apu : Apu => (apu.channel c).lengthLoad) hkeeps.apu)
      (congrArg (· &&& c.statusMask) (hkeeps.data 0x16 (by decide))) (hkeeps.data _ hcontrol)⟩
  acts := by
    rintro ⟨a, ha⟩ n b b' ⟨hpart, hm, hcounts⟩ h
    exact ⟨(act_audioPart h).trans hpart, hm, act_counts hc ha hcounts h⟩
  since_next := audioSince_next

/-- From any moment on at which the channel's length is enabled and not zero, until the guest writes
    to a sound register or a delivery reloads or triggers the channel: the length is counted down
    at every multiple of 16384 clock cycles, and the channel's status bit goes out with the last
    step. Neither moment is such a multiple itself, where the kernel decides who comes first. -/
theorem length_at_time (palette : Ppu.Palette) (game : List U8) (b : Board)
    (hb : b.audioPart = 0) (c : ChannelName) (hc : c ≠ .square1) (k₁ k : Simulation Process Board)
    (hpast : Runs palette game b.start k₁)
    (hrun : RunsWith (Act.SparesChannel c) palette game k₁ k)
    (hen : Apu.lengthEnabled c k₁.state.gb.ioRegisters = true)
    (hlength : 1 ≤ (k₁.state.apu.channel c).lengthLoad)
    (h₁ : k₁.now % lengthTime ≠ 0) (h : k.now % lengthTime ≠ 0) :
    let length := (k₁.state.apu.channel c).lengthLoad.toNat
    let n := k.now / lengthTime - k₁.now / lengthTime
    (k.state.apu.channel c).lengthLoad.toNat = length - n ∧
      k.state.gb.ioRegisters.regNr52 &&& c.statusMask =
        if n < length then k₁.state.gb.ioRegisters.regNr52 &&& c.statusMask else 0 := by
  have hany : Course (threads palette) (act game) .audioLoop Nat.succ audioSince audioWaitAfter
      fun n b => b.audioPart = audioPartAfter n := by
    refine ⟨?_, ?_, ?_, audioSince_next⟩
    · rintro n b b' hpart h
      cases h
      exact audioLoop_part hpart
    · intro p hp n b b' hpart h
      exact (resume_keepsSound hp h).part.trans hpart
    · intro a n b b' hpart h
      exact (act_audioPart h).trans hpart
  have hstart : WaitsAt .audioLoop audioSince audioWaitAfter
      (fun n b => b.audioPart = audioPartAfter n) 0 b.start :=
    ⟨hb, rfl, Nat.le_refl 0, Nat.le_refl 0⟩
  obtain ⟨n₁, hwaits₁⟩ := hany.reaches hpast hstart
  generalize Nat.succ^[n₁] 0 = m at hwaits₁
  have hticks₁ := lengthTicks_of_waitsAt hwaits₁ h₁
  have hpos : 0 < (k₁.state.apu.channel c).lengthLoad.toNat := by bv_omega
  have hcounts : LengthCounts c (k₁.state.apu.channel c).lengthLoad.toNat
      (k₁.state.gb.ioRegisters.regNr52 &&& c.statusMask) (lengthTicks m) m k₁.state := by
    refine ⟨hwaits₁.holds, Nat.le_refl _, ?_⟩
    rw [Nat.sub_self]
    exact ⟨rfl, (if_pos hpos).symm, hen⟩
  obtain ⟨n, hwaits⟩ := (audioLoop_course palette game hc _ _ (lengthTicks m)).reaches hrun
    ⟨hcounts, hwaits₁.due, hwaits₁.arrived, hwaits₁.notOver⟩
  have hticks := lengthTicks_of_waitsAt hwaits h
  obtain ⟨-, -, hcounts⟩ := hwaits.holds
  have hn : lengthTicks (Nat.succ^[n] m) - lengthTicks m =
      k.now / lengthTime - k₁.now / lengthTime := by
    rw [hticks, hticks₁]
    omega
  rw [hn] at hcounts
  exact ⟨hcounts.length, hcounts.status⟩

/-- Square 2 is on, with its length enabled and two steps of it left. -/
def square2Counts : Board :=
  { powerOn with
    apu := { square2 := { lengthLoad := 2 } }
    lcd := { powerOn.lcd with gb := (powerOn.gb.setIoReg 0x09 0x40).setIoReg 0x16 0x82 } }

/-- One of them is taken at power-on, and the other one 16384 cycles later. -/
theorem square2_goes_out : ∃ k₁ k : Simulation Process Board,
    Runs (fun _ => ⟨0, 0, 0⟩) [] square2Counts.start k₁ ∧ k₁.now = 1 ∧
    RunsWith (Act.SparesChannel .square2) (fun _ => ⟨0, 0, 0⟩) [] k₁ k ∧ k.now = 3899393 ∧
    k.state.gb.ioRegisters.regNr52 &&& Apu.kSquare2StatusMask = 0 := by
  let T := threads fun _ => ⟨0, 0, 0⟩
  let wait : EventKernel.Event Process Act := .elapse 1
  have hplay : (square2Counts.start.drive T Process.all 2 >>= fun m =>
      (({ m with now := m.now + 1 } : Simulation Process Board).drive T Process.all 189).map
        fun m' => (m.now, decide (m.Admits wait), (m.state.apu.channel .square2).lengthLoad,
          Apu.lengthEnabled .square2 m.state.gb.ioRegisters, m'.now, decide (m'.Admits wait))) =
      .ok (0, true, 1, true, 3899392, true) := by
    decide +kernel
  obtain ⟨m, hm, hplay⟩ := StateExcept.except_bind_eq_ok hplay
  obtain ⟨m', hm', hfacts⟩ := StateExcept.map_eq_ok hplay
  simp only [Prod.mk.injEq, decide_eq_true_eq] at hfacts
  obtain ⟨hnow, hwait, hlength, hen, hnow', hwait'⟩ := hfacts
  have hall := Process.mem_all
  have hpast : Runs (fun _ => ⟨0, 0, 0⟩) [] square2Counts.start { m with now := m.now + 1 } :=
    .tail (EventKernel.reaches_drive hall (fun _ => Nat.zero_le _) hm) (.elapse 1 hwait)
  have hrun : RunsWith (Act.SparesChannel .square2) (fun _ => ⟨0, 0, 0⟩) []
      { m with now := m.now + 1 } { m' with now := m'.now + 1 } :=
    .tail (EventKernel.reaches_drive hall hwait hm') (.elapse 1 hwait')
  have hnow₁ : m.now + 1 = 1 := congrArg (· + 1) hnow
  have hnow₂ : m'.now + 1 = 3899393 := congrArg (· + 1) hnow'
  refine ⟨_, _, hpast, hnow₁, hrun, hnow₂, ?_⟩
  have hgrid : (m.now + 1) % lengthTime ≠ 0 := by
    rw [hnow₁]
    decide
  have hgrid' : (m'.now + 1) % lengthTime ≠ 0 := by
    rw [hnow₂]
    decide
  refine (length_at_time _ _ square2Counts rfl .square2 nofun _ _ hpast hrun hen
    (by rw [hlength]; decide) hgrid hgrid').2.trans (if_neg ?_)
  show ¬ (m'.now + 1) / lengthTime - (m.now + 1) / lengthTime <
    (m.state.apu.channel .square2).lengthLoad.toNat
  rw [hnow₁, hnow₂, hlength]
  decide

end Board

end TlmBoy
