import TlmBoy.Apu.State
import TlmBoy.Bus.PlainMemory

/-
  The devices with the APU beside them, and the events that move them.

  A guest's access writes signals, and a delivery is the delta cycle after which the kernel runs
  the notified methods. `KernelRule` says which methods those are. The processes of the APU
  write NR13, NR14 and the status bits of NR52 and no other register (`ProcessWrites`).
-/

namespace TlmBoy

namespace Apu

inductive ChannelName where
  | square1
  | square2
  | wave
  | noise
deriving DecidableEq, Repr

/-- The input ports. -/
inductive Port where
  | reloadLength (c : ChannelName)
  | trigger (c : ChannelName)
deriving DecidableEq, Repr

/-- The signal of `IoRegisters` that `GbTop` binds to the port. Nothing writes
    `sig_trigger_wave`. -/
def Port.signal : Port → Option IoSignal
  | .reloadLength .square1 => some .reloadLengthSquare1
  | .reloadLength .square2 => some .reloadLengthSquare2
  | .reloadLength .wave => some .reloadLengthWave
  | .reloadLength .noise => some .reloadLengthNoise
  | .trigger .square1 => some .triggerSquare1
  | .trigger .square2 => some .triggerSquare2
  | .trigger .wave => none
  | .trigger .noise => some .triggerNoise

/-- The method that is sensitive to the port. -/
def Port.method : Port → IoRegisters → Apu → Apu × IoRegisters
  | .reloadLength .square1, io, apu => (apu.reloadLengthSquare1 io, io)
  | .reloadLength .square2, io, apu => (apu.reloadLengthSquare2 io, io)
  | .reloadLength .wave, io, apu => (apu.reloadLengthWave io, io)
  | .reloadLength .noise, io, apu => (apu.reloadLengthNoise io, io)
  | .trigger .square1, io, apu => apu.triggerEventSquare1 io
  | .trigger .square2, io, apu => apu.triggerEventSquare2 io
  | .trigger .wave, io, apu => apu.triggerEventWave io
  | .trigger .noise, io, apu => apu.triggerEventNoise io

/-- The methods of the ports, one after the other. -/
def runMethods (ports : List Port) (io : IoRegisters) (apu : Apu) : Apu × IoRegisters :=
  ports.foldl (fun r p => p.method r.2 r.1) (apu, io)

end Apu

structure Sound where
  gb : Gb
  apu : Apu := {}

namespace Sound

def io (s : Sound) : IoRegisters := s.gb.ioRegisters

/-- The APU and the registers as a process leaves them. -/
def set (s : Sound) (r : Apu × IoRegisters) : Sound :=
  { gb := { s.gb with ioRegisters := r.2 }, apu := r.1 }

@[simp] theorem set_io (s : Sound) (r : Apu × IoRegisters) : (s.set r).io = r.2 := rfl

@[simp] theorem set_apu (s : Sound) (r : Apu × IoRegisters) : (s.set r).apu = r.1 := rfl

/-- `deliver` is a delta cycle with the ports whose methods run in it, in the order in which the
    kernel picks them. -/
inductive Event where
  | access (t : Payload)
  | deliver (ports : List Apu.Port)
  | decrementLengths
  | doSweep
  | updateEnvelopes
  | callback (c : Apu.CallbackStep)

def step (game : List U8) (s : Sound) : Event → Except Fault Sound
  | .access t => do
    let gb ← s.gb.access t
    return { s with gb }
  | .deliver ports => do
    let gb ← s.gb.deltaCycle game
    return { s with gb }.set (Apu.runMethods ports gb.ioRegisters s.apu)
  | .decrementLengths => .ok (s.set (s.apu.decrementLengths s.io))
  | .doSweep => .ok (s.set (s.apu.doSweep s.io))
  | .updateEnvelopes => .ok { s with apu := s.apu.updateEnvelopes s.io }
  | .callback c => .ok { s with apu := s.apu.callbackStep s.io c }

/-- The signal's written value differs from its current one. -/
def Notified (s : Sound) (p : Apu.Port) : Prop :=
  ∃ sig ∈ p.signal, (s.io.signals sig).next ≠ (s.io.signals sig).value

/-- A method that is sensitive to a signal runs exactly in the delta cycles in which the signal
    changes. -/
def KernelRule (game : List U8) (s : Sound) (es : List Event) : Prop :=
  ∀ pre ports suf m, es = pre ++ .deliver ports :: suf → pre.foldlM (step game) s = .ok m →
    ∀ p, p ∈ ports ↔ m.Notified p

end Sound

/-! ## What the processes write -/

/-- NR13, NR14 and the status bits of NR52 at most are written. -/
structure ProcessWrites (io io' : IoRegisters) : Prop where
  signals : io'.signals = io.signals
  data : ∀ k : Fin 0x80, k ≠ 0x03 → k ≠ 0x04 → k ≠ 0x16 → io'.data k = io.data k
  power : io'.data 0x16 &&& 0b10000000 = io.data 0x16 &&& 0b10000000

namespace ProcessWrites

theorem refl (io : IoRegisters) : ProcessWrites io io := ⟨rfl, fun _ _ _ _ => rfl, rfl⟩

theorem trans {io₁ io₂ io₃ : IoRegisters} (h : ProcessWrites io₁ io₂) (h' : ProcessWrites io₂ io₃) :
    ProcessWrites io₁ io₃ where
  signals := h'.signals.trans h.signals
  data k h3 h4 h16 := (h'.data k h3 h4 h16).trans (h.data k h3 h4 h16)
  power := h'.power.trans h.power

theorem poke_status (io : IoRegisters) {v : U8}
    (hv : v &&& 0b10000000 = io.regNr52 &&& 0b10000000) : ProcessWrites io (io.poke 0x16 v) where
  signals := rfl
  data _ _ _ h16 := IoRegisters.poke_of_ne h16 v io
  power := by
    rw [IoRegisters.poke_self]
    exact hv

theorem poke_frequency (io : IoRegisters) {i : Fin 0x80} (hi : i = 0x03 ∨ i = 0x04) (v : U8) :
    ProcessWrites io (io.poke i v) where
  signals := rfl
  data k h3 h4 _ := by
    have hne : k ≠ i := by
      rintro rfl
      exact hi.elim h3 h4
    exact IoRegisters.poke_of_ne hne v io
  power := by
    have hne : (0x16 : Fin 0x80) ≠ i := by
      rintro rfl
      exact absurd hi (by decide)
    rw [IoRegisters.poke_of_ne hne]

end ProcessWrites

namespace Apu

theorem set_status_power (v : U8) {mask : U8} (hmask : mask &&& 0b10000000 = 0) :
    (v ||| mask) &&& 0b10000000 = v &&& 0b10000000 := by
  rw [BitVec.and_or_distrib_right, hmask]
  exact BitVec.or_zero

theorem clear_status_power (v : U8) {mask : U8} (hmask : ~~~mask &&& 0b10000000 = 0b10000000) :
    (v &&& ~~~mask) &&& 0b10000000 = v &&& 0b10000000 := by
  rw [BitVec.and_assoc, hmask]

theorem Port.method_writes (p : Port) (io : IoRegisters) (apu : Apu) :
    ProcessWrites io (p.method io apu).2 := by
  have hset : ∀ mask : U8, mask &&& 0b10000000 = 0 →
      ProcessWrites io (io.poke 0x16 (io.regNr52 ||| mask)) :=
    fun mask hmask => .poke_status io (set_status_power _ hmask)
  have hdac : ∀ (mask v : U8), mask &&& 0b10000000 = 0 → ProcessWrites io
      (if (v &&& 0xF8) ≠ 0 then io.poke 0x16 (io.regNr52 ||| mask) else io) := by
    intro mask v hmask
    split_ifs
    · exact hset mask hmask
    · exact .refl io
  cases p with
  | reloadLength c => cases c <;> exact .refl io
  | trigger c =>
    cases c with
    | square1 => exact hdac _ _ (by decide)
    | square2 => exact hdac _ _ (by decide)
    | wave => exact hset _ (by decide)
    | noise => exact hdac _ _ (by decide)

theorem runMethods_writes (ports : List Port) (io : IoRegisters) (apu : Apu) :
    ProcessWrites io (runMethods ports io apu).2 := by
  induction ports generalizing io apu with
  | nil => exact .refl io
  | cons p ports ih => exact (p.method_writes io apu).trans (ih _ _)

theorem decrementLength_power (ch : Channel) (v : U8) {mask : U8}
    (hmask : ~~~mask &&& 0b10000000 = 0b10000000) :
    (ch.decrementLength mask v).2 &&& 0b10000000 = v &&& 0b10000000 := by
  unfold Channel.decrementLength
  split_ifs
  · dsimp only
    split_ifs
    · exact clear_status_power v hmask
    · rfl
  · rfl

theorem decrementLengths_writes (io : IoRegisters) (apu : Apu) :
    ProcessWrites io (apu.decrementLengths io).2 := by
  refine .poke_status io ?_
  refine (decrementLength_power _ _ (by decide)).trans ?_
  refine (decrementLength_power _ _ (by decide)).trans ?_
  refine (decrementLength_power _ _ (by decide)).trans ?_
  exact decrementLength_power _ _ (by decide)

theorem doSweep_writes (io : IoRegisters) (apu : Apu) : ProcessWrites io (apu.doSweep io).2 := by
  unfold doSweep
  dsimp only
  split_ifs
  · exact .refl io
  · exact ((ProcessWrites.poke_status io (clear_status_power _ (by decide))).trans
      (.poke_frequency _ (Or.inl rfl) _)).trans (.poke_frequency _ (Or.inr rfl) _)
  · exact (ProcessWrites.poke_frequency io (Or.inl rfl) _).trans (.poke_frequency _ (Or.inr rfl) _)
  · exact .refl io

end Apu

/-! ## What an event does to the registers -/

namespace Sound

theorem step_access {game : List U8} {s s' : Sound} {t : Payload}
    (h : step game s (.access t) = .ok s') : s'.apu = s.apu ∧
      ((¬ (t.command = .write ∧ 0xFF10 ≤ t.address ∧ t.address ≤ 0xFF7F) ∧ s'.io = s.io) ∨
        ∃ i : Fin 0x80, t.command = .write ∧ t.address = 0xFF10 + BitVec.ofNat 16 i.val ∧
          s'.io = s.io.written i t.data) := by
  obtain ⟨gb, haccess, h⟩ := StateExcept.except_bind_eq_ok h
  cases h
  obtain ⟨⟨t', gb'⟩, hbus, hgb⟩ := StateExcept.map_eq_ok haccess
  cases hgb
  exact ⟨rfl, Gb.bTransport_written hbus⟩

theorem step_deliver {game : List U8} {s s' : Sound} {ports : List Apu.Port}
    (h : step game s (.deliver ports) = .ok s') :
    (s'.apu, s'.io) = Apu.runMethods ports
      { s.io with signals := fun sig => (s.io.signals sig).update } s.apu := by
  obtain ⟨gb, hdelta, h⟩ := StateExcept.except_bind_eq_ok h
  cases h
  unfold Gb.deltaCycle at hdelta
  dsimp only at hdelta
  split_ifs at hdelta
  · obtain ⟨cartridge, -, hgb⟩ := StateExcept.except_bind_eq_ok hdelta
    cases hgb
    rfl
  · cases hdelta
    rfl

/-- The methods that run in a delivery write to the registers. -/
theorem step_deliver_writes {game : List U8} {s s' : Sound} {ports : List Apu.Port}
    (h : step game s (.deliver ports) = .ok s') :
    ProcessWrites { s.io with signals := fun sig => (s.io.signals sig).update } s'.io := by
  have hio : s'.io = _ := congrArg Prod.snd (step_deliver h)
  rw [hio]
  exact Apu.runMethods_writes ports _ _

/-- An event that is neither an access nor a delivery is a process of the APU. -/
theorem step_process {game : List U8} {s s' : Sound} {e : Event} (h : step game s e = .ok s') :
    (∃ t, e = .access t) ∨ (∃ ports, e = .deliver ports) ∨
      ((∀ t, e ≠ .access t) ∧ (∀ ports, e ≠ .deliver ports) ∧ ProcessWrites s.io s'.io) := by
  cases e with
  | access t => exact .inl ⟨t, rfl⟩
  | deliver ports => exact .inr (.inl ⟨ports, rfl⟩)
  | decrementLengths =>
    cases h
    exact .inr (.inr ⟨nofun, nofun, s.apu.decrementLengths_writes s.io⟩)
  | doSweep =>
    cases h
    exact .inr (.inr ⟨nofun, nofun, s.apu.doSweep_writes s.io⟩)
  | updateEnvelopes =>
    cases h
    exact .inr (.inr ⟨nofun, nofun, .refl s.io⟩)
  | callback c =>
    cases h
    exact .inr (.inr ⟨nofun, nofun, .refl s.io⟩)

end Sound

end TlmBoy
