import TlmBoy.Cpu.MachineCycle

/-
  The CPU on a simulation kernel with a fixed schedule of peripheral activity.

  Time is counted in nanoseconds. At the times of its `Schedule` a peripheral is active and sets
  bits of IF, whatever the CPU does. `runUntil` is the kernel's event loop, from one activity to
  the next; `advance` passes the same time nanosecond by nanosecond and is what the proofs use
  (`runUntil_eq_advance`). The memory system `dev` is any `BusPort`, and no debugger is connected.
-/

namespace TlmBoy

/-! ## Schedules -/

structure Schedule where
  /-- The bits of IF that are set at a time, if a peripheral is active then. -/
  activity : Nat → Option U8
  /-- The time of the first activity after a given time. -/
  next : Nat → Option Nat
  next_some : ∀ {now t}, next now = some t →
    now < t ∧ (activity t).isSome = true ∧ ∀ u, now < u → u < t → activity u = none
  next_none : ∀ {now}, next now = none → ∀ u, now < u → activity u = none

namespace Schedule

/-- The schedule with a single activity. -/
def once (t : Nat) (bits : U8) : Schedule where
  activity u := if u = t then some bits else none
  next now := if now < t then some t else none
  next_some := by
    intro now t' h
    obtain ⟨hlt, h⟩ := Option.ite_none_right_eq_some.mp h
    injection h with h
    subst h
    exact ⟨hlt, by rw [if_pos rfl]; rfl, fun u _ hu => if_neg (by omega)⟩
  next_none := by
    intro now h u hu
    have hle : ¬ now < t := fun hlt => by rw [if_pos hlt] at h; cases h
    exact if_neg (by omega)

/-- No activity after `now` and up to `t`. -/
def QuietUntil (s : Schedule) (now t : Nat) : Prop := ∀ u, now < u → u ≤ t → s.activity u = none

theorem quietUntil_self (s : Schedule) (now : Nat) : s.QuietUntil now now := by
  intro u hlo hhi
  omega

theorem quietUntil_of_next_none {s : Schedule} {now : Nat} (h : s.next now = none) (t : Nat) :
    s.QuietUntil now t := fun u hu _ => s.next_none h u hu

theorem quietUntil_of_lt_next {s : Schedule} {now t u : Nat} (h : s.next now = some t)
    (hu : u < t) : s.QuietUntil now u :=
  fun v hlo hhi => (s.next_some h).2.2 v hlo (by omega)

end Schedule

/-! ## The kernel -/

/-- The SystemC simulation around the CPU's thread. -/
structure Timed (μ : Type) where
  /-- `sc_time_stamp()`. -/
  now : Nat
  schedule : Schedule
  /-- `sc_stop` was called. -/
  stopped : Bool
  dev : μ

namespace Timed

variable {μ : Type}

/-- The same devices at a later time. -/
def delay (d : Nat) (s : Timed μ) : Timed μ := { s with now := s.now + d }

variable [BusPort μ]

/-- What the peripherals do at the present time. -/
def raise (s : Timed μ) : Timed μ :=
  match s.schedule.activity s.now with
  | some bits => { s with dev := BusPort.setIntrPending (BusPort.intrPending s.dev ||| bits) s.dev }
  | none => s

/-- The event loop of the kernel, for at most `fuel` activities. -/
def runUntil (target : Nat) : Nat → Timed μ → Timed μ
  | 0, s => { s with now := target }
  | fuel + 1, s =>
    match s.schedule.next s.now with
    | some t =>
      if t ≤ target then runUntil target fuel { s with now := t }.raise
      else { s with now := target }
    | none => { s with now := target }

/-- The time passes, one nanosecond after the other. -/
def advance : Nat → Timed μ → Timed μ
  | 0, s => s
  | n + 1, s => (advance n s |>.delay 1).raise

theorem raise_of_quiet {s : Timed μ} (h : s.schedule.activity s.now = none) : s.raise = s := by
  rw [raise, h]

@[simp] theorem raise_now (s : Timed μ) : s.raise.now = s.now := by
  unfold raise
  split <;> rfl

@[simp] theorem raise_stopped (s : Timed μ) : s.raise.stopped = s.stopped := by
  unfold raise
  split <;> rfl

@[simp] theorem advance_stopped (n : Nat) (s : Timed μ) : (s.advance n).stopped = s.stopped := by
  induction n with
  | zero => rfl
  | succ n ih =>
    rw [advance, raise_stopped]
    exact ih

theorem advance_add (m n : Nat) (s : Timed μ) : s.advance (m + n) = (s.advance m).advance n := by
  induction n with
  | zero => rfl
  | succ n ih => rw [← Nat.add_assoc, advance, ih, advance]

/-- Without an activity only the time changes. -/
theorem advance_of_quiet {s : Timed μ} {n : Nat} (h : s.schedule.QuietUntil s.now (s.now + n)) :
    s.advance n = s.delay n := by
  induction n with
  | zero => rfl
  | succ n ih =>
    rw [advance, ih fun u hlo hhi => h u hlo (by omega)]
    exact raise_of_quiet (h _ (by show s.now < s.now + n + 1; omega) (Nat.le_refl _))

/-- The event loop lets exactly the remaining time pass. -/
theorem runUntil_eq_advance (fuel n : Nat) (s : Timed μ) (hfuel : n ≤ fuel) :
    s.runUntil (s.now + n) fuel = s.advance n := by
  induction fuel generalizing n s with
  | zero =>
    obtain rfl : n = 0 := by omega
    rfl
  | succ fuel ih =>
    unfold runUntil
    cases hnext : s.schedule.next s.now with
    | none => exact (advance_of_quiet (Schedule.quietUntil_of_next_none hnext _)).symm
    | some t =>
      obtain ⟨hlt, -, hquiet⟩ := s.schedule.next_some hnext
      by_cases hle : t ≤ s.now + n
      · obtain ⟨d, rfl⟩ : ∃ d, t = s.now + (d + 1) := ⟨t - s.now - 1, by omega⟩
        obtain ⟨m, rfl⟩ : ∃ m, n = d + 1 + m := ⟨n - (d + 1), by omega⟩
        have hfirst : s.advance (d + 1) = { s with now := s.now + (d + 1) }.raise := by
          rw [advance, advance_of_quiet fun u hlo hhi => hquiet u hlo (by omega)]
          rfl
        have hrest := ih m { s with now := s.now + (d + 1) }.raise (by omega)
        rw [raise_now] at hrest
        dsimp only
        rw [if_pos hle, advance_add, hfirst, ← hrest, ← Nat.add_assoc]
      · dsimp only
        rw [if_neg hle, advance_of_quiet (Schedule.quietUntil_of_lt_next hnext (by omega))]
        rfl

end Timed

/-! ## The CPU's interfaces -/

section

variable {μ : Type} [BusPort μ]

instance : BusPort (Timed μ) where
  bTransport trans s := (BusPort.bTransport trans s.dev).map fun r => (r.1, { s with dev := r.2 })
  romBank0 s := BusPort.romBank0 s.dev
  stackByte s := BusPort.stackByte s.dev
  intrEnable s := BusPort.intrEnable s.dev
  intrPending s := BusPort.intrPending s.dev
  setIntrPending v s := { s with dev := BusPort.setIntrPending v s.dev }

/-- Without an activity to come the time to it is the time that is left. -/
instance : Kernel (Timed μ) where
  wait t s := if s.stopped then .error .simulationStopped else .ok (s.runUntil (s.now + t) t)
  timeStamp s := s.now
  timeToPendingActivity s :=
    match s.schedule.next s.now with
    | some t => t - s.now
    | none => scMaxTime - s.now
  stop s := { s with stopped := true }

theorem timeToPendingActivity_some {s : Timed μ} {t : Nat} (h : s.schedule.next s.now = some t) :
    Kernel.timeToPendingActivity s = t - s.now := by
  simp only [Kernel.timeToPendingActivity, h]

theorem timeToPendingActivity_none {s : Timed μ} (h : s.schedule.next s.now = none) :
    Kernel.timeToPendingActivity s = scMaxTime - s.now := by
  simp only [Kernel.timeToPendingActivity, h]

/-- No client is connected: there is never a message, and a stop reply goes nowhere. -/
instance : Debugger (Timed μ) where
  dataAvailable _ := false
  handleMessages c := .ok c
  sendBpReached s := .ok s

end

end TlmBoy
