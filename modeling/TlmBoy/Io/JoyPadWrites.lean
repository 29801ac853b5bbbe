import TlmBoy.Io.JoyPadLines

/-
  What the guest's writes do to `reg_p1_`.

  Writes should replace the upper nibble and leave the inputs below it alone. The mask of the
  written byte is 0b1111000, which is shifted by one place: bit 7 is dropped and bit 3 is set in
  the inputs. `writes_right_iff` says in which runs that does not show.
-/

namespace TlmBoy

namespace JoyPad

/-- The byte has no bit in place 7, and one in place 3 only where the register has it too. -/
def WriteFits (d : U8) (j : JoyPad) : Prop :=
  d.getLsbD 7 = false ∧ (d.getLsbD 3 = true → j.regP1.getLsbD 3 = true)

/-- The upper nibble is that of the written byte, the inputs are those of before. -/
def WriteRight (d : U8) (j j' : JoyPad) : Prop :=
  ∀ i < 8, j'.regP1.getLsbD i = if i < 4 then j.regP1.getLsbD i else d.getLsbD i

theorem writeReg_bit (j : JoyPad) (d : U8) (i : Nat) : (j.writeReg d).regP1.getLsbD i =
    (j.regP1.getLsbD i && decide (i < 4) || d.getLsbD i && decide (3 ≤ i ∧ i < 7)) := by
  have hlow : (0b00001111 : U8).getLsbD i = decide (i < 4) := by
    rcases Nat.lt_or_ge i 8 with hi | hi
    · interval_cases i <;> rfl
    · rw [BitVec.getLsbD_of_ge _ _ hi, eq_comm, decide_eq_false_iff_not]
      omega
  have hmid : (0b1111000 : U8).getLsbD i = decide (3 ≤ i ∧ i < 7) := by
    rcases Nat.lt_or_ge i 8 with hi | hi
    · interval_cases i <;> rfl
    · rw [BitVec.getLsbD_of_ge _ _ hi, eq_comm, decide_eq_false_iff_not]
      omega
  rw [writeReg, BitVec.getLsbD_or, BitVec.getLsbD_and, BitVec.getLsbD_and, hlow, hmid]

theorem writeRight_iff (d : U8) (j : JoyPad) : WriteRight d j (j.writeReg d) ↔ WriteFits d j := by
  constructor
  · intro h
    have h7 := h 7 (by decide)
    have h3 := h 3 (by decide)
    rw [writeReg_bit] at h7 h3
    simp at h7 h3
    exact ⟨h7, h3⟩
  · intro ⟨h7, h3⟩ i hi
    rw [writeReg_bit]
    obtain hlt | rfl | ⟨hlo, hhi⟩ | rfl : i < 3 ∨ i = 3 ∨ (4 ≤ i ∧ i < 7) ∨ i = 7 := by omega
    · simp [show i < 4 by omega, show ¬ 3 ≤ i by omega]
    · simpa using h3
    · simp [show ¬ i < 4 by omega, show 3 ≤ i by omega, hhi]
    · simpa using h7

/-! ## Runs -/

/-- A write is right, and no event but a read changes the inputs. -/
def StepRight (j j' : JoyPad) : Event → Prop
  | .write d => WriteRight d j j'
  | .button _ _ => ∀ i < 4, j'.regP1.getLsbD i = j.regP1.getLsbD i
  | .read => True

/-- Every step of the run is right. -/
def RunRight (gb : Gb) (es : List Event) : Prop :=
  ∀ pre e suf m m', es = pre ++ e :: suf → pre.foldlM step gb = .ok m → step m e = .ok m' →
    StepRight m.joyPad m'.joyPad e

theorem step_write (gb : Gb) (d : U8) :
    step gb (.write d) = .ok { gb with joyPad := gb.joyPad.writeReg d } := by
  rw [step, Gb.bTransport_writeP1 _ rfl rfl]
  rfl

theorem stepRight_iff {gb gb' : Gb} {e : Event} (h : step gb e = .ok gb') :
    StepRight gb.joyPad gb'.joyPad e ↔ ∀ d, e = .write d → WriteFits d gb.joyPad := by
  cases e with
  | button sym pressed =>
    cases h
    refine iff_of_true (fun i _ => ?_) nofun
    rw [Gb.setButton_joyPad, regP1_setButton]
  | write d =>
    rw [step_write] at h
    cases h
    constructor
    · intro hright d' hd
      cases hd
      exact (writeRight_iff d gb.joyPad).mp hright
    · intro hfits
      exact (writeRight_iff d gb.joyPad).mpr (hfits d rfl)
  | read => exact iff_of_true trivial nofun

/-- In every run of the joypad, from every state, the writes affect the upper nibble alone if and
    only if each of them has bit 7 clear, and bit 3 clear where the register has it clear. -/
theorem writes_right_iff (gb : Gb) (es : List Event) :
    RunRight gb es ↔ ∀ pre d suf m, es = pre ++ .write d :: suf → pre.foldlM step gb = .ok m →
      WriteFits d m.joyPad := by
  constructor
  · intro h pre d suf m hes hm
    have hstep := step_write m d
    exact (stepRight_iff hstep).mp (h pre _ suf m _ hes hm hstep) d rfl
  · intro h pre e suf m m' hes hm hstep
    refine (stepRight_iff hstep).mpr fun d hd => ?_
    subst hd
    exact h pre d suf m hes hm

/-- In a run that is right and reads nothing, the inputs stay as they are. -/
theorem RunRight.inputs {gb gb' : Gb} {es : List Event} (h : RunRight gb es)
    (hrun : es.foldlM step gb = .ok gb') (hreads : ∀ e ∈ es, e ≠ .read) :
    ∀ i < 4, gb'.joyPad.regP1.getLsbD i = gb.joyPad.regP1.getLsbD i := by
  have hguard : ∀ pre e suf m, es = pre ++ e :: suf → pre.foldlM step gb = .ok m →
      e ≠ .read ∧ ∀ m', step m e = .ok m' → StepRight m.joyPad m'.joyPad e := by
    intro pre e suf m hes hm
    exact ⟨hreads e (by simp [hes]), fun m' hstep => h pre e suf m m' hes hm hstep⟩
  have hkeep : ∀ (m : Gb) (e : Event) (m' : Gb),
      (e ≠ .read ∧ ∀ m', step m e = .ok m' → StepRight m.joyPad m'.joyPad e) →
      step m e = .ok m' → (∀ i < 4, m.joyPad.regP1.getLsbD i = gb.joyPad.regP1.getLsbD i) →
        ∀ i < 4, m'.joyPad.regP1.getLsbD i = gb.joyPad.regP1.getLsbD i := by
    intro m e m' ⟨hread, hright⟩ hstep hm i hi
    have hnow := hright m' hstep
    rw [← hm i hi]
    cases e with
    | button sym pressed => exact hnow i hi
    | write d => exact (hnow i (by omega)).trans (if_pos hi)
    | read => exact absurd rfl hread
  exact History.run_guarded _ hkeep hrun hguard fun _ _ => rfl

/-- Down is held and read. -/
def readsDown : List Event := [.button .down true, .write 0x20, .read]

theorem readsDown_reg : (readsDown.foldlM step (Gb.powerOn .blank)).map
    (fun gb => gb.joyPad.regP1) = .ok 0x27 := by rfl

/-- A write of 0x38 sets the input of the key that is held. -/
theorem write_sets_input : ¬ ∀ (gb : Gb) (es : List Event), RunRight gb es := by
  intro h
  obtain ⟨m, hm, hreg⟩ := StateExcept.map_eq_ok readsDown_reg
  have hright := h (Gb.powerOn .blank) (readsDown ++ [.write 0x38]) readsDown _ [] m _ rfl hm
    (step_write m 0x38)
  have hinput := hright 3 (by decide)
  rw [writeReg_bit, hreg] at hinput
  exact absurd hinput (by decide)

end JoyPad

end TlmBoy
