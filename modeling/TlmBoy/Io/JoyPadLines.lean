import TlmBoy.Bus.Slaves
import TlmBoy.Lib.History

/-
  What the guest reads from the joypad.

  `reg_p1_` holds the selection of the two lines and, below it, the nibble that was sampled last.
  `Tracks` says what a history of presses, writes and reads leaves there. A read with one line
  selected samples that line. `reads_held_iff` says when the two other kinds of read, with both
  lines selected and with none, give what the wiring gives.
-/

namespace TlmBoy

/-! ## Buttons -/

/-- The keys that `SetButton` looks at, and `other` for the rest. -/
inductive Keycode where
  | up | down | right | left | a | s | o | p | other
deriving DecidableEq, Repr

/-- The buttons that `SetButton` sets. -/
def JoyPad.setButton (sym : Keycode) (pressed : Bool) (j : JoyPad) : JoyPad :=
  match sym with
  | .up => { j with butUp := pressed }
  | .down => { j with butDown := pressed }
  | .right => { j with butRight := pressed }
  | .left => { j with butLeft := pressed }
  | .a => { j with butA := pressed }
  | .s => { j with butB := pressed }
  | .o => { j with butSelect := pressed }
  | .p => { j with butStart := pressed }
  | .other => j

namespace Gb

/-- `JoyPad::SetButton`: a press requests the joypad interrupt. -/
def setButton (sym : Keycode) (pressed : Bool) (gb : Gb) : Gb :=
  let gb := { gb with joyPad := gb.joyPad.setButton sym pressed }
  if pressed ∧ sym ≠ .other then
    { gb with regIf := ⟨fun _ => gb.regIf.data 0 ||| GbConst.kJoypadIf⟩ }
  else gb

theorem setButton_joyPad (sym : Keycode) (pressed : Bool) (gb : Gb) :
    (gb.setButton sym pressed).joyPad = gb.joyPad.setButton sym pressed := by
  unfold setButton
  dsimp only
  split <;> rfl

/-! ## The register on the bus -/

/-- The joypad's one register, as the guest addresses it. -/
def kRegP1 : U16 := 0xFF00

theorem findSlave_regP1 : findSlave kRegP1 = some ⟨0xFF00, 0xFF00, .joyPad⟩ := by decide

theorem bTransport_readP1 (gb : Gb) {t : Payload} (hadr : t.address = kRegP1)
    (hcmd : t.command = .read) : gb.bTransport t =
      .ok ({ t with address := 0, data := gb.joyPad.readReg.regP1, responseStatus := .ok },
        { gb with joyPad := gb.joyPad.readReg }) := by
  have hrel : t.address - 0xFF00 = 0 := by rw [hadr]; rfl
  apply bTransport_of_route
  rw [gb.routeTransport_mapped (by rw [hadr]; exact findSlave_regP1)]
  dsimp only
  rw [hrel, slaveTransport, JoyPad.bTransport_read (t := { t with address := 0 }) _ rfl hcmd]
  rfl

theorem bTransport_writeP1 (gb : Gb) {t : Payload} (hadr : t.address = kRegP1)
    (hcmd : t.command = .write) : gb.bTransport t =
      .ok ({ t with address := 0, responseStatus := .ok },
        { gb with joyPad := gb.joyPad.writeReg t.data }) := by
  have hrel : t.address - 0xFF00 = 0 := by rw [hadr]; rfl
  apply bTransport_of_route
  rw [gb.routeTransport_mapped (by rw [hadr]; exact findSlave_regP1)]
  dsimp only
  rw [hrel, slaveTransport, JoyPad.bTransport_write (t := { t with address := 0 }) _ rfl hcmd]
  rfl

end Gb

namespace JoyPad

/-- A button is pressed or released, or the guest writes or reads the register. -/
inductive Event where
  | button (sym : Keycode) (pressed : Bool)
  | write (v : U8)
  | read

def readP1 : Payload := { command := .read, address := Gb.kRegP1 }

def writeP1 (v : U8) : Payload := { command := .write, address := Gb.kRegP1, data := v }

def step (gb : Gb) : Event → Except Fault Gb
  | .button sym pressed => .ok (gb.setButton sym pressed)
  | .write v => (gb.bTransport (writeP1 v)).map Prod.snd
  | .read => (gb.bTransport readP1).map Prod.snd

/-! ## Histories -/

/-- The key is held after the events: its last event was a press. -/
def held (sym : Keycode) : List Event → Bool :=
  History.latest (fun e => match e with
    | .button sym' pressed => if sym' = sym then some pressed else none
    | _ => none) false

/-- The bit `i` that was written last. The power-on value of `reg_p1_` selects no line. -/
def written (i : Nat) : List Event → Bool :=
  History.latest (fun e => match e with
    | .write v => some (v.getLsbD i)
    | _ => none) true

/-- P14 selects the direction keys, P15 the button keys. A 0 selects. -/
def p14 (es : List Event) : Bool := !written 4 es

def p15 (es : List Event) : Bool := !written 5 es

/-- The direction key and the button key wired to P10, P11, P12 and P13. -/
def directionKey : Nat → Keycode
  | 0 => .right
  | 1 => .left
  | 2 => .up
  | _ => .down

def buttonKey : Nat → Keycode
  | 0 => .a
  | 1 => .s
  | 2 => .o
  | _ => .p

/-- Bit `k` as wired: 0 if a key of a selected line is held. -/
def wiredBit (es : List Event) (k : Nat) : Bool :=
  !(p14 es && held (directionKey k) es || p15 es && held (buttonKey k) es)

/-- The member that holds a key's state. -/
def isHeld (j : JoyPad) : Keycode → Bool
  | .up => j.butUp
  | .down => j.butDown
  | .right => j.butRight
  | .left => j.butLeft
  | .a => j.butA
  | .s => j.butB
  | .o => j.butSelect
  | .p => j.butStart
  | .other => false

theorem isHeld_setButton (j : JoyPad) (sym key : Keycode) (pressed : Bool) (hkey : key ≠ .other) :
    (j.setButton sym pressed).isHeld key = if sym = key then pressed else j.isHeld key := by
  cases sym <;> cases key <;> first | rfl | exact absurd rfl hkey

theorem regP1_setButton (j : JoyPad) (sym : Keycode) (pressed : Bool) :
    (j.setButton sym pressed).regP1 = j.regP1 := by
  cases sym <;> rfl

/-- The register with the nibble `b3 b2 b1 b0`, as `ReadReg` writes it. -/
def sample (b0 b1 b2 b3 : Bool) (reg : U8) : U8 :=
  setBit (setBit (setBit (setBit reg b0 0) b1 1) b2 2) b3 3

def nibbleBit (b0 b1 b2 b3 : Bool) : Nat → Bool
  | 0 => b0
  | 1 => b1
  | 2 => b2
  | _ => b3

theorem sample_bit (b0 b1 b2 b3 : Bool) (reg : U8) {i : Nat} (hi : i < 8) :
    (sample b0 b1 b2 b3 reg).getLsbD i =
      if i < 4 then nibbleBit b0 b1 b2 b3 i else reg.getLsbD i := by
  rw [sample, getLsbD_setBit _ _ _ _ hi, getLsbD_setBit _ _ _ _ hi, getLsbD_setBit _ _ _ _ hi,
    getLsbD_setBit _ _ _ _ hi]
  obtain rfl | rfl | rfl | rfl | hlt : i = 0 ∨ i = 1 ∨ i = 2 ∨ i = 3 ∨ 4 ≤ i := by omega
  · rfl
  · rfl
  · rfl
  · rfl
  · rw [if_neg (by omega), if_neg (by omega), if_neg (by omega), if_neg (by omega),
      if_neg (by omega)]

/-- The register after the first half of `ReadReg`. -/
def sampleDirections (j : JoyPad) : U8 :=
  if (!isBitSet j.regP1 4) = true then
    sample (!j.butRight) (!j.butLeft) (!j.butUp) (!j.butDown) j.regP1
  else j.regP1

theorem sampleDirections_bit (j : JoyPad) {i : Nat} (hi : i < 8) :
    j.sampleDirections.getLsbD i =
      if i < 4 ∧ j.regP1.getLsbD 4 = false then !j.isHeld (directionKey i)
      else j.regP1.getLsbD i := by
  have hkeys : nibbleBit (!j.butRight) (!j.butLeft) (!j.butUp) (!j.butDown) i =
      !j.isHeld (directionKey i) := by
    unfold directionKey nibbleBit
    split <;> rfl
  rw [sampleDirections, isBitSet_eq_getLsbD _ 4 (by decide)]
  cases j.regP1.getLsbD 4 with
  | true => rw [if_neg (by decide), if_neg (by simp)]
  | false =>
    rw [if_pos Bool.not_false, sample_bit _ _ _ _ _ hi, hkeys]
    by_cases hlt : i < 4
    · rw [if_pos hlt, if_pos ⟨hlt, rfl⟩]
    · rw [if_neg hlt, if_neg fun h => hlt h.1]

/-- Bit `i` of the register after it is read. -/
theorem readReg_bit (j : JoyPad) {i : Nat} (hi : i < 8) : j.readReg.regP1.getLsbD i =
    if i < 4 ∧ j.regP1.getLsbD 5 = false then !j.isHeld (buttonKey i)
    else if i < 4 ∧ j.regP1.getLsbD 4 = false then !j.isHeld (directionKey i)
    else j.regP1.getLsbD i := by
  have hkeys : nibbleBit (!j.butA) (!j.butB) (!j.butSelect) (!j.butStart) i =
      !j.isHeld (buttonKey i) := by
    unfold buttonKey nibbleBit
    split <;> rfl
  have h5 : j.sampleDirections.getLsbD 5 = j.regP1.getLsbD 5 := by
    rw [sampleDirections_bit j (by decide), if_neg fun h => absurd h.1 (by decide)]
  rw [← sampleDirections_bit j hi]
  show (if (!isBitSet j.sampleDirections 5) = true then
    sample (!j.butA) (!j.butB) (!j.butSelect) (!j.butStart) j.sampleDirections
    else j.sampleDirections).getLsbD i = _
  rw [isBitSet_eq_getLsbD _ 5 (by decide), h5]
  cases j.regP1.getLsbD 5 with
  | true => rw [if_neg (by decide), if_neg (by simp)]
  | false =>
    rw [if_pos Bool.not_false, sample_bit _ _ _ _ _ hi, hkeys]
    by_cases hlt : i < 4
    · rw [if_pos hlt, if_pos ⟨hlt, rfl⟩]
    · rw [if_neg hlt, if_neg fun h => hlt h.1]

theorem writeReg_line (j : JoyPad) (v : U8) {i : Nat} (hi : i = 4 ∨ i = 5) :
    (j.writeReg v).regP1.getLsbD i = v.getLsbD i := by
  rcases hi with rfl | rfl <;> simp [writeReg]

/-! ## Runs -/

/-- What the events so far leave in the joypad. -/
structure Tracks (es : List Event) (j : JoyPad) : Prop where
  keys : ∀ key, key ≠ .other → j.isHeld key = held key es
  lines : ∀ i, i = 4 ∨ i = 5 → j.regP1.getLsbD i = written i es

theorem tracks_init : Tracks [] {} where
  keys key _ := by cases key <;> rfl
  lines i hi := by rcases hi with rfl | rfl <;> rfl

theorem step_tracks {es : List Event} {gb gb' : Gb} {e : Event} (h : Tracks es gb.joyPad)
    (hstep : step gb e = .ok gb') : Tracks (es ++ [e]) gb'.joyPad := by
  cases e with
  | button sym pressed =>
    cases hstep
    rw [Gb.setButton_joyPad]
    refine ⟨fun key hkey => ?_, fun i hi => ?_⟩
    · rw [isHeld_setButton _ _ _ _ hkey, h.keys key hkey, held, History.latest_concat]
      dsimp only
      by_cases heq : sym = key
      · rw [if_pos heq, if_pos heq]
        rfl
      · rw [if_neg heq, if_neg heq]
        rfl
    · rw [regP1_setButton, h.lines i hi, written, History.latest_concat]
      rfl
  | write v =>
    rw [step, Gb.bTransport_writeP1 _ rfl rfl] at hstep
    cases hstep
    refine ⟨fun key hkey => ?_, fun i hi => ?_⟩
    · rw [held, History.latest_concat]
      exact h.keys key hkey
    · rw [writeReg_line _ _ hi, written, History.latest_concat]
      rfl
  | read =>
    rw [step, Gb.bTransport_readP1 _ rfl rfl] at hstep
    cases hstep
    refine ⟨fun key hkey => ?_, fun i hi => ?_⟩
    · rw [held, History.latest_concat]
      exact h.keys key hkey
    · have hline : gb.joyPad.readReg.regP1.getLsbD i = gb.joyPad.regP1.getLsbD i := by
        rw [readReg_bit _ (by omega), if_neg (by omega), if_neg (by omega)]
      rw [hline, h.lines i hi, written, History.latest_concat]
      rfl

theorem run_tracks {cartridge : Cartridge} {serial : Serial} {timer : Timer} {es : List Event}
    {gb : Gb} (h : es.foldlM step (Gb.init cartridge serial timer) = .ok gb) :
    Tracks es gb.joyPad :=
  History.run_induction (fun es gb => Tracks es gb.joyPad) tracks_init
    (fun _ _ _ _ h hstep => step_tracks h hstep) h

/-- The nibble that a read samples: the buttons if P15 is low, else the directions if P14 is low,
    else nothing. -/
theorem Tracks.readReg_bit {es : List Event} {j : JoyPad} (h : Tracks es j) {k : Nat} (hk : k < 4) :
    j.readReg.regP1.getLsbD k =
      if p15 es = true then !held (buttonKey k) es
      else if p14 es = true then !held (directionKey k) es
      else j.regP1.getLsbD k := by
  rw [JoyPad.readReg_bit _ (by omega), h.lines 4 (Or.inl rfl), h.lines 5 (Or.inr rfl),
    h.keys _ (by unfold buttonKey; split <;> decide),
    h.keys _ (by unfold directionKey; split <;> decide)]
  simp only [p14, p15, hk, true_and, Bool.not_eq_true']

/-- From power-on, whatever was pressed, released, written and read before, a guest read gives the
    wired nibble exactly if it has one line selected, or two and every direction key that is held
    has its button key held too, or none and the nibble of `reg_p1_` is 1111. -/
theorem reads_held_iff {cartridge : Cartridge} {serial : Serial} {timer : Timer} {es : List Event}
    {gb : Gb} (hrun : es.foldlM step (Gb.init cartridge serial timer) = .ok gb) :
    (∃ t gb', gb.bTransport readP1 = .ok (t, gb') ∧ t.responseStatus = .ok ∧
      ∀ k < 4, t.data.getLsbD k = wiredBit es k) ↔
    (p14 es = true → p15 es = true →
      ∀ k < 4, held (directionKey k) es = true → held (buttonKey k) es = true) ∧
    (p14 es = false → p15 es = false → ∀ k < 4, gb.joyPad.regP1.getLsbD k = true) := by
  have hbit : ∀ k < 4, gb.joyPad.readReg.regP1.getLsbD k = _ :=
    fun k hk => (run_tracks hrun).readReg_bit hk
  have hread := Gb.bTransport_readP1 gb (t := readP1) rfl rfl
  have hwired : (∃ t gb', gb.bTransport readP1 = .ok (t, gb') ∧ t.responseStatus = .ok ∧
      ∀ k < 4, t.data.getLsbD k = wiredBit es k) ↔
      ∀ k < 4, gb.joyPad.readReg.regP1.getLsbD k = wiredBit es k := by
    constructor
    · rintro ⟨t, gb', hbus, -, hbits⟩
      rw [hread] at hbus
      cases hbus
      exact hbits
    · intro hbits
      exact ⟨_, _, hread, rfl, hbits⟩
  rw [hwired]
  -- The four selections, each with what it samples.
  cases h14 : p14 es with
  | true =>
    cases h15 : p15 es with
    | true =>
      have hboth : ∀ k < 4, gb.joyPad.readReg.regP1.getLsbD k = wiredBit es k ↔
          (held (directionKey k) es = true → held (buttonKey k) es = true) := by
        intro k hk
        rw [hbit k hk, wiredBit, h14, h15]
        rw [if_pos rfl]
        cases held (directionKey k) es <;> cases held (buttonKey k) es <;> decide
      constructor
      · intro hbits
        exact ⟨fun _ _ k hk => (hboth k hk).mp (hbits k hk), fun h => absurd h (by decide)⟩
      · intro hcond k hk
        exact (hboth k hk).mpr (hcond.1 rfl rfl k hk)
    | false =>
      refine iff_of_true (fun k hk => ?_) ⟨fun _ h => absurd h (by decide),
        fun h => absurd h (by decide)⟩
      rw [hbit k hk, wiredBit, h14, h15]
      simp
  | false =>
    cases h15 : p15 es with
    | true =>
      refine iff_of_true (fun k hk => ?_) ⟨fun h => absurd h (by decide),
        fun _ h => absurd h (by decide)⟩
      rw [hbit k hk, wiredBit, h14, h15]
      simp
    | false =>
      have hnone : ∀ k < 4, gb.joyPad.readReg.regP1.getLsbD k = wiredBit es k ↔
          gb.joyPad.regP1.getLsbD k = true := by
        intro k hk
        rw [hbit k hk, wiredBit, h14, h15]
        simp
      constructor
      · intro hbits
        exact ⟨fun h => absurd h (by decide), fun _ _ k hk => (hnone k hk).mp (hbits k hk)⟩
      · intro hcond k hk
        exact (hnone k hk).mpr (hcond.2 rfl rfl k hk)

/-- The right key is held and the direction keys are read, then no line is selected. -/
def deselects : List Event := [.button .right true, .write 0x20, .read, .write 0x30]

theorem deselects_joyPad : (deselects.foldlM step (Gb.powerOn .blank)).map (fun gb => gb.joyPad) =
    .ok { butRight := true, regP1 := 0x3E } := by rfl

/-- With the right key held and P14 selected, P10 reads 0. -/
theorem right_key_read : ∃ gb, [Event.button .right true, .write 0x20].foldlM step
      (Gb.powerOn .blank) = .ok gb ∧
    ((∃ t gb', gb.bTransport readP1 = .ok (t, gb') ∧ t.responseStatus = .ok ∧
      ∀ k < 4, t.data.getLsbD k = wiredBit [.button .right true, .write 0x20] k) ↔
    (p14 [.button .right true, .write 0x20] = true → p15 [.button .right true, .write 0x20] = true →
      ∀ k < 4, held (directionKey k) [.button .right true, .write 0x20] = true →
        held (buttonKey k) [.button .right true, .write 0x20] = true) ∧
    (p14 [.button .right true, .write 0x20] = false →
      p15 [.button .right true, .write 0x20] = false →
        ∀ k < 4, gb.joyPad.regP1.getLsbD k = true)) :=
  ⟨_, rfl, reads_held_iff rfl⟩

/-- The nibble that was sampled for a line is still read when no line is selected. -/
theorem stale_nibble : ¬ ∀ (es : List Event) (gb : Gb),
    es.foldlM step (Gb.powerOn .blank) = .ok gb →
      ∃ t gb', gb.bTransport readP1 = .ok (t, gb') ∧ t.responseStatus = .ok ∧
        ∀ k < 4, t.data.getLsbD k = wiredBit es k := by
  intro h
  obtain ⟨gb, hgb, hjoyPad⟩ := StateExcept.map_eq_ok deselects_joyPad
  obtain ⟨t, gb', hbus, -, hbits⟩ := h deselects gb hgb
  rw [Gb.bTransport_readP1 gb rfl rfl, hjoyPad] at hbus
  cases hbus
  exact absurd (hbits 0 (by decide)) (by decide)

end JoyPad

end TlmBoy
