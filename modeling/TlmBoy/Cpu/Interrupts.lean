import TlmBoy.Cpu.MachineCycle
import TlmBoy.GbTop

/-
  The interrupt dispatch of `HandleInterrupts` on the memory system of `GbTop`.

  IE and IF are the bytes at 0xFFFF and 0xFF0F. `requested` is what is enabled and pending among
  the five interrupts; `IsLowest v k` says that bit `k` is the lowest set bit of `v`.

  * `selectIsr_of_lowest`, `selectIsr_of_none`: what the five-way selection does.
  * `handleInterrupts_serve`: the whole effect of a dispatch, `handleInterrupts_idle` and
    `handleInterrupts_disabled` the cases without one.
  * `serves_interrupts_iff`: the dispatch is as specified unless only bits are requested that
    belong to no interrupt. Then PC is pushed and IME cleared, and no vector is entered.
-/

namespace TlmBoy

namespace Cpu

/-! ## The parts of `HandleInterrupts` -/

/-- Bit `k` is the lowest set bit of `v`. -/
def IsLowest (v : U8) (k : Nat) : Prop := v.getLsbD k = true ∧ ∀ j < k, v.getLsbD j = false

theorem IsLowest.ne_zero {v : U8} {k : Nat} (h : IsLowest v k) : v ≠ 0 := by
  rintro rfl
  have hset := h.1
  have hclear : BitVec.getLsbD (0 : U8) k = false := BitVec.getLsbD_zero
  rw [hclear] at hset
  cases hset

/-- A set bit has a lowest one at or below it. -/
theorem exists_isLowest_le {v : U8} {j : Nat} (hj : v.getLsbD j = true) :
    ∃ k ≤ j, IsLowest v k := by
  have hex : ∃ k, v.getLsbD k = true := ⟨j, hj⟩
  exact ⟨Nat.find hex, Nat.find_min' hex hj, Nat.find_spec hex,
    fun i hi => Bool.eq_false_of_not_eq_true (Nat.find_min hex hi)⟩

theorem exists_isLowest {v : U8} (hv : v ≠ 0) : ∃ k, IsLowest v k := by
  by_contra hnone
  refine hv (BitVec.eq_of_getLsbD_eq fun j _ => ?_)
  rw [show BitVec.getLsbD (0 : U8) j = false from BitVec.getLsbD_zero]
  refine Bool.eq_false_of_not_eq_true fun hj => hnone ?_
  obtain ⟨k, -, hk⟩ := exists_isLowest_le hj
  exact ⟨k, hk⟩

section Selection

variable {σ : Type} [BusPort σ]

/-- The selection tests one bit after the other. -/
theorem selectIsr_eq (intr : U8) : (selectIsr intr : CpuM σ Unit) =
    if intr.getLsbD 0 then enterIsr 0x40 ((1 : U8) <<< 0)
    else if intr.getLsbD 1 then enterIsr 0x48 ((1 : U8) <<< 1)
    else if intr.getLsbD 2 then enterIsr 0x50 ((1 : U8) <<< 2)
    else if intr.getLsbD 3 then enterIsr 0x58 ((1 : U8) <<< 3)
    else if intr.getLsbD 4 then enterIsr 0x60 ((1 : U8) <<< 4)
    else pure () := by
  rw [← isBitSet_eq_getLsbD intr 0 (by decide), ← isBitSet_eq_getLsbD intr 1 (by decide),
    ← isBitSet_eq_getLsbD intr 2 (by decide), ← isBitSet_eq_getLsbD intr 3 (by decide),
    ← isBitSet_eq_getLsbD intr 4 (by decide)]
  rfl

/-- The selection enters the routine of the lowest set bit. -/
theorem selectIsr_of_lowest {intr : U8} {k : Nat} (hk : k < 5) (h : IsLowest intr k) :
    (selectIsr intr : CpuM σ Unit) = enterIsr (BitVec.ofNat 16 (0x40 + 8 * k))
      ((1 : U8) <<< k) := by
  obtain ⟨hset, hlow⟩ := h
  rw [selectIsr_eq]
  obtain rfl | rfl | rfl | rfl | rfl : k = 0 ∨ k = 1 ∨ k = 2 ∨ k = 3 ∨ k = 4 := by omega
  · rw [if_pos hset]
    rfl
  · rw [hlow 0 (by decide), if_pos hset]
    rfl
  · rw [hlow 0 (by decide), hlow 1 (by decide), if_pos hset]
    rfl
  · rw [hlow 0 (by decide), hlow 1 (by decide), hlow 2 (by decide), if_pos hset]
    rfl
  · rw [hlow 0 (by decide), hlow 1 (by decide), hlow 2 (by decide), hlow 3 (by decide),
      if_pos hset]
    rfl

/-- Without any of the five bits the selection does nothing. -/
theorem selectIsr_of_none {intr : U8} (h : ∀ j < 5, intr.getLsbD j = false) :
    (selectIsr intr : CpuM σ Unit) = pure () := by
  rw [selectIsr_eq, h 0 (by decide), h 1 (by decide), h 2 (by decide), h 3 (by decide),
    h 4 (by decide)]
  rfl

/-- IE & IF, as `HandleInterrupts` reads it. -/
def intr (c : Cpu σ) : U8 :=
  BusPort.intrEnable c.initSocket.sys &&& BusPort.intrPending c.initSocket.sys

theorem handleInterrupts_disabled (c : Cpu σ) (hime : c.intrMasterEnable = false) :
    handleInterrupts c = .ok ((), c) := by
  show (if (!c.intrMasterEnable) = true then pure () else _ : CpuM σ Unit) c = _
  rw [hime]
  rfl

theorem handleInterrupts_enabled (c : Cpu σ) (hime : c.intrMasterEnable = true) :
    handleInterrupts c =
      (if c.intr != 0 then
        setIntrMasterEnable false >>= fun _ => instrPush .pc >>= fun _ => selectIsr c.intr
      else pure () : CpuM σ Unit) c := by
  show (if (!c.intrMasterEnable) = true then pure () else _ : CpuM σ Unit) c = _
  rw [hime]
  rfl

end Selection

/-! ## The dispatch -/

/-- The interrupts that are enabled and pending, among the five that exist. -/
def requested (gb : Gb) : U8 := gb.intrEnable.data 0 &&& gb.regIf.data 0 &&& 0x1F

/-- The machine after `v` was pushed onto the cell `x`. -/
def pushedByte (c : Cpu Gb) (x : RamCell) (v : U8) (payload : Payload) : Cpu Gb :=
  { c with
    regFile := { c.regFile with sp := c.regFile.sp - 1 }
    initSocket := { c.initSocket with payload, sys := c.initSocket.sys.store x v } }

/-- The machine after PC was pushed onto the cells `x` and `y`. -/
def pushedPc (c : Cpu Gb) (x y : RamCell) (payload : Payload) : Cpu Gb :=
  { c with
    regFile := { c.regFile with sp := c.regFile.sp - 2 }
    intrMasterEnable := false
    waitNs := 16 * GbConst.kNsPerClkCycle
    initSocket := { c.initSocket with
      payload
      sys := (c.initSocket.sys.store x (msb c.regFile.pc)).store y (lsb c.regFile.pc) } }

/-- The machine in the routine of interrupt `k`: PC was pushed and replaced by the vector, IME
    and bit `k` of IF are clear, and nothing else has changed but the CPU's payload and timer. -/
def inIsr (c : Cpu Gb) (k : Nat) (x y : RamCell) (payload : Payload) : Cpu Gb :=
  let p := pushedPc c x y payload
  { p with
    regFile := { p.regFile with pc := BitVec.ofNat 16 (0x40 + 8 * k) }
    initSocket := { p.initSocket with sys := { p.initSocket.sys with
      regIf := ⟨fun _ => c.initSocket.sys.regIf.data 0 &&& ~~~((1 : U8) <<< k)⟩ } } }

theorem writeBus_ram (c : Cpu Gb) {adr : U16} {x : RamCell} (hx : ramCell adr = some x) (v : U8) :
    ∃ payload, writeBus adr v c = .ok ((), { c with initSocket := { c.initSocket with
      payload, sys := c.initSocket.sys.store x v } }) := by
  obtain ⟨payload, h⟩ := c.initSocket.sys.bTransport_write (t := { c.initSocket.payload with
    command := .write, address := adr, data := v, extension := some c.initSocket.gbcmd }) hx rfl
  refine ⟨payload, ?_⟩
  rw [writeBus, InitSocket.writeBus]
  show Except.map _ (Gb.bTransport _ _ >>= _) = _
  rw [h]
  rfl

/-- A push onto plain RAM. -/
theorem pushByte_ram (c : Cpu Gb) {x : RamCell} (hx : ramCell (c.regFile.sp - 1) = some x)
    (v : U8) : ∃ payload, pushByte v c = .ok ((), pushedByte c x v payload) :=
  writeBus_ram { c with regFile := { c.regFile with sp := c.regFile.sp - 1 } } hx v

/-- PUSH of PC onto plain RAM, after IME was cleared. -/
theorem push_pc (c : Cpu Gb) {x y : RamCell} (hx : ramCell (c.regFile.sp - 1) = some x)
    (hy : ramCell (c.regFile.sp - 2) = some y) :
    ∃ payload, instrPush .pc { c with intrMasterEnable := false } =
      .ok ((), pushedPc c x y payload) := by
  have hsp : c.regFile.sp - 1 - 1 = c.regFile.sp - 2 := by bv_omega
  obtain ⟨p, hhigh⟩ := @pushByte_ram { c with intrMasterEnable := false } x hx (msb c.regFile.pc)
  obtain ⟨p', hlow⟩ := @pushByte_ram (pushedByte { c with intrMasterEnable := false } x
    (msb c.regFile.pc) p) y (by rw [← hy, ← hsp]; rfl) (lsb c.regFile.pc)
  refine ⟨p', ?_⟩
  have hpush : instrPush .pc { c with intrMasterEnable := false } =
      (pushByte (msb c.regFile.pc) >>= fun _ => getStackReg .pc >>= fun w =>
        pushByte (lsb w) >>= fun _ => setWaitNs 16) { c with intrMasterEnable := false } := rfl
  rw [hpush, StateExcept.bind_of_ok hhigh]
  show (pushByte (lsb c.regFile.pc) >>= fun _ => setWaitNs 16) _ = _
  rw [StateExcept.bind_of_ok hlow, pushedPc, ← hsp]
  rfl

/-! ## `HandleInterrupts` -/

/-- Without an enabled and pending bit nothing happens. -/
theorem handleInterrupts_idle (c : Cpu Gb) (hime : c.intrMasterEnable = true)
    (hintr : c.initSocket.sys.intrEnable.data 0 &&& c.initSocket.sys.regIf.data 0 = 0) :
    handleInterrupts c = .ok ((), c) := by
  have hzero : c.intr = 0 := hintr
  rw [handleInterrupts_enabled c hime, hzero]
  rfl

/-- With any enabled and pending bit PC is pushed before a vector is looked for. -/
theorem handleInterrupts_push (c : Cpu Gb) (hime : c.intrMasterEnable = true)
    (hintr : c.initSocket.sys.intrEnable.data 0 &&& c.initSocket.sys.regIf.data 0 ≠ 0)
    {x y : RamCell} (hx : ramCell (c.regFile.sp - 1) = some x)
    (hy : ramCell (c.regFile.sp - 2) = some y) :
    ∃ payload, handleInterrupts c =
      selectIsr (c.initSocket.sys.intrEnable.data 0 &&& c.initSocket.sys.regIf.data 0)
        (pushedPc c x y payload) := by
  obtain ⟨payload, hpush⟩ := push_pc c hx hy
  have hne : c.intr ≠ 0 := hintr
  refine ⟨payload, ?_⟩
  rw [handleInterrupts_enabled c hime, if_pos (bne_iff_ne.mpr hne)]
  show (instrPush .pc >>= fun _ => selectIsr _) { c with intrMasterEnable := false } = _
  exact StateExcept.bind_of_ok hpush

/-- A bit below 5 of the requested interrupts is a bit of IE & IF. -/
theorem requested_getLsbD (gb : Gb) {j : Nat} (hj : j < 5) :
    (requested gb).getLsbD j = (gb.intrEnable.data 0 &&& gb.regIf.data 0).getLsbD j := by
  rw [requested, BitVec.getLsbD_and]
  obtain rfl | rfl | rfl | rfl | rfl : j = 0 ∨ j = 1 ∨ j = 2 ∨ j = 3 ∨ j = 4 := by omega
  all_goals exact Bool.and_true _

theorem IsLowest.lt_five {gb : Gb} {k : Nat} (h : IsLowest (requested gb) k) : k < 5 := by
  by_contra hk
  have hset := h.1
  rw [requested, BitVec.getLsbD_and] at hset
  have hmask : (0x1F : U8).getLsbD k = false := by
    by_cases hlt : k < 8
    · obtain rfl | rfl | rfl : k = 5 ∨ k = 6 ∨ k = 7 := by omega
      all_goals decide
    · exact BitVec.getLsbD_of_ge _ _ (by omega)
  rw [hmask, Bool.and_false] at hset
  cases hset

theorem IsLowest.intr {gb : Gb} {k : Nat} (h : IsLowest (requested gb) k) :
    IsLowest (gb.intrEnable.data 0 &&& gb.regIf.data 0) k := by
  have hk := h.lt_five
  refine ⟨?_, fun j hj => ?_⟩
  · rw [← requested_getLsbD gb hk]
    exact h.1
  · rw [← requested_getLsbD gb (by omega)]
    exact h.2 j hj

/-- The whole effect of a dispatch. -/
theorem handleInterrupts_serve (c : Cpu Gb) (hime : c.intrMasterEnable = true) {k : Nat}
    (hk : IsLowest (requested c.initSocket.sys) k) {x y : RamCell}
    (hx : ramCell (c.regFile.sp - 1) = some x) (hy : ramCell (c.regFile.sp - 2) = some y) :
    ∃ payload, handleInterrupts c = .ok ((), inIsr c k x y payload) := by
  obtain ⟨payload, hpush⟩ := handleInterrupts_push c hime hk.intr.ne_zero hx hy
  refine ⟨payload, ?_⟩
  rw [hpush, selectIsr_of_lowest hk.lt_five hk.intr]
  have hif : (pushedPc c x y payload).initSocket.sys.regIf = c.initSocket.sys.regIf := by
    rw [pushedPc, Gb.store_regIf, Gb.store_regIf]
  rw [inIsr, ← hif]
  rfl

/-- Bits 5 to 7 alone push PC and clear IME, but no routine is entered. -/
theorem handleInterrupts_stray (c : Cpu Gb) (hime : c.intrMasterEnable = true)
    (hintr : c.initSocket.sys.intrEnable.data 0 &&& c.initSocket.sys.regIf.data 0 ≠ 0)
    (hnone : requested c.initSocket.sys = 0) {x y : RamCell}
    (hx : ramCell (c.regFile.sp - 1) = some x) (hy : ramCell (c.regFile.sp - 2) = some y) :
    ∃ payload, handleInterrupts c = .ok ((), pushedPc c x y payload) := by
  obtain ⟨payload, hpush⟩ := handleInterrupts_push c hime hintr hx hy
  refine ⟨payload, ?_⟩
  rw [hpush, selectIsr_of_none]
  · rfl
  · intro j hj
    rw [← requested_getLsbD _ hj, hnone]
    exact BitVec.getLsbD_zero

/-- The pushed bytes: the high one at SP - 1, the low one at SP - 2. -/
theorem inIsr_stack (c : Cpu Gb) (k : Nat) {x y : RamCell} (payload : Payload)
    (hx : ramCell (c.regFile.sp - 1) = some x) (hy : ramCell (c.regFile.sp - 2) = some y) :
    (inIsr c k x y payload).initSocket.sys.load x = msb c.regFile.pc ∧
      (inIsr c k x y payload).initSocket.sys.load y = lsb c.regFile.pc := by
  have hsp : c.regFile.sp - 2 = c.regFile.sp - 1 - 1 := by bv_omega
  have hne : x ≠ y := ramCell_ne_of_pred hx (hsp ▸ hy)
  have hload : ∀ z, (inIsr c k x y payload).initSocket.sys.load z =
      ((c.initSocket.sys.store x (msb c.regFile.pc)).store y (lsb c.regFile.pc)).load z := by
    intro z
    cases z <;> rfl
  rw [hload, hload, Gb.load_store, Gb.load_store, Gb.load_store, if_neg hne, if_pos rfl, if_pos rfl]
  exact ⟨rfl, rfl⟩

/-- What `HandleInterrupts` is for, with the cells below SP given. With IME set and an interrupt
    requested, the routine of the lowest one is entered; otherwise nothing happens. -/
def ServesInterrupts (c : Cpu Gb) (x y : RamCell) : Prop :=
  ∃ c', handleInterrupts c = .ok ((), c') ∧
    if c.intrMasterEnable = true ∧ requested c.initSocket.sys ≠ 0 then
      ∃ k payload, IsLowest (requested c.initSocket.sys) k ∧ c' = inIsr c k x y payload ∧
        c'.initSocket.sys.load x = msb c.regFile.pc ∧ c'.initSocket.sys.load y = lsb c.regFile.pc
    else c' = c

/-- `HandleInterrupts` does what it is for unless IME is set and IE & IF has bits of 5 to 7 only. -/
theorem serves_interrupts_iff (c : Cpu Gb) (x y : RamCell)
    (hx : ramCell (c.regFile.sp - 1) = some x) (hy : ramCell (c.regFile.sp - 2) = some y) :
    ServesInterrupts c x y ↔
      ¬ (c.intrMasterEnable = true ∧
        c.initSocket.sys.intrEnable.data 0 &&& c.initSocket.sys.regIf.data 0 ≠ 0 ∧
        c.initSocket.sys.intrEnable.data 0 &&& c.initSocket.sys.regIf.data 0 &&& 0x1F = 0) := by
  constructor
  · rintro ⟨c', hrun, hspec⟩ ⟨hime, hintr, hnone⟩
    rw [if_neg fun h => h.2 hnone] at hspec
    obtain ⟨payload, hstray⟩ := handleInterrupts_stray c hime hintr hnone hx hy
    rw [hrun, hspec] at hstray
    injection hstray with hstray
    have hoff : c.intrMasterEnable = false :=
      congrArg (fun r : Unit × Cpu Gb => r.2.intrMasterEnable) hstray
    rw [hime] at hoff
    cases hoff
  · intro hcond
    rcases Bool.eq_false_or_eq_true c.intrMasterEnable with hime | hime
    · by_cases hreq : requested c.initSocket.sys = 0
      · have hzero : c.initSocket.sys.intrEnable.data 0 &&& c.initSocket.sys.regIf.data 0 = 0 := by
          by_contra hintr
          exact hcond ⟨hime, hintr, hreq⟩
        refine ⟨c, handleInterrupts_idle c hime hzero, ?_⟩
        rw [if_neg fun h => h.2 hreq]
      · obtain ⟨k, hk⟩ := exists_isLowest hreq
        obtain ⟨payload, hserve⟩ := handleInterrupts_serve c hime hk hx hy
        refine ⟨_, hserve, ?_⟩
        rw [if_pos ⟨hime, hreq⟩]
        exact ⟨k, payload, hk, rfl, inIsr_stack c k payload hx hy⟩
    · refine ⟨c, handleInterrupts_disabled c hime, ?_⟩
      rw [if_neg fun h => by rw [hime] at h; cases h.1]

/-- A machine with a zeroed ROM, IME set, PC at 0x150 and SP in work memory. -/
def interruptible (ie pending : U8) : Cpu Gb :=
  { regFile := { pc := 0x150, sp := 0xDFFE }
    intrMasterEnable := true
    initSocket :=
      { payload := {}
        gbcmd := .gbReadInst
        hasRomBank0 := true
        sys := { Gb.init (.rom (.init (fun _ => 0) (fun _ => 0) (fun _ => 0) false))
            { ongoingTransmission := false, regSc := 0 }
            { regDiv := 0, regTac := 0, regTima := 0, regTma := 0 } with
          intrEnable := ⟨fun _ => ie⟩
          regIf := ⟨fun _ => pending⟩ } } }

/-- With timer and joypad requested the timer's routine is entered. -/
theorem serves_timer_first :
    ServesInterrupts (interruptible 0x1F 0x14) (.workRamN 0xFFD) (.workRamN 0xFFC) ∧
      IsLowest (requested (interruptible 0x1F 0x14).initSocket.sys) 2 :=
  ⟨(serves_interrupts_iff (interruptible 0x1F 0x14) _ _ (by decide) (by decide)).mpr
    fun h => absurd h.2.2 (by decide), by decide, by decide⟩

/-- With bit 5 of IE and IF set PC is pushed and IME cleared, but no interrupt is requested. -/
theorem bit_5_pushes_pc :
    ¬ ServesInterrupts (interruptible 0x20 0x20) (.workRamN 0xFFD) (.workRamN 0xFFC) := by
  rintro ⟨c', hrun, hspec⟩
  have hc : c' = interruptible 0x20 0x20 := by
    rwa [if_neg fun h => h.2 (by decide)] at hspec
  have hsp : (handleInterrupts (interruptible 0x20 0x20)).map (fun r => r.2.regFile.sp) =
      .ok 0xDFFC := by rfl
  rw [hrun, hc] at hsp
  injection hsp with hsp
  exact absurd hsp (by decide)

end Cpu

end TlmBoy
