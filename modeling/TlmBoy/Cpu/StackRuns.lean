import TlmBoy.Cpu.Breakpoints
import TlmBoy.Cpu.Stack
import TlmBoy.Lib.Lifo

/-
  Memory and SP as a last-in-first-out stack, over runs of machine cycles.

  A cycle pushes PC if an interrupt is dispatched and then executes one instruction of the
  stack. `cycleEvents` is what that pushes and pops: what is pushed is read off the registers
  before the instruction, what is popped is observed in the registers after it. `Represents` is
  the invariant: the entries that are not popped yet lie one above the other, the last one at SP.

  The instructions are those that the run fetches, so the stack may even overwrite its program.
-/

namespace TlmBoy

open Lifo

/-! ## Words in memory -/

/-- The words from `sp` upwards, low byte first. -/
def HoldsWords (m : U16 → Option U8) (sp : U16) : List U16 → Prop
  | [] => True
  | w :: live => (InStackRam sp ∧ m sp = some (lsb w)) ∧
      (InStackRam (sp + 1) ∧ m (sp + 1) = some (msb w)) ∧ HoldsWords m (sp + 2) live

namespace HoldsWords

variable {m m' : U16 → Option U8} {sp : U16} {live : List U16}

theorem add_two (sp : U16) (k : Nat) :
    sp + BitVec.ofNat 16 (k + 2) = sp + 2 + BitVec.ofNat 16 k := by
  rw [BitVec.ofNat_add, BitVec.add_comm (BitVec.ofNat 16 k), ← BitVec.add_assoc]
  rfl

theorem inStackRam (h : HoldsWords m sp live) :
    ∀ k, k < 2 * live.length → InStackRam (sp + BitVec.ofNat 16 k) := by
  induction live generalizing sp with
  | nil =>
    intro k hk
    simp at hk
  | cons w live ih =>
    obtain ⟨⟨hlow, -⟩, ⟨hhigh, -⟩, hrest⟩ := h
    intro k hk
    match k with
    | 0 => simpa using hlow
    | 1 => exact hhigh
    | k + 2 =>
      rw [add_two]
      simp only [List.length_cons] at hk
      exact ih hrest k (by omega)

theorem congr (h : HoldsWords m sp live) (hm : ∀ k, k < 2 * live.length →
    m' (sp + BitVec.ofNat 16 k) = m (sp + BitVec.ofNat 16 k)) : HoldsWords m' sp live := by
  induction live generalizing sp with
  | nil => trivial
  | cons w live ih =>
    obtain ⟨⟨hin, hlow⟩, ⟨hin', hhigh⟩, hrest⟩ := h
    simp only [List.length_cons] at hm
    have h0 := hm 0 (by omega)
    have h1 := hm 1 (by omega)
    rw [show sp + BitVec.ofNat 16 0 = sp by simp] at h0
    refine ⟨⟨hin, h0.trans hlow⟩, ⟨hin', h1.trans hhigh⟩, ih hrest fun k hk => ?_⟩
    have hk2 := hm (k + 2) (by omega)
    rwa [add_two] at hk2

/-- The words do not reach round to the two bytes below `sp`: address 0 would lie among them. -/
theorem below (h : HoldsWords m sp live) {k : Nat} (hk : k < 2 * live.length) :
    sp + BitVec.ofNat 16 k ≠ sp - 1 ∧ sp + BitVec.ofNat 16 k ≠ sp - 2 := by
  have hsize : 2 * live.length ≤ (-sp).toNat := by
    by_contra hlt
    have hzero := h.inStackRam (-sp).toNat (by omega)
    rw [BitVec.ofNat_toNat, BitVec.setWidth_eq, BitVec.add_right_neg] at hzero
    exact absurd hzero (by decide)
  have hlt := (-sp).isLt
  have hk16 : (BitVec.ofNat 16 k).toNat = k := by
    rw [BitVec.toNat_ofNat]
    exact Nat.mod_eq_of_lt (by omega)
  constructor
  · intro heq
    have hoff : BitVec.ofNat 16 k = 65535 := by bv_omega
    rw [hoff] at hk16
    simp at hk16
    omega
  · intro heq
    have hoff : BitVec.ofNat 16 k = 65534 := by bv_omega
    rw [hoff] at hk16
    simp at hk16
    omega

end HoldsWords

namespace Cpu

/-! ## The parts of a cycle -/

section Head

variable {σ : Type} [BusPort σ] [Kernel σ] [Debugger σ]

/-- Without a message the head of the loop is the dispatch. -/
theorem handleInterrupts_of_head {c s : Cpu σ}
    (hmsg : (c.gdbServer.isAttached && Debugger.dataAvailable c.initSocket.sys) = false)
    (hhead : cycleHead c = .ok (true, s)) :
    handleInterrupts { c with waitNs := 0 } = .ok ((), s) := by
  have hpoll : pollMessages c = .ok ((), c) := by
    rw [pollMessages, StateExcept.bind_of_ok (isMsgPending_eq c), hmsg]
    rfl
  rw [cycleHead, StateExcept.bind_of_ok hpoll] at hhead
  obtain ⟨hrun, hbp, -⟩ := fetch_cases hhead
  rw [headAfterMessages_go c hrun hbp] at hhead
  obtain ⟨u, d, hintr, hpure⟩ := StateExcept.bind_eq_ok hhead
  cases hpure
  exact hintr

/-- A cycle that fetches an instruction executes it and accounts for its time. -/
theorem cycle_of_fetches {fuel : Nat} {b : U8} {c t c' : Cpu σ} (hb : b ≠ 0xCB)
    (hfetch : Fetches c b t) (h : cycle fuel c = .ok c') :
    ∃ u, execute fuel (jumpTable b) t = .ok ((), u) ∧ accountTime u = .ok ((), c') := by
  obtain ⟨⟨_, d⟩, hrun, rfl⟩ := StateExcept.map_eq_ok h
  obtain ⟨s, hhead, hbyte⟩ := hfetch
  rw [machineCycle, StateExcept.bind_of_ok hhead, if_pos rfl, StateExcept.bind_of_ok hbyte] at hrun
  obtain ⟨_, u, hexecute, haccount⟩ := StateExcept.bind_eq_ok hrun
  rw [decodeExecute, if_neg hb] at hexecute
  exact ⟨u, hexecute, haccount⟩

end Head

variable {σ : Type} [BusPort σ] [Kernel σ] [HasGb σ]

/-- The accounting of time changes neither the registers nor the stack: the other processes that
    run meanwhile do not write to it. -/
theorem accountTime_same {u c' : Cpu σ} (h : accountTime u = .ok ((), c')) :
    c'.regFile = u.regFile ∧ SameStack u c' := by
  obtain ⟨_, u₁, hadd, h⟩ := StateExcept.bind_eq_ok h
  cases hadd
  obtain ⟨_, u₂, hget, h⟩ := StateExcept.bind_eq_ok h
  cases hget
  dsimp only at h
  split at h
  · obtain ⟨_, u₃, hwait, h⟩ := StateExcept.bind_eq_ok h
    cases h
    obtain ⟨sys, hsys, he⟩ := StateExcept.map_eq_ok hwait
    cases he
    exact ⟨rfl, rfl, fun adr hadr => HasGb.wait_gb hsys hadr⟩
  · cases h
    exact ⟨rfl, rfl, fun adr _ => rfl⟩

/-! ## The invariant -/

/-- `c` after the history `es` on a stack that started at `base`: SP is below the start by two for
    each entry that is not popped yet, and those entries lie above it. -/
def Represents (base : U16) (es : List (Event U16)) (c : Cpu σ) : Prop :=
  ∃ live, Replays es [] live ∧ c.regFile.sp = base - BitVec.ofNat 16 (2 * live.length) ∧
    HoldsWords c.mem c.regFile.sp live

namespace Represents

variable {base : U16} {es : List (Event U16)} {c c' : Cpu σ}

theorem same (h : Represents base es c) (hsame : SameStack c c') : Represents base es c' := by
  obtain ⟨live, hreplays, hsp, hwords⟩ := h
  refine ⟨live, hreplays, hsame.1.trans hsp, ?_⟩
  rw [hsame.1]
  exact hwords.congr fun k hk => hsame.2 _ (hwords.inStackRam k hk)

/-- A push: the word lies on top, and the entries below it are untouched. -/
theorem push {w : U16} (h : Represents base es c) (hpushed : Pushed w c c')
    (hhigh : InStackRam (c.regFile.sp - 1)) (hlow : InStackRam (c.regFile.sp - 2)) :
    Represents base (es ++ [.push w]) c' := by
  obtain ⟨live, hreplays, hsp, hwords⟩ := h
  have hback : c.regFile.sp - 2 + 1 = c.regFile.sp - 1 := by bv_omega
  have hback2 : c.regFile.sp - 2 + 2 = c.regFile.sp := by bv_omega
  have hne : c.regFile.sp - 2 ≠ c.regFile.sp - 1 := by bv_omega
  refine ⟨w :: live, hreplays.concat_push w, ?_, ?_⟩
  · rw [hpushed.sp, hsp, List.length_cons, Nat.mul_add, BitVec.ofNat_add]
    bv_omega
  · rw [hpushed.sp]
    refine ⟨⟨hlow, ?_⟩, ⟨by rwa [hback], ?_⟩, ?_⟩
    · rw [hpushed.mem _ hlow, if_neg hne, if_pos rfl]
    · rw [hback, hpushed.mem _ hhigh, if_pos rfl]
    · rw [hback2]
      refine hwords.congr fun k hk => ?_
      obtain ⟨hne1, hne2⟩ := hwords.below hk
      rw [hpushed.mem _ (hwords.inStackRam k hk), if_neg hne1, if_neg hne2]

/-- A pop: the word was the most recent entry. -/
theorem pop {w : U16} {observed : U16 → Prop} (h : Represents base es c) (hpopped : Popped w c c')
    (hobserved : observed w) (hcount : NeverUnderflows (es ++ [.pop observed])) :
    Represents base (es ++ [.pop observed]) c' := by
  obtain ⟨live, hreplays, hsp, hwords⟩ := h
  cases live with
  | nil =>
    have hlength := hreplays.length_add
    have hlast := hcount _ (List.prefix_refl _)
    simp only [pops_append, pushes_append, pops, pushes, List.length_nil] at hlength hlast
    omega
  | cons v live =>
    obtain ⟨⟨-, hlow⟩, ⟨-, hhigh⟩, hrest⟩ := hwords
    have hlsb : lsb w = lsb v := Option.some.inj (hpopped.low.symm.trans hlow)
    have hmsb : msb w = msb v := Option.some.inj (hpopped.high.symm.trans hhigh)
    have hword : w = v := by rw [← msb_append_lsb w, ← msb_append_lsb v, hmsb, hlsb]
    refine ⟨live, hreplays.concat_pop (hword ▸ hobserved), ?_, ?_⟩
    · rw [hpopped.sp, hsp, List.length_cons, Nat.mul_add, BitVec.ofNat_add]
      bv_omega
    · rw [hpopped.sp]
      exact hrest.congr fun k _ => hpopped.mem _

end Represents

/-! ## One cycle -/

/-- The history of an instruction that ends with the registers `rf`. -/
def useEvents (use : StackUse) (rf : RegFile) : List (Event U16) :=
  match use with
  | .pushes w => [.push w]
  | .pops shows => [.pop (shows rf)]
  | .leaves => []

/-- The history of a dispatch in `c`, if there is one. -/
def dispatchEvents (c : Cpu σ) : List (Event U16) :=
  if c.Interrupted then [.push c.regFile.pc] else []

section Cycle

variable [Debugger σ]

/-- A machine cycle of the stack, from `c` to `c'`: no message of the debugger is handled, the
    instruction that is fetched uses the stack as `use` says, it is entered in the state `t`, and
    what is accessed through SP lies in work RAM or high RAM. -/
structure StackCycle (fuel : Nat) (c : Cpu σ) (use : StackUse) (t c' : Cpu σ) : Prop where
  noMessage : (c.gdbServer.isAttached && Debugger.dataAvailable c.initSocket.sys) = false
  fetches : ∃ b, b ≠ 0xCB ∧ Fetches c b t ∧ (jumpTable b).stackUse t.regFile = some use
  dispatchRam : c.Interrupted → InStackRam (c.regFile.sp - 1) ∧ InStackRam (c.regFile.sp - 2)
  ram : ∀ adr ∈ use.touched t.regFile.sp, InStackRam adr
  ends : cycle fuel c = .ok c'

/-- The runs of the stack, with their histories. -/
inductive StackRun (fuel : Nat) (c₀ : Cpu σ) : List (Event U16) → Cpu σ → Prop where
  | start : StackRun fuel c₀ [] c₀
  | cycle {es : List (Event U16)} {c t c' : Cpu σ} {use : StackUse}
      (hrun : StackRun fuel c₀ es c) (hcycle : StackCycle fuel c use t c') :
      StackRun fuel c₀ (es ++ (dispatchEvents c ++ useEvents use c'.regFile)) c'

variable {fuel : Nat} {base : U16} {es : List (Event U16)} {c₀ c t c' : Cpu σ} {use : StackUse}

/-- The head of a cycle pushes PC if it dispatches an interrupt, and does nothing otherwise. -/
theorem StackCycle.dispatched (h : StackCycle fuel c use t c') {s : Cpu σ}
    (hhead : cycleHead c = .ok (true, s)) (hrep : Represents base es c) :
    Represents base (es ++ dispatchEvents c) s := by
  have hintr := handleInterrupts_of_head h.noMessage hhead
  have hclear : SameStack c { c with waitNs := 0 } := ⟨rfl, fun adr _ => rfl⟩
  by_cases hdispatch : c.Interrupted
  · obtain ⟨hhigh, hlow⟩ := h.dispatchRam hdispatch
    obtain ⟨d, hd, hpushed⟩ :=
      @handleInterrupts_pushed σ _ _ _ { c with waitNs := 0 } hdispatch hhigh hlow
    rw [hintr] at hd
    cases hd
    rw [dispatchEvents, if_pos hdispatch]
    exact hrep.push (hpushed.of_same hclear) hhigh hlow
  · rw [@handleInterrupts_still σ _ { c with waitNs := 0 } hdispatch] at hintr
    cases hintr
    rw [dispatchEvents, if_neg hdispatch, List.append_nil]
    exact hrep.same hclear

/-- The step: a cycle keeps the invariant. -/
theorem StackCycle.represents (h : StackCycle fuel c use t c') (hrep : Represents base es c)
    (hcount : NeverUnderflows (es ++ (dispatchEvents c ++ useEvents use c'.regFile))) :
    Represents base (es ++ (dispatchEvents c ++ useEvents use c'.regFile)) c' := by
  obtain ⟨b, hb, hfetches, huse⟩ := h.fetches
  obtain ⟨u, hexecute, haccount⟩ := cycle_of_fetches hb hfetches h.ends
  obtain ⟨s, hhead, hfetch⟩ := hfetches
  obtain ⟨hregs, hmem⟩ := fetchNextInstrByte_mem hfetch
  obtain ⟨hregs', hsame'⟩ := accountTime_same haccount
  obtain ⟨u', hu', heffect⟩ :=
    execute_stackUse fuel huse h.ram (operandReadable_of_execute hexecute)
  rw [hexecute] at hu'
  cases hu'
  have hsame : SameStack s t := ⟨by rw [hregs]; rfl, fun adr _ => hmem adr⟩
  have ht := (h.dispatched hhead hrep).same hsame
  rw [hregs'] at hcount ⊢
  rw [← List.append_assoc] at hcount ⊢
  refine Represents.same ?_ hsame'
  cases use with
  | pushes w =>
    obtain ⟨hhigh, hlow⟩ := StackUse.pushes_ram h.ram
    exact ht.push heffect hhigh hlow
  | pops shows =>
    obtain ⟨w, hpopped, hshows⟩ := heffect
    exact ht.pop hpopped hshows hcount
  | leaves =>
    rw [useEvents, List.append_nil]
    exact ht.same ⟨heffect.1, fun adr _ => heffect.2 adr⟩

/-- The run: every run of the stack keeps the invariant. -/
theorem StackRun.represents (h : StackRun fuel c₀ es c) (hcount : NeverUnderflows es) :
    Represents c₀.regFile.sp es c := by
  induction h with
  | start => exact ⟨[], .nil [], by simp, trivial⟩
  | cycle hrun hcycle ih => exact hcycle.represents (ih hcount.left) hcount

/-- Memory and SP are a stack of words. After a run with never more pops than pushes, the entries
    that were not popped yet lie above SP, two bytes each, and every pop has yielded the most
    recent entry of its time. An instruction of the stack returns once its operand is fetched, and
    one whose condition does not hold leaves SP and memory alone. -/
theorem stack_is_lifo (hrun : StackRun fuel c₀ es c) (hcount : NeverUnderflows es) :
    (∃ live, Replays es [] live ∧
      c.regFile.sp = c₀.regFile.sp - BitVec.ofNat 16 (2 * live.length) ∧
      HoldsWords c.mem c.regFile.sp live) ∧
    (∀ pre w mid observed post, es = pre ++ .push w :: (mid ++ .pop observed :: post) →
      Balanced mid → observed w) ∧
    (∀ (instr : Instr) (use : StackUse) (t : Cpu σ), instr.stackUse t.regFile = some use →
      (∀ adr ∈ use.touched t.regFile.sp, InStackRam adr) → OperandReadable instr t →
        ∃ u, execute fuel instr t = .ok ((), u)) ∧
    ∀ (instr : Instr) (t u : Cpu σ), instr.stackUse t.regFile = some .leaves →
      execute fuel instr t = .ok ((), u) →
        u.regFile.sp = t.regFile.sp ∧ ∀ adr, u.mem adr = t.mem adr := by
  obtain ⟨live, hreplays, hsp, hwords⟩ := hrun.represents hcount
  refine ⟨⟨live, hreplays, hsp, hwords⟩, ?_, ?_, ?_⟩
  · intro pre w mid observed post hes hmid
    subst hes
    exact hreplays.matched hmid
  · intro instr use t huse hram hoperand
    obtain ⟨u, hexecute, -⟩ := execute_stackUse fuel huse hram hoperand
    exact ⟨u, hexecute⟩
  · intro instr t u huse hexecute
    obtain ⟨u', hu', heffect⟩ := execute_stackUse fuel huse (fun adr hadr => by cases hadr)
      (operandReadable_of_execute hexecute)
    rw [hexecute] at hu'
    cases hu'
    exact heffect

end Cycle

/-- A machine at 0x150 with the V-Blank requested, whose routine is a RETI. -/
def returnsAtOnce : Cpu (Timed Gb) :=
  { regFile := { pc := 0x150, sp := 0xDFFE }
    intrMasterEnable := true
    initSocket :=
      { payload := {}
        gbcmd := .gbReadInst
        hasRomBank0 := true
        sys :=
          { now := 0
            schedule := .once 10000 0
            stopped := false
            dev := { Gb.init (.rom (.init (fun i => if i.val = 0x40 then 0xD9 else 0)
                  (fun _ => 0) (fun _ => 0) false))
                { ongoingTransmission := false, regSc := 0 }
                { regDiv := 0, regTac := 0, regTima := 0, regTma := 0 } with
              intrEnable := ⟨fun _ => 1⟩
              regIf := ⟨fun _ => 1⟩ } } } }

/-- Its first cycle dispatches the interrupt and returns from it to 0x150. -/
theorem returns_to_pushed_pc : ∃ c, StackRun 0 returnsAtOnce
    [.push 0x150, .pop fun w => c.regFile.pc = w] c ∧ c.regFile.pc = 0x150 := by
  have hrun : (cycle 0 returnsAtOnce).map (fun d => d.regFile.sp) = .ok 0xDFFE := by rfl
  have hhead : (cycleHead returnsAtOnce).map Prod.fst = .ok true := by rfl
  have hbyte : (cycleHead returnsAtOnce >>= fun r => fetchNextInstrByte r.2).map
      (fun r => (r.1, r.2.regFile.sp)) = .ok (0xD9, 0xDFFC) := by rfl
  obtain ⟨c, hc, -⟩ := StateExcept.map_eq_ok hrun
  obtain ⟨⟨_, s⟩, hs, hgo⟩ := StateExcept.map_eq_ok hhead
  cases hgo
  rw [hs] at hbyte
  obtain ⟨⟨b, t⟩, ht, hfetched⟩ := StateExcept.map_eq_ok hbyte
  obtain ⟨rfl, hsp⟩ := Prod.mk.inj hfetched
  have hcycle : StackCycle 0 returnsAtOnce (.pops fun rf w => rf.pc = w) t c :=
    { noMessage := rfl
      fetches := ⟨0xD9, by decide, ⟨s, hs, ht⟩, rfl⟩
      dispatchRam := fun _ => by
        show InStackRam (0xDFFE - 1) ∧ InStackRam (0xDFFE - 2)
        decide
      ram := by
        rw [hsp]
        exact List.forall_mem_cons.mpr ⟨by decide, List.forall_mem_cons.mpr
          ⟨by decide, List.forall_mem_nil _⟩⟩
      ends := hc }
  have hevents : StackRun 0 returnsAtOnce [.push 0x150, .pop fun w => c.regFile.pc = w] c :=
    .cycle .start hcycle
  have hcount : NeverUnderflows [.push 0x150, .pop fun w => c.regFile.pc = w] :=
    (NeverUnderflows.nil.concat (e := .push 0x150) (Nat.zero_le 1)).concat (Nat.le_refl 1)
  exact ⟨c, hevents, (stack_is_lifo hevents hcount).2.1 [] 0x150 [] _ [] rfl ⟨.nil, rfl⟩⟩

end Cpu

end TlmBoy
