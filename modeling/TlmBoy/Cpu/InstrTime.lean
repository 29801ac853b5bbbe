import TlmBoy.Cpu.Stack

/-
  What the instructions of `cpu_ops.cpp` cost.

  `Instr.clkCycles` is the number that an instruction function assigns to `wait_ns_`, in clock
  cycles. Whatever `wait_ns_` was before, and whatever else the instruction does, it is this
  afterwards (`execute_waitNs`). HALT and EMU assign nothing.
-/

namespace TlmBoy

/-- The clock cycles that an instruction assigns to `wait_ns_`, from the registers at its entry.
    HALT and EMU assign nothing, and the others without a number do not return. -/
def Instr.clkCycles (instr : Instr) (rf : RegFile) : Option Nat :=
  match instr with
  | .halt | .emu | .stop | .unknown _ | .unknownCb _ => none
  | .nop => some 4
  -- Loads and stores
  | .loadFrom _ => some 16
  | .load _ _ => some 8
  | .loadImm16 _ => some 12
  | .loadImm _ => some 8
  | .loadInc _ _ => some 8
  | .loadDec _ _ => some 8
  | .storeInc _ _ => some 8
  | .storeDec _ _ => some 8
  | .store _ _ => some 8
  | .storeHighC _ => some 8
  | .storeTo _ => some 16
  | .storeImm _ => some 12
  | .storeH _ => some 12
  | .loadH _ => some 12
  | .loadHlSpRel => some 12
  | .loadSpHl => some 8
  | .storeSp => some 20
  | .loadC => some 8
  | .mov _ _ => some 4
  -- Increments and decrements
  | .inc _ => some 4
  | .inc16 _ => some 8
  | .incAddr _ => some 12
  | .decAddr _ => some 12
  | .dec16 _ => some 8
  | .dec _ => some 4
  -- Rotates and shifts
  | .rlca | .rrca | .rra | .rotLeftA => some 4
  | .rlc _ | .rrc _ | .rotLeft _ | .rotRight _ | .shiftRight _ | .sla _ | .sra _ | .swap _ => some 8
  | .rlcAddr _ | .rrcAddr _ | .rotLeftAddr _ | .rotRightAddr _ | .shiftRightAddr _ | .slaAddr _
  | .sraAddr _ | .swapAddr _ => some 16
  -- Additions, subtractions and logic
  | .addHl _ => some 8
  | .addSp => some 16
  | .addA _ | .addACarry _ | .sub _ | .subCarry _ | .comp _ | .xor _ | .and _ | .or _ => some 4
  | .addAAddr _ | .addACarryAddr _ | .subAddr _ | .subCarryAddr _ | .compAddr _ | .xorAddr _
  | .andAddr _ | .orAddr _ => some 8
  | .addAImm | .addACarryImm | .subImm | .subCarryImm | .compImm | .xorImm | .andImm
  | .orImm => some 8
  | .complement | .daa | .scf | .ccf => some 4
  -- Bits
  | .bitN _ _ | .setBitN _ _ | .resetBit _ _ => some 8
  | .bitNAddr _ _ => some 12
  | .setBitNAddr _ _ | .resetBitAddr _ _ => some 16
  -- Jumps, calls and returns
  | .jump => some 12
  | .jumpReg _ => some 4
  | .jumpAddr => some 16
  | .jumpIf cond => some (if cond.test rf then 12 else 8)
  | .jumpAddrIf cond => some (if cond.test rf then 16 else 12)
  | .call => some 24
  | .callIf cond => some (if cond.test rf then 24 else 12)
  | .ret | .retI => some 16
  | .retIf cond => some (if cond.test rf then 20 else 8)
  | .rst _ => some 16
  | .push _ => some 16
  | .pop _ => some 12
  | .di | .ei => some 4

namespace Cpu

variable {σ : Type}

/-- Every successful run of `m` leaves `n` clock cycles in `wait_ns_`. -/
def Charges (n : Nat) (m : CpuM σ Unit) : Prop :=
  ∀ c u c', m c = .ok (u, c') → c'.waitNs = n * GbConst.kNsPerClkCycle

namespace Charges

variable {n : Nat}

theorem setWaitNs (n : Nat) : Charges n (Cpu.setWaitNs n : CpuM σ Unit) := by
  intro c u c' h
  cases h
  rfl

/-- What is done before does not matter. -/
theorem after {α : Type} {m : CpuM σ α} {f : α → CpuM σ Unit} (h : ∀ a, Charges n (f a)) :
    Charges n (m >>= f) := by
  intro c u c' hrun
  obtain ⟨a, t, -, hrest⟩ := StateExcept.bind_eq_ok hrun
  exact h a t u c' hrest

theorem ite {p : Prop} [Decidable p] {m m' : CpuM σ Unit} (h : Charges n m) (h' : Charges n m') :
    Charges n (if p then m else m') := by
  split
  · exact h
  · exact h'

variable [BusPort σ]

theorem instrPush (r : StackReg) : Charges 16 (Cpu.instrPush r : CpuM σ Unit) :=
  after fun _ => after fun _ => after fun _ => after fun _ => setWaitNs 16

/-- The two ways of a conditional jump, call or return. -/
theorem instrJumpIf (b : Bool) :
    Charges (if b then 12 else 8) (Cpu.instrJumpIf b : CpuM σ Unit) := by
  cases b with
  | true => exact after fun _ => after fun _ => after fun _ => setWaitNs 12
  | false => exact after fun _ => setWaitNs 8

theorem instrJumpAddrIf (b : Bool) :
    Charges (if b then 16 else 12) (Cpu.instrJumpAddrIf b : CpuM σ Unit) := by
  cases b with
  | true => exact after fun _ => after fun _ => setWaitNs 16
  | false => exact after fun _ => setWaitNs 12

theorem instrCallIf (b : Bool) :
    Charges (if b then 24 else 12) (Cpu.instrCallIf b : CpuM σ Unit) := by
  cases b with
  | true =>
    exact after fun _ => after fun _ => after fun _ => after fun _ => after fun _ =>
      after fun _ => setWaitNs 24
  | false => exact after fun _ => setWaitNs 12

theorem instrRetIf (b : Bool) :
    Charges (if b then 20 else 8) (Cpu.instrRetIf b : CpuM σ Unit) := by
  cases b with
  | true => exact after fun _ => after fun _ => after fun _ => setWaitNs 20
  | false => exact setWaitNs 8

end Charges

/-- A conditional instruction tests the flags of the state that it is entered in. -/
theorem waitNs_of_cond {cond : Cond} {f : Bool → CpuM σ Unit} (cost : Bool → Nat)
    (hf : ∀ b, Charges (cost b) (f b)) {t u : Cpu σ}
    (h : (evalCond cond >>= f) t = .ok ((), u)) :
    u.waitNs = cost (cond.test t.regFile) * GbConst.kNsPerClkCycle := by
  rw [StateExcept.bind_of_ok (evalCond_eq cond t)] at h
  exact hf _ t () u h

variable [BusPort σ] [Kernel σ]

/-- An instruction that returns has its cost, but for HALT and EMU. -/
theorem clkCycles_of_execute {fuel : Nat} {instr : Instr} {t u : Cpu σ} (hhalt : instr ≠ .halt)
    (hemu : instr ≠ .emu) (h : execute fuel instr t = .ok ((), u)) :
    ∃ n, instr.clkCycles t.regFile = some n := by
  cases instr with
  | halt => exact absurd rfl hhalt
  | emu => exact absurd rfl hemu
  | stop | unknown _ | unknownCb _ => cases h
  | _ => exact ⟨_, rfl⟩

/-- An instruction leaves its cost in `wait_ns_`, whatever was there before. -/
theorem execute_waitNs {fuel n : Nat} {instr : Instr} {t u : Cpu σ}
    (hcost : instr.clkCycles t.regFile = some n) (h : execute fuel instr t = .ok ((), u)) :
    u.waitNs = n * GbConst.kNsPerClkCycle := by
  cases instr with
  | halt | emu | stop | unknown _ | unknownCb _ => cases hcost
  | jumpIf cond =>
    obtain rfl := Option.some.inj hcost
    exact waitNs_of_cond (fun b => if b then 12 else 8) Charges.instrJumpIf h
  | jumpAddrIf cond =>
    obtain rfl := Option.some.inj hcost
    exact waitNs_of_cond (fun b => if b then 16 else 12) Charges.instrJumpAddrIf h
  | callIf cond =>
    obtain rfl := Option.some.inj hcost
    exact waitNs_of_cond (fun b => if b then 24 else 12) Charges.instrCallIf h
  | retIf cond =>
    obtain rfl := Option.some.inj hcost
    exact waitNs_of_cond (fun b => if b then 20 else 8) Charges.instrRetIf h
  | nop =>
    obtain rfl := Option.some.inj hcost
    exact Charges.setWaitNs 4 t () u h
  | push r =>
    obtain rfl := Option.some.inj hcost
    exact Charges.instrPush r t () u h
  | _ =>
    obtain rfl := Option.some.inj hcost
    refine (?_ : Charges _ (execute fuel _)) t () u h
    -- The assignment of `wait_ns_` is the last statement of each of them.
    dsimp only [execute, instrDAA]
    repeat' first
      | with_reducible exact Charges.setWaitNs _
      | with_reducible refine Charges.after fun _ => ?_
      | with_reducible refine Charges.ite ?_ ?_
      | refine Charges.after fun _ => ?_

end Cpu

end TlmBoy
