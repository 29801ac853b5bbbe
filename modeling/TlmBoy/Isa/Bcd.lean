import TlmBoy.GbTop
import TlmBoy.Isa.Alu
import TlmBoy.Lib.CarryChain
import TlmBoy.Lib.History
import TlmBoy.Platform

/-
  Packed-BCD arithmetic with ADD, ADC, SUB, SBC and DAA.

  `AluOut.decimal` is what DAA makes of A and the flags. After an addition or a subtraction of BCD
  bytes it leaves the decimal digits of the result and the decimal carry (`decimal_sum`,
  `decimal_difference`), so a chain of such bytes is a `CarryChain` in base 100.
-/

namespace TlmBoy

/-! ## DAA -/

/-- Both nibbles are decimal digits. -/
def IsBcd (v : U8) : Prop := v.toNat % 16 ≤ 9 ∧ v.toNat / 16 ≤ 9

instance (v : U8) : Decidable (IsBcd v) := inferInstanceAs (Decidable (_ ∧ _))

/-- The number that a packed-BCD byte stands for. -/
def bcd (v : U8) : ℕ := v.toNat % 16 + 10 * (v.toNat / 16)

theorem bcd_lt {v : U8} (h : IsBcd v) : bcd v < 100 := by
  obtain ⟨hlow, hhigh⟩ := h
  unfold bcd
  omega

theorem IsBcd.digits {v : U8} (h : IsBcd v) : ∃ d1 d0 : ℕ, d1 ≤ 9 ∧ d0 ≤ 9 ∧
    v.toNat = 16 * d1 + d0 ∧ bcd v = d0 + 10 * d1 := by
  obtain ⟨hlow, hhigh⟩ := h
  exact ⟨v.toNat / 16, v.toNat % 16, hhigh, hlow, by omega, rfl⟩

namespace AluOut

def correction (o : AluOut) : U8 :=
  let correction : U8 := if o.carry then 0x60 else 0x00
  let correction :=
    if o.half || (!o.subtract && decide ((o.value &&& 0x0F).toNat > 9)) then correction ||| 0x06
    else correction
  if o.carry || (!o.subtract && decide (o.value.toNat > 0x99)) then correction ||| 0x60
  else correction

/-- What DAA leaves. -/
def decimal (o : AluOut) : AluOut where
  value := if o.subtract then o.value - o.correction else o.value + o.correction
  subtract := o.subtract
  half := false
  carry := o.carry || ((o.correction.setWidth 32 <<< 2) &&& (0x100 : BitVec 32)) != 0

/-- The low digit is out of range. -/
def lowOut (o : AluOut) : Bool := o.half || (!o.subtract && decide (o.value.toNat % 16 > 9))

/-- The number is out of range. -/
def highOut (o : AluOut) : Bool := o.carry || (!o.subtract && decide (o.value.toNat > 0x99))

/-- The correction is made of one for each digit. -/
theorem correction_toNat (o : AluOut) :
    o.correction.toNat = 0x06 * o.lowOut.toNat + 0x60 * o.highOut.toNat := by
  have hlow : (o.half || (!o.subtract && decide ((o.value &&& 0x0F).toNat > 9))) = o.lowOut := by
    rw [toNat_and_0F]
    rfl
  have hcarry : o.carry = true → o.highOut = true := fun hc => by rw [highOut, hc]; rfl
  unfold correction
  rw [hlow]
  show BitVec.toNat (if o.highOut = true then _ else _) = _
  cases hc : o.carry with
  | true =>
    rw [hcarry hc]
    cases o.lowOut <;> rfl
  | false => cases o.lowOut <;> cases o.highOut <;> rfl

theorem decimal_carry (o : AluOut) : o.decimal.carry = o.highOut := by
  have hcarry : o.carry = true → o.highOut = true := fun hc => by rw [highOut, hc]; rfl
  have hcorrection : o.correction = BitVec.ofNat 8 (0x06 * o.lowOut.toNat + 0x60 * o.highOut.toNat)
    := by rw [← correction_toNat, BitVec.ofNat_toNat, BitVec.setWidth_eq]
  show (o.carry || ((o.correction.setWidth 32 <<< 2) &&& (0x100 : BitVec 32)) != 0) = o.highOut
  rw [hcorrection]
  cases hc : o.carry with
  | true =>
    rw [hcarry hc]
    rfl
  | false => cases o.lowOut <;> cases o.highOut <;> decide

/-! ## The digits of an adjusted sum -/

/-- A carry out of the low nibble and a low nibble above 9 are a low digit above 9. -/
theorem sum_low {a0 a1 v0 v1 c : ℕ} (ha : a0 ≤ 9) (hv : v0 ≤ 9) (hc : c ≤ 1) :
    (15 < a0 + v0 + c ∨ (16 * a1 + a0 + (16 * v1 + v0) + c) % 256 % 16 > 9) ↔
      9 < a0 + v0 + c := by
  omega

/-- A carry and a byte above 0x99 are a number above 99. -/
theorem sum_high {a0 a1 v0 v1 c : ℕ} (ha0 : a0 ≤ 9) (ha1 : a1 ≤ 9) (hv0 : v0 ≤ 9) (hv1 : v1 ≤ 9)
    (hc : c ≤ 1) : (255 < 16 * a1 + a0 + (16 * v1 + v0) + c ∨
      (16 * a1 + a0 + (16 * v1 + v0) + c) % 256 > 0x99) ↔
        99 < a0 + 10 * a1 + (v0 + 10 * v1) + c := by
  omega

/-- The digits of the adjusted sum, with their carries. -/
theorem sum_digits {a0 a1 v0 v1 c z low high : ℕ} (ha0 : a0 ≤ 9) (ha1 : a1 ≤ 9) (hv0 : v0 ≤ 9)
    (hv1 : v1 ≤ 9) (hc : c ≤ 1) (hlow : low = if 9 < a0 + v0 + c then 1 else 0)
    (hhigh : high = if 99 < a0 + 10 * a1 + (v0 + 10 * v1) + c then 1 else 0)
    (hz : z = ((16 * a1 + a0 + (16 * v1 + v0) + c) % 256 + (0x06 * low + 0x60 * high)) % 256) :
    z % 16 + 10 * low = a0 + v0 + c ∧ z / 16 + 10 * high = a1 + v1 + low ∧
      z % 16 ≤ 9 ∧ z / 16 ≤ 9 := by
  have hz' : z = 16 * (a1 + v1 + low - 10 * high) + (a0 + v0 + c - 10 * low) := by
    split_ifs at hlow hhigh <;> subst hlow hhigh <;> omega
  split_ifs at hlow hhigh <;> subst hlow hhigh <;> omega

/-- The digits of the adjusted difference, with their borrows. -/
theorem difference_digits {a0 a1 v0 v1 c z low high : ℕ} (ha0 : a0 ≤ 9) (ha1 : a1 ≤ 9)
    (hv0 : v0 ≤ 9) (hv1 : v1 ≤ 9) (hc : c ≤ 1) (hlow : low = if a0 < v0 + c then 1 else 0)
    (hhigh : high = if 16 * a1 + a0 < 16 * v1 + v0 + c then 1 else 0)
    (hz : z = (256 - (0x06 * low + 0x60 * high) +
      (256 + (16 * a1 + a0) - (16 * v1 + v0) - c) % 256) % 256) :
    z % 16 + v0 + c = a0 + 10 * low ∧ z / 16 + v1 + low = a1 + 10 * high ∧
      z % 16 ≤ 9 ∧ z / 16 ≤ 9 := by
  have hz' : z = 16 * (a1 + 10 * high - v1 - low) + (a0 + 10 * low - v0 - c) := by
    split_ifs at hlow hhigh <;> subst hlow hhigh <;> omega
  split_ifs at hlow hhigh <;> subst hlow hhigh <;> omega

theorem toNat_decide (p : Prop) [Decidable p] : (decide p).toNat = if p then 1 else 0 := by
  split_ifs with h <;> simp [h]

/-- A sum of two BCD bytes and a carry, adjusted. -/
theorem decimal_sum {a v : U8} (ha : IsBcd a) (hv : IsBcd v) (c : Bool) :
    IsBcd (sum a v c.toNat).decimal.value ∧ bcd a + bcd v + c.toNat =
      bcd (sum a v c.toNat).decimal.value + 100 * (sum a v c.toNat).decimal.carry.toNat := by
  obtain ⟨a1, a0, ha1, ha0, ha, hbcda⟩ := ha.digits
  obtain ⟨v1, v0, hv1, hv0, hv, hbcdv⟩ := hv.digits
  have hc := Bool.toNat_le c
  have hraw : (sum a v c.toNat).value.toNat = (16 * a1 + a0 + (16 * v1 + v0) + c.toNat) % 256 := by
    rw [← ha, ← hv]
    exact BitVec.toNat_ofNat ..
  have hlow : (sum a v c.toNat).lowOut = decide (9 < a0 + v0 + c.toNat) := by
    have hhalf : (sum a v c.toNat).half = decide (15 < a0 + v0 + c.toNat) := by
      show decide _ = decide _
      rw [decide_eq_decide, ha, hv]
      omega
    rw [lowOut, hraw, hhalf]
    apply Bool.eq_iff_iff.mpr
    rw [Bool.or_eq_true, decide_eq_true_iff, decide_eq_true_iff, ← sum_low ha0 hv0 hc]
    exact or_congr_right decide_eq_true_iff
  have hhigh : (sum a v c.toNat).highOut = decide (99 < a0 + 10 * a1 + (v0 + 10 * v1) + c.toNat)
      := by
    have hcarry : (sum a v c.toNat).carry =
        decide (255 < 16 * a1 + a0 + (16 * v1 + v0) + c.toNat) := by
      rw [← ha, ← hv]
      rfl
    rw [highOut, hraw, hcarry]
    apply Bool.eq_iff_iff.mpr
    rw [Bool.or_eq_true, decide_eq_true_iff, decide_eq_true_iff, ← sum_high ha0 ha1 hv0 hv1 hc]
    exact or_congr_right decide_eq_true_iff
  have hvalue : (sum a v c.toNat).decimal.value.toNat = ((sum a v c.toNat).value.toNat +
      (0x06 * (sum a v c.toNat).lowOut.toNat + 0x60 * (sum a v c.toNat).highOut.toNat)) % 256 := by
    rw [← correction_toNat]
    exact BitVec.toNat_add ..
  rw [hraw] at hvalue
  have hdigits := sum_digits ha0 ha1 hv0 hv1 hc (by rw [hlow, toNat_decide])
    (by rw [hhigh, toNat_decide]) hvalue
  obtain ⟨h0, h1, hz0, hz1⟩ := hdigits
  rw [decimal_carry, hbcda, hbcdv]
  refine ⟨⟨hz0, hz1⟩, ?_⟩
  unfold bcd
  omega

/-- A difference of two BCD bytes and a borrow, adjusted. -/
theorem decimal_difference {a v : U8} (ha : IsBcd a) (hv : IsBcd v) (c : Bool) :
    IsBcd (difference a v c.toNat).decimal.value ∧
      bcd (difference a v c.toNat).decimal.value + bcd v + c.toNat =
        bcd a + 100 * (difference a v c.toNat).decimal.carry.toNat := by
  obtain ⟨a1, a0, ha1, ha0, ha, hbcda⟩ := ha.digits
  obtain ⟨v1, v0, hv1, hv0, hv, hbcdv⟩ := hv.digits
  have hc := Bool.toNat_le c
  have hraw : (difference a v c.toNat).value.toNat =
      (256 + (16 * a1 + a0) - (16 * v1 + v0) - c.toNat) % 256 := by
    rw [← ha, ← hv]
    have := a.isLt
    have := v.isLt
    simp only [difference, BitVec.toNat_ofInt]
    omega
  have hlow : (difference a v c.toNat).lowOut = decide (a0 < v0 + c.toNat) := by
    have hhalf : (difference a v c.toNat).half = decide (a0 < v0 + c.toNat) := by
      show decide _ = decide _
      rw [decide_eq_decide, ha, hv]
      omega
    rw [lowOut, hhalf]
    exact Bool.or_false _
  have hhigh : (difference a v c.toNat).highOut =
      decide (16 * a1 + a0 < 16 * v1 + v0 + c.toNat) := by
    rw [← ha, ← hv]
    exact Bool.or_false _
  have hvalue : (difference a v c.toNat).decimal.value.toNat =
      (256 - (0x06 * (difference a v c.toNat).lowOut.toNat +
        0x60 * (difference a v c.toNat).highOut.toNat) +
          (difference a v c.toNat).value.toNat) % 256 := by
    rw [← correction_toNat]
    exact BitVec.toNat_sub ..
  rw [hraw] at hvalue
  have hdigits := difference_digits ha0 ha1 hv0 hv1 hc (by rw [hlow, toNat_decide])
    (by rw [hhigh, toNat_decide]) hvalue
  obtain ⟨h0, h1, hz0, hz1⟩ := hdigits
  rw [decimal_carry, hbcda, hbcdv]
  refine ⟨⟨hz0, hz1⟩, ?_⟩
  unfold bcd
  omega

end AluOut

/-! ## The instructions -/

/-- The registers after DAA. -/
def RegFile.daa (rf : RegFile) : RegFile :=
  let out := (AluOut.mk rf.a rf.flagN rf.flagH rf.flagC).decimal
  (rf.set .a out.value).withF (packFlags (out.value == 0) out.subtract out.half out.carry rf.f)

namespace Cpu

variable {σ : Type}

/-- The flag C is set when the number is corrected, and never cleared. -/
theorem instrDAA_eq : (instrDAA : CpuM σ Unit) = (do
    modifyRegs RegFile.daa
    setWaitNs 4) := by
  funext c
  let o : AluOut := ⟨c.regFile.a, c.regFile.flagN, c.regFile.flagH, c.regFile.flagC⟩
  have hcarry : o.decimal.carry =
      (c.regFile.flagC || ((o.correction.setWidth 32 <<< 2) &&& (0x100 : BitVec 32)) != 0) := rfl
  have hdaa : c.regFile.daa = (c.regFile.set .a o.decimal.value).withF
      (packFlags (o.decimal.value == 0) c.regFile.flagN false o.decimal.carry c.regFile.f) := rfl
  have htail : ∀ c₁ : Cpu σ, (do
      setFlagH false
      setFlagZ (o.decimal.value == 0)
      setReg .a o.decimal.value
      setWaitNs 4 : CpuM σ Unit) c₁ = (setWaitNs 4 : CpuM σ Unit) (c₁.withRegs
        ((c₁.regFile.set .a o.decimal.value).withF (packFlags (o.decimal.value == 0)
          (isBitSet c₁.regFile.f 6) false (isBitSet c₁.regFile.f 4) c₁.regFile.f))) := by
    intro c₁
    simp
  simp only [instrDAA, getReg_bind, getFlagC_bind, getFlagH_bind, getFlagN_bind, modifyRegs_bind]
  by_cases hset : (((o.correction.setWidth 32 <<< 2) &&& (0x100 : BitVec 32)) != 0) = true
  · refine (congrFun (if_pos hset) c).trans ?_
    rw [setFlagC_bind]
    refine (htail _).trans ?_
    rw [hdaa, hcarry, hset, Bool.or_true, RegFile.flagN_eq]
    simp
  · refine (congrFun (if_neg hset) c).trans ?_
    refine (htail c).trans ?_
    rw [hdaa, hcarry, Bool.eq_false_of_not_eq_true hset, Bool.or_false, RegFile.flagN_eq,
      RegFile.flagC_eq]

end Cpu

/-- The registers after an operation on A and DAA. -/
theorem RegFile.daa_alu {op : AluOp} (hcp : op ≠ .cp) (v : U8) (rf : RegFile) :
    (rf.alu op v).daa.a = (op.out rf.a v rf.flagC).decimal.value ∧
      (rf.alu op v).daa.flagC = (op.out rf.a v rf.flagC).decimal.carry := by
  obtain ⟨ha, -, hn, hh, hc, -⟩ := rf.alu_effect op v
  rw [if_neg hcp] at ha
  have hout : AluOut.mk (rf.alu op v).a (rf.alu op v).flagN (rf.alu op v).flagH
      (rf.alu op v).flagC = op.out rf.a v rf.flagC := by
    rw [ha, hn, hh, hc]
  rw [← hout]
  refine ⟨rfl, ?_⟩
  rw [flagC_eq]
  exact isBitSet_packFlags_c _ _ _ _ _

theorem RegFile.daa_flagZ (rf : RegFile) : rf.daa.flagZ = (rf.daa.a == 0) := by
  rw [flagZ_eq]
  exact isBitSet_packFlags_z _ _ _ _ _

/-- Where an operation takes its operand from. -/
inductive AluOperand where
  | reg (r : Reg8)
  | mem (addrReg : Reg16)
  | imm
deriving DecidableEq, Repr

def AluOp.instr (op : AluOp) : AluOperand → Instr
  | .reg r => op.regInstr r
  | .mem addrReg => op.memInstr addrReg
  | .imm => op.immInstr

namespace Cpu

open CarryChain

variable {σ : Type} [BusPort σ] [Kernel σ]

def operandByte : AluOperand → CpuM σ U8
  | .reg r => getReg r
  | .mem addrReg => readAt addrReg
  | .imm => fetchNextInstrByte

omit [Kernel σ] in
/-- Getting an operand leaves A and the flags alone. -/
theorem operandByte_af {o : AluOperand} {c c' : Cpu σ} {v : U8}
    (h : operandByte o c = .ok (v, c')) :
    c'.regFile.a = c.regFile.a ∧ c'.regFile.flagC = c.regFile.flagC := by
  cases o with
  | reg r =>
    cases h
    exact ⟨rfl, rfl⟩
  | mem addrReg =>
    have hrun := readAt_bind addrReg (fun v => (pure v : CpuM σ U8)) c
    rw [bind_pure] at hrun
    obtain ⟨⟨v', s⟩, -, hlast⟩ := StateExcept.except_bind_eq_ok (hrun.symm.trans h)
    cases hlast
    exact ⟨rfl, rfl⟩
  | imm =>
    have hrun := fetchNextInstrByte_bind c (fun v => (pure v : CpuM σ U8))
    rw [bind_pure] at hrun
    obtain ⟨⟨v', s⟩, -, hlast⟩ := StateExcept.except_bind_eq_ok (hrun.symm.trans h)
    cases hlast
    exact ⟨rfl, rfl⟩

/-- An operation on an operand, as the code executes it. -/
theorem execute_aluInstr {fuel : Nat} {op : AluOp} {o : AluOperand} {c m c' : Cpu σ} {v : U8}
    (hoperand : operandByte o c = .ok (v, m)) (h : execute fuel (op.instr o) c = .ok ((), c')) :
    c'.regFile = m.regFile.alu op v := by
  have hprogram : ∃ clkCycles,
      (execute fuel (op.instr o) : CpuM σ Unit) = aluProgram op (operandByte o) clkCycles := by
    cases o with
    | reg r => exact ⟨4, execute_regInstr fuel op r⟩
    | mem addrReg => exact ⟨8, execute_memInstr fuel op addrReg⟩
    | imm => exact ⟨8, execute_immInstr fuel op⟩
  obtain ⟨clkCycles, hprogram⟩ := hprogram
  rw [hprogram, aluProgram_apply, hoperand] at h
  cases h
  rfl

theorem execute_daa (fuel : Nat) (c : Cpu σ) : execute fuel .daa c = .ok ((), { c with
    regFile := c.regFile.daa, waitNs := 4 * GbConst.kNsPerClkCycle }) := by
  have hdaa : (execute fuel .daa : CpuM σ Unit) = instrDAA := rfl
  rw [hdaa, instrDAA_eq]
  rfl

/-! ## Numbers of several bytes -/

/-- The bytes `xys` of two numbers are processed from the least significant on: each time A holds
    the first number's byte and the flag C is as DAA left it, the operation takes the second one's
    byte from any operand, and DAA follows. The operation on the first byte is `first`, on the
    others it is `rest`. The results are `zs`. -/
inductive Processes (fuel : Nat) (rest : AluOp) :
    AluOp → List (U8 × U8) → Cpu σ → List U8 → Cpu σ → Prop
  | done (first : AluOp) (c : Cpu σ) : Processes fuel rest first [] c [] c
  | byte {first : AluOp} {x y : U8} {xys : List (U8 × U8)} {zs : List U8}
      {c c₀ m c₁ c₂ c' : Cpu σ} (o : AluOperand) (hx : c₀.regFile.a = x)
      (hcarry : c₀.regFile.flagC = c.regFile.flagC) (hy : operandByte o c₀ = .ok (y, m))
      (hop : execute fuel (first.instr o) c₀ = .ok ((), c₁))
      (hdaa : execute fuel .daa c₁ = .ok ((), c₂))
      (hrest : Processes fuel rest rest xys c₂ zs c') :
      Processes fuel rest first ((x, y) :: xys) c (c₂.regFile.a :: zs) c'

/-- What the operation and DAA make of one byte. -/
theorem byte_eq {fuel : Nat} {op : AluOp} (hcp : op ≠ .cp) {o : AluOperand} {c₀ m c₁ c₂ : Cpu σ}
    {y : U8} (hy : operandByte o c₀ = .ok (y, m))
    (hop : execute fuel (op.instr o) c₀ = .ok ((), c₁))
    (hdaa : execute fuel .daa c₁ = .ok ((), c₂)) :
    c₂.regFile.a = (op.out c₀.regFile.a y c₀.regFile.flagC).decimal.value ∧
      c₂.regFile.flagC = (op.out c₀.regFile.a y c₀.regFile.flagC).decimal.carry := by
  rw [execute_daa] at hdaa
  cases hdaa
  obtain ⟨ha, hc⟩ := operandByte_af hy
  rw [← ha, ← hc]
  show (RegFile.daa c₁.regFile).a = _ ∧ (RegFile.daa c₁.regFile).flagC = _
  rw [execute_aluInstr hy hop]
  exact m.regFile.daa_alu hcp y

/-- The carry that an operation takes in. -/
def carryIn (op : AluOp) (c : Bool) : Bool := (op = .adc ∨ op = .sbc) && c

/-- One byte of a chain is a digit of base 100 by the relation `R`. -/
def MakesDigit (R : ℕ → ℕ → ℕ → ℕ → ℕ → Prop) (op : AluOp) : Prop :=
  op ≠ .cp ∧ ∀ {x y : U8}, IsBcd x → IsBcd y → ∀ c : Bool,
    IsBcd (op.out x y c).decimal.value ∧ R (bcd x) (bcd y) (carryIn op c).toNat
      (bcd (op.out x y c).decimal.value) (op.out x y c).decimal.carry.toNat

theorem add_makesDigit : MakesDigit (SumDigit 100) .add :=
  ⟨nofun, fun hx hy _ => AluOut.decimal_sum hx hy false⟩

theorem adc_makesDigit : MakesDigit (SumDigit 100) .adc :=
  ⟨nofun, fun hx hy c => AluOut.decimal_sum hx hy c⟩

theorem sub_makesDigit : MakesDigit (DifferenceDigit 100) .sub :=
  ⟨nofun, fun hx hy _ => AluOut.decimal_difference hx hy false⟩

theorem sbc_makesDigit : MakesDigit (DifferenceDigit 100) .sbc :=
  ⟨nofun, fun hx hy c => AluOut.decimal_difference hx hy c⟩

/-- The bytes of a chain make a chain of digits. -/
theorem Processes.chain {R : ℕ → ℕ → ℕ → ℕ → ℕ → Prop} {fuel : Nat} {first rest : AluOp}
    {xys : List (U8 × U8)} {zs : List U8} {c c' : Cpu σ}
    (h : Processes fuel rest first xys c zs c') (hfirst : MakesDigit R first)
    (hrest : MakesDigit R rest) (hcarries : ∀ b, carryIn rest b = b)
    (hbcd : ∀ p ∈ xys, IsBcd p.1 ∧ IsBcd p.2) :
    (∀ z ∈ zs, IsBcd z) ∧ ∃ k,
      Chain R (xys.map fun p => bcd p.1) (xys.map fun p => bcd p.2)
        (carryIn first c.regFile.flagC).toNat (zs.map bcd) k ∧ k ≤ 1 ∧
      ((xys ≠ [] ∨ first = rest) → k = c'.regFile.flagC.toNat) := by
  induction h with
  | done first c =>
    refine ⟨nofun, _, .nil _, Bool.toNat_le _, ?_⟩
    rintro (h | rfl)
    · exact absurd rfl h
    · rw [hcarries]
  | @byte first x y xys zs c c₀ m c₁ c₂ c' o hx hcarry hy hop hdaa _ ih =>
    obtain ⟨hbx, hby⟩ := hbcd (x, y) List.mem_cons_self
    obtain ⟨hzs, k, hchain, hle, hk⟩ := ih hrest fun p hp => hbcd p (List.mem_cons_of_mem _ hp)
    obtain ⟨ha, hc⟩ := byte_eq hfirst.1 hy hop hdaa
    rw [hx, hcarry] at ha hc
    obtain ⟨hbz, hdigit⟩ := hfirst.2 hbx hby c.regFile.flagC
    rw [← ha, ← hc] at hdigit
    rw [← ha] at hbz
    rw [hcarries] at hchain
    refine ⟨?_, k, .cons hdigit hchain, hle, fun _ => hk (Or.inr rfl)⟩
    intro z hz
    rcases List.mem_cons.mp hz with rfl | hz
    · exact hbz
    · exact hzs z hz

/-- The number of packed-BCD bytes, least significant byte first. -/
def bcdNumber (vs : List U8) : ℕ := Nat.ofDigits 100 (vs.map bcd)

theorem bcd_lt_of_all {vs : List U8} (h : ∀ v ∈ vs, IsBcd v) : ∀ d ∈ vs.map bcd, d < 100 := by
  intro d hd
  obtain ⟨v, hv, rfl⟩ := List.mem_map.mp hd
  exact bcd_lt (h v hv)

theorem processes_sum {fuel : Nat} {xys : List (U8 × U8)} {zs : List U8} {c c' : Cpu σ}
    (h : Processes fuel .adc .add xys c zs c') (hbcd : ∀ p ∈ xys, IsBcd p.1 ∧ IsBcd p.2) :
    zs.length = xys.length ∧ (∀ z ∈ zs, IsBcd z) ∧
      bcdNumber zs = (bcdNumber (xys.map Prod.fst) + bcdNumber (xys.map Prod.snd)) %
        100 ^ xys.length ∧
      (xys ≠ [] → (c'.regFile.flagC = true ↔
        100 ^ xys.length ≤ bcdNumber (xys.map Prod.fst) + bcdNumber (xys.map Prod.snd))) := by
  obtain ⟨hzs, k, hchain, -, hk⟩ := h.chain add_makesDigit adc_makesDigit (fun _ => rfl) hbcd
  obtain ⟨hvalue, hcarry⟩ := hchain.sum (by decide) (bcd_lt_of_all hzs)
  have hlength : zs.length = xys.length := by
    simpa using hchain.length.symm
  rw [List.length_map, hlength] at hvalue hcarry
  simp only [bcdNumber, List.map_map]
  refine ⟨hlength, hzs, hvalue, fun hne => ?_⟩
  rw [← Nat.not_lt]
  refine Iff.trans ?_ (not_congr hcarry)
  rw [hk (Or.inl hne)]
  cases c'.regFile.flagC <;> decide

theorem processes_difference {fuel : Nat} {xys : List (U8 × U8)} {zs : List U8} {c c' : Cpu σ}
    (h : Processes fuel .sbc .sub xys c zs c') (hbcd : ∀ p ∈ xys, IsBcd p.1 ∧ IsBcd p.2) :
    zs.length = xys.length ∧ (∀ z ∈ zs, IsBcd z) ∧
      (bcdNumber zs : ℤ) = ((bcdNumber (xys.map Prod.fst) : ℤ) - bcdNumber (xys.map Prod.snd)) %
        (100 ^ xys.length : ℕ) ∧
      (xys ≠ [] → (c'.regFile.flagC = true ↔
        bcdNumber (xys.map Prod.fst) < bcdNumber (xys.map Prod.snd))) := by
  obtain ⟨hzs, k, hchain, hle, hk⟩ := h.chain sub_makesDigit sbc_makesDigit (fun _ => rfl) hbcd
  obtain ⟨hvalue, hborrow⟩ := hchain.difference (by decide) (bcd_lt_of_all hzs) hle
  have hlength : zs.length = xys.length := by
    simpa using hchain.length.symm
  rw [List.length_map, hlength] at hvalue
  simp only [bcdNumber, List.map_map]
  refine ⟨hlength, hzs, hvalue, fun hne => ?_⟩
  rw [← Nat.not_le]
  refine Iff.trans ?_ (not_congr hborrow)
  rw [hk (Or.inl hne)]
  cases c'.regFile.flagC <;> decide

/-- A run of a chain in which A and B are loaded before each byte. -/
theorem exists_processes (fuel : Nat) (first rest : AluOp) (xys : List (U8 × U8)) (c : Cpu σ) :
    ∃ zs c', Processes fuel rest first xys c zs c' := by
  induction xys generalizing first c with
  | nil => exact ⟨[], c, .done first c⟩
  | cons p xys ih =>
    obtain ⟨x, y⟩ := p
    obtain ⟨c₀, ha, hb, hcarry⟩ : ∃ c₀ : Cpu σ, c₀.regFile.a = x ∧ c₀.regFile.get .b = y ∧
        c₀.regFile.flagC = c.regFile.flagC :=
      ⟨c.withRegs ((c.regFile.set .a x).set .b y), rfl, rfl, rfl⟩
    have hoperand : operandByte (.reg .b) c₀ = .ok (y, c₀) := by
      rw [← hb]
      rfl
    obtain ⟨c₁, hop⟩ : ∃ c₁, execute fuel (first.instr (.reg .b)) c₀ = .ok ((), c₁) := by
      have hrun := congrFun (execute_regInstr fuel first .b) c₀
      rw [aluProgram_apply] at hrun
      exact ⟨_, hrun⟩
    obtain ⟨c₂, hdaa⟩ : ∃ c₂, execute fuel .daa c₁ = .ok ((), c₂) := ⟨_, execute_daa fuel c₁⟩
    obtain ⟨zs, c', hrest⟩ := ih rest c₂
    exact ⟨_, c', .byte (.reg .b) ha hcarry hoperand hop hdaa hrest⟩

/-- Multi-byte BCD arithmetic. With ADD, ADC and DAA the result is the sum modulo 100^n and the last
    carry says whether the sum has more digits; with SUB, SBC and DAA it is the difference modulo
    100^n and the last carry says whether it is negative. Each DAA sets Z for the result 0. -/
theorem bcd_arithmetic (fuel : Nat) :
    (∀ (xys : List (U8 × U8)) (zs : List U8) (c c' : Cpu σ),
      (∀ p ∈ xys, IsBcd p.1 ∧ IsBcd p.2) → Processes fuel .adc .add xys c zs c' →
        zs.length = xys.length ∧ (∀ z ∈ zs, IsBcd z) ∧
        bcdNumber zs = (bcdNumber (xys.map Prod.fst) + bcdNumber (xys.map Prod.snd)) %
          100 ^ xys.length ∧
        (xys ≠ [] → (c'.regFile.flagC = true ↔
          100 ^ xys.length ≤ bcdNumber (xys.map Prod.fst) + bcdNumber (xys.map Prod.snd)))) ∧
    (∀ (xys : List (U8 × U8)) (zs : List U8) (c c' : Cpu σ),
      (∀ p ∈ xys, IsBcd p.1 ∧ IsBcd p.2) → Processes fuel .sbc .sub xys c zs c' →
        zs.length = xys.length ∧ (∀ z ∈ zs, IsBcd z) ∧
        (bcdNumber zs : ℤ) = ((bcdNumber (xys.map Prod.fst) : ℤ) - bcdNumber (xys.map Prod.snd)) %
          (100 ^ xys.length : ℕ) ∧
        (xys ≠ [] → (c'.regFile.flagC = true ↔
          bcdNumber (xys.map Prod.fst) < bcdNumber (xys.map Prod.snd)))) ∧
    ∀ c : Cpu σ, ∃ c', execute fuel .daa c = .ok ((), c') ∧
      (c'.regFile.flagZ = true ↔ c'.regFile.a = 0) := by
  refine ⟨fun _ _ _ _ hbcd h => processes_sum h hbcd,
    fun _ _ _ _ hbcd h => processes_difference h hbcd, fun c => ⟨_, execute_daa fuel c, ?_⟩⟩
  show c.regFile.daa.flagZ = true ↔ c.regFile.daa.a = 0
  rw [RegFile.daa_flagZ, beq_iff_eq]

/-- 4599 + 5401 leaves 0000 and a carry. -/
theorem bcd_4599_add_5401 : ∃ zs c', Processes 0 .adc .add [(0x99, 0x01), (0x45, 0x54)]
    ({ initSocket := { payload := {}, gbcmd := .gbReadInst, hasRomBank0 := false,
                       sys := { now := 0, schedule := .once 10000 0, stopped := false,
                                dev := Gb.powerOn .blank } } } : Cpu (Timed Gb)) zs c' ∧
      bcdNumber zs = 0 ∧ c'.regFile.flagC = true := by
  obtain ⟨zs, c', h⟩ := exists_processes 0 .add .adc [(0x99, 0x01), (0x45, 0x54)]
    ({ initSocket := { payload := {}, gbcmd := .gbReadInst, hasRomBank0 := false,
                       sys := { now := 0, schedule := .once 10000 0, stopped := false,
                                dev := Gb.powerOn .blank } } } : Cpu (Timed Gb))
  have hbcd : ∀ p ∈ [((0x99 : U8), (0x01 : U8)), (0x45, 0x54)], IsBcd p.1 ∧ IsBcd p.2 := by
    intro p hp
    rcases List.mem_pair.mp hp with rfl | rfl <;> decide
  obtain ⟨-, -, hnumber, hcarry⟩ := (bcd_arithmetic 0).1 _ zs _ c' hbcd h
  exact ⟨zs, c', h, hnumber, (hcarry nofun).mpr (by decide +kernel)⟩

end Cpu

end TlmBoy
