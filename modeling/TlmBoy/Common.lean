import Mathlib

/-
  What every device of the emulator shares: the fixed-width integers of `common.h`, the
  constants of `gb_const.h`, the bit helpers of `utils.h`, the TLM payload, and the ways in
  which a call can end other than by returning.

  A C++ call that may throw, fail an assertion, leave an array or end the process is a
  function into `Except Fault`. Assertions are live, as in the `tlmboy` target (only
  `tlmboy_fast` is compiled with `NDEBUG`).
-/

namespace TlmBoy

abbrev U8 := BitVec 8
abbrev U16 := BitVec 16
abbrev I64 := BitVec 64

/-! ## Sizes -/

/-! The sizes of banks and tables are positive, under one name in every module. -/

instance neZero1 : NeZero 1 := ⟨by decide⟩
instance neZero4 : NeZero 4 := ⟨by decide⟩
instance neZero8 : NeZero 8 := ⟨by decide⟩
instance neZero16 : NeZero 16 := ⟨by decide⟩
instance neZero128 : NeZero 128 := ⟨by decide⟩
instance neZero512 : NeZero 512 := ⟨by decide⟩

/-! ## Faults -/

/-- Why a call does not return. -/
inductive Fault where
  /-- A failed `assert`, with its text. -/
  | assertion (text : String)
  /-- A `std::runtime_error`, with its message. -/
  | runtimeError (what : String)
  /-- `exit(EXIT_FAILURE)`, with what was printed before. -/
  | exitFailure (printed : String)
  /-- An index outside the named storage (undefined behaviour in the source). -/
  | outOfBounds (storage : String)
  /-- `wait` after `sc_stop`: the simulation is over and the call never comes back. -/
  | simulationStopped
  /-- A busy-waiting loop used up the number of rounds the model was given. -/
  | outOfFuel
  /-- Another exception that nothing catches, with its class and its text. -/
  | uncaught (exception : String) (what : String)
  /-- `recv` waits for the debugger's client, and no byte comes. -/
  | waitsForClient
deriving DecidableEq, Repr

/-- `assert(c)`. -/
def cAssert (c : Prop) [Decidable c] (text : String) : Except Fault Unit :=
  if c then .ok () else .error (.assertion text)

theorem cAssert_pos {c : Prop} [Decidable c] (h : c) (text : String) :
    cAssert c text = .ok () := if_pos h

theorem cAssert_neg {c : Prop} [Decidable c] (h : ¬ c) (text : String) :
    cAssert c text = .error (.assertion text) := if_neg h

@[simp] theorem ok_bind {α β : Type} (a : α) (f : α → Except Fault β) :
    ((Except.ok a : Except Fault α) >>= f) = f a := rfl

@[simp] theorem error_bind {α β : Type} (e : Fault) (f : α → Except Fault β) :
    ((Except.error e : Except Fault α) >>= f) = .error e := rfl

@[simp] theorem pure_eq_ok {α : Type} (a : α) : (pure a : Except Fault α) = .ok a := rfl

@[simp] theorem throw_eq_error {α : Type} (e : Fault) :
    (throw e : Except Fault α) = .error e := rfl

/-! ## Transactions -/

/-- `GbCommand::Cmd`: why the CPU reads. -/
inductive GbCommand where
  | gbReadInst
  | gbReadData
  | gbWriteData
deriving DecidableEq, Repr

/-- `tlm::tlm_command`. -/
inductive TlmCommand where
  | read
  | write
  | ignore
deriving DecidableEq, Repr

/-- The `tlm::tlm_response_status` values that occur. A fresh payload is `incomplete`. -/
inductive TlmResponseStatus where
  | ok
  | incomplete
  | addressError
  | commandError
deriving DecidableEq, Repr

/-- `is_response_error`: every status but `TLM_OK_RESPONSE` is at most 0. -/
def TlmResponseStatus.isResponseError (status : TlmResponseStatus) : Bool := status != .ok

/-- `tlm::tlm_generic_payload`. Every target truncates the address to 16 bits and reads or
    writes one byte behind the data pointer, so these are what the payload carries. The
    extension is the CPU's `GbCommand`; payloads of other masters have none. -/
structure Payload where
  command : TlmCommand := .ignore
  address : U16 := 0
  data : U8 := 0
  responseStatus : TlmResponseStatus := .incomplete
  extension : Option GbCommand := none
deriving DecidableEq, Repr

/-! ## `gb_const.h` -/

namespace GbConst

def kVBlankIf : U8 := 1
def kLCDCIf : U8 := 1 <<< 1
def kTimerOfIf : U8 := 1 <<< 2
def kSerialIOIf : U8 := 1 <<< 3
def kJoypadIf : U8 := 1 <<< 4

def kMaskBit0 : U8 := 0b00000001
def kMaskBit7 : U8 := 0b10000000

/-- Nanoseconds of one clock cycle, roughly 4.19 MHz. -/
def kNsPerClkCycle : Nat := 238

end GbConst

/-! ## `std::format` -/

/-- `n` in lower-case hexadecimal, padded with zeros to `width`. -/
def fmtHex (width n : Nat) : String :=
  let digits := Nat.toDigits 16 n
  String.ofList (List.replicate (width - digits.length) '0' ++ digits)

example : fmtHex 4 0xAB = "00ab" := by decide

/-! ## Masks -/

/-- Masking with `2^k - 1` keeps the value modulo `2^k`. -/
theorem toNat_and_ofNat_mask {w : Nat} (v : BitVec w) (k : Nat) (hk : k ≤ w) :
    (v &&& BitVec.ofNat w (2 ^ k - 1)).toNat = v.toNat % 2 ^ k := by
  have hlt : 2 ^ k - 1 < 2 ^ w :=
    Nat.lt_of_lt_of_le (Nat.sub_lt (Nat.two_pow_pos k) Nat.one_pos)
      (Nat.pow_le_pow_right (by decide) hk)
  rw [BitVec.toNat_and, BitVec.toNat_ofNat, Nat.mod_eq_of_lt hlt,
    Nat.and_two_pow_sub_one_eq_mod]

theorem toNat_and_1 (v : U8) : (v &&& 0x01).toNat = v.toNat % 2 :=
  toNat_and_ofNat_mask v 1 (by decide)

theorem toNat_and_3 (v : U8) : (v &&& 0x03).toNat = v.toNat % 4 :=
  toNat_and_ofNat_mask v 2 (by decide)

theorem toNat_and_0F (v : U8) : (v &&& 0x0F).toNat = v.toNat % 16 :=
  toNat_and_ofNat_mask v 4 (by decide)

theorem toNat_and_1F (v : U8) : (v &&& 0x1F).toNat = v.toNat % 32 :=
  toNat_and_ofNat_mask v 5 (by decide)

theorem toNat_and_7F (v : U8) : (v &&& 0x7F).toNat = v.toNat % 128 :=
  toNat_and_ofNat_mask v 7 (by decide)

/-- A byte tested for bit 0 is tested for being odd. -/
theorem and_1_ne_zero (v : U8) : ((v &&& 0x01) != 0) = (v.toNat % 2 == 1) := by
  have h := toNat_and_1 v
  by_cases hz : v &&& 0x01 = 0
  · rw [hz] at h ⊢
    simp [← h]
  · have hne : (v &&& 0x01).toNat ≠ 0 := fun h0 => hz (BitVec.eq_of_toNat_eq h0)
    have hone : v.toNat % 2 = 1 := by omega
    rw [hone]
    exact bne_iff_ne.mpr hz

/-! ## `utils.h` -/

/-- `IsBitSet`. The callers of the source pass a bit index below 8. -/
def isBitSet (dat : U8) (bitIndex : Nat) : Bool := (dat &&& ((1 : U8) <<< bitIndex)) != 0

/-- `SetBit`. -/
def setBit (dat : U8) (val : Bool) (bitIndex : Nat) : U8 :=
  (dat &&& ~~~((1 : U8) <<< bitIndex)) ||| (BitVec.setWidth 8 (BitVec.ofBool val) <<< bitIndex)

/-- What `setBit` leaves and what it writes, bit by bit. -/
theorem getLsbD_setBit (dat : U8) (val : Bool) (i j : Nat) (hj : j < 8) :
    (setBit dat val i).getLsbD j = if j = i then val else dat.getLsbD j := by
  by_cases hij : j = i
  · subst hij
    simp [setBit, hj]
  · by_cases hlt : j < i
    · simp [setBit, hj, hij, hlt]
    · have hne : j - i ≠ 0 := by omega
      simp [setBit, hj, hij, hlt, hne]

theorem isBitSet_eq_getLsbD (dat : U8) (i : Nat) (hi : i < 8) :
    isBitSet dat i = dat.getLsbD i := by
  have htwo : (1 : U8) <<< i = BitVec.twoPow 8 i := (BitVec.twoPow_eq 8 i).symm
  have hne : BitVec.twoPow 8 i ≠ 0#8 := by
    intro h
    have := congrArg (fun x : U8 => x.getLsbD i) h
    simp [hi] at this
  rw [isBitSet, htwo, BitVec.and_twoPow]
  cases dat.getLsbD i <;> simp [hne]

end TlmBoy
