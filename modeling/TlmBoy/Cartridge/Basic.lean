import TlmBoy.GenericMemory
import TlmBoy.Lib.History

/-
  The parts every cartridge is built from: `BankSwitchedMem`, the symbol-file tracer, and
  `MemoryBankCtrler`, the base of the four memory bank controllers. Also the guest's
  transactions on a cartridge and what a history of them wrote last into a window.

  `BankSwitchedMem` holds `bank_data_` as the current bank index. `DoBankSwitch` is the only
  place that sets either, always to `&data_[index * bank_size_]` and `index`. The index is a
  `Fin numBanks`: a memory whose current bank does not exist cannot be built, and
  `DoBankSwitch` on such an index is its failed assertion.
-/

namespace TlmBoy

/-! ## `Cartridge::BankSwitchedMem` -/

structure BankSwitchedMem (numBanks bankSize : Nat) where
  data : Fin (numBanks * bankSize) → U8
  currentBankInd : Fin numBanks

namespace BankSwitchedMem

variable {numBanks bankSize : Nat}

/-- Byte `a` of bank `b`: `data_[b * bank_size_ + a]`. -/
def cell (b : Fin numBanks) (a : Fin bankSize) : Fin (numBanks * bankSize) :=
  ⟨b.val * bankSize + a.val, by
    have hb : (b.val + 1) * bankSize ≤ numBanks * bankSize := Nat.mul_le_mul_right _ b.isLt
    rw [Nat.succ_mul] at hb
    have ha := a.isLt
    omega⟩

theorem cell_eq_finProdFinEquiv (b : Fin numBanks) (a : Fin bankSize) :
    cell b a = finProdFinEquiv (b, a) := by
  apply Fin.ext
  simp only [cell, finProdFinEquiv_apply_val]
  rw [Nat.mul_comm, Nat.add_comm]

/-- Distinct banks do not share a byte. -/
theorem cell_inj {b b' : Fin numBanks} {a a' : Fin bankSize} :
    cell b a = cell b' a' ↔ b = b' ∧ a = a' := by
  rw [cell_eq_finProdFinEquiv, cell_eq_finProdFinEquiv, finProdFinEquiv.apply_eq_iff_eq,
    Prod.mk.injEq]

def doBankSwitch (index : U8) (m : BankSwitchedMem numBanks bankSize) :
    Except Fault (BankSwitchedMem numBanks bankSize) :=
  if h : index.toNat < numBanks then .ok { m with currentBankInd := ⟨index.toNat, h⟩ }
  else .error (.assertion "index < num_banks_")

/-- The constructor. Its `DoBankSwitch(0)` succeeds since there is a bank. -/
def init [NeZero numBanks] (data : Fin (numBanks * bankSize) → U8) :
    BankSwitchedMem numBanks bankSize :=
  { data, currentBankInd := 0 }

/-- `GetCurrentBankIndex` returns the `uint` index as a `u8`. -/
def getCurrentBankIndex (m : BankSwitchedMem numBanks bankSize) : U8 :=
  BitVec.ofNat 8 m.currentBankInd.val

def bTransport (trans : Payload) (m : BankSwitchedMem numBanks bankSize) :
    Except Fault (Payload × BankSwitchedMem numBanks bankSize) :=
  if h : trans.address.toNat < bankSize then
    match trans.command with
    | .read =>
      .ok ({ trans with data := m.data (cell m.currentBankInd ⟨_, h⟩), responseStatus := .ok }, m)
    | .write =>
      .ok ({ trans with responseStatus := .ok },
        { m with data := Function.update m.data (cell m.currentBankInd ⟨_, h⟩) trans.data })
    | .ignore => .ok ({ trans with responseStatus := .commandError }, m)
  else .error (.assertion "adr < bank_size_")

theorem doBankSwitch_of_lt (m : BankSwitchedMem numBanks bankSize) {index : U8}
    (h : index.toNat < numBanks) :
    m.doBankSwitch index = .ok { m with currentBankInd := ⟨index.toNat, h⟩ } := dif_pos h

theorem doBankSwitch_of_le (m : BankSwitchedMem numBanks bankSize) {index : U8}
    (h : numBanks ≤ index.toNat) :
    m.doBankSwitch index = .error (.assertion "index < num_banks_") := dif_neg (by omega)

theorem doBankSwitch_data {m m' : BankSwitchedMem numBanks bankSize} {index : U8}
    (h : m.doBankSwitch index = .ok m') : m'.data = m.data := by
  unfold doBankSwitch at h
  split at h
  · cases h
    rfl
  · cases h

/-- Nothing but a write changes the memory. -/
theorem bTransport_of_ne_write {m m' : BankSwitchedMem numBanks bankSize} {trans trans' : Payload}
    (hcmd : trans.command ≠ .write) (h : m.bTransport trans = .ok (trans', m')) : m' = m := by
  unfold bTransport at h
  split_ifs at h
  split at h
  · cases h
    rfl
  · exact absurd ‹_› hcmd
  · cases h
    rfl

theorem bTransport_read (m : BankSwitchedMem numBanks bankSize) {trans : Payload}
    (hcmd : trans.command = .read) (a : Fin bankSize) (hadr : trans.address.toNat = a.val) :
    m.bTransport trans = .ok ({ trans with
      data := m.data (cell m.currentBankInd a), responseStatus := .ok }, m) := by
  simp [bTransport, hcmd, hadr]

theorem bTransport_write (m : BankSwitchedMem numBanks bankSize) {trans : Payload}
    (hcmd : trans.command = .write) (a : Fin bankSize) (hadr : trans.address.toNat = a.val) :
    m.bTransport trans = .ok ({ trans with responseStatus := .ok },
      { m with data := Function.update m.data (cell m.currentBankInd a) trans.data }) := by
  simp [bTransport, hcmd, hadr]

end BankSwitchedMem

/-! ## `SymfileTracer` -/

def kMaxBanks : Nat := 512
def kBankSize : Nat := 0x4000

/-- `SymfileTracer`: which bytes of the 512 banks have been read as data. -/
structure SymfileTracer where
  accessArr : Fin (kMaxBanks * kBankSize) → Bool := fun _ => false

/-- `TraceAccess`. The index is computed in `size_t`. -/
def SymfileTracer.traceAccess (bank : U16) (adr : U16) (t : SymfileTracer) :
    Except Fault SymfileTracer :=
  if h : kBankSize * bank.toNat + adr.toNat < kMaxBanks * kBankSize then
    .ok ⟨Function.update t.accessArr ⟨_, h⟩ true⟩
  else .error (.outOfBounds "access_arr_")

/-! ## `Cartridge::MemoryBankCtrler` -/

structure MemoryBankCtrler (numRomBanks numRamBanks : Nat) where
  romLow : GenericMemory 0x4000
  romHigh : BankSwitchedMem numRomBanks 0x4000
  extRam : BankSwitchedMem numRamBanks 0x2000
  symfileTracer : Option SymfileTracer
  ramInd : U8
  romInd : U8

namespace MemoryBankCtrler

variable {numRomBanks numRamBanks : Nat}

/-- The constructor, with the bytes that the derived constructors load into the three
    memories from the ROM image, the boot ROM and the save file. -/
def init [NeZero numRomBanks] [NeZero numRamBanks] (romLow : Fin 0x4000 → U8)
    (romHigh : Fin (numRomBanks * 0x4000) → U8) (extRam : Fin (numRamBanks * 0x2000) → U8)
    (symbolFile : Bool) : MemoryBankCtrler numRomBanks numRamBanks :=
  { romLow := ⟨romLow⟩
    romHigh := .init romHigh
    extRam := .init extRam
    symfileTracer := if symbolFile then some {} else none
    ramInd := 0
    romInd := 0 }

/-- `if (gbcmd && symfile_tracer_) if (gbcmd->cmd == kGbReadData) TraceAccess(bank, adr)`. -/
def traceRead (extension : Option GbCommand) (bank adr : U16)
    (c : MemoryBankCtrler numRomBanks numRamBanks) :
    Except Fault (MemoryBankCtrler numRomBanks numRamBanks) :=
  match extension, c.symfileTracer with
  | some .gbReadData, some tracer => do
    let tracer ← tracer.traceAccess bank adr
    return { c with symfileTracer := some tracer }
  | _, _ => return c

/-- `rom_low_socket_out->b_transport(trans, delay)`. -/
def romLowTransport (trans : Payload) (c : MemoryBankCtrler numRomBanks numRamBanks) :
    Except Fault (Payload × MemoryBankCtrler numRomBanks numRamBanks) := do
  let (trans, romLow) ← c.romLow.bTransport trans
  return (trans, { c with romLow })

/-- `trans.set_address(adr - 0x4000); rom_high_socket_out->b_transport(trans, delay)`. -/
def romHighTransport (trans : Payload) (c : MemoryBankCtrler numRomBanks numRamBanks) :
    Except Fault (Payload × MemoryBankCtrler numRomBanks numRamBanks) := do
  let (trans, romHigh) ← c.romHigh.bTransport { trans with address := trans.address - 0x4000 }
  return (trans, { c with romHigh })

/-- `ram_socket_out->b_transport(trans, delay)`. -/
def ramTransport (trans : Payload) (c : MemoryBankCtrler numRomBanks numRamBanks) :
    Except Fault (Payload × MemoryBankCtrler numRomBanks numRamBanks) := do
  let (trans, extRam) ← c.extRam.bTransport trans
  return (trans, { c with extRam })

/-- The read branch of `b_transport_rom`, which `Rom`, `Mbc1` and `Mbc3` spell out with the
    same statements. -/
def tracedRomRead (trans : Payload) (c : MemoryBankCtrler numRomBanks numRamBanks) :
    Except Fault (Payload × MemoryBankCtrler numRomBanks numRamBanks) := do
  if trans.address ≤ 0x3FFF then
    let c ← c.traceRead trans.extension 0 trans.address
    c.romLowTransport trans
  else
    let c ← c.traceRead trans.extension (c.romHigh.getCurrentBankIndex.setWidth 16) trans.address
    c.romHighTransport trans

/-- `UnmapBootRom`, with the bytes of the game file. -/
def unmapBootRom (game : List U8) (c : MemoryBankCtrler numRomBanks numRamBanks) :
    Except Fault (MemoryBankCtrler numRomBanks numRamBanks) := do
  let romLow ← c.romLow.loadFromFile game 0
  return { c with romLow }

end MemoryBankCtrler

end TlmBoy
