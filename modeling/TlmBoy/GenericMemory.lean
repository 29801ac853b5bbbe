import TlmBoy.Common

/-
  `GenericMemory`: a byte array behind a target socket.

  The array is a function on `Fin memorySize`, so a memory of the wrong size cannot be built.
  `b_transport` indexes `data_` with the payload's address and checks nothing; an address
  outside the array is `Fault.outOfBounds`.
-/

namespace TlmBoy

structure GenericMemory (memorySize : Nat) where
  data : Fin memorySize → U8

namespace GenericMemory

variable {memorySize : Nat}

/-- `data_[adr]` as a value. -/
def load (m : GenericMemory memorySize) (adr : U16) : Except Fault U8 :=
  if h : adr.toNat < memorySize then .ok (m.data ⟨adr.toNat, h⟩)
  else .error (.outOfBounds "data_")

/-- `data_[adr] = v`. -/
def store (m : GenericMemory memorySize) (adr : U16) (v : U8) :
    Except Fault (GenericMemory memorySize) :=
  if h : adr.toNat < memorySize then .ok ⟨Function.update m.data ⟨adr.toNat, h⟩ v⟩
  else .error (.outOfBounds "data_")

/-- `LoadFromFile` of a file that can be opened. The number of bytes read is negative when the
    file has more than `memorySize` bytes after an offset beyond `memorySize`; then the read
    fails. -/
def loadFromFile (file : List U8) (offset : Nat) (m : GenericMemory memorySize) :
    Except Fault (GenericMemory memorySize) := do
  cAssert (offset ≤ file.length) "size >= offset"
  let size : Int :=
    if file.length - offset > memorySize then memorySize - offset else file.length - offset
  if size < 0 then
    throw (.runtimeError "could not read file")
  return ⟨fun i => if i.val < size then (file[offset + i.val]?).getD (m.data i) else m.data i⟩

def bTransport (trans : Payload) (m : GenericMemory memorySize) :
    Except Fault (Payload × GenericMemory memorySize) :=
  match trans.command with
  | .read => do
    let v ← m.load trans.address
    return ({ trans with data := v, responseStatus := .ok }, m)
  | .write => do
    let m ← m.store trans.address trans.data
    return ({ trans with responseStatus := .ok }, m)
  | .ignore => return ({ trans with responseStatus := .commandError }, m)

/-- A read inside the array. -/
theorem bTransport_read (m : GenericMemory memorySize) {trans : Payload}
    (hcmd : trans.command = .read) (hadr : trans.address.toNat < memorySize) :
    m.bTransport trans = .ok ({ trans with
      data := m.data ⟨trans.address.toNat, hadr⟩, responseStatus := .ok }, m) := by
  simp [bTransport, hcmd, load, hadr]

/-- A write inside the array. -/
theorem bTransport_write (m : GenericMemory memorySize) {trans : Payload}
    (hcmd : trans.command = .write) (hadr : trans.address.toNat < memorySize) :
    m.bTransport trans = .ok ({ trans with responseStatus := .ok },
      ⟨Function.update m.data ⟨trans.address.toNat, hadr⟩ trans.data⟩) := by
  simp [bTransport, hcmd, store, hadr]

/-- Nothing but a write changes the array. -/
theorem bTransport_of_ne_write {m m' : GenericMemory memorySize} {trans trans' : Payload}
    (hcmd : trans.command ≠ .write) (h : m.bTransport trans = .ok (trans', m')) : m' = m := by
  cases hc : trans.command with
  | write => exact absurd hc hcmd
  | ignore =>
    rw [bTransport, hc] at h
    cases h
    rfl
  | read =>
    by_cases hadr : trans.address.toNat < memorySize
    · rw [m.bTransport_read hc hadr] at h
      cases h
      rfl
    · rw [bTransport, hc, load, dif_neg hadr] at h
      cases h

/-- The array after the whole file is loaded into it. -/
def overlay (file : List U8) (m : GenericMemory memorySize) : GenericMemory memorySize :=
  ⟨fun i => (file[i.val]?).getD (m.data i)⟩

theorem loadFromFile_zero (file : List U8) (m : GenericMemory memorySize) :
    m.loadFromFile file 0 = .ok (m.overlay file) := by
  have hsize : ∀ i : Fin memorySize, (if (i.val : Int) <
      (if file.length - 0 > memorySize then (memorySize : Int) - (0 : Nat)
        else (file.length : Int) - (0 : Nat))
      then (file[0 + i.val]?).getD (m.data i) else m.data i) = (file[i.val]?).getD (m.data i) := by
    intro i
    have hi := i.isLt
    by_cases hlt : i.val < file.length
    · rw [if_pos (by split_ifs <;> omega), Nat.zero_add]
    · rw [if_neg (by split_ifs <;> omega), List.getElem?_eq_none (by omega)]
      rfl
  rw [loadFromFile, cAssert_pos (Nat.zero_le _), ok_bind]
  dsimp only
  rw [if_neg (by split_ifs <;> omega)]
  exact congrArg (fun f => Except.ok (GenericMemory.mk f)) (funext hsize)

end GenericMemory

end TlmBoy
