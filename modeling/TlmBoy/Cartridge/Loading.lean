import TlmBoy.GenericMemory

/-
  Loading a file into a memory: which bytes `LoadFromFile` reads, for every memory size, file and
  offset.

  For a file with more than `memory_size_` bytes after the offset, the size becomes
  `memory_size_ - offset`, as if the offset were one into the memory. With an offset that leaves
  the last bytes as they were, or asks for a negative number of bytes (`loads_right_iff`).
-/

namespace TlmBoy

namespace GenericMemory

variable {memorySize : Nat}

/-- The `size` that `LoadFromFile` passes to `read`. -/
def requestedSize (memorySize : Nat) (file : List U8) (offset : Nat) : Int :=
  if file.length - offset > memorySize then memorySize - offset else file.length - offset

/-- How many bytes there are to load. -/
def loadable (memorySize : Nat) (file : List U8) (offset : Nat) : Nat :=
  min (file.length - offset) memorySize

/-- The memory with the first `n` bytes replaced by those of the file after the offset. -/
def overlayFirst (n : Nat) (file : List U8) (offset : Nat) (m : GenericMemory memorySize) :
    GenericMemory memorySize :=
  ⟨fun i => if i.val < n then (file[offset + i.val]?).getD (m.data i) else m.data i⟩

/-- What `LoadFromFile` should do: a read of a size in bounds, and the loadable bytes in place. -/
def LoadsRight (memorySize : Nat) (file : List U8) (offset : Nat) : Prop :=
  (0 ≤ requestedSize memorySize file offset ∧
    requestedSize memorySize file offset ≤ loadable memorySize file offset) ∧
  ∀ m : GenericMemory memorySize, ∃ m', m.loadFromFile file offset = .ok m' ∧
    ∀ i : Fin memorySize,
      (i.val < loadable memorySize file offset → file[offset + i.val]? = some (m'.data i)) ∧
      (loadable memorySize file offset ≤ i.val → m'.data i = m.data i)

/-- A read of `n` bytes succeeds. -/
theorem loadFromFile_ok {file : List U8} {offset n : Nat} (hle : offset ≤ file.length)
    (hn : requestedSize memorySize file offset = n) (m : GenericMemory memorySize) :
    m.loadFromFile file offset = .ok (m.overlayFirst n file offset) := by
  unfold requestedSize at hn
  rw [loadFromFile, cAssert_pos hle, ok_bind, hn]
  dsimp only
  rw [if_neg (by omega)]
  simp only [Nat.cast_lt]
  rfl

/-- A read of a negative number of bytes fails. -/
theorem loadFromFile_negative {file : List U8} {offset : Nat} (hle : offset ≤ file.length)
    (hneg : requestedSize memorySize file offset < 0) (m : GenericMemory memorySize) :
    m.loadFromFile file offset = .error (.runtimeError "could not read file") := by
  rw [loadFromFile, cAssert_pos hle, ok_bind]
  exact if_pos hneg

theorem overlayFirst_loaded {file : List U8} {offset n : Nat}
    (hn : n = loadable memorySize file offset) (m : GenericMemory memorySize)
    (i : Fin memorySize) :
    (i.val < loadable memorySize file offset →
      file[offset + i.val]? = some ((m.overlayFirst n file offset).data i)) ∧
    (loadable memorySize file offset ≤ i.val →
      (m.overlayFirst n file offset).data i = m.data i) := by
  rw [← hn]
  refine ⟨fun hlt => ?_, fun hle => if_neg (Nat.not_lt.mpr hle)⟩
  have hin : offset + i.val < file.length := by
    unfold loadable at hn
    omega
  change _ = some (if i.val < n then (file[offset + i.val]?).getD (m.data i) else m.data i)
  rw [if_pos hlt, List.getElem?_eq_getElem hin]
  rfl

/-- A file that reaches beyond the memory, with an offset: the last bytes are not loaded. -/
theorem not_loadsRight {file : List U8} {offset : Nat} (hle : offset ≤ file.length)
    (hlong : memorySize < file.length - offset) (hoffset : offset ≠ 0) :
    ¬ LoadsRight memorySize file offset := by
  rintro ⟨⟨hpos, -⟩, hloads⟩
  have hsize : requestedSize memorySize file offset = memorySize - offset := if_pos hlong
  rw [hsize] at hpos
  obtain ⟨n, hn⟩ := Int.eq_ofNat_of_zero_le hpos
  -- byte `n` is the first one not read; the memory holds another value there
  have hin : offset + n < file.length := by omega
  have hlt : n < memorySize := by omega
  obtain ⟨m', hok, hdata⟩ := hloads ⟨fun _ => file[offset + n] + 1⟩
  rw [loadFromFile_ok hle (hsize.trans hn)] at hok
  have hbyte := (hdata ⟨n, hlt⟩).1 (by unfold loadable; omega)
  rw [← Except.ok.inj hok, List.getElem?_eq_getElem hin] at hbyte
  have hold : ((⟨fun _ => file[offset + n] + 1⟩ : GenericMemory memorySize).overlayFirst
      n file offset).data ⟨n, hlt⟩ = file[offset + n] + 1 := if_neg (Nat.lt_irrefl n)
  rw [hold] at hbyte
  have hsucc : ∀ b : U8, b ≠ b + 1 := by
    decide +kernel
  exact hsucc _ (Option.some.inj hbyte)

/-- `LoadFromFile` loads what there is, unless the file reaches beyond the memory and the offset
    is not 0. -/
theorem loads_right_iff {file : List U8} {offset : Nat} (hle : offset ≤ file.length) :
    LoadsRight memorySize file offset ↔ file.length - offset ≤ memorySize ∨ offset = 0 := by
  constructor
  · intro hright
    by_contra hbad
    obtain ⟨hlong, hoffset⟩ := not_or.mp hbad
    exact not_loadsRight hle (by omega) hoffset hright
  · intro hgood
    have hsize : requestedSize memorySize file offset = loadable memorySize file offset := by
      unfold requestedSize loadable
      split_ifs <;> omega
    refine ⟨⟨by omega, by omega⟩, fun m => ⟨_, loadFromFile_ok hle hsize m, ?_⟩⟩
    exact overlayFirst_loaded rfl m

theorem loads_rom_high : 2 ≤ [(1 : U8), 2, 3, 4].length ∧ LoadsRight 2 [1, 2, 3, 4] 2 :=
  ⟨by decide, (loads_right_iff (by decide)).mpr (.inl (by decide))⟩

/-- A game of 0x8001 bytes leaves a `rom_high` of one bank empty. -/
theorem long_game_not_loaded : ¬ ∀ (memorySize : Nat) (file : List U8) (offset : Nat),
    offset ≤ file.length → LoadsRight memorySize file offset := by
  intro h
  have hlength : (List.replicate 0x8001 (1 : U8)).length = 0x8001 := List.length_replicate
  exact not_loadsRight (by omega) (by omega) (by omega)
    (h 0x4000 (List.replicate 0x8001 1) 0x4000 (by omega))

end GenericMemory

end TlmBoy
