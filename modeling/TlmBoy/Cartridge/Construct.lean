import TlmBoy.Cartridge.DumpTrace
import TlmBoy.Cartridge.Loading
import TlmBoy.GbTop

/-
  How a cartridge is built from files, and which files it leaves behind.

  `Files` is what the host's file system holds, by path; two paths of one file are one string
  here. Every write succeeds. The constructors of the four controllers read the ROM image and the
  boot ROM. `Mbc1` and `Mbc3` also read the save file, and write it in their destructors. `Mbc5`
  does neither.
-/

namespace TlmBoy

abbrev Files := String → Option (List U8)

/-! ## Loading and saving -/

namespace GenericMemory

variable {memorySize : Nat}

/-- `LoadFromFile`. -/
def loadFromPath (files : Files) (path : String) (offset : Nat) (m : GenericMemory memorySize) :
    Except Fault (GenericMemory memorySize) :=
  match files path with
  | some file => m.loadFromFile file offset
  | none => .error (.runtimeError ("Could not read file '" ++ path ++ "'!"))

def loadFromData (data : List U8) (m : GenericMemory memorySize) : GenericMemory memorySize :=
  let copySize := min data.length memorySize
  ⟨fun i => if i.val < copySize then (data[i.val]?).getD (m.data i) else m.data i⟩

/-- `SaveToFile`. -/
def saveToFile (path : String) (files : Files) (m : GenericMemory memorySize) : Files :=
  Function.update files path (some (List.ofFn m.data))

end GenericMemory

namespace BankSwitchedMem

variable {numBanks bankSize : Nat}

/-- Its bytes as a `GenericMemory`, which it derives from. -/
def toGenericMemory (m : BankSwitchedMem numBanks bankSize) :
    GenericMemory (numBanks * bankSize) := ⟨m.data⟩

def loadFromPath (files : Files) (path : String) (offset : Nat)
    (m : BankSwitchedMem numBanks bankSize) : Except Fault (BankSwitchedMem numBanks bankSize) := do
  let g ← m.toGenericMemory.loadFromPath files path offset
  return { m with data := g.data }

end BankSwitchedMem

/-! ## `dmg_rom_data.h` -/

namespace DmgRom

def kSpan : List U8 :=
  [0x31, 0xFE, 0xFF, 0xAF, 0x21, 0xFF, 0x9F, 0x32, 0xCB, 0x7C, 0x20, 0xFB, 0x21, 0x26, 0xFF, 0x0E,
   0x11, 0x3E, 0x80, 0x32, 0xE2, 0x0C, 0x3E, 0xF3, 0xE2, 0x32, 0x3E, 0x77, 0x77, 0x3E, 0xFC, 0xE0,
   0x47, 0x11, 0x04, 0x01, 0x21, 0x10, 0x80, 0x1A, 0xCD, 0x95, 0x00, 0xCD, 0x96, 0x00, 0x13, 0x7B,
   0xFE, 0x34, 0x20, 0xF3, 0x11, 0xD8, 0x00, 0x06, 0x08, 0x1A, 0x13, 0x22, 0x23, 0x05, 0x20, 0xF9,
   0x3E, 0x19, 0xEA, 0x10, 0x99, 0x21, 0x2F, 0x99, 0x0E, 0x0C, 0x3D, 0x28, 0x08, 0x32, 0x0D, 0x20,
   0xF9, 0x2E, 0x0F, 0x18, 0xF3, 0x67, 0x3E, 0x64, 0x57, 0xE0, 0x42, 0x3E, 0x91, 0xE0, 0x40, 0x04,
   0x1E, 0x02, 0x0E, 0x0C, 0xF0, 0x44, 0xFE, 0x90, 0x20, 0xFA, 0x0D, 0x20, 0xF7, 0x1D, 0x20, 0xF2,
   0x0E, 0x13, 0x24, 0x7C, 0x1E, 0x83, 0xFE, 0x62, 0x28, 0x06, 0x1E, 0xC1, 0xFE, 0x64, 0x20, 0x06,
   0x7B, 0xE2, 0x0C, 0x3E, 0x87, 0xE2, 0xF0, 0x42, 0x90, 0xE0, 0x42, 0x15, 0x20, 0xD2, 0x05, 0x20,
   0x4F, 0x16, 0x20, 0x18, 0xCB, 0x4F, 0x06, 0x04, 0xC5, 0xCB, 0x11, 0x17, 0xC1, 0xCB, 0x11, 0x17,
   0x05, 0x20, 0xF5, 0x22, 0x23, 0x22, 0x23, 0xC9, 0xCE, 0xED, 0x66, 0x66, 0xCC, 0x0D, 0x00, 0x0B,
   0x03, 0x73, 0x00, 0x83, 0x00, 0x0C, 0x00, 0x0D, 0x00, 0x08, 0x11, 0x1F, 0x88, 0x89, 0x00, 0x0E,
   0xDC, 0xCC, 0x6E, 0xE6, 0xDD, 0xDD, 0xD9, 0x99, 0xBB, 0xBB, 0x67, 0x63, 0x6E, 0x0E, 0xEC, 0xCC,
   0xDD, 0xDC, 0x99, 0x9F, 0xBB, 0xB9, 0x33, 0x3E, 0x3C, 0x42, 0xB9, 0xA5, 0xB9, 0xA5, 0x42, 0x3C,
   0x21, 0x04, 0x01, 0x11, 0xA8, 0x00, 0x1A, 0x13, 0xBE, 0x20, 0xFE, 0x23, 0x7D, 0xFE, 0x34, 0x20,
   0xF5, 0x06, 0x19, 0x78, 0x86, 0x23, 0x05, 0x20, 0xFB, 0x86, 0x20, 0xFE, 0x3E, 0x01, 0xE0, 0x50]

def kQuickBootSpan : List U8 :=
  [0x31, 0xFE, 0xFF, 0xAF, 0x21, 0xFF, 0x9F, 0x32, 0xCB, 0x7C, 0x20, 0xFB, 0x21, 0x26, 0xFF, 0x0E,
   0x11, 0x3E, 0x80, 0x32, 0xE2, 0x0C, 0x3E, 0xF3, 0xE2, 0x32, 0x3E, 0x77, 0x77, 0x3E, 0xFC, 0xE0,
   0x47, 0xC3, 0xFC] ++ List.replicate 217 0 ++ [0x3E, 0x01, 0xE0, 0x50]

end DmgRom

def loadBootRom {memorySize : Nat} (files : Files) (bootPath : String) (quickBoot : Bool)
    (mem : GenericMemory memorySize) : Except Fault (GenericMemory memorySize) :=
  if bootPath.isEmpty then
    if quickBoot then .ok (mem.loadFromData DmgRom.kQuickBootSpan)
    else .ok (mem.loadFromData DmgRom.kSpan)
  else mem.loadFromPath files bootPath 0

/-! ## `GameInfo` -/

/-- What the constructor of `Cartridge` takes from the header. -/
structure GameInfo where
  cartridgeType : String

namespace GameInfo

def kAdrCartType : Nat := 0x147
def kAdrRomSize : Nat := 0x148
def kAdrRamSize : Nat := 0x149
def kAdrOldLicense : Nat := 0x14b

def cartridgeTypeMap : List (BitVec 32 × String) :=
  [(0x00, "ROM ONLY"), (0x01, "MBC1"), (0x02, "MBC1+RAM"), (0x03, "MBC1+BAT+RAM"),
   (0x05, "MBC2"), (0x06, "MBC2+BAT"), (0x08, "ROM+RAM"), (0x09, "ROM+BAT+RAM"),
   (0x0B, "MMM01"), (0x0C, "MMM01+RAM"), (0x0D, "MMM01+BAT+RAM"), (0x0F, "MBC3+BAT+TIM"),
   (0x10, "MBC3+BAT+RAM+TIM"), (0x11, "MBC3"), (0x12, "MBC3+RAM"), (0x13, "MBC3+BAT+RAM"),
   (0x19, "MBC5"), (0x1A, "MBC5+RAM"), (0x1B, "MBC5+BAT+RAM"), (0x1C, "MBC5+RUM"),
   (0x1D, "MBC5+RAM+RUM"), (0x1E, "MBC5+BAT+RAM+RUM"), (0x20, "MBC6"),
   (0x22, "MBC7+BAT+RAM+RUM+SEN"), (0xFC, "POCKET CAM"), (0xFD, "BANDAI TAMA5"), (0xFE, "HuC3"),
   (0xFF, "HuC1+RAM+BAT")]

/-- The sizes in banks. -/
def romSizeMap : List (BitVec 32 × Nat) :=
  [(0x00, 0), (0x01, 4), (0x02, 8), (0x03, 16), (0x04, 32), (0x05, 64), (0x06, 128),
   (0x07, 256), (0x08, 512), (0x52, 72), (0x53, 80), (0x54, 96)]

/-- The sizes in KiB. -/
def ramSizeMap : List (BitVec 32 × Nat) :=
  [(0x00, 0), (0x01, 2), (0x02, 8), (0x03, 32), (0x04, 128), (0x05, 64)]

/-- `map.at(data[adr])`. `data` holds `char`s, which are signed, and the keys are `uint`s. -/
def mapAt {α : Type} (map : List (BitVec 32 × α)) (data : List U8) (adr : Nat) :
    Except Fault α :=
  match data[adr]? with
  | none => .error (.outOfBounds "data")
  | some b =>
    match map.lookup (b.signExtend 32) with
    | some v => .ok v
    | none => .error (.uncaught "std::out_of_range" "map::at")

/-- The constructor, with the bytes of the game file. -/
def init (data : List U8) : Except Fault GameInfo := do
  -- The byte for the old licence code is the last one that is read.
  if data.length ≤ kAdrOldLicense then throw (.outOfBounds "data")
  let cartridgeType ← mapAt cartridgeTypeMap data kAdrCartType
  let _ ← mapAt romSizeMap data kAdrRomSize
  let _ ← mapAt ramSizeMap data kAdrRamSize
  return { cartridgeType }

/-- The constructor. -/
def ofFile (files : Files) (gamePath : String) : Except Fault GameInfo :=
  match files gamePath with
  | some data => init data
  | none => .error (.runtimeError ("GameInfo: Failed to open file: " ++ gamePath))

end GameInfo

/-! ## The controllers -/

/-- `path.filename()`: what follows the last separator. -/
def filename (path : String) : String :=
  String.ofList (path.toList.reverse.takeWhile (· ≠ '/')).reverse

/-- `save_file`. -/
def saveFile (gamePath : String) : String := filename gamePath ++ ".save"

/-- The bytes that a text puts into a file. -/
def textBytes (s : String) : List U8 := s.toList.map fun c => BitVec.ofNat 8 c.toNat

namespace MemoryBankCtrler

variable {numRomBanks numRamBanks : Nat}

/-- The three statements that load the ROM, in every constructor. -/
def loadRom (files : Files) (gamePath bootPath : String) (quickBoot : Bool)
    (c : MemoryBankCtrler numRomBanks numRamBanks) :
    Except Fault (MemoryBankCtrler numRomBanks numRamBanks) := do
  let romLow ← c.romLow.loadFromPath files gamePath 0
  let romLow ← loadBootRom files bootPath quickBoot romLow
  let romHigh ← c.romHigh.loadFromPath files gamePath 0x4000
  return { c with romLow, romHigh }

/-- `if (exists(save_file)) ext_ram.LoadFromFile(save_file)`, in `Mbc1` and `Mbc3`. -/
def loadSave (files : Files) (gamePath : String) (c : MemoryBankCtrler numRomBanks numRamBanks) :
    Except Fault (MemoryBankCtrler numRomBanks numRamBanks) :=
  if (files (saveFile gamePath)).isSome then do
    let extRam ← c.extRam.loadFromPath files (saveFile gamePath) 0
    return { c with extRam }
  else .ok c

/-- The destructor: the symbols that have been traced. -/
def destroy (files : Files) (c : MemoryBankCtrler numRomBanks numRamBanks) : Files :=
  match c.symfileTracer with
  | some tracer => Function.update files "trace.sym" (some (textBytes (tracer.dumpTrace "")))
  | none => files

end MemoryBankCtrler

def Rom.ofFiles (files : Files) (gamePath bootPath : String) (symbolFile quickBoot : Bool) :
    Except Fault Rom := do
  cAssert (gamePath ≠ "") "game_path != \"\""
  let m : Rom := .init (fun _ => 0) (fun _ => 0) (fun _ => 0) symbolFile
  m.loadRom files gamePath bootPath quickBoot

def Mbc1.ofFiles (files : Files) (gamePath bootPath : String) (symbolFile quickBoot : Bool) :
    Except Fault Mbc1 := do
  let m := Mbc1.init (fun _ => 0) (fun _ => 0) (fun _ => 0) symbolFile
  let c ← m.loadRom files gamePath bootPath quickBoot
  let c ← c.loadSave files gamePath
  return { m with toMemoryBankCtrler := c }

def Mbc3.ofFiles (files : Files) (gamePath bootPath : String) (symbolFile quickBoot : Bool) :
    Except Fault Mbc3 := do
  let m := Mbc3.init (fun _ => 0) (fun _ => 0) (fun _ => 0) symbolFile
  let c ← m.loadRom files gamePath bootPath quickBoot
  let c ← c.loadSave files gamePath
  return { m with toMemoryBankCtrler := c }

def Mbc5.ofFiles (files : Files) (gamePath bootPath : String) (symbolFile quickBoot : Bool) :
    Except Fault Mbc5 := do
  let m := Mbc5.init (fun _ => 0) (fun _ => 0) (fun _ => 0) symbolFile
  let c ← m.loadRom files gamePath bootPath quickBoot
  return { m with toMemoryBankCtrler := c }

namespace Cartridge

/-- The constructor. -/
def ofFiles (files : Files) (gamePath bootPath : String) (symbolFile quickBoot : Bool) :
    Except Fault Cartridge := do
  let gameInfo ← GameInfo.ofFile files gamePath
  let crType := gameInfo.cartridgeType
  if crType = "ROM ONLY" then
    (Rom.ofFiles files gamePath bootPath symbolFile quickBoot).map .rom
  else if crType = "MBC1" ∨ crType = "MBC1+RAM" ∨ crType = "MBC1+BAT+RAM" then
    (Mbc1.ofFiles files gamePath bootPath symbolFile quickBoot).map .mbc1
  else if crType = "MBC3" ∨ crType = "MBC3+RAM" ∨ crType = "MBC3+BAT+RAM" then
    (Mbc3.ofFiles files gamePath bootPath symbolFile quickBoot).map .mbc3
  else if crType = "MBC5" ∨ crType = "MBC5+RAM" ∨ crType = "MBC5+BAT+RAM" then
    (Mbc5.ofFiles files gamePath bootPath symbolFile quickBoot).map .mbc5
  else throw (.runtimeError ("Cartidge type " ++ crType ++ " not implemented"))

/-- The destructor of the controller that was built from `gamePath`. The one of the derived class
    runs before that of the base. -/
def destroy (gamePath : String) (files : Files) (c : Cartridge) : Files :=
  match c with
  | .rom m => MemoryBankCtrler.destroy files m
  | .mbc1 m => m.destroy (m.extRam.toGenericMemory.saveToFile (saveFile gamePath) files)
  | .mbc3 m => m.destroy (m.extRam.toGenericMemory.saveToFile (saveFile gamePath) files)
  | .mbc5 m => m.destroy files

end Cartridge

/-! ## What the constructors load -/

theorem GenericMemory.overlayFirst_byte {memorySize : Nat} (n : Nat) (file : List U8) (offset : Nat)
    (m : GenericMemory memorySize) (i : Fin memorySize) :
    (m.overlayFirst n file offset).data i = m.data i ∨
      file[offset + i.val]? = some ((m.overlayFirst n file offset).data i) := by
  unfold overlayFirst
  dsimp only
  by_cases hlt : i.val < n
  · rw [if_pos hlt]
    cases hbyte : file[offset + i.val]? with
    | none => exact Or.inl rfl
    | some v => exact Or.inr rfl
  · rw [if_neg hlt]
    exact Or.inl rfl

/-- `LoadFromFile` changes bytes to those of the file at the offset. -/
theorem GenericMemory.loadFromFile_byte {memorySize : Nat} {file : List U8} {offset : Nat}
    {m m' : GenericMemory memorySize} (h : m.loadFromFile file offset = .ok m')
    (i : Fin memorySize) :
    m'.data i = m.data i ∨ file[offset + i.val]? = some (m'.data i) := by
  have hle : offset ≤ file.length := by
    by_contra hgt
    rw [loadFromFile, cAssert_neg hgt] at h
    cases h
  have hpos : 0 ≤ requestedSize memorySize file offset := by
    by_contra hneg
    rw [loadFromFile_negative hle (by omega)] at h
    cases h
  obtain ⟨n, hn⟩ := Int.eq_ofNat_of_zero_le hpos
  rw [loadFromFile_ok hle hn] at h
  cases h
  exact m.overlayFirst_byte n file offset i

/-- `LoadFromData` changes bytes to those of the data. -/
theorem GenericMemory.loadFromData_byte {memorySize : Nat} (data : List U8)
    (m : GenericMemory memorySize) (i : Fin memorySize) :
    (m.loadFromData data).data i = m.data i ∨
      data[i.val]? = some ((m.loadFromData data).data i) := by
  have hbyte := m.overlayFirst_byte (min data.length memorySize) data 0 i
  unfold overlayFirst at hbyte
  simp only [Nat.zero_add] at hbyte
  exact hbyte

/-- The bytes that `loadBootRom` takes. -/
def bootRom (files : Files) (bootPath : String) (quickBoot : Bool) : Option (List U8) :=
  if bootPath.isEmpty then some (if quickBoot then DmgRom.kQuickBootSpan else DmgRom.kSpan)
  else files bootPath

theorem loadBootRom_byte {memorySize : Nat} {files : Files} {bootPath : String} {quickBoot : Bool}
    {m m' : GenericMemory memorySize} (h : loadBootRom files bootPath quickBoot m = .ok m')
    (i : Fin memorySize) : m'.data i = m.data i ∨
      ∃ boot, bootRom files bootPath quickBoot = some boot ∧ boot[i.val]? = some (m'.data i) := by
  unfold loadBootRom at h
  unfold bootRom
  by_cases hpath : bootPath.isEmpty = true
  · rw [if_pos hpath] at h ⊢
    generalize DmgRom.kQuickBootSpan = quick at h ⊢
    generalize DmgRom.kSpan = span at h ⊢
    have hdata : m.loadFromData (if quickBoot then quick else span) = m' := by
      split_ifs at h ⊢ <;> exact Except.ok.inj h
    rw [← hdata]
    exact (m.loadFromData_byte _ i).imp_right fun hbyte => ⟨_, rfl, hbyte⟩
  · rw [if_neg hpath] at h ⊢
    cases hfile : files bootPath with
    | none =>
      rw [GenericMemory.loadFromPath, hfile] at h
      cases h
    | some boot =>
      rw [GenericMemory.loadFromPath, hfile] at h
      have hbyte := GenericMemory.loadFromFile_byte h i
      rw [Nat.zero_add] at hbyte
      exact hbyte.imp_right fun hbyte => ⟨boot, rfl, hbyte⟩

namespace MemoryBankCtrler

variable {numRomBanks numRamBanks : Nat}

/-- Loading the ROM changes the two ROM memories. -/
theorem loadRom_ok {files : Files} {gamePath bootPath : String} {quickBoot : Bool}
    {c c' : MemoryBankCtrler numRomBanks numRamBanks}
    (h : c.loadRom files gamePath bootPath quickBoot = .ok c') :
    ∃ low high, c' = { c with romLow := low, romHigh := { c.romHigh with data := high } } := by
  obtain ⟨low, -, h⟩ := StateExcept.except_bind_eq_ok h
  obtain ⟨low', -, h⟩ := StateExcept.except_bind_eq_ok h
  obtain ⟨high, hhigh, h⟩ := StateExcept.except_bind_eq_ok h
  obtain ⟨g, -, hg⟩ := StateExcept.except_bind_eq_ok hhigh
  cases hg
  cases h
  exact ⟨low', g.data, rfl⟩

/-- `rom_low` has the first bytes of the image, and over them those of the boot ROM. -/
theorem loadRom_lowByte {files : Files} {gamePath bootPath : String} {quickBoot : Bool}
    {c c' : MemoryBankCtrler numRomBanks numRamBanks} {game : List U8}
    (hgame : files gamePath = some game)
    (h : c.loadRom files gamePath bootPath quickBoot = .ok c') (k : Fin 0x4000) :
    c'.romLow.data k = c.romLow.data k ∨ game[k.val]? = some (c'.romLow.data k) ∨
      ∃ boot, bootRom files bootPath quickBoot = some boot ∧
        boot[k.val]? = some (c'.romLow.data k) := by
  obtain ⟨low, hlow, h⟩ := StateExcept.except_bind_eq_ok h
  obtain ⟨low', hboot, h⟩ := StateExcept.except_bind_eq_ok h
  obtain ⟨high, -, h⟩ := StateExcept.except_bind_eq_ok h
  rw [GenericMemory.loadFromPath, hgame] at hlow
  cases h
  rcases loadBootRom_byte hboot k with hkept | hloaded
  · have hbyte := GenericMemory.loadFromFile_byte hlow k
    rw [Nat.zero_add, ← hkept] at hbyte
    exact hbyte.imp_right Or.inl
  · exact Or.inr (Or.inr hloaded)

/-- `rom_high` has the bytes of the image from 0x4000 on. -/
theorem loadRom_high {files : Files} {gamePath bootPath : String} {quickBoot : Bool}
    {c c' : MemoryBankCtrler numRomBanks numRamBanks} {game : List U8}
    (hgame : files gamePath = some game)
    (h : c.loadRom files gamePath bootPath quickBoot = .ok c') (k : Fin (numRomBanks * 0x4000)) :
    c'.romHigh.data k = c.romHigh.data k ∨
      game[0x4000 + k.val]? = some (c'.romHigh.data k) := by
  obtain ⟨low, -, h⟩ := StateExcept.except_bind_eq_ok h
  obtain ⟨low', -, h⟩ := StateExcept.except_bind_eq_ok h
  obtain ⟨high, hhigh, h⟩ := StateExcept.except_bind_eq_ok h
  obtain ⟨g, hg, hdata⟩ := StateExcept.except_bind_eq_ok hhigh
  rw [GenericMemory.loadFromPath, hgame] at hg
  cases hdata
  cases h
  exact GenericMemory.loadFromFile_byte hg k

/-- A game of at least one bank that fits and the built-in boot ROM load. -/
theorem loadRom_succeeds {files : Files} {gamePath : String} {game : List U8}
    (hgame : files gamePath = some game) (hlength : 0x4000 ≤ game.length)
    (hfits : game.length ≤ 0x4000 + numRomBanks * 0x4000) (quickBoot : Bool)
    (c : MemoryBankCtrler numRomBanks numRamBanks) :
    ∃ c', c.loadRom files gamePath "" quickBoot = .ok c' := by
  have hboot : ∃ low, loadBootRom files "" quickBoot (c.romLow.overlay game) = .ok low := by
    cases quickBoot <;> exact ⟨_, rfl⟩
  obtain ⟨low, hboot⟩ := hboot
  have hhigh : c.romHigh.toGenericMemory.loadFromFile game 0x4000 =
      .ok (c.romHigh.toGenericMemory.overlayFirst (game.length - 0x4000) game 0x4000) := by
    refine GenericMemory.loadFromFile_ok hlength ?_ _
    unfold GenericMemory.requestedSize
    split_ifs <;> omega
  rw [loadRom, GenericMemory.loadFromPath, hgame]
  dsimp only
  rw [GenericMemory.loadFromFile_zero, ok_bind, hboot, ok_bind, BankSwitchedMem.loadFromPath,
    GenericMemory.loadFromPath, hgame]
  dsimp only
  rw [hhigh]
  exact ⟨_, rfl⟩

/-- The bytes of the save file, over `data`. -/
def savedRam {n : Nat} (files : Files) (gamePath : String) (data : Fin n → U8) : Fin n → U8 :=
  fun i => ((files (saveFile gamePath)).bind fun file => file[i.val]?).getD (data i)

theorem loadSave_eq (files : Files) (gamePath : String)
    (c : MemoryBankCtrler numRomBanks numRamBanks) : c.loadSave files gamePath =
      .ok { c with
        extRam := { c.extRam with data := savedRam files gamePath c.extRam.data } } := by
  unfold loadSave savedRam
  cases hfile : files (saveFile gamePath) with
  | none => rfl
  | some file =>
    have hload : c.extRam.loadFromPath files (saveFile gamePath) 0 =
        .ok { c.extRam with data := fun i => (file[i.val]?).getD (c.extRam.data i) } := by
      rw [BankSwitchedMem.loadFromPath, GenericMemory.loadFromPath, hfile]
      dsimp only
      rw [GenericMemory.loadFromFile_zero]
      rfl
    rw [Option.isSome_some, if_pos rfl, hload]
    rfl

end MemoryBankCtrler

/-- The start of an `Mbc1`: the registers are clear, and the RAM is the save file. -/
theorem Mbc1.ofFiles_init {files : Files} {gamePath bootPath : String} {symbolFile quickBoot : Bool}
    {m : Mbc1} (h : ofFiles files gamePath bootPath symbolFile quickBoot = .ok m) :
    ∃ low high, m =
      .init low high (MemoryBankCtrler.savedRam files gamePath fun _ => 0) symbolFile := by
  obtain ⟨c, hrom, h⟩ := StateExcept.except_bind_eq_ok h
  obtain ⟨low, high, rfl⟩ := MemoryBankCtrler.loadRom_ok hrom
  rw [MemoryBankCtrler.loadSave_eq] at h
  cases h
  exact ⟨low.data, high, rfl⟩

theorem Mbc3.ofFiles_init {files : Files} {gamePath bootPath : String} {symbolFile quickBoot : Bool}
    {m : Mbc3} (h : ofFiles files gamePath bootPath symbolFile quickBoot = .ok m) :
    ∃ low high, m =
      .init low high (MemoryBankCtrler.savedRam files gamePath fun _ => 0) symbolFile := by
  obtain ⟨c, hrom, h⟩ := StateExcept.except_bind_eq_ok h
  obtain ⟨low, high, rfl⟩ := MemoryBankCtrler.loadRom_ok hrom
  rw [MemoryBankCtrler.loadSave_eq] at h
  cases h
  exact ⟨low.data, high, rfl⟩

/-- The start of an `Mbc5`: the RAM is clear, whatever the files are. -/
theorem Mbc5.ofFiles_init {files : Files} {gamePath bootPath : String} {symbolFile quickBoot : Bool}
    {m : Mbc5} (h : ofFiles files gamePath bootPath symbolFile quickBoot = .ok m) :
    ∃ low high, m = .init low high (fun _ => 0) symbolFile := by
  obtain ⟨c, hrom, h⟩ := StateExcept.except_bind_eq_ok h
  obtain ⟨low, high, rfl⟩ := MemoryBankCtrler.loadRom_ok hrom
  cases h
  exact ⟨low.data, high, rfl⟩

/-! ## Games with a header -/

/-- A game with the type byte in its header and zeros in the rest of the first bank, and then the
    other banks. -/
def gameOfType (type : U8) (banks : List U8) : List U8 :=
  List.replicate 0x147 0 ++ type :: (List.replicate 0x3EB8 0 ++ banks)

theorem gameOfType_length (type : U8) (banks : List U8) :
    (gameOfType type banks).length = 0x4000 + banks.length := by
  rw [gameOfType, List.length_append, List.length_replicate, List.length_cons, List.length_append,
    List.length_replicate]
  omega

theorem gameOfType_header (type : U8) (banks : List U8) :
    (gameOfType type banks)[0x147]? = some type ∧ (gameOfType type banks)[0x148]? = some 0 ∧
      (gameOfType type banks)[0x149]? = some 0 := by
  have hright : ∀ i, (gameOfType type banks)[0x147 + i]? =
      (type :: (List.replicate 0x3EB8 0 ++ banks))[i]? := by
    intro i
    rw [gameOfType, List.getElem?_append_right (by rw [List.length_replicate]; omega),
      List.length_replicate, Nat.add_sub_cancel_left]
  have hzero : ∀ i < 0x3EB8, (gameOfType type banks)[0x147 + (i + 1)]? = some 0 := by
    intro i hi
    rw [hright, List.getElem?_cons_succ,
      List.getElem?_append_left (by rw [List.length_replicate]; exact hi),
      List.getElem?_replicate, if_pos hi]
  exact ⟨hright 0, hzero 0 (by omega), hzero 1 (by omega)⟩

theorem gameOfType_info {type : U8} {name : String} (banks : List U8)
    (hname : GameInfo.cartridgeTypeMap.lookup (type.signExtend 32) = some name) :
    GameInfo.init (gameOfType type banks) = .ok { cartridgeType := name } := by
  obtain ⟨htype, hrom, hram⟩ := gameOfType_header type banks
  have htypeAt : GameInfo.mapAt GameInfo.cartridgeTypeMap (gameOfType type banks)
      GameInfo.kAdrCartType = .ok name := by
    rw [GameInfo.mapAt, GameInfo.kAdrCartType, htype]
    dsimp only
    rw [hname]
  have hromAt : GameInfo.mapAt GameInfo.romSizeMap (gameOfType type banks)
      GameInfo.kAdrRomSize = .ok 0 := by
    rw [GameInfo.mapAt, GameInfo.kAdrRomSize, hrom]
    rfl
  have hramAt : GameInfo.mapAt GameInfo.ramSizeMap (gameOfType type banks)
      GameInfo.kAdrRamSize = .ok 0 := by
    rw [GameInfo.mapAt, GameInfo.kAdrRamSize, hram]
    rfl
  have hlong : ¬ (gameOfType type banks).length ≤ GameInfo.kAdrOldLicense := by
    rw [gameOfType_length, GameInfo.kAdrOldLicense]
    omega
  rw [GameInfo.init, if_neg hlong, htypeAt, hromAt, hramAt]
  rfl

section

variable {files : Files} {gamePath : String} {banks : List U8}

theorem GameInfo.ofFile_gameOfType {type : U8} {name : String}
    (hgame : files gamePath = some (gameOfType type banks))
    (hname : cartridgeTypeMap.lookup (type.signExtend 32) = some name) :
    ofFile files gamePath = .ok { cartridgeType := name } := by
  rw [ofFile, hgame]
  exact gameOfType_info banks hname

variable (symbolFile quickBoot : Bool)

/-- The constructor takes an MBC1 game with a battery. -/
theorem Cartridge.ofFiles_mbc1 (hgame : files gamePath = some (gameOfType 0x03 banks))
    (hfits : banks.length ≤ 128 * 0x4000) :
    ∃ low high, ofFiles files gamePath "" symbolFile quickBoot = .ok (.mbc1
      (.init low high (MemoryBankCtrler.savedRam files gamePath fun _ => 0) symbolFile)) := by
  have hlength := gameOfType_length 0x03 banks
  have hinfo : GameInfo.ofFile files gamePath = .ok { cartridgeType := "MBC1+BAT+RAM" } :=
    GameInfo.ofFile_gameOfType hgame rfl
  obtain ⟨c, hload⟩ := @MemoryBankCtrler.loadRom_succeeds _ _ files gamePath _ hgame
    (by omega) (by omega) quickBoot
    (Mbc1.init (fun _ => 0) (fun _ => 0) (fun _ => 0) symbolFile).toMemoryBankCtrler
  obtain ⟨low, high, rfl⟩ := MemoryBankCtrler.loadRom_ok hload
  rw [ofFiles, hinfo, ok_bind]
  dsimp only
  rw [if_neg (by decide), if_pos (by decide), Mbc1.ofFiles, hload, ok_bind,
    MemoryBankCtrler.loadSave_eq]
  exact ⟨low.data, high, rfl⟩

/-- And an MBC5 game with a battery. -/
theorem Cartridge.ofFiles_mbc5 (hgame : files gamePath = some (gameOfType 0x1B banks))
    (hfits : banks.length ≤ 512 * 0x4000) :
    ∃ low high, ofFiles files gamePath "" symbolFile quickBoot =
      .ok (.mbc5 (.init low high (fun _ => 0) symbolFile)) := by
  have hlength := gameOfType_length 0x1B banks
  have hinfo : GameInfo.ofFile files gamePath = .ok { cartridgeType := "MBC5+BAT+RAM" } :=
    GameInfo.ofFile_gameOfType hgame rfl
  obtain ⟨c, hload⟩ := @MemoryBankCtrler.loadRom_succeeds _ _ files gamePath _ hgame
    (by omega) (by omega) quickBoot
    (Mbc5.init (fun _ => 0) (fun _ => 0) (fun _ => 0) symbolFile).toMemoryBankCtrler
  obtain ⟨low, high, rfl⟩ := MemoryBankCtrler.loadRom_ok hload
  rw [ofFiles, hinfo, ok_bind]
  dsimp only
  rw [if_neg (by decide), if_neg (by decide), if_neg (by decide), if_pos (by decide), Mbc5.ofFiles,
    hload]
  exact ⟨low.data, high, rfl⟩

end

end TlmBoy
