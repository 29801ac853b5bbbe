import TlmBoy.Bus.Reads

/-
  The bytes of a cartridge's ROM memories.

  A byte is named by where it is stored, so a name stays the same when the bank is switched.
  `romAt` is the one that an address of the ROM window names: below 0x4000 it is the same in every
  bank, and from 0x4000 on it lies in the current one. `blankRom` forgets the bytes and keeps the
  rest of the cartridge.
-/

namespace TlmBoy

inductive RomByte where
  | low (i : Fin 0x4000)
  | high (bank : Nat) (i : Fin 0x4000)
deriving DecidableEq

/-- The address in the window at which the byte is shown. -/
def RomByte.address : RomByte → Nat
  | .low i => i.val
  | .high _ i => 0x4000 + i.val

namespace MemoryBankCtrler

variable {numRomBanks numRamBanks : Nat}

def getRom (b : RomByte) (c : MemoryBankCtrler numRomBanks numRamBanks) : Option U8 :=
  match b with
  | .low i => some (c.romLow.data i)
  | .high bank i =>
    if h : bank < numRomBanks then some (c.romHigh.data (BankSwitchedMem.cell ⟨bank, h⟩ i))
    else none

def putRom (b : RomByte) (v : U8) (c : MemoryBankCtrler numRomBanks numRamBanks) :
    MemoryBankCtrler numRomBanks numRamBanks :=
  match b with
  | .low i => { c with romLow := ⟨Function.update c.romLow.data i v⟩ }
  | .high bank i =>
    if h : bank < numRomBanks then
      { c with romHigh := { c.romHigh with
        data := Function.update c.romHigh.data (BankSwitchedMem.cell ⟨bank, h⟩ i) v } }
    else c

theorem offset_lt (a : Fin 0x8000) : a.val - 0x4000 < 0x4000 := by omega

/-- The byte that an address of the ROM window names. -/
def romAt (a : Fin 0x8000) (c : MemoryBankCtrler numRomBanks numRamBanks) : RomByte :=
  if h : a.val < 0x4000 then .low ⟨a.val, h⟩
  else .high c.romHigh.currentBankInd.val ⟨a.val - 0x4000, offset_lt a⟩

def blankRom (c : MemoryBankCtrler numRomBanks numRamBanks) :
    MemoryBankCtrler numRomBanks numRamBanks :=
  { c with romLow := ⟨fun _ => 0⟩, romHigh := { c.romHigh with data := fun _ => 0 } }

theorem getRom_romAt (a : Fin 0x8000) (c : MemoryBankCtrler numRomBanks numRamBanks) :
    c.getRom (c.romAt a) = some (c.romByte a) := by
  unfold romAt romByte
  by_cases hlow : a.val < 0x4000
  · rw [dif_pos hlow, dif_pos hlow]
    rfl
  · rw [dif_neg hlow, dif_neg hlow]
    exact dif_pos c.romHigh.currentBankInd.isLt

theorem address_romAt (a : Fin 0x8000) (c : MemoryBankCtrler numRomBanks numRamBanks) :
    (c.romAt a).address = a.val := by
  unfold romAt
  by_cases hlow : a.val < 0x4000
  · rw [dif_pos hlow]
    rfl
  · rw [dif_neg hlow]
    show 0x4000 + (a.val - 0x4000) = a.val
    omega

theorem getRom_putRom (b b' : RomByte) (v : U8) (c : MemoryBankCtrler numRomBanks numRamBanks) :
    (c.putRom b v).getRom b' = if b' = b then (c.getRom b').map fun _ => v else c.getRom b' := by
  cases b with
  | low i =>
    cases b' with
    | low i' => by_cases h : i' = i <;> simp [getRom, putRom, h]
    | high bank' i' => rfl
  | high bank i =>
    by_cases hbank : bank < numRomBanks
    · cases b' with
      | low i' => simp [getRom, putRom, hbank]
      | high bank' i' =>
        by_cases hbank' : bank' < numRomBanks
        · by_cases h : bank' = bank ∧ i' = i
          · simp [getRom, putRom, hbank, h]
          · simp [getRom, putRom, hbank, hbank', BankSwitchedMem.cell_inj, h]
        · simp [getRom, hbank']
    · rw [show c.putRom (.high bank i) v = c from dif_neg hbank]
      by_cases h : b' = .high bank i
      · rw [h, if_pos rfl, show c.getRom (.high bank i) = none from dif_neg hbank]
        rfl
      · rw [if_neg h]

theorem blankRom_putRom (b : RomByte) (v : U8) (c : MemoryBankCtrler numRomBanks numRamBanks) :
    (c.putRom b v).blankRom = c.blankRom := by
  cases b with
  | low i => rfl
  | high bank i =>
    by_cases hbank : bank < numRomBanks
    · rw [show c.putRom (.high bank i) v = _ from dif_pos hbank]
      rfl
    · rw [show c.putRom (.high bank i) v = c from dif_neg hbank]

end MemoryBankCtrler

namespace Cartridge

def getRom (b : RomByte) (c : Cartridge) : Option U8 :=
  match c with
  | .rom m => m.getRom b
  | .mbc1 m => m.getRom b
  | .mbc3 m => m.getRom b
  | .mbc5 m => m.getRom b

def putRom (b : RomByte) (v : U8) (c : Cartridge) : Cartridge :=
  match c with
  | .rom m => .rom (m.putRom b v)
  | .mbc1 m => .mbc1 { m with toMemoryBankCtrler := m.putRom b v }
  | .mbc3 m => .mbc3 { m with toMemoryBankCtrler := m.putRom b v }
  | .mbc5 m => .mbc5 { m with toMemoryBankCtrler := m.putRom b v }

/-- The byte that an address of the ROM window names. -/
def romAt (a : Fin 0x8000) (c : Cartridge) : RomByte :=
  match c with
  | .rom m => m.romAt a
  | .mbc1 m => m.romAt a
  | .mbc3 m => m.romAt a
  | .mbc5 m => m.romAt a

/-- The cartridge without the bytes of its ROM. -/
def blankRom (c : Cartridge) : Cartridge :=
  match c with
  | .rom m => .rom m.blankRom
  | .mbc1 m => .mbc1 { m with toMemoryBankCtrler := m.blankRom }
  | .mbc3 m => .mbc3 { m with toMemoryBankCtrler := m.blankRom }
  | .mbc5 m => .mbc5 { m with toMemoryBankCtrler := m.blankRom }

/-- What the window shows is the byte that the address names. -/
theorem getRom_romAt (a : Fin 0x8000) (c : Cartridge) :
    c.getRom (c.romAt a) = some (c.romByte a) := by
  cases c with
  | rom m => exact MemoryBankCtrler.getRom_romAt a m
  | mbc1 m => exact m.toMemoryBankCtrler.getRom_romAt a
  | mbc3 m => exact m.toMemoryBankCtrler.getRom_romAt a
  | mbc5 m => exact m.toMemoryBankCtrler.getRom_romAt a

theorem getRom_putRom (b b' : RomByte) (v : U8) (c : Cartridge) :
    (c.putRom b v).getRom b' = if b' = b then (c.getRom b').map fun _ => v else c.getRom b' := by
  cases c with
  | rom m => exact MemoryBankCtrler.getRom_putRom b b' v m
  | mbc1 m => exact m.toMemoryBankCtrler.getRom_putRom b b' v
  | mbc3 m => exact m.toMemoryBankCtrler.getRom_putRom b b' v
  | mbc5 m => exact m.toMemoryBankCtrler.getRom_putRom b b' v

theorem blankRom_putRom (b : RomByte) (v : U8) (c : Cartridge) :
    (c.putRom b v).blankRom = c.blankRom := by
  cases c with
  | rom m => exact congrArg Cartridge.rom (MemoryBankCtrler.blankRom_putRom b v m)
  | mbc1 m =>
    have h := m.toMemoryBankCtrler.blankRom_putRom b v
    exact congrArg (fun k => Cartridge.mbc1 { m with toMemoryBankCtrler := k }) h
  | mbc3 m =>
    have h := m.toMemoryBankCtrler.blankRom_putRom b v
    exact congrArg (fun k => Cartridge.mbc3 { m with toMemoryBankCtrler := k }) h
  | mbc5 m =>
    have h := m.toMemoryBankCtrler.blankRom_putRom b v
    exact congrArg (fun k => Cartridge.mbc5 { m with toMemoryBankCtrler := k }) h

theorem ramGate_putRom (b : RomByte) (v : U8) (c : Cartridge) :
    (c.putRom b v).ramGate = c.ramGate := by
  cases c with
  | rom m => rfl
  | mbc1 m => rfl
  | mbc3 m => rfl
  | mbc5 m => rfl

theorem romAt_blankRom (a : Fin 0x8000) (c : Cartridge) : c.blankRom.romAt a = c.romAt a := by
  cases c with
  | rom m => rfl
  | mbc1 m => rfl
  | mbc3 m => rfl
  | mbc5 m => rfl

/-- An address names the same byte as long as nothing but bytes of the ROM change. -/
theorem romAt_of_blankRom {c c' : Cartridge} (h : c'.blankRom = c.blankRom) (a : Fin 0x8000) :
    c'.romAt a = c.romAt a := by
  rw [← romAt_blankRom a c', h, romAt_blankRom]

theorem address_romAt (a : Fin 0x8000) (c : Cartridge) : (c.romAt a).address = a.val := by
  cases c with
  | rom m => exact MemoryBankCtrler.address_romAt a m
  | mbc1 m => exact m.toMemoryBankCtrler.address_romAt a
  | mbc3 m => exact m.toMemoryBankCtrler.address_romAt a
  | mbc5 m => exact m.toMemoryBankCtrler.address_romAt a

end Cartridge

end TlmBoy
