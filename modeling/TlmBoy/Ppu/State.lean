import TlmBoy.GbTop
import TlmBoy.Lib.StateExcept

/-
  The PPU's state: its pixel buffers, the window counter and the user's render flags.

  The registers that the PPU reads and writes through its DMI pointers are bytes of
  `IoRegisters`; they are functions of `Gb` here, under the names of the pointers. A colour is
  one of four, so it is two bits, and a sprite pixel is a colour or none
  (`Colors::Transparent`). Of `bg_buffer` only the 144 rows and 160 columns of the screen are
  ever accessed.
-/

namespace TlmBoy

/-! ## Lines -/

-- The screen has 144 lines and the V-Blank takes ten more. These are for the numerals.
instance instNeZeroLines : NeZero 144 := ⟨by decide⟩
instance instNeZeroVBlankLines : NeZero 10 := ⟨by decide⟩

/-! ## Registers -/

namespace Gb

def regLcdc (gb : Gb) : U8 := gb.ioRegisters.data 0x30
def regStat (gb : Gb) : U8 := gb.ioRegisters.data 0x31
def regScrollY (gb : Gb) : U8 := gb.ioRegisters.data 0x32
def regScrollX (gb : Gb) : U8 := gb.ioRegisters.data 0x33
def regLcdcY (gb : Gb) : U8 := gb.ioRegisters.data 0x34
def regLyComp (gb : Gb) : U8 := gb.ioRegisters.data 0x35
def regBgp (gb : Gb) : U8 := gb.ioRegisters.data 0x37
def regObp0 (gb : Gb) : U8 := gb.ioRegisters.data 0x38
def regObp1 (gb : Gb) : U8 := gb.ioRegisters.data 0x39
def regWndwY (gb : Gb) : U8 := gb.ioRegisters.data 0x3A
def regWndwX (gb : Gb) : U8 := gb.ioRegisters.data 0x3B

/-- A write through one of the PPU's pointers to the I/O registers. -/
def setIoReg (i : Fin 0x80) (v : U8) (gb : Gb) : Gb :=
  { gb with ioRegisters := { gb.ioRegisters with
      data := Function.update gb.ioRegisters.data i v } }

theorem setIoReg_data (i k : Fin 0x80) (v : U8) (gb : Gb) :
    (gb.setIoReg i v).ioRegisters.data k = if k = i then v else gb.ioRegisters.data k :=
  Function.update_apply gb.ioRegisters.data i v k

/-- `SetBit(reg_stat, val, bit_index)`. -/
def setStatBit (val : Bool) (bitIndex : Nat) (gb : Gb) : Gb :=
  gb.setIoReg 0x31 (setBit gb.regStat val bitIndex)

def setRegLcdcY (v : U8) (gb : Gb) : Gb := gb.setIoReg 0x34 v

/-- `*reg_intr_pending_dmi |= mask`. -/
def raiseIntr (mask : U8) (gb : Gb) : Gb := { gb with regIf := ⟨fun _ => gb.regIf.data 0 ||| mask⟩ }

/-- A byte of video RAM by its offset, which the PPU computes in `int`. -/
def videoByte (offset : Int) (gb : Gb) : Except Fault U8 :=
  if h : 0 ≤ offset ∧ offset < 8192 then .ok (gb.videoRam.data ⟨offset.toNat, by omega⟩)
  else .error (.outOfBounds "video_ram")

/-- `oam_table[i * kOamEntryBytes + k]`. -/
def oamByte (i : Fin 40) (k : Fin 4) (gb : Gb) : U8 :=
  gb.objAttrMem.data ⟨i.val * 4 + k.val, by omega⟩

end Gb

/-! ## `Ppu` -/

/-- A colour number, 0 (white) to 3 (black). -/
abbrev Color := BitVec 2

structure Ppu where
  bgBuffer : Fin 144 → Fin 160 → Color
  spriteBuffer : Fin 144 → Fin 160 → Option Color
  /-- `window_line_`, which no constructor initialises. -/
  windowLine : Int
  uiRenderBg : Bool := true
  uiRenderSprites : Bool := true
  uiRenderWndw : Bool := true

/-- A member function of `Ppu`. -/
abbrev PpuM := StateT Ppu (Except Fault)

namespace Ppu

def kMaskLcdControl : U8 := 0b10000000
def kMaskWndwTileMapSlct : U8 := 0b01000000
def kMaskWndwDisp : U8 := 0b00100000
def kMaskBgWndwTileDataSlct : U8 := 0b00010000
def kMaskBgTileSlct : U8 := 0b00001000
def kMaskObjSpriteSize : U8 := 0b00000100
def kMaskObjSpriteDisp : U8 := 0b00000010
def kMaskBgWndwDisp : U8 := 0b00000001

def kMaskVBlankIE : U8 := 0b0001
def kMaskLcdcStatIf : U8 := 0b0010

/-- The constructor, with the value that the memory of `window_line_` happens to hold. -/
def init (windowLine : Int) : Ppu :=
  { bgBuffer := fun _ _ => 0, spriteBuffer := fun _ _ => none, windowLine }

/-- `bg_buffer[y][x] = v`. -/
def setBg (y : Fin 144) (x : Fin 160) (v : Color) (p : Ppu) : Ppu :=
  { p with bgBuffer := Function.update p.bgBuffer y (Function.update (p.bgBuffer y) x v) }

/-- `sprite_buffer[y][x] = v`. -/
def setSprite (y : Fin 144) (x : Fin 160) (v : Color) (p : Ppu) : Ppu :=
  { p with spriteBuffer :=
      Function.update p.spriteBuffer y (Function.update (p.spriteBuffer y) x (some v)) }

/-- The loop that sets a line of `bg_buffer` to 0. -/
def clearBgLine (y : Fin 144) (p : Ppu) : Ppu :=
  { p with bgBuffer := Function.update p.bgBuffer y fun _ => 0 }

end Ppu

end TlmBoy
