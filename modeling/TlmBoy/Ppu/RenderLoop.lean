import TlmBoy.Ppu.Draw

/-
  `Ppu::RenderLoop` as a process that other processes interrupt at its waits.

  `Phase` is the wait that the loop is in, and `resume` runs it to its next one. Between two of
  these, other processes run; what they do to the devices is a bus transaction, by the guest
  through `b_transport` or by the debugger through `transport_dbg`, which is the same function
  for the I/O registers. `Lcd` also records what `CheckLycInterrupt` found last, how often it has
  requested its interrupt, and the picture that the game window composed last.
-/

namespace TlmBoy

namespace Gb

/-- `ly_coinc`. -/
def lyCoinc (gb : Gb) : Bool := gb.regLyComp == gb.regLcdcY

def checkLycInterrupt (gb : Gb) : Gb :=
  let lyCoincInterrupt := (gb.regStat &&& 0b01000000) != 0
  let gb' := if lyCoincInterrupt && gb.lyCoinc then gb.raiseIntr Ppu.kMaskLcdcStatIf else gb
  gb'.setStatBit gb.lyCoinc 2

/-- The call of `CheckLycInterrupt` requests the interrupt: it sets the bit of IF if it finds it
    clear. -/
def requestsLyc (gb : Gb) : Bool :=
  let clear : Gb := { gb with regIf := ⟨fun _ => gb.regIf.data 0 &&& ~~~Ppu.kMaskLcdcStatIf⟩ }
  (clear.checkLycInterrupt.regIf.data 0 &&& Ppu.kMaskLcdcStatIf) != 0

/-- The interrupt of the H-Blank, where bit 3 of STAT enables it. -/
def hBlankIntr (gb : Gb) : Gb :=
  if (gb.regStat &&& 0b00001000) ≠ 0 then gb.raiseIntr Ppu.kMaskLcdcStatIf else gb

end Gb

/-- The three calls that draw a line. -/
def Ppu.drawLine (i : Fin 144) (gb : Gb) : PpuM Unit := do
  drawBgToLine i gb
  drawWndwToLine i gb
  drawSpriteToLine i gb

/-! ## The process -/

/-- Where `RenderLoop` waits: before its first line, in the three modes of a visible line, or in
    a line of the V-Blank. -/
inductive Phase where
  | start
  | oamSearch (i : Fin 144)
  | transfer (i : Fin 144)
  | hBlank (i : Fin 144)
  | vBlank (j : Fin 10)
deriving DecidableEq, Repr

/-- What `game_wndw` is: a window on the screen, or none in headless mode. -/
inductive Window where
  | game
  | dummy
deriving DecidableEq, Repr

structure Lcd where
  gb : Gb
  ppu : Ppu
  window : Window
  phase : Phase := .start
  /-- `ly_coinc` of the last `CheckLycInterrupt`, false before the first one. -/
  lyCoinc : Bool := false
  /-- How many calls of `CheckLycInterrupt` have requested the interrupt. -/
  lycRequests : Nat := 0
  /-- The picture that the game window composed last. -/
  screen : Option Ppu.Picture := none

namespace Lcd

/-- `start_of_simulation` sets LY to 0. -/
def init (gb : Gb) (windowLine : Int) (window : Window) : Lcd :=
  { gb := gb.setRegLcdcY 0, ppu := .init windowLine, window }

/-- `CheckLycInterrupt()`, with the record of it. -/
def checkLyc (l : Lcd) : Lcd :=
  { l with
    gb := l.gb.checkLycInterrupt
    lyCoinc := l.gb.lyCoinc
    lycRequests := l.lycRequests + if l.gb.requestsLyc then 1 else 0 }

/-- `++(*reg_lcdc_y)`. -/
def incLcdcY (l : Lcd) : Lcd := { l with gb := l.gb.setRegLcdcY (l.gb.regLcdcY + 1) }

/-- The start of a visible line, in mode 2. -/
def beginLine (i : Fin 144) (l : Lcd) : Lcd :=
  { l with gb := (l.gb.setStatBit false 0).setStatBit true 1, phase := .oamSearch i }

/-- The end of a visible line, in mode 0. -/
def endLine (i : Fin 144) (l : Lcd) : Except Fault Lcd := do
  let gb := (l.gb.setStatBit false 0).setStatBit false 1
  let (_, ppu) ← (Ppu.drawLine i gb).run l.ppu
  let l := incLcdcY { l with gb, ppu }
  let l := checkLyc { l with gb := l.gb.hBlankIntr }
  return { l with phase := .hBlank i }

/-- `game_wndw->DrawToScreen(*this)`. -/
def drawToScreen (palette : Ppu.Palette) (l : Lcd) : Lcd :=
  match l.window with
  | .dummy => l
  | .game =>
    let (picture, ppu) := Ppu.drawToScreen palette l.gb l.ppu
    { l with ppu, screen := picture.or l.screen }

/-- The start of the V-Blank, in mode 1. -/
def beginVBlank (palette : Ppu.Palette) (l : Lcd) : Lcd :=
  let l := { l with ppu := { l.ppu with windowLine := 0 }, gb := l.gb.setStatBit true 0 }
  let l := l.drawToScreen palette
  { l with gb := l.gb.raiseIntr Ppu.kMaskVBlankIE, phase := .vBlank 0 }

/-- The end of the last line of the V-Blank. -/
def endFrame (l : Lcd) : Lcd := (checkLyc { l with gb := l.gb.setRegLcdcY 0 }).beginLine 0

/-- `RenderLoop` from the end of a wait to the next one. -/
def resume (palette : Ppu.Palette) (l : Lcd) : Except Fault Lcd :=
  match l.phase with
  | .start => .ok (l.beginLine 0)
  | .oamSearch i => .ok { l with gb := l.gb.setStatBit true 0, phase := .transfer i }
  | .transfer i => l.endLine i
  | .hBlank i =>
    .ok (if h : i.val + 1 < 144 then l.beginLine ⟨i.val + 1, h⟩ else l.beginVBlank palette)
  | .vBlank j =>
    let l := l.incLcdcY.checkLyc
    .ok (if h : j.val + 1 < 10 then { l with phase := .vBlank ⟨j.val + 1, h⟩ } else l.endFrame)

/-- What other processes do to the devices. -/
def access (t : Payload) (l : Lcd) : Except Fault Lcd :=
  (l.gb.bTransport t).map fun r => { l with gb := r.2 }

end Lcd

/-- A wait of `RenderLoop` ends, or another process accesses the bus. -/
inductive LcdEvent where
  | resume
  | access (t : Payload)
deriving DecidableEq, Repr

def Lcd.step (palette : Ppu.Palette) (l : Lcd) (e : LcdEvent) : Except Fault Lcd :=
  match e with
  | .resume => l.resume palette
  | .access t => l.access t

end TlmBoy
