import TlmBoy.Apu.Sound
import TlmBoy.Bus.IoWrites
import TlmBoy.Io.JoyPadLines
import TlmBoy.Io.SerialTransfers
import TlmBoy.Io.TimerLoop
import TlmBoy.Lib.EventKernel
import TlmBoy.Ppu.LcdRegs

/-
  The processes of the board on the kernel that resumes them.

  Five threads wait for a time: the two of the timer, `RenderLoop`, `AudioLoop` and `InputLoop`.
  `Board.resume` runs one of them to its next wait and `Board.delay` is that wait in nanoseconds.
  Between them anything else may happen at any time (`Board.Act`): transactions of the guest and
  of the debugger, delta cycles, the serial port's interrupt, the CPU's acknowledgements, the
  host's audio callback and its input events.
-/

namespace TlmBoy

open EventKernel (Simulation Threads Reaches)

/-! ## The waits -/

/-- The wait of `RenderLoop` in each phase. -/
def Phase.wait : Phase → Nat
  | .start => 1
  | .oamSearch _ => 80 * GbConst.kNsPerClkCycle
  | .transfer _ => 168 * GbConst.kNsPerClkCycle
  | .hBlank _ => 208 * GbConst.kNsPerClkCycle
  | .vBlank _ => 456 * GbConst.kNsPerClkCycle

namespace Apu

/-- The parts of `AudioLoop` between its waits. -/
def audioPart (i : Fin 5) (io : IoRegisters) (apu : Apu) : Apu × IoRegisters :=
  match i with
  | 0 | 2 => apu.decrementLengths io
  | 1 | 3 =>
    let r := apu.decrementLengths io
    r.1.doSweep r.2
  | 4 => (apu.updateEnvelopes io, io)

/-- The wait after a part. -/
def audioWait : Fin 5 → Nat
  | 0 | 1 | 2 => 16384 * GbConst.kNsPerClkCycle
  | 3 | 4 => 8192 * GbConst.kNsPerClkCycle

end Apu

/-! ## `InputLoop` -/

namespace JoyPad

/-- The keys that `InputLoop` looks at, and those that it leaves to `SetButton`. -/
inductive Key where
  | one | two | three | space
  | button (sym : Keycode)
deriving DecidableEq, Repr

/-- An `SDL_Event`. Closing the window and quitting end the simulation and are left out. -/
inductive SdlEvent where
  | keyDown (again : Bool) (key : Key)
  | keyUp (again : Bool) (key : Key)
  | other
deriving DecidableEq, Repr

end JoyPad

/-! ## The board -/

inductive Process where
  | divLoop
  | timerLoop
  | renderLoop
  | audioLoop
  | inputLoop
deriving DecidableEq, Repr

namespace Process

/-- All of them, in the order in which `GbTop` constructs their modules. -/
def all : List Process := [.audioLoop, .inputLoop, .renderLoop, .divLoop, .timerLoop]

theorem mem_all (p : Process) : p ∈ all := by
  cases p <;> decide

instance : Fintype Process := ⟨⟨all, by decide⟩, mem_all⟩

end Process

structure Board where
  /-- The devices, the PPU and its windows. -/
  lcd : Lcd
  apu : Apu := {}
  /-- The next part of `AudioLoop`. -/
  audioPart : Fin 5 := 0
  /-- The member `event`, as the next `SDL_PollEvent` leaves it: `Act.input` puts any event there at
      any time. -/
  event : JoyPad.SdlEvent := .other

namespace Board

abbrev gb (b : Board) : Gb := b.lcd.gb

def setGb (b : Board) (gb : Gb) : Board := { b with lcd := { b.lcd with gb } }

/-- The devices with the APU beside them. -/
def sound (b : Board) : Sound := { gb := b.gb, apu := b.apu }

def setSound (b : Board) (s : Sound) : Board := { b.setGb s.gb with apu := s.apu }

/-- What `InputLoop` does with a key, pressed or released. -/
def handleKey (key : JoyPad.Key) (pressed : Bool) (b : Board) : Board :=
  match key with
  | .one =>
    if pressed then
      { b with lcd := { b.lcd with ppu := { b.lcd.ppu with uiRenderBg := !b.lcd.ppu.uiRenderBg } } }
    else b
  | .two =>
    if pressed then
      { b with
        lcd := { b.lcd with ppu := { b.lcd.ppu with uiRenderWndw := !b.lcd.ppu.uiRenderWndw } } }
    else b
  | .three =>
    if pressed then
      { b with lcd :=
          { b.lcd with ppu := { b.lcd.ppu with uiRenderSprites := !b.lcd.ppu.uiRenderSprites } } }
    else b
  -- `uiTurboMode` changes the pace of the simulation only.
  | .space => b
  | .button sym => b.setGb (b.gb.setButton sym pressed)

def handleEvent (e : JoyPad.SdlEvent) (b : Board) : Board :=
  match e with
  | .keyDown false key => b.handleKey key true
  | .keyUp false key => b.handleKey key false
  | _ => b

/-- A round of `InputLoop`, after `SDL_PollEvent(&event)`. -/
def inputLoop (b : Board) : Board := b.handleEvent b.event

/-- What neither a button nor a render key changes, `InputLoop` does not. -/
theorem inputLoop_frame {β : Type} (f : Board → β)
    (hbutton : ∀ sym pressed b, f (setGb b (b.gb.setButton sym pressed)) = f b)
    (hppu : ∀ (g : Ppu → Ppu) b, f { b with lcd := { b.lcd with ppu := g b.lcd.ppu } } = f b)
    (b : Board) : f b.inputLoop = f b := by
  have hkey : ∀ key pressed b, f (handleKey key pressed b) = f b := by
    intro key pressed b
    cases key with
    | button sym => exact hbutton sym pressed b
    | space => rfl
    | one =>
      cases pressed with
      | false => rfl
      | true => exact hppu (fun p => { p with uiRenderBg := !p.uiRenderBg }) b
    | two =>
      cases pressed with
      | false => rfl
      | true => exact hppu (fun p => { p with uiRenderWndw := !p.uiRenderWndw }) b
    | three =>
      cases pressed with
      | false => rfl
      | true => exact hppu (fun p => { p with uiRenderSprites := !p.uiRenderSprites }) b
  unfold inputLoop handleEvent
  split
  · exact hkey _ _ _
  · exact hkey _ _ _
  · rfl

theorem inputLoop_audioPart (b : Board) : b.inputLoop.audioPart = b.audioPart :=
  inputLoop_frame Board.audioPart (fun _ _ _ => rfl) (fun _ _ => rfl) b

/-- A round of `AudioLoop`. -/
def audioLoop (b : Board) : Board :=
  { b.setSound (b.sound.set (Apu.audioPart b.audioPart b.gb.ioRegisters b.apu)) with
    audioPart := b.audioPart + 1 }

/-- A process runs from the end of a wait to the next one. -/
def resume (palette : Ppu.Palette) : Process → Board → Except Fault Board
  | .divLoop, b => .ok (b.setGb b.gb.divLoop)
  | .timerLoop, b => .ok (b.setGb b.gb.timerLoop)
  | .renderLoop, b => (b.lcd.resume palette).map fun lcd => { b with lcd }
  | .audioLoop, b => .ok b.audioLoop
  | .inputLoop, b => .ok b.inputLoop

/-- The wait that follows, in nanoseconds. -/
def delay : Process → Board → Nat
  | .divLoop, _ => 256 * GbConst.kNsPerClkCycle
  | .timerLoop, b => b.gb.timer.incTime
  | .renderLoop, b => b.lcd.phase.wait
  | .audioLoop, b => Apu.audioWait (b.audioPart - 1)
  | .inputLoop, _ => 10000000

def threads (palette : Ppu.Palette) : Threads Process Board Fault := ⟨resume palette, delay⟩

/-- What happens between the rounds of the processes. `acknowledge` is the CPU's clearing of an
    interrupt flag, `deliver` a delta cycle with the ports whose methods run in it, and `input` an
    event for `InputLoop`. -/
inductive Act where
  | access (t : Payload)
  | acknowledge (flag : U8)
  | deliver (ports : List Apu.Port)
  | callback (c : Apu.CallbackStep)
  | serialInterrupt
  | input (e : JoyPad.SdlEvent)

def act (game : List U8) : Act → Board → Except Fault Board
  | .access t, b => (b.lcd.access t).map fun lcd => { b with lcd }
  | .acknowledge flag, b => .ok (b.setGb (b.gb.acknowledge flag))
  | .deliver ports, b => (Sound.step game b.sound (.deliver ports)).map b.setSound
  | .callback c, b => .ok { b with apu := b.apu.callbackStep b.gb.ioRegisters c }
  | .serialInterrupt, b => .ok (b.setGb b.gb.serialInterrupt)
  | .input event, b => .ok { b with event }

/-- When the kernel first resumes a process. The parts before the first waits do nothing, and
    `AudioLoop` begins with one of its parts. -/
def firstDue (b : Board) : Process → Nat
  | .divLoop => 256 * GbConst.kNsPerClkCycle
  | .timerLoop => b.gb.timer.incTime
  | .renderLoop => Phase.start.wait
  | .audioLoop => 0
  | .inputLoop => 0

/-- The start of the simulation. -/
def start (b : Board) : Simulation Process Board := { now := 0, due := b.firstDue, state := b }

/-- Power-on. The members that no constructor initialises are arguments. -/
def init (cartridge : Cartridge) (serial : Serial) (timer : Timer) (windowLine : Int)
    (window : Window) (event : JoyPad.SdlEvent) : Board :=
  { lcd := .init (Gb.init cartridge serial timer) windowLine window, event }

/-- Power-on without a game and without windows, where the members that no constructor initialises
    happen to be zero. -/
def powerOn : Board :=
  init .blank { ongoingTransmission := false, regSc := 0 }
    { regDiv := 0, regTac := 0, regTima := 0, regTma := 0 } 0 .dummy .other

/-- The runs of the board. -/
abbrev Runs (palette : Ppu.Palette) (game : List U8) : Simulation Process Board →
    Simulation Process Board → Prop := Reaches (threads palette) (act game)

/-- The runs in which only some of the acts happen. -/
abbrev RunsWith (P : Act → Prop) (palette : Ppu.Palette) (game : List U8) :
    Simulation Process Board → Simulation Process Board → Prop :=
  Reaches (threads palette) fun a : { a // P a } => act game a.1

end Board

end TlmBoy
