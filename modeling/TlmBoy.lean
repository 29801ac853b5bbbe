import TlmBoy.Lib.History
import TlmBoy.Cartridge.Access
import TlmBoy.Cartridge.Loading
import TlmBoy.Cartridge.Mbc1
import TlmBoy.Cartridge.Mbc5
import TlmBoy.Cartridge.Mbc3
import TlmBoy.Cartridge.RamEnable
import TlmBoy.Cpu.RegFile
import TlmBoy.Cpu.State
import TlmBoy.Cpu.Jumptable
import TlmBoy.Cpu.Blocks
import TlmBoy.Devices
import TlmBoy.GbTop
import TlmBoy.Cpu.Interrupts
import TlmBoy.Cpu.FlagNibble
import TlmBoy.Cpu.Run
import TlmBoy.Isa.Alu
import TlmBoy.Isa.Decode
import TlmBoy.Cpu.Breakpoints
import TlmBoy.Cpu.Synced
import TlmBoy.Cpu.Decoupling
import TlmBoy.Lib.Lifo
import TlmBoy.Cpu.Stack
import TlmBoy.Cpu.StackRuns
import TlmBoy.Bus.PlainMemory
import TlmBoy.Bus.Routing
import TlmBoy.Bus.Slaves
import TlmBoy.Bus.Reads
import TlmBoy.Bus.Handled
import TlmBoy.Bus.Leftover
import TlmBoy.Bus.ReadOnly
import TlmBoy.Ppu.Draw
import TlmBoy.Ppu.RenderLoop
import TlmBoy.Bus.IoWrites
import TlmBoy.Ppu.LcdRegs
import TlmBoy.Ppu.Blocks
import TlmBoy.Ppu.Screenshot
import TlmBoy.Lib.Cellwise
import TlmBoy.Ppu.Plane
import TlmBoy.Ppu.Background
import TlmBoy.Ppu.Window
import TlmBoy.Ppu.Sprites
import TlmBoy.Lib.Selection
import TlmBoy.Ppu.Selection
import TlmBoy.Ppu.Priority
import TlmBoy.Ppu.WindowLine
import TlmBoy.Ppu.LycRequests
import TlmBoy.Gdb.RecvMsg
import TlmBoy.Gdb.Segments
import TlmBoy.Gdb.Frames
import TlmBoy.Gdb.DebugPort
import TlmBoy.Gdb.Commands
import TlmBoy.Gdb.Blocks
import TlmBoy.Gdb.Detach
import TlmBoy.Gdb.Answers
import TlmBoy.Gdb.Replies
import TlmBoy.Lib.CharClass
import TlmBoy.Gdb.Grammar
import TlmBoy.Gdb.DebugAccess
import TlmBoy.Gdb.Arguments
import TlmBoy.Io.JoyPadLines
import TlmBoy.Io.SerialTransfers
import TlmBoy.Io.Signals
import TlmBoy.Apu.State
import TlmBoy.Apu.Sound
import TlmBoy.Apu.Power
import TlmBoy.Apu.Channels
import TlmBoy.Apu.Active
import TlmBoy.Apu.Deliveries
import TlmBoy.Apu.Lengths
import TlmBoy.Apu.Triggers
import TlmBoy.Apu.Sweep
import TlmBoy.Lib.CarryChain
import TlmBoy.Isa.Bcd
import TlmBoy.Gdb.Statuses
import TlmBoy.Gdb.TwoRuns
import TlmBoy.Gdb.Undisturbed
import TlmBoy.Apu.SweepClock
import TlmBoy.Lib.Reload
import TlmBoy.Io.TimerLoop
import TlmBoy.Cartridge.Rtc
import TlmBoy.Cartridge.Tracing
import TlmBoy.Bus.OamDma
import TlmBoy.Bus.CartridgeRuns
import TlmBoy.Io.JoyPadWrites
import TlmBoy.Lib.MaximalRuns
import TlmBoy.Lib.Hexadecimal
import TlmBoy.Cartridge.DumpTrace
import TlmBoy.Cartridge.Construct
import TlmBoy.Bus.SaveFiles
import TlmBoy.Bus.TracedReads
import TlmBoy.Lib.Metered
import TlmBoy.Cpu.InstrTime
import TlmBoy.Cpu.Clock
import TlmBoy.Cpu.ElapsedTime
import TlmBoy.Bus.RomBytes
import TlmBoy.Lib.KeyedStore
import TlmBoy.Gdb.HexText
import TlmBoy.Gdb.DebugMemory
import TlmBoy.Gdb.MemoryPackets
import TlmBoy.Gdb.MemoryWrites
import TlmBoy.Gdb.RegisterPackets
import TlmBoy.Cartridge.GameInfo
import TlmBoy.Lib.InputStream
import TlmBoy.CompareFiles
import TlmBoy.Isa.Word
import TlmBoy.Isa.Outer
import TlmBoy.Isa.OpcodeTable
import TlmBoy.Lib.LeadsTo
import TlmBoy.Cpu.MachineCode
import TlmBoy.Boot.BootCode
import TlmBoy.Boot.QuickBoot
import TlmBoy.Boot.HeaderCheck
import TlmBoy.Lib.EventKernel
import TlmBoy.Board.Processes
import TlmBoy.Board.FrameTiming
import TlmBoy.Board.Timers
import TlmBoy.Board.AnyOrder
import TlmBoy.Board.AudioClock
import TlmBoy.Lib.Period
import TlmBoy.Apu.Noise
import TlmBoy.Lib.Bitmap
import TlmBoy.Ppu.ScreenshotFile
