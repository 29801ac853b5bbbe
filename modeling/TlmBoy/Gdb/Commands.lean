import Mathlib.Computability.RegularExpressions
import TlmBoy.Gdb.DebugPort
import TlmBoy.Gdb.RecvMsg

/-
  The commands of `GdbServer`, from `SplitMsg` to the handlers.

  `Linked σ` is the system `σ` with the client's connection beside it, and a member function of
  `GdbServer` is a program on the CPU over it: the handlers read and write registers, memory,
  `halted_`, `is_attached_` and `bp_set_`. The `Debugger` that the CPU's loop calls is the server
  itself. `send` succeeds.
-/

namespace TlmBoy

/-- The bytes of a string literal. -/
def str (text : String) : Str := text.toList.map chr

/-! ## `SplitMsg` -/

/-- A part of an alternative of the regular expression, captured or not. -/
inductive RegexPart where
  | group (r : RegularExpression U8)
  | plain (r : RegularExpression U8)

namespace RegexPart

def regex : RegexPart → RegularExpression U8
  | .group r => r
  | .plain r => r

def captured (s : Str) : RegexPart → List Str
  | .group _ => [s]
  | .plain _ => []

/-- The groups of the first match of the whole string, where each part matches as much as it
    can. -/
def regexMatch : List RegexPart → Str → Option (List Str)
  | [], s => if s = [] then some [] else none
  | part :: parts, s =>
    (List.range (s.length + 1)).reverse.findSome? fun n =>
      if part.regex.rmatch (s.take n) then
        (regexMatch parts (s.drop n)).map fun groups => part.captured (s.take n) ++ groups
      else none

/-- `[lo-hi]`. -/
def range (lo hi : Char) : RegularExpression U8 :=
  ((List.range' lo.toNat (hi.toNat + 1 - lo.toNat)).map fun n =>
    .char (BitVec.ofNat 8 n)).foldr (· + ·) 0

/-- A literal. -/
def word (text : String) : RegularExpression U8 :=
  ((str text).map .char).foldr (· * ·) 1

/-- `r+`. -/
def many1 (r : RegularExpression U8) : RegularExpression U8 := r * r.star

/-- `r?`. -/
def optional (r : RegularExpression U8) : RegularExpression U8 := r + 1

def digit : RegularExpression U8 := range '0' '9'

def hexDigit : RegularExpression U8 := range '0' '9' + range 'A' 'F' + range 'a' 'f'

/-- A feature name, as `(?:[a-zA-Z-]+\+?;?)`. -/
def feature : RegularExpression U8 :=
  many1 (range 'a' 'z' + range 'A' 'Z' + word "-") * optional (word "+") * optional (word ";")

/-- The alternatives of the regular expression, in their order. -/
def alternatives : List (List RegexPart) :=
  [[group (word "?")],
   [group (word "D")],
   [group (word "g")],
   [group (word "c"), group digit.star],
   [group (word "G"), group (many1 hexDigit)],
   [group (word "M"), group (many1 hexDigit), plain (word ","), group (many1 hexDigit),
    plain (word ":"), group (many1 hexDigit)],
   [group (word "m"), group (many1 hexDigit), plain (word ","), group (many1 hexDigit)],
   [group (word "z" + word "Z"), group (range '0' '1'), plain (word ","), group (many1 hexDigit),
    plain (word ","), group digit],
   [group (word "qAttached")],
   [group (word "qSupported"), plain (word ":"), group (many1 feature)]]

end RegexPart

/-! ## The connection -/

/-- A system with the debugger's client beside it. -/
structure Linked (σ : Type) where
  tcpServer : TcpServer
  /-- What was sent to the client. -/
  sent : Str := []
  sys : σ

instance {σ : Type} [BusPort σ] : BusPort (Linked σ) where
  bTransport trans s := (BusPort.bTransport trans s.sys).map fun r => (r.1, { s with sys := r.2 })
  romBank0 s := BusPort.romBank0 s.sys
  stackByte s := BusPort.stackByte s.sys
  intrEnable s := BusPort.intrEnable s.sys
  intrPending s := BusPort.intrPending s.sys
  setIntrPending v s := { s with sys := BusPort.setIntrPending v s.sys }

instance {σ : Type} [Kernel σ] : Kernel (Linked σ) where
  wait t s := (Kernel.wait t s.sys).map fun sys => { s with sys }
  timeStamp s := Kernel.timeStamp s.sys
  timeToPendingActivity s := Kernel.timeToPendingActivity s.sys
  stop s := { s with sys := Kernel.stop s.sys }

instance {σ : Type} [DebugPort σ] : DebugPort (Linked σ) where
  transportDbg trans s :=
    (DebugPort.transportDbg trans s.sys).map fun r => (r.1, { s with sys := r.2 })

/-- What ends the program where a call of the GDB server does not return. -/
def GdbStop.fault : GdbStop → Fault
  | .waits => .waitsForClient
  | .assertion text => .assertion text
  | .logicError what => .uncaught "std::logic_error" what
  | .outOfRange function => .uncaught "std::out_of_range" function
  | .invalidArgument function => .uncaught "std::invalid_argument" function
  | .outOfFuel => .outOfFuel

namespace GdbServer

variable {σ : Type}

/-- A member function of `GdbServer`. -/
abbrev GdbM (σ : Type) := CpuM (Linked σ)

def check {α : Type} (e : Except GdbStop α) : GdbM σ α := liftM (e.mapError GdbStop.fault)

/-- The connection while a message is received. -/
def receive {α : Type} (m : RecvM α) : GdbM σ α := fun c =>
  match m c.initSocket.sys.tcpServer with
  | .error stop => .error stop.fault
  | .ok (a, tcpServer) => .ok (a, { c with initSocket :=
      { c.initSocket with sys := { c.initSocket.sys with tcpServer } } })

/-- `TcpServer::SendMsg`: the C string up to its NUL is sent. -/
def sendMsg (msg : Str) : GdbM σ Unit := modify fun c => { c with initSocket :=
  { c.initSocket with sys := { c.initSocket.sys with
    sent := c.initSocket.sys.sent ++ cString msg } } }

/-- `Cpu::Halt` and `Cpu::Continue`. -/
def setHalted (halted : Bool) : GdbM σ Unit := modify fun c => { c with halted }

def setAttached (isAttached : Bool) : GdbM σ Unit :=
  modify fun c => { c with gdbServer := { c.gdbServer with isAttached } }

def changeBpSet (f : Finset U16 → Finset U16) : GdbM σ Unit :=
  modify fun c => { c with gdbServer := { c.gdbServer with bpSet := f c.gdbServer.bpSet } }

/-! ## Strings -/

/-- `str.substr(pos, count)`. -/
def substr (s : Str) (pos count : Nat) : Except GdbStop Str :=
  if pos ≤ s.length then .ok ((s.drop pos).take count) else .error (.outOfRange "substr")

def splitMsg (msg : Str) : List Str :=
  ((RegexPart.alternatives.findSome? fun parts => RegexPart.regexMatch parts msg).getD []).filter
    fun group => group ≠ []

example : splitMsg (str "Z0,c000,1") = [str "Z", str "0", str "c000", str "1"] := by
  decide +kernel

def getChecksumStr (msg : Str) : Str :=
  let checksum : BitVec 32 := msg.foldl (fun sum c => sum + c.signExtend 32) 0
  str (fmtHex 2 (checksum &&& 0xff).toNat)

def packetify (msg : Str) : Str := [chr '$'] ++ msg ++ [chr '#'] ++ getChecksumStr msg

example : packetify (str "OK") = str "$OK#9a" := by decide +kernel

def kMsgAck : Str := str "+"
def kMsgEmpty : Str := str "+$#00"
def kMsgOk : Str := str "+$OK#9a"

/-- `Packetify(std::format("S{:02x}", SIGTRAP))`. -/
def stopReply : Str := packetify (str "S05")

/-- `msg_split[i]`, without a bounds check. -/
def field (msgSplit : List Str) (i : Nat) : GdbM σ Str :=
  match msgSplit[i]? with
  | some s => pure s
  | none => throw (.outOfBounds "msg_split")

/-- `uint v = std::stoi(str, nullptr, 16)`. -/
def stoiUint (s : Str) : GdbM σ (BitVec 32) := do
  return BitVec.ofInt 32 (← check (stoi16 s))

/-! ## The commands -/

def cmdHalted (_ : List Str) : GdbM σ Unit := do
  setHalted true
  sendMsg stopReply

def cmdDetach (_ : List Str) : GdbM σ Unit := do
  setAttached false
  setHalted false
  sendMsg kMsgOk

def cmdContinue (_ : List Str) : GdbM σ Unit := setHalted false

def cmdAttached (_ : List Str) : GdbM σ Unit := do
  setAttached true
  sendMsg (packetify (str "1"))

def cmdNotFound (_ : List Str) : GdbM σ Unit := sendMsg kMsgEmpty

def cmdSupported (msgSplit : List Str) : GdbM σ Unit := do
  let features ← field msgSplit 1
  let msgResp := if str "hwbreak+;" <:+: features then str "hwbreak+;" else []
  sendMsg (packetify msgResp)

/-- `CmdInsertBp` and `CmdRemoveBp` differ in what they do to `bp_set_`. -/
def cmdBp (change : U16 → Finset U16 → Finset U16) (msgSplit : List Str) : GdbM σ Unit := do
  let kind ← field msgSplit 1
  if kind = str "0" ∨ kind = str "1" then
    let addr ← stoiUint (← field msgSplit 2)
    changeBpSet (change (addr.setWidth 16))
    sendMsg (packetify (str "OK"))
  else
    -- Watchpoints are not supported.
    sendMsg (packetify [])

def cmdInsertBp : List Str → GdbM σ Unit := cmdBp fun addr bpSet => insert addr bpSet

def cmdRemoveBp : List Str → GdbM σ Unit := cmdBp fun addr bpSet => bpSet.erase addr

def cmdReadReg (_ : List Str) : GdbM σ Unit := do
  let rf ← Cpu.getRegs
  let words := [rf.getStack .af, rf.getStack .bc, rf.getStack .de, rf.getStack .hl, rf.sp, rf.pc]
  let hex := words.map fun v => str (fmtHex 4 (v.rotateLeft 8).toNat)
  sendMsg (packetify (hex.flatten ++ List.replicate (7 * 4) (chr 'x')))

/-- `reg->val(v)` for each `reg` of the register file, in its order. -/
def regSetters : List (U16 → RegFile → RegFile) :=
  [fun v rf => { rf with a := msb v, f := lsb v }, RegFile.set16 .bc, RegFile.set16 .de,
   RegFile.set16 .hl, RegFile.set16 .sp, fun v rf => { rf with pc := v }]

def cmdWriteReg (msgSplit : List Str) : GdbM σ Unit := do
  let dataStr ← field msgSplit 1
  liftM (cAssert (24 ≤ dataStr.length) "data_str.size() >= 24")
  regSetters.zipIdx.forM fun (setter, k) => do
    let data ← check (substr dataStr (4 * k) 4 >>= stoi16)
    Cpu.modifyRegs (setter ((BitVec.ofInt 16 data).rotateLeft 8))
  sendMsg kMsgOk

section Memory

variable [BusPort σ] [DebugPort σ]

/-- The bytes from `addr` on as hexadecimal digits. -/
def readMem (addr : BitVec 32) : List Nat → GdbM σ Str
  | [] => return []
  | i :: is => do
    let data ← Cpu.readBusDebug ((addr + BitVec.ofNat 32 i).setWidth 16)
    return str (fmtHex 2 data.toNat) ++ (← readMem addr is)

def cmdReadMem (msgSplit : List Str) : GdbM σ Unit := do
  let addrStr ← field msgSplit 1
  let lengthStr ← field msgSplit 2
  let addr ← stoiUint addrStr
  let length ← stoiUint lengthStr
  let msgResp ← readMem addr (List.range length.toNat)
  sendMsg (packetify msgResp)

def cmdWriteMem (msgSplit : List Str) : GdbM σ Unit := do
  let addrStr ← field msgSplit 1
  let lengthStr ← field msgSplit 2
  let dataStr ← field msgSplit 3
  let addr ← stoiUint addrStr
  let length ← stoiUint lengthStr
  (List.range length.toNat).forM fun i => do
    let data ← check (substr dataStr (i * 2) 2 >>= stoi16)
    Cpu.writeBusDebug ((addr + BitVec.ofNat 32 i).setWidth 16) (BitVec.ofInt 8 data)
  sendMsg kMsgOk

/-! ## Messages -/

def cmdMap : List (Str × (List Str → GdbM σ Unit)) :=
  [(str "?", cmdHalted), (str "g", cmdReadReg), (str "G", cmdWriteReg), (str "D", cmdDetach),
   (str "m", cmdReadMem), (str "M", cmdWriteMem), (str "c", cmdContinue), (str "Z", cmdInsertBp),
   (str "z", cmdRemoveBp), (str "qSupported", cmdSupported), (str "qAttached", cmdAttached)]

def decodeAndCall (msg : Str) : GdbM σ Unit := do
  -- The length is a `size_t`.
  let msgStripped ← check (substr msg 1 (BitVec.ofNat 64 msg.length - 4).toNat)
  let res := splitMsg msgStripped
  match res with
  | [] => cmdNotFound res
  | name :: _ =>
    match cmdMap.lookup name with
    | none => throw (.assertion "cmd_map.contains(res[0])")
    | some cmd =>
      sendMsg kMsgAck
      cmd res

/-- A call of `RecvMsgBlocking`, with the command that the message is. -/
def recvAndCall : GdbM σ Str := do
  match ← receive recvMsgBlocking with
  | .ack => return str "+"
  | .interrupt =>
    cmdHalted []
    return [0x03]
  | .packet msg =>
    decodeAndCall msg
    return msg

/-- `InitBlocking` once a client is accepted, for at most `fuel` messages. -/
def initBlocking : Nat → GdbM σ Unit
  | 0 => throw .outOfFuel
  | fuel + 1 => do
    let msg ← recvAndCall
    if msg = str "$qAttached#8f" then return () else initBlocking fuel

/-- `IsMsgPending`. -/
def msgPending (c : Cpu (Linked σ)) : Bool :=
  c.gdbServer.isAttached && c.initSocket.sys.tcpServer.stream ≠ []

/-- The loop of `HandleMessages`. Every message has a byte, so it ends before the fuel does. -/
def handlePending : Nat → GdbM σ Unit
  | 0 => return ()
  | fuel + 1 => do
    if msgPending (← get) then
      let _ ← recvAndCall
      handlePending fuel

instance : Debugger (Linked σ) where
  dataAvailable s := s.tcpServer.stream ≠ []
  handleMessages c := (handlePending c.initSocket.sys.tcpServer.stream.length c).map Prod.snd
  sendBpReached s := .ok { s with sent := s.sent ++ cString stopReply }

end Memory

end GdbServer

end TlmBoy
