import TlmBoy.Lib.StateExcept
import TlmBoy.Common

/-
  `TcpServer::RecvBlocking` and `GdbServer::RecvMsgBlocking`.

  A string is a list of bytes. The operating system hands the client's bytes over in segments:
  a call of `recv` gets any number of bytes from one up to the length it asks for, and finds in
  its buffer whatever was there before. A call with no byte to come waits for ever.
  `recvMsgBlocking` returns what it received and leaves the command to its caller.
-/

namespace TlmBoy

/-! ## Strings -/

/-- A `std::string`. -/
abbrev Str := List U8

/-- The byte of an ASCII character. -/
def chr (c : Char) : U8 := BitVec.ofNat 8 c.toNat

/-- Why a call of the GDB server does not return. -/
inductive GdbStop where
  /-- `recv` waits, and no byte comes. -/
  | waits
  /-- A failed `assert`, with its text. -/
  | assertion (text : String)
  /-- A `std::logic_error`, with its message. -/
  | logicError (what : String)
  /-- A `std::out_of_range`, with the function that throws it. -/
  | outOfRange (function : String)
  /-- A `std::invalid_argument`, with the function that throws it. -/
  | invalidArgument (function : String)
  /-- A loop used up the number of rounds the model was given. -/
  | outOfFuel
deriving DecidableEq, Repr

/-- `str.at(0)`. -/
def at0 : Str → Except GdbStop U8
  | [] => .error (.outOfRange "at")
  | c :: _ => .ok c

/-- The string that a C string is up to its NUL. -/
def cString (msg : Str) : Str := msg.takeWhile fun c => c ≠ 0

def hexVal? (c : U8) : Option Nat :=
  if chr '0' ≤ c ∧ c ≤ chr '9' then some (c - chr '0').toNat
  else if chr 'a' ≤ c ∧ c ≤ chr 'f' then some ((c - chr 'a').toNat + 10)
  else if chr 'A' ≤ c ∧ c ≤ chr 'F' then some ((c - chr 'A').toNat + 10)
  else none

/-- `isspace` in the C locale. -/
def isSpace (c : U8) : Bool := c = 0x20 ∨ (0x09 ≤ c ∧ c ≤ 0x0D)

/-- The prefix `0x`, skipped where a digit follows. -/
def skipHexPrefix : Str → Str
  | zero :: x :: d :: rest =>
    if zero = chr '0' ∧ (x = chr 'x' ∨ x = chr 'X') ∧ (hexVal? d).isSome then d :: rest
    else zero :: x :: d :: rest
  | str => str

/-- The value of the leading hexadecimal digits, if there are any. -/
def leadingHex (str : Str) : Option Nat :=
  let digits := (str.map hexVal?).takeWhile Option.isSome
  if digits = [] then none else some (digits.foldl (fun acc d => acc * 16 + d.getD 0) 0)

/-- `std::stoi(str, nullptr, 16)`. -/
def stoi16 (str : Str) : Except GdbStop Int := do
  let str := str.dropWhile isSpace
  let negative := str.head? = some (chr '-')
  let str := if negative ∨ str.head? = some (chr '+') then str.tail else str
  match leadingHex (skipHexPrefix str) with
  | none => throw (.invalidArgument "stoi")
  | some n =>
    let value : Int := if negative then -n else n
    if value < -2147483648 ∨ 2147483647 < value then
      throw (.outOfRange "stoi")
    return value

example : stoi16 [chr '6', chr '7'] = .ok 0x67 := by decide

/-! ## `TcpServer` -/

/-- One call of `recv`: how many bytes it gets at most, and what its buffer holds before. -/
structure Segment where
  count : Nat
  buffer : Nat → U8

structure TcpServer where
  /-- What the client sends, less what has been received. -/
  stream : Str
  /-- The calls of `recv`, in their order. -/
  segment : Nat → Segment
  calls : Nat := 0

/-- A program that receives. -/
abbrev RecvM := StateT TcpServer (Except GdbStop)

namespace TcpServer

def kMaxPacketSize : Nat := 4096

/-- `RecvBlocking`, with calls of `recv` that succeed. -/
def recvBlocking (length : Nat) : RecvM Str := fun s =>
  if ¬ length < kMaxPacketSize then
    .error (.assertion "length < kMaxPacketSize")
  else if s.stream = [] then
    .error .waits
  else
    let segment := s.segment s.calls
    let numBytes := min (max 1 segment.count) (min length s.stream.length)
    let filled := s.stream.take numBytes
    -- `msg[length]` is the NUL: the bytes that `recv` did not fill are part of the string.
    let rest := (List.range' numBytes (length - numBytes)).map segment.buffer
    .ok (cString (filled ++ rest),
      { s with stream := s.stream.drop numBytes, calls := s.calls + 1 })

end TcpServer

/-! ## `GdbServer` -/

/-- What a call of `RecvMsgBlocking` receives: an acknowledgement, Ctrl-C, or a packet that it
    accepts. -/
inductive Received where
  | ack
  | interrupt
  | packet (msg : Str)
deriving DecidableEq, Repr

namespace GdbServer

open TcpServer

def kMaxMessageLength : Nat := 4096

/-- The loop that receives up to '#'. The length check ends it before the fuel does. -/
def recvPayload : Nat → Str → BitVec 32 → RecvM (Str × BitVec 32)
  | 0, _, _ => throw .outOfFuel
  | fuel + 1, strBuffer, sumToCheck => do
    let resp ← recvBlocking 1
    let strBuffer := strBuffer ++ resp
    let c ← at0 resp
    let sumToCheck := sumToCheck + c.signExtend 32
    if strBuffer.length > kMaxMessageLength then
      throw (.logicError "message is too long")
    if c = chr '#' then
      return (strBuffer, sumToCheck)
    recvPayload fuel strBuffer sumToCheck

/-- The comparison of the checksums. -/
def checkSum (sumToCheck : BitVec 32) (checksumStr : Str) : Except GdbStop Unit := do
  let checksum := BitVec.ofInt 32 (← stoi16 checksumStr)
  if (sumToCheck &&& 0xff) ≠ checksum then
    throw (.logicError ("check sum incorrect! \n  checksum=" ++ toString checksum.toNat ++
      "\n  sum_to_check=" ++ toString sumToCheck.toNat ++ "\n"))

/-- `RecvMsgBlocking` after the '$'. -/
def recvFrame (strBuffer : Str) : RecvM Received := do
  let (strBuffer, sumToCheck) ← recvPayload kMaxMessageLength strBuffer 0
  let sumToCheck := sumToCheck - (chr '#').signExtend 32
  let checksumStr ← recvBlocking 2
  checkSum sumToCheck checksumStr
  return .packet (strBuffer ++ checksumStr)

def recvMsgBlocking : RecvM Received := do
  let resp ← recvBlocking 1
  let first ← at0 resp
  if first = chr '+' then
    return .ack
  if first = chr '-' then
    throw (.logicError "received '-', protocol error")
  if first = 0x03 then
    return .interrupt
  if first = chr '$' then
    recvFrame resp
  else
    throw (.logicError "message not beginning with '$'")

end GdbServer

end TlmBoy
