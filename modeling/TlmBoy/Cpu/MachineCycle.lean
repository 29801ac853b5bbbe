import TlmBoy.Cpu.Jumptable

/-
  `Cpu::HandleInterrupts` and the loop of `Cpu::DoMachineCycle`.

  `machineCycle` is one iteration of the `while (1)`. Its first half, up to the fetch, is
  `cycleHead`; it returns whether the iteration goes on to fetch an instruction. Host sleeps and
  console output have no effect on the state and are left out.
-/

namespace TlmBoy

/-- The parts of the GDB server that the CPU's loop calls. -/
class Debugger (σ : Type) where
  /-- `tcp_server_.DataAvailable()`. -/
  dataAvailable : σ → Bool
  /-- `GdbServer::HandleMessages`: the commands read and write the whole CPU. -/
  handleMessages : Cpu σ → Except Fault (Cpu σ)
  /-- `GdbServer::SendBpReached`: a stop reply to the client. -/
  sendBpReached : σ → Except Fault σ

namespace Cpu

variable {σ : Type}

/-! ## Interrupts -/

section

variable [BusPort σ]

def getIntrMasterEnable : CpuM σ Bool := do
  return (← get).intrMasterEnable

/-- `*reg_intr_pending_dmi &= ~flag`. -/
def clearPending (flag : U8) : CpuM σ Unit :=
  modify fun c => { c with initSocket := { c.initSocket with
    sys := BusPort.setIntrPending (BusPort.intrPending c.initSocket.sys &&& ~~~flag)
      c.initSocket.sys } }

/-- Enter the interrupt service routine of `flag`. -/
def enterIsr (vector : U16) (flag : U8) : CpuM σ Unit := do
  setPc vector
  clearPending flag

/-- The five-way selection of `HandleInterrupts`: the lowest pending interrupt goes first. -/
def selectIsr (intr : U8) : CpuM σ Unit := do
  if (intr &&& GbConst.kVBlankIf) != 0 then
    enterIsr 0x40 GbConst.kVBlankIf
  else if (intr &&& GbConst.kLCDCIf) != 0 then
    enterIsr 0x48 GbConst.kLCDCIf
  else if (intr &&& GbConst.kTimerOfIf) != 0 then
    enterIsr 0x50 GbConst.kTimerOfIf
  else if (intr &&& GbConst.kSerialIOIf) != 0 then
    enterIsr 0x58 GbConst.kSerialIOIf
  else if (intr &&& GbConst.kJoypadIf) != 0 then
    enterIsr 0x60 GbConst.kJoypadIf

def handleInterrupts : CpuM σ Unit := do
  if !(← getIntrMasterEnable) then
    return
  let intr ← pendingInterrupts
  if intr != 0 then
    setIntrMasterEnable false
    instrPush .pc
    selectIsr intr

end

/-! ## The loop -/

def isMsgPending [Debugger σ] : CpuM σ Bool := do
  let c ← get
  if !c.gdbServer.isAttached then
    return false
  return Debugger.dataAvailable c.initSocket.sys

theorem isMsgPending_eq [Debugger σ] (c : Cpu σ) : isMsgPending c =
    .ok (c.gdbServer.isAttached && Debugger.dataAvailable c.initSocket.sys, c) := by
  show (if (!c.gdbServer.isAttached) = true then pure false else _ : CpuM σ Bool) c = _
  cases c.gdbServer.isAttached with
  | false => rfl
  | true => rfl

def handleMessages [Debugger σ] : CpuM σ Unit := fun c =>
  (Debugger.handleMessages c).map fun c' => ((), c')

def bpReached (address : U16) : CpuM σ Bool := do
  return decide (address ∈ (← get).gdbServer.bpSet)

def sendBpReached [Debugger σ] : CpuM σ Unit := fun c =>
  (Debugger.sendBpReached c.initSocket.sys).map fun sys =>
    ((), { c with initSocket := { c.initSocket with sys } })

/-- The loop from the test of `halted_` up to the fetch. Returns false at a `continue`. -/
def headAfterMessages [BusPort σ] [Kernel σ] [Debugger σ] : CpuM σ Bool := do
  if (← get).halted then
    return false
  if (← bpReached (← getPc)) then
    modify fun c => { c with halted := true }
    sendBpReached
    kernelWait (4 * GbConst.kNsPerClkCycle)
    return false
  setWaitNs 0
  handleInterrupts
  return true

/-- The beginning of the loop: messages of the debugger are handled. -/
def pollMessages [Debugger σ] : CpuM σ Unit := do
  if (← isMsgPending) then
    handleMessages

/-- The loop up to the fetch. -/
def cycleHead [BusPort σ] [Kernel σ] [Debugger σ] : CpuM σ Bool := do
  pollMessages
  headAfterMessages

/-- The end of the loop: the instruction's time is accumulated, and waited for once the next
    activity of another process is due. -/
def accountTime [Kernel σ] : CpuM σ Unit := do
  modify fun c => { c with localTimeDelta := c.localTimeDelta + c.waitNs }
  let c ← get
  let timeLimit := Kernel.timeToPendingActivity c.initSocket.sys
  let maxTime := scMaxTime - Kernel.timeStamp c.initSocket.sys
  if timeLimit ≤ c.localTimeDelta ∨ timeLimit = maxTime ∨ c.singleStep = true then
    kernelWait c.localTimeDelta
    modify fun c => { c with localTimeDelta := 0 }

/-- One iteration of the loop. -/
def machineCycle [BusPort σ] [Kernel σ] [Debugger σ] (fuel : Nat) : CpuM σ Unit := do
  if (← cycleHead) then
    decodeExecute fuel (← fetchNextInstrByte)
    accountTime

/-- The iteration as a step from one state to the next. -/
def cycle [BusPort σ] [Kernel σ] [Debugger σ] (fuel : Nat) (c : Cpu σ) : Except Fault (Cpu σ) :=
  (machineCycle fuel c).map Prod.snd

/-- In the iteration that starts in `c` the byte `instrByte` is fetched, and `t` is the state in
    which its case is entered. -/
def Fetches [BusPort σ] [Kernel σ] [Debugger σ] (c : Cpu σ) (instrByte : U8) (t : Cpu σ) : Prop :=
  ∃ s, cycleHead c = .ok (true, s) ∧ fetchNextInstrByte s = .ok (instrByte, t)

end Cpu

end TlmBoy
