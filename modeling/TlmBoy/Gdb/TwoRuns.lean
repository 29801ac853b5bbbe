import TlmBoy.Cpu.Blocks
import TlmBoy.Gdb.Statuses

/-
  Two runs of the machine that differ in what the debugger has read.

  `Alike c c'` says that `c'` is `c` but for the payload of the last transaction and what was sent
  to the client. The next transaction overwrites the payload, up to its response status, which
  counts while the controller can be silent. Every program of the CPU and of the server respects
  `Alike`, so two runs with the same inputs stay alike (`run_same`). The devices record the guest's
  transactions, which thus are the same ones.
-/

namespace TlmBoy

/-! ## Recorded transactions -/

/-- A transaction of the guest, with the byte that it wrote or got. -/
structure GuestAccess where
  command : TlmCommand
  address : U16
  data : U8
deriving DecidableEq, Repr

/-- Devices that record the guest's transactions. Reads of ROM bank 0 through the pointer are
    none. -/
structure Recorded (μ : Type) where
  accesses : List GuestAccess := []
  dev : μ

instance {μ : Type} [BusPort μ] : BusPort (Recorded μ) where
  bTransport trans s := (BusPort.bTransport trans s.dev).map fun r => (r.1,
    { accesses := s.accesses ++ [⟨trans.command, trans.address, r.1.data⟩], dev := r.2 })
  romBank0 s := BusPort.romBank0 s.dev
  stackByte s := BusPort.stackByte s.dev
  intrEnable s := BusPort.intrEnable s.dev
  intrPending s := BusPort.intrPending s.dev
  setIntrPending v s := { s with dev := BusPort.setIntrPending v s.dev }

instance {μ : Type} [DebugPort μ] : DebugPort (Recorded μ) where
  transportDbg trans s :=
    (DebugPort.transportDbg trans s.dev).map fun r => (r.1, { s with dev := r.2 })

namespace GdbServer

/-- The machine with recorded transactions. -/
abbrev Watched := Timed (Recorded Gb)

abbrev Machine := Cpu (Linked Watched)

/-- The devices. -/
def gbOf (c : Machine) : Gb := c.initSocket.sys.sys.dev.dev

/-- The machine after a transaction. -/
def landed (payload : Payload) (accesses : List GuestAccess) (dev : Gb) (c : Machine) : Machine :=
  { c with initSocket := { c.initSocket with
    payload, sys := { c.initSocket.sys with
      sys := { c.initSocket.sys.sys with dev := { accesses, dev } } } } }

/-- The machine with another last transaction and other answers to the client. -/
def withReply (payload : Payload) (sent : Str) (c : Machine) : Machine :=
  { c with initSocket := { c.initSocket with payload, sys := { c.initSocket.sys with sent } } }

/-- `c'` is `c` but for the last transaction and the answers. -/
def Alike (c c' : Machine) : Prop :=
  ∃ payload sent, c' = withReply payload sent c ∧ ((gbOf c).cartridge.canBeSilent = true →
    payload.responseStatus.isResponseError = c.initSocket.payload.responseStatus.isResponseError)

/-! ## Transactions -/

def accessesOf (c : Machine) : List GuestAccess := c.initSocket.sys.sys.dev.accesses

/-- The payload of a transaction, which keeps the response status of the one before. -/
def request (command : TlmCommand) (addr : U16) (data : U8) (cmd : GbCommand) (c : Machine) :
    Payload :=
  { c.initSocket.payload with command, address := addr, data, extension := some cmd }

theorem readBus_apply (addr : U16) (cmd : GbCommand) (c : Machine)
    (hbus : ¬ (addr.toNat < 0x4000 ∧ c.initSocket.hasRomBank0 = true)) :
    (Cpu.readBus addr cmd : GdbM Watched U8) c =
      (gbOf c).bTransport (request .read addr (gbOf c).stackByte cmd c) >>= fun r =>
        if r.1.responseStatus.isResponseError = true then
          .error (.runtimeError ("Response error from transport_dbg!\nAddress=0x" ++
            fmtHex 4 addr.toNat ++ " Data=0x" ++ fmtHex 2 r.1.data.toNat))
        else
          let c' := landed r.1 (accessesOf c ++ [⟨.read, addr, r.1.data⟩]) r.2 c
          .ok (r.1.data, { c' with initSocket := { c'.initSocket with gbcmd := cmd } }) := by
  show (InitSocket.readBus addr cmd c.initSocket).map _ = _
  rw [InitSocket.readBus, dif_neg hbus]
  show ((((((gbOf c).bTransport (request .read addr (gbOf c).stackByte cmd c)).map _).map _).map
    _) >>= _).map _ = _
  cases (gbOf c).bTransport (request .read addr (gbOf c).stackByte cmd c) with
  | error e => rfl
  | ok r =>
    by_cases herr : r.1.responseStatus.isResponseError = true
    · simp only [Except.map, ok_bind, herr, if_true]
      rfl
    · simp only [Except.map, ok_bind, herr]
      rfl

theorem writeBus_apply (addr : U16) (v : U8) (c : Machine) :
    (Cpu.writeBus addr v : GdbM Watched Unit) c =
      (gbOf c).bTransport (request .write addr v c.initSocket.gbcmd c) >>= fun r =>
        .ok ((), landed r.1 (accessesOf c ++ [⟨.write, addr, r.1.data⟩]) r.2 c) := by
  show ((((((gbOf c).bTransport (request .write addr v c.initSocket.gbcmd c)).map _).map _).map
    _) >>= _).map _ = _
  cases (gbOf c).bTransport (request .write addr v c.initSocket.gbcmd c) <;> rfl

theorem readBusDebug_eq (addr : U16) (c : Machine) :
    (Cpu.readBusDebug addr : GdbM Watched U8) c =
      (gbOf c).transportDbg (request .read addr (gbOf c).stackByte c.initSocket.gbcmd c) >>=
        fun r => .ok (if r.1.responseStatus.isResponseError then 0 else r.1.data,
          landed r.1 (accessesOf c) r.2 c) := by
  show ((((gbOf c).transportDbg
    (request .read addr (gbOf c).stackByte c.initSocket.gbcmd c)).map _).map _).map _ >>= _ = _
  cases (gbOf c).transportDbg (request .read addr (gbOf c).stackByte c.initSocket.gbcmd c) <;> rfl

theorem writeBusDebug_eq (addr : U16) (v : U8) (c : Machine) :
    (Cpu.writeBusDebug addr v : GdbM Watched Unit) c =
      (gbOf c).transportDbg (request .write addr v c.initSocket.gbcmd c) >>= fun r =>
        if r.1.responseStatus.isResponseError = true then
          .error (.uncaught "sc_core::sc_report" "Response error from b_transport")
        else .ok ((), landed r.1 (accessesOf c) r.2 c) := by
  show ((((gbOf c).transportDbg (request .write addr v c.initSocket.gbcmd c)).map _).map _).map
    _ >>= _ = _
  cases (gbOf c).transportDbg (request .write addr v c.initSocket.gbcmd c) with
  | error e => rfl
  | ok r =>
    by_cases herr : r.1.responseStatus.isResponseError = true
    · simp only [Except.map, ok_bind, herr, if_true]
      rfl
    · simp only [Except.map, ok_bind, herr]
      rfl

/-! ## Programs -/

/-- A change of the machine that neither uses the last transaction nor exchanges the cartridge. -/
theorem respects_modify {m : GdbM Watched Unit} {f : Machine → Machine}
    (h : ∀ c, m c = .ok ((), f c))
    (hreply : ∀ payload sent c, f (withReply payload sent c) = withReply payload sent (f c))
    (hpayload : ∀ c, (f c).initSocket.payload = c.initSocket.payload)
    (hloud : ∀ c, (gbOf (f c)).cartridge.canBeSilent = (gbOf c).cartridge.canBeSilent) :
    StateExcept.Respects Alike m := by
  refine StateExcept.Respects.of_modifies h ?_
  rintro c c' ⟨payload, sent, rfl, hstatus⟩
  refine ⟨payload, sent, hreply payload sent c, fun hsilent => ?_⟩
  rw [hpayload]
  exact hstatus ((hloud c).symm.trans hsilent)

/-- What reads neither the last transaction nor the answers. -/
theorem respects_read {α : Type} {m : GdbM Watched α} {f : Machine → α}
    (h : ∀ c, m c = .ok (f c, c))
    (hf : ∀ payload sent c, f (withReply payload sent c) = f c) :
    StateExcept.Respects Alike m := by
  refine StateExcept.Respects.of_reads h ?_
  rintro c c' ⟨payload, sent, rfl, -⟩
  exact (hf payload sent c).symm

theorem alike_landed {c : Machine} (payload : Payload) {sent : Str} {r : Payload × Gb}
    {status : TlmResponseStatus} (accesses : List GuestAccess)
    (hstatus : r.2.cartridge.canBeSilent = true →
      status.isResponseError = r.1.responseStatus.isResponseError) :
    Alike (landed r.1 accesses r.2 c)
      (landed (r.1.withStatus status) accesses r.2 (withReply payload sent c)) :=
  ⟨r.1.withStatus status, sent, rfl, hstatus⟩

theorem readBus_respects (addr : U16) (cmd : GbCommand) :
    StateExcept.Respects Alike (Cpu.readBus addr cmd : GdbM Watched U8) := by
  rintro c c' ⟨payload, sent, rfl, hstatus⟩
  by_cases hbus : addr.toNat < 0x4000 ∧ c.initSocket.hasRomBank0 = true
  · have hread : ∀ c : Machine, ∀ h : addr.toNat < 0x4000 ∧ c.initSocket.hasRomBank0 = true,
        (Cpu.readBus addr cmd : GdbM Watched U8) c =
          .ok ((gbOf c).cartridge.romLow.data ⟨addr.toNat, h.1⟩, c) := by
      intro c h
      show (InitSocket.readBus addr cmd c.initSocket).map _ = _
      rw [InitSocket.readBus, dif_pos h]
      rfl
    rw [hread c hbus, hread (withReply payload sent c) hbus]
    exact ⟨rfl, payload, sent, rfl, hstatus⟩
  rw [readBus_apply addr cmd c hbus, readBus_apply addr cmd (withReply payload sent c) hbus]
  have hbus := (gbOf c).bTransport_sameOutcome (request .read addr (gbOf c).stackByte cmd c) hstatus
  refine hbus.bind fun r status hsame => ?_
  have herr : (r.1.withStatus status).responseStatus.isResponseError =
      r.1.responseStatus.isResponseError := hsame (.inl rfl)
  dsimp only
  by_cases hr : r.1.responseStatus.isResponseError = true
  · rw [if_pos hr, if_pos (herr.trans hr)]
    exact rfl
  · rw [if_neg hr, if_neg fun h => hr (herr.symm.trans h)]
    exact ⟨rfl, r.1.withStatus status, sent, rfl, fun _ => herr⟩

theorem writeBus_respects (addr : U16) (v : U8) :
    StateExcept.Respects Alike (Cpu.writeBus addr v : GdbM Watched Unit) := by
  rintro c c' ⟨payload, sent, rfl, hstatus⟩
  rw [writeBus_apply addr v c, writeBus_apply addr v (withReply payload sent c)]
  have hbus := (gbOf c).bTransport_sameOutcome (request .write addr v c.initSocket.gbcmd c) hstatus
  refine hbus.bind fun r status hsame => ?_
  exact ⟨rfl, alike_landed payload _ fun hsilent => hsame (.inr hsilent)⟩

theorem readBusDebug_respects (addr : U16) :
    StateExcept.Respects Alike (Cpu.readBusDebug addr : GdbM Watched U8) := by
  rintro c c' ⟨payload, sent, rfl, hstatus⟩
  rw [readBusDebug_eq addr c, readBusDebug_eq addr (withReply payload sent c)]
  have hbus := (gbOf c).transportDbg_sameOutcome
    (request .read addr (gbOf c).stackByte c.initSocket.gbcmd c) hstatus
  refine hbus.bind fun r status hsame => ?_
  have herr : (r.1.withStatus status).responseStatus.isResponseError =
      r.1.responseStatus.isResponseError := hsame trivial
  exact ⟨if_congr (by rw [herr]) rfl rfl, alike_landed payload _ fun _ => herr⟩

theorem writeBusDebug_respects (addr : U16) (v : U8) :
    StateExcept.Respects Alike (Cpu.writeBusDebug addr v : GdbM Watched Unit) := by
  rintro c c' ⟨payload, sent, rfl, hstatus⟩
  rw [writeBusDebug_eq addr v c, writeBusDebug_eq addr v (withReply payload sent c)]
  have hbus := (gbOf c).transportDbg_sameOutcome
    (request .write addr v c.initSocket.gbcmd c) hstatus
  refine hbus.bind fun r status hsame => ?_
  have herr : (r.1.withStatus status).responseStatus.isResponseError =
      r.1.responseStatus.isResponseError := hsame trivial
  by_cases hr : r.1.responseStatus.isResponseError = true
  · rw [if_pos hr, if_pos (herr.trans hr)]
    exact rfl
  · rw [if_neg hr, if_neg fun h => hr (herr.symm.trans h)]
    exact ⟨rfl, alike_landed payload _ fun _ => herr⟩

/-- The programs of the CPU. -/
theorem alike_cpuBlocks : Cpu.Blocks fun m : GdbM Watched _ => StateExcept.Respects Alike m := by
  refine Cpu.blocks_of_modifyRegs (StateExcept.Respects.closed _) ?_ ?_ ?_ ?_ ?_ ?_ readBus_respects
    writeBus_respects ?_ ?_ ?_
  · exact fun _ _ _ _ => rfl
  · exact respects_read (fun _ => rfl) fun _ _ _ => rfl
  · exact fun _ => respects_modify (fun _ => rfl) (fun _ _ _ => rfl) (fun _ => rfl) fun _ => rfl
  · exact fun _ => respects_modify (fun _ => rfl) (fun _ _ _ => rfl) (fun _ => rfl) fun _ => rfl
  · exact fun _ => respects_modify (fun _ => rfl) (fun _ _ _ => rfl) (fun _ => rfl) fun _ => rfl
  · exact fun _ => respects_modify (fun _ => rfl) (fun _ _ _ => rfl) (fun _ => rfl) fun _ => rfl
  · exact respects_read (fun _ => rfl) fun _ _ _ => rfl
  · exact respects_read (fun _ => rfl) fun _ _ _ => rfl
  · exact fun _ => respects_modify (fun _ => rfl) (fun _ _ _ => rfl) (fun _ => rfl) fun _ => rfl

/-- The programs of the server. -/
theorem alike_blocks : Blocks fun m : GdbM Watched _ => StateExcept.Respects Alike m where
  toClosed := StateExcept.Respects.closed _
  throw _ _ _ _ := rfl
  getRegs := respects_read (fun _ => rfl) fun _ _ _ => rfl
  modifyRegs _ := respects_modify (fun _ => rfl) (fun _ _ _ => rfl) (fun _ => rfl) fun _ => rfl
  setHalted _ :=
    respects_modify (fun _ => rfl) (fun _ _ _ => rfl) (fun _ => rfl) fun _ => rfl
  changeBpSet _ := respects_modify (fun _ => rfl) (fun _ _ _ => rfl) (fun _ => rfl) fun _ => rfl
  readBusDebug := readBusDebug_respects
  writeBusDebug := writeBusDebug_respects

/-! ## Messages -/

/-- An answer is added to the others. -/
theorem sendMsg_respects (msg : Str) :
    StateExcept.Respects Alike (sendMsg msg : GdbM Watched Unit) := by
  rintro c c' ⟨payload, sent, rfl, hstatus⟩
  exact ⟨rfl, payload, sent ++ cString msg, rfl, hstatus⟩

theorem setAttached_respects (isAttached : Bool) :
    StateExcept.Respects Alike (setAttached isAttached : GdbM Watched Unit) :=
  respects_modify (fun _ => rfl) (fun _ _ _ => rfl) (fun _ => rfl) fun _ => rfl

theorem receive_respects {α : Type} (m : RecvM α) :
    StateExcept.Respects Alike (receive m : GdbM Watched α) := by
  rintro c c' ⟨payload, sent, rfl, hstatus⟩
  have htcp : (withReply payload sent c).initSocket.sys.tcpServer =
    c.initSocket.sys.tcpServer := rfl
  unfold receive
  rw [htcp]
  cases m c.initSocket.sys.tcpServer with
  | error e => exact rfl
  | ok r => exact ⟨rfl, payload, sent, rfl, hstatus⟩

theorem recvAndCall_respects : StateExcept.Respects Alike (recvAndCall : GdbM Watched Str) :=
  alike_blocks.recvAndCall sendMsg_respects setAttached_respects (receive_respects _)

theorem handlePending_respects (fuel : Nat) :
    StateExcept.Respects Alike (handlePending fuel : GdbM Watched Unit) := by
  induction fuel with
  | zero => exact alike_blocks.pure ()
  | succ fuel ih =>
    refine StateExcept.Respects.bind_get ?_ fun c => ?_
    · rintro c c' ⟨payload, sent, rfl, -⟩
      rfl
    · exact alike_blocks.ite (alike_blocks.bind recvAndCall_respects fun _ => ih)
        (alike_blocks.pure ())

/-! ## The loop -/

theorem handleMessages_eq (c : Machine) : (Cpu.handleMessages : GdbM Watched Unit) c =
    handlePending c.initSocket.sys.tcpServer.stream.length c := by
  show ((handlePending c.initSocket.sys.tcpServer.stream.length c).map Prod.snd).map _ = _
  cases handlePending c.initSocket.sys.tcpServer.stream.length c <;> rfl

theorem pollMessages_respects :
    StateExcept.Respects Alike (Cpu.pollMessages : GdbM Watched Unit) := by
  refine alike_blocks.bind (respects_read Cpu.isMsgPending_eq fun _ _ _ => rfl) fun pending => ?_
  refine alike_blocks.ite ?_ (alike_blocks.pure ())
  rintro c c' ⟨payload, sent, rfl, hstatus⟩
  rw [handleMessages_eq, handleMessages_eq]
  exact handlePending_respects _ _ _ ⟨payload, sent, rfl, hstatus⟩

/-- Waiting leaves the cartridge as it is. -/
theorem runUntil_cartridge (target fuel : Nat) (s : Watched) :
    (s.runUntil target fuel).dev.dev.cartridge = s.dev.dev.cartridge := by
  have hraise : ∀ s : Watched, s.raise.dev.dev.cartridge = s.dev.dev.cartridge := by
    intro s
    unfold Timed.raise
    split <;> rfl
  induction fuel generalizing s with
  | zero => rfl
  | succ fuel ih =>
    unfold Timed.runUntil
    split
    · split
      · rw [ih, hraise]
      · rfl
    · rfl

theorem kernelWait_respects (t : Nat) :
    StateExcept.Respects Alike (Cpu.kernelWait t : GdbM Watched Unit) := by
  rintro c c' ⟨payload, sent, rfl, hstatus⟩
  have hwait : ∀ c : Machine, (Cpu.kernelWait t : GdbM Watched Unit) c =
      if c.initSocket.sys.sys.stopped then .error .simulationStopped
      else .ok ((), { c with initSocket := { c.initSocket with sys := { c.initSocket.sys with
        sys := c.initSocket.sys.sys.runUntil (c.initSocket.sys.sys.now + t) t } } }) := by
    intro c
    show ((if c.initSocket.sys.sys.stopped then _ else _ : Except Fault Watched).map _).map _ = _
    split <;> rfl
  have hstopped : (withReply payload sent c).initSocket.sys.sys.stopped =
    c.initSocket.sys.sys.stopped := rfl
  rw [hwait, hwait, hstopped]
  cases c.initSocket.sys.sys.stopped with
  | true => exact rfl
  | false =>
    refine ⟨rfl, payload, sent, rfl, fun hsilent => hstatus ?_⟩
    exact (congrArg Cartridge.canBeSilent (runUntil_cartridge _ t _)).symm.trans hsilent

theorem instrEmu_respects : StateExcept.Respects Alike (Cpu.instrEmu : GdbM Watched Unit) := by
  refine alike_cpuBlocks.bind (alike_cpuBlocks.getReg .b) fun v => ?_
  split
  · exact respects_modify (fun _ => rfl) (fun _ _ _ => rfl) (fun _ => rfl) fun _ => rfl
  · exact respects_modify (fun _ => rfl) (fun _ _ _ => rfl) (fun _ => rfl) fun _ => rfl
  · exact respects_modify (fun _ => rfl) (fun _ _ _ => rfl) (fun _ => rfl) fun _ => rfl
  · exact alike_blocks.pure ()

theorem accountTime_respects :
    StateExcept.Respects Alike (Cpu.accountTime : GdbM Watched Unit) := by
  refine alike_blocks.bind (respects_modify (fun _ => rfl) (fun _ _ _ => rfl) (fun _ => rfl)
    fun _ => rfl) fun _ => ?_
  refine StateExcept.Respects.bind_get ?_ fun c => ?_
  · rintro c c' ⟨payload, sent, rfl, -⟩
    rfl
  · exact alike_blocks.ite (alike_blocks.bind (kernelWait_respects _) fun _ =>
      respects_modify (fun _ => rfl) (fun _ _ _ => rfl) (fun _ => rfl) fun _ => rfl)
      (alike_blocks.pure ())

theorem sendBpReached_respects :
    StateExcept.Respects Alike (Cpu.sendBpReached : GdbM Watched Unit) := by
  rintro c c' ⟨payload, sent, rfl, hstatus⟩
  exact ⟨rfl, payload, sent ++ cString stopReply, rfl, hstatus⟩

theorem headAfterMessages_respects :
    StateExcept.Respects Alike (Cpu.headAfterMessages : GdbM Watched Bool) := by
  refine StateExcept.Respects.bind_get ?_ fun c => ?_
  · rintro c c' ⟨payload, sent, rfl, -⟩
    rfl
  · refine alike_blocks.ite (alike_blocks.pure false) ?_
    refine alike_blocks.bind alike_cpuBlocks.getPc fun pc => ?_
    refine alike_blocks.bind (respects_read (fun _ => rfl) fun _ _ _ => rfl) fun hit => ?_
    refine alike_blocks.ite ?_ ?_
    · exact alike_blocks.bind (alike_blocks.setHalted true) fun _ =>
        alike_blocks.bind sendBpReached_respects fun _ =>
          alike_blocks.bind (kernelWait_respects _) fun _ => alike_blocks.pure false
    · exact alike_blocks.bind (alike_cpuBlocks.setWaitNs 0) fun _ =>
        alike_blocks.bind (Cpu.handleInterrupts_of_blocks alike_cpuBlocks) fun _ =>
          alike_blocks.pure true

theorem machineCycle_respects (fuel : Nat) :
    StateExcept.Respects Alike (Cpu.machineCycle fuel : GdbM Watched Unit) := by
  refine alike_blocks.bind (alike_blocks.bind pollMessages_respects fun _ =>
    headAfterMessages_respects) fun go => ?_
  refine alike_blocks.ite ?_ (alike_blocks.pure ())
  refine alike_blocks.bind alike_cpuBlocks.fetchNextInstrByte fun instrByte => ?_
  refine alike_blocks.bind ?_ fun _ => accountTime_respects
  exact Cpu.decodeExecute_of_blocks alike_cpuBlocks fuel instrByte
    (fun _ => alike_cpuBlocks.instrHalt kernelWait_respects fuel) fun _ => instrEmu_respects

/-! ## Runs -/

/-- The inputs of a run: the client's bytes arrive, the other processes change anything behind the
    bus but the kind of controller, or the loop goes through one iteration. -/
inductive Input where
  | arrives (bytes : Str)
  | acts (f : Gb → Gb)
      (hf : ∀ gb, (f gb).cartridge.canBeSilent = gb.cartridge.canBeSilent)
  | cycle (fuel : Nat)

def perform : Input → GdbM Watched Unit
  | .arrives bytes => modify fun c => { c with initSocket := { c.initSocket with
      sys := { c.initSocket.sys with tcpServer := { c.initSocket.sys.tcpServer with
        stream := c.initSocket.sys.tcpServer.stream ++ bytes } } } }
  | .acts f _ => modify fun c => landed c.initSocket.payload (accessesOf c) (f (gbOf c)) c
  | .cycle fuel => Cpu.machineCycle fuel

/-- The machine after the inputs. -/
def runFrom (c : Machine) (inputs : List Input) : Except Fault Machine :=
  (inputs.forM perform c).map Prod.snd

/-- Everything but the payload of the last transaction and the answers to the client: registers,
    interrupts, devices, recorded transactions. -/
def guestOf (c : Machine) : Machine := withReply {} [] c

theorem perform_respects (input : Input) : StateExcept.Respects Alike (perform input) := by
  cases input with
  | arrives bytes =>
    exact respects_modify (fun _ => rfl) (fun _ _ _ => rfl) (fun _ => rfl) fun _ => rfl
  | acts f hf =>
    exact respects_modify (fun _ => rfl) (fun _ _ _ => rfl) (fun _ => rfl) fun c => hf (gbOf c)
  | cycle fuel => exact machineCycle_respects fuel

/-- Alike machines run alike. -/
theorem run_same {c c' : Machine} (h : Alike c c') (inputs : List Input) :
    (runFrom c' inputs).map guestOf = (runFrom c inputs).map guestOf := by
  have hagree := alike_blocks.forM perform_respects inputs c c' h
  unfold runFrom
  cases hc : inputs.forM perform c with
  | error e =>
    cases hc' : inputs.forM perform c' with
    | error e' =>
      rw [hc, hc'] at hagree
      exact congrArg Except.error hagree.symm
    | ok r =>
      rw [hc, hc'] at hagree
      exact hagree.elim
  | ok r =>
    cases hc' : inputs.forM perform c' with
    | error e =>
      rw [hc, hc'] at hagree
      exact hagree.elim
    | ok r' =>
      rw [hc, hc'] at hagree
      obtain ⟨-, payload, sent, hsame, -⟩ := hagree
      show Except.ok (guestOf r'.2) = Except.ok (guestOf r.2)
      rw [hsame]
      rfl

end GdbServer

end TlmBoy
