import TlmBoy.Gdb.Arguments
import TlmBoy.Gdb.TwoRuns
import TlmBoy.Io.JoyPadLines

/-
  What a memory read of the debugger does to the guest.

  Two things remain of it. A read of P1 samples the buttons, which the guest sees once it reads P1
  with no line selected. And the transactions of the CPU share one payload, whose response status a
  guest's read of a disabled external RAM finds again: after a read of an unmapped address it
  throws. `undisturbed` says that nothing else remains: if P1 shows the buttons already, and the
  last of the reads goes well exactly if the transaction before the packet did, then every run of
  the guest is the same with and without the packet.
-/

namespace TlmBoy

namespace GdbServer

/-! ## The response status -/

/-- The response status after reads of these addresses. -/
def statusAfter (gb : Gb) (status : TlmResponseStatus) (addrs : List U16) : TlmResponseStatus :=
  addrs.foldl (fun status addr => gb.readStatus { address := addr, responseStatus := status })
    status

/-- The last read outside a silent RAM is of a mapped address exactly if `status` is no error. -/
def StatusKept (gb : Gb) (status : TlmResponseStatus) (addrs : List U16) : Prop :=
  ∀ pre addr suf, addrs = pre ++ addr :: suf → ¬ gb.Silent addr →
    (∀ a ∈ suf, gb.Silent a) →
      ((findSlave addr).isSome = true ↔ status.isResponseError = false)

theorem statusAfter_kept (gb : Gb) (status : TlmResponseStatus) {addrs : List U16}
    (h : StatusKept gb status addrs) :
    (statusAfter gb status addrs).isResponseError = status.isResponseError := by
  induction addrs using List.reverseRecOn with
  | nil => rfl
  | append_singleton addrs addr ih =>
    have hlast : statusAfter gb status (addrs ++ [addr]) =
        gb.readStatus { address := addr, responseStatus := statusAfter gb status addrs } := by
      rw [statusAfter, List.foldl_append]
      rfl
    rw [hlast, Gb.readStatus]
    by_cases hsilent : gb.Silent addr
    · have hmapped : (findSlave addr).isSome = true := by
        obtain ⟨hlo, hhi, -⟩ := hsilent
        have hs : findSlave addr = some ⟨0xA000, 0xBFFF, .cartridgeRam⟩ :=
          findSlave_eq_some_iff.mpr ⟨by decide, hlo, hhi⟩
        rw [hs]
        rfl
      rw [if_neg (by rw [hmapped]; decide), if_pos hsilent]
      refine ih fun pre a suf haddrs ha hsuf => h pre a (suf ++ [addr]) ?_ ha ?_
      · rw [haddrs, List.append_assoc, List.cons_append]
      · intro b hb
        rcases List.mem_append.mp hb with hb | hb
        · exact hsuf b hb
        · exact List.mem_singleton.mp hb ▸ hsilent
    · have hlast := h addrs addr [] rfl hsilent (List.forall_mem_nil _)
      by_cases hmapped : (findSlave addr).isSome = true
      · rw [if_neg (by rw [hmapped]; decide), if_neg hsilent, hlast.mp hmapped]
        rfl
      · rw [if_pos (Bool.eq_false_of_not_eq_true hmapped)]
        exact (Bool.eq_true_of_not_eq_false fun h => hmapped (hlast.mpr h)).symm

/-! ## The packet -/

/-- Reading P1, if it is among the addresses, finds the buttons that it shows already. -/
def P1Sampled (gb : Gb) (addrs : List U16) : Prop :=
  0xFF00 ∈ addrs → gb.joyPad.readReg = gb.joyPad

theorem afterDebugRead_same {gb : Gb} {addr : U16}
    (h : addr = 0xFF00 → gb.joyPad.readReg = gb.joyPad) : gb.afterDebugRead addr = gb := by
  unfold Gb.afterDebugRead
  by_cases hadr : addr = 0xFF00
  · rw [if_pos hadr, h hadr]
  · rw [if_neg hadr]

/-- A debug read that returns. -/
theorem readBusDebug_ok {c c' : Machine} {addr : U16} {v : U8}
    (h : (Cpu.readBusDebug addr : GdbM Watched U8) c = .ok (v, c'))
    (hp1 : addr = 0xFF00 → (gbOf c).joyPad.readReg = (gbOf c).joyPad) :
    ∃ payload, c' = withReply payload c.initSocket.sys.sent c ∧ payload.responseStatus =
      (gbOf c).readStatus { address := addr, responseStatus := c.initSocket.payload.responseStatus }
      := by
  rw [readBusDebug_eq] at h
  by_cases hserial : addr = 0xFF03
  · rw [(gbOf c).transportDbg_FF03 hserial] at h
    cases h
  · obtain ⟨rel, data, hread⟩ := @Gb.transportDbg_read (gbOf c)
      (request .read addr (gbOf c).stackByte c.initSocket.gbcmd c) rfl hserial
    rw [hread, ok_bind] at h
    cases h
    have hsame : (gbOf c).afterDebugRead addr = gbOf c := afterDebugRead_same hp1
    refine ⟨⟨.read, rel, data, (gbOf c).readStatus
      { address := addr, responseStatus := c.initSocket.payload.responseStatus },
      some c.initSocket.gbcmd⟩, ?_, rfl⟩
    show landed _ _ ((gbOf c).afterDebugRead addr) c = _
    rw [hsame]
    rfl

/-- The loop of `CmdReadMem` leaves the payload of its last read. -/
theorem readMem_ok (n : Nat) (is : List Nat) {c c' : Machine} {s : Str}
    (h : (readMem (BitVec.ofNat 32 n) is : GdbM Watched Str) c = .ok (s, c'))
    (hp1 : P1Sampled (gbOf c) (is.map fun i => BitVec.ofNat 16 (n + i))) :
    ∃ payload, c' = withReply payload c.initSocket.sys.sent c ∧ payload.responseStatus =
      statusAfter (gbOf c) c.initSocket.payload.responseStatus
        (is.map fun i => BitVec.ofNat 16 (n + i)) := by
  induction is generalizing c s with
  | nil =>
    cases h
    exact ⟨c'.initSocket.payload, rfl, rfl⟩
  | cons i is ih =>
    unfold readMem at h
    rw [ofNat_add_setWidth] at h
    obtain ⟨v, c₁, hread, h⟩ := StateExcept.bind_eq_ok h
    obtain ⟨rest, c₂, hrest, h⟩ := StateExcept.bind_eq_ok h
    cases h
    have hhead : BitVec.ofNat 16 (n + i) = 0xFF00 →
        (gbOf c).joyPad.readReg = (gbOf c).joyPad := by
      intro hadr
      exact hp1 (List.mem_map.mpr ⟨i, List.mem_cons_self, hadr⟩)
    obtain ⟨payload, rfl, hstatus⟩ := readBusDebug_ok hread hhead
    obtain ⟨payload', rfl, hstatus'⟩ := ih hrest fun hmem =>
      hp1 (by rw [List.map_cons]; exact List.mem_cons_of_mem _ hmem)
    refine ⟨payload', rfl, ?_⟩
    rw [hstatus']
    show statusAfter (gbOf c) payload.responseStatus _ = _
    rw [hstatus]
    rfl

/-- `std::stoi` of digits, where it returns. -/
theorem stoiUint_ok {s : Str} (hs : HexDigits s) {c c' : Machine} {v : BitVec 32}
    (h : (stoiUint s : GdbM Watched (BitVec 32)) c = .ok (v, c')) :
    v = BitVec.ofNat 32 (hexValue s) ∧ hexValue s < 2 ^ 31 ∧ c' = c := by
  obtain ⟨n, c₁, hcheck, h⟩ := StateExcept.bind_eq_ok h
  cases h
  unfold check at hcheck
  rw [stoi16_hex hs] at hcheck
  by_cases hlt : hexValue s < 2 ^ 31
  · rw [if_pos hlt] at hcheck
    cases hcheck
    exact ⟨rfl, hlt, rfl⟩
  · rw [if_neg hlt] at hcheck
    cases hcheck

/-- The addresses that `m addr,length` reads. -/
def readAddrs (addr length : Str) : List U16 :=
  (List.range (hexValue length)).map (byteAddr addr)

/-- The message is the packet `m addr,length`. -/
def IsReadMem (msg addr length : Str) : Prop :=
  ∃ stripped, substr msg 1 (BitVec.ofNat 64 msg.length - 4).toNat = .ok stripped ∧
    splitMsg stripped = [str "m", addr, length]

/-- The condition on the machine before the packet. -/
def Harmless (c : Machine) (addr length : Str) : Prop :=
  P1Sampled (gbOf c) (readAddrs addr length) ∧
    ((gbOf c).cartridge.canBeSilent = true →
      StatusKept (gbOf c) c.initSocket.payload.responseStatus (readAddrs addr length))

theorem cmdReadMem_alike {c c' : Machine} {name addr length : Str} (haddr : HexDigits addr)
    (hlength : HexDigits length) (hharmless : Harmless c addr length)
    (h : (cmdReadMem [name, addr, length] : GdbM Watched Unit) c = .ok ((), c')) : Alike c c' := by
  obtain ⟨a, c₁, hfield, h⟩ := StateExcept.bind_eq_ok h
  cases hfield
  obtain ⟨l, c₁, hfield, h⟩ := StateExcept.bind_eq_ok h
  cases hfield
  obtain ⟨a, c₁, hstoi, hrest⟩ := StateExcept.bind_eq_ok h
  obtain ⟨rfl, -, rfl⟩ := stoiUint_ok haddr hstoi
  obtain ⟨l, c₂, hstoi', hloop⟩ := StateExcept.bind_eq_ok hrest
  obtain ⟨rfl, hlt, rfl⟩ := stoiUint_ok hlength hstoi'
  obtain ⟨s, c₃, hmem, hsend⟩ := StateExcept.bind_eq_ok hloop
  cases hsend
  have hnat : (BitVec.ofNat 32 (hexValue length)).toNat = hexValue length :=
    Nat.mod_eq_of_lt (by omega)
  rw [hnat] at hmem
  obtain ⟨payload, rfl, hstatus⟩ := readMem_ok (hexValue addr) _ hmem hharmless.1
  refine ⟨payload, _, rfl, fun hsilent => ?_⟩
  rw [hstatus]
  exact statusAfter_kept _ _ (hharmless.2 hsilent)

/-- Handling the packet leaves the machine as it was, but for the last transaction and the
    answer. -/
theorem decodeAndCall_alike {c c' : Machine} {msg addr length : Str}
    (hmsg : IsReadMem msg addr length) (hharmless : Harmless c addr length)
    (h : (decodeAndCall msg : GdbM Watched Unit) c = .ok ((), c')) : Alike c c' := by
  obtain ⟨stripped, hsub, hsplit⟩ := hmsg
  have hcommand : IsCommand [str "m", addr, length] :=
    hsplit ▸ isCommand_splitMsg (by rw [hsplit]; exact List.cons_ne_nil _ _)
  obtain ⟨haddr, hlength⟩ : HexDigits addr ∧ HexDigits length := by
    cases hcommand with
    | readMem haddr hlength => exact ⟨haddr, hlength⟩
  obtain ⟨stripped', hsub', ⟨hnone, -⟩ | ⟨name, fields, cmd, c₁, hsplit', hlookup, hack, hcmd⟩⟩ :=
    decodeAndCall_cases h
  · obtain rfl : stripped = stripped' := Except.ok.inj (hsub.symm.trans hsub')
    rw [hsplit] at hnone
    cases hnone
  · obtain rfl : stripped = stripped' := Except.ok.inj (hsub.symm.trans hsub')
    rw [hsplit] at hsplit'
    obtain ⟨rfl, rfl⟩ := List.cons.inj hsplit'
    obtain rfl : cmdReadMem = cmd := Option.some.inj hlookup
    cases hack
    obtain ⟨payload, sent, rfl, hstatus⟩ := cmdReadMem_alike haddr hlength
      (show Harmless (withReply c.initSocket.payload
        (c.initSocket.sys.sent ++ cString kMsgAck) c) addr length from hharmless) hcmd
    exact ⟨payload, sent, rfl, hstatus⟩

/-- Handling a memory read leaves the guest undisturbed: with the same inputs, every later run has
    the same registers, interrupts, devices and transactions as without the packet. -/
theorem undisturbed {c c' : Machine} {msg addr length : Str} (hmsg : IsReadMem msg addr length)
    (hrun : (decodeAndCall msg : GdbM Watched Unit) c = .ok ((), c'))
    (hharmless : Harmless c addr length) (inputs : List Input) :
    (runFrom c' inputs).map guestOf = (runFrom c inputs).map guestOf :=
  run_same (decodeAndCall_alike hmsg hharmless hrun) inputs

/-! ## Examples -/

/-- A machine at power-on. -/
def poweredOn (cartridge : Cartridge) : Machine :=
  { initSocket :=
      { payload := {}
        gbcmd := .gbReadInst
        hasRomBank0 := true
        sys :=
          { tcpServer := { stream := [], segment := fun _ => ⟨1, fun _ => 0⟩ }
            sys := { now := 0, schedule := .once 10000 0, stopped := false,
                     dev := { dev := .powerOn cartridge } } } } }

theorem isReadMem_c000 : IsReadMem (packetify (str "mc000,2")) (str "c000") (str "2") :=
  ⟨str "mc000,2", by decide +kernel, splitMsg_readMem⟩

/-- Reading two bytes of work RAM leaves the guest undisturbed. -/
theorem undisturbed_c000 : ∃ c', (decodeAndCall (packetify (str "mc000,2")) : GdbM Watched Unit)
    (poweredOn .blank) = .ok ((), c') ∧ ∀ inputs,
      (runFrom c' inputs).map guestOf = (runFrom (poweredOn .blank) inputs).map guestOf := by
  have hends : ((decodeAndCall (packetify (str "mc000,2")) : GdbM Watched Unit)
      (poweredOn .blank)).map (fun r => r.2.halted) = .ok false := by decide +kernel
  obtain ⟨⟨u, c'⟩, hrun, -⟩ := StateExcept.map_eq_ok hends
  have haddrs : readAddrs (str "c000") (str "2") = [0xC000, 0xC001] := by decide +kernel
  refine ⟨c', hrun, undisturbed isReadMem_c000 hrun ⟨?_, fun hsilent => by cases hsilent⟩⟩
  unfold P1Sampled
  rw [haddrs]
  decide

/-- A guest that selects the direction keys, selects nothing, and reads P1. -/
def readsP1 : Cartridge :=
  .rom (.init (fun i =>
    ([0x3E, 0x20, 0xE0, 0x00, 0x3E, 0x30, 0xE0, 0x00, 0xF0, 0x00] : Str).getD i.val 0)
    (fun _ => 0) (fun _ => 0) false)

theorem setButton_cartridge (sym : Keycode) (pressed : Bool) (gb : Gb) :
    (gb.setButton sym pressed).cartridge = gb.cartridge := by
  unfold Gb.setButton
  dsimp only
  split <;> rfl

/-- The key is pressed once the direction keys are selected. -/
def pressesRight : List Input :=
  [.cycle 0, .cycle 0, .acts (Gb.setButton .right true) fun gb =>
    congrArg Cartridge.canBeSilent (setButton_cartridge .right true gb)]

/-- A read of P1 samples the key, and the guest sees it later. -/
theorem read_of_P1_disturbs : ¬ ∀ (cartridge : Cartridge) (before inputs : List Input)
    (c c' : Machine) (msg addr length : Str), runFrom (poweredOn cartridge) before = .ok c →
      IsReadMem msg addr length → (decodeAndCall msg : GdbM Watched Unit) c = .ok ((), c') →
        (runFrom c' inputs).map (fun d => (d.regFile, accessesOf d)) =
          (runFrom c inputs).map fun d => (d.regFile, accessesOf d) := by
  intro h
  have hends : (runFrom (poweredOn readsP1) pressesRight >>= fun c =>
      (decodeAndCall (packetify (str "mff00,1")) : GdbM Watched Unit) c >>= fun r =>
        runFrom c [.cycle 0, .cycle 0, .cycle 0] >>= fun d =>
          (runFrom r.2 [.cycle 0, .cycle 0, .cycle 0]).map fun d' =>
            (d.regFile.a, d'.regFile.a)) = .ok (0x3F, 0x3E) := by decide +kernel
  obtain ⟨c, hbefore, hends⟩ := StateExcept.except_bind_eq_ok hends
  obtain ⟨⟨u, c'⟩, hpacket, hends⟩ := StateExcept.except_bind_eq_ok hends
  obtain ⟨d, hwithout, hends⟩ := StateExcept.except_bind_eq_ok hends
  obtain ⟨d', hwith, hends⟩ := StateExcept.map_eq_ok hends
  have hmsg : IsReadMem (packetify (str "mff00,1")) (str "ff00") (str "1") :=
    ⟨str "mff00,1", by decide +kernel, by decide +kernel⟩
  have hsame := h readsP1 pressesRight [.cycle 0, .cycle 0, .cycle 0] c c' _ _ _ hbefore hmsg
    hpacket
  rw [hwith, hwithout] at hsame
  have hregs := (Prod.mk.inj (Except.ok.inj hsame)).1
  obtain ⟨ha, ha'⟩ := Prod.mk.inj hends
  rw [hregs, ha] at ha'
  exact absurd ha' (by decide)

end GdbServer

end TlmBoy
