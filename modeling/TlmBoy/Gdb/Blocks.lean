import TlmBoy.Gdb.Commands

/-
  The commands of the debugger are made of the same few blocks, as the instructions are.

  `Blocks P` says of a predicate on programs of the server that it goes through sequencing and
  holds of the primitives that the commands share. What a command sends, and whether it attaches
  or detaches the client, is left to the caller.
-/

namespace TlmBoy

namespace GdbServer

variable {σ : Type} [BusPort σ] [DebugPort σ]

/-- `P` goes through sequencing and holds of the primitives of the commands. -/
structure Blocks (P : ∀ {α : Type}, GdbM σ α → Prop) : Prop extends StateExcept.Closed P where
  throw {α : Type} (e : Fault) : P (throw e : GdbM σ α)
  getRegs : P (Cpu.getRegs : GdbM σ RegFile)
  modifyRegs (f : RegFile → RegFile) : P (Cpu.modifyRegs f : GdbM σ Unit)
  setHalted (halted : Bool) : P (setHalted halted : GdbM σ Unit)
  changeBpSet (f : Finset U16 → Finset U16) : P (changeBpSet f : GdbM σ Unit)
  readBusDebug (addr : U16) : P (Cpu.readBusDebug addr : GdbM σ U8)
  writeBusDebug (addr : U16) (v : U8) : P (Cpu.writeBusDebug addr v : GdbM σ Unit)

namespace Blocks

variable {P : ∀ {α : Type}, GdbM σ α → Prop}

/-- A relation that every change of the CPU keeps but the sending and the attaching. -/
theorem of_keeps {R : Cpu (Linked σ) → Cpu (Linked σ) → Prop} [Std.Refl R]
    [IsTrans (Cpu (Linked σ)) R]
    (hR : ∀ c c', c'.initSocket.sys.tcpServer = c.initSocket.sys.tcpServer →
      c'.initSocket.sys.sent = c.initSocket.sys.sent →
      c'.gdbServer.isAttached = c.gdbServer.isAttached → R c c') :
    Blocks fun m : GdbM σ _ => StateExcept.Keeps R m where
  toClosed := StateExcept.Keeps.closed _
  throw e c a c' h := by cases h
  getRegs := StateExcept.Keeps.of_reads fun _ => rfl
  modifyRegs f := StateExcept.Keeps.of_modifies (fun _ => rfl) fun _ => hR _ _ rfl rfl rfl
  setHalted halted := StateExcept.Keeps.of_modifies (fun _ => rfl) fun _ => hR _ _ rfl rfl rfl
  changeBpSet f := StateExcept.Keeps.of_modifies (fun _ => rfl) fun _ => hR _ _ rfl rfl rfl
  readBusDebug addr c v c' h := by
    obtain ⟨r, hbus, h⟩ := StateExcept.except_bind_eq_ok h
    obtain ⟨r', -, hr⟩ := StateExcept.map_eq_ok hbus
    subst hr
    cases h
    exact hR _ _ rfl rfl rfl
  writeBusDebug addr v c u c' h := by
    obtain ⟨r, hbus, h⟩ := StateExcept.except_bind_eq_ok h
    obtain ⟨r', -, hr⟩ := StateExcept.map_eq_ok hbus
    subst hr
    dsimp only at h
    split at h
    · cases h
    · cases h
      exact hR _ _ rfl rfl rfl

theorem check (h : Blocks P) {α : Type} (e : Except GdbStop α) :
    P (GdbServer.check e : GdbM σ α) := by
  cases e with
  | error stop => exact h.throw stop.fault
  | ok a => exact h.pure a

theorem assertion (h : Blocks P) (c : Prop) [Decidable c] (text : String) :
    P (liftM (cAssert c text) : GdbM σ Unit) := by
  by_cases hc : c
  · rw [cAssert_pos hc]
    exact h.pure ()
  · rw [cAssert_neg hc]
    exact h.throw _

theorem field (h : Blocks P) (msgSplit : List Str) (i : Nat) :
    P (GdbServer.field msgSplit i : GdbM σ Str) := by
  unfold GdbServer.field
  split
  · exact h.pure _
  · exact h.throw _

theorem stoiUint (h : Blocks P) (s : Str) : P (GdbServer.stoiUint s : GdbM σ (BitVec 32)) :=
  h.bind (h.check _) fun _ => h.pure _

theorem readMem (h : Blocks P) (addr : BitVec 32) (is : List Nat) :
    P (GdbServer.readMem addr is : GdbM σ Str) := by
  induction is with
  | nil => exact h.pure _
  | cons i is ih => exact h.bind (h.readBusDebug _) fun _ => h.bind ih fun _ => h.pure _

/-- The loop of `CmdWriteReg`. -/
theorem writeRegs (h : Blocks P) (dataStr : Str)
    (setters : List ((U16 → RegFile → RegFile) × Nat)) :
    P (setters.forM fun (setter, k) => do
      let data ← GdbServer.check (substr dataStr (4 * k) 4 >>= stoi16)
      Cpu.modifyRegs (setter ((BitVec.ofInt 16 data).rotateLeft 8)) : GdbM σ Unit) :=
  h.forM (fun _ => h.bind (h.check _) fun _ => h.modifyRegs _) _

/-- The loop of `CmdWriteMem`. -/
theorem writeMem (h : Blocks P) (dataStr : Str) (addr : BitVec 32) (is : List Nat) :
    P (is.forM fun i => do
      let data ← GdbServer.check (substr dataStr (i * 2) 2 >>= stoi16)
      Cpu.writeBusDebug ((addr + BitVec.ofNat 32 i).setWidth 16) (BitVec.ofInt 8 data) :
        GdbM σ Unit) :=
  h.forM (fun _ => h.bind (h.check _) fun _ => h.writeBusDebug _ _) _

/-! ## The commands -/

section Commands

variable (h : Blocks P) (hsend : ∀ msg, P (sendMsg msg : GdbM σ Unit)) (msgSplit : List Str)

include h hsend

theorem cmdHalted : P (GdbServer.cmdHalted msgSplit : GdbM σ Unit) :=
  h.bind (h.setHalted true) fun _ => hsend _

theorem cmdSupported : P (GdbServer.cmdSupported msgSplit : GdbM σ Unit) :=
  h.bind (h.field _ _) fun _ => hsend _

theorem cmdBp (change : U16 → Finset U16 → Finset U16) :
    P (GdbServer.cmdBp change msgSplit : GdbM σ Unit) :=
  h.bind (h.field _ _) fun _ => h.ite (h.bind (h.field _ _) fun _ => h.bind (h.stoiUint _)
    fun _ => h.bind (h.changeBpSet _) fun _ => hsend _) (hsend _)

theorem cmdReadReg : P (GdbServer.cmdReadReg msgSplit : GdbM σ Unit) :=
  h.bind h.getRegs fun _ => hsend _

theorem cmdWriteReg : P (GdbServer.cmdWriteReg msgSplit : GdbM σ Unit) :=
  h.bind (h.field _ _) fun _ => h.bind (h.assertion _ _) fun _ => h.bind (h.writeRegs _ _)
    fun _ => hsend _

theorem cmdReadMem : P (GdbServer.cmdReadMem msgSplit : GdbM σ Unit) :=
  h.bind (h.field _ _) fun _ => h.bind (h.field _ _) fun _ => h.bind (h.stoiUint _) fun _ =>
    h.bind (h.stoiUint _) fun _ => h.bind (h.readMem _ _) fun _ => hsend _

theorem cmdWriteMem : P (GdbServer.cmdWriteMem msgSplit : GdbM σ Unit) :=
  h.bind (h.field _ _) fun _ => h.bind (h.field _ _) fun _ => h.bind (h.field _ _) fun _ =>
    h.bind (h.stoiUint _) fun _ => h.bind (h.stoiUint _) fun _ => h.bind (h.writeMem _ _ _)
      fun _ => hsend _

end Commands

end Blocks

/-! ## Messages -/

/-- The CPU once the connection has received something. -/
def withTcp (tcpServer : TcpServer) (c : Cpu (Linked σ)) : Cpu (Linked σ) :=
  { c with initSocket := { c.initSocket with sys := { c.initSocket.sys with tcpServer } } }

omit [BusPort σ] [DebugPort σ] in
theorem receive_cases {α : Type} {m : RecvM α} {c c' : Cpu (Linked σ)} {a : α}
    (h : receive m c = .ok (a, c')) :
    ∃ tcp, m c.initSocket.sys.tcpServer = .ok (a, tcp) ∧ c' = withTcp tcp c := by
  unfold receive at h
  cases hm : m c.initSocket.sys.tcpServer with
  | error e =>
    rw [hm] at h
    cases h
  | ok r =>
    rw [hm] at h
    cases h
    exact ⟨r.2, rfl, rfl⟩

theorem mem_cmdMap {name : Str} {cmd : List Str → GdbM σ Unit}
    (h : cmdMap.lookup name = some cmd) : (name, cmd) ∈ (cmdMap : List (Str × _)) := by
  obtain ⟨before, after, hmap, -⟩ := List.lookup_eq_some_iff.mp h
  rw [hmap]
  exact List.mem_append_right _ List.mem_cons_self

/-- A packet is answered as unknown, or acknowledged and given to its command. -/
theorem decodeAndCall_cases {msg : Str} {c c' : Cpu (Linked σ)} {u : Unit}
    (h : decodeAndCall msg c = .ok (u, c')) :
    ∃ stripped, substr msg 1 (BitVec.ofNat 64 msg.length - 4).toNat = .ok stripped ∧
      ((splitMsg stripped = [] ∧ (sendMsg kMsgEmpty : GdbM σ Unit) c = .ok (u, c')) ∨
      ∃ name fields cmd c₁, splitMsg stripped = name :: fields ∧ cmdMap.lookup name = some cmd ∧
        (sendMsg kMsgAck : GdbM σ Unit) c = .ok ((), c₁) ∧
        cmd (name :: fields) c₁ = .ok (u, c')) := by
  obtain ⟨stripped, c₁, hcheck, h⟩ := StateExcept.bind_eq_ok h
  obtain ⟨s, hs, hc⟩ := StateExcept.except_bind_eq_ok hcheck
  cases hc
  refine ⟨stripped, ?_, ?_⟩
  · cases hsub : substr msg 1 (BitVec.ofNat 64 msg.length - 4).toNat with
    | error e =>
      rw [hsub] at hs
      cases hs
    | ok s =>
      rw [hsub] at hs
      cases hs
      rfl
  dsimp only at h
  cases hres : splitMsg stripped with
  | nil =>
    rw [hres] at h
    exact Or.inl ⟨rfl, h⟩
  | cons name fields =>
    rw [hres] at h
    dsimp only at h
    cases hlookup : (cmdMap : List (Str × (List Str → GdbM σ Unit))).lookup name with
    | none =>
      rw [hlookup] at h
      cases h
    | some cmd =>
      rw [hlookup] at h
      obtain ⟨u₁, c₁, hack, h⟩ := StateExcept.bind_eq_ok h
      exact Or.inr ⟨name, fields, cmd, c₁, rfl, hlookup, hack, h⟩

/-- What is done with a message once it is received. -/
def Handles (received : Received) (c c' : Cpu (Linked σ)) : Prop :=
  match received with
  | .ack => c' = c
  | .interrupt => cmdHalted [] c = .ok ((), c')
  | .packet msg => decodeAndCall msg c = .ok ((), c')

/-- What `RecvMsgBlocking` returns. -/
def receivedText : Received → Str
  | .ack => str "+"
  | .interrupt => [0x03]
  | .packet msg => msg

theorem recvAndCall_cases {c c' : Cpu (Linked σ)} {msg : Str}
    (h : recvAndCall c = .ok (msg, c')) :
    ∃ received tcp, recvMsgBlocking c.initSocket.sys.tcpServer = .ok (received, tcp) ∧
      msg = receivedText received ∧ Handles received (withTcp tcp c) c' := by
  obtain ⟨received, c₁, hrecv, h⟩ := StateExcept.bind_eq_ok h
  obtain ⟨tcp, htcp, rfl⟩ := receive_cases hrecv
  refine ⟨received, tcp, htcp, ?_⟩
  cases received with
  | ack =>
    cases h
    exact ⟨rfl, rfl⟩
  | interrupt =>
    obtain ⟨u, c₂, hrun, hpure⟩ := StateExcept.bind_eq_ok h
    cases hpure
    exact ⟨rfl, hrun⟩
  | packet packet =>
    obtain ⟨u, c₂, hrun, hpure⟩ := StateExcept.bind_eq_ok h
    cases hpure
    exact ⟨rfl, hrun⟩

/-! ### Through the blocks -/

namespace Blocks

variable {P : ∀ {α : Type}, GdbM σ α → Prop} (h : Blocks P)
  (hsend : ∀ msg, P (sendMsg msg : GdbM σ Unit))
  (hattach : ∀ isAttached, P (setAttached isAttached : GdbM σ Unit))

include h hsend hattach

/-- A predicate that goes through the blocks holds of every command, if it does of sending and of
    attaching. -/
theorem cmdMap : ∀ entry ∈ (GdbServer.cmdMap : List (Str × (List Str → GdbM σ Unit))),
    ∀ msgSplit, P (entry.2 msgSplit) := by
  simp only [GdbServer.cmdMap, List.forall_mem_cons, cmdInsertBp, cmdRemoveBp]
  exact ⟨h.cmdHalted hsend, h.cmdReadReg hsend, h.cmdWriteReg hsend,
    fun _ => h.bind (hattach false) fun _ => h.bind (h.setHalted false) fun _ => hsend _,
    h.cmdReadMem hsend, h.cmdWriteMem hsend, fun _ => h.setHalted false,
    fun _ => h.cmdBp hsend _ _, fun _ => h.cmdBp hsend _ _, h.cmdSupported hsend,
    fun _ => h.bind (hattach true) fun _ => hsend _, List.forall_mem_nil _⟩

theorem decodeAndCall (msg : Str) : P (GdbServer.decodeAndCall msg : GdbM σ Unit) := by
  refine h.bind (h.check _) fun stripped => ?_
  dsimp only
  cases splitMsg stripped with
  | nil => exact hsend _
  | cons name fields =>
    dsimp only
    cases hlookup : (GdbServer.cmdMap : List (Str × (List Str → GdbM σ Unit))).lookup name with
    | none => exact h.throw _
    | some cmd =>
      exact h.bind (hsend _) fun _ => h.cmdMap hsend hattach _ (mem_cmdMap hlookup) _

/-- What holds of receiving a message holds of handling one. -/
theorem recvAndCall (hreceive : P (receive recvMsgBlocking : GdbM σ Received)) :
    P (GdbServer.recvAndCall : GdbM σ Str) := by
  refine h.bind hreceive fun received => ?_
  cases received with
  | ack => exact h.pure _
  | interrupt => exact h.bind (h.cmdHalted hsend []) fun _ => h.pure _
  | packet msg => exact h.bind (h.decodeAndCall hsend hattach msg) fun _ => h.pure _

end Blocks

end GdbServer

end TlmBoy
