import TlmBoy.Cpu.Breakpoints
import TlmBoy.Gdb.Blocks

/-
  A CPU that is halted when no debugger is attached.

  `HandleMessages` is the only thing that clears `halted_`, and it runs only while the debugger is
  attached. No message leads there (`recvAndCall_settles`), since detaching lets the CPU continue.
  What does is a breakpoint: detaching leaves `bp_set_` as it is, and the loop halts at a
  breakpoint whether or not the debugger is attached. `never_stuck_iff` puts this over all runs,
  with the client's bytes arriving in any portions between the iterations.
-/

namespace TlmBoy

namespace GdbServer

variable {σ : Type}

/-- Halted, with no debugger to continue. -/
def Stuck {τ : Type} (c : Cpu τ) : Prop := c.halted = true ∧ c.gdbServer.isAttached = false

/-! ## The commands -/

/-- What every command but `D` and `qAttached` keeps. -/
def SameClient (c c' : Cpu (Linked σ)) : Prop :=
  c'.gdbServer.isAttached = c.gdbServer.isAttached ∧
    c'.initSocket.sys.tcpServer = c.initSocket.sys.tcpServer

instance : Std.Refl (SameClient (σ := σ)) := ⟨fun _ => ⟨rfl, rfl⟩⟩

instance : IsTrans (Cpu (Linked σ)) SameClient :=
  ⟨fun _ _ _ h h' => ⟨h'.1.trans h.1, h'.2.trans h.2⟩⟩

/-- Starting from an attached client, `m` receives nothing and leaves no stuck CPU. -/
def Settles (m : GdbM σ Unit) : Prop :=
  ∀ c u c', m c = .ok (u, c') →
    c'.initSocket.sys.tcpServer = c.initSocket.sys.tcpServer ∧
      (c.gdbServer.isAttached = true → ¬ Stuck c')

theorem Settles.of_keeps {m : GdbM σ Unit} (h : StateExcept.Keeps SameClient m) : Settles m := by
  intro c u c' hm
  obtain ⟨hattached, htcp⟩ := h c u c' hm
  refine ⟨htcp, fun hc hstuck => ?_⟩
  rw [Stuck, hattached, hc] at hstuck
  cases hstuck.2

theorem sendMsg_keeps (msg : Str) : StateExcept.Keeps SameClient (sendMsg msg : GdbM σ Unit) :=
  StateExcept.Keeps.of_modifies (fun _ => rfl) fun _ => ⟨rfl, rfl⟩

theorem cmdDetach_settles (msgSplit : List Str) : Settles (cmdDetach msgSplit : GdbM σ Unit) := by
  intro c u c' h
  cases h
  exact ⟨rfl, fun _ hstuck => Bool.false_ne_true hstuck.1⟩

theorem cmdAttached_settles (msgSplit : List Str) :
    Settles (cmdAttached msgSplit : GdbM σ Unit) := by
  intro c u c' h
  cases h
  exact ⟨rfl, fun _ hstuck => Bool.false_ne_true hstuck.2.symm⟩

section Memory

variable [BusPort σ] [DebugPort σ]

theorem sameClient_blocks : Blocks fun m : GdbM σ _ => StateExcept.Keeps SameClient m :=
  Blocks.of_keeps fun _ _ htcp _ hattached => ⟨hattached, htcp⟩

/-- A command that neither attaches nor detaches the client. -/
theorem settles_of_blocks {m : GdbM σ Unit}
    (h : ∀ {P : ∀ {α : Type}, GdbM σ α → Prop}, Blocks P →
      (∀ msg, P (sendMsg msg : GdbM σ Unit)) → P m) : Settles m :=
  .of_keeps (h sameClient_blocks sendMsg_keeps)

/-- No command leaves the CPU stuck. -/
theorem cmdMap_settles : ∀ entry ∈ (cmdMap : List (Str × (List Str → GdbM σ Unit))),
    ∀ msgSplit, Settles (entry.2 msgSplit) := by
  simp only [cmdMap, List.forall_mem_cons, cmdInsertBp, cmdRemoveBp]
  refine ⟨fun _ => settles_of_blocks fun h hsend => h.cmdHalted hsend _,
    fun _ => settles_of_blocks fun h hsend => h.cmdReadReg hsend _,
    fun _ => settles_of_blocks fun h hsend => h.cmdWriteReg hsend _, cmdDetach_settles,
    fun _ => settles_of_blocks fun h hsend => h.cmdReadMem hsend _,
    fun _ => settles_of_blocks fun h hsend => h.cmdWriteMem hsend _,
    fun _ => settles_of_blocks fun h _ => h.setHalted _,
    fun _ => settles_of_blocks fun h hsend => h.cmdBp hsend _ _,
    fun _ => settles_of_blocks fun h hsend => h.cmdBp hsend _ _,
    fun _ => settles_of_blocks fun h hsend => h.cmdSupported hsend _,
    cmdAttached_settles, List.forall_mem_nil _⟩

theorem decodeAndCall_settles (msg : Str) : Settles (decodeAndCall msg : GdbM σ Unit) := by
  intro c u c' h
  obtain ⟨stripped, -, ⟨-, h⟩ | ⟨name, fields, cmd, c₁, -, hlookup, hack, h⟩⟩ :=
    decodeAndCall_cases h
  · exact Settles.of_keeps (sendMsg_keeps _) c u c' h
  · obtain ⟨hattached, htcp⟩ := sendMsg_keeps _ c () c₁ hack
    obtain ⟨htcp', hstuck⟩ := cmdMap_settles _ (mem_cmdMap hlookup) _ c₁ u c' h
    exact ⟨htcp'.trans htcp, fun hc => hstuck (hattached.trans hc)⟩

/-! ## Messages -/

/-- What is received is no longer in the stream. -/
def Receives (s s' : TcpServer) : Prop := s'.stream.length ≤ s.stream.length

instance : Std.Refl Receives := ⟨fun _ => Nat.le_refl _⟩

instance : IsTrans TcpServer Receives := ⟨fun _ _ _ h h' => Nat.le_trans h' h⟩

theorem recvBlocking_lt {length : Nat} (hpos : 0 < length) {s s' : TcpServer} {resp : Str}
    (h : TcpServer.recvBlocking length s = .ok (resp, s')) :
    s'.stream.length < s.stream.length := by
  unfold TcpServer.recvBlocking at h
  split at h
  · cases h
  · split at h
    · cases h
    · rename_i hne
      have hlen := List.length_pos_iff.mpr hne
      cases h
      simp only [List.length_drop]
      omega

theorem recvBlocking_receives {length : Nat} (hpos : 0 < length) :
    StateExcept.Keeps Receives (TcpServer.recvBlocking length) :=
  fun _ _ _ h => Nat.le_of_lt (recvBlocking_lt hpos h)

theorem receives_closed : StateExcept.Closed fun m : RecvM _ => StateExcept.Keeps Receives m :=
  StateExcept.Keeps.closed _

theorem throw_receives {α : Type} (e : GdbStop) :
    StateExcept.Keeps Receives (throw e : RecvM α) := by
  intro s a s' h
  cases h

theorem recvPayload_receives (fuel : Nat) (strBuffer : Str) (sum : BitVec 32) :
    StateExcept.Keeps Receives (recvPayload fuel strBuffer sum) := by
  induction fuel generalizing strBuffer sum with
  | zero => exact throw_receives _
  | succ fuel ih =>
    refine receives_closed.bind (recvBlocking_receives Nat.one_pos) fun resp =>
      receives_closed.bind (StateExcept.Keeps.lift _) fun c => receives_closed.ite ?_ ?_
    · exact receives_closed.bind (throw_receives _) fun _ => receives_closed.ite
        (receives_closed.pure _) (ih _ _)
    · exact receives_closed.ite (receives_closed.pure _) (ih _ _)

/-- A message has at least one byte. -/
theorem recvMsgBlocking_lt {s s' : TcpServer} {r : Received}
    (h : recvMsgBlocking s = .ok (r, s')) : s'.stream.length < s.stream.length := by
  obtain ⟨resp, s₁, hfirst, h⟩ := StateExcept.bind_eq_ok h
  have hrest : ∀ first : U8, StateExcept.Keeps Receives
      (if first = chr '+' then pure .ack
      else if first = chr '-' then throw (.logicError "received '-', protocol error")
      else if first = 0x03 then pure .interrupt
      else if first = chr '$' then recvFrame resp
      else throw (.logicError "message not beginning with '$'") : RecvM Received) := by
    intro first
    refine receives_closed.ite (receives_closed.pure _) (receives_closed.ite (throw_receives _)
      (receives_closed.ite (receives_closed.pure _) (receives_closed.ite ?_ (throw_receives _))))
    exact receives_closed.bind (recvPayload_receives _ _ _) fun _ =>
      receives_closed.bind (recvBlocking_receives Nat.two_pos) fun _ =>
        receives_closed.bind (StateExcept.Keeps.lift _) fun _ => receives_closed.pure _
  obtain ⟨first, s₂, hat, h⟩ := StateExcept.bind_eq_ok h
  obtain ⟨b, -, hb⟩ := StateExcept.except_bind_eq_ok hat
  cases hb
  exact Nat.lt_of_le_of_lt (hrest first _ _ _ h) (recvBlocking_lt Nat.one_pos hfirst)

/-- A message shortens the stream, and does not leave an attached client with a stuck CPU. -/
theorem recvAndCall_settles {c c' : Cpu (Linked σ)} {msg : Str}
    (h : recvAndCall c = .ok (msg, c')) :
    c'.initSocket.sys.tcpServer.stream.length < c.initSocket.sys.tcpServer.stream.length ∧
      (c.gdbServer.isAttached = true → ¬ Stuck c') := by
  obtain ⟨received, tcp, hrecv, -, h⟩ := recvAndCall_cases h
  have hlt := recvMsgBlocking_lt hrecv
  have hsettled : ∀ m : GdbM σ Unit, Settles m → m (withTcp tcp c) = .ok ((), c') →
      c'.initSocket.sys.tcpServer.stream.length < c.initSocket.sys.tcpServer.stream.length ∧
        (c.gdbServer.isAttached = true → ¬ Stuck c') := by
    intro m hm hrun
    obtain ⟨htcp, hstuck⟩ := hm _ () c' hrun
    exact ⟨by rw [htcp]; exact hlt, hstuck⟩
  cases received with
  | ack => exact hsettled (pure ()) (.of_keeps (sameClient_blocks.pure ())) (by rw [h]; rfl)
  | interrupt => exact hsettled _ (settles_of_blocks fun hb hsend => hb.cmdHalted hsend _) h
  | packet msg => exact hsettled _ (decodeAndCall_settles msg) h

theorem splitMsg_qAttached : splitMsg (str "qAttached") = [str "qAttached"] := by decide +kernel

/-- The message that `InitBlocking` waits for attaches the client. -/
theorem recvAndCall_qAttached {c c' : Cpu (Linked σ)}
    (h : recvAndCall c = .ok (str "$qAttached#8f", c')) : c'.gdbServer.isAttached = true := by
  obtain ⟨received, tcp, -, hmsg, h⟩ := recvAndCall_cases h
  cases received with
  | ack => exact absurd hmsg.symm (by decide)
  | interrupt => exact absurd hmsg.symm (by decide)
  | packet msg =>
    obtain rfl : str "$qAttached#8f" = msg := hmsg
    obtain ⟨stripped, hstripped, ⟨hnone, -⟩ | ⟨name, fields, cmd, c₁, hsplit, hlookup, -, h⟩⟩ :=
      decodeAndCall_cases h
    · obtain rfl : str "qAttached" = stripped := Except.ok.inj hstripped
      rw [splitMsg_qAttached] at hnone
      cases hnone
    · obtain rfl : str "qAttached" = stripped := Except.ok.inj hstripped
      rw [splitMsg_qAttached] at hsplit
      cases hsplit
      obtain rfl : cmdAttached = cmd := Option.some.inj hlookup
      cases h
      rfl

/-- `InitBlocking` ends with the client attached. -/
theorem initBlocking_attached (fuel : Nat) {c c' : Cpu (Linked σ)} {u : Unit}
    (h : initBlocking fuel c = .ok (u, c')) : c'.gdbServer.isAttached = true := by
  induction fuel generalizing c with
  | zero => cases h
  | succ fuel ih =>
    obtain ⟨msg, c₁, hrecv, h⟩ := StateExcept.bind_eq_ok h
    by_cases hmsg : msg = str "$qAttached#8f"
    · rw [if_pos hmsg] at h
      cases h
      exact recvAndCall_qAttached (hmsg ▸ hrecv)
    · rw [if_neg hmsg] at h
      exact ih h

/-- Handling messages leaves no stuck CPU, and no message unless the debugger is detached. -/
theorem handlePending_settles (fuel : Nat) {c c' : Cpu (Linked σ)} {u : Unit}
    (h : handlePending fuel c = .ok (u, c')) (hc : ¬ Stuck c) :
    ¬ Stuck c' ∧ (c.initSocket.sys.tcpServer.stream.length ≤ fuel → msgPending c' = false) := by
  induction fuel generalizing c with
  | zero =>
    cases h
    refine ⟨hc, fun hle => ?_⟩
    have hnil := List.eq_nil_of_length_eq_zero (Nat.le_zero.mp hle)
    simp [msgPending, hnil]
  | succ fuel ih =>
    change (if msgPending c = true then _ else _ : GdbM σ Unit) c = _ at h
    by_cases hpending : msgPending c = true
    · rw [if_pos hpending] at h
      obtain ⟨msg, c₁, hrecv, h⟩ := StateExcept.bind_eq_ok h
      obtain ⟨hlt, hstuck⟩ := recvAndCall_settles hrecv
      have hattached : c.gdbServer.isAttached = true := (Bool.and_eq_true_iff.mp hpending).1
      obtain ⟨hc', hdone⟩ := ih h (hstuck hattached)
      exact ⟨hc', fun hle => hdone (by omega)⟩
    · rw [if_neg hpending] at h
      cases h
      exact ⟨hc, fun _ => Bool.eq_false_of_not_eq_true hpending⟩

/-- The fuel of the model is enough: the loop ends because no message is pending. -/
theorem handleMessages_done {c c' : Cpu (Linked σ)}
    (h : Debugger.handleMessages c = .ok c') (hc : ¬ Stuck c) :
    ¬ Stuck c' ∧ msgPending c' = false := by
  obtain ⟨⟨u, c₁⟩, hrun, rfl⟩ := StateExcept.map_eq_ok h
  obtain ⟨hstuck, hdone⟩ := handlePending_settles _ hrun hc
  exact ⟨hstuck, hdone (Nat.le_refl _)⟩

end Memory

/-! ## One iteration -/

/-- The CPU at a breakpoint that was left over when the debugger was detached. -/
def AtLeftover {τ : Type} (c : Cpu τ) : Prop :=
  c.gdbServer.isAttached = false ∧ c.regFile.pc ∈ c.gdbServer.bpSet

/-- What only the loop and the debugger change. -/
def SameHalted {τ : Type} (c c' : Cpu τ) : Prop :=
  c'.halted = c.halted ∧ c'.gdbServer = c.gdbServer

instance {τ : Type} : Std.Refl (SameHalted (τ := τ)) := ⟨fun _ => ⟨rfl, rfl⟩⟩

instance {τ : Type} : IsTrans (Cpu τ) SameHalted :=
  ⟨fun _ _ _ h h' => ⟨h'.1.trans h.1, h'.2.trans h.2⟩⟩

section Execution

variable {τ : Type} [BusPort τ] [Kernel τ]

omit [Kernel τ] in
theorem sameHalted_blocks : Cpu.Blocks fun m : CpuM τ _ => StateExcept.Keeps SameHalted m :=
  Cpu.frame_blocks fun _ _ h => ⟨congrArg (fun members => members.2.1) h, congrArg Prod.fst h⟩

omit [BusPort τ] in
theorem kernelWait_sameHalted (t : Nat) :
    StateExcept.Keeps SameHalted (Cpu.kernelWait t : CpuM τ Unit) :=
  StateExcept.Keeps.of_map (fun _ => rfl) fun _ _ => ⟨rfl, rfl⟩

theorem instrEmu_sameHalted : StateExcept.Keeps SameHalted (Cpu.instrEmu : CpuM τ Unit) :=
  Cpu.keeps_instrEmu sameHalted_blocks (fun _ _ => ⟨rfl, rfl⟩) fun _ => ⟨rfl, rfl⟩

/-- The iteration from the fetch on neither halts nor continues. -/
theorem fetched_sameHalted (fuel : Nat) (go : Bool) : StateExcept.Keeps SameHalted
    (if go = true then
      Cpu.fetchNextInstrByte >>= fun instrByte =>
        Cpu.decodeExecute fuel instrByte >>= fun _ => Cpu.accountTime
    else pure () : CpuM τ Unit) :=
  Cpu.keeps_fetched sameHalted_blocks kernelWait_sameHalted instrEmu_sameHalted
    (fun _ _ => ⟨rfl, rfl⟩) fuel go

variable [Debugger τ]

omit [BusPort τ] [Kernel τ] in
theorem sendBpReached_sameHalted :
    StateExcept.Keeps SameHalted (Cpu.sendBpReached : CpuM τ Unit) :=
  StateExcept.Keeps.of_map (fun _ => rfl) fun _ _ => ⟨rfl, rfl⟩

/-- Once the messages are handled, the CPU halts exactly if it runs and is at a breakpoint. -/
theorem head_halts {m t : Cpu τ} {go : Bool} (h : Cpu.headAfterMessages m = .ok (go, t)) :
    (t.halted = true ↔ m.halted = true ∨ m.regFile.pc ∈ m.gdbServer.bpSet) ∧
      t.gdbServer = m.gdbServer := by
  cases hrun : m.halted with
  | true =>
    rw [Cpu.headAfterMessages_halted m hrun] at h
    cases h
    exact ⟨iff_of_true hrun (Or.inl rfl), rfl⟩
  | false =>
    by_cases hbp : m.regFile.pc ∈ m.gdbServer.bpSet
    · rw [Cpu.headAfterMessages_bp m hrun hbp] at h
      have hkeeps : StateExcept.Keeps SameHalted (Cpu.sendBpReached >>= fun _ =>
          Cpu.kernelWait (4 * GbConst.kNsPerClkCycle) >>= fun _ => pure false : CpuM τ Bool) :=
        sameHalted_blocks.bind sendBpReached_sameHalted fun _ =>
          sameHalted_blocks.bind (kernelWait_sameHalted _) fun _ => sameHalted_blocks.pure false
      obtain ⟨hhalted, hgdb⟩ := hkeeps _ _ _ h
      exact ⟨iff_of_true hhalted (Or.inr hbp), hgdb⟩
    · rw [Cpu.headAfterMessages_go m hrun hbp] at h
      have hkeeps : StateExcept.Keeps SameHalted
          (Cpu.handleInterrupts >>= fun _ => pure true : CpuM τ Bool) :=
        sameHalted_blocks.bind (Cpu.handleInterrupts_of_blocks sameHalted_blocks) fun _ =>
          sameHalted_blocks.pure true
      obtain ⟨hhalted, hgdb⟩ := hkeeps _ _ _ h
      refine ⟨iff_of_false ?_ ?_, hgdb⟩
      · rw [hhalted, hrun]
        exact Bool.false_ne_true
      · rintro (hhalted | hbp')
        · cases hhalted
        · exact hbp hbp'

/-- An iteration handles its messages and then halts, goes on or stays halted. -/
theorem cycle_cases {c d : Cpu τ} {fuel : Nat} (h : Cpu.cycle fuel c = .ok d) :
    ∃ m, Cpu.AfterMessages c m ∧ d.gdbServer = m.gdbServer ∧
      (d.halted = true ↔ m.halted = true ∨ m.regFile.pc ∈ m.gdbServer.bpSet) := by
  obtain ⟨⟨u, d'⟩, hrun, rfl⟩ := StateExcept.map_eq_ok h
  obtain ⟨go, t, hhead, hrest⟩ := StateExcept.bind_eq_ok hrun
  obtain ⟨u', m, hpoll, hhead⟩ := StateExcept.bind_eq_ok hhead
  obtain ⟨hhalts, hgdb⟩ := head_halts hhead
  obtain ⟨hhalted, hgdb'⟩ := fetched_sameHalted fuel go t u d' hrest
  exact ⟨m, hpoll, hgdb'.trans hgdb, by rw [hhalted]; exact hhalts⟩

end Execution

section Cycle

variable [BusPort σ] [Kernel σ] [DebugPort σ]

omit [Kernel σ] in
theorem pollMessages_settles {c m : Cpu (Linked σ)} (h : Cpu.AfterMessages c m)
    (hc : ¬ Stuck c) : ¬ Stuck m := by
  obtain ⟨pending, c₀, hget, h⟩ := StateExcept.bind_eq_ok h
  rw [Cpu.isMsgPending_eq] at hget
  obtain ⟨-, rfl⟩ := Prod.mk.inj (Except.ok.inj hget)
  cases pending with
  | false =>
    cases h
    exact hc
  | true =>
    obtain ⟨c₁, hmsg, hm⟩ := StateExcept.map_eq_ok h
    cases hm
    exact (handleMessages_done hmsg hc).1

/-- An iteration leaves the CPU stuck exactly if it comes upon a breakpoint left over. -/
theorem cycle_stuck_iff {c d : Cpu (Linked σ)} {fuel : Nat} (h : Cpu.cycle fuel c = .ok d)
    (hc : ¬ Stuck c) : Stuck d ↔ ∀ m, Cpu.AfterMessages c m → AtLeftover m := by
  obtain ⟨m, hm, hgdb, hhalts⟩ := cycle_cases h
  have hsettled := pollMessages_settles hm hc
  have hunique : ∀ m', Cpu.AfterMessages c m' → m' = m := by
    intro m' hm'
    exact (Prod.mk.inj (Except.ok.inj (hm'.symm.trans hm))).2
  constructor
  · rintro ⟨hhalted, hdetached⟩ m' hm'
    rw [hunique m' hm']
    rw [hgdb] at hdetached
    rcases hhalts.mp hhalted with hhalted | hbp
    · exact absurd ⟨hhalted, hdetached⟩ hsettled
    · exact ⟨hdetached, hbp⟩
  · intro hall
    obtain ⟨hdetached, hbp⟩ := hall m hm
    exact ⟨hhalts.mpr (Or.inr hbp), hgdb ▸ hdetached⟩

/-! ## Runs -/

/-- The client's bytes arrive, or the loop goes through one iteration. -/
inductive Event where
  | arrives (bytes : Str)
  | cycle (fuel : Nat)

def step (c : Cpu (Linked σ)) : Event → Except Fault (Cpu (Linked σ))
  | .arrives bytes => .ok { c with initSocket := { c.initSocket with
      sys := { c.initSocket.sys with tcpServer := { c.initSocket.sys.tcpServer with
        stream := c.initSocket.sys.tcpServer.stream ++ bytes } } } }
  | .cycle fuel => Cpu.cycle fuel c

/-- After `InitBlocking` the CPU is never halted without a debugger, exactly if it never comes
    upon a breakpoint left over: in no iteration of the run, once its messages are handled, is the
    debugger detached and PC at an address of `bp_set_`. -/
theorem never_stuck_iff {fuel : Nat} {c₀ c c' : Cpu (Linked σ)} {es : List Event}
    (hinit : initBlocking fuel c₀ = .ok ((), c)) (hrun : es.foldlM step c = .ok c') :
    (∀ pre suf d, es = pre ++ suf → pre.foldlM step c = .ok d →
      ¬ (d.halted = true ∧ d.gdbServer.isAttached = false)) ↔
    ∀ pre n suf d m, es = pre ++ .cycle n :: suf → pre.foldlM step c = .ok d →
      Cpu.AfterMessages d m →
        ¬ (m.gdbServer.isAttached = false ∧ m.regFile.pc ∈ m.gdbServer.bpSet) := by
  constructor
  · rintro h pre n suf d m rfl hd hm hleftover
    obtain ⟨d₁, d', hd₁, hd'⟩ := History.run_at hrun
    obtain rfl : d₁ = d := Except.ok.inj (hd₁.symm.trans hd)
    have hlast : (pre ++ [Event.cycle n]).foldlM step c = .ok d' := by
      rw [History.run_concat, hd]
      exact hd'
    refine h (pre ++ [.cycle n]) suf d' (by rw [List.append_assoc]; rfl) hlast ?_
    refine (cycle_stuck_iff hd' (h pre (.cycle n :: suf) d₁ rfl hd)).mpr fun m' hm' => ?_
    obtain rfl : m' = m := (Prod.mk.inj (Except.ok.inj (hm'.symm.trans hm))).2
    exact hleftover
  · rintro h pre suf d rfl hd
    refine History.run_guarded (I := fun s => ¬ Stuck s)
      (fun s e => ∀ n m, e = .cycle n → Cpu.AfterMessages s m → ¬ AtLeftover m) ?_ hd ?_ ?_
    · intro s e s' hguard hstep hs
      cases e with
      | arrives bytes =>
        cases hstep
        exact hs
      | cycle n =>
        intro hstuck
        obtain ⟨m, hm, -⟩ := cycle_cases hstep
        exact hguard n m rfl hm ((cycle_stuck_iff hstep hs).mp hstuck m hm)
    · rintro before e after s rfl hs n m rfl hm
      exact h before n (after ++ suf) s m (by simp) hs hm
    · intro hstuck
      exact Bool.false_ne_true (hstuck.2.symm.trans (initBlocking_attached fuel hinit))

end Cycle

/-- A machine whose client attaches. -/
def attaching : Cpu (Linked (Timed Gb)) :=
  { initSocket :=
      { payload := {}
        gbcmd := .gbReadInst
        hasRomBank0 := true
        sys :=
          { tcpServer := { stream := str "$qAttached#8f", segment := fun _ => ⟨2, fun _ => 0⟩ }
            sys := { now := 0, schedule := .once 10000 0, stopped := false,
                     dev := .powerOn .blank } } } }

/-- The client detaches, and the loop goes on. -/
def detaches : List Event := [.arrives (str "$D#44"), .cycle 0, .cycle 0]

/-- Without breakpoints the CPU is not stuck. -/
theorem detached_goes_on : ∃ c c', initBlocking 1 attaching = .ok ((), c) ∧
    detaches.foldlM step c = .ok c' ∧ c'.halted = false ∧
    ((∀ pre suf d, detaches = pre ++ suf → pre.foldlM step c = .ok d →
      ¬ (d.halted = true ∧ d.gdbServer.isAttached = false)) ↔
    ∀ pre n suf d m, detaches = pre ++ .cycle n :: suf → pre.foldlM step c = .ok d →
      Cpu.AfterMessages d m →
        ¬ (m.gdbServer.isAttached = false ∧ m.regFile.pc ∈ m.gdbServer.bpSet)) := by
  have hends : (initBlocking 1 attaching >>= fun r => detaches.foldlM step r.2).map
      (fun d => d.halted) = .ok false := by decide +kernel
  obtain ⟨c', hc', hhalted⟩ := StateExcept.map_eq_ok hends
  obtain ⟨⟨_, c⟩, hinit, hrun⟩ := StateExcept.except_bind_eq_ok hc'
  exact ⟨c, c', hinit, hrun, hhalted, never_stuck_iff hinit hrun⟩

/-- The client sets a breakpoint at the address 1, continues and detaches, and the CPU, at the
    address 0, gets there in the next iteration. -/
def leavesBreakpoint : List Event := [.arrives (str "$Z1,1,1#45$c#63$D#44"), .cycle 0, .cycle 0]

theorem stuck_at_leftover : ¬ ∀ (fuel : Nat) (c₀ c c' : Cpu (Linked (Timed Gb))) (es : List Event),
    initBlocking fuel c₀ = .ok ((), c) → es.foldlM step c = .ok c' →
      ∀ pre suf d, es = pre ++ suf → pre.foldlM step c = .ok d →
        ¬ (d.halted = true ∧ d.gdbServer.isAttached = false) := by
  intro h
  have hends : (initBlocking 1 attaching >>= fun r => leavesBreakpoint.foldlM step r.2).map
      (fun d => (d.halted, d.gdbServer.isAttached)) = .ok (true, false) := by decide +kernel
  obtain ⟨c', hc', hstuck⟩ := StateExcept.map_eq_ok hends
  obtain ⟨⟨_, c⟩, hinit, hrun⟩ := StateExcept.except_bind_eq_ok hc'
  refine h 1 attaching c c' leavesBreakpoint hinit hrun leavesBreakpoint [] c' ?_ hrun ?_
  · rw [List.append_nil]
  · exact Prod.mk.inj hstuck

end GdbServer

end TlmBoy
