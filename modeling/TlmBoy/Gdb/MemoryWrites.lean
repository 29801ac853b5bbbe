import TlmBoy.Gdb.MemoryPackets

/-
  When M is all or nothing.

  `CmdWriteMem` writes each byte to the bus as soon as its digits are parsed. A round that fails
  ends the command with what the rounds before it have written (`writeLoop_fails`), so the command
  is atomic exactly if no round fails (`writeMem_atomic_iff`).
-/

namespace TlmBoy

/-- A write transaction of `v` to `adr` leaves the devices as `gb'`, and the bus reports no
    error. -/
def Gb.Wrote (adr : U16) (v : U8) (gb gb' : Gb) : Prop :=
  ∃ t t' : Payload, t.command = .write ∧ t.address = adr ∧ t.data = v ∧
    gb.transportDbg t = .ok (t', gb') ∧ t'.responseStatus.isResponseError = false

namespace GdbServer

variable {addr length dataStr : Str}

/-- The bytes at these places of the data are written, one transaction after the other. -/
def WroteAll (addr dataStr : Str) : List Nat → Gb → Gb → Prop
  | [], gb, gb' => gb' = gb
  | i :: is, gb, gb' => ∃ gb₁, gb.Wrote (byteAddr addr i) (byteData dataStr i) gb₁ ∧
      WroteAll addr dataStr is gb₁ gb'

/-- All bytes of an M packet are written and OK is sent, or the devices are as before and nothing
    is thrown. -/
def Atomic (payload addr length dataStr : Str) (c : Cpu (Linked (Timed Gb))) : Prop :=
  (∃ c', callCmd (splitMsg payload) c = .ok ((), c') ∧
    WroteAll addr dataStr (List.range (hexValue length)) (devices c) (devices c') ∧
    c'.initSocket.sys.sent = c.initSocket.sys.sent ++ (kMsgAck ++ kMsgOk)) ∨
  ∃ c', callCmd (splitMsg payload) c = .ok ((), c') ∧ devices c' = devices c

/-- A debug write that returns has been carried out. -/
theorem wrote_of_ok {adr : U16} {v : U8} {u : Unit} {c c' : Cpu (Linked (Timed Gb))}
    (h : (Cpu.writeBusDebug adr v : GdbM (Timed Gb) Unit) c = .ok (u, c')) :
    (devices c).Wrote adr v (devices c') := by
  rw [writeBusDebug_apply] at h
  obtain ⟨⟨t', gb'⟩, htrans, h⟩ := StateExcept.except_bind_eq_ok h
  split at h
  · cases h
  · cases h
    exact ⟨_, t', rfl, rfl, rfl, htrans, Bool.eq_false_of_not_eq_true ‹_›⟩

/-- A loop that returns has written the bytes of all its rounds. -/
theorem wroteAll_of_ok (hdata : HexDigits dataStr) {is : List Nat} {u : PUnit}
    {c c' : Cpu (Linked (Timed Gb))} (h : is.forM (writeRound addr dataStr) c = .ok (u, c')) :
    WroteAll addr dataStr is (devices c) (devices c') := by
  induction is generalizing c with
  | nil =>
    cases h
    rfl
  | cons i is ih =>
    obtain ⟨u₁, c₁, hround, hloop⟩ := StateExcept.bind_eq_ok h
    have hserved := ((returns_writeRound_iff c hdata i).mp ⟨u₁, c₁, hround⟩).1
    rw [writeRound_eq hdata hserved.1] at hround
    exact ⟨devices c₁, wrote_of_ok hround, ih hloop⟩

theorem forM_fails {σ β : Type} {f : β → GdbM σ PUnit} {before after : List β} {x : β}
    {c c₁ : Cpu (Linked σ)} {u : PUnit} {e : Fault} (hbefore : before.forM f c = .ok (u, c₁))
    (hx : f x c₁ = .error e) : (before ++ x :: after).forM f c = .error e := by
  induction before generalizing c with
  | nil =>
    cases hbefore
    exact StateExcept.bind_of_error hx
  | cons y before ih =>
    obtain ⟨u₁, c₂, hy, hrest⟩ := StateExcept.bind_eq_ok hbefore
    exact (StateExcept.bind_of_ok hy).trans (ih hrest)

/-- Where round `k` fails, the bytes before it have been written and the loop throws. -/
theorem writeLoop_fails (hdata : HexDigits dataStr) {n k : Nat} (hk : k < n)
    {c c₁ : Cpu (Linked (Timed Gb))} {u : PUnit} {e : Fault}
    (hloop : (List.range k).forM (writeRound addr dataStr) c = .ok (u, c₁))
    (hround : writeRound addr dataStr k c₁ = .error e) :
    WroteAll addr dataStr (List.range k) (devices c) (devices c₁) ∧
      (List.range n).forM (writeRound addr dataStr) c = .error e := by
  refine ⟨wroteAll_of_ok hdata hloop, ?_⟩
  obtain ⟨m, rfl⟩ := Nat.exists_eq_add_of_le hk
  have hsplit := @List.range'_append_1 0 k (m + 1)
  rw [List.range'_succ, Nat.zero_add, ← List.range_eq_range', ← List.range_eq_range'] at hsplit
  have hrange : List.range (k.succ + m) = List.range k ++ k :: List.range' (k + 1) m := by
    rw [hsplit]
    congr 1
    omega
  rw [hrange]
  exact forM_fails hloop hround

theorem hexDigits_of_splitMsg {payload : Str}
    (h : splitMsg payload = [str "M", addr, length, dataStr]) :
    HexDigits addr ∧ HexDigits length ∧ HexDigits dataStr := by
  have hcommand : IsCommand [str "M", addr, length, dataStr] :=
    h ▸ isCommand_splitMsg (by rw [h]; exact List.cons_ne_nil _ _)
  cases hcommand with
  | writeMem haddr hlength hdata => exact ⟨haddr, hlength, hdata⟩
  | breakpoint size hname hkind haddr =>
    rcases hname with hname | hname
    · exact absurd hname (by decide)
    · exact absurd hname (by decide)

theorem callCmd_write {payload : Str} (hsplit : splitMsg payload = [str "M", addr, length, dataStr])
    (c : Cpu (Linked (Timed Gb))) : callCmd (splitMsg payload) c =
      (cmdWriteMem [str "M", addr, length, dataStr] : GdbM (Timed Gb) Unit) (acked c) := by
  rw [hsplit]
  exact callCmd_of_lookup rfl _ c

theorem writeServed_of_atomic {payload : Str}
    (hsplit : splitMsg payload = [str "M", addr, length, dataStr]) {c : Cpu (Linked (Timed Gb))}
    (h : Atomic payload addr length dataStr c) : WriteServed c addr length dataStr := by
  obtain ⟨haddr, hlength, hdata⟩ := hexDigits_of_splitMsg hsplit
  have hcall := callCmd_write hsplit c
  -- What M needs does not depend on what has been sent.
  apply (@returns_cmdWriteMem_iff (acked c) addr dataStr (str "M") length haddr hlength hdata).mp
  rcases h with ⟨c', hrun, -⟩ | ⟨c', hrun, -⟩
  · exact ⟨(), c', hcall.symm.trans hrun⟩
  · exact ⟨(), c', hcall.symm.trans hrun⟩

theorem atomic_of_writeServed {payload : Str}
    (hsplit : splitMsg payload = [str "M", addr, length, dataStr]) {c : Cpu (Linked (Timed Gb))}
    (h : WriteServed c addr length dataStr) : Atomic payload addr length dataStr c := by
  obtain ⟨haddr, hlength, hdata⟩ := hexDigits_of_splitMsg hsplit
  obtain ⟨u, c', hrun⟩ :=
    (@returns_cmdWriteMem_iff (acked c) addr dataStr (str "M") length haddr hlength hdata).mpr h
  obtain ⟨bytes, hbytes, rfl⟩ := cmdWriteMem_sends _ (acked c) u c' hrun
  refine .inl ⟨c', (callCmd_write hsplit c).trans hrun, ?_, ?_⟩
  · rw [cmdWriteMem_apply haddr h.1 hlength h.2.1] at hrun
    obtain ⟨u₂, c₂, hloop, hok⟩ := StateExcept.bind_eq_ok hrun
    have hall := wroteAll_of_ok hdata hloop
    cases hok
    exact hall
  · rw [hbytes, ← List.append_assoc]
    rfl

/-- An accepted M packet is all or nothing exactly if its numbers fit, there are digits for every
    byte, and the bus carries out every write. -/
theorem writeMem_atomic_iff {payload : Str}
    (hsplit : splitMsg payload = [str "M", addr, length, dataStr])
    (c : Cpu (Linked (Timed Gb))) :
    Atomic payload addr length dataStr c ↔ WriteServed c addr length dataStr :=
  ⟨writeServed_of_atomic hsplit, atomic_of_writeServed hsplit⟩

theorem splitMsg_twoBytes : splitMsg (str "Mc000,2:aabb") =
    [str "M", str "c000", str "2", str "aabb"] := by decide +kernel

/-- Two bytes of work RAM. -/
theorem twoBytes_atomic :
    Atomic (str "Mc000,2:aabb") (str "c000") (str "2") (str "aabb") resetCpu := by
  refine (writeMem_atomic_iff splitMsg_twoBytes resetCpu).mpr
    ⟨by decide, by decide, by decide, by decide, fun _ hleft => ?_⟩
  exact absurd hleft.1 (by decide)

theorem splitMsg_shortData : splitMsg (str "Mc000,2:aa") =
    [str "M", str "c000", str "2", str "aa"] := by decide +kernel

/-- Two bytes are announced and one is sent: it is written, and then `std::stoi` throws. -/
theorem shortData_torn :
    (∃ c₁, WroteAll (str "c000") (str "aa") [0] (devices resetCpu) (devices c₁) ∧
      (devices resetCpu).load (.workRam 0) = 0 ∧ (devices c₁).load (.workRam 0) = 0xaa ∧
      callCmd (splitMsg (str "Mc000,2:aa")) resetCpu =
        .error (.uncaught "std::invalid_argument" "stoi")) ∧
    ¬ ∀ (payload addr length dataStr : Str) (c : Cpu (Linked (Timed Gb))),
      splitMsg payload = [str "M", addr, length, dataStr] →
        Atomic payload addr length dataStr c := by
  constructor
  · have hdata : HexDigits (str "aa") := ⟨by decide, by decide⟩
    have hcell : ramCell (byteAddr (str "c000") 0) = some (.workRam 0) := by decide
    have hbyte : (devices (acked resetCpu)).byteAt (byteAddr (str "c000") 0) =
        some (.ram (.workRam 0)) := by
      rw [Gb.byteAt, dif_neg (by decide), hcell]
      rfl
    obtain ⟨payload, hloop⟩ := @writeLoop_put (str "c000") (str "aa")
      (fun _ => .ram (.workRam 0)) hdata (List.range 1) (acked resetCpu)
      (by simpa using ⟨by decide, hbyte⟩)
    obtain ⟨hwrote, herror⟩ := @writeLoop_fails (str "c000") (str "aa") hdata 2 1 (by decide) _ _ _
      (.uncaught "std::invalid_argument" "stoi") hloop rfl
    refine ⟨_, hwrote, rfl, ?_, ?_⟩
    · rfl
    · rw [callCmd_write splitMsg_shortData, cmdWriteMem_apply ⟨by decide, by decide⟩ (by decide)
        ⟨by decide, by decide⟩ (by decide)]
      exact StateExcept.bind_of_error herror
  · intro h
    have hserved := writeServed_of_atomic splitMsg_shortData (h _ _ _ _ resetCpu splitMsg_shortData)
    exact absurd hserved.2.2.1 (by decide)

end GdbServer

end TlmBoy
