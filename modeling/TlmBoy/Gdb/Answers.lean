import TlmBoy.Gdb.Blocks
import TlmBoy.Lib.Hexadecimal

/-
  What the commands of the debugger send.

  `IsReply` is the form of a packet, and `packetify_isReply` makes one of every payload without
  the bytes of the frame. `cmdMap_answers` says what each command sends after the acknowledgement
  of `DecodeAndCall`: nothing (c), `kMsgOk`, which has an acknowledgement of its own (D, G and M),
  or a reply (the others).
-/

namespace TlmBoy

/-! ## Reply packets -/

/-- A lower-case hexadecimal digit. -/
def lowerHex (digit : Nat) : U8 :=
  if digit < 10 then chr '0' + BitVec.ofNat 8 digit else chr 'a' + BitVec.ofNat 8 (digit - 10)

/-- The two lower-case hexadecimal digits of a byte. -/
def twoDigits (n : Nat) : Str := [lowerHex (n / 16), lowerHex (n % 16)]

/-- The bytes of a payload are neither the frame's nor NUL. -/
def PlainText (payload : Str) : Prop := ∀ c ∈ payload, c ≠ chr '$' ∧ c ≠ chr '#' ∧ c ≠ 0

instance (payload : Str) : Decidable (PlainText payload) :=
  inferInstanceAs (Decidable (∀ c ∈ payload, c ≠ chr '$' ∧ c ≠ chr '#' ∧ c ≠ 0))

/-- A packet `$payload#cc`, with the sum of the payload's bytes modulo 256. -/
def IsReply (bytes : Str) : Prop :=
  ∃ payload, PlainText payload ∧ bytes = [chr '$'] ++ payload ++ [chr '#'] ++
    twoDigits ((payload.map BitVec.toNat).sum % 256)

theorem PlainText.append {s t : Str} (hs : PlainText s) (ht : PlainText t) :
    PlainText (s ++ t) := by
  intro c hc
  rcases List.mem_append.mp hc with hc | hc
  · exact hs c hc
  · exact ht c hc

theorem PlainText.flatten {l : List Str} (h : ∀ s ∈ l, PlainText s) : PlainText l.flatten := by
  intro c hc
  obtain ⟨s, hs, hc⟩ := List.mem_flatten.mp hc
  exact h s hs c hc

theorem digitChar_plain : ∀ d < 16, chr (Nat.digitChar d) ≠ chr '$' ∧
    chr (Nat.digitChar d) ≠ chr '#' ∧ chr (Nat.digitChar d) ≠ 0 := by decide

theorem fmtHex_plain (width n : Nat) : PlainText (str (fmtHex width n)) := by
  intro c hc
  unfold str fmtHex at hc
  rw [String.toList_ofList] at hc
  obtain ⟨d, hd, rfl⟩ := List.mem_map.mp hc
  rcases List.mem_append.mp hd with hd | hd
  · obtain rfl := List.eq_of_mem_replicate hd
    decide
  · obtain ⟨k, hk, rfl⟩ := Hexadecimal.mem_toDigits n d hd
    exact digitChar_plain k hk

theorem str_fmtHex_two : ∀ n < 256, str (fmtHex 2 n) = twoDigits n := by decide +kernel

theorem toNat_signExtend_mod (c : U8) : (c.signExtend 32).toNat % 256 = c.toNat := by
  have hlow : (c.signExtend 32).setWidth 8 = c := by
    apply BitVec.eq_of_getLsbD_eq
    intro i hi
    have hlt : i < 32 := by omega
    simp only [BitVec.getLsbD_setWidth, BitVec.getLsbD_signExtend, hi, hlt, decide_true,
      Bool.true_and, if_true]
  have hnat := congrArg BitVec.toNat hlow
  rwa [BitVec.toNat_setWidth] at hnat

/-- Bytes are signed when they are added, and the sum modulo 256 is the same. -/
theorem foldl_signExtend_mod (msg : Str) (sum : BitVec 32) :
    (msg.foldl (fun sum c => sum + c.signExtend 32) sum).toNat % 256 =
      (sum.toNat + (msg.map BitVec.toNat).sum) % 256 := by
  induction msg generalizing sum with
  | nil => rfl
  | cons c msg ih =>
    have hc := toNat_signExtend_mod c
    rw [List.foldl_cons, ih, BitVec.toNat_add, List.map_cons, List.sum_cons]
    omega

namespace GdbServer

theorem getChecksumStr_eq (msg : Str) :
    getChecksumStr msg = twoDigits ((msg.map BitVec.toNat).sum % 256) := by
  have hmask : ∀ sum : BitVec 32, (sum &&& 0xff).toNat = sum.toNat % 256 :=
    fun sum => toNat_and_ofNat_mask sum 8 (by decide)
  have hsum := foldl_signExtend_mod msg 0
  have hzero : (0 : BitVec 32).toNat = 0 := rfl
  rw [hzero, Nat.zero_add] at hsum
  unfold getChecksumStr
  dsimp only
  rw [hmask, hsum, str_fmtHex_two _ (Nat.mod_lt _ (by decide))]

theorem packetify_isReply {payload : Str} (h : PlainText payload) : IsReply (packetify payload) :=
  ⟨payload, h, by rw [packetify, getChecksumStr_eq]⟩

/-- A reply has no NUL: all of it is sent. -/
theorem cString_of_isReply {bytes : Str} (h : IsReply bytes) : cString bytes = bytes := by
  obtain ⟨payload, hplain, rfl⟩ := h
  refine List.takeWhile_eq_self_iff.mpr fun c hc => ?_
  have hdigit : ∀ n < 16, lowerHex n ≠ 0 := by decide
  have hsum : (payload.map BitVec.toNat).sum % 256 < 256 := Nat.mod_lt _ (by decide)
  simp only [twoDigits, List.mem_append, List.mem_cons, List.not_mem_nil, or_false] at hc
  apply decide_eq_true
  rcases hc with ((rfl | hc) | rfl) | rfl | rfl
  · decide
  · exact (hplain c hc).2.2
  · decide
  · exact hdigit _ (by omega)
  · exact hdigit _ (by omega)

theorem cString_kMsgAck : cString kMsgAck = kMsgAck := by decide

theorem sendReply_apply {σ : Type} {payload : Str} (h : PlainText payload)
    (c : Cpu (Linked σ)) : ∃ c', (sendMsg (packetify payload) : GdbM σ Unit) c = .ok ((), c') ∧
      c'.initSocket.sys.sent = c.initSocket.sys.sent ++ packetify payload := by
  refine ⟨_, rfl, ?_⟩
  show c.initSocket.sys.sent ++ cString (packetify payload) = _
  rw [cString_of_isReply (packetify_isReply h)]

variable {σ : Type} [BusPort σ] [DebugPort σ]

def SameSent (c c' : Cpu (Linked σ)) : Prop := c'.initSocket.sys.sent = c.initSocket.sys.sent

instance : Std.Refl (SameSent (σ := σ)) := ⟨fun _ => rfl⟩

instance : IsTrans (Cpu (Linked σ)) SameSent := ⟨fun _ _ _ h h' => h'.trans h⟩

theorem sameSent_blocks : Blocks fun m : GdbM σ _ => StateExcept.Keeps SameSent m :=
  Blocks.of_keeps fun _ _ _ hsent _ => hsent

/-- What `m` sends satisfies `P`. -/
def Sends (P : Str → Prop) (m : GdbM σ Unit) : Prop :=
  ∀ c u c', m c = .ok (u, c') →
    ∃ bytes, c'.initSocket.sys.sent = c.initSocket.sys.sent ++ bytes ∧ P bytes

omit [BusPort σ] [DebugPort σ] in
theorem Sends.mono {P Q : Str → Prop} {m : GdbM σ Unit} (h : Sends P m)
    (hPQ : ∀ bytes, P bytes → Q bytes) : Sends Q m := by
  intro c u c' hm
  obtain ⟨bytes, hsent, hP⟩ := h c u c' hm
  exact ⟨bytes, hsent, hPQ bytes hP⟩

omit [BusPort σ] [DebugPort σ] in
/-- What comes before the sending may choose what is sent. -/
theorem Sends.bind {α : Type} {P : Str → Prop} {m : GdbM σ α} {f : α → GdbM σ Unit}
    (hm : StateExcept.Keeps SameSent m) (hf : ∀ c a c', m c = .ok (a, c') → Sends P (f a)) :
    Sends P (m >>= f) := by
  intro c u c' h
  obtain ⟨a, c₁, hfirst, hrest⟩ := StateExcept.bind_eq_ok h
  obtain ⟨bytes, hsent, hP⟩ := hf c a c₁ hfirst c₁ u c' hrest
  have hsame : c₁.initSocket.sys.sent = c.initSocket.sys.sent := hm c a c₁ hfirst
  exact ⟨bytes, by rw [hsent, hsame], hP⟩

omit [BusPort σ] [DebugPort σ] in
theorem sendMsg_sends {P : Str → Prop} {msg : Str} (h : P (cString msg)) :
    Sends P (sendMsg msg : GdbM σ Unit) := by
  intro c u c' hsend
  cases hsend
  exact ⟨cString msg, rfl, h⟩

omit [BusPort σ] [DebugPort σ] in
theorem sendReply_sends {payload : Str} (h : PlainText payload) :
    Sends IsReply (sendMsg (packetify payload) : GdbM σ Unit) := by
  have hreply := packetify_isReply h
  exact sendMsg_sends (by rw [cString_of_isReply hreply]; exact hreply)

theorem cmdHalted_sends (msgSplit : List Str) :
    Sends IsReply (cmdHalted msgSplit : GdbM σ Unit) :=
  .bind (sameSent_blocks.setHalted true) fun _ _ _ _ => sendReply_sends (by decide)

omit [BusPort σ] [DebugPort σ] in
theorem cmdAttached_sends (msgSplit : List Str) :
    Sends IsReply (cmdAttached msgSplit : GdbM σ Unit) := by
  have hattach : StateExcept.Keeps SameSent (setAttached true : GdbM σ Unit) :=
    StateExcept.Keeps.of_modifies (fun _ => rfl) fun _ => rfl
  exact .bind hattach fun _ _ _ _ => sendReply_sends (by decide)

theorem cmdSupported_sends (msgSplit : List Str) :
    Sends IsReply (cmdSupported msgSplit : GdbM σ Unit) := by
  refine .bind (sameSent_blocks.field _ _) fun _ features _ _ => sendReply_sends ?_
  split
  · decide
  · decide

theorem cmdBp_sends (change : U16 → Finset U16 → Finset U16) (msgSplit : List Str) :
    Sends IsReply (cmdBp change msgSplit : GdbM σ Unit) := by
  refine .bind (sameSent_blocks.field _ _) fun _ kind _ _ => ?_
  split
  · refine .bind (sameSent_blocks.field _ _) fun _ _ _ _ => ?_
    refine .bind (sameSent_blocks.stoiUint _) fun _ _ _ _ => ?_
    refine .bind (sameSent_blocks.changeBpSet _) fun _ _ _ _ => ?_
    exact sendReply_sends (by decide)
  · exact sendReply_sends (by decide)

theorem cmdReadReg_sends (msgSplit : List Str) :
    Sends IsReply (cmdReadReg msgSplit : GdbM σ Unit) := by
  refine .bind sameSent_blocks.getRegs fun _ rf _ _ => sendReply_sends ?_
  refine PlainText.append (PlainText.flatten fun s hs => ?_) (by decide)
  obtain ⟨v, -, rfl⟩ := List.mem_map.mp hs
  exact fmtHex_plain 4 _

theorem readMem_plain (addr : BitVec 32) (is : List Nat) :
    ∀ (c : Cpu (Linked σ)) (s : Str) (c' : Cpu (Linked σ)),
      readMem addr is c = .ok (s, c') → PlainText s := by
  induction is with
  | nil =>
    intro c s c' h
    cases h
    exact fun b hb => absurd hb List.not_mem_nil
  | cons i is ih =>
    intro c s c' h
    obtain ⟨data, c₁, -, h⟩ := StateExcept.bind_eq_ok h
    obtain ⟨rest, c₂, hrest, h⟩ := StateExcept.bind_eq_ok h
    cases h
    exact (fmtHex_plain 2 _).append (ih c₁ rest _ hrest)

theorem cmdReadMem_sends (msgSplit : List Str) :
    Sends IsReply (cmdReadMem msgSplit : GdbM σ Unit) := by
  refine .bind (sameSent_blocks.field _ _) fun _ _ _ _ => ?_
  refine .bind (sameSent_blocks.field _ _) fun _ _ _ _ => ?_
  refine .bind (sameSent_blocks.stoiUint _) fun _ addr _ _ => ?_
  refine .bind (sameSent_blocks.stoiUint _) fun _ length _ _ => ?_
  refine .bind (sameSent_blocks.readMem _ _) fun c s c' h => ?_
  exact sendReply_sends (readMem_plain addr _ c s c' h)

/-! ### The commands that acknowledge once more -/

omit [BusPort σ] [DebugPort σ] in
theorem sendOk_sends : Sends (fun bytes => bytes = kMsgOk) (sendMsg kMsgOk : GdbM σ Unit) :=
  sendMsg_sends (by decide +kernel)

theorem cmdDetach_sends (msgSplit : List Str) :
    Sends (fun bytes => bytes = kMsgOk) (cmdDetach msgSplit : GdbM σ Unit) := by
  have hdetach : StateExcept.Keeps SameSent (setAttached false : GdbM σ Unit) :=
    StateExcept.Keeps.of_modifies (fun _ => rfl) fun _ => rfl
  refine .bind hdetach fun _ _ _ _ => ?_
  exact .bind (sameSent_blocks.setHalted false) fun _ _ _ _ => sendOk_sends

theorem cmdWriteReg_sends (msgSplit : List Str) :
    Sends (fun bytes => bytes = kMsgOk) (cmdWriteReg msgSplit : GdbM σ Unit) := by
  refine .bind (sameSent_blocks.field _ _) fun _ dataStr _ _ => ?_
  refine .bind (sameSent_blocks.assertion _ _) fun _ _ _ _ => ?_
  exact .bind (sameSent_blocks.writeRegs dataStr _) fun _ _ _ _ => sendOk_sends

theorem cmdWriteMem_sends (msgSplit : List Str) :
    Sends (fun bytes => bytes = kMsgOk) (cmdWriteMem msgSplit : GdbM σ Unit) := by
  refine .bind (sameSent_blocks.field _ _) fun _ _ _ _ => ?_
  refine .bind (sameSent_blocks.field _ _) fun _ _ _ _ => ?_
  refine .bind (sameSent_blocks.field _ _) fun _ dataStr _ _ => ?_
  refine .bind (sameSent_blocks.stoiUint _) fun _ addr _ _ => ?_
  refine .bind (sameSent_blocks.stoiUint _) fun _ length _ _ => ?_
  exact .bind (sameSent_blocks.writeMem dataStr addr _) fun _ _ _ _ => sendOk_sends

/-- The commands that reply with `kMsgOk`. -/
def okCommands : List Str := [str "D", str "G", str "M"]

/-- What follows the acknowledgement of `DecodeAndCall`. -/
def Answer (name bytes : Str) : Prop :=
  if name = str "c" then bytes = []
  else if name ∈ okCommands then bytes = kMsgOk
  else IsReply bytes

omit [BusPort σ] [DebugPort σ] in
theorem Sends.answer {name : Str} {m : GdbM σ Unit} (h : Sends IsReply m)
    (hname : name ≠ str "c" ∧ name ∉ okCommands) : Sends (Answer name) m := by
  refine h.mono fun bytes hreply => ?_
  unfold Answer
  rwa [if_neg hname.1, if_neg hname.2]

omit [BusPort σ] [DebugPort σ] in
theorem Sends.answer_ok {name : Str} {m : GdbM σ Unit}
    (h : Sends (fun bytes => bytes = kMsgOk) m) (hname : name ≠ str "c" ∧ name ∈ okCommands) :
    Sends (Answer name) m := by
  refine h.mono fun bytes hok => ?_
  unfold Answer
  rwa [if_neg hname.1, if_pos hname.2]

theorem cmdContinue_sends (msgSplit : List Str) :
    Sends (Answer (str "c")) (cmdContinue msgSplit : GdbM σ Unit) := by
  intro c u c' h
  have hsame : c'.initSocket.sys.sent = c.initSocket.sys.sent :=
    sameSent_blocks.setHalted false c u c' h
  exact ⟨[], by rw [hsame, List.append_nil], by rw [Answer, if_pos rfl]⟩

/-- What each command sends. -/
theorem cmdMap_answers : ∀ entry ∈ (cmdMap : List (Str × (List Str → GdbM σ Unit))),
    ∀ msgSplit, Sends (Answer entry.1) (entry.2 msgSplit) := by
  simp only [cmdMap, List.forall_mem_cons, cmdInsertBp, cmdRemoveBp]
  exact ⟨fun _ => (cmdHalted_sends _).answer (by decide +kernel),
    fun _ => (cmdReadReg_sends _).answer (by decide +kernel),
    fun _ => (cmdWriteReg_sends _).answer_ok (by decide +kernel),
    fun _ => (cmdDetach_sends _).answer_ok (by decide +kernel),
    fun _ => (cmdReadMem_sends _).answer (by decide +kernel),
    fun _ => (cmdWriteMem_sends _).answer_ok (by decide +kernel), cmdContinue_sends,
    fun _ => (cmdBp_sends _ _).answer (by decide +kernel),
    fun _ => (cmdBp_sends _ _).answer (by decide +kernel),
    fun _ => (cmdSupported_sends _).answer (by decide +kernel),
    fun _ => (cmdAttached_sends _).answer (by decide +kernel), List.forall_mem_nil _⟩

end GdbServer

end TlmBoy
