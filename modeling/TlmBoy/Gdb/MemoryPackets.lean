import TlmBoy.Gdb.Arguments
import TlmBoy.Gdb.DebugMemory
import TlmBoy.Gdb.Frames

/-
  Bytes that the debugger writes with M and reads back with m.

  The range lies in the memories. Each round of `CmdWriteMem` replaces the byte that its address
  names (`writeLoop_put`). Two addresses of a range that fits into a packet are no echoes of each
  other, since an echo is 0x2000 away, so no round overwrites what an earlier one wrote. Each
  round of `CmdReadMem` then gives one of these bytes (`readMem_get`).
-/

namespace TlmBoy

instance (adr : U16) : Decidable (InMemory adr) := by
  unfold InMemory InRam
  infer_instance

/-- What the debugger sees at a bus address. -/
def Gb.shows (adr : U16) (gb : Gb) : Option U8 := (gb.byteAt adr).bind fun b => gb.getByte b

namespace GdbServer

theorem stoiUint_hex {σ : Type} {s : Str} (hs : HexDigits s) (hlt : hexValue s < 2 ^ 31)
    (c : Cpu (Linked σ)) :
    (stoiUint s : GdbM σ (BitVec 32)) c = .ok (BitVec.ofNat 32 (hexValue s), c) := by
  unfold stoiUint
  rw [stoi16_hex hs, if_pos hlt]
  rfl

variable {addr length dataStr : Str} {place : Nat → MemByte}

/-! ## The loops -/

/-- The rounds of `CmdWriteMem` replace one byte after the other. -/
theorem writeLoop_put (hdata : HexDigits dataStr) (is : List Nat) (c : Cpu (Linked (Timed Gb)))
    (hplace : ∀ i ∈ is, i * 2 < dataStr.length ∧
      (devices c).byteAt (byteAddr addr i) = some (place i)) :
    ∃ payload, is.forM (writeRound addr dataStr) c =
      .ok ((), withDevices payload (KeyedStore.putAll Gb.putByte
        (is.map fun i => (place i, byteData dataStr i)) (devices c)) c) := by
  induction is generalizing c with
  | nil => exact ⟨c.initSocket.payload, rfl⟩
  | cons i is ih =>
    obtain ⟨⟨hi, hb⟩, hrest⟩ := List.forall_mem_cons.mp hplace
    obtain ⟨payload, hround⟩ := writeBusDebug_put hb (byteData dataStr i)
    rw [← writeRound_eq hdata hi] at hround
    have hblank := (devices c).blankMemory_putByte (place i) (byteData dataStr i)
    obtain ⟨payload', hloop⟩ := ih (withDevices payload
      ((devices c).putByte (place i) (byteData dataStr i)) c) fun j hj =>
        ⟨(hrest j hj).1, (Gb.byteAt_of_blankMemory hblank _).trans (hrest j hj).2⟩
    exact ⟨payload', (StateExcept.bind_of_ok hround).trans hloop⟩

/-- The rounds of `CmdReadMem` give one byte after the other. -/
theorem readMem_get {val : Nat → U8} (n : Nat) (is : List Nat) (c : Cpu (Linked (Timed Gb)))
    (hplace : ∀ i ∈ is, (devices c).byteAt (BitVec.ofNat 16 (n + i)) = some (place i) ∧
      (devices c).getByte (place i) = some (val i)) :
    ∃ payload, (readMem (BitVec.ofNat 32 n) is : GdbM (Timed Gb) Str) c =
      .ok (hexText (is.map val), withDevices payload (devices c) c) := by
  induction is generalizing c with
  | nil => exact ⟨c.initSocket.payload, rfl⟩
  | cons i is ih =>
    obtain ⟨⟨hb, hv⟩, hrest⟩ := List.forall_mem_cons.mp hplace
    obtain ⟨payload, hread⟩ := readBusDebug_get hb hv
    obtain ⟨payload', hloop⟩ := ih (withDevices payload (devices c) c) hrest
    refine ⟨payload', ?_⟩
    unfold readMem
    rw [ofNat_add_setWidth]
    refine (StateExcept.bind_of_ok hread).trans ((StateExcept.bind_of_ok hloop).trans ?_)
    rw [str_fmtHex_two _ (val i).isLt]
    rfl

/-! ## The handlers -/

/-- Once its arguments are read, `CmdWriteMem` is its loop and the reply. -/
theorem cmdWriteMem_apply {name : Str} (haddr : HexDigits addr) (hsmall : hexValue addr < 2 ^ 31)
    (hlength : HexDigits length) (hfits : hexValue length < 2 ^ 31)
    (c : Cpu (Linked (Timed Gb))) :
    (cmdWriteMem [name, addr, length, dataStr] : GdbM (Timed Gb) Unit) c =
      ((List.range (hexValue length)).forM (writeRound addr dataStr) >>= fun _ =>
        sendMsg kMsgOk) c := by
  have hnat : (BitVec.ofNat 32 (hexValue length)).toNat = hexValue length :=
    Nat.mod_eq_of_lt (by omega)
  have hfields : (cmdWriteMem [name, addr, length, dataStr] : GdbM (Timed Gb) Unit) =
      stoiUint addr >>= fun addr => stoiUint length >>= fun length =>
        ((List.range length.toNat).forM fun i => check (substr dataStr (i * 2) 2 >>= stoi16) >>=
          fun data => Cpu.writeBusDebug ((addr + BitVec.ofNat 32 i).setWidth 16)
            (BitVec.ofInt 8 data)) >>= fun _ => sendMsg kMsgOk := rfl
  rw [hfields, StateExcept.bind_of_ok (stoiUint_hex haddr hsmall c),
    StateExcept.bind_of_ok (stoiUint_hex hlength hfits c), hnat]
  rfl

theorem cmdReadMem_apply {name : Str} (haddr : HexDigits addr) (hsmall : hexValue addr < 2 ^ 31)
    (hlength : HexDigits length) (hfits : hexValue length < 2 ^ 31)
    (c : Cpu (Linked (Timed Gb))) :
    (cmdReadMem [name, addr, length] : GdbM (Timed Gb) Unit) c =
      (readMem (BitVec.ofNat 32 (hexValue addr)) (List.range (hexValue length)) >>= fun msgResp =>
        sendMsg (packetify msgResp)) c := by
  have hnat : (BitVec.ofNat 32 (hexValue length)).toNat = hexValue length :=
    Nat.mod_eq_of_lt (by omega)
  have hfields : (cmdReadMem [name, addr, length] : GdbM (Timed Gb) Unit) =
      stoiUint addr >>= fun addr => stoiUint length >>= fun length =>
        readMem addr (List.range length.toNat) >>= fun msgResp => sendMsg (packetify msgResp) := rfl
  rw [hfields, StateExcept.bind_of_ok (stoiUint_hex haddr hsmall c),
    StateExcept.bind_of_ok (stoiUint_hex hlength hfits c), hnat]

/-! ## Ranges -/

/-- The byte that place `i` of a range names. -/
def placeOf (addr : Str) (gb : Gb) (i : Nat) : MemByte :=
  (gb.byteAt (byteAddr addr i)).getD (.ram (.videoRam 0))

theorem byteAt_placeOf {i : Nat} (h : InMemory (byteAddr addr i)) (gb : Gb) :
    gb.byteAt (byteAddr addr i) = some (placeOf addr gb i) := by
  obtain ⟨b, v, hb, -⟩ := Gb.exists_byteAt h gb
  rw [placeOf, hb]
  rfl

/-- An echo is 0x2000 away, so a shorter range names every byte once. -/
theorem placeOf_inj {n : Nat} (hshort : n < 0x2000)
    (hmem : ∀ i < n, InMemory (byteAddr addr i)) (gb : Gb) {i j : Nat} (hi : i < n) (hj : j < n)
    (h : placeOf addr gb i = placeOf addr gb j) : i = j := by
  have hsame := (Gb.byteAt_eq_iff (byteAt_placeOf (hmem i hi) gb)
    (byteAt_placeOf (hmem j hj) gb)).mp h
  have htoNat : ∀ k, (byteAddr addr k).toNat = (hexValue addr + k) % 2 ^ 16 :=
    fun k => BitVec.toNat_ofNat _ _
  have hi' := htoNat i
  have hj' := htoNat j
  rcases hsame with heq | ⟨-, -, heq⟩ | ⟨-, -, heq⟩
  · bv_omega
  · bv_omega
  · bv_omega

/-- The bytes that M writes, with their places. -/
def written (addr : Str) (bytes : List U8) (gb : Gb) : List (MemByte × U8) :=
  (List.range bytes.length).map fun i => (placeOf addr gb i, bytes.getD i 0)

theorem map_fst_written (bytes : List U8) (gb : Gb) :
    (written addr bytes gb).map Prod.fst = (List.range bytes.length).map (placeOf addr gb) := by
  rw [written, List.map_map]
  rfl

theorem nodup_written {bytes : List U8} (hshort : bytes.length < 0x2000)
    (hmem : ∀ i < bytes.length, InMemory (byteAddr addr i)) (gb : Gb) :
    ((written addr bytes gb).map Prod.fst).Nodup := by
  rw [map_fst_written]
  refine List.Nodup.map_on (fun i hi j hj h => ?_) List.nodup_range
  exact placeOf_inj hshort hmem gb (List.mem_range.mp hi) (List.mem_range.mp hj) h

theorem byteData_hexText {bytes : List U8} (hdata : dataStr.map lowerCase = hexText bytes) {i : Nat}
    (hi : i < bytes.length) : byteData dataStr i = bytes.getD i 0 := by
  have hone : (bytes.drop i).take 1 = [bytes[i]] := List.take_one_drop_eq_of_lt_length hi
  have hvalue : hexValue ((dataStr.drop (i * 2)).take 2) = bytes[i].toNat := by
    rw [hexValue_take_drop hdata, Nat.mul_comm i 2]
    refine (congrArg hexValue (take_drop_hexText bytes i 1)).trans ?_
    rw [hone]
    show hexValue (twoDigits bytes[i].toNat ++ []) = _
    rw [List.append_nil, hexValue_twoDigits bytes[i].isLt]
  rw [byteData, hvalue, List.getD_eq_getElem _ _ hi, BitVec.ofNat_toNat, BitVec.setWidth_eq]

theorem range_map_getD (bytes : List U8) :
    (List.range bytes.length).map (fun i => bytes.getD i 0) = bytes := by
  apply List.ext_getElem
  · simp
  · intro i hi hi'
    simp [hi']

/-! ## The packets -/

/-- The payload of an M packet. -/
def writePayload (addr length dataStr : Str) : Str :=
  str "M" ++ addr ++ str "," ++ length ++ str ":" ++ dataStr

/-- The payload of an m packet. -/
def readPayload (addr length : Str) : Str := str "m" ++ addr ++ str "," ++ length

/-- M without data is not accepted. -/
theorem splitMsg_no_data (haddr : HexDigits addr) (hlength : HexDigits length) :
    splitMsg (writePayload addr length []) = [] := by
  by_contra hne
  have hmessage := (splitMsg_eq_iff (writePayload addr length []) _).mpr ⟨rfl, hne⟩
  have htext : writePayload addr length [] =
      str "M" ++ (addr ++ (str "," ++ (length ++ (str ":" ++ [])))) := by
    simp only [writePayload, List.append_assoc]
  have hfields := (htext ▸ hmessage).fields_of_name (by simp [names])
  rw [str_comma, str_colon, arguments_cons (isField_hex haddr) rfl,
    arguments_cons (isField_hex hlength) rfl] at hfields
  have hshape : ∀ fields, IsCommand fields → fields ≠ [str "M", addr, length] := by
    intro fields hcommand heq
    cases hcommand with
    | continues fields => exact absurd (List.cons.inj heq).1 (by decide)
    | readMem haddr hlength => exact absurd (List.cons.inj heq).1 (by decide)
    | _ => simp at heq
  exact hshape _ (htext ▸ hmessage).isCommand hfields

/-- M replaces the bytes that its range names. -/
theorem callCmd_writeMem {bytes : List U8} (haddr : HexDigits addr)
    (hsmall : hexValue addr < 2 ^ 31) (hlength : HexDigits length)
    (hn : hexValue length = bytes.length) (hshort : bytes.length < 0x2000)
    (hdata : dataStr.map lowerCase = hexText bytes)
    (hmem : ∀ i < bytes.length, InMemory (byteAddr addr i)) (c : Cpu (Linked (Timed Gb))) :
    ∃ c', callCmd (splitMsg (writePayload addr length dataStr)) c = .ok ((), c') ∧
      devices c' = KeyedStore.putAll Gb.putByte (written addr bytes (devices c)) (devices c) := by
  by_cases hnil : bytes = []
  · subst hnil
    obtain rfl : dataStr = [] := List.map_eq_nil_iff.mp hdata
    rw [splitMsg_no_data haddr hlength]
    exact ⟨_, rfl, rfl⟩
  have hdigits : HexDigits dataStr := by
    rw [← hexDigits_lowerCase, hdata]
    exact hexDigits_hexText hnil
  have hlen : dataStr.length = 2 * bytes.length := by
    rw [← length_hexText, ← hdata, List.length_map]
  have hcall : callCmd (splitMsg (writePayload addr length dataStr)) c =
      (cmdWriteMem [str "M", addr, length, dataStr] : GdbM (Timed Gb) Unit) (acked c) :=
    callCmd_of_message (Message.writeMem haddr hlength hdigits) rfl c
  have hdevices : devices (acked c) = devices c := rfl
  obtain ⟨payload, hloop⟩ := @writeLoop_put addr dataStr (placeOf addr (devices c)) hdigits
    (List.range bytes.length) (acked c) fun i hi => by
      have hi := List.mem_range.mp hi
      exact ⟨by omega, byteAt_placeOf (hmem i hi) (devices c)⟩
  have hentries : (List.range bytes.length).map
      (fun i => (placeOf addr (devices c) i, byteData dataStr i)) =
      written addr bytes (devices c) := by
    refine List.map_congr_left fun i hi => ?_
    rw [byteData_hexText hdata (List.mem_range.mp hi)]
  rw [hentries, hdevices] at hloop
  rw [hcall, cmdWriteMem_apply haddr hsmall hlength (by omega), hn, StateExcept.bind_of_ok hloop]
  exact ⟨_, rfl, rfl⟩

/-- m shows the bytes that its range names. -/
theorem callCmd_readMem {bytes : List U8} (haddr : HexDigits addr)
    (hsmall : hexValue addr < 2 ^ 31) (hlength : HexDigits length)
    (hn : hexValue length = bytes.length) (hshort : bytes.length < 0x2000)
    (c : Cpu (Linked (Timed Gb))) (hplace : ∀ i < bytes.length,
      (devices c).byteAt (byteAddr addr i) = some (place i) ∧
        (devices c).getByte (place i) = some (bytes.getD i 0)) :
    ∃ c', callCmd (splitMsg (readPayload addr length)) c = .ok ((), c') ∧
      c'.initSocket.sys.sent =
        c.initSocket.sys.sent ++ (kMsgAck ++ packetify (hexText bytes)) := by
  have hcall : callCmd (splitMsg (readPayload addr length)) c =
      (cmdReadMem [str "m", addr, length] : GdbM (Timed Gb) Unit) (acked c) :=
    callCmd_of_message (Message.readMem haddr hlength) rfl c
  obtain ⟨payload, hloop⟩ := readMem_get (hexValue addr) (List.range bytes.length) (acked c)
    fun i hi => hplace i (List.mem_range.mp hi)
  rw [range_map_getD] at hloop
  obtain ⟨c', hreply, hsent⟩ := sendReply_apply (plainText_hexText bytes)
    (withDevices payload (devices (acked c)) (acked c))
  refine ⟨c', ?_, ?_⟩
  · rw [hcall, cmdReadMem_apply haddr hsmall hlength (by omega), hn,
      StateExcept.bind_of_ok hloop, hreply]
  · rw [hsent, ← List.append_assoc]
    rfl

/-- Bytes of the memories that are written with M are read back with m, in lower case. M changes
    nothing else: the other bytes of every bank and the rest of the devices stay as they were, and
    so does what the debugger sees at every address but those of the range and their echoes. -/
theorem writeMem_readMem {bytes : List U8} (haddr : HexDigits addr)
    (hsmall : hexValue addr < 2 ^ 31) (hlength : HexDigits length)
    (hn : hexValue length = bytes.length) (hshort : bytes.length < 0x2000)
    (hdata : dataStr.map lowerCase = hexText bytes)
    (hmem : ∀ i < bytes.length, InMemory (byteAddr addr i)) (c : Cpu (Linked (Timed Gb))) :
    ∃ c₁ c₂, callCmd (splitMsg (writePayload addr length dataStr)) c = .ok ((), c₁) ∧
      callCmd (splitMsg (readPayload addr length)) c₁ = .ok ((), c₂) ∧
      c₂.initSocket.sys.sent =
        c₁.initSocket.sys.sent ++ (kMsgAck ++ packetify (hexText bytes)) ∧
      (∀ b, (∀ i < bytes.length, (devices c).byteAt (byteAddr addr i) ≠ some b) →
        (devices c₁).getByte b = (devices c).getByte b) ∧
      (devices c₁).blankMemory = (devices c).blankMemory ∧
      ∀ adr, InMemory adr → (∀ i < bytes.length, ¬ SameCell adr (byteAddr addr i)) →
        (devices c₁).shows adr = (devices c).shows adr := by
  obtain ⟨c₁, hwrite, hdevices⟩ :=
    callCmd_writeMem haddr hsmall hlength hn hshort hdata hmem c
  have hblank : (devices c₁).blankMemory = (devices c).blankMemory := by
    rw [hdevices]
    exact KeyedStore.putAll_same (fun b v gb => gb.blankMemory_putByte b v) _ _
  have hframe : ∀ b, (∀ i < bytes.length, (devices c).byteAt (byteAddr addr i) ≠ some b) →
      (devices c₁).getByte b = (devices c).getByte b := by
    intro b hother
    rw [hdevices]
    refine KeyedStore.get_putAll_of_notMem Gb.lawful_byte fun hmem' => ?_
    rw [map_fst_written] at hmem'
    obtain ⟨i, hi, rfl⟩ := List.mem_map.mp hmem'
    have hi := List.mem_range.mp hi
    exact hother i hi (byteAt_placeOf (hmem i hi) (devices c))
  have hplace : ∀ i < bytes.length,
      (devices c₁).byteAt (byteAddr addr i) = some (placeOf addr (devices c) i) ∧
        (devices c₁).getByte (placeOf addr (devices c) i) = some (bytes.getD i 0) := by
    intro i hi
    refine ⟨(Gb.byteAt_of_blankMemory hblank _).trans (byteAt_placeOf (hmem i hi) _), ?_⟩
    obtain ⟨b, v, hb, hv⟩ := Gb.exists_byteAt (hmem i hi) (devices c)
    obtain rfl := Option.some.inj ((byteAt_placeOf (hmem i hi) _).symm.trans hb)
    rw [hdevices]
    refine KeyedStore.get_putAll_of_mem Gb.lawful_byte (nodup_written hshort hmem _) ?_
      (by rw [hv]; rfl)
    exact List.mem_map.mpr ⟨i, List.mem_range.mpr hi, rfl⟩
  obtain ⟨c₂, hread, hsent⟩ := callCmd_readMem haddr hsmall hlength hn hshort c₁ hplace
  refine ⟨c₁, c₂, hwrite, hread, hsent, hframe, hblank, fun adr hadr hother => ?_⟩
  obtain ⟨b, v, hb, -⟩ := Gb.exists_byteAt hadr (devices c)
  unfold Gb.shows
  rw [Gb.byteAt_of_blankMemory hblank, hb]
  refine hframe b fun i hi hsame => ?_
  exact hother i hi ((Gb.byteAt_eq_iff hb hsame).mp rfl)

/-- Upper and lower case, over the border of the ROM and the video RAM. -/
theorem border_read_back : ∃ c₁ c₂,
    callCmd (splitMsg (writePayload (str "7fff") (str "2") (str "aBCd"))) resetCpu =
      .ok ((), c₁) ∧
    callCmd (splitMsg (readPayload (str "7fff") (str "2"))) c₁ = .ok ((), c₂) ∧
    c₂.initSocket.sys.sent =
      c₁.initSocket.sys.sent ++ (kMsgAck ++ packetify (str "abcd")) := by
  obtain ⟨c₁, c₂, hwrite, hread, hsent, -⟩ := @writeMem_readMem (str "7fff") (str "2")
    (str "aBCd") [0xab, 0xcd] ⟨by decide, by decide⟩ (by decide) ⟨by decide, by decide⟩ (by decide)
    (by decide) (by decide) (by decide) resetCpu
  exact ⟨c₁, c₂, hwrite, hread, hsent⟩

end GdbServer

end TlmBoy
