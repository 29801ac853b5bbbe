import TlmBoy.Gdb.HexText
import TlmBoy.Gdb.Segments
import TlmBoy.Lib.Hexadecimal

/-
  Which frames `RecvMsgBlocking` passes on to `DecodeAndCall`.

  A frame is `$payload#hh`. The checksum field is read with `std::stoi`, which is content with one
  digit: after it anything may follow, and before it may stand a space or a sign (`readField`). So
  a frame passes exactly if its field is the checksum in two digits, or a lone digit that equals
  it (`passes_iff`). `Packetify` writes the two digits, and what it writes is taken apart again
  (`packetify_received`); `acceptsFramesOnly_iff` says which streams get a frame passed on that is
  none.
-/

namespace TlmBoy

open GdbServer

/-! ## The checksum field -/

/-- The sum of a payload's bytes modulo 256. -/
def checksum (payload : Str) : Nat := (payload.map BitVec.toNat).sum % 256

theorem checksum_lt (payload : Str) : checksum payload < 256 := Nat.mod_lt _ (by decide)

theorem toNat_byteSum_and (payload : Str) :
    (byteSum payload &&& 0xff).toNat = checksum payload := by
  have hmask : (byteSum payload &&& 0xff).toNat = (byteSum payload).toNat % 256 :=
    toNat_and_ofNat_mask (byteSum payload) 8 (by decide)
  have hsum := foldl_signExtend_mod payload 0
  have hzero : (0 : BitVec 32).toNat = 0 := rfl
  rw [hzero, Nat.zero_add] at hsum
  rw [hmask]
  exact hsum

/-- The number that `std::stoi` reads from a field of two characters. -/
def readField (a b : U8) : Option Int :=
  match hexVal? a, hexVal? b with
  | some hi, some lo => some (16 * hi + lo)
  | some digit, none => some digit
  | none, some digit =>
    if isSpace a = true ∨ a = chr '+' then some digit
    else if a = chr '-' then some (-digit)
    else none
  | none, none => none

theorem stoi16_space {c : U8} (hc : isSpace c = true) (s : Str) : stoi16 (c :: s) = stoi16 s := by
  unfold stoi16
  rw [List.dropWhile_cons_of_pos hc]

theorem stoi16_one : ∀ b : U8, (stoi16 (cString [b])).toOption = (hexVal? b).map Int.ofNat := by
  decide +kernel

theorem stoi16_plus : ∀ b : U8, (stoi16 (cString [chr '+', b])).toOption =
    (hexVal? b).map Int.ofNat := by decide +kernel

theorem stoi16_minus : ∀ b : U8, (stoi16 (cString [chr '-', b])).toOption =
    (hexVal? b).map fun d => -(d : Int) := by decide +kernel

theorem leadingHex_two (a b : U8) : leadingHex [a, b] =
    match hexVal? a, hexVal? b with
    | some hi, some lo => some (hi * 16 + lo)
    | some digit, none => some digit
    | none, _ => none := by
  unfold leadingHex
  cases ha : hexVal? a with
  | none => simp [ha]
  | some hi =>
    cases hb : hexVal? b with
    | none => simp [ha, hb]
    | some lo => simp [ha, hb]

/-- A field that begins with neither space nor sign is read as its leading digits. -/
theorem stoi16_digits {a b : U8} (hspace : isSpace a = false) (hplus : a ≠ chr '+')
    (hminus : a ≠ chr '-') : (stoi16 [a, b]).toOption =
      (leadingHex [a, b]).map Int.ofNat := by
  have hdrop : [a, b].dropWhile isSpace = [a, b] :=
    List.dropWhile_cons_of_neg (by rw [hspace]; exact Bool.false_ne_true)
  have hneg : ¬ [a, b].head? = some (chr '-') := fun h => hminus (Option.some.inj h)
  have hpos : ¬ [a, b].head? = some (chr '+') := fun h => hplus (Option.some.inj h)
  have hprefix : skipHexPrefix [a, b] = [a, b] := rfl
  have hsmall : ∀ n, leadingHex [a, b] = some n → n < 256 := by
    intro n hn
    rw [leadingHex_two] at hn
    split at hn
    · rename_i hi lo hhi hlo
      have hhi := lt_of_hexVal hhi
      have hlo := lt_of_hexVal hlo
      cases hn
      omega
    · rename_i digit hdigit hnone
      have hdigit := lt_of_hexVal hdigit
      cases hn
      omega
    · cases hn
  unfold stoi16
  dsimp only
  rw [hdrop, if_neg (not_or.mpr ⟨hneg, hpos⟩), hprefix]
  cases hn : leadingHex [a, b] with
  | none => rfl
  | some n =>
    have hlt := hsmall n hn
    dsimp only
    rw [if_neg hneg, if_neg (by omega)]
    rfl

theorem hexVal_of_space {c : U8} (hc : isSpace c = true) : hexVal? c = none := by
  cases h : hexVal? c with
  | none => rfl
  | some d =>
    have hnot := (hexVal_isSome c (by rw [h]; rfl)).1
    rw [hnot] at hc
    cases hc

/-- A field that does not begin with a digit. -/
theorem readField_of_none {a : U8} (ha : hexVal? a = none) (b : U8) : readField a b =
    if isSpace a = true ∨ a = chr '+' then (hexVal? b).map Int.ofNat
    else if a = chr '-' then (hexVal? b).map fun d => -(d : Int)
    else none := by
  unfold readField
  rw [ha]
  cases hexVal? b with
  | none => simp
  | some d => rfl

theorem readField_nul (a : U8) : readField a 0 = (hexVal? a).map Int.ofNat := by
  have hnul : hexVal? (0 : U8) = none := by decide
  unfold readField
  rw [hnul]
  cases hexVal? a with
  | none => rfl
  | some d => rfl

/-- A field that begins with neither space nor sign is its leading digits. -/
theorem readField_digits {a : U8} (hspace : isSpace a = false) (hplus : a ≠ chr '+')
    (hminus : a ≠ chr '-') (b : U8) : readField a b = (leadingHex [a, b]).map Int.ofNat := by
  rw [leadingHex_two]
  cases ha : hexVal? a with
  | none =>
    rw [readField_of_none ha, hspace, if_neg (by simp [hplus]), if_neg hminus]
    rfl
  | some hi =>
    unfold readField
    rw [ha]
    cases hexVal? b with
    | none => rfl
    | some lo =>
      dsimp only
      rw [Option.map_some, Nat.mul_comm]
      rfl

/-- What a NUL at the end leaves of a field. -/
theorem cString_nul (a : U8) : cString [a, 0] = cString [a] := by
  by_cases ha : a = 0
  · rw [ha]
    rfl
  · rw [cString_cons ha, cString_singleton ha]
    rfl

theorem stoi16_field (a b : U8) : (stoi16 (cString [a, b])).toOption = readField a b := by
  by_cases hb : b = 0
  · -- The field ends after its first character.
    rw [hb, cString_nul, stoi16_one, readField_nul]
  by_cases ha : a = 0
  · -- The field is empty.
    rw [ha, readField_of_none (by decide), if_neg (by decide), if_neg (by decide)]
    rfl
  by_cases hspace : isSpace a = true
  · rw [cString_cons ha, stoi16_space hspace, stoi16_one,
      readField_of_none (hexVal_of_space hspace), if_pos (Or.inl hspace)]
  by_cases hplus : a = chr '+'
  · rw [hplus, stoi16_plus, readField_of_none (by decide), if_pos (Or.inr rfl)]
  by_cases hminus : a = chr '-'
  · rw [hminus, stoi16_minus, readField_of_none (by decide), if_neg (by decide), if_pos rfl]
  have hfalse := Bool.eq_false_of_not_eq_true hspace
  rw [cString_cons ha, cString_singleton hb, stoi16_digits hfalse hplus hminus,
    readField_digits hfalse hplus hminus]

/-- The field is the checksum of the payload in two digits. -/
def IsChecksum (payload : Str) (a b : U8) : Prop :=
  ∃ hi lo, hexVal? a = some hi ∧ hexVal? b = some lo ∧ 16 * hi + lo = checksum payload

/-- The field is no two digits, but has one digit, which is read and equals the checksum. -/
def LoneDigit (payload : Str) (a b : U8) : Prop :=
  (hexVal? a = some (checksum payload) ∧ hexVal? b = none) ∨
    ((isSpace a = true ∨ a = chr '+') ∧ hexVal? b = some (checksum payload)) ∨
    (a = chr '-' ∧ hexVal? b = some 0 ∧ checksum payload = 0)

theorem readField_bounds {a b : U8} {v : Int} (h : readField a b = some v) :
    -16 < v ∧ v < 256 := by
  unfold readField at h
  split at h
  · rename_i hi lo hhi hlo
    have hhi := lt_of_hexVal hhi
    have hlo := lt_of_hexVal hlo
    cases h
    omega
  · rename_i digit hdigit hnone
    have hdigit := lt_of_hexVal hdigit
    cases h
    omega
  · rename_i digit hnone hdigit
    have hdigit := lt_of_hexVal hdigit
    split_ifs at h
    · cases h
      omega
    · cases h
      omega
  · cases h

/-- The check compares what is read with the sum. -/
theorem passes_iff_read (payload : Str) (a b : U8) :
    Passes payload a b ↔ readField a b = some (checksum payload : Int) := by
  have hlt := checksum_lt payload
  have hsum := toNat_byteSum_and payload
  rw [← stoi16_field]
  unfold Passes checkSum
  cases hstoi : stoi16 (cString [a, b]) with
  | error e =>
    refine iff_of_false ?_ ?_
    · intro h
      cases h
    · intro h
      cases h
  | ok v =>
    have hfield := stoi16_field a b
    rw [hstoi] at hfield
    obtain ⟨hlo, hhi⟩ := readField_bounds hfield.symm
    have hequal : byteSum payload &&& 0xff = BitVec.ofInt 32 v ↔ v = checksum payload := by
      rw [← BitVec.toNat_inj, hsum, BitVec.toNat_ofInt]
      omega
    have hok : (Except.ok v : Except GdbStop Int).toOption = some v := rfl
    rw [hok, Option.some.injEq, ← hequal]
    by_cases hne : byteSum payload &&& 0xff ≠ BitVec.ofInt 32 v
    · refine iff_of_false (fun h => ?_) hne
      rw [show (Except.ok v >>= _) = _ from if_pos hne] at h
      cases h
    · exact iff_of_true (if_neg hne) (not_ne_iff.mp hne)

theorem hexVal_of_sign {c : U8} (hc : c = chr '+' ∨ c = chr '-') : hexVal? c = none := by
  rcases hc with rfl | rfl
  · decide
  · decide

/-- What comes before a lone digit is no digit. -/
theorem LoneDigit.not_both {payload : Str} {a b : U8} (h : LoneDigit payload a b) {hi lo : Nat}
    (ha : hexVal? a = some hi) (hb : hexVal? b = some lo) : False := by
  rcases h with ⟨-, hnone⟩ | ⟨hspace | hplus, -⟩ | ⟨hminus, -⟩
  · rw [hb] at hnone
    cases hnone
  · rw [hexVal_of_space hspace] at ha
    cases ha
  · rw [hexVal_of_sign (.inl hplus)] at ha
    cases ha
  · rw [hexVal_of_sign (.inr hminus)] at ha
    cases ha

/-- What the check lets pass. -/
theorem passes_iff (payload : Str) (a b : U8) :
    Passes payload a b ↔ IsChecksum payload a b ∨ LoneDigit payload a b := by
  rw [passes_iff_read]
  constructor
  · intro h
    unfold readField at h
    split at h
    · rename_i hi lo hhi hlo
      refine .inl ⟨hi, lo, hhi, hlo, ?_⟩
      injection h with h
      omega
    · rename_i digit hdigit hnone
      injection h with h
      exact .inr (.inl ⟨by rw [hdigit, Int.ofNat.inj h], hnone⟩)
    · rename_i digit hnone hdigit
      split_ifs at h with hskip hminus
      · injection h with h
        exact .inr (.inr (.inl ⟨hskip, by rw [hdigit, Int.ofNat.inj h]⟩))
      · injection h with h
        have hzero : digit = 0 := by omega
        exact .inr (.inr (.inr ⟨hminus, by rw [hdigit, hzero], by omega⟩))
    · cases h
  · rintro (⟨hi, lo, hhi, hlo, hsum⟩ | ⟨hdigit, hnone⟩ | ⟨hskip, hdigit⟩ | ⟨hminus, hdigit, hzero⟩)
    · unfold readField
      rw [hhi, hlo, ← hsum]
      rfl
    · unfold readField
      rw [hdigit, hnone]
    · have hnone : hexVal? a = none := by
        rcases hskip with hspace | hplus
        · exact hexVal_of_space hspace
        · exact hexVal_of_sign (.inl hplus)
      unfold readField
      rw [hnone, hdigit]
      exact if_pos hskip
    · have hskip : ¬ (isSpace a = true ∨ a = chr '+') := by
        rw [hminus]
        decide
      unfold readField
      rw [hexVal_of_sign (.inr hminus), hdigit, hzero]
      dsimp only
      rw [if_neg hskip, if_pos hminus]
      rfl

/-! ## Frames -/

/-- The text of a frame. -/
def frame (payload : Str) (a b : U8) : Str := chr '$' :: (payload ++ [chr '#', a, b])

/-- The text is a frame that should be passed on. -/
structure IsFrame (payload : Str) (a b : U8) : Prop where
  noHash : chr '#' ∉ payload
  length : payload.length + 2 ≤ kMaxMessageLength
  checksum : IsChecksum payload a b

namespace GdbServer

/-- `Packetify` writes the checksum in two digits. -/
theorem packetify_eq (payload : Str) : packetify payload =
    frame payload (lowerHex (checksum payload / 16)) (lowerHex (checksum payload % 16)) := by
  rw [packetify, getChecksumStr_eq]
  simp only [frame, twoDigits, checksum, List.cons_append, List.nil_append, List.append_assoc]

theorem packetify_isChecksum (payload : Str) : IsChecksum payload
    (lowerHex (checksum payload / 16)) (lowerHex (checksum payload % 16)) := by
  have hlt := checksum_lt payload
  exact ⟨_, _, hexVal_lowerHex _ (by omega), hexVal_lowerHex _ (by omega), by omega⟩

end GdbServer

theorem cString_hex {a b : U8} {hi lo : Nat} (ha : hexVal? a = some hi)
    (hb : hexVal? b = some lo) : cString [a, b] = [a, b] := by
  have hne : ∀ {c d}, hexVal? c = some d → c ≠ 0 := by
    rintro c d hc rfl
    cases hc
  rw [cString_cons (hne ha), cString_singleton (hne hb)]

/-- A frame whose checksum is received as it should be is passed on. -/
theorem recvMsgBlocking_accepts {s : TcpServer} {payload rest : Str} {a b : U8}
    (hstream : s.stream = chr '$' :: (payload ++ chr '#' :: a :: rest))
    (hpayload : IsPayload payload)
    (hsecond : (s.atChecksum payload (a :: rest)).secondByte = b)
    (hchecksum : IsChecksum payload a b) :
    ∃ s', recvMsgBlocking s = .ok (.packet (frame payload a b), s') := by
  obtain ⟨s', hmsg⟩ := recvMsgBlocking_frame hstream hpayload
  have hpasses : checkSum (byteSum payload) (cString [a, b]) = .ok () :=
    (passes_iff payload a b).mpr (.inl hchecksum)
  obtain ⟨hi, lo, ha, hb, -⟩ := hchecksum
  refine ⟨s', ?_⟩
  rw [hmsg, hsecond, hpasses, cString_hex ha hb]
  rfl

/-! ## What `Packetify` writes is received -/

/-- The packet is fed to the server: its bytes are the next ones of the stream, and no call of
    `recv` gets fewer bytes than it asks for while there are more. -/
structure TcpServer.Fed (packet : Str) (s : TcpServer) : Prop where
  stream : packet <+: s.stream
  whole : ∀ call, 2 ≤ (s.segment call).count

namespace GdbServer

variable {σ : Type} [BusPort σ] [DebugPort σ]

/-- `DecodeAndCall` from the result of `SplitMsg` on. -/
def callCmd (res : List Str) : GdbM σ Unit :=
  match res with
  | [] => cmdNotFound res
  | name :: _ =>
    match cmdMap.lookup name with
    | none => throw (.assertion "cmd_map.contains(res[0])")
    | some cmd => do
      sendMsg kMsgAck
      cmd res

/-- The CPU after the acknowledgement. -/
def acked (c : Cpu (Linked σ)) : Cpu (Linked σ) :=
  { c with initSocket := { c.initSocket with sys := { c.initSocket.sys with
    sent := c.initSocket.sys.sent ++ kMsgAck } } }

omit [BusPort σ] [DebugPort σ] in
theorem sendMsg_kMsgAck (c : Cpu (Linked σ)) :
    (sendMsg kMsgAck : GdbM σ Unit) c = .ok ((), acked c) := by
  unfold sendMsg acked
  rw [cString_kMsgAck]
  rfl

/-- The handler of a command is called behind the acknowledgement. -/
theorem callCmd_of_lookup {name : Str} {cmd : List Str → GdbM σ Unit}
    (hlookup : cmdMap.lookup name = some cmd) (fields : List Str) (c : Cpu (Linked σ)) :
    callCmd (name :: fields) c = cmd (name :: fields) (acked c) := by
  unfold callCmd
  dsimp only
  rw [hlookup]
  exact StateExcept.bind_of_ok (sendMsg_kMsgAck c)

theorem callCmd_of_message {s name : Str} {fields : List Str}
    (h : Message s (name :: fields)) {cmd : List Str → GdbM σ Unit}
    (hlookup : cmdMap.lookup name = some cmd) (c : Cpu (Linked σ)) :
    callCmd (splitMsg s) c = cmd (name :: fields) (acked c) := by
  rw [((splitMsg_eq_iff s _).mp h).1, callCmd_of_lookup hlookup]

theorem substr_frame {payload : Str} (hlength : payload.length < 2 ^ 64) (a b : U8) :
    substr (frame payload a b) 1 (BitVec.ofNat 64 (frame payload a b).length - 4).toNat =
      .ok payload := by
  have hframe : (frame payload a b).length = payload.length + 4 := by
    simp [frame]
  have hcount : (BitVec.ofNat 64 (payload.length + 4) - 4).toNat = payload.length := by
    bv_omega
  rw [substr, hframe, hcount, if_pos (by omega)]
  simp [frame]

/-- The frame is cut off again. -/
theorem decodeAndCall_frame {payload : Str} (hlength : payload.length < 2 ^ 64) (a b : U8) :
    (decodeAndCall (frame payload a b) : GdbM σ Unit) = callCmd (splitMsg payload) := by
  have hstrip := substr_frame hlength a b
  unfold decodeAndCall
  rw [hstrip]
  rfl

/-- What `Packetify` makes of a payload passes the checks, and the payload is what is stripped out
    of it and handed to `SplitMsg`. -/
theorem packetify_received {payload : Str} (hlength : payload.length ≤ 4094)
    (hplain : ∀ c ∈ payload, c ≠ chr '#' ∧ c ≠ 0) {s : TcpServer}
    (hfed : s.Fed (packetify payload)) :
    (∃ s', recvMsgBlocking s = .ok (.packet (packetify payload), s')) ∧
      substr (packetify payload) 1 (BitVec.ofNat 64 (packetify payload).length - 4).toNat =
        .ok payload ∧
      (decodeAndCall (packetify payload) : GdbM σ Unit) = callCmd (splitMsg payload) := by
  have hpayload : IsPayload payload := ⟨hplain, Nat.add_le_add_right hlength 2⟩
  obtain ⟨rest, hrest⟩ := hfed.stream
  rw [packetify_eq] at hrest ⊢
  have hstream : s.stream = chr '$' :: (payload ++ chr '#' ::
      lowerHex (checksum payload / 16) :: lowerHex (checksum payload % 16) :: rest) := by
    rw [← hrest]
    simp only [frame, List.cons_append, List.append_assoc, List.nil_append]
  have hsecond : (s.atChecksum payload (lowerHex (checksum payload / 16) ::
      lowerHex (checksum payload % 16) :: rest)).secondByte = lowerHex (checksum payload % 16) :=
    if_pos (hfed.whole _)
  exact ⟨recvMsgBlocking_accepts hstream hpayload hsecond (packetify_isChecksum payload),
    substr_frame (by omega) _ _, decodeAndCall_frame (by omega) _ _⟩

/-- A payload with the bytes 0x80 and 0xFF. -/
theorem high_bytes_received :
    ∃ s', recvMsgBlocking { stream := packetify [chr 'g', 0x80, 0xFF],
                            segment := fun _ => ⟨2, fun _ => 0⟩ } =
      .ok (.packet (packetify [chr 'g', 0x80, 0xFF]), s') :=
  (packetify_received (σ := Timed Gb) (by decide) (by decide)
    ⟨List.prefix_refl _, fun _ => Nat.le_refl 2⟩).1

end GdbServer

/-! ## What is passed on -/

/-- The stream has a whole message after its '$': a '#' and two more bytes, or more bytes than a
    message may have before its '#'. -/
def HasMessage (stream : Str) : Prop :=
  (∃ payload a b rest, chr '#' ∉ payload ∧ stream = frame payload a b ++ rest) ∨
    (kMaxMessageLength < stream.length ∧ chr '#' ∉ stream.take kMaxMessageLength)

/-- Of a stream that begins with '$' only a frame is passed on to `DecodeAndCall`. Any other
    message is rejected with an exception, and no command runs. -/
structure AcceptsFramesOnly (s : TcpServer) : Prop where
  accepts : ∀ received s', recvMsgBlocking s = .ok (received, s') →
    ∃ payload a b, received = .packet (frame payload a b) ∧ frame payload a b <+: s.stream ∧
      IsFrame payload a b
  rejects : ∀ e, recvMsgBlocking s = .error e →
    e.IsException ∨ (e = .waits ∧ ¬ HasMessage s.stream)
  noCommand : ∀ e, recvMsgBlocking s = .error e →
    ∀ {σ : Type} [BusPort σ] [DebugPort σ] (c : Cpu (Linked σ)),
      c.initSocket.sys.tcpServer = s → recvAndCall c = .error e.fault

/-- The check is not passed by a lone digit, nor by two digits of which the second one is not the
    stream's. -/
def ChecksumTaken (s : TcpServer) : Prop :=
  ∀ payload a rest, s.stream = chr '$' :: (payload ++ chr '#' :: a :: rest) → IsPayload payload →
    ¬ LoneDigit payload a (s.atChecksum payload (a :: rest)).secondByte ∧
      (IsChecksum payload a (s.atChecksum payload (a :: rest)).secondByte →
        rest.head? = some (s.atChecksum payload (a :: rest)).secondByte)

/-- A message that is not received runs no command. -/
theorem recvAndCall_error {s : TcpServer} {e : GdbStop} (h : recvMsgBlocking s = .error e)
    {σ : Type} [BusPort σ] [DebugPort σ] {c : Cpu (Linked σ)}
    (hc : c.initSocket.sys.tcpServer = s) : recvAndCall c = .error e.fault := by
  refine StateExcept.bind_of_error ?_
  unfold receive
  rw [hc, h]

theorem Clean.noHash {payload : Str} (h : Clean payload) : chr '#' ∉ payload :=
  fun hmem => (h _ hmem).1 rfl

theorem frame_append (payload rest : Str) (a b : U8) :
    frame payload a b ++ rest = chr '$' :: (payload ++ chr '#' :: a :: b :: rest) := by
  simp only [frame, List.cons_append, List.append_assoc, List.nil_append]

/-- The first '#' of a stream ends the payload. -/
theorem eq_of_frames {payload payload' rest rest' : Str} {a b : U8} (h : chr '#' ∉ payload)
    (h' : chr '#' ∉ payload') (heq : chr '$' :: (payload ++ chr '#' :: rest) =
      frame payload' a b ++ rest') : payload = payload' ∧ rest = a :: b :: rest' := by
  rw [frame_append] at heq
  exact Hexadecimal.field_inj h h' (List.cons.inj heq).2

theorem checksumTaken_of_accepts {s : TcpServer} (h : AcceptsFramesOnly s) : ChecksumTaken s := by
  intro payload a rest hstream hpayload
  obtain ⟨b, hb⟩ : ∃ b, b = (s.atChecksum payload (a :: rest)).secondByte := ⟨_, rfl⟩
  rw [← hb]
  -- A field that passes is the one of the stream.
  have htaken : Passes payload a b → IsChecksum payload a b ∧ rest.head? = some b := by
    intro hpasses
    obtain ⟨s', hmsg⟩ := recvMsgBlocking_frame hstream hpayload
    rw [← hb, show checkSum (byteSum payload) (cString [a, b]) = .ok () from hpasses] at hmsg
    obtain ⟨payload', a', b', hreceived, ⟨rest', hrest'⟩, hframe⟩ := h.accepts _ s' hmsg
    rw [hstream] at hrest'
    obtain ⟨rfl, hrest⟩ := eq_of_frames hpayload.1.noHash hframe.noHash hrest'.symm
    obtain ⟨rfl, hnext⟩ := List.cons.inj hrest
    have htext : frame payload a b' = chr '$' :: (payload ++ chr '#' :: cString [a, b]) := by
      injection hreceived with hreceived
      exact hreceived.symm
    have hfield : [a, b'] = cString [a, b] := by
      have htail := List.append_cancel_left (List.cons.inj htext).2
      exact (List.cons.inj htail).2
    have hlength : (cString [a, b]).length = 2 := by rw [← hfield]; rfl
    have hall : cString [a, b] = [a, b] :=
      (List.takeWhile_prefix _).eq_of_length hlength
    rw [hall] at hfield
    obtain rfl : b' = b := by simpa using hfield
    exact ⟨hframe.checksum, by rw [hnext]; rfl⟩
  refine ⟨fun hlone => ?_, fun hchecksum => ?_⟩
  · obtain ⟨⟨hi, lo, ha, hlo, -⟩, -⟩ := htaken ((passes_iff payload a b).mpr (.inr hlone))
    exact hlone.not_both ha hlo
  · exact (htaken ((passes_iff payload a b).mpr (.inl hchecksum))).2

/-- A stream that has no byte after the '#' has no whole message. -/
theorem not_hasMessage {payload : Str} (hpayload : chr '#' ∉ payload)
    (hlength : payload.length + 2 ≤ kMaxMessageLength) :
    ¬ HasMessage (chr '$' :: (payload ++ [chr '#'])) := by
  rintro (⟨payload', a, b, rest, hpayload', heq⟩ | ⟨hlong, -⟩)
  · obtain ⟨-, hrest⟩ := eq_of_frames hpayload hpayload' heq
    cases hrest
  · rw [List.length_cons, List.length_append, List.length_singleton] at hlong
    omega

theorem not_hasMessage_of_noHash {stream : Str} (hhash : chr '#' ∉ stream)
    (hlength : stream.length ≤ kMaxMessageLength) : ¬ HasMessage stream := by
  rintro (⟨payload, a, b, rest, -, rfl⟩ | ⟨hlong, -⟩)
  · refine hhash ?_
    rw [frame_append]
    simp
  · omega

/-- What becomes of a message that begins with '$'. -/
theorem recvMsgBlocking_cases {s : TcpServer} {rest : Str} (hs : s.stream = chr '$' :: rest) :
    (∃ payload a rest' s', s.stream = chr '$' :: (payload ++ chr '#' :: a :: rest') ∧
        IsPayload payload ∧ recvMsgBlocking s = (checkSum (byteSum payload)
          (cString [a, (s.atChecksum payload (a :: rest')).secondByte])).map fun _ =>
            (.packet (chr '$' :: (payload ++ chr '#' ::
              cString [a, (s.atChecksum payload (a :: rest')).secondByte])), s')) ∨
      ∃ e : GdbStop, (e.IsException ∨ e = .waits ∧ ¬ HasMessage s.stream) ∧
        recvMsgBlocking s = .error e := by
  rcases recvPayload_stops rest kMaxMessageLength [chr '$'] 0 (by decide) (by decide) with
    ⟨payload, rest', hrest, hclean, hlength⟩ | ⟨e, he, hstop⟩
  · rw [List.length_singleton] at hlength
    rw [hrest] at hs
    cases rest' with
    | nil =>
      refine .inr ⟨.waits, .inr ⟨rfl, ?_⟩, ?_⟩
      · rw [hs]
        exact not_hasMessage hclean.noHash (by omega)
      · have hloop := recvPayload_frame hclean (s.after (payload ++ [chr '#'])) kMaxMessageLength
          [chr '$'] 0 rfl (by omega) (by
            rw [List.length_singleton]
            omega)
        rw [recvMsgBlocking_dollar hs, recvFrame_checksum hloop, recvBlocking_nil rfl (by decide)]
        rfl
    | cons a rest' =>
      have hpayload : IsPayload payload := ⟨hclean, by omega⟩
      obtain ⟨s', hmsg⟩ := recvMsgBlocking_frame hs hpayload
      exact .inl ⟨payload, a, rest', s', hs, hpayload, hmsg⟩
  · refine .inr ⟨e, he.imp id fun hwaits => ⟨hwaits.1, ?_⟩, ?_⟩
    · rw [hs]
      refine not_hasMessage_of_noHash ?_ ?_
      · exact List.not_mem_cons_of_ne_of_not_mem (by decide) hwaits.2.1
      · have hlength := hwaits.2.2
        rw [List.length_singleton] at hlength
        rw [List.length_cons]
        omega
    · exact (recvMsgBlocking_dollar hs).trans (recvFrame_stop (hstop (s.after rest) rfl))

/-- Exactly then only frames are passed on. -/
theorem acceptsFramesOnly_iff {s : TcpServer} (hs : s.stream.head? = some (chr '$')) :
    AcceptsFramesOnly s ↔ ChecksumTaken s := by
  obtain ⟨rest, hs⟩ := List.head?_eq_some_iff.mp hs
  refine ⟨checksumTaken_of_accepts, fun htaken => ?_⟩
  rcases recvMsgBlocking_cases hs with
    ⟨payload, a, rest', s', hstream, hpayload, hmsg⟩ | ⟨e, he, herror⟩
  · obtain ⟨hlone, hnext⟩ := htaken payload a rest' hstream hpayload
    obtain ⟨b, hb⟩ : ∃ b, b = (s.atChecksum payload (a :: rest')).secondByte := ⟨_, rfl⟩
    rw [← hb] at hlone hnext hmsg
    rcases checkSum_cases (byteSum payload) (cString [a, b]) with hpasses | ⟨e, he, hfails⟩
    · have hchecksum : IsChecksum payload a b :=
        ((passes_iff payload a b).mp hpasses).resolve_right hlone
      obtain ⟨hi, lo, ha, hlo, -⟩ := id hchecksum
      rw [hpasses, cString_hex ha hlo] at hmsg
      refine ⟨fun received s'' hok => ?_, fun e herror => ?_, fun e herror => ?_⟩
      · rw [hmsg] at hok
        cases hok
        obtain ⟨rest'', rfl⟩ := List.head?_eq_some_iff.mp (hnext hchecksum)
        refine ⟨payload, a, b, rfl, ⟨rest'', ?_⟩, hpayload.1.noHash, hpayload.2, hchecksum⟩
        rw [hstream, frame_append]
      · rw [hmsg] at herror
        cases herror
      · rw [hmsg] at herror
        cases herror
    · rw [hfails] at hmsg
      refine ⟨fun received s'' hok => ?_, fun e' herror => ?_, fun e' herror => ?_⟩
      · rw [hmsg] at hok
        cases hok
      · rw [hmsg] at herror
        cases herror
        exact .inl he
      · exact fun c hc => recvAndCall_error herror hc
  · refine ⟨fun received s'' hok => ?_, fun e' herror' => ?_, fun e' herror' => ?_⟩
    · rw [herror] at hok
      cases hok
    · rw [herror] at herror'
      cases herror'
      exact he
    · exact fun c hc => recvAndCall_error herror' hc

/-- What `Packetify` writes is taken as it is. -/
theorem TcpServer.Fed.checksumTaken {payload : Str} (hplain : chr '#' ∉ payload) {s : TcpServer}
    (hfed : s.Fed (packetify payload)) : ChecksumTaken s := by
  intro payload' a rest hstream hpayload
  obtain ⟨rest', hrest'⟩ := hfed.stream
  rw [packetify_eq, hstream] at hrest'
  obtain ⟨rfl, hrest⟩ := eq_of_frames hpayload.1.noHash hplain hrest'.symm
  obtain ⟨rfl, rfl⟩ := List.cons.inj hrest
  obtain ⟨hi, lo, hhi, hlo, -⟩ := packetify_isChecksum payload'
  have hsecond : (s.atChecksum payload' (lowerHex (checksum payload' / 16) ::
      lowerHex (checksum payload' % 16) :: rest')).secondByte = lowerHex (checksum payload' % 16) :=
    if_pos (hfed.whole _)
  rw [hsecond]
  exact ⟨fun hlone => hlone.not_both hhi hlo, fun _ => rfl⟩

/-- The stream `$g#67`. -/
theorem readReg_accepted : AcceptsFramesOnly
    { stream := packetify [chr 'g'], segment := fun _ => ⟨2, fun _ => 0⟩ } :=
  (acceptsFramesOnly_iff rfl).mpr
    (TcpServer.Fed.checksumTaken (by decide) ⟨List.prefix_refl _, fun _ => Nat.le_refl 2⟩)

/-- The byte sum of `c049` is 256: a lone 0 passes as its checksum, with a z behind it. -/
theorem lone_digit_accepted : ¬ ∀ s : TcpServer, s.stream.head? = some (chr '$') →
    AcceptsFramesOnly s := by
  intro h
  have hframes := h { stream := str "$c049#0z", segment := fun _ => ⟨2, fun _ => 0⟩ } rfl
  have hrun : (recvMsgBlocking
      { stream := str "$c049#0z", segment := fun _ => ⟨2, fun _ => 0⟩ }).map Prod.fst =
        .ok (.packet (str "$c049#0z")) := by decide +kernel
  obtain ⟨⟨received, s'⟩, hok, hreceived⟩ := StateExcept.map_eq_ok hrun
  cases hreceived
  obtain ⟨payload, a, b, hpacket, -, hframe⟩ := hframes.accepts _ s' hok
  have htext : str "$c049" ++ [chr '#', chr '0', chr 'z'] =
      (chr '$' :: payload) ++ [chr '#', a, b] := by
    injection hpacket
  obtain ⟨-, hfield⟩ := List.append_inj' htext rfl
  obtain ⟨hi, lo, -, hlo, -⟩ := hframe.checksum
  cases hfield
  cases hlo

end TlmBoy
