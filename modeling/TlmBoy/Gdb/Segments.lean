import TlmBoy.Gdb.RecvMsg

/-
  What a server decides about a stream of bytes, by how the stream is cut into segments.

  All bytes but those of the checksum are received one by one, and a call that asks for one byte
  gets it whatever the segments are. The checksum is received with one call for two bytes. When
  that call gets one byte, the second digit is whatever the buffer held before, and the real one
  stays in the stream. `decide_alike_iff`: the segments make no difference exactly when the
  first frame of the stream cannot pass its check with any second digit.
-/

namespace TlmBoy

open TcpServer GdbServer

/-! ## What the server decides -/

/-- What one call of `RecvMsgBlocking` comes to, other than waiting for ever. -/
inductive Decision where
  | received (r : Received)
  | rejected
deriving DecidableEq, Repr

/-- The decisions of one call after the other, up to one that waits or throws. -/
def TcpServer.decisions : Nat → TcpServer → List Decision
  | 0, _ => []
  | fuel + 1, s =>
    match recvMsgBlocking s with
    | .ok (r, s') => .received r :: decisions fuel s'
    | .error .waits => []
    | .error _ => [.rejected]

/-- The decisions about a stream. Every call that returns has received a byte. -/
def decisionsOn (stream : Str) (segment : Nat → Segment) : List Decision :=
  TcpServer.decisions stream.length { stream, segment }

/-- The sum that the server computes over a payload. -/
def byteSum (payload : Str) : BitVec 32 :=
  payload.foldl (fun acc c => acc + c.signExtend 32) 0

/-- The bytes of a payload are neither '#' nor NUL. -/
def Clean (payload : Str) : Prop := ∀ c ∈ payload, c ≠ chr '#' ∧ c ≠ 0

/-- A payload that the loop receives to its end: it is not too long. -/
def IsPayload (payload : Str) : Prop :=
  Clean payload ∧ payload.length + 2 ≤ kMaxMessageLength

/-- The first frame of a stream has this payload, and its checksum begins with `a`. Before it
    stand acknowledgements and Ctrl-C only. -/
def FirstFrame (stream payload : Str) (a : U8) : Prop :=
  ∃ skipped rest, stream = skipped ++ chr '$' :: (payload ++ chr '#' :: a :: rest) ∧
    (∀ b ∈ skipped, b = chr '+' ∨ b = 0x03) ∧ IsPayload payload

/-- The frame passes the check with `b` as the second byte of its checksum. -/
def Passes (payload : Str) (a b : U8) : Prop :=
  checkSum (byteSum payload) (cString [a, b]) = .ok ()

/-! ## One byte after the other -/

theorem cString_cons {c : U8} (hc : c ≠ 0) (msg : Str) : cString (c :: msg) = c :: cString msg :=
  List.takeWhile_cons_of_pos (by simpa using hc)

theorem cString_singleton {c : U8} (hc : c ≠ 0) : cString [c] = [c] := cString_cons hc []

/-- The server after a call of `recv` that leaves `rest`. -/
def TcpServer.after (rest : Str) (s : TcpServer) : TcpServer :=
  { s with stream := rest, calls := s.calls + 1 }

theorem recvBlocking_nil {s : TcpServer} (h : s.stream = []) {length : Nat}
    (hlength : length < kMaxPacketSize) : recvBlocking length s = .error .waits := by
  unfold recvBlocking
  rw [if_neg (not_not_intro hlength), if_pos h]

/-- A call that gets `n` bytes. -/
theorem recvBlocking_ok {s : TcpServer} {length n : Nat} (hlength : length < kMaxPacketSize)
    (hstream : s.stream ≠ [])
    (hn : min (max 1 (s.segment s.calls).count) (min length s.stream.length) = n) :
    recvBlocking length s = .ok (cString (s.stream.take n ++
        (List.range' n (length - n)).map (s.segment s.calls).buffer),
      s.after (s.stream.drop n)) := by
  unfold recvBlocking
  rw [if_neg (not_not_intro hlength), if_neg hstream]
  dsimp only
  rw [hn]
  rfl

/-- A call for one byte gets it. -/
theorem recvBlocking_one {s : TcpServer} {b : U8} {rest : Str} (h : s.stream = b :: rest) :
    recvBlocking 1 s = .ok (cString [b], s.after rest) := by
  have hn : min (max 1 (s.segment s.calls).count) (min 1 s.stream.length) = 1 := by
    rw [h, List.length_cons]
    omega
  rw [recvBlocking_ok (by decide) (by rw [h]; simp) hn, h]
  rfl

/-- A segment of one byte leaves the second one to the buffer. -/
theorem recvBlocking_split {s : TcpServer} {a : U8} {rest : Str} (h : s.stream = a :: rest)
    (hone : min (max 1 (s.segment s.calls).count) (min 2 s.stream.length) = 1) :
    recvBlocking 2 s = .ok (cString [a, (s.segment s.calls).buffer 1], s.after rest) := by
  rw [recvBlocking_ok (by decide) (by rw [h]; simp) hone, h]
  rfl

/-- The second byte of a call that asks for two: the next one of the stream, or what the buffer
    held before. -/
def TcpServer.secondByte (s : TcpServer) : U8 :=
  match s.stream with
  | _ :: b :: _ => if 2 ≤ (s.segment s.calls).count then b else (s.segment s.calls).buffer 1
  | _ => (s.segment s.calls).buffer 1

/-- A call for the checksum gets its first byte, and some second one. -/
theorem recvBlocking_two {s : TcpServer} {a : U8} {rest : Str} (h : s.stream = a :: rest) :
    ∃ s', recvBlocking 2 s = .ok (cString [a, s.secondByte], s') := by
  unfold TcpServer.secondByte
  rw [h]
  cases rest with
  | nil =>
    refine ⟨_, recvBlocking_split h ?_⟩
    rw [h, List.length_singleton]
    omega
  | cons b rest =>
    dsimp only
    by_cases hcount : 2 ≤ (s.segment s.calls).count
    · have hn : min (max 1 (s.segment s.calls).count) (min 2 s.stream.length) = 2 := by
        rw [h, List.length_cons, List.length_cons]
        omega
      refine ⟨s.after rest, ?_⟩
      rw [if_pos hcount, recvBlocking_ok (by decide) (by rw [h]; simp) hn, h]
      rfl
    · rw [if_neg hcount]
      refine ⟨_, recvBlocking_split h ?_⟩
      rw [h, List.length_cons]
      omega

/-! ## The payload -/

/-- The server after `n` bytes received one by one. -/
def TcpServer.afterBytes (n : Nat) (rest : Str) (s : TcpServer) : TcpServer :=
  { s with stream := rest, calls := s.calls + n }

/-- One round of the loop, on a byte other than NUL. -/
theorem recvPayload_cons {s : TcpServer} {c : U8} {rest : Str} (h : s.stream = c :: rest)
    (hc : c ≠ 0) (fuel : Nat) (strBuffer : Str) (sum : BitVec 32) :
    recvPayload (fuel + 1) strBuffer sum s =
      if (strBuffer ++ [c]).length > kMaxMessageLength then
        .error (.logicError "message is too long")
      else if c = chr '#' then .ok ((strBuffer ++ [c], sum + c.signExtend 32), s.after rest)
      else recvPayload fuel (strBuffer ++ [c]) (sum + c.signExtend 32) (s.after rest) := by
  have hat : (liftM (at0 [c]) : RecvM U8) (s.after rest) = .ok (c, s.after rest) := rfl
  rw [recvPayload, StateExcept.bind_of_ok (recvBlocking_one h), cString_singleton hc]
  dsimp only
  rw [StateExcept.bind_of_ok hat]
  split_ifs <;> rfl

theorem recvPayload_nil {s : TcpServer} (h : s.stream = []) (fuel : Nat) (strBuffer : Str)
    (sum : BitVec 32) : recvPayload (fuel + 1) strBuffer sum s = .error .waits :=
  StateExcept.bind_of_error (recvBlocking_nil h (by decide))

/-- A NUL makes the received string empty. -/
theorem recvPayload_nul {s : TcpServer} {rest : Str} (h : s.stream = 0 :: rest) (fuel : Nat)
    (strBuffer : Str) (sum : BitVec 32) :
    recvPayload (fuel + 1) strBuffer sum s = .error (.outOfRange "at") := by
  rw [recvPayload, StateExcept.bind_of_ok (recvBlocking_one h)]
  rfl

/-- The loop receives a whole payload and the '#' after it. -/
theorem recvPayload_frame {payload rest : Str} (hclean : Clean payload) :
    ∀ (s : TcpServer) (fuel : Nat) (strBuffer : Str) (sum : BitVec 32),
      s.stream = payload ++ chr '#' :: rest → payload.length < fuel →
      strBuffer.length + payload.length + 1 ≤ kMaxMessageLength →
      recvPayload fuel strBuffer sum s =
        .ok ((strBuffer ++ payload ++ [chr '#'],
          payload.foldl (fun acc c => acc + c.signExtend 32) sum + (chr '#').signExtend 32),
          s.afterBytes (payload.length + 1) rest) := by
  induction payload with
  | nil =>
    intro s fuel strBuffer sum hs hfuel hlength
    obtain ⟨fuel, rfl⟩ : ∃ k, fuel = k + 1 := ⟨fuel - 1, by omega⟩
    have hshort : ¬ (strBuffer ++ [chr '#']).length > kMaxMessageLength := by
      rw [List.length_append, List.length_singleton]
      exact Nat.not_lt.mpr hlength
    rw [recvPayload_cons hs (by decide), if_neg hshort, if_pos rfl, List.append_nil]
    rfl
  | cons c payload ih =>
    intro s fuel strBuffer sum hs hfuel hlength
    obtain ⟨fuel, rfl⟩ : ∃ k, fuel = k + 1 := ⟨fuel - 1, by omega⟩
    rw [List.length_cons] at hfuel hlength
    obtain ⟨hhash, hnul⟩ := hclean c List.mem_cons_self
    have hbuffer : (strBuffer ++ [c]).length = strBuffer.length + 1 := by
      rw [List.length_append, List.length_singleton]
    have hrest := ih (fun d hd => hclean d (List.mem_cons_of_mem c hd))
      (s.after (payload ++ chr '#' :: rest)) fuel (strBuffer ++ [c]) (sum + c.signExtend 32) rfl
      (by omega) (by omega)
    have hs' : s.stream = c :: (payload ++ chr '#' :: rest) := hs
    rw [recvPayload_cons hs' hnul, if_neg (by omega), if_neg hhash, hrest]
    have hcalls : s.calls + 1 + (payload.length + 1) = s.calls + (payload.length + 1 + 1) := by
      omega
    simp only [TcpServer.afterBytes, TcpServer.after, List.length_cons, hcalls, List.foldl_cons,
      List.append_assoc, List.singleton_append]

/-- The reason is an exception that is thrown. -/
def GdbStop.IsException : GdbStop → Prop
  | .logicError _ | .outOfRange _ | .invalidArgument _ => True
  | .waits | .assertion _ | .outOfFuel => False

/-- Otherwise it stops in one and the same way, whatever the segments are: it throws, or it waits
    for more of a message that has not reached the limit. -/
theorem recvPayload_stops (stream : Str) : ∀ (fuel : Nat) (strBuffer : Str) (sum : BitVec 32),
    strBuffer.length ≤ kMaxMessageLength → strBuffer.length + fuel = kMaxMessageLength + 1 →
    (∃ payload rest, stream = payload ++ chr '#' :: rest ∧ Clean payload ∧
      strBuffer.length + payload.length + 1 ≤ kMaxMessageLength) ∨
    ∃ e : GdbStop, (e.IsException ∨ e = .waits ∧ chr '#' ∉ stream ∧
        strBuffer.length + stream.length ≤ kMaxMessageLength) ∧
      ∀ s : TcpServer, s.stream = stream → recvPayload fuel strBuffer sum s = .error e := by
  induction stream with
  | nil =>
    intro fuel strBuffer sum hle hfuel
    obtain ⟨fuel, rfl⟩ : ∃ k, fuel = k + 1 := ⟨fuel - 1, by omega⟩
    exact .inr ⟨.waits, .inr ⟨rfl, List.not_mem_nil, hle⟩,
      fun s hs => recvPayload_nil hs fuel strBuffer sum⟩
  | cons c rest ih =>
    intro fuel strBuffer sum hle hfuel
    obtain ⟨fuel, rfl⟩ : ∃ k, fuel = k + 1 := ⟨fuel - 1, by omega⟩
    have hbuffer : (strBuffer ++ [c]).length = strBuffer.length + 1 := by
      rw [List.length_append, List.length_singleton]
    by_cases hnul : c = 0
    · subst hnul
      exact .inr ⟨.outOfRange "at", .inl trivial,
        fun s hs => recvPayload_nul hs fuel strBuffer sum⟩
    · by_cases hlong : (strBuffer ++ [c]).length > kMaxMessageLength
      · refine .inr ⟨.logicError "message is too long", .inl trivial, fun s hs => ?_⟩
        rw [recvPayload_cons hs hnul, if_pos hlong]
      · by_cases hhash : c = chr '#'
        · refine .inl ⟨[], rest, by rw [hhash]; rfl, by simp [Clean], ?_⟩
          rw [List.length_nil]
          omega
        · rcases ih fuel (strBuffer ++ [c]) (sum + c.signExtend 32) (by omega) (by omega) with
            ⟨payload, rest', hrest, hclean, hlength⟩ | ⟨e, he, hstop⟩
          · refine .inl ⟨c :: payload, rest', by rw [hrest]; rfl, ?_, ?_⟩
            · intro d hd
              rcases List.mem_cons.mp hd with rfl | hd
              · exact ⟨hhash, hnul⟩
              · exact hclean d hd
            · rw [List.length_cons]
              omega
          · refine .inr ⟨e, he.imp id fun hwaits => ⟨hwaits.1, ?_, ?_⟩, fun s hs => ?_⟩
            · exact List.not_mem_cons_of_ne_of_not_mem (Ne.symm hhash) hwaits.2.1
            · have hlength := hwaits.2.2
              rw [List.length_cons]
              omega
            · rw [recvPayload_cons hs hnul, if_neg hlong, if_neg hhash]
              exact hstop _ rfl

/-! ## Whole messages -/

theorem recvMsgBlocking_nul {s : TcpServer} {rest : Str} (h : s.stream = 0 :: rest) :
    recvMsgBlocking s = .error (.outOfRange "at") := by
  rw [recvMsgBlocking, StateExcept.bind_of_ok (recvBlocking_one h)]
  rfl

/-- The first byte of a message decides what follows. -/
theorem recvMsgBlocking_cons {s : TcpServer} {b : U8} {rest : Str} (h : s.stream = b :: rest)
    (hb : b ≠ 0) : recvMsgBlocking s =
      if b = chr '+' then .ok (.ack, s.after rest)
      else if b = chr '-' then .error (.logicError "received '-', protocol error")
      else if b = 0x03 then .ok (.interrupt, s.after rest)
      else if b = chr '$' then recvFrame [b] (s.after rest)
      else .error (.logicError "message not beginning with '$'") := by
  have hat : (liftM (at0 [b]) : RecvM U8) (s.after rest) = .ok (b, s.after rest) := rfl
  rw [recvMsgBlocking, StateExcept.bind_of_ok (recvBlocking_one h), cString_singleton hb]
  dsimp only
  rw [StateExcept.bind_of_ok hat]
  split_ifs <;> rfl

theorem recvFrame_stop {s : TcpServer} {strBuffer : Str} {e : GdbStop}
    (h : recvPayload kMaxMessageLength strBuffer 0 s = .error e) :
    recvFrame strBuffer s = .error e := StateExcept.bind_of_error h

/-- After the '#' the checksum is received and compared. -/
theorem recvFrame_checksum {s s₁ : TcpServer} {strBuffer strBuffer' : Str} {sum : BitVec 32}
    (h : recvPayload kMaxMessageLength strBuffer 0 s = .ok ((strBuffer', sum), s₁)) :
    recvFrame strBuffer s = recvBlocking 2 s₁ >>= fun checksum =>
      (checkSum (sum - (chr '#').signExtend 32) checksum.1).map fun _ =>
        (.packet (strBuffer' ++ checksum.1), checksum.2) := by
  rw [recvFrame, StateExcept.bind_of_ok h]
  dsimp only
  rw [StateExcept.bind_apply]
  refine bind_congr fun checksum => ?_
  cases checkSum (sum - (chr '#').signExtend 32) checksum.1 <;> rfl

/-- A comparison that fails throws. -/
theorem checkSum_cases (sum : BitVec 32) (str : Str) :
    checkSum sum str = .ok () ∨ ∃ e : GdbStop, e.IsException ∧ checkSum sum str = .error e := by
  have hstoi : ∀ e, stoi16 str = .error e → e.IsException := by
    intro e h
    unfold stoi16 at h
    dsimp only at h
    split at h
    · cases h
      trivial
    · split_ifs at h <;> first | (cases h; trivial) | cases h
  unfold checkSum
  cases h : stoi16 str with
  | error e => exact .inr ⟨e, hstoi e h, rfl⟩
  | ok v =>
    by_cases hv : (sum &&& 0xff) ≠ BitVec.ofInt 32 v
    · refine .inr ⟨_, ?_, if_pos hv⟩
      trivial
    · exact .inl (if_neg hv)

theorem GdbStop.IsException.ne_waits {e : GdbStop} (h : e.IsException) : e ≠ .waits := by
  rintro rfl
  exact h

/-- A message that begins with '$'. -/
theorem recvMsgBlocking_dollar {s : TcpServer} {rest : Str} (h : s.stream = chr '$' :: rest) :
    recvMsgBlocking s = recvFrame [chr '$'] (s.after rest) := by
  rw [recvMsgBlocking_cons h (by decide), if_neg (by decide), if_neg (by decide),
    if_neg (by decide), if_pos rfl]

/-- The server when the checksum of the frame is due. -/
def TcpServer.atChecksum (payload rest : Str) (s : TcpServer) : TcpServer :=
  s.afterBytes (payload.length + 2) rest

/-- A frame is received up to its checksum, whose second byte may be another one than the
    stream's. -/
theorem recvMsgBlocking_frame {s : TcpServer} {payload rest : Str} {a : U8}
    (hstream : s.stream = chr '$' :: (payload ++ chr '#' :: a :: rest))
    (hpayload : IsPayload payload) : ∃ s', recvMsgBlocking s =
      (checkSum (byteSum payload)
        (cString [a, (s.atChecksum payload (a :: rest)).secondByte])).map fun _ =>
          (.packet (chr '$' :: (payload ++ chr '#' ::
            cString [a, (s.atChecksum payload (a :: rest)).secondByte])), s') := by
  obtain ⟨hclean, hlength⟩ := hpayload
  have hloop := recvPayload_frame hclean (s.after (payload ++ chr '#' :: a :: rest))
    kMaxMessageLength [chr '$'] 0 rfl (by omega) (by
      rw [List.length_singleton]
      omega)
  have hserver : (s.after (payload ++ chr '#' :: a :: rest)).afterBytes (payload.length + 1)
      (a :: rest) = s.atChecksum payload (a :: rest) := by
    have hcalls : s.calls + 1 + (payload.length + 1) = s.calls + (payload.length + 2) := by omega
    simp only [TcpServer.atChecksum, TcpServer.afterBytes, TcpServer.after, hcalls]
  rw [hserver] at hloop
  obtain ⟨s', htwo⟩ := @recvBlocking_two (s.atChecksum payload (a :: rest)) a rest rfl
  have hsum : byteSum payload + (chr '#').signExtend 32 - (chr '#').signExtend 32 =
      byteSum payload := BitVec.add_sub_cancel ..
  refine ⟨s', ?_⟩
  rw [recvMsgBlocking_dollar hstream, recvFrame_checksum hloop, htwo]
  show (checkSum (byteSum payload + _ - _) _).map _ = _
  rw [hsum]
  simp only [List.cons_append, List.nil_append, List.append_assoc]

/-- A number read with 'z' after its first digit is another one than with '1' after it. -/
theorem stoi_z_ne_one : ∀ a : U8, (stoi16 (cString [a, chr 'z'])).toOption = none ∨
    (stoi16 (cString [a, chr 'z'])).toOption.map (BitVec.ofInt 32) ≠
      (stoi16 (cString [a, chr '1'])).toOption.map (BitVec.ofInt 32) := by decide +kernel

theorem stoi_of_passes {payload : Str} {a b : U8} (h : Passes payload a b) :
    (stoi16 (cString [a, b])).toOption.map (BitVec.ofInt 32) = some (byteSum payload &&& 0xff) := by
  unfold Passes checkSum at h
  cases hv : stoi16 (cString [a, b]) with
  | error e =>
    rw [hv] at h
    cases h
  | ok v =>
    rw [hv] at h
    by_cases hne : (byteSum payload &&& 0xff) ≠ BitVec.ofInt 32 v
    · rw [show (Except.ok v >>= _) = _ from if_pos hne] at h
      cases h
    · exact congrArg some (not_ne_iff.mp hne).symm

/-- No first byte passes with every second one. -/
theorem exists_failing (payload : Str) (a : U8) : ∃ b, ¬ Passes payload a b := by
  by_contra hall
  have hz := stoi_of_passes (not_not.mp (not_exists.mp hall (chr 'z')))
  have hone := stoi_of_passes (not_not.mp (not_exists.mp hall (chr '1')))
  rcases stoi_z_ne_one a with hnone | hne
  · rw [hnone] at hz
    cases hz
  · exact hne (hz.trans hone.symm)

/-! ## Runs of decisions -/

namespace TcpServer

theorem decisions_of_waits {s : TcpServer} (h : recvMsgBlocking s = .error .waits) (fuel : Nat) :
    decisions fuel s = [] := by
  cases fuel with
  | zero => rfl
  | succ fuel => rw [decisions, h]

theorem decisions_of_error {s : TcpServer} {e : GdbStop} (h : recvMsgBlocking s = .error e)
    (he : e ≠ .waits) (fuel : Nat) : decisions (fuel + 1) s = [.rejected] := by
  rw [decisions, h]
  cases e with
  | waits => exact absurd rfl he
  | _ => rfl

theorem decisions_of_ok {s s' : TcpServer} {r : Received} (h : recvMsgBlocking s = .ok (r, s'))
    (fuel : Nat) : decisions (fuel + 1) s = .received r :: decisions fuel s' := by
  rw [decisions, h]

/-- What acknowledgements and Ctrl-C come to. -/
def skippedDecisions (skipped : Str) : List Decision :=
  skipped.map fun b => .received (if b = chr '+' then .ack else .interrupt)

/-- They are received one by one. -/
theorem decisions_skipped {skipped rest : Str} (hskip : ∀ b ∈ skipped, b = chr '+' ∨ b = 0x03) :
    ∀ (s : TcpServer) (fuel : Nat), s.stream = skipped ++ rest →
      decisions (skipped.length + fuel) s =
        skippedDecisions skipped ++ decisions fuel (s.afterBytes skipped.length rest) := by
  induction skipped with
  | nil =>
    intro s fuel hs
    have hsame : s.afterBytes 0 rest = s := by
      unfold afterBytes
      rw [← show s.stream = rest from hs]
      rfl
    rw [List.length_nil, Nat.zero_add, hsame]
    rfl
  | cons b skipped ih =>
    intro s fuel hs
    have hs' : s.stream = b :: (skipped ++ rest) := hs
    have hrest := ih (fun c hc => hskip c (List.mem_cons_of_mem b hc)) (s.after (skipped ++ rest))
      fuel rfl
    have hcalls : s.calls + 1 + skipped.length = s.calls + (skipped.length + 1) := by omega
    have hserver : (s.after (skipped ++ rest)).afterBytes skipped.length rest =
        s.afterBytes (b :: skipped).length rest := by
      simp only [afterBytes, after, List.length_cons, hcalls]
    have hfuel : (b :: skipped).length + fuel = skipped.length + fuel + 1 := by
      rw [List.length_cons]
      omega
    have hfirst : recvMsgBlocking s =
        .ok (if b = chr '+' then .ack else .interrupt, s.after (skipped ++ rest)) := by
      rcases hskip b List.mem_cons_self with rfl | rfl
      · rw [recvMsgBlocking_cons hs' (by decide), if_pos rfl, if_pos rfl]
      · rw [recvMsgBlocking_cons hs' (by decide), if_neg (by decide), if_neg (by decide),
          if_pos rfl, if_neg (by decide)]
    rw [hfuel, decisions_of_ok hfirst, hrest, hserver]
    rfl

/-- A frame whose checksum is cut after its first byte, with `b` in the buffer. -/
theorem recvMsgBlocking_split {s : TcpServer} {payload rest : Str} {a b : U8}
    (hstream : s.stream = chr '$' :: (payload ++ chr '#' :: a :: rest))
    (hpayload : IsPayload payload) (hsegment : s.segment = fun _ => ⟨1, fun _ => b⟩) :
    ∃ r, recvMsgBlocking s =
      (checkSum (byteSum payload) (cString [a, b])).map fun _ => r := by
  have hsecond : (s.atChecksum payload (a :: rest)).secondByte = b := by
    have hsegment' : (s.atChecksum payload (a :: rest)).segment = fun _ => ⟨1, fun _ => b⟩ :=
      hsegment
    unfold secondByte
    rw [hsegment']
    cases rest with
    | nil => rfl
    | cons c rest => rfl
  obtain ⟨s', h⟩ := recvMsgBlocking_frame hstream hpayload
  rw [hsecond] at h
  exact ⟨_, h⟩

end TcpServer

/-! ## All segmentations -/

/-- A frame that may pass makes two segmentations differ. -/
theorem decisions_differ {stream payload : Str} {a b : U8} (hframe : FirstFrame stream payload a)
    (hpasses : Passes payload a b) : ∃ segment segment',
      decisionsOn stream segment ≠ decisionsOn stream segment' := by
  obtain ⟨skipped, rest, rfl, hskip, hpayload⟩ := hframe
  obtain ⟨b', hfails⟩ := exists_failing payload a
  -- Every call gets one byte, and finds `c` in its buffer.
  have hcut : ∀ c, ∃ s r,
      decisionsOn (skipped ++ chr '$' :: (payload ++ chr '#' :: a :: rest))
        (fun _ => ⟨1, fun _ => c⟩) =
        TcpServer.skippedDecisions skipped ++
          TcpServer.decisions ((payload ++ chr '#' :: a :: rest).length + 1) s ∧
      recvMsgBlocking s = (checkSum (byteSum payload) (cString [a, c])).map fun _ => r := by
    intro c
    obtain ⟨r, hr⟩ := @TcpServer.recvMsgBlocking_split (TcpServer.afterBytes skipped.length
      (chr '$' :: (payload ++ chr '#' :: a :: rest))
      { stream := skipped ++ chr '$' :: (payload ++ chr '#' :: a :: rest),
        segment := fun _ => ⟨1, fun _ => c⟩ }) payload rest a c rfl hpayload rfl
    refine ⟨_, r, ?_, hr⟩
    rw [decisionsOn, List.length_append, List.length_cons]
    exact TcpServer.decisions_skipped hskip _ _ rfl
  obtain ⟨s, r, hdec, hmsg⟩ := hcut b
  obtain ⟨s', r', hdec', hmsg'⟩ := hcut b'
  refine ⟨fun _ => ⟨1, fun _ => b⟩, fun _ => ⟨1, fun _ => b'⟩, fun hsame => ?_⟩
  rw [hdec, hdec'] at hsame
  have htail := List.append_cancel_left hsame
  rw [show checkSum (byteSum payload) (cString [a, b]) = .ok () from hpasses] at hmsg
  obtain ⟨e, he, herror⟩ := (checkSum_cases (byteSum payload) (cString [a, b'])).resolve_left hfails
  rw [herror] at hmsg'
  rw [TcpServer.decisions_of_ok hmsg, TcpServer.decisions_of_error hmsg' he.ne_waits] at htail
  injection htail with hhead
  cases hhead

/-- A message that begins with '$' and that no second byte makes pass is decided by the bytes of
    the stream alone: it is incomplete, or rejected and the rest with it. -/
theorem frame_decisions_alike (rest : Str)
    (hfails : ∀ payload a rest', rest = payload ++ chr '#' :: a :: rest' → IsPayload payload →
      ∀ b, ¬ Passes payload a b) (n : Nat) :
    ∃ ds, ∀ s : TcpServer, s.stream = chr '$' :: rest → TcpServer.decisions (n + 1) s = ds := by
  rcases recvPayload_stops rest kMaxMessageLength [chr '$'] 0 (by decide) (by decide) with
    ⟨payload, rest', hrest, hclean, hlength⟩ | ⟨e, -, hstop⟩
  · rw [List.length_singleton] at hlength
    cases rest' with
    | nil =>
      refine ⟨[], fun s hs => TcpServer.decisions_of_waits ?_ _⟩
      have hloop := recvPayload_frame hclean (s.after rest) kMaxMessageLength [chr '$'] 0 hrest
        (by omega) (by
          rw [List.length_singleton]
          omega)
      rw [recvMsgBlocking_dollar hs, recvFrame_checksum hloop, recvBlocking_nil rfl (by decide)]
      rfl
    | cons a rest' =>
      have hpayload : IsPayload payload := ⟨hclean, by omega⟩
      have hnot := hfails payload a rest' hrest hpayload
      refine ⟨[.rejected], fun s hs => ?_⟩
      rw [hrest] at hs
      obtain ⟨s', hmsg⟩ := recvMsgBlocking_frame hs hpayload
      obtain ⟨e, he, herror⟩ := (checkSum_cases (byteSum payload)
        (cString [a, (s.atChecksum payload (a :: rest')).secondByte])).resolve_left (hnot _)
      rw [herror] at hmsg
      exact TcpServer.decisions_of_error hmsg he.ne_waits _
  · have hsame : ∀ s : TcpServer, s.stream = chr '$' :: rest →
        recvMsgBlocking s = .error e := fun s hs =>
      (recvMsgBlocking_dollar hs).trans (recvFrame_stop (hstop (s.after rest) rfl))
    by_cases he : e = .waits
    · exact ⟨[], fun s hs => TcpServer.decisions_of_waits (he ▸ hsame s hs) _⟩
    · exact ⟨[.rejected], fun s hs => TcpServer.decisions_of_error (hsame s hs) he _⟩

/-- Without one, the stream alone decides. -/
theorem decisions_alike (stream : Str)
    (hnone : ∀ payload a, FirstFrame stream payload a → ∀ b, ¬ Passes payload a b) :
    ∃ ds, ∀ s : TcpServer, s.stream = stream → TcpServer.decisions stream.length s = ds := by
  induction stream with
  | nil => exact ⟨[], fun s _ => rfl⟩
  | cons b rest ih =>
    have hskip : b = chr '+' ∨ b = 0x03 →
        ∃ ds, ∀ s : TcpServer, s.stream = rest → TcpServer.decisions rest.length s = ds := by
      intro hb
      refine ih fun payload a hframe => hnone payload a ?_
      obtain ⟨skipped, rest', hrest, hskipped, hpayload⟩ := hframe
      refine ⟨b :: skipped, rest', by rw [hrest]; rfl, ?_, hpayload⟩
      intro c hc
      rcases List.mem_cons.mp hc with rfl | hc
      · exact hb
      · exact hskipped c hc
    rw [List.length_cons]
    by_cases hnul : b = 0
    · subst hnul
      exact ⟨[.rejected], fun s hs =>
        TcpServer.decisions_of_error (recvMsgBlocking_nul hs) (by decide) _⟩
    by_cases hack : b = chr '+'
    · obtain ⟨ds, hds⟩ := hskip (.inl hack)
      refine ⟨.received .ack :: ds, fun s hs => ?_⟩
      rw [← hds (s.after rest) rfl]
      refine TcpServer.decisions_of_ok ?_ _
      rw [recvMsgBlocking_cons hs hnul, if_pos hack]
    by_cases hnack : b = chr '-'
    · refine ⟨[.rejected], fun s hs => ?_⟩
      have hmsg : recvMsgBlocking s = .error (.logicError "received '-', protocol error") := by
        rw [recvMsgBlocking_cons hs hnul, if_neg hack, if_pos hnack]
      exact TcpServer.decisions_of_error hmsg (by decide) _
    by_cases hintr : b = 0x03
    · obtain ⟨ds, hds⟩ := hskip (.inr hintr)
      refine ⟨.received .interrupt :: ds, fun s hs => ?_⟩
      rw [← hds (s.after rest) rfl]
      refine TcpServer.decisions_of_ok ?_ _
      rw [recvMsgBlocking_cons hs hnul, if_neg hack, if_neg hnack, if_pos hintr]
    by_cases hdollar : b = chr '$'
    · subst hdollar
      refine frame_decisions_alike rest (fun payload a rest' hrest hpayload => ?_) _
      exact hnone payload a ⟨[], rest', by rw [hrest]; rfl, List.forall_mem_nil _, hpayload⟩
    · refine ⟨[.rejected], fun s hs => ?_⟩
      have hmsg : recvMsgBlocking s =
          .error (.logicError "message not beginning with '$'") := by
        rw [recvMsgBlocking_cons hs hnul, if_neg hack, if_neg hnack, if_neg hintr, if_neg hdollar]
      exact TcpServer.decisions_of_error hmsg (by decide) _

/-- The decisions about a stream are the same for all ways to cut it, and all contents of the
    receive buffer, exactly when no second byte makes its first frame pass the check. -/
theorem decide_alike_iff (stream : Str) :
    (∀ segment segment', decisionsOn stream segment = decisionsOn stream segment') ↔
      ∀ payload a, FirstFrame stream payload a → ∀ b, ¬ Passes payload a b := by
  constructor
  · intro halike payload a hframe b hpasses
    obtain ⟨segment, segment', hdiffer⟩ := decisions_differ hframe hpasses
    exact hdiffer (halike segment segment')
  · intro hnone segment segment'
    obtain ⟨ds, hds⟩ := decisions_alike stream hnone
    exact (hds { stream, segment } rfl).trans (hds { stream, segment := segment' } rfl).symm

/-- `$g#67` in one segment is accepted. In segments of one byte, with 0xFF in the buffer, it is
    read as `$g#6` and some other character, and rejected. -/
theorem split_checksum_rejected : ¬ ∀ (stream : Str) (segment segment' : Nat → Segment),
    decisionsOn stream segment = decisionsOn stream segment' := by
  intro h
  have hsame := h [chr '$', chr 'g', chr '#', chr '6', chr '7'] (fun _ => ⟨5, fun _ => 0xFF⟩)
    (fun _ => ⟨1, fun _ => 0xFF⟩)
  revert hsame
  decide

end TlmBoy
