import TlmBoy.Gdb.Arguments
import TlmBoy.Gdb.Frames

/-
  The registers as text: what g sends and G reads.

  `CmdReadReg` writes each register with its bytes exchanged, in four digits, and `CmdWriteReg`
  reads four digits for each register and exchanges the bytes again. Both go through AF, BC, DE, HL,
  SP and PC, so the text is that of the registers' bytes, the low byte of each first (`bytes`).
-/

namespace TlmBoy

theorem rotateLeft_append (hi lo : U8) : (hi ++ lo : U16).rotateLeft 8 = lo ++ hi := by
  apply BitVec.eq_of_getLsbD_eq
  intro i hi'
  rw [BitVec.getLsbD_rotateLeft, BitVec.getLsbD_append, BitVec.getLsbD_append,
    BitVec.getLsbD_append]
  by_cases h : i < 8
  · simp [h]
  · have h8 : i - 8 < 8 := by omega
    simp [h, h8, hi']

/-! ## Four digits -/

/-- The last digit of a padded number stands behind the padded rest. -/
theorem fmtHex_succ {width : Nat} (hwidth : 0 < width) (n : Nat) :
    (fmtHex (width + 1) n).toList = (fmtHex width (n / 16)).toList ++ [Nat.digitChar (n % 16)] := by
  unfold fmtHex
  dsimp only
  rw [String.toList_ofList, String.toList_ofList, Nat.toDigits_eq_if (by decide)]
  by_cases hlt : n < 16
  · obtain ⟨k, rfl⟩ := Nat.exists_eq_add_of_le' hwidth
    rw [if_pos hlt, Nat.div_eq_of_lt hlt, Nat.mod_eq_of_lt hlt]
    show List.replicate (k + 1) '0' ++ [Nat.digitChar n] =
      (List.replicate k '0' ++ ['0']) ++ [Nat.digitChar n]
    rw [List.replicate_succ']
  · rw [if_neg hlt, List.length_append, List.length_singleton, Nat.add_sub_add_right,
      List.append_assoc]

theorem chr_digitChar : ∀ d < 16, chr (Nat.digitChar d) = lowerHex d := by decide

/-- A register is written with its low byte first. -/
theorem str_fmtHex_rotate (v : U16) :
    str (fmtHex 4 (v.rotateLeft 8).toNat) = hexText [lsb v, msb v] := by
  have hlsb := (lsb v).isLt
  have hmsb := (msb v).isLt
  have hvalue : (v.rotateLeft 8).toNat = (lsb v).toNat * 256 + (msb v).toNat := by
    rw [← toNat_append_bytes, ← rotateLeft_append, msb_append_lsb]
  have hhigh : ((lsb v).toNat * 256 + (msb v).toNat) / 16 / 16 = (lsb v).toNat := by omega
  have hthird : ((lsb v).toNat * 256 + (msb v).toNat) / 16 % 16 = (msb v).toNat / 16 := by omega
  have hlast : ((lsb v).toNat * 256 + (msb v).toNat) % 16 = (msb v).toNat % 16 := by omega
  have htwo := str_fmtHex_two (lsb v).toNat hlsb
  unfold str at htwo ⊢
  rw [hvalue, fmtHex_succ (by decide), fmtHex_succ (by decide), hhigh, hthird, hlast,
    List.map_append, List.map_append, htwo]
  show (twoDigits (lsb v).toNat ++ [chr _]) ++ [chr _] = _
  rw [chr_digitChar _ (by omega), chr_digitChar _ (by omega)]
  rfl

theorem hexValue_fourDigits (x y : U8) : hexValue (hexText [x, y]) = x.toNat * 256 + y.toNat := by
  have hx := x.isLt
  have hy := y.isLt
  show hexValue [lowerHex (x.toNat / 16), lowerHex (x.toNat % 16), lowerHex (y.toNat / 16),
    lowerHex (y.toNat % 16)] = _
  unfold hexValue
  simp only [List.foldl_cons, List.foldl_nil]
  rw [hexVal_lowerHex _ (by omega), hexVal_lowerHex _ (by omega), hexVal_lowerHex _ (by omega),
    hexVal_lowerHex _ (by omega)]
  simp only [Option.getD_some]
  omega

/-! ## The register file -/

namespace RegFile

/-- AF, BC, DE, HL, SP and PC. -/
def words (rf : RegFile) : List U16 :=
  [rf.getStack .af, rf.getStack .bc, rf.getStack .de, rf.getStack .hl, rf.sp, rf.pc]

/-- The low byte of each register, then its high byte. -/
def bytes (rf : RegFile) : List U8 := rf.words.flatMap fun v => [lsb v, msb v]

/-- The register file with these registers. -/
def ofWords (word : Nat → U16) : RegFile :=
  { a := msb (word 0), f := lsb (word 0), b := msb (word 1), c := lsb (word 1)
    d := msb (word 2), e := lsb (word 2), h := msb (word 3), l := lsb (word 3)
    sp := word 4, pc := word 5 }

theorem words_ofWords (word : Nat → U16) : (ofWords word).words = (List.range 6).map word := by
  show [(msb (word 0) ++ lsb (word 0) : U16), msb (word 1) ++ lsb (word 1),
    msb (word 2) ++ lsb (word 2), msb (word 3) ++ lsb (word 3), word 4, word 5] = _
  rw [msb_append_lsb, msb_append_lsb, msb_append_lsb, msb_append_lsb]
  rfl

theorem words_inj {rf rf' : RegFile} (h : rf.words = rf'.words) : rf = rf' := by
  have hpair : ∀ {hi lo hi' lo' : U8}, (hi ++ lo : U16) = hi' ++ lo' → hi = hi' ∧ lo = lo' := by
    intro hi lo hi' lo' heq
    exact ⟨by rw [← msb_append hi lo, heq, msb_append], by rw [← lsb_append hi lo, heq, lsb_append]⟩
  obtain ⟨haf, hbc, hde, hhl, hsp, hpc⟩ : rf.a ++ rf.f = rf'.a ++ rf'.f ∧
      rf.b ++ rf.c = rf'.b ++ rf'.c ∧ rf.d ++ rf.e = rf'.d ++ rf'.e ∧
      rf.h ++ rf.l = rf'.h ++ rf'.l ∧ rf.sp = rf'.sp ∧ rf.pc = rf'.pc := by
    simpa [words, getStack] using h
  exact RegFile.ext (hpair haf).1 (hpair haf).2 (hpair hbc).1 (hpair hbc).2 (hpair hde).1
    (hpair hde).2 (hpair hhl).1 (hpair hhl).2 hsp hpc

/-- Two bytes as a word, the low one first. -/
def wordOf (bytes : List U8) (k : Nat) : U16 := bytes.getD (2 * k + 1) 0 ++ bytes.getD (2 * k) 0

theorem map_wordOf_bytes (rf : RegFile) : (List.range 6).map (wordOf rf.bytes) = rf.words := by
  show rf.words.map (fun v => (msb v ++ lsb v : U16)) = rf.words
  exact (List.map_congr_left fun v _ => msb_append_lsb v).trans (List.map_id' rf.words)

theorem flatMap_pairs {bytes : List U8} {n : Nat} (h : bytes.length = 2 * n) :
    (List.range n).flatMap (fun k => [bytes.getD (2 * k) 0, bytes.getD (2 * k + 1) 0]) = bytes := by
  induction n generalizing bytes with
  | zero => exact (List.length_eq_zero_iff.mp h).symm
  | succ n ih =>
    obtain _ | ⟨x, _ | ⟨y, bytes⟩⟩ := bytes
    · simp at h
    · rw [List.length_singleton] at h
      omega
    · rw [List.length_cons, List.length_cons] at h
      have hrest := @ih bytes (by omega)
      rw [List.range_succ_eq_map, List.flatMap_cons, List.flatMap_map]
      exact congrArg (fun rest => x :: y :: rest) hrest

theorem bytes_ofWords {bytes : List U8} (h : bytes.length = 12) :
    (ofWords (wordOf bytes)).bytes = bytes := by
  rw [RegFile.bytes, words_ofWords, List.flatMap_map]
  simp only [wordOf, lsb_append, msb_append]
  exact flatMap_pairs h

end RegFile

/-! ## The handlers -/

namespace GdbServer

open RegFile

variable {σ : Type}

theorem take_drop_two (bytes : List U8) {i : Nat} (h : i + 1 < bytes.length) :
    (bytes.drop i).take 2 = [bytes.getD i 0, bytes.getD (i + 1) 0] := by
  rw [List.drop_eq_getElem_cons (by omega), List.drop_eq_getElem_cons h,
    List.getD_eq_getElem _ _ (by omega), List.getD_eq_getElem _ _ h]
  rfl

/-- Round `k` of `CmdWriteReg` reads the word of bytes `2k` and `2k + 1`. -/
theorem readWord {dataStr : Str} (hdata : HexDigits dataStr) (hlong : 24 ≤ dataStr.length)
    {bytes : List U8} (hlength : bytes.length = 12)
    (htext : (dataStr.take 24).map lowerCase = hexText bytes) {k : Nat} (hk : k < 6) :
    ∃ v, (substr dataStr (4 * k) 4 >>= stoi16) = .ok v ∧
      (BitVec.ofInt 16 v).rotateLeft 8 = wordOf bytes k := by
  refine ⟨_, substr_stoi hdata (by omega) (by decide) (by decide), ?_⟩
  have hpart : (dataStr.drop (4 * k)).take 4 = ((dataStr.take 24).drop (4 * k)).take 4 := by
    rw [List.drop_take, List.take_take, Nat.min_eq_left (by omega)]
  have hvalue : hexValue ((dataStr.drop (4 * k)).take 4) =
      (bytes.getD (2 * k) 0).toNat * 256 + (bytes.getD (2 * k + 1) 0).toNat := by
    rw [hpart, hexValue_take_drop htext, show 4 * k = 2 * (2 * k) by omega]
    refine (congrArg hexValue (take_drop_hexText bytes (2 * k) 2)).trans ?_
    rw [take_drop_two bytes (by omega), hexValue_fourDigits]
  have hword : BitVec.ofInt 16 (hexValue ((dataStr.drop (4 * k)).take 4) : Int) =
      bytes.getD (2 * k) 0 ++ bytes.getD (2 * k + 1) 0 := by
    have hx := (bytes.getD (2 * k) 0).isLt
    have hy := (bytes.getD (2 * k + 1) 0).isLt
    apply BitVec.eq_of_toNat_eq
    rw [toNat_append_bytes, hvalue, BitVec.toNat_ofInt]
    omega
  rw [hword, rotateLeft_append]
  rfl

theorem writeRegs_loop {dataStr : Str} {word : Nat → U16}
    (setters : List ((U16 → RegFile → RegFile) × Nat))
    (hword : ∀ s ∈ setters, ∃ v, (substr dataStr (4 * s.2) 4 >>= stoi16) = .ok v ∧
      (BitVec.ofInt 16 v).rotateLeft 8 = word s.2) (c : Cpu (Linked σ)) :
    (setters.forM fun s => check (substr dataStr (4 * s.2) 4 >>= stoi16) >>= fun data =>
      Cpu.modifyRegs (s.1 ((BitVec.ofInt 16 data).rotateLeft 8)) : GdbM σ PUnit) c =
      .ok ((), { c with regFile := setters.foldl (fun rf s => s.1 (word s.2) rf) c.regFile }) := by
  induction setters generalizing c with
  | nil => rfl
  | cons s setters ih =>
    obtain ⟨⟨v, hv, hrotate⟩, hrest⟩ := List.forall_mem_cons.mp hword
    have hround : (check (substr dataStr (4 * s.2) 4 >>= stoi16) >>= fun data =>
        Cpu.modifyRegs (s.1 ((BitVec.ofInt 16 data).rotateLeft 8)) : GdbM σ PUnit) c =
        .ok ((), { c with regFile := s.1 (word s.2) c.regFile }) := by
      rw [hv, ← hrotate]
      rfl
    exact (StateExcept.bind_of_ok hround).trans (ih hrest _)

/-- G sets the registers whose bytes its first 24 digits are. -/
theorem cmdWriteReg_bytes {name dataStr : Str} (hdata : HexDigits dataStr)
    (hlong : 24 ≤ dataStr.length) {bytes : List U8} (hlength : bytes.length = 12)
    (htext : (dataStr.take 24).map lowerCase = hexText bytes) (c : Cpu (Linked σ)) :
    ∃ c', (cmdWriteReg [name, dataStr] : GdbM σ Unit) c = .ok ((), c') ∧
      c'.regFile = ofWords (wordOf bytes) := by
  have hloop := @writeRegs_loop σ dataStr (wordOf bytes) regSetters.zipIdx
    (fun s hs => readWord hdata hlong hlength htext (List.snd_lt_of_mem_zipIdx hs)) c
  have hcmd : (cmdWriteReg [name, dataStr] : GdbM σ Unit) =
      liftM (cAssert (24 ≤ dataStr.length) "data_str.size() >= 24") >>= fun _ =>
        (regSetters.zipIdx.forM fun s => check (substr dataStr (4 * s.2) 4 >>= stoi16) >>=
          fun data => Cpu.modifyRegs (s.1 ((BitVec.ofInt 16 data).rotateLeft 8))) >>= fun _ =>
        sendMsg kMsgOk := rfl
  obtain ⟨c', hok, hregs⟩ : ∃ c', (sendMsg kMsgOk : GdbM σ Unit)
      { c with regFile := ofWords (wordOf bytes) } = .ok ((), c') ∧
        c'.regFile = ofWords (wordOf bytes) := ⟨_, rfl, rfl⟩
  refine ⟨c', ?_, hregs⟩
  rw [hcmd, StateExcept.bind_of_ok (StateExcept.lift_of_ok (cAssert_pos hlong _) c)]
  exact (StateExcept.bind_of_ok hloop).trans hok

/-- g sends the bytes of the registers, and `x` for those that it does not have. -/
def registerText (rf : RegFile) : Str := hexText rf.bytes ++ List.replicate (7 * 4) (chr 'x')

theorem cmdReadReg_text (msgSplit : List Str) (c : Cpu (Linked σ)) :
    (cmdReadReg msgSplit : GdbM σ Unit) c = sendMsg (packetify (registerText c.regFile)) c := by
  have hwords : ∀ words : List U16,
      (words.map fun v => str (fmtHex 4 (v.rotateLeft 8).toNat)).flatten =
        hexText (words.flatMap fun v => [lsb v, msb v]) := by
    intro words
    simp only [str_fmtHex_rotate]
    rw [← List.flatMap_def, hexText, List.flatMap_assoc]
    rfl
  exact congrArg (fun text => sendMsg (packetify (text ++ List.replicate (7 * 4) (chr 'x'))) c)
    (hwords c.regFile.words)

theorem take_registerText (rf : RegFile) : (registerText rf).take 24 = hexText rf.bytes := by
  have hlen : (hexText rf.bytes).length = 24 := length_hexText rf.bytes
  rw [registerText, List.take_append_of_le_length (by omega), List.take_of_length_le (by omega)]

variable [BusPort σ] [DebugPort σ]

theorem callCmd_readReg (c : Cpu (Linked σ)) :
    ∃ c', callCmd (splitMsg (str "g")) c = .ok ((), c') ∧
      c'.initSocket.sys.sent =
        c.initSocket.sys.sent ++ (kMsgAck ++ packetify (registerText c.regFile)) := by
  have hcall : callCmd (splitMsg (str "g")) c =
      (cmdReadReg [str "g"] : GdbM σ Unit) (acked c) := callCmd_of_message .readReg rfl c
  have hplain : PlainText (registerText c.regFile) :=
    (plainText_hexText c.regFile.bytes).append (by decide)
  obtain ⟨c', hreply, hsent⟩ := sendReply_apply hplain (acked c)
  refine ⟨c', ?_, ?_⟩
  · rw [hcall, cmdReadReg_text]
    exact hreply
  · rw [hsent, ← List.append_assoc]
    rfl

theorem callCmd_writeReg {dataStr : Str} (hdata : HexDigits dataStr)
    (hlong : 24 ≤ dataStr.length) {bytes : List U8} (hlength : bytes.length = 12)
    (htext : (dataStr.take 24).map lowerCase = hexText bytes) (c : Cpu (Linked σ)) :
    ∃ c', callCmd (splitMsg (str "G" ++ dataStr)) c = .ok ((), c') ∧
      c'.regFile = ofWords (wordOf bytes) := by
  have hcall : callCmd (splitMsg (str "G" ++ dataStr)) c =
      (cmdWriteReg [str "G", dataStr] : GdbM σ Unit) (acked c) :=
    callCmd_of_message (.writeReg hdata) rfl c
  obtain ⟨c', hwrite, hregs⟩ := cmdWriteReg_bytes hdata hlong hlength htext (acked c)
  exact ⟨c', hcall.trans hwrite, hregs⟩

/-- The first 24 digits of a reply to g are the bytes of AF, BC, DE, HL, SP and PC, the low byte of
    each first. In a G packet they restore the registers, whatever the case of the digits and
    whatever happened to the CPU; and what a G packet with 24 digits or more sets is what g sends
    next. -/
theorem registers_round_trip :
    (∀ c : Cpu (Linked σ), ∃ c₁ payload, callCmd (splitMsg (str "g")) c = .ok ((), c₁) ∧
      c₁.initSocket.sys.sent = c.initSocket.sys.sent ++ (kMsgAck ++ packetify payload) ∧
      payload.take 24 = hexText c.regFile.bytes ∧
      ∀ (c' : Cpu (Linked σ)) (digits : Str), digits.map lowerCase = payload.take 24 →
        ∃ c'', callCmd (splitMsg (str "G" ++ digits)) c' = .ok ((), c'') ∧
          c''.regFile = c.regFile) ∧
    ∀ (c : Cpu (Linked σ)) (dataStr : Str), HexDigits dataStr → 24 ≤ dataStr.length →
      ∃ c₁ c₂ payload, callCmd (splitMsg (str "G" ++ dataStr)) c = .ok ((), c₁) ∧
        callCmd (splitMsg (str "g")) c₁ = .ok ((), c₂) ∧
        c₂.initSocket.sys.sent = c₁.initSocket.sys.sent ++ (kMsgAck ++ packetify payload) ∧
        payload.take 24 = hexText c₁.regFile.bytes ∧
        payload.take 24 = (dataStr.take 24).map lowerCase := by
  constructor
  · intro c
    obtain ⟨c₁, hread, hsent⟩ := callCmd_readReg c
    refine ⟨c₁, _, hread, hsent, take_registerText _, fun c' digits hdigits => ?_⟩
    rw [take_registerText] at hdigits
    have hlen : digits.length = 24 := by
      rw [← List.length_map (f := lowerCase), hdigits]
      exact length_hexText _
    have hhex : HexDigits digits := by
      rw [← hexDigits_lowerCase, hdigits]
      exact hexDigits_hexText (List.cons_ne_nil _ _)
    have htext : (digits.take 24).map lowerCase = hexText c.regFile.bytes := by
      rw [List.take_of_length_le (by omega), hdigits]
    obtain ⟨c'', hwrite, hregs⟩ := callCmd_writeReg hhex (by omega) rfl htext c'
    refine ⟨c'', hwrite, words_inj ?_⟩
    rw [hregs, words_ofWords, map_wordOf_bytes]
  · intro c dataStr hdata hlong
    obtain ⟨bytes, hlength, htext⟩ := @exists_hexText (dataStr.take 24)
      (fun x hx => hdata.2 x (List.mem_of_mem_take hx)) 12
      (by rw [List.length_take, Nat.min_eq_left hlong])
    obtain ⟨c₁, hwrite, hregs⟩ := callCmd_writeReg hdata hlong hlength htext c
    obtain ⟨c₂, hread, hsent⟩ := callCmd_readReg c₁
    refine ⟨c₁, c₂, _, hwrite, hread, hsent, take_registerText _, ?_⟩
    rw [take_registerText, htext, hregs, bytes_ofWords hlength]

end GdbServer

end TlmBoy
