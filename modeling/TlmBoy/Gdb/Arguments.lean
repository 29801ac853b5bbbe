import TlmBoy.Gdb.Answers
import TlmBoy.Gdb.DebugAccess
import TlmBoy.Gdb.Grammar

/-
  Which accepted packets the handlers complete.

  The grammar bounds neither the digits of an address or a length nor the data that follows a
  length, and the handlers check nothing but the 24 digits of G, which is an assertion. `Serves`
  is what they need, and `completes_iff` says that an accepted packet is completed and answered
  exactly then. No handler reads past its fields.
-/

namespace TlmBoy

namespace GdbServer

/-! ## Programs that return -/

section Returns

variable {σ α β : Type}

/-- `m` returns when it starts in `c`. -/
def Returns (m : GdbM σ α) (c : Cpu (Linked σ)) : Prop := ∃ a c', m c = .ok (a, c')

theorem returns_bind {m : GdbM σ α} {f : α → GdbM σ β} {c : Cpu (Linked σ)} :
    Returns (m >>= f) c ↔ ∃ a c', m c = .ok (a, c') ∧ Returns (f a) c' := by
  constructor
  · rintro ⟨b, c', h⟩
    obtain ⟨a, c₁, hm, hf⟩ := StateExcept.bind_eq_ok h
    exact ⟨a, c₁, hm, b, c', hf⟩
  · rintro ⟨a, c₁, hm, b, c', hf⟩
    exact ⟨b, c', (StateExcept.bind_of_ok hm).trans hf⟩

theorem returns_bind_of_ok {m : GdbM σ α} {f : α → GdbM σ β} {c c' : Cpu (Linked σ)} {a : α}
    (h : m c = .ok (a, c')) : Returns (m >>= f) c ↔ Returns (f a) c' := by
  unfold Returns
  rw [StateExcept.bind_of_ok h]

theorem returns_check_bind {e : Except GdbStop α} {f : α → GdbM σ β} {c : Cpu (Linked σ)} :
    Returns (check e >>= f) c ↔ ∃ a, e = .ok a ∧ Returns (f a) c := by
  rw [returns_bind]
  cases e with
  | error stop =>
    refine iff_of_false ?_ ?_
    · rintro ⟨a, c', h, -⟩
      cases h
    · rintro ⟨a, h, -⟩
      cases h
  | ok a =>
    constructor
    · rintro ⟨a', c', h, hf⟩
      cases h
      exact ⟨a, rfl, hf⟩
    · rintro ⟨a', h, hf⟩
      cases h
      exact ⟨a, c, rfl, hf⟩

theorem returns_sendMsg (msg : Str) (c : Cpu (Linked σ)) : Returns (sendMsg msg) c := ⟨(), _, rfl⟩

/-- A loop whose rounds all return. -/
theorem returns_forM {f : β → GdbM σ PUnit} {xs : List β}
    (h : ∀ x ∈ xs, ∀ c, Returns (f x) c) (c : Cpu (Linked σ)) : Returns (xs.forM f) c := by
  induction xs generalizing c with
  | nil => exact ⟨_, c, rfl⟩
  | cons x xs ih =>
    obtain ⟨u, c', hx⟩ := h x List.mem_cons_self c
    obtain ⟨u', c'', hxs⟩ := ih (fun y hy => h y (List.mem_cons_of_mem x hy)) c'
    exact ⟨u', c'', (StateExcept.bind_of_ok hx).trans hxs⟩

/-- `std::stoi` of digits that stand for an `int`. -/
theorem returns_stoi_bind {s : Str} (hs : HexDigits s) {f : BitVec 32 → GdbM σ β}
    {c : Cpu (Linked σ)} : Returns (stoiUint s >>= f) c ↔
      hexValue s < 2 ^ 31 ∧ Returns (f (BitVec.ofNat 32 (hexValue s))) c := by
  have hbind : (stoiUint s >>= f : GdbM σ β) =
      check (stoi16 s) >>= fun v => f (BitVec.ofInt 32 v) :=
    bind_assoc _ _ _
  rw [hbind, returns_check_bind, stoi16_hex hs]
  by_cases hlt : hexValue s < 2 ^ 31
  · rw [if_pos hlt]
    constructor
    · rintro ⟨v, hv, hf⟩
      cases hv
      exact ⟨hlt, hf⟩
    · rintro ⟨-, hf⟩
      exact ⟨hexValue s, rfl, hf⟩
  · rw [if_neg hlt]
    refine iff_of_false ?_ fun h => hlt h.1
    rintro ⟨v, hv, -⟩
    cases hv

end Returns

/-! ## Parts of a field -/

theorem hexValue_lt (s : Str) : hexValue s < 16 ^ s.length := by
  have hfold : ∀ (s : Str) (acc n : Nat), acc < 16 ^ n →
      s.foldl (fun acc c => acc * 16 + (hexVal? c).getD 0) acc < 16 ^ (n + s.length) := by
    intro s
    induction s with
    | nil => exact fun acc n h => h
    | cons c s ih =>
      intro acc n h
      have hc := hexVal_lt c
      have hstep := ih (acc * 16 + (hexVal? c).getD 0) (n + 1) (by rw [Nat.pow_succ]; omega)
      rw [List.foldl_cons, List.length_cons]
      rwa [show n + (s.length + 1) = n + 1 + s.length by omega]
  have h := hfold s 0 0 (by decide)
  rwa [Nat.zero_add] at h

/-- `substr` and `stoi` of at most 4 digits that are there. -/
theorem substr_stoi {s : Str} (hs : HexDigits s) {pos count : Nat} (hpos : pos < s.length)
    (hcount : 0 < count) (hsmall : count ≤ 4) : (substr s pos count >>= stoi16) =
      .ok (hexValue ((s.drop pos).take count) : Int) := by
  have hpart : HexDigits ((s.drop pos).take count) := by
    refine ⟨fun hnil => ?_, fun c hc => hs.2 c (List.mem_of_mem_drop (List.mem_of_mem_take hc))⟩
    have hlen := congrArg List.length hnil
    rw [List.length_take, List.length_drop, List.length_nil] at hlen
    omega
  have hvalue := hexValue_lt ((s.drop pos).take count)
  have hlength : ((s.drop pos).take count).length ≤ 4 := by
    rw [List.length_take]
    omega
  have hpow := Nat.pow_le_pow_right (show 0 < 16 by decide) hlength
  rw [substr, if_pos (Nat.le_of_lt hpos)]
  show stoi16 _ = _
  rw [stoi16_hex hpart, if_pos (by omega)]

/-- Where the digits have ended there is nothing to convert. -/
theorem substr_stoi_error {s : Str} {pos count : Nat} (hpos : s.length ≤ pos) {v : Int} :
    (substr s pos count >>= stoi16) ≠ .ok v := by
  intro h
  unfold substr at h
  split at h
  · have hnil : (s.drop pos).take count = [] := by
      rw [List.drop_eq_nil_of_le hpos, List.take_nil]
    rw [hnil] at h
    cases h
  · cases h

/-! ## The handlers -/

/-- The address of byte `i` of a memory command. -/
def byteAddr (addr : Str) (i : Nat) : U16 := BitVec.ofNat 16 (hexValue addr + i)

/-- Byte `i` of the data of M. -/
def byteData (dataStr : Str) (i : Nat) : U8 :=
  BitVec.ofNat 8 (hexValue ((dataStr.drop (i * 2)).take 2))

theorem ofNat_add_setWidth (n i : Nat) :
    (BitVec.ofNat 32 n + BitVec.ofNat 32 i).setWidth 16 = BitVec.ofNat 16 (n + i) := by
  apply BitVec.eq_of_toNat_eq
  simp only [BitVec.toNat_setWidth, BitVec.toNat_add, BitVec.toNat_ofNat]
  omega

section Registers

variable {σ : Type} [BusPort σ] [DebugPort σ] (c : Cpu (Linked σ))

omit [BusPort σ] [DebugPort σ] in
theorem returns_cmdBp_iff (change : U16 → Finset U16 → Finset U16) {name kind addr size : Str}
    (hkind : kind = str "0" ∨ kind = str "1") (haddr : HexDigits addr) :
    Returns (cmdBp change [name, kind, addr, size]) c ↔ hexValue addr < 2 ^ 31 := by
  unfold cmdBp
  rw [returns_bind_of_ok (show (field [name, kind, addr, size] 1 : GdbM σ Str) c = .ok (kind, c)
    from rfl), if_pos hkind, returns_bind_of_ok
    (show (field [name, kind, addr, size] 2 : GdbM σ Str) c = .ok (addr, c) from rfl),
    returns_stoi_bind haddr]
  exact and_iff_left ⟨(), _, rfl⟩

omit [BusPort σ] [DebugPort σ] in
theorem returns_cmdWriteReg_iff {name dataStr : Str} (hdata : HexDigits dataStr) :
    Returns (cmdWriteReg [name, dataStr]) c ↔ 24 ≤ dataStr.length := by
  unfold cmdWriteReg
  rw [returns_bind_of_ok (show (field [name, dataStr] 1 : GdbM σ Str) c = .ok (dataStr, c)
    from rfl)]
  by_cases hlong : 24 ≤ dataStr.length
  · refine iff_of_true ?_ hlong
    have hrounds : ∀ x ∈ regSetters.zipIdx, ∀ c₁,
        Returns (check (substr dataStr (4 * x.2) 4 >>= stoi16) >>= fun data =>
          Cpu.modifyRegs (x.1 ((BitVec.ofInt 16 data).rotateLeft 8)) : GdbM σ Unit) c₁ := by
      rintro ⟨setter, k⟩ hk c₁
      have hlt : k < 6 := List.snd_lt_of_mem_zipIdx hk
      rw [returns_check_bind, substr_stoi hdata (by omega) (by decide) (by decide)]
      exact ⟨_, rfl, (), _, rfl⟩
    obtain ⟨u, c', hloop⟩ := returns_forM hrounds c
    rw [cAssert_pos hlong, returns_bind_of_ok (show (liftM (Except.ok () : Except Fault Unit) :
      GdbM σ Unit) c = .ok ((), c) from rfl), returns_bind]
    exact ⟨u, c', hloop, returns_sendMsg kMsgOk c'⟩
  · refine iff_of_false ?_ hlong
    rw [cAssert_neg hlong]
    rintro ⟨u, c', h⟩
    cases h

end Registers

section Memory

variable (c : Cpu (Linked (Timed Gb)))

/-- A debug read returns unless it is of 0xFF03. -/
theorem returns_readBusDebug_iff (addr : U16) :
    Returns (Cpu.readBusDebug addr : GdbM (Timed Gb) U8) c ↔ addr ≠ 0xFF03 := by
  unfold Returns
  rw [readBusDebug_apply]
  constructor
  · rintro ⟨v, c', h⟩ hadr
    rw [(devices c).transportDbg_FF03 hadr] at h
    cases h
  · intro hadr
    obtain ⟨rel, v, h⟩ := @Gb.transportDbg_read (devices c)
      (debugPayload .read addr (devices c).stackByte c) rfl hadr
    rw [h]
    exact ⟨_, _, rfl⟩

theorem returns_readMem_iff (n : Nat) (is : List Nat) :
    Returns (readMem (BitVec.ofNat 32 n) is : GdbM (Timed Gb) Str) c ↔
      ∀ i ∈ is, BitVec.ofNat 16 (n + i) ≠ 0xFF03 := by
  induction is generalizing c with
  | nil => exact iff_of_true ⟨[], c, rfl⟩ (List.forall_mem_nil _)
  | cons i is ih =>
    unfold readMem
    rw [List.forall_mem_cons, ofNat_add_setWidth, returns_bind]
    constructor
    · rintro ⟨v, c', hread, hrest⟩
      obtain ⟨s, c'', hmem, -⟩ := returns_bind.mp hrest
      exact ⟨(returns_readBusDebug_iff c _).mp ⟨v, c', hread⟩, (ih c').mp ⟨s, c'', hmem⟩⟩
    · rintro ⟨hi, his⟩
      obtain ⟨v, c', hread⟩ := (returns_readBusDebug_iff c _).mpr hi
      obtain ⟨s, c'', hmem⟩ := (ih c').mpr his
      exact ⟨v, c', hread, returns_bind.mpr ⟨s, c'', hmem, _, c'', rfl⟩⟩

theorem returns_cmdReadMem_iff {name addr length : Str} (haddr : HexDigits addr)
    (hlength : HexDigits length) : Returns (cmdReadMem [name, addr, length]) c ↔
      hexValue addr < 2 ^ 31 ∧ hexValue length < 2 ^ 31 ∧
        ∀ i < hexValue length, byteAddr addr i ≠ 0xFF03 := by
  unfold cmdReadMem
  rw [returns_bind_of_ok (show (field [name, addr, length] 1 : GdbM (Timed Gb) Str) c =
    .ok (addr, c) from rfl), returns_bind_of_ok (show (field [name, addr, length] 2 :
    GdbM (Timed Gb) Str) c = .ok (length, c) from rfl), returns_stoi_bind haddr,
    returns_stoi_bind hlength]
  refine and_congr_right fun _ => and_congr_right fun hlt => ?_
  have hnat : (BitVec.ofNat 32 (hexValue length)).toNat = hexValue length :=
    Nat.mod_eq_of_lt (by omega)
  rw [hnat, returns_bind]
  have hmem := returns_readMem_iff c (hexValue addr) (List.range (hexValue length))
  simp only [List.mem_range] at hmem
  refine Iff.trans ?_ hmem
  constructor
  · rintro ⟨s, c', h, -⟩
    exact ⟨s, c', h⟩
  · rintro ⟨s, c', h⟩
    exact ⟨s, c', h, returns_sendMsg _ c'⟩

/-- A response status that is an error is left over, and a write to `addr` would keep it. -/
def LeftoverError (addr : U16) : Prop :=
  (devices c).Silent addr ∧ c.initSocket.payload.responseStatus.isResponseError = true

theorem returns_writeBusDebug_iff (addr : U16) (v : U8) :
    Returns (Cpu.writeBusDebug addr v : GdbM (Timed Gb) Unit) c ↔
      (devices c).DebugWritable addr v ∧ ¬ LeftoverError c addr := by
  unfold Returns
  rw [writeBusDebug_apply]
  by_cases hwritable : (devices c).DebugWritable addr v
  · obtain ⟨t', gb', h, hstatus, -⟩ := @Gb.transportDbg_write (devices c)
      (debugPayload .write addr v c) rfl hwritable
    rw [h, ok_bind]
    dsimp only
    have herror : t'.responseStatus.isResponseError = true ↔ LeftoverError c addr := by
      rw [hstatus]
      unfold Gb.writeStatus LeftoverError
      by_cases hsilent : (devices c).Silent (debugPayload .write addr v c).address
      · rw [if_pos hsilent]
        exact (and_iff_right hsilent).symm
      · rw [if_neg hsilent]
        exact iff_of_false (by decide) fun h => hsilent h.1
    by_cases hleft : LeftoverError c addr
    · rw [if_pos (herror.mpr hleft)]
      refine iff_of_false ?_ fun h => h.2 hleft
      rintro ⟨u, c', h⟩
      cases h
    · rw [if_neg fun h => hleft (herror.mp h)]
      exact iff_of_true ⟨(), _, rfl⟩ ⟨hwritable, hleft⟩
  · refine iff_of_false ?_ fun h => hwritable h.1
    rintro ⟨u, c', h⟩
    obtain ⟨r, hr, h⟩ := StateExcept.except_bind_eq_ok h
    have hstatus := @Gb.transportDbg_not_writable (devices c) (debugPayload .write addr v c) rfl
      hwritable r hr
    rw [hstatus] at h
    cases h

variable {c}

/-- A write leaves no error behind and the gate of the external RAM as it was. -/
theorem writeBusDebug_ok {addr : U16} {v : U8} {u : Unit} {c' : Cpu (Linked (Timed Gb))}
    (h : (Cpu.writeBusDebug addr v : GdbM (Timed Gb) Unit) c = .ok (u, c')) :
    (devices c').cartridge.ramGate = (devices c).cartridge.ramGate ∧
      c'.initSocket.payload.responseStatus.isResponseError = false := by
  have hwritable := ((returns_writeBusDebug_iff c addr v).mp ⟨u, c', h⟩).1
  obtain ⟨t', gb', htrans, -, hgate⟩ := @Gb.transportDbg_write (devices c)
    (debugPayload .write addr v c) rfl hwritable
  rw [writeBusDebug_apply, htrans, ok_bind] at h
  dsimp only at h
  split at h
  · cases h
  · cases h
    exact ⟨hgate, Bool.eq_false_of_not_eq_true ‹_›⟩

variable (c)

/-- A round of the loop of `CmdWriteMem`. -/
def writeRound (addr dataStr : Str) (i : Nat) : GdbM (Timed Gb) Unit :=
  check (substr dataStr (i * 2) 2 >>= stoi16) >>= fun data =>
    Cpu.writeBusDebug ((BitVec.ofNat 32 (hexValue addr) + BitVec.ofNat 32 i).setWidth 16)
      (BitVec.ofInt 8 data)

/-- There is data for round `i`, and the bus carries out its write. -/
def RoundServed (addr dataStr : Str) (i : Nat) : Prop :=
  i * 2 < dataStr.length ∧ (devices c).DebugWritable (byteAddr addr i) (byteData dataStr i)

variable {addr dataStr : Str}

theorem writeRound_eq (hdata : HexDigits dataStr) {i : Nat} (hi : i * 2 < dataStr.length) :
    writeRound addr dataStr i = Cpu.writeBusDebug (byteAddr addr i) (byteData dataStr i) := by
  unfold writeRound
  rw [substr_stoi hdata hi (by decide) (by decide), ofNat_add_setWidth]
  rfl

theorem returns_writeRound_iff (hdata : HexDigits dataStr) (i : Nat) :
    Returns (writeRound addr dataStr i) c ↔
      RoundServed c addr dataStr i ∧ ¬ LeftoverError c (byteAddr addr i) := by
  unfold RoundServed
  by_cases hi : i * 2 < dataStr.length
  · rw [writeRound_eq hdata hi, returns_writeBusDebug_iff, and_iff_right hi]
  · refine iff_of_false ?_ fun h => hi h.1.1
    intro h
    obtain ⟨v, hv, -⟩ := returns_check_bind.mp h
    exact substr_stoi_error (Nat.not_lt.mp hi) hv

/-- The first write may find an error left over; the others find none. -/
theorem returns_writeLoop_iff (hdata : HexDigits dataStr) (is : List Nat) :
    Returns (is.forM (writeRound addr dataStr)) c ↔ (∀ i ∈ is, RoundServed c addr dataStr i) ∧
      ∀ i, is.head? = some i → ¬ LeftoverError c (byteAddr addr i) := by
  induction is generalizing c with
  | nil => exact iff_of_true ⟨_, c, rfl⟩ ⟨List.forall_mem_nil _, fun i h => by cases h⟩
  | cons i is ih =>
    have hcons : (i :: is).forM (writeRound addr dataStr) =
        writeRound addr dataStr i >>= fun _ => is.forM (writeRound addr dataStr) := rfl
    rw [hcons, returns_bind, List.forall_mem_cons]
    have hrest : ∀ u c', writeRound addr dataStr i c = .ok (u, c') →
        (Returns (is.forM (writeRound addr dataStr)) c' ↔
          ∀ j ∈ is, RoundServed c addr dataStr j) := by
      intro u c' hround
      have hserved := ((returns_writeRound_iff c hdata i).mp ⟨u, c', hround⟩).1
      rw [writeRound_eq hdata hserved.1] at hround
      obtain ⟨hgate, hstatus⟩ := writeBusDebug_ok hround
      have hclean : ∀ a, ¬ LeftoverError c' a := by
        rintro a ⟨-, herror⟩
        rw [hstatus] at herror
        cases herror
      rw [ih c', and_iff_left fun j _ => hclean _]
      exact forall₂_congr fun j _ => and_congr_right fun _ => Gb.debugWritable_congr hgate _ _
    constructor
    · rintro ⟨u, c', hround, hloop⟩
      obtain ⟨hserved, hclean⟩ := (returns_writeRound_iff c hdata i).mp ⟨u, c', hround⟩
      refine ⟨⟨hserved, (hrest u c' hround).mp hloop⟩, fun j hj => ?_⟩
      cases hj
      exact hclean
    · rintro ⟨⟨hserved, hloop⟩, hclean⟩
      obtain ⟨u, c', hround⟩ := (returns_writeRound_iff c hdata i).mpr ⟨hserved, hclean i rfl⟩
      exact ⟨u, c', hround, (hrest u c' hround).mpr hloop⟩

/-- What M needs: numbers that fit, data for every byte, and writes that the bus carries out. -/
def WriteServed (addr length dataStr : Str) : Prop :=
  hexValue addr < 2 ^ 31 ∧ hexValue length < 2 ^ 31 ∧
    hexValue length * 2 ≤ dataStr.length + 1 ∧
    (∀ i < hexValue length,
      (devices c).DebugWritable (byteAddr addr i) (byteData dataStr i)) ∧
    (0 < hexValue length → ¬ LeftoverError c (byteAddr addr 0))

theorem roundsServed_iff (n : Nat) : (∀ i < n, RoundServed c addr dataStr i) ↔
    n * 2 ≤ dataStr.length + 1 ∧
      ∀ i < n, (devices c).DebugWritable (byteAddr addr i) (byteData dataStr i) := by
  constructor
  · intro h
    refine ⟨?_, fun i hi => (h i hi).2⟩
    rcases Nat.eq_zero_or_pos n with rfl | hpos
    · omega
    · have hlast := (h (n - 1) (by omega)).1
      omega
  · rintro ⟨hlength, h⟩ i hi
    exact ⟨by omega, h i hi⟩

theorem returns_cmdWriteMem_iff {name length : Str} (haddr : HexDigits addr)
    (hlength : HexDigits length) (hdata : HexDigits dataStr) :
    Returns (cmdWriteMem [name, addr, length, dataStr]) c ↔
      WriteServed c addr length dataStr := by
  unfold cmdWriteMem WriteServed
  rw [returns_bind_of_ok (show (field [name, addr, length, dataStr] 1 : GdbM (Timed Gb) Str) c =
    .ok (addr, c) from rfl), returns_bind_of_ok (show (field [name, addr, length, dataStr] 2 :
    GdbM (Timed Gb) Str) c = .ok (length, c) from rfl), returns_bind_of_ok
    (show (field [name, addr, length, dataStr] 3 : GdbM (Timed Gb) Str) c = .ok (dataStr, c)
    from rfl), returns_stoi_bind haddr, returns_stoi_bind hlength]
  refine and_congr_right fun _ => and_congr_right fun hlt => ?_
  have hnat : (BitVec.ofNat 32 (hexValue length)).toNat = hexValue length :=
    Nat.mod_eq_of_lt (by omega)
  have hloop : Returns ((List.range (hexValue length)).forM (writeRound addr dataStr)) c ↔ _ :=
    returns_writeLoop_iff c hdata _
  simp only [List.mem_range] at hloop
  rw [roundsServed_iff, and_assoc] at hloop
  have hhead : (∀ i, (List.range (hexValue length)).head? = some i →
      ¬ LeftoverError c (byteAddr addr i)) ↔
      (0 < hexValue length → ¬ LeftoverError c (byteAddr addr 0)) := by
    cases hexValue length with
    | zero => simp
    | succ n => simp [List.range_succ_eq_map]
  rw [hhead] at hloop
  rw [hnat, returns_bind]
  refine Iff.trans ?_ hloop
  constructor
  · rintro ⟨u, c', h, -⟩
    exact ⟨u, c', h⟩
  · rintro ⟨u, c', h⟩
    exact ⟨u, c', h, returns_sendMsg kMsgOk c'⟩

end Memory

/-! ## Accepted packets -/

section Packets

variable (c : Cpu (Linked (Timed Gb)))

/-- What the handler of a message needs: an `int` after `z` and `Z`, 24 digits after G, numbers
    and bytes that can be read for m, and what M needs. -/
def Serves : List Str → Prop
  | [name, dataStr] => name = str "G" → 24 ≤ dataStr.length
  | [name, addr, length] => name = str "m" →
      hexValue addr < 2 ^ 31 ∧ hexValue length < 2 ^ 31 ∧
        ∀ i < hexValue length, byteAddr addr i ≠ 0xFF03
  | [name, x, y, z] => (name = str "z" ∨ name = str "Z" → hexValue y < 2 ^ 31) ∧
      (name = str "M" → WriteServed c x y z)
  | _ => True

/-- The handler of the message returns, and its answer has been sent. -/
def Completes (msgSplit : List Str) : Prop :=
  ∃ name fields cmd c' bytes, msgSplit = name :: fields ∧ cmdMap.lookup name = some cmd ∧
    cmd msgSplit c = .ok ((), c') ∧
    c'.initSocket.sys.sent = c.initSocket.sys.sent ++ bytes ∧ Answer name bytes

/-- A handler that returns has answered. -/
theorem completes_iff_returns {name : Str} {fields : List Str}
    {cmd : List Str → GdbM (Timed Gb) Unit} (hlookup : cmdMap.lookup name = some cmd) :
    Completes c (name :: fields) ↔ Returns (cmd (name :: fields)) c := by
  constructor
  · rintro ⟨name', fields', cmd', c', bytes, hsplit, hlookup', hrun, -⟩
    obtain ⟨rfl, rfl⟩ := List.cons.inj hsplit
    obtain rfl : cmd = cmd' := Option.some.inj (hlookup.symm.trans hlookup')
    exact ⟨(), c', hrun⟩
  · rintro ⟨u, c', hrun⟩
    obtain ⟨bytes, hsent, hanswer⟩ := cmdMap_answers _ (mem_cmdMap hlookup) _ c u c' hrun
    exact ⟨name, fields, cmd, c', bytes, rfl, hlookup, hrun, hsent, hanswer⟩

theorem serves_continue (fields : List Str) : Serves c (str "c" :: fields) := by
  have hname : str "c" ≠ str "G" ∧ str "c" ≠ str "m" ∧ str "c" ≠ str "M" ∧
      ¬ (str "c" = str "z" ∨ str "c" = str "Z") := by decide
  obtain _ | ⟨x, _ | ⟨y, _ | ⟨z, _ | ⟨w, rest⟩⟩⟩⟩ := fields
  · trivial
  · exact fun h => absurd h hname.1
  · exact fun h => absurd h hname.2.1
  · exact ⟨fun h => absurd h hname.2.2.2, fun h => absurd h hname.2.2.1⟩
  · trivial

/-- One case for each shape of a message. -/
theorem completes_of_isCommand {msgSplit : List Str} (h : IsCommand msgSplit) :
    Completes c msgSplit ↔ Serves c msgSplit := by
  cases h with
  | halted =>
    refine (@completes_iff_returns c _ _ cmdHalted rfl).trans ?_
    exact iff_of_true ⟨(), _, rfl⟩ trivial
  | detach =>
    refine (@completes_iff_returns c _ _ cmdDetach rfl).trans ?_
    exact iff_of_true ⟨(), _, rfl⟩ trivial
  | readReg =>
    refine (@completes_iff_returns c _ _ cmdReadReg rfl).trans ?_
    exact iff_of_true ⟨(), _, rfl⟩ trivial
  | continues fields =>
    refine (@completes_iff_returns c _ _ cmdContinue rfl).trans ?_
    exact iff_of_true ⟨(), _, rfl⟩ (serves_continue c fields)
  | writeReg hdata =>
    refine (@completes_iff_returns c _ _ cmdWriteReg rfl).trans ?_
    rw [returns_cmdWriteReg_iff c hdata]
    exact ⟨fun h _ => h, fun h => h rfl⟩
  | readMem haddr hlength =>
    refine (@completes_iff_returns c _ _ cmdReadMem rfl).trans ?_
    rw [returns_cmdReadMem_iff c haddr hlength]
    exact ⟨fun h _ => h, fun h => h rfl⟩
  | writeMem haddr hlength hdata =>
    refine (@completes_iff_returns c _ _ cmdWriteMem rfl).trans ?_
    rw [returns_cmdWriteMem_iff c haddr hlength hdata]
    have hname : ¬ (str "M" = str "z" ∨ str "M" = str "Z") := by decide
    exact ⟨fun h => ⟨fun hz => absurd hz hname, fun _ => h⟩, fun h => h.2 rfl⟩
  | breakpoint size hname hkind haddr =>
    have hM : str "z" ≠ str "M" ∧ str "Z" ≠ str "M" := by decide
    rcases hname with rfl | rfl
    · refine (@completes_iff_returns c _ _ cmdRemoveBp rfl).trans ?_
      refine (returns_cmdBp_iff c _ hkind haddr).trans ?_
      exact ⟨fun h => ⟨fun _ => h, fun hm => absurd hm hM.1⟩, fun h => h.1 (Or.inl rfl)⟩
    · refine (@completes_iff_returns c _ _ cmdInsertBp rfl).trans ?_
      refine (returns_cmdBp_iff c _ hkind haddr).trans ?_
      exact ⟨fun h => ⟨fun _ => h, fun hm => absurd hm hM.2⟩, fun h => h.1 (Or.inr rfl)⟩
  | attached =>
    refine (@completes_iff_returns c _ _ cmdAttached rfl).trans ?_
    exact iff_of_true ⟨(), _, rfl⟩ trivial
  | supported features =>
    refine (@completes_iff_returns c _ _ cmdSupported rfl).trans ?_
    have hname : str "qSupported" ≠ str "G" := by decide
    exact iff_of_true ⟨(), _, rfl⟩ fun h => absurd h hname

/-- The handler of an accepted packet completes and replies exactly if it gets what it needs. -/
theorem completes_iff {payload : Str} (h : splitMsg payload ≠ []) :
    Completes c (splitMsg payload) ↔ Serves c (splitMsg payload) :=
  completes_of_isCommand c (isCommand_splitMsg h)

end Packets

/-- A machine at power-on. -/
def resetCpu : Cpu (Linked (Timed Gb)) :=
  { initSocket :=
      { payload := {}
        gbcmd := .gbReadInst
        hasRomBank0 := true
        sys :=
          { tcpServer := { stream := [], segment := fun _ => ⟨1, fun _ => 0⟩ }
            sys := { now := 0, schedule := .once 10000 0, stopped := false,
                     dev := .powerOn .blank } } } }

theorem splitMsg_readMem : splitMsg (str "mc000,2") = [str "m", str "c000", str "2"] := by
  decide +kernel

/-- Two bytes of work RAM can be read. -/
theorem readMem_completes : splitMsg (str "mc000,2") ≠ [] ∧
    Completes resetCpu (splitMsg (str "mc000,2")) := by
  have hne : splitMsg (str "mc000,2") ≠ [] := by
    rw [splitMsg_readMem]
    decide
  refine ⟨hne, (completes_iff resetCpu hne).mpr ?_⟩
  rw [splitMsg_readMem]
  exact fun _ => ⟨by decide, by decide, by decide⟩

/-- `std::stoi` throws at the address 0x80000000 of a breakpoint. -/
theorem insertBp_fails : ¬ ∀ (payload : Str) (c : Cpu (Linked (Timed Gb))),
    splitMsg payload ≠ [] → Completes c (splitMsg payload) := by
  intro h
  have hsplit : splitMsg (str "Z0,80000000,1") =
      [str "Z", str "0", str "80000000", str "1"] := by decide +kernel
  have hrun := h (str "Z0,80000000,1") resetCpu (by rw [hsplit]; decide)
  rw [hsplit] at hrun
  obtain ⟨u, c', hrun⟩ := (@completes_iff_returns resetCpu _ _ cmdInsertBp rfl).mp hrun
  have hdigits : HexDigits (str "80000000") := ⟨by decide, by decide⟩
  have hlt := (returns_cmdBp_iff resetCpu _ (Or.inl rfl) hdigits).mp ⟨u, c', hrun⟩
  exact absurd hlt (by decide)

end GdbServer

end TlmBoy
