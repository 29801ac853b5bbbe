import TlmBoy.Cartridge.Basic
import TlmBoy.Lib.Hexadecimal
import TlmBoy.Lib.MaximalRuns

/-
  `SymfileTracer::DumpTrace`: the symbol file.

  The loop over the addresses of a bank is a scan for maximal runs, with the flag `in_access` and
  the address `start_adr` for the open run (`dumpBank_eq`). A run never reaches into the next bank,
  since the flag is a local of the outer loop's body. `symbols` is what the file says: one symbol
  for each maximal run. The text says which they are (`printSymbols_inj`), and they say which bytes
  were traced (`decode_symbols`).
-/

namespace TlmBoy

open MaximalRuns

/-! ## The loops -/

/-- `std::format("{:x}", len)` for an `i32`. -/
def fmtHexI32 (len : BitVec 32) : String :=
  if len.msb then "-" ++ fmtHex 0 (-len).toNat else fmtHex 0 len.toNat

/-- `PrintSymbol`, on a stream that holds `os`. -/
def printSymbol (os : String) (bank : Nat) (startAdr : U16) (len : BitVec 32) : String :=
  let startAdr := if bank ≠ 0 then startAdr + 0x4000 else startAdr
  let os := os ++ (fmtHex 2 bank ++ ":" ++ fmtHex 4 startAdr.toNat ++ " Data" ++ fmtHex 2 bank ++
    fmtHex 4 startAdr.toNat ++ "\n")
  os ++ (fmtHex 2 bank ++ ":" ++ fmtHex 4 startAdr.toNat ++ " .data:" ++ fmtHexI32 len ++ "\n")

namespace SymfileTracer

/-- `access_arr_[kBankSize * bank + adr]`. The loops stay inside the array. -/
def marked (t : SymfileTracer) (bank adr : Nat) : Bool :=
  if h : kBankSize * bank + adr < kMaxBanks * kBankSize then t.accessArr ⟨_, h⟩ else false

/-- The locals of the outer loop's body, and the stream. -/
structure DumpState where
  os : String
  inAccess : Bool := false
  startAdr : U16 := 0

/-- The body of the inner loop. `adr - start_adr` is computed in `size_t`. -/
def dumpStep (t : SymfileTracer) (bank : Nat) (s : DumpState) (adr : Nat) : DumpState :=
  if t.marked bank adr then
    if !s.inAccess then { s with inAccess := true, startAdr := BitVec.ofNat 16 adr } else s
  else
    if s.inAccess then
      let len := (BitVec.ofNat 64 adr - s.startAdr.setWidth 64).setWidth 32
      { s with inAccess := false, os := printSymbol s.os bank s.startAdr len }
    else s

/-- The body of the outer loop. -/
def dumpBank (t : SymfileTracer) (os : String) (bank : Nat) : String :=
  let s := (List.range kBankSize).foldl (t.dumpStep bank) { os }
  if s.inAccess then printSymbol s.os bank s.startAdr (0x4000 - s.startAdr.setWidth 32) else s.os

/-- `DumpTrace`, into a stream that holds `os`. -/
def dumpTrace (t : SymfileTracer) (os : String) : String :=
  (List.range kMaxBanks).foldl t.dumpBank os

end SymfileTracer

/-! ## The symbols -/

/-- An entry of the file: `len` bytes of data at `adr` of the bank, as the CPU sees it. -/
structure DataSymbol where
  bank : Nat
  adr : Nat
  len : Nat
deriving DecidableEq, Repr

namespace DataSymbol

/-- The two lines of an entry. -/
def text (e : DataSymbol) : String :=
  (fmtHex 2 e.bank ++ ":" ++ fmtHex 4 e.adr ++ " Data" ++ fmtHex 2 e.bank ++ fmtHex 4 e.adr ++
    "\n") ++
  (fmtHex 2 e.bank ++ ":" ++ fmtHex 4 e.adr ++ " .data:" ++ fmtHex 0 e.len ++ "\n")

/-- Where a bank other than bank 0 is switched in. -/
def windowStart (bank : Nat) : Nat := if bank = 0 then 0 else 0x4000

/-- The symbol of a run of bank `bank`. -/
def ofRun (bank : Nat) (r : Run) : DataSymbol := ⟨bank, windowStart bank + r.start, r.len⟩

/-- The file names address `adr` of bank `bank`. -/
def Names (e : DataSymbol) (bank adr : Nat) : Prop :=
  e.bank = bank ∧ e.adr ≤ windowStart bank + adr ∧ windowStart bank + adr < e.adr + e.len

instance (e : DataSymbol) (bank adr : Nat) : Decidable (e.Names bank adr) := by
  unfold Names
  infer_instance

/-- Of two symbols in order, the earlier bank comes first, and in one bank the earlier address. -/
def Before (e e' : DataSymbol) : Prop :=
  e.bank < e'.bank ∨ e.bank = e'.bank ∧ e.adr + e.len < e'.adr

end DataSymbol

/-- The file of a list of symbols. -/
def printSymbols (os : String) (es : List DataSymbol) : String :=
  es.foldl (fun os e => os ++ e.text) os

@[simp] theorem printSymbols_append (os : String) (es es' : List DataSymbol) :
    printSymbols os (es ++ es') = printSymbols (printSymbols os es) es' :=
  List.foldl_append

/-- `PrintSymbol` prints the symbol of a run. -/
theorem printSymbol_ofRun (os : String) (bank : Nat) {startAdr : U16} {len : BitVec 32} {r : Run}
    (hstart : startAdr.toNat = r.start) (hlen : len.toNat = r.len) (hlow : r.start < 0x4000)
    (hshort : r.len ≤ 0x4000) :
    printSymbol os bank startAdr len = os ++ (DataSymbol.ofRun bank r).text := by
  have hnonneg : fmtHexI32 len = fmtHex 0 r.len := by
    have hmsb : len.msb = false := by
      rw [BitVec.msb_eq_false_iff_two_mul_lt, hlen]
      omega
    rw [fmtHexI32, hmsb, hlen]
    rfl
  have hadr : (if bank ≠ 0 then startAdr + 0x4000 else startAdr).toNat =
      DataSymbol.windowStart bank + r.start := by
    unfold DataSymbol.windowStart
    by_cases hbank : bank = 0
    · rw [if_neg (by simp [hbank]), if_pos hbank, hstart, Nat.zero_add]
    · rw [if_pos hbank, if_neg hbank]
      bv_omega
  unfold printSymbol DataSymbol.text DataSymbol.ofRun
  dsimp only
  rw [hnonneg, hadr, String.append_assoc]

example : printSymbol "" 1 0xF 10 = "01:400f Data01400f\n01:400f .data:a\n" := by decide

namespace SymfileTracer

/-- The loop's state is that of the scan. -/
structure Tracks (os : String) (bank : Nat) (s : DumpState) (scanned : Scan) : Prop where
  printed : s.os = printSymbols os (scanned.done.map (DataSymbol.ofRun bank))
  closed : scanned.opened = none → s.inAccess = false
  opened : ∀ a, scanned.opened = some a → s.inAccess = true ∧ s.startAdr.toNat = a

/-- One round of the inner loop is one step of the scan. -/
theorem tracks_step {t : SymfileTracer} {os : String} {bank : Nat} {s : DumpState}
    {scanned : Scan} {adr : Nat} (hadr : adr < kBankSize)
    (hfound : Found (t.marked bank) adr scanned) (h : Tracks os bank s scanned) :
    Tracks os bank (t.dumpStep bank s adr) (scanned.step (t.marked bank) adr) := by
  obtain ⟨done, opened⟩ := scanned
  unfold kBankSize at hadr
  cases hmark : t.marked bank adr with
  | true =>
    cases opened with
    | none =>
      have hdump : t.dumpStep bank s adr =
          { s with inAccess := true, startAdr := BitVec.ofNat 16 adr } := by
        simp [dumpStep, hmark, h.closed rfl]
      rw [Scan.step_starts hmark, hdump]
      refine ⟨h.printed, fun hnone => absurd hnone (by simp), fun a ha => ⟨rfl, ?_⟩⟩
      rw [← Option.some.inj ha, BitVec.toNat_ofNat]
      omega
    | some a =>
      have hdump : t.dumpStep bank s adr = s := by
        simp [dumpStep, hmark, (h.opened a rfl).1]
      rw [Scan.step_grows hmark, hdump]
      exact h
  | false =>
    cases opened with
    | none =>
      have hdump : t.dumpStep bank s adr = s := by
        simp [dumpStep, hmark, h.closed rfl]
      rw [Scan.step_skips hmark, hdump]
      exact h
    | some a =>
      obtain ⟨haccess, hstart⟩ := h.opened a rfl
      have hstarted := (hfound.isOpen a rfl).started
      have hdump : t.dumpStep bank s adr = { s with
          inAccess := false
          os := printSymbol s.os bank s.startAdr
            ((BitVec.ofNat 64 adr - s.startAdr.setWidth 64).setWidth 32) } := by
        simp [dumpStep, hmark, haccess]
      have hlen : ((BitVec.ofNat 64 adr - s.startAdr.setWidth 64).setWidth 32).toNat =
          adr - a := by
        bv_omega
      rw [Scan.step_closes hmark, hdump]
      refine ⟨?_, fun _ => rfl, fun b hb => absurd hb (by simp)⟩
      dsimp only
      rw [@printSymbol_ofRun _ _ _ _ ⟨a, adr - a⟩ hstart hlen (by show a < 0x4000; omega)
        (by show adr - a ≤ 0x4000; omega), h.printed, List.map_append, printSymbols_append]
      rfl

/-- The inner loop up to address `n`. -/
theorem tracks_scan (t : SymfileTracer) (os : String) (bank : Nat) {n : Nat} (hn : n ≤ kBankSize) :
    Tracks os bank ((List.range n).foldl (t.dumpStep bank) { os }) (scan (t.marked bank) n) := by
  induction n with
  | zero => exact ⟨rfl, fun _ => rfl, fun a ha => absurd ha (by simp [scan])⟩
  | succ n ih =>
    rw [List.range_succ, List.foldl_append, scan_succ]
    exact tracks_step hn (found_scan _ n) (ih (by omega))

/-- The symbols of a bank. -/
def bankSymbols (t : SymfileTracer) (bank : Nat) : List DataSymbol :=
  (maximalRuns (t.marked bank) kBankSize).map (DataSymbol.ofRun bank)

theorem dumpBank_eq (t : SymfileTracer) (os : String) (bank : Nat) :
    t.dumpBank os bank = printSymbols os (t.bankSymbols bank) := by
  have htracks := t.tracks_scan os bank (Nat.le_refl kBankSize)
  unfold dumpBank bankSymbols maximalRuns Scan.closeAt
  cases hopened : (scan (t.marked bank) kBankSize).opened with
  | none =>
    simp only [htracks.closed hopened, Bool.false_eq_true, if_false]
    exact htracks.printed
  | some a =>
    obtain ⟨haccess, hstart⟩ := htracks.opened a hopened
    have hstarted := ((found_scan (t.marked bank) kBankSize).isOpen a hopened).started
    simp only [haccess, if_true]
    unfold kBankSize at hstarted hstart ⊢
    rw [@printSymbol_ofRun _ _ _ _ ⟨a, 0x4000 - a⟩ hstart (by bv_omega) hstarted
      (by show 0x4000 - a ≤ 0x4000; omega)]
    have hprinted := htracks.printed
    unfold kBankSize at hprinted
    rw [hprinted, List.map_append, printSymbols_append]
    rfl

/-- The symbols of all banks. -/
def symbols (t : SymfileTracer) : List DataSymbol := (List.range kMaxBanks).flatMap t.bankSymbols

theorem dumpTrace_eq (t : SymfileTracer) (os : String) :
    t.dumpTrace os = printSymbols os t.symbols := by
  unfold dumpTrace symbols
  induction List.range kMaxBanks generalizing os with
  | nil => rfl
  | cons bank banks ih =>
    rw [List.foldl_cons, ih, List.flatMap_cons, printSymbols_append, dumpBank_eq]

/-! ## What the symbols say -/

theorem mem_symbols {t : SymfileTracer} {e : DataSymbol} : e ∈ t.symbols ↔
    ∃ bank < kMaxBanks, ∃ r, IsMaximal (t.marked bank) kBankSize r ∧ e = .ofRun bank r := by
  unfold symbols bankSymbols
  simp only [List.mem_flatMap, List.mem_range, List.mem_map, mem_maximalRuns]
  constructor
  · rintro ⟨bank, hbank, r, hr, he⟩
    exact ⟨bank, hbank, r, hr, he.symm⟩
  · rintro ⟨bank, hbank, r, hr, he⟩
    exact ⟨bank, hbank, r, hr, he.symm⟩

/-- The banks increase, and the addresses in each. -/
theorem symbols_before (t : SymfileTracer) : t.symbols.Pairwise DataSymbol.Before := by
  unfold symbols
  refine List.pairwise_flatMap.mpr ⟨fun bank _ => ?_, ?_⟩
  · refine List.pairwise_map.mpr ((maximalRuns_apart _ _).imp fun {r r'} hapart => Or.inr ⟨rfl, ?_⟩)
    unfold Run.Apart Run.stop at hapart
    unfold DataSymbol.ofRun
    dsimp only
    omega
  · refine List.pairwise_lt_range.imp fun {bank bank'} hlt e he e' he' => Or.inl ?_
    obtain ⟨r, -, rfl⟩ := List.mem_map.mp he
    obtain ⟨r', -, rfl⟩ := List.mem_map.mp he'
    exact hlt

/-- A bank's addresses are those that its runs cover. -/
theorem names_iff {t : SymfileTracer} {bank adr : Nat} (hadr : adr < kBankSize) :
    (∃ e ∈ t.symbols, e.Names bank adr) ↔ t.marked bank adr = true := by
  constructor
  · rintro ⟨e, he, hnames⟩
    obtain ⟨b, -, r, hr, rfl⟩ := mem_symbols.mp he
    obtain ⟨hbank, hlo, hhi⟩ := hnames
    unfold DataSymbol.ofRun at hbank hlo hhi
    dsimp only at hbank hlo hhi
    subst hbank
    refine hr.marked adr ⟨by omega, ?_⟩
    unfold Run.stop
    omega
  · intro hmark
    obtain ⟨r, hr, hcov⟩ := exists_covers hadr hmark
    have hbank : bank < kMaxBanks := by
      by_contra hge
      have hout : ¬ kBankSize * bank + adr < kMaxBanks * kBankSize := by
        unfold kMaxBanks kBankSize at *
        omega
      rw [marked, dif_neg hout] at hmark
      exact absurd hmark (by simp)
    refine ⟨.ofRun bank r, mem_symbols.mpr ⟨bank, hbank, r, mem_maximalRuns.mp hr, rfl⟩, rfl, ?_⟩
    unfold Run.Covers Run.stop at hcov
    unfold DataSymbol.ofRun
    dsimp only
    omega

/-- The bitmap that a list of symbols describes. -/
def decode (es : List DataSymbol) : SymfileTracer :=
  ⟨fun k => es.any fun e => decide (e.Names (k.val / kBankSize) (k.val % kBankSize))⟩

theorem decode_symbols (t : SymfileTracer) : decode t.symbols = t := by
  obtain ⟨arr⟩ := t
  refine congrArg SymfileTracer.mk (funext fun k => Bool.eq_iff_iff.mpr ?_)
  have hk := Nat.div_add_mod k.val kBankSize
  have hmarked : marked ⟨arr⟩ (k.val / kBankSize) (k.val % kBankSize) = arr k := by
    unfold marked
    rw [dif_pos (by rw [hk]; exact k.isLt)]
    exact congrArg arr (Fin.ext hk)
  rw [← hmarked, ← names_iff (Nat.mod_lt _ (by decide))]
  simp [List.any_eq_true]

end SymfileTracer

/-! ## The text -/

theorem value_fmtHex (width n : Nat) : Hexadecimal.value (fmtHex width n).toList = n := by
  unfold fmtHex
  dsimp only
  rw [String.toList_ofList, Hexadecimal.value_zeros_append, Hexadecimal.value_toDigits]

theorem fmtHex_inj {width n n' : Nat} (h : (fmtHex width n).toList = (fmtHex width n').toList) :
    n = n' := by
  rw [← value_fmtHex width n, h, value_fmtHex]

/-- A separator of the fields is no digit. -/
theorem notMem_fmtHex {sep : Char} (hsep : ∀ d < 16, Nat.digitChar d ≠ sep) (width n : Nat) :
    sep ∉ (fmtHex width n).toList := by
  intro hmem
  unfold fmtHex at hmem
  dsimp only at hmem
  rw [String.toList_ofList] at hmem
  rcases List.mem_append.mp hmem with hzero | hdigit
  · exact hsep 0 (by decide) (List.eq_of_mem_replicate hzero).symm
  · obtain ⟨d, hd, heq⟩ := Hexadecimal.mem_toDigits n sep hdigit
    exact hsep d hd heq.symm

namespace DataSymbol

/-- What follows the address of an entry, up to its length. -/
def middle (e : DataSymbol) : List Char :=
  ("Data" ++ fmtHex 2 e.bank ++ fmtHex 4 e.adr ++ "\n" ++ fmtHex 2 e.bank ++ ":" ++
    fmtHex 4 e.adr ++ " .data:").toList

theorem text_toList (e : DataSymbol) (rest : List Char) : e.text.toList ++ rest =
    (fmtHex 2 e.bank).toList ++ ':' :: ((fmtHex 4 e.adr).toList ++ ' ' :: (e.middle ++
      ((fmtHex 0 e.len).toList ++ '\n' :: rest))) := by
  unfold text middle
  simp [String.toList_append]

/-- The text of an entry says which it is and where it ends. -/
theorem text_inj {e e' : DataSymbol} {rest rest' : List Char}
    (h : e.text.toList ++ rest = e'.text.toList ++ rest') : e = e' ∧ rest = rest' := by
  rw [text_toList, text_toList] at h
  obtain ⟨hbank, h⟩ := Hexadecimal.field_inj (notMem_fmtHex (by decide) _ _)
    (notMem_fmtHex (by decide) _ _) h
  obtain ⟨hadr, h⟩ := Hexadecimal.field_inj (notMem_fmtHex (by decide) _ _)
    (notMem_fmtHex (by decide) _ _) h
  obtain ⟨bank, adr, len⟩ := e
  obtain ⟨bank', adr', len'⟩ := e'
  obtain rfl := fmtHex_inj hbank
  obtain rfl := fmtHex_inj hadr
  have hlen := List.append_cancel_left h
  obtain ⟨hlen, hrest⟩ := Hexadecimal.field_inj (notMem_fmtHex (by decide) _ _)
    (notMem_fmtHex (by decide) _ _) hlen
  obtain rfl := fmtHex_inj hlen
  exact ⟨rfl, hrest⟩

theorem text_ne_nil (e : DataSymbol) : e.text.toList ≠ [] := by
  intro hnil
  have h := e.text_toList []
  rw [hnil] at h
  simp at h

end DataSymbol

theorem printSymbols_toList (os : String) (es : List DataSymbol) :
    (printSymbols os es).toList = os.toList ++ es.flatMap fun e => e.text.toList := by
  induction es generalizing os with
  | nil => simp [printSymbols]
  | cons e es ih =>
    have hcons : printSymbols os (e :: es) = printSymbols (os ++ e.text) es := rfl
    rw [hcons, ih, String.toList_append, List.flatMap_cons, List.append_assoc]

/-- The file says which symbols it was printed from. -/
theorem printSymbols_inj {os : String} {es es' : List DataSymbol}
    (h : printSymbols os es = printSymbols os es') : es = es' := by
  have htext := congrArg String.toList h
  rw [printSymbols_toList, printSymbols_toList] at htext
  have hflat := List.append_cancel_left htext
  clear h htext
  induction es generalizing es' with
  | nil =>
    cases es' with
    | nil => rfl
    | cons e' es' =>
      have hnil := (List.append_eq_nil_iff.mp hflat.symm).1
      exact absurd hnil e'.text_ne_nil
  | cons e es ih =>
    cases es' with
    | nil =>
      have hnil := (List.append_eq_nil_iff.mp hflat).1
      exact absurd hnil e.text_ne_nil
    | cons e' es' =>
      obtain ⟨rfl, hrest⟩ := DataSymbol.text_inj hflat
      rw [ih hrest]

/-- `DumpTrace` prints the maximal runs of each bank in order, each once, and nothing else. The
    text says what was printed, and that says what was traced. -/
theorem SymfileTracer.dumpTrace_symbols (t : SymfileTracer) (os : String) :
    t.dumpTrace os = printSymbols os t.symbols ∧
    (∀ e, e ∈ t.symbols ↔
      ∃ bank < kMaxBanks, ∃ r, IsMaximal (t.marked bank) kBankSize r ∧ e = .ofRun bank r) ∧
    t.symbols.Pairwise DataSymbol.Before ∧
    (∀ es, t.dumpTrace os = printSymbols os es → es = t.symbols) ∧
    decode t.symbols = t := by
  refine ⟨t.dumpTrace_eq os, fun _ => mem_symbols, t.symbols_before, fun es hes => ?_,
    t.decode_symbols⟩
  rw [t.dumpTrace_eq] at hes
  exact (printSymbols_inj hes).symm

end TlmBoy
