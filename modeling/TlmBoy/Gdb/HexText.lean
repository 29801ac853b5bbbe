import TlmBoy.Gdb.Answers
import TlmBoy.Gdb.Grammar

/-
  Bytes as hexadecimal text.

  The server writes every byte as two lower-case digits (`hexText`) and reads digits of either
  case. `lowerCase` takes the one to the other, and no value changes with it.
-/

namespace TlmBoy

/-- An upper-case letter as a lower-case one. -/
def lowerCase (c : U8) : U8 := if chr 'A' ≤ c ∧ c ≤ chr 'Z' then c + 0x20 else c

/-- Two lower-case digits for each byte. -/
def hexText (bytes : List U8) : Str := bytes.flatMap fun b => twoDigits b.toNat

theorem hexVal_lowerHex : ∀ d < 16, hexVal? (lowerHex d) = some d := by decide

theorem hexVal_lowerCase : ∀ c : U8, hexVal? (lowerCase c) = hexVal? c := by decide

/-- A digit in lower case is the one that is written. -/
theorem lowerCase_of_hexVal : ∀ c : U8, (hexVal? c).isSome = true →
    lowerCase c = lowerHex ((hexVal? c).getD 0) := by decide +kernel

theorem hexValue_lowerCase (s : Str) : hexValue (s.map lowerCase) = hexValue s := by
  unfold hexValue
  rw [List.foldl_map]
  simp only [hexVal_lowerCase]

theorem hexDigits_lowerCase {s : Str} : HexDigits (s.map lowerCase) ↔ HexDigits s := by
  unfold HexDigits
  simp [hexVal_lowerCase]

/-! ## The text of bytes -/

theorem length_hexText (bytes : List U8) : (hexText bytes).length = 2 * bytes.length := by
  induction bytes with
  | nil => rfl
  | cons b bytes ih =>
    show (twoDigits b.toNat ++ hexText bytes).length = _
    rw [List.length_append, ih, List.length_cons]
    show 2 + 2 * bytes.length = _
    omega

theorem hexText_ne_nil {bytes : List U8} (h : bytes ≠ []) : hexText bytes ≠ [] := by
  intro hnil
  have hlen := congrArg List.length hnil
  rw [length_hexText, List.length_nil] at hlen
  exact h (List.length_eq_zero_iff.mp (by omega))

theorem hexVal_of_mem_hexText {bytes : List U8} {c : U8} (h : c ∈ hexText bytes) :
    (hexVal? c).isSome = true := by
  obtain ⟨b, -, hc⟩ := List.mem_flatMap.mp h
  have hlt := b.isLt
  rcases List.mem_cons.mp hc with rfl | hc
  · rw [hexVal_lowerHex _ (by omega)]
    rfl
  · obtain rfl := List.mem_singleton.mp hc
    rw [hexVal_lowerHex _ (by omega)]
    rfl

theorem hexDigits_hexText {bytes : List U8} (h : bytes ≠ []) : HexDigits (hexText bytes) :=
  ⟨hexText_ne_nil h, fun _ hc => hexVal_of_mem_hexText hc⟩

theorem plainText_hexText (bytes : List U8) : PlainText (hexText bytes) := by
  have hplain : ∀ c : U8, (hexVal? c).isSome = true →
      c ≠ chr '$' ∧ c ≠ chr '#' ∧ c ≠ 0 := by decide
  exact fun c hc => hplain c (hexVal_of_mem_hexText hc)

theorem hexValue_twoDigits {n : Nat} (h : n < 256) : hexValue (twoDigits n) = n := by
  unfold hexValue twoDigits
  rw [List.foldl_cons, List.foldl_cons, List.foldl_nil, hexVal_lowerHex _ (by omega),
    hexVal_lowerHex _ (by omega)]
  show (0 * 16 + n / 16) * 16 + n % 16 = n
  omega

/-- The digits of some of the bytes. -/
theorem take_drop_hexText (bytes : List U8) (i n : Nat) :
    ((hexText bytes).drop (2 * i)).take (2 * n) = hexText ((bytes.drop i).take n) := by
  induction i generalizing bytes with
  | zero =>
    rw [Nat.mul_zero, List.drop_zero, List.drop_zero]
    induction n generalizing bytes with
    | zero => rfl
    | succ n ih =>
      cases bytes with
      | nil => rfl
      | cons b bytes => exact congrArg (twoDigits b.toNat ++ ·) (ih bytes)
  | succ i ih =>
    cases bytes with
    | nil => simp [hexText]
    | cons b bytes => exact ih bytes

/-- Digits in pairs are the text of bytes. -/
theorem exists_hexText {s : Str} (hs : ∀ c ∈ s, (hexVal? c).isSome = true) {n : Nat}
    (hn : s.length = 2 * n) : ∃ bytes : List U8, bytes.length = n ∧
      s.map lowerCase = hexText bytes := by
  induction n generalizing s with
  | zero =>
    obtain rfl := List.length_eq_zero_iff.mp hn
    exact ⟨[], rfl, rfl⟩
  | succ n ih =>
    obtain _ | ⟨x, _ | ⟨y, s⟩⟩ := s
    · simp at hn
    · rw [List.length_singleton] at hn
      omega
    · rw [List.length_cons, List.length_cons] at hn
      obtain ⟨bytes, hlen, htext⟩ := @ih s
        (fun c hc => hs c (List.mem_cons_of_mem x (List.mem_cons_of_mem y hc))) (by omega)
      have hx := hexVal_lt x
      have hy := hexVal_lt y
      refine ⟨BitVec.ofNat 8 ((hexVal? x).getD 0 * 16 + (hexVal? y).getD 0) :: bytes, ?_, ?_⟩
      · rw [List.length_cons, hlen]
      · have hdiv : ((hexVal? x).getD 0 * 16 + (hexVal? y).getD 0) / 16 = (hexVal? x).getD 0 := by
          omega
        have hmod : ((hexVal? x).getD 0 * 16 + (hexVal? y).getD 0) % 16 = (hexVal? y).getD 0 := by
          omega
        have hbyte : twoDigits (BitVec.ofNat 8 ((hexVal? x).getD 0 * 16 +
            (hexVal? y).getD 0)).toNat = [lowerCase x, lowerCase y] := by
          rw [BitVec.toNat_ofNat, Nat.mod_eq_of_lt (by omega), twoDigits, hdiv, hmod,
            lowerCase_of_hexVal x (hs x List.mem_cons_self),
            lowerCase_of_hexVal y (hs y (List.mem_cons_of_mem x List.mem_cons_self))]
        rw [List.map_cons, List.map_cons, htext]
        exact (congrArg (· ++ hexText bytes) hbyte).symm

/-- The value of consecutive digits is read in any case. -/
theorem hexValue_take_drop {s : Str} {bytes : List U8} (h : s.map lowerCase = hexText bytes)
    (pos count : Nat) :
    hexValue ((s.drop pos).take count) = hexValue (((hexText bytes).drop pos).take count) := by
  rw [← h, ← List.map_drop, ← List.map_take, hexValue_lowerCase]

end TlmBoy
