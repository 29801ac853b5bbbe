import TlmBoy.Gdb.Commands
import TlmBoy.Lib.CharClass

/-
  What `SplitMsg` accepts.

  `Message s fields` says that the text `s` is one of the commands, written with these fields.
  `splitMsg_eq_iff`: the regular expression matches exactly these texts, and the groups that are
  not empty are the fields. A text has one reading only, since no name of a command begins another
  one and the fields are what stands between its delimiters (`Message.fields_eq`).

  The regular expression bounds neither the number of digits nor relates one field to another.
  `stoi16_hex` says what `std::stoi` makes of a field of hexadecimal digits: their value, if it
  fits into an `int`.
-/

namespace TlmBoy

/-- At least one hexadecimal digit, and nothing else. -/
def HexDigits (s : Str) : Prop := s ≠ [] ∧ ∀ c ∈ s, (hexVal? c).isSome = true

def IsDigit (c : U8) : Prop := chr '0' ≤ c ∧ c ≤ chr '9'

/-- A character of a feature's name. -/
def IsNameChar (c : U8) : Prop :=
  (chr 'a' ≤ c ∧ c ≤ chr 'z') ∨ (chr 'A' ≤ c ∧ c ≤ chr 'Z') ∨ c = chr '-'

/-! ## Regular expressions -/

namespace RegexPart

open CharClass

/-- `s` is made of one match of each part, and `groups` are the captured ones. -/
def Splits : List RegexPart → Str → List Str → Prop
  | [], s, groups => s = [] ∧ groups = []
  | part :: parts, s, groups => ∃ t u rest, s = t ++ u ∧ part.regex.rmatch t = true ∧
      Splits parts u rest ∧ groups = part.captured t ++ rest

theorem splits_of_regexMatch {parts : List RegexPart} {s : Str} {groups : List Str}
    (h : regexMatch parts s = some groups) : Splits parts s groups := by
  induction parts generalizing s groups with
  | nil =>
    unfold regexMatch at h
    split at h
    · cases h
      exact ⟨‹_›, rfl⟩
    · cases h
  | cons part parts ih =>
    obtain ⟨n, -, hn⟩ := List.exists_of_findSome?_eq_some h
    split at hn
    · obtain ⟨rest, hrest, rfl⟩ := Option.map_eq_some_iff.mp hn
      exact ⟨s.take n, s.drop n, rest, (List.take_append_drop n s).symm, ‹_›, ih hrest, rfl⟩
    · cases hn

/-- Where there is a match, one is found. -/
theorem exists_regexMatch {parts : List RegexPart} {s : Str} {groups : List Str}
    (h : Splits parts s groups) : ∃ groups', regexMatch parts s = some groups' := by
  induction parts generalizing s groups with
  | nil =>
    obtain ⟨rfl, -⟩ := h
    exact ⟨[], rfl⟩
  | cons part parts ih =>
    obtain ⟨t, u, rest, rfl, ht, hu, -⟩ := h
    obtain ⟨groups', hgroups'⟩ := ih hu
    refine Option.isSome_iff_exists.mp (List.findSome?_isSome_iff.mpr ⟨t.length, ?_, ?_⟩)
    · rw [List.mem_reverse, List.mem_range, List.length_append]
      omega
    · rw [List.take_left, List.drop_left, if_pos ht, hgroups']
      rfl

theorem exists_splits {part : RegexPart} {parts : List RegexPart} {t u : Str}
    (ht : part.regex.rmatch t = true) (hu : ∃ rest, Splits parts u rest) :
    ∃ groups, Splits (part :: parts) (t ++ u) groups := by
  obtain ⟨rest, hu⟩ := hu
  exact ⟨_, t, u, rest, rfl, ht, hu, rfl⟩

theorem exists_splits_last {part : RegexPart} {t : Str} (ht : part.regex.rmatch t = true) :
    ∃ groups, Splits [part] t groups :=
  ⟨_, t, [], [], (List.append_nil t).symm, ht, ⟨rfl, rfl⟩, rfl⟩

/-! ## The parts -/

theorem rmatch_word (text : String) (s : Str) : (word text).rmatch s = true ↔ s = str text :=
  rmatch_literal (str text) s

theorem isClass_range {lo hi : Char} (hhi : hi.toNat < 256) :
    IsClass (range lo hi) fun c => lo.toNat ≤ c.toNat ∧ c.toNat ≤ hi.toNat := by
  have hmap : ∀ ns : List Nat, ns.map (fun n => RegularExpression.char (BitVec.ofNat 8 n)) =
      (ns.map (BitVec.ofNat 8)).map RegularExpression.char := fun ns => by rw [List.map_map]; rfl
  unfold range
  rw [hmap]
  refine (IsClass.ofList _).congr fun c => ?_
  rw [List.mem_map]
  constructor
  · rintro ⟨n, hn, rfl⟩
    have hbounds := List.mem_range'_1.mp hn
    rw [BitVec.toNat_ofNat, Nat.mod_eq_of_lt (by omega)]
    omega
  · rintro ⟨hlo, hle⟩
    refine ⟨c.toNat, List.mem_range'_1.mpr (by omega), ?_⟩
    rw [BitVec.ofNat_toNat, BitVec.setWidth_eq]

theorem isClass_digit : IsClass digit IsDigit :=
  (isClass_range (by decide)).congr fun _ => Iff.rfl

theorem rmatch_names (s : Str) :
    (word "z" + word "Z").rmatch s = true ↔ s = str "z" ∨ s = str "Z" := by
  rw [RegularExpression.add_rmatch_iff, rmatch_word, rmatch_word]

theorem rmatch_kind (s : Str) :
    (range '0' '1').rmatch s = true ↔ s = str "0" ∨ s = str "1" := by
  have htwo : ∀ c : U8, 48 ≤ c.toNat ∧ c.toNat ≤ 49 ↔ c = chr '0' ∨ c = chr '1' := by decide
  have hclass : IsClass (range '0' '1') fun c => c = chr '0' ∨ c = chr '1' :=
    (isClass_range (by decide)).congr htwo
  rw [hclass]
  constructor
  · rintro ⟨c, rfl | rfl, rfl⟩
    · exact .inl rfl
    · exact .inr rfl
  · rintro (rfl | rfl)
    · exact ⟨_, .inl rfl, rfl⟩
    · exact ⟨_, .inr rfl, rfl⟩

theorem isClass_hexDigit : IsClass hexDigit fun c => (hexVal? c).isSome = true := by
  have hranges : ∀ c : U8, ((48 ≤ c.toNat ∧ c.toNat ≤ 57) ∨ (65 ≤ c.toNat ∧ c.toNat ≤ 70)) ∨
      (97 ≤ c.toNat ∧ c.toNat ≤ 102) ↔ (hexVal? c).isSome = true := by decide
  exact (((isClass_range (by decide)).add (isClass_range (by decide))).add
    (isClass_range (by decide))).congr hranges

theorem rmatch_hexDigits (s : Str) : (many1 hexDigit).rmatch s = true ↔ HexDigits s :=
  isClass_hexDigit.many1 s

theorem isClass_nameChar :
    IsClass (range 'a' 'z' + range 'A' 'Z' + word "-") IsNameChar := by
  have hword : IsClass (word "-") fun c => c = chr '-' := by
    intro s
    rw [rmatch_word]
    exact ⟨fun h => ⟨_, rfl, h⟩, fun ⟨c, hc, hs⟩ => hs.trans (by rw [hc]; rfl)⟩
  exact (((isClass_range (by decide)).add (isClass_range (by decide))).add hword).congr
    fun _ => or_assoc

end RegexPart

/-- A feature of `qSupported`: a name, and behind it perhaps a '+' and a ';'. -/
def IsFeature (s : Str) : Prop :=
  ∃ name plus semicolon, s = name ++ plus ++ semicolon ∧ (name ≠ [] ∧ ∀ c ∈ name, IsNameChar c) ∧
    (plus = str "+" ∨ plus = []) ∧ (semicolon = str ";" ∨ semicolon = [])

/-- One or more features. -/
def Features (s : Str) : Prop :=
  ∃ features, features ≠ [] ∧ s = List.flatten features ∧ ∀ feature ∈ features, IsFeature feature

namespace RegexPart

open CharClass

theorem rmatch_feature (s : Str) : feature.rmatch s = true ↔ IsFeature s := by
  unfold feature IsFeature
  rw [RegularExpression.mul_rmatch_iff]
  constructor
  · rintro ⟨t, semicolon, rfl, ht, hsemicolon⟩
    obtain ⟨name, plus, rfl, hname, hplus⟩ := (RegularExpression.mul_rmatch_iff _ _ t).mp ht
    refine ⟨name, plus, semicolon, rfl, (isClass_nameChar.many1 name).mp hname, ?_, ?_⟩
    · rw [← rmatch_word]
      exact (rmatch_optional _ _).mp hplus
    · rw [← rmatch_word]
      exact (rmatch_optional _ _).mp hsemicolon
  · rintro ⟨name, plus, semicolon, rfl, hname, hplus, hsemicolon⟩
    rw [← rmatch_word] at hplus hsemicolon
    refine ⟨name ++ plus, semicolon, rfl, (RegularExpression.mul_rmatch_iff _ _ _).mpr
      ⟨name, plus, rfl, (isClass_nameChar.many1 name).mpr hname, ?_⟩, ?_⟩
    · exact (rmatch_optional _ _).mpr hplus
    · exact (rmatch_optional _ _).mpr hsemicolon

theorem isFeature_ne_nil {s : Str} (h : IsFeature s) : s ≠ [] := by
  obtain ⟨name, plus, semicolon, rfl, ⟨hne, -⟩, -⟩ := h
  exact List.append_ne_nil_of_left_ne_nil (List.append_ne_nil_of_left_ne_nil hne plus) semicolon

theorem rmatch_features (s : Str) : (many1 feature).rmatch s = true ↔ Features s := by
  have hnil : feature.rmatch [] ≠ true := fun h => isFeature_ne_nil ((rmatch_feature []).mp h) rfl
  unfold many1 Features
  rw [rmatch_many1 hnil]
  refine exists_congr fun words => and_congr_right fun _ => and_congr_right fun _ => ?_
  exact forall₂_congr fun w _ => rmatch_feature w

end RegexPart

theorem Features.ne_nil {s : Str} (h : Features s) : s ≠ [] := by
  obtain ⟨features, hne, rfl, hall⟩ := h
  obtain ⟨feature, features, rfl⟩ := List.exists_cons_of_ne_nil hne
  exact List.append_ne_nil_of_left_ne_nil
    (RegexPart.isFeature_ne_nil (hall feature List.mem_cons_self)) _

/-! ## Numbers -/

/-- The number that hexadecimal digits stand for. -/
def hexValue (s : Str) : Nat := s.foldl (fun acc c => acc * 16 + (hexVal? c).getD 0) 0

/-- A hexadecimal digit is no space, no sign and no `x`. -/
theorem hexVal_isSome : ∀ c : U8, (hexVal? c).isSome = true →
    isSpace c = false ∧ c ≠ chr '-' ∧ c ≠ chr '+' ∧ c ≠ chr 'x' ∧ c ≠ chr 'X' := by decide

theorem hexVal_lt (c : U8) : (hexVal? c).getD 0 < 16 := by
  revert c
  decide

theorem lt_of_hexVal {c : U8} {d : Nat} (h : hexVal? c = some d) : d < 16 := by
  have hlt := hexVal_lt c
  rwa [h] at hlt

theorem skipHexPrefix_of_hex {s : Str} (h : ∀ c ∈ s, (hexVal? c).isSome = true) :
    skipHexPrefix s = s := by
  unfold skipHexPrefix
  split
  · rename_i zero x d rest
    have hx := hexVal_isSome x (h x (by simp))
    rw [if_neg]
    rintro ⟨-, hprefix | hprefix, -⟩
    · exact hx.2.2.2.1 hprefix
    · exact hx.2.2.2.2 hprefix
  · rfl

theorem leadingHex_of_hex {s : Str} (h : HexDigits s) : leadingHex s = some (hexValue s) := by
  have hall : (s.map hexVal?).takeWhile Option.isSome = s.map hexVal? := by
    refine List.takeWhile_eq_self_iff.mpr fun d hd => ?_
    obtain ⟨c, hc, rfl⟩ := List.mem_map.mp hd
    exact h.2 c hc
  unfold leadingHex hexValue
  dsimp only
  rw [hall, if_neg (by simpa using h.1), List.foldl_map]

/-- `std::stoi` of hexadecimal digits throws exactly if their value does not fit into an
    `int`. -/
theorem stoi16_hex {s : Str} (h : HexDigits s) :
    stoi16 s = if hexValue s < 2 ^ 31 then .ok (hexValue s : Int)
      else .error (.outOfRange "stoi") := by
  have hleading := leadingHex_of_hex h
  have hskip := skipHexPrefix_of_hex h.2
  obtain ⟨c, rest, rfl⟩ := List.exists_cons_of_ne_nil h.1
  obtain ⟨hspace, hminus, hplus, -, -⟩ := hexVal_isSome c (h.2 c List.mem_cons_self)
  have hdrop : (c :: rest).dropWhile isSpace = c :: rest :=
    List.dropWhile_cons_of_neg (by rw [hspace]; exact Bool.false_ne_true)
  have hneg : ¬ (c :: rest).head? = some (chr '-') := fun heq => hminus (Option.some.inj heq)
  have hpos : ¬ (c :: rest).head? = some (chr '+') := fun heq => hplus (Option.some.inj heq)
  unfold stoi16
  dsimp only
  rw [hdrop, if_neg (not_or.mpr ⟨hneg, hpos⟩), hskip, hleading]
  dsimp only
  rw [if_neg hneg]
  by_cases hlt : hexValue (c :: rest) < 2 ^ 31
  · rw [if_pos hlt, if_neg (by omega)]
    rfl
  · rw [if_neg hlt, if_pos (by omega)]
    rfl

/-! ## The accepted messages -/

namespace GdbServer

/-- The commands as texts, with their fields. -/
inductive Message : Str → List Str → Prop
  | halted : Message (str "?") [str "?"]
  | detach : Message (str "D") [str "D"]
  | readReg : Message (str "g") [str "g"]
  | continues {digits : Str} : (∀ c ∈ digits, IsDigit c) →
      Message (str "c" ++ digits) (if digits = [] then [str "c"] else [str "c", digits])
  | writeReg {dataStr : Str} : HexDigits dataStr →
      Message (str "G" ++ dataStr) [str "G", dataStr]
  | writeMem {addr length dataStr : Str} : HexDigits addr → HexDigits length → HexDigits dataStr →
      Message (str "M" ++ addr ++ str "," ++ length ++ str ":" ++ dataStr)
        [str "M", addr, length, dataStr]
  | readMem {addr length : Str} : HexDigits addr → HexDigits length →
      Message (str "m" ++ addr ++ str "," ++ length) [str "m", addr, length]
  | breakpoint {name kind addr : Str} {size : U8} : (name = str "z" ∨ name = str "Z") →
      (kind = str "0" ∨ kind = str "1") → HexDigits addr → IsDigit size →
      Message (name ++ kind ++ str "," ++ addr ++ str "," ++ [size]) [name, kind, addr, [size]]
  | attached : Message (str "qAttached") [str "qAttached"]
  | supported {features : Str} : Features features →
      Message (str "qSupported" ++ str ":" ++ features) [str "qSupported", features]

/-- The shapes of a message that `SplitMsg` accepts. -/
inductive IsCommand : List Str → Prop
  | halted : IsCommand [str "?"]
  | detach : IsCommand [str "D"]
  | readReg : IsCommand [str "g"]
  | continues (fields : List Str) : IsCommand (str "c" :: fields)
  | writeReg {dataStr : Str} : HexDigits dataStr → IsCommand [str "G", dataStr]
  | writeMem {addr length dataStr : Str} : HexDigits addr → HexDigits length →
      HexDigits dataStr → IsCommand [str "M", addr, length, dataStr]
  | readMem {addr length : Str} : HexDigits addr → HexDigits length →
      IsCommand [str "m", addr, length]
  | breakpoint {name kind addr : Str} (size : Str) : (name = str "z" ∨ name = str "Z") →
      (kind = str "0" ∨ kind = str "1") → HexDigits addr → IsCommand [name, kind, addr, size]
  | attached : IsCommand [str "qAttached"]
  | supported (features : Str) : IsCommand [str "qSupported", features]

theorem Message.isCommand {s : Str} {fields : List Str} (h : Message s fields) :
    IsCommand fields := by
  cases h with
  | halted => exact .halted
  | detach => exact .detach
  | readReg => exact .readReg
  | continues hdigits =>
    split
    · exact .continues []
    · exact .continues _
  | writeReg hdata => exact .writeReg hdata
  | writeMem haddr hlength hdata => exact .writeMem haddr hlength hdata
  | readMem haddr hlength => exact .readMem haddr hlength
  | breakpoint hname hkind haddr hsize => exact .breakpoint _ hname hkind haddr
  | attached => exact .attached
  | supported hfeatures => exact .supported _

theorem filter_nonempty {groups : List Str} (h : ∀ s ∈ groups, s ≠ []) :
    groups.filter (fun group => group ≠ []) = groups :=
  List.filter_eq_self.mpr fun s hs => decide_eq_true (h s hs)

open RegexPart CharClass

section Parts

variable {parts : List RegexPart} {s : Str} {groups : List Str}

/-- A captured part that is never empty is a field. -/
theorem splits_group {r : RegularExpression U8} {p : Str → Prop}
    (hr : ∀ t, r.rmatch t = true ↔ p t) (hne : ∀ t, p t → t ≠ [])
    (h : Splits (group r :: parts) s groups) :
    ∃ t u rest, s = t ++ u ∧ p t ∧ Splits parts u rest ∧
      groups.filter (fun g => g ≠ []) = t :: rest.filter fun g => g ≠ [] := by
  obtain ⟨t, u, rest, rfl, ht, hu, rfl⟩ := h
  have hp := (hr t).mp ht
  exact ⟨t, u, rest, rfl, hp, hu, List.filter_cons_of_pos (decide_eq_true (hne t hp))⟩

theorem splits_name {text : String} (hne : str text ≠ [])
    (h : Splits (group (word text) :: parts) s groups) :
    ∃ u rest, s = str text ++ u ∧ Splits parts u rest ∧
      groups.filter (fun g => g ≠ []) = str text :: rest.filter fun g => g ≠ [] := by
  obtain ⟨t, u, rest, hs, rfl, hu, hgroups⟩ :=
    splits_group (rmatch_word text) (fun t ht => by rw [ht]; exact hne) h
  exact ⟨u, rest, hs, hu, hgroups⟩

theorem splits_hexDigits (h : Splits (group (many1 hexDigit) :: parts) s groups) :
    ∃ t u rest, s = t ++ u ∧ HexDigits t ∧ Splits parts u rest ∧
      groups.filter (fun g => g ≠ []) = t :: rest.filter fun g => g ≠ [] :=
  splits_group rmatch_hexDigits (fun _ ht => ht.1) h

/-- A delimiter leaves no group. -/
theorem splits_delimiter {text : String} (h : Splits (plain (word text) :: parts) s groups) :
    ∃ u, s = str text ++ u ∧ Splits parts u groups := by
  obtain ⟨t, u, rest, rfl, ht, hu, rfl⟩ := h
  obtain rfl := (rmatch_word text t).mp ht
  exact ⟨u, rfl, hu⟩

end Parts

/-- What an alternative matches is a command, one case for each. -/
theorem message_of_splits {parts : List RegexPart} (hparts : parts ∈ alternatives) {s : Str}
    {groups : List Str} (h : Splits parts s groups) :
    Message s (groups.filter fun group => group ≠ []) := by
  simp only [alternatives, List.mem_cons, List.not_mem_nil, or_false] at hparts
  rcases hparts with rfl | rfl | rfl | rfl | rfl | rfl | rfl | rfl | rfl | rfl
  · obtain ⟨u, rest, rfl, ⟨rfl, rfl⟩, hname⟩ := splits_name (by decide) h
    rw [hname]
    exact .halted
  · obtain ⟨u, rest, rfl, ⟨rfl, rfl⟩, hname⟩ := splits_name (by decide) h
    rw [hname]
    exact .detach
  · obtain ⟨u, rest, rfl, ⟨rfl, rfl⟩, hname⟩ := splits_name (by decide) h
    rw [hname]
    exact .readReg
  · -- The only group that can be empty.
    obtain ⟨u, rest, rfl, ⟨digits, u, rest, rfl, hdigits, ⟨rfl, rfl⟩, rfl⟩, hname⟩ :=
      splits_name (by decide) h
    have hmessage := Message.continues ((isClass_digit.star digits).mp hdigits)
    rw [hname, List.append_nil]
    by_cases hnil : digits = []
    · subst hnil
      exact hmessage
    · rw [if_neg hnil] at hmessage
      rw [filter_nonempty (by simp [captured, hnil])]
      exact hmessage
  · obtain ⟨u, rest, rfl, h1, hname⟩ := splits_name (by decide) h
    obtain ⟨dataStr, u, rest, rfl, hdata, ⟨rfl, rfl⟩, hfield⟩ := splits_hexDigits h1
    rw [hname, hfield, List.append_nil]
    exact .writeReg hdata
  · obtain ⟨u, rest, rfl, h1, hname⟩ := splits_name (by decide) h
    obtain ⟨addr, u, rest, rfl, haddr, h2, hfield⟩ := splits_hexDigits h1
    obtain ⟨u, rfl, h3⟩ := splits_delimiter h2
    obtain ⟨length, u, rest, rfl, hlength, h4, hfield'⟩ := splits_hexDigits h3
    obtain ⟨u, rfl, h5⟩ := splits_delimiter h4
    obtain ⟨dataStr, u, rest, rfl, hdata, ⟨rfl, rfl⟩, hfield''⟩ := splits_hexDigits h5
    rw [hname, hfield, hfield', hfield'', List.append_nil]
    have hmessage := Message.writeMem haddr hlength hdata
    simp only [List.append_assoc] at hmessage
    exact hmessage
  · obtain ⟨u, rest, rfl, h1, hname⟩ := splits_name (by decide) h
    obtain ⟨addr, u, rest, rfl, haddr, h2, hfield⟩ := splits_hexDigits h1
    obtain ⟨u, rfl, h3⟩ := splits_delimiter h2
    obtain ⟨length, u, rest, rfl, hlength, ⟨rfl, rfl⟩, hfield'⟩ := splits_hexDigits h3
    rw [hname, hfield, hfield', List.append_nil]
    have hmessage := Message.readMem haddr hlength
    simp only [List.append_assoc] at hmessage
    exact hmessage
  · obtain ⟨name, u, rest, rfl, hz, h1, hname⟩ :=
      splits_group rmatch_names (by rintro t (rfl | rfl) <;> decide) h
    obtain ⟨kind, u, rest, rfl, hkind, h2, hfield⟩ :=
      splits_group rmatch_kind (by rintro t (rfl | rfl) <;> decide) h1
    obtain ⟨u, rfl, h3⟩ := splits_delimiter h2
    obtain ⟨addr, u, rest, rfl, haddr, h4, hfield'⟩ := splits_hexDigits h3
    obtain ⟨u, rfl, h5⟩ := splits_delimiter h4
    obtain ⟨d, u, rest, rfl, hd, ⟨rfl, rfl⟩, rfl⟩ := h5
    obtain ⟨size, hsize, rfl⟩ := (isClass_digit d).mp hd
    rw [hname, hfield, hfield', List.append_nil]
    have hmessage := Message.breakpoint hz hkind haddr hsize
    simp only [List.append_assoc] at hmessage
    exact hmessage
  · obtain ⟨u, rest, rfl, ⟨rfl, rfl⟩, hname⟩ := splits_name (by decide) h
    rw [hname]
    exact .attached
  · obtain ⟨u, rest, rfl, h1, hname⟩ := splits_name (by decide) h
    obtain ⟨u, rfl, h2⟩ := splits_delimiter h1
    obtain ⟨features, u, rest, rfl, hfeatures, ⟨rfl, rfl⟩, hfield⟩ :=
      splits_group rmatch_features (fun _ hf => hf.ne_nil) h2
    rw [hname, hfield, List.append_nil]
    have hmessage := Message.supported hfeatures
    simp only [List.append_assoc] at hmessage
    exact hmessage

/-- Every command is matched by an alternative, one case for each. -/
theorem splits_of_message {s : Str} {fields : List Str} (h : Message s fields) :
    ∃ parts ∈ alternatives, ∃ groups, Splits parts s groups := by
  cases h with
  | halted =>
    exact ⟨[group (word "?")], by simp [alternatives],
      exists_splits_last ((rmatch_word _ _).mpr rfl)⟩
  | detach =>
    exact ⟨[group (word "D")], by simp [alternatives],
      exists_splits_last ((rmatch_word _ _).mpr rfl)⟩
  | readReg =>
    exact ⟨[group (word "g")], by simp [alternatives],
      exists_splits_last ((rmatch_word _ _).mpr rfl)⟩
  | continues hdigits =>
    refine ⟨[group (word "c"), group digit.star], by simp [alternatives], ?_⟩
    refine exists_splits ((rmatch_word _ _).mpr rfl) ?_
    exact exists_splits_last ((isClass_digit.star _).mpr hdigits)
  | writeReg hdata =>
    refine ⟨[group (word "G"), group (many1 hexDigit)], by simp [alternatives], ?_⟩
    refine exists_splits ((rmatch_word _ _).mpr rfl) ?_
    exact exists_splits_last ((rmatch_hexDigits _).mpr hdata)
  | writeMem haddr hlength hdata =>
    refine ⟨[group (word "M"), group (many1 hexDigit), plain (word ","), group (many1 hexDigit),
      plain (word ":"), group (many1 hexDigit)], by simp [alternatives], ?_⟩
    simp only [List.append_assoc]
    refine exists_splits ((rmatch_word _ _).mpr rfl) ?_
    refine exists_splits ((rmatch_hexDigits _).mpr haddr) ?_
    refine exists_splits ((rmatch_word _ _).mpr rfl) ?_
    refine exists_splits ((rmatch_hexDigits _).mpr hlength) ?_
    refine exists_splits ((rmatch_word _ _).mpr rfl) ?_
    exact exists_splits_last ((rmatch_hexDigits _).mpr hdata)
  | readMem haddr hlength =>
    refine ⟨[group (word "m"), group (many1 hexDigit), plain (word ","),
      group (many1 hexDigit)], by simp [alternatives], ?_⟩
    simp only [List.append_assoc]
    refine exists_splits ((rmatch_word _ _).mpr rfl) ?_
    refine exists_splits ((rmatch_hexDigits _).mpr haddr) ?_
    refine exists_splits ((rmatch_word _ _).mpr rfl) ?_
    exact exists_splits_last ((rmatch_hexDigits _).mpr hlength)
  | breakpoint hname hkind haddr hsize =>
    refine ⟨[group (word "z" + word "Z"), group (range '0' '1'), plain (word ","),
      group (many1 hexDigit), plain (word ","), group digit], by simp [alternatives], ?_⟩
    simp only [List.append_assoc]
    refine exists_splits ((rmatch_names _).mpr hname) ?_
    refine exists_splits ((rmatch_kind _).mpr hkind) ?_
    refine exists_splits ((rmatch_word _ _).mpr rfl) ?_
    refine exists_splits ((rmatch_hexDigits _).mpr haddr) ?_
    refine exists_splits ((rmatch_word _ _).mpr rfl) ?_
    exact exists_splits_last ((isClass_digit _).mpr ⟨_, hsize, rfl⟩)
  | attached =>
    exact ⟨[group (word "qAttached")], by simp [alternatives],
      exists_splits_last ((rmatch_word _ _).mpr rfl)⟩
  | supported hfeatures =>
    refine ⟨[group (word "qSupported"), plain (word ":"), group (many1 feature)],
      by simp [alternatives], ?_⟩
    simp only [List.append_assoc]
    refine exists_splits ((rmatch_word _ _).mpr rfl) ?_
    refine exists_splits ((rmatch_word _ _).mpr rfl) ?_
    exact exists_splits_last ((rmatch_features _).mpr hfeatures)

/-- The delimiters. -/
def isDelimiter (c : U8) : Bool := c = chr ',' ∨ c = chr ':'

def names : List Str :=
  [str "?", str "D", str "g", str "c", str "G", str "M", str "m", str "z", str "Z",
   str "qAttached", str "qSupported"]

/-- No name begins another one. -/
theorem names_free : ∀ name ∈ names, ∀ name' ∈ names, name <+: name' → name = name' := by
  decide +kernel

/-- What is behind the name, without the delimiters. -/
def arguments (text : Str) : List Str := (text.splitOnP isDelimiter).filter fun s => s ≠ []

theorem str_comma : str "," = [chr ','] := rfl

theorem str_colon : str ":" = [chr ':'] := rfl

/-- A field stands between two delimiters. -/
def IsField (s : Str) : Prop := s ≠ [] ∧ ∀ c ∈ s, isDelimiter c = false

instance (s : Str) : Decidable (IsField s) := inferInstanceAs (Decidable (_ ∧ _))

theorem arguments_last {s : Str} (h : IsField s) : arguments s = [s] := by
  rw [arguments, List.splitOnP_eq_singleton h.2]
  exact filter_nonempty (by simpa using h.1)

theorem arguments_cons {s rest : Str} {sep : U8} (h : IsField s) (hsep : isDelimiter sep = true) :
    arguments (s ++ ([sep] ++ rest)) = s :: arguments rest := by
  rw [List.singleton_append, arguments, List.splitOnP_append_cons_of_forall_mem h.2 sep hsep]
  exact List.filter_cons_of_pos (decide_eq_true h.1)

theorem isDelimiter_digit : ∀ c : U8, IsDigit c → isDelimiter c = false := by
  unfold IsDigit
  decide

theorem isDelimiter_hex : ∀ c : U8, (hexVal? c).isSome = true → isDelimiter c = false := by
  decide

theorem isDelimiter_nameChar : ∀ c : U8, IsNameChar c → isDelimiter c = false := by
  unfold IsNameChar
  decide

theorem isField_hex {s : Str} (h : HexDigits s) : IsField s :=
  ⟨h.1, fun c hc => isDelimiter_hex c (h.2 c hc)⟩

theorem isField_digits {s : Str} (hne : s ≠ []) (h : ∀ c ∈ s, IsDigit c) : IsField s :=
  ⟨hne, fun c hc => isDelimiter_digit c (h c hc)⟩

theorem isDelimiter_feature {s : Str} (h : IsFeature s) : ∀ c ∈ s, isDelimiter c = false := by
  obtain ⟨name, plus, semicolon, rfl, ⟨-, hname⟩, hplus, hsemicolon⟩ := h
  intro c hc
  rcases List.mem_append.mp hc with hc | hc
  · rcases List.mem_append.mp hc with hc | hc
    · exact isDelimiter_nameChar c (hname c hc)
    · rcases hplus with rfl | rfl
      · obtain rfl := List.mem_singleton.mp hc
        decide
      · cases hc
  · rcases hsemicolon with rfl | rfl
    · obtain rfl := List.mem_singleton.mp hc
      decide
    · cases hc

theorem isField_features {s : Str} (h : Features s) : IsField s := by
  refine ⟨h.ne_nil, fun c hc => ?_⟩
  obtain ⟨features, -, rfl, hall⟩ := h
  obtain ⟨feature, hfeature, hc⟩ := List.mem_flatten.mp hc
  exact isDelimiter_feature (hall feature hfeature) c hc

/-- A command is its name and then its arguments. -/
theorem Message.exists_name {s : Str} {fields : List Str} (h : Message s fields) :
    ∃ name ∈ names, ∃ text, s = name ++ text ∧ fields = name :: arguments text := by
  cases h with
  | halted => exact ⟨_, by simp [names], [], rfl, rfl⟩
  | detach => exact ⟨_, by simp [names], [], rfl, rfl⟩
  | readReg => exact ⟨_, by simp [names], [], rfl, rfl⟩
  | @continues digits hdigits =>
    refine ⟨str "c", by simp [names], digits, rfl, ?_⟩
    by_cases hnil : digits = []
    · subst hnil
      rfl
    · rw [if_neg hnil, arguments_last (isField_digits hnil hdigits)]
  | writeReg hdata =>
    refine ⟨str "G", by simp [names], _, rfl, ?_⟩
    rw [arguments_last (isField_hex hdata)]
  | @writeMem addr length dataStr haddr hlength hdata =>
    refine ⟨str "M", by simp [names], addr ++ (str "," ++ (length ++ (str ":" ++ dataStr))),
      by simp only [List.append_assoc], ?_⟩
    rw [str_comma, str_colon, arguments_cons (isField_hex haddr) rfl,
      arguments_cons (isField_hex hlength) rfl, arguments_last (isField_hex hdata)]
  | @readMem addr length haddr hlength =>
    refine ⟨str "m", by simp [names], addr ++ (str "," ++ length),
      by simp only [List.append_assoc], ?_⟩
    rw [str_comma, arguments_cons (isField_hex haddr) rfl, arguments_last (isField_hex hlength)]
  | @breakpoint name kind addr size hname hkind haddr hsize =>
    have hfield : IsField kind := by
      rcases hkind with rfl | rfl
      · decide
      · decide
    have hlast : IsField [size] := isField_digits (List.cons_ne_nil _ _) (by simpa using hsize)
    refine ⟨name, ?_, kind ++ (str "," ++ (addr ++ (str "," ++ [size]))), ?_, ?_⟩
    · rcases hname with rfl | rfl
      · simp [names]
      · simp [names]
    · simp only [List.append_assoc]
    · rw [str_comma, arguments_cons hfield rfl, arguments_cons (isField_hex haddr) rfl,
        arguments_last hlast]
  | attached => exact ⟨_, by simp [names], [], rfl, rfl⟩
  | @supported features hfeatures =>
    refine ⟨str "qSupported", by simp [names], str ":" ++ features,
      by simp only [List.append_assoc], ?_⟩
    -- The colon directly behind the name leaves an empty field.
    have hcolon : arguments (str ":" ++ features) = arguments features := by
      rw [arguments, str_colon, List.singleton_append, ← List.nil_append (_ :: _),
        List.splitOnP_append_cons_of_forall_mem (by simp) _ rfl]
      rfl
    rw [hcolon, arguments_last (isField_features hfeatures)]

/-- The name decides what the fields are. -/
theorem Message.fields_of_name {name text : Str} (hname : name ∈ names) {fields : List Str}
    (h : Message (name ++ text) fields) : fields = name :: arguments text := by
  obtain ⟨name', hname', text', happ, rfl⟩ := h.exists_name
  have hstart : name <+: name ++ text := List.prefix_append name text
  have hstart' : name' <+: name ++ text := happ ▸ List.prefix_append name' text'
  have heq : name = name' := by
    rcases List.prefix_or_prefix_of_prefix hstart hstart' with hle | hle
    · exact names_free name hname name' hname' hle
    · exact (names_free name' hname' name hname hle).symm
  subst heq
  rw [List.append_cancel_left happ]

/-- A text can be read as a command in one way only. -/
theorem Message.fields_eq {s : Str} {fields fields' : List Str} (h : Message s fields)
    (h' : Message s fields') : fields = fields' := by
  obtain ⟨name, hname, text, rfl, rfl⟩ := h.exists_name
  exact (h'.fields_of_name hname).symm

theorem Message.fields_ne_nil {s : Str} {fields : List Str} (h : Message s fields) :
    fields ≠ [] := by
  obtain ⟨name, -, text, -, rfl⟩ := h.exists_name
  exact List.cons_ne_nil _ _

/-- The regular expression matches the commands, and the fields are what is captured. -/
theorem splitMsg_eq_iff (s : Str) (fields : List Str) :
    Message s fields ↔ splitMsg s = fields ∧ fields ≠ [] := by
  have hsound : ∀ {groups}, alternatives.findSome? (fun parts => regexMatch parts s) =
      some groups → Message s (splitMsg s) := by
    intro groups hsome
    obtain ⟨parts, hparts, hmatch⟩ := List.exists_of_findSome?_eq_some hsome
    unfold splitMsg
    rw [hsome]
    exact message_of_splits hparts (splits_of_regexMatch hmatch)
  constructor
  · intro h
    refine ⟨?_, h.fields_ne_nil⟩
    obtain ⟨parts, hparts, groups, hsplits⟩ := splits_of_message h
    obtain ⟨groups', hmatch⟩ := exists_regexMatch hsplits
    have hsome : (alternatives.findSome? fun parts => regexMatch parts s).isSome = true :=
      List.findSome?_isSome_iff.mpr ⟨parts, hparts, Option.isSome_of_eq_some hmatch⟩
    obtain ⟨groups, hsome⟩ := Option.isSome_iff_exists.mp hsome
    exact (hsound hsome).fields_eq h
  · rintro ⟨rfl, hne⟩
    cases hfind : alternatives.findSome? fun parts => regexMatch parts s with
    | none =>
      unfold splitMsg at hne
      rw [hfind] at hne
      exact absurd rfl hne
    | some groups => exact hsound hfind

theorem isCommand_splitMsg {payload : Str} (h : splitMsg payload ≠ []) :
    IsCommand (splitMsg payload) :=
  ((splitMsg_eq_iff payload _).mpr ⟨rfl, h⟩).isCommand

/-! ## The handlers -/

/-- The places of the vector that the handler of a command reads. -/
def indexed (name : Str) : List Nat :=
  if name = str "M" then [1, 2, 3]
  else if name = str "m" ∨ name = str "z" ∨ name = str "Z" then [1, 2]
  else if name = str "G" ∨ name = str "qSupported" then [1]
  else []

theorem field_congr {σ : Type} {msgSplit msgSplit' : List Str} {i : Nat}
    (h : msgSplit[i]? = msgSplit'[i]?) : (field msgSplit i : GdbM σ Str) = field msgSplit' i := by
  unfold field
  rw [h]

variable {σ : Type} [BusPort σ] [DebugPort σ]

/-- The handler of a command looks at nothing else in the vector. -/
theorem cmdMap_congr {name : Str} {cmd : List Str → GdbM σ Unit} (hmem : (name, cmd) ∈ cmdMap)
    {msgSplit msgSplit' : List Str} (h : ∀ i ∈ indexed name, msgSplit[i]? = msgSplit'[i]?) :
    cmd msgSplit = cmd msgSplit' := by
  have hfield : ∀ i ∈ indexed name, (field msgSplit i : GdbM σ Str) = field msgSplit' i :=
    fun i hi => field_congr (h i hi)
  simp only [cmdMap, List.mem_cons, Prod.mk.injEq, List.not_mem_nil, or_false] at hmem
  rcases hmem with ⟨rfl, rfl⟩ | ⟨rfl, rfl⟩ | ⟨rfl, rfl⟩ | ⟨rfl, rfl⟩ | ⟨rfl, rfl⟩ | ⟨rfl, rfl⟩ |
    ⟨rfl, rfl⟩ | ⟨rfl, rfl⟩ | ⟨rfl, rfl⟩ | ⟨rfl, rfl⟩ | ⟨rfl, rfl⟩
  · rfl
  · rfl
  · unfold cmdWriteReg
    rw [hfield 1 (by decide)]
  · rfl
  · unfold cmdReadMem
    rw [hfield 1 (by decide), hfield 2 (by decide)]
  · unfold cmdWriteMem
    rw [hfield 1 (by decide), hfield 2 (by decide), hfield 3 (by decide)]
  · rfl
  · unfold cmdInsertBp cmdBp
    rw [hfield 1 (by decide), hfield 2 (by decide)]
  · unfold cmdRemoveBp cmdBp
    rw [hfield 1 (by decide), hfield 2 (by decide)]
  · unfold cmdSupported
    rw [hfield 1 (by decide)]
  · rfl

theorem mem_of_lookup {α : Type} {name : Str} {v : α} {entries : List (Str × α)}
    (h : entries.lookup name = some v) : (name, v) ∈ entries := by
  obtain ⟨before, after, happ, -⟩ := List.lookup_eq_some_iff.mp h
  rw [happ]
  exact List.mem_append_right before List.mem_cons_self

/-- A command has a handler and the fields that it reads. -/
theorem IsCommand.served {fields : List Str} (h : IsCommand fields) :
    ∃ name rest cmd, fields = name :: rest ∧
      (cmdMap : List (Str × (List Str → GdbM σ Unit))).lookup name = some cmd ∧
      ∀ i ∈ indexed name, i < fields.length := by
  cases h with
  | halted => exact ⟨_, _, _, rfl, rfl, by decide⟩
  | detach => exact ⟨_, _, _, rfl, rfl, by decide⟩
  | readReg => exact ⟨_, _, _, rfl, rfl, by decide⟩
  | continues fields => exact ⟨_, _, _, rfl, rfl, fun i hi => nomatch hi⟩
  | writeReg hdata => exact ⟨_, _, _, rfl, rfl, by simp [indexed]; decide⟩
  | writeMem haddr hlength hdata => exact ⟨_, _, _, rfl, rfl, by simp [indexed]⟩
  | readMem haddr hlength => exact ⟨_, _, _, rfl, rfl, by simp [indexed]; decide⟩
  | breakpoint size hname hkind haddr =>
    rcases hname with rfl | rfl
    · exact ⟨_, _, _, rfl, rfl, by simp [indexed]; decide⟩
    · exact ⟨_, _, _, rfl, rfl, by simp [indexed]; decide⟩
  | attached => exact ⟨_, _, _, rfl, rfl, by decide⟩
  | supported features => exact ⟨_, _, _, rfl, rfl, by simp [indexed]; decide⟩

/-- `SplitMsg` accepts the commands and nothing else. Its result is the fields of the command: the
    first one has a handler, and what the handler reads is there. -/
theorem splitMsg_commands (s : Str) :
    (splitMsg s ≠ [] ↔ ∃ fields, Message s fields) ∧
      ∀ fields, Message s fields → splitMsg s = fields ∧
        ∃ name rest cmd, fields = name :: rest ∧
          (cmdMap : List (Str × (List Str → GdbM σ Unit))).lookup name = some cmd ∧
          (∀ i ∈ indexed name, i < fields.length) ∧
          ∀ other, (∀ i ∈ indexed name, other[i]? = fields[i]?) → cmd other = cmd fields := by
  refine ⟨⟨fun hne => ⟨_, (splitMsg_eq_iff s _).mpr ⟨rfl, hne⟩⟩, ?_⟩, ?_⟩
  · rintro ⟨fields, hmessage⟩
    obtain ⟨rfl, hne⟩ := (splitMsg_eq_iff s fields).mp hmessage
    exact hne
  · intro fields hmessage
    refine ⟨((splitMsg_eq_iff s fields).mp hmessage).1, ?_⟩
    obtain ⟨name, rest, cmd, rfl, hlookup, hbounds⟩ := hmessage.isCommand.served (σ := σ)
    refine ⟨name, rest, cmd, rfl, hlookup, hbounds, fun other hother => ?_⟩
    exact cmdMap_congr (mem_of_lookup hlookup) hother

end GdbServer

end TlmBoy
