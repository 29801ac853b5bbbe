import TlmBoy.Cartridge.Construct

/-
  The constructor of `GameInfo`, with everything that it takes from the header.

  It reads the header at fixed addresses from a buffer of the file's size and looks the bytes up in
  maps. `construct_eq` says that the constructor succeeds exactly if the three lookups with `at` do,
  once the file reaches the last byte that is read; a shorter file is read past its end. The
  bytes are signed `char`s and the maps of these lookups have `uint` keys, so a key from 0x80 on is
  never found: there are four of them, all of them cartridge types.
-/

namespace TlmBoy

namespace GameInfo

def kAdrTitleStart : Nat := 0x134
def kAdrTitleEnd : Nat := 0x143
def kAdrNewLicenseStart : Nat := 0x144
def kAdrNewLicenseEnd : Nat := 0x145
def kAdrSgbFunc : Nat := 0x146
def kAdrRegionCode : Nat := 0x14a

/-! ## The maps -/

/-- The key "96" is there twice, and the first entry stays. -/
def newLicenseCodeMap : List (String × String) :=
  [("00", "none"), ("01", "Nintendo R&D1"), ("08", "Capcom"), ("13", "Electronic Arts"),
   ("18", "Hudon Soft"), ("19", "b-ai"), ("20", "kss"), ("22", "pow"), ("24", "PCM Complete"),
   ("25", "san-x"), ("28", "Kemco Japan"), ("29", "seta"), ("30", "Viacom"), ("31", "Nintendo"),
   ("32", "Bandai"), ("33", "Ocean/Acclaim"), ("34", "Konami"), ("35", "Hector"), ("37", "Taito"),
   ("38", "Hudson"), ("39", "Banpresto"), ("41", "Ubisoft"), ("42", "Atlus"), ("44", "Malibu"),
   ("46", "angel"), ("47", "Bullet-Proof"), ("49", "irem"), ("50", "Absolute"), ("51", "Acclaim"),
   ("52", "Activision"), ("53", "American sammy"), ("54", "Konami"),
   ("55", "Hi tech entertainment"), ("56", "LJN"), ("57", "Matchbox"), ("58", "Mattel"),
   ("59", "Milton Bradley"), ("60", "Titus"), ("61", "Virgin"), ("64", "LucasArts"),
   ("67", "Ocean"), ("69", "Electronic Arts"), ("70", "Infogrames"), ("71", "Interplay"),
   ("72", "Broderbund"), ("73", "sculptured"), ("75", "sci"), ("78", "THQ"), ("79", "Accolade"),
   ("80", "misawa"), ("83", "lozc"), ("86", "tokuma shoten"), ("87", "tsukuda ori"),
   ("91", "Chunsoft"), ("92", "Video system"), ("93", "Ocean/Acclaim"), ("95", "Varie"),
   ("96", "Yonezawa/s'pal"), ("97", "Kaneko"), ("99", "Pack in soft"),
   ("96", "Konami (Yu-Gi-Oh!)")]

def oldLicenseCodeMap : List (U8 × String) :=
  [(0x00, "none"), (0x01, "nintendo"), (0x08, "Capcom"), (0x09, "hot-b"), (0x0A, "jaleco"),
   (0x0B, "coconuts"), (0x0C, "elite systems"), (0x13, "Electronic Arts"), (0x18, "Hudon Soft"),
   (0x19, "itc entertainment"), (0x1A, "yanoman"), (0x1D, "clary"), (0x1F, "virgin"),
   (0x20, "KSS"), (0x24, "PCM Complete"), (0x25, "san-x"), (0x28, "kotobuki systems"),
   (0x29, "seta"), (0x30, "infogrames"), (0x31, "Nintendo"), (0x32, "Bandai"), (0x33, "GBC"),
   (0x34, "Konami"), (0x35, "Hector"), (0x38, "Capcom"), (0x39, "Banpresto"),
   (0x3C, "entertainment i"), (0x3E, "gremlin"), (0x41, "Ubisoft"), (0x42, "Atlus"),
   (0x44, "Malibu"), (0x46, "angel"), (0x47, "spectrum holobody"), (0x49, "irem"),
   (0x4A, "virgin"), (0x4D, "Malibu"), (0x4F, "U.S. Gold"), (0x50, "Absolute"), (0x51, "Acclaim"),
   (0x52, "Activision"), (0x53, "American sammy"), (0x54, "Gametek"), (0x55, "park place"),
   (0x56, "LJN"), (0x57, "Matchbox"), (0x59, "Milton Bradley"), (0x5A, "mindscape"),
   (0x5B, "romstar"), (0x5C, "naxat soft"), (0x5D, "tradewest"), (0x60, "titus"),
   (0x61, "Virgin"), (0x67, "Ocean"), (0x69, "Electronic Arts"), (0x6E, "Elite Systems"),
   (0x6F, "Electro Brain"), (0x70, "Infogrammes"), (0x71, "Interplay"), (0x72, "Broderbund"),
   (0x73, "sculptured"), (0x75, "the sales curve"), (0x78, "THQ"), (0x79, "Accolade"),
   (0x7A, "triffix entertainment"), (0x7C, "micropose"), (0x7F, "kemco"), (0x80, "misawa"),
   (0x83, "lozc"), (0x86, "tokuma shoten"), (0x8B, "bullet-proof software"), (0x8C, "vic tokai"),
   (0x8E, "ape"), (0x8F, "i'max"), (0x91, "chun soft"), (0x92, "video systen"),
   (0x93, "tsuburava"), (0x95, "varie"), (0x96, "yonezawa/s'pal"), (0x97, "kaneko"),
   (0x99, "arc"), (0x9A, "nihon bussan"), (0x9B, "Tecmo"), (0x9C, "imagineer"),
   (0x9D, "Banpresto"), (0x9F, "nova"), (0xA1, "Hori electric"), (0xA2, "Bandai"),
   (0xA4, "Konami"), (0xA6, "kawada"), (0xA7, "takara"), (0xA9, "technos japan"),
   (0xAA, "broderbund"), (0xAC, "Toei animation"), (0xAD, "toho"), (0xAF, "Namco"),
   (0xB0, "Acclaim"), (0xB1, "ascii or nexoft"), (0xB2, "Bandai"), (0xB4, "Enix"), (0xB6, "HAL"),
   (0xB7, "SNK"), (0xB9, "pony canyon"), (0xBA, "*culture brain o"), (0xBB, "Sunsoft"),
   (0xBD, "Sony imagesoft"), (0xBF, "sammy"), (0xC0, "Taito"), (0xC2, "Kemco"),
   (0xC3, "Squaresoft"), (0xC4, "tokuma shoten"), (0xC5, "data east"), (0xC6, "tonkin house"),
   (0xC8, "koei"), (0xC9, "ufl"), (0xCA, "ultra"), (0xCB, "vap"), (0xCC, "use"), (0xCD, "meldac"),
   (0xCE, "pony canyon"), (0xCF, "angel"), (0xD0, "Taito"), (0xD1, "sofel"), (0xD2, "quest"),
   (0xD3, "sigma enterprises"), (0xD4, "ask kodansha"), (0xD6, "naxat soft"),
   (0xD7, "copya systems"), (0xD9, "Banpresto"), (0xDA, "tomy"), (0xDB, "ljn"), (0xDD, "ncs"),
   (0xDE, "human"), (0xDF, "altron"), (0xE0, "jaleco"), (0xE1, "towachiki"), (0xE2, "uutaka"),
   (0xE3, "varie"), (0xE5, "epoch"), (0xE7, "athena"), (0xE8, "asmik"), (0xE9, "natsume"),
   (0xEA, "king records"), (0xEB, "atlus"), (0xEC, "Epic/Sony records"), (0xEE, "igs"),
   (0xF0, "a wave"), (0xF3, "extreme entertainment"), (0xFF, "ljn")]

/-- The sizes as text and in banks. -/
def romSizes : List (BitVec 32 × String × BitVec 32) :=
  [(0x00, "32 KiB", 0), (0x01, "64 KiB (4 banks)", 4), (0x02, "128 KiB (8 banks)", 8),
   (0x03, "256 KiB (16 banks)", 16), (0x04, "512 KiB (32 banks)", 32),
   (0x05, "1 MiB (64 banks)", 64), (0x06, "2 MiB (128 banks)", 128),
   (0x07, "4 MiB (256 banks)", 256), (0x08, "8 MiB (512 banks)", 512),
   (0x52, "1.1 MiB (72 banks)", 72), (0x53, "1.2 MiB (80 banks)", 80),
   (0x54, "1.5 MiB (96 banks)", 96)]

/-- The sizes as text and in KiB. -/
def ramSizes : List (BitVec 32 × String × BitVec 32) :=
  [(0x00, "None", 0), (0x01, "2 KiB", 2), (0x02, "8 KiB", 8), (0x03, "32 KiB", 32),
   (0x04, "128 KiB", 128), (0x05, "64 KiB", 64)]

def regionMap : List (BitVec 32 × String) := [(0x00, "Japanese"), (0x01, "Non-Japanese")]

/-! ## The constructor -/

/-- The members that the constructor sets. -/
structure Header extends GameInfo where
  sgbSupport : Bool
  usesNewLicense : Bool
  licenseCode : String
  region : String
  title : List U8
  ramSize : String × BitVec 32
  romSize : String × BitVec 32

/-- `data[i]`. -/
def dataAt (data : List U8) (i : Nat) : Except Fault U8 :=
  match data[i]? with
  | some b => .ok b
  | none => .error (.outOfBounds "data")

/-- The loop for the title, over the addresses that are left. -/
def readTitle (data : List U8) : List Nat → Except Fault (List U8)
  | [] => .ok []
  | i :: is => do
    let c ← dataAt data i
    if c = 0 then return []
    return c :: (← readTitle data is)

/-- The key is built from the two bytes of the new licence code. -/
def newLicense (data : List U8) : Except Fault String := do
  let key ← (List.range' kAdrNewLicenseStart
    (kAdrNewLicenseEnd + 1 - kAdrNewLicenseStart)).mapM (dataAt data)
  return ((newLicenseCodeMap.map fun e => (textBytes e.1, e.2)).lookup key).getD "Unknown"

/-- The keys of this map are `u8`s. -/
def oldLicense (data : List U8) : Except Fault String := do
  return (oldLicenseCodeMap.lookup (← dataAt data kAdrOldLicense)).getD "Unknown"

def readLicense (data : List U8) (usesNewLicense : Bool) : Except Fault String :=
  if usesNewLicense then newLicense data else oldLicense data

def readRegion (data : List U8) : Except Fault String := do
  let b ← dataAt data kAdrRegionCode
  return (regionMap.lookup (b.signExtend 32)).getD "Unknown"

/-- The constructor, with the bytes of the game file. -/
def construct (data : List U8) : Except Fault Header := do
  let title ← readTitle data
    (List.range' kAdrTitleStart (kAdrTitleEnd + 1 - kAdrTitleStart))
  let usesNewLicense := (← dataAt data kAdrOldLicense) == 0x33
  let licenseCode ← readLicense data usesNewLicense
  let sgbSupport := (← dataAt data kAdrSgbFunc) == 3
  let cartridgeType ← mapAt cartridgeTypeMap data kAdrCartType
  let romSize ← mapAt romSizes data kAdrRomSize
  let ramSize ← mapAt ramSizes data kAdrRamSize
  let region ← readRegion data
  return { title, usesNewLicense, licenseCode, sgbSupport, cartridgeType, romSize, ramSize, region }

/-! ## Which bytes are read -/

variable {data : List U8}

theorem dataAt_of_lt {i : Nat} (h : i < data.length) : dataAt data i = .ok data[i] := by
  rw [dataAt, List.getElem?_eq_getElem h]

theorem dataAt_of_le {i : Nat} (h : data.length ≤ i) :
    dataAt data i = .error (.outOfBounds "data") := by
  rw [dataAt, List.getElem?_eq_none h]

theorem mapM_dataAt {is : List Nat} (h : ∀ i ∈ is, i < data.length) :
    ∃ bytes, is.mapM (dataAt data) = .ok bytes := by
  induction is with
  | nil => exact ⟨[], rfl⟩
  | cons i is ih =>
    obtain ⟨hi, hrest⟩ := List.forall_mem_cons.mp h
    obtain ⟨bytes, hbytes⟩ := ih hrest
    refine ⟨data[i] :: bytes, ?_⟩
    rw [List.mapM_cons, dataAt_of_lt hi, hbytes]
    rfl

theorem readTitle_ok {is : List Nat} (h : ∀ i ∈ is, i < data.length) :
    ∃ title, readTitle data is = .ok title := by
  induction is with
  | nil => exact ⟨[], rfl⟩
  | cons i is ih =>
    obtain ⟨hi, hrest⟩ := List.forall_mem_cons.mp h
    obtain ⟨title, htitle⟩ := ih hrest
    rw [readTitle, dataAt_of_lt hi, ok_bind]
    by_cases hzero : data[i] = 0
    · exact ⟨[], if_pos hzero⟩
    · rw [if_neg hzero, htitle]
      exact ⟨_, rfl⟩

/-- The title is read up to its end, or a byte behind the end of the file is read. -/
theorem readTitle_cases (data : List U8) (is : List Nat) :
    (∃ title, readTitle data is = .ok title) ∨
      readTitle data is = .error (.outOfBounds "data") := by
  induction is with
  | nil => exact .inl ⟨[], rfl⟩
  | cons i is ih =>
    by_cases hi : i < data.length
    · rw [readTitle, dataAt_of_lt hi, ok_bind]
      by_cases hzero : data[i] = 0
      · exact .inl ⟨[], if_pos hzero⟩
      · rw [if_neg hzero]
        rcases ih with ⟨title, htitle⟩ | herror
        · rw [htitle]
          exact .inl ⟨_, rfl⟩
        · rw [herror]
          exact .inr rfl
    · rw [readTitle, dataAt_of_le (Nat.not_lt.mp hi)]
      exact .inr rfl

/-- A file that ends before the byte for the old licence code is read past its end. -/
theorem construct_short (h : data.length ≤ kAdrOldLicense) :
    construct data = .error (.outOfBounds "data") := by
  unfold construct
  rcases readTitle_cases data _ with ⟨title, htitle⟩ | herror
  · rw [htitle, ok_bind, dataAt_of_le h]
    rfl
  · rw [herror]
    rfl

/-- In a longer file every byte is there, and only the three lookups with `at` can fail. -/
theorem construct_eq (h : kAdrOldLicense < data.length) : ∃ header : Header,
    construct data = mapAt cartridgeTypeMap data kAdrCartType >>= fun cartridgeType =>
      mapAt romSizes data kAdrRomSize >>= fun romSize =>
      mapAt ramSizes data kAdrRamSize >>= fun ramSize =>
      .ok { header with cartridgeType, romSize, ramSize } := by
  unfold kAdrOldLicense at h
  obtain ⟨title, htitle⟩ := @readTitle_ok data
    (List.range' kAdrTitleStart (kAdrTitleEnd + 1 - kAdrTitleStart)) fun i hi => by
      have hbounds := List.mem_range'_1.mp hi
      unfold kAdrTitleStart kAdrTitleEnd at hbounds
      omega
  obtain ⟨code, hcode⟩ : ∃ code, readLicense data (data[0x14b] == 0x33) = .ok code := by
    unfold readLicense
    by_cases hnew : (data[0x14b] == 0x33) = true
    · obtain ⟨key, hkey⟩ := @mapM_dataAt data (List.range' kAdrNewLicenseStart
        (kAdrNewLicenseEnd + 1 - kAdrNewLicenseStart)) fun i hi => by
          have hbounds := List.mem_range'_1.mp hi
          unfold kAdrNewLicenseStart kAdrNewLicenseEnd at hbounds
          omega
      rw [if_pos hnew, newLicense, hkey]
      exact ⟨_, rfl⟩
    · rw [if_neg hnew, oldLicense, kAdrOldLicense, dataAt_of_lt h]
      exact ⟨_, rfl⟩
  obtain ⟨region, hregion⟩ : ∃ region, readRegion data = .ok region := by
    rw [readRegion, kAdrRegionCode, dataAt_of_lt (by omega)]
    exact ⟨_, rfl⟩
  refine ⟨{ title, region, licenseCode := code, usesNewLicense := data[0x14b] == 0x33,
            sgbSupport := data[0x146] == 3, cartridgeType := "", ramSize := ("", 0),
            romSize := ("", 0) }, ?_⟩
  have hsgb : dataAt data 0x146 = .ok data[0x146] := dataAt_of_lt (by omega)
  unfold construct
  rw [htitle, ok_bind, kAdrOldLicense, dataAt_of_lt h, ok_bind]
  dsimp only
  rw [hcode, ok_bind, kAdrSgbFunc, hsgb, ok_bind]
  simp only [hregion, ok_bind]
  rfl

theorem lookup_map {α β κ : Type} [BEq κ] (f : α → β) (k : κ) (entries : List (κ × α)) :
    (entries.map fun e => (e.1, f e.2)).lookup k = (entries.lookup k).map f := by
  induction entries with
  | nil => rfl
  | cons e entries ih =>
    rw [List.map_cons, List.lookup_cons, List.lookup_cons]
    cases k == e.1 with
    | true => rfl
    | false => exact ih

theorem mapAt_map {α β : Type} (f : α → β) (map : List (BitVec 32 × α)) (data : List U8)
    (adr : Nat) :
    mapAt (map.map fun e => (e.1, f e.2)) data adr = (mapAt map data adr).map f := by
  unfold mapAt
  cases data[adr]? with
  | none => rfl
  | some b =>
    dsimp only
    rw [lookup_map]
    cases map.lookup (b.signExtend 32) with
    | none => rfl
    | some v => rfl

/-- The constructor of `Cartridge` uses the type, and `init` is the constructor up to it. -/
theorem map_construct (data : List U8) :
    (construct data).map Header.toGameInfo = init data := by
  unfold init
  by_cases hshort : data.length ≤ kAdrOldLicense
  · rw [construct_short hshort, if_pos hshort]
    rfl
  · obtain ⟨header, hconstruct⟩ := construct_eq (Nat.not_le.mp hshort)
    have hrom : mapAt romSizeMap data kAdrRomSize =
        (mapAt romSizes data kAdrRomSize).map fun v => v.2.toNat :=
      @mapAt_map (String × BitVec 32) Nat (fun v => v.2.toNat) romSizes data kAdrRomSize
    have hram : mapAt ramSizeMap data kAdrRamSize =
        (mapAt ramSizes data kAdrRamSize).map fun v => v.2.toNat :=
      @mapAt_map (String × BitVec 32) Nat (fun v => v.2.toNat) ramSizes data kAdrRamSize
    rw [hconstruct, if_neg hshort, hrom, hram]
    cases mapAt cartridgeTypeMap data kAdrCartType with
    | error e => rfl
    | ok cartridgeType =>
      cases mapAt romSizes data kAdrRomSize with
      | error e => rfl
      | ok romSize =>
        cases mapAt ramSizes data kAdrRamSize with
        | error e => rfl
        | ok ramSize => rfl

/-! ## Keys -/

/-- If the byte at `adr`, as a number, is a key, then the lookup gives its entry. -/
def Finds {α : Type} (map : List (BitVec 32 × α)) (data : List U8) (adr : Nat) : Prop :=
  ∀ b v, data[adr]? = some b → map.lookup (b.setWidth 32) = some v → mapAt map data adr = .ok v

/-- No byte behind the end of the file is read, and every key that the header names is found. -/
structure Safe (data : List U8) : Prop where
  inFile : construct data ≠ .error (.outOfBounds "data")
  cartridgeType : Finds cartridgeTypeMap data kAdrCartType
  romSize : Finds romSizes data kAdrRomSize
  ramSize : Finds ramSizes data kAdrRamSize

theorem signExtend_of_lt : ∀ b : U8, b < 0x80 → b.signExtend 32 = b.setWidth 32 := by decide

theorem romSizes_keys : ∀ b : U8, (romSizes.lookup (b.setWidth 32)).isSome = true → b < 0x80 := by
  decide +kernel

theorem ramSizes_keys : ∀ b : U8, (ramSizes.lookup (b.setWidth 32)).isSome = true → b < 0x80 := by
  decide +kernel

theorem cartridgeTypeMap_keys : ∀ b : U8,
    (cartridgeTypeMap.lookup (b.setWidth 32)).isSome = true → b < 0x80 ∨ 0xFC ≤ b := by
  decide +kernel

/-- These are keys, but not as signed bytes. -/
theorem cartridgeTypeMap_negative : ∀ b : U8, 0xFC ≤ b →
    (cartridgeTypeMap.lookup (b.setWidth 32)).isSome = true ∧
      (cartridgeTypeMap.lookup (b.signExtend 32)).isSome = false := by
  decide +kernel

theorem finds_of_low {α : Type} {map : List (BitVec 32 × α)} {adr : Nat}
    (h : ∀ b, data[adr]? = some b → (map.lookup (b.setWidth 32)).isSome = true → b < 0x80) :
    Finds map data adr := by
  intro b v hb hv
  have hlow := h b hb (by rw [hv]; rfl)
  rw [mapAt, hb]
  dsimp only
  rw [signExtend_of_lt b hlow, hv]

theorem mapAt_ne_outOfBounds {α : Type} (map : List (BitVec 32 × α)) {adr : Nat}
    (h : adr < data.length) : mapAt map data adr ≠ .error (.outOfBounds "data") := by
  intro herror
  rw [mapAt, List.getElem?_eq_getElem h] at herror
  dsimp only at herror
  split at herror
  · cases herror
  · cases herror

theorem bind_ne_outOfBounds {α β : Type} {x : Except Fault α} {f : α → Except Fault β}
    {storage : String} (hx : x ≠ .error (.outOfBounds storage))
    (hf : ∀ a, f a ≠ .error (.outOfBounds storage)) :
    (x >>= f) ≠ .error (.outOfBounds storage) := by
  cases x with
  | error e => exact fun herror => hx (congrArg Except.error (Except.error.inj herror))
  | ok a => exact hf a

/-- The type is none of the four keys that are negative as `char`s. -/
def PlainType (data : List U8) : Prop := ∀ b, data[kAdrCartType]? = some b → b < 0xFC

/-- The constructor is safe exactly for files that reach the last byte it reads and whose type is
    not one of the four keys from 0xFC on. -/
theorem safe_iff (data : List U8) :
    Safe data ↔ kAdrOldLicense < data.length ∧ PlainType data := by
  constructor
  · intro h
    refine ⟨?_, fun b hb => ?_⟩
    · by_contra hshort
      exact h.inFile (construct_short (Nat.not_lt.mp hshort))
    · by_contra hhigh
      obtain ⟨hsome, hnone⟩ := cartridgeTypeMap_negative b (BitVec.not_lt.mp hhigh)
      obtain ⟨v, hv⟩ := Option.isSome_iff_exists.mp hsome
      have hfound := h.cartridgeType b v hb hv
      rw [mapAt, hb] at hfound
      dsimp only at hfound
      rw [Option.isSome_eq_false_iff, Option.isNone_iff_eq_none] at hnone
      rw [hnone] at hfound
      cases hfound
  · rintro ⟨hlong, hplain⟩
    refine ⟨?_, ?_, finds_of_low fun b _ => romSizes_keys b, finds_of_low fun b _ =>
      ramSizes_keys b⟩
    · obtain ⟨header, hconstruct⟩ := construct_eq hlong
      unfold kAdrOldLicense at hlong
      rw [hconstruct]
      refine bind_ne_outOfBounds (mapAt_ne_outOfBounds _ (by unfold kAdrCartType; omega)) ?_
      intro cartridgeType
      refine bind_ne_outOfBounds (mapAt_ne_outOfBounds _ (by unfold kAdrRomSize; omega)) ?_
      intro romSize
      refine bind_ne_outOfBounds (mapAt_ne_outOfBounds _ (by unfold kAdrRamSize; omega)) ?_
      intro ramSize herror
      cases herror
    · refine finds_of_low fun b hb hsome => ?_
      rcases cartridgeTypeMap_keys b hsome with hlow | hhigh
      · exact hlow
      · exact absurd (hplain b hb) (BitVec.not_lt.mpr hhigh)

/-- A game of type HuC1, and zeros. -/
def huc1Game : List U8 := (List.replicate 0x150 0).set kAdrCartType 0xFF

theorem huc1Game_type : huc1Game[kAdrCartType]? = some 0xFF := by decide +kernel

/-- The type 0xFF has an entry, and its lookup throws; a file of 0x100 bytes is read past its
    end. -/
theorem huc1_not_found :
    (cartridgeTypeMap.lookup 0xFF = some "HuC1+RAM+BAT" ∧
      mapAt cartridgeTypeMap huc1Game kAdrCartType =
        .error (.uncaught "std::out_of_range" "map::at") ∧
      construct (List.replicate 0x100 0) = .error (.outOfBounds "data")) ∧
    ¬ ∀ data, Safe data := by
  have hthrows : mapAt cartridgeTypeMap huc1Game kAdrCartType =
      .error (.uncaught "std::out_of_range" "map::at") := by
    rw [mapAt, huc1Game_type]
    rfl
  refine ⟨⟨by decide, hthrows, construct_short (by decide +kernel)⟩, fun h => ?_⟩
  have hfound := (h huc1Game).cartridgeType 0xFF "HuC1+RAM+BAT" huc1Game_type (by decide)
  rw [hthrows] at hfound
  cases hfound

end GameInfo

end TlmBoy
