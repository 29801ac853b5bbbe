import TlmBoy.CompareFiles
import TlmBoy.Gdb.Arguments
import TlmBoy.Gdb.HexText
import TlmBoy.Lib.Bitmap
import TlmBoy.Ppu.Screenshot

/-
  The file that `DummyWindow::SaveScreenshot` writes, and the palette it takes its colours from.

  `Options::InitOpts` lets a palette through that consists of 24 hexadecimal digits, and the
  constructor of `Ppu` reads two digits for each channel. Whatever the palette and the state of
  the PPU, a reader of bitmaps finds in the file 160 by 144 pixels in the colours that the digits
  name (`screenshot_decodes`). `CompareFiles`, with which the tests compare such a file to a golden
  one, compares the colours (`compare_screenshots`).
-/

namespace TlmBoy

/-! ## `Options` -/

namespace Options

/-- `std::isxdigit`. -/
def isXDigit (c : U8) : Bool := (hexVal? c).isSome

/-- The checks of `color_palette` at the end of `InitOpts`, which exits with the message. -/
def checkColorPalette (colorPalette : Str) : Except String Unit :=
  if colorPalette.length ≠ 24 then
    .error "Invalid argument: Color palette string needs to be of length 24!"
  else if colorPalette.all isXDigit then .ok ()
  else .error "Invalid argument: Color palette needs to a hex string!!"

/-- The colour that the palette names for a colour number, as a pixel of a bitmap. -/
def pixel (colorPalette : Str) (c : Color) : Bitmap.Pixel where
  red := hexValue ((colorPalette.drop (6 * c.toNat)).take 2)
  green := hexValue ((colorPalette.drop (6 * c.toNat + 2)).take 2)
  blue := hexValue ((colorPalette.drop (6 * c.toNat + 4)).take 2)
  alpha := 255

end Options

/-- `std::stoul(str, nullptr, 16)`. -/
def stoul16 (str : Str) : Except GdbStop Nat := do
  let str := str.dropWhile isSpace
  let negative := str.head? = some (chr '-')
  let str := if negative ∨ str.head? = some (chr '+') then str.tail else str
  match leadingHex (skipHexPrefix str) with
  | none => throw (.invalidArgument "stoul")
  | some n =>
    if 2 ^ 64 ≤ n then
      throw (.outOfRange "stoul")
    return if negative then (2 ^ 64 - n) % 2 ^ 64 else n

namespace Ppu

/-! ## The constructor -/

/-- `color_palette[j][i]`. -/
def paletteEntry (colorPalette : Str) (j i : Nat) : Except GdbStop U8 := do
  let v ← GdbServer.substr colorPalette (6 * j + i * 2) 2 >>= stoul16
  return BitVec.ofNat 8 v

def paletteColor (colorPalette : Str) (j : Nat) : Except GdbStop Rgb := do
  let r ← paletteEntry colorPalette j 0
  let g ← paletteEntry colorPalette j 1
  let b ← paletteEntry colorPalette j 2
  return ⟨r, g, b⟩

/-- The loops of the constructor that fill `color_palette`. -/
def readPalette (colorPalette : Str) : Except GdbStop Palette := do
  let white ← paletteColor colorPalette 0
  let grey ← paletteColor colorPalette 1
  let darkGrey ← paletteColor colorPalette 2
  let black ← paletteColor colorPalette 3
  return fun c =>
    match c.toNat with
    | 0 => white
    | 1 => grey
    | 2 => darkGrey
    | _ => black

/-! ## `SaveScreenshot` -/

def writeU16 (v : BitVec 16) : List U8 := [v.setWidth 8, (v >>> 8).setWidth 8]

def writeU32 (v : BitVec 32) : List U8 :=
  [v.setWidth 8, (v >>> 8).setWidth 8, (v >>> 16).setWidth 8, (v >>> 24).setWidth 8]

def kLogWidth : Nat := 160
def kLogHeight : Nat := 144

/-- 32-bit ARGB, no row padding needed. -/
def kPixelDataSize : Nat := kLogWidth * kLogHeight * 4
def kFileSize : Nat := 14 + 108 + kPixelDataSize

/-- The file header and the `BITMAPV4HEADER`. -/
def bmpHeader : List U8 :=
  [chr 'B', chr 'M'] ++ writeU32 (BitVec.ofNat 32 kFileSize) ++ writeU16 0 ++ writeU16 0 ++
    writeU32 122 ++
  writeU32 108 ++ writeU32 (BitVec.ofNat 32 kLogWidth) ++ writeU32 (BitVec.ofNat 32 kLogHeight) ++
    writeU16 1 ++ writeU16 32 ++ writeU32 3 ++ writeU32 (BitVec.ofNat 32 kPixelDataSize) ++
    writeU32 0 ++ writeU32 0 ++ writeU32 0 ++ writeU32 0 ++
    writeU32 0x00FF0000 ++ writeU32 0x0000FF00 ++ writeU32 0x000000FF ++ writeU32 0xFF000000 ++
    writeU32 0x57696E20 ++ List.replicate 36 0 ++ writeU32 0 ++ writeU32 0 ++ writeU32 0

/-- The last row comes first. -/
def pixelRow (palette : Palette) (p : Ppu) (row : Fin 144) : List U8 :=
  (List.finRange 160).flatMap fun col => writeU32 (saveScreenshot palette p row col)

def screenshotFile (palette : Palette) (p : Ppu) : List U8 :=
  bmpHeader ++ (List.finRange 144).reverse.flatMap (pixelRow palette p)

/-- `DummyWindow::SaveScreenshot`. Without the stream nothing is written. -/
def saveScreenshotTo (filePath : String) (opens : Bool) (palette : Palette) (p : Ppu)
    (files : Files) : Files :=
  if opens then Function.update files filePath (some (screenshotFile palette p)) else files

/-- The colour number that a pixel shows. -/
def shown (p : Ppu) (y : Fin 144) (x : Fin 160) : Color :=
  (p.spriteBuffer y x).getD (p.bgBuffer y x)

/-! ## The palette -/

theorem stoul16_hex {s : Str} (h : HexDigits s) (hsmall : hexValue s < 2 ^ 64) :
    stoul16 s = .ok (hexValue s) := by
  have hleading := leadingHex_of_hex h
  have hskip := skipHexPrefix_of_hex h.2
  obtain ⟨c, rest, rfl⟩ := List.exists_cons_of_ne_nil h.1
  obtain ⟨hspace, hminus, hplus, -, -⟩ := hexVal_isSome c (h.2 c List.mem_cons_self)
  have hdrop : (c :: rest).dropWhile isSpace = c :: rest :=
    List.dropWhile_cons_of_neg (by rw [hspace]; exact Bool.false_ne_true)
  have hneg : ¬ (c :: rest).head? = some (chr '-') := fun heq => hminus (Option.some.inj heq)
  have hpos : ¬ (c :: rest).head? = some (chr '+') := fun heq => hplus (Option.some.inj heq)
  unfold stoul16
  dsimp only
  rw [hdrop, if_neg (not_or.mpr ⟨hneg, hpos⟩), hskip, hleading]
  dsimp only
  rw [if_neg (Nat.not_le.mpr hsmall), if_neg hneg]
  rfl

/-- What the checks of the options let through. -/
theorem checkColorPalette_ok {colorPalette : Str}
    (h : Options.checkColorPalette colorPalette = .ok ()) :
    colorPalette.length = 24 ∧ HexDigits colorPalette := by
  unfold Options.checkColorPalette at h
  split_ifs at h with hlength hdigits
  have hlong : colorPalette.length = 24 := not_not.mp hlength
  refine ⟨hlong, ?_, List.all_eq_true.mp hdigits⟩
  rintro rfl
  cases hlong

theorem paletteEntry_eq {colorPalette : Str} (hlength : colorPalette.length = 24)
    (hdigits : HexDigits colorPalette) {j i : Nat} (hj : j < 4) (hi : i < 3) :
    paletteEntry colorPalette j i =
      .ok (BitVec.ofNat 8 (hexValue ((colorPalette.drop (6 * j + i * 2)).take 2))) := by
  have hpart : HexDigits ((colorPalette.drop (6 * j + i * 2)).take 2) := by
    refine ⟨fun hnil => ?_, fun c hc =>
      hdigits.2 c (List.mem_of_mem_drop (List.mem_of_mem_take hc))⟩
    have hlen := congrArg List.length hnil
    rw [List.length_take, List.length_drop, List.length_nil] at hlen
    omega
  have hsmall : hexValue ((colorPalette.drop (6 * j + i * 2)).take 2) < 2 ^ 64 := by
    have hvalue := GdbServer.hexValue_lt ((colorPalette.drop (6 * j + i * 2)).take 2)
    have hpow : 16 ^ ((colorPalette.drop (6 * j + i * 2)).take 2).length ≤ 16 ^ 2 :=
      Nat.pow_le_pow_right (by decide) (List.length_take_le 2 _)
    omega
  unfold paletteEntry GdbServer.substr
  rw [if_pos (by omega)]
  show (stoul16 _ >>= _) = _
  rw [stoul16_hex hpart hsmall]
  rfl

/-- The constructor reads every palette that the options let through. -/
theorem readPalette_eq {colorPalette : Str}
    (h : Options.checkColorPalette colorPalette = .ok ()) :
    ∃ palette, readPalette colorPalette = .ok palette ∧ ∀ c : Color, palette c =
      { r := BitVec.ofNat 8 (hexValue ((colorPalette.drop (6 * c.toNat)).take 2))
        g := BitVec.ofNat 8 (hexValue ((colorPalette.drop (6 * c.toNat + 2)).take 2))
        b := BitVec.ofNat 8 (hexValue ((colorPalette.drop (6 * c.toNat + 4)).take 2)) } := by
  obtain ⟨hlength, hdigits⟩ := checkColorPalette_ok h
  have hcolor : ∀ j < 4, paletteColor colorPalette j = .ok
      { r := BitVec.ofNat 8 (hexValue ((colorPalette.drop (6 * j)).take 2))
        g := BitVec.ofNat 8 (hexValue ((colorPalette.drop (6 * j + 2)).take 2))
        b := BitVec.ofNat 8 (hexValue ((colorPalette.drop (6 * j + 4)).take 2)) } := by
    intro j hj
    unfold paletteColor
    rw [paletteEntry_eq hlength hdigits hj (show 0 < 3 by omega),
      paletteEntry_eq hlength hdigits hj (show 1 < 3 by omega),
      paletteEntry_eq hlength hdigits hj (show 2 < 3 by omega)]
    rfl
  unfold readPalette
  rw [hcolor 0 (by omega), hcolor 1 (by omega), hcolor 2 (by omega), hcolor 3 (by omega)]
  refine ⟨_, rfl, fun c => ?_⟩
  have hnumbers : ∀ c : Color, c = 0 ∨ c = 1 ∨ c = 2 ∨ c = 3 := by decide
  obtain rfl | rfl | rfl | rfl := hnumbers c
  · rfl
  · rfl
  · rfl
  · rfl

/-! ## The file -/

theorem value_writeU32 (v : BitVec 32) : Bitmap.value (writeU32 v) = v.toNat := by
  have hlt := v.isLt
  simp only [writeU32, Bitmap.value, List.foldr_cons, List.foldr_nil, BitVec.toNat_setWidth,
    BitVec.toNat_ushiftRight, Nat.shiftRight_eq_div_pow]
  omega

theorem length_bmpHeader : bmpHeader.length = 122 := by decide +kernel

theorem length_pixelRow (palette : Palette) (p : Ppu) (row : Fin 144) :
    (pixelRow palette p row).length = 640 := by
  have hlength := Bitmap.length_blocks (f := fun col => writeU32 (saveScreenshot palette p row col))
    (n := 4) (fun _ => rfl) (List.finRange 160)
  rw [List.length_finRange] at hlength
  exact hlength

theorem length_screenshotFile (palette : Palette) (p : Ppu) :
    (screenshotFile palette p).length = kFileSize := by
  have hlength := Bitmap.length_blocks (length_pixelRow palette p) (List.finRange 144).reverse
  rw [List.length_reverse, List.length_finRange] at hlength
  rw [screenshotFile, List.length_append, hlength, length_bmpHeader]
  rfl

theorem getElem?_finRange {n : Nat} (i : Fin n) : (List.finRange n)[i.val]? = some i := by
  rw [List.getElem?_eq_getElem (by rw [List.length_finRange]; exact i.isLt),
    List.getElem_finRange]
  rfl

theorem getElem?_finRange_reverse {n : Nat} (i : Fin n) :
    (List.finRange n).reverse[n - 1 - i.val]? = some i := by
  have hlt := i.isLt
  have hsub : n - 1 - (n - 1 - i.val) = i.val := by omega
  rw [List.getElem?_reverse (by rw [List.length_finRange]; omega), List.length_finRange, hsub]
  exact getElem?_finRange i

/-- A pixel is where the header says. -/
theorem pixelValue_screenshotFile (palette : Palette) (p : Ppu) (y : Fin 144) (x : Fin 160) :
    Bitmap.pixelValue (screenshotFile palette p) 122 160 144 y.val x.val =
      (saveScreenshot palette p y x).toNat := by
  have hy := getElem?_finRange_reverse y
  have hx : (List.finRange 160)[x.val]? = some x := getElem?_finRange x
  have hrow := Bitmap.drop_blocks (length_pixelRow palette p) hy
  have hpixel := Bitmap.drop_blocks
    (f := fun col => writeU32 (saveScreenshot palette p y col)) (n := 4) (fun _ => rfl) hx
  have hpos : 122 + 4 * (160 * (144 - 1 - y.val) + x.val) =
      bmpHeader.length + (640 * (144 - 1 - y.val) + 4 * x.val) := by
    rw [length_bmpHeader]
    omega
  have hinRow : 4 * x.val ≤ (pixelRow palette p y).length := by
    rw [length_pixelRow]
    omega
  unfold Bitmap.pixelValue screenshotFile
  rw [hpos, List.drop_length_add_append, ← List.drop_drop, hrow,
    List.drop_append_of_le_length hinRow, pixelRow, hpixel, List.append_assoc]
  exact value_writeU32 _

/-- The bytes of a pixel. -/
theorem argb_bytes (c : Rgb) :
    (((0xFF000000#32 ||| toTextureColor c) >>> 16).setWidth 8 = c.r ∧
      ((0xFF000000#32 ||| toTextureColor c) >>> 8).setWidth 8 = c.g) ∧
    ((0xFF000000#32 ||| toTextureColor c) >>> 0).setWidth 8 = c.b ∧
      ((0xFF000000#32 ||| toTextureColor c) >>> 24).setWidth 8 = (255 : U8) := by
  have hmask : ∀ i < 8, (0xFF000000#32).getLsbD (16 + i) = false ∧
      (0xFF000000#32).getLsbD (8 + i) = false ∧ (0xFF000000#32).getLsbD (0 + i) = false ∧
      (0xFF000000#32).getLsbD (24 + i) = true ∧ (255 : U8).getLsbD i = true := by decide
  refine ⟨⟨?_, ?_⟩, ?_, ?_⟩
  · refine BitVec.eq_of_getLsbD_eq fun i hi => ?_
    simp only [BitVec.getLsbD_setWidth, BitVec.getLsbD_ushiftRight, BitVec.getLsbD_or,
      (hmask i hi).1, hi, (getLsbD_textureColor c hi).1, decide_true, Bool.true_and,
      Bool.false_or]
  · refine BitVec.eq_of_getLsbD_eq fun i hi => ?_
    simp only [BitVec.getLsbD_setWidth, BitVec.getLsbD_ushiftRight, BitVec.getLsbD_or,
      (hmask i hi).2.1, hi, (getLsbD_textureColor c hi).2.1, decide_true, Bool.true_and,
      Bool.false_or]
  · refine BitVec.eq_of_getLsbD_eq fun i hi => ?_
    rw [BitVec.getLsbD_setWidth, BitVec.getLsbD_ushiftRight, BitVec.getLsbD_or,
      (hmask i hi).2.2.1, Nat.zero_add, (getLsbD_textureColor c hi).2.2]
    simp [hi]
  · refine BitVec.eq_of_getLsbD_eq fun i hi => ?_
    simp only [BitVec.getLsbD_setWidth, BitVec.getLsbD_ushiftRight, BitVec.getLsbD_or,
      (hmask i hi).2.2.2.1, (hmask i hi).2.2.2.2, hi, decide_true, Bool.true_and, Bool.true_or]

/-- A mask of eight bits takes a byte out of a pixel. -/
theorem channel_eq {mask k : Nat} (hlowest : Nat.gcd mask (2 ^ 32) = 2 ^ k)
    (hmask : mask >>> k = 255) (v : BitVec 32) :
    Bitmap.channel mask v.toNat = ((v >>> k).setWidth 8).toNat := by
  unfold Bitmap.channel
  rw [hlowest, ← Nat.shiftRight_eq_div_pow, Nat.shiftRight_and_distrib, hmask,
    BitVec.toNat_setWidth, BitVec.toNat_ushiftRight]
  exact Nat.and_two_pow_sub_one_eq_mod _ 8

/-- A reader of bitmaps finds the picture in the file. -/
theorem decode_screenshotFile (palette : Palette) (p : Ppu) :
    Bitmap.decode (screenshotFile palette p) = some {
      width := 160, height := 144
      pixel := fun y x =>
        { red := (palette (p.shown y x)).r.toNat
          green := (palette (p.shown y x)).g.toNat
          blue := (palette (p.shown y x)).b.toNat
          alpha := 255 } } := by
  have hfield : ∀ pos n v, pos + n ≤ 122 ∧ Bitmap.field bmpHeader pos n = some v →
      Bitmap.field (screenshotFile palette p) pos n = some v := by
    intro pos n v h
    rw [← h.2]
    exact Bitmap.field_append (length_bmpHeader ▸ h.1) _
  have hlength := length_screenshotFile palette p
  rw [@Bitmap.decode_eq (screenshotFile palette p) 122 160 144 0x00FF0000 0x0000FF00
    0x000000FF 0xFF000000 (hfield _ _ _ (by decide +kernel))
    (by rw [hlength]; exact hfield _ _ _ (by decide +kernel))
    (hfield _ _ _ (by decide +kernel)) (hfield _ _ _ (by decide +kernel))
    (hfield _ _ _ (by decide +kernel)) (by decide)
    ⟨hfield _ _ _ (by decide +kernel), hfield _ _ _ (by decide +kernel),
      hfield _ _ _ (by decide +kernel), hfield _ _ _ (by decide +kernel)⟩
    (hfield _ _ _ (by decide +kernel)) (hfield _ _ _ (by decide +kernel))
    (hfield _ _ _ (by decide +kernel)) (hfield _ _ _ (by decide +kernel))
    (by rw [hlength]; decide)]
  have hpixel : ∀ (y : Fin 144) (x : Fin 160),
      (let v := Bitmap.pixelValue (screenshotFile palette p) 122 160 144 y.val x.val
      ({ red := Bitmap.channel 0x00FF0000 v, green := Bitmap.channel 0x0000FF00 v,
         blue := Bitmap.channel 0x000000FF v, alpha := Bitmap.channel 0xFF000000 v } :
        Bitmap.Pixel)) =
      { red := (palette (p.shown y x)).r.toNat, green := (palette (p.shown y x)).g.toNat,
        blue := (palette (p.shown y x)).b.toNat, alpha := 255 } := by
    intro y x
    have hcolor : saveScreenshot palette p y x =
        0xFF000000#32 ||| toTextureColor (palette (p.shown y x)) := saveScreenshot_eq palette p y x
    obtain ⟨⟨hr, hg⟩, hb, ha⟩ := argb_bytes (palette (p.shown y x))
    dsimp only
    rw [pixelValue_screenshotFile, hcolor, @channel_eq 0x00FF0000 16 (by decide) (by decide),
      @channel_eq 0x0000FF00 8 (by decide) (by decide),
      @channel_eq 0x000000FF 0 (by decide) (by decide),
      @channel_eq 0xFF000000 24 (by decide) (by decide), hr, hg, hb, ha]
    rfl
  exact congrArg (fun pixel => some (Bitmap.mk 160 144 pixel))
    (funext fun y => funext fun x => hpixel y x)

/-- For every palette that the options let through and every state of the PPU: the constructor
    reads the palette, and in the file that `SaveScreenshot` writes a reader of bitmaps finds the
    screen, each pixel in the colour that the digits name for what it shows. -/
theorem screenshot_decodes {colorPalette : Str}
    (hpalette : Options.checkColorPalette colorPalette = .ok ()) (p : Ppu) (filePath : String)
    (files : Files) : ∃ palette file, readPalette colorPalette = .ok palette ∧
      saveScreenshotTo filePath true palette p files filePath = some file ∧
      Bitmap.decode file = some {
        width := 160, height := 144
        pixel := fun y x => Options.pixel colorPalette (p.shown y x) } := by
  obtain ⟨palette, hread, hcolors⟩ := readPalette_eq hpalette
  refine ⟨palette, screenshotFile palette p, hread, Function.update_self .., ?_⟩
  have hbyte : ∀ pos, (BitVec.ofNat 8 (hexValue ((colorPalette.drop pos).take 2))).toNat =
      hexValue ((colorPalette.drop pos).take 2) := by
    intro pos
    have hvalue := GdbServer.hexValue_lt ((colorPalette.drop pos).take 2)
    have hpow : 16 ^ ((colorPalette.drop pos).take 2).length ≤ 16 ^ 2 :=
      Nat.pow_le_pow_right (by decide) (List.length_take_le 2 _)
    exact Nat.mod_eq_of_lt (by omega)
  rw [decode_screenshotFile]
  refine congrArg (fun pixel => some (Bitmap.mk 160 144 pixel)) ?_
  funext y x
  rw [hcolors, hbyte, hbyte, hbyte]
  rfl

/-- Stripes in the four colours, with a sprite's black pixel in the corner. -/
def stripes : Ppu :=
  { init 0 with
    bgBuffer := fun _ x => BitVec.ofNat 2 x.val
    spriteBuffer := fun y x => if y = 0 ∧ x = 0 then some 3 else none }

/-- The default palette. -/
theorem default_palette_decodes : ∃ palette file pixel,
    readPalette (str "f2ffd9aaaaaa555555000000") = .ok palette ∧
    saveScreenshotTo "shot.bmp" true palette stripes (fun _ => none) "shot.bmp" = some file ∧
    Bitmap.decode file = some { width := 160, height := 144, pixel } ∧
    pixel 0 0 = ⟨0x00, 0x00, 0x00, 255⟩ ∧ pixel 0 1 = ⟨0xAA, 0xAA, 0xAA, 255⟩ ∧
    pixel 0 2 = ⟨0x55, 0x55, 0x55, 255⟩ ∧ pixel 143 4 = ⟨0xF2, 0xFF, 0xD9, 255⟩ := by
  have hpalette : Options.checkColorPalette (str "f2ffd9aaaaaa555555000000") = .ok () := by
    decide +kernel
  obtain ⟨palette, file, hread, hsave, hdecode⟩ :=
    screenshot_decodes hpalette stripes "shot.bmp" fun _ => none
  exact ⟨palette, file, _, hread, hsave, hdecode, by decide, by decide, by decide, by decide⟩

/-! ## Comparing screenshots -/

theorem screenshotFile_inj {palette palette' : Palette} {p p' : Ppu} :
    screenshotFile palette p = screenshotFile palette' p' ↔
      ∀ y x, palette (p.shown y x) = palette' (p'.shown y x) := by
  constructor
  · intro heq y x
    have hpixel := pixelValue_screenshotFile palette p y x
    rw [heq, pixelValue_screenshotFile, saveScreenshot_eq, saveScreenshot_eq,
      BitVec.toNat_inj] at hpixel
    exact (argb_inj hpixel).symm
  · intro hsame
    have hpixel : saveScreenshot palette p = saveScreenshot palette' p' := by
      funext y x
      rw [saveScreenshot_eq, saveScreenshot_eq]
      exact congrArg (fun c => 0xFF000000#32 ||| toTextureColor c) (hsame y x)
    unfold screenshotFile pixelRow
    rw [hpixel]

/-- Two screenshots are the same for `CompareFiles` exactly if they show the same colours. -/
theorem compare_screenshots {path path' : String} (hpath : path ≠ path')
    (palette palette' : Palette) (p p' : Ppu) (files : Files) (buf1 buf2 : FileBuffer) :
    compareFiles (saveScreenshotTo path' true palette' p'
        (saveScreenshotTo path true palette p files)) path path' buf1 buf2 91 =
      .ok (decide (∀ y x, palette (p.shown y x) = palette' (p'.shown y x))) := by
  have hfirst : saveScreenshotTo path' true palette' p'
      (saveScreenshotTo path true palette p files) path = some (screenshotFile palette p) := by
    show Function.update (Function.update files path _) path' _ path = _
    rw [Function.update_of_ne hpath, Function.update_self]
  have hsecond : saveScreenshotTo path' true palette' p'
      (saveScreenshotTo path true palette p files) path' =
      some (screenshotFile palette' p') := Function.update_self ..
  unfold compareFiles
  rw [hfirst, hsecond]
  dsimp only
  rw [compareLoop_eq 91 buf1 buf2 _ _ rfl rfl (by
    rw [length_screenshotFile]
    decide)]
  exact congrArg Except.ok (decide_eq_decide.mpr screenshotFile_inj)

/-- The same stripes in the sprite buffer. -/
def spriteStripes : Ppu :=
  { init 1 with
    spriteBuffer := fun y x => some (if y = 0 ∧ x = 0 then 3 else BitVec.ofNat 2 x.val) }

/-- They look the same, and a blank screen does not. -/
theorem same_screenshots :
    compareFiles (saveScreenshotTo "b.bmp" true Film.reds spriteStripes
      (saveScreenshotTo "a.bmp" true Film.reds stripes fun _ => none)) "a.bmp" "b.bmp"
      (fun _ => 0) (fun _ => 0xCD) 91 = .ok true ∧
    compareFiles (saveScreenshotTo "b.bmp" true Film.reds (init 0)
      (saveScreenshotTo "a.bmp" true Film.reds stripes fun _ => none)) "a.bmp" "b.bmp"
      (fun _ => 0) (fun _ => 0xCD) 91 = .ok false := by
  have hpath : "a.bmp" ≠ "b.bmp" := by decide
  rw [compare_screenshots hpath, compare_screenshots hpath]
  have hsame : ∀ y x, stripes.shown y x = spriteStripes.shown y x := by
    intro y x
    unfold shown stripes spriteStripes
    dsimp only
    split_ifs <;> rfl
  have hother : ¬ ∀ y x, Film.reds (stripes.shown y x) = Film.reds ((init 0).shown y x) :=
    fun h => absurd (h 0 0) (by decide)
  exact ⟨congrArg Except.ok (decide_eq_true fun y x => congrArg Film.reds (hsame y x)),
    congrArg Except.ok (decide_eq_false hother)⟩

end Ppu

end TlmBoy
