import PromptStudio.Charset.Alias
import PromptStudio.Charset.Backslash
import PromptStudio.Charset.ByteTable
import PromptStudio.Charset.EastAsian
import PromptStudio.Charset.Gb18030
import PromptStudio.Charset.Shifting
import PromptStudio.Charset.Utf7
import PromptStudio.Failure.Fault
import PromptStudio.Text.Encoding
import PromptStudio.Text.Punycode

/-!
# Encodings of texts

`Charset.named?` finds the encoding of a name, and `Charset.decode` reads bytes in it. What is malformed becomes a
replacement character; only an encoding that reads no such bytes at all is a fault.
-/

namespace PromptStudio

/-- An encoding of texts. -/
inductive Charset where
  | utf8
  /-- A byte order mark at the start, even an unfinished one at the end, is no part of the text. -/
  | utf8Marked
  | utf16 (order : ByteOrder)
  | utf16Marked
  | utf32 (order : ByteOrder)
  | utf32Marked
  | ascii
  | latin1
  /-- Every byte is a character: those below 0x80 are ASCII. -/
  | upperHalf (chars : String)
  | wholeTable (chars : String)
  | pairs (code : Charset.PairCode)
  | reader (read : List Nat → Except Fault (List Char))
  | useless (cause : Fault)

namespace Charset

/-- The characters of Punycode. Bytes that are no ASCII are malformed among the basic characters, and a fault behind
them. -/
def readPunycode (bytes : List Nat) : Except Fault (List Char) :=
  let chars := bytes.map fun b => if b < 0x80 then Char.ofNat b else replacement
  if (Punycode.split chars).2.contains replacement then .error .undecodableBytes
  else .ok (Punycode.decodeLossy chars)

/-- The characters of the Japanese encoding whose first bytes cover two rows each, where the rest is the Japanese
variant of ASCII. -/
def readRomanShiftJis (bytes : List Nat) : Except Fault (List Char) :=
  .ok ((shiftJis.decode bytes).map fun c => if c.toNat < 0x80 then (jisRoman? c.toNat).getD c else c)

/-- The encodings that are no tables, by their own names. One that widens the plane of another is read as that one. -/
def proper : List (String × Charset) :=
  [("utf_8", utf8), ("utf_8_sig", utf8Marked), ("utf_16", utf16Marked), ("utf_16_be", utf16 .big),
    ("utf_16_le", utf16 .little), ("utf_32", utf32Marked), ("utf_32_be", utf32 .big), ("utf_32_le", utf32 .little),
    ("ascii", ascii), ("latin_1", latin1), ("iso8859_1", latin1), ("charmap", latin1),
    ("shift_jis", pairs shiftJis), ("cp932", pairs cp932), ("euc_jp", reader readEucJp), ("gb2312", pairs gb2312),
    ("gbk", pairs gbk), ("gb18030", reader readGb18030), ("hz", reader readHz), ("euc_kr", pairs eucKr),
    ("cp949", pairs cp949), ("big5", pairs big5), ("cp950", pairs cp950), ("iso2022_jp", reader iso2022Jp.decode),
    ("iso2022_jp_1", reader iso2022Jp1.decode), ("iso2022_jp_2", reader iso2022Jp2.decode),
    ("iso2022_jp_ext", reader iso2022JpExt.decode), ("iso2022_kr", reader iso2022Kr.decode),
    ("big5hkscs", pairs big5), ("euc_jis_2004", reader readEucJp), ("euc_jisx0213", reader readEucJp),
    ("shift_jis_2004", reader readRomanShiftJis), ("shift_jisx0213", reader readRomanShiftJis),
    ("iso2022_jp_3", reader iso2022Jp.decode), ("iso2022_jp_2004", reader iso2022Jp.decode),
    ("utf_7", reader fun b => .ok (Utf7.decode b)), ("punycode", reader readPunycode),
    ("unicode_escape", reader fun b => .ok (Backslash.decode b)),
    ("raw_unicode_escape", reader fun b => .ok (Backslash.decodeRaw b)), ("idna", useless .unreadableText),
    ("undefined", useless .unreadableText), ("base64_codec", useless .notTextual),
    ("bz2_codec", useless .notTextual), ("hex_codec", useless .notTextual), ("quopri_codec", useless .notTextual),
    ("uu_codec", useless .notTextual), ("zlib_codec", useless .notTextual), ("rot_13", useless .wrongKind)]

def ofOwnName? (name : String) : Option Charset :=
  ((proper.lookup name).or ((upperHalves.lookup name).map upperHalf)).or ((wholeTables.lookup name).map wholeTable)

def named? (cs : List Char) : Option Charset :=
  let name := plainName cs
  ((ownName? name).bind ofOwnName?).or (ofOwnName? name)

/-- The characters of 16-bit units; a surrogate that stands alone, and bytes that are left over, are malformed. -/
def decode16 (order : ByteOrder) : Bytes → List Char
  | [] => []
  | [_] => [replacement]
  | a :: b :: rest =>
    let u := Encoding.number order [a, b]
    if 0xDC00 ≤ u ∧ u < 0xE000 then replacement :: decode16 order rest
    else if u < 0xD800 ∨ 0xE000 ≤ u then Char.ofNat u :: decode16 order rest
    else
      match rest with
      | c :: d :: rest =>
        let v := Encoding.number order [c, d]
        if 0xDC00 ≤ v ∧ v < 0xE000 then
          Char.ofNat (0x10000 + 0x400 * (u - 0xD800) + (v - 0xDC00)) :: decode16 order rest
        else replacement :: decode16 order (c :: d :: rest)
      | _ => [replacement]

/-- The characters of 32-bit units; what is no character, and bytes that are left over, are malformed. -/
def decode32 (order : ByteOrder) : Bytes → List Char
  | a :: b :: c :: d :: rest =>
    let n := Encoding.number order [a, b, c, d]
    (if n.isValidChar then Char.ofNat n else replacement) :: decode32 order rest
  | [] => []
  | _ => [replacement]

def tableChar (start : Nat) (table : List Char) (b : Nat) : Char :=
  if b < start then Char.ofNat b else (table[b - start]?).getD replacement

def decode (charset : Charset) (bytes : Bytes) : Except Fault (List Char) :=
  match charset with
  | utf8 => .ok (Utf8.decodeLossy bytes)
  | utf8Marked =>
    let mark := [0xEF, 0xBB, 0xBF]
    if bytes.isPrefixOf mark then .ok []
    else .ok (Utf8.decodeLossy (if mark.isPrefixOf bytes then bytes.drop 3 else bytes))
  | utf16 order => .ok (decode16 order bytes)
  | utf16Marked =>
    match bytes with
    | 0xFE :: 0xFF :: rest => .ok (decode16 .big rest)
    | 0xFF :: 0xFE :: rest => .ok (decode16 .little rest)
    | _ => if bytes.length < 2 then .ok (decode16 .little bytes) else .error .unreadableText
  | utf32 order => .ok (decode32 order bytes)
  | utf32Marked =>
    match bytes with
    | 0x00 :: 0x00 :: 0xFE :: 0xFF :: rest => .ok (decode32 .big rest)
    | 0xFF :: 0xFE :: 0x00 :: 0x00 :: rest => .ok (decode32 .little rest)
    | _ => if bytes.length < 4 then .ok (decode32 .little bytes) else .error .unreadableText
  | ascii => .ok (bytes.map fun b => if b.toNat < 0x80 then Char.ofNat b.toNat else replacement)
  | latin1 => .ok (bytes.map fun b => Char.ofNat b.toNat)
  | upperHalf chars =>
    let table := chars.toList
    .ok (bytes.map fun b => tableChar 0x80 table b.toNat)
  | wholeTable chars =>
    let table := chars.toList
    .ok (bytes.map fun b => tableChar 0 table b.toNat)
  | pairs code => .ok (code.decode (bytes.map UInt8.toNat))
  | reader read => read (bytes.map UInt8.toNat)
  | useless cause => .error cause

end Charset

end PromptStudio
