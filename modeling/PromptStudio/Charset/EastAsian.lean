import PromptStudio.Charset.Big5Plane
import PromptStudio.Charset.GbPlane
import PromptStudio.Charset.JisPlane
import PromptStudio.Charset.JisVendor
import PromptStudio.Charset.KsPlane
import PromptStudio.Charset.Pair

/-!
# East Asian encodings

Each of them lays the planes of characters out over pairs of bytes. The wider ones fill the pairs that a plane leaves
over with the characters of Unicode that the plane does not have, in their order.
-/

namespace PromptStudio.Charset

def halfWidth? (b : Nat) : Option Char :=
  if 0xA1 ≤ b ∧ b ≤ 0xDF then some (Char.ofNat (0xFF61 + (b - 0xA1))) else none

/-- Row and cell of a pair of bytes that are both counted from 0xA1. -/
def upperCell? (lead trail : Nat) : Option (Nat × Nat) :=
  if 0xA1 ≤ lead ∧ lead ≤ 0xFE ∧ 0xA1 ≤ trail ∧ trail ≤ 0xFE then some (lead - 0xA0, trail - 0xA0) else none

/-- The second bytes of a pair whose first byte covers two rows. -/
def shiftedTrails : List (Nat × Nat) := [(0x40, 0x7E), (0x80, 0xFC)]

/-- Row and cell of a pair of bytes whose first byte covers two rows. -/
def shiftedCell? (lead trail : Nat) : Option (Nat × Nat) :=
  let half? := if 0x81 ≤ lead ∧ lead ≤ 0x9F then some (lead - 0x81)
    else if 0xE0 ≤ lead ∧ lead ≤ 0xFC then some (lead - 0xC1) else none
  match half?, position? shiftedTrails trail with
  | some half, some p => some (2 * half + p / 94 + 1, p % 94 + 1)
  | _, _ => none

def jisChar? (at? : Option (Nat × Nat)) : Option Char :=
  at?.bind fun (row, cell) => planeChar? jisRows row cell

/-- The Japanese encoding whose first bytes cover two rows each. -/
def shiftJis : PairCode :=
  ⟨halfWidth?, fun lead trail => jisChar? (shiftedCell? lead trail)⟩

def fullWidthPartners : List (Char × Char) :=
  [('〜', '～'), ('‖', '∥'), ('−', '－'), ('¢', '￠'), ('£', '￡'), ('¬', '￢')]

/-- The Japanese encoding of a vendor: more rows, and an area of private use. -/
def cp932 : PairCode where
  single? b :=
    if b = 0x80 then some '\x80'
    else if b = 0xA0 then some '\uF8F0'
    else if 0xFD ≤ b then some (Char.ofNat (0xF8F1 + (b - 0xFD)))
    else halfWidth? b
  pair? lead trail :=
    match blockPosition? (0xF0, 0xF9) shiftedTrails lead trail with
    | some p => some (Char.ofNat (0xE000 + p))
    | none =>
      match jisChar? (shiftedCell? lead trail) with
      | some c => some ((fullWidthPartners.lookup c).getD c)
      | none => (shiftedCell? lead trail).bind fun (row, cell) => planeChar? jisVendorRows row cell

/-- The Japanese encoding in which half-width syllables have a first byte of their own. -/
def eucJp : PairCode :=
  ⟨fun _ => none, fun lead trail => if lead = 0x8E then halfWidth? trail else jisChar? (upperCell? lead trail)⟩

def gb2312 : PairCode :=
  ⟨fun _ => none, fun lead trail => (upperCell? lead trail).bind fun (row, cell) => planeChar? gbRows row cell⟩

def gbkRuns : List PairRun :=
  [⟨0xA1, 0xA4, "·"⟩, ⟨0xA1, 0xAA, "—"⟩, ⟨0xA2, 0xA1, "ⅰⅱⅲⅳⅴⅵⅶⅷⅸⅹ"⟩, ⟨0xA6, 0xE0, "︵︶︹︺︿﹀︽︾﹁﹂﹃﹄"⟩,
    ⟨0xA6, 0xEE, "︻︼︷︸︱"⟩, ⟨0xA6, 0xF4, "︳︴"⟩,
    ⟨0xA8, 0x40, "ˊˋ˙–―‥‵℅℉↖↗↘↙∕∟∣≒≦≧⊿═║╒╓╔╕╖╗╘╙╚╛╜╝╞╟╠╡╢╣╤╥╦╧╨╩╪╫╬╭╮╯╰╱╲╳▁▂▃▄▅▆▇"⟩,
    ⟨0xA8, 0x80, "█▉▊▋▌▍▎▏▓▔▕▼▽◢◣◤◥☉⊕〒〝〞"⟩, ⟨0xA8, 0xBB, "ɑ"⟩, ⟨0xA8, 0xBD, "ńň"⟩, ⟨0xA8, 0xC0, "ɡ"⟩,
    ⟨0xA9, 0x40, "〡〢〣〤〥〦〧〨〩㊣㎎㎏㎜㎝㎞㎡㏄㏎㏑㏒㏕︰￢￤"⟩, ⟨0xA9, 0x59, "℡㈱"⟩, ⟨0xA9, 0x5C, "‐"⟩,
    ⟨0xA9, 0x60, "ー゛゜ヽヾ〆ゝゞ﹉﹊﹋﹌﹍﹎﹏﹐﹑﹒﹔﹕﹖﹗﹙﹚﹛﹜﹝﹞﹟﹠﹡"⟩, ⟨0xA9, 0x80, "﹢﹣﹤﹥﹦﹨﹩﹪﹫"⟩, ⟨0xA9, 0x96, "〇"⟩,
    ⟨0xFD, 0x9C, "\uF92C\uF979\uF995\uF9E7\uF9F1"⟩,
    ⟨0xFE, 0x40, "\uFA0C\uFA0D\uFA0E\uFA0F\uFA11\uFA13\uFA14\uFA18\uFA1F\uFA20\uFA21\uFA23\uFA24\uFA27\uFA28\uFA29"⟩]

/-- The pairs of the wide Chinese encoding that hold what the plane leaves over. -/
def gbkBlocks : List ((Nat × Nat) × List (Nat × Nat)) :=
  [((0x81, 0xA0), [(0x40, 0x7E), (0x80, 0xFE)]), ((0xAA, 0xFE), [(0x40, 0x7E), (0x80, 0xA0)])]

def gbkOthers : Array Nat :=
  (without 0x4E00 20902 (planeNumbers gbRows)).toArray

def gbk : PairCode where
  single? _ := none
  pair? lead trail :=
    match runChar? gbkRuns lead trail with
    | some c => some c
    | none =>
      match gb2312.pair? lead trail with
      | some c => some c
      | none =>
        (blocksPosition? gbkBlocks lead trail).bind fun p => (gbkOthers[p]?).map Char.ofNat

def eucKr : PairCode :=
  ⟨fun _ => none, fun lead trail => (upperCell? lead trail).bind fun (row, cell) => planeChar? ksRows row cell⟩

/-- The pairs of the wide Korean encoding that hold what the plane leaves over. -/
def cp949Blocks : List ((Nat × Nat) × List (Nat × Nat)) :=
  [((0x81, 0xA0), [(0x41, 0x5A), (0x61, 0x7A), (0x81, 0xFE)]),
    ((0xA1, 0xC6), [(0x41, 0x5A), (0x61, 0x7A), (0x81, 0xA0)])]

def cp949Others : Array Nat :=
  (without 0xAC00 11172 (planeNumbers ksRows)).toArray

def cp949 : PairCode where
  single? _ := none
  pair? lead trail :=
    if lead = 0xA4 ∧ trail = 0xD4 then some '\u3164'
    else
      match eucKr.pair? lead trail with
      | some c => some c
      | none =>
        (blocksPosition? cp949Blocks lead trail).bind fun p => (cp949Others[p]?).map Char.ofNat

def big5 : PairCode where
  single? _ := none
  pair? lead trail := (position? [(0x40, 0x7E), (0xA1, 0xFE)] trail).bind fun p => planeChar? big5Rows lead (p + 1)

/-- Pairs of a vendor beside those of the encoding of traditional Chinese, and in place of some. -/
def cp950Runs : List PairRun :=
  [⟨0xA1, 0x45, "‧"⟩, ⟨0xA1, 0x4E, "﹑"⟩, ⟨0xA1, 0xC2, "¯"⟩, ⟨0xA1, 0xE3, "～"⟩, ⟨0xA1, 0xF2, "⊕⊙"⟩,
    ⟨0xA2, 0x41, "∕﹨"⟩, ⟨0xA2, 0x44, "￥"⟩, ⟨0xA2, 0x46, "￠￡"⟩, ⟨0xA3, 0xE1, "€"⟩,
    ⟨0xF9, 0xD6, "碁銹裏墻恒粧嫺╔╦╗╠╬╣╚╩╝╒╤╕╞╪╡╘╧╛╓╥╖╟╫╢╙╨╜║═╭╮╰╯▓"⟩]

def cp950 : PairCode where
  single? _ := none
  pair? lead trail :=
    match runChar? cp950Runs lead trail with
    | some c => some c
    | none => big5.pair? lead trail

end PromptStudio.Charset
