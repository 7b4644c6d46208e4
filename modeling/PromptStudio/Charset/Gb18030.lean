import PromptStudio.Charset.EastAsian
import PromptStudio.Charset.Stream

/-!
# All characters behind the wide Chinese encoding

Two bytes for the characters of the wide Chinese encoding and for those of private use, and four for all others: those
of the basic plane in their order, and behind them those of the other planes.
-/

namespace PromptStudio.Charset

def privateBlocks : List ((Nat × Nat) × List (Nat × Nat)) :=
  [((0xAA, 0xAF), [(0xA1, 0xFE)]), ((0xF8, 0xFE), [(0xA1, 0xFE)]), ((0xA1, 0xA7), [(0x40, 0x7E), (0x80, 0xA0)])]

/-- The first character behind those of the pairs for private use. -/
def gapBase : Nat := 0xE766

/-- The pairs that are left over: the first byte, the second byte of the first pair, and how many pairs there are.
They hold private characters too. -/
def gaps : List (Nat × Nat × Nat) :=
  [(0xA2, 0xAB, 6), (0xA2, 0xE3, 2), (0xA2, 0xEF, 2), (0xA2, 0xFD, 2), (0xA4, 0xF4, 11), (0xA5, 0xF7, 8),
    (0xA6, 0xB9, 8), (0xA6, 0xD9, 7), (0xA6, 0xEC, 2), (0xA6, 0xF3, 1), (0xA6, 0xF6, 9), (0xA7, 0xC2, 15),
    (0xA7, 0xF2, 13), (0xA8, 0x96, 11), (0xA8, 0xBC, 1), (0xA8, 0xBF, 1), (0xA8, 0xC1, 4), (0xA8, 0xEA, 21),
    (0xA9, 0x58, 1), (0xA9, 0x5B, 1), (0xA9, 0x5D, 3), (0xA9, 0x89, 13), (0xA9, 0x97, 13), (0xA9, 0xF0, 15),
    (0xD7, 0xFA, 5), (0xFE, 0x50, 47), (0xFE, 0x80, 33)]

/-- Characters that have got a place of their own since, in runs, by the private character of the first. -/
def settled : List (Nat × String) :=
  [(0xE76C, "€"), (0xE7C8, "ǹ"), (0xE7E7, "〾⿰⿱⿲⿳⿴⿵⿶⿷⿸⿹⿺⿻"), (0xE815, "⺁"), (0xE819, "⺄㑳㑇⺈⺋"),
    (0xE81F, "㖞㘚㘎⺌⺗㥮㤘"), (0xE827, "㧏㧟㩳㧐"), (0xE82D, "㭎㱮㳠⺧"), (0xE833, "⺪䁖䅟⺮䌷⺳⺶⺷"), (0xE83C, "䎱䎬⺻䏝䓖䙡䙌"),
    (0xE844, "䜣䜩䝼䞍⻊䥇䥺䥽䦂䦃䦅䦆䦟䦛䦷䦶"), (0xE856, "䲣䲟䲠䲡䱷䲢䴓䴔䴕䴖䴗䴘䴙䶮")]

def settledChar (n : Nat) : Char :=
  let own? := settled.findSome? fun (start, chars) => if start ≤ n then chars.toList[n - start]? else none
  own?.getD (Char.ofNat n)

def gapPosition? (lead trail : Nat) : List (Nat × Nat × Nat) → Option Nat
  | [] => none
  | (first, start, count) :: rest =>
    if lead = first ∧ start ≤ trail ∧ trail < start + count then some (trail - start)
    else (gapPosition? lead trail rest).map (· + count)

def gb18030Pair? (lead trail : Nat) : Option Char :=
  (gbk.pair? lead trail).or
    (((blocksPosition? privateBlocks lead trail).map fun p => Char.ofNat (0xE000 + p)).or
      ((gapPosition? lead trail gaps).map fun p => settledChar (gapBase + p)))

/-- Characters of the plane in whose place the wide encoding has others. -/
def displaced : List Char := ['・', '―']

/-- The characters of two bytes, and the surrogates, in order: the first of a run and how many there are. -/
def takenRuns : List (Nat × Nat) :=
  let count := gaps.foldl (fun n g => n + g.2.2) 0
  let signs : List Char :=
    (gbRows.flatMap fun r => r.2.toList.filter (· ∉ displaced)) ++ gbkRuns.flatMap fun r => r.chars.toList
  let inGaps := (List.range count).map fun p => settledChar (gapBase + p)
  let singles := (signs ++ inGaps).filter fun c => c != replacement && (c.toNat < 0x4E00 || 0x9FA5 < c.toNat)
  ([(0x4E00, 20902), (0xD800, 0x800), (0xE000, gapBase - 0xE000)] ++ singles.map fun c : Char => (c.toNat, 1)).mergeSort
    fun a b => a.1 ≤ b.1

/-- The character at a position among those of the basic plane that take four bytes. -/
def fourByteChar (position : Nat) : Char :=
  Char.ofNat (takenRuns.foldl (fun n run => if run.1 ≤ n then n + run.2 else n) (0x80 + position))

def fourBytePosition (a b c d : Nat) : Nat :=
  ((a * 10 + (b - 0x30)) * 126 + (c - 0x81)) * 10 + (d - 0x30)

def fourByteChar? (a b c d : Nat) : Option Char :=
  if a < 0x81 ∨ 0xFE < a ∨ c < 0x81 ∨ 0xFE < c ∨ d < 0x30 ∨ 0x39 < d then none
  else if a < 0x85 then
    let position := fourBytePosition (a - 0x81) b c d
    if position < 39420 then some (fourByteChar position) else none
  else if a < 0x90 then none
  else
    let n := 0x10000 + fourBytePosition (a - 0x90) b c d
    if n < 0x110000 then some (Char.ofNat n) else none

def gb18030Step (_ : Unit) (b : Nat) (rest : List Nat) : Step Unit :=
  if b < 0x80 then .read [Char.ofNat b] () 0
  else
    match rest with
    | [] => .short
    | second :: more =>
      if 0x30 ≤ second ∧ second ≤ 0x39 then
        match more with
        | third :: fourth :: _ => .ofChar? () 3 (fourByteChar? b second third fourth)
        | _ => .short
      else .ofChar? () 1 (gb18030Pair? b second)

def readGb18030 (bytes : List Nat) : Except Fault (List Char) :=
  Step.readAll gb18030Step () bytes

end PromptStudio.Charset
