import PromptStudio.Text.Composition
import PromptStudio.Text.Direction
import PromptStudio.Text.DomainTable
import PromptStudio.Text.Joining
import PromptStudio.Text.Lowercase
import PromptStudio.Text.Punycode

/-!
# Names of domains

A name is cut into labels by its points. One outside ASCII is written label by label in Punycode, if every label is
one that a domain may have: its characters are allowed where they stand, its letters are composed, and its directions
go together.
-/

namespace PromptStudio

namespace DomainName

/-- The scripts of which a label needs a letter to hold a middle dot of Japanese. -/
def japaneseRanges : List (Nat × Nat) :=
  [(0x3005, 0x3007), (0x3021, 0x3029), (0x3038, 0x303B), (0x3041, 0x3096), (0x309D, 0x309F), (0x30A1, 0x30FA),
    (0x30FD, 0x30FF), (0x31F0, 0x31FF), (0x3400, 0x4DBF), (0x4E00, 0x9FFF), (0xF900, 0xFAD9), (0x1AFF0, 0x1B167),
    (0x20000, 0x323AF)]

def vowelKiller : Nat := 9

/-- Whether a joiner has its place behind some code points, the nearest first, and before others. -/
def fitsJoiner (before behind : List Nat) (n : Nat) : Bool :=
  before.head?.any (Composition.place · == vowelKiller) || (n == 0x200C && Joining.joins before behind)

/--
Whether a code point that only fits some places of a label fits here: `before` is what stands before it, the nearest
first, and `behind` what follows.
-/
def fitsContext (label before behind : List Nat) (n : Nat) : Bool :=
  if n = 0xB7 then before.head? == some 'l'.toNat && behind.head? == some 'l'.toNat
  else if n = 0x375 then behind.head?.any (inRanges [(0x370, 0x3FF), (0x1F00, 0x1FFE)])
  else if n = 0x5F3 ∨ n = 0x5F4 then before.head?.any (inRanges [(0x591, 0x5F4)])
  else if n = 0x30FB then label.any (inRanges japaneseRanges)
  else if 0x660 ≤ n ∧ n ≤ 0x669 then !label.any (inRanges [(0x6F0, 0x6F9)])
  else if 0x6F0 ≤ n ∧ n ≤ 0x6F9 then !label.any (inRanges [(0x660, 0x669)])
  else if n = 0x200C ∨ n = 0x200D then fitsJoiner before behind n
  else false

/-- Whether a label holds only what it may; `before` is what stands before the code points that are left. -/
def holdsOnlyFitting (label before : List Nat) : List Nat → Bool
  | [] => true
  | n :: rest =>
    (isDomainPoint n || fitsContext label before rest n) && holdsOnlyFitting label (n :: before) rest

/-- Whether a direction can end a label, marks aside, that is written from right to left or from left to right. -/
def canEnd (fromRight : Bool) (d : Direction) : Bool :=
  match d with
  | .digit => true
  | .leftward | .arabic | .arabicDigit => fromRight
  | .rightward => !fromRight
  | .mark | .neutral => false

def canHold (fromRight : Bool) (d : Direction) : Bool :=
  match d with
  | .digit | .mark | .neutral => true
  | .leftward | .arabic | .arabicDigit => fromRight
  | .rightward => !fromRight

/--
Whether the directions of a label go together. One without letters and digits from right to left has nothing to mix; any
other starts with a letter and has no others than those of its direction, and digits of one kind.
-/
def goTogether (directions : List Direction) : Bool :=
  if !directions.any fun d => d == .leftward || d == .arabic || d == .arabicDigit then true
  else
    let start := directions.headD .neutral
    let fromRight := start == .leftward || start == .arabic
    (fromRight || start == .rightward) && directions.all (canHold fromRight)
      && (directions.reverse.find? (· != .mark)).any (canEnd fromRight)
      && !(fromRight && directions.contains .digit && directions.contains .arabicDigit)

def isHyphenated (label : List Char) : Bool :=
  !((label.drop 2).take 2 == ['-', '-'] || label.head? == some '-' || label.getLast? == some '-')

def isLabel (label : List Char) : Bool :=
  let points := label.map Char.toNat
  !label.isEmpty && isHyphenated label && !points.head?.any isDomainMark && holdsOnlyFitting points [] points
    && Composition.isComposed points && goTogether (points.map Direction.ofPoint)

def punycodeMark : List Char := ['x', 'n', '-', '-']

def maxLabelLength : Nat := 63

def maxLength : Nat := 253

/-- Whether what stands behind the mark of Punycode spells a label in lower case. -/
def spellsLabel (cs : List Char) : Bool :=
  cs.getLast? != some '-' && (Punycode.decode? cs).any fun label => isLabel label && label.map Lowercase.char == label

/-- A label in ASCII; one that is in Punycode already has to spell a label. -/
def encodeLabel? (label : List Char) : Option (List Char) :=
  let isAscii := label.all (·.toNat < 0x80)
  let isCoded := isAscii && punycodeMark.isPrefixOf label
  let isGood := if isCoded then spellsLabel (label.drop punycodeMark.length) else isLabel label
  let written := if isAscii then label else punycodeMark ++ Punycode.encode label
  if isGood && written.length ≤ maxLabelLength then some written else none

def isDot (c : Char) : Bool :=
  c == '.' || c == '\u3002' || c == '\uFF0E' || c == '\uFF61'

def encode? (name : List Char) : Option (List Char) := do
  let labels := name.splitOnP isDot
  let isClosed := labels.getLast? == some []
  let coded ← (if isClosed then labels.dropLast else labels).mapM encodeLabel?
  let joined := ['.'].intercalate coded
  if coded.isEmpty || maxLength < joined.length then none
  else some (if isClosed then joined ++ ['.'] else joined)

end DomainName

end PromptStudio
