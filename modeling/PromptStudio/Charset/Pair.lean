/-!
# One byte or two

Encodings in which a byte below 0x80 is ASCII, and a larger one is a character of its own or makes one together with
the byte behind it. A byte that does neither is malformed, and reading goes on behind it.
-/

namespace PromptStudio.Charset

def replacement : Char := '\uFFFD'

structure PairCode where
  single? : Nat → Option Char
  pair? : Nat → Nat → Option Char

namespace PairCode

def decode (code : PairCode) : List Nat → List Char
  | [] => []
  | [b] => [if b < 0x80 then Char.ofNat b else (code.single? b).getD replacement]
  | b :: trail :: rest =>
    if b < 0x80 then Char.ofNat b :: decode code (trail :: rest)
    else
      match code.single? b, code.pair? b trail with
      | some c, _ => c :: decode code (trail :: rest)
      | none, some c => c :: decode code rest
      | none, none => replacement :: decode code (trail :: rest)

end PairCode

def cell? (row : String) (cell : Nat) : Option Char :=
  (row.toList[cell]?).filter (· != replacement)

/-- The character in a row of a plane and a cell of the row, both counted from one. -/
def planeChar? (rows : List (Nat × String)) (row cell : Nat) : Option Char :=
  if cell = 0 then none else (rows.lookup row).bind (cell? · (cell - 1))

/-- A run of characters: the first byte of all, the second byte of the first, and the characters. -/
structure PairRun where
  lead : Nat
  trail : Nat
  chars : String

def runChar? (runs : List PairRun) (lead trail : Nat) : Option Char :=
  runs.findSome? fun r => if r.lead = lead ∧ r.trail ≤ trail then cell? r.chars (trail - r.trail) else none

/-- The numbers from `first` on, `count` of them, without those of an ascending list. -/
def without (first : Nat) : Nat → List Nat → List Nat
  | 0, _ => []
  | count + 1, taken =>
    let taken := taken.dropWhile (· < first)
    if taken.head? = some first then without (first + 1) count taken
    else first :: without (first + 1) count taken

/-- The position of a byte in ranges that stand one behind the other. -/
def position? : List (Nat × Nat) → Nat → Option Nat
  | [], _ => none
  | (low, high) :: rest, b =>
    if low ≤ b ∧ b ≤ high then some (b - low) else (position? rest b).map (· + (high + 1 - low))

/-- How many bytes stand in ranges. -/
def width (ranges : List (Nat × Nat)) : Nat :=
  ranges.foldl (fun n r => n + (r.2 + 1 - r.1)) 0

/-- The position of two bytes in a block: its first bytes, and the second bytes that each of them can have. -/
def blockPosition? (leads : Nat × Nat) (trails : List (Nat × Nat)) (lead trail : Nat) : Option Nat :=
  if leads.1 ≤ lead ∧ lead ≤ leads.2 then
    (position? trails trail).map fun p => (lead - leads.1) * width trails + p
  else none

def blocksPosition? : List ((Nat × Nat) × List (Nat × Nat)) → Nat → Nat → Option Nat
  | [], _, _ => none
  | (leads, trails) :: rest, lead, trail =>
    match blockPosition? leads trails lead trail with
    | some p => some p
    | none => (blocksPosition? rest lead trail).map (· + (leads.2 + 1 - leads.1) * width trails)

def planeNumbers (rows : List (Nat × String)) : List Nat :=
  (rows.flatMap fun r => r.2.toList.map Char.toNat).mergeSort

end PromptStudio.Charset
