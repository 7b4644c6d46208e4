/-!
# Punycode

Any text in letters, digits and hyphens: the basic characters stand in front, and every other one is a number behind
them that tells what it is and where it stands. The digits of a number have weights that follow the size of the
numbers before.
-/

namespace PromptStudio.Punycode

def base : Nat := 36

def digit (value : Nat) : Char :=
  if value < 26 then Char.ofNat ('a'.toNat + value) else Char.ofNat ('0'.toNat + value - 26)

/-- The least value of a digit that is not the last of its number, at a place and under a bias. -/
def threshold (place bias : Nat) : Nat :=
  max 1 (min 26 (place - bias))

theorem threshold_lt_base (place bias : Nat) : threshold place bias < base := by
  simp only [threshold, base]
  omega

def digits (bias place n : Nat) : List Char :=
  let t := threshold place bias
  if n < t then [digit n]
  else digit (t + (n - t) % (base - t)) :: digits bias (place + base) ((n - t) / (base - t))
termination_by n
decreasing_by
  have := threshold_lt_base place bias
  have : 1 ≤ threshold place bias := by simp only [threshold]; omega
  exact Nat.lt_of_le_of_lt (Nat.div_le_self _ _) (by omega)

/-- The places that a damped number would take, and the number that is left of it. -/
def shrink (n : Nat) : Nat × Nat :=
  if n ≤ 455 then (0, n)
  else
    let (places, rest) := shrink (n / 35)
    (places + base, rest)
termination_by n
decreasing_by omega

/-- The bias behind a number, of which `count` characters are written then. -/
def adapt (isFirst : Bool) (n count : Nat) : Nat :=
  let damped := if isFirst then n / 700 else n / 2
  let (places, rest) := shrink (damped + damped / count)
  places + base * rest / (rest + 38)

/-- What is written so far, newest first, and where the writer stands. -/
structure Progress where
  written : List Char
  steps : Nat
  bias : Nat
  count : Nat

/-- One character of the text, where those of a number are written and those below it are there already. -/
def step (basic number : Nat) (p : Progress) (c : Char) : Progress :=
  if c.toNat < number then { p with steps := p.steps + 1 }
  else if c.toNat = number then
    { written := (digits p.bias base p.steps).reverse ++ p.written
      steps := 0
      bias := adapt (p.count == basic) p.steps (p.count + 1)
      count := p.count + 1 }
  else p

/-- Writes the characters of numbers, from the least up; `last` is the number that was written before. -/
def writeFrom (basic : Nat) (cs : List Char) (last : Nat) (p : Progress) : List Nat → Progress
  | [] => p
  | number :: rest =>
    let start := { p with steps := p.steps + (number - last) * (p.count + 1) }
    let done := cs.foldl (step basic number) start
    writeFrom basic cs (number + 1) { done with steps := done.steps + 1 } rest

def encode (cs : List Char) : List Char :=
  let basic := cs.filter (·.toNat < 0x80)
  let numbers := ((cs.map Char.toNat).filter (0x80 ≤ ·)).mergeSort.eraseDups
  let mark := if basic.isEmpty then [] else ['-']
  basic ++ mark ++ (writeFrom basic.length cs 0x80 ⟨[], 0, 72, basic.length⟩ numbers).written.reverse

def value? (c : Char) : Option Nat :=
  let n := c.toLower.toNat
  if 'a'.toNat ≤ n ∧ n ≤ 'z'.toNat then some (n - 'a'.toNat)
  else if c.isDigit then some (c.toNat - '0'.toNat + 26)
  else none

structure Reading where
  text : List Char
  point : Nat
  index : Nat
  bias : Nat
  isFirst : Bool

def Reading.put? (r : Reading) (steps : Nat) : Option Reading :=
  let places := r.text.length + 1
  let index := r.index + steps
  let point := r.point + index / places
  if h : point.isValidChar then
    some
      { text := r.text.insertIdx (index % places) (Char.ofNatAux point h)
        point
        index := index % places + 1
        bias := adapt r.isFirst steps places
        isFirst := false }
  else none

/-- Reads the numbers behind the mark; `weight` is that of the next digit of a number, `sum` what the digits before it
give. -/
def readFrom (place weight sum : Nat) (r : Reading) : List Char → Option (List Char)
  | [] => if place = base then some r.text else none
  | c :: rest => do
    let digit ← value? c
    let sum := sum + digit * weight
    let t := threshold place r.bias
    if digit < t then readFrom base 1 0 (← r.put? sum) rest
    else readFrom (place + base) (weight * (base - t)) sum r rest

/-- The basic characters, and the numbers behind the last hyphen. -/
def split (cs : List Char) : List Char × List Char :=
  let numbers := (cs.reverse.takeWhile (· != '-')).reverse
  ((cs.take (cs.length - numbers.length)).dropLast, numbers)

def decode? (cs : List Char) : Option (List Char) :=
  let (basic, numbers) := split cs
  readFrom base 1 0 ⟨basic, 0x80, 0, 72, true⟩ numbers

/-- Puts the character of a number into the text: a question mark, from which the next number counts then, where it
lies behind the last character, and a replacement character for a surrogate. -/
def Reading.putLossy (r : Reading) (steps : Nat) : Reading :=
  let places := r.text.length + 1
  let index := r.index + steps
  let reached := r.point + index / places
  let point := if reached < 0x110000 then reached else '?'.toNat
  { text := r.text.insertIdx (index % places) (if point.isValidChar then Char.ofNat point else '\uFFFD')
    point
    index := index % places + 1
    bias := adapt r.isFirst steps places
    isFirst := false }

def readLossyFrom (place weight sum : Nat) (r : Reading) : List Char → List Char
  | [] => r.text
  | c :: rest =>
    match value? c with
    | none => r.text
    | some digit =>
      let sum := sum + digit * weight
      let t := threshold place r.bias
      if digit < t then readLossyFrom base 1 0 (r.putLossy sum) rest
      else readLossyFrom (place + base) (weight * (base - t)) sum r rest

def decodeLossy (cs : List Char) : List Char :=
  let (basic, numbers) := split cs
  readLossyFrom base 1 0 ⟨basic, 0x80, 0, 72, true⟩ numbers

end PromptStudio.Punycode
