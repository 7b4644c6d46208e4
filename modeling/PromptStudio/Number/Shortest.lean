import PromptStudio.Number.Binary64

/-!
# The decimal text of a double-precision number

`shortest` finds the fewest decimal digits that read back as the same number, and of those the nearest. `toString` lays
them out: positional while the point stands between 4 places before the first digit and 16 behind it, else with an
exponent. `hundredths` is the other form in use, rounded to two places.
-/

namespace PromptStudio.Binary64

/-- A decimal numeral: `digits · 10 ^ exponent`. -/
structure Numeral where
  digits : Nat
  exponent : Int
  deriving DecidableEq, Repr

namespace Numeral

def rank (d : Numeral) : Nat :=
  if 0 ≤ d.exponent then rankOfRatio (d.digits * Nat.pow 10 d.exponent.toNat) 1
  else rankOfRatio d.digits (Nat.pow 10 (-d.exponent).toNat)

/-- Drops trailing zeros from the digits; `fuel` bounds how many. -/
def trim : Nat → Numeral → Numeral
  | 0, d => d
  | fuel + 1, d =>
    if d.digits ≠ 0 ∧ d.digits % 10 = 0 then trim fuel ⟨d.digits / 10, d.exponent + 1⟩ else d

end Numeral

def reaches (units : Nat) (exponent : Int) : Bool :=
  if 0 ≤ exponent then Nat.pow 10 exponent.toNat * unitsPerOne ≤ units
  else unitsPerOne ≤ units * Nat.pow 10 (-exponent).toNat

/-- The exponent of the leading decimal digit of a positive magnitude: the logarithm's estimate, moved by one if it is
off. -/
def leadingExponent (units : Nat) : Int :=
  let estimate := ((units.log2 : Int) - 1074) * 30103 / 100000
  if !reaches units estimate then estimate - 1
  else if reaches units (estimate + 1) then estimate + 1
  else estimate

/--
The nearest numeral of the grid `10 ^ exponent` that reads back as `rank`, if the grid has one. Only the two neighbours
of the magnitude can be nearest; of two at the same distance the even one is taken.
-/
def nearestOnGrid? (rank : Nat) (exponent : Int) : Option Numeral :=
  let magnitude := units rank
  let num := if 0 ≤ exponent then magnitude else magnitude * Nat.pow 10 (-exponent).toNat
  let den := if 0 ≤ exponent then unitsPerOne * Nat.pow 10 exponent.toNat else unitsPerOne
  let near : Numeral := ⟨roundDiv num den, exponent⟩
  let low : Numeral := ⟨num / den, exponent⟩
  let far : Numeral := if near = low then ⟨num / den + 1, exponent⟩ else low
  if near.rank = rank then some near
  else if far.rank = rank then some far
  else none

/-- The magnitude of a rank with all its digits: a multiple of `2 ^ -1074` has at most 1074 places. -/
def exactNumeral (rank : Nat) : Numeral :=
  ⟨units rank * Nat.pow 5 1074, -1074⟩

/-- The fewest digits, up to seventeen, that read back as the rank; all digits if none did. -/
def shortest (rank : Nat) : Numeral :=
  let lead := leadingExponent (units rank)
  let found := (List.range 17).findSome? fun (n : Nat) => nearestOnGrid? rank (lead - n)
  (found.getD (exactNumeral rank)).trim 1100

def digitsOf (n : Nat) : List Char :=
  Nat.toDigits 10 n

def exponentMark (exponent : Int) : List Char :=
  let digits := digitsOf exponent.natAbs
  'e' :: (if exponent < 0 then '-' else '+') :: (if digits.length < 2 then '0' :: digits else digits)

/-- Lays a numeral out: positional while its leading digit stands at an exponent from -4 to 15, else with an exponent
mark. -/
def layout (d : Numeral) : List Char :=
  let digits := digitsOf d.digits
  let point := (digits.length : Int) + d.exponent
  if -4 < point ∧ point ≤ 16 then
    if point ≤ 0 then
      '0' :: '.' :: (List.replicate (-point).toNat '0' ++ digits)
    else if (digits.length : Int) ≤ point then
      digits ++ List.replicate (point - digits.length).toNat '0' ++ ['.', '0']
    else
      digits.take point.toNat ++ '.' :: digits.drop point.toNat
  else
    let mantissa := match digits with
      | lead :: next :: rest => lead :: '.' :: next :: rest
      | short => short
    mantissa ++ exponentMark (point - 1)

def magnitudeText (rank : Nat) : List Char :=
  if rank = 0 then ['0', '.', '0'] else layout (shortest rank)

/-- The shortest text that reads back as the number, in lower case where it is no numeral. -/
def toChars : Binary64 → List Char
  | nan => ['n', 'a', 'n']
  | infinite negative => (if negative then ['-'] else []) ++ ['i', 'n', 'f']
  | finite negative rank => (if negative then ['-'] else []) ++ magnitudeText rank

def toString (x : Binary64) : String :=
  String.ofList x.toChars

/-- A magnitude rounded to hundredths; a half goes to the even neighbour. -/
def hundredths (rank : Nat) : Nat :=
  roundDiv (units rank * 100) unitsPerOne

def hundredthsText (n : Nat) : List Char :=
  digitsOf (n / 100) ++ ['.', Nat.digitChar (n % 100 / 10), Nat.digitChar (n % 10)]

def toFixed2 : Binary64 → List Char
  | nan => ['n', 'a', 'n']
  | infinite negative => (if negative then ['-'] else []) ++ ['i', 'n', 'f']
  | finite negative rank => (if negative then ['-'] else []) ++ hundredthsText (hundredths rank)

end PromptStudio.Binary64
