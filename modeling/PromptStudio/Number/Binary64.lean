/-!
# Double-precision numbers

The 64-bit binary floating-point numbers, exactly. A finite magnitude is counted by its rank: rank 0 is zero, and every
next rank is the next larger magnitude. All magnitudes are whole multiples of `2 ^ -1074`, and `units` gives the
multiple, so order, rounding and reading are arithmetic on natural numbers.
-/

namespace PromptStudio

abbrev Binary64.binade : Nat := Nat.pow 2 52

abbrev Binary64.rankCount : Nat := 2047 * Binary64.binade

/-- A double-precision number, with a single not-a-number. -/
inductive Binary64 where
  | nan
  | infinite (negative : Bool)
  | finite (negative : Bool) (rank : Fin Binary64.rankCount)
  deriving DecidableEq, Repr

/-- The quotient rounded to the nearest natural number; a half goes to the even neighbour. -/
def roundDiv (num den : Nat) : Nat :=
  let quotient := num / den
  let remainder := num % den
  if 2 * remainder < den then quotient
  else if den < 2 * remainder then quotient + 1
  else quotient + quotient % 2

namespace Binary64

def unitsPerOne : Nat := Nat.pow 2 1074

def units (rank : Nat) : Nat :=
  if rank < binade then rank
  else (binade + rank % binade) * Nat.pow 2 (rank / binade - 1)

/-- The rank nearest to the magnitude `num / den`; a half goes to the even rank. It may lie past the last finite one. -/
def rankOfRatio (num den : Nat) : Nat :=
  let scaled := num * unitsPerOne
  let shift := (scaled / den).log2 - 52
  shift * binade + roundDiv scaled (den * Nat.pow 2 shift)

/-- The number of a rank, infinite past the last finite rank. -/
def ofRank (negative : Bool) (rank : Nat) : Binary64 :=
  if h : rank < rankCount then .finite negative ⟨rank, h⟩ else .infinite negative

/-- The number nearest to `num / den`. -/
def ofRatio (negative : Bool) (num den : Nat) : Binary64 :=
  ofRank negative (rankOfRatio num den)

def zero (negative : Bool) : Binary64 :=
  .finite negative ⟨0, by decide⟩

def ofInt (n : Int) : Binary64 :=
  ofRatio (n < 0) n.natAbs 1

/-- How many decimal digits a positive number has; zero has none. -/
def digitCount (n : Nat) : Nat :=
  if n = 0 then 0 else (Nat.toDigits 10 n).length

/--
The number nearest to `digits · 10 ^ exponent`. A magnitude of `10 ^ 310` or more is infinite and one below `10 ^ -325`
is zero, whatever the digits are, so an exponent of any size is read at once.
-/
def ofDecimal (negative : Bool) (digits : Nat) (exponent : Int) : Binary64 :=
  let top := exponent + digitCount digits
  if digits = 0 then zero negative
  else if 310 < top then .infinite negative
  else if top < -325 then zero negative
  else if 0 ≤ exponent then ofRatio negative (digits * Nat.pow 10 exponent.toNat) 1
  else ofRatio negative digits (Nat.pow 10 (-exponent).toNat)

def isNegative : Binary64 → Bool
  | nan => false
  | infinite negative => negative
  | finite negative _ => negative

def isFinite : Binary64 → Bool
  | finite _ _ => true
  | _ => false

def isZero : Binary64 → Bool
  | finite _ rank => rank.val == 0
  | _ => false

def toInt? : Binary64 → Option Int
  | finite negative rank =>
    let magnitude := units rank
    if magnitude % unitsPerOne = 0 then
      let n : Int := (magnitude / unitsPerOne : Nat)
      some (if negative then -n else n)
    else none
  | _ => none

/-- A number's place in the order: the two zeros share a place, infinities stand outside, not-a-number has none. -/
def place? : Binary64 → Option Int
  | nan => none
  | infinite negative => some (if negative then -(rankCount : Int) else rankCount)
  | finite negative rank => some (if negative then -(rank.val : Int) else rank.val)

/-- `a ≤ b` on the number line; never true of not-a-number. -/
def le (a b : Binary64) : Bool :=
  match a.place?, b.place? with
  | some p, some q => p ≤ q
  | _, _ => false

/-- Equality on the number line: the two zeros are equal, not-a-number equals nothing. -/
def same (a b : Binary64) : Bool :=
  match a.place?, b.place? with
  | some p, some q => p == q
  | _, _ => false

end Binary64

end PromptStudio
