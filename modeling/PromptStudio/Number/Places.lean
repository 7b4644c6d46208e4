import PromptStudio.Number.Shortest

/-!
# Numbers with a count of places

A magnitude is rounded exactly and laid out in one of three ways: with a fixed count of places, with one digit before
the point and an exponent, or with a count of digits in whichever of the two ways is the shorter one. A half goes to
the even neighbour; `generalTextBy` leaves the rounding open.
-/

namespace PromptStudio.Binary64

/-- Digits cut into those before the point and a number of places, with at least one digit before the point. -/
def cutPlaces (places : Nat) (digits : List Char) : List Char × List Char :=
  let digits := List.replicate (places + 1 - digits.length) '0' ++ digits
  (digits.take (digits.length - places), digits.drop (digits.length - places))

/-- Two parts with a point between them; without places there is no point, unless it is `kept`. -/
def joinPlaces (kept : Bool) (parts : List Char × List Char) : List Char :=
  if parts.2.isEmpty && !kept then parts.1 else parts.1 ++ '.' :: parts.2

def fixedText (kept : Bool) (places rank : Nat) : List Char :=
  joinPlaces kept (cutPlaces places (digitsOf (roundDiv (units rank * Nat.pow 10 places) unitsPerOne)))

def roundAt (round : Nat → Nat → Nat) (rank : Nat) (exponent : Int) : Nat :=
  if 0 ≤ exponent then round (units rank) (unitsPerOne * Nat.pow 10 exponent.toNat)
  else round (units rank * Nat.pow 10 (-exponent).toNat) unitsPerOne

def leadingDigits (round : Nat → Nat → Nat) (places rank : Nat) : List Char × Int :=
  if rank = 0 then (List.replicate (places + 1) '0', 0)
  else
    let lead := leadingExponent (units rank)
    let digits := digitsOf (roundAt round rank (lead - places))
    if digits.length ≤ places + 1 then (digits, lead) else (digits.take (places + 1), lead + 1)

def scientificText (kept : Bool) (places rank : Nat) : List Char :=
  let (digits, exponent) := leadingDigits roundDiv places rank
  joinPlaces kept (cutPlaces places digits) ++ exponentMark exponent

def withoutZeros (digits : List Char) : List Char :=
  (digits.reverse.dropWhile (· == '0')).reverse

/--
A magnitude with a count of digits, rounded as `round` rounds a quotient: with an exponent where the leading digit
stands below the fourth place or past the last digit. Zeros at the end go, unless they are `kept`.
-/
def generalTextBy (round : Nat → Nat → Nat) (kept : Bool) (count rank : Nat) : List Char :=
  let count := max 1 count
  let (digits, exponent) := leadingDigits round (count - 1) rank
  let cleaned (parts : List Char × List Char) : List Char × List Char :=
    if kept then parts else (parts.1, withoutZeros parts.2)
  if exponent < -4 ∨ (count : Int) ≤ exponent then
    joinPlaces kept (cleaned (cutPlaces (count - 1) digits)) ++ exponentMark exponent
  else joinPlaces kept (cleaned (cutPlaces (count - 1 - exponent).toNat digits))

/-- A magnitude with a count of digits, a half rounded to the even neighbour. -/
def generalText (kept : Bool) (count rank : Nat) : List Char :=
  generalTextBy roundDiv kept count rank

end PromptStudio.Binary64
