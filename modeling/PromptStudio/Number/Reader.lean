import PromptStudio.Number.Binary64
import PromptStudio.Text.Integer

/-!
# Reading a double-precision number

A number in a setting is decimal, with an optional point and exponent, or one of the names of the numbers that have no
digits. `ofPlain?` reads the bare numeral; `ofString?` allows blanks around it, digits of any script and single
underscores between digits.
-/

namespace PromptStudio.Binary64

def asciiDigit? (c : Char) : Option Nat :=
  if '0' ≤ c ∧ c ≤ '9' then some (c.toNat - '0'.toNat) else none

def spanAsciiDigits (cs : List Char) : List Nat × List Char :=
  ((cs.takeWhile (·.isDigit)).filterMap asciiDigit?, cs.dropWhile (·.isDigit))

/-- The exponent at the end of a numeral; the empty text has exponent zero. -/
def exponent? (cs : List Char) : Option Int :=
  let digits (negative : Bool) (cs : List Char) : Option Int :=
    match spanAsciiDigits cs with
    | ([], _) => none
    | (ds, []) => some (if negative then -(Integer.ofDigits ds : Int) else Integer.ofDigits ds)
    | _ => none
  match cs with
  | [] => some 0
  | e :: rest =>
    if e = 'e' ∨ e = 'E' then
      match rest with
      | '+' :: more => digits false more
      | '-' :: more => digits true more
      | _ => digits false rest
    else none

def magnitude? (negative : Bool) (cs : List Char) : Option Binary64 :=
  let (whole, rest) := spanAsciiDigits cs
  let (places, rest) := match rest with
    | '.' :: more => spanAsciiDigits more
    | _ => ([], rest)
  if whole.isEmpty && places.isEmpty then none
  else (exponent? rest).map fun power =>
    ofDecimal negative (Integer.ofDigits (whole ++ places)) (power - places.length)

/-- A numeral or name behind its sign. -/
def unsigned? (negative : Bool) (cs : List Char) : Option Binary64 :=
  let name := String.ofList (cs.map Char.toLower)
  if name = "inf" ∨ name = "infinity" then some (.infinite negative)
  else if name = "nan" then some .nan
  else magnitude? negative cs

/-- A bare numeral or name with an optional sign. -/
def ofPlain? (cs : List Char) : Option Binary64 :=
  match cs with
  | '-' :: rest => unsigned? true rest
  | '+' :: rest => unsigned? false rest
  | _ => unsigned? false cs

def asciiDigits (cs : List Char) : List Char :=
  cs.map fun c => match Digit.value? c with
    | some d => Nat.digitChar d
    | none => c

/-- The text without its underscores, if each of them stands between two digits. -/
def withoutUnderscores? (previous : Char) : List Char → Option (List Char)
  | [] => if previous = '_' then none else some []
  | c :: rest =>
    if c = '_' then
      if previous.isDigit then withoutUnderscores? '_' rest else none
    else if previous = '_' ∧ !c.isDigit then none
    else (withoutUnderscores? c rest).map (c :: ·)

def ofString? (s : String) : Option Binary64 := do
  let plain ← withoutUnderscores? ' ' (asciiDigits (Integer.stripped s.toList))
  ofPlain? plain

end PromptStudio.Binary64
