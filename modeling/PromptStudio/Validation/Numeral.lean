import PromptStudio.Number.Reader
import PromptStudio.Validation.Issue

/-!
# Numerals in inputs

A number may arrive as a text. A plain integer is read as it is. Any other text is brought into plain form first: blanks
around it, a plus sign, leading zeros, a point with nothing but zeros behind it and single underscores go. A float is a
bare numeral, or one with single underscores.
-/

namespace PromptStudio.Numeral

/-- A plain integer: an optional minus sign and digits without leading zeros. -/
def plainInt (cs : List Char) : Except IssueKind Int :=
  let (negative, digits) := match cs with
    | '-' :: rest => (true, rest)
    | _ => (false, cs)
  if digits.isEmpty || !digits.all Char.isDigit || (digits.head? == some '0' && 1 < digits.length) then
    .error .intParsing
  else if Integer.maxDigits < digits.length then .error .intParsingSize
  else
    let n : Int := Integer.ofDigits (digits.filterMap Binary64.asciiDigit?)
    .ok (if negative then -n else n)

/-- What is left behind zeros and underscores; `last` is the character before. -/
def behindZeros (last : Char) : List Char → Option (List Char)
  | [] => some [last]
  | c :: rest =>
    if c = '0' ∨ c = '_' then behindZeros c rest
    else if c.isDigit ∨ c = '-' then some (c :: rest)
    else if c = '.' then some (last :: c :: rest)
    else none

/-- The text without leading zeros; it has to start with a digit or a minus sign. -/
def withoutLeadingZeros? : List Char → Option (List Char)
  | [] => none
  | c :: rest =>
    if c = '0' then behindZeros c rest
    else if c.isDigit ∨ c = '-' then some (c :: rest)
    else none

def wholePart (cs : List Char) : List Char :=
  let places := (cs.dropWhile (· != '.')).drop 1
  if !places.isEmpty && places.all (· == '0') then cs.takeWhile (· != '.') else cs

def hasDoubled : List Char → Bool
  | '_' :: '_' :: _ => true
  | _ :: rest => hasDoubled rest
  | [] => false

/-- The text without its underscores, if they are single and none stands at an end. -/
def joined? (cs : List Char) : Option (List Char) :=
  if cs.head? = some '_' ∨ cs.getLast? = some '_' ∨ hasDoubled cs then none
  else some (cs.filter (· != '_'))

def plainMagnitude? (cs : List Char) : Option (List Char) := do
  let digits ← withoutLeadingZeros? cs
  joined? (wholePart digits)

/-- The plain form of an integer; a minus sign may not follow a plus sign. -/
def plain? (cs : List Char) : Option (List Char) :=
  match Integer.stripped cs with
  | '+' :: '-' :: _ => none
  | '+' :: rest => plainMagnitude? rest
  | '-' :: rest => (plainMagnitude? rest).map ('-' :: ·)
  | rest => plainMagnitude? rest

def int (cs : List Char) : Except IssueKind Int :=
  match plainInt cs with
  | .error .intParsing =>
    match (plain? cs).map plainInt with
    | some (.ok n) => .ok n
    | _ => .error .intParsing
  | found => found

def float? (cs : List Char) : Option Binary64 :=
  match Binary64.ofPlain? (Integer.stripped cs) with
  | some x => some x
  | none => if cs.contains '_' then joined? cs >>= Binary64.ofPlain? else none

end PromptStudio.Numeral
