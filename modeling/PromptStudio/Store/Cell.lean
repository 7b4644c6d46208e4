import PromptStudio.Json.Document
import PromptStudio.Json.Stored
import PromptStudio.Number.Places
import PromptStudio.Number.Quantity
import PromptStudio.Number.Reader

/-!
# Cells

What stands in one column of a row: nothing, an integer of 64 bits, a float, or a text. A column has a kind, and what
is written into it is brought into the form of the kind where it has one: a column of texts holds numbers as their
texts, and a column of numbers holds a text that spells a number as that number. Anything else stands there as it was
written.
-/

namespace PromptStudio

/-- What stands in a column. -/
inductive Cell where
  | null
  | int (n : Int)
  | real (x : Binary64)
  | text (t : Text)
  deriving DecidableEq, Repr

/-- A text that has bytes; one with a lone surrogate cannot stand in a column. -/
def Text.bindable (t : Text) : Except Fault Text :=
  if t.isEncodable then .ok t else .error .unencodableText

def Text.bindAll (ts : List Text) : Except Fault Unit :=
  if ts.all Text.isEncodable then .ok () else .error .unencodableText

def fitsColumn (n : Int) : Bool :=
  -0x8000000000000000 ≤ n && n < 0x8000000000000000

namespace Cell

/-- A value as it is handed to a column: not-a-number is nothing there. -/
def ofJson : Json → Except Fault Cell
  | .null => .ok .null
  | .bool b => .ok (.int (if b then 1 else 0))
  | .int n => if fitsColumn n then .ok (.int n) else .error .integerOverflow
  | .float .nan => .ok .null
  | .float x => .ok (.real x)
  | .string t => t.bindable.map .text
  | .array _ | .object _ => .error .unstorable

/-- The quotient rounded to the nearest natural number, a half upwards. -/
def roundHalfUp (num den : Nat) : Nat :=
  (2 * num + den) / (2 * den)

/--
The text of a positive magnitude: fifteen digits at most, a half rounded upwards, at least one place, an exponent
where it is long.
-/
def magnitudeText (rank : Nat) : List Char :=
  let shown := Binary64.generalTextBy roundHalfUp false 15 rank
  let mantissa := shown.takeWhile (· != 'e')
  (if mantissa.contains '.' then mantissa else mantissa ++ ['.', '0']) ++ shown.dropWhile (· != 'e')

def realText : Binary64 → List Char
  | .nan => []
  | .infinite negative => (if negative then ['-'] else []) ++ ['I', 'n', 'f']
  | .finite negative rank =>
    if rank.val = 0 then ['0', '.', '0'] else (if negative then ['-'] else []) ++ magnitudeText rank

def asText : Cell → Cell
  | int n => text (Json.intShown n)
  | real x => text ((realText x).map .char)
  | c => c

def isMargin (c : Char) : Bool :=
  c == ' ' || (0x09 ≤ c.toNat && c.toNat ≤ 0x0D)

def wholeNumeral? (cs : List Char) : Option Int :=
  let (negative, digits) := match cs with
    | '-' :: rest => (true, rest)
    | '+' :: rest => (false, rest)
    | _ => (false, cs)
  if digits.isEmpty || !digits.all Char.isDigit then none
  else
    let n : Int := Integer.ofDigits (digits.filterMap Binary64.asciiDigit?)
    some (if negative then -n else n)

def enough : Nat := 1844674407370955160

/-- A numeral in which only the digits up to a number that takes no more of them count: those that follow are zeros. -/
def leadingNumeral (value : Nat) : List Char → List Char
  | [] => []
  | c :: rest =>
    match Binary64.asciiDigit? c with
    | some digit =>
      if value < enough then c :: leadingNumeral (10 * value + digit) rest else '0' :: leadingNumeral value rest
    | none => if c = '.' then c :: leadingNumeral value rest else c :: rest

def realNumeral? (cs : List Char) : Option Binary64 :=
  match cs with
  | '-' :: rest => Binary64.magnitude? true (leadingNumeral 0 rest)
  | '+' :: rest => Binary64.magnitude? false (leadingNumeral 0 rest)
  | _ => Binary64.magnitude? false (leadingNumeral 0 cs)

/-- A float in a column of numbers: as an integer where it is a whole number that fits. -/
def ofReal (x : Binary64) : Cell :=
  match x.toInt? with
  | some n => if -0x8000000000000000 < n ∧ fitsColumn n then int n else real x
  | none => real x

/-- The number that a text spells, if it spells one: blanks may stand around a decimal numeral. -/
def ofNumeral? (t : Text) : Option Cell := do
  let numeral := Blank.trimBoth isMargin (← t.toChars?)
  match (wholeNumeral? numeral).filter fitsColumn with
  | some n => return int n
  | none => return ofReal (← realNumeral? numeral)

/-- A cell in a column of numbers, truth values, times or documents. -/
def asNumber : Cell → Cell
  | real x => ofReal x
  | text t => (ofNumeral? t).getD (text t)
  | c => c

def isTruthy : Cell → Bool
  | null => false
  | int n => n != 0
  | real x => !x.isZero
  | text t => !t.isEmpty

def toJson : Cell → Json
  | null => .null
  | int n => .int n
  | real x => .float x
  | text t => .string t

/-- The value that a column of documents holds: a text is read, a number stands for itself. -/
def document (c : Cell) (maxDepth : Nat := Json.usualDepth) : Except Fault Json :=
  match c with
  | text t => Json.ofText t maxDepth
  | c => .ok c.toJson

def quantity? : Cell → Option Quantity
  | int n => some (.whole n)
  | real x => some (.real x)
  | _ => none

/-- Whether one cell stands before another or beside it: nothing first, then numbers, then texts. -/
def le : Cell → Cell → Bool
  | null, _ => true
  | _, null => false
  | text a, text b => Text.le a b
  | text _, _ => false
  | _, text _ => true
  | a, b =>
    match a.quantity?, b.quantity? with
    | some p, some q => !q.lt p
    | _, _ => true

end Cell

/-- A column that holds documents: what reading it gives. -/
abbrev JsonColumn := Except Fault Json

namespace JsonColumn

def value (c : JsonColumn) : Json :=
  c.toOption.getD .null

/--
A document as it comes back from a column of documents: a number is brought into the form of a number there, and halves
of a surrogate pair that stand side by side are one character.
-/
def ofJson (v : Json) : JsonColumn :=
  match v with
  | .int n => if fitsColumn n then .ok v else .ok (.float (.ofInt n))
  | .float x => .ok (if x.isFinite then (Cell.ofReal x).toJson else v)
  | v => .ok v.joined

end JsonColumn

end PromptStudio
