import PromptStudio.Json.Display
import PromptStudio.Log.Directive
import PromptStudio.Number.Places

/-!
# Log messages

A message is a template with arguments, and every directive of the template shows one of them. A message without
arguments is no template: it stands as it is.
-/

namespace PromptStudio.LogMessage

def filled (d : Directive) (t : Text) : Text :=
  let gap := List.replicate (d.width - t.length) (CodePoint.char ' ')
  if d.left then t ++ gap else gap ++ t

/-- A sign, a mark and digits, filled up to the width: zeros go between mark and digits. -/
def filledNumber (d : Directive) (negative : Bool) (mark digits : List Char) : Text :=
  let sign := if negative then ['-'] else if d.plus then ['+'] else if d.blank then [' '] else []
  let zeros :=
    if d.zeros && !d.left then List.replicate (d.width - (sign.length + mark.length + digits.length)) '0' else []
  filled d ((sign ++ mark ++ zeros ++ digits).map .char)

def cut (d : Directive) (t : Text) : Text :=
  match d.precision with
  | some n => t.take n
  | none => t

/-- The integer of an argument; a float is cut, where that is allowed. -/
def integerOf (cutFloats : Bool) : Json → Except Fault Int
  | .int n => .ok n
  | .bool b => .ok (if b then 1 else 0)
  | .float (.finite negative rank) =>
    if cutFloats then
      let n : Int := (Binary64.units rank / Binary64.unitsPerOne : Nat)
      .ok (if negative then -n else n)
    else .error .wrongKind
  | .float .nan => .error (if cutFloats then .invalidValue else .wrongKind)
  | .float (.infinite _) => .error (if cutFloats then .integerOverflow else .wrongKind)
  | _ => .error .wrongKind

def floatOf : Json → Except Fault Binary64
  | .float x => .ok x
  | .int n =>
    let x := Binary64.ofInt n
    if x.isFinite then .ok x else .error .integerOverflow
  | .bool b => .ok (.ofInt (if b then 1 else 0))
  | _ => .error .wrongKind

/-- An integer in a base, with at least as many digits as the precision asks for. -/
def integerText (d : Directive) (base : Nat) (mark : List Char) (n : Int) : Text :=
  let digits := Nat.toDigits base n.natAbs
  let digits := List.replicate (d.precision.getD 0 - digits.length) '0' ++ digits
  let upper := d.letter.isUpper
  filledNumber d (n < 0) (if d.marked then mark else []) (if upper then digits.map Char.toUpper else digits)

/-- A float, laid out with the precision, six by default. -/
def floatText (d : Directive) (layout : Bool → Nat → Nat → List Char) (x : Binary64) : Text :=
  let digits := match x with
    | .finite _ rank => layout d.marked (d.precision.getD 6) rank
    | .infinite _ => ['i', 'n', 'f']
    | .nan => ['n', 'a', 'n']
  filledNumber d x.isNegative [] (if d.letter.isUpper then digits.map Char.toUpper else digits)

def character : Json → Except Fault CodePoint
  | .string [p] => .ok p
  | .bool b => .ok (.ofNat (if b then 1 else 0))
  | .int n => if 0 ≤ n ∧ n < 0x110000 then .ok (.ofNat n.toNat) else .error .integerOverflow
  | _ => .error .wrongKind

def asciiNotation (v : Json) : Text :=
  v.inspect.flatMap fun p =>
    let n := p.toNat
    if n < 0x80 then [p]
    else if n < 0x100 then ('\\' :: 'x' :: Json.hexPadded 2 n).map .char
    else if n < 0x10000 then ('\\' :: 'u' :: Json.hexPadded 4 n).map .char
    else ('\\' :: 'U' :: Json.hexPadded 8 n).map .char

def shown (d : Directive) (argument : Json) : Except Fault Text :=
  match d.letter with
  | 's' => .ok (filled d (cut d argument.display))
  | 'r' => .ok (filled d (cut d argument.inspect))
  | 'a' => .ok (filled d (cut d (asciiNotation argument)))
  | 'd' | 'i' | 'u' => (integerOf true argument).map (integerText d 10 [])
  | 'x' | 'X' => (integerOf false argument).map (integerText d 16 ['0', d.letter])
  | 'o' => (integerOf false argument).map (integerText d 8 ['0', 'o'])
  | 'c' => (character argument).map fun p => filled d [p]
  | 'f' | 'F' => (floatOf argument).map (floatText d Binary64.fixedText)
  | 'e' | 'E' => (floatOf argument).map (floatText d Binary64.scientificText)
  | 'g' | 'G' => (floatOf argument).map (floatText d Binary64.generalText)
  | _ => .error .invalidValue

/-- Fills the directives of a template, where two percent signs stand for one; `fuel` bounds the number of steps. -/
def fill : Nat → Text → LogArguments → Except Fault Text
  | 0, _, _ => .ok []
  | _ + 1, [], a => if a.isUsedUp then .ok [] else .error .wrongKind
  | fuel + 1, .char '%' :: .char '%' :: rest, a => return .char '%' :: (← fill fuel rest a)
  | fuel + 1, .char '%' :: rest, a => do
    let (d, rest, a) ← Directive.read rest a
    let (argument, a) ← a.take
    let text ← LogMessage.shown d argument
    return text ++ (← fill fuel rest a)
  | fuel + 1, p :: rest, a => return p :: (← fill fuel rest a)

def text (template : Text) (arguments : List Json) : Except Fault Text :=
  if arguments.isEmpty then .ok template
  else fill (template.length + 1) template (.ofList arguments)

end PromptStudio.LogMessage
