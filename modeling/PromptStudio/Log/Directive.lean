import PromptStudio.Failure.Fault
import PromptStudio.Json.Value

/-!
# Directives

A directive stands in a message behind a percent sign. It takes an argument, the next one or the one of a name, and says
how it is shown: flags, a width, a precision and a letter. Width and precision may be arguments themselves.
-/

namespace PromptStudio

structure Directive where
  left : Bool
  zeros : Bool
  plus : Bool
  blank : Bool
  /-- Show the base of digits, and the point of a float. -/
  marked : Bool
  width : Nat
  precision : Option Nat
  letter : Char
  deriving DecidableEq, Repr

/-- The arguments of a message that are left. -/
inductive LogArguments where
  | listed (rest : List Json)
  /-- Arguments by name; without a name, one value can be taken. -/
  | named (members : List (Text × Json)) (next : Option Json)

namespace LogArguments

/-- The arguments of a list: an object that stands alone and is not empty gives arguments by name. -/
def ofList (arguments : List Json) : LogArguments :=
  match arguments with
  | [.object (member :: members)] => .named (member :: members) (some (.object (member :: members)))
  | _ => .listed arguments

def take : LogArguments → Except Fault (Json × LogArguments)
  | .listed (v :: rest) => .ok (v, .listed rest)
  | .named members (some v) => .ok (v, .named members none)
  | .listed [] | .named _ none => .error .wrongKind

def choose (a : LogArguments) (name : Text) : Except Fault LogArguments :=
  match a with
  | .listed _ => .error .wrongKind
  | .named members _ =>
    match Json.find? members name with
    | some v => .ok (.named members (some v))
    | none => .error .unknownKey

def isUsedUp : LogArguments → Bool
  | .listed rest => rest.isEmpty
  | .named .. => true

end LogArguments

namespace Directive

/-- A name up to the bracket that closes it, and what follows; `depth` counts the brackets that are open. -/
def name? (depth : Nat) : Text → Option (Text × Text)
  | [] => none
  | p :: rest =>
    if p = .char ')' ∧ depth ≤ 1 then some ([], rest)
    else
      let depth := if p = .char '(' then depth + 1 else if p = .char ')' then depth - 1 else depth
      (name? depth rest).map fun (name, rest) => (p :: name, rest)

def chooseArgument (t : Text) (a : LogArguments) : Except Fault (Text × LogArguments) :=
  match t, a with
  | .char '(' :: _, .listed _ => .error .wrongKind
  | .char '(' :: rest, a =>
    match name? 1 rest with
    | none => .error .invalidValue
    | some (name, rest) => (a.choose name).map fun a => (rest, a)
  | t, a => .ok (t, a)

def maxWidth : Int := 0x7fffffffffffffff

def maxPrecision : Int := 0x7fffffff

def digit? (p : CodePoint) : Option Nat :=
  (p.toChar?.filter Char.isDigit).map fun c => c.toNat - '0'.toNat

/-- The leading digits as a number, or an argument where a star stands, up to a limit, and what follows. -/
def amount (limit : Int) (t : Text) (a : LogArguments) : Except Fault (Int × Text × LogArguments) :=
  match t with
  | .char '*' :: rest => do
    match ← a.take with
    | (.int n, a) => if limit < n ∨ n < -limit - 1 then .error .integerOverflow else return (n, rest, a)
    | (.bool b, a) => return (if b then 1 else 0, rest, a)
    | _ => .error .wrongKind
  | t =>
    let digits := (t.takeWhile (digit? · |>.isSome)).filterMap digit?
    let number : Nat := digits.foldl (fun n d => 10 * n + d) 0
    if limit < number then .error .invalidValue else .ok (number, t.drop digits.length, a)

/-- The precision, if there is one, and what follows; below zero it is zero. -/
def precision? (t : Text) (a : LogArguments) : Except Fault (Option Nat × Text × LogArguments) :=
  match t with
  | .char '.' :: rest => (amount maxPrecision rest a).map fun (n, rest, a) => (some n.toNat, rest, a)
  | t => .ok (none, t, a)

/-- Without a letter that only tells a size. -/
def dropSize : Text → Text
  | p :: rest => if p = .char 'h' ∨ p = .char 'l' ∨ p = .char 'L' then rest else p :: rest
  | [] => []

def flagChars : Text := "#0- +"

/-- The directive behind a percent sign, what follows it, and the arguments that are left. -/
def read (t : Text) (a : LogArguments) : Except Fault (Directive × Text × LogArguments) := do
  let (t, a) ← chooseArgument t a
  let flags := t.takeWhile flagChars.contains
  let has (c : Char) : Bool := flags.contains (.char c)
  let (width, t, a) ← amount maxWidth (t.drop flags.length) a
  let (precision, t, a) ← precision? t a
  match dropSize t with
  | .char letter :: rest =>
    return (⟨has '-' || width < 0, has '0', has '+', has ' ', has '#', width.natAbs, precision, letter⟩, rest, a)
  | _ => .error .invalidValue

end Directive

end PromptStudio
