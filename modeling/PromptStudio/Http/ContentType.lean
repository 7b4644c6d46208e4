import PromptStudio.Charset.Basic
import PromptStudio.Text.Blank
import PromptStudio.Text.Percent

/-!
# Content types

A content type has a kind and parameters behind semicolons, one of which may name the encoding of the body. A value
may stand between quotes, and it may be written in the extended form: an encoding, a language and the value, with
ticks between them, in percent-encoding.
-/

namespace PromptStudio.ContentType

structure Parameter where
  name : List Char
  value : List Char
  deriving DecidableEq, Repr

/--
Cuts at every semicolon that is not quoted. `current` is the part so far, newest first; `isQuoted` says that a quote
is open, which a backslash keeps from opening or closing.
-/
def partsFrom (current : List Char) (isQuoted : Bool) : List Char → List (List Char)
  | [] => [current.reverse]
  | c :: rest =>
    if c = ';' ∧ !isQuoted then current.reverse :: partsFrom [] false rest
    else partsFrom (c :: current) (isQuoted != (c == '"' && current.head? != some '\\')) rest

def stripped (cs : List Char) : List Char :=
  Blank.trimBoth Blank.isBlankChar cs

/-- The parameter that a part spells; a name that stands alone has an empty value. -/
def Parameter.ofPart (cs : List Char) : Parameter :=
  ⟨(stripped (cs.takeWhile (· != '='))).map Char.toLower, stripped ((cs.dropWhile (· != '=')).drop 1)⟩

def fuse (first second : Char) : List Char → List Char
  | [] => []
  | [c] => [c]
  | c :: d :: rest =>
    if c = first ∧ d = second then second :: fuse first second rest else c :: fuse first second (d :: rest)

def unquoted (cs : List Char) : List Char :=
  let inner := (cs.drop 1).dropLast
  if cs.length < 2 then cs
  else if cs.head? = some '"' ∧ cs.getLast? = some '"' then fuse '\\' '"' (fuse '\\' '\\' inner)
  else if cs.head? = some '<' ∧ cs.getLast? = some '>' then inner
  else cs

def escaped (cs : List Char) : List Char :=
  cs.flatMap fun c => if c = '"' ∨ c = '\\' then ['\\', c] else [c]

def quoted (cs : List Char) : List Char :=
  '"' :: (escaped cs ++ ['"'])

/-- A piece of a value that is cut into numbered ones or written in the extended form. -/
structure Piece where
  name : List Char
  number : Nat
  isExtended : Bool
  value : List Char

/--
The piece that a parameter is, if its name ends in an asterisk, with a number and perhaps one more asterisk behind it.
What stands before is made of letters, digits and underscores.
-/
def piece? (p : Parameter) : Option Piece :=
  let name := p.name.takeWhile fun c => c.isAlphanum || c == '_'
  match p.name.drop name.length with
  | '*' :: rest =>
    let digits := rest.takeWhile Char.isDigit
    let behind := rest.drop digits.length
    if name.isEmpty || !(behind.isEmpty || (behind == ['*'] && !digits.isEmpty)) then none
    else some
      { name, number := digits.foldl (fun n c => 10 * n + (c.toNat - '0'.toNat)) 0
        isExtended := p.name.getLast? == some '*', value := unquoted p.value }
  | _ => none

/-- The value of an extended text: what stands behind its second tick, or all of it if there are not two. -/
def behindTicks (cs : List Char) : List Char :=
  match cs.splitOn '\x27' with
  | _ :: _ :: rest@(_ :: _) => ['\x27'].intercalate rest
  | _ => cs

def joinedValue (pieces : List Piece) : List Char :=
  let ordered := pieces.mergeSort fun a b => a.number ≤ b.number
  let text := escaped (ordered.flatMap fun s => if s.isExtended then Percent.decodeBytewise s.value else s.value)
  '"' :: ((if pieces.any (·.isExtended) then behindTicks text else text) ++ ['"'])

/-- The parameters of a content type, the kind among them; values in pieces are put together at the end. -/
def parameters (cs : List Char) : List Parameter :=
  match (partsFrom [] false cs).map Parameter.ofPart with
  | [] => []
  | kind :: rest =>
    let pieces := rest.filterMap piece?
    let plain := (rest.filter (piece? · |>.isNone)).map fun p => ⟨p.name, quoted (unquoted p.value)⟩
    let names := (pieces.map (·.name)).eraseDups
    kind :: plain ++ names.map fun name => ⟨name, joinedValue (pieces.filter (·.name == name))⟩

def charsetName? (cs : List Char) : Option (List Char) :=
  match (parameters cs).find? (·.name == "charset".toList) with
  | some p =>
    let name := unquoted p.value
    if name.all (·.toNat < 0x80) then some name else none
  | none => none

/-- The encoding that a content type tells; where it tells none that is known, UTF-8. -/
def charset (cs : List Char) : Charset :=
  ((charsetName? cs).bind Charset.named?).getD .utf8

def isJson (cs : List Char) : Bool :=
  match ((stripped (cs.takeWhile (· != ';'))).map Char.toLower).splitOn '/' with
  | [main, sub] => main == "application".toList && (sub == "json".toList || "+json".toList.isSuffixOf sub)
  | _ => false

end PromptStudio.ContentType
