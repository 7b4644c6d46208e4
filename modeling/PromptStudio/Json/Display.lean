import PromptStudio.Json.Printer
import PromptStudio.Text.PrintableTable

/-!
# Values in running text

How a value is shown inside a message, an address or a log line: a text as it is, everything else in a notation of its
own, in which texts stand between single quotes.
-/

namespace PromptStudio.Json

/-- A number in hexadecimal, filled with zeros to a width. -/
def hexPadded (width n : Nat) : List Char :=
  (List.range width).reverse.map fun i => hexDigit (n / Nat.pow 16 i % 16)

/-- A code point between quotes of a kind; what does not print is shown by its number. -/
def showPoint (quote : Char) (p : CodePoint) : Text :=
  let n := p.toNat
  if p = .char quote ∨ p = .char '\\' then [.char '\\', p]
  else if p = .char '\n' then "\\n"
  else if p = .char '\r' then "\\r"
  else if p = .char '\t' then "\\t"
  else if isPrintable n then [p]
  else if n < 0x100 then ('\\' :: 'x' :: hexPadded 2 n).map .char
  else if n < 0x10000 then ('\\' :: 'u' :: hexPadded 4 n).map .char
  else ('\\' :: 'U' :: hexPadded 8 n).map .char

/-- A text between quotes: double ones if it has single quotes and no double ones. -/
def showText (t : Text) : Text :=
  let quote := if t.contains (.char '\x27') && !t.contains (.char '"') then '"' else '\x27'
  .char quote :: (t.flatMap (showPoint quote) ++ [.char quote])

mutual

def inspect : Json → Text
  | .null => "None"
  | .bool true => "True"
  | .bool false => "False"
  | .int n => intShown n
  | .float x => x.toChars.map .char
  | .string t => showText t
  | .array items => .char '[' :: inspectItems items
  | .object members => .char '\x7b' :: inspectMembers members

def inspectItems : List Json → Text
  | [] => [.char ']']
  | [v] => v.inspect ++ [.char ']']
  | v :: rest => v.inspect ++ (.char ',' :: .char ' ' :: inspectItems rest)

def inspectMembers : List (Text × Json) → Text
  | [] => [.char '\x7d']
  | [(key, v)] => showText key ++ (.char ':' :: .char ' ' :: (v.inspect ++ [.char '\x7d']))
  | (key, v) :: rest =>
    showText key ++ (.char ':' :: .char ' ' :: (v.inspect ++ (.char ',' :: .char ' ' :: inspectMembers rest)))

end

def display : Json → Text
  | .string t => t
  | v => v.inspect

end PromptStudio.Json
