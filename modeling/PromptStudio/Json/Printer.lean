import PromptStudio.Json.Value
import PromptStudio.Number.Shortest

/-!
# Writing JSON

A value has several written forms, which differ in the gaps after commas and colons and in whether only ASCII is
written. `compact` is the form that is signed, `spaced` the form that goes over the wire, and `ascii` the form that goes
into a seed.
-/

namespace PromptStudio.Json

/-- What a written form decides. -/
structure Form where
  gaps : Bool
  /-- Everything outside printable ASCII is written as an escape. -/
  asciiOnly : Bool

def Form.compact : Form := ⟨false, false⟩

/-- A blank after commas and colons, every character as it is. -/
def Form.spaced : Form := ⟨true, false⟩

/-- A blank after commas and colons, ASCII only. -/
def Form.ascii : Form := ⟨true, true⟩

def hexDigit (n : Nat) : Char :=
  Nat.digitChar n

def unitEscape (n : Nat) : List Char :=
  ['\\', 'u', hexDigit (n / 4096 % 16), hexDigit (n / 256 % 16), hexDigit (n / 16 % 16), hexDigit (n % 16)]

/-- The escape of a code point: two units for one past `0xFFFF`. -/
def codePointEscape (n : Nat) : List Char :=
  if n < 0x10000 then unitEscape n
  else unitEscape (0xD800 + (n - 0x10000) / 0x400) ++ unitEscape (0xDC00 + (n - 0x10000) % 0x400)

/-- The written form of one code point inside a string. -/
def escape (form : Form) (p : CodePoint) : Text :=
  match p with
  | .char '"' => "\\\""
  | .char '\\' => "\\\\"
  | .char '\n' => "\\n"
  | .char '\r' => "\\r"
  | .char '\t' => "\\t"
  | .char '\x08' => "\\b"
  | .char '\x0c' => "\\f"
  | p =>
    if p.toNat < 0x20 ∨ (form.asciiOnly ∧ 0x7E < p.toNat) then (codePointEscape p.toNat).map .char
    else [p]

def quoted (form : Form) (t : Text) : Text :=
  .char '"' :: (t.flatMap (escape form) ++ [.char '"'])

def intText (n : Int) : List Char :=
  if n < 0 then '-' :: Binary64.digitsOf n.natAbs else Binary64.digitsOf n.natAbs

def intShown (n : Int) : Text :=
  (intText n).map .char

/-- A float by its shortest digits; the numbers that have none by name. -/
def floatText : Binary64 → List Char
  | .nan => ['N', 'a', 'N']
  | .infinite negative => (if negative then ['-'] else []) ++ ['I', 'n', 'f', 'i', 'n', 'i', 't', 'y']
  | x => x.toChars

def comma (form : Form) : Text :=
  if form.gaps then [.char ',', .char ' '] else [.char ',']

def colon (form : Form) : Text :=
  if form.gaps then [.char ':', .char ' '] else [.char ':']

mutual

def render (form : Form) : Json → Text
  | .null => "null"
  | .bool true => "true"
  | .bool false => "false"
  | .int n => intShown n
  | .float x => (floatText x).map .char
  | .string t => quoted form t
  | .array items => .char '[' :: renderItems form items
  | .object members => .char '\x7b' :: renderMembers form members

/-- The items of an array, from the first one on, and the closing bracket. -/
def renderItems (form : Form) : List Json → Text
  | [] => [.char ']']
  | [v] => render form v ++ [.char ']']
  | v :: rest => render form v ++ (comma form ++ renderItems form rest)

/-- The members of an object, from the first one on, and the closing brace. -/
def renderMembers (form : Form) : List (Text × Json) → Text
  | [] => [.char '\x7d']
  | [(key, v)] => quoted form key ++ (colon form ++ (render form v ++ [.char '\x7d']))
  | (key, v) :: rest =>
    quoted form key ++ (colon form ++ (render form v ++ (comma form ++ renderMembers form rest)))

end

end PromptStudio.Json
