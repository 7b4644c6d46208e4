import PromptStudio.Text.Blank

/-!
# Reading an integer

An integer in a header is decimal: blanks around it, one sign, digits of any script with single underscores between
them, 4300 digits at most. Every script with decimal digits has ten of them in a row, so the zeros give all.
-/

namespace PromptStudio

def digitZeros : List Nat := [
  0x0030, 0x0660, 0x06F0, 0x07C0, 0x0966, 0x09E6, 0x0A66, 0x0AE6, 0x0B66, 0x0BE6, 0x0C66, 0x0CE6, 0x0D66, 0x0DE6,
  0x0E50, 0x0ED0, 0x0F20, 0x1040, 0x1090, 0x17E0, 0x1810, 0x1946, 0x19D0, 0x1A80, 0x1A90, 0x1B50, 0x1BB0, 0x1C40,
  0x1C50, 0xA620, 0xA8D0, 0xA900, 0xA9D0, 0xA9F0, 0xAA50, 0xABF0, 0xFF10, 0x104A0, 0x10D30, 0x11066, 0x110F0,
  0x11136, 0x111D0, 0x112F0, 0x11450, 0x114D0, 0x11650, 0x116C0, 0x11730, 0x118E0, 0x11950, 0x11C50, 0x11D50,
  0x11DA0, 0x16A60, 0x16AC0, 0x16B50, 0x1D7CE, 0x1D7D8, 0x1D7E2, 0x1D7EC, 0x1D7F6, 0x1E140, 0x1E2F0, 0x1E950,
  0x1FBF0]

def Digit.value? (c : Char) : Option Nat :=
  (digitZeros.find? fun z => z ≤ c.toNat && c.toNat < z + 10).map (c.toNat - ·)

end PromptStudio

namespace PromptStudio.Integer

def maxDigits : Nat := 4300

/-- A blank around a numeral: the blanks of all scripts without the information separators. -/
def isMargin (c : Char) : Bool :=
  Blank.isBlankChar c && !(0x1C ≤ c.toNat && c.toNat ≤ 0x1F)

/-- The text without the blanks around it. -/
def stripped (cs : List Char) : List Char :=
  Blank.trimBoth isMargin cs

/-- The digits of a text of digits with single underscores between them; `needed` says that a digit has to come next. -/
def digits? (needed : Bool) : List Char → Option (List Nat)
  | [] => if needed then none else some []
  | c :: rest =>
    if c = '_' then
      if needed then none else digits? true rest
    else
      match Digit.value? c with
      | some d => (digits? false rest).map (d :: ·)
      | none => none

/-- The number that decimal digits spell. -/
def ofDigits (ds : List Nat) : Nat :=
  ds.foldl (fun n d => 10 * n + d) 0

def magnitude? (cs : List Char) : Option Nat :=
  match digits? true cs with
  | some ds => if ds.length ≤ maxDigits then some (ofDigits ds) else none
  | none => none

def ofChars? (cs : List Char) : Option Int :=
  match stripped cs with
  | '-' :: rest => (magnitude? rest).map fun n => -(n : Int)
  | '+' :: rest => (magnitude? rest).map Int.ofNat
  | rest => (magnitude? rest).map Int.ofNat

end PromptStudio.Integer
