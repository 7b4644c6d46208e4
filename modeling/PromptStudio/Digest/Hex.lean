import PromptStudio.Text.Utf8

/-!
# Hexadecimal

Bytes are written in lower case, two digits each. Reading takes both cases and ASCII blanks between bytes.
-/

namespace PromptStudio.Hex

def ofByte (b : UInt8) : List Char :=
  [Nat.digitChar (b.toNat / 16), Nat.digitChar (b.toNat % 16)]

def encode (bytes : Bytes) : String :=
  String.ofList (bytes.flatMap ofByte)

/-- The value of a hexadecimal digit of either case. -/
def value? (c : Char) : Option Nat :=
  if '0' ≤ c ∧ c ≤ '9' then some (c.toNat - '0'.toNat)
  else if 'a' ≤ c ∧ c ≤ 'f' then some (c.toNat - 'a'.toNat + 10)
  else if 'A' ≤ c ∧ c ≤ 'F' then some (c.toNat - 'A'.toNat + 10)
  else none

def isBlank (c : Char) : Bool :=
  c == ' ' || (0x09 ≤ c.toNat && c.toNat ≤ 0x0D)

/-- The bytes of hexadecimal digits; the two digits of a byte stand together. -/
def decodeChars? : List Char → Option Bytes
  | [] => some []
  | [c] => if isBlank c then some [] else none
  | c :: d :: rest =>
    if isBlank c then decodeChars? (d :: rest)
    else do
      let high ← value? c
      let low ← value? d
      let bytes ← decodeChars? rest
      some (UInt8.ofNat (16 * high + low) :: bytes)

def decode? (t : Text) : Option Bytes :=
  t.toChars?.bind decodeChars?

/-- A number in hexadecimal, filled with zeros to a width. -/
def padded (width n : Nat) : String :=
  let digits := Nat.toDigits 16 n
  String.ofList (List.replicate (width - digits.length) '0' ++ digits)

end PromptStudio.Hex
