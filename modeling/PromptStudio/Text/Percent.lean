import PromptStudio.Text.Utf8

/-!
# Percent-encoding

A byte is written as it is, or as a percent sign and two hexadecimal digits. What is read back is every byte: a
percent sign without two digits stands for itself.
-/

namespace PromptStudio.Percent

/-- A character that never has to be encoded. -/
def isUnreserved (c : Char) : Bool :=
  c.isAlphanum || c == '_' || c == '.' || c == '-' || c == '~'

def encodeByte (b : UInt8) : List Char :=
  ['%', (Nat.digitChar (b.toNat / 16)).toUpper, (Nat.digitChar (b.toNat % 16)).toUpper]

/-- Bytes, of which those that spell a character to `keep` stay as they are. -/
def encode (keep : Char → Bool) (bytes : Bytes) : List Char :=
  bytes.flatMap fun b => if keep (Char.ofNat b.toNat) then [Char.ofNat b.toNat] else encodeByte b

def digit? (c : Char) : Option Nat :=
  if '0' ≤ c ∧ c ≤ '9' then some (c.toNat - '0'.toNat)
  else if 'a' ≤ c ∧ c ≤ 'f' then some (c.toNat - 'a'.toNat + 10)
  else if 'A' ≤ c ∧ c ≤ 'F' then some (c.toNat - 'A'.toNat + 10)
  else none

def bytes : List Char → Bytes
  | [] => []
  | '%' :: a :: b :: rest =>
    match digit? a, digit? b with
    | some high, some low => UInt8.ofNat (16 * high + low) :: bytes rest
    | _, _ => Utf8.ofChar '%' ++ bytes (a :: b :: rest)
  | c :: rest => Utf8.ofChar c ++ bytes rest

def decode (cs : List Char) : List Char :=
  Utf8.decodeLossy (bytes cs)

/-- The characters of an encoded text whose bytes are characters each. -/
def decodeBytewise (cs : List Char) : List Char :=
  (bytes cs).map fun b => Char.ofNat b.toNat

end PromptStudio.Percent
