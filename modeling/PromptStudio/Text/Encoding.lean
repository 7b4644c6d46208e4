import PromptStudio.Text.Utf8

/-!
# The encoding of JSON bytes

A JSON document says by its first bytes which of the Unicode encodings it is in: by a byte order mark, or by where the
zero bytes of its first characters stand. Lone surrogates are let through.
-/

namespace PromptStudio

/-- The order of the bytes of a unit. -/
inductive ByteOrder where
  | big
  | little
  deriving DecidableEq, Repr

inductive Encoding where
  | utf8
  | utf16 (order : ByteOrder)
  | utf32 (order : ByteOrder)
  deriving DecidableEq, Repr

namespace Text

/-- The text of 16-bit units: a high surrogate and a low one behind it are one character. -/
def ofUnits : List Nat → Text
  | [] => []
  | [u] => [.ofNat u]
  | u :: v :: rest =>
    if 0xD800 ≤ u ∧ u < 0xDC00 ∧ 0xDC00 ≤ v ∧ v < 0xE000 then
      .ofNat (0x10000 + 0x400 * (u - 0xD800) + (v - 0xDC00)) :: ofUnits rest
    else .ofNat u :: ofUnits (v :: rest)

end Text

namespace Encoding

/-- The byte order marks; one that another starts with stands behind it. -/
def marks : List (Bytes × Encoding) := [
  ([0x00, 0x00, 0xFE, 0xFF], .utf32 .big), ([0xFF, 0xFE, 0x00, 0x00], .utf32 .little),
  ([0xFE, 0xFF], .utf16 .big), ([0xFF, 0xFE], .utf16 .little), ([0xEF, 0xBB, 0xBF], .utf8)]

/-- The encoding of a document without a mark: the zero bytes of its first characters tell. -/
def unmarked : Bytes → Encoding
  | a :: b :: c :: d :: _ =>
    if a = 0 then (if b ≠ 0 then .utf16 .big else .utf32 .big)
    else if b = 0 then (if c ≠ 0 ∨ d ≠ 0 then .utf16 .little else .utf32 .little)
    else .utf8
  | [a, b] => if a = 0 then .utf16 .big else if b = 0 then .utf16 .little else .utf8
  | _ => .utf8

def detect (bytes : Bytes) : Encoding × Nat :=
  match marks.find? (·.1.isPrefixOf bytes) with
  | some (mark, encoding) => (encoding, mark.length)
  | none => (unmarked bytes, 0)

def number (order : ByteOrder) (bytes : Bytes) : Nat :=
  match order with
  | .big => bytes.foldl (fun n b => 256 * n + b.toNat) 0
  | .little => bytes.foldr (fun b n => 256 * n + b.toNat) 0

def units16? (order : ByteOrder) : Bytes → Option (List Nat)
  | [] => some []
  | [_] => none
  | a :: b :: rest => (units16? order rest).map (number order [a, b] :: ·)

/-- The 32-bit units of bytes, if no byte is left over and all are code points. -/
def units32? (order : ByteOrder) : Bytes → Option (List Nat)
  | [] => some []
  | a :: b :: c :: d :: rest =>
    let n := number order [a, b, c, d]
    if n < 0x110000 then (units32? order rest).map (n :: ·) else none
  | _ => none

def decode? : Encoding → Bytes → Option Text
  | utf8, bytes => Utf8.decode? true bytes
  | utf16 order, bytes => (units16? order bytes).map Text.ofUnits
  | utf32 order, bytes => (units32? order bytes).map (·.map CodePoint.ofNat)

def decodeDetected? (bytes : Bytes) : Option Text :=
  let (encoding, mark) := detect bytes
  encoding.decode? (bytes.drop mark)

end Encoding

end PromptStudio
