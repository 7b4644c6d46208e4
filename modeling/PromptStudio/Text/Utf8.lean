import PromptStudio.Text.CodePoint

/-!
# UTF-8

`Utf8.encode?` writes a text, unless a surrogate stands alone in it. `Utf8.decode` reads bytes one at a time: what is
malformed comes out as `none`, one for every longest start of a sequence that cannot go on.
-/

namespace PromptStudio

abbrev Bytes := List UInt8

namespace Utf8

def ofChar (c : Char) : Bytes :=
  String.utf8EncodeChar c

def ofChars (cs : List Char) : Bytes :=
  cs.flatMap ofChar

def ofString (s : String) : Bytes :=
  ofChars s.toList

/-- The bytes of a text, unless a surrogate stands alone in it. -/
def encode? (t : Text) : Option Bytes :=
  t.toChars?.map ofChars

inductive State where
  | start
  /-- Inside one: the bits so far, how many bytes are owed, and the bounds of the next one. -/
  | inside (bits : Nat) (owed : Nat) (low high : Nat)

/-- What is decoded so far, newest first, and where the decoder stands. -/
structure Progress where
  points : List (Option CodePoint)
  state : State

/-- A byte between two code points. With `surrogates`, the three-byte form of a surrogate is let through. -/
def lead (surrogates : Bool) (points : List (Option CodePoint)) (b : Nat) : Progress :=
  if b < 0x80 then ⟨some (.ofNat b) :: points, .start⟩
  else if 0xC2 ≤ b ∧ b ≤ 0xDF then ⟨points, .inside (b - 0xC0) 1 0x80 0xBF⟩
  else if b = 0xE0 then ⟨points, .inside 0 2 0xA0 0xBF⟩
  else if b = 0xED then ⟨points, .inside 0xD 2 0x80 (if surrogates then 0xBF else 0x9F)⟩
  else if 0xE1 ≤ b ∧ b ≤ 0xEF then ⟨points, .inside (b - 0xE0) 2 0x80 0xBF⟩
  else if b = 0xF0 then ⟨points, .inside 0 3 0x90 0xBF⟩
  else if 0xF1 ≤ b ∧ b ≤ 0xF3 then ⟨points, .inside (b - 0xF0) 3 0x80 0xBF⟩
  else if b = 0xF4 then ⟨points, .inside 4 3 0x80 0x8F⟩
  else ⟨none :: points, .start⟩

def step (surrogates : Bool) (p : Progress) (byte : UInt8) : Progress :=
  let b := byte.toNat
  match p.state with
  | .start => lead surrogates p.points b
  | .inside bits owed low high =>
    if low ≤ b ∧ b ≤ high then
      let bits := 64 * bits + (b - 0x80)
      if owed ≤ 1 then ⟨some (.ofNat bits) :: p.points, .start⟩
      else ⟨p.points, .inside bits (owed - 1) 0x80 0xBF⟩
    else lead surrogates (none :: p.points) b

/-- The code points of bytes, `none` for what is malformed. -/
def decode (surrogates : Bool) (bytes : Bytes) : List (Option CodePoint) :=
  let final := bytes.foldl (step surrogates) ⟨[], .start⟩
  match final.state with
  | .start => final.points.reverse
  | .inside .. => (none :: final.points).reverse

/-- The text of bytes, if nothing in them is malformed. -/
def decode? (surrogates : Bool) (bytes : Bytes) : Option Text :=
  (decode surrogates bytes).mapM id

/-- The characters of bytes, with the replacement character for what is malformed. -/
def decodeLossy (bytes : Bytes) : List Char :=
  (decode false bytes).map fun p => (p.bind CodePoint.toChar?).getD '\uFFFD'

end Utf8

end PromptStudio
