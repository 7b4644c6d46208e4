import PromptStudio.Charset.Pair

/-!
# UTF-7

ASCII stands for itself; between a plus sign and the first byte that is no digit of base 64 stand 16-bit units.
-/

namespace PromptStudio.Charset.Utf7

def digit? (b : Nat) : Option Nat :=
  if 'A'.toNat ≤ b ∧ b ≤ 'Z'.toNat then some (b - 'A'.toNat)
  else if 'a'.toNat ≤ b ∧ b ≤ 'z'.toNat then some (b - 'a'.toNat + 26)
  else if '0'.toNat ≤ b ∧ b ≤ '9'.toNat then some (b - '0'.toNat + 52)
  else if b = '+'.toNat then some 62
  else if b = '/'.toNat then some 63
  else none

/-- What is read of units and not yet written. -/
structure Units where
  bits : Nat := 0
  count : Nat := 0
  high? : Option Nat := none

namespace Units

/-- The characters that a unit completes, and the high surrogate that it may be. -/
def put (high? : Option Nat) (unit : Nat) : List Char × Option Nat :=
  match high? with
  | some high =>
    if 0xDC00 ≤ unit ∧ unit < 0xE000 then
      ([Char.ofNat (0x10000 + 0x400 * (high - 0xD800) + (unit - 0xDC00))], none)
    else
      let (chars, next) := put none unit
      (replacement :: chars, next)
  | none =>
    if 0xD800 ≤ unit ∧ unit < 0xDC00 then ([], some unit)
    else ([if unit.isValidChar then Char.ofNat unit else replacement], none)
termination_by high?.isSome.toNat
decreasing_by simp

def push (u : Units) (digit : Nat) : List Char × Units :=
  let bits := 64 * u.bits + digit
  let count := u.count + 6
  if count < 16 then ([], { u with bits, count })
  else
    let weight := Nat.pow 2 (count - 16)
    let (chars, high?) := put u.high? (bits / weight)
    (chars, ⟨bits % weight, count - 16, high?⟩)

/-- Whether bits are left that are no mere filling. -/
def isBroken (u : Units) : Bool :=
  6 ≤ u.count || (0 < u.count && u.bits != 0)

end Units

/-- The characters of bytes; there is a state between a plus sign and the end of its units. -/
def decodeFrom : Option Units → List Nat → List Char
  | none, [] => []
  | some u, [] => if u.high?.isSome || u.isBroken then [replacement] else []
  | none, b :: rest =>
    if b = '+'.toNat then
      match rest with
      | [] => []
      | next :: more =>
        if next = '-'.toNat then '+' :: decodeFrom none more
        else if (digit? next).isSome then decodeFrom (some {}) (next :: more)
        else replacement :: decodeFrom none more
    else (if b < 0x80 then Char.ofNat b else replacement) :: decodeFrom none rest
  | some u, b :: rest =>
    match digit? b with
    | some digit =>
      let (chars, u) := u.push digit
      chars ++ decodeFrom (some u) rest
    | none =>
      if u.isBroken then replacement :: decodeFrom none rest
      else
        let lone := if u.high?.isSome && b < 0x80 then [replacement] else []
        let char := if b = '-'.toNat then [] else [if b < 0x80 then Char.ofNat b else replacement]
        lone ++ char ++ decodeFrom none rest

def decode (bytes : List Nat) : List Char :=
  decodeFrom none bytes

end PromptStudio.Charset.Utf7
