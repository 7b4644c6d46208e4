import PromptStudio.Charset.Pair

/-!
# Backslash escapes

Encodings in which a byte is the character of its number, and a backslash starts the name of a character.
-/

namespace PromptStudio.Charset.Backslash

def hexDigit? (b : Nat) : Option Nat :=
  if '0'.toNat ≤ b ∧ b ≤ '9'.toNat then some (b - '0'.toNat)
  else if 'a'.toNat ≤ b ∧ b ≤ 'f'.toNat then some (b - 'a'.toNat + 10)
  else if 'A'.toNat ≤ b ∧ b ≤ 'F'.toNat then some (b - 'A'.toNat + 10)
  else none

/-- The number that some hexadecimal digits write, as far as they are there, and how many there are. -/
def hexNumber : Nat → List Nat → Nat × Nat
  | 0, _ => (0, 0)
  | _, [] => (0, 0)
  | width + 1, b :: rest =>
    match hexDigit? b with
    | none => (0, 0)
    | some digit =>
      let (n, count) := hexNumber width rest
      (digit * Nat.pow 16 count + n, count + 1)

/-- The character of a number with so many digits, and how many bytes it takes. -/
def hexChar (width : Nat) (bytes : List Nat) : Char × Nat :=
  let (n, count) := hexNumber width bytes
  (if count = width ∧ n.isValidChar then Char.ofNat n else replacement, count)

def octalNumber (width : Nat) (bytes : List Nat) : Nat × Nat :=
  let digits := (bytes.take width).takeWhile fun b => '0'.toNat ≤ b && b ≤ '7'.toNat
  (digits.foldl (fun n b => 8 * n + (b - '0'.toNat)) 0, digits.length)

def widths : List (Char × Nat) := [('x', 2), ('u', 4), ('U', 8)]

def named : List (Char × List Char) :=
  [('\n', []), ('\\', ['\\']), ('\'', ['\'']), ('"', ['"']), ('a', ['\x07']), ('b', ['\x08']), ('t', ['\t']),
    ('n', ['\n']), ('v', ['\x0b']), ('f', ['\x0c']), ('r', ['\r'])]

/-- The characters behind a backslash, and how many bytes they take. A character can have a name in braces; no name is
known. -/
def escaped : List Nat → List Char × Nat
  | [] => ([replacement], 0)
  | b :: rest =>
    let c := Char.ofNat b
    match named.lookup c, widths.lookup c with
    | some chars, _ => (chars, 1)
    | none, some width =>
      let (char, count) := hexChar width rest
      ([char], count + 1)
    | none, none =>
      if '0'.toNat ≤ b ∧ b ≤ '7'.toNat then
        let (n, count) := octalNumber 3 (b :: rest)
        ([Char.ofNat n], count)
      else if c = 'N' then
        if rest.head? = some 0x7B then
          let name := (rest.drop 1).takeWhile (· != 0x7D)
          ([replacement], if name.isEmpty then 2 else min (name.length + 3) (rest.length + 1))
        else ([replacement], 1)
      else (['\\', c], 1)

def decode : List Nat → List Char
  | [] => []
  | b :: rest =>
    if b = '\\'.toNat then
      let (chars, count) := escaped rest
      chars ++ decode (rest.drop count)
    else Char.ofNat b :: decode rest
termination_by bytes => bytes.length
decreasing_by all_goals simp only [List.length_cons, List.length_drop]; omega

/-- The characters of bytes with escapes of code points alone. -/
def decodeRaw : List Nat → List Char
  | [] => []
  | b :: rest =>
    if b = '\\'.toNat then
      match rest with
      | [] => ['\\']
      | letter :: digits =>
        if letter = 'u'.toNat ∨ letter = 'U'.toNat then
          let (char, count) := hexChar (if letter = 'u'.toNat then 4 else 8) digits
          char :: decodeRaw (digits.drop count)
        else '\\' :: Char.ofNat letter :: decodeRaw digits
    else Char.ofNat b :: decodeRaw rest
termination_by bytes => bytes.length
decreasing_by all_goals simp only [List.length_cons, List.length_drop]; omega

end PromptStudio.Charset.Backslash
