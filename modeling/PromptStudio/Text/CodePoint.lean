/-!
# Text by code points

A text that arrives from outside may hold one half of a surrogate pair standing alone: a JSON escape can name it, and a
lenient byte decoder lets it through. Such a text has no UTF-8 form. `Text` keeps what arrived; `Text.toString?` is the
border to `String`, which holds characters only, and every string is a text.
-/

namespace PromptStudio

/-- A code point of a text: a character, or one half of a surrogate pair that stands alone. -/
inductive CodePoint where
  | char (c : Char)
  | surrogate (offset : Fin 2048)
  deriving DecidableEq, Repr

/-- A sequence of code points, lone surrogates included. -/
abbrev Text := List CodePoint

namespace CodePoint

def toNat : CodePoint → Nat
  | char c => c.toNat
  | surrogate offset => 0xD800 + offset.val

/-- The code point of a number below `0x110000`; a larger number gives the replacement character. -/
def ofNat (n : Nat) : CodePoint :=
  if h : 0xD800 ≤ n ∧ n < 0xE000 then .surrogate ⟨n - 0xD800, by omega⟩
  else if n < 0x110000 then .char (Char.ofNat n)
  else .char '\uFFFD'

def toChar? : CodePoint → Option Char
  | char c => some c
  | surrogate _ => none

/-- The characters that show a code point: a surrogate has three bytes, and each shows as a replacement character. -/
def shown : CodePoint → List Char
  | char c => [c]
  | surrogate _ => ['\uFFFD', '\uFFFD', '\uFFFD']

end CodePoint

namespace Text

def ofString (s : String) : Text :=
  s.toList.map .char

instance : Coe String Text := ⟨ofString⟩

/-- The characters of a text, if no surrogate stands alone in it. -/
def toChars? (t : Text) : Option (List Char) :=
  t.mapM CodePoint.toChar?

/-- The string that a text spells, if no surrogate stands alone in it. -/
def toString? (t : Text) : Option String :=
  t.toChars?.map String.ofList

def isEncodable (t : Text) : Bool :=
  t.all (·.toChar?.isSome)

def shown (t : Text) : String :=
  String.ofList (t.flatMap CodePoint.shown)

def le : Text → Text → Bool
  | [], _ => true
  | _ :: _, [] => false
  | p :: a, q :: b => p.toNat < q.toNat || (p == q && le a b)

@[simp] theorem toChars?_map_char (cs : List Char) : toChars? (cs.map .char) = some cs := by
  induction cs with
  | nil => rfl
  | cons c cs ih =>
    simp only [toChars?] at ih
    simp [toChars?, CodePoint.toChar?, ih]

@[simp] theorem toString?_ofString (s : String) : toString? (ofString s) = some s := by
  simp [toString?, ofString]

@[simp] theorem isEncodable_ofString (s : String) : isEncodable (ofString s) = true := by
  simp [isEncodable, ofString, CodePoint.toChar?]

@[simp] theorem isEncodable_append (a b : Text) : isEncodable (a ++ b) = (isEncodable a && isEncodable b) := by
  simp [isEncodable]

end Text

end PromptStudio
