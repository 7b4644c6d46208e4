import PromptStudio.Text.CasedTable
import PromptStudio.Text.CodePoint
import PromptStudio.Text.LowercaseTable
import PromptStudio.Text.Ranges

/-!
# Lower case

`Lowercase.char` is the lower-case partner of one character; `Lowercase.text` is the lower case of a text, which differs
in two places: a dotted capital I leaves its dot behind, and a capital sigma that ends a word takes its final form.
`CaseFold.key` tells which characters are the same where case is ignored.
-/

namespace PromptStudio

namespace Lowercase

def char (c : Char) : Char :=
  if c.toNat < 0x80 then
    if 'A' ≤ c ∧ c ≤ 'Z' then Char.ofNat (c.toNat + 32) else c
  else
    match lowercaseRuns.find? (·.covers c.toNat) with
    | some run => Char.ofNat (c.toNat + run.offset).toNat
    | none => c

/-- The lower-case partner of a code point; a surrogate has none. -/
def point : CodePoint → CodePoint
  | .char c => .char (char c)
  | .surrogate offset => .surrogate offset

/-- A code point that is looked through when the neighbours of a sigma are examined. -/
def isIgnorable (p : CodePoint) : Bool :=
  inRanges caseIgnorableRanges p.toNat

def isCased (p : CodePoint) : Bool :=
  inRanges casedRanges p.toNat

def startsCased (t : Text) : Bool :=
  match t.dropWhile isIgnorable with
  | p :: _ => isCased p
  | [] => false

/-- Lower case behind a text; `afterCased` says whether its last code point that is not looked through has case. -/
def textAfter (afterCased : Bool) : Text → Text
  | [] => []
  | p :: rest =>
    let next := if isIgnorable p then afterCased else isCased p
    if p = .char 'Σ' then
      .char (if afterCased && !startsCased rest then 'ς' else 'σ') :: textAfter next rest
    else if p = .char 'İ' then .char 'i' :: .char '\u0307' :: textAfter next rest
    else point p :: textAfter next rest

def text (t : Text) : Text :=
  if t.all (·.toNat < 0x80) then t.map point else textAfter false t

end Lowercase

namespace CaseFold

def key (c : Char) : Char :=
  let lower := Lowercase.char c
  match foldPartners.find? (·.1 == lower.toNat) with
  | some partner => Char.ofNat partner.2
  | none => lower

/-- Two code points match where case is ignored; a surrogate matches itself only. -/
def same : CodePoint → CodePoint → Bool
  | .char a, .char b => key a == key b
  | .surrogate a, .surrogate b => a == b
  | _, _ => false

end CaseFold

end PromptStudio
