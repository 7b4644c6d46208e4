import PromptStudio.Text.Lowercase
import PromptStudio.Text.Substring

/-!
# Redaction

Forbidden patterns are taken out of a text wherever they occur, case ignored. Taking one out can join what stood
around it into another, so passes are repeated until one finds nothing. Every pass that finds something makes the text
shorter, so the length of the text bounds the passes.
-/

namespace PromptStudio.Redaction

/-- A pattern occurs in a text, case ignored. -/
def occurs (pattern text : Text) : Bool :=
  Substring.occurs CaseFold.same pattern text

def remove (pattern text : Text) : Text :=
  Substring.replace CaseFold.same pattern [] text

/-- A text and the patterns found in it so far, in the order in which they were first found. -/
structure Progress where
  text : Text
  found : List Text

def step (p : Progress) (pattern : Text) : Progress :=
  if occurs pattern p.text then
    { text := remove pattern p.text
      found := if p.found.contains pattern then p.found else p.found ++ [pattern] }
  else p

def pass (patterns : List Text) (p : Progress) : Progress :=
  patterns.foldl step p

/-- Passes until one finds nothing, at most `fuel` of them. -/
def passes (patterns : List Text) : Nat → Progress → Progress
  | 0, p => p
  | fuel + 1, p =>
    let next := pass patterns p
    if next.text.length < p.text.length then passes patterns fuel next else p

/-- A text without forbidden patterns, and those that were found. Empty patterns forbid nothing. -/
def run (patterns : List Text) (text : Text) : Progress :=
  passes (patterns.filter (!·.isEmpty)) text.length ⟨text, []⟩

def clean (patterns : List Text) (text : Text) : Text :=
  (run patterns text).text

end PromptStudio.Redaction
