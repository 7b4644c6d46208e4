import PromptStudio.Text.CodePoint

/-!
# Occurrences in a text

An occurrence is literal up to a relation on code points: equality, or equality where case is ignored. `replace` goes
from left to right, and what it puts in is not searched again.
-/

namespace PromptStudio.Substring

variable {α : Type}

def startsWith (same : α → α → Bool) : List α → List α → Bool
  | [], _ => true
  | _ :: _, [] => false
  | p :: pattern, c :: cs => same p c && startsWith same pattern cs

def occurs (same : α → α → Bool) (pattern : List α) : List α → Bool
  | [] => pattern.isEmpty
  | c :: cs => startsWith same pattern (c :: cs) || occurs same pattern cs

/-- Replaces occurrences behind `skip` characters that belong to the occurrence before. -/
def replaceFrom (same : α → α → Bool) (pattern replacement : List α) : Nat → List α → List α
  | _, [] => []
  | skip + 1, _ :: cs => replaceFrom same pattern replacement skip cs
  | 0, c :: cs =>
    if startsWith same pattern (c :: cs) then
      replacement ++ replaceFrom same pattern replacement (pattern.length - 1) cs
    else c :: replaceFrom same pattern replacement 0 cs

/-- Replaces every occurrence of a pattern that is not empty, from left to right. -/
def replace (same : α → α → Bool) (pattern replacement text : List α) : List α :=
  replaceFrom same pattern replacement 0 text

def exact (a b : CodePoint) : Bool :=
  a == b

end PromptStudio.Substring
