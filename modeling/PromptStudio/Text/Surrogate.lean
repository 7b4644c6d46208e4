import PromptStudio.Text.CodePoint

/-!
# Surrogate pairs

A surrogate is the first or the second half of a pair. A text may hold both halves of a pair side by side without the
character that they stand for: they came in apart from each other. Where every half is written as an escape of its own,
the two are read as the character.
-/

namespace PromptStudio

namespace CodePoint

/-- The character that two halves of a pair stand for, the first half before the second. -/
def pair? : CodePoint → CodePoint → Option CodePoint
  | .surrogate high, .surrogate low =>
    if high.val < 0x400 ∧ 0x400 ≤ low.val then some (.ofNat (0x10000 + 0x400 * high.val + (low.val - 0x400))) else none
  | _, _ => none

end CodePoint

namespace Text

/-- The text with a character in place of every two halves of a pair that stand side by side. -/
def joined : Text → Text
  | p :: q :: rest =>
    match p.pair? q with
    | some c => c :: joined rest
    | none => p :: joined (q :: rest)
  | t => t

end Text

end PromptStudio
