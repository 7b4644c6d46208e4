import PromptStudio.Text.CodePoint

/-!
# Blanks

The blank characters of all scripts, the information separators among them, and what is done with them: texts lose
blanks at their ends, are cut into words, and have runs of blanks joined.
-/

namespace PromptStudio.Blank

def isBlankChar (c : Char) : Bool :=
  let n := c.toNat
  (0x09 ≤ n && n ≤ 0x0D) || (0x1C ≤ n && n ≤ 0x20) || n == 0x85 || n == 0xA0 || n == 0x1680 ||
    (0x2000 ≤ n && n ≤ 0x200A) || n == 0x2028 || n == 0x2029 || n == 0x202F || n == 0x205F || n == 0x3000

def isBlank : CodePoint → Bool
  | .char c => isBlankChar c
  | .surrogate _ => false

/-- A sequence without the members of a class at its end. -/
def dropTail {α : Type} (p : α → Bool) (cs : List α) : List α :=
  (cs.reverse.dropWhile p).reverse

/-- A sequence without the members of a class at both ends. -/
def trimBoth {α : Type} (p : α → Bool) (cs : List α) : List α :=
  dropTail p (cs.dropWhile p)

def strip (t : Text) : Text :=
  trimBoth isBlank t

def words (t : Text) : List Text :=
  (t.splitBy fun a b => isBlank a == isBlank b).filter fun run => run.all (!isBlank ·)

/-- Every run of blanks becomes one `mark`; `inRun` says whether the code point before was a blank. -/
def joinRuns (mark : CodePoint) (inRun : Bool) : Text → Text
  | [] => []
  | p :: rest =>
    if isBlank p then
      if inRun then joinRuns mark true rest else mark :: joinRuns mark true rest
    else p :: joinRuns mark false rest

end PromptStudio.Blank
