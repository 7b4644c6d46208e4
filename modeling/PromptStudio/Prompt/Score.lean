import PromptStudio.Text.Blank
import PromptStudio.Text.Lowercase
import PromptStudio.Text.Substring

/-!
# Scores

A prompt is worth up to a hundred points. Warnings, a missing subject, a length outside the usual and many repeated
words cost points; words that speak of quality and chosen filters bring some.
-/

namespace PromptStudio.Score

def qualityWords : List Text :=
  ["lighting", "camera", "composition", "texture", "atmosphere", "detail"]

/-- Whether a text holds a word that speaks of quality. -/
def speaksOfQuality (prompt : Text) : Bool :=
  let lowered := Lowercase.text prompt
  qualityWords.any fun word => Substring.occurs Substring.exact word lowered

/-- Whether fewer than half of the words of a text are different. -/
def isRepetitive (prompt : Text) : Bool :=
  let words := Blank.words prompt
  2 * (words.map Lowercase.text).eraseDups.length < words.length

def lengthPenalty (length : Nat) : Int :=
  if length < 100 then 10 else if 1500 < length then 5 else 0

/-- The points before they are brought into bounds. -/
def points (prompt : Text) (hasSubject : Bool) (filterCount warningCount : Nat) : Int :=
  100 - 5 * warningCount - (if hasSubject then 0 else 15) - lengthPenalty prompt.length
    - (if isRepetitive prompt then 10 else 0) + (if speaksOfQuality prompt then 5 else 0)
    + min (2 * filterCount) 10

def ofPrompt (prompt : Text) (hasSubject : Bool) (filterCount warningCount : Nat) : Int :=
  max 0 (min 100 (points prompt hasSubject filterCount warningCount))

end PromptStudio.Score
