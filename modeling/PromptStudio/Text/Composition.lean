import PromptStudio.Text.MarkTable

/-!
# Composed letters

A letter with marks can be spelled in several ways. The composed spelling takes as few characters as it can: marks
stand in the order of their places, and a mark goes into its letter where the two are also one letter. A text is in
composed form if taking it apart and composing it again gives the text.
-/

namespace PromptStudio.Composition

/-- The place of a mark at its letter; zero for what is no mark. -/
def place (n : Nat) : Nat :=
  ((markPlaces.find? fun r => r.1 ≤ n && n ≤ r.2.1).map (·.2.2)).getD 0

def compose? (letter mark : Nat) : Option Nat := do
  let made ← (← markedLetters.find? (·.1 == mark)).2.find? (·.1 == letter)
  return made.2

def parts? (n : Nat) : Option (Nat × Nat) :=
  markedLetters.findSome? fun entry => (entry.2.find? (·.2 == n)).map fun made => (made.1, entry.1)

def maxMarks : Nat := 4

def apart : Nat → Nat → List Nat
  | 0, n => [n]
  | fuel + 1, n =>
    match parts? n with
    | some (letter, mark) => apart fuel letter ++ [mark]
    | none => [n]

/-- Puts a code point behind others, which stand newest first; a mark goes before those of a later place. -/
def putBehind (n : Nat) : List Nat → List Nat
  | [] => [n]
  | m :: rest => if place n ≠ 0 ∧ place n < place m then m :: putBehind n rest else n :: m :: rest

def ordered (points : List Nat) : List Nat :=
  (points.foldl (fun done n => putBehind n done) []).reverse

/-- Composes code points behind a letter; `marks` are those of the letter that did not go into it, newest first. -/
def composeBehind (letter : Nat) (marks : List Nat) : List Nat → List Nat
  | [] => letter :: marks.reverse
  | n :: rest =>
    let blocked := marks.head?.any fun m => place n ≤ place m
    match if blocked then none else compose? letter n with
    | some made => composeBehind made marks rest
    | none =>
      if place n = 0 then letter :: marks.reverse ++ composeBehind n [] rest
      else composeBehind letter (n :: marks) rest

/-- The composed form of code points that start with a letter. -/
def composed (points : List Nat) : List Nat :=
  match ordered (points.flatMap (apart maxMarks)) with
  | [] => []
  | letter :: rest => composeBehind letter [] rest

/-- Whether code points that start with a letter are in composed form. -/
def isComposed (points : List Nat) : Bool :=
  composed points == points

end PromptStudio.Composition
