import PromptStudio.Charset.Pair
import PromptStudio.Failure.Fault

/-!
# Reading in steps

Encodings in which the bytes before decide what the next ones mean. A step looks at all bytes at hand and says how
many of them it reads; `Step.readAll` repeats it to the end.
-/

namespace PromptStudio.Charset

/-- What a step makes of the bytes at hand, of which there is at least one. -/
inductive Step (State : Type) where
  /-- The first byte and `more` behind it are characters. -/
  | read (chars : List Char) (state : State) (more : Nat)
  | malformed (more : Nat)
  | short

namespace Step

def patience : Nat := 8

/-- The characters of bytes. Too few bytes at the end are malformed together, unless they are more than a reader
keeps. -/
def readAll {State : Type} (step : State → Nat → List Nat → Step State) (state : State) :
    List Nat → Except Fault (List Char)
  | [] => .ok []
  | b :: rest =>
    match step state b rest with
    | read chars next more => (readAll step next (rest.drop more)).map (chars ++ ·)
    | malformed more => (readAll step state (rest.drop more)).map (replacement :: ·)
    | short => if rest.length < patience then .ok [replacement] else .error .unreadableText
termination_by bytes => bytes.length
decreasing_by all_goals simp only [List.length_cons, List.length_drop]; omega

def ofChar? {State : Type} (state : State) (more : Nat) : Option Char → Step State
  | some c => read [c] state more
  | none => malformed 0

end Step

end PromptStudio.Charset
