import PromptStudio.Json.Value
import PromptStudio.Text.Surrogate

/-!
# Documents that come back

A document is kept as ASCII text, in which every surrogate is an escape of its own. When it is read again, two halves of
a pair that stand side by side are one character. Keys that become the same by that are one key, with the last value.
-/

namespace PromptStudio.Json

mutual

def joined : Json → Json
  | .string t => .string t.joined
  | .array items => .array (joinedItems items)
  | .object members => .object (distinct (joinedMembers members))
  | v => v

def joinedItems : List Json → List Json
  | [] => []
  | v :: rest => joined v :: joinedItems rest

/-- The members, keys and values as they come back. -/
def joinedMembers : List (Text × Json) → List (Text × Json)
  | [] => []
  | (key, v) :: rest => (key.joined, joined v) :: joinedMembers rest

end

end PromptStudio.Json
