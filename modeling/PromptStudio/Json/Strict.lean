import PromptStudio.Json.Value

/-!
# What strict JSON can say

A value may hold floats that are no numbers, and texts with lone surrogates. Strict JSON has no word for the former
and no bytes for the latter. A writer may also refuse a value that nests too deep.
-/

namespace PromptStudio

namespace Json

mutual

/-- Whether every float and every text of a value passes a test. -/
def all (float : Binary64 → Bool) (text : Text → Bool) : Json → Bool
  | .float x => float x
  | .string t => text t
  | .array items => allItems float text items
  | .object members => allMembers float text members
  | _ => true

def allItems (float : Binary64 → Bool) (text : Text → Bool) : List Json → Bool
  | [] => true
  | v :: rest => all float text v && allItems float text rest

def allMembers (float : Binary64 → Bool) (text : Text → Bool) : List (Text × Json) → Bool
  | [] => true
  | (key, v) :: rest => text key && all float text v && allMembers float text rest

end

/-- Whether a value has bytes in UTF-8. -/
def isEncodable : Json → Bool :=
  all (fun _ => true) Text.isEncodable

def isStrict : Json → Bool :=
  all Binary64.isFinite Text.isEncodable

mutual

/-- The value with null in place of every float that is no number. -/
def finite : Json → Json
  | .float x => if x.isFinite then .float x else .null
  | .array items => .array (finiteItems items)
  | .object members => .object (finiteMembers members)
  | v => v

def finiteItems : List Json → List Json
  | [] => []
  | v :: rest => finite v :: finiteItems rest

def finiteMembers : List (Text × Json) → List (Text × Json)
  | [] => []
  | (key, v) :: rest => (key, finite v) :: finiteMembers rest

end

mutual

/-- How deep arrays and objects nest. -/
def depth : Json → Nat
  | .array items => depthOfItems items + 1
  | .object members => depthOfMembers members + 1
  | _ => 0

def depthOfItems : List Json → Nat
  | [] => 0
  | v :: rest => max (depth v) (depthOfItems rest)

def depthOfMembers : List (Text × Json) → Nat
  | [] => 0
  | (_, v) :: rest => max (depth v) (depthOfMembers rest)

end

/-- An object with keys that can be shown; keys that are shown alike are one. -/
def withShownKeys : Json → Json
  | .object members => .object (distinct (members.map fun m => (Text.ofString m.1.shown, m.2)))
  | v => v

end Json

end PromptStudio
