import PromptStudio.Number.Binary64
import PromptStudio.Text.CodePoint

/-!
# JSON values

The members of an object keep their order. Integers and floats are different values, and a text may hold a lone
surrogate. `Json.insert` is the rule for a repeated key: the first place, the last value. An object may also be kept
as it was written, with every member of a repeated key; `Json.distinct` applies the rule to it.
-/

namespace PromptStudio

/-- A JSON value. -/
inductive Json where
  | null
  | bool (b : Bool)
  | int (n : Int)
  | float (x : Binary64)
  | string (t : Text)
  | array (items : List Json)
  | object (members : List (Text × Json))

namespace Json

instance : Inhabited Json := ⟨.null⟩

def ofNat (n : Nat) : Json :=
  .int n

/-- The value of an optional text, null if there is none. -/
def ofText? : Option Text → Json
  | none => .null
  | some t => .string t

def ofTexts (ts : List Text) : Json :=
  .array (ts.map .string)

def text? : Json → Option Text
  | .string t => some t
  | _ => none

def ofFields (fields : List (String × Json)) : Json :=
  .object (fields.map fun f => (Text.ofString f.1, f.2))

/-- Sets a member: a key that is present keeps its place and takes the new value, a new key goes to the end. -/
def insert (members : List (Text × Json)) (key : Text) (value : Json) : List (Text × Json) :=
  if members.any (·.1 == key) then
    members.map fun m => if m.1 == key then (key, value) else m
  else members ++ [(key, value)]

def distinct (members : List (Text × Json)) : List (Text × Json) :=
  members.foldl (fun done m => insert done m.1 m.2) []

/-- The value of a key among members; of a repeated key, the last. -/
def find? (members : List (Text × Json)) (key : Text) : Option Json :=
  (members.reverse.find? (·.1 == key)).map (·.2)

def get? (v : Json) (key : Text) : Option Json :=
  match v with
  | .object members => find? members key
  | _ => none

/-- What going through a value meets: the items of an array, the keys of an object, the code points of a text. -/
def elements? : Json → Option (List Json)
  | array items => some items
  | object members => some (members.map fun m => string m.1)
  | string t => some (t.map fun p => string [p])
  | _ => none

/-- False for null, false, zero, and the empty text, array and object; true for all else. -/
def isTruthy : Json → Bool
  | null => false
  | bool b => b
  | int n => n != 0
  | float x => !x.isZero
  | string t => !t.isEmpty
  | array items => !items.isEmpty
  | object members => !members.isEmpty

/-- The members of an object; what counts as nothing has none. -/
def members? (v : Json) : Option (List (Text × Json)) :=
  match v.isTruthy, v with
  | false, _ => some []
  | true, object members => some members
  | true, _ => none

end Json

end PromptStudio
