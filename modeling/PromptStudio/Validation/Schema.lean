import PromptStudio.Json.Value
import PromptStudio.Validation.Checked
import PromptStudio.Validation.Numeral

/-!
# Schemas

A schema checks a JSON value and gives the value that is meant. Numbers and truth values may also arrive as texts, and
whole floats as integers; texts are never made from anything else.
-/

namespace PromptStudio

abbrev Schema (α : Type) := Json → Checked α

namespace Schema

variable {α : Type}

def any : Schema Json := .valid

def text : Schema Text
  | .string t => .valid t
  | _ => .issue .stringType

/-- A text with bounds on its length, without lone surrogates; the lower bound is checked first. -/
def textOf (least : Nat) (most : Option Nat) : Schema Text := fun v =>
  (text v).andThen fun t =>
    if !t.isEncodable then .issue .stringUnicode
    else if t.length < least then .issue .stringTooShort
    else if most.any (· < t.length) then .issue .stringTooLong
    else .valid t

def identifier : Schema Text :=
  textOf 1 none

def nullable (inner : Schema α) : Schema (Option α)
  | .null => .valid none
  | v => (inner v).map some

def list (inner : Schema α) : Schema (List α)
  | .array items => .all (items.zipIdx.map fun (v, i) => (inner v).under (Nat.repr i))
  | _ => .issue .listType

def nonemptyList (inner : Schema α) : Schema (List α) := fun v =>
  (list inner v).andThen fun items => if items.isEmpty then .issue .tooShort else .valid items

/-- The entries with every key once: the first place, the last value. -/
def distinctEntries (entries : List (Text × α)) : List (Text × α) :=
  entries.foldl (fun done e =>
    if done.any (·.1 == e.1) then done.map fun d => if d.1 == e.1 then e else d else done ++ [e]) []

/-- A dictionary with values of a schema, in the order of its keys; every member of a repeated key is checked. -/
def dictionary (inner : Schema α) : Schema (List (Text × α))
  | .object members =>
    (Checked.all (members.map fun (k, v) => ((inner v).under k.shown).map fun a => (k, a))).map distinctEntries
  | _ => .issue .dictType

def openObject : Schema (List (Text × Json))
  | .object members => .valid members
  | _ => .issue .dictType

/-- Whether an integer has 64 bits; a whole float is an integer only then. -/
def isWord (n : Int) : Bool :=
  -0x8000000000000000 < n && n < 0x8000000000000000

/-- An integer: also a truth value, a whole float, or a numeral. -/
def integer : Schema Int
  | .int n => .valid n
  | .bool b => .valid (if b then 1 else 0)
  | .float x =>
    if !x.isFinite then .issue .finiteNumber
    else match x.toInt? with
      | some n => if isWord n then .valid n else .issue .intParsingSize
      | none => .issue .intFromFloat
  | .string t =>
    match t.toChars? with
    | none => .issue .stringUnicode
    | some cs =>
      match Numeral.int cs with
      | .ok n => .valid n
      | .error kind => .issue kind
  | _ => .issue .intType

def integerOf (least : Int) (most : Option Int) : Schema Int := fun v =>
  (integer v).andThen fun n =>
    if most.any (· < n) then .issue .lessThanEqual
    else if n < least then .issue .greaterThanEqual
    else .valid n

/-- A float: also an integer, a truth value, or a numeral. An integer without a float near it is as `large` says. -/
def floatOf (large : Binary64 → Checked Binary64) : Schema Binary64
  | .float x => .valid x
  | .int n =>
    let x := Binary64.ofInt n
    if x.isFinite then .valid x else large x
  | .bool b => .valid (.ofInt (if b then 1 else 0))
  | .string t =>
    match t.toChars? with
    | none => .issue .stringUnicode
    | some cs =>
      match Numeral.float? cs with
      | some x => .valid x
      | none => .issue .floatParsing
  | _ => .issue .floatType

/-- A float; an integer without a float near it is none. -/
def float : Schema Binary64 :=
  floatOf fun _ => .issue .floatType

/-- A float; an integer without a float near it is infinite. -/
def extendedFloat : Schema Binary64 :=
  floatOf .valid

/-- A float from zero to `most`; the upper bound is checked first, and what is no number breaks it. -/
def floatUpTo (most : Binary64) : Schema Binary64 := fun v =>
  (float v).andThen fun x =>
    if !x.le most then .issue .lessThanEqual
    else if !(Binary64.zero false).le x then .issue .greaterThanEqual
    else .valid x

def truthWord? (s : String) : Option Bool :=
  let s := s.map Char.toLower
  if ["0", "off", "f", "false", "n", "no"].contains s then some false
  else if ["1", "on", "t", "true", "y", "yes"].contains s then some true
  else none

/-- The truth value of an integer: zero or one. Only integers of 64 bits are looked at. -/
def truthOf (n : Int) : Checked Bool :=
  if !(isWord n || n == -0x8000000000000000) then .issue .boolType
  else if n = 0 then .valid false
  else if n = 1 then .valid true
  else .issue .boolParsing

/-- A truth value: also a word for one, or a number that is zero or one. -/
def boolean : Schema Bool
  | .bool b => .valid b
  | .int n => truthOf n
  | .float x =>
    match x.toInt?.filter isWord with
    | some n => truthOf n
    | none => .issue .boolType
  | .string t =>
    match t.toString? with
    | none => .issue .stringUnicode
    | some s =>
      match truthWord? s with
      | some b => .valid b
      | none => .issue .boolParsing
  | _ => .issue .boolType

/-- One of a few words; anything else is the given issue. -/
def word (ofName? : String → Option α) (kind : IssueKind) : Schema α
  | .string t =>
    match t.toString? with
    | none => .issue .stringUnicode
    | some s =>
      match ofName? s with
      | some a => .valid a
      | none => .issue kind
  | _ => .issue kind

/-- The members of an object; anything else is the given issue. -/
def record (kind : IssueKind) (inner : List (Text × Json) → Checked α) : Schema α
  | .object members => inner members
  | _ => .issue kind

/-- The value of the first key that is present, under the name of that key; where none is, under that of the first. -/
def fieldOf (keys : List String) (absent : Checked α) (inner : Schema α) (members : List (Text × Json)) : Checked α :=
  match keys.findSome? fun key => (Json.find? members (Text.ofString key)).map fun v => (key, v) with
  | some (key, v) => (inner v).under key
  | none => absent.under (keys.headD "")

def field (name : String) (inner : Schema α) (members : List (Text × Json)) : Checked α :=
  fieldOf [name] (.issue .missing) inner members

def fieldD (name : String) (default : α) (inner : Schema α) (members : List (Text × Json)) : Checked α :=
  fieldOf [name] (.valid default) inner members

end Schema

end PromptStudio
