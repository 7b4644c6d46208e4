import PromptStudio.Json.Value

/-!
# Reading JSON

A reader over the remaining code points. Every step takes at least one of them, so the length of the text bounds the
number of steps, and `read` needs no other fuel. Two rules are in use: the lenient one lets a lone surrogate through and
merges the members of a repeated key, the strict one refuses the former and keeps the latter. Both bound the depth of
nesting.
-/

namespace PromptStudio.Json

inductive ReadError where
  | malformed
  | integerTooLong
  | tooDeep
  deriving DecidableEq, Repr

/-- What a reader lets through. -/
structure Rule where
  /-- An escape may name a surrogate that stands alone. -/
  loneSurrogates : Bool
  keepsRepeats : Bool
  /-- The bound on digits holds for the whole part of every number, not for integers alone. -/
  boundsWholeParts : Bool
  maxDepth : Nat

/-- How deep a value may nest where nothing else is told. -/
def usualDepth : Nat := 990

/-- The rule for payloads, request bodies and replies. How deep they may nest depends on the stack of whoever reads. -/
def Rule.lenient (maxDepth : Nat := usualDepth) : Rule := ⟨true, false, false, maxDepth⟩

def Rule.strict : Rule := ⟨false, true, true, 201⟩

def maxIntegerDigits : Nat := 4300

def isBlank : CodePoint → Bool
  | .char ' ' | .char '\t' | .char '\n' | .char '\r' => true
  | _ => false

def skipBlanks (t : Text) : Text :=
  t.dropWhile isBlank

def digitValue? : CodePoint → Option Nat
  | .char c => if '0' ≤ c ∧ c ≤ '9' then some (c.toNat - '0'.toNat) else none
  | .surrogate _ => none

def hexValue? : CodePoint → Option Nat
  | .char c =>
    if '0' ≤ c ∧ c ≤ '9' then some (c.toNat - '0'.toNat)
    else if 'a' ≤ c ∧ c ≤ 'f' then some (c.toNat - 'a'.toNat + 10)
    else if 'A' ≤ c ∧ c ≤ 'F' then some (c.toNat - 'A'.toNat + 10)
    else none
  | .surrogate _ => none

def spanDigits : Text → List Nat × Text
  | [] => ([], [])
  | p :: rest =>
    match digitValue? p with
    | some d => let (ds, tail) := spanDigits rest; (d :: ds, tail)
    | none => ([], p :: rest)

def ofDigits (ds : List Nat) : Nat :=
  ds.foldl (fun n d => 10 * n + d) 0

/-- Four hexadecimal digits as a 16-bit unit. -/
def hexUnit? : Text → Option (Nat × Text)
  | a :: b :: c :: d :: rest => do
    let a ← hexValue? a
    let b ← hexValue? b
    let c ← hexValue? c
    let d ← hexValue? d
    some (4096 * a + 256 * b + 16 * c + d, rest)
  | _ => none

/-- The code point of a unit escape, behind its `\u`; a pair of surrogates is one code point. -/
def unicodeEscape (rule : Rule) (t : Text) : Option (CodePoint × Text) := do
  let (high, rest) ← hexUnit? t
  if high < 0xD800 ∨ 0xDFFF < high then
    some (.ofNat high, rest)
  else
    let pair : Option (CodePoint × Text) :=
      match rest with
      | .char '\\' :: .char 'u' :: more =>
        match hexUnit? more with
        | some (low, tail) =>
          if high < 0xDC00 ∧ 0xDC00 ≤ low ∧ low ≤ 0xDFFF then
            some (.ofNat (0x10000 + 0x400 * (high - 0xD800) + (low - 0xDC00)), tail)
          else none
        | none => none
      | _ => none
    match pair with
    | some read => some read
    | none => if rule.loneSurrogates then some (.ofNat high, rest) else none

/-- The code point of an escape, behind its backslash. -/
def escaped (rule : Rule) : Text → Option (CodePoint × Text)
  | .char '"' :: rest => some (.char '"', rest)
  | .char '\\' :: rest => some (.char '\\', rest)
  | .char '/' :: rest => some (.char '/', rest)
  | .char 'b' :: rest => some (.char '\x08', rest)
  | .char 'f' :: rest => some (.char '\x0c', rest)
  | .char 'n' :: rest => some (.char '\n', rest)
  | .char 'r' :: rest => some (.char '\r', rest)
  | .char 't' :: rest => some (.char '\t', rest)
  | .char 'u' :: rest => unicodeEscape rule rest
  | _ => none

/-- The rest of a string behind its opening quote and the code points read so far, which are held newest first. -/
def stringBody (rule : Rule) : Nat → Text → Text → Except ReadError (Text × Text)
  | 0, _, _ => .error .malformed
  | fuel + 1, done, t =>
    match t with
    | [] => .error .malformed
    | .char '"' :: rest => .ok (done.reverse, rest)
    | .char '\\' :: rest =>
      match escaped rule rest with
      | some (p, rest) => stringBody rule fuel (p :: done) rest
      | none => .error .malformed
    | p :: rest => if p.toNat < 0x20 then .error .malformed else stringBody rule fuel (p :: done) rest

/-- The fraction of a number: its digits, none if no digit follows the point. -/
def fraction (t : Text) : List Nat × Text :=
  match t with
  | .char '.' :: rest =>
    match spanDigits rest with
    | ([], _) => ([], t)
    | found => found
  | _ => ([], t)

def exponent? (t : Text) : Option (Int × Text) :=
  let digits (negative : Bool) (rest : Text) : Option (Int × Text) :=
    match spanDigits rest with
    | ([], _) => none
    | (ds, tail) => some (if negative then -(ofDigits ds : Int) else ofDigits ds, tail)
  match t with
  | .char e :: rest =>
    if e = 'e' ∨ e = 'E' then
      match rest with
      | .char '+' :: more => digits false more
      | .char '-' :: more => digits true more
      | _ => digits false rest
    else none
  | .surrogate _ :: _ => none
  | [] => none

/-- The whole part of a number: one zero, or digits that start with another. -/
def wholeDigits? (t : Text) : Option (List Nat × Text) :=
  match t with
  | .char '0' :: rest => some ([0], rest)
  | _ =>
    match spanDigits t with
    | ([], _) => none
    | found => some found

/-- A number behind its sign: an integer if neither fraction nor exponent follows the whole part. -/
def number (rule : Rule) (negative : Bool) (t : Text) : Except ReadError (Json × Text) :=
  match wholeDigits? t with
  | none => .error .malformed
  | some (whole, rest) =>
    let (places, rest) := fraction rest
    let tooLong := maxIntegerDigits < whole.length
    match places, exponent? rest with
    | [], none =>
      if tooLong then .error .integerTooLong
      else .ok (.int (if negative then -(ofDigits whole : Int) else ofDigits whole), rest)
    | _, found =>
      let (power, rest) := found.getD (0, rest)
      if rule.boundsWholeParts && tooLong then .error .integerTooLong
      else .ok (.float (.ofDecimal negative (ofDigits (whole ++ places)) (power - places.length)), rest)

def afterWord? (word : List Char) (t : Text) : Option Text :=
  match word, t with
  | [], t => some t
  | c :: word, p :: t => if p = .char c then afterWord? word t else none
  | _ :: _, [] => none

def word (name : String) (v : Json) (t : Text) : Except ReadError (Json × Text) :=
  match afterWord? name.toList t with
  | some rest => .ok (v, rest)
  | none => .error .malformed

def Rule.addMember (rule : Rule) (done : List (Text × Json)) (key : Text) (v : Json) : List (Text × Json) :=
  if rule.keepsRepeats then done ++ [(key, v)] else insert done key v

mutual

def value (rule : Rule) : Nat → Nat → Text → Except ReadError (Json × Text)
  | 0, _, _ => .error .malformed
  | fuel + 1, depth, t =>
    match t with
    | .char '"' :: rest => do
      let (s, rest) ← stringBody rule fuel [] rest
      return (.string s, rest)
    | .char '\x7b' :: rest =>
      if rule.maxDepth ≤ depth then .error .tooDeep
      else match skipBlanks rest with
        | .char '\x7d' :: rest => .ok (.object [], rest)
        | rest => members rule fuel (depth + 1) [] rest
    | .char '[' :: rest =>
      if rule.maxDepth ≤ depth then .error .tooDeep
      else match skipBlanks rest with
        | .char ']' :: rest => .ok (.array [], rest)
        | rest => items rule fuel (depth + 1) [] rest
    | .char 'n' :: _ => word "null" .null t
    | .char 't' :: _ => word "true" (.bool true) t
    | .char 'f' :: _ => word "false" (.bool false) t
    | .char 'N' :: _ => word "NaN" (.float .nan) t
    | .char 'I' :: _ => word "Infinity" (.float (.infinite false)) t
    | .char '-' :: .char 'I' :: _ => word "-Infinity" (.float (.infinite true)) t
    | .char '-' :: rest => number rule true rest
    | _ => number rule false t

/-- The items of an array behind those read so far, which are held newest first. -/
def items (rule : Rule) : Nat → Nat → List Json → Text → Except ReadError (Json × Text)
  | 0, _, _, _ => .error .malformed
  | fuel + 1, depth, done, t => do
    let (v, rest) ← value rule fuel depth t
    match skipBlanks rest with
    | .char ',' :: rest => items rule fuel depth (v :: done) (skipBlanks rest)
    | .char ']' :: rest => return (.array (v :: done).reverse, rest)
    | _ => .error .malformed

/-- The members of an object behind those read so far. -/
def members (rule : Rule) : Nat → Nat → List (Text × Json) → Text → Except ReadError (Json × Text)
  | 0, _, _, _ => .error .malformed
  | fuel + 1, depth, done, t =>
    match t with
    | .char '"' :: rest => do
      let (key, rest) ← stringBody rule fuel [] rest
      match skipBlanks rest with
      | .char ':' :: rest =>
        let (v, rest) ← value rule fuel depth (skipBlanks rest)
        let done := rule.addMember done key v
        match skipBlanks rest with
        | .char ',' :: rest => members rule fuel depth done (skipBlanks rest)
        | .char '\x7d' :: rest => return (.object done, rest)
        | _ => .error .malformed
      | _ => .error .malformed
    | _ => .error .malformed

end

def read (rule : Rule) (t : Text) : Except ReadError Json := do
  let (v, rest) ← value rule (t.length + 1) 0 (skipBlanks t)
  match skipBlanks rest with
  | [] => return v
  | _ => .error .malformed

end PromptStudio.Json
