import PromptStudio.Failure.Fault
import PromptStudio.Json.Printer
import PromptStudio.Json.Reader
import PromptStudio.Json.Strict
import PromptStudio.Text.Encoding

/-!
# JSON documents

A document is a text or a sequence of bytes that spells one value. A text may not start with a byte order mark; bytes
say by their beginning which encoding they are in.

Reading and writing recurse with the value, so both end at a depth that depends on how much of the stack the caller has
used. Every place where a value of any depth passes has a bound of its own.
-/

namespace PromptStudio

namespace Json

def ReadError.fault : ReadError → Fault
  | .malformed => .malformedJson
  | .integerTooLong => .invalidValue
  | .tooDeep => .tooDeep

def ofText (t : Text) (maxDepth : Nat := usualDepth) : Except Fault Json :=
  match t with
  | .char '\uFEFF' :: _ => .error .malformedJson
  | _ => (read (.lenient maxDepth) t).mapError ReadError.fault

def ofBytes (bytes : Bytes) (maxDepth : Nat := usualDepth) : Except Fault Json :=
  match Encoding.decodeDetected? bytes with
  | some t => (read (.lenient maxDepth) t).mapError ReadError.fault
  | none => .error .undecodableBytes

/-- The bytes of a value in a written form. The depth shows before a text that has no bytes does. -/
def toBytes (form : Form) (v : Json) (maxDepth : Nat) : Except Fault Bytes :=
  if maxDepth < v.depth then .error .tooDeep
  else match Utf8.encode? (render form v) with
    | some bytes => .ok bytes
    | none => .error .unencodableText

end Json

/-- How deep values may nest in each place where one of any depth is read or written. -/
structure Nesting where
  /-- In the body of a request. -/
  body : Nat
  /-- In a signed message that arrives. -/
  message : Nat
  /-- In what is written to check the signature of a message. -/
  checked : Nat
  /-- In what is written to sign a payload. -/
  signed : Nat
  /-- In the reply to a request that was sent. -/
  reply : Nat

/-- How deep a value may nest in what is signed: a few calls stand between a caller and the writing. -/
def Nesting.signedDepth : Nat := 987

/-- The bounds of callers that have used nothing of the stack. -/
def Nesting.usual : Nesting :=
  ⟨Json.usualDepth, Json.usualDepth, signedDepth, signedDepth, Json.usualDepth⟩

end PromptStudio
