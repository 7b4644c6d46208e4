import PromptStudio.Http.ContentType
import PromptStudio.Http.Url
import PromptStudio.Json.Document

/-!
# Requests to others and their replies

A signed payload goes to an address, and what comes back is a status with a body, or a failure on the way. The text of a
body is read in the encoding that its content type tells.
-/

namespace PromptStudio

/-- Why no reply came. -/
inductive TransportFailure where
  | timeout
  | unreachable (reason : Text)
  deriving DecidableEq, Repr

structure Reply where
  status : Nat
  contentType : Text
  body : Bytes
  deriving DecidableEq, Repr

abbrev Outcome := Except TransportFailure Reply

namespace Reply

def text (r : Reply) : Except Fault Text :=
  if r.body.isEmpty then .ok []
  else ((ContentType.charset (r.contentType.filterMap CodePoint.toChar?)).decode r.body).map (·.map .char)

/-- The reply that agrees and says nothing. -/
def quiet : Reply :=
  ⟨200, "application/json", Utf8.ofString "\x7b\x7d"⟩

def isSuccess (r : Reply) : Bool :=
  200 ≤ r.status && r.status < 300

end Reply

/-- A signed request that was sent. -/
structure SentRequest where
  url : Url
  body : Text
  signature : String
  timestamp : Int
  contentType : String

namespace SentRequest

/-- The request that carries a signed payload to an address: the body has blanks after its separators. -/
def ofSigned (address : Text) (payload : Json) (signature : String) (timestamp : Int) : Except Fault SentRequest :=
  (Url.ofText address).map fun url =>
    { url := url.sent, body := Json.render .spaced payload, signature, timestamp, contentType := "application/json" }

/-- What comes back. A reply is taken only from an absolute address; a failure on the way shows before that matters. -/
def receive (r : SentRequest) (outcome : Outcome) : Except Fault Outcome :=
  match outcome with
  | .error failure => .ok (.error failure)
  | .ok reply => if r.url.isAbsolute then .ok (.ok reply) else .error .invalidValue

end SentRequest

end PromptStudio
