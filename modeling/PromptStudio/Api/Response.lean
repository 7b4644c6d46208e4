import PromptStudio.Failure.Report
import PromptStudio.Http.ContentType
import PromptStudio.Http.Request
import PromptStudio.Json.Document
import PromptStudio.Json.Strict
import PromptStudio.Validation.Schema

/-!
# Responses

A request ends in a value or in a rejection. A rejection that lists what is wrong with the input repeats the parts of
the input that are wrong; where strict JSON cannot say them, nothing but the unforeseen failure is told.
-/

namespace PromptStudio

/-- Why a request is not answered with a value. -/
inductive Rejection where
  | refused (cause : Refusal)
  | invalid (issues : List Issue)
  | unreadableBody
  | malformedReport
  | compileFailed
  | unforeseen
  | unknownPath
  | wrongMethod
  | otherSlash
  | forbiddenMethod

/-- A response; a body that is empty is none. -/
structure Response where
  status : Nat
  body : Option Json
  requestId : Option Text

inductive BodyContent where
  | empty
  | json (v : Json)
  | other (bytes : Bytes)

namespace Rejection

def ofFailure : Failure → Rejection
  | .refused cause => .refused cause
  | .invalid _ | .fault _ => .unforeseen

def detail (text : Text) : Json :=
  .ofFields [("detail", .string text)]

def unforeseenBody : Json :=
  .ofFields [("code", .string ErrorCode.internal.name), ("message", .string ErrorReport.unforeseenMessage)]

def answer : Rejection → Nat × Option Json
  | .refused cause =>
    let (status, message) := (ErrorReport.ofRefusal cause).response
    (status, some (detail message))
  | .invalid issues => (422, some (.ofFields [("detail", .array (issues.map Refusal.issueJson))]))
  | .unreadableBody => (400, some (detail "There was an error parsing the body"))
  | .malformedReport => (400, some (detail "Invalid webhook payload"))
  | .compileFailed => (500, some (detail "Internal server error"))
  | .unforeseen => (500, some unforeseenBody)
  | .unknownPath => (404, some (detail "Not Found"))
  | .wrongMethod => (405, some (detail "Method Not Allowed"))
  | .otherSlash => (307, none)
  | .forbiddenMethod => (400, some (.string "Disallowed CORS method"))

end Rejection

namespace Response

/-- The response to a failure that nobody foresaw; it does not tell the id of the request. -/
def unforeseen : Response :=
  ⟨500, some Rejection.unforeseenBody, none⟩

/-- The response with a rejection; one that has no bytes is a failure that nobody foresaw. -/
def ofRejection (requestId : Text) (r : Rejection) : Response :=
  let (status, body) := r.answer
  match r with
  | .unforeseen => unforeseen
  | _ => if body.all Json.isEncodable then ⟨status, body, some requestId⟩ else unforeseen

/-- The response with a value; a value without bytes is a failure that nobody foresaw. -/
def ofValue (requestId : Text) (status : Nat) (v : Json) : Response :=
  if v.isEncodable then ⟨status, some v.finite, some requestId⟩ else unforeseen

def forMethod (r : Response) (method : Text) : Response :=
  if method = Text.ofString "HEAD" then { r with body := none } else r

end Response

namespace BodyContent

def read {α : Type} (content : BodyContent) (schema : Schema α) : Checked α :=
  (match content with
    | .empty => Checked.issue .missing
    | .json v => schema v
    | .other _ => Checked.issue .modelAttributesType).under "body"

/-- The part of a value that an issue is about; of a member that is missing, the object without it. -/
def partAt (v : Json) : List String → Json
  | [] => v
  | step :: rest =>
    match v with
    | .object members =>
      match members.find? (·.1.shown == step) with
      | some member => partAt member.2 rest
      | none => v
    | .array items =>
      match step.toNat? >>= (items[·]?) with
      | some item => partAt item rest
      | none => v
    | v => v

/-- Whether an issue can be told together with the part of the input that it is about. -/
def canRepeat (content : BodyContent) (i : Issue) : Bool :=
  match i.path, content with
  | "body" :: rest, .json v => i.kind != .stringUnicode && (partAt v rest).isStrict
  | "body" :: _, .other bytes => (Utf8.decode? false bytes).isSome
  | _, _ => true

def reject (content : BodyContent) (issues : List Issue) : Rejection :=
  if issues.all content.canRepeat then .invalid issues else .unforeseen

end BodyContent

namespace HttpRequest

/-- What the body holds: JSON is read as far as the content type says so. -/
def content (r : HttpRequest) (maxDepth : Nat := Json.usualDepth) : Except Rejection BodyContent :=
  let contentType := ((r.header? "content-type").getD []).filterMap CodePoint.toChar?
  if r.body.isEmpty then .ok .empty
  else if !ContentType.isJson contentType then .ok (.other r.body)
  else match Json.ofBytes r.body maxDepth with
    | .ok v => .ok (.json v)
    | .error .malformedJson => .error (.invalid [⟨["body"], .jsonInvalid⟩])
    | .error _ => .error .unreadableBody

end HttpRequest

end PromptStudio
