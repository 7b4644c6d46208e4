import PromptStudio.Failure.Refusal

/-!
# Error reports

What is told about a failure: a code, a message and details. The code decides the status of the response. What nobody
foresaw is reported as an internal error, with its text among the details.
-/

namespace PromptStudio

/-- A report of a failure. -/
structure ErrorReport where
  code : ErrorCode
  message : Text
  details : List (Text × Json)

namespace ErrorReport

def ofRefusal (r : Refusal) : ErrorReport :=
  ⟨r.code, r.message, r.details.map fun d => (Text.ofString d.1, d.2)⟩

/-- What is said of a failure that nobody foresaw. -/
def unforeseenMessage : String := "予期しないエラーが発生しました"

/-- The report of a failure that nobody foresaw. -/
def unforeseen (reason : Text) : ErrorReport :=
  ⟨.internal, unforeseenMessage, [("original_error", .string reason)]⟩

/--
The report of a failure that is told in a context, with details that may be any value: both have to be objects, unless
they count as nothing.
-/
def ofValues (code : ErrorCode) (message : Text) (details context : Json) : Except Failure ErrorReport :=
  match context.members?, details.members? with
  | none, _ => .error (.fault .wrongKind)
  | some _, none => .error (.invalid [⟨["details"], .dictType⟩])
  | some _, some details => .ok ⟨code, message, details⟩

def response (r : ErrorReport) : Nat × Text :=
  (r.code.status, r.message)

def toJson (r : ErrorReport) : Json :=
  .ofFields [("code", .string r.code.name), ("message", .string r.message), ("details", .object r.details)]

end ErrorReport

end PromptStudio
