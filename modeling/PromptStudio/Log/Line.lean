import PromptStudio.Failure.Fault
import PromptStudio.Json.Display
import PromptStudio.Log.Level
import PromptStudio.Time.Instant

/-!
# Log lines

An entry of the log is one line of `key=value` pairs. A few keys of its context are shown, in a fixed order, where they
have a value.
-/

namespace PromptStudio

/-- An entry of the log. -/
structure LogEntry where
  time : Instant
  level : LogLevel
  logger : Text
  message : Text
  context : List (Text × Json)
  failure : Option Text

namespace LogEntry

def shownKeys : List String :=
  ["request_id", "user_id", "job_id", "dataset_id", "prompt_id", "path", "method"]

def contextPairs (context : List (Text × Json)) : List (String × Text) :=
  shownKeys.filterMap fun key =>
    match Json.find? context (Text.ofString key) with
    | none | some .null => none
    | some v => some (key, v.display)

/-- The text of a failure: its kind, and what it says behind it if it says something. -/
def failureText (reason : Text) : Text :=
  if reason.isEmpty then "ValueError" else "ValueError: " ++ reason

def pairs (e : LogEntry) : List (String × Text) :=
  [("timestamp", (e.time.secondTextWith Json.intText ' ').map .char), ("level", Text.ofString e.level.text),
      ("logger", e.logger), ("message", e.message)]
    ++ contextPairs e.context
    ++ e.failure.toList.map fun reason => ("exception", failureText reason)

def line (e : LogEntry) : Text :=
  (" | " : Text).intercalate (e.pairs.map fun p => Text.ofString p.1 ++ .char '=' :: p.2)

/-- A context with more on top: what a call adds stands over what the logger carries. -/
def mergeContext (carried added : List (Text × Json)) : List (Text × Json) :=
  added.foldl (fun context m => Json.insert context m.1 m.2) carried

/-- The members of a context, which is an object or counts as nothing. -/
def contextOf (v : Json) : Except Fault (List (Text × Json)) :=
  match v.members? with
  | some members => .ok members
  | none => .error .wrongKind

/-- The context that a logger can carry: the key of its own name is taken. -/
def carried (v : Json) : Except Fault (List (Text × Json)) := do
  let context ← contextOf v
  if context.any (·.1 == Text.ofString "name") then throw .wrongKind else return context

end LogEntry

end PromptStudio
