import PromptStudio.Failure.Fault
import PromptStudio.Json.Value
import PromptStudio.Number.Shortest

/-!
# Log levels

A level is a number; six numbers have names. A configured level is looked up by name without regard to case, and a name
that is none stands for the level of information.
-/

namespace PromptStudio

abbrev LogLevel := Int

namespace LogLevel

def info : LogLevel := 20

def warning : LogLevel := 30

def named : List (LogLevel × String) :=
  [(0, "NOTSET"), (10, "DEBUG"), (info, "INFO"), (warning, "WARNING"), (40, "ERROR"), (50, "CRITICAL")]

def configurable : List (String × LogLevel) :=
  (named.map fun level => (level.2, level.1)) ++ [("WARN", warning), ("FATAL", 50)]

def text (level : LogLevel) : String :=
  match named.find? (·.1 == level) with
  | some found => found.2
  | none => "Level " ++ (if level < 0 then "-" else "") ++ String.ofList (Binary64.digitsOf level.natAbs)

/-- The characters beside the small letters of ASCII whose capitals are letters of ASCII, with those. -/
def capitals : List (Char × Text) :=
  [('ı', "I"), ('ſ', "S"), ('ß', "SS"), ('ﬀ', "FF"), ('ﬁ', "FI"), ('ﬂ', "FL"), ('ﬃ', "FFI"), ('ﬄ', "FFL"), ('ﬅ', "ST"),
    ('ﬆ', "ST")]

/-- The capitals of a code point, as far as they are letters of ASCII. -/
def upper (p : CodePoint) : Text :=
  match p with
  | .char c => (capitals.lookup c).getD [.char c.toUpper]
  | p => [p]

/-- The names that are taken by something that is no level, with what is wrong with them. -/
def reserved : List (String × Fault) :=
  [("BASIC_FORMAT", .invalidValue), ("_STYLES", .wrongKind)]

def ofName (name : Text) : Except Fault LogLevel :=
  let name := name.flatMap upper
  match reserved.find? (Text.ofString ·.1 == name), configurable.find? (Text.ofString ·.1 == name) with
  | some (_, fault), _ => .error fault
  | none, some (_, level) => .ok level
  | none, none => .ok info

end LogLevel

/-- How the log is set up: what the root and its one handler let through, and what the chatty parts let through. -/
structure LogSetup where
  root : LogLevel
  handler : LogLevel
  handlerCount : Nat
  chatty : LogLevel
  deriving DecidableEq, Repr

/-- Sets the log up; an empty name stands for the configured one, and the handler is added once only. -/
def LogSetup.ofName (configured name : Text) : Except Fault LogSetup :=
  (LogLevel.ofName (if name.isEmpty then configured else name)).map fun level => ⟨level, level, 1, .warning⟩

/-- Sets the log up by a value, which is a name or counts as nothing. -/
def LogSetup.ofValue (configured : Text) (v : Json) : Except Fault LogSetup :=
  match v.isTruthy, v with
  | false, _ => ofName configured []
  | true, .string name => ofName configured name
  | true, _ => .error .absent

end PromptStudio
