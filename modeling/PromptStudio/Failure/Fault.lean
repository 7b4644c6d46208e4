/-!
# Faults

What goes wrong without being a refusal: an input or a row that an operation cannot work on at all.
-/

namespace PromptStudio

/-- A defect that no refusal stands for. -/
inductive Fault where
  | unencodableText
  | undecodableBytes
  | malformedJson
  /-- An integer has too many digits, or a word is none of those allowed. -/
  | invalidValue
  | tooDeep
  | constraintViolated
  | integerOverflow
  | wrongKind
  | absent
  | unknownKey
  | unknownColumn
  /-- A list or an object cannot stand in a column. -/
  | unstorable
  | malformedAddress
  | unreadableText
  /-- The encoding that is told for a text is one of something else. -/
  | notTextual
  | emptySecret
  | missingSecret
  deriving DecidableEq, Repr

def Fault.message? : Fault → Option String
  | .emptySecret => some "HMAC secret must not be empty"
  | .missingSecret => some "WORKER_HMAC_SECRET environment variable is required in production"
  | _ => none

end PromptStudio
