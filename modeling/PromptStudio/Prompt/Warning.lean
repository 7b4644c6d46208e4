import PromptStudio.Prompt.Conflict

/-!
# Warnings

What is reported beside a prompt. A warning never stops a prompt; it lowers its score.
-/

namespace PromptStudio

/-- A remark on a prompt. -/
inductive PromptWarning where
  | unknownFilter (key : Text)
  | unknownFilterValue (key value : Text)
  | blockNotFound (key : Text)
  | forbiddenPattern (pattern : Text)
  | tooLong (length bound : Nat)
  | conflict (c : FilterConflict)
  deriving DecidableEq, Repr

def PromptWarning.message : PromptWarning → Text
  | unknownFilter key => "Unknown filter ignored: " ++ key
  | unknownFilterValue key value => "Unknown value for filter " ++ key ++ " ignored: " ++ value
  | blockNotFound key => "Block not found: " ++ key
  | forbiddenPattern pattern => "Contains forbidden pattern: \"" ++ pattern ++ "\""
  | tooLong length bound =>
    "Prompt exceeds max length (" ++ Nat.repr length ++ "/" ++ Nat.repr bound ++ ")"
  | conflict c => c.message

end PromptStudio
