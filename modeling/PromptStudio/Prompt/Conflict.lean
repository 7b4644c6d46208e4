import PromptStudio.Prompt.Request

/-!
# Conflicting filters

Pairs of filter values that pull a prompt in different directions. A conflict is reported and changes nothing.
-/

namespace PromptStudio

/-- A pair of filter values that do not go together. -/
inductive FilterConflict where
  | phoneAgainstDslr
  | extremeAgainstUgc
  | y2kAgainstModern
  deriving DecidableEq, Repr

namespace FilterConflict

/-- All conflicts, in the order in which they are reported. -/
def all : List FilterConflict :=
  [phoneAgainstDslr, extremeAgainstUgc, y2kAgainstModern]

def sides : FilterConflict → (Text × Text) × (Text × Text)
  | phoneAgainstDslr => (("ugc_realism", "phone"), ("camera_bias", "dslr"))
  | extremeAgainstUgc => (("aesthetic_intensity", "extreme"), ("ugc_realism", "ugc"))
  | y2kAgainstModern => (("temporal_style", "y2k"), ("camera_bias", "modern"))

def message : FilterConflict → Text
  | phoneAgainstDslr => "Filter conflict: UGC phone style may conflict with DSLR camera bias"
  | extremeAgainstUgc => "Filter conflict: Extreme aesthetic intensity may override UGC realism"
  | y2kAgainstModern => "Filter conflict: Y2K temporal style may conflict with modern camera"

def chosen (filters : List (Text × Text)) (side : Text × Text) : Bool :=
  (filters.find? (·.1 == side.1)).map (·.2) == some side.2

def among (filters : List (Text × Text)) : List FilterConflict :=
  all.filter fun c => chosen filters c.sides.1 && chosen filters c.sides.2

end FilterConflict

end PromptStudio
