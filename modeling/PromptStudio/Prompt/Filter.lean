import PromptStudio.Catalog.Snapshot
import PromptStudio.Prompt.Warning

/-!
# Filter effects

A chosen filter value stands for a text of the catalog. A filter that is not in the catalog, or whose value has no text,
gives a warning instead, so every chosen filter gives exactly one of the two.
-/

namespace PromptStudio

/-- The texts of chosen filters, in the order of the request. -/
abbrev Effects := List (Text × Text)

namespace Filter

/-- The text of a value; an empty text is none. -/
def effectOf? (f : Filter) (value : Text) : Option Text :=
  match (f.effect.find? (·.1 == value)).map (·.2) with
  | some text => if text.isEmpty then none else some text
  | none => none

end Filter

namespace Catalog

def resolveFilter (c : Catalog) (choice : Text × Text) : Except PromptWarning (Text × Text) :=
  match c.filters.get? choice.1 with
  | none => .error (.unknownFilter choice.1)
  | some f =>
    match f.effectOf? choice.2 with
    | some text => .ok (choice.1, text)
    | none => .error (.unknownFilterValue choice.1 choice.2)

def effects (c : Catalog) (filters : List (Text × Text)) : Effects :=
  filters.filterMap fun choice => (c.resolveFilter choice).toOption

def filterWarnings (c : Catalog) (filters : List (Text × Text)) : List PromptWarning :=
  filters.filterMap fun choice =>
    match c.resolveFilter choice with
    | .ok _ => none
    | .error w => some w

end Catalog

end PromptStudio
