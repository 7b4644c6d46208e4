import PromptStudio.Validation.Issue

/-!
# Checked values

The outcome of a validation. Checks of the parts of a value are joined with `<*>`, which keeps the issues of both
sides in order, so one pass reports everything.
-/

namespace PromptStudio

/-- A value, or what is wrong with it. -/
inductive Checked (α : Type) where
  | valid (value : α)
  | invalid (issues : List Issue)

namespace Checked

variable {α β : Type}

def issue (kind : IssueKind) : Checked α :=
  .invalid [⟨[], kind⟩]

/-- The same outcome one step further down. -/
def under (key : String) : Checked α → Checked α
  | valid a => valid a
  | invalid issues => invalid (issues.map fun i => ⟨key :: i.path, i.kind⟩)

def map (f : α → β) : Checked α → Checked β
  | valid a => valid (f a)
  | invalid issues => invalid issues

/-- Both outcomes, with the issues of both. -/
def both (f : Checked (α → β)) (a : Checked α) : Checked β :=
  match f, a with
  | valid f, valid a => valid (f a)
  | valid _, invalid issues => invalid issues
  | invalid issues, valid _ => invalid issues
  | invalid left, invalid right => invalid (left ++ right)

/-- A check that needs the value of the first. -/
def andThen (a : Checked α) (f : α → Checked β) : Checked β :=
  match a with
  | valid a => f a
  | invalid issues => invalid issues

instance : Functor Checked where
  map := map

instance : Seq Checked where
  seq f a := both f (a ())

instance : Pure Checked where
  pure := valid

/-- The outcomes of a list, with all issues. -/
def all : List (Checked α) → Checked (List α)
  | [] => valid []
  | a :: rest => both (a.map List.cons) (all rest)

end Checked

end PromptStudio
