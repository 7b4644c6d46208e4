import PromptStudio.Number.Binary64
import PromptStudio.Text.CodePoint

/-!
# Catalog entries

What prompts are made of. A profile is the policy of a target, a block is a piece of template text with a role, a
blueprint is an ordered choice of blocks, a filter is an axis whose values stand for inserted text, and a base model
is what training starts from.
-/

namespace PromptStudio

inductive BlockType where
  | style
  | camera
  | layout
  | constraint
  | postfx
  | subject
  deriving DecidableEq, Repr

namespace BlockType

def all : List BlockType :=
  [style, camera, layout, constraint, postfx, subject]

def name : BlockType → String
  | style => "style"
  | camera => "camera"
  | layout => "layout"
  | constraint => "constraint"
  | postfx => "postfx"
  | subject => "subject"

def ofName? (s : String) : Option BlockType :=
  all.find? (·.name == s)

end BlockType

/-- The policy of a target platform. -/
structure Profile where
  id : Text
  name : Text
  basePrompt : Text
  /-- The order of roles; of a repeated role the last place counts. -/
  preferredOrder : List BlockType
  forbiddenPatterns : List Text
  maxLength : Nat
  capabilities : List Text
  deriving DecidableEq, Repr

/-- An ordered choice of blocks. -/
structure Blueprint where
  id : Text
  name : Text
  category : Text
  description : Text
  blocks : List Text
  constraints : List Text
  previewDescription : Option Text
  deriving DecidableEq, Repr

structure Block where
  key : Text
  label : Text
  template : Text
  type : BlockType
  deriving DecidableEq, Repr

structure FilterSchema where
  type : Text
  /-- The values to choose from; any value if empty. -/
  options : List Text
  min : Option Binary64
  max : Option Binary64
  deriving DecidableEq, Repr

/-- An axis of choice, with the text that each value inserts. -/
structure Filter where
  key : Text
  label : Text
  schema : FilterSchema
  effect : List (Text × Text)
  isPremium : Bool
  deriving DecidableEq, Repr

structure BaseModel where
  name : Text
  displayName : Text
  loraFormat : Text
  defaultResolution : Int
  isActive : Bool
  deriving DecidableEq, Repr

/-- A whole catalog as it is written down, not yet checked for consistency. -/
structure CatalogData where
  profiles : List Profile
  blueprints : List Blueprint
  blocks : List Block
  filters : List Filter
  baseModels : List BaseModel
  deriving DecidableEq, Repr

end PromptStudio
