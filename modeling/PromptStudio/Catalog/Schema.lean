import PromptStudio.Catalog.Definition
import PromptStudio.Validation.Schema

/-!
# The format of a catalog

How the entries of a catalog are read from JSON and written back to it. What is left out has a default.
-/

namespace PromptStudio

open Schema

def BlockType.reader : Schema BlockType :=
  word BlockType.ofName? .enumeration

namespace Profile

def reader : Schema Profile :=
  record .modelType fun m =>
    Profile.mk <$> field "id" identifier m
      <*> field "name" text m
      <*> field "base_prompt" text m
      <*> fieldD "preferred_order" [] (list BlockType.reader) m
      <*> fieldD "forbidden_patterns" [] (list text) m
      <*> (fieldD "max_length" 2000 (integerOf 1 none) m).map Int.toNat
      <*> fieldD "capabilities" [] (list text) m

def toJson (p : Profile) : Json :=
  .ofFields [("id", .string p.id), ("name", .string p.name), ("base_prompt", .string p.basePrompt),
    ("preferred_order", .ofTexts (p.preferredOrder.map fun t => Text.ofString t.name)),
    ("forbidden_patterns", .ofTexts p.forbiddenPatterns), ("max_length", .ofNat p.maxLength),
    ("capabilities", .ofTexts p.capabilities)]

end Profile

namespace Blueprint

def reader : Schema Blueprint :=
  record .modelType fun m =>
    Blueprint.mk <$> field "id" identifier m
      <*> field "name" text m
      <*> field "category" text m
      <*> fieldD "description" [] text m
      <*> field "blocks" (list text) m
      <*> fieldD "constraints" [] (list text) m
      <*> fieldD "preview_description" none (nullable text) m

def toJson (b : Blueprint) : Json :=
  .ofFields [("id", .string b.id), ("name", .string b.name), ("category", .string b.category),
    ("description", .string b.description), ("blocks", .ofTexts b.blocks),
    ("constraints", .ofTexts b.constraints), ("preview_description", .ofText? b.previewDescription)]

end Blueprint

namespace Block

def reader : Schema Block :=
  record .modelType fun m =>
    Block.mk <$> field "key" identifier m
      <*> field "label" text m
      <*> field "template" text m
      <*> field "type" BlockType.reader m

def toJson (b : Block) : Json :=
  .ofFields [("key", .string b.key), ("label", .string b.label), ("template", .string b.template),
    ("type", .string b.type.name)]

end Block

namespace FilterSchema

def reader : Schema FilterSchema :=
  record .modelType fun m =>
    FilterSchema.mk <$> fieldD "type" "select" text m
      <*> fieldD "options" [] (list text) m
      <*> fieldD "min" none (nullable extendedFloat) m
      <*> fieldD "max" none (nullable extendedFloat) m

def boundJson : Option Binary64 → Json
  | none => .null
  | some x => .float x

def toJson (s : FilterSchema) : Json :=
  .ofFields [("type", .string s.type), ("options", .ofTexts s.options), ("min", boundJson s.min),
    ("max", boundJson s.max)]

end FilterSchema

/-- The object of texts by text keys. -/
def Json.ofEntries (entries : List (Text × Text)) : Json :=
  .object (entries.map fun e => (e.1, .string e.2))

namespace Filter

/-- Reads a filter; its schema may stand under either of two names. -/
def reader : Schema Filter :=
  record .modelType fun m =>
    Filter.mk <$> field "key" identifier m
      <*> field "label" text m
      <*> fieldOf ["schema", "value_schema"] (.issue .missing) FilterSchema.reader m
      <*> field "effect" (dictionary text) m
      <*> fieldD "is_premium" false boolean m

def toJson (f : Filter) : Json :=
  .ofFields [("key", .string f.key), ("label", .string f.label), ("schema", f.schema.toJson),
    ("effect", .ofEntries f.effect), ("is_premium", .bool f.isPremium)]

end Filter

namespace BaseModel

def reader : Schema BaseModel :=
  record .modelType fun m =>
    BaseModel.mk <$> field "name" text m
      <*> field "display_name" text m
      <*> fieldD "lora_format" "safetensors" text m
      <*> fieldD "default_resolution" 1024 integer m
      <*> fieldD "is_active" true boolean m

def toJson (b : BaseModel) : Json :=
  .ofFields [("name", .string b.name), ("display_name", .string b.displayName),
    ("lora_format", .string b.loraFormat), ("default_resolution", .int b.defaultResolution),
    ("is_active", .bool b.isActive)]

end BaseModel

namespace CatalogData

def reader : Schema CatalogData :=
  record .modelType fun m =>
    CatalogData.mk <$> fieldD "profiles" [] (list Profile.reader) m
      <*> fieldD "blueprints" [] (list Blueprint.reader) m
      <*> fieldD "blocks" [] (list Block.reader) m
      <*> fieldD "filters" [] (list Filter.reader) m
      <*> fieldD "base_models" [] (list BaseModel.reader) m

end CatalogData

end PromptStudio
