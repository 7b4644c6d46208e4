import PromptStudio.Catalog.Schema
import PromptStudio.Catalog.Snapshot

/-!
# Exported catalogs

A catalog is written in the format in which it is read, so what was exported can be loaded again.
-/

namespace PromptStudio.Catalog

def entriesJson {α : Type} (toJson : α → Json) (index : Index α) : Json :=
  .array (index.map fun e => toJson e.2)

def toJson (c : Catalog) : Json :=
  .ofFields [("profiles", entriesJson Profile.toJson c.profiles),
    ("blueprints", entriesJson Blueprint.toJson c.blueprints), ("blocks", entriesJson Block.toJson c.blocks),
    ("filters", entriesJson Filter.toJson c.filters), ("base_models", entriesJson BaseModel.toJson c.baseModels)]

end PromptStudio.Catalog
