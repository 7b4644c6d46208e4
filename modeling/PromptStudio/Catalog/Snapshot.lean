import PromptStudio.Catalog.Definition
import PromptStudio.Failure.Refusal

/-!
# Catalogs

A catalog is catalog data that is consistent: no key is used twice in a list, blueprints name blocks that exist, and
filters have effects only for values that can be chosen. `Catalog.ofData` checks this and gives every list an index by
key.
-/

namespace PromptStudio

/-- Entries in order, each under its key. -/
abbrev Index (α : Type) := List (Text × α)

namespace Index

variable {α : Type}

def get? (index : Index α) (key : Text) : Option α :=
  (index.find? (·.1 == key)).map (·.2)

def has (index : Index α) (key : Text) : Bool :=
  index.any (·.1 == key)

def extend (kind : String) (keyOf : α → Text) (index : Index α) : List α → Except Refusal (Index α)
  | [] => .ok index
  | a :: rest =>
    if index.has (keyOf a) then .error (.duplicateKey kind (keyOf a))
    else extend kind keyOf (index ++ [(keyOf a, a)]) rest

/-- The index of entries, refused at the first key that was there before. -/
def ofList (kind : String) (keyOf : α → Text) (entries : List α) : Except Refusal (Index α) :=
  extend kind keyOf [] entries

end Index

/-- A consistent catalog. -/
structure Catalog where
  profiles : Index Profile
  blueprints : Index Blueprint
  blocks : Index Block
  filters : Index Filter
  baseModels : Index BaseModel

namespace Catalog

def missingBlocks (c : Catalog) (keys : List Text) : List Text :=
  keys.filter fun key => !c.blocks.has key

def activeBaseModels (c : Catalog) : List BaseModel :=
  (c.baseModels.map (·.2)).filter (·.isActive)

/-- The values of a filter that have an effect without being an option. -/
def strayValues (f : Filter) : List Text :=
  (f.effect.map (·.1)).filter fun value => !f.schema.options.isEmpty && !f.schema.options.contains value

/-- Refuses the first blueprint with blocks that do not exist. -/
def checkBlueprints (c : Catalog) : List Blueprint → Except Refusal Unit
  | [] => .ok ()
  | b :: rest =>
    match c.missingBlocks b.blocks with
    | [] => checkBlueprints c rest
    | missing => .error (.danglingBlocks b.id missing)

/-- Refuses the first filter with effects outside its options. -/
def checkFilters : List Filter → Except Refusal Unit
  | [] => .ok ()
  | f :: rest =>
    match strayValues f with
    | [] => checkFilters rest
    | values => .error (.effectsOutsideOptions f.key values)

def ofData (d : CatalogData) : Except Refusal Catalog := do
  let profiles ← Index.ofList "profile" (·.id) d.profiles
  let blueprints ← Index.ofList "blueprint" (·.id) d.blueprints
  let blocks ← Index.ofList "block" (·.key) d.blocks
  let filters ← Index.ofList "filter" (·.key) d.filters
  let baseModels ← Index.ofList "base model" (·.name) d.baseModels
  let catalog : Catalog := { profiles, blueprints, blocks, filters, baseModels }
  catalog.checkBlueprints d.blueprints
  checkFilters d.filters
  return catalog

end Catalog

end PromptStudio
