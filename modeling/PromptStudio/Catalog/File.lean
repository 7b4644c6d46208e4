import PromptStudio.Catalog.Preset
import PromptStudio.Catalog.Schema
import PromptStudio.Catalog.Snapshot

/-!
# Catalog files

A catalog comes from a file or is the built-in one. A holder keeps the last catalog that could be loaded: a load that
fails leaves it alone, and a request for the catalog loads only while none is held.
-/

namespace PromptStudio

/-- What stands where a catalog file is expected. -/
inductive FileState where
  | absent
  | unreadable
  | present (bytes : Bytes)

inductive CatalogSource where
  | preset
  | file (path : String) (state : FileState)

namespace CatalogData

/-- Reads a catalog from the text of a file: strict JSON, then the catalog format. -/
def ofFileText (path : String) (t : Text) : Except Refusal CatalogData :=
  match Json.read .strict t with
  | .error _ => .error (.catalogMalformed path [⟨[], .jsonInvalid⟩])
  | .ok v =>
    match reader v with
    | .valid d => .ok d
    | .invalid issues => .error (.catalogMalformed path issues)

def load : CatalogSource → Except Failure CatalogData
  | .preset => .ok preset
  | .file path .absent | .file path .unreadable => .error (.refused (.catalogUnreadable path))
  | .file path (.present bytes) =>
    match Utf8.decode? false bytes with
    | none => .error (.fault .undecodableBytes)
    | some t => (ofFileText path t).mapError .refused

end CatalogData

namespace Catalog

def load (source : CatalogSource) : Except Failure Catalog := do
  let data ← CatalogData.load source
  (ofData data).mapError .refused

/-- A holder of the last catalog that could be loaded. -/
structure Holder where
  held : Option Catalog

/-- Loads the catalog again; the holder changes only if that succeeds. -/
def Holder.refresh (h : Holder) (source : CatalogSource) : Except Failure Catalog × Holder :=
  match load source with
  | .ok c => (.ok c, ⟨some c⟩)
  | .error e => (.error e, h)

def Holder.get (h : Holder) (source : CatalogSource) : Except Failure Catalog × Holder :=
  match h.held with
  | some c => (.ok c, h)
  | none => h.refresh source

end Catalog

end PromptStudio
