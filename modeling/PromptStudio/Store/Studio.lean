import PromptStudio.Catalog.Snapshot
import PromptStudio.Settings
import PromptStudio.Store.Basic

/-!
# The studio

What operations leave for the next one: the store, the numbers that were given out, and the signer once it is made.
What an operation finds around it stands in its context: the settings, the catalog and the time.
-/

namespace PromptStudio

/-- What is kept between operations. -/
structure Studio where
  store : Store
  issued : Issued
  nextDraw : Nat
  signer : Option Signer

/-- What an operation finds around it. -/
structure Context where
  settings : Settings
  catalog : Catalog
  now : Instant

/-- An answer, or why there is none, and what is kept afterwards. -/
abbrev Result (α : Type) := Except Failure α × Studio

namespace Studio

def start : Studio :=
  ⟨.empty, .none, 1, none⟩

def fail {α : Type} (k : Studio) (cause : Failure) : Result α :=
  (.error cause, k)

def withStore (k : Studio) (s : Store) : Studio :=
  { k with store := s }

/-- The signer, made when it is first needed; a random secret takes a draw. -/
def getSigner (k : Studio) (settings : Settings) : Except Fault Signer × Studio :=
  match k.signer with
  | some signer => (.ok signer, k)
  | none =>
    match settings.signer k.nextDraw with
    | .error fault => (.error fault, k)
    | .ok signer =>
      let nextDraw := if settings.workerHmacSecret.isEmpty then k.nextDraw + 1 else k.nextDraw
      (.ok signer, { k with signer := some signer, nextDraw })

end Studio

end PromptStudio
