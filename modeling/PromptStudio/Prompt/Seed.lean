import PromptStudio.Digest.Hex
import PromptStudio.Digest.Sha256
import PromptStudio.Json.Document
import PromptStudio.Prompt.Request

/-!
# Seeds

A seed that is given is used as it is. Otherwise it is the beginning of a hash of the request, the time and a random
number, so two requests differ even where all they ask for is the same.
-/

namespace PromptStudio.Seed

/-- What a drawn seed is the hash of: sorted keys, blanks after separators, ASCII only. -/
def source (r : PromptRequest) (now : Int) (draw : Nat) : Json :=
  .ofFields [("blueprint", .string r.blueprintId),
    ("filters", .ofEntries (r.filters.mergeSort fun a b => Text.le a.1 b.1)),
    ("profile", .string r.profileId),
    ("random", .string (Hex.padded 16 draw)),
    ("subject", .string r.subject),
    ("timestamp", .int now)]

def drawn (r : PromptRequest) (now : Int) (draw : Nat) : Text :=
  let written := (Json.render .ascii (source r now draw)).filterMap CodePoint.toChar?
  Hex.encode ((Sha256.hash (Utf8.ofChars written)).take 4)

def given? (r : PromptRequest) : Option Text :=
  r.seed.filter (!·.isEmpty)

/-- The seed of a request, and the next number to draw. -/
def ofRequest (r : PromptRequest) (now : Int) (draw : Nat) : Text × Nat :=
  match given? r with
  | some seed => (seed, draw)
  | none => (drawn r now draw, draw + 1)

end PromptStudio.Seed
