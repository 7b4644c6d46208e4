import PromptStudio.Store.Cell
import PromptStudio.Time.Reader

/-!
# Times in columns

A column of times holds the text of an instant, down to the microsecond, unless something else was written there by
hand. It is read when the row is loaded, and compared as it stands.
-/

namespace PromptStudio

/-- What stands in a column of times. -/
inductive Timestamp where
  | instant (t : Instant)
  | written (c : Cell)
  deriving DecidableEq, Repr

namespace Timestamp

/-- Every instant stands for itself. -/
instance : Coe Instant Timestamp := ⟨instant⟩

def storedText (t : Instant) : Text :=
  (t.toSecondText ' ' ++ '.' :: Instant.padded 6 t.micros).map .char

def cell : Timestamp → Cell
  | instant t => .text (storedText t)
  | written c => c

/-- Reads a column of times; only texts are times. -/
def load : Timestamp → Except Fault ClockReading
  | instant t => .ok ⟨t, none⟩
  | written (.text t) =>
    match t.toChars?.bind ClockReading.ofChars? with
    | some r => .ok r
    | none => .error .invalidValue
  | written _ => .error .wrongKind

/-- The text of a time that could be read. -/
def text (s : Timestamp) : Option Text :=
  s.load.toOption.map ClockReading.toText

def le (a b : Timestamp) : Bool :=
  match a, b with
  | instant t, instant u => t ≤ u
  | a, b => a.cell.le b.cell

end Timestamp

end PromptStudio
