import PromptStudio.Json.Printer

/-!
# Quantities

A number that may be whole or not. Whole numbers stay exact; a difference with one that is not whole is rounded like any
other.
-/

namespace PromptStudio

namespace Binary64

/-- The number nearest to a count of the smallest unit. -/
def ofUnits (n : Int) : Binary64 :=
  ofRatio (n < 0) n.natAbs unitsPerOne

/-- A finite number as a count of the smallest unit. -/
def signedUnits (negative : Bool) (rank : Nat) : Int :=
  if negative then -(units rank : Int) else units rank

def sub : Binary64 → Binary64 → Binary64
  | nan, _ | _, nan => nan
  | infinite a, infinite b => if a = b then nan else infinite a
  | infinite a, finite _ _ => infinite a
  | finite _ _, infinite b => infinite !b
  | finite a m, finite b n => ofUnits (signedUnits a m - signedUnits b n)

end Binary64

/-- A whole number, or a float. -/
inductive Quantity where
  | whole (n : Int)
  | real (x : Binary64)
  deriving DecidableEq, Repr

namespace Quantity

/-- The float of a quantity, infinite where a whole number has none near it. -/
def toFloat : Quantity → Binary64
  | whole n => .ofInt n
  | real x => x

def toJson : Quantity → Json
  | whole n => .int n
  | real x => .float x

def ofJson? : Json → Option Quantity
  | .int n => some (.whole n)
  | .float x => some (.real x)
  | _ => none

def text (q : Quantity) : Text :=
  match q with
  | whole n => Json.intShown n
  | real x => x.toChars.map .char

/-- Whether a quantity is below another; never true of not-a-number. -/
def lt (a b : Quantity) : Bool :=
  match a, b with
  | whole m, whole n => m < n
  | real .nan, _ | _, real .nan => false
  | real (.infinite m), real (.infinite n) => m && !n
  | real (.infinite m), _ => m
  | _, real (.infinite n) => !n
  | real (.finite m rank), whole n => Binary64.signedUnits m rank < n * Binary64.unitsPerOne
  | whole m, real (.finite n rank) => m * Binary64.unitsPerOne < Binary64.signedUnits n rank
  | real (.finite m p), real (.finite n q) => Binary64.signedUnits m p < Binary64.signedUnits n q

def sub (a b : Quantity) : Quantity :=
  match a, b with
  | whole m, whole n => .whole (m - n)
  | _, _ => .real (a.toFloat.sub b.toFloat)

end Quantity

end PromptStudio
