import PromptStudio.Failure.Fault
import PromptStudio.Http.DomainName
import PromptStudio.Text.Integer
import PromptStudio.Text.Lowercase
import PromptStudio.Text.Percent

/-!
# Hosts

The host of an address is a number address of four or of sixteen bytes, the latter between brackets, or a name.
-/

namespace PromptStudio

namespace Ipv4

def isPart (cs : List Char) : Bool :=
  !cs.isEmpty && cs.length ≤ 3 && cs.all Char.isDigit && (cs.length == 1 || cs.head? != some '0')
    && Integer.ofDigits (cs.map fun c => c.toNat - '0'.toNat) < 256

def isAddress (cs : List Char) : Bool :=
  let parts := cs.splitOn '.'
  parts.length == 4 && parts.all isPart

/-- The states from which a character leads to a state of the pattern: four runs of digits with one character between.
-/
def sources (c : Char) (state : Nat) : List Nat :=
  if state % 2 = 1 then (if c.isDigit then [state - 1, state] else [])
  else if state = 0 then []
  else [state - 1]

def advance (states : List Nat) (c : Char) : List Nat :=
  (List.range 8).filter fun state => (sources c state).any states.contains

/-- Whether a text looks like an address: whatever stands between the numbers. -/
def isStyled (cs : List Char) : Bool :=
  (cs.foldl advance [0]).contains 7

end Ipv4

namespace Ipv6

def isPart (cs : List Char) : Bool :=
  !cs.isEmpty && cs.length ≤ 4 && cs.all fun c => (Percent.digit? c).isSome

def parts? (cs : List Char) : Option (List (List Char)) :=
  let parts := cs.splitOn ':'
  let last := parts.getLastD []
  if parts.length < 3 then none
  else if last.contains '.' then
    if Ipv4.isAddress last then some (parts.dropLast ++ [['0'], ['0']]) else none
  else some parts

/-- How many parts stand on one side of a gap; a side without parts is a single empty text. -/
def sideCount? (parts : List (List Char)) : Option Nat :=
  if parts == [[]] then some 0 else if parts.all isPart then some parts.length else none

/-- Whether a text is an address: eight parts, or fewer with one gap. -/
def isPlain (cs : List Char) : Bool :=
  match parts? cs with
  | none => false
  | some parts =>
    let inner := (parts.drop 1).dropLast
    match (inner.filter List.isEmpty).length with
    | 0 => parts.length == 8 && parts.all isPart
    | 1 =>
      let gap := (inner.takeWhile (!·.isEmpty)).length + 1
      match sideCount? (parts.take gap), sideCount? (parts.drop (gap + 1)) with
      | some upper, some lower => upper + lower < 8
      | _, _ => false
    | _ => false

def isAddress (cs : List Char) : Bool :=
  match cs.splitOn '%' with
  | [address] => isPlain address
  | [address, zone] => isPlain address && !zone.isEmpty
  | _ => false

end Ipv6

namespace Host

def isKept (c : Char) : Bool :=
  Percent.isUnreserved c || "!$&'()*+,;=\"`\x7b\x7d%|\\".toList.contains c

/-- The host that a text names, in ASCII; the brackets around an address go. -/
def ofText (t : Text) : Except Fault (List Char) :=
  match t.toChars? with
  | none => .error .malformedAddress
  | some cs =>
    let inner := (cs.drop 1).dropLast
    if Ipv4.isStyled cs then
      if Ipv4.isAddress cs then .ok cs else .error .malformedAddress
    else if 2 ≤ cs.length ∧ cs.head? = some '[' ∧ cs.getLast? = some ']' then
      if !Ipv6.isAddress inner then .error .malformedAddress
      else if inner.all (·.toNat < 0x80) then .ok inner
      else .error .unencodableText
    else if cs.all (·.toNat < 0x80) then
      .ok (Percent.encode isKept (Utf8.ofChars (cs.map Lowercase.char)))
    else
      match ((Lowercase.text t).toChars?).bind DomainName.encode? with
      | some name => .ok name
      | none => .error .malformedAddress

end Host

end PromptStudio
