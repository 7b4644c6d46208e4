import PromptStudio.Charset.EastAsian
import PromptStudio.Charset.JisSupplement
import PromptStudio.Charset.Stream

/-!
# Encodings that shift between sets of characters

Seven-bit encodings in which marks between the characters say which set the bytes behind them come from: ISO 2022,
where a mark is an escape sequence, and HZ, where it starts with a tilde.
-/

namespace PromptStudio.Charset

/-- A set of characters. -/
inductive Repertoire where
  | ascii
  | single (char? : Nat → Option Char)
  /-- Rows of a plane, whose characters have two bytes that are both counted from 0x21. -/
  | plane (rows : List (Nat × String))

/-- A character of a plane by two bytes that are both counted from 0x21. -/
def lowerChar? (rows : List (Nat × String)) (lead trail : Nat) : Option Char :=
  if lead ≤ 0x20 ∨ trail ≤ 0x20 ∨ 0x7F ≤ trail then none else planeChar? rows (lead - 0x20) (trail - 0x20)

def jisRoman? (b : Nat) : Option Char :=
  if b = 0x5C then some '¥' else if b = 0x7E then some '‾' else if b < 0x80 then some (Char.ofNat b) else none

/-- What an encoding of the ISO 2022 kind knows. -/
structure ShiftCode where
  /-- The sets of one byte, by the last character of their escape sequence. -/
  singles : List (Char × Repertoire)
  /-- The sets of two bytes, by the last character of their escape sequence. -/
  planes : List (Char × Repertoire)
  shifts : Bool

namespace ShiftCode

structure State where
  graphic : Repertoire := .ascii
  other : Repertoire := .ascii
  shifted : Bool := false
  /-- Whether the rest of an escape sequence that means nothing here is under way. -/
  passing : Bool := false

def escape : Char := '\x1b'

def endsEscape (b : Nat) : Bool :=
  0x40 ≤ b && b ≤ 0x5A

/-- How many bytes of an escape sequence stand behind its first; `none` in the option if it does not end within
`room`. Where the code does not shift, the revision of a set may be named before the set. -/
def escapeLength? (code : ShiftCode) (room : Nat) (bytes : List Nat) : Option (Option Nat) :=
  match room, bytes with
  | 0, _ => some none
  | _, [] => none
  | room + 1, b :: rest =>
    if endsEscape b then some (some 1)
    else if b = '&'.toNat ∧ rest.head? = some '@'.toNat ∧ !code.shifts then
      (escapeLength? code (room - 2) (rest.drop 2)).map (·.map (· + 3))
    else (escapeLength? code room rest).map (·.map (· + 1))
termination_by room
decreasing_by all_goals omega

/-- The state behind an escape sequence, given without its first byte. -/
def designate? (code : ShiftCode) (s : State) (sequence : List Char) : Option State :=
  match sequence with
  | ['(', c] => (code.singles.lookup c).map fun set => { s with graphic := set }
  | [')', c] => (code.singles.lookup c).map fun set => { s with other := set }
  | ['$', c] => (code.planes.lookup c).map fun set => { s with graphic := set }
  | ['$', '(', c] => (code.planes.lookup c).map fun set => { s with graphic := set }
  | ['$', ')', c] => (code.planes.lookup c).map fun set => { s with other := set }
  | [_, _, '\x1b', '$', 'B'] =>
    if code.shifts then none else (code.planes.lookup 'B').map fun set => { s with graphic := set }
  | _ => none

def escapeStep (code : ShiftCode) (s : State) (rest : List Nat) : Step State :=
  match rest with
  | [] => .short
  | b :: _ =>
    if "()$.&".toList.contains (Char.ofNat b) then
      match code.escapeLength? 15 rest with
      | none => .short
      | some none => .malformed 0
      | some (some length) =>
        match code.designate? s ((rest.take length).map Char.ofNat) with
        | some next => .read [] next length
        | none => .malformed length
    else .read [escape] { s with passing := true } 0

def setStep (s : State) (b : Nat) (rest : List Nat) : Step State :=
  match if s.shifted then s.other else s.graphic with
  | .ascii => .read [Char.ofNat b] s 0
  | .single char? => .ofChar? s 0 (char? b)
  | .plane rows =>
    match rest with
    | [] => .short
    | trail :: _ =>
      match lowerChar? rows b trail with
      | some c => .read [c] s 1
      | none => .malformed 1

def step (code : ShiftCode) (s : State) (b : Nat) (rest : List Nat) : Step State :=
  if s.passing then .read [Char.ofNat b] { s with passing := !endsEscape b } 0
  else if b = escape.toNat then code.escapeStep s rest
  else if b = 0x0E ∧ code.shifts then .read [] { s with shifted := true } 0
  else if b = 0x0F ∧ code.shifts then .read [] { s with shifted := false } 0
  else if b = 0x0A then .read ['\n'] { s with shifted := false } 0
  else if b < 0x20 then .read [Char.ofNat b] s 0
  else if 0x80 ≤ b then .malformed 0
  else setStep s b rest

def decode (code : ShiftCode) (bytes : List Nat) : Except Fault (List Char) :=
  Step.readAll code.step {} bytes

end ShiftCode

def iso2022Jp : ShiftCode where
  singles := [('B', .ascii), ('J', .single jisRoman?)]
  planes := [('@', .plane jisRows), ('B', .plane jisRows)]
  shifts := false

/-- The Japanese mail encoding with the supplementary plane. -/
def iso2022Jp1 : ShiftCode :=
  { iso2022Jp with planes := ('D', .plane jisSupplementRows) :: iso2022Jp.planes }

/-- A set that can be named, but of which no character can be read. -/
def Repertoire.mute : Repertoire :=
  .single fun _ => none

/-- The Japanese mail encoding with the planes of China and Korea. -/
def iso2022Jp2 : ShiftCode :=
  { iso2022Jp1 with
    singles := ('A', .mute) :: ('F', .mute) :: iso2022Jp1.singles
    planes := ('A', .plane gbRows) :: ('C', .plane ksRows) :: iso2022Jp1.planes }

/-- The Japanese mail encoding with half-width syllables. -/
def iso2022JpExt : ShiftCode :=
  { iso2022Jp1 with singles := ('I', .single fun b => halfWidth? (b + 0x80)) :: iso2022Jp1.singles }

def iso2022Kr : ShiftCode where
  singles := [('B', .ascii)]
  planes := [('C', .plane ksRows)]
  shifts := true

/-- A step of HZ, in which the state says whether the plane is in use. -/
def hzStep (inPlane : Bool) (b : Nat) (rest : List Nat) : Step Bool :=
  if b = '~'.toNat then
    match rest with
    | [] => .short
    | mark :: _ =>
      match inPlane, Char.ofNat mark with
      | false, '~' => .read ['~'] false 1
      | false, '\x7b' => .read [] true 1
      | false, '\n' => .read [] false 1
      | true, '\x7d' => .read [] false 1
      | _, _ => .malformed 0
  else if 0x80 ≤ b then .malformed 0
  else if inPlane then
    match rest with
    | [] => .short
    | trail :: _ => .ofChar? true 1 (lowerChar? gbRows b trail)
  else .read [Char.ofNat b] false 0

def readHz (bytes : List Nat) : Except Fault (List Char) :=
  Step.readAll hzStep false bytes

/-- A step of the Japanese encoding in which half-width syllables, and the supplementary plane, have a first byte of
their own. -/
def eucJpStep (_ : Unit) (b : Nat) (rest : List Nat) : Step Unit :=
  if b < 0x80 then .read [Char.ofNat b] () 0
  else
    match rest with
    | [] => .short
    | second :: more =>
      if b = 0x8F then
        match more with
        | [] => .short
        | third :: _ =>
          .ofChar? () 2 ((upperCell? second third).bind fun (row, cell) => planeChar? jisSupplementRows row cell)
      else .ofChar? () 1 (eucJp.pair? b second)

def readEucJp (bytes : List Nat) : Except Fault (List Char) :=
  Step.readAll eucJpStep () bytes

end PromptStudio.Charset
