import PromptStudio.Prompt.Filter
import PromptStudio.Text.Blank
import PromptStudio.Text.Substring

/-!
# Rendering a block

A template holds tokens: names between braces. First the tokens of filters take their effects, then every other token
goes but those of the input fields, then the input fields are filled in, and last blanks and commas go from both ends.
An effect without a token trails the block.
-/

namespace PromptStudio

def Token.isNamePoint : CodePoint → Bool
  | .char c => c.isAlphanum || c == '_'
  | .surrogate _ => false

def Token.ofName (name : Text) : Text :=
  .char '\x7b' :: (name ++ [.char '\x7d'])

/-- The name of the token that starts behind an opening brace. -/
def Token.name? (t : Text) : Option Text :=
  let name := t.takeWhile isNamePoint
  if name.isEmpty then none
  else if (t.dropWhile isNamePoint).head? = some (.char '\x7d') then some name
  else none

/-- An input field that a template can name. -/
inductive InputField where
  | subject
  | items
  | environment
  deriving DecidableEq, Repr

namespace InputField

def all : List InputField :=
  [subject, items, environment]

def name : InputField → Text
  | subject => "subject"
  | items => "items"
  | environment => "environment"

def value (r : PromptRequest) : InputField → Text
  | subject => r.subject
  | items => r.items
  | environment => r.environment

def isName (t : Text) : Bool :=
  all.any (·.name == t)

end InputField

structure RenderedBlock where
  block : Block
  body : Text
  trailing : List Text

namespace RenderedBlock

def fill (token value text : Text) : Text :=
  Substring.replace Substring.exact token value text

/-- A text and the filters whose token it had so far. -/
structure Filling where
  text : Text
  used : List Text

/-- Replaces the token of one effect, if the text has it. -/
def fillEffect (f : Filling) (effect : Text × Text) : Filling :=
  let token := Token.ofName effect.1
  if Substring.occurs Substring.exact token f.text then
    ⟨fill token effect.2 f.text, effect.1 :: f.used⟩
  else f

/-- Takes out the tokens that name no input field, behind `skip` characters of a token that goes. -/
def stripFrom : Nat → Text → Text
  | _, [] => []
  | skip + 1, _ :: t => stripFrom skip t
  | 0, p :: t =>
    if p = .char '\x7b' then
      match Token.name? t with
      | some name => if InputField.isName name then p :: stripFrom 0 t else stripFrom (name.length + 1) t
      | none => p :: stripFrom 0 t
    else p :: stripFrom 0 t

/-- Takes out the tokens that name no input field. -/
def strip (t : Text) : Text :=
  stripFrom 0 t

/-- A code point that goes from both ends. -/
def isEdge (p : CodePoint) : Bool :=
  Blank.isBlank p || p == .char ','

/-- The text without blanks and commas at both ends. -/
def trimEdges (t : Text) : Text :=
  Blank.trimBoth isEdge t

def fillInputs (r : PromptRequest) (t : Text) : Text :=
  InputField.all.foldl (fun text f => fill (Token.ofName f.name) (f.value r) text) t

def ofBlock (b : Block) (r : PromptRequest) (effects : Effects) : RenderedBlock :=
  let filled := effects.foldl fillEffect ⟨b.template, []⟩
  { block := b
    body := trimEdges (fillInputs r (strip filled.text))
    trailing := (effects.filter fun e => !filled.used.contains e.1).map (·.2) }

/-- The text of a block: its body, and the trailing effects behind it. -/
def text (r : RenderedBlock) : Text :=
  let effects := (", " : Text).intercalate r.trailing
  if r.trailing.isEmpty then r.body
  else if r.body.isEmpty then effects
  else r.body ++ ", " ++ effects

end RenderedBlock

end PromptStudio
