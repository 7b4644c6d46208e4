import PromptStudio.Prompt.Adapter
import PromptStudio.Prompt.Redaction
import PromptStudio.Prompt.Rendering

/-!
# Character packs

A platform that does not understand adapters gets a description of the character instead: who it is, how it looks, and
what has to stay the same from image to image. Its pieces are cleaned of forbidden patterns one by one.
-/

namespace PromptStudio

/-- A description that stands in for an adapter. -/
structure CharacterPack where
  platform : Text
  modelName : Text
  triggerWord : Text
  weight : Binary64
  identity : Text
  styleDescriptors : List Text
  cameraDescriptors : List Text
  layoutDescriptors : List Text
  filterDescriptors : List Text
  constraints : List Text
  negativeHints : List Text
  referenceImages : List Text
  consistencyPrompt : Text
  deriving DecidableEq, Repr

namespace CharacterPack

/-- Cleans pieces of text; a piece that has nothing left but blanks and commas goes. -/
def cleaned (patterns pieces : List Text) : List Text :=
  (pieces.map fun piece => RenderedBlock.trimEdges (Redaction.clean patterns piece)).filter (!·.isEmpty)

/-- The cleaned bodies of blocks with one of a few roles. -/
def bodies (patterns : List Text) (rendered : List RenderedBlock) (types : List BlockType) : List Text :=
  cleaned patterns ((rendered.filter fun r => types.contains r.block.type).map (·.body))

def standingHints : List Text :=
  ["style drift", "inconsistent facial features", "changing proportions"]

def labelled (label separator : Text) (entries : List Text) : List Text :=
  if entries.isEmpty then [] else [label ++ separator.intercalate entries]

/-- Who the character is: the subject, or the model's name without one, and the bodies of subject blocks. -/
def identityOf (patterns : List Text) (r : PromptRequest) (a : Adapter) (rendered : List RenderedBlock) : Text :=
  let subject := cleaned patterns [r.subject]
  let head := if subject.isEmpty then [a.modelName] else subject
  (", " : Text).intercalate (head ++ bodies patterns rendered [.subject])

def ofPrompt (r : PromptRequest) (a : Adapter) (rendered : List RenderedBlock) (effects : Effects) (b : Blueprint)
    (p : Profile) : CharacterPack :=
  let patterns := p.forbiddenPatterns
  let identity := identityOf patterns r a rendered
  let style := bodies patterns rendered [.style, .postfx]
  let camera := bodies patterns rendered [.camera]
  let filters := cleaned patterns (effects.map (·.2))
  let opening : Text := "Consistent character \"" ++ a.modelName ++ "\" (" ++ identity ++ ")"
  let closing : Text := "Keep the same face, proportions, palette and styling in every image"
  let consistency : List Text :=
    [opening] ++ labelled "Style: " "; " style
      ++ labelled "Camera: " "; " camera
      ++ labelled "Look: " ", " filters
      ++ [closing]
  { platform := r.targetPlatform.getD []
    modelName := a.modelName
    triggerWord := a.triggerWord
    weight := a.weight.toFloat
    identity
    styleDescriptors := style
    cameraDescriptors := camera
    layoutDescriptors := bodies patterns rendered [.layout]
    filterDescriptors := filters
    constraints := cleaned patterns b.constraints
    negativeHints := (if r.restrictions.isEmpty then [] else cleaned patterns [r.restrictions]) ++ standingHints
    referenceImages := a.imageTexts
    consistencyPrompt := Redaction.clean patterns ((". " : Text).intercalate consistency) }

def toJson (c : CharacterPack) : Json :=
  .ofFields [("platform", .string c.platform), ("model_name", .string c.modelName),
    ("trigger_word", .string c.triggerWord), ("weight", .float c.weight), ("identity", .string c.identity),
    ("style_descriptors", .ofTexts c.styleDescriptors), ("camera_descriptors", .ofTexts c.cameraDescriptors),
    ("layout_descriptors", .ofTexts c.layoutDescriptors), ("filter_descriptors", .ofTexts c.filterDescriptors),
    ("constraints", .ofTexts c.constraints), ("negative_hints", .ofTexts c.negativeHints),
    ("reference_images", .ofTexts c.referenceImages), ("consistency_prompt", .string c.consistencyPrompt)]

end CharacterPack

end PromptStudio
