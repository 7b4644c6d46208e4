import PromptStudio.Number.Quantity
import PromptStudio.Text.Blank
import PromptStudio.Text.Lowercase
import PromptStudio.Text.Substring
import PromptStudio.Validation.Schema

/-!
# Adapters

A trained version that a prompt applies. A platform that understands adapters gets it inside the prompt, under its
trigger word and with its weight.
-/

namespace PromptStudio

/-- A trained version as a prompt applies it. -/
structure Adapter where
  versionId : Text
  modelName : Text
  triggerWord : Text
  weight : Quantity
  /-- Images of the version as they are kept; only texts are shown. -/
  previewImages : List Json

namespace Adapter

def capablePlatforms : List Text :=
  ["flux", "sdxl", "stable_diffusion", "sd1.5", "sd_1.5"]

/-- Whether a platform understands adapters; it does if none is named. -/
def isSupportedOn (platform : Option Text) : Bool :=
  match platform with
  | none => true
  | some name =>
    name.isEmpty ||
      let lowered := Lowercase.text name
      capablePlatforms.any fun part => Substring.occurs Substring.exact part lowered

/-- The trigger word of a model: its name in lower case with runs of blanks joined to a line. -/
def triggerWordFor (modelName : Option Text) : Text :=
  let stripped := Blank.strip (modelName.getD [])
  if stripped.isEmpty then "custom_style"
  else Blank.joinRuns (.char '_') false (Lowercase.text stripped)

/-- The text of a weight: two places, without zeros at the end and without a bare point. -/
def weightText (weight : Binary64) : List Char :=
  Blank.dropTail (· == '.') (Blank.dropTail (· == '0') weight.toFixed2)

def segment (a : Adapter) : Text :=
  let weight : Text := (weightText a.weight.toFloat).map .char
  "<lora:" ++ a.triggerWord ++ ":" ++ weight ++ ">, " ++ a.triggerWord

def imageTexts (a : Adapter) : List Text :=
  a.previewImages.filterMap Json.text?

def checkImages (a : Adapter) : Checked (List Text) :=
  (Schema.list Schema.text (.array a.previewImages)).under "reference_images"

end Adapter

end PromptStudio
