import PromptStudio.Catalog.Preset
import PromptStudio.Prompt.BlockOrder
import PromptStudio.Prompt.CharacterPack
import PromptStudio.Prompt.Score
import PromptStudio.Prompt.Seed

/-!
# Compiling a prompt

A prompt is put together from the profile, the labelled input, the adapter, the rendered blocks and the constraints. The
whole is cleaned of forbidden patterns, cut to the length that the profile allows, and scored.
-/

namespace PromptStudio

structure CompiledPrompt where
  text : Text
  profileName : Text
  blueprintName : Text
  blockCount : Nat
  filterCount : Nat
  score : Int
  warnings : List PromptWarning
  seed : Text
  pack : Option CharacterPack
  deriving DecidableEq, Repr

namespace CompiledPrompt

/-- What is told about a prompt beside its text. -/
def metadataJson (c : CompiledPrompt) : Json :=
  .ofFields [("profile_name", .string c.profileName), ("blueprint_name", .string c.blueprintName),
    ("block_count", .ofNat c.blockCount), ("filter_count", .ofNat c.filterCount)]

def warningTexts (c : CompiledPrompt) : List Text :=
  c.warnings.map (·.message)

def packJson (c : CompiledPrompt) : Json :=
  match c.pack with
  | some pack => pack.toJson
  | none => .null

def toJson (c : CompiledPrompt) : Json :=
  .ofFields [("compiled_prompt", .string c.text), ("metadata", c.metadataJson), ("score", .int c.score),
    ("warnings", .ofTexts c.warningTexts), ("seed", .string c.seed), ("character_pack", c.packJson)]

end CompiledPrompt

/-- A compiler for one catalog, with blueprints of its own beside those of the catalog. -/
structure Compiler where
  catalog : Catalog
  registered : List Blueprint

namespace Compiler

def ofCatalog (c : Catalog) : Compiler := ⟨c, []⟩

/-- Adds a blueprint; it stands before one of the same id in the catalog. -/
def register (c : Compiler) (b : Blueprint) : Compiler :=
  { c with registered := b :: c.registered }

def profile (c : Compiler) (id : Text) : Except Refusal Profile :=
  match c.catalog.profiles.get? id with
  | some p => .ok p
  | none => .error (.profileUnknown id)

def blueprint (c : Compiler) (id : Text) : Except Refusal Blueprint :=
  match (c.registered.find? (·.id == id)).or (c.catalog.blueprints.get? id) with
  | some b => .ok b
  | none => .error (.blueprintUnknown id)

def labelled (label text : Text) : List Text :=
  if text.isEmpty then [] else [label ++ text]

/-- The part of a prompt before its blocks, without the adapter: base prompt, instructions and labelled input. -/
def opening (p : Profile) (r : PromptRequest) : List Text :=
  [p.basePrompt, systemInstructions] ++ labelled "Subject: " r.subject
    ++ labelled "Environment: " r.environment ++ labelled "Context: " r.context

/-- The part of a prompt behind its blocks: constraints and what to avoid. -/
def closing (b : Blueprint) (r : PromptRequest) : List Text :=
  (if b.constraints.isEmpty then [] else ["Constraints: " ++ (", " : Text).intercalate b.constraints])
    ++ labelled "Avoid: " r.restrictions

def adapterLine (a : Adapter) : Text :=
  "Style adapter: " ++ a.segment

def inlineAdapter? (r : PromptRequest) (adapter : Option Adapter) : Option Adapter :=
  if Adapter.isSupportedOn r.targetPlatform then adapter else none

def packedAdapter? (r : PromptRequest) (adapter : Option Adapter) : Option Adapter :=
  if Adapter.isSupportedOn r.targetPlatform then none else adapter

/-- Parts with an empty line between them; empty parts are left out. -/
def joinParts (parts : List Text) : Text :=
  ("\n\n" : Text).intercalate (parts.filter (!·.isEmpty))

/-- What compiling knows before the text is put together. -/
structure Draft where
  effects : Effects
  filterWarnings : List PromptWarning
  rendered : List RenderedBlock
  missing : List Text

def orderedKeys (c : Compiler) (p : Profile) (b : Blueprint) : List Text :=
  c.catalog.orderBlocks b.blocks p.preferredOrder

/-- Resolves filters and renders blocks. -/
def draft (c : Compiler) (p : Profile) (b : Blueprint) (r : PromptRequest) : Draft :=
  let effects := c.catalog.effects r.filters
  let keys := c.orderedKeys p b
  { effects
    filterWarnings := c.catalog.filterWarnings r.filters
    rendered := (keys.filterMap c.catalog.blocks.get?).map fun block => .ofBlock block r effects
    missing := keys.filter fun key => !c.catalog.blocks.has key }

/-- The text of a prompt before it is cleaned and cut. -/
def assembled (d : Draft) (p : Profile) (b : Blueprint) (r : PromptRequest) (inline : Option Adapter) : Text :=
  joinParts (opening p r ++ inline.toList.map adapterLine ++ d.rendered.map (·.text) ++ closing b r)

/-- The finished text of a prompt and the warnings that finishing it gives. -/
def finished (p : Profile) (text : Text) : Text × List PromptWarning :=
  let redacted := Redaction.run p.forbiddenPatterns text
  let length := redacted.text.length
  (redacted.text.take p.maxLength,
    redacted.found.map .forbiddenPattern ++ if p.maxLength < length then [.tooLong length p.maxLength] else [])

/-- Compiles a prompt for a profile and a blueprint under a seed. -/
def build (c : Compiler) (p : Profile) (b : Blueprint) (r : PromptRequest) (adapter : Option Adapter) (seed : Text) :
    CompiledPrompt :=
  let d := c.draft p b r
  let (text, finishing) := finished p (assembled d p b r (inlineAdapter? r adapter))
  let warnings := d.filterWarnings ++ d.missing.map .blockNotFound ++ finishing
    ++ (FilterConflict.among r.filters).map .conflict
  { text
    profileName := p.name
    blueprintName := b.name
    blockCount := d.rendered.length
    filterCount := r.filters.length
    score := Score.ofPrompt text (!r.subject.isEmpty) r.filters.length warnings.length
    warnings
    seed
    pack := (packedAdapter? r adapter).map fun a => .ofPrompt r a d.rendered d.effects b p }

def checkAdapter (r : PromptRequest) (adapter : Option Adapter) : Checked Unit :=
  match packedAdapter? r adapter with
  | some a => a.checkImages.map fun _ => ()
  | none => .valid ()

/--
Compiles a request at a time. `draw` is the next random number; the one after it is given back, also where the prompt
fails after its seed was drawn.
-/
def compile (c : Compiler) (r : PromptRequest) (adapter : Option Adapter) (now : Int) (draw : Nat) :
    Except Failure CompiledPrompt × Nat :=
  match c.profile r.profileId, c.blueprint r.blueprintId with
  | .error cause, _ | .ok _, .error cause => (.error (.refused cause), draw)
  | .ok p, .ok b =>
    let (seed, draw) := Seed.ofRequest r now draw
    ((Failure.ofChecked (checkAdapter r adapter)).map fun _ => c.build p b r adapter seed, draw)

end Compiler

end PromptStudio
