import PromptStudio.Store.Timestamp
import PromptStudio.Training.Webhook

/-!
# Rows

What is kept of models, their datasets, versions and jobs, of active versions, of prompts and of blueprints. A row
refers to another one by its id. Columns of texts hold texts; columns of times, of documents and of numbers may hold
what does not read as such, where it was written by hand, and `load` finds the first of them.
-/

namespace PromptStudio

inductive DatasetStatus where
  | pending
  | validated
  | invalid
  | other (name : Text)
  deriving DecidableEq, Repr

namespace DatasetStatus

def name : DatasetStatus → Text
  | pending => "pending"
  | validated => "validated"
  | invalid => "invalid"
  | other name => name

def ofName (t : Text) : DatasetStatus :=
  ([pending, validated, invalid].find? (·.name == t)).getD (other t)

end DatasetStatus

inductive JobStatus where
  | pending
  | processing
  | completed
  | failed
  | other (name : Text)
  deriving DecidableEq, Repr

namespace JobStatus

def name : JobStatus → Text
  | pending => "pending"
  | processing => "processing"
  | completed => "completed"
  | failed => "failed"
  | other name => name

def ofName (t : Text) : JobStatus :=
  ([pending, processing, completed, failed].find? (·.name == t)).getD (other t)

def isTerminal : JobStatus → Bool
  | completed | failed => true
  | _ => false

def ofReport : WebhookStatus → JobStatus
  | .processing => processing
  | .completed => completed
  | .failed => failed

end JobStatus

/-- A model of a user, under which its datasets and versions stand. -/
structure LoraModel where
  id : Text
  userId : Text
  name : Text
  description : Option Text
  consentGiven : Bool
  createdAt : Timestamp

structure Dataset where
  id : Text
  userId : Text
  modelId : Text
  imageCount : Cell
  url : Option Text
  status : DatasetStatus
  report : JsonColumn
  hash : Option Text
  createdAt : Timestamp
  updatedAt : Timestamp

/-- A version of a model: what it is trained from and, once it is trained, the artifact. -/
structure Version where
  id : Text
  modelId : Text
  datasetId : Option Text
  baseModel : Text
  params : JsonColumn
  datasetHash : Text
  artifactUrl : Option Text
  checksum : Option Text
  previewImages : JsonColumn
  createdAt : Timestamp

/-- One attempt to train a version. -/
structure Job where
  id : Text
  versionId : Text
  provider : Text
  status : JobStatus
  externalId : Option Text
  logsUrl : Option Text
  error : Option Text
  startedAt : Option Timestamp
  finishedAt : Option Timestamp
  createdAt : Timestamp
  updatedAt : Timestamp
  deriving DecidableEq, Repr

/-- The version that is active for a user. -/
structure Binding where
  userId : Text
  versionId : Text
  weight : Binary64
  createdAt : Instant
  updatedAt : Instant
  deriving DecidableEq, Repr

structure PromptRecord where
  id : Text
  userId : Option Text
  profileId : Text
  blueprintId : Option Text
  userBlueprintId : Option Text
  versionId : Option Text
  seed : Text
  input : JsonColumn
  filters : JsonColumn
  text : Text
  metadata : JsonColumn
  score : Cell
  warnings : JsonColumn
  pack : JsonColumn
  createdAt : Timestamp

structure PromptVersion where
  id : Text
  promptId : Text
  number : Cell
  text : Text
  metadata : JsonColumn
  createdAt : Timestamp

/-- A blueprint of a user; its blocks stand in its versions. -/
structure UserBlueprint where
  id : Text
  userId : Text
  name : Text
  description : Option Text
  category : Text
  tags : JsonColumn
  compatibleProfiles : JsonColumn
  /-- Counts as true or false; only the integer one is found where active blueprints are looked for. -/
  isActive : Cell
  createdAt : Timestamp
  updatedAt : Timestamp

/-- A version of a user's blueprint; the latest one is compiled. -/
structure BlueprintVersion where
  id : Text
  blueprintId : Text
  number : Cell
  blocks : JsonColumn
  constraints : JsonColumn
  createdAt : Timestamp

/-- Reads a column of times that may be empty. -/
def Timestamp.loadOptional (s : Option Timestamp) : Except Fault Unit :=
  match s with
  | some s => s.load.map fun _ => ()
  | none => .ok ()

def LoraModel.load (m : LoraModel) : Except Fault LoraModel := do
  let _ ← m.createdAt.load
  return m

def Dataset.load (d : Dataset) : Except Fault Dataset := do
  let _ ← d.report
  let _ ← d.createdAt.load
  let _ ← d.updatedAt.load
  return d

def Version.load (v : Version) : Except Fault Version := do
  let _ ← v.params
  let _ ← v.previewImages
  let _ ← v.createdAt.load
  return v

def Job.load (j : Job) : Except Fault Job := do
  Timestamp.loadOptional j.startedAt
  Timestamp.loadOptional j.finishedAt
  let _ ← j.createdAt.load
  let _ ← j.updatedAt.load
  return j

def PromptRecord.load (p : PromptRecord) : Except Fault PromptRecord := do
  let _ ← p.input
  let _ ← p.filters
  let _ ← p.metadata
  let _ ← p.warnings
  let _ ← p.pack
  let _ ← p.createdAt.load
  return p

def PromptVersion.load (v : PromptVersion) : Except Fault PromptVersion := do
  let _ ← v.metadata
  let _ ← v.createdAt.load
  return v

def UserBlueprint.load (b : UserBlueprint) : Except Fault UserBlueprint := do
  let _ ← b.tags
  let _ ← b.compatibleProfiles
  let _ ← b.createdAt.load
  let _ ← b.updatedAt.load
  return b

def BlueprintVersion.load (v : BlueprintVersion) : Except Fault BlueprintVersion := do
  let _ ← v.blocks
  let _ ← v.constraints
  let _ ← v.createdAt.load
  return v

end PromptStudio
