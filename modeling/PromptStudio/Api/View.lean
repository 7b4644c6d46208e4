import PromptStudio.History.Prompt
import PromptStudio.Json.Strict
import PromptStudio.Store.Format
import PromptStudio.Training.Job
import PromptStudio.UserBlueprint.Edit

/-!
# Views

What a client sees of rows: their content without the owner and, for most, without the time of the last change.
Objects that are kept as they came are seen with keys that can be shown. The parameters of a version may nest too deep
to be seen.
-/

namespace PromptStudio

def LoraModel.viewFields (m : LoraModel) : List (String × Json) :=
  [("model_id", .string m.id), ("name", .string m.name), ("description", .ofText? m.description),
    ("consent_given", .bool m.consentGiven), ("created_at", .ofTimestamp m.createdAt)]

def LoraModel.view (m : LoraModel) : Json :=
  .ofFields m.viewFields

def Dataset.view (d : Dataset) : Json :=
  .ofFields [("dataset_id", .string d.id), ("model_id", .string d.modelId), ("image_count", d.imageCount.toJson),
    ("status", .string d.status.name), ("dataset_url", .ofText? d.url), ("dataset_hash", .ofText? d.hash),
    ("quality_report", d.report.value.withShownKeys), ("created_at", .ofTimestamp d.createdAt)]

/-- What is seen of a dataset that was just made. -/
def Dataset.uploadView (d : Dataset) (upload : Upload) : Json :=
  .ofFields [("dataset_id", .string d.id), ("upload_url", .string upload.uploadUrl),
    ("dataset_url", .string upload.publicUrl), ("status", .string d.status.name)]

/-- How deep the parameters of a version may nest to be seen. -/
def maxParamsDepth : Nat := 256

def Version.view (v : Version) : Except Fault Json :=
  if maxParamsDepth < v.sentParams.depth then .error .tooDeep
  else .ok (.ofFields
    [("version_id", .string v.id), ("model_id", .string v.modelId), ("dataset_id", .ofText? v.datasetId),
      ("base_model", .string v.baseModel), ("params", v.sentParams.withShownKeys),
      ("dataset_hash", .string v.datasetHash), ("artifact_url", .ofText? v.artifactUrl),
      ("checksum", .ofText? v.checksum),
      ("preview_images", if v.previewImages.value.isTruthy then v.previewImages.value else .array []),
      ("created_at", .ofTimestamp v.createdAt)])

/-- What is seen of a model with its datasets and versions. -/
def LoraModel.detailView (m : LoraModel) (datasets : List Dataset) (versions : List Version) : Except Fault Json := do
  let versions ← versions.mapM Version.view
  return .ofFields (m.viewFields ++ [("datasets", .array (datasets.map Dataset.view)), ("versions", .array versions)])

def BaseModel.view (b : BaseModel) : Json :=
  .ofFields [("name", .string b.name), ("display_name", .string b.displayName),
    ("lora_format", .string b.loraFormat), ("default_resolution", .int b.defaultResolution)]

/-- What is seen of a job, with its version. -/
def JobAnswer.view (a : JobAnswer) : Except Fault Json := do
  let version ← a.version.view
  return .ofFields [("job_id", .string a.job.id), ("status", .string a.job.status.name),
    ("provider", .string a.job.provider), ("external_job_id", .ofText? a.job.externalId),
    ("logs_url", .ofText? a.job.logsUrl), ("error", .ofText? a.job.error),
    ("started_at", .ofTimestamp? a.job.startedAt), ("finished_at", .ofTimestamp? a.job.finishedAt),
    ("version", version)]

/-- What the worker sees of a report that arrived. -/
def WebhookResult.view (r : WebhookResult) : Json :=
  .ofFields [("received", .bool true), ("job_id", .string r.jobId), ("applied", .bool r.applied),
    ("artifact_applied", .bool r.artifactApplied)]

def ActiveVersion.view (a : ActiveVersion) : Json :=
  .ofFields [("active", .bool true), ("version_id", .string a.version.id), ("model_id", .string a.model.id),
    ("model_name", .string a.model.name), ("trigger_word", .string (Adapter.triggerWordFor (some a.model.name))),
    ("weight", .float a.binding.weight), ("artifact_url", .ofText? a.version.artifactUrl)]

def ActiveVersion.noneView : Json :=
  .ofFields [("active", .bool false), ("version_id", .null), ("model_id", .null), ("model_name", .null),
    ("trigger_word", .null), ("weight", .null), ("artifact_url", .null)]

/-- What is seen of a blueprint, with a version of it or without. -/
def UserBlueprint.view (b : UserBlueprint) (version : Option BlueprintVersion) : Json :=
  .ofFields [("blueprint_id", .string b.id), ("name", .string b.name), ("category", .string b.category),
    ("description", .ofText? b.description), ("tags", b.tags.value),
    ("compatible_profiles", b.compatibleProfiles.value), ("is_active", .bool b.isActive.isTruthy),
    ("version", (version.map (·.number.toJson)).getD .null),
    ("blocks", (version.map (·.blocks.value)).getD .null),
    ("constraints", (version.map (·.constraints.value)).getD .null),
    ("created_at", .ofTimestamp b.createdAt), ("updated_at", .ofTimestamp b.updatedAt)]

def BlueprintAnswer.view (a : BlueprintAnswer) : Json :=
  a.blueprint.view (some a.version)

/-- What is seen of a prompt that was just compiled. -/
def CompileAnswer.view (a : CompileAnswer) : Json :=
  .ofFields [("prompt_id", .string a.record.id), ("compiled_prompt", .string a.prompt.text),
    ("metadata", a.prompt.metadataJson), ("score", .int a.prompt.score),
    ("warnings", .ofTexts a.prompt.warningTexts), ("seed", .string a.prompt.seed),
    ("lora_version_id", .ofText? a.record.versionId), ("character_pack", a.prompt.packJson)]

def PromptRecord.view (p : PromptRecord) : Json :=
  .ofFields [("prompt_id", .string p.id), ("profile_id", .string p.profileId),
    ("blueprint_id", .ofText? p.blueprintId), ("user_blueprint_id", .ofText? p.userBlueprintId),
    ("lora_version_id", .ofText? p.versionId), ("seed", .string p.seed), ("input", p.input.value.withShownKeys),
    ("applied_filters", p.filters.value.withShownKeys), ("compiled_prompt", .string p.text),
    ("metadata", p.metadata.value.withShownKeys), ("score", p.score.toJson), ("warnings", p.warningsJson),
    ("character_pack", p.pack.value.withShownKeys), ("created_at", .ofTimestamp p.createdAt)]

def PromptVersion.view (v : PromptVersion) : Json :=
  .ofFields [("version_id", .string v.id), ("prompt_id", .string v.promptId), ("version", v.number.toJson),
    ("compiled_prompt", .string v.text), ("metadata", v.metadata.value.withShownKeys),
    ("created_at", .ofTimestamp v.createdAt)]

/-- How many entries of each kind a catalog has. -/
def Catalog.countView (c : Catalog) : Json :=
  .ofFields [("profiles", .ofNat c.profiles.length), ("blueprints", .ofNat c.blueprints.length),
    ("blocks", .ofNat c.blocks.length), ("filters", .ofNat c.filters.length),
    ("base_models", .ofNat c.baseModels.length)]

end PromptStudio
