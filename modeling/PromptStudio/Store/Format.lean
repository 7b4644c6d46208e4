import PromptStudio.Store.Row

/-!
# Rows as values

A row is written with all its columns; what is missing is null.
-/

namespace PromptStudio

namespace Json

def ofInstant (t : Instant) : Json :=
  .string t.toText

/-- The value of a time in a column. -/
def ofTimestamp (s : Timestamp) : Json :=
  .ofText? s.text

/-- The value of an optional time in a column. -/
def ofTimestamp? (s : Option Timestamp) : Json :=
  .ofText? (s.bind Timestamp.text)

end Json

def LoraModel.toJson (m : LoraModel) : Json :=
  .ofFields [("id", .string m.id), ("user_id", .string m.userId), ("name", .string m.name),
    ("description", .ofText? m.description), ("consent_given", .bool m.consentGiven),
    ("created_at", .ofTimestamp m.createdAt)]

def Dataset.toJson (d : Dataset) : Json :=
  .ofFields [("id", .string d.id), ("user_id", .string d.userId), ("lora_model_id", .string d.modelId),
    ("image_count", d.imageCount.toJson), ("dataset_url", .ofText? d.url), ("status", .string d.status.name),
    ("quality_report", d.report.value), ("dataset_hash", .ofText? d.hash), ("created_at", .ofTimestamp d.createdAt),
    ("updated_at", .ofTimestamp d.updatedAt)]

def Version.toJson (v : Version) : Json :=
  .ofFields [("id", .string v.id), ("lora_model_id", .string v.modelId), ("dataset_id", .ofText? v.datasetId),
    ("base_model", .string v.baseModel), ("params", v.params.value), ("dataset_hash", .string v.datasetHash),
    ("artifact_url", .ofText? v.artifactUrl), ("checksum", .ofText? v.checksum),
    ("preview_images", v.previewImages.value), ("created_at", .ofTimestamp v.createdAt)]

def Job.toJson (j : Job) : Json :=
  .ofFields [("id", .string j.id), ("lora_version_id", .string j.versionId), ("provider", .string j.provider),
    ("status", .string j.status.name), ("external_job_id", .ofText? j.externalId),
    ("logs_url", .ofText? j.logsUrl), ("error", .ofText? j.error), ("started_at", .ofTimestamp? j.startedAt),
    ("finished_at", .ofTimestamp? j.finishedAt), ("created_at", .ofTimestamp j.createdAt),
    ("updated_at", .ofTimestamp j.updatedAt)]

def Binding.toJson (b : Binding) : Json :=
  .ofFields [("user_id", .string b.userId), ("lora_version_id", .string b.versionId), ("weight", .float b.weight),
    ("created_at", .ofInstant b.createdAt), ("updated_at", .ofInstant b.updatedAt)]

def PromptRecord.toJson (p : PromptRecord) : Json :=
  .ofFields [("id", .string p.id), ("user_id", .ofText? p.userId), ("profile_id", .string p.profileId),
    ("blueprint_id", .ofText? p.blueprintId), ("user_blueprint_id", .ofText? p.userBlueprintId),
    ("lora_version_id", .ofText? p.versionId), ("seed", .string p.seed), ("input", p.input.value),
    ("applied_filters", p.filters.value), ("compiled_prompt", .string p.text), ("prompt_metadata", p.metadata.value),
    ("score", p.score.toJson), ("warnings", p.warnings.value), ("character_pack", p.pack.value),
    ("created_at", .ofTimestamp p.createdAt)]

def PromptVersion.toJson (v : PromptVersion) : Json :=
  .ofFields [("id", .string v.id), ("generated_prompt_id", .string v.promptId), ("version", v.number.toJson),
    ("compiled_prompt", .string v.text), ("version_metadata", v.metadata.value),
    ("created_at", .ofTimestamp v.createdAt)]

def UserBlueprint.toJson (b : UserBlueprint) : Json :=
  .ofFields [("id", .string b.id), ("user_id", .string b.userId), ("name", .string b.name),
    ("description", .ofText? b.description), ("category", .string b.category), ("tags", b.tags.value),
    ("compatible_profiles", b.compatibleProfiles.value), ("is_active", .bool b.isActive.isTruthy),
    ("created_at", .ofTimestamp b.createdAt), ("updated_at", .ofTimestamp b.updatedAt)]

def BlueprintVersion.toJson (v : BlueprintVersion) : Json :=
  .ofFields [("id", .string v.id), ("user_blueprint_id", .string v.blueprintId), ("version", v.number.toJson),
    ("blocks", v.blocks.value), ("constraints", v.constraints.value), ("created_at", .ofTimestamp v.createdAt)]

end PromptStudio
