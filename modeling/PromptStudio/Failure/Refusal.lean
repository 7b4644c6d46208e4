import PromptStudio.Failure.Code
import PromptStudio.Failure.Fault
import PromptStudio.Json.Display
import PromptStudio.Signing.Signer
import PromptStudio.Validation.Checked

/-!
# Refusals

Why an operation was refused, one constructor for each cause. Code, message and details are read off the cause, so a
wording stands in one place only.
-/

namespace PromptStudio

inductive Refusal where
  -- prompts
  | profileUnknown (id : Text)
  | blueprintUnknown (id : Text)
  | blueprintMissing
  | promptUnknown (id : Text)
  | promptForeign (id : Text)
  -- catalogs
  | duplicateKey (kind : String) (key : Text)
  | danglingBlocks (blueprint : Text) (missing : List Text)
  | effectsOutsideOptions (filter : Text) (values : List Text)
  | catalogUnreadable (path : String)
  | catalogMalformed (path : String) (issues : List Issue)
  -- blueprints of a user
  | noBlocks
  | unknownBlocks (missing : List Text)
  | userBlueprintUnknown (id : Text)
  | userBlueprintForeign (id : Text)
  | noBlueprintVersions (id : Text)
  -- models and datasets
  | emptyModelName
  | modelUnknown (id : Text)
  | modelForeign (id : Text)
  | tooFewImages (count : Int)
  | datasetUnknown (id : Text)
  | datasetForeign (id : Text)
  | datasetSettled (id status : Text)
  | datasetOfOtherModel (id model : Text)
  | datasetInvalid (id : Text) (report : Json)
  | datasetUnvalidated (id : Text)
  | datasetUnhashed (id : Text)
  | baseModelUnknown (name : Text) (available : List Text)
  -- jobs and versions
  | jobUnknown (id : Text)
  | jobNotPending (id status : Text)
  | jobWithoutDataset (id : Text)
  | versionUnknown (id : Text)
  | versionUntrained (id : Text)
  | versionForeign (id : Text)
  -- webhooks
  | headersMissing
  | timestampUnreadable
  | webhookMalformed
  | signatureRejected (defect : SignatureDefect)
  -- the worker
  | workerTimeout (seconds : Json)
  | workerUnreachable (reason : Text)
  | workerRefused (status : Nat) (reply : Text)

namespace Refusal

def code : Refusal → ErrorCode
  | profileUnknown _ | blueprintUnknown _ | promptUnknown _ | userBlueprintUnknown _ | noBlueprintVersions _
  | modelUnknown _ | datasetUnknown _ | datasetOfOtherModel .. | jobUnknown _ | versionUnknown _ => .recordNotFound
  | promptForeign _ | userBlueprintForeign _ | modelForeign _ | datasetForeign _ | versionForeign _ => .forbidden
  | duplicateKey .. | danglingBlocks .. | effectsOutsideOptions .. | catalogUnreadable _
  | catalogMalformed .. => .catalogInvalid
  | blueprintMissing | noBlocks | unknownBlocks _ | emptyModelName | tooFewImages _
  | baseModelUnknown .. => .validation
  | datasetSettled .. | datasetUnvalidated _ | datasetUnhashed _ | jobNotPending .. | jobWithoutDataset _
  | versionUntrained _ => .preconditionFailed
  | datasetInvalid .. => .datasetValidationFailed
  | headersMissing | timestampUnreadable | webhookMalformed | signatureRejected _ => .signatureInvalid
  | workerTimeout _ | workerUnreachable _ => .workerUnavailable
  | workerRefused .. => .workerRejected

/-- A list of names, with commas between them. -/
def listed (names : List Text) : Text :=
  (", " : Text).intercalate names

/-- How much of a reply is repeated in a message. -/
def replyExcerpt : Nat := 500

def message : Refusal → Text
  | profileUnknown id => "Profile not found: " ++ id
  | blueprintUnknown id => "Blueprint not found: " ++ id
  | blueprintMissing => "blueprint_id または user_blueprint_id が必要です"
  | promptUnknown _ => "Prompt not found"
  | promptForeign _ => "Prompt belongs to another user"
  | duplicateKey kind key => "Duplicate " ++ kind ++ ": " ++ key
  | danglingBlocks blueprint missing =>
    "Blueprint " ++ blueprint ++ " references unknown blocks: " ++ listed missing
  | effectsOutsideOptions filter values =>
    "Filter " ++ filter ++ " has effects outside its options: " ++ listed values
  | catalogUnreadable path => "Failed to read catalog file: " ++ path
  | catalogMalformed path _ => "Invalid catalog file: " ++ path
  | noBlocks => "ブロックを 1 つ以上指定してください"
  | unknownBlocks missing => "Unknown blocks: " ++ listed missing
  | userBlueprintUnknown _ => "Blueprint not found"
  | userBlueprintForeign _ => "Blueprint belongs to another user"
  | noBlueprintVersions _ => "Blueprint has no versions"
  | emptyModelName => "モデル名が空です"
  | modelUnknown _ => "LoRA model not found"
  | modelForeign _ => "LoRA model belongs to another user"
  | tooFewImages _ => "画像枚数は 1 以上を指定してください"
  | datasetUnknown _ => "Dataset not found"
  | datasetForeign _ => "Dataset belongs to another user"
  | datasetSettled _ status => "Dataset already " ++ status
  | datasetOfOtherModel .. => "Dataset not found for this model"
  | datasetInvalid .. => "Dataset failed validation; upload a new dataset"
  | datasetUnvalidated _ => "Dataset must be validated before training"
  | datasetUnhashed _ => "Dataset has no hash"
  | baseModelUnknown name _ => "Unknown base model: " ++ name
  | jobUnknown _ => "Job not found"
  | jobNotPending _ status => "Only pending jobs can be retried (current: " ++ status ++ ")"
  | jobWithoutDataset _ => "Job has no dataset reference"
  | versionUnknown _ => "LoRA version not found"
  | versionUntrained _ => "LoRA version has no trained artifact"
  | versionForeign _ => "LoRA version belongs to another user"
  | headersMissing => "Missing authentication headers"
  | timestampUnreadable => "Invalid timestamp header"
  | webhookMalformed => "Malformed webhook body"
  | signatureRejected defect => defect.message
  | workerTimeout seconds => "Worker timeout after " ++ seconds.display ++ " seconds"
  | workerUnreachable reason => "Worker request error: " ++ reason
  | workerRefused status reply =>
    "Worker rejected job: " ++ Nat.repr status ++ " - " ++ reply.take replyExcerpt

def issueJson (i : Issue) : Json :=
  .array [.string (".".intercalate i.path), .string i.kind.name]

def details : Refusal → List (String × Json)
  | profileUnknown id => [("profile_id", .string id)]
  | blueprintUnknown id => [("blueprint_id", .string id)]
  | promptUnknown id | promptForeign id => [("prompt_id", .string id)]
  | duplicateKey kind key => [("kind", .string kind), ("key", .string key)]
  | danglingBlocks blueprint missing => [("blueprint", .string blueprint), ("missing", .ofTexts missing)]
  | effectsOutsideOptions filter values => [("filter", .string filter), ("values", .ofTexts values)]
  | catalogMalformed _ issues => [("errors", .array (issues.map issueJson))]
  | unknownBlocks missing => [("missing_blocks", .ofTexts missing)]
  | userBlueprintUnknown id | userBlueprintForeign id | noBlueprintVersions id =>
    [("blueprint_id", .string id)]
  | modelUnknown id | modelForeign id => [("model_id", .string id)]
  | tooFewImages count => [("image_count", .int count)]
  | datasetUnknown id | datasetForeign id | datasetUnvalidated id | datasetUnhashed id =>
    [("dataset_id", .string id)]
  | datasetSettled id status => [("dataset_id", .string id), ("status", .string status)]
  | datasetOfOtherModel id model => [("dataset_id", .string id), ("model_id", .string model)]
  | datasetInvalid id report => [("dataset_id", .string id), ("quality_report", report)]
  | baseModelUnknown name available => [("base_model", .string name), ("available", .ofTexts available)]
  | jobUnknown id | jobWithoutDataset id => [("job_id", .string id)]
  | jobNotPending id status => [("job_id", .string id), ("status", .string status)]
  | versionUnknown id | versionUntrained id | versionForeign id => [("version_id", .string id)]
  | workerTimeout seconds => [("timeout", seconds)]
  | workerRefused status reply => [("status_code", .ofNat status), ("body", .string reply)]
  | blueprintMissing | catalogUnreadable _ | noBlocks | emptyModelName | headersMissing | timestampUnreadable
  | webhookMalformed | signatureRejected _ | workerUnreachable _ => []

end Refusal

/-- Why an operation failed. -/
inductive Failure where
  | refused (cause : Refusal)
  | invalid (issues : List Issue)
  | fault (cause : Fault)

namespace Failure

def ofChecked {α : Type} : Checked α → Except Failure α
  | .valid a => .ok a
  | .invalid issues => .error (.invalid issues)

instance : MonadLift (Except Refusal) (Except Failure) := ⟨fun r => r.mapError .refused⟩

instance : MonadLift (Except Fault) (Except Failure) := ⟨fun r => r.mapError .fault⟩

end Failure

end PromptStudio
