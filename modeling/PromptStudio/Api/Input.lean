import PromptStudio.History.Prompt
import PromptStudio.UserBlueprint.Edit

/-!
# Inputs

What arrives in the body of a request, per endpoint, and the bounds that are checked before anything else is done.
-/

namespace PromptStudio

open Schema

/-- A model to be made. -/
structure ModelInput where
  name : Text
  description : Option Text
  consent : Bool

structure DatasetInput where
  modelId : Text
  imageCount : Int

structure JobInput where
  modelId : Text
  datasetId : Text
  baseModel : Text
  params : List (Text × Json)

/-- A version to be made the active one; without a weight it gets the usual one. -/
structure ActivationInput where
  versionId : Text
  weight : Option Binary64

/-- A prompt to be compiled, with a blueprint of the catalog or of the user. -/
structure PromptInput where
  profileId : Text
  blueprintId : Option Text
  userBlueprintId : Option Text
  filters : List (Text × Text)
  seed : Option Text
  subject : Text
  context : Text
  items : Text
  environment : Text
  restrictions : Text
  targetPlatform : Option Text
  versionId : Option Text
  weight : Option Binary64
  useActive : Bool

def maxNameLength : Nat := 255

def maxCategoryLength : Nat := 100

def maxImageCount : Int := 1000

def maxWeight : Binary64 := .ofInt 2

def ModelInput.reader : Schema ModelInput :=
  record .modelAttributesType fun m =>
    ModelInput.mk <$> field "name" (textOf 1 (some maxNameLength)) m
      <*> fieldD "description" none (nullable text) m
      <*> fieldD "consent" false boolean m

def DatasetInput.reader : Schema DatasetInput :=
  record .modelAttributesType fun m =>
    DatasetInput.mk <$> field "model_id" identifier m
      <*> field "image_count" (integerOf 1 (some maxImageCount)) m

def JobInput.reader : Schema JobInput :=
  record .modelAttributesType fun m =>
    JobInput.mk <$> field "model_id" identifier m
      <*> field "dataset_id" identifier m
      <*> field "base_model" identifier m
      <*> fieldD "params" [] openObject m

def ActivationInput.reader : Schema ActivationInput :=
  record .modelAttributesType fun m =>
    ActivationInput.mk <$> field "version_id" identifier m
      <*> fieldD "weight" none (nullable (floatUpTo maxWeight)) m

namespace PromptInput

def reader : Schema PromptInput :=
  record .modelAttributesType fun m =>
    PromptInput.mk <$> field "profile_id" identifier m
      <*> fieldD "blueprint_id" none (nullable text) m
      <*> fieldD "user_blueprint_id" none (nullable text) m
      <*> fieldD "filters" [] (dictionary text) m
      <*> fieldD "seed" none (nullable text) m
      <*> fieldD "subject" [] text m
      <*> fieldD "context" [] text m
      <*> fieldD "items" [] text m
      <*> fieldD "environment" [] text m
      <*> fieldD "restrictions" [] text m
      <*> fieldD "target_platform" none (nullable text) m
      <*> fieldD "lora_version_id" none (nullable text) m
      <*> fieldD "lora_weight" none (nullable (floatUpTo maxWeight)) m
      <*> fieldD "use_active_lora" false boolean m

/-- The blueprint that is asked for: the user's, or else that of the catalog. -/
def blueprint? (i : PromptInput) : Option Text :=
  i.userBlueprintId.filter (!·.isEmpty) <|> i.blueprintId.filter (!·.isEmpty)

/-- The request for a prompt with a blueprint, whose id is checked here. -/
def request (i : PromptInput) (blueprintId : Text) : Checked PromptRequest :=
  (Schema.identifier (.string blueprintId)).map fun blueprintId =>
    { profileId := i.profileId, blueprintId, filters := i.filters, seed := i.seed, subject := i.subject,
      context := i.context, items := i.items, environment := i.environment, restrictions := i.restrictions,
      targetPlatform := i.targetPlatform }

/-- The blueprint of the user and the adapter that are asked for. -/
def choice (i : PromptInput) : CompileChoice :=
  { userBlueprintId := i.userBlueprintId, versionId := i.versionId,
    weight := i.weight.map .real, useActive := i.useActive }

end PromptInput

def BlueprintDraft.reader : Schema BlueprintDraft :=
  let draft name category description tags compatibleProfiles blocks constraints : BlueprintDraft :=
    { name, category, blocks, constraints, description, tags, compatibleProfiles }
  record .modelAttributesType fun m =>
    draft <$> field "name" (textOf 1 (some maxNameLength)) m
      <*> field "category" (textOf 1 (some maxCategoryLength)) m
      <*> fieldD "description" none (nullable text) m
      <*> fieldD "tags" none (nullable (list text)) m
      <*> fieldD "compatible_profiles" none (nullable (list text)) m
      <*> field "blocks" (nonemptyList text) m
      <*> fieldD "constraints" [] (list text) m

def BlueprintChanges.reader : Schema BlueprintChanges :=
  let changes name category description tags compatibleProfiles isActive blocks constraints : BlueprintChanges :=
    { name, description, category, tags, compatibleProfiles, isActive, blocks, constraints }
  record .modelAttributesType fun m =>
    changes <$> fieldD "name" none (nullable (textOf 1 (some maxNameLength))) m
      <*> fieldD "category" none (nullable (textOf 1 (some maxCategoryLength))) m
      <*> fieldD "description" none (nullable text) m
      <*> fieldD "tags" none (nullable (list text)) m
      <*> fieldD "compatible_profiles" none (nullable (list text)) m
      <*> fieldD "is_active" none (nullable boolean) m
      <*> fieldD "blocks" none (nullable (list text)) m
      <*> fieldD "constraints" none (nullable (list text)) m

end PromptStudio
