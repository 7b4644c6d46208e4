import PromptStudio.Store.Basic

/-!
# Repairs

Rows can be written and deleted by hand, one column at a time and past the rules of the operations. A column takes
what its kind allows: a column that may not be empty takes no null, and no two rows of a table take the same id or
number. Whether times and documents read as such is not looked at here; it shows when the row is loaded.
-/

namespace PromptStudio

structure Column (α : Type) where
  name : String
  write : Cell → α → Option α

namespace Column

variable {α : Type}

def text (name : String) (set : Text → α → α) : Column α :=
  ⟨name, fun c row =>
    match c.asText with
    | .text t => some (set t row)
    | _ => none⟩

def optionalText (name : String) (set : Option Text → α → α) : Column α :=
  ⟨name, fun c row =>
    match c.asText with
    | .text t => some (set (some t) row)
    | _ => some (set none row)⟩

def number (name : String) (set : Cell → α → α) : Column α :=
  ⟨name, fun c row => if c = .null then none else some (set c.asNumber row)⟩

def document (name : String) (set : JsonColumn → α → α) : Column α :=
  ⟨name, fun c row => if c = .null then none else some (set c.asNumber.document row)⟩

def optionalDocument (name : String) (set : JsonColumn → α → α) : Column α :=
  ⟨name, fun c row => some (set c.asNumber.document row)⟩

def time (name : String) (set : Timestamp → α → α) : Column α :=
  ⟨name, fun c row => if c = .null then none else some (set (.written c.asNumber) row)⟩

def optionalTime (name : String) (set : Option Timestamp → α → α) : Column α :=
  ⟨name, fun c row => some (set (if c = .null then none else some (.written c.asNumber)) row)⟩

end Column

/-- A table: its columns, the ids of its rows, and which rows cannot stand in it together. -/
structure Table (α : Type) where
  columns : List (Column α)
  idOf : α → Option Text
  clash : α → α → Bool

namespace Table

variable {α : Type}

/-- The column of a name, in letters of either case. -/
def column (t : Table α) (name : Text) : Except Fault (Column α) :=
  match t.columns.find? fun c => name.map (CodePoint.toChar? · |>.map Char.toLower) == c.name.toList.map some with
  | some c => .ok c
  | none => .error .unknownColumn

def writeCells (cells : List (Column α × Cell)) (row : α) : Option α :=
  cells.foldlM (fun row entry => entry.1.write entry.2 row) row

/-- Writes values into the row of an id, if there is one. -/
def set (t : Table α) (id : Text) (values : List (Text × Json)) (rows : List α) : Except Fault (List α) := do
  if values.isEmpty then throw .unknownColumn
  let columns ← values.mapM fun entry => t.column entry.1
  let cells ← values.mapM fun entry => Cell.ofJson entry.2
  let id ← id.bindable
  match rows.find? (t.idOf · == some id) with
  | none => return rows
  | some row =>
    match writeCells (columns.zip cells) row with
    | none => throw .constraintViolated
    | some changed =>
      if (rows.filter (t.idOf · != some id)).any (t.clash changed) then throw .constraintViolated
      else return rows.map fun row => if t.idOf row == some id then changed else row

/-- Deletes the row of an id; what refers to it is left as it is. -/
def delete (t : Table α) (id : Text) (rows : List α) : Except Fault (List α) := do
  let id ← id.bindable
  return rows.filter (t.idOf · != some id)

end Table

def LoraModel.table : Table LoraModel where
  columns := [.text "id" fun t m => { m with id := t }, .text "user_id" fun t m => { m with userId := t },
    .text "name" fun t m => { m with name := t }, .optionalText "description" fun t m => { m with description := t },
    .number "consent_given" fun c m => { m with consentGiven := c.isTruthy },
    .time "created_at" fun s m => { m with createdAt := s }]
  idOf m := some m.id
  clash a b := a.id == b.id

def Dataset.table : Table Dataset where
  columns := [.text "id" fun t d => { d with id := t }, .text "user_id" fun t d => { d with userId := t },
    .text "lora_model_id" fun t d => { d with modelId := t },
    .number "image_count" fun c d => { d with imageCount := c },
    .optionalText "dataset_url" fun t d => { d with url := t },
    .text "status" fun t d => { d with status := .ofName t },
    .optionalDocument "quality_report" fun v d => { d with report := v },
    .optionalText "dataset_hash" fun t d => { d with hash := t },
    .time "created_at" fun s d => { d with createdAt := s }, .time "updated_at" fun s d => { d with updatedAt := s }]
  idOf d := some d.id
  clash a b := a.id == b.id

def Version.table : Table Version where
  columns := [.text "id" fun t v => { v with id := t }, .text "lora_model_id" fun t v => { v with modelId := t },
    .optionalText "dataset_id" fun t v => { v with datasetId := t },
    .text "base_model" fun t v => { v with baseModel := t },
    .optionalDocument "params" fun p v => { v with params := p },
    .text "dataset_hash" fun t v => { v with datasetHash := t },
    .optionalText "artifact_url" fun t v => { v with artifactUrl := t },
    .optionalText "checksum" fun t v => { v with checksum := t },
    .optionalDocument "preview_images" fun p v => { v with previewImages := p },
    .time "created_at" fun s v => { v with createdAt := s }]
  idOf v := some v.id
  clash a b := a.id == b.id

def Job.table : Table Job where
  columns := [.text "id" fun t j => { j with id := t }, .text "lora_version_id" fun t j => { j with versionId := t },
    .text "provider" fun t j => { j with provider := t }, .text "status" fun t j => { j with status := .ofName t },
    .optionalText "external_job_id" fun t j => { j with externalId := t },
    .optionalText "logs_url" fun t j => { j with logsUrl := t }, .optionalText "error" fun t j => { j with error := t },
    .optionalTime "started_at" fun s j => { j with startedAt := s },
    .optionalTime "finished_at" fun s j => { j with finishedAt := s },
    .time "created_at" fun s j => { j with createdAt := s }, .time "updated_at" fun s j => { j with updatedAt := s }]
  idOf j := some j.id
  clash a b := a.id == b.id

/-- The table of bindings; the ids of its rows are not known outside. -/
def Binding.table : Table Binding where
  columns := ["id", "user_id", "lora_version_id", "weight", "created_at", "updated_at"].map fun name =>
    ⟨name, fun _ b => some b⟩
  idOf _ := none
  clash a b := a.userId == b.userId

def PromptRecord.table : Table PromptRecord where
  columns := [.text "id" fun t p => { p with id := t }, .optionalText "user_id" fun t p => { p with userId := t },
    .text "profile_id" fun t p => { p with profileId := t },
    .optionalText "blueprint_id" fun t p => { p with blueprintId := t },
    .optionalText "user_blueprint_id" fun t p => { p with userBlueprintId := t },
    .optionalText "lora_version_id" fun t p => { p with versionId := t }, .text "seed" fun t p => { p with seed := t },
    .document "input" fun v p => { p with input := v },
    .optionalDocument "applied_filters" fun v p => { p with filters := v },
    .text "compiled_prompt" fun t p => { p with text := t }, .document "metadata" fun v p => { p with metadata := v },
    .number "score" fun c p => { p with score := c }, .optionalDocument "warnings" fun v p => { p with warnings := v },
    .optionalDocument "character_pack" fun v p => { p with pack := v },
    .time "created_at" fun s p => { p with createdAt := s }]
  idOf p := some p.id
  clash a b := a.id == b.id

/-- The table of snapshots; a prompt has every number once. -/
def PromptVersion.table : Table PromptVersion where
  columns := [.text "id" fun t v => { v with id := t }, .text "generated_prompt_id" fun t v => { v with promptId := t },
    .number "version" fun c v => { v with number := c }, .text "compiled_prompt" fun t v => { v with text := t },
    .document "metadata" fun m v => { v with metadata := m }, .time "created_at" fun s v => { v with createdAt := s }]
  idOf v := some v.id
  clash a b := a.id == b.id || (a.promptId == b.promptId && a.number == b.number)

def UserBlueprint.table : Table UserBlueprint where
  columns := [.text "id" fun t b => { b with id := t }, .text "user_id" fun t b => { b with userId := t },
    .text "name" fun t b => { b with name := t }, .optionalText "description" fun t b => { b with description := t },
    .text "category" fun t b => { b with category := t }, .optionalDocument "tags" fun v b => { b with tags := v },
    .optionalDocument "compatible_profiles" fun v b => { b with compatibleProfiles := v },
    .number "is_active" fun c b => { b with isActive := c }, .time "created_at" fun s b => { b with createdAt := s },
    .time "updated_at" fun s b => { b with updatedAt := s }]
  idOf b := some b.id
  clash a b := a.id == b.id

/-- The table of versions of user blueprints; a blueprint has every number once. -/
def BlueprintVersion.table : Table BlueprintVersion where
  columns := [.text "id" fun t v => { v with id := t },
    .text "user_blueprint_id" fun t v => { v with blueprintId := t },
    .number "version" fun c v => { v with number := c }, .document "blocks" fun b v => { v with blocks := b },
    .document "constraints" fun c v => { v with constraints := c },
    .time "created_at" fun s v => { v with createdAt := s }]
  idOf v := some v.id
  clash a b := a.id == b.id || (a.blueprintId == b.blueprintId && a.number == b.number)

/-- What is done to one table, whatever its rows are. -/
abbrev TableEdit := (α : Type) → Table α → List α → Except Fault (List α)

/-- Edits the table of a name, in letters of either case. -/
def Store.editTable (s : Store) (table : String) (edit : TableEdit) : Except Fault Store :=
  match table.toLower with
  | "lora_models" => return { s with models := ← edit _ LoraModel.table s.models }
  | "lora_datasets" => return { s with datasets := ← edit _ Dataset.table s.datasets }
  | "lora_versions" => return { s with versions := ← edit _ Version.table s.versions }
  | "lora_jobs" => return { s with jobs := ← edit _ Job.table s.jobs }
  | "user_active_loras" => return { s with bindings := ← edit _ Binding.table s.bindings }
  | "generated_prompts" => return { s with prompts := ← edit _ PromptRecord.table s.prompts }
  | "prompt_versions" => return { s with promptVersions := ← edit _ PromptVersion.table s.promptVersions }
  | "user_blueprints" => return { s with blueprints := ← edit _ UserBlueprint.table s.blueprints }
  | "user_blueprint_versions" =>
    return { s with blueprintVersions := ← edit _ BlueprintVersion.table s.blueprintVersions }
  | _ => .error .unknownColumn

/-- Writes columns of the row of an id. -/
def Store.setRow (s : Store) (table : String) (id : Text) (values : List (Text × Json)) : Except Fault Store :=
  s.editTable table fun _ t rows => t.set id values rows

/-- Deletes the row of an id; what refers to it is left as it is. -/
def Store.deleteRow (s : Store) (table : String) (id : Text) : Except Fault Store :=
  s.editTable table fun _ t rows => t.delete id rows

end PromptStudio
