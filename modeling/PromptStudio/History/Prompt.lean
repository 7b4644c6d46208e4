import PromptStudio.Prompt.Compiler
import PromptStudio.Training.Activation
import PromptStudio.UserBlueprint.Edit

/-!
# The history of prompts

A compiled prompt is kept as it was compiled and never changed. A user can page through the own history, newest first,
and save numbered snapshots of a prompt.
-/

namespace PromptStudio

/-- Which blueprint of the user, and which adapter, a prompt is compiled with. -/
structure CompileChoice where
  userBlueprintId : Option Text
  versionId : Option Text
  weight : Option Quantity
  useActive : Bool

structure CompileAnswer where
  record : PromptRecord
  prompt : CompiledPrompt

namespace Store

/-- The adapter that a choice names: a version, or the active one; a weight that is given counts. -/
def chosenAdapter (s : Store) (settings : Settings) (userId : Text) (choice : CompileChoice) :
    Except Failure (Option Adapter) := do
  match choice.versionId.filter (!·.isEmpty) with
  | some versionId =>
    return some (← s.resolveAdapter userId versionId (choice.weight.getD (.real settings.defaultLoraWeight)))
  | none =>
    if choice.useActive then
      return (← s.resolveActive userId).map fun a => { a with weight := choice.weight.getD a.weight }
    else return none

def chosenBlueprint (s : Store) (catalog : Catalog) (userId : Text) (choice : CompileChoice) (r : PromptRequest) :
    Except Failure (Compiler × PromptRequest) := do
  let compiler := Compiler.ofCatalog catalog
  match choice.userBlueprintId.filter (!·.isEmpty) with
  | none => return (compiler, r)
  | some id =>
    let b ← s.blueprintDefinition id userId
    return (compiler.register b, { r with blueprintId := b.id })

/-- A prompt of the history; with a user, it has to be that user's. -/
def prompt (s : Store) (id : Text) (userId : Option Text) : Except Failure PromptRecord := do
  match ← s.loadPrompt? id with
  | none => throw (.refused (.promptUnknown id))
  | some record => if userId.any (some · != record.userId) then throw (.refused (.promptForeign id)) else return record

def promptsOf (s : Store) (userId : Text) : List PromptRecord :=
  newestFirst (·.createdAt) (s.prompts.filter (·.userId == some userId))

/-- How many prompts a page has: what is asked for, between one and the size of a page. -/
def pageLength (pageSize : Int) (limit : Option Int) : Int :=
  match limit with
  | none => pageSize
  | some n => max 1 (min n pageSize)

/-- A page of the history of a user; a negative length is no bound. -/
def history (s : Store) (pageSize : Int) (userId : Text) (limit : Option Int) : Except Fault (List PromptRecord) := do
  let userId ← userId.bindable
  let length := pageLength pageSize limit
  if !fitsColumn length then throw .integerOverflow
  else
    let prompts := s.promptsOf userId
    (if length < 0 then prompts else prompts.take length.toNat).mapM PromptRecord.load

def snapshotsOf (s : Store) (promptId : Text) : List PromptVersion :=
  s.promptVersions.filter (·.promptId == promptId)

def snapshots (s : Store) (promptId userId : Text) : Except Failure (List PromptVersion) := do
  let _ ← s.prompt promptId (some userId)
  ((s.snapshotsOf promptId).mergeSort fun a b => a.number.le b.number).mapM fun v => (v.load : Except Fault _)

def nextSnapshotNumber (s : Store) (promptId : Text) : Int :=
  (s.snapshotsOf promptId).length + 1

def insertSnapshot (s : Store) (v : PromptVersion) : Except Fault Store :=
  if s.promptVersions.any fun other => other.promptId == v.promptId && other.number == v.number then
    .error .constraintViolated
  else .ok { s with promptVersions := s.promptVersions ++ [v] }

def insertPrompt (s : Store) (p : PromptRecord) : Except Fault Store := do
  Text.bindAll (p.userId.toList ++ [p.profileId] ++ p.blueprintId.toList ++ p.userBlueprintId.toList
    ++ p.versionId.toList ++ [p.seed, p.text])
  return { s with prompts := s.prompts ++ [p] }

end Store

namespace PromptRecord

/-- The warnings of a prompt; one that holds none has an empty list of them. -/
def warningsJson (r : PromptRecord) : Json :=
  if r.warnings.value.isTruthy then r.warnings.value else .array []

/-- What is told in a snapshot beside the text: the metadata of the prompt with score, seed and warnings set. -/
def snapshotMetadata (r : PromptRecord) : Except Fault Json :=
  match r.metadata.value with
  | .object members =>
    let set (ms : List (Text × Json)) (key : String) (v : Json) : List (Text × Json) := Json.insert ms key v
    .ok (.object (set (set (set members "score" r.score.toJson) "seed" (.string r.seed)) "warnings" r.warningsJson))
  | _ => .error .wrongKind

end PromptRecord

namespace Studio

/-- The compiler, the request and the adapter of a prompt to come. -/
def prepareCompile (k : Studio) (c : Context) (userId : Text) (r : PromptRequest) (choice : CompileChoice) :
    Except Failure (Compiler × PromptRequest × Option Adapter) := do
  let (compiler, r) ← k.store.chosenBlueprint c.catalog userId choice r
  return (compiler, r, ← k.store.chosenAdapter c.settings userId choice)

def promptRecord (number : Nat) (c : Context) (userId : Text) (r : PromptRequest) (choice : CompileChoice)
    (adapter : Option Adapter) (prompt : CompiledPrompt) : PromptRecord :=
  let ownBlueprint := choice.userBlueprintId.any (!·.isEmpty)
  { id := rowId "prompt" number, userId := some userId, profileId := r.profileId
    blueprintId := if ownBlueprint then none else some r.blueprintId
    userBlueprintId := choice.userBlueprintId
    versionId := adapter.map (·.versionId), seed := prompt.seed, input := .ofJson r.inputJson
    filters := .ofJson (if r.filters.isEmpty then .null else .ofEntries r.filters)
    text := prompt.text, metadata := .ofJson prompt.metadataJson, score := .int prompt.score
    warnings := .ofJson (.ofTexts prompt.warningTexts), pack := .ofJson prompt.packJson, createdAt := .instant c.now }

/-- Compiles a prompt and keeps it. A number that was drawn for it, or given to it, is used up even if it is not kept.
-/
def compilePrompt (k : Studio) (c : Context) (userId : Text) (r : PromptRequest) (choice : CompileChoice) :
    Result CompileAnswer :=
  match k.prepareCompile c userId r choice with
  | .error failure => k.fail failure
  | .ok (compiler, r, adapter) =>
    let (result, nextDraw) := compiler.compile r adapter c.now.toMillis k.nextDraw
    let k := { k with nextDraw }
    match result with
    | .error failure => k.fail failure
    | .ok prompt =>
      let number := k.issued.prompts + 1
      let k := { k with issued := { k.issued with prompts := number } }
      let record := promptRecord number c userId r choice adapter prompt
      match k.store.insertPrompt record with
      | .error fault => k.fail (.fault fault)
      | .ok store => (.ok ⟨record, prompt⟩, k.withStore store)

/-- Ends the saving of a snapshot whose number was counted earlier. -/
def finishSnapshot (k : Studio) (c : Context) (record : PromptRecord) (number : Int) : Result PromptVersion :=
  match record.snapshotMetadata with
  | .error fault => k.fail (.fault fault)
  | .ok metadata =>
    let idNumber := k.issued.promptVersions + 1
    let k := { k with issued := { k.issued with promptVersions := idNumber } }
    let version : PromptVersion :=
      { id := rowId "pv" idNumber, promptId := record.id, number := .int number, text := record.text,
        metadata := .ofJson metadata, createdAt := .instant c.now }
    match k.store.insertSnapshot version with
    | .error fault => k.fail (.fault fault)
    | .ok store => (.ok version, k.withStore store)

def saveSnapshot (k : Studio) (c : Context) (promptId userId : Text) : Result PromptVersion :=
  match k.store.prompt promptId (some userId) with
  | .error failure => k.fail failure
  | .ok record => k.finishSnapshot c record (k.store.nextSnapshotNumber promptId)

end Studio

end PromptStudio
