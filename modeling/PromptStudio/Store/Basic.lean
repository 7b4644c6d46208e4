import PromptStudio.Store.Row

/-!
# The store

The rows of every table, in the order in which they were inserted. A row is found by its id; an update changes the
rows that it finds and says nothing about the others. Ids are numbered per table, and a number that was given out is
not given out again, even where the row did not come to be.
-/

namespace PromptStudio

/-- The rows of every table. -/
structure Store where
  models : List LoraModel
  datasets : List Dataset
  versions : List Version
  jobs : List Job
  bindings : List Binding
  prompts : List PromptRecord
  promptVersions : List PromptVersion
  blueprints : List UserBlueprint
  blueprintVersions : List BlueprintVersion

/-- How many ids were given out in each table. -/
structure Issued where
  models : Nat
  datasets : Nat
  versions : Nat
  jobs : Nat
  prompts : Nat
  promptVersions : Nat
  blueprints : Nat
  blueprintVersions : Nat
  deriving DecidableEq, Repr

def Store.empty : Store :=
  ⟨[], [], [], [], [], [], [], [], []⟩

def Issued.none : Issued :=
  ⟨0, 0, 0, 0, 0, 0, 0, 0⟩

def rowId (table : String) (number : Nat) : Text :=
  table ++ "-" ++ Nat.repr number

namespace Store

/-- Changes the rows of a list that a condition picks. -/
def updateWhere {α : Type} (picks : α → Bool) (change : α → α) (rows : List α) : List α :=
  rows.map fun row => if picks row then change row else row

def model? (s : Store) (id : Text) : Option LoraModel :=
  s.models.find? (·.id == id)

def dataset? (s : Store) (id : Text) : Option Dataset :=
  s.datasets.find? (·.id == id)

def version? (s : Store) (id : Text) : Option Version :=
  s.versions.find? (·.id == id)

def job? (s : Store) (id : Text) : Option Job :=
  s.jobs.find? (·.id == id)

def binding? (s : Store) (userId : Text) : Option Binding :=
  s.bindings.find? (·.userId == userId)

def prompt? (s : Store) (id : Text) : Option PromptRecord :=
  s.prompts.find? (·.id == id)

def blueprint? (s : Store) (id : Text) : Option UserBlueprint :=
  s.blueprints.find? (·.id == id)

/-- A row that was looked for, as it is loaded. -/
def loadFound {α : Type} (load : α → Except Fault α) : Option α → Except Fault (Option α)
  | some row => (load row).map some
  | none => .ok none

def loadModel? (s : Store) (id : Text) : Except Fault (Option LoraModel) := do
  loadFound LoraModel.load (s.model? (← id.bindable))

def loadDataset? (s : Store) (id : Text) : Except Fault (Option Dataset) := do
  loadFound Dataset.load (s.dataset? (← id.bindable))

def loadVersion? (s : Store) (id : Text) : Except Fault (Option Version) := do
  loadFound Version.load (s.version? (← id.bindable))

def loadJob? (s : Store) (id : Text) : Except Fault (Option Job) := do
  loadFound Job.load (s.job? (← id.bindable))

def loadBinding? (s : Store) (userId : Text) : Except Fault (Option Binding) := do
  return s.binding? (← userId.bindable)

def loadPrompt? (s : Store) (id : Text) : Except Fault (Option PromptRecord) := do
  loadFound PromptRecord.load (s.prompt? (← id.bindable))

def loadBlueprint? (s : Store) (id : Text) : Except Fault (Option UserBlueprint) := do
  loadFound UserBlueprint.load (s.blueprint? (← id.bindable))

/-- Changes the job of an id where a condition holds of it. -/
def updateJob (s : Store) (id : Text) (holds : Job → Bool) (change : Job → Job) : Store :=
  { s with jobs := updateWhere (fun j => j.id == id && holds j) change s.jobs }

/-- Changes the version of an id where a condition holds of it. -/
def updateVersion (s : Store) (id : Text) (holds : Version → Bool) (change : Version → Version) : Store :=
  { s with versions := updateWhere (fun v => v.id == id && holds v) change s.versions }

def updateDataset (s : Store) (id : Text) (change : Dataset → Dataset) : Store :=
  { s with datasets := updateWhere (·.id == id) change s.datasets }

def updateBinding (s : Store) (userId : Text) (change : Binding → Binding) : Store :=
  { s with bindings := updateWhere (·.userId == userId) change s.bindings }

/-- Changes the user blueprint of an id. -/
def updateBlueprint (s : Store) (id : Text) (change : UserBlueprint → UserBlueprint) : Store :=
  { s with blueprints := updateWhere (·.id == id) change s.blueprints }

/-- Rows from the earliest to the latest; rows of one time keep their order. -/
def oldestFirst {α : Type} (time : α → Timestamp) (rows : List α) : List α :=
  rows.mergeSort fun a b => (time a).le (time b)

/-- Rows from the latest to the earliest; rows of one time keep their order. -/
def newestFirst {α : Type} (time : α → Timestamp) (rows : List α) : List α :=
  rows.mergeSort fun a b => (time b).le (time a)

end Store

end PromptStudio
