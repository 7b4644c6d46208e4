import PromptStudio.Storage.Upload
import PromptStudio.Store.Studio
import PromptStudio.Training.QualityReport

/-!
# Models and datasets

A user makes a model, gives it datasets, and has each dataset validated once. Validation has two steps: the dataset is
loaded and has to be pending, and later the verdict is written.
-/

namespace PromptStudio

namespace Store

def ownedModel (s : Store) (id userId : Text) : Except Failure LoraModel := do
  match ← s.loadModel? id with
  | none => throw (.refused (.modelUnknown id))
  | some model => if model.userId = userId then return model else throw (.refused (.modelForeign id))

/-- The models of a user, newest first. -/
def modelsOf (s : Store) (userId : Text) : Except Fault (List LoraModel) := do
  let userId ← userId.bindable
  (newestFirst (·.createdAt) (s.models.filter (·.userId == userId))).mapM LoraModel.load

def dataset (s : Store) (id : Text) : Except Failure Dataset := do
  match ← s.loadDataset? id with
  | some dataset => return dataset
  | none => throw (.refused (.datasetUnknown id))

def datasetsOf (s : Store) (modelId : Text) : Except Fault (List Dataset) := do
  let modelId ← modelId.bindable
  (oldestFirst (·.createdAt) (s.datasets.filter (·.modelId == modelId))).mapM Dataset.load

def versionsOf (s : Store) (modelId : Text) : Except Fault (List Version) := do
  let modelId ← modelId.bindable
  (oldestFirst (·.createdAt) (s.versions.filter (·.modelId == modelId))).mapM Version.load

/-- The first step of a validation: a dataset of the user that is pending. -/
def loadForValidation (s : Store) (id userId : Text) : Except Failure Dataset := do
  let dataset ← s.dataset id
  if dataset.userId ≠ userId then throw (.refused (.datasetForeign id))
  else if dataset.status ≠ .pending then throw (.refused (.datasetSettled id dataset.status.name))
  else return dataset

end Store

/-- What a validation finds: a report, and a hash if the dataset passed. -/
structure Verdict where
  report : QualityReport
  hash : Option Text
  deriving DecidableEq, Repr

namespace Settings

/-- The verdict on a dataset under the settings; its number of images has to be a number. -/
def judge (settings : Settings) (d : Dataset) (now : Instant) : Except Fault Verdict := do
  match d.imageCount.quantity? with
  | none => throw .wrongKind
  | some count =>
    let report := QualityReport.ofCount count (.whole settings.datasetMinImages) (.whole settings.datasetSoftMaxImages)
    if report.valid then return ⟨report, some (← datasetHash d.id count.text (Json.intShown now.toMillis))⟩
    else return ⟨report, none⟩

end Settings

namespace Store

/-- The second step of a validation: writes the verdict. -/
def writeVerdict (s : Store) (loaded : Dataset) (v : Verdict) (now : Instant) : Store :=
  s.updateDataset loaded.id fun d =>
    { d with
      report := .ok v.report.toJson
      status := if v.report.valid then .validated else .invalid
      hash := v.hash <|> d.hash
      updatedAt := .instant now }

def insertModel (s : Store) (m : LoraModel) : Except Fault Store := do
  Text.bindAll ([m.userId, m.name] ++ m.description.toList)
  return { s with models := s.models ++ [m] }

end Store

namespace Studio

/-- Makes a model; its name is kept without blanks at both ends. -/
def createModel (k : Studio) (c : Context) (userId name : Text) (description : Option Text) (consent : Bool) :
    Result LoraModel :=
  let name := Blank.strip name
  if name.isEmpty then k.fail (.refused .emptyModelName)
  else
    let number := k.issued.models + 1
    let k := { k with issued := { k.issued with models := number } }
    let model : LoraModel :=
      { id := rowId "model" number, userId, name, description, consentGiven := consent, createdAt := .instant c.now }
    match k.store.insertModel model with
    | .error fault => k.fail (.fault fault)
    | .ok store => (.ok model, k.withStore store)

def datasetKey (userId datasetId : Text) : Text :=
  "datasets/" ++ userId ++ "/" ++ datasetId ++ "/images.zip"

/-- Makes a dataset and says where its images go. -/
def initDataset (k : Studio) (c : Context) (userId modelId : Text) (imageCount : Int) : Result (Dataset × Upload) :=
  match k.store.ownedModel modelId userId with
  | .error failure => k.fail failure
  | .ok _ =>
    if imageCount < 1 then k.fail (.refused (.tooFewImages imageCount))
    else
      let number := k.issued.datasets + 1
      let k := { k with issued := { k.issued with datasets := number } }
      let id := rowId "dataset" number
      if !fitsColumn imageCount then k.fail (.fault .integerOverflow)
      else match Upload.ofKey c.settings.storageBaseUrl (datasetKey userId id) k.nextDraw
          (Json.intShown Upload.defaultLifetime) with
        | .error fault => k.fail (.fault fault)
        | .ok upload =>
          let dataset : Dataset :=
            { id, userId, modelId, imageCount := .int imageCount, url := some upload.publicUrl, status := .pending,
              report := .ok .null, hash := none, createdAt := .instant c.now, updatedAt := .instant c.now }
          (.ok (dataset, upload),
            { k with
              store := { k.store with datasets := k.store.datasets ++ [dataset] }
              nextDraw := k.nextDraw + 1 })

def validateDataset (k : Studio) (c : Context) (id userId : Text) : Result Dataset :=
  let judged : Except Failure (Dataset × Verdict) := do
    let loaded ← k.store.loadForValidation id userId
    return (loaded, ← c.settings.judge loaded c.now)
  match judged with
  | .error failure => k.fail failure
  | .ok (loaded, verdict) =>
    let store := k.store.writeVerdict loaded verdict c.now
    (.ok ((store.dataset? id).getD loaded), k.withStore store)

end Studio

end PromptStudio
