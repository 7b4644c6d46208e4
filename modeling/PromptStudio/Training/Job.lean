import PromptStudio.Training.Dispatch
import PromptStudio.Training.Preparation

/-!
# Training jobs

A job trains a version of a model from a validated dataset. Everything that can be refused is refused before a row is
made and before the worker is asked. Version and job are kept before the dispatch, so the worker may report on the job
while the dispatch is still under way.
-/

namespace PromptStudio

/-- A job with its version, as an operation answers them. -/
structure JobAnswer where
  job : Job
  version : Version

namespace Store

def datasetForJob (s : Store) (modelId datasetId : Text) : Except Failure (Dataset × Text) := do
  let dataset ← s.dataset datasetId
  if dataset.modelId ≠ modelId then throw (.refused (.datasetOfOtherModel datasetId modelId))
  else if dataset.status = .invalid then throw (.refused (.datasetInvalid datasetId dataset.report.value))
  else if dataset.status ≠ .validated then throw (.refused (.datasetUnvalidated datasetId))
  else match dataset.hash.filter (!·.isEmpty) with
    | some hash => return (dataset, hash)
    | none => throw (.refused (.datasetUnhashed datasetId))

def jobWithVersion (s : Store) (id : Text) : Except Failure JobAnswer := do
  match ← s.loadJob? id with
  | none => throw (.refused (.jobUnknown id))
  | some job =>
    match ← s.loadVersion? job.versionId with
    | none => throw (.refused (.versionUnknown job.versionId))
    | some version => return ⟨job, version⟩

def ownedJob (s : Store) (id userId : Text) : Except Failure JobAnswer := do
  let found ← s.jobWithVersion id
  let _ ← s.ownedModel found.version.modelId userId
  return found

/-- A job that can be sent again, with its version and dataset. -/
def jobForRetry (s : Store) (id userId : Text) : Except Failure (JobAnswer × Dataset) := do
  let found ← s.ownedJob id userId
  if found.job.status ≠ .pending then throw (.refused (.jobNotPending id found.job.status.name))
  else match found.version.datasetId with
    | none => throw (.refused (.jobWithoutDataset id))
    | some datasetId => return (found, ← s.dataset datasetId)

end Store

namespace Catalog

/-- The names of the base models that training may start from, sorted. -/
def baseModelNames (c : Catalog) : List Text :=
  (c.activeBaseModels.map (·.name)).mergeSort Text.le

def checkBaseModel (c : Catalog) (name : Text) : Except Refusal Unit :=
  if c.baseModelNames.contains name then .ok () else .error (.baseModelUnknown name c.baseModelNames)

end Catalog

namespace Studio

/-- Everything that can be refused before a job is made. -/
def admitJob (k : Studio) (c : Context) (userId modelId datasetId baseModel : Text) :
    Except Failure (Dataset × Text) := do
  let _ ← k.store.ownedModel modelId userId
  let found ← k.store.datasetForJob modelId datasetId
  c.catalog.checkBaseModel baseModel
  return found

def insertJob (k : Studio) (c : Context) (modelId : Text) (dataset : Dataset) (hash baseModel : Text) (params : Json) :
    JobAnswer × Studio :=
  let versionNumber := k.issued.versions + 1
  let jobNumber := k.issued.jobs + 1
  let version : Version :=
    { id := rowId "version" versionNumber, modelId, datasetId := some dataset.id, baseModel,
      params := .ofJson (if params.isTruthy then params else .object []), datasetHash := hash, artifactUrl := none,
      checksum := none, previewImages := .ok .null, createdAt := .instant c.now }
  let job : Job :=
    { id := rowId "job" jobNumber, versionId := version.id, provider := "webhook_worker", status := .pending,
      externalId := none, logsUrl := none, error := none, startedAt := none, finishedAt := none,
      createdAt := .instant c.now, updatedAt := .instant c.now }
  (⟨job, version⟩,
    { k with
      store := { k.store with versions := k.store.versions ++ [version], jobs := k.store.jobs ++ [job] }
      issued := { k.issued with versions := versionNumber, jobs := jobNumber } })

/-- Sends a job to the worker, if there is one, and writes to the job what came of it. -/
def dispatch (k : Studio) (c : Context) (worker : WorkerAddress) (found : JobAnswer) (dataset : Dataset)
    (exchange : Exchange) : Result Unit × List SentRequest :=
  if !worker.isConfigured then
    ((.ok (), k.withStore (k.store.leavePending found.job.id Store.mockModeError c.now)), [])
  else
    let (signer, k) := k.getSigner c.settings
    let nesting := c.settings.nesting
    match signer.bind fun s =>
        s.signTraining found.job found.version dataset c.settings.webhookCallbackUrl c.now nesting.signed with
    | .error fault => (k.fail (.fault fault), [])
    | .ok signed =>
      match worker.request signed with
      | .error fault => (k.fail (.fault fault), [])
      | .ok request =>
        let store := k.store.deliver (.still c.now) exchange.deliveries
        let (done, store) := store.settle found.job.id (worker.acceptance request exchange.outcome nesting.reply) c.now
        ((done, k.withStore store), [request])

/-- Sends a job and answers with the stored job and the version that was sent. -/
def dispatchAndAnswer (k : Studio) (c : Context) (worker : WorkerAddress) (found : JobAnswer) (dataset : Dataset)
    (exchange : Exchange) : Result JobAnswer × List SentRequest :=
  let ((done, k), sent) := k.dispatch c worker found dataset exchange
  ((done.map fun _ => { found with job := (k.store.job? found.job.id).getD found.job }, k), sent)

def createJob (k : Studio) (c : Context) (worker : WorkerAddress) (userId modelId datasetId baseModel : Text)
    (params : Json) (exchange : Exchange) : Result JobAnswer × List SentRequest :=
  match k.admitJob c userId modelId datasetId baseModel with
  | .error failure => (k.fail failure, [])
  | .ok (dataset, hash) =>
    let (found, k) := k.insertJob c modelId dataset hash baseModel params
    k.dispatchAndAnswer c worker found dataset exchange

/-- Sends a job that is still pending again. -/
def retryJob (k : Studio) (c : Context) (worker : WorkerAddress) (id userId : Text) (exchange : Exchange) :
    Result JobAnswer × List SentRequest :=
  match k.store.jobForRetry id userId with
  | .error failure => (k.fail failure, [])
  | .ok (found, dataset) => k.dispatchAndAnswer c worker found dataset exchange

def handleWebhook (k : Studio) (c : Context) (w : Webhook) : Result WebhookResult :=
  let (result, store) := k.store.handleWebhook w (.still c.now)
  (result, k.withStore store)

end Studio

end PromptStudio
