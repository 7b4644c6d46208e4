import PromptStudio.Api.Input
import PromptStudio.Api.Response
import PromptStudio.Api.Route
import PromptStudio.Api.View
import PromptStudio.Catalog.Export
import PromptStudio.Catalog.File

/-!
# The application

It starts with settings and a catalog and answers one request after the other. A request is led to its endpoint, its
input is checked, and the operation behind the endpoint is run on what is kept.
-/

namespace PromptStudio

/-- The running application. -/
structure App where
  settings : Settings
  catalog : Catalog
  studio : Studio
  worker : WorkerAddress
  /-- How many requests came without an id of their own. -/
  unnamed : Nat

/-- A request with what it finds around it. -/
structure Visit where
  request : HttpRequest
  now : Instant
  source : CatalogSource
  exchange : Exchange

/-- What came of a request. -/
structure Handled where
  result : Except Rejection Json
  app : App
  sent : List SentRequest

namespace Visit

/-- The user where no header names one. -/
def anonymous : Text := "anonymous"

def maxUserLength : Nat := 64

def user (v : Visit) : Checked Text :=
  match v.request.header? "x-user-id" with
  | none => .valid anonymous
  | some name =>
    if maxUserLength < name.length then ((Checked.issue .stringTooLong).under "x-user-id").under "header"
    else .valid name

/-- The length of a page that the query asks for. -/
def limit (v : Visit) : Checked (Option Int) :=
  match v.request.parameter? "limit" with
  | none => .valid none
  | some text => (((Schema.integerOf 1 none (.string text)).map some).under "limit").under "query"

end Visit

namespace App

/-- Starts the application: it needs a secret and a catalog. -/
def start (settings : Settings) (source : CatalogSource) (workerUrl : String) : Except Failure App := do
  let (signer, studio) := Studio.start.getSigner settings
  let _ ← signer.mapError .fault
  let catalog ← Catalog.load source
  return ⟨settings, catalog, studio, ⟨workerUrl, .float settings.workerTimeout⟩, 0⟩

def context (app : App) (v : Visit) : Context :=
  ⟨app.settings, app.catalog, v.now⟩

def withStudio (app : App) (k : Studio) : App :=
  { app with studio := k }

/-- Rejects a request; everything stays as it is. -/
def reject (app : App) (r : Rejection) : Handled :=
  ⟨.error r, app, []⟩

/-- Answers with a value; everything stays as it is. -/
def tell (app : App) (v : Json) : Handled :=
  ⟨.ok v, app, []⟩

def seen {α : Type} (view : α → Except Fault Json) (r : Except Failure α) : Except Rejection Json :=
  (r.bind fun a => (view a).mapError .fault).mapError .ofFailure

def look {α : Type} (app : App) (view : α → Json) (r : Except Failure α) : Handled :=
  ⟨seen (.ok ∘ view) r, app, []⟩

def finish {α : Type} (app : App) (view : α → Json) (r : Result α) : Handled :=
  ⟨seen (.ok ∘ view) r.1, app.withStudio r.2, []⟩

/-- Answers with the result of an operation that may have asked the worker. -/
def finishJob (app : App) (r : Result JobAnswer × List SentRequest) : Handled :=
  ⟨seen JobAnswer.view r.1.1, app.withStudio r.1.2, r.2⟩

def forUser (app : App) (v : Visit) (go : Text → Handled) : Handled :=
  match v.user with
  | .valid user => go user
  | .invalid issues => app.reject (.invalid issues)

/-- Goes on with the user of the request and the value in its body. -/
def forInput {α : Type} (app : App) (v : Visit) (schema : Schema α) (go : Text → α → Handled) : Handled :=
  match v.request.content app.settings.nesting.body with
  | .error r => app.reject r
  | .ok content =>
    match Prod.mk <$> v.user <*> content.read schema with
    | .valid (user, input) => go user input
    | .invalid issues => app.reject (content.reject issues)

def health (app : App) (v : Visit) : Json :=
  .ofFields [("status", .string "healthy"), ("timestamp", .ofInstant v.now), ("version", .string "0.1.0"),
    ("worker_configured", .bool app.worker.isConfigured), ("catalog_profiles", .ofNat app.catalog.profiles.length)]

def about : Json :=
  .ofFields [("name", .string "Vectra Engine API"), ("version", .string "0.1.0")]

def compilePrompt (app : App) (v : Visit) (user : Text) (input : PromptInput) : Handled :=
  match input.blueprint? with
  | none => app.reject (.refused .blueprintMissing)
  | some blueprintId =>
    match input.request blueprintId with
    | .invalid _ => app.reject .compileFailed
    | .valid request =>
      let (result, k) := app.studio.compilePrompt (app.context v) user request input.choice
      match result with
      | .ok answer => (app.withStudio k).tell answer.view
      | .error (.refused cause) => (app.withStudio k).reject (.refused cause)
      | .error _ => (app.withStudio k).reject .compileFailed

def history (app : App) (user : Text) (limit : Option Int) : Handled :=
  app.look (fun prompts => .array (prompts.map PromptRecord.view))
    (app.studio.store.history app.settings.historyPageSize user limit)

/-- Loads the catalog again; if that fails, the old one stays. -/
def refreshCatalog (app : App) (v : Visit) : Handled :=
  match Catalog.load v.source with
  | .ok catalog => { app with catalog }.tell catalog.countView
  | .error failure => app.reject (.ofFailure failure)

def model (app : App) (user id : Text) : Handled :=
  let store := app.studio.store
  let found : Except Failure Json := do
    let model ← store.ownedModel id user
    model.detailView (← store.datasetsOf id) (← store.versionsOf id)
  app.look (fun view => view) found

def activeView (app : App) (user : Text) : Handled :=
  app.look (fun active => (active.map ActiveVersion.view).getD ActiveVersion.noneView)
    (app.studio.store.activeVersion? user)

/-- Makes a version the active one of a user. -/
def activate (app : App) (v : Visit) (user : Text) (input : ActivationInput) : Handled :=
  let weight := input.weight.getD app.settings.defaultLoraWeight
  let (result, k) := app.studio.activate (app.context v) user input.versionId weight
  let app := app.withStudio k
  match result with
  | .ok _ => app.activeView user
  | .error failure => app.reject (.ofFailure failure)

/-- Receives a report of the worker: the signature is checked first, the form of the report next. -/
def receiveReport (app : App) (v : Visit) : Handled :=
  let r := v.request
  let nesting := app.settings.nesting
  let (signer, k) := app.studio.getSigner app.settings
  let app := app.withStudio k
  match signer with
  | .error _ => app.reject .unforeseen
  | .ok signer =>
    match Webhook.authenticate signer (r.header? "x-signature") (r.header? "x-timestamp") r.body v.now.toMillis
        nesting with
    | .error failure => app.reject (.ofFailure failure)
    | .ok body =>
      match Webhook.reader body with
      | .invalid _ => app.reject .malformedReport
      | .valid w => app.finish WebhookResult.view (app.studio.handleWebhook (app.context v) w)

/-- Runs the operation behind an endpoint. -/
def handle (app : App) (v : Visit) (endpoint : Endpoint) : Handled :=
  let k := app.studio
  let s := app.studio.store
  let c := app.context v
  match endpoint with
  | .health => app.tell (app.health v)
  | .about => app.tell about
  | .compilePrompt => app.forInput v PromptInput.reader (app.compilePrompt v)
  | .history =>
    match Prod.mk <$> v.user <*> v.limit with
    | .valid (user, limit) => app.history user limit
    | .invalid issues => app.reject (.invalid issues)
  | .prompt id => app.forUser v fun user => app.look PromptRecord.view (s.prompt id (some user))
  | .saveSnapshot id => app.forUser v fun user => app.finish PromptVersion.view (k.saveSnapshot c id user)
  | .snapshots id => app.forUser v fun user =>
    app.look (fun versions => .array (versions.map PromptVersion.view)) (s.snapshots id user)
  | .catalog => app.tell app.catalog.toJson
  | .refreshCatalog => app.refreshCatalog v
  | .blueprints => app.forUser v fun user =>
    app.look (fun found => .array (found.map fun b => b.view none)) (s.blueprintsOf user false)
  | .createBlueprint => app.forInput v BlueprintDraft.reader fun user draft =>
    app.finish BlueprintAnswer.view (k.createBlueprint c user draft)
  | .blueprint id => app.forUser v fun user => app.look BlueprintAnswer.view (s.blueprintWithLatest id user)
  | .updateBlueprint id => app.forInput v BlueprintChanges.reader fun user changes =>
    app.finish BlueprintAnswer.view (k.updateBlueprint c id user changes)
  | .models => app.forUser v fun user => app.look (fun found => .array (found.map LoraModel.view)) (s.modelsOf user)
  | .createModel => app.forInput v ModelInput.reader fun user input =>
    app.finish LoraModel.view (k.createModel c user input.name input.description input.consent)
  | .model id => app.forUser v fun user => app.model user id
  | .baseModels => app.tell (.array (app.catalog.activeBaseModels.map BaseModel.view))
  | .initDataset => app.forInput v DatasetInput.reader fun user input =>
    app.finish (fun made => made.1.uploadView made.2) (k.initDataset c user input.modelId input.imageCount)
  | .validateDataset id => app.forUser v fun user => app.finish Dataset.view (k.validateDataset c id user)
  | .createJob => app.forInput v JobInput.reader fun user input =>
    app.finishJob (k.createJob c app.worker user input.modelId input.datasetId input.baseModel (.object input.params)
      v.exchange)
  | .job id => app.forUser v fun user => ⟨seen JobAnswer.view (s.ownedJob id user), app, []⟩
  | .retryJob id => app.forUser v fun user => app.finishJob (k.retryJob c app.worker id user v.exchange)
  | .webhook => app.receiveReport v
  | .activate => app.forInput v ActivationInput.reader (app.activate v)
  | .active => app.forUser v app.activeView
  | .deactivate => app.forUser v fun user => app.finish (fun _ => ActiveVersion.noneView) (k.deactivate user)

def requestId (number : Nat) : Text :=
  Hex.padded 12 number ++ "0000"

def sharedMethods : List Text :=
  ["DELETE", "GET", "HEAD", "OPTIONS", "PATCH", "POST", "PUT"]

/-- The answer to the question of a page of another origin whether it may use a method, if a request is such a
question. -/
def permission? (r : HttpRequest) : Option (Except Rejection Json) :=
  if r.method != Text.ofString "OPTIONS" || (r.header? "origin").isNone then none
  else (r.header? "access-control-request-method").map fun method =>
    if sharedMethods.contains method then .ok (.string "OK") else .error .forbiddenMethod

/-- What comes of a request that is led to an endpoint, with the status of an answer. -/
def visit (app : App) (v : Visit) : Handled × Nat :=
  match permission? v.request with
  | some answer => (⟨answer, app, []⟩, 200)
  | none =>
    match Route.find v.request.method v.request.path with
    | .found endpoint => (app.handle v endpoint, endpoint.successStatus)
    | .wrongMethod => (app.reject .wrongMethod, 200)
    | .otherSlash => (app.reject .otherSlash, 200)
    | .unknown => (app.reject .unknownPath, 200)

def respond (app : App) (v : Visit) : Response × App × List SentRequest :=
  let given := (v.request.header? "x-request-id").filter (!·.isEmpty)
  let app := if given.isSome then app else { app with unnamed := app.unnamed + 1 }
  let id := given.getD (requestId app.unnamed)
  let (handled, status) := app.visit v
  let arrivals := if handled.sent.isEmpty then 0 else v.exchange.arrivals
  let response := match handled.result with
    | .ok value => Response.ofValue id status value
    | .error r => Response.ofRejection id r
  (response.forMethod v.request.method, { handled.app with unnamed := handled.app.unnamed + arrivals }, handled.sent)

end App

end PromptStudio
