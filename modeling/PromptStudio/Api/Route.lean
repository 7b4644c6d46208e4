import PromptStudio.Text.CodePoint

/-!
# Routes

Which endpoint a method and a path lead to. The first route that fits both is taken. A path that only fits routes of
other methods is told apart from a path that fits none, and of the latter those that fit with a slash more or less at
the end.
-/

namespace PromptStudio

/-- What can be asked of the studio, with the ids that stand in the path. -/
inductive Endpoint where
  | health
  | about
  | compilePrompt
  | history
  | prompt (id : Text)
  | saveSnapshot (id : Text)
  | snapshots (id : Text)
  | catalog
  | refreshCatalog
  | blueprints
  | createBlueprint
  | blueprint (id : Text)
  | updateBlueprint (id : Text)
  | models
  | createModel
  | model (id : Text)
  | baseModels
  | initDataset
  | validateDataset (id : Text)
  | createJob
  | job (id : Text)
  | retryJob (id : Text)
  | webhook
  | activate
  | active
  | deactivate
  deriving DecidableEq, Repr

def Endpoint.successStatus : Endpoint → Nat
  | saveSnapshot _ | createBlueprint | createModel | initDataset | createJob => 201
  | _ => 200

inductive PathPattern where
  | fixed (path : String) (endpoint : Endpoint)
  /-- Every path with an id between two parts; an id is not empty and has no slash. -/
  | keyed (before after : String) (endpoint : Text → Endpoint)

/-- A method and the shape of a path. -/
structure Route where
  method : String
  pattern : PathPattern

namespace PathPattern

/-- Whether a text is a word, or the word and a line end. -/
def endsAs (word : String) (cs : List Char) : Bool :=
  cs == word.toList || cs == word.toList ++ ['\n']

def endpoint? (p : PathPattern) (path : List Char) : Option Endpoint :=
  match p with
  | .fixed word endpoint => if endsAs word path then some endpoint else none
  | .keyed before after endpoint =>
    let start := before.toList
    if start.isPrefixOf path then
      let rest := path.drop start.length
      let id := rest.takeWhile (· != '/')
      if !id.isEmpty && endsAs after (rest.drop id.length) then some (endpoint (id.map .char)) else none
    else none

end PathPattern

inductive Destination where
  | found (endpoint : Endpoint)
  | wrongMethod
  | otherSlash
  | unknown
  deriving DecidableEq, Repr

namespace Route

/-- The part of a path before every endpoint but two. -/
def base : String := "/api/v1"

/-- The part of a path before every endpoint of training. -/
def training : String := base ++ "/lora"

def fixed (method path : String) (endpoint : Endpoint) : Route :=
  ⟨method, .fixed path endpoint⟩

def keyed (method before after : String) (endpoint : Text → Endpoint) : Route :=
  ⟨method, .keyed before after endpoint⟩

def all : List Route :=
  [fixed "GET" "/health" .health,
    fixed "GET" "/" .about,
    fixed "POST" (base ++ "/prompts/compile") .compilePrompt,
    fixed "GET" (base ++ "/prompts/history") .history,
    keyed "GET" (base ++ "/prompts/") "" .prompt,
    keyed "POST" (base ++ "/prompts/") "/versions" .saveSnapshot,
    keyed "GET" (base ++ "/prompts/") "/versions" .snapshots,
    fixed "GET" (base ++ "/catalog") .catalog,
    fixed "POST" (base ++ "/catalog/refresh") .refreshCatalog,
    fixed "GET" (base ++ "/blueprints") .blueprints,
    fixed "POST" (base ++ "/blueprints") .createBlueprint,
    keyed "GET" (base ++ "/blueprints/") "" .blueprint,
    keyed "PATCH" (base ++ "/blueprints/") "" .updateBlueprint,
    fixed "GET" (training ++ "/models") .models,
    fixed "POST" (training ++ "/models") .createModel,
    keyed "GET" (training ++ "/models/") "" .model,
    fixed "GET" (training ++ "/base-models") .baseModels,
    fixed "POST" (training ++ "/datasets/init") .initDataset,
    keyed "POST" (training ++ "/datasets/") "/validate" .validateDataset,
    fixed "POST" (training ++ "/jobs") .createJob,
    keyed "GET" (training ++ "/jobs/") "" .job,
    keyed "POST" (training ++ "/jobs/") "/retry" .retryJob,
    fixed "POST" (training ++ "/webhook") .webhook,
    fixed "POST" (training ++ "/activate") .activate,
    fixed "GET" (training ++ "/active") .active,
    fixed "DELETE" (training ++ "/active") .deactivate]

/-- The routes that a path fits, with their endpoints. -/
def fitting (path : List Char) : List (String × Endpoint) :=
  all.filterMap fun r => (r.pattern.endpoint? path).map fun e => (r.method, e)

/-- The path without the slashes at its end, or with one if there is none. -/
def withOtherSlash (path : List Char) : List Char :=
  if path.getLast? = some '/' then (path.reverse.dropWhile (· == '/')).reverse else path ++ ['/']

def find (method : Text) (path : List Char) : Destination :=
  let routes := fitting path
  match routes.find? (Text.ofString ·.1 == method) with
  | some (_, endpoint) => .found endpoint
  | none =>
    if !routes.isEmpty then .wrongMethod
    else if path != ['/'] && !(fitting (withOtherSlash path)).isEmpty then .otherSlash
    else .unknown

end Route

end PromptStudio
