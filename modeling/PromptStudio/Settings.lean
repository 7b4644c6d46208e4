import PromptStudio.Digest.Hex
import PromptStudio.Signing.Signer
import PromptStudio.Text.Lowercase
import PromptStudio.Validation.Schema

/-!
# Settings

What the environment decides. Names of variables are not case-sensitive, and a variable that is not set has a default.
-/

namespace PromptStudio

abbrev Environment := List (String × String)

/-- The settings of the application. -/
structure Settings where
  databaseUrl : String
  logLevel : String
  environment : String
  publicBaseUrl : String
  /-- The address of the training worker; empty if there is none. -/
  workerUrl : String
  workerTimeout : Binary64
  workerHmacSecret : String
  signatureToleranceSeconds : Int
  storageBaseUrl : String
  /-- The catalog file; none for the built-in catalog. -/
  catalogPath : Option String
  datasetMinImages : Int
  datasetSoftMaxImages : Int
  defaultLoraWeight : Binary64
  historyPageSize : Int
  /-- How deep values may nest; the environment has no say in it. -/
  nesting : Nesting

def withoutTrailingSlashes (t : Text) : Text :=
  Blank.dropTail (· == .char '/') t

/-- A path without empty and dot steps; the empty path is a dot, and two leading slashes stay two. -/
def normalPath (s : String) : String :=
  let cs := s.toList
  let slashes := (cs.takeWhile (· == '/')).length
  let root := if slashes = 0 then "" else if slashes = 2 then "//" else "/"
  let steps := (s.splitToList (· == '/')).filter fun step => !step.isEmpty && step != "."
  let path := root ++ "/".intercalate steps
  if path.isEmpty then "." else path

namespace Settings

/-- The value of a variable: of several spellings of its name, the last one set. -/
def setting? (env : Environment) (name : String) : Option String :=
  (env.reverse.find? fun v => Lowercase.text v.1 == Text.ofString name).map (·.2)

def text (env : Environment) (name default : String) : Checked String :=
  .valid ((setting? env name).getD default)

def number {α : Type} (env : Environment) (name : String) (default : α) (schema : Schema α) : Checked α :=
  match setting? env name with
  | some s => (schema (.string s)).under name
  | none => .valid default

def ofEnvironment (env : Environment) : Checked Settings :=
  Settings.mk <$> text env "database_url" "sqlite+aiosqlite:///./data/database.db"
    <*> text env "log_level" "INFO"
    <*> text env "environment" "development"
    <*> text env "public_base_url" "http://localhost:8000"
    <*> text env "worker_url" ""
    <*> number env "worker_timeout" (.ofInt 10) Schema.float
    <*> text env "worker_hmac_secret" ""
    <*> number env "signature_tolerance_seconds" 300 Schema.integer
    <*> text env "storage_base_url" "http://localhost:8000"
    <*> .valid ((setting? env "catalog_path").map normalPath)
    <*> number env "dataset_min_images" 10 Schema.integer
    <*> number env "dataset_soft_max_images" 30 Schema.integer
    <*> number env "default_lora_weight" (.ofInt 1) Schema.float
    <*> number env "history_page_size" 50 Schema.integer
    <*> .valid .usual

/-- The address at which the worker reports. -/
def webhookCallbackUrl (s : Settings) : Text :=
  withoutTrailingSlashes s.publicBaseUrl ++ "/api/v1/lora/webhook"

/--
The signer of the application. Without a secret production does not start, and elsewhere a random one is drawn;
`drawn` is the number of the draw.
-/
def signer (s : Settings) (drawn : Nat) : Except Fault Signer :=
  let tolerance := s.signatureToleranceSeconds * 1000
  if s.workerHmacSecret.isEmpty then
    if s.environment = "production" then .error .missingSecret
    else Signer.ofSecret (Hex.padded 64 drawn) tolerance
  else Signer.ofSecret s.workerHmacSecret tolerance

end Settings

end PromptStudio
