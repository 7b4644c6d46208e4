import PromptStudio.Training.Delivery
import PromptStudio.Worker.Client

/-!
# Dispatching a job

A job goes to the worker, and what comes of it is written to the job only while it is still pending: a report of the
worker that arrives first is not overwritten. The worker's id of the job and the time of its start are written where
none is stored, whatever the status.
-/

namespace PromptStudio

/-- What happens while a job is at the worker: reports arrive, and the request ends. -/
structure Exchange where
  deliveries : List Webhook
  outcome : Outcome
  /-- How many requests the reports came in; one without a readable report counts, too. -/
  arrivals : Nat := deliveries.length

/-- The worker that answers every request with an empty object. -/
def Exchange.quiet : Exchange :=
  { deliveries := [], outcome := .ok .quiet }

namespace Store

def mockModeError : String := "No worker configured - job in mock mode"

/-- The error of a job whose worker could not be reached. -/
def unreachableError : String := "Worker unavailable - job queued"

def setIfPending (s : Store) (jobId : Text) (now : Instant) (change : Job → Job) : Store :=
  s.updateJob jobId (·.status == .pending) fun j => { change j with updatedAt := .instant now }

def leavePending (s : Store) (jobId error : Text) (now : Instant) : Store :=
  s.setIfPending jobId now fun j => { j with error := some error }

def failRefused (s : Store) (jobId error : Text) (finished now : Instant) : Store :=
  s.setIfPending jobId now fun j =>
    { j with status := .failed, error := some error, finishedAt := some (.instant finished) }

/-- Writes the worker's id of a job where none is stored. -/
def recordExternalId (s : Store) (jobId : Text) (externalId : Option Text) (now : Instant) : Store :=
  s.updateJob jobId (·.externalId.isNone) fun j => { j with externalId, updatedAt := .instant now }

def recordStart (s : Store) (jobId : Text) (started now : Instant) : Store :=
  s.updateJob jobId (·.startedAt.isNone) fun j =>
    { j with startedAt := some (.instant started), updatedAt := .instant now }

/-- The first step after an acceptance: id and start. -/
def recordAcceptance (s : Store) (jobId : Text) (externalId : Option Text) (now : Instant) : Store :=
  (s.recordExternalId jobId externalId now).recordStart jobId now now

/-- The second step after an acceptance: the status. -/
def startProcessing (s : Store) (jobId : Text) (now : Instant) : Store :=
  s.setIfPending jobId now fun j => { j with status := .processing, error := none }

/-- Writes what came of a dispatch to the job. A text that has no bytes cannot be written; then the job stays as it
is. -/
def settle (s : Store) (jobId : Text) (acceptance : Except Failure (Option Text)) (now : Instant) :
    Except Failure Unit × Store :=
  match acceptance with
  | .error (.refused cause) =>
    match cause.code with
    | .workerRejected =>
      if cause.message.isEncodable then (.ok (), s.failRefused jobId cause.message now now)
      else (.error (.fault .unencodableText), s)
    | .workerUnavailable => (.ok (), s.leavePending jobId unreachableError now)
    | _ => (.error (.refused cause), s)
  | .error failure => (.error failure, s)
  | .ok externalId =>
    if externalId.all Text.isEncodable then
      (.ok (), (s.recordAcceptance jobId externalId now).startProcessing jobId now)
    else (.error (.fault .unencodableText), s)

end Store

namespace Version

def sentParams (v : Version) : Json :=
  if v.params.value.isTruthy then v.params.value else .object []

end Version

def Signer.signTraining (signer : Signer) (job : Job) (version : Version) (dataset : Dataset) (callbackUrl : Text)
    (now : Instant) (maxDepth : Nat := Nesting.signedDepth) : Except Fault SignedPayload :=
  signer.signJob job.id (dataset.url.getD []) version.sentParams callbackUrl now.toMillis maxDepth

end PromptStudio
