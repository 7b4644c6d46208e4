import PromptStudio.Failure.Refusal
import PromptStudio.Http.Reply
import PromptStudio.Signing.Signer

/-!
# Sending a job to the worker

The worker is a server that trains. It gets a signed job and answers with the id under which it runs. A worker that
cannot be reached may be asked again later; a worker that refuses will refuse again.
-/

namespace PromptStudio

/-- Where the worker is, and how many seconds it may take. -/
structure WorkerAddress where
  url : Text
  timeout : Json

namespace WorkerAddress

def isConfigured (w : WorkerAddress) : Bool :=
  !w.url.isEmpty

def request (w : WorkerAddress) (job : SignedPayload) : Except Fault SentRequest :=
  SentRequest.ofSigned w.url job.payload job.signature job.timestamp

/-- The id that a reply holds: any value that is not empty, as running text. -/
def externalId? (reply : Json) : Option Text :=
  match reply.get? "externalJobId" with
  | some v => if v.isTruthy then some v.display else none
  | none => none

/--
What a reply means: the worker's id of the job, if it gave one. A body that is no JSON gives none; bytes that are no
text, a number with too many digits and too deep a nesting are faults.
-/
def accepted (reply : Reply) (maxDepth : Nat := Json.usualDepth) : Except Failure (Option Text) := do
  if !reply.isSuccess then
    let body ← reply.text
    throw (.refused (.workerRefused reply.status body))
  else
    match Json.ofBytes reply.body maxDepth with
    | .ok v => return externalId? v
    | .error .malformedJson => return none
    | .error fault => throw (.fault fault)

def acceptance (w : WorkerAddress) (request : SentRequest) (outcome : Outcome) (maxDepth : Nat := Json.usualDepth) :
    Except Failure (Option Text) := do
  match ← request.receive outcome with
  | .error .timeout => throw (.refused (.workerTimeout w.timeout))
  | .error (.unreachable reason) => throw (.refused (.workerUnreachable reason))
  | .ok reply => accepted reply maxDepth

end WorkerAddress

end PromptStudio
