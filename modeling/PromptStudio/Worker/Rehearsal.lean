import PromptStudio.Digest.Sha256
import PromptStudio.Http.Reply
import PromptStudio.Http.Request
import PromptStudio.Json.Display
import PromptStudio.Settings

/-!
# The rehearsal worker

A worker that trains nothing. It takes a signed job, answers with an id, and reports first that the job is processing
and then that it is completed, with an artifact that does not exist. The whole pipeline can be rehearsed against it.
-/

namespace PromptStudio.Rehearsal

def processingReport (jobId : Json) : Json :=
  .ofFields [("jobId", jobId), ("status", .string "processing")]

def checksum (t : Text) : Except Fault String :=
  match Utf8.encode? t with
  | some bytes => .ok (Hex.encode (Sha256.hash bytes))
  | none => .error .unencodableText

/-- The report of a completed job, with an artifact, its checksum and three preview images. -/
def completionReport (jobId : Json) (externalId storageBaseUrl : Text) : Except Fault Json :=
  let base := withoutTrailingSlashes storageBaseUrl
  let folder := base ++ "/artifacts/" ++ jobId.display
  let artifact := folder ++ "/lora.safetensors"
  (checksum artifact).map fun checksum => .ofFields
    [("jobId", jobId), ("status", .string "completed"),
      ("logsUrl", .string (base ++ "/logs/" ++ externalId ++ ".txt")),
      ("artifactUrl", .string artifact), ("checksum", .string checksum),
      ("previewImages", .ofTexts ([1, 2, 3].map fun n => folder ++ "/preview_" ++ Nat.repr n ++ ".png"))]

/-- The seconds between the two reports; five where the setting is no number. -/
def delay (setting : Option String) : Binary64 :=
  ((setting.getD "5" |> Binary64.ofString?)).getD (.ofInt 5)

/-- The external id of the job that is taken as number `draw`. -/
def externalId (draw : Nat) : String :=
  "stub-" ++ Hex.padded 12 draw

structure Accepted where
  jobId : Json
  callbackUrl : Json
  externalId : String

/-- The answer to a request: a status and a body, and the job if one was accepted. -/
structure Answer where
  status : Nat
  body : Option Json
  accepted : Option Accepted

def refusal (status : Nat) (detail : String) : Answer :=
  ⟨status, some (.ofFields [("detail", .string detail)]), none⟩

def breakdown : Answer :=
  ⟨500, none, none⟩

/-- Takes a job whose signature was good, if it names its id and where to report. -/
def accept (job : Json) : Answer :=
  match job.get? "jobId", job.get? "callbackUrl" with
  | some jobId, some callbackUrl =>
    if jobId.isTruthy && callbackUrl.isTruthy then
      let accepted : Accepted := ⟨jobId, callbackUrl, externalId 1⟩
      ⟨200, some (.ofFields [("externalJobId", .string accepted.externalId)]), some accepted⟩
    else refusal 400 "jobId and callbackUrl are required"
  | _, _ => refusal 400 "jobId and callbackUrl are required"

/-- Takes a job, if it is signed. A job that nests too deep breaks the worker, and so does one that cannot be signed. -/
def train (signer : Signer) (r : HttpRequest) (now : Int) (nesting : Nesting := .usual) : Answer :=
  match (r.header? "x-signature").filter (!·.isEmpty), (r.header? "x-timestamp").filter (!·.isEmpty) with
  | some signature, some timestamp =>
    match timestamp.toChars?.bind Integer.ofChars?, Json.ofBytes r.body nesting.message with
    | none, _ => refusal 400 "Malformed request"
    | some _, .error .tooDeep => breakdown
    | some _, .error _ => refusal 400 "Malformed request"
    | some timestamp, .ok body =>
      match signer.verify (.string signature) timestamp body now nesting.checked with
      | .error _ => breakdown
      | .ok (some defect) => refusal 401 defect.message
      | .ok none => accept body
  | _, _ => refusal 401 "Missing authentication headers"

def about : Json :=
  .ofFields [("message", .string "Training Worker Stub"), ("version", .string "1.0.0"),
    ("endpoints", .ofTexts ["/train"])]

def Answer.forMethod (a : Answer) (method : Text) : Answer :=
  if method = Text.ofString "HEAD" then { a with body := none } else a

def answer (signer : Signer) (r : HttpRequest) (now : Int) (nesting : Nesting := .usual) : Answer :=
  let isMethod (name : String) := r.method == Text.ofString name
  match String.ofList r.path with
  | "/train" => if isMethod "POST" then train signer r now nesting else refusal 405 "Method Not Allowed"
  | "/" => if isMethod "GET" then ⟨200, some about, none⟩ else refusal 405 "Method Not Allowed"
  | "/train/" => ⟨307, none, none⟩
  | _ => refusal 404 "Not Found"

def delivery (signer : Signer) (url : Text) (report : Json) (now : Int) (maxDepth : Nat := Nesting.signedDepth) :
    Except Fault SentRequest := do
  let signed ← signer.sign report now maxDepth
  SentRequest.ofSigned url signed.payload signed.signature signed.timestamp

/--
The reports of an accepted job, sent one after the other until one does not get through. An address that is no text gets
none.
-/
def reports (signer : Signer) (storageBaseUrl : Text) (job : Accepted) (outcomes : List Outcome) (now : Int)
    (nesting : Nesting := .usual) : List SentRequest :=
  match job.callbackUrl with
  | .string url =>
    match delivery signer url (processingReport job.jobId) now nesting.signed with
    | .error _ => []
    | .ok first =>
      match first.receive (outcomes.headD (.ok .quiet)) with
      | .error _ | .ok (.error _) => [first]
      | .ok (.ok _) =>
        let second := do
          delivery signer url (← completionReport job.jobId job.externalId storageBaseUrl) now nesting.signed
        first :: second.toOption.toList
  | _ => []

end PromptStudio.Rehearsal
