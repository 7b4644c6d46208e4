import PromptStudio.Failure.Refusal
import PromptStudio.Text.Integer
import PromptStudio.Validation.Schema

/-!
# Webhooks

The worker reports on a job by a signed message. The signature is checked against the bytes that arrived before anything
else is looked at; only then is the message read.
-/

namespace PromptStudio

/-- What a worker can report. -/
inductive WebhookStatus where
  | processing
  | completed
  | failed
  deriving DecidableEq, Repr

namespace WebhookStatus

def name : WebhookStatus → String
  | processing => "processing"
  | completed => "completed"
  | failed => "failed"

def ofName? (s : String) : Option WebhookStatus :=
  [processing, completed, failed].find? (·.name == s)

def isTerminal : WebhookStatus → Bool
  | processing => false
  | completed | failed => true

end WebhookStatus

/-- A report on a job. -/
structure Webhook where
  jobId : Text
  status : WebhookStatus
  logsUrl : Option Text
  error : Option Text
  artifactUrl : Option Text
  checksum : Option Text
  previewImages : Option (List Text)
  deriving DecidableEq, Repr

namespace Webhook

open Schema

/-- A member of a report that may be missing; it is known under two names. -/
def optional {α : Type} (name other : String) (inner : Schema α) (members : List (Text × Json)) : Checked (Option α) :=
  fieldOf [name, other] (.valid none) (nullable inner) members

def reader : Schema Webhook :=
  record .modelType fun m =>
    Webhook.mk <$> fieldOf ["jobId", "job_id"] (.issue .missing) identifier m
      <*> field "status" (word WebhookStatus.ofName? .literal) m
      <*> optional "logsUrl" "logs_url" text m
      <*> optional "error" "error" text m
      <*> optional "artifactUrl" "artifact_url" text m
      <*> optional "checksum" "checksum" text m
      <*> optional "previewImages" "preview_images" (list text) m

def reject {α : Type} (cause : Refusal) : Except Failure α :=
  .error (.refused cause)

/--
The value of a message that is signed. Both headers have to be there, the time has to be an integer, the bytes have to
be JSON, and the signature has to be that of the value at the time.
-/
def authenticate (signer : Signer) (signature timestamp : Option Text) (body : Bytes) (now : Int)
    (nesting : Nesting := .usual) : Except Failure Json :=
  match signature.filter (!·.isEmpty), timestamp.filter (!·.isEmpty) with
  | some signature, some timestamp =>
    match timestamp.toChars?.bind Integer.ofChars? with
    | none => reject .timestampUnreadable
    | some timestamp =>
      match Json.ofBytes body nesting.message with
      | .error .malformedJson | .error .undecodableBytes => reject .webhookMalformed
      | .error fault => .error (.fault fault)
      | .ok v =>
        match signer.verify (.string signature) timestamp v now nesting.checked with
        | .error fault => .error (.fault fault)
        | .ok (some defect) => reject (.signatureRejected defect)
        | .ok none => .ok v
  | _, _ => reject .headersMissing

end Webhook

end PromptStudio
