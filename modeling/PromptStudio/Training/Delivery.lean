import PromptStudio.Store.Basic

/-!
# Applying a webhook

A report is applied in two steps: the job is loaded, and later one update writes the report where the stored job is
not over yet. Between the two the stored job may have changed; the update looks at it again, but what the report
writes beside its own values was decided on the loaded job.
-/

namespace PromptStudio

structure WebhookResult where
  jobId : Text
  applied : Bool
  artifactApplied : Bool
  deriving DecidableEq, Repr

/-- The times that are read while a report is applied, in the order in which they are read. -/
structure ReportTimes where
  finished : Instant
  started : Instant
  updated : Instant
  deriving DecidableEq, Repr

def ReportTimes.still (now : Instant) : ReportTimes :=
  ⟨now, now, now⟩

namespace Job

/-- The job with a report written into it; `unstarted` says that the loaded job had not started. -/
def withReport (w : Webhook) (unstarted : Bool) (times : ReportTimes) (j : Job) : Job :=
  { j with
    status := .ofReport w.status
    error := w.error
    logsUrl := w.logsUrl <|> j.logsUrl
    finishedAt := if w.status.isTerminal then some (.instant times.finished) else j.finishedAt
    startedAt := if unstarted then some (.instant times.started) else j.startedAt
    updatedAt := .instant times.updated }

end Job

namespace Version

def withArtifact (w : Webhook) (url : Text) (v : Version) : Version :=
  { v with artifactUrl := some url, checksum := w.checksum, previewImages := .ok (.ofTexts (w.previewImages.getD [])) }

end Version

namespace Webhook

/-- The address of the artifact that a report brings: only a completed job has one, and it is not empty. -/
def artifact? (w : Webhook) : Option Text :=
  if w.status = .completed then w.artifactUrl.filter (!·.isEmpty) else none

def jobTexts (w : Webhook) : List Text :=
  w.error.toList ++ w.logsUrl.toList

/-- The texts that a report writes into the version, if it brings an artifact. -/
def artifactTexts (w : Webhook) : List Text :=
  match w.artifact? with
  | some url => url :: w.checksum.toList
  | none => []

end Webhook

namespace Store

def loadForReport (s : Store) (w : Webhook) : Except Failure Job := do
  match ← s.loadJob? w.jobId with
  | some job => return job
  | none => throw (.refused (.jobUnknown w.jobId))

def takesReport (s : Store) (jobId : Text) : Bool :=
  s.jobs.any fun j => j.id == jobId && !j.status.isTerminal

def writeReport (s : Store) (w : Webhook) (unstarted : Bool) (times : ReportTimes) : Store :=
  s.updateJob w.jobId (!·.status.isTerminal) (·.withReport w unstarted times)

/-- Whether a version takes an artifact: it has none, not even an empty one. -/
def takesArtifact (s : Store) (versionId : Text) : Bool :=
  s.versions.any fun v => v.id == versionId && v.artifactUrl.isNone

/-- Writes the artifact of a report, if it brings one, into the version, if it has none. -/
def writeArtifact (s : Store) (versionId : Text) (w : Webhook) : Store :=
  match w.artifact? with
  | some url => s.updateVersion versionId (·.artifactUrl.isNone) (·.withArtifact w url)
  | none => s

/-- The second step: writes the report and its artifact, if the stored job still takes it. -/
def updateByReport (s : Store) (loaded : Job) (w : Webhook) (times : ReportTimes) :
    Except Fault (WebhookResult × Store) := do
  Text.bindAll w.jobTexts
  if s.takesReport w.jobId then
    Text.bindAll w.artifactTexts
    return ({ jobId := loaded.id, applied := true
              artifactApplied := w.artifact?.isSome && s.takesArtifact loaded.versionId },
      (s.writeReport w loaded.startedAt.isNone times).writeArtifact loaded.versionId w)
  else return (⟨loaded.id, false, false⟩, s)

/-- Applies a report whose job was loaded earlier; a report that cannot be written leaves everything as it was. -/
def finishReport (s : Store) (loaded : Job) (w : Webhook) (times : ReportTimes) :
    Except Failure WebhookResult × Store :=
  if loaded.status.isTerminal then (.ok ⟨loaded.id, false, false⟩, s)
  else match s.updateByReport loaded w times with
    | .ok (result, s) => (.ok result, s)
    | .error fault => (.error (.fault fault), s)

/-- Applies a report with nothing between its two steps. -/
def handleWebhook (s : Store) (w : Webhook) (times : ReportTimes) : Except Failure WebhookResult × Store :=
  match s.loadForReport w with
  | .error failure => (.error failure, s)
  | .ok loaded => s.finishReport loaded w times

/-- Applies reports one after the other; what cannot be applied is left. -/
def deliver (s : Store) (times : ReportTimes) (webhooks : List Webhook) : Store :=
  webhooks.foldl (fun s w => (s.handleWebhook w times).2) s

end Store

end PromptStudio
