import PromptStudio.Proofs.Training.Intake
import PromptStudio.Proofs.Training.Preparation
import PromptStudio.Proofs.Training.Settlement

/-!
# Operations that run at the same time

Any number of dispatches and reports may be under way on one studio. A dispatch is made up of steps: its job is admitted
and inserted, or found again for a retry; the request is sent; the worker's reply is received; and the statements that
follow from it are made one by one. A report is loaded and later written. Calls that ask nobody are single steps. The
traffic is the studio with all that is under way on it, and a run is any list of events, so that a theorem about runs
speaks of every interleaving: of several retries of one job at once, and of reports that arrive while their job is
being dispatched. A step is what the database does at once: a load, a statement, or the insertion of a version with its
job.

What a step can do to the studio and the reports is said once, by `Moves`; the laws of the modules that follow are
derived from it.
-/

namespace PromptStudio

/-! ### Dispatches -/

/-- What was found for a new job. -/
structure Admission where
  modelId : Text
  dataset : Dataset
  hash : Text
  baseModel : Text
  params : Json

/-- Makes the version and the job of an admission. -/
def Admission.insert (a : Admission) (k : Studio) (c : Context) : JobAnswer × Studio :=
  k.insertJob c a.modelId a.dataset a.hash a.baseModel a.params

/-- Where a dispatch stands. -/
inductive Dispatching where
  /-- Nothing was refused; the job is not made yet. -/
  | admitted (a : Admission)
  | ready (found : JobAnswer) (dataset : Dataset)
  | asked (jobId : Text) (worker : WorkerAddress) (request : SentRequest)
  /-- What the worker said is known, and some statements are still to be made. -/
  | settling (jobId : Text) (updates : List JobUpdate)

/-- One step of one dispatch. -/
inductive DispatchStep where
  | insert (c : Context)
  | send (c : Context) (worker : WorkerAddress)
  | receive (outcome : Outcome) (maxDepth : Nat) (now : Instant)
  | write (now : Instant)

namespace Dispatching

/-- Asks the worker. Without a worker there is one statement to make, after a fault there is none. -/
def send (k : Studio) (c : Context) (worker : WorkerAddress) (found : JobAnswer) (dataset : Dataset) :
    Studio × Dispatching :=
  if !worker.isConfigured then (k, .settling found.job.id [.leavePending Store.mockModeError])
  else
    let (signer, k) := k.getSigner c.settings
    match signer.bind fun s =>
        s.signTraining found.job found.version dataset c.settings.webhookCallbackUrl c.now c.settings.nesting.signed with
    | .error _ => (k, .settling found.job.id [])
    | .ok signed =>
      match worker.request signed with
      | .error _ => (k, .settling found.job.id [])
      | .ok request => (k, .asked found.job.id worker request)

/-- The next step of a dispatch; a step that is not the next one does nothing. -/
def advance (k : Studio) : Dispatching → DispatchStep → Studio × Dispatching
  | .admitted a, .insert c => ((a.insert k c).2, .ready (a.insert k c).1 a.dataset)
  | .ready found dataset, .send c worker => send k c worker found dataset
  | .asked jobId worker request, .receive outcome maxDepth now =>
    (k, .settling jobId (Store.settlement (worker.acceptance request outcome maxDepth) now))
  | .settling jobId (u :: rest), .write now => (k.withStore (u.apply jobId now k.store), .settling jobId rest)
  | d, _ => (k, d)

end Dispatching

/-! ### Traffic -/

/-- A studio and what is under way on it. -/
structure Traffic where
  studio : Studio
  reports : List Reporting
  dispatches : List Dispatching

/-- Something that happens next. -/
inductive Event where
  | plain (c : Context) (call : PlainCall)
  | admission (c : Context) (userId modelId datasetId baseModel : Text) (params : Json)
  | retry (id userId : Text)
  | dispatch (place : Nat) (e : DispatchStep)
  | report (e : IntakeStep)

namespace Traffic

def start : Traffic :=
  ⟨.start, [], []⟩

def intake (σ : Traffic) : Intake :=
  ⟨σ.studio.store, σ.reports⟩

def begin (σ : Traffic) (d : Dispatching) : Traffic :=
  { σ with dispatches := σ.dispatches ++ [d] }

def step (σ : Traffic) : Event → Traffic
  | .plain c call => { σ with studio := σ.studio.performPlain c call }
  | .admission c userId modelId datasetId baseModel params =>
    match σ.studio.admitJob c userId modelId datasetId baseModel with
    | .ok (dataset, hash) => σ.begin (.admitted ⟨modelId, dataset, hash, baseModel, params⟩)
    | .error _ => σ
  | .retry id userId =>
    match σ.studio.store.jobForRetry id userId with
    | .ok (found, dataset) => σ.begin (.ready found dataset)
    | .error _ => σ
  | .dispatch place e =>
    match σ.dispatches[place]? with
    | some d =>
      { σ with
        studio := (d.advance σ.studio e).1
        dispatches := σ.dispatches.set place (d.advance σ.studio e).2 }
    | none => σ
  | .report e =>
    { σ with studio := σ.studio.withStore (σ.intake.step e).store, reports := (σ.intake.step e).reports }

def run (σ : Traffic) (events : List Event) : Traffic :=
  events.foldl step σ

theorem run_induction {P : Traffic → Prop} (hstep : ∀ σ e, P σ → P (σ.step e)) {σ : Traffic} (h : P σ)
    (events : List Event) : P (σ.run events) := by
  induction events generalizing σ with
  | nil => exact h
  | cons e rest ih => exact ih (hstep σ e h)

theorem run_append (σ : Traffic) (events more : List Event) : σ.run (events ++ more) = (σ.run events).run more :=
  List.foldl_append

/-! ### What a step can do -/

/-- What a step that changes no row can make of the reports. -/
inductive Hears (σ : Traffic) : List Reporting → Prop
  | nothing : σ.Hears σ.reports
  | load {w : Webhook} {job : Job} (hjob : σ.studio.store.job? w.jobId = some job) :
      σ.Hears (σ.reports ++ [.loaded w job])
  /-- A report is answered without being applied. -/
  | pass {place : Nat} {w : Webhook} {job : Job} (hplace : σ.reports[place]? = some (.loaded w job))
      (times : ReportTimes) {answer : Except Failure WebhookResult} (hidle : ∀ r, answer = .ok r → r.applied = false) :
      σ.Hears (σ.reports.set place (.answered w times answer))

/-- Everything that one step can make of the studio and the reports. -/
inductive Moves (σ : Traffic) : Studio → List Reporting → Prop
  | still {k : Studio} {reports : List Reporting} (hstore : k.store = σ.studio.store)
      (hissued : k.issued = σ.studio.issued) (hreports : σ.Hears reports) : σ.Moves k reports
  | plain (c : Context) (call : PlainCall) : σ.Moves (σ.studio.performPlain c call) σ.reports
  | insert {place : Nat} {a : Admission} (hplace : σ.dispatches[place]? = some (.admitted a)) (c : Context) :
      σ.Moves (a.insert σ.studio c).2 σ.reports
  | write (u : JobUpdate) (jobId : Text) (now : Instant) :
      σ.Moves (σ.studio.withStore (u.apply jobId now σ.studio.store)) σ.reports
  | report {place : Nat} {w : Webhook} {job : Job} (hplace : σ.reports[place]? = some (.loaded w job))
      (htakes : σ.studio.store.takesReport w.jobId = true) (times : ReportTimes) :
      σ.Moves (σ.studio.withStore (σ.studio.store.afterReport job w times))
        (σ.reports.set place (.answered w times
          (.ok ⟨job.id, true, w.artifact?.isSome && σ.studio.store.takesArtifact job.versionId⟩)))

variable (σ : Traffic)

theorem getSigner_store_issued (k : Studio) (settings : Settings) :
    (k.getSigner settings).2.store = k.store ∧ (k.getSigner settings).2.issued = k.issued := by
  rw [Studio.getSigner]
  split
  · exact ⟨rfl, rfl⟩
  · split
    · exact ⟨rfl, rfl⟩
    · exact ⟨rfl, rfl⟩

theorem send_store_issued (k : Studio) (c : Context) (worker : WorkerAddress) (found : JobAnswer) (dataset : Dataset) :
    (Dispatching.send k c worker found dataset).1.store = k.store ∧
      (Dispatching.send k c worker found dataset).1.issued = k.issued := by
  have hsigner := getSigner_store_issued k c.settings
  rw [Dispatching.send]
  split
  · exact ⟨rfl, rfl⟩
  · dsimp only
    split
    · exact hsigner
    · split
      · exact hsigner
      · exact hsigner

theorem moves_advance {place : Nat} {d : Dispatching} (hplace : σ.dispatches[place]? = some d) (e : DispatchStep) :
    σ.Moves (d.advance σ.studio e).1 σ.reports := by
  cases d with
  | admitted a =>
      cases e with
      | insert c => exact .insert hplace c
      | _ => exact .still rfl rfl .nothing
  | ready found dataset =>
      cases e with
      | send c worker =>
          obtain ⟨hstore, hissued⟩ := send_store_issued σ.studio c worker found dataset
          exact .still hstore hissued .nothing
      | _ => exact .still rfl rfl .nothing
  | asked jobId worker request =>
      cases e with
      | _ => exact .still rfl rfl .nothing
  | settling jobId updates =>
      cases updates with
      | nil => exact .still rfl rfl .nothing
      | cons u rest =>
          cases e with
          | write now => exact .write u jobId now
          | _ => exact .still rfl rfl .nothing

theorem moves_intake (e : IntakeStep) :
    σ.Moves (σ.studio.withStore (σ.intake.step e).store) (σ.intake.step e).reports := by
  rcases σ.intake.step_cases e with heq | ⟨w, job, hjob, heq⟩ | ⟨place, times, w, job, _, hplace, heq⟩
  · rw [heq]
    exact .still rfl rfl .nothing
  · rw [heq]
    exact .still rfl rfl (.load hjob)
  · rw [heq]
    rcases Store.finishReport_cases σ.intake.store job w times with ⟨hstore, hidle⟩ | ⟨htakes, hfinish⟩
    · exact .still hstore rfl (.pass hplace times hidle)
    · rw [hfinish]
      exact .report hplace htakes times

theorem moves_step (e : Event) : σ.Moves (σ.step e).studio (σ.step e).reports := by
  cases e with
  | plain c call => exact .plain c call
  | admission c userId modelId datasetId baseModel params =>
      rw [step]
      split
      · exact .still rfl rfl .nothing
      · exact .still rfl rfl .nothing
  | retry id userId =>
      rw [step]
      split
      · exact .still rfl rfl .nothing
      · exact .still rfl rfl .nothing
  | dispatch place e =>
      rw [step]
      split
      · rename_i d hplace
        exact σ.moves_advance hplace e
      · exact .still rfl rfl .nothing
  | report e => exact σ.moves_intake e

theorem exists_store_advance (k : Studio) (d : Dispatching) (e : DispatchStep) :
    ∃ versions jobs, (d.advance k e).1.store = { k.store with versions, jobs } := by
  cases d with
  | ready found dataset =>
      cases e with
      | send c worker => exact ⟨_, _, (send_store_issued k c worker found dataset).1⟩
      | _ => exact ⟨_, _, rfl⟩
  | settling jobId updates =>
      cases updates with
      | nil => exact ⟨_, _, rfl⟩
      | cons u rest =>
          cases e with
          | write now => exact ⟨_, _, u.apply_eq_updateJob jobId now k.store⟩
          | _ => exact ⟨_, _, rfl⟩
  | _ =>
      cases e with
      | _ => exact ⟨_, _, rfl⟩

theorem exists_store_intake (x : Intake) (e : IntakeStep) :
    ∃ versions jobs, (x.step e).store = { x.store with versions, jobs } := by
  rcases x.step_cases e with heq | ⟨w, job, _, heq⟩ | ⟨place, times, w, job, _, _, heq⟩
  · rw [heq]
    exact ⟨_, _, rfl⟩
  · rw [heq]
    exact ⟨_, _, rfl⟩
  · rw [heq]
    rcases x.store.finishReport_cases job w times with ⟨hstore, _⟩ | ⟨_, hfinish⟩
    · exact ⟨_, _, hstore⟩
    · rw [hfinish]
      exact x.store.exists_afterReport job w times

/-- Every event but the calls that ask nobody writes to versions and jobs only. -/
theorem exists_store_step {e : Event} (hother : ∀ c call, e ≠ .plain c call) :
    ∃ versions jobs, (σ.step e).studio.store = { σ.studio.store with versions, jobs } := by
  cases e with
  | plain c call => exact absurd rfl (hother c call)
  | admission c userId modelId datasetId baseModel params =>
      rw [step]
      split <;> exact ⟨_, _, rfl⟩
  | retry id userId =>
      rw [step]
      split <;> exact ⟨_, _, rfl⟩
  | dispatch place e =>
      rw [step]
      split
      · exact exists_store_advance σ.studio _ e
      · exact ⟨_, _, rfl⟩
  | report e => exact exists_store_intake σ.intake e

end Traffic

/-! ### A small run -/

/-- Settings under which one image is enough, and a catalog with one base model. -/
def Context.small : Context where
  settings := ⟨"", "", "", "", "", .ofInt 1, "k", 300, "", none, 1, 9, .ofInt 1, 50, .usual⟩
  catalog := ⟨[], [], [], [], [("base", ⟨"base", "Base", "sdxl", 1024, true⟩)]⟩
  now := 7

def Traffic.firstAdmission : List Event :=
  [.plain .small (.createModel "user" "Mia" none true), .plain .small (.initDataset "user" "model-1" 3),
    .plain .small (.validateDataset "dataset-1" "user"), .admission .small "user" "model-1" "dataset-1" "base" .null]

def Webhook.firstCompletion : Webhook :=
  ⟨"job-1", .completed, none, none, some "mia.safetensors", some "c0ffee", some ["front.png"]⟩

/-- A run in which the first job is made, and its completion is reported before the worker was even asked. -/
def Traffic.firstJob : List Event :=
  Traffic.firstAdmission ++
    [.dispatch 0 (.insert .small), .report (.load .firstCompletion), .report (.update 0 (.still 7))]

end PromptStudio
