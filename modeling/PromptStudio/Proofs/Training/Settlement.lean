import PromptStudio.Proofs.Training.Report

/-!
# The writes of a dispatch

What comes of a dispatch is written to the job by up to three updates, and each of them is a statement of its own:
between two of them anything may happen to the job. This module takes a dispatch apart into its updates. Every update
has a condition on the stored job and a change of it, and neither looks at what was loaded before.
-/

namespace PromptStudio

/-- One statement by which a dispatch changes its job. -/
inductive JobUpdate where
  | leavePending (error : Text)
  | failRefused (error : Text) (finished : Instant)
  | recordExternalId (externalId : Option Text)
  | recordStart (started : Instant)
  | startProcessing

namespace JobUpdate

def apply (u : JobUpdate) (jobId : Text) (now : Instant) (s : Store) : Store :=
  match u with
  | leavePending error => s.leavePending jobId error now
  | failRefused error finished => s.failRefused jobId error finished now
  | recordExternalId externalId => s.recordExternalId jobId externalId now
  | recordStart started => s.recordStart jobId started now
  | startProcessing => s.startProcessing jobId now

def holds : JobUpdate → Job → Bool
  | leavePending _, j | failRefused _ _, j | startProcessing, j => j.status == .pending
  | recordExternalId _, j => j.externalId.isNone
  | recordStart _, j => j.startedAt.isNone

def change (u : JobUpdate) (now : Instant) (j : Job) : Job :=
  match u with
  | leavePending error => { j with error := some error, updatedAt := .instant now }
  | failRefused error finished =>
    { j with status := .failed, error := some error, finishedAt := some (.instant finished), updatedAt := .instant now }
  | recordExternalId externalId => { j with externalId, updatedAt := .instant now }
  | recordStart started => { j with startedAt := some (.instant started), updatedAt := .instant now }
  | startProcessing => { j with status := .processing, error := none, updatedAt := .instant now }

theorem apply_eq_updateJob (u : JobUpdate) (jobId : Text) (now : Instant) (s : Store) :
    u.apply jobId now s = s.updateJob jobId u.holds (u.change now) := by
  cases u <;> rfl

@[simp] theorem change_id (u : JobUpdate) (now : Instant) (j : Job) : (u.change now j).id = j.id := by
  cases u <;> rfl

@[simp] theorem change_versionId (u : JobUpdate) (now : Instant) (j : Job) :
    (u.change now j).versionId = j.versionId := by
  cases u <;> rfl

variable (u : JobUpdate) (jobId : Text) (now : Instant) (s : Store)

/-- A statement changes the job that it is about, if that is as the statement asks. -/
theorem job?_apply (key : Text) :
    (u.apply jobId now s).job? key
      = (s.job? key).map fun j => if j.id == jobId && u.holds j then u.change now j else j := by
  rw [apply_eq_updateJob]
  exact Store.job?_updateJob s jobId u.holds (u.change now) (u.change_id now) key

/-! ### What stays -/

@[simp] theorem apply_models : (u.apply jobId now s).models = s.models := by
  rw [apply_eq_updateJob]
  rfl

@[simp] theorem apply_datasets : (u.apply jobId now s).datasets = s.datasets := by
  rw [apply_eq_updateJob]
  rfl

@[simp] theorem apply_versions : (u.apply jobId now s).versions = s.versions := by
  rw [apply_eq_updateJob]
  rfl

theorem jobIds_apply : (u.apply jobId now s).jobs.map (·.id) = s.jobs.map (·.id) := by
  rw [apply_eq_updateJob]
  exact Store.map_updateWhere Job.id _ _ (change_id u now) s.jobs

theorem jobVersionIds_apply : (u.apply jobId now s).jobs.map (·.versionId) = s.jobs.map (·.versionId) := by
  rw [apply_eq_updateJob]
  exact Store.map_updateWhere Job.versionId _ _ (change_versionId u now) s.jobs

/-! ### One statement after the other -/

/-- What statements make of the job, one after the other. -/
def settled (us : List JobUpdate) (now : Instant) (j : Job) : Job :=
  us.foldl (fun j u => if u.holds j then u.change now j else j) j

theorem settled_id_versionId (us : List JobUpdate) (now : Instant) (j : Job) :
    (settled us now j).id = j.id ∧ (settled us now j).versionId = j.versionId := by
  induction us generalizing j with
  | nil => exact ⟨rfl, rfl⟩
  | cons u rest ih =>
      obtain ⟨hid, hversion⟩ := ih (if u.holds j then u.change now j else j)
      rw [settled, List.foldl_cons]
      refine ⟨hid.trans ?_, hversion.trans ?_⟩
      · split
        · exact u.change_id now j
        · rfl
      · split
        · exact u.change_versionId now j
        · rfl

theorem foldl_apply (us : List JobUpdate) (jobId : Text) (now : Instant) (s : Store) :
    us.foldl (fun s u => u.apply jobId now s) s
      = { s with jobs := Store.updateWhere (·.id == jobId) (settled us now) s.jobs } := by
  induction us generalizing s with
  | nil =>
      have hsame : Store.updateWhere (·.id == jobId) (settled [] now) s.jobs = s.jobs := by
        rw [Store.updateWhere]
        exact (List.map_congr_left fun j _ => ite_self j).trans (List.map_id s.jobs)
      rw [hsame]
      rfl
  | cons u rest ih =>
      rw [List.foldl_cons, ih, apply_eq_updateJob, Store.updateJob, Store.updateWhere, Store.updateWhere,
        Store.updateWhere, List.map_map]
      refine congrArg (fun jobs => { s with jobs }) (List.map_congr_left ?_)
      intro j _
      by_cases hid : j.id = jobId
      · by_cases hholds : u.holds j = true
        · simp [hid, hholds, settled]
        · simp [hid, hholds, settled]
      · simp [hid]

end JobUpdate

/-- The statements that follow what the worker said, in their order. -/
def Store.settlement (acceptance : Except Failure (Option Text)) (now : Instant) : List JobUpdate :=
  match acceptance with
  | .error (.refused cause) =>
    match cause.code with
    | .workerRejected => if cause.message.isEncodable then [.failRefused cause.message now] else []
    | .workerUnavailable => [.leavePending Store.unreachableError]
    | _ => []
  | .error _ => []
  | .ok externalId =>
    if externalId.all Text.isEncodable then [.recordExternalId externalId, .recordStart now, .startProcessing] else []

/-- To settle a dispatch is to make its statements one after the other. -/
theorem Store.settle_eq_foldl (s : Store) (jobId : Text) (acceptance : Except Failure (Option Text)) (now : Instant) :
    (s.settle jobId acceptance now).2
      = (Store.settlement acceptance now).foldl (fun s u => u.apply jobId now s) s := by
  cases acceptance with
  | error failure =>
      cases failure with
      | fault fault => rfl
      | invalid issues => rfl
      | refused cause =>
          simp only [Store.settle, Store.settlement]
          cases cause.code with
          | workerRejected => by_cases hencodable : cause.message.isEncodable <;> simp [hencodable, JobUpdate.apply]
          | _ => rfl
  | ok externalId =>
      simp only [Store.settle, Store.settlement]
      split
      · rfl
      · rfl

theorem Store.job?_settle (s : Store) (jobId : Text) (acceptance : Except Failure (Option Text)) (now : Instant)
    (key : Text) :
    ((s.settle jobId acceptance now).2).job? key
      = (s.job? key).map fun j =>
          if j.id == jobId then JobUpdate.settled (settlement acceptance now) now j else j := by
  rw [settle_eq_foldl, JobUpdate.foldl_apply]
  exact find?_updateWhere Job.id (·.id == jobId) _ (fun j => (JobUpdate.settled_id_versionId _ now j).1) s.jobs key

end PromptStudio
