import PromptStudio.Api.Input
import PromptStudio.Proofs.History.Activity
import PromptStudio.Proofs.Json.Read

/-!
# What is stored of a job

The parameters of a job are an object that stood in the body of a request, so they are what a reader gives. They stay
with the version as they were kept, whatever happens to its job, and are read back wherever values may nest as deep as
they do. The times of a job are written by operations only, so a stored job can always be loaded.
-/

namespace PromptStudio

/-- Parameters that a request for a job brought. -/
def Json.Posted (params : Json) : Prop :=
  ∃ bytes maxDepth body input, Json.ofBytes bytes maxDepth = .ok body ∧ JobInput.reader body = .valid input ∧
    params = .object input.params

/-- An object that some reader reads back inside another one. -/
structure Json.IsParams (params : Json) : Prop where
  object : ∃ members, params = .object members
  fits : ∃ maxDepth, params.Fits (.lenient maxDepth) 1

theorem Json.isParams_empty : (Json.object []).IsParams :=
  ⟨⟨[], rfl⟩, 2, .object (by decide) .nil⟩

theorem Schema.eq_object_of_openObject {v : Json} {members : List (Text × Json)}
    (h : openObject v = .valid members) : v = .object members := by
  cases v with
  | object _ =>
      cases h
      rfl
  | _ => cases h

theorem JobInput.params_of_reader {body : Json} {input : JobInput} (h : reader body = .valid input) :
    input.params = [] ∨
      ∃ members key, body = .object members ∧ Json.find? members key = some (.object input.params) := by
  rw [reader, Schema.record.eq_def] at h
  split at h
  · rename_i members
    obtain ⟨_, params, htoBaseModel, hparams, rfl⟩ := Checked.seq_eq_valid h
    obtain ⟨_, baseModel, htoDataset, -, rfl⟩ := Checked.seq_eq_valid htoBaseModel
    obtain ⟨_, datasetId, htoModel, -, rfl⟩ := Checked.seq_eq_valid htoDataset
    obtain ⟨modelId, -, rfl⟩ := Checked.map_eq_valid htoModel
    rcases Schema.fieldOf_eq_valid hparams with ⟨key, v, hfind, hread⟩ | hnone
    · exact Or.inr ⟨members, key, rfl, Schema.eq_object_of_openObject hread ▸ hfind⟩
    · cases hnone
      exact Or.inl rfl
  · cases h

theorem Json.Posted.isParams {params : Json} (h : params.Posted) : params.IsParams := by
  obtain ⟨bytes, maxDepth, body, input, hbody, hinput, rfl⟩ := h
  rcases JobInput.params_of_reader hinput with hnone | ⟨members, key, rfl, hfind⟩
  · rw [hnone]
    exact isParams_empty
  · exact ⟨⟨_, rfl⟩, maxDepth, (fits_of_ofBytes hbody).of_find? hfind⟩

/-! ### Times that are kept -/

namespace Job

variable {j : Job}

theorem load_eq_ok_iff : j.load = .ok j ↔
    Timestamp.loadOptional j.startedAt = .ok () ∧ Timestamp.loadOptional j.finishedAt = .ok () ∧
      (∃ r, j.createdAt.load = .ok r) ∧ ∃ r, j.updatedAt.load = .ok r := by
  simp only [load, bind_eq_ok, pure_eq_ok]
  constructor
  · rintro ⟨_, hstarted, _, hfinished, created, hcreated, updated, hupdated, -⟩
    exact ⟨hstarted, hfinished, ⟨created, hcreated⟩, updated, hupdated⟩
  · rintro ⟨hstarted, hfinished, ⟨created, hcreated⟩, updated, hupdated⟩
    exact ⟨(), hstarted, (), hfinished, created, hcreated, updated, hupdated, trivial⟩

theorem load_change (h : j.load = .ok j) (u : JobUpdate) (now : Instant) :
    (u.change now j).load = .ok (u.change now j) := by
  obtain ⟨hstarted, hfinished, hcreated, -⟩ := load_eq_ok_iff.mp h
  cases u with
  | failRefused => exact load_eq_ok_iff.mpr ⟨hstarted, rfl, hcreated, _, rfl⟩
  | recordStart => exact load_eq_ok_iff.mpr ⟨rfl, hfinished, hcreated, _, rfl⟩
  | leavePending | recordExternalId | startProcessing =>
      exact load_eq_ok_iff.mpr ⟨hstarted, hfinished, hcreated, _, rfl⟩

theorem load_withReport (h : j.load = .ok j) (w : Webhook) (unstarted : Bool) (times : ReportTimes) :
    (j.withReport w unstarted times).load = .ok (j.withReport w unstarted times) := by
  obtain ⟨hstarted, hfinished, hcreated, -⟩ := load_eq_ok_iff.mp h
  refine load_eq_ok_iff.mpr ⟨?_, ?_, hcreated, _, rfl⟩
  · cases unstarted with
    | false => exact hstarted
    | true => rfl
  · rw [withReport]
    dsimp only
    split
    · rfl
    · exact hfinished

end Job

def Studio.JobsLoad (k : Studio) : Prop :=
  ∀ j ∈ k.store.jobs, j.load = .ok j

theorem Traffic.Moves.jobsLoad {σ : Traffic} {k : Studio} {reports : List Reporting} (hmove : σ.Moves k reports)
    (h : σ.studio.JobsLoad) : k.JobsLoad := by
  intro j hj
  cases hmove with
  | still hstore _ _ =>
      rw [hstore] at hj
      exact h j hj
  | plain c call =>
      rw [(σ.studio.performs_plain c call).sameJobs.jobs] at hj
      exact h j hj
  | @insert _ a _ c =>
      rcases List.mem_append.mp hj with hold | hnew
      · exact h j hold
      · rw [List.mem_singleton.mp hnew]
        rfl
  | write u jobId now =>
      change j ∈ (u.apply jobId now σ.studio.store).jobs at hj
      rw [JobUpdate.apply_eq_updateJob] at hj
      obtain ⟨old, hold, rfl⟩ := Store.mem_updateWhere.mp hj
      split
      · exact Job.load_change (h old hold) u now
      · exact h old hold
  | @report _ w loaded _ _ times =>
      change j ∈ (σ.studio.store.afterReport loaded w times).jobs at hj
      rw [Store.afterReport, Store.writeArtifact_jobs] at hj
      obtain ⟨old, hold, rfl⟩ := Store.mem_updateWhere.mp hj
      split
      · exact Job.load_withReport (h old hold) w _ times
      · exact h old hold

theorem Activity.jobsLoad_run (happenings : List Happening) : (start.run happenings).studio.JobsLoad := by
  have hstart : start.studio.JobsLoad := List.forall_mem_nil _
  refine run_induction (P := fun σ => σ.studio.JobsLoad) ?_ hstart happenings
  intro σ e h
  rcases σ.step_cases e with ⟨event, rfl⟩ | ⟨hwrites, -⟩
  · exact (σ.traffic.moves_step event).jobsLoad h
  · intro j hj
    rw [hwrites.sameTraining.jobs] at hj
    exact h j hj

/-! ### Parameters that are kept -/

/-- Parameters come back from where they are kept as an object that is read back, too. -/
theorem Json.IsParams.joined {params : Json} (h : params.IsParams) : params.joined.IsParams where
  object := by
    obtain ⟨members, rfl⟩ := h.object
    exact ⟨_, joined_object members⟩
  fits := by
    obtain ⟨maxDepth, hfits⟩ := h.fits
    exact ⟨maxDepth, hfits.joined⟩

theorem Admission.isParams_insert {a : Admission} (h : a.params.IsParams) (k : Studio) (c : Context) :
    (a.insert k c).1.version.sentParams.IsParams := by
  have hkept : (a.insert k c).1.version.params = .ofJson (if a.params.isTruthy then a.params else .object []) := rfl
  rw [Version.sentParams, hkept]
  cases htruthy : a.params.isTruthy with
  | false => exact Json.isParams_empty
  | true =>
      obtain ⟨members, hmembers⟩ := h.object
      have hvalue : (JsonColumn.ofJson a.params).value = a.params.joined := by
        rw [hmembers]
        rfl
      rw [if_pos rfl, hvalue]
      split
      · exact h.joined
      · exact Json.isParams_empty

def Happening.Posted : Happening → Prop
  | .training (.admission _ _ _ _ _ params) => params.Posted
  | _ => True

namespace Traffic

/-- All parameters that are kept, and those of jobs that are not made yet, came in. -/
structure Posts (σ : Traffic) : Prop where
  versions : ∀ id v, σ.studio.store.version? id = some v → v.sentParams.IsParams
  admitted : ∀ (place : Nat) a, σ.dispatches[place]? = some (.admitted a) → a.params.IsParams

variable {σ : Traffic}

theorem posts_start : start.Posts where
  versions := by
    intro id v hfound
    cases hfound
  admitted := by
    intro place a hplace
    cases hplace

theorem Posts.step (h : σ.Posts) {e : Event} (he : (Happening.training e).Posted) : (σ.step e).Posts where
  versions := by
    intro id v hfound
    rcases ((σ.moves_step e).follows_version id).of_eq_some hfound with ⟨-, hmakes⟩ | ⟨before, hbefore, hkeeps⟩
    · obtain ⟨place, a, c, hplace, rfl⟩ := hmakes
      exact a.isParams_insert (h.admitted place a hplace) _ c
    · rw [Version.sentParams, hkeeps.params]
      exact h.versions id before hbefore
  admitted := by
    intro place a hplace
    rcases admitted_step hplace with hold | ⟨c, userId, datasetId, rfl, -, -⟩
    · exact h.admitted place a hold
    · exact Json.Posted.isParams he

end Traffic

namespace Activity

variable {σ : Activity}

theorem posts_step (h : σ.traffic.Posts) {e : Happening} (he : e.Posted) : (σ.step e).traffic.Posts := by
  rcases σ.step_cases e with ⟨event, rfl⟩ | ⟨hwrites, htraffic⟩
  · exact h.step he
  · rw [htraffic]
    refine ⟨?_, h.admitted⟩
    intro id v hfound
    change (σ.step e).studio.store.version? id = some v at hfound
    rw [Store.version?, hwrites.sameTraining.versions] at hfound
    exact h.versions id v hfound

/-- Where all parameters come in by requests, every version is sent with parameters that came in. -/
theorem posts_run {happenings : List Happening} (h : ∀ e ∈ happenings, e.Posted) :
    (start.run happenings).traffic.Posts := by
  have hrun (σ : Activity) (hσ : σ.traffic.Posts) : (σ.run happenings).traffic.Posts := by
    induction happenings generalizing σ with
    | nil => exact hσ
    | cons e rest ih =>
        rw [List.forall_mem_cons] at h
        exact ih h.2 (σ.step e) (posts_step hσ h.1)
  exact hrun start Traffic.posts_start

end Activity

end PromptStudio
