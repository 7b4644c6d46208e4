import PromptStudio.Proofs.Training.Traffic

/-!
# Where jobs and versions can go

A job is pending, is processed, and ends. Five statements of a dispatch and the reports of the worker write to it, each
in a step of its own and some of them after a look at the job that is long out of date. What keeps them in order is
that each statement asks the stored job: those that set a status ask whether it is pending, a report asks whether it
is over, and the worker's id of the job is written where there is none. So from one moment of a run to any later one a
job only moves forward, and nothing of its ending changes. A version, in the same way, stays with the dataset that it
was made from, and with its artifact once it has one.
-/

namespace PromptStudio

namespace JobStatus

def leadsTo : JobStatus → JobStatus → Bool
  | pending, processing | pending, completed | pending, failed => true
  | processing, completed | processing, failed => true
  | _, _ => false

def isKnown : JobStatus → Bool
  | other _ => false
  | _ => true

theorem leadsTo_trans {a b c : JobStatus} (hab : a.leadsTo b = true) (hbc : b.leadsTo c = true) :
    a.leadsTo c = true := by
  cases a <;> cases b <;> cases c <;> simp_all [leadsTo]

theorem isKnown_of_leadsTo {a b : JobStatus} (h : a.leadsTo b = true) : b.isKnown = true := by
  cases a <;> cases b <;> simp_all [leadsTo, isKnown]

theorem ofReport_follows {a : JobStatus} (hknown : a.isKnown = true) (hopen : a.isTerminal = false)
    (status : WebhookStatus) : ofReport status = a ∨ a.leadsTo (ofReport status) = true := by
  cases a <;> cases status <;> simp_all [isKnown, isTerminal, ofReport, leadsTo]

end JobStatus

namespace Job

/-- How a job may differ from what it was before: its version is the same, its status moved forward or not at all,
nothing of its ending changed, and an id that the worker gave it stayed. -/
structure Advances (j j' : Job) : Prop where
  versionId : j'.versionId = j.versionId
  status : j'.status = j.status ∨ j.status.leadsTo j'.status = true
  frozen : j.status.isTerminal = true →
    j'.status = j.status ∧ j'.error = j.error ∧ j'.logsUrl = j.logsUrl ∧ j'.finishedAt = j.finishedAt
  externalId : ∀ id, j.externalId = some id → j'.externalId = some id

structure Fresh (j : Job) : Prop where
  status : j.status = .pending
  externalId : j.externalId = none

theorem Advances.refl (j : Job) : j.Advances j :=
  ⟨rfl, Or.inl rfl, fun _ => ⟨rfl, rfl, rfl, rfl⟩, fun _ h => h⟩

theorem Advances.trans {j₁ j₂ j₃ : Job} (h : j₁.Advances j₂) (h' : j₂.Advances j₃) : j₁.Advances j₃ where
  versionId := h'.versionId.trans h.versionId
  status := by
    rcases h.status with hsame | hlead
    · rw [← hsame]
      exact h'.status
    · rcases h'.status with hsame | hlead'
      · rw [hsame]
        exact Or.inr hlead
      · exact Or.inr (JobStatus.leadsTo_trans hlead hlead')
  frozen := by
    intro hterminal
    obtain ⟨hstatus, herror, hlogs, hfinished⟩ := h.frozen hterminal
    obtain ⟨hstatus', herror', hlogs', hfinished'⟩ := h'.frozen (by rw [hstatus]; exact hterminal)
    exact ⟨hstatus'.trans hstatus, herror'.trans herror, hlogs'.trans hlogs, hfinished'.trans hfinished⟩
  externalId := by
    intro id hid
    exact h'.externalId id (h.externalId id hid)

theorem Advances.isKnown {j j' : Job} (h : j.Advances j') (hknown : j.status.isKnown = true) :
    j'.status.isKnown = true := by
  rcases h.status with hsame | hlead
  · rw [hsame]
    exact hknown
  · exact JobStatus.isKnown_of_leadsTo hlead

/-- Of a pending job, a change that keeps its version and its worker's id may set any known status. -/
theorem advances_of_pending {j j' : Job} (hpending : j.status = .pending) (hknown : j'.status.isKnown = true)
    (hversion : j'.versionId = j.versionId) (hid : j'.externalId = j.externalId) : j.Advances j' where
  versionId := hversion
  status := by
    rw [hpending]
    cases hstatus : j'.status with
    | other name =>
        rw [hstatus] at hknown
        cases hknown
    | pending => exact Or.inl rfl
    | _ => exact Or.inr rfl
  frozen := by
    intro hterminal
    rw [hpending] at hterminal
    cases hterminal
  externalId := by
    intro id h
    rw [hid, h]

/-- Each statement of a dispatch moves a job that it picks forward. -/
theorem advances_change {u : JobUpdate} {j : Job} (hholds : u.holds j = true) (now : Instant) :
    j.Advances (u.change now j) := by
  cases u with
  | leavePending error =>
      have hpending : j.status = .pending := beq_iff_eq.mp hholds
      refine advances_of_pending hpending ?_ rfl rfl
      simp only [JobUpdate.change, hpending, JobStatus.isKnown]
  | failRefused error finished => exact advances_of_pending (beq_iff_eq.mp hholds) rfl rfl rfl
  | startProcessing => exact advances_of_pending (beq_iff_eq.mp hholds) rfl rfl rfl
  | recordStart started => exact ⟨rfl, Or.inl rfl, fun _ => ⟨rfl, rfl, rfl, rfl⟩, fun _ h => h⟩
  | recordExternalId externalId =>
      refine ⟨rfl, Or.inl rfl, fun _ => ⟨rfl, rfl, rfl, rfl⟩, ?_⟩
      intro id hid
      have hnone : j.externalId = none := by simpa only [JobUpdate.holds, Option.isNone_iff_eq_none] using hholds
      rw [hnone] at hid
      cases hid

theorem advances_withReport {j : Job} (hknown : j.status.isKnown = true) (hopen : j.status.isTerminal = false)
    (w : Webhook) (unstarted : Bool) (times : ReportTimes) : j.Advances (j.withReport w unstarted times) where
  versionId := rfl
  status := JobStatus.ofReport_follows hknown hopen w.status
  frozen := by
    intro hterminal
    rw [hopen] at hterminal
    cases hterminal
  externalId := fun _ h => h

end Job

namespace Version

/-- How a version may differ from what it was before: it is made from the same dataset with the same parameters, and an
artifact that it had stayed as it was. -/
structure Keeps (v v' : Version) : Prop where
  params : v'.params = v.params
  modelId : v'.modelId = v.modelId
  datasetId : v'.datasetId = v.datasetId
  datasetHash : v'.datasetHash = v.datasetHash
  artifact : v.artifactUrl.isSome = true →
    v'.artifactUrl = v.artifactUrl ∧ v'.checksum = v.checksum ∧ v'.previewImages = v.previewImages

theorem Keeps.refl (v : Version) : v.Keeps v :=
  ⟨rfl, rfl, rfl, rfl, fun _ => ⟨rfl, rfl, rfl⟩⟩

theorem Keeps.trans {v₁ v₂ v₃ : Version} (h : v₁.Keeps v₂) (h' : v₂.Keeps v₃) : v₁.Keeps v₃ where
  params := h'.params.trans h.params
  modelId := h'.modelId.trans h.modelId
  datasetId := h'.datasetId.trans h.datasetId
  datasetHash := h'.datasetHash.trans h.datasetHash
  artifact := by
    intro hartifact
    obtain ⟨hurl, hchecksum, himages⟩ := h.artifact hartifact
    obtain ⟨hurl', hchecksum', himages'⟩ := h'.artifact (by rw [hurl]; exact hartifact)
    exact ⟨hurl'.trans hurl, hchecksum'.trans hchecksum, himages'.trans himages⟩

theorem keeps_withArtifact {v : Version} (hnone : v.artifactUrl.isNone = true) (w : Webhook) (url : Text) :
    v.Keeps (v.withArtifact w url) where
  params := rfl
  modelId := rfl
  datasetId := rfl
  datasetHash := rfl
  artifact := by
    intro hsome
    rw [Option.isNone_iff_eq_none.mp hnone] at hsome
    cases hsome

end Version

/-! ### What a step makes of jobs and versions -/

/-- What is stored stays stored: jobs advance, and versions keep what they have. -/
structure Store.Precedes (s s' : Store) : Prop where
  jobs : ∀ id j, s.job? id = some j → ∃ j', s'.job? id = some j' ∧ j.Advances j'
  versions : ∀ id v, s.version? id = some v → ∃ v', s'.version? id = some v' ∧ v.Keeps v'

namespace Store.Precedes

variable {s₁ s₂ s₃ : Store}

theorem refl (s : Store) : s.Precedes s where
  jobs := by
    intro id j hfound
    exact ⟨j, hfound, .refl j⟩
  versions := by
    intro id v hfound
    exact ⟨v, hfound, .refl v⟩

theorem trans (h : s₁.Precedes s₂) (h' : s₂.Precedes s₃) : s₁.Precedes s₃ where
  jobs := by
    intro id j hfound
    obtain ⟨j₂, hfound₂, hfirst⟩ := h.jobs id j hfound
    obtain ⟨j₃, hfound₃, hrest⟩ := h'.jobs id j₂ hfound₂
    exact ⟨j₃, hfound₃, hfirst.trans hrest⟩
  versions := by
    intro id v hfound
    obtain ⟨v₂, hfound₂, hfirst⟩ := h.versions id v hfound
    obtain ⟨v₃, hfound₃, hrest⟩ := h'.versions id v₂ hfound₂
    exact ⟨v₃, hfound₃, hfirst.trans hrest⟩

end Store.Precedes

namespace Traffic

variable {σ : Traffic} {k : Studio} {reports : List Reporting}

/-- Every stored job has a status that operations set. -/
def StatusesKnown (σ : Traffic) : Prop :=
  ∀ id j, σ.studio.store.job? id = some j → j.status.isKnown = true

theorem Moves.follows_job (hmove : σ.Moves k reports) (hknown : σ.StatusesKnown) (id : Text) :
    Store.Follows Job.Fresh Job.Advances (σ.studio.store.job? id) (k.store.job? id) := by
  cases hmove with
  | still hstore _ _ =>
      rw [hstore]
      exact .refl Job.Advances.refl _
  | plain c call =>
      have hjobs := (σ.studio.performs_plain c call).sameJobs.jobs
      rw [Store.job?, Store.job?, hjobs]
      exact .refl Job.Advances.refl _
  | @insert _ a _ c =>
      have hfresh : (a.insert σ.studio c).1.job.Fresh := ⟨rfl, rfl⟩
      exact Store.follows_append Job.Advances.refl hfresh _ σ.studio.store.jobs
  | write u jobId now =>
      change Store.Follows _ _ _ ((u.apply jobId now σ.studio.store).job? id)
      rw [JobUpdate.apply_eq_updateJob]
      refine Store.follows_updateWhere Job.id id Job.Advances.refl (u.change_id now) ?_
      intro j _ hpick
      rw [Bool.and_eq_true] at hpick
      exact Job.advances_change hpick.2 now
  | @report _ w loaded _ _ times =>
      change Store.Follows _ _ _ ((σ.studio.store.afterReport loaded w times).job? id)
      rw [Store.afterReport, Store.job?_writeArtifact]
      refine Store.follows_updateWhere Job.id id Job.Advances.refl (fun _ => rfl) ?_
      intro j hfound hpick
      rw [Bool.and_eq_true, Bool.not_eq_true'] at hpick
      exact Job.advances_withReport (hknown id j hfound) hpick.2 w loaded.startedAt.isNone times

/-- The version that an admission makes now. -/
def Makes (σ : Traffic) (v : Version) : Prop :=
  ∃ (place : Nat) (a : Admission) (c : Context),
    σ.dispatches[place]? = some (.admitted a) ∧ v = (a.insert σ.studio c).1.version

theorem Moves.follows_version (hmove : σ.Moves k reports) (id : Text) :
    Store.Follows σ.Makes Version.Keeps (σ.studio.store.version? id) (k.store.version? id) := by
  cases hmove with
  | still hstore _ _ =>
      rw [hstore]
      exact .refl Version.Keeps.refl _
  | plain c call =>
      have hversions := (σ.studio.performs_plain c call).sameJobs.versions
      rw [Store.version?, Store.version?, hversions]
      exact .refl Version.Keeps.refl _
  | @insert place a hplace c =>
      have hmakes : σ.Makes (a.insert σ.studio c).1.version := ⟨place, a, c, hplace, rfl⟩
      exact Store.follows_append Version.Keeps.refl hmakes _ σ.studio.store.versions
  | write u jobId now =>
      change Store.Follows _ _ _ ((u.apply jobId now σ.studio.store).version? id)
      rw [Store.version?, Store.version?, JobUpdate.apply_versions]
      exact .refl Version.Keeps.refl _
  | @report _ w loaded _ _ times =>
      change Store.Follows _ _ _ ((σ.studio.store.afterReport loaded w times).version? id)
      rw [Store.version?, Store.version?, Store.versions_afterReport]
      cases w.artifact? with
      | none => exact .refl Version.Keeps.refl _
      | some url =>
          refine Store.follows_updateWhere Version.id id Version.Keeps.refl (fun _ => rfl) ?_
          intro v _ hpick
          rw [Bool.and_eq_true] at hpick
          exact Version.keeps_withArtifact hpick.2 w url

theorem Moves.precedes (hmove : σ.Moves k reports) (hknown : σ.StatusesKnown) :
    σ.studio.store.Precedes k.store where
  jobs := by
    intro id j hfound
    exact (hmove.follows_job hknown id).exists_of_eq_some hfound
  versions := by
    intro id v hfound
    exact (hmove.follows_version id).exists_of_eq_some hfound

theorem statusesKnown_start : start.StatusesKnown := by
  intro id j hfound
  cases hfound

theorem StatusesKnown.step (h : σ.StatusesKnown) (e : Event) : (σ.step e).StatusesKnown := by
  intro id j hfound
  rcases ((σ.moves_step e).follows_job h id).of_eq_some hfound with ⟨_, hfresh⟩ | ⟨before, hbefore, hadvances⟩
  · rw [hfresh.status]
    rfl
  · exact hadvances.isKnown (h id before hbefore)

theorem StatusesKnown.run (h : σ.StatusesKnown) (events : List Event) : (σ.run events).StatusesKnown :=
  run_induction (fun _ e hknown => hknown.step e) h events

/-- From any moment of a run to a later one, what is stored stays stored. -/
theorem StatusesKnown.precedes_run (h : σ.StatusesKnown) (events : List Event) :
    σ.studio.store.Precedes (σ.run events).studio.store := by
  induction events generalizing σ with
  | nil => exact .refl _
  | cons e rest ih => exact ((σ.moves_step e).precedes h).trans (ih (h.step e))

end Traffic

/-! ### Jobs only move forward -/

/-- In every run, whatever dispatches, retries and reports do at the same time: a job starts out pending and without an
id of the worker. From any moment on, its status is the same or lies ahead; once it is over, its status, error, logs and
end stay as they are; and an id of the worker, once written, stays, too. -/
theorem jobs_only_move_forward (events : List Event) (id : Text) :
    (∀ e j, (Traffic.start.run events).studio.store.job? id = none →
      ((Traffic.start.run events).step e).studio.store.job? id = some j →
      j.status = .pending ∧ j.externalId = none) ∧
    ∀ more j, (Traffic.start.run events).studio.store.job? id = some j →
      ∃ j', ((Traffic.start.run events).run more).studio.store.job? id = some j' ∧
        (j'.status = j.status ∨ j.status.leadsTo j'.status = true) ∧
        (j.status.isTerminal = true →
          j'.status = j.status ∧ j'.error = j.error ∧ j'.logsUrl = j.logsUrl ∧ j'.finishedAt = j.finishedAt) ∧
        ∀ externalId, j.externalId = some externalId → j'.externalId = some externalId := by
  have hknown := Traffic.statusesKnown_start.run events
  constructor
  · intro e j hbefore hafter
    have hfollows := ((Traffic.start.run events).moves_step e).follows_job hknown id
    rcases hfollows.of_eq_some hafter with ⟨_, hfresh⟩ | ⟨_, hfound, _⟩
    · exact ⟨hfresh.status, hfresh.externalId⟩
    · rw [hbefore] at hfound
      cases hfound
  · intro more j hfound
    obtain ⟨j', hfound', hadvances⟩ := (hknown.precedes_run more).jobs id j hfound
    exact ⟨j', hfound', hadvances.status, hadvances.frozen, hadvances.externalId⟩

/-- The first job is pending when it is made; and once it is completed, no statement of its dispatch, which is still to
come, changes its ending. -/
theorem first_job_only_moves_forward :
    (∃ j, ((Traffic.start.run Traffic.firstAdmission).step (.dispatch 0 (.insert .small))).studio.store.job? "job-1"
      = some j ∧ j.status = .pending ∧ j.externalId = none) ∧
    ∃ j, (Traffic.start.run Traffic.firstJob).studio.store.job? "job-1" = some j ∧ j.status = .completed ∧
      ∀ more, ∃ j', ((Traffic.start.run Traffic.firstJob).run more).studio.store.job? "job-1" = some j' ∧
        j'.status = .completed ∧ j'.error = j.error ∧ j'.logsUrl = j.logsUrl ∧ j'.finishedAt = j.finishedAt := by
  constructor
  · have hbefore : (Traffic.start.run Traffic.firstAdmission).studio.store.job? "job-1" = none := by decide +kernel
    have hmade : (((Traffic.start.run Traffic.firstAdmission).step
        (.dispatch 0 (.insert .small))).studio.store.job? "job-1").isSome = true := by decide +kernel
    obtain ⟨j, hafter⟩ := Option.isSome_iff_exists.mp hmade
    exact ⟨j, hafter, (jobs_only_move_forward Traffic.firstAdmission "job-1").1 _ j hbefore hafter⟩
  · have hover : ((Traffic.start.run Traffic.firstJob).studio.store.job? "job-1").map (·.status) = some .completed := by
      decide +kernel
    obtain ⟨j, hfound, hcompleted⟩ := Option.map_eq_some_iff.mp hover
    refine ⟨j, hfound, hcompleted, ?_⟩
    intro more
    obtain ⟨j', hfound', _, hfrozen, _⟩ := (jobs_only_move_forward Traffic.firstJob "job-1").2 more j hfound
    obtain ⟨hstatus, hending⟩ := hfrozen (by rw [hcompleted]; rfl)
    exact ⟨j', hfound', hstatus.trans hcompleted, hending⟩

end PromptStudio
