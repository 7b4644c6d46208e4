import PromptStudio.Proofs.Store.Load
import PromptStudio.Training.Delivery

/-!
# What a report does to the store

The second step of a report either leaves the store alone or writes two rows: the job that still takes a report, and,
if the report brings an artifact, the version that has none. Which of the two happens hangs on the store of that moment
alone, not on the job that was loaded before. The lemmas here are all that later proofs use of the step.
-/

namespace PromptStudio

theorem Text.bindAll_eq_error {ts : List Text} {fault : Fault} (h : Text.bindAll ts = .error fault) :
    fault = .unencodableText := by
  rw [Text.bindAll] at h
  split at h
  · cases h
  · exact (Except.error.inj h).symm

theorem JobStatus.isTerminal_ofReport (status : WebhookStatus) :
    (JobStatus.ofReport status).isTerminal = status.isTerminal := by
  cases status <;> rfl

theorem JobStatus.ofReport_ne_pending (status : WebhookStatus) : ofReport status ≠ pending := by
  cases status <;> exact nofun

namespace Store

variable {s : Store} {loaded : Job} {w : Webhook} {times : ReportTimes}

/-! ### Jobs and versions that are changed -/

theorem job?_updateJob (s : Store) (id : Text) (holds : Job → Bool) (change : Job → Job)
    (hid : ∀ j, (change j).id = j.id) (key : Text) :
    (s.updateJob id holds change).job? key
      = (s.job? key).map fun j => if j.id == id && holds j then change j else j :=
  find?_updateWhere Job.id (fun j => j.id == id && holds j) change hid s.jobs key

theorem id_of_job? {id : Text} {j : Job} (h : s.job? id = some j) : j.id = id := by
  simpa using List.find?_some h

theorem id_of_version? {id : Text} {v : Version} (h : s.version? id = some v) : v.id = id := by
  simpa using List.find?_some h

theorem id_of_dataset? {id : Text} {d : Dataset} (h : s.dataset? id = some d) : d.id = id := by
  simpa using List.find?_some h

theorem mem_of_job? {id : Text} {j : Job} (h : s.job? id = some j) : j ∈ s.jobs :=
  List.mem_of_find?_eq_some h

theorem mem_of_version? {id : Text} {v : Version} (h : s.version? id = some v) : v ∈ s.versions :=
  List.mem_of_find?_eq_some h

/-! ### The two writes of a report -/

@[simp] theorem writeArtifact_jobs {versionId : Text} : (s.writeArtifact versionId w).jobs = s.jobs := by
  rw [writeArtifact]
  split <;> rfl

theorem job?_writeReport {unstarted : Bool} (key : Text) :
    (s.writeReport w unstarted times).job? key
      = (s.job? key).map fun j =>
          if j.id == w.jobId && !j.status.isTerminal then j.withReport w unstarted times else j :=
  job?_updateJob s w.jobId (!·.status.isTerminal) (Job.withReport w unstarted times) (fun _ => rfl) key

@[simp] theorem job?_writeArtifact {versionId : Text} (key : Text) :
    (s.writeArtifact versionId w).job? key = s.job? key := by
  rw [job?, job?, writeArtifact_jobs]

theorem takesReport_iff {id : Text} :
    s.takesReport id = true ↔ ∃ j ∈ s.jobs, j.id = id ∧ j.status.isTerminal = false := by
  simp only [takesReport, List.any_eq_true, Bool.and_eq_true, beq_iff_eq, Bool.not_eq_true']

/-- With one row to an id, a job takes a report exactly while the row of its id is not over. -/
theorem takesReport_eq_of_job? (hkeys : (s.jobs.map (·.id)).Nodup) {id : Text} {j : Job}
    (hjob : s.job? id = some j) : s.takesReport id = !j.status.isTerminal := by
  rw [Bool.eq_iff_iff, takesReport_iff, Bool.not_eq_true']
  constructor
  · rintro ⟨other, hother, hid, hopen⟩
    have hfound : s.job? id = some other := (find?_eq_some_iff_mem hkeys).mpr ⟨hother, hid⟩
    rw [hjob, Option.some.injEq] at hfound
    rw [hfound]
    exact hopen
  · intro hopen
    exact ⟨j, mem_of_job? hjob, id_of_job? hjob, hopen⟩

/-! ### The step as a whole -/

def afterReport (s : Store) (loaded : Job) (w : Webhook) (times : ReportTimes) : Store :=
  (s.writeReport w loaded.startedAt.isNone times).writeArtifact loaded.versionId w

/-- A job that is over takes no report: nothing is written, and the answer says so, unless the report holds a text
that cannot even be handed over. -/
theorem finishReport_of_not_takes (loaded : Job) (times : ReportTimes) (htakes : s.takesReport w.jobId = false) :
    (s.finishReport loaded w times).2 = s ∧
      ((s.finishReport loaded w times).1 = .ok ⟨loaded.id, false, false⟩ ∨
        Text.bindAll w.jobTexts = .error .unencodableText ∧
          (s.finishReport loaded w times).1 = .error (.fault .unencodableText)) := by
  rw [finishReport]
  split
  · exact ⟨rfl, Or.inl rfl⟩
  · rw [updateByReport]
    cases htexts : Text.bindAll w.jobTexts with
    | error fault =>
        rw [Text.bindAll_eq_error htexts]
        exact ⟨rfl, Or.inr ⟨rfl, rfl⟩⟩
    | ok _ =>
        rw [htakes]
        exact ⟨rfl, Or.inl rfl⟩

/-- A report is not applied and changes nothing, or its job took it and both its rows are written. -/
theorem finishReport_cases (s : Store) (loaded : Job) (w : Webhook) (times : ReportTimes) :
    ((s.finishReport loaded w times).2 = s ∧
        ∀ r, (s.finishReport loaded w times).1 = .ok r → r.applied = false) ∨
      (s.takesReport w.jobId = true ∧
        s.finishReport loaded w times
          = (.ok ⟨loaded.id, true, w.artifact?.isSome && s.takesArtifact loaded.versionId⟩,
              s.afterReport loaded w times)) := by
  cases htakes : s.takesReport w.jobId with
  | false =>
      left
      obtain ⟨hstore, hanswer⟩ := finishReport_of_not_takes loaded times htakes
      refine ⟨hstore, ?_⟩
      intro r hr
      rcases hanswer with hanswer | ⟨_, hanswer⟩
      · rw [hanswer] at hr
        cases hr
        rfl
      · rw [hanswer] at hr
        cases hr
  | true =>
      rw [finishReport]
      split
      · left
        refine ⟨rfl, ?_⟩
        intro r hr
        cases hr
        rfl
      · rw [updateByReport]
        cases Text.bindAll w.jobTexts with
        | error fault =>
            left
            refine ⟨rfl, ?_⟩
            intro r hr
            cases hr
        | ok _ =>
            rw [htakes]
            cases Text.bindAll w.artifactTexts with
            | error fault =>
                left
                refine ⟨rfl, ?_⟩
                intro r hr
                cases hr
            | ok _ =>
                right
                exact ⟨rfl, rfl⟩

theorem exists_afterReport (s : Store) (loaded : Job) (w : Webhook) (times : ReportTimes) :
    ∃ versions jobs, s.afterReport loaded w times = { s with versions, jobs } := by
  rw [afterReport, writeArtifact]
  split
  · exact ⟨_, _, rfl⟩
  · exact ⟨_, _, rfl⟩

@[simp] theorem afterReport_models : (s.afterReport loaded w times).models = s.models := by
  obtain ⟨_, _, heq⟩ := s.exists_afterReport loaded w times
  rw [heq]

@[simp] theorem afterReport_datasets : (s.afterReport loaded w times).datasets = s.datasets := by
  obtain ⟨_, _, heq⟩ := s.exists_afterReport loaded w times
  rw [heq]

/-- The step of a report moves no row to another place, and gives none another id. -/
theorem jobIds_afterReport : (s.afterReport loaded w times).jobs.map (·.id) = s.jobs.map (·.id) := by
  rw [afterReport, writeArtifact_jobs]
  exact map_updateWhere Job.id _ (Job.withReport w loaded.startedAt.isNone times) (fun _ => rfl) s.jobs

theorem jobVersionIds_afterReport :
    (s.afterReport loaded w times).jobs.map (·.versionId) = s.jobs.map (·.versionId) := by
  rw [afterReport, writeArtifact_jobs]
  exact map_updateWhere Job.versionId _ (Job.withReport w loaded.startedAt.isNone times) (fun _ => rfl) s.jobs

theorem versionIds_afterReport : (s.afterReport loaded w times).versions.map (·.id) = s.versions.map (·.id) := by
  rw [afterReport, writeArtifact]
  split
  · rename_i url _
    exact map_updateWhere Version.id _ (Version.withArtifact w url) (fun _ => rfl) s.versions
  · rfl

theorem job?_afterReport (key : Text) :
    (s.afterReport loaded w times).job? key
      = (s.job? key).map fun j =>
          if j.id == w.jobId && !j.status.isTerminal then j.withReport w loaded.startedAt.isNone times else j := by
  rw [afterReport, job?_writeArtifact, job?_writeReport]

theorem versions_afterReport :
    (s.afterReport loaded w times).versions
      = match w.artifact? with
        | some url =>
          updateWhere (fun v => v.id == loaded.versionId && v.artifactUrl.isNone) (Version.withArtifact w url)
            s.versions
        | none => s.versions := by
  rw [afterReport, writeArtifact]
  cases w.artifact? with
  | none => rfl
  | some url => rfl

theorem job?_afterReport_of_open {stored : Job} (hstored : s.job? w.jobId = some stored)
    (hopen : stored.status.isTerminal = false) :
    (s.afterReport loaded w times).job? w.jobId = some (stored.withReport w loaded.startedAt.isNone times) := by
  rw [job?_afterReport, hstored, Option.map_some, id_of_job? hstored, hopen]
  simp only [beq_self_eq_true, Bool.not_false, Bool.and_self, if_true]

theorem takesArtifact_of_version? {id : Text} {v : Version} (hversion : s.version? id = some v)
    (hnone : v.artifactUrl = none) : s.takesArtifact id = true := by
  rw [takesArtifact, List.any_eq_true]
  refine ⟨v, mem_of_version? hversion, ?_⟩
  simp only [id_of_version? hversion, hnone, beq_self_eq_true, Option.isNone_none, Bool.and_self]

theorem version?_afterReport_of_none {v : Version} (hversion : s.version? loaded.versionId = some v)
    (hnone : v.artifactUrl = none) {url : Text} (hurl : w.artifact? = some url) :
    (s.afterReport loaded w times).version? loaded.versionId = some (v.withArtifact w url) := by
  rw [version?, versions_afterReport, hurl]
  dsimp only
  rw [find?_updateWhere Version.id _ (Version.withArtifact w url) (fun _ => rfl)]
  change (s.version? loaded.versionId).map _ = _
  rw [hversion, Option.map_some, id_of_version? hversion, hnone]
  simp only [beq_self_eq_true, Option.isNone_none, Bool.and_self, if_true]

theorem version?_of_afterReport {id : Text} {v : Version}
    (h : (s.afterReport loaded w times).version? id = some v) :
    s.version? id = some v ∨ (id = loaded.versionId ∧ ∃ url, w.artifact? = some url) := by
  rw [version?, versions_afterReport] at h
  split at h
  · rename_i url hurl
    rw [find?_updateWhere Version.id _ (Version.withArtifact w url) (fun _ => rfl), Option.map_eq_some_iff] at h
    obtain ⟨before, hbefore, hchange⟩ := h
    have hid : before.id = id := id_of_version? hbefore
    split at hchange
    · rename_i hpick
      rw [Bool.and_eq_true, beq_iff_eq, hid] at hpick
      exact Or.inr ⟨hpick.1, url, hurl⟩
    · rw [hchange] at hbefore
      exact Or.inl hbefore
  · exact Or.inl h

end Store

end PromptStudio
