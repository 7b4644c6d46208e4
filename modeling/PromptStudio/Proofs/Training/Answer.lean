import PromptStudio.Proofs.Api.Errors
import PromptStudio.Proofs.Training.Acceptance
import PromptStudio.Proofs.Training.Artifact

/-!
# What a job is answered with

A call that asks the worker holds the rows of its job and of its version while reports arrive beside it. The job is read
again before the call ends; the version is not. So the job in the answer is the stored one, and the version is the one
that was sent: it is the stored one, too, unless a report completed the job meanwhile and brought the artifact.

`Store.Reported` carries this through the reports and the statements of a dispatch. What makes it hold is that a job has
a version of its own: the reports on other jobs leave this version alone.
-/

namespace PromptStudio

/-- What reports make of a version: it stays as it was, or one of them completed the job and brought its artifact. -/
inductive Version.Reported (reports : List Webhook) (job : Job) (version : Version) : Version → Prop
  | same : Reported reports job version version
  | artifact {w : Webhook} {url : Text} (hmem : w ∈ reports) (hjob : w.jobId = job.id) (hurl : w.artifact? = some url)
      (hcompleted : job.status = .completed) : Reported reports job version (version.withArtifact w url)

namespace Version.Reported

variable {reports more : List Webhook} {job : Job} {version v : Version}

theorem mono (h : Reported reports job version v) (hmore : ∀ w ∈ reports, w ∈ more) : Reported more job version v := by
  cases h with
  | same => exact .same
  | artifact hmem hjob hurl hcompleted => exact .artifact (hmore _ hmem) hjob hurl hcompleted

theorem advances (h : Reported reports job version v) {later : Job} (hid : later.id = job.id)
    (hadvances : job.Advances later) : Reported reports later version v := by
  cases h with
  | same => exact .same
  | artifact hmem hjob hurl hcompleted =>
      have hfrozen := (hadvances.frozen (by rw [hcompleted]; rfl)).1
      exact .artifact hmem (hjob.trans hid.symm) hurl (hfrozen.trans hcompleted)

theorem eq_of_open (h : Reported reports job version v) (hopen : job.status.isTerminal = false) : v = version := by
  cases h with
  | same => rfl
  | artifact _ _ _ hcompleted =>
      rw [hcompleted] at hopen
      cases hopen

end Version.Reported

namespace Store

variable {s : Store} {jobId : Text} {version : Version} {reports : List Webhook}

structure Reported (s : Store) (jobId : Text) (version : Version) (reports : List Webhook) : Prop where
  jobIds : (s.jobs.map (·.id)).Nodup
  versionIds : (s.jobs.map (·.versionId)).Nodup
  rows : ∃ j v, s.job? jobId = some j ∧ j.versionId = version.id ∧ s.version? version.id = some v ∧
    version.Reported reports j v

/-- A report leaves the store alone, or it is applied to the stored job, which is not over. -/
theorem handleWebhook_cases (hkeys : (s.jobs.map (·.id)).Nodup) (w : Webhook) (times : ReportTimes) :
    (s.handleWebhook w times).2 = s ∨
      ∃ loaded, s.job? w.jobId = some loaded ∧ loaded.status.isTerminal = false ∧
        (s.handleWebhook w times).2 = s.afterReport loaded w times := by
  rw [handleWebhook]
  split
  · exact .inl rfl
  · rename_i loaded hload
    have hloaded := loadForReport_eq_ok hload
    rcases finishReport_cases s loaded w times with ⟨hsame, -⟩ | ⟨htakes, hfinish⟩
    · exact .inl hsame
    · rw [takesReport_eq_of_job? hkeys hloaded, Bool.not_eq_true'] at htakes
      exact .inr ⟨loaded, hloaded, htakes, congrArg Prod.snd hfinish⟩

theorem version?_afterReport_of_ne {loaded : Job} {w : Webhook} {times : ReportTimes} {id : Text}
    (hne : id ≠ loaded.versionId) : (s.afterReport loaded w times).version? id = s.version? id := by
  rw [version?, versions_afterReport]
  split
  · rename_i url _
    rw [find?_updateWhere Version.id _ (Version.withArtifact w url) (fun _ => rfl)]
    change (s.version? id).map _ = _
    cases hfound : s.version? id with
    | none => rfl
    | some v => simp [id_of_version? hfound, hne]
  · rfl

theorem version?_afterReport_of_artifact?_eq_none {loaded : Job} {w : Webhook} {times : ReportTimes}
    (hnone : w.artifact? = none) (id : Text) : (s.afterReport loaded w times).version? id = s.version? id := by
  rw [version?, versions_afterReport, hnone]
  rfl

namespace Reported

theorem mono (h : s.Reported jobId version reports) {more : List Webhook} (hmore : ∀ w ∈ reports, w ∈ more) :
    s.Reported jobId version more where
  jobIds := h.jobIds
  versionIds := h.versionIds
  rows := by
    obtain ⟨j, v, hjob, hpair, hversion, hreported⟩ := h.rows
    exact ⟨j, v, hjob, hpair, hversion, hreported.mono hmore⟩

theorem handleWebhook (h : s.Reported jobId version reports) (hnone : version.artifactUrl = none) (w : Webhook)
    (times : ReportTimes) : ((s.handleWebhook w times).2).Reported jobId version (reports ++ [w]) := by
  rcases handleWebhook_cases h.jobIds w times with hsame | ⟨loaded, hloaded, hopen, hafter⟩
  · rw [hsame]
    exact h.mono fun _ hw => List.mem_append_left _ hw
  · rw [hafter]
    refine ⟨by rw [jobIds_afterReport]; exact h.jobIds, by rw [jobVersionIds_afterReport]; exact h.versionIds, ?_⟩
    obtain ⟨j, v, hjob, hpair, hversion, hreported⟩ := h.rows
    by_cases hid : w.jobId = jobId
    · subst hid
      rw [hjob, Option.some.injEq] at hloaded
      subst hloaded
      obtain rfl := hreported.eq_of_open hopen
      refine ⟨j.withReport w j.startedAt.isNone times, ?_⟩
      cases hurl : w.artifact? with
      | none =>
          refine ⟨v, job?_afterReport_of_open hjob hopen, hpair, ?_, .same⟩
          rw [version?_afterReport_of_artifact?_eq_none hurl]
          exact hversion
      | some url =>
          refine ⟨v.withArtifact w url, job?_afterReport_of_open hjob hopen, hpair, ?_,
            .artifact (List.mem_append_right _ (List.mem_singleton_self w)) (id_of_job? hjob).symm hurl ?_⟩
          · rw [← hpair] at hversion ⊢
            exact version?_afterReport_of_none hversion hnone hurl
          · rw [Job.withReport, Webhook.status_of_artifact? hurl]
            rfl
    · -- A report on another job finds another version.
      have hother : version.id ≠ loaded.versionId := by
        intro heq
        have hsame : j = loaded :=
          List.inj_on_of_nodup_map h.versionIds (mem_of_job? hjob) (mem_of_job? hloaded) (hpair.trans heq)
        apply hid
        rw [← id_of_job? hloaded, ← hsame, id_of_job? hjob]
      refine ⟨j, v, ?_, hpair, ?_, hreported.mono fun _ hw => List.mem_append_left _ hw⟩
      · rw [job?_afterReport, hjob, Option.map_some, id_of_job? hjob, beq_eq_false_iff_ne.mpr (Ne.symm hid)]
        rfl
      · rw [version?_afterReport_of_ne hother]
        exact hversion

theorem deliver (h : s.Reported jobId version reports) (hnone : version.artifactUrl = none) (times : ReportTimes)
    (webhooks : List Webhook) : (s.deliver times webhooks).Reported jobId version (reports ++ webhooks) := by
  induction webhooks generalizing s reports with
  | nil =>
      rw [List.append_nil]
      exact h
  | cons w rest ih =>
      have hrest := ih (h.handleWebhook hnone w times)
      rw [List.append_assoc] at hrest
      exact hrest

/-- A statement of a dispatch writes to jobs only, and moves them forward. -/
theorem apply (h : s.Reported jobId version reports) (u : JobUpdate) (id : Text) (now : Instant) :
    (u.apply id now s).Reported jobId version reports where
  jobIds := by
    rw [u.jobIds_apply]
    exact h.jobIds
  versionIds := by
    rw [u.jobVersionIds_apply]
    exact h.versionIds
  rows := by
    obtain ⟨j, v, hjob, hpair, hversion, hreported⟩ := h.rows
    have hjob' : (u.apply id now s).job? jobId
        = some (if j.id == id && u.holds j then u.change now j else j) := by
      rw [u.job?_apply, hjob]
      rfl
    have hversion' : (u.apply id now s).version? version.id = some v := by
      rw [version?, u.apply_versions]
      exact hversion
    refine ⟨_, v, hjob', ?_, hversion', ?_⟩
    · split
      · exact (u.change_versionId now j).trans hpair
      · exact hpair
    · split
      · rename_i hpicked
        exact hreported.advances (u.change_id now j) (Job.advances_change (Bool.and_eq_true_iff.mp hpicked).2 now)
      · exact hreported

theorem settle (h : s.Reported jobId version reports) (id : Text) (acceptance : Except Failure (Option Text))
    (now : Instant) : ((s.settle id acceptance now).2).Reported jobId version reports := by
  rw [settle_eq_foldl]
  induction Store.settlement acceptance now generalizing s with
  | nil => exact h
  | cons u rest ih => exact ih (h.apply u id now)

end Reported

end Store

namespace Studio

variable {k : Studio} {c : Context} {worker : WorkerAddress} {exchange : Exchange}

theorem reported_dispatch {found : JobAnswer} (h : k.store.Reported found.job.id found.version [])
    (hnone : found.version.artifactUrl = none) (dataset : Dataset) :
    (k.dispatch c worker found dataset exchange).1.2.store.Reported found.job.id found.version exchange.deliveries := by
  have hquiet : k.store.Reported found.job.id found.version exchange.deliveries := h.mono (List.forall_mem_nil _)
  rcases k.dispatch_cases c worker found dataset exchange with
    ⟨-, hends⟩ | ⟨_, k', hstore, hends⟩ | ⟨_, k', -, hends⟩
  · rw [hends]
    exact hquiet.apply (.leavePending Store.mockModeError) found.job.id c.now
  · rw [hends]
    change k'.store.Reported _ _ _
    rw [hstore]
    exact hquiet
  · rw [hends]
    exact (h.deliver hnone (.still c.now) exchange.deliveries).settle found.job.id _ c.now

theorem dispatchAndAnswer_eq_ok {found answer : JobAnswer} {dataset : Dataset}
    (h : (k.dispatchAndAnswer c worker found dataset exchange).1.1 = .ok answer) :
    answer = { found with job :=
      ((k.dispatch c worker found dataset exchange).1.2.store.job? found.job.id).getD found.job } := by
  obtain ⟨_, _, rfl⟩ := map_eq_ok.mp h
  rfl

theorem exists_dispatch_of_answer {reports : List Reporting} (hjobs : k.JobsSound)
    (htracked : Intake.Tracked ⟨k.store, reports⟩) {call : JobCall} {answer : JobAnswer}
    (h : (k.ask c worker call exchange).1.1 = .ok answer) :
    ∃ (ready : Studio) (found : JobAnswer) (dataset : Dataset),
      k.ask c worker call exchange = ready.dispatchAndAnswer c worker found dataset exchange ∧
        ready.store.Reported found.job.id found.version [] ∧ found.version.artifactUrl = none := by
  cases call with
  | create userId modelId datasetId baseModel params =>
      rw [ask, createJob] at h
      simp only [ask, createJob]
      cases hadmission : k.admitJob c userId modelId datasetId baseModel with
      | error failure =>
          rw [hadmission] at h
          cases h
      | ok admitted =>
          obtain ⟨dataset, hash⟩ := admitted
          have hsound := hjobs.insert ⟨modelId, dataset, hash, baseModel, params⟩ c
          refine ⟨_, _, _, rfl, ⟨hsound.jobIds.distinct, ?_, ?_⟩, rfl⟩
          · exact hsound.paired ▸ hsound.versionIds.distinct
          · exact ⟨_, _, job?_insertJob hjobs.jobIds modelId dataset hash baseModel params, rfl,
              version?_insertJob hjobs.versionIds modelId dataset hash baseModel params, .same⟩
  | retry id userId =>
      rw [ask, retryJob] at h
      simp only [ask, retryJob]
      cases hretry : k.store.jobForRetry id userId with
      | error failure =>
          rw [hretry] at h
          cases h
      | ok ready =>
          obtain ⟨found, dataset⟩ := ready
          obtain ⟨howned, hpending, -⟩ := Store.jobForRetry_eq_ok_iff.mp hretry
          obtain ⟨hjob, hversion⟩ := Store.jobWithVersion_eq_ok_iff.mp (Store.ownedJob_eq_ok_iff.mp howned).1
          replace hjob := Store.loadJob?_eq_some hjob
          replace hversion := (Store.loadVersion?_eq_some_iff.mp hversion).2.2
          have hid := Store.id_of_version? hversion
          have hopen : found.job.status.isTerminal = false := by
            rw [hpending]
            rfl
          refine ⟨k, found, dataset, rfl, ⟨hjobs.jobIds.distinct, ?_, ?_⟩,
            hjobs.artifactUrl_eq_none htracked hjob hopen hversion⟩
          · exact hjobs.paired ▸ hjobs.versionIds.distinct
          · refine ⟨found.job, found.version, ?_, hid.symm, ?_, .same⟩
            · rw [Store.id_of_job? hjob]
              exact hjob
            · rw [hid]
              exact hversion

end Studio

/-- Whatever is under way: the job in the answer to a call that asks the worker is the stored job, whichever reports
arrived during the exchange. The version in it has no artifact. It is the stored version as long as that one has none;
an artifact there was brought by a report of the exchange that completed the job, and is all that the answer misses. The
endpoints for making and sending a job show that answer. -/
theorem answer_misses_only_artifact_of_exchange (events : List Event) (c : Context) (worker : WorkerAddress)
    (call : JobCall) (exchange : Exchange) {answer : JobAnswer}
    (h : ((Traffic.start.run events).studio.ask c worker call exchange).1.1 = .ok answer) :
    ((Traffic.start.run events).ask c worker call exchange).studio.store.job? answer.job.id = some answer.job ∧
      answer.job.versionId = answer.version.id ∧ answer.version.artifactUrl = none ∧
      (∃ v, ((Traffic.start.run events).ask c worker call exchange).studio.store.version? answer.version.id = some v ∧
        (v = answer.version ↔ v.artifactUrl = none) ∧
        ∀ url, v.artifactUrl = some url → answer.job.status = .completed ∧
          ∃ w ∈ exchange.deliveries, w.jobId = answer.job.id ∧ w.artifact? = some url ∧
            v = answer.version.withArtifact w url) ∧
      ∀ (app : App) (visit : Visit) (endpoint : Endpoint), app.studio = (Traffic.start.run events).studio →
        app.context visit = c → app.worker = worker → visit.exchange = exchange →
        app.jobCall? visit endpoint = some call →
        (app.handle visit endpoint).result = App.seen JobAnswer.view (.ok answer) := by
  have hstart : Traffic.start.intake.Tracked := Intake.Tracked.start
  have htracked := Traffic.tracked_run hstart Traffic.sound_start Traffic.statusesKnown_start events
  obtain ⟨ready, found, dataset, hcall, hreported, hnone⟩ :=
    Studio.exists_dispatch_of_answer (Traffic.sound_start.run events).jobs htracked h
  have hafter : ((Traffic.start.run events).ask c worker call exchange).studio.store
      = (ready.dispatch c worker found dataset exchange).1.2.store := by
    rw [Traffic.ask, hcall]
    rfl
  obtain ⟨j, v, hjob, hpair, hversion, hmade⟩ := (Studio.reported_dispatch hreported hnone dataset).rows
  have hanswer : answer = { found with job := j } := by
    rw [hcall] at h
    rw [Studio.dispatchAndAnswer_eq_ok h, hjob, Option.getD_some]
  have hid := Store.id_of_job? hjob
  rw [hafter]
  refine ⟨?_, ?_, ?_, ⟨v, ?_, ?_, ?_⟩, ?_⟩
  · rw [hanswer, hid]
    exact hjob
  · rw [hanswer]
    exact hpair
  · rw [hanswer]
    exact hnone
  · rw [hanswer]
    exact hversion
  · rw [hanswer]
    cases hmade with
    | same => exact iff_of_true rfl hnone
    | artifact =>
        refine iff_of_false (fun heq => ?_) (Option.some_ne_none _)
        rw [← heq] at hnone
        cases hnone
  · intro url hurl
    rw [hanswer]
    cases hmade with
    | same =>
        rw [hnone] at hurl
        cases hurl
    | artifact hmem hjobId hbrought hcompleted =>
        obtain rfl := Option.some.inj hurl
        exact ⟨hcompleted, _, hmem, hjobId, hbrought, rfl⟩
  · intro app visit endpoint hstudio hcontext hworker hexchange hasks
    subst hcontext hworker hexchange
    rw [App.handle_of_jobCall? hasks, App.finishJob, App.ask, hstudio, h]

def Exchange.completing : Exchange :=
  { deliveries := [.firstCompletion], outcome := .ok .quiet }

/-- What is left by the call that makes the first job, when it is completed during the exchange. -/
def Traffic.completed : Traffic :=
  (Traffic.start.run Traffic.firstAdmission).ask .small .small .first .completing

/-- The stored version carries what the report of the exchange brought to the version in the answer. -/
theorem first_answer_misses_artifact_of_exchange :
    ∃ answer v, ((Traffic.start.run Traffic.firstAdmission).studio.ask .small .small .first .completing).1.1
        = .ok answer ∧
      Traffic.completed.studio.store.job? answer.job.id = some answer.job ∧ answer.job.status = .completed ∧
      Traffic.completed.studio.store.version? answer.version.id = some v ∧
      ∃ w ∈ Exchange.completing.deliveries, v = answer.version.withArtifact w "mia.safetensors" := by
  have hdone : ((Traffic.start.run Traffic.firstAdmission).studio.ask .small .small .first
      .completing).1.1.toOption.isSome = true := by decide +kernel
  have hstored : (Traffic.completed.studio.store.version? "version-1").bind (·.artifactUrl)
      = some ("mia.safetensors" : Text) := by decide +kernel
  have hnamed : ((Traffic.start.run Traffic.firstAdmission).studio.ask .small .small .first
      .completing).1.1.toOption.map (·.version.id) = some ("version-1" : Text) := by decide +kernel
  cases hanswer : ((Traffic.start.run Traffic.firstAdmission).studio.ask .small .small .first .completing).1.1 with
  | error failure =>
      rw [hanswer] at hdone
      cases hdone
  | ok answer =>
      obtain ⟨hjob, -, -, ⟨v, hversion, -, hbrought⟩, -⟩ :=
        answer_misses_only_artifact_of_exchange Traffic.firstAdmission .small .small .first .completing hanswer
      rw [hanswer] at hnamed
      have hid : answer.version.id = ("version-1" : Text) := Option.some.inj hnamed
      change Traffic.completed.studio.store.version? answer.version.id = some v at hversion
      have hurl : v.artifactUrl = some ("mia.safetensors" : Text) := by
        rw [← hid, hversion] at hstored
        exact hstored
      obtain ⟨hcompleted, w, hmem, -, -, hv⟩ := hbrought _ hurl
      exact ⟨answer, v, rfl, hjob, hcompleted, hversion, w, hmem, hv⟩

/-- So the version in an answer is not always the stored one: the first job is answered as completed, with a version
that has no artifact, while the stored version has it. -/
theorem completed_job_is_answered_without_artifact :
    ∃ answer v, ((Traffic.start.run Traffic.firstAdmission).studio.ask .small .small .first .completing).1.1
        = .ok answer ∧
      answer.job.status = .completed ∧ answer.version.artifactUrl = none ∧
      Traffic.completed.studio.store.version? answer.version.id = some v ∧
      v.artifactUrl = some ("mia.safetensors" : Text) ∧ v ≠ answer.version := by
  have hanswered : ((Traffic.start.run Traffic.firstAdmission).studio.ask .small .small .first
      .completing).1.1.toOption.map (fun a => (a.job.status, a.version.id, a.version.artifactUrl))
        = some (.completed, ("version-1" : Text), none) := by decide +kernel
  have hstored : (Traffic.completed.studio.store.version? "version-1").bind (·.artifactUrl)
      = some ("mia.safetensors" : Text) := by decide +kernel
  obtain ⟨v, hversion, hurl⟩ := Option.bind_eq_some_iff.mp hstored
  cases hanswer : ((Traffic.start.run Traffic.firstAdmission).studio.ask .small .small .first .completing).1.1 with
  | error failure =>
      rw [hanswer] at hanswered
      cases hanswered
  | ok answer =>
      rw [hanswer] at hanswered
      obtain ⟨hcompleted, hid, hnone⟩ : answer.job.status = .completed ∧ answer.version.id = ("version-1" : Text) ∧
        answer.version.artifactUrl = none := by simpa [Except.toOption] using hanswered
      refine ⟨answer, v, rfl, hcompleted, hnone, ?_, hurl, ?_⟩
      · rw [hid]
        exact hversion
      · intro heq
        rw [heq, hnone] at hurl
        cases hurl

end PromptStudio
