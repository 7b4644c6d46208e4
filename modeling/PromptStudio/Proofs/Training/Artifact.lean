import PromptStudio.Proofs.Training.Chain

/-!
# The artifact of a version

A report that completes a job may bring the artifact of its version. Two guards on two tables decide what is written:
the job takes a report only while it is not over, and the version takes an artifact only while it has none. Together
they make the artifact the work of one report. A version has one job, and a version with an artifact has a completed
one; so a job that still takes a report belongs to a version that still takes an artifact, and the report that
completes the job never finds the version taken.

`Tracked` is the invariant that carries this through a run: it links the reports that were answered to the rows that
they wrote.
-/

namespace PromptStudio

/-- The job of a report is completed, and its version carries what the report brought. -/
def Store.Carries (s : Store) (w : Webhook) (url : Text) : Prop :=
  ∃ job v, s.job? w.jobId = some job ∧ job.status = .completed ∧ s.version? job.versionId = some v ∧
    v.artifactUrl = some url ∧ v.checksum = w.checksum ∧ v.previewImages = .ok (.ofTexts (w.previewImages.getD []))

theorem Webhook.status_of_artifact? {w : Webhook} {url : Text} (h : w.artifact? = some url) :
    w.status = .completed := by
  rw [artifact?] at h
  split at h
  · assumption
  · cases h

theorem Webhook.artifact?_eq_some_iff {w : Webhook} {url : Text} :
    w.artifact? = some url ↔ w.status = .completed ∧ w.artifactUrl = some url ∧ url ≠ [] := by
  rw [artifact?]
  split
  · rename_i hstatus
    simp only [hstatus, true_and, Option.filter_eq_some_iff, Bool.not_eq_true', List.isEmpty_eq_false_iff]
  · rename_i hstatus
    simp only [hstatus, false_and, iff_false]
    intro h
    cases h

/-! ### Reports and the rows that they wrote -/

/-- What links the reports to the store. A loaded job is the stored one as far as its id and version go; a report that
was applied and brought an artifact has put it into the version; and an artifact is there because a report brought
it. -/
structure Intake.Tracked (x : Intake) : Prop where
  loaded : ∀ (place : Nat) w job, x.reports[place]? = some (.loaded w job) →
    ∃ stored, x.store.job? w.jobId = some stored ∧ stored.versionId = job.versionId
  written : ∀ (place : Nat) w times r url, x.reports[place]? = some (.answered w times (.ok r)) → r.applied = true →
    w.artifact? = some url → r.artifactApplied = true ∧ x.store.Carries w url
  brought : ∀ id v, x.store.version? id = some v → v.artifactUrl.isSome = true →
    ∃ (place : Nat) (w : Webhook) (times : ReportTimes) (r : WebhookResult) (url : Text) (job : Job),
      x.reports[place]? = some (.answered w times (.ok r)) ∧ r.applied = true ∧ w.artifact? = some url ∧
        x.store.job? w.jobId = some job ∧ job.versionId = id

namespace Intake.Tracked

variable {x : Intake}

theorem start : Tracked ⟨.empty, []⟩ where
  loaded := by
    intro place w job hplace
    cases hplace
  written := by
    intro place w times r url hplace
    cases hplace
  brought := by
    intro id v hfound
    cases hfound

theorem carries_of_artifact (h : x.Tracked) {id : Text} {v : Version} (hfound : x.store.version? id = some v)
    (hartifact : v.artifactUrl.isSome = true) :
    ∃ (place : Nat) (w : Webhook) (times : ReportTimes) (r : WebhookResult) (url : Text) (job : Job),
      x.reports[place]? = some (.answered w times (.ok r)) ∧ r.applied = true ∧ r.artifactApplied = true ∧
        w.artifact? = some url ∧ x.store.job? w.jobId = some job ∧ job.versionId = id ∧ job.status = .completed ∧
        v.artifactUrl = some url ∧ v.checksum = w.checksum ∧
        v.previewImages = .ok (.ofTexts (w.previewImages.getD [])) := by
  obtain ⟨place, w, times, r, url, job, hplace, happlied, hurl, hjob, hversion⟩ := h.brought id v hfound hartifact
  obtain ⟨hartifactApplied, job', v', hjob', hcompleted, hfound', hcarried⟩ :=
    h.written place w times r url hplace happlied hurl
  rw [hjob, Option.some.injEq] at hjob'
  subst hjob'
  rw [hversion, hfound, Option.some.injEq] at hfound'
  subst hfound'
  exact ⟨place, w, times, r, url, job, hplace, happlied, hartifactApplied, hurl, hjob, hversion, hcompleted, hcarried⟩

end Intake.Tracked

/-! ### A job that takes a report has a version that takes an artifact -/

namespace Studio.JobsSound

variable {k : Studio}

theorem exists_version (h : k.JobsSound) {id : Text} {j : Job} (hjob : k.store.job? id = some j) :
    ∃ v, k.store.version? j.versionId = some v := by
  have hmem : j.versionId ∈ k.store.versions.map (·.id) := by
    rw [← h.paired]
    exact List.mem_map_of_mem (Store.mem_of_job? hjob)
  obtain ⟨v, hv, hid⟩ := List.mem_map.mp hmem
  exact ⟨v, (Store.find?_eq_some_iff_mem h.versionIds.distinct).mpr ⟨hv, hid⟩⟩

theorem eq_of_versionId_eq (h : k.JobsSound) {id id' : Text} {j j' : Job} (hjob : k.store.job? id = some j)
    (hjob' : k.store.job? id' = some j') (hversion : j.versionId = j'.versionId) : j = j' := by
  have hdistinct : (k.store.jobs.map (·.versionId)).Nodup := by
    rw [h.paired]
    exact h.versionIds.distinct
  exact List.inj_on_of_nodup_map hdistinct (Store.mem_of_job? hjob) (Store.mem_of_job? hjob') hversion

theorem artifactUrl_eq_none (h : k.JobsSound) {reports : List Reporting} (htracked : Intake.Tracked ⟨k.store, reports⟩)
    {id : Text} {j : Job} {v : Version} (hjob : k.store.job? id = some j) (hopen : j.status.isTerminal = false)
    (hversion : k.store.version? j.versionId = some v) : v.artifactUrl = none := by
  cases hartifact : v.artifactUrl with
  | none => rfl
  | some url =>
      obtain ⟨_, w, _, _, _, job, _, _, _, _, hjob', hversion', hcompleted, _⟩ :=
        htracked.carries_of_artifact hversion (by rw [hartifact]; rfl)
      have hsame : j = job := h.eq_of_versionId_eq hjob hjob' hversion'.symm
      rw [hsame, hcompleted] at hopen
      cases hopen

end Studio.JobsSound

/-! ### What a step keeps -/

theorem Store.Carries.precedes {s s' : Store} {w : Webhook} {url : Text} (h : s.Carries w url)
    (hprecedes : s.Precedes s') : s'.Carries w url := by
  obtain ⟨job, v, hjob, hcompleted, hversion, hurl, hchecksum, himages⟩ := h
  obtain ⟨job', hjob', hadvances⟩ := hprecedes.jobs _ job hjob
  obtain ⟨v', hversion', hkeeps⟩ := hprecedes.versions _ v hversion
  obtain ⟨hstatus, _⟩ := hadvances.frozen (by rw [hcompleted]; rfl)
  obtain ⟨hurl', hchecksum', himages'⟩ := hkeeps.artifact (by rw [hurl]; rfl)
  refine ⟨job', v', hjob', hstatus.trans hcompleted, ?_, hurl'.trans hurl, hchecksum'.trans hchecksum,
    himages'.trans himages⟩
  rw [hadvances.versionId]
  exact hversion'

namespace Intake.Tracked

variable {s s' : Store} {reports reports' : List Reporting}

/-- A step that applies no report and writes no artifact keeps the links. -/
theorem of_quiet (h : Tracked ⟨s, reports⟩) (hprecedes : s.Precedes s')
    (hloaded : ∀ (place : Nat) w job, reports'[place]? = some (.loaded w job) →
      reports[place]? = some (.loaded w job) ∨ s.job? w.jobId = some job)
    (hanswered : ∀ (place : Nat) w times r, reports'[place]? = some (.answered w times (.ok r)) → r.applied = true →
      reports[place]? = some (.answered w times (.ok r)))
    (hkept : ∀ (place : Nat) w times answer, reports[place]? = some (.answered w times answer) →
      reports'[place]? = some (.answered w times answer))
    (hartifacts : ∀ id v, s'.version? id = some v → v.artifactUrl.isSome = true → s.version? id = some v) :
    Tracked ⟨s', reports'⟩ where
  loaded := by
    intro place w job hplace
    have hstored : ∃ stored, s.job? w.jobId = some stored ∧ stored.versionId = job.versionId := by
      rcases hloaded place w job hplace with hold | hnew
      · exact h.loaded place w job hold
      · exact ⟨job, hnew, rfl⟩
    obtain ⟨stored, hjob, hversion⟩ := hstored
    obtain ⟨stored', hjob', hadvances⟩ := hprecedes.jobs _ stored hjob
    exact ⟨stored', hjob', hadvances.versionId.trans hversion⟩
  written := by
    intro place w times r url hplace happlied hurl
    have hbefore := hanswered place w times r hplace happlied
    obtain ⟨hartifact, hcarries⟩ := h.written place w times r url hbefore happlied hurl
    exact ⟨hartifact, hcarries.precedes hprecedes⟩
  brought := by
    intro id v hfound hartifact
    obtain ⟨place, w, times, r, url, job, hplace, happlied, hurl, hjob, hversion⟩ :=
      h.brought id v (hartifacts id v hfound hartifact) hartifact
    obtain ⟨job', hjob', hadvances⟩ := hprecedes.jobs _ job hjob
    exact ⟨place, w, times, r, url, job', hkept place w times _ hplace, happlied, hurl, hjob',
      hadvances.versionId.trans hversion⟩

end Intake.Tracked

namespace Traffic

variable {σ : Traffic} {k : Studio} {reports : List Reporting}

/-! ### Steps that apply no report -/

theorem Hears.loaded (hreports : σ.Hears reports) {place : Nat} {w : Webhook} {job : Job}
    (hplace : reports[place]? = some (.loaded w job)) :
    σ.reports[place]? = some (.loaded w job) ∨ σ.studio.store.job? w.jobId = some job := by
  cases hreports with
  | nothing => exact Or.inl hplace
  | load hjob =>
      rcases getElem?_push_cases hplace with hold | hnew
      · exact Or.inl hold
      · cases hnew
        exact Or.inr hjob
  | pass => exact Or.inl (Reporting.loaded_of_set hplace)

theorem Hears.answered (hreports : σ.Hears reports) {place : Nat} {w : Webhook} {times : ReportTimes}
    {r : WebhookResult} (hplace : reports[place]? = some (.answered w times (.ok r))) (happlied : r.applied = true) :
    σ.reports[place]? = some (.answered w times (.ok r)) := by
  cases hreports with
  | nothing => exact hplace
  | load => exact Reporting.answered_of_push hplace
  | pass _ _ hidle => exact Reporting.applied_of_set hidle hplace happlied

theorem Hears.kept (hreports : σ.Hears reports) {place : Nat} {w : Webhook} {times : ReportTimes}
    {answer : Except Failure WebhookResult} (hplace : σ.reports[place]? = some (.answered w times answer)) :
    reports[place]? = some (.answered w times answer) := by
  cases hreports with
  | nothing => exact hplace
  | load => exact Reporting.answered_push hplace
  | pass hloaded => exact Reporting.answered_set hloaded hplace

/-! ### The step that applies a report -/

/-- A report that is applied to its job writes its artifact, and the links hold of the rows that it leaves. -/
theorem tracked_report (h : σ.intake.Tracked) (hsound : σ.studio.JobsSound) {place : Nat} {w : Webhook} {job : Job}
    (hplace : σ.reports[place]? = some (.loaded w job)) (htakes : σ.studio.store.takesReport w.jobId = true)
    (times : ReportTimes) (hprecedes : σ.studio.store.Precedes (σ.studio.store.afterReport job w times)) :
    Intake.Tracked ⟨σ.studio.store.afterReport job w times, σ.reports.set place (.answered w times
      (.ok ⟨job.id, true, w.artifact?.isSome && σ.studio.store.takesArtifact job.versionId⟩))⟩ := by
  have hlt : place < σ.reports.length := (List.getElem?_eq_some_iff.mp hplace).1
  obtain ⟨stored, hstored, hversionId⟩ : ∃ stored, σ.studio.store.job? w.jobId = some stored ∧
    stored.versionId = job.versionId := h.loaded place w job hplace
  have hopen : stored.status.isTerminal = false := by
    rw [Store.takesReport_eq_of_job? hsound.jobIds.distinct hstored, Bool.not_eq_true'] at htakes
    exact htakes
  obtain ⟨v, hversion⟩ := hsound.exists_version hstored
  have hnone : v.artifactUrl = none := hsound.artifactUrl_eq_none h hstored hopen hversion
  rw [hversionId] at hversion
  have hjob' : (σ.studio.store.afterReport job w times).job? w.jobId
      = some (stored.withReport w job.startedAt.isNone times) := Store.job?_afterReport_of_open hstored hopen
  refine ⟨?_, ?_, ?_⟩
  · intro other w' job' hother
    obtain ⟨before, hbefore, hsame⟩ := h.loaded other w' job' (Reporting.loaded_of_set hother)
    obtain ⟨after, hafter, hadvances⟩ := hprecedes.jobs _ before hbefore
    exact ⟨after, hafter, hadvances.versionId.trans hsame⟩
  · intro other w' times' r url hother happlied hurl
    rcases getElem?_set_cases hother with ⟨_, hnew⟩ | ⟨_, hold⟩
    · cases hnew
      refine ⟨?_, stored.withReport w job.startedAt.isNone times, v.withArtifact w url, hjob', ?_, ?_, rfl, rfl, rfl⟩
      · rw [hurl, Store.takesArtifact_of_version? hversion hnone]
        rfl
      · rw [Job.withReport, Webhook.status_of_artifact? hurl]
        rfl
      · change (σ.studio.store.afterReport job w times).version? stored.versionId = _
        rw [hversionId]
        exact Store.version?_afterReport_of_none hversion hnone hurl
    · obtain ⟨hartifact, hcarries⟩ := h.written other w' times' r url hold happlied hurl
      exact ⟨hartifact, hcarries.precedes hprecedes⟩
  · intro id v' hfound' hartifact'
    rcases Store.version?_of_afterReport hfound' with hbefore | ⟨rfl, url, hurl⟩
    · obtain ⟨other, w', times', r, url, job', hold, happlied, hurl, hfound, hsame⟩ :=
        h.brought id v' hbefore hartifact'
      obtain ⟨after, hafter, hadvances⟩ := hprecedes.jobs _ job' hfound
      exact ⟨other, w', times', r, url, after, Reporting.answered_set hplace hold, happlied, hurl, hafter,
        hadvances.versionId.trans hsame⟩
    · exact ⟨place, w, times, _, url, _, List.getElem?_set_self hlt, rfl, hurl, hjob', hversionId⟩

/-! ### Every step -/

theorem version?_of_not_report (hversions : k.store.versions = σ.studio.store.versions) :
    ∀ id v, k.store.version? id = some v → v.artifactUrl.isSome = true → σ.studio.store.version? id = some v := by
  intro id v hfound _
  rw [Store.version?, hversions] at hfound
  exact hfound

theorem tracked_moves (h : σ.intake.Tracked) (hsound : σ.studio.JobsSound) (hknown : σ.StatusesKnown)
    (hmove : σ.Moves k reports) : Intake.Tracked ⟨k.store, reports⟩ := by
  have hprecedes := hmove.precedes hknown
  have hsame : σ.Hears σ.reports := .nothing
  cases hmove with
  | still hstore _ hreports =>
      refine h.of_quiet hprecedes (fun _ _ _ => hreports.loaded) (fun _ _ _ _ => hreports.answered)
        (fun _ _ _ _ => hreports.kept) (version?_of_not_report ?_)
      rw [hstore]
  | plain c call =>
      exact h.of_quiet hprecedes (fun _ _ _ => hsame.loaded) (fun _ _ _ _ => hsame.answered)
        (fun _ _ _ _ => hsame.kept) (version?_of_not_report (σ.studio.performs_plain c call).sameJobs.versions)
  | @insert _ a _ c =>
      refine h.of_quiet hprecedes (fun _ _ _ => hsame.loaded) (fun _ _ _ _ => hsame.answered)
        (fun _ _ _ _ => hsame.kept) ?_
      intro id v hfound hartifact
      change (σ.studio.store.versions ++ [(a.insert σ.studio c).1.version]).find? (·.id == id) = some v at hfound
      rw [List.find?_append, Option.or_eq_some_iff] at hfound
      rcases hfound with hold | ⟨_, hnew⟩
      · exact hold
      · have hmem := List.mem_of_find?_eq_some hnew
        rw [List.mem_singleton.mp hmem] at hartifact
        cases hartifact
  | write u jobId now =>
      exact h.of_quiet hprecedes (fun _ _ _ => hsame.loaded) (fun _ _ _ _ => hsame.answered)
        (fun _ _ _ _ => hsame.kept) (version?_of_not_report (u.apply_versions jobId now _))
  | report hplace htakes times => exact tracked_report h hsound hplace htakes times hprecedes

theorem tracked_run (h : σ.intake.Tracked) (hsound : σ.Sound) (hknown : σ.StatusesKnown) (events : List Event) :
    (σ.run events).intake.Tracked := by
  have hall : (σ.run events).intake.Tracked ∧ (σ.run events).Sound ∧ (σ.run events).StatusesKnown := by
    refine run_induction (P := fun σ => σ.intake.Tracked ∧ σ.Sound ∧ σ.StatusesKnown) ?_ ⟨h, hsound, hknown⟩ events
    rintro σ e ⟨htracked, hsound, hknown⟩
    exact ⟨tracked_moves htracked hsound.jobs hknown (σ.moves_step e), hsound.step e, hknown.step e⟩
  exact hall.1

end Traffic

/-! ### Artifacts are written once -/

/-- In every run, whatever dispatches, retries and reports do at the same time: a version has an artifact only if its
job is completed, and what it carries is what one applied completion of that job brought. Once it has an artifact,
address, checksum and preview images stay as they are. And every completion that is applied and brings an address that
is not empty is answered as having written its artifact, and its version carries exactly what it brought. -/
theorem artifact_is_written_once (events : List Event) :
    (∀ v ∈ (Traffic.start.run events).studio.store.versions, v.artifactUrl.isSome = true →
      ∃ job, (Traffic.start.run events).studio.store.jobs.filter (·.versionId == v.id) = [job] ∧
        job.status = .completed ∧
        ∃ (place : Nat) (w : Webhook) (times : ReportTimes) (r : WebhookResult),
          (Traffic.start.run events).reports[place]? = some (.answered w times (.ok r)) ∧ w.jobId = job.id ∧
          w.status = .completed ∧ r.applied = true ∧ r.artifactApplied = true ∧ v.artifactUrl = w.artifactUrl ∧
          v.checksum = w.checksum ∧ v.previewImages = .ok (.ofTexts (w.previewImages.getD []))) ∧
    (∀ more id v, (Traffic.start.run events).studio.store.version? id = some v → v.artifactUrl.isSome = true →
      ∃ v', ((Traffic.start.run events).run more).studio.store.version? id = some v' ∧
        v'.artifactUrl = v.artifactUrl ∧ v'.checksum = v.checksum ∧ v'.previewImages = v.previewImages) ∧
    ∀ (place : Nat) (w : Webhook) (times : ReportTimes) (r : WebhookResult) (url : Text),
      (Traffic.start.run events).reports[place]? = some (.answered w times (.ok r)) → r.applied = true →
      w.status = .completed → w.artifactUrl = some url → url ≠ [] →
      r.artifactApplied = true ∧
      ∃ job v, (Traffic.start.run events).studio.store.job? w.jobId = some job ∧
        (Traffic.start.run events).studio.store.version? job.versionId = some v ∧
        v.artifactUrl = some url ∧ v.checksum = w.checksum ∧
        v.previewImages = .ok (.ofTexts (w.previewImages.getD [])) := by
  have hsound := Traffic.sound_start.run events
  have hknown := Traffic.statusesKnown_start.run events
  have hstart : Traffic.start.intake.Tracked := Intake.Tracked.start
  have htracked := Traffic.tracked_run hstart Traffic.sound_start Traffic.statusesKnown_start events
  generalize Traffic.start.run events = σ at hsound hknown htracked
  refine ⟨?_, ?_, ?_⟩
  · intro v hv hartifact
    have hfound : σ.studio.store.version? v.id = some v :=
      (Store.find?_eq_some_iff_mem hsound.jobs.versionIds.distinct).mpr ⟨hv, rfl⟩
    obtain ⟨job, hfilter⟩ := hsound.jobs.exists_filter_eq hv
    obtain ⟨place, w, times, r, url, job', hplace, happlied, hartifactApplied, hurl, hjob, hversion, hcompleted,
      hcarried⟩ := htracked.carries_of_artifact hfound hartifact
    have hmem : job' ∈ σ.studio.store.jobs.filter (·.versionId == v.id) :=
      List.mem_filter.mpr ⟨Store.mem_of_job? hjob, beq_iff_eq.mpr hversion⟩
    rw [hfilter, List.mem_singleton] at hmem
    subst hmem
    obtain ⟨hstatus, haddress, _⟩ := Webhook.artifact?_eq_some_iff.mp hurl
    obtain ⟨hurl', hchecksum, himages⟩ := hcarried
    exact ⟨job', hfilter, hcompleted, place, w, times, r, hplace, (Store.id_of_job? hjob).symm, hstatus, happlied,
      hartifactApplied, hurl'.trans haddress.symm, hchecksum, himages⟩
  · intro more id v hfound hartifact
    obtain ⟨v', hfound', hkeeps⟩ := (hknown.precedes_run more).versions id v hfound
    exact ⟨v', hfound', hkeeps.artifact hartifact⟩
  · intro place w times r url hplace happlied hstatus haddress hnonempty
    have hurl : w.artifact? = some url := Webhook.artifact?_eq_some_iff.mpr ⟨hstatus, haddress, hnonempty⟩
    obtain ⟨hartifactApplied, job, v, hjob, _, hversion, hcarried⟩ :=
      htracked.written place w times r url hplace happlied hurl
    exact ⟨hartifactApplied, job, v, hjob, hversion, hcarried⟩

/-- The completion of the first job writes its artifact, and nothing that comes later changes it. -/
theorem first_artifact_stays :
    ∃ v, (Traffic.start.run Traffic.firstJob).studio.store.version? "version-1" = some v ∧
      (∃ job, (Traffic.start.run Traffic.firstJob).studio.store.jobs.filter (·.versionId == v.id) = [job] ∧
        job.status = .completed) ∧
      ∀ more, ∃ v', ((Traffic.start.run Traffic.firstJob).run more).studio.store.version? "version-1" = some v' ∧
        v'.artifactUrl = some ("mia.safetensors" : Text) ∧ v'.checksum = some ("c0ffee" : Text) ∧
        v'.previewImages = .ok (.ofTexts ["front.png"]) := by
  obtain ⟨hbearers, hlater, happlied⟩ := artifact_is_written_once Traffic.firstJob
  have hanswered : ((Traffic.start.run Traffic.firstJob).reports[0]?.bind Reporting.result?)
      = some (.firstCompletion, .still 7, ⟨"job-1", true, true⟩) := by decide +kernel
  have hversion : ((Traffic.start.run Traffic.firstJob).studio.store.job? "job-1").map (·.versionId)
      = some ("version-1" : Text) := by decide +kernel
  obtain ⟨report, hreport, hresult⟩ := Option.bind_eq_some_iff.mp hanswered
  rw [Reporting.eq_answered_of_result? hresult] at hreport
  obtain ⟨_, job, v, hjob, hfound, hurl, hchecksum, himages⟩ :=
    happlied 0 .firstCompletion (.still 7) ⟨"job-1", true, true⟩ "mia.safetensors" hreport rfl rfl rfl (by decide)
  change (Traffic.start.run Traffic.firstJob).studio.store.job? "job-1" = some job at hjob
  rw [hjob, Option.map_some, Option.some.injEq] at hversion
  rw [hversion] at hfound
  have hartifact : v.artifactUrl.isSome = true := by rw [hurl]; rfl
  obtain ⟨job', hfilter, hcompleted, _⟩ := hbearers v (Store.mem_of_version? hfound) hartifact
  refine ⟨v, hfound, ⟨job', hfilter, hcompleted⟩, ?_⟩
  intro more
  obtain ⟨v', hfound', hurl', hchecksum', himages'⟩ := hlater more "version-1" v hfound hartifact
  exact ⟨v', hfound', hurl'.trans hurl, hchecksum'.trans hchecksum, himages'.trans himages⟩

end PromptStudio
