import PromptStudio.Proofs.Training.Report
import PromptStudio.Proofs.Training.Verified

/-!
# Reports that are applied at the same time

Any number of reports may be under way at once. Each loads its job in one step and is written in a later one, and
between the two any number of other reports may come and go. An intake is the store together with the reports that
arrived, in the order of their loads; a run is any list of loads and updates, so the theorems about runs speak of every
interleaving.

The main statement is `first_terminal_report_wins`. What carries it is that a report which ended a job is visible in
the stored row from then on: the row is over, so its guard lets no later update through, whatever the later report
believed when it loaded the job.
-/

namespace PromptStudio

/-! ### Places in a list -/

section Places

variable {α : Type} {rows : List α} {row other : α} {place : Nat}

theorem getElem?_push_cases (h : (rows ++ [row])[place]? = some other) : rows[place]? = some other ∨ other = row := by
  rw [List.getElem?_append] at h
  split at h
  · exact Or.inl h
  · exact Or.inr (List.mem_singleton.mp (List.mem_of_getElem? h))

theorem getElem?_set_cases {changed : Nat} (h : (rows.set changed row)[place]? = some other) :
    (place = changed ∧ other = row) ∨ (place ≠ changed ∧ rows[place]? = some other) := by
  by_cases heq : changed = place
  · subst heq
    rw [List.getElem?_set] at h
    simp only [if_true] at h
    split at h
    · exact Or.inl ⟨rfl, (Option.some.inj h).symm⟩
    · cases h
  · rw [List.getElem?_set_ne heq] at h
    exact Or.inr ⟨Ne.symm heq, h⟩

end Places

/-- Where a report stands: its job was loaded, or it was answered. -/
inductive Reporting where
  | loaded (w : Webhook) (job : Job)
  | answered (w : Webhook) (times : ReportTimes) (answer : Except Failure WebhookResult)

namespace Reporting

variable {reports : List Reporting} {place other : Nat} {w w' : Webhook} {job job' : Job} {times times' : ReportTimes}
  {answer answer' : Except Failure WebhookResult}

theorem answered_of_push (h : (reports ++ [.loaded w job])[place]? = some (.answered w' times answer)) :
    reports[place]? = some (.answered w' times answer) := by
  rcases getElem?_push_cases h with hold | hnew
  · exact hold
  · cases hnew

theorem loaded_of_set (h : (reports.set place (.answered w times answer))[other]? = some (.loaded w' job')) :
    reports[other]? = some (.loaded w' job') := by
  rcases getElem?_set_cases h with ⟨_, hnew⟩ | ⟨_, hold⟩
  · cases hnew
  · exact hold

theorem applied_of_set (hidle : ∀ r, answer = .ok r → r.applied = false) {r : WebhookResult}
    (h : (reports.set place (.answered w times answer))[other]? = some (.answered w' times' (.ok r)))
    (happlied : r.applied = true) : reports[other]? = some (.answered w' times' (.ok r)) := by
  rcases getElem?_set_cases h with ⟨_, hnew⟩ | ⟨_, hold⟩
  · injection hnew with _ _ hanswer
    rw [hidle r hanswer.symm] at happlied
    cases happlied
  · exact hold

/-- What was said to a report that was answered without a failure. -/
def result? : Reporting → Option (Webhook × ReportTimes × WebhookResult)
  | answered w times (.ok r) => some (w, times, r)
  | _ => none

theorem eq_answered_of_result? {report : Reporting} {r : WebhookResult} (h : report.result? = some (w, times, r)) :
    report = .answered w times (.ok r) := by
  cases report with
  | loaded _ _ => cases h
  | answered _ _ answer =>
      cases answer with
      | error _ => cases h
      | ok _ =>
          cases h
          rfl

theorem answered_set (hplace : reports[place]? = some (.loaded w job))
    (h : reports[other]? = some (.answered w' times' answer')) :
    (reports.set place (.answered w times answer))[other]? = some (.answered w' times' answer') := by
  have hne : place ≠ other := by
    rintro rfl
    rw [hplace] at h
    cases h
  rw [List.getElem?_set_ne hne]
  exact h

theorem answered_push (h : reports[other]? = some (.answered w' times' answer')) :
    (reports ++ [.loaded w job])[other]? = some (.answered w' times' answer') := by
  rw [List.getElem?_append_left (List.getElem?_eq_some_iff.mp h).1]
  exact h

end Reporting

/-- A store and the reports that arrived at it. -/
structure Intake where
  store : Store
  reports : List Reporting

/-- One step of one report. -/
inductive IntakeStep where
  | load (w : Webhook)
  | update (place : Nat) (times : ReportTimes)

namespace Intake

/-- What a step leaves. A report whose job is not found is turned away; a place without a loaded report has nothing to
write. -/
def step (x : Intake) : IntakeStep → Intake
  | .load w =>
    match x.store.loadForReport w with
    | .ok job => { x with reports := x.reports ++ [.loaded w job] }
    | .error _ => x
  | .update place times =>
    match x.reports[place]? with
    | some (.loaded w job) =>
      let (answer, store) := x.store.finishReport job w times
      ⟨store, x.reports.set place (.answered w times answer)⟩
    | _ => x

def run (x : Intake) (steps : List IntakeStep) : Intake :=
  steps.foldl step x

/-- The report at a place ended a job: it is terminal, and it was applied. -/
def Ended (x : Intake) (jobId : Text) (place : Nat) : Prop :=
  ∃ w times r, x.reports[place]? = some (.answered w times (.ok r)) ∧ w.jobId = jobId ∧
    w.status.isTerminal = true ∧ r.applied = true

end Intake

def Store.Shows (s : Store) (w : Webhook) (times : ReportTimes) : Prop :=
  ∃ job, s.job? w.jobId = some job ∧ job.status = .ofReport w.status ∧ job.error = w.error ∧
    job.finishedAt = some (.instant times.finished)

namespace Intake

variable {x : Intake}

/-! ### What a step does -/

theorem step_update {place : Nat} {w : Webhook} {job : Job} (times : ReportTimes)
    (hplace : x.reports[place]? = some (.loaded w job)) :
    x.step (.update place times)
      = ⟨(x.store.finishReport job w times).2,
          x.reports.set place (.answered w times (x.store.finishReport job w times).1)⟩ := by
  simp only [step, hplace]

/-- A step arrives at a new report, answers a loaded one, or changes nothing. -/
theorem step_cases (x : Intake) (e : IntakeStep) :
    x.step e = x ∨
      (∃ w job, x.store.job? w.jobId = some job ∧
        x.step e = { x with reports := x.reports ++ [.loaded w job] }) ∨
      ∃ place times w job, e = .update place times ∧ x.reports[place]? = some (.loaded w job) ∧
        x.step e = ⟨(x.store.finishReport job w times).2,
          x.reports.set place (.answered w times (x.store.finishReport job w times).1)⟩ := by
  cases e with
  | load w =>
      rw [step]
      cases hload : x.store.loadForReport w with
      | error failure => exact Or.inl rfl
      | ok job => exact Or.inr (Or.inl ⟨w, job, Store.loadForReport_eq_ok hload, rfl⟩)
  | update place times =>
      cases hplace : x.reports[place]? with
      | none =>
          left
          simp only [step, hplace]
      | some report =>
          cases report with
          | answered w times answer =>
              left
              simp only [step, hplace]
          | loaded w job => exact Or.inr (Or.inr ⟨place, times, w, job, rfl, hplace, step_update times hplace⟩)

/-! ### What stays true -/

/-- What holds at every moment of a run: ids tell jobs apart, a loaded job is the one its report is about, and a report
that ended a job shows in the stored row. -/
structure Consistent (x : Intake) : Prop where
  keyed : (x.store.jobs.map (·.id)).Nodup
  loaded : ∀ (place : Nat) w job, x.reports[place]? = some (.loaded w job) → job.id = w.jobId
  shown : ∀ (place : Nat) w times r, x.reports[place]? = some (.answered w times (.ok r)) → w.status.isTerminal = true →
    r.applied = true → x.store.Shows w times
  single : ∀ jobId place other, x.Ended jobId place → x.Ended jobId other → place = other

theorem takesReport_eq_false {s : Store} (hkeys : (s.jobs.map (·.id)).Nodup) {w : Webhook} {times : ReportTimes}
    (hterminal : w.status.isTerminal = true) (hshows : s.Shows w times) : s.takesReport w.jobId = false := by
  obtain ⟨job, hjob, hstatus, _, _⟩ := hshows
  rw [Store.takesReport_eq_of_job? hkeys hjob, hstatus, JobStatus.isTerminal_ofReport, hterminal]
  rfl

theorem shows_afterReport {s : Store} {w : Webhook} {times : ReportTimes} (hterminal : w.status.isTerminal = true)
    (hshows : s.Shows w times) (loaded : Job) (later : Webhook) (laterTimes : ReportTimes) :
    (s.afterReport loaded later laterTimes).Shows w times := by
  obtain ⟨job, hjob, hstatus, herror, hfinished⟩ := hshows
  refine ⟨job, ?_, hstatus, herror, hfinished⟩
  rw [Store.job?_afterReport, hjob, Option.map_some, hstatus, JobStatus.isTerminal_ofReport, hterminal]
  simp only [Bool.not_true, Bool.and_false, Bool.false_eq_true, if_false]

theorem shows_of_takes {s : Store} (hkeys : (s.jobs.map (·.id)).Nodup) {w : Webhook} {times : ReportTimes}
    (hterminal : w.status.isTerminal = true) (htakes : s.takesReport w.jobId = true) (loaded : Job) :
    (s.afterReport loaded w times).Shows w times := by
  obtain ⟨job, hmem, hid, hopen⟩ := Store.takesReport_iff.mp htakes
  have hjob : s.job? w.jobId = some job := (Store.find?_eq_some_iff_mem hkeys).mpr ⟨hmem, hid⟩
  refine ⟨job.withReport w loaded.startedAt.isNone times, Store.job?_afterReport_of_open hjob hopen, rfl, rfl, ?_⟩
  simp only [Job.withReport, hterminal, if_true]

theorem Consistent.start {s : Store} (hkeys : (s.jobs.map (·.id)).Nodup) : Consistent ⟨s, []⟩ where
  keyed := hkeys
  loaded := by
    intro place w job hplace
    cases hplace
  shown := by
    intro place w times r hplace
    cases hplace
  single := by
    rintro jobId place other ⟨w, times, r, hplace, _⟩
    cases hplace

theorem Consistent.arrive (h : x.Consistent) {w : Webhook} {job : Job} (hjob : x.store.job? w.jobId = some job) :
    Consistent { x with reports := x.reports ++ [.loaded w job] } where
  keyed := h.keyed
  loaded := by
    intro place w' job' hplace
    rcases getElem?_push_cases hplace with hold | hnew
    · exact h.loaded place w' job' hold
    · cases hnew
      exact Store.id_of_job? hjob
  shown := by
    intro place w' times r hplace
    exact h.shown place w' times r (Reporting.answered_of_push hplace)
  single := by
    rintro jobId place other ⟨w₁, times₁, r₁, hplace, hended⟩ ⟨w₂, times₂, r₂, hother, hended'⟩
    exact h.single jobId place other ⟨w₁, times₁, r₁, Reporting.answered_of_push hplace, hended⟩
      ⟨w₂, times₂, r₂, Reporting.answered_of_push hother, hended'⟩

theorem Consistent.pass (h : x.Consistent) (place : Nat) (w : Webhook) (times : ReportTimes)
    {answer : Except Failure WebhookResult} (hidle : ∀ r, answer = .ok r → r.applied = false) :
    Consistent ⟨x.store, x.reports.set place (.answered w times answer)⟩ where
  keyed := h.keyed
  loaded := by
    intro other w' job' hother
    exact h.loaded other w' job' (Reporting.loaded_of_set hother)
  shown := by
    intro other w' times' r hother hterminal happlied
    exact h.shown other w' times' r (Reporting.applied_of_set hidle hother happlied) hterminal happlied
  single := by
    rintro jobId first second ⟨w₁, times₁, r₁, hfirst, hid₁, hterminal₁, happlied₁⟩
      ⟨w₂, times₂, r₂, hsecond, hid₂, hterminal₂, happlied₂⟩
    exact h.single jobId first second
      ⟨w₁, times₁, r₁, Reporting.applied_of_set hidle hfirst happlied₁, hid₁, hterminal₁, happlied₁⟩
      ⟨w₂, times₂, r₂, Reporting.applied_of_set hidle hsecond happlied₂, hid₂, hterminal₂, happlied₂⟩

theorem Consistent.not_ended_of_takes (h : x.Consistent) {jobId : Text}
    (htakes : x.store.takesReport jobId = true) (place : Nat) : ¬ x.Ended jobId place := by
  rintro ⟨w, times, r, hplace, hid, hterminal, happlied⟩
  have hclosed := takesReport_eq_false h.keyed hterminal (h.shown place w times r hplace hterminal happlied)
  rw [hid, htakes] at hclosed
  cases hclosed

/-- A report that is applied found its job open; so no earlier report had ended the job, and what earlier reports show
in other jobs stays. -/
theorem Consistent.apply (h : x.Consistent) {w : Webhook} (htakes : x.store.takesReport w.jobId = true) (place : Nat)
    (job : Job) (times : ReportTimes) (result : WebhookResult) :
    Consistent ⟨x.store.afterReport job w times, x.reports.set place (.answered w times (.ok result))⟩ where
  keyed := by
    rw [Store.jobIds_afterReport]
    exact h.keyed
  loaded := by
    intro other w' job' hother
    exact h.loaded other w' job' (Reporting.loaded_of_set hother)
  shown := by
    intro other w' times' r hother hterminal happlied
    rcases getElem?_set_cases hother with ⟨_, hnew⟩ | ⟨_, hold⟩
    · cases hnew
      exact shows_of_takes h.keyed hterminal htakes job
    · exact shows_afterReport hterminal (h.shown other w' times' r hold hterminal happlied) job w times
  single := by
    have hsplit : ∀ jobId other, Ended ⟨x.store.afterReport job w times, x.reports.set place (.answered w times
        (.ok result))⟩ jobId other → (other = place ∧ jobId = w.jobId) ∨ x.Ended jobId other := by
      rintro jobId other ⟨w', times', r, hother, hid, hended⟩
      rcases getElem?_set_cases hother with ⟨heq, hnew⟩ | ⟨_, hold⟩
      · cases hnew
        exact Or.inl ⟨heq, hid.symm⟩
      · exact Or.inr ⟨w', times', r, hold, hid, hended⟩
    intro jobId first second hended hended'
    rcases hsplit jobId first hended with ⟨hp, hj⟩ | hold <;>
      rcases hsplit jobId second hended' with ⟨hq, hj'⟩ | hold'
    · rw [hp, hq]
    · exact absurd (hj ▸ hold') (h.not_ended_of_takes htakes second)
    · exact absurd (hj' ▸ hold) (h.not_ended_of_takes htakes first)
    · exact h.single jobId first second hold hold'

theorem Consistent.answer (h : x.Consistent) (place : Nat) (w : Webhook) (job : Job) (times : ReportTimes) :
    Consistent ⟨(x.store.finishReport job w times).2,
      x.reports.set place (.answered w times (x.store.finishReport job w times).1)⟩ := by
  rcases Store.finishReport_cases x.store job w times with ⟨hstore, hidle⟩ | ⟨htakes, hfinish⟩
  · rw [hstore]
    exact h.pass place w times hidle
  · rw [hfinish]
    exact h.apply htakes place job times _

theorem Consistent.step (h : x.Consistent) (e : IntakeStep) : (x.step e).Consistent := by
  rcases x.step_cases e with heq | ⟨w, job, hjob, heq⟩ | ⟨place, times, w, job, _, _, heq⟩
  · rw [heq]
    exact h
  · rw [heq]
    exact h.arrive hjob
  · rw [heq]
    exact h.answer place w job times

theorem Consistent.run (h : x.Consistent) (steps : List IntakeStep) : (x.run steps).Consistent := by
  induction steps generalizing x with
  | nil => exact h
  | cons e rest ih => exact ih (h.step e)

theorem getElem?_step_of_answered {place : Nat} {w : Webhook} {times : ReportTimes}
    {answer : Except Failure WebhookResult} (hplace : x.reports[place]? = some (.answered w times answer))
    (e : IntakeStep) : (x.step e).reports[place]? = some (.answered w times answer) := by
  rcases x.step_cases e with heq | ⟨w', job, _, heq⟩ | ⟨changed, times', w', job, _, hloaded, heq⟩
  · rw [heq]
    exact hplace
  · rw [heq]
    exact Reporting.answered_push hplace
  · rw [heq]
    exact Reporting.answered_set hloaded hplace

theorem getElem?_run_of_answered {place : Nat} {w : Webhook} {times : ReportTimes}
    {answer : Except Failure WebhookResult} (hplace : x.reports[place]? = some (.answered w times answer))
    (steps : List IntakeStep) : (x.run steps).reports[place]? = some (.answered w times answer) := by
  induction steps generalizing x with
  | nil => exact hplace
  | cons e rest ih => exact ih (getElem?_step_of_answered hplace e)

/-- Once a job is over, the next update of a report on it is answered, and nothing is written. -/
theorem Consistent.step_update_of_shows (h : x.Consistent) {w later : Webhook} {times : ReportTimes}
    (hterminal : w.status.isTerminal = true) (hshows : x.store.Shows w times) {place : Nat} {job : Job}
    (hplace : x.reports[place]? = some (.loaded later job)) (hid : later.jobId = w.jobId)
    (laterTimes : ReportTimes) :
    (x.step (.update place laterTimes)).store = x.store ∧
      ∃ answer, (x.step (.update place laterTimes)).reports[place]? = some (.answered later laterTimes answer) ∧
        (answer = .ok ⟨w.jobId, false, false⟩ ∨
          Text.bindAll later.jobTexts = .error .unencodableText ∧ answer = .error (.fault .unencodableText)) := by
  have hlt : place < x.reports.length := (List.getElem?_eq_some_iff.mp hplace).1
  have hclosed : x.store.takesReport later.jobId = false := by
    rw [hid]
    exact takesReport_eq_false h.keyed hterminal hshows
  obtain ⟨hstore, hanswer⟩ := Store.finishReport_of_not_takes job laterTimes hclosed
  rw [step_update laterTimes hplace]
  refine ⟨hstore, _, List.getElem?_set_self hlt, ?_⟩
  rw [← hid, ← h.loaded place later job hplace]
  exact hanswer

end Intake

/-! ### The first terminal report wins -/

/-- Of all reports on a job that are under way at once, in whatever order they load and write, at most one ends the
job. From then on the stored job shows what that report wrote, in every continuation of the run; and every report on
the job that is written later changes nothing at all and is answered as not applied. The only other answer to it is the
fault of a text without bytes, which a verified report does not hold. -/
theorem first_terminal_report_wins (s : Store) (hkeys : (s.jobs.map (·.id)).Nodup) (steps : List IntakeStep)
    (jobId : Text) :
    (∀ place other, (Intake.run ⟨s, []⟩ steps).Ended jobId place → (Intake.run ⟨s, []⟩ steps).Ended jobId other →
      place = other) ∧
    ∀ (place : Nat) (w : Webhook) (times : ReportTimes) (r : WebhookResult),
      (Intake.run ⟨s, []⟩ steps).reports[place]? = some (.answered w times (.ok r)) → w.jobId = jobId →
      w.status.isTerminal = true → r.applied = true →
      (∀ more, ∃ job, ((Intake.run ⟨s, []⟩ steps).run more).store.job? jobId = some job ∧
        job.status = .ofReport w.status ∧ job.error = w.error ∧ job.finishedAt = some (.instant times.finished)) ∧
      ∀ (late : Nat) (later : Webhook) (loaded : Job) (lateTimes : ReportTimes),
        (Intake.run ⟨s, []⟩ steps).reports[late]? = some (.loaded later loaded) → later.jobId = jobId →
        ((Intake.run ⟨s, []⟩ steps).step (.update late lateTimes)).store = (Intake.run ⟨s, []⟩ steps).store ∧
        ∃ answer, ((Intake.run ⟨s, []⟩ steps).step (.update late lateTimes)).reports[late]?
            = some (.answered later lateTimes answer) ∧
          (∀ result, answer = .ok result → result.applied = false) ∧
          (later.Verified → answer = .ok ⟨jobId, false, false⟩) := by
  have hx : (Intake.run ⟨s, []⟩ steps).Consistent := (Intake.Consistent.start hkeys).run steps
  generalize Intake.run ⟨s, []⟩ steps = x at hx
  refine ⟨hx.single jobId, ?_⟩
  rintro place w times r hplace rfl hterminal happlied
  refine ⟨?_, ?_⟩
  · intro more
    exact (hx.run more).shown place w times r (Intake.getElem?_run_of_answered hplace more) hterminal happlied
  · intro late later loaded lateTimes hlate hid
    have hshows := hx.shown place w times r hplace hterminal happlied
    obtain ⟨hstore, answer, hanswered, hanswer⟩ := hx.step_update_of_shows hterminal hshows hlate hid lateTimes
    refine ⟨hstore, answer, hanswered, ?_, ?_⟩
    · intro result hresult
      rcases hanswer with hok | ⟨_, herror⟩
      · rw [hok] at hresult
        cases hresult
        rfl
      · rw [herror] at hresult
        cases hresult
    · intro hverified
      rcases hanswer with hok | ⟨hunwritable, _⟩
      · exact hok
      · rw [hverified.bindAll_jobTexts] at hunwritable
        cases hunwritable

def Job.untouched (id versionId : Text) : Job :=
  { id, versionId, provider := "webhook_worker", status := .pending, externalId := none, logsUrl := none, error := none,
    startedAt := none, finishedAt := none, createdAt := .instant 0, updatedAt := .instant 0 }

def Store.withPendingJob : Store :=
  { Store.empty with jobs := [.untouched "job-1" "version-1"] }

/-- Two reports that load the pending job before either is written: the completion is written first, and the failure
finds nothing left to do. -/
theorem completion_outruns_failure :
    let x := Intake.run ⟨Store.withPendingJob, []⟩
      [.load (.bare "job-1" .completed), .load (.bare "job-1" .failed), .update 0 (.still 7)]
    (Store.withPendingJob.jobs.map (·.id)).Nodup ∧
      (∀ more, ∃ job, (x.run more).store.job? "job-1" = some job ∧ job.status = .completed ∧ job.error = none ∧
        job.finishedAt = some (.instant 7)) ∧
      (x.step (.update 1 (.still 8))).store = x.store ∧
      ∃ answer, (x.step (.update 1 (.still 8))).reports[1]?
          = some (.answered (.bare "job-1" .failed) (.still 8) answer) ∧
        answer = .ok ⟨"job-1", false, false⟩ := by
  have hkeys : (Store.withPendingJob.jobs.map (·.id)).Nodup := List.nodup_singleton _
  obtain ⟨hrow, hlate⟩ := (first_terminal_report_wins Store.withPendingJob hkeys
    [.load (.bare "job-1" .completed), .load (.bare "job-1" .failed), .update 0 (.still 7)] "job-1").2
    0 (.bare "job-1" .completed) (.still 7) ⟨"job-1", true, false⟩ rfl rfl rfl rfl
  obtain ⟨hstore, answer, hanswered, _, hanswer⟩ := hlate 1 (.bare "job-1" .failed) _ (.still 8) rfl rfl
  exact ⟨hkeys, hrow, hstore, answer, hanswered, hanswer Webhook.verified_bare_failed⟩

end PromptStudio
