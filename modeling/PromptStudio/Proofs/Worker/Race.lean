import PromptStudio.Proofs.Training.Stored

/-!
# A reply and two reports race

A worker that accepts a job answers the dispatch, and it reports that the job is processing and later that it is
completed. The three messages take their own ways. Each is handled in steps, a report may arrive more than once, and
the steps come in any order. The statement here is that it does not matter: once the reply is handled and a completion
is answered, the job and its version are what the completion and the reply say, and no other row has changed.

Only two rows are ever written, so the store is at every moment the one of the start with a job and a version put into
it. `Rows` says what these two can be: the completion was written or it was not, and the worker's id was recorded or it
was not. These two facts are independent of each other, which is why the order does not matter.
-/

namespace PromptStudio

/-! ### Two rows of a store -/

namespace Store

theorem updateWhere_put {α β : Type} [BEq β] [LawfulBEq β] (key : α → β) (row : α) (holds : α → Bool) (change : α → α)
    (rows : List α) :
    updateWhere (fun r => key r == key row && holds r) change (updateWhere (key · == key row) (fun _ => row) rows)
      = updateWhere (key · == key row) (fun _ => if holds row then change row else row) rows := by
  rw [updateWhere, updateWhere, updateWhere, List.map_map]
  refine List.map_congr_left ?_
  intro r _
  rw [Function.comp_apply]
  cases hr : key r == key row with
  | false => rw [if_neg Bool.false_ne_true, if_neg Bool.false_ne_true, hr, Bool.false_and, if_neg Bool.false_ne_true]
  | true => rw [if_pos rfl, if_pos rfl, beq_self_eq_true, Bool.true_and]

theorem updateWhere_put_self {α β : Type} [BEq β] [LawfulBEq β] {key : α → β} {row : α} {rows : List α}
    (hkeys : (rows.map key).Nodup) (hrow : row ∈ rows) : updateWhere (key · == key row) (fun _ => row) rows = rows := by
  rw [updateWhere]
  refine (List.map_congr_left ?_).trans (List.map_id rows)
  intro r hr
  split
  · rename_i hkey
    exact (List.inj_on_of_nodup_map hkeys hr hrow (beq_iff_eq.mp hkey)).symm
  · rfl

def put (s : Store) (j : Job) (v : Version) : Store :=
  { s with
    jobs := updateWhere (·.id == j.id) (fun _ => j) s.jobs
    versions := updateWhere (·.id == v.id) (fun _ => v) s.versions }

variable {s : Store} {j : Job} {v : Version}

theorem put_self (hjobs : (s.jobs.map (·.id)).Nodup) (hversions : (s.versions.map (·.id)).Nodup) (hjob : j ∈ s.jobs)
    (hversion : v ∈ s.versions) : s.put j v = s := by
  have hsameJobs : updateWhere (·.id == j.id) (fun _ => j) s.jobs = s.jobs := updateWhere_put_self hjobs hjob
  have hsameVersions : updateWhere (·.id == v.id) (fun _ => v) s.versions = s.versions :=
    updateWhere_put_self hversions hversion
  rw [put, hsameJobs, hsameVersions]

theorem updateJob_put (holds : Job → Bool) (change : Job → Job) (hid : ∀ j, (change j).id = j.id) :
    (s.put j v).updateJob j.id holds change = s.put (if holds j then change j else j) v := by
  have hput := updateWhere_put Job.id j holds change s.jobs
  have hsame : (if holds j then change j else j).id = j.id := by
    split
    · exact hid j
    · rfl
  rw [updateJob, put, put, hput, hsame]

theorem updateVersion_put (holds : Version → Bool) (change : Version → Version) (hid : ∀ v, (change v).id = v.id) :
    (s.put j v).updateVersion v.id holds change = s.put j (if holds v then change v else v) := by
  have hput := updateWhere_put Version.id v holds change s.versions
  have hsame : (if holds v then change v else v).id = v.id := by
    split
    · exact hid v
    · rfl
  rw [updateVersion, put, put, hput, hsame]

theorem apply_put (u : JobUpdate) (now : Instant) :
    u.apply j.id now (s.put j v) = s.put (if u.holds j then u.change now j else j) v := by
  rw [JobUpdate.apply_eq_updateJob, updateJob_put _ _ (u.change_id now)]

theorem job?_put (hjob : (s.job? j.id).isSome = true) : (s.put j v).job? j.id = some j := by
  obtain ⟨old, hold⟩ := Option.isSome_iff_exists.mp hjob
  have hpick : ((fun r : Job => r.id == j.id) ∘ fun r => if r.id == j.id then j else r) = fun r => r.id == j.id := by
    funext r
    rw [Function.comp_apply]
    split
    · rename_i hr
      rw [beq_self_eq_true, hr]
    · rfl
  change (updateWhere _ _ s.jobs).find? _ = _
  rw [updateWhere, List.find?_map, hpick]
  change (s.job? j.id).map _ = _
  rw [hold, Option.map_some, id_of_job? hold, if_pos (beq_self_eq_true j.id)]

theorem takesReport_put (hjob : (s.job? j.id).isSome = true) :
    (s.put j v).takesReport j.id = !j.status.isTerminal := by
  rw [Bool.eq_iff_iff, takesReport_iff, Bool.not_eq_true']
  constructor
  · rintro ⟨r, hr, hid, hopen⟩
    obtain ⟨old, -, rfl⟩ := mem_updateWhere.mp hr
    split at hid
    · rename_i hpicked
      rw [if_pos hpicked] at hopen
      exact hopen
    · rename_i hother
      exact absurd (beq_iff_eq.mpr hid) hother
  · intro hopen
    exact ⟨j, mem_of_job? (job?_put hjob), rfl, hopen⟩

/-! ### Reports on the job -/

variable {w : Webhook} {loaded : Job} {times : ReportTimes}

theorem finishReport_of_takes (hverified : w.Verified) (hloaded : loaded.status.isTerminal = false)
    (htakes : s.takesReport w.jobId = true) (times : ReportTimes) :
    (s.finishReport loaded w times).2 = s.afterReport loaded w times := by
  rw [finishReport, hloaded, if_neg Bool.false_ne_true, updateByReport, hverified.bindAll_jobTexts, htakes,
    hverified.bindAll_artifactTexts]
  rfl

theorem writeReport_put (hid : w.jobId = j.id) (hopen : j.status.isTerminal = false) (unstarted : Bool) :
    (s.put j v).writeReport w unstarted times = s.put (j.withReport w unstarted times) v := by
  rw [writeReport, hid, updateJob_put]
  · rw [hopen]
    rfl
  · intro j
    rfl

theorem afterReport_put_of_none (hid : w.jobId = j.id) (hopen : j.status.isTerminal = false)
    (hnone : w.artifact? = none) :
    (s.put j v).afterReport loaded w times = s.put (j.withReport w loaded.startedAt.isNone times) v := by
  rw [afterReport, writeReport_put hid hopen, writeArtifact, hnone]

theorem afterReport_put_of_some (hid : w.jobId = j.id) (hopen : j.status.isTerminal = false)
    (hversion : loaded.versionId = v.id) (huntrained : v.artifactUrl = none) {url : Text}
    (hartifact : w.artifact? = some url) :
    (s.put j v).afterReport loaded w times
      = s.put (j.withReport w loaded.startedAt.isNone times) (v.withArtifact w url) := by
  rw [afterReport, writeReport_put hid hopen, writeArtifact, hartifact, hversion]
  dsimp only
  rw [updateVersion_put]
  · rw [huntrained]
    rfl
  · intro v
    rfl

end Store

/-! ### What races -/

/-- What a store becomes when a report completes a job under the id of the worker that did it. Only the times of the job
are left open. -/
def Store.CompletedBy (s : Store) (job : Job) (version : Version) (externalId : Text) (w : Webhook) (url : Text)
    (after : Store) : Prop :=
  ∃ startedAt finishedAt updatedAt, after = s.put
    { job with
      status := .completed, error := none, externalId := some externalId, logsUrl := w.logsUrl, startedAt, finishedAt,
      updatedAt }
    (version.withArtifact w url)

/-- The reply to a dispatch is handled, and one of the reports that came in since is answered. -/
structure Traffic.Ended (σ : Traffic) (place first : Nat) (w : Webhook) : Prop where
  settled : ∃ jobId, σ.dispatches[place]? = some (.settling jobId [])
  answered : ∃ later times answer, first ≤ later ∧ σ.reports[later]? = some (.answered w times answer)

def Traffic.AnswersAll (σ : Traffic) (first : Nat) : Prop :=
  ∀ (later : Nat) w times answer, first ≤ later → σ.reports[later]? = some (.answered w times answer) →
    ∃ result, answer = .ok result

/-- What goes on while a dispatch is answered: its reply comes, the statements that follow are made, and reports of a
list come in and are written, each of them any number of times. Reports that came before are left. -/
inductive Event.Races (place first : Nat) (reply : Reply) (reports : List Webhook) : Event → Prop
  | receive {maxDepth : Nat} (hdepth : 0 < maxDepth) (now : Instant) :
      Races place first reply reports (.dispatch place (.receive (.ok reply) maxDepth now))
  | write (now : Instant) : Races place first reply reports (.dispatch place (.write now))
  | load {w : Webhook} (hw : w ∈ reports) : Races place first reply reports (.report (.load w))
  | update {later : Nat} (hlater : first ≤ later) (times : ReportTimes) :
      Races place first reply reports (.report (.update later times))

/-- A job that a worker got and accepts: nothing is recorded of it yet, and its version has no artifact. The worker
answers with an id and completes the job with an artifact. -/
structure Race where
  store : Store
  job : Job
  version : Version
  worker : WorkerAddress
  request : SentRequest
  reply : Reply
  externalId : Text
  completion : Webhook
  url : Text
  jobIds : (store.jobs.map (·.id)).Nodup
  versionIds : (store.versions.map (·.id)).Nodup
  hasJob : store.job? job.id = some job
  loads : job.load = .ok job
  bindable : job.id.bindable = .ok job.id
  hasVersion : store.version? job.versionId = some version
  pending : job.status = .pending
  unnamed : job.externalId = none
  untrained : version.artifactUrl = none
  accepted : ∀ maxDepth > 0, worker.acceptance request (.ok reply) maxDepth = .ok (some externalId)
  writable : externalId.isEncodable = true
  processed : (Webhook.bare job.id .processing).Verified
  completed : completion.Verified
  about : completion.jobId = job.id
  artifact : completion.artifact? = some url
  faultless : completion.error = none
  logged : completion.logsUrl.isSome = true

/-- However a reply and reports come in from now on, and however often: no report fails, an end can always be reached,
and it is always the same. -/
def Traffic.Converges (σ : Traffic) (place : Nat) (reply : Reply) (reports : List Webhook) (last : Webhook)
    (outcome : Store → Prop) : Prop :=
  ∀ events, (∀ e ∈ events, e.Races place σ.reports.length reply reports) →
    (σ.run events).AnswersAll σ.reports.length ∧
    (∃ more, (∀ e ∈ more, e.Races place σ.reports.length reply reports) ∧
      ((σ.run events).run more).Ended place σ.reports.length last) ∧
    ((σ.run events).Ended place σ.reports.length last → outcome (σ.run events).studio.store)

namespace Race

variable (r : Race)

def reports : List Webhook :=
  [.bare r.job.id .processing, r.completion]

/-- What the two rows can be: the completion was written or not, and the id was recorded or not. -/
structure Rows (ended : Bool) (externalId : Option Text) (j : Job) (v : Version) : Prop where
  id : j.id = r.job.id
  versionId : j.versionId = r.job.versionId
  provider : j.provider = r.job.provider
  createdAt : j.createdAt = r.job.createdAt
  loads : j.load = .ok j
  externalId : j.externalId = externalId
  early : ended = false → j.status.isTerminal = false ∧ v = r.version
  late : ended = true → j.status = .completed ∧ j.error = none ∧ j.logsUrl = r.completion.logsUrl ∧
    v = r.version.withArtifact r.completion r.url

inductive Stands : Option Text → Dispatching → Prop
  | asked : Stands none (.asked r.job.id r.worker r.request)
  | received (now : Instant) :
      Stands none (.settling r.job.id [.recordExternalId (some r.externalId), .recordStart now, .startProcessing])
  | named (now : Instant) : Stands (some r.externalId) (.settling r.job.id [.recordStart now, .startProcessing])
  | started : Stands (some r.externalId) (.settling r.job.id [.startProcessing])
  | settled : Stands (some r.externalId) (.settling r.job.id [])

/-- What a report that came in since the start can be. A job that was over when it was loaded is over, and so is one for
which a completion was answered. -/
inductive Hears (ended : Bool) : Reporting → Prop
  | loaded {w : Webhook} {j : Job} (hw : w ∈ r.reports) (hversion : j.versionId = r.job.versionId)
      (hended : j.status.isTerminal = true → ended = true) : Hears ended (.loaded w j)
  | answered {w : Webhook} {times : ReportTimes} {answer : Except Failure WebhookResult}
      (hgood : ∃ result, answer = .ok result) (hended : w = r.completion → ended = true) :
      Hears ended (.answered w times answer)

structure At (place first : Nat) (ended : Bool) (externalId : Option Text) (σ : Traffic) : Prop where
  rows : ∃ j v, σ.studio.store = r.store.put j v ∧ r.Rows ended externalId j v
  stands : ∃ d, σ.dispatches[place]? = some d ∧ r.Stands externalId d
  arrived : first ≤ σ.reports.length
  hears : ∀ (later : Nat) report, first ≤ later → σ.reports[later]? = some report → r.Hears ended report

variable {r} {ended : Bool} {externalId : Option Text} {j : Job} {v : Version}

theorem jobId_of_mem {w : Webhook} (hw : w ∈ r.reports) : w.jobId = r.job.id := by
  rcases List.mem_cons.mp hw with rfl | hw
  · rfl
  · rw [List.mem_singleton.mp hw]
    exact r.about

theorem verified_of_mem {w : Webhook} (hw : w ∈ r.reports) : w.Verified := by
  rcases List.mem_cons.mp hw with rfl | hw
  · exact r.processed
  · rw [List.mem_singleton.mp hw]
    exact r.completed

/-! ### The rows -/

theorem rows_start : r.Rows false none r.job r.version where
  id := rfl
  versionId := rfl
  provider := rfl
  createdAt := rfl
  loads := r.loads
  externalId := r.unnamed
  early := by
    intro _
    rw [r.pending]
    exact ⟨rfl, rfl⟩
  late := by
    intro h
    cases h

theorem versionId_version : r.version.id = r.job.versionId :=
  Store.id_of_version? r.hasVersion

theorem Rows.job?_isSome (h : r.Rows ended externalId j v) : (r.store.job? j.id).isSome = true := by
  rw [h.id, r.hasJob]
  rfl

theorem Rows.isTerminal_eq (h : r.Rows ended externalId j v) : j.status.isTerminal = ended := by
  cases ended with
  | false => exact (h.early rfl).1
  | true =>
      rw [(h.late rfl).1]
      rfl

/-- A statement that leaves alone what a completion wrote changes no more than what it records. -/
theorem Rows.record (h : r.Rows ended none j v) (now : Instant) :
    r.Rows ended (some r.externalId)
      (if (JobUpdate.recordExternalId (some r.externalId)).holds j then
        (JobUpdate.recordExternalId (some r.externalId)).change now j else j) v := by
  have hholds : (JobUpdate.recordExternalId (some r.externalId)).holds j = true := by
    rw [JobUpdate.holds, h.externalId]
    rfl
  rw [if_pos hholds]
  exact ⟨h.id, h.versionId, h.provider, h.createdAt, Job.load_change h.loads _ now, rfl, h.early, h.late⟩

theorem Rows.start (h : r.Rows ended externalId j v) (started now : Instant) :
    r.Rows ended externalId
      (if (JobUpdate.recordStart started).holds j then (JobUpdate.recordStart started).change now j else j) v := by
  split
  · exact ⟨h.id, h.versionId, h.provider, h.createdAt, Job.load_change h.loads _ now, h.externalId, h.early, h.late⟩
  · exact h

/-- A job that is over is not pending any more, so it is not made processing again. -/
theorem Rows.process (h : r.Rows ended externalId j v) (now : Instant) :
    r.Rows ended externalId
      (if JobUpdate.startProcessing.holds j then JobUpdate.startProcessing.change now j else j) v := by
  split
  · rename_i hpending
    refine ⟨h.id, h.versionId, h.provider, h.createdAt, Job.load_change h.loads _ now, h.externalId, ?_, ?_⟩
    · intro hended
      exact ⟨rfl, (h.early hended).2⟩
    · intro hended
      have hstatus : j.status = .pending := beq_iff_eq.mp hpending
      rw [(h.late hended).1] at hstatus
      cases hstatus
  · exact h

theorem Rows.report (h : r.Rows false externalId j v) {w : Webhook} (hw : w ∈ r.reports) {loaded : Job}
    (hversion : loaded.versionId = r.job.versionId) (times : ReportTimes) :
    ∃ ended j' v', (r.store.put j v).afterReport loaded w times = r.store.put j' v' ∧ r.Rows ended externalId j' v' ∧
      (w = r.completion → ended = true) := by
  obtain ⟨hopen, rfl⟩ := h.early rfl
  have hloads := Job.load_withReport h.loads w loaded.startedAt.isNone times
  rcases List.mem_cons.mp hw with rfl | hw
  · refine ⟨false, _, _, Store.afterReport_put_of_none h.id.symm hopen rfl, ?_, ?_⟩
    · refine ⟨h.id, h.versionId, h.provider, h.createdAt, hloads, h.externalId, fun _ => ⟨rfl, rfl⟩, ?_⟩
      intro hended
      cases hended
    · intro hsame
      have hartifact := r.artifact
      rw [← hsame] at hartifact
      cases hartifact
  · obtain rfl := List.mem_singleton.mp hw
    have hput : (r.store.put j r.version).afterReport loaded r.completion times = _ :=
      Store.afterReport_put_of_some (r.about.trans h.id.symm) hopen (hversion.trans versionId_version.symm) r.untrained
        r.artifact
    refine ⟨true, _, _, hput, ?_, fun _ => rfl⟩
    refine ⟨h.id, h.versionId, h.provider, h.createdAt, hloads, h.externalId, ?_, ?_⟩
    · intro hended
      cases hended
    · intro _
      refine ⟨?_, r.faultless, ?_, rfl⟩
      · rw [Job.withReport, (Webhook.artifact?_eq_some_iff.mp r.artifact).1]
        rfl
      · obtain ⟨logs, hlogs⟩ := Option.isSome_iff_exists.mp r.logged
        rw [Job.withReport, hlogs]
        rfl

theorem Rows.eq_of_ended (h : r.Rows true externalId j v) :
    ∃ startedAt finishedAt updatedAt,
      j = { r.job with
        status := .completed, error := none, externalId, logsUrl := r.completion.logsUrl, startedAt, finishedAt,
        updatedAt } ∧
      v = r.version.withArtifact r.completion r.url := by
  obtain ⟨hstatus, herror, hlogs, hversion⟩ := h.late rfl
  obtain ⟨id, versionId, provider, status, named, logsUrl, error, startedAt, finishedAt, createdAt, updatedAt⟩ := j
  refine ⟨startedAt, finishedAt, updatedAt, ?_, hversion⟩
  obtain ⟨rfl, rfl, rfl, rfl, -, rfl, -, -⟩ := h
  cases hstatus
  cases herror
  cases hlogs
  rfl

/-! ### One step -/

variable {place first : Nat} {σ : Traffic}

theorem Hears.mono {ended' : Bool} {report : Reporting} (h : r.Hears ended report)
    (hle : ended = true → ended' = true) : r.Hears ended' report := by
  cases h with
  | loaded hw hversion hended => exact .loaded hw hversion fun hterminal => hle (hended hterminal)
  | answered hgood hended => exact .answered hgood fun hsame => hle (hended hsame)

theorem settlement_reply {maxDepth : Nat} (hdepth : 0 < maxDepth) (now : Instant) :
    Store.settlement (r.worker.acceptance r.request (.ok r.reply) maxDepth) now
      = [.recordExternalId (some r.externalId), .recordStart now, .startProcessing] := by
  rw [r.accepted maxDepth hdepth, Store.settlement, Option.all_some, r.writable]
  rfl

theorem At.advance (h : r.At place first ended externalId σ) {e : DispatchStep}
    (he : (∃ maxDepth > 0, ∃ now, e = .receive (.ok r.reply) maxDepth now) ∨ ∃ now, e = .write now) :
    ∃ externalId', r.At place first ended externalId' (σ.step (.dispatch place e)) := by
  obtain ⟨j, v, hstore, hrows⟩ := h.rows
  obtain ⟨d, hplace, hstands⟩ := h.stands
  have hsame := σ.step_dispatch hplace e
  have hafter := σ.getElem?_step_dispatch hplace e
  -- It is enough to say what the step makes of the store and of the dispatch.
  suffices hgoes : ∃ externalId' j' v', (d.advance σ.studio e).1.store = r.store.put j' v' ∧
      r.Rows ended externalId' j' v' ∧ r.Stands externalId' (d.advance σ.studio e).2 by
    obtain ⟨externalId', j', v', hstore', hrows', hstands'⟩ := hgoes
    refine ⟨externalId', ⟨j', v', ?_, hrows'⟩, ⟨_, hafter, hstands'⟩, ?_, ?_⟩
    · rw [hsame]
      exact hstore'
    · rw [hsame]
      exact h.arrived
    · rw [hsame]
      exact h.hears
  have hwritten (u : JobUpdate) (now : Instant) : (σ.studio.withStore (u.apply r.job.id now σ.studio.store)).store
      = r.store.put (if u.holds j then u.change now j else j) v := by
    rw [hstore, ← hrows.id]
    exact Store.apply_put u now
  rcases he with ⟨maxDepth, hdepth, now, rfl⟩ | ⟨now, rfl⟩
  · cases hstands with
    | asked =>
        refine ⟨none, j, v, hstore, hrows, ?_⟩
        rw [Dispatching.advance, settlement_reply hdepth]
        exact .received now
    | received started => exact ⟨none, j, v, hstore, hrows, .received started⟩
    | named started => exact ⟨_, j, v, hstore, hrows, .named started⟩
    | started => exact ⟨_, j, v, hstore, hrows, .started⟩
    | settled => exact ⟨_, j, v, hstore, hrows, .settled⟩
  · cases hstands with
    | asked => exact ⟨none, j, v, hstore, hrows, .asked⟩
    | received started => exact ⟨_, _, v, hwritten _ now, hrows.record now, .named started⟩
    | named started => exact ⟨_, _, v, hwritten _ now, hrows.start started now, .started⟩
    | started => exact ⟨_, _, v, hwritten _ now, hrows.process now, .settled⟩
    | settled => exact ⟨_, j, v, hstore, hrows, .settled⟩

theorem At.exists_load (h : r.At place first ended externalId σ) {w : Webhook} (hw : w ∈ r.reports) :
    ∃ j, σ.step (.report (.load w)) = { σ with reports := σ.reports ++ [.loaded w j] } ∧
      j.versionId = r.job.versionId ∧ j.status.isTerminal = ended := by
  obtain ⟨j, v, hstore, hrows⟩ := h.rows
  have hid : w.jobId = j.id := (jobId_of_mem hw).trans hrows.id.symm
  have hload : σ.intake.store.loadForReport w = .ok j := by
    refine Store.loadForReport_eq_ok_iff.mpr (Store.loadJob?_eq_some_iff.mpr ⟨?_, hrows.loads, ?_⟩)
    · rw [jobId_of_mem hw]
      exact r.bindable
    · change σ.studio.store.job? w.jobId = some j
      rw [hid, hstore, Store.job?_put hrows.job?_isSome]
  refine ⟨j, ?_, hrows.versionId, hrows.isTerminal_eq⟩
  rw [Traffic.step, Intake.step, hload]
  rfl

theorem At.load (h : r.At place first ended externalId σ) {w : Webhook} (hw : w ∈ r.reports) :
    r.At place first ended externalId (σ.step (.report (.load w))) := by
  obtain ⟨j, hstep, hversion, hterminal⟩ := h.exists_load hw
  rw [hstep]
  refine ⟨h.rows, h.stands, ?_, ?_⟩
  · exact Nat.le_trans h.arrived (List.length_append ▸ Nat.le_add_right _ _)
  · intro later report hlater hreport
    rcases getElem?_push_cases hreport with hold | rfl
    · exact h.hears later report hlater hold
    · exact .loaded hw hversion hterminal.symm.trans

/-- A report that is written is written to an open job, or it changes nothing. -/
theorem At.update (h : r.At place first ended externalId σ) {later : Nat} (hlater : first ≤ later)
    (times : ReportTimes) :
    ∃ ended', r.At place first ended' externalId (σ.step (.report (.update later times))) := by
  obtain ⟨j, v, hstore, hrows⟩ := h.rows
  have hanswers {w : Webhook} {loaded : Job} (hplace : σ.reports[later]? = some (.loaded w loaded)) {ended' : Bool}
      {j' : Job} {v' : Version} (hstore' : (σ.studio.store.finishReport loaded w times).2 = r.store.put j' v')
      (hrows' : r.Rows ended' externalId j' v') (hle : ended = true → ended' = true)
      (hw : w ∈ r.reports) (hended : w = r.completion → ended' = true) :
      r.At place first ended' externalId (σ.step (.report (.update later times))) := by
    have hgood := (verified_of_mem hw).exists_finishReport σ.studio.store loaded times
    have hstep : σ.intake.step (.update later times) = _ := Intake.step_update times hplace
    rw [Traffic.step, hstep]
    refine ⟨⟨j', v', hstore', hrows'⟩, h.stands, ?_, ?_⟩
    · exact Nat.le_trans h.arrived (Nat.le_of_eq (List.length_set).symm)
    · intro other report hother hreport
      rcases getElem?_set_cases hreport with ⟨-, rfl⟩ | ⟨-, hold⟩
      · exact .answered hgood hended
      · exact (h.hears other report hother hold).mono hle
  have hquiet (hsame : σ.intake.step (.update later times) = σ.intake) :
      r.At place first ended externalId (σ.step (.report (.update later times))) := by
    have hstep : σ.step (.report (.update later times)) = σ := by
      rw [Traffic.step, hsame]
      rfl
    rw [hstep]
    exact h
  cases hreport : σ.reports[later]? with
  | none => exact ⟨ended, hquiet (by simp only [Intake.step, Traffic.intake, hreport])⟩
  | some report =>
      cases h.hears later report hlater hreport with
      | answered _ _ => exact ⟨ended, hquiet (by simp only [Intake.step, Traffic.intake, hreport])⟩
      | @loaded w loaded hw hversion hended =>
          cases hloaded : loaded.status.isTerminal with
          | true =>
              refine ⟨ended, hanswers hreport ?_ hrows id hw fun _ => hended hloaded⟩
              rw [Store.finishReport, if_pos hloaded, hstore]
          | false =>
              have htakes : σ.studio.store.takesReport w.jobId = !ended := by
                rw [hstore, jobId_of_mem hw, ← hrows.id, Store.takesReport_put hrows.job?_isSome, hrows.isTerminal_eq]
              cases ended with
              | true =>
                  refine ⟨true, hanswers hreport ?_ hrows id hw fun _ => rfl⟩
                  rw [(Store.finishReport_of_not_takes loaded times htakes).1, hstore]
              | false =>
                  obtain ⟨ended', j', v', hstore', hrows', hended'⟩ := hrows.report hw hversion times
                  refine ⟨ended', hanswers hreport ?_ hrows' ?_ hw hended'⟩
                  · rw [Store.finishReport_of_takes (verified_of_mem hw) hloaded htakes, hstore, hstore']
                  · intro hfalse
                    cases hfalse

/-! ### The whole race -/

theorem At.step (h : r.At place first ended externalId σ) {e : Event} (he : e.Races place first r.reply r.reports) :
    ∃ ended' externalId', r.At place first ended' externalId' (σ.step e) := by
  cases he with
  | receive hdepth now =>
      obtain ⟨externalId', hafter⟩ := h.advance (Or.inl ⟨_, hdepth, now, rfl⟩)
      exact ⟨ended, externalId', hafter⟩
  | write now =>
      obtain ⟨externalId', hafter⟩ := h.advance (Or.inr ⟨now, rfl⟩)
      exact ⟨ended, externalId', hafter⟩
  | load hw => exact ⟨ended, externalId, h.load hw⟩
  | update hlater times =>
      obtain ⟨ended', hafter⟩ := h.update hlater times
      exact ⟨ended', externalId, hafter⟩

theorem At.run (h : r.At place first ended externalId σ) {events : List Event}
    (hevents : ∀ e ∈ events, e.Races place first r.reply r.reports) :
    ∃ ended' externalId', r.At place first ended' externalId' (σ.run events) := by
  induction events generalizing σ ended externalId with
  | nil => exact ⟨ended, externalId, h⟩
  | cons e rest ih =>
      rw [List.forall_mem_cons] at hevents
      obtain ⟨ended', externalId', hafter⟩ := h.step hevents.1
      exact ih hafter hevents.2

theorem at_start (hstore : σ.studio.store = r.store)
    (hplace : σ.dispatches[place]? = some (.asked r.job.id r.worker r.request)) :
    r.At place σ.reports.length false none σ where
  rows := by
    refine ⟨r.job, r.version, ?_, rows_start⟩
    rw [hstore, Store.put_self r.jobIds r.versionIds (Store.mem_of_job? r.hasJob) (Store.mem_of_version? r.hasVersion)]
  stands := ⟨_, hplace, .asked⟩
  arrived := Nat.le_refl _
  hears := by
    intro later report hlater hreport
    exact absurd (List.getElem?_eq_some_iff.mp hreport).1 (Nat.not_lt.mpr hlater)

theorem At.exists_settled (h : r.At place first ended externalId σ) :
    ∃ events, (∀ e ∈ events, e.Races place first r.reply r.reports) ∧
      (σ.run events).dispatches[place]? = some (.settling r.job.id []) := by
  obtain ⟨d, hplace, hstands⟩ := h.stands
  have hwrites {τ : Traffic} {updates : List JobUpdate}
      (hsettling : τ.dispatches[place]? = some (.settling r.job.id updates)) :
      ∃ events, (∀ e ∈ events, e.Races place first r.reply r.reports) ∧
        (τ.run events).dispatches[place]? = some (.settling r.job.id []) := by
    refine ⟨_, ?_, τ.getElem?_run_writes hsettling 0⟩
    intro e he
    rw [List.eq_of_mem_replicate he]
    exact .write 0
  cases hstands with
  | asked =>
      have hreceived := σ.getElem?_step_dispatch hplace (.receive (.ok r.reply) 1 0)
      obtain ⟨events, hevents, hsettled⟩ := hwrites hreceived
      have hall := List.forall_mem_cons.mpr ⟨.receive Nat.zero_lt_one 0, hevents⟩
      exact ⟨.dispatch place (.receive (.ok r.reply) 1 0) :: events, hall, hsettled⟩
  | received _ | named _ | started | settled => exact hwrites hplace

theorem At.exists_ended (h : r.At place first ended externalId σ) :
    ∃ events, (∀ e ∈ events, e.Races place first r.reply r.reports) ∧
      (σ.run events).Ended place first r.completion := by
  obtain ⟨writes, hwrites, hsettled⟩ := h.exists_settled
  obtain ⟨_, _, hwritten⟩ := h.run hwrites
  have hw : r.completion ∈ r.reports := List.mem_cons_of_mem _ List.mem_cons_self
  obtain ⟨j, hload, -, -⟩ := hwritten.exists_load hw
  have hplace : ((σ.run writes).step (.report (.load r.completion))).reports[(σ.run writes).reports.length]?
      = some (.loaded r.completion j) := by
    rw [hload]
    exact List.getElem?_concat_length
  refine ⟨writes ++ [.report (.load r.completion), .report (.update (σ.run writes).reports.length (.still 0))], ?_, ?_⟩
  · intro e he
    rcases List.mem_append.mp he with he | he
    · exact hwrites e he
    · rcases List.mem_pair.mp he with rfl | rfl
      · exact .load hw
      · exact .update hwritten.arrived _
  · rw [Traffic.run_append]
    exact ⟨⟨r.job.id, hsettled⟩, _, _, _, hwritten.arrived, Traffic.getElem?_step_update _ hplace (.still 0)⟩

/-- Whatever the order: every report is answered, and when the reply is handled and a completion is answered, the job is
completed under the id of the worker, its version has the artifact, and nothing else has changed. -/
theorem At.outcome (h : r.At place first ended externalId σ) :
    σ.AnswersAll first ∧
      (σ.Ended place first r.completion →
        r.store.CompletedBy r.job r.version r.externalId r.completion r.url σ.studio.store) := by
  constructor
  · intro later w times answer hlater hreport
    cases h.hears later _ hlater hreport with
    | answered hgood _ => exact hgood
  · rintro ⟨⟨jobId, hsettled⟩, later, times, answer, hlater, hanswered⟩
    have hended : ended = true := by
      cases h.hears later _ hlater hanswered with
      | answered _ hended => exact hended rfl
    have hnamed : externalId = some r.externalId := by
      obtain ⟨d, hd, hstands⟩ := h.stands
      rw [hsettled] at hd
      cases hd
      cases hstands
      rfl
    subst hended hnamed
    obtain ⟨j, v, hput, hrows⟩ := h.rows
    obtain ⟨startedAt, finishedAt, updatedAt, rfl, rfl⟩ := hrows.eq_of_ended
    exact ⟨startedAt, finishedAt, updatedAt, hput⟩

/-- Where the request was just sent, everything that can come leads to the completed job. -/
theorem converges (hstore : σ.studio.store = r.store)
    (hplace : σ.dispatches[place]? = some (.asked r.job.id r.worker r.request)) :
    σ.Converges place r.reply r.reports r.completion
      (r.store.CompletedBy r.job r.version r.externalId r.completion r.url) := by
  intro events hevents
  obtain ⟨_, _, hafter⟩ := (at_start hstore hplace).run hevents
  obtain ⟨hanswers, houtcome⟩ := hafter.outcome
  exact ⟨hanswers, hafter.exists_ended, houtcome⟩

end Race

end PromptStudio
