import PromptStudio.Proofs.Training.Answer
import PromptStudio.Proofs.Training.Start
import PromptStudio.Proofs.Worker.Race

/-!
# Reports during a dispatch

While a job is at the worker, reports on it may be applied. What then comes of the dispatch is written by statements
with conditions of their own: the ones that say how the job stands ask for a pending job, the ones for the worker's id
and for the start ask for a job without them. No report leaves a job pending. So a dispatch says how its job stands only
if no report did, while the id and the start are written beside the reports.

A text without bytes stops the statements before the first of them. Then the dispatch ends in a fault and leaves the job
as the reports left it, even if the worker accepted it.
-/

namespace PromptStudio

/-- What reports write of how a job stands is the same for two rows. -/
structure Job.StandsAs (j j' : Job) : Prop where
  status : j.status = j'.status
  error : j.error = j'.error
  logsUrl : j.logsUrl = j'.logsUrl
  finishedAt : j.finishedAt = j'.finishedAt

def JobUpdate.externalId? : JobUpdate → Option Text
  | recordExternalId externalId => externalId
  | _ => none

namespace Job

variable {j : Job}

theorem StandsAs.refl (j : Job) : j.StandsAs j :=
  ⟨rfl, rfl, rfl, rfl⟩

theorem StandsAs.trans {j₁ j₂ j₃ : Job} (h : j₁.StandsAs j₂) (h' : j₂.StandsAs j₃) : j₁.StandsAs j₃ where
  status := h.status.trans h'.status
  error := h.error.trans h'.error
  logsUrl := h.logsUrl.trans h'.logsUrl
  finishedAt := h.finishedAt.trans h'.finishedAt

def updated (j : Job) (u : JobUpdate) (now : Instant) : Job :=
  if u.holds j then u.change now j else j

theorem settled_nil (now : Instant) (j : Job) : JobUpdate.settled [] now j = j :=
  rfl

theorem settled_cons (u : JobUpdate) (rest : List JobUpdate) (now : Instant) (j : Job) :
    JobUpdate.settled (u :: rest) now j = JobUpdate.settled rest now (j.updated u now) :=
  rfl

def settled (j : Job) (acceptance : Except Failure (Option Text)) (now : Instant) : Job :=
  JobUpdate.settled (Store.settlement acceptance now) now j

/-! ### One statement -/

section Updated

variable (j : Job) (u : JobUpdate) (now : Instant)

theorem updated_of_holds {j : Job} {now : Instant} (h : u.holds j = true) : j.updated u now = u.change now j :=
  if_pos h

theorem externalId_updated : (j.updated u now).externalId = (j.externalId <|> u.externalId?) := by
  rw [updated]
  cases u with
  | recordExternalId externalId => cases hnone : j.externalId <;> simp [JobUpdate.holds, JobUpdate.change,
      JobUpdate.externalId?, hnone]
  | _ => split <;> simp [JobUpdate.change, JobUpdate.externalId?]

theorem startedAt_updated : (j.updated u now).startedAt = (j.startedAt <|> u.start?.map .instant) := by
  rw [updated]
  cases u with
  | recordStart started => cases hnone : j.startedAt <;> simp [JobUpdate.holds, JobUpdate.change, JobUpdate.start?,
      hnone]
  | _ => split <;> simp [JobUpdate.change, JobUpdate.start?]

theorem standsAs_updated_recordExternalId (externalId : Option Text) :
    (j.updated (.recordExternalId externalId) now).StandsAs j := by
  rw [updated]
  split
  · exact ⟨rfl, rfl, rfl, rfl⟩
  · exact .refl j

theorem standsAs_updated_recordStart (started : Instant) : (j.updated (.recordStart started) now).StandsAs j := by
  rw [updated]
  split
  · exact ⟨rfl, rfl, rfl, rfl⟩
  · exact .refl j

end Updated

theorem standsAs_updated (h : j.status ≠ .pending) (u : JobUpdate) (now : Instant) : (j.updated u now).StandsAs j := by
  cases u with
  | recordExternalId externalId => exact j.standsAs_updated_recordExternalId now externalId
  | recordStart started => exact j.standsAs_updated_recordStart now started
  | leavePending | failRefused | startProcessing =>
      rw [updated]
      split
      · rename_i hholds
        exact absurd (beq_iff_eq.mp hholds) h
      · exact .refl j

theorem standsAs_settled (h : j.status ≠ .pending) (updates : List JobUpdate) (now : Instant) :
    (JobUpdate.settled updates now j).StandsAs j := by
  induction updates generalizing j with
  | nil => exact .refl j
  | cons u rest ih =>
      have hstep := standsAs_updated h u now
      rw [settled_cons]
      exact (ih (hstep.status ▸ h)).trans hstep

/-! ### What comes of each outcome -/

section Settled

variable {externalId : Option Text} (cause : Refusal) (now : Instant)

theorem settled_of_encodable (h : externalId.all Text.isEncodable = true) :
    j.settled (.ok externalId) now
      = ((j.updated (.recordExternalId externalId) now).updated (.recordStart now) now).updated .startProcessing
          now := by
  simp only [settled, Store.settlement, h, if_true, settled_cons, settled_nil]

theorem names_settled_of_accepted (j : Job) (h : externalId.all Text.isEncodable = true) :
    (j.settled (.ok externalId) now).externalId = (j.externalId <|> externalId) ∧
      (j.settled (.ok externalId) now).startedAt = (j.startedAt <|> some (.instant now)) := by
  rw [settled_of_encodable now h]
  simp [externalId_updated, startedAt_updated, JobUpdate.externalId?, JobUpdate.start?]

theorem settled_of_accepted (h : externalId.all Text.isEncodable = true) (hpending : j.status = .pending) :
    (j.settled (.ok externalId) now).status = .processing ∧ (j.settled (.ok externalId) now).error = none := by
  have hnamed := ((j.updated (.recordExternalId externalId) now).standsAs_updated_recordStart now now).trans
    (j.standsAs_updated_recordExternalId now externalId)
  rw [settled_of_encodable now h, updated_of_holds .startProcessing (beq_iff_eq.mpr (hnamed.status.trans hpending))]
  exact ⟨rfl, rfl⟩

/-- A refusal writes neither an id nor a start. -/
theorem names_settled_of_refused (j : Job) :
    (j.settled (.error (.refused cause)) now).externalId = j.externalId ∧
      (j.settled (.error (.refused cause)) now).startedAt = j.startedAt := by
  rw [settled, Store.settlement.eq_def]
  dsimp only
  split
  · split <;> simp [settled_cons, settled_nil, externalId_updated, startedAt_updated, JobUpdate.externalId?,
      JobUpdate.start?]
  · simp [settled_cons, settled_nil, externalId_updated, startedAt_updated, JobUpdate.externalId?, JobUpdate.start?]
  · exact ⟨rfl, rfl⟩

theorem settled_of_rejected {cause : Refusal} (hcode : cause.code = .workerRejected)
    (h : cause.message.isEncodable = true) (hpending : j.status = .pending) :
    (j.settled (.error (.refused cause)) now).status = .failed ∧
      (j.settled (.error (.refused cause)) now).error = some cause.message ∧
      (j.settled (.error (.refused cause)) now).finishedAt = some (.instant now) := by
  simp only [settled, Store.settlement, hcode, h, if_true, settled_cons, settled_nil, updated, JobUpdate.holds,
    hpending, beq_self_eq_true, JobUpdate.change, and_self]

theorem settled_of_unavailable {cause : Refusal} (hcode : cause.code = .workerUnavailable)
    (hpending : j.status = .pending) :
    (j.settled (.error (.refused cause)) now).status = .pending ∧
      (j.settled (.error (.refused cause)) now).error = some (Text.ofString Store.unreachableError) := by
  simp only [settled, Store.settlement, hcode, settled_cons, settled_nil, updated, JobUpdate.holds, hpending,
    beq_self_eq_true, if_true, JobUpdate.change, and_self]

end Settled

end Job

namespace Store

variable {s : Store} {id : Text} {j : Job}

theorem job?_settle_self (hjob : s.job? id = some j) (acceptance : Except Failure (Option Text)) (now : Instant) :
    ((s.settle id acceptance now).2).job? id = some (j.settled acceptance now) := by
  rw [job?_settle, hjob, Option.map_some, id_of_job? hjob, beq_self_eq_true, if_pos rfl, Job.settled]

/-- A dispatch that ends in a failure made no statement. -/
theorem settle_of_ne_ok {acceptance : Except Failure (Option Text)} {now : Instant}
    (h : (s.settle id acceptance now).1 ≠ .ok ()) : (s.settle id acceptance now).2 = s := by
  revert h
  rw [settle.eq_def]
  split
  · split
    · split
      · exact fun h => absurd rfl h
      · exact fun _ => rfl
    · exact fun h => absurd rfl h
    · exact fun _ => rfl
  · exact fun _ => rfl
  · split
    · exact fun h => absurd rfl h
    · exact fun _ => rfl

/-! ### Reports on a job that can be loaded -/

/-- The row of a job that can be loaded: no other row has its id. -/
structure Loads (s : Store) (id : Text) (j : Job) : Prop where
  jobIds : (s.jobs.map (·.id)).Nodup
  loads : s.loadJob? id = .ok (some j)

namespace Loads

theorem job? (h : s.Loads id j) : s.job? id = some j :=
  loadJob?_eq_some h.loads

theorem handleWebhook_of_ne (h : s.Loads id j) {w : Webhook} (hne : w.jobId ≠ id) (times : ReportTimes) :
    ((s.handleWebhook w times).2).Loads id j := by
  obtain ⟨hbindable, hloads, hjob⟩ := loadJob?_eq_some_iff.mp h.loads
  rcases handleWebhook_cases h.jobIds w times with hsame | ⟨loaded, -, -, hafter⟩
  · rw [hsame]
    exact h
  · rw [hafter]
    refine ⟨by rw [jobIds_afterReport]; exact h.jobIds, loadJob?_eq_some_iff.mpr ⟨hbindable, hloads, ?_⟩⟩
    rw [job?_afterReport, hjob, Option.map_some, id_of_job? hjob, beq_eq_false_iff_ne.mpr (Ne.symm hne)]
    rfl

theorem afterReport {w : Webhook} (h : s.Loads w.jobId j) (hopen : j.status.isTerminal = false) (times : ReportTimes) :
    (s.afterReport j w times).Loads w.jobId (j.withReport w j.startedAt.isNone times) := by
  obtain ⟨hbindable, hloads, hjob⟩ := loadJob?_eq_some_iff.mp h.loads
  refine ⟨by rw [jobIds_afterReport]; exact h.jobIds, loadJob?_eq_some_iff.mpr ⟨hbindable, ?_, ?_⟩⟩
  · exact Job.load_withReport hloads w _ times
  · exact job?_afterReport_of_open hjob hopen

theorem handleWebhook_of_verified {w : Webhook} (h : s.Loads w.jobId j) (hopen : j.status.isTerminal = false)
    (hverified : w.Verified) (times : ReportTimes) : (s.handleWebhook w times).2 = s.afterReport j w times := by
  have htakes : s.takesReport w.jobId = true := by
    rw [takesReport_eq_of_job? h.jobIds h.job?, hopen]
    rfl
  rw [Store.handleWebhook, loadForReport_eq_ok_iff.mpr h.loads]
  exact finishReport_of_takes hverified hopen htakes times

/-- A report leaves no job pending that it is about, and one alone that it is not about. -/
theorem handleWebhook (h : s.Loads id j) (w : Webhook) (times : ReportTimes) :
    ∃ j', ((s.handleWebhook w times).2).Loads id j' ∧ (w.jobId ≠ id → j' = j) ∧
      (j.status ≠ .pending → j'.status ≠ .pending) ∧ (w.jobId = id → w.Verified → j'.status ≠ .pending) := by
  by_cases hid : w.jobId = id
  · subst hid
    have hreported := JobStatus.ofReport_ne_pending w.status
    rcases handleWebhook_cases h.jobIds w times with hsame | ⟨loaded, hloaded, hopen, hafter⟩
    · refine ⟨j, hsame.symm ▸ h, fun _ => rfl, fun hstatus => hstatus, ?_⟩
      intro _ hverified hpending
      have hopen : j.status.isTerminal = false := by
        rw [hpending]
        rfl
      have hwritten := (h.afterReport hopen times).job?
      rw [← h.handleWebhook_of_verified hopen hverified, hsame, h.job?, Option.some.injEq] at hwritten
      exact hreported ((congrArg Job.status hwritten).symm.trans hpending)
    · rw [h.job?, Option.some.injEq] at hloaded
      subst hloaded
      exact ⟨_, hafter.symm ▸ h.afterReport hopen times, fun hne => absurd rfl hne, fun _ => hreported,
        fun _ _ => hreported⟩
  · exact ⟨j, h.handleWebhook_of_ne hid times, fun _ => rfl, fun hstatus => hstatus, fun heq => absurd heq hid⟩

theorem deliver (h : s.Loads id j) (times : ReportTimes) (webhooks : List Webhook) :
    ∃ left, (s.deliver times webhooks).Loads id left ∧ ((∀ w ∈ webhooks, w.jobId ≠ id) → left = j) ∧
      (j.status ≠ .pending → left.status ≠ .pending) ∧
      ((∃ w ∈ webhooks, w.jobId = id ∧ w.Verified) → left.status ≠ .pending) := by
  induction webhooks generalizing s j with
  | nil => exact ⟨j, h, fun _ => rfl, fun hstatus => hstatus, fun ⟨_, hw, _⟩ => absurd hw List.not_mem_nil⟩
  | cons w rest ih =>
      obtain ⟨next, hnext, hother, hkept, hreported⟩ := h.handleWebhook w times
      obtain ⟨left, hleft, hothers, hkeptAfter, hreportedAfter⟩ := ih hnext
      refine ⟨left, hleft, ?_, fun hstatus => hkeptAfter (hkept hstatus), ?_⟩
      · intro hall
        rw [List.forall_mem_cons] at hall
        exact (hothers hall.2).trans (hother hall.1)
      · rintro ⟨v, hv, hid, hverified⟩
        rcases List.mem_cons.mp hv with rfl | hv
        · exact hkeptAfter (hreported hid hverified)
        · exact hreportedAfter ⟨v, hv, hid, hverified⟩

end Loads

end Store

theorem Traffic.loads_run (events : List Event) {id : Text} {j : Job}
    (hjob : (start.run events).studio.store.job? id = some j) : (start.run events).studio.store.Loads id j := by
  have hids := (sound_start.run events).jobs.jobIds
  have hstart : start.studio.JobsLoad := List.forall_mem_nil _
  have hloads : (start.run events).studio.JobsLoad :=
    run_induction (fun σ e h => (σ.moves_step e).jobsLoad h) hstart events
  have hbytes : id.isEncodable = true := by
    rw [← Store.id_of_job? hjob]
    exact hids.isEncodable (List.mem_map_of_mem (Store.mem_of_job? hjob))
  exact ⟨hids.distinct, Store.loadJob?_eq_some_iff.mpr
    ⟨Text.bindable_of_isEncodable hbytes, hloads j (Store.mem_of_job? hjob), hjob⟩⟩

namespace Studio

variable {k : Studio} {c : Context} {worker : WorkerAddress} {found : JobAnswer} {dataset : Dataset}
  {exchange : Exchange} {request : SentRequest}

/-- What a dispatch that asked the worker makes of its job, whichever reports arrive meanwhile.

A report on the job says how it stands, and the dispatch does not change that. If there was none, the job is processing
after an acceptance, failed after a refusal, and pending if the worker could not be reached. An acceptance writes the id
and the start where they are missing, and nothing else writes them. A dispatch that ends in a failure leaves the job as
the reports left it; neither an acceptance nor a refusal ends in one if its text has bytes. -/
theorem dispatch_gives_way_to_reports {j : Job} (hjob : k.store.Loads found.job.id j) (hpending : j.status = .pending)
    (hsent : request ∈ (k.dispatch c worker found dataset exchange).2) :
    ∃ left after,
      (k.store.deliver (.still c.now) exchange.deliveries).job? found.job.id = some left ∧
      (k.dispatch c worker found dataset exchange).1.2.store.job? found.job.id = some after ∧
      ((∀ w ∈ exchange.deliveries, w.jobId ≠ found.job.id) → left = j) ∧
      ((∃ w ∈ exchange.deliveries, w.jobId = found.job.id ∧ w.Verified) → after.StandsAs left) ∧
      (∀ externalId, worker.acceptance request exchange.outcome c.settings.nesting.reply = .ok externalId →
        externalId.all Text.isEncodable = true →
        (k.dispatch c worker found dataset exchange).1.1 = .ok () ∧
          after.externalId = (left.externalId <|> externalId) ∧
          after.startedAt = (left.startedAt <|> some (.instant c.now)) ∧
          ((∀ w ∈ exchange.deliveries, w.jobId ≠ found.job.id) → after.status = .processing ∧ after.error = none)) ∧
      (∀ cause, worker.acceptance request exchange.outcome c.settings.nesting.reply = .error (.refused cause) →
        after.externalId = left.externalId ∧ after.startedAt = left.startedAt ∧
          (cause.code = .workerRejected → cause.message.isEncodable = true →
            (k.dispatch c worker found dataset exchange).1.1 = .ok () ∧
              ((∀ w ∈ exchange.deliveries, w.jobId ≠ found.job.id) →
                after.status = .failed ∧ after.error = some cause.message ∧
                  after.finishedAt = some (.instant c.now))) ∧
          (cause.code = .workerUnavailable →
            (k.dispatch c worker found dataset exchange).1.1 = .ok () ∧
              ((∀ w ∈ exchange.deliveries, w.jobId ≠ found.job.id) →
                after.status = .pending ∧ after.error = some (Text.ofString Store.unreachableError)))) ∧
      ((k.dispatch c worker found dataset exchange).1.1 ≠ .ok () → after = left) := by
  obtain ⟨left, hleft, hquiet, -, hreported⟩ := hjob.deliver (.still c.now) exchange.deliveries
  obtain ⟨hanswer, hstore⟩ := dispatch_of_sent hsent
  have hafter := Store.job?_settle_self hleft.job?
    (worker.acceptance request exchange.outcome c.settings.nesting.reply) c.now
  have hopen : (∀ w ∈ exchange.deliveries, w.jobId ≠ found.job.id) → left.status = .pending := by
    intro hnone
    rw [hquiet hnone]
    exact hpending
  refine ⟨left, _, hleft.job?, hstore ▸ hafter, hquiet, ?_, ?_, ?_, ?_⟩
  · exact fun hsome => Job.standsAs_settled (hreported hsome) _ c.now
  · intro externalId haccepted hencodable
    rw [haccepted] at hanswer ⊢
    obtain ⟨hid, hstart⟩ := left.names_settled_of_accepted c.now hencodable
    refine ⟨?_, hid, hstart, fun hnone => Job.settled_of_accepted c.now hencodable (hopen hnone)⟩
    rw [hanswer, Store.settle, if_pos hencodable]
  · intro cause hrefused
    rw [hrefused] at hanswer ⊢
    obtain ⟨hid, hstart⟩ := left.names_settled_of_refused cause c.now
    refine ⟨hid, hstart, ?_, ?_⟩
    · intro hcode hencodable
      refine ⟨?_, fun hnone => Job.settled_of_rejected c.now hcode hencodable (hopen hnone)⟩
      simp only [hanswer, Store.settle, hcode, hencodable, if_true]
    · intro hcode
      refine ⟨?_, fun hnone => Job.settled_of_unavailable c.now hcode (hopen hnone)⟩
      simp only [hanswer, Store.settle, hcode]
  · intro hfailed
    rw [hanswer] at hfailed
    rw [Store.settle_of_ne_ok hfailed, hleft.job?, Option.some.injEq] at hafter
    exact hafter.symm

/-- Nothing is written of an acceptance whose id has no bytes. -/
theorem store_dispatch_of_unencodable {externalId : Option Text}
    (hsent : request ∈ (k.dispatch c worker found dataset exchange).2) (hquiet : exchange.deliveries = [])
    (haccepted : worker.acceptance request exchange.outcome c.settings.nesting.reply = .ok externalId)
    (hbytes : externalId.all Text.isEncodable = false) :
    (k.dispatch c worker found dataset exchange).1.2.store = k.store := by
  rw [(dispatch_of_sent hsent).2, haccepted, hquiet, Store.settle, hbytes]
  rfl

/-- Whether a call that sends a job again asks the worker, at an absolute address. -/
def asks (k : Studio) (c : Context) (worker : WorkerAddress) (id userId : Text) (exchange : Exchange) : Bool :=
  match k.store.jobForRetry id userId with
  | .ok (found, dataset) => (k.dispatch c worker found dataset exchange).2.any (·.url.isAbsolute)
  | .error _ => false

theorem exists_dispatch_of_asks {id userId : Text} (h : k.asks c worker id userId exchange = true) :
    ∃ (found : JobAnswer) (dataset : Dataset) (request : SentRequest), found.job.id = id ∧
      k.store.job? found.job.id = some found.job ∧ found.job.status = .pending ∧
      request ∈ (k.dispatch c worker found dataset exchange).2 ∧ request.url.isAbsolute = true := by
  rw [asks] at h
  split at h
  · rename_i found dataset hretry
    obtain ⟨request, hsent, habsolute⟩ := List.any_eq_true.mp h
    obtain ⟨hjob, hpending⟩ := Store.jobForRetry_eq_ok hretry
    have hid := Store.id_of_job? hjob
    exact ⟨found, dataset, request, hid, hid.symm ▸ hjob, hpending, hsent, habsolute⟩
  · cases h

end Studio


/-! ### The first job is sent -/

/-- What is stored when the first job was made and nobody was asked yet. -/
def Studio.withFirstJob : Studio :=
  (Traffic.start.run (Traffic.firstAdmission ++ [.dispatch 0 (.insert .small)])).studio

theorem Studio.loads_withFirstJob {id : Text} {j : Job} (hjob : withFirstJob.store.job? id = some j) :
    withFirstJob.store.Loads id j := by
  rw [withFirstJob] at hjob ⊢
  exact Traffic.loads_run _ hjob

/-- The worker reports that the first job failed, and then it agrees to it. -/
def Exchange.contradictory : Exchange :=
  { deliveries := [.bare "job-1" .failed], outcome := .ok (.agreeing Reply.naming) }

/-- The job stays failed. -/
theorem reported_failure_outlasts_acceptance :
    ∃ (found : JobAnswer) (dataset : Dataset) (request : SentRequest) (after : Job),
      Studio.withFirstJob.store.Loads found.job.id found.job ∧ found.job.status = .pending ∧
        request ∈ (Studio.withFirstJob.dispatch .small .small found dataset .contradictory).2 ∧
        (Studio.withFirstJob.dispatch .small .small found dataset .contradictory).1.2.store.job? "job-1" = some after ∧
        after.status = .failed ∧ after.error = none := by
  have hasks : Studio.withFirstJob.asks .small .small "job-1" "user" .contradictory = true := by decide +kernel
  have hreported : ((Studio.withFirstJob.store.deliver (.still 7) [.bare "job-1" .failed]).job? "job-1").map
      (fun j => (j.status, j.error)) = some (.failed, none) := by decide +kernel
  obtain ⟨found, dataset, request, hid, hjob, hpending, hsent, -⟩ := Studio.exists_dispatch_of_asks hasks
  have hloads := Studio.loads_withFirstJob hjob
  obtain ⟨left, after, hleft, hafter, -, hstands, -⟩ := Studio.dispatch_gives_way_to_reports hloads hpending hsent
  have hreport : ∃ w ∈ Exchange.contradictory.deliveries, w.jobId = found.job.id ∧ w.Verified :=
    ⟨_, List.mem_singleton_self _, hid.symm, Webhook.verified_bare_failed⟩
  rw [hid] at hleft hafter
  obtain ⟨row, hrow, hfailed⟩ := Option.map_eq_some_iff.mp hreported
  obtain rfl : row = left := Option.some.inj (hrow.symm.trans hleft)
  obtain ⟨hstatus, herror⟩ := Prod.mk.inj hfailed
  exact ⟨found, dataset, request, after, hloads, hpending, hsent, hafter,
    (hstands hreport).status.trans hstatus, (hstands hreport).error.trans herror⟩

def Reply.namingSurrogate : Bytes :=
  Utf8.ofString "\x7b\"externalJobId\":\"\\ud800\"\x7d"

/-- A worker that accepts the first job under an id without bytes leaves it pending. -/
theorem unencodable_acceptance_is_not_written :
    ¬ ∀ (k : Studio) (c : Context) (worker : WorkerAddress) (found : JobAnswer) (dataset : Dataset)
        (exchange : Exchange) (request : SentRequest) (externalId : Option Text),
      k.store.Loads found.job.id found.job → found.job.status = .pending →
      request ∈ (k.dispatch c worker found dataset exchange).2 →
      worker.acceptance request exchange.outcome c.settings.nesting.reply = .ok externalId → exchange.deliveries = [] →
      ∃ after, (k.dispatch c worker found dataset exchange).1.2.store.job? found.job.id = some after ∧
        after.status = .processing := by
  intro hclaim
  have hasks : Studio.withFirstJob.asks .small .small "job-1" "user" (.agreeing Reply.namingSurrogate) = true := by
    decide +kernel
  have hnames : (WorkerAddress.accepted (.agreeing Reply.namingSurrogate) Nesting.usual.reply).toOption.map
      (·.all Text.isEncodable) = some false := by decide +kernel
  obtain ⟨found, dataset, request, -, hjob, hpending, hsent, habsolute⟩ := Studio.exists_dispatch_of_asks hasks
  obtain ⟨externalId, haccepted, hbytes⟩ : ∃ externalId,
      WorkerAddress.small.acceptance request (Exchange.agreeing Reply.namingSurrogate).outcome Nesting.usual.reply
          = .ok externalId ∧ externalId.all Text.isEncodable = false := by
    rw [Exchange.agreeing, WorkerAddress.acceptance_of_absolute _ _ _ habsolute]
    cases hreply : WorkerAddress.accepted (.agreeing Reply.namingSurrogate) Nesting.usual.reply with
    | error failure =>
        rw [hreply] at hnames
        cases hnames
    | ok externalId =>
        rw [hreply] at hnames
        exact ⟨externalId, rfl, Option.some.inj hnames⟩
  obtain ⟨after, hafter, hprocessing⟩ := hclaim _ _ _ found dataset _ request externalId
    (Studio.loads_withFirstJob hjob) hpending hsent haccepted rfl
  rw [Studio.store_dispatch_of_unencodable hsent rfl haccepted hbytes, hjob, Option.some.injEq] at hafter
  rw [← hafter, hpending] at hprocessing
  cases hprocessing

end PromptStudio
