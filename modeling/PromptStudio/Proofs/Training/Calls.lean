import PromptStudio.Proofs.Training.Traffic

/-!
# Calls that are run to their end

A call that nothing comes between is a run of its steps: what it leaves of the studio is what some list of events
leaves. The reports that arrive while a job is at the worker are events of that run, too. What is proved of every run
therefore holds of every sequence of calls.
-/

namespace PromptStudio

/-- A call with all that it is given, the exchange with the worker included. -/
inductive Call where
  | plain (call : PlainCall)
  | createJob (worker : WorkerAddress) (userId modelId datasetId baseModel : Text) (params : Json) (exchange : Exchange)
  | retryJob (worker : WorkerAddress) (id userId : Text) (exchange : Exchange)
  | handleWebhook (w : Webhook)

namespace Studio

def perform (k : Studio) (c : Context) : Call → Studio
  | .plain call => k.performPlain c call
  | .createJob worker userId modelId datasetId baseModel params exchange =>
    (k.createJob c worker userId modelId datasetId baseModel params exchange).1.2
  | .retryJob worker id userId exchange => (k.retryJob c worker id userId exchange).1.2
  | .handleWebhook w => (k.handleWebhook c w).2

/-- What a sequence of calls leaves; each call has a context of its own. -/
def performAll (k : Studio) (calls : List (Context × Call)) : Studio :=
  calls.foldl (fun k call => k.perform call.1 call.2) k

end Studio

/-! ### Reports -/

namespace Intake

theorem run_load_update (x : Intake) (w : Webhook) (times : ReportTimes) :
    (x.run [.load w, .update x.reports.length times]).store = (x.store.handleWebhook w times).2 := by
  change ((x.step (.load w)).step (.update x.reports.length times)).store = _
  rw [Store.handleWebhook]
  cases hload : x.store.loadForReport w with
  | error failure =>
      have hstep : x.step (.load w) = x := by
        simp only [step, hload]
      have hplace : x.reports[x.reports.length]? = none := List.getElem?_eq_none (Nat.le_refl _)
      rw [hstep]
      simp only [step, hplace]
  | ok job =>
      have hstep : x.step (.load w) = { x with reports := x.reports ++ [.loaded w job] } := by
        simp only [step, hload]
      have hplace : (x.reports ++ [Reporting.loaded w job])[x.reports.length]? = some (.loaded w job) :=
        List.getElem?_concat_length
      rw [hstep]
      exact congrArg Intake.store (step_update times hplace)

theorem exists_run_deliver (x : Intake) (times : ReportTimes) (webhooks : List Webhook) :
    ∃ steps, (x.run steps).store = x.store.deliver times webhooks := by
  induction webhooks generalizing x with
  | nil => exact ⟨[], rfl⟩
  | cons w rest ih =>
      obtain ⟨steps, hsteps⟩ := ih (x.run [.load w, .update x.reports.length times])
      refine ⟨[.load w, .update x.reports.length times] ++ steps, ?_⟩
      rw [run, List.foldl_append]
      rw [run_load_update] at hsteps
      exact hsteps

end Intake

namespace Traffic

variable (σ : Traffic)

theorem run_report (steps : List IntakeStep) :
    σ.run (steps.map .report)
      = { σ with
          studio := σ.studio.withStore (σ.intake.run steps).store
          reports := (σ.intake.run steps).reports } := by
  induction steps generalizing σ with
  | nil => rfl
  | cons e rest ih => exact ih (σ.step (.report e))

theorem exists_run_deliver (times : ReportTimes) (webhooks : List Webhook) :
    ∃ events, (σ.run events).studio = σ.studio.withStore (σ.studio.store.deliver times webhooks) ∧
      (σ.run events).dispatches = σ.dispatches := by
  obtain ⟨steps, hsteps⟩ := σ.intake.exists_run_deliver times webhooks
  refine ⟨steps.map .report, ?_, ?_⟩
  · rw [run_report, hsteps]
    rfl
  · rw [run_report]

theorem getElem?_step_update {place : Nat} {w : Webhook} {job : Job} (hplace : σ.reports[place]? = some (.loaded w job))
    (times : ReportTimes) :
    (σ.step (.report (.update place times))).reports[place]?
      = some (.answered w times (σ.studio.store.finishReport job w times).1) := by
  have hstep : σ.intake.step (.update place times) = _ := Intake.step_update times hplace
  rw [step, hstep]
  exact List.getElem?_set_self (List.getElem?_eq_some_iff.mp hplace).1

/-! ### Dispatches -/

theorem step_dispatch {place : Nat} {d : Dispatching} (hplace : σ.dispatches[place]? = some d) (e : DispatchStep) :
    σ.step (.dispatch place e)
      = { σ with
          studio := (d.advance σ.studio e).1
          dispatches := σ.dispatches.set place (d.advance σ.studio e).2 } := by
  rw [step, hplace]

theorem getElem?_step_dispatch {place : Nat} {d : Dispatching} (hplace : σ.dispatches[place]? = some d)
    (e : DispatchStep) :
    (σ.step (.dispatch place e)).dispatches[place]? = some (d.advance σ.studio e).2 := by
  rw [σ.step_dispatch hplace]
  exact List.getElem?_set_self (List.getElem?_eq_some_iff.mp hplace).1

theorem getElem?_run_writes {place : Nat} {jobId : Text} {updates : List JobUpdate}
    (hplace : σ.dispatches[place]? = some (.settling jobId updates)) (now : Instant) :
    (σ.run (List.replicate updates.length (.dispatch place (.write now)))).dispatches[place]?
      = some (.settling jobId []) := by
  induction updates generalizing σ with
  | nil => exact hplace
  | cons u rest ih => exact ih (σ.step (.dispatch place (.write now))) (σ.getElem?_step_dispatch hplace _)

theorem exists_run_writes {place : Nat} {jobId : Text} {updates : List JobUpdate}
    (hplace : σ.dispatches[place]? = some (.settling jobId updates)) (now : Instant) :
    ∃ events, (σ.run events).studio
      = σ.studio.withStore (updates.foldl (fun s u => u.apply jobId now s) σ.studio.store) := by
  induction updates generalizing σ with
  | nil => exact ⟨[], rfl⟩
  | cons u rest ih =>
      obtain ⟨events, hevents⟩ := ih (σ.step (.dispatch place (.write now))) (σ.getElem?_step_dispatch hplace _)
      refine ⟨.dispatch place (.write now) :: events, ?_⟩
      rw [σ.step_dispatch hplace] at hevents
      rw [run, List.foldl_cons, σ.step_dispatch hplace]
      exact hevents

/-- Of a request that the worker has, the reports of the exchange are applied, and then the outcome is settled. -/
theorem exists_run_exchange {place : Nat} {jobId : Text} {worker : WorkerAddress} {request : SentRequest}
    (hplace : σ.dispatches[place]? = some (.asked jobId worker request)) (exchange : Exchange)
    (maxDepth : Nat) (now : Instant) :
    ∃ events, (σ.run events).studio
      = σ.studio.withStore ((σ.studio.store.deliver (.still now) exchange.deliveries).settle jobId
          (worker.acceptance request exchange.outcome maxDepth) now).2 := by
  obtain ⟨reports, hreported, hkept⟩ := σ.exists_run_deliver (.still now) exchange.deliveries
  have hasked : (σ.run reports).dispatches[place]? = some (.asked jobId worker request) := by
    rw [hkept]
    exact hplace
  have hreceived := (σ.run reports).step_dispatch hasked (.receive exchange.outcome maxDepth now)
  obtain ⟨writes, hwritten⟩ := Traffic.exists_run_writes _
    ((σ.run reports).getElem?_step_dispatch hasked (.receive exchange.outcome maxDepth now)) now
  refine ⟨reports ++ .dispatch place (.receive exchange.outcome maxDepth now) :: writes, ?_⟩
  rw [run_append]
  refine hwritten.trans ?_
  rw [hreceived, Store.settle_eq_foldl]
  change (σ.run reports).studio.withStore _ = _
  rw [hreported]
  rfl

/-- A dispatch that nothing comes between but the reports of its exchange is a run of its steps. -/
theorem exists_run_dispatch {place : Nat} {found : JobAnswer} {dataset : Dataset}
    (hplace : σ.dispatches[place]? = some (.ready found dataset)) (c : Context) (worker : WorkerAddress)
    (exchange : Exchange) :
    ∃ events, (σ.run events).studio = (σ.studio.dispatch c worker found dataset exchange).1.2 := by
  have hsent := σ.step_dispatch hplace (.send c worker)
  have hstands := σ.getElem?_step_dispatch hplace (.send c worker)
  suffices hrest : ∃ events, ((σ.step (.dispatch place (.send c worker))).run events).studio
      = (σ.studio.dispatch c worker found dataset exchange).1.2 by
    obtain ⟨events, hevents⟩ := hrest
    exact ⟨.dispatch place (.send c worker) :: events, hevents⟩
  generalize σ.step (.dispatch place (.send c worker)) = τ at hsent hstands ⊢
  have hstudio : τ.studio = (Dispatching.send σ.studio c worker found dataset).1 := by
    rw [hsent]
    rfl
  change τ.dispatches[place]? = some (Dispatching.send σ.studio c worker found dataset).2 at hstands
  rw [Dispatching.send] at hstudio hstands
  rw [Studio.dispatch]
  by_cases hworker : worker.isConfigured = true
  · simp only [hworker, Bool.not_true, Bool.false_eq_true, if_false] at hstudio hstands ⊢
    generalize hsigned : ((σ.studio.getSigner c.settings).1.bind fun s =>
      s.signTraining found.job found.version dataset c.settings.webhookCallbackUrl c.now c.settings.nesting.signed)
        = signed at hstudio hstands ⊢
    cases signed with
    | error fault => exact ⟨[], hstudio⟩
    | ok signed =>
        dsimp only at hstudio hstands ⊢
        generalize hrequest : worker.request signed = request at hstudio hstands ⊢
        cases request with
        | error fault => exact ⟨[], hstudio⟩
        | ok request =>
            dsimp only at hstudio hstands ⊢
            obtain ⟨events, hevents⟩ := τ.exists_run_exchange hstands exchange c.settings.nesting.reply c.now
            refine ⟨events, hevents.trans ?_⟩
            rw [hstudio]
  · have hnone : worker.isConfigured = false := Bool.eq_false_iff.mpr hworker
    simp only [hnone, Bool.not_false, if_true] at hstudio hstands ⊢
    obtain ⟨writes, hwritten⟩ := τ.exists_run_writes hstands c.now
    refine ⟨writes, hwritten.trans ?_⟩
    rw [hstudio]
    rfl

/-! ### Calls -/

theorem getElem?_begin (d : Dispatching) : (σ.begin d).dispatches[σ.dispatches.length]? = some d :=
  List.getElem?_concat_length

theorem exists_run_createJob (c : Context) (worker : WorkerAddress) (userId modelId datasetId baseModel : Text)
    (params : Json) (exchange : Exchange) :
    ∃ events, (σ.run events).studio
      = (σ.studio.createJob c worker userId modelId datasetId baseModel params exchange).1.2 := by
  rw [Studio.createJob]
  cases hadmit : σ.studio.admitJob c userId modelId datasetId baseModel with
  | error failure => exact ⟨[], rfl⟩
  | ok admitted =>
      obtain ⟨dataset, hash⟩ := admitted
      have hbegun : σ.step (.admission c userId modelId datasetId baseModel params)
          = σ.begin (.admitted ⟨modelId, dataset, hash, baseModel, params⟩) := by
        rw [step, hadmit]
      have hplace := σ.getElem?_begin (.admitted ⟨modelId, dataset, hash, baseModel, params⟩)
      have hinserted := Traffic.step_dispatch _ hplace (.insert c)
      obtain ⟨events, hevents⟩ := Traffic.exists_run_dispatch _
        (Traffic.getElem?_step_dispatch _ hplace (.insert c)) c worker exchange
      refine ⟨.admission c userId modelId datasetId baseModel params ::
        .dispatch σ.dispatches.length (.insert c) :: events, ?_⟩
      rw [run, List.foldl_cons, List.foldl_cons, hbegun]
      refine hevents.trans ?_
      rw [hinserted]
      rfl

theorem exists_run_retryJob (c : Context) (worker : WorkerAddress) (id userId : Text) (exchange : Exchange) :
    ∃ events, (σ.run events).studio = (σ.studio.retryJob c worker id userId exchange).1.2 := by
  rw [Studio.retryJob]
  cases hretry : σ.studio.store.jobForRetry id userId with
  | error failure => exact ⟨[], rfl⟩
  | ok ready =>
      obtain ⟨found, dataset⟩ := ready
      have hbegun : σ.step (.retry id userId) = σ.begin (.ready found dataset) := by
        rw [step, hretry]
      obtain ⟨events, hevents⟩ := Traffic.exists_run_dispatch _ (σ.getElem?_begin (.ready found dataset)) c worker
        exchange
      refine ⟨.retry id userId :: events, ?_⟩
      rw [run, List.foldl_cons, hbegun]
      exact hevents

theorem exists_run_perform (c : Context) (call : Call) :
    ∃ events, (σ.run events).studio = σ.studio.perform c call := by
  cases call with
  | plain call => exact ⟨[.plain c call], rfl⟩
  | createJob worker userId modelId datasetId baseModel params exchange =>
      exact σ.exists_run_createJob c worker userId modelId datasetId baseModel params exchange
  | retryJob worker id userId exchange => exact σ.exists_run_retryJob c worker id userId exchange
  | handleWebhook w =>
      have hrun := σ.intake.run_load_update w (.still c.now)
      refine ⟨[IntakeStep.load w, .update σ.intake.reports.length (.still c.now)].map .report, ?_⟩
      rw [run_report, hrun]
      rfl

theorem exists_run_performAll (calls : List (Context × Call)) :
    ∃ events, (σ.run events).studio = σ.studio.performAll calls := by
  induction calls generalizing σ with
  | nil => exact ⟨[], rfl⟩
  | cons call rest ih =>
      obtain ⟨events, hevents⟩ := σ.exists_run_perform call.1 call.2
      obtain ⟨more, hmore⟩ := ih (σ.run events)
      refine ⟨events ++ more, ?_⟩
      rw [run_append, hmore, hevents]
      rfl

end Traffic

end PromptStudio
