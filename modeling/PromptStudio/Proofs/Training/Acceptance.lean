import PromptStudio.Proofs.Training.Calls
import PromptStudio.Proofs.Training.Chain
import PromptStudio.Proofs.Training.Progress

/-!
# A job that the worker accepted

A job may be sent again only while it is pending, so a job that the worker accepted has to leave that status before the
call is over: otherwise the worker gets it twice. It leaves it if the reply arrives and can be recorded. That is not
every reply that agrees. The body is read first, and what is wrong with it is forgiven only if it is misspelled JSON; the
id in it is written next, and an id without bytes cannot be. A reply that stumbles there ends the call in a fault, with
the acceptance lost and the job as pending as it was.
-/

namespace PromptStudio

/-- A call that asks the worker. -/
inductive JobCall where
  | create (userId modelId datasetId baseModel : Text) (params : Json)
  | retry (id userId : Text)

def Studio.ask (k : Studio) (c : Context) (worker : WorkerAddress) (call : JobCall) (exchange : Exchange) :
    Result JobAnswer × List SentRequest :=
  match call with
  | .create userId modelId datasetId baseModel params =>
    k.createJob c worker userId modelId datasetId baseModel params exchange
  | .retry id userId => k.retryJob c worker id userId exchange

/-- The job that a call is about: the next one that is made, or the one that it names. -/
def JobCall.jobId (k : Studio) : JobCall → Text
  | .create .. => rowId "job" (k.issued.jobs + 1)
  | .retry id _ => id

/-! ### What arrives -/

theorem SentRequest.receive_of_absolute {request : SentRequest} (h : request.url.isAbsolute = true) (reply : Reply) :
    request.receive (.ok reply) = .ok (.ok reply) :=
  if_pos h

namespace WorkerAddress

variable (worker : WorkerAddress) {request : SentRequest} (reply : Reply) (maxDepth : Nat)

theorem acceptance_of_absolute (h : request.url.isAbsolute = true) :
    worker.acceptance request (.ok reply) maxDepth = accepted reply maxDepth := by
  rw [acceptance, SentRequest.receive_of_absolute h]
  rfl

variable {reply}

theorem accepted_of_isSuccess (h : reply.isSuccess = true) :
    accepted reply maxDepth = match Json.ofBytes reply.body maxDepth with
      | .ok v => .ok (externalId? v)
      | .error .malformedJson => .ok none
      | .error fault => .error (.fault fault) := by
  rw [accepted, h]
  rfl

end WorkerAddress

namespace Store

variable {s : Store} {reply : Reply} {maxDepth : Nat}

/-! ### Settling an acceptance -/

end Store

namespace Studio

variable {k : Studio} {c : Context} {worker : WorkerAddress} {exchange : Exchange} {request : SentRequest}

/-! ### Calls that came to ask -/

/-- How a dispatch can end: nobody is asked, it breaks before anybody is asked, or the worker is asked and what came of
it is settled. -/
theorem dispatch_cases (k : Studio) (c : Context) (worker : WorkerAddress) (found : JobAnswer) (dataset : Dataset)
    (exchange : Exchange) :
    (worker.isConfigured = false ∧ k.dispatch c worker found dataset exchange
      = ((.ok (), k.withStore (k.store.leavePending found.job.id Store.mockModeError c.now)), [])) ∨
    (∃ (fault : Fault) (k' : Studio), k'.store = k.store ∧
      k.dispatch c worker found dataset exchange = ((.error (.fault fault), k'), [])) ∨
    ∃ (request : SentRequest) (k' : Studio), k'.store = k.store ∧
      k.dispatch c worker found dataset exchange
        = ((((k.store.deliver (.still c.now) exchange.deliveries).settle found.job.id
              (worker.acceptance request exchange.outcome c.settings.nesting.reply) c.now).1,
            k'.withStore ((k.store.deliver (.still c.now) exchange.deliveries).settle found.job.id
              (worker.acceptance request exchange.outcome c.settings.nesting.reply) c.now).2), [request]) := by
  have hstore := (Traffic.getSigner_store_issued k c.settings).1
  rw [dispatch]
  by_cases hworker : worker.isConfigured = true
  · simp only [hworker, Bool.not_true, Bool.false_eq_true, if_false]
    refine Or.inr ?_
    split
    · exact Or.inl ⟨_, _, hstore, rfl⟩
    · split
      · exact Or.inl ⟨_, _, hstore, rfl⟩
      · rename_i request _
        refine Or.inr ⟨request, _, hstore, ?_⟩
        rw [hstore]
  · rw [Bool.not_eq_true] at hworker
    refine Or.inl ⟨hworker, ?_⟩
    rw [hworker]
    rfl

section Dispatching

variable {found : JobAnswer} {dataset : Dataset} {reply : Reply}

/-- A dispatch that sent its request is left with what the outcome of the exchange leads to. -/
theorem dispatch_of_sent (hsent : request ∈ (k.dispatch c worker found dataset exchange).2) :
    (k.dispatch c worker found dataset exchange).1.1
        = ((k.store.deliver (.still c.now) exchange.deliveries).settle found.job.id
            (worker.acceptance request exchange.outcome c.settings.nesting.reply) c.now).1 ∧
      (k.dispatch c worker found dataset exchange).1.2.store
        = ((k.store.deliver (.still c.now) exchange.deliveries).settle found.job.id
            (worker.acceptance request exchange.outcome c.settings.nesting.reply) c.now).2 := by
  rcases k.dispatch_cases c worker found dataset exchange with
    ⟨_, hends⟩ | ⟨fault, k', _, hends⟩ | ⟨other, k', _, hends⟩
  · rw [hends] at hsent
    cases hsent
  · rw [hends] at hsent
    cases hsent
  · rw [hends] at hsent
    rw [List.mem_singleton.mp hsent, hends]
    constructor <;> rfl

end Dispatching

theorem job?_insertJob (hids : Numbered "job" k.issued.jobs (k.store.jobs.map (·.id))) (modelId : Text)
    (dataset : Dataset) (hash baseModel : Text) (params : Json) :
    (k.insertJob c modelId dataset hash baseModel params).2.store.job? (rowId "job" (k.issued.jobs + 1))
      = some (k.insertJob c modelId dataset hash baseModel params).1.job :=
  Store.find?_append_new hids.find?_next (beq_self_eq_true _)

theorem version?_insertJob (hids : Numbered "version" k.issued.versions (k.store.versions.map (·.id))) (modelId : Text)
    (dataset : Dataset) (hash baseModel : Text) (params : Json) :
    (k.insertJob c modelId dataset hash baseModel params).2.store.version? (rowId "version" (k.issued.versions + 1))
      = some (k.insertJob c modelId dataset hash baseModel params).1.version :=
  Store.find?_append_new hids.find?_next (beq_self_eq_true _)

end Studio

/-! ### From the call on -/

namespace Traffic

variable {σ : Traffic}

/-- What a call that asks the worker leaves beside all that is under way. -/
def ask (σ : Traffic) (c : Context) (worker : WorkerAddress) (call : JobCall) (exchange : Exchange) : Traffic :=
  { σ with studio := (σ.studio.ask c worker call exchange).1.2 }

theorem StatusesKnown.ask (h : σ.StatusesKnown) (c : Context) (worker : WorkerAddress) (call : JobCall)
    (exchange : Exchange) : (σ.ask c worker call exchange).StatusesKnown := by
  have hrun : ∃ events, (σ.run events).studio = (σ.ask c worker call exchange).studio := by
    cases call with
    | create userId modelId datasetId baseModel params =>
        exact σ.exists_run_createJob c worker userId modelId datasetId baseModel params exchange
    | retry id userId => exact σ.exists_run_retryJob c worker id userId exchange
  obtain ⟨events, hevents⟩ := hrun
  have hknown := h.run events
  rw [StatusesKnown, hevents] at hknown
  exact hknown

end Traffic

def WorkerAddress.small : WorkerAddress :=
  ⟨"http://worker/jobs", .ofNat 10⟩

/-- A worker agrees, with a body. -/
def Reply.agreeing (body : Bytes) : Reply :=
  ⟨200, "application/json", body⟩

def Exchange.agreeing (body : Bytes) : Exchange :=
  { deliveries := [], outcome := .ok (.agreeing body) }

def Reply.naming : Bytes :=
  Utf8.ofString "\x7b\"externalJobId\":\"w-1\"\x7d"

def JobCall.first : JobCall :=
  .create "user" "model-1" "dataset-1" "base" .null

end PromptStudio
