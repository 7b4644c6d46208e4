import Mathlib.Data.List.Induction
import PromptStudio.Proofs.Training.Acceptance
import PromptStudio.Proofs.Training.Start

/-!
# Start and end of a job

The times of a job are written by several statements, each with a condition of its own, and some of them look at a row
that was loaded before. What a step can make of a row is said once, by `Traffic.Turns`, and where it leaves a dispatch
by `Traffic.Stands`. Two things carry the laws. A dispatch writes a start before it makes its job processing, and a
report writes one unless it saw one; since a start never goes away, no job is processing or completed without it. And
every statement that a dispatch is still to make goes back to an answer of the worker.

So a job has an end exactly if it is over. The end may lie before the start, though: a report that ends a job which it
found without a start reads the clock for the end first.
-/

namespace PromptStudio

namespace Traffic

/-! ### What happened in a run -/

/-- In a run the worker gave an answer on a job: a dispatch had asked, and this is what came of the outcome that it
received. -/
def AnsweredIn (events : List Event) (id : Text) (acceptance : Except Failure (Option Text)) (now : Instant) : Prop :=
  ∃ (before : List Event) (place : Nat) (worker : WorkerAddress) (request : SentRequest) (outcome : Outcome)
    (maxDepth : Nat), before ++ [.dispatch place (.receive outcome maxDepth now)] <+: events ∧
      (start.run before).dispatches[place]? = some (.asked id worker request) ∧
      worker.acceptance request outcome maxDepth = acceptance

/-- The worker accepted the job, and this was heard at a reading of the clock. -/
def AcceptedIn (events : List Event) (id : Text) (now : Instant) : Prop :=
  ∃ externalId, AnsweredIn events id (.ok externalId) now

/-- The worker refused the job with a message, and this was heard at a reading of the clock. -/
def RefusedIn (events : List Event) (id message : Text) (now : Instant) : Prop :=
  ∃ cause : Refusal, AnsweredIn events id (.error (.refused cause)) now ∧ cause.code = .workerRejected ∧
    cause.message = message

/-- A report that ends the job was applied with these readings of the clock, after the job had been loaded without a
start. -/
def EndedUnstartedIn (events : List Event) (id : Text) (times : ReportTimes) : Prop :=
  ∃ (before : List Event) (place : Nat) (w : Webhook) (loaded : Job),
    before ++ [.report (.update place times)] <+: events ∧
      (start.run before).reports[place]? = some (.loaded w loaded) ∧ w.jobId = id ∧ w.status.isTerminal = true ∧
      loaded.startedAt = none

section History

variable {events more : List Event} {id message : Text} {acceptance : Except Failure (Option Text)} {now : Instant}

theorem AnsweredIn.mono (h : AnsweredIn events id acceptance now) (hmore : events <+: more) :
    AnsweredIn more id acceptance now := by
  obtain ⟨before, place, worker, request, outcome, maxDepth, hbefore, hasked, haccepted⟩ := h
  exact ⟨before, place, worker, request, outcome, maxDepth, hbefore.trans hmore, hasked, haccepted⟩

theorem AcceptedIn.mono (h : AcceptedIn events id now) (hmore : events <+: more) : AcceptedIn more id now := by
  obtain ⟨externalId, hanswered⟩ := h
  exact ⟨externalId, hanswered.mono hmore⟩

theorem RefusedIn.mono (h : RefusedIn events id message now) (hmore : events <+: more) :
    RefusedIn more id message now := by
  obtain ⟨cause, hanswered, hcause⟩ := h
  exact ⟨cause, hanswered.mono hmore, hcause⟩

theorem EndedUnstartedIn.mono {times : ReportTimes} (h : EndedUnstartedIn events id times) (hmore : events <+: more) :
    EndedUnstartedIn more id times := by
  obtain ⟨before, place, w, loaded, hbefore, hreport⟩ := h
  exact ⟨before, place, w, loaded, hbefore.trans hmore, hreport⟩

theorem ClockForward.of_prefix (h : ClockForward more) (hmore : events <+: more) : ClockForward events := by
  obtain ⟨rest, rfl⟩ := hmore
  rw [ClockForward, List.flatMap_append] at h
  exact (List.pairwise_append.mp h).1

/-- Under a clock that never goes back, what was read before a step is not later than what the step reads. -/
theorem ClockForward.le_of_mem {e : Event} (h : ClockForward (events ++ [e])) {i k : Instant}
    (hi : i ∈ events.flatMap Event.readings) (hk : k ∈ e.readings) : i ≤ k := by
  rw [ClockForward, List.flatMap_append, List.pairwise_append, List.flatMap_singleton] at h
  exact h.2.2 i hi k hk

end History

/-! ### What a step makes of a job -/

/-- How the row of a job can come out of a step. -/
inductive Turns (σ : Traffic) (id : Text) : Event → Job → Prop
  | kept {e : Event} {j : Job} (hjob : σ.studio.store.job? id = some j) : σ.Turns id e j
  | made {e : Event} {j : Job} (hpending : j.status = .pending) (hstart : j.startedAt = none)
      (hfinish : j.finishedAt = none) : σ.Turns id e j
  | written {place : Nat} {u : JobUpdate} {rest : List JobUpdate} {now : Instant} {j : Job}
      (hjob : σ.studio.store.job? id = some j) (hplace : σ.dispatches[place]? = some (.settling id (u :: rest)))
      (hholds : u.holds j = true) : σ.Turns id (.dispatch place (.write now)) (u.change now j)
  | reported {place : Nat} {w : Webhook} {loaded : Job} {times : ReportTimes} {j : Job}
      (hjob : σ.studio.store.job? id = some j) (hplace : σ.reports[place]? = some (.loaded w loaded))
      (hid : w.jobId = id) (hopen : j.status.isTerminal = false) :
      σ.Turns id (.report (.update place times)) (j.withReport w loaded.startedAt.isNone times)

section Turns

variable {σ : Traffic} {id : Text} {j : Job}

theorem turns_dispatch {place : Nat} {d : Dispatching} (hplace : σ.dispatches[place]? = some d) {e : DispatchStep}
    (hjob : (d.advance σ.studio e).1.store.job? id = some j) : σ.Turns id (.dispatch place e) j := by
  cases d with
  | admitted a =>
      cases e with
      | insert c =>
          change (σ.studio.store.jobs ++ [(a.insert σ.studio c).1.job]).find? (·.id == id) = some j at hjob
          rw [List.find?_append, Option.or_eq_some_iff] at hjob
          rcases hjob with hold | ⟨-, hnew⟩
          · exact .kept hold
          · obtain rfl : j = (a.insert σ.studio c).1.job := List.mem_singleton.mp (List.mem_of_find?_eq_some hnew)
            exact .made rfl rfl rfl
      | _ => exact .kept hjob
  | ready found dataset =>
      cases e with
      | send c worker =>
          change (Dispatching.send σ.studio c worker found dataset).1.store.job? id = some j at hjob
          rw [(send_store_issued σ.studio c worker found dataset).1] at hjob
          exact .kept hjob
      | _ => exact .kept hjob
  | asked jobId worker request =>
      cases e with
      | _ => exact .kept hjob
  | settling jobId updates =>
      cases updates with
      | nil => exact .kept hjob
      | cons u rest =>
          cases e with
          | write now =>
              change (u.apply jobId now σ.studio.store).job? id = some j at hjob
              rw [u.job?_apply, Option.map_eq_some_iff] at hjob
              obtain ⟨before, hbefore, hafter⟩ := hjob
              split at hafter
              · rename_i hpicked
                rw [Bool.and_eq_true, beq_iff_eq, Store.id_of_job? hbefore] at hpicked
                obtain ⟨rfl, hholds⟩ := hpicked
                exact hafter ▸ .written hbefore hplace hholds
              · exact .kept (hafter ▸ hbefore)
          | _ => exact .kept hjob

/-- Every row that is there after a step came out of it in one of these ways. -/
theorem turns_step {e : Event} (hjob : (σ.step e).studio.store.job? id = some j) : σ.Turns id e j := by
  cases e with
  | plain c call =>
      change (σ.studio.performPlain c call).store.job? id = some j at hjob
      rw [Store.job?, (σ.studio.performs_plain c call).sameJobs.jobs] at hjob
      exact .kept hjob
  | admission c userId modelId datasetId baseModel params =>
      rw [step] at hjob
      split at hjob <;> exact .kept hjob
  | retry id userId =>
      rw [step] at hjob
      split at hjob <;> exact .kept hjob
  | dispatch place e =>
      rw [step] at hjob
      split at hjob
      · rename_i d hplace
        exact turns_dispatch hplace hjob
      · exact .kept hjob
  | report e =>
      change (σ.intake.step e).store.job? id = some j at hjob
      rcases σ.intake.step_cases e with heq | ⟨w, loaded, -, heq⟩ | ⟨place, times, w, loaded, rfl, hplace, heq⟩
      · rw [heq] at hjob
        exact .kept hjob
      · rw [heq] at hjob
        exact .kept hjob
      · rw [heq] at hjob
        rcases Store.finishReport_cases σ.intake.store loaded w times with ⟨hsame, -⟩ | ⟨-, hfinish⟩
        · rw [hsame] at hjob
          exact .kept hjob
        · rw [hfinish, Store.job?_afterReport, Option.map_eq_some_iff] at hjob
          obtain ⟨before, hbefore, hafter⟩ := hjob
          split at hafter
          · rename_i hpicked
            rw [Bool.and_eq_true, beq_iff_eq, Bool.not_eq_true', Store.id_of_job? hbefore] at hpicked
            exact hafter ▸ .reported hbefore hplace hpicked.1.symm hpicked.2
          · exact .kept (hafter ▸ hbefore)

end Turns

/-! ### Where a step leaves a dispatch -/

inductive Stands (σ : Traffic) (place : Nat) : Event → Dispatching → Prop
  | kept {e : Event} {d : Dispatching} (hplace : σ.dispatches[place]? = some d) : σ.Stands place e d
  | admitted {e : Event} (a : Admission) : σ.Stands place e (.admitted a)
  | ready {e : Event} {found : JobAnswer} {dataset : Dataset}
      (hjob : ((σ.step e).studio.store.job? found.job.id).isSome = true) : σ.Stands place e (.ready found dataset)
  | asked {e : Event} {found : JobAnswer} {dataset : Dataset} {worker : WorkerAddress} {request : SentRequest}
      (hplace : σ.dispatches[place]? = some (.ready found dataset)) :
      σ.Stands place e (.asked found.job.id worker request)
  | unasked {e : Event} {found : JobAnswer} {dataset : Dataset} {updates : List JobUpdate}
      (hplace : σ.dispatches[place]? = some (.ready found dataset))
      (hupdates : ∀ u ∈ updates, ∃ error, u = .leavePending error) :
      σ.Stands place e (.settling found.job.id updates)
  | received {id : Text} {worker : WorkerAddress} {request : SentRequest} {outcome : Outcome} {maxDepth : Nat}
      {now : Instant} (hplace : σ.dispatches[place]? = some (.asked id worker request)) :
      σ.Stands place (.dispatch place (.receive outcome maxDepth now))
        (.settling id (Store.settlement (worker.acceptance request outcome maxDepth) now))
  | written {id : Text} {u : JobUpdate} {rest : List JobUpdate} {now : Instant}
      (hplace : σ.dispatches[place]? = some (.settling id (u :: rest))) :
      σ.Stands place (.dispatch place (.write now)) (.settling id rest)

section Stands

variable {σ : Traffic} {place : Nat} {d : Dispatching}

theorem stands_send {found : JobAnswer} {dataset : Dataset}
    (hplace : σ.dispatches[place]? = some (.ready found dataset)) (e : Event) (c : Context) (worker : WorkerAddress) :
    σ.Stands place e (Dispatching.send σ.studio c worker found dataset).2 := by
  have hnone : ∀ u ∈ ([] : List JobUpdate), ∃ error, u = .leavePending error := List.forall_mem_nil _
  rw [Dispatching.send]
  split
  · refine .unasked hplace ?_
    intro u hu
    exact ⟨_, List.mem_singleton.mp hu⟩
  · dsimp only
    split
    · exact .unasked hplace hnone
    · split
      · exact .unasked hplace hnone
      · exact .asked hplace

theorem stands_dispatch (hplace : σ.dispatches[place]? = some d) (e : DispatchStep) :
    σ.Stands place (.dispatch place e) (d.advance σ.studio e).2 := by
  cases d with
  | admitted a =>
      cases e with
      | insert c =>
          refine .ready ?_
          rw [σ.step_dispatch hplace]
          change ((σ.studio.store.jobs ++ [(a.insert σ.studio c).1.job]).find? _).isSome = true
          rw [List.find?_isSome]
          exact ⟨_, List.mem_append_right _ (List.mem_singleton_self _), beq_self_eq_true _⟩
      | _ => exact .kept hplace
  | ready found dataset =>
      cases e with
      | send c worker => exact stands_send hplace _ c worker
      | _ => exact .kept hplace
  | asked jobId worker request =>
      cases e with
      | receive outcome maxDepth now => exact .received hplace
      | _ => exact .kept hplace
  | settling jobId updates =>
      cases updates with
      | nil => exact .kept hplace
      | cons u rest =>
          cases e with
          | write now => exact .written hplace
          | _ => exact .kept hplace

/-- Every dispatch that is there after a step came out of it in one of these ways. -/
theorem stands_step {e : Event} (hplace : (σ.step e).dispatches[place]? = some d) : σ.Stands place e d := by
  cases e with
  | plain c call => exact .kept hplace
  | report e => exact .kept hplace
  | admission c userId modelId datasetId baseModel params =>
      rw [step] at hplace
      split at hplace
      · rcases getElem?_push_cases hplace with hold | rfl
        · exact .kept hold
        · exact .admitted _
      · exact .kept hplace
  | retry id userId =>
      rw [step] at hplace
      split at hplace
      · rename_i found dataset hretry
        rcases getElem?_push_cases hplace with hold | rfl
        · exact .kept hold
        · refine .ready ?_
          have hfound := (Store.jobForRetry_eq_ok hretry).1
          rw [step, hretry]
          change (σ.studio.store.job? found.job.id).isSome = true
          rw [Store.id_of_job? hfound, hfound]
          rfl
      · exact .kept hplace
  | dispatch other e =>
      cases hother : σ.dispatches[other]? with
      | none =>
          rw [step, hother] at hplace
          exact .kept hplace
      | some before =>
          rw [σ.step_dispatch hother] at hplace
          rcases getElem?_set_cases hplace with ⟨rfl, rfl⟩ | ⟨-, hold⟩
          · exact stands_dispatch hother e
          · exact .kept hold

end Stands

end Traffic

/-! ### Starts that are stored -/

def Store.Started (s : Store) (id : Text) : Prop :=
  ∃ j, s.job? id = some j ∧ j.startedAt.isSome = true

theorem Traffic.Moves.started {σ : Traffic} {k : Studio} {reports : List Reporting} (hmove : σ.Moves k reports)
    {id : Text} (h : σ.studio.store.Started id) : k.store.Started id := by
  obtain ⟨j, hfound, hsome⟩ := h
  obtain ⟨t, hstarted⟩ := Option.isSome_iff_exists.mp hsome
  obtain ⟨j', hfound', hkept | ⟨-, _, _, _, times, _, -, -, -, -, -, hwritten⟩⟩ := hmove.startedAt hfound hstarted
  · exact ⟨j', hfound', Option.isSome_iff_exists.mpr ⟨t, hkept⟩⟩
  · exact ⟨j', hfound', Option.isSome_iff_exists.mpr ⟨_, hwritten⟩⟩

theorem Store.started_recordStart {s : Store} {id : Text} (h : (s.job? id).isSome = true) (started now : Instant) :
    ((JobUpdate.recordStart started).apply id now s).Started id := by
  obtain ⟨j, hfound⟩ := Option.isSome_iff_exists.mp h
  have hafter : ((JobUpdate.recordStart started).apply id now s).job? id
      = some (if j.startedAt.isNone then (JobUpdate.recordStart started).change now j else j) := by
    rw [JobUpdate.job?_apply, hfound, Option.map_some, id_of_job? hfound, beq_self_eq_true, Bool.true_and,
      JobUpdate.holds]
  refine ⟨_, hafter, ?_⟩
  split
  · rfl
  · rename_i hsome
    rwa [Option.isNone_iff_eq_none, ← ne_eq, ← Option.isSome_iff_ne_none] at hsome

/-! ### What is still to be written -/

namespace JobUpdate

def Heeds (events : List Event) (id : Text) : JobUpdate → Prop
  | recordStart started => Traffic.AcceptedIn events id started
  | failRefused error finished => Traffic.RefusedIn events id error finished
  | leavePending _ | recordExternalId _ | startProcessing => True

theorem Heeds.mono {events more : List Event} {id : Text} {u : JobUpdate} (h : u.Heeds events id)
    (hmore : events <+: more) : u.Heeds more id := by
  cases u with
  | recordStart started => exact Traffic.AcceptedIn.mono h hmore
  | failRefused error finished => exact Traffic.RefusedIn.mono h hmore
  | leavePending | recordExternalId | startProcessing => trivial

def StartsFirst (updates : List JobUpdate) : Prop :=
  ∀ before rest, updates = before ++ startProcessing :: rest → ∃ i, recordStart i ∈ before

theorem startsFirst_of_notMem {updates : List JobUpdate} (h : startProcessing ∉ updates) : StartsFirst updates := by
  rintro before rest rfl
  exact absurd (List.mem_append_right before List.mem_cons_self) h

end JobUpdate

namespace Store

open JobUpdate

theorem startsFirst_settlement (acceptance : Except Failure (Option Text)) (now : Instant) :
    StartsFirst (settlement acceptance now) := by
  rw [settlement.eq_def]
  split
  · split
    · split <;> exact startsFirst_of_notMem (by simp)
    · exact startsFirst_of_notMem (by simp)
    · exact startsFirst_of_notMem (by simp)
  · exact startsFirst_of_notMem (by simp)
  · rename_i externalId
    split
    · intro before rest hsplit
      rcases before with - | ⟨a, - | ⟨b, others⟩⟩
      · cases hsplit
      · cases hsplit
      · obtain rfl : .recordStart now = b := (List.cons.inj (List.cons.inj hsplit).2).1
        exact ⟨now, List.mem_cons_of_mem a List.mem_cons_self⟩
    · exact startsFirst_of_notMem (by simp)

theorem heeds_settlement {events : List Event} {id : Text} {acceptance : Except Failure (Option Text)} {now : Instant}
    (h : Traffic.AnsweredIn events id acceptance now) : ∀ u ∈ settlement acceptance now, u.Heeds events id := by
  rw [settlement.eq_def]
  split
  · rename_i cause
    split
    · rename_i hcode
      split
      · intro u hu
        rw [List.mem_singleton.mp hu]
        exact ⟨cause, h, hcode, rfl⟩
      · exact List.forall_mem_nil _
    · intro u hu
      rw [List.mem_singleton.mp hu]
      trivial
    · exact List.forall_mem_nil _
  · exact List.forall_mem_nil _
  · rename_i externalId
    split
    · intro u hu
      simp only [List.mem_cons, List.not_mem_nil, or_false] at hu
      rcases hu with rfl | rfl | rfl
      · trivial
      · exact ⟨externalId, h⟩
      · trivial
    · exact List.forall_mem_nil _

end Store

def Dispatching.jobId? : Dispatching → Option Text
  | admitted _ => none
  | ready found _ => some found.job.id
  | asked jobId _ _ | settling jobId _ => some jobId

namespace Traffic

/-- What is still to be written, by dispatches and by reports, is accounted for by what happened in a run. -/
structure Accounted (events : List Event) (σ : Traffic) : Prop where
  stored : ∀ (place : Nat) d id, σ.dispatches[place]? = some d → d.jobId? = some id →
    (σ.studio.store.job? id).isSome = true
  heeded : ∀ (place : Nat) id updates, σ.dispatches[place]? = some (.settling id updates) →
    ∀ u ∈ updates, u.Heeds events id
  ordered : ∀ (place : Nat) id updates, σ.dispatches[place]? = some (.settling id updates) →
    JobUpdate.StartsFirst updates ∨ σ.studio.store.Started id
  seen : ∀ (place : Nat) w loaded, σ.reports[place]? = some (.loaded w loaded) → loaded.startedAt.isSome = true →
    σ.studio.store.Started w.jobId

namespace Accounted

theorem start : Traffic.start.Accounted [] := by
  constructor <;> intro place _ _ hplace <;> cases hplace

variable {events : List Event}

section Step

variable (h : (Traffic.start.run events).Accounted events) (e : Event)

include h

theorem stored_step {place : Nat} {d : Dispatching} {id : Text}
    (hplace : ((Traffic.start.run events).step e).dispatches[place]? = some d) (hid : d.jobId? = some id) :
    (((Traffic.start.run events).step e).studio.store.job? id).isSome = true := by
  have hstays (hsome : ((Traffic.start.run events).studio.store.job? id).isSome = true) :
      (((Traffic.start.run events).step e).studio.store.job? id).isSome = true := by
    obtain ⟨j, hfound⟩ := Option.isSome_iff_exists.mp hsome
    obtain ⟨j', hfound', -⟩ :=
      (((Traffic.start.run events).moves_step e).precedes (statusesKnown_start.run events)).jobs id j hfound
    exact Option.isSome_iff_exists.mpr ⟨j', hfound'⟩
  cases stands_step hplace with
  | kept hold => exact hstays (h.stored place d id hold hid)
  | admitted => cases hid
  | ready hjob =>
      cases hid
      exact hjob
  | asked hold | unasked hold => exact hstays (h.stored place _ id hold hid)
  | received hold | written hold => exact hstays (h.stored place _ id hold hid)

theorem heeded_step {place : Nat} {id : Text} {updates : List JobUpdate}
    (hplace : ((Traffic.start.run events).step e).dispatches[place]? = some (.settling id updates)) :
    ∀ u ∈ updates, u.Heeds (events ++ [e]) id := by
  have hmore : events <+: events ++ [e] := List.prefix_append events [e]
  intro u hu
  cases stands_step hplace with
  | kept hold => exact (h.heeded place id updates hold u hu).mono hmore
  | unasked _ hupdates =>
      obtain ⟨error, rfl⟩ := hupdates u hu
      trivial
  | received hold => exact Store.heeds_settlement ⟨events, place, _, _, _, _, List.prefix_rfl, hold, rfl⟩ u hu
  | written hold => exact (h.heeded place id _ hold u (List.mem_cons_of_mem _ hu)).mono hmore

/-- The statement that writes the start is the one after which the start need not come first any more. -/
theorem ordered_step {place : Nat} {id : Text} {updates : List JobUpdate}
    (hplace : ((Traffic.start.run events).step e).dispatches[place]? = some (.settling id updates)) :
    JobUpdate.StartsFirst updates ∨ ((Traffic.start.run events).step e).studio.store.Started id := by
  have hmove := (Traffic.start.run events).moves_step e
  cases stands_step hplace with
  | kept hold => exact (h.ordered place id updates hold).imp_right hmove.started
  | unasked _ hupdates =>
      refine .inl (JobUpdate.startsFirst_of_notMem fun hmem => ?_)
      obtain ⟨error, herror⟩ := hupdates _ hmem
      cases herror
  | received => exact .inl (Store.startsFirst_settlement _ _)
  | @written _ u _ now hold =>
      rcases h.ordered place id _ hold with hfirst | hstarted
      · cases u with
        | recordStart i =>
            refine .inr ?_
            rw [step_dispatch _ hold]
            exact Store.started_recordStart (h.stored place _ id hold rfl) i now
        | _ =>
            refine .inl fun before rest hsplit => ?_
            obtain ⟨i, hi⟩ := hfirst (_ :: before) rest (congrArg _ hsplit)
            exact ⟨i, (List.mem_cons.mp hi).resolve_left fun heq => by cases heq⟩
      · exact .inr (hmove.started hstarted)

theorem seen_step {place : Nat} {w : Webhook} {loaded : Job}
    (hplace : ((Traffic.start.run events).step e).reports[place]? = some (.loaded w loaded))
    (hsome : loaded.startedAt.isSome = true) : ((Traffic.start.run events).step e).studio.store.Started w.jobId := by
  have hmove := (Traffic.start.run events).moves_step e
  rcases hmove.loaded hplace with hold | hnew
  · exact hmove.started (h.seen place w loaded hold hsome)
  · exact hmove.started ⟨loaded, hnew, hsome⟩

theorem step : ((Traffic.start.run events).step e).Accounted (events ++ [e]) where
  stored := fun _ _ _ => h.stored_step e
  heeded := fun _ _ _ => h.heeded_step e
  ordered := fun _ _ _ => h.ordered_step e
  seen := fun _ _ _ => h.seen_step e

end Step

theorem run (events : List Event) : (Traffic.start.run events).Accounted events := by
  induction events using List.reverseRecOn with
  | nil => exact start
  | append_singleton events e ih =>
      rw [run_append]
      exact ih.step e

end Accounted

/-- How start and end of a job can lie: the end is not the earlier one, or a report read both, or the worker said yes
and no, and each time was read at one of these answers. -/
inductive TimesIn (events : List Event) (id : Text) : Timestamp → Timestamp → Prop
  | forward {s f : Timestamp} (h : ClockForward events → ∃ i k, s = .instant i ∧ f = .instant k ∧ i ≤ k) :
      TimesIn events id s f
  | endedUnstarted {times : ReportTimes} (h : EndedUnstartedIn events id times) :
      TimesIn events id (.instant times.started) (.instant times.finished)
  | contradicted {message : Text} {i k : Instant} (haccepted : AcceptedIn events id i)
      (hrefused : RefusedIn events id message k) : TimesIn events id (.instant i) (.instant k)

theorem TimesIn.mono {events more : List Event} {id : Text} {s f : Timestamp} (h : TimesIn events id s f)
    (hmore : events <+: more) : TimesIn more id s f := by
  cases h with
  | forward h => exact .forward fun hclock => h (hclock.of_prefix hmore)
  | endedUnstarted h => exact .endedUnstarted (h.mono hmore)
  | contradicted haccepted hrefused => exact .contradicted (haccepted.mono hmore) (hrefused.mono hmore)

end Traffic

/-! ### The times of a job -/

/-- What is known of start and end of a job after a run. -/
structure Job.Timed (events : List Event) (j : Job) : Prop where
  finished : j.finishedAt.isSome = true ↔ j.status.isTerminal = true
  started : j.status = .processing ∨ j.status = .completed → j.startedAt.isSome = true
  refused : j.status = .failed → j.startedAt = none →
    ∃ message now, j.error = some message ∧ j.finishedAt = some (.instant now) ∧
      Traffic.RefusedIn events j.id message now
  accepted : j.status = .pending → ∀ s, j.startedAt = some s → ∃ i, s = .instant i ∧ Traffic.AcceptedIn events j.id i
  times : ∀ s f, j.startedAt = some s → j.finishedAt = some f → Traffic.TimesIn events j.id s f

namespace Job.Timed

variable {events more : List Event} {j : Job}

theorem mono (h : j.Timed events) (hmore : events <+: more) : j.Timed more where
  finished := h.finished
  started := h.started
  refused := by
    intro hfailed hnone
    obtain ⟨message, now, herror, hfinished, hrefused⟩ := h.refused hfailed hnone
    exact ⟨message, now, herror, hfinished, hrefused.mono hmore⟩
  accepted := by
    intro hpending s hs
    obtain ⟨i, rfl, haccepted⟩ := h.accepted hpending s hs
    exact ⟨i, rfl, haccepted.mono hmore⟩
  times := fun s f hs hf => (h.times s f hs hf).mono hmore

theorem finishedAt_eq_none (h : j.Timed events) (hopen : j.status.isTerminal = false) : j.finishedAt = none := by
  rw [← Option.not_isSome_iff_eq_none, h.finished, hopen]
  exact Bool.false_ne_true

theorem failed_of_unstarted (h : j.Timed events) (hover : j.status.isTerminal = true) (hnone : j.startedAt = none) :
    j.status = .failed := by
  cases hstatus : j.status with
  | failed => rfl
  | completed =>
      have hsome := h.started (.inr hstatus)
      rw [hnone] at hsome
      cases hsome
  | _ =>
      rw [hstatus] at hover
      cases hover

theorem change (h : j.Timed events) {u : JobUpdate} (hholds : u.holds j = true) (hheeds : u.Heeds events j.id)
    (hstart : u = .startProcessing → j.startedAt.isSome = true) (now : Instant) : (u.change now j).Timed events := by
  cases u with
  | recordExternalId => exact ⟨h.finished, h.started, h.refused, h.accepted, h.times⟩
  | leavePending error =>
      have hpending : j.status = .pending := beq_iff_eq.mp hholds
      refine ⟨h.finished, h.started, ?_, h.accepted, h.times⟩
      intro hfailed
      rw [JobUpdate.change, hpending] at hfailed
      cases hfailed
  | failRefused error finished =>
      refine ⟨iff_of_true rfl rfl, ?_, fun _ _ => ⟨error, finished, rfl, rfl, hheeds⟩, ?_, ?_⟩
      · rintro (hstatus | hstatus) <;> cases hstatus
      · intro hstatus
        cases hstatus
      · rintro s f hs ⟨⟩
        obtain ⟨i, rfl, haccepted⟩ := h.accepted (beq_iff_eq.mp hholds) s hs
        exact .contradicted haccepted hheeds
  | recordStart started =>
      have hnone : j.startedAt = none := Option.isNone_iff_eq_none.mp hholds
      refine ⟨h.finished, fun _ => rfl, ?_, ?_, ?_⟩
      · intro _ hunstarted
        cases hunstarted
      · rintro _ s ⟨⟩
        exact ⟨started, rfl, hheeds⟩
      · rintro s f ⟨⟩ hf
        have hover := h.finished.mp (Option.isSome_iff_exists.mpr ⟨f, hf⟩)
        obtain ⟨message, refusedAt, -, hfinished, hrefused⟩ := h.refused (h.failed_of_unstarted hover hnone) hnone
        cases hf.symm.trans hfinished
        exact .contradicted hheeds hrefused
  | startProcessing =>
      have hpending : j.status = .pending := beq_iff_eq.mp hholds
      refine ⟨?_, fun _ => hstart rfl, ?_, ?_, h.times⟩
      · change j.finishedAt.isSome = true ↔ _
        rw [h.finished, hpending]
        exact Iff.rfl
      · intro hstatus
        cases hstatus
      · intro hstatus
        cases hstatus

theorem withReport (h : j.Timed events) (hopen : j.status.isTerminal = false) (w : Webhook) {unstarted : Bool}
    {times : ReportTimes} (hstart : unstarted = false → j.startedAt.isSome = true)
    (hended : unstarted = true → w.status.isTerminal = true → Traffic.EndedUnstartedIn events j.id times)
    (hread : ∀ s, j.startedAt = some s → Traffic.ClockForward events → ∃ i, s = .instant i ∧ i ≤ times.finished) :
    (j.withReport w unstarted times).Timed events := by
  have hnone := h.finishedAt_eq_none hopen
  have hsome : (j.withReport w unstarted times).startedAt.isSome = true := by
    cases unstarted with
    | true => rfl
    | false => exact hstart rfl
  refine ⟨?_, fun _ => hsome, ?_, fun hpending => absurd hpending (JobStatus.ofReport_ne_pending w.status), ?_⟩
  · change (if _ then _ else _ : Option Timestamp).isSome = true ↔ (JobStatus.ofReport w.status).isTerminal = true
    rw [JobStatus.isTerminal_ofReport, hnone]
    split <;> simp_all
  · intro _ hunstarted
    rw [hunstarted] at hsome
    cases hsome
  · intro s f hs hf
    change (if _ then _ else _) = some f at hf
    rw [hnone] at hf
    split at hf
    · rename_i hterminal
      cases hf
      cases unstarted with
      | true =>
          cases hs
          exact .endedUnstarted (hended rfl hterminal)
      | false =>
          refine .forward fun hclock => ?_
          obtain ⟨i, rfl, hle⟩ := hread s hs hclock
          exact ⟨i, times.finished, rfl, rfl, hle⟩
    · cases hf

end Job.Timed

namespace Traffic

theorem timed_step {events : List Event} {e : Event}
    (h : ∀ id j, (start.run events).studio.store.job? id = some j → j.Timed events) {id : Text} {j : Job}
    (hjob : ((start.run events).step e).studio.store.job? id = some j) : j.Timed (events ++ [e]) := by
  have hmore : events <+: events ++ [e] := List.prefix_append events [e]
  have haccounted := Accounted.run events
  cases turns_step hjob with
  | kept hold => exact (h id j hold).mono hmore
  | made hpending hstart hfinish =>
      refine ⟨?_, ?_, ?_, ?_, ?_⟩ <;> simp [hpending, hstart, hfinish, JobStatus.isTerminal]
  | @written place u rest now j hold hplace hholds =>
      have hheeds := haccounted.heeded place id _ hplace u List.mem_cons_self
      rw [← Store.id_of_job? hold] at hheeds
      refine ((h id j hold).mono hmore).change hholds (hheeds.mono hmore) ?_ now
      rintro rfl
      -- Nothing stands before the statement, so the start was written by an earlier one.
      rcases haccounted.ordered place id _ hplace with hfirst | ⟨j', hfound, hsome⟩
      · obtain ⟨i, hi⟩ := hfirst [] rest rfl
        cases hi
      · rw [hold, Option.some.injEq] at hfound
        exact hfound ▸ hsome
  | @reported place w loaded times j hold hplace hid hopen =>
      refine ((h id j hold).mono hmore).withReport hopen w ?_ ?_ ?_
      · intro hseen
        rw [Option.isNone_eq_false_iff] at hseen
        obtain ⟨j', hfound, hsome⟩ := haccounted.seen place w loaded hplace hseen
        rw [hid, hold, Option.some.injEq] at hfound
        exact hfound ▸ hsome
      · intro hunstarted hterminal
        exact ⟨events, place, w, loaded, List.prefix_rfl, hplace, hid.trans (Store.id_of_job? hold).symm, hterminal,
          Option.isNone_iff_eq_none.mp hunstarted⟩
      · intro s hs hclock
        obtain ⟨i, hi, rfl⟩ := (Clocked.start.run events).stored id j s hold hs
        exact ⟨i, rfl, hclock.le_of_mem hi (by simp [Event.readings])⟩

theorem timed_run (events : List Event) :
    ∀ id j, (start.run events).studio.store.job? id = some j → j.Timed events := by
  induction events using List.reverseRecOn with
  | nil =>
      intro id j hjob
      cases hjob
  | append_singleton events e ih =>
      intro id j hjob
      rw [run_append] at hjob
      exact timed_step ih hjob

/-- A report reads the clock for the end before it does for the start. -/
theorem EndedUnstartedIn.finished_le_started {events : List Event} {id : Text} {times : ReportTimes}
    (h : EndedUnstartedIn events id times) (hclock : ClockForward events) : times.finished ≤ times.started := by
  obtain ⟨before, place, w, loaded, hbefore, -⟩ := h
  have hlast := hclock.of_prefix hbefore
  rw [ClockForward, List.flatMap_append, List.pairwise_append, List.flatMap_singleton] at hlast
  exact List.rel_of_pairwise_cons hlast.2.1 List.mem_cons_self

end Traffic

/-- At every moment of every run, whatever dispatches, retries and reports do at the same time: a job has an end exactly
if it is completed or failed; a job that is processing or completed has a start; and a job that failed without a start
was refused by the worker, whose message is its error. -/
theorem times_match_status (events : List Event) {id : Text} {j : Job}
    (hfound : (Traffic.start.run events).studio.store.job? id = some j) :
    (j.finishedAt.isSome = true ↔ j.status = .completed ∨ j.status = .failed) ∧
      (j.status = .processing ∨ j.status = .completed → j.startedAt.isSome = true) ∧
      (j.status = .failed → j.startedAt = none →
        ∃ message now, Traffic.RefusedIn events id message now ∧ j.error = some message ∧
          j.finishedAt = some (.instant now)) := by
  have htimed := Traffic.timed_run events id j hfound
  refine ⟨?_, htimed.started, ?_⟩
  · rw [htimed.finished]
    cases j.status <;> simp [JobStatus.isTerminal]
  · intro hfailed hnone
    obtain ⟨message, now, herror, hfinished, hrefused⟩ := htimed.refused hfailed hnone
    exact ⟨message, now, Store.id_of_job? hfound ▸ hrefused, herror, hfinished⟩

/-- The first job was completed by the first report on it, so it has both times. -/
theorem first_job_has_start_and_end :
    ∃ j, (Traffic.start.run Traffic.firstJob).studio.store.job? "job-1" = some j ∧ j.status = .completed ∧
      j.startedAt.isSome = true ∧ j.finishedAt.isSome = true := by
  have hstored : ((Traffic.start.run Traffic.firstJob).studio.store.job? "job-1").map (·.status) = some .completed := by
    decide +kernel
  obtain ⟨j, hfound, hcompleted⟩ := Option.map_eq_some_iff.mp hstored
  obtain ⟨hfinished, hstarted, -⟩ := times_match_status Traffic.firstJob hfound
  exact ⟨j, hfound, hcompleted, hstarted (.inr hcompleted), hfinished.mpr (.inl hcompleted)⟩

/-- In every run under a clock that never goes back, a job that has both times was not ended before it was started,
but for two cases. A report that ends a job which was loaded without a start reads both times itself, and the end first.
And of two dispatches of a job one may be refused and the other one accepted; then the end was read at the refusal, and
the start at the acceptance. -/
theorem start_precedes_end_unless_read_at_once {events : List Event} (hclock : Traffic.ClockForward events) {id : Text}
    {j : Job} {s f : Timestamp} (hfound : (Traffic.start.run events).studio.store.job? id = some j)
    (hstarted : j.startedAt = some s) (hfinished : j.finishedAt = some f) :
    (∃ i k, s = .instant i ∧ f = .instant k ∧ i ≤ k) ∨
      (∃ times, Traffic.EndedUnstartedIn events id times ∧ s = .instant times.started ∧
        f = .instant times.finished ∧ times.finished ≤ times.started) ∨
      ∃ message i k, Traffic.AcceptedIn events id i ∧ Traffic.RefusedIn events id message k ∧ s = .instant i ∧
        f = .instant k := by
  have htimes := (Traffic.timed_run events id j hfound).times s f hstarted hfinished
  rw [Store.id_of_job? hfound] at htimes
  cases htimes with
  | forward h => exact .inl (h hclock)
  | endedUnstarted h => exact .inr (.inl ⟨_, h, rfl, rfl, h.finished_le_started hclock⟩)
  | contradicted haccepted hrefused => exact .inr (.inr ⟨_, _, _, haccepted, hrefused, rfl, rfl⟩)

def Traffic.firstCourse : List Event :=
  Traffic.firstAdmission ++
    [.dispatch 0 (.insert .small), .report (.load .firstProgress), .report (.update 0 (.still 8)),
      .report (.load .firstCompletion), .report (.update 1 (.still 9))]

theorem first_course_goes_forward :
    Traffic.ClockForward Traffic.firstCourse ∧
      ∃ j, (Traffic.start.run Traffic.firstCourse).studio.store.job? "job-1" = some j ∧
        j.startedAt = some (.instant 8) ∧ j.finishedAt = some (.instant 9) ∧
        ((∃ i k, Timestamp.instant 8 = .instant i ∧ Timestamp.instant 9 = .instant k ∧ i ≤ k) ∨
          (∃ times, Traffic.EndedUnstartedIn Traffic.firstCourse "job-1" times ∧
            Timestamp.instant 8 = .instant times.started ∧ Timestamp.instant 9 = .instant times.finished ∧
            times.finished ≤ times.started) ∨
          ∃ message i k, Traffic.AcceptedIn Traffic.firstCourse "job-1" i ∧
            Traffic.RefusedIn Traffic.firstCourse "job-1" message k ∧ Timestamp.instant 8 = .instant i ∧
            Timestamp.instant 9 = .instant k) := by
  have hclock : Traffic.ClockForward Traffic.firstCourse := by decide +kernel
  have hstored : ((Traffic.start.run Traffic.firstCourse).studio.store.job? "job-1").map
      (fun j => (j.startedAt, j.finishedAt)) = some (some (.instant 8), some (.instant 9)) := by decide +kernel
  obtain ⟨j, hfound, htimes⟩ := Option.map_eq_some_iff.mp hstored
  obtain ⟨hstarted, hfinished⟩ := Prod.mk.inj htimes
  exact ⟨hclock, j, hfound, hstarted, hfinished,
    start_precedes_end_unless_read_at_once hclock hfound hstarted hfinished⟩

/-- The first report on the first job completes it, and the clock goes on while the report is applied. -/
def Traffic.firstEnd : List Event :=
  Traffic.firstAdmission ++
    [.dispatch 0 (.insert .small), .report (.load .firstCompletion), .report (.update 0 ⟨8, 9, 9⟩)]

/-- The job then ends before it starts. -/
theorem job_reported_at_once_ends_before_it_starts :
    ¬ ∀ events : List Event, Traffic.ClockForward events → ∀ id j i k,
      (Traffic.start.run events).studio.store.job? id = some j → j.startedAt = some (.instant i) →
      j.finishedAt = some (.instant k) → i ≤ k := by
  intro hclaim
  have hclock : Traffic.ClockForward Traffic.firstEnd := by decide +kernel
  have hstored : ((Traffic.start.run Traffic.firstEnd).studio.store.job? "job-1").map
      (fun j => (j.startedAt, j.finishedAt)) = some (some (.instant 9), some (.instant 8)) := by decide +kernel
  obtain ⟨j, hfound, htimes⟩ := Option.map_eq_some_iff.mp hstored
  obtain ⟨hstarted, hfinished⟩ := Prod.mk.inj htimes
  have hle := hclaim Traffic.firstEnd hclock "job-1" j 9 8 hfound hstarted hfinished
  exact absurd hle (by decide)

/-- The first job is sent twice. One request is refused and the other one is accepted; the refusal is written first. -/
def Traffic.contradiction : List Event :=
  Traffic.firstAdmission ++
    [.dispatch 0 (.insert .small), .dispatch 0 (.send .small .small), .retry "job-1" "user",
      .dispatch 1 (.send .small .small), .dispatch 0 (.receive (.ok ⟨400, "text/plain", []⟩) Json.usualDepth 8),
      .dispatch 1 (.receive (.ok (.agreeing [])) Json.usualDepth 9), .dispatch 0 (.write 10),
      .dispatch 1 (.write 11), .dispatch 1 (.write 12)]

/-- This job ends before it starts, too. -/
example : Traffic.ClockForward Traffic.contradiction ∧
    ((Traffic.start.run Traffic.contradiction).studio.store.job? "job-1").map
      (fun j => (j.status, j.startedAt, j.finishedAt)) = some (.failed, some (.instant 9), some (.instant 8)) := by
  decide +kernel

end PromptStudio
