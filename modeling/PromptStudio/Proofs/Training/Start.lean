import PromptStudio.Proofs.Training.Artifact

/-!
# The start of a job

Two kinds of steps write the start of a job. A dispatch writes it where the stored job has none. A report writes it if
the job had none when it was loaded, and does not look at the stored start again. So a start that is stored is replaced
by no dispatch, and by no report that was loaded since; a report that was loaded before may still replace it, unless the
job is over by then. Under a clock that never goes back the new start is not an earlier one.
-/

namespace PromptStudio

/-! ### Readings of the clock -/

def DispatchStep.readings : DispatchStep → List Instant
  | insert c | send c _ => [c.now]
  | receive _ _ now | write now => [now]

def Event.readings : Event → List Instant
  | plain c _ | admission c .. => [c.now]
  | retry .. => []
  | dispatch _ e => e.readings
  | report (.load _) => []
  | report (.update _ times) => [times.finished, times.started, times.updated]

namespace Traffic

/-- The clock never goes back during a run. -/
def ClockForward (events : List Event) : Prop :=
  (events.flatMap Event.readings).Pairwise (· ≤ ·)

instance (events : List Event) : Decidable (ClockForward events) :=
  inferInstanceAs (Decidable (List.Pairwise _ _))

/-- What every step keeps, of the traffic and of all that was read so far, holds at the end of a run. -/
theorem run_induction_readings {P : Traffic → List Instant → Prop}
    (hstep : ∀ σ readings e, P σ readings → P (σ.step e) (readings ++ e.readings)) {σ : Traffic}
    {readings : List Instant} (h : P σ readings) (events : List Event) :
    P (σ.run events) (readings ++ events.flatMap Event.readings) := by
  induction events generalizing σ readings with
  | nil =>
      rw [List.flatMap_nil, List.append_nil]
      exact h
  | cons e rest ih =>
      rw [List.flatMap_cons, ← List.append_assoc]
      exact ih (hstep σ readings e h)

end Traffic

/-! ### Where starts come from -/

/-- The starts of the stored jobs are among some readings of the clock. -/
def Store.StartsIn (s : Store) (readings : List Instant) : Prop :=
  ∀ id j t, s.job? id = some j → j.startedAt = some t → ∃ i ∈ readings, t = .instant i

namespace Store.StartsIn

variable {s s' : Store} {readings more : List Instant}

theorem mono (h : s.StartsIn readings) (hmore : ∀ i ∈ readings, i ∈ more) : s.StartsIn more := by
  intro id j t hfound hstarted
  obtain ⟨i, hi, rfl⟩ := h id j t hfound hstarted
  exact ⟨i, hmore i hi, rfl⟩

theorem of_jobs_eq (h : s.StartsIn readings) (hjobs : s'.jobs = s.jobs) : s'.StartsIn readings := by
  intro id j t hfound
  rw [job?, hjobs] at hfound
  exact h id j t hfound

/-- A change of jobs keeps a start or writes one of the readings. -/
theorem update (h : s.StartsIn readings) {picks : Job → Bool} {change : Job → Job}
    (hjobs : ∀ id, s'.job? id = (s.job? id).map fun j => if picks j then change j else j)
    (hchange : ∀ j, (change j).startedAt = j.startedAt ∨ ∃ i ∈ readings, (change j).startedAt = some (.instant i)) :
    s'.StartsIn readings := by
  intro id j' t hfound hstarted
  rw [hjobs, Option.map_eq_some_iff] at hfound
  obtain ⟨j, hj, rfl⟩ := hfound
  split at hstarted
  · rcases hchange j with hsame | ⟨i, hi, hwritten⟩
    · exact h id j t hj (hsame.symm.trans hstarted)
    · rw [hwritten, Option.some.injEq] at hstarted
      exact ⟨i, hi, hstarted.symm⟩
  · exact h id j t hj hstarted

theorem push (h : s.StartsIn readings) {new : Job} (hnone : new.startedAt = none)
    (hjobs : s'.jobs = s.jobs ++ [new]) : s'.StartsIn readings := by
  intro id j t hfound hstarted
  rw [job?, hjobs, List.find?_append, Option.or_eq_some_iff] at hfound
  rcases hfound with hold | ⟨-, hnew⟩
  · exact h id j t hold hstarted
  · obtain rfl : j = new := List.mem_singleton.mp (List.mem_of_find?_eq_some hnew)
    rw [hnone] at hstarted
    cases hstarted

end Store.StartsIn

def JobUpdate.start? : JobUpdate → Option Instant
  | recordStart i => some i
  | _ => none

def Dispatching.starts : Dispatching → List Instant
  | settling _ updates => updates.filterMap JobUpdate.start?
  | _ => []

theorem JobUpdate.startedAt_change (u : JobUpdate) (now : Instant) (j : Job) :
    (u.change now j).startedAt = j.startedAt ∨
      ∃ i, u.start? = some i ∧ (u.change now j).startedAt = some (.instant i) := by
  cases u with
  | recordStart i => exact .inr ⟨i, rfl, rfl⟩
  | _ => exact .inl rfl

theorem Store.starts_settlement (acceptance : Except Failure (Option Text)) (now : Instant) :
    ∀ i ∈ (settlement acceptance now).filterMap JobUpdate.start?, i = now := by
  rw [settlement.eq_def]
  split
  · split
    · split <;> simp [JobUpdate.start?]
    · simp [JobUpdate.start?]
    · simp
  · simp
  · split <;> simp [JobUpdate.start?]

namespace Dispatching

variable {k : Studio} {d : Dispatching} {readings : List Instant}

theorem starts_send (k : Studio) (c : Context) (worker : WorkerAddress) (found : JobAnswer) (dataset : Dataset) :
    (send k c worker found dataset).2.starts = [] := by
  rw [send]
  split
  · rfl
  · dsimp only
    split
    · rfl
    · split <;> rfl

theorem mem_starts_advance {e : DispatchStep} {i : Instant} (h : i ∈ (d.advance k e).2.starts) :
    i ∈ d.starts ∨ i ∈ e.readings := by
  cases d with
  | admitted a =>
      cases e with
      | _ => cases h
  | ready found dataset =>
      cases e with
      | send c worker =>
          change i ∈ (send k c worker found dataset).2.starts at h
          rw [starts_send] at h
          cases h
      | _ => cases h
  | asked jobId worker request =>
      cases e with
      | receive outcome maxDepth now =>
          obtain rfl := Store.starts_settlement _ now i h
          exact .inr (List.mem_singleton_self _)
      | _ => cases h
  | settling jobId updates =>
      cases updates with
      | nil => cases h
      | cons u rest =>
          cases e with
          | write now => exact .inl (List.Sublist.subset ((List.sublist_cons_self u rest).filterMap _) h)
          | _ => exact .inl h

theorem startsIn_advance (h : k.store.StartsIn readings) (hplanned : ∀ i ∈ d.starts, i ∈ readings)
    (e : DispatchStep) : (d.advance k e).1.store.StartsIn readings := by
  cases d with
  | admitted a =>
      cases e with
      | insert c => exact h.push rfl rfl
      | _ => exact h
  | ready found dataset =>
      cases e with
      | send c worker =>
          change (send k c worker found dataset).1.store.StartsIn readings
          rw [(Traffic.send_store_issued k c worker found dataset).1]
          exact h
      | _ => exact h
  | asked jobId worker request =>
      cases e with
      | _ => exact h
  | settling jobId updates =>
      cases updates with
      | nil => exact h
      | cons u rest =>
          cases e with
          | write now =>
              change (u.apply jobId now k.store).StartsIn readings
              refine h.update (u.job?_apply jobId now k.store) fun j => ?_
              rcases u.startedAt_change now j with hsame | ⟨i, hi, hwritten⟩
              · exact .inl hsame
              · exact .inr ⟨i, hplanned i (List.mem_filterMap.mpr ⟨u, List.mem_cons_self, hi⟩), hwritten⟩
          | _ => exact h

end Dispatching

theorem Intake.startsIn_step {x : Intake} {readings : List Instant} (h : x.store.StartsIn readings) (e : IntakeStep) :
    (x.step e).store.StartsIn (readings ++ (Event.report e).readings) := by
  have hmore := h.mono fun i (hi : i ∈ readings) => List.mem_append_left (Event.report e).readings hi
  rcases x.step_cases e with heq | ⟨w, job, -, heq⟩ | ⟨place, times, w, loaded, rfl, -, heq⟩
  · rw [heq]
    exact hmore
  · rw [heq]
    exact hmore
  · rw [heq]
    rcases Store.finishReport_cases x.store loaded w times with ⟨hsame, -⟩ | ⟨-, hfinish⟩
    · exact hsame.symm ▸ hmore
    · rw [hfinish]
      refine hmore.update Store.job?_afterReport fun j => ?_
      cases hunstarted : loaded.startedAt.isNone with
      | false => exact .inl rfl
      | true => exact .inr ⟨times.started, by simp [Event.readings], rfl⟩

namespace Traffic

variable {σ : Traffic} {k : Studio} {reports : List Reporting} {readings : List Instant}

/-- Every start that is stored or is still to be written was read off the clock. -/
structure Clocked (σ : Traffic) (readings : List Instant) : Prop where
  stored : σ.studio.store.StartsIn readings
  planned : ∀ d ∈ σ.dispatches, ∀ i ∈ d.starts, i ∈ readings

namespace Clocked

theorem start : Traffic.start.Clocked [] where
  stored := by
    intro id j t hfound
    cases hfound
  planned := by
    intro d hd
    cases hd

theorem begin (h : σ.Clocked readings) {d : Dispatching} (hd : d.starts = []) : (σ.begin d).Clocked readings where
  stored := h.stored
  planned := by
    intro other hother i hi
    rcases List.mem_append.mp hother with hold | hnew
    · exact h.planned other hold i hi
    · rw [List.mem_singleton.mp hnew, hd] at hi
      cases hi

theorem mono (h : σ.Clocked readings) (more : List Instant) : σ.Clocked (readings ++ more) where
  stored := h.stored.mono fun _ hi => List.mem_append_left more hi
  planned := by
    intro d hd i hi
    exact List.mem_append_left more (h.planned d hd i hi)

theorem step (h : σ.Clocked readings) (e : Event) : (σ.step e).Clocked (readings ++ e.readings) := by
  have hmore := h.mono e.readings
  cases e with
  | plain c call =>
      exact ⟨hmore.stored.of_jobs_eq (σ.studio.performs_plain c call).sameJobs.jobs, hmore.planned⟩
  | admission c userId modelId datasetId baseModel params =>
      rw [Traffic.step]
      split
      · exact hmore.begin rfl
      · exact hmore
  | retry id userId =>
      rw [Traffic.step]
      split
      · exact hmore.begin rfl
      · exact hmore
  | dispatch place e =>
      rw [Traffic.step]
      split
      · rename_i d hplace
        have hd := hmore.planned d (List.mem_of_getElem? hplace)
        refine ⟨Dispatching.startsIn_advance hmore.stored hd e, ?_⟩
        intro other hother i hi
        rcases List.mem_or_eq_of_mem_set hother with hold | rfl
        · exact hmore.planned other hold i hi
        · rcases Dispatching.mem_starts_advance hi with hplanned | hread
          · exact hd i hplanned
          · exact List.mem_append_right _ hread
      · exact hmore
  | report e => exact ⟨Intake.startsIn_step h.stored e, hmore.planned⟩

theorem run (h : σ.Clocked readings) (events : List Event) :
    (σ.run events).Clocked (readings ++ events.flatMap Event.readings) :=
  run_induction_readings (fun _ _ e h => h.step e) h events

end Clocked

/-! ### What a step makes of a start -/

/-- A report on a job that was loaded at one moment, when the job had no start, is applied at another one and read `i`
for the start. -/
def Overruns (σ₀ σ : Traffic) (id : Text) (i : Instant) : Prop :=
  ∃ (place : Nat) (w : Webhook) (loaded : Job) (times : ReportTimes) (r : WebhookResult),
    σ₀.reports[place]? = some (.loaded w loaded) ∧ w.jobId = id ∧ loaded.startedAt = none ∧
      σ.reports[place]? = some (.answered w times (.ok r)) ∧ r.applied = true ∧ times.started = i

/-- A start that is stored stays, but for a report on a job that is not over and was loaded without a start. -/
theorem Moves.startedAt (hmove : σ.Moves k reports) {id : Text} {j : Job} (hfound : σ.studio.store.job? id = some j)
    {t : Timestamp} (hstarted : j.startedAt = some t) :
    ∃ j', k.store.job? id = some j' ∧
      (j'.startedAt = some t ∨ j.status.isTerminal = false ∧ ∃ (place : Nat) (w : Webhook) (loaded : Job)
        (times : ReportTimes) (r : WebhookResult), σ.reports[place]? = some (.loaded w loaded) ∧ w.jobId = id ∧
          loaded.startedAt = none ∧ reports[place]? = some (.answered w times (.ok r)) ∧ r.applied = true ∧
          j'.startedAt = some (.instant times.started)) := by
  cases hmove with
  | still hstore _ _ =>
      rw [hstore]
      exact ⟨j, hfound, .inl hstarted⟩
  | plain c call =>
      rw [Store.job?, (σ.studio.performs_plain c call).sameJobs.jobs]
      exact ⟨j, hfound, .inl hstarted⟩
  | insert hplace c => exact ⟨j, Store.find?_append_of_eq_some hfound, .inl hstarted⟩
  | write u jobId now =>
      have hfound' : (u.apply jobId now σ.studio.store).job? id
          = some (if j.id == jobId && u.holds j then u.change now j else j) := by
        rw [u.job?_apply, hfound]
        rfl
      refine ⟨_, hfound', .inl ?_⟩
      split
      · rename_i hpicked
        rcases u.startedAt_change now j with hsame | ⟨i, hi, -⟩
        · exact hsame.trans hstarted
        · -- The one statement that writes a start asks for a job without one.
          have hholds := (Bool.and_eq_true_iff.mp hpicked).2
          cases u with
          | recordStart started =>
              rw [JobUpdate.holds, hstarted] at hholds
              cases hholds
          | _ => cases hi
      · exact hstarted
  | @report place w loaded hplace htakes times =>
      have hfound' : (σ.studio.store.afterReport loaded w times).job? id
          = some (if j.id == w.jobId && !j.status.isTerminal then j.withReport w loaded.startedAt.isNone times
              else j) := by
        rw [Store.job?_afterReport, hfound]
        rfl
      refine ⟨_, hfound', ?_⟩
      split
      · rename_i hpicked
        rw [Bool.and_eq_true, beq_iff_eq, Bool.not_eq_true', Store.id_of_job? hfound] at hpicked
        cases hunstarted : loaded.startedAt with
        | some _ => exact .inl hstarted
        | none =>
            exact .inr ⟨hpicked.2, place, w, loaded, times, _, hplace, hpicked.1.symm, hunstarted,
              List.getElem?_set_self (List.getElem?_eq_some_iff.mp hplace).1, rfl, rfl⟩
      · exact .inl hstarted

theorem startedAt_run_of_terminal (hknown : σ.StatusesKnown) {id : Text} {j : Job}
    (hfound : σ.studio.store.job? id = some j) (hover : j.status.isTerminal = true) {t : Timestamp}
    (hstarted : j.startedAt = some t) (events : List Event) :
    ∃ j', (σ.run events).studio.store.job? id = some j' ∧ j'.startedAt = some t := by
  induction events generalizing σ j with
  | nil => exact ⟨j, hfound, hstarted⟩
  | cons e rest ih =>
      obtain ⟨j', hfound', hkept | ⟨hopen, -⟩⟩ := (σ.moves_step e).startedAt hfound hstarted
      · obtain ⟨after, hafter, hadvances⟩ := ((σ.moves_step e).follows_job hknown id).exists_of_eq_some hfound
        rw [hfound', Option.some.injEq] at hafter
        subst hafter
        exact ih (hknown.step e) hfound' (by rw [(hadvances.frozen hover).1]; exact hover) hkept
      · rw [hover] at hopen
        cases hopen

/-! ### From a start on -/

theorem Moves.loaded (hmove : σ.Moves k reports) {place : Nat} {w : Webhook} {job : Job}
    (hplace : reports[place]? = some (.loaded w job)) :
    σ.reports[place]? = some (.loaded w job) ∨ σ.studio.store.job? w.jobId = some job := by
  cases hmove with
  | still _ _ hreports => exact hreports.loaded hplace
  | report => exact .inl (Reporting.loaded_of_set hplace)
  | _ => exact .inl hplace

theorem Moves.kept (hmove : σ.Moves k reports) {place : Nat} {w : Webhook} {times : ReportTimes}
    {answer : Except Failure WebhookResult} (hplace : σ.reports[place]? = some (.answered w times answer)) :
    reports[place]? = some (.answered w times answer) := by
  cases hmove with
  | still _ _ hreports => exact hreports.kept hplace
  | report hloaded => exact Reporting.answered_set hloaded hplace
  | _ => exact hplace

theorem eq_update_of_answered {e : Event} {place : Nat} {w w' : Webhook} {loaded : Job} {times : ReportTimes}
    {answer : Except Failure WebhookResult} (hloaded : σ.reports[place]? = some (.loaded w loaded))
    (hanswered : (σ.step e).reports[place]? = some (.answered w' times answer)) :
    e = .report (.update place times) := by
  have hopen : σ.reports[place]? ≠ some (.answered w' times answer) := by
    rw [hloaded]
    rintro ⟨⟩
  cases e with
  | report e =>
      change (σ.intake.step e).reports[place]? = _ at hanswered
      rcases σ.intake.step_cases e with heq | ⟨v, job, -, heq⟩ | ⟨other, times', v, job, rfl, -, heq⟩
      · rw [heq] at hanswered
        exact absurd hanswered hopen
      · rw [heq] at hanswered
        exact absurd (Reporting.answered_of_push hanswered) hopen
      · rw [heq] at hanswered
        rcases getElem?_set_cases hanswered with ⟨rfl, hnew⟩ | ⟨-, hold⟩
        · cases hnew
          rfl
        · exact absurd hold hopen
  | plain c call => exact absurd hanswered hopen
  | admission c userId modelId datasetId baseModel params =>
      rw [step] at hanswered
      split at hanswered <;> exact absurd hanswered hopen
  | retry id userId =>
      rw [step] at hanswered
      split at hanswered <;> exact absurd hanswered hopen
  | dispatch other e =>
      rw [step] at hanswered
      split at hanswered <;> exact absurd hanswered hopen

/-- What holds from a moment on at which a job has a start: reports on the job that were loaded later have seen it, and
what is stored is this start, or what a report that was loaded before has read since. -/
structure StartsFrom (σ₀ : Traffic) (id : Text) (t : Timestamp) (σ : Traffic) (readings : List Instant) : Prop where
  late : ∀ (place : Nat) w loaded, σ.reports[place]? = some (.loaded w loaded) → w.jobId = id →
    loaded.startedAt = none → σ₀.reports[place]? = some (.loaded w loaded)
  stored : ∃ j, σ.studio.store.job? id = some j ∧
    (j.startedAt = some t ∨ ∃ i ∈ readings, j.startedAt = some (.instant i) ∧ σ₀.Overruns σ id i)

namespace StartsFrom

variable {σ₀ : Traffic} {id : Text} {t : Timestamp}

theorem step (h : σ₀.StartsFrom id t σ readings) (e : Event) :
    σ₀.StartsFrom id t (σ.step e) (readings ++ e.readings) := by
  have hmove := σ.moves_step e
  obtain ⟨j, hfound, hstart⟩ := h.stored
  obtain ⟨u, hstarted⟩ : ∃ u, j.startedAt = some u := by
    rcases hstart with hfirst | ⟨i, -, hlater, -⟩
    · exact ⟨t, hfirst⟩
    · exact ⟨_, hlater⟩
  constructor
  · intro place w loaded hplace hjob hnone
    rcases hmove.loaded hplace with hold | hnew
    · exact h.late place w loaded hold hjob hnone
    · rw [hjob, hfound, Option.some.injEq] at hnew
      rw [← hnew, hstarted] at hnone
      cases hnone
  · obtain ⟨j', hfound', hkept | ⟨-, place, w, loaded, times, r, hplace, hjob, hnone, hanswered, happlied, hwritten⟩⟩ :=
      hmove.startedAt hfound hstarted
    · refine ⟨j', hfound', ?_⟩
      rcases hstart with hfirst | ⟨i, hi, hlater, place, w, loaded, times, r, hplace, hjob, hnone, hanswered, hread⟩
      · exact .inl ((hkept.trans hstarted.symm).trans hfirst)
      · exact .inr ⟨i, List.mem_append_left _ hi, (hkept.trans hstarted.symm).trans hlater, place, w, loaded, times, r,
          hplace, hjob, hnone, hmove.kept hanswered, hread⟩
    · have hread : times.started ∈ e.readings := by
        rw [eq_update_of_answered hplace hanswered]
        simp [Event.readings]
      exact ⟨j', hfound', .inr ⟨times.started, List.mem_append_right _ hread, hwritten, place, w, loaded, times, r,
        h.late place w loaded hplace hjob hnone, hjob, hnone, hanswered, happlied, rfl⟩⟩

theorem run (h : σ₀.StartsFrom id t σ readings) (events : List Event) :
    σ₀.StartsFrom id t (σ.run events) (readings ++ events.flatMap Event.readings) :=
  run_induction_readings (fun _ _ e h => h.step e) h events

end StartsFrom

end Traffic

/-- In every run, once a start of a job is stored: it stays for good if the job is over. Otherwise it stays, or it is
replaced by the reading of a report that had been loaded before, when the job had no start, and was applied since. Under
a clock that never goes back, what replaces it is no earlier. -/
theorem start_is_replaced_by_earlier_loads_only (events : List Event) {id : Text} {j : Job} {t : Timestamp}
    (hfound : (Traffic.start.run events).studio.store.job? id = some j) (hstarted : j.startedAt = some t)
    (more : List Event) :
    ∃ j', ((Traffic.start.run events).run more).studio.store.job? id = some j' ∧
      (j.status.isTerminal = true → j'.startedAt = some t) ∧
      (j'.startedAt = some t ∨
        ∃ (place : Nat) (w : Webhook) (loaded : Job) (times : ReportTimes) (r : WebhookResult),
          (Traffic.start.run events).reports[place]? = some (.loaded w loaded) ∧ w.jobId = id ∧
          loaded.startedAt = none ∧
          ((Traffic.start.run events).run more).reports[place]? = some (.answered w times (.ok r)) ∧
          r.applied = true ∧ j'.startedAt = some (.instant times.started) ∧
          (Traffic.ClockForward (events ++ more) → ∃ i, t = .instant i ∧ i ≤ times.started)) := by
  have hclocked := Traffic.Clocked.start.run events
  have hknown := Traffic.statusesKnown_start.run events
  have hfrom : (Traffic.start.run events).StartsFrom id t (Traffic.start.run events) [] :=
    ⟨fun _ _ _ hplace _ _ => hplace, j, hfound, .inl hstarted⟩
  obtain ⟨j', hfound', hstart⟩ := (hfrom.run more).stored
  refine ⟨j', hfound', ?_, ?_⟩
  · intro hover
    obtain ⟨same, hsame, hkept⟩ := Traffic.startedAt_run_of_terminal hknown hfound hover hstarted more
    rw [hfound', Option.some.injEq] at hsame
    rw [hsame]
    exact hkept
  · rcases hstart with hfirst | ⟨_, hread, hwritten, place, w, loaded, times, r, hplace, hjob, hnone, hanswered,
      happlied, rfl⟩
    · exact .inl hfirst
    · refine .inr ⟨place, w, loaded, times, r, hplace, hjob, hnone, hanswered, happlied, hwritten, ?_⟩
      intro hforward
      obtain ⟨i, hi, ht⟩ := hclocked.stored id j t hfound hstarted
      rw [Traffic.ClockForward, List.flatMap_append, List.pairwise_append] at hforward
      exact ⟨i, ht, hforward.2.2 i hi _ hread⟩

/-- The first job is completed, so its start stays whatever comes later. -/
theorem first_job_keeps_its_start :
    ∃ j, (Traffic.start.run Traffic.firstJob).studio.store.job? "job-1" = some j ∧ j.startedAt = some (.instant 7) ∧
      ∀ more, ∃ j', ((Traffic.start.run Traffic.firstJob).run more).studio.store.job? "job-1" = some j' ∧
        j'.startedAt = some (.instant 7) := by
  have hstored : ((Traffic.start.run Traffic.firstJob).studio.store.job? "job-1").map
      (fun j => (j.status, j.startedAt)) = some (.completed, some (.instant 7)) := by decide +kernel
  obtain ⟨j, hfound, hrow⟩ := Option.map_eq_some_iff.mp hstored
  obtain ⟨hcompleted, hstarted⟩ := Prod.mk.inj hrow
  refine ⟨j, hfound, hstarted, ?_⟩
  intro more
  obtain ⟨j', hfound', hover, -⟩ :=
    start_is_replaced_by_earlier_loads_only Traffic.firstJob hfound hstarted more
  exact ⟨j', hfound', hover (by rw [hcompleted]; rfl)⟩

/-- The worker reports that the first job is being processed. -/
def Webhook.firstProgress : Webhook :=
  ⟨"job-1", .processing, none, none, none, none, none⟩

/-- Two reports on the first job are loaded, and one of them is applied. -/
def Traffic.firstStart : List Event :=
  Traffic.firstAdmission ++
    [.dispatch 0 (.insert .small), .report (.load .firstProgress), .report (.load .firstProgress),
      .report (.update 0 (.still 8))]

/-- So a start that is stored may change: a second report was loaded before the first one wrote its start, and writes a
later one over it. -/
theorem start_is_written_twice :
    Traffic.ClockForward (Traffic.firstStart ++ [.report (.update 1 (.still 9))]) ∧
      ((Traffic.start.run Traffic.firstStart).studio.store.job? "job-1").bind (·.startedAt) = some (.instant 8) ∧
      (((Traffic.start.run Traffic.firstStart).run [.report (.update 1 (.still 9))]).studio.store.job? "job-1").bind
        (·.startedAt) = some (.instant 9) := by
  decide +kernel

end PromptStudio
