import Mathlib.Data.List.Infix
import PromptStudio.Proofs.Ownership.Operations
import PromptStudio.Proofs.Training.Chain

/-!
# Validations that run at the same time

A validation loads its dataset, which has to be pending, and judges it; later it writes the verdict to the row, whatever
stands there by then. Between the two steps other validations may load the same dataset, and jobs may be admitted and
made. An assessment is the traffic on a studio together with the validations that passed their check, and a run is any
list of their steps and of the events of the traffic.

A settled dataset never becomes pending again, so a validation that succeeds after that was under way before. If none
is, the row stays as it is. That makes validation one-way as long as no two validations of one dataset overlap; two that
overlap both succeed, and the later verdict replaces the hash that a version may have been made under.
-/

namespace PromptStudio

/-! ### The two steps of a validation -/

/-- The first step: the dataset is loaded, and judged. -/
def Studio.judgeDataset (k : Studio) (c : Context) (id userId : Text) : Except Failure (Dataset × Verdict) := do
  let loaded ← k.store.loadForValidation id userId
  return (loaded, ← c.settings.judge loaded c.now)

theorem Studio.validateDataset_eq (k : Studio) (c : Context) (id userId : Text) :
    k.validateDataset c id userId = match k.judgeDataset c id userId with
      | .error failure => k.fail failure
      | .ok (loaded, v) =>
        (.ok (((k.store.writeVerdict loaded v c.now).dataset? id).getD loaded),
          k.withStore (k.store.writeVerdict loaded v c.now)) := rfl

theorem Studio.judgeDataset_eq_ok {k : Studio} {c : Context} {id userId : Text} {loaded : Dataset} {v : Verdict}
    (h : k.judgeDataset c id userId = .ok (loaded, v)) :
    k.store.dataset? loaded.id = some loaded ∧ loaded.status = .pending := by
  rw [judgeDataset, bind_eq_ok] at h
  obtain ⟨found, hfound, h⟩ := h
  rw [bind_eq_ok] at h
  obtain ⟨_, _, h⟩ := h
  rw [pure_eq_ok, Prod.mk.injEq] at h
  obtain ⟨rfl, rfl⟩ := h
  obtain ⟨hloaded, -, hpending⟩ := Store.loadForValidation_eq_ok_iff.mp hfound
  have hstored := Store.dataset_eq_ok hloaded
  have hid : found.id = id := Store.id_of_dataset? hstored
  rw [hid]
  exact ⟨hstored, hpending⟩

inductive Judging where
  | judged (loaded : Dataset) (v : Verdict)
  | written (loaded : Dataset) (v : Verdict)

/-- The dataset of a validation that succeeded. -/
def Judging.written? : Judging → Option Text
  | written loaded _ => some loaded.id
  | judged _ _ => none

def PlainCall.validates : PlainCall → Bool
  | validateDataset .. => true
  | _ => false

def Event.validates : Event → Bool
  | plain _ call => call.validates
  | _ => false

/-- A studio with all that is under way on it, and the validations that passed their check. -/
structure Assessment where
  traffic : Traffic
  judgings : List Judging

/-- Something that happens next. -/
inductive AssessmentStep where
  | judge (c : Context) (id userId : Text)
  | write (place : Nat) (now : Instant)
  /-- Anything else; a validation is made of its two steps here. -/
  | other (e : Event) (h : e.validates = false)

namespace Assessment

def start : Assessment :=
  ⟨.start, []⟩

def store (σ : Assessment) : Store :=
  σ.traffic.studio.store

def step (σ : Assessment) : AssessmentStep → Assessment
  | .judge c id userId =>
    match σ.traffic.studio.judgeDataset c id userId with
    | .ok (loaded, v) => { σ with judgings := σ.judgings ++ [.judged loaded v] }
    | .error _ => σ
  | .write place now =>
    match σ.judgings[place]? with
    | some (.judged loaded v) =>
      { traffic := { σ.traffic with studio := σ.traffic.studio.withStore (σ.store.writeVerdict loaded v now) }
        judgings := σ.judgings.set place (.written loaded v) }
    | _ => σ
  | .other e _ => { σ with traffic := σ.traffic.step e }

def run (σ : Assessment) (steps : List AssessmentStep) : Assessment :=
  steps.foldl step σ

/-- The validation at a place is about a dataset, and its verdict is still to be written. -/
def UnderWay (σ : Assessment) (id : Text) (place : Nat) : Prop :=
  ∃ loaded v, σ.judgings[place]? = some (.judged loaded v) ∧ loaded.id = id

/-- The validation at a place is about a dataset, and succeeded. -/
def Succeeded (σ : Assessment) (id : Text) (place : Nat) : Prop :=
  ∃ loaded v, σ.judgings[place]? = some (.written loaded v) ∧ loaded.id = id

def Alone (σ : Assessment) (id : Text) : Prop :=
  ∀ place other, σ.UnderWay id place → σ.UnderWay id other → place = other

variable {σ : Assessment} {id : Text}

theorem run_append (σ : Assessment) (steps more : List AssessmentStep) :
    σ.run (steps ++ more) = (σ.run steps).run more :=
  List.foldl_append

/-! ### What a step does -/

theorem step_write {place : Nat} {loaded : Dataset} {v : Verdict}
    (hplace : σ.judgings[place]? = some (.judged loaded v)) (now : Instant) :
    σ.step (.write place now)
      = { traffic := { σ.traffic with studio := σ.traffic.studio.withStore (σ.store.writeVerdict loaded v now) }
          judgings := σ.judgings.set place (.written loaded v) } := by
  simp only [step, hplace]

/-- A step begins a validation of a pending dataset, writes a verdict, is something else, or does nothing. -/
theorem step_cases (σ : Assessment) (e : AssessmentStep) :
    σ.step e = σ ∨
      (∃ loaded v, σ.store.dataset? loaded.id = some loaded ∧ loaded.status = .pending ∧
        σ.step e = { σ with judgings := σ.judgings ++ [.judged loaded v] }) ∨
      (∃ (place : Nat) (now : Instant) (loaded : Dataset) (v : Verdict),
        σ.judgings[place]? = some (.judged loaded v) ∧ σ.step e
          = { traffic := { σ.traffic with studio := σ.traffic.studio.withStore (σ.store.writeVerdict loaded v now) }
              judgings := σ.judgings.set place (.written loaded v) }) ∨
      ∃ event, event.validates = false ∧ σ.step e = { σ with traffic := σ.traffic.step event } := by
  cases e with
  | judge c id userId =>
      cases hjudged : σ.traffic.studio.judgeDataset c id userId with
      | error failure =>
          left
          simp only [step, hjudged]
      | ok found =>
          obtain ⟨hstored, hpending⟩ := Studio.judgeDataset_eq_ok hjudged
          exact .inr (.inl ⟨found.1, found.2, hstored, hpending, by simp only [step, hjudged]⟩)
  | write place now =>
      cases hplace : σ.judgings[place]? with
      | none =>
          left
          simp only [step, hplace]
      | some judging =>
          cases judging with
          | judged loaded v => exact .inr (.inr (.inl ⟨place, now, loaded, v, hplace, step_write hplace now⟩))
          | written loaded v =>
              left
              simp only [step, hplace]
  | other event h => exact .inr (.inr (.inr ⟨event, h, rfl⟩))

/-- A validation with nothing between its two steps is the call as a whole. -/
theorem run_judge_write (σ : Assessment) (c : Context) (id userId : Text) :
    (σ.run [.judge c id userId, .write σ.judgings.length c.now]).traffic.studio
      = (σ.traffic.studio.validateDataset c id userId).2 := by
  change ((σ.step (.judge c id userId)).step (.write σ.judgings.length c.now)).traffic.studio = _
  rw [Studio.validateDataset_eq]
  cases hjudged : σ.traffic.studio.judgeDataset c id userId with
  | error failure =>
      have hsame : σ.step (.judge c id userId) = σ := by
        simp only [step, hjudged]
      have hplace : σ.judgings[σ.judgings.length]? = none := List.getElem?_eq_none (Nat.le_refl _)
      rw [hsame]
      simp only [step, hplace]
      rfl
  | ok found =>
      obtain ⟨loaded, v⟩ := found
      have hbegun : σ.step (.judge c id userId) = { σ with judgings := σ.judgings ++ [.judged loaded v] } := by
        simp only [step, hjudged]
      rw [hbegun, step_write List.getElem?_concat_length]
      rfl

end Assessment

/-! ### Everything else leaves datasets alone -/

/-- No dataset changes; one may be added, on which no verdict was given. -/
def Store.KeepsDatasets (s s' : Store) : Prop :=
  s'.datasets = s.datasets ∨ ∃ new : Dataset, new.Unjudged ∧ s'.datasets = s.datasets ++ [new]

theorem Store.KeepsDatasets.follows {s s' : Store} (h : s.KeepsDatasets s') (id : Text) :
    Follows Dataset.Unjudged Eq (s.dataset? id) (s'.dataset? id) := by
  rcases h with hsame | ⟨new, hunjudged, hpushed⟩
  · rw [dataset?, dataset?, hsame]
    exact .refl (fun _ => rfl) _
  · rw [dataset?, dataset?, hpushed]
    exact follows_append (fun _ => rfl) hunjudged _ s.datasets

theorem Studio.Performs.keepsDatasets {k k' : Studio} {call : PlainCall} (h : k.Performs k' call)
    (hcall : call.validates = false) : k.store.KeepsDatasets k'.store := by
  cases h with
  | nothing _ _ _ hstore _ => exact .inl (by rw [hstore])
  | createModel _ _ hstore _ => exact .inl (by rw [hstore])
  | initDataset d _ hunjudged _ _ _ hstore _ => exact .inr ⟨d, hunjudged, by rw [hstore]⟩
  | validateDataset _ _ _ _ _ _ _ _ _ => cases hcall
  | activate _ hstore _ => exact .inl (by rw [hstore])
  | deactivate hstore _ => exact .inl (by rw [hstore])

theorem Traffic.keepsDatasets_step {σ : Traffic} {e : Event} (h : e.validates = false) :
    σ.studio.store.KeepsDatasets (σ.step e).studio.store := by
  have hother (hcall : ∀ c call, e ≠ .plain c call) : σ.studio.store.KeepsDatasets (σ.step e).studio.store := by
    obtain ⟨versions, jobs, hstore⟩ := σ.exists_store_step hcall
    exact .inl (by rw [hstore])
  cases e with
  | plain c call => exact (σ.studio.performs_plain c call).keepsDatasets h
  | _ => exact hother fun _ _ h => nomatch h

namespace Assessment

variable {σ : Assessment} {id : Text}

/-! ### Datasets and validations, step by step -/

theorem status_withVerdict_ne_pending (v : Verdict) (now : Instant) (d : Dataset) :
    (d.withVerdict v now).status ≠ .pending := by
  rw [Dataset.withVerdict]
  split <;> rintro ⟨⟩

/-- A validation that is under way after a step was so before, or was begun on a pending dataset. -/
theorem underWay_step {e : AssessmentStep} {place : Nat} (h : (σ.step e).UnderWay id place) :
    σ.UnderWay id place ∨ ∃ d, σ.store.dataset? id = some d ∧ d.status = .pending := by
  obtain ⟨loaded, v, hplace, rfl⟩ := h
  rcases σ.step_cases e with heq | ⟨found, v', hfound, hpending, heq⟩ | ⟨other, now, found, v', -, heq⟩ |
    ⟨event, -, heq⟩
  · rw [heq] at hplace
    exact .inl ⟨loaded, v, hplace, rfl⟩
  · rw [heq] at hplace
    rcases getElem?_push_cases hplace with hold | hnew
    · exact .inl ⟨loaded, v, hold, rfl⟩
    · cases hnew
      exact .inr ⟨loaded, hfound, hpending⟩
  · rw [heq] at hplace
    rcases getElem?_set_cases hplace with ⟨-, hnew⟩ | ⟨-, hold⟩
    · cases hnew
    · exact .inl ⟨loaded, v, hold, rfl⟩
  · rw [heq] at hplace
    exact .inl ⟨loaded, v, hplace, rfl⟩

theorem succeeded_step {e : AssessmentStep} {place : Nat} (h : (σ.step e).Succeeded id place) :
    σ.Succeeded id place ∨ σ.UnderWay id place := by
  obtain ⟨loaded, v, hplace, rfl⟩ := h
  rcases σ.step_cases e with heq | ⟨found, v', -, -, heq⟩ | ⟨other, now, found, v', hother, heq⟩ | ⟨event, -, heq⟩
  · rw [heq] at hplace
    exact .inl ⟨loaded, v, hplace, rfl⟩
  · rw [heq] at hplace
    rcases getElem?_push_cases hplace with hold | hnew
    · exact .inl ⟨loaded, v, hold, rfl⟩
    · cases hnew
  · rw [heq] at hplace
    rcases getElem?_set_cases hplace with ⟨rfl, hnew⟩ | ⟨-, hold⟩
    · cases hnew
      exact .inr ⟨loaded, v, hother, rfl⟩
    · exact .inl ⟨loaded, v, hold, rfl⟩
  · rw [heq] at hplace
    exact .inl ⟨loaded, v, hplace, rfl⟩

/-- What a step makes of a dataset: a verdict is written to it by a validation that is under way, or it stays. -/
theorem dataset?_step (e : AssessmentStep) {d : Dataset} (hfound : σ.store.dataset? id = some d) :
    (σ.step e).store.dataset? id = some d ∨
      ∃ place v now, σ.UnderWay id place ∧ (σ.step e).store.dataset? id = some (d.withVerdict v now) := by
  have hid : d.id = id := Store.id_of_dataset? hfound
  rcases σ.step_cases e with heq | ⟨found, v, -, -, heq⟩ | ⟨place, now, found, v, hplace, heq⟩ | ⟨event, hother, heq⟩
  · rw [heq]
    exact .inl hfound
  · rw [heq]
    exact .inl hfound
  · have hwritten : (σ.step e).store.dataset? id
        = some (if d.id == found.id then d.withVerdict v now else d) := by
      rw [heq]
      change (σ.store.writeVerdict found v now).dataset? id = _
      rw [Store.dataset?_writeVerdict, hfound]
      rfl
    by_cases hsame : d.id = found.id
    · rw [if_pos (beq_iff_eq.mpr hsame)] at hwritten
      exact .inr ⟨place, v, now, ⟨found, v, hplace, hsame.symm.trans hid⟩, hwritten⟩
    · rw [if_neg (by rwa [beq_iff_eq])] at hwritten
      exact .inl hwritten
  · left
    rw [heq]
    change σ.traffic.studio.store.dataset? id = some d at hfound
    obtain ⟨_, hafter, rfl⟩ := ((Traffic.keepsDatasets_step hother).follows id).exists_of_eq_some hfound
    exact hafter

/-! ### Settled datasets -/

theorem settled_run {d : Dataset} (hfound : σ.store.dataset? id = some d) (hsettled : d.status ≠ .pending)
    (steps : List AssessmentStep) :
    (∃ d', (σ.run steps).store.dataset? id = some d' ∧ d'.status ≠ .pending) ∧
      (∀ place, (σ.run steps).UnderWay id place → σ.UnderWay id place) ∧
      ∀ place, (σ.run steps).Succeeded id place → σ.Succeeded id place ∨ σ.UnderWay id place := by
  induction steps generalizing σ d with
  | nil => exact ⟨⟨d, hfound, hsettled⟩, fun _ h => h, fun _ h => .inl h⟩
  | cons e rest ih =>
      obtain ⟨d', hfound', hsettled'⟩ : ∃ d', (σ.step e).store.dataset? id = some d' ∧ d'.status ≠ .pending := by
        rcases dataset?_step e hfound with hsame | ⟨_, v, now, -, hwritten⟩
        · exact ⟨d, hsame, hsettled⟩
        · exact ⟨_, hwritten, status_withVerdict_ne_pending v now d⟩
      have hbegun : ∀ place, (σ.step e).UnderWay id place → σ.UnderWay id place := by
        intro place h
        rcases underWay_step h with hbefore | ⟨other, hother, hpending⟩
        · exact hbefore
        · rw [hfound, Option.some.injEq] at hother
          rw [hother] at hsettled
          exact absurd hpending hsettled
      obtain ⟨hlast, hunderWay, hsucceeded⟩ := ih hfound' hsettled'
      refine ⟨hlast, fun place h => hbegun place (hunderWay place h), ?_⟩
      intro place h
      rcases hsucceeded place h with hdone | hlater
      · exact succeeded_step hdone
      · exact .inr (hbegun place hlater)

theorem frozen_run {d : Dataset} (hfound : σ.store.dataset? id = some d) (hsettled : d.status ≠ .pending)
    (hidle : ∀ place, ¬ σ.UnderWay id place) (steps : List AssessmentStep) :
    (σ.run steps).store.dataset? id = some d := by
  induction steps generalizing σ with
  | nil => exact hfound
  | cons e rest ih =>
      have hsame : (σ.step e).store.dataset? id = some d := by
        rcases dataset?_step e hfound with hsame | ⟨place, _, _, hunderWay, -⟩
        · exact hsame
        · exact absurd hunderWay (hidle place)
      refine ih hsame ?_
      intro place h
      exact hidle place ((settled_run hfound hsettled [e]).2.1 place h)

/-! ### Validations that do not overlap -/

/-- A dataset is stored as validated, under a hash. -/
def HasHash (σ : Assessment) (id hash : Text) : Prop :=
  ∃ d, σ.store.dataset? id = some d ∧ d.status = .validated ∧ d.hash = some hash

/-- What holds of a dataset while its validations do not overlap. -/
structure OneWay (σ : Assessment) (id : Text) : Prop where
  unhashed : ∀ d, σ.store.dataset? id = some d → d.status = .pending → d.hash = none
  pending : ∀ place, σ.UnderWay id place → ∃ d, σ.store.dataset? id = some d ∧ d.status = .pending
  settled : ∀ place, σ.Succeeded id place → ∃ d, σ.store.dataset? id = some d ∧ d.status ≠ .pending
  once : ∀ place other, σ.Succeeded id place → σ.Succeeded id other → place = other
  admitted : ∀ (place : Nat) a, σ.traffic.dispatches[place]? = some (.admitted a) → a.dataset.id = id →
    σ.HasHash id a.hash
  trained : ∀ key v, σ.store.version? key = some v → v.datasetId = some id → σ.HasHash id v.datasetHash

namespace OneWay

theorem start (id : Text) : Assessment.start.OneWay id where
  unhashed := by
    intro d hfound
    cases hfound
  pending := by
    rintro place ⟨_, _, hplace, -⟩
    cases hplace
  settled := by
    rintro place ⟨_, _, hplace, -⟩
    cases hplace
  once := by
    rintro place other ⟨_, _, hplace, -⟩
    cases hplace
  admitted := by
    intro place a hplace
    cases hplace
  trained := by
    intro key v hfound
    cases hfound

theorem not_hasHash (h : σ.OneWay id) {place : Nat} (hunderWay : σ.UnderWay id place) (hash : Text) :
    ¬ σ.HasHash id hash := by
  rintro ⟨d, hfound, hvalidated, -⟩
  obtain ⟨d', hfound', hpending⟩ := h.pending place hunderWay
  rw [hfound, Option.some.injEq] at hfound'
  rw [hfound', hpending] at hvalidated
  cases hvalidated

theorem write (h : σ.OneWay id) (halone : σ.Alone id) {place : Nat} {loaded : Dataset} {v : Verdict}
    (hplace : σ.judgings[place]? = some (.judged loaded v)) (hid : loaded.id = id) (now : Instant) :
    (σ.step (.write place now)).OneWay id := by
  have hunderWay : σ.UnderWay id place := ⟨loaded, v, hplace, hid⟩
  obtain ⟨d, hfound, hpending⟩ := h.pending place hunderWay
  have hdid : d.id = id := Store.id_of_dataset? hfound
  have hstep := step_write hplace now
  have hwritten : (σ.step (.write place now)).store.dataset? id = some (d.withVerdict v now) := by
    rw [hstep]
    change (σ.store.writeVerdict loaded v now).dataset? id = _
    rw [Store.dataset?_writeVerdict, hfound, hid, Option.map_some, hdid, beq_self_eq_true, if_pos rfl]
  have hsettled : (d.withVerdict v now).status ≠ .pending := status_withVerdict_ne_pending v now d
  have honly : ∀ other, (σ.step (.write place now)).Succeeded id other → other = place := by
    intro other hother
    rcases succeeded_step hother with hdone | hbegun
    · obtain ⟨d', hfound', hover⟩ := h.settled other hdone
      rw [hfound, Option.some.injEq] at hfound'
      rw [← hfound'] at hover
      exact absurd hpending hover
    · exact halone other place hbegun hunderWay
  constructor
  · intro d' hfound' hpending'
    rw [hwritten, Option.some.injEq] at hfound'
    rw [← hfound'] at hpending'
    exact absurd hpending' hsettled
  · rintro other ⟨found, v', hother, hfoundId⟩
    rw [hstep] at hother
    rcases getElem?_set_cases hother with ⟨-, hnew⟩ | ⟨hne, hold⟩
    · cases hnew
    · exact absurd (halone other place ⟨found, v', hold, hfoundId⟩ hunderWay) hne
  · intro other _
    exact ⟨_, hwritten, hsettled⟩
  · intro other third hother hthird
    rw [honly other hother, honly third hthird]
  · intro other a hother haid
    rw [hstep] at hother
    exact absurd (h.admitted other a hother haid) (h.not_hasHash hunderWay a.hash)
  · intro key version hversion hdataset
    rw [hstep] at hversion
    exact absurd (h.trained key version hversion hdataset) (h.not_hasHash hunderWay version.datasetHash)

theorem of_kept (h : σ.OneWay id) {σ' : Assessment}
    (hfollows : Store.Follows Dataset.Unjudged Eq (σ.store.dataset? id) (σ'.store.dataset? id))
    (hunderWay : ∀ place, σ'.UnderWay id place →
      σ.UnderWay id place ∨ ∃ d, σ.store.dataset? id = some d ∧ d.status = .pending)
    (hsucceeded : ∀ place, σ'.Succeeded id place → σ.Succeeded id place)
    (hadmitted : ∀ (place : Nat) a, σ'.traffic.dispatches[place]? = some (.admitted a) → a.dataset.id = id →
      σ.HasHash id a.hash)
    (htrained : ∀ key v, σ'.store.version? key = some v → v.datasetId = some id → σ.HasHash id v.datasetHash) :
    σ'.OneWay id := by
  have hstay : ∀ d, σ.store.dataset? id = some d → σ'.store.dataset? id = some d := by
    intro d hfound
    obtain ⟨_, hfound', rfl⟩ := hfollows.exists_of_eq_some hfound
    exact hfound'
  constructor
  · intro d hfound hpending
    rcases hfollows.of_eq_some hfound with ⟨-, hunjudged⟩ | ⟨_, hbefore, rfl⟩
    · exact hunjudged.hash
    · exact h.unhashed _ hbefore hpending
  · intro place hplace
    obtain ⟨d, hfound, hpending⟩ : ∃ d, σ.store.dataset? id = some d ∧ d.status = .pending := by
      rcases hunderWay place hplace with hbefore | hnew
      · exact h.pending place hbefore
      · exact hnew
    exact ⟨d, hstay d hfound, hpending⟩
  · intro place hplace
    obtain ⟨d, hfound, hsettled⟩ := h.settled place (hsucceeded place hplace)
    exact ⟨d, hstay d hfound, hsettled⟩
  · intro place other hplace hother
    exact h.once place other (hsucceeded place hplace) (hsucceeded other hother)
  · intro place a hplace hid
    obtain ⟨d, hfound, hhash⟩ := hadmitted place a hplace hid
    exact ⟨d, hstay d hfound, hhash⟩
  · intro key v hversion hdataset
    obtain ⟨d, hfound, hhash⟩ := htrained key v hversion hdataset
    exact ⟨d, hstay d hfound, hhash⟩

theorem admitted_event (h : σ.OneWay id) {event : Event} {place : Nat} {a : Admission}
    (hplace : (σ.traffic.step event).dispatches[place]? = some (.admitted a)) (hid : a.dataset.id = id) :
    σ.HasHash id a.hash := by
  rcases Traffic.admitted_step hplace with hold | ⟨c, userId, datasetId, -, hadmit, -⟩
  · exact h.admitted place a hold hid
  · have hbacks := Store.Backs.of_admitJob hadmit
    exact ⟨a.dataset, hid ▸ hbacks.stored, hbacks.status, hbacks.hash⟩

theorem trained_event (h : σ.OneWay id) {event : Event} {key : Text} {v : Version}
    (hversion : (σ.traffic.step event).studio.store.version? key = some v) (hdataset : v.datasetId = some id) :
    σ.HasHash id v.datasetHash := by
  rcases ((σ.traffic.moves_step event).follows_version key).of_eq_some hversion with
    ⟨-, place, a, c, hplace, rfl⟩ | ⟨before, hbefore, hkeeps⟩
  · exact h.admitted place a hplace (Option.some.inj hdataset)
  · rw [hkeeps.datasetHash]
    exact h.trained key before hbefore (hkeeps.datasetId.symm.trans hdataset)

theorem step (h : σ.OneWay id) (halone : σ.Alone id) (e : AssessmentStep) : (σ.step e).OneWay id := by
  have hbegun : ∀ place, (σ.step e).UnderWay id place →
      σ.UnderWay id place ∨ ∃ d, σ.store.dataset? id = some d ∧ d.status = .pending := fun place => underWay_step
  rcases σ.step_cases e with heq | ⟨found, v, -, -, heq⟩ | ⟨place, now, found, v, hplace, heq⟩ | ⟨event, hother, heq⟩
  · rw [heq]
    exact h
  · rw [heq] at hbegun ⊢
    refine h.of_kept (.refl (fun _ => rfl) _) hbegun ?_ h.admitted h.trained
    rintro place ⟨loaded, v', hplace, hid⟩
    rcases getElem?_push_cases hplace with hold | hnew
    · exact ⟨loaded, v', hold, hid⟩
    · cases hnew
  · by_cases hid : found.id = id
    · rw [heq, ← step_write hplace now]
      exact h.write halone hplace hid now
    · have hsame : (σ.store.writeVerdict found v now).dataset? id = σ.store.dataset? id := by
        rw [Store.dataset?_writeVerdict]
        cases hfound : σ.store.dataset? id with
        | none => rfl
        | some d =>
            have hdid : d.id = id := Store.id_of_dataset? hfound
            rw [Option.map_some, hdid, if_neg (by rwa [beq_iff_eq, eq_comm])]
      rw [heq] at hbegun ⊢
      refine h.of_kept ?_ hbegun ?_ h.admitted h.trained
      · change Store.Follows _ _ _ ((σ.store.writeVerdict found v now).dataset? id)
        rw [hsame]
        exact .refl (fun _ => rfl) _
      · rintro other ⟨loaded, v', hother, hloaded⟩
        rcases getElem?_set_cases hother with ⟨-, hnew⟩ | ⟨-, hold⟩
        · cases hnew
          exact absurd hloaded hid
        · exact ⟨loaded, v', hold, hloaded⟩
  · rw [heq] at hbegun ⊢
    exact h.of_kept ((Traffic.keepsDatasets_step hother).follows id) hbegun (fun _ hplace => hplace)
      (fun _ _ => h.admitted_event) (fun _ _ => h.trained_event)

theorem run (h : σ.OneWay id) {steps : List AssessmentStep}
    (halone : ∀ before, before <+: steps → (σ.run before).Alone id) : (σ.run steps).OneWay id := by
  induction steps generalizing σ with
  | nil => exact h
  | cons e rest ih =>
      refine ih (h.step (halone [] List.nil_prefix) e) ?_
      intro before hbefore
      exact halone (e :: before) (List.cons_prefix_cons.mpr ⟨rfl, hbefore⟩)

end OneWay

theorem jobsSound_step (h : σ.traffic.studio.JobsSound) (e : AssessmentStep) :
    (σ.step e).traffic.studio.JobsSound := by
  rcases σ.step_cases e with heq | ⟨_, _, -, -, heq⟩ | ⟨_, _, _, _, -, heq⟩ | ⟨event, -, heq⟩
  · rw [heq]
    exact h
  · rw [heq]
    exact h
  · rw [heq]
    exact h.of_same_keys rfl rfl rfl rfl
  · rw [heq]
    exact (σ.traffic.moves_step event).jobsSound h

theorem jobsSound_run (h : σ.traffic.studio.JobsSound) (steps : List AssessmentStep) :
    (σ.run steps).traffic.studio.JobsSound := by
  induction steps generalizing σ with
  | nil => exact h
  | cons e rest ih => exact ih (jobsSound_step h e)

end Assessment

/-- In every run of validations beside the traffic on a studio, for every dataset: once it is settled it stays settled,
as it is if no validation of it is under way, and what succeeds later was under way by then. And if no two validations
of it ever overlap, one validation of it succeeds at most, a hash that is stored stays, and the versions made from it
have the hash of the dataset. -/
theorem validation_is_one_way_unless_it_overlaps (steps : List AssessmentStep) (id : Text) :
    (∀ before after d, steps = before ++ after → (Assessment.start.run before).store.dataset? id = some d →
      d.status ≠ .pending →
      (∃ d', (Assessment.start.run steps).store.dataset? id = some d' ∧ d'.status ≠ .pending ∧
        ((∀ place, ¬ (Assessment.start.run before).UnderWay id place) → d' = d)) ∧
      ∀ place, (Assessment.start.run steps).Succeeded id place →
        (Assessment.start.run before).Succeeded id place ∨ (Assessment.start.run before).UnderWay id place) ∧
    ((∀ before, before <+: steps → (Assessment.start.run before).Alone id) →
      (∀ place other, (Assessment.start.run steps).Succeeded id place →
        (Assessment.start.run steps).Succeeded id other → place = other) ∧
      (∀ before d hash, before <+: steps → (Assessment.start.run before).store.dataset? id = some d →
        d.hash = some hash → ∃ d', (Assessment.start.run steps).store.dataset? id = some d' ∧ d'.hash = some hash) ∧
      ∀ v ∈ (Assessment.start.run steps).store.versions, v.datasetId = some id →
        ∃ d, (Assessment.start.run steps).store.dataset? id = some d ∧ d.hash = some v.datasetHash) := by
  constructor
  · rintro before after d rfl hfound hsettled
    rw [Assessment.run_append]
    obtain ⟨⟨d', hfound', hsettled'⟩, -, hsucceeded⟩ := Assessment.settled_run hfound hsettled after
    refine ⟨⟨d', hfound', hsettled', ?_⟩, hsucceeded⟩
    intro hidle
    rw [Assessment.frozen_run hfound hsettled hidle after, Option.some.injEq] at hfound'
    exact hfound'.symm
  · intro halone
    have honeWay := (Assessment.OneWay.start id).run halone
    refine ⟨honeWay.once, ?_, ?_⟩
    · rintro before d hash ⟨after, rfl⟩ hfound hhash
      have hbefore := (Assessment.OneWay.start id).run fun first hfirst =>
        halone first (hfirst.trans (List.prefix_append before after))
      have hsettled : d.status ≠ .pending := by
        intro hpending
        rw [hbefore.unhashed d hfound hpending] at hhash
        cases hhash
      have hidle : ∀ place, ¬ (Assessment.start.run before).UnderWay id place := by
        intro place hplace
        obtain ⟨_, hfound', hpending⟩ := hbefore.pending place hplace
        rw [hfound, Option.some.injEq] at hfound'
        rw [hfound'] at hsettled
        exact hsettled hpending
      rw [Assessment.run_append]
      exact ⟨d, Assessment.frozen_run hfound hsettled hidle after, hhash⟩
    · intro v hv hdataset
      have hstart : Assessment.start.traffic.studio.JobsSound := Traffic.sound_start.jobs
      have hkeys := (Assessment.jobsSound_run hstart steps).versionIds.distinct
      have hversion : (Assessment.start.run steps).store.version? v.id = some v :=
        (Store.find?_eq_some_iff_mem hkeys).mpr ⟨hv, rfl⟩
      obtain ⟨d, hfound, -, hhash⟩ := honeWay.trained v.id v hversion hdataset
      exact ⟨d, hfound, hhash⟩

def Assessment.firstDataset : List AssessmentStep :=
  [.other (.plain .small (.createModel "user" "Mia" none true)) rfl,
    .other (.plain .small (.initDataset "user" "model-1" 3)) rfl]

def Assessment.makeJob : List AssessmentStep :=
  [.other (.admission .small "user" "model-1" "dataset-1" "base" .null) rfl,
    .other (.dispatch 0 (.insert .small)) rfl]

/-- The first dataset is validated, and a job is made from it. -/
def Assessment.oneValidation : List AssessmentStep :=
  firstDataset ++ [.judge .small "dataset-1" "user", .write 0 8] ++ makeJob

theorem Assessment.alone_of_length_le {σ : Assessment} (h : σ.judgings.length ≤ 1) (id : Text) : σ.Alone id := by
  rintro place other ⟨_, _, hplace, -⟩ ⟨_, _, hother, -⟩
  have hlt := (List.getElem?_eq_some_iff.mp hplace).1
  have hlt' := (List.getElem?_eq_some_iff.mp hother).1
  omega

/-- With one validation the version that is made has the hash of its dataset. -/
theorem one_validation_is_one_way :
    ∃ v d, (Assessment.start.run Assessment.oneValidation).store.version? "version-1" = some v ∧
      (Assessment.start.run Assessment.oneValidation).store.dataset? "dataset-1" = some d ∧
      d.hash = some v.datasetHash := by
  have hsingle : ∀ before ∈ Assessment.oneValidation.inits, (Assessment.start.run before).judgings.length ≤ 1 := by
    decide +kernel
  have halone : ∀ before, before <+: Assessment.oneValidation → (Assessment.start.run before).Alone "dataset-1" :=
    fun before hbefore => Assessment.alone_of_length_le (hsingle before ((List.mem_inits _ _).mpr hbefore)) _
  have hmade : ((Assessment.start.run Assessment.oneValidation).store.version? "version-1").map (·.datasetId)
      = some (some ("dataset-1" : Text)) := by decide +kernel
  obtain ⟨v, hversion, hdataset⟩ := Option.map_eq_some_iff.mp hmade
  obtain ⟨d, hfound, hhash⟩ := ((validation_is_one_way_unless_it_overlaps Assessment.oneValidation "dataset-1").2
    halone).2.2 v (Store.mem_of_version? hversion) hdataset
  exact ⟨v, d, hversion, hfound, hhash⟩

/-- Two validations of the first dataset pass their check, one of them is written, and a job is made. -/
def Assessment.overlap : List AssessmentStep :=
  firstDataset ++ [.judge .small "dataset-1" "user", .judge { Context.small with now := 5000 } "dataset-1" "user",
    .write 0 8] ++ makeJob

theorem Assessment.succeeded_of_written? {σ : Assessment} {id : Text} {place : Nat}
    (h : (σ.judgings[place]?).bind Judging.written? = some id) : σ.Succeeded id place := by
  obtain ⟨judging, hplace, hwritten⟩ := Option.bind_eq_some_iff.mp h
  cases judging with
  | judged loaded v => cases hwritten
  | written loaded v => exact ⟨loaded, v, hplace, Option.some.inj hwritten⟩

/-- When the other one is written, too, both have succeeded, the stored hash has changed, and the version that was made
has another hash than its dataset. -/
theorem overlapping_validations_replace_hash :
    (Assessment.start.run (Assessment.overlap ++ [.write 1 5001])).Succeeded "dataset-1" 0 ∧
    (Assessment.start.run (Assessment.overlap ++ [.write 1 5001])).Succeeded "dataset-1" 1 ∧
    ∃ d d' v, (Assessment.start.run Assessment.overlap).store.dataset? "dataset-1" = some d ∧
      (Assessment.start.run (Assessment.overlap ++ [.write 1 5001])).store.dataset? "dataset-1" = some d' ∧
      (Assessment.start.run (Assessment.overlap ++ [.write 1 5001])).store.version? "version-1" = some v ∧
      v.datasetId = some "dataset-1" ∧ d.hash = some v.datasetHash ∧ d'.hash ≠ d.hash := by
  have hfirst : ((Assessment.start.run (Assessment.overlap ++ [.write 1 5001])).judgings[0]?).bind Judging.written?
      = some ("dataset-1" : Text) := by decide +kernel
  have hsecond : ((Assessment.start.run (Assessment.overlap ++ [.write 1 5001])).judgings[1]?).bind Judging.written?
      = some ("dataset-1" : Text) := by decide +kernel
  have hstored : ((Assessment.start.run Assessment.overlap).store.dataset? "dataset-1").isSome = true := by
    decide +kernel
  have hmade : ((Assessment.start.run (Assessment.overlap ++ [.write 1 5001])).store.version? "version-1").map
      (fun v => (v.datasetId, some v.datasetHash))
        = some (some ("dataset-1" : Text),
            ((Assessment.start.run Assessment.overlap).store.dataset? "dataset-1").bind (·.hash)) := by decide +kernel
  have hreplaced : (((Assessment.start.run (Assessment.overlap ++ [.write 1 5001])).store.dataset? "dataset-1").map
      fun d => d.hash == ((Assessment.start.run Assessment.overlap).store.dataset? "dataset-1").bind (·.hash))
        = some false := by decide +kernel
  obtain ⟨d, hd⟩ := Option.isSome_iff_exists.mp hstored
  obtain ⟨v, hv, hrow⟩ := Option.map_eq_some_iff.mp hmade
  obtain ⟨d', hd', hother⟩ := Option.map_eq_some_iff.mp hreplaced
  rw [hd, Option.bind_some] at hrow hother
  obtain ⟨hdataset, hhash⟩ := Prod.mk.inj hrow
  exact ⟨Assessment.succeeded_of_written? hfirst, Assessment.succeeded_of_written? hsecond, d, d', v, hd, hd', hv,
    hdataset, hhash.symm, beq_eq_false_iff_ne.mp hother⟩

end PromptStudio
