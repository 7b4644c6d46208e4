import PromptStudio.Proofs.Training.Calls
import PromptStudio.Proofs.Training.Progress

/-!
# The training chain

A job trains a version, a version is made from a dataset, and a dataset belongs to a model. Four tables hold the links,
and nothing but the operations keeps them together. The invariant has a part for each table that an operation may
change: datasets belong to the user of their model and carry what their verdict says; versions and jobs are made in
pairs, under numbers of their own; a version keeps the dataset that it was made from; and the admission of a job that
is not made yet still holds. The last part is what an interleaved validation could break, and a dataset that was
validated is never judged again.
-/

namespace PromptStudio

/-! ### Datasets -/

theorem Store.model?_eq_of_models_eq {s s' : Store} (hmodels : s'.models = s.models) : s'.model? = s.model? := by
  funext id
  rw [model?, model?, hmodels]

structure Studio.DatasetsSound (k : Studio) : Prop where
  ids : Numbered "dataset" k.issued.datasets (k.store.datasets.map (·.id))
  owned : ∀ d ∈ k.store.datasets, ∃ m, k.store.model? d.modelId = some m ∧ m.userId = d.userId
  judged : ∀ d ∈ k.store.datasets, d.Judged

namespace Studio

variable {k k' : Studio}

theorem DatasetsSound.of_models (h : k.DatasetsSound)
    (hmodels : ∀ id m, k.store.model? id = some m → k'.store.model? id = some m)
    (hdatasets : k'.store.datasets = k.store.datasets) (hcount : k.issued.datasets ≤ k'.issued.datasets) :
    k'.DatasetsSound where
  ids := by
    rw [hdatasets]
    exact h.ids.mono hcount
  owned := by
    intro d hd
    rw [hdatasets] at hd
    obtain ⟨m, hmodel, howner⟩ := h.owned d hd
    exact ⟨m, hmodels _ m hmodel, howner⟩
  judged := by
    intro d hd
    rw [hdatasets] at hd
    exact h.judged d hd

theorem DatasetsSound.push (h : k.DatasetsSound) {new : Dataset}
    (hid : new.id = rowId "dataset" (k.issued.datasets + 1)) (hunjudged : new.Unjudged)
    (howner : ∃ m, k.store.model? new.modelId = some m ∧ m.userId = new.userId)
    (hmodels : k'.store.models = k.store.models) (hdatasets : k'.store.datasets = k.store.datasets ++ [new])
    (hcount : k'.issued.datasets = k.issued.datasets + 1) : k'.DatasetsSound where
  ids := by
    rw [hdatasets, hcount, List.map_append, List.map_singleton, hid]
    exact h.ids.push
  owned := by
    intro d hd
    rw [hdatasets] at hd
    rw [Store.model?_eq_of_models_eq hmodels]
    rcases List.mem_append.mp hd with hold | hnew
    · exact h.owned d hold
    · rw [List.mem_singleton.mp hnew]
      exact howner
  judged := by
    intro d hd
    rw [hdatasets] at hd
    rcases List.mem_append.mp hd with hold | hnew
    · exact h.judged d hold
    · rw [List.mem_singleton.mp hnew]
      exact hunjudged.judged

theorem DatasetsSound.judge (h : k.DatasetsSound) {loaded : Dataset} {v : Verdict} {now : Instant}
    (hloaded : k.store.dataset? loaded.id = some loaded) (hpending : loaded.status = .pending)
    (hverdict : v.hash.isSome = v.report.valid) (hmodels : k'.store.models = k.store.models)
    (hdatasets : k'.store.datasets
      = Store.updateWhere (·.id == loaded.id) (Dataset.withVerdict v now) k.store.datasets)
    (hcount : k'.issued.datasets = k.issued.datasets) : k'.DatasetsSound where
  ids := by
    rw [hdatasets, hcount,
      Store.map_updateWhere Dataset.id _ (Dataset.withVerdict v now) (fun _ => rfl) k.store.datasets]
    exact h.ids
  owned := by
    intro d hd
    rw [hdatasets] at hd
    rw [Store.model?_eq_of_models_eq hmodels]
    obtain ⟨old, hold, rfl⟩ := Store.mem_updateWhere.mp hd
    split
    · exact h.owned old hold
    · exact h.owned old hold
  judged := by
    intro d hd
    rw [hdatasets] at hd
    obtain ⟨old, hold, rfl⟩ := Store.mem_updateWhere.mp hd
    split
    · rename_i hpicked
      -- Ids are told apart, so the row that is written is the pending one that was loaded.
      have hfound : k.store.dataset? loaded.id = some old :=
        (Store.find?_eq_some_iff_mem h.ids.distinct).mpr ⟨hold, beq_iff_eq.mp hpicked⟩
      rw [hloaded] at hfound
      cases hfound
      exact Dataset.judged_withVerdict hverdict ((h.judged loaded hold).hash_eq_none hpending) now
    · exact h.judged old hold

theorem DatasetsSound.prepares (h : k.DatasetsSound) (hprepares : k.Prepares k') : k'.DatasetsSound := by
  cases hprepares with
  | models hmodels hdatasets hcount => exact h.of_models hmodels hdatasets hcount
  | dataset new hid hunjudged howner hmodels hdatasets hcount =>
      exact h.push hid hunjudged howner hmodels hdatasets hcount
  | verdict loaded v now hloaded hpending hverdict hmodels hdatasets hcount =>
      exact h.judge hloaded hpending hverdict hmodels hdatasets hcount

theorem Prepares.dataset?_of_validated (hprepares : k.Prepares k') {id : Text} {d : Dataset}
    (hfound : k.store.dataset? id = some d) (hvalidated : d.status = .validated) :
    k'.store.dataset? id = some d := by
  cases hprepares with
  | models _ hdatasets _ =>
      rw [Store.dataset?, hdatasets]
      exact hfound
  | dataset new _ _ _ _ hdatasets _ =>
      rw [Store.dataset?, hdatasets]
      exact Store.find?_append_of_eq_some hfound
  | verdict loaded v now hloaded hpending _ _ hdatasets _ =>
      have hid : d.id = id := Store.id_of_dataset? hfound
      have hother : (d.id == loaded.id) = false := by
        rw [beq_eq_false_iff_ne]
        intro heq
        rw [← heq, hid, hfound] at hloaded
        cases hloaded
        rw [hvalidated] at hpending
        cases hpending
      rw [Store.dataset?, hdatasets, Store.find?_updateWhere Dataset.id _ (Dataset.withVerdict v now) (fun _ => rfl)]
      change (k.store.dataset? id).map _ = _
      rw [hfound, Option.map_some, hother]
      rfl

end Studio

/-! ### Versions and jobs -/

/-- What holds of versions and jobs: every version was made with one job. -/
structure Studio.JobsSound (k : Studio) : Prop where
  versionIds : Numbered "version" k.issued.versions (k.store.versions.map (·.id))
  jobIds : Numbered "job" k.issued.jobs (k.store.jobs.map (·.id))
  paired : k.store.jobs.map (·.versionId) = k.store.versions.map (·.id)

namespace Studio.JobsSound

variable {k k' : Studio}

theorem of_same_keys (h : k.JobsSound) (hversions : k'.store.versions.map (·.id) = k.store.versions.map (·.id))
    (hjobs : k'.store.jobs.map (·.id) = k.store.jobs.map (·.id))
    (hpairs : k'.store.jobs.map (·.versionId) = k.store.jobs.map (·.versionId)) (hissued : k'.issued = k.issued) :
    k'.JobsSound where
  versionIds := by
    rw [hversions, hissued]
    exact h.versionIds
  jobIds := by
    rw [hjobs, hissued]
    exact h.jobIds
  paired := by
    rw [hpairs, hversions]
    exact h.paired

theorem of_sameJobs (h : k.JobsSound) (hsame : k.SameJobs k') : k'.JobsSound where
  versionIds := by
    rw [hsame.versions, hsame.versionCount]
    exact h.versionIds
  jobIds := by
    rw [hsame.jobs, hsame.jobCount]
    exact h.jobIds
  paired := by
    rw [hsame.jobs, hsame.versions]
    exact h.paired

/-- A version and its job are made together, each under the next number. -/
theorem insert (h : k.JobsSound) (a : Admission) (c : Context) : (a.insert k c).2.JobsSound where
  versionIds := by
    have hids : (a.insert k c).2.store.versions.map (·.id)
        = k.store.versions.map (·.id) ++ [rowId "version" (k.issued.versions + 1)] :=
      List.map_append
    rw [hids]
    exact h.versionIds.push
  jobIds := by
    have hids : (a.insert k c).2.store.jobs.map (·.id)
        = k.store.jobs.map (·.id) ++ [rowId "job" (k.issued.jobs + 1)] :=
      List.map_append
    rw [hids]
    exact h.jobIds.push
  paired := by
    change (k.store.jobs ++ [(a.insert k c).1.job]).map (·.versionId)
      = (k.store.versions ++ [(a.insert k c).1.version]).map (·.id)
    rw [List.map_append, List.map_append, h.paired]
    rfl

theorem exists_filter_eq (h : k.JobsSound) {v : Version} (hv : v ∈ k.store.versions) :
    ∃ j, k.store.jobs.filter (·.versionId == v.id) = [j] := by
  rw [← List.length_eq_one_iff]
  have hdistinct : (k.store.jobs.map (·.versionId)).Nodup := by
    rw [h.paired]
    exact h.versionIds.distinct
  have hmem : v.id ∈ k.store.jobs.map (·.versionId) := by
    rw [h.paired]
    exact List.mem_map_of_mem hv
  have hcount := List.count_eq_one_of_mem hdistinct hmem
  rw [List.count, List.countP_map, List.countP_eq_length_filter] at hcount
  exact hcount

end Studio.JobsSound

/-! ### What a step does to each table -/

namespace Traffic

variable {σ : Traffic} {k : Studio} {reports : List Reporting}

theorem Moves.prepares (hmove : σ.Moves k reports) : σ.studio.Prepares k := by
  cases hmove with
  | still hstore hissued _ =>
      refine .models ?_ ?_ ?_
      · intro id m hmodel
        rw [hstore]
        exact hmodel
      · rw [hstore]
      · exact Nat.le_of_eq (congrArg Issued.datasets hissued.symm)
  | plain c call => exact (σ.studio.performs_plain c call).prepares
  | insert hplace c => exact .models (fun _ _ hmodel => hmodel) rfl (Nat.le_refl _)
  | write u jobId now =>
      refine .models ?_ (u.apply_datasets jobId now _) (Nat.le_refl _)
      intro id m hmodel
      change (u.apply jobId now σ.studio.store).model? id = some m
      rw [Store.model?, JobUpdate.apply_models]
      exact hmodel
  | @report _ w loaded _ _ times =>
      refine .models ?_ Store.afterReport_datasets (Nat.le_refl _)
      intro id m hmodel
      change (σ.studio.store.afterReport loaded w times).model? id = some m
      rw [Store.model?, Store.afterReport_models]
      exact hmodel

theorem Moves.jobsSound (hmove : σ.Moves k reports) (h : σ.studio.JobsSound) : k.JobsSound := by
  cases hmove with
  | still hstore hissued _ => exact h.of_same_keys (by rw [hstore]) (by rw [hstore]) (by rw [hstore]) hissued
  | plain c call => exact h.of_sameJobs (σ.studio.performs_plain c call).sameJobs
  | @insert _ a _ c => exact h.insert a c
  | write u jobId now =>
      have hversions : (u.apply jobId now σ.studio.store).versions.map (·.id) = σ.studio.store.versions.map (·.id) := by
        rw [JobUpdate.apply_versions]
      exact h.of_same_keys hversions (u.jobIds_apply jobId now _) (u.jobVersionIds_apply jobId now _) rfl
  | @report _ w loaded _ _ times =>
      exact h.of_same_keys Store.versionIds_afterReport Store.jobIds_afterReport Store.jobVersionIds_afterReport rfl

end Traffic

/-! ### Admissions that are under way -/

namespace Traffic

variable {σ : Traffic}

theorem send_ne_admitted (k : Studio) (c : Context) (worker : WorkerAddress) (found : JobAnswer) (dataset : Dataset)
    (a : Admission) : (Dispatching.send k c worker found dataset).2 ≠ .admitted a := by
  rw [Dispatching.send]
  split
  · simp
  · dsimp only
    split
    · simp
    · split
      · simp
      · simp

/-- No step of a dispatch leads back to its admission. -/
theorem eq_admitted_of_advance {k : Studio} {d : Dispatching} {e : DispatchStep} {a : Admission}
    (h : (d.advance k e).2 = .admitted a) : d = .admitted a := by
  cases d with
  | admitted b =>
      cases e with
      | insert c => cases h
      | _ => exact h
  | ready found dataset =>
      cases e with
      | send c worker => exact absurd h (send_ne_admitted k c worker found dataset a)
      | _ => cases h
  | asked jobId worker request =>
      cases e with
      | _ => cases h
  | settling jobId updates =>
      cases updates with
      | nil => cases h
      | cons u rest =>
          cases e with
          | _ => cases h

/-- An admission that is under way was under way before, or was given in this step, which changed nothing else. -/
theorem admitted_step {e : Event} {place : Nat} {a : Admission}
    (h : (σ.step e).dispatches[place]? = some (.admitted a)) :
    σ.dispatches[place]? = some (.admitted a) ∨
      ∃ c userId datasetId, e = .admission c userId a.modelId datasetId a.baseModel a.params ∧
        σ.studio.admitJob c userId a.modelId datasetId a.baseModel = .ok (a.dataset, a.hash) ∧
        (σ.step e).studio = σ.studio := by
  cases e with
  | plain c call => exact Or.inl h
  | report e => exact Or.inl h
  | admission c userId modelId datasetId baseModel params =>
      rw [step] at h ⊢
      split at h
      · rename_i dataset hash hadmit
        rcases getElem?_push_cases h with hold | hnew
        · exact Or.inl hold
        · cases hnew
          exact Or.inr ⟨c, userId, datasetId, rfl, hadmit, rfl⟩
      · exact Or.inl h
  | retry id userId =>
      rw [step] at h
      split at h
      · rcases getElem?_push_cases h with hold | hnew
        · exact Or.inl hold
        · cases hnew
      · exact Or.inl h
  | dispatch changed e =>
      rw [step] at h
      split at h
      · rename_i d hd
        rcases getElem?_set_cases h with ⟨heq, hnew⟩ | ⟨_, hold⟩
        · rw [heq, hd, eq_admitted_of_advance hnew.symm]
          exact Or.inl rfl
        · exact Or.inl hold
      · exact Or.inl h

end Traffic

/-! ### The invariant -/

namespace Store

/-- The dataset of an admission is stored as it was admitted. -/
structure Backs (s : Store) (a : Admission) : Prop where
  stored : s.dataset? a.dataset.id = some a.dataset
  modelId : a.dataset.modelId = a.modelId
  status : a.dataset.status = .validated
  hash : a.dataset.hash = some a.hash

/-- A version is made from a validated dataset of its model, under the hash of the dataset. -/
def Trains (s : Store) (v : Version) : Prop :=
  ∃ datasetId d, v.datasetId = some datasetId ∧ s.dataset? datasetId = some d ∧ d.modelId = v.modelId ∧
    d.status = .validated ∧ d.hash = some v.datasetHash

variable {s s' : Store}

theorem Backs.of_admitJob {k : Studio} {c : Context} {userId datasetId : Text} {a : Admission}
    (h : k.admitJob c userId a.modelId datasetId a.baseModel = .ok (a.dataset, a.hash)) : k.store.Backs a := by
  obtain ⟨hfound, hmodel, hstatus, hhash⟩ := Studio.admitJob_eq_ok h
  have hid : a.dataset.id = datasetId := by simpa using List.find?_some hfound
  exact ⟨hid ▸ hfound, hmodel, hstatus, hhash⟩

theorem Backs.trains {a : Admission} (h : s.Backs a) (k : Studio) (c : Context) :
    s.Trains (a.insert k c).1.version :=
  ⟨a.dataset.id, a.dataset, rfl, h.stored, h.modelId, h.status, h.hash⟩

theorem Trains.keeps {v v' : Version} (h : s.Trains v) (hkeeps : v.Keeps v')
    (hstay : ∀ id d, s.dataset? id = some d → d.status = .validated → s'.dataset? id = some d) : s'.Trains v' := by
  obtain ⟨datasetId, d, hdataset, hfound, hmodel, hstatus, hhash⟩ := h
  refine ⟨datasetId, d, ?_, hstay datasetId d hfound hstatus, ?_, hstatus, ?_⟩
  · rw [hkeeps.datasetId, hdataset]
  · rw [hkeeps.modelId, hmodel]
  · rw [hkeeps.datasetHash, hhash]

end Store

namespace Traffic

variable {σ : Traffic}

structure Sound (σ : Traffic) : Prop where
  datasets : σ.studio.DatasetsSound
  jobs : σ.studio.JobsSound
  admitted : ∀ (place : Nat) a, σ.dispatches[place]? = some (.admitted a) → σ.studio.store.Backs a
  trained : ∀ id v, σ.studio.store.version? id = some v → σ.studio.store.Trains v

theorem sound_start : start.Sound where
  datasets := by
    refine ⟨Numbered.nil _ _, ?_, ?_⟩
    · intro d hd
      cases hd
    · intro d hd
      cases hd
  jobs := ⟨Numbered.nil _ _, Numbered.nil _ _, rfl⟩
  admitted := by
    intro place a hplace
    cases hplace
  trained := by
    intro id v hfound
    cases hfound

theorem Sound.step (h : σ.Sound) (e : Event) : (σ.step e).Sound := by
  have hmove := σ.moves_step e
  have hstay : ∀ id d, σ.studio.store.dataset? id = some d → d.status = .validated →
      (σ.step e).studio.store.dataset? id = some d := by
    intro id d hfound hvalidated
    exact hmove.prepares.dataset?_of_validated hfound hvalidated
  refine ⟨h.datasets.prepares hmove.prepares, hmove.jobsSound h.jobs, ?_, ?_⟩
  · intro place a hplace
    rcases admitted_step hplace with hold | ⟨c, userId, datasetId, -, hadmit, hsame⟩
    · have hbacks := h.admitted place a hold
      exact ⟨hstay _ _ hbacks.stored hbacks.status, hbacks.modelId, hbacks.status, hbacks.hash⟩
    · rw [hsame]
      exact .of_admitJob hadmit
  · intro id v hfound
    rcases (hmove.follows_version id).of_eq_some hfound with ⟨_, place, a, c, hplace, rfl⟩ | ⟨before, hbefore, hkeeps⟩
    · have htrains := (h.admitted place a hplace).trains σ.studio c
      exact htrains.keeps (.refl _) hstay
    · exact (h.trained id before hbefore).keeps hkeeps hstay

theorem Sound.run (h : σ.Sound) (events : List Event) : (σ.run events).Sound :=
  run_induction (fun _ e hsound => hsound.step e) h events

end Traffic

/-! ### The chain -/

/-- Whatever calls were made, and whether they succeeded or failed: every dataset belongs to the user of its model and
carries what its verdict says, and every version has one job and is made from a validated dataset of its model, under
the hash of that dataset. -/
theorem training_chain_holds (calls : List (Context × Call)) :
    (∀ d ∈ (Studio.start.performAll calls).store.datasets,
      (∃ m, (Studio.start.performAll calls).store.model? d.modelId = some m ∧ m.userId = d.userId) ∧
      (d.hash.isSome = true ↔ d.status = .validated) ∧
      (d.report ≠ .ok .null ↔ d.status ≠ .pending) ∧
      (d.status = .validated ↔ d.report.value.get? "valid" = some (.bool true))) ∧
    ∀ v ∈ (Studio.start.performAll calls).store.versions,
      (∃ j, (Studio.start.performAll calls).store.jobs.filter (·.versionId == v.id) = [j]) ∧
      ∃ datasetId d, v.datasetId = some datasetId ∧
        (Studio.start.performAll calls).store.dataset? datasetId = some d ∧
        d.modelId = v.modelId ∧ d.status = .validated ∧ d.hash = some v.datasetHash := by
  obtain ⟨events, hevents⟩ := Traffic.start.exists_run_performAll calls
  have hsound := Traffic.sound_start.run events
  change (Traffic.start.run events).studio = Studio.start.performAll calls at hevents
  rw [← hevents]
  refine ⟨?_, ?_⟩
  · intro d hd
    have hjudged := hsound.datasets.judged d hd
    exact ⟨hsound.datasets.owned d hd, hjudged.hash, hjudged.report, hjudged.valid⟩
  · intro v hv
    have hfound : (Traffic.start.run events).studio.store.version? v.id = some v :=
      (Store.find?_eq_some_iff_mem hsound.jobs.versionIds.distinct).mpr ⟨hv, rfl⟩
    exact ⟨hsound.jobs.exists_filter_eq hv, hsound.trained v.id v hfound⟩

def Call.firstJob : List (Context × Call) :=
  [(.small, .plain (.createModel "user" "Mia" none true)), (.small, .plain (.initDataset "user" "model-1" 3)),
    (.small, .plain (.validateDataset "dataset-1" "user")),
    (.small, .createJob ⟨[], .null⟩ "user" "model-1" "dataset-1" "base" .null .quiet)]

/-- The first calls leave a version, which has its job and its dataset. -/
theorem first_version_is_chained :
    ∃ v, (Studio.start.performAll Call.firstJob).store.version? "version-1" = some v ∧
      (∃ j, (Studio.start.performAll Call.firstJob).store.jobs.filter (·.versionId == v.id) = [j]) ∧
      ∃ datasetId d, v.datasetId = some datasetId ∧
        (Studio.start.performAll Call.firstJob).store.dataset? datasetId = some d ∧
        d.modelId = v.modelId ∧ d.status = .validated ∧ d.hash = some v.datasetHash := by
  have hmade : ((Studio.start.performAll Call.firstJob).store.version? "version-1").isSome = true := by decide +kernel
  obtain ⟨v, hfound⟩ := Option.isSome_iff_exists.mp hmade
  exact ⟨v, hfound, (training_chain_holds Call.firstJob).2 v (Store.mem_of_version? hfound)⟩

end PromptStudio
