import PromptStudio.Proofs.Failure.Outcome
import PromptStudio.Proofs.Store.Update
import PromptStudio.Training.Activation
import PromptStudio.Training.Job

/-!
# What loading gives

Every operation starts by loading rows, and every load can fail: for an id that has no bytes, for a row that is not
there, for a column that does not read. Where a load comes out well, it gives the stored row and nothing else. The
lemmas here peel the failures off, so the proofs about operations see rows of the store only.
-/

namespace PromptStudio

theorem filter_isEmpty_of_ne_nil {t : Text} (h : t ≠ []) : (some t).filter (!·.isEmpty) = some t := by
  rw [Option.filter_some, List.isEmpty_eq_false_iff.mpr h]
  rfl

theorem Text.bindAll_eq_ok_iff {ts : List Text} : bindAll ts = .ok () ↔ ∀ t ∈ ts, t.isEncodable = true := by
  rw [← List.all_eq_true, bindAll]
  split
  · rename_i hall
    exact iff_of_true rfl hall
  · rename_i hsome
    exact iff_of_false (fun h => by cases h) hsome

theorem Text.bindable_of_isEncodable {t : Text} (h : t.isEncodable = true) : t.bindable = .ok t :=
  if_pos h

/-! ### Rows as they are loaded -/

theorem LoraModel.load_eq_ok {m found : LoraModel} (h : m.load = .ok found) : found = m := by
  simp only [LoraModel.load, bind_eq_ok, pure_eq_ok] at h
  obtain ⟨_, _, rfl⟩ := h
  rfl

theorem Dataset.load_eq_ok {d found : Dataset} (h : d.load = .ok found) : found = d := by
  simp only [Dataset.load, bind_eq_ok, pure_eq_ok] at h
  obtain ⟨_, _, _, _, _, _, rfl⟩ := h
  rfl

theorem Version.load_eq_ok {v found : Version} (h : v.load = .ok found) : found = v := by
  simp only [Version.load, bind_eq_ok, pure_eq_ok] at h
  obtain ⟨_, _, _, _, _, _, rfl⟩ := h
  rfl

theorem Job.load_eq_ok {j found : Job} (h : j.load = .ok found) : found = j := by
  simp only [Job.load, bind_eq_ok, pure_eq_ok] at h
  obtain ⟨_, _, _, _, _, _, _, _, rfl⟩ := h
  rfl

namespace Store

variable {s : Store}

theorem loadFound_eq_some {α : Type} {load : α → Except Fault α} {stored : Option α} {found : α}
    (hload : ∀ row row', load row = .ok row' → row' = row) (h : loadFound load stored = .ok (some found)) :
    stored = some found := by
  cases stored with
  | none => cases h
  | some row =>
      rw [loadFound] at h
      cases hrow : load row with
      | error e =>
          rw [hrow] at h
          cases h
      | ok row' =>
          rw [hrow] at h
          have hfound : row' = found := Option.some.inj (Except.ok.inj h)
          rw [← hfound, hload row row' hrow]

theorem bindable_eq_ok {t u : Text} (h : t.bindable = .ok u) : u = t := by
  rw [Text.bindable] at h
  split at h
  · exact (Except.ok.inj h).symm
  · cases h

/-- A row is loaded by its key if the key has bytes, the row is stored, and every column of it reads. -/
theorem load_eq_some_iff {α : Type} {load : α → Except Fault α} {find : Text → Option α} {id : Text} {row : α}
    (hload : ∀ row row', load row = .ok row' → row' = row) :
    (id.bindable >>= fun t => loadFound load (find t)) = .ok (some row) ↔
      id.bindable = .ok id ∧ load row = .ok row ∧ find id = some row := by
  rw [bind_eq_ok]
  constructor
  · rintro ⟨t, ht, h⟩
    obtain rfl := bindable_eq_ok ht
    have hfound := loadFound_eq_some hload h
    rw [hfound, loadFound, map_eq_ok] at h
    obtain ⟨loaded, hloaded, hsame⟩ := h
    rw [Option.some.injEq] at hsame
    exact ⟨ht, hsame ▸ hloaded, hfound⟩
  · rintro ⟨hid, hloaded, hfound⟩
    exact ⟨id, hid, by rw [hfound, loadFound, hloaded]; rfl⟩

theorem loadModel?_eq_some_iff {id : Text} {m : LoraModel} :
    s.loadModel? id = .ok (some m) ↔ id.bindable = .ok id ∧ m.load = .ok m ∧ s.model? id = some m :=
  load_eq_some_iff fun _ _ => LoraModel.load_eq_ok

theorem loadDataset?_eq_some_iff {id : Text} {d : Dataset} :
    s.loadDataset? id = .ok (some d) ↔ id.bindable = .ok id ∧ d.load = .ok d ∧ s.dataset? id = some d :=
  load_eq_some_iff fun _ _ => Dataset.load_eq_ok

theorem loadVersion?_eq_some_iff {id : Text} {v : Version} :
    s.loadVersion? id = .ok (some v) ↔ id.bindable = .ok id ∧ v.load = .ok v ∧ s.version? id = some v :=
  load_eq_some_iff fun _ _ => Version.load_eq_ok

theorem loadJob?_eq_some_iff {id : Text} {j : Job} :
    s.loadJob? id = .ok (some j) ↔ id.bindable = .ok id ∧ j.load = .ok j ∧ s.job? id = some j :=
  load_eq_some_iff fun _ _ => Job.load_eq_ok

theorem loadModel?_eq_some {id : Text} {m : LoraModel} (h : s.loadModel? id = .ok (some m)) :
    s.model? id = some m :=
  (loadModel?_eq_some_iff.mp h).2.2

theorem loadDataset?_eq_some {id : Text} {d : Dataset} (h : s.loadDataset? id = .ok (some d)) :
    s.dataset? id = some d :=
  (loadDataset?_eq_some_iff.mp h).2.2

theorem loadJob?_eq_some {id : Text} {j : Job} (h : s.loadJob? id = .ok (some j)) : s.job? id = some j :=
  (loadJob?_eq_some_iff.mp h).2.2

/-! ### Rows that an operation works on -/

theorem ownedModel_eq_ok_iff {id userId : Text} {m : LoraModel} :
    s.ownedModel id userId = .ok m ↔ s.loadModel? id = .ok (some m) ∧ m.userId = userId := by
  simp only [ownedModel, bind_eq_ok, liftFault_eq_ok, Option.exists, throw_ne_ok, and_false, false_or,
    ite_throw_eq_ok_iff, pure_eq_ok]
  constructor
  · rintro ⟨_, hfound, howner, rfl⟩
    exact ⟨hfound, howner⟩
  · rintro ⟨hfound, howner⟩
    exact ⟨m, hfound, howner, rfl⟩

theorem ownedModel_eq_ok {id userId : Text} {m : LoraModel} (h : s.ownedModel id userId = .ok m) :
    s.model? id = some m ∧ m.userId = userId := by
  obtain ⟨hfound, howner⟩ := ownedModel_eq_ok_iff.mp h
  exact ⟨loadModel?_eq_some hfound, howner⟩

theorem dataset_eq_ok_iff {id : Text} {d : Dataset} : s.dataset id = .ok d ↔ s.loadDataset? id = .ok (some d) := by
  simp only [dataset, bind_eq_ok, liftFault_eq_ok, Option.exists, throw_ne_ok, and_false, false_or, pure_eq_ok,
    exists_eq_right]

theorem dataset_eq_ok {id : Text} {d : Dataset} (h : s.dataset id = .ok d) : s.dataset? id = some d :=
  loadDataset?_eq_some (dataset_eq_ok_iff.mp h)

/-- A dataset is validated for its user only, and once. -/
theorem loadForValidation_eq_ok_iff {id userId : Text} {d : Dataset} :
    s.loadForValidation id userId = .ok d ↔ s.dataset id = .ok d ∧ d.userId = userId ∧ d.status = .pending := by
  simp only [loadForValidation, bind_eq_ok, throw_ite_eq_ok_iff, pure_eq_ok, ne_eq, Decidable.not_not]
  constructor
  · rintro ⟨_, hfound, howner, hpending, rfl⟩
    exact ⟨hfound, howner, hpending⟩
  · rintro ⟨hfound, howner, hpending⟩
    exact ⟨d, hfound, howner, hpending, rfl⟩

theorem loadForReport_eq_ok_iff {w : Webhook} {j : Job} :
    s.loadForReport w = .ok j ↔ s.loadJob? w.jobId = .ok (some j) := by
  simp only [loadForReport, bind_eq_ok, liftFault_eq_ok, Option.exists, throw_ne_ok, and_false, false_or, pure_eq_ok,
    exists_eq_right]

theorem loadForReport_eq_ok {w : Webhook} {j : Job} (h : s.loadForReport w = .ok j) : s.job? w.jobId = some j :=
  loadJob?_eq_some (loadForReport_eq_ok_iff.mp h)

theorem datasetForJob_eq_ok {modelId datasetId : Text} {d : Dataset} {hash : Text}
    (h : s.datasetForJob modelId datasetId = .ok (d, hash)) :
    s.dataset? datasetId = some d ∧ d.modelId = modelId ∧ d.status = .validated ∧ d.hash = some hash := by
  rw [datasetForJob, bind_eq_ok] at h
  obtain ⟨found, hfound, h⟩ := h
  split at h
  · exact absurd h throw_ne_ok
  · rename_i hmodel
    split at h
    · exact absurd h throw_ne_ok
    · split at h
      · exact absurd h throw_ne_ok
      · rename_i hstatus
        split at h
        · rename_i stored hstored
          rw [pure_eq_ok, Prod.mk.injEq] at h
          obtain ⟨rfl, rfl⟩ := h
          refine ⟨dataset_eq_ok hfound, Decidable.not_not.mp hmodel, Decidable.not_not.mp hstatus, ?_⟩
          exact (Option.filter_eq_some_iff.mp hstored).1
        · exact absurd h throw_ne_ok

theorem jobWithVersion_eq_ok_iff {id : Text} {found : JobAnswer} :
    s.jobWithVersion id = .ok found ↔
      s.loadJob? id = .ok (some found.job) ∧ s.loadVersion? found.job.versionId = .ok (some found.version) := by
  simp only [jobWithVersion, bind_eq_ok, liftFault_eq_ok, Option.exists, throw_ne_ok, and_false, false_or, pure_eq_ok]
  constructor
  · rintro ⟨j, hj, v, hv, rfl⟩
    exact ⟨hj, hv⟩
  · rintro ⟨hj, hv⟩
    exact ⟨_, hj, _, hv, rfl⟩

theorem ownedJob_eq_ok_iff {id userId : Text} {found : JobAnswer} :
    s.ownedJob id userId = .ok found ↔
      s.jobWithVersion id = .ok found ∧ ∃ m, s.ownedModel found.version.modelId userId = .ok m := by
  simp only [ownedJob, bind_eq_ok, pure_eq_ok]
  constructor
  · rintro ⟨_, hfound, m, hm, rfl⟩
    exact ⟨hfound, m, hm⟩
  · rintro ⟨hfound, m, hm⟩
    exact ⟨found, hfound, m, hm, rfl⟩

theorem jobForRetry_eq_ok_iff {id userId : Text} {found : JobAnswer} {d : Dataset} :
    s.jobForRetry id userId = .ok (found, d) ↔
      s.ownedJob id userId = .ok found ∧ found.job.status = .pending ∧
        ∃ datasetId, found.version.datasetId = some datasetId ∧ s.dataset datasetId = .ok d := by
  simp only [jobForRetry, bind_eq_ok, throw_ite_eq_ok_iff, ne_eq, Decidable.not_not]
  constructor
  · rintro ⟨answer, hanswer, hpending, h⟩
    cases hdataset : answer.version.datasetId with
    | none =>
        rw [hdataset] at h
        exact absurd h throw_ne_ok
    | some datasetId =>
        rw [hdataset] at h
        obtain ⟨d', hd', h⟩ := bind_eq_ok.mp h
        rw [pure_eq_ok, Prod.mk.injEq] at h
        obtain ⟨rfl, rfl⟩ := h
        exact ⟨hanswer, hpending, datasetId, hdataset, hd'⟩
  · rintro ⟨hanswer, hpending, datasetId, hdataset, hd⟩
    refine ⟨found, hanswer, hpending, ?_⟩
    rw [hdataset]
    exact bind_eq_ok.mpr ⟨d, hd, rfl⟩

theorem jobForRetry_eq_ok {id userId : Text} {found : JobAnswer} {d : Dataset}
    (h : s.jobForRetry id userId = .ok (found, d)) : s.job? id = some found.job ∧ found.job.status = .pending := by
  obtain ⟨howned, hpending, -⟩ := jobForRetry_eq_ok_iff.mp h
  exact ⟨loadJob?_eq_some (jobWithVersion_eq_ok_iff.mp (ownedJob_eq_ok_iff.mp howned).1).1, hpending⟩

theorem trainedVersion_eq_ok_iff {versionId userId : Text} {v : Version} {m : LoraModel} :
    s.trainedVersion versionId userId = .ok (v, m) ↔
      s.loadVersion? versionId = .ok (some v) ∧ v.artifact?.isSome = true ∧ s.loadModel? v.modelId = .ok (some m) ∧
        m.userId = userId := by
  simp only [trainedVersion, bind_eq_ok, liftFault_eq_ok, Option.exists, throw_ne_ok, and_false, false_or,
    throw_ite_eq_ok_iff, ite_throw_eq_ok_iff, pure_eq_ok, Option.isNone_iff_eq_none, ← ne_eq,
    ← Option.isSome_iff_ne_none]
  constructor
  · rintro ⟨_, hversion, hartifact, _, hmodel, howner, hfound⟩
    obtain ⟨rfl, rfl⟩ := Prod.mk.inj hfound
    exact ⟨hversion, hartifact, hmodel, howner⟩
  · rintro ⟨hversion, hartifact, hmodel, howner⟩
    exact ⟨v, hversion, hartifact, m, hmodel, howner, rfl⟩

end Store

/-- What is asked for has to be the user's, fit together and be known. -/
theorem Studio.admitJob_eq_ok_iff {k : Studio} {c : Context} {userId modelId datasetId baseModel hash : Text}
    {d : Dataset} :
    k.admitJob c userId modelId datasetId baseModel = .ok (d, hash) ↔
      (∃ m, k.store.ownedModel modelId userId = .ok m) ∧
        k.store.datasetForJob modelId datasetId = .ok (d, hash) ∧
        (liftM (c.catalog.checkBaseModel baseModel) : Except Failure Unit) = .ok () := by
  simp only [Studio.admitJob, bind_eq_ok, pure_eq_ok]
  constructor
  · rintro ⟨m, hm, _, hd, _, hbase, rfl⟩
    exact ⟨⟨m, hm⟩, hd, hbase⟩
  · rintro ⟨⟨m, hm⟩, hd, hbase⟩
    exact ⟨m, hm, _, hd, _, hbase, rfl⟩

/-- What is found for a new job: a validated dataset of a model of the user. -/
theorem Studio.admitJob_eq_ok {k : Studio} {c : Context} {userId modelId datasetId baseModel hash : Text}
    {d : Dataset} (h : k.admitJob c userId modelId datasetId baseModel = .ok (d, hash)) :
    k.store.dataset? datasetId = some d ∧ d.modelId = modelId ∧ d.status = .validated ∧ d.hash = some hash :=
  Store.datasetForJob_eq_ok (Studio.admitJob_eq_ok_iff.mp h).2.1

end PromptStudio
