import PromptStudio.Proofs.Json.Encodable
import PromptStudio.Proofs.Store.Load
import PromptStudio.Training.Activation

/-!
# Calls that ask nobody

Models, datasets and active versions are worked on by calls that are over at once. `Performs` says once, call by call,
what such a call can do to a studio; no later proof opens the calls for that again. Whether a call succeeds or fails, it
leaves versions and jobs alone, and of the tables that a job is made from it changes one row at most: it adds a model,
it adds a dataset that belongs to the user of its model, or it writes the verdict on a dataset that is still pending.
`Prepares` says so, for all that rests on models and datasets only.
-/

namespace PromptStudio

/-- A call on models, datasets or active versions. -/
inductive PlainCall where
  | createModel (userId name : Text) (description : Option Text) (consent : Bool)
  | initDataset (userId modelId : Text) (imageCount : Int)
  | validateDataset (id userId : Text)
  | activate (userId versionId : Text) (weight : Binary64)
  | deactivate (userId : Text)

/-- What a call on models, datasets or active versions leaves, whether it succeeds or fails. -/
def Studio.performPlain (k : Studio) (c : Context) : PlainCall → Studio
  | .createModel userId name description consent => (k.createModel c userId name description consent).2
  | .initDataset userId modelId imageCount => (k.initDataset c userId modelId imageCount).2
  | .validateDataset id userId => (k.validateDataset c id userId).2
  | .activate userId versionId weight => (k.activate c userId versionId weight).2
  | .deactivate userId => (k.deactivate userId).2

/-! ### Datasets and their verdicts -/

namespace Dataset

structure Unjudged (d : Dataset) : Prop where
  status : d.status = .pending
  report : d.report = .ok .null
  hash : d.hash = none

/-- A dataset has a hash exactly when it is validated, has a report exactly when it is not pending, and is validated
exactly when its report says that it is valid. -/
structure Judged (d : Dataset) : Prop where
  hash : d.hash.isSome = true ↔ d.status = .validated
  report : d.report ≠ .ok .null ↔ d.status ≠ .pending
  valid : d.status = .validated ↔ d.report.value.get? "valid" = some (.bool true)

def withVerdict (v : Verdict) (now : Instant) (d : Dataset) : Dataset :=
  { d with
    report := .ok v.report.toJson
    status := if v.report.valid then .validated else .invalid
    hash := v.hash <|> d.hash
    updatedAt := .instant now }

theorem Unjudged.judged {d : Dataset} (h : d.Unjudged) : d.Judged where
  hash := by
    rw [h.hash, h.status]
    simp
  report := by
    rw [h.report, h.status]
    simp
  valid := by
    rw [h.report, h.status]
    simp [JsonColumn.value, Except.toOption, Json.get?]

theorem Judged.hash_eq_none {d : Dataset} (h : d.Judged) (hpending : d.status = .pending) : d.hash = none := by
  cases hsome : d.hash with
  | none => rfl
  | some hash =>
      have hvalidated := h.hash.mp (by rw [hsome]; rfl)
      rw [hpending] at hvalidated
      cases hvalidated

end Dataset

theorem QualityReport.get?_valid_toJson (r : QualityReport) : r.toJson.get? "valid" = some (.bool r.valid) := by
  rw [toJson, Json.get?_ofFields]
  simp

/-- A verdict holds a hash exactly where its report is valid. -/
theorem Settings.judge_eq_ok {settings : Settings} {d : Dataset} {now : Instant} {v : Verdict}
    (h : settings.judge d now = .ok v) : v.hash.isSome = v.report.valid := by
  rw [judge] at h
  split at h
  · cases h
  · dsimp only at h
    split at h
    · rename_i hvalid
      rw [bind_eq_ok] at h
      obtain ⟨hash, _, h⟩ := h
      rw [pure_eq_ok] at h
      rw [← h]
      exact hvalid.symm
    · rename_i hvalid
      rw [pure_eq_ok] at h
      rw [← h]
      exact (Bool.eq_false_iff.mpr hvalid).symm

theorem Dataset.judged_withVerdict {d : Dataset} {v : Verdict} (hverdict : v.hash.isSome = v.report.valid)
    (hhash : d.hash = none) (now : Instant) : (d.withVerdict v now).Judged where
  hash := by
    simp only [withVerdict, hhash, Option.orElse_eq_orElse, Option.orElse_eq_or, Option.or_none, hverdict]
    cases v.report.valid <;> simp
  report := by
    simp only [withVerdict]
    cases v.report.valid <;> simp [QualityReport.toJson, Json.ofFields]
  valid := by
    have hread : (d.withVerdict v now).report.value.get? "valid" = some (.bool v.report.valid) :=
      v.report.get?_valid_toJson
    rw [hread]
    simp only [withVerdict]
    cases v.report.valid <;> simp

/-! ### What the calls change -/

structure Studio.SameJobs (k k' : Studio) : Prop where
  versions : k'.store.versions = k.store.versions
  jobs : k'.store.jobs = k.store.jobs
  versionCount : k'.issued.versions = k.issued.versions
  jobCount : k'.issued.jobs = k.issued.jobs

inductive Studio.Prepares (k k' : Studio) : Prop
  | models (hmodels : ∀ id m, k.store.model? id = some m → k'.store.model? id = some m)
      (hdatasets : k'.store.datasets = k.store.datasets) (hcount : k.issued.datasets ≤ k'.issued.datasets)
  | dataset (d : Dataset) (hid : d.id = rowId "dataset" (k.issued.datasets + 1)) (hunjudged : d.Unjudged)
      (howner : ∃ m, k.store.model? d.modelId = some m ∧ m.userId = d.userId)
      (hmodels : k'.store.models = k.store.models) (hdatasets : k'.store.datasets = k.store.datasets ++ [d])
      (hcount : k'.issued.datasets = k.issued.datasets + 1)
  | verdict (loaded : Dataset) (v : Verdict) (now : Instant)
      (hloaded : k.store.dataset? loaded.id = some loaded) (hpending : loaded.status = .pending)
      (hverdict : v.hash.isSome = v.report.valid) (hmodels : k'.store.models = k.store.models)
      (hdatasets : k'.store.datasets
        = Store.updateWhere (·.id == loaded.id) (Dataset.withVerdict v now) k.store.datasets)
      (hcount : k'.issued.datasets = k.issued.datasets)

/-- What a call does. It stores nothing, whether it succeeds or fails, or it stores what it is for. -/
inductive Studio.Performs (k k' : Studio) : PlainCall → Prop
  | nothing {call : PlainCall} (models datasets : Nat) (hcount : k.issued.datasets ≤ datasets)
      (hstore : k'.store = k.store) (hissued : k'.issued = { k.issued with models, datasets }) : k.Performs k' call
  | createModel {userId name : Text} {description : Option Text} {consent : Bool} (m : LoraModel)
      (huser : m.userId = userId) (hstore : k'.store = { k.store with models := k.store.models ++ [m] })
      (hissued : k'.issued = { k.issued with models := k.issued.models + 1 }) :
      k.Performs k' (.createModel userId name description consent)
  | initDataset {userId modelId : Text} {imageCount : Int} (d : Dataset)
      (hid : d.id = rowId "dataset" (k.issued.datasets + 1)) (hunjudged : d.Unjudged) (huser : d.userId = userId)
      (m : LoraModel) (howned : k.store.ownedModel d.modelId userId = .ok m)
      (hstore : k'.store = { k.store with datasets := k.store.datasets ++ [d] })
      (hissued : k'.issued = { k.issued with datasets := k.issued.datasets + 1 }) :
      k.Performs k' (.initDataset userId modelId imageCount)
  | validateDataset {id userId : Text} (loaded : Dataset) (v : Verdict) (now : Instant)
      (hloaded : k.store.dataset? loaded.id = some loaded) (huser : loaded.userId = userId)
      (hpending : loaded.status = .pending) (hverdict : v.hash.isSome = v.report.valid)
      (hstore : k'.store = { k.store with
        datasets := Store.updateWhere (·.id == loaded.id) (Dataset.withVerdict v now) k.store.datasets })
      (hissued : k'.issued = k.issued) : k.Performs k' (.validateDataset id userId)
  | activate {userId versionId : Text} {weight : Binary64} (bindings : List Binding)
      (hstore : k'.store = { k.store with bindings }) (hissued : k'.issued = k.issued) :
      k.Performs k' (.activate userId versionId weight)
  | deactivate {userId : Text}
      (hstore : k'.store = { k.store with bindings := k.store.bindings.filter (·.userId != userId) })
      (hissued : k'.issued = k.issued) : k.Performs k' (.deactivate userId)

namespace Store

variable {s s' : Store}

theorem changeBinding_eq_ok {loaded : Binding} {versionId : Text} {weight : Binary64} {now : Instant}
    (h : s.changeBinding loaded versionId weight now = .ok s') : ∃ bindings, s' = { s with bindings } := by
  rw [changeBinding] at h
  split at h
  · cases h
    exact ⟨s.bindings, rfl⟩
  · split at h
    · cases h
    · cases h
      exact ⟨_, rfl⟩

theorem writeBinding_eq_ok {loaded : Option Binding} {userId versionId : Text} {weight : Binary64} {now : Instant}
    (h : s.writeBinding loaded userId versionId weight now = .ok s') : ∃ bindings, s' = { s with bindings } := by
  rw [writeBinding.eq_def] at h
  cases loaded with
  | some binding => exact changeBinding_eq_ok h
  | none =>
      dsimp only at h
      split at h
      · rename_i inserted hinsert
        rw [insertBinding?] at hinsert
        split at hinsert
        · cases hinsert
        · cases hinsert
          cases h
          exact ⟨_, rfl⟩
      · split at h
        · exact changeBinding_eq_ok h
        · cases h

end Store

namespace Studio

variable (k : Studio) (c : Context)

theorem Performs.refl (call : PlainCall) : k.Performs k call :=
  .nothing k.issued.models k.issued.datasets (Nat.le_refl _) rfl rfl

theorem performs_createModel (userId name : Text) (description : Option Text) (consent : Bool) :
    k.Performs (k.createModel c userId name description consent).2 (.createModel userId name description consent) := by
  rw [createModel]
  dsimp only
  split
  · exact .refl k _
  · split
    · exact .nothing (k.issued.models + 1) k.issued.datasets (Nat.le_refl _) rfl rfl
    · rename_i store hinsert
      rw [Store.insertModel, bind_eq_ok] at hinsert
      obtain ⟨_, _, hstore⟩ := hinsert
      rw [pure_eq_ok] at hstore
      exact .createModel _ rfl hstore.symm rfl

theorem performs_initDataset (userId modelId : Text) (imageCount : Int) :
    k.Performs (k.initDataset c userId modelId imageCount).2 (.initDataset userId modelId imageCount) := by
  rw [initDataset]
  split
  · exact .refl k _
  · rename_i model howned
    split
    · exact .refl k _
    · -- From here on the number of the dataset is given out, also where the dataset does not come to be.
      dsimp only
      split
      · exact .nothing k.issued.models (k.issued.datasets + 1) (Nat.le_succ _) rfl rfl
      · split
        · exact .nothing k.issued.models (k.issued.datasets + 1) (Nat.le_succ _) rfl rfl
        · exact .initDataset _ rfl ⟨rfl, rfl, rfl⟩ rfl model howned rfl rfl

theorem performs_validateDataset (id userId : Text) :
    k.Performs (k.validateDataset c id userId).2 (.validateDataset id userId) := by
  rw [validateDataset]
  dsimp only
  split
  · exact .refl k _
  · rename_i loaded verdict hjudged
    rw [bind_eq_ok] at hjudged
    obtain ⟨found, hfound, hjudged⟩ := hjudged
    rw [bind_eq_ok] at hjudged
    obtain ⟨v, hv, hjudged⟩ := hjudged
    rw [pure_eq_ok, Prod.mk.injEq] at hjudged
    obtain ⟨rfl, rfl⟩ := hjudged
    obtain ⟨hloaded, huser, hpending⟩ := Store.loadForValidation_eq_ok_iff.mp hfound
    have hloaded := Store.dataset_eq_ok hloaded
    have hid : found.id = id := by simpa using List.find?_some hloaded
    have hverdict := Settings.judge_eq_ok (liftFault_eq_ok.mp hv)
    exact .validateDataset found v c.now (hid.symm ▸ hloaded) huser hpending hverdict rfl rfl

theorem performs_activate (userId versionId : Text) (weight : Binary64) :
    k.Performs (k.activate c userId versionId weight).2 (.activate userId versionId weight) := by
  rw [activate]
  split
  · exact .refl k _
  · rw [finishActivation]
    split
    · exact .refl k _
    · rename_i store hwrite
      obtain ⟨bindings, rfl⟩ := Store.writeBinding_eq_ok hwrite
      split
      · exact .activate bindings rfl rfl
      · exact .activate bindings rfl rfl

theorem performs_deactivate (userId : Text) : k.Performs (k.deactivate userId).2 (.deactivate userId) := by
  rw [deactivate]
  split
  · exact .refl k _
  · exact .deactivate rfl rfl

theorem performs_plain (call : PlainCall) : k.Performs (k.performPlain c call) call := by
  cases call with
  | createModel userId name description consent => exact k.performs_createModel c userId name description consent
  | initDataset userId modelId imageCount => exact k.performs_initDataset c userId modelId imageCount
  | validateDataset id userId => exact k.performs_validateDataset c id userId
  | activate userId versionId weight => exact k.performs_activate c userId versionId weight
  | deactivate userId => exact k.performs_deactivate userId

end Studio

/-! ### What the calls leave -/

namespace Studio

variable {k k' : Studio} {call : PlainCall}

/-- A call writes to models, datasets and bindings, and gives out numbers of models and datasets; that is all. -/
theorem Performs.exists_store_issued (h : k.Performs k' call) :
    (∃ models datasets bindings, k'.store = { k.store with models, datasets, bindings }) ∧
      ∃ models datasets, k'.issued = { k.issued with models, datasets } := by
  cases h with
  | nothing _ _ _ hstore hissued => exact ⟨⟨_, _, _, hstore⟩, _, _, hissued⟩
  | createModel _ _ hstore hissued => exact ⟨⟨_, _, _, hstore⟩, _, _, hissued⟩
  | initDataset _ _ _ _ _ _ hstore hissued => exact ⟨⟨_, _, _, hstore⟩, _, _, hissued⟩
  | validateDataset _ _ _ _ _ _ _ hstore hissued => exact ⟨⟨_, _, _, hstore⟩, _, _, hissued⟩
  | activate _ hstore hissued => exact ⟨⟨_, _, _, hstore⟩, _, _, hissued⟩
  | deactivate hstore hissued => exact ⟨⟨_, _, _, hstore⟩, _, _, hissued⟩

theorem Performs.sameJobs (h : k.Performs k' call) : k.SameJobs k' := by
  obtain ⟨⟨_, _, _, hstore⟩, _, _, hissued⟩ := h.exists_store_issued
  exact ⟨by rw [hstore], by rw [hstore], by rw [hissued], by rw [hissued]⟩

theorem Performs.prepares (h : k.Performs k' call) : k.Prepares k' := by
  cases h with
  | nothing _ _ hcount hstore hissued =>
      exact .models (fun _ _ hmodel => hstore ▸ hmodel) (by rw [hstore]) (hissued ▸ hcount)
  | createModel m _ hstore hissued =>
      refine .models ?_ (by rw [hstore]) (hissued ▸ Nat.le_refl _)
      intro id found hmodel
      rw [hstore]
      exact Store.find?_append_of_eq_some hmodel
  | initDataset d hid hunjudged huser m howned hstore hissued =>
      obtain ⟨hmodel, howner⟩ := Store.ownedModel_eq_ok howned
      exact .dataset d hid hunjudged ⟨m, hmodel, howner.trans huser.symm⟩ (by rw [hstore]) (by rw [hstore])
        (by rw [hissued])
  | validateDataset loaded v now hloaded _ hpending hverdict hstore hissued =>
      exact .verdict loaded v now hloaded hpending hverdict (by rw [hstore]) (by rw [hstore]) (by rw [hissued])
  | activate _ hstore hissued =>
      exact .models (fun _ _ hmodel => hstore ▸ hmodel) (by rw [hstore]) (hissued ▸ Nat.le_refl _)
  | deactivate hstore hissued =>
      exact .models (fun _ _ hmodel => hstore ▸ hmodel) (by rw [hstore]) (hissued ▸ Nat.le_refl _)

end Studio

end PromptStudio
