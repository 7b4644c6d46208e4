import PromptStudio.Proofs.History.Gapless
import PromptStudio.Proofs.Training.Active

/-!
# Who owns a row

Models, datasets, bindings, prompts and blueprints name their user. Versions and jobs, snapshots and versions of
blueprints do not: they are owned through the row that they stand under. What a user owns of a store is a store again,
and a row of it is found there as it is found in the whole.
-/

namespace PromptStudio

inductive Reference where
  | model (id : Text)
  | dataset (id : Text)
  | version (id : Text)
  | prompt (id : Text)
  | blueprint (id : Text)

inductive Row where
  | model (m : LoraModel)
  | dataset (d : Dataset)
  | version (v : Version)
  | job (j : Job)
  | binding (b : Binding)
  | prompt (p : PromptRecord)
  | snapshot (v : PromptVersion)
  | blueprint (b : UserBlueprint)
  | blueprintVersion (v : BlueprintVersion)

/-- The user who owns the row of a reference, if it is stored. -/
def Store.owner? (s : Store) : Reference → Option Text
  | .model id => (s.model? id).map (·.userId)
  | .dataset id => (s.dataset? id).map (·.userId)
  | .version id => (s.version? id).bind fun v => (s.model? v.modelId).map (·.userId)
  | .prompt id => (s.prompt? id).bind (·.userId)
  | .blueprint id => (s.blueprint? id).map (·.userId)

namespace Row

def owner? (s : Store) : Row → Option Text
  | model m => some m.userId
  | dataset d => some d.userId
  | version v => s.owner? (.model v.modelId)
  | job j => s.owner? (.version j.versionId)
  | binding b => some b.userId
  | prompt p => p.userId
  | snapshot v => s.owner? (.prompt v.promptId)
  | blueprint b => some b.userId
  | blueprintVersion v => s.owner? (.blueprint v.blueprintId)

/-- The rows that a row refers to. A prompt that names the empty blueprint refers to none. -/
def references : Row → List Reference
  | model _ | blueprint _ => []
  | dataset d => [.model d.modelId]
  | version v => .model v.modelId :: v.datasetId.toList.map .dataset
  | job j => [.version j.versionId]
  | binding b => [.version b.versionId]
  | prompt p => (p.userBlueprintId.filter (!·.isEmpty)).toList.map .blueprint ++ p.versionId.toList.map .version
  | snapshot v => [.prompt v.promptId]
  | blueprintVersion v => [.blueprint v.blueprintId]

end Row

namespace Store

variable (s : Store) (userId : Text)

def Has : Row → Prop
  | .model m => m ∈ s.models
  | .dataset d => d ∈ s.datasets
  | .version v => v ∈ s.versions
  | .job j => j ∈ s.jobs
  | .binding b => b ∈ s.bindings
  | .prompt p => p ∈ s.prompts
  | .snapshot v => v ∈ s.promptVersions
  | .blueprint b => b ∈ s.blueprints
  | .blueprintVersion v => v ∈ s.blueprintVersions

def owns (r : Row) : Bool :=
  r.owner? s == some userId

def ownedBy : Store where
  models := s.models.filter fun m => s.owns userId (.model m)
  datasets := s.datasets.filter fun d => s.owns userId (.dataset d)
  versions := s.versions.filter fun v => s.owns userId (.version v)
  jobs := s.jobs.filter fun j => s.owns userId (.job j)
  bindings := s.bindings.filter fun b => s.owns userId (.binding b)
  prompts := s.prompts.filter fun p => s.owns userId (.prompt p)
  promptVersions := s.promptVersions.filter fun v => s.owns userId (.snapshot v)
  blueprints := s.blueprints.filter fun b => s.owns userId (.blueprint b)
  blueprintVersions := s.blueprintVersions.filter fun v => s.owns userId (.blueprintVersion v)

variable {s userId}

/-! ### Rows under their keys -/

theorem owns_iff {r : Row} : s.owns userId r = true ↔ r.owner? s = some userId :=
  beq_iff_eq

theorem find?_filter_of_eq_some {α : Type} {p q : α → Bool} {rows : List α} {row : α} (hfound : rows.find? p = some row)
    (hkept : q row = true) : (rows.filter q).find? p = some row := by
  induction rows with
  | nil => cases hfound
  | cons first rest ih =>
      by_cases hfirst : p first = true
      · rw [List.find?_cons_of_pos hfirst, Option.some.injEq] at hfound
        subst hfound
        rw [List.filter_cons_of_pos hkept]
        exact List.find?_cons_of_pos hfirst
      · rw [List.find?_cons_of_neg hfirst] at hfound
        rw [List.filter_cons]
        split
        · rw [List.find?_cons_of_neg hfirst]
          exact ih hfound
        · exact ih hfound

theorem filter_filter_of_imp {α : Type} {p q : α → Bool} {rows : List α}
    (himp : ∀ row ∈ rows, p row = true → q row = true) : (rows.filter q).filter p = rows.filter p := by
  rw [List.filter_filter]
  refine List.filter_congr ?_
  intro row hrow
  cases hp : p row with
  | false => rfl
  | true => exact himp row hrow hp

theorem model?_ownedBy {id : Text} {m : LoraModel} (h : s.model? id = some m) (howner : m.userId = userId) :
    (s.ownedBy userId).model? id = some m :=
  find?_filter_of_eq_some h (owns_iff.mpr (congrArg some howner))

theorem dataset?_ownedBy {id : Text} {d : Dataset} (h : s.dataset? id = some d) (howner : d.userId = userId) :
    (s.ownedBy userId).dataset? id = some d :=
  find?_filter_of_eq_some h (owns_iff.mpr (congrArg some howner))

theorem version?_ownedBy {id : Text} {v : Version} (h : s.version? id = some v)
    (howner : s.owner? (.model v.modelId) = some userId) : (s.ownedBy userId).version? id = some v :=
  find?_filter_of_eq_some h (owns_iff.mpr howner)

theorem job?_ownedBy {id : Text} {j : Job} (h : s.job? id = some j)
    (howner : s.owner? (.version j.versionId) = some userId) : (s.ownedBy userId).job? id = some j :=
  find?_filter_of_eq_some h (owns_iff.mpr howner)

theorem prompt?_ownedBy {id : Text} {p : PromptRecord} (h : s.prompt? id = some p) (howner : p.userId = some userId) :
    (s.ownedBy userId).prompt? id = some p :=
  find?_filter_of_eq_some h (owns_iff.mpr howner)

theorem blueprint?_ownedBy {id : Text} {b : UserBlueprint} (h : s.blueprint? id = some b) (howner : b.userId = userId) :
    (s.ownedBy userId).blueprint? id = some b :=
  find?_filter_of_eq_some h (owns_iff.mpr (congrArg some howner))

theorem binding?_ownedBy (s : Store) (userId : Text) : (s.ownedBy userId).binding? userId = s.binding? userId := by
  cases hfound : s.binding? userId with
  | some b =>
      have hid : b.userId = userId := by simpa using List.find?_some hfound
      exact find?_filter_of_eq_some hfound (owns_iff.mpr (congrArg some hid))
  | none =>
      rw [binding?, List.find?_eq_none] at hfound ⊢
      intro b hb
      exact hfound b (List.mem_of_mem_filter hb)

/-! ### Rows under a parent -/

theorem owner?_model_eq_some {id : Text} :
    s.owner? (.model id) = some userId ↔ ∃ m, s.model? id = some m ∧ m.userId = userId := by
  rw [owner?, Option.map_eq_some_iff]

theorem owner?_version_eq_some {id : Text} :
    s.owner? (.version id) = some userId ↔
      ∃ v, s.version? id = some v ∧ s.owner? (.model v.modelId) = some userId := by
  rw [owner?, Option.bind_eq_some_iff]
  rfl

theorem owner?_prompt_eq_some {id : Text} :
    s.owner? (.prompt id) = some userId ↔ ∃ p, s.prompt? id = some p ∧ p.userId = some userId := by
  rw [owner?, Option.bind_eq_some_iff]

theorem owner?_blueprint_eq_some {id : Text} :
    s.owner? (.blueprint id) = some userId ↔ ∃ b, s.blueprint? id = some b ∧ b.userId = userId := by
  rw [owner?, Option.map_eq_some_iff]

theorem snapshotsOf_ownedBy {id : Text} (howner : s.owner? (.prompt id) = some userId) :
    (s.ownedBy userId).snapshotsOf id = s.snapshotsOf id := by
  refine filter_filter_of_imp ?_
  intro v _ hid
  exact owns_iff.mpr ((congrArg (s.owner? ∘ .prompt) (beq_iff_eq.mp hid)).trans howner)

theorem blueprintVersionsOf_ownedBy {id : Text} (howner : s.owner? (.blueprint id) = some userId) :
    (s.ownedBy userId).blueprintVersionsOf id = s.blueprintVersionsOf id := by
  refine filter_filter_of_imp ?_
  intro v _ hid
  exact owns_iff.mpr ((congrArg (s.owner? ∘ .blueprint) (beq_iff_eq.mp hid)).trans howner)

theorem versions_ownedBy {id : Text} (howner : s.owner? (.model id) = some userId) :
    (s.ownedBy userId).versions.filter (·.modelId == id) = s.versions.filter (·.modelId == id) := by
  refine filter_filter_of_imp ?_
  intro v _ hid
  exact owns_iff.mpr ((congrArg (s.owner? ∘ .model) (beq_iff_eq.mp hid)).trans howner)

end Store

/-- Every row that stands under another one has an owner. -/
structure Store.Rooted (s : Store) : Prop where
  versions : ∀ v ∈ s.versions, ∃ userId, s.owner? (.model v.modelId) = some userId
  jobs : ∀ j ∈ s.jobs, ∃ userId, s.owner? (.version j.versionId) = some userId
  snapshots : ∀ v ∈ s.promptVersions, ∃ userId, s.owner? (.prompt v.promptId) = some userId
  blueprintVersions : ∀ v ∈ s.blueprintVersions, ∃ userId, s.owner? (.blueprint v.blueprintId) = some userId

/-! ### Stores that came about -/

/-- What the modules on the tables prove of every studio that a run leaves. -/
structure Studio.Sound (k : Studio) : Prop where
  datasets : k.DatasetsSound
  jobs : k.JobsSound
  trained : ∀ id v, k.store.version? id = some v → k.store.Trains v
  history : k.HistorySound
  bindings : k.store.BindingsSound

theorem Activity.sound_run (happenings : List Happening) : (start.run happenings).studio.Sound where
  datasets := (kept_run happenings).sound.datasets
  jobs := (kept_run happenings).sound.jobs
  trained := (kept_run happenings).sound.trained
  history := (historySound_run happenings).studio
  bindings := bindingsSound_run happenings

namespace Studio.Sound

variable {k : Studio} (h : k.Sound) {userId : Text}

include h

theorem owner?_of_dataset {d : Dataset} (hd : d ∈ k.store.datasets) :
    k.store.owner? (.model d.modelId) = some d.userId :=
  Store.owner?_model_eq_some.mpr (h.datasets.owned d hd)

theorem exists_dataset_of_version {id : Text} {v : Version} (hv : k.store.version? id = some v) :
    ∃ d, v.datasetId = some d.id ∧ k.store.dataset? d.id = some d ∧ k.store.owner? (.model v.modelId) = some d.userId := by
  obtain ⟨datasetId, d, hdataset, hfound, hmodel, -, -⟩ := h.trained id v hv
  have hid : d.id = datasetId := by simpa using List.find?_some hfound
  refine ⟨d, by rw [hid]; exact hdataset, by rw [hid]; exact hfound, ?_⟩
  rw [← hmodel]
  exact h.owner?_of_dataset (List.mem_of_find?_eq_some hfound)

theorem rooted : k.store.Rooted where
  versions := by
    intro v hv
    have hfound : k.store.version? v.id = some v :=
      (Store.find?_eq_some_iff_mem h.jobs.versionIds.distinct).mpr ⟨hv, rfl⟩
    obtain ⟨d, -, -, howner⟩ := h.exists_dataset_of_version hfound
    exact ⟨d.userId, howner⟩
  jobs := by
    intro j hj
    have hjob : k.store.job? j.id = some j := (Store.find?_eq_some_iff_mem h.jobs.jobIds.distinct).mpr ⟨hj, rfl⟩
    obtain ⟨v, hv⟩ := h.jobs.exists_version hjob
    obtain ⟨d, -, -, howner⟩ := h.exists_dataset_of_version hv
    exact ⟨d.userId, Store.owner?_version_eq_some.mpr ⟨v, hv, howner⟩⟩
  snapshots := by
    intro v hv
    obtain ⟨p, hp⟩ := Option.isSome_iff_exists.mp (h.history.prompts.parents v hv)
    obtain ⟨userId, huser⟩ := (h.history.prompts.whole p (List.mem_of_find?_eq_some hp)).owned
    exact ⟨userId, Store.owner?_prompt_eq_some.mpr ⟨p, hp, huser⟩⟩
  blueprintVersions := by
    intro v hv
    obtain ⟨b, hb⟩ := Option.isSome_iff_exists.mp (h.history.blueprints.parents v hv)
    exact ⟨b.userId, Store.owner?_blueprint_eq_some.mpr ⟨b, hb, rfl⟩⟩

theorem datasets_ownedBy {id : Text} (howner : k.store.owner? (.model id) = some userId) :
    (k.store.ownedBy userId).datasets.filter (·.modelId == id) = k.store.datasets.filter (·.modelId == id) := by
  refine Store.filter_filter_of_imp ?_
  intro d hd hid
  rw [Store.owns_iff]
  change some d.userId = some userId
  rw [← h.owner?_of_dataset hd, beq_iff_eq.mp hid, howner]

end Studio.Sound

end PromptStudio
