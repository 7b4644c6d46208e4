import PromptStudio.Proofs.Ownership.Basic

/-!
# What a user finds

An operation of a user lists rows of the user, or it looks a row up by its key and turns it away if it is another
user's. What it finds in a store it therefore finds in the part that the user owns alone.
-/

namespace PromptStudio

namespace Store

variable {s : Store} {id userId : Text}

/-- What is done with a key that has bytes is done with the key itself. -/
theorem bindable_bind_congr {α : Type} {f g : Text → Except Fault α} {t : Text} (h : f t = g t) :
    (t.bindable >>= f) = (t.bindable >>= g) := by
  cases ht : t.bindable with
  | error fault => rfl
  | ok u =>
      obtain rfl := bindable_eq_ok ht
      exact h

/-! ### Models, datasets, versions and jobs -/

theorem ownedModel_ownedBy {m : LoraModel} (h : s.ownedModel id userId = .ok m) :
    (s.ownedBy userId).ownedModel id userId = .ok m := by
  simp only [ownedModel_eq_ok_iff, loadModel?_eq_some_iff] at h ⊢
  obtain ⟨⟨hid, hload, hfound⟩, howner⟩ := h
  exact ⟨⟨hid, hload, model?_ownedBy hfound howner⟩, howner⟩

theorem owner?_of_ownedModel {m : LoraModel} (h : s.ownedModel id userId = .ok m) :
    s.owner? (.model id) = some userId :=
  owner?_model_eq_some.mpr ⟨m, ownedModel_eq_ok h⟩

theorem dataset_ownedBy {d : Dataset} (h : s.dataset id = .ok d) (howner : d.userId = userId) :
    (s.ownedBy userId).dataset id = .ok d := by
  rw [dataset_eq_ok_iff, loadDataset?_eq_some_iff] at h ⊢
  exact ⟨h.1, h.2.1, dataset?_ownedBy h.2.2 howner⟩

theorem loadForValidation_ownedBy {d : Dataset} (h : s.loadForValidation id userId = .ok d) :
    (s.ownedBy userId).loadForValidation id userId = .ok d := by
  rw [loadForValidation_eq_ok_iff] at h ⊢
  exact ⟨dataset_ownedBy h.1 h.2.1, h.2⟩

theorem datasetForJob_ownedBy {modelId hash : Text} {d : Dataset} (h : s.datasetForJob modelId id = .ok (d, hash))
    (howner : d.userId = userId) : (s.ownedBy userId).datasetForJob modelId id = .ok (d, hash) := by
  have hstored := (datasetForJob_eq_ok h).1
  rw [datasetForJob, bind_eq_ok] at h ⊢
  obtain ⟨found, hfound, h⟩ := h
  have hsame : found = d := Option.some.inj ((dataset_eq_ok hfound).symm.trans hstored)
  exact ⟨found, dataset_ownedBy hfound (hsame ▸ howner), h⟩

theorem loadVersion?_ownedBy {v : Version} (h : s.loadVersion? id = .ok (some v))
    (howner : s.owner? (.model v.modelId) = some userId) : (s.ownedBy userId).loadVersion? id = .ok (some v) := by
  rw [loadVersion?_eq_some_iff] at h ⊢
  exact ⟨h.1, h.2.1, version?_ownedBy h.2.2 howner⟩

theorem ownedJob_ownedBy {found : JobAnswer} (h : s.ownedJob id userId = .ok found) :
    (s.ownedBy userId).ownedJob id userId = .ok found := by
  simp only [ownedJob_eq_ok_iff, jobWithVersion_eq_ok_iff] at h ⊢
  obtain ⟨⟨hjob, hversion⟩, m, hm⟩ := h
  have howner := owner?_of_ownedModel hm
  refine ⟨⟨?_, loadVersion?_ownedBy hversion howner⟩, m, ownedModel_ownedBy hm⟩
  rw [loadJob?_eq_some_iff] at hjob ⊢
  refine ⟨hjob.1, hjob.2.1, job?_ownedBy hjob.2.2 ?_⟩
  exact owner?_version_eq_some.mpr ⟨found.version, (loadVersion?_eq_some_iff.mp hversion).2.2, howner⟩

theorem owner?_of_ownedJob {found : JobAnswer} (h : s.ownedJob id userId = .ok found) :
    s.job? id = some found.job ∧ s.version? found.job.versionId = some found.version ∧
      s.owner? (.model found.version.modelId) = some userId := by
  simp only [ownedJob_eq_ok_iff, jobWithVersion_eq_ok_iff] at h
  obtain ⟨⟨hjob, hversion⟩, m, hm⟩ := h
  exact ⟨loadJob?_eq_some hjob, (loadVersion?_eq_some_iff.mp hversion).2.2, owner?_of_ownedModel hm⟩

theorem modelsOf_ownedBy (s : Store) (userId : Text) : (s.ownedBy userId).modelsOf userId = s.modelsOf userId := by
  have hsame : (s.ownedBy userId).models.filter (·.userId == userId) = s.models.filter (·.userId == userId) := by
    refine filter_filter_of_imp ?_
    intro m _ hm
    exact owns_iff.mpr (congrArg some (beq_iff_eq.mp hm))
  exact bindable_bind_congr (by rw [hsame])

theorem versionsOf_ownedBy (howner : s.owner? (.model id) = some userId) :
    (s.ownedBy userId).versionsOf id = s.versionsOf id :=
  bindable_bind_congr (by rw [versions_ownedBy howner])

/-! ### Prompts and their snapshots -/

theorem prompt_ownedBy {p : PromptRecord} (h : s.prompt id (some userId) = .ok p) :
    (s.ownedBy userId).prompt id (some userId) = .ok p := by
  simp only [prompt_eq_ok_iff, loadPrompt?_eq_some_iff] at h ⊢
  obtain ⟨⟨hid, hload, hfound⟩, howner⟩ := h
  exact ⟨⟨hid, hload, prompt?_ownedBy hfound howner⟩, howner⟩

theorem owner?_of_prompt {p : PromptRecord} (h : s.prompt id (some userId) = .ok p) :
    s.owner? (.prompt id) = some userId :=
  owner?_prompt_eq_some.mpr ⟨p, prompt_eq_ok h⟩

theorem snapshots_ownedBy {versions : List PromptVersion} (h : s.snapshots id userId = .ok versions) :
    (s.ownedBy userId).snapshots id userId = .ok versions := by
  rw [snapshots, bind_eq_ok] at h ⊢
  obtain ⟨p, hp, h⟩ := h
  refine ⟨p, prompt_ownedBy hp, ?_⟩
  rw [snapshotsOf_ownedBy (owner?_of_prompt hp)]
  exact h

theorem promptsOf_ownedBy (s : Store) (userId : Text) : (s.ownedBy userId).promptsOf userId = s.promptsOf userId := by
  have hsame : (s.ownedBy userId).prompts.filter (·.userId == some userId)
      = s.prompts.filter (·.userId == some userId) :=
    filter_filter_of_imp fun _ _ hp => hp
  rw [promptsOf, promptsOf, hsame]

theorem history_ownedBy (s : Store) (userId : Text) (pageSize : Int) (limit : Option Int) :
    (s.ownedBy userId).history pageSize userId limit = s.history pageSize userId limit :=
  bindable_bind_congr (by rw [promptsOf_ownedBy])

/-! ### Blueprints and their versions -/

theorem ownedBlueprint_ownedBy {b : UserBlueprint} (h : s.ownedBlueprint id userId = .ok b) :
    (s.ownedBy userId).ownedBlueprint id userId = .ok b := by
  simp only [ownedBlueprint_eq_ok_iff, loadBlueprint?_eq_some_iff] at h ⊢
  obtain ⟨⟨hid, hload, hfound⟩, howner⟩ := h
  exact ⟨⟨hid, hload, blueprint?_ownedBy hfound howner⟩, howner⟩

theorem owner?_of_ownedBlueprint {b : UserBlueprint} (h : s.ownedBlueprint id userId = .ok b) :
    b.id = id ∧ s.owner? (.blueprint id) = some userId := by
  obtain ⟨-, hfound, howner⟩ := ownedBlueprint_eq_ok h
  exact ⟨id_of_blueprint? hfound, owner?_blueprint_eq_some.mpr ⟨b, hfound, howner⟩⟩

theorem latestBlueprintVersion_ownedBy (howner : s.owner? (.blueprint id) = some userId) :
    (s.ownedBy userId).latestBlueprintVersion id = s.latestBlueprintVersion id := by
  rw [latestBlueprintVersion, latestBlueprintVersion]
  cases hid : id.bindable with
  | error fault => rfl
  | ok t =>
      obtain rfl := bindable_eq_ok hid
      simp only [liftM, monadLift, MonadLift.monadLift, bind, Except.bind, Except.mapError,
        blueprintVersionsOf_ownedBy howner]

theorem blueprintWithLatest_ownedBy {found : BlueprintAnswer} (h : s.blueprintWithLatest id userId = .ok found) :
    (s.ownedBy userId).blueprintWithLatest id userId = .ok found := by
  rw [blueprintWithLatest_eq_ok_iff] at h ⊢
  rw [latestBlueprintVersion_ownedBy (owner?_of_ownedBlueprint h.1).2]
  exact ⟨ownedBlueprint_ownedBy h.1, h.2⟩

theorem blueprintsOf_ownedBy (s : Store) (userId : Text) (withInactive : Bool) :
    (s.ownedBy userId).blueprintsOf userId withInactive = s.blueprintsOf userId withInactive := by
  have hsame : (s.ownedBy userId).blueprints.filter
        (fun b => b.userId == userId && (withInactive || b.isActive == .int 1))
      = s.blueprints.filter fun b => b.userId == userId && (withInactive || b.isActive == .int 1) := by
    refine filter_filter_of_imp ?_
    intro b _ hb
    exact owns_iff.mpr (congrArg some (beq_iff_eq.mp (Bool.and_eq_true_iff.mp hb).1))
  exact bindable_bind_congr (by rw [hsame])

theorem chosenBlueprint_ownedBy {catalog : Catalog} {choice : CompileChoice} {r : PromptRequest}
    {chosen : Compiler × PromptRequest} (h : s.chosenBlueprint catalog userId choice r = .ok chosen) :
    (s.ownedBy userId).chosenBlueprint catalog userId choice r = .ok chosen := by
  rw [chosenBlueprint] at h ⊢
  cases hchoice : choice.userBlueprintId.filter (fun id => !id.isEmpty) with
  | none =>
      rw [hchoice] at h
      exact h
  | some id =>
      rw [hchoice] at h
      obtain ⟨b, hb, h⟩ := bind_eq_ok.mp h
      refine bind_eq_ok.mpr ⟨b, ?_, h⟩
      obtain ⟨found, hfound, hb⟩ := bind_eq_ok.mp hb
      exact bind_eq_ok.mpr ⟨found, blueprintWithLatest_ownedBy hfound, hb⟩

theorem owner?_of_chosenBlueprint {catalog : Catalog} {choice : CompileChoice} {r : PromptRequest}
    {chosen : Compiler × PromptRequest} (h : s.chosenBlueprint catalog userId choice r = .ok chosen)
    (hid : choice.userBlueprintId.filter (!·.isEmpty) = some id) : s.owner? (.blueprint id) = some userId := by
  rw [chosenBlueprint, hid] at h
  obtain ⟨b, hb, -⟩ := bind_eq_ok.mp h
  obtain ⟨found, hfound, -⟩ := bind_eq_ok.mp hb
  exact (owner?_of_ownedBlueprint (blueprintWithLatest_eq_ok_iff.mp hfound).1).2

/-! ### Trained versions and the active one -/

theorem owner?_of_trainedVersion {v : Version} {m : LoraModel} (h : s.trainedVersion id userId = .ok (v, m)) :
    s.version? id = some v ∧ s.owner? (.model v.modelId) = some userId := by
  obtain ⟨hversion, -, hmodel, howner⟩ := trainedVersion_eq_ok_iff.mp h
  refine ⟨(loadVersion?_eq_some_iff.mp hversion).2.2, ?_⟩
  exact owner?_model_eq_some.mpr ⟨m, loadModel?_eq_some hmodel, howner⟩

theorem owner?_version_of_trainedVersion {v : Version} {m : LoraModel} (h : s.trainedVersion id userId = .ok (v, m)) :
    s.owner? (.version v.id) = some userId := by
  obtain ⟨hversion, howner⟩ := owner?_of_trainedVersion h
  rw [id_of_version? hversion]
  exact owner?_version_eq_some.mpr ⟨v, hversion, howner⟩

theorem trainedVersion_ownedBy {v : Version} {m : LoraModel} (h : s.trainedVersion id userId = .ok (v, m)) :
    (s.ownedBy userId).trainedVersion id userId = .ok (v, m) := by
  have howner := (owner?_of_trainedVersion h).2
  rw [trainedVersion_eq_ok_iff, loadModel?_eq_some_iff] at h ⊢
  obtain ⟨hversion, hartifact, ⟨hid, hload, hmodel⟩, huser⟩ := h
  exact ⟨loadVersion?_ownedBy hversion howner, hartifact, ⟨hid, hload, model?_ownedBy hmodel huser⟩, huser⟩

theorem loadBinding?_ownedBy (s : Store) (userId : Text) :
    (s.ownedBy userId).loadBinding? userId = s.loadBinding? userId :=
  bindable_bind_congr (by rw [binding?_ownedBy])

theorem resolveAdapter_ownedBy {weight : Quantity} {a : Adapter} (h : s.resolveAdapter userId id weight = .ok a) :
    (s.ownedBy userId).resolveAdapter userId id weight = .ok a := by
  rw [resolveAdapter, bind_eq_ok] at h ⊢
  obtain ⟨found, hfound, h⟩ := h
  exact ⟨found, trainedVersion_ownedBy hfound, h⟩

/-- The active version of a user is a trained one of the user, since the binding was checked when it was written. -/
theorem trainedVersion_of_activeVersion? (h : s.BindingsSound) {active : ActiveVersion}
    (hactive : s.activeVersion? userId = .ok (some active)) :
    s.trainedVersion active.binding.versionId userId = .ok (active.version, active.model) := by
  obtain ⟨loaded, hloaded, hrest⟩ := bind_eq_ok.mp hactive
  obtain ⟨-, rfl⟩ := loadBinding?_eq_ok hloaded
  cases hb : s.binding? userId with
  | none =>
      rw [hb] at hrest
      cases pure_eq_ok.mp hrest
  | some b =>
      obtain ⟨hbindable, -, ⟨v, m⟩, htrained⟩ := h.usable userId b hb
      have hid : b.userId = userId := by simpa using List.find?_some hb
      rw [hid] at hbindable htrained
      rw [activeVersion?_of_trainedVersion hbindable hb htrained, Except.ok.injEq, Option.some.injEq] at hactive
      rw [← hactive]
      exact htrained

theorem activeVersion?_ownedBy (h : s.BindingsSound) (userId : Text) :
    (s.ownedBy userId).activeVersion? userId = s.activeVersion? userId := by
  cases hb : s.binding? userId with
  | none =>
      rw [activeVersion?, activeVersion?, loadBinding?_ownedBy]
      cases hloaded : s.loadBinding? userId with
      | error fault => rfl
      | ok loaded =>
          obtain ⟨-, rfl⟩ := loadBinding?_eq_ok hloaded
          rw [hb]
          rfl
  | some b =>
      obtain ⟨hbindable, -, ⟨v, m⟩, htrained⟩ := h.usable userId b hb
      have hid : b.userId = userId := by simpa using List.find?_some hb
      rw [hid] at hbindable htrained
      rw [activeVersion?_of_trainedVersion hbindable hb htrained]
      exact activeVersion?_of_trainedVersion hbindable ((binding?_ownedBy s userId).trans hb)
        (trainedVersion_ownedBy htrained)

theorem versionId_of_adapter {v : Version} {m : LoraModel} {weight : Quantity} {a : Adapter}
    (h : v.adapter m weight = .ok a) : a.versionId = v.id := by
  obtain ⟨_, _, rfl⟩ := map_eq_ok.mp h
  rfl

theorem owner?_of_resolveActive (h : s.BindingsSound) {a : Adapter} (hactive : s.resolveActive userId = .ok (some a)) :
    s.owner? (.version a.versionId) = some userId := by
  obtain ⟨found, hfound, hactive⟩ := bind_eq_ok.mp hactive
  cases found with
  | none => cases pure_eq_ok.mp hactive
  | some active =>
      dsimp only at hactive
      split at hactive
      · obtain ⟨adapter, hadapter, hsame⟩ := bind_eq_ok.mp hactive
        obtain rfl := Option.some.inj (pure_eq_ok.mp hsame)
        rw [versionId_of_adapter hadapter]
        exact owner?_version_of_trainedVersion (trainedVersion_of_activeVersion? h hfound)
      · cases pure_eq_ok.mp hactive

theorem owner?_of_chosenAdapter (h : s.BindingsSound) {settings : Settings} {choice : CompileChoice} {a : Adapter}
    (hchosen : s.chosenAdapter settings userId choice = .ok (some a)) :
    s.owner? (.version a.versionId) = some userId := by
  rw [chosenAdapter] at hchosen
  split at hchosen
  · obtain ⟨found, hfound, hchosen⟩ := bind_eq_ok.mp hchosen
    obtain rfl := Option.some.inj (pure_eq_ok.mp hchosen)
    obtain ⟨⟨v, m⟩, htrained, hadapter⟩ := bind_eq_ok.mp hfound
    rw [versionId_of_adapter (liftFault_eq_ok.mp hadapter)]
    exact owner?_version_of_trainedVersion htrained
  · split at hchosen
    · obtain ⟨found, hfound, hchosen⟩ := bind_eq_ok.mp hchosen
      obtain ⟨active, rfl, rfl⟩ := Option.map_eq_some_iff.mp (pure_eq_ok.mp hchosen)
      have howner := owner?_of_resolveActive h (liftFault_eq_ok.mp hfound)
      exact howner
    · cases pure_eq_ok.mp hchosen

theorem BindingsSound.ownedBy (h : s.BindingsSound) (userId : Text) : (s.ownedBy userId).BindingsSound where
  users := (List.filter_sublist.map _).nodup h.users
  usable := by
    intro other b hb
    have huser : b.userId = other := by simpa using List.find?_some hb
    have howns := owns_iff.mp (List.mem_filter.mp (List.mem_of_find?_eq_some hb)).2
    have hsame : other = userId := huser.symm.trans (Option.some.inj howns)
    subst hsame
    obtain ⟨hbindable, hstored, ⟨v, m⟩, htrained⟩ := h.usable other b ((binding?_ownedBy s other).symm.trans hb)
    refine ⟨hbindable, hstored, (v, m), ?_⟩
    rw [huser] at htrained ⊢
    exact trainedVersion_ownedBy htrained

theorem chosenAdapter_ownedBy (h : s.BindingsSound) {settings : Settings} {choice : CompileChoice} {a : Option Adapter}
    (hchosen : s.chosenAdapter settings userId choice = .ok a) :
    (s.ownedBy userId).chosenAdapter settings userId choice = .ok a := by
  rw [chosenAdapter] at hchosen ⊢
  cases hversion : choice.versionId.filter (fun id => !id.isEmpty) with
  | some id =>
      rw [hversion] at hchosen
      obtain ⟨found, hfound, hchosen⟩ := bind_eq_ok.mp hchosen
      exact bind_eq_ok.mpr ⟨found, resolveAdapter_ownedBy hfound, hchosen⟩
  | none =>
      rw [hversion] at hchosen
      rw [resolveActive, activeVersion?_ownedBy h]
      exact hchosen

end Store

namespace Studio.Sound

variable {k : Studio} (h : k.Sound) {userId : Text}

include h

theorem datasetsOf_ownedBy {id : Text} (howner : k.store.owner? (.model id) = some userId) :
    (k.store.ownedBy userId).datasetsOf id = k.store.datasetsOf id :=
  Store.bindable_bind_congr (by rw [h.datasets_ownedBy howner])

/-- A job of a user is sent again with a dataset of that user. -/
theorem jobForRetry_ownedBy {id : Text} {found : JobAnswer} {d : Dataset}
    (hfound : k.store.jobForRetry id userId = .ok (found, d)) :
    (k.store.ownedBy userId).jobForRetry id userId = .ok (found, d) := by
  rw [Store.jobForRetry_eq_ok_iff] at hfound ⊢
  obtain ⟨hjob, hpending, datasetId, hdatasetId, hd⟩ := hfound
  obtain ⟨-, hversion, howner⟩ := Store.owner?_of_ownedJob hjob
  obtain ⟨trained, htrained, hstored, hmodel⟩ := h.exists_dataset_of_version hversion
  have hid : datasetId = trained.id := Option.some.inj (hdatasetId.symm.trans htrained)
  have hsame : d = trained := Option.some.inj ((Store.dataset_eq_ok hd).symm.trans (hid ▸ hstored))
  have huser : d.userId = userId := by
    rw [hsame, ← Option.some.injEq, ← hmodel, howner]
  exact ⟨Store.ownedJob_ownedBy hjob, hpending, datasetId, hdatasetId, Store.dataset_ownedBy hd huser⟩

/-- A job is made from a dataset of the user whose model it trains. -/
theorem user_of_admitJob {c : Context} {modelId datasetId baseModel hash : Text} {d : Dataset}
    (hadmitted : k.admitJob c userId modelId datasetId baseModel = .ok (d, hash)) :
    k.store.owner? (.model modelId) = some userId ∧ k.store.dataset? datasetId = some d ∧ d.userId = userId := by
  obtain ⟨⟨m, hm⟩, hd, -⟩ := Studio.admitJob_eq_ok_iff.mp hadmitted
  have howner := Store.owner?_of_ownedModel hm
  obtain ⟨hfound, hmodel, -, -⟩ := Store.datasetForJob_eq_ok hd
  have hsame := h.owner?_of_dataset (List.mem_of_find?_eq_some hfound)
  rw [hmodel, howner] at hsame
  exact ⟨howner, hfound, (Option.some.inj hsame).symm⟩

end Studio.Sound

end PromptStudio
