import PromptStudio.Proofs.Training.Binding

/-!
# Following active versions

Bindings stay sound at every moment of a run of all happenings: calls on them keep what they check, and every other step
leaves the table alone, and keeps trained versions and models as they are. So the active adapter of a user is found
without the checks that an activation makes, and is the one that naming the bound version gives.
-/

namespace PromptStudio

/-! ### What a step leaves of trained versions -/

theorem Studio.Prepares.model? {k k' : Studio} (h : k.Prepares k') {id : Text} {m : LoraModel}
    (hfound : k.store.model? id = some m) : k'.store.model? id = some m := by
  cases h with
  | models hmodels _ _ => exact hmodels id m hfound
  | dataset _ _ _ _ hmodels _ _ => rwa [Store.model?, hmodels]
  | verdict _ _ _ _ _ _ hmodels _ _ => rwa [Store.model?, hmodels]

namespace Traffic

variable {σ : Traffic} {k : Studio} {reports : List Reporting}

theorem Moves.version?_of_artifact (hmove : σ.Moves k reports) {id : Text} {v : Version}
    (hfound : σ.studio.store.version? id = some v) (hartifact : v.artifactUrl.isSome = true) :
    k.store.version? id = some v := by
  cases hmove with
  | still hstore _ _ => rwa [hstore]
  | plain c call => rwa [Store.version?, (σ.studio.performs_plain c call).sameJobs.versions]
  | insert _ c => exact Store.find?_append_of_eq_some hfound
  | write u jobId now =>
      change (u.apply jobId now σ.studio.store).version? id = some v
      rwa [Store.version?, JobUpdate.apply_versions]
  | @report _ w job _ _ times =>
      change (σ.studio.store.afterReport job w times).version? id = some v
      rw [Store.version?, Store.versions_afterReport]
      cases w.artifact? with
      | none => exact hfound
      | some url =>
          dsimp only
          have hopen : ¬ (v.id == job.versionId && v.artifactUrl.isNone) = true := by
            rw [Option.isNone_eq_false_iff.mpr hartifact, Bool.and_false]
            exact Bool.false_ne_true
          rw [Store.find?_updateWhere Version.id _ (Version.withArtifact w url) (fun _ => rfl)]
          change (σ.studio.store.version? id).map _ = _
          rw [hfound, Option.map_some, if_neg hopen]

end Traffic

/-! ### What a step leaves of bindings -/

theorem Store.bound_congr {s s' : Store} (h : s'.bindings = s.bindings) : s'.bound = s.bound := by
  funext userId
  rw [bound, bound, binding?, binding?, h]

def PlainCall.isOnBindings : PlainCall → Bool
  | .activate .. | .deactivate _ => true
  | _ => false

namespace Studio

variable {k k' : Studio} {call : PlainCall}

theorem Performs.bindings (h : k.Performs k' call) (hcall : call.isOnBindings = false) :
    k'.store.bindings = k.store.bindings := by
  cases h with
  | nothing _ _ _ hstore _ => rw [hstore]
  | createModel _ _ hstore _ => rw [hstore]
  | initDataset _ _ _ _ _ _ hstore _ => rw [hstore]
  | validateDataset _ _ _ _ _ _ _ hstore _ => rw [hstore]
  | activate _ _ _ => cases hcall
  | deactivate _ _ => cases hcall

theorem Performs.models (h : k.Performs k' call) (hcall : call.isOnBindings = true) :
    k'.store.models = k.store.models := by
  cases h with
  | nothing _ _ _ hstore _ => rw [hstore]
  | activate _ hstore _ => rw [hstore]
  | deactivate hstore _ => rw [hstore]
  | createModel _ _ _ _ => cases hcall
  | initDataset _ _ _ _ _ _ _ _ => cases hcall
  | validateDataset _ _ _ _ _ _ _ _ _ => cases hcall

/-- Every call makes of the map what it is meant to, and keeps bindings sound. -/
theorem bound_performPlain (h : k.store.BindingsSound) (c : Context) (call : PlainCall) :
    (k.performPlain c call).store.bound = call.rebind k.store k.store.bound ∧
      (k.performPlain c call).store.BindingsSound := by
  have hperforms := k.performs_plain c call
  have hother (hcall : call.isOnBindings = false) :
      (k.performPlain c call).store.bound = k.store.bound ∧ (k.performPlain c call).store.BindingsSound := by
    have hbindings := hperforms.bindings hcall
    refine ⟨Store.bound_congr hbindings, h.mono hbindings ?_ fun _ _ => hperforms.prepares.model?⟩
    intro id v hfound _
    rwa [Store.version?, hperforms.sameJobs.versions]
  cases call with
  | createModel userId name description consent => exact hother rfl
  | initDataset userId modelId imageCount => exact hother rfl
  | validateDataset id userId => exact hother rfl
  | deactivate userId => exact ⟨(store_deactivate h userId).1, (store_deactivate h userId).2.1⟩
  | activate userId versionId weight =>
      cases hactivates : k.store.activates userId versionId weight with
      | true =>
          obtain ⟨b, bindings, hends, -, -, -, hrebinds, hsound⟩ := activate_of_activates h c hactivates
          rw [performPlain, hends, PlainCall.rebind, if_pos hactivates]
          exact ⟨hrebinds.bound, hsound⟩
      | false =>
          obtain ⟨failure, hends⟩ := activate_of_not_activates h c hactivates
          rw [performPlain, hends, PlainCall.rebind, hactivates, if_neg Bool.false_ne_true]
          exact ⟨rfl, h⟩

end Studio

/-- What an event makes of the map from users to versions with weights. -/
def Event.rebind (s : Store) (bound : Text → Option (Text × Binary64)) : Event → Text → Option (Text × Binary64)
  | .plain _ call => call.rebind s bound
  | _ => bound

def Happening.rebind (s : Store) (bound : Text → Option (Text × Binary64)) :
    Happening → Text → Option (Text × Binary64)
  | .training e => e.rebind s bound
  | _ => bound

theorem Traffic.bound_step {σ : Traffic} (h : σ.studio.store.BindingsSound) (e : Event) :
    (σ.step e).studio.store.bound = e.rebind σ.studio.store σ.studio.store.bound ∧
      (σ.step e).studio.store.BindingsSound := by
  have hmove := σ.moves_step e
  have hother (hcall : ∀ c call, e ≠ .plain c call) :
      (σ.step e).studio.store.bound = σ.studio.store.bound ∧ (σ.step e).studio.store.BindingsSound := by
    obtain ⟨versions, jobs, hstore⟩ := σ.exists_store_step hcall
    have hbindings : (σ.step e).studio.store.bindings = σ.studio.store.bindings := by rw [hstore]
    refine ⟨Store.bound_congr hbindings, h.mono hbindings ?_ fun _ _ => hmove.prepares.model?⟩
    exact fun _ _ => hmove.version?_of_artifact
  cases e with
  | plain c call => exact Studio.bound_performPlain h c call
  | _ => exact hother fun _ _ h => nomatch h

namespace Activity

variable {σ : Activity}

/-- Every happening makes of the map what it is meant to, and keeps bindings sound. -/
theorem bound_step (h : σ.studio.store.BindingsSound) (e : Happening) :
    (σ.step e).studio.store.bound = e.rebind σ.studio.store σ.studio.store.bound ∧
      (σ.step e).studio.store.BindingsSound := by
  rcases σ.step_cases e with ⟨event, rfl⟩ | ⟨hwrites, -⟩
  · exact Traffic.bound_step h event
  · have hsame := hwrites.sameTraining
    have hquiet : (σ.step e).studio.store.bound = σ.studio.store.bound ∧ (σ.step e).studio.store.BindingsSound := by
      refine ⟨Store.bound_congr hsame.bindings, h.mono hsame.bindings ?_ fun _ _ => hsame.prepares.model?⟩
      intro id v hfound _
      rwa [Store.version?, hsame.versions]
    cases e with
    | training event => exact Traffic.bound_step h event
    | _ => exact hquiet

theorem bindingsSound_run (happenings : List Happening) : (start.run happenings).studio.store.BindingsSound :=
  run_induction (P := fun σ => σ.studio.store.BindingsSound) (σ := start) (fun _ e h => (bound_step h e).2) .empty
    happenings

end Activity

/-! ### Calls on bindings in a row -/

namespace Studio

variable {k : Studio}

theorem rebind_congr {s s' : Store} (hmodels : s'.models = s.models) (hversions : s'.versions = s.versions)
    (call : PlainCall) (bound : Text → Option (Text × Binary64)) : call.rebind s' bound = call.rebind s bound := by
  have hsame : s'.activates = s.activates := by
    funext userId versionId weight
    simp only [Store.activates, Store.trainedVersion, Store.loadVersion?, Store.loadModel?, Store.version?, Store.model?,
      hmodels, hversions]
  cases call <;> simp only [PlainCall.rebind, hsame]

theorem bound_calls (h : k.store.BindingsSound) (calls : List (Context × PlainCall))
    (hcalls : ∀ call ∈ calls, call.2.isOnBindings = true) :
    (calls.foldl (fun k call => k.performPlain call.1 call.2) k).store.bound
      = calls.foldl (fun bound call => call.2.rebind k.store bound) k.store.bound := by
  suffices hfold : ∀ s : Store, k.store.models = s.models → k.store.versions = s.versions →
      (calls.foldl (fun k call => k.performPlain call.1 call.2) k).store.bound
        = calls.foldl (fun bound call => call.2.rebind s bound) k.store.bound by
    exact hfold k.store rfl rfl
  intro s hmodels hversions
  induction calls generalizing k with
  | nil => rfl
  | cons call rest ih =>
      obtain ⟨c, call⟩ := call
      obtain ⟨hbound, hsound⟩ := bound_performPlain h c call
      rw [List.foldl_cons, List.foldl_cons]
      rw [ih hsound (fun call hcall => hcalls call (List.mem_cons_of_mem _ hcall))
        (((k.performs_plain c call).models (hcalls _ List.mem_cons_self)).trans hmodels)
        ((k.performs_plain c call).sameJobs.versions.trans hversions)]
      rw [hbound, rebind_congr hmodels hversions]

end Studio

/-! ### The active adapter -/

namespace Store

variable {s : Store} {userId : Text} {b : Binding}

theorem activeVersion?_of_trainedVersion {v : Version} {m : LoraModel} (hbindable : userId.bindable = .ok userId)
    (hb : s.binding? userId = some b) (htrained : s.trainedVersion b.versionId userId = .ok (v, m)) :
    s.activeVersion? userId = .ok (some ⟨b, v, m⟩) := by
  obtain ⟨hversion, -, hmodel, -⟩ := trainedVersion_eq_ok_iff.mp htrained
  refine bind_eq_ok.mpr ⟨some b, bind_eq_ok.mpr ⟨userId, hbindable, congrArg Except.ok hb⟩, ?_⟩
  refine bind_eq_ok.mpr ⟨some v, hversion, ?_⟩
  exact bind_eq_ok.mpr ⟨some m, hmodel, rfl⟩

theorem BindingsSound.exists_artifact (h : s.BindingsSound) (hb : s.binding? userId = some b) :
    ∃ v url m, s.version? b.versionId = some v ∧ v.artifactUrl = some url ∧ url ≠ [] ∧
      s.model? v.modelId = some m ∧ m.userId = b.userId := by
  obtain ⟨-, -, ⟨v, m⟩, htrained⟩ := h.usable userId b hb
  obtain ⟨hversion, hartifact, hmodel, howner⟩ := trainedVersion_eq_ok_iff.mp htrained
  obtain ⟨url, hurl⟩ := Option.isSome_iff_exists.mp hartifact
  obtain ⟨haddress, hnonempty⟩ := Option.filter_eq_some_iff.mp hurl
  refine ⟨v, url, m, (loadVersion?_eq_some_iff.mp hversion).2.2, haddress, ?_, (loadModel?_eq_some_iff.mp hmodel).2.2,
    howner⟩
  rintro rfl
  cases hnonempty

/-- What is bound to a user is found as the active adapter, and by its version under any weight. -/
theorem BindingsSound.resolve (h : s.BindingsSound) (hb : s.binding? userId = some b)
    (himages : ∀ v, s.version? b.versionId = some v → v.artifactUrl.isSome = true → ∃ images, v.images = .ok images) :
    ∃ a : Adapter, a.versionId = b.versionId ∧ a.weight = .real b.weight ∧ s.resolveActive userId = .ok (some a) ∧
      ∀ weight, s.resolveAdapter userId b.versionId weight = .ok { a with weight } := by
  obtain ⟨hbindable, -, ⟨v, m⟩, htrained⟩ := h.usable userId b hb
  have hid : b.userId = userId := by simpa using List.find?_some hb
  rw [hid] at hbindable htrained
  obtain ⟨hversion, hartifact, -, -⟩ := trainedVersion_eq_ok_iff.mp htrained
  obtain ⟨-, -, hfound⟩ := loadVersion?_eq_some_iff.mp hversion
  obtain ⟨url, hurl⟩ := Option.isSome_iff_exists.mp hartifact
  obtain ⟨images, himages⟩ := himages v hfound (by rw [(Option.filter_eq_some_iff.mp hurl).1]; rfl)
  let adapter (weight : Quantity) : Adapter :=
    { versionId := v.id, modelName := m.name, triggerWord := Adapter.triggerWordFor (some m.name), weight,
      previewImages := images }
  have hadapter (weight : Quantity) : v.adapter m weight = .ok (adapter weight) := by
    rw [Version.adapter, himages]
    rfl
  have hactive := activeVersion?_of_trainedVersion hbindable hb htrained
  refine ⟨adapter (.real b.weight), id_of_version? hfound, rfl, ?_, ?_⟩
  · refine bind_eq_ok.mpr ⟨some ⟨b, v, m⟩, hactive, ?_⟩
    dsimp only
    rw [if_pos hartifact]
    exact bind_eq_ok.mpr ⟨_, hadapter _, rfl⟩
  · intro weight
    exact bind_eq_ok.mpr ⟨(v, m), htrained, liftFault_eq_ok.mpr (hadapter weight)⟩

end Store

theorem Traffic.Kept.exists_images {σ : Traffic} (h : σ.Kept) {id : Text} {v : Version}
    (hfound : σ.studio.store.version? id = some v) (hartifact : v.artifactUrl.isSome = true) :
    ∃ images, v.images = .ok images := by
  obtain ⟨_, w, _, _, _, _, _, _, _, _, _, _, _, _, _, himages⟩ := h.tracked.carries_of_artifact hfound hartifact
  rw [Version.images, himages]
  split
  · exact ⟨_, rfl⟩
  · exact ⟨_, rfl⟩

theorem Traffic.Kept.id_ne_nil_of_version? {σ : Traffic} (h : σ.Kept) {id : Text} {v : Version}
    (hfound : σ.studio.store.version? id = some v) : id ≠ [] := by
  rw [← Store.id_of_version? hfound]
  exact h.sound.jobs.versionIds.ne_nil (List.mem_map_of_mem (Store.mem_of_version? hfound))

namespace Studio

variable {k : Studio} {userId : Text} {b : Binding} {a : Adapter}

theorem compilePrompt_active (hne : b.versionId ≠ []) (hweight : a.weight = .real b.weight)
    (hactive : k.store.resolveActive userId = .ok (some a))
    (hnamed : ∀ weight, k.store.resolveAdapter userId b.versionId weight = .ok { a with weight }) (c : Context)
    (r : PromptRequest) (userBlueprintId : Option Text) (weight : Option Quantity) (useActive : Bool) :
    k.compilePrompt c userId r ⟨userBlueprintId, none, weight, true⟩
      = k.compilePrompt c userId r ⟨userBlueprintId, some b.versionId, some (weight.getD (.real b.weight)), useActive⟩ := by
  have hchosen : k.store.chosenAdapter c.settings userId ⟨userBlueprintId, none, weight, true⟩
      = .ok (some { a with weight := weight.getD (.real b.weight) }) := by
    refine bind_eq_ok.mpr ⟨some a, liftFault_eq_ok.mpr hactive, ?_⟩
    rw [← hweight]
    rfl
  have hgiven : k.store.chosenAdapter c.settings userId
      ⟨userBlueprintId, some b.versionId, some (weight.getD (.real b.weight)), useActive⟩
      = .ok (some { a with weight := weight.getD (.real b.weight) }) := by
    rw [Store.chosenAdapter, filter_isEmpty_of_ne_nil hne]
    exact bind_eq_ok.mpr ⟨_, hnamed _, rfl⟩
  have hprepared : k.prepareCompile c userId r ⟨userBlueprintId, none, weight, true⟩
      = k.prepareCompile c userId r
          ⟨userBlueprintId, some b.versionId, some (weight.getD (.real b.weight)), useActive⟩ := by
    rw [prepareCompile, prepareCompile, hchosen, hgiven]
    rfl
  rw [compilePrompt, compilePrompt, hprepared]
  rfl

end Studio

/-- At every moment of every run of all operations and reports: no user has two bindings, and a binding leads to a
trained version of a model of its user. Bindings are a finite map from users to versions with weights: an activation
that succeeds answers with the entry of its user that it wrote, one that fails changes nothing at all, a deactivation
takes the entry of its user away, and nothing else changes the map, be it over one happening or over many calls in a
row. The active adapter of a user with a binding is found, and is the one that the bound version gives under the bound
weight; so a prompt compiled with the active adapter is the prompt compiled with the bound version. -/
theorem active_bindings_can_be_followed (happenings : List Happening) :
    let σ := Activity.start.run happenings
    let s := σ.studio.store
    (s.bindings.map (·.userId)).Nodup ∧
    (∀ b ∈ s.bindings, ∃ v url m, s.version? b.versionId = some v ∧ v.artifactUrl = some url ∧ url ≠ [] ∧
      s.model? v.modelId = some m ∧ m.userId = b.userId) ∧
    (∀ c userId versionId weight,
      (s.activates userId versionId weight = true → ∃ b, (σ.studio.activate c userId versionId weight).1 = .ok b ∧
        b.userId = userId ∧ b.versionId = versionId ∧ b.weight = Store.storedWeight weight) ∧
      (s.activates userId versionId weight = false →
        ∃ failure, σ.studio.activate c userId versionId weight = (.error failure, σ.studio))) ∧
    (∀ calls : List (Context × PlainCall), (∀ call ∈ calls, call.2.isOnBindings = true) →
      (calls.foldl (fun k call => k.performPlain call.1 call.2) σ.studio).store.bound
        = calls.foldl (fun bound call => call.2.rebind s bound) s.bound) ∧
    (∀ e, (σ.step e).studio.store.bound = e.rebind s s.bound) ∧
    (∀ b ∈ s.bindings, ∃ a : Adapter, a.versionId = b.versionId ∧ s.resolveActive b.userId = .ok (some a) ∧
      s.resolveAdapter b.userId b.versionId (.real b.weight) = .ok a ∧
      ∀ c r userBlueprintId weight useActive,
        σ.studio.compilePrompt c b.userId r ⟨userBlueprintId, none, weight, true⟩
          = σ.studio.compilePrompt c b.userId r
              ⟨userBlueprintId, some b.versionId, some (weight.getD (.real b.weight)), useActive⟩) := by
  intro σ s
  have hsound : s.BindingsSound := Activity.bindingsSound_run happenings
  have hkept : σ.traffic.Kept := Activity.kept_run happenings
  have hfind {b : Binding} (hb : b ∈ s.bindings) : s.binding? b.userId = some b :=
    (Store.find?_eq_some_iff_mem hsound.users).mpr ⟨hb, rfl⟩
  refine ⟨hsound.users, ?_, ?_, ?_, ?_, ?_⟩
  · intro b hb
    exact hsound.exists_artifact (hfind hb)
  · intro c userId versionId weight
    constructor
    · intro hactivates
      obtain ⟨b, _, hends, huser, hversion, hweight, -⟩ := Studio.activate_of_activates hsound c hactivates
      exact ⟨b, congrArg Prod.fst hends, huser, hversion, hweight⟩
    · exact Studio.activate_of_not_activates hsound c
  · intro calls hcalls
    exact Studio.bound_calls hsound calls hcalls
  · intro e
    exact (Activity.bound_step hsound e).1
  · intro b hb
    obtain ⟨a, hversion, hweight, hactive, hnamed⟩ := hsound.resolve (hfind hb) fun v => hkept.exists_images
    have hne : b.versionId ≠ [] := by
      obtain ⟨v, -, -, hfound, -⟩ := hsound.exists_artifact (hfind hb)
      exact hkept.id_ne_nil_of_version? hfound
    refine ⟨a, hversion, hactive, ?_, ?_⟩
    · rw [hnamed, ← hweight]
    · intro c r userBlueprintId weight useActive
      exact Studio.compilePrompt_active hne hweight hactive hnamed c r userBlueprintId weight useActive

/-- The first version is activated once its artifact came. -/
def Activity.firstActivation : List Happening :=
  Traffic.firstJob.map .training ++ [.training (.plain .small (.activate "user" "version-1" (.ofInt 1)))]

/-- The first version is the active adapter of its user then, and nobody else has one. -/
theorem first_version_is_active :
    ∃ b a, (Activity.start.run Activity.firstActivation).studio.store.bindings = [b] ∧ b.userId = ("user" : Text) ∧
      (Activity.start.run Activity.firstActivation).studio.store.resolveActive "user" = .ok (some a) ∧
      a.versionId = ("version-1" : Text) := by
  obtain ⟨-, -, -, -, -, hfollowed⟩ := active_bindings_can_be_followed Activity.firstActivation
  have hbound : (Activity.start.run Activity.firstActivation).studio.store.bindings.map
      (fun b => (b.userId, b.versionId)) = [(("user" : Text), ("version-1" : Text))] := by decide +kernel
  obtain ⟨b, hb, hpair⟩ := List.map_eq_singleton_iff.mp hbound
  rw [Prod.mk.injEq] at hpair
  obtain ⟨a, hversion, hactive, -⟩ := hfollowed b (hb ▸ List.mem_singleton_self b)
  rw [hpair.1] at hactive
  exact ⟨b, a, hb, hpair.1, hactive, hversion.trans hpair.2⟩

end PromptStudio
