import PromptStudio.Proofs.Ownership.Access
import PromptStudio.Proofs.Ownership.Touches

/-!
# What operations of a user touch

Every operation that a user asks for and that the worker has no part in touches rows of the user only, and what it
answers depends on the rows of the user only: on the part of the store that the user owns it gives the same answer.
-/

namespace PromptStudio

/-! ### Rows that are kept -/

namespace Store

/-- Where keys are distinct, the rows of a key are the one that is found. -/
theorem filter_eq_toList_find? {α β : Type} [BEq β] [LawfulBEq β] {key : α → β} {rows : List α}
    (h : (rows.map key).Nodup) (k : β) : rows.filter (key · == k) = (rows.find? (key · == k)).toList := by
  induction rows with
  | nil => rfl
  | cons row rest ih =>
      obtain ⟨hrow, hrest⟩ := List.nodup_cons.mp h
      by_cases hkey : key row = k
      · have hnone : rest.filter (key · == k) = [] := by
          rw [List.filter_eq_nil_iff]
          intro other hother hsame
          refine hrow ?_
          rw [hkey, ← beq_iff_eq.mp hsame]
          exact List.mem_map_of_mem hother
        rw [List.filter_cons, List.find?_cons, beq_iff_eq.mpr hkey, if_pos rfl, hnone]
        rfl
      · rw [List.filter_cons, List.find?_cons, beq_false_of_ne hkey, if_neg Bool.false_ne_true]
        exact ih hrest

theorem any_filter_eq_false {α : Type} {p q : α → Bool} {rows : List α} (h : rows.any p = false) :
    (rows.filter q).any p = false := by
  rw [List.any_eq_false] at h ⊢
  exact fun row hrow => h row (List.mem_of_mem_filter hrow)

theorem dataset?_writeVerdict (s : Store) (loaded : Dataset) (v : Verdict) (now : Instant) (id : Text) :
    (s.writeVerdict loaded v now).dataset? id
      = (s.dataset? id).map fun d => if d.id == loaded.id then d.withVerdict v now else d :=
  find?_updateWhere Dataset.id (·.id == loaded.id) (Dataset.withVerdict v now) (fun _ => rfl) s.datasets id

theorem insertSnapshot_eq_ok_iff {s s' : Store} {v : PromptVersion} :
    s.insertSnapshot v = .ok s' ↔
      (s.promptVersions.any fun other => other.promptId == v.promptId && other.number == v.number) = false ∧
        { s with promptVersions := s.promptVersions ++ [v] } = s' := by
  rw [insertSnapshot]
  refine throw_ite_eq_ok_iff.trans ?_
  rw [Bool.not_eq_true, Except.ok.injEq]

theorem insertBlueprintVersion_eq_ok_iff {s s' : Store} {v : BlueprintVersion} :
    s.insertBlueprintVersion v = .ok s' ↔
      (s.blueprintVersions.any fun other => other.blueprintId == v.blueprintId && other.number == v.number) = false ∧
        { s with blueprintVersions := s.blueprintVersions ++ [v] } = s' := by
  rw [insertBlueprintVersion]
  refine throw_ite_eq_ok_iff.trans ?_
  rw [Bool.not_eq_true, Except.ok.injEq]

theorem writeHead_congr {s t t' : Store} {loaded : UserBlueprint} {changes : BlueprintChanges} {now : Instant}
    (h : t.writeHead loaded changes now = .ok t') :
    s.writeHead loaded changes now = .ok (s.updateBlueprint loaded.id (loaded.rewritten changes now)) := by
  have hwritten : ∃ s', s.writeHead loaded changes now = .ok s' := by
    rw [writeHead] at h ⊢
    split
    · rename_i hdiffers
      rw [if_pos hdiffers] at h
      obtain ⟨_, hbytes, -⟩ := bind_eq_ok.mp h
      exact ⟨_, bind_eq_ok.mpr ⟨_, hbytes, rfl⟩⟩
    · exact ⟨_, rfl⟩
  obtain ⟨s', hs'⟩ := hwritten
  rw [hs', writeHead_eq_ok hs']

theorem blueprint?_rewritten {s : Store} {loaded : UserBlueprint} (hfound : s.blueprint? loaded.id = some loaded)
    (changes : BlueprintChanges) (now : Instant) :
    (s.updateBlueprint loaded.id (loaded.rewritten changes now)).blueprint? loaded.id
      = some (loaded.rewritten changes now loaded) := by
  rw [blueprint?_updateBlueprint, hfound, Option.map_some, if_pos (beq_self_eq_true loaded.id)]

end Store

def Studio.ownedBy (k : Studio) (userId : Text) : Studio :=
  k.withStore (k.store.ownedBy userId)

/-- An operation of a user that touches what is the user's only, and answers from that alone. -/
structure Studio.Confined {α : Type} (k : Studio) (userId : Text) (op : Studio → Result α) : Prop where
  touches : k.store.Touches userId (op k).2.store
  answers : ∀ a, (op k).1 = .ok a → (op (k.ownedBy userId)).1 = .ok a

namespace Studio

variable {k : Studio} (c : Context) (userId : Text)

/-! ### Models, datasets and the active version -/

theorem confined_createModel (name : Text) (description : Option Text) (consent : Bool) :
    k.Confined userId fun k => k.createModel c userId name description consent where
  touches := by
    cases k.performs_createModel c userId name description consent with
    | nothing _ _ _ hstore _ =>
        rw [hstore]
        exact .nothing
    | createModel m huser hstore _ =>
        rw [hstore]
        exact .model m huser
  answers := by
    intro m hm
    dsimp only [createModel, Store.insertModel] at hm ⊢
    split at hm
    · cases hm
    · rename_i hname
      rw [if_neg hname]
      split at hm
      · cases hm
      · rename_i store hinsert
        obtain ⟨_, hbytes, _⟩ := bind_eq_ok.mp hinsert
        rw [hbytes]
        exact hm

theorem confined_initDataset (modelId : Text) (imageCount : Int) :
    k.Confined userId fun k => k.initDataset c userId modelId imageCount where
  touches := by
    cases k.performs_initDataset c userId modelId imageCount with
    | nothing _ _ _ hstore _ =>
        rw [hstore]
        exact .nothing
    | initDataset d _ _ huser _ howned hstore _ =>
        rw [hstore]
        exact .dataset d huser (Store.owner?_of_ownedModel howned)
  answers := by
    intro made hmade
    dsimp only [initDataset, ownedBy, withStore] at hmade ⊢
    split at hmade
    · cases hmade
    · rename_i model howned
      rw [Store.ownedModel_ownedBy howned, ← hmade]
      dsimp only
      split
      · rfl
      · split
        · rfl
        · split <;> rfl

theorem confined_validateDataset (h : k.Sound) (id : Text) :
    k.Confined userId fun k => k.validateDataset c id userId where
  touches := by
    cases k.performs_validateDataset c id userId with
    | nothing _ _ _ hstore _ =>
        rw [hstore]
        exact .nothing
    | validateDataset loaded v now hloaded huser _ _ hstore _ =>
        rw [hstore]
        refine .verdict loaded.id v now ?_
        intro d hd hid
        have hfind : k.store.dataset? loaded.id = some d :=
          (Store.find?_eq_some_iff_mem h.datasets.ids.distinct).mpr ⟨hd, hid⟩
        rw [hloaded, Option.some.injEq] at hfind
        subst hfind
        exact ⟨huser, huser ▸ h.owner?_of_dataset (List.mem_of_find?_eq_some hloaded)⟩
  answers := by
    intro d hd
    dsimp only [validateDataset, ownedBy, withStore] at hd ⊢
    split at hd
    · cases hd
    · rename_i loaded verdict hjudged
      obtain ⟨found, hfound, hrest⟩ := bind_eq_ok.mp hjudged
      rw [bind_eq_ok.mpr ⟨found, Store.loadForValidation_ownedBy hfound, hrest⟩, ← hd]
      obtain ⟨hloaded, huser, -⟩ := Store.loadForValidation_eq_ok_iff.mp hfound
      have hstored := Store.dataset_eq_ok hloaded
      dsimp only
      rw [Store.dataset?_writeVerdict, Store.dataset?_writeVerdict, hstored, Store.dataset?_ownedBy hstored huser]

theorem touches_activate (h : k.Sound) (versionId : Text) (weight : Binary64) :
    k.store.Touches userId (k.activate c userId versionId weight).2.store := by
  cases hactivates : k.store.activates userId versionId weight with
  | false =>
      obtain ⟨failure, hfails⟩ := activate_of_not_activates h.bindings c hactivates
      rw [hfails]
      exact .nothing
  | true =>
      obtain ⟨b, bindings, hends, -, -, -, hrebinds, hsound⟩ := activate_of_activates h.bindings c hactivates
      rw [hends]
      refine .bind bindings ?_ ?_
      · intro other hother
        rw [Store.filter_eq_toList_find? hsound.users, Store.filter_eq_toList_find? h.bindings.users,
          hrebinds.others other hother]
      · intro b hb hnew
        have hfound : bindings.find? (·.userId == b.userId) = some b :=
          (Store.find?_eq_some_iff_mem hsound.users).mpr ⟨hb, rfl⟩
        have huser : b.userId = userId := by
          by_contra hne
          rw [hrebinds.others _ hne] at hfound
          exact hnew (List.mem_of_find?_eq_some hfound)
        obtain ⟨-, -, ⟨v, m⟩, htrained⟩ := hsound.usable b.userId b hfound
        obtain ⟨hversion, howner⟩ := Store.owner?_of_trainedVersion htrained
        rw [huser] at howner
        exact ⟨huser, Store.owner?_version_eq_some.mpr ⟨v, hversion, howner⟩⟩

theorem exists_activeVersion?_of_activates (h : k.store.BindingsSound) {versionId : Text} {weight : Binary64}
    (hbindable : userId.bindable = .ok userId) (hstorable : Store.isStorable weight = true) {v : Version}
    {m : LoraModel} (htrained : k.store.trainedVersion versionId userId = .ok (v, m)) :
    (∃ b, (k.activate c userId versionId weight).1 = .ok b) ∧
      ∃ b, b.weight = Store.storedWeight weight ∧
        (k.activate c userId versionId weight).2.store.activeVersion? userId = .ok (some ⟨b, v, m⟩) := by
  have hactivates : k.store.activates userId versionId weight = true := by
    rw [Store.activates, isOk_iff.mpr ⟨_, htrained⟩, isOk_iff.mpr ⟨_, hbindable⟩, hstorable]
    rfl
  obtain ⟨b, bindings, hends, -, -, -, hrebinds, -⟩ := activate_of_activates h c hactivates
  obtain ⟨own, hown, hversion, hweight⟩ := hrebinds.own
  rw [hends]
  refine ⟨⟨b, rfl⟩, own, hweight, ?_⟩
  refine Store.activeVersion?_of_trainedVersion (s := { k.store with bindings }) hbindable hown ?_
  rw [hversion]
  exact htrained

theorem confined_deactivate : k.Confined userId fun k => k.deactivate userId where
  touches := by
    cases k.performs_deactivate userId with
    | nothing _ _ _ hstore _ =>
        rw [hstore]
        exact .nothing
    | deactivate hstore _ =>
        rw [hstore]
        refine .bind _ ?_ ?_
        · intro other hother
          rw [List.filter_filter]
          refine List.filter_congr ?_
          intro b _
          by_cases hb : b.userId = other
          · rw [hb, beq_self_eq_true, Bool.true_and]
            exact bne_iff_ne.mpr hother
          · rw [beq_false_of_ne hb, Bool.false_and]
        · intro b hb hnew
          exact absurd (List.mem_of_mem_filter hb) hnew
  answers := by
    intro b hb
    dsimp only [deactivate] at hb ⊢
    have hloaded : (k.ownedBy userId).store.loadBinding? userId = _ := Store.loadBinding?_ownedBy k.store userId
    rw [hloaded]
    split at hb <;> exact hb

/-! ### Prompts and their snapshots -/

theorem prepareCompile_eq_ok_iff {r r' : PromptRequest} {choice : CompileChoice} {compiler : Compiler}
    {adapter : Option Adapter} :
    k.prepareCompile c userId r choice = .ok (compiler, r', adapter) ↔
      k.store.chosenBlueprint c.catalog userId choice r = .ok (compiler, r') ∧
        k.store.chosenAdapter c.settings userId choice = .ok adapter := by
  simp only [prepareCompile, bind_eq_ok, pure_eq_ok, Prod.mk.injEq]
  constructor
  · rintro ⟨chosen, hchosen, a, ha, rfl, rfl, rfl⟩
    exact ⟨hchosen, ha⟩
  · rintro ⟨hchosen, ha⟩
    exact ⟨_, hchosen, _, ha, rfl, rfl, rfl⟩

theorem confined_compilePrompt (h : k.Sound) (r : PromptRequest) (choice : CompileChoice) :
    k.Confined userId fun k => k.compilePrompt c userId r choice where
  touches := by
    dsimp only [compilePrompt]
    split
    · exact .nothing
    · rename_i compiler request adapter hprepared
      obtain ⟨hchosen, hadapter⟩ := (prepareCompile_eq_ok_iff c userId).mp hprepared
      split
      · exact .nothing
      · split
        · exact .nothing
        · rename_i store hinsert
          obtain ⟨_, _, hstore⟩ := bind_eq_ok.mp hinsert
          rw [← pure_eq_ok.mp hstore]
          refine .prompt _ rfl ?_
          intro ref href
          rcases List.mem_append.mp href with hblueprint | hversion
          · obtain ⟨id, hid, rfl⟩ := List.mem_map.mp hblueprint
            exact Store.owner?_of_chosenBlueprint hchosen (Option.mem_toList.mp hid)
          · obtain ⟨id, hid, rfl⟩ := List.mem_map.mp hversion
            obtain ⟨a, ha, rfl⟩ := Option.map_eq_some_iff.mp (Option.mem_toList.mp hid)
            exact Store.owner?_of_chosenAdapter h.bindings (ha ▸ hadapter)
  answers := by
    intro answer hanswer
    dsimp only [compilePrompt] at hanswer ⊢
    split at hanswer
    · cases hanswer
    · rename_i compiler request adapter hprepared
      obtain ⟨hchosen, hadapter⟩ := (prepareCompile_eq_ok_iff c userId).mp hprepared
      have hprepared' : (k.ownedBy userId).prepareCompile c userId r choice = .ok (compiler, request, adapter) :=
        (prepareCompile_eq_ok_iff c userId).mpr
          ⟨Store.chosenBlueprint_ownedBy hchosen, Store.chosenAdapter_ownedBy h.bindings hadapter⟩
      rw [hprepared', ← hanswer]
      dsimp only [ownedBy, withStore, Store.insertPrompt]
      split
      · rfl
      · generalize Text.bindAll _ = bytes
        cases bytes <;> rfl

theorem confined_saveSnapshot (promptId : Text) :
    k.Confined userId fun k => k.saveSnapshot c promptId userId where
  touches := by
    dsimp only [saveSnapshot]
    split
    · exact .nothing
    · rename_i record hrecord
      have howner := Store.owner?_of_prompt hrecord
      have hid := Store.id_of_prompt? (Store.prompt_eq_ok hrecord).1
      dsimp only [finishSnapshot]
      split
      · exact .nothing
      · split
        · exact .nothing
        · rename_i hinsert
          obtain ⟨-, rfl⟩ := Store.insertSnapshot_eq_ok_iff.mp hinsert
          exact .snapshot _ (hid ▸ howner)
  answers := by
    intro v hv
    dsimp only [saveSnapshot, ownedBy, withStore] at hv ⊢
    split at hv
    · cases hv
    · rename_i record hrecord
      have hnumber : (k.store.ownedBy userId).nextSnapshotNumber promptId = k.store.nextSnapshotNumber promptId := by
        rw [Store.nextSnapshotNumber, Store.snapshotsOf_ownedBy (Store.owner?_of_prompt hrecord)]
        rfl
      rw [Store.prompt_ownedBy hrecord, hnumber]
      dsimp only [finishSnapshot] at hv ⊢
      split at hv
      · cases hv
      · rename_i metadata hmetadata
        split at hv
        · cases hv
        · rename_i store hinsert
          obtain ⟨hfree, -⟩ := Store.insertSnapshot_eq_ok_iff.mp hinsert
          rw [Store.insertSnapshot_eq_ok_iff.mpr ⟨Store.any_filter_eq_false hfree, rfl⟩]
          exact hv

/-! ### Blueprints -/

theorem confined_createBlueprint (h : k.Sound) (draft : BlueprintDraft) :
    k.Confined userId fun k => k.createBlueprint c userId draft where
  touches := by
    dsimp only [createBlueprint]
    split
    · exact .nothing
    · split
      · exact .nothing
      · rename_i store hinsert
        obtain ⟨_, _, hstore⟩ := bind_eq_ok.mp hinsert
        rw [← pure_eq_ok.mp hstore]
        refine .blueprint _ _ rfl rfl ?_
        exact h.history.blueprints.ids.find?_next
  answers := by
    intro answer hanswer
    dsimp only [createBlueprint, ownedBy, withStore, Store.insertBlueprint] at hanswer ⊢
    rw [← hanswer]
    split
    · rfl
    · generalize Text.bindAll _ = bytes
      cases bytes <;> rfl

/-- A change whose blueprint and next version were found is ended with them. -/
theorem updateBlueprint_of_loaded {id : Text} {changes : BlueprintChanges} {loaded : BlueprintAnswer}
    {next : Option NextVersion} (hloaded : k.store.blueprintWithLatest id userId = .ok loaded)
    (hnext : k.store.nextVersion? c.catalog loaded.version changes = .ok next) :
    k.updateBlueprint c id userId changes = k.finishBlueprintUpdate c loaded changes next := by
  have hprepared : ((do
      let loaded ← k.store.blueprintWithLatest id userId
      return (loaded, ← k.store.nextVersion? c.catalog loaded.version changes))
        : Except Failure (BlueprintAnswer × Option NextVersion)) = .ok (loaded, next) :=
    bind_eq_ok.mpr ⟨loaded, hloaded, bind_eq_ok.mpr ⟨next, hnext, rfl⟩⟩
  rw [updateBlueprint, hprepared]

theorem updateBlueprint_cases (k : Studio) (c : Context) (userId id : Text) (changes : BlueprintChanges) :
    (∃ failure, k.updateBlueprint c id userId changes = k.fail failure) ∨
      ∃ loaded next, k.store.blueprintWithLatest id userId = .ok loaded ∧
        k.store.nextVersion? c.catalog loaded.version changes = .ok next ∧
        k.updateBlueprint c id userId changes = k.finishBlueprintUpdate c loaded changes next := by
  rw [updateBlueprint]
  split
  · exact Or.inl ⟨_, rfl⟩
  · rename_i loaded next hprepared
    obtain ⟨found, hfound, hrest⟩ := bind_eq_ok.mp hprepared
    obtain ⟨more, hmore, hrest⟩ := bind_eq_ok.mp hrest
    obtain ⟨rfl, rfl⟩ := Prod.mk.inj (pure_eq_ok.mp hrest)
    exact Or.inr ⟨found, more, hfound, hmore, rfl⟩

/-- To end a change changes nothing, or it rewrites the head and may add a version. -/
theorem store_finishBlueprintUpdate (k : Studio) (c : Context) (loaded : BlueprintAnswer) (changes : BlueprintChanges)
    (next : Option NextVersion) :
    (k.finishBlueprintUpdate c loaded changes next).2.store = k.store ∨
      ∃ more : List BlueprintVersion, (∀ v ∈ more, v.blueprintId = loaded.blueprint.id) ∧
        (k.finishBlueprintUpdate c loaded changes next).2.store
          = { k.store.updateBlueprint loaded.blueprint.id (loaded.blueprint.rewritten changes c.now) with
              blueprintVersions := k.store.blueprintVersions ++ more } := by
  rw [finishBlueprintUpdate]
  split
  · exact Or.inl rfl
  · rename_i store hhead
    obtain rfl := Store.writeHead_eq_ok hhead
    dsimp only
    split
    · refine Or.inr ⟨[], List.forall_mem_nil _, ?_⟩
      rw [List.append_nil]
      rfl
    · split
      · exact Or.inl rfl
      · rename_i store hinsert
        obtain ⟨-, rfl⟩ := Store.insertBlueprintVersion_eq_ok_iff.mp hinsert
        refine Or.inr ⟨[_], List.forall_mem_singleton.mpr ?_, rfl⟩
        rfl

theorem touches_updateBlueprint (h : k.Sound) (id : Text) (changes : BlueprintChanges) :
    k.store.Touches userId (k.updateBlueprint c id userId changes).2.store := by
  rcases k.updateBlueprint_cases c userId id changes with ⟨failure, hends⟩ | ⟨loaded, next, hloaded, -, hends⟩
  · rw [hends]
    exact .nothing
  · have howned := (Store.blueprintWithLatest_eq_ok_iff.mp hloaded).1
    obtain ⟨hid, howner⟩ := Store.owner?_of_ownedBlueprint howned
    obtain ⟨-, hfound, huser⟩ := Store.ownedBlueprint_eq_ok howned
    rw [hends]
    rcases k.store_finishBlueprintUpdate c loaded changes next with hstore | ⟨more, hmore, hstore⟩
    · rw [hstore]
      exact .nothing
    · rw [hstore]
      refine .change loaded.blueprint changes c.now more ?_ (hid.symm ▸ howner) hmore
      intro b hb hsame
      have hstored : k.store.blueprint? id = some b :=
        (Store.find?_eq_some_iff_mem h.history.blueprints.ids.distinct).mpr ⟨hb, hsame.trans hid⟩
      rw [hfound, Option.some.injEq] at hstored
      exact hstored ▸ huser

theorem finishBlueprintUpdate_ownedBy {loaded : BlueprintAnswer} {changes : BlueprintChanges}
    {next : Option NextVersion} (hfound : k.store.blueprint? loaded.blueprint.id = some loaded.blueprint)
    (huser : loaded.blueprint.userId = userId) {answer : BlueprintAnswer}
    (hanswer : (k.finishBlueprintUpdate c loaded changes next).1 = .ok answer) :
    ((k.ownedBy userId).finishBlueprintUpdate c loaded changes next).1 = .ok answer := by
  have hhead := Store.blueprint?_rewritten hfound changes c.now
  have hhead' := Store.blueprint?_rewritten (s := (k.ownedBy userId).store) (Store.blueprint?_ownedBy hfound huser)
    changes c.now
  rw [finishBlueprintUpdate] at hanswer ⊢
  cases hwritten : k.store.writeHead loaded.blueprint changes c.now with
  | error fault =>
      rw [hwritten] at hanswer
      cases hanswer
  | ok store =>
      have hwritten' : (k.ownedBy userId).store.writeHead loaded.blueprint changes c.now = _ :=
        Store.writeHead_congr hwritten
      rw [hwritten] at hanswer
      rw [hwritten']
      obtain rfl := Store.writeHead_eq_ok hwritten
      dsimp only at hanswer ⊢
      cases next with
      | none =>
          dsimp only at hanswer ⊢
          rw [hhead] at hanswer
          rw [← hanswer, hhead']
      | some next =>
          dsimp only at hanswer ⊢
          split at hanswer
          · cases hanswer
          · rename_i store hinsert
            obtain ⟨hfree, rfl⟩ := Store.insertBlueprintVersion_eq_ok_iff.mp hinsert
            rw [Store.insertBlueprintVersion_eq_ok_iff.mpr ⟨Store.any_filter_eq_false hfree, rfl⟩, ← hanswer]
            exact congrArg (fun head : Option UserBlueprint =>
              (Except.ok ⟨head.getD loaded.blueprint, _⟩ : Except Failure BlueprintAnswer)) (hhead'.trans hhead.symm)

theorem confined_updateBlueprint (h : k.Sound) (id : Text) (changes : BlueprintChanges) :
    k.Confined userId fun k => k.updateBlueprint c id userId changes where
  touches := touches_updateBlueprint c userId h id changes
  answers := by
    intro answer hanswer
    rcases k.updateBlueprint_cases c userId id changes with ⟨failure, hends⟩ | ⟨loaded, next, hloaded, hnext, hends⟩
    · rw [hends] at hanswer
      cases hanswer
    · rw [hends] at hanswer
      have howned := (Store.blueprintWithLatest_eq_ok_iff.mp hloaded).1
      obtain ⟨hid, howner⟩ := Store.owner?_of_ownedBlueprint howned
      obtain ⟨-, hfound, huser⟩ := Store.ownedBlueprint_eq_ok howned
      obtain ⟨-, ⟨-, hversion⟩, -⟩ := Store.found_of_blueprintWithLatest h.history.blueprints hloaded
      have hparent : loaded.version.blueprintId = id := (beq_iff_eq.mp (List.mem_filter.mp hversion).2).trans hid
      have hnext' : (k.store.ownedBy userId).nextVersion? c.catalog loaded.version changes = .ok next := by
        rw [← hnext, Store.nextVersion?, Store.nextVersion?, Store.nextBlueprintNumber, Store.nextBlueprintNumber,
          hparent, Store.blueprintVersionsOf_ownedBy howner]
      have hends' : (k.ownedBy userId).updateBlueprint c id userId changes
          = (k.ownedBy userId).finishBlueprintUpdate c loaded changes next :=
        updateBlueprint_of_loaded c userId (Store.blueprintWithLatest_ownedBy hloaded) hnext'
      rw [hends']
      exact finishBlueprintUpdate_ownedBy c userId (hid.symm ▸ hfound) huser hanswer

end Studio

end PromptStudio
