import PromptStudio.Proofs.History.Gapless
import PromptStudio.Proofs.Ownership.Access
import PromptStudio.Proofs.Prompt.Compiled
import PromptStudio.Proofs.Store.Column

/-!
# What is kept of a compiled prompt

A prompt is kept with the text, the score and the seed that compiling gave, and with its documents as they come back.
No step reaches a row of a prompt once it is there, and a snapshot is made of the row; so whatever goes on later, the
prompt is found as it was kept, and every snapshot of it tells the same text, score, seed and warnings.
-/

namespace PromptStudio

/-! ### The documents of a prompt -/

namespace CompiledPrompt

theorem isDocument_metadataJson (prompt : CompiledPrompt) : prompt.metadataJson.IsDocument := by
  refine Json.isDocument_ofFields (by simp) ?_
  simp [Json.hasDistinctKeys, Json.every, Json.repeatsNoKey, Json.depth, Json.ofNat]

theorem isDocument_packJson (prompt : CompiledPrompt) : prompt.packJson.IsDocument := by
  rw [packJson]
  split
  · rename_i pack _
    refine Json.isDocument_ofFields (by simp) ?_
    have hleaf (t : Text) : (Json.string t).hasDistinctKeys = true ∧ (Json.string t).depth ≤ 1 := ⟨rfl, Nat.zero_le 1⟩
    have hweight : (Json.float pack.weight).hasDistinctKeys = true ∧ (Json.float pack.weight).depth ≤ 1 :=
      ⟨rfl, Nat.zero_le 1⟩
    simp [hleaf, hweight, Json.hasDistinctKeys_ofTexts, Json.depth_ofTexts_le]
  · exact ⟨rfl, rfl, Nat.zero_le _⟩

end CompiledPrompt

namespace PromptRequest

/-- The chosen filters as they are kept; none are kept as nothing. -/
def filtersJson (r : PromptRequest) : Json :=
  if r.filters.isEmpty then .null else .ofEntries r.filters

theorem isDocument_filtersJson (r : PromptRequest) (h : (r.filters.map (·.1)).Nodup) : r.filtersJson.IsDocument := by
  rw [filtersJson]
  split
  · exact ⟨rfl, rfl, Nat.zero_le _⟩
  · have hkeys : (r.filters.map fun e => (e.1, Json.string e.2)).map (·.1) = r.filters.map (·.1) := by
      rw [List.map_map]
      rfl
    refine ⟨rfl, ?_, ?_⟩
    · rw [Json.ofEntries, Json.hasDistinctKeys, Json.every, Json.repeatsNoKey, hkeys, decide_eq_true h, Bool.true_and,
        Json.everyMember_iff]
      intro m hm
      obtain ⟨e, -, rfl⟩ := List.mem_map.mp hm
      rfl
    · have hflat : Json.depthOfMembers (r.filters.map fun e => (e.1, Json.string e.2)) ≤ 0 := by
        rw [Json.depthOfMembers_le_iff]
        intro m hm
        obtain ⟨e, -, rfl⟩ := List.mem_map.mp hm
        exact Nat.le_refl 0
      rw [Json.ofEntries, Json.depth, Nat.le_zero.mp hflat]
      decide

end PromptRequest

/-- What a record keeps of a compiled prompt, of the request and of the adapter. A request gives each filter once. -/
structure PromptRecord.KeepsCompiled (record : PromptRecord) (prompt : CompiledPrompt) (r : PromptRequest)
    (adapter : Option Adapter) : Prop where
  text : record.text = prompt.text
  score : record.score = .int prompt.score
  seed : record.seed = prompt.seed
  versionId : record.versionId = adapter.map (·.versionId)
  warnings : record.warnings.Keeps (.ofTexts prompt.warningTexts)
  metadata : record.metadata.Keeps prompt.metadataJson
  pack : record.pack.Keeps prompt.packJson
  filters : (r.filters.map (·.1)).Nodup → record.filters.Keeps r.filtersJson

structure PromptVersion.TellsCompiled (v : PromptVersion) (prompt : CompiledPrompt) : Prop where
  text : v.text = prompt.text
  metadata : ∃ metadata, v.metadata = .ok metadata ∧ metadata.get? "score" = some (.int prompt.score) ∧
    metadata.get? "seed" = some (.string prompt.seed) ∧
    ∃ warnings, metadata.get? "warnings" = some warnings ∧ JsonColumn.Keeps (.ok warnings) (.ofTexts prompt.warningTexts)

theorem keepsCompiled_promptRecord (number : Nat) (c : Context) (userId : Text) {r r' : PromptRequest}
    (hfilters : r'.filters = r.filters) (choice : CompileChoice) (adapter : Option Adapter) (prompt : CompiledPrompt) :
    (Studio.promptRecord number c userId r' choice adapter prompt).KeepsCompiled prompt r adapter where
  text := rfl
  score := rfl
  seed := rfl
  versionId := rfl
  warnings := JsonColumn.keeps_ofJson (Json.isDocument_ofTexts _)
  metadata := JsonColumn.keeps_ofJson prompt.isDocument_metadataJson
  pack := JsonColumn.keeps_ofJson prompt.isDocument_packJson
  filters := by
    intro hkeys
    rw [Studio.promptRecord, hfilters]
    exact JsonColumn.keeps_ofJson (r.isDocument_filtersJson hkeys)

def PromptRecord.textColumns (p : PromptRecord) : List Text :=
  p.userId.toList ++ [p.profileId] ++ p.blueprintId.toList ++ p.userBlueprintId.toList ++ p.versionId.toList
    ++ [p.seed, p.text]

/-! ### Snapshots of a record -/

def PromptVersion.IsOf (v : PromptVersion) (record : PromptRecord) : Prop :=
  ∃ idNumber n metadata now, record.snapshotMetadata = .ok metadata ∧ v = record.snapshot idNumber n metadata now

namespace PromptRecord.KeepsCompiled

variable {record : PromptRecord} {prompt : CompiledPrompt} {r : PromptRequest} {adapter : Option Adapter}

theorem warningsJson_eq (h : record.KeepsCompiled prompt r adapter) :
    record.warningsJson = (Json.ofTexts prompt.warningTexts).joined := by
  rw [warningsJson, h.warnings.joined, JsonColumn.value]
  change (if (Json.ofTexts prompt.warningTexts).joined.isTruthy then (Json.ofTexts prompt.warningTexts).joined else _) = _
  split
  · rfl
  · rename_i hnone
    rw [Json.joined_ofTexts] at hnone ⊢
    have hempty : prompt.warningTexts = [] := by
      simpa [Json.ofTexts, Json.isTruthy] using hnone
    rw [hempty]
    rfl

/-- Whatever is told in a snapshot comes back as it is: it comes from a document that came back. -/
theorem tellsCompiled (h : record.KeepsCompiled prompt r adapter) (hseed : prompt.seed.isEncodable = true)
    {v : PromptVersion} (hv : v.IsOf record) : v.TellsCompiled prompt := by
  obtain ⟨idNumber, n, metadata, now, hmetadata, rfl⟩ := hv
  refine ⟨h.text, ?_⟩
  obtain ⟨members, hmembers⟩ : ∃ members, prompt.metadataJson.joined = .object members := ⟨_, Json.joined_object _⟩
  have hfixed : (Json.object members).joined = .object members := by
    rw [← hmembers]
    exact Json.joined_joined _
  rw [snapshotMetadata, h.metadata.joined, hmembers, h.warningsJson_eq, h.score, h.seed] at hmetadata
  obtain rfl := Except.ok.inj hmetadata
  have hscore := Json.joined_insert_eq_self hfixed (Text.joined_ofString "score") (v := .int prompt.score) rfl
  have htoSeed := Json.joined_insert_eq_self hscore (Text.joined_ofString "seed") (v := .string prompt.seed)
    (congrArg Json.string (Text.joined_eq_self (Text.isApart_of_isEncodable hseed)))
  have htoWarnings := Json.joined_insert_eq_self htoSeed (Text.joined_ofString "warnings")
    (Json.joined_joined (.ofTexts prompt.warningTexts))
  refine ⟨_, congrArg Except.ok htoWarnings, ?_, ?_, _, ?_, h.warnings.joined ▸ h.warnings⟩
  · rw [Json.get?, Json.find?_insert, if_neg (by decide), Json.find?_insert, if_neg (by decide), Json.find?_insert,
      if_pos rfl]
  · rw [Json.get?, Json.find?_insert, if_neg (by decide), Json.find?_insert, if_pos rfl]
  · rw [Json.get?, Json.find?_insert, if_pos rfl]

end PromptRecord.KeepsCompiled

def Store.SnapshotsTell (s : Store) : Prop :=
  ∀ v ∈ s.promptVersions, ∃ record, s.prompt? v.promptId = some record ∧ v.IsOf record

/-- A step that writes makes snapshots of stored prompts only, and prompts stay. -/
theorem Studio.Writes.snapshotsTell {k k' : Studio} {writings : List Writing} (hwrites : k.Writes writings k')
    (hallowed : ∀ (place : Nat) w, writings[place]? = some w → k.store.Allows w) (h : k.store.SnapshotsTell) :
    k'.store.SnapshotsTell := by
  have hgrows := hwrites.grows
  have hold : ∀ v ∈ k.store.promptVersions, ∃ record, k'.store.prompt? v.promptId = some record ∧ v.IsOf record := by
    intro v hv
    obtain ⟨record, hrecord, hmade⟩ := h v hv
    exact ⟨record, hgrows.prompt?_eq_some hrecord, hmade⟩
  intro v hv
  cases hwrites with
  | nothing hstore _ | prompt p _ _ hstore _ | blueprint _ _ _ _ _ _ _ hstore _ | head _ _ hstore _
  | version _ _ _ _ hstore _ =>
      rw [hstore] at hv
      exact hold v hv
  | @snapshot place record n hplace idNumber metadata hmetadata now _ hstore _ =>
      rw [hstore] at hv
      rcases List.mem_append.mp hv with hmem | hnew
      · exact hold v hmem
      · obtain rfl := List.mem_singleton.mp hnew
        exact ⟨record, hgrows.prompt?_eq_some (hallowed place _ hplace).1, idNumber, n, metadata, now, hmetadata, rfl⟩

theorem Activity.snapshotsTell_run (happenings : List Happening) :
    (start.run happenings).studio.store.SnapshotsTell := by
  have hrun : (start.run happenings).HistorySound ∧ (start.run happenings).studio.store.SnapshotsTell := by
    refine run_induction (P := fun σ => σ.HistorySound ∧ σ.studio.store.SnapshotsTell) ?_
      ⟨historySound_start, List.forall_mem_nil _⟩ happenings
    rintro σ e ⟨hsound, h⟩
    refine ⟨hsound.step e, ?_⟩
    rcases σ.step_cases e with ⟨event, rfl⟩ | ⟨hwrites, -⟩
    · have hsame := (σ.traffic.moves_step event).sameHistory
      intro v hv
      obtain ⟨record, hrecord, hmade⟩ := h v (hsame.promptVersions ▸ hv)
      exact ⟨record, hsame.grows.prompt?_eq_some hrecord, hmade⟩
    · exact hwrites.snapshotsTell hsound.allowed h
  exact hrun.2

/-! ### To compile and keep a prompt -/

namespace Store

variable {s : Store} {userId : Text}

theorem filters_of_chosenBlueprint {catalog : Catalog} {choice : CompileChoice} {r r' : PromptRequest}
    {compiler : Compiler} (h : s.chosenBlueprint catalog userId choice r = .ok (compiler, r')) :
    r'.filters = r.filters := by
  rw [chosenBlueprint] at h
  split at h
  · cases pure_eq_ok.mp h
    rfl
  · obtain ⟨_, _, h⟩ := bind_eq_ok.mp h
    cases pure_eq_ok.mp h
    rfl

theorem versionId_of_chosenAdapter {settings : Settings} {choice : CompileChoice} {adapter : Option Adapter}
    (h : s.chosenAdapter settings userId choice = .ok adapter) {id : Text} (hchoice : choice.versionId = some id)
    (hne : id ≠ []) : adapter.map (·.versionId) = some id := by
  rw [chosenAdapter, hchoice, filter_isEmpty_of_ne_nil hne] at h
  obtain ⟨a, hresolved, hadapter⟩ := bind_eq_ok.mp h
  obtain rfl := pure_eq_ok.mp hadapter
  obtain ⟨⟨v, m⟩, htrained, ha⟩ := bind_eq_ok.mp hresolved
  rw [Option.map_some, versionId_of_adapter (liftFault_eq_ok.mp ha), id_of_version? (owner?_of_trainedVersion htrained).1]

theorem insertPrompt_eq_ok_iff {p : PromptRecord} {store : Store} : s.insertPrompt p = .ok store ↔
    (∀ t ∈ p.textColumns, t.isEncodable = true) ∧ store = { s with prompts := s.prompts ++ [p] } := by
  rw [← Text.bindAll_eq_ok_iff, insertPrompt, bind_eq_ok]
  constructor
  · rintro ⟨_, hbytes, hstore⟩
    exact ⟨hbytes, (pure_eq_ok.mp hstore).symm⟩
  · rintro ⟨hbytes, rfl⟩
    exact ⟨(), hbytes, rfl⟩

theorem prompt_none_of_loadPrompt? {id : Text} {p : PromptRecord} (h : s.loadPrompt? id = .ok (some p)) :
    s.prompt id none = .ok p :=
  bind_eq_ok.mpr ⟨some p, liftFault_eq_ok.mpr h, rfl⟩

end Store

namespace Studio

variable {k : Studio} {c : Context} {userId : Text} {r : PromptRequest} {choice : CompileChoice}

/-- A prompt that was compiled and is kept: one more row, the record of what compiling gave. -/
structure KeepsPrompt (k : Studio) (c : Context) (userId : Text) (r : PromptRequest) (choice : CompileChoice)
    (answer : CompileAnswer) (k' : Studio) : Prop where
  adapter : ∃ adapter, k.store.chosenAdapter c.settings userId choice = .ok adapter ∧
    answer.record.KeepsCompiled answer.prompt r adapter
  seed : answer.prompt.seed.isEncodable = true
  owner : answer.record.userId = some userId
  stored : k'.store = { k.store with prompts := k.store.prompts ++ [answer.record] }

theorem compilePrompt_cases :
    (∃ failure, (k.compilePrompt c userId r choice).1 = .error failure ∧
      (k.compilePrompt c userId r choice).2.store = k.store) ∨
    ∃ answer, (k.compilePrompt c userId r choice).1 = .ok answer ∧
      k.KeepsPrompt c userId r choice answer (k.compilePrompt c userId r choice).2 := by
  rw [compilePrompt]
  split
  · exact .inl ⟨_, rfl, rfl⟩
  · rename_i compiler r' adapter hprepared
    obtain ⟨⟨_, _⟩, hchosen, hprepared⟩ := bind_eq_ok.mp hprepared
    obtain ⟨_, hadapter, hprepared⟩ := bind_eq_ok.mp hprepared
    cases pure_eq_ok.mp hprepared
    dsimp only
    split
    · exact .inl ⟨_, rfl, rfl⟩
    · split
      · exact .inl ⟨_, rfl, rfl⟩
      · rename_i prompt _ _ store hinsert
        obtain ⟨hbytes, hstore⟩ := Store.insertPrompt_eq_ok_iff.mp hinsert
        refine .inr ⟨_, rfl, ⟨adapter, hadapter, ?_⟩, ?_, rfl, hstore⟩
        · exact keepsCompiled_promptRecord _ c userId (Store.filters_of_chosenBlueprint hchosen) choice adapter prompt
        · exact hbytes prompt.seed (List.mem_append_right _ List.mem_cons_self)

theorem keepsPrompt_of_ok {answer : CompileAnswer} (h : (k.compilePrompt c userId r choice).1 = .ok answer) :
    k.KeepsPrompt c userId r choice answer (k.compilePrompt c userId r choice).2 := by
  rcases compilePrompt_cases with ⟨_, hfails, -⟩ | ⟨_, hends, hkept⟩
  · rw [hfails] at h
    cases h
  · rw [hends] at h
    cases h
    exact hkept

theorem compilePrompt_eq_ok {compiler : Compiler} {r' : PromptRequest} {adapter : Option Adapter}
    {prompt : CompiledPrompt} (hprepared : k.prepareCompile c userId r choice = .ok (compiler, r', adapter))
    (hcompiled : (compiler.compile r' adapter c.now.toMillis k.nextDraw).1 = .ok prompt)
    (hbytes : ∀ t ∈ (promptRecord (k.issued.prompts + 1) c userId r' choice adapter prompt).textColumns,
      t.isEncodable = true) :
    (k.compilePrompt c userId r choice).1 =
      .ok ⟨promptRecord (k.issued.prompts + 1) c userId r' choice adapter prompt, prompt⟩ := by
  rw [compilePrompt, hprepared]
  dsimp only
  rw [hcompiled]
  dsimp only
  rw [Store.insertPrompt_eq_ok_iff.mpr ⟨hbytes, rfl⟩]

theorem store_compilePrompt_of_error {failure : Failure} (h : (k.compilePrompt c userId r choice).1 = .error failure) :
    (k.compilePrompt c userId r choice).2.store = k.store := by
  rcases compilePrompt_cases with ⟨_, -, hsame⟩ | ⟨_, hends, -⟩
  · exact hsame
  · rw [hends] at h
    cases h

end Studio

theorem Activity.loadPrompt?_run_of_compiled (happenings : List Happening) {c : Context} {userId : Text}
    {r : PromptRequest} {choice : CompileChoice} {answer : CompileAnswer}
    (h : ((start.run happenings).studio.compilePrompt c userId r choice).1 = .ok answer) (more : List Happening) :
    (start.run (happenings ++ .compile c userId r choice :: more)).studio.store.loadPrompt? answer.record.id =
      .ok (some answer.record) := by
  let now := (start.run happenings).step (.compile c userId r choice)
  have hsound : now.HistorySound := (historySound_run happenings).step _
  have hmem : answer.record ∈ now.studio.store.prompts := by
    change answer.record ∈ ((start.run happenings).studio.compilePrompt c userId r choice).2.store.prompts
    rw [(Studio.keepsPrompt_of_ok h).stored]
    exact List.mem_append_right _ (List.mem_singleton_self _)
  have hnow : now.studio.store.prompt? answer.record.id = some answer.record :=
    (Store.find?_eq_some_iff_mem hsound.studio.prompts.ids.distinct).mpr ⟨hmem, rfl⟩
  have hgrows : now.studio.store.Grows (now.run more).studio.store := grows_run more
  have hrun : start.run (happenings ++ .compile c userId r choice :: more) = now.run more := run_append ..
  have hid := Text.bindable_of_isEncodable (hsound.studio.prompts.ids.isEncodable (List.mem_map_of_mem hmem))
  rw [hrun]
  exact Store.loadPrompt?_eq_some_iff.mpr
    ⟨hid, (hsound.studio.prompts.whole _ hmem).loads, hgrows.prompt?_eq_some hnow⟩

/-- Whenever a prompt is compiled, in whatever run: if it fails, nothing is stored. Else what is kept has the text, score
and seed of the prompt and the version of the adapter that was chosen, and keeps its warnings, metadata and pack and the
filters of the request as documents; a version that is named is the version that is kept. Whatever goes on later, the
prompt is found so, by its user and without a user, and every snapshot of it tells its text, score, seed and warnings. -/
theorem compiled_prompt_is_kept (happenings : List Happening) (c : Context) (userId : Text) (r : PromptRequest)
    (choice : CompileChoice) :
    let k := (Activity.start.run happenings).studio
    (∀ failure, (k.compilePrompt c userId r choice).1 = .error failure →
      (k.compilePrompt c userId r choice).2.store = k.store) ∧
    ∀ answer, (k.compilePrompt c userId r choice).1 = .ok answer →
      (∃ adapter, k.store.chosenAdapter c.settings userId choice = .ok adapter ∧
        answer.record.KeepsCompiled answer.prompt r adapter) ∧
      (∀ id, choice.versionId = some id → id ≠ [] → answer.record.versionId = some id) ∧
      ∀ more, let s := (Activity.start.run (happenings ++ .compile c userId r choice :: more)).studio.store
        s.prompt answer.record.id none = .ok answer.record ∧
        s.prompt answer.record.id (some userId) = .ok answer.record ∧
        ∀ v ∈ s.snapshotsOf answer.record.id, v.TellsCompiled answer.prompt := by
  intro k
  refine ⟨fun _ hfails => Studio.store_compilePrompt_of_error hfails, ?_⟩
  intro answer hanswer
  have hkeeps := Studio.keepsPrompt_of_ok hanswer
  obtain ⟨adapter, hadapter, hkept⟩ := hkeeps.adapter
  refine ⟨⟨adapter, hadapter, hkept⟩, ?_, ?_⟩
  · intro id hchoice hne
    rw [hkept.versionId]
    exact Store.versionId_of_chosenAdapter hadapter hchoice hne
  · intro more s
    have hloaded : s.loadPrompt? answer.record.id = .ok (some answer.record) :=
      Activity.loadPrompt?_run_of_compiled happenings hanswer more
    refine ⟨Store.prompt_none_of_loadPrompt? hloaded, Store.prompt_eq_ok_iff.mpr ⟨hloaded, hkeeps.owner⟩, ?_⟩
    intro v hv
    obtain ⟨hstored, hparent⟩ := List.mem_filter.mp hv
    obtain ⟨record, hrecord, hmade⟩ := Activity.snapshotsTell_run _ v hstored
    rw [beq_iff_eq.mp hparent] at hrecord
    obtain rfl := Option.some.inj (hrecord.symm.trans (Store.loadPrompt?_eq_some_iff.mp hloaded).2.2)
    exact hkept.tellsCompiled hkeeps.seed hmade

/-- A context with one profile and a blueprint without blocks. -/
def Context.plain : Context :=
  { Context.small with catalog := (Compiler.ofProfile (.plain "base" [] 1000)).catalog }

def PromptRequest.filtered (key : Text) : PromptRequest :=
  { PromptRequest.plain [] none with filters := [(key, "x")] }

/-- Neither a blueprint of the user nor an adapter. -/
def CompileChoice.plain : CompileChoice :=
  ⟨none, none, none, false⟩

theorem textColumns_promptRecord_plain (number : Nat) (c : Context) (userId : Text) (r : PromptRequest)
    (prompt : CompiledPrompt) : (Studio.promptRecord number c userId r .plain none prompt).textColumns =
      [userId, r.profileId, r.blueprintId, prompt.seed, prompt.text] :=
  rfl

/-- A filter that is unknown does not keep a prompt from being compiled, whatever its name is. -/
theorem exists_compilePrompt_filtered (key : Text) : ∃ answer,
    (Studio.start.compilePrompt .plain "user" (.filtered key) .plain).1 = .ok answer ∧
      answer.record.filters = .ofJson (.ofEntries [(key, "x")]) := by
  let profile : Profile := .plain "base" [] 1000
  let compiler := Compiler.ofCatalog Context.plain.catalog
  let prompt := compiler.build profile .bare (.filtered key) none "s"
  have hparts : Compiler.assembled (compiler.draft profile .bare (.filtered key)) profile .bare (.filtered key) none =
      Compiler.joinParts [Text.ofString "base", systemInstructions] := by
    rw [Compiler.assembled, Compiler.rendered_draft_bare]
    rfl
  have htext : prompt.text.isEncodable = true := by
    refine Compiler.isEncodable_text_build (hparts ▸ Compiler.isEncodable_joinParts ?_)
    rw [List.forall_mem_cons, List.forall_mem_singleton]
    exact ⟨Text.isEncodable_ofString _, Text.isEncodable_ofString _⟩
  have hcompiled : (compiler.compile (.filtered key) none Context.plain.now.toMillis Studio.start.nextDraw).1 =
      .ok prompt := rfl
  refine ⟨_, Studio.compilePrompt_eq_ok rfl hcompiled ?_, rfl⟩
  rw [textColumns_promptRecord_plain]
  simp only [List.forall_mem_cons]
  exact ⟨Text.isEncodable_ofString _, Text.isEncodable_ofString _, Text.isEncodable_ofString _,
    Text.isEncodable_ofString _, htext, List.forall_mem_nil _⟩

/-- The first prompt is found with its filters, whatever goes on after it. -/
theorem first_prompt_is_kept : ∃ answer,
    (Studio.start.compilePrompt .plain "user" (.filtered "mood") .plain).1 = .ok answer ∧
      answer.record.text = answer.prompt.text ∧
      answer.record.filters = .ok (.ofEntries [("mood", "x")]) ∧
      ∀ more, (Activity.start.run (.compile .plain "user" (.filtered "mood") .plain :: more)).studio.store.prompt
        answer.record.id (some "user") = .ok answer.record := by
  obtain ⟨answer, hanswer, -⟩ := exists_compilePrompt_filtered "mood"
  obtain ⟨⟨_, -, hkept⟩, -, hlater⟩ :=
    (compiled_prompt_is_kept [] .plain "user" (.filtered "mood") .plain).2 answer hanswer
  have hfilters := (hkept.filters (by decide)).same (by decide)
  exact ⟨answer, hanswer, hkept.text, hfilters, fun more => (hlater more).2.1⟩

/-- The name of a filter that is made of the two halves of a surrogate pair. -/
def Text.halves : Text :=
  [.surrogate 0x3D, .surrogate 0x600]

theorem Text.joined_halves : halves.joined = "😀" := by
  decide +kernel

/-- Halves that stand side by side are kept as one character: the prompt is found with another filter than the one that
was chosen. -/
theorem halves_are_not_kept : ∃ answer,
    (Studio.start.compilePrompt .plain "user" (.filtered .halves) .plain).1 = .ok answer ∧
      ∃ found, (Activity.start.run [.compile .plain "user" (.filtered .halves) .plain]).studio.store.prompt
          answer.record.id none = .ok found ∧
        found.filters = .ok (.ofEntries [("😀", "x")]) ∧
        found.filters ≠ .ok (.ofEntries (PromptRequest.filtered .halves).filters) := by
  obtain ⟨answer, hanswer, hfilters⟩ := exists_compilePrompt_filtered .halves
  refine ⟨answer, hanswer, answer.record,
    Store.prompt_none_of_loadPrompt? (Activity.loadPrompt?_run_of_compiled [] hanswer []), ?_⟩
  have hjoined : answer.record.filters = .ok (.ofEntries [("😀", "x")]) := by
    rw [hfilters, Json.ofEntries, JsonColumn.ofJson_object, Json.joined_object]
    simp only [List.map_cons, List.map_nil, Text.joined_halves]
    rfl
  refine ⟨hjoined, fun hsame => ?_⟩
  have hmembers := Json.object.inj (Except.ok.inj (hjoined.symm.trans hsame))
  have hkeys : [Text.ofString "😀"] = [Text.halves] := congrArg (List.map Prod.fst) hmembers
  exact absurd hkeys (by decide)

end PromptStudio
