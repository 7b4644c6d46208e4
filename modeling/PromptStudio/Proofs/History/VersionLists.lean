import PromptStudio.Proofs.History.Definition

/-!
# Lists of versions

An insertion is refused if rows came since it counted, and then nothing is written; else it adds the row whose number is
the next one. So the lists of versions grow at the end only, and their numbers have no gap.
-/

namespace PromptStudio

namespace Studio

/-- How the insertion of a snapshot ends that counted on a prompt with so many: it fails if more came since, and else
adds the next one. -/
structure SnapshotRace (k : Studio) (c : Context) (record : PromptRecord) (counted : Nat) : Prop where
  bounded : counted ≤ (k.store.snapshotsOf record.id).length
  lost : counted < (k.store.snapshotsOf record.id).length →
    (k.finishSnapshot c record (counted + 1)).1 = .error (.fault .constraintViolated) ∧
      (k.finishSnapshot c record (counted + 1)).2.store = k.store
  won : counted = (k.store.snapshotsOf record.id).length →
    ∃ v, (k.finishSnapshot c record (counted + 1)).1 = .ok v ∧ v.promptId = record.id ∧ v.number = .int (counted + 1) ∧
      v.text = record.text ∧ (k.finishSnapshot c record (counted + 1)).2.store
        = { k.store with promptVersions := k.store.promptVersions ++ [v] }

/-- How a change of a blueprint ends that counted on so many versions: it fails if more came since, and then leaves the
head alone as well; else it adds the next one. What is not given is that of the loaded version. -/
structure VersionRace (k : Studio) (c : Context) (loaded : BlueprintAnswer) (changes : BlueprintChanges)
    (next : NextVersion) (counted : Nat) : Prop where
  number : next.number = counted + 1
  bounded : counted ≤ (k.store.blueprintVersionsOf loaded.blueprint.id).length
  lost : counted < (k.store.blueprintVersionsOf loaded.blueprint.id).length →
    (k.finishBlueprintUpdate c loaded changes (some next)).1 = .error (.fault .constraintViolated) ∧
      (k.finishBlueprintUpdate c loaded changes (some next)).2.store = k.store
  won : counted = (k.store.blueprintVersionsOf loaded.blueprint.id).length →
    ∃ head v, (k.finishBlueprintUpdate c loaded changes (some next)).1 = .ok ⟨head, v⟩ ∧
      v.blueprintId = loaded.blueprint.id ∧ v.number = .int (counted + 1) ∧
      v.blocks = (changes.blocks.map fun blocks => .ok (.ofTexts blocks)).getD loaded.version.blocks ∧
      v.constraints
        = (changes.constraints.map fun constraints => .ok (.ofTexts constraints)).getD loaded.version.constraints ∧
      (k.finishBlueprintUpdate c loaded changes (some next)).2.store
        = { k.store.updateBlueprint loaded.blueprint.id (loaded.blueprint.rewritten changes c.now) with
            blueprintVersions := k.store.blueprintVersions ++ [v] }

variable {k : Studio} {c : Context}

theorem PromptsSound.snapshotRace (h : k.PromptsSound) (c : Context) {record : PromptRecord}
    (hrecord : k.store.prompt? record.id = some record) {counted : Nat}
    (hbounded : counted ≤ (k.store.snapshotsOf record.id).length) : k.SnapshotRace c record counted := by
  obtain ⟨metadata, hmetadata⟩ := (h.whole record (List.mem_of_find?_eq_some hrecord)).metadata
  have htaken : Store.Taken PromptVersion.promptId PromptVersion.number k.store.promptVersions record.id
      (counted + 1) ↔ counted < (k.store.snapshotsOf record.id).length := by
    rw [h.numbers.taken_iff]
    change _ ∧ _ ≤ ((k.store.snapshotsOf record.id).length : Int) ↔ _
    omega
  refine ⟨hbounded, ?_, ?_⟩
  · intro hmore
    rw [k.finishSnapshot_of_taken c hmetadata (htaken.mpr hmore)]
    exact ⟨rfl, rfl⟩
  · intro hsame
    rw [k.finishSnapshot_of_free c hmetadata (mt htaken.mp (by omega))]
    exact ⟨_, rfl, rfl, rfl, rfl, rfl⟩

theorem BlueprintsSound.versionRace (h : k.BlueprintsSound) (c : Context) {loaded : BlueprintAnswer}
    {changes : BlueprintChanges} {next : NextVersion} (hcounted : k.store.Counted loaded changes next) {counted : Nat}
    (hnumber : next.number = counted + 1) : k.VersionRace c loaded changes next counted := by
  have hhead := Store.exists_writeHead (s := k.store) hcounted.bytes loaded.blueprint c.now
  have hhigh := hcounted.high
  have htaken : Store.Taken BlueprintVersion.blueprintId BlueprintVersion.number k.store.blueprintVersions
      loaded.blueprint.id next.number ↔ counted < (k.store.blueprintVersionsOf loaded.blueprint.id).length := by
    rw [h.numbers.taken_iff, hnumber]
    change _ ∧ _ ≤ ((k.store.blueprintVersionsOf loaded.blueprint.id).length : Int) ↔ _
    omega
  refine ⟨hnumber, by omega, ?_, ?_⟩
  · intro hmore
    rw [k.finishBlueprintUpdate_of_taken c hhead (htaken.mpr hmore)]
    exact ⟨rfl, rfl⟩
  · intro hsame
    obtain ⟨head, hends⟩ := k.finishBlueprintUpdate_of_free c hhead (mt htaken.mp (by omega))
    rw [hends]
    refine ⟨head, _, rfl, rfl, congrArg Cell.int hnumber, ?_, ?_, rfl⟩
    · cases hgiven : changes.blocks with
      | some blocks =>
          rw [NextVersion.row, hcounted.givenBlocks blocks hgiven]
          rfl
      | none => exact (hcounted.keptBlocks hgiven).symm
    · cases hgiven : changes.constraints with
      | some constraints =>
          rw [NextVersion.row, hcounted.givenConstraints constraints hgiven]
          rfl
      | none => exact (hcounted.keptConstraints hgiven).symm

end Studio

namespace Activity

variable {happenings : List Happening}

theorem once_mono {P Q : Activity → Prop} (h : Once happenings P) (hmono : ∀ τ, τ.HistorySound → P τ → Q τ) :
    Once happenings Q := by
  obtain ⟨before, hbefore, hthen⟩ := h
  exact ⟨before, hbefore, hmono _ (historySound_run before) hthen⟩

theorem snapshotRace {place : Nat} {record : PromptRecord} {n : Int}
    (hplace : (start.run happenings).writings[place]? = some (.numbered record n)) (c : Context) :
    ∃ counted : Nat, n = counted + 1 ∧
      Once happenings (fun τ => counted = (τ.studio.store.snapshotsOf record.id).length) ∧
      (start.run happenings).studio.SnapshotRace c record counted := by
  have hsound := historySound_run happenings
  obtain ⟨hrecord, -, hhigh⟩ := hsound.allowed place _ hplace
  obtain ⟨before, hbefore, hn⟩ := once_counts hplace
  have hn : n = (((start.run before).studio.store.snapshotsOf record.id).length : Int) + 1 := hn
  exact ⟨_, hn, ⟨before, hbefore, rfl⟩, hsound.studio.prompts.snapshotRace c hrecord (by omega)⟩

/-- What a version that is about to be inserted counted, and what it changes, was there at some moment before. -/
theorem versionRace {place : Nat} {loaded : BlueprintAnswer} {changes : BlueprintChanges} {next : NextVersion}
    (hplace : (start.run happenings).writings[place]? = some (.counted loaded changes (some next))) (c : Context) :
    Once happenings (fun τ => (∃ id userId, τ.studio.store.blueprintWithLatest id userId = .ok loaded) ∧
        loaded.version.number = .int (τ.studio.store.blueprintVersionsOf loaded.blueprint.id).length) ∧
      ∃ counted : Nat, Once happenings (fun τ =>
          counted = (τ.studio.store.blueprintVersionsOf loaded.blueprint.id).length) ∧
        (start.run happenings).studio.VersionRace c loaded changes next counted := by
  have hsound := historySound_run happenings
  obtain ⟨hfound, hcounted⟩ := hsound.allowed place _ hplace
  obtain ⟨hmem, hparent⟩ := List.mem_filter.mp hfound.version
  have hwhole := hsound.studio.blueprints.whole _ hmem
  constructor
  · refine once_mono (once_reads hplace) ?_
    rintro τ hτ ⟨id, userId, hloaded⟩
    obtain ⟨hid, -, hnumber⟩ := Store.found_of_blueprintWithLatest hτ.studio.blueprints hloaded
    exact ⟨⟨id, userId, hloaded⟩, hid ▸ hnumber⟩
  · obtain ⟨before, hbefore, c', hnext⟩ := once_counts hplace
    obtain ⟨hnumber, -⟩ := Store.nextVersion?_eq_some (beq_iff_eq.mp hparent) hwhole hnext
    exact ⟨_, ⟨before, hbefore, rfl⟩, hsound.studio.blueprints.versionRace c (hcounted next rfl) hnumber⟩

end Activity

/-- At every moment of every run of all operations, in any interleaving: the snapshots of a prompt and the versions of a
blueprint are numbered from one without a gap, in the order in which they came, and whatever goes on later, these rows
stay as they are. An insertion whose number was counted at some earlier moment fails on the constraint if rows came
since, and nothing is written then, the head of a blueprint included; else it adds the next row, which takes what is not
given from the version that was the latest when it was loaded. The owner of a blueprint compiles the head with the
blocks and constraints of the version with the highest number. -/
theorem version_lists_are_gapless_and_only_grow (happenings : List Happening) :
    let σ := Activity.start.run happenings
    let s := σ.studio.store
    (∀ id, (s.snapshotsOf id).map (·.number) = Store.numbersTo (s.snapshotsOf id).length) ∧
    (∀ id, (s.blueprintVersionsOf id).map (·.number) = Store.numbersTo (s.blueprintVersionsOf id).length) ∧
    (∀ more, s.promptVersions <+: (σ.run more).studio.store.promptVersions ∧
      s.blueprintVersions <+: (σ.run more).studio.store.blueprintVersions) ∧
    (∀ (place : Nat) record n c, σ.writings[place]? = some (.numbered record n) →
      ∃ counted : Nat, n = counted + 1 ∧
        Activity.Once happenings (fun τ => counted = (τ.studio.store.snapshotsOf record.id).length) ∧
        σ.studio.SnapshotRace c record counted) ∧
    (∀ (place : Nat) loaded changes next c, σ.writings[place]? = some (.counted loaded changes (some next)) →
      Activity.Once happenings (fun τ => (∃ id userId, τ.studio.store.blueprintWithLatest id userId = .ok loaded) ∧
        loaded.version.number = .int (τ.studio.store.blueprintVersionsOf loaded.blueprint.id).length) ∧
      ∃ counted : Nat, Activity.Once happenings (fun τ =>
          counted = (τ.studio.store.blueprintVersionsOf loaded.blueprint.id).length) ∧
        σ.studio.VersionRace c loaded changes next counted) ∧
    (∀ id userId b, s.ownedBlueprint id userId = .ok b →
      ∃ v blocks constraints, s.Latest id v blocks constraints ∧
        s.blueprintDefinition id userId = .ok (b.definition blocks constraints)) ∧
    (∀ c userId r choice id answer, choice.userBlueprintId = some id → id ≠ [] →
      (σ.studio.compilePrompt c userId r choice).1 = .ok answer →
      ∃ b v blocks constraints p adapter seed, s.ownedBlueprint id userId = .ok b ∧ s.Latest id v blocks constraints ∧
        answer.prompt = ((Compiler.ofCatalog c.catalog).register (b.definition blocks constraints)).build p
          (b.definition blocks constraints) { r with blueprintId := id } adapter seed) := by
  intro σ s
  have hsound : σ.HistorySound := Activity.historySound_run happenings
  refine ⟨hsound.studio.prompts.numbers, hsound.studio.blueprints.numbers, ?_, ?_, ?_, ?_, ?_⟩
  · intro more
    have hgrows : s.Grows (σ.run more).studio.store := Activity.grows_run more
    exact ⟨hgrows.promptVersions, hgrows.blueprintVersions⟩
  · intro place record n c hplace
    exact Activity.snapshotRace hplace c
  · intro place loaded changes next c hplace
    exact Activity.versionRace hplace c
  · intro id userId b howned
    exact hsound.studio.blueprints.blueprintDefinition howned
  · intro c userId r choice id answer hchoice hne hanswer
    exact hsound.studio.blueprints.compilePrompt_eq_ok hchoice hne hanswer

def Writing.version? : Writing → Option (BlueprintAnswer × BlueprintChanges × NextVersion)
  | .snapshot _ => none
  | .numbered _ _ => none
  | .change _ _ => none
  | .counted loaded changes next => next.map fun n => (loaded, changes, n)
  | .ended => none

theorem Writing.version?_eq_some {w : Writing} {waiting : BlueprintAnswer × BlueprintChanges × NextVersion}
    (h : w.version? = some waiting) : w = .counted waiting.1 waiting.2.1 (some waiting.2.2) := by
  cases w with
  | counted loaded changes next =>
      obtain ⟨n, rfl, rfl⟩ := Option.map_eq_some_iff.mp h
      rfl
  | snapshot | numbered | change | ended => cases h

def Context.oneBlock : Context :=
  { Context.small with
    catalog := { Context.small.catalog with
      blocks := [("style", { key := "style", label := "Style", template := "Style", type := .style })] } }

/-- A run in which two changes of one blueprint count before the first of them inserts. -/
def Activity.racing : List Happening :=
  let changes : BlueprintChanges := ⟨none, none, none, none, none, none, none, some ["calm"]⟩
  [.createBlueprint .oneBlock "ada" ⟨"Mine", "own", ["style"], ["soft"], none, none, none⟩,
    .change "bp-1" "ada" changes, .change "bp-1" "ada" changes, .count 0 .oneBlock, .count 1 .oneBlock,
    .insert 0 .oneBlock]

/-- The second change is lost. -/
theorem second_change_loses_the_race :
    ∃ loaded changes next, (Activity.start.run Activity.racing).writings[1]? = some (.counted loaded changes (some next)) ∧
      ((Activity.start.run Activity.racing).studio.finishBlueprintUpdate .oneBlock loaded changes (some next)).1
        = .error (.fault .constraintViolated) := by
  obtain ⟨-, -, -, -, hraces, -⟩ := version_lists_are_gapless_and_only_grow Activity.racing
  have hwaits : (((Activity.start.run Activity.racing).writings[1]?.bind Writing.version?).any fun waiting =>
      decide (waiting.2.2.number = 2 ∧ waiting.1.blueprint.id = ("bp-1" : Text))) = true := by
    decide +kernel
  obtain ⟨⟨loaded, changes, next⟩, hwaiting, hcounts⟩ := (Option.any_eq_true _ _).mp hwaits
  obtain ⟨w, hplace, hversion⟩ := Option.bind_eq_some_iff.mp hwaiting
  obtain rfl := Writing.version?_eq_some hversion
  obtain ⟨hnumber, hid⟩ : next.number = 2 ∧ loaded.blueprint.id = ("bp-1" : Text) := of_decide_eq_true hcounts
  obtain ⟨-, counted, -, hrace⟩ := hraces 1 loaded changes next .oneBlock hplace
  have hmore : ((Activity.start.run Activity.racing).studio.store.blueprintVersionsOf "bp-1").length = 2 := by
    decide +kernel
  have hcounted := hrace.number
  refine ⟨loaded, changes, next, hplace, (hrace.lost ?_).1⟩
  rw [hid, hmore]
  omega

end PromptStudio
