import PromptStudio.Proofs.History.Activity
import PromptStudio.Proofs.History.Load

/-!
# Numbered versions

The snapshots of a prompt and the versions of a blueprint are only added, and their numbers are counted before they are
inserted. The invariant has a part for the rows and a part for each writing that is under way. What was found for a
writing is still stored, since no row of these tables goes; and a number that was counted is at most the next one, since
there are never fewer rows than were counted. With the constraint on parent and number this leaves no gap.
-/

namespace PromptStudio

/-! ### Heads and contents -/

theorem UserBlueprint.loads_iff {b : UserBlueprint} :
    b.Loads ↔ (∃ tags, b.tags = .ok tags) ∧ (∃ profiles, b.compatibleProfiles = .ok profiles) ∧
      (∃ created, b.createdAt.load = .ok created) ∧ ∃ updated, b.updatedAt.load = .ok updated := by
  rw [Loads, load]
  simp only [bind_eq_ok, pure_eq_ok]
  constructor
  · rintro ⟨tags, htags, profiles, hprofiles, created, hcreated, updated, hupdated, -⟩
    exact ⟨⟨tags, htags⟩, ⟨profiles, hprofiles⟩, ⟨created, hcreated⟩, updated, hupdated⟩
  · rintro ⟨⟨tags, htags⟩, ⟨profiles, hprofiles⟩, ⟨created, hcreated⟩, updated, hupdated⟩
    exact ⟨tags, htags, profiles, hprofiles, created, hcreated, updated, hupdated, trivial⟩

theorem JsonColumn.exists_getD_ofTexts {column : JsonColumn} (h : ∃ v, column = .ok v) (given : Option (List Text)) :
    ∃ v, (given.map fun ts => .ok (.ofTexts ts)).getD column = .ok v := by
  cases given with
  | none => exact h
  | some ts => exact ⟨.ofTexts ts, rfl⟩

theorem UserBlueprint.Loads.rewritten {b : UserBlueprint} (h : b.Loads) (loaded : UserBlueprint)
    (changes : BlueprintChanges) (now : Instant) : (loaded.rewritten changes now b).Loads := by
  rw [UserBlueprint.rewritten]
  split
  · obtain ⟨htags, hprofiles, hcreated, _⟩ := loads_iff.mp h
    exact loads_iff.mpr ⟨JsonColumn.exists_getD_ofTexts htags _, JsonColumn.exists_getD_ofTexts hprofiles _, hcreated,
      ⟨_, rfl⟩⟩
  · exact h

theorem Json.allTexts?_map_string (texts : List Text) : allTexts? (texts.map .string) = some texts := by
  rw [allTexts?]
  induction texts with
  | nil => rfl
  | cons t rest ih =>
      rw [List.map_cons, List.mapM_cons, ih]
      rfl

theorem JsonColumn.listed_ofTexts (texts : List Text) (orNone : Bool) :
    JsonColumn.listed (.ok (.ofTexts texts)) orNone = .ok (texts.map .string) := by
  rw [listed]
  split
  · rename_i hnothing
    rw [Bool.and_eq_true, Bool.not_eq_true'] at hnothing
    have hempty : texts.map Json.string = [] := by
      simpa [value, Except.toOption, Json.ofTexts, Json.isTruthy] using hnothing.2
    rw [hempty]
  · rfl

theorem Catalog.blockKeys_eq_ok {c : Catalog} {values : List Json} {blocks : List Text}
    (h : c.blockKeys values = .ok blocks) : Json.allTexts? values = some blocks := by
  rw [blockKeys] at h
  split at h
  · rename_i texts htexts
    obtain ⟨_, _, h⟩ := bind_eq_ok.mp h
    rw [pure_eq_ok] at h
    rw [htexts, h]
  · exact absurd h throw_ne_ok

/-! ### Writings that are under way -/

namespace Store

/-- The blueprint that was found is stored, and so is the version that was its latest. -/
structure Found (s : Store) (loaded : BlueprintAnswer) : Prop where
  head : (s.blueprint? loaded.blueprint.id).isSome = true
  version : loaded.version ∈ s.blueprintVersionsOf loaded.blueprint.id

/-- A version that was counted for a change: its number is at most the next one, and of its content, what the change
does not give is that of the version that was found. -/
structure Counted (s : Store) (loaded : BlueprintAnswer) (changes : BlueprintChanges) (next : NextVersion) : Prop where
  low : 1 ≤ next.number
  high : next.number ≤ (s.blueprintVersionsOf loaded.blueprint.id).length + 1
  bytes : Text.bindAll changes.headTexts = .ok ()
  givenBlocks : ∀ blocks, changes.blocks = some blocks → next.blocks = blocks
  keptBlocks : changes.blocks = none → loaded.version.blocks = .ok (.ofTexts next.blocks)
  givenConstraints : ∀ constraints, changes.constraints = some constraints → next.constraints = constraints.map .string
  keptConstraints : changes.constraints = none → loaded.version.constraints = .ok (.array next.constraints)
  texts : ∃ constraints : List Text, next.constraints = constraints.map .string

/-- What holds of a writing that is under way. -/
def Allows (s : Store) : Writing → Prop
  | .snapshot record => s.prompt? record.id = some record
  | .numbered record n => s.prompt? record.id = some record ∧ 1 ≤ n ∧ n ≤ (s.snapshotsOf record.id).length + 1
  | .change loaded _ => s.Found loaded
  | .counted loaded changes next => s.Found loaded ∧ ∀ n, next = some n → s.Counted loaded changes n
  | .ended => True

variable {s s' : Store}

/-- Of a version whose blocks and constraints are texts, the next one has those that are given, and else the same. -/
theorem nextVersion?_eq {c : Catalog} {loaded : BlueprintVersion} {changes : BlueprintChanges}
    {blocks constraints : List Text} (hblocks : loaded.blocks = .ok (.ofTexts blocks))
    (hconstraints : loaded.constraints = .ok (.ofTexts constraints)) :
    s.nextVersion? c loaded changes =
      if changes.blocks.isNone && changes.constraints.isNone then .ok none
      else do
        let keys ← c.blockKeys ((changes.blocks.getD blocks).map .string)
        Text.bindAll changes.headTexts
        return some ⟨s.nextBlueprintNumber loaded.blueprintId, keys,
          (changes.constraints.getD constraints).map .string⟩ := by
  have hlistedBlocks : loaded.blocks.listed false = .ok (blocks.map .string) := by
    rw [hblocks, JsonColumn.listed_ofTexts]
  have hlistedConstraints : loaded.constraints.listed false = .ok (constraints.map .string) := by
    rw [hconstraints, JsonColumn.listed_ofTexts]
  rw [nextVersion?]
  cases changes.blocks <;> cases changes.constraints
  · rfl
  · rw [hlistedBlocks]
    rfl
  · rw [hlistedConstraints]
    rfl
  · rfl

theorem nextVersion?_eq_some {c : Catalog} {loaded : BlueprintAnswer} {changes : BlueprintChanges} {next : NextVersion}
    (hparent : loaded.version.blueprintId = loaded.blueprint.id) (hwhole : loaded.version.Whole)
    (h : s.nextVersion? c loaded.version changes = .ok (some next)) :
    next.number = (s.blueprintVersionsOf loaded.blueprint.id).length + 1 ∧ s.Counted loaded changes next := by
  obtain ⟨⟨blocks, hblocks⟩, ⟨constraints, hconstraints⟩, -⟩ := hwhole
  rw [nextVersion?_eq hblocks hconstraints] at h
  split at h
  · cases h
  · obtain ⟨keys, hkeys, h⟩ := bind_eq_ok.mp h
    obtain ⟨_, hbytes, h⟩ := bind_eq_ok.mp h
    rw [pure_eq_ok, Option.some.injEq] at h
    subst h
    have hgiven := Catalog.blockKeys_eq_ok hkeys
    rw [Json.allTexts?_map_string, Option.some.injEq] at hgiven
    subst hgiven
    have hnumber : s.nextBlueprintNumber loaded.version.blueprintId
        = (s.blueprintVersionsOf loaded.blueprint.id).length + 1 := by
      rw [hparent, nextBlueprintNumber]
    refine ⟨hnumber, ?_, Int.le_of_eq hnumber, liftFault_eq_ok.mp hbytes, ?_, ?_, ?_, ?_, _, rfl⟩
    · dsimp only
      rw [hnumber]
      omega
    · intro given hsome
      rw [hsome]
      rfl
    · intro hnone
      rw [hnone, hblocks]
      rfl
    · intro given hsome
      rw [hsome]
      rfl
    · intro hnone
      rw [hnone, hconstraints]
      rfl

/-! ### What no step takes away -/

/-- Rows are only added, but for heads, which are rewritten and keep id and user. -/
structure Grows (s s' : Store) : Prop where
  prompts : s.prompts <+: s'.prompts
  promptVersions : s.promptVersions <+: s'.promptVersions
  blueprints : s.blueprints.map (fun b => (b.id, b.userId)) <+: s'.blueprints.map fun b => (b.id, b.userId)
  blueprintVersions : s.blueprintVersions <+: s'.blueprintVersions

theorem Grows.refl (s : Store) : s.Grows s :=
  ⟨List.prefix_refl _, List.prefix_refl _, List.prefix_refl _, List.prefix_refl _⟩

theorem Grows.trans {s₁ s₂ s₃ : Store} (h : s₁.Grows s₂) (h' : s₂.Grows s₃) : s₁.Grows s₃ :=
  ⟨h.prompts.trans h'.prompts, h.promptVersions.trans h'.promptVersions, h.blueprints.trans h'.blueprints,
    h.blueprintVersions.trans h'.blueprintVersions⟩

theorem isSome_blueprint?_iff {id : Text} :
    (s.blueprint? id).isSome = true ↔ ∃ userId, (id, userId) ∈ s.blueprints.map fun b => (b.id, b.userId) := by
  rw [blueprint?, List.find?_isSome]
  constructor
  · rintro ⟨b, hb, hid⟩
    exact ⟨b.userId, List.mem_map.mpr ⟨b, hb, by rw [beq_iff_eq.mp hid]⟩⟩
  · rintro ⟨userId, hmem⟩
    obtain ⟨b, hb, hpair⟩ := List.mem_map.mp hmem
    exact ⟨b, hb, beq_iff_eq.mpr (Prod.mk.inj hpair).1⟩

namespace Grows

variable (h : s.Grows s')

include h

theorem prompt?_eq_some {id : Text} {p : PromptRecord} (hfound : s.prompt? id = some p) : s'.prompt? id = some p := by
  obtain ⟨more, hmore⟩ := h.prompts
  rw [prompt?, ← hmore]
  exact find?_append_of_eq_some hfound

theorem isSome_blueprint? {id : Text} (hfound : (s.blueprint? id).isSome = true) :
    (s'.blueprint? id).isSome = true := by
  rw [isSome_blueprint?_iff] at hfound ⊢
  obtain ⟨userId, hmem⟩ := hfound
  exact ⟨userId, h.blueprints.subset hmem⟩

theorem length_snapshotsOf_le (id : Text) : (s.snapshotsOf id).length ≤ (s'.snapshotsOf id).length :=
  (h.promptVersions.filter _).length_le

theorem blueprintVersionsOf_prefix (id : Text) : s.blueprintVersionsOf id <+: s'.blueprintVersionsOf id :=
  h.blueprintVersions.filter _

/-- What was found for a writing stays found, and what was counted is still at most the next number. -/
theorem allows {w : Writing} (hallows : s.Allows w) : s'.Allows w := by
  have hfound {loaded : BlueprintAnswer} (hold : s.Found loaded) : s'.Found loaded :=
    ⟨h.isSome_blueprint? hold.head, (h.blueprintVersionsOf_prefix _).subset hold.version⟩
  cases w with
  | snapshot record => exact h.prompt?_eq_some hallows
  | numbered record n =>
      obtain ⟨hrecord, hlow, hhigh⟩ := hallows
      have hmore := h.length_snapshotsOf_le record.id
      exact ⟨h.prompt?_eq_some hrecord, hlow, by omega⟩
  | change loaded changes => exact hfound hallows
  | counted loaded changes next =>
      refine ⟨hfound hallows.1, ?_⟩
      intro n hn
      have hcounted := hallows.2 n hn
      have hmore := (h.blueprintVersionsOf_prefix loaded.blueprint.id).length_le
      have hhigh := hcounted.high
      exact { hcounted with high := by omega }
  | ended => trivial

end Grows

theorem map_updateBlueprint (s : Store) (loaded : UserBlueprint) (changes : BlueprintChanges) (now : Instant) :
    (s.updateBlueprint loaded.id (loaded.rewritten changes now)).blueprints.map (fun b => (b.id, b.userId))
      = s.blueprints.map fun b => (b.id, b.userId) :=
  map_updateWhere (fun b : UserBlueprint => (b.id, b.userId)) _ _ (fun b => by simp) _

theorem blueprint?_updateBlueprint (s : Store) (loaded : UserBlueprint) (changes : BlueprintChanges) (now : Instant)
    (id : Text) :
    (s.updateBlueprint loaded.id (loaded.rewritten changes now)).blueprint? id
      = (s.blueprint? id).map fun b => if b.id == loaded.id then loaded.rewritten changes now b else b :=
  find?_updateWhere UserBlueprint.id (·.id == loaded.id) _ (fun b => by simp) s.blueprints id

theorem isSome_blueprint?_updateBlueprint (s : Store) (loaded : UserBlueprint) (changes : BlueprintChanges)
    (now : Instant) (id : Text) :
    ((s.updateBlueprint loaded.id (loaded.rewritten changes now)).blueprint? id).isSome = (s.blueprint? id).isSome := by
  rw [blueprint?_updateBlueprint, Option.isSome_map]

end Store

namespace Studio

variable {k k' : Studio}

theorem SameHistory.grows (hsame : k.SameHistory k') : k.store.Grows k'.store where
  prompts := hsame.prompts ▸ List.prefix_refl _
  promptVersions := hsame.promptVersions ▸ List.prefix_refl _
  blueprints := hsame.blueprints ▸ List.prefix_refl _
  blueprintVersions := hsame.blueprintVersions ▸ List.prefix_refl _

theorem Writes.grows {writings : List Writing} (h : k.Writes writings k') : k.store.Grows k'.store := by
  have hsame := Store.Grows.refl k.store
  cases h with
  | nothing hstore _ => rw [hstore]; exact hsame
  | prompt p _ _ hstore _ =>
      rw [hstore]
      exact { hsame with prompts := List.prefix_append _ _ }
  | snapshot _ _ _ _ _ hstore _ =>
      rw [hstore]
      exact { hsame with promptVersions := List.prefix_append _ _ }
  | blueprint b v _ _ _ _ _ hstore _ =>
      rw [hstore]
      refine { hsame with blueprints := ?_, blueprintVersions := List.prefix_append _ _ }
      rw [List.map_append]
      exact List.prefix_append _ _
  | @head _ loaded changes _ now hstore _ =>
      rw [hstore]
      exact { hsame with blueprints := Store.map_updateBlueprint .. ▸ List.prefix_refl _ }
  | @version _ loaded changes _ _ _ now _ hstore _ =>
      rw [hstore]
      have hheads := Store.map_updateBlueprint k.store loaded.blueprint changes now
      exact { hsame with blueprints := hheads ▸ List.prefix_refl _, blueprintVersions := List.prefix_append _ _ }

end Studio

/-! ### What holds of the rows -/

structure Studio.PromptsSound (k : Studio) : Prop where
  ids : Numbered "prompt" k.issued.prompts (k.store.prompts.map (·.id))
  whole : ∀ p ∈ k.store.prompts, p.Whole
  numbers : Store.Gapless PromptVersion.promptId PromptVersion.number k.store.promptVersions
  parents : ∀ v ∈ k.store.promptVersions, (k.store.prompt? v.promptId).isSome = true

structure Studio.BlueprintsSound (k : Studio) : Prop where
  ids : Numbered "bp" k.issued.blueprints (k.store.blueprints.map (·.id))
  heads : ∀ b ∈ k.store.blueprints, b.Loads
  whole : ∀ v ∈ k.store.blueprintVersions, v.Whole
  numbers : Store.Gapless BlueprintVersion.blueprintId BlueprintVersion.number k.store.blueprintVersions
  parents : ∀ v ∈ k.store.blueprintVersions, (k.store.blueprint? v.blueprintId).isSome = true
  begun : ∀ id, (k.store.blueprint? id).isSome = true → k.store.blueprintVersionsOf id ≠ []

namespace Studio

variable {k k' : Studio}

/-! ### Prompts -/

namespace PromptsSound

theorem start : Studio.start.PromptsSound where
  ids := .nil _ _
  whole := by simp [Studio.start, Store.empty]
  numbers := .nil
  parents := by simp [Studio.start, Store.empty]

theorem of_same (h : k.PromptsSound) (hprompts : k'.store.prompts = k.store.prompts)
    (hversions : k'.store.promptVersions = k.store.promptVersions) (hcount : k.issued.prompts ≤ k'.issued.prompts) :
    k'.PromptsSound where
  ids := by
    rw [hprompts]
    exact h.ids.mono hcount
  whole := by
    rw [hprompts]
    exact h.whole
  numbers := by
    rw [hversions]
    exact h.numbers
  parents := by
    intro v hv
    rw [hversions] at hv
    rw [Store.prompt?, hprompts]
    exact h.parents v hv

theorem pushPrompt (h : k.PromptsSound) {p : PromptRecord} (hid : p.id = rowId "prompt" (k.issued.prompts + 1))
    (hwhole : p.Whole) (hprompts : k'.store.prompts = k.store.prompts ++ [p])
    (hversions : k'.store.promptVersions = k.store.promptVersions)
    (hcount : k'.issued.prompts = k.issued.prompts + 1) : k'.PromptsSound where
  ids := by
    rw [hprompts, hcount, List.map_append, List.map_singleton, hid]
    exact h.ids.push
  whole := by
    intro q hq
    rw [hprompts, List.mem_append, List.mem_singleton] at hq
    rcases hq with hold | rfl
    · exact h.whole q hold
    · exact hwhole
  numbers := by
    rw [hversions]
    exact h.numbers
  parents := by
    intro v hv
    rw [hversions] at hv
    obtain ⟨parent, hparent⟩ := Option.isSome_iff_exists.mp (h.parents v hv)
    rw [Store.prompt?, hprompts, Store.find?_append_of_eq_some hparent]
    rfl

/-- A snapshot that was counted, and whose number is free, may be added. -/
theorem pushSnapshot (h : k.PromptsSound) {v : PromptVersion} {n : Int} (hnumber : v.number = .int n)
    (hallows : ∃ record, k.store.prompt? v.promptId = some record ∧ 1 ≤ n ∧
      n ≤ (k.store.snapshotsOf v.promptId).length + 1)
    (hfree : ¬ Store.Taken PromptVersion.promptId PromptVersion.number k.store.promptVersions v.promptId n)
    (hprompts : k'.store.prompts = k.store.prompts)
    (hversions : k'.store.promptVersions = k.store.promptVersions ++ [v])
    (hcount : k.issued.prompts ≤ k'.issued.prompts) : k'.PromptsSound := by
  obtain ⟨record, hrecord, hlow, hhigh⟩ := hallows
  refine ⟨?_, ?_, ?_, ?_⟩
  · rw [hprompts]
    exact h.ids.mono hcount
  · rw [hprompts]
    exact h.whole
  · rw [hversions]
    exact h.numbers.push hnumber hlow hhigh hfree
  · intro u hu
    rw [Store.prompt?, hprompts]
    rw [hversions, List.mem_append, List.mem_singleton] at hu
    rcases hu with hold | rfl
    · exact h.parents u hold
    · exact Option.isSome_iff_exists.mpr ⟨record, hrecord⟩

end PromptsSound

/-! ### Blueprints -/

namespace BlueprintsSound

theorem start : Studio.start.BlueprintsSound where
  ids := .nil _ _
  heads := by simp [Studio.start, Store.empty]
  whole := by simp [Studio.start, Store.empty]
  numbers := .nil
  parents := by simp [Studio.start, Store.empty]
  begun := by simp [Studio.start, Store.empty, Store.blueprint?]

theorem of_same (h : k.BlueprintsSound) (hblueprints : k'.store.blueprints = k.store.blueprints)
    (hversions : k'.store.blueprintVersions = k.store.blueprintVersions)
    (hcount : k.issued.blueprints ≤ k'.issued.blueprints) : k'.BlueprintsSound where
  ids := by
    rw [hblueprints]
    exact h.ids.mono hcount
  heads := by
    rw [hblueprints]
    exact h.heads
  whole := by
    rw [hversions]
    exact h.whole
  numbers := by
    rw [hversions]
    exact h.numbers
  parents := by
    intro v hv
    rw [hversions] at hv
    rw [Store.blueprint?, hblueprints]
    exact h.parents v hv
  begun := by
    intro id hid
    rw [Store.blueprint?, hblueprints] at hid
    rw [Store.blueprintVersionsOf, hversions]
    exact h.begun id hid

theorem pushBlueprint (h : k.BlueprintsSound) {b : UserBlueprint} {v : BlueprintVersion}
    (hid : b.id = rowId "bp" (k.issued.blueprints + 1)) (hparent : v.blueprintId = b.id)
    (hnumber : v.number = .int 1) (hloads : b.Loads) (hwhole : v.Whole)
    (hblueprints : k'.store.blueprints = k.store.blueprints ++ [b])
    (hversions : k'.store.blueprintVersions = k.store.blueprintVersions ++ [v])
    (hcount : k'.issued.blueprints = k.issued.blueprints + 1) (hgrows : k.store.Grows k'.store) :
    k'.BlueprintsSound := by
  have hnone : Store.under BlueprintVersion.blueprintId k.store.blueprintVersions v.blueprintId = [] := by
    rw [Store.under, List.filter_eq_nil_iff]
    intro u hu hsame
    have hstored := h.parents u hu
    rw [beq_iff_eq.mp hsame, hparent, hid, Store.blueprint?, h.ids.find?_next] at hstored
    cases hstored
  refine ⟨?_, ?_, ?_, ?_, ?_, ?_⟩
  · rw [hblueprints, hcount, List.map_append, List.map_singleton, hid]
    exact h.ids.push
  · intro c hc
    rw [hblueprints, List.mem_append, List.mem_singleton] at hc
    rcases hc with hold | rfl
    · exact h.heads c hold
    · exact hloads
  · intro u hu
    rw [hversions, List.mem_append, List.mem_singleton] at hu
    rcases hu with hold | rfl
    · exact h.whole u hold
    · exact hwhole
  · rw [hversions]
    refine h.numbers.push hnumber (Int.le_refl 1) ?_ ?_
    · rw [hnone]
      exact Int.le_refl 1
    · rintro ⟨u, hu, _⟩
      rw [hnone] at hu
      cases hu
  · intro u hu
    rw [hversions, List.mem_append, List.mem_singleton] at hu
    rcases hu with hold | rfl
    · exact hgrows.isSome_blueprint? (h.parents u hold)
    · rw [Store.blueprint?, hblueprints, List.find?_isSome]
      exact ⟨b, List.mem_append_right _ (List.mem_singleton_self b), beq_iff_eq.mpr hparent.symm⟩
  · intro id hsome
    rw [Store.blueprint?, hblueprints, List.find?_isSome] at hsome
    obtain ⟨c, hc, hsame⟩ := hsome
    rw [Store.blueprintVersionsOf, hversions, List.filter_append]
    rcases List.mem_append.mp hc with hold | hnew
    · refine List.append_ne_nil_of_left_ne_nil (h.begun id ?_) _
      rw [Store.blueprint?, List.find?_isSome]
      exact ⟨c, hold, hsame⟩
    · rw [List.mem_singleton.mp hnew] at hsame
      refine List.append_ne_nil_of_right_ne_nil _ ?_
      have hkept : [v].filter (·.blueprintId == id) = [v] := by
        refine List.filter_cons_of_pos ?_
        rw [hparent]
        exact hsame
      rw [hkept]
      exact List.cons_ne_nil _ _

theorem rewrite (h : k.BlueprintsSound) (loaded : UserBlueprint) (changes : BlueprintChanges) (now : Instant) :
    (k.withStore (k.store.updateBlueprint loaded.id (loaded.rewritten changes now))).BlueprintsSound := by
  have hkeys := Store.map_updateBlueprint k.store loaded changes now
  have hids := congrArg (List.map Prod.fst) hkeys
  rw [List.map_map, List.map_map] at hids
  have hfound (id : Text) := k.store.isSome_blueprint?_updateBlueprint loaded changes now id
  refine ⟨?_, ?_, h.whole, h.numbers, ?_, ?_⟩
  · change Numbered "bp" k.issued.blueprints ((k.store.updateBlueprint _ _).blueprints.map _)
    exact hids ▸ h.ids
  · intro b hb
    obtain ⟨old, hold, rfl⟩ := Store.mem_updateWhere.mp hb
    split
    · exact (h.heads old hold).rewritten loaded changes now
    · exact h.heads old hold
  · intro v hv
    exact (hfound _).trans (h.parents v hv)
  · intro id hid
    exact h.begun id ((hfound id).symm.trans hid)

/-- A version that was counted, and whose number is free, may be added. -/
theorem pushVersion (h : k.BlueprintsSound) {v : BlueprintVersion} {n : Int} (hnumber : v.number = .int n)
    (hlow : 1 ≤ n) (hhigh : n ≤ (k.store.blueprintVersionsOf v.blueprintId).length + 1)
    (hfree : ¬ Store.Taken BlueprintVersion.blueprintId BlueprintVersion.number k.store.blueprintVersions v.blueprintId n)
    (hparent : (k.store.blueprint? v.blueprintId).isSome = true) (hwhole : v.Whole)
    (hblueprints : k'.store.blueprints = k.store.blueprints)
    (hversions : k'.store.blueprintVersions = k.store.blueprintVersions ++ [v])
    (hcount : k.issued.blueprints ≤ k'.issued.blueprints) : k'.BlueprintsSound where
  ids := by
    rw [hblueprints]
    exact h.ids.mono hcount
  heads := by
    rw [hblueprints]
    exact h.heads
  whole := by
    intro u hu
    rw [hversions, List.mem_append, List.mem_singleton] at hu
    rcases hu with hold | rfl
    · exact h.whole u hold
    · exact hwhole
  numbers := by
    rw [hversions]
    exact h.numbers.push hnumber hlow hhigh hfree
  parents := by
    intro u hu
    rw [Store.blueprint?, hblueprints]
    rw [hversions, List.mem_append, List.mem_singleton] at hu
    rcases hu with hold | rfl
    · exact h.parents u hold
    · exact hparent
  begun := by
    intro id hid
    rw [Store.blueprint?, hblueprints] at hid
    rw [Store.blueprintVersionsOf, hversions, List.filter_append]
    exact List.append_ne_nil_of_left_ne_nil (h.begun id hid) _

end BlueprintsSound

end Studio

/-! ### What a step keeps -/

namespace Studio

variable {k k' : Studio} {writings : List Writing}

/-- What holds of prompts, blueprints and their versions. -/
structure HistorySound (k : Studio) : Prop where
  prompts : k.PromptsSound
  blueprints : k.BlueprintsSound

theorem HistorySound.of_sameHistory (h : k.HistorySound) (hsame : k.SameHistory k') : k'.HistorySound :=
  ⟨h.prompts.of_same hsame.prompts hsame.promptVersions (Nat.le_of_eq hsame.promptCount.symm),
    h.blueprints.of_same hsame.blueprints hsame.blueprintVersions (Nat.le_of_eq hsame.blueprintCount.symm)⟩

theorem whole_row {s : Store} {loaded : BlueprintAnswer} {changes : BlueprintChanges} {next : NextVersion}
    (h : s.Counted loaded changes next) (idNumber : Nat) (blueprintId : Text) (now : Instant) :
    (next.row idNumber blueprintId now).Whole := by
  obtain ⟨constraints, hconstraints⟩ := h.texts
  refine ⟨⟨_, rfl⟩, ⟨constraints, ?_⟩, rfl⟩
  rw [NextVersion.row, hconstraints]
  rfl

theorem HistorySound.writes (h : k.HistorySound)
    (hallows : ∀ (place : Nat) w, writings[place]? = some w → k.store.Allows w) (hwrites : k.Writes writings k') :
    k'.HistorySound := by
  have hgrows := hwrites.grows
  cases hwrites with
  | nothing hstore hissued =>
      exact ⟨h.prompts.of_same (by rw [hstore]) (by rw [hstore]) hissued.prompts,
        h.blueprints.of_same (by rw [hstore]) (by rw [hstore]) hissued.blueprints⟩
  | prompt p hid hwhole hstore hissued =>
      refine ⟨h.prompts.pushPrompt hid hwhole (by rw [hstore]) (by rw [hstore]) (by rw [hissued]), ?_⟩
      exact h.blueprints.of_same (by rw [hstore]) (by rw [hstore]) (Nat.le_of_eq (by rw [hissued]))
  | @snapshot place record n hplace idNumber metadata hmetadata now hfree hstore hissued =>
      refine ⟨?_, h.blueprints.of_same (by rw [hstore]) (by rw [hstore]) hissued.blueprints⟩
      exact h.prompts.pushSnapshot (v := record.snapshot idNumber n metadata now) rfl
        ⟨record, hallows place _ hplace⟩ hfree (by rw [hstore]) (by rw [hstore]) hissued.prompts
  | blueprint b v hid hparent hnumber hloads hwhole hstore hissued =>
      refine ⟨h.prompts.of_same (by rw [hstore]) (by rw [hstore]) (Nat.le_of_eq (by rw [hissued])), ?_⟩
      exact h.blueprints.pushBlueprint hid hparent hnumber hloads hwhole (by rw [hstore]) (by rw [hstore])
        (by rw [hissued]) hgrows
  | @head place loaded changes hplace now hstore hissued =>
      refine ⟨h.prompts.of_same (by rw [hstore]; rfl) (by rw [hstore]; rfl) hissued.prompts, ?_⟩
      exact (h.blueprints.rewrite loaded.blueprint changes now).of_same (by rw [hstore]; rfl) (by rw [hstore]; rfl)
        hissued.blueprints
  | @version place loaded changes next hplace idNumber now hfree hstore hissued =>
      refine ⟨h.prompts.of_same (by rw [hstore]; rfl) (by rw [hstore]; rfl) hissued.prompts, ?_⟩
      obtain ⟨hfound, hcounted⟩ := hallows place _ hplace
      have hnext := hcounted next rfl
      have hhead := (h.blueprints.rewrite loaded.blueprint changes now)
      refine hhead.pushVersion (v := next.row idNumber loaded.blueprint.id now) rfl hnext.low hnext.high hfree ?_
        (whole_row hnext idNumber _ now) (by rw [hstore]; rfl) (by rw [hstore]; rfl) hissued.blueprints
      exact (k.store.isSome_blueprint?_updateBlueprint loaded.blueprint changes now _).trans hfound.head

end Studio

end PromptStudio
