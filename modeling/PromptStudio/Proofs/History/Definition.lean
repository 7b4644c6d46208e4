import PromptStudio.Proofs.History.Gapless
import PromptStudio.Proofs.Validation.Written

/-!
# The blueprint that is compiled

The head of a blueprint and its latest version are written down as an object and read like an entry of a catalog. Since
every version holds texts, that always succeeds for the owner, and what is compiled is the head with the blocks and
constraints of the version with the highest number.
-/

namespace PromptStudio

/-- A head with blocks and constraints, as it is compiled. -/
def UserBlueprint.definition (b : UserBlueprint) (blocks constraints : List Text) : Blueprint :=
  { id := b.id, name := b.name, category := b.category, description := b.description.getD [], blocks, constraints,
    previewDescription := none }

theorem UserBlueprint.reader_definition {b : UserBlueprint} {blocks constraints : List Text}
    (hid : Schema.identifier (.string b.id) = .valid b.id) :
    Blueprint.reader (.ofFields
      [("id", .string b.id), ("name", .string b.name), ("category", .string b.category),
        ("description", .string (b.description.getD [])), ("blocks", .ofTexts blocks),
        ("constraints", .ofTexts constraints)]) = .valid (b.definition blocks constraints) := by
  have htext (t : Text) : Schema.text (.string t) = .valid t := rfl
  have hblocks := Schema.list_text_ofTexts blocks
  have hconstraints := Schema.list_text_ofTexts constraints
  rw [Blueprint.reader, Schema.record_ofFields]
  simp only [Schema.field, Schema.fieldD]
  rw [Schema.fieldOf_of_named rfl hid, Schema.fieldOf_of_named rfl (htext b.name), Schema.fieldOf_of_named rfl
    (htext b.category), Schema.fieldOf_of_named rfl (htext (b.description.getD [])), Schema.fieldOf_of_named rfl hblocks,
    Schema.fieldOf_of_named rfl hconstraints, Schema.fieldOf_of_unnamed rfl]
  rfl

theorem Compiler.blueprint_register_self (c : Compiler) (b : Blueprint) : (c.register b).blueprint b.id = .ok b := by
  have hfound : (c.register b).registered.find? (·.id == b.id) = some b :=
    List.find?_cons_of_pos (beq_self_eq_true b.id)
  rw [blueprint, hfound]
  rfl

/-! ### Blueprints of a user -/

namespace Store

/-- The version with the highest number of a blueprint, with its blocks and constraints. -/
structure Latest (s : Store) (id : Text) (v : BlueprintVersion) (blocks constraints : List Text) : Prop where
  mem : v ∈ s.blueprintVersionsOf id
  number : v.number = .int (s.blueprintVersionsOf id).length
  blocks : v.blocks = .ok (.ofTexts blocks)
  constraints : v.constraints = .ok (.ofTexts constraints)

theorem exists_ownedBlueprint {s : Store} {id userId : Text} {definition : Blueprint}
    (h : s.blueprintDefinition id userId = .ok definition) : ∃ b, s.ownedBlueprint id userId = .ok b := by
  rw [blueprintDefinition] at h
  obtain ⟨found, hfound, -⟩ := bind_eq_ok.mp h
  exact ⟨_, (blueprintWithLatest_eq_ok_iff.mp hfound).1⟩

end Store

namespace Studio

variable {k : Studio} {c : Context} {id userId : Text}

/-- The owner of a blueprint always compiles the head with what the latest version holds. -/
theorem BlueprintsSound.blueprintDefinition (h : k.BlueprintsSound) {b : UserBlueprint}
    (howned : k.store.ownedBlueprint id userId = .ok b) :
    ∃ v blocks constraints, k.store.Latest id v blocks constraints ∧
      k.store.blueprintDefinition id userId = .ok (b.definition blocks constraints) := by
  obtain ⟨hbindable, hhead, -⟩ := Store.ownedBlueprint_eq_ok howned
  obtain ⟨v, hv, hnumber, hlatest⟩ := Store.latestBlueprintVersion_of_gapless h.numbers
    (fun v hv => (h.whole v hv).loads) hbindable (h.begun id (Option.isSome_iff_exists.mpr ⟨b, hhead⟩))
  obtain ⟨⟨blocks, hblocks⟩, ⟨constraints, hconstraints⟩, -⟩ := h.whole v (List.mem_of_mem_filter hv)
  refine ⟨v, blocks, constraints, ⟨hv, hnumber, hblocks, hconstraints⟩, ?_⟩
  have hidentifier : Schema.identifier (.string b.id) = .valid b.id := by
    have hmem := List.mem_map_of_mem (f := (·.id)) (List.mem_of_find?_eq_some hhead)
    exact Schema.identifier_string (h.ids.isEncodable hmem) (h.ids.ne_nil hmem)
  have hlistedBlocks : v.blocks.listed false = .ok (blocks.map .string) := by
    rw [hblocks, JsonColumn.listed_ofTexts]
  have hlistedConstraints : v.constraints.listed true = .ok (constraints.map .string) := by
    rw [hconstraints, JsonColumn.listed_ofTexts]
  have hloaded : k.store.blueprintWithLatest id userId = .ok ⟨b, v⟩ :=
    bind_eq_ok.mpr ⟨b, howned, bind_eq_ok.mpr ⟨v, hlatest, rfl⟩⟩
  refine bind_eq_ok.mpr ⟨⟨b, v⟩, hloaded, bind_eq_ok.mpr ⟨_, liftFault_eq_ok.mpr hlistedBlocks, ?_⟩⟩
  refine bind_eq_ok.mpr ⟨_, liftFault_eq_ok.mpr hlistedConstraints, ?_⟩
  exact congrArg Failure.ofChecked (UserBlueprint.reader_definition hidentifier)

theorem BlueprintsSound.compilePrompt_eq_ok (h : k.BlueprintsSound) {r : PromptRequest} {choice : CompileChoice}
    {answer : CompileAnswer} (hchoice : choice.userBlueprintId = some id) (hne : id ≠ [])
    (hanswer : (k.compilePrompt c userId r choice).1 = .ok answer) :
    ∃ b v blocks constraints p adapter seed, k.store.ownedBlueprint id userId = .ok b ∧
      k.store.Latest id v blocks constraints ∧
      answer.prompt = ((Compiler.ofCatalog c.catalog).register (b.definition blocks constraints)).build p
        (b.definition blocks constraints) { r with blueprintId := id } adapter seed := by
  have hnamed : choice.userBlueprintId.filter (fun id => !id.isEmpty) = some id := by
    rw [hchoice, filter_isEmpty_of_ne_nil hne]
  rw [compilePrompt] at hanswer
  split at hanswer
  · cases hanswer
  · rename_i compiler request adapter hprepared
    obtain ⟨⟨compiler', request'⟩, hchosen, hprepared⟩ := bind_eq_ok.mp hprepared
    obtain ⟨adapter', _, hprepared⟩ := bind_eq_ok.mp hprepared
    rw [pure_eq_ok] at hprepared
    cases hprepared
    rw [Store.chosenBlueprint, hnamed] at hchosen
    obtain ⟨definition, hdefinition, hchosen⟩ := bind_eq_ok.mp hchosen
    rw [pure_eq_ok] at hchosen
    cases hchosen
    obtain ⟨b, howned⟩ := Store.exists_ownedBlueprint hdefinition
    obtain ⟨v, blocks, constraints, hlatest, hmeans⟩ := h.blueprintDefinition howned
    rw [hmeans, Except.ok.injEq] at hdefinition
    subst hdefinition
    obtain ⟨-, hhead, -⟩ := Store.ownedBlueprint_eq_ok howned
    have hid : (b.definition blocks constraints).id = id := Store.id_of_blueprint? hhead
    dsimp only at hanswer
    split at hanswer
    · cases hanswer
    · rename_i prompt hcompiled
      obtain ⟨p, _, -, hblueprint, hbuilt⟩ := Compiler.compile_eq_ok hcompiled
      rw [Compiler.blueprint_register_self, Except.ok.injEq] at hblueprint
      subst hblueprint
      rw [hid] at hbuilt
      split at hanswer
      · cases hanswer
      · cases hanswer
        exact ⟨b, v, blocks, constraints, p, adapter, _, howned, hlatest, hbuilt⟩

end Studio

end PromptStudio
