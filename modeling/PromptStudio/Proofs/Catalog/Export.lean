import PromptStudio.Proofs.Api.Respond
import PromptStudio.Proofs.Catalog.Holder
import PromptStudio.Proofs.Validation.Written

/-!
# Exported catalogs load back

Every entry of a catalog is written in the format in which it is read. What a reader gives of a writable value is
therefore read back from what is written of it, entry by entry and for the data as a whole. A catalog that was loaded,
from a file or as the built-in one, is told by the application in that format; no more than five arrays and objects nest
in what is told, and no float in it is told as null where the bounds of the filters are numbers. So it has bytes, and a
file of these bytes is loaded as the same catalog: the same entries in their order, each with the same fields.
-/

namespace PromptStudio

open Schema

/-! ### Profiles -/

theorem BlockType.readsBack (t : BlockType) : BlockType.reader.ReadsBack (fun t => .string t.name) t :=
  readsBack_word (by cases t <;> rfl) .enumeration

namespace Profile

theorem reader_toJson {p : Profile} (hid : identifier (.string p.id) = .valid p.id) (hlength : 1 ≤ p.maxLength) :
    reader p.toJson = .valid p := by
  have horder : list BlockType.reader (.ofTexts (p.preferredOrder.map fun t => Text.ofString t.name))
      = .valid p.preferredOrder := by
    rw [Json.ofTexts, List.map_map]
    exact (readsBack_list fun t _ => BlockType.readsBack t).valid
  have hmost : integerOf 1 none (.ofNat p.maxLength) = .valid (p.maxLength : Int) := by
    change (if (p.maxLength : Int) < 1 then _ else _) = _
    rw [if_neg (by omega)]
  rw [reader, toJson, record_ofFields]
  simp only [field, fieldD]
  rw [fieldOf_of_named rfl hid, fieldOf_of_named rfl (text_string p.name),
    fieldOf_of_named rfl (text_string p.basePrompt), fieldOf_of_named rfl horder,
    fieldOf_of_named rfl (list_text_ofTexts p.forbiddenPatterns), fieldOf_of_named rfl hmost,
    fieldOf_of_named rfl (list_text_ofTexts p.capabilities)]
  rfl

theorem rereads : reader.Rereads toJson := by
  intro v p hv h
  obtain ⟨members, rfl, hread⟩ := record_eq_valid h
  obtain ⟨_, capabilities, htoLength, hcapabilities, rfl⟩ := Checked.seq_eq_valid hread
  obtain ⟨_, _, htoPatterns, hmost, rfl⟩ := Checked.seq_eq_valid htoLength
  obtain ⟨length, hlength, rfl⟩ := Checked.map_eq_valid hmost
  obtain ⟨_, patterns, htoOrder, hpatterns, rfl⟩ := Checked.seq_eq_valid htoPatterns
  obtain ⟨_, order, htoBase, -, rfl⟩ := Checked.seq_eq_valid htoOrder
  obtain ⟨_, base, htoName, hbase, rfl⟩ := Checked.seq_eq_valid htoBase
  obtain ⟨_, name, htoId, hname, rfl⟩ := Checked.seq_eq_valid htoName
  obtain ⟨id, hid, rfl⟩ := Checked.map_eq_valid htoId
  have hidBack := rereads_identifier.field hv hid
  have hnameBack := rereads_text.field hv hname
  have hbaseBack := rereads_text.field hv hbase
  have horderBack := readsBack_list fun t (_ : t ∈ order) => BlockType.readsBack t
  have hpatternsBack := (rereads_list rereads_text).fieldD hv readsBack_nil hpatterns
  have hlengthBack := (rereads_integerOf 1 none).fieldD hv ⟨rfl, rfl, by decide⟩ hlength
  have hcapabilitiesBack := (rereads_list rereads_text).fieldD hv readsBack_nil hcapabilities
  have hleast := le_of_integerOf hlengthBack.valid
  refine ⟨reader_toJson hidBack.valid (by dsimp only; omega), ?_⟩
  rw [toJson, Json.writable_ofFields_iff]
  simp only [List.forall_mem_cons, List.not_mem_nil, false_imp_iff, implies_true, and_true]
  refine ⟨hidBack.writable, hnameBack.writable, hbaseBack.writable, ?_, hpatternsBack.writable, ?_,
    hcapabilitiesBack.writable⟩
  · rw [Json.ofTexts, List.map_map]
    exact horderBack.writable
  · rw [Json.ofNat, Int.toNat_of_nonneg (by omega)]
    exact hlengthBack.writable

theorem depth_toJson_le (p : Profile) : p.toJson.depth ≤ 2 := by
  refine Json.depth_ofFields_le ?_
  simp [Json.depth_ofTexts_le, Json.depth, Json.ofNat]

theorem finite_toJson (p : Profile) : p.toJson.finite = p.toJson := by
  refine Json.finite_ofFields_eq_self ?_
  simp [Json.finite_ofTexts, Json.finite, Json.ofNat]

end Profile

/-! ### Blueprints -/

namespace Blueprint

theorem nullable_text_ofText? (t : Option Text) : nullable text (.ofText? t) = .valid t := by
  cases t <;> rfl

theorem reader_toJson {b : Blueprint} (hid : identifier (.string b.id) = .valid b.id) : reader b.toJson = .valid b := by
  rw [reader, toJson, record_ofFields]
  simp only [field, fieldD]
  rw [fieldOf_of_named rfl hid, fieldOf_of_named rfl (text_string b.name), fieldOf_of_named rfl (text_string b.category),
    fieldOf_of_named rfl (text_string b.description), fieldOf_of_named rfl (list_text_ofTexts b.blocks),
    fieldOf_of_named rfl (list_text_ofTexts b.constraints),
    fieldOf_of_named rfl (nullable_text_ofText? b.previewDescription)]
  rfl

theorem rereads : reader.Rereads toJson := by
  intro v b hv h
  obtain ⟨members, rfl, hread⟩ := record_eq_valid h
  obtain ⟨_, preview, htoConstraints, hpreview, rfl⟩ := Checked.seq_eq_valid hread
  obtain ⟨_, constraints, htoBlocks, hconstraints, rfl⟩ := Checked.seq_eq_valid htoConstraints
  obtain ⟨_, blocks, htoDescription, hblocks, rfl⟩ := Checked.seq_eq_valid htoBlocks
  obtain ⟨_, description, htoCategory, hdescription, rfl⟩ := Checked.seq_eq_valid htoDescription
  obtain ⟨_, category, htoName, hcategory, rfl⟩ := Checked.seq_eq_valid htoCategory
  obtain ⟨_, name, htoId, hname, rfl⟩ := Checked.seq_eq_valid htoName
  obtain ⟨id, hid, rfl⟩ := Checked.map_eq_valid htoId
  have hidBack := rereads_identifier.field hv hid
  have hnameBack := rereads_text.field hv hname
  have hcategoryBack := rereads_text.field hv hcategory
  have hdescriptionBack := rereads_text.fieldD hv (readsBack_text rfl) hdescription
  have hblocksBack := (rereads_list rereads_text).field hv hblocks
  have hconstraintsBack := (rereads_list rereads_text).fieldD hv readsBack_nil hconstraints
  have hnullable : (nullable text).Rereads Json.ofText? := rereads_nullable rereads_text nofun rfl fun _ => rfl
  have hpreviewBack := hnullable.fieldD hv ⟨rfl, rfl, rfl⟩ hpreview
  refine ⟨reader_toJson hidBack.valid, ?_⟩
  rw [toJson, Json.writable_ofFields_iff]
  simp only [List.forall_mem_cons, List.not_mem_nil, false_imp_iff, implies_true, and_true]
  exact ⟨hidBack.writable, hnameBack.writable, hcategoryBack.writable, hdescriptionBack.writable,
    hblocksBack.writable, hconstraintsBack.writable, hpreviewBack.writable⟩

theorem depth_toJson_le (b : Blueprint) : b.toJson.depth ≤ 2 := by
  refine Json.depth_ofFields_le ?_
  have hpreview : (Json.ofText? b.previewDescription).depth = 0 := by cases b.previewDescription <;> rfl
  simp [Json.depth_ofTexts_le, Json.depth, hpreview]

theorem finite_toJson (b : Blueprint) : b.toJson.finite = b.toJson := by
  refine Json.finite_ofFields_eq_self ?_
  have hpreview : (Json.ofText? b.previewDescription).finite = .ofText? b.previewDescription := by
    cases b.previewDescription <;> rfl
  simp [Json.finite_ofTexts, Json.finite, hpreview]

end Blueprint

/-! ### Blocks -/

namespace Block

theorem reader_toJson {b : Block} (hkey : identifier (.string b.key) = .valid b.key) : reader b.toJson = .valid b := by
  rw [reader, toJson, record_ofFields]
  simp only [field]
  rw [fieldOf_of_named rfl hkey, fieldOf_of_named rfl (text_string b.label),
    fieldOf_of_named rfl (text_string b.template), fieldOf_of_named rfl b.type.readsBack.valid]
  rfl

theorem rereads : reader.Rereads toJson := by
  intro v b hv h
  obtain ⟨members, rfl, hread⟩ := record_eq_valid h
  obtain ⟨_, type, htoTemplate, -, rfl⟩ := Checked.seq_eq_valid hread
  obtain ⟨_, template, htoLabel, htemplate, rfl⟩ := Checked.seq_eq_valid htoTemplate
  obtain ⟨_, label, htoKey, hlabel, rfl⟩ := Checked.seq_eq_valid htoLabel
  obtain ⟨key, hkey, rfl⟩ := Checked.map_eq_valid htoKey
  have hkeyBack := rereads_identifier.field hv hkey
  have hlabelBack := rereads_text.field hv hlabel
  have htemplateBack := rereads_text.field hv htemplate
  refine ⟨reader_toJson hkeyBack.valid, ?_⟩
  rw [toJson, Json.writable_ofFields_iff]
  simp only [List.forall_mem_cons, List.not_mem_nil, false_imp_iff, implies_true, and_true]
  exact ⟨hkeyBack.writable, hlabelBack.writable, htemplateBack.writable, type.readsBack.writable⟩

theorem depth_toJson_le (b : Block) : b.toJson.depth ≤ 1 := by
  refine Json.depth_ofFields_le ?_
  simp [Json.depth]

theorem finite_toJson (b : Block) : b.toJson.finite = b.toJson := by
  refine Json.finite_ofFields_eq_self ?_
  simp [Json.finite]

end Block

/-! ### Filters -/

namespace FilterSchema

theorem nullable_extendedFloat_boundJson (bound : Option Binary64) :
    nullable extendedFloat (boundJson bound) = .valid bound := by
  cases bound <;> rfl

theorem writable_boundJson (bound : Option Binary64) : (boundJson bound).Writable := by
  cases bound <;> exact ⟨rfl, rfl⟩

theorem reader_toJson (s : FilterSchema) : reader s.toJson = .valid s := by
  rw [reader, toJson, record_ofFields]
  simp only [fieldD]
  rw [fieldOf_of_named rfl (text_string s.type), fieldOf_of_named rfl (list_text_ofTexts s.options),
    fieldOf_of_named rfl (nullable_extendedFloat_boundJson s.min),
    fieldOf_of_named rfl (nullable_extendedFloat_boundJson s.max)]
  rfl

theorem rereads : reader.Rereads toJson := by
  intro v s hv h
  obtain ⟨members, rfl, hread⟩ := record_eq_valid h
  obtain ⟨_, max, htoMin, -, rfl⟩ := Checked.seq_eq_valid hread
  obtain ⟨_, min, htoOptions, -, rfl⟩ := Checked.seq_eq_valid htoMin
  obtain ⟨_, options, htoType, hoptions, rfl⟩ := Checked.seq_eq_valid htoOptions
  obtain ⟨type, htype, rfl⟩ := Checked.map_eq_valid htoType
  have htypeBack := rereads_text.fieldD hv (readsBack_text (Text.isEncodable_ofString "select")) htype
  have hoptionsBack := (rereads_list rereads_text).fieldD hv readsBack_nil hoptions
  refine ⟨reader_toJson _, ?_⟩
  rw [toJson, Json.writable_ofFields_iff]
  simp only [List.forall_mem_cons, List.not_mem_nil, false_imp_iff, implies_true, and_true]
  exact ⟨htypeBack.writable, hoptionsBack.writable, writable_boundJson min, writable_boundJson max⟩

theorem depth_toJson_le (s : FilterSchema) : s.toJson.depth ≤ 2 := by
  refine Json.depth_ofFields_le ?_
  have hbound (bound : Option Binary64) : (boundJson bound).depth = 0 := by cases bound <;> rfl
  simp [Json.depth_ofTexts_le, Json.depth, hbound]

theorem finite_toJson {s : FilterSchema} (hmin : ∀ x ∈ s.min, x.isFinite = true)
    (hmax : ∀ x ∈ s.max, x.isFinite = true) : s.toJson.finite = s.toJson := by
  have hbound {bound : Option Binary64} (h : ∀ x ∈ bound, x.isFinite = true) :
      (boundJson bound).finite = boundJson bound := by
    cases bound with
    | none => rfl
    | some x => exact if_pos (h x rfl)
  refine Json.finite_ofFields_eq_self ?_
  simp [Json.finite_ofTexts, Json.finite, hbound hmin, hbound hmax]

end FilterSchema

namespace Filter

theorem reader_toJson {f : Filter} (hkey : identifier (.string f.key) = .valid f.key)
    (heffect : (f.effect.map (·.1)).Nodup) : reader f.toJson = .valid f := by
  have hentries : dictionary text (.ofEntries f.effect) = .valid f.effect := by
    have hread := dictionary_object f.effect
    rw [distinctEntries_of_nodup heffect] at hread
    exact hread
  rw [reader, toJson, record_ofFields]
  simp only [field, fieldD]
  rw [fieldOf_of_named rfl hkey, fieldOf_of_named rfl (text_string f.label),
    fieldOf_of_named rfl f.schema.reader_toJson, fieldOf_of_named rfl hentries,
    fieldOf_of_named rfl (readsBack_boolean f.isPremium).valid]
  rfl

theorem rereads : reader.Rereads toJson := by
  intro v f hv h
  obtain ⟨members, rfl, hread⟩ := record_eq_valid h
  obtain ⟨_, isPremium, htoEffect, -, rfl⟩ := Checked.seq_eq_valid hread
  obtain ⟨_, effect, htoSchema, heffect, rfl⟩ := Checked.seq_eq_valid htoEffect
  obtain ⟨_, schema, htoLabel, hschema, rfl⟩ := Checked.seq_eq_valid htoSchema
  obtain ⟨_, label, htoKey, hlabel, rfl⟩ := Checked.seq_eq_valid htoLabel
  obtain ⟨key, hkey, rfl⟩ := Checked.map_eq_valid htoKey
  have hkeyBack := rereads_identifier.field hv hkey
  have hlabelBack := rereads_text.field hv hlabel
  have hschemaBack := FilterSchema.rereads.fieldOf hv (fun _ hmissing => by cases hmissing) hschema
  have heffectBack := rereads_dictionary.field hv heffect
  refine ⟨reader_toJson hkeyBack.valid ?_, ?_⟩
  · have hvalid := heffectBack.valid
    rw [dictionary_object, Checked.valid.injEq] at hvalid
    have hnodup := nodup_distinctEntries effect
    rw [hvalid] at hnodup
    exact hnodup
  · rw [toJson, Json.writable_ofFields_iff]
    simp only [List.forall_mem_cons, List.not_mem_nil, false_imp_iff, implies_true, and_true]
    exact ⟨hkeyBack.writable, hlabelBack.writable, hschemaBack.writable, heffectBack.writable,
      (readsBack_boolean isPremium).writable⟩

theorem depth_toJson_le (f : Filter) : f.toJson.depth ≤ 3 := by
  have heffect : (Json.ofEntries f.effect).depth ≤ 1 := by
    rw [Json.ofEntries, Json.depth, Nat.add_le_add_iff_right, Json.depthOfMembers_le_iff]
    intro m hm
    obtain ⟨e, -, rfl⟩ := List.mem_map.mp hm
    exact Nat.le_refl 0
  refine Json.depth_ofFields_le ?_
  simp [Json.depth, f.schema.depth_toJson_le, Nat.le_succ_of_le heffect]

def HasFiniteBounds (f : Filter) : Prop :=
  (∀ x ∈ f.schema.min, x.isFinite = true) ∧ ∀ x ∈ f.schema.max, x.isFinite = true

theorem finite_toJson {f : Filter} (h : f.HasFiniteBounds) : f.toJson.finite = f.toJson := by
  have hschema := FilterSchema.finite_toJson h.1 h.2
  have heffect : (Json.ofEntries f.effect).finite = .ofEntries f.effect := by
    refine Json.finite_object_eq_self fun m hm => ?_
    obtain ⟨e, -, rfl⟩ := List.mem_map.mp hm
    rfl
  refine Json.finite_ofFields_eq_self ?_
  simp [Json.finite, hschema, heffect]

end Filter

/-! ### Base models -/

namespace BaseModel

theorem reader_toJson (b : BaseModel) : reader b.toJson = .valid b := by
  have hinteger (n : Int) : integer (.int n) = .valid n := rfl
  rw [reader, toJson, record_ofFields]
  simp only [field, fieldD]
  rw [fieldOf_of_named rfl (text_string b.name), fieldOf_of_named rfl (text_string b.displayName),
    fieldOf_of_named rfl (text_string b.loraFormat), fieldOf_of_named rfl (hinteger b.defaultResolution),
    fieldOf_of_named rfl (readsBack_boolean b.isActive).valid]
  rfl

theorem rereads : reader.Rereads toJson := by
  intro v b hv h
  obtain ⟨members, rfl, hread⟩ := record_eq_valid h
  obtain ⟨_, isActive, htoResolution, -, rfl⟩ := Checked.seq_eq_valid hread
  obtain ⟨_, resolution, htoFormat, hresolution, rfl⟩ := Checked.seq_eq_valid htoResolution
  obtain ⟨_, format, htoDisplayName, hformat, rfl⟩ := Checked.seq_eq_valid htoFormat
  obtain ⟨_, displayName, htoName, hdisplayName, rfl⟩ := Checked.seq_eq_valid htoDisplayName
  obtain ⟨name, hname, rfl⟩ := Checked.map_eq_valid htoName
  have hnameBack := rereads_text.field hv hname
  have hdisplayNameBack := rereads_text.field hv hdisplayName
  have hformatBack := rereads_text.fieldD hv (readsBack_text (Text.isEncodable_ofString "safetensors")) hformat
  have hresolutionBack := rereads_integer.fieldD hv ⟨rfl, rfl, by decide⟩ hresolution
  refine ⟨reader_toJson _, ?_⟩
  rw [toJson, Json.writable_ofFields_iff]
  simp only [List.forall_mem_cons, List.not_mem_nil, false_imp_iff, implies_true, and_true]
  exact ⟨hnameBack.writable, hdisplayNameBack.writable, hformatBack.writable, hresolutionBack.writable,
    (readsBack_boolean isActive).writable⟩

theorem depth_toJson_le (b : BaseModel) : b.toJson.depth ≤ 1 := by
  refine Json.depth_ofFields_le ?_
  simp [Json.depth]

theorem finite_toJson (b : BaseModel) : b.toJson.finite = b.toJson := by
  refine Json.finite_ofFields_eq_self ?_
  simp [Json.finite]

end BaseModel

/-! ### Catalog data -/

namespace CatalogData

def toJson (d : CatalogData) : Json :=
  .ofFields [("profiles", .array (d.profiles.map Profile.toJson)),
    ("blueprints", .array (d.blueprints.map Blueprint.toJson)), ("blocks", .array (d.blocks.map Block.toJson)),
    ("filters", .array (d.filters.map Filter.toJson)), ("base_models", .array (d.baseModels.map BaseModel.toJson))]

theorem toJson_indexed (d : CatalogData) : d.indexed.toJson = d.toJson := by
  have hentries {α : Type} (write : α → Json) (keyOf : α → Text) (entries : List α) :
      Catalog.entriesJson write (.keyed keyOf entries) = .array (entries.map write) := by
    rw [Catalog.entriesJson, Index.keyed, List.map_map]
    rfl
  simp only [Catalog.toJson, indexed, hentries, toJson]

/-- Data is read back if its five lists are. -/
theorem reader_toJson {d : CatalogData}
    (hprofiles : list Profile.reader (.array (d.profiles.map Profile.toJson)) = .valid d.profiles)
    (hblueprints : list Blueprint.reader (.array (d.blueprints.map Blueprint.toJson)) = .valid d.blueprints)
    (hblocks : list Block.reader (.array (d.blocks.map Block.toJson)) = .valid d.blocks)
    (hfilters : list Filter.reader (.array (d.filters.map Filter.toJson)) = .valid d.filters) :
    reader d.toJson = .valid d := by
  have hbaseModels := list_array_map fun b (_ : b ∈ d.baseModels) => b.reader_toJson
  rw [reader, toJson, record_ofFields]
  simp only [fieldD]
  rw [fieldOf_of_named rfl hprofiles, fieldOf_of_named rfl hblueprints, fieldOf_of_named rfl hblocks,
    fieldOf_of_named rfl hfilters, fieldOf_of_named rfl hbaseModels]
  rfl

theorem rereads : reader.Rereads toJson := by
  intro v d hv h
  obtain ⟨members, rfl, hread⟩ := record_eq_valid h
  obtain ⟨_, baseModels, htoFilters, hbaseModels, rfl⟩ := Checked.seq_eq_valid hread
  obtain ⟨_, filters, htoBlocks, hfilters, rfl⟩ := Checked.seq_eq_valid htoFilters
  obtain ⟨_, blocks, htoBlueprints, hblocks, rfl⟩ := Checked.seq_eq_valid htoBlocks
  obtain ⟨_, blueprints, htoProfiles, hblueprints, rfl⟩ := Checked.seq_eq_valid htoBlueprints
  obtain ⟨profiles, hprofiles, rfl⟩ := Checked.map_eq_valid htoProfiles
  have hprofilesBack := (rereads_list Profile.rereads).fieldD hv readsBack_nil hprofiles
  have hblueprintsBack := (rereads_list Blueprint.rereads).fieldD hv readsBack_nil hblueprints
  have hblocksBack := (rereads_list Block.rereads).fieldD hv readsBack_nil hblocks
  have hfiltersBack := (rereads_list Filter.rereads).fieldD hv readsBack_nil hfilters
  have hbaseModelsBack := (rereads_list BaseModel.rereads).fieldD hv readsBack_nil hbaseModels
  refine ⟨reader_toJson hprofilesBack.valid hblueprintsBack.valid hblocksBack.valid hfiltersBack.valid, ?_⟩
  rw [toJson, Json.writable_ofFields_iff]
  simp only [List.forall_mem_cons, List.not_mem_nil, false_imp_iff, implies_true, and_true]
  exact ⟨hprofilesBack.writable, hblueprintsBack.writable, hblocksBack.writable, hfiltersBack.writable,
    hbaseModelsBack.writable⟩

theorem depth_toJson_le (d : CatalogData) : d.toJson.depth ≤ 5 := by
  have hlist {α : Type} {write : α → Json} {most : Nat} (h : ∀ a, (write a).depth ≤ most) (hmost : most ≤ 3)
      (entries : List α) : (Json.array (entries.map write)).depth ≤ 4 := by
    refine Json.depth_array_le fun v hv => ?_
    obtain ⟨a, -, rfl⟩ := List.mem_map.mp hv
    exact Nat.le_trans (h a) hmost
  refine Json.depth_ofFields_le ?_
  simp only [List.forall_mem_cons, List.not_mem_nil, false_imp_iff, implies_true, and_true]
  exact ⟨hlist Profile.depth_toJson_le (by decide) d.profiles, hlist Blueprint.depth_toJson_le (by decide) d.blueprints,
    hlist Block.depth_toJson_le (by decide) d.blocks, hlist Filter.depth_toJson_le (by decide) d.filters,
    hlist BaseModel.depth_toJson_le (by decide) d.baseModels⟩

theorem finite_toJson {d : CatalogData} (h : ∀ f ∈ d.filters, f.HasFiniteBounds) : d.toJson.finite = d.toJson := by
  have hlist {α : Type} {write : α → Json} {entries : List α} (h : ∀ a ∈ entries, (write a).finite = write a) :
      (Json.array (entries.map write)).finite = .array (entries.map write) := by
    refine Json.finite_array_eq_self fun v hv => ?_
    obtain ⟨a, ha, rfl⟩ := List.mem_map.mp hv
    exact h a ha
  refine Json.finite_ofFields_eq_self ?_
  simp only [List.forall_mem_cons, List.not_mem_nil, false_imp_iff, implies_true, and_true]
  refine ⟨hlist fun p _ => p.finite_toJson, hlist fun b _ => b.finite_toJson, hlist fun b _ => b.finite_toJson, ?_,
    hlist fun b _ => b.finite_toJson⟩
  exact hlist fun f hf => Filter.finite_toJson (h f hf)

/-! ### The built-in catalog -/

theorem isEncodable_preset : preset.toJson.isEncodable = true := by
  have hstring (t : Text) : (Json.string t).isEncodable = t.isEncodable := rfl
  have hint (n : Int) : (Json.int n).isEncodable = true := rfl
  have hbool (b : Bool) : (Json.bool b).isEncodable = true := rfl
  have hnull : Json.null.isEncodable = true := rfl
  simp [toJson, preset, presetProfiles, presetBlueprints, presetBlocks, presetFilters, choice, presetBaseModels,
    Profile.toJson, Blueprint.toJson, Block.toJson, Filter.toJson, FilterSchema.toJson, BaseModel.toJson,
    Json.isEncodable_ofFields, Json.isEncodable_ofTexts, Json.isEncodable_array_iff, Json.isEncodable_object_iff,
    Json.ofText?, Json.ofNat, Json.ofEntries, FilterSchema.boundJson, hstring, hint, hbool, hnull]

theorem readsBack_preset : reader.ReadsBack toJson preset := by
  have hprofiles : ∀ p ∈ presetProfiles, p.id.isEncodable = true ∧ p.id ≠ [] ∧ 1 ≤ p.maxLength := by decide +kernel
  have hblueprints : ∀ b ∈ presetBlueprints, b.id.isEncodable = true ∧ b.id ≠ [] := by decide +kernel
  have hblocks : ∀ b ∈ presetBlocks, b.key.isEncodable = true ∧ b.key ≠ [] := by decide +kernel
  have hfilters : ∀ f ∈ presetFilters, f.key.isEncodable = true ∧ f.key ≠ [] ∧ (f.effect.map (·.1)).Nodup := by
    decide +kernel
  refine ⟨reader_toJson (list_array_map fun p hp => ?_) (list_array_map fun b hb => ?_) (list_array_map fun b hb => ?_)
    (list_array_map fun f hf => ?_), isEncodable_preset, by decide +kernel⟩
  · obtain ⟨hid, hne, hlength⟩ := hprofiles p hp
    exact Profile.reader_toJson (identifier_string hid hne) hlength
  · obtain ⟨hid, hne⟩ := hblueprints b hb
    exact Blueprint.reader_toJson (identifier_string hid hne)
  · obtain ⟨hkey, hne⟩ := hblocks b hb
    exact Block.reader_toJson (identifier_string hkey hne)
  · obtain ⟨hkey, hne, heffect⟩ := hfilters f hf
    exact Filter.reader_toJson (identifier_string hkey hne) heffect

/-! ### What was loaded -/

theorem readsBack_of_load {source : CatalogSource} {d : CatalogData} (h : load source = .ok d) :
    reader.ReadsBack toJson d := by
  cases source with
  | preset =>
      cases h
      exact readsBack_preset
  | file path state =>
      cases state with
      | absent => cases h
      | unreadable => cases h
      | present bytes =>
          rw [load] at h
          split at h
          · cases h
          · rename_i t htext
            rw [ofFileText] at h
            split at h
            · cases h
            · rename_i v hread
              split at h
              · rename_i found hvalid
                cases h
                exact rereads (Json.writable_of_read rfl (Utf8.isEncodable_of_decode? htext) hread) hvalid
              · cases h

theorem load_of_readsBack {d : CatalogData} (h : reader.ReadsBack toJson d) {form : Json.Form}
    (hform : form.asciiOnly = false) {bytes : Bytes} (hbytes : Utf8.encode? (Json.render form d.toJson) = some bytes)
    (path : String) : load (.file path (.present bytes)) = .ok d := by
  have hkeeps : Json.Rule.strict.keeps = Json.isShortInteger := by
    funext v
    exact Bool.and_true _
  have hshort : d.toJson.every Json.Rule.strict.keeps = true := by
    rw [hkeeps]
    exact h.writable.short
  have hread : Json.read .strict (Json.render form d.toJson) = .ok d.toJson :=
    Json.read_render hform hshort (Nat.le_trans d.depth_toJson_le (by decide))
  rw [load, Utf8.decode?_encode? false hbytes]
  simp only [ofFileText, hread, h.valid]
  rfl

end CatalogData

/-! ### What is told and loaded again -/

def HttpRequest.Asks (r : HttpRequest) (method path : String) : Prop :=
  r.method = Text.ofString method ∧ r.path = path.toList

namespace App

variable {app : App} {v : Visit}

/-- A request that ends in a value that has bytes is answered with it. -/
theorem said_of_ok {endpoint : Endpoint} (hroute : Route.find v.request.method v.request.path = .found endpoint)
    (hhead : v.request.method ≠ Text.ofString "HEAD") {value : Json}
    (hresult : ((app.counting v).handle v endpoint).result = .ok value) (hencodable : value.isEncodable = true) :
    (app.respond v).1.said = (endpoint.successStatus, some value.finite) := by
  obtain ⟨id, hrespond⟩ := app.exists_respond_eq v
  rw [hrespond, visit_of_found _ hroute, Handled.response, hresult, Response.forMethod, if_neg hhead]
  simp only [Response.ofValue, hencodable, if_true]
  rfl

theorem said_of_catalog (hasks : v.request.Asks "GET" "/api/v1/catalog")
    (hencodable : app.catalog.toJson.isEncodable = true) :
    (app.respond v).1.said = (200, some app.catalog.toJson.finite) := by
  have hroute : Route.find v.request.method v.request.path = .found .catalog := by
    rw [hasks.1, hasks.2]
    decide +kernel
  have hhead : v.request.method ≠ Text.ofString "HEAD" := by
    rw [hasks.1]
    decide
  rw [← counting_catalog app v] at hencodable ⊢
  exact said_of_ok hroute hhead rfl hencodable

/-- To load the catalog again installs what is loaded, and tells how many entries it has. -/
theorem respond_of_refresh (hasks : v.request.Asks "POST" "/api/v1/catalog/refresh") {c : Catalog}
    (hload : Catalog.load v.source = .ok c) :
    (app.respond v).1.said = (200, some c.countView) ∧ (app.respond v).2.1.catalog = c := by
  have hroute : Route.find v.request.method v.request.path = .found .refreshCatalog := by
    rw [hasks.1, hasks.2]
    decide +kernel
  have hhead : v.request.method ≠ Text.ofString "HEAD" := by
    rw [hasks.1]
    decide
  have hhandle : (app.counting v).handle v .refreshCatalog = { app.counting v with catalog := c }.tell c.countView := by
    rw [handle, refreshCatalog, hload]
  have hencodable : c.countView.isEncodable = true := by
    rw [Catalog.countView, Json.isEncodable_ofFields]
    rfl
  have hfinite : c.countView.finite = c.countView := by
    refine Json.finite_ofFields_eq_self ?_
    simp [Json.finite, Json.ofNat]
  constructor
  · rw [said_of_ok hroute hhead (congrArg Handled.result hhandle) hencodable, hfinite]
    rfl
  · rw [respond_catalog, visit_of_found _ hroute, hhandle]
    rfl

end App

namespace Catalog

/-- The bounds of all filters are absent or numbers. -/
def HasFiniteBounds (c : Catalog) : Prop :=
  ∀ e ∈ c.filters, e.2.HasFiniteBounds

/-- In whatever file these bytes stand, they are loaded as the catalog: by whoever holds one, and by an application that is
asked to load its catalog again. -/
structure LoadsFrom (c : Catalog) (bytes : Bytes) : Prop where
  held (h : Holder) (path : String) : h.refresh (.file path (.present bytes)) = (.ok c, ⟨some c⟩)
  served (app : App) (v : Visit) (path : String) (hasks : v.request.Asks "POST" "/api/v1/catalog/refresh")
    (hsource : v.source = .file path (.present bytes)) :
    (app.respond v).1.said = (200, some c.countView) ∧ (app.respond v).2.1.catalog = c

theorem loadsFrom_of_load {c : Catalog} {bytes : Bytes}
    (hload : ∀ path, load (.file path (.present bytes)) = .ok c) : c.LoadsFrom bytes where
  held h path := by rw [Holder.refresh, hload path]
  served app v path hasks hsource := by
    refine App.respond_of_refresh hasks ?_
    rw [hsource, hload path]

/-- An application that holds a catalog that was loaded, with bounds of filters that are absent or numbers, answers a
request for the catalog with a body that has bytes, and from these the same catalog is loaded. -/
theorem exported_catalog_loads_back {source : CatalogSource} {app : App} (hload : load source = .ok app.catalog)
    (hbounds : app.catalog.HasFiniteBounds) {v : Visit} (hasks : v.request.Asks "GET" "/api/v1/catalog") :
    ∃ body, (app.respond v).1.said = (200, some body) ∧
      ∀ form : Json.Form, form.asciiOnly = false →
        ∃ bytes, Utf8.encode? (Json.render form body) = some bytes ∧ app.catalog.LoadsFrom bytes := by
  obtain ⟨d, hdata, hconsistent, hindexed⟩ := load_eq_ok_iff.mp hload
  have hback := CatalogData.readsBack_of_load hdata
  have hbody : app.catalog.toJson = d.toJson := by rw [hindexed, d.toJson_indexed]
  have hfinite : d.toJson.finite = d.toJson := by
    rw [hindexed] at hbounds
    refine CatalogData.finite_toJson fun f hf => ?_
    exact hbounds (f.key, f) (List.mem_map_of_mem (f := fun f : Filter => (f.key, f)) hf)
  refine ⟨d.toJson, ?_, ?_⟩
  · rw [App.said_of_catalog hasks (hbody ▸ hback.writable.encodable), hbody, hfinite]
  · intro form hform
    obtain ⟨bytes, hbytes⟩ := Json.exists_encode?_render form hform hback.writable.encodable
    refine ⟨bytes, hbytes, loadsFrom_of_load fun path => ?_⟩
    exact load_eq_ok_iff.mpr ⟨d, CatalogData.load_of_readsBack hback hform hbytes path, hconsistent, hindexed⟩

end Catalog

/-! ### A small file -/

/-- A file with one filter: its schema stands under the longer name, and its bounds are a text and an integer. -/
def FileState.zooming : FileState :=
  .present (Utf8.ofString ("\x7b\"filters\":[\x7b\"key\":\"zoom\",\"label\":\"Zoom\"," ++
    "\"value_schema\":\x7b\"type\":\"range\",\"min\":\"-0.5\",\"max\":2\x7d," ++
    "\"effect\":\x7b\"near\":\"close up\",\"far\":\"wide\"\x7d\x7d]\x7d"))

def CatalogData.zooming : CatalogData where
  profiles := []
  blueprints := []
  blocks := []
  filters := [⟨"zoom", "Zoom", ⟨"range", [], some (.ofDecimal true 5 (-1)), some (.ofInt 2)⟩,
    [("near", "close up"), ("far", "wide")], false⟩]
  baseModels := []

/-- An application with the catalog of the file. -/
def App.zooming : App :=
  { App.small .start with catalog := CatalogData.zooming.indexed }

def Visit.askingCatalog : Visit where
  request := { method := "GET", path := "/api/v1/catalog".toList, query := [], headers := [], body := [] }
  now := 7
  source := .preset
  exchange := .quiet

theorem CatalogData.load_zooming : load (.file "catalog.json" .zooming) = .ok zooming := by
  have hfound : (load (.file "catalog.json" .zooming)).toOption = some zooming := by decide +kernel
  cases hload : load (.file "catalog.json" .zooming) with
  | ok d =>
      rw [hload] at hfound
      exact congrArg Except.ok (Option.some.inj hfound)
  | error failure =>
      rw [hload] at hfound
      cases hfound

/-- What is told of the small file is loaded as the catalog of the small file. -/
theorem Catalog.exported_zooming_loads_back :
    ∃ body, (App.zooming.respond .askingCatalog).1.said = (200, some body) ∧
      ∀ form : Json.Form, form.asciiOnly = false →
        ∃ bytes, Utf8.encode? (Json.render form body) = some bytes ∧ App.zooming.catalog.LoadsFrom bytes := by
  have hconsistent : CatalogData.zooming.Consistent := by
    refine ⟨by decide, by decide, by decide, by decide, by decide, ?_, ?_⟩
    · exact List.forall_mem_nil _
    · decide
  have hload : load (.file "catalog.json" .zooming) = .ok App.zooming.catalog :=
    load_eq_ok_iff.mpr ⟨_, CatalogData.load_zooming, hconsistent, rfl⟩
  have hbounds : App.zooming.catalog.HasFiniteBounds := by
    intro e he
    rw [List.mem_singleton.mp he]
    constructor
    · intro x hx
      rw [← Option.some.inj hx]
      decide +kernel
    · intro x hx
      rw [← Option.some.inj hx]
      decide +kernel
  exact exported_catalog_loads_back hload hbounds ⟨rfl, rfl⟩

end PromptStudio
