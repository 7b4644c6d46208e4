import PromptStudio.Catalog.Snapshot
import PromptStudio.Proofs.Failure.Outcome

/-!
# Consistent catalogs

Catalog data becomes a catalog exactly if no key is used twice in one of its lists, every blueprint names blocks that are
there, and every filter that gives options has effects for these only. The catalog then has the entries of the lists in
their order, each under its own key. Data that is not consistent is refused as an invalid catalog.
-/

namespace PromptStudio

/-! ### Indexes -/

namespace Index

variable {α : Type} {kind : String} {keyOf : α → Text} {index result : Index α} {entries : List α} {key : Text}

def keyed (keyOf : α → Text) (entries : List α) : Index α :=
  entries.map fun a => (keyOf a, a)

theorem has_iff : index.has key = true ↔ ∃ a, (key, a) ∈ index := by
  simp only [has, List.any_eq_true, beq_iff_eq, Prod.exists]
  constructor
  · rintro ⟨_, a, hmem, rfl⟩
    exact ⟨a, hmem⟩
  · rintro ⟨a, hmem⟩
    exact ⟨key, a, hmem, rfl⟩

theorem mem_keyed {a : α} : (key, a) ∈ keyed keyOf entries ↔ a ∈ entries ∧ keyOf a = key := by
  simp only [keyed, List.mem_map, Prod.mk.injEq]
  constructor
  · rintro ⟨_, hmem, hkey, rfl⟩
    exact ⟨hmem, hkey⟩
  · rintro ⟨hmem, hkey⟩
    exact ⟨a, hmem, hkey, rfl⟩

theorem has_keyed : (keyed keyOf entries).has key = true ↔ key ∈ entries.map keyOf := by
  simp only [has_iff, mem_keyed, List.mem_map]

theorem get?_keyed {a : α} (h : (keyed keyOf entries).get? key = some a) : a ∈ entries ∧ keyOf a = key := by
  obtain ⟨⟨found, _⟩, hfind, rfl⟩ := Option.map_eq_some_iff.mp h
  have hkey : found = key := by simpa using List.find?_some hfind
  rw [← mem_keyed, ← hkey]
  exact List.mem_of_find?_eq_some hfind

/-- Entries are put behind an index if their keys are new and distinct. -/
theorem extend_eq_ok_iff : extend kind keyOf index entries = .ok result ↔
    (∀ a ∈ entries, ¬ index.has (keyOf a) = true) ∧ (entries.map keyOf).Nodup ∧
      result = index ++ keyed keyOf entries := by
  induction entries generalizing index with
  | nil =>
      rw [extend, keyed, List.map_nil, List.map_nil, List.append_nil]
      constructor
      · intro h
        exact ⟨List.forall_mem_nil _, List.nodup_nil, (Except.ok.inj h).symm⟩
      · rintro ⟨-, -, rfl⟩
        rfl
  | cons a rest ih =>
      have hnew : ∀ b, ¬ (index ++ [(keyOf a, a)]).has (keyOf b) = true ↔
          ¬ index.has (keyOf b) = true ∧ keyOf b ≠ keyOf a := by
        intro b
        rw [has, List.any_append, ← has, List.any_cons, List.any_nil, Bool.or_false, Bool.or_eq_true, not_or, beq_iff_eq]
        exact and_congr_right fun _ => ne_comm
      rw [extend]
      split
      · rename_i hhas
        simp [hhas]
      · rename_i hfree
        simp only [ih, hnew, List.forall_mem_cons, List.map_cons, List.nodup_cons, keyed, List.append_assoc,
          List.singleton_append, List.mem_map]
        constructor
        · rintro ⟨hkeys, hnodup, rfl⟩
          refine ⟨⟨hfree, fun b hb => (hkeys b hb).1⟩, ⟨?_, hnodup⟩, rfl⟩
          rintro ⟨b, hb, hsame⟩
          exact (hkeys b hb).2 hsame
        · rintro ⟨⟨-, hkeys⟩, ⟨hother, hnodup⟩, rfl⟩
          exact ⟨fun b hb => ⟨hkeys b hb, fun hsame => hother ⟨b, hb, hsame⟩⟩, hnodup, rfl⟩

theorem ofList_eq_ok_iff : ofList kind keyOf entries = .ok result ↔
    (entries.map keyOf).Nodup ∧ result = keyed keyOf entries := by
  rw [ofList, extend_eq_ok_iff]
  simp [has]

theorem extend_eq_error {cause : Refusal} (h : extend kind keyOf index entries = .error cause) :
    ∃ a ∈ entries, cause = .duplicateKey kind (keyOf a) := by
  induction entries generalizing index with
  | nil => cases h
  | cons a rest ih =>
      rw [extend] at h
      split at h
      · exact ⟨a, List.mem_cons_self, (Except.error.inj h).symm⟩
      · obtain ⟨b, hb, hcause⟩ := ih h
        exact ⟨b, List.mem_cons_of_mem a hb, hcause⟩

theorem code_of_ofList {cause : Refusal} (h : ofList kind keyOf entries = .error cause) :
    cause.code = .catalogInvalid := by
  obtain ⟨_, _, rfl⟩ := extend_eq_error h
  rfl

end Index

/-! ### Data as a whole -/

namespace CatalogData

/-- No key is used twice, blueprints name blocks of the data, and a filter that gives options has effects only for
these. -/
structure Consistent (d : CatalogData) : Prop where
  profiles : (d.profiles.map (·.id)).Nodup
  blueprints : (d.blueprints.map (·.id)).Nodup
  blocks : (d.blocks.map (·.key)).Nodup
  filters : (d.filters.map (·.key)).Nodup
  baseModels : (d.baseModels.map (·.name)).Nodup
  references : ∀ b ∈ d.blueprints, ∀ key ∈ b.blocks, key ∈ d.blocks.map (·.key)
  effects : ∀ f ∈ d.filters, f.schema.options ≠ [] → ∀ e ∈ f.effect, e.1 ∈ f.schema.options

/-- The catalog with the entries of every list in their order, each under its own key. -/
def indexed (d : CatalogData) : Catalog where
  profiles := .keyed (·.id) d.profiles
  blueprints := .keyed (·.id) d.blueprints
  blocks := .keyed (·.key) d.blocks
  filters := .keyed (·.key) d.filters
  baseModels := .keyed (·.name) d.baseModels

end CatalogData

namespace Catalog

variable {c : Catalog}

theorem missingBlocks_eq_nil_iff {keys : List Text} :
    c.missingBlocks keys = [] ↔ ∀ key ∈ keys, c.blocks.has key = true := by
  simp [missingBlocks, List.filter_eq_nil_iff]

theorem strayValues_eq_nil_iff {f : Filter} :
    strayValues f = [] ↔ (f.schema.options ≠ [] → ∀ e ∈ f.effect, e.1 ∈ f.schema.options) := by
  simp only [strayValues, List.filter_eq_nil_iff, List.mem_map, Bool.and_eq_true, Bool.not_eq_true',
    List.isEmpty_eq_false_iff, List.contains_eq_mem, decide_eq_false_iff_not, not_and, Decidable.not_not]
  constructor
  · intro h hoptions e he
    exact h e.1 ⟨e, he, rfl⟩ hoptions
  · rintro h _ ⟨e, he, rfl⟩ hoptions
    exact h hoptions e he

theorem checkBlueprints_eq_ok_iff {blueprints : List Blueprint} :
    c.checkBlueprints blueprints = .ok () ↔ ∀ b ∈ blueprints, ∀ key ∈ b.blocks, c.blocks.has key = true := by
  induction blueprints with
  | nil => simp [checkBlueprints]
  | cons b rest ih =>
      rw [checkBlueprints, List.forall_mem_cons, ← missingBlocks_eq_nil_iff, ← ih]
      split
      · rename_i hnone
        simp [hnone]
      · rename_i hmissing
        exact iff_of_false (fun h => nomatch h) fun h => hmissing h.1

theorem checkFilters_eq_ok_iff {filters : List Filter} :
    checkFilters filters = .ok () ↔
      ∀ f ∈ filters, f.schema.options ≠ [] → ∀ e ∈ f.effect, e.1 ∈ f.schema.options := by
  induction filters with
  | nil => simp [checkFilters]
  | cons f rest ih =>
      rw [checkFilters, List.forall_mem_cons, ← strayValues_eq_nil_iff, ← ih]
      split
      · rename_i hnone
        simp [hnone]
      · rename_i hvalues
        exact iff_of_false (fun h => nomatch h) fun h => hvalues h.1

theorem code_of_checkBlueprints {blueprints : List Blueprint} {cause : Refusal}
    (h : c.checkBlueprints blueprints = .error cause) : cause.code = .catalogInvalid := by
  induction blueprints with
  | nil => cases h
  | cons b rest ih =>
      rw [checkBlueprints] at h
      split at h
      · exact ih h
      · rw [← Except.error.inj h]
        rfl

theorem code_of_checkFilters {filters : List Filter} {cause : Refusal} (h : checkFilters filters = .error cause) :
    cause.code = .catalogInvalid := by
  induction filters with
  | nil => cases h
  | cons f rest ih =>
      rw [checkFilters] at h
      split at h
      · exact ih h
      · rw [← Except.error.inj h]
        rfl

variable {d : CatalogData}

theorem ofData_eq_ok_iff : ofData d = .ok c ↔ d.Consistent ∧ c = d.indexed := by
  simp only [ofData, bind_eq_ok, pure_eq_ok, Index.ofList_eq_ok_iff]
  constructor
  · rintro ⟨_, ⟨hprofiles, rfl⟩, _, ⟨hblueprints, rfl⟩, _, ⟨hblocks, rfl⟩, _, ⟨hfilters, rfl⟩, _, ⟨hbaseModels, rfl⟩,
      _, hreferences, _, heffects, rfl⟩
    rw [checkBlueprints_eq_ok_iff] at hreferences
    refine ⟨⟨hprofiles, hblueprints, hblocks, hfilters, hbaseModels, ?_, checkFilters_eq_ok_iff.mp heffects⟩, rfl⟩
    intro b hb key hkey
    exact Index.has_keyed.mp (hreferences b hb key hkey)
  · rintro ⟨h, rfl⟩
    refine ⟨_, ⟨h.profiles, rfl⟩, _, ⟨h.blueprints, rfl⟩, _, ⟨h.blocks, rfl⟩, _, ⟨h.filters, rfl⟩, _,
      ⟨h.baseModels, rfl⟩, (), ?_, (), checkFilters_eq_ok_iff.mpr h.effects, rfl⟩
    rw [checkBlueprints_eq_ok_iff]
    intro b hb key hkey
    exact Index.has_keyed.mpr (h.references b hb key hkey)

theorem code_of_ofData {cause : Refusal} (h : ofData d = .error cause) : cause.code = .catalogInvalid := by
  simp only [ofData, bind_eq_error, pure_ne_error, and_false, exists_const, or_false] at h
  rcases h with h | ⟨_, -, h | ⟨_, -, h | ⟨_, -, h | ⟨_, -, h | ⟨_, -, h | ⟨_, -, h⟩⟩⟩⟩⟩⟩
  any_goals exact Index.code_of_ofList h
  · exact code_of_checkBlueprints h
  · exact code_of_checkFilters h

end Catalog

end PromptStudio
