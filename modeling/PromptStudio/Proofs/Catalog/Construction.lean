import Mathlib.Data.List.Duplicate
import PromptStudio.Proofs.Catalog.Consistency
import PromptStudio.Proofs.Store.Update

/-!
# Making a catalog

Catalog data is consistent, or it has a defect that can be named: a key that two entries of a list share, a blueprint
with blocks that are not there, or a filter with effects outside its options. To make a catalog of the data succeeds in
the first case. In the second the refusal names such a defect, and not only that there is one.
-/

namespace PromptStudio

namespace Index

variable {α : Type} {kind : String} {keyOf : α → Text} {index : Index α} {entries : List α} {cause : Refusal}

/-! ### What an index holds -/

theorem get?_eq_some_iff_mem {key : Text} {a : α} (hkeys : (index.map (·.1)).Nodup) :
    index.get? key = some a ↔ (key, a) ∈ index := by
  rw [get?, Option.map_eq_some_iff]
  simp only [Store.find?_eq_some_iff_mem hkeys]
  constructor
  · rintro ⟨⟨_, _⟩, ⟨hmem, rfl⟩, rfl⟩
    exact hmem
  · exact fun hmem => ⟨(key, a), ⟨hmem, rfl⟩, rfl⟩

/-- An index holds a list: its entries are those of the list in their order, each stands under its own key, and it is
found there. -/
structure Holds (index : Index α) (keyOf : α → Text) (entries : List α) : Prop where
  values : index.map (·.2) = entries
  keys : ∀ e ∈ index, e.1 = keyOf e.2
  found : ∀ key a, index.get? key = some a ↔ a ∈ entries ∧ keyOf a = key

theorem map_fst_keyed (keyOf : α → Text) (entries : List α) : (keyed keyOf entries).map (·.1) = entries.map keyOf := by
  rw [keyed, List.map_map]
  rfl

theorem holds_keyed (hkeys : (entries.map keyOf).Nodup) : (keyed keyOf entries).Holds keyOf entries where
  values := by
    rw [keyed, List.map_map]
    exact List.map_id entries
  keys := by
    rintro ⟨key, a⟩ he
    exact (mem_keyed.mp he).2.symm
  found := by
    intro key a
    rw [← map_fst_keyed] at hkeys
    rw [get?_eq_some_iff_mem hkeys, mem_keyed]

/-! ### The key that is refused -/

/-- Entries are refused for a key that occurs twice, in the index before them or among them. -/
theorem duplicate_of_extend (h : extend kind keyOf index entries = .error cause) :
    ∃ key, cause = .duplicateKey kind key ∧ List.Duplicate key (index.map (·.1) ++ entries.map keyOf) := by
  induction entries generalizing index with
  | nil => cases h
  | cons a rest ih =>
      rw [extend] at h
      split at h
      · rename_i hhas
        obtain ⟨b, hb⟩ := has_iff.mp hhas
        have hbefore : [keyOf a].Sublist (index.map (·.1)) :=
          List.singleton_sublist.mpr (List.mem_map.mpr ⟨(keyOf a, b), hb, rfl⟩)
        have hnow : [keyOf a].Sublist ((a :: rest).map keyOf) := List.singleton_sublist.mpr List.mem_cons_self
        exact ⟨keyOf a, (Except.error.inj h).symm, List.duplicate_iff_sublist.mpr (hbefore.append hnow)⟩
      · obtain ⟨key, hcause, hduplicate⟩ := ih h
        rw [List.map_append, List.append_assoc] at hduplicate
        exact ⟨key, hcause, hduplicate⟩

theorem duplicate_of_ofList (h : ofList kind keyOf entries = .error cause) :
    ∃ key, cause = .duplicateKey kind key ∧ List.Duplicate key (entries.map keyOf) :=
  duplicate_of_extend h

end Index

/-! ### Defects -/

namespace CatalogData

variable {d : CatalogData} {cause : Refusal}

/-- The keys of each list, with what its entries are called. -/
def keyColumns (d : CatalogData) : List (String × List Text) :=
  [("profile", d.profiles.map (·.id)), ("blueprint", d.blueprints.map (·.id)), ("block", d.blocks.map (·.key)),
    ("filter", d.filters.map (·.key)), ("base model", d.baseModels.map (·.name))]

inductive Defect (d : CatalogData) : Refusal → Prop
  | duplicateKey {kind : String} {keys : List Text} {key : Text} (hcolumn : (kind, keys) ∈ d.keyColumns)
      (htwice : List.Duplicate key keys) : d.Defect (.duplicateKey kind key)
  | danglingBlocks {b : Blueprint} {missing : List Text} (hblueprint : b ∈ d.blueprints) (hsome : missing ≠ [])
      (hmissing : ∀ key, key ∈ missing ↔ key ∈ b.blocks ∧ key ∉ d.blocks.map (·.key)) :
      d.Defect (.danglingBlocks b.id missing)
  | effectsOutsideOptions {f : Filter} {values : List Text} (hfilter : f ∈ d.filters) (hsome : values ≠ [])
      (hvalues : ∀ value, value ∈ values ↔
        value ∈ f.effect.map (·.1) ∧ f.schema.options ≠ [] ∧ value ∉ f.schema.options) :
      d.Defect (.effectsOutsideOptions f.key values)

namespace Defect

theorem code (h : d.Defect cause) : cause.code = .catalogInvalid := by
  cases h with
  | _ => rfl

theorem not_consistent (h : d.Defect cause) : ¬ d.Consistent := by
  intro hd
  cases h with
  | duplicateKey hcolumn htwice =>
      refine htwice.not_nodup ?_
      simp only [keyColumns, List.mem_cons, Prod.mk.injEq, List.not_mem_nil, or_false] at hcolumn
      rcases hcolumn with ⟨-, rfl⟩ | ⟨-, rfl⟩ | ⟨-, rfl⟩ | ⟨-, rfl⟩ | ⟨-, rfl⟩
      · exact hd.profiles
      · exact hd.blueprints
      · exact hd.blocks
      · exact hd.filters
      · exact hd.baseModels
  | danglingBlocks hblueprint hsome hmissing =>
      obtain ⟨key, hkey⟩ := List.exists_mem_of_ne_nil _ hsome
      obtain ⟨hused, hnone⟩ := (hmissing key).mp hkey
      exact hnone (hd.references _ hblueprint key hused)
  | effectsOutsideOptions hfilter hsome hvalues =>
      obtain ⟨value, hvalue⟩ := List.exists_mem_of_ne_nil _ hsome
      obtain ⟨heffect, hoptions, hstray⟩ := (hvalues value).mp hvalue
      obtain ⟨e, he, rfl⟩ := List.mem_map.mp heffect
      exact hstray (hd.effects _ hfilter hoptions e he)

end Defect

end CatalogData

namespace Catalog

variable {c : Catalog} {d : CatalogData} {cause : Refusal}

theorem exists_of_checkBlueprints {blueprints : List Blueprint} (h : c.checkBlueprints blueprints = .error cause) :
    ∃ b ∈ blueprints, c.missingBlocks b.blocks ≠ [] ∧ cause = .danglingBlocks b.id (c.missingBlocks b.blocks) := by
  induction blueprints with
  | nil => cases h
  | cons b rest ih =>
      rw [checkBlueprints] at h
      split at h
      · obtain ⟨other, hother, hfound⟩ := ih h
        exact ⟨other, List.mem_cons_of_mem b hother, hfound⟩
      · rename_i hsome
        exact ⟨b, List.mem_cons_self, hsome, (Except.error.inj h).symm⟩

theorem exists_of_checkFilters {filters : List Filter} (h : checkFilters filters = .error cause) :
    ∃ f ∈ filters, strayValues f ≠ [] ∧ cause = .effectsOutsideOptions f.key (strayValues f) := by
  induction filters with
  | nil => cases h
  | cons f rest ih =>
      rw [checkFilters] at h
      split at h
      · obtain ⟨other, hother, hfound⟩ := ih h
        exact ⟨other, List.mem_cons_of_mem f hother, hfound⟩
      · rename_i hsome
        exact ⟨f, List.mem_cons_self, hsome, (Except.error.inj h).symm⟩

theorem mem_missingBlocks {keys : List Text} {key : Text} :
    key ∈ c.missingBlocks keys ↔ key ∈ keys ∧ ¬ c.blocks.has key = true := by
  rw [missingBlocks, List.mem_filter, Bool.not_eq_true', Bool.not_eq_true]

theorem mem_strayValues {f : Filter} {value : Text} :
    value ∈ strayValues f ↔ value ∈ f.effect.map (·.1) ∧ f.schema.options ≠ [] ∧ value ∉ f.schema.options := by
  simp [strayValues, List.mem_filter]

theorem defect_of_ofData (h : ofData d = .error cause) : d.Defect cause := by
  have hkeys {α : Type} {kind : String} {keyOf : α → Text} {entries : List α}
      (hcolumn : (kind, entries.map keyOf) ∈ d.keyColumns) (hlist : Index.ofList kind keyOf entries = .error cause) :
      d.Defect cause := by
    obtain ⟨key, rfl, htwice⟩ := Index.duplicate_of_ofList hlist
    exact .duplicateKey hcolumn htwice
  simp only [ofData, bind_eq_error, pure_ne_error, and_false, exists_const, or_false, Index.ofList_eq_ok_iff] at h
  -- One case for each list that is indexed, in their order, and then one for each of the two checks.
  rcases h with h | ⟨_, -, h | ⟨_, -, h | ⟨blocks, ⟨-, hblocks⟩, h | ⟨_, -, h | ⟨_, -, h | ⟨_, -, h⟩⟩⟩⟩⟩⟩
  · exact hkeys (by simp [CatalogData.keyColumns]) h
  · exact hkeys (by simp [CatalogData.keyColumns]) h
  · exact hkeys (by simp [CatalogData.keyColumns]) h
  · exact hkeys (by simp [CatalogData.keyColumns]) h
  · exact hkeys (by simp [CatalogData.keyColumns]) h
  · obtain ⟨b, hb, hsome, rfl⟩ := exists_of_checkBlueprints h
    refine .danglingBlocks hb hsome fun key => ?_
    rw [mem_missingBlocks, hblocks, Index.has_keyed]
  · obtain ⟨f, hf, hsome, rfl⟩ := exists_of_checkFilters h
    exact .effectsOutsideOptions hf hsome fun _ => mem_strayValues

theorem consistent_iff_forall_not_defect : d.Consistent ↔ ∀ cause, ¬ d.Defect cause := by
  constructor
  · exact fun hd _ hdefect => hdefect.not_consistent hd
  · intro hnone
    cases hmade : ofData d with
    | ok c => exact (ofData_eq_ok_iff.mp hmade).1
    | error cause => exact absurd (defect_of_ofData hmade) (hnone cause)

/-- Data makes a catalog exactly if it is consistent; the catalog then holds each of its five lists. Other data is
refused as an invalid catalog, for a defect that it has. -/
theorem catalog_is_made_iff_consistent (d : CatalogData) :
    ((∃ c, ofData d = .ok c) ↔ d.Consistent) ∧
      (∀ c, ofData d = .ok c →
        c.profiles.Holds (·.id) d.profiles ∧ c.blueprints.Holds (·.id) d.blueprints ∧
          c.blocks.Holds (·.key) d.blocks ∧ c.filters.Holds (·.key) d.filters ∧
          c.baseModels.Holds (·.name) d.baseModels) ∧
      (¬ d.Consistent → ∃ cause, ofData d = .error cause ∧ cause.code = .catalogInvalid ∧ d.Defect cause) := by
  refine ⟨?_, ?_, ?_⟩
  · constructor
    · rintro ⟨c, hmade⟩
      exact (ofData_eq_ok_iff.mp hmade).1
    · intro hd
      exact ⟨d.indexed, ofData_eq_ok_iff.mpr ⟨hd, rfl⟩⟩
  · intro c hmade
    obtain ⟨hd, rfl⟩ := ofData_eq_ok_iff.mp hmade
    exact ⟨Index.holds_keyed hd.profiles, Index.holds_keyed hd.blueprints, Index.holds_keyed hd.blocks,
      Index.holds_keyed hd.filters, Index.holds_keyed hd.baseModels⟩
  · intro hd
    cases hmade : ofData d with
    | ok c => exact absurd (ofData_eq_ok_iff.mp hmade).1 hd
    | error cause => exact ⟨cause, rfl, (defect_of_ofData hmade).code, defect_of_ofData hmade⟩

end Catalog

end PromptStudio
