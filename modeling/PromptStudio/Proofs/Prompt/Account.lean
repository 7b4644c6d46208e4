import PromptStudio.Proofs.Catalog.Construction
import PromptStudio.Proofs.Prompt.Adapter
import PromptStudio.Proofs.Prompt.BlockOrder
import PromptStudio.Proofs.Prompt.Options

/-!
# What a prompt accounts for

Every block key of a blueprint is a rendered block or a warning, and every chosen filter is an effect or a warning. No
other part of compiling gives warnings of these two kinds, so what a prompt counts and what it warns of add up to what
was asked for. In a catalog made from consistent data the blocks of a blueprint are all there, so none is missed.
-/

namespace PromptStudio

namespace PromptWarning

def ignores (key : Text) : PromptWarning → Bool
  | unknownFilter k | unknownFilterValue k _ => k == key
  | blockNotFound _ | forbiddenPattern _ | tooLong _ _ | conflict _ => false

def missesBlock : PromptWarning → Bool
  | blockNotFound _ => true
  | unknownFilter _ | unknownFilterValue _ _ | forbiddenPattern _ | tooLong _ _ | conflict _ => false

theorem not_ignores_of_concernsText {key : Text} (w : PromptWarning) (h : w.concernsText = true) :
    ¬ w.ignores key = true := by
  cases w with
  | forbiddenPattern _ | tooLong _ _ => exact Bool.false_ne_true
  | unknownFilter _ | unknownFilterValue _ _ | blockNotFound _ | conflict _ => cases h

theorem not_missesBlock_of_concernsText (w : PromptWarning) (h : w.concernsText = true) : ¬ w.missesBlock = true := by
  cases w with
  | forbiddenPattern _ | tooLong _ _ => exact Bool.false_ne_true
  | unknownFilter _ | unknownFilterValue _ _ | blockNotFound _ | conflict _ => cases h

end PromptWarning

/-! ### Blocks -/

namespace Index

variable {α : Type} {index : Index α}

theorem isSome_get? (index : Index α) (key : Text) : (index.get? key).isSome = index.has key := by
  rw [get?, has, Option.isSome_map, Bool.eq_iff_iff, List.find?_isSome, List.any_eq_true]

theorem length_filterMap_get?_add (index : Index α) (keys : List Text) :
    (keys.filterMap index.get?).length + (keys.filter (!index.has ·)).length = keys.length := by
  rw [List.length_filterMap_eq_countP, ← List.countP_eq_length_filter, List.length_eq_countP_add_countP index.has]
  simp only [isSome_get?, Bool.not_eq_true, Bool.decide_eq_false]

end Index

namespace Catalog

/-! ### Filters -/

/-- The text that a choice stands for: its filter is in the catalog and has a text for the value. -/
def textOf? (c : Catalog) (choice : Text × Text) : Option Text :=
  (c.filters.get? choice.1).bind (·.effectOf? choice.2)

/-- The warning about a choice that stands for no text. -/
def ignored (c : Catalog) (choice : Text × Text) : PromptWarning :=
  if c.filters.has choice.1 then .unknownFilterValue choice.1 choice.2 else .unknownFilter choice.1

variable {c : Catalog} {choice : Text × Text} {text key : Text} {filters : List (Text × Text)}

theorem ignores_ignored (c : Catalog) (choice : Text × Text) (key : Text) :
    (c.ignored choice).ignores key = (choice.1 == key) := by
  rw [ignored]
  split <;> rfl

theorem resolveFilter_of_textOf?_eq_some (h : c.textOf? choice = some text) :
    c.resolveFilter choice = .ok (choice.1, text) := by
  obtain ⟨f, hfilter, heffect⟩ := Option.bind_eq_some_iff.mp h
  rw [resolveFilter, hfilter]
  dsimp only
  rw [heffect]

theorem resolveFilter_of_textOf?_eq_none (h : c.textOf? choice = none) :
    c.resolveFilter choice = .error (c.ignored choice) := by
  rw [resolveFilter, ignored, ← Index.isSome_get?]
  cases hfilter : c.filters.get? choice.1 with
  | none => rfl
  | some f =>
      rw [textOf?, hfilter, Option.bind_some] at h
      dsimp only
      rw [h]
      rfl

/-- The effects of filters: each choice that stands for a text gives it, in the order of the choices. -/
theorem effects_eq (c : Catalog) (filters : List (Text × Text)) :
    c.effects filters = filters.filterMap fun choice => (c.textOf? choice).map (choice.1, ·) := by
  refine List.filterMap_congr fun choice _ => ?_
  cases htext : c.textOf? choice with
  | none => rw [resolveFilter_of_textOf?_eq_none htext]; rfl
  | some text => rw [resolveFilter_of_textOf?_eq_some htext]; rfl

/-- The warnings about filters: each choice that stands for no text gives one, in the order of the choices. -/
theorem filterWarnings_eq (c : Catalog) (filters : List (Text × Text)) :
    c.filterWarnings filters = (filters.filter fun choice => (c.textOf? choice).isNone).map c.ignored := by
  rw [filterWarnings, ← List.filterMap_eq_map, List.filterMap_filter]
  refine List.filterMap_congr fun choice _ => ?_
  cases htext : c.textOf? choice with
  | none => rw [resolveFilter_of_textOf?_eq_none htext]; rfl
  | some text => rw [resolveFilter_of_textOf?_eq_some htext]; rfl

theorem countP_effects_add_countP_filterWarnings (c : Catalog) (filters : List (Text × Text)) (key : Text) :
    (c.effects filters).countP (·.1 == key) + (c.filterWarnings filters).countP (·.ignores key)
      = filters.countP (·.1 == key) := by
  rw [effects_eq, filterWarnings_eq]
  induction filters with
  | nil => rfl
  | cons choice rest ih =>
      cases htext : c.textOf? choice with
      | none => simp [htext, List.countP_cons, ignores_ignored, ← ih, Nat.add_assoc]
      | some text => simp [htext, List.countP_cons, ← ih, Nat.add_right_comm]

end Catalog

/-! ### Conflicts -/

namespace FilterConflict

variable {filters : List (Text × Text)} {x : FilterConflict}

theorem chosen_iff (hkeys : (filters.map (·.1)).Nodup) (side : Text × Text) :
    chosen filters side = true ↔ side ∈ filters := by
  rw [chosen, beq_iff_eq]
  exact Index.get?_eq_some_iff_mem hkeys

theorem mem_among_iff (hkeys : (filters.map (·.1)).Nodup) :
    x ∈ among filters ↔ x.sides.1 ∈ filters ∧ x.sides.2 ∈ filters := by
  have hall : x ∈ all := by cases x <;> decide
  rw [among, List.mem_filter, Bool.and_eq_true, chosen_iff hkeys, chosen_iff hkeys]
  exact and_iff_right hall

end FilterConflict

/-! ### Prompts -/

namespace Compiler

variable {c : Compiler} {p : Profile} {b : Blueprint} {r : PromptRequest} {adapter : Option Adapter} {seed key : Text}

theorem warnings_build : (c.build p b r adapter seed).warnings
    = c.catalog.filterWarnings r.filters
      ++ ((c.orderedKeys p b).filter (!c.catalog.blocks.has ·)).map .blockNotFound
      ++ (finished p (c.unfinished p b r adapter)).2 ++ (FilterConflict.among r.filters).map .conflict := rfl

theorem blockCount_build : (c.build p b r adapter seed).blockCount
    = ((c.orderedKeys p b).filterMap c.catalog.blocks.get?).length :=
  List.length_map _

/-- Warnings that concern neither the text nor a conflict come from the choices and the block keys. -/
theorem countP_warnings_build {about : PromptWarning → Bool} (htext : ∀ w, w.concernsText = true → ¬ about w = true)
    (hconflict : ∀ x, ¬ about (.conflict x) = true) : (c.build p b r adapter seed).warnings.countP about
      = (c.catalog.filterWarnings r.filters).countP about
        + (((c.orderedKeys p b).filter (!c.catalog.blocks.has ·)).map .blockNotFound).countP about := by
  have hfinished : (finished p (c.unfinished p b r adapter)).2.countP about = 0 :=
    List.countP_eq_zero.mpr fun w hw => htext w (concernsText_of_mem_finished hw)
  have hconflicts : ((FilterConflict.among r.filters).map PromptWarning.conflict).countP about = 0 := by
    rw [List.countP_map, List.countP_eq_zero]
    exact fun x _ => hconflict x
  rw [warnings_build, List.countP_append, List.countP_append, List.countP_append, hfinished, hconflicts]
  rfl

theorem countP_ignores_build : (c.build p b r adapter seed).warnings.countP (·.ignores key)
    = (c.catalog.filterWarnings r.filters).countP (·.ignores key) := by
  have hmissing : (((c.orderedKeys p b).filter (!c.catalog.blocks.has ·)).map PromptWarning.blockNotFound).countP
      (·.ignores key) = 0 := by
    rw [List.countP_map, List.countP_eq_zero]
    exact fun _ _ => Bool.false_ne_true
  rw [countP_warnings_build PromptWarning.not_ignores_of_concernsText fun _ => Bool.false_ne_true, hmissing, Nat.add_zero]

theorem countP_missesBlock_build : (c.build p b r adapter seed).warnings.countP (·.missesBlock)
    = ((c.orderedKeys p b).filter (!c.catalog.blocks.has ·)).length := by
  have hfilters : (c.catalog.filterWarnings r.filters).countP (·.missesBlock) = 0 := by
    rw [Catalog.filterWarnings_eq, List.countP_map, List.countP_eq_zero]
    intro choice _
    rw [Function.comp_apply, Catalog.ignored]
    split <;> exact Bool.false_ne_true
  rw [countP_warnings_build PromptWarning.not_missesBlock_of_concernsText fun _ => Bool.false_ne_true, hfilters,
    Nat.zero_add, List.countP_map, List.countP_eq_length.mpr]
  exact fun _ _ => rfl

theorem blockCount_add_countP_missesBlock : (c.build p b r adapter seed).blockCount
    + (c.build p b r adapter seed).warnings.countP (·.missesBlock) = b.blocks.length := by
  rw [blockCount_build, countP_missesBlock_build, Index.length_filterMap_get?_add]
  exact (c.catalog.orderBlocks_perm b.blocks p.preferredOrder).length_eq

theorem countP_effects_add_countP_ignores : (c.catalog.effects r.filters).countP (·.1 == key)
    + (c.build p b r adapter seed).warnings.countP (·.ignores key) = r.filters.countP (·.1 == key) := by
  rw [countP_ignores_build, Catalog.countP_effects_add_countP_filterWarnings]

theorem countP_missesBlock_of_consistent {d : CatalogData} (h : d.Consistent) (hcatalog : c.catalog = d.indexed)
    (hregistered : c.registered = []) {id : Text} (hblueprint : c.blueprint id = .ok b) :
    (c.build p b r adapter seed).warnings.countP (·.missesBlock) = 0 := by
  rw [blueprint, hregistered, List.find?_nil, Option.none_or, hcatalog] at hblueprint
  split at hblueprint
  · rename_i found hfound
    obtain rfl := Except.ok.inj hblueprint
    rw [countP_missesBlock_build, List.length_eq_zero_iff, List.filter_eq_nil_iff]
    intro key hkey
    rw [orderedKeys, (c.catalog.orderBlocks_perm _ _).mem_iff] at hkey
    have hhas : c.catalog.blocks.has key = true :=
      hcatalog ▸ Index.has_keyed.mpr (h.references found (Index.get?_keyed hfound).1 key hkey)
    rw [hhas]
    exact Bool.false_ne_true
  · cases hblueprint

end Compiler

/-- Of every prompt that is compiled, from whatever catalog, registered blueprints, request and adapter: rendered blocks
and warnings about missing ones are together as many as the block keys of the blueprint, a repeated key counted each
time. Where no filter is chosen twice, each chosen filter gives an effect or a warning that it was ignored, and just one
of the two. The warnings are those about ignored filters in the order of the request, those about missing blocks in the
order of rendering, one for each forbidden pattern that was found, one about the length just where the redacted text is
too long, and the conflicts of which both sides are chosen. A blueprint of a catalog made from data, where none is
registered beside it, misses no block. -/
theorem prompt_accounts_for_blocks_and_filters (c : Compiler) (r : PromptRequest) (adapter : Option Adapter) (now : Int)
    (draw : Nat) {result : CompiledPrompt} (h : (c.compile r adapter now draw).1 = .ok result) :
    ∃ p b redacted, c.profile r.profileId = .ok p ∧ c.blueprint r.blueprintId = .ok b ∧
      redacted = Redaction.run p.forbiddenPatterns (c.unfinished p b r adapter) ∧
      result.text = redacted.text.take p.maxLength ∧
      result.blockCount + result.warnings.countP (·.missesBlock) = b.blocks.length ∧
      ((r.filters.map (·.1)).Nodup → ∀ choice ∈ r.filters,
        (c.catalog.effects r.filters).countP (·.1 == choice.1) + result.warnings.countP (·.ignores choice.1) = 1) ∧
      result.warnings
        = (r.filters.filter fun choice => (c.catalog.textOf? choice).isNone).map c.catalog.ignored
          ++ ((c.catalog.orderBlocks b.blocks p.preferredOrder).filter (!c.catalog.blocks.has ·)).map .blockNotFound
          ++ redacted.found.map .forbiddenPattern
          ++ (if p.maxLength < redacted.text.length then [.tooLong redacted.text.length p.maxLength] else [])
          ++ (FilterConflict.among r.filters).map .conflict ∧
      redacted.found.Nodup ∧ (∀ pattern ∈ redacted.found, pattern ∈ p.forbiddenPatterns ∧ pattern ≠ []) ∧
      ((r.filters.map (·.1)).Nodup → ∀ x : FilterConflict,
        x ∈ FilterConflict.among r.filters ↔ x.sides.1 ∈ r.filters ∧ x.sides.2 ∈ r.filters) ∧
      (∀ d, Catalog.ofData d = .ok c.catalog → c.registered = [] →
        result.warnings.countP (·.missesBlock) = 0 ∧ result.blockCount = b.blocks.length) := by
  obtain ⟨p, b, hprofile, hblueprint, rfl⟩ := Compiler.compile_eq_ok h
  have hfrom := Redaction.from_run p.forbiddenPatterns (c.unfinished p b r adapter)
  refine ⟨p, b, _, hprofile, hblueprint, rfl, rfl, Compiler.blockCount_add_countP_missesBlock, ?_, ?_, hfrom.nodup,
    fun _ hfound => Redaction.mem_filter_isEmpty.mp (hfrom.subset hfound),
    fun hkeys _ => FilterConflict.mem_among_iff hkeys, ?_⟩
  · intro hkeys choice hchoice
    have honce := List.count_eq_one_of_mem hkeys (List.mem_map_of_mem hchoice)
    rw [List.count, List.countP_map] at honce
    rw [Compiler.countP_effects_add_countP_ignores]
    exact honce
  · rw [Compiler.warnings_build, Catalog.filterWarnings_eq, Compiler.finished, ← List.append_assoc]
    rfl
  · intro d hdata hregistered
    obtain ⟨hconsistent, hcatalog⟩ := Catalog.ofData_eq_ok_iff.mp hdata
    have hnone : (c.build p b r adapter (Seed.ofRequest r now draw).1).warnings.countP (·.missesBlock) = 0 :=
      Compiler.countP_missesBlock_of_consistent hconsistent hcatalog hregistered hblueprint
    refine ⟨hnone, ?_⟩
    rw [← Compiler.blockCount_add_countP_missesBlock, hnone, Nat.add_zero]

def Compiler.patchy : Compiler :=
  (Compiler.ofCatalog (CatalogData.moody ["bright"]).indexed).register
    { Blueprint.bare with blocks := ["light", "gone", "light"] }

/-- Three keys and an ignored choice are accounted for; the blueprint of the catalog itself misses no block. -/
theorem patchy_prompt_is_accounted_for :
    (∃ result, (Compiler.patchy.compile (.inMood "dark") none 0 1).1 = .ok result ∧
      result.blockCount + result.warnings.countP (·.missesBlock) = 3 ∧
      (Compiler.patchy.catalog.effects [("mood", "dark")]).countP (·.1 == Text.ofString "mood")
        + result.warnings.countP (·.ignores "mood") = 1) ∧
    ∃ result, ((Compiler.ofCatalog (CatalogData.moody ["bright"]).indexed).compile (.inMood "dark") none 0 1).1
        = .ok result ∧ result.blockCount = 1 := by
  constructor
  · obtain ⟨p, b, _, -, hblueprint, -, -, hblocks, hfilters, -⟩ :=
      prompt_accounts_for_blocks_and_filters Compiler.patchy (.inMood "dark") none 0 1 rfl
    cases hblueprint
    exact ⟨_, rfl, hblocks, hfilters (by decide) ("mood", "dark") List.mem_cons_self⟩
  · obtain ⟨p, b, _, -, hblueprint, -, -, -, -, -, -, -, -, hclosed⟩ :=
      prompt_accounts_for_blocks_and_filters (Compiler.ofCatalog (CatalogData.moody ["bright"]).indexed)
        (.inMood "dark") none 0 1 rfl
    cases hblueprint
    exact ⟨_, rfl, (hclosed (.moody ["bright"]) (by rfl) rfl).2⟩

end PromptStudio
