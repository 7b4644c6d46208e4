import PromptStudio.Proofs.Catalog.Consistency
import PromptStudio.Proofs.Prompt.Compiled

/-!
# Values that take effect

A filter of a catalog that gives options has effects for these only. So a chosen value that gives a text is one of the
options, or the filter gives none and leaves its values open. A choice that is neither can be taken out of a request,
and the text and the pack stay the same.
-/

namespace PromptStudio

theorem Filter.mem_effect_of_effectOf? {f : Filter} {value text : Text} (h : f.effectOf? value = some text) :
    (value, text) ∈ f.effect := by
  rw [effectOf?] at h
  split at h
  · rename_i found hfound
    obtain ⟨⟨_, _⟩, hfind, rfl⟩ := Option.map_eq_some_iff.mp hfound
    obtain rfl : _ = value := by simpa using List.find?_some hfind
    split at h
    · cases h
    · cases h
      exact List.mem_of_find?_eq_some hfind
  · cases h

namespace Catalog

variable {c : Catalog}

theorem resolveFilter_eq_ok {choice effect : Text × Text} (h : c.resolveFilter choice = .ok effect) :
    ∃ f, c.filters.get? choice.1 = some f ∧ (choice.2, effect.2) ∈ f.effect := by
  rw [resolveFilter] at h
  split at h
  · cases h
  · rename_i f hfilter
    split at h
    · rename_i text htext
      cases h
      exact ⟨f, hfilter, Filter.mem_effect_of_effectOf? htext⟩
    · cases h

/-- Whether a chosen value is an option of its filter, or the filter leaves its values open. -/
def declares (c : Catalog) (choice : Text × Text) : Bool :=
  (c.filters.get? choice.1).any fun f => f.schema.options.isEmpty || f.schema.options.contains choice.2

/-- What a choice gives stands in the data, for an option of the filter if it gives any. -/
theorem exists_filter_of_resolveFilter {d : CatalogData} (h : d.Consistent) {choice effect : Text × Text}
    (hresolved : d.indexed.resolveFilter choice = .ok effect) :
    ∃ f ∈ d.filters, f.key = choice.1 ∧ (choice.2, effect.2) ∈ f.effect ∧
      (f.schema.options ≠ [] → choice.2 ∈ f.schema.options) := by
  obtain ⟨f, hfilter, heffect⟩ := resolveFilter_eq_ok hresolved
  obtain ⟨hmem, hkey⟩ := Index.get?_keyed hfilter
  exact ⟨f, hmem, hkey, heffect, fun hoptions => h.effects f hmem hoptions _ heffect⟩

theorem declares_of_resolveFilter {d : CatalogData} (h : d.Consistent) {choice effect : Text × Text}
    (hresolved : d.indexed.resolveFilter choice = .ok effect) : d.indexed.declares choice = true := by
  obtain ⟨f, hfilter, heffect⟩ := resolveFilter_eq_ok hresolved
  rw [declares, hfilter, Option.any_some, Bool.or_eq_true, List.isEmpty_iff, List.contains_iff_mem]
  by_cases hoptions : f.schema.options = []
  · exact .inl hoptions
  · exact .inr (h.effects f (Index.get?_keyed hfilter).1 hoptions _ heffect)

theorem effects_filter_declares {d : CatalogData} (h : d.Consistent) (filters : List (Text × Text)) :
    d.indexed.effects (filters.filter d.indexed.declares) = d.indexed.effects filters := by
  rw [effects, effects, List.filterMap_filter]
  refine List.filterMap_congr fun choice _ => ?_
  split
  · rfl
  · rename_i hundeclared
    cases hresolved : d.indexed.resolveFilter choice with
    | error _ => rfl
    | ok effect => exact absurd (declares_of_resolveFilter h hresolved) hundeclared

end Catalog

namespace Compiler

variable {c : Compiler} {p : Profile} {b : Blueprint} {r : PromptRequest} {adapter : Option Adapter}
  {filters : List (Text × Text)}

theorem rendered_draft_of_effects (h : c.catalog.effects filters = c.catalog.effects r.filters) :
    (c.draft p b { r with filters }).rendered = (c.draft p b r).rendered := by
  rw [draft, draft, h]
  rfl

theorem text_pack_build_of_effects (h : c.catalog.effects filters = c.catalog.effects r.filters) (seed other : Text) :
    (c.build p b { r with filters } adapter seed).text = (c.build p b r adapter other).text ∧
      (c.build p b { r with filters } adapter seed).pack = (c.build p b r adapter other).pack := by
  constructor
  · rw [build, build]
    dsimp only
    rw [assembled, assembled, rendered_draft_of_effects h]
    rfl
  · rw [build, build]
    dsimp only
    rw [rendered_draft_of_effects h, draft, draft, h]
    rfl

/-- A request whose filters have the same effects compiles to the same text and pack. -/
theorem exists_compile_of_effects (h : c.catalog.effects filters = c.catalog.effects r.filters) {now : Int} {draw : Nat}
    {prompt : CompiledPrompt} (hcompiled : (c.compile r adapter now draw).1 = .ok prompt) :
    ∃ same, (c.compile { r with filters } adapter now draw).1 = .ok same ∧ same.text = prompt.text ∧
      same.pack = prompt.pack := by
  obtain ⟨p, b, hprofile, hblueprint, hchecked, rfl⟩ := compile_eq_ok_iff.mp hcompiled
  exact ⟨_, compile_eq_ok_iff.mpr ⟨p, b, hprofile, hblueprint, hchecked, rfl⟩, text_pack_build_of_effects h _ _⟩

end Compiler

/-- Of every catalog that is accepted: a filter that gives options has effects for these only. So in every prompt that is
compiled from it, a choice that gives a text has a value among the options of its filter, if that gives any; and without
the choices whose values are not declared the text and the pack are the same. -/
theorem only_declared_options_take_effect {d : CatalogData} {catalog : Catalog} (h : Catalog.ofData d = .ok catalog) :
    (∀ f ∈ d.filters, f.schema.options ≠ [] → ∀ e ∈ f.effect, e.1 ∈ f.schema.options) ∧
      ∀ (c : Compiler), c.catalog = catalog → ∀ (r : PromptRequest) (adapter : Option Adapter) (now : Int) (draw : Nat)
        (prompt : CompiledPrompt), (c.compile r adapter now draw).1 = .ok prompt →
          (∀ choice ∈ r.filters, ∀ effect, catalog.resolveFilter choice = .ok effect →
            ∃ f ∈ d.filters, f.key = choice.1 ∧ (choice.2, effect.2) ∈ f.effect ∧
              (f.schema.options ≠ [] → choice.2 ∈ f.schema.options)) ∧
          ∃ same, (c.compile { r with filters := r.filters.filter catalog.declares } adapter now draw).1 = .ok same ∧
            same.text = prompt.text ∧ same.pack = prompt.pack := by
  obtain ⟨hconsistent, rfl⟩ := Catalog.ofData_eq_ok_iff.mp h
  refine ⟨hconsistent.effects, ?_⟩
  intro c hcatalog r adapter now draw prompt hcompiled
  constructor
  · intro choice _ effect hresolved
    exact Catalog.exists_filter_of_resolveFilter hconsistent hresolved
  · refine Compiler.exists_compile_of_effects ?_ hcompiled
    rw [hcatalog]
    exact Catalog.effects_filter_declares hconsistent r.filters

def CatalogData.moody (options : List Text) : CatalogData where
  profiles := [.plain "base" [] 1000]
  blueprints := [{ Blueprint.bare with blocks := ["light"] }]
  blocks := [{ key := "light", label := "Light", template := "\x7bmood\x7d", type := .style }]
  filters := [{ key := "mood", label := "Mood", schema := { type := "select", options, min := none, max := none }
                effect := [("bright", "full sun")], isPremium := false }]
  baseModels := []

def PromptRequest.inMood (value : Text) : PromptRequest :=
  { PromptRequest.plain [] none with filters := [("mood", value)] }

/-- A declared value gives its text. -/
theorem declared_mood_takes_effect :
    ∃ catalog prompt, Catalog.ofData (.moody ["bright"]) = .ok catalog ∧
      ((Compiler.ofCatalog catalog).compile (.inMood "bright") none 0 1).1 = .ok prompt ∧
      catalog.resolveFilter ("mood", "bright") = .ok ("mood", "full sun") ∧
      ∃ f ∈ (CatalogData.moody ["bright"]).filters, f.key = "mood" ∧ Text.ofString "bright" ∈ f.schema.options := by
  have hcatalog : Catalog.ofData (.moody ["bright"]) = .ok (CatalogData.moody ["bright"]).indexed := by rfl
  refine ⟨_, _, hcatalog, rfl, by decide, ?_⟩
  obtain ⟨-, hcompiles⟩ := only_declared_options_take_effect hcatalog
  obtain ⟨hchoices, -⟩ := hcompiles (Compiler.ofCatalog _) rfl (.inMood "bright") none 0 1 _ rfl
  obtain ⟨f, hf, hkey, -, hoptions⟩ := hchoices ("mood", "bright") List.mem_cons_self ("mood", "full sun") (by decide)
  refine ⟨f, hf, hkey, hoptions ?_⟩
  rw [List.mem_singleton.mp hf]
  decide

/-- A filter that gives no options has effects all the same, and the block of the prompt is nothing but such a text. -/
theorem undeclared_mood_takes_effect :
    ∃ catalog prompt, Catalog.ofData (.moody []) = .ok catalog ∧
      ((Compiler.ofCatalog catalog).compile (.inMood "bright") none 0 1).1 = .ok prompt ∧
      catalog.resolveFilter ("mood", "bright") = .ok ("mood", "full sun") ∧
      (((Compiler.ofCatalog catalog).draft (.plain "base" [] 1000) { Blueprint.bare with blocks := ["light"] }
        (.inMood "bright")).rendered.map (·.text)) = [Text.ofString "full sun"] ∧
      ∃ f ∈ (CatalogData.moody []).filters, ∃ e ∈ f.effect, e.1 = "bright" ∧ Text.ofString "bright" ∉ f.schema.options :=
  ⟨_, _, rfl, rfl, by decide, by decide +kernel, _, List.mem_cons_self, _, List.mem_cons_self, rfl, List.not_mem_nil⟩

end PromptStudio
