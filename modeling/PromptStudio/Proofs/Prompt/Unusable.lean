import PromptStudio.Proofs.Prompt.Account

/-!
# Choices without effect

A choice whose filter is not in the catalog, or has no text for the value, is ignored: it reaches neither the blocks nor
the pack. The request is read for it in three more places only, in the count of filters, in the warning about it, and in
the table of conflicts, which knows the choices and not their effects.
-/

namespace PromptStudio

variable {before after : List (Text × Text)} {choice : Text × Text}

namespace FilterConflict

theorem find?_side_of_notMem {filters : List (Text × Text)} {side : Text × Text}
    (h : side.1 ∉ filters.map (·.1)) : filters.find? (·.1 == side.1) = none := by
  rw [List.find?_eq_none]
  exact fun other hother hsame => h (List.mem_map.mpr ⟨other, hother, eq_of_beq hsame⟩)

/-- A new choice is the one that is found for its filter, and changes nothing for the others. -/
theorem chosen_insert_iff (hnew : choice.1 ∉ (before ++ after).map (·.1)) (side : Text × Text) :
    chosen (before ++ choice :: after) side = true ↔ chosen (before ++ after) side = true ∨ choice = side := by
  obtain ⟨key, value⟩ := choice
  by_cases hkey : key = side.1
  · subst hkey
    have hnone := find?_side_of_notMem hnew
    rw [List.map_append, List.mem_append, not_or] at hnew
    rw [chosen, chosen, hnone, List.find?_append, find?_side_of_notMem hnew.1, Option.none_or, List.find?_cons,
      beq_self_eq_true, beq_iff_eq]
    constructor
    · exact fun hvalue => .inr (Prod.ext rfl (Option.some.inj hvalue))
    · rintro (hnever | hsame)
      · cases hnever
      · exact congrArg some (congrArg Prod.snd hsame)
  · rw [chosen, chosen, List.find?_append, List.find?_append, List.find?_cons, beq_eq_false_iff_ne.mpr hkey]
    exact ⟨.inl, fun h => h.resolve_right fun hsame => hkey (congrArg Prod.fst hsame)⟩

theorem among_sublist_insert (hnew : choice.1 ∉ (before ++ after).map (·.1)) :
    (among (before ++ after)).Sublist (among (before ++ choice :: after)) := by
  refine List.monotone_filter_right all fun x hx => ?_
  rw [Bool.and_eq_true] at hx ⊢
  exact ⟨(chosen_insert_iff hnew _).mpr (.inl hx.1), (chosen_insert_iff hnew _).mpr (.inl hx.2)⟩

theorem mem_among_insert (hnew : choice.1 ∉ (before ++ after).map (·.1)) {x : FilterConflict}
    (h : x ∈ among (before ++ choice :: after)) :
    x ∈ among (before ++ after) ∨ choice = x.sides.1 ∨ choice = x.sides.2 := by
  obtain ⟨hall, hsides⟩ := List.mem_filter.mp h
  rw [Bool.and_eq_true, chosen_insert_iff hnew, chosen_insert_iff hnew] at hsides
  rcases hsides with ⟨hfirst | hfirst, hsecond | hsecond⟩
  · exact .inl (List.mem_filter.mpr ⟨hall, Bool.and_eq_true _ _ ▸ ⟨hfirst, hsecond⟩⟩)
  · exact .inr (.inr hsecond)
  · exact .inr (.inl hfirst)
  · exact .inr (.inl hfirst)

end FilterConflict

namespace Catalog

variable {c : Catalog}

theorem textOf?_eq_none_iff : c.textOf? choice = none ↔
    c.filters.get? choice.1 = none ∨ ∃ f, c.filters.get? choice.1 = some f ∧ f.effectOf? choice.2 = none := by
  rw [textOf?]
  cases c.filters.get? choice.1 with
  | none => simp
  | some f => simp

theorem effects_insert (h : c.textOf? choice = none) :
    c.effects (before ++ choice :: after) = c.effects (before ++ after) := by
  rw [effects_eq, effects_eq, List.filterMap_append, List.filterMap_append, List.filterMap_cons, h, Option.map_none]

theorem filterWarnings_append (c : Catalog) (before after : List (Text × Text)) :
    c.filterWarnings (before ++ after) = c.filterWarnings before ++ c.filterWarnings after :=
  List.filterMap_append

theorem filterWarnings_cons (h : c.textOf? choice = none) :
    c.filterWarnings (choice :: after) = c.ignored choice :: c.filterWarnings after := by
  rw [filterWarnings_eq, filterWarnings_eq, List.filter_cons_of_pos (by simp [h]), List.map_cons]

end Catalog

namespace Compiler

variable {c : Compiler} {p : Profile} {b : Blueprint} {r : PromptRequest} {adapter : Option Adapter} {seed : Text}
  {now : Int} {draw : Nat}

theorem compile_eq_error_of_filters {failure : Failure} (filters : List (Text × Text))
    (h : (c.compile r adapter now draw).1 = .error failure) :
    (c.compile { r with filters } adapter now draw).1 = .error failure := by
  cases hprofile : c.profile r.profileId with
  | error cause =>
      simp only [compile, hprofile] at h ⊢
      exact h
  | ok p =>
      cases hblueprint : c.blueprint r.blueprintId with
      | error cause =>
          simp only [compile, hprofile, hblueprint] at h ⊢
          exact h
      | ok b =>
          have hcheck : checkAdapter { r with filters } adapter = checkAdapter r adapter := rfl
          simp only [compile, hprofile, hblueprint, hcheck] at h ⊢
          cases hchecked : Failure.ofChecked (checkAdapter r adapter) with
          | error cause =>
              rw [hchecked, Except.map] at h
              rw [Except.map]
              exact h
          | ok _ =>
              rw [hchecked] at h
              cases h

theorem unfinished_of_effects {filters : List (Text × Text)}
    (h : c.catalog.effects filters = c.catalog.effects r.filters) :
    c.unfinished p b { r with filters } adapter = c.unfinished p b r adapter := by
  rw [unfinished, unfinished, assembled, assembled, rendered_draft_of_effects h]
  rfl

/-- The warning about an ignored choice stands behind those about the choices before it. -/
theorem exists_warnings_insert (hfilters : r.filters = before ++ after) (h : c.catalog.textOf? choice = none)
    (seed other : Text) : ∃ rest,
    (c.build p b r adapter seed).warnings
      = c.catalog.filterWarnings before ++ rest ++ (FilterConflict.among r.filters).map .conflict ∧
    (c.build p b { r with filters := before ++ choice :: after } adapter other).warnings
      = c.catalog.filterWarnings before ++ c.catalog.ignored choice :: rest
        ++ (FilterConflict.among (before ++ choice :: after)).map .conflict := by
  have heffects : c.catalog.effects (before ++ choice :: after) = c.catalog.effects r.filters := by
    rw [hfilters, Catalog.effects_insert h]
  refine ⟨c.catalog.filterWarnings after
    ++ ((c.orderedKeys p b).filter (!c.catalog.blocks.has ·)).map .blockNotFound
    ++ (finished p (c.unfinished p b r adapter)).2, ?_, ?_⟩
  · rw [warnings_build, hfilters, Catalog.filterWarnings_append]
    simp only [List.append_assoc]
  · rw [warnings_build, Catalog.filterWarnings_append, Catalog.filterWarnings_cons h, unfinished_of_effects heffects]
    simp only [List.append_assoc, List.cons_append]

end Compiler

theorem Seed.ofRequest_of_given {r : PromptRequest} (h : given? r ≠ none) (filters : List (Text × Text)) (now : Int)
    (draw : Nat) : (ofRequest { r with filters } now draw).1 = (ofRequest r now draw).1 := by
  obtain ⟨seed, hseed⟩ := Option.ne_none_iff_exists'.mp h
  have hsame : given? { r with filters } = given? r := rfl
  rw [ofRequest, ofRequest, hsame, hseed]

/-- Of every request and every choice for a filter that is not in it, where the filter is not in the catalog or has no
text for the value: with the choice put at any place, a request that failed fails for the same cause, and one that
compiled compiles to the same text, the same number of blocks and the same pack. It counts one filter more. Its warnings
are the same with the one about the choice behind those about the choices before it, and with the conflicts that the
choice is a side of. A seed that the request gives stays. -/
theorem unusable_choice_leaves_text (c : Compiler) (r : PromptRequest) (adapter : Option Adapter) (now : Int)
    (draw : Nat) (hfilters : r.filters = before ++ after) (hnew : choice.1 ∉ r.filters.map (·.1))
    (hunusable : c.catalog.filters.get? choice.1 = none ∨
      ∃ f, c.catalog.filters.get? choice.1 = some f ∧ f.effectOf? choice.2 = none) :
    (∀ failure, (c.compile r adapter now draw).1 = .error failure →
      (c.compile { r with filters := before ++ choice :: after } adapter now draw).1 = .error failure) ∧
    ∀ result, (c.compile r adapter now draw).1 = .ok result →
      ∃ more, (c.compile { r with filters := before ++ choice :: after } adapter now draw).1 = .ok more ∧
        more.text = result.text ∧ more.blockCount = result.blockCount ∧ more.pack = result.pack ∧
        more.filterCount = result.filterCount + 1 ∧ (Seed.given? r ≠ none → more.seed = result.seed) ∧
        (∃ rest,
          result.warnings = c.catalog.filterWarnings before ++ rest
            ++ (FilterConflict.among r.filters).map .conflict ∧
          more.warnings = c.catalog.filterWarnings before ++ c.catalog.ignored choice :: rest
            ++ (FilterConflict.among (before ++ choice :: after)).map .conflict) ∧
        (FilterConflict.among r.filters).Sublist (FilterConflict.among (before ++ choice :: after)) ∧
        ∀ x ∈ FilterConflict.among (before ++ choice :: after),
          x ∈ FilterConflict.among r.filters ∨ choice = x.sides.1 ∨ choice = x.sides.2 := by
  have htext := Catalog.textOf?_eq_none_iff.mpr hunusable
  refine ⟨fun failure => Compiler.compile_eq_error_of_filters _, fun result hcompiled => ?_⟩
  obtain ⟨p, b, hprofile, hblueprint, hchecked, rfl⟩ := Compiler.compile_eq_ok_iff.mp hcompiled
  have heffects : c.catalog.effects (before ++ choice :: after) = c.catalog.effects r.filters := by
    rw [hfilters, Catalog.effects_insert htext]
  obtain ⟨hsame, hpack⟩ := Compiler.text_pack_build_of_effects (p := p) (b := b) heffects
    (Seed.ofRequest { r with filters := before ++ choice :: after } now draw).1 (Seed.ofRequest r now draw).1
  refine ⟨_, Compiler.compile_eq_ok_iff.mpr ⟨p, b, hprofile, hblueprint, hchecked, rfl⟩, hsame, ?_, hpack, ?_, ?_, ?_,
    ?_⟩
  · rw [Compiler.blockCount_build, Compiler.blockCount_build]
  · change (before ++ choice :: after).length = r.filters.length + 1
    rw [hfilters, List.length_append, List.length_append, List.length_cons, Nat.add_assoc]
  · exact fun hseed => Seed.ofRequest_of_given hseed _ now draw
  · exact Compiler.exists_warnings_insert hfilters htext _ _
  · rw [hfilters] at hnew ⊢
    exact ⟨FilterConflict.among_sublist_insert hnew, fun x hx => FilterConflict.mem_among_insert hnew hx⟩

/-- A value without a text and a filter that is not there leave the text, wherever they stand. -/
theorem unusable_mood_leaves_text : ∃ result more further,
    ((Compiler.ofCatalog (CatalogData.moody ["bright"]).indexed).compile (.plain [] none) none 0 1).1 = .ok result ∧
    ((Compiler.ofCatalog (CatalogData.moody ["bright"]).indexed).compile (.inMood "dark") none 0 1).1 = .ok more ∧
    ((Compiler.ofCatalog (CatalogData.moody ["bright"]).indexed).compile
        { PromptRequest.inMood "dark" with filters := [("flair", "bold"), ("mood", "dark")] } none 0 1).1
      = .ok further ∧
    more.text = result.text ∧ further.text = more.text ∧ further.filterCount = more.filterCount + 1 := by
  obtain ⟨-, hvalue⟩ := @unusable_choice_leaves_text [] [] ("mood", "dark")
    (Compiler.ofCatalog (CatalogData.moody ["bright"]).indexed) (.plain [] none) none 0 1 rfl (by decide)
    (.inr ⟨_, rfl, by decide⟩)
  obtain ⟨-, hfilter⟩ := @unusable_choice_leaves_text [] [("mood", "dark")] ("flair", "bold")
    (Compiler.ofCatalog (CatalogData.moody ["bright"]).indexed) (.inMood "dark") none 0 1 rfl (by decide)
    (.inl (by decide))
  obtain ⟨more, hmore, hsame, -⟩ := hvalue _ rfl
  obtain ⟨further, hfurther, hkept, -, -, hcount, -⟩ := hfilter more hmore
  exact ⟨_, more, further, rfl, hmore, hfurther, hsame, hkept, hcount⟩

end PromptStudio
