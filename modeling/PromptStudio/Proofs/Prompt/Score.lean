import PromptStudio.Proofs.Prompt.Unusable

/-!
# What an ignored choice costs

A choice that is ignored costs five points for the warning about it, and five more for each conflict that it brings; as a
chosen filter it gives two points at most. So at least three points are lost. A score is what the points come to between
zero and a hundred: the loss shows wherever a point was left to lose, unless the prompt is worth a hundred points without
the lost ones.
-/

namespace PromptStudio

namespace Score

variable {x y : Int}

theorem points_eq (prompt : Text) (hasSubject : Bool) (filterCount warningCount : Nat) :
    points prompt hasSubject filterCount warningCount
      = points prompt hasSubject 0 0 + min (2 * filterCount) 10 - 5 * warningCount := by
  rw [points, points]
  omega

theorem points_add_le (prompt : Text) (hasSubject : Bool) (filterCount warningCount : Nat) {more : Nat}
    (h : 0 < more) : points prompt hasSubject (filterCount + 1) (warningCount + more) + 3
      ≤ points prompt hasSubject filterCount warningCount := by
  rw [points_eq, points_eq prompt hasSubject filterCount warningCount]
  omega

theorem bounded_lt_bounded_iff (h : y < x) (hpos : 0 < max 0 (min 100 x)) :
    max 0 (min 100 y) < max 0 (min 100 x) ↔ y < 100 := by
  omega

end Score

/-- The points of a prompt for a request, before they are brought into bounds. -/
def CompiledPrompt.points (prompt : CompiledPrompt) (r : PromptRequest) : Int :=
  Score.points prompt.text (!r.subject.isEmpty) prompt.filterCount prompt.warnings.length

namespace Compiler

variable {c : Compiler} {p : Profile} {b : Blueprint} {r : PromptRequest} {adapter : Option Adapter}
  {before after : List (Text × Text)} {choice : Text × Text}

theorem finished_of_isClean {p : Profile} {text : Text} (hclean : Redaction.IsClean p.forbiddenPatterns text)
    (hlength : text.length ≤ p.maxLength) : finished p text = (text, []) := by
  rw [finished, Redaction.run_of_isClean hclean]
  dsimp only
  rw [List.take_of_length_le hlength, if_neg hlength.not_gt]
  rfl

theorem score_build (c : Compiler) (p : Profile) (b : Blueprint) (r : PromptRequest) (adapter : Option Adapter)
    (seed : Text) :
    (c.build p b r adapter seed).score = max 0 (min 100 ((c.build p b r adapter seed).points r)) := rfl

/-- An ignored choice counts as one filter and brings a warning, and maybe conflicts. -/
theorem exists_counts_insert (hfilters : r.filters = before ++ after) (hnew : choice.1 ∉ r.filters.map (·.1))
    (h : c.catalog.textOf? choice = none) (seed other : Text) : ∃ more, 0 < more ∧
    (c.build p b { r with filters := before ++ choice :: after } adapter other).filterCount
      = (c.build p b r adapter seed).filterCount + 1 ∧
    (c.build p b { r with filters := before ++ choice :: after } adapter other).warnings.length
      = (c.build p b r adapter seed).warnings.length + more := by
  obtain ⟨rest, hwarnings, hinserted⟩ :=
    exists_warnings_insert (p := p) (b := b) hfilters h seed other
  have hconflicts : (FilterConflict.among r.filters).length
      ≤ (FilterConflict.among (before ++ choice :: after)).length := by
    rw [hfilters] at hnew ⊢
    exact (FilterConflict.among_sublist_insert hnew).length_le
  obtain ⟨brought, hbrought⟩ := Nat.exists_eq_add_of_le hconflicts
  refine ⟨brought + 1, Nat.succ_pos _, ?_, ?_⟩
  · change (before ++ choice :: after).length = r.filters.length + 1
    rw [hfilters, List.length_append, List.length_append, List.length_cons, Nat.add_assoc]
  · rw [hwarnings, hinserted]
    simp only [List.length_append, List.length_cons, List.length_map, hbrought]
    omega

/-- An ignored choice costs points, whatever seeds the two prompts have. -/
theorem points_insert_le (hfilters : r.filters = before ++ after) (hnew : choice.1 ∉ r.filters.map (·.1))
    (h : c.catalog.textOf? choice = none) (adapter : Option Adapter) (seed other : Text) :
    (c.build p b { r with filters := before ++ choice :: after } adapter other).points r + 3
      ≤ (c.build p b r adapter seed).points r := by
  have heffects : c.catalog.effects (before ++ choice :: after) = c.catalog.effects r.filters := by
    rw [hfilters, Catalog.effects_insert h]
  obtain ⟨hsame, -⟩ := text_pack_build_of_effects (p := p) (b := b) heffects other seed
  obtain ⟨more, hmore, hcount, hwarnings⟩ :=
    exists_counts_insert (p := p) (b := b) hfilters hnew h seed other
  rw [CompiledPrompt.points, hsame, hcount, hwarnings]
  exact Score.points_add_le _ _ _ _ hmore

end Compiler

/-- Of every request and every choice for a filter that is not in it, where the filter is not in the catalog or has no
text for the value: wherever the choice is put, whenever the two requests are compiled and whatever seeds they have, one
that compiled still compiles, to a prompt of at least three points less. A score is what the points come to between zero
and a hundred. So one above zero gets lower where the points without the lost ones are below a hundred, in particular
where the score was below a hundred, and else both prompts have the full score. -/
theorem unusable_choice_lowers_score_below_top (c : Compiler) {r wider : PromptRequest} (adapter : Option Adapter)
    {before after : List (Text × Text)} {choice : Text × Text} (hfilters : r.filters = before ++ after)
    (hwider : wider = { r with filters := before ++ choice :: after }) (hnew : choice.1 ∉ r.filters.map (·.1))
    (hunusable : c.catalog.filters.get? choice.1 = none ∨
      ∃ f, c.catalog.filters.get? choice.1 = some f ∧ f.effectOf? choice.2 = none)
    (now later : Int) (draw other : Nat) (result : CompiledPrompt)
    (hcompiled : (c.compile r adapter now draw).1 = .ok result) :
    ∃ more, (c.compile wider adapter later other).1 = .ok more ∧
      more.points wider + 3 ≤ result.points r ∧
      result.score = max 0 (min 100 (result.points r)) ∧ more.score = max 0 (min 100 (more.points wider)) ∧
      (0 < result.score → (more.score < result.score ↔ more.points wider < 100)) ∧
      (0 < result.score → result.score < 100 → more.score < result.score) ∧
      (0 < result.score → ¬ more.score < result.score → result.score = 100 ∧ more.score = 100) := by
  subst hwider
  obtain ⟨p, b, hprofile, hblueprint, hchecked, rfl⟩ := Compiler.compile_eq_ok_iff.mp hcompiled
  refine ⟨_, Compiler.compile_eq_ok_iff.mpr ⟨p, b, hprofile, hblueprint, hchecked, rfl⟩, ?_⟩
  have hless : CompiledPrompt.points _ { r with filters := before ++ choice :: after } + 3 ≤ CompiledPrompt.points _ r :=
    Compiler.points_insert_le (p := p) (b := b) hfilters hnew
      (Catalog.textOf?_eq_none_iff.mpr hunusable) adapter (Seed.ofRequest r now draw).1
      (Seed.ofRequest { r with filters := before ++ choice :: after } later other).1
  rw [Compiler.score_build, Compiler.score_build]
  generalize CompiledPrompt.points _ r = points at hless ⊢
  generalize CompiledPrompt.points _ _ = fewer at hless ⊢
  refine ⟨hless, rfl, rfl, fun hpos => Score.bounded_lt_bounded_iff (by omega) hpos, ?_, ?_⟩
  · intro _ _
    omega
  · intro _ _
    omega

def Profile.lenient : Profile :=
  .plain "base" [] 5000

def Compiler.lenient : Compiler :=
  .ofProfile .lenient

def PromptRequest.catWith (filters : List (Text × Text)) : PromptRequest :=
  { PromptRequest.plain "cat" none with filters }

namespace Compiler

def catText : Text :=
  joinParts ["base", systemInstructions, "Subject: cat"]

theorem length_points_catText : catText.length ≤ 5000 ∧ Score.points catText true 0 0 = 105 := by
  simp only [catText, systemInstructions, Text.ofString]
  rw [String.toList_intercalate]
  simp only [List.map_cons, List.map_nil]
  repeat rw [String.toList_ofList]
  decide +kernel

theorem finished_catText : finished .lenient catText = (catText, []) :=
  finished_of_isClean (fun _ hpattern => absurd hpattern List.not_mem_nil) length_points_catText.1

theorem unfinished_catWith (filters : List (Text × Text)) :
    lenient.unfinished .lenient .bare (.catWith filters) none = catText := by
  rw [unfinished, assembled, rendered_draft_bare, inlineAdapter?, ite_self]
  rfl

theorem text_catWith (filters : List (Text × Text)) (seed : Text) :
    (lenient.build .lenient .bare (.catWith filters) none seed).text = catText := by
  have h : (lenient.build .lenient .bare (.catWith filters) none seed).text
    = (finished .lenient (lenient.unfinished .lenient .bare (.catWith filters) none)).1 := rfl
  rw [h, unfinished_catWith, finished_catText]

theorem length_warnings_catWith (filters : List (Text × Text)) (seed : Text) :
    (lenient.build .lenient .bare (.catWith filters) none seed).warnings.length
      = filters.length + (FilterConflict.among filters).length := by
  have hignored : lenient.catalog.filterWarnings filters = filters.map fun choice => .unknownFilter choice.1 := by
    rw [← List.filterMap_eq_map]
    rfl
  rw [warnings_build, unfinished_catWith, finished_catText, orderedKeys, Catalog.orderBlocks, Blueprint.bare,
    List.mergeSort_nil]
  change (lenient.catalog.filterWarnings filters ++ [] ++ [] ++ (FilterConflict.among filters).map _).length = _
  rw [hignored]
  simp

theorem points_catWith (filters : List (Text × Text)) (seed : Text) :
    (lenient.build .lenient .bare (.catWith filters) none seed).points (.catWith filters)
      = 105 + min (2 * filters.length) 10 - 5 * (filters.length + (FilterConflict.among filters).length : Nat) := by
  have hsubject : (!(PromptRequest.catWith filters).subject.isEmpty) = true := rfl
  have hcount : (lenient.build .lenient .bare (.catWith filters) none seed).filterCount = filters.length := rfl
  rw [CompiledPrompt.points, text_catWith, length_warnings_catWith, hsubject, hcount, Score.points_eq,
    length_points_catText.2]

end Compiler

/-- The second ignored choice leaves 99 points and takes the score below the top. -/
theorem second_ignored_choice_lowers_score : ∃ result more,
    (Compiler.lenient.compile (.catWith [("flair", "bold")]) none 0 1).1 = .ok result ∧
    (Compiler.lenient.compile (.catWith [("tone", "warm"), ("flair", "bold")]) none 0 1).1 = .ok more ∧
    more.score < result.score := by
  obtain ⟨more, hmore, -, -, -, hlower, -⟩ := @unusable_choice_lowers_score_below_top Compiler.lenient
    (.catWith [("flair", "bold")]) (.catWith [("tone", "warm"), ("flair", "bold")]) none [] [("flair", "bold")]
    ("tone", "warm") rfl rfl (by decide) (.inl (by decide)) 0 0 1 1 _ rfl
  refine ⟨_, more, rfl, hmore, (hlower ?_).mpr ?_⟩
  · rw [Compiler.score_build, Compiler.points_catWith]
    decide
  · obtain rfl := Except.ok.inj hmore
    rw [Compiler.points_catWith]
    decide

/-- One ignored choice leaves 102 points of 105, so a score of a hundred stays as it is. -/
theorem first_ignored_choice_leaves_score : ∃ result more,
    (Compiler.lenient.compile (.catWith []) none 0 1).1 = .ok result ∧
    (Compiler.lenient.compile (.catWith [("flair", "bold")]) none 0 1).1 = .ok more ∧
    Compiler.lenient.catalog.filters.get? "flair" = none ∧ 0 < result.score ∧ ¬ more.score < result.score := by
  refine ⟨_, _, rfl, rfl, rfl, ?_, ?_⟩
  · rw [Compiler.score_build, Compiler.points_catWith]
    decide
  · rw [Compiler.score_build, Compiler.points_catWith, Compiler.score_build, Compiler.points_catWith]
    decide

end PromptStudio
