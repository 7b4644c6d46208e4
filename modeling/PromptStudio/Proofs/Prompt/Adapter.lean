import PromptStudio.Proofs.Prompt.Compiled

/-!
# What an adapter changes

An adapter goes into a prompt or into a character pack. As a line of the prompt it stands between the labelled input and
the first block, and the rest of the text is that of the prompt without it; only what redaction, cutting and scoring
make of the text can differ. As a pack it stands beside a prompt that is the same in every part.

The base prompt and the instructions are never both empty, so a prompt has a part before the adapter, and every later
part that is not empty brings the empty line in front of it along. That turns joining into appending.
-/

namespace PromptStudio

/-- Whether a warning tells about the finished text, and not about the choices and the blocks it is made of. -/
def PromptWarning.concernsText : PromptWarning → Bool
  | forbiddenPattern _ | tooLong _ _ => true
  | unknownFilter _ | unknownFilterValue _ _ | blockNotFound _ | conflict _ => false

namespace Compiler

variable {c : Compiler} {p : Profile} {b : Blueprint} {r : PromptRequest} {a : Adapter} {adapter : Option Adapter}
  {seed : Text} {xs ys : List Text}

/-! ### Joining is appending -/

def continued (parts : List Text) : Text :=
  (parts.filter (!·.isEmpty)).flatMap (("\n\n" : Text) ++ ·)

theorem continued_append : continued (xs ++ ys) = continued xs ++ continued ys := by
  simp [continued]

theorem continued_singleton {part : Text} (h : part ≠ []) : continued [part] = ("\n\n" : Text) ++ part := by
  simp [continued, h]

theorem intercalate_cons_eq_flatMap (separator x : Text) (xs : List Text) :
    separator.intercalate (x :: xs) = x ++ xs.flatMap (separator ++ ·) := by
  induction xs generalizing x with
  | nil => simp
  | cons y ys ih => rw [List.intercalate_cons_cons, ih y, List.flatMap_cons, List.append_assoc, List.append_assoc]

theorem joinParts_append (h : ∃ part ∈ xs, part ≠ []) : joinParts (xs ++ ys) = joinParts xs ++ continued ys := by
  have hsome : xs.filter (!·.isEmpty) ≠ [] := by simpa using h
  obtain ⟨x, rest, hxs⟩ := List.exists_cons_of_ne_nil hsome
  rw [joinParts, List.filter_append, joinParts, hxs, List.cons_append, intercalate_cons_eq_flatMap,
    intercalate_cons_eq_flatMap, List.flatMap_append, List.append_assoc, continued]

/-- The first line of the instructions is not empty. Deciding this for the whole of them would compute their text. -/
theorem ofString_systemInstructions_ne_nil : Text.ofString systemInstructions ≠ [] := by
  rw [Text.ofString, systemInstructions, String.toList_intercalate, List.map_cons, List.map_cons,
    List.intercalate_cons_cons, List.append_assoc, List.map_append]
  exact List.append_ne_nil_of_left_ne_nil (by simp) _

theorem exists_part_of_opening (p : Profile) (r : PromptRequest) : ∃ part ∈ opening p r, part ≠ [] :=
  ⟨systemInstructions, by simp [opening], ofString_systemInstructions_ne_nil⟩

/-! ### Texts before redaction and cutting -/

def unfinished (c : Compiler) (p : Profile) (b : Blueprint) (r : PromptRequest) (adapter : Option Adapter) : Text :=
  assembled (c.draft p b r) p b r (inlineAdapter? r adapter)

theorem text_build : (c.build p b r adapter seed).text
    = (Redaction.clean p.forbiddenPatterns (c.unfinished p b r adapter)).take p.maxLength := rfl

theorem assembled_eq (d : Draft) (p : Profile) (b : Blueprint) (r : PromptRequest) (inline : Option Adapter) :
    assembled d p b r inline = joinParts (opening p r) ++ continued (inline.toList.map adapterLine)
      ++ continued (d.rendered.map (·.text) ++ closing b r) := by
  rw [assembled, List.append_assoc, List.append_assoc, joinParts_append (exists_part_of_opening p r), continued_append,
    List.append_assoc]

theorem adapterLine_ne_nil : adapterLine a ≠ [] :=
  List.append_ne_nil_of_left_ne_nil (by decide) _

/-- A supported adapter is one line more, behind the labelled input and before the first block. -/
theorem unfinished_of_supported (h : Adapter.isSupportedOn r.targetPlatform = true) :
    c.unfinished p b r (some a) = joinParts (opening p r) ++ (("\n\n" : Text) ++ adapterLine a)
      ++ continued ((c.draft p b r).rendered.map (·.text) ++ closing b r) := by
  rw [unfinished, inlineAdapter?, if_pos h, assembled_eq, Option.toList_some, List.map_singleton,
    continued_singleton adapterLine_ne_nil]

theorem unfinished_none : c.unfinished p b r none
    = joinParts (opening p r) ++ continued ((c.draft p b r).rendered.map (·.text) ++ closing b r) := by
  rw [unfinished, inlineAdapter?, ite_self, assembled_eq, Option.toList_none, List.map_nil]
  exact congrArg (· ++ _) (List.append_nil _)

/-! ### The rest of a prompt -/

theorem checkAdapter_none : checkAdapter r none = .valid () := by
  rw [checkAdapter, packedAdapter?, ite_self]

/-- Without the adapter a request compiles as well, under the same seed at every time. -/
theorem compile_none (hseed : Seed.given? r = some seed) (hprofile : c.profile r.profileId = .ok p)
    (hblueprint : c.blueprint r.blueprintId = .ok b) (now : Int) (draw : Nat) :
    (c.compile r none now draw).1 = .ok (c.build p b r none seed) := by
  refine compile_eq_ok_iff.mpr ⟨p, b, hprofile, hblueprint, ?_, ?_⟩
  · rw [checkAdapter_none]
    rfl
  · rw [Seed.ofRequest, hseed]

theorem isSome_pack_build : (c.build p b r adapter seed).pack.isSome = true
    ↔ adapter.isSome = true ∧ Adapter.isSupportedOn r.targetPlatform = false := by
  change ((packedAdapter? r adapter).map _).isSome = true ↔ _
  rw [Option.isSome_map, packedAdapter?]
  by_cases h : Adapter.isSupportedOn r.targetPlatform = true
  · simp [h]
  · simp [h]

theorem pack_build_none : (c.build p b r none seed).pack = none := by
  change (packedAdapter? r none).map _ = none
  rw [packedAdapter?, ite_self]
  rfl

theorem build_of_unsupported (h : Adapter.isSupportedOn r.targetPlatform = false) :
    c.build p b r adapter seed
      = { c.build p b r none seed with pack := (c.build p b r adapter seed).pack } := by
  have hinline : inlineAdapter? r adapter = inlineAdapter? r none := by
    rw [inlineAdapter?, inlineAdapter?, h]
    rfl
  simp only [build, hinline]

theorem build_of_supported (h : Adapter.isSupportedOn r.targetPlatform = true) :
    c.build p b r adapter seed
      = { c.build p b r none seed with
          text := (c.build p b r adapter seed).text
          score := (c.build p b r adapter seed).score
          warnings := (c.build p b r adapter seed).warnings } := by
  have hpacked : packedAdapter? r adapter = packedAdapter? r none := by
    rw [packedAdapter?, packedAdapter?, h]
    rfl
  simp only [build, hpacked]

theorem concernsText_of_mem_finished {text : Text} {w : PromptWarning} (h : w ∈ (finished p text).2) :
    w.concernsText = true := by
  rcases List.mem_append.mp h with hfound | hlong
  · obtain ⟨_, _, rfl⟩ := List.mem_map.mp hfound
    rfl
  · split at hlong
    · obtain rfl := List.mem_singleton.mp hlong
      rfl
    · cases hlong

theorem filter_finished (text : Text) : (finished p text).2.filter (!·.concernsText) = [] := by
  rw [List.filter_eq_nil_iff]
  intro w hw
  simp [concernsText_of_mem_finished hw]

theorem filter_warnings_build : (c.build p b r adapter seed).warnings.filter (!·.concernsText)
    = (c.build p b r none seed).warnings.filter (!·.concernsText) := by
  simp only [build, List.filter_append, filter_finished]

end Compiler

/-- A request with a seed of its own compiles with an adapter to a prompt that has a pack just where an adapter is given
that the platform does not understand. Without the adapter the request compiles too, at every time and to one prompt
without a pack. Where the platform does not understand adapters, the two prompts are the same but for the pack. Where it
does, they differ in text, score and the warnings about the text only: before redaction and cutting, the text with the
adapter has its one segment between the labelled input and the first block. -/
theorem adapter_takes_one_path (c : Compiler) (r : PromptRequest) (adapter : Option Adapter) (now : Int) (draw : Nat)
    {seed : Text} (hseed : Seed.given? r = some seed) {result : CompiledPrompt}
    (h : (c.compile r adapter now draw).1 = .ok result) :
    (result.pack.isSome = true ↔ adapter.isSome = true ∧ Adapter.isSupportedOn r.targetPlatform = false) ∧
      ∃ p b plain, c.profile r.profileId = .ok p ∧ c.blueprint r.blueprintId = .ok b ∧
        (∀ now draw, (c.compile r none now draw).1 = .ok plain) ∧ plain.pack = none ∧
        (Adapter.isSupportedOn r.targetPlatform = false → result = { plain with pack := result.pack }) ∧
        (∀ a, adapter = some a → Adapter.isSupportedOn r.targetPlatform = true →
          (∃ before behind, before = Compiler.joinParts (Compiler.opening p r) ∧
            behind = Compiler.continued ((c.draft p b r).rendered.map (·.text) ++ Compiler.closing b r) ∧
            c.unfinished p b r none = before ++ behind ∧
            c.unfinished p b r adapter = before ++ (("\n\nStyle adapter: <lora:" : Text) ++ a.triggerWord ++ ":"
              ++ (Adapter.weightText a.weight.toFloat).map CodePoint.char ++ ">, " ++ a.triggerWord) ++ behind) ∧
          plain.text = (Redaction.clean p.forbiddenPatterns (c.unfinished p b r none)).take p.maxLength ∧
          result.text = (Redaction.clean p.forbiddenPatterns (c.unfinished p b r adapter)).take p.maxLength ∧
          result = { plain with text := result.text, score := result.score, warnings := result.warnings } ∧
          result.warnings.filter (!·.concernsText) = plain.warnings.filter (!·.concernsText)) := by
  obtain ⟨p, b, hprofile, hblueprint, -, hbuilt⟩ := Compiler.compile_eq_ok_iff.mp h
  rw [Seed.ofRequest, hseed] at hbuilt
  subst hbuilt
  refine ⟨Compiler.isSome_pack_build, p, b, _, hprofile, hblueprint,
    Compiler.compile_none hseed hprofile hblueprint, Compiler.pack_build_none, Compiler.build_of_unsupported, ?_⟩
  rintro a rfl hsupported
  refine ⟨⟨_, _, rfl, rfl, Compiler.unfinished_none, ?_⟩, Compiler.text_build, Compiler.text_build,
    Compiler.build_of_supported hsupported, Compiler.filter_warnings_build⟩
  rw [Compiler.unfinished_of_supported hsupported, Compiler.adapterLine, Adapter.segment]
  simp [Text.ofString]

/-- A compiler whose profile forbids a word and leaves room for a prompt. -/
def Compiler.bloodless : Compiler :=
  .ofProfile (.plain "base" ["blood"] 1000)

def Adapter.bloodInk : Adapter :=
  { versionId := "v1", modelName := "Blood Ink", triggerWord := "blood_ink", weight := .whole 1, previewImages := [] }

/-- On one platform the adapter is a line of the text, on the other one it is a pack. -/
theorem adapter_is_line_or_pack :
    (∃ line, (Compiler.bloodless.compile (.plain "cat" (some "flux")) (some .bloodInk) 0 1).1 = .ok line ∧
      line.pack.isSome = false) ∧
    ∃ packed plain,
      (Compiler.bloodless.compile (.plain "cat" (some "midjourney")) (some .bloodInk) 0 1).1 = .ok packed ∧
      (Compiler.bloodless.compile (.plain "cat" (some "midjourney")) none 0 1).1 = .ok plain ∧
      packed.pack.isSome = true ∧ packed = { plain with pack := packed.pack } := by
  have hflux : Adapter.isSupportedOn (some "flux") = true := by decide +kernel
  have hmidjourney : Adapter.isSupportedOn (some "midjourney") = false := by decide +kernel
  constructor
  · obtain ⟨hpack, -⟩ := adapter_takes_one_path Compiler.bloodless (.plain "cat" (some "flux")) (some .bloodInk)
      0 1 rfl rfl
    refine ⟨_, rfl, ?_⟩
    rw [Bool.eq_false_iff, ne_eq, hpack]
    exact fun h => Bool.false_ne_true (h.2.symm.trans hflux)
  · obtain ⟨hpack, p, b, plain, -, -, hplain, -, hsame, -⟩ := adapter_takes_one_path Compiler.bloodless
      (.plain "cat" (some "midjourney")) (some .bloodInk) 0 1 rfl rfl
    exact ⟨_, plain, rfl, hplain 0 1, hpack.mpr ⟨rfl, hmidjourney⟩, hsame hmidjourney⟩

end PromptStudio
