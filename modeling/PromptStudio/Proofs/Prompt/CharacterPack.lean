import PromptStudio.Proofs.Prompt.Compiled

/-!
# What a character pack still says

A pack is put together from pieces. Pieces that come from the catalog or the request are cleaned one by one, and the
consistency prompt is cleaned as a whole, so no forbidden pattern occurs in them. The standing hints are never cleaned;
the identity is not cleaned once it is joined, and where the subject leaves nothing, it begins with the name of the model
as it is. So an identity or a hint can hold a forbidden pattern: `forbidden_words_stay_in_pack` shows both.
-/

namespace PromptStudio

theorem Blank.trimBoth_isInfix {α : Type} (p : α → Bool) (cs : List α) : trimBoth p cs <:+: cs := by
  rw [trimBoth, dropTail]
  have htail : ((cs.dropWhile p).reverse.dropWhile p).reverse <+: cs.dropWhile p := by
    rw [← List.reverse_suffix, List.reverse_reverse]
    exact List.dropWhile_suffix p
  exact htail.isInfix.trans (List.dropWhile_suffix p).isInfix

namespace CharacterPack

open Redaction

def descriptions (c : CharacterPack) : List Text :=
  c.identity :: (c.styleDescriptors ++ c.cameraDescriptors ++ c.layoutDescriptors ++ c.filterDescriptors ++
    c.constraints ++ c.negativeHints ++ [c.consistencyPrompt])

theorem isClean_of_mem_cleaned {patterns pieces : List Text} {text : Text} (h : text ∈ cleaned patterns pieces) :
    IsClean patterns text := by
  obtain ⟨piece, _, rfl⟩ := List.mem_map.mp (List.mem_filter.mp h).1
  exact (isClean_clean patterns piece).of_part (Blank.trimBoth_isInfix _ _)

theorem isClean_of_mem_bodies {patterns : List Text} {rendered : List RenderedBlock} {types : List BlockType}
    {text : Text} (h : text ∈ bodies patterns rendered types) : IsClean patterns text :=
  isClean_of_mem_cleaned h

theorem exists_parts_of_identity (patterns : List Text) (r : PromptRequest) (a : Adapter)
    (rendered : List RenderedBlock) : ∃ parts, identityOf patterns r a rendered = (", " : Text).intercalate parts ∧
      ∀ part ∈ parts, IsClean patterns part ∨ part = a.modelName := by
  refine ⟨_, rfl, ?_⟩
  intro part hpart
  rcases List.mem_append.mp hpart with hhead | hbody
  · split at hhead
    · exact .inr (List.mem_singleton.mp hhead)
    · exact .inl (isClean_of_mem_cleaned hhead)
  · exact .inl (isClean_of_mem_bodies hbody)

theorem exists_hints (r : PromptRequest) (a : Adapter) (rendered : List RenderedBlock) (effects : Effects)
    (b : Blueprint) (p : Profile) : ∃ own, (ofPrompt r a rendered effects b p).negativeHints = own ++ standingHints ∧
      ∀ hint ∈ own, IsClean p.forbiddenPatterns hint := by
  refine ⟨_, rfl, ?_⟩
  intro hint hhint
  split at hhint
  · cases hhint
  · exact isClean_of_mem_cleaned hhint

end CharacterPack

namespace Compiler

/-- A pack comes from a blueprint, a profile and an adapter that is not inside the prompt. -/
theorem pack_build_eq_some {c : Compiler} {p : Profile} {b : Blueprint} {r : PromptRequest} {adapter : Option Adapter}
    {seed : Text} {pack : CharacterPack} (h : (c.build p b r adapter seed).pack = some pack) :
    ∃ a, packedAdapter? r adapter = some a ∧
      pack = .ofPrompt r a (c.draft p b r).rendered (c.draft p b r).effects b p := by
  obtain ⟨a, hadapter, hpack⟩ := Option.map_eq_some_iff.mp h
  exact ⟨a, hadapter, hpack.symm⟩

end Compiler

/-- Whatever a prompt with a pack is compiled from: no forbidden pattern occurs in the descriptors of style, camera,
layout and filters, in the constraints, or in the consistency prompt. The hints are clean ones with the standing hints
behind them, and the identity is joined from parts that are clean, but for the name of the model. -/
theorem character_pack_is_clean_by_pieces (c : Compiler) (r : PromptRequest) (adapter : Option Adapter) (now : Int)
    (draw : Nat) {result : CompiledPrompt} {pack : CharacterPack}
    (h : (c.compile r adapter now draw).1 = .ok result) (hpack : result.pack = some pack) :
    ∃ p, c.profile r.profileId = .ok p ∧
      (∀ text ∈ pack.styleDescriptors ++ pack.cameraDescriptors ++ pack.layoutDescriptors ++ pack.filterDescriptors ++
        pack.constraints ++ [pack.consistencyPrompt], Redaction.IsClean p.forbiddenPatterns text) ∧
      (∃ own, pack.negativeHints = own ++ CharacterPack.standingHints ∧
        ∀ hint ∈ own, Redaction.IsClean p.forbiddenPatterns hint) ∧
      ∃ parts, pack.identity = (", " : Text).intercalate parts ∧
        ∀ part ∈ parts, Redaction.IsClean p.forbiddenPatterns part ∨ part = pack.modelName := by
  obtain ⟨p, b, hprofile, _, rfl⟩ := Compiler.compile_eq_ok h
  obtain ⟨a, _, rfl⟩ := Compiler.pack_build_eq_some hpack
  refine ⟨p, hprofile, ?_, CharacterPack.exists_hints r a _ _ b p, CharacterPack.exists_parts_of_identity _ r a _⟩
  simp only [List.forall_mem_append, List.forall_mem_singleton]
  refine ⟨⟨⟨⟨⟨?_, ?_⟩, ?_⟩, ?_⟩, ?_⟩, Redaction.isClean_clean _ _⟩
  all_goals exact fun text hmem => CharacterPack.isClean_of_mem_cleaned hmem

/-- A compiler whose profile forbids a word of a model's name and a word of the standing hints. -/
def Compiler.goreless : Compiler :=
  .ofProfile (.plain "base" ["gore", "drift"] 100)

def Adapter.goreQueen : Adapter :=
  { versionId := "v1", modelName := "Gore Queen", triggerWord := "gore_queen", weight := .whole 1, previewImages := [] }

/-- What the compiler without gore makes of a subject and the queen of gore. -/
def CompiledPrompt.ofQueen (subject : Text) : CompiledPrompt :=
  Compiler.goreless.build (.plain "base" ["gore", "drift"] 100) .bare (.plain subject (some "midjourney"))
    (some .goreQueen) "s"

/-- What is left of a subject is clean, and so is the consistency prompt that names the model. -/
theorem gore_goes_from_consistency_prompt :
    ∃ result pack, (Compiler.goreless.compile (.plain "gore monster" (some "midjourney")) (some .goreQueen) 0 1).1
        = .ok result ∧ result.pack = some pack ∧
      ¬ Substring.Occurs CaseFold.same (Text.ofString "gore") pack.consistencyPrompt := by
  have hpack : (CompiledPrompt.ofQueen "gore monster").pack.isSome = true := rfl
  obtain ⟨pack, hpack⟩ := Option.isSome_iff_exists.mp hpack
  refine ⟨.ofQueen "gore monster", pack, rfl, hpack, ?_⟩
  obtain ⟨p, hprofile, hclean, -⟩ := character_pack_is_clean_by_pieces Compiler.goreless
    (.plain "gore monster" (some "midjourney")) (some .goreQueen) 0 1 rfl hpack
  cases hprofile
  exact hclean _ (List.mem_append_right _ (List.mem_singleton_self _)) _ List.mem_cons_self (by decide)

/-- Without a subject the identity is the name of the model with its forbidden word, and a standing hint keeps the other
one: not every description of a pack is clean. -/
theorem forbidden_words_stay_in_pack :
    ∃ result pack, (Compiler.goreless.compile (.plain [] (some "midjourney")) (some .goreQueen) 0 1).1 = .ok result ∧
      result.pack = some pack ∧ pack.identity = Text.ofString "Gore Queen" ∧
      Text.ofString "style drift" ∈ pack.negativeHints ∧
      Substring.Occurs CaseFold.same (Text.ofString "gore") pack.identity ∧
      Substring.Occurs CaseFold.same (Text.ofString "drift") (Text.ofString "style drift") ∧
      ¬ ∀ text ∈ pack.descriptions, Redaction.IsClean ["gore", "drift"] text := by
  have hpack : (CompiledPrompt.ofQueen []).pack.isSome = true := rfl
  obtain ⟨pack, hpack⟩ := Option.isSome_iff_exists.mp hpack
  have hidentity : (CompiledPrompt.ofQueen []).pack.map (·.identity) = some (Text.ofString "Gore Queen") := by
    decide +kernel
  have hhints : (CompiledPrompt.ofQueen []).pack.map (·.negativeHints) = some CharacterPack.standingHints := by
    decide +kernel
  rw [hpack] at hidentity hhints
  have hname : pack.identity = Text.ofString "Gore Queen" := Option.some.inj hidentity
  have hstanding : pack.negativeHints = CharacterPack.standingHints := Option.some.inj hhints
  have hgore : Substring.Occurs CaseFold.same (Text.ofString "gore") pack.identity := by
    rw [hname, ← Substring.occurs_iff]
    decide +kernel
  refine ⟨.ofQueen [], pack, rfl, hpack, hname, ?_, hgore, ?_, ?_⟩
  · rw [hstanding]
    exact List.mem_cons_self
  · rw [← Substring.occurs_iff]
    decide +kernel
  · intro hclean
    exact hclean pack.identity List.mem_cons_self _ List.mem_cons_self (by decide) hgore

end PromptStudio
