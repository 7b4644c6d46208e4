import PromptStudio.Prompt.Compiler
import PromptStudio.Proofs.Json.Encodable
import PromptStudio.Proofs.Prompt.Redaction
import PromptStudio.Proofs.Store.Load

/-!
# The policy of a profile

A prompt that compiles is the one that is built from the profile and the blueprint of the request. Its text is what
redaction left of the assembled parts, cut to the length that the profile allows; a cut text is a part of the whole, so
cutting brings no forbidden pattern back. The main statement says this of every catalog, every blueprint that was
registered, every request and every adapter.
-/

namespace PromptStudio

namespace Compiler

variable {c : Compiler} {r : PromptRequest} {adapter : Option Adapter} {now : Int} {draw : Nat}
  {result : CompiledPrompt}

/-- A request compiles if its profile and its blueprint are there and the adapter can be shown; the prompt is built from
these. -/
theorem compile_eq_ok_iff : (c.compile r adapter now draw).1 = .ok result ↔
    ∃ p b, c.profile r.profileId = .ok p ∧ c.blueprint r.blueprintId = .ok b ∧
      Failure.ofChecked (checkAdapter r adapter) = .ok () ∧
      result = c.build p b r adapter (Seed.ofRequest r now draw).1 := by
  rw [compile]
  constructor
  · intro h
    split at h
    · cases h
    · cases h
    · rename_i p b hprofile hblueprint
      obtain ⟨_, hchecked, rfl⟩ := map_eq_ok.mp h
      exact ⟨p, b, hprofile, hblueprint, hchecked, rfl⟩
  · rintro ⟨p, b, hprofile, hblueprint, hchecked, rfl⟩
    rw [hprofile, hblueprint]
    exact map_eq_ok.mpr ⟨(), hchecked, rfl⟩

theorem compile_eq_ok (h : (c.compile r adapter now draw).1 = .ok result) :
    ∃ p b, c.profile r.profileId = .ok p ∧ c.blueprint r.blueprintId = .ok b ∧
      result = c.build p b r adapter (Seed.ofRequest r now draw).1 := by
  obtain ⟨p, b, hprofile, hblueprint, -, hbuilt⟩ := compile_eq_ok_iff.mp h
  exact ⟨p, b, hprofile, hblueprint, hbuilt⟩

theorem finished_isInfix (p : Profile) (text : Text) :
    (finished p text).1 <:+: Redaction.clean p.forbiddenPatterns text :=
  List.IsPrefix.isInfix (List.take_prefix p.maxLength _)

/-! ### The text has bytes -/

theorem isEncodable_joinParts {parts : List Text} (h : ∀ part ∈ parts, part.isEncodable = true) :
    (joinParts parts).isEncodable = true :=
  Text.isEncodable_intercalate (Text.isEncodable_ofString _) fun part hpart => h part (List.mem_of_mem_filter hpart)

theorem isEncodable_text_build {p : Profile} {b : Blueprint} {seed : Text}
    (h : (assembled (c.draft p b r) p b r (inlineAdapter? r adapter)).isEncodable = true) :
    (c.build p b r adapter seed).text.isEncodable = true :=
  Text.isEncodable_of_sublist h ((List.take_sublist _ _).trans (Redaction.clean_sublist p.forbiddenPatterns _))

end Compiler

/-- Whatever catalog, registered blueprints, request and adapter a prompt is compiled from: its text has at most as many
characters as the profile allows, and no forbidden pattern but the empty one occurs in it, case ignored. -/
theorem compiled_prompt_obeys_policy (c : Compiler) (r : PromptRequest) (adapter : Option Adapter) (now : Int)
    (draw : Nat) {result : CompiledPrompt} (h : (c.compile r adapter now draw).1 = .ok result) :
    ∃ p, c.profile r.profileId = .ok p ∧ result.text.length ≤ p.maxLength ∧
      ∀ pattern ∈ p.forbiddenPatterns, pattern ≠ [] → ¬ Substring.Occurs CaseFold.same pattern result.text := by
  obtain ⟨p, b, hprofile, _, rfl⟩ := Compiler.compile_eq_ok h
  refine ⟨p, hprofile, List.length_take_le _ _, ?_⟩
  exact (Redaction.isClean_clean p.forbiddenPatterns _).of_part (Compiler.finished_isInfix p _)

/-- A profile with nothing but a policy. -/
def Profile.plain (basePrompt : Text) (forbiddenPatterns : List Text) (maxLength : Nat) : Profile :=
  { id := "plain", name := "Plain", preferredOrder := [], capabilities := [], basePrompt, forbiddenPatterns, maxLength }

def Blueprint.bare : Blueprint :=
  { id := "bare", name := "Bare", category := "test", description := [], blocks := [], constraints := [],
    previewDescription := none }

theorem Compiler.rendered_draft_bare (c : Compiler) (p : Profile) (r : PromptRequest) :
    (c.draft p .bare r).rendered = [] := by
  rw [draft, orderedKeys, Catalog.orderBlocks, Blueprint.bare, List.mergeSort_nil]
  rfl

def Compiler.ofProfile (p : Profile) : Compiler :=
  .ofCatalog
    { profiles := [(p.id, p)], blueprints := [(Blueprint.bare.id, .bare)], blocks := [], filters := [], baseModels := [] }

def PromptRequest.plain (subject : Text) (targetPlatform : Option Text) : PromptRequest :=
  { profileId := "plain", blueprintId := "bare", filters := [], seed := some "s", subject, context := [], items := [],
    environment := [], restrictions := [], targetPlatform }

/-- A compiler whose profile forbids `nsfw` and writes it inside of itself. -/
def Compiler.nested : Compiler :=
  .ofProfile (.plain "a nsNSFWfw b" ["nsfw"] 12)

/-- Taking `nsfw` out of `nsNSFWfw` once leaves another one, and the text is cut behind twelve characters. -/
theorem nested_pattern_is_gone :
    ∃ result, (Compiler.nested.compile (.plain "cat" none) none 0 1).1 = .ok result ∧ result.text.length ≤ 12 ∧
      ¬ Substring.Occurs CaseFold.same (Text.ofString "nsfw") result.text := by
  refine ⟨Compiler.nested.build (.plain "a nsNSFWfw b" ["nsfw"] 12) .bare (.plain "cat" none) none "s", rfl, ?_⟩
  obtain ⟨p, hprofile, hlength, hclean⟩ := compiled_prompt_obeys_policy Compiler.nested (.plain "cat" none) none 0 1 rfl
  cases hprofile
  exact ⟨hlength, hclean _ List.mem_cons_self (by decide)⟩

end PromptStudio
