import PromptStudio.Proofs.Prompt.Account
import PromptStudio.Proofs.Prompt.Filling

/-!
# The order of filters

The effects of filters are put into a template one after the other, in the order of the request, into a text that holds
the effects before them. A token that an effect brings along, or makes together with what stands around it, is used by an
effect behind it and not by one before it. As long as no such token arises, the effects are put in at once, whatever
their order; the text of the block is the same, and what trails it are the effects whose token the template does not hold.
-/

namespace PromptStudio

namespace Index

variable {α : Type} {index other : Index α}

theorem get?_eq_of_perm (hkeys : (index.map (·.1)).Nodup) (h : index.Perm other) : index.get? = other.get? := by
  funext key
  refine Option.ext fun a => ?_
  rw [get?_eq_some_iff_mem hkeys, get?_eq_some_iff_mem ((h.map _).nodup_iff.mp hkeys), h.mem_iff]

theorem filter_ne_of_nodup {before after : Index α} {e : Text × α}
    (hkeys : ((before ++ e :: after).map (·.1)).Nodup) :
    (before ++ e :: after).filter (·.1 != e.1) = before ++ after := by
  rw [List.map_append, List.map_cons, List.nodup_middle, List.nodup_cons, ← List.map_append] at hkeys
  have hothers : ∀ x ∈ before ++ after, (x.1 != e.1) = true := by
    intro x hx
    rw [bne_iff_ne]
    exact fun hsame => hkeys.1 (hsame ▸ List.mem_map_of_mem hx)
  rw [List.filter_append, List.filter_cons_of_neg (by simp), ← List.filter_append, List.filter_eq_self.mpr hothers]

end Index

namespace RenderedBlock

open Segment

variable {template key : Text} {effects other : Effects} {ss : List Segment}

/-- Once the texts of all other effects are in their places, code points spell the token of an effect. -/
def EffectTokenArises (template : Text) (effects : Effects) : Prop :=
  ∃ e ∈ effects, Spells e.1 ((ofText template).flatMap (put (Index.get? (effects.filter (·.1 != e.1)))))

instance : Decidable (EffectTokenArises template effects) :=
  inferInstanceAs (Decidable (∃ e ∈ effects, _))

def substituted (b : Block) (effects : Effects) : Text :=
  (effects.foldl fillEffect ⟨b.template, []⟩).text

/-- The template with all effects in their places at once. -/
def withEffects (template : Text) (effects : Effects) : Text :=
  ((ofText template).flatMap (put (Index.get? effects))).flatMap source

theorem withEffects_of_perm (hkeys : (effects.map (·.1)).Nodup) (hperm : effects.Perm other) :
    withEffects template effects = withEffects template other := by
  rw [withEffects, Index.get?_eq_of_perm hkeys hperm, withEffects]

theorem effectTokenArises_of_arises (hkeys : (effects.map (·.1)).Nodup) (h : Arises effects (ofText template)) :
    EffectTokenArises template effects := by
  obtain ⟨before, e, after, rfl, hspells⟩ := h
  refine ⟨e, List.mem_append_right _ List.mem_cons_self, ?_⟩
  rw [Index.filter_ne_of_nodup hkeys, flatMap_put_append]
  exact spells_flatMap_put hspells _

theorem effectTokenArises_of_perm (hkeys : (effects.map (·.1)).Nodup) (hperm : effects.Perm other)
    (h : EffectTokenArises template other) : EffectTokenArises template effects := by
  obtain ⟨e, he, hspells⟩ := h
  refine ⟨e, hperm.mem_iff.mpr he, ?_⟩
  have hothers : ((effects.filter (·.1 != e.1)).map (·.1)).Nodup := hkeys.sublist (List.filter_sublist.map _)
  rwa [Index.get?_eq_of_perm hothers (hperm.filter _)]

theorem not_effectTokenArises_of_brace {brace : CodePoint} (hbrace : brace ∈ [Token.opener, Token.closer])
    (htemplate : point brace ∉ ofText template) (heffects : ∀ e ∈ effects, brace ∉ e.2) :
    ¬ EffectTokenArises template effects := by
  rintro ⟨e, -, hspells⟩
  exact not_spells_of_brace hbrace
    (point_notMem_flatMap_put htemplate fun d hd => heffects d (List.mem_of_mem_filter hd)) hspells

/-! ### The text -/

theorem text_fillEffect (f : Filling) (e : Text × Text) : (fillEffect f e).text = fill (Token.ofName e.1) e.2 f.text := by
  rw [fillEffect]
  split
  · rfl
  · rename_i habsent
    exact (Substring.replace_of_not_occurs habsent).symm

theorem text_foldl_fillEffect (effects : Effects) (f : Filling) :
    (effects.foldl fillEffect f).text = fillAll effects f.text := by
  induction effects generalizing f with
  | nil => rfl
  | cons e effects ih =>
      rw [List.foldl_cons, ih, text_fillEffect]
      rfl

/-! ### The effects that are used -/

theorem mem_used_fillEffect_iff {f : Filling} {e : Text × Text} :
    key ∈ (fillEffect f e).used ↔ key ∈ f.used ∨ key = e.1 ∧ Token.ofName key <:+: f.text := by
  rw [fillEffect]
  split
  · rename_i hoccurs
    rw [Substring.occurs_exact_iff] at hoccurs
    rw [List.mem_cons, or_comm, and_iff_left_of_imp fun hkey => hkey ▸ hoccurs]
  · rename_i habsent
    rw [Substring.occurs_exact_iff] at habsent
    rw [or_iff_left]
    rintro ⟨rfl, hinfix⟩
    exact habsent hinfix

theorem mem_used_foldl {f : Filling} (effects : Effects) (h : key ∈ f.used) :
    key ∈ (effects.foldl fillEffect f).used := by
  induction effects generalizing f with
  | nil => exact h
  | cons e effects ih => exact ih (mem_used_fillEffect_iff.mpr (.inl h))

/-- An effect whose token is there is used: the effects before it leave its token where it is. -/
theorem mem_used_of_occurs (hplain : ∀ e ∈ effects, Token.IsPlain e.1) {f : Filling} {e : Text × Text} (he : e ∈ effects)
    (h : Token.ofName e.1 <:+: f.text) : e.1 ∈ (effects.foldl fillEffect f).used := by
  induction effects generalizing f with
  | nil => cases he
  | cons d effects ih =>
      rw [List.foldl_cons]
      by_cases hsame : e.1 = d.1
      · exact mem_used_foldl effects (mem_used_fillEffect_iff.mpr (.inr ⟨hsame, h⟩))
      · rw [List.forall_mem_cons] at hplain
        have hrest : e ∈ effects := (List.mem_cons.mp he).resolve_left fun heq => hsame (congrArg Prod.fst heq)
        refine ih hplain.2 hrest ?_
        rw [text_fillEffect]
        exact ofName_infix_fill (n := ⟨e.1, hplain.2 e hrest⟩) (m := ⟨d.1, hplain.1⟩)
          (fun heq => hsame (congrArg Subtype.val heq)) d.2 h

/-- As long as no token arises, an effect is used only if its token was there. -/
theorem occurs_of_mem_used (hplain : ∀ e ∈ effects, Token.IsPlain e.1) (hnone : ¬ Arises effects ss) {f : Filling}
    (htext : f.text = ss.flatMap source) (h : key ∈ (effects.foldl fillEffect f).used) :
    key ∈ f.used ∨ (∃ e ∈ effects, e.1 = key) ∧ Token.ofName key <:+: f.text := by
  induction effects generalizing ss f with
  | nil => exact .inl h
  | cons e effects ih =>
      rw [List.forall_mem_cons] at hplain
      have hnext : (fillEffect f e).text = (ss.flatMap (put (Index.get? [e]))).flatMap source := by
        rw [text_fillEffect, htext]
        exact fill_flatMap_source hplain.1 (not_spells_of_not_arises hnone e List.mem_cons_self) e.2
      rcases ih hplain.2 (not_arises_of_cons hnone) hnext h with hused | ⟨⟨d, hd, rfl⟩, hinfix⟩
      · refine (mem_used_fillEffect_iff.mp hused).imp_right fun hnow => ⟨⟨e, List.mem_cons_self, hnow.1.symm⟩, hnow.2⟩
      · refine .inr ⟨⟨d, List.mem_cons_of_mem e hd, rfl⟩, ?_⟩
        rw [hnext, ofName_infix_iff (n := ⟨d.1, hplain.2 d hd⟩)] at hinfix
        have hmem := hinfix.resolve_right (not_spells_of_not_arises (not_arises_of_cons hnone) d hd)
        rw [htext, ofName_infix_iff (n := ⟨d.1, hplain.2 d hd⟩)]
        exact .inl (token_mem_flatMap_put_iff.mp hmem).1

/-! ### Blocks -/

theorem substituted_eq (hplain : ∀ e ∈ effects, Token.IsPlain e.1) {b : Block}
    (hnone : ¬ Arises effects (ofText b.template)) : substituted b effects = withEffects b.template effects := by
  rw [substituted, text_foldl_fillEffect, withEffects, ← fillAll_flatMap_source hplain hnone, flatMap_source_ofText]

theorem body_ofBlock_eq (b : Block) (r : PromptRequest) (effects : Effects) :
    (ofBlock b r effects).body = trimEdges (fillInputs r (strip (substituted b effects))) := rfl

theorem trailing_ofBlock_eq (hplain : ∀ e ∈ effects, Token.IsPlain e.1) {b : Block}
    (hnone : ¬ Arises effects (ofText b.template)) (r : PromptRequest) :
    (ofBlock b r effects).trailing = (effects.filter fun e => ¬ Token.ofName e.1 <:+: b.template).map (·.2) := by
  rw [ofBlock]
  refine congrArg (List.map _) (List.filter_congr fun e he => ?_)
  have hused : e.1 ∈ (effects.foldl fillEffect ⟨b.template, []⟩).used ↔ Token.ofName e.1 <:+: b.template := by
    constructor
    · intro hmem
      have hbefore := occurs_of_mem_used hplain hnone (flatMap_source_ofText b.template).symm hmem
      exact (hbefore.resolve_left List.not_mem_nil).2
    · exact mem_used_of_occurs (f := ⟨b.template, []⟩) hplain he
  simp only [List.contains_eq_mem, hused, decide_not]

theorem trailing_ofBlock_sublist (hplain : ∀ e ∈ effects, Token.IsPlain e.1) (b : Block) (r : PromptRequest) :
    (ofBlock b r effects).trailing.Sublist
      ((effects.filter fun e => ¬ Token.ofName e.1 <:+: b.template).map (·.2)) := by
  have hunused : ∀ e ∈ effects, e.1 ∉ (effects.foldl fillEffect ⟨b.template, []⟩).used →
      ¬ Token.ofName e.1 <:+: b.template :=
    fun e he hunused hinfix => hunused (mem_used_of_occurs (f := ⟨b.template, []⟩) hplain he hinfix)
  have htrailing : (effects.filter fun e => !(effects.foldl fillEffect ⟨b.template, []⟩).used.contains e.1)
      = (effects.filter fun e => ¬ Token.ofName e.1 <:+: b.template).filter
          fun e => !(effects.foldl fillEffect ⟨b.template, []⟩).used.contains e.1 := by
    rw [List.filter_filter]
    refine List.filter_congr fun e he => ?_
    simpa using hunused e he
  rw [ofBlock]
  dsimp only
  rw [htrailing]
  exact List.filter_sublist.map _

end RenderedBlock

namespace Catalog

variable {c : Catalog} {filters other : List (Text × Text)}

/-- A block for a request, with the effects of the filters that the request chose. -/
def renderedBlock (c : Catalog) (b : Block) (r : PromptRequest) : RenderedBlock :=
  .ofBlock b r (c.effects r.filters)

theorem effects_perm (c : Catalog) (h : filters.Perm other) : (c.effects filters).Perm (c.effects other) := by
  rw [effects_eq, effects_eq]
  exact h.filterMap _

theorem keys_effects_sublist (c : Catalog) (filters : List (Text × Text)) :
    ((c.effects filters).map (·.1)).Sublist (filters.map (·.1)) := by
  rw [effects_eq]
  induction filters with
  | nil => exact .slnil
  | cons choice rest ih =>
      rw [List.map_cons]
      cases htext : c.textOf? choice with
      | none =>
          rw [List.filterMap_cons_none (by rw [htext, Option.map_none])]
          exact ih.cons _
      | some text =>
          rw [List.filterMap_cons_some (by rw [htext, Option.map_some]), List.map_cons]
          exact ih.cons_cons _

end Catalog

open RenderedBlock in
/-- Of every catalog, block and request, where each filter is chosen once and the keys of filters with an effect hold no
brace, and of every other order of the filters: as long as no token arises when effects are put in, the body is the same
in both orders. It is made of the template with all effects in their places at once. And the trailing effects are the
same up to their order; in each they are those whose token the template does not hold. No token arises if one of the
braces stands neither in effects nor in the template outside its tokens. And whatever arises, no effect trails whose token
the template holds. -/
theorem filter_order_keeps_block_unless_tokens_arise (c : Catalog) (b : Block) (r : PromptRequest)
    {other : List (Text × Text)} (hother : r.filters.Perm other) (hkeys : (r.filters.map (·.1)).Nodup)
    (hplain : ∀ e ∈ c.effects r.filters, Token.IsPlain e.1) :
    (¬ EffectTokenArises b.template (c.effects r.filters) →
        (c.renderedBlock b { r with filters := other }).body = (c.renderedBlock b r).body ∧
        (c.renderedBlock b r).body
          = trimEdges (fillInputs r (strip (withEffects b.template (c.effects r.filters)))) ∧
        (c.renderedBlock b { r with filters := other }).trailing.Perm (c.renderedBlock b r).trailing ∧
        ∀ filters ∈ [r.filters, other], (c.renderedBlock b { r with filters }).trailing
          = ((c.effects filters).filter fun e => ¬ Token.ofName e.1 <:+: b.template).map (·.2)) ∧
      (∀ brace ∈ [Token.opener, Token.closer], Segment.point brace ∉ Segment.ofText b.template →
        (∀ e ∈ c.effects r.filters, brace ∉ e.2) → ¬ EffectTokenArises b.template (c.effects r.filters)) ∧
      ∀ filters ∈ [r.filters, other], (c.renderedBlock b { r with filters }).trailing.Sublist
        (((c.effects filters).filter fun e => ¬ Token.ofName e.1 <:+: b.template).map (·.2)) := by
  have heffects : (c.effects r.filters).Perm (c.effects other) := c.effects_perm hother
  have hnodup : ((c.effects r.filters).map (·.1)).Nodup := hkeys.sublist (c.keys_effects_sublist r.filters)
  have hplainOther : ∀ e ∈ c.effects other, Token.IsPlain e.1 := fun e he => hplain e (heffects.mem_iff.mpr he)
  refine ⟨fun hnone => ?_, fun brace hbrace => not_effectTokenArises_of_brace hbrace, ?_⟩
  · have harises : ¬ Segment.Arises (c.effects r.filters) (Segment.ofText b.template) :=
      mt (effectTokenArises_of_arises hnodup) hnone
    have harisesOther : ¬ Segment.Arises (c.effects other) (Segment.ofText b.template) := fun h =>
      hnone (effectTokenArises_of_perm hnodup heffects
        (effectTokenArises_of_arises ((heffects.map _).nodup_iff.mp hnodup) h))
    have htrailing : (c.renderedBlock b r).trailing
        = ((c.effects r.filters).filter fun e => ¬ Token.ofName e.1 <:+: b.template).map (·.2) :=
      trailing_ofBlock_eq hplain harises r
    have htrailingOther : (c.renderedBlock b { r with filters := other }).trailing
        = ((c.effects other).filter fun e => ¬ Token.ofName e.1 <:+: b.template).map (·.2) :=
      trailing_ofBlock_eq hplainOther harisesOther _
    have hbody : (c.renderedBlock b r).body
        = trimEdges (fillInputs r (strip (withEffects b.template (c.effects r.filters)))) := by
      rw [Catalog.renderedBlock, body_ofBlock_eq, substituted_eq hplain harises]
    have hbodyOther : (c.renderedBlock b { r with filters := other }).body
        = trimEdges (fillInputs r (strip (withEffects b.template (c.effects other)))) := by
      rw [Catalog.renderedBlock, body_ofBlock_eq, substituted_eq hplainOther harisesOther]
      rfl
    refine ⟨?_, hbody, ?_, by simp [htrailing, htrailingOther]⟩
    · rw [hbody, hbodyOther, withEffects_of_perm hnodup heffects]
    · rw [htrailing, htrailingOther]
      exact (heffects.symm.filter _).map _
  · simp only [List.forall_mem_cons]
    exact ⟨trailing_ofBlock_sublist hplain b r, trailing_ofBlock_sublist hplainOther b _,
      fun _ h => absurd h List.not_mem_nil⟩

def Catalog.ofEffects (effects : Effects) : Catalog where
  profiles := []
  blueprints := []
  blocks := []
  filters := effects.map fun e =>
    (e.1, { key := e.1, label := e.1, schema := { type := "select", options := ["on"], min := none, max := none }
            effect := [("on", e.2)], isPremium := false })
  baseModels := []

def PromptRequest.catChoosing (keys : List Text) : PromptRequest :=
  { PromptRequest.plain "cat" none with filters := keys.map (·, "on") }

/-- A filter with a token in the block and one without, in both orders. -/
theorem calm_cat_in_either_order :
    let c := Catalog.ofEffects [("mood", "calm"), ("light", "golden hour")]
    let b := Block.subjectIn "a \x7bmood\x7d \x7bsubject\x7d"
    (c.renderedBlock b (.catChoosing ["mood", "light"])).body = "a calm cat" ∧
      (c.renderedBlock b (.catChoosing ["light", "mood"])).body = "a calm cat" ∧
      (c.renderedBlock b (.catChoosing ["light", "mood"])).trailing = ["golden hour"] := by
  intro c b
  have hperm : (PromptRequest.catChoosing ["mood", "light"]).filters.Perm
      (PromptRequest.catChoosing ["light", "mood"]).filters := .swap _ _ _
  obtain ⟨hsame, -⟩ := filter_order_keeps_block_unless_tokens_arise c b _ hperm (by decide) (by decide)
  obtain ⟨hbodies, hbody, -, htrailing⟩ := hsame (by decide +kernel)
  have hcalm : (c.renderedBlock b (.catChoosing ["mood", "light"])).body = "a calm cat" := by
    rw [hbody]
    decide +kernel
  refine ⟨hcalm, hbodies.trans hcalm, ?_⟩
  exact (htrailing _ (List.mem_cons_of_mem _ List.mem_cons_self)).trans (by decide +kernel)

/-- The effect of `a` is the token of `b`, which the template does not hold. Behind `a`, the effect of `b` is put in its
place; before `a` it trails the block, and the token goes. -/
theorem brought_token_depends_on_order :
    let c := Catalog.ofEffects [("a", "\x7bb\x7d"), ("b", "x")]
    let b := Block.subjectIn "\x7ba\x7d!"
    (PromptRequest.catChoosing ["a", "b"]).filters.Perm (PromptRequest.catChoosing ["b", "a"]).filters ∧
      ¬ Token.ofName "b" <:+: b.template ∧
      (c.renderedBlock b (.catChoosing ["a", "b"])).body = "x!" ∧
      (c.renderedBlock b (.catChoosing ["a", "b"])).trailing = [] ∧
      (c.renderedBlock b (.catChoosing ["b", "a"])).body = "!" ∧
      (c.renderedBlock b (.catChoosing ["b", "a"])).trailing = ["x"] ∧
      ¬ ∀ (c : Catalog) (b : Block) (r : PromptRequest) (other : List (Text × Text)), r.filters.Perm other →
        (c.renderedBlock b { r with filters := other }).body = (c.renderedBlock b r).body ∧
        (c.renderedBlock b { r with filters := other }).trailing.Perm (c.renderedBlock b r).trailing := by
  intro c b
  have hperm : (PromptRequest.catChoosing ["a", "b"]).filters.Perm (PromptRequest.catChoosing ["b", "a"]).filters :=
    .swap _ _ _
  have hbehind : (c.renderedBlock b (.catChoosing ["a", "b"])).body = "x!" := by decide +kernel
  have hbefore : (c.renderedBlock b (.catChoosing ["b", "a"])).body = "!" := by decide +kernel
  refine ⟨hperm, by decide, hbehind, by decide +kernel, hbefore, by decide +kernel, fun hall => ?_⟩
  have hsame := (hall c b _ _ hperm).1
  rw [hbehind] at hsame
  exact absurd (hbefore.symm.trans hsame) (by decide)

end PromptStudio
