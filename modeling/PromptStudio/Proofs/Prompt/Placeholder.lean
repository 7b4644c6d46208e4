import PromptStudio.Proofs.Prompt.CharacterPack
import PromptStudio.Proofs.Prompt.FilterOrder

/-!
# Tokens that are left

After the effects of filters, every other token goes but those of the input fields, and these are filled in. No name
between braces should be left then. But the text is looked through once, and a token that goes or is filled in leaves its
neighbours where they are. Where two braces that belong to no token stand around tokens, the two make a token themselves
when those are resolved. With input that holds no braces this is the only way for a token to be left in a body. Behind the
body stand trailing effects, with all tokens that they hold.
-/

namespace PromptStudio

namespace Token

variable {name t : Text}

/-- A name that rendering looks for: letters, digits and underscores, at least one of them. -/
def IsName (name : Text) : Prop :=
  name ≠ [] ∧ ∀ p ∈ name, isNamePoint p = true

instance : Decidable (IsName name) :=
  inferInstanceAs (Decidable (_ ∧ _))

theorem IsName.isPlain (h : IsName name) : IsPlain name := by
  intro p hp
  have hpoint := h.2 p hp
  rw [isBrace, Bool.or_eq_false_iff, beq_eq_false_iff_ne, beq_eq_false_iff_ne]
  constructor
  · rintro rfl
    exact absurd hpoint (by decide)
  · rintro rfl
    exact absurd hpoint (by decide)

theorem IsName.notMem_ofName (h : IsName name) {p : CodePoint} (hpoint : isNamePoint p = false)
    (hbrace : isBrace p = false) : p ∉ ofName name := by
  rw [ofName_eq_cons, List.mem_cons, List.mem_append, List.mem_singleton, not_or, not_or]
  refine ⟨?_, fun hmem => absurd (h.2 p hmem) (by simp [hpoint]), ?_⟩
  · rintro rfl
    exact absurd hbrace (by decide)
  · rintro rfl
    exact absurd hbrace (by decide)

theorem name?_eq_some_iff : name? t = some name ↔ IsName name ∧ name ++ [closer] <+: t := by
  have hclosed : t.takeWhile isNamePoint = name ∧ (t.dropWhile isNamePoint).head? = some closer ↔ _ :=
    takeWhile_closed_iff (by decide)
  rw [IsName, and_assoc, ← hclosed, name?]
  split
  · rename_i hempty
    refine iff_of_false nofun ?_
    rintro ⟨hne, rfl, -⟩
    exact hne (List.isEmpty_iff.mp hempty)
  · rename_i hne
    rw [List.isEmpty_iff] at hne
    split
    · rename_i hhead
      rw [Option.some_inj]
      constructor
      · rintro rfl
        exact ⟨hne, rfl, hhead⟩
      · exact fun h => h.2.1
    · rename_i hother
      exact iff_of_false nofun fun h => hother h.2.2

end Token

namespace Segment

variable {name : Text} {texts : Text → Option Text} {ss : List Segment}

/-- Two braces that belong to no token stand around segments that turn into a name. -/
def Encloses (texts : Text → Option Text) (ss : List Segment) : Prop :=
  ∃ run name, Token.IsName name ∧ run.flatMap (put texts) = name.map point ∧
    point Token.opener :: (run ++ [point Token.closer]) <:+: ss

theorem Encloses.cons {s : Segment} (h : Encloses texts ss) : Encloses texts (s :: ss) := by
  obtain ⟨run, name, hname, hrun, hpart⟩ := h
  exact ⟨run, name, hname, hrun, List.infix_cons hpart⟩

theorem not_encloses_of_brace {brace : CodePoint} (hbrace : brace ∈ [Token.opener, Token.closer])
    (h : point brace ∉ ss) : ¬ Encloses texts ss := by
  rintro ⟨run, name, -, -, hpart⟩
  refine h (hpart.subset ?_)
  rcases List.mem_cons.mp hbrace with rfl | hcloser
  · exact List.mem_cons_self
  · rw [List.mem_singleton.mp hcloser]
    exact List.mem_cons_of_mem _ (List.mem_append_right _ List.mem_cons_self)

theorem spells_of_encloses (h : Encloses texts ss) :
    ∃ name, Token.IsName name ∧ Spells name (ss.flatMap (put texts)) := by
  obtain ⟨run, name, hname, hrun, before, after, rfl⟩ := h
  refine ⟨name, hname, before.flatMap (put texts), after.flatMap (put texts), ?_⟩
  simp only [List.flatMap_append, List.flatMap_cons, List.flatMap_nil, hrun, put, Token.ofName_eq_cons, List.map_cons,
    List.map_append, List.map_nil, List.append_nil, List.singleton_append]

/-- The code points of a name and of the brace behind it come from segments up to that brace, as no text that is put in
holds one. -/
theorem exists_run_of_prefix (hplain : ∀ name value, texts name = some value → Token.IsPlain value) {part : Text}
    (hpart : Token.closer ∉ part) (h : part.map point ++ [point Token.closer] <+: ss.flatMap (put texts)) :
    ∃ run, run.flatMap (put texts) = part.map point ∧ run ++ [point Token.closer] <+: ss := by
  induction ss generalizing part with
  | nil => cases part <;> cases List.prefix_nil.mp h
  | cons s ss ih =>
      rw [List.flatMap_cons] at h
      cases s with
      | point c =>
          cases part with
          | nil =>
              obtain ⟨hcloser, -⟩ := List.cons_prefix_cons.mp h
              exact ⟨[], rfl, List.cons_prefix_cons.mpr ⟨hcloser, List.nil_prefix⟩⟩
          | cons d part =>
              obtain ⟨hsame, hrest⟩ := List.cons_prefix_cons.mp h
              obtain ⟨run, hrun, hprefix⟩ := ih (mt (List.mem_cons_of_mem d) hpart) hrest
              refine ⟨point c :: run, ?_, List.cons_prefix_cons.mpr ⟨rfl, hprefix⟩⟩
              rw [List.flatMap_cons, hrun, put, List.map_cons, hsame, List.singleton_append]
      | token n =>
          cases htext : texts n.1 with
          | none =>
              rw [put_of_eq_none htext] at h
              cases part <;> cases (List.cons_prefix_cons.mp h).1
          | some value =>
              rw [put_of_eq_some htext] at h
              -- The brace does not come from the text that was put in, so the name goes on behind that text.
              have hvalue := mt point_mem_map_iff.mp (hplain n.1 value htext).closer_notMem
              obtain ⟨beyond, hsplit, hbeyond⟩ := Substring.exists_append_of_prefix_append hvalue h
              obtain ⟨front, rest, rfl, -, rfl⟩ := List.map_eq_append_iff.mp hsplit
              obtain ⟨run, hrun, hprefix⟩ := ih (fun hmem => hpart (List.mem_append_right front hmem)) hbeyond
              refine ⟨token n :: run, ?_, List.cons_prefix_cons.mpr ⟨rfl, hprefix⟩⟩
              rw [List.flatMap_cons, hrun, put_of_eq_some htext, hsplit]

/-- If no text that is put in holds a brace, both braces of a token were there before. -/
theorem encloses_of_spells (hplain : ∀ name value, texts name = some value → Token.IsPlain value)
    (hname : Token.IsName name) (h : Spells name (ss.flatMap (put texts))) : Encloses texts ss := by
  induction ss with
  | nil => exact absurd (List.map_eq_nil_iff.mp (List.infix_nil.mp h)) (Token.ofName_ne_nil name)
  | cons s ss ih =>
      rw [Spells, List.flatMap_cons] at h
      cases s with
      | point c =>
          rcases List.infix_cons_iff.mp h with hprefix | hrest
          · obtain ⟨hopener, htail⟩ := List.cons_prefix_cons.mp hprefix
            rw [List.map_append] at htail
            obtain ⟨run, hrun, hclosed⟩ := exists_run_of_prefix hplain hname.isPlain.closer_notMem htail
            exact ⟨run, name, hname, hrun, (List.cons_prefix_cons.mpr ⟨hopener, hclosed⟩).isInfix⟩
          · exact (ih hrest).cons
      | token n =>
          cases htext : texts n.1 with
          | none =>
              rw [put_of_eq_none htext] at h
              rcases List.infix_cons_iff.mp h with hprefix | hrest
              · cases (List.cons_prefix_cons.mp hprefix).1
              · exact (ih hrest).cons
          | some value =>
              rw [put_of_eq_some htext] at h
              have hopener := mt point_mem_map_iff.mp (hplain n.1 value htext).opener_notMem
              exact (ih (Substring.infix_of_head_notMem hopener h)).cons

end Segment

namespace RenderedBlock

open Segment

variable {r : PromptRequest} {t name part : Text} {effects : Effects}

def removal (name : Text) : Option Text :=
  if Token.IsName name ∧ InputField.isName name = false then some [] else none

def inputTexts (r : PromptRequest) : Index Text :=
  InputField.all.map fun f => (f.name, f.value r)

/-- What stands for a token in the end: nothing, or the text of an input field. What is no name stays. -/
def resolution (r : PromptRequest) (name : Text) : Option Text :=
  (removal name).or ((inputTexts r).get? name)

def resolved (r : PromptRequest) (t : Text) : Text :=
  ((ofText t).flatMap (put (resolution r))).flatMap source

theorem mem_inputTexts {e : Text × Text} (h : e ∈ inputTexts r) : ∃ f : InputField, e = (f.name, f.value r) := by
  obtain ⟨f, -, rfl⟩ := List.mem_map.mp h
  exact ⟨f, rfl⟩

theorem get?_inputTexts (r : PromptRequest) (f : InputField) : (inputTexts r).get? f.name = some (f.value r) := by
  cases f <;> rfl

theorem isName_name (f : InputField) : Token.IsName f.name := by
  cases f <;> decide

theorem exists_of_isName (h : InputField.isName name = true) : ∃ f : InputField, f.name = name := by
  obtain ⟨f, -, hname⟩ := List.any_eq_true.mp h
  exact ⟨f, beq_iff_eq.mp hname⟩

theorem resolution_ne_none (r : PromptRequest) (h : Token.IsName name) : resolution r name ≠ none := by
  rw [resolution, ne_eq, Option.or_eq_none_iff, not_and]
  intro hkept
  cases hinput : InputField.isName name with
  | true =>
      obtain ⟨f, rfl⟩ := exists_of_isName hinput
      rw [get?_inputTexts]
      exact Option.some_ne_none _
  | false =>
      rw [removal, if_pos ⟨h, hinput⟩] at hkept
      cases hkept

theorem isPlain_of_resolution (hinput : ∀ f : InputField, Token.IsPlain (f.value r)) {value : Text}
    (h : resolution r name = some value) : Token.IsPlain value := by
  rcases Option.or_eq_some_iff.mp h with hremoval | ⟨-, hfield⟩
  · rw [removal, Option.ite_none_right_eq_some] at hremoval
    obtain ⟨-, hnil⟩ := hremoval
    cases hnil
    exact fun _ hp => absurd hp List.not_mem_nil
  · obtain ⟨f, hf⟩ := mem_inputTexts (Index.mem_of_get?_eq_some hfield)
    rw [(Prod.mk.inj hf).2]
    exact hinput f

/-! ### Taking tokens out -/

theorem stripFrom_skip (skip : Nat) (t : Text) : stripFrom skip t = stripFrom 0 (t.drop skip) := by
  induction t generalizing skip with
  | nil => cases skip <;> rfl
  | cons c cs ih =>
      cases skip with
      | zero => rfl
      | succ skip => exact ih skip

theorem stripFrom_append_of_opener_notMem (h : Token.opener ∉ part) (t : Text) :
    stripFrom 0 (part ++ t) = part ++ stripFrom 0 t := by
  induction part with
  | nil => rfl
  | cons c part ih =>
      rw [List.mem_cons, not_or] at h
      have hother : c ≠ .char '\x7b' := Ne.symm h.1
      rw [List.cons_append, stripFrom, if_neg hother, ih h.2, List.cons_append]

theorem stripFrom_of_removed {c : CodePoint} {cs : Text} {n : Token.Name} (h : nameAt? (c :: cs) = some n)
    (hgone : Token.IsName n.1 ∧ InputField.isName n.1 = false) :
    stripFrom 0 (c :: cs) = stripFrom (n.1.length + 1) cs := by
  obtain ⟨rfl, hclosed⟩ := List.cons_prefix_cons.mp (nameAt?_eq_some_iff.mp h)
  have hname : Token.name? cs = some n.1 := Token.name?_eq_some_iff.mpr ⟨hgone.1, hclosed⟩
  rw [stripFrom, if_pos rfl, hname]
  dsimp only
  rw [hgone.2, if_neg Bool.false_ne_true]

theorem stripFrom_of_kept {c : CodePoint} {cs : Text} (h : ∀ n, nameAt? (c :: cs) = some n → removal n.1 = none) :
    stripFrom 0 (c :: cs) = c :: stripFrom 0 cs := by
  rw [stripFrom]
  split
  · rename_i hopener
    split
    · rename_i name hname
      obtain ⟨hpoints, hclosed⟩ := Token.name?_eq_some_iff.mp hname
      have hkept := h ⟨name, hpoints.isPlain⟩ (nameAt?_eq_some_iff.mpr (List.cons_prefix_cons.mpr ⟨hopener.symm, hclosed⟩))
      rw [if_pos]
      by_contra hother
      rw [removal, if_pos ⟨hpoints, Bool.eq_false_of_not_eq_true hother⟩] at hkept
      cases hkept
    · rfl
  · rfl

theorem stripFrom_eq (skip : Nat) (t : Text) :
    stripFrom skip t = ((ofTextFrom skip t).flatMap (put removal)).flatMap source := by
  induction t generalizing skip with
  | nil => cases skip <;> rfl
  | cons c cs ih =>
      cases skip with
      | succ skip => exact ih skip
      | zero =>
          rw [ofTextFrom]
          cases hname : nameAt? (c :: cs) with
          | none =>
              rw [stripFrom_of_kept fun n hn => (by rw [hname] at hn; cases hn), ih]
              rfl
          | some n =>
              dsimp only
              rw [List.flatMap_cons, List.flatMap_append, ← ih]
              by_cases hgone : Token.IsName n.1 ∧ InputField.isName n.1 = false
              · rw [stripFrom_of_removed hname hgone, put_of_eq_some (if_pos hgone)]
                rfl
              · have hkept : removal n.1 = none := if_neg hgone
                rw [stripFrom_of_kept fun m hm => (by rw [hname] at hm; cases hm; exact hkept), put_of_eq_none hkept,
                  List.flatMap_singleton, source]
                have hrest := Token.ofName_append_drop (nameAt?_eq_some_iff.mp hname)
                rw [Token.ofName_eq_cons, List.cons_append, List.cons_eq_cons] at hrest
                rw [stripFrom_skip (n.1.length + 1), Token.ofName_eq_cons, List.cons_append,
                  ← stripFrom_append_of_opener_notMem n.2.opener_notMem_tail, hrest.1, hrest.2]

theorem strip_eq (t : Text) : strip t = ((ofText t).flatMap (put removal)).flatMap source :=
  stripFrom_eq 0 t

/-! ### What is left -/

/-- As long as no two braces make a token, filling in the input afterwards and one field after the other is resolving all
tokens at once. -/
theorem fillInputs_strip_eq_resolved (hinput : ∀ f : InputField, Token.IsPlain (f.value r))
    (h : ¬ Encloses (resolution r) (ofText t)) : fillInputs r (strip t) = resolved r t := by
  have hnames : ∀ e ∈ inputTexts r, Token.IsPlain e.1 := by
    intro e he
    obtain ⟨f, rfl⟩ := mem_inputTexts he
    exact f.isPlain_name
  have hnone : ¬ Arises (inputTexts r) ((ofText t).flatMap (put removal)) := by
    rintro ⟨before, e, after, hentries, hspells⟩
    obtain ⟨f, rfl⟩ := mem_inputTexts (hentries ▸ List.mem_append_right before List.mem_cons_self)
    have hend := spells_flatMap_put hspells (Index.get? ((f.name, f.value r) :: after))
    rw [← flatMap_put_append, ← hentries, flatMap_put_put] at hend
    exact h (encloses_of_spells (fun _ _ => isPlain_of_resolution hinput) (isName_name f) hend)
  have hfill : fillInputs r (strip t) = fillAll (inputTexts r) (strip t) := rfl
  rw [hfill, strip_eq, fillAll_flatMap_source hnames hnone, flatMap_put_put]
  rfl

theorem exists_token_infix_resolved_iff (hinput : ∀ f : InputField, Token.IsPlain (f.value r)) :
    (∃ name, Token.IsName name ∧ Token.ofName name <:+: resolved r t) ↔ Encloses (resolution r) (ofText t) := by
  constructor
  · rintro ⟨name, hname, hpart⟩
    rcases (ofName_infix_iff (n := ⟨name, hname.isPlain⟩)).mp hpart with hmem | hspells
    · exact absurd (token_mem_flatMap_put_iff.mp hmem).2 (resolution_ne_none r hname)
    · exact encloses_of_spells (fun _ _ => isPlain_of_resolution hinput) hname hspells
  · intro h
    obtain ⟨name, hname, hspells⟩ := spells_of_encloses h
    exact ⟨name, hname, (ofName_infix_iff (n := ⟨name, hname.isPlain⟩)).mpr (.inr hspells)⟩

theorem infix_of_infix_trimEdges (h : part <:+: trimEdges t) : part <:+: t :=
  h.trans (Blank.trimBoth_isInfix isEdge t)

theorem infix_append_separator_iff (hcomma : .char ',' ∉ part) (hblank : .char ' ' ∉ part) {front behind : Text} :
    part <:+: front ++ (", " : Text) ++ behind ↔ part <:+: front ∨ part <:+: behind := by
  have hnil : part = [] → part <:+: behind := fun h => h ▸ List.nil_infix
  have hseparator : front ++ (", " : Text) ++ behind = front ++ .char ',' :: ([] ++ .char ' ' :: behind) := by
    rw [List.append_assoc]
    rfl
  rw [hseparator, Substring.infix_append_cons_iff hcomma, Substring.infix_append_cons_iff hblank, List.infix_nil,
    or_iff_right_of_imp hnil]

theorem infix_intercalate_iff (hne : part ≠ []) (hcomma : .char ',' ∉ part) (hblank : .char ' ' ∉ part) :
    ∀ {texts : List Text}, part <:+: (", " : Text).intercalate texts ↔ ∃ e ∈ texts, part <:+: e
  | [] => iff_of_false (fun h => hne (List.infix_nil.mp h)) (by simp)
  | [e] => by simp
  | e :: d :: rest => by
      rw [List.intercalate_cons_cons, infix_append_separator_iff hcomma hblank,
        infix_intercalate_iff hne hcomma hblank, List.exists_mem_cons_iff _ e]

theorem token_infix_text_iff (hname : Token.IsName name) (rendered : RenderedBlock) :
    Token.ofName name <:+: rendered.text ↔
      Token.ofName name <:+: rendered.body ∨ ∃ e ∈ rendered.trailing, Token.ofName name <:+: e := by
  have hne : Token.ofName name ≠ [] := Token.ofName_ne_nil name
  have hcomma : .char ',' ∉ Token.ofName name := hname.notMem_ofName (by decide) (by decide)
  have hblank : .char ' ' ∉ Token.ofName name := hname.notMem_ofName (by decide) (by decide)
  rw [text]
  split
  · rename_i htrailing
    rw [List.isEmpty_iff.mp htrailing]
    exact ⟨.inl, fun h => h.resolve_right (by simp)⟩
  · split
    · rename_i hbody
      rw [List.isEmpty_iff.mp hbody, infix_intercalate_iff hne hcomma hblank, List.infix_nil, or_iff_right hne]
    · rw [infix_append_separator_iff hcomma hblank, infix_intercalate_iff hne hcomma hblank]

/-- A brace that stands neither in effects nor in the template outside its tokens is outside of tokens nowhere later. -/
theorem point_notMem_ofText_substituted {brace : CodePoint} (hbrace : brace ∈ [Token.opener, Token.closer]) {b : Block}
    (hplain : ∀ e ∈ effects, Token.IsPlain e.1) (htemplate : point brace ∉ ofText b.template)
    (heffects : ∀ e ∈ effects, brace ∉ e.2) : point brace ∉ ofText (substituted b effects) := by
  have hpoint := point_notMem_flatMap_put htemplate heffects
  rw [substituted_eq hplain (not_arises_of_brace hbrace htemplate heffects), withEffects,
    ofText_flatMap_source fun _ => not_spells_of_brace hbrace hpoint]
  exact hpoint

end RenderedBlock

open RenderedBlock Segment in
/-- Of every block and list of effects, and every request whose input fields hold no braces: unless two braces outside of
all tokens, in the template with its effects filled in, stand around segments that turn into a name, the body is this text
with all tokens resolved at once and trimmed, and holds no token. Where they do, and only there, resolving all tokens at
once leaves one. The text of a block holds the tokens of its body and those of its trailing effects. The two braces do not
stand there if one of them is outside of tokens nowhere. And if one of them stands neither in effects nor in the template
outside its tokens, no token is in the text of the block. -/
theorem no_token_is_left_unless_braces_enclose (b : Block) (r : PromptRequest) (effects : Effects)
    (hinput : ∀ f : InputField, Token.IsPlain (f.value r)) :
    (¬ Encloses (resolution r) (ofText (substituted b effects)) →
        (ofBlock b r effects).body = trimEdges (resolved r (substituted b effects)) ∧
          ∀ name, Token.IsName name → ¬ Token.ofName name <:+: (ofBlock b r effects).body) ∧
      ((∃ name, Token.IsName name ∧ Token.ofName name <:+: resolved r (substituted b effects)) ↔
        Encloses (resolution r) (ofText (substituted b effects))) ∧
      (∀ name, Token.IsName name → (Token.ofName name <:+: (ofBlock b r effects).text ↔
        Token.ofName name <:+: (ofBlock b r effects).body ∨
          ∃ e ∈ (ofBlock b r effects).trailing, Token.ofName name <:+: e)) ∧
      (∀ brace ∈ [Token.opener, Token.closer], point brace ∉ ofText (substituted b effects) →
        ¬ Encloses (resolution r) (ofText (substituted b effects))) ∧
      ∀ brace ∈ [Token.opener, Token.closer], point brace ∉ ofText b.template →
        (∀ e ∈ effects, Token.IsPlain e.1 ∧ brace ∉ e.2) →
          ¬ Encloses (resolution r) (ofText (substituted b effects)) ∧
            ∀ name, Token.IsName name → ¬ Token.ofName name <:+: (ofBlock b r effects).text := by
  have hbody : ¬ Encloses (resolution r) (ofText (substituted b effects)) →
      (ofBlock b r effects).body = trimEdges (resolved r (substituted b effects)) := by
    intro hnone
    rw [body_ofBlock_eq, fillInputs_strip_eq_resolved hinput hnone]
  have hleft : ¬ Encloses (resolution r) (ofText (substituted b effects)) →
      ∀ name, Token.IsName name → ¬ Token.ofName name <:+: (ofBlock b r effects).body := by
    intro hnone name hname hpart
    rw [hbody hnone] at hpart
    exact hnone ((exists_token_infix_resolved_iff hinput).mp ⟨name, hname, infix_of_infix_trimEdges hpart⟩)
  refine ⟨fun hnone => ⟨hbody hnone, hleft hnone⟩, exists_token_infix_resolved_iff hinput,
    fun name hname => token_infix_text_iff hname _, fun brace hbrace => not_encloses_of_brace hbrace, ?_⟩
  intro brace hbrace htemplate heffects
  have hpoint := point_notMem_ofText_substituted hbrace (fun e he => (heffects e he).1) htemplate
    fun e he => (heffects e he).2
  have hnone : ¬ Encloses (resolution r) (ofText (substituted b effects)) := not_encloses_of_brace hbrace hpoint
  refine ⟨hnone, fun name hname hpart => ?_⟩
  rcases (token_infix_text_iff hname _).mp hpart with hinside | ⟨trailing, htrailing, hinside⟩
  · exact hleft hnone name hname hinside
  · obtain ⟨e, he, rfl⟩ := List.mem_map.mp htrailing
    exact (heffects e (List.mem_of_mem_filter he)).2 (hinside.subset (Token.brace_mem_ofName hbrace name))

theorem InputField.isPlain_value_cat (f : InputField) : Token.IsPlain (f.value (.plain "cat" none)) := by
  cases f <;> decide

/-- A token that nothing is chosen for goes, and an effect without a token trails the block. -/
theorem moodless_cat_has_no_token :
    let b := Block.subjectIn "a \x7bmood\x7d \x7bsubject\x7d"
    let rendered := RenderedBlock.ofBlock b (.plain "cat" none) [("light", "golden hour")]
    rendered.body = "a  cat" ∧ ∀ name, Token.IsName name → ¬ Token.ofName name <:+: rendered.text := by
  intro b rendered
  obtain ⟨hclean, -, -, -, hplain⟩ :=
    no_token_is_left_unless_braces_enclose b (.plain "cat" none) [("light", "golden hour")] InputField.isPlain_value_cat
  obtain ⟨hnone, htext⟩ := hplain Token.opener List.mem_cons_self (by decide) (by decide)
  refine ⟨?_, htext⟩
  rw [(hclean hnone).1]
  decide +kernel

/-- Taking a token out from between two braces leaves another one in the body, and a trailing effect keeps its tokens. -/
theorem enclosed_token_leaves_another :
    let nested := RenderedBlock.ofBlock (.subjectIn "a \x7b\x7bx\x7dy\x7d b") (.plain "cat" none) []
    let trailed := RenderedBlock.ofBlock (.subjectIn "a") (.plain "cat" none) [("x", "\x7by\x7d")]
    Token.IsName "y" ∧ nested.body = "a " ++ Token.ofName "y" ++ " b" ∧ trailed.body = "a" ∧
      trailed.text = "a, " ++ Token.ofName "y" ∧
      ¬ ∀ (b : Block) (r : PromptRequest) (effects : Effects), (∀ f : InputField, Token.IsPlain (f.value r)) →
        ∀ name, Token.IsName name → ¬ Token.ofName name <:+: (RenderedBlock.ofBlock b r effects).body := by
  intro nested trailed
  have hbody : nested.body = "a " ++ Token.ofName "y" ++ " b" := by decide +kernel
  refine ⟨by decide, hbody, by decide +kernel, by decide +kernel, fun hall => ?_⟩
  have hleft : Token.ofName "y" <:+: nested.body := by
    rw [hbody]
    exact ⟨_, _, rfl⟩
  exact hall _ _ _ InputField.isPlain_value_cat "y" (by decide) hleft

end PromptStudio
