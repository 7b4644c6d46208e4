import PromptStudio.Proofs.Prompt.Segment

/-!
# Filling in the input

The input fields of a block are filled in one after the other, into a text that holds what was filled in before. This is
the same as filling them in at once as long as no token arises on the way: as long as the texts filled in so far do not
spell, alone or with what stands around them, the token of a field whose turn is still to come.

A text is taken apart into pieces, each a code point or the token of a field. Pieces are segments that know no other
tokens, and filling in one field is putting its text in the place of its pieces. What can go wrong is then only that code
points of the pieces spell a token after that.
-/

namespace PromptStudio

theorem InputField.isPlain_name (f : InputField) : Token.IsPlain f.name := by
  cases f <;> decide

theorem InputField.name_ne {f g : InputField} (h : f ≠ g) : f.name ≠ g.name := by
  cases f <;> cases g <;> first | contradiction | decide

/-! ### Pieces -/

/-- A piece of a text: a code point that stands for itself, or the token of an input field. -/
inductive Piece where
  | point (c : CodePoint)
  | field (f : InputField)
  deriving DecidableEq

namespace Piece

variable {f g : InputField} {t rest : Text} {ps : List Piece}

def source : Piece → Text
  | point c => [c]
  | field f => Token.ofName f.name

def filled (r : PromptRequest) : Piece → Text
  | point c => [c]
  | field f => f.value r

/-- The text of a field in the place of its token. -/
def put (f : InputField) (value : Text) : Piece → List Piece
  | point c => [point c]
  | field g => if g = f then value.map point else [field g]

theorem put_self (f : InputField) (value : Text) : put f value (field f) = value.map point :=
  if_pos rfl

theorem put_other (h : g ≠ f) (value : Text) : put f value (field g) = [field g] :=
  if_neg h

/-- The field whose token stands at the start of a text. -/
def fieldAt? (t : Text) : Option InputField :=
  InputField.all.find? fun f => Substring.startsWith Substring.exact (Token.ofName f.name) t

/-- The pieces of a text behind `skip` code points that belong to the token before. -/
def ofTextFrom : Nat → Text → List Piece
  | _, [] => []
  | skip + 1, _ :: cs => ofTextFrom skip cs
  | 0, c :: cs =>
    match fieldAt? (c :: cs) with
    | some f => field f :: ofTextFrom (f.name.length + 1) cs
    | none => point c :: ofTextFrom 0 cs

def ofText (t : Text) : List Piece :=
  ofTextFrom 0 t

/-- Code points of the pieces spell the token of a field. -/
def Spells (f : InputField) (ps : List Piece) : Prop :=
  (Token.ofName f.name).map point <:+: ps

instance : Decidable (Spells f ps) :=
  inferInstanceAs (Decidable (_ <:+: _))

def segment : Piece → Segment
  | point c => .point c
  | field f => .token ⟨f.name, f.isPlain_name⟩

theorem segment_injective : Function.Injective segment := by
  intro a b h
  cases a <;> cases b
  · exact congrArg point (Segment.point.inj h)
  · cases h
  · cases h
  · by_contra hne
    exact InputField.name_ne (fun hsame => hne (congrArg field hsame)) (congrArg Subtype.val (Segment.token.inj h))

theorem flatMap_source_map_segment (ps : List Piece) : (ps.map segment).flatMap Segment.source = ps.flatMap source := by
  rw [List.flatMap_map]
  refine List.flatMap_congr fun piece _ => ?_
  cases piece <;> rfl

theorem spells_map_segment_iff : Segment.Spells f.name (ps.map segment) ↔ Spells f ps := by
  have hpoints : (Token.ofName f.name).map Segment.point = ((Token.ofName f.name).map point).map segment := by
    rw [List.map_map]
    rfl
  rw [Segment.Spells, hpoints]
  constructor
  · intro h
    obtain ⟨part, hpart, hsame⟩ := List.infix_map_iff.mp h
    rwa [← List.map_injective_iff.mpr segment_injective hsame] at hpart
  · exact fun h => h.map segment

theorem prefix_of_fieldAt? (h : fieldAt? t = some f) : Token.ofName f.name <+: t := by
  have hstart := List.find?_some h
  exact Substring.startsWith_exact_iff.mp hstart

theorem not_prefix_of_fieldAt? (h : fieldAt? t = none) (f : InputField) : ¬ Token.ofName f.name <+: t := by
  rw [fieldAt?, List.find?_eq_none] at h
  exact fun hprefix => h f (by cases f <;> decide) (Substring.startsWith_exact_iff.mpr hprefix)

theorem flatMap_source_map_point (t : Text) : (t.map point).flatMap source = t := by
  induction t with
  | nil => rfl
  | cons c cs ih => rw [List.map_cons, List.flatMap_cons, ih, source, List.singleton_append]

theorem flatMap_source_ofTextFrom (skip : Nat) (t : Text) : (ofTextFrom skip t).flatMap source = t.drop skip := by
  induction t generalizing skip with
  | nil => cases skip <;> rfl
  | cons c cs ih =>
      cases skip with
      | succ skip => exact ih skip
      | zero =>
          rw [ofTextFrom]
          split
          · rename_i f hfield
            rw [List.flatMap_cons, ih, source, Token.ofName_append_drop (prefix_of_fieldAt? hfield)]
            rfl
          · rw [List.flatMap_cons, ih]
            rfl

theorem flatMap_source_ofText (t : Text) : (ofText t).flatMap source = t :=
  flatMap_source_ofTextFrom 0 t

theorem not_spells_ofTextFrom (f : InputField) (skip : Nat) (t : Text) : ¬ Spells f (ofTextFrom skip t) := by
  induction t generalizing skip with
  | nil => cases skip <;> exact fun h => Token.ofName_ne_nil f.name (List.map_eq_nil_iff.mp (List.infix_nil.mp h))
  | cons c cs ih =>
      cases skip with
      | succ skip => exact ih skip
      | zero =>
          rw [ofTextFrom]
          split
          · rw [Spells, List.infix_cons_iff, not_or]
            refine ⟨fun h => ?_, ih _⟩
            cases (List.cons_prefix_cons.mp h).1
          · rename_i hnone
            rw [Spells, List.infix_cons_iff, not_or]
            refine ⟨?_, ih 0⟩
            -- Code points that spell the token here write it at the start of the text, where no token was found.
            rintro ⟨behind, h⟩
            refine not_prefix_of_fieldAt? hnone f ⟨behind.flatMap source, ?_⟩
            have hsource := congrArg (List.flatMap source) h
            rwa [List.flatMap_append, flatMap_source_map_point, List.flatMap_cons, flatMap_source_ofTextFrom,
              List.drop_zero] at hsource

theorem not_spells_ofText (f : InputField) (t : Text) : ¬ Spells f (ofText t) :=
  not_spells_ofTextFrom f 0 t

/-! ### Filling in one field -/

theorem flatMap_put_map_segment (f : InputField) (value : Text) (ps : List Piece) :
    (ps.map segment).flatMap (Segment.put (Index.get? [(f.name, value)])) = (ps.flatMap (put f value)).map segment := by
  rw [List.flatMap_map, List.map_flatMap]
  refine List.flatMap_congr fun piece _ => ?_
  cases piece with
  | point c => rfl
  | field g =>
      by_cases hsame : g = f
      · have htext : Index.get? [(f.name, value)] g.name = some value := by
          rw [Index.get?_singleton, if_pos (congrArg InputField.name hsame.symm)]
        rw [segment, Segment.put_of_eq_some htext, hsame, put_self, List.map_map]
        rfl
      · have hnone : Index.get? [(f.name, value)] g.name = none := by
          rw [Index.get?_singleton, if_neg (InputField.name_ne (Ne.symm hsame))]
        rw [segment, Segment.put_of_eq_none hnone, put_other hsame]
        rfl

/-- Filling in a field puts its text in the place of its pieces, as long as no code points spell its token. -/
theorem fill_flatMap_source (h : ¬ Spells f ps) (value : Text) :
    RenderedBlock.fill (Token.ofName f.name) value (ps.flatMap source) = (ps.flatMap (put f value)).flatMap source := by
  rw [← flatMap_source_map_segment, Segment.fill_flatMap_source f.isPlain_name (mt spells_map_segment_iff.mp h),
    flatMap_put_map_segment, flatMap_source_map_segment]

/-- A token in what pieces write is one of them, or it is spelled by code points. -/
theorem field_mem_or_spells (h : Token.ofName f.name <:+: ps.flatMap source) : field f ∈ ps ∨ Spells f ps := by
  rw [← flatMap_source_map_segment] at h
  refine (Segment.ofName_infix_iff (n := ⟨f.name, f.isPlain_name⟩).mp h).imp (fun hmem => ?_) spells_map_segment_iff.mp
  exact (List.mem_map_of_injective segment_injective).mp hmem

theorem infix_flatMap {α : Type} {piece : Piece} (h : piece ∈ ps) (write : Piece → List α) :
    write piece <:+: ps.flatMap write := by
  rw [List.flatMap_def]
  exact List.infix_of_mem_flatten (List.mem_map_of_mem h)

theorem field_mem_ofText_iff : field f ∈ ofText t ↔ Token.ofName f.name <:+: t := by
  constructor
  · intro hmem
    have hinfix := infix_flatMap hmem source
    rwa [flatMap_source_ofText] at hinfix
  · intro hinfix
    rw [← flatMap_source_ofText t] at hinfix
    exact (field_mem_or_spells hinfix).resolve_right (not_spells_ofText f t)

theorem fill_eq (f : InputField) (value t : Text) : RenderedBlock.fill (Token.ofName f.name) value t
    = ((ofText t).flatMap (put f value)).flatMap source := by
  rw [← fill_flatMap_source (not_spells_ofText f t), flatMap_source_ofText]

/-- The text of a field stands where its token stood. -/
theorem value_infix_fill (value : Text) (h : Token.ofName f.name <:+: t) :
    value <:+: RenderedBlock.fill (Token.ofName f.name) value t := by
  have hinfix := infix_flatMap (field_mem_ofText_iff.mpr h) fun piece => (put f value piece).flatMap source
  rwa [← List.flatMap_assoc, ← fill_eq, put_self, flatMap_source_map_point] at hinfix

theorem token_infix_fill (hother : g ≠ f) (value : Text) (h : Token.ofName g.name <:+: t) :
    Token.ofName g.name <:+: RenderedBlock.fill (Token.ofName f.name) value t :=
  Segment.ofName_infix_fill (n := ⟨g.name, g.isPlain_name⟩) (m := ⟨f.name, f.isPlain_name⟩)
    (fun hsame => InputField.name_ne hother (congrArg Subtype.val hsame)) value h

/-! ### What no code points spell -/

theorem flatMap_put_map_point (f : InputField) (value t : Text) : (t.map point).flatMap (put f value) = t.map point := by
  induction t with
  | nil => rfl
  | cons c cs ih => rw [List.map_cons, List.flatMap_cons, ih, put, List.singleton_append]

theorem point_mem_flatMap_put {c : CodePoint} {value : Text} (h : point c ∈ ps.flatMap (put f value)) :
    point c ∈ ps ∨ c ∈ value := by
  obtain ⟨piece, hpiece, hmem⟩ := List.mem_flatMap.mp h
  cases piece with
  | point d => exact .inl (List.mem_singleton.mp hmem ▸ hpiece)
  | field g =>
      rw [put] at hmem
      split at hmem
      · obtain ⟨d, hd, hsame⟩ := List.mem_map.mp hmem
        exact .inr (point.inj hsame ▸ hd)
      · cases List.mem_singleton.mp hmem

theorem not_spells_of_brace {brace : CodePoint} (hbrace : brace ∈ [Token.opener, Token.closer]) (h : point brace ∉ ps) :
    ¬ Spells f ps := by
  rw [← spells_map_segment_iff]
  refine Segment.not_spells_of_brace hbrace ?_
  have hsegment : Segment.point brace = segment (point brace) := rfl
  rwa [hsegment, List.mem_map_of_injective segment_injective]

end Piece

/-! ### What trimming keeps -/

namespace Blank

variable {α : Type} {p : α → Bool} {first last : α}

theorem dropWhile_append_cons (h : p first = false) (before rest : List α) :
    (before ++ first :: rest).dropWhile p = before.dropWhile p ++ first :: rest := by
  induction before with
  | nil => rw [List.nil_append, List.dropWhile_cons_of_neg (by simp [h])]; rfl
  | cons c before ih =>
      rw [List.cons_append, List.dropWhile_cons, List.dropWhile_cons]
      split
      · exact ih
      · rfl

theorem infix_trimBoth {middle cs : List α} (hfirst : p first = false) (hlast : p last = false)
    (h : first :: (middle ++ [last]) <:+: cs) : first :: (middle ++ [last]) <:+: trimBoth p cs := by
  obtain ⟨before, behind, rfl⟩ := h
  rw [List.append_assoc, List.cons_append, trimBoth, dropWhile_append_cons hfirst]
  generalize before.dropWhile p = front
  refine ⟨front, (behind.reverse.dropWhile p).reverse, ?_⟩
  rw [dropTail]
  simp only [List.reverse_append, List.reverse_cons, List.append_assoc, List.nil_append, List.cons_append]
  rw [dropWhile_append_cons hlast]
  simp

end Blank

/-! ### Filling in at once -/

namespace RenderedBlock

variable {r : PromptRequest} {t : Text}

/-- A template with effects filled in, and without the tokens that name no input field. -/
def outline (b : Block) (effects : Effects) : Text :=
  strip (effects.foldl fillEffect ⟨b.template, []⟩).text

/-- Every token of an input field takes the text of the field, and nothing else changes. -/
def fillAtOnce (r : PromptRequest) (t : Text) : Text :=
  (Piece.ofText t).flatMap (Piece.filled r)

/-- Once the subject is filled in, or the items behind it, code points spell the token of a field whose turn is still to
come. -/
def TokensArise (r : PromptRequest) (t : Text) : Prop :=
  let withSubject := (Piece.ofText t).flatMap (Piece.put .subject r.subject)
  Piece.Spells .items withSubject ∨ Piece.Spells .environment (withSubject.flatMap (Piece.put .items r.items))

instance : Decidable (TokensArise r t) :=
  inferInstanceAs (Decidable (_ ∨ _))

theorem not_tokensArise_of_brace {brace : CodePoint} (hbrace : brace ∈ [Token.opener, Token.closer])
    (htext : Piece.point brace ∉ Piece.ofText t) (hsubject : brace ∉ r.subject) (hitems : brace ∉ r.items) :
    ¬ TokensArise r t := by
  have hfilled : Piece.point brace ∉ (Piece.ofText t).flatMap (Piece.put .subject r.subject) :=
    fun hmem => (Piece.point_mem_flatMap_put hmem).elim htext hsubject
  rintro (hspells | hspells)
  · exact Piece.not_spells_of_brace hbrace hfilled hspells
  · exact Piece.not_spells_of_brace hbrace
      (fun hmem => (Piece.point_mem_flatMap_put hmem).elim hfilled hitems) hspells

theorem fillInputs_eq (r : PromptRequest) (t : Text) : fillInputs r t
    = fill (Token.ofName InputField.environment.name) r.environment
        (fill (Token.ofName InputField.items.name) r.items
          (fill (Token.ofName InputField.subject.name) r.subject t)) := rfl

/-- Filling in one field after the other is filling in all at once, as long as no token arises. -/
theorem fillInputs_eq_fillAtOnce (h : ¬ TokensArise r t) : fillInputs r t = fillAtOnce r t := by
  obtain ⟨hitems, henvironment⟩ := not_or.mp h
  rw [fillInputs_eq, Piece.fill_eq .subject, Piece.fill_flatMap_source hitems, Piece.fill_flatMap_source henvironment,
    fillAtOnce]
  -- From here on each piece goes its own way: a text that was filled in is code points, which no later turn changes.
  generalize Piece.ofText t = ps
  induction ps with
  | nil => rfl
  | cons piece ps ih =>
      simp only [List.flatMap_cons, List.flatMap_append, ih]
      refine congrArg (· ++ _) ?_
      cases piece with
      | point c => rfl
      | field f =>
          cases f with
          | subject =>
              rw [Piece.put_self, Piece.flatMap_put_map_point, Piece.flatMap_put_map_point]
              exact Piece.flatMap_source_map_point _
          | items =>
              rw [Piece.put_other (by decide), List.flatMap_singleton, Piece.put_self, Piece.flatMap_put_map_point]
              exact Piece.flatMap_source_map_point _
          | environment =>
              rw [Piece.put_other (by decide), List.flatMap_singleton, Piece.put_other (by decide),
                List.flatMap_singleton, Piece.put_self]
              exact Piece.flatMap_source_map_point _

theorem value_infix_fillAtOnce (f : InputField) (h : Token.ofName f.name <:+: t) : f.value r <:+: fillAtOnce r t :=
  Piece.infix_flatMap (Piece.field_mem_ofText_iff.mpr h) (Piece.filled r)

/-- The environment is filled in last, so its text stands where its token stood, whatever arose before. -/
theorem environment_infix_fillInputs (h : Token.ofName InputField.environment.name <:+: t) :
    r.environment <:+: fillInputs r t := by
  rw [fillInputs_eq]
  exact Piece.value_infix_fill _ (Piece.token_infix_fill (by decide) _ (Piece.token_infix_fill (by decide) _ h))

theorem token_infix_trimEdges {name : Text} (h : Token.ofName name <:+: t) : Token.ofName name <:+: trimEdges t :=
  Blank.infix_trimBoth (by decide) (by decide) h

theorem body_ofBlock (b : Block) (r : PromptRequest) (effects : Effects) :
    (ofBlock b r effects).body = trimEdges (fillInputs r (outline b effects)) := rfl

end RenderedBlock

open RenderedBlock in
/-- Of every block, request and list of effects, where the outline is the template with the effects filled in and
without the tokens that name no input field: its pieces are the outline, and every token of an input field in it is one
of them. As long as no token arises, the body is the outline with all fields filled in at once and trimmed, and every
token in the text of a field that is filled in stands in the body. No token arises if one of the braces stands neither
in subject and items nor in the outline outside its tokens. And tokens in the text of the environment always stay. -/
theorem user_text_is_kept_unless_tokens_arise (b : Block) (r : PromptRequest) (effects : Effects) :
    ((Piece.ofText (outline b effects)).flatMap Piece.source = outline b effects ∧
        ∀ f, ¬ Piece.Spells f (Piece.ofText (outline b effects))) ∧
      (¬ TokensArise r (outline b effects) →
        (ofBlock b r effects).body = trimEdges (fillAtOnce r (outline b effects)) ∧
          ∀ (f : InputField) (name : Text), Token.ofName f.name <:+: outline b effects →
            Token.ofName name <:+: f.value r → Token.ofName name <:+: (ofBlock b r effects).body) ∧
      (∀ brace ∈ [Token.opener, Token.closer], Piece.point brace ∉ Piece.ofText (outline b effects) →
        brace ∉ r.subject → brace ∉ r.items → ¬ TokensArise r (outline b effects)) ∧
      ∀ name, Token.ofName InputField.environment.name <:+: outline b effects →
        Token.ofName name <:+: r.environment → Token.ofName name <:+: (ofBlock b r effects).body := by
  refine ⟨⟨Piece.flatMap_source_ofText _, fun f => Piece.not_spells_ofText f _⟩, fun hnone => ?_,
    fun brace hbrace => not_tokensArise_of_brace hbrace, fun name hfield htoken => ?_⟩
  · rw [body_ofBlock, fillInputs_eq_fillAtOnce hnone]
    refine ⟨rfl, fun f name hfield htoken => ?_⟩
    exact token_infix_trimEdges (htoken.trans (value_infix_fillAtOnce f hfield))
  · rw [body_ofBlock]
    exact token_infix_trimEdges (htoken.trans (environment_infix_fillInputs hfield))

def Block.subjectIn (template : Text) : Block :=
  { key := "who", label := "Who", template, type := .subject }

def PromptRequest.showing (subject items : Text) : PromptRequest :=
  { profileId := "plain", blueprintId := "bare", filters := [], seed := none, subject, context := [], items,
    environment := [], restrictions := [], targetPlatform := none }

/-- A block that shows a subject with items. -/
def Block.pair : Block :=
  .subjectIn "\x7bsubject\x7d with \x7bitems\x7d"

def PromptRequest.goldenCat : PromptRequest :=
  .showing "a \x7bgold\x7d cat" "\x7btwo\x7d apples"

/-- Braces in subject and items stay, where they make no token of a field. -/
theorem golden_cat_keeps_braces :
    ¬ RenderedBlock.TokensArise .goldenCat (RenderedBlock.outline .pair []) ∧
      (RenderedBlock.ofBlock .pair .goldenCat []).body = "a \x7bgold\x7d cat with \x7btwo\x7d apples" ∧
      Token.ofName "gold" <:+: (RenderedBlock.ofBlock .pair .goldenCat []).body := by
  have hnone : ¬ RenderedBlock.TokensArise .goldenCat (RenderedBlock.outline .pair []) := by decide +kernel
  obtain ⟨-, hkept, -⟩ := user_text_is_kept_unless_tokens_arise .pair .goldenCat []
  obtain ⟨hbody, htokens⟩ := hkept hnone
  refine ⟨hnone, ?_, htokens .subject "gold" (by decide +kernel) (by decide +kernel)⟩
  rw [hbody]
  decide +kernel

/-- A block that shows nothing but a subject. -/
def Block.portrait : Block :=
  .subjectIn "\x7bsubject\x7d"

def PromptRequest.namingItems : PromptRequest :=
  .showing "\x7bitems\x7d" "cat"

/-- A subject that is the token of the items is lost: the text of the items is put in its place. -/
theorem items_token_of_subject_is_replaced :
    PromptRequest.namingItems.subject = Token.ofName InputField.items.name ∧
      (RenderedBlock.ofBlock .portrait .namingItems []).body = "cat" ∧
      RenderedBlock.trimEdges (RenderedBlock.fillAtOnce .namingItems (RenderedBlock.outline .portrait []))
        = PromptRequest.namingItems.subject ∧
      ¬ ∀ (b : Block) (r : PromptRequest) (effects : Effects), (RenderedBlock.ofBlock b r effects).body
        = RenderedBlock.trimEdges (RenderedBlock.fillAtOnce r (RenderedBlock.outline b effects)) := by
  have hbody : (RenderedBlock.ofBlock .portrait .namingItems []).body = "cat" := by decide +kernel
  have honce : RenderedBlock.trimEdges
      (RenderedBlock.fillAtOnce .namingItems (RenderedBlock.outline .portrait []))
      = PromptRequest.namingItems.subject := by decide +kernel
  refine ⟨by decide, hbody, honce, fun hall => ?_⟩
  have hsame := hall .portrait .namingItems []
  rw [hbody, honce] at hsame
  exact absurd hsame (by decide)

end PromptStudio
