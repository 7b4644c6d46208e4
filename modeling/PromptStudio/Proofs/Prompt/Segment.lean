import Mathlib.Data.List.Infix
import Mathlib.Data.List.TakeWhile
import PromptStudio.Prompt.Rendering
import PromptStudio.Proofs.Text.Occurrence

/-!
# Segments of a text

Effects of filters, tokens that go and input fields: each is a text put in the place of a token, a name between braces. A
text is taken apart into segments, each a token or a code point outside of all tokens. The name of a token holds no brace,
so no two tokens overlap and the segments of a text are unique.

On segments the texts of several tokens are put in their places at once. In the text itself they are put there one after
the other, where what was put in before is searched again. Both give the same as long as code points of the segments
never spell a token whose turn is still to come.
-/

namespace PromptStudio

/-! ### Tokens -/

namespace Token

def opener : CodePoint := .char '\x7b'

def closer : CodePoint := .char '\x7d'

def isBrace (p : CodePoint) : Bool :=
  p == opener || p == closer

/-- A text without braces. -/
def IsPlain (t : Text) : Prop :=
  ∀ p ∈ t, isBrace p = false

instance {t : Text} : Decidable (IsPlain t) :=
  inferInstanceAs (Decidable (∀ p ∈ t, isBrace p = false))

variable {name other rest : Text}

theorem IsPlain.opener_notMem (h : IsPlain name) : opener ∉ name :=
  fun hmem => absurd (h _ hmem) (by decide)

theorem IsPlain.closer_notMem (h : IsPlain name) : closer ∉ name :=
  fun hmem => absurd (h _ hmem) (by decide)

theorem IsPlain.opener_notMem_tail (h : IsPlain name) : opener ∉ name ++ [closer] := by
  rw [List.mem_append, List.mem_singleton, not_or]
  exact ⟨h.opener_notMem, by decide⟩

theorem ofName_eq_cons (name : Text) : ofName name = opener :: (name ++ [closer]) := rfl

theorem ofName_ne_nil (name : Text) : ofName name ≠ [] :=
  List.cons_ne_nil _ _

theorem drop_closed (name rest : Text) : (name ++ [closer] ++ rest).drop (name.length + 1) = rest :=
  List.drop_left' List.length_append

/-- What is skipped behind the brace that opens a token is the rest of the token. -/
theorem ofName_append_drop {c : CodePoint} {cs : Text} (h : ofName name <+: c :: cs) :
    ofName name ++ cs.drop (name.length + 1) = c :: cs := by
  obtain ⟨rest, hrest⟩ := h
  rw [ofName_eq_cons, List.cons_append, List.cons_eq_cons] at hrest
  obtain ⟨rfl, rfl⟩ := hrest
  rw [drop_closed]
  rfl

theorem brace_mem_ofName {brace : CodePoint} (hbrace : brace ∈ [opener, closer]) (name : Text) : brace ∈ ofName name := by
  rw [ofName_eq_cons]
  rcases List.mem_cons.mp hbrace with rfl | hcloser
  · exact List.mem_cons_self
  · exact List.mem_cons_of_mem _ (List.mem_append_right _ hcloser)

theorem eq_of_prefix_of_closed (hname : closer ∉ name) (hother : closer ∉ other)
    (h : name ++ [closer] <+: other ++ closer :: rest) : name = other := by
  obtain ⟨beyond, rfl, hbeyond⟩ := Substring.exists_append_of_prefix_append hother h
  cases beyond with
  | nil => exact List.append_nil other
  | cons c beyond =>
      obtain ⟨rfl, -⟩ := List.cons_prefix_cons.mp hbeyond
      exact absurd (List.mem_append_right other List.mem_cons_self) hname

theorem not_prefix_ofName (hname : IsPlain name) (hother : IsPlain other) (h : name ≠ other) (rest : Text) :
    ¬ ofName name <+: ofName other ++ rest := by
  intro hprefix
  rw [ofName_eq_cons, ofName_eq_cons, List.cons_append, List.append_assoc] at hprefix
  exact h (eq_of_prefix_of_closed hname.closer_notMem hother.closer_notMem (List.cons_prefix_cons.mp hprefix).2)

theorem replace_other (hname : IsPlain name) (hother : IsPlain other) (h : name ≠ other) (value rest : Text) :
    Substring.replace Substring.exact (ofName name) value (ofName other ++ rest)
      = ofName other ++ Substring.replace Substring.exact (ofName name) value rest := by
  have hstart : ¬ Substring.startsWith Substring.exact (ofName name) (ofName other ++ rest) = true :=
    mt Substring.startsWith_exact_iff.mp (not_prefix_ofName hname hother h rest)
  have htail : ∀ c ∈ other ++ [closer], Substring.exact opener c = false := by
    intro c hc
    rw [Substring.exact, beq_eq_false_iff_ne]
    rintro rfl
    exact hother.opener_notMem_tail hc
  rw [ofName_eq_cons other, List.cons_append] at hstart ⊢
  rw [Substring.replace_cons_of_not_startsWith hstart]
  exact congrArg _ (Substring.replace_append_of_head htail rest)

theorem infix_of_other (hname : IsPlain name) (hother : IsPlain other) (h : name ≠ other)
    (hpart : ofName name <:+: ofName other ++ rest) : ofName name <:+: rest := by
  rcases List.infix_cons_iff.mp hpart with hprefix | hrest
  · exact absurd hprefix (not_prefix_ofName hname hother h rest)
  · exact Substring.infix_of_head_notMem hother.opener_notMem_tail hrest

abbrev Name := { name : Text // IsPlain name }

theorem isPlain_takeWhile (t : Text) : IsPlain (t.takeWhile (!isBrace ·)) :=
  fun p hp => by simpa using List.mem_takeWhile_imp hp

/-- The name that stands before the next brace, if that closes. -/
def inner? (t : Text) : Option Name :=
  if (t.dropWhile (!isBrace ·)).head? = some closer then some ⟨t.takeWhile (!isBrace ·), isPlain_takeWhile t⟩ else none

/-- The longest front of one kind is closed just if the closing brace, which is not of that kind, stands behind it. -/
theorem takeWhile_closed_iff {p : CodePoint → Bool} (hcloser : p closer = false) {t : Text} :
    t.takeWhile p = name ∧ (t.dropWhile p).head? = some closer ↔ (∀ c ∈ name, p c = true) ∧ name ++ [closer] <+: t := by
  constructor
  · rintro ⟨rfl, hhead⟩
    obtain ⟨rest, hrest⟩ := List.head?_eq_some_iff.mp hhead
    refine ⟨fun c hc => List.mem_takeWhile_imp hc, rest, ?_⟩
    rw [List.append_assoc, List.singleton_append, ← hrest, List.takeWhile_append_dropWhile]
  · rintro ⟨hname, rest, rfl⟩
    rw [List.append_assoc, List.takeWhile_append_of_pos hname, List.dropWhile_append_of_pos hname, List.singleton_append,
      List.takeWhile_cons_of_neg (by simp [hcloser]), List.dropWhile_cons_of_neg (by simp [hcloser]), List.append_nil]
    exact ⟨rfl, rfl⟩

theorem inner?_eq_some_iff {t : Text} {name : Name} : inner? t = some name ↔ name.1 ++ [closer] <+: t := by
  have hplain : ∀ c ∈ name.1, (!isBrace c) = true := fun c hc => by rw [name.2 c hc]; rfl
  have hclosed : t.takeWhile (!isBrace ·) = name.1 ∧ (t.dropWhile (!isBrace ·)).head? = some closer ↔ _ :=
    takeWhile_closed_iff (by decide)
  rw [and_iff_right hplain] at hclosed
  rw [← hclosed, inner?]
  split
  · rename_i hhead
    rw [Option.some_inj, Subtype.ext_iff, and_iff_left hhead]
  · rename_i hhead
    exact iff_of_false nofun fun h => hhead h.2

end Token

theorem Index.get?_append {α : Type} (front back : Index α) (key : Text) :
    Index.get? (front ++ back) key = (Index.get? front key).or (Index.get? back key) := by
  rw [get?, List.find?_append, Option.map_or]
  rfl

theorem Index.get?_singleton {α : Type} (key other : Text) (a : α) :
    Index.get? [(key, a)] other = if key = other then some a else none := by
  rw [get?, List.find?_singleton]
  split <;> simp_all

theorem Index.mem_of_get?_eq_some {α : Type} {index : Index α} {key : Text} {a : α} (h : index.get? key = some a) :
    (key, a) ∈ index := by
  obtain ⟨⟨found, _⟩, hfind, rfl⟩ := Option.map_eq_some_iff.mp h
  obtain rfl : found = key := by simpa using List.find?_some hfind
  exact List.mem_of_find?_eq_some hfind

/-! ### Segments -/

/-- A segment of a text: a code point outside of all tokens, or a token. -/
inductive Segment where
  | point (c : CodePoint)
  | token (name : Token.Name)
  deriving DecidableEq

namespace Segment

variable {name value t : Text} {ss : List Segment} {texts more : Text → Option Text} {entries : List (Text × Text)}

def source : Segment → Text
  | point c => [c]
  | token name => Token.ofName name.1

def nameAt? : Text → Option Token.Name
  | [] => none
  | c :: cs => if c = Token.opener then Token.inner? cs else none

/-- The segments of a text behind `skip` code points that belong to the token before. -/
def ofTextFrom : Nat → Text → List Segment
  | _, [] => []
  | skip + 1, _ :: cs => ofTextFrom skip cs
  | 0, c :: cs =>
    match nameAt? (c :: cs) with
    | some name => token name :: ofTextFrom (name.1.length + 1) cs
    | none => point c :: ofTextFrom 0 cs

def ofText (t : Text) : List Segment :=
  ofTextFrom 0 t

/-- The text that stands for the name of a token in its place; a token whose name has none stays. -/
def put (texts : Text → Option Text) : Segment → List Segment
  | point c => [point c]
  | token name =>
    match texts name.1 with
    | some value => value.map point
    | none => [token name]

/-- Code points of the segments spell the token of a name. -/
def Spells (name : Text) (ss : List Segment) : Prop :=
  (Token.ofName name).map point <:+: ss

instance : Decidable (Spells name ss) :=
  inferInstanceAs (Decidable (_ <:+: _))

theorem point_mem_map_iff {c : CodePoint} : point c ∈ t.map point ↔ c ∈ t :=
  List.mem_map_of_injective fun _ _ => point.inj

theorem put_of_eq_some {n : Token.Name} (h : texts n.1 = some value) : put texts (token n) = value.map point := by
  rw [put, h]

theorem put_of_eq_none {n : Token.Name} (h : texts n.1 = none) : put texts (token n) = [token n] := by
  rw [put, h]

theorem nameAt?_eq_some_iff {n : Token.Name} : nameAt? t = some n ↔ Token.ofName n.1 <+: t := by
  cases t with
  | nil => exact iff_of_false nofun fun h => Token.ofName_ne_nil n.1 (List.prefix_nil.mp h)
  | cons c cs =>
      rw [nameAt?, Token.ofName_eq_cons, List.cons_prefix_cons]
      split
      · rename_i hopener
        rw [Token.inner?_eq_some_iff, and_iff_right hopener.symm]
      · rename_i hother
        exact iff_of_false nofun fun h => hother h.1.symm

theorem flatMap_source_map_point (t : Text) : (t.map point).flatMap source = t := by
  induction t with
  | nil => rfl
  | cons c cs ih => rw [List.map_cons, List.flatMap_cons, ih, source, List.singleton_append]

theorem flatMap_source_ofTextFrom (skip : Nat) (t : Text) : (ofTextFrom skip t).flatMap source = t.drop skip := by
  induction t generalizing skip with
  | nil => cases skip <;> rfl
  | cons c cs ih =>
      cases skip with
      | succ skip => exact ih skip
      | zero =>
          rw [ofTextFrom]
          split
          · rename_i n hname
            rw [List.flatMap_cons, ih, source, Token.ofName_append_drop (nameAt?_eq_some_iff.mp hname)]
            rfl
          · rw [List.flatMap_cons, ih]
            rfl

theorem flatMap_source_ofText (t : Text) : (ofText t).flatMap source = t :=
  flatMap_source_ofTextFrom 0 t

theorem not_spells_ofTextFrom (hname : Token.IsPlain name) (skip : Nat) (t : Text) :
    ¬ Spells name (ofTextFrom skip t) := by
  induction t generalizing skip with
  | nil => cases skip <;> exact fun h => Token.ofName_ne_nil name (List.map_eq_nil_iff.mp (List.infix_nil.mp h))
  | cons c cs ih =>
      cases skip with
      | succ skip => exact ih skip
      | zero =>
          rw [ofTextFrom]
          split
          · rw [Spells, List.infix_cons_iff, not_or]
            refine ⟨fun h => ?_, ih _⟩
            cases (List.cons_prefix_cons.mp h).1
          · rename_i hnone
            rw [Spells, List.infix_cons_iff, not_or]
            refine ⟨?_, ih 0⟩
            -- Code points that spell the token here write it at the start of the text, where no token was found.
            rintro ⟨behind, h⟩
            have hsource := congrArg (List.flatMap source) h
            rw [List.flatMap_append, flatMap_source_map_point, List.flatMap_cons, flatMap_source_ofTextFrom,
              List.drop_zero] at hsource
            have hfound : nameAt? (c :: cs) = some ⟨name, hname⟩ := nameAt?_eq_some_iff.mpr ⟨_, hsource⟩
            rw [hnone] at hfound
            cases hfound

theorem not_spells_ofText (hname : Token.IsPlain name) (t : Text) : ¬ Spells name (ofText t) :=
  not_spells_ofTextFrom hname 0 t

theorem not_spells_of_cons {s : Segment} (h : ¬ Spells name (s :: ss)) : ¬ Spells name ss :=
  fun hss => h (List.infix_cons hss)

/-! ### Putting texts in -/

theorem flatMap_put_map_point (texts : Text → Option Text) (t : Text) :
    (t.map point).flatMap (put texts) = t.map point := by
  induction t with
  | nil => rfl
  | cons c cs ih => rw [List.map_cons, List.flatMap_cons, ih, put, List.singleton_append]

theorem flatMap_put_congr (h : ∀ n, token n ∈ ss → texts n.1 = more n.1) :
    ss.flatMap (put texts) = ss.flatMap (put more) := by
  refine List.flatMap_congr fun s hs => ?_
  cases s with
  | point c => rfl
  | token n => rw [put, put, h n hs]

theorem flatMap_put_eq_self (h : ∀ n, token n ∈ ss → texts n.1 = none) : ss.flatMap (put texts) = ss := by
  have hsame : ∀ s ∈ ss, put texts s = [s] := by
    intro s hs
    cases s with
    | point c => rfl
    | token n => exact put_of_eq_none (h n hs)
  rw [List.flatMap_congr hsame, List.flatMap_singleton']

/-- What was put in is code points, which nothing is put in the place of later. -/
theorem flatMap_put_put (texts more : Text → Option Text) (ss : List Segment) :
    (ss.flatMap (put texts)).flatMap (put more) = ss.flatMap (put fun name => (texts name).or (more name)) := by
  rw [List.flatMap_assoc]
  refine List.flatMap_congr fun s _ => ?_
  cases s with
  | point c => rfl
  | token n =>
      cases htext : texts n.1 with
      | some value =>
          rw [put_of_eq_some htext, flatMap_put_map_point, put_of_eq_some]
          rw [htext, Option.some_or]
      | none =>
          rw [put_of_eq_none htext, List.flatMap_singleton, put, put, htext, Option.none_or]

theorem token_mem_flatMap_put_iff {n : Token.Name} :
    token n ∈ ss.flatMap (put texts) ↔ token n ∈ ss ∧ texts n.1 = none := by
  rw [List.mem_flatMap]
  constructor
  · rintro ⟨s, hs, hmem⟩
    cases s with
    | point c => cases List.mem_singleton.mp hmem
    | token m =>
        cases htext : texts m.1 with
        | some value =>
            rw [put_of_eq_some htext] at hmem
            obtain ⟨_, -, hpoint⟩ := List.mem_map.mp hmem
            cases hpoint
        | none =>
            rw [put_of_eq_none htext, List.mem_singleton] at hmem
            obtain rfl := token.inj hmem
            exact ⟨hs, htext⟩
  · rintro ⟨hs, hnone⟩
    exact ⟨token n, hs, put_of_eq_none hnone ▸ List.mem_singleton_self _⟩

theorem point_mem_flatMap_put {c : CodePoint} (h : point c ∈ ss.flatMap (put texts)) :
    point c ∈ ss ∨ ∃ name value, texts name = some value ∧ c ∈ value := by
  obtain ⟨s, hs, hmem⟩ := List.mem_flatMap.mp h
  cases s with
  | point d => exact .inl (List.mem_singleton.mp hmem ▸ hs)
  | token n =>
      cases htext : texts n.1 with
      | some value =>
          rw [put_of_eq_some htext, point_mem_map_iff] at hmem
          exact .inr ⟨n.1, value, htext, hmem⟩
      | none =>
          rw [put_of_eq_none htext] at hmem
          cases List.mem_singleton.mp hmem

theorem point_notMem_flatMap_put {c : CodePoint} (h : point c ∉ ss) (hentries : ∀ e ∈ entries, c ∉ e.2) :
    point c ∉ ss.flatMap (put (Index.get? entries)) := by
  intro hmem
  rcases point_mem_flatMap_put hmem with hss | ⟨name, value, hvalue, hmem⟩
  · exact h hss
  · exact hentries _ (Index.mem_of_get?_eq_some hvalue) hmem

theorem not_spells_of_brace {brace : CodePoint} (hbrace : brace ∈ [Token.opener, Token.closer])
    (h : point brace ∉ ss) : ¬ Spells name ss := by
  intro hspells
  exact h (hspells.subset (List.mem_map_of_mem (Token.brace_mem_ofName hbrace name)))

theorem spells_flatMap_put (h : Spells name ss) (texts : Text → Option Text) :
    Spells name (ss.flatMap (put texts)) := by
  obtain ⟨before, after, rfl⟩ := h
  rw [List.flatMap_append, List.flatMap_append, flatMap_put_map_point]
  exact ⟨_, _, rfl⟩

/-! ### Replacing in the text -/

theorem map_point_prefix {part : Text} (hpart : Token.opener ∉ part) (h : part <+: ss.flatMap source) :
    part.map point <+: ss := by
  induction part generalizing ss with
  | nil => exact List.nil_prefix
  | cons c part ih =>
      rw [List.mem_cons, not_or] at hpart
      cases ss with
      | nil => cases List.prefix_nil.mp h
      | cons s ss =>
          cases s with
          | point d =>
              obtain ⟨rfl, hrest⟩ := List.cons_prefix_cons.mp h
              exact List.cons_prefix_cons.mpr ⟨rfl, ih hpart.2 hrest⟩
          | token n => exact absurd (List.cons_prefix_cons.mp h).1.symm hpart.1

theorem spells_of_prefix_source (hname : Token.IsPlain name) {c : CodePoint}
    (h : Token.ofName name <+: c :: ss.flatMap source) : Spells name (point c :: ss) := by
  obtain ⟨rfl, htail⟩ := List.cons_prefix_cons.mp h
  exact (List.cons_prefix_cons.mpr ⟨rfl, map_point_prefix hname.opener_notMem_tail htail⟩).isInfix

theorem ofTextFrom_skip (skip : Nat) (t : Text) : ofTextFrom skip t = ofTextFrom 0 (t.drop skip) := by
  induction t generalizing skip with
  | nil => cases skip <;> rfl
  | cons c cs ih =>
      cases skip with
      | zero => rfl
      | succ skip => exact ih skip

theorem ofText_flatMap_source (h : ∀ n : Token.Name, ¬ Spells n.1 ss) : ofText (ss.flatMap source) = ss := by
  induction ss with
  | nil => rfl
  | cons s ss ih =>
      have hrest := ih fun n => not_spells_of_cons (h n)
      rw [ofText] at hrest ⊢
      rw [List.flatMap_cons]
      cases s with
      | point c =>
          have hnone : nameAt? (c :: ss.flatMap source) = none :=
            Option.eq_none_iff_forall_ne_some.mpr fun n hname =>
              h n (spells_of_prefix_source n.2 (nameAt?_eq_some_iff.mp hname))
          rw [source, List.singleton_append, ofTextFrom, hnone]
          dsimp only
          rw [hrest]
      | token n =>
          have hname : nameAt? (Token.ofName n.1 ++ ss.flatMap source) = some n :=
            nameAt?_eq_some_iff.mpr (List.prefix_append _ _)
          rw [Token.ofName_eq_cons, List.cons_append] at hname
          rw [source, Token.ofName_eq_cons, List.cons_append, ofTextFrom, hname]
          dsimp only
          rw [ofTextFrom_skip, Token.drop_closed, hrest]

/-- Replacing a token puts the text in the place of its segments, as long as no code points spell it. -/
theorem fill_flatMap_source (hname : Token.IsPlain name) (h : ¬ Spells name ss) (value : Text) :
    RenderedBlock.fill (Token.ofName name) value (ss.flatMap source)
      = (ss.flatMap (put (Index.get? [(name, value)]))).flatMap source := by
  rw [RenderedBlock.fill]
  induction ss with
  | nil => rfl
  | cons s ss ih =>
      have hrest := ih (not_spells_of_cons h)
      rw [List.flatMap_cons, List.flatMap_cons, List.flatMap_append]
      cases s with
      | point c =>
          rw [source, put, List.singleton_append, Substring.replace_cons_of_not_startsWith, hrest]
          · rfl
          · exact fun hstart => h (spells_of_prefix_source hname (Substring.startsWith_exact_iff.mp hstart))
      | token n =>
          by_cases hsame : name = n.1
          · have htext : Index.get? [(name, value)] n.1 = some value := by rw [Index.get?_singleton, if_pos hsame]
            rw [source, put_of_eq_some htext, flatMap_source_map_point, ← hrest, ← hsame]
            exact Substring.replace_append_self (Token.ofName_ne_nil _) _
              (Substring.startsWith_exact_iff.mpr (List.prefix_append _ _))
          · have hnone : Index.get? [(name, value)] n.1 = none := by rw [Index.get?_singleton, if_neg hsame]
            rw [source, put_of_eq_none hnone, List.flatMap_singleton, source, ← hrest]
            exact Token.replace_other hname n.2 hsame value _

/-- A token in what segments write is one of them, or it is spelled by code points. -/
theorem ofName_infix_iff {n : Token.Name} :
    Token.ofName n.1 <:+: ss.flatMap source ↔ token n ∈ ss ∨ Spells n.1 ss := by
  constructor
  · intro h
    induction ss with
    | nil => exact absurd (List.infix_nil.mp h) (Token.ofName_ne_nil _)
    | cons s ss ih =>
        rw [List.flatMap_cons] at h
        cases s with
        | point c =>
            rcases List.infix_cons_iff.mp h with hprefix | hrest
            · exact .inr (spells_of_prefix_source n.2 hprefix)
            · exact (ih hrest).imp (List.mem_cons_of_mem _) List.infix_cons
        | token m =>
            by_cases hsame : n = m
            · exact .inl (hsame ▸ List.mem_cons_self)
            · exact (ih (Token.infix_of_other n.2 m.2 (mt Subtype.ext hsame) h)).imp (List.mem_cons_of_mem _)
                List.infix_cons
  · rintro (hmem | ⟨before, after, rfl⟩)
    · rw [List.flatMap_def]
      exact List.infix_of_mem_flatten (List.mem_map_of_mem hmem)
    · rw [List.flatMap_append, List.flatMap_append, flatMap_source_map_point]
      exact ⟨_, _, rfl⟩

theorem token_mem_ofText_iff {n : Token.Name} : token n ∈ ofText t ↔ Token.ofName n.1 <:+: t := by
  have hsource : Token.ofName n.1 <:+: (ofText t).flatMap source ↔ _ := ofName_infix_iff
  rw [flatMap_source_ofText, or_iff_left (not_spells_ofText n.2 t)] at hsource
  exact hsource.symm

theorem ofName_infix_fill {n m : Token.Name} (hother : n ≠ m) (value : Text) (h : Token.ofName n.1 <:+: t) :
    Token.ofName n.1 <:+: RenderedBlock.fill (Token.ofName m.1) value t := by
  rw [← flatMap_source_ofText t, fill_flatMap_source m.2 (not_spells_ofText m.2 t), ofName_infix_iff]
  refine .inl (token_mem_flatMap_put_iff.mpr ⟨token_mem_ofText_iff.mpr h, ?_⟩)
  rw [Index.get?_singleton, if_neg fun hsame => hother (Subtype.ext hsame.symm)]

/-! ### One after the other -/

/-- Each text replaces its token, one after the other. -/
def fillAll (entries : List (Text × Text)) (t : Text) : Text :=
  entries.foldl (fun text e => RenderedBlock.fill (Token.ofName e.1) e.2 text) t

/-- Once the texts before it are in their places, code points spell a token whose turn is still to come. -/
def Arises (entries : List (Text × Text)) (ss : List Segment) : Prop :=
  ∃ before e after, entries = before ++ e :: after ∧ Spells e.1 (ss.flatMap (put (Index.get? before)))

theorem flatMap_put_append (front back : List (Text × Text)) (ss : List Segment) :
    ss.flatMap (put (Index.get? (front ++ back)))
      = (ss.flatMap (put (Index.get? front))).flatMap (put (Index.get? back)) := by
  rw [flatMap_put_put]
  exact flatMap_put_congr fun n _ => Index.get?_append front back n.1

theorem not_spells_of_not_arises (h : ¬ Arises entries ss) : ∀ e ∈ entries, ¬ Spells e.1 ss := by
  intro e he hspells
  obtain ⟨before, after, rfl⟩ := List.append_of_mem he
  exact h ⟨before, e, after, rfl, spells_flatMap_put hspells _⟩

theorem not_arises_of_cons {e : Text × Text} (h : ¬ Arises (e :: entries) ss) :
    ¬ Arises entries (ss.flatMap (put (Index.get? [e]))) := by
  rintro ⟨before, later, after, rfl, hspells⟩
  rw [← flatMap_put_append] at hspells
  exact h ⟨e :: before, later, after, rfl, hspells⟩

theorem not_arises_of_brace {brace : CodePoint} (hbrace : brace ∈ [Token.opener, Token.closer]) (h : point brace ∉ ss)
    (hentries : ∀ e ∈ entries, brace ∉ e.2) : ¬ Arises entries ss := by
  rintro ⟨before, e, after, rfl, hspells⟩
  exact not_spells_of_brace hbrace
    (point_notMem_flatMap_put h fun d hd => hentries d (List.mem_append_left _ hd)) hspells

/-- As long as no token arises, one after the other is at once. -/
theorem fillAll_flatMap_source (hplain : ∀ e ∈ entries, Token.IsPlain e.1) (h : ¬ Arises entries ss) :
    fillAll entries (ss.flatMap source) = (ss.flatMap (put (Index.get? entries))).flatMap source := by
  induction entries generalizing ss with
  | nil => rw [flatMap_put_eq_self fun _ _ => rfl]; rfl
  | cons e entries ih =>
      rw [List.forall_mem_cons] at hplain
      rw [← List.singleton_append, flatMap_put_append, ← ih hplain.2 (not_arises_of_cons h),
        ← fill_flatMap_source hplain.1 (not_spells_of_not_arises h e List.mem_cons_self)]
      rfl

end Segment

end PromptStudio
