import Mathlib.Data.List.Forall2
import PromptStudio.Text.Substring

/-!
# Where a pattern occurs

A pattern occurs in a text if the text has a part that fits it position by position. What the search finds is exactly
that, whatever relation says which positions fit. A part of a text holds no more occurrences than the whole; and taking
out what was found leaves a part of the text that is shorter. Replacing goes through a text that is put together from
parts one part after the other, where the parts either are the pattern or cannot start it.
-/

namespace PromptStudio.Substring

variable {α : Type}

/-- Some part of the text fits the pattern, position by position. -/
def Occurs (same : α → α → Bool) (pattern text : List α) : Prop :=
  ∃ before found after, text = before ++ (found ++ after) ∧ List.Forall₂ (fun p c => same p c = true) pattern found

variable {same : α → α → Bool} {pattern text whole : List α}

theorem startsWith_iff : ∀ {pattern text : List α}, startsWith same pattern text = true ↔
    ∃ found after, text = found ++ after ∧ List.Forall₂ (fun p c => same p c = true) pattern found
  | [], text => by
      rw [startsWith]
      exact ⟨fun _ => ⟨[], text, rfl, .nil⟩, fun _ => rfl⟩
  | p :: pattern, [] => by
      constructor
      · intro h
        cases h
      · rintro ⟨found, after, htext, hfits⟩
        cases hfits
        cases htext
  | p :: pattern, c :: cs => by
      rw [startsWith, Bool.and_eq_true, startsWith_iff]
      constructor
      · rintro ⟨hhead, found, after, rfl, hfits⟩
        exact ⟨c :: found, after, rfl, .cons hhead hfits⟩
      · rintro ⟨found, after, htext, hfits⟩
        cases hfits with
        | cons hhead hfits =>
            obtain ⟨rfl, rfl⟩ := List.cons_eq_cons.mp htext
            exact ⟨hhead, _, after, rfl, hfits⟩

theorem occurs_iff : ∀ {text : List α}, occurs same pattern text = true ↔ Occurs same pattern text
  | [] => by
      rw [occurs, List.isEmpty_iff]
      constructor
      · rintro rfl
        exact ⟨[], [], [], rfl, .nil⟩
      · rintro ⟨before, found, after, htext, hfits⟩
        obtain ⟨rfl, hrest⟩ := List.append_eq_nil_iff.mp htext.symm
        obtain ⟨rfl, rfl⟩ := List.append_eq_nil_iff.mp hrest
        exact List.forall₂_nil_right_iff.mp hfits
  | c :: cs => by
      rw [occurs, Bool.or_eq_true, startsWith_iff, occurs_iff]
      constructor
      · rintro (⟨found, after, htext, hfits⟩ | ⟨before, found, after, rfl, hfits⟩)
        · exact ⟨[], found, after, htext, hfits⟩
        · exact ⟨c :: before, found, after, rfl, hfits⟩
      · rintro ⟨before, found, after, htext, hfits⟩
        cases before with
        | nil => exact .inl ⟨found, after, htext, hfits⟩
        | cons b before =>
            obtain ⟨rfl, rfl⟩ := List.cons_eq_cons.mp htext
            exact .inr ⟨before, found, after, rfl, hfits⟩

theorem Occurs.of_part (h : Occurs same pattern text) (hpart : text <:+: whole) : Occurs same pattern whole := by
  obtain ⟨before, found, after, rfl, hfits⟩ := h
  obtain ⟨front, back, rfl⟩ := hpart
  exact ⟨front ++ before, found, after ++ back, by simp only [List.append_assoc], hfits⟩

theorem not_occurs_nil (hpattern : pattern ≠ []) : ¬ Occurs same pattern [] := by
  rw [← occurs_iff, occurs, List.isEmpty_iff]
  exact hpattern

/-! ### Taking occurrences out -/

theorem replaceFrom_sublist : ∀ (skip : Nat) (text : List α), (replaceFrom same pattern [] skip text).Sublist text
  | 0, [] | _ + 1, [] => .slnil
  | skip + 1, c :: cs => by
      rw [replaceFrom]
      exact (replaceFrom_sublist skip cs).cons c
  | 0, c :: cs => by
      rw [replaceFrom]
      split
      · exact (replaceFrom_sublist _ cs).cons c
      · exact (replaceFrom_sublist 0 cs).cons_cons c

theorem replace_sublist (text : List α) : (replace same pattern [] text).Sublist text :=
  replaceFrom_sublist 0 text

/-- Taking out a pattern that occurs makes the text shorter: the first place that fits goes, at least. -/
theorem length_replace_lt (hpattern : pattern ≠ []) : ∀ {text : List α}, occurs same pattern text = true →
    (replace same pattern [] text).length < text.length
  | [], h => by
      rw [occurs, List.isEmpty_iff] at h
      exact absurd h hpattern
  | c :: cs, h => by
      rw [replace, replaceFrom]
      split
      · exact Nat.lt_succ_of_le (replaceFrom_sublist _ cs).length_le
      · rename_i hstart
        rw [occurs, Bool.or_eq_true, or_iff_right hstart] at h
        exact Nat.succ_lt_succ (length_replace_lt hpattern h)

/-! ### Replacing part by part -/

variable {value : List α} {c : α} {cs : List α}

theorem replaceFrom_skip (skipped rest : List α) :
    replaceFrom same pattern value skipped.length (skipped ++ rest) = replace same pattern value rest := by
  induction skipped with
  | nil => rfl
  | cons _ skipped ih => exact ih

theorem replace_cons_of_not_startsWith (h : ¬ startsWith same pattern (c :: cs) = true) :
    replace same pattern value (c :: cs) = c :: replace same pattern value cs := by
  rw [replace, replaceFrom, if_neg h, ← replace]

theorem replace_of_not_occurs : ∀ {text : List α}, ¬ occurs same pattern text = true →
    replace same pattern value text = text
  | [], _ => rfl
  | c :: cs, h => by
      rw [occurs, Bool.or_eq_true, not_or] at h
      rw [replace_cons_of_not_startsWith h.1, replace_of_not_occurs h.2]

theorem replace_append_self (hpattern : pattern ≠ []) (rest : List α)
    (hstart : startsWith same pattern (pattern ++ rest) = true) :
    replace same pattern value (pattern ++ rest) = value ++ replace same pattern value rest := by
  obtain ⟨c, cs, rfl⟩ := List.exists_cons_of_ne_nil hpattern
  rw [List.cons_append] at hstart ⊢
  rw [replace, replaceFrom, if_pos hstart, List.length_cons, Nat.add_sub_cancel, replaceFrom_skip]

theorem replace_append_of_head {first : α} {part : List α} (h : ∀ c ∈ part, same first c = false) (rest : List α) :
    replace same (first :: pattern) value (part ++ rest) = part ++ replace same (first :: pattern) value rest := by
  induction part with
  | nil => rfl
  | cons c part ih =>
      rw [List.forall_mem_cons] at h
      have hother : ¬ startsWith same (first :: pattern) (c :: (part ++ rest)) = true := by
        rw [startsWith, h.1, Bool.false_and]
        exact Bool.false_ne_true
      rw [List.cons_append, replace_cons_of_not_startsWith hother, ih h.2, List.cons_append]

theorem startsWith_exact_iff : ∀ {pattern text : List CodePoint},
    startsWith exact pattern text = true ↔ pattern <+: text
  | [], text => by
      rw [startsWith]
      exact iff_of_true rfl List.nil_prefix
  | _ :: _, [] => by
      rw [startsWith, List.prefix_nil]
      exact iff_of_false Bool.false_ne_true (List.cons_ne_nil _ _)
  | p :: pattern, c :: cs => by
      rw [startsWith, Bool.and_eq_true, startsWith_exact_iff, exact, beq_iff_eq, List.cons_prefix_cons]

theorem occurs_exact_iff {pattern : List CodePoint} : ∀ {text : List CodePoint},
    occurs exact pattern text = true ↔ pattern <:+: text
  | [] => by rw [occurs, List.isEmpty_iff, List.infix_nil]
  | c :: cs => by rw [occurs, Bool.or_eq_true, startsWith_exact_iff, occurs_exact_iff, List.infix_cons_iff]

/-! ### Literal parts of texts put together -/

variable {part front behind : List α} {first border : α}

theorem infix_of_head_notMem (hfront : first ∉ front) (h : first :: part <:+: front ++ behind) :
    first :: part <:+: behind := by
  induction front with
  | nil => exact h
  | cons c front ih =>
      rw [List.mem_cons, not_or] at hfront
      rcases List.infix_cons_iff.mp h with hprefix | hrest
      · exact absurd (List.cons_prefix_cons.mp hprefix).1 hfront.1
      · exact ih hfront.2 hrest

/-- A part that ends in a border goes beyond a text without it. -/
theorem exists_append_of_prefix_append (hborder : border ∉ front) (h : part ++ [border] <+: front ++ behind) :
    ∃ rest, part = front ++ rest ∧ rest ++ [border] <+: behind := by
  induction front generalizing part with
  | nil => exact ⟨part, rfl, h⟩
  | cons c front ih =>
      rw [List.mem_cons, not_or] at hborder
      cases part with
      | nil => exact absurd (List.cons_prefix_cons.mp h).1 hborder.1
      | cons d part =>
          obtain ⟨rfl, htail⟩ := List.cons_prefix_cons.mp h
          obtain ⟨rest, rfl, hrest⟩ := ih hborder.2 htail
          exact ⟨rest, rfl, hrest⟩

theorem infix_append_cons_iff (hborder : border ∉ part) :
    part <:+: front ++ border :: behind ↔ part <:+: front ∨ part <:+: behind := by
  constructor
  · intro h
    rcases List.infix_append_iff.mp h with hfront | hbehind | ⟨before, after, rfl, hfront, hbehind⟩
    · exact .inl hfront
    · rcases List.infix_cons_iff.mp hbehind with hprefix | hrest
      · rcases List.prefix_cons_iff.mp hprefix with rfl | ⟨rest, rfl, -⟩
        · exact .inl List.nil_infix
        · exact absurd List.mem_cons_self hborder
      · exact .inr hrest
    · rcases List.prefix_cons_iff.mp hbehind with rfl | ⟨rest, rfl, -⟩
      · rw [List.append_nil]
        exact .inl hfront.isInfix
      · exact absurd (List.mem_append_right _ List.mem_cons_self) hborder
  · rintro (hfront | hbehind)
    · exact hfront.trans (List.prefix_append _ _).isInfix
    · exact hbehind.trans ((List.suffix_cons _ _).trans (List.suffix_append _ _)).isInfix

end PromptStudio.Substring
