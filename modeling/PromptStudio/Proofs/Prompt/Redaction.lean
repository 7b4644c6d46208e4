import PromptStudio.Prompt.Redaction
import PromptStudio.Proofs.Text.Occurrence

/-!
# What redaction leaves

A pass that finds a pattern makes the text shorter, and one that finds none changes nothing. So passes come to one that
finds none, after as many as the text is long at most, and what is left holds no forbidden pattern, the ones that only
came about by taking others out included. The main statement says this of the loop without any bound on its passes, and
that a second redaction finds nothing.
-/

namespace PromptStudio.Redaction

variable {patterns : List Text} {pattern text start : Text} {p q : Progress} {count : Nat}

/-- No pattern but the empty one occurs in a text, case ignored. -/
def IsClean (patterns : List Text) (text : Text) : Prop :=
  ∀ pattern ∈ patterns, pattern ≠ [] → ¬ Substring.Occurs CaseFold.same pattern text

theorem IsClean.of_part {whole : Text} (h : IsClean patterns whole) (hpart : text <:+: whole) : IsClean patterns text :=
  fun pattern hmem hne hoccurs => h pattern hmem hne (hoccurs.of_part hpart)

theorem mem_filter_isEmpty : pattern ∈ patterns.filter (!·.isEmpty) ↔ pattern ∈ patterns ∧ pattern ≠ [] := by
  rw [List.mem_filter, Bool.not_eq_true', List.isEmpty_eq_false_iff]

/-! ### Steps and passes -/

theorem step_of_occurs (h : Substring.Occurs CaseFold.same pattern p.text) :
    step p pattern = { text := remove pattern p.text
                       found := if p.found.contains pattern then p.found else p.found ++ [pattern] } :=
  if_pos (Substring.occurs_iff.mpr h)

theorem step_of_not_occurs (h : ¬ Substring.Occurs CaseFold.same pattern p.text) : step p pattern = p :=
  if_neg fun hoccurs => h (Substring.occurs_iff.mp hoccurs)

theorem step_sublist (p : Progress) (pattern : Text) : (step p pattern).text.Sublist p.text := by
  rw [step]
  split
  · exact Substring.replace_sublist p.text
  · exact List.Sublist.refl _

theorem length_step_lt (hne : pattern ≠ []) (h : Substring.Occurs CaseFold.same pattern p.text) :
    (step p pattern).text.length < p.text.length := by
  rw [step_of_occurs h]
  exact Substring.length_replace_lt hne (Substring.occurs_iff.mpr h)

theorem pass_sublist (patterns : List Text) (p : Progress) : (pass patterns p).text.Sublist p.text := by
  induction patterns generalizing p with
  | nil => exact List.Sublist.refl _
  | cons pattern rest ih => exact (ih (step p pattern)).trans (step_sublist p pattern)

/-- Whether a pass finds something: one of its patterns occurs when its turn comes. -/
def finds : List Text → Progress → Bool
  | [], _ => false
  | pattern :: rest, p => occurs pattern p.text || finds rest (step p pattern)

/-- A pass finds nothing exactly if none of its patterns occurs before it: until one is found, nothing changes. -/
theorem finds_eq_false_iff :
    finds patterns p = false ↔ ∀ pattern ∈ patterns, ¬ Substring.Occurs CaseFold.same pattern p.text := by
  induction patterns with
  | nil => simp [finds]
  | cons pattern rest ih =>
      rw [finds, Bool.or_eq_false_iff, List.forall_mem_cons, ← ih, ← Bool.not_eq_true, occurs, Substring.occurs_iff]
      refine and_congr_right fun habsent => ?_
      rw [step_of_not_occurs habsent]

theorem pass_of_finds_eq_false (h : finds patterns p = false) : pass patterns p = p := by
  rw [finds_eq_false_iff] at h
  induction patterns with
  | nil => rfl
  | cons pattern rest ih =>
      rw [List.forall_mem_cons] at h
      rw [pass, List.foldl_cons, step_of_not_occurs h.1]
      exact ih h.2

theorem length_pass_lt (hne : ∀ pattern ∈ patterns, pattern ≠ []) (h : finds patterns p = true) :
    (pass patterns p).text.length < p.text.length := by
  induction patterns with
  | nil => cases h
  | cons pattern rest ih =>
      rw [List.forall_mem_cons] at hne
      rw [pass, List.foldl_cons, ← pass]
      by_cases hoccurs : Substring.Occurs CaseFold.same pattern p.text
      · exact Nat.lt_of_le_of_lt (pass_sublist rest _).length_le (length_step_lt hne.1 hoccurs)
      · rw [finds, occurs, Bool.eq_false_iff.mpr (mt Substring.occurs_iff.mp hoccurs), Bool.false_or,
          step_of_not_occurs hoccurs] at h
        rw [step_of_not_occurs hoccurs]
        exact ih hne.2 h

/-! ### The loop -/

/-- The loop from one state to the state that it ends in, with the number of its passes: a pass that finds something is
followed by another one. -/
inductive Loop (patterns : List Text) : Progress → Nat → Progress → Prop where
  | last {p : Progress} (h : finds patterns p = false) : Loop patterns p 1 (pass patterns p)
  | again {p q : Progress} {count : Nat} (h : finds patterns p = true) (rest : Loop patterns (pass patterns p) count q) :
      Loop patterns p (count + 1) q

theorem Loop.of_finds_eq_false (h : finds patterns p = false) : Loop patterns p 1 p := by
  have hlast := Loop.last h
  rwa [pass_of_finds_eq_false h] at hlast

theorem exists_loop_passes (hne : ∀ pattern ∈ patterns, pattern ≠ []) {fuel : Nat} (hfuel : p.text.length ≤ fuel) :
    ∃ count ≤ fuel + 1, Loop patterns p count (passes patterns fuel p) := by
  induction fuel generalizing p with
  | zero =>
      have hnone : finds patterns p = false := by
        rw [finds_eq_false_iff, List.eq_nil_of_length_eq_zero (Nat.le_zero.mp hfuel)]
        exact fun pattern hmem => Substring.not_occurs_nil (hne pattern hmem)
      refine ⟨1, Nat.le_refl 1, ?_⟩
      exact .of_finds_eq_false hnone
  | succ fuel ih =>
      rw [passes]
      cases hfinds : finds patterns p with
      | true =>
          -- A pass that finds something takes at least one code point, so the fuel still covers the text.
          have hshorter := length_pass_lt hne hfinds
          obtain ⟨count, hcount, hrest⟩ := ih (Nat.le_of_lt_succ (Nat.lt_of_lt_of_le hshorter hfuel))
          rw [if_pos hshorter]
          exact ⟨count + 1, Nat.succ_le_succ hcount, .again hfinds hrest⟩
      | false =>
          rw [pass_of_finds_eq_false hfinds, if_neg (Nat.lt_irrefl _)]
          exact ⟨1, Nat.succ_le_succ (Nat.zero_le _), .of_finds_eq_false hfinds⟩

theorem exists_loop_run (patterns : List Text) (text : Text) :
    ∃ count ≤ text.length + 1, Loop (patterns.filter (!·.isEmpty)) ⟨text, []⟩ count (run patterns text) :=
  exists_loop_passes (fun _ hmem => (mem_filter_isEmpty.mp hmem).2) (Nat.le_refl text.length)

/-- What the loop ends in holds none of its patterns. -/
theorem Loop.not_occurs (h : Loop patterns p count q) :
    ∀ pattern ∈ patterns, ¬ Substring.Occurs CaseFold.same pattern q.text := by
  induction h with
  | last hnone =>
      rw [pass_of_finds_eq_false hnone]
      exact finds_eq_false_iff.mp hnone
  | again _ _ ih => exact ih

/-! ### What was found on the way -/

/-- A state on the way from a text: a part of the text is left, the patterns found are some of those looked for, none of
them twice, and nothing was found as long as nothing is gone. -/
structure Progress.From (patterns : List Text) (start : Text) (p : Progress) : Prop where
  sublist : p.text.Sublist start
  nodup : p.found.Nodup
  subset : p.found ⊆ patterns
  found_eq_nil_iff : p.found = [] ↔ p.text = start

namespace Progress.From

theorem initial (patterns : List Text) (text : Text) : Progress.From patterns text ⟨text, []⟩ :=
  ⟨List.Sublist.refl _, List.nodup_nil, List.nil_subset _, iff_of_true rfl rfl⟩

theorem step (h : p.From patterns start) (hmem : pattern ∈ patterns) (hne : pattern ≠ []) :
    (step p pattern).From patterns start := by
  by_cases hoccurs : Substring.Occurs CaseFold.same pattern p.text
  · have hshorter : (remove pattern p.text).length < start.length :=
      Nat.lt_of_lt_of_le (Substring.length_replace_lt hne (Substring.occurs_iff.mpr hoccurs)) h.sublist.length_le
    have hgone : remove pattern p.text ≠ start := fun hsame => Nat.lt_irrefl _ (hsame ▸ hshorter)
    have hleft : (remove pattern p.text).Sublist start := (Substring.replace_sublist p.text).trans h.sublist
    rw [step_of_occurs hoccurs]
    by_cases hfound : pattern ∈ p.found
    · rw [if_pos (List.contains_iff_mem.mpr hfound)]
      exact ⟨hleft, h.nodup, h.subset, iff_of_false (List.ne_nil_of_mem hfound) hgone⟩
    · rw [if_neg (mt List.contains_iff_mem.mp hfound)]
      refine ⟨hleft, ?_, ?_, iff_of_false (List.append_ne_nil_of_right_ne_nil _ (List.cons_ne_nil _ _)) hgone⟩
      · rw [(List.perm_append_singleton pattern p.found).nodup_iff, List.nodup_cons]
        exact ⟨hfound, h.nodup⟩
      · exact List.append_subset.mpr ⟨h.subset, List.cons_subset.mpr ⟨hmem, List.nil_subset _⟩⟩
  · rw [step_of_not_occurs hoccurs]
    exact h

theorem pass {turns : List Text} (h : p.From patterns start) (hmem : turns ⊆ patterns)
    (hne : ∀ pattern ∈ turns, pattern ≠ []) : (pass turns p).From patterns start := by
  induction turns generalizing p with
  | nil => exact h
  | cons pattern rest ih =>
      rw [List.forall_mem_cons] at hne
      rw [List.cons_subset] at hmem
      exact ih (h.step hmem.1 hne.1) hmem.2 hne.2

theorem loop (h : p.From patterns start) (hne : ∀ pattern ∈ patterns, pattern ≠ [])
    (hloop : Loop patterns p count q) : q.From patterns start := by
  induction hloop with
  | last _ => exact h.pass (List.Subset.refl _) hne
  | again _ _ ih => exact ih (h.pass (List.Subset.refl _) hne)

end Progress.From

/-! ### Redaction -/

theorem from_run (patterns : List Text) (text : Text) :
    (run patterns text).From (patterns.filter (!·.isEmpty)) text := by
  obtain ⟨_, -, hloop⟩ := exists_loop_run patterns text
  exact (Progress.From.initial _ text).loop (fun _ hmem => (mem_filter_isEmpty.mp hmem).2) hloop

theorem isClean_run (patterns : List Text) (text : Text) : IsClean patterns (run patterns text).text := by
  obtain ⟨_, -, hloop⟩ := exists_loop_run patterns text
  exact fun pattern hmem hne => hloop.not_occurs pattern (mem_filter_isEmpty.mpr ⟨hmem, hne⟩)

theorem clean_sublist (patterns : List Text) (text : Text) : (clean patterns text).Sublist text :=
  (from_run patterns text).sublist

theorem isClean_clean (patterns : List Text) (text : Text) : IsClean patterns (clean patterns text) :=
  isClean_run patterns text

theorem run_of_isClean (h : IsClean patterns text) : run patterns text = ⟨text, []⟩ := by
  have hnone : finds (patterns.filter (!·.isEmpty)) ⟨text, []⟩ = false := by
    rw [finds_eq_false_iff]
    intro pattern hmem
    obtain ⟨hlisted, hne⟩ := mem_filter_isEmpty.mp hmem
    exact h pattern hlisted hne
  rw [run]
  cases text with
  | nil => rfl
  | cons c cs => rw [List.length_cons, passes, pass_of_finds_eq_false hnone, if_neg (Nat.lt_irrefl _)]

theorem text_run_eq_iff : (run patterns text).text = text ↔ IsClean patterns text := by
  constructor
  · intro hsame
    rw [← hsame]
    exact isClean_run patterns text
  · intro hclean
    rw [run_of_isClean hclean]

end PromptStudio.Redaction

namespace PromptStudio

open Redaction

/-- Of every text and every list of patterns: passes without any bound come to an end, after one more than the text is
long at most, and redaction gives the state that they end in. What is left is a part of the text, in its order, and no
pattern but the empty one occurs in it, case ignored. The patterns found are some of the list, none empty and none twice;
nothing is found exactly if the text is left as it was, and exactly if no pattern occurs in it. A second redaction finds
nothing and changes nothing. -/
theorem redaction_reaches_clean_fixpoint (patterns : List Text) (text : Text) :
    (∃ count ≤ text.length + 1, Loop (patterns.filter (!·.isEmpty)) ⟨text, []⟩ count (run patterns text)) ∧
      (run patterns text).text.Sublist text ∧
      (∀ pattern ∈ patterns, pattern ≠ [] → ¬ Substring.Occurs CaseFold.same pattern (run patterns text).text) ∧
      (run patterns text).found.Nodup ∧ (∀ pattern ∈ (run patterns text).found, pattern ∈ patterns ∧ pattern ≠ []) ∧
      ((run patterns text).found = [] ↔ (run patterns text).text = text) ∧
      ((run patterns text).text = text ↔
        ∀ pattern ∈ patterns, pattern ≠ [] → ¬ Substring.Occurs CaseFold.same pattern text) ∧
      run patterns (run patterns text).text = ⟨(run patterns text).text, []⟩ := by
  have hfrom := from_run patterns text
  exact ⟨exists_loop_run patterns text, hfrom.sublist, isClean_run patterns text, hfrom.nodup,
    fun _ hfound => mem_filter_isEmpty.mp (hfrom.subset hfound), hfrom.found_eq_nil_iff, text_run_eq_iff,
    run_of_isClean (isClean_run patterns text)⟩

end PromptStudio
