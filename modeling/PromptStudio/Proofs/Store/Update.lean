import Mathlib.Data.List.Nodup
import PromptStudio.Store.Basic

/-!
# Rows by their keys

A table is a list of rows, and a row is found by its key. Three things happen to a table: rows are changed where they
stand, a row is put at the end, and a number is given out for its id. None of them moves a row from its place or gives
it another key, so what is found under a key before is found under it afterwards, changed or not.
-/

namespace PromptStudio

namespace Store

variable {α β : Type}

/-! ### Changes in place -/

theorem map_updateWhere (field : α → β) (picks : α → Bool) (change : α → α)
    (hfield : ∀ row, field (change row) = field row) (rows : List α) :
    (updateWhere picks change rows).map field = rows.map field := by
  simp only [updateWhere, List.map_map]
  apply List.map_congr_left
  intro row _
  simp only [Function.comp_apply]
  split
  · exact hfield row
  · rfl

theorem mem_updateWhere {picks : α → Bool} {change : α → α} {rows : List α} {row : α} :
    row ∈ updateWhere picks change rows ↔
      ∃ old ∈ rows, row = if picks old then change old else old := by
  simp only [updateWhere, List.mem_map]
  constructor
  · rintro ⟨old, hold, rfl⟩
    exact ⟨old, hold, rfl⟩
  · rintro ⟨old, hold, rfl⟩
    exact ⟨old, hold, rfl⟩

/-- A row that is picked is found under its key as the change leaves it, any other row as it was. -/
theorem find?_updateWhere [BEq β] (key : α → β) (picks : α → Bool) (change : α → α)
    (hkey : ∀ row, key (change row) = key row) (rows : List α) (k : β) :
    (updateWhere picks change rows).find? (key · == k)
      = (rows.find? (key · == k)).map fun row => if picks row then change row else row := by
  rw [updateWhere, List.find?_map]
  have hsame : ((fun row => key row == k) ∘ fun row => if picks row then change row else row)
      = fun row => key row == k := by
    funext row
    simp only [Function.comp_apply]
    split
    · rw [hkey]
    · rfl
  rw [hsame]

/-! ### Rows at the end -/

theorem find?_append_of_eq_some {p : α → Bool} {rows more : List α} {row : α}
    (hfound : rows.find? p = some row) : (rows ++ more).find? p = some row := by
  rw [List.find?_append, hfound]
  rfl

/-! ### Keys that tell rows apart -/

theorem find?_eq_some_of_mem [BEq β] [LawfulBEq β] {key : α → β} {rows : List α} {row : α}
    (hkeys : (rows.map key).Nodup) (hrow : row ∈ rows) : rows.find? (key · == key row) = some row := by
  cases hfind : rows.find? (key · == key row) with
  | none =>
      have hmiss := List.find?_eq_none.mp hfind row hrow
      simp at hmiss
  | some other =>
      have hother : other ∈ rows := List.mem_of_find?_eq_some hfind
      have hsame : key other = key row := by simpa using List.find?_some hfind
      rw [List.inj_on_of_nodup_map hkeys hother hrow hsame]

theorem find?_eq_some_iff_mem [BEq β] [LawfulBEq β] {key : α → β} {rows : List α} {row : α} {k : β}
    (hkeys : (rows.map key).Nodup) :
    rows.find? (key · == k) = some row ↔ row ∈ rows ∧ key row = k := by
  constructor
  · intro hfind
    exact ⟨List.mem_of_find?_eq_some hfind, by simpa using List.find?_some hfind⟩
  · rintro ⟨hrow, rfl⟩
    exact find?_eq_some_of_mem hkeys hrow

/-! ### The row of a key, from one moment to the next -/

/-- What a step makes of the row that is found under a key: there is still none, a new one came, or the row moved. -/
inductive Follows (new : α → Prop) (moves : α → α → Prop) : Option α → Option α → Prop
  | absent : Follows new moves none none
  | made {row : α} (h : new row) : Follows new moves none (some row)
  | moved {row row' : α} (h : moves row row') : Follows new moves (some row) (some row')

section Follows

variable {new : α → Prop} {moves : α → α → Prop}

theorem Follows.refl (hrefl : ∀ row, moves row row) (found : Option α) : Follows new moves found found := by
  cases found with
  | none => exact .absent
  | some row => exact .moved (hrefl row)

/-- A row at the end is found where none was found before; the others are found as they are. -/
theorem follows_append (hrefl : ∀ row, moves row row) {row : α} (hnew : new row) (p : α → Bool) (rows : List α) :
    Follows new moves (rows.find? p) ((rows ++ [row]).find? p) := by
  cases hfound : rows.find? p with
  | some other =>
      rw [find?_append_of_eq_some hfound]
      exact .moved (hrefl other)
  | none =>
      rw [List.find?_append, hfound, Option.none_or, List.find?_singleton]
      split
      · exact .made hnew
      · exact .absent

theorem follows_updateWhere [BEq β] (key : α → β) (k : β) {picks : α → Bool} {change : α → α} {rows : List α}
    (hrefl : ∀ row, moves row row) (hkey : ∀ row, key (change row) = key row)
    (hmoves : ∀ row, rows.find? (key · == k) = some row → picks row = true → moves row (change row)) :
    Follows new moves (rows.find? (key · == k)) ((updateWhere picks change rows).find? (key · == k)) := by
  rw [find?_updateWhere key picks change hkey]
  cases hfound : rows.find? (key · == k) with
  | none => exact .absent
  | some row =>
      refine .moved ?_
      dsimp only
      split
      · rename_i hpick
        exact hmoves row hfound hpick
      · exact hrefl row

theorem Follows.exists_of_eq_some {found found' : Option α} (h : Follows new moves found found') {row : α}
    (hfound : found = some row) : ∃ row', found' = some row' ∧ moves row row' := by
  cases h with
  | moved hmoves =>
      cases hfound
      exact ⟨_, rfl, hmoves⟩
  | _ => cases hfound

theorem Follows.of_eq_some {found found' : Option α} (h : Follows new moves found found') {row' : α}
    (hfound : found' = some row') : (found = none ∧ new row') ∨ ∃ row, found = some row ∧ moves row row' := by
  cases h with
  | absent => cases hfound
  | made hnew =>
      cases hfound
      exact Or.inl ⟨rfl, hnew⟩
  | moved hmoves =>
      cases hfound
      exact Or.inr ⟨_, rfl, hmoves⟩

end Follows

theorem find?_append_new {α : Type} {p : α → Bool} {rows : List α} {row : α} (hfresh : rows.find? p = none)
    (hrow : p row = true) : (rows ++ [row]).find? p = some row := by
  rw [List.find?_append, hfresh, Option.none_or]
  exact List.find?_cons_of_pos hrow

end Store

/-! ### Ids by number -/

@[simp] theorem isEncodable_rowId (table : String) (number : Nat) : (rowId table number).isEncodable = true := by
  simp [rowId]

theorem rowId_ne_nil (table : String) (number : Nat) : rowId table number ≠ [] :=
  List.append_ne_nil_of_left_ne_nil (List.append_ne_nil_of_right_ne_nil _ (by decide)) _

theorem rowId_injective (table : String) : Function.Injective (rowId table) := by
  intro m n h
  have hdigits : Text.ofString m.repr = Text.ofString n.repr := by
    simpa only [rowId, List.append_cancel_left_eq] using h
  have hchars : m.repr.toList = n.repr.toList := by
    have hread := congrArg Text.toChars? hdigits
    simpa only [Text.ofString, Text.toChars?_map_char, Option.some.injEq] using hread
  rw [Nat.toList_repr, Nat.toList_repr] at hchars
  have hvalue := congrArg (Nat.ofDigitChars 10 · 0) hchars
  simpa only [Nat.ofDigitChars_toDigits (b := 10) (by decide) (by decide)] using hvalue

structure Numbered (table : String) (count : Nat) (ids : List Text) : Prop where
  distinct : ids.Nodup
  counted : ∀ id ∈ ids, ∃ number, number ≤ count ∧ id = rowId table number

namespace Numbered

variable {table : String} {count : Nat} {ids : List Text}

theorem nil (table : String) (count : Nat) : Numbered table count [] where
  distinct := List.nodup_nil
  counted := by simp

theorem isEncodable (h : Numbered table count ids) {id : Text} (hid : id ∈ ids) : id.isEncodable = true := by
  obtain ⟨number, -, rfl⟩ := h.counted id hid
  exact isEncodable_rowId table number

theorem ne_nil (h : Numbered table count ids) {id : Text} (hid : id ∈ ids) : id ≠ [] := by
  obtain ⟨number, -, rfl⟩ := h.counted id hid
  exact rowId_ne_nil table number

theorem mono (h : Numbered table count ids) {more : Nat} (hle : count ≤ more) : Numbered table more ids where
  distinct := h.distinct
  counted := by
    intro id hid
    obtain ⟨number, hnumber, rfl⟩ := h.counted id hid
    exact ⟨number, Nat.le_trans hnumber hle, rfl⟩

theorem sublist (h : Numbered table count ids) {fewer : List Text} (hsub : List.Sublist fewer ids) :
    Numbered table count fewer where
  distinct := hsub.nodup h.distinct
  counted := fun id hid => h.counted id (hsub.subset hid)

theorem next_not_mem (h : Numbered table count ids) : rowId table (count + 1) ∉ ids := by
  intro hmem
  obtain ⟨number, hnumber, heq⟩ := h.counted _ hmem
  have := rowId_injective table heq
  omega

theorem find?_next {α : Type} {key : α → Text} {rows : List α} (h : Numbered table count (rows.map key)) :
    rows.find? (key · == rowId table (count + 1)) = none := by
  rw [List.find?_eq_none]
  intro row hrow hid
  exact h.next_not_mem (beq_iff_eq.mp hid ▸ List.mem_map_of_mem hrow)

/-- The row that takes the next id goes to the end. -/
theorem push (h : Numbered table count ids) : Numbered table (count + 1) (ids ++ [rowId table (count + 1)]) where
  distinct := by
    rw [List.nodup_append]
    refine ⟨h.distinct, List.nodup_singleton _, ?_⟩
    intro id hid other hother heq
    rw [List.mem_singleton] at hother
    exact h.next_not_mem (hother ▸ heq ▸ hid)
  counted := by
    intro id hid
    rcases List.mem_append.mp hid with hold | hnew
    · exact (h.mono (Nat.le_succ count)).counted id hold
    · exact ⟨count + 1, Nat.le_refl _, List.mem_singleton.mp hnew⟩

end Numbered

end PromptStudio
