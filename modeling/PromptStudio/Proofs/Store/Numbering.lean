import PromptStudio.Proofs.Store.Update

/-!
# Rows that are counted

Snapshots stand under a prompt, and versions under a blueprint. The number of the next one is not the highest number and
one more, but how many there are and one more, and it may be counted long before the row is inserted. Yet if numbers
were given without a gap so far, a number that was counted at some time is either taken or the next one: there are never
fewer rows than were counted. So a row that is inserted leaves no gap, and a row whose number is taken is not inserted.
-/

namespace PromptStudio.Store

variable {α : Type} (parent : α → Text) (number : α → Cell)

def under (rows : List α) (id : Text) : List α :=
  rows.filter (parent · == id)

def numbersTo (count : Nat) : List Cell :=
  (List.range count).map fun i : Nat => .int (i + 1)

def Taken (rows : List α) (id : Text) (n : Int) : Prop :=
  ∃ row ∈ under parent rows id, number row = .int n

/-- Under every parent the rows have the numbers from one up to how many there are, in the order in which they came. -/
def Gapless (rows : List α) : Prop :=
  ∀ id, (under parent rows id).map number = numbersTo (under parent rows id).length

variable {parent number} {rows : List α} {row : α} {id : Text} {n : Int}

theorem any_iff_taken (hnumber : number row = .int n) :
    (rows.any fun other => parent other == parent row && number other == number row) = true
      ↔ Taken parent number rows (parent row) n := by
  rw [List.any_eq_true, hnumber]
  constructor
  · rintro ⟨other, hother, hsame⟩
    rw [Bool.and_eq_true, beq_iff_eq, beq_iff_eq] at hsame
    exact ⟨other, List.mem_filter.mpr ⟨hother, beq_iff_eq.mpr hsame.1⟩, hsame.2⟩
  · rintro ⟨other, hother, htaken⟩
    obtain ⟨hmem, hparent⟩ := List.mem_filter.mp hother
    exact ⟨other, hmem, by rw [hparent, htaken, beq_self_eq_true, Bool.and_self]⟩

theorem mem_numbersTo {count : Nat} : Cell.int n ∈ numbersTo count ↔ 1 ≤ n ∧ n ≤ count := by
  rw [numbersTo, List.mem_map]
  constructor
  · rintro ⟨i, hi, hn⟩
    rw [List.mem_range] at hi
    rw [Cell.int.injEq] at hn
    omega
  · rintro ⟨hlow, hhigh⟩
    refine ⟨(n - 1).toNat, ?_, ?_⟩
    · rw [List.mem_range]
      omega
    · rw [Cell.int.injEq]
      omega

theorem numbersTo_succ (count : Nat) : numbersTo (count + 1) = numbersTo count ++ [.int (count + 1)] := by
  rw [numbersTo, List.range_succ, List.map_append]
  rfl

theorem under_append_self : under parent (rows ++ [row]) (parent row) = under parent rows (parent row) ++ [row] := by
  have hkept : [row].filter (parent · == parent row) = [row] := List.filter_cons_of_pos (beq_self_eq_true _)
  rw [under, List.filter_append, hkept]
  rfl

theorem under_append_of_ne (h : parent row ≠ id) : under parent (rows ++ [row]) id = under parent rows id := by
  have hdropped : [row].filter (parent · == id) = [] := List.filter_cons_of_neg (mt beq_iff_eq.mp h)
  rw [under, List.filter_append, hdropped, List.append_nil]
  rfl

namespace Gapless

theorem nil : Gapless parent number [] :=
  fun _ => rfl

theorem taken_iff (h : Gapless parent number rows) :
    Taken parent number rows id n ↔ 1 ≤ n ∧ n ≤ (under parent rows id).length := by
  rw [← mem_numbersTo, ← h id, List.mem_map]
  rfl

theorem eq_next_of_free (h : Gapless parent number rows) (hlow : 1 ≤ n) (hhigh : n ≤ (under parent rows id).length + 1)
    (hfree : ¬ Taken parent number rows id n) : n = (under parent rows id).length + 1 := by
  rw [h.taken_iff] at hfree
  omega

/-- A row that was counted, and whose number is free, leaves no gap. -/
theorem push (h : Gapless parent number rows) (hnumber : number row = .int n) (hlow : 1 ≤ n)
    (hhigh : n ≤ (under parent rows (parent row)).length + 1) (hfree : ¬ Taken parent number rows (parent row) n) :
    Gapless parent number (rows ++ [row]) := by
  intro id
  by_cases hparent : parent row = id
  · rw [← hparent, under_append_self, List.map_append, h (parent row), List.length_append, List.length_singleton,
      numbersTo_succ, List.map_singleton, hnumber, h.eq_next_of_free hlow hhigh hfree]
  · rw [under_append_of_ne hparent]
    exact h id

/-- Under a parent that has rows, some row has the highest number. -/
theorem exists_last (h : Gapless parent number rows) (hne : under parent rows id ≠ []) :
    ∃ row ∈ under parent rows id, number row = .int (under parent rows id).length ∧
      ∀ other ∈ under parent rows id, ∃ m : Int, number other = .int m ∧ m ≤ (under parent rows id).length := by
  have hpos := List.length_pos_iff.mpr hne
  have htaken : Taken parent number rows id (under parent rows id).length := by
    rw [h.taken_iff]
    omega
  obtain ⟨row, hrow, hlast⟩ := htaken
  refine ⟨row, hrow, hlast, ?_⟩
  intro other hother
  have hmem : number other ∈ numbersTo (under parent rows id).length := h id ▸ List.mem_map_of_mem hother
  obtain ⟨i, hi, heq⟩ := List.mem_map.mp hmem
  rw [List.mem_range] at hi
  exact ⟨i + 1, heq.symm, by omega⟩

theorem eq_of_number_eq (h : Gapless parent number rows) {a b : α} (ha : a ∈ under parent rows id)
    (hb : b ∈ under parent rows id) (heq : number a = number b) : a = b := by
  refine List.inj_on_of_nodup_map ?_ ha hb heq
  rw [h id, numbersTo]
  refine List.Nodup.map ?_ List.nodup_range
  intro i j hij
  rw [Cell.int.injEq] at hij
  omega

end Gapless

end PromptStudio.Store
