import PromptStudio.Proofs.Number.Digits
import PromptStudio.Proofs.Number.Rank

/-!
# How a numeral is spelled

Laid out, a numeral is a whole part, places behind a point, and an exponent with its sign; each layout leaves some of
them out and fills others with zeros. `Numeral.spelling` names the parts, so that what a reader does with them can be
said of any spelling. The parts are well formed, and they spell a numeral of the same rank.
-/

namespace PromptStudio.Binary64

structure Spelling where
  whole : List Nat
  /-- The digits behind the point; without any there is no point. -/
  places : List Nat
  power : Option (Bool × List Nat)

namespace Spelling

def mark : Option (Bool × List Nat) → List Char
  | none => []
  | some (negative, ds) => 'e' :: (if negative then '-' else '+') :: digitChars ds

def pointed (places : List Nat) : List Char :=
  if places = [] then [] else '.' :: digitChars places

def chars (s : Spelling) : List Char :=
  digitChars s.whole ++ (pointed s.places ++ mark s.power)

def written : Option (Bool × List Nat) → Int
  | none => 0
  | some (negative, ds) => if negative then -(Json.ofDigits ds : Int) else Json.ofDigits ds

def numeral (s : Spelling) : Numeral :=
  ⟨Json.ofDigits (s.whole ++ s.places), written s.power - s.places.length⟩

/-- What a reader expects of the parts: digits, no superfluous zero in front, and a point or an exponent. -/
structure WellFormed (s : Spelling) : Prop where
  whole_lt : ∀ d ∈ s.whole, d < 10
  places_lt : ∀ d ∈ s.places, d < 10
  power_lt : ∀ negative ds, s.power = some (negative, ds) → ds ≠ [] ∧ ∀ d ∈ ds, d < 10
  whole_ne_nil : s.whole ≠ []
  leading : s.whole = [0] ∨ s.whole.head? ≠ some 0
  broken : s.places ≠ [] ∨ s.power.isSome = true
  short : s.whole.length ≤ 16

end Spelling

/-! ### The spelling of a layout -/

/-- The digits of an exponent, two at least. -/
def markDigits (n : Nat) : List Nat :=
  if (digitValues n).length < 2 then 0 :: digitValues n else digitValues n

def Numeral.spelling (d : Numeral) : Spelling :=
  let digits := digitValues d.digits
  let point := (digits.length : Int) + d.exponent
  if -4 < point ∧ point ≤ 16 then
    if point ≤ 0 then ⟨[0], List.replicate (-point).toNat 0 ++ digits, none⟩
    else if (digits.length : Int) ≤ point then ⟨digits ++ List.replicate (point - digits.length).toNat 0, [0], none⟩
    else ⟨digits.take point.toNat, digits.drop point.toNat, none⟩
  else ⟨digits.take 1, digits.drop 1, some (decide (point - 1 < 0), markDigits (point - 1).natAbs)⟩

theorem exponentMark_eq (exponent : Int) :
    exponentMark exponent = Spelling.mark (some (decide (exponent < 0), markDigits exponent.natAbs)) := by
  rw [exponentMark, Spelling.mark, markDigits, digitsOf_eq, length_digitChars]
  simp only [decide_eq_true_eq]
  split <;> split <;> rfl

theorem Spelling.chars_of_places {whole places : List Nat} (h : places ≠ []) :
    chars ⟨whole, places, none⟩ = digitChars whole ++ '.' :: digitChars places := by
  rw [chars, pointed, if_neg h, mark, List.append_nil]

theorem Spelling.wellFormed_of_places {whole places : List Nat} (hwhole : ∀ d ∈ whole, d < 10)
    (hplaces : ∀ d ∈ places, d < 10) (hne : whole ≠ []) (hleading : whole = [0] ∨ whole.head? ≠ some 0)
    (hbroken : places ≠ []) (hshort : whole.length ≤ 16) : WellFormed ⟨whole, places, none⟩ :=
  { whole_lt := hwhole
    places_lt := hplaces
    power_lt := by simp
    whole_ne_nil := hne
    leading := hleading
    broken := .inl hbroken
    short := hshort }

theorem Spelling.wellFormed_of_fraction {places : List Nat} (hplaces : ∀ d ∈ places, d < 10) (hne : places ≠ []) :
    WellFormed ⟨[0], places, none⟩ :=
  wellFormed_of_places (by simp) hplaces (List.cons_ne_nil 0 []) (.inl rfl) hne (by simp)

theorem layout_eq (d : Numeral) : layout d = d.spelling.chars := by
  rw [layout, Numeral.spelling]
  simp only [digitsOf_eq, length_digitChars]
  have hne := digitValues_ne_nil d.digits
  generalize digitValues d.digits = digits at hne ⊢
  generalize (digits.length : Int) + d.exponent = point
  split
  · split
    · rw [Spelling.chars_of_places (List.append_ne_nil_of_right_ne_nil _ hne), digitChars_append,
        digitChars_replicate_zero]
      rfl
    · split
      · rw [Spelling.chars_of_places (List.cons_ne_nil 0 []), digitChars_append, digitChars_replicate_zero]
        rfl
      · have hplaces : digits.drop point.toNat ≠ [] := by
          rw [ne_eq, List.drop_eq_nil_iff]
          omega
        rw [Spelling.chars_of_places hplaces, digitChars, digitChars, digitChars, List.map_take, List.map_drop]
  · rw [exponentMark_eq, Spelling.chars]
    obtain ⟨d, rest, rfl⟩ := List.exists_cons_of_ne_nil hne
    cases rest <;> rfl

theorem markDigits_spec (n : Nat) :
    markDigits n ≠ [] ∧ (∀ d ∈ markDigits n, d < 10) ∧ Json.ofDigits (markDigits n) = n := by
  have hdigits := lt_ten_of_mem_digitValues n
  rw [markDigits]
  split
  · refine ⟨List.cons_ne_nil _ _, ?_, ofDigits_digitValues n⟩
    rw [List.forall_mem_cons]
    exact ⟨by decide, hdigits⟩
  · exact ⟨digitValues_ne_nil n, hdigits, ofDigits_digitValues n⟩

theorem Spelling.written_mark (exponent : Int) :
    written (some (decide (exponent < 0), markDigits exponent.natAbs)) = exponent := by
  rw [written, (markDigits_spec _).2.2]
  simp only [decide_eq_true_eq]
  split <;> omega

namespace Numeral

theorem rank_spelling (d : Numeral) : d.spelling.numeral.rank = d.rank := by
  have hdigits := ofDigits_digitValues d.digits
  have hlength := List.length_pos_iff.mpr (digitValues_ne_nil d.digits)
  rw [spelling]
  generalize digitValues d.digits = digits at hdigits hlength ⊢
  obtain ⟨n, exponent⟩ := d
  obtain rfl : Json.ofDigits digits = n := hdigits
  generalize hpoint : (digits.length : Int) + exponent = point
  split
  · split
    · simp only [Spelling.numeral, Spelling.written, List.length_append, List.length_replicate]
      rw [← List.replicate_one, ← List.append_assoc, List.replicate_append_replicate, Json.ofDigits_zeros_append]
      have hexponent : (0 : Int) - (((-point).toNat + digits.length : Nat) : Int) = exponent := by omega
      rw [hexponent]
    · split
      · simp only [Spelling.numeral, Spelling.written, List.length_singleton]
        rw [← List.replicate_one, List.append_assoc, List.replicate_append_replicate, Json.ofDigits_append_zeros,
          rank_mul_pow]
        have hexponent : (0 : Int) - ((1 : Nat) : Int) + (((point - digits.length).toNat + 1 : Nat) : Int) = exponent := by
          omega
        rw [hexponent]
      · simp only [Spelling.numeral, Spelling.written, List.take_append_drop, List.length_drop]
        have hexponent : (0 : Int) - ((digits.length - point.toNat : Nat) : Int) = exponent := by omega
        rw [hexponent]
  · simp only [Spelling.numeral, Spelling.written_mark, List.take_append_drop, List.length_drop]
    have hexponent : point - 1 - ((digits.length - 1 : Nat) : Int) = exponent := by omega
    rw [hexponent]

theorem wellFormed_spelling {d : Numeral} (hd : d.digits ≠ 0) : d.spelling.WellFormed := by
  have hlt := lt_ten_of_mem_digitValues d.digits
  have hne := digitValues_ne_nil d.digits
  have hhead := head?_digitValues hd
  rw [spelling]
  generalize digitValues d.digits = digits at hlt hne hhead ⊢
  generalize (digits.length : Int) + d.exponent = point
  have hzeros : ∀ count, ∀ d ∈ List.replicate count 0, d < 10 := by
    intro count d hmem
    rw [List.eq_of_mem_replicate hmem]
    decide
  split
  · rename_i hpositional
    split
    · exact Spelling.wellFormed_of_fraction (List.forall_mem_append.mpr ⟨hzeros _, hlt⟩)
        (List.append_ne_nil_of_right_ne_nil _ hne)
    · split
      · refine Spelling.wellFormed_of_places (List.forall_mem_append.mpr ⟨hlt, hzeros _⟩) (by simp)
          (List.append_ne_nil_of_left_ne_nil hne _) (.inr ?_) (List.cons_ne_nil 0 []) ?_
        · rwa [List.head?_append, Option.or_of_isSome (List.isSome_head?.mpr hne)]
        · rw [List.length_append, List.length_replicate]
          omega
      · refine Spelling.wellFormed_of_places (fun d hmem => hlt d (List.mem_of_mem_take hmem))
          (fun d hmem => hlt d (List.mem_of_mem_drop hmem)) ?_ (.inr ?_) ?_ ?_
        · rw [ne_eq, List.take_eq_nil_iff, not_or]
          exact ⟨by omega, hne⟩
        · rwa [List.head?_take, if_neg (by omega)]
        · rw [ne_eq, List.drop_eq_nil_iff]
          omega
        · rw [List.length_take]
          omega
  · exact {
      whole_lt := fun d hmem => hlt d (List.mem_of_mem_take hmem)
      places_lt := fun d hmem => hlt d (List.mem_of_mem_drop hmem)
      power_lt := by
        intro negative ds hpower
        obtain ⟨-, rfl⟩ := Prod.mk.inj (Option.some.inj hpower)
        exact ⟨(markDigits_spec _).1, (markDigits_spec _).2.1⟩
      whole_ne_nil := by
        rw [ne_eq, List.take_eq_nil_iff, not_or]
        exact ⟨by decide, hne⟩
      leading := .inr (by rwa [List.head?_take, if_neg (by decide)])
      broken := .inr rfl
      short := by
        rw [List.length_take]
        omega }

end Numeral

/-! ### The spelling of a magnitude -/

/-- The parts of a magnitude: zero has one digit before the point and one behind it. -/
def spelling (rank : Nat) : Spelling :=
  if rank = 0 then ⟨[0], [0], none⟩ else (shortest rank).spelling

theorem magnitudeText_eq (rank : Nat) : magnitudeText rank = (spelling rank).chars := by
  rw [magnitudeText, spelling]
  split
  · rfl
  · exact layout_eq _

theorem wellFormed_spelling (rank : Nat) : (spelling rank).WellFormed := by
  rw [spelling]
  split
  · exact Spelling.wellFormed_of_fraction (by simp) (List.cons_ne_nil 0 [])
  · rename_i hrank
    exact Numeral.wellFormed_spelling (digits_shortest_ne_zero hrank)

theorem rank_spelling (rank : Nat) : (spelling rank).numeral.rank = rank := by
  rw [spelling]
  split
  · rename_i hzero
    rw [hzero]
    exact Numeral.rank_zero _
  · exact (Numeral.rank_spelling _).trans (rank_shortest rank)

/-- Reading the numeral that a magnitude is spelled by gives the number back. -/
theorem ofDecimal_spelling (negative : Bool) (rank : Fin rankCount) :
    ofDecimal negative (spelling rank).numeral.digits (spelling rank).numeral.exponent = .finite negative rank := by
  rw [ofDecimal_eq, rank_spelling, ofRank_val]

end PromptStudio.Binary64
