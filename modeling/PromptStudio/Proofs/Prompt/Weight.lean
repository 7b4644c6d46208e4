import Mathlib.Algebra.Order.Field.Basic
import Mathlib.Algebra.Order.Field.Rat
import Mathlib.Tactic.FieldSimp
import Mathlib.Tactic.Linarith
import PromptStudio.Number.Reader
import PromptStudio.Prompt.Adapter
import PromptStudio.Proofs.Number.Spelling

/-!
# The text of a weight

A weight is rounded to hundredths, a half to the even neighbour, and written with two places, of which zeros at the end
go and with them a point that nothing stands behind. What is left is a decimal numeral of the rounded value: there always
is a point that keeps the zeros of the whole part. So two weights have one text exactly if they round to one hundredth,
except that the negative zero keeps its sign.
-/

namespace PromptStudio

/-! ### The nearest natural number -/

/-- A natural number is nearest to a quotient; of two that are equally near, the even one is. -/
structure IsNearest (x : ℚ) (n : Nat) : Prop where
  close : |x - n| ≤ 1 / 2
  even : |x - n| = 1 / 2 → n % 2 = 0

theorem IsNearest.not_succ {x : ℚ} {n : Nat} (hn : IsNearest x n) : ¬ IsNearest x (n + 1) := by
  intro hsucc
  have hbelow := (abs_le.mp hn.close).2
  have habove := (abs_le.mp hsucc.close).1
  push_cast at habove
  have hhalf : x - n = 1 / 2 := by linarith
  have hhalf' : x - (n + 1 : Nat) = -(1 / 2) := by
    push_cast
    linarith
  have heven := hn.even (by rw [hhalf, abs_of_pos one_half_pos])
  have heven' := hsucc.even (by rw [hhalf', abs_neg, abs_of_pos one_half_pos])
  omega

theorem IsNearest.unique {x : ℚ} {m n : Nat} (hm : IsNearest x m) (hn : IsNearest x n) : m = n := by
  obtain ⟨hm₁, hm₂⟩ := abs_le.mp hm.close
  obtain ⟨hn₁, hn₂⟩ := abs_le.mp hn.close
  have hmn : m ≤ n + 1 := by
    have hcast : (m : ℚ) ≤ n + 1 := by linarith
    exact_mod_cast hcast
  have hnm : n ≤ m + 1 := by
    have hcast : (n : ℚ) ≤ m + 1 := by linarith
    exact_mod_cast hcast
  rcases Nat.lt_trichotomy m n with hlt | heq | hgt
  · obtain rfl : n = m + 1 := Nat.le_antisymm hnm hlt
    exact absurd hn hm.not_succ
  · exact heq
  · obtain rfl : m = n + 1 := Nat.le_antisymm hmn hgt
    exact absurd hm hn.not_succ

/-- The distance of a quotient from a natural number, with the divisor taken out. -/
theorem abs_div_sub (num : Nat) {den : Nat} (hden : 0 < den) (n : Nat) :
    |(num / den : ℚ) - n| = (((num : Int) - n * den).natAbs : ℚ) / den := by
  have hpos : (0 : ℚ) < den := Nat.cast_pos.mpr hden
  have hsub : (num / den : ℚ) - n = (num - n * den) / den := by
    field_simp
  rw [hsub, abs_div, abs_of_pos hpos, Nat.cast_natAbs]
  push_cast
  rfl

theorem isNearest_div_iff (num : Nat) {den : Nat} (hden : 0 < den) (n : Nat) :
    IsNearest (num / den) n ↔
      2 * ((num : Int) - n * den).natAbs ≤ den ∧ (2 * ((num : Int) - n * den).natAbs = den → n % 2 = 0) := by
  have hpos : (0 : ℚ) < den := Nat.cast_pos.mpr hden
  generalize hgap : ((num : Int) - n * den).natAbs = gap
  have hclose : |(num / den : ℚ) - n| ≤ 1 / 2 ↔ 2 * gap ≤ den := by
    rw [abs_div_sub num hden, hgap, div_le_div_iff₀ hpos two_pos]
    norm_cast
    omega
  have hhalf : |(num / den : ℚ) - n| = 1 / 2 ↔ 2 * gap = den := by
    rw [abs_div_sub num hden, hgap, div_eq_div_iff hpos.ne' two_ne_zero]
    norm_cast
    omega
  constructor
  · intro h
    exact ⟨hclose.mp h.close, fun heq => h.even (hhalf.mpr heq)⟩
  · rintro ⟨hle, heven⟩
    exact ⟨hclose.mpr hle, fun heq => heven (hhalf.mp heq)⟩

theorem isNearest_roundDiv (num : Nat) {den : Nat} (hden : 0 < den) : IsNearest (num / den) (roundDiv num den) := by
  rw [isNearest_div_iff num hden]
  have hdiv : (num : Int) = den * (num / den : Nat) + (num % den : Nat) := by
    exact_mod_cast (Nat.div_add_mod num den).symm
  have hlt := Nat.mod_lt num hden
  rw [roundDiv]
  generalize num / den = quotient at hdiv ⊢
  generalize num % den = remainder at hdiv hlt ⊢
  have hdown : (num : Int) - quotient * den = remainder := by
    rw [hdiv, Int.mul_comm]
    omega
  have hup : (num : Int) - (quotient + 1 : Nat) * den = remainder - den := by
    push_cast
    rw [Int.add_mul]
    omega
  split
  · rw [hdown]
    omega
  · split
    · rw [hup]
      omega
    · rcases Nat.mod_two_eq_zero_or_one quotient with heven | hodd
      · rw [heven, Nat.add_zero, hdown]
        omega
      · rw [hodd, hup]
        omega

/-! ### The value of a number and of a numeral -/

namespace Binary64

def value? : Binary64 → Option ℚ
  | finite negative rank => some ((signedUnits negative rank : ℚ) / unitsPerOne)
  | _ => none

/-- The rational number that a decimal numeral without a sign spells; behind a point there is a digit. -/
def unsignedValue? (cs : List Char) : Option ℚ :=
  match spanAsciiDigits cs with
  | ([], _) => none
  | (whole, []) => some (Json.ofDigits whole : ℚ)
  | (whole, '.' :: rest) =>
    match spanAsciiDigits rest with
    | ([], _) => none
    | (places, []) => some ((Json.ofDigits (whole ++ places) : ℚ) / 10 ^ places.length)
    | _ => none
  | _ => none

/-- The rational number that a decimal numeral spells. -/
def decimalValue? : List Char → Option ℚ
  | '-' :: rest => (unsignedValue? rest).map (- ·)
  | cs => unsignedValue? cs

theorem units_eq_zero_iff {rank : Nat} : units rank = 0 ↔ rank = 0 := by
  rw [units]
  split
  · exact Iff.rfl
  · rename_i hlarge
    have hfactor : 0 < (binade + rank % binade) * Nat.pow 2 (rank / binade - 1) :=
      Nat.mul_pos (Nat.add_pos_left (by decide) _) (natPow_pos 2 _ (by decide))
    constructor
    · intro hzero
      exact absurd hzero hfactor.ne'
    · rintro rfl
      exact absurd (by decide) hlarge

/-- A number that is not below zero has its magnitude for its value, and a sign only if it is the negative zero. -/
theorem finite_of_nonneg {w : Binary64} {x : ℚ} (hw : w.value? = some x) (hx : 0 ≤ x) :
    ∃ negative rank, w = finite negative rank ∧ x = (units rank : ℚ) / unitsPerOne ∧
      (negative = true ↔ w = zero true) ∧ (negative = true → units rank = 0) := by
  cases w with
  | nan => exact absurd hw (by simp [value?])
  | infinite negative => exact absurd hw (by simp [value?])
  | finite negative rank =>
    obtain rfl := Option.some.inj hw
    have hpos : (0 : ℚ) < unitsPerOne := Nat.cast_pos.mpr unitsPerOne_pos
    cases negative with
    | false =>
      refine ⟨false, rank, rfl, ?_, by simp [zero], by simp⟩
      rw [signedUnits, if_neg Bool.false_ne_true, Int.cast_natCast]
    | true =>
      have hsigned : (0 : ℚ) ≤ signedUnits true rank := by
        rwa [le_div_iff₀ hpos, zero_mul] at hx
      have hunits : units rank = 0 := by
        have hint : 0 ≤ signedUnits true rank := by exact_mod_cast hsigned
        rw [signedUnits, if_pos rfl] at hint
        omega
      have hrank : rank = ⟨0, by decide⟩ := Fin.ext (units_eq_zero_iff.mp hunits)
      refine ⟨true, rank, rfl, ?_, ?_, fun _ => hunits⟩
      · rw [signedUnits, if_pos rfl, hunits, Nat.cast_zero, neg_zero, Int.cast_zero, Nat.cast_zero]
      · exact iff_of_true rfl (congrArg (finite true) hrank)

theorem value?_zero (negative : Bool) : (zero negative).value? = some 0 := by
  have hunits : signedUnits negative 0 = 0 := by cases negative <;> decide
  rw [zero, value?, hunits, Int.cast_zero, zero_div]

theorem value?_of_units {rank : Fin rankCount} {num den : Nat} (hden : den ≠ 0)
    (h : units rank * den = num * unitsPerOne) : (finite false rank).value? = some ((num : ℚ) / den) := by
  change some (((units rank : Int) : ℚ) / unitsPerOne) = some ((num : ℚ) / den)
  rw [Int.cast_natCast, Option.some.injEq,
    div_eq_div_iff (Nat.cast_ne_zero.mpr unitsPerOne_pos.ne') (Nat.cast_ne_zero.mpr hden)]
  exact_mod_cast h

/-! ### Reading digits -/

theorem isDigit_digitChar : ∀ d < 10, (Nat.digitChar d).isDigit = true := by
  decide

theorem digitChar_beq_zero : ∀ d < 10, (Nat.digitChar d == '0') = decide (d = 0) := by
  decide

theorem asciiDigit?_digitChar : ∀ d < 10, asciiDigit? (Nat.digitChar d) = some d := by
  decide

theorem isDigit_of_mem_digitChars {ds : List Nat} (hlt : ∀ d ∈ ds, d < 10) : ∀ c ∈ digitChars ds, c.isDigit = true := by
  intro c hmem
  obtain ⟨d, hd, rfl⟩ := List.mem_map.mp hmem
  exact isDigit_digitChar d (hlt d hd)

theorem filterMap_asciiDigit?_digitChars {ds : List Nat} (hlt : ∀ d ∈ ds, d < 10) :
    (digitChars ds).filterMap asciiDigit? = ds := by
  induction ds with
  | nil => rfl
  | cons d ds ih =>
    rw [List.forall_mem_cons] at hlt
    change (Nat.digitChar d :: digitChars ds).filterMap asciiDigit? = d :: ds
    rw [List.filterMap_cons_some (asciiDigit?_digitChar d hlt.1), ih hlt.2]

theorem spanAsciiDigits_digitChars {ds : List Nat} (hlt : ∀ d ∈ ds, d < 10) {rest : List Char}
    (hrest : ∀ c ∈ rest.head?, c.isDigit = false) : spanAsciiDigits (digitChars ds ++ rest) = (ds, rest) := by
  have hdigits := isDigit_of_mem_digitChars hlt
  have htake : rest.takeWhile (·.isDigit) = [] := by
    cases rest with
    | nil => rfl
    | cons c rest => exact List.takeWhile_cons_of_neg (by simpa using hrest c rfl)
  have hdrop : rest.dropWhile (·.isDigit) = rest := by
    cases rest with
    | nil => rfl
    | cons c rest => exact List.dropWhile_cons_of_neg (by simpa using hrest c rfl)
  rw [spanAsciiDigits, List.takeWhile_append_of_pos hdigits, List.dropWhile_append_of_pos hdigits, htake, hdrop,
    List.append_nil, filterMap_asciiDigit?_digitChars hlt]

/-- Digits, and behind a point digits again, spell all of them moved down by the places. -/
theorem unsignedValue?_pointed {whole places : List Nat} (hwhole : ∀ d ∈ whole, d < 10)
    (hplaces : ∀ d ∈ places, d < 10) (hne : whole ≠ []) :
    unsignedValue? (digitChars whole ++ Spelling.pointed places) =
      some ((Json.ofDigits (whole ++ places) : ℚ) / 10 ^ places.length) := by
  rw [unsignedValue?, Spelling.pointed]
  obtain ⟨d, ds, rfl⟩ := List.exists_cons_of_ne_nil hne
  cases places with
  | nil =>
    rw [if_pos rfl, spanAsciiDigits_digitChars hwhole (by simp)]
    simp
  | cons p ps =>
    have hinner : spanAsciiDigits (digitChars (p :: ps)) = (p :: ps, []) := by
      rw [← List.append_nil (digitChars (p :: ps))]
      exact spanAsciiDigits_digitChars hplaces (by simp)
    rw [if_neg (List.cons_ne_nil p ps), spanAsciiDigits_digitChars hwhole (by simp)]
    simp only [hinner]

theorem decimalValue?_signed (negative : Bool) {cs : List Char} {v : ℚ} (hcs : unsignedValue? cs = some v) :
    decimalValue? ((if negative then ['-'] else []) ++ cs) = some (if negative then -v else v) := by
  cases negative with
  | true =>
    change (unsignedValue? cs).map (- ·) = some (-v)
    rw [hcs]
    rfl
  | false =>
    change decimalValue? cs = some v
    rw [decimalValue?]
    · exact hcs
    · rintro rest rfl
      exact absurd hcs (by simp [unsignedValue?, spanAsciiDigits])

/-! ### The numeral of a count of hundredths -/

def keptPlaces (tenths hundredths : Nat) : List Nat :=
  if hundredths = 0 then (if tenths = 0 then [] else [tenths]) else [tenths, hundredths]

def hundredthsNumeral (n : Nat) : List Char :=
  digitChars (digitValues (n / 100)) ++ Spelling.pointed (keptPlaces (n % 100 / 10) (n % 10))

theorem keptPlaces_spec {tenths hundredths : Nat} (htenths : tenths < 10) (hhundredths : hundredths < 10) :
    (∀ d ∈ keptPlaces tenths hundredths, d < 10) ∧ (keptPlaces tenths hundredths).length ≤ 2 ∧
      (keptPlaces tenths hundredths).getLast? ≠ some 0 := by
  rw [keptPlaces]
  split
  · split
    · simp
    · rename_i hne
      simp [htenths, hne]
  · rename_i hne
    simp [htenths, hhundredths, hne]

theorem ofDigits_append_keptPlaces (whole : List Nat) (tenths hundredths : Nat) :
    Json.ofDigits (whole ++ keptPlaces tenths hundredths) * 100 =
      (Json.ofDigits whole * 100 + tenths * 10 + hundredths) * 10 ^ (keptPlaces tenths hundredths).length := by
  rw [Json.ofDigits_append, keptPlaces]
  by_cases hlast : hundredths = 0
  · by_cases hfirst : tenths = 0
    · simp [hlast, hfirst, Json.ofDigits]
    · simp only [hlast, hfirst, if_true, if_false, Json.ofDigits, List.foldl_cons, List.foldl_nil, List.length_singleton,
        Nat.pow_eq]
      omega
  · simp only [hlast, if_false, Json.ofDigits, List.foldl_cons, List.foldl_nil, List.length_cons, List.length_nil,
      Nat.pow_eq]
    omega

/-- A whole part and places that are worth a count of hundredths spell it. -/
theorem unsignedValue?_of_worth {n : Nat} {places : List Nat} (hlt : ∀ d ∈ places, d < 10)
    (hworth : Json.ofDigits (digitValues (n / 100) ++ places) * 100 = n * 10 ^ places.length) :
    unsignedValue? (digitChars (digitValues (n / 100)) ++ Spelling.pointed places) = some ((n : ℚ) / 100) := by
  rw [unsignedValue?_pointed (lt_ten_of_mem_digitValues _) hlt (digitValues_ne_nil _), Option.some.injEq,
    div_eq_div_iff (by positivity) (by norm_num)]
  exact_mod_cast hworth

theorem ofDigits_hundredths (n : Nat) :
    Json.ofDigits (digitValues (n / 100)) * 100 + n % 100 / 10 * 10 + n % 10 = n := by
  rw [ofDigits_digitValues]
  omega

theorem unsignedValue?_hundredthsNumeral (n : Nat) : unsignedValue? (hundredthsNumeral n) = some ((n : ℚ) / 100) := by
  have htenths : n % 100 / 10 < 10 := by omega
  have hhundredths : n % 10 < 10 := by omega
  refine unsignedValue?_of_worth (keptPlaces_spec htenths hhundredths).1 ?_
  rw [ofDigits_append_keptPlaces, ofDigits_hundredths]

theorem unsignedValue?_hundredthsText (n : Nat) : unsignedValue? (hundredthsText n) = some ((n : ℚ) / 100) := by
  have hlt : ∀ d ∈ [n % 100 / 10, n % 10], d < 10 := by
    simp only [List.forall_mem_cons, List.not_mem_nil, false_implies, implies_true, and_true]
    omega
  rw [hundredthsText, digitsOf_eq]
  refine unsignedValue?_of_worth hlt ?_
  have hn := ofDigits_hundredths n
  rw [Json.ofDigits_append]
  simp only [Json.ofDigits, List.foldl_cons, List.foldl_nil, List.length_cons, List.length_nil] at hn ⊢
  rw [Nat.pow_eq]
  omega

theorem hundredthsNumeral_injective {m n : Nat} (h : hundredthsNumeral m = hundredthsNumeral n) : m = n := by
  have hvalue := unsignedValue?_hundredthsNumeral m
  rw [h, unsignedValue?_hundredthsNumeral, Option.some.injEq, div_left_inj' (by norm_num)] at hvalue
  exact_mod_cast hvalue.symm

end Binary64

/-! ### The text of a weight -/

theorem Blank.dropTail_concat {α : Type} (p : α → Bool) (cs : List α) (c : α) :
    dropTail p (cs ++ [c]) = if p c then dropTail p cs else cs ++ [c] := by
  rw [dropTail, List.reverse_concat, List.dropWhile_cons]
  split
  · rfl
  · rw [List.reverse_cons, List.reverse_reverse]

theorem Blank.dropTail_eq_self {α : Type} {p : α → Bool} {cs : List α} (h : ∀ c ∈ cs, p c = false) :
    dropTail p cs = cs := by
  rcases List.eq_nil_or_concat cs with rfl | ⟨front, c, rfl⟩
  · rfl
  · rw [List.concat_eq_append] at h ⊢
    rw [dropTail_concat, h c (by simp)]
    rfl

namespace Adapter

open Binary64

/-- Two places lose their zeros at the end, and then the point if nothing is behind it; no further character goes. -/
theorem dropTail_places {front : List Char} (hfront : ∀ c ∈ front, (c == '.') = false) {tenths hundredths : Nat}
    (htenths : tenths < 10) (hhundredths : hundredths < 10) :
    Blank.dropTail (· == '.') (Blank.dropTail (· == '0')
        (front ++ ['.', Nat.digitChar tenths, Nat.digitChar hundredths])) =
      front ++ Spelling.pointed (keptPlaces tenths hundredths) := by
  have hpoint : ∀ d < 10, (Nat.digitChar d == '.') = false := by decide
  have hsplit : front ++ ['.', Nat.digitChar tenths, Nat.digitChar hundredths] =
      front ++ ['.'] ++ [Nat.digitChar tenths] ++ [Nat.digitChar hundredths] := by simp
  rw [hsplit, Blank.dropTail_concat, digitChar_beq_zero hundredths hhundredths, keptPlaces]
  by_cases hlast : hundredths = 0
  · rw [if_pos (decide_eq_true hlast), if_pos hlast, Blank.dropTail_concat, digitChar_beq_zero tenths htenths]
    by_cases hfirst : tenths = 0
    · rw [if_pos (decide_eq_true hfirst), if_pos hfirst, Blank.dropTail_concat, if_neg (by decide),
        Blank.dropTail_concat, if_pos (by decide), Blank.dropTail_eq_self hfront]
      simp [Spelling.pointed]
    · rw [if_neg (by simpa using hfirst), if_neg hfirst, Blank.dropTail_concat, hpoint tenths htenths]
      simp [Spelling.pointed, digitChars]
  · rw [if_neg (by simpa using hlast), if_neg hlast, Blank.dropTail_concat, hpoint hundredths hhundredths]
    simp [Spelling.pointed, digitChars]

theorem beq_point_of_mem_front (negative : Bool) (n : Nat) :
    ∀ c ∈ (if negative then ['-'] else []) ++ digitChars (digitValues n), (c == '.') = false := by
  intro c hmem
  rcases List.mem_append.mp hmem with hsign | hdigit
  · cases negative with
    | true =>
      rw [List.mem_singleton.mp hsign]
      decide
    | false => exact absurd hsign List.not_mem_nil
  · have hc := isDigit_of_mem_digitChars (lt_ten_of_mem_digitValues n) c hdigit
    rw [beq_eq_false_iff_ne]
    rintro rfl
    exact absurd hc (by decide)

theorem weightText_finite (negative : Bool) (rank : Fin rankCount) :
    weightText (.finite negative rank) = (if negative then ['-'] else []) ++ hundredthsNumeral (hundredths rank) := by
  rw [weightText, toFixed2, hundredthsText, digitsOf_eq, ← List.append_assoc,
    dropTail_places (beq_point_of_mem_front negative _) (by omega) (by omega), List.append_assoc, hundredthsNumeral]

structure WritesHundredths (n : Nat) (fixed text : List Char) : Prop where
  /-- Both are numerals of the hundredths, the first with exactly two places. -/
  fixed_value : decimalValue? fixed = some ((n : ℚ) / 100)
  fixed_places : (fixed.dropWhile (· != '.')).length = 3
  value : decimalValue? text = some ((n : ℚ) / 100)
  whole : text.takeWhile (· != '.') = fixed.takeWhile (· != '.')
  places : (text.dropWhile (· != '.')).length ≤ 3
  no_point_last : text.getLast? ≠ some '.'
  no_zero_last : '.' ∈ text → text.getLast? ≠ some '0'

theorem splitAt_pointed {front : List Char} (hfront : ∀ c ∈ front, (c == '.') = false) (places : List Nat) :
    (front ++ Spelling.pointed places).takeWhile (· != '.') = front ∧
      (front ++ Spelling.pointed places).dropWhile (· != '.') = Spelling.pointed places := by
  have hfront' : ∀ c ∈ front, (c != '.') = true := by
    intro c hmem
    rw [bne, hfront c hmem]
    rfl
  rw [List.takeWhile_append_of_pos hfront', List.dropWhile_append_of_pos hfront', Spelling.pointed]
  split <;> simp

theorem getLast?_pointed (front : List Char) {places : List Nat} (hne : places ≠ []) :
    (front ++ Spelling.pointed places).getLast? = places.getLast?.map Nat.digitChar := by
  have hdigits : digitChars places ≠ [] := by
    rwa [digitChars, ne_eq, List.map_eq_nil_iff]
  rw [Spelling.pointed, if_neg hne, List.getLast?_append_of_ne_nil _ (List.cons_ne_nil _ _),
    List.getLast?_cons_of_ne_nil hdigits, digitChars, List.getLast?_map]

theorem getLast?_trimmed {front : List Char} (hfront : ∀ c ∈ front, (c == '.') = false) {tenths hundredths : Nat}
    (htenths : tenths < 10) (hhundredths : hundredths < 10) :
    let text := front ++ Spelling.pointed (keptPlaces tenths hundredths)
    text.getLast? ≠ some '.' ∧ ('.' ∈ text → text.getLast? ≠ some '0') := by
  obtain ⟨hlt, -, hlast⟩ := keptPlaces_spec htenths hhundredths
  generalize keptPlaces tenths hundredths = places at hlt hlast
  have hpoint : '.' ∉ front := fun hmem => absurd (hfront '.' hmem) (by decide)
  intro text
  by_cases hne : places = []
  · have htext : text = front := by
      change front ++ Spelling.pointed places = front
      rw [hne, Spelling.pointed, if_pos rfl, List.append_nil]
    rw [htext]
    exact ⟨fun h => hpoint (List.mem_of_getLast? h), fun h => absurd h hpoint⟩
  · have hdigit : ∀ c, text.getLast? = some c → ∃ d < 10, d ≠ 0 ∧ Nat.digitChar d = c := by
      intro c hc
      rw [getLast?_pointed front hne, Option.map_eq_some_iff] at hc
      obtain ⟨d, hd, rfl⟩ := hc
      exact ⟨d, hlt d (List.mem_of_getLast? hd), fun hzero => hlast (hzero ▸ hd), rfl⟩
    constructor
    · intro h
      obtain ⟨d, hd, -, hc⟩ := hdigit '.' h
      exact absurd (hc ▸ isDigit_digitChar d hd) (by decide)
    · intro _ h
      obtain ⟨d, hd, hne, hc⟩ := hdigit '0' h
      have hzero := digitChar_beq_zero d hd
      rw [hc, beq_self_eq_true] at hzero
      exact hne (of_decide_eq_true hzero.symm)

theorem writesHundredths {negative : Bool} {n : Nat} (hnegative : negative = true → n = 0) :
    WritesHundredths n ((if negative then ['-'] else []) ++ hundredthsText n)
      ((if negative then ['-'] else []) ++ hundredthsNumeral n) := by
  have htenths : n % 100 / 10 < 10 := by omega
  have hhundredths : n % 10 < 10 := by omega
  have hfixed := decimalValue?_signed negative (unsignedValue?_hundredthsText n)
  have hvalue := decimalValue?_signed negative (unsignedValue?_hundredthsNumeral n)
  have hunsigned : (if negative then -((n : ℚ) / 100) else n / 100) = n / 100 := by
    split
    · rename_i h
      rw [hnegative h]
      norm_num
    · rfl
  rw [hunsigned] at hfixed hvalue
  rw [hundredthsText, digitsOf_eq, ← List.append_assoc] at hfixed ⊢
  rw [hundredthsNumeral, ← List.append_assoc] at hvalue ⊢
  have hfront := beq_point_of_mem_front negative (n / 100)
  generalize (if negative then ['-'] else []) ++ digitChars (digitValues (n / 100)) = front at hfixed hvalue hfront ⊢
  have hboth := splitAt_pointed hfront [n % 100 / 10, n % 10]
  have hkept := splitAt_pointed hfront (keptPlaces (n % 100 / 10) (n % 10))
  obtain ⟨hpoint, hzero⟩ := getLast?_trimmed hfront htenths hhundredths
  exact {
    fixed_value := hfixed
    fixed_places := congrArg List.length hboth.2
    value := hvalue
    whole := hkept.1.trans hboth.1.symm
    places := by
      rw [hkept.2, Spelling.pointed]
      split
      · exact Nat.zero_le 3
      · rw [List.length_cons, length_digitChars]
        exact Nat.succ_le_succ (keptPlaces_spec htenths hhundredths).2.1
    no_point_last := hpoint
    no_zero_last := hzero }

theorem signed_numeral_inj {a b : Bool} {m n : Nat} :
    (if a then ['-'] else []) ++ hundredthsNumeral m = (if b then ['-'] else []) ++ hundredthsNumeral n ↔
      a = b ∧ m = n := by
  have hminus : ∀ k rest, hundredthsNumeral k ≠ '-' :: rest := by
    intro k rest h
    have hvalue := unsignedValue?_hundredthsNumeral k
    rw [h] at hvalue
    exact absurd hvalue (by simp [unsignedValue?, spanAsciiDigits])
  constructor
  · intro h
    cases a <;> cases b
    · exact ⟨rfl, hundredthsNumeral_injective h⟩
    · exact absurd h (hminus m _)
    · exact absurd h.symm (hminus n _)
    · exact ⟨rfl, hundredthsNumeral_injective (List.cons.inj h).2⟩
  · rintro ⟨rfl, rfl⟩
    rfl

theorem isNearest_hundredths (rank : Nat) : IsNearest (100 * ((units rank : ℚ) / unitsPerOne)) (hundredths rank) := by
  have hcast : 100 * ((units rank : ℚ) / unitsPerOne) = ((units rank * 100 : Nat) : ℚ) / unitsPerOne := by
    rw [mul_comm, div_mul_eq_mul_div, Nat.cast_mul, Nat.cast_ofNat]
  rw [hcast]
  exact isNearest_roundDiv _ unitsPerOne_pos

/--
The text of a weight that is not below zero is a numeral of the hundredths nearest to it, without a place that is not
needed and with its whole part unchanged. Another weight has the same text exactly if it has the same nearest hundredths
and neither of the two is the negative zero, or both are.
-/
theorem weightText_keeps_hundredths {w : Binary64} {x : ℚ} (hw : w.value? = some x) (hx : 0 ≤ x) :
    ∃ n, IsNearest (100 * x) n ∧ WritesHundredths n w.toFixed2 (weightText w) ∧
      ∀ w' x', w'.value? = some x' → 0 ≤ x' →
        (weightText w = weightText w' ↔ IsNearest (100 * x') n ∧ (w = .zero true ↔ w' = .zero true)) := by
  obtain ⟨negative, rank, rfl, rfl, hsign, hzero⟩ := finite_of_nonneg hw hx
  have hnegative : negative = true → hundredths rank = 0 := by
    intro h
    rw [hundredths, hzero h, roundDiv]
    simp
  refine ⟨hundredths rank, isNearest_hundredths rank, ?_, ?_⟩
  · rw [weightText_finite]
    exact writesHundredths hnegative
  · intro w' x' hw' hx'
    obtain ⟨negative', rank', rfl, rfl, hsign', -⟩ := finite_of_nonneg hw' hx'
    have hsame : IsNearest (100 * ((units rank' : ℚ) / unitsPerOne)) (hundredths rank) ↔
        hundredths rank = hundredths rank' := by
      constructor
      · exact fun h => h.unique (isNearest_hundredths rank')
      · intro h
        rw [h]
        exact isNearest_hundredths rank'
    rw [weightText_finite, weightText_finite, signed_numeral_inj, ← hsign, ← hsign', hsame, and_comm,
      Bool.eq_iff_iff]

/-- The number 100.625 lies half way between two hundredths and goes to the even one, as does 25759/256 from nearby. -/
theorem weightText_keeps_hundredths_half :
    let half : Binary64 := .finite false ⟨4636781271819747328, by decide⟩
    let nearby : Binary64 := .finite false ⟨4636780996941840384, by decide⟩
    (half.value? = some (805 / 8) ∧ (0 : ℚ) ≤ 805 / 8) ∧
      (nearby.value? = some (25759 / 256) ∧ (0 : ℚ) ≤ 25759 / 256) ∧
      WritesHundredths 10062 half.toFixed2 (weightText half) ∧ weightText half = weightText nearby := by
  intro half nearby
  have hhalf : half.value? = some (805 / 8) := by
    exact_mod_cast value?_of_units (by decide) (by decide +kernel)
  have hnearby : nearby.value? = some (25759 / 256) := by
    exact_mod_cast value?_of_units (by decide) (by decide +kernel)
  have hnear : IsNearest (100 * (805 / 8)) 10062 := ⟨by norm_num, by norm_num⟩
  have hnear' : IsNearest (100 * (25759 / 256)) 10062 := ⟨by norm_num, by norm_num⟩
  obtain ⟨n, hn, hwrites, hsame⟩ := weightText_keeps_hundredths hhalf (by norm_num)
  obtain rfl := hn.unique hnear
  exact ⟨⟨hhalf, by norm_num⟩, ⟨hnearby, by norm_num⟩, hwrites,
    (hsame nearby _ hnearby (by norm_num)).mpr ⟨hnear', by decide⟩⟩

/-- The two zeros have one value and so the same hundredths, but the negative one is written with its sign. -/
theorem weightText_ne_of_negative_zero :
    (zero true).value? = some 0 ∧ (zero false).value? = some 0 ∧ IsNearest (100 * 0) 0 ∧
      weightText (zero true) ≠ weightText (zero false) :=
  ⟨value?_zero true, value?_zero false, ⟨by norm_num, by norm_num⟩, by decide +kernel⟩

end Adapter

end PromptStudio
