import PromptStudio.Json.Reader
import PromptStudio.Number.Shortest

/-!
# Decimal digits

The decimal text of a natural number is a sequence of digits whose values spell the number again, that is never empty,
and that starts with a zero for zero alone. All that is written and read back as a number rests on this.
-/

namespace PromptStudio

namespace Json

/-- Digits behind a number that is already read move it up by their count. -/
theorem foldl_digits (ds : List Nat) (n : Nat) :
    ds.foldl (fun n d => 10 * n + d) n = n * Nat.pow 10 ds.length + ofDigits ds := by
  induction ds generalizing n with
  | nil => exact (Nat.mul_one n).symm
  | cons d ds ih =>
      have hcons : ofDigits (d :: ds) = d * Nat.pow 10 ds.length + ofDigits ds := by
        rw [ofDigits, List.foldl_cons, ih, Nat.mul_zero, Nat.zero_add]
      have hpow : Nat.pow 10 (d :: ds).length = 10 * Nat.pow 10 ds.length := Nat.pow_succ'
      rw [List.foldl_cons, ih, hcons, hpow, Nat.add_mul, Nat.add_assoc, Nat.mul_left_comm, Nat.mul_assoc]

theorem ofDigits_cons (d : Nat) (ds : List Nat) : ofDigits (d :: ds) = d * Nat.pow 10 ds.length + ofDigits ds := by
  rw [ofDigits, List.foldl_cons, foldl_digits, Nat.mul_zero, Nat.zero_add]

theorem ofDigits_append (as bs : List Nat) :
    ofDigits (as ++ bs) = ofDigits as * Nat.pow 10 bs.length + ofDigits bs := by
  rw [ofDigits, List.foldl_append, foldl_digits]
  rfl

theorem ofDigits_replicate_zero (count : Nat) : ofDigits (List.replicate count 0) = 0 := by
  induction count with
  | zero => rfl
  | succ count ih => exact ih

theorem ofDigits_zeros_append (count : Nat) (ds : List Nat) : ofDigits (List.replicate count 0 ++ ds) = ofDigits ds := by
  rw [ofDigits_append, ofDigits_replicate_zero, Nat.zero_mul, Nat.zero_add]

theorem ofDigits_append_zeros (ds : List Nat) (count : Nat) :
    ofDigits (ds ++ List.replicate count 0) = ofDigits ds * Nat.pow 10 count := by
  rw [ofDigits_append, ofDigits_replicate_zero, List.length_replicate, Nat.add_zero]

end Json

namespace Binary64

def digitValues (n : Nat) : List Nat :=
  (digitsOf n).map fun c => c.toNat - '0'.toNat

def digitChars (ds : List Nat) : List Char :=
  ds.map Nat.digitChar

theorem toNat_digitChar_sub {d : Nat} (h : d < 10) : (Nat.digitChar d).toNat - '0'.toNat = d :=
  Nat.toNat_digitChar_sub_48_of_lt_ten h

/-- The last digit is the remainder of ten, and what stands before it are the digits of the quotient. -/
theorem digitValues_eq_if (n : Nat) :
    digitValues n = if n < 10 then [n] else digitValues (n / 10) ++ [n % 10] := by
  rw [digitValues, digitsOf, Nat.toDigits_eq_if (by decide)]
  split
  · rename_i h
    rw [List.map_singleton, toNat_digitChar_sub h]
  · rw [List.map_append, List.map_singleton, toNat_digitChar_sub (Nat.mod_lt n (by decide))]
    rfl

theorem digitValues_ne_nil (n : Nat) : digitValues n ≠ [] := by
  rw [digitValues, ne_eq, List.map_eq_nil_iff]
  exact Nat.toDigits_ne_nil

theorem lt_ten_of_mem_digitValues (n : Nat) : ∀ d ∈ digitValues n, d < 10 := by
  induction n using Nat.strongRecOn with
  | ind n ih =>
      intro d hmem
      rw [digitValues_eq_if] at hmem
      split at hmem
      · rename_i h
        rwa [List.mem_singleton.mp hmem]
      · rcases List.mem_append.mp hmem with hfront | hlast
        · exact ih (n / 10) (by omega) d hfront
        · rw [List.mem_singleton.mp hlast]
          exact Nat.mod_lt n (by decide)

theorem ofDigits_digitValues (n : Nat) : Json.ofDigits (digitValues n) = n := by
  induction n using Nat.strongRecOn with
  | ind n ih =>
      rw [digitValues_eq_if]
      split
      · rw [Json.ofDigits, List.foldl_cons, List.foldl_nil, Nat.mul_zero, Nat.zero_add]
      · rw [Json.ofDigits_append, ih (n / 10) (by omega)]
        simp only [Json.ofDigits, List.length_singleton, Nat.pow_eq, Nat.pow_one, List.foldl_cons, List.foldl_nil]
        omega

theorem head?_digitValues {n : Nat} (hn : n ≠ 0) : (digitValues n).head? ≠ some 0 := by
  induction n using Nat.strongRecOn with
  | ind n ih =>
      rw [digitValues_eq_if]
      split
      · rw [List.head?_singleton, ne_eq, Option.some.injEq]
        exact hn
      · rw [List.head?_append, Option.or_of_isSome (List.isSome_head?.mpr (digitValues_ne_nil _))]
        exact ih (n / 10) (by omega) (by omega)

theorem digitsOf_eq (n : Nat) : digitsOf n = digitChars (digitValues n) := by
  induction n using Nat.strongRecOn with
  | ind n ih =>
      rw [digitValues_eq_if, digitsOf, Nat.toDigits_eq_if (by decide)]
      split
      · rfl
      · rw [digitChars, List.map_append, ← digitChars, ← ih (n / 10) (by omega)]
        rfl

theorem length_digitValues (n : Nat) : (digitValues n).length = (digitsOf n).length :=
  List.length_map _

@[simp] theorem length_digitChars (ds : List Nat) : (digitChars ds).length = ds.length :=
  List.length_map _

theorem digitChars_append (as bs : List Nat) : digitChars (as ++ bs) = digitChars as ++ digitChars bs :=
  List.map_append

theorem digitChars_replicate_zero (count : Nat) : digitChars (List.replicate count 0) = List.replicate count '0' :=
  List.map_replicate

end Binary64

end PromptStudio
