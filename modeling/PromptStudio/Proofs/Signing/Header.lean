import PromptStudio.Proofs.Json.Lexeme
import PromptStudio.Proofs.Json.RoundTrip
import PromptStudio.Signing.Signer
import PromptStudio.Text.Integer

/-!
# Reading back the headers of a signature

A signature is written in hexadecimal and a time in decimal. Both are read back: the digest as its bytes, the time as
itself, unless it has too many digits.
-/

namespace PromptStudio

/-! ### Hexadecimal -/

namespace Hex

theorem value?_digitChar : ∀ n < 16, value? (Nat.digitChar n) = some n := by
  decide

theorem isBlank_digitChar : ∀ n < 16, isBlank (Nat.digitChar n) = false := by
  decide

theorem decodeChars?_ofByte (b : UInt8) (rest : List Char) :
    decodeChars? (ofByte b ++ rest) = (decodeChars? rest).map (b :: ·) := by
  have hb := b.toNat_lt
  have hhigh : b.toNat / 16 < 16 := by omega
  have hlow : b.toNat % 16 < 16 := Nat.mod_lt _ (by decide)
  have hbyte : UInt8.ofNat (16 * (b.toNat / 16) + b.toNat % 16) = b := by
    rw [Nat.div_add_mod, UInt8.ofNat_toNat]
  rw [ofByte, List.cons_append, List.cons_append, List.nil_append, decodeChars?, isBlank_digitChar _ hhigh,
    value?_digitChar _ hhigh, value?_digitChar _ hlow]
  simp only [Bool.false_eq_true, if_false, Option.bind_eq_bind, Option.bind_some, hbyte]
  cases decodeChars? rest <;> rfl

theorem decodeChars?_flatMap_ofByte (bytes : Bytes) : decodeChars? (bytes.flatMap ofByte) = some bytes := by
  induction bytes with
  | nil => rfl
  | cons b bytes ih =>
      rw [List.flatMap_cons, decodeChars?_ofByte, ih]
      rfl

theorem decode?_encode (bytes : Bytes) : decode? (encode bytes : String) = some bytes := by
  rw [decode?, Text.ofString, Text.toChars?_map_char, encode, String.toList_ofList]
  exact decodeChars?_flatMap_ofByte bytes

theorem ofString_encode_ne_nil {bytes : Bytes} (h : 0 < bytes.length) : Text.ofString (encode bytes) ≠ [] := by
  obtain ⟨b, rest, rfl⟩ := List.exists_cons_of_length_pos h
  rw [Text.ofString, encode, String.toList_ofList, List.flatMap_cons, ofByte]
  exact List.cons_ne_nil _ _

end Hex

/-! ### Decimal -/

namespace Integer

open Binary64 (digitChars digitValues)

theorem value?_digitChar : ∀ d < 10, Digit.value? (Nat.digitChar d) = some d := by
  decide

theorem isMargin_digitChar : ∀ d < 10, isMargin (Nat.digitChar d) = false := by
  decide

theorem digits?_digitChars {ds : List Nat} (hlt : ∀ d ∈ ds, d < 10) {needed : Bool} (hne : needed = true → ds ≠ []) :
    digits? needed (digitChars ds) = some ds := by
  induction ds generalizing needed with
  | nil =>
      cases needed with
      | false => rfl
      | true => exact absurd rfl (hne rfl)
  | cons d ds ih =>
      rw [List.forall_mem_cons] at hlt
      have hmark : ∀ d < 10, Nat.digitChar d ≠ '_' := by decide
      have hrest : digits? false (digitChars ds) = some ds := ih hlt.2 (fun h => absurd h Bool.false_ne_true)
      rw [digitChars, List.map_cons, digits?, if_neg (hmark d hlt.1), value?_digitChar d hlt.1, ← digitChars, hrest]
      rfl

theorem magnitude?_digitChars {ds : List Nat} (hlt : ∀ d ∈ ds, d < 10) (hne : ds ≠ [])
    (hshort : ds.length ≤ maxDigits) : magnitude? (digitChars ds) = some (Json.ofDigits ds) := by
  rw [magnitude?, digits?_digitChars hlt fun _ => hne]
  simp only [if_pos hshort]
  rfl

/-- Without blanks at its ends a text stays as it is. -/
theorem stripped_eq_self {cs : List Char} (h : ∀ c ∈ cs, isMargin c = false) : stripped cs = cs := by
  have hdrop : ∀ cs : List Char, (∀ c ∈ cs, isMargin c = false) → cs.dropWhile isMargin = cs := by
    intro cs hcs
    cases cs with
    | nil => rfl
    | cons c cs =>
        rw [List.dropWhile_cons_of_neg]
        rw [hcs c List.mem_cons_self]
        exact Bool.false_ne_true
  rw [stripped, Blank.trimBoth, Blank.dropTail, hdrop cs h, hdrop cs.reverse, List.reverse_reverse]
  intro c hc
  exact h c (List.mem_reverse.mp hc)

theorem isMargin_digitChars {ds : List Nat} (hlt : ∀ d ∈ ds, d < 10) : ∀ c ∈ digitChars ds, isMargin c = false := by
  intro c hc
  obtain ⟨d, hd, rfl⟩ := List.mem_map.mp hc
  exact isMargin_digitChar d (hlt d hd)

/-- An integer that is not too long is read back from its digits. -/
theorem ofChars?_intText {n : Int} (hshort : Json.isShort n = true) : ofChars? (Json.intText n) = some n := by
  have hlt := Binary64.lt_ten_of_mem_digitValues n.natAbs
  have hne := Binary64.digitValues_ne_nil n.natAbs
  have hmargin := isMargin_digitChars hlt
  rw [Json.isShort, decide_eq_true_eq, ← Binary64.length_digitValues] at hshort
  have hmagnitude := magnitude?_digitChars hlt hne hshort
  rw [Binary64.ofDigits_digitValues] at hmagnitude
  rw [Json.intText, Binary64.digitsOf_eq]
  split
  · have hstripped := stripped_eq_self (List.forall_mem_cons.mpr ⟨by decide, hmargin⟩ :
      ∀ c ∈ '-' :: digitChars (digitValues n.natAbs), isMargin c = false)
    rw [ofChars?, hstripped]
    simp only [hmagnitude, Option.bind_eq_bind, Option.bind_some, Option.pure_def, Option.map_some, Option.some.injEq]
    omega
  · have hsign : ∀ d < 10, Nat.digitChar d ≠ '-' ∧ Nat.digitChar d ≠ '+' := by decide
    obtain ⟨d, ds, hds⟩ := List.exists_cons_of_ne_nil hne
    have hd := hsign d (hlt d (hds ▸ List.mem_cons_self))
    have htext : digitChars (digitValues n.natAbs) = Nat.digitChar d :: digitChars ds := by
      rw [hds]
      rfl
    rw [ofChars?, stripped_eq_self hmargin]
    split
    · rename_i hminus
      rw [htext] at hminus
      exact absurd (List.cons_eq_cons.mp hminus).1 hd.1
    · rename_i hplus
      rw [htext] at hplus
      exact absurd (List.cons_eq_cons.mp hplus).1 hd.2
    · rw [hmagnitude, Option.map_some]
      congr 1
      change (n.natAbs : Int) = n
      omega

theorem intShown_ne_nil (n : Int) : Json.intShown n ≠ [] := by
  have hne := Binary64.digitValues_ne_nil n.natAbs
  rw [Json.intShown_eq]
  refine List.append_ne_nil_of_right_ne_nil _ ?_
  rw [Json.digitText, digitChars, List.map_map]
  exact mt List.map_eq_nil_iff.mp hne

theorem ofChars?_intShown {n : Int} (hshort : Json.isShort n = true) :
    (Json.intShown n).toChars?.bind ofChars? = some n := by
  rw [Json.intShown, Text.toChars?_map_char, Option.bind_some, ofChars?_intText hshort]

end Integer

end PromptStudio
