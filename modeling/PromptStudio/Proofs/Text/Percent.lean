import Mathlib.Data.List.Infix
import PromptStudio.Text.Percent

/-!
# Percent-encoding and back

Encoded bytes come back as they were. A text that was not encoded is read as its own bytes only if no percent sign in it
has two hexadecimal digits behind it; a text that has one is read as fewer bytes.
-/

namespace PromptStudio.Percent

/-! ### Reading what was encoded -/

theorem digit?_toUpper_digitChar : ∀ d < 16, digit? (Nat.digitChar d).toUpper = some d := by
  decide

theorem unreserved_byte : ∀ b < 256, isUnreserved (Char.ofNat b) = true →
    Utf8.ofChar (Char.ofNat b) = [UInt8.ofNat b] ∧ Char.ofNat b ≠ '%' := by
  decide +kernel

def StartsEscape (cs : List Char) : Prop :=
  ∃ a b rest, cs = '%' :: a :: b :: rest ∧ (digit? a).isSome = true ∧ (digit? b).isSome = true

/-- A character at which no escape starts is read by itself. -/
theorem bytes_cons {c : Char} {cs : List Char} (h : ¬ StartsEscape (c :: cs)) :
    bytes (c :: cs) = Utf8.ofChar c ++ bytes cs := by
  rw [bytes.eq_def]
  split
  · rename_i heq
    cases heq
  · rename_i a b rest heq
    obtain ⟨rfl, rfl⟩ := List.cons.inj heq
    split
    · rename_i high low hhigh hlow
      exact absurd ⟨a, b, rest, rfl, by rw [hhigh]; rfl, by rw [hlow]; rfl⟩ h
    · rfl
  · rename_i heq
    obtain ⟨rfl, rfl⟩ := List.cons.inj heq
    rfl

theorem bytes_cons_of_ne {c : Char} (hc : c ≠ '%') (cs : List Char) :
    bytes (c :: cs) = Utf8.ofChar c ++ bytes cs := by
  refine bytes_cons ?_
  rintro ⟨a, b, rest, heq, -, -⟩
  exact hc (List.cons.inj heq).1

theorem bytes_encodeByte_append (b : UInt8) (rest : List Char) : bytes (encodeByte b ++ rest) = b :: bytes rest := by
  have hb := b.toNat_lt
  have hhigh := digit?_toUpper_digitChar (b.toNat / 16) (by omega)
  have hlow := digit?_toUpper_digitChar (b.toNat % 16) (by omega)
  have hvalue : 16 * (b.toNat / 16) + b.toNat % 16 = b.toNat := Nat.div_add_mod _ _
  change bytes ('%' :: _ :: _ :: rest) = _
  rw [bytes, hhigh, hlow]
  simp only [hvalue, UInt8.ofNat_toNat]

/-- Bytes come back from their escapes and from the unreserved characters. -/
theorem bytes_encode_append (bs : Bytes) (rest : List Char) :
    bytes (encode isUnreserved bs ++ rest) = bs ++ bytes rest := by
  induction bs with
  | nil => rfl
  | cons b bs ih =>
    rw [encode, List.flatMap_cons, ← encode, List.append_assoc]
    split
    · rename_i hkept
      obtain ⟨hone, hne⟩ := unreserved_byte b.toNat b.toNat_lt hkept
      rw [List.singleton_append, bytes_cons_of_ne hne, hone, ih, UInt8.ofNat_toNat]
      rfl
    · rw [bytes_encodeByte_append, ih]
      rfl

theorem not_mem_encode {c : Char} (hreserved : isUnreserved c = false) (hne : c ≠ '%')
    (hdigit : ∀ d < 16, (Nat.digitChar d).toUpper ≠ c) (bs : Bytes) : c ∉ encode isUnreserved bs := by
  intro hmem
  obtain ⟨b, -, hb⟩ := List.mem_flatMap.mp hmem
  split at hb
  · rename_i hkept
    rw [List.mem_singleton.mp hb, hkept] at hreserved
    cases hreserved
  · have hlt := b.toNat_lt
    simp only [encodeByte, List.mem_cons, List.not_mem_nil, or_false] at hb
    rcases hb with heq | heq | heq
    · exact hne heq
    · exact hdigit _ (by omega) heq.symm
    · exact hdigit _ (by omega) heq.symm

/-! ### Reading what was not encoded -/

def Escapes (cs : List Char) : Prop :=
  ∃ a b, ['%', a, b] <:+: cs ∧ (digit? a).isSome = true ∧ (digit? b).isSome = true

theorem not_escapes_nil : ¬ Escapes [] := by
  rintro ⟨a, b, hmiddle, -, -⟩
  exact absurd (List.infix_nil.mp hmiddle) (List.cons_ne_nil _ _)

theorem escapes_cons_iff {c : Char} {cs : List Char} : Escapes (c :: cs) ↔ StartsEscape (c :: cs) ∨ Escapes cs := by
  constructor
  · rintro ⟨a, b, hmiddle, ha, hb⟩
    rcases List.infix_cons_iff.mp hmiddle with ⟨rest, hrest⟩ | hlater
    · exact .inl ⟨a, b, rest, hrest.symm, ha, hb⟩
    · exact .inr ⟨a, b, hlater, ha, hb⟩
  · rintro (⟨a, b, rest, heq, ha, hb⟩ | ⟨a, b, hmiddle, ha, hb⟩)
    · exact ⟨a, b, heq ▸ ⟨[], rest, rfl⟩, ha, hb⟩
    · exact ⟨a, b, hmiddle.trans (List.suffix_cons c cs).isInfix, ha, hb⟩

theorem length_ofChar_pos (c : Char) : 0 < (Utf8.ofChar c).length := by
  rw [Utf8.ofChar, String.length_utf8EncodeChar]
  exact Char.utf8Size_pos c

theorem not_startsEscape_of_digits {a b : Char} (rest : List Char)
    (h : ∀ high low, digit? a = some high → digit? b = some low → False) : ¬ StartsEscape ('%' :: a :: b :: rest) := by
  rintro ⟨a', b', rest', heq, ha, hb⟩
  obtain ⟨rfl, rfl, -⟩ : a = a' ∧ b = b' ∧ rest = rest' := by simpa using heq
  obtain ⟨high, hhigh⟩ := Option.isSome_iff_exists.mp ha
  obtain ⟨low, hlow⟩ := Option.isSome_iff_exists.mp hb
  exact h high low hhigh hlow

theorem not_startsEscape_of_shape {c : Char} {cs : List Char}
    (h : ∀ a b rest, c = '%' → cs = a :: b :: rest → False) : ¬ StartsEscape (c :: cs) := by
  rintro ⟨a, b, rest, heq, -, -⟩
  obtain ⟨hc, hcs⟩ := List.cons.inj heq
  exact h a b rest hc hcs

/-- A text without an escape is read as its own bytes, and one with an escape as fewer. -/
def ReadsShorter (cs : List Char) : Prop :=
  (¬ Escapes cs ∧ bytes cs = Utf8.ofChars cs) ∨ (Escapes cs ∧ (bytes cs).length < (Utf8.ofChars cs).length)

theorem ReadsShorter.length_le {cs : List Char} (h : ReadsShorter cs) :
    (bytes cs).length ≤ (Utf8.ofChars cs).length := by
  rcases h with ⟨-, heq⟩ | ⟨-, hlt⟩
  · exact Nat.le_of_eq (congrArg List.length heq)
  · exact Nat.le_of_lt hlt

theorem ReadsShorter.cons {c : Char} {cs : List Char} (h : ReadsShorter cs) (hhead : ¬ StartsEscape (c :: cs)) :
    ReadsShorter (c :: cs) := by
  rw [ReadsShorter, escapes_cons_iff, or_iff_right hhead, bytes_cons hhead, Utf8.ofChars, List.flatMap_cons,
    ← Utf8.ofChars]
  rcases h with ⟨hplain, heq⟩ | ⟨hescapes, hlt⟩
  · exact .inl ⟨hplain, by rw [heq]⟩
  · refine .inr ⟨hescapes, ?_⟩
    rw [List.length_append, List.length_append]
    omega

theorem readsShorter (cs : List Char) : ReadsShorter cs := by
  fun_induction bytes cs with
  | case1 => exact .inl ⟨not_escapes_nil, rfl⟩
  | case2 a b rest high low hlow hhigh ih =>
    refine .inr ⟨escapes_cons_iff.mpr (.inl ⟨a, b, rest, rfl, by rw [hhigh]; rfl, by rw [hlow]; rfl⟩), ?_⟩
    have hrest := ih.length_le
    have ha := length_ofChar_pos a
    have hb := length_ofChar_pos b
    rw [bytes, hhigh, hlow]
    simp only [Utf8.ofChars, List.flatMap_cons, List.length_append, List.length_cons] at hrest ⊢
    omega
  | case3 a b rest hdigits ih => exact ih.cons (not_startsEscape_of_digits rest hdigits)
  | case4 c rest hshape ih => exact ih.cons (not_startsEscape_of_shape hshape)

theorem bytes_eq_ofChars_iff {cs : List Char} : bytes cs = Utf8.ofChars cs ↔ ¬ Escapes cs := by
  rcases readsShorter cs with ⟨hplain, heq⟩ | ⟨hescapes, hlt⟩
  · exact iff_of_true heq hplain
  · exact iff_of_false (fun heq => Nat.ne_of_lt hlt (congrArg List.length heq)) (not_not_intro hescapes)

theorem not_startsEscape_append_slash {cs : List Char} (h : ¬ StartsEscape cs) (rest : List Char) :
    ¬ StartsEscape (cs ++ '/' :: rest) := by
  have hslash : (digit? '/').isSome = false := by decide
  rintro ⟨a, b, more, heq, ha, hb⟩
  rcases cs with _ | ⟨c, _ | ⟨c', _ | ⟨c'', cs⟩⟩⟩ <;>
    simp only [List.nil_append, List.cons_append, List.cons.injEq] at heq
  · exact absurd heq.1 (by decide)
  · rw [← heq.2.1, hslash] at ha
    cases ha
  · rw [← heq.2.2.1, hslash] at hb
    cases hb
  · obtain ⟨rfl, rfl, rfl, -⟩ := heq
    exact h ⟨c', c'', cs, rfl, ha, hb⟩

theorem bytes_append_slash (cs rest : List Char) : bytes (cs ++ '/' :: rest) = bytes cs ++ bytes ('/' :: rest) := by
  fun_induction bytes cs with
  | case1 => rfl
  | case2 a b more high low hlow hhigh ih =>
    rw [List.cons_append, List.cons_append, List.cons_append, bytes, hhigh, hlow]
    exact congrArg (List.cons _) ih
  | case3 a b more hdigits ih =>
    have hhead := not_startsEscape_append_slash (not_startsEscape_of_digits more hdigits) rest
    rw [List.cons_append] at hhead ⊢
    rw [bytes_cons hhead, ih, List.append_assoc]
  | case4 c more hshape ih =>
    have hhead := not_startsEscape_append_slash (not_startsEscape_of_shape hshape) rest
    rw [List.cons_append] at hhead ⊢
    rw [bytes_cons hhead, ih, List.append_assoc]

end PromptStudio.Percent
