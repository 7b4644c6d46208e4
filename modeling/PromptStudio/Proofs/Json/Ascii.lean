import PromptStudio.Proofs.Json.RoundTrip
import PromptStudio.Proofs.Json.Stored
import PromptStudio.Proofs.Text.Utf8

/-!
# Reading back what was written in ASCII

Where only ASCII is written, a surrogate is an escape of its own, and a character past the first plane is two: the halves
of its pair. The reader takes two such escapes that stand side by side for the character, whichever of the two they were.
So it reads the joined text, and of a value the joined value.
-/

namespace PromptStudio.Json

/-! ### Units -/

def unitDigits (n : Nat) : Text :=
  [.char (hexDigit (n / 4096 % 16)), .char (hexDigit (n / 256 % 16)), .char (hexDigit (n / 16 % 16)),
    .char (hexDigit (n % 16))]

theorem unitEscape_append (n : Nat) (rest : Text) :
    (unitEscape n).map CodePoint.char ++ rest = .char '\\' :: .char 'u' :: (unitDigits n ++ rest) :=
  rfl

theorem hexUnit?_unitDigits {n : Nat} (hn : n < 0x10000) (rest : Text) :
    hexUnit? (unitDigits n ++ rest) = some (n, rest) :=
  hexUnit?_unitEscape hn rest

/-- No escape of a second half of a pair stands at the start of a text. -/
def StartsNoSecondHalf (t : Text) : Prop :=
  ∀ more low tail, t = .char '\\' :: .char 'u' :: more → hexUnit? more = some (low, tail) → low < 0xDC00 ∨ 0xDFFF < low

theorem startsNoSecondHalf_cons {p : CodePoint} (h : p ≠ .char '\\') (rest : Text) : StartsNoSecondHalf (p :: rest) := by
  intro more low tail htext _
  exact absurd (List.cons_eq_cons.mp htext).1 h

theorem unicodeEscape_scalar (rule : Rule) {n : Nat} (hn : n < 0xD800 ∨ 0xDFFF < n ∧ n < 0x10000) (rest : Text) :
    unicodeEscape rule (unitDigits n ++ rest) = some (.ofNat n, rest) := by
  rw [unicodeEscape.eq_def, hexUnit?_unitDigits (by omega)]
  simp only [Option.bind_eq_bind, Option.bind_some]
  rw [if_pos (by omega)]

theorem unicodeEscape_pair (rule : Rule) (high low : Nat) (hhigh : 0xD800 ≤ high ∧ high < 0xDC00)
    (hlow : 0xDC00 ≤ low ∧ low ≤ 0xDFFF) (rest : Text) :
    unicodeEscape rule (unitDigits high ++ ((unitEscape low).map CodePoint.char ++ rest))
      = some (.ofNat (0x10000 + 0x400 * (high - 0xD800) + (low - 0xDC00)), rest) := by
  rw [unicodeEscape.eq_def, hexUnit?_unitDigits (by omega), unitEscape_append]
  simp only [Option.bind_eq_bind, Option.bind_some, hexUnit?_unitDigits (show low < 0x10000 by omega)]
  rw [if_neg (by omega), if_pos ⟨hhigh.2, hlow⟩]

theorem unicodeEscape_lone (maxDepth : Nat) {n : Nat} (hn : 0xD800 ≤ n ∧ n ≤ 0xDFFF) (rest : Text)
    (hrest : n < 0xDC00 → StartsNoSecondHalf rest) :
    unicodeEscape (.lenient maxDepth) (unitDigits n ++ rest) = some (.ofNat n, rest) := by
  rw [unicodeEscape.eq_def, hexUnit?_unitDigits (by omega)]
  simp only [Option.bind_eq_bind, Option.bind_some]
  rw [if_neg (by omega)]
  split
  · rename_i pair hpair
    split at hpair
    · rename_i more
      split at hpair
      · rename_i low tail hread
        split at hpair
        · rename_i hhalves
          have := hrest hhalves.1 more low tail rfl hread
          omega
        · cases hpair
      · cases hpair
    · cases hpair
  · rfl

theorem startsNoSecondHalf_unit {n : Nat} (hn : n < 0xDC00 ∨ 0xDFFF < n ∧ n < 0x10000) (rest : Text) :
    StartsNoSecondHalf ((unitEscape n).map CodePoint.char ++ rest) := by
  intro more low tail htext hread
  rw [unitEscape_append, List.cons_eq_cons, List.cons_eq_cons] at htext
  rw [← htext.2.2, hexUnit?_unitDigits (by omega)] at hread
  obtain ⟨rfl, -⟩ := Prod.mk.inj (Option.some.inj hread)
  omega

variable {maxDepth : Nat}

/-! ### Code points -/

section

variable {p q c : CodePoint} (fuel : Nat) (done rest : Text)

theorem escape_of_narrow (form : Form) (hp : p.toNat ≤ 0x7E) : escape form p = escape .compact p := by
  have hnarrow : ¬ (form.asciiOnly = true ∧ 0x7E < p.toNat) := fun h => Nat.not_lt.mpr hp h.2
  have hcompact : ¬ (Form.compact.asciiOnly = true ∧ 0x7E < p.toNat) := fun h => Bool.false_ne_true h.1
  rw [escape.eq_def, escape.eq_def]
  split
  any_goals rfl
  simp only [hnarrow, hcompact]

theorem escape_of_wide (hp : 0x7E < p.toNat) : escape .ascii p = (codePointEscape p.toNat).map .char := by
  rw [escape.eq_def]
  split
  case h_8 => exact if_pos (.inr ⟨rfl, hp⟩)
  all_goals exact absurd hp (by decide)

theorem stringBody_escape_char (d : Char) :
    stringBody (.lenient maxDepth) (fuel + 1) done (escape .ascii (.char d) ++ rest)
      = stringBody (.lenient maxDepth) fuel (.char d :: done) rest := by
  have hscalar : d.toNat < 0xD800 ∨ 0xDFFF < d.toNat ∧ d.toNat < 0x110000 := d.valid
  by_cases hnarrow : d.toNat ≤ 0x7E
  · rw [escape_of_narrow (p := .char d) .ascii hnarrow]
    exact stringBody_escape (.lenient maxDepth) fuel done rfl (.char d) rest
  · rw [escape_of_wide (p := .char d) (Nat.lt_of_not_le hnarrow), CodePoint.toNat, codePointEscape]
    split
    · have hread := unicodeEscape_scalar (.lenient maxDepth) (n := d.toNat) (by omega) rest
      rw [CodePoint.ofNat_toNat_char] at hread
      exact stringBody_escaped (.lenient maxDepth) fuel done hread
    · rename_i hpast
      have hsum : 0x10000 + 0x400 * (0xD800 + (d.toNat - 0x10000) / 0x400 - 0xD800)
          + (0xDC00 + (d.toNat - 0x10000) % 0x400 - 0xDC00) = d.toNat := by omega
      have hread := unicodeEscape_pair (.lenient maxDepth) (0xD800 + (d.toNat - 0x10000) / 0x400)
        (0xDC00 + (d.toNat - 0x10000) % 0x400) (by omega) (by omega) rest
      rw [hsum, CodePoint.ofNat_toNat_char] at hread
      rw [List.map_append, List.append_assoc]
      exact stringBody_escaped (.lenient maxDepth) fuel done hread

theorem stringBody_escape_surrogate (offset : Fin 2048) (hrest : offset.val < 0x400 → StartsNoSecondHalf rest) :
    stringBody (.lenient maxDepth) (fuel + 1) done (escape .ascii (.surrogate offset) ++ rest)
      = stringBody (.lenient maxDepth) fuel (.surrogate offset :: done) rest := by
  have hoffset := offset.isLt
  have hread := unicodeEscape_lone maxDepth (n := 0xD800 + offset.val) (by omega) rest fun h => hrest (by omega)
  have hself : CodePoint.ofNat (0xD800 + offset.val) = .surrogate offset := by
    rw [CodePoint.ofNat, dif_pos (by omega)]
    simp
  rw [hself] at hread
  rw [escape_of_wide (p := .surrogate offset) (by rw [CodePoint.toNat]; omega), CodePoint.toNat, codePointEscape,
    if_pos (by omega)]
  exact stringBody_escaped (.lenient maxDepth) fuel done hread

theorem stringBody_escape_pair (h : p.pair? q = some c) :
    stringBody (.lenient maxDepth) (fuel + 1) done (escape .ascii p ++ (escape .ascii q ++ rest))
      = stringBody (.lenient maxDepth) fuel (c :: done) rest := by
  cases p with
  | char _ => cases h
  | surrogate high =>
      cases q with
      | char _ => cases h
      | surrogate low =>
          rw [CodePoint.pair?] at h
          split at h
          · rename_i hhalves
            have hlow := low.isLt
            have hread := unicodeEscape_pair (.lenient maxDepth) (0xD800 + high.val) (0xD800 + low.val) (by omega)
              (by omega) rest
            have hsum : 0x10000 + 0x400 * (0xD800 + high.val - 0xD800) + (0xD800 + low.val - 0xDC00)
                = 0x10000 + 0x400 * high.val + (low.val - 0x400) := by omega
            rw [hsum, Option.some.inj h] at hread
            rw [escape_of_wide (p := .surrogate high) (by rw [CodePoint.toNat]; omega),
              escape_of_wide (p := .surrogate low) (by rw [CodePoint.toNat]; omega), CodePoint.toNat, CodePoint.toNat,
              codePointEscape, codePointEscape, if_pos (by omega), if_pos (by omega)]
            exact stringBody_escaped (.lenient maxDepth) fuel done hread
          · cases h

theorem startsNoSecondHalf_escape (hq : ∀ offset, q = .surrogate offset → offset.val < 0x400) :
    StartsNoSecondHalf (escape .ascii q ++ rest) := by
  rw [escape.eq_def]
  split
  case h_8 hbackslash _ _ _ _ _ =>
    split
    · have hbound : q.toNat < 0xDC00 ∨ 0xDFFF < q.toNat ∧ q.toNat < 0x110000 := by
        cases q with
        | char d =>
            have hscalar : d.toNat < 0xD800 ∨ 0xDFFF < d.toNat ∧ d.toNat < 0x110000 := d.valid
            rw [CodePoint.toNat]
            omega
        | surrogate offset =>
            have hfirst := hq offset rfl
            rw [CodePoint.toNat]
            omega
      rw [codePointEscape]
      split
      · exact startsNoSecondHalf_unit (by omega) rest
      · rw [List.map_append, List.append_assoc]
        exact startsNoSecondHalf_unit (by omega) _
    · exact startsNoSecondHalf_cons hbackslash rest
  all_goals
    intro more low tail htext _
    obtain ⟨-, htail⟩ := List.cons_eq_cons.mp htext
    obtain ⟨hu, -⟩ := List.cons_eq_cons.mp htail
    exact absurd hu (by decide)

end

/-! ### Texts and values -/

/-- A code point is read by itself unless it is the first half of a pair and the second one follows. -/
theorem stringBody_escape_alone {p : CodePoint} {rest : Text}
    (hrest : ∀ offset, p = .surrogate offset → offset.val < 0x400 → StartsNoSecondHalf rest) (fuel : Nat) (done : Text) :
    stringBody (.lenient maxDepth) (fuel + 1) done (escape .ascii p ++ rest)
      = stringBody (.lenient maxDepth) fuel (p :: done) rest := by
  cases p with
  | char d => exact stringBody_escape_char fuel done rest d
  | surrogate offset => exact stringBody_escape_surrogate fuel done rest offset (hrest offset rfl)

theorem startsNoSecondHalf_of_pair?_eq_none {p q : CodePoint} (h : p.pair? q = none) (rest : Text) (high : Fin 2048)
    (hp : p = .surrogate high) (hfirst : high.val < 0x400) : StartsNoSecondHalf (escape .ascii q ++ rest) := by
  refine startsNoSecondHalf_escape rest ?_
  rintro low rfl
  rw [hp, CodePoint.pair?] at h
  split at h
  · cases h
  · omega

/-- A text that was written in ASCII is read joined. The induction follows the joining: each step of it takes one or two
code points, and the reader gives one for them. -/
theorem stringBody_ascii (t rest : Text) : ∀ (fuel : Nat) (done : Text), t.length < fuel →
    stringBody (.lenient maxDepth) fuel done (t.flatMap (escape .ascii) ++ .char '"' :: rest)
      = .ok (done.reverse ++ t.joined, rest) := by
  induction t using Text.joined.induct with
  | case1 p q tail c hpair ih =>
      intro fuel done hfuel
      obtain ⟨fuel, rfl⟩ : ∃ less, fuel = less + 1 := ⟨fuel - 1, by omega⟩
      rw [List.length_cons, List.length_cons] at hfuel
      rw [List.flatMap_cons, List.flatMap_cons, List.append_assoc, List.append_assoc, stringBody_escape_pair fuel _ _ hpair,
        ih _ _ (by omega), Text.joined_cons_of_some hpair, List.reverse_cons, List.append_assoc, List.singleton_append]
  | case2 p q tail hpair ih =>
      intro fuel done hfuel
      obtain ⟨fuel, rfl⟩ : ∃ less, fuel = less + 1 := ⟨fuel - 1, by omega⟩
      rw [List.length_cons] at hfuel
      have hnext := ih fuel (p :: done) (by omega)
      rw [List.flatMap_cons, List.append_assoc] at hnext
      rw [List.flatMap_cons, List.flatMap_cons, List.append_assoc, List.append_assoc,
        stringBody_escape_alone (startsNoSecondHalf_of_pair?_eq_none hpair _), hnext, Text.joined_cons_of_none hpair,
        List.reverse_cons, List.append_assoc,
        List.singleton_append]
  | case3 t hshort =>
      intro fuel done hfuel
      obtain ⟨fuel, rfl⟩ : ∃ less, fuel = less + 1 := ⟨fuel - 1, by omega⟩
      match t with
      | [] =>
          rw [Text.joined, List.append_nil]
          · rfl
          · exact hshort
      | [p] =>
          obtain ⟨fuel, rfl⟩ : ∃ less, fuel = less + 1 := ⟨fuel - 1, by rw [List.length_singleton] at hfuel; omega⟩
          have hquote : StartsNoSecondHalf (.char '"' :: rest) := startsNoSecondHalf_cons (by decide) rest
          rw [List.flatMap_singleton, stringBody_escape_alone (fun _ _ _ => hquote)]
          exact congrArg (fun t => Except.ok (t, rest)) List.reverse_cons
      | p :: q :: tail => exact absurd rfl (hshort p q tail)

theorem Rule.readsTexts_ascii : (Rule.lenient maxDepth).ReadsTexts .ascii Text.joined :=
  fun t rest fuel hfuel => stringBody_ascii t rest fuel [] hfuel

theorem ofText_render_ascii {v : Json} (hshort : v.hasShortIntegers = true) (hdepth : v.depth ≤ maxDepth) :
    ofText (render .ascii v) maxDepth = .ok v.joined := by
  obtain ⟨p, more, htext, hstart⟩ := head_render .ascii v
  have hread := read_render_eq Rule.readsTexts_ascii hshort hdepth
  rw [reread_joined, htext] at hread
  rw [ofText.eq_def, htext]
  split
  · rename_i hmark
    rw [(List.cons_eq_cons.mp hmark).1] at hstart
    exact absurd hstart (by decide)
  · rw [hread]
    rfl

end PromptStudio.Json
