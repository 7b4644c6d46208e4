import PromptStudio.Json.Printer
import PromptStudio.Json.Reader
import PromptStudio.Proofs.Number.Spelling
import PromptStudio.Proofs.Text.Utf8

/-!
# Reading back numbers, strings and words

The leaves of the written form of a value, each read back from in front of any rest. A string ends at its quote, since
every quote inside it is escaped; a number ends where the rest cannot go on with it, which `EndsNumber` says of the
rest. The form may leave gaps or not, but it writes characters as they are.
-/

namespace PromptStudio.Json

open Binary64 (digitChars digitValues digitsOf Spelling)

/-! ### Digits -/

def digitText (ds : List Nat) : Text :=
  (digitChars ds).map .char

theorem digitValue?_digitChar : ∀ d < 10, digitValue? (.char (Nat.digitChar d)) = some d := by
  decide

def EndsDigits (rest : Text) : Prop :=
  ∀ p more, rest = p :: more → digitValue? p = none

def EndsNumber (rest : Text) : Prop :=
  ∀ p more, rest = p :: more → digitValue? p = none ∧ p ≠ .char '.' ∧ p ≠ .char 'e' ∧ p ≠ .char 'E'

theorem EndsNumber.digits {rest : Text} (h : EndsNumber rest) : EndsDigits rest :=
  fun p more hrest => (h p more hrest).1

theorem endsDigits_cons {p : CodePoint} (h : digitValue? p = none) (more : Text) : EndsDigits (p :: more) := by
  intro q tail hcons
  rw [← (List.cons_eq_cons.mp hcons).1]
  exact h

theorem spanDigits_digitText {ds : List Nat} (hlt : ∀ d ∈ ds, d < 10) {rest : Text} (hrest : EndsDigits rest) :
    spanDigits (digitText ds ++ rest) = (ds, rest) := by
  induction ds with
  | nil =>
      change spanDigits rest = ([], rest)
      cases rest with
      | nil => rfl
      | cons p more =>
          rw [spanDigits, hrest p more rfl]
  | cons d ds ih =>
      rw [List.forall_mem_cons] at hlt
      change spanDigits (.char (Nat.digitChar d) :: (digitText ds ++ rest)) = (d :: ds, rest)
      rw [spanDigits, digitValue?_digitChar d hlt.1, ih hlt.2]

/-! ### Numbers -/

theorem wholeDigits?_digitText {ds : List Nat} (hlt : ∀ d ∈ ds, d < 10) (hne : ds ≠ [])
    (hleading : ds = [0] ∨ ds.head? ≠ some 0) {rest : Text} (hrest : EndsDigits rest) :
    wholeDigits? (digitText ds ++ rest) = some (ds, rest) := by
  have hspan := spanDigits_digitText hlt hrest
  rcases hleading with rfl | hhead
  · rfl
  · cases ds with
    | nil => exact absurd rfl hne
    | cons d ds =>
        have hzero : Nat.digitChar d ≠ '0' := by
          intro h
          have hd := Nat.digitChar_eq_zero.mp h
          exact hhead (congrArg some hd)
        rw [wholeDigits?.eq_def]
        split
        · rename_i hstart
          exact absurd (CodePoint.char.inj (List.cons_eq_cons.mp hstart).1) hzero
        · rw [hspan]

theorem fraction_pointed {places : List Nat} (hlt : ∀ d ∈ places, d < 10) {rest : Text} (hrest : EndsDigits rest)
    (hpoint : ∀ more, rest ≠ .char '.' :: more) :
    fraction ((Spelling.pointed places).map .char ++ rest) = (places, rest) := by
  rw [Spelling.pointed]
  split
  · rename_i hnil
    rw [hnil, List.map_nil, List.nil_append, fraction.eq_def]
    split
    · exact absurd rfl (hpoint _)
    · rfl
  · rename_i hne
    have hspan := spanDigits_digitText hlt hrest
    change fraction (.char '.' :: (digitText places ++ rest)) = (places, rest)
    rw [fraction, hspan]
    split
    · rename_i hempty
      exact absurd (Prod.mk.inj hempty).1 hne
    · rfl

theorem exponent?_of_endsNumber {rest : Text} (hrest : EndsNumber rest) : exponent? rest = none := by
  cases rest with
  | nil => rfl
  | cons p more =>
      obtain ⟨-, -, hlower, hupper⟩ := hrest p more rfl
      cases p with
      | surrogate offset => rfl
      | char c =>
          rw [exponent?.eq_def]
          refine if_neg ?_
          rintro (rfl | rfl)
          · exact hlower rfl
          · exact hupper rfl

theorem exponent?_mark {negative : Bool} {ds : List Nat} (hne : ds ≠ []) (hlt : ∀ d ∈ ds, d < 10) {rest : Text}
    (hrest : EndsNumber rest) :
    exponent? ((Spelling.mark (some (negative, ds))).map .char ++ rest)
      = some (Spelling.written (some (negative, ds)), rest) := by
  obtain ⟨d, ds, rfl⟩ := List.exists_cons_of_ne_nil hne
  have hspan := spanDigits_digitText hlt hrest.digits
  cases negative
  · change exponent? (.char 'e' :: .char '+' :: (digitText (d :: ds) ++ rest)) = _
    rw [exponent?]
    simp only [true_or, if_true, hspan]
    rfl
  · change exponent? (.char 'e' :: .char '-' :: (digitText (d :: ds) ++ rest)) = _
    rw [exponent?]
    simp only [true_or, if_true, hspan]
    rfl

def signed (negative : Bool) (n : Nat) : Int :=
  if negative then -(n : Int) else n

/-- Digits in front of what does not go on with a number are an integer, unless there are too many of them. -/
theorem number_digitText (rule : Rule) (negative : Bool) {ds : List Nat} (hlt : ∀ d ∈ ds, d < 10) (hne : ds ≠ [])
    (hleading : ds = [0] ∨ ds.head? ≠ some 0) (hshort : ds.length ≤ maxIntegerDigits) {rest : Text}
    (hrest : EndsNumber rest) :
    number rule negative (digitText ds ++ rest) = .ok (.int (signed negative (ofDigits ds)), rest) := by
  have hpoint : ∀ more, rest ≠ .char '.' :: more := by
    rintro more rfl
    exact (hrest _ more rfl).2.1 rfl
  have hfraction : fraction rest = ([], rest) := @fraction_pointed [] (by simp) rest hrest.digits hpoint
  rw [number, wholeDigits?_digitText hlt hne hleading hrest.digits]
  simp only [hfraction, exponent?_of_endsNumber hrest, if_neg (Nat.not_lt.mpr hshort)]
  rfl

theorem mark_append_head (power : Option (Bool × List Nat)) {rest : Text} (hrest : EndsNumber rest) :
    EndsDigits ((Spelling.mark power).map .char ++ rest) ∧
      ∀ more, (Spelling.mark power).map .char ++ rest ≠ .char '.' :: more := by
  cases power with
  | none =>
      refine ⟨hrest.digits, ?_⟩
      rintro more rfl
      exact (hrest _ more rfl).2.1 rfl
  | some power =>
      refine ⟨endsDigits_cons rfl _, ?_⟩
      intro more h
      exact absurd (List.cons_eq_cons.mp h).1 (by decide)

theorem endsDigits_pointed (places : List Nat) {rest : Text} (hrest : EndsDigits rest) :
    EndsDigits ((Spelling.pointed places).map .char ++ rest) := by
  rw [Spelling.pointed]
  split
  · exact hrest
  · exact endsDigits_cons rfl _

theorem spelling_chars_append (s : Spelling) (rest : Text) :
    s.chars.map .char ++ rest
      = digitText s.whole ++ ((Spelling.pointed s.places).map .char ++ ((Spelling.mark s.power).map .char ++ rest)) := by
  rw [Spelling.chars, List.map_append, List.map_append, List.append_assoc, List.append_assoc, digitText]

theorem number_spelling (rule : Rule) (negative : Bool) {s : Spelling} (hs : s.WellFormed) {rest : Text}
    (hrest : EndsNumber rest) :
    number rule negative (s.chars.map .char ++ rest)
      = .ok (.float (.ofDecimal negative s.numeral.digits s.numeral.exponent), rest) := by
  obtain ⟨whole, places, power⟩ := s
  obtain ⟨hdigits, hpoint⟩ := mark_append_head power hrest
  have hshort : ¬ maxIntegerDigits < whole.length := by
    have hlength : whole.length ≤ 16 := hs.short
    rw [maxIntegerDigits]
    omega
  rw [spelling_chars_append, number,
    wholeDigits?_digitText hs.whole_lt hs.whole_ne_nil hs.leading (endsDigits_pointed places hdigits)]
  simp only [fraction_pointed hs.places_lt hdigits hpoint, hshort, decide_false, Bool.and_false, Bool.false_eq_true,
    if_false]
  cases power with
  | none =>
      obtain ⟨p, places, rfl⟩ := List.exists_cons_of_ne_nil (hs.broken.resolve_right (by simp))
      have hnone : exponent? ((Spelling.mark none).map .char ++ rest) = none := exponent?_of_endsNumber hrest
      rw [hnone]
      rfl
  | some power =>
      obtain ⟨negativePower, ds⟩ := power
      obtain ⟨hne, hlt⟩ := hs.power_lt negativePower ds rfl
      rw [exponent?_mark hne hlt hrest]
      cases places <;> rfl

/-! ### Integers and floats -/

section

variable (rule : Rule) (fuel depth : Nat)

theorem value_digit {d : Nat} (hd : d < 10) (more : Text) :
    value rule (fuel + 1) depth (.char (Nat.digitChar d) :: more)
      = number rule false (.char (Nat.digitChar d) :: more) := by
  obtain rfl | rfl | rfl | rfl | rfl | rfl | rfl | rfl | rfl | rfl :
    d = 0 ∨ d = 1 ∨ d = 2 ∨ d = 3 ∨ d = 4 ∨ d = 5 ∨ d = 6 ∨ d = 7 ∨ d = 8 ∨ d = 9 := by omega
  all_goals rfl

theorem value_minus_digit {d : Nat} (hd : d < 10) (more : Text) :
    value rule (fuel + 1) depth (.char '-' :: .char (Nat.digitChar d) :: more)
      = number rule true (.char (Nat.digitChar d) :: more) := by
  obtain rfl | rfl | rfl | rfl | rfl | rfl | rfl | rfl | rfl | rfl :
    d = 0 ∨ d = 1 ∨ d = 2 ∨ d = 3 ∨ d = 4 ∨ d = 5 ∨ d = 6 ∨ d = 7 ∨ d = 8 ∨ d = 9 := by omega
  all_goals rfl

theorem value_signed_digits (negative : Bool) {ds : List Nat} (hlt : ∀ d ∈ ds, d < 10) (hne : ds ≠ []) (more : Text) :
    value rule (fuel + 1) depth ((if negative then [.char '-'] else []) ++ (digitText ds ++ more))
      = number rule negative (digitText ds ++ more) := by
  obtain ⟨d, ds, rfl⟩ := List.exists_cons_of_ne_nil hne
  have hd : d < 10 := hlt d List.mem_cons_self
  cases negative
  · exact value_digit rule fuel depth hd _
  · exact value_minus_digit rule fuel depth hd _

theorem intShown_eq (n : Int) :
    intShown n = (if n < 0 then [.char '-'] else []) ++ digitText (digitValues n.natAbs) := by
  rw [intShown, intText, Binary64.digitsOf_eq]
  split <;> rfl

theorem value_intShown {n : Int} (hshort : (digitsOf n.natAbs).length ≤ maxIntegerDigits) {rest : Text}
    (hrest : EndsNumber rest) : value rule (fuel + 1) depth (intShown n ++ rest) = .ok (.int n, rest) := by
  have hlt := Binary64.lt_ten_of_mem_digitValues n.natAbs
  have hne := Binary64.digitValues_ne_nil n.natAbs
  have hleading : digitValues n.natAbs = [0] ∨ (digitValues n.natAbs).head? ≠ some 0 := by
    by_cases hzero : n.natAbs = 0
    · rw [hzero]
      exact .inl rfl
    · exact .inr (Binary64.head?_digitValues hzero)
  rw [← Binary64.length_digitValues] at hshort
  have hsigned : signed (decide (n < 0)) n.natAbs = n := by
    rw [signed]
    simp only [decide_eq_true_eq]
    split <;> omega
  have hread := value_signed_digits rule fuel depth (decide (n < 0)) hlt hne rest
  rw [number_digitText rule _ hlt hne hleading hshort hrest, Binary64.ofDigits_digitValues, hsigned] at hread
  rw [intShown_eq, List.append_assoc]
  simpa only [decide_eq_true_eq] using hread

theorem floatText_finite (negative : Bool) (rank : Fin Binary64.rankCount) (rest : Text) :
    (floatText (.finite negative rank)).map .char ++ rest
      = (if negative then [.char '-'] else []) ++ ((Binary64.spelling rank.val).chars.map .char ++ rest) := by
  have hchars : floatText (.finite negative rank) = (if negative then ['-'] else []) ++ Binary64.magnitudeText rank :=
    rfl
  rw [hchars, Binary64.magnitudeText_eq, List.map_append, List.append_assoc]
  cases negative <;> rfl

/-- A float is read back: an infinity and the number that is none by their names. -/
theorem value_floatText (x : Binary64) {rest : Text} (hrest : EndsNumber rest) :
    value rule (fuel + 1) depth ((floatText x).map .char ++ rest) = .ok (.float x, rest) := by
  match x with
  | .nan => rfl
  | .infinite true => rfl
  | .infinite false => rfl
  | .finite negative rank =>
      have hs := Binary64.wellFormed_spelling rank.val
      have hnumber := number_spelling rule negative hs hrest
      rw [Binary64.ofDecimal_spelling] at hnumber
      rw [← hnumber, floatText_finite, spelling_chars_append]
      exact value_signed_digits rule fuel depth negative hs.whole_lt hs.whole_ne_nil _

end

/-! ### Strings -/

theorem hexValue?_hexDigit : ∀ n < 16, hexValue? (.char (hexDigit n)) = some n := by
  decide

theorem hexUnit?_unitEscape {n : Nat} (hn : n < 0x10000) (rest : Text) :
    hexUnit? (.char (hexDigit (n / 4096 % 16)) :: .char (hexDigit (n / 256 % 16)) :: .char (hexDigit (n / 16 % 16)) ::
      .char (hexDigit (n % 16)) :: rest) = some (n, rest) := by
  have hvalue := fun m => hexValue?_hexDigit (m % 16) (Nat.mod_lt m (by decide))
  have hsum : 4096 * (n / 4096 % 16) + 256 * (n / 256 % 16) + 16 * (n / 16 % 16) + n % 16 = n := by omega
  rw [hexUnit?, hvalue, hvalue, hvalue, hvalue]
  simp only [Option.bind_eq_bind, Option.bind_some, hsum]

theorem escaped_unitEscape (rule : Rule) {c : Char} (hc : c.toNat < 0x20) (rest : Text) :
    ∃ more, (codePointEscape c.toNat).map CodePoint.char ++ rest = .char '\\' :: more ∧
      escaped rule more = some (.char c, rest) := by
  have hread := hexUnit?_unitEscape (n := c.toNat) (by omega) rest
  refine ⟨.char 'u' :: (.char (hexDigit (c.toNat / 4096 % 16)) :: .char (hexDigit (c.toNat / 256 % 16)) ::
    .char (hexDigit (c.toNat / 16 % 16)) :: .char (hexDigit (c.toNat % 16)) :: rest), ?_, ?_⟩
  · rw [codePointEscape, if_pos (by omega)]
    rfl
  · rw [escaped, unicodeEscape.eq_def, hread]
    simp only [Option.bind_eq_bind, Option.bind_some]
    rw [if_pos (by omega), CodePoint.ofNat_toNat_char]

section

variable {form : Form} (rule : Rule) (fuel : Nat) (done : Text)

theorem stringBody_escaped {t rest : Text} {p : CodePoint} (h : escaped rule t = some (p, rest)) :
    stringBody rule (fuel + 1) done (.char '\\' :: t) = stringBody rule fuel (p :: done) rest := by
  rw [stringBody]
  simp only [h]

theorem stringBody_plain {p : CodePoint} (hquote : p ≠ .char '"') (hbackslash : p ≠ .char '\\')
    (hplain : ¬ p.toNat < 0x20) (rest : Text) :
    stringBody rule (fuel + 1) done (p :: rest) = stringBody rule fuel (p :: done) rest := by
  rw [stringBody, if_neg hplain]
  · exact hquote
  · exact hbackslash

/-- One code point of a string is read back, whichever way it is written. -/
theorem stringBody_escape (hform : form.asciiOnly = false) (p : CodePoint) (rest : Text) :
    stringBody rule (fuel + 1) done (escape form p ++ rest) = stringBody rule fuel (p :: done) rest := by
  rw [escape.eq_def]
  split
  any_goals exact stringBody_escaped rule fuel done rfl
  rename_i hquote hbackslash _ _ _ _ _
  split
  · rename_i hcontrol
    simp only [hform, Bool.false_eq_true, false_and, or_false] at hcontrol
    cases p with
    | surrogate offset =>
        rw [CodePoint.toNat] at hcontrol
        omega
    | char c =>
        obtain ⟨more, htext, hread⟩ := escaped_unitEscape rule hcontrol rest
        rw [CodePoint.toNat, htext]
        exact stringBody_escaped rule fuel done hread
  · rename_i hplain
    rw [not_or] at hplain
    exact stringBody_plain rule fuel done hquote hbackslash hplain.1 rest

end

/-- The whole body of a string is read back, a step for every code point and one for the closing quote. -/
theorem stringBody_flatMap_escape {form : Form} (rule : Rule) (hform : form.asciiOnly = false) (t rest : Text) :
    ∀ (fuel : Nat) (done : Text), t.length < fuel →
      stringBody rule fuel done (t.flatMap (escape form) ++ .char '"' :: rest) = .ok (done.reverse ++ t, rest) := by
  induction t with
  | nil =>
      intro fuel done hfuel
      obtain ⟨fuel, rfl⟩ := Nat.exists_eq_add_of_lt hfuel
      rw [List.append_nil]
      rfl
  | cons p t ih =>
      intro fuel done hfuel
      obtain ⟨fuel, rfl⟩ := Nat.exists_eq_add_of_lt (Nat.zero_lt_of_lt hfuel)
      have hrest : t.length < fuel := by
        rw [List.length_cons] at hfuel
        omega
      rw [Nat.zero_add, List.flatMap_cons, List.append_assoc, stringBody_escape rule fuel done hform, ih _ _ hrest,
        List.reverse_cons, List.append_assoc, List.singleton_append]

theorem length_escape_pos (form : Form) (p : CodePoint) : 0 < (escape form p).length := by
  rw [escape.eq_def]
  split
  any_goals decide
  split
  · rw [codePointEscape]
    split <;> exact Nat.succ_pos _
  · exact Nat.one_pos

theorem length_add_two_le_quoted (form : Form) (t : Text) : t.length + 2 ≤ (quoted form t).length := by
  have hbody : t.length ≤ (t.flatMap (escape form)).length := by
    induction t with
    | nil => exact Nat.le_refl 0
    | cons p t ih =>
        have hp := length_escape_pos form p
        rw [List.flatMap_cons, List.length_append, List.length_cons]
        omega
  rw [quoted, List.length_cons, List.length_append, List.length_singleton]
  omega

end PromptStudio.Json
