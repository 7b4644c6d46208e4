import Mathlib.Logic.Function.Basic
import PromptStudio.Text.Encoding

/-!
# Reading back UTF-8

The bytes of a character take the decoder from between two characters to behind this one, whatever it has read before.
So the bytes of a text are read back as the text, and two texts with the same bytes are one text. A decoder that lets no
surrogate through gives a text without any.
-/

namespace PromptStudio

theorem CodePoint.ofNat_toNat_char (c : Char) : ofNat c.toNat = .char c := by
  have hscalar : c.toNat < 0xD800 ∨ 0xDFFF < c.toNat ∧ c.toNat < 0x110000 := c.valid
  rw [ofNat, dif_neg (by omega), if_pos (by omega), Char.ofNat_toNat]

theorem Text.toChars?_eq_some {t : Text} {cs : List Char} : t.toChars? = some cs ↔ t = cs.map .char := by
  constructor
  · intro h
    induction t generalizing cs with
    | nil =>
        obtain rfl : cs = [] := (Option.some.inj h).symm
        rfl
    | cons p t ih =>
        cases p with
        | surrogate offset => cases h
        | char c =>
            rw [toChars?, List.mapM_cons, Option.bind_eq_bind, Option.bind_eq_some_iff] at h
            obtain ⟨c', hc, htail⟩ := h
            rw [Option.bind_eq_bind, Option.bind_eq_some_iff] at htail
            obtain ⟨cs', hcs, hcons⟩ := htail
            obtain rfl : c = c' := Option.some.inj hc
            obtain rfl : c :: cs' = cs := Option.some.inj hcons
            rw [ih hcs, List.map_cons]
  · rintro rfl
    exact toChars?_map_char cs

namespace Utf8

section

variable (surrogates : Bool) (points : List (Option CodePoint))

/-! ### One byte -/

theorem step_start {b : Nat} (hb : b < 256) :
    step surrogates ⟨points, .start⟩ (UInt8.ofNat b) = lead surrogates points b := by
  rw [step, UInt8.toNat_ofNat_of_lt' hb]

theorem step_inside_more {b bits owed low high : Nat} (hb : b < 256) (hlow : low ≤ b) (hhigh : b ≤ high)
    (howed : 1 < owed) :
    step surrogates ⟨points, .inside bits owed low high⟩ (UInt8.ofNat b)
      = ⟨points, .inside (64 * bits + (b - 0x80)) (owed - 1) 0x80 0xBF⟩ := by
  rw [step, UInt8.toNat_ofNat_of_lt' hb]
  simp only [if_pos (And.intro hlow hhigh), if_neg (Nat.not_le.mpr howed)]

theorem step_inside_last {b bits low high : Nat} (hb : b < 256) (hlow : low ≤ b) (hhigh : b ≤ high) :
    step surrogates ⟨points, .inside bits 1 low high⟩ (UInt8.ofNat b)
      = ⟨some (.ofNat (64 * bits + (b - 0x80))) :: points, .start⟩ := by
  rw [step, UInt8.toNat_ofNat_of_lt' hb]
  simp only [if_pos (And.intro hlow hhigh), Nat.le_refl, if_true]

/-! ### The first byte of a sequence -/

theorem lead_one {b : Nat} (hb : b ≤ 0x7F) : lead surrogates points b = ⟨some (.ofNat b) :: points, .start⟩ := by
  rw [lead, if_pos (by omega)]

theorem lead_two {n : Nat} (hlow : 0x7F < n) (hhigh : n ≤ 0x7FF) :
    lead surrogates points (n / 64 % 32 + 192) = ⟨points, .inside (n / 64) 1 0x80 0xBF⟩ := by
  have hbits : n / 64 % 32 + 192 - 0xC0 = n / 64 := by omega
  rw [lead, if_neg (by omega), if_pos (by omega), hbits]

/-- The first of three bytes, and the bounds of the next; what the bounds exclude are surrogates and shorter forms. -/
theorem lead_three {n : Nat} (hlow : 0x7FF < n) (hhigh : n ≤ 0xFFFF) (hscalar : n < 0xD800 ∨ 0xDFFF < n) :
    ∃ low high, low ≤ n / 64 % 64 + 128 ∧ n / 64 % 64 + 128 ≤ high ∧
      lead surrogates points (n / 4096 % 16 + 224) = ⟨points, .inside (n / 4096) 2 low high⟩ := by
  have hbits : n / 4096 % 16 + 224 - 0xE0 = n / 4096 := by omega
  rw [lead, if_neg (by omega), if_neg (by omega)]
  by_cases hfirst : n / 4096 = 0
  · exact ⟨0xA0, 0xBF, by omega, by omega, by rw [if_pos (by omega), hfirst]⟩
  · rw [if_neg (by omega)]
    by_cases hgap : n / 4096 = 0xD
    · exact ⟨0x80, if surrogates then 0xBF else 0x9F, by omega, by split <;> omega, by rw [if_pos (by omega), hgap]⟩
    · exact ⟨0x80, 0xBF, by omega, by omega, by rw [if_neg (by omega), if_pos (by omega), hbits]⟩

/-- The first of four bytes, and the bounds of the next; what the bounds exclude are shorter forms and no characters. -/
theorem lead_four {n : Nat} (hlow : 0xFFFF < n) (hhigh : n < 0x110000) :
    ∃ low high, low ≤ n / 4096 % 64 + 128 ∧ n / 4096 % 64 + 128 ≤ high ∧
      lead surrogates points (n / 262144 % 8 + 240) = ⟨points, .inside (n / 262144) 3 low high⟩ := by
  have hbits : n / 262144 % 8 + 240 - 0xF0 = n / 262144 := by omega
  rw [lead, if_neg (by omega), if_neg (by omega), if_neg (by omega), if_neg (by omega), if_neg (by omega)]
  by_cases hfirst : n / 262144 = 0
  · exact ⟨0x90, 0xBF, by omega, by omega, by rw [if_pos (by omega), hfirst]⟩
  · rw [if_neg (by omega)]
    by_cases hlast : n / 262144 = 4
    · exact ⟨0x80, 0x8F, by omega, by omega, by rw [if_neg (by omega), if_pos (by omega), hlast]⟩
    · exact ⟨0x80, 0xBF, by omega, by omega, by rw [if_pos (by omega), hbits]⟩

/-! ### Characters and texts -/

theorem foldl_step_ofChar (c : Char) :
    (ofChar c).foldl (step surrogates) ⟨points, .start⟩ = ⟨some (.char c) :: points, .start⟩ := by
  have hscalar : c.toNat < 0xD800 ∨ 0xDFFF < c.toNat ∧ c.toNat < 0x110000 := c.valid
  -- By the number of the character from here on: the four lengths are bounds on it, the bits are its quotients.
  rw [← CodePoint.ofNat_toNat_char c, ofChar, String.utf8EncodeChar]
  change List.foldl _ _ (if c.toNat ≤ 127 then _ else _) = _
  have hnat : c.val.toNat = c.toNat := rfl
  simp only [hnat]
  generalize c.toNat = n at hscalar ⊢
  split
  · rw [List.foldl_cons, List.foldl_nil, step_start _ _ (by omega), lead_one _ _ (by omega)]
  split
  · rw [List.foldl_cons, List.foldl_cons, List.foldl_nil, step_start _ _ (by omega),
      lead_two _ _ (by omega) (by omega), step_inside_last _ _ (by omega) (by omega) (by omega)]
    have hbits : 64 * (n / 64) + (n % 64 + 128 - 0x80) = n := by omega
    rw [hbits]
  split
  · obtain ⟨low, high, hlow, hhigh, hlead⟩ := lead_three surrogates points (n := n) (by omega) (by omega) (by omega)
    rw [List.foldl_cons, List.foldl_cons, List.foldl_cons, List.foldl_nil, step_start _ _ (by omega), hlead,
      step_inside_more _ _ (by omega) hlow hhigh (by omega), step_inside_last _ _ (by omega) (by omega) (by omega)]
    have hbits : 64 * (64 * (n / 4096) + (n / 64 % 64 + 128 - 0x80)) + (n % 64 + 128 - 0x80) = n := by omega
    rw [hbits]
  · obtain ⟨low, high, hlow, hhigh, hlead⟩ := lead_four surrogates points (n := n) (by omega) (by omega)
    rw [List.foldl_cons, List.foldl_cons, List.foldl_cons, List.foldl_cons, List.foldl_nil, step_start _ _ (by omega),
      hlead, step_inside_more _ _ (by omega) hlow hhigh (by omega),
      step_inside_more _ _ (by omega) (by omega) (by omega) (by omega),
      step_inside_last _ _ (by omega) (by omega) (by omega)]
    have hbits : 64 * (64 * (64 * (n / 262144) + (n / 4096 % 64 + 128 - 0x80)) + (n / 64 % 64 + 128 - 0x80))
        + (n % 64 + 128 - 0x80) = n := by omega
    rw [hbits]

theorem foldl_step_ofChars (cs : List Char) :
    (ofChars cs).foldl (step surrogates) ⟨points, .start⟩
      = ⟨(cs.map fun c => some (.char c)).reverse ++ points, .start⟩ := by
  induction cs generalizing points with
  | nil => rfl
  | cons c cs ih =>
      rw [ofChars, List.flatMap_cons, List.foldl_append, foldl_step_ofChar, ← ofChars, ih, List.map_cons,
        List.reverse_cons, List.append_assoc, List.singleton_append]

end

theorem decode?_ofChars (surrogates : Bool) (cs : List Char) :
    decode? surrogates (ofChars cs) = some (cs.map .char) := by
  rw [decode?, decode, foldl_step_ofChars, List.append_nil]
  simp only [List.reverse_reverse]
  induction cs with
  | nil => rfl
  | cons c cs ih =>
      rw [List.map_cons, List.mapM_cons, ih]
      rfl

theorem decode?_encode? (surrogates : Bool) {t : Text} {bytes : Bytes} (h : encode? t = some bytes) :
    decode? surrogates bytes = some t := by
  rw [encode?, Option.map_eq_some_iff] at h
  obtain ⟨cs, hcs, rfl⟩ := h
  rw [decode?_ofChars, Text.toChars?_eq_some.mp hcs]

theorem encode?_injective {t u : Text} {bytes : Bytes} (ht : encode? t = some bytes) (hu : encode? u = some bytes) :
    t = u := by
  have hread := decode?_encode? true ht
  rw [decode?_encode? true hu] at hread
  exact (Option.some.inj hread).symm

/-! ### What a decoder lets through -/

/-- Whatever the owed bytes are, the code point that they end lies on one side of the surrogates. -/
def State.AvoidsSurrogates : State → Prop
  | .start => True
  | .inside bits owed low high =>
    0x80 ≤ low ∧ high ≤ 0xBF ∧
      ((64 * bits + (high - 0x80) + 1) * Nat.pow 64 (owed - 1) ≤ 0xD800 ∨
        0xE000 ≤ (64 * bits + (low - 0x80)) * Nat.pow 64 (owed - 1))

/-- No surrogate was decoded so far, and none is on its way. -/
structure Progress.AvoidsSurrogates (p : Progress) : Prop where
  points : ∀ q, some q ∈ p.points → q.toChar?.isSome = true
  state : p.state.AvoidsSurrogates

theorem isSome_toChar?_ofNat {n : Nat} (h : n < 0xD800 ∨ 0xE000 ≤ n) : (CodePoint.ofNat n).toChar?.isSome = true := by
  rw [CodePoint.ofNat, dif_neg (by omega)]
  split <;> rfl

theorem Progress.AvoidsSurrogates.push {points : List (Option CodePoint)} {state : State}
    (h : (⟨points, state⟩ : Progress).AvoidsSurrogates) {q : Option CodePoint}
    (hq : ∀ c, q = some c → c.toChar?.isSome = true) : (⟨q :: points, .start⟩ : Progress).AvoidsSurrogates where
  points := by
    intro c hc
    rcases List.mem_cons.mp hc with hnew | hold
    · exact hq c hnew.symm
    · exact h.points c hold
  state := trivial

theorem avoidsSurrogates_lead {points : List (Option CodePoint)} {state : State}
    (h : (⟨points, state⟩ : Progress).AvoidsSurrogates) (b : Nat) : (lead false points b).AvoidsSurrogates := by
  have hinside {bits owed low high : Nat} (hlow : 0x80 ≤ low) (hhigh : high ≤ 0xBF)
      (hside : (64 * bits + (high - 0x80) + 1) * 64 ^ (owed - 1) ≤ 0xD800 ∨
        0xE000 ≤ (64 * bits + (low - 0x80)) * 64 ^ (owed - 1)) :
      (⟨points, .inside bits owed low high⟩ : Progress).AvoidsSurrogates :=
    ⟨h.points, hlow, hhigh, hside⟩
  rw [lead]
  simp only [Bool.false_eq_true, if_false]
  split
  · refine h.push fun c hc => ?_
    rw [← Option.some.inj hc]
    exact isSome_toChar?_ofNat (.inl (by omega))
  repeat' split
  any_goals exact hinside (by omega) (by omega) (by omega)
  exact h.push nofun

theorem Progress.AvoidsSurrogates.step {p : Progress} (h : p.AvoidsSurrogates) (byte : UInt8) :
    (step false p byte).AvoidsSurrogates := by
  obtain ⟨points, state⟩ := p
  cases state with
  | start => exact avoidsSurrogates_lead h byte.toNat
  | inside bits owed low high =>
      rw [Utf8.step]
      dsimp only
      split
      · rename_i hwithin
        obtain ⟨hlow, hhigh, hside⟩ := h.state
        rw [Nat.pow_eq] at hside
        split
        · rename_i hlast
          have hone : 64 ^ (owed - 1) = 1 := by rw [Nat.sub_eq_zero_of_le hlast, Nat.pow_zero]
          rw [hone] at hside
          refine h.push fun c hc => ?_
          rw [← Option.some.inj hc]
          exact isSome_toChar?_ofNat (by omega)
        · rename_i hmore
          refine ⟨h.points, Nat.le_refl _, Nat.le_refl _, ?_⟩
          rw [Nat.pow_eq]
          have hpow : 64 ^ (owed - 1) = 64 * 64 ^ (owed - 1 - 1) := by
            rw [← Nat.pow_succ', Nat.succ_eq_add_one, Nat.sub_add_cancel (by omega)]
          rw [hpow, ← Nat.mul_assoc, ← Nat.mul_assoc] at hside
          refine hside.imp (fun hbelow => Nat.le_trans (Nat.mul_le_mul_right _ ?_) hbelow)
            (fun habove => Nat.le_trans habove (Nat.mul_le_mul_right _ ?_))
          · omega
          · omega
      · exact avoidsSurrogates_lead (h.push (q := none) nofun) byte.toNat

theorem eq_map_some_of_mapM {points : List (Option CodePoint)} {t : Text} (h : points.mapM id = some t) :
    points = t.map some := by
  induction points generalizing t with
  | nil =>
      cases h
      rfl
  | cons q points ih =>
      rw [List.mapM_cons, Option.bind_eq_bind, Option.bind_eq_some_iff] at h
      obtain ⟨p, hp, htail⟩ := h
      rw [Option.bind_eq_bind, Option.bind_eq_some_iff] at htail
      obtain ⟨rest, hrest, hcons⟩ := htail
      obtain rfl : q = some p := hp
      obtain rfl : p :: rest = t := Option.some.inj hcons
      rw [ih hrest, List.map_cons]

theorem isEncodable_of_decode? {bytes : Bytes} {t : Text} (h : decode? false bytes = some t) : t.isEncodable = true := by
  have hrun : ∀ p : Progress, p.AvoidsSurrogates → (bytes.foldl (step false) p).AvoidsSurrogates := by
    clear h
    induction bytes with
    | nil => exact fun p hp => hp
    | cons b bytes ih => exact fun p hp => ih _ (hp.step b)
  have hfinal := (hrun ⟨[], .start⟩ ⟨nofun, trivial⟩).points
  have hpoints : ∀ p, some p ∈ decode false bytes → p.toChar?.isSome = true := by
    intro p hp
    rw [decode] at hp
    split at hp
    · exact hfinal p (List.mem_reverse.mp hp)
    · rcases List.mem_cons.mp (List.mem_reverse.mp hp) with hnone | hold
      · cases hnone
      · exact hfinal p hold
  rw [Text.isEncodable, List.all_eq_true]
  intro p hp
  refine hpoints p ?_
  rw [eq_map_some_of_mapM h]
  exact List.mem_map_of_mem hp

/-! ### Bytes that are zero -/

theorem ne_zero_of_mem_ofChar {c : Char} (hc : c.toNat ≠ 0) {b : UInt8} (hb : b ∈ ofChar c) : b ≠ 0 := by
  rintro rfl
  have hscalar : c.toNat < 0xD800 ∨ 0xDFFF < c.toNat ∧ c.toNat < 0x110000 := c.valid
  have hnonzero : ∀ m, 0 < m → m < 256 → (0 : UInt8) ≠ UInt8.ofNat m := by
    intro m hpos hlt hzero
    have hnat : 0 = (UInt8.ofNat m).toNat := congrArg UInt8.toNat hzero
    rw [UInt8.toNat_ofNat_of_lt' hlt] at hnat
    omega
  rw [ofChar, String.utf8EncodeChar] at hb
  change 0 ∈ (if c.toNat ≤ 127 then _ else _) at hb
  have hnat : c.val.toNat = c.toNat := rfl
  simp only [hnat] at hb
  generalize c.toNat = n at hscalar hc hb
  split at hb
  · rw [List.mem_singleton] at hb
    exact hnonzero _ (by omega) (by omega) hb
  split at hb
  · simp only [List.mem_cons, List.not_mem_nil, or_false] at hb
    rcases hb with hb | hb <;> exact hnonzero _ (by omega) (by omega) hb
  split at hb
  · simp only [List.mem_cons, List.not_mem_nil, or_false] at hb
    rcases hb with hb | hb | hb <;> exact hnonzero _ (by omega) (by omega) hb
  · simp only [List.mem_cons, List.not_mem_nil, or_false] at hb
    rcases hb with hb | hb | hb | hb <;> exact hnonzero _ (by omega) (by omega) hb

end Utf8

namespace Encoding

theorem exists_first_of_mem_marks {m : Bytes × Encoding} (hm : m ∈ marks) :
    ∃ first rest, m.1 = first :: rest ∧ (first = 0 ∨ 0x80 ≤ first.toNat) := by
  simp only [marks, List.mem_cons, List.not_mem_nil, or_false] at hm
  rcases hm with rfl | rfl | rfl | rfl | rfl
  all_goals exact ⟨_, _, rfl, by decide⟩

theorem unmarked_eq_utf8 {bytes : Bytes} (hzero : ∀ b ∈ bytes, b ≠ 0) : unmarked bytes = .utf8 := by
  match bytes with
  | [] | [_] | [_, _, _] => rfl
  | [a, b] =>
      have ha : a ≠ 0 := hzero a (by simp)
      have hb : b ≠ 0 := hzero b (by simp)
      rw [unmarked, if_neg ha, if_neg hb]
  | a :: b :: c :: d :: rest =>
      have ha : a ≠ 0 := hzero a (by simp)
      have hb : b ≠ 0 := hzero b (by simp)
      rw [unmarked, if_neg ha, if_neg hb]

/-- Bytes that start with one of ASCII, none of them zero, are in UTF-8, without a mark. -/
theorem detect_eq_utf8 {b : UInt8} {bytes : Bytes} (hascii : b.toNat < 0x80) (hzero : ∀ a ∈ b :: bytes, a ≠ 0) :
    detect (b :: bytes) = (.utf8, 0) := by
  have hnone : marks.find? (·.1.isPrefixOf (b :: bytes)) = none := by
    rw [List.find?_eq_none]
    intro m hm
    obtain ⟨first, rest, hmark, hfirst⟩ := exists_first_of_mem_marks hm
    have hother : (first == b) = false := by
      rw [beq_eq_false_iff_ne]
      rintro rfl
      exact hfirst.elim (hzero first List.mem_cons_self) (Nat.not_le.mpr hascii)
    rw [hmark, List.isPrefixOf_cons_cons, hother, Bool.false_and]
    exact Bool.false_ne_true
  rw [detect, hnone]
  simp only [unmarked_eq_utf8 hzero]

end Encoding

end PromptStudio
