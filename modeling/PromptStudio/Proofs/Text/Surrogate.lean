import PromptStudio.Text.Surrogate

/-!
# Halves that stand apart

A text keeps its code points when it is joined exactly if no first half of a surrogate pair stands right before a second
one. What comes out has no such place left, so joining once is enough.
-/

namespace PromptStudio

namespace CodePoint

@[simp] theorem pair?_char_left (c : Char) (q : CodePoint) : pair? (.char c) q = none :=
  rfl

@[simp] theorem pair?_char_right (p : CodePoint) (c : Char) : pair? p (.char c) = none := by
  cases p <;> rfl

theorem exists_char_of_pair? {p q c : CodePoint} (h : p.pair? q = some c) : ∃ d, c = .char d := by
  cases p with
  | char _ => cases h
  | surrogate high =>
      cases q with
      | char _ => cases h
      | surrogate low =>
          rw [pair?] at h
          split at h
          · rw [← Option.some.inj h, ofNat, dif_neg (by omega)]
            split <;> exact ⟨_, rfl⟩
          · cases h

end CodePoint

namespace Text

/-- Whether no two halves of a pair stand side by side. -/
def isApart : Text → Bool
  | p :: q :: rest => (p.pair? q).isNone && isApart (q :: rest)
  | _ => true

theorem joined_cons_of_none {p q : CodePoint} (h : p.pair? q = none) (rest : Text) :
    joined (p :: q :: rest) = p :: joined (q :: rest) := by
  rw [joined, h]

theorem joined_cons_of_some {p q c : CodePoint} (h : p.pair? q = some c) (rest : Text) :
    joined (p :: q :: rest) = c :: joined rest := by
  rw [joined, h]

theorem isApart_char_cons (c : Char) (t : Text) : isApart (.char c :: t) = isApart t := by
  cases t with
  | nil => rfl
  | cons q rest => rw [isApart, CodePoint.pair?_char_left, Option.isNone_none, Bool.true_and]

theorem joined_eq_self {t : Text} (h : t.isApart = true) : t.joined = t := by
  induction t with
  | nil => rfl
  | cons p t ih =>
      cases t with
      | nil => rfl
      | cons q rest =>
          rw [isApart, Bool.and_eq_true, Option.isNone_iff_eq_none] at h
          rw [joined_cons_of_none h.1, ih h.2]

theorem head_joined (q : CodePoint) (rest : Text) :
    ∃ p more, joined (q :: rest) = p :: more ∧ (p = q ∨ ∃ d, p = .char d) := by
  cases rest with
  | nil => exact ⟨q, [], rfl, .inl rfl⟩
  | cons r rest =>
      cases hpair : q.pair? r with
      | none => exact ⟨q, _, joined_cons_of_none hpair rest, .inl rfl⟩
      | some c => exact ⟨c, _, joined_cons_of_some hpair rest, .inr (CodePoint.exists_char_of_pair? hpair)⟩

theorem isApart_joined (t : Text) : t.joined.isApart = true := by
  fun_induction joined t with
  | case1 p q rest c hpair ih =>
      obtain ⟨d, rfl⟩ := CodePoint.exists_char_of_pair? hpair
      rw [isApart_char_cons]
      exact ih
  | case2 p q rest hpair ih =>
      obtain ⟨first, more, hjoined, hfirst⟩ := head_joined q rest
      have hnone : p.pair? first = none := by
        rcases hfirst with rfl | ⟨d, rfl⟩
        · exact hpair
        · exact CodePoint.pair?_char_right p d
      rw [hjoined] at ih ⊢
      rw [isApart, hnone, ih]
      rfl
  | case3 t hshort =>
      cases t with
      | nil => rfl
      | cons p t =>
          cases t with
          | nil => rfl
          | cons q rest => exact absurd rfl (hshort p q rest)

@[simp] theorem joined_joined (t : Text) : t.joined.joined = t.joined :=
  joined_eq_self t.isApart_joined

theorem isApart_of_isEncodable {t : Text} (h : t.isEncodable = true) : t.isApart = true := by
  induction t with
  | nil => rfl
  | cons p t ih =>
      rw [isEncodable, List.all_cons, Bool.and_eq_true] at h
      cases p with
      | surrogate _ => cases h.1
      | char c =>
          rw [isApart_char_cons]
          exact ih h.2

@[simp] theorem joined_ofString (s : String) : (ofString s).joined = ofString s :=
  joined_eq_self (isApart_of_isEncodable (isEncodable_ofString s))

end Text

end PromptStudio
