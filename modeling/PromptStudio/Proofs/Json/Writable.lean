import PromptStudio.Proofs.Json.Read
import PromptStudio.Proofs.Text.Utf8

/-!
# Values that can be written and read again

A value is writable if every text in it has bytes and no integer in it is too long to be read. A reader that refuses lone
surrogates gives a writable value of every text that has bytes: it takes the text apart from the front, so what it puts
into the value are code points of the text, or characters that an escape names.
-/

namespace PromptStudio.Json

/-! ### Arrays and objects, part by part -/

theorem isEncodable_array_iff {items : List Json} :
    (Json.array items).isEncodable = true ↔ ∀ v ∈ items, v.isEncodable = true := by
  rw [isEncodable, all]
  induction items with
  | nil => simp [allItems]
  | cons v rest ih => rw [allItems, Bool.and_eq_true, ih, List.forall_mem_cons]

theorem isEncodable_object_iff {members : List (Text × Json)} :
    (Json.object members).isEncodable = true ↔ ∀ m ∈ members, m.1.isEncodable = true ∧ m.2.isEncodable = true := by
  rw [isEncodable, all]
  induction members with
  | nil => simp [allMembers]
  | cons m rest ih => rw [allMembers, Bool.and_eq_true, Bool.and_eq_true, ih, List.forall_mem_cons]

/-- A value of which every text has bytes and no integer is too long to be read. -/
structure Writable (v : Json) : Prop where
  encodable : v.isEncodable = true
  short : v.hasShortIntegers = true

theorem writable_string_iff {t : Text} : (Json.string t).Writable ↔ t.isEncodable = true :=
  ⟨fun h => h.encodable, fun h => ⟨h, rfl⟩⟩

theorem writable_int_iff {n : Int} : (Json.int n).Writable ↔ isShort n = true :=
  ⟨fun h => h.short, fun h => ⟨rfl, h⟩⟩

theorem writable_array_iff {items : List Json} : (Json.array items).Writable ↔ ∀ v ∈ items, v.Writable := by
  have hshort : (Json.array items).hasShortIntegers = true ↔ ∀ v ∈ items, v.hasShortIntegers = true := by
    rw [hasShortIntegers, every, Bool.and_eq_true, everyItem_iff]
    exact and_iff_right rfl
  constructor
  · rintro ⟨hencodable, hints⟩ v hv
    exact ⟨isEncodable_array_iff.mp hencodable v hv, hshort.mp hints v hv⟩
  · intro h
    exact ⟨isEncodable_array_iff.mpr fun v hv => (h v hv).encodable, hshort.mpr fun v hv => (h v hv).short⟩

theorem writable_object_iff {members : List (Text × Json)} :
    (Json.object members).Writable ↔ ∀ m ∈ members, m.1.isEncodable = true ∧ m.2.Writable := by
  have hshort : (Json.object members).hasShortIntegers = true ↔ ∀ m ∈ members, m.2.hasShortIntegers = true := by
    rw [hasShortIntegers, every, Bool.and_eq_true, everyMember_iff]
    exact and_iff_right rfl
  constructor
  · rintro ⟨hencodable, hints⟩ m hm
    obtain ⟨hkey, hvalue⟩ := isEncodable_object_iff.mp hencodable m hm
    exact ⟨hkey, hvalue, hshort.mp hints m hm⟩
  · intro h
    exact ⟨isEncodable_object_iff.mpr fun m hm => ⟨(h m hm).1, (h m hm).2.encodable⟩,
      hshort.mpr fun m hm => (h m hm).2.short⟩

theorem writable_ofFields_iff {fields : List (String × Json)} :
    (ofFields fields).Writable ↔ ∀ f ∈ fields, f.2.Writable := by
  rw [ofFields, writable_object_iff]
  constructor
  · exact fun h f hf => (h _ (List.mem_map_of_mem hf)).2
  · intro h m hm
    obtain ⟨f, hf, rfl⟩ := List.mem_map.mp hm
    exact ⟨Text.isEncodable_ofString f.1, h f hf⟩

/-! ### What is left of a text -/

theorem isEncodable_tail {p : CodePoint} {t : Text} (h : Text.isEncodable (p :: t) = true) : t.isEncodable = true :=
  Text.isEncodable_of_sublist h (List.sublist_cons_self p t)

theorem isEncodable_skipBlanks {t : Text} (h : t.isEncodable = true) : (skipBlanks t).isEncodable = true :=
  Text.isEncodable_of_sublist h (List.dropWhile_sublist isBlank)

theorem suffix_spanDigits (t : Text) : (spanDigits t).2 <:+ t := by
  induction t with
  | nil => exact List.suffix_rfl
  | cons p rest ih =>
      rw [spanDigits]
      split
      · exact ih.trans (List.suffix_cons p rest)
      · exact List.suffix_rfl

theorem suffix_fraction (t : Text) : (fraction t).2 <:+ t := by
  rw [fraction.eq_def]
  split
  · rename_i rest
    have hspan := (suffix_spanDigits rest).trans (List.suffix_cons (.char '.') rest)
    split
    · exact List.suffix_rfl
    · exact hspan
  · exact List.suffix_rfl

theorem suffix_of_spanDigits {t tail : Text} {ds : List Nat} (h : spanDigits t = (ds, tail)) : tail <:+ t := by
  have hspan := suffix_spanDigits t
  rwa [h] at hspan

theorem suffix_of_exponent? {t rest : Text} {power : Int} (h : exponent? t = some (power, rest)) : rest <:+ t := by
  rw [exponent?.eq_def] at h
  split at h
  · rename_i e after
    -- A sign or none: what is behind the digits is left of what is behind the mark.
    suffices hafter : rest <:+ after from hafter.trans (List.suffix_cons _ _)
    split at h
    · split at h
      all_goals
        dsimp only at h
        split at h
        · cases h
        · rename_i hdigits
          rw [← (Prod.mk.inj (Option.some.inj h)).2]
          first
          | exact suffix_of_spanDigits hdigits
          | exact (suffix_of_spanDigits hdigits).trans (List.suffix_cons _ _)
    · cases h
  · cases h
  · cases h

theorem suffix_of_wholeDigits? {t rest : Text} {ds : List Nat} (h : wholeDigits? t = some (ds, rest)) : rest <:+ t := by
  have hspan := suffix_spanDigits t
  rw [wholeDigits?.eq_def] at h
  split at h
  · cases h
    exact List.suffix_cons _ _
  · split at h
    · cases h
    · rw [Option.some.inj h] at hspan
      exact hspan

theorem suffix_of_afterWord? {word : List Char} {t rest : Text} (h : afterWord? word t = some rest) : rest <:+ t := by
  induction word generalizing t with
  | nil =>
      cases h
      exact List.suffix_rfl
  | cons c word ih =>
      cases t with
      | nil => cases h
      | cons p t =>
          rw [afterWord?] at h
          split at h
          · exact (ih h).trans (List.suffix_cons p t)
          · cases h

theorem suffix_of_hexUnit? {t rest : Text} {unit : Nat} (h : hexUnit? t = some (unit, rest)) : rest <:+ t := by
  rw [hexUnit?.eq_def] at h
  split at h
  · simp only [Option.bind_eq_bind, Option.bind_eq_some_iff, Option.some.injEq, Prod.mk.injEq] at h
    obtain ⟨_, -, _, -, _, -, _, -, -, rfl⟩ := h
    exact ⟨[_, _, _, _], rfl⟩
  · cases h

/-! ### What is read -/

structure Clean (read : Json × Text) : Prop where
  value : read.1.isEncodable = true
  rest : read.2.isEncodable = true

variable {rule : Rule}

theorem clean_of_number {negative : Bool} {t : Text} (ht : t.isEncodable = true) {read : Json × Text}
    (h : number rule negative t = .ok read) : Clean read := by
  rw [number] at h
  split at h
  · cases h
  · rename_i whole after hwhole
    have hafter := (suffix_fraction after).trans (suffix_of_wholeDigits? hwhole)
    dsimp only at h
    split at h
    · split at h
      · cases h
      · cases h
        exact ⟨rfl, Text.isEncodable_of_sublist ht hafter.sublist⟩
    · split at h
      · cases h
      · cases h
        refine ⟨rfl, Text.isEncodable_of_sublist ht ?_⟩
        cases hexponent : exponent? (fraction after).2 with
        | none => exact hafter.sublist
        | some found => exact ((suffix_of_exponent? hexponent).trans hafter).sublist

theorem clean_of_word {name : String} {v : Json} (hv : v.isEncodable = true) {t : Text} (ht : t.isEncodable = true)
    {read : Json × Text} (h : word name v t = .ok read) : Clean read := by
  rw [word] at h
  split at h
  · rename_i rest hrest
    cases h
    exact ⟨hv, Text.isEncodable_of_sublist ht (suffix_of_afterWord? hrest).sublist⟩
  · cases h

/-- Without lone surrogates an escape names a character. -/
theorem clean_of_unicodeEscape (hrule : rule.loneSurrogates = false) {t rest : Text} {p : CodePoint}
    (h : unicodeEscape rule t = some (p, rest)) : p.toChar?.isSome = true ∧ rest <:+ t := by
  rw [unicodeEscape, Option.bind_eq_bind, Option.bind_eq_some_iff] at h
  obtain ⟨⟨high, after⟩, hhigh, h⟩ := h
  have hafter := suffix_of_hexUnit? hhigh
  dsimp only at h
  split at h
  · rename_i hscalar
    cases h
    exact ⟨Utf8.isSome_toChar?_ofNat (by omega), hafter⟩
  · rw [hrule] at h
    split at h
    · rename_i found hpair
      cases h
      split at hpair
      · split at hpair
        · rename_i hlow
          have htail := suffix_of_hexUnit? hlow
          split at hpair
          · obtain ⟨rfl, rfl⟩ := Prod.mk.inj (Option.some.inj hpair)
            exact ⟨Utf8.isSome_toChar?_ofNat (.inr (by omega)),
              htail.trans ((List.suffix_cons _ _).trans ((List.suffix_cons _ _).trans hafter))⟩
          · cases hpair
        · cases hpair
      · cases hpair
    · cases h

theorem clean_of_escaped (hrule : rule.loneSurrogates = false) {t rest : Text} {p : CodePoint}
    (h : escaped rule t = some (p, rest)) : p.toChar?.isSome = true ∧ rest <:+ t := by
  rw [escaped.eq_def] at h
  split at h
  any_goals
    cases h
    exact ⟨rfl, List.suffix_cons _ _⟩
  · obtain ⟨hp, hrest⟩ := clean_of_unicodeEscape hrule h
    exact ⟨hp, hrest.trans (List.suffix_cons _ _)⟩
  · cases h

theorem clean_of_stringBody (hrule : rule.loneSurrogates = false) {fuel : Nat} {done t s rest : Text}
    (hdone : done.isEncodable = true) (ht : t.isEncodable = true)
    (h : stringBody rule fuel done t = .ok (s, rest)) : s.isEncodable = true ∧ rest.isEncodable = true := by
  induction fuel generalizing done t with
  | zero => cases h
  | succ fuel ih =>
      rw [stringBody.eq_def] at h
      dsimp only at h
      split at h
      · cases h
      · cases h
        rw [Text.isEncodable, List.all_reverse]
        exact ⟨hdone, isEncodable_tail ht⟩
      · split at h
        · rename_i after p more hescaped
          obtain ⟨hp, hmore⟩ := clean_of_escaped hrule hescaped
          refine ih ?_ (Text.isEncodable_of_sublist ht (hmore.trans (List.suffix_cons _ _)).sublist) h
          rw [Text.isEncodable_cons, hp, hdone]
          rfl
        · cases h
      · rename_i p after _ _
        rw [Text.isEncodable_cons, Bool.and_eq_true] at ht
        split at h
        · cases h
        · refine ih ?_ ht.2 h
          rw [Text.isEncodable_cons, ht.1, hdone]
          rfl

theorem forall_mem_addMember (rule : Rule) {test : Text × Json → Prop} {done : List (Text × Json)}
    (hdone : ∀ m ∈ done, test m) {key : Text} {v : Json} (hnew : test (key, v)) :
    ∀ m ∈ rule.addMember done key v, test m := by
  intro m hm
  rw [Rule.addMember] at hm
  split at hm
  · rcases List.mem_append.mp hm with hold | hlast
    · exact hdone m hold
    · rw [List.mem_singleton.mp hlast]
      exact hnew
  · rcases mem_insert hm with hold | rfl
    · exact hdone m hold
    · exact hnew

mutual

/-- Of a text that has bytes a value is read that has bytes. The induction is on the fuel, as is that of the readers. -/
theorem clean_of_value (hrule : rule.loneSurrogates = false) : ∀ (fuel depth : Nat) {t : Text} {read : Json × Text},
    t.isEncodable = true → value rule fuel depth t = .ok read → Clean read
  | 0, _, _, _, _, h => by cases h
  | fuel + 1, depth, t, read, ht, h => by
      rw [value.eq_def] at h
      dsimp only at h
      split at h
      · obtain ⟨⟨s, rest⟩, hbody, hread⟩ := bind_eq_ok.mp h
        cases hread
        obtain ⟨hs, hrest⟩ := clean_of_stringBody hrule rfl (isEncodable_tail ht) hbody
        exact ⟨hs, hrest⟩
      · have hafter := isEncodable_skipBlanks (isEncodable_tail ht)
        split at h
        · cases h
        · split at h
          · rename_i hclose
            cases h
            rw [hclose] at hafter
            exact ⟨rfl, isEncodable_tail hafter⟩
          · exact clean_of_members hrule fuel (depth + 1) (List.forall_mem_nil _) hafter h
      · have hafter := isEncodable_skipBlanks (isEncodable_tail ht)
        split at h
        · cases h
        · split at h
          · rename_i hclose
            cases h
            rw [hclose] at hafter
            exact ⟨rfl, isEncodable_tail hafter⟩
          · exact clean_of_items hrule fuel (depth + 1) (List.forall_mem_nil _) hafter h
      · exact clean_of_word rfl ht h
      · exact clean_of_word rfl ht h
      · exact clean_of_word rfl ht h
      · exact clean_of_word rfl ht h
      · exact clean_of_word rfl ht h
      · exact clean_of_word rfl ht h
      · exact clean_of_number (isEncodable_tail ht) h
      · exact clean_of_number ht h

theorem clean_of_items (hrule : rule.loneSurrogates = false) : ∀ (fuel depth : Nat) {done : List Json} {t : Text}
    {read : Json × Text}, (∀ w ∈ done, w.isEncodable = true) → t.isEncodable = true →
    items rule fuel depth done t = .ok read → Clean read
  | 0, _, _, _, _, _, _, h => by cases h
  | fuel + 1, depth, done, t, read, hdone, ht, h => by
      rw [items] at h
      obtain ⟨⟨w, after⟩, hvalue, hread⟩ := bind_eq_ok.mp h
      have hclean := clean_of_value hrule fuel depth ht hvalue
      have hall : ∀ x ∈ w :: done, x.isEncodable = true := List.forall_mem_cons.mpr ⟨hclean.value, hdone⟩
      have hafter := isEncodable_skipBlanks hclean.rest
      dsimp only at hread
      split at hread
      · rename_i hcomma
        rw [hcomma] at hafter
        exact clean_of_items hrule fuel depth hall (isEncodable_skipBlanks (isEncodable_tail hafter)) hread
      · rename_i hclose
        cases hread
        rw [hclose] at hafter
        have hitems := isEncodable_array_iff.mpr fun v hv => hall v (List.mem_reverse.mp hv)
        exact ⟨hitems, isEncodable_tail hafter⟩
      · cases hread

theorem clean_of_members (hrule : rule.loneSurrogates = false) : ∀ (fuel depth : Nat) {done : List (Text × Json)}
    {t : Text} {read : Json × Text}, (∀ m ∈ done, m.1.isEncodable = true ∧ m.2.isEncodable = true) →
    t.isEncodable = true → members rule fuel depth done t = .ok read → Clean read
  | 0, _, _, _, _, _, _, h => by cases h
  | fuel + 1, depth, done, t, read, hdone, ht, h => by
      rw [members.eq_def] at h
      dsimp only at h
      split at h
      · obtain ⟨⟨key, after⟩, hbody, hread⟩ := bind_eq_ok.mp h
        obtain ⟨hkey, hafter⟩ := clean_of_stringBody hrule rfl (isEncodable_tail ht) hbody
        have hbehind := isEncodable_skipBlanks hafter
        dsimp only at hread
        split at hread
        · rename_i hcolon
          rw [hcolon] at hbehind
          obtain ⟨⟨w, next⟩, hvalue, hread⟩ := bind_eq_ok.mp hread
          have hclean := clean_of_value hrule fuel depth (isEncodable_skipBlanks (isEncodable_tail hbehind)) hvalue
          have hall := forall_mem_addMember rule hdone ⟨hkey, hclean.value⟩
          have hnext := isEncodable_skipBlanks hclean.rest
          dsimp only at hread
          split at hread
          · rename_i hcomma
            rw [hcomma] at hnext
            exact clean_of_members hrule fuel depth hall (isEncodable_skipBlanks (isEncodable_tail hnext)) hread
          · rename_i hclose
            cases hread
            rw [hclose] at hnext
            exact ⟨isEncodable_object_iff.mpr hall, isEncodable_tail hnext⟩
          · cases hread
        · cases hread
      · cases h

end

/-- A reader that refuses lone surrogates reads a writable value of a text that has bytes. -/
theorem writable_of_read (hrule : rule.loneSurrogates = false) {t : Text} (ht : t.isEncodable = true) {v : Json}
    (h : read rule t = .ok v) : v.Writable where
  encodable := by
    obtain ⟨⟨w, rest⟩, hvalue, hread⟩ := bind_eq_ok.mp h
    dsimp only at hread
    split at hread
    · cases hread
      exact (clean_of_value hrule _ 0 (isEncodable_skipBlanks ht) hvalue).value
    · cases hread
  short := (every_keeps_iff.mp (fits_of_read h).keeps).1

/-! ### Floats that are no number -/

theorem finite_array (items : List Json) : (Json.array items).finite = .array (items.map finite) := by
  have hitems : finiteItems items = items.map finite := by
    induction items with
    | nil => rfl
    | cons v rest ih => rw [finiteItems, ih, List.map_cons]
  rw [finite, hitems]

theorem finite_object (members : List (Text × Json)) :
    (Json.object members).finite = .object (members.map fun m => (m.1, m.2.finite)) := by
  have hmembers : finiteMembers members = members.map fun m => (m.1, m.2.finite) := by
    induction members with
    | nil => rfl
    | cons m rest ih => rw [finiteMembers, ih, List.map_cons]
  rw [finite, hmembers]

theorem finite_array_eq_self {items : List Json} (h : ∀ v ∈ items, v.finite = v) :
    (Json.array items).finite = .array items := by
  rw [finite_array, List.map_congr_left h, List.map_id']

theorem finite_object_eq_self {members : List (Text × Json)} (h : ∀ m ∈ members, m.2.finite = m.2) :
    (Json.object members).finite = .object members := by
  have hsame : ∀ m ∈ members, (m.1, m.2.finite) = m := by
    intro m hm
    rw [h m hm]
  rw [finite_object, List.map_congr_left hsame, List.map_id']

theorem finite_ofFields_eq_self {fields : List (String × Json)} (h : ∀ f ∈ fields, f.2.finite = f.2) :
    (ofFields fields).finite = ofFields fields := by
  refine finite_object_eq_self fun m hm => ?_
  obtain ⟨f, hf, rfl⟩ := List.mem_map.mp hm
  exact h f hf

theorem finite_ofTexts (texts : List Text) : (ofTexts texts).finite = ofTexts texts := by
  refine finite_array_eq_self fun v hv => ?_
  obtain ⟨t, -, rfl⟩ := List.mem_map.mp hv
  rfl

end PromptStudio.Json
