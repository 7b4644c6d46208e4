import PromptStudio.Proofs.Json.Stored
import PromptStudio.Proofs.Json.Writable
import PromptStudio.Validation.Schema

/-!
# Schemas and what is written

A check that is put together from others is valid only if each of them is, so a value that a schema gives is known part
by part. An object that the program writes down is looked up by the names of its fields, so what a schema gives of it is
known from the fields.

A schema is lenient: a number may come as a text, a member may be left out, a key may be repeated. What it then gives is
written in one form only, and from that form the schema gives it once more. `ReadsBack` says this of a value, `Rereads`
of all values that a schema gives of writable ones; it goes from the parts of a value to the whole.
-/

namespace PromptStudio

/-! ### Checks that came out well -/

namespace Checked

variable {α β : Type}

theorem seq_eq_valid {f : Checked (α → β)} {a : Checked α} {b : β} (h : f <*> a = .valid b) :
    ∃ g x, f = .valid g ∧ a = .valid x ∧ g x = b := by
  cases f with
  | invalid issues => cases a <;> cases h
  | valid g =>
      cases a with
      | invalid issues => cases h
      | valid x =>
          refine ⟨g, x, rfl, rfl, ?_⟩
          cases h
          rfl

theorem map_eq_valid {f : α → β} {a : Checked α} {b : β} (h : f <$> a = .valid b) :
    ∃ x, a = .valid x ∧ f x = b := by
  cases a with
  | invalid issues => cases h
  | valid x =>
      refine ⟨x, rfl, ?_⟩
      cases h
      rfl

theorem andThen_eq_valid {f : α → Checked β} {a : Checked α} {b : β} (h : a.andThen f = .valid b) :
    ∃ x, a = .valid x ∧ f x = .valid b := by
  cases a with
  | invalid issues => cases h
  | valid x => exact ⟨x, rfl, h⟩

theorem eq_valid_of_under {key : String} {a : Checked α} {x : α} (h : a.under key = .valid x) : a = .valid x := by
  cases a with
  | invalid issues => cases h
  | valid y => exact h

theorem all_eq_valid_iff {outcomes : List (Checked α)} {as : List α} :
    all outcomes = .valid as ↔ outcomes = as.map .valid := by
  constructor
  · intro h
    induction outcomes generalizing as with
    | nil =>
        cases h
        rfl
    | cons outcome rest ih =>
        obtain ⟨_, as, hfirst, hrest, rfl⟩ := seq_eq_valid h
        obtain ⟨a, rfl, rfl⟩ := map_eq_valid hfirst
        rw [ih hrest, List.map_cons]
  · rintro rfl
    induction as with
    | nil => rfl
    | cons a as ih =>
        rw [List.map_cons, all, ih]
        rfl

end Checked

namespace Schema

section

variable {α : Type} {a : α} {v : Json}

theorem record_eq_valid {kind : IssueKind} {inner : List (Text × Json) → Checked α}
    (h : record kind inner v = .valid a) : ∃ members, v = .object members ∧ inner members = .valid a := by
  cases v with
  | object members => exact ⟨members, rfl, h⟩
  | _ => cases h

variable {inner : Schema α}

theorem fieldOf_eq_valid {names : List String} {absent : Checked α} {members : List (Text × Json)}
    (h : fieldOf names absent inner members = .valid a) :
    (∃ key v, Json.find? members key = some v ∧ inner v = .valid a) ∨ absent = .valid a := by
  rw [fieldOf] at h
  split at h
  · rename_i name v hfound
    obtain ⟨_, -, hname⟩ := List.exists_of_findSome?_eq_some hfound
    obtain ⟨w, hw, hpair⟩ := Option.map_eq_some_iff.mp hname
    cases hpair
    exact .inl ⟨_, _, hw, Checked.eq_valid_of_under h⟩
  · exact .inr (Checked.eq_valid_of_under h)

theorem list_eq_valid {items : List Json} {as : List α} (h : list inner (.array items) = .valid as) :
    ∀ a ∈ as, ∃ v ∈ items, inner v = .valid a := by
  intro a ha
  have hvalid : Checked.valid a ∈ as.map Checked.valid := List.mem_map_of_mem ha
  rw [← Checked.all_eq_valid_iff.mp h] at hvalid
  obtain ⟨⟨v, place⟩, hv, hread⟩ := List.mem_map.mp hvalid
  exact ⟨v, List.fst_mem_of_mem_zipIdx hv, Checked.eq_valid_of_under hread⟩

end

/-! ### Objects that are written down -/

section

variable {α : Type} {fields : List (String × Json)} {names : List String}

def named? (fields : List (String × Json)) (names : List String) : Option (String × Json) :=
  names.findSome? fun name => ((fields.reverse.find? (·.1 == name)).map (·.2)).map fun v => (name, v)

theorem findSome?_find?_ofFields : (names.findSome? fun name =>
    (Json.find? (fields.map fun f => (Text.ofString f.1, f.2)) (Text.ofString name)).map fun v => (name, v))
      = named? fields names := by
  rw [named?]
  congr 1
  funext name
  exact congrArg _ (Json.get?_ofFields fields name)

theorem fieldOf_of_named {name : String} {absent : Checked α} {inner : Schema α} {v : Json} {a : α}
    (hnamed : named? fields names = some (name, v)) (hvalid : inner v = .valid a) :
    fieldOf names absent inner (fields.map fun f => (Text.ofString f.1, f.2)) = .valid a := by
  rw [fieldOf, findSome?_find?_ofFields, hnamed]
  dsimp only
  rw [hvalid]
  rfl

theorem fieldOf_of_unnamed {inner : Schema α} {a : α} (hunnamed : named? fields names = none) :
    fieldOf names (.valid a) inner (fields.map fun f => (Text.ofString f.1, f.2)) = .valid a := by
  rw [fieldOf, findSome?_find?_ofFields, hunnamed]
  rfl

theorem record_ofFields (kind : IssueKind) (inner : List (Text × Json) → Checked α) (fields : List (String × Json)) :
    record kind inner (.ofFields fields) = inner (fields.map fun f => (Text.ofString f.1, f.2)) :=
  rfl

theorem identifier_string {t : Text} (hencodable : t.isEncodable = true) (hne : t ≠ []) :
    identifier (.string t) = .valid t := by
  have hlong : ¬ t.length < 1 := by
    rw [Nat.lt_one_iff, List.length_eq_zero_iff]
    exact hne
  change (if !t.isEncodable then _ else if t.length < 1 then _ else _) = _
  rw [hencodable, Bool.not_true, if_neg Bool.false_ne_true, if_neg hlong]
  rfl

theorem list_text_ofTexts (texts : List Text) : list text (.ofTexts texts) = .valid texts := by
  have hall (start : Nat) : Checked.all (((texts.map Json.string).zipIdx start).map fun item =>
      (text item.1).under (Nat.repr item.2)) = .valid texts := by
    induction texts generalizing start with
    | nil => rfl
    | cons t rest ih =>
        rw [List.map_cons, List.zipIdx_cons, List.map_cons, Checked.all, ih]
        rfl
  exact hall 0

end

end Schema

/-! ### Numerals -/

namespace Numeral

/-- An integer that is spelled by digits alone is not too long to be read. -/
theorem isShort_of_plainInt {cs : List Char} {n : Int} (h : plainInt cs = .ok n) : Json.isShort n = true := by
  have hsigned (negative : Bool) (digits : List Char) (hlong : ¬ Integer.maxDigits < digits.length)
      (hn : (if negative then -(Integer.ofDigits (digits.filterMap Binary64.asciiDigit?) : Int)
        else Integer.ofDigits (digits.filterMap Binary64.asciiDigit?)) = n) : Json.isShort n = true := by
    have habs : n.natAbs = Json.ofDigits (digits.filterMap Binary64.asciiDigit?) := by
      rw [← hn]
      split
      · exact (Int.natAbs_neg _).trans (Int.natAbs_natCast _)
      · exact Int.natAbs_natCast _
    refine Json.isShort_of_natAbs_eq habs ?_ ?_
    · intro d hd
      obtain ⟨c, -, hc⟩ := List.mem_filterMap.mp hd
      exact Json.lt_ten_of_digitValue? (p := .char c) hc
    · exact fun hmore => hlong (Nat.lt_of_lt_of_le hmore (List.length_filterMap_le _ _))
  rw [plainInt.eq_def] at h
  split at h
  all_goals
    dsimp only at h
    split at h
    · cases h
    · split at h
      · cases h
      · rename_i hlong
        exact hsigned _ _ hlong (Except.ok.inj h)

theorem isShort_of_int {cs : List Char} {n : Int} (h : int cs = .ok n) : Json.isShort n = true := by
  rw [int] at h
  split at h
  · split at h
    · rename_i m hplain
      obtain ⟨plain, -, hm⟩ := Option.map_eq_some_iff.mp hplain
      rw [← Except.ok.inj h]
      exact isShort_of_plainInt hm
    · cases h
  · exact isShort_of_plainInt h

end Numeral

namespace Schema

variable {α : Type}

/-- A value is written so that it is read back, and so that it can be written at all. -/
structure ReadsBack (schema : Schema α) (write : α → Json) (a : α) : Prop where
  valid : schema (write a) = .valid a
  writable : (write a).Writable

/-- Whatever a schema gives of a writable value is written so that the schema reads it back. -/
def Rereads (schema : Schema α) (write : α → Json) : Prop :=
  ∀ ⦃v : Json⦄ ⦃a : α⦄, v.Writable → schema v = .valid a → schema.ReadsBack write a

/-! ### Texts, numbers and truth values -/

theorem text_string (t : Text) : text (.string t) = .valid t :=
  rfl

theorem readsBack_text {t : Text} (h : t.isEncodable = true) : text.ReadsBack .string t :=
  ⟨rfl, Json.writable_string_iff.mpr h⟩

theorem rereads_text : text.Rereads .string := by
  intro v t hv h
  cases v with
  | string u =>
      cases h
      exact readsBack_text hv.encodable
  | _ => cases h

/-- A check behind a schema that hands the value on changes nothing. -/
theorem Rereads.andThen {inner : Schema α} {write : α → Json} (h : inner.Rereads write) {check : α → Checked α}
    (hcheck : ∀ ⦃a b⦄, check a = .valid b → a = b) : Rereads (fun v => (inner v).andThen check) write := by
  intro v b hv hread
  obtain ⟨a, ha, hvalid⟩ := Checked.andThen_eq_valid hread
  obtain rfl := hcheck hvalid
  have hback := h hv ha
  refine ⟨?_, hback.writable⟩
  rw [hback.valid]
  exact hvalid

theorem rereads_identifier : identifier.Rereads .string := by
  refine rereads_text.andThen ?_
  intro t u hvalid
  split at hvalid
  · cases hvalid
  · split at hvalid
    · cases hvalid
    · split at hvalid
      · cases hvalid
      · exact Checked.valid.inj hvalid

theorem readsBack_boolean (b : Bool) : boolean.ReadsBack .bool b :=
  ⟨rfl, rfl, rfl⟩

theorem readsBack_word {ofName? : String → Option α} {name : α → String} {a : α} (hname : ofName? (name a) = some a)
    (kind : IssueKind) : (word ofName? kind).ReadsBack (fun a => .string (name a)) a where
  valid := by
    rw [word, Text.toString?_ofString]
    simp only [hname]
  writable := Json.writable_string_iff.mpr (Text.isEncodable_ofString (name a))

theorem isShort_of_natAbs_lt {n : Int} (h : n.natAbs < 10 ^ 19) : Json.isShort n = true := by
  have hpow : (10 : Nat) ^ 19 ≤ 10 ^ Json.maxIntegerDigits := Nat.pow_le_pow_right (by decide) (by decide)
  rw [Json.isShort, decide_eq_true_eq, Binary64.digitsOf, Nat.length_toDigits_le_iff (by decide) (by decide)]
  exact Nat.lt_of_lt_of_le h hpow

theorem rereads_integer : integer.Rereads .int := by
  intro v n hv h
  refine ⟨rfl, Json.writable_int_iff.mpr ?_⟩
  rw [integer.eq_def] at h
  split at h
  · cases h
    exact hv.short
  · cases h
    split <;> decide
  · split at h
    · cases h
    · split at h
      · split at h
        · rename_i hword
          rw [isWord, Bool.and_eq_true, decide_eq_true_eq, decide_eq_true_eq] at hword
          cases h
          exact isShort_of_natAbs_lt (by omega)
        · cases h
      · cases h
  · split at h
    · cases h
    · split at h
      · rename_i hint
        cases h
        exact Numeral.isShort_of_int hint
      · cases h
  · cases h

theorem rereads_integerOf (least : Int) (most : Option Int) : (integerOf least most).Rereads .int := by
  refine rereads_integer.andThen ?_
  intro m n hvalid
  split at hvalid
  · cases hvalid
  · split at hvalid
    · cases hvalid
    · exact Checked.valid.inj hvalid

theorem le_of_integerOf {least n : Int} {most : Option Int} {v : Json} (h : integerOf least most v = .valid n) :
    least ≤ n := by
  obtain ⟨m, -, hvalid⟩ := Checked.andThen_eq_valid h
  split at hvalid
  · cases hvalid
  · split at hvalid
    · cases hvalid
    · cases hvalid
      omega

/-! ### What is made of other values -/

variable {inner : Schema α} {write : α → Json}

theorem nullable_of_ne_null {v : Json} (hv : v ≠ .null) : nullable inner v = (inner v).map some := by
  cases v with
  | null => exact absurd rfl hv
  | _ => rfl

/-- A value that may be null is written as null or as it would be without that. -/
theorem rereads_nullable {writeAny : Option α → Json} (h : inner.Rereads write) (hnull : ∀ a, write a ≠ .null)
    (hnone : writeAny none = .null) (hsome : ∀ a, writeAny (some a) = write a) : (nullable inner).Rereads writeAny := by
  intro v found hv hread
  by_cases hv' : v = .null
  · subst hv'
    obtain rfl : none = found := Checked.valid.inj hread
    exact ⟨congrArg _ hnone, hnone ▸ ⟨rfl, rfl⟩⟩
  · rw [nullable_of_ne_null hv'] at hread
    obtain ⟨a, ha, rfl⟩ := Checked.map_eq_valid hread
    have hback := h hv ha
    refine ⟨?_, hsome a ▸ hback.writable⟩
    rw [hsome, nullable_of_ne_null (hnull a), hback.valid]
    rfl

theorem list_array_map {as : List α} (h : ∀ a ∈ as, inner (write a) = .valid a) :
    list inner (.array (as.map write)) = .valid as := by
  have hplaces : as.map Checked.valid = as.zipIdx.map fun item => Checked.valid item.1 := by
    conv_lhs => rw [← List.zipIdx_map_fst 0 as]
    rw [List.map_map]
    rfl
  refine Checked.all_eq_valid_iff.mpr ?_
  rw [List.zipIdx_map, List.map_map, hplaces]
  refine List.map_congr_left ?_
  rintro ⟨a, place⟩ hitem
  exact congrArg (Checked.under (Nat.repr place)) (h a (List.fst_mem_of_mem_zipIdx hitem))

theorem readsBack_list {as : List α} (h : ∀ a ∈ as, inner.ReadsBack write a) :
    (list inner).ReadsBack (fun as => .array (as.map write)) as where
  valid := list_array_map fun a ha => (h a ha).valid
  writable := by
    rw [Json.writable_array_iff]
    intro v hv
    obtain ⟨a, ha, rfl⟩ := List.mem_map.mp hv
    exact (h a ha).writable

theorem readsBack_nil : (list inner).ReadsBack (fun as => .array (as.map write)) [] :=
  readsBack_list (List.forall_mem_nil _)

theorem rereads_list (h : inner.Rereads write) : (list inner).Rereads fun as => .array (as.map write) := by
  intro v as hv hread
  cases v with
  | array items =>
      refine readsBack_list fun a ha => ?_
      obtain ⟨w, hw, hinner⟩ := list_eq_valid hread a ha
      exact h (Json.writable_array_iff.mp hv w hw) hinner
  | _ => cases hread

/-! ### Dictionaries of texts -/

def member (e : Text × Text) : Text × Json :=
  (e.1, .string e.2)

theorem member_injective : Function.Injective member := by
  rintro ⟨key, t⟩ ⟨other, u⟩ h
  obtain ⟨hkey, htext⟩ := Prod.mk.inj h
  exact Prod.ext hkey (Json.string.inj htext)

theorem distinct_map_member (entries : List (Text × Text)) :
    Json.distinct (entries.map member) = (distinctEntries entries).map member := by
  have hstep (done : List (Text × Text)) (e : Text × Text) :
      Json.insert (done.map member) e.1 (.string e.2)
        = (if done.any (·.1 == e.1) then done.map fun d => if d.1 == e.1 then e else d else done ++ [e]).map member := by
    rw [Json.insert, List.any_map]
    change (if done.any (·.1 == e.1) then _ else _) = _
    split
    · rw [List.map_map, List.map_map]
      exact List.map_congr_left fun d _ => (apply_ite member _ e d).symm
    · rw [List.map_append]
      rfl
  rw [Json.distinct, List.foldl_map, distinctEntries]
  exact @List.foldl_hom _ _ _ (List.map member) _ _ entries [] hstep

theorem nodup_distinctEntries (entries : List (Text × Text)) : ((distinctEntries entries).map (·.1)).Nodup := by
  have hkeys := Json.nodup_distinct (entries.map member)
  rw [distinct_map_member, List.map_map] at hkeys
  exact hkeys

theorem mem_of_mem_distinctEntries {entries : List (Text × Text)} {e : Text × Text} (h : e ∈ distinctEntries entries) :
    e ∈ entries := by
  have hmem : member e ∈ Json.distinct (entries.map member) := by
    rw [distinct_map_member]
    exact List.mem_map_of_mem h
  exact (List.mem_map_of_injective member_injective).mp (Json.mem_of_mem_distinct hmem)

theorem distinctEntries_of_nodup {entries : List (Text × Text)} (h : (entries.map (·.1)).Nodup) :
    distinctEntries entries = entries := by
  have hkeys : ((entries.map member).map (·.1)).Nodup := by
    rw [List.map_map]
    exact h
  have hdistinct := Json.distinct_of_nodup hkeys
  rw [distinct_map_member] at hdistinct
  exact List.map_injective_iff.mpr member_injective hdistinct

theorem dictionary_object (entries : List (Text × Text)) :
    dictionary text (.object (entries.map member)) = .valid (distinctEntries entries) := by
  have hall : Checked.all ((entries.map member).map fun m => ((text m.2).under m.1.shown).map fun t => (m.1, t))
      = .valid entries := by
    rw [Checked.all_eq_valid_iff, List.map_map]
    exact List.map_congr_left fun _ _ => rfl
  exact congrArg (Checked.map distinctEntries) hall

theorem rereads_dictionary : (dictionary text).Rereads fun entries => .object (entries.map member) := by
  intro v entries hv h
  cases v with
  | object members =>
      obtain ⟨found, hall, rfl⟩ := Checked.map_eq_valid h
      rw [Json.writable_object_iff] at hv
      constructor
      · rw [dictionary_object, distinctEntries_of_nodup (nodup_distinctEntries found)]
      · rw [Json.writable_object_iff]
        intro m hm
        obtain ⟨e, he, rfl⟩ := List.mem_map.mp hm
        have hvalid : Checked.valid e ∈ found.map Checked.valid :=
          List.mem_map_of_mem (mem_of_mem_distinctEntries he)
        rw [← Checked.all_eq_valid_iff.mp hall] at hvalid
        obtain ⟨⟨key, w⟩, hmember, hread⟩ := List.mem_map.mp hvalid
        obtain ⟨t, ht, rfl⟩ := Checked.map_eq_valid hread
        obtain ⟨hkey, hw⟩ := hv (key, w) hmember
        exact ⟨hkey, (rereads_text hw (Checked.eq_valid_of_under ht)).writable⟩
  | _ => cases h

/-! ### Members of an object -/

variable {members : List (Text × Json)} {a : α}

/-- What is read of a member, or stands for one that is absent, is read back. -/
theorem Rereads.fieldOf (h : inner.Rereads write) (hmembers : (Json.object members).Writable) {names : List String}
    {absent : Checked α} (habsent : ∀ a, absent = .valid a → inner.ReadsBack write a)
    (hread : Schema.fieldOf names absent inner members = .valid a) : inner.ReadsBack write a := by
  rcases fieldOf_eq_valid hread with ⟨key, v, hfind, hvalid⟩ | hvalid
  · obtain ⟨m, hm, rfl⟩ := Option.map_eq_some_iff.mp hfind
    have hmem := List.mem_reverse.mp (List.mem_of_find?_eq_some hm)
    exact h (Json.writable_object_iff.mp hmembers m hmem).2 hvalid
  · exact habsent a hvalid

theorem Rereads.field (h : inner.Rereads write) (hmembers : (Json.object members).Writable) {name : String}
    (hread : Schema.field name inner members = .valid a) : inner.ReadsBack write a :=
  h.fieldOf hmembers (fun _ hmissing => by cases hmissing) hread

theorem Rereads.fieldD (h : inner.Rereads write) (hmembers : (Json.object members).Writable) {name : String}
    {default : α} (hdefault : inner.ReadsBack write default)
    (hread : Schema.fieldD name default inner members = .valid a) : inner.ReadsBack write a := by
  refine h.fieldOf hmembers ?_ hread
  rintro _ hvalid
  rw [← Checked.valid.inj hvalid]
  exact hdefault

end Schema

end PromptStudio
