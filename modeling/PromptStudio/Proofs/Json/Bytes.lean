import PromptStudio.Json.Document
import PromptStudio.Proofs.Json.Encodable
import PromptStudio.Proofs.Json.RoundTrip

/-!
# The bytes of a written value

A value that has bytes is read back from them. No control character stands in a written form, so no byte of it is zero;
and it starts with a character of ASCII. That is how a reader sees that the bytes are UTF-8.
-/

namespace PromptStudio

/-- Whether no control character stands in a text. -/
def Text.isPlain (t : Text) : Bool :=
  t.all fun p => 0x20 ≤ p.toNat

theorem Text.isPlain_append (t u : Text) : (t ++ u).isPlain = (t.isPlain && u.isPlain) := by
  rw [isPlain, isPlain, isPlain, List.all_append]

namespace Json

open Binary64 (Spelling)

/-! ### No control characters -/

theorem isPlain_digitText {ds : List Nat} (hlt : ∀ d ∈ ds, d < 10) : Text.isPlain (digitText ds) = true := by
  have hdigit : ∀ d < 10, 0x20 ≤ (Nat.digitChar d).toNat := by decide
  rw [Text.isPlain, List.all_eq_true, digitText, Binary64.digitChars, List.map_map]
  intro p hp
  obtain ⟨d, hd, rfl⟩ := List.mem_map.mp hp
  exact decide_eq_true (hdigit d (hlt d hd))

theorem isPlain_unitEscape (n : Nat) : Text.isPlain ((unitEscape n).map .char) = true := by
  have hdigit : ∀ m < 16, 0x20 ≤ (hexDigit m).toNat := by decide
  have hdigitOf := fun m => hdigit (m % 16) (Nat.mod_lt m (by decide))
  rw [unitEscape, Text.isPlain]
  simp only [List.map_cons, List.map_nil, List.all_cons, List.all_nil, Bool.and_true, CodePoint.toNat, hdigitOf,
    decide_true]
  decide

theorem isPlain_escape (form : Form) (p : CodePoint) : Text.isPlain (escape form p) = true := by
  rw [escape.eq_def]
  split
  any_goals rfl
  split
  · rw [codePointEscape]
    split
    · exact isPlain_unitEscape _
    · rw [List.map_append, Text.isPlain_append, isPlain_unitEscape, isPlain_unitEscape]
      rfl
  · rename_i hplain
    rw [not_or, Nat.not_lt] at hplain
    rw [Text.isPlain, List.all_cons, List.all_nil, Bool.and_true]
    exact decide_eq_true hplain.1

theorem isPlain_quoted (form : Form) (t : Text) : Text.isPlain (quoted form t) = true := by
  have hbody : Text.isPlain (t.flatMap (escape form)) = true := by
    rw [Text.isPlain, List.all_flatMap, List.all_eq_true]
    exact fun p _ => isPlain_escape form p
  rw [quoted, ← List.singleton_append, Text.isPlain_append, Text.isPlain_append, hbody]
  rfl

theorem isPlain_comma (form : Form) : Text.isPlain (comma form) = true := by
  rw [comma]
  split <;> rfl

theorem isPlain_colon (form : Form) : Text.isPlain (colon form) = true := by
  rw [colon]
  split <;> rfl

theorem isPlain_sign (negative : Bool) : Text.isPlain (if negative then [.char '-'] else []) = true := by
  cases negative <;> rfl

theorem isPlain_intShown (n : Int) : Text.isPlain (intShown n) = true := by
  have hsign := isPlain_sign (decide (n < 0))
  simp only [decide_eq_true_eq] at hsign
  rw [intShown_eq, Text.isPlain_append, hsign, isPlain_digitText (Binary64.lt_ten_of_mem_digitValues n.natAbs)]
  rfl

theorem isPlain_spelling {s : Spelling} (hs : s.WellFormed) : Text.isPlain (s.chars.map .char) = true := by
  have hpointed : Text.isPlain ((Spelling.pointed s.places).map .char) = true := by
    rw [Spelling.pointed]
    split
    · rfl
    · rw [List.map_cons, ← List.singleton_append, Text.isPlain_append]
      exact (Bool.and_eq_true _ _).mpr ⟨rfl, isPlain_digitText hs.places_lt⟩
  have hmark : Text.isPlain ((Spelling.mark s.power).map .char) = true := by
    cases hpower : s.power with
    | none => rfl
    | some power =>
        obtain ⟨negative, ds⟩ := power
        have hdigits := isPlain_digitText (hs.power_lt negative ds hpower).2
        cases negative <;> exact (Bool.and_eq_true _ _).mpr ⟨rfl, (Bool.and_eq_true _ _).mpr ⟨rfl, hdigits⟩⟩
  rw [← List.append_nil (List.map _ _), spelling_chars_append, List.append_nil, Text.isPlain_append,
    Text.isPlain_append, isPlain_digitText hs.whole_lt, hpointed, hmark]
  rfl

theorem isPlain_floatText (x : Binary64) : Text.isPlain ((floatText x).map .char) = true := by
  match x with
  | .nan | .infinite true | .infinite false => rfl
  | .finite negative rank =>
      rw [← List.append_nil (List.map _ _), floatText_finite, List.append_nil, Text.isPlain_append, isPlain_sign,
        isPlain_spelling (Binary64.wellFormed_spelling rank.val)]
      rfl

theorem isPlain_cons {p : CodePoint} (hp : 0x20 ≤ p.toNat) {t : Text} (ht : Text.isPlain t = true) :
    Text.isPlain (p :: t) = true := by
  rw [← List.singleton_append, Text.isPlain_append, ht]
  exact (Bool.and_eq_true _ _).mpr ⟨(Bool.and_eq_true _ _).mpr ⟨decide_eq_true hp, rfl⟩, rfl⟩

mutual

/-- No control character stands in the written form of a value. -/
theorem isPlain_render (form : Form) : ∀ v : Json, Text.isPlain (render form v) = true
  | .null | .bool true | .bool false => rfl
  | .int n => isPlain_intShown n
  | .float x => isPlain_floatText x
  | .string t => isPlain_quoted form t
  | .array items => isPlain_cons (by decide) (isPlain_renderItems form items)
  | .object members => isPlain_cons (by decide) (isPlain_renderMembers form members)

theorem isPlain_renderItems (form : Form) : ∀ items : List Json, Text.isPlain (renderItems form items) = true
  | [] => rfl
  | [v] => by
      rw [renderItems, Text.isPlain_append, isPlain_render form v]
      rfl
  | v :: w :: rest => by
      rw [renderItems, Text.isPlain_append, Text.isPlain_append, isPlain_comma, isPlain_render form v,
        isPlain_renderItems form (w :: rest)]
      · rfl
      · exact List.cons_ne_nil w rest

theorem isPlain_renderMembers (form : Form) : ∀ members : List (Text × Json),
    Text.isPlain (renderMembers form members) = true
  | [] => rfl
  | [(key, v)] => by
      rw [renderMembers, Text.isPlain_append, Text.isPlain_append, Text.isPlain_append, isPlain_quoted, isPlain_colon,
        isPlain_render form v]
      rfl
  | (key, v) :: w :: rest => by
      rw [renderMembers, Text.isPlain_append, Text.isPlain_append, Text.isPlain_append, Text.isPlain_append,
        isPlain_quoted, isPlain_colon, isPlain_comma, isPlain_render form v, isPlain_renderMembers form (w :: rest)]
      · rfl
      · exact List.cons_ne_nil w rest

end

/-! ### The document in the bytes -/

/-- The bytes of a plain text that starts with a character of ASCII show that they are UTF-8. -/
theorem decodeDetected?_encode? {p : CodePoint} {t : Text} (hascii : p.toNat < 0x80)
    (hplain : Text.isPlain (p :: t) = true) {bytes : Bytes} (h : Utf8.encode? (p :: t) = some bytes) :
    Encoding.decodeDetected? bytes = some (p :: t) := by
  have hread := Utf8.decode?_encode? true h
  rw [Utf8.encode?, Option.map_eq_some_iff] at h
  obtain ⟨cs, hcs, rfl⟩ := h
  have htext := Text.toChars?_eq_some.mp hcs
  cases cs with
  | nil => cases htext
  | cons c cs =>
      obtain ⟨rfl, rfl⟩ := List.cons_eq_cons.mp htext
      have hlow : c.toNat < 0x80 := hascii
      have hfirst : Utf8.ofChar c = [UInt8.ofNat c.toNat] := by
        rw [Utf8.ofChar, String.utf8EncodeChar]
        exact if_pos (by change c.toNat ≤ 127; omega)
      have hzero : ∀ b ∈ Utf8.ofChars (c :: cs), b ≠ 0 := by
        intro b hb
        obtain ⟨c', hc', hbyte⟩ := List.mem_flatMap.mp hb
        have hpoint := List.all_eq_true.mp hplain (.char c') (List.mem_map_of_mem hc')
        have hcontrol : 0x20 ≤ c'.toNat := of_decide_eq_true hpoint
        exact Utf8.ne_zero_of_mem_ofChar (by omega) hbyte
      have hbytes : Utf8.ofChars (c :: cs) = UInt8.ofNat c.toNat :: Utf8.ofChars cs := by
        rw [Utf8.ofChars, List.flatMap_cons, hfirst]
        rfl
      have hbyte : (UInt8.ofNat c.toNat).toNat < 0x80 := by
        rw [UInt8.toNat_ofNat_of_lt' (Nat.lt_trans hlow (by decide))]
        exact hlow
      rw [hbytes] at hzero
      have hdetect := Encoding.detect_eq_utf8 hbyte hzero
      rw [hbytes] at hread ⊢
      rw [Encoding.decodeDetected?, hdetect]
      exact hread

/-- The bytes of a written value are read as the text that was written. -/
theorem decodeDetected?_render {form : Form} {v : Json} {bytes : Bytes}
    (h : Utf8.encode? (render form v) = some bytes) : Encoding.decodeDetected? bytes = some (render form v) := by
  obtain ⟨p, more, htext, hstart⟩ := head_render form v
  have hplain := isPlain_render form v
  rw [startsValue, Bool.and_eq_true, Bool.and_eq_true, decide_eq_true_eq] at hstart
  rw [htext] at h hplain ⊢
  exact decodeDetected?_encode? hstart.1.1 hplain h

theorem ofBytes_render {form : Form} (hform : form.asciiOnly = false) {v : Json} {maxDepth : Nat}
    (hkeeps : v.every (Rule.lenient maxDepth).keeps = true) (hdepth : v.depth ≤ maxDepth) {bytes : Bytes}
    (h : Utf8.encode? (render form v) = some bytes) : ofBytes bytes maxDepth = .ok v := by
  have hread : read (.lenient maxDepth) (render form v) = .ok v := read_render hform hkeeps hdepth
  rw [ofBytes, decodeDetected?_render h]
  simp only [hread]
  rfl

theorem exists_encode?_render (form : Form) (hform : form.asciiOnly = false) {v : Json} (h : v.isEncodable = true) :
    ∃ bytes, Utf8.encode? (render form v) = some bytes := by
  rw [← isEncodable_render hform, ← Utf8.isSome_encode?] at h
  exact Option.isSome_iff_exists.mp h

end Json

end PromptStudio
