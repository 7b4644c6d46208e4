import PromptStudio.Json.Document
import PromptStudio.Json.Strict

/-!
# Values that can be written as bytes

A form that writes every character as it is writes a lone surrogate as it is, too, and a lone surrogate has no bytes.
So a value has bytes in such a form exactly if no text in it holds one. Whoever could compute the bytes of a value
knows this of all its texts, however deep they stand. An object of the program is mostly written down by its fields, and
what is asked of it can then be asked of the fields.
-/

namespace PromptStudio

namespace Text

theorem ofString_injective : Function.Injective ofString := by
  intro s t h
  have hread := congrArg Text.toString? h
  rw [toString?_ofString, toString?_ofString] at hread
  exact Option.some.inj hread

theorem isEncodable_map_char (cs : List Char) : isEncodable (cs.map .char) = true := by
  induction cs with
  | nil => rfl
  | cons c cs ih =>
      rw [List.map_cons, isEncodable, List.all_cons]
      exact ih

theorem isEncodable_cons (p : CodePoint) (t : Text) :
    isEncodable (p :: t) = (p.toChar?.isSome && isEncodable t) := by
  rw [isEncodable, isEncodable, List.all_cons]

theorem isEncodable_of_sublist {t whole : Text} (h : whole.isEncodable = true) (hsub : t.Sublist whole) :
    t.isEncodable = true := by
  rw [isEncodable, List.all_eq_true] at h ⊢
  exact fun p hp => h p (hsub.subset hp)

theorem isEncodable_intercalate {separator : Text} (hseparator : separator.isEncodable = true) :
    ∀ {parts : List Text}, (∀ part ∈ parts, part.isEncodable = true) →
      isEncodable (separator.intercalate parts) = true
  | [], _ => rfl
  | [part], h => by
      rw [List.intercalate_singleton]
      exact h part List.mem_cons_self
  | part :: next :: rest, h => by
      obtain ⟨hpart, hrest⟩ := List.forall_mem_cons.mp h
      rw [List.intercalate_cons_cons, isEncodable_append, isEncodable_append, hpart, hseparator,
        isEncodable_intercalate hseparator hrest]
      rfl

theorem isSome_toChars? (t : Text) : t.toChars?.isSome = t.isEncodable := by
  induction t with
  | nil => rfl
  | cons p t ih =>
      rw [isEncodable_cons, ← ih]
      cases p with
      | surrogate offset => rfl
      | char c =>
          simp only [toChars?, List.mapM_cons, CodePoint.toChar?, Option.isSome_some, Bool.true_and]
          cases t.mapM CodePoint.toChar? with
          | none => rfl
          | some cs => rfl

end Text

theorem Utf8.isSome_encode? (t : Text) : (Utf8.encode? t).isSome = t.isEncodable := by
  rw [Utf8.encode?, Option.isSome_map, Text.isSome_toChars?]

namespace Json

variable {form : Form}

theorem isEncodable_escape (hform : form.asciiOnly = false) (p : CodePoint) :
    Text.isEncodable (escape form p) = p.toChar?.isSome := by
  cases p with
  | surrogate offset =>
      have hwide : ¬ (0xD800 + offset.val < 0x20) := by omega
      simp only [escape, CodePoint.toNat, hwide, hform, Bool.false_eq_true, false_and, or_self, if_false]
      rfl
  | char c =>
      rw [escape.eq_def]
      split
      any_goals rfl
      split
      · rw [Text.isEncodable_map_char]
        rfl
      · rfl

theorem isEncodable_flatMap_escape (hform : form.asciiOnly = false) (t : Text) :
    Text.isEncodable (t.flatMap (escape form)) = t.isEncodable := by
  induction t with
  | nil => rfl
  | cons p t ih =>
      rw [List.flatMap_cons, Text.isEncodable_append, Text.isEncodable_cons, isEncodable_escape hform, ih]

theorem isEncodable_quoted (hform : form.asciiOnly = false) (t : Text) :
    Text.isEncodable (quoted form t) = t.isEncodable := by
  rw [quoted, Text.isEncodable_cons, Text.isEncodable_append, isEncodable_flatMap_escape hform]
  exact Bool.and_true _

theorem isEncodable_comma (form : Form) : Text.isEncodable (comma form) = true := by
  rw [comma]
  split <;> rfl

theorem isEncodable_colon (form : Form) : Text.isEncodable (colon form) = true := by
  rw [colon]
  split <;> rfl

mutual

/-- A value has bytes in a form without escapes exactly if every text in it has. -/
theorem isEncodable_render (hform : form.asciiOnly = false) :
    ∀ v : Json, Text.isEncodable (render form v) = v.isEncodable
  | .null => rfl
  | .bool true => rfl
  | .bool false => rfl
  | .int n => by
      rw [render, intShown, Text.isEncodable_map_char]
      rfl
  | .float x => by
      rw [render, Text.isEncodable_map_char]
      rfl
  | .string t => by
      rw [render, isEncodable_quoted hform]
      rfl
  | .array items => by
      rw [render, Text.isEncodable_cons, isEncodable_renderItems hform items]
      rfl
  | .object members => by
      rw [render, Text.isEncodable_cons, isEncodable_renderMembers hform members]
      rfl

theorem isEncodable_renderItems (hform : form.asciiOnly = false) :
    ∀ items : List Json, Text.isEncodable (renderItems form items)
      = allItems (fun _ => true) Text.isEncodable items
  | [] => rfl
  | [v] => by
      rw [renderItems, Text.isEncodable_append, isEncodable_render hform v]
      rfl
  | v :: w :: rest => by
      rw [renderItems, Text.isEncodable_append, Text.isEncodable_append, isEncodable_comma, Bool.true_and,
        isEncodable_render hform v, isEncodable_renderItems hform (w :: rest)]
      · rfl
      · exact List.cons_ne_nil w rest

theorem isEncodable_renderMembers (hform : form.asciiOnly = false) :
    ∀ members : List (Text × Json), Text.isEncodable (renderMembers form members)
      = allMembers (fun _ => true) Text.isEncodable members
  | [] => rfl
  | [(key, v)] => by
      rw [renderMembers, Text.isEncodable_append, Text.isEncodable_append, Text.isEncodable_append,
        isEncodable_quoted hform, isEncodable_colon, Bool.true_and, isEncodable_render hform v, allMembers,
        Bool.and_assoc]
      rfl
  | (key, v) :: w :: rest => by
      rw [renderMembers, Text.isEncodable_append, Text.isEncodable_append, Text.isEncodable_append,
        Text.isEncodable_append, isEncodable_quoted hform, isEncodable_colon, isEncodable_comma, Bool.true_and,
        Bool.true_and, isEncodable_render hform v, isEncodable_renderMembers hform (w :: rest), ← Bool.and_assoc]
      · rfl
      · exact List.cons_ne_nil w rest

end

/-- A value that does not nest too deep is written as the bytes of its text. -/
theorem toBytes_eq_ok {v : Json} {maxDepth : Nat} {bytes : Bytes} :
    toBytes form v maxDepth = .ok bytes ↔ v.depth ≤ maxDepth ∧ Utf8.encode? (render form v) = some bytes := by
  rw [toBytes]
  split
  · rename_i hdeep
    exact iff_of_false (by simp) fun h => absurd h.1 (Nat.not_le.mpr hdeep)
  · rename_i hdepth
    rw [and_iff_right (Nat.not_lt.mp hdepth)]
    split
    · rename_i found hfound
      rw [hfound, Except.ok.injEq, Option.some.injEq]
    · rename_i hnone
      rw [hnone]
      exact iff_of_false (by simp) (by simp)

theorem isEncodable_of_toBytes (hform : form.asciiOnly = false) {v : Json} {maxDepth : Nat} {bytes : Bytes}
    (h : toBytes form v maxDepth = .ok bytes) : v.isEncodable = true := by
  rw [← isEncodable_render hform, ← Utf8.isSome_encode?, (toBytes_eq_ok.mp h).2]
  rfl

/-! ### The members of an object -/

/-- Of an object that is written down by its fields, the last one of a name is read. -/
theorem get?_ofFields (fields : List (String × Json)) (name : String) :
    (ofFields fields).get? name = (fields.reverse.find? (·.1 == name)).map (·.2) := by
  have hname : ((fun m : Text × Json => m.1 == Text.ofString name) ∘ fun f : String × Json => (Text.ofString f.1, f.2))
      = fun f => f.1 == name := by
    funext f
    rw [Function.comp_apply, Bool.eq_iff_iff, beq_iff_eq, beq_iff_eq]
    constructor
    · intro h
      exact Text.ofString_injective h
    · intro h
      rw [h]
  rw [ofFields, get?, find?, ← List.map_reverse, List.find?_map, Option.map_map, hname]
  rfl

theorem isEncodable_ofFields (fields : List (String × Json)) :
    (ofFields fields).isEncodable = fields.all fun f => f.2.isEncodable := by
  rw [ofFields, isEncodable, all]
  induction fields with
  | nil => rfl
  | cons f fields ih => rw [List.map_cons, allMembers, ih, Text.isEncodable_ofString, Bool.true_and, List.all_cons]

theorem isEncodable_ofTexts (texts : List Text) : (ofTexts texts).isEncodable = texts.all Text.isEncodable := by
  rw [ofTexts, isEncodable, all]
  induction texts with
  | nil => rfl
  | cons t texts ih =>
      rw [List.map_cons, allItems, ih]
      rfl

theorem isEncodable_of_mem {members : List (Text × Json)} (h : (Json.object members).isEncodable = true)
    {member : Text × Json} (hmem : member ∈ members) : member.2.isEncodable = true := by
  have hall : allMembers (fun _ => true) Text.isEncodable members = true := h
  clear h
  induction members with
  | nil => cases hmem
  | cons m rest ih =>
      rw [allMembers, Bool.and_eq_true, Bool.and_eq_true] at hall
      rcases List.mem_cons.mp hmem with rfl | hrest
      · exact hall.1.2
      · exact ih hrest hall.2

theorem isEncodable_of_find? {members : List (Text × Json)} (h : (Json.object members).isEncodable = true)
    {key : Text} {v : Json} (hfind : find? members key = some v) : v.isEncodable = true := by
  rw [find?, Option.map_eq_some_iff] at hfind
  obtain ⟨member, hmember, rfl⟩ := hfind
  exact isEncodable_of_mem h (List.mem_reverse.mp (List.mem_of_find?_eq_some hmember))

end Json

end PromptStudio
