import PromptStudio.Proofs.Json.Encodable
import PromptStudio.Proofs.Json.Lexeme

/-!
# Reading back what was written

A value that is written is read back from in front of any rest. The reader asks two things of it: that no integer has more
digits than are read, and that nothing nests deeper than the rule goes. What it then gives is `reread`: every text is what
the rule reads of it, and the members of an object are put together by the rule. Where texts are written as they are and
no object repeats a key, unless repeats are kept, that is the value itself; so two values with one written form are one
value.
-/

namespace PromptStudio.Json

/-! ### What is asked of every part of a value -/

mutual

/-- Whether a value and every value in it passes a test. -/
def every (test : Json → Bool) : Json → Bool
  | .array items => test (.array items) && everyItem test items
  | .object members => test (.object members) && everyMember test members
  | v => test v

def everyItem (test : Json → Bool) : List Json → Bool
  | [] => true
  | v :: rest => every test v && everyItem test rest

def everyMember (test : Json → Bool) : List (Text × Json) → Bool
  | [] => true
  | (_, v) :: rest => every test v && everyMember test rest

end

def isShort (n : Int) : Bool :=
  (Binary64.digitsOf n.natAbs).length ≤ maxIntegerDigits

def isShortInteger : Json → Bool
  | .int n => isShort n
  | _ => true

def repeatsNoKey : Json → Bool
  | .object members => (members.map (·.1)).Nodup
  | _ => true

def hasShortIntegers : Json → Bool :=
  every isShortInteger

def hasDistinctKeys : Json → Bool :=
  every repeatsNoKey

mutual

theorem every_and (p q : Json → Bool) : ∀ v : Json, every (fun w => p w && q w) v = (every p v && every q v)
  | .null | .bool _ | .int _ | .float _ | .string _ => rfl
  | .array items => by
      rw [every, every, every, everyItem_and p q items]
      simp only [Bool.and_assoc, Bool.and_left_comm]
  | .object members => by
      rw [every, every, every, everyMember_and p q members]
      simp only [Bool.and_assoc, Bool.and_left_comm]

theorem everyItem_and (p q : Json → Bool) : ∀ items : List Json,
    everyItem (fun w => p w && q w) items = (everyItem p items && everyItem q items)
  | [] => rfl
  | v :: rest => by
      rw [everyItem, everyItem, everyItem, every_and p q v, everyItem_and p q rest]
      simp only [Bool.and_assoc, Bool.and_left_comm]

theorem everyMember_and (p q : Json → Bool) : ∀ members : List (Text × Json),
    everyMember (fun w => p w && q w) members = (everyMember p members && everyMember q members)
  | [] => rfl
  | (_, v) :: rest => by
      rw [everyMember, everyMember, everyMember, every_and p q v, everyMember_and p q rest]
      simp only [Bool.and_assoc, Bool.and_left_comm]

end

theorem every_ofFields (test : Json → Bool) (fields : List (String × Json)) :
    every test (ofFields fields) = (test (ofFields fields) && fields.all fun f => every test f.2) := by
  have hmembers : everyMember test (fields.map fun f => (Text.ofString f.1, f.2))
      = fields.all fun f => every test f.2 := by
    induction fields with
    | nil => rfl
    | cons f fields ih => rw [List.map_cons, everyMember, ih, List.all_cons]
  rw [ofFields, every, hmembers]

theorem repeatsNoKey_ofFields {fields : List (String × Json)} (h : (fields.map (·.1)).Nodup) :
    repeatsNoKey (ofFields fields) = true := by
  have hkeys : (fields.map fun f => (Text.ofString f.1, f.2)).map (·.1) = (fields.map (·.1)).map Text.ofString := by
    rw [List.map_map, List.map_map]
    rfl
  rw [ofFields, repeatsNoKey, hkeys]
  exact decide_eq_true (List.Pairwise.map _ (fun _ _ hne heq => hne (Text.ofString_injective heq)) h)

/-- What a rule reads back of a value, its parts and its depth apart. -/
def Rule.keeps (rule : Rule) (v : Json) : Bool :=
  isShortInteger v && (rule.keepsRepeats || repeatsNoKey v)

/-- Short integers and distinct keys are enough for every rule. -/
theorem every_keeps (rule : Rule) {v : Json} (hshort : v.hasShortIntegers = true) (hdistinct : v.hasDistinctKeys = true) :
    v.every rule.keeps = true := by
  cases hrepeats : rule.keepsRepeats
  · have htest : rule.keeps = fun w => isShortInteger w && repeatsNoKey w := by
      funext w
      rw [Rule.keeps, hrepeats, Bool.false_or]
    rw [htest, every_and, Bool.and_eq_true]
    exact ⟨hshort, hdistinct⟩
  · have htest : rule.keeps = isShortInteger := by
      funext w
      rw [Rule.keeps, hrepeats, Bool.true_or, Bool.and_true]
    rw [htest]
    exact hshort

def Rule.keepsKeys (rule : Rule) (v : Json) : Bool :=
  rule.keepsRepeats || repeatsNoKey v

theorem every_keeps_iff {rule : Rule} {v : Json} :
    v.every rule.keeps = true ↔ v.hasShortIntegers = true ∧ v.every rule.keepsKeys = true := by
  have hkeeps : rule.keeps = fun w => isShortInteger w && rule.keepsKeys w := rfl
  rw [hkeeps, every_and, Bool.and_eq_true, hasShortIntegers]

/-! ### Where a value starts -/

/-- A code point with which a value may start: one of ASCII, no blank, and no bracket that closes. -/
def startsValue (p : CodePoint) : Bool :=
  p.toNat < 0x80 && !isBlank p && p != .char ']'

theorem startsValue_digitChar : ∀ d < 10, startsValue (.char (Nat.digitChar d)) = true := by
  decide

theorem skipBlanks_of_startsValue {p : CodePoint} (h : startsValue p = true) (rest : Text) :
    skipBlanks (p :: rest) = p :: rest := by
  rw [startsValue, Bool.and_eq_true, Bool.and_eq_true, Bool.not_eq_true'] at h
  rw [skipBlanks, List.dropWhile_cons_of_neg]
  simp only [h.1.2, Bool.false_eq_true, not_false_eq_true]

theorem head_signed_digits (negative : Bool) {ds : List Nat} (hlt : ∀ d ∈ ds, d < 10) (hne : ds ≠ []) (more : Text) :
    ∃ p rest, (if negative then [.char '-'] else []) ++ (digitText ds ++ more) = p :: rest ∧ startsValue p = true := by
  obtain ⟨d, ds, rfl⟩ := List.exists_cons_of_ne_nil hne
  cases negative
  · exact ⟨_, _, rfl, startsValue_digitChar d (hlt d List.mem_cons_self)⟩
  · exact ⟨_, _, rfl, rfl⟩

theorem head_render (form : Form) (v : Json) : ∃ p more, render form v = p :: more ∧ startsValue p = true := by
  match v with
  | .null | .bool true | .bool false | .string _ | .array _ | .object _ => exact ⟨_, _, rfl, rfl⟩
  | .float .nan | .float (.infinite true) | .float (.infinite false) => exact ⟨_, _, rfl, rfl⟩
  | .float (.finite negative rank) =>
      have hs := Binary64.wellFormed_spelling rank.val
      rw [render, ← List.append_nil (List.map _ _), floatText_finite, spelling_chars_append]
      exact head_signed_digits negative hs.whole_lt hs.whole_ne_nil _
  | .int n =>
      have hhead := head_signed_digits (decide (n < 0)) (Binary64.lt_ten_of_mem_digitValues n.natAbs)
        (Binary64.digitValues_ne_nil n.natAbs) []
      rw [render, intShown_eq]
      simpa only [decide_eq_true_eq, List.append_nil] using hhead

theorem skipBlanks_render (form : Form) (v : Json) (rest : Text) :
    skipBlanks (render form v ++ rest) = render form v ++ rest := by
  obtain ⟨p, more, htext, hstart⟩ := head_render form v
  rw [htext, List.cons_append, skipBlanks_of_startsValue hstart]

theorem length_render_pos (form : Form) (v : Json) : 0 < (render form v).length := by
  obtain ⟨p, more, htext, -⟩ := head_render form v
  rw [htext]
  exact Nat.succ_pos more.length

theorem renderItems_cons (form : Form) (v : Json) (rest : List Json) :
    ∃ more, renderItems form (v :: rest) = render form v ++ more := by
  cases rest with
  | nil => exact ⟨_, renderItems.eq_2 form v⟩
  | cons w rest => exact ⟨_, renderItems.eq_3 form v (w :: rest) (List.cons_ne_nil w rest)⟩

theorem skipBlanks_renderItems (form : Form) (v : Json) (items : List Json) (rest : Text) :
    skipBlanks (renderItems form (v :: items) ++ rest) = renderItems form (v :: items) ++ rest := by
  obtain ⟨more, htext⟩ := renderItems_cons form v items
  rw [htext, List.append_assoc, skipBlanks_render]

theorem renderMembers_cons (form : Form) (m : Text × Json) (rest : List (Text × Json)) :
    ∃ more, renderMembers form (m :: rest) = .char '"' :: more := by
  obtain ⟨key, v⟩ := m
  cases rest with
  | nil => exact ⟨_, renderMembers.eq_2 form key v⟩
  | cons w rest => exact ⟨_, renderMembers.eq_3 form key v (w :: rest) (List.cons_ne_nil w rest)⟩

theorem skipBlanks_renderMembers (form : Form) (m : Text × Json) (members : List (Text × Json)) (rest : Text) :
    skipBlanks (renderMembers form (m :: members) ++ rest) = renderMembers form (m :: members) ++ rest := by
  obtain ⟨more, htext⟩ := renderMembers_cons form m members
  rw [htext]
  rfl

theorem skipBlanks_gap (form : Form) {t : Text} (ht : skipBlanks t = t) :
    ∃ gap, comma form = .char ',' :: gap ∧ colon form = .char ':' :: gap ∧ skipBlanks (gap ++ t) = t := by
  rw [comma, colon]
  split
  · exact ⟨[.char ' '], rfl, rfl, ht⟩
  · exact ⟨[], rfl, rfl, ht⟩

/-! ### What is read back -/

/-- A member behind those read so far comes last, unless it repeats one of their keys. -/
theorem Rule.addMember_eq {rule : Rule} {done members : List (Text × Json)} {key : Text} {v : Json}
    (h : rule.keepsRepeats = true ∨ ((done ++ (key, v) :: members).map (·.1)).Nodup) :
    rule.addMember done key v = done ++ [(key, v)] := by
  rw [addMember]
  split
  · rfl
  · rename_i hmerges
    have hdistinct := h.resolve_left hmerges
    rw [List.map_append, List.map_cons, List.nodup_append] at hdistinct
    rw [insert, if_neg]
    intro hany
    obtain ⟨m, hm, hkey⟩ := List.any_eq_true.mp hany
    exact hdistinct.2.2 m.1 (List.mem_map_of_mem hm) key List.mem_cons_self (beq_iff_eq.mp hkey)

/-- Members as a rule puts them together, behind those read so far. -/
def Rule.gather (rule : Rule) (done members : List (Text × Json)) : List (Text × Json) :=
  members.foldl (fun done m => rule.addMember done m.1 m.2) done

theorem Rule.gather_eq {rule : Rule} {members : List (Text × Json)} : ∀ {done : List (Text × Json)},
    rule.keepsRepeats = true ∨ ((done ++ members).map (·.1)).Nodup → rule.gather done members = done ++ members := by
  induction members with
  | nil => exact fun _ => (List.append_nil _).symm
  | cons m rest ih =>
      intro done h
      rw [gather, List.foldl_cons, addMember_eq h, ← gather, ih (by rwa [List.append_assoc]), List.append_assoc]
      rfl

mutual

/-- The value that a rule reads where it reads of every text what `back` gives. -/
def reread (rule : Rule) (back : Text → Text) : Json → Json
  | .string t => .string (back t)
  | .array items => .array (rereadItems rule back items)
  | .object members => .object (rule.gather [] (rereadMembers rule back members))
  | v => v

def rereadItems (rule : Rule) (back : Text → Text) : List Json → List Json
  | [] => []
  | v :: rest => reread rule back v :: rereadItems rule back rest

/-- The members, keys and values as they are read. -/
def rereadMembers (rule : Rule) (back : Text → Text) : List (Text × Json) → List (Text × Json)
  | [] => []
  | (key, v) :: rest => (back key, reread rule back v) :: rereadMembers rule back rest

end

section

variable {rule : Rule} {back : Text → Text} {keepsText : Text → Bool}

mutual

theorem reread_eq_self (hback : ∀ t, keepsText t = true → back t = t) : ∀ {v : Json}, v.every rule.keepsKeys = true →
    all (fun _ => true) keepsText v = true → reread rule back v = v
  | .string t, _, h => congrArg Json.string (hback t h)
  | .array items, hkeys, h => by
      rw [every, Bool.and_eq_true] at hkeys
      rw [reread, rereadItems_eq_self hback hkeys.2 h]
  | .object members, hkeys, h => by
      rw [every, Bool.and_eq_true, Rule.keepsKeys, Bool.or_eq_true, repeatsNoKey, decide_eq_true_eq] at hkeys
      rw [reread, rereadMembers_eq_self hback hkeys.2 h, Rule.gather_eq hkeys.1]
      rfl
  | .null, _, _ | .bool _, _, _ | .int _, _, _ | .float _, _, _ => rfl

theorem rereadItems_eq_self (hback : ∀ t, keepsText t = true → back t = t) : ∀ {items : List Json},
    everyItem rule.keepsKeys items = true → allItems (fun _ => true) keepsText items = true →
      rereadItems rule back items = items
  | [], _, _ => rfl
  | v :: rest, hkeys, h => by
      rw [everyItem, Bool.and_eq_true] at hkeys
      rw [allItems, Bool.and_eq_true] at h
      rw [rereadItems, reread_eq_self hback hkeys.1 h.1, rereadItems_eq_self hback hkeys.2 h.2]

theorem rereadMembers_eq_self (hback : ∀ t, keepsText t = true → back t = t) : ∀ {members : List (Text × Json)},
    everyMember rule.keepsKeys members = true → allMembers (fun _ => true) keepsText members = true →
      rereadMembers rule back members = members
  | [], _, _ => rfl
  | (key, v) :: rest, hkeys, h => by
      rw [everyMember, Bool.and_eq_true] at hkeys
      rw [allMembers, Bool.and_eq_true, Bool.and_eq_true] at h
      rw [rereadMembers, hback key h.1.1, reread_eq_self hback hkeys.1 h.1.2,
        rereadMembers_eq_self hback hkeys.2 h.2]

end

mutual

theorem all_true : ∀ v : Json, all (fun _ => true) (fun _ => true) v = true
  | .array items => allItems_true items
  | .object members => allMembers_true members
  | .null | .bool _ | .int _ | .float _ | .string _ => rfl

theorem allItems_true : ∀ items : List Json, allItems (fun _ => true) (fun _ => true) items = true
  | [] => rfl
  | v :: rest => by rw [allItems, all_true v, allItems_true rest]; rfl

theorem allMembers_true : ∀ members : List (Text × Json), allMembers (fun _ => true) (fun _ => true) members = true
  | [] => rfl
  | (_, v) :: rest => by rw [allMembers, all_true v, allMembers_true rest]; rfl

end

end

/-- A rule reads of every text what `back` gives, where the text is written in a form. -/
def Rule.ReadsTexts (rule : Rule) (form : Form) (back : Text → Text) : Prop :=
  ∀ (t rest : Text) (fuel : Nat), t.length < fuel →
    stringBody rule fuel [] (t.flatMap (escape form) ++ .char '"' :: rest) = .ok (back t, rest)

theorem Rule.readsTexts_id (rule : Rule) {form : Form} (hform : form.asciiOnly = false) : rule.ReadsTexts form id :=
  fun t rest fuel hfuel => stringBody_flatMap_escape rule hform t rest fuel [] hfuel

/-! ### Steps of the reader -/

section

variable {rule : Rule} {fuel depth : Nat} {v : Json} {t rest : Text}

theorem value_openArray (hshallow : ¬ rule.maxDepth ≤ depth) (hskip : skipBlanks t = t)
    (hopen : ∀ more, t ≠ .char ']' :: more) :
    value rule (fuel + 1) depth (.char '[' :: t) = items rule fuel (depth + 1) [] t := by
  rw [value, if_neg hshallow, hskip]
  split
  · exact absurd rfl (hopen _)
  · rfl

theorem value_openObject (hshallow : ¬ rule.maxDepth ≤ depth) :
    value rule (fuel + 1) depth (.char '\x7b' :: .char '"' :: t)
      = members rule fuel (depth + 1) [] (.char '"' :: t) := by
  rw [value, if_neg hshallow]
  rfl

theorem items_more {done : List Json} (h : value rule fuel depth t = .ok (v, .char ',' :: rest)) :
    items rule (fuel + 1) depth done t = items rule fuel depth (v :: done) (skipBlanks rest) := by
  rw [items, h]
  rfl

theorem items_last {done : List Json} (h : value rule fuel depth t = .ok (v, .char ']' :: rest)) :
    items rule (fuel + 1) depth done t = .ok (.array (v :: done).reverse, rest) := by
  rw [items, h]
  rfl

theorem Rule.ReadsTexts.quoted {form : Form} {back : Text → Text} (hback : rule.ReadsTexts form back) {key : Text}
    (hfuel : (quoted form key).length ≤ fuel + 1) (rest : Text) :
    ∃ more, Json.quoted form key ++ rest = .char '"' :: more ∧ stringBody rule fuel [] more = .ok (back key, rest) := by
  have hlength := length_add_two_le_quoted form key
  refine ⟨key.flatMap (escape form) ++ .char '"' :: rest, ?_, hback key rest fuel (by omega)⟩
  rw [Json.quoted, List.cons_append, List.append_assoc, List.singleton_append]

/-- A key and its value are read, and what stands behind them decides. -/
theorem members_quoted {form : Form} {back : Text → Text} (hback : rule.ReadsTexts form back) {key : Text} {w : Json}
    {done : List (Text × Json)} (hfuel : (quoted form key).length ≤ fuel + 1)
    (hvalue : value rule fuel depth (render form v ++ rest) = .ok (w, rest)) :
    members rule (fuel + 1) depth done (quoted form key ++ (colon form ++ (render form v ++ rest)))
      = match skipBlanks rest with
        | .char ',' :: rest => members rule fuel depth (rule.addMember done (back key) w) (skipBlanks rest)
        | .char '\x7d' :: rest => .ok (.object (rule.addMember done (back key) w), rest)
        | _ => .error .malformed := by
  obtain ⟨gap, -, hcolon, hskip⟩ := skipBlanks_gap form (skipBlanks_render form v rest)
  obtain ⟨more, htext, hkey⟩ := hback.quoted hfuel (colon form ++ (render form v ++ rest))
  rw [hcolon, List.cons_append] at hkey
  rw [htext, members, hkey]
  change (value rule fuel depth (skipBlanks (gap ++ (render form v ++ rest)))).bind _ = _
  rw [hskip, hvalue]
  rfl

end

theorem endsNumber_comma (form : Form) (rest : Text) : EndsNumber (comma form ++ rest) := by
  rw [comma]
  split
  all_goals
    intro p more h
    rw [← (List.cons_eq_cons.mp h).1]
    decide

theorem endsNumber_close {p : CodePoint} (hp : p = .char ']' ∨ p = .char '\x7d') (rest : Text) :
    EndsNumber (p :: rest) := by
  intro q more h
  rw [← (List.cons_eq_cons.mp h).1]
  rcases hp with rfl | rfl <;> decide

section

variable {form : Form} {rule : Rule} {back : Text → Text}

theorem value_quoted (hback : rule.ReadsTexts form back) (t : Text) {fuel : Nat}
    (hfuel : (quoted form t).length ≤ fuel + 1) (depth : Nat) (rest : Text) :
    value rule (fuel + 1) depth (quoted form t ++ rest) = .ok (.string (back t), rest) := by
  obtain ⟨more, htext, hread⟩ := hback.quoted hfuel rest
  rw [htext, value, hread]
  rfl

mutual

/-- A value is read back from in front of any rest that does not go on with a number. The induction is on the value; every
reader takes a code point before it calls another, so the length of the text is fuel enough. -/
theorem value_render (hback : rule.ReadsTexts form back) : ∀ (v : Json) (fuel depth : Nat) (rest : Text),
    v.hasShortIntegers = true → (render form v).length ≤ fuel + 1 → depth + v.depth ≤ rule.maxDepth → EndsNumber rest →
    value rule (fuel + 1) depth (render form v ++ rest) = .ok (reread rule back v, rest)
  | .null, fuel, depth, rest, _, _, _, _ => rfl
  | .bool true, fuel, depth, rest, _, _, _, _ => rfl
  | .bool false, fuel, depth, rest, _, _, _, _ => rfl
  | .int n, fuel, depth, rest, hshort, _, _, hrest => by
      have hnode : isShort n = true := hshort
      rw [isShort, decide_eq_true_eq] at hnode
      exact value_intShown rule fuel depth hnode hrest
  | .float x, fuel, depth, rest, _, _, _, hrest => value_floatText rule fuel depth x hrest
  | .string t, fuel, depth, rest, _, hfuel, _, _ => value_quoted hback t hfuel depth rest
  | .array items, fuel, depth, rest, hshort, hfuel, hdepth, _ => by
      have hitems := items_render hback items fuel (depth + 1) [] rest
      rw [hasShortIntegers, every, Bool.and_eq_true] at hshort
      rw [render, List.length_cons] at hfuel
      rw [Json.depth] at hdepth
      cases items with
      | nil => exact if_neg (by omega)
      | cons v items =>
          obtain ⟨p, more, htext, hstart⟩ := head_render form v
          obtain ⟨tail, hfirst⟩ := renderItems_cons form v items
          have hread := hitems (List.cons_ne_nil v items) hshort.2 (by omega) (by omega)
          rw [render, List.cons_append, value_openArray (by omega) (skipBlanks_renderItems form v items rest), hread]
          · rfl
          · intro other hclose
            rw [hfirst, htext] at hclose
            rw [(List.cons_eq_cons.mp hclose).1] at hstart
            exact absurd hstart (by decide)
  | .object members, fuel, depth, rest, hshort, hfuel, hdepth, _ => by
      have hmembers := members_render hback members fuel (depth + 1) [] rest
      rw [hasShortIntegers, every, Bool.and_eq_true] at hshort
      rw [render, List.length_cons] at hfuel
      rw [Json.depth] at hdepth
      cases members with
      | nil => exact if_neg (by omega)
      | cons m members =>
          obtain ⟨more, htext⟩ := renderMembers_cons form m members
          have hread := hmembers (List.cons_ne_nil m members) hshort.2 (by omega) (by omega)
          rw [htext] at hread
          rw [render, List.cons_append, htext, List.cons_append, value_openObject (by omega)]
          exact hread

theorem items_render (hback : rule.ReadsTexts form back) : ∀ (items : List Json) (fuel depth : Nat) (done : List Json)
    (rest : Text), items ≠ [] → everyItem isShortInteger items = true → (renderItems form items).length ≤ fuel →
    depth + depthOfItems items ≤ rule.maxDepth →
    Json.items rule fuel depth done (renderItems form items ++ rest)
      = .ok (.array (done.reverse ++ rereadItems rule back items), rest)
  | [], _, _, _, _, hne, _, _, _ => absurd rfl hne
  | [v], fuel, depth, done, rest, _, hshort, hfuel, hdepth => by
      have hpos := length_render_pos form v
      rw [everyItem, Bool.and_eq_true] at hshort
      rw [renderItems, List.length_append, List.length_singleton] at hfuel
      rw [depthOfItems] at hdepth
      -- One step of fuel is for the reader of items, one for the reader of the value.
      obtain ⟨fuel, rfl⟩ : ∃ less, fuel = less + 2 := ⟨fuel - 2, by omega⟩
      have hread := value_render hback v fuel depth (.char ']' :: rest) hshort.1 (by omega) (by omega)
        (endsNumber_close (.inl rfl) rest)
      rw [renderItems, List.append_assoc, List.singleton_append, items_last hread, List.reverse_cons]
      rfl
  | v :: w :: items, fuel, depth, done, rest, _, hshort, hfuel, hdepth => by
      have hpos := length_render_pos form v
      obtain ⟨gap, hcomma, -, hskip⟩ := skipBlanks_gap form (skipBlanks_renderItems form w items rest)
      rw [everyItem, Bool.and_eq_true] at hshort
      rw [renderItems.eq_3 form v (w :: items) (List.cons_ne_nil w items)] at hfuel ⊢
      rw [List.length_append, List.length_append, hcomma, List.length_cons] at hfuel
      rw [depthOfItems] at hdepth
      obtain ⟨fuel, rfl⟩ : ∃ less, fuel = less + 2 := ⟨fuel - 2, by omega⟩
      have hread := value_render hback v fuel depth (comma form ++ (renderItems form (w :: items) ++ rest)) hshort.1
        (by omega) (by omega) (endsNumber_comma form _)
      rw [hcomma, List.cons_append] at hread
      have hmore := items_render hback (w :: items) (fuel + 1) depth (reread rule back v :: done) rest
        (List.cons_ne_nil w items) hshort.2 (by omega) (by omega)
      rw [List.append_assoc, List.append_assoc, hcomma, List.cons_append, items_more hread, hskip, hmore,
        List.reverse_cons, List.append_assoc, List.singleton_append, rereadItems.eq_2 rule back v]

theorem members_render (hback : rule.ReadsTexts form back) : ∀ (members : List (Text × Json)) (fuel depth : Nat)
    (done : List (Text × Json)) (rest : Text), members ≠ [] → everyMember isShortInteger members = true →
    (renderMembers form members).length ≤ fuel → depth + depthOfMembers members ≤ rule.maxDepth →
    Json.members rule fuel depth done (renderMembers form members ++ rest)
      = .ok (.object (rule.gather done (rereadMembers rule back members)), rest)
  | [], _, _, _, _, hne, _, _, _ => absurd rfl hne
  | [(key, v)], fuel, depth, done, rest, _, hshort, hfuel, hdepth => by
      have hpos := length_render_pos form v
      rw [everyMember, Bool.and_eq_true] at hshort
      rw [renderMembers, List.length_append, List.length_append, List.length_append, List.length_singleton] at hfuel
      rw [depthOfMembers] at hdepth
      obtain ⟨fuel, rfl⟩ : ∃ less, fuel = less + 2 := ⟨fuel - 2, by omega⟩
      have hread := value_render hback v fuel depth (.char '\x7d' :: rest) hshort.1 (by omega) (by omega)
        (endsNumber_close (.inr rfl) rest)
      rw [renderMembers, List.append_assoc, List.append_assoc, List.append_assoc, List.singleton_append,
        members_quoted hback (by omega) hread]
      rfl
  | (key, v) :: w :: members, fuel, depth, done, rest, _, hshort, hfuel, hdepth => by
      have hpos := length_render_pos form v
      obtain ⟨gap, hcomma, -, hskip⟩ := skipBlanks_gap form (skipBlanks_renderMembers form w members rest)
      rw [everyMember, Bool.and_eq_true] at hshort
      rw [renderMembers.eq_3 form key v (w :: members) (List.cons_ne_nil w members)] at hfuel ⊢
      rw [List.length_append, List.length_append, List.length_append, List.length_append, hcomma,
        List.length_cons] at hfuel
      rw [depthOfMembers] at hdepth
      obtain ⟨fuel, rfl⟩ : ∃ less, fuel = less + 2 := ⟨fuel - 2, by omega⟩
      have hread := value_render hback v fuel depth (comma form ++ (renderMembers form (w :: members) ++ rest)) hshort.1
        (by omega) (by omega) (endsNumber_comma form _)
      have hmore := members_render hback (w :: members) (fuel + 1) depth
        (rule.addMember done (back key) (reread rule back v)) rest (List.cons_ne_nil w members) hshort.2 (by omega)
        (by omega)
      rw [List.append_assoc, List.append_assoc, List.append_assoc, List.append_assoc,
        members_quoted hback (by omega) hread, hcomma]
      change Json.members rule (fuel + 1) depth _ (skipBlanks (gap ++ _)) = _
      rw [hskip, hmore]
      rfl

end

end

/-! ### Whole texts -/

/-- A written value is read as the rule reads its texts and puts its members together. -/
theorem read_render_eq {form : Form} {rule : Rule} {back : Text → Text} (hback : rule.ReadsTexts form back) {v : Json}
    (hshort : v.hasShortIntegers = true) (hdepth : v.depth ≤ rule.maxDepth) :
    read rule (render form v) = .ok (reread rule back v) := by
  have hskip := skipBlanks_render form v []
  have hvalue := value_render hback v (render form v).length 0 [] hshort (Nat.le_succ _) (by omega)
    (fun p more hnil => absurd hnil (List.cons_ne_nil p more).symm)
  rw [List.append_nil] at hskip hvalue
  rw [read, hskip, hvalue]
  rfl

theorem read_render {form : Form} {rule : Rule} (hform : form.asciiOnly = false) {v : Json}
    (hkeeps : v.every rule.keeps = true) (hdepth : v.depth ≤ rule.maxDepth) : read rule (render form v) = .ok v := by
  obtain ⟨hshort, hkeys⟩ := every_keeps_iff.mp hkeeps
  have hself : reread rule id v = v := reread_eq_self (fun _ _ => rfl) hkeys (all_true v)
  rw [read_render_eq (rule.readsTexts_id hform) hshort hdepth, hself]

theorem render_injective (form : Form) (hform : form.asciiOnly = false) {v w : Json}
    (hv : v.hasShortIntegers = true) (hw : w.hasShortIntegers = true) (h : render form v = render form w) : v = w := by
  let rule : Rule := ⟨true, true, false, max v.depth w.depth⟩
  have hrule : rule.keeps = isShortInteger := by
    funext x
    exact Bool.and_true _
  have hreadV : read rule (render form v) = .ok v :=
    read_render hform (by rw [hrule]; exact hv) (Nat.le_max_left _ _)
  have hreadW : read rule (render form w) = .ok w :=
    read_render hform (by rw [hrule]; exact hw) (Nat.le_max_right _ _)
  rw [h, hreadW] at hreadV
  exact (Except.ok.inj hreadV).symm

end PromptStudio.Json
