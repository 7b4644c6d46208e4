import PromptStudio.Json.Stored
import PromptStudio.Proofs.Json.Encodable
import PromptStudio.Proofs.Json.Read
import PromptStudio.Proofs.Text.Surrogate
import PromptStudio.Store.Cell

/-!
# What comes back of a document

A document comes back as it was where its objects repeat no key and no two halves of a surrogate pair stand side by side
in a text of it. What came back once is such a document, so keeping it again changes nothing more. It is also read as
easily as the one that was kept.
-/

namespace PromptStudio.Json

theorem joinedItems_eq_map (items : List Json) : joinedItems items = items.map joined := by
  induction items with
  | nil => rfl
  | cons v rest ih => rw [joinedItems, ih, List.map_cons]

theorem joinedMembers_eq_map (members : List (Text × Json)) :
    joinedMembers members = members.map fun m => (m.1.joined, m.2.joined) := by
  induction members with
  | nil => rfl
  | cons m rest ih => rw [joinedMembers, ih, List.map_cons]

theorem joined_array (items : List Json) : (Json.array items).joined = .array (items.map joined) := by
  rw [joined, joinedItems_eq_map]

theorem joined_object (members : List (Text × Json)) :
    (Json.object members).joined = .object (distinct (members.map fun m => (m.1.joined, m.2.joined))) := by
  rw [joined, joinedMembers_eq_map]

/-! ### Keys that are made distinct -/

theorem find?_map_set (members : List (Text × Json)) (key : Text) (v : Json) (other : Text) :
    ((members.map fun m => if m.1 == key then (key, v) else m).find? (·.1 == other)).map (·.2)
      = if other = key then (members.find? (·.1 == key)).map fun _ => v
        else (members.find? (·.1 == other)).map (·.2) := by
  induction members with
  | nil => split <;> rfl
  | cons m rest ih =>
      rw [List.map_cons, List.find?_cons]
      by_cases hother : other = key
      · rw [if_pos hother, hother] at ih ⊢
        rw [List.find?_cons]
        cases hkey : m.1 == key with
        | true => simp only [if_true, beq_self_eq_true, Option.map_some]
        | false => simpa only [Bool.false_eq_true, if_false, hkey] using ih
      · rw [if_neg hother] at ih ⊢
        rw [List.find?_cons]
        cases hkey : m.1 == key with
        | true =>
            rw [if_pos rfl, beq_iff_eq.mp hkey, beq_eq_false_iff_ne.mpr (Ne.symm hother)]
            exact ih
        | false =>
            rw [if_neg Bool.false_ne_true]
            cases m.1 == other with
            | true => rfl
            | false => exact ih

/-- Of a key that was set, what it was set to is found; of any other key, what was found before. -/
theorem find?_insert (members : List (Text × Json)) (key : Text) (v : Json) (other : Text) :
    find? (insert members key v) other = if other = key then some v else find? members other := by
  rw [insert]
  split
  · rename_i hpresent
    rw [find?, ← List.map_reverse, find?_map_set]
    have hfound : (members.reverse.find? (·.1 == key)).isSome = true := by
      rw [List.find?_isSome]
      obtain ⟨m, hm, hkey⟩ := List.any_eq_true.mp hpresent
      exact ⟨m, List.mem_reverse.mpr hm, hkey⟩
    obtain ⟨m, hm⟩ := Option.isSome_iff_exists.mp hfound
    rw [hm]
    rfl
  · rw [find?, List.reverse_append, List.reverse_singleton, List.singleton_append, List.find?_cons]
    by_cases hother : other = key
    · rw [if_pos hother, hother, beq_self_eq_true]
      rfl
    · rw [if_neg hother, beq_eq_false_iff_ne.mpr (Ne.symm hother), find?]

theorem nodup_distinct (members : List (Text × Json)) : ((distinct members).map (·.1)).Nodup := by
  have hall : ∀ done : List (Text × Json), (done.map (·.1)).Nodup →
      ((members.foldl (fun done m => insert done m.1 m.2) done).map (·.1)).Nodup := by
    induction members with
    | nil => exact fun done h => h
    | cons m rest ih => exact fun done h => ih _ (nodup_insert h m.1 m.2)
  exact hall [] List.nodup_nil

theorem mem_of_mem_distinct {members : List (Text × Json)} {m : Text × Json} (h : m ∈ distinct members) :
    m ∈ members := by
  have hall : ∀ done : List (Text × Json), m ∈ members.foldl (fun done m => insert done m.1 m.2) done →
      m ∈ done ∨ m ∈ members := by
    clear h
    induction members with
    | nil => exact fun done h => .inl h
    | cons first rest ih =>
        intro done hmem
        rcases ih _ hmem with hinserted | hrest
        · rcases mem_insert hinserted with hold | rfl
          · exact .inl hold
          · exact .inr List.mem_cons_self
        · exact .inr (List.mem_cons_of_mem first hrest)
  exact (hall [] h).resolve_left List.not_mem_nil

theorem distinct_of_nodup {members : List (Text × Json)} (h : (members.map (·.1)).Nodup) :
    distinct members = members :=
  @Rule.gather_eq .lenient members [] (.inr h)

/-! ### Documents that come back as they were -/

/-- Whether no two halves of a surrogate pair stand side by side in a text of a value. -/
def isApart : Json → Bool :=
  all (fun _ => true) Text.isApart

theorem joined_array_eq_self {items : List Json} (h : ∀ v ∈ items, v.joined = v) :
    (Json.array items).joined = .array items := by
  rw [joined_array, List.map_congr_left h, List.map_id']

theorem joined_object_eq_self {members : List (Text × Json)} (hkeys : (members.map (·.1)).Nodup)
    (h : ∀ m ∈ members, m.1.joined = m.1 ∧ m.2.joined = m.2) : (Json.object members).joined = .object members := by
  have hsame : ∀ m ∈ members, (m.1.joined, m.2.joined) = m := by
    intro m hm
    rw [(h m hm).1, (h m hm).2]
  rw [joined_object, List.map_congr_left hsame, List.map_id', distinct_of_nodup hkeys]

theorem joined_ofTexts (texts : List Text) : (ofTexts texts).joined = ofTexts (texts.map Text.joined) := by
  rw [ofTexts, joined_array, List.map_map, ofTexts, List.map_map]
  rfl

theorem hasDistinctKeys_ofTexts (texts : List Text) : (ofTexts texts).hasDistinctKeys = true := by
  rw [ofTexts, hasDistinctKeys, every, Bool.and_eq_true, everyItem_iff]
  refine ⟨rfl, ?_⟩
  intro v hv
  obtain ⟨t, -, rfl⟩ := List.mem_map.mp hv
  rfl

theorem hasDistinctKeys_ofFields {fields : List (String × Json)} (hnames : (fields.map (·.1)).Nodup)
    (h : ∀ f ∈ fields, f.2.hasDistinctKeys = true) : (ofFields fields).hasDistinctKeys = true := by
  rw [hasDistinctKeys, every_ofFields, repeatsNoKey_ofFields hnames, Bool.true_and, List.all_eq_true]
  exact h

mutual

/-- The lenient rule merges the members of a key as joining does. -/
theorem reread_joined (maxDepth : Nat) : ∀ v : Json, reread (.lenient maxDepth) Text.joined v = v.joined
  | .array items => congrArg Json.array (rereadItems_joined maxDepth items)
  | .object members => by
      rw [reread, joined, rereadMembers_joined maxDepth members]
      rfl
  | .null | .bool _ | .int _ | .float _ | .string _ => rfl

theorem rereadItems_joined (maxDepth : Nat) :
    ∀ items : List Json, rereadItems (.lenient maxDepth) Text.joined items = joinedItems items
  | [] => rfl
  | v :: rest => by rw [rereadItems, joinedItems, reread_joined maxDepth v, rereadItems_joined maxDepth rest]

theorem rereadMembers_joined (maxDepth : Nat) : ∀ members : List (Text × Json),
    rereadMembers (.lenient maxDepth) Text.joined members = joinedMembers members
  | [] => rfl
  | (key, v) :: rest => by rw [rereadMembers, joinedMembers, reread_joined maxDepth v, rereadMembers_joined maxDepth rest]

end

theorem joined_eq_self {v : Json} (h : v.isApart = true) (hkeys : v.hasDistinctKeys = true) : v.joined = v := by
  rw [← reread_joined usualDepth]
  exact reread_eq_self (fun _ => Text.joined_eq_self) hkeys h

mutual

theorem joined_joined : ∀ v : Json, v.joined.joined = v.joined
  | .string t => congrArg Json.string (Text.joined_joined t)
  | .array items => by
      rw [joined_array]
      exact joined_array_eq_self (joined_of_mem_joinedItems items)
  | .object members => by
      rw [joined_object]
      refine joined_object_eq_self (nodup_distinct _) ?_
      intro m hm
      exact joined_of_mem_joinedMembers members m (mem_of_mem_distinct hm)
  | .null => rfl
  | .bool _ => rfl
  | .int _ => rfl
  | .float _ => rfl

theorem joined_of_mem_joinedItems : ∀ items : List Json, ∀ v ∈ items.map joined, v.joined = v
  | [] => List.forall_mem_nil _
  | v :: rest => List.forall_mem_cons.mpr ⟨joined_joined v, joined_of_mem_joinedItems rest⟩

theorem joined_of_mem_joinedMembers : ∀ members : List (Text × Json),
    ∀ m ∈ members.map fun m => (m.1.joined, m.2.joined), m.1.joined = m.1 ∧ m.2.joined = m.2
  | [] => List.forall_mem_nil _
  | (key, v) :: rest =>
      List.forall_mem_cons.mpr ⟨⟨Text.joined_joined key, joined_joined v⟩, joined_of_mem_joinedMembers rest⟩

end

/-- The members of an object that came back: no key is repeated, and each of them comes back as it is. -/
theorem members_of_joined_eq_self {members : List (Text × Json)} (h : (Json.object members).joined = .object members) :
    (members.map (·.1)).Nodup ∧ ∀ m ∈ members, m.1.joined = m.1 ∧ m.2.joined = m.2 := by
  rw [joined_object, Json.object.injEq] at h
  rw [← h]
  refine ⟨nodup_distinct _, ?_⟩
  intro m hm
  exact joined_of_mem_joinedMembers members m (mem_of_mem_distinct hm)

theorem joined_insert_eq_self {members : List (Text × Json)} (h : (Json.object members).joined = .object members)
    {key : Text} (hkey : key.joined = key) {v : Json} (hv : v.joined = v) :
    (Json.object (insert members key v)).joined = .object (insert members key v) := by
  obtain ⟨hkeys, hmembers⟩ := members_of_joined_eq_self h
  refine joined_object_eq_self (nodup_insert hkeys key v) ?_
  intro m hm
  rcases mem_insert hm with hold | rfl
  · exact hmembers m hold
  · exact ⟨hkey, hv⟩

/-! ### What comes back can be read -/

variable {rule : Rule} {depth : Nat}

mutual

/-- Joining makes nothing deeper and repeats no key. -/
theorem Fits.joined : ∀ {v : Json} {depth : Nat}, Fits rule depth v → Fits rule depth v.joined
  | .string t, _, h => fits_string t.joined h.depth_le
  | .array items, _, h => by
      rw [joined_array]
      exact .array h.isOpen_of_array (fits_joinedItems items fun _ hv => h.of_item hv)
  | .object members, _, h => by
      rw [joined_object]
      refine .object h.isOpen_of_object ⟨.inr (nodup_distinct _), ?_⟩
      intro m hm
      exact fits_joinedMembers members (fun _ hold => h.of_mem hold) m (mem_of_mem_distinct hm)
  | .null, _, h => h
  | .bool _, _, h => h
  | .int _, _, h => h
  | .float _, _, h => h

theorem fits_joinedItems : ∀ (items : List Json) {depth : Nat}, (∀ v ∈ items, Fits rule depth v) →
    ∀ v ∈ items.map Json.joined, Fits rule depth v
  | [], _, _ => List.forall_mem_nil _
  | v :: rest, _, h => by
      have hall := List.forall_mem_cons.mp h
      exact List.forall_mem_cons.mpr ⟨hall.1.joined, fits_joinedItems rest hall.2⟩

theorem fits_joinedMembers : ∀ (members : List (Text × Json)) {depth : Nat}, (∀ m ∈ members, Fits rule depth m.2) →
    ∀ m ∈ members.map fun m => (m.1.joined, m.2.joined), Fits rule depth m.2
  | [], _, _ => List.forall_mem_nil _
  | (_, v) :: rest, _, h => by
      have hall := List.forall_mem_cons.mp h
      exact List.forall_mem_cons.mpr ⟨hall.1.joined, fits_joinedMembers rest hall.2⟩

end

end PromptStudio.Json

namespace PromptStudio.JsonColumn

theorem exists_ofJson (v : Json) : ∃ kept, ofJson v = .ok kept := by
  rw [ofJson.eq_def]
  split
  · split <;> exact ⟨_, rfl⟩
  · exact ⟨_, rfl⟩
  · exact ⟨_, rfl⟩

theorem ofJson_object (members : List (Text × Json)) : ofJson (.object members) = .ok (Json.object members).joined :=
  rfl

end PromptStudio.JsonColumn
