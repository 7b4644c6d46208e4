import Mathlib.Algebra.Group.Nat.Defs
import Mathlib.Data.List.Nodup
import PromptStudio.Proofs.Failure.Outcome
import PromptStudio.Proofs.Json.Bytes

/-!
# What is read

A reader gives only what it reads back: integers that are not too long, objects that repeat no key where repeats are
merged, and nothing that nests deeper than the rule goes. So whatever came in as JSON can be written down and read once
more. `Fits` says it of a value at a depth, since the reader counts the arrays and objects around a value as it goes.
-/

namespace PromptStudio.Json

/-- Whether a rule reads a value back where so many arrays and objects are open around it. -/
structure Fits (rule : Rule) (depth : Nat) (v : Json) : Prop where
  keeps : v.every rule.keeps = true
  depth_le : depth + v.depth ≤ rule.maxDepth

/-! ### Arrays and objects, part by part -/

theorem everyItem_iff {test : Json → Bool} {items : List Json} :
    everyItem test items = true ↔ ∀ v ∈ items, every test v = true := by
  induction items with
  | nil => simp [everyItem]
  | cons v rest ih => rw [everyItem, Bool.and_eq_true, ih, List.forall_mem_cons]

theorem everyMember_iff {test : Json → Bool} {members : List (Text × Json)} :
    everyMember test members = true ↔ ∀ m ∈ members, every test m.2 = true := by
  induction members with
  | nil => simp [everyMember]
  | cons m rest ih => rw [everyMember, Bool.and_eq_true, ih, List.forall_mem_cons]

theorem depthOfItems_le_iff {items : List Json} {most : Nat} :
    depthOfItems items ≤ most ↔ ∀ v ∈ items, v.depth ≤ most := by
  induction items with
  | nil => simp [depthOfItems]
  | cons v rest ih => rw [depthOfItems, Nat.max_le, ih, List.forall_mem_cons]

theorem depthOfMembers_le_iff {members : List (Text × Json)} {most : Nat} :
    depthOfMembers members ≤ most ↔ ∀ m ∈ members, m.2.depth ≤ most := by
  induction members with
  | nil => simp [depthOfMembers]
  | cons m rest ih => rw [depthOfMembers, Nat.max_le, ih, List.forall_mem_cons]

theorem depth_array_le {items : List Json} {most : Nat} (h : ∀ v ∈ items, v.depth ≤ most) :
    (Json.array items).depth ≤ most + 1 := by
  rw [depth, Nat.add_le_add_iff_right]
  exact depthOfItems_le_iff.mpr h

theorem depth_ofTexts_le (texts : List Text) : (ofTexts texts).depth ≤ 1 := by
  refine depth_array_le ?_
  intro v hv
  obtain ⟨t, -, rfl⟩ := List.mem_map.mp hv
  exact Nat.le_refl 0

theorem depth_ofFields_le {fields : List (String × Json)} {most : Nat} (h : ∀ f ∈ fields, f.2.depth ≤ most) :
    (ofFields fields).depth ≤ most + 1 := by
  rw [ofFields, depth, Nat.add_le_add_iff_right, depthOfMembers_le_iff]
  intro m hm
  obtain ⟨f, hf, rfl⟩ := List.mem_map.mp hm
  exact h f hf

variable {rule : Rule} {depth : Nat}

/-- What is neither an array nor an object has no depth of its own. -/
theorem Fits.leaf {v : Json} (hkeeps : v.every rule.keeps = true) (hflat : v.depth = 0) (hdepth : depth ≤ rule.maxDepth) :
    Fits rule depth v :=
  ⟨hkeeps, by omega⟩

theorem Fits.array {items : List Json} (hopen : ¬ rule.maxDepth ≤ depth) (h : ∀ v ∈ items, Fits rule (depth + 1) v) :
    Fits rule depth (.array items) where
  keeps := by
    have hnode : rule.keeps (.array items) = true := Bool.or_true _
    rw [every, hnode, Bool.true_and, everyItem_iff]
    exact fun v hv => (h v hv).keeps
  depth_le := by
    have hitems : depthOfItems items ≤ rule.maxDepth - (depth + 1) := by
      rw [depthOfItems_le_iff]
      intro v hv
      have := (h v hv).depth_le
      omega
    rw [Json.depth]
    omega

structure FitMembers (rule : Rule) (depth : Nat) (members : List (Text × Json)) : Prop where
  keys : rule.keepsRepeats = true ∨ (members.map (·.1)).Nodup
  fits : ∀ m ∈ members, Fits rule depth m.2

theorem FitMembers.nil : FitMembers rule depth [] :=
  ⟨Or.inr List.nodup_nil, List.forall_mem_nil _⟩

theorem Fits.object {members : List (Text × Json)} (hopen : ¬ rule.maxDepth ≤ depth)
    (h : FitMembers rule (depth + 1) members) : Fits rule depth (.object members) where
  keeps := by
    have hnode : (rule.keepsRepeats || decide (members.map (·.1)).Nodup) = true := by
      rw [Bool.or_eq_true, decide_eq_true_eq]
      exact h.keys
    change rule.keeps (.object members) = true at hnode
    rw [every, hnode, Bool.true_and, everyMember_iff]
    exact fun m hm => (h.fits m hm).keeps
  depth_le := by
    have hmembers : depthOfMembers members ≤ rule.maxDepth - (depth + 1) := by
      rw [depthOfMembers_le_iff]
      intro m hm
      have := (h.fits m hm).depth_le
      omega
    rw [Json.depth]
    omega

theorem Fits.isOpen_of_array {items : List Json} (h : Fits rule depth (.array items)) : ¬ rule.maxDepth ≤ depth := by
  have hdepth := h.depth_le
  rw [Json.depth] at hdepth
  omega

theorem Fits.isOpen_of_object {members : List (Text × Json)} (h : Fits rule depth (.object members)) :
    ¬ rule.maxDepth ≤ depth := by
  have hdepth := h.depth_le
  rw [Json.depth] at hdepth
  omega

theorem Fits.of_item {items : List Json} (h : Fits rule depth (.array items)) {v : Json} (hv : v ∈ items) :
    Fits rule (depth + 1) v where
  keeps := by
    have hkeeps := h.keeps
    rw [every, Bool.and_eq_true, everyItem_iff] at hkeeps
    exact hkeeps.2 v hv
  depth_le := by
    have hdepth := h.depth_le
    have hitem := depthOfItems_le_iff.mp (Nat.le_refl (depthOfItems items)) v hv
    rw [Json.depth] at hdepth
    omega

theorem Fits.of_mem {members : List (Text × Json)} (h : Fits rule depth (.object members)) {m : Text × Json}
    (hm : m ∈ members) : Fits rule (depth + 1) m.2 where
  keeps := by
    have hkeeps := h.keeps
    rw [every, Bool.and_eq_true, everyMember_iff] at hkeeps
    exact hkeeps.2 m hm
  depth_le := by
    have hdepth := h.depth_le
    have hmember := depthOfMembers_le_iff.mp (Nat.le_refl (depthOfMembers members)) m hm
    rw [Json.depth] at hdepth
    omega

theorem Fits.of_find? {members : List (Text × Json)} (h : Fits rule depth (.object members)) {key : Text} {v : Json}
    (hfind : find? members key = some v) : Fits rule (depth + 1) v := by
  obtain ⟨m, hm, rfl⟩ := Option.map_eq_some_iff.mp hfind
  exact h.of_mem (List.mem_reverse.mp (List.mem_of_find?_eq_some hm))

theorem fits_string (t : Text) (hdepth : depth ≤ rule.maxDepth) : Fits rule depth (.string t) :=
  .leaf (Bool.or_true _) rfl hdepth

theorem fits_ofTexts (texts : List Text) (hopen : ¬ rule.maxDepth ≤ depth) : Fits rule depth (ofTexts texts) := by
  refine .array hopen ?_
  intro v hv
  obtain ⟨t, -, rfl⟩ := List.mem_map.mp hv
  exact fits_string t (Nat.not_le.mp hopen)

/-- An object that is written down by its fields fits if what stands in them fits inside it. -/
theorem Fits.ofFields {fields : List (String × Json)} (hopen : ¬ rule.maxDepth ≤ depth)
    (hnames : (fields.map (·.1)).Nodup) (h : ∀ f ∈ fields, Fits rule (depth + 1) f.2) :
    Fits rule depth (ofFields fields) := by
  refine .object hopen ⟨Or.inr (of_decide_eq_true (repeatsNoKey_ofFields hnames)), ?_⟩
  intro m hm
  obtain ⟨f, hf, rfl⟩ := List.mem_map.mp hm
  exact h f hf

/-! ### One more member -/

theorem nodup_insert {members : List (Text × Json)} (h : (members.map (·.1)).Nodup) (key : Text) (v : Json) :
    ((insert members key v).map (·.1)).Nodup := by
  rw [insert]
  split
  · have hkeys : (members.map fun m => if m.1 == key then (key, v) else m).map (·.1) = members.map (·.1) := by
      rw [List.map_map]
      refine List.map_congr_left ?_
      intro m _
      rw [Function.comp_apply]
      split
      · rename_i hkey
        exact (beq_iff_eq.mp hkey).symm
      · rfl
    rw [hkeys]
    exact h
  · rename_i hnew
    rw [List.map_append, List.nodup_append]
    refine ⟨h, List.nodup_singleton key, ?_⟩
    rintro other hother _ hkey rfl
    obtain ⟨m, hm, rfl⟩ := List.mem_map.mp hother
    exact hnew (List.any_eq_true.mpr ⟨m, hm, beq_iff_eq.mpr (List.mem_singleton.mp hkey)⟩)

theorem mem_insert {members : List (Text × Json)} {key : Text} {v : Json} {m : Text × Json}
    (h : m ∈ insert members key v) : m ∈ members ∨ m = (key, v) := by
  rw [insert] at h
  split at h
  · obtain ⟨old, hold, rfl⟩ := List.mem_map.mp h
    split
    · exact Or.inr rfl
    · exact Or.inl hold
  · rcases List.mem_append.mp h with hold | hnew
    · exact Or.inl hold
    · exact Or.inr (List.mem_singleton.mp hnew)

theorem FitMembers.add {done : List (Text × Json)} (h : FitMembers rule depth done) (key : Text) {v : Json}
    (hv : Fits rule depth v) : FitMembers rule depth (rule.addMember done key v) := by
  rw [Rule.addMember]
  split
  · rename_i hrepeats
    refine ⟨Or.inl hrepeats, ?_⟩
    intro m hm
    rcases List.mem_append.mp hm with hold | hnew
    · exact h.fits m hold
    · rw [List.mem_singleton.mp hnew]
      exact hv
  · rename_i hmerges
    refine ⟨Or.inr (nodup_insert (h.keys.resolve_left hmerges) key v), ?_⟩
    intro m hm
    rcases mem_insert hm with hold | rfl
    · exact h.fits m hold
    · exact hv

/-! ### Numbers and words -/

theorem lt_ten_of_digitValue? {p : CodePoint} {d : Nat} (h : digitValue? p = some d) : d < 10 := by
  cases p with
  | surrogate _ => cases h
  | char c =>
      rw [digitValue?] at h
      split at h
      · rename_i hdigit
        have hhigh : c.toNat ≤ '9'.toNat := hdigit.2
        have hnine : '9'.toNat = '0'.toNat + 9 := rfl
        rw [← Option.some.inj h]
        omega
      · cases h

theorem lt_ten_of_mem_spanDigits (t : Text) : ∀ d ∈ (spanDigits t).1, d < 10 := by
  induction t with
  | nil =>
      intro d hd
      cases hd
  | cons p rest ih =>
      rw [spanDigits]
      split
      · rename_i digit hdigit
        rw [List.forall_mem_cons]
        exact ⟨lt_ten_of_digitValue? hdigit, ih⟩
      · intro d hd
        cases hd

theorem lt_ten_of_mem_wholeDigits? {t : Text} {ds : List Nat} {rest : Text} (h : wholeDigits? t = some (ds, rest)) :
    ∀ d ∈ ds, d < 10 := by
  rw [wholeDigits?.eq_def] at h
  split at h
  · cases h
    decide
  · have hspan := lt_ten_of_mem_spanDigits t
    split at h
    · cases h
    · rw [Option.some.inj h] at hspan
      exact hspan

theorem ofDigits_lt {ds : List Nat} (h : ∀ d ∈ ds, d < 10) : ofDigits ds < 10 ^ ds.length := by
  induction ds with
  | nil => exact Nat.one_pos
  | cons d ds ih =>
      rw [List.forall_mem_cons] at h
      have hrest := ih h.2
      have hcons : ofDigits (d :: ds) = d * 10 ^ ds.length + ofDigits ds := ofDigits_cons d ds
      have hfirst : d * 10 ^ ds.length ≤ 9 * 10 ^ ds.length := Nat.mul_le_mul_right _ (Nat.le_of_lt_succ h.1)
      rw [hcons, List.length_cons, Nat.pow_succ]
      omega

theorem isShort_of_natAbs_eq {n : Int} {ds : List Nat} (hn : n.natAbs = ofDigits ds) (hdigits : ∀ d ∈ ds, d < 10)
    (hshort : ¬ maxIntegerDigits < ds.length) : isShort n = true := by
  have hpow : (10 : Nat) ^ ds.length ≤ 10 ^ maxIntegerDigits := Nat.pow_le_pow_right (by decide) (Nat.not_lt.mp hshort)
  rw [isShort, decide_eq_true_eq, Binary64.digitsOf, Nat.length_toDigits_le_iff (by decide) (by decide), hn]
  exact Nat.lt_of_lt_of_le (ofDigits_lt hdigits) hpow

theorem fits_of_number {negative : Bool} {t rest : Text} {v : Json} (hdepth : depth ≤ rule.maxDepth)
    (h : number rule negative t = .ok (v, rest)) : Fits rule depth v := by
  rw [number] at h
  split at h
  · cases h
  · rename_i whole after hwhole
    dsimp only at h
    split at h
    · split at h
      · cases h
      · rename_i hshort
        cases h
        refine .leaf ?_ rfl hdepth
        have hdigits := lt_ten_of_mem_wholeDigits? hwhole
        have habs : (if negative then -(ofDigits whole : Int) else ofDigits whole).natAbs = ofDigits whole := by
          split
          · rw [Int.natAbs_neg, Int.natAbs_natCast]
          · rw [Int.natAbs_natCast]
        have hint := isShort_of_natAbs_eq habs hdigits hshort
        exact (Bool.and_eq_true _ _).mpr ⟨hint, Bool.or_true _⟩
    · split at h
      · cases h
      · cases h
        exact .leaf (Bool.or_true _) rfl hdepth

theorem eq_of_word {name : String} {v w : Json} {t rest : Text} (h : word name v t = .ok (w, rest)) : w = v := by
  rw [word] at h
  split at h
  · cases h
    rfl
  · cases h

/-! ### The reader -/

mutual

/-- What is read at a depth fits there. The induction is on the fuel, which every reader hands on less one. -/
theorem fits_of_value : ∀ (fuel depth : Nat) (t : Text) {v : Json} {rest : Text}, depth ≤ rule.maxDepth →
    value rule fuel depth t = .ok (v, rest) → Fits rule depth v
  | 0, _, _, _, _, _, h => by cases h
  | fuel + 1, depth, t, v, rest, hdepth, h => by
      have hword {name : String} {w : Json} (hread : word name w t = .ok (v, rest))
          (hkeeps : w.every rule.keeps = true) (hflat : w.depth = 0) : Fits rule depth v := by
        rw [eq_of_word hread]
        exact .leaf hkeeps hflat hdepth
      rw [value.eq_def] at h
      dsimp only at h
      split at h
      · obtain ⟨_, -, hread⟩ := bind_eq_ok.mp h
        cases hread
        exact .leaf (Bool.or_true _) rfl hdepth
      · split at h
        · cases h
        · rename_i hopen
          split at h
          · cases h
            exact .object hopen .nil
          · exact fits_of_members fuel depth _ hopen .nil h
      · split at h
        · cases h
        · rename_i hopen
          split at h
          · cases h
            exact .array hopen (List.forall_mem_nil _)
          · exact fits_of_items fuel depth _ hopen (List.forall_mem_nil _) h
      · exact hword h (Bool.or_true _) rfl
      · exact hword h (Bool.or_true _) rfl
      · exact hword h (Bool.or_true _) rfl
      · exact hword h (Bool.or_true _) rfl
      · exact hword h (Bool.or_true _) rfl
      · exact hword h (Bool.or_true _) rfl
      · exact fits_of_number hdepth h
      · exact fits_of_number hdepth h

theorem fits_of_items : ∀ (fuel depth : Nat) (t : Text) {done : List Json} {v : Json} {rest : Text},
    ¬ rule.maxDepth ≤ depth → (∀ w ∈ done, Fits rule (depth + 1) w) →
    items rule fuel (depth + 1) done t = .ok (v, rest) → Fits rule depth v
  | 0, _, _, _, _, _, _, _, h => by cases h
  | fuel + 1, depth, t, done, v, rest, hopen, hdone, h => by
      rw [items] at h
      obtain ⟨⟨w, after⟩, hvalue, hread⟩ := bind_eq_ok.mp h
      have hall : ∀ x ∈ w :: done, Fits rule (depth + 1) x :=
        List.forall_mem_cons.mpr ⟨fits_of_value fuel (depth + 1) t (Nat.not_le.mp hopen) hvalue, hdone⟩
      dsimp only at hread
      split at hread
      · exact fits_of_items fuel depth _ hopen hall hread
      · cases hread
        exact .array hopen fun x hx => hall x (List.mem_reverse.mp hx)
      · cases hread

theorem fits_of_members : ∀ (fuel depth : Nat) (t : Text) {done : List (Text × Json)} {v : Json} {rest : Text},
    ¬ rule.maxDepth ≤ depth → FitMembers rule (depth + 1) done →
    members rule fuel (depth + 1) done t = .ok (v, rest) → Fits rule depth v
  | 0, _, _, _, _, _, _, _, h => by cases h
  | fuel + 1, depth, t, done, v, rest, hopen, hdone, h => by
      rw [members.eq_def] at h
      dsimp only at h
      split at h
      · obtain ⟨⟨key, after⟩, -, hread⟩ := bind_eq_ok.mp h
        dsimp only at hread
        split at hread
        · obtain ⟨⟨w, after⟩, hvalue, hread⟩ := bind_eq_ok.mp hread
          have hall := hdone.add key (fits_of_value fuel (depth + 1) _ (Nat.not_le.mp hopen) hvalue)
          dsimp only at hread
          split at hread
          · exact fits_of_members fuel depth _ hopen hall hread
          · cases hread
            exact .object hopen hall
          · cases hread
        · cases hread
      · cases h

end

theorem fits_of_read {t : Text} {v : Json} (h : read rule t = .ok v) : Fits rule 0 v := by
  obtain ⟨⟨w, rest⟩, hvalue, hread⟩ := bind_eq_ok.mp h
  dsimp only at hread
  split at hread
  · cases hread
    exact fits_of_value _ 0 _ (Nat.zero_le _) hvalue
  · cases hread

theorem fits_of_ofBytes {bytes : Bytes} {maxDepth : Nat} {v : Json} (h : ofBytes bytes maxDepth = .ok v) :
    Fits (.lenient maxDepth) 0 v := by
  rw [ofBytes] at h
  split at h
  · rename_i t _
    cases hread : read (.lenient maxDepth) t with
    | error e =>
        rw [hread] at h
        cases h
    | ok w =>
        rw [hread] at h
        cases h
        exact fits_of_read hread
  · cases h

/-- What one lenient reader reads back, every other one does that goes as deep. -/
theorem Fits.of_depth_le {v : Json} {maxDepth otherDepth : Nat} (h : Fits (.lenient maxDepth) 0 v)
    (hdepth : v.depth ≤ otherDepth) : Fits (.lenient otherDepth) 0 v where
  keeps := h.keeps
  depth_le := by rwa [Nat.zero_add]

theorem Fits.ofBytes_render {form : Form} (hform : form.asciiOnly = false) {v : Json} {maxDepth : Nat}
    (h : Fits (.lenient maxDepth) 0 v) {bytes : Bytes} (hbytes : Utf8.encode? (render form v) = some bytes) :
    ofBytes bytes maxDepth = .ok v := by
  have hdepth := h.depth_le
  rw [Nat.zero_add] at hdepth
  exact Json.ofBytes_render hform h.keeps hdepth hbytes

end PromptStudio.Json
