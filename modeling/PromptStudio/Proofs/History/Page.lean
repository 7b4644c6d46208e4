import PromptStudio.Proofs.History.Gapless
import PromptStudio.Proofs.History.Load

/-!
# The pages of the history

A page holds the newest prompts of a user: the rows of the user are sorted by their times, the newest first, and cut to
what is asked for, between one and the size of a page. The order of rows of one time is left open, and so is which of
them are cut off. Times are compared as they stand in the column, which is by time only where instants stand there; the
operations write nothing else.
-/

namespace PromptStudio

def PromptRecord.NotNewer (p q : PromptRecord) : Prop :=
  ∃ t u, p.createdAt = .instant t ∧ q.createdAt = .instant u ∧ t ≤ u

/-- How many prompts a page may have: the size of a page, or what is asked for if it lies between one and that. -/
def effectiveLimit (pageSize : Int) : Option Int → Int
  | none => pageSize
  | some limit => if limit < 1 then 1 else if pageSize < limit then pageSize else limit

/-- Some of the given prompts, each once, as many as are wanted if there are so many: the newest ones, newest first. -/
structure NewestOf (rows : List PromptRecord) (wanted : Int) (page : List PromptRecord) : Prop where
  of_rows : ∀ p ∈ page, p ∈ rows
  once : (page.map (·.id)).Nodup
  length : (page.length : Int) = min (rows.length : Int) wanted
  newest_first : page.Pairwise fun p q => q.NotNewer p
  left_out : ∀ p ∈ rows, p ∉ page → ∀ q ∈ page, p.NotNewer q

namespace Store

/-- Prompts as a store holds them: each has an id of its own, reads, and was made at an instant. -/
structure HoldsPrompts (s : Store) : Prop where
  ids : (s.prompts.map (·.id)).Nodup
  loads : ∀ p ∈ s.prompts, p.load = .ok p
  timed : ∀ p ∈ s.prompts, ∃ t, p.createdAt = .instant t

theorem holdsPrompts_run (happenings : List Happening) :
    (Activity.start.run happenings).studio.store.HoldsPrompts := by
  have hsound := (Activity.historySound_run happenings).studio.prompts
  exact {
    ids := hsound.ids.distinct
    loads := fun p hp => (hsound.whole p hp).loads
    timed := fun p hp => (hsound.whole p hp).timed }

/-! ### The first rows of a sorted sequence -/

/-- Rows whose times are instants are sorted by them. -/
theorem newestFirst_key {α : Type} {time : α → Timestamp} {rows : List α} (key : α → Instant)
    (htime : ∀ row ∈ rows, time row = .instant (key row)) :
    newestFirst time rows = rows.mergeSort fun a b => decide (key b ≤ key a) := by
  refine mergeSort_congr ?_
  intro a ha b hb
  rw [htime a ha, htime b hb]
  rfl

theorem newestOf_take {rows : List PromptRecord} (hids : (rows.map (·.id)).Nodup)
    (htimed : ∀ p ∈ rows, ∃ t, p.createdAt = .instant t) {wanted : Int} (hwanted : 0 ≤ wanted) :
    NewestOf rows wanted ((newestFirst (·.createdAt) rows).take wanted.toNat) := by
  choose! key hkey using htimed
  rw [newestFirst_key key hkey]
  have hperm := List.mergeSort_perm rows fun a b => decide (key b ≤ key a)
  have hsorted := pairwise_mergeSort_key key rows
  generalize (rows.mergeSort fun a b => decide (key b ≤ key a)) = sorted at hperm hsorted ⊢
  have hmem : ∀ p, p ∈ sorted.take wanted.toNat → p ∈ rows :=
    fun p hp => hperm.subset (List.mem_of_mem_take hp)
  have hnotNewer : ∀ p ∈ rows, ∀ q ∈ rows, key p ≤ key q → p.NotNewer q :=
    fun p hp q hq hle => ⟨key p, key q, hkey p hp, hkey q hq, hle⟩
  exact {
    of_rows := hmem
    once := by
      have hnodup := (hperm.map (·.id)).nodup_iff.mpr hids
      exact hnodup.sublist ((List.take_sublist _ _).map _)
    length := by
      rw [List.length_take, hperm.length_eq]
      omega
    newest_first := by
      refine (hsorted.sublist (List.take_sublist _ _)).imp_of_mem ?_
      intro p q hp hq hle
      exact hnotNewer q (hmem q hq) p (hmem p hp) hle
    left_out := by
      intro p hp hout q hq
      have hbehind : p ∈ sorted.drop wanted.toNat := by
        have hall := hperm.mem_iff.mpr hp
        rw [← List.take_append_drop wanted.toNat sorted, List.mem_append] at hall
        exact hall.resolve_left hout
      rw [← List.take_append_drop wanted.toNat sorted, List.pairwise_append] at hsorted
      exact hnotNewer p hp q (hmem q hq) (hsorted.2.2 q hq p hbehind) }

/-! ### Pages -/

theorem pageLength_eq {pageSize : Int} (hsize : 1 ≤ pageSize) (limit : Option Int) :
    pageLength pageSize limit = effectiveLimit pageSize limit := by
  cases limit with
  | none => rfl
  | some n =>
    rw [pageLength, effectiveLimit]
    split
    · omega
    · split <;> omega

theorem effectiveLimit_mem {pageSize : Int} (hsize : 1 ≤ pageSize) (limit : Option Int) :
    1 ≤ effectiveLimit pageSize limit ∧ effectiveLimit pageSize limit ≤ pageSize := by
  cases limit with
  | none => exact ⟨hsize, Int.le_refl pageSize⟩
  | some n =>
    rw [effectiveLimit]
    split
    · omega
    · split <;> omega

theorem mapM_load_eq_ok {rows : List PromptRecord} (hloads : ∀ p ∈ rows, p.load = .ok p) :
    rows.mapM PromptRecord.load = .ok rows := by
  induction rows with
  | nil => rfl
  | cons p rows ih =>
    rw [List.forall_mem_cons] at hloads
    rw [List.mapM_cons, hloads.1, ih hloads.2]
    rfl

/--
A page of the history is there for every user and every limit, and holds the newest prompts of the user: as many as fit
on it or are there, each once, the newest first, and none that is left out is newer than one that is not.
-/
theorem history_pages_are_newest {s : Store} (hs : s.HoldsPrompts) {pageSize : Int} (hsize : 1 ≤ pageSize)
    (hfits : pageSize < 0x8000000000000000) {userId : Text} (hid : userId.isEncodable = true) (limit : Option Int) :
    ∃ page, s.history pageSize userId limit = .ok page ∧
      NewestOf (s.prompts.filter fun p => p.userId == some userId) (effectiveLimit pageSize limit) page := by
  obtain ⟨hlow, hhigh⟩ := effectiveLimit_mem hsize limit
  have hcolumn : fitsColumn (effectiveLimit pageSize limit) = true := by
    rw [fitsColumn, Bool.and_eq_true, decide_eq_true_eq, decide_eq_true_eq]
    omega
  have hrows : ∀ p ∈ s.prompts.filter (fun p => p.userId == some userId), p ∈ s.prompts :=
    fun p hp => List.mem_of_mem_filter hp
  have hnewest := newestOf_take (hs.ids.sublist (List.filter_sublist.map _)) (fun p hp => hs.timed p (hrows p hp))
    (Int.le_trans Int.one_nonneg hlow)
  refine ⟨_, bind_eq_ok.mpr ⟨userId, Text.bindable_of_isEncodable hid, ?_⟩, hnewest⟩
  have hnotNegative : ¬ effectiveLimit pageSize limit < 0 := by omega
  dsimp only
  rw [pageLength_eq hsize, hcolumn, Bool.not_true, if_neg Bool.false_ne_true, if_neg hnotNegative]
  exact mapM_load_eq_ok fun p hp => hs.loads p (hrows p (hnewest.of_rows p hp))

def barePrompt (id userId : Text) (now : Instant) : PromptRecord :=
  { id, userId := some userId, profileId := "plain", blueprintId := none, userBlueprintId := none, versionId := none,
    seed := "s", input := .ok (.object []), filters := .ok .null, text := "base", metadata := .ok (.object []),
    score := .int 100, warnings := .ok (.array []), pack := .ok .null, createdAt := .instant now }

/-- Two prompts of one instant behind an older one, and a newer one of somebody else. -/
def tied : Store :=
  { empty with prompts := [barePrompt "a" "u1" 1, barePrompt "b" "u1" 2, barePrompt "c" "u2" 3, barePrompt "d" "u1" 2] }

/-- Five prompts are asked for, a page has two, and the two that are made at one instant are on it. -/
theorem history_pages_are_newest_tied :
    tied.HoldsPrompts ∧ (1 : Int) ≤ 2 ∧ (2 : Int) < 0x8000000000000000 ∧ Text.isEncodable "u1" = true ∧
      ∃ page, tied.history 2 "u1" (some 5) = .ok page ∧ page.length = 2 ∧
        NewestOf [barePrompt "a" "u1" 1, barePrompt "b" "u1" 2, barePrompt "d" "u1" 2] 2 page := by
  have hs : tied.HoldsPrompts := {
    ids := by decide
    loads := by
      intro p hp
      simp only [tied, List.mem_cons, List.not_mem_nil, or_false] at hp
      rcases hp with rfl | rfl | rfl | rfl <;> rfl
    timed := by
      intro p hp
      simp only [tied, List.mem_cons, List.not_mem_nil, or_false] at hp
      rcases hp with rfl | rfl | rfl | rfl <;> exact ⟨_, rfl⟩ }
  have hid : Text.isEncodable "u1" = true := by decide
  have hsize : (1 : Int) ≤ 2 := by decide
  obtain ⟨page, hpage, hnewest⟩ := history_pages_are_newest hs hsize (by decide) hid (some 5)
  refine ⟨hs, hsize, by decide, hid, page, hpage, ?_, hnewest⟩
  have hlength : (page.length : Int) = 2 := hnewest.length
  omega

end Store

end PromptStudio
