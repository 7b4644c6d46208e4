import PromptStudio.History.Prompt
import PromptStudio.Proofs.Store.Load
import PromptStudio.Proofs.Store.Numbering

/-!
# What loading prompts and blueprints gives

As for the training, a load that comes out well gives the stored row. Of the versions of a blueprint the one with the
highest number is loaded. Rows are sorted for that by cells, which need not hold numbers; where versions are numbered
without a gap they do, and the latest is the one whose number is how many there are.
-/

namespace PromptStudio

/-! ### Rows as they are loaded -/

theorem PromptRecord.load_eq_ok {p found : PromptRecord} (h : p.load = .ok found) : found = p := by
  simp only [PromptRecord.load, bind_eq_ok, pure_eq_ok] at h
  obtain ⟨_, _, _, _, _, _, _, _, _, _, _, _, rfl⟩ := h
  rfl

theorem UserBlueprint.load_eq_ok {b found : UserBlueprint} (h : b.load = .ok found) : found = b := by
  simp only [UserBlueprint.load, bind_eq_ok, pure_eq_ok] at h
  obtain ⟨_, _, _, _, _, _, _, _, rfl⟩ := h
  rfl

theorem BlueprintVersion.load_eq_ok {v found : BlueprintVersion} (h : v.load = .ok found) : found = v := by
  simp only [BlueprintVersion.load, bind_eq_ok, pure_eq_ok] at h
  obtain ⟨_, _, _, _, _, _, rfl⟩ := h
  rfl

namespace Store

variable {s : Store}

theorem loadPrompt?_eq_some_iff {id : Text} {p : PromptRecord} :
    s.loadPrompt? id = .ok (some p) ↔ id.bindable = .ok id ∧ p.load = .ok p ∧ s.prompt? id = some p :=
  load_eq_some_iff fun _ _ => PromptRecord.load_eq_ok

theorem loadBlueprint?_eq_some_iff {id : Text} {b : UserBlueprint} :
    s.loadBlueprint? id = .ok (some b) ↔ id.bindable = .ok id ∧ b.load = .ok b ∧ s.blueprint? id = some b :=
  load_eq_some_iff fun _ _ => UserBlueprint.load_eq_ok

theorem id_of_prompt? {id : Text} {p : PromptRecord} (h : s.prompt? id = some p) : p.id = id := by
  simpa using List.find?_some h

theorem id_of_blueprint? {id : Text} {b : UserBlueprint} (h : s.blueprint? id = some b) : b.id = id := by
  simpa using List.find?_some h

/-! ### Rows that an operation works on -/

theorem prompt_eq_ok_iff {id userId : Text} {p : PromptRecord} :
    s.prompt id (some userId) = .ok p ↔ s.loadPrompt? id = .ok (some p) ∧ p.userId = some userId := by
  simp only [prompt, bind_eq_ok, liftFault_eq_ok, Option.exists, throw_ne_ok, and_false, false_or,
    throw_ite_eq_ok_iff, pure_eq_ok, Option.any_some, bne_iff_ne, ne_eq, Decidable.not_not]
  constructor
  · rintro ⟨_, hfound, howner, rfl⟩
    exact ⟨hfound, howner.symm⟩
  · rintro ⟨hfound, howner⟩
    exact ⟨p, hfound, howner.symm, rfl⟩

theorem prompt_eq_ok {id userId : Text} {p : PromptRecord} (h : s.prompt id (some userId) = .ok p) :
    s.prompt? id = some p ∧ p.userId = some userId := by
  obtain ⟨hfound, howner⟩ := prompt_eq_ok_iff.mp h
  exact ⟨(loadPrompt?_eq_some_iff.mp hfound).2.2, howner⟩

theorem ownedBlueprint_eq_ok_iff {id userId : Text} {b : UserBlueprint} :
    s.ownedBlueprint id userId = .ok b ↔ s.loadBlueprint? id = .ok (some b) ∧ b.userId = userId := by
  simp only [ownedBlueprint, bind_eq_ok, liftFault_eq_ok, Option.exists, throw_ne_ok, and_false, false_or,
    ite_throw_eq_ok_iff, pure_eq_ok]
  constructor
  · rintro ⟨_, hfound, howner, rfl⟩
    exact ⟨hfound, howner⟩
  · rintro ⟨hfound, howner⟩
    exact ⟨b, hfound, howner, rfl⟩

theorem ownedBlueprint_eq_ok {id userId : Text} {b : UserBlueprint} (h : s.ownedBlueprint id userId = .ok b) :
    id.bindable = .ok id ∧ s.blueprint? id = some b ∧ b.userId = userId := by
  obtain ⟨hfound, howner⟩ := ownedBlueprint_eq_ok_iff.mp h
  obtain ⟨hid, -, hhead⟩ := loadBlueprint?_eq_some_iff.mp hfound
  exact ⟨hid, hhead, howner⟩

theorem blueprintWithLatest_eq_ok_iff {id userId : Text} {found : BlueprintAnswer} :
    s.blueprintWithLatest id userId = .ok found ↔
      s.ownedBlueprint id userId = .ok found.blueprint ∧ s.latestBlueprintVersion id = .ok found.version := by
  simp only [blueprintWithLatest, bind_eq_ok, pure_eq_ok]
  constructor
  · rintro ⟨_, hhead, _, hversion, rfl⟩
    exact ⟨hhead, hversion⟩
  · rintro ⟨hhead, hversion⟩
    exact ⟨_, hhead, _, hversion, rfl⟩

/-! ### The latest version -/

theorem mergeSort_congr {α : Type} {le le' : α → α → Bool} {rows : List α}
    (hle : ∀ a ∈ rows, ∀ b ∈ rows, le a b = le' a b) : rows.mergeSort le = rows.mergeSort le' := by
  have hsorted := List.map_mergeSort (r := le) (s := le') (f := id) hle
  rwa [List.map_id, List.map_id] at hsorted

theorem mergeSort_number {α : Type} {number : α → Cell} {rows : List α} (key : α → Int)
    (hnumber : ∀ row ∈ rows, number row = .int (key row)) :
    (rows.mergeSort fun a b => (number b).le (number a)) = rows.mergeSort fun a b => key b ≤ key a := by
  refine mergeSort_congr ?_
  intro a ha b hb
  rw [hnumber a ha, hnumber b hb]
  change (!decide (key a < key b)) = decide (key b ≤ key a)
  rw [← decide_not, decide_eq_decide]
  omega

theorem pairwise_mergeSort_key {α : Type} (key : α → Int) (rows : List α) :
    (rows.mergeSort fun a b => decide (key b ≤ key a)).Pairwise fun a b => key b ≤ key a := by
  have hordered : (rows.mergeSort fun a b => decide (key b ≤ key a)).Pairwise fun a b => decide (key b ≤ key a) := by
    refine List.pairwise_mergeSort ?_ ?_ rows
    · simp only [decide_eq_true_eq]
      omega
    · simp only [Bool.or_eq_true, decide_eq_true_eq]
      omega
  exact hordered.imp of_decide_eq_true

/-- Of rows that are sorted by their numbers, the highest one first, the one that no other reaches is the first. -/
theorem exists_mergeSort_eq_cons {α : Type} {key : α → Int} {rows : List α} {last : α} (hlast : last ∈ rows)
    (hhighest : ∀ other ∈ rows, key last ≤ key other → other = last) :
    ∃ rest, (rows.mergeSort fun a b => decide (key b ≤ key a)) = last :: rest := by
  have hordered := pairwise_mergeSort_key key rows
  have hmem : ∀ row, row ∈ (rows.mergeSort fun a b => decide (key b ≤ key a)) ↔ row ∈ rows := by
    intro row
    exact List.mem_mergeSort
  cases hrows : rows.mergeSort fun a b => decide (key b ≤ key a) with
  | nil =>
      rw [← hmem, hrows] at hlast
      cases hlast
  | cons first rest =>
      rw [hrows] at hordered hmem
      have hreaches : key last ≤ key first := by
        rcases List.mem_cons.mp ((hmem last).mpr hlast) with heq | hlater
        · exact Int.le_of_eq (congrArg key heq)
        · exact (List.pairwise_cons.mp hordered).1 last hlater
      rw [hhighest first ((hmem first).mp List.mem_cons_self) hreaches]
      exact ⟨rest, rfl⟩

variable {id : Text}

/-- Where versions are numbered without a gap, the latest is the one whose number is how many there are. -/
theorem latestBlueprintVersion_of_gapless
    (hnumbers : Gapless BlueprintVersion.blueprintId BlueprintVersion.number s.blueprintVersions)
    (hloads : ∀ v ∈ s.blueprintVersions, v.load = .ok v) (hid : id.bindable = .ok id)
    (hne : s.blueprintVersionsOf id ≠ []) :
    ∃ v ∈ s.blueprintVersionsOf id, v.number = .int (s.blueprintVersionsOf id).length ∧
      s.latestBlueprintVersion id = .ok v := by
  obtain ⟨last, hlast, hnumber, hall⟩ := hnumbers.exists_last hne
  refine ⟨last, hlast, hnumber, ?_⟩
  choose! key hkey using hall
  have hhighest : ∀ other ∈ s.blueprintVersionsOf id, key last ≤ key other → other = last := by
    intro other hother hreaches
    obtain ⟨hotherNumber, hbound⟩ := hkey other hother
    have hlastNumber := (hkey last hlast).1
    rw [hnumber, Cell.int.injEq] at hlastNumber
    refine hnumbers.eq_of_number_eq hother hlast ?_
    rw [hotherNumber, hnumber, Cell.int.injEq]
    omega
  obtain ⟨rest, hfirst⟩ := exists_mergeSort_eq_cons hlast hhighest
  rw [← mergeSort_number key fun v hv => (hkey v hv).1] at hfirst
  rw [latestBlueprintVersion, bind_eq_ok]
  refine ⟨id, liftFault_eq_ok.mpr hid, ?_⟩
  rw [blueprintVersionsOf]
  rw [under] at hfirst
  rw [hfirst]
  exact liftFault_eq_ok.mpr (hloads last (List.mem_of_mem_filter hlast))

end Store

end PromptStudio
