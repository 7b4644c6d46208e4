import Mathlib.Data.List.Induction
import PromptStudio.Catalog.File
import PromptStudio.Proofs.Catalog.Consistency

/-!
# Holders of catalogs

Whatever stands where a catalog is expected, a holder holds the catalog that it loaded last, or none if it never could
load one. What an access can do is said once, by `Accessed`: it answers with what is held, it loads a catalog and holds
it, or it fails and holds what it held. A load refuses all that is no catalog, except that it breaks off on bytes that
are no text.
-/

namespace PromptStudio

/-! ### What a load gives -/

/-- The source is a file whose bytes are no text. -/
def CatalogSource.Undecodable (source : CatalogSource) : Prop :=
  ∃ path bytes, source = .file path (.present bytes) ∧ Utf8.decode? false bytes = none

theorem CatalogData.load_of_undecodable {source : CatalogSource} (h : source.Undecodable) :
    load source = .error (.fault .undecodableBytes) := by
  obtain ⟨path, bytes, rfl, hbytes⟩ := h
  rw [load, hbytes]

/-- What cannot be read as catalog data is refused as an invalid catalog, unless it breaks off. -/
theorem CatalogData.load_eq_error {source : CatalogSource} {failure : Failure} (h : load source = .error failure) :
    (source.Undecodable ∧ failure = .fault .undecodableBytes) ∨
      ∃ cause, failure = .refused cause ∧ cause.code = .catalogInvalid := by
  cases source with
  | preset => cases h
  | file path state =>
      cases state with
      | absent => exact .inr ⟨_, (Except.error.inj h).symm, rfl⟩
      | unreadable => exact .inr ⟨_, (Except.error.inj h).symm, rfl⟩
      | present bytes =>
          rw [load] at h
          split at h
          · rename_i hbytes
            exact .inl ⟨⟨path, bytes, rfl, hbytes⟩, (Except.error.inj h).symm⟩
          · rename_i t _
            rw [ofFileText] at h
            split at h
            · exact .inr ⟨_, (Except.error.inj h).symm, rfl⟩
            · split at h
              · cases h
              · exact .inr ⟨_, (Except.error.inj h).symm, rfl⟩

namespace Catalog

variable {c : Catalog}

theorem load_eq_ok_iff {source : CatalogSource} :
    load source = .ok c ↔ ∃ d, CatalogData.load source = .ok d ∧ d.Consistent ∧ c = d.indexed := by
  rw [load, bind_eq_ok]
  refine exists_congr fun d => and_congr_right fun _ => ?_
  rw [← ofData_eq_ok_iff]
  cases ofData d with
  | ok found =>
      constructor
      · intro h
        exact congrArg Except.ok (Except.ok.inj h)
      · intro h
        exact congrArg Except.ok (Except.ok.inj h)
  | error cause =>
      constructor
      · intro h
        cases h
      · intro h
        cases h

theorem load_of_undecodable {source : CatalogSource} (h : source.Undecodable) :
    load source = .error (.fault .undecodableBytes) := by
  rw [load, CatalogData.load_of_undecodable h]
  rfl

theorem load_eq_error {source : CatalogSource} {failure : Failure} (h : load source = .error failure) :
    (source.Undecodable ∧ failure = .fault .undecodableBytes) ∨
      ∃ cause, failure = .refused cause ∧ cause.code = .catalogInvalid := by
  rw [load, bind_eq_error] at h
  rcases h with hdata | ⟨d, -, hbuild⟩
  · exact CatalogData.load_eq_error hdata
  · cases hd : ofData d with
    | ok _ =>
        rw [hd] at hbuild
        cases hbuild
    | error cause =>
        rw [hd] at hbuild
        exact .inr ⟨cause, (Except.error.inj hbuild).symm, code_of_ofData hd⟩

/-! ### What an access can do -/

/-- What is asked of a holder, with the source as it is at the time. -/
inductive Access where
  | refresh (source : CatalogSource)
  | get (source : CatalogSource)

def Access.source : Access → CatalogSource
  | .refresh source => source
  | .get source => source

namespace Holder

/-- A holder before its first access. -/
def empty : Holder :=
  ⟨none⟩

def access (h : Holder) : Access → Except Failure Catalog × Holder
  | .refresh source => h.refresh source
  | .get source => h.get source

def run (h : Holder) (accesses : List Access) : Holder :=
  accesses.foldl (fun h a => (h.access a).2) h

/-- An access reads its source: to refresh always does, to get only while nothing is held. -/
def Reads (h : Holder) : Access → Prop
  | .refresh _ => True
  | .get _ => h.held = none

/-- An access reads its source and finds a catalog there. -/
def Loads (h : Holder) (a : Access) (c : Catalog) : Prop :=
  h.Reads a ∧ load a.source = .ok c

inductive Accessed (h : Holder) (a : Access) : Prop
  | answered (c : Catalog) (hheld : h.held = some c) (hreads : ¬ h.Reads a) (hresult : h.access a = (.ok c, h))
  | loaded (c : Catalog) (hloads : h.Loads a c) (hresult : h.access a = (.ok c, ⟨some c⟩))
  | failed (failure : Failure) (hload : load a.source = .error failure) (hresult : h.access a = (.error failure, h))

theorem accessed_of_reads {h : Holder} {a : Access} (hreads : h.Reads a)
    (hrefresh : h.access a = h.refresh a.source) : h.Accessed a := by
  rw [refresh] at hrefresh
  cases hload : load a.source with
  | ok c =>
      rw [hload] at hrefresh
      exact .loaded c ⟨hreads, hload⟩ hrefresh
  | error failure =>
      rw [hload] at hrefresh
      exact .failed failure hload hrefresh

theorem accessed (h : Holder) (a : Access) : h.Accessed a := by
  cases a with
  | refresh source => exact accessed_of_reads trivial rfl
  | get source =>
      cases hheld : h.held with
      | some c =>
          refine .answered c hheld (fun hnone => ?_) ?_
          · rw [Reads, hheld] at hnone
            cases hnone
          · rw [access, get, hheld]
      | none =>
          refine accessed_of_reads hheld ?_
          rw [access, get, hheld, Access.source]

theorem access_of_error {h : Holder} {a : Access} {failure : Failure} (hfails : (h.access a).1 = .error failure) :
    (h.access a).2 = h := by
  cases h.accessed a with
  | answered c _ _ hresult => rw [hresult]
  | loaded c _ hresult =>
      rw [hresult] at hfails
      cases hfails
  | failed _ _ hresult => rw [hresult]

end Holder

/-- To refresh installs a catalog or refuses it as invalid, except that it breaks off on bytes that are no text; then, too,
the holder stays as it was. -/
theorem refresh_installs_or_refuses_or_breaks_off (h : Holder) (source : CatalogSource) :
    (source.Undecodable → h.refresh source = (.error (.fault .undecodableBytes), h)) ∧
      (¬ source.Undecodable →
        (∃ c, h.refresh source = (.ok c, ⟨some c⟩)) ∨
          ∃ cause, cause.code = .catalogInvalid ∧ h.refresh source = (.error (.refused cause), h)) := by
  constructor
  · intro hbytes
    rw [Holder.refresh, load_of_undecodable hbytes]
  · intro hbytes
    cases hload : load source with
    | ok c => exact .inl ⟨c, by rw [Holder.refresh, hload]⟩
    | error failure =>
        obtain ⟨cause, rfl, hcode⟩ := (load_eq_error hload).resolve_left fun hbroken => hbytes hbroken.1
        exact .inr ⟨cause, hcode, by rw [Holder.refresh, hload]⟩

/-- A file of the one byte `ff` is no text, and is not refused. -/
theorem undecodable_file_is_not_refused :
    ¬ ∀ (h : Holder) (source : CatalogSource),
        (∃ c, h.refresh source = (.ok c, ⟨some c⟩)) ∨
          ∃ cause, cause.code = .catalogInvalid ∧ (h.refresh source).1 = .error (.refused cause) := by
  intro hall
  have hfault : (Holder.empty.refresh (.file "catalog.json" (.present [0xff]))).1
      = .error (.fault .undecodableBytes) := by rfl
  rcases hall .empty (.file "catalog.json" (.present [0xff])) with ⟨c, hinstalled⟩ | ⟨cause, -, hrefused⟩
  · rw [hinstalled] at hfault
    cases hfault
  · rw [hrefused] at hfault
    cases hfault

/-! ### Runs -/

def LoadsAt (accesses : List Access) (place : Nat) (c : Catalog) : Prop :=
  ∃ a, accesses[place]? = some a ∧ (Holder.empty.run (accesses.take place)).Loads a c

/-- What is held at the end of a run is what was loaded last. -/
inductive LastLoaded (accesses : List Access) : Option Catalog → Prop
  | none (hnever : ∀ place c, ¬ LoadsAt accesses place c) : LastLoaded accesses none
  | some {place : Nat} {c : Catalog} (hloads : LoadsAt accesses place c)
      (hlast : ∀ later other, LoadsAt accesses later other → later ≤ place) : LastLoaded accesses (some c)

theorem loadsAt_append_singleton {accesses : List Access} {a : Access} {place : Nat} :
    LoadsAt (accesses ++ [a]) place c ↔
      LoadsAt accesses place c ∨ place = accesses.length ∧ (Holder.empty.run accesses).Loads a c := by
  rcases Nat.lt_trichotomy place accesses.length with hbefore | rfl | hbehind
  · rw [LoadsAt, List.getElem?_append_left hbefore, List.take_append_of_le_length (Nat.le_of_lt hbefore), ← LoadsAt]
    exact (or_iff_left fun h => Nat.ne_of_lt hbefore h.1).symm
  · have hnone : ¬ LoadsAt accesses accesses.length c := by
      rintro ⟨_, hplace, -⟩
      rw [List.getElem?_eq_none (Nat.le_refl _)] at hplace
      cases hplace
    rw [LoadsAt, List.getElem?_concat_length, List.take_left]
    simp [hnone]
  · have hout : (accesses ++ [a])[place]? = none := by
      rw [List.getElem?_eq_none]
      rw [List.length_append, List.length_singleton]
      omega
    have hnone : ¬ LoadsAt accesses place c := by
      rintro ⟨_, hplace, -⟩
      rw [List.getElem?_eq_none (Nat.le_of_lt hbehind)] at hplace
      cases hplace
    rw [LoadsAt, hout]
    simp [hnone, Nat.ne_of_gt hbehind]

theorem LastLoaded.append_of_not_loads {accesses : List Access} {held : Option Catalog}
    (h : LastLoaded accesses held) {a : Access} (hnone : ∀ c, ¬ (Holder.empty.run accesses).Loads a c) :
    LastLoaded (accesses ++ [a]) held := by
  have hsame : ∀ place c, LoadsAt (accesses ++ [a]) place c ↔ LoadsAt accesses place c := by
    intro place c
    rw [loadsAt_append_singleton]
    exact or_iff_left fun hloads => hnone c hloads.2
  cases h with
  | none hnever => exact .none fun place c hloads => hnever place c ((hsame place c).mp hloads)
  | some hloads hlast =>
      exact .some ((hsame _ _).mpr hloads) fun later other hlater => hlast later other ((hsame later other).mp hlater)

theorem lastLoaded_run (accesses : List Access) : LastLoaded accesses (Holder.empty.run accesses).held := by
  induction accesses using List.reverseRecOn with
  | nil =>
      refine .none ?_
      rintro place c ⟨_, hplace, -⟩
      cases hplace
  | append_singleton accesses a ih =>
      have hrun : Holder.empty.run (accesses ++ [a]) = ((Holder.empty.run accesses).access a).2 := by
        rw [Holder.run, List.foldl_append]
        rfl
      rw [hrun]
      cases (Holder.empty.run accesses).accessed a with
      | answered c _ hreads hresult =>
          rw [hresult]
          exact ih.append_of_not_loads fun _ hloads => hreads hloads.1
      | failed failure hload hresult =>
          rw [hresult]
          refine ih.append_of_not_loads fun _ hloads => ?_
          rw [Holder.Loads, hload] at hloads
          cases hloads.2
      | loaded c hloads hresult =>
          rw [hresult]
          refine .some (loadsAt_append_singleton.mpr (.inr ⟨rfl, hloads⟩)) ?_
          rintro later other ⟨_, hplace, -⟩
          have hlength := (List.getElem?_eq_some_iff.mp hplace).1
          rw [List.length_append, List.length_singleton] at hlength
          exact Nat.le_of_lt_succ hlength

/-- Whatever stands at the source from access to access: what is held is the catalog that was loaded last, or none if none
ever was; an access that fails changes nothing; to get a catalog while one is held gives it, whatever the source is; and
a held catalog has the entries of a consistent source in their order, each under its own key. -/
theorem held_catalog_is_the_last_loaded (accesses : List Access) :
    LastLoaded accesses (Holder.empty.run accesses).held ∧
      (∀ a failure, ((Holder.empty.run accesses).access a).1 = .error failure →
        ((Holder.empty.run accesses).access a).2 = Holder.empty.run accesses) ∧
      ∀ c, (Holder.empty.run accesses).held = some c →
        (∀ source, (Holder.empty.run accesses).access (.get source) = (.ok c, Holder.empty.run accesses)) ∧
          ∃ a ∈ accesses, ∃ d, CatalogData.load a.source = .ok d ∧ d.Consistent ∧ c = d.indexed := by
  refine ⟨lastLoaded_run accesses, fun _ _ hfails => Holder.access_of_error hfails, ?_⟩
  intro c hheld
  constructor
  · intro source
    rw [Holder.access, Holder.get, hheld]
  · have hlast := lastLoaded_run accesses
    rw [hheld] at hlast
    cases hlast with
    | some hloads _ =>
        obtain ⟨a, hplace, -, hload⟩ := hloads
        exact ⟨a, List.mem_of_getElem? hplace, load_eq_ok_iff.mp hload⟩

/-- The catalog of an empty object is still held when its file is gone. -/
example : (Holder.empty.run [.get (.file "catalog.json" (.present [0x7b, 0x7d])),
    .refresh (.file "catalog.json" .absent)]).held.isSome = true := by
  decide +kernel

end Catalog

end PromptStudio
