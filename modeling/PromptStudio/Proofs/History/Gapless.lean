import Mathlib.Data.List.Induction
import PromptStudio.Proofs.History.Versions
import PromptStudio.Proofs.Prompt.Compiled

/-!
# Versions without a gap

What holds of the rows and of what is under way holds at every moment of a run. Of a writing it is also known what it
once read: the moment at which its rows were loaded and the moment at which its number was counted lie in the run. So it
can be told of an insertion how it ends: it is refused if rows came since it counted, and else adds the next row.
-/

namespace PromptStudio

namespace Store

variable {s : Store}

theorem found_of_blueprintWithLatest {k : Studio} (h : k.BlueprintsSound) {id userId : Text} {loaded : BlueprintAnswer}
    (hloaded : k.store.blueprintWithLatest id userId = .ok loaded) :
    loaded.blueprint.id = id ∧ k.store.Found loaded ∧
      loaded.version.number = .int (k.store.blueprintVersionsOf id).length := by
  obtain ⟨howned, hlatest⟩ := blueprintWithLatest_eq_ok_iff.mp hloaded
  obtain ⟨hid, hhead, -⟩ := ownedBlueprint_eq_ok howned
  have hsame : loaded.blueprint.id = id := id_of_blueprint? hhead
  have hne := h.begun id (Option.isSome_iff_exists.mpr ⟨_, hhead⟩)
  obtain ⟨last, hlast, hnumber, hfound⟩ :=
    latestBlueprintVersion_of_gapless h.numbers (fun v hv => (h.whole v hv).loads) hid hne
  rw [hfound, Except.ok.injEq] at hlatest
  subst hlatest
  refine ⟨hsame, ⟨?_, ?_⟩, hnumber⟩
  · rw [hsame]
    exact Option.isSome_iff_exists.mpr ⟨_, hhead⟩
  · rw [hsame]
    exact hlast

theorem Allows.count {k : Studio} (h : k.BlueprintsSound) {w : Writing} (hallows : k.store.Allows w) (c : Context) :
    k.store.Allows (w.count k.store c) := by
  cases w with
  | snapshot record =>
      refine ⟨hallows, ?_, Int.le_refl _⟩
      change (1 : Int) ≤ (k.store.snapshotsOf record.id).length + 1
      omega
  | change loaded changes =>
      rw [Writing.count]
      split
      · rename_i next hnext
        refine ⟨hallows, ?_⟩
        intro n hn
        subst hn
        obtain ⟨hmem, hparent⟩ := List.mem_filter.mp hallows.version
        exact (nextVersion?_eq_some (beq_iff_eq.mp hparent) (h.whole _ hmem) hnext).2
      · trivial
  | numbered record n => exact hallows
  | counted loaded changes next => exact hallows
  | ended => trivial

end Store

/-! ### Whole operations -/

namespace Activity

variable (σ : Activity) (c : Context)

/-- What the last writing that was begun leaves when it counts and inserts without a pause. -/
theorem studio_run_begin (w : Writing) :
    ((σ.begin w).run [.count σ.writings.length c, .insert σ.writings.length c]).studio
      = ((w.count σ.studio.store c).insert σ.studio c).1 := by
  have hcount : (σ.begin w).step (.count σ.writings.length c) = σ.begin (w.count σ.studio.store c) := by
    have hplace : (σ.begin w).writings[σ.writings.length]? = some w := List.getElem?_concat_length
    rw [step, hplace]
    dsimp only [begin]
    rw [List.set_append_right _ _ (Nat.le_refl _), Nat.sub_self]
    rfl
  have hplace : (σ.begin (w.count σ.studio.store c)).writings[σ.writings.length]? = some (w.count σ.studio.store c) :=
    List.getElem?_concat_length
  rw [run, List.foldl_cons, hcount, List.foldl_cons, step, hplace]
  rfl

theorem run_of_nothing_begun :
    σ.run [.count σ.writings.length c, .insert σ.writings.length c] = σ := by
  have hplace : σ.writings[σ.writings.length]? = none := List.getElem?_eq_none (Nat.le_refl _)
  have hcount : σ.step (.count σ.writings.length c) = σ := by rw [step, hplace]
  rw [run, List.foldl_cons, hcount, List.foldl_cons, step, hplace]
  rfl

/-- To save a snapshot is to find the prompt, to count and to insert, with nothing in between. -/
theorem run_save (promptId userId : Text) :
    (σ.run [.save promptId userId, .count σ.writings.length c, .insert σ.writings.length c]).studio
      = (σ.studio.saveSnapshot c promptId userId).2 := by
  change ((σ.step _).run _).studio = _
  rw [step, Studio.saveSnapshot]
  split
  · rename_i record hfound
    have hid := Store.id_of_prompt? (Store.prompt_eq_ok hfound).1
    rw [hfound, studio_run_begin, ← hid]
    rfl
  · rename_i failure hfailed
    rw [hfailed, run_of_nothing_begun]
    rfl

theorem run_change (id userId : Text) (changes : BlueprintChanges) :
    (σ.run [.change id userId changes, .count σ.writings.length c, .insert σ.writings.length c]).studio
      = (σ.studio.updateBlueprint c id userId changes).2 := by
  change ((σ.step _).run _).studio = _
  rw [step, Studio.updateBlueprint]
  split
  · rename_i loaded hloaded
    rw [hloaded, studio_run_begin, Writing.count]
    dsimp only [bind, Except.bind]
    cases σ.studio.store.nextVersion? c.catalog loaded.version changes with
    | ok next => rfl
    | error failure => rfl
  · rename_i failure hfailed
    rw [hfailed, run_of_nothing_begun]
    rfl

end Activity

/-! ### What is under way at a moment of a run -/

namespace Activity

variable {σ : Activity}

inductive Proceeds (σ : Activity) (place : Nat) : Writing → Prop
  | still {w : Writing} (hplace : σ.writings[place]? = some w) : Proceeds σ place w
  | found {promptId userId : Text} {record : PromptRecord}
      (hfound : σ.studio.store.prompt promptId (some userId) = .ok record) : Proceeds σ place (.snapshot record)
  | loaded {id userId : Text} {loaded : BlueprintAnswer}
      (hloaded : σ.studio.store.blueprintWithLatest id userId = .ok loaded) (changes : BlueprintChanges) :
      Proceeds σ place (.change loaded changes)
  | counts {w : Writing} (hplace : σ.writings[place]? = some w) (c : Context) :
      Proceeds σ place (w.count σ.studio.store c)
  | ended : Proceeds σ place .ended

theorem proceeds_step {e : Happening} {place : Nat} {w : Writing} (h : (σ.step e).writings[place]? = some w) :
    σ.Proceeds place w := by
  have hbegin {new : Writing} (hnew : σ.Proceeds place new) (hsome : (σ.begin new).writings[place]? = some w) :
      σ.Proceeds place w := by
    rw [begin, List.getElem?_append] at hsome
    split at hsome
    · exact .still hsome
    · rw [List.getElem?_singleton] at hsome
      split at hsome
      · exact Option.some.inj hsome ▸ hnew
      · cases hsome
  have hset {place' : Nat} {new : Writing} (hnew : place' = place → σ.Proceeds place new)
      (hsome : (σ.writings.set place' new)[place]? = some w) : σ.Proceeds place w := by
    rw [List.getElem?_set] at hsome
    split at hsome
    · rename_i heq
      split at hsome
      · exact Option.some.inj hsome ▸ hnew heq
      · cases hsome
    · exact .still hsome
  cases e with
  | training event => exact .still h
  | compile c userId r choice => exact .still h
  | createBlueprint c userId draft => exact .still h
  | save promptId userId =>
      rw [step] at h
      split at h
      · rename_i record hfound
        exact hbegin (.found hfound) h
      · exact .still h
  | change id userId changes =>
      rw [step] at h
      split at h
      · rename_i loaded hloaded
        exact hbegin (.loaded hloaded changes) h
      · exact .still h
  | count place' c =>
      rw [step] at h
      split at h
      · rename_i old hold
        exact hset (fun heq => .counts (heq ▸ hold) c) h
      · exact .still h
  | insert place' c =>
      rw [step] at h
      split at h
      · rename_i old hold
        refine hset (fun heq => ?_) h
        subst heq
        cases old with
        | numbered record n => exact .ended
        | counted loaded changes next => exact .ended
        | _ => exact .still hold
      · exact .still h

theorem grows_step (e : Happening) : σ.studio.store.Grows (σ.step e).studio.store := by
  rcases σ.step_cases e with ⟨event, rfl⟩ | ⟨hwrites, _⟩
  · exact (σ.traffic.moves_step event).sameHistory.grows
  · exact hwrites.grows

theorem grows_run (happenings : List Happening) : σ.studio.store.Grows (σ.run happenings).studio.store :=
  run_induction (P := fun τ => σ.studio.store.Grows τ.studio.store) (fun _ e h => h.trans (grows_step e))
    (.refl _) happenings

/-- What holds of prompts, blueprints and their versions, and of the writings that are under way. -/
structure HistorySound (σ : Activity) : Prop where
  studio : σ.studio.HistorySound
  allowed : ∀ (place : Nat) w, σ.writings[place]? = some w → σ.studio.store.Allows w

theorem HistorySound.step (h : σ.HistorySound) (e : Happening) : (σ.step e).HistorySound where
  studio := by
    rcases σ.step_cases e with ⟨event, rfl⟩ | ⟨hwrites, _⟩
    · exact h.studio.of_sameHistory (σ.traffic.moves_step event).sameHistory
    · exact h.studio.writes h.allowed hwrites
  allowed := by
    intro place w hplace
    refine (grows_step e).allows ?_
    cases proceeds_step hplace with
    | still hold => exact h.allowed place w hold
    | @found _ _ record hfound =>
        obtain ⟨hstored, _⟩ := Store.prompt_eq_ok hfound
        change σ.studio.store.prompt? record.id = some record
        rw [Store.id_of_prompt? hstored]
        exact hstored
    | loaded hloaded changes => exact (Store.found_of_blueprintWithLatest h.studio.blueprints hloaded).2.1
    | counts hold c => exact (h.allowed place _ hold).count h.studio.blueprints c
    | ended => trivial

theorem historySound_start : start.HistorySound where
  studio := ⟨.start, .start⟩
  allowed := by simp [start]

theorem historySound_run (happenings : List Happening) : (start.run happenings).HistorySound :=
  run_induction (P := HistorySound) (fun _ e h => h.step e) historySound_start happenings

/-! ### What a writing once read -/

def Once (happenings : List Happening) (P : Activity → Prop) : Prop :=
  ∃ before, before <+: happenings ∧ P (start.run before)

theorem run_concat (σ : Activity) (happenings : List Happening) (e : Happening) :
    σ.run (happenings ++ [e]) = (σ.run happenings).step e :=
  run_append σ happenings [e]

theorem Once.now {happenings : List Happening} {P : Activity → Prop} (h : P (start.run happenings)) :
    Once happenings P :=
  ⟨happenings, List.prefix_refl _, h⟩

theorem Once.later {happenings more : List Happening} {P : Activity → Prop} (h : Once happenings P) :
    Once (happenings ++ more) P := by
  obtain ⟨before, hbefore, hthen⟩ := h
  exact ⟨before, hbefore.trans (List.prefix_append _ _), hthen⟩

end Activity

namespace Writing

def Reads (s : Store) : Writing → Prop
  | .snapshot record | .numbered record _ => ∃ promptId userId, s.prompt promptId (some userId) = .ok record
  | .change loaded _ | .counted loaded _ _ => ∃ id userId, s.blueprintWithLatest id userId = .ok loaded
  | .ended => True

/-- Whether a writing has the number, and the content, that counting in a store gives. -/
def Counts (s : Store) : Writing → Prop
  | .numbered record n => n = s.nextSnapshotNumber record.id
  | .counted loaded changes next => ∃ c : Context, s.nextVersion? c.catalog loaded.version changes = .ok next
  | _ => True

theorem Reads.count {s : Store} {w : Writing} (h : w.Reads s) (now : Store) (c : Context) : (w.count now c).Reads s := by
  cases w with
  | change loaded changes =>
      rw [Writing.count]
      split
      · exact h
      · trivial
  | _ => exact h

end Writing

namespace Activity

theorem once_reads {happenings : List Happening} {place : Nat} {w : Writing}
    (h : (start.run happenings).writings[place]? = some w) : Once happenings fun τ => w.Reads τ.studio.store := by
  induction happenings using List.reverseRecOn generalizing w with
  | nil => simp [run, start] at h
  | append_singleton before e ih =>
      rw [run_concat] at h
      refine Once.later ?_
      cases proceeds_step h with
      | still hold => exact ih hold
      | found hfound => exact .now ⟨_, _, hfound⟩
      | loaded hloaded changes => exact .now ⟨_, _, hloaded⟩
      | counts hold c =>
          obtain ⟨earlier, hprefix, hreads⟩ := ih hold
          exact ⟨earlier, hprefix, hreads.count _ c⟩
      | ended => exact .now trivial

theorem once_counts {happenings : List Happening} {place : Nat} {w : Writing}
    (h : (start.run happenings).writings[place]? = some w) : Once happenings fun τ => w.Counts τ.studio.store := by
  induction happenings using List.reverseRecOn generalizing w with
  | nil => simp [run, start] at h
  | append_singleton before e ih =>
      rw [run_concat] at h
      refine Once.later ?_
      cases proceeds_step h with
      | still hold => exact ih hold
      | found hfound => exact .now trivial
      | loaded hloaded changes => exact .now trivial
      | @counts old hold c =>
          cases old with
          | snapshot record => exact .now rfl
          | change loaded changes =>
              refine .now ?_
              rw [Writing.count]
              split
              · rename_i next hnext
                exact ⟨c, hnext⟩
              · trivial
          | _ => exact ih hold
      | ended => exact .now trivial

end Activity

end PromptStudio
