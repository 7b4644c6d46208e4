import PromptStudio.Proofs.Ownership.Basic

/-!
# What a request of a user writes

A request adds rows that the user owns, or changes rows that the user owns, and every reference that it writes leads to
a row of the user. What it can do is said once, by `Touches`; that the rows of all others stay as they are, and that new
rows refer to rows of the user only, are case analyses over it.
-/

namespace PromptStudio

namespace Store

/-- What a request of a user can do to a store. -/
inductive Touches (userId : Text) (s : Store) : Store → Prop
  | nothing : Touches userId s s
  | model (m : LoraModel) (huser : m.userId = userId) : Touches userId s { s with models := s.models ++ [m] }
  | dataset (d : Dataset) (huser : d.userId = userId) (hmodel : s.owner? (.model d.modelId) = some userId) :
      Touches userId s { s with datasets := s.datasets ++ [d] }
  | verdict (id : Text) (v : Verdict) (now : Instant)
      (howned : ∀ d ∈ s.datasets, d.id = id → d.userId = userId ∧ s.owner? (.model d.modelId) = some userId) :
      Touches userId s { s with datasets := updateWhere (·.id == id) (Dataset.withVerdict v now) s.datasets }
  | job (v : Version) (j : Job) (hparent : j.versionId = v.id) (hfresh : s.version? v.id = none)
      (hreferences : ∀ r ∈ (Row.version v).references, s.owner? r = some userId) :
      Touches userId s { s with versions := s.versions ++ [v], jobs := s.jobs ++ [j] }
  | settled (id : Text) (howned : ∀ j ∈ s.jobs, j.id = id → s.owner? (.version j.versionId) = some userId)
      (change : Job → Job) (hchange : ∀ j, (change j).versionId = j.versionId) :
      Touches userId s { s with jobs := updateWhere (·.id == id) change s.jobs }
  | bind (bindings : List Binding)
      (hothers : ∀ other, other ≠ userId →
        bindings.filter (·.userId == other) = s.bindings.filter (·.userId == other))
      (hnew : ∀ b ∈ bindings, b ∉ s.bindings → b.userId = userId ∧ s.owner? (.version b.versionId) = some userId) :
      Touches userId s { s with bindings }
  | prompt (p : PromptRecord) (huser : p.userId = some userId)
      (hreferences : ∀ r ∈ (Row.prompt p).references, s.owner? r = some userId) :
      Touches userId s { s with prompts := s.prompts ++ [p] }
  | snapshot (v : PromptVersion) (hparent : s.owner? (.prompt v.promptId) = some userId) :
      Touches userId s { s with promptVersions := s.promptVersions ++ [v] }
  | blueprint (b : UserBlueprint) (v : BlueprintVersion) (huser : b.userId = userId) (hparent : v.blueprintId = b.id)
      (hfresh : s.blueprint? b.id = none) :
      Touches userId s
        { s with blueprints := s.blueprints ++ [b], blueprintVersions := s.blueprintVersions ++ [v] }
  | change (loaded : UserBlueprint) (changes : BlueprintChanges) (now : Instant) (more : List BlueprintVersion)
      (howned : ∀ b ∈ s.blueprints, b.id = loaded.id → b.userId = userId)
      (hparent : s.owner? (.blueprint loaded.id) = some userId) (hmore : ∀ v ∈ more, v.blueprintId = loaded.id) :
      Touches userId s
        { s.updateBlueprint loaded.id (loaded.rewritten changes now) with
          blueprintVersions := s.blueprintVersions ++ more }

/-! ### Owners stay -/

/-- Whoever owns a row owns it afterwards. -/
def KeepsOwners (s s' : Store) : Prop :=
  ∀ r userId, s.owner? r = some userId → s'.owner? r = some userId

variable {s s' : Store} {userId other : Text}

theorem keepsOwners_of (hmodels : ∀ id m, s.model? id = some m → s'.model? id = some m)
    (hdatasets : ∀ id d, s.dataset? id = some d → ∃ d', s'.dataset? id = some d' ∧ d'.userId = d.userId)
    (hversions : ∀ id v, s.version? id = some v → s'.version? id = some v)
    (hprompts : ∀ id p, s.prompt? id = some p → s'.prompt? id = some p)
    (hblueprints : ∀ id b, s.blueprint? id = some b → ∃ b', s'.blueprint? id = some b' ∧ b'.userId = b.userId) :
    s.KeepsOwners s' := by
  have hmodelOwners (id userId : Text) (h : s.owner? (.model id) = some userId) : s'.owner? (.model id) = some userId := by
    obtain ⟨m, hm, huser⟩ := owner?_model_eq_some.mp h
    exact owner?_model_eq_some.mpr ⟨m, hmodels id m hm, huser⟩
  intro r userId h
  cases r with
  | model id => exact hmodelOwners id userId h
  | dataset id =>
      obtain ⟨d, hd, huser⟩ := Option.map_eq_some_iff.mp h
      obtain ⟨d', hd', hsame⟩ := hdatasets id d hd
      exact Option.map_eq_some_iff.mpr ⟨d', hd', hsame.trans huser⟩
  | version id =>
      obtain ⟨v, hv, howner⟩ := owner?_version_eq_some.mp h
      exact owner?_version_eq_some.mpr ⟨v, hversions id v hv, hmodelOwners _ _ howner⟩
  | prompt id =>
      obtain ⟨p, hp, huser⟩ := owner?_prompt_eq_some.mp h
      exact owner?_prompt_eq_some.mpr ⟨p, hprompts id p hp, huser⟩
  | blueprint id =>
      obtain ⟨b, hb, huser⟩ := owner?_blueprint_eq_some.mp h
      obtain ⟨b', hb', hsame⟩ := hblueprints id b hb
      exact owner?_blueprint_eq_some.mpr ⟨b', hb', hsame.trans huser⟩

theorem Touches.keepsOwners (h : s.Touches userId s') : s.KeepsOwners s' := by
  cases h with
  | model m _ =>
      exact keepsOwners_of (fun _ _ hm => find?_append_of_eq_some hm) (fun _ d hd => ⟨d, hd, rfl⟩) (fun _ _ hv => hv)
        (fun _ _ hp => hp) fun _ b hb => ⟨b, hb, rfl⟩
  | dataset d _ _ =>
      exact keepsOwners_of (fun _ _ hm => hm) (fun _ d hd => ⟨d, find?_append_of_eq_some hd, rfl⟩) (fun _ _ hv => hv)
        (fun _ _ hp => hp) fun _ b hb => ⟨b, hb, rfl⟩
  | verdict id v now _ =>
      refine keepsOwners_of (fun _ _ hm => hm) ?_ (fun _ _ hv => hv) (fun _ _ hp => hp) fun _ b hb => ⟨b, hb, rfl⟩
      intro key d hd
      refine ⟨if d.id == id then d.withVerdict v now else d, ?_, ?_⟩
      · rw [dataset?, find?_updateWhere Dataset.id (·.id == id) (Dataset.withVerdict v now) (fun _ => rfl)]
        change (s.dataset? key).map _ = _
        rw [hd]
        rfl
      · split <;> rfl
  | job v j _ _ _ =>
      exact keepsOwners_of (fun _ _ hm => hm) (fun _ d hd => ⟨d, hd, rfl⟩) (fun _ _ hv => find?_append_of_eq_some hv)
        (fun _ _ hp => hp) fun _ b hb => ⟨b, hb, rfl⟩
  | prompt p _ _ =>
      exact keepsOwners_of (fun _ _ hm => hm) (fun _ d hd => ⟨d, hd, rfl⟩) (fun _ _ hv => hv)
        (fun _ _ hp => find?_append_of_eq_some hp) fun _ b hb => ⟨b, hb, rfl⟩
  | blueprint b v _ _ _ =>
      exact keepsOwners_of (fun _ _ hm => hm) (fun _ d hd => ⟨d, hd, rfl⟩) (fun _ _ hv => hv) (fun _ _ hp => hp)
        fun _ b hb => ⟨b, find?_append_of_eq_some hb, rfl⟩
  | change loaded changes now more _ _ _ =>
      refine keepsOwners_of (fun _ _ hm => hm) (fun _ d hd => ⟨d, hd, rfl⟩) (fun _ _ hv => hv) (fun _ _ hp => hp) ?_
      intro key b hb
      refine ⟨if b.id == loaded.id then loaded.rewritten changes now b else b, ?_, ?_⟩
      · exact (blueprint?_updateBlueprint s loaded changes now key).trans (by rw [hb]; rfl)
      · split
        · exact UserBlueprint.rewritten_userId ..
        · rfl
  | _ => exact fun _ _ hsame => hsame

theorem owner?_of_new_version {v : Version} {j : Job} (hfresh : s.version? v.id = none)
    (hmodel : s.owner? (.model v.modelId) = some userId) :
    ({ s with versions := s.versions ++ [v], jobs := s.jobs ++ [j] } : Store).owner? (.version v.id) = some userId :=
  owner?_version_eq_some.mpr ⟨v, find?_append_new hfresh (beq_self_eq_true v.id), hmodel⟩

theorem owner?_of_new_blueprint {b : UserBlueprint} {v : BlueprintVersion} (hfresh : s.blueprint? b.id = none)
    (huser : b.userId = userId) :
    ({ s with blueprints := s.blueprints ++ [b], blueprintVersions := s.blueprintVersions ++ [v] } : Store).owner?
      (.blueprint b.id) = some userId :=
  owner?_blueprint_eq_some.mpr ⟨b, find?_append_new hfresh (beq_self_eq_true b.id), huser⟩

/-! ### The rows of others -/

/-- Rows whose parents keep their owners are owned as before. -/
theorem filter_owner? {α : Type} {rows : List α} {parent : α → Reference} (hkeeps : s.KeepsOwners s')
    (hrooted : ∀ row ∈ rows, ∃ userId, s.owner? (parent row) = some userId) (userId : Text) :
    rows.filter (fun row => s'.owner? (parent row) == some userId)
      = rows.filter fun row => s.owner? (parent row) == some userId := by
  refine List.filter_congr ?_
  intro row hrow
  obtain ⟨owner, howner⟩ := hrooted row hrow
  rw [hkeeps _ _ howner, howner]

theorem filter_append_of_neg {α : Type} {q : α → Bool} {rows : List α} {row : α} (hrow : q row = false) :
    (rows ++ [row]).filter q = rows.filter q := by
  have hdropped : [row].filter q = [] := List.filter_cons_of_neg (by rw [hrow]; exact Bool.false_ne_true)
  rw [List.filter_append, hdropped, List.append_nil]

/-- Changes of rows that are not kept, before or afterwards. -/
theorem filter_updateWhere_of_neg {α : Type} {q picks : α → Bool} {change : α → α} {rows : List α}
    (hold : ∀ row ∈ rows, picks row = true → q row = false)
    (hnew : ∀ row ∈ rows, picks row = true → q (change row) = false) :
    (updateWhere picks change rows).filter q = rows.filter q := by
  induction rows with
  | nil => rfl
  | cons row rest ih =>
      have hrest := ih (fun r hr => hold r (List.mem_cons_of_mem _ hr)) fun r hr => hnew r (List.mem_cons_of_mem _ hr)
      rw [updateWhere, List.map_cons, ← updateWhere]
      by_cases hpick : picks row = true
      · rw [if_pos hpick, List.filter_cons_of_neg, List.filter_cons_of_neg, hrest]
        · rw [hold row List.mem_cons_self hpick]
          exact Bool.false_ne_true
        · rw [hnew row List.mem_cons_self hpick]
          exact Bool.false_ne_true
      · rw [if_neg hpick, List.filter_cons, List.filter_cons, hrest]

theorem ownedBy_eq (hrooted : s.Rooted) (hkeeps : s.KeepsOwners s')
    (hmodels : s'.models.filter (some ·.userId == some other) = s.models.filter (some ·.userId == some other))
    (hdatasets : s'.datasets.filter (some ·.userId == some other) = s.datasets.filter (some ·.userId == some other))
    (hversions : s'.versions.filter (fun v => s'.owner? (.model v.modelId) == some other)
      = s.versions.filter fun v => s'.owner? (.model v.modelId) == some other)
    (hjobs : s'.jobs.filter (fun j => s'.owner? (.version j.versionId) == some other)
      = s.jobs.filter fun j => s'.owner? (.version j.versionId) == some other)
    (hbindings : s'.bindings.filter (some ·.userId == some other) = s.bindings.filter (some ·.userId == some other))
    (hprompts : s'.prompts.filter (·.userId == some other) = s.prompts.filter (·.userId == some other))
    (hsnapshots : s'.promptVersions.filter (fun v => s'.owner? (.prompt v.promptId) == some other)
      = s.promptVersions.filter fun v => s'.owner? (.prompt v.promptId) == some other)
    (hblueprints : s'.blueprints.filter (some ·.userId == some other)
      = s.blueprints.filter (some ·.userId == some other))
    (hblueprintVersions : s'.blueprintVersions.filter (fun v => s'.owner? (.blueprint v.blueprintId) == some other)
      = s.blueprintVersions.filter fun v => s'.owner? (.blueprint v.blueprintId) == some other) :
    s'.ownedBy other = s.ownedBy other := by
  simp only [ownedBy, owns, Row.owner?]
  rw [hmodels, hdatasets, hversions, hjobs, hbindings, hprompts, hsnapshots, hblueprints, hblueprintVersions,
    filter_owner? hkeeps hrooted.versions, filter_owner? hkeeps hrooted.jobs, filter_owner? hkeeps hrooted.snapshots,
    filter_owner? hkeeps hrooted.blueprintVersions]

theorem Touches.ownedBy_of_ne (h : s.Touches userId s') (hrooted : s.Rooted) (hother : other ≠ userId) :
    s'.ownedBy other = s.ownedBy other := by
  have hkeeps := h.keepsOwners
  have hneg : (some userId == some other) = false := beq_false_of_ne fun hsame => hother (Option.some.inj hsame).symm
  cases h with
  | nothing => rfl
  | model m huser =>
      refine ownedBy_eq hrooted hkeeps ?_ rfl rfl rfl rfl rfl rfl rfl rfl
      exact filter_append_of_neg (by rw [huser]; exact hneg)
  | dataset d huser _ =>
      refine ownedBy_eq hrooted hkeeps rfl ?_ rfl rfl rfl rfl rfl rfl rfl
      exact filter_append_of_neg (by rw [huser]; exact hneg)
  | verdict id v now howned =>
      refine ownedBy_eq hrooted hkeeps rfl ?_ rfl rfl rfl rfl rfl rfl rfl
      refine filter_updateWhere_of_neg ?_ ?_
      · intro d hd hid
        rw [(howned d hd (beq_iff_eq.mp hid)).1]
        exact hneg
      · intro d hd hid
        change (some d.userId == some other) = false
        rw [(howned d hd (beq_iff_eq.mp hid)).1]
        exact hneg
  | job v j hparent hfresh hreferences =>
      have hmodel := hreferences (.model v.modelId) List.mem_cons_self
      refine ownedBy_eq hrooted hkeeps rfl rfl ?_ ?_ rfl rfl rfl rfl rfl
      · exact filter_append_of_neg (by rw [hkeeps _ _ hmodel]; exact hneg)
      · exact filter_append_of_neg (by rw [hparent, owner?_of_new_version hfresh hmodel]; exact hneg)
  | settled id howned change hchange =>
      refine ownedBy_eq hrooted hkeeps rfl rfl rfl ?_ rfl rfl rfl rfl rfl
      refine filter_updateWhere_of_neg ?_ ?_
      · intro j hj hid
        rw [hkeeps _ _ (howned j hj (beq_iff_eq.mp hid))]
        exact hneg
      · intro j hj hid
        rw [hchange, hkeeps _ _ (howned j hj (beq_iff_eq.mp hid))]
        exact hneg
  | bind bindings hothers _ =>
      refine ownedBy_eq hrooted hkeeps rfl rfl rfl rfl ?_ rfl rfl rfl rfl
      exact hothers other hother
  | prompt p huser _ =>
      refine ownedBy_eq hrooted hkeeps rfl rfl rfl rfl rfl ?_ rfl rfl rfl
      exact filter_append_of_neg (by rw [huser]; exact hneg)
  | snapshot v hparent =>
      refine ownedBy_eq hrooted hkeeps rfl rfl rfl rfl rfl rfl ?_ rfl rfl
      exact filter_append_of_neg (by rw [hkeeps _ _ hparent]; exact hneg)
  | blueprint b v huser hparent hfresh =>
      refine ownedBy_eq hrooted hkeeps rfl rfl rfl rfl rfl rfl rfl ?_ ?_
      · exact filter_append_of_neg (by rw [huser]; exact hneg)
      · exact filter_append_of_neg (by rw [hparent, owner?_of_new_blueprint hfresh huser]; exact hneg)
  | change loaded changes now more howned hparent hmore =>
      refine ownedBy_eq hrooted hkeeps rfl rfl rfl rfl rfl rfl rfl ?_ ?_
      · refine filter_updateWhere_of_neg ?_ ?_
        · intro b hb hid
          rw [howned b hb (beq_iff_eq.mp hid)]
          exact hneg
        · intro b hb hid
          rw [UserBlueprint.rewritten_userId, howned b hb (beq_iff_eq.mp hid)]
          exact hneg
      · refine List.filter_append .. |>.trans ?_
        refine (congrArg _ (List.filter_eq_nil_iff.mpr ?_)).trans (List.append_nil _)
        intro v hv
        rw [hmore v hv, hkeeps _ _ hparent, hneg]
        exact Bool.false_ne_true

/-! ### New rows -/

theorem eq_of_mem_append_of_not_mem {α : Type} {rows : List α} {row new : α} (h : row ∈ rows ++ [new])
    (hnew : row ∉ rows) : row = new :=
  List.mem_singleton.mp ((List.mem_append.mp h).resolve_left hnew)

theorem exists_of_mem_updateWhere_of_not_mem {α : Type} {picks : α → Bool} {change : α → α} {rows : List α} {row : α}
    (h : row ∈ updateWhere picks change rows) (hnew : row ∉ rows) : ∃ old ∈ rows, picks old = true ∧ row = change old := by
  obtain ⟨old, hold, rfl⟩ := mem_updateWhere.mp h
  by_cases hpick : picks old = true
  · exact ⟨old, hold, hpick, if_pos hpick⟩
  · rw [if_neg hpick] at hnew
    exact absurd hold hnew

def Within (s : Store) (userId : Text) (row : Row) : Prop :=
  row.owner? s = some userId ∧ ∀ r ∈ row.references, s.owner? r = some userId

theorem within_of_parent {row : Row} {parent : Reference} (howner : row.owner? s = s.owner? parent)
    (hreferences : row.references = [parent]) (hparent : s.owner? parent = some userId) : s.Within userId row :=
  ⟨howner.trans hparent, hreferences ▸ List.forall_mem_singleton.mpr hparent⟩

theorem Touches.within (h : s.Touches userId s') {row : Row} (hrow : s'.Has row) (hnew : ¬ s.Has row) :
    s'.Within userId row := by
  have hkeeps := h.keepsOwners
  cases h with
  | nothing => exact absurd hrow hnew
  | model m huser =>
      cases row with
      | model m' =>
          cases eq_of_mem_append_of_not_mem hrow hnew
          exact ⟨congrArg some huser, List.forall_mem_nil _⟩
      | _ => exact absurd hrow hnew
  | dataset d huser hmodel =>
      cases row with
      | dataset d' =>
          cases eq_of_mem_append_of_not_mem hrow hnew
          exact ⟨congrArg some huser, List.forall_mem_singleton.mpr hmodel⟩
      | _ => exact absurd hrow hnew
  | verdict id v now howned =>
      cases row with
      | dataset d' =>
          obtain ⟨d, hd, hid, rfl⟩ := exists_of_mem_updateWhere_of_not_mem hrow hnew
          obtain ⟨huser, hmodel⟩ := howned d hd (beq_iff_eq.mp hid)
          exact ⟨congrArg some huser, List.forall_mem_singleton.mpr hmodel⟩
      | _ => exact absurd hrow hnew
  | job v j hparent hfresh hreferences =>
      have hmodel := hreferences (.model v.modelId) List.mem_cons_self
      cases row with
      | version v' =>
          cases eq_of_mem_append_of_not_mem hrow hnew
          exact ⟨hkeeps _ _ hmodel, fun r hr => hkeeps _ _ (hreferences r hr)⟩
      | job j' =>
          cases eq_of_mem_append_of_not_mem hrow hnew
          exact within_of_parent rfl rfl (hparent ▸ owner?_of_new_version hfresh hmodel)
      | _ => exact absurd hrow hnew
  | settled id howned change hchange =>
      cases row with
      | job j' =>
          obtain ⟨j, hj, hid, rfl⟩ := exists_of_mem_updateWhere_of_not_mem hrow hnew
          refine within_of_parent rfl rfl ?_
          rw [hchange]
          exact howned j hj (beq_iff_eq.mp hid)
      | _ => exact absurd hrow hnew
  | bind bindings _ hadded =>
      cases row with
      | binding b =>
          obtain ⟨huser, hversion⟩ := hadded b hrow hnew
          exact ⟨congrArg some huser, List.forall_mem_singleton.mpr hversion⟩
      | _ => exact absurd hrow hnew
  | prompt p huser hreferences =>
      cases row with
      | prompt p' =>
          cases eq_of_mem_append_of_not_mem hrow hnew
          exact ⟨huser, fun r hr => hkeeps _ _ (hreferences r hr)⟩
      | _ => exact absurd hrow hnew
  | snapshot v hparent =>
      cases row with
      | snapshot v' =>
          cases eq_of_mem_append_of_not_mem hrow hnew
          exact within_of_parent rfl rfl hparent
      | _ => exact absurd hrow hnew
  | blueprint b v huser hparent hfresh =>
      cases row with
      | blueprint b' =>
          cases eq_of_mem_append_of_not_mem hrow hnew
          exact ⟨congrArg some huser, List.forall_mem_nil _⟩
      | blueprintVersion v' =>
          cases eq_of_mem_append_of_not_mem hrow hnew
          exact within_of_parent rfl rfl (hparent ▸ owner?_of_new_blueprint hfresh huser)
      | _ => exact absurd hrow hnew
  | change loaded changes now more howned hparent hmore =>
      cases row with
      | blueprint b' =>
          obtain ⟨b, hb, hid, rfl⟩ := exists_of_mem_updateWhere_of_not_mem hrow hnew
          refine ⟨?_, List.forall_mem_nil _⟩
          exact congrArg some ((UserBlueprint.rewritten_userId ..).trans (howned b hb (beq_iff_eq.mp hid)))
      | blueprintVersion v =>
          have hv := hmore v ((List.mem_append.mp hrow).resolve_left hnew)
          refine within_of_parent rfl rfl ?_
          rw [hv]
          exact hkeeps _ _ hparent
      | _ => exact absurd hrow hnew

end Store

end PromptStudio
