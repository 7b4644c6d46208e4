import PromptStudio.History.Prompt
import PromptStudio.Proofs.Json.Stored
import PromptStudio.Proofs.Store.Numbering
import PromptStudio.Proofs.Training.Artifact

/-!
# Everything that goes on

Beside the traffic with the worker, users compile prompts, save snapshots of them, and make and change blueprints. To
save or to change takes three steps: the row is found, the next number is counted, and the insertion comes later. Any
number of such writings may be under way, so that a run of happenings is an interleaving of all operations of all users.

What a step on prompts and blueprints can do is said once, by `Writes`: it adds rows or rewrites the head of a blueprint,
and it leaves the tables of the training alone. An invariant of the traffic therefore stays through these steps.
-/

namespace PromptStudio

/-- A save or a change that is under way. -/
inductive Writing where
  | snapshot (record : PromptRecord)
  | numbered (record : PromptRecord) (number : Int)
  | change (loaded : BlueprintAnswer) (changes : BlueprintChanges)
  | counted (loaded : BlueprintAnswer) (changes : BlueprintChanges) (next : Option NextVersion)
  | ended

namespace Writing

def count (s : Store) (c : Context) : Writing → Writing
  | .snapshot record => .numbered record (s.nextSnapshotNumber record.id)
  | .change loaded changes =>
    match s.nextVersion? c.catalog loaded.version changes with
    | .ok next => .counted loaded changes next
    | .error _ => .ended
  | w => w

def insert (k : Studio) (c : Context) : Writing → Studio × Writing
  | .numbered record number => ((k.finishSnapshot c record number).2, .ended)
  | .counted loaded changes next => ((k.finishBlueprintUpdate c loaded changes next).2, .ended)
  | w => (k, w)

end Writing

/-- A studio and everything that is under way on it. -/
structure Activity where
  traffic : Traffic
  writings : List Writing

/-- Something that happens next. -/
inductive Happening where
  | training (e : Event)
  | compile (c : Context) (userId : Text) (r : PromptRequest) (choice : CompileChoice)
  | createBlueprint (c : Context) (userId : Text) (draft : BlueprintDraft)
  | save (promptId userId : Text)
  | change (id userId : Text) (changes : BlueprintChanges)
  | count (place : Nat) (c : Context)
  | insert (place : Nat) (c : Context)

namespace Activity

/-- Nothing is stored and nothing is under way. -/
def start : Activity :=
  ⟨.start, []⟩

def studio (σ : Activity) : Studio :=
  σ.traffic.studio

def withStudio (σ : Activity) (k : Studio) : Activity :=
  { σ with traffic := { σ.traffic with studio := k } }

/-- Puts one more writing under way. -/
def begin (σ : Activity) (w : Writing) : Activity :=
  { σ with writings := σ.writings ++ [w] }

def step (σ : Activity) : Happening → Activity
  | .training e => { σ with traffic := σ.traffic.step e }
  | .compile c userId r choice => σ.withStudio (σ.studio.compilePrompt c userId r choice).2
  | .createBlueprint c userId draft => σ.withStudio (σ.studio.createBlueprint c userId draft).2
  | .save promptId userId =>
    match σ.studio.store.prompt promptId (some userId) with
    | .ok record => σ.begin (.snapshot record)
    | .error _ => σ
  | .change id userId changes =>
    match σ.studio.store.blueprintWithLatest id userId with
    | .ok loaded => σ.begin (.change loaded changes)
    | .error _ => σ
  | .count place c =>
    match σ.writings[place]? with
    | some w => { σ with writings := σ.writings.set place (w.count σ.studio.store c) }
    | none => σ
  | .insert place c =>
    match σ.writings[place]? with
    | some w =>
      { σ.withStudio (w.insert σ.studio c).1 with writings := σ.writings.set place (w.insert σ.studio c).2 }
    | none => σ

def run (σ : Activity) (happenings : List Happening) : Activity :=
  happenings.foldl step σ

theorem run_induction {P : Activity → Prop} (hstep : ∀ σ e, P σ → P (σ.step e)) {σ : Activity} (h : P σ)
    (happenings : List Happening) : P (σ.run happenings) := by
  induction happenings generalizing σ with
  | nil => exact h
  | cons e rest ih => exact ih (hstep σ e h)

theorem run_append (σ : Activity) (happenings more : List Happening) :
    σ.run (happenings ++ more) = (σ.run happenings).run more :=
  List.foldl_append

theorem traffic_run_training (σ : Activity) (events : List Event) :
    (σ.run (events.map .training)).traffic = σ.traffic.run events := by
  induction events generalizing σ with
  | nil => rfl
  | cons e rest ih => exact ih (σ.step (.training e))

end Activity

/-! ### How the operations on prompts and blueprints end -/

namespace PromptRecord

/-- A snapshot of a prompt, under the number of its id and its own. -/
def snapshot (record : PromptRecord) (idNumber : Nat) (number : Int) (metadata : Json) (now : Instant) : PromptVersion :=
  { id := rowId "pv" idNumber, promptId := record.id, number := .int number, text := record.text,
    metadata := .ofJson metadata, createdAt := .instant now }

end PromptRecord

namespace UserBlueprint

/-- A head as the changes of a loaded one leave it. -/
def rewritten (loaded : UserBlueprint) (changes : BlueprintChanges) (now : Instant) (b : UserBlueprint) :
    UserBlueprint :=
  if (loaded.news changes).touchesHead then { b.changed (loaded.news changes) with updatedAt := .instant now } else b

@[simp] theorem rewritten_id (loaded : UserBlueprint) (changes : BlueprintChanges) (now : Instant) (b : UserBlueprint) :
    (loaded.rewritten changes now b).id = b.id := by
  rw [rewritten]
  split <;> rfl

@[simp] theorem rewritten_userId (loaded : UserBlueprint) (changes : BlueprintChanges) (now : Instant)
    (b : UserBlueprint) : (loaded.rewritten changes now b).userId = b.userId := by
  rw [rewritten]
  split <;> rfl

theorem headTexts_news_subset (loaded : UserBlueprint) (changes : BlueprintChanges) :
    (loaded.news changes).headTexts ⊆ changes.headTexts := by
  intro t ht
  simp only [BlueprintChanges.headTexts, news, List.mem_append, Option.mem_toList, Option.filter_eq_some_iff] at ht ⊢
  exact ht.imp (Or.imp And.left And.left) And.left

theorem bindAll_headTexts_news (loaded : UserBlueprint) {changes : BlueprintChanges}
    (h : Text.bindAll changes.headTexts = .ok ()) : Text.bindAll (loaded.news changes).headTexts = .ok () := by
  rw [Text.bindAll_eq_ok_iff] at h ⊢
  intro t ht
  exact h t (loaded.headTexts_news_subset changes ht)

end UserBlueprint

/-- The version that was counted, under the number of its id. -/
def NextVersion.row (next : NextVersion) (idNumber : Nat) (blueprintId : Text) (now : Instant) : BlueprintVersion :=
  { id := rowId "bpv" idNumber, blueprintId, number := .int next.number, blocks := .ok (.ofTexts next.blocks),
    constraints := .ok (.array next.constraints), createdAt := .instant now }

namespace Store

variable {s s' : Store}

theorem insertSnapshot_of_taken {v : PromptVersion} {n : Int} (hnumber : v.number = .int n)
    (h : Taken PromptVersion.promptId PromptVersion.number s.promptVersions v.promptId n) :
    s.insertSnapshot v = .error .constraintViolated := by
  rw [insertSnapshot, if_pos ((any_iff_taken hnumber).mpr h)]

theorem insertSnapshot_of_free {v : PromptVersion} {n : Int} (hnumber : v.number = .int n)
    (h : ¬ Taken PromptVersion.promptId PromptVersion.number s.promptVersions v.promptId n) :
    s.insertSnapshot v = .ok { s with promptVersions := s.promptVersions ++ [v] } := by
  rw [insertSnapshot, if_neg (mt (any_iff_taken hnumber).mp h)]

theorem insertBlueprintVersion_of_taken {v : BlueprintVersion} {n : Int} (hnumber : v.number = .int n)
    (h : Taken BlueprintVersion.blueprintId BlueprintVersion.number s.blueprintVersions v.blueprintId n) :
    s.insertBlueprintVersion v = .error .constraintViolated := by
  rw [insertBlueprintVersion, if_pos ((any_iff_taken hnumber).mpr h)]

theorem insertBlueprintVersion_of_free {v : BlueprintVersion} {n : Int} (hnumber : v.number = .int n)
    (h : ¬ Taken BlueprintVersion.blueprintId BlueprintVersion.number s.blueprintVersions v.blueprintId n) :
    s.insertBlueprintVersion v = .ok { s with blueprintVersions := s.blueprintVersions ++ [v] } := by
  rw [insertBlueprintVersion, if_neg (mt (any_iff_taken hnumber).mp h)]

theorem updateBlueprint_self (id : Text) : s.updateBlueprint id (fun b => b) = s := by
  rw [updateBlueprint, updateWhere]
  simp only [ite_self, List.map_id_fun']
  rfl

theorem writeHead_eq_ok {loaded : UserBlueprint} {changes : BlueprintChanges} {now : Instant}
    (h : s.writeHead loaded changes now = .ok s') :
    s' = s.updateBlueprint loaded.id (loaded.rewritten changes now) := by
  rw [writeHead] at h
  dsimp only at h
  split at h
  · rename_i htouches
    obtain ⟨_, _, hstore⟩ := bind_eq_ok.mp h
    have hrewritten : loaded.rewritten changes now
        = fun b => { b.changed (loaded.news changes) with updatedAt := .instant now } := by
      funext b
      rw [UserBlueprint.rewritten, if_pos htouches]
    rw [hrewritten, ← pure_eq_ok.mp hstore]
  · rename_i hsame
    have hrewritten : loaded.rewritten changes now = fun b => b := by
      funext b
      rw [UserBlueprint.rewritten, if_neg hsame]
    rw [hrewritten, updateBlueprint_self, ← pure_eq_ok.mp h]

theorem exists_writeHead {changes : BlueprintChanges} (hbytes : Text.bindAll changes.headTexts = .ok ())
    (loaded : UserBlueprint) (now : Instant) :
    s.writeHead loaded changes now = .ok (s.updateBlueprint loaded.id (loaded.rewritten changes now)) := by
  have hwritten : ∃ s', s.writeHead loaded changes now = .ok s' := by
    rw [writeHead]
    dsimp only
    split
    · exact ⟨_, bind_eq_ok.mpr ⟨(), loaded.bindAll_headTexts_news hbytes, rfl⟩⟩
    · exact ⟨_, rfl⟩
  obtain ⟨s', hs'⟩ := hwritten
  rw [hs', writeHead_eq_ok hs']

end Store

namespace Studio

variable (k : Studio) (c : Context)

theorem finishSnapshot_of_taken {record : PromptRecord} {metadata : Json}
    (hmetadata : record.snapshotMetadata = .ok metadata) {n : Int}
    (htaken : Store.Taken PromptVersion.promptId PromptVersion.number k.store.promptVersions record.id n) :
    k.finishSnapshot c record n
      = (.error (.fault .constraintViolated),
          { k with issued := { k.issued with promptVersions := k.issued.promptVersions + 1 } }) := by
  have hlost := Store.insertSnapshot_of_taken
    (v := record.snapshot (k.issued.promptVersions + 1) n metadata c.now) rfl htaken
  rw [PromptRecord.snapshot] at hlost
  simp only [finishSnapshot, hmetadata, hlost]
  rfl

theorem finishSnapshot_of_free {record : PromptRecord} {metadata : Json}
    (hmetadata : record.snapshotMetadata = .ok metadata) {n : Int}
    (hfree : ¬ Store.Taken PromptVersion.promptId PromptVersion.number k.store.promptVersions record.id n) :
    k.finishSnapshot c record n
      = (.ok (record.snapshot (k.issued.promptVersions + 1) n metadata c.now),
          { k with
            store := { k.store with
              promptVersions := k.store.promptVersions
                ++ [record.snapshot (k.issued.promptVersions + 1) n metadata c.now] }
            issued := { k.issued with promptVersions := k.issued.promptVersions + 1 } }) := by
  have hinserted := Store.insertSnapshot_of_free
    (v := record.snapshot (k.issued.promptVersions + 1) n metadata c.now) rfl hfree
  rw [PromptRecord.snapshot] at hinserted
  simp only [finishSnapshot, hmetadata, hinserted]
  rfl

section Update

variable {loaded : BlueprintAnswer} {changes : BlueprintChanges} {store : Store}

theorem finishBlueprintUpdate_none (hhead : k.store.writeHead loaded.blueprint changes c.now = .ok store) :
    ∃ head, k.finishBlueprintUpdate c loaded changes none = (.ok ⟨head, loaded.version⟩, k.withStore store) := by
  simp only [finishBlueprintUpdate, hhead]
  exact ⟨_, rfl⟩

/-- A change whose number was taken meanwhile is lost, and its head with it. -/
theorem finishBlueprintUpdate_of_taken (hhead : k.store.writeHead loaded.blueprint changes c.now = .ok store)
    {next : NextVersion}
    (htaken : Store.Taken BlueprintVersion.blueprintId BlueprintVersion.number k.store.blueprintVersions
      loaded.blueprint.id next.number) :
    k.finishBlueprintUpdate c loaded changes (some next)
      = (.error (.fault .constraintViolated),
          { k with issued := { k.issued with blueprintVersions := k.issued.blueprintVersions + 1 } }) := by
  obtain rfl := Store.writeHead_eq_ok hhead
  have hlost := Store.insertBlueprintVersion_of_taken
    (s := k.store.updateBlueprint loaded.blueprint.id (loaded.blueprint.rewritten changes c.now))
    (v := next.row (k.issued.blueprintVersions + 1) loaded.blueprint.id c.now) rfl htaken
  rw [NextVersion.row] at hlost
  simp only [finishBlueprintUpdate, hhead, hlost]
  rfl

theorem finishBlueprintUpdate_of_free (hhead : k.store.writeHead loaded.blueprint changes c.now = .ok store)
    {next : NextVersion}
    (hfree : ¬ Store.Taken BlueprintVersion.blueprintId BlueprintVersion.number k.store.blueprintVersions
      loaded.blueprint.id next.number) :
    ∃ head, k.finishBlueprintUpdate c loaded changes (some next)
      = (.ok ⟨head, next.row (k.issued.blueprintVersions + 1) loaded.blueprint.id c.now⟩,
          { k with
            store := { store with
              blueprintVersions := k.store.blueprintVersions
                ++ [next.row (k.issued.blueprintVersions + 1) loaded.blueprint.id c.now] }
            issued := { k.issued with blueprintVersions := k.issued.blueprintVersions + 1 } }) := by
  obtain rfl := Store.writeHead_eq_ok hhead
  have hinserted := Store.insertBlueprintVersion_of_free
    (s := k.store.updateBlueprint loaded.blueprint.id (loaded.blueprint.rewritten changes c.now))
    (v := next.row (k.issued.blueprintVersions + 1) loaded.blueprint.id c.now) rfl hfree
  rw [NextVersion.row] at hinserted
  simp only [finishBlueprintUpdate, hhead, hinserted]
  exact ⟨_, rfl⟩

end Update

end Studio

/-! ### What a step can do to prompts and blueprints -/

/-- Numbers are only given out, and none for the tables of the training. -/
structure Issued.Spends (a b : Issued) : Prop where
  models : b.models = a.models
  datasets : b.datasets = a.datasets
  versions : b.versions = a.versions
  jobs : b.jobs = a.jobs
  prompts : a.prompts ≤ b.prompts
  promptVersions : a.promptVersions ≤ b.promptVersions
  blueprints : a.blueprints ≤ b.blueprints
  blueprintVersions : a.blueprintVersions ≤ b.blueprintVersions

theorem Issued.Spends.refl (a : Issued) : a.Spends a :=
  ⟨rfl, rfl, rfl, rfl, Nat.le_refl _, Nat.le_refl _, Nat.le_refl _, Nat.le_refl _⟩

/-- A prompt as it is kept when it was compiled: it has an owner, every column of it reads, its time is an instant, and a
snapshot can be made of it. -/
structure PromptRecord.Whole (p : PromptRecord) : Prop where
  owned : ∃ userId, p.userId = some userId
  loads : p.load = .ok p
  timed : ∃ now, p.createdAt = .instant now
  metadata : ∃ metadata, p.snapshotMetadata = .ok metadata

abbrev UserBlueprint.Loads (b : UserBlueprint) : Prop :=
  b.load = .ok b

/-- A version whose blocks and constraints are texts. -/
structure BlueprintVersion.Whole (v : BlueprintVersion) : Prop where
  blocks : ∃ blocks, v.blocks = .ok (.ofTexts blocks)
  constraints : ∃ constraints, v.constraints = .ok (.ofTexts constraints)
  loads : v.load = .ok v

/-- What one step can do to prompts, blueprints and their versions, while some writings are under way. -/
inductive Studio.Writes (k : Studio) (writings : List Writing) (k' : Studio) : Prop
  | nothing (hstore : k'.store = k.store) (hissued : k.issued.Spends k'.issued)
  | prompt (p : PromptRecord) (hid : p.id = rowId "prompt" (k.issued.prompts + 1)) (hwhole : p.Whole)
      (hstore : k'.store = { k.store with prompts := k.store.prompts ++ [p] })
      (hissued : k'.issued = { k.issued with prompts := k.issued.prompts + 1 })
  | snapshot {place : Nat} {record : PromptRecord} {n : Int} (hplace : writings[place]? = some (.numbered record n))
      (idNumber : Nat) {metadata : Json} (hmetadata : record.snapshotMetadata = .ok metadata) (now : Instant)
      (hfree : ¬ Store.Taken PromptVersion.promptId PromptVersion.number k.store.promptVersions record.id n)
      (hstore : k'.store = { k.store with
        promptVersions := k.store.promptVersions ++ [record.snapshot idNumber n metadata now] })
      (hissued : k.issued.Spends k'.issued)
  | blueprint (b : UserBlueprint) (v : BlueprintVersion) (hid : b.id = rowId "bp" (k.issued.blueprints + 1))
      (hparent : v.blueprintId = b.id) (hnumber : v.number = .int 1) (hloads : b.Loads) (hwhole : v.Whole)
      (hstore : k'.store = { k.store with
        blueprints := k.store.blueprints ++ [b], blueprintVersions := k.store.blueprintVersions ++ [v] })
      (hissued : k'.issued = { k.issued with
        blueprints := k.issued.blueprints + 1, blueprintVersions := k.issued.blueprintVersions + 1 })
  | head {place : Nat} {loaded : BlueprintAnswer} {changes : BlueprintChanges}
      (hplace : writings[place]? = some (.counted loaded changes none)) (now : Instant)
      (hstore : k'.store = k.store.updateBlueprint loaded.blueprint.id (loaded.blueprint.rewritten changes now))
      (hissued : k.issued.Spends k'.issued)
  | version {place : Nat} {loaded : BlueprintAnswer} {changes : BlueprintChanges} {next : NextVersion}
      (hplace : writings[place]? = some (.counted loaded changes (some next))) (idNumber : Nat) (now : Instant)
      (hfree : ¬ Store.Taken BlueprintVersion.blueprintId BlueprintVersion.number k.store.blueprintVersions
        loaded.blueprint.id next.number)
      (hstore : k'.store =
        { k.store.updateBlueprint loaded.blueprint.id (loaded.blueprint.rewritten changes now) with
          blueprintVersions := k.store.blueprintVersions ++ [next.row idNumber loaded.blueprint.id now] })
      (hissued : k.issued.Spends k'.issued)

namespace Studio

variable (k : Studio) (c : Context) (writings : List Writing)

theorem whole_promptRecord (number : Nat) (userId : Text) (r : PromptRequest) (choice : CompileChoice)
    (adapter : Option Adapter) (prompt : CompiledPrompt) :
    (promptRecord number c userId r choice adapter prompt).Whole where
  owned := ⟨userId, rfl⟩
  loads := by
    obtain ⟨filters, hfilters⟩ := JsonColumn.exists_ofJson (if r.filters.isEmpty then .null else .ofEntries r.filters)
    obtain ⟨pack, hpack⟩ := JsonColumn.exists_ofJson prompt.packJson
    rw [promptRecord, hfilters, hpack]
    rfl
  timed := ⟨c.now, rfl⟩
  metadata := ⟨_, rfl⟩

theorem writes_compilePrompt (userId : Text) (r : PromptRequest) (choice : CompileChoice) :
    k.Writes writings (k.compilePrompt c userId r choice).2 := by
  rw [compilePrompt]
  split
  · exact .nothing rfl (.refl _)
  · dsimp only
    split
    · exact .nothing rfl (.refl _)
    · have hspent : k.issued.Spends { k.issued with prompts := k.issued.prompts + 1 } :=
        { Issued.Spends.refl k.issued with prompts := Nat.le_succ _ }
      split
      · exact .nothing rfl hspent
      · rename_i store hinsert
        obtain ⟨_, _, hstore⟩ := bind_eq_ok.mp hinsert
        rw [pure_eq_ok] at hstore
        exact .prompt _ rfl (whole_promptRecord ..) hstore.symm rfl

theorem writes_createBlueprint (userId : Text) (draft : BlueprintDraft) :
    k.Writes writings (k.createBlueprint c userId draft).2 := by
  rw [createBlueprint]
  split
  · exact .nothing rfl (.refl _)
  · dsimp only
    split
    · exact .nothing rfl { Issued.Spends.refl k.issued with blueprints := Nat.le_succ _ }
    · rename_i store hinsert
      obtain ⟨_, _, hstore⟩ := bind_eq_ok.mp hinsert
      rw [pure_eq_ok] at hstore
      subst hstore
      exact .blueprint _ _ rfl rfl rfl rfl ⟨⟨_, rfl⟩, ⟨_, rfl⟩, rfl⟩ rfl rfl

/-- To insert what was counted adds a row where the number is free, and may rewrite a head. -/
theorem writes_insert {place : Nat} {w : Writing} (hplace : writings[place]? = some w) :
    k.Writes writings (w.insert k c).1 := by
  cases w with
  | numbered record n =>
      change k.Writes writings (k.finishSnapshot c record n).2
      cases hmetadata : record.snapshotMetadata with
      | error fault =>
          rw [finishSnapshot, hmetadata]
          exact .nothing rfl (.refl _)
      | ok metadata =>
          have hspent : k.issued.Spends { k.issued with promptVersions := k.issued.promptVersions + 1 } :=
            { Issued.Spends.refl k.issued with promptVersions := Nat.le_succ _ }
          by_cases htaken : Store.Taken PromptVersion.promptId PromptVersion.number k.store.promptVersions record.id n
          · rw [k.finishSnapshot_of_taken c hmetadata htaken]
            exact .nothing rfl hspent
          · rw [k.finishSnapshot_of_free c hmetadata htaken]
            exact .snapshot hplace _ hmetadata c.now htaken rfl hspent
  | counted loaded changes next =>
      change k.Writes writings (k.finishBlueprintUpdate c loaded changes next).2
      cases hhead : k.store.writeHead loaded.blueprint changes c.now with
      | error fault =>
          rw [finishBlueprintUpdate, hhead]
          exact .nothing rfl (.refl _)
      | ok store =>
          have hwritten := Store.writeHead_eq_ok hhead
          cases next with
          | none =>
              obtain ⟨head, hends⟩ := k.finishBlueprintUpdate_none c hhead
              rw [hends]
              exact .head hplace c.now hwritten (.refl _)
          | some next =>
              have hspent : k.issued.Spends { k.issued with blueprintVersions := k.issued.blueprintVersions + 1 } :=
                { Issued.Spends.refl k.issued with blueprintVersions := Nat.le_succ _ }
              by_cases htaken : Store.Taken BlueprintVersion.blueprintId BlueprintVersion.number
                k.store.blueprintVersions loaded.blueprint.id next.number
              · rw [k.finishBlueprintUpdate_of_taken c hhead htaken]
                exact .nothing rfl hspent
              · obtain ⟨head, hends⟩ := k.finishBlueprintUpdate_of_free c hhead htaken
                rw [hends, hwritten]
                exact .version hplace _ c.now htaken rfl hspent
  | _ => exact .nothing rfl (.refl _)

end Studio

namespace Activity

variable (σ : Activity)

/-- A happening is one of the training, or it writes to prompts and blueprints and leaves what is under way there. -/
theorem step_cases (e : Happening) :
    (∃ event, e = .training event) ∨
      σ.studio.Writes σ.writings (σ.step e).studio ∧
        (σ.step e).traffic = { σ.traffic with studio := (σ.step e).studio } := by
  have hstill : σ.studio.Writes σ.writings σ.studio := .nothing rfl (.refl _)
  cases e with
  | training event => exact Or.inl ⟨event, rfl⟩
  | compile c userId r choice => exact Or.inr ⟨σ.studio.writes_compilePrompt c σ.writings userId r choice, rfl⟩
  | createBlueprint c userId draft => exact Or.inr ⟨σ.studio.writes_createBlueprint c σ.writings userId draft, rfl⟩
  | save promptId userId =>
      rw [step]
      split <;> exact Or.inr ⟨hstill, rfl⟩
  | change id userId changes =>
      rw [step]
      split <;> exact Or.inr ⟨hstill, rfl⟩
  | count place c =>
      rw [step]
      split <;> exact Or.inr ⟨hstill, rfl⟩
  | insert place c =>
      rw [step]
      split
      · rename_i w hplace
        exact Or.inr ⟨σ.studio.writes_insert c σ.writings hplace, rfl⟩
      · exact Or.inr ⟨hstill, rfl⟩

end Activity

/-! ### What stays where it was -/

namespace Studio

structure SameTraining (k k' : Studio) : Prop where
  models : k'.store.models = k.store.models
  datasets : k'.store.datasets = k.store.datasets
  versions : k'.store.versions = k.store.versions
  jobs : k'.store.jobs = k.store.jobs
  bindings : k'.store.bindings = k.store.bindings
  modelCount : k'.issued.models = k.issued.models
  datasetCount : k'.issued.datasets = k.issued.datasets
  versionCount : k'.issued.versions = k.issued.versions
  jobCount : k'.issued.jobs = k.issued.jobs

/-- Prompts, blueprints and their versions, and the numbers given out for them, are the same. -/
structure SameHistory (k k' : Studio) : Prop where
  prompts : k'.store.prompts = k.store.prompts
  promptVersions : k'.store.promptVersions = k.store.promptVersions
  blueprints : k'.store.blueprints = k.store.blueprints
  blueprintVersions : k'.store.blueprintVersions = k.store.blueprintVersions
  promptCount : k'.issued.prompts = k.issued.prompts
  blueprintCount : k'.issued.blueprints = k.issued.blueprints

variable {k k' : Studio}

theorem SameTraining.of_history {prompts : List PromptRecord} {promptVersions : List PromptVersion}
    {blueprints : List UserBlueprint} {blueprintVersions : List BlueprintVersion}
    (hstore : k'.store = { k.store with prompts, promptVersions, blueprints, blueprintVersions })
    (hissued : k.issued.Spends k'.issued) : k.SameTraining k' where
  models := by rw [hstore]
  datasets := by rw [hstore]
  versions := by rw [hstore]
  jobs := by rw [hstore]
  bindings := by rw [hstore]
  modelCount := hissued.models
  datasetCount := hissued.datasets
  versionCount := hissued.versions
  jobCount := hissued.jobs

theorem Writes.sameTraining {writings : List Writing} (h : k.Writes writings k') : k.SameTraining k' := by
  cases h with
  | nothing hstore hissued => exact .of_history hstore hissued
  | prompt p _ _ hstore hissued =>
      refine .of_history hstore ?_
      rw [hissued]
      exact { Issued.Spends.refl k.issued with prompts := Nat.le_succ _ }
  | snapshot _ _ _ _ _ hstore hissued => exact .of_history hstore hissued
  | blueprint b v _ _ _ _ _ hstore hissued =>
      refine .of_history hstore ?_
      rw [hissued]
      exact { Issued.Spends.refl k.issued with blueprints := Nat.le_succ _, blueprintVersions := Nat.le_succ _ }
  | head _ _ hstore hissued => exact .of_history hstore hissued
  | version _ _ _ _ hstore hissued => exact .of_history hstore hissued

theorem SameTraining.sameJobs (h : k.SameTraining k') : k.SameJobs k' :=
  ⟨h.versions, h.jobs, h.versionCount, h.jobCount⟩

theorem SameTraining.prepares (h : k.SameTraining k') : k.Prepares k' := by
  refine .models ?_ h.datasets (Nat.le_of_eq h.datasetCount.symm)
  intro id m hmodel
  rw [Store.model?, h.models]
  exact hmodel

theorem SameHistory.of_training {models : List LoraModel} {datasets : List Dataset} {versions : List Version}
    {jobs : List Job} {bindings : List Binding}
    (hstore : k'.store = { k.store with models, datasets, versions, jobs, bindings })
    (hprompts : k'.issued.prompts = k.issued.prompts) (hblueprints : k'.issued.blueprints = k.issued.blueprints) :
    k.SameHistory k' where
  prompts := by rw [hstore]
  promptVersions := by rw [hstore]
  blueprints := by rw [hstore]
  blueprintVersions := by rw [hstore]
  promptCount := hprompts
  blueprintCount := hblueprints

/-- Calls that ask nobody leave prompts and blueprints alone. -/
theorem Performs.sameHistory {call : PlainCall} (h : k.Performs k' call) : k.SameHistory k' := by
  obtain ⟨⟨_, _, _, hstore⟩, _, _, hissued⟩ := h.exists_store_issued
  exact .of_training hstore (by rw [hissued]) (by rw [hissued])

end Studio

namespace Traffic

variable {σ : Traffic} {k : Studio} {reports : List Reporting}

theorem Moves.sameHistory (hmove : σ.Moves k reports) : σ.studio.SameHistory k := by
  cases hmove with
  | still hstore hissued _ =>
      exact .of_training hstore (congrArg Issued.prompts hissued) (congrArg Issued.blueprints hissued)
  | plain c call => exact (σ.studio.performs_plain c call).sameHistory
  | insert _ c => exact .of_training rfl rfl rfl
  | write u jobId now => exact .of_training (u.apply_eq_updateJob jobId now _) rfl rfl
  | @report _ w job _ _ times =>
      obtain ⟨versions, jobs, hstore⟩ := σ.studio.store.exists_afterReport job w times
      exact .of_training hstore rfl rfl

structure Kept (σ : Traffic) : Prop where
  sound : σ.Sound
  known : σ.StatusesKnown
  tracked : σ.intake.Tracked

theorem kept_start : start.Kept :=
  ⟨sound_start, statusesKnown_start, .start⟩

theorem Kept.step (h : σ.Kept) (e : Event) : (σ.step e).Kept :=
  ⟨h.sound.step e, h.known.step e, tracked_moves h.tracked h.sound.jobs h.known (σ.moves_step e)⟩

theorem Kept.of_sameTraining (h : σ.Kept) (hsame : σ.studio.SameTraining k) : Kept { σ with studio := k } where
  sound := by
    have hdataset : k.store.dataset? = σ.studio.store.dataset? := by
      funext id
      rw [Store.dataset?, Store.dataset?, hsame.datasets]
    refine ⟨h.sound.datasets.prepares hsame.prepares, h.sound.jobs.of_sameJobs hsame.sameJobs, ?_, ?_⟩
    · intro place a hplace
      obtain ⟨hstored, hmodel, hstatus, hhash⟩ := h.sound.admitted place a hplace
      exact ⟨hdataset ▸ hstored, hmodel, hstatus, hhash⟩
    · intro id v hfound
      change k.store.version? id = some v at hfound
      rw [Store.version?, hsame.versions] at hfound
      obtain ⟨datasetId, d, hdatasetId, hd, hrest⟩ := h.sound.trained id v hfound
      exact ⟨datasetId, d, hdatasetId, hdataset ▸ hd, hrest⟩
  known := by
    intro id j hfound
    change k.store.job? id = some j at hfound
    rw [Store.job?, hsame.jobs] at hfound
    exact h.known id j hfound
  tracked := by
    have hprecedes : σ.studio.store.Precedes k.store := by
      refine ⟨?_, ?_⟩
      · intro id j hfound
        exact ⟨j, by rw [Store.job?, hsame.jobs]; exact hfound, .refl j⟩
      · intro id v hfound
        exact ⟨v, by rw [Store.version?, hsame.versions]; exact hfound, .refl v⟩
    exact h.tracked.of_quiet hprecedes (fun _ _ _ hplace => Or.inl hplace) (fun _ _ _ _ hplace _ => hplace)
      (fun _ _ _ _ hplace => hplace) (version?_of_not_report hsame.versions)

end Traffic

namespace Activity

variable {σ : Activity}

theorem kept_step (h : σ.traffic.Kept) (e : Happening) : (σ.step e).traffic.Kept := by
  rcases σ.step_cases e with ⟨event, rfl⟩ | ⟨hwrites, htraffic⟩
  · exact h.step event
  · rw [htraffic]
    exact h.of_sameTraining hwrites.sameTraining

theorem kept_run (happenings : List Happening) : (start.run happenings).traffic.Kept :=
  run_induction (P := fun σ => σ.traffic.Kept) (fun _ e h => kept_step h e) Traffic.kept_start happenings

end Activity

end PromptStudio
