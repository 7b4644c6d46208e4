import PromptStudio.Proofs.Api.Errors
import PromptStudio.Proofs.Ownership.Jobs

/-!
# Requests and the rows of their user

A request names one user, and every endpoint but the one of the worker runs one operation of that user, or none. Such an
operation touches rows of the user only and answers from them, so the whole request does. That an answer comes from the
rows of the user is said by taking all other rows away: the response stays as it is, to the byte.
-/

namespace PromptStudio

/-! ### Successful responses -/

theorem ErrorCode.le_status (code : ErrorCode) : 300 ≤ code.status := by
  cases code <;> decide

theorem Rejection.le_answer (r : Rejection) : 300 ≤ r.answer.1 := by
  cases r with
  | refused cause => exact ErrorCode.le_status _
  | _ => exact Nat.le_of_ble_eq_true rfl

theorem Response.le_status_ofRejection (id : Text) (r : Rejection) : 300 ≤ (ofRejection id r).status := by
  have hsaid := congrArg Prod.fst (said_ofRejection id r)
  change (ofRejection id r).status = _ at hsaid
  rw [hsaid]
  split
  · exact r.le_answer
  · exact Nat.le_of_ble_eq_true rfl

theorem Checked.pair_eq_valid {α β : Type} {a : Checked α} {b : Checked β} {x : α} {y : β}
    (h : Prod.mk <$> a <*> b = .valid (x, y)) : a = .valid x ∧ b = .valid y := by
  cases a with
  | invalid issues => cases b <;> cases h
  | valid _ =>
      cases b with
      | invalid issues => cases h
      | valid _ =>
          cases h
          exact ⟨rfl, rfl⟩

/-- The user that a request names, or the one who stands for all that name none. -/
def Visit.userId (v : Visit) : Text :=
  (v.request.header? "x-user-id").getD anonymous

theorem Visit.user_eq_valid {v : Visit} {user : Text} (h : v.user = .valid user) : user = v.userId := by
  rw [Visit.user] at h
  rw [userId]
  split at h
  · rename_i hnone
    rw [hnone]
    exact (Checked.valid.inj h).symm
  · rename_i name hname
    rw [hname]
    split at h
    · cases h
    · exact (Checked.valid.inj h).symm

namespace App

/-- The application with what a user owns of its store. -/
def ownedBy (app : App) (userId : Text) : App :=
  app.withStudio (app.studio.ownedBy userId)

/-- What is done for a user touches rows of the user only, and answers from them alone. -/
structure Confines (app : App) (userId : Text) (go : App → Handled) : Prop where
  touches : app.studio.store.Touches userId (go app).app.studio.store
  answers : ∀ value, (go app).result = .ok value → (go (app.ownedBy userId)).result = .ok value

variable {app : App} {v : Visit} {userId : Text}

/-! ### Ways to answer -/

theorem confines_reject (r : Rejection) : app.Confines userId fun app => app.reject r where
  touches := .nothing
  answers := nofun

theorem confines_tell {f : App → Json} (hsame : f (app.ownedBy userId) = f app) :
    app.Confines userId fun app => app.tell (f app) where
  touches := .nothing
  answers := by
    intro value hvalue
    rw [hsame]
    exact hvalue

theorem seen_eq_ok_of {α : Type} {view : α → Except Fault Json} {r r' : Except Failure α}
    (hsame : ∀ a, r = .ok a → r' = .ok a) {value : Json} (h : seen view r = .ok value) : seen view r' = .ok value := by
  cases r with
  | error failure => cases h
  | ok a =>
      rw [hsame a rfl]
      exact h

theorem confines_look {α : Type} {view : α → Json} {find : App → Except Failure α}
    (hsame : ∀ a, find app = .ok a → find (app.ownedBy userId) = .ok a) :
    app.Confines userId fun app => app.look view (find app) where
  touches := .nothing
  answers := fun _ hvalue => seen_eq_ok_of hsame hvalue

theorem confines_finish {α : Type} {view : α → Json} {op : Studio → Result α} {result : App → Result α}
    (h : app.studio.Confined userId op) (hop : result app = op app.studio)
    (hop' : result (app.ownedBy userId) = op (app.studio.ownedBy userId)) :
    app.Confines userId fun app => app.finish view (result app) where
  touches := by
    change app.studio.store.Touches userId (result app).2.store
    rw [hop]
    exact h.touches
  answers := by
    intro value hvalue
    refine seen_eq_ok_of ?_ hvalue
    rw [hop, hop']
    exact h.answers

theorem confines_finishJob {op : Studio → Result JobAnswer} {result : App → Result JobAnswer × List SentRequest}
    (h : app.studio.Confined userId op) (hop : (result app).1 = op app.studio)
    (hop' : (result (app.ownedBy userId)).1 = op (app.studio.ownedBy userId)) :
    app.Confines userId fun app => app.finishJob (result app) where
  touches := by
    change app.studio.store.Touches userId (result app).1.2.store
    rw [hop]
    exact h.touches
  answers := by
    intro value hvalue
    refine seen_eq_ok_of ?_ hvalue
    rw [hop, hop']
    exact h.answers

theorem confines_forUser {go : App → Text → Handled} (hgo : app.Confines v.userId fun app => go app v.userId) :
    app.Confines v.userId fun app => app.forUser v (go app) := by
  cases huser : v.user with
  | valid user =>
      obtain rfl := Visit.user_eq_valid huser
      simp only [forUser, huser]
      exact hgo
  | invalid issues =>
      simp only [forUser, huser]
      exact confines_reject _

theorem confines_forInput {α : Type} {schema : Schema α} {go : App → Text → α → Handled}
    (hgo : ∀ input, app.Confines v.userId fun app => go app v.userId input) :
    app.Confines v.userId fun app => app.forInput v schema (go app) := by
  cases hcontent : v.request.content app.settings.nesting.body with
  | error r =>
      have hcontent' : v.request.content (app.ownedBy v.userId).settings.nesting.body = .error r := hcontent
      refine ⟨?_, ?_⟩ <;> simp only [forInput, hcontent, hcontent']
      · exact (confines_reject r).touches
      · exact (confines_reject r).answers
  | ok content =>
      have hcontent' : v.request.content (app.ownedBy v.userId).settings.nesting.body = .ok content := hcontent
      cases hread : Prod.mk <$> v.user <*> content.read schema with
      | invalid issues =>
          refine ⟨?_, ?_⟩ <;> simp only [forInput, hcontent, hcontent', hread]
          · exact (confines_reject (content.reject issues)).touches
          · exact (confines_reject (content.reject issues)).answers
      | valid found =>
          obtain ⟨user, input⟩ := found
          obtain rfl := Visit.user_eq_valid (Checked.pair_eq_valid hread).1
          refine ⟨?_, ?_⟩ <;> simp only [forInput, hcontent, hcontent', hread]
          · exact (hgo input).touches
          · exact (hgo input).answers

/-! ### Endpoints -/

theorem confines_compilePrompt (h : app.studio.Sound) (userId : Text) (input : PromptInput) :
    app.Confines userId fun app => app.compilePrompt v userId input := by
  cases hblueprint : input.blueprint? with
  | none =>
      simp only [compilePrompt, hblueprint]
      exact confines_reject _
  | some blueprintId =>
      cases hrequest : input.request blueprintId with
      | invalid issues =>
          simp only [compilePrompt, hblueprint, hrequest]
          exact confines_reject _
      | valid request =>
          have hconfined := app.studio.confined_compilePrompt (app.context v) userId h request input.choice
          refine ⟨?_, ?_⟩
          · simp only [compilePrompt, hblueprint, hrequest]
            split <;> exact hconfined.touches
          · intro value hvalue
            simp only [compilePrompt, hblueprint, hrequest] at hvalue ⊢
            split at hvalue
            · rename_i answer hanswer
              have hanswer' : ((app.ownedBy userId).studio.compilePrompt ((app.ownedBy userId).context v) userId
                request input.choice).1 = .ok answer := hconfined.answers answer hanswer
              rw [hanswer']
              exact hvalue
            · cases hvalue
            · cases hvalue

theorem confines_refreshCatalog : app.Confines userId fun app => app.refreshCatalog v where
  touches := by
    rw [refreshCatalog]
    split <;> exact .nothing
  answers := by
    intro value hvalue
    rw [refreshCatalog] at hvalue ⊢
    split at hvalue
    · exact hvalue
    · cases hvalue

/-- Datasets and versions are listed once the model turned out to be the user's. -/
theorem confines_model (h : app.studio.Sound) (userId id : Text) :
    app.Confines userId fun app => app.model userId id := by
  refine confines_look ?_
  intro view hfound
  obtain ⟨model, hmodel, hfound⟩ := bind_eq_ok.mp hfound
  have howner := Store.owner?_of_ownedModel hmodel
  refine bind_eq_ok.mpr ⟨model, Store.ownedModel_ownedBy hmodel, ?_⟩
  have hdatasets : (app.ownedBy userId).studio.store.datasetsOf id = _ := h.datasetsOf_ownedBy howner
  have hversions : (app.ownedBy userId).studio.store.versionsOf id = _ := Store.versionsOf_ownedBy howner
  rw [hdatasets, hversions]
  exact hfound

theorem confines_activeView (h : app.studio.Sound) (userId : Text) :
    app.Confines userId fun app => app.activeView userId :=
  confines_look fun _ hfound => (congrArg liftM (Store.activeVersion?_ownedBy h.bindings userId)).trans hfound

/-- To activate a version is answered with the active version that is found afterwards. -/
theorem result_activate {input : ActivationInput} {b : Binding} {active : ActiveVersion}
    (hdone : (app.studio.activate (app.context v) userId input.versionId
      (input.weight.getD app.settings.defaultLoraWeight)).1 = .ok b)
    (hactive : (app.studio.activate (app.context v) userId input.versionId
      (input.weight.getD app.settings.defaultLoraWeight)).2.store.activeVersion? userId = .ok (some active)) :
    (app.activate v userId input).result = .ok active.view := by
  simp only [activate, hdone, activeView, withStudio, hactive]
  rfl

/-- A version that was made the active one is seen as such. -/
theorem confines_activate (h : app.studio.Sound) (userId : Text) (input : ActivationInput) :
    app.Confines userId fun app => app.activate v userId input where
  touches := by
    have htouches := Studio.touches_activate (app.context v) userId h input.versionId
      (input.weight.getD app.settings.defaultLoraWeight)
    rw [activate]
    dsimp only
    split <;> exact htouches
  answers := by
    intro value hvalue
    have hactivates : app.studio.store.activates userId input.versionId
        (input.weight.getD app.settings.defaultLoraWeight) = true := by
      by_contra hnot
      obtain ⟨failure, hfails⟩ :=
        Studio.activate_of_not_activates h.bindings (app.context v) (Bool.eq_false_iff.mpr hnot)
      rw [activate, hfails] at hvalue
      cases hvalue
    rw [Store.activates, Bool.and_eq_true, Bool.and_eq_true] at hactivates
    obtain ⟨⟨htrained, hbindable⟩, hstorable⟩ := hactivates
    obtain ⟨⟨version, model⟩, htrained⟩ := isOk_iff.mp htrained
    obtain ⟨t, hbindable⟩ := isOk_iff.mp hbindable
    rw [Store.bindable_eq_ok hbindable] at hbindable
    obtain ⟨⟨b, hdone⟩, active, hweight, hactive⟩ :=
      Studio.exists_activeVersion?_of_activates (app.context v) userId h.bindings hbindable hstorable htrained
    obtain ⟨⟨b', hdone'⟩, active', hweight', hactive'⟩ :=
      Studio.exists_activeVersion?_of_activates (k := app.studio.ownedBy userId) (app.context v) userId
        (h.bindings.ownedBy userId) hbindable hstorable (Store.trainedVersion_ownedBy htrained)
    have hresult : ((app.ownedBy userId).activate v userId input).result = _ := result_activate hdone' hactive'
    rw [result_activate hdone hactive, ActiveVersion.view, hweight] at hvalue
    rw [hresult, ← hvalue, ActiveVersion.view, hweight']

theorem confines_handle (h : app.studio.Sound) (hquiet : v.exchange.deliveries = []) {endpoint : Endpoint}
    (hendpoint : endpoint ≠ .webhook) : app.Confines v.userId fun app => app.handle v endpoint := by
  let c := app.context v
  cases endpoint with
  | health => exact confines_tell rfl
  | about => exact confines_tell rfl
  | compilePrompt => exact confines_forInput fun input => confines_compilePrompt h v.userId input
  | history =>
      cases hread : Prod.mk <$> v.user <*> v.limit with
      | invalid issues =>
          simp only [handle, hread]
          exact confines_reject _
      | valid found =>
          obtain ⟨user, limit⟩ := found
          obtain rfl := Visit.user_eq_valid (Checked.pair_eq_valid hread).1
          simp only [handle, hread]
          exact confines_look fun _ hfound => (congrArg liftM (Store.history_ownedBy ..)).trans hfound
  | prompt id => exact confines_forUser (confines_look fun _ => Store.prompt_ownedBy)
  | saveSnapshot id => exact confines_forUser (confines_finish (Studio.confined_saveSnapshot c v.userId id) rfl rfl)
  | snapshots id => exact confines_forUser (confines_look fun _ => Store.snapshots_ownedBy)
  | catalog => exact confines_tell rfl
  | refreshCatalog => exact confines_refreshCatalog
  | blueprints =>
      exact confines_forUser (confines_look fun _ hfound => (congrArg liftM (Store.blueprintsOf_ownedBy ..)).trans hfound)
  | createBlueprint =>
      exact confines_forInput fun draft =>
        confines_finish (Studio.confined_createBlueprint c v.userId h draft) rfl rfl
  | blueprint id => exact confines_forUser (confines_look fun _ => Store.blueprintWithLatest_ownedBy)
  | updateBlueprint id =>
      exact confines_forInput fun changes =>
        confines_finish (Studio.confined_updateBlueprint c v.userId h id changes) rfl rfl
  | models =>
      exact confines_forUser (confines_look fun _ hfound => (congrArg liftM (Store.modelsOf_ownedBy ..)).trans hfound)
  | createModel =>
      exact confines_forInput fun input =>
        confines_finish (Studio.confined_createModel c v.userId input.name input.description input.consent) rfl rfl
  | model id => exact confines_forUser (confines_model h v.userId id)
  | baseModels => exact confines_tell rfl
  | initDataset =>
      exact confines_forInput fun input =>
        confines_finish (Studio.confined_initDataset c v.userId input.modelId input.imageCount) rfl rfl
  | validateDataset id =>
      exact confines_forUser (confines_finish (Studio.confined_validateDataset c v.userId h id) rfl rfl)
  | createJob =>
      exact confines_forInput fun input =>
        confines_finishJob (Studio.confined_createJob c app.worker h hquiet v.userId input.modelId input.datasetId
          input.baseModel (.object input.params)) rfl rfl
  | job id =>
      exact confines_forUser ⟨.nothing, fun _ hvalue => seen_eq_ok_of (fun _ => Store.ownedJob_ownedBy) hvalue⟩
  | retryJob id =>
      exact confines_forUser (confines_finishJob (Studio.confined_retryJob c app.worker h hquiet v.userId id) rfl rfl)
  | webhook => exact absurd rfl hendpoint
  | activate => exact confines_forInput fun input => confines_activate h v.userId input
  | active => exact confines_forUser (confines_activeView h v.userId)
  | deactivate => exact confines_forUser (confines_finish (Studio.confined_deactivate v.userId) rfl rfl)

/-! ### Every request -/

theorem confines_visit (h : app.studio.Sound) (hquiet : v.exchange.deliveries = [])
    (hroute : Route.find v.request.method v.request.path ≠ .found .webhook) :
    app.Confines v.userId fun app => (app.visit v).1 := by
  cases hpermission : permission? v.request with
  | some answer =>
      simp only [visit, hpermission]
      exact ⟨.nothing, fun _ hvalue => hvalue⟩
  | none =>
      cases hfound : Route.find v.request.method v.request.path with
      | found endpoint =>
          simp only [visit, hpermission, hfound]
          refine confines_handle h hquiet ?_
          rintro rfl
          exact hroute hfound
      | _ =>
          simp only [visit, hpermission, hfound]
          exact confines_reject _

theorem snd_visit_congr (app app' : App) (v : Visit) : (app'.visit v).2 = (app.visit v).2 := by
  rw [visit, visit]
  split
  · rfl
  · split <;> rfl

theorem respond_congr {app' : App} (hunnamed : app'.unnamed = app.unnamed)
    (hresult : ((app'.counting v).visit v).1.result = ((app.counting v).visit v).1.result) :
    (app'.respond v).1 = (app.respond v).1 := by
  have hcount : (app'.counting v).unnamed = (app.counting v).unnamed := by
    rw [counting, counting]
    split
    · exact hunnamed
    · exact congrArg (· + 1) hunnamed
  have hresponse (id : Text) :
      ((app'.counting v).visit v).1.response id ((app'.counting v).visit v).2
        = ((app.counting v).visit v).1.response id ((app.counting v).visit v).2 := by
    rw [Handled.response, Handled.response, hresult, snd_visit_congr (app.counting v)]
  rw [respond_eq, respond_eq, hcount, hresponse]

/-- A response with a status below 300 was given for a value. -/
theorem exists_result_of_success (hsuccess : (app.respond v).1.status < 300) :
    ∃ value, ((app.counting v).visit v).1.result = .ok value := by
  obtain ⟨id, hresponse⟩ := app.exists_respond_eq v
  rw [hresponse, Response.status_forMethod, Handled.response] at hsuccess
  split at hsuccess
  · rename_i value hvalue
    exact ⟨value, hvalue⟩
  · exact absurd (Response.le_status_ofRejection id _) (Nat.not_le.mpr hsuccess)

theorem counting_ownedBy : (app.ownedBy userId).counting v = (app.counting v).ownedBy userId := by
  rw [counting, counting]
  split <;> rfl

end App

/-- Users cannot touch or see each other's rows. At every moment of every run of all operations and reports, a request
to any endpoint but the one of the worker, while nothing is reported, leaves all that any other user owns as it is. Every
row that it makes, and every row as it changes it, is its own user's, and so are all rows that such a row refers to. And
if it succeeds, its response is the one that it gets where no other row is stored. -/
theorem requests_stay_among_the_rows_of_their_user (happenings : List Happening) {app : App} {v : Visit}
    (hstudio : app.studio = (Activity.start.run happenings).studio) (hquiet : v.exchange.deliveries = [])
    (hroute : Route.find v.request.method v.request.path ≠ .found .webhook) :
    let before := app.studio.store
    let after := (app.respond v).2.1.studio.store
    (∀ other, other ≠ v.userId → after.ownedBy other = before.ownedBy other) ∧
      (∀ row, after.Has row → ¬ before.Has row → after.Within v.userId row) ∧
      ((app.respond v).1.status < 300 → ((app.ownedBy v.userId).respond v).1 = (app.respond v).1) := by
  intro before after
  have hsound : app.studio.Sound := hstudio ▸ Activity.sound_run happenings
  have hcounted : (app.counting v).studio.Sound := by
    rw [App.counting_studio]
    exact hsound
  have hconfines := App.confines_visit hcounted hquiet hroute
  have htouches : before.Touches v.userId after := by
    have h := hconfines.touches
    rw [App.counting_studio] at h
    exact h
  refine ⟨fun other hother => htouches.ownedBy_of_ne hsound.rooted hother, fun row => htouches.within, ?_⟩
  intro hsuccess
  obtain ⟨value, hvalue⟩ := App.exists_result_of_success hsuccess
  refine App.respond_congr rfl ?_
  rw [App.counting_ownedBy, hvalue]
  exact hconfines.answers value hvalue

def App.shared : App :=
  .small (Activity.start.run [.training (.plain .small (.createModel "user" "own" none true)),
    .training (.plain .small (.createModel "other" "foreign" none true))]).studio

def Visit.newDataset : Visit :=
  .posting "/api/v1/lora/datasets/init" "\x7b\"model_id\":\"model-1\",\"image_count\":20\x7d"

/-- The dataset is made, belongs to the first user, and leaves the rows of the other one as they are; the answer is the
one that the first user would get alone. -/
theorem new_dataset_stays_among_the_rows_of_its_user :
    (App.shared.respond .newDataset).1.status = 201 ∧
      (App.shared.respond .newDataset).2.1.studio.store.ownedBy "other" = App.shared.studio.store.ownedBy "other" ∧
      (App.shared.studio.store.ownedBy "other").models.length = 1 ∧
      (App.shared.respond .newDataset).2.1.studio.store.datasets.length = 1 ∧
      (∀ d ∈ (App.shared.respond .newDataset).2.1.studio.store.datasets, d.userId = "user") ∧
      ((App.shared.ownedBy "user").respond .newDataset).1 = (App.shared.respond .newDataset).1 := by
  have hstatus : (App.shared.respond .newDataset).1.status = 201 := by decide +kernel
  have hmodels : (App.shared.studio.store.ownedBy "other").models.length = 1 := by decide +kernel
  have hcount : (App.shared.respond .newDataset).2.1.studio.store.datasets.length = 1 := by decide +kernel
  have hnone : App.shared.studio.store.datasets = [] := List.eq_nil_of_length_eq_zero (by decide +kernel)
  have hroute : Route.find Visit.newDataset.request.method Visit.newDataset.request.path ≠ .found .webhook := by
    decide +kernel
  have huser : Visit.newDataset.userId = "user" := by decide +kernel
  have hother : Text.ofString "other" ≠ Visit.newDataset.userId := by
    rw [huser]
    decide
  obtain ⟨hleft, hnew, hseen⟩ :=
    requests_stay_among_the_rows_of_their_user _ (v := .newDataset) (rfl : App.shared.studio = _) rfl hroute
  refine ⟨hstatus, hleft "other" hother, hmodels, hcount, ?_, ?_⟩
  · intro d hd
    have hfresh : d ∉ App.shared.studio.store.datasets := by
      rw [hnone]
      exact List.not_mem_nil
    have hwithin := hnew (.dataset d) hd hfresh
    rw [huser] at hwithin
    exact Option.some.inj hwithin.1
  · rw [← huser]
    exact hseen (by rw [hstatus]; decide)

end PromptStudio
