import PromptStudio.Proofs.Api.Respond
import PromptStudio.Proofs.Signing.Authentication

/-!
# Reports from strangers

A report arrives at an endpoint that everybody can reach. What the endpoint does before the signature is known to be
good must not show what is stored: neither whether there is such a job, nor how it stands, nor whether the report has
the right form. So two applications with the same signer answer a forged report alike, whatever each of them has
stored, and nothing that is stored changes.
-/

namespace PromptStudio

namespace App

/-- The application takes a request for a report of the worker: with its signer, it brings a message. -/
def Believes (app : App) (v : Visit) (message : Json) : Prop :=
  ∃ signer, (app.studio.getSigner app.settings).1 = .ok signer ∧
    Webhook.Genuine signer (v.request.header? "x-signature") (v.request.header? "x-timestamp") v.request.body
      v.now.toMillis app.settings.nesting message

def turnsAway (signer : Except Fault Signer) (nesting : Nesting) (v : Visit) : Rejection :=
  match signer with
  | .error _ => .unforeseen
  | .ok signer =>
    match Webhook.authenticate signer (v.request.header? "x-signature") (v.request.header? "x-timestamp")
      v.request.body v.now.toMillis nesting with
    | .error failure => .ofFailure failure
    | .ok _ => .unforeseen

theorem status_turnsAway (signer : Except Fault Signer) (nesting : Nesting) (v : Visit) :
    (turnsAway signer nesting v).answer.1 = 401 ∨ (turnsAway signer nesting v).answer.1 = 500 := by
  cases signer with
  | error fault => exact Or.inr rfl
  | ok signer =>
      rcases Webhook.authenticate_cases signer (v.request.header? "x-signature") (v.request.header? "x-timestamp")
        v.request.body v.now.toMillis nesting with ⟨message, hok⟩ | ⟨fault, hfault⟩ | ⟨cause, hrefused, hcode⟩
      · simp only [turnsAway, hok]
        exact Or.inr rfl
      · simp only [turnsAway, hfault]
        exact Or.inr rfl
      · simp only [turnsAway, hrefused]
        exact Or.inl (congrArg ErrorCode.status hcode)

theorem receiveReport_of_forged {app : App} {v : Visit} (hforged : ∀ message, ¬ app.Believes v message) :
    app.receiveReport v = ⟨.error (turnsAway (app.studio.getSigner app.settings).1 app.settings.nesting v),
      app.withStudio (app.studio.getSigner app.settings).2, []⟩ := by
  rw [receiveReport]
  dsimp only
  cases hsigner : (app.studio.getSigner app.settings).1 with
  | error fault => rfl
  | ok signer =>
      dsimp only [turnsAway]
      cases hauthentic : Webhook.authenticate signer (v.request.header? "x-signature")
          (v.request.header? "x-timestamp") v.request.body v.now.toMillis app.settings.nesting with
      | error failure => rfl
      | ok message => exact absurd ⟨signer, hsigner, Webhook.authenticate_eq_ok_iff.mp hauthentic⟩ (hforged message)

theorem believes_counting {app : App} {v : Visit} {message : Json} :
    (app.counting v).Believes v message ↔ app.Believes v message := by
  rw [Believes, Believes, counting_studio, counting_settings]

/-- What a forged report leads to: the store is as it was, and status and body depend on the signer only. -/
theorem respond_of_forged {app : App} {v : Visit}
    (hroute : Route.find v.request.method v.request.path = .found .webhook)
    (hforged : ∀ message, ¬ app.Believes v message) :
    (app.respond v).2.1.studio.store = app.studio.store ∧ (app.respond v).2.2 = [] ∧
      ∃ id, (app.respond v).1 = (Response.ofRejection id
        (turnsAway (app.studio.getSigner app.settings).1 app.settings.nesting v)).forMethod v.request.method := by
  have hvisit := (app.counting v).visit_of_found hroute
  have hhandle : (app.counting v).handle v .webhook
      = ⟨.error (turnsAway (app.studio.getSigner app.settings).1 app.settings.nesting v),
        (app.counting v).withStudio (app.studio.getSigner app.settings).2, []⟩ := by
    have hcounted : ∀ message, ¬ (app.counting v).Believes v message := by
      intro message hbelieved
      exact hforged message (believes_counting.mp hbelieved)
    change (app.counting v).receiveReport v = _
    rw [receiveReport_of_forged hcounted, counting_studio, counting_settings]
  rw [hhandle] at hvisit
  refine ⟨?_, ?_, ?_⟩
  · rw [respond_studio, hvisit]
    exact (Traffic.getSigner_store_issued app.studio app.settings).1
  · rw [respond_sent, hvisit]
  · obtain ⟨id, hresponse⟩ := app.exists_respond_eq v
    rw [hvisit] at hresponse
    exact ⟨id, hresponse⟩

end App

/--
A report that is not genuine changes no row, whatever is stored and whatever the report says. And it shows nothing of
what is stored: two applications with one signer and one stack answer it with the same status and the same body, the
status being that of a bad signature or of a failure that nobody foresaw.
-/
theorem forged_report_is_inert_and_learns_nothing {app other : App} {v : Visit}
    (hsigner : (app.studio.getSigner app.settings).1 = (other.studio.getSigner other.settings).1)
    (hnesting : app.settings.nesting = other.settings.nesting)
    (hroute : Route.find v.request.method v.request.path = .found .webhook)
    (hforged : ∀ message, ¬ app.Believes v message) :
    (app.respond v).2.1.studio.store = app.studio.store ∧
      (other.respond v).2.1.studio.store = other.studio.store ∧
      (app.respond v).1.status = (other.respond v).1.status ∧ (app.respond v).1.body = (other.respond v).1.body ∧
      ((app.respond v).1.status = 401 ∨ (app.respond v).1.status = 500) := by
  have hothers : ∀ message, ¬ other.Believes v message := by
    rintro message ⟨signer, hother, hgenuine⟩
    rw [← hnesting] at hgenuine
    exact hforged message ⟨signer, hsigner.trans hother, hgenuine⟩
  obtain ⟨hstore, _, id, hresponse⟩ := App.respond_of_forged hroute hforged
  obtain ⟨hstore', _, id', hresponse'⟩ := App.respond_of_forged hroute hothers
  rw [← hsigner, ← hnesting] at hresponse'
  have hsaid : (app.respond v).1.said = (other.respond v).1.said := by
    rw [hresponse, hresponse']
    refine Response.said_forMethod ?_ v.request.method
    rw [Response.said_ofRejection, Response.said_ofRejection]
  obtain ⟨hstatus, hbody⟩ := Prod.mk.inj hsaid
  refine ⟨hstore, hstore', hstatus, hbody, ?_⟩
  rw [hresponse, Response.status_forMethod]
  change (Response.ofRejection id _).said.1 = 401 ∨ (Response.ofRejection id _).said.1 = 500
  rw [Response.said_ofRejection]
  split
  · exact App.status_turnsAway _ _ v
  · exact Or.inr rfl

def Visit.forgedFailure : Visit where
  request :=
    { method := "POST", path := "/api/v1/lora/webhook".toList, query := []
      headers := [("x-signature", "00"), ("x-timestamp", "7")]
      body := Utf8.ofString "\x7b\"jobId\":\"job-1\",\"status\":\"failed\"\x7d" }
  now := 7
  source := .preset
  exchange := .quiet

/-- An application that has the first job and one that has nothing answer this report alike. -/
theorem forged_failure_tells_no_job_apart :
    ((Traffic.start.run Traffic.firstJob).studio.store.job? "job-1").isSome = true ∧
      Studio.start.store.job? "job-1" = none ∧
      ((App.small (Traffic.start.run Traffic.firstJob).studio).respond .forgedFailure).2.1.studio.store
        = (Traffic.start.run Traffic.firstJob).studio.store ∧
      ((App.small .start).respond .forgedFailure).2.1.studio.store = Studio.start.store ∧
      ((App.small (Traffic.start.run Traffic.firstJob).studio).respond .forgedFailure).1.status
        = ((App.small .start).respond .forgedFailure).1.status ∧
      ((App.small (Traffic.start.run Traffic.firstJob).studio).respond .forgedFailure).1.body
        = ((App.small .start).respond .forgedFailure).1.body ∧
      (((App.small (Traffic.start.run Traffic.firstJob).studio).respond .forgedFailure).1.status = 401 ∨
        ((App.small (Traffic.start.run Traffic.firstJob).studio).respond .forgedFailure).1.status = 500) := by
  have hjob : ((Traffic.start.run Traffic.firstJob).studio.store.job? "job-1").isSome = true := by decide +kernel
  have hsigner : ((App.small (Traffic.start.run Traffic.firstJob).studio).studio.getSigner Context.small.settings).1
      = ((App.small .start).studio.getSigner Context.small.settings).1 := by decide +kernel
  have hroute : Route.find (Text.ofString "POST") "/api/v1/lora/webhook".toList = .found .webhook := by decide +kernel
  refine ⟨hjob, rfl, forged_report_is_inert_and_learns_nothing hsigner rfl hroute ?_⟩
  rintro message ⟨signer, _, sign, time, hstamp, _, haccepts⟩
  have hsign : some (Text.ofString "00") = some sign := hstamp.signature
  obtain ⟨bytes, _, hdigest⟩ := haccepts.digest
  rw [← Option.some.inj hsign] at hdigest
  have hshort : Hex.decode? (Text.ofString "00") = some [0] := by decide +kernel
  have hlength := congrArg List.length (Option.some.inj (hshort.symm.trans hdigest))
  rw [Hmac.length_digest] at hlength
  cases hlength

end PromptStudio
