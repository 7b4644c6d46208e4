import PromptStudio.Api.App
import PromptStudio.Proofs.Training.Traffic

/-!
# From what came of a request to the response

Every request goes the same way: it is counted if it has no id of its own, led to its endpoint, and answered with the
value or the rejection that it ended in. What is kept afterwards is what the endpoint left, so a law about all requests
is a law about all endpoints. The id of a request stands beside the status and the body, and neither of them depends on
it.
-/

namespace PromptStudio

/-! ### Status and body -/

namespace Response

def said (r : Response) : Nat × Option Json :=
  (r.status, r.body)

theorem said_ofRejection (id : Text) (r : Rejection) :
    (ofRejection id r).said = if r.answer.2.all Json.isEncodable then r.answer else unforeseen.said := by
  cases r with
  | unforeseen => rfl
  | _ =>
      rw [ofRejection]
      dsimp only
      split <;> rfl

@[simp] theorem status_forMethod (r : Response) (method : Text) : (r.forMethod method).status = r.status := by
  rw [forMethod]
  split <;> rfl

theorem said_forMethod {r r' : Response} (hsaid : r.said = r'.said) (method : Text) :
    (r.forMethod method).said = (r'.forMethod method).said := by
  obtain ⟨hstatus, hbody⟩ := Prod.mk.inj hsaid
  rw [forMethod, forMethod]
  split
  · exact Prod.ext hstatus rfl
  · exact hsaid

end Response

def Handled.response (h : Handled) (id : Text) (status : Nat) : Response :=
  match h.result with
  | .ok value => .ofValue id status value
  | .error r => .ofRejection id r

/-! ### Where a request goes -/

namespace App

variable (app : App) (v : Visit)

/-- The application that a request is led through: a request without an id of its own is counted. -/
def counting : App :=
  if ((v.request.header? "x-request-id").filter (!·.isEmpty)).isSome then app
  else { app with unnamed := app.unnamed + 1 }

@[simp] theorem counting_settings : (app.counting v).settings = app.settings := by
  rw [counting]
  split <;> rfl

@[simp] theorem counting_studio : (app.counting v).studio = app.studio := by
  rw [counting]
  split <;> rfl

@[simp] theorem counting_catalog : (app.counting v).catalog = app.catalog := by
  rw [counting]
  split <;> rfl

/-- The response says what came of the visit, under the id of the request or the next one. -/
theorem respond_eq :
    (app.respond v).1 =
      (((app.counting v).visit v).1.response
        (((v.request.header? "x-request-id").filter (!·.isEmpty)).getD (requestId (app.counting v).unnamed))
        ((app.counting v).visit v).2).forMethod v.request.method :=
  rfl

theorem exists_respond_eq :
    ∃ id, (app.respond v).1 =
      (((app.counting v).visit v).1.response id ((app.counting v).visit v).2).forMethod v.request.method :=
  ⟨_, app.respond_eq v⟩

theorem respond_catalog : (app.respond v).2.1.catalog = ((app.counting v).visit v).1.app.catalog :=
  rfl

theorem respond_studio : (app.respond v).2.1.studio = ((app.counting v).visit v).1.app.studio :=
  rfl

theorem respond_sent : (app.respond v).2.2 = ((app.counting v).visit v).1.sent :=
  rfl

end App

/-! ### Routes -/

namespace Route

theorem exists_of_find_eq_found {method : Text} {path : List Char} {endpoint : Endpoint}
    (h : find method path = .found endpoint) :
    ∃ r ∈ all, Text.ofString r.method = method ∧ r.pattern.endpoint? path = some endpoint := by
  rw [find] at h
  split at h
  · rename_i word found hfound
    cases h
    have hmethod := List.find?_some hfound
    have hmem := List.mem_of_find?_eq_some hfound
    rw [fitting, List.mem_filterMap] at hmem
    obtain ⟨r, hr, hfits⟩ := hmem
    rw [Option.map_eq_some_iff] at hfits
    obtain ⟨e, he, hpair⟩ := hfits
    cases hpair
    exact ⟨r, hr, beq_iff_eq.mp hmethod, he⟩
  · split at h
    · cases h
    · split at h <;> cases h

theorem method_ne_options : ∀ r ∈ all, Text.ofString r.method ≠ Text.ofString "OPTIONS" := by
  decide

end Route

/-- No endpoint is asked for whether a method may be used. -/
theorem App.permission?_eq_none {r : HttpRequest} {endpoint : Endpoint}
    (h : Route.find r.method r.path = .found endpoint) : permission? r = none := by
  obtain ⟨route, hroute, hmethod, _⟩ := Route.exists_of_find_eq_found h
  have hother : r.method ≠ Text.ofString "OPTIONS" := hmethod ▸ Route.method_ne_options route hroute
  rw [permission?, bne_iff_ne.mpr hother]
  rfl

theorem App.visit_of_found (app : App) {v : Visit} {endpoint : Endpoint}
    (h : Route.find v.request.method v.request.path = .found endpoint) :
    app.visit v = (app.handle v endpoint, endpoint.successStatus) := by
  rw [visit, permission?_eq_none h]
  simp only [h]

/-- An application with small settings and no worker that has kept something. -/
def App.small (k : Studio) : App :=
  ⟨Context.small.settings, Context.small.catalog, k, ⟨[], .null⟩, 0⟩

end PromptStudio
