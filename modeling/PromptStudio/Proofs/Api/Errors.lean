import PromptStudio.Proofs.Api.Respond
import PromptStudio.Proofs.Store.Atomicity

/-!
# Errors and what is stored

A client that gets an error may try again, so an error should mean that nothing happened. An operation that fails
changes no row; what is left are requests that break off after their operation had written. There are three kinds of
them. The operation was done, and its answer has no bytes. A job was sent, and its parameters nest too deep to be seen.
Or a new job was stored with its version, and to send it ended in a fault.
-/

namespace PromptStudio

namespace Handled.Spares

variable {s : Store} {h : Handled}

end Handled.Spares

namespace App

/-- The call that a visit makes, if it asks the worker and its input is good. -/
def jobCall? (app : App) (v : Visit) : Endpoint → Option JobCall
  | .createJob =>
    match v.request.content app.settings.nesting.body with
    | .error _ => none
    | .ok content =>
      match Prod.mk <$> v.user <*> content.read JobInput.reader with
      | .valid (user, input) =>
        some (.create user input.modelId input.datasetId input.baseModel (.object input.params))
      | .invalid _ => none
  | .retryJob id =>
    match v.user with
    | .valid user => some (.retry id user)
    | .invalid _ => none
  | _ => none

variable {app : App} {v : Visit}

def ask (app : App) (v : Visit) (call : JobCall) : Result JobAnswer × List SentRequest :=
  app.studio.ask (app.context v) app.worker call v.exchange

theorem handle_of_jobCall? {endpoint : Endpoint} {call : JobCall} (hcall : app.jobCall? v endpoint = some call) :
    app.handle v endpoint = app.finishJob (app.ask v call) := by
  rw [jobCall?.eq_def] at hcall
  split at hcall
  · split at hcall
    · cases hcall
    · rename_i content hcontent
      split at hcall
      · rename_i hinput
        cases hcall
        rw [handle, forInput, hcontent]
        dsimp only
        rw [hinput]
        rfl
      · cases hcall
  · split at hcall
    · rename_i huser
      cases hcall
      rw [handle, forUser, huser]
      rfl
    · cases hcall
  · cases hcall

/-! ### Calls that ask the worker -/

end App

/-- A request of the first user at a path, with a body of JSON. -/
def Visit.posting (path body : String) : Visit where
  request :=
    { method := "POST", path := path.toList, query := []
      headers := [("x-user-id", "user"), ("content-type", "application/json")], body := Utf8.ofString body }
  now := 7
  source := .preset
  exchange := .quiet

end PromptStudio
