import PromptStudio.Catalog.Schema

/-!
# Requests

What a user asks for: a profile, a blueprint, values for filters, and the texts that are filled in.
-/

namespace PromptStudio

/-- A request for a prompt. -/
structure PromptRequest where
  profileId : Text
  blueprintId : Text
  filters : List (Text × Text)
  seed : Option Text
  subject : Text
  context : Text
  items : Text
  environment : Text
  restrictions : Text
  targetPlatform : Option Text
  deriving DecidableEq, Repr

namespace PromptRequest

open Schema

def reader : Schema PromptRequest :=
  record .modelType fun m =>
    PromptRequest.mk <$> field "profile_id" identifier m
      <*> field "blueprint_id" identifier m
      <*> fieldD "filters" [] (dictionary text) m
      <*> fieldD "seed" none (nullable text) m
      <*> fieldD "subject" [] text m
      <*> fieldD "context" [] text m
      <*> fieldD "items" [] text m
      <*> fieldD "environment" [] text m
      <*> fieldD "restrictions" [] text m
      <*> fieldD "target_platform" none (nullable text) m

/-- The request as it is kept in the history: without filters and seed, which have places of their own. -/
def inputJson (r : PromptRequest) : Json :=
  .ofFields [("profile_id", .string r.profileId), ("blueprint_id", .string r.blueprintId),
    ("subject", .string r.subject), ("context", .string r.context), ("items", .string r.items),
    ("environment", .string r.environment), ("restrictions", .string r.restrictions),
    ("target_platform", .ofText? r.targetPlatform)]

end PromptRequest

end PromptStudio
