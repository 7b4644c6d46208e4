import PromptStudio.Digest.Hex
import PromptStudio.Failure.Fault
import PromptStudio.Settings
import PromptStudio.Text.Percent

/-!
# Uploads

Objects are uploaded to one address and read from another. The upload address carries the key of the object
percent-encoded as a single step, with a token and a lifetime; the public address carries the key as it is.
-/

namespace PromptStudio

/-- Where an object is written and where it is read. -/
structure Upload where
  uploadUrl : Text
  publicUrl : Text
  deriving DecidableEq, Repr

namespace Upload

def defaultLifetime : Int := 3600

/--
The addresses of an object; `draw` is the number of the token, `lifetime` the text of its seconds. A key without bytes
has no address to be uploaded to.
-/
def ofKey (baseUrl : Text) (key : Text) (draw : Nat) (lifetime : Text) : Except Fault Upload :=
  match Utf8.encode? key with
  | none => .error .unencodableText
  | some bytes =>
    let base := withoutTrailingSlashes baseUrl
    let step : Text := (Percent.encode Percent.isUnreserved bytes).map .char
    .ok
      { uploadUrl := base ++ "/api/upload/" ++ step ++ "?token=" ++ Hex.padded 32 draw ++ "&expires=" ++ lifetime
        publicUrl := base ++ "/uploads/" ++ key }

end Upload

end PromptStudio
