import PromptStudio.Digest.Hex
import PromptStudio.Digest.Sha256
import PromptStudio.Json.Document
import PromptStudio.Number.Quantity

/-!
# Quality reports

A dataset is judged by the number of its images: too few make it unusable, many are only remarked on. A dataset that
passes gets a hash, which tells this validation of it from every other.
-/

namespace PromptStudio

/-- The verdict on a dataset. -/
structure QualityReport where
  valid : Bool
  imageCount : Quantity
  issues : List Text
  score : Int
  deriving DecidableEq, Repr

namespace QualityReport

def baseScore : Int := 85

/-- The issue of too few images. -/
def shortage (count least : Quantity) : Text :=
  "Minimum " ++ least.text ++ " images required (" ++ count.text ++ " provided, " ++ (least.sub count).text ++ " short)"

def surplus (softMost : Quantity) : Text :=
  "More than " ++ softMost.text ++ " images may slow training"

/-- The report on a number of images, against the least that is needed and the most that is recommended. -/
def ofCount (count least softMost : Quantity) : QualityReport :=
  let short := count.lt least
  let many := softMost.lt count
  { valid := !short
    imageCount := count
    issues := (if short then [shortage count least] else []) ++ if many then [surplus softMost] else []
    score := baseScore - (if short then 30 else 0) - if many then 5 else 0 }

def toJson (r : QualityReport) : Json :=
  .ofFields [("valid", .bool r.valid), ("imageCount", r.imageCount.toJson),
    ("minResolution", .ofFields [("width", .ofNat 512), ("height", .ofNat 512)]), ("duplicatesFound", .ofNat 0),
    ("issues", .ofTexts r.issues), ("score", .int r.score)]

end QualityReport

/-- The hash of a dataset: of the texts of its id, of the number of its images and of the time, not of the images. -/
def datasetHash (id count now : Text) : Except Fault Text :=
  match Utf8.encode? (id ++ "-" ++ count ++ "-" ++ now) with
  | some bytes => .ok (Hex.encode ((Sha256.hash bytes).take 8))
  | none => .error .unencodableText

end PromptStudio
