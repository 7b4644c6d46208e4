import PromptStudio.Digest.Hex
import PromptStudio.Digest.Hmac
import PromptStudio.Json.Document

/-!
# Signatures

Whoever shares a secret can sign a payload at a time, and check a signature. What is signed is the compact JSON of the
payload and its timestamp, so a changed payload, a changed time and a changed order of keys all show. A signature is
accepted only while its time is close to the clock.
-/

namespace PromptStudio

/-- A payload, the time at which it was signed, and its signature. -/
structure SignedPayload where
  signature : String
  timestamp : Int
  payload : Json

/-- Why a signature is not accepted. -/
inductive SignatureDefect where
  | expired
  | unreadable
  | wrongLength
  | mismatch
  deriving DecidableEq, Repr

def SignatureDefect.message : SignatureDefect → String
  | expired => "Timestamp expired or invalid"
  | unreadable => "Signature verification failed"
  | wrongLength => "Invalid signature length"
  | mismatch => "Signature mismatch"

/-- What is signed: the payload and its time in one object. -/
def envelope (payload : Json) (timestamp : Int) : Json :=
  .ofFields [("payload", payload), ("timestamp", .int timestamp)]

/-- The bytes that are signed, if the envelope does not nest too deep to be written. -/
def signedBytes (payload : Json) (timestamp : Int) (maxDepth : Nat := Nesting.signedDepth) : Except Fault Bytes :=
  Json.toBytes .compact (envelope payload timestamp) maxDepth

structure Signer where
  secret : Bytes
  /-- How far a timestamp may be from the clock, in milliseconds. -/
  tolerance : Int
  deriving DecidableEq, Repr

namespace Signer

/-- The tolerance where none is set: five minutes. -/
def defaultTolerance : Int := 5 * 60 * 1000

def ofSecret (secret : Text) (tolerance : Int) : Except Fault Signer :=
  if secret.isEmpty then .error .emptySecret
  else match Utf8.encode? secret with
    | some bytes => .ok ⟨bytes, tolerance⟩
    | none => .error .unencodableText

def digest (s : Signer) (payload : Json) (timestamp : Int) (maxDepth : Nat := Nesting.signedDepth) :
    Except Fault Bytes :=
  (signedBytes payload timestamp maxDepth).map (Hmac.digest s.secret)

def sign (s : Signer) (payload : Json) (timestamp : Int) (maxDepth : Nat := Nesting.signedDepth) :
    Except Fault SignedPayload :=
  (s.digest payload timestamp maxDepth).map fun d => ⟨Hex.encode d, timestamp, payload⟩

/-- Compares what a signature spells with the digest that was expected. -/
def defectOf (signature : Json) (expected : Bytes) : Option SignatureDefect :=
  let provided := match signature with
    | .string t => Hex.decode? t
    | _ => none
  match provided with
  | none => some .unreadable
  | some bytes =>
    if bytes.length ≠ expected.length then some .wrongLength
    else if bytes ≠ expected then some .mismatch
    else none

/-- Checks a signature against the clock and the payload; none is the verdict for a good one. -/
def verify (s : Signer) (signature : Json) (timestamp : Int) (payload : Json) (now : Int)
    (maxDepth : Nat := Nesting.signedDepth) : Except Fault (Option SignatureDefect) :=
  if s.tolerance < (now - timestamp).natAbs then .ok (some .expired)
  else (s.digest payload timestamp maxDepth).map (defectOf signature)

def jobPayload (jobId datasetUrl : Text) (params : Json) (callbackUrl : Text) : Json :=
  .ofFields [("jobId", .string jobId), ("datasetUrl", .string datasetUrl), ("params", params),
    ("callbackUrl", .string callbackUrl)]

def signJob (s : Signer) (jobId datasetUrl : Text) (params : Json) (callbackUrl : Text) (now : Int)
    (maxDepth : Nat := Nesting.signedDepth) : Except Fault SignedPayload :=
  s.sign (jobPayload jobId datasetUrl params callbackUrl) now maxDepth

end Signer

def SignedPayload.headers (p : SignedPayload) : List (String × String) :=
  [("X-Signature", p.signature), ("X-Timestamp", String.ofList (Json.intText p.timestamp))]

end PromptStudio
