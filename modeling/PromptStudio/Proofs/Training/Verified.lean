import PromptStudio.Proofs.Signing.Authentication
import PromptStudio.Proofs.Store.Load
import PromptStudio.Proofs.Validation.Written
import PromptStudio.Training.Delivery

/-!
# Verified webhooks

A report is applied only after its message was authenticated and read. The signature is computed over the bytes of the
message's value, so a message that was authenticated has bytes, and with it every text that a report takes from it. A
verified report can therefore always be written: of the faults of a database, a text without bytes is not one that it
can meet.
-/

namespace PromptStudio

namespace Schema

theorem nullable_text_eq_some {v : Json} {t : Text} (h : nullable text v = .valid (some t)) : v = .string t := by
  cases v with
  | string u =>
      cases h
      rfl
  | _ => cases h

theorem optional_eq_some {name other : String} {members : List (Text × Json)} {t : Text}
    (h : Webhook.optional name other text members = .valid (some t)) :
    ∃ key, Json.find? members key = some (.string t) := by
  rcases fieldOf_eq_valid h with ⟨key, v, hfind, hread⟩ | hnone
  · exact ⟨key, nullable_text_eq_some hread ▸ hfind⟩
  · cases hnone

end Schema

namespace Webhook

/-- A report that came in: a message whose signature was accepted, and that reads as the report. -/
def Verified (w : Webhook) : Prop :=
  ∃ (signer : Signer) (signature timestamp : Option Text) (body : Bytes) (now : Int) (nesting : Nesting)
    (message : Json), authenticate signer signature timestamp body now nesting = .ok message ∧ reader message = .valid w

theorem isEncodable_of_authenticate {signer : Signer} {signature timestamp : Option Text} {body : Bytes} {now : Int}
    {nesting : Nesting} {message : Json}
    (h : authenticate signer signature timestamp body now nesting = .ok message) : message.isEncodable = true := by
  obtain ⟨sign, time, _, _, haccepts⟩ := authenticate_eq_ok_iff.mp h
  obtain ⟨bytes, hbytes, _⟩ := haccepts.digest
  exact isEncodable_of_signedBytes hbytes

theorem mem_texts_of_reader {message : Json} {w : Webhook} (h : reader message = .valid w) {t : Text}
    (ht : t ∈ w.jobTexts ++ w.artifactTexts) :
    ∃ members key, message = .object members ∧ Json.find? members key = some (.string t) := by
  rw [reader, Schema.record.eq_def] at h
  split at h
  · rename_i members
    obtain ⟨_, images, htoChecksum, _, rfl⟩ := Checked.seq_eq_valid h
    obtain ⟨_, checksum, htoArtifact, hchecksum, rfl⟩ := Checked.seq_eq_valid htoChecksum
    obtain ⟨_, artifactUrl, htoError, hartifact, rfl⟩ := Checked.seq_eq_valid htoArtifact
    obtain ⟨_, error, htoLogs, herror, rfl⟩ := Checked.seq_eq_valid htoError
    obtain ⟨_, logsUrl, htoStatus, hlogs, rfl⟩ := Checked.seq_eq_valid htoLogs
    obtain ⟨_, status, htoJobId, _, rfl⟩ := Checked.seq_eq_valid htoStatus
    obtain ⟨jobId, _, rfl⟩ := Checked.map_eq_valid htoJobId
    refine ⟨members, ?_⟩
    simp only [jobTexts, artifactTexts, artifact?, List.mem_append, Option.mem_toList] at ht
    rcases ht with (rfl | rfl) | ht
    · obtain ⟨key, hkey⟩ := Schema.optional_eq_some herror
      exact ⟨key, rfl, hkey⟩
    · obtain ⟨key, hkey⟩ := Schema.optional_eq_some hlogs
      exact ⟨key, rfl, hkey⟩
    · split at ht
      · rename_i url hurl
        split at hurl
        · rcases List.mem_cons.mp ht with rfl | ht
          · rw [(Option.filter_eq_some_iff.mp hurl).1] at hartifact
            obtain ⟨key, hkey⟩ := Schema.optional_eq_some hartifact
            exact ⟨key, rfl, hkey⟩
          · rw [Option.mem_toList.mp ht] at hchecksum
            obtain ⟨key, hkey⟩ := Schema.optional_eq_some hchecksum
            exact ⟨key, rfl, hkey⟩
        · cases hurl
      · cases ht
  · cases h

namespace Verified

variable {w : Webhook}

theorem isEncodable (h : w.Verified) {t : Text} (ht : t ∈ w.jobTexts ++ w.artifactTexts) :
    t.isEncodable = true := by
  obtain ⟨_, _, _, _, _, _, message, hauthentic, hread⟩ := h
  obtain ⟨members, key, rfl, hfind⟩ := mem_texts_of_reader hread ht
  exact Json.isEncodable_of_find? (isEncodable_of_authenticate hauthentic) hfind

theorem bindAll_jobTexts (h : w.Verified) : Text.bindAll w.jobTexts = .ok () := by
  rw [Text.bindAll_eq_ok_iff]
  intro t ht
  exact h.isEncodable (List.mem_append_left _ ht)

theorem bindAll_artifactTexts (h : w.Verified) : Text.bindAll w.artifactTexts = .ok () := by
  rw [Text.bindAll_eq_ok_iff]
  intro t ht
  exact h.isEncodable (List.mem_append_right _ ht)

/-- The second step of a verified report always comes out well. -/
theorem exists_updateByReport (h : w.Verified) (s : Store) (loaded : Job) (times : ReportTimes) :
    ∃ result s', s.updateByReport loaded w times = .ok (result, s') := by
  rw [Store.updateByReport, h.bindAll_jobTexts]
  cases htakes : s.takesReport w.jobId with
  | false => exact ⟨_, _, rfl⟩
  | true =>
      rw [h.bindAll_artifactTexts]
      exact ⟨_, _, rfl⟩

theorem exists_finishReport (h : w.Verified) (s : Store) (loaded : Job) (times : ReportTimes) :
    ∃ result, (s.finishReport loaded w times).1 = .ok result := by
  rw [Store.finishReport]
  split
  · exact ⟨_, rfl⟩
  · obtain ⟨result, s', hupdate⟩ := h.exists_updateByReport s loaded times
    rw [hupdate]
    exact ⟨result, rfl⟩

end Verified

def bare (jobId : Text) (status : WebhookStatus) : Webhook :=
  ⟨jobId, status, none, none, none, none, none⟩

theorem verified_bare_failed : (bare "job-1" .failed).Verified := by
  -- The signature is computed over the whole message, so the check is left to evaluation.
  have hread : (match authenticate ⟨[0x6b], 300000⟩
      (some "a32d2a07812fc952419f599ae258957690ec1bb19d20a2f77112b32bb528a309") (some "0")
      (Utf8.ofString "\x7b\"jobId\":\"job-1\",\"status\":\"failed\"\x7d") 0 with
    | .ok message =>
      match reader message with
      | .valid w => decide (w = bare "job-1" .failed)
      | .invalid _ => false
    | .error _ => false) = true := by decide +kernel
  split at hread
  · rename_i message hauthentic
    split at hread
    · rename_i w hvalid
      rw [of_decide_eq_true hread] at hvalid
      exact ⟨_, _, _, _, _, _, message, hauthentic, hvalid⟩
    · cases hread
  · cases hread

end Webhook

end PromptStudio
