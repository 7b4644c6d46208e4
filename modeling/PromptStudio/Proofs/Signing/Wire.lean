import PromptStudio.Proofs.Signing.Signature
import PromptStudio.Proofs.Store.Load
import PromptStudio.Training.Webhook
import PromptStudio.Worker.Client
import PromptStudio.Worker.Rehearsal

/-!
# Signatures over the wire

What is signed is compact JSON, what is sent is JSON with gaps, and whoever checks the signature writes the compact
form of what was read. So the check agrees with the signature because reading undoes writing: the header gives the time
and the body gives the payload that were signed. Both ways are covered, the jobs that go to the worker and the reports
that come back.
-/

namespace PromptStudio

/-- Whether a message that nests so deep is read, and written inside of its envelope. -/
def Nesting.Holds (n : Nesting) (depth : Nat) : Prop :=
  depth ≤ n.message ∧ depth < n.checked

/--
A request brings what was signed. Its headers carry the signature and spell the time. The bytes of its body spell the
payload, for every reader that lets it nest as deep as it does. And the signature is good for both while the clock is
close to the time, for everyone who can write the payload down.
-/
structure SentRequest.Brings (r : SentRequest) (s : Signer) (signed : SignedPayload) : Prop where
  headers : signed.headers = [("X-Signature", r.signature), ("X-Timestamp", String.ofList (Json.intText r.timestamp))]
  time : (signed.headers.lookup "X-Timestamp").bind (Integer.ofChars? ·.toList) = some signed.timestamp
  payload : ∃ bytes, Utf8.encode? r.body = some bytes ∧
    ∀ maxDepth, signed.payload.depth ≤ maxDepth → Json.ofBytes bytes maxDepth = .ok signed.payload
  good : ∀ now, (now - signed.timestamp).natAbs ≤ s.tolerance → ∀ maxDepth, signed.payload.depth < maxDepth →
    s.verify (.string r.signature) signed.timestamp signed.payload now maxDepth = .ok none

/-! ### What is signed is good -/

namespace Signer

variable {s : Signer} {payload : Json} {timestamp : Int} {maxDepth : Nat} {signed : SignedPayload}

theorem exists_of_sign_eq_ok (h : s.sign payload timestamp maxDepth = .ok signed) :
    ∃ message, signedBytes payload timestamp maxDepth = .ok message ∧
      signed = ⟨Hex.encode (Hmac.digest s.secret message), timestamp, payload⟩ := by
  obtain ⟨digest, hdigest, rfl⟩ := map_eq_ok.mp h
  obtain ⟨message, hmessage, rfl⟩ := map_eq_ok.mp hdigest
  exact ⟨message, hmessage, rfl⟩

theorem isEncodable_of_sign_eq_ok (h : s.sign payload timestamp maxDepth = .ok signed) :
    payload.isEncodable = true := by
  obtain ⟨message, hmessage, -⟩ := exists_of_sign_eq_ok h
  exact isEncodable_of_signedBytes hmessage

theorem signature_ne_nil (h : s.sign payload timestamp maxDepth = .ok signed) :
    Text.ofString signed.signature ≠ [] := by
  obtain ⟨message, -, rfl⟩ := exists_of_sign_eq_ok h
  refine Hex.ofString_encode_ne_nil ?_
  rw [Hmac.length_digest]
  decide

/-- A payload without lone surrogates can be signed, and the bound on its depth makes no difference to the signature. -/
theorem exists_sign (s : Signer) (h : payload.isEncodable = true) (timestamp : Int) :
    ∃ signed, signed.timestamp = timestamp ∧ signed.payload = payload ∧
      ∀ maxDepth, payload.depth < maxDepth → s.sign payload timestamp maxDepth = .ok signed := by
  obtain ⟨message, hmessage⟩ := exists_signedBytes h timestamp
  exact ⟨⟨_, timestamp, payload⟩, rfl, rfl, fun maxDepth hdepth => sign_eq_ok (hmessage maxDepth hdepth)⟩

theorem sign_of_same_secret {t : Signer} (h : t.secret = s.secret) (payload : Json) (timestamp : Int) (maxDepth : Nat) :
    t.sign payload timestamp maxDepth = s.sign payload timestamp maxDepth := by
  rw [sign, sign, digest, digest, h]

/-- A signature is good for what was signed while the clock is close to the time. -/
theorem verify_sign (h : s.sign payload timestamp maxDepth = .ok signed) {now : Int}
    (hclose : (now - timestamp).natAbs ≤ s.tolerance) {otherDepth : Nat} (hdepth : payload.depth < otherDepth) :
    s.verify (.string signed.signature) timestamp payload now otherDepth = .ok none := by
  obtain ⟨message, hmessage, rfl⟩ := exists_of_sign_eq_ok h
  have hother : signedBytes payload timestamp otherDepth = .ok message :=
    signedBytes_eq_ok.mpr ⟨hdepth, (signedBytes_eq_ok.mp hmessage).2⟩
  obtain ⟨verdict, hverdict, hgood⟩ := verify_encode hother message now
  rw [hverdict, hgood.mpr ⟨hclose, rfl⟩]

end Signer

/-! ### What is sent arrives -/

theorem SignedPayload.lookup_timestamp (p : SignedPayload) :
    p.headers.lookup "X-Timestamp" = some (String.ofList (Json.intText p.timestamp)) := by
  have hother : ("X-Timestamp" == "X-Signature") = false := by decide
  rw [headers, List.lookup_cons, hother, List.lookup_cons_self]

theorem SentRequest.exists_ofSigned {address : Text} {url : Url} (h : Url.ofText address = .ok url)
    (signed : SignedPayload) : ∃ r, ofSigned address signed.payload signed.signature signed.timestamp = .ok r :=
  ⟨_, map_eq_ok.mpr ⟨url, h, rfl⟩⟩

theorem SentRequest.brings_of_sign {s : Signer} {payload : Json} {timestamp : Int} {maxDepth : Nat}
    {signed : SignedPayload} (hsign : s.sign payload timestamp maxDepth = .ok signed)
    (hshort : payload.hasShortIntegers = true) (hdistinct : payload.hasDistinctKeys = true)
    (htime : Json.isShort timestamp = true) {address : Text} {r : SentRequest}
    (hsent : ofSigned address signed.payload signed.signature signed.timestamp = .ok r) : r.Brings s signed := by
  have hencodable := Signer.isEncodable_of_sign_eq_ok hsign
  have hgood := @Signer.verify_sign s payload timestamp maxDepth signed hsign
  obtain ⟨url, -, rfl⟩ := map_eq_ok.mp hsent
  obtain ⟨message, -, rfl⟩ := Signer.exists_of_sign_eq_ok hsign
  obtain ⟨bytes, hbytes⟩ := Json.exists_encode?_render .spaced rfl hencodable
  refine ⟨rfl, ?_, ⟨bytes, hbytes, ?_⟩, fun _ hclose _ hdepth => hgood hclose hdepth⟩
  · rw [SignedPayload.lookup_timestamp, Option.bind_some, String.toList_ofList, Integer.ofChars?_intText htime]
  · intro maxDepth hdepth
    exact Json.ofBytes_render rfl (Json.every_keeps _ hshort hdistinct) hdepth hbytes

theorem Rehearsal.delivery_eq_ok {s : Signer} {url : Text} {report : Json} {now : Int} {maxDepth : Nat}
    {r : SentRequest} :
    delivery s url report now maxDepth = .ok r ↔ ∃ signed, s.sign report now maxDepth = .ok signed ∧
      SentRequest.ofSigned url signed.payload signed.signature signed.timestamp = .ok r :=
  bind_eq_ok

theorem Webhook.authenticate_eq_ok {s : Signer} {payload : Json} {timestamp : Int} {maxDepth : Nat}
    {signed : SignedPayload} (hsign : s.sign payload timestamp maxDepth = .ok signed)
    (htime : Json.isShort timestamp = true) {bytes : Bytes} {nesting : Nesting}
    (hread : Json.ofBytes bytes nesting.message = .ok payload) (hdepth : payload.depth < nesting.checked) {now : Int}
    (hclose : (now - timestamp).natAbs ≤ s.tolerance) :
    authenticate s (some signed.signature) (some (Json.intShown timestamp)) bytes now nesting = .ok payload := by
  have hheader := Integer.ofChars?_intShown htime
  have hgood := Signer.verify_sign hsign hclose hdepth
  rw [authenticate, filter_isEmpty_of_ne_nil (Signer.signature_ne_nil hsign),
    filter_isEmpty_of_ne_nil (Integer.intShown_ne_nil timestamp)]
  simp only [hheader, hread, hgood]

/-! ### Jobs and reports -/

namespace Signer

theorem every_jobPayload {test : Json → Bool} {jobId datasetUrl callbackUrl : Text} {params : Json}
    (hobject : test (jobPayload jobId datasetUrl params callbackUrl) = true) (htext : ∀ t, test (.string t) = true) :
    Json.every test (jobPayload jobId datasetUrl params callbackUrl) = Json.every test params := by
  have hstring : ∀ t, Json.every test (.string t) = true := htext
  rw [jobPayload] at hobject ⊢
  rw [Json.every_ofFields, hobject]
  simp only [List.all_cons, List.all_nil, hstring, Bool.true_and, Bool.and_true]

theorem repeatsNoKey_jobPayload (jobId datasetUrl callbackUrl : Text) (params : Json) :
    (jobPayload jobId datasetUrl params callbackUrl).repeatsNoKey = true := by
  have hkeys : ["jobId", "datasetUrl", "params", "callbackUrl"].Nodup := by decide
  exact Json.repeatsNoKey_ofFields hkeys

theorem depth_jobPayload (jobId datasetUrl callbackUrl : Text) (params : Json) :
    (jobPayload jobId datasetUrl params callbackUrl).depth = params.depth + 1 := by
  change max 0 (max 0 (max params.depth (max 0 0))) + 1 = params.depth + 1
  rw [Nat.max_self, Nat.max_zero, Nat.zero_max, Nat.zero_max]

theorem isEncodable_jobPayload (jobId datasetUrl callbackUrl : Text) (params : Json) :
    (jobPayload jobId datasetUrl params callbackUrl).isEncodable
      = (jobId.isEncodable && (datasetUrl.isEncodable && (params.isEncodable && callbackUrl.isEncodable))) := by
  rw [jobPayload, Json.isEncodable_ofFields]
  simp only [List.all_cons, List.all_nil, Bool.and_true]
  rfl

end Signer

/--
Signatures survive the wire, as long as texts have bytes, objects repeat no key and integers are not too long. A job is
signed alike by everyone who can write it down, and the request that carries it to the worker brings what was signed. So
does every request that carries a report back; and whoever reads it as a webhook gets the report, unless it nests deeper
than is read or written.
-/
theorem signatures_survive_the_wire (s : Signer) {now : Int} (hnow : Json.isShort now = true) :
    (∀ (jobId datasetUrl callbackUrl : Text) (params : Json), jobId.isEncodable = true → datasetUrl.isEncodable = true →
      callbackUrl.isEncodable = true → params.isEncodable = true → params.hasShortIntegers = true →
      params.hasDistinctKeys = true →
      ∃ signed, (∀ maxDepth, (Signer.jobPayload jobId datasetUrl params callbackUrl).depth < maxDepth →
          s.signJob jobId datasetUrl params callbackUrl now maxDepth = .ok signed) ∧ signed.timestamp = now ∧
        ∀ (worker : WorkerAddress) (r : SentRequest), worker.request signed = .ok r → r.Brings s signed) ∧
    (∀ (url : Text) (report : Json) (maxDepth : Nat) (r : SentRequest), report.hasShortIntegers = true →
      report.hasDistinctKeys = true → Rehearsal.delivery s url report now maxDepth = .ok r →
      ∃ signed, s.sign report now maxDepth = .ok signed ∧ r.Brings s signed ∧
        ∃ bytes, Utf8.encode? r.body = some bytes ∧
          ∀ nesting : Nesting, nesting.Holds report.depth → ∀ clock, (clock - now).natAbs ≤ s.tolerance →
            Webhook.authenticate s (some r.signature) (some (Json.intShown r.timestamp)) bytes clock nesting
              = .ok report) := by
  constructor
  · intro jobId datasetUrl callbackUrl params hid hdataset hcallback hparams hshort hdistinct
    have hencodable : (Signer.jobPayload jobId datasetUrl params callbackUrl).isEncodable = true := by
      rw [Signer.isEncodable_jobPayload, hid, hdataset, hparams, hcallback]
      rfl
    obtain ⟨signed, htime, -, hsign⟩ := s.exists_sign hencodable now
    refine ⟨signed, hsign, htime, ?_⟩
    intro worker r hsent
    refine SentRequest.brings_of_sign (hsign _ (Nat.lt_succ_self _)) ?_ ?_ hnow hsent
    · rw [Json.hasShortIntegers, Signer.every_jobPayload rfl fun _ => rfl]
      exact hshort
    · rw [Json.hasDistinctKeys, Signer.every_jobPayload (Signer.repeatsNoKey_jobPayload ..) fun _ => rfl]
      exact hdistinct
  · intro url report maxDepth r hshort hdistinct hdelivery
    obtain ⟨signed, hsign, hsent⟩ := Rehearsal.delivery_eq_ok.mp hdelivery
    have hbrings := SentRequest.brings_of_sign hsign hshort hdistinct hnow hsent
    refine ⟨signed, hsign, hbrings, ?_⟩
    obtain ⟨bytes, hbytes, hread⟩ := hbrings.payload
    obtain ⟨url', -, rfl⟩ := map_eq_ok.mp hsent
    obtain ⟨message, hmessage, rfl⟩ := Signer.exists_of_sign_eq_ok hsign
    refine ⟨bytes, hbytes, ?_⟩
    intro nesting hholds clock hclose
    exact Webhook.authenticate_eq_ok hsign hnow (hread _ hholds.1) hholds.2 hclose

/-- Parameters with text beyond ASCII, a line break, floats and a list. -/
def Training.sampleParams : Json :=
  .ofFields [("触发\n词", .string "樱\"花"), ("rate", .float (.ofDecimal false 1 (-4))), ("bound", .float (.infinite true)),
    ("steps", .array [.int (-10), .null, .bool true])]

/-- A job reaches the worker, and the report on it comes back. -/
theorem job_and_report_arrive :
    (∃ signed r, Signer.sample.signJob "job" "data" Training.sampleParams "back" 7 = .ok signed ∧
      (WorkerAddress.mk "http://worker/train" (.int 30)).request signed = .ok r ∧
      r.Brings Signer.sample signed) ∧
    ∃ r bytes, Rehearsal.delivery Signer.sample "http://studio/hook"
        (Rehearsal.processingReport (.string "job")) 7 = .ok r ∧ Utf8.encode? r.body = some bytes ∧
      Webhook.authenticate Signer.sample (some r.signature) (some (Json.intShown r.timestamp))
        bytes 9 = .ok (Rehearsal.processingReport (.string "job")) := by
  have hboth := @signatures_survive_the_wire Signer.sample 7 rfl
  constructor
  · obtain ⟨url, hurl⟩ : ∃ url, Url.ofText "http://worker/train" = .ok url := ⟨_, rfl⟩
    obtain ⟨signed, hsign, -, harrives⟩ := hboth.1 "job" "data" "back" Training.sampleParams rfl rfl rfl rfl rfl rfl
    obtain ⟨r, hsent⟩ := SentRequest.exists_ofSigned hurl signed
    exact ⟨signed, r, hsign Nesting.signedDepth (by decide), hsent, harrives ⟨_, .int 30⟩ r hsent⟩
  · obtain ⟨url, hurl⟩ : ∃ url, Url.ofText "http://studio/hook" = .ok url := ⟨_, rfl⟩
    obtain ⟨signed, -, -, hsign⟩ := Signer.sample.exists_sign
      (show (Rehearsal.processingReport (.string "job")).isEncodable = true from rfl) 7
    obtain ⟨r, hsent⟩ := SentRequest.exists_ofSigned hurl signed
    have hdelivery := Rehearsal.delivery_eq_ok.mpr ⟨_, hsign Nesting.signedDepth (by decide), hsent⟩
    obtain ⟨-, -, -, bytes, hbytes, hauthentic⟩ := hboth.2 _ _ _ r rfl rfl hdelivery
    exact ⟨r, bytes, hdelivery, hbytes, hauthentic .usual ⟨by decide, by decide⟩ 9 (by decide)⟩

end PromptStudio
