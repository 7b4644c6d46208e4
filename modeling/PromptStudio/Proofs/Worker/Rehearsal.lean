import PromptStudio.Proofs.Json.Read
import PromptStudio.Proofs.Signing.Wire
import PromptStudio.Proofs.Training.Acceptance
import PromptStudio.Proofs.Training.Stored
import PromptStudio.Proofs.Validation.Written

/-!
# What the rehearsal worker does

Two programs that were written apart have to agree on what is signed, on the names of members and on what may stand in
them. Each side is taken by itself here. The rehearsal worker takes every job that is signed with its secret, names its
id and says where to report. What it reports is believed by whoever has the secret, and reads as the webhook that it is
meant to be.
-/

namespace PromptStudio

/-! ### Who carries a request -/

/-- A request that arrives as it was sent: under the headers of its signature, with the bytes of its body. -/
structure SentRequest.CarriedBy (r : SentRequest) (h : HttpRequest) : Prop where
  signature : h.header? "x-signature" = some (Text.ofString r.signature)
  timestamp : h.header? "x-timestamp" = some (Json.intShown r.timestamp)
  body : Utf8.encode? r.body = some h.body

def Rehearsal.reportDepth : Nat := 2

/-- A request whose body is authentic under its headers while the clock is close to its time, and reads as a report. -/
def SentRequest.Reports (r : SentRequest) (s : Signer) (w : Webhook) : Prop :=
  ∃ bytes message, Utf8.encode? r.body = some bytes ∧ Webhook.reader message = .valid w ∧
    ∀ (clock : Int) (nesting : Nesting), (clock - r.timestamp).natAbs ≤ s.tolerance →
      nesting.Holds Rehearsal.reportDepth →
      Webhook.authenticate s (some r.signature) (some (Json.intShown r.timestamp)) bytes clock nesting = .ok message

theorem SentRequest.ofSigned_of_url {address : Text} {url : Url} (h : Url.ofText address = .ok url) (payload : Json)
    (signature : String) (timestamp : Int) :
    ofSigned address payload signature timestamp
      = .ok ⟨url.sent, Json.render .spaced payload, signature, timestamp, "application/json"⟩ := by
  rw [ofSigned, h]
  rfl

/-! ### Messages of a report -/

/-- A message that a report is read from, whoever it is sent to. -/
structure Webhook.StandsIn (w : Webhook) (message : Json) : Prop where
  encodable : message.isEncodable = true
  fits : message.Fits (.lenient Rehearsal.reportDepth) 0
  reads : Webhook.reader message = .valid w

namespace Webhook.StandsIn

variable {w : Webhook} {message : Json}

theorem depth_le (h : w.StandsIn message) : message.depth ≤ Rehearsal.reportDepth := by
  have hdepth := h.fits.depth_le
  rwa [Nat.zero_add] at hdepth

/-- A message that is sent as it was signed is authentic to everyone who shares the secret and can check it. -/
theorem authentic (h : w.StandsIn message) {s : Signer} {timestamp : Int} {maxDepth : Nat} {signed : SignedPayload}
    (hsign : s.sign message timestamp maxDepth = .ok signed) (htime : Json.isShort timestamp = true) {bytes : Bytes}
    (hbytes : Utf8.encode? (Json.render .spaced message) = some bytes) {clock : Int}
    (hclose : (clock - timestamp).natAbs ≤ s.tolerance) {nesting : Nesting}
    (hholds : nesting.Holds Rehearsal.reportDepth) :
    Webhook.authenticate s (some signed.signature) (some (Json.intShown timestamp)) bytes clock nesting
      = .ok message := by
  have hread : Json.ofBytes bytes nesting.message = .ok message :=
    (h.fits.of_depth_le (Nat.le_trans h.depth_le hholds.1)).ofBytes_render rfl hbytes
  exact Webhook.authenticate_eq_ok hsign htime hread (Nat.lt_of_le_of_lt h.depth_le hholds.2) hclose

theorem exists_delivery (h : w.StandsIn message) {stub service : Signer} (hsecret : stub.secret = service.secret)
    {address : Text} {url : Url} (hurl : Url.ofText address = .ok url) {now : Int} (hnow : Json.isShort now = true) :
    ∃ r, (∀ maxDepth > Rehearsal.reportDepth, Rehearsal.delivery stub address message now maxDepth = .ok r) ∧
      r.url = url.sent ∧ r.timestamp = now ∧ r.Reports service w := by
  obtain ⟨signed, rfl, hpayload, hsign⟩ := service.exists_sign h.encodable now
  obtain ⟨bytes, hbytes⟩ := Json.exists_encode?_render .spaced rfl h.encodable
  refine ⟨⟨url.sent, Json.render .spaced message, signed.signature, signed.timestamp, "application/json"⟩, ?_, rfl, rfl,
    bytes, message, hbytes, h.reads, ?_⟩
  · intro maxDepth hdepth
    have hstub : stub.sign message signed.timestamp maxDepth = .ok signed := by
      rw [Signer.sign_of_same_secret hsecret]
      exact hsign maxDepth (Nat.lt_of_le_of_lt h.depth_le hdepth)
    refine Rehearsal.delivery_eq_ok.mpr ⟨signed, hstub, ?_⟩
    rw [SentRequest.ofSigned_of_url hurl, hpayload]
  · intro clock nesting hclose hholds
    exact h.authentic (hsign _ (Nat.lt_succ_self _)) hnow hbytes hclose hholds

theorem verified (h : w.StandsIn message) : w.Verified := by
  obtain ⟨signed, -, -, hsign⟩ := Signer.exists_sign ⟨[], 0⟩ h.encodable 0
  obtain ⟨bytes, hbytes⟩ := Json.exists_encode?_render .spaced rfl h.encodable
  have hclose : ((0 - 0 : Int).natAbs : Int) ≤ 0 := Int.le_refl 0
  have hholds : Nesting.usual.Holds Rehearsal.reportDepth := ⟨by decide, by decide⟩
  exact ⟨_, _, _, bytes, 0, .usual, message, h.authentic (hsign _ (Nat.lt_succ_self _)) rfl hbytes hclose hholds,
    h.reads⟩

end Webhook.StandsIn

namespace Rehearsal

/-! ### Jobs that are taken -/

def acceptance (job : Accepted) : Answer :=
  ⟨200, some (.ofFields [("externalJobId", .string job.externalId)]), some job⟩

/-- However a request arrives, and whenever, as long as the clock is close to its time and there is room for what is in
it: the job is taken. -/
def Takes (stub : Signer) (request : SentRequest) (depth : Nat) (job : Accepted) : Prop :=
  ∀ (h : HttpRequest) (clock : Int) (nesting : Nesting), request.CarriedBy h →
    (clock - request.timestamp).natAbs ≤ stub.tolerance → nesting.Holds depth →
    train stub h clock nesting = acceptance job

/-- A request that is signed is looked at, if its payload is read back. -/
theorem train_eq_accept {stub : Signer} {payload : Json} {timestamp : Int} {maxDepth : Nat} {signed : SignedPayload}
    (hsign : stub.sign payload timestamp maxDepth = .ok signed) {nesting : Nesting}
    (hfits : payload.Fits (.lenient nesting.message) 0) (hdepth : payload.depth < nesting.checked)
    (htime : Json.isShort timestamp = true) {address : Text} {r : SentRequest}
    (hsent : SentRequest.ofSigned address signed.payload signed.signature signed.timestamp = .ok r) {h : HttpRequest}
    (hcarried : r.CarriedBy h) {now : Int} (hclose : (now - r.timestamp).natAbs ≤ stub.tolerance) :
    train stub h now nesting = accept payload := by
  have hsignature := Signer.signature_ne_nil hsign
  have hheader := Integer.ofChars?_intShown htime
  have hgood := @Signer.verify_sign stub payload timestamp maxDepth signed hsign
  obtain ⟨url, -, rfl⟩ := map_eq_ok.mp hsent
  obtain ⟨_, -, rfl⟩ := Signer.exists_of_sign_eq_ok hsign
  obtain ⟨hsigned, htimed, hbody⟩ := hcarried
  have hread : Json.ofBytes h.body nesting.message = .ok payload := hfits.ofBytes_render rfl hbody
  rw [train, hsigned, htimed, filter_isEmpty_of_ne_nil hsignature,
    filter_isEmpty_of_ne_nil (Integer.intShown_ne_nil timestamp)]
  simp only [hheader, hread, hgood hclose hdepth]

theorem accept_jobPayload {jobId callbackUrl : Text} (hid : jobId ≠ []) (hcallback : callbackUrl ≠ [])
    (datasetUrl : Text) (params : Json) :
    accept (Signer.jobPayload jobId datasetUrl params callbackUrl)
      = acceptance ⟨.string jobId, .string callbackUrl, externalId 1⟩ := by
  have hjobId : (Signer.jobPayload jobId datasetUrl params callbackUrl).get? "jobId" = some (.string jobId) :=
    Json.get?_ofFields _ _
  have hcallbackUrl : (Signer.jobPayload jobId datasetUrl params callbackUrl).get? "callbackUrl"
      = some (.string callbackUrl) :=
    Json.get?_ofFields _ _
  have htruthy : ((Json.string jobId).isTruthy && (Json.string callbackUrl).isTruthy) = true := by
    rw [Json.isTruthy, Json.isTruthy, List.isEmpty_eq_false_iff.mpr hid, List.isEmpty_eq_false_iff.mpr hcallback]
    rfl
  rw [accept, hjobId, hcallbackUrl]
  dsimp only
  rw [if_pos htruthy]
  rfl

/-! ### The reply -/

/-- A reply that brings an answer: its status, and its body as compact JSON. -/
structure Answer.SentAs (a : Answer) (reply : Reply) : Prop where
  status : reply.status = a.status
  body : ∃ v, a.body = some v ∧ Utf8.encode? (Json.render .compact v) = some reply.body

theorem acceptance_of_sentAs {job : Accepted} {reply : Reply} (h : (acceptance job).SentAs reply)
    (hnamed : Text.ofString job.externalId ≠ []) {request : SentRequest} (habsolute : request.url.isAbsolute = true)
    (worker : WorkerAddress) {maxDepth : Nat} (hdepth : 0 < maxDepth) :
    worker.acceptance request (.ok reply) maxDepth = .ok (some (job.externalId : Text)) := by
  obtain ⟨v, hv, hbytes⟩ := h.body
  cases hv
  have hfits : (Json.ofFields [("externalJobId", .string job.externalId)]).Fits (.lenient maxDepth) 0 := by
    refine Json.Fits.ofFields (Nat.not_le.mpr hdepth) (List.nodup_singleton _) ?_
    exact List.forall_mem_singleton.mpr (Json.fits_string _ hdepth)
  have hread : Json.ofBytes reply.body maxDepth = .ok _ := hfits.ofBytes_render rfl hbytes
  have hsuccess : reply.isSuccess = true := by
    rw [Reply.isSuccess, h.status]
    rfl
  have hmember : (Json.ofFields [("externalJobId", .string job.externalId)]).get? "externalJobId"
      = some (.string job.externalId) :=
    Json.get?_ofFields _ _
  have htruthy : (Json.string job.externalId).isTruthy = true := by
    rw [Json.isTruthy, List.isEmpty_eq_false_iff.mpr hnamed]
    rfl
  rw [worker.acceptance_of_absolute reply maxDepth habsolute, WorkerAddress.accepted_of_isSuccess maxDepth hsuccess,
    hread]
  dsimp only
  rw [WorkerAddress.externalId?, hmember]
  dsimp only
  rw [if_pos htruthy]
  rfl

/-! ### The reports -/

def folder (jobId base : Text) : Text :=
  withoutTrailingSlashes base ++ "/artifacts/" ++ jobId

def artifactUrl (jobId base : Text) : Text :=
  folder jobId base ++ "/lora.safetensors"

/-- The webhook that the report of a completed job is meant to be. -/
def completion (jobId externalId base : Text) (checksum : String) : Webhook where
  jobId
  status := .completed
  logsUrl := some (withoutTrailingSlashes base ++ "/logs/" ++ externalId ++ ".txt")
  error := none
  artifactUrl := some (artifactUrl jobId base)
  checksum := some checksum
  previewImages := some ([1, 2, 3].map fun n => folder jobId base ++ "/preview_" ++ Nat.repr n ++ ".png")

/-- Whenever a job is reported, two requests go out, whatever is answered to the first, and each is a report to the
service. -/
def ReportsTwice (stub service : Signer) (base : Text) (job : Accepted) (w w' : Webhook) : Prop :=
  ∀ now, Json.isShort now = true → ∃ first second, first.Reports service w ∧ second.Reports service w' ∧
    ∀ (answers : List Reply) (nesting : Nesting), reportDepth < nesting.signed →
      reports stub base job (answers.map .ok) now nesting = [first, second]

theorem standsIn_processingReport {jobId : Text} (hencodable : jobId.isEncodable = true) (hne : jobId ≠ []) :
    (Webhook.bare jobId .processing).StandsIn (processingReport (.string jobId)) where
  encodable := by
    rw [processingReport, Json.isEncodable_ofFields, List.all_cons]
    change (jobId.isEncodable && _) = true
    rw [hencodable]
    rfl
  fits := by
    have hnames : ["jobId", "status"].Nodup := by decide
    refine Json.Fits.ofFields (by decide) hnames ?_
    intro f hf
    rcases List.mem_pair.mp hf with rfl | rfl
    · exact Json.fits_string _ (by decide)
    · exact Json.fits_string _ (by decide)
  reads := by
    have hid := Schema.identifier_string hencodable hne
    have hstatus : Schema.word WebhookStatus.ofName? .literal (.string "processing") = .valid .processing := rfl
    rw [Webhook.reader, processingReport, Schema.record_ofFields]
    simp only [Schema.field, Webhook.optional]
    rw [Schema.fieldOf_of_named rfl hid, Schema.fieldOf_of_named rfl hstatus, Schema.fieldOf_of_unnamed rfl,
      Schema.fieldOf_of_unnamed rfl, Schema.fieldOf_of_unnamed rfl, Schema.fieldOf_of_unnamed rfl,
      Schema.fieldOf_of_unnamed rfl]
    rfl

theorem standsIn_completed {jobId logs artifact digest : Text} {images : List Text}
    (hjobId : jobId.isEncodable = true) (hne : jobId ≠ []) (hlogs : logs.isEncodable = true)
    (hartifact : artifact.isEncodable = true) (hdigest : digest.isEncodable = true)
    (himages : images.all Text.isEncodable = true) :
    Webhook.StandsIn ⟨jobId, .completed, some logs, none, some artifact, some digest, some images⟩
      (.ofFields [("jobId", .string jobId), ("status", .string "completed"), ("logsUrl", .string logs),
        ("artifactUrl", .string artifact), ("checksum", .string digest), ("previewImages", .ofTexts images)]) where
  encodable := by
    have hstring {t : Text} (ht : t.isEncodable = true) : (Json.string t).isEncodable = true := ht
    rw [Json.isEncodable_ofFields]
    simp only [List.all_cons, List.all_nil, hstring hjobId, hstring hlogs, hstring hartifact, hstring hdigest,
      hstring (Text.isEncodable_ofString "completed"), Json.isEncodable_ofTexts, himages, Bool.and_true]
  fits := by
    have hnames : ["jobId", "status", "logsUrl", "artifactUrl", "checksum", "previewImages"].Nodup := by decide
    refine Json.Fits.ofFields (by decide) hnames ?_
    have htext (t : Text) : (Json.string t).Fits (.lenient reportDepth) 1 := Json.fits_string t (by decide)
    have htexts : (Json.ofTexts images).Fits (.lenient reportDepth) 1 := Json.fits_ofTexts images (by decide)
    simp only [List.forall_mem_cons, htext, htexts, true_and]
    exact List.forall_mem_nil _
  reads := by
    have hid := Schema.identifier_string hjobId hne
    have hstatus : Schema.word WebhookStatus.ofName? .literal (.string "completed") = .valid .completed := rfl
    have htext (t : Text) : Schema.nullable Schema.text (.string t) = .valid (some t) := rfl
    have hlist : Schema.nullable (Schema.list Schema.text) (.ofTexts images) = .valid (some images) := by
      change (Schema.list Schema.text (.ofTexts images)).map some = _
      rw [Schema.list_text_ofTexts]
      rfl
    rw [Webhook.reader, Schema.record_ofFields]
    simp only [Schema.field, Webhook.optional]
    rw [Schema.fieldOf_of_named rfl hid, Schema.fieldOf_of_named rfl hstatus, Schema.fieldOf_of_named rfl (htext logs),
      Schema.fieldOf_of_unnamed rfl, Schema.fieldOf_of_named rfl (htext artifact),
      Schema.fieldOf_of_named rfl (htext digest), Schema.fieldOf_of_named rfl hlist]
    rfl

theorem isEncodable_withoutTrailingSlashes {t : Text} (h : t.isEncodable = true) :
    (withoutTrailingSlashes t).isEncodable = true := by
  rw [Text.isEncodable, List.all_eq_true] at h ⊢
  intro p hp
  rw [withoutTrailingSlashes, Blank.dropTail, List.mem_reverse] at hp
  exact h p (List.mem_reverse.mp ((List.dropWhile_sublist _).subset hp))

theorem exists_completionReport {jobId externalId base : Text} (hjobId : jobId.isEncodable = true) (hne : jobId ≠ [])
    (hexternalId : externalId.isEncodable = true) (hbase : base.isEncodable = true) :
    ∃ digest message, checksum (artifactUrl jobId base) = .ok digest ∧
      completionReport (.string jobId) externalId base = .ok message ∧
      (completion jobId externalId base digest).StandsIn message := by
  have hroot := isEncodable_withoutTrailingSlashes hbase
  have hjoin {s t : Text} (hs : s.isEncodable = true) (ht : t.isEncodable = true) : (s ++ t).isEncodable = true := by
    rw [Text.isEncodable_append, hs, ht]
    rfl
  have hfixed := Text.isEncodable_ofString
  have hfolder : (folder jobId base).isEncodable = true := hjoin (hjoin hroot (hfixed _)) hjobId
  have hartifact : (artifactUrl jobId base).isEncodable = true := hjoin hfolder (hfixed _)
  obtain ⟨digest, hdigest⟩ : ∃ digest, checksum (artifactUrl jobId base) = .ok digest := by
    have hbytes := hartifact
    rw [← Utf8.isSome_encode?] at hbytes
    obtain ⟨bytes, hbytes⟩ := Option.isSome_iff_exists.mp hbytes
    rw [checksum, hbytes]
    exact ⟨_, rfl⟩
  refine ⟨digest, _, hdigest, map_eq_ok.mpr ⟨digest, bind_eq_ok.mpr ⟨digest, hdigest, rfl⟩, rfl⟩, ?_⟩
  refine standsIn_completed hjobId hne (hjoin (hjoin (hjoin hroot (hfixed _)) hexternalId) (hfixed _)) hartifact
    (hfixed _) ?_
  rw [List.all_map, List.all_eq_true]
  intro n _
  exact hjoin (hjoin (hjoin hfolder (hfixed _)) (hfixed _)) (hfixed _)

theorem reports_eq {stub : Signer} {base : Text} {jobId : Json} {callbackUrl : Text} {externalId : String} {now : Int}
    {nesting : Nesting} {first second : SentRequest} {message : Json}
    (hfirst : delivery stub callbackUrl (processingReport jobId) now nesting.signed = .ok first)
    (hmessage : completionReport jobId externalId base = .ok message)
    (hsecond : delivery stub callbackUrl message now nesting.signed = .ok second)
    (habsolute : first.url.isAbsolute = true) (answers : List Reply) :
    reports stub base ⟨jobId, .string callbackUrl, externalId⟩ (answers.map .ok) now nesting = [first, second] := by
  have hreceived : ∃ answer, first.receive ((answers.map Except.ok).headD (.ok .quiet)) = .ok (.ok answer) := by
    cases answers with
    | nil => exact ⟨_, SentRequest.receive_of_absolute habsolute _⟩
    | cons answer _ => exact ⟨_, SentRequest.receive_of_absolute habsolute answer⟩
  obtain ⟨answer, hanswer⟩ := hreceived
  rw [reports]
  dsimp only
  rw [hfirst]
  dsimp only
  rw [hanswer]
  dsimp only
  rw [hmessage]
  change [first] ++ (delivery stub callbackUrl message now nesting.signed).toOption.toList = _
  rw [hsecond]
  rfl

end Rehearsal

end PromptStudio
