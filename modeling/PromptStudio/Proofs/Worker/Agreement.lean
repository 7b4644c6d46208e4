import PromptStudio.Proofs.Training.Dispatchable
import PromptStudio.Proofs.Worker.Race
import PromptStudio.Proofs.Worker.Rehearsal

/-!
# The service and the rehearsal worker agree

The service sends a job, the worker takes it, and the worker reports. What each of them writes is what the other one
reads, so the two programs can be joined: the request is taken, both reports are believed and read, and however the
reply and the reports come in, the job ends completed, under the id of the worker and with the artifact that was
reported. The join needs the same secret on both sides and addresses that lead somewhere, and nothing else.
-/

namespace PromptStudio

/-- A service and a rehearsal worker that can reach each other and share a secret. -/
structure Rehearsal.Paired (k : Studio) (c : Context) (worker : WorkerAddress) (service stub : Signer) : Prop where
  secured : (k.getSigner c.settings).1 = .ok service
  shared : stub.secret = service.secret
  configured : worker.isConfigured = true
  reached : ∃ url, Url.ofText worker.url = .ok url ∧ url.sent.isAbsolute = true
  calledBack : ∃ url, Url.ofText c.settings.webhookCallbackUrl = .ok url ∧ url.sent.isAbsolute = true
  timed : Json.isShort c.now.toMillis = true

/-- The job as the rehearsal worker takes it, as number `draw`. -/
def JobAnswer.taken (found : JobAnswer) (c : Context) (draw : Nat) : Rehearsal.Accepted :=
  ⟨.string found.job.id, .string c.settings.webhookCallbackUrl, Rehearsal.externalId draw⟩

/-! ### The request -/

theorem Studio.signer_getSigner {k : Studio} {settings : Settings} {signer : Signer}
    (h : (k.getSigner settings).1 = .ok signer) : (k.getSigner settings).2.signer = some signer := by
  rw [getSigner] at h ⊢
  split at h
  · rename_i kept hkept
    cases h
    exact hkept
  · split at h
    · cases h
    · cases h
      rfl

theorem Dispatching.exists_send {k : Studio} {c : Context} {worker : WorkerAddress} {service stub : Signer}
    (hpaired : Rehearsal.Paired k c worker service stub) {found : JobAnswer} {dataset : Dataset}
    (hdepth : (found.payload dataset c).depth < c.settings.nesting.signed)
    (hpayload : (found.payload dataset c).isEncodable = true) :
    ∃ signed request, service.sign (found.payload dataset c) c.now.toMillis c.settings.nesting.signed = .ok signed ∧
      SentRequest.ofSigned worker.url signed.payload signed.signature signed.timestamp = .ok request ∧
      request.url.isAbsolute = true ∧
      send k c worker found dataset = ((k.getSigner c.settings).2, .asked found.job.id worker request) := by
  obtain ⟨url, hurl, habsolute⟩ := hpaired.reached
  obtain ⟨signed, hsign⟩ := (service.exists_sign_iff (found.payload dataset c) c.now.toMillis
    c.settings.nesting.signed).mpr ⟨hdepth, hpayload⟩
  have hsent := SentRequest.ofSigned_of_url hurl signed.payload signed.signature signed.timestamp
  refine ⟨signed, _, hsign, hsent, habsolute, ?_⟩
  have hsigned : ((k.getSigner c.settings).1.bind fun s =>
      s.signTraining found.job found.version dataset c.settings.webhookCallbackUrl c.now c.settings.nesting.signed)
        = .ok signed := by
    rw [hpaired.secured]
    exact hsign
  rw [send, hpaired.configured]
  simp only [Bool.not_true, Bool.false_eq_true, if_false, hsigned, WorkerAddress.request, hsent]

/-- What the step that sends leaves: the request is under way, the signer is made, and no row has changed. -/
theorem Traffic.step_send {σ : Traffic} {place : Nat} {found : JobAnswer} {dataset : Dataset}
    (hplace : σ.dispatches[place]? = some (.ready found dataset)) {c : Context} {worker : WorkerAddress}
    {request : SentRequest} (hsend : Dispatching.send σ.studio c worker found dataset
      = ((σ.studio.getSigner c.settings).2, .asked found.job.id worker request)) :
    (σ.step (.dispatch place (.send c worker))).dispatches[place]? = some (.asked found.job.id worker request) ∧
      (σ.step (.dispatch place (.send c worker))).studio = (σ.studio.getSigner c.settings).2 := by
  have hadvance : Dispatching.advance σ.studio (.ready found dataset) (.send c worker)
      = Dispatching.send σ.studio c worker found dataset := rfl
  rw [σ.getElem?_step_dispatch hplace, σ.step_dispatch hplace, hadvance, hsend]
  exact ⟨rfl, rfl⟩

theorem JobAnswer.exists_fits_payload {found : JobAnswer} (hparams : found.version.sentParams.IsParams)
    (dataset : Dataset) (c : Context) : ∃ maxDepth, (found.payload dataset c).Fits (.lenient maxDepth) 0 := by
  obtain ⟨maxDepth, hfits⟩ := hparams.fits
  have hroom : 1 ≤ maxDepth := Nat.le_trans (Nat.le_add_right ..) hfits.depth_le
  have hnames : ["jobId", "datasetUrl", "params", "callbackUrl"].Nodup := by decide
  have htext (t : Text) : (Json.string t).Fits (.lenient maxDepth) 1 := Json.fits_string t hroom
  refine ⟨maxDepth, Json.Fits.ofFields (Nat.not_le.mpr hroom) hnames ?_⟩
  simp only [List.forall_mem_cons, htext, hfits, true_and]
  exact List.forall_mem_nil _

theorem Settings.webhookCallbackUrl_ne_nil (s : Settings) : s.webhookCallbackUrl ≠ [] :=
  List.append_ne_nil_of_right_ne_nil _ (by decide)

theorem Settings.isEncodable_webhookCallbackUrl (s : Settings) : s.webhookCallbackUrl.isEncodable = true := by
  rw [webhookCallbackUrl, Text.isEncodable_append,
    Rehearsal.isEncodable_withoutTrailingSlashes (Text.isEncodable_ofString _), Text.isEncodable_ofString]
  rfl

/-! ### The reports -/

namespace Rehearsal

theorem ofString_externalId_ne_nil (draw : Nat) : Text.ofString (externalId draw) ≠ [] := by
  rw [Text.ofString, externalId, String.toList_append, List.map_append]
  exact List.append_ne_nil_of_left_ne_nil (by decide) _

theorem artifact?_completion (jobId externalId base : Text) (digest : String) :
    (completion jobId externalId base digest).artifact? = some (artifactUrl jobId base) := by
  have hne : artifactUrl jobId base ≠ [] := List.append_ne_nil_of_right_ne_nil _ (by decide)
  exact filter_isEmpty_of_ne_nil hne

theorem reportsTwice {stub service : Signer} (hsecret : stub.secret = service.secret) {address : Text} {url : Url}
    (hurl : Url.ofText address = .ok url) (habsolute : url.sent.isAbsolute = true) {jobId base : Text}
    {externalId : String} {message : Json} {w w' : Webhook} (hfirst : w.StandsIn (processingReport (.string jobId)))
    (hmessage : completionReport (.string jobId) externalId base = .ok message) (hsecond : w'.StandsIn message) :
    ReportsTwice stub service base ⟨.string jobId, .string address, externalId⟩ w w' := by
  intro now hnow
  obtain ⟨first, hsent, hsame, -, hreports⟩ := hfirst.exists_delivery hsecret hurl hnow
  obtain ⟨second, hsent', -, -, hreports'⟩ := hsecond.exists_delivery hsecret hurl hnow
  rw [← hsame] at habsolute
  exact ⟨first, second, hreports, hreports', fun answers nesting hdepth =>
    reports_eq (hsent _ hdepth) hmessage (hsent' _ hdepth) habsolute answers⟩

end Rehearsal

/-! ### The job -/

/-- A stored job that waits for a worker, with its version. -/
structure Studio.Awaits (k : Studio) (found : JobAnswer) : Prop where
  sound : k.JobsSound
  job : k.store.job? found.job.id = some found.job
  version : k.store.version? found.job.versionId = some found.version
  loads : found.job.load = .ok found.job
  pending : found.job.status = .pending
  unnamed : found.job.externalId = none
  untrained : found.version.artifactUrl = none
  sent : found.version.sentParams.IsParams

namespace Studio.Awaits

variable {k : Studio} {found : JobAnswer}

/-- In a run in which parameters came in by requests, a pending job without an id of a worker waits for one. -/
theorem of_run {happenings : List Happening} (hposted : ∀ e ∈ happenings, e.Posted)
    (hstudio : k = (Activity.start.run happenings).studio) (hjob : k.store.job? found.job.id = some found.job)
    (hversion : k.store.version? found.job.versionId = some found.version) (hpending : found.job.status = .pending)
    (hunnamed : found.job.externalId = none) : k.Awaits found := by
  subst hstudio
  have hkept := Activity.kept_run happenings
  have hopen : found.job.status.isTerminal = false := by
    rw [hpending]
    rfl
  exact
    { sound := hkept.sound.jobs
      job := hjob
      version := hversion
      loads := Activity.jobsLoad_run happenings _ (Store.mem_of_job? hjob)
      pending := hpending
      unnamed := hunnamed
      untrained := hkept.sound.jobs.artifactUrl_eq_none hkept.tracked hjob hopen hversion
      sent := (Activity.posts_run hposted).versions _ _ hversion }

theorem isEncodable_id (h : k.Awaits found) : found.job.id.isEncodable = true :=
  h.sound.jobIds.isEncodable (List.mem_map_of_mem (Store.mem_of_job? h.job))

theorem id_ne_nil (h : k.Awaits found) : found.job.id ≠ [] :=
  h.sound.jobIds.ne_nil (List.mem_map_of_mem (Store.mem_of_job? h.job))

theorem isEncodable_payload (h : k.Awaits found) (hparams : found.version.sentParams.isEncodable = true)
    {dataset : Dataset} (hdataset : (dataset.url.getD []).isEncodable = true) (c : Context) :
    (found.payload dataset c).isEncodable = true := by
  rw [JobAnswer.payload, Signer.isEncodable_jobPayload, h.isEncodable_id, hdataset, hparams,
    c.settings.isEncodable_webhookCallbackUrl]
  rfl

/-- A job that waits is completed by what a rehearsal worker answers and reports, in whatever order it comes. -/
theorem converges (h : k.Awaits found) {τ : Traffic} (hstore : τ.studio.store = k.store) {place : Nat}
    {worker : WorkerAddress} {request : SentRequest}
    (hplace : τ.dispatches[place]? = some (.asked found.job.id worker request))
    (habsolute : request.url.isAbsolute = true) {c : Context} {draw : Nat} {base digest : String} {message : Json}
    (hmessage : (Rehearsal.completion found.job.id (Rehearsal.externalId draw) base digest).StandsIn message)
    {reply : Reply} (hreply : (Rehearsal.acceptance (found.taken c draw)).SentAs reply) :
    τ.Converges place reply
      [.bare found.job.id .processing, Rehearsal.completion found.job.id (Rehearsal.externalId draw) base digest]
      (Rehearsal.completion found.job.id (Rehearsal.externalId draw) base digest)
      (k.store.CompletedBy found.job found.version (Rehearsal.externalId draw)
        (Rehearsal.completion found.job.id (Rehearsal.externalId draw) base digest)
        (Rehearsal.artifactUrl found.job.id base)) :=
  let r : Race :=
    { store := k.store, job := found.job, version := found.version, worker, request, reply
      externalId := Rehearsal.externalId draw
      completion := Rehearsal.completion found.job.id (Rehearsal.externalId draw) base digest
      url := Rehearsal.artifactUrl found.job.id base
      jobIds := h.sound.jobIds.distinct
      versionIds := h.sound.versionIds.distinct
      hasJob := h.job
      loads := h.loads
      bindable := if_pos h.isEncodable_id
      hasVersion := h.version
      pending := h.pending
      unnamed := h.unnamed
      untrained := h.untrained
      accepted := fun _ hdepth =>
        Rehearsal.acceptance_of_sentAs hreply (Rehearsal.ofString_externalId_ne_nil draw) habsolute worker hdepth
      writable := Text.isEncodable_ofString _
      processed := (Rehearsal.standsIn_processingReport h.isEncodable_id h.id_ne_nil).verified
      completed := hmessage.verified
      about := rfl
      artifact := Rehearsal.artifact?_completion _ _ _ _
      faultless := rfl
      logged := rfl }
  r.converges hstore hplace

end Studio.Awaits

/-! ### The join -/

/--
The service and the rehearsal worker agree, in any order of delivery. A pending job of a reachable store, without an id
of a worker, with texts that have bytes and no deeper than what the service can sign, is sent, and the worker takes it,
if it can go as deep. Whatever id it draws, both of its reports
are believed by the service and read; and however the reply and the two reports come in, the job ends completed, without
an error, with the worker's id and the logs of the completion, its version has the artifact, the checksum and the
preview images of the completion, and nothing else in the store has changed.
-/
theorem service_and_rehearsal_worker_agree {happenings : List Happening} (hposted : ∀ e ∈ happenings, e.Posted)
    {σ : Traffic} (hstudio : σ.studio = (Activity.start.run happenings).studio) {place : Nat} {found : JobAnswer}
    {dataset : Dataset} (hplace : σ.dispatches[place]? = some (.ready found dataset))
    (hjob : σ.studio.store.job? found.job.id = some found.job)
    (hversion : σ.studio.store.version? found.job.versionId = some found.version)
    (hpending : found.job.status = .pending) (hunnamed : found.job.externalId = none)
    (hparams : found.version.sentParams.isEncodable = true) (hdataset : (dataset.url.getD []).isEncodable = true)
    {c : Context} (hdepth : (found.payload dataset c).depth < c.settings.nesting.signed) {worker : WorkerAddress}
    {service stub : Signer} (hpaired : Rehearsal.Paired σ.studio c worker service stub) (base : String) :
    let τ := σ.step (.dispatch place (.send c worker))
    ∃ request, τ.dispatches[place]? = some (.asked found.job.id worker request) ∧ τ.studio.signer = some service ∧
      Rehearsal.Takes stub request (found.payload dataset c).depth (found.taken c 1) ∧
      ∀ draw, ∃ digest, Rehearsal.checksum (Rehearsal.artifactUrl found.job.id base) = .ok digest ∧
        let processing := Webhook.bare found.job.id .processing
        let completion := Rehearsal.completion found.job.id (Rehearsal.externalId draw) base digest
        Rehearsal.ReportsTwice stub service base (found.taken c draw) processing completion ∧
        ∀ reply, (Rehearsal.acceptance (found.taken c draw)).SentAs reply →
          τ.Converges place reply [processing, completion] completion
            (σ.studio.store.CompletedBy found.job found.version (Rehearsal.externalId draw) completion
              (Rehearsal.artifactUrl found.job.id base)) := by
  intro τ
  have hawaits := Studio.Awaits.of_run hposted hstudio hjob hversion hpending hunnamed
  obtain ⟨signed, request, hsign, hrequest, habsolute, hsend⟩ :=
    Dispatching.exists_send hpaired hdepth (hawaits.isEncodable_payload hparams hdataset c)
  obtain ⟨hasked, hstays⟩ := Traffic.step_send hplace hsend
  have hstore : τ.studio.store = σ.studio.store := by
    change (σ.step (.dispatch place (.send c worker))).studio.store = _
    rw [hstays]
    exact (Traffic.getSigner_store_issued _ _).1
  refine ⟨request, hasked, ?_, ?_, ?_⟩
  · change (σ.step (.dispatch place (.send c worker))).studio.signer = _
    rw [hstays]
    exact Studio.signer_getSigner hpaired.secured
  · intro h clock nesting hcarried hclose hholds
    have hstub : stub.sign (found.payload dataset c) c.now.toMillis c.settings.nesting.signed = .ok signed := by
      rw [Signer.sign_of_same_secret hpaired.shared, hsign]
    obtain ⟨_, hfits⟩ := JobAnswer.exists_fits_payload hawaits.sent dataset c
    rw [Rehearsal.train_eq_accept hstub (hfits.of_depth_le hholds.1) hholds.2 hpaired.timed hrequest hcarried hclose]
    exact Rehearsal.accept_jobPayload hawaits.id_ne_nil c.settings.webhookCallbackUrl_ne_nil _ _
  · intro draw
    obtain ⟨callback, hcallback, hreturns⟩ := hpaired.calledBack
    have hprocessing := Rehearsal.standsIn_processingReport hawaits.isEncodable_id hawaits.id_ne_nil
    obtain ⟨digest, message, hdigest, hmessage, hcompletion⟩ := Rehearsal.exists_completionReport hawaits.isEncodable_id
      hawaits.id_ne_nil (Text.isEncodable_ofString (Rehearsal.externalId draw)) (Text.isEncodable_ofString base)
    refine ⟨digest, hdigest, ?_, ?_⟩
    · exact Rehearsal.reportsTwice hpaired.shared hcallback hreturns hprocessing hmessage hcompletion
    · intro reply hreply
      exact hawaits.converges hstore hasked habsolute hcompletion hreply

/-! ### A first job -/

/-- Small settings with an address to report to. -/
def Context.addressed : Context :=
  { Context.small with settings := { Context.small.settings with publicBaseUrl := "http://studio" } }

def WorkerAddress.rehearsing : WorkerAddress :=
  ⟨"http://worker/train", .int 30⟩

def Event.firstDataset : List Event :=
  [.plain .small (.createModel "user" "Mia" none true), .plain .small (.initDataset "user" "model-1" 3),
    .plain .small (.validateDataset "dataset-1" "user")]

def Event.firstJob : List Event :=
  [.admission .small "user" "model-1" "dataset-1" "base" Training.sampleParams, .dispatch 0 (.insert .small)]

def Happening.firstJob : List Happening :=
  (Event.firstDataset ++ Event.firstJob).map .training

theorem Training.posted_sampleParams : Training.sampleParams.Posted := by
  let body : Json := .ofFields [("model_id", .string "model-1"), ("dataset_id", .string "dataset-1"),
    ("base_model", .string "base"), ("params", Training.sampleParams)]
  have hencodable : body.isEncodable = true := by decide +kernel
  obtain ⟨bytes, hbytes⟩ := Json.exists_encode?_render .compact rfl hencodable
  have hfits : body.Fits (.lenient Json.usualDepth) 0 := ⟨by decide +kernel, by decide +kernel⟩
  exact ⟨bytes, _, body, _, hfits.ofBytes_render rfl hbytes, rfl, rfl⟩

theorem Happening.posted_firstJob : ∀ e ∈ firstJob, e.Posted := by
  simp only [firstJob, Event.firstDataset, Event.firstJob, List.cons_append, List.nil_append, List.map_cons,
    List.map_nil, List.forall_mem_cons, Happening.Posted, Training.posted_sampleParams, true_and]
  exact List.forall_mem_nil _

theorem Traffic.exists_firstJob :
    ∃ (a : Admission) (k : Studio), a.params = Training.sampleParams ∧ (a.dataset.url.getD []).isEncodable = true ∧
      k.JobsSound ∧ k.signer = none ∧ k.issued.jobs = 0 ∧
      (Activity.start.run Happening.firstJob).traffic.studio = (a.insert k .small).2 ∧
      (Activity.start.run Happening.firstJob).traffic.dispatches[0]?
        = some (.ready (a.insert k .small).1 a.dataset) := by
  have hadmits : ((start.run Event.firstDataset).studio.admitJob .small "user" "model-1" "dataset-1"
      "base").toOption.map (fun found => (found.1.url.getD []).isEncodable) = some true := by decide +kernel
  have hsigner : (start.run Event.firstDataset).studio.signer = none := by decide +kernel
  have hissued : (start.run Event.firstDataset).studio.issued.jobs = 0 := by decide +kernel
  have hempty : (start.run Event.firstDataset).dispatches = [] :=
    List.eq_nil_of_length_eq_zero (by decide +kernel)
  have hrun : (Activity.start.run Happening.firstJob).traffic = ((start.run Event.firstDataset).step
      (.admission .small "user" "model-1" "dataset-1" "base" Training.sampleParams)).step
        (.dispatch 0 (.insert .small)) := by
    rw [Happening.firstJob, Activity.traffic_run_training, run_append, Event.firstJob, run, List.foldl_cons,
      List.foldl_cons, List.foldl_nil, Activity.start]
  obtain ⟨⟨dataset, hash⟩, hfound, hurl⟩ := Option.map_eq_some_iff.mp hadmits
  have hsound : (start.run Event.firstDataset).Sound := sound_start.run _
  generalize start.run Event.firstDataset = σ at *
  have hadmit : σ.studio.admitJob .small "user" "model-1" "dataset-1" "base" = .ok (dataset, hash) := by
    cases hresult : σ.studio.admitJob .small "user" "model-1" "dataset-1" "base" with
    | error failure =>
        rw [hresult] at hfound
        cases hfound
    | ok found =>
        rw [hresult] at hfound
        cases hfound
        rfl
  have hbegun : σ.step (.admission .small "user" "model-1" "dataset-1" "base" Training.sampleParams)
      = σ.begin (.admitted ⟨"model-1", dataset, hash, "base", Training.sampleParams⟩) := by
    rw [step, hadmit]
  have hplace : (σ.begin (.admitted ⟨"model-1", dataset, hash, "base", Training.sampleParams⟩)).dispatches[0]?
      = some (.admitted ⟨"model-1", dataset, hash, "base", Training.sampleParams⟩) := by
    rw [begin, hempty]
    rfl
  rw [hbegun] at hrun
  refine ⟨⟨"model-1", dataset, hash, "base", Training.sampleParams⟩, σ.studio, rfl, hurl, hsound.jobs, hsigner,
    hissued, ?_, ?_⟩
  · rw [hrun, step_dispatch _ hplace]
    rfl
  · rw [hrun]
    exact getElem?_step_dispatch _ hplace (.insert .small)

/-- The first job goes to the rehearsal worker and is completed by it. -/
theorem first_job_is_rehearsed :
    ∃ (found : JobAnswer) (request : SentRequest) (digest : String),
      found.job.id = "job-1" ∧ found.job.status = .pending ∧
      ((Activity.start.run Happening.firstJob).traffic.step
        (.dispatch 0 (.send .addressed .rehearsing))).dispatches[0]? = some (.asked "job-1" .rehearsing request) ∧
      Rehearsal.Takes ⟨[0x6B], 300000⟩ request 3 (found.taken .addressed 1) ∧
      ∀ reply, (Rehearsal.acceptance (found.taken .addressed 1)).SentAs reply →
        ((Activity.start.run Happening.firstJob).traffic.step
          (.dispatch 0 (.send .addressed .rehearsing))).Converges 0 reply
          [.bare "job-1" .processing, Rehearsal.completion "job-1" (Rehearsal.externalId 1) "http://files" digest]
          (Rehearsal.completion "job-1" (Rehearsal.externalId 1) "http://files" digest)
          ((Activity.start.run Happening.firstJob).traffic.studio.store.CompletedBy found.job found.version
            (Rehearsal.externalId 1) (Rehearsal.completion "job-1" (Rehearsal.externalId 1) "http://files" digest)
            (Rehearsal.artifactUrl "job-1" "http://files")) := by
  obtain ⟨a, k, hparams, hdataset, hsound, hsigner, hissued, hstudio, hplace⟩ := Traffic.exists_firstJob
  have hid : (a.insert k .small).1.job.id = "job-1" := by
    change rowId "job" (k.issued.jobs + 1) = _
    rw [hissued]
    rfl
  have hjob : (a.insert k .small).2.store.job? (a.insert k .small).1.job.id = some (a.insert k .small).1.job :=
    Studio.job?_insertJob hsound.jobIds _ _ _ _ _
  have hversion : (a.insert k .small).2.store.version? (a.insert k .small).1.job.versionId
      = some (a.insert k .small).1.version :=
    Studio.version?_insertJob hsound.versionIds _ _ _ _ _
  rw [← hstudio] at hjob hversion
  have hstored : (a.insert k .small).1.version.sentParams = Training.sampleParams := by
    change Version.sentParams { (a.insert k .small).1.version with
      params := .ofJson (if a.params.isTruthy then a.params else .object []) } = _
    rw [hparams]
    rfl
  have hsent : (a.insert k .small).1.version.sentParams.isEncodable = true := by
    rw [hstored]
    rfl
  have hdepth : ((a.insert k .small).1.payload a.dataset .addressed).depth = 3 := by
    rw [JobAnswer.payload, Signer.depth_jobPayload, hstored]
    rfl
  have hroom : 3 < Context.addressed.settings.nesting.signed := by decide
  have hpaired : Rehearsal.Paired (Activity.start.run Happening.firstJob).traffic.studio .addressed .rehearsing
      ⟨[0x6B], 300000⟩ ⟨[0x6B], 300000⟩ := by
    have hunsigned : (a.insert k .small).2.signer = none := hsigner
    refine ⟨?_, rfl, rfl, ⟨_, rfl, rfl⟩, ⟨_, rfl, rfl⟩, rfl⟩
    rw [hstudio, Studio.getSigner, hunsigned]
    rfl
  have hreached : (Activity.start.run Happening.firstJob).traffic.studio
      = (Activity.start.run Happening.firstJob).studio := rfl
  obtain ⟨request, hasked, -, htakes, hdraws⟩ := service_and_rehearsal_worker_agree Happening.posted_firstJob hreached
    hplace hjob hversion rfl rfl hsent hdataset (hdepth ▸ hroom) hpaired "http://files"
  obtain ⟨digest, -, -, hconverges⟩ := hdraws 1
  rw [hid] at hasked hconverges
  rw [hdepth] at htakes
  exact ⟨_, request, digest, hid, rfl, hasked, htakes, hconverges⟩

end PromptStudio
