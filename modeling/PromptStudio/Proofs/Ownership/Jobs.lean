import PromptStudio.Proofs.Ownership.Operations

/-!
# What a dispatch touches

A job is made and sent, or sent again, for the user who owns its version. Whether it can be sent, and what comes of it,
depends on no row but those that were found for it; and as long as nothing is reported meanwhile, this one job is all
that is changed.
-/

namespace PromptStudio

/-- To change the row of a fresh key is to add the changed row. -/
theorem Store.updateWhere_append_new {α : Type} {p : α → Bool} {change : α → α} {rows : List α} {row : α}
    (hfresh : rows.find? p = none) (hrow : p row = true) :
    updateWhere p change (rows ++ [row]) = rows ++ [change row] := by
  have hold : rows.map (fun row => if p row then change row else row) = rows := by
    refine (List.map_congr_left ?_).trans (List.map_id rows)
    intro old hmem
    exact if_neg (List.find?_eq_none.mp hfresh old hmem)
  rw [updateWhere, List.map_append, hold, List.map_singleton, if_pos hrow]

theorem Store.settle_fst_congr (s s' : Store) (jobId : Text) (acceptance : Except Failure (Option Text))
    (now : Instant) : (s'.settle jobId acceptance now).1 = (s.settle jobId acceptance now).1 := by
  cases acceptance with
  | error failure =>
      cases failure with
      | refused cause =>
          rw [settle, settle]
          split
          · split <;> rfl
          · rfl
          · rfl
      | _ => rfl
  | ok externalId =>
      rw [settle, settle]
      split <;> rfl

namespace Studio

variable {k k' : Studio} (c : Context) (worker : WorkerAddress) {exchange : Exchange}

theorem dispatch_congr (hquiet : exchange.deliveries = []) (hsigner : k'.signer = k.signer)
    (hdraw : k'.nextDraw = k.nextDraw) (found : JobAnswer) (dataset : Dataset) :
    ∃ us : List JobUpdate,
      (k.dispatch c worker found dataset exchange).1.2.store
        = us.foldl (fun s u => u.apply found.job.id c.now s) k.store ∧
      (k'.dispatch c worker found dataset exchange).1.2.store
        = us.foldl (fun s u => u.apply found.job.id c.now s) k'.store ∧
      (k'.dispatch c worker found dataset exchange).1.1 = (k.dispatch c worker found dataset exchange).1.1 := by
  have hmade : (k'.getSigner c.settings).1 = (k.getSigner c.settings).1 := by
    rw [getSigner, getSigner, hsigner, hdraw]
    split
    · rfl
    · split <;> rfl
  obtain ⟨hstore, -⟩ := Traffic.getSigner_store_issued k c.settings
  obtain ⟨hstore', -⟩ := Traffic.getSigner_store_issued k' c.settings
  rw [dispatch, dispatch]
  by_cases hworker : worker.isConfigured = true
  · simp only [hworker, Bool.not_true, Bool.false_eq_true, if_false, hmade, hquiet]
    split
    · exact ⟨[], hstore, hstore', rfl⟩
    · split
      · exact ⟨[], hstore, hstore', rfl⟩
      · rename_i request _
        refine ⟨Store.settlement (worker.acceptance request exchange.outcome c.settings.nesting.reply) c.now, ?_, ?_, ?_⟩
        · rw [← Store.settle_eq_foldl, ← hstore]
          rfl
        · rw [← Store.settle_eq_foldl, ← hstore']
          rfl
        · exact Store.settle_fst_congr ..
  · rw [Bool.not_eq_true] at hworker
    simp only [hworker, Bool.not_false, if_true]
    exact ⟨[.leavePending Store.mockModeError], rfl, rfl, trivial⟩

theorem dispatchAndAnswer_congr (k k' : Studio) (hquiet : exchange.deliveries = []) (hsigner : k'.signer = k.signer)
    (hdraw : k'.nextDraw = k.nextDraw) (found : JobAnswer) (dataset : Dataset)
    (hjob : k'.store.job? found.job.id = k.store.job? found.job.id) :
    (∃ us : List JobUpdate, (k.dispatchAndAnswer c worker found dataset exchange).1.2.store
      = { k.store with
          jobs := Store.updateWhere (·.id == found.job.id) (JobUpdate.settled us c.now) k.store.jobs }) ∧
    (k'.dispatchAndAnswer c worker found dataset exchange).1.1
      = (k.dispatchAndAnswer c worker found dataset exchange).1.1 := by
  obtain ⟨us, hstore, hstore', hdone⟩ := dispatch_congr c worker hquiet hsigner hdraw found dataset
  rw [JobUpdate.foldl_apply] at hstore hstore'
  refine ⟨⟨us, hstore⟩, ?_⟩
  have hread (s : Store) : Store.job? { s with
      jobs := Store.updateWhere (·.id == found.job.id) (JobUpdate.settled us c.now) s.jobs } found.job.id
        = (s.job? found.job.id).map fun j => if j.id == found.job.id then JobUpdate.settled us c.now j else j :=
    Store.find?_updateWhere Job.id _ _ (fun j => (JobUpdate.settled_id_versionId us c.now j).1) s.jobs found.job.id
  dsimp only [dispatchAndAnswer]
  rw [hdone, hstore, hstore', hread, hread, hjob]

theorem confined_retryJob (h : k.Sound) (hquiet : exchange.deliveries = []) (userId id : Text) :
    k.Confined userId fun k => (k.retryJob c worker id userId exchange).1 where
  touches := by
    dsimp only [retryJob]
    split
    · exact .nothing
    · rename_i found dataset hfound
      obtain ⟨hjob, hversion, howner⟩ := Store.owner?_of_ownedJob (Store.jobForRetry_eq_ok_iff.mp hfound).1
      obtain ⟨⟨us, hstore⟩, -⟩ := dispatchAndAnswer_congr c worker k k hquiet rfl rfl found dataset rfl
      rw [hstore]
      refine .settled found.job.id ?_ _ fun j => (JobUpdate.settled_id_versionId us c.now j).2
      intro j hj hid
      have hstored : k.store.job? found.job.id = some j :=
        (Store.find?_eq_some_iff_mem h.jobs.jobIds.distinct).mpr ⟨hj, hid⟩
      rw [Store.id_of_job? hjob, hjob, Option.some.injEq] at hstored
      rw [← hstored]
      exact Store.owner?_version_eq_some.mpr ⟨found.version, hversion, howner⟩
  answers := by
    intro answer hanswer
    dsimp only [retryJob] at hanswer ⊢
    split at hanswer
    · cases hanswer
    · rename_i found dataset hfound
      obtain ⟨hjob, hversion, howner⟩ := Store.owner?_of_ownedJob (Store.jobForRetry_eq_ok_iff.mp hfound).1
      have hjob' := Store.job?_ownedBy hjob (Store.owner?_version_eq_some.mpr ⟨found.version, hversion, howner⟩)
      have hid := Store.id_of_job? hjob
      have hfound' : (k.ownedBy userId).store.jobForRetry id userId = .ok (found, dataset) :=
        h.jobForRetry_ownedBy hfound
      rw [hfound']
      have hsame := (dispatchAndAnswer_congr c worker k (k.ownedBy userId) hquiet rfl rfl found dataset
        (by rw [hid, hjob]; exact hjob')).2
      exact hsame.trans hanswer

theorem confined_createJob (h : k.Sound) (hquiet : exchange.deliveries = [])
    (userId modelId datasetId baseModel : Text) (params : Json) :
    k.Confined userId fun k => (k.createJob c worker userId modelId datasetId baseModel params exchange).1 where
  touches := by
    dsimp only [createJob]
    split
    · exact .nothing
    · rename_i dataset hash hadmitted
      obtain ⟨howner, hdataset, huser⟩ := h.user_of_admitJob hadmitted
      obtain ⟨⟨us, hstore⟩, -⟩ := dispatchAndAnswer_congr c worker (k.insertJob c modelId dataset hash baseModel params).2
        (k.insertJob c modelId dataset hash baseModel params).2 hquiet rfl rfl
        (k.insertJob c modelId dataset hash baseModel params).1 dataset rfl
      have hjobs : Store.updateWhere (·.id == (k.insertJob c modelId dataset hash baseModel params).1.job.id)
          (JobUpdate.settled us c.now) (k.insertJob c modelId dataset hash baseModel params).2.store.jobs
            = k.store.jobs ++ [JobUpdate.settled us c.now (k.insertJob c modelId dataset hash baseModel params).1.job] :=
        Store.updateWhere_append_new h.jobs.jobIds.find?_next (beq_self_eq_true _)
      rw [hstore, hjobs]
      refine .job (k.insertJob c modelId dataset hash baseModel params).1.version _
        (JobUpdate.settled_id_versionId us c.now _).2 h.jobs.versionIds.find?_next ?_
      intro r hr
      rcases List.mem_cons.mp hr with rfl | hr
      · exact howner
      · rw [List.mem_singleton.mp hr]
        have hid : dataset.id = datasetId := by simpa using List.find?_some hdataset
        exact Option.map_eq_some_iff.mpr ⟨dataset, by rw [hid]; exact hdataset, huser⟩
  answers := by
    intro answer hanswer
    dsimp only [createJob] at hanswer ⊢
    split at hanswer
    · cases hanswer
    · rename_i dataset hash hadmitted
      obtain ⟨⟨m, hm⟩, hd, hbase⟩ := admitJob_eq_ok_iff.mp hadmitted
      have hadmitted' : (k.ownedBy userId).admitJob c userId modelId datasetId baseModel = .ok (dataset, hash) :=
        admitJob_eq_ok_iff.mpr ⟨⟨m, Store.ownedModel_ownedBy hm⟩,
          Store.datasetForJob_ownedBy hd (h.user_of_admitJob hadmitted).2.2, hbase⟩
      have hids : Numbered "job" k.issued.jobs ((k.ownedBy userId).store.jobs.map (·.id)) :=
        h.jobs.jobIds.sublist (List.filter_sublist.map _)
      have hjob := job?_insertJob h.jobs.jobIds (c := c) modelId dataset hash baseModel params
      have hjob' := job?_insertJob (k := k.ownedBy userId) hids (c := c) modelId dataset hash baseModel params
      rw [hadmitted']
      have hsame := (dispatchAndAnswer_congr c worker (k.insertJob c modelId dataset hash baseModel params).2
        ((k.ownedBy userId).insertJob c modelId dataset hash baseModel params).2 hquiet rfl rfl
        (k.insertJob c modelId dataset hash baseModel params).1 dataset (hjob'.trans hjob.symm)).2
      exact hsame.trans hanswer

end Studio

end PromptStudio
