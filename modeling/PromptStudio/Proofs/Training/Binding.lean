import Mathlib.Logic.Function.Basic
import PromptStudio.Proofs.History.Activity
import PromptStudio.Proofs.Store.Atomicity

/-!
# Active versions

The bindings of a store are a finite map from users to versions with weights. An activation that succeeds writes the
entry of its user, a deactivation takes it away, and nothing else touches the map. What an entry leads to was checked
when it was written: a trained version of a model of the same user. Such a version stays as it is, so the entry can be
followed at any later time without another check.
-/

namespace PromptStudio

/-! ### Writing a binding -/

namespace Store

theorem storedWeight_eq_of_place? {a b : Binary64} {p : Int} (ha : a.place? = some p) (hb : b.place? = some p) :
    storedWeight a = storedWeight b := by
  cases a with
  | nan => cases ha
  | infinite negative =>
      cases b with
      | nan => cases hb
      | infinite other =>
          have hfar : (0 : Int) < Binary64.rankCount := by decide
          simp only [Binary64.place?, Option.some.injEq] at ha hb
          cases negative <;> cases other <;> simp only [if_true, Bool.false_eq_true, if_false] at ha hb <;>
            first | rfl | omega
      | finite other rank =>
          have hrank := rank.isLt
          simp only [Binary64.place?, Option.some.injEq] at ha hb
          split at ha <;> split at hb <;> omega
  | finite negative rank =>
      have hrank := rank.isLt
      cases b with
      | nan => cases hb
      | infinite other =>
          simp only [Binary64.place?, Option.some.injEq] at ha hb
          split at ha <;> split at hb <;> omega
      | finite other rank' =>
          simp only [Binary64.place?, Option.some.injEq] at ha hb
          have hranks : rank = rank' := by
            rw [Fin.ext_iff]
            split at ha <;> split at hb <;> omega
          subst hranks
          by_cases hzero : rank.val = 0
          · simp [storedWeight, Binary64.isZero, hzero]
          · have hsigns : negative = other := by
              cases negative <;> cases other <;> simp only [if_true, Bool.false_eq_true, if_false] at ha hb <;>
                first | rfl | omega
            rw [hsigns]

theorem storedWeight_eq_of_same {a b : Binary64} (h : a.same b = true) : storedWeight a = storedWeight b := by
  rw [Binary64.same] at h
  split at h
  · rename_i p q hp hq
    rw [← beq_iff_eq.mp h] at hq
    exact storedWeight_eq_of_place? hp hq
  · cases h

theorem storedWeight_storedWeight (weight : Binary64) : storedWeight (storedWeight weight) = storedWeight weight := by
  rw [storedWeight]
  split
  · rename_i hzero
    rw [storedWeight]
    split
    · rfl
    · rename_i hnonzero
      rw [storedWeight, if_neg hnonzero] at hzero
      exact absurd hzero hnonzero
  · rfl

theorem isStorable_of_same {a b : Binary64} (h : a.same b = true) : isStorable b = true := by
  rw [Binary64.same] at h
  split at h
  · rename_i p q _ hq
    cases b with
    | nan => cases hq
    | _ => rfl
  · cases h

/-- The version and the weight that are active for a user. -/
def bound (s : Store) (userId : Text) : Option (Text × Binary64) :=
  (s.binding? userId).map fun b => (b.versionId, b.weight)

end Store

def Binding.Stored (b : Binding) : Prop :=
  ∃ weight, Store.isStorable weight = true ∧ b.weight = Store.storedWeight weight

namespace Store

variable {s : Store} {userId versionId : Text} {weight : Binary64} {now : Instant}

/-- What a table becomes when the entry of one user is written. -/
structure Rebinds (bindings bindings' : List Binding) (userId versionId : Text) (weight : Binary64) : Prop where
  users : (bindings.map (·.userId)).Nodup → (bindings'.map (·.userId)).Nodup
  own : ∃ b, bindings'.find? (·.userId == userId) = some b ∧ b.versionId = versionId ∧ b.weight = storedWeight weight
  others : ∀ other, other ≠ userId → bindings'.find? (·.userId == other) = bindings.find? (·.userId == other)

theorem rebinds_update {loaded : Binding} (hloaded : s.binding? userId = some loaded) (change : Binding → Binding)
    (huser : ∀ b, (change b).userId = b.userId) (hversion : (change loaded).versionId = versionId)
    (hweight : (change loaded).weight = storedWeight weight) :
    Rebinds s.bindings (updateWhere (·.userId == userId) change s.bindings) userId versionId weight := by
  have hfound (other : Text) := find?_updateWhere Binding.userId (·.userId == userId) change huser s.bindings other
  have hid : loaded.userId = userId := by simpa using List.find?_some hloaded
  refine ⟨?_, ⟨change loaded, ?_, hversion, hweight⟩, ?_⟩
  · intro hdistinct
    rw [map_updateWhere Binding.userId _ change huser]
    exact hdistinct
  · rw [hfound userId]
    change (s.binding? userId).map _ = _
    rw [hloaded, Option.map_some, if_pos (beq_iff_eq.mpr hid)]
  · intro other hne
    rw [hfound other]
    cases hother : s.bindings.find? (·.userId == other) with
    | none => rfl
    | some b =>
        have hb : b.userId = other := by simpa using List.find?_some hother
        rw [Option.map_some, if_neg (by rw [hb, beq_iff_eq]; exact hne)]

theorem rebinds_append (hnone : s.binding? userId = none) (now : Instant) :
    Rebinds s.bindings (s.bindings ++ [⟨userId, versionId, storedWeight weight, now, now⟩]) userId versionId weight := by
  have hnone : s.bindings.find? (·.userId == userId) = none := hnone
  refine ⟨?_, ⟨⟨userId, versionId, storedWeight weight, now, now⟩, ?_, rfl, rfl⟩, ?_⟩
  · intro hdistinct
    rw [List.map_append]
    refine List.Nodup.append hdistinct (List.nodup_singleton _) ?_
    rw [List.map_singleton, List.disjoint_singleton]
    intro hmem
    obtain ⟨b, hb, huser⟩ := List.mem_map.mp hmem
    exact List.find?_eq_none.mp hnone b hb (beq_iff_eq.mpr huser)
  · rw [List.find?_append, hnone, Option.none_or]
    exact List.find?_cons_of_pos (beq_self_eq_true userId)
  · intro other hne
    have hnew : [(⟨userId, versionId, storedWeight weight, now, now⟩ : Binding)].find? (·.userId == other) = none :=
      List.find?_cons_of_neg (mt beq_iff_eq.mp hne.symm)
    rw [List.find?_append, hnew, Option.or_none]

/-- To change the binding of a user writes the entry, unless the weight cannot be stored. -/
theorem changeBinding_eq {loaded : Binding} (hloaded : s.binding? userId = some loaded) (hstored : loaded.Stored)
    (versionId : Text) (weight : Binary64) (now : Instant) :
    (isStorable weight = true → ∃ bindings, s.changeBinding loaded versionId weight now = .ok { s with bindings } ∧
      Rebinds s.bindings bindings userId versionId weight) ∧
    (isStorable weight = false → s.changeBinding loaded versionId weight now = .error .constraintViolated) := by
  have hid : loaded.userId = userId := by simpa using List.find?_some hloaded
  obtain ⟨old, -, hweight⟩ := hstored
  have hkept : storedWeight loaded.weight = loaded.weight := by
    rw [hweight, storedWeight_storedWeight]
  have hversion : (if loaded.versionId != versionId then versionId else loaded.versionId) = versionId := by
    split
    · rfl
    · rename_i hsame
      rw [bne_iff_ne, Decidable.not_not] at hsame
      exact hsame
  have hsame (h : loaded.weight.same weight = true) : loaded.weight = storedWeight weight :=
    hkept.symm.trans (storedWeight_eq_of_same h)
  have hnew : (if !loaded.weight.same weight then storedWeight weight else loaded.weight) = storedWeight weight := by
    split
    · rfl
    · rename_i h
      rw [Bool.not_eq_true', Bool.not_eq_false] at h
      exact hsame h
  rw [changeBinding]
  constructor
  · intro hstorable
    split
    · rename_i hnothing
      simp only [Bool.and_eq_true, Bool.not_eq_true', bne_eq_false_iff_eq, Bool.not_eq_false'] at hnothing
      exact ⟨s.bindings, rfl, id, ⟨loaded, hloaded, hnothing.1, hsame hnothing.2⟩, fun _ _ => rfl⟩
    · rw [hstorable, Bool.not_true, Bool.and_false, if_neg Bool.false_ne_true, hid]
      exact ⟨_, rfl, rebinds_update hloaded _ (fun _ => rfl) hversion hnew⟩
  · intro hnan
    have hdiffers : loaded.weight.same weight = false := by
      rw [← Bool.not_eq_true]
      intro h
      rw [isStorable_of_same h] at hnan
      cases hnan
    rw [hdiffers, hnan]
    simp

/-- To write what an activation asks for writes the entry of its user, unless the weight cannot be stored. -/
theorem writeBinding_eq (hstored : ∀ b, s.binding? userId = some b → b.Stored) (versionId : Text) (weight : Binary64)
    (now : Instant) :
    (isStorable weight = true → ∃ bindings,
      s.writeBinding (s.binding? userId) userId versionId weight now = .ok { s with bindings } ∧
        Rebinds s.bindings bindings userId versionId weight) ∧
    (isStorable weight = false → ∃ fault,
      s.writeBinding (s.binding? userId) userId versionId weight now = .error fault) := by
  cases hbinding : s.binding? userId with
  | some loaded =>
      obtain ⟨hwritten, hfails⟩ := changeBinding_eq hbinding (hstored loaded hbinding) versionId weight now
      exact ⟨hwritten, fun hnan => ⟨_, hfails hnan⟩⟩
  | none =>
      have hinsert : s.insertBinding? userId versionId weight now
          = if isStorable weight = true then
              some { s with bindings := s.bindings ++ [⟨userId, versionId, storedWeight weight, now, now⟩] }
            else none := by
        rw [insertBinding?, hbinding, Option.isSome_none, Bool.false_or]
        cases isStorable weight <;> rfl
      rw [writeBinding, hinsert]
      constructor
      · intro hstorable
        rw [if_pos hstorable]
        exact ⟨_, rfl, rebinds_append hbinding now⟩
      · intro hnan
        rw [hnan, if_neg Bool.false_ne_true]
        dsimp only
        rw [hbinding]
        exact ⟨_, rfl⟩

theorem Rebinds.bound {bindings : List Binding} (h : Rebinds s.bindings bindings userId versionId weight) :
    ({ s with bindings } : Store).bound = Function.update s.bound userId (some (versionId, storedWeight weight)) := by
  funext other
  obtain ⟨b, hb, hversion, hweight⟩ := h.own
  by_cases hother : other = userId
  · rw [hother, Function.update_self, Store.bound, binding?, hb, Option.map_some, hversion, hweight]
  · rw [Function.update_of_ne hother, Store.bound, binding?, h.others other hother]
    rfl

theorem find?_unbind {other : Text} (hne : other ≠ userId) :
    (s.bindings.filter (·.userId != userId)).find? (·.userId == other) = s.bindings.find? (·.userId == other) := by
  rw [List.find?_filter]
  congr 1
  funext b
  by_cases hother : b.userId = other
  · rw [hother, bne_iff_ne.mpr hne, beq_self_eq_true]
    rfl
  · rw [beq_false_of_ne hother]
    simp

/-! ### Trained versions -/

variable {s' : Store}

theorem trainedVersion_mono
    (hversions : ∀ id v, s.version? id = some v → v.artifactUrl.isSome = true → s'.version? id = some v)
    (hmodels : ∀ id m, s.model? id = some m → s'.model? id = some m) {found : Version × LoraModel}
    (h : s.trainedVersion versionId userId = .ok found) : s'.trainedVersion versionId userId = .ok found := by
  obtain ⟨v, m⟩ := found
  rw [trainedVersion_eq_ok_iff, loadVersion?_eq_some_iff, loadModel?_eq_some_iff] at h ⊢
  obtain ⟨⟨hid, hload, hfound⟩, hartifact, ⟨hmodelId, hmodelLoad, hmodel⟩, howner⟩ := h
  obtain ⟨url, hurl⟩ := Option.isSome_iff_exists.mp hartifact
  have hpresent : v.artifactUrl.isSome = true := by
    rw [(Option.filter_eq_some_iff.mp hurl).1]
    rfl
  exact ⟨⟨hid, hload, hversions _ v hfound hpresent⟩, hartifact, ⟨hmodelId, hmodelLoad, hmodels _ m hmodel⟩, howner⟩

end Store

/-- A binding that can be followed: it leads to a trained version of a model of its user. -/
structure Binding.Usable (s : Store) (b : Binding) : Prop where
  bindable : b.userId.bindable = .ok b.userId
  stored : b.Stored
  trained : ∃ found, s.trainedVersion b.versionId b.userId = .ok found

structure Store.BindingsSound (s : Store) : Prop where
  users : (s.bindings.map (·.userId)).Nodup
  usable : ∀ userId b, s.binding? userId = some b → b.Usable s

namespace Store.BindingsSound

variable {s s' : Store}

theorem empty : Store.empty.BindingsSound where
  users := List.nodup_nil
  usable := nofun

theorem mono (h : s.BindingsSound) (hbindings : s'.bindings = s.bindings)
    (hversions : ∀ id v, s.version? id = some v → v.artifactUrl.isSome = true → s'.version? id = some v)
    (hmodels : ∀ id m, s.model? id = some m → s'.model? id = some m) : s'.BindingsSound where
  users := by
    rw [hbindings]
    exact h.users
  usable := by
    intro userId b hb
    rw [binding?, hbindings] at hb
    obtain ⟨hbindable, hstored, found, htrained⟩ := h.usable userId b hb
    exact ⟨hbindable, hstored, found, trainedVersion_mono hversions hmodels htrained⟩

/-- To write the entry of a user keeps bindings sound, if what it leads to was checked. -/
theorem rebind (h : s.BindingsSound) {userId versionId : Text} {weight : Binary64} {bindings : List Binding}
    (hrebinds : Rebinds s.bindings bindings userId versionId weight) (hbindable : userId.bindable = .ok userId)
    (hstorable : isStorable weight = true) {found : Version × LoraModel}
    (htrained : s.trainedVersion versionId userId = .ok found) : ({ s with bindings } : Store).BindingsSound where
  users := hrebinds.users h.users
  usable := by
    intro other b hb
    by_cases hother : other = userId
    · obtain ⟨own, hown, hversion, hweight⟩ := hrebinds.own
      rw [hother] at hb
      obtain rfl : own = b := Option.some.inj (hown.symm.trans hb)
      have hid : own.userId = userId := by simpa using List.find?_some hown
      refine ⟨by rw [hid]; exact hbindable, ⟨weight, hstorable, hweight⟩, found, ?_⟩
      rw [hid, hversion]
      exact htrained
    · obtain ⟨hb', hstored, found', htrained'⟩ := h.usable other b ((hrebinds.others other hother).symm.trans hb)
      exact ⟨hb', hstored, found', htrained'⟩

theorem unbind (h : s.BindingsSound) (userId : Text) :
    ({ s with bindings := s.bindings.filter (·.userId != userId) } : Store).BindingsSound where
  users := (List.filter_sublist.map _).nodup h.users
  usable := by
    intro other b hb
    have hmem := List.mem_of_find?_eq_some hb
    have hb' : s.binding? other = some b := by
      by_cases hother : other = userId
      · have hid : b.userId = other := by simpa using List.find?_some hb
        have hne := (List.mem_filter.mp hmem).2
        rw [hid, hother, bne_self_eq_false] at hne
        cases hne
      · exact (find?_unbind hother).symm.trans hb
    obtain ⟨hbindable, hstored, found, htrained⟩ := h.usable other b hb'
    exact ⟨hbindable, hstored, found, htrained⟩

theorem bound_eq_none (h : s.BindingsSound) {userId : Text} (hbytes : ¬ userId.bindable = .ok userId) :
    s.bound userId = none := by
  rw [bound, Option.map_eq_none_iff]
  by_contra hsome
  obtain ⟨b, hb⟩ := Option.ne_none_iff_exists'.mp hsome
  have hid : b.userId = userId := by simpa using List.find?_some hb
  exact hbytes (hid ▸ (h.usable userId b hb).bindable)

end Store.BindingsSound

/-! ### Calls on bindings -/

def Store.activates (s : Store) (userId versionId : Text) (weight : Binary64) : Bool :=
  (s.trainedVersion versionId userId).isOk && userId.bindable.isOk && isStorable weight

/-- What a call makes of the map from users to versions with weights. -/
def PlainCall.rebind (s : Store) (bound : Text → Option (Text × Binary64)) :
    PlainCall → Text → Option (Text × Binary64)
  | .activate userId versionId weight =>
    if s.activates userId versionId weight then
      Function.update bound userId (some (versionId, Store.storedWeight weight))
    else bound
  | .deactivate userId => Function.update bound userId none
  | _ => bound

namespace Studio

variable {k : Studio} {userId versionId : Text} {weight : Binary64}

theorem activate_of_activates (h : k.store.BindingsSound) (c : Context)
    (hactivates : k.store.activates userId versionId weight = true) :
    ∃ b bindings, k.activate c userId versionId weight = (.ok b, k.withStore { k.store with bindings }) ∧
      b.userId = userId ∧ b.versionId = versionId ∧ b.weight = Store.storedWeight weight ∧
      Store.Rebinds k.store.bindings bindings userId versionId weight ∧
      ({ k.store with bindings } : Store).BindingsSound := by
  rw [Store.activates, Bool.and_eq_true, Bool.and_eq_true] at hactivates
  obtain ⟨⟨htrained, hbindable⟩, hstorable⟩ := hactivates
  obtain ⟨found, htrained⟩ := isOk_iff.mp htrained
  obtain ⟨t, hbindable⟩ := isOk_iff.mp hbindable
  rw [Store.bindable_eq_ok hbindable] at hbindable
  obtain ⟨hwritten, -⟩ :=
    Store.writeBinding_eq (fun b hb => (h.usable userId b hb).stored) versionId weight c.now
  obtain ⟨bindings, hwrite, hrebinds⟩ := hwritten hstorable
  obtain ⟨b, hb, hversion, hweight⟩ := hrebinds.own
  have hprepared : k.prepareActivation userId versionId = .ok (k.store.binding? userId) :=
    bind_eq_ok.mpr ⟨found, htrained, liftFault_eq_ok.mpr (bind_eq_ok.mpr ⟨userId, hbindable, rfl⟩)⟩
  refine ⟨b, bindings, ?_, ?_, hversion, hweight, hrebinds, h.rebind hrebinds hbindable hstorable htrained⟩
  · have hfound : ({ k.store with bindings } : Store).binding? userId = some b := hb
    simp only [activate, hprepared, finishActivation, hwrite, hfound]
  · simpa using List.find?_some hb

theorem activate_of_not_activates (h : k.store.BindingsSound) (c : Context)
    (hactivates : k.store.activates userId versionId weight = false) :
    ∃ failure, k.activate c userId versionId weight = (.error failure, k) := by
  rw [activate]
  cases hprepared : k.prepareActivation userId versionId with
  | error failure => exact ⟨failure, rfl⟩
  | ok loaded =>
      rw [prepareActivation, bind_eq_ok] at hprepared
      obtain ⟨found, htrained, hloaded⟩ := hprepared
      obtain ⟨hbindable, rfl⟩ := Store.loadBinding?_eq_ok (liftFault_eq_ok.mp hloaded)
      have hnan : Store.isStorable weight = false := by
        rw [Store.activates, isOk_iff.mpr ⟨_, htrained⟩, isOk_iff.mpr ⟨_, hbindable⟩] at hactivates
        exact hactivates
      obtain ⟨-, hfails⟩ :=
        Store.writeBinding_eq (fun b hb => (h.usable userId b hb).stored) versionId weight c.now
      obtain ⟨fault, hfault⟩ := hfails hnan
      dsimp only
      rw [finishActivation, hfault]
      exact ⟨_, rfl⟩

theorem store_deactivate (h : k.store.BindingsSound) (userId : Text) :
    (k.deactivate userId).2.store.bound = Function.update k.store.bound userId none ∧
      (k.deactivate userId).2.store.BindingsSound ∧
      (userId.bindable = .ok userId → (k.deactivate userId).1 = .ok (k.store.bound userId).isSome) := by
  rw [deactivate]
  cases hloaded : k.store.loadBinding? userId with
  | error fault =>
      have hbytes : ¬ userId.bindable = .ok userId := by
        intro hbindable
        rw [Store.loadBinding?, hbindable] at hloaded
        cases hloaded
      refine ⟨?_, h, fun hbindable => absurd hbindable hbytes⟩
      change k.store.bound = _
      rw [← h.bound_eq_none hbytes, Function.update_eq_self]
  | ok loaded =>
      obtain ⟨-, rfl⟩ := Store.loadBinding?_eq_ok hloaded
      refine ⟨?_, h.unbind userId, fun _ => ?_⟩
      · funext other
        by_cases hother : other = userId
        · rw [hother, Function.update_self]
          change Option.map _ (List.find? _ (k.store.bindings.filter _)) = none
          rw [Option.map_eq_none_iff, List.find?_filter, List.find?_eq_none]
          intro b _
          simp
        · rw [Function.update_of_ne hother]
          exact congrArg (Option.map _) (Store.find?_unbind hother)
      · rw [Store.bound, Option.isSome_map]

end Studio

end PromptStudio
