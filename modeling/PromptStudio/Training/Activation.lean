import PromptStudio.Prompt.Adapter
import PromptStudio.Training.Preparation

/-!
# The active version

Each user has at most one active version, under a weight; the last activation counts. An activation has two steps: the
binding of the user is looked up, and later it is written. A binding that was not there when it was looked up is
inserted; if another one came first, that one is changed. Of a binding that was there, only what differs from the
loaded one is written.
-/

namespace PromptStudio

/-- The active version of a user, with its model. -/
structure ActiveVersion where
  binding : Binding
  version : Version
  model : LoraModel

namespace Version

def artifact? (v : Version) : Option Text :=
  v.artifactUrl.filter (!·.isEmpty)

/-- The preview images, whatever they are; a version that has none has an empty list of them. -/
def images (v : Version) : Except Fault (List Json) :=
  if !v.previewImages.value.isTruthy then .ok []
  else match v.previewImages.value.elements? with
    | some images => .ok images
    | none => .error .wrongKind

def adapter (v : Version) (model : LoraModel) (weight : Quantity) : Except Fault Adapter :=
  v.images.map fun previewImages =>
    { versionId := v.id, modelName := model.name, triggerWord := Adapter.triggerWordFor (some model.name), weight,
      previewImages }

end Version

namespace Store

def trainedVersion (s : Store) (versionId userId : Text) : Except Failure (Version × LoraModel) := do
  match ← s.loadVersion? versionId with
  | none => throw (.refused (.versionUnknown versionId))
  | some version =>
    if version.artifact?.isNone then throw (.refused (.versionUntrained versionId))
    else match ← s.loadModel? version.modelId with
      | some model =>
        if model.userId = userId then return (version, model) else throw (.refused (.versionForeign versionId))
      | none => throw (.refused (.versionForeign versionId))

def isStorable (weight : Binary64) : Bool :=
  weight != .nan

/-- A weight as it comes back from a column, which has one zero only. -/
def storedWeight (weight : Binary64) : Binary64 :=
  if weight.isZero then .zero false else weight

/-- Changes what differs from the loaded binding; nothing is written where nothing differs. -/
def changeBinding (s : Store) (loaded : Binding) (versionId : Text) (weight : Binary64) (now : Instant) :
    Except Fault Store :=
  let newVersion := loaded.versionId != versionId
  let newWeight := !loaded.weight.same weight
  if !newVersion && !newWeight then .ok s
  else if newWeight && !isStorable weight then .error .constraintViolated
  else .ok (s.updateBinding loaded.userId fun b =>
    { b with
      versionId := if newVersion then versionId else b.versionId
      weight := if newWeight then storedWeight weight else b.weight
      updatedAt := now })

/-- Inserts a binding, unless the user has one or the weight cannot be held. -/
def insertBinding? (s : Store) (userId versionId : Text) (weight : Binary64) (now : Instant) : Option Store :=
  if (s.binding? userId).isSome || !isStorable weight then none
  else some { s with bindings := s.bindings ++ [⟨userId, versionId, storedWeight weight, now, now⟩] }

/-- The second step of an activation, for the binding that was looked up. -/
def writeBinding (s : Store) (loaded : Option Binding) (userId versionId : Text) (weight : Binary64)
    (now : Instant) : Except Fault Store :=
  match loaded with
  | some binding => s.changeBinding binding versionId weight now
  | none =>
    match s.insertBinding? userId versionId weight now with
    | some s => .ok s
    | none =>
      match s.binding? userId with
      | some binding => s.changeBinding binding versionId weight now
      | none => .error .absent

/-- The active version of a user; none if the version or its model is gone. -/
def activeVersion? (s : Store) (userId : Text) : Except Fault (Option ActiveVersion) := do
  match ← s.loadBinding? userId with
  | none => return none
  | some binding =>
    match ← s.loadVersion? binding.versionId with
    | none => return none
    | some version => return (← s.loadModel? version.modelId).map fun model => ⟨binding, version, model⟩

def resolveAdapter (s : Store) (userId versionId : Text) (weight : Quantity) : Except Failure Adapter := do
  let (version, model) ← s.trainedVersion versionId userId
  version.adapter model weight

def resolveActive (s : Store) (userId : Text) : Except Fault (Option Adapter) := do
  match ← s.activeVersion? userId with
  | some active =>
    if active.version.artifact?.isSome then
      return some (← active.version.adapter active.model (.real active.binding.weight))
    else return none
  | none => return none

end Store

namespace Studio

/-- Ends an activation whose binding was looked up earlier. -/
def finishActivation (k : Studio) (c : Context) (loaded : Option Binding) (userId versionId : Text)
    (weight : Binary64) : Result Binding :=
  match k.store.writeBinding loaded userId versionId weight c.now with
  | .error fault => k.fail (.fault fault)
  | .ok store =>
    match store.binding? userId with
    | some binding => (.ok binding, k.withStore store)
    | none => (.error (.fault .absent), k.withStore store)

/-- The first step of an activation: the version has to be a trained one of the user, and the binding is looked up. -/
def prepareActivation (k : Studio) (userId versionId : Text) : Except Failure (Option Binding) := do
  let _ ← k.store.trainedVersion versionId userId
  k.store.loadBinding? userId

def activate (k : Studio) (c : Context) (userId versionId : Text) (weight : Binary64) : Result Binding :=
  match k.prepareActivation userId versionId with
  | .error failure => k.fail failure
  | .ok loaded => k.finishActivation c loaded userId versionId weight

/-- Takes the active version of a user away; says whether there was one. -/
def deactivate (k : Studio) (userId : Text) : Result Bool :=
  match k.store.loadBinding? userId with
  | .error fault => k.fail (.fault fault)
  | .ok loaded =>
    (.ok loaded.isSome,
      k.withStore { k.store with bindings := k.store.bindings.filter (·.userId != userId) })

end Studio

end PromptStudio
