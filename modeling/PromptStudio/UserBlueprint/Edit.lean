import PromptStudio.Catalog.Schema
import PromptStudio.Store.Studio

/-!
# Blueprints of users

A user's blueprint has a head, which is changed in place, and versions, which are only added. Versions are numbered from
one: a new one counts those that are there, and its insertion fails where the number is taken.
-/

namespace PromptStudio

structure BlueprintAnswer where
  blueprint : UserBlueprint
  version : BlueprintVersion

structure BlueprintDraft where
  name : Text
  category : Text
  blocks : List Text
  constraints : List Text
  description : Option Text
  tags : Option (List Text)
  compatibleProfiles : Option (List Text)

/-- What is changed of a blueprint; what is not given stays. -/
structure BlueprintChanges where
  name : Option Text
  description : Option Text
  category : Option Text
  tags : Option (List Text)
  compatibleProfiles : Option (List Text)
  isActive : Option Bool
  blocks : Option (List Text)
  constraints : Option (List Text)

/-- The content of a version to come, under the number that was counted for it. -/
structure NextVersion where
  number : Int
  blocks : List Text
  constraints : List Json

def Json.allTexts? (vs : List Json) : Option (List Text) :=
  vs.mapM Json.text?

/-- The value of an optional list of texts. -/
def Json.ofTexts? : Option (List Text) → Json
  | some ts => .ofTexts ts
  | none => .null

/-- Whether a column holds just the texts of a list. -/
def JsonColumn.holds (c : JsonColumn) (ts : List Text) : Bool :=
  match c with
  | .ok (.array items) => Json.allTexts? items == some ts
  | _ => false

namespace Catalog

/-- Refuses blocks of a blueprint that are none, or that do not exist. -/
def checkBlocks (c : Catalog) (blocks : List Text) : Except Refusal Unit :=
  if blocks.isEmpty then .error .noBlocks
  else match c.missingBlocks blocks with
    | [] => .ok ()
    | missing => .error (.unknownBlocks missing)

/-- Block keys from values, none of which may be anything but the key of a block. -/
def blockKeys (c : Catalog) (values : List Json) : Except Failure (List Text) := do
  match Json.allTexts? values with
  | some blocks =>
    c.checkBlocks blocks
    return blocks
  | none => throw (.fault .wrongKind)

end Catalog

/-- The values that a column lists; `orNone` takes a column that holds nothing for the empty list. -/
def JsonColumn.listed (c : JsonColumn) (orNone : Bool) : Except Fault (List Json) :=
  if orNone && !c.value.isTruthy then .ok []
  else match c.value.elements? with
    | some values => .ok values
    | none => .error .wrongKind

namespace UserBlueprint

/-- The changes that differ from what was loaded; the others are left as if they were not given. -/
def news (b : UserBlueprint) (ch : BlueprintChanges) : BlueprintChanges :=
  { ch with
    name := ch.name.filter (· != b.name)
    description := ch.description.filter fun t => some t != b.description
    category := ch.category.filter (· != b.category)
    tags := ch.tags.filter (!b.tags.holds ·)
    compatibleProfiles := ch.compatibleProfiles.filter (!b.compatibleProfiles.holds ·)
    isActive := ch.isActive.filter (· != b.isActive.isTruthy) }

def changed (b : UserBlueprint) (ch : BlueprintChanges) : UserBlueprint :=
  { b with
    name := ch.name.getD b.name
    description := ch.description <|> b.description
    category := ch.category.getD b.category
    tags := (ch.tags.map fun ts => .ok (.ofTexts ts)).getD b.tags
    compatibleProfiles := (ch.compatibleProfiles.map fun ts => .ok (.ofTexts ts)).getD b.compatibleProfiles
    isActive := (ch.isActive.map fun active => .int (if active then 1 else 0)).getD b.isActive }

end UserBlueprint

namespace BlueprintChanges

def headTexts (ch : BlueprintChanges) : List Text :=
  ch.name.toList ++ ch.description.toList ++ ch.category.toList

def touchesHead (ch : BlueprintChanges) : Bool :=
  !ch.headTexts.isEmpty || ch.tags.isSome || ch.compatibleProfiles.isSome || ch.isActive.isSome

end BlueprintChanges

namespace Store

def ownedBlueprint (s : Store) (id userId : Text) : Except Failure UserBlueprint := do
  match ← s.loadBlueprint? id with
  | none => throw (.refused (.userBlueprintUnknown id))
  | some b => if b.userId = userId then return b else throw (.refused (.userBlueprintForeign id))

/-- The blueprints of a user, the last changed first; inactive ones only if they are asked for. -/
def blueprintsOf (s : Store) (userId : Text) (withInactive : Bool) : Except Fault (List UserBlueprint) := do
  let userId ← userId.bindable
  let found := s.blueprints.filter fun b => b.userId == userId && (withInactive || b.isActive == .int 1)
  (newestFirst (·.updatedAt) found).mapM UserBlueprint.load

def blueprintVersionsOf (s : Store) (blueprintId : Text) : List BlueprintVersion :=
  s.blueprintVersions.filter (·.blueprintId == blueprintId)

def latestBlueprintVersion (s : Store) (blueprintId : Text) : Except Failure BlueprintVersion := do
  let blueprintId ← blueprintId.bindable
  match (s.blueprintVersionsOf blueprintId).mergeSort fun a b => b.number.le a.number with
  | latest :: _ => latest.load
  | [] => throw (.refused (.noBlueprintVersions blueprintId))

def blueprintWithLatest (s : Store) (id userId : Text) : Except Failure BlueprintAnswer := do
  let blueprint ← s.ownedBlueprint id userId
  return ⟨blueprint, ← s.latestBlueprintVersion id⟩

/--
The blueprint that is compiled: the head with the blocks and constraints of the latest version. It is checked like one
of a catalog, since what stands in the version need not be a list of texts.
-/
def blueprintDefinition (s : Store) (id userId : Text) : Except Failure Blueprint := do
  let found ← s.blueprintWithLatest id userId
  let blocks ← found.version.blocks.listed false
  let constraints ← found.version.constraints.listed true
  Failure.ofChecked (Blueprint.reader (.ofFields
    [("id", .string found.blueprint.id), ("name", .string found.blueprint.name),
      ("category", .string found.blueprint.category), ("description", .string (found.blueprint.description.getD [])),
      ("blocks", .array blocks), ("constraints", .array constraints)]))

def nextBlueprintNumber (s : Store) (blueprintId : Text) : Int :=
  (s.blueprintVersionsOf blueprintId).length + 1

/-- Inserts a version, unless its number is taken. -/
def insertBlueprintVersion (s : Store) (v : BlueprintVersion) : Except Fault Store :=
  if s.blueprintVersions.any fun other => other.blueprintId == v.blueprintId && other.number == v.number then
    .error .constraintViolated
  else .ok { s with blueprintVersions := s.blueprintVersions ++ [v] }

/-- The version that changes ask for, if they ask for one: what is not given is taken from the loaded version. -/
def nextVersion? (s : Store) (c : Catalog) (loaded : BlueprintVersion) (ch : BlueprintChanges) :
    Except Failure (Option NextVersion) := do
  if ch.blocks.isNone && ch.constraints.isNone then return none
  else
    let blocks ← match ch.blocks with
      | some blocks => pure (blocks.map Json.string)
      | none => loaded.blocks.listed false
    let blocks ← c.blockKeys blocks
    Text.bindAll ch.headTexts
    let constraints ← match ch.constraints with
      | some constraints => pure (constraints.map Json.string)
      | none => loaded.constraints.listed false
    return some ⟨s.nextBlueprintNumber loaded.blueprintId, blocks, constraints⟩

/--
Writes the changes that differ from the loaded head. The other columns are left out, so what a change in between wrote
there stays; where nothing differs, nothing is written.
-/
def writeHead (s : Store) (loaded : UserBlueprint) (ch : BlueprintChanges) (now : Instant) : Except Fault Store := do
  let news := loaded.news ch
  if news.touchesHead then
    Text.bindAll news.headTexts
    return s.updateBlueprint loaded.id fun b => { b.changed news with updatedAt := .instant now }
  else return s

def insertBlueprint (s : Store) (b : UserBlueprint) : Except Fault Store := do
  Text.bindAll ([b.userId, b.name, b.category] ++ b.description.toList)
  return { s with blueprints := s.blueprints ++ [b] }

end Store

namespace Studio

def createBlueprint (k : Studio) (c : Context) (userId : Text) (draft : BlueprintDraft) : Result BlueprintAnswer :=
  match c.catalog.checkBlocks draft.blocks with
  | .error cause => k.fail (.refused cause)
  | .ok () =>
    let number := k.issued.blueprints + 1
    let k := { k with issued := { k.issued with blueprints := number } }
    let blueprint : UserBlueprint :=
      { id := rowId "bp" number, userId, name := draft.name, description := draft.description,
        category := draft.category, tags := .ok (.ofTexts? draft.tags),
        compatibleProfiles := .ok (.ofTexts? draft.compatibleProfiles), isActive := .int 1,
        createdAt := .instant c.now, updatedAt := .instant c.now }
    match k.store.insertBlueprint blueprint with
    | .error fault => k.fail (.fault fault)
    | .ok store =>
      let versionNumber := k.issued.blueprintVersions + 1
      let version : BlueprintVersion :=
        { id := rowId "bpv" versionNumber, blueprintId := blueprint.id, number := .int 1,
          blocks := .ok (.ofTexts draft.blocks), constraints := .ok (.ofTexts draft.constraints),
          createdAt := .instant c.now }
      (.ok ⟨blueprint, version⟩,
        { k with
          store := { store with blueprintVersions := store.blueprintVersions ++ [version] }
          issued := { k.issued with blueprintVersions := versionNumber } })

/-- Ends a change whose blueprint was loaded, and whose version was counted, earlier. -/
def finishBlueprintUpdate (k : Studio) (c : Context) (loaded : BlueprintAnswer) (ch : BlueprintChanges)
    (next : Option NextVersion) : Result BlueprintAnswer :=
  match k.store.writeHead loaded.blueprint ch c.now with
  | .error fault => k.fail (.fault fault)
  | .ok store =>
    let head (store : Store) : UserBlueprint := (store.blueprint? loaded.blueprint.id).getD loaded.blueprint
    match next with
    | none => (.ok ⟨head store, loaded.version⟩, k.withStore store)
    | some next =>
      let number := k.issued.blueprintVersions + 1
      let k := { k with issued := { k.issued with blueprintVersions := number } }
      let version : BlueprintVersion :=
        { id := rowId "bpv" number, blueprintId := loaded.blueprint.id, number := .int next.number,
          blocks := .ok (.ofTexts next.blocks), constraints := .ok (.array next.constraints),
          createdAt := .instant c.now }
      match store.insertBlueprintVersion version with
      | .error fault => k.fail (.fault fault)
      | .ok store => (.ok ⟨head store, version⟩, k.withStore store)

def updateBlueprint (k : Studio) (c : Context) (id userId : Text) (ch : BlueprintChanges) : Result BlueprintAnswer :=
  let prepared : Except Failure (BlueprintAnswer × Option NextVersion) := do
    let loaded ← k.store.blueprintWithLatest id userId
    return (loaded, ← k.store.nextVersion? c.catalog loaded.version ch)
  match prepared with
  | .error failure => k.fail failure
  | .ok (loaded, next) => k.finishBlueprintUpdate c loaded ch next

end Studio

end PromptStudio
