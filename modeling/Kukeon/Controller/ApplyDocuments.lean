import Kukeon.Apply.Documents
import Kukeon.CellConfig.Materialize
import Kukeon.Lib.Effect

/-! # Applying a set of documents

`ApplyDocuments` of `internal/controller/apply.go` with the pruning of a team's Blueprints and
Configs, and `ReconcileBlueprint` and `ReconcileConfig` of `internal/controller/apply/reconcile.go`.
The stored Blueprints and Configs are kept in cabinets, keyed by the coordinates a listing shows them under.
Everything else on the host, and reconciling the other kinds, is a parameter.
-/

namespace Kukeon.Controller.Documents

open ModelHub (Labels)
open V1Beta1 (CellBlueprintDoc CellConfigDoc CellBindingRef)
open GoText Effect ApplyParser

structure ScopedRef where
  realm : String := ""
  space : String := ""
  stack : String := ""
  name : String := ""
  deriving DecidableEq

def scopedRefFromMetadata (name realm space stack : String) : ScopedRef :=
  { realm := realm, space := space, stack := stack, name := name }

/-- Where a document under these coordinates lies: a stack without a space is a directory of the
    realm and is listed as a space. -/
def ScopedRef.place (ref : ScopedRef) : ScopedRef :=
  if ref.space = "" ∧ ref.stack ≠ "" then { ref with space := ref.stack, stack := "" } else ref

/-- A stored document: the labels that a listing reads from it, and what decoding it gives. -/
structure Stored (Doc : Type) where
  labels : Labels
  doc : Except String Doc

structure ApplyHost (ρ : Type) where
  blueprints : Cabinet ScopedRef (Stored CellBlueprintDoc)
  configs : Cabinet ScopedRef (Stored CellConfigDoc)
  rest : ρ

abbrev ApplyEffect (ρ : Type) := Effect (ApplyHost ρ) KukeError

structure ReconcileResult where
  action : String
  changes : List String := []
  details : Labels := ∅

inductive Target where
  | realm (doc : ModelHub.Realm)
  | space (doc : ModelHub.Space)
  | stack (doc : ModelHub.Stack)
  | cell (doc : ModelHub.Cell)
  | container (doc : ContainerDoc)
  | secret (doc : SecretDoc)
  | blueprint (doc : CellBlueprintDoc)
  | config (doc : CellConfigDoc)
  | volume (doc : VolumeDoc)

def Target.name : Target → String
  | .realm doc => doc.metadata.name
  | .space doc => doc.metadata.name
  | .stack doc => doc.metadata.name
  | .cell doc => doc.metadata.name
  | .container doc => doc.name
  | .secret doc => doc.metadata.name
  | .blueprint doc => doc.metadata.name
  | .config doc => doc.metadata.name
  | .volume doc => doc.metadata.name

/-- How the runner answers. A fault is the error that an operation ends with. -/
structure ApplyRunner (ρ : Type) where
  getRealm : ρ → String → Except KukeError Unit
  getSpace : ρ → String → String → Except KukeError Unit
  getStack : ρ → String → String → String → Except KukeError Unit
  writeFault : ρ → ScopedRef → Option KukeError := fun _ _ => none
  readFault : ρ → ScopedRef → Option KukeError := fun _ _ => none
  listConfigsFault : ρ → Option KukeError := fun _ => none
  listBlueprintsFault : ρ → Option KukeError := fun _ => none
  deleteFault : ρ → ScopedRef → Option KukeError := fun _ _ => none
  slotErrorText : CellConfig.ConfigError → String
  /-- Reconciling anything but Blueprints and Configs. -/
  others : Target → ApplyEffect ρ ReconcileResult

section Reconcile

variable {ρ : Type} (runner : ApplyRunner ρ)

def unlessFault (fault : Option KukeError) : ApplyEffect ρ Unit :=
  match fault with
  | some cause => throw cause
  | none => pure ()

/-- `blueprintScopeLookupError` and `configScopeLookupError`. -/
def scopeLookupError (kind : String) (sentinel : Errdef) (level name : String)
    (cause : KukeError) : KukeError :=
  if cause.is .realmNotFound || cause.is .spaceNotFound || cause.is .stackNotFound then
    sentinel.saying (": " ++ level ++ " " ++ quoted name)
  else .under ("failed to verify " ++ kind ++ " scope " ++ level ++ " " ++ quoted name ++ ": ") cause

def ensureScopeExists (kind : String) (sentinel : Errdef) (ref : ScopedRef) : ApplyEffect ρ Unit := do
  let rest := (← get).rest
  ofResult ((runner.getRealm rest ref.realm).mapError
    (scopeLookupError kind sentinel "realm" ref.realm))
  if ref.space ≠ "" then
    ofResult ((runner.getSpace rest ref.realm ref.space).mapError
      (scopeLookupError kind sentinel "space" ref.space))
  if ref.stack ≠ "" then
    ofResult ((runner.getStack rest ref.realm ref.space ref.stack).mapError
      (scopeLookupError kind sentinel "stack" ref.stack))

def ensureBlueprintScopeExists (ref : ScopedRef) : ApplyEffect ρ Unit :=
  ensureScopeExists runner "blueprint" .blueprintScopeNotFound ref

def ensureConfigScopeExists (ref : ScopedRef) : ApplyEffect ρ Unit :=
  ensureScopeExists runner "config" .configScopeNotFound ref

def blueprintRef (doc : CellBlueprintDoc) : ScopedRef :=
  scopedRefFromMetadata doc.metadata.name doc.metadata.realm doc.metadata.space doc.metadata.stack

def configRef (doc : CellConfigDoc) : ScopedRef :=
  scopedRefFromMetadata doc.metadata.name doc.metadata.realm doc.metadata.space doc.metadata.stack

/-- `WriteBlueprint`, with whether the document is new. -/
def writeBlueprint (doc : CellBlueprintDoc) : ApplyEffect ρ Bool := do
  let host ← get
  unlessFault (runner.writeFault host.rest (blueprintRef doc).place)
  set { host with blueprints :=
    host.blueprints.put (blueprintRef doc).place { labels := doc.metadata.labels, doc := .ok doc } }
  return (host.blueprints.find (blueprintRef doc).place).isNone

/-- `WriteConfig`, with whether the document is new. -/
def writeConfig (doc : CellConfigDoc) : ApplyEffect ρ Bool := do
  let host ← get
  unlessFault (runner.writeFault host.rest (configRef doc).place)
  set { host with configs :=
    host.configs.put (configRef doc).place { labels := doc.metadata.labels, doc := .ok doc } }
  return (host.configs.find (configRef doc).place).isNone

def writtenAs (created : Bool) : ReconcileResult where
  action := if created then "created" else "updated"

def reconcileBlueprint (doc : CellBlueprintDoc) : ApplyEffect ρ ReconcileResult := do
  ensureBlueprintScopeExists runner (blueprintRef doc)
  return writtenAs (← writeBlueprint runner doc)

def referencedBlueprint (ref : CellBindingRef) : ApplyEffect ρ CellBlueprintDoc := do
  let host ← get
  let key := (scopedRefFromMetadata ref.name ref.realm ref.space ref.stack).place
  rewording (.under ("failed to read referenced blueprint " ++ quoted ref.name ++ ": "))
    (unlessFault (runner.readFault host.rest key))
  match host.blueprints.find key with
  | none =>
    throw (Errdef.configBlueprintNotFound.saying
      (": " ++ quoted ref.name ++ " (realm " ++ quoted ref.realm ++ ")"))
  | some stored =>
    ofResult (stored.doc.mapError fun cause =>
      Errdef.conversionFailed.error.wrapping { text := cause })

def reconcileConfig (doc : CellConfigDoc) : ApplyEffect ρ ReconcileResult := do
  ensureConfigScopeExists runner (configRef doc)
  let bp ← referencedBlueprint runner doc.spec.blueprint
  ofResult ((CellConfig.validateSlotFill doc bp).mapError fun cause =>
    { text := runner.slotErrorText cause })
  return writtenAs (← writeConfig runner doc)

end Reconcile

def labelTeam : String := "kukeon.io/team"

def stampTeamLabel (labels : Labels) (team : String) : Labels := labels.insert labelTeam team

def teamLabels (team : String) (labels : Labels) : Labels :=
  if team ≠ "" then stampTeamLabel labels team else labels

def normalizeContainer (version : V1Beta1.Version) (doc : ContainerDoc) :
    Except KukeError ContainerDoc := do
  let container ← normalize "Container" version doc
  (ApiScheme.validateContainer container.spec).mapError fun cause =>
    Errdef.conversionFailed.error.wrapping { text := cause }
  return container

/-- What a document of a submission for `team` asks to be reconciled. -/
def convert (team : String) (doc : Document) : Except KukeError Target :=
  match doc.body with
  | .realm realm => do return .realm (← normalize "Realm" doc.apiVersion (← notNil "realm" realm))
  | .space space => do return .space (← normalize "Space" doc.apiVersion (← notNil "space" space))
  | .stack stack => do return .stack (← normalize "Stack" doc.apiVersion (← notNil "stack" stack))
  | .cell cell => do return .cell (← normalizeCell doc.index (← notNil "cell" cell))
  | .container container => do
      return .container (← normalizeContainer doc.apiVersion (← notNil "container" container))
  | .secret secret => do
      return .secret (← normalize "Secret" doc.apiVersion (← notNil "secret" secret))
  | .cellBlueprint blueprint => do
      let bp ← notNil "blueprint" blueprint
      return .blueprint (← normalize "CellBlueprint" doc.apiVersion
        { bp with metadata.labels := teamLabels team bp.metadata.labels })
  | .cellConfig config => do
      let cfg ← notNil "config" config
      return .config (← normalize "CellConfig" doc.apiVersion
        { cfg with metadata.labels := teamLabels team cfg.metadata.labels })
  | .volume volume => do
      return .volume (← normalize "Volume" doc.apiVersion (← notNil "volume" volume))
  | .other kind => .error (Errdef.unknownKind.saying (": " ++ kind))

structure ResourceResult where
  index : Nat := 0
  kind : String
  name : String := ""
  action : String
  error : Option KukeError := none
  changes : List String := []
  details : Labels := ∅

/-- What a turn of the loop adds to the results and to the applied Blueprints and Configs. -/
structure Outcome where
  result : ResourceResult
  blueprints : List ScopedRef := []
  configs : List ScopedRef := []

section Loop

variable {ρ : Type} (runner : ApplyRunner ρ) (team : String)

def reconcile : Target → ApplyEffect ρ ReconcileResult
  | .blueprint doc => reconcileBlueprint runner doc
  | .config doc => reconcileConfig runner doc
  | target => runner.others target

def appliedBlueprints : Target → List ScopedRef
  | .blueprint doc => [blueprintRef doc]
  | _ => []

def appliedConfigs : Target → List ScopedRef
  | .config doc => [configRef doc]
  | _ => []

def outcomeOf (doc : Document) (target : Target) : Except KukeError ReconcileResult → Outcome
  | .error cause =>
    { result :=
        { index := doc.index, kind := doc.body.kindText, name := target.name, action := "failed"
          error := some cause } }
  | .ok done =>
    { result :=
        { index := doc.index, kind := doc.body.kindText, name := target.name
          action := done.action, changes := done.changes, details := done.details }
      blueprints := appliedBlueprints target
      configs := appliedConfigs target }

def applyDocument (doc : Document) : ApplyEffect ρ Outcome :=
  match convert team doc with
  | .error cause =>
    return { result :=
      { index := doc.index, kind := doc.body.kindText, action := "failed", error := some cause } }
  | .ok target => do return outcomeOf doc target (← attempt (reconcile runner target))

def applyLoop (docs : List Document) : ApplyEffect ρ (List Outcome) :=
  (sortDocumentsByKind docs false).mapM (applyDocument runner team)

def isPruned {Doc : Type} (applied : List ScopedRef) (item : ScopedRef × Stored Doc) : Bool :=
  item.2.labels.index labelTeam == team && !applied.contains item.1

def scopeDetails (ref : ScopedRef) : Labels :=
  let realm : Labels := (∅ : Labels).insert "realm" ref.realm
  let space := if ref.space ≠ "" then realm.insert "space" ref.space else realm
  if ref.stack ≠ "" then space.insert "stack" ref.stack else space

/-- `DeleteConfig` and `DeleteBlueprint`, by what takes the document out of its cabinet. -/
def deleteStored (takeOff : ScopedRef → ApplyHost ρ → ApplyHost ρ) (ref : ScopedRef) :
    ApplyEffect ρ Unit := do
  unlessFault (runner.deleteFault (← get).rest ref)
  modify (takeOff ref)

/-- The body of the two loops of `pruneTeamObjects`. -/
def pruneOne (kind noun : String) (takeOff : ScopedRef → ApplyHost ρ → ApplyHost ρ)
    (ref : ScopedRef) : ApplyEffect ρ ResourceResult := do
  match ← attempt (deleteStored runner takeOff ref) with
  | .ok _ => return { kind := kind, name := ref.name, action := "pruned", details := scopeDetails ref }
  | .error cause =>
    return { kind := kind, name := ref.name, action := "failed", details := scopeDetails ref
             error := some (.under ("prune team " ++ quoted team ++ ": delete " ++ noun ++ " " ++
               quoted ref.name ++ ": ") cause) }

def takeConfig (ref : ScopedRef) (host : ApplyHost ρ) : ApplyHost ρ :=
  { host with configs := host.configs.remove ref }

def takeBlueprint (ref : ScopedRef) (host : ApplyHost ρ) : ApplyHost ρ :=
  { host with blueprints := host.blueprints.remove ref }

/-- `pruneTeamObjects`: both kinds are listed before the first of them is deleted. -/
def pruneTeamObjects (blueprints configs : List ScopedRef) : ApplyEffect ρ (List ResourceResult) := do
  let host ← get
  rewording (.under ("prune team " ++ quoted team ++ ": list configs: "))
    (unlessFault (runner.listConfigsFault host.rest))
  rewording (.under ("prune team " ++ quoted team ++ ": list blueprints: "))
    (unlessFault (runner.listBlueprintsFault host.rest))
  let ofConfigs ← ((host.configs.items.filter (isPruned team configs)).map (·.1)).mapM
    (pruneOne runner team "CellConfig" "config" takeConfig)
  let ofBlueprints ← ((host.blueprints.items.filter (isPruned team blueprints)).map (·.1)).mapM
    (pruneOne runner team "CellBlueprint" "blueprint" takeBlueprint)
  return ofConfigs ++ ofBlueprints

/-- `ApplyDocuments`, with the results and the error it returns beside them. -/
def applyDocuments (docs : List Document) :
    ApplyEffect ρ (List ResourceResult × Option KukeError) := do
  let outcomes ← applyLoop runner team docs
  let results := outcomes.map Outcome.result
  if team ≠ "" then
    match ← attempt (pruneTeamObjects runner team (outcomes.flatMap Outcome.blueprints)
        (outcomes.flatMap Outcome.configs)) with
    | .ok pruned => return (results ++ pruned, none)
    | .error cause => return (results, some cause)
  else return (results, none)

end Loop

end Kukeon.Controller.Documents
