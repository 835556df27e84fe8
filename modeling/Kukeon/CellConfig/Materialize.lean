import Mathlib
import Kukeon.CellBlueprint.Materialize

/-! # Stamping a cell from a Config

`internal/cellconfig`: the check of the slot fills, `MaterializeWithName`, and the overrides of
`envoverlay.go`.
-/

namespace Kukeon.CellConfig

open ModelHub (Labels)
open V1Beta1 GoText
open CellBlueprint (BlueprintError ScalarReader)

/-- The errors of the package. The slot a failed fill check names depends on the order of a map,
    so it is left out there. -/
inductive ConfigError where
  | unknownRepoSlot
  | unknownSecretSlot
  | requiredRepoSlot
  | requiredSecretSlot
  | unfilledRepo (container slot : String)
  | unfilledSecret (container slot : String)
  | fillWithoutSecretRef (container slot : String)
  | secretMode (container slot mode : String)
  | resolve (config blueprint : String) (cause : BlueprintError)
  deriving DecidableEq

def labelConfig : String := "kukeon.io/config"

/-- `Prefix` of a Config. -/
def cellPrefix (cfg : CellConfigDoc) : String :=
  if trimSpace cfg.spec.cellPrefix ≠ "" then trimSpace cfg.spec.cellPrefix
  else trimSpace cfg.metadata.name

/-- The repo slots a Blueprint declares, with whether a fill is required. A repo with a url is
    not a slot. -/
def repoSlots (bp : CellBlueprintDoc) : List (String × Bool) :=
  bp.spec.cell.containers.flatMap fun container =>
    (container.repos.filter fun repo => trimSpace repo.url == "").map fun repo =>
      (trimSpace repo.name, repo.required)

def secretSlots (bp : CellBlueprintDoc) : List (String × Bool) :=
  bp.spec.cell.containers.flatMap fun container =>
    container.secrets.map fun slot => (trimSpace slot.name, slot.required)

/-- Every key of `fills` names a declared slot. -/
def fillsDeclared {Fill : Type} (slots : List (String × Bool)) (fills : GoMap String Fill) : Bool :=
  decide (∀ name ∈ fills.keys, trimSpace name ∈ slots.map (·.1))

def requiredFilled {Fill : Type} (slots : List (String × Bool)) (fills : GoMap String Fill) :
    Bool :=
  slots.all fun slot => !slot.2 || (fills.lookup slot.1).isSome

def validateSlotFill (cfg : CellConfigDoc) (bp : CellBlueprintDoc) : Except ConfigError Unit :=
  if !fillsDeclared (repoSlots bp) cfg.spec.repos then .error .unknownRepoSlot
  else if !fillsDeclared (secretSlots bp) cfg.spec.secrets then .error .unknownSecretSlot
  else if !requiredFilled (repoSlots bp) cfg.spec.repos then .error .requiredRepoSlot
  else if !requiredFilled (secretSlots bp) cfg.spec.secrets then .error .requiredSecretSlot
  else .ok ()

/-- The repo of a slot: itself when it has a url, filled when the Config fills it, dropped when
    it may stay open. -/
def fillRepo (cfg : CellConfigDoc) (container : String) (repo : ContainerRepo) :
    Except ConfigError (Option ContainerRepo) :=
  if trimSpace repo.url ≠ "" then .ok (some repo)
  else
    match cfg.spec.repos.lookup (trimSpace repo.name) with
    | none => if repo.required then .error (.unfilledRepo container repo.name) else .ok none
    | some fill =>
      .ok (some
        { repo with
          url := trimSpace fill.url
          branch := if trimSpace fill.branch ≠ "" then trimSpace fill.branch else repo.branch
          ref := if trimSpace fill.ref ≠ "" then trimSpace fill.ref else repo.ref })

def materializeSecretSlot (container : String) (slot : BlueprintSecretSlot)
    (fill : CellConfigSecretFill) : Except ConfigError ContainerSecret :=
  match fill.secretRef with
  | none => .error (.fillWithoutSecretRef container slot.name)
  | some ref =>
    match trimSpace slot.mode with
    | "" | "env" => .ok { name := trimSpace slot.envName, secretRef := some ref }
    | "file" =>
      .ok
        { name := trimSpace slot.name
          secretRef := some ref
          mountPath := trimSpace slot.mountPath }
    | mode => .error (.secretMode container slot.name mode)

def fillSecret (cfg : CellConfigDoc) (container : String) (slot : BlueprintSecretSlot) :
    Except ConfigError (Option ContainerSecret) :=
  match cfg.spec.secrets.lookup (trimSpace slot.name) with
  | none => if slot.required then .error (.unfilledSecret container slot.name) else .ok none
  | some fill => some <$> materializeSecretSlot container slot fill

def materializeContainer (cfg : CellConfigDoc) (bc : BlueprintContainer) :
    Except ConfigError ContainerSpec := do
  let repos ← bc.repos.mapM (fillRepo cfg bc.id)
  let secrets ← bc.secrets.mapM (fillSecret cfg bc.id)
  return CellBlueprint.containerSpec bc repos.reduceOption secrets.reduceOption

def configProvenance (cfg : CellConfigDoc) : CellProvenance where
  bindingKind := bindingKindConfig
  bindingRef :=
    { name := trimSpace cfg.metadata.name
      realm := trimSpace cfg.metadata.realm
      space := trimSpace cfg.metadata.space
      stack := trimSpace cfg.metadata.stack }
  params := cfg.spec.values

/-- `defaultScope`, with the default coordinate of every level. -/
def defaultScope (coordinate : String) : String :=
  if trimSpace coordinate ≠ "" then trimSpace coordinate else "default"

/-- `ResolveConfig` as `MaterializeWithName` calls it: without an environment to fall back on. -/
def resolvedBlueprint (reader : ScalarReader) (cfg : CellConfigDoc) (bp : CellBlueprintDoc) :
    Except ConfigError CellBlueprintDoc :=
  (CellBlueprint.resolveConfig reader bp cfg.spec.values none).mapError
    (.resolve cfg.metadata.name bp.metadata.name)

def stampedCell (cfg : CellConfigDoc) (resolved : CellBlueprintDoc)
    (containers : List ContainerSpec) (cellName : String) : CellDoc where
  apiVersion := .v1beta1
  metadata :=
    { name := cellName
      labels := cfg.metadata.labels.insert labelConfig cfg.metadata.name }
  spec :=
    { id := cellName
      realmID := defaultScope cfg.metadata.realm
      spaceID := defaultScope cfg.metadata.space
      stackID := defaultScope cfg.metadata.stack
      tty := resolved.spec.cell.tty
      containers := CellBlueprint.expandPerCellVolumes cellName containers
      autoDelete := resolved.spec.cell.autoDelete
      nestedCgroupRuntime := resolved.spec.cell.nestedCgroupRuntime
      provenance := some (configProvenance cfg) }

/-- `MaterializeWithName`: the volumes are expanded with the name it is given, which may be
    empty. -/
def materializeWithName (reader : ScalarReader) (cfg : CellConfigDoc) (bp : CellBlueprintDoc)
    (name : String) : Except ConfigError CellDoc := do
  validateSlotFill cfg bp
  let resolved ← resolvedBlueprint reader cfg bp
  let containers ← resolved.spec.cell.containers.mapM (materializeContainer cfg)
  return stampedCell cfg resolved containers (trimSpace name)

/-- The part of an entry before its first `=`. -/
def envKey (entry : String) : String := String.ofList (entry.toList.takeWhile (· != '='))

/-- `MergeEnv`: an override drops every entry with its key. -/
def mergeEnv (specEnv envArgs : List String) : List String :=
  if envArgs = [] then specEnv
  else
    specEnv.filter (fun entry => !(envArgs.map envKey).contains (envKey entry)) ++ envArgs

/-- `ResolveAttachableContainerIndex`; `none` where the source returns -1. -/
def resolveAttachableContainerIndex (spec : CellSpec) : Option Nat :=
  let preferred := (spec.tty.map fun tty => trimSpace tty.default).getD ""
  let named :=
    if preferred = "" then none
    else spec.containers.findIdx? fun container => !container.root && container.id == preferred
  named.or (spec.containers.findIdx? fun container => !container.root && container.attachable)

def applyEnvOverrides (doc : CellDoc) (envArgs : List String) : CellDoc :=
  if envArgs = [] then doc
  else
    let containers :=
      match resolveAttachableContainerIndex doc.spec with
      | none => doc.spec.containers
      | some idx =>
        doc.spec.containers.modify idx fun container =>
          { container with env := mergeEnv container.env envArgs }
    { doc with
      spec :=
        { doc.spec with
          containers := containers
          provenance := doc.spec.provenance.map fun provenance =>
            { provenance with envOverrides := envArgs } } }

end Kukeon.CellConfig
