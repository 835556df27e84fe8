import Kukeon.CellBlueprint.Resolve
import Kukeon.Lib.Outcome
import Kukeon.Naming.CellName

/-! # Stamping a cell from a Blueprint

`MaterializeWithName` of `internal/cellblueprint/cellblueprint.go` and the expansion of
`${CELL_NAME}` in `percell.go`.
-/

namespace Kukeon.CellBlueprint

open ModelHub (Labels)
open V1Beta1 GoText Naming

/-- `CellNameVar`. -/
def cellNameVar : String := "$\x7bCELL_NAME\x7d"

/-- The body of the loop of `ExpandPerCellVolumes`. -/
def expandVolume (cellName : String) (mount : VolumeMount) : VolumeMount :=
  if mount.kind ≠ .volume then mount
  else
    let inSource := contains mount.source cellNameVar
    let inRef := mount.volumeRef.any fun ref => contains ref.name cellNameVar
    { mount with
      source := if inSource then replaceAll mount.source cellNameVar cellName else mount.source
      volumeRef :=
        if inRef then
          mount.volumeRef.map fun ref =>
            { ref with name := replaceAll ref.name cellNameVar cellName }
        else mount.volumeRef
      ensure := mount.ensure || inSource || inRef }

def expandPerCellVolumes (cellName : String) (containers : List ContainerSpec) :
    List ContainerSpec :=
  containers.map fun container =>
    { container with volumes := container.volumes.map (expandVolume cellName) }

def volumeText (mount : VolumeMount) : String :=
  match mount.volumeRef with
  | some ref => ref.name
  | none => mount.source

/-- A volume mount whose name is templated with `${CELL_NAME}`. -/
def PerCell (mount : VolumeMount) : Prop :=
  mount.kind = .volume ∧ contains (volumeText mount) cellNameVar = true

instance (mount : VolumeMount) : Decidable (PerCell mount) := inferInstanceAs (Decidable (_ ∧ _))

/-- Under `cellName` a templated mount names the volume of its template filled with it. -/
theorem volumeText_expandVolume {mount : VolumeMount} (hp : PerCell mount)
    (cellName : String) :
    volumeText (expandVolume cellName mount) =
      replaceAll (volumeText mount) cellNameVar cellName := by
  obtain ⟨hi, ht⟩ := hp
  cases ref : mount.volumeRef with
  | none =>
    simp only [volumeText, ref] at ht
    simp [expandVolume, volumeText, hi, ref, ht]
  | some ref' =>
    simp only [volumeText, ref] at ht
    simp [expandVolume, volumeText, hi, ref, ht]

/-- The name a templated mount was filled with can be read off the volume it names. -/
theorem volumeText_injective {text a b : String} (ht : contains text cellNameVar = true)
    (hs : replaceAll text cellNameVar a = replaceAll text cellNameVar b) : a = b :=
  replaceAll_injective (by decide) ht hs

/-- The part of `materializeContainer` that both bindings share: every field of the template, with
    the repos and secrets the slots gave. -/
def containerSpec (bc : BlueprintContainer) (repos : List ContainerRepo)
    (secrets : List ContainerSecret) : ContainerSpec where
  id := bc.id
  root := bc.root
  image := bc.image
  command := bc.command
  args := bc.args
  workingDir := bc.workingDir
  env := bc.env
  ports := bc.ports
  volumes := bc.volumes
  networks := bc.networks
  networksAliases := bc.networksAliases
  privileged := bc.privileged
  hostNetwork := bc.hostNetwork
  hostPID := bc.hostPID
  hostCgroup := bc.hostCgroup
  user := bc.user
  readOnlyRootFilesystem := bc.readOnlyRootFilesystem
  capabilities := bc.capabilities
  securityOpts := bc.securityOpts
  devices := bc.devices
  tmpfs := bc.tmpfs
  resources := bc.resources
  repos := repos
  git := bc.git
  restartPolicy := bc.restartPolicy
  attachable := bc.attachable
  tty := bc.tty
  secrets := secrets

/-- The container without its unfilled slots, and the required slots that block it. -/
def materializeContainer (bc : BlueprintContainer) : ContainerSpec × List String :=
  let open_ := fun (repo : ContainerRepo) => trimSpace repo.url == ""
  let repoBlockers := (bc.repos.filter fun repo => open_ repo && repo.required).map fun repo =>
    "container " ++ quoted bc.id ++ " repo slot " ++ quoted repo.name ++ " (url)"
  let secretBlockers := (bc.secrets.filter (·.required)).map fun slot =>
    "container " ++ quoted bc.id ++ " secret slot " ++ quoted slot.name
  (containerSpec bc (bc.repos.filter fun repo => !open_ repo) [], repoBlockers ++ secretBlockers)

/-- `Prefix` of a Blueprint. -/
def cellPrefix (doc : CellBlueprintDoc) : String :=
  if trimSpace doc.spec.cellPrefix ≠ "" then trimSpace doc.spec.cellPrefix
  else trimSpace doc.metadata.name

/-- The name the Blueprint's own materialization expands the volumes with. -/
def resolveCellName (doc : CellBlueprintDoc) (nameOverride : String) (draw : Option Suffix) :
    Except BlueprintError String :=
  if trimSpace nameOverride ≠ "" then .ok (trimSpace nameOverride)
  else
    (generateCellName (ε := Empty) (cellPrefix doc) draw).mapError
      fun _ => .cellName doc.metadata.name (cellPrefix doc)

def labelBlueprint : String := "kukeon.io/blueprint"

def blueprintProvenance (doc : CellBlueprintDoc) (params : Labels) : CellProvenance where
  bindingKind := bindingKindBlueprint
  bindingRef :=
    { name := trimSpace doc.metadata.name
      realm := trimSpace doc.metadata.realm
      space := trimSpace doc.metadata.space
      stack := trimSpace doc.metadata.stack }
  params := params

/-- The required slots that keep a Blueprint from being stamped without a Config. -/
def blockers (doc : CellBlueprintDoc) : List String :=
  doc.spec.cell.containers.flatMap fun bc => (materializeContainer bc).2

/-- The document once the name to expand the volumes with is known. -/
def stampedCell (doc : CellBlueprintDoc) (params : Labels) (cellName : String) : CellDoc where
  apiVersion := .v1beta1
  metadata :=
    { name := cellName
      labels := doc.metadata.labels.insert labelBlueprint doc.metadata.name }
  spec :=
    { id := cellName
      realmID := trimSpace doc.metadata.realm
      spaceID := trimSpace doc.metadata.space
      stackID := trimSpace doc.metadata.stack
      tty := doc.spec.cell.tty
      containers :=
        expandPerCellVolumes cellName
          (doc.spec.cell.containers.map fun bc => (materializeContainer bc).1)
      autoDelete := doc.spec.cell.autoDelete
      nestedCgroupRuntime := doc.spec.cell.nestedCgroupRuntime
      provenance := some (blueprintProvenance doc params) }

/-- `MaterializeWithName` on a resolved Blueprint. -/
def materializeWithName (doc : CellBlueprintDoc) (nameOverride : String) (params : Labels)
    (draw : Option Suffix) : Except BlueprintError CellDoc := do
  let cellName ← resolveCellName doc nameOverride draw
  if blockers doc ≠ [] then
    throw (.structuralSlots doc.metadata.name (blockers doc))
  return stampedCell doc params cellName

theorem materializeWithName_eq_ok {doc : CellBlueprintDoc} {nameOverride : String}
    {params : Labels} {draw : Option Suffix} {cell : CellDoc} :
    materializeWithName doc nameOverride params draw = .ok cell ↔
      ∃ cellName, resolveCellName doc nameOverride draw = .ok cellName ∧ blockers doc = [] ∧
        stampedCell doc params cellName = cell := by
  simp only [materializeWithName, Outcome.bind_eq_ok, Outcome.refusal_eq_ok, Outcome.pure_eq_ok,
    ne_eq, not_not]

end Kukeon.CellBlueprint
