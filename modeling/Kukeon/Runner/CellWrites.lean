import Kukeon.Apply.Equality
import Kukeon.Naming.CellName
import Kukeon.Runner.Metadata
import Kukeon.Runner.Provision

/-! # The write paths of a cell

The operations of `internal/controller/runner` that store a cell with another spec: `CreateCell`,
`UpdateCell`, `RecreateCell`, `CreateContainer` and `UpdateContainer`. Each is given the cell as
`GetCell` reads it and the ids of the containers in the realm's namespace, and answers with the cell
it stores and the ids it leaves. Failures to stop or delete a container are logged by the source and
change nothing it stores, so that they do not show here.
-/

namespace Kukeon.Runner

open ModelHub GoText

inductive CellWriteError where
  | provision (cause : ProvisionError)
  /-- `ErrConversionFailed`: the cell cannot be written as a document. -/
  | conversion (cause : String)
  | invalidName (cause : String)
  | diskPressure (cause : String)
  | createCgroup (cause : String)
  | rootRemoved (id : String)
  | rootUpdated (id : String)
  deriving DecidableEq

/-- The part of `UpdateCellMetadata` that reads the spec. -/
def storable (cell : Cell) : Except CellWriteError Cell := do
  let _ ← (ApiScheme.buildCellExternalFromInternal cell).mapError .conversion
  return cell

/-- What creating a cell reads of its host besides what its containers need. -/
structure CreateHost extends ProvisionHost where
  guardDiskPressure : Cell → Except String Unit
  /-- The cgroup of the cell and its controllers. -/
  createCellCgroup : Cell → Except String (String × List String)
  cellSpaceBridgeName : Cell → Option String

def trimContainerID (container : ContainerSpec) : Except CellWriteError ContainerSpec := do
  (Naming.validateHierarchyName "container" (trimSpace container.id)).mapError .invalidName
  return { container with id := trimSpace container.id }

/-- The cell with what `provisionNewCell` records about its cgroup and its bridge. -/
def withCgroup (host : CreateHost) (cgroup : String × List String) (cell : Cell) : Cell :=
  { cell with
    status.cgroupPath := cgroup.1
    status.subtreeControllers := cgroup.2
    status.bridgeName := (host.cellSpaceBridgeName cell).getD cell.status.bridgeName }

def provisionNewCell (host : CreateHost) (live : List String) (cell : Cell) :
    Except CellWriteError (Cell × List String) := do
  -- The stub is stored before anything is created.
  let stub ← storable cell
  let cgroup ← (host.createCellCgroup stub).mapError .createCgroup
  let (created, made) ←
    (createCellContainers host.toProvisionHost live (withCgroup host cgroup stub)).mapError
      .provision
  let stored ← storable (markCellReady created)
  return (stored, made)

/-- `CreateCell` for a cell that does not exist. -/
def createCell (host : CreateHost) (live : List String) (cell : Cell) :
    Except CellWriteError (Cell × List String) := do
  (Naming.validateHierarchyName "cell" (trimSpace cell.metadata.name)).mapError .invalidName
  let containers ← cell.spec.containers.mapM trimContainerID
  let trimmed : Cell :=
    { cell with metadata.name := trimSpace cell.metadata.name, spec.containers := containers }
  (host.guardDiskPressure trimmed).mapError .diskPressure
  provisionNewCell host live trimmed

/-- The containers by id, as the maps of `UpdateCell` hold them. -/
def containerByID (containers : List ContainerSpec) (id : String) : Option ContainerSpec :=
  Keyed.find ContainerSpec.id id (containers.filter (·.id != ""))

def containerSpecChanged (desired actual : ContainerSpec) : Bool :=
  desired.image != actual.image || desired.command != actual.command ||
    !Apply.slicesEqual desired.args actual.args || desired.workingDir != actual.workingDir ||
    !Apply.slicesEqual desired.securityOpts actual.securityOpts ||
    !Apply.slicesEqual desired.devices actual.devices ||
    !Apply.volumeMountsEqual desired.volumes actual.volumes ||
    !Apply.secretsEqual desired.secrets actual.secrets

/-- `DeleteContainer`: the namespace without the container, unless it is the root. -/
def deleteContainer (cell : Cell) (live : List String) (id : String) : List String :=
  match cell.spec.containers.find? fun container => container.id = trimSpace id with
  | none => live
  | some container =>
    if container.root || container.containerdID == "" then live
    else live.filter (· != container.containerdID)

/-- The parent references of a container that `existing` lends. -/
def adopted (existing : Cell) (container : ContainerSpec) : ContainerSpec :=
  { container with
    realmName := orElse container.realmName existing.spec.realmName
    spaceName := orElse container.spaceName existing.spec.spaceName
    stackName := orElse container.stackName existing.spec.stackName
    cellName := orElse container.cellName (orElse existing.spec.id existing.metadata.name) }

def preservedRoot (existing desired : Cell) : Option ContainerSpec :=
  if desired.spec.containers.any (·.root) then none
  else existing.spec.containers.find? (·.root)

def orphanIDs (existing desired : Cell) : List String :=
  (Keyed.keys ContainerSpec.id (existing.spec.containers.filter (·.id != ""))).filter fun id =>
    (containerByID desired.spec.containers id).isNone

/-- The orphans that an update removes: not the root it keeps. A root it does not keep is refused. -/
def removeOrphans (existing desired : Cell) (live : List String) :
    Except CellWriteError (List String) :=
  let orphans := (orphanIDs existing desired).filterMap (containerByID existing.spec.containers)
  match if (preservedRoot existing desired).isSome then none else orphans.find? (·.root) with
  | some root => .error (.rootRemoved root.id)
  | none =>
    .ok ((orphans.filter (!·.root)).foldl
      (fun left orphan => deleteContainer existing left orphan.id) live)

def updatedContainer (existing : Cell) (live : List String) (container : ContainerSpec) :
    Except CellWriteError (ContainerSpec × List String) :=
  match containerByID existing.spec.containers container.id with
  | none => .ok (adopted existing container, live)
  | some actual =>
    if containerSpecChanged container actual then
      if actual.root then .error (.rootUpdated container.id)
      else
        .ok (adopted existing { container with containerdID := "" },
          deleteContainer existing live container.id)
    else .ok (adopted existing { container with containerdID := actual.containerdID }, live)

def updatedContainers (existing : Cell) :
    List String → List ContainerSpec → Except CellWriteError (List ContainerSpec × List String)
  | live, [] => .ok ([], live)
  | live, container :: rest => do
      let (updated, left) ← updatedContainer existing live container
      let (others, all) ← updatedContainers existing left rest
      return (updated :: others, all)

/-- `UpdateCell`. The fields of the cell spec other than its containers and its root stay. -/
def updateCell (host : ProvisionHost) (live : List String) (existing desired : Cell) :
    Except CellWriteError (Cell × List String) := do
  let root := preservedRoot existing desired
  let left ← removeOrphans existing desired live
  let (containers, left) ← updatedContainers existing left desired.spec.containers
  let merged : Cell :=
    { existing with
      metadata.labels := mergeManagedLabels existing.metadata.labels desired.metadata.labels
      spec.containers := root.toList ++ containers
      spec.rootContainerID :=
        if root.isSome ∧ desired.spec.rootContainerID = "" then existing.spec.rootContainerID
        else desired.spec.rootContainerID }
  let (ensured, made) ← (ensureCellContainers host left merged).mapError .provision
  let stored ← storable ensured
  return (stored, made)

/-- The containers of the cell are deleted under the ids its spec records, and its root under the id
    it is given. -/
def deleteCellContainers (existing : Cell) (rootID : String) (live : List String) : List String :=
  live.filter fun id =>
    !(existing.spec.containers.map (·.containerdID)).contains id && id != rootID

/-- `RecreateCell` up to the start. -/
def recreateCell (host : ProvisionHost) (live : List String) (existing desired : Cell) :
    Except CellWriteError (Cell × List String) := do
  let names :=
    { (cellNames existing).trimScope with
      cellID := orElse existing.spec.id existing.metadata.name }
  let rootID ← (rootContainerdID names).mapError .provision
  let cleared : Cell :=
    { desired with
      spec.containers := desired.spec.containers.map fun container =>
        { container with containerdID := "" }
      status.cgroupPath := existing.status.cgroupPath }
  let (created, made) ←
    (createCellContainers host (deleteCellContainers existing rootID live) cleared).mapError
      .provision
  let stored ← storable created
  return (stored, made)

def mergedContainer (cell : Cell) (container : ContainerSpec) : List ContainerSpec :=
  if cell.spec.containers.any (·.id == container.id) then cell.spec.containers
  else cell.spec.containers ++ [container]

/-- `CreateContainer` in a cell that exists. -/
def createContainerIn (host : ProvisionHost) (live : List String) (existing : Cell)
    (container : ContainerSpec) : Except CellWriteError (Cell × List String) := do
  let trimmed ← trimContainerID container
  let merged : Cell := { existing with spec.containers := mergedContainer existing trimmed }
  let (ensured, made) ← (ensureCellContainers host live merged).mapError .provision
  let stored ← storable ensured
  return (stored, made)

/-- The container that takes the place of `actual`. -/
def replacement (existing : Cell) (actual container : ContainerSpec) : ContainerSpec :=
  let cleared :=
    if containerSpecChanged container actual then { container with containerdID := "" }
    else container
  let adoptedContainer := adopted existing cleared
  { adoptedContainer with
    containerdID := orElse adoptedContainer.containerdID actual.containerdID }

/-- `UpdateContainer` in a cell that exists. -/
def updateContainer (host : ProvisionHost) (live : List String) (existing : Cell)
    (container : ContainerSpec) : Except CellWriteError (Cell × List String) :=
  match existing.spec.containers.find? fun other => other.id = container.id with
  | none => createContainerIn host live existing container
  | some actual => do
      let left :=
        if containerSpecChanged container actual then deleteContainer existing live container.id
        else live
      let merged : Cell :=
        { existing with
          spec.containers := Keyed.upsert ContainerSpec.id (replacement existing actual container)
            existing.spec.containers }
      let (ensured, made) ← (ensureCellContainers host left merged).mapError .provision
      let stored ← storable ensured
      return (stored, made)

end Kukeon.Runner
