import Kukeon.ApiScheme.RoundTrip
import Kukeon.Lib.Effect
import Kukeon.Runner.Metadata
import Kukeon.Runner.Status

/-! # The runner's operations on one cell

`GetCell`, `UpdateCellMetadata`, `persistCellStatusGuarded`, `killCellLocked`, `markCellFailed`,
`StartContainer`, `deleteCellLocked` and `ensureCellCgroup` of `internal/controller/runner`, as
programs over the document of one cell. The document is kept in the form it is read back in. What
containerd, the cgroup tree, the network plugins and the file system do is the input of each
operation; a step reads the clock once.
-/

namespace Kukeon.Runner

open ModelHub GoText ApiScheme Effect

/-- What an operation does that outlasts it or reaches a container. -/
inductive Event where
  /-- A document was written; `derived` is the state the running tick had derived by then. -/
  | wrote (doc : Cell) (derived : Option CellState)
  | relaunching (containerID : String)
  | markedFailed (reason : String)
  | killed (containerdIDs : List String)
  | deleted
  deriving DecidableEq

/-- The bookkeeping the restart pass keeps for a container in the daemon's memory. -/
structure ContainerRestartState where
  attempts : Int := 0
  lastAttempt : Time := 0
  deriving DecidableEq

/-- The document of a cell and what the daemon remembers about it. -/
structure CellHost where
  now : Time := 0
  disk : Option Cell := none
  restarts : GoMap String ContainerRestartState := ∅
  /-- The failure of the file system at the write with this number, if it fails. -/
  diskFault : Nat → Option String := fun _ => none
  attempts : Nat := 0
  /-- The state that the running tick has derived, once it has. -/
  derived : Option CellState := none
  trace : List Event := []

namespace CellHost

def logged (host : CellHost) (event : Event) : CellHost :=
  { host with trace := host.trace ++ [event] }

def written (host : CellHost) (doc : Cell) : CellHost :=
  { host.logged (.wrote doc host.derived) with disk := some doc }

def removed (host : CellHost) : CellHost :=
  { host.logged .deleted with disk := none }

end CellHost

abbrev RunnerM := Effect CellHost RunnerError

def log (event : Event) : RunnerM Unit := modify fun host => host.logged event

structure CellRead where
  fault : Option String := none
  survey : Survey

def requireAll : List (String × RunnerError) → Except RunnerError Unit
  | [] => .ok ()
  | (text, err) :: rest => if trimSpace text = "" then .error err else requireAll rest

def getCell (read : CellRead) (cell : Cell) : RunnerM Cell := do
  ofResult (requireAll
    [ (cell.spec.realmName, .realmNameRequired), (cell.spec.spaceName, .spaceNameRequired),
      (cell.spec.stackName, .stackNameRequired), (cell.metadata.name, .cellNameRequired) ])
  match read.fault with
  | some text => throw (.wrap "failed to get cell" (.io text))
  | none =>
    let host ← get
    match host.disk with
    | none => throw .cellNotFound
    | some doc => return populateCellContainerStatuses host.now read.survey doc

def stampCellLifecycle (now : Time) (cell : Cell) : Cell :=
  { cell with
    status.createdAt := if cell.status.createdAt = 0 then now else cell.status.createdAt
    status.updatedAt := now
    status.readyAt :=
      if cell.status.readyAt = 0 ∧ cell.status.state = .ready then now else cell.status.readyAt }

def persistedCell (cell : Cell) : Cell :=
  { cell with spec := (storedSpec cell.spec).deref, status := statusWithoutSetup cell.status }

def updateCellMetadata (cell : Cell) : RunnerM Unit := do
  let host ← get
  let cell := stampCellLifecycle host.now cell
  match resolveCellRootContainer cell.spec with
  | .error text => throw (.conversion text)
  | .ok _ =>
    set { host with attempts := host.attempts + 1 }
    match host.diskFault host.attempts with
    | some text => throw (.io text)
    | none =>
      match writeDocWithGeneration cellAccess host.disk (persistedCell cell) with
      | .error (.staleResource observed onDisk) => throw (.staleResource observed onDisk)
      | .error (.io text) => throw (.io text)
      | .ok doc => modify fun host => host.written doc

/-- Whether the status was persisted; a write refused as stale is no error. -/
def persistCellStatusGuarded (cell : Cell) : RunnerM Bool := do
  let cell := { cell with status.observedGeneration := cell.metadata.generation }
  match ← attempt (updateCellMetadata cell) with
  | .ok _ => return true
  | .error (.staleResource _ _) => return false
  | .error err => throw err

structure KillInputs where
  read : CellRead
  /-- The network configuration of the space, the connection and the realm. -/
  reach : Except String Unit := .ok ()
  after : Survey

/-- The containerd identifiers the kill loop signals: it skips the root and containers that have
    none stored. -/
def workloadContainerdIDs (specs : List ContainerSpec) : List String :=
  ((nonRootSpecs specs).map ContainerSpec.containerdID).filter (· ≠ "")

def getRootContainerContainerdID (cell : Cell) : Except RunnerError String :=
  let cellText := quoted cell.metadata.name
  let rootText := "root container " ++ quoted cell.spec.rootContainerID
  if cell.spec.rootContainerID = "" then
    .error (.io ("cell " ++ cellText ++ " has no RootContainerID set"))
  else
    match cell.spec.containers.find? fun spec => spec.id = cell.spec.rootContainerID with
    | none => .error (.io (rootText ++ " not found in cell " ++ cellText ++ " containers"))
    | some root =>
      if root.containerdID = "" then .error (.io (rootText ++ " has empty ContainerdID"))
      else .ok root.containerdID

def outside (result : Except String Unit) : RunnerM Unit := ofResult (result.mapError .io)

def requireCoordinates (cell : Cell) : Except RunnerError Unit :=
  requireAll
    [ (cell.metadata.name, .cellNameRequired), (cell.spec.realmName, .realmNameRequired),
      (cell.spec.spaceName, .spaceNameRequired), (cell.spec.stackName, .stackNameRequired) ]

/-- The kill itself: the workloads first, and the root only after it was looked up. -/
def signalContainers (cell : Cell) : RunnerM Unit := do
  log (.killed (workloadContainerdIDs cell.spec.containers))
  let rootContainerID ← ofResult (getRootContainerContainerdID cell)
  log (.killed [rootContainerID])

def killCellLocked (inputs : KillInputs) (cell : Cell) : RunnerM Cell := do
  ofResult (requireCoordinates cell)
  let internalCell ← rewording (.wrap "failed to get cell") (getCell inputs.read cell)
  ofResult (requireAll
    [ (internalCell.spec.id, .cellIDRequired), (internalCell.spec.realmName, .realmNameRequired),
      (internalCell.spec.spaceName, .spaceNameRequired),
      (internalCell.spec.stackName, .stackNameRequired) ])
  outside inputs.reach
  signalContainers internalCell
  let host ← get
  let stopped := populateCellContainerStatuses host.now inputs.after
    { internalCell with status.state := .stopped }
  -- A failure to persist is logged and passed over.
  let _ ← attempt (updateCellMetadata stopped)
  return stopped

structure DeleteInputs where
  read : CellRead
  /-- The sweep for a cell whose document is already gone. -/
  sweep : Except String Unit := .ok ()
  /-- The connection, the realm and the teardown of the containers. -/
  teardown : Except String Unit := .ok ()
  /-- Removing the document, and then the directory around it. -/
  removeMetadata : Except String Unit := .ok ()
  removeDirectory : Except String Unit := .ok ()

def deleteCellLocked (inputs : DeleteInputs) (cell : Cell) : RunnerM Unit := do
  ofResult (requireCoordinates cell)
  match ← attempt (getCell inputs.read cell) with
  | .error .cellNotFound => outside inputs.sweep
  | .error err => throw (.wrap "failed to get cell" err)
  | .ok _ =>
    outside inputs.teardown
    outside inputs.removeMetadata
    modify fun host => host.removed
    outside inputs.removeDirectory

structure FailInputs where
  before : CellRead
  kill : KillInputs
  after : CellRead
  /-- The text of the cause, flattened and cut to length. -/
  message : String := ""

def stampFailed (reason message : String) (cell : Cell) : Cell :=
  { cell with
    status.state := .failed
    status.reason := reason
    status.message := message }

/-- The cell as it is on disk, or as it was given when the disk cannot be read. -/
def reload (read : CellRead) (cell : Cell) : RunnerM Cell := do
  match ← attempt (getCell read cell) with
  | .ok loaded => return loaded
  | .error _ => return cell

/-- The state is stamped before the kill, so that a tick that runs meanwhile finds it, and again
    after the kill has written its own. Failures on the way are logged and passed over. -/
def markCellFailed (inputs : FailInputs) (cell : Cell) (reason : String) : RunnerM Unit := do
  log (.markedFailed reason)
  let before ← reload inputs.before cell
  let failed := stampFailed reason inputs.message before
  let _ ← attempt (updateCellMetadata failed)
  let _ ← attempt (killCellLocked inputs.kill failed)
  let after ← reload inputs.after failed
  let _ ← attempt (updateCellMetadata (stampFailed reason inputs.message after))

structure StartInputs where
  /-- The connection, the realm, the root container with its task and the guard on the spec hash. -/
  prepare : Except String Unit := .ok ()
  /-- Building, creating and starting the container. -/
  provision : Except String Unit := .ok ()
  reread : CellRead
  /-- The liveness probe after the start. -/
  live : Except String Unit := .ok ()
  survey : Survey
  failure : FailInputs

def startContainerChecks (cell : Cell) (containerID : String) : Except RunnerError Unit := do
  requireAll [(containerID, .containerIDRequired), (cell.metadata.name, .cellNameRequired)]
  if cell.spec.id = "" then throw .cellIDRequired
  requireAll
    [(cell.spec.realmName, .realmNameRequired), (cell.spec.spaceName, .spaceNameRequired)]
  let containerID := trimSpace containerID
  let cellName := trimSpace cell.metadata.name
  match cell.spec.containers.find? fun spec => spec.id = containerID with
  | none =>
    throw (.io ("container " ++ quoted containerID ++ " not found in cell " ++ quoted cellName))
  | some spec =>
    if spec.root then
      throw (.io ("root container cannot be started directly, start the cell instead using "
        ++ "'kuke start " ++ cellName ++ "'"))
    if spec.containerdID = "" then
      throw (.io ("container " ++ quoted containerID ++ " has empty ContainerdID"))
    let _ ← getRootContainerContainerdID cell

def startReasonContainerFailed : String := "StartContainerFailed"

/-- The part of `StartContainer` whose failure marks the whole cell failed. -/
def provisionContainer (inputs : StartInputs) (cell : Cell) : RunnerM Cell := do
  outside inputs.provision
  let updated ← rewording (.wrap "failed to retrieve cell after starting container")
    (getCell inputs.reread cell)
  outside inputs.live
  return updated

def startContainer (inputs : StartInputs) (cell : Cell) (containerID : String) : RunnerM Cell := do
  ofResult (startContainerChecks cell containerID)
  outside inputs.prepare
  match ← attempt (provisionContainer inputs cell) with
  | .error err => do
      markCellFailed inputs.failure cell startReasonContainerFailed
      throw err
  | .ok updated =>
    let host ← get
    let ready := populateCellContainerStatuses host.now inputs.survey (markCellReady updated)
    let _ ← attempt (updateCellMetadata ready)
    return ready

structure CgroupInputs where
  /-- The connection, the path and, for a missing cgroup, its creation. -/
  reach : Except String Unit := .ok ()
  group : String
  /-- The cgroup had to be created. -/
  created : Bool := true
  controllers : Except String (List String) := .error ""

/-- Write the cgroup path, and again with the controllers that could be enabled. -/
def recordCgroup (inputs : CgroupInputs) (cell : Cell) : RunnerM Cell := do
  updateCellMetadata cell
  match inputs.controllers with
  | .error _ => return cell
  | .ok controllers =>
    if cell.status.subtreeControllers = controllers then return cell
    else
      updateCellMetadata { cell with status.subtreeControllers := controllers }
      return { cell with status.subtreeControllers := controllers }

def ensureCellCgroup (inputs : CgroupInputs) (cell : Cell) : RunnerM Cell := do
  ofResult (requireAll
    [ (cell.spec.realmName, .realmNameRequired), (cell.spec.spaceName, .spaceNameRequired),
      (cell.spec.stackName, .stackNameRequired) ])
  let _ ← ofResult ((resolveCellRootContainer cell.spec).mapError .conversion)
  outside inputs.reach
  if inputs.created ∨ cell.status.cgroupPath = "" then
    let cell := { cell with status.cgroupPath := inputs.group }
    updateCellMetadata cell
    if inputs.group = "" then return cell else recordCgroup inputs cell
  else recordCgroup inputs cell

theorem requireAll_eq_ok {texts : List (String × RunnerError)} :
    requireAll texts = .ok () ↔ ∀ text ∈ texts, trimSpace text.1 ≠ "" := by
  induction texts with
  | nil => simp [requireAll]
  | cons first rest ih =>
    unfold requireAll
    by_cases hb : trimSpace first.1 = ""
    · simp [hb]
    · simp [hb, ih]

theorem requireAll_ne_notFound {texts : List (String × RunnerError)}
    (hn : ∀ text ∈ texts, text.2 ≠ .cellNotFound) : requireAll texts ≠ .error .cellNotFound := by
  induction texts with
  | nil => simp [requireAll]
  | cons first rest ih =>
    unfold requireAll
    split <;> simp_all

section Reads

-- The checks for blank names are never evaluated.
attribute [local irreducible] trimSpace

/-- A read asks for the names that every operation asks for, in another order, and changes nothing. -/
theorem getCell_cases (read : CellRead) (cell : Cell) (host : CellHost) :
    (∃ err, err ≠ .cellNotFound ∧ getCell read cell host = (.error err, host) ∧
        ¬ (requireCoordinates cell = .ok () ∧ read.fault = none)) ∨
      requireCoordinates cell = .ok () ∧ read.fault = none ∧
        getCell read cell host = (match host.disk with
          | none => .error .cellNotFound
          | some doc => .ok (populateCellContainerStatuses host.now read.survey doc), host) := by
  have hr : requireAll
      [ (cell.spec.realmName, .realmNameRequired), (cell.spec.spaceName, .spaceNameRequired),
        (cell.spec.stackName, .stackNameRequired), (cell.metadata.name, .cellNameRequired) ] =
      .ok () ↔ requireCoordinates cell = .ok () := by
    simp only [requireCoordinates, requireAll_eq_ok, List.forall_mem_cons]
    tauto
  unfold getCell
  rw [bind_apply]
  cases hc : requireAll
      [ (cell.spec.realmName, .realmNameRequired), (cell.spec.spaceName, .spaceNameRequired),
        (cell.spec.stackName, .stackNameRequired), (cell.metadata.name, .cellNameRequired) ] with
  | error err =>
    refine .inl ⟨err, ?_, rfl, fun ⟨ok, _⟩ => ?_⟩
    · rintro rfl
      exact requireAll_ne_notFound (by simp) hc
    · rw [hr.mpr ok] at hc
      cases hc
  | ok done =>
    cases hf : read.fault with
    | some text => exact .inl ⟨_, by simp, rfl, by simp⟩
    | none =>
      refine .inr ⟨hr.mp hc, rfl, ?_⟩
      refine (bind_of_yields (Yields.read host) _).trans ?_
      cases host.disk <;> rfl

end Reads

end Kukeon.Runner
