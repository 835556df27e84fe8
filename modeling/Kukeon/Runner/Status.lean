import Kukeon.Ctr.Client
import Kukeon.Lib.Keyed

/-! # Container statuses and the state of a cell

`populateCellContainerStatuses` of `internal/controller/runner/helpers.go` with
`mergeStageStatuses` of `stage_status.go`, and the derivation of a cell's state from the populated
statuses in `refresh.go`. What containerd and the sockets of attachable containers report during
one pass is a `Survey`.
-/

/-! ## `GetContainerObservation` of `container_state.go` -/

namespace Kukeon.Runner

open ModelHub GoText Ctr

structure ContainerObservation where
  state : ContainerState
  exitCode : Int := 0
  exitTime : Time := 0
  deriving DecidableEq

inductive RunnerError where
  | containerIDRequired
  | cellNameRequired
  | realmNameRequired
  | spaceNameRequired
  | stackNameRequired
  | cellIDRequired
  | cellNotFound
  | containerdID
  | conversion (text : String)
  /-- A write refused because the disk has moved past the generation the caller saw. -/
  | staleResource (observed onDisk : Int)
  /-- Containerd, the network plugins, the cgroup tree, a realm or a file. -/
  | io (text : String)
  | wrap (text : String) (cause : RunnerError)
  deriving DecidableEq

def realmNamespaceSuffix : String := ".kukeon.io"

def realmNamespace (realm : String) : String := realm ++ realmNamespaceSuffix

/-- What the outside gives one status read: the connection, the namespace of the realm's metadata
    and containerd. -/
structure StatusRead where
  connect : Except String Unit := .ok ()
  realm : Except String String
  containerd : Answers

/-- The identifier of a container in containerd: as stored, or built from the coordinates. -/
def containerdIDOf (cell : Cell) (cellID : String) (spec : ContainerSpec) : Option String :=
  if spec.containerdID ≠ "" then some spec.containerdID
  else if spec.root then buildRootContainerdID cell.spec.spaceName cell.spec.stackName cellID
  else buildContainerdID cell.spec.spaceName cell.spec.stackName cellID spec.id

inductive ObservationTarget where
  | query (ns containerdID : String)
  /-- No container of the spec has the identifier. -/
  | absent
  deriving DecidableEq

/-- The part of `GetContainerObservation` that comes before the first question about the
    container. -/
def observationTarget (read : StatusRead) (cell : Cell) (containerID : String) :
    Except RunnerError ObservationTarget := do
  let containerID := trimSpace containerID
  if containerID = "" then throw .containerIDRequired
  let cellName := trimSpace cell.metadata.name
  if cellName = "" then throw .cellNotFound
  let realmName := trimSpace cell.spec.realmName
  if realmName = "" then throw .realmNameRequired
  if trimSpace cell.spec.spaceName = "" then throw .spaceNameRequired
  if trimSpace cell.spec.stackName = "" then throw .stackNameRequired
  match read.connect with
  | .error text => throw (.io text)
  | .ok _ => pure ()
  let stored ← match read.realm with
    | .error text => throw (.io text)
    | .ok stored => pure stored
  let ns := if stored = "" then realmNamespace realmName else stored
  match cell.spec.containers.find? fun spec => spec.id = containerID with
  | none => return .absent
  | some spec =>
    let cellID := if trimSpace cell.spec.id = "" then cellName else trimSpace cell.spec.id
    match containerdIDOf cell cellID spec with
    | none => throw .containerdID
    | some containerdID => return .query ns containerdID

/-- The questions `GetContainerObservation` asks containerd, and what it makes of the answers. -/
def queryContainer (answers : Answers) (ns containerdID : String) (client : Client) :
    ContainerObservation × Client :=
  match client.existsContainer answers ns containerdID with
  | (.error _, client) => ({ state := .unknown }, client)
  | (.ok false, client) => ({ state := .notCreated }, client)
  | (.ok true, client) =>
    match client.taskStatus answers ns containerdID with
    | (.ok report, client) =>
      ({ state := convertContainerdStatusToContainerState report
         exitCode := report.exitStatus.toNat
         exitTime := report.exitTime }, client)
    | (.error err, client) =>
      -- A task that is gone from a surviving record is what a reboot leaves.
      if err.isTaskNotFound then ({ state := .stopped }, client)
      else ({ state := .unknown }, client)

def getContainerObservation (read : StatusRead) (cell : Cell) (containerID : String)
    (client : Client) : Except RunnerError ContainerObservation × Client :=
  match observationTarget read cell containerID with
  | .error err => (.error err, client)
  | .ok .absent => (.ok { state := .unknown }, client)
  | .ok (.query ns containerdID) =>
    let (observation, client) := queryContainer read.containerd ns containerdID client
    (.ok observation, client)

/-- The task is no longer running and will not run again on its own. -/
def containerStateIsTerminal : ContainerState → Bool
  | .stopped | .exited | .error | .failed | .notCreated => true
  | .pending | .ready | .paused | .pausing | .unknown => false

/-- What one pass over the containers of a cell learns: for the container at each position its
    observation and the setup records its socket serves. -/
structure Survey where
  observation : Nat → Except RunnerError ContainerObservation
  setup : Nat → Option (List RepoStatus × List StageStatus) := fun _ => none
  stageHash : TtyStage → String := fun _ => ""

def Survey.all (state : ContainerState) : Survey where
  observation _ := .ok { state := state }

/-- The observation recorded for a position: a failed read is an unknown state. -/
def Survey.seen (survey : Survey) (index : Nat) : ContainerObservation :=
  match survey.observation index with
  | .ok observation => observation
  | .error _ => { state := .unknown }

/-- `unix.SignalName` for the numbered signals of Linux, from 1 on. -/
def signalNames : List String :=
  [ "SIGHUP", "SIGINT", "SIGQUIT", "SIGILL", "SIGTRAP", "SIGABRT", "SIGBUS", "SIGFPE", "SIGKILL",
    "SIGUSR1", "SIGSEGV", "SIGUSR2", "SIGPIPE", "SIGALRM", "SIGTERM", "SIGSTKFLT", "SIGCHLD",
    "SIGCONT", "SIGSTOP", "SIGTSTP", "SIGTTIN", "SIGTTOU", "SIGURG", "SIGXCPU", "SIGXFSZ",
    "SIGVTALRM", "SIGPROF", "SIGWINCH", "SIGIO", "SIGPWR", "SIGSYS" ]

def exitSignalCodeBase : Int := 128

def maxSignalNumber : Int := 64

def exitSignalName (exitCode : Int) : String :=
  let signum := exitCode - exitSignalCodeBase
  if signum ≤ 0 ∨ maxSignalNumber < signum then ""
  else (signalNames[signum.toNat - 1]?).getD ""

example : exitSignalName 137 = "SIGKILL" := by decide

def runOnCreate : String := "create"

def stageDone : String := "done"

def hasCreateStages (spec : ContainerSpec) : Bool :=
  match spec.tty with
  | none => false
  | some tty => tty.onInit.any fun stage => stage.runOn == runOnCreate

/-- The setup records of a container, which only a ready attachable one with setup steps serves. -/
def setupStatuses (survey : Survey) (index : Nat) (spec : ContainerSpec) (state : ContainerState) :
    List RepoStatus × List StageStatus :=
  if !spec.attachable || state ≠ .ready then ([], [])
  else if spec.repos = [] ∧ !hasCreateStages spec then ([], [])
  else (survey.setup index).getD ([], [])

def mergeStage (stageHash : TtyStage → String) (prior live : List StageStatus) (index : Nat)
    (stage : TtyStage) : Option StageStatus :=
  if stage.runOn ≠ runOnCreate then none
  else
    match Keyed.find StageStatus.index index live with
    | some entry => some { entry with hash := stageHash stage }
    | none =>
      -- A stage edited since it ran has another hash, and runs again.
      match Keyed.find StageStatus.index index prior with
      | some entry =>
        if entry.hash = stageHash stage ∧ entry.state = stageDone then some entry else none
      | none => none

def mergeStageStatuses (stageHash : TtyStage → String) (spec : ContainerSpec)
    (prior live : List StageStatus) : List StageStatus :=
  match spec.tty with
  | none => []
  | some tty => (tty.onInit.mapIdx (mergeStage stageHash prior live)).reduceOption

/-- The status of one container: its observation merged with what the daemon recorded before. The
    exit is cleared while the container is ready, taken from an exit that carries a time, and
    otherwise preserved. -/
def populatedStatus (now : Time) (survey : Survey) (prior : List ContainerStatus) (index : Nat)
    (spec : ContainerSpec) : ContainerStatus :=
  let seen := survey.seen index
  let before := (Keyed.find ContainerStatus.id spec.id prior).getD {}
  let finish : Time × Int :=
    if seen.state = .ready then (0, 0)
    else if seen.exitTime ≠ 0 then (seen.exitTime, seen.exitCode)
    else (before.finishTime, before.exitCode)
  let setup := setupStatuses survey index spec seen.state
  { name := spec.id
    id := spec.id
    createdAt := if before.createdAt = 0 then now else before.createdAt
    state := seen.state
    restartCount := before.restartCount
    restartTime := before.restartTime
    startTime := if before.startTime = 0 ∧ seen.state = .ready then now else before.startTime
    finishTime := finish.1
    exitCode := finish.2
    exitSignal := exitSignalName finish.2
    repos := setup.1
    stages := mergeStageStatuses survey.stageHash spec before.stages setup.2 }

def populateCellContainerStatuses (now : Time) (survey : Survey) (cell : Cell) : Cell :=
  { cell with
    status.containers :=
      cell.spec.containers.mapIdx (populatedStatus now survey cell.status.containers) }

def exitCodeOnRecord (statuses : List ContainerStatus) (containerID : String) : Int :=
  ((Keyed.find ContainerStatus.id containerID statuses).getD {}).exitCode

theorem exitCodeOnRecord_congr {statuses others : List ContainerStatus}
    (hs : statuses.map (fun status => (status.id, status.exitCode)) =
      others.map fun status => (status.id, status.exitCode)) (containerID : String) :
    exitCodeOnRecord statuses containerID = exitCodeOnRecord others containerID :=
  Keyed.getD_find_congr ContainerStatus.exitCode hs {}

/-- The rows that the restart pass and the reap gate share today. -/
def policyActsOnExit (policy : String) (exitCode : Int) : Bool :=
  if policy = restartPolicyAlways then true
  else if policy = restartPolicyOnFailure then exitCode ≠ 0
  else if policy = "" ∨ policy = restartPolicyNever then false
  else true

def restartPolicyPermitsContainerReap (policy : String) (exitCode : Int) : Bool :=
  policyActsOnExit policy exitCode

def restartPolicyRequiresRestart (policy : String) (exitCode : Int) : Bool :=
  policyActsOnExit policy exitCode

def containerExitedNonZero (status : ContainerStatus) : Bool :=
  status.state = .failed || status.state = .error || status.exitCode ≠ 0

def nonRootWorkloadDegraded (spec : ContainerSpec) (status : ContainerStatus) : Bool :=
  containerExitedNonZero status || restartPolicyRequiresRestart spec.restartPolicy status.exitCode

def containerStateIsActive : ContainerState → Bool
  | .ready | .pending | .paused | .pausing => true
  | .stopped | .exited | .error | .failed | .notCreated | .unknown => false

def hasNonRootContainerSpec (specs : List ContainerSpec) : Bool :=
  specs.any fun spec => !spec.root

def nonRootSpecs (specs : List ContainerSpec) : List ContainerSpec :=
  specs.filter fun spec => !spec.root

structure Tally where
  seen : Nat := 0
  anyActive : Bool := false
  anyUnknown : Bool := false
  anyFailed : Bool := false
  anyDegraded : Bool := false
  deriving DecidableEq

def Tally.count (specs : List ContainerSpec) (tally : Tally) (status : ContainerStatus) : Tally :=
  match Keyed.find ContainerSpec.id status.id (nonRootSpecs specs) with
  | none => tally
  | some spec =>
    let tally := { tally with seen := tally.seen + 1 }
    match status.state with
    | .ready | .pending | .paused | .pausing => { tally with anyActive := true }
    | .unknown => { tally with anyUnknown := true }
    | .stopped | .exited | .error | .failed | .notCreated =>
      { tally with
        anyFailed := tally.anyFailed || containerExitedNonZero status
        anyDegraded := tally.anyDegraded || nonRootWorkloadDegraded spec status }

def deriveCellStateFromNonRootContainerStatuses (specs : List ContainerSpec)
    (statuses : List ContainerStatus) : CellState :=
  let tally := statuses.foldl (Tally.count specs) {}
  if tally.seen < (Keyed.keys ContainerSpec.id (nonRootSpecs specs)).length then .unknown
  else if tally.anyActive then if tally.anyDegraded then .degraded else .ready
  else if tally.anyUnknown then .unknown
  else if tally.anyFailed then .error
  else .exited

/-- The first container flagged as root, or else the first that the cell names as its root. -/
def findRootContainerSpec (spec : CellSpec) : Option ContainerSpec :=
  match spec.containers.find? fun container => container.root with
  | some container => some container
  | none =>
    if spec.rootContainerID ≠ "" then
      spec.containers.find? fun container => container.id = spec.rootContainerID
    else none

def rootContainerStillRunning (rootID : String) (statuses : List ContainerStatus) : Bool :=
  match statuses.find? fun status => status.id = rootID with
  | none => false
  | some status => containerStateIsActive status.state

def rootContainerExitedNonZero (rootID : String) (statuses : List ContainerStatus) : Bool :=
  match statuses.find? fun status => status.id = rootID with
  | none => false
  | some status => containerExitedNonZero status

/-- `rootState` is a read of the root container's state of its own, after the statuses were
    populated. -/
def deriveCellStateFromRootContainer (rootState : Except RunnerError ContainerState)
    (cell : Cell) : CellState :=
  match findRootContainerSpec cell.spec with
  | none => .ready
  | some root =>
    match rootState with
    | .error _ => .unknown
    | .ok state =>
      if containerStateIsActive state then .ready
      else if containerStateIsTerminal state then
        if rootContainerExitedNonZero root.id cell.status.containers then .error else .exited
      else .unknown

def deriveCellState (rootState : Except RunnerError ContainerState) (cell : Cell) : CellState :=
  if hasNonRootContainerSpec cell.spec.containers then
    deriveCellStateFromNonRootContainerStatuses cell.spec.containers cell.status.containers
  else deriveCellStateFromRootContainer rootState cell

end Kukeon.Runner
