import Kukeon.Runner.Host

/-! # One reconcile tick and one refresh of a cell

`ReconcileCell` and `RefreshCell` of `internal/controller/runner/refresh.go`, with the restart pass
and the two gates that reap a cell.
-/

namespace Kukeon.Runner

open ModelHub GoText Effect

def cellStateIsSticky (state : CellState) : Bool :=
  state = .failed || state = .error

def cellStateAutoDeleteTriggers (state : CellState) : Bool :=
  state = .exited

def latchReadyObserved (prior : Bool) (originalState newState : CellState) : Bool :=
  prior || newState = .ready || originalState = .ready || newState = .degraded ||
    originalState = .degraded

def shouldAutoDeleteCell (autoDelete : Bool) (newState : CellState) (readyObserved : Bool) : Bool :=
  autoDelete && cellStateAutoDeleteTriggers newState && readyObserved

def shouldWindDownCell (cell : Cell) (newState : CellState) : Bool :=
  if !cellStateAutoDeleteTriggers newState || !cell.status.readyObserved then false
  else if !hasNonRootContainerSpec cell.spec.containers then false
  else
    match findRootContainerSpec cell.spec with
    | none => false
    | some root => rootContainerStillRunning root.id cell.status.containers

def restartPolicyPermitsCellReap (cell : Cell) : Bool :=
  (nonRootSpecs cell.spec.containers).all fun spec =>
    match Keyed.find ContainerStatus.id spec.id cell.status.containers with
    | none => true
    | some status =>
      !containerStateIsTerminal status.state ||
        restartPolicyPermitsContainerReap spec.restartPolicy status.exitCode

/-- Equality of the identifiers and states, position by position. -/
def containerStatusesEqual (a b : List ContainerStatus) : Bool :=
  a.map (fun status => (status.id, status.state)) = b.map fun status => (status.id, status.state)

def observedGenerationBehind (status : CellStatus) (generation : Int) : Bool :=
  status.observedGeneration ≠ generation

def reasonWorkloadFailed : String := "WorkloadFailed"

def formatContainerFailure (status : ContainerStatus) : String :=
  if status.exitSignal ≠ "" then
    "container " ++ quoted status.id ++ " terminated by " ++ status.exitSignal ++ " (exit code " ++
      toString status.exitCode ++ ")"
  else "container " ++ quoted status.id ++ " exited with code " ++ toString status.exitCode

def describeCellFailure (cell : Cell) : String :=
  let statusOf := fun spec : ContainerSpec =>
    Keyed.find ContainerStatus.id spec.id cell.status.containers
  let failing :=
    if hasNonRootContainerSpec cell.spec.containers then
      ((nonRootSpecs cell.spec.containers).filterMap statusOf).find? fun status =>
        containerStateIsTerminal status.state && containerExitedNonZero status
    else
      match (findRootContainerSpec cell.spec).bind statusOf with
      | none => none
      | some status => if containerExitedNonZero status then some status else none
  (failing.map formatContainerFailure).getD ""

def cellFailureBreadcrumb (cell : Cell) : String × String :=
  let message := describeCellFailure cell
  (reasonWorkloadFailed,
    if message = "" then "workload exited with a non-zero status" else message)

def stampCellFailure (cell : Cell) : Cell :=
  { cell with
    status.reason := (cellFailureBreadcrumb cell).1
    status.message := (cellFailureBreadcrumb cell).2 }

/-- Nanoseconds, the unit of `time.Duration`. -/
def second : Int := 1000000000

/-- What the 64 bits of a `time.Duration` hold of a number of nanoseconds. -/
def duration (nanoseconds : Int) : Int := nanoseconds.bmod (2 ^ 64)

def restartBackoff : Int := 30 * second

def onFailureMaxRestarts : Int := 5

def effectiveRestartBackoff (spec : ContainerSpec) : Int :=
  match spec.restartBackoffSeconds with
  | some seconds => duration (seconds * second)
  | none => restartBackoff

def effectiveOnFailureMaxRestarts (spec : ContainerSpec) : Int :=
  spec.restartMaxRetries.getD onFailureMaxRestarts

inductive RestartPassResult where
  | restartNone
  | restartFired
  | restartDeferred
  deriving DecidableEq

def restartDecisionFor (now : Time) (state : Option ContainerRestartState) (policy : String)
    (backoff maxRetries : Int) : RestartPassResult :=
  match state with
  | none => .restartFired
  | some state =>
    if policy = restartPolicyOnFailure ∧ maxRetries ≤ state.attempts then .restartNone
    else if state.lastAttempt ≠ 0 ∧ (now : Int) - state.lastAttempt < backoff then
      .restartDeferred
    else .restartFired

def recordRestartAttempt (containerID : String) : RunnerM Unit :=
  modify fun host =>
    let state := (host.restarts.lookup containerID).getD {}
    { host with
      restarts := host.restarts.insert containerID
        { attempts := state.attempts + 1, lastAttempt := host.now } }

def clearRestartState (containerID : String) : RunnerM Unit :=
  modify fun host => { host with restarts := host.restarts.erase containerID }

def stampContainerRestart (now : Time) (containerID : String) : List ContainerStatus →
    List ContainerStatus
  | [] => []
  | status :: rest =>
    if status.id = containerID then
      { status with restartCount := status.restartCount + 1, restartTime := now } :: rest
    else status :: stampContainerRestart now containerID rest

theorem exitCodeOnRecord_stamp (now : Time) (containerID : String)
    (statuses : List ContainerStatus) (id : String) :
    exitCodeOnRecord (stampContainerRestart now containerID statuses) id =
      exitCodeOnRecord statuses id := by
  refine exitCodeOnRecord_congr ?_ id
  induction statuses with
  | nil => rfl
  | cons status rest ih =>
    unfold stampContainerRestart
    split
    · rfl
    · rw [List.map_cons, List.map_cons, ih]

/-- What the pass does with a container whose policy requires a restart. -/
def restartExited (start : StartInputs) (cell : Cell) (spec : ContainerSpec)
    (result : RestartPassResult) : RunnerM (Cell × RestartPassResult) := do
  let host ← get
  match restartDecisionFor host.now (host.restarts.lookup spec.id) spec.restartPolicy
      (effectiveRestartBackoff spec) (effectiveOnFailureMaxRestarts spec) with
  | .restartFired =>
    log (.relaunching spec.id)
    let relaunched ← attempt (startContainer start cell spec.id)
    recordRestartAttempt spec.id
    match relaunched with
    | .error err => throw (.wrap ("restart container " ++ quoted spec.id) err)
    | .ok started =>
      return ({ started with
        status.containers :=
          stampContainerRestart host.now spec.id started.status.containers }, .restartFired)
  | .restartDeferred =>
    return (cell, if result = .restartNone then .restartDeferred else result)
  | .restartNone => return (cell, result)

/-- One turn of the loop of `maybeRestartExitedContainers`. After a relaunch `cell` is the cell the
    relaunch returned, and the loop goes on with the spec of that one; a spec shorter than the
    one the loop started with is indexed past its end, which panics. -/
def restartTurn (starts : Nat → StartInputs) (statuses : List ContainerStatus) (index : Nat)
    (cell : Cell) (result : RestartPassResult) : RunnerM (Cell × RestartPassResult) :=
  match cell.spec.containers[index]? with
  | none => throw (.io "index out of range")
  | some spec =>
    if spec.root then return (cell, result)
    else
      match Keyed.find ContainerStatus.id spec.id statuses with
      | none => return (cell, result)
      | some status =>
        if !containerStateIsTerminal status.state then do
          clearRestartState spec.id
          return (cell, result)
        else if restartPolicyRequiresRestart spec.restartPolicy status.exitCode then
          restartExited (starts index) cell spec result
        else return (cell, result)

def restartTurns (starts : Nat → StartInputs) (statuses : List ContainerStatus) :
    List Nat → Cell → RestartPassResult → RunnerM (Cell × RestartPassResult)
  | [], cell, result => return (cell, result)
  | index :: rest, cell, result => do
      let (cell, result) ← restartTurn starts statuses index cell result
      restartTurns starts statuses rest cell result

def rootDown (cell : Cell) : Bool :=
  match findRootContainerSpec cell.spec with
  | none => false
  | some root => !rootContainerStillRunning root.id cell.status.containers

def maybeRestartExitedContainers (starts : Nat → StartInputs) (cell : Cell) :
    RunnerM (Cell × RestartPassResult) :=
  if !cell.status.readyObserved then return (cell, .restartNone)
  else if rootDown cell then return (cell, .restartNone)
  else
    restartTurns starts cell.status.containers (List.range cell.spec.containers.length) cell
      .restartNone

structure ReconcileOutcome where
  updated : Bool := false
  deleted : Bool := false
  vanished : Bool := false
  deriving DecidableEq

def windDownCell (kill : KillInputs) (cell : Cell) : RunnerM (Cell × ReconcileOutcome) := do
  let updatedCell ← rewording (.wrap "wind-down: kill cell") (killCellLocked kill cell)
  return (updatedCell, { updated := true })

def autoDeleteCell (kill : KillInputs) (delete : DeleteInputs) (cell : Cell) :
    RunnerM (Cell × ReconcileOutcome) := do
  let _ ← rewording (.wrap "auto-delete: kill cell") (killCellLocked kill cell)
  rewording (.wrap "auto-delete: delete cell") (deleteCellLocked delete cell)
  return (cell, { deleted := true })

/-- Everything a tick learns from outside, by the step that asks. -/
structure TickInputs where
  reread : CellRead
  cgroup : Except String Bool := .ok true
  heal : CgroupInputs := { group := "" }
  survey : Survey
  rootState : Except RunnerError ContainerState := .ok .unknown
  starts : Nat → StartInputs
  kill : KillInputs
  delete : DeleteInputs

/-- A tick in which every step succeeds and every read of statuses has the same result. -/
def TickInputs.steady (survey : Survey) : TickInputs where
  reread := { survey := survey }
  survey := survey
  starts _ :=
    { reread := { survey := survey }, survey := survey
      failure :=
        { before := { survey := survey }
          kill := { read := { survey := survey }, after := survey }
          after := { survey := survey } } }
  kill := { read := { survey := survey }, after := survey }
  delete := { read := { survey := survey } }

def persistIf (changed : Bool) (cell : Cell) : RunnerM (Cell × ReconcileOutcome) := do
  if changed then
    let persisted ← rewording (.wrap "failed to update cell metadata")
      (persistCellStatusGuarded cell)
    return (cell, { updated := persisted })
  else return (cell, {})

/-- The tick of a cell in a sticky state refreshes its container statuses only. -/
def reconcileSticky (survey : Survey) (cell : Cell) : RunnerM (Cell × ReconcileOutcome) := do
  let host ← get
  let populated := populateCellContainerStatuses host.now survey cell
  persistIf (!containerStatusesEqual cell.status.containers populated.status.containers ||
    observedGenerationBehind cell.status cell.metadata.generation) populated

/-- A cgroup that is gone although the cell has been up is made again. -/
def healCgroup (cgroup : Except String Bool) (heal : CgroupInputs) (cell : Cell) :
    RunnerM Cell := do
  let checked := { cell with status.cgroupReady := cgroup.toOption.getD false }
  if cgroup.toOption = some false ∧ cell.status.readyObserved then
    match ← attempt (ensureCellCgroup heal checked) with
    | .ok healed => return { healed with status.cgroupReady := true }
    | .error _ => return checked
  else return checked

def derivedState (inputs : TickInputs) (cell : Cell) : CellState :=
  match inputs.cgroup with
  | .error _ => .unknown
  | .ok _ => deriveCellState inputs.rootState cell

def deriveStatus (inputs : TickInputs) (now : Time) (original : CellStatus) (cell : Cell) : Cell :=
  let cell := populateCellContainerStatuses now inputs.survey cell
  let newState := derivedState inputs cell
  let cell :=
    { cell with
      status.state := newState
      status.readyObserved :=
        latchReadyObserved original.readyObserved original.state newState }
  if newState = .error ∧ original.state ≠ .error then stampCellFailure cell else cell

section DeriveStatus

variable (inputs : TickInputs) (now : Time) (original : CellStatus) (cell : Cell)

@[simp] theorem deriveStatus_metadata :
    (deriveStatus inputs now original cell).metadata = cell.metadata := by
  unfold deriveStatus
  dsimp only
  split <;> rfl

@[simp] theorem deriveStatus_spec :
    (deriveStatus inputs now original cell).spec = cell.spec := by
  unfold deriveStatus
  dsimp only
  split <;> rfl

@[simp] theorem deriveStatus_containers :
    (deriveStatus inputs now original cell).status.containers =
      (populateCellContainerStatuses now inputs.survey cell).status.containers := by
  unfold deriveStatus
  dsimp only
  split <;> rfl

@[simp] theorem deriveStatus_times :
    (deriveStatus inputs now original cell).status.createdAt = cell.status.createdAt ∧
      (deriveStatus inputs now original cell).status.readyAt = cell.status.readyAt := by
  unfold deriveStatus
  dsimp only
  split <;> exact ⟨rfl, rfl⟩

@[simp] theorem deriveStatus_state :
    (deriveStatus inputs now original cell).status.state =
      derivedState inputs (populateCellContainerStatuses now inputs.survey cell) := by
  unfold deriveStatus
  dsimp only
  split <;> rfl

@[simp] theorem deriveStatus_readyObserved :
    (deriveStatus inputs now original cell).status.readyObserved =
      latchReadyObserved original.readyObserved original.state
        (deriveStatus inputs now original cell).status.state := by
  rw [deriveStatus_state]
  unfold deriveStatus
  dsimp only
  split <;> rfl

end DeriveStatus

def statusChanged (original : CellStatus) (cell : Cell) : Bool :=
  original.state ≠ cell.status.state || original.readyObserved ≠ cell.status.readyObserved ||
    original.cgroupReady ≠ cell.status.cgroupReady ||
    !containerStatusesEqual original.containers cell.status.containers ||
    observedGenerationBehind original cell.metadata.generation

/-- While a restart is owed the cell is held in a state that a later tick derives again. -/
def holdDegraded (original : CellStatus) (cell : Cell) : Cell :=
  { cell with
    status.state := .degraded
    status.reason := original.reason
    status.message := original.message }

def holdDeferred (original : CellStatus) (cell : Cell) : Cell :=
  { holdDegraded original cell with status.readyObserved := original.readyObserved }

/-- `windDown` is a parameter so that its place can be spoken of. -/
def reapOrPersist (inputs : TickInputs) (original : CellStatus) (newState : CellState)
    (cell : Cell)
    (windDown : KillInputs → Cell → RunnerM (Cell × ReconcileOutcome) := windDownCell) :
    RunnerM (Cell × ReconcileOutcome) :=
  if shouldAutoDeleteCell cell.spec.autoDelete newState cell.status.readyObserved then
    autoDeleteCell inputs.kill inputs.delete cell
  else if restartPolicyPermitsCellReap cell && shouldWindDownCell cell newState then
    windDown inputs.kill cell
  else persistIf (statusChanged original cell) cell

def settleCell (inputs : TickInputs) (original : CellStatus) (derived : Cell)
    (windDown : KillInputs → Cell → RunnerM (Cell × ReconcileOutcome) := windDownCell) :
    RunnerM (Cell × ReconcileOutcome) := do
  let (cell, result) ← maybeRestartExitedContainers inputs.starts derived
  match result with
  | .restartFired => persistIf true (holdDegraded original cell)
  | .restartDeferred =>
    persistIf (statusChanged original (holdDeferred original cell)) (holdDeferred original cell)
  | .restartNone => reapOrPersist inputs original derived.status.state cell windDown

/-- The tick on a cell that is still there. -/
def tickFrom (inputs : TickInputs) (cell : Cell)
    (windDown : KillInputs → Cell → RunnerM (Cell × ReconcileOutcome) := windDownCell) :
    RunnerM (Cell × ReconcileOutcome) :=
  if cellStateIsSticky cell.status.state then reconcileSticky inputs.survey cell
  else do
    let healed ← healCgroup inputs.cgroup inputs.heal cell
    let host ← get
    let derived := deriveStatus inputs host.now cell.status healed
    set { host with derived := some derived.status.state }
    settleCell inputs cell.status derived windDown

/-- The tick works on `cell`, which was read when the pass listed the cells; what it reads once it
    holds the lock only tells it whether the document is still there. -/
def reconcileCell (inputs : TickInputs) (cell : Cell)
    (windDown : KillInputs → Cell → RunnerM (Cell × ReconcileOutcome) := windDownCell) :
    RunnerM (Cell × ReconcileOutcome) := do
  modify fun host => { host with derived := none }
  match ← attempt (getCell inputs.reread cell) with
  | .error .cellNotFound => return (cell, { vanished := true })
  | _ => tickFrom inputs cell windDown

structure RefreshInputs where
  cgroup : Except String Bool := .ok true
  survey : Survey
  rootState : Except RunnerError ContainerState := .ok .unknown
  /-- Whether the realm of the container at a position could be read. -/
  realm : Nat → Bool := fun _ => true

/-- `refreshContainerStatus`: a missing identifier is filled in. -/
def refreshContainerSpec (inputs : RefreshInputs) (cell : Cell) (index : Nat)
    (spec : ContainerSpec) : ContainerSpec :=
  if inputs.realm index then
    match containerdIDOf cell cell.spec.id spec with
    | some containerdID => { spec with containerdID := containerdID }
    | none => spec
  else spec

def countContainerStatusChanges (original next : List ContainerStatus) : Nat :=
  next.countP fun status =>
    match Keyed.find ContainerStatus.id status.id original with
    | none => true
    | some before => before.state ≠ status.state

/-- The status a refresh computes. It is built anew: fields it does not name are blank. -/
def refreshedStatus (inputs : RefreshInputs) (original : CellStatus) (populated : Cell) :
    CellStatus :=
  let state :=
    match inputs.cgroup with
    | .error _ => CellState.unknown
    | .ok _ => deriveCellState inputs.rootState populated
  let crash := state = .error ∧ original.state ≠ .error
  { state := state
    cgroupPath := original.cgroupPath
    cgroupReady := inputs.cgroup.toOption.getD false
    containers := populated.status.containers
    readyObserved := latchReadyObserved original.readyObserved original.state state
    createdAt := original.createdAt
    readyAt := original.readyAt
    reason := if crash then (cellFailureBreadcrumb populated).1 else original.reason
    message := if crash then (cellFailureBreadcrumb populated).2 else original.message }

/-- Returns the cell and the number of containers reported as updated. There is no lock and no
    check for a sticky state. -/
def refreshCell (inputs : RefreshInputs) (cell : Cell) : RunnerM (Cell × Nat) := do
  modify fun host => { host with derived := none }
  let host ← get
  let original := cell.status
  let populated := populateCellContainerStatuses host.now inputs.survey cell
  let next := refreshedStatus inputs original populated
  modify fun host => { host with derived := some next.state }
  let specs := cell.spec.containers.mapIdx (refreshContainerSpec inputs cell)
  let filled := { populated with spec.containers := specs }
  let statusesDiffer := !containerStatusesEqual original.containers next.containers
  let containersUpdated :=
    (cell.spec.containers.zip specs).countP (fun pair => pair.1.containerdID ≠ pair.2.containerdID)
      + if statusesDiffer then countContainerStatusChanges original.containers next.containers
        else 0
  let cellUpdated :=
    next.state ≠ original.state ∨ next.cgroupPath ≠ original.cgroupPath ∨
      next.cgroupReady ≠ original.cgroupReady ∨ next.readyObserved ≠ original.readyObserved ∨
      statusesDiffer
  let cell := if cellUpdated then { filled with status := next } else filled
  if cellUpdated ∨ 0 < containersUpdated then
    let persisted ← rewording (.wrap "failed to update cell metadata")
      (persistCellStatusGuarded cell)
    return (cell, if persisted then containersUpdated else 0)
  else return (cell, containersUpdated)

end Kukeon.Runner
