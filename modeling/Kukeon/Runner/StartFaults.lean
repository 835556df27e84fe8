import Kukeon.Runner.StartGuard

/-! # Starting a cell step by step

`startCellLocked` of `internal/controller/runner/start.go` with everything that can go wrong on its
way: each call of containerd, of the network plugins and of the file system has its fault among the
inputs. Beside the document of the cell the host keeps the containers of the realm's namespace and
the order in which tasks were started and looked at. What the start writes onto the specs of the
containers only for the runtime (paths, environment, cgroup) is no part of their hash and left out.
-/

namespace Kukeon.Runner.StartFaults

open ModelHub GoText Effect

/-- What a liveness check found; blank identifiers mean that all tasks run. -/
structure LiveCheckResult where
  containerdID : String := ""
  containerID : String := ""
  status : String := ""
  err : Option String := none
  deriving DecidableEq

def LiveCheckResult.allLive (result : LiveCheckResult) : Prop :=
  result.containerdID = "" ∧ result.containerID = ""

instance (result : LiveCheckResult) : Decidable result.allLive :=
  inferInstanceAs (Decidable (_ ∧ _))

inductive StartFailure where
  | rootSpecHashDrift (cellName onDisk desired : String)
  | etcFiles (cause : String)
  | createRoot (containerdID cause : String)
  | startRoot (containerdID cause : String)
  | rootPid (containerdID : String)
  | cniManager (cause : String)
  | cniConfig (path cause : String)
  | attachRoot (containerdID cause : String)
  | emptyContainerdID (containerID : String)
  | checkContainer (containerdID cause : String)
  | specHashDrift (cellName containerdID onDisk desired : String)
  | prepareAttachable (containerdID cause : String)
  | createContainer (containerdID cause : String)
  | chownTty (containerdID cause : String)
  | chownVolume (containerdID cause : String)
  | startContainer (containerdID cause : String)
  | notLive (cellName : String) (result : LiveCheckResult)
  deriving DecidableEq

def errCellSpecHashDrift : String := "cell spec hash diverges from containerd record"

def errCellWindDownImmediate : String := "cell wound down immediately after start"

def errInitCniManager : String := "failed to initiate cni manager"

def formatLivenessFailure (cellName : String) (result : LiveCheckResult) : String :=
  if result.allLive then
    errCellWindDownImmediate ++ ": " ++ cellName ++ ": liveness check reported success"
  else
    let label :=
      if result.containerID ≠ "" then "container " ++ quoted result.containerID
      else "root container " ++ quoted result.containerdID
    let statusFragment :=
      match result.err with
      | some err => "status probe failed: " ++ err
      | none => "task status=" ++ result.status
    let suffix :=
      if result.containerID ≠ "" then
        "; run `kuke log " ++ cellName ++ " --container " ++ result.containerID ++ "` for details"
      else "; run `kuke log " ++ cellName ++ "` for details"
    errCellWindDownImmediate ++ ": cell " ++ quoted cellName ++ ": " ++ label ++
      " exited within startup grace window (" ++ statusFragment ++ ")" ++ suffix

def StartFailure.text : StartFailure → String
  | .rootSpecHashDrift cellName onDisk desired =>
    errCellSpecHashDrift ++ ": cell " ++ quoted cellName ++
      ": containerd record carries spec-hash " ++ quoted onDisk ++ " but cell spec hashes to " ++
      quoted desired ++ " — run `kuke apply -f` to reconcile"
  | .etcFiles cause => "render cell etc files: " ++ cause
  | .createRoot containerdID cause =>
    "failed to create root container " ++ containerdID ++ ": " ++ cause
  | .startRoot containerdID cause =>
    "failed to start root container " ++ containerdID ++ ": " ++ cause
  | .rootPid containerdID => "root container " ++ containerdID ++ " has invalid pid (0)"
  | .cniManager cause => errInitCniManager ++ ": " ++ cause
  | .cniConfig path cause => "failed to load CNI config " ++ path ++ ": " ++ cause
  | .attachRoot containerdID cause =>
    "failed to attach root container " ++ containerdID ++ " to network: " ++ cause
  | .emptyContainerdID containerID =>
    "container " ++ quoted containerID ++ " has empty ContainerdID"
  | .checkContainer containerdID cause =>
    "failed to check existing container " ++ containerdID ++ ": " ++ cause
  | .specHashDrift cellName containerdID onDisk desired =>
    errCellSpecHashDrift ++ ": cell " ++ quoted cellName ++ ": container " ++
      quoted containerdID ++ " carries spec-hash " ++ quoted onDisk ++
      " but cell spec hashes to " ++ quoted desired ++ " — run `kuke apply -f` to reconcile"
  | .prepareAttachable containerdID cause =>
    "failed to prepare attachable container " ++ containerdID ++ ": " ++ cause
  | .createContainer containerdID cause =>
    "failed to create container " ++ containerdID ++ ": " ++ cause
  | .chownTty containerdID cause =>
    "failed to chown attachable tty dir for " ++ containerdID ++ ": " ++ cause
  | .chownVolume containerdID cause =>
    "failed to chown volume dir for " ++ containerdID ++ ": " ++ cause
  | .startContainer containerdID cause =>
    "failed to start container " ++ containerdID ++ ": " ++ cause
  | .notLive cellName result => formatLivenessFailure cellName result

def maxFailureMessageLen : Nat := 256

def truncateFailureMessage (cause : String) : String :=
  let spaced := cause.toList.map fun c => if c = '\n' ∨ c = '\r' ∨ c = '\t' then ' ' else c
  let flat := joinFields false false spaced
  if maxFailureMessageLen < (flat.map Char.utf8Size).sum then
    String.ofList (cutToBytes (maxFailureMessageLen - 3) flat ++ "...".toList)
  else String.ofList flat

/-- A task is started, or its status is read and found running or not. -/
inductive TaskEvent where
  | started (containerdID : String)
  | probed (containerdID : String) (running : Bool)
  deriving DecidableEq

structure StartHost where
  cell : CellHost
  records : Records
  timeline : List TaskEvent := []

def StartHost.noted (host : StartHost) (event : TaskEvent) : StartHost :=
  { host with timeline := host.timeline ++ [event] }

namespace Records

def find (records : Records) (id : String) : Option ContainerRecord :=
  if trimSpace id = "" then none else records.lookup id

def ended (records : Records) (ids : List String) : Records :=
  records.map fun entry =>
    (entry.1, if entry.1 ∈ ids then { entry.2 with running := false } else entry.2)

def update (records : Records) (id : String) (f : ContainerRecord → ContainerRecord) : Records :=
  records.map fun entry => if entry.1 = id then (entry.1, f entry.2) else entry

end Records

def hear (records : Records) : Event → Records
  | .killed ids => Records.ended records ids
  | _ => records

inductive StartError where
  /-- Nothing was provisioned yet. -/
  | runner (cause : RunnerError)
  | provision (cause : ProvisionError)
  | failed (failure : StartFailure)
  deriving DecidableEq

abbrev StartM := Effect StartHost StartError

/-- The steps behind `provisionStarted`. -/
abbrev ProvisionM := Effect StartHost StartFailure

/-- An operation on the document; the kills it sends are carried out. -/
def onCell {α : Type} (m : RunnerM α) : StartM α := fun host =>
  ((ending m host.cell).mapError .runner,
    { host with
      cell := finalState m host.cell
      records := ((finalState m host.cell).trace.drop host.cell.trace.length).foldl hear
        host.records })

def faultAs (wrap : String → StartFailure) : Option String → ProvisionM Unit
  | some text => throw (wrap text)
  | none => pure ()

def onRecords (wrap : String → StartFailure) (f : Records → Except String Records) :
    ProvisionM Unit := do
  let host ← get
  match f host.records with
  | .error text => throw (wrap text)
  | .ok records => set { host with records := records }

/-- The faults at one container: at looking it up, reading and writing its labels, dropping a stale
    task, preparing its terminal, creating it, handing it its directories and starting its task. -/
structure ContainerFaults where
  lookup : Option String := none
  labels : Option String := none
  restamp : Option String := none
  dropTask : Option String := none
  prepare : Option String := none
  create : Option String := none
  chownTty : Option String := none
  chownVolume : Option String := none
  start : Option String := none

inductive AttachAnswer where
  | attached
  /-- `ErrCNIVethExists`. -/
  | vethExists
  | failed (text : String)

/-- One look at the tasks: which have ended by then, and for which the read fails. -/
structure Poll where
  exits : List String := []
  faults : String → Option String := fun _ => none

structure Faults where
  /-- At the status reads of the idempotency guard. -/
  guard : String → Option String := fun _ => none
  etcFiles : Option String := none
  root : ContainerFaults := {}
  rootPid : Nat := 1
  cniManager : Option String := none
  cniConfig : Option String := none
  attach : AttachAnswer := .attached
  /-- At the containers in the order of the loop. -/
  containers : Nat → ContainerFaults := fun _ => {}
  /-- The polls for which the grace window has room; there is always one. -/
  firstPoll : Poll := {}
  laterPolls : List Poll := []

/-- What a start is given besides: how the reads around it go and what the surveys see. -/
structure StartReads where
  read : CellRead
  /-- The connection and the realm with its namespace. -/
  reach : Except String Unit := .ok ()
  survey : Survey
  cleanup : FailInputs

section Status

variable {ε : Type}

def taskAnswer (records : Records) (faults : String → Option String) (id : String) :
    Except String Bool :=
  match faults id with
  | some text => .error text
  | none =>
    match Records.find records id with
    | none => .error "container not found"
    | some record => .ok record.running

def taskStatus (faults : String → Option String) (id : String) :
    Effect StartHost ε (Except String Bool) := do
  let host : StartHost ← get
  let answer := taskAnswer host.records faults id
  set (host.noted (.probed id (answer.toOption.getD false)))
  return answer

def nonRootTasksRunning (faults : String → Option String) :
    List ContainerSpec → Effect StartHost ε Bool
  | [] => return true
  | spec :: rest => do
      let cid := trimSpace spec.containerdID
      if cid = "" then return false
      else
        match ← taskStatus faults cid with
        | .ok true => nonRootTasksRunning faults rest
        | _ => return false

def cellTasksAllRunningFn (faults : String → Option String) (cell : Cell)
    (rootContainerdID : String) : Effect StartHost ε Bool := do
  match ← taskStatus faults rootContainerdID with
  | .ok true => nonRootTasksRunning faults (nonRootSpecs cell.spec.containers)
  | _ => return false

def notLive (containerdID containerID : String) (answer : Except String Bool) : LiveCheckResult where
  containerdID := containerdID
  containerID := containerID
  status := match answer with
    | .ok _ => "stopped"
    | .error _ => ""
  err := match answer with
    | .ok _ => none
    | .error text => some text

def firstNonLiveAmong (faults : String → Option String) :
    List ContainerSpec → Effect StartHost ε LiveCheckResult
  | [] => return {}
  | spec :: rest => do
      let cid := trimSpace spec.containerdID
      if cid = "" then return { containerID := spec.id }
      else
        match ← taskStatus faults cid with
        | .ok true => firstNonLiveAmong faults rest
        | answer => return notLive cid spec.id answer

def firstNonLiveContainer (faults : String → Option String) (rootContainerdID : String)
    (specs : List ContainerSpec) : Effect StartHost ε LiveCheckResult := do
  match ← taskStatus faults rootContainerdID with
  | .ok true => firstNonLiveAmong faults specs
  | answer => return notLive rootContainerdID "" answer

end Status

def verifyCellTasksLiveAfterStart (cellName rootContainerdID : String)
    (specs : List ContainerSpec) : List Poll → ProvisionM Unit
  | [] => return ()
  | poll :: later => do
      modify fun host => { host with records := Records.ended host.records poll.exits }
      let result ← firstNonLiveContainer poll.faults rootContainerdID specs
      if result.allLive then
        verifyCellTasksLiveAfterStart cellName rootContainerdID specs later
      else throw (.notLive cellName result)

section Containers

variable (digest : ContainerSpecHashPayload → String)

def readLabels (fault : Option String) (record : ContainerRecord) : ContainerRecord :=
  if fault.isSome then { record with specHash := "", specHashVersion := "" } else record

/-- `restampSpecHashLabels`; its failure is logged and passed over. -/
def restampSpecHashLabels (fault : Option String) (id : String) (spec : ContainerSpec)
    (records : Records) : Records :=
  if fault.isSome then records
  else Records.update records id fun record =>
    { stampedRecord digest spec with running := record.running }

/-- A container that is there is refused over its stamp, or loses its stale task and is reused. -/
def reuseExisting (faults : ContainerFaults) (drift : String → String → StartFailure) (id : String)
    (spec : ContainerSpec) (record : ContainerRecord) : ProvisionM Unit := do
  let labels := readLabels faults.labels record
  let desired := computeContainerSpecHash digest spec
  match classifySpecHashReuse labels desired with
  | .refuse => throw (drift labels.specHash desired)
  | .restamp =>
    modify fun host =>
      { host with records := restampSpecHashLabels digest faults.restamp id spec host.records }
  | .reuseAsIs => pure ()
  if faults.dropTask.isNone then
    modify fun host => { host with records := Records.ended host.records [id] }

/-- Whether the root is there to be reused. A failed lookup is logged, and the root created. -/
def reuseExistingRoot (faults : ContainerFaults) (cellName containerID : String)
    (rootSpec : ContainerSpec) : ProvisionM Bool := do
  let host ← get
  match faults.lookup, Records.find host.records containerID with
  | none, some record =>
    reuseExisting digest faults (.rootSpecHashDrift cellName) containerID rootSpec record
    return true
  | _, _ => return false

def reuseOrRefuseExistingChildContainer (faults : ContainerFaults)
    (ctrContainerID cellName : String) (spec : ContainerSpec) : ProvisionM Bool := do
  let host ← get
  match faults.lookup, Records.find host.records ctrContainerID with
  | some text, _ => throw (.checkContainer ctrContainerID text)
  | none, some record =>
    reuseExisting digest faults (.specHashDrift cellName ctrContainerID) ctrContainerID spec record
    return true
  | none, none => return false

def createContainer (fault : Option String) (id : String) (spec : ContainerSpec)
    (records : Records) : Except String Records :=
  match fault with
  | some text => .error text
  | none =>
    if trimSpace id = "" then .error ("identifier " ++ quoted id ++ " must match")
    else if id ∈ records.ids then .error ("container " ++ quoted id ++ ": already exists")
    else .ok ((id, stampedRecord digest spec) :: records)

/-- `ctr.StartContainer`: a task that runs already is kept. -/
def startTask (fault : Option String) (id : String) (records : Records) : Except String Records :=
  match fault with
  | some text => .error text
  | none =>
    match Records.find records id with
    | none => .error "container not found"
    | some _ => .ok (Records.update records id fun record => { record with running := true })

def startContainerTask (fault : Option String) (wrap : String → StartFailure) (id : String) :
    ProvisionM Unit := do
  onRecords wrap (startTask fault id)
  modify fun host => host.noted (.started id)

/-- Root containers on the host's network have nothing to attach. -/
def rootContainerWantsCNI (spec : ContainerSpec) : Bool := !spec.hostNetwork

def attachRoot (faults : Faults) (containerID cniConfigPath : String) : ProvisionM Unit := do
  faultAs .cniManager faults.cniManager
  faultAs (.cniConfig cniConfigPath) faults.cniConfig
  match faults.attach with
  | .failed text => throw (.attachRoot containerID text)
  | _ => pure ()

def startRootContainer (faults : Faults) (cellName containerID cniConfigPath : String)
    (rootSpec : ContainerSpec) : ProvisionM Unit := do
  let reuse ← reuseExistingRoot digest faults.root cellName containerID rootSpec
  faultAs .etcFiles faults.etcFiles
  if !reuse then
    onRecords (.createRoot containerID) (createContainer digest faults.root.create
      (orElse rootSpec.containerdID rootSpec.id) rootSpec)
  startContainerTask faults.root.start (.startRoot containerID) containerID
  if faults.rootPid = 0 then throw (.rootPid containerID)
  if rootContainerWantsCNI rootSpec then attachRoot faults containerID cniConfigPath

def startOtherContainer (faults : ContainerFaults) (cellName : String) (spec : ContainerSpec) :
    ProvisionM Unit := do
  if spec.containerdID = "" then throw (.emptyContainerdID spec.id)
  let id := spec.containerdID
  let reuse ← reuseOrRefuseExistingChildContainer digest faults id cellName spec
  faultAs (.prepareAttachable id) faults.prepare
  if !reuse then onRecords (.createContainer id) (createContainer digest faults.create id spec)
  faultAs (.chownTty id) faults.chownTty
  faultAs (.chownVolume id) faults.chownVolume
  startContainerTask faults.start (.startContainer id) id

/-- What `startCellLocked` does once it has set `provisionStarted`. -/
def provision (faults : Faults) (cellName containerID cniConfigPath : String)
    (rootSpec : ContainerSpec) (cell : Cell) : ProvisionM Unit := do
  let others := nonRootSpecs cell.spec.containers
  startRootContainer digest faults cellName containerID cniConfigPath rootSpec
  others.zipIdx.forM fun (spec, index) =>
    startOtherContainer digest (faults.containers index) cellName spec
  verifyCellTasksLiveAfterStart cellName containerID others (faults.firstPoll :: faults.laterPolls)

variable (host : ProvisionHost)

/-- Between reading the document and the idempotency guard: the network configuration of the space
    and the identifier of the root. -/
def startChecks (reach : Except String Unit) (cell : Cell) :
    Except StartError (String × String) := do
  if cell.spec.id = "" then throw (.runner .cellIDRequired)
  let cniConfigPath ←
    (resolveSpaceCNIConfigPath host cell.spec.realmName cell.spec.spaceName).mapError .provision
  reach.mapError fun text => .runner (.io text)
  let containerID ← (rootContainerdID (cellNames cell)).mapError .provision
  return (cniConfigPath, containerID)

/-- `PopulateAndPersistCellContainerStatuses` on a cell that is up; its failure is logged. -/
def persistReady (survey : Survey) (cell : Cell) : RunnerM Cell := do
  let host ← get
  let ready := populateCellContainerStatuses host.now survey (markCellReady cell)
  let _ ← attempt (updateCellMetadata ready)
  return ready

def startReasonCellFailed : String := "StartCellFailed"

/-- The provisioning with the deferred `markCellFailed` around it. -/
def provisionOrFail (reads : StartReads) (faults : Faults)
    (cellName containerID cniConfigPath : String) (rootSpec : ContainerSpec) (cell : Cell) :
    StartM Cell := fun begun =>
  let steps := provision digest faults cellName containerID cniConfigPath rootSpec cell
  match ending steps begun with
  | .ok _ => onCell (persistReady reads.survey cell) (finalState steps begun)
  | .error failure =>
    let cleanup := { reads.cleanup with message := truncateFailureMessage failure.text }
    (.error (.failed failure),
      finalState (onCell (markCellFailed cleanup cell startReasonCellFailed))
        (finalState steps begun))

def startLoaded (reads : StartReads) (faults : Faults) (cellName : String) (cell : Cell) :
    StartM Cell := do
  let (cniConfigPath, containerID) ← ofResult (startChecks host reads.reach cell)
  if ← cellTasksAllRunningFn faults.guard cell containerID then
    onCell (persistReady reads.survey cell)
  else
    let rootSpec ← ofResult ((ensureCellRootContainerSpec host cell).mapError .provision)
    provisionOrFail digest reads faults cellName containerID cniConfigPath rootSpec cell

def startCellLocked (reads : StartReads) (faults : Faults) (cell : Cell) : StartM Cell := do
  onCell (ofResult (requireCoordinates cell))
  let loaded ← onCell (rewording (.wrap "failed to get cell") (getCell reads.read cell))
  -- The environment of one run is no part of the document.
  startLoaded digest host reads faults (trimSpace cell.metadata.name)
    { loaded with spec.runtimeEnv := cell.spec.runtimeEnv }

end Containers

end Kukeon.Runner.StartFaults
