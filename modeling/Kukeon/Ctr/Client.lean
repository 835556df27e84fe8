import Kukeon.ModelHub.Space

/-! # The containerd client and its cache

`internal/ctr/cache.go`, `TaskStatus` and `ConvertContainerdStatusToContainerState` of
`internal/ctr/task.go` and `ExistsContainer` of `internal/ctr/container.go`. What containerd answers
to the calls of one status read is an input; the client keeps what it was told in `heard`.
-/

/-! ## The root container the runner makes, of `internal/ctr/container_utils.go` -/

namespace Kukeon.Ctr

open ModelHub GoText

def defaultRootContainerImage : String := "docker.io/library/busybox:latest"

def rootContainerPauseBinaryTarget : String := "/.kukeon/bin/kukepause"

def defaultRootContainerSpec (containerdID cellID realmID spaceID stackID cniConfigPath
    kukepauseHostPath : String) : ContainerSpec where
  id := "root"
  containerdID := containerdID
  cellName := cellID
  realmName := realmID
  spaceName := spaceID
  stackName := stackID
  root := true
  image := defaultRootContainerImage
  command := rootContainerPauseBinaryTarget
  volumes :=
    if kukepauseHostPath = "" then []
    else
      [ { kind := .bind
          source := kukepauseHostPath
          target := rootContainerPauseBinaryTarget
          readOnly := true } ]
  cniConfigPath := cniConfigPath

/-- A root container with the identity, image and command of the one the runner makes when a
    document has none. -/
def isSynthesizedRoot (spec : ContainerSpec) : Bool :=
  spec.root && spec.id == "root" && spec.image == defaultRootContainerImage &&
    spec.command == rootContainerPauseBinaryTarget

/-- The shape of both identifiers: trimmed coordinates joined by underscores, none of them empty. -/
def joinNames (names : List String) : Option String :=
  let trimmed := names.map trimSpace
  if trimmed.any (· == "") then none else some (String.intercalate "_" trimmed)

def buildContainerdID (spaceName stackName cellName containerName : String) : Option String :=
  joinNames [spaceName, stackName, cellName, containerName]

def buildRootContainerdID (spaceName stackName cellName : String) : Option String :=
  joinNames [spaceName, stackName, cellName, "root"]

/-- How a call to containerd fails, as far as `errdefs.IsNotFound` and its siblings tell. -/
inductive ContainerdError where
  | notFound
  | unavailable
  | deadlineExceeded
  | permissionDenied
  | canceled
  | other (text : String)
  deriving DecidableEq

/-- `containerd.ProcessStatus`. -/
inductive ProcessStatus where
  | running
  | created
  | stopped
  | paused
  | pausing
  | unknown
  | other (text : String)
  deriving DecidableEq

/-- `containerd.Status`. -/
structure Status where
  status : ProcessStatus
  exitStatus : UInt32 := 0
  exitTime : Time := 0
  deriving DecidableEq

structure Container where
  id : String
  deriving DecidableEq

structure Task where
  id : String
  pid : Nat
  deriving DecidableEq

/-- Errors of the client, each with the containerd error it wraps. -/
inductive ClientError where
  | emptyContainerID
  | containerNotFound (cause : ContainerdError)
  | taskNotFound (cause : ContainerdError)
  /-- Returned as containerd gave it. -/
  | call (cause : ContainerdError)
  | taskStatus (cause : ContainerdError)
  deriving DecidableEq

/-- `errors.Is(err, ErrTaskNotFound)`. -/
def ClientError.isTaskNotFound : ClientError → Bool
  | taskNotFound _ => true
  | _ => false

/-- The answers containerd has ready for one status read, in the order the calls are made. A call
    that the cache makes unnecessary is not asked. -/
structure Answers where
  existsContainer : Except ContainerdError Container
  loadContainer : Except ContainerdError Container
  task : Except ContainerdError Task
  status : Except ContainerdError Status
  deriving DecidableEq

inductive Exchange where
  | loadContainer (ns id : String) (answer : Except ContainerdError Container)
  | task (ns id : String) (answer : Except ContainerdError Task)
  | status (ns id : String) (answer : Except ContainerdError Status)
  deriving DecidableEq

/-- Containerd says that the container or its task does not exist, or that the task has stopped. -/
def Exchange.SaysGone : Exchange → Prop
  | loadContainer _ _ answer => answer = .error .notFound
  | task _ _ answer => answer = .error .notFound
  | status _ _ answer => ∃ report, answer = .ok report ∧ report.status = .stopped

/-- The call failed, for another reason than that there is nothing to find. -/
inductive Exchange.Fails : Exchange → Prop
  | loadContainer {ns id : String} {cause : ContainerdError} :
      cause ≠ .notFound → Fails (.loadContainer ns id (.error cause))
  | task {ns id : String} {cause : ContainerdError} :
      cause ≠ .notFound → Fails (.task ns id (.error cause))
  | status {ns id : String} {cause : ContainerdError} :
      cause ≠ .notFound → Fails (.status ns id (.error cause))

structure Client where
  containers : GoMap String Container := ∅
  tasks : GoMap String Task := ∅
  heard : List Exchange := []

def cacheKey (ns id : String) : String := ns ++ "/" ++ id

namespace Client

def hear (client : Client) (exchange : Exchange) : Client :=
  { client with heard := client.heard ++ [exchange] }

def storeContainer (client : Client) (ns id : String) (container : Container) : Client :=
  { client with containers := client.containers.insert (cacheKey ns id) container }

def storeTask (client : Client) (ns id : String) (task : Task) : Client :=
  { client with tasks := client.tasks.insert (cacheKey ns id) task }

@[simp] theorem heard_hear (client : Client) (exchange : Exchange) :
    (client.hear exchange).heard = client.heard ++ [exchange] := rfl

@[simp] theorem containers_hear (client : Client) (exchange : Exchange) :
    (client.hear exchange).containers = client.containers := rfl

@[simp] theorem tasks_hear (client : Client) (exchange : Exchange) :
    (client.hear exchange).tasks = client.tasks := rfl

@[simp] theorem heard_storeContainer (client : Client) (ns id : String)
    (container : Container) :
    (client.storeContainer ns id container).heard = client.heard := rfl

@[simp] theorem heard_storeTask (client : Client) (ns id : String) (task : Task) :
    (client.storeTask ns id task).heard = client.heard := rfl

/-- From the cache, or from containerd. Only a not-found answer is wrapped as such. -/
def loadContainer (answers : Answers) (ns id : String) (client : Client) :
    Except ClientError Container × Client :=
  match client.containers.lookup (cacheKey ns id) with
  | some container => (.ok container, client)
  | none =>
    let client := client.hear (.loadContainer ns id answers.loadContainer)
    match answers.loadContainer with
    | .error .notFound => (.error (.containerNotFound .notFound), client)
    | .error cause => (.error (.call cause), client)
    | .ok container => (.ok container, client.storeContainer ns id container)

/-- From the cache, or from the container. Every failure is wrapped as task not found. -/
def loadTask (answers : Answers) (ns id : String) (client : Client) :
    Except ClientError Task × Client :=
  match client.tasks.lookup (cacheKey ns id) with
  | some task => (.ok task, client)
  | none =>
    match client.loadContainer answers ns id with
    | (.error err, client) => (.error err, client)
    | (.ok container, client) =>
      let client := client.hear (.task ns container.id answers.task)
      match answers.task with
      | .error cause => (.error (.taskNotFound cause), client)
      | .ok task => (.ok task, client.storeTask ns id task)

def taskStatus (answers : Answers) (ns id : String) (client : Client) :
    Except ClientError Status × Client :=
  if id = "" then (.error .emptyContainerID, client)
  else
    match client.loadTask answers ns id with
    | (.error err, client) => (.error err, client)
    | (.ok task, client) =>
      let client := client.hear (.status ns task.id answers.status)
      match answers.status with
      | .error cause => (.error (.taskStatus cause), client)
      | .ok report => (.ok report, client)

def existsContainer (answers : Answers) (ns id : String) (client : Client) :
    Except ClientError Bool × Client :=
  if id = "" then (.error .emptyContainerID, client)
  else
    let client := client.hear (.loadContainer ns id answers.existsContainer)
    match answers.existsContainer with
    | .error .notFound => (.ok false, client)
    | .error cause => (.error (.call cause), client)
    | .ok _ => (.ok true, client)

/-! What an answer of the client says about the calls behind it. -/

variable {answers : Answers} {ns id : String} {client next : Client}

theorem existsContainer_false (hr : client.existsContainer answers ns id = (.ok false, next)) :
    .loadContainer ns id (.error .notFound) ∈ next.heard := by
  unfold existsContainer at hr
  grind [hear]

theorem existsContainer_true (hr : client.existsContainer answers ns id = (.ok true, next)) :
    id ≠ "" ∧ (∃ container, answers.existsContainer = .ok container) ∧
      next.tasks = client.tasks ∧ next.containers = client.containers := by
  unfold existsContainer at hr
  grind [hear]

theorem taskStatus_ok {report : Status}
    (hr : client.taskStatus answers ns id = (.ok report, next)) :
    ∃ task, .status ns task (.ok report) ∈ next.heard := by
  unfold taskStatus at hr
  grind [hear]

theorem taskStatus_report {report : Status}
    (hr : client.taskStatus answers ns id = (.ok report, next)) :
    answers.status = .ok report := by
  unfold taskStatus at hr
  grind

/-- A missing task is reported for every failure of the call that asks for it. -/
theorem taskStatus_taskNotFound {err : ClientError}
    (hr : client.taskStatus answers ns id = (.error err, next))
    (hn : err.isTaskNotFound = true) :
    ∃ cause container, err = .taskNotFound cause ∧ answers.task = .error cause ∧
      .task ns container (.error cause) ∈ next.heard ∧ client.tasks.lookup (cacheKey ns id) = none ∧
      (client.containers.lookup (cacheKey ns id) = none →
        ∃ container, answers.loadContainer = .ok container) := by
  unfold taskStatus loadTask loadContainer at hr
  grind [hear, storeContainer, storeTask, ClientError.isTaskNotFound]

theorem existsContainer_answered {found : Bool}
    (hr : client.existsContainer answers ns id = (.ok found, next)) :
    ∀ exchange ∈ next.heard, exchange ∈ client.heard ∨ ¬ exchange.Fails := by
  unfold existsContainer at hr
  grind [hear, cases Exchange.Fails]

theorem loadContainer_answered {container : Container}
    (hr : client.loadContainer answers ns id = (.ok container, next)) :
    ∀ exchange ∈ next.heard, exchange ∈ client.heard ∨ ¬ exchange.Fails := by
  unfold loadContainer at hr
  grind [hear, storeContainer, cases Exchange.Fails]

theorem loadContainer_error {err : ClientError}
    (hr : client.loadContainer answers ns id = (.error err, next)) :
    err.isTaskNotFound = false := by
  unfold loadContainer at hr
  grind [ClientError.isTaskNotFound]

/-- No call has failed when there is an answer, or none because there is no task. -/
theorem loadTask_answered {answer : Except ClientError Task}
    (hr : client.loadTask answers ns id = (answer, next))
    (hk : ∀ err, answer = .error err → err = .taskNotFound .notFound) :
    ∀ exchange ∈ next.heard, exchange ∈ client.heard ∨ ¬ exchange.Fails := by
  unfold loadTask at hr
  cases hc : client.tasks.lookup (cacheKey ns id) with
  | some task => grind
  | none =>
    rcases hl : client.loadContainer answers ns id with ⟨err | container, loaded⟩
    · have ho := loadContainer_error hl
      grind [ClientError.isTaskNotFound]
    · have hb := loadContainer_answered hl
      grind [hear, storeTask, cases Exchange.Fails]

theorem taskStatus_answered {answer : Except ClientError Status}
    (hr : client.taskStatus answers ns id = (answer, next))
    (hk : ∀ err, answer = .error err → err = .taskNotFound .notFound) :
    ∀ exchange ∈ next.heard, exchange ∈ client.heard ∨ ¬ exchange.Fails := by
  unfold taskStatus at hr
  rcases hl : client.loadTask answers ns id with ⟨err | task, loaded⟩
  · have hb := loadTask_answered hl
    grind
  · have hb := loadTask_answered hl nofun
    grind [hear, cases Exchange.Fails]

end Client

def convertContainerdStatusToContainerState (report : Status) : ContainerState :=
  match report.status with
  | .running => .ready
  | .stopped => if report.exitStatus ≠ 0 then .error else .exited
  | .created => .pending
  | .unknown => .unknown
  | .paused => .paused
  | .pausing => .pausing
  | .other _ => .unknown

end Kukeon.Ctr
