import Kukeon.Lib.GoMap
import Kukeon.Lib.GoText

/-! # Cell and container records of the internal model

The records of `internal/modelhub/cell.go` and `container.go`. Every field default is the zero value
of the Go field. Slices are lists: a nil and an empty slice are not told apart, since no modelled
function does so. Pointers to records are options of the record they point to, with one exception:
`VolumeMount` is compared in the source with `==`, which compares the `VolumeRef` pointer by address,
so that pointer keeps its address here.
-/

namespace Kukeon.ModelHub

/-- An instant; `0` is the zero `time.Time`. -/
abbrev Time := Nat

/-- The identity of an allocation: the decoding of a document that made it, and the
    container and mount of that document it was made for. -/
structure Addr where
  decode : Nat := 0
  container : Nat := 0
  mount : Nat := 0
  deriving DecidableEq

/-- A non-nil pointer: where it points, and the value memory holds there. -/
structure Ptr (α : Type) where
  addr : Addr := {}
  val : α
  deriving DecidableEq

structure VolumeRef where
  name : String := ""
  realm : String := ""
  space : String := ""
  stack : String := ""
  deriving DecidableEq

inductive VolumeKind where
  /-- The empty string, which the runner reads as `bind`. -/
  | unset
  | bind
  | tmpfs
  | volume
  /-- Any other text a document can carry. -/
  | other (text : String)
  deriving DecidableEq

structure VolumeMount where
  kind : VolumeKind := .unset
  source : String := ""
  target : String := ""
  volumeRef : Option (Ptr VolumeRef) := none
  readOnly : Bool := false
  sizeBytes : Int := 0
  mode : Nat := 0
  ensure : Bool := false
  deriving DecidableEq

structure ContainerSecretRef where
  name : String := ""
  realm : String := ""
  space : String := ""
  stack : String := ""
  cell : String := ""
  deriving DecidableEq

structure ContainerSecret where
  name : String := ""
  fromFile : String := ""
  fromEnv : String := ""
  secretRef : Option ContainerSecretRef := none
  mountPath : String := ""
  deriving DecidableEq

structure ContainerRepo where
  name : String := ""
  target : String := ""
  branch : String := ""
  ref : String := ""
  url : String := ""
  required : Bool := false
  deriving DecidableEq

structure GitIdentity where
  name : String := ""
  email : String := ""
  deriving DecidableEq

structure ContainerGit where
  author : Option GitIdentity := none
  committer : Option GitIdentity := none
  signingKey : String := ""
  sign : List String := []
  allowedSigners : String := ""
  deriving DecidableEq

structure TtyStage where
  script : String := ""
  runOn : String := ""
  deriving DecidableEq

structure ContainerTty where
  prompt : String := ""
  onInit : List TtyStage := []
  logFile : String := ""
  logLevel : String := ""
  deriving DecidableEq

structure ContainerCapabilities where
  drop : List String := []
  add : List String := []
  deriving DecidableEq

structure ContainerTmpfsMount where
  path : String := ""
  sizeBytes : Int := 0
  options : List String := []
  deriving DecidableEq

structure ContainerResources where
  memoryLimitBytes : Option Int := none
  cpuShares : Option Int := none
  pidsLimit : Option Int := none
  deriving DecidableEq

/-- What a document, or the runner on its behalf, asks of one container. -/
structure ContainerSpec where
  id : String := ""
  containerdID : String := ""
  realmName : String := ""
  spaceName : String := ""
  stackName : String := ""
  cellName : String := ""
  root : Bool := false
  image : String := ""
  command : String := ""
  args : List String := []
  workingDir : String := ""
  env : List String := []
  ports : List String := []
  volumes : List VolumeMount := []
  networks : List String := []
  networksAliases : List String := []
  privileged : Bool := false
  hostNetwork : Bool := false
  hostPID : Bool := false
  hostCgroup : Bool := false
  nestedCgroupRuntime : Bool := false
  user : String := ""
  readOnlyRootFilesystem : Bool := false
  capabilities : Option ContainerCapabilities := none
  securityOpts : List String := []
  devices : List String := []
  tmpfs : List ContainerTmpfsMount := []
  resources : Option ContainerResources := none
  secrets : List ContainerSecret := []
  repos : List ContainerRepo := []
  git : Option ContainerGit := none
  cniConfigPath : String := ""
  restartPolicy : String := ""
  restartBackoffSeconds : Option Int := none
  restartMaxRetries : Option Int := none
  attachable : Bool := false
  tty : Option ContainerTty := none
  cellCgroupPath : String := ""
  etcHostsPath : String := ""
  etcHostnamePath : String := ""
  deriving DecidableEq

def restartPolicyAlways : String := "always"

def restartPolicyOnFailure : String := "on-failure"

def restartPolicyNever : String := "never"

inductive ContainerState where
  | pending
  | ready
  | stopped
  | paused
  | pausing
  | failed
  | unknown
  | notCreated
  | exited
  | error
  deriving DecidableEq

structure RepoStatus where
  name : String := ""
  target : String := ""
  state : String := ""
  commit : String := ""
  error : String := ""
  deriving DecidableEq

structure StageStatus where
  index : Int := 0
  state : String := ""
  error : String := ""
  hash : String := ""
  deriving DecidableEq

structure ContainerStatus where
  name : String := ""
  id : String := ""
  createdAt : Time := 0
  state : ContainerState := .pending
  restartCount : Int := 0
  restartTime : Time := 0
  startTime : Time := 0
  finishTime : Time := 0
  exitCode : Int := 0
  exitSignal : String := ""
  repos : List RepoStatus := []
  stages : List StageStatus := []
  deriving DecidableEq

/-- `ContainerTty.IsEmpty`: nil, or no prompt, log setting or non-blank stage. -/
def ContainerTty.isEmpty : Option ContainerTty → Bool
  | none => true
  | some tty =>
    tty.prompt == "" && tty.logFile == "" && tty.logLevel == "" &&
      tty.onInit.all fun stage => stage.script == "" && stage.runOn == ""

/-! ## Values behind pointers

Forgetting addresses leaves what two in-memory records have in common when they were
decoded from the same text. -/

/-- The mount with its reference moved to the null allocation, so that equality compares what
    the pointers point to. -/
def VolumeMount.deref (mount : VolumeMount) : VolumeMount :=
  { mount with volumeRef := mount.volumeRef.map fun ref => { val := ref.val } }

def ContainerSpec.deref (spec : ContainerSpec) : ContainerSpec :=
  { spec with volumes := spec.volumes.map VolumeMount.deref }

abbrev Labels := GoMap String String

structure CellMetadata where
  name : String := ""
  labels : Labels := ∅
  annotations : Labels := ∅
  generation : Int := 0
  deriving DecidableEq

structure CellTty where
  default : String := ""
  deriving DecidableEq

structure CellBindingRef where
  name : String := ""
  realm : String := ""
  space : String := ""
  stack : String := ""
  deriving DecidableEq

structure CellProvenance where
  bindingKind : String := ""
  bindingRef : CellBindingRef := {}
  params : Labels := ∅
  envOverrides : List String := []
  deriving DecidableEq

structure CellSpec where
  id : String := ""
  realmName : String := ""
  spaceName : String := ""
  stackName : String := ""
  rootContainerID : String := ""
  tty : Option CellTty := none
  containers : List ContainerSpec := []
  autoDelete : Bool := false
  nestedCgroupRuntime : Bool := false
  runtimeEnv : List String := []
  provenance : Option CellProvenance := none
  ignoreDiskPressure : Bool := false
  deriving DecidableEq

inductive CellState where
  | pending
  | ready
  | stopped
  | failed
  | unknown
  | exited
  | error
  | degraded
  deriving Repr, DecidableEq

structure CellStatus where
  state : CellState := .pending
  cgroupPath : String := ""
  subtreeControllers : List String := []
  bridgeName : String := ""
  containers : List ContainerStatus := []
  readyObserved : Bool := false
  createdAt : Time := 0
  updatedAt : Time := 0
  readyAt : Time := 0
  reason : String := ""
  message : String := ""
  cgroupReady : Bool := false
  observedGeneration : Int := 0
  outOfSync : Bool := false
  outOfSyncReason : String := ""
  outOfSyncError : String := ""
  deriving DecidableEq

structure Cell where
  metadata : CellMetadata := {}
  spec : CellSpec := {}
  status : CellStatus := {}
  deriving DecidableEq

def CellSpec.deref (spec : CellSpec) : CellSpec :=
  { spec with containers := spec.containers.map ContainerSpec.deref }

def managedLabelSuffix : String := ".kukeon.io"

/-- A label key owned by the controller rather than by the author of the document. -/
def isManagedLabel (key : String) : Bool := GoText.hasSuffix key managedLabelSuffix

end Kukeon.ModelHub
