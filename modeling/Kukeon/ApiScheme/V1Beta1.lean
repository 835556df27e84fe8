import Kukeon.ModelHub.Cell

/-! # The persisted cell document

The `v1beta1` records of `pkg/api/model/v1beta1` that a cell document is made of: what a user
writes, and what the daemon stores as metadata. They mirror the internal model by hand, field by
field, and nothing but the converters ties the two together. The string and integer types that
the converters only cast (`VolumeKind`, `CellState`, `ContainerState`) are the internal ones.
-/

namespace Kukeon.V1Beta1

open ModelHub (Time Labels VolumeKind ContainerState CellState)

structure VolumeRef where
  name : String := ""
  realm : String := ""
  space : String := ""
  stack : String := ""
  deriving DecidableEq

structure VolumeMount where
  kind : VolumeKind := .unset
  source : String := ""
  target : String := ""
  volumeRef : Option VolumeRef := none
  readOnly : Bool := false
  sizeBytes : Int := 0
  mode : Nat := 0
  ensure : Bool := false
  deriving DecidableEq

structure ContainerSecretRef where
  name : String := ""
  realm : String := ""
  space : String := ""
  stack : String := ""
  cell : String := ""
  deriving DecidableEq

structure ContainerSecret where
  name : String := ""
  fromFile : String := ""
  fromEnv : String := ""
  secretRef : Option ContainerSecretRef := none
  mountPath : String := ""
  deriving DecidableEq

structure ContainerRepo where
  name : String := ""
  target : String := ""
  branch : String := ""
  ref : String := ""
  url : String := ""
  required : Bool := false
  deriving DecidableEq

structure GitIdentity where
  name : String := ""
  email : String := ""
  deriving DecidableEq

structure ContainerGit where
  author : Option GitIdentity := none
  committer : Option GitIdentity := none
  signingKey : String := ""
  sign : List String := []
  allowedSigners : String := ""
  deriving DecidableEq

structure TtyStage where
  script : String := ""
  runOn : String := ""
  deriving DecidableEq

structure ContainerTty where
  prompt : String := ""
  onInit : List TtyStage := []
  logFile : String := ""
  logLevel : String := ""
  deriving DecidableEq

structure ContainerCapabilities where
  drop : List String := []
  add : List String := []
  deriving DecidableEq

structure ContainerTmpfsMount where
  path : String := ""
  sizeBytes : Int := 0
  options : List String := []
  deriving DecidableEq

structure ContainerResources where
  memoryLimitBytes : Option Int := none
  cpuShares : Option Int := none
  pidsLimit : Option Int := none
  deriving DecidableEq

structure ContainerSpec where
  id : String := ""
  containerdID : String := ""
  realmID : String := ""
  spaceID : String := ""
  stackID : String := ""
  cellID : String := ""
  root : Bool := false
  image : String := ""
  command : String := ""
  args : List String := []
  workingDir : String := ""
  env : List String := []
  ports : List String := []
  volumes : List VolumeMount := []
  networks : List String := []
  networksAliases : List String := []
  privileged : Bool := false
  hostNetwork : Bool := false
  hostPID : Bool := false
  hostCgroup : Bool := false
  user : String := ""
  readOnlyRootFilesystem : Bool := false
  capabilities : Option ContainerCapabilities := none
  securityOpts : List String := []
  devices : List String := []
  tmpfs : List ContainerTmpfsMount := []
  resources : Option ContainerResources := none
  secrets : List ContainerSecret := []
  repos : List ContainerRepo := []
  git : Option ContainerGit := none
  cniConfigPath : String := ""
  restartPolicy : String := ""
  restartBackoffSeconds : Option Int := none
  restartMaxRetries : Option Int := none
  attachable : Bool := false
  tty : Option ContainerTty := none
  deriving DecidableEq

structure RepoStatus where
  name : String := ""
  target : String := ""
  state : String := ""
  commit : String := ""
  error : String := ""
  deriving DecidableEq

structure StageStatus where
  index : Int := 0
  state : String := ""
  error : String := ""
  hash : String := ""
  deriving DecidableEq

structure ContainerStatus where
  name : String := ""
  id : String := ""
  state : ContainerState := .pending
  createdAt : Time := 0
  restartCount : Int := 0
  restartTime : Time := 0
  startTime : Time := 0
  finishTime : Time := 0
  exitCode : Int := 0
  exitSignal : String := ""
  repos : List RepoStatus := []
  stages : List StageStatus := []
  deriving DecidableEq

structure CellMetadata where
  name : String := ""
  labels : Labels := ∅
  annotations : Labels := ∅
  generation : Int := 0
  deriving DecidableEq

structure CellTty where
  default : String := ""
  deriving DecidableEq

structure CellBindingRef where
  name : String := ""
  realm : String := ""
  space : String := ""
  stack : String := ""
  deriving DecidableEq

structure CellProvenance where
  bindingKind : String := ""
  bindingRef : CellBindingRef := {}
  params : Labels := ∅
  envOverrides : List String := []
  deriving DecidableEq

structure CellSpec where
  id : String := ""
  realmID : String := ""
  spaceID : String := ""
  stackID : String := ""
  rootContainerID : String := ""
  tty : Option CellTty := none
  containers : List ContainerSpec := []
  autoDelete : Bool := false
  nestedCgroupRuntime : Bool := false
  runtimeEnv : List String := []
  provenance : Option CellProvenance := none
  ignoreDiskPressure : Bool := false
  deriving DecidableEq

structure CellStatus where
  state : CellState := .pending
  cgroupPath : String := ""
  subtreeControllers : List String := []
  bridgeName : String := ""
  containers : List ContainerStatus := []
  readyObserved : Bool := false
  createdAt : Time := 0
  updatedAt : Time := 0
  readyAt : Time := 0
  reason : String := ""
  message : String := ""
  cgroupReady : Bool := false
  observedGeneration : Int := 0
  outOfSync : Bool := false
  outOfSyncReason : String := ""
  outOfSyncError : String := ""
  deriving DecidableEq

inductive Version where
  /-- An empty version, read as `v1beta1`. -/
  | unset
  | v1beta1
  | other (text : String)
  deriving DecidableEq

structure CellDoc where
  apiVersion : Version := .unset
  metadata : CellMetadata := {}
  spec : CellSpec := {}
  status : CellStatus := {}
  deriving DecidableEq

/-- `ContainerTty.IsEmpty`. -/
def ContainerTty.isEmpty : Option ContainerTty → Bool
  | none => true
  | some tty =>
    tty.prompt == "" && tty.logFile == "" && tty.logLevel == "" &&
      tty.onInit.all fun stage => stage.script == "" && stage.runOn == ""

structure CellBlueprintMetadata where
  name : String := ""
  realm : String := ""
  space : String := ""
  stack : String := ""
  labels : Labels := ∅

/-- A `${KEY}` variable. No default (`none`) is not the empty default. -/
structure CellBlueprintParameter where
  name : String := ""
  default : Option String := none
  required : Bool := false

structure BlueprintSecretSlot where
  name : String := ""
  mode : String := ""
  envName : String := ""
  mountPath : String := ""
  required : Bool := false

structure BlueprintContainer where
  id : String := ""
  root : Bool := false
  image : String := ""
  command : String := ""
  args : List String := []
  workingDir : String := ""
  env : List String := []
  ports : List String := []
  volumes : List VolumeMount := []
  networks : List String := []
  networksAliases : List String := []
  privileged : Bool := false
  hostNetwork : Bool := false
  hostPID : Bool := false
  hostCgroup : Bool := false
  user : String := ""
  readOnlyRootFilesystem : Bool := false
  capabilities : Option ContainerCapabilities := none
  securityOpts : List String := []
  devices : List String := []
  tmpfs : List ContainerTmpfsMount := []
  resources : Option ContainerResources := none
  repos : List ContainerRepo := []
  git : Option ContainerGit := none
  restartPolicy : String := ""
  attachable : Bool := false
  tty : Option ContainerTty := none
  secrets : List BlueprintSecretSlot := []

structure BlueprintCellSpec where
  tty : Option CellTty := none
  containers : List BlueprintContainer := []
  autoDelete : Bool := false
  nestedCgroupRuntime : Bool := false

structure CellBlueprintSpec where
  cellPrefix : String := ""
  parameters : List CellBlueprintParameter := []
  cell : BlueprintCellSpec := {}

structure CellBlueprintDoc where
  metadata : CellBlueprintMetadata := {}
  spec : CellBlueprintSpec := {}

structure CellConfigMetadata where
  name : String := ""
  realm : String := ""
  space : String := ""
  stack : String := ""
  labels : Labels := ∅

structure CellConfigRepoFill where
  url : String := ""
  branch : String := ""
  ref : String := ""

structure CellConfigSecretFill where
  secretRef : Option ContainerSecretRef := none

structure CellConfigSpec where
  cellPrefix : String := ""
  blueprint : CellBindingRef := {}
  values : Labels := ∅
  repos : GoMap String CellConfigRepoFill := ∅
  secrets : GoMap String CellConfigSecretFill := ∅

structure CellConfigDoc where
  metadata : CellConfigMetadata := {}
  spec : CellConfigSpec := {}

/-- `BindingKindConfig` and `BindingKindBlueprint`. -/
def bindingKindConfig : String := "config"

@[inherit_doc bindingKindConfig]
def bindingKindBlueprint : String := "blueprint"

end Kukeon.V1Beta1
