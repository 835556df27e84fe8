import Kukeon.ModelHub.Cell

/-! # Space records of the internal model

The records of `internal/modelhub/space.go`, the inheritance of container defaults from
`internal/modelhub/merge.go`, and the records of `realm.go` and `stack.go`.
-/

namespace Kukeon.ModelHub

inductive EgressDefault where
  | unset
  | allow
  | deny
  | other (text : String)
  deriving DecidableEq

structure EgressAllowRule where
  host : String := ""
  cidr : String := ""
  ports : List Int := []
  deriving DecidableEq

structure EgressPolicy where
  default : EgressDefault := .unset
  allow : List EgressAllowRule := []
  deriving DecidableEq

structure SpaceNetwork where
  egress : Option EgressPolicy := none
  deriving DecidableEq

structure SpaceContainerDefaults where
  user : String := ""
  readOnlyRootFilesystem : Option Bool := none
  capabilities : Option ContainerCapabilities := none
  securityOpts : List String := []
  tmpfs : List ContainerTmpfsMount := []
  resources : Option ContainerResources := none
  deriving DecidableEq

structure SpaceDefaults where
  container : Option SpaceContainerDefaults := none
  deriving DecidableEq

structure SpaceMetadata where
  name : String := ""
  labels : Labels := ∅
  generation : Int := 0
  deriving DecidableEq

structure SpaceSpec where
  realmName : String := ""
  cniConfigPath : String := ""
  network : Option SpaceNetwork := none
  defaults : Option SpaceDefaults := none
  deriving DecidableEq

inductive SpaceState where
  | pending
  | creating
  | ready
  | deleting
  | failed
  | unknown
  deriving Repr, DecidableEq

structure SpaceStatus where
  state : SpaceState := .pending
  cgroupPath : String := ""
  subtreeControllers : List String := []
  createdAt : Time := 0
  updatedAt : Time := 0
  readyAt : Time := 0
  reason : String := ""
  message : String := ""
  cgroupReady : Bool := false
  observedGeneration : Int := 0
  deriving DecidableEq

structure Space where
  metadata : SpaceMetadata := {}
  spec : SpaceSpec := {}
  status : SpaceStatus := {}
  deriving DecidableEq

/-- The inherited container envelope, when the space declares one. -/
def Space.containerDefaults (space : Space) : Option SpaceContainerDefaults :=
  space.spec.defaults.bind SpaceDefaults.container

/-- The body of `ApplySpaceDefaultsToContainer` once the defaults are known to exist: a field
    the container leaves at its zero value takes the inherited one. -/
def SpaceContainerDefaults.mergeInto (defaults : SpaceContainerDefaults)
    (container : ContainerSpec) : ContainerSpec :=
  { container with
    user := if container.user = "" then defaults.user else container.user
    readOnlyRootFilesystem :=
      if container.readOnlyRootFilesystem then true
      else defaults.readOnlyRootFilesystem.getD container.readOnlyRootFilesystem
    capabilities := container.capabilities.or defaults.capabilities
    securityOpts :=
      if container.securityOpts = [] then defaults.securityOpts else container.securityOpts
    tmpfs := if container.tmpfs = [] then defaults.tmpfs else container.tmpfs
    resources := container.resources.or defaults.resources }

def applySpaceDefaultsToContainer (space : Space) (container : ContainerSpec) : ContainerSpec :=
  match space.containerDefaults with
  | none => container
  | some defaults => defaults.mergeInto container

structure RegistryCredentials where
  username : String := ""
  password : String := ""
  serverAddress : String := ""
  deriving DecidableEq

structure RealmMetadata where
  name : String := ""
  labels : Labels := ∅
  generation : Int := 0
  deriving DecidableEq

structure RealmSpec where
  containerdNamespace : String := ""
  registryCredentials : List RegistryCredentials := []
  deriving DecidableEq

inductive RealmState where
  | pending
  | creating
  | ready
  | deleting
  | failed
  | unknown
  deriving Repr, DecidableEq

structure RealmStatus where
  state : RealmState := .pending
  cgroupPath : String := ""
  subtreeControllers : List String := []
  createdAt : Time := 0
  updatedAt : Time := 0
  readyAt : Time := 0
  reason : String := ""
  message : String := ""
  cgroupReady : Bool := false
  containerdNamespaceReady : Bool := false
  observedGeneration : Int := 0
  deriving DecidableEq

structure Realm where
  metadata : RealmMetadata := {}
  spec : RealmSpec := {}
  status : RealmStatus := {}
  deriving DecidableEq

structure StackMetadata where
  name : String := ""
  labels : Labels := ∅
  generation : Int := 0
  deriving DecidableEq

structure StackSpec where
  id : String := ""
  realmName : String := ""
  spaceName : String := ""
  deriving DecidableEq

inductive StackState where
  | pending
  | ready
  | failed
  | unknown
  deriving Repr, DecidableEq

structure StackStatus where
  state : StackState := .pending
  cgroupPath : String := ""
  subtreeControllers : List String := []
  createdAt : Time := 0
  updatedAt : Time := 0
  readyAt : Time := 0
  reason : String := ""
  message : String := ""
  cgroupReady : Bool := false
  observedGeneration : Int := 0
  deriving DecidableEq

structure Stack where
  metadata : StackMetadata := {}
  spec : StackSpec := {}
  status : StackStatus := {}
  deriving DecidableEq

end Kukeon.ModelHub
